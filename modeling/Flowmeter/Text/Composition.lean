import Flowmeter.Text.Combining
import Flowmeter.Text.Decomposition

/-!
# Normal forms

A text can be written with composed characters or with their parts. In its normal form it is
taken apart as far as possible, marks are put into the order of their classes, and then every
mark that its character takes is composed with it again (`normalForm`). Only marks between
which and the character nothing of their class or a later one stands are taken.

What characters are made of is a parameter, since normal forms differ in it.
-/

set_option autoImplicit false

namespace Flowmeter.Text

/-! ## Korean syllables -/

/-- The numbers of the first syllable, and of the first initial, medial and final, of which the
    last stands for none. -/
def firstSyllable : Nat := 0xAC00
@[inherit_doc firstSyllable] def firstInitial : Nat := 0x1100
@[inherit_doc firstSyllable] def firstMedial : Nat := 0x1161
@[inherit_doc firstSyllable] def firstFinal : Nat := 0x11A7

/-- How many initials, medials and finals there are, no final included. -/
def initials : Nat := 19
@[inherit_doc initials] def medials : Nat := 21
@[inherit_doc initials] def finals : Nat := 28

/-- The parts of a syllable. -/
def syllableParts? (n : Nat) : Option (List Nat) :=
  let place := n - firstSyllable
  if n < firstSyllable || initials * medials * finals ≤ place then none
  else
    let final := place % finals
    some ([firstInitial + place / (medials * finals), firstMedial + place / finals % medials] ++
      if final = 0 then [] else [firstFinal + final])

/-- The syllable that two parts begin or end. -/
def syllable? (a b : Nat) : Option Nat :=
  if firstInitial ≤ a && a < firstInitial + initials && firstMedial ≤ b && b < firstMedial + medials
  then some (firstSyllable + ((a - firstInitial) * medials + (b - firstMedial)) * finals)
  else if firstSyllable ≤ a && a < firstSyllable + initials * medials * finals &&
      (a - firstSyllable) % finals == 0 && firstFinal < b && b < firstFinal + finals
  then some (a + (b - firstFinal))
  else none

/-! ## Taking apart -/

/-- What a code point is made of in one step. -/
abbrev Parts := Nat → Option (List Nat)

/-- Canonical parts: those that a character is the same as. -/
def canonical : Parts := CodeTable.find? canonicalParts

/-- Compatible parts: the canonical ones, and those that a character is only compatible with. -/
def compatible : Parts := fun n =>
  CodeTable.find? canonicalParts n <|> CodeTable.find? compatibleParts n

/-- A code point taken apart as far as possible. The fuel bounds the number of steps to the
    last parts. -/
def takeApart (parts : Parts) : Nat → Nat → List Nat
  | 0, n => [n]
  | fuel + 1, n =>
      match syllableParts? n with
      | some ns => ns
      | none =>
          match parts n with
          | some ns => ns.flatMap (takeApart parts fuel)
          | none => [n]

/-- No character takes more steps than these to the last parts. -/
def mostSteps : Nat := 8

/-! ## Order -/

/-- A code point put in front of others, behind the marks of earlier classes. -/
def putInOrder (n : Nat) : List Nat → List Nat
  | [] => [n]
  | m :: rest =>
      if combiningClass m != 0 && combiningClass m < combiningClass n then m :: putInOrder n rest
      else n :: m :: rest

/-- Code points with the marks in the order of their classes. -/
def inOrder (ns : List Nat) : List Nat :=
  ns.foldr putInOrder []

/-! ## Composing -/

/-- The characters that are the same as two others and are not composed of them. -/
def uncomposedRanges : Array (Nat × Nat) := CodeTable.ranges [
  "344 958-95F 9DC-9DD 9DF A33 A36 A59-A5B A5E B5C-B5D F43 F4D F52 F57 F5C F69 F73 F75-F76 F78",
  "F81 F93 F9D FA2 FA7 FAC FB9 2ADC FB1D FB1F FB2A-FB36 FB38-FB3C FB3E FB40-FB41 FB43-FB44",
  "FB46-FB4E 1D15E-1D164 1D1BB-1D1C0"]

/-- The characters that are composed of two others, and those. -/
def composites : Array (Nat × Nat × Nat) :=
  canonicalParts.flatMap fun run =>
    run.words.zipIdx.filterMap fun (parts, i) =>
      match parts with
      | [a, b] =>
          let n := run.first + i
          if CodeTable.contains uncomposedRanges n then none else some (a, b, n)
      | _ => none

/-- What two code points compose. -/
def composite? (a b : Nat) : Option Nat :=
  syllable? a b <|> (composites.find? (fun c => c.1 == a && c.2.1 == b)).map (·.2.2)

/-- The state of composing: what is finished, the last in front, the character that takes marks,
    and the marks after it that it has not taken, the last in front. -/
structure Composing where
  finished : List Nat
  base : Nat
  marks : List Nat

namespace Composing

/-- All code points in order. -/
def all (s : Composing) : List Nat :=
  s.finished.reverse ++ s.base :: s.marks.reverse

def step (s : Composing) (n : Nat) : Composing :=
  let kind := combiningClass n
  let blocked := match s.marks with
    | [] => false
    | last :: _ => kind ≤ combiningClass last
  match if blocked then none else composite? s.base n with
  | some composed => { s with base := composed }
  | none =>
      if kind = 0 then ⟨s.marks ++ s.base :: s.finished, n, []⟩
      else { s with marks := n :: s.marks }

end Composing

/-- Code points composed as far as possible. -/
def compose : List Nat → List Nat
  | [] => []
  | n :: rest => (rest.foldl Composing.step ⟨[], n, []⟩).all

/-- The normal form of code points. -/
def normalForm (parts : Parts) (ns : List Nat) : List Nat :=
  compose (inOrder (ns.flatMap (takeApart parts mostSteps)))

end Flowmeter.Text
