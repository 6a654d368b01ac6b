import Flowmeter.Text.Blank
import Flowmeter.Text.Digit

/-!
# Numeric hosts

A host can be spelt as the number of an interface, of 32 bits or of 128. The short kind is one
to four numbers with points between them, each decimal, octal or hexadecimal, the last of which
fills all bytes that are left. The long kind is eight groups of hexadecimal digits with colons
between them; two colons stand for the groups of noughts that are left out, and the last two
groups may be written in the short way. A long number that only wraps a short one is the same
host (`ofGroups`).
-/

set_option autoImplicit false

namespace Flowmeter

open Flowmeter.Text

/-- The number of an interface. -/
inductive NumericHost where
  | short (n : Nat)
  | long (n : Nat)
deriving DecidableEq, Repr

namespace NumericHost

/-! ## Short numbers -/

/-- The number that digits of a base spell, if there are any and all are below the base. -/
def ofDigits? (base : Nat) (cs : List Char) : Option Nat :=
  if cs.isEmpty then none
  else (cs.mapM hexDigitValue?).bind fun digits =>
    if digits.all (· < base) then some (digits.foldl (fun n d => base * n + d) 0) else none

/-- A number with its base: hexadecimal behind `0x`, octal behind a nought. -/
def readNumber : List Char → Option Nat
  | '0' :: 'x' :: cs | '0' :: 'X' :: cs => ofDigits? 16 cs
  | ['0'] => some 0
  | '0' :: cs => ofDigits? 8 cs
  | cs => ofDigits? 10 cs

/-- The number of 256s in a number of bytes. -/
def bytesBound (bytes : Nat) : Nat := Nat.pow 256 bytes

/-- The number of numbers that take a byte each, the last of which fills `left` bytes. -/
def joinBytes : Nat → List Nat → Option Nat
  | _, [] => none
  | left, [n] => if n < bytesBound left then some n else none
  | 0, _ | 1, _ => none
  | left + 2, n :: rest =>
      if n < 256 then (joinBytes (left + 1) rest).map (n * bytesBound (left + 1) + ·) else none

/-- The short number that a text spells. -/
def readShort (cs : List Char) : Option Nat :=
  ((pieces (· == '.') cs).mapM readNumber).bind (joinBytes 4)

/-! ## Long numbers -/

/-- A group of up to four hexadecimal digits. -/
def readGroup (cs : List Char) : Option (List Nat) :=
  if 4 < cs.length then none else (ofDigits? 16 cs).map ([·])

/-- A number below 256 without noughts in front. -/
def readByte (cs : List Char) : Option Nat :=
  if cs.head? = some '0' ∧ 1 < cs.length then none
  else (ofDigits? 10 cs).filter (· < 256)

/-- Two groups that are written as four decimal numbers. -/
def readBytes (cs : List Char) : Option (List Nat) :=
  match (pieces (· == '.') cs).mapM readByte with
  | some [a, b, c, d] => some [256 * a + b, 256 * c + d]
  | _ => none

/-- The groups of pieces; only the last may be written in the short way. -/
def readPieces : List (List Char) → Option (List Nat)
  | [] => some []
  | [last] => if last.contains '.' then readBytes last else readGroup last
  | piece :: rest => do
      let group ← readGroup piece
      return group ++ (← readPieces rest)

/-- The groups of a text with colons between them, none if it is empty. -/
def readGroups (cs : List Char) : Option (List Nat) :=
  if cs.isEmpty then some [] else readPieces (pieces (· == ':') cs)

/-- What stands before the first two colons in a row, and what follows them. -/
def cutAtGap : List Char → List Char × Option (List Char)
  | ':' :: ':' :: rest => ([], some rest)
  | [] => ([], none)
  | c :: rest => let (before, after) := cutAtGap rest; (c :: before, after)

/-- The groups that a text stands for, with the noughts that it leaves out. -/
def allGroups (cs : List Char) : Option (List Nat) :=
  match cutAtGap cs with
  | (_, none) => (readGroups cs).filter (·.length == 8)
  | (before, some after) => do
      if before.contains '.' then none
      let front ← readGroups before
      let back ← readGroups after
      if front.length + back.length < 8 then
        some (front ++ List.replicate (8 - front.length - back.length) 0 ++ back)
      else none

def joinGroups (groups : List Nat) : Nat :=
  groups.foldl (fun n group => 65536 * n + group) 0

/-- The host of groups: a short one if they only wrap it. -/
def ofGroups : List Nat → NumericHost
  | [0, 0, 0, 0, 0, 0xFFFF, a, b] => .short (joinGroups [a, b])
  | groups => .long (joinGroups groups)

/-! ## Interfaces -/

/-- The interface that reaches only this machine. -/
def loopback : NumericHost := .short 0x7F000001

def broadcast : NumericHost := .short 0xFFFFFFFF

/-- The first group of a long number. -/
def firstGroup (n : Nat) : Nat := n / Nat.pow 65536 7

/-- Whether a number stands for many machines, in the long kind. -/
def isOfMany : NumericHost → Bool
  | .short _ => false
  | .long n => firstGroup n / 256 == 0xFF

/-- Whether a number is only valid on a link, in the long kind. -/
def isOfLink : NumericHost → Bool
  | .short _ => false
  | .long n =>
      let group := firstGroup n
      group / 64 == 0x3FA || (group / 256 == 0xFF && group % 16 == 2)

/-- Whether an interface is one of this machine. Without a network it has no numbers that it
    could tell others from, so any short one is taken for its own; of the long ones only that
    of every interface at once is. -/
def isHere : NumericHost → Bool
  | .short _ => true
  | .long n => n == 0

/-- Whether listening on an interface includes listening on another. The long form of every
    interface includes the short ones. -/
def covers : NumericHost → NumericHost → Bool
  | .long 0, _ => true
  | .short 0, .short _ => true
  | a, b => a == b

end NumericHost

end Flowmeter
