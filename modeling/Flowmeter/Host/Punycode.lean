/-!
# Punycode

A text is written in ASCII by its ASCII characters followed by where the others go. Those are
put in one after another, in the order of their numbers and of their places: each is written
as the number of characters and places that are passed over from the one before it, in digits
of base 36 whose weights adapt to what has been written.
-/

set_option autoImplicit false

namespace Flowmeter.Host.Punycode

/-! ## Numbers -/

/-- The digit of a value below 36. -/
def digit (n : Nat) : Char :=
  if n < 26 then Char.ofNat (0x61 + n) else Char.ofNat (0x30 + n - 26)

/-- The value of a digit in either case. -/
def digitValue? (c : Char) : Option Nat :=
  let n := c.toNat
  if 0x61 ≤ n && n ≤ 0x7A then some (n - 0x61)
  else if 0x41 ≤ n && n ≤ 0x5A then some (n - 0x41)
  else if 0x30 ≤ n && n ≤ 0x39 then some (n - 0x30 + 26)
  else none

/-- The least value of a digit that is not the last, by its place times 36. -/
def threshold (place bias : Nat) : Nat :=
  if place ≤ bias then 1 else min 26 (place - bias)

theorem threshold_pos (place bias : Nat) : 1 ≤ threshold place bias := by
  unfold threshold
  split <;> omega

/-- The digits of a number from a place on. -/
def digitsFrom (bias place n : Nat) : List Char :=
  let t := threshold place bias
  if n < t then [digit n]
  else digit (t + (n - t) % (36 - t)) :: digitsFrom bias (place + 36) ((n - t) / (36 - t))
termination_by n
decreasing_by
  have := threshold_pos place bias
  have := Nat.div_le_self (n - threshold place bias) (36 - threshold place bias)
  omega

/-- The number that begins a text, from a place and its weight on, and what follows it. -/
def numberFrom (bias : Nat) : Nat → Nat → List Char → Option (Nat × List Char)
  | _, _, [] => none
  | place, weight, c :: rest => do
      let value ← digitValue? c
      let t := threshold place bias
      if value < t then return (value * weight, rest)
      else
        let (n, rest) ← numberFrom bias (place + 36) (weight * (36 - t)) rest
        return (value * weight + n, rest)

/-- How often a number is divided by 35 until it is at most 455, and what is left. -/
def scaleDown (n : Nat) : Nat × Nat :=
  if 455 < n then
    let (times, left) := scaleDown (n / 35)
    (times + 1, left)
  else (0, n)
termination_by n
decreasing_by exact Nat.div_lt_self (by omega) (by omega)

/-- The bias after a number, given how many characters there are then. -/
def adapt (n characters : Nat) (first : Bool) : Nat :=
  let n := n / (if first then 700 else 2)
  let (times, left) := scaleDown (n + n / characters)
  36 * times + 36 * left / (left + 38)

/-- The bias before the first number. -/
def firstBias : Nat := 72

/-- The first character that is not of ASCII. -/
def firstBeyond : Nat := 0x80

/-! ## Writing -/

/-- The state of writing: what is written, what has been passed over, the bias, and how many
    characters are in place. -/
structure Writing where
  written : List Char
  passed : Nat
  bias : Nat
  inPlace : Nat

namespace Writing

/-- Puts in one character, `first` telling whether it is the first. -/
def putIn (w : Writing) (first : Bool) : Writing where
  written := w.written ++ digitsFrom w.bias 36 w.passed
  passed := 0
  bias := adapt w.passed (w.inPlace + 1) first
  inPlace := w.inPlace + 1

/-- Passes a character of the text while those of the number `n` are put in. -/
def pass (ascii n : Nat) (w : Writing) (m : Nat) : Writing :=
  if m < n then { w with passed := w.passed + 1 }
  else if m = n then w.putIn (w.inPlace == ascii)
  else w

/-- Puts in the characters of given numbers, in increasing order; `last` is the number before
    them. -/
def putInAll (text : List Nat) (ascii : Nat) : Nat → List Nat → Writing → Writing
  | _, [], w => w
  | last, n :: rest, w =>
      let w := { w with passed := w.passed + (n - last) * (w.inPlace + 1) }
      let w := text.foldl (pass ascii n) w
      putInAll text ascii (n + 1) rest { w with passed := w.passed + 1 }

end Writing

/-- A number put into an increasing list without repetitions. -/
def insertOnce (n : Nat) : List Nat → List Nat
  | [] => [n]
  | m :: rest =>
      if n < m then n :: m :: rest
      else if n = m then m :: rest
      else m :: insertOnce n rest

def encode (text : List Char) : List Char :=
  let ascii := text.filter (fun c => c.toNat < firstBeyond)
  let numbers := text.map Char.toNat
  let beyond := (numbers.filter (firstBeyond ≤ ·)).foldr insertOnce []
  let written := Writing.putInAll numbers ascii.length firstBeyond beyond
    ⟨[], 0, firstBias, ascii.length⟩
  ascii ++ (if ascii.isEmpty then [] else ['-']) ++ written.written

/-! ## Reading -/

/-- Puts the characters that are left of a text into those read so far, given the number of the
    last one and the place after it. The fuel bounds how many there are. -/
def readFrom : Nat → List Nat → Nat → Nat → Nat → Bool → List Char → Option (List Nat)
  | 0, _, _, _, _, _, _ => none
  | _ + 1, points, _, _, _, _, [] => some points
  | fuel + 1, points, last, place, bias, first, text => do
      let (passed, rest) ← numberFrom bias 36 1 text
      let size := points.length + 1
      let place := place + passed
      let n := last + place / size
      let place := place % size
      if 0x10FFFF < n then none
      else
        readFrom fuel (points.take place ++ n :: points.drop place) n (place + 1)
          (adapt passed size first) false rest

/-- The numbers of the code points of a text that is written in ASCII. -/
def decode (text : List Char) : Option (List Nat) :=
  let reversed := text.reverse
  let digits := (reversed.takeWhile (· != '-')).reverse
  let ascii := ((reversed.dropWhile (· != '-')).drop 1).reverse
  readFrom (digits.length + 1) (ascii.map Char.toNat) firstBeyond 0 firstBias true digits

end Flowmeter.Host.Punycode
