/-!
# Blanks, pieces and words

A table line is a run of words kept apart by blanks. The blanks are the white space of
Unicode together with the four information separators, so this set is larger than the six
characters that `Char.isWhitespace` knows.

Cutting is done once, by `pieces`, which keeps empty pieces; `words` are the pieces at blanks
that hold something. Text is handled as a list of characters, so every function here is a
fold or a filter and its laws are inductions on that list.
-/

set_option autoImplicit false

namespace Flowmeter.Text

/-- White space in the sense of Unicode, and the separators U+001C to U+001F. -/
def isBlank (c : Char) : Bool :=
  let n := c.toNat
  (9 ≤ n && n ≤ 13) || (0x1C ≤ n && n ≤ 0x20) || n == 0x85 || n == 0xA0 || n == 0x1680 ||
    (0x2000 ≤ n && n ≤ 0x200A) || n == 0x2028 || n == 0x2029 || n == 0x202F || n == 0x205F ||
    n == 0x3000

/-- The blanks of ASCII text that surround a number: tab to carriage return, and the space. -/
def isAsciiBlank (c : Char) : Bool :=
  let n := c.toNat
  (9 ≤ n && n ≤ 13) || n == 0x20

/-! ## Cutting -/

/-- The stretches between the elements that satisfy `p`, empty ones included; there is
    always one more of them than there are such elements. -/
def pieces {α : Type} (p : α → Bool) (xs : List α) : List (List α) :=
  xs.foldr (fun x rest => if p x then [] :: rest else rest.modifyHead (x :: ·)) [[]]

/-- The non-empty stretches between blanks. -/
def words (cs : List Char) : List (List Char) :=
  (pieces isBlank cs).filter (fun w => !w.isEmpty)

/-- What stands before the first element satisfying `p` and, if there is one, what follows
    it. -/
def cutFirst {α : Type} (p : α → Bool) : List α → List α × Option (List α)
  | [] => ([], none)
  | x :: xs =>
      if p x then ([], some xs)
      else let (before, after) := cutFirst p xs; (x :: before, after)

/-- What stands before the last element satisfying `p`, if there is one, and what follows
    it. -/
def cutLast {α : Type} (p : α → Bool) : List α → Option (List α) × List α
  | [] => (none, [])
  | x :: xs =>
      match cutLast p xs with
      | (some before, after) => (some (x :: before), after)
      | (none, after) => if p x then (some [], after) else (none, x :: after)

/-! ## Trimming -/

/-- Drops elements satisfying `p` from the end. -/
def dropEndWhile {α : Type} (p : α → Bool) (xs : List α) : List α :=
  (xs.reverse.dropWhile p).reverse

/-- Drops elements satisfying `p` from both ends. -/
def trimBy {α : Type} (p : α → Bool) (xs : List α) : List α :=
  dropEndWhile p (xs.dropWhile p)

/-- The text without the blanks at its two ends. -/
def trim (cs : List Char) : List Char :=
  trimBy isBlank cs

/-- The text without the blanks at its two ends. -/
def trimmed (s : String) : String :=
  String.ofList (trim s.toList)

/-! ## Joining and replacing -/

/-- The pieces in order with `sep` between neighbours. -/
def joinWith {α : Type} (sep : List α) : List (List α) → List α
  | [] => []
  | [x] => x
  | x :: y :: rest => x ++ sep ++ joinWith sep (y :: rest)

/-- Whether `needle` stands somewhere in the text. -/
def hasInfixOf (needle : List Char) : List Char → Bool
  | [] => needle.isEmpty
  | c :: cs => needle.isPrefixOf (c :: cs) || hasInfixOf needle cs

end Flowmeter.Text
