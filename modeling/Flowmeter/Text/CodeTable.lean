import Flowmeter.Text.Blank
import Flowmeter.Text.Digit

/-!
# Tables of code points

What a standard says about code points is kept as text. A class of them is a list of
hexadecimal numbers, alone or with a hyphen between the first and the last of a range
(`ranges`). What they stand for is written in runs of code points that follow each other: the
number of the first, then a word for each, and a semicolon between runs. A word is a list of
numbers with plus signs between them (`runs`).
-/

set_option autoImplicit false

namespace Flowmeter.Text.CodeTable

/-- The number that hexadecimal digits spell. -/
def number (word : List Char) : Nat :=
  word.foldl (fun n c => 16 * n + (hexDigitValue? c).getD 0) 0

/-- The words of lines, in order. -/
def wordsOf (lines : List String) : List (List Char) :=
  lines.flatMap (fun line => pieces (· == ' ') line.toList)

/-! ## Classes -/

/-- The first and the last number of a range. -/
def range (word : List Char) : Nat × Nat :=
  match cutFirst (· == '-') word with
  | (first, some last) => (number first, number last)
  | (only, none) => (number only, number only)

/-- The ranges of a class. -/
def ranges (lines : List String) : Array (Nat × Nat) :=
  ((wordsOf lines).map range).toArray

/-- Whether a number is in one of some ranges. -/
def contains (ranges : Array (Nat × Nat)) (n : Nat) : Bool :=
  ranges.any (fun range => range.1 ≤ n && n ≤ range.2)

/-! ## Mappings -/

/-- What code points that follow each other stand for. -/
structure Run where
  first : Nat
  words : Array (List Nat)

/-- The run of its words. -/
def run? : List (List Char) → Option Run
  | [] => none
  | first :: words =>
      some ⟨number first, (words.map (fun word => (pieces (· == '+') word).map number)).toArray⟩

/-- The runs of a mapping. -/
def runs (lines : List String) : Array Run :=
  ((pieces (fun word => word == [';']) (wordsOf lines)).filterMap run?).toArray

/-- What a number stands for. -/
def find? (runs : Array Run) (n : Nat) : Option (List Nat) := do
  let run ← runs.find? (fun run => run.first ≤ n && n < run.first + run.words.size)
  run.words[n - run.first]?

end Flowmeter.Text.CodeTable
