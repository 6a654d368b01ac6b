import Flowmeter.Text.Blank

/-!
# Lines

Two notions of line end meet in this program. A file is read with carriage returns and
carriage return pairs taken as line feeds (`unifyNewlines`); a table text is then cut at every
line boundary of Unicode (`lines`), of which there are ten besides the pair.
-/

set_option autoImplicit false

namespace Flowmeter.Text

/-- The characters that end a line. -/
def isLineBreak (c : Char) : Bool :=
  let n := c.toNat
  (10 ≤ n && n ≤ 13) || (0x1C ≤ n && n ≤ 0x1E) || n == 0x85 || n == 0x2028 || n == 0x2029

/-- A carriage return followed by a line feed counts as one carriage return. -/
def joinReturnFeed (cs : List Char) : List Char :=
  cs.foldr
    (fun c rest => if c = '\r' ∧ rest.head? = some '\n' then c :: rest.tail else c :: rest) []

/-- Every line end of a text file becomes a line feed. -/
def unifyNewlines (cs : List Char) : List Char :=
  (joinReturnFeed cs).map (fun c => if c = '\r' then '\n' else c)

/-- The stretches between the elements satisfying `p`, the last one only if it holds
    something: each such element ends a stretch and begins none. -/
def endedBy {α : Type} (p : α → Bool) (xs : List α) : List (List α) :=
  match pieces p xs with
  | [] => []
  | first :: rest =>
      let all := first :: rest
      if (all.getLast?.getD []).isEmpty then all.dropLast else all

/-- The lines of a text, without what ends them. -/
def lines (cs : List Char) : List (List Char) :=
  endedBy isLineBreak (joinReturnFeed cs)

end Flowmeter.Text
