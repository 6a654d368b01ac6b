/-!
# Patterns

A pattern takes the characters of a text and gives what is left after each way to match its
beginning, the ways that take more first. Patterns are put together from classes of characters,
and one of them accepts a text if some way leaves nothing, or only a line feed.
-/

set_option autoImplicit false

namespace Flowmeter.Text

/-- The ways to match the beginning of a text, each by what is left. -/
abbrev Pattern := List Char → List (List Char)

namespace Pattern

/-- One character of a class. -/
def one (p : Char → Bool) : Pattern
  | c :: rest => if p c then [rest] else []
  | [] => []

def char (c : Char) : Pattern := one (· == c)

def seq (a b : Pattern) : Pattern := fun cs => (a cs).flatMap b

def alt (a b : Pattern) : Pattern := fun cs => a cs ++ b cs

def optional (a : Pattern) : Pattern := fun cs => a cs ++ [cs]

/-- As many characters of a class as there are, or fewer, before the ways that are given. -/
def manyBefore (p : Char → Bool) (ways : List (List Char)) : Pattern
  | [] => [] :: ways
  | c :: rest =>
      if p c then manyBefore p ((c :: rest) :: ways) rest else (c :: rest) :: ways

/-- As many characters of a class as there are, or fewer. -/
def many (p : Char → Bool) : Pattern := manyBefore p []

/-- The same with at least one character. -/
def many1 (p : Char → Bool) : Pattern := seq (one p) (many p)

/-- A pattern any number of times, up to a bound. -/
def repeated (a : Pattern) : Nat → Pattern
  | 0 => fun cs => [cs]
  | n + 1 => fun cs => (seq a (repeated a n)) cs ++ [cs]

/-- A pattern a number of times. -/
def times (n : Nat) (a : Pattern) : Pattern :=
  match n with
  | 0 => fun cs => [cs]
  | n + 1 => seq a (times n a)

def literal (s : String) : Pattern :=
  s.toList.foldr (fun c rest => seq (char c) rest) (fun cs => [cs])

/-- Any of a list of patterns. -/
def any (ps : List Pattern) : Pattern := fun cs => ps.flatMap (· cs)

def all (ps : List Pattern) : Pattern := ps.foldr seq (fun cs => [cs])

/-- Whether a pattern matches a whole text, a line feed at its end apart. -/
def accepts (a : Pattern) (cs : List Char) : Bool :=
  (a cs).any (fun rest => rest == [] || rest == ['\n'])

end Pattern

end Flowmeter.Text
