import Flowmeter.Yaml.Source

/-!
# A place in a text

Tokens depend on columns and on how far apart two places are, so a cursor counts characters,
lines and columns while it moves forward. Beyond the end of the text it reads as NUL, which no
document holds. The length of the text, which never changes, bounds all recursion along it.

Where a text ends with a fault, whatever asks for a character beyond that end fails. A cursor
that moves forward asks for the character that it comes to stand on.
-/

set_option autoImplicit false

namespace Flowmeter.Yaml

/-- The characters ahead and the fault that stands after them, if any; how many characters the
    whole text has, and how far the cursor has come. -/
structure Cursor where
  rest : List Char
  fault : Option Fault
  size : Nat
  index : Nat
  line : Nat
  column : Nat

namespace Cursor

/-- The beginning of a text. -/
def new (source : Source) : Cursor :=
  ⟨source.text, source.fault, source.text.length, 0, 0, 0⟩

/-- A result for the end of the text, unless a fault stands there. -/
def atEnd {α : Type} (c : Cursor) (result : α) : Except Fault α :=
  match c.fault with
  | none => .ok result
  | some fault => .error fault

/-- The character `n` places ahead. -/
def peek (c : Cursor) (n : Nat) : Except Fault Char :=
  match c.rest[n]? with
  | some ch => .ok ch
  | none => c.atEnd '\x00'

/-- The next `n` characters, fewer at the end. -/
def ahead (c : Cursor) (n : Nat) : Except Fault (List Char) :=
  let cs := c.rest.take n
  if cs.length < n then c.atEnd cs else .ok cs

/-- Whether a character followed by another ends a line. -/
def endsLine (ch next : Char) : Bool :=
  ch == '\n' || ch == '\x85' || ch == '\u2028' || ch == '\u2029' || (ch == '\r' && next != '\n')

/-- The cursor after one character. A byte order mark takes no column. -/
def next (c : Cursor) : Cursor :=
  match c.rest with
  | [] => c
  | ch :: rest =>
      if endsLine ch (rest.head?.getD '\x00') then
        { c with rest := rest, index := c.index + 1, line := c.line + 1, column := 0 }
      else
        { c with
          rest := rest
          index := c.index + 1
          column := if ch = '\uFEFF' then c.column else c.column + 1 }

/-- The cursor after `n` characters. -/
def advance (c : Cursor) : Nat → Cursor
  | 0 => c
  | n + 1 => c.next.advance n

/-- The cursor after `n` characters, of which the one after them is known. -/
def forward (c : Cursor) (n : Nat) : Except Fault Cursor := do
  let _ ← c.peek n
  return c.advance n

/-- The characters that satisfy `p`, up to the first that does not, and the cursor after
    them. -/
def takeWhile (c : Cursor) (p : Char → Bool) : Except Fault (List Char × Cursor) := do
  let taken := c.rest.takeWhile p
  return (taken, ← c.forward taken.length)

/-- The cursor after all characters that satisfy `p`. -/
def skipWhile (c : Cursor) (p : Char → Bool) : Except Fault Cursor := do
  return (← c.takeWhile p).2

/-! ## Classes of characters -/

/-- The characters that end a line. -/
def isBreak (c : Char) : Bool :=
  c == '\r' || c == '\n' || c == '\x85' || c == '\u2028' || c == '\u2029'

/-- The end of a line or of the text. -/
def isBreakOrEnd (c : Char) : Bool :=
  c == '\x00' || isBreak c

/-- The space, or the end of a line or of the text. -/
def isSpaceOrEnd (c : Char) : Bool :=
  c == ' ' || isBreakOrEnd c

/-- The space, the tab, or the end of a line or of the text. -/
def isGap (c : Char) : Bool :=
  c == '\t' || isSpaceOrEnd c

/-- The letters and digits of ASCII, the hyphen and the underscore. -/
def isNameChar (c : Char) : Bool :=
  let n := c.toNat
  (0x30 ≤ n && n ≤ 0x39) || (0x41 ≤ n && n ≤ 0x5A) || (0x61 ≤ n && n ≤ 0x7A) || c == '-' ||
    c == '_'

/-! ## Line ends -/

/-- The line end at the cursor as it reads, and the cursor after it: the usual line ends read
    as a line feed, the two separators as themselves, and anything else as nothing. -/
def takeBreak (c : Cursor) : Except Fault (List Char × Cursor) := do
  let ch ← c.peek 0
  if ch = '\r' ∨ ch = '\n' ∨ ch = '\x85' then
    return (['\n'], ← c.forward (if (← c.ahead 2) = ['\r', '\n'] then 2 else 1))
  else if ch = '\u2028' ∨ ch = '\u2029' then return ([ch], ← c.forward 1)
  else return ([], c)

/-- Whether three characters and a gap at the cursor separate documents. -/
def atSeparator (c : Cursor) : Except Fault Bool := do
  let start ← c.ahead 3
  if start = ['-', '-', '-'] ∨ start = ['.', '.', '.'] then return isGap (← c.peek 3)
  else return false

/-- Whether the cursor stands at the end of the text. -/
def isAtEnd (c : Cursor) : Except Fault Bool := do
  return (← c.peek 0) = '\x00'

/-- The cursor after spaces and a comment. -/
def skipComment (c : Cursor) : Except Fault Cursor := do
  let c ← c.skipWhile (· == ' ')
  if (← c.peek 0) = '#' then c.skipWhile (fun ch => !isBreakOrEnd ch) else return c

end Cursor

end Flowmeter.Yaml
