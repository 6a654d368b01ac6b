import Flowmeter.Text.Digit
import Flowmeter.Yaml.Marker

/-!
# Block scalars

A block scalar is the lines indented below its indicator. A literal one keeps its line ends; a
folded one joins lines that begin with something other than a blank. The line ends after the
last line are kept, clipped to one, or stripped.
-/

set_option autoImplicit false

namespace Flowmeter.Yaml

open Flowmeter.Text

/-- What becomes of the line ends after the last line. -/
inductive Chomping where
  | strip
  | clip
  | keep
deriving DecidableEq, Repr

/-- What an indicator at the cursor says about chomping, if there is one. -/
def chompingIndicator (c : Cursor) : Except Fault (Option Chomping × Cursor) := do
  let ch ← c.peek 0
  if ch = '+' then return (some .keep, ← c.forward 1)
  else if ch = '-' then return (some .strip, ← c.forward 1)
  else return (none, c)

/-- What an indicator at the cursor says about indentation, which is never nought. -/
def indentIndicator (c : Cursor) : Except Fault (Option Nat × Cursor) := do
  let ch ← c.peek 0
  expect (ch != '0')
  if isAsciiDigit ch then return (some (asciiDigitValue ch), ← c.forward 1)
  else return (none, c)

/-- The indicators after the first: chomping and indentation in either order. -/
def blockIndicators (c : Cursor) : Except Fault (Chomping × Option Nat × Cursor) := do
  let (before, c) ← chompingIndicator c
  let (indent, c) ← indentIndicator c
  let (after, c) ←
    if before.isNone && indent.isSome then chompingIndicator c else pure (none, c)
  expect (Cursor.isSpaceOrEnd (← c.peek 0))
  return ((before <|> after).getD .clip, indent, c)

/-- The empty lines at the cursor and the widest column reached among them. -/
def leadingBreaks : Nat → Cursor → Nat → Except Fault (List Char × Nat × Cursor)
  | 0, c, widest => .ok ([], widest, c)
  | fuel + 1, c, widest => do
      let ch ← c.peek 0
      if ch = ' ' then
        let c ← c.forward 1
        leadingBreaks fuel c (max widest c.column)
      else if Cursor.isBreak ch then
        let (first, c) ← c.takeBreak
        let (more, widest, c) ← leadingBreaks fuel c widest
        return (first ++ more, widest, c)
      else return ([], widest, c)

/-- The cursor after the spaces up to a column. -/
def skipIndent (c : Cursor) (indent : Nat) : Except Fault Cursor :=
  let spaces := (c.rest.takeWhile (· == ' ')).length
  c.forward (min spaces (indent - c.column))

/-- The empty lines at the cursor, none of them indented further than `indent`. -/
def indentedBreaks (indent : Nat) : Nat → Cursor → Except Fault (List Char × Cursor)
  | 0, c => .ok ([], c)
  | fuel + 1, c => do
      let c ← skipIndent c indent
      if Cursor.isBreak (← c.peek 0) then
        let (first, c) ← c.takeBreak
        let (more, c) ← indentedBreaks indent fuel c
        return (first ++ more, c)
      else return ([], c)

/-- Whether a line of the scalar begins at the cursor. -/
def beginsLine (c : Cursor) (indent : Nat) : Except Fault Bool := do
  return c.column = indent && !(← c.isAtEnd)

/-- Whether a line begins with something other than a blank. -/
def beginsSolid (c : Cursor) : Except Fault Bool := do
  let ch ← c.peek 0
  return !(ch == ' ' || ch == '\t')

/-- The lines from the cursor on, given the empty lines before it. Also the line end of the
    last line, and the empty lines after it. -/
def blockLines (folded : Bool) (indent : Nat) :
    Nat → List Char → Cursor → Except Fault (List Char × List Char × List Char × Cursor)
  | 0, breaks, c => .ok ([], [], breaks, c)
  | fuel + 1, breaks, c => do
      let solid ← beginsSolid c
      let (line, c) ← c.takeWhile (fun ch => !Cursor.isBreakOrEnd ch)
      let (lineEnd, c) ← c.takeBreak
      let (after, c) ← indentedBreaks indent (c.size + 1) c
      if ← beginsLine c indent then
        let joint :=
          if folded && lineEnd == ['\n'] && solid && (← beginsSolid c) then
            if after.isEmpty then [' '] else []
          else lineEnd
        let (more, lastEnd, rest, c) ← blockLines folded indent fuel after c
        return (breaks ++ line ++ joint ++ more, lastEnd, rest, c)
      else return (breaks ++ line, lineEnd, after, c)

/-- A block scalar below a node indented by `parent` (-1 at the top), the cursor standing on
    its indicator. -/
def blockScalar (folded : Bool) (parent : Int) (c : Cursor) :
    Except Fault (List Char × Cursor) := do
  let (chomping, increment, c) ← blockIndicators (← c.forward 1)
  let c ← emptyRestOfLine c
  let least := max 1 (parent + 1).toNat
  let (breaks, indent, c) ←
    match increment with
    | none => do
        let (breaks, widest, c) ← leadingBreaks (c.size + 1) c 0
        pure (breaks, max least widest, c)
    | some n => do
        let indent := least + n - 1
        let (breaks, c) ← indentedBreaks indent (c.size + 1) c
        pure (breaks, indent, c)
  let (text, lineEnd, after, c) ←
    if ← beginsLine c indent then blockLines folded indent (c.size + 1) breaks c
    else pure ([], [], breaks, c)
  let text :=
    match chomping with
    | .strip => text
    | .clip => text ++ lineEnd
    | .keep => text ++ lineEnd ++ after
  return (text, c)

end Flowmeter.Yaml
