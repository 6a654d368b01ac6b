import Flowmeter.Yaml.Marker

/-!
# Scalars between quotation marks

Between single marks only the mark itself is written in another way, twice. Between double
marks a backslash begins an escape. A line end and the blanks around it are folded into one
space, unless empty lines follow, which then stand for themselves.
-/

set_option autoImplicit false

namespace Flowmeter.Yaml

open Flowmeter.Text

/-- The escapes of one letter. -/
def escapeLetters : List (Char × Char) :=
  [('0', '\x00'), ('a', '\x07'), ('b', '\x08'), ('t', '\t'), ('\t', '\t'), ('n', '\n'),
   ('v', '\x0B'), ('f', '\x0C'), ('r', '\r'), ('e', '\x1B'), (' ', ' '), ('\x22', '\x22'),
   ('\\', '\\'), ('/', '/'), ('N', '\x85'), ('_', '\xA0'), ('L', '\u2028'), ('P', '\u2029')]

/-- How many hexadecimal digits an escape by code point has. -/
def escapeDigits : List (Char × Nat) :=
  [('x', 2), ('u', 4), ('U', 8)]

/-- The numbers from this one on are no numbers of characters, whatever characters there are. -/
def escapeBound : Nat := 0x80000000

/-- The empty lines at the cursor, each as its line end reads. Documents may not be separated
    inside a scalar. -/
def foldedBreaks : Nat → Cursor → Except Fault (List Char × Cursor)
  | 0, c => .ok ([], c)
  | fuel + 1, c => do
      expect (!(← c.atSeparator))
      let c ← c.skipWhile (fun ch => ch == ' ' || ch == '\t')
      if Cursor.isBreak (← c.peek 0) then
        let (first, c) ← c.takeBreak
        let (more, c) ← foldedBreaks fuel c
        return (first ++ more, c)
      else return ([], c)

/-- The blanks at the cursor: themselves, or a folded line end. -/
def foldedSpaces (c : Cursor) : Except Fault (List Char × Cursor) := do
  let (blanks, c) ← c.takeWhile (fun ch => ch == ' ' || ch == '\t')
  expect (!(← c.isAtEnd))
  if Cursor.isBreak (← c.peek 0) then
    let (first, c) ← c.takeBreak
    let (more, c) ← foldedBreaks (c.size + 1) c
    let first := if first ≠ ['\n'] then first else if more.isEmpty then [' '] else []
    return (first ++ more, c)
  else return (blanks, c)

/-- An escape, the cursor standing after its backslash. -/
def escapeSequence (c : Cursor) : Except Fault (List CodePoint × Cursor) := do
  let ch ← c.peek 0
  match escapeLetters.lookup ch, escapeDigits.lookup ch with
  | some letter, _ => return ([.char letter], ← c.forward 1)
  | none, some digits =>
      let c ← c.forward 1
      let code ← hexNumber c digits
      match CodePoint.ofNat? code with
      | some point => return ([point], ← c.forward digits)
      | none => throw (if code < escapeBound then .beyondCharacters else .beyondNumbers)
  | none, none =>
      expect (Cursor.isBreak ch)
      let (breaks, c) ← foldedBreaks (c.size + 1) (← c.takeBreak).2
      return (breaks.map .char, c)

/-- What stands at the cursor up to a blank, a line end or the closing mark. -/
def unspaced (double : Bool) : Nat → Cursor → Except Fault (List CodePoint × Cursor)
  | 0, c => .ok ([], c)
  | fuel + 1, c => do
      let (plain, c) ← c.takeWhile
        (fun ch => !(ch == '\x27' || ch == '\x22' || ch == '\\' || Cursor.isGap ch))
      let ch ← c.peek 0
      let isTwice ← pure (!double && ch == '\x27') <&&> (c.peek 1).map (· == '\x27')
      let plain := plain.map CodePoint.char
      let continued (special : List CodePoint) (c : Cursor) :
          Except Fault (List CodePoint × Cursor) := do
        let (more, c) ← unspaced double fuel c
        return (plain ++ special ++ more, c)
      if isTwice then continued [.char '\x27'] (← c.forward 2)
      else if (double && ch == '\x27') || (!double && (ch == '\x22' || ch == '\\')) then
        continued [.char ch] (← c.forward 1)
      else if double && ch == '\\' then
        let (special, c) ← escapeSequence (← c.forward 1)
        continued special c
      else return (plain, c)

/-- What stands up to the closing mark. -/
def quotedRest (double : Bool) : Nat → Cursor → Except Fault (List CodePoint × Cursor)
  | 0, c => .ok ([], c)
  | fuel + 1, c => do
      if (← c.peek 0) = (if double then '\x22' else '\x27') then return ([], ← c.forward 1)
      else
        let (spaces, c) ← foldedSpaces c
        let (text, c) ← unspaced double (c.size + 1) c
        let (more, c) ← quotedRest double fuel c
        return (spaces.map .char ++ text ++ more, c)

/-- A scalar between marks, the cursor standing on the first. -/
def quotedScalar (double : Bool) (c : Cursor) : Except Fault (List CodePoint × Cursor) := do
  let (first, c) ← unspaced double (c.size + 1) (← c.forward 1)
  let (more, c) ← quotedRest double (c.size + 1) c
  return (first ++ more, c)

end Flowmeter.Yaml
