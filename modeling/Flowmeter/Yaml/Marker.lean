import Flowmeter.Text.Digit
import Flowmeter.Text.Utf8
import Flowmeter.Yaml.Cursor
import Flowmeter.Yaml.Fault
import Flowmeter.Yaml.Token

/-!
# Directives, anchors and tags

The tokens that say something about the nodes after them. Each has its own set of characters,
and each must be followed by a gap.
-/

set_option autoImplicit false

namespace Flowmeter.Yaml

open Flowmeter.Text

/-- Goes on only if a condition holds. -/
def expect (holds : Bool) : Except Fault Unit :=
  if holds then .ok () else .error .token

/-! ## Anchors -/

/-- The name of an anchor or alias, the cursor standing on its indicator. -/
def anchorName (c : Cursor) : Except Fault (String × Cursor) := do
  let (name, c) ← (← c.forward 1).takeWhile Cursor.isNameChar
  expect (!name.isEmpty)
  let ch ← c.peek 0
  expect (Cursor.isGap ch || "?:,]\x7d%@\x60".toList.contains ch)
  return (String.ofList name, c)

/-! ## Tags -/

/-- Whether a character stands for itself in a tag. -/
def isTagChar (c : Char) : Bool :=
  let n := c.toNat
  (0x30 ≤ n && n ≤ 0x39) || (0x41 ≤ n && n ≤ 0x5A) || (0x61 ≤ n && n ≤ 0x7A) ||
    "-;/?:@&=+$,_.!~*\x27()[]".toList.contains c

/-- The number that hexadecimal digits at the cursor spell. -/
def hexNumber (c : Cursor) (digits : Nat) : Except Fault Nat :=
  (List.range digits).foldlM
    (fun n place => do
      match hexDigitValue? (← c.peek place) with
      | some digit => return 16 * n + digit
      | none => throw .token)
    0

/-- The bytes of a run of percent escapes. -/
def escapedBytes : Nat → Cursor → Except Fault (List UInt8 × Cursor)
  | 0, c => .ok ([], c)
  | fuel + 1, c => do
      if (← c.peek 0) = '%' then
        let c ← c.forward 1
        let byte ← hexNumber c 2
        let (bytes, c) ← escapedBytes fuel (← c.forward 2)
        return (UInt8.ofNat byte :: bytes, c)
      else return ([], c)

/-- The characters of a tag, percent escapes read as UTF-8. -/
def tagChars : Nat → Cursor → Except Fault (List Char × Cursor)
  | 0, c => .ok ([], c)
  | fuel + 1, c => do
      let (plain, c) ← c.takeWhile isTagChar
      if (← c.peek 0) = '%' then
        let (bytes, c) ← escapedBytes (c.size + 1) c
        match Utf8.decode bytes with
        | .error _ => .error .token
        | .ok escaped => do
            let (more, c) ← tagChars fuel c
            return (plain ++ escaped ++ more, c)
      else return (plain, c)

/-- The text of a tag, which is not empty. -/
def tagText (c : Cursor) : Except Fault (String × Cursor) := do
  let (text, after) ← tagChars (c.size + 1) c
  expect (!text.isEmpty)
  return (String.ofList text, after)

/-- The handle of a tag: an exclamation mark, a name, and another mark. The first mark alone
    is a handle where a space follows it. -/
def tagHandle (c : Cursor) : Except Fault (String × Cursor) := do
  expect ((← c.peek 0) == '!')
  if (← c.peek 1) = ' ' then return ("!", ← c.forward 1)
  else
    let (name, c) ← (← c.forward 1).takeWhile Cursor.isNameChar
    expect ((← c.peek 0) == '!')
    return (String.ofList ('!' :: name ++ ['!']), ← c.forward 1)

/-- A tag, the cursor standing on its first mark. -/
def tagToken (c : Cursor) : Except Fault (TagText × Cursor) := do
  let ch ← c.peek 1
  let (tag, c) ←
    if ch = '<' then do
      let (suffix, c) ← tagText (← c.forward 2)
      expect ((← c.peek 0) == '>')
      pure ((⟨none, suffix⟩ : TagText), ← c.forward 1)
    else if Cursor.isGap ch then do pure ((⟨none, "!"⟩ : TagText), ← c.forward 1)
    else do
      let bare ← c.forward 1
      let word ← bare.skipWhile (fun ch => !(ch == '!' || Cursor.isSpaceOrEnd ch))
      let (handle, c) ← if (← word.peek 0) = '!' then tagHandle c else pure ("!", bare)
      let (suffix, c) ← tagText c
      pure ((⟨some handle, suffix⟩ : TagText), c)
  expect (Cursor.isSpaceOrEnd (← c.peek 0))
  return (tag, c)

/-! ## Directives -/

/-- The rest of a line that holds nothing but a comment, and the line end. -/
def emptyRestOfLine (c : Cursor) : Except Fault Cursor := do
  let c ← c.skipComment
  expect (Cursor.isBreakOrEnd (← c.peek 0))
  return (← c.takeBreak).2

/-- A number of a version. -/
def versionNumber (c : Cursor) : Except Fault (Nat × Cursor) := do
  let (digits, c) ← c.takeWhile isAsciiDigit
  expect (!digits.isEmpty)
  if Decimal.digitLimit < digits.length then throw (.tooLong digits.length)
  return (ofAsciiDigits digits, c)

/-- A directive, the cursor standing on its percent sign. -/
def directiveToken (c : Cursor) : Except Fault (Directive × Cursor) := do
  let (name, c) ← (← c.forward 1).takeWhile Cursor.isNameChar
  expect (!name.isEmpty)
  expect (Cursor.isSpaceOrEnd (← c.peek 0))
  let (directive, c) ←
    if name = "YAML".toList then do
      let (major, c) ← versionNumber (← c.skipWhile (· == ' '))
      expect ((← c.peek 0) == '.')
      let (minor, c) ← versionNumber (← c.forward 1)
      expect (Cursor.isSpaceOrEnd (← c.peek 0))
      pure (Directive.version major minor, c)
    else if name = "TAG".toList then do
      let (handle, c) ← tagHandle (← c.skipWhile (· == ' '))
      expect ((← c.peek 0) == ' ')
      let (start, c) ← tagText (← c.skipWhile (· == ' '))
      expect (Cursor.isSpaceOrEnd (← c.peek 0))
      pure (Directive.tag handle start, c)
    else do pure (Directive.other, ← c.skipWhile (fun ch => !Cursor.isBreakOrEnd ch))
  return (directive, ← emptyRestOfLine c)

end Flowmeter.Yaml
