import Flowmeter.CommandLine.Flag
import Flowmeter.Text.Blank

/-!
# Words of a command line

Before anything is done, every word is told to be a flag, a flag that does not exist, or a
plain word. A flag may be cut short as long as only one flag begins that way, and its value
may be attached to it: behind an equals sign, or directly behind a single letter.

A word that begins with a dash is plain nevertheless if it is a lone dash, a negative number,
or holds a space. Behind a word of two dashes everything is plain.
-/

set_option autoImplicit false

namespace Flowmeter.CommandLine

open Flowmeter.Text

/-- A word that names a flag: the flag, the spelling, and the value attached. -/
structure Mention where
  flag : Flag
  spelling : String
  attached : Option String
deriving DecidableEq, Repr

/-- What a word is. -/
inductive Word where
  | plain (text : String)
  | mention (m : Mention)
  | unknown (text : String)
deriving DecidableEq, Repr

/-- A word that is the beginning of more than one flag. -/
structure Ambiguity where
  word : String
  spellings : List String
deriving DecidableEq, Repr

/-- All spellings with their flags. -/
def spellings : List (String × Flag) :=
  flags.flatMap fun flag => flag.spellings.map fun s => (s, flag)

/-- A word cut at its first equals sign. -/
def cutAtEquals (word : String) : String × Option String :=
  let (before, after) := cutFirst (· == '=') word.toList
  (String.ofList before, after.map String.ofList)

/-- The flag that a word spells out, and a value behind an equals sign. -/
def spelledOut? (word : String) : Option Mention :=
  match spellings.lookup word with
  | some flag => some ⟨flag, word, none⟩
  | none =>
      match cutAtEquals word with
      | (before, some value) => (spellings.lookup before).map fun flag => ⟨flag, before, some value⟩
      | (_, none) => none

/-- The spellings that begin as a word does. -/
def beginningWith (word : String) : List (String × Flag) :=
  spellings.filter fun s => word.toList.isPrefixOf s.1.toList

/-- The flags that a word can stand for that spells out none. Two dashes announce a spelling
    that may be cut short; a single one a letter, with its value right behind it. -/
def readings (word : String) : List Mention :=
  match word.toList with
  | '-' :: '-' :: _ =>
      let (before, value) := cutAtEquals word
      (beginningWith before).map fun s => ⟨s.2, s.1, value⟩
  | cs =>
      spellings.filterMap fun s =>
        if s.1.toList = cs.take 2 then some ⟨s.2, s.1, some (String.ofList (cs.drop 2))⟩
        else if cs.isPrefixOf s.1.toList then some ⟨s.2, s.1, none⟩
        else none

/-- Whether a text is digits of any script, perhaps before one line feed. -/
def isDigits (cs : List Char) : Bool :=
  let isDigit (c : Char) : Bool := (digitValue? c).isSome
  match cs.dropWhile isDigit with
  | [] | ['\n'] => !(cs.takeWhile isDigit).isEmpty
  | _ => false

/-- Whether a text is a negative number in digits, with or without a point. -/
def isNegativeNumber : List Char → Bool
  | '-' :: cs =>
      isDigits cs ||
        match cs.dropWhile (fun c => (digitValue? c).isSome) with
        | '.' :: fraction => isDigits fraction
        | _ => false
  | _ => false

def Word.ofText (text : String) : Except Ambiguity Word :=
  match text.toList with
  | '-' :: rest =>
      match spelledOut? text with
      | some m => .ok (.mention m)
      | none =>
          if rest.isEmpty then .ok (.plain text)
          else match readings text with
            | [m] => .ok (.mention m)
            | [] =>
                if isNegativeNumber text.toList || text.toList.contains ' ' then .ok (.plain text)
                else .ok (.unknown text)
            | several => .error ⟨text, several.map (·.spelling)⟩
  | _ => .ok (.plain text)

/-- What the words of a command line are. -/
def Word.ofTexts : List String → Except Ambiguity (List Word)
  | [] => .ok []
  | text :: rest =>
      if text = "--" then .ok (.unknown text :: rest.map .plain)
      else do return (← Word.ofText text) :: (← Word.ofTexts rest)

end Flowmeter.CommandLine
