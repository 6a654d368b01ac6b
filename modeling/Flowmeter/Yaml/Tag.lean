import Flowmeter.Text.Digit
import Flowmeter.Text.Pattern

/-!
# Tags

A tag says what kind of value a node stands for. A plain scalar without one is given its tag
by its spelling: each kind has a pattern, and the patterns are tried in a fixed order. One
line feed at the end of the text is let pass.
-/

set_option autoImplicit false

namespace Flowmeter.Yaml

open Flowmeter.Text

/-- The kinds of nodes. -/
inductive Tag where
  | null
  | bool
  | int
  | float
  | binary
  | timestamp
  | omap
  | pairs
  | set
  | str
  | seq
  | map
  | merge
  | value
  | unknown
deriving DecidableEq, Repr

/-- How the tags of this format begin. -/
def standardStart : String := "tag:yaml.org,2002:"

/-- The tags by their names. -/
def tagNames : List (String × Tag) :=
  [("null", .null), ("bool", .bool), ("int", .int), ("float", .float), ("binary", .binary),
   ("timestamp", .timestamp), ("omap", .omap), ("pairs", .pairs), ("set", .set), ("str", .str),
   ("seq", .seq), ("map", .map), ("merge", .merge), ("value", .value)]

/-- The tag of a full name. -/
def Tag.ofName (name : String) : Tag :=
  match tagNames.find? (fun e => standardStart ++ e.1 == name) with
  | some e => e.2
  | none => .unknown

/-! ## Patterns of spellings -/

open Pattern

/-- A digit or an underscore. -/
def isGroupedDigit (c : Char) : Bool := isAsciiDigit c || c == '_'

/-- A digit from one to nine. -/
def isLeadingDigit (c : Char) : Bool := isAsciiDigit c && c != '0'

def isSign (c : Char) : Bool := c == '-' || c == '+'

def signPattern : Pattern := optional (one isSign)

/-- Parts below sixty with colons before them, at least one. -/
def sixties : Pattern :=
  let part : Pattern :=
    all [char ':', optional (one (fun c => '0' ≤ c && c ≤ '5')), one isAsciiDigit]
  seq part (fun rest => repeated part rest.length rest)

def words (texts : List String) : Pattern := any (texts.map literal)

def boolPattern : Pattern :=
  words ["yes", "Yes", "YES", "no", "No", "NO", "true", "True", "TRUE", "false", "False",
    "FALSE", "on", "On", "ON", "off", "Off", "OFF"]

/-- Fractions: with a point, and with a sign in the exponent. -/
def floatPattern : Pattern :=
  let exponent :=
    optional (all [one (fun c => c == 'e' || c == 'E'), one isSign, many1 isAsciiDigit])
  any
    [all [signPattern, one isAsciiDigit, many isGroupedDigit, char '.', many isGroupedDigit,
       exponent],
     all [char '.', one isAsciiDigit, many isGroupedDigit, exponent],
     all [signPattern, one isAsciiDigit, many isGroupedDigit, sixties, char '.',
       many isGroupedDigit],
     all [signPattern, char '.', words ["inf", "Inf", "INF"]],
     all [char '.', words ["nan", "NaN", "NAN"]]]

/-- Integers: to base two, eight, ten and sixteen, and by sixties. -/
def intPattern : Pattern :=
  let digit (last : Char) (c : Char) : Bool := ('0' ≤ c && c ≤ last) || c == '_'
  any
    [all [signPattern, literal "0b", many1 (digit '1')],
     all [signPattern, char '0', many1 (digit '7')],
     all [signPattern, char '0'],
     all [signPattern, one isLeadingDigit, many isGroupedDigit],
     all [signPattern, literal "0x",
       many1 (fun c => (hexDigitValue? c).isSome || c == '_')],
     all [signPattern, one isLeadingDigit, many isGroupedDigit, sixties]]

def nullPattern : Pattern :=
  words ["~", "null", "Null", "NULL", ""]

/-- Dates, and instants with a time of day and perhaps an offset. -/
def timestampPattern : Pattern :=
  let digit := one isAsciiDigit
  let digits1or2 := seq digit (optional digit)
  let blanks := many (fun c => c == ' ' || c == '\t')
  let blanks1 := many1 (fun c => c == ' ' || c == '\t')
  any
    [all [digit, digit, digit, digit, char '-', digit, digit, char '-', digit, digit],
     all [digit, digit, digit, digit, char '-', digits1or2, char '-', digits1or2,
       alt (one (fun c => c == 'T' || c == 't')) blanks1, digits1or2, char ':', digit, digit,
       char ':', digit, digit, optional (seq (char '.') (many isAsciiDigit)),
       optional (all [blanks,
         alt (char 'Z') (all [one isSign, digits1or2,
           optional (all [char ':', digit, digit])])])]]

/-- The patterns by the characters that a text may begin with, in the order in which they are
    tried. A text without characters is only nothing. -/
def patterns : List (String × Pattern × Tag) :=
  [("yYnNtTfFoO", boolPattern, .bool),
   ("-+0123456789.", floatPattern, .float),
   ("-+0123456789", intPattern, .int),
   ("<", literal "<<", .merge),
   ("~nN", nullPattern, .null),
   ("0123456789", timestampPattern, .timestamp),
   ("=", literal "=", .value),
   ("!&*", words ["!", "&", "*"], .unknown)]

/-- The tag of a plain scalar by its spelling. -/
def Tag.ofSpelling : List Char → Tag
  | [] => .null
  | c :: cs =>
      match patterns.find? (fun p => p.1.toList.contains c && p.2.1.accepts (c :: cs)) with
      | some p => p.2.2
      | none => .str

end Flowmeter.Yaml
