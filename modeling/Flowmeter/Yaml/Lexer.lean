import Flowmeter.Yaml.BlockScalar
import Flowmeter.Yaml.PlainScalar
import Flowmeter.Yaml.QuotedScalar

/-!
# From characters to tokens

Tokens are found one at a time, but the first of them may have to wait: whatever could be a
simple key is held back until a colon follows it, and then a key token goes in before it, or
until it cannot be a key any more. So the lexer keeps a queue of tokens found and not yet
taken, and remembers for each level of flow nesting where a simple key could begin.

In block style, indentation opens and closes collections. The columns of the open ones are
kept from the innermost outwards.
-/

set_option autoImplicit false

namespace Flowmeter.Yaml

/-- Where a simple key could begin: the number of its token, whether it must turn out to be a
    key, and its place. -/
structure SimpleKey where
  number : Nat
  required : Bool
  index : Nat
  line : Nat
  column : Nat
deriving DecidableEq, Repr

/-- The state of reading tokens. -/
structure Lexer where
  cursor : Cursor
  /-- Tokens found and not yet taken. -/
  queue : List Token
  /-- How many tokens have been taken. -/
  taken : Nat
  finished : Bool
  /-- The nesting of flow collections; a closing mark too many takes it below nought. -/
  flowLevel : Int
  /-- The column of the innermost open block collection, -1 outside all of them. -/
  indent : Int
  outerIndents : List Int
  keyAllowed : Bool
  /-- Where a simple key could begin, by level of flow nesting. -/
  keys : List (Int × SimpleKey)

namespace Lexer

/-- The beginning of a text. -/
def new (source : Source) : Lexer where
  cursor := Cursor.new source
  queue := []
  taken := 0
  finished := false
  flowLevel := 0
  indent := -1
  outerIndents := []
  keyAllowed := true
  keys := []

/-- Whether the lexer is inside a flow collection. -/
def inFlow (l : Lexer) : Bool := l.flowLevel != 0

/-- The lexer with one more token found. -/
def emit (l : Lexer) (t : Token) : Lexer :=
  { l with queue := l.queue ++ [t] }

/-- The lexer with a token found before the one of a number. -/
def emitBefore (l : Lexer) (number : Nat) (t : Token) : Lexer :=
  let place := number - l.taken
  { l with queue := l.queue.take place ++ t :: l.queue.drop place }

/-! ## Indentation -/

/-- Closes the block collections that are indented further than `column`. -/
def closeBlocks (column : Int) : Lexer → Lexer := fun l =>
  if l.inFlow then l
  else go l l.outerIndents
where
  /-- Closes collections while there are outer ones. -/
  go (l : Lexer) : List Int → Lexer
    | [] => l
    | outer :: rest =>
        if column < l.indent then
          go { l.emit .blockEnd with indent := outer, outerIndents := rest } rest
        else l

/-- Whether a column opens a block collection. -/
def opensBlock (l : Lexer) (column : Nat) : Bool :=
  l.indent < column

/-- The lexer inside a block collection at a column. -/
def openBlock (l : Lexer) (column : Nat) : Lexer :=
  { l with indent := column, outerIndents := l.indent :: l.outerIndents }

/-! ## Simple keys -/

/-- Forgets where simple keys could begin that are too far away by now: on another line or
    more than 1024 characters back. One that had to be a key is missed. -/
def dropStaleKeys (l : Lexer) : Except Fault Lexer := do
  let isStale (e : Int × SimpleKey) : Bool :=
    e.2.line != l.cursor.line || 1024 < l.cursor.index - e.2.index
  expect (!l.keys.any (fun e => isStale e && e.2.required))
  return { l with keys := l.keys.filter (fun e => !isStale e) }

/-- Forgets where a simple key could begin on this level. One that had to be a key is
    missed. -/
def dropKey (l : Lexer) : Except Fault Lexer := do
  match l.keys.lookup l.flowLevel with
  | none => return l
  | some key =>
      expect (!key.required)
      return { l with keys := l.keys.filter (fun e => e.1 != l.flowLevel) }

/-- Remembers that a simple key could begin here. -/
def saveKey (l : Lexer) : Except Fault Lexer := do
  if l.keyAllowed then
    let required := !l.inFlow && l.indent == l.cursor.column
    let number := l.taken + l.queue.length
    let l ← l.dropKey
    let key : SimpleKey :=
      ⟨number, required, l.cursor.index, l.cursor.line, l.cursor.column⟩
    return { l with keys := l.keys ++ [(l.flowLevel, key)] }
  else return l

/-! ## Tokens -/

/-- The blanks, comments and line ends before the next token. -/
def skipToToken : Nat → Lexer → Except Fault Lexer
  | 0, l => .ok l
  | fuel + 1, l => do
      let c ← l.cursor.skipComment
      if Cursor.isBreak (← c.peek 0) then
        let (_, c) ← c.takeBreak
        skipToToken fuel { l with cursor := c, keyAllowed := l.keyAllowed || !l.inFlow }
      else return { l with cursor := c }

/-- The lexer after `n` characters. -/
def forward (l : Lexer) (n : Nat) : Except Fault Lexer := do
  return { l with cursor := ← l.cursor.forward n }

/-- The lexer after a byte order mark, if the text begins with one. -/
def skipMark (l : Lexer) : Except Fault Lexer := do
  if l.cursor.index = 0 then
    if (← l.cursor.peek 0) = '\uFEFF' then l.forward 1 else return l
  else return l

/-- The end of the text. -/
def atStreamEnd (l : Lexer) : Except Fault Lexer := do
  let l ← (l.closeBlocks (-1)).dropKey
  return { l.emit .streamEnd with keyAllowed := false, keys := [], finished := true }

def atDirective (l : Lexer) : Except Fault Lexer := do
  let l ← (l.closeBlocks (-1)).dropKey
  let (d, c) ← directiveToken l.cursor
  return { l.emit (.directive d) with keyAllowed := false, cursor := c }

def atDocument (l : Lexer) (t : Token) : Except Fault Lexer := do
  let l ← (l.closeBlocks (-1)).dropKey
  return { ← (l.emit t).forward 3 with keyAllowed := false }

/-- The opening mark of a flow collection. -/
def atFlowStart (l : Lexer) (t : Token) : Except Fault Lexer := do
  let l ← l.saveKey
  return { ← (l.emit t).forward 1 with flowLevel := l.flowLevel + 1, keyAllowed := true }

/-- The closing mark of a flow collection. -/
def atFlowEnd (l : Lexer) (t : Token) : Except Fault Lexer := do
  let l ← l.dropKey
  return { ← (l.emit t).forward 1 with flowLevel := l.flowLevel - 1, keyAllowed := false }

def atFlowEntry (l : Lexer) : Except Fault Lexer := do
  let l ← { l with keyAllowed := true }.dropKey
  (l.emit .flowEntry).forward 1

/-- Opens a block collection at the cursor, if its column does; only where a simple key could
    begin. -/
def openHere (l : Lexer) (t : Token) : Except Fault Lexer := do
  expect l.keyAllowed
  if l.opensBlock l.cursor.column then return (l.openBlock l.cursor.column).emit t
  else return l

/-- The hyphen of an item. -/
def atBlockEntry (l : Lexer) : Except Fault Lexer := do
  let l ← if l.inFlow then pure l else l.openHere .blockSequenceStart
  let l ← { l with keyAllowed := true }.dropKey
  (l.emit .blockEntry).forward 1

/-- The question mark of a key. -/
def atKey (l : Lexer) : Except Fault Lexer := do
  let l ← if l.inFlow then pure l else l.openHere .blockMappingStart
  let l ← { l with keyAllowed := !l.inFlow }.dropKey
  (l.emit .key).forward 1

/-- The colon of a value. If a simple key could begin on this level, it did. -/
def atValue (l : Lexer) : Except Fault Lexer := do
  match l.keys.lookup l.flowLevel with
  | some key =>
      let l := { l with keys := l.keys.filter (fun e => e.1 != l.flowLevel) }
      let l := l.emitBefore key.number .key
      let l :=
        if !l.inFlow && l.opensBlock key.column then
          (l.openBlock key.column).emitBefore key.number .blockMappingStart
        else l
      return { ← (l.emit .value).forward 1 with keyAllowed := false }
  | none =>
      let l ← if l.inFlow then pure l else l.openHere .blockMappingStart
      let l ← { l with keyAllowed := !l.inFlow }.dropKey
      (l.emit .value).forward 1

/-- A token that may be or begin a simple key. -/
def atNode (l : Lexer) (read : Cursor → Except Fault (Token × Cursor)) : Except Fault Lexer := do
  let l ← l.saveKey
  let (t, c) ← read l.cursor
  return { l.emit t with keyAllowed := false, cursor := c }

def atBlockScalar (l : Lexer) (folded : Bool) : Except Fault Lexer := do
  let l ← { l with keyAllowed := true }.dropKey
  let (text, c) ← blockScalar folded l.indent l.cursor
  return { l.emit (.scalar (text.map .char) false) with cursor := c }

def atPlainScalar (l : Lexer) : Except Fault Lexer := do
  let l ← l.saveKey
  let (text, keyAllowed, c) ← plainScalar l.inFlow l.indent l.cursor
  return { l.emit (.scalar (text.map .char) true) with keyAllowed := keyAllowed, cursor := c }

/-- Whether a plain scalar begins at the cursor. -/
def beginsPlain (l : Lexer) : Except Fault Bool := do
  let ch ← l.cursor.peek 0
  if Cursor.isGap ch || "-?:,[]\x7b\x7d#&*!|>\x27\x22%@\x60".toList.contains ch then
    let next ← l.cursor.peek 1
    return !Cursor.isGap next && (ch == '-' || (!l.inFlow && (ch == '?' || ch == ':')))
  else return true

/-- Whether a gap follows the character at the cursor. -/
def gapFollows (l : Lexer) : Except Fault Bool := do
  return Cursor.isGap (← l.cursor.peek 1)

/-- Whether documents are separated at the cursor. -/
def atSeparator (l : Lexer) : Except Fault Bool :=
  if l.cursor.column = 0 then l.cursor.atSeparator else .ok false

/-- A token that begins with a character which always begins one of its kind. -/
def atIndicator? (l : Lexer) (ch : Char) : Option (Except Fault Lexer) :=
  match ch with
  | '\x00' => l.atStreamEnd
  | '[' => l.atFlowStart .flowSequenceStart
  | '\x7b' => l.atFlowStart .flowMappingStart
  | ']' => l.atFlowEnd .flowSequenceEnd
  | '\x7d' => l.atFlowEnd .flowMappingEnd
  | ',' => l.atFlowEntry
  | '*' => l.atNode fun c => return let (name, c) := ← anchorName c; (.alias name, c)
  | '&' => l.atNode fun c => return let (name, c) := ← anchorName c; (.anchor name, c)
  | '!' => l.atNode fun c => return let (tag, c) := ← tagToken c; (.tag tag, c)
  | '\x27' =>
      l.atNode fun c => return let (text, c) := ← quotedScalar false c; (.scalar text false, c)
  | '\x22' =>
      l.atNode fun c => return let (text, c) := ← quotedScalar true c; (.scalar text false, c)
  | _ => none

/-- A token that begins with a character which begins one of its kind only in some places. -/
def atOther (l : Lexer) (ch : Char) : Except Fault Lexer := do
  if ch = '%' ∧ l.cursor.column = 0 then l.atDirective
  else if ← pure (ch == '-') <&&> l.atSeparator then l.atDocument .documentStart
  else if ← pure (ch == '.') <&&> l.atSeparator then l.atDocument .documentEnd
  else if ← pure (ch == '-') <&&> l.gapFollows then l.atBlockEntry
  else if ← pure (ch == '?') <&&> (pure l.inFlow <||> l.gapFollows) then l.atKey
  else if ← pure (ch == ':') <&&> (pure l.inFlow <||> l.gapFollows) then l.atValue
  else if ch = '|' ∧ !l.inFlow then l.atBlockScalar false
  else if ch = '>' ∧ !l.inFlow then l.atBlockScalar true
  else if ← l.beginsPlain then l.atPlainScalar
  else throw .token

/-- Finds one more token, and with it those that indentation gives. -/
def findToken (l : Lexer) : Except Fault Lexer := do
  let l ← l.skipMark
  let l ← skipToToken (l.cursor.size + 1) l
  let l ← l.dropStaleKeys
  let l := l.closeBlocks l.cursor.column
  let ch ← l.cursor.peek 0
  match l.atIndicator? ch with
  | some result => result
  | none => l.atOther ch

/-- Whether the first token of the queue may still turn out to have a key before it. -/
def mustLookFurther (l : Lexer) : Except Fault (Bool × Lexer) := do
  if l.finished then return (false, l)
  else if l.queue.isEmpty then return (true, l)
  else
    let l ← l.dropStaleKeys
    return ((l.keys.map (fun e => e.2.number)).min? == some l.taken, l)

/-- Finds tokens until the first of the queue is settled. -/
def settle : Nat → Lexer → Except Fault Lexer
  | 0, l => .ok l
  | fuel + 1, l => do
      let (further, l) ← l.mustLookFurther
      if further then settle fuel (← l.findToken) else return l

/-- The next token, and the lexer that still holds it. -/
def peek (l : Lexer) : Except Fault (Option Token × Lexer) := do
  let l ← settle (l.cursor.size + 2) l
  return (l.queue.head?, l)

/-- The lexer after the next token. -/
def drop (l : Lexer) : Lexer :=
  { l with queue := l.queue.tail, taken := l.taken + 1 }

end Lexer

end Flowmeter.Yaml
