import Flowmeter.Text.Stream
import Flowmeter.Yaml.Fault

/-!
# The text of a document

A file is read in blocks, and a block is read when the document needs more characters. So a
fault in a block is met only by a document that reaches it: `Source` holds the characters of
the blocks before the first fault, and the fault.
-/

set_option autoImplicit false

namespace Flowmeter.Yaml

open Flowmeter.Text

/-- The characters that can be read, and the fault that stands where more would be, if any. -/
structure Source where
  text : List Char
  fault : Option Fault

/-- Whether a document may hold a character. -/
def isDocumentChar (c : Char) : Bool :=
  let n := c.toNat
  n == 0x09 || n == 0x0A || n == 0x0D || (0x20 ≤ n && n ≤ 0x7E) || n == 0x85 ||
    (0xA0 ≤ n && n ≤ 0xD7FF) || (0xE000 ≤ n && n ≤ 0xFFFD) || 0x10000 ≤ n

namespace Source

/-- How many characters a block has. -/
def blockSize : Nat := 4096

/-- The next block of a stream. -/
def block (s : Stream) : Except Fault (List Char × Stream) :=
  (s.read blockSize).mapError .encoding

/-- The first block of a stream is twice as long as the others. -/
def firstBlock (s : Stream) : Except Fault (List Char × Stream) := do
  let (front, s) ← block s
  let (back, s) ← block s
  return (front ++ back, s)

/-- A block that may be part of a document. -/
def checked (cs : List Char) : Except Fault (List Char) :=
  if cs.all isDocumentChar then .ok cs else .error .character

/-- The blocks from one on. The fuel bounds their number. -/
def blocksFrom : Nat → Except Fault (List Char × Stream) → Source
  | 0, _ => ⟨[], none⟩
  | _ + 1, .error fault => ⟨[], some fault⟩
  | fuel + 1, .ok (cs, s) =>
      match checked cs with
      | .error fault => ⟨[], some fault⟩
      | .ok [] => ⟨[], none⟩
      | .ok cs =>
          let more := blocksFrom fuel (block s)
          ⟨cs ++ more.text, more.fault⟩

/-- What can be read of a file. -/
def ofBytes (bytes : List UInt8) : Source :=
  blocksFrom (bytes.length + 2) (firstBlock (Stream.ofBytes bytes))

end Source

end Flowmeter.Yaml
