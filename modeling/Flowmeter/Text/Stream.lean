import Flowmeter.Text.Lines
import Flowmeter.Text.Utf8

/-!
# Text files as streams

A text file is read in chunks of bytes and handed out in runs of characters. A chunk is decoded
as a whole, so a malformed stretch spoils all of its chunk and of the run that asked for it, but
nothing that was handed out before. Where a stretch stands is counted from the bytes that were
decoded together: the chunk, and in front of it what the chunk before left of a character.

Every line end becomes a line feed. A carriage return at the end of a chunk is held back until
it is known whether a line feed follows it.
-/

set_option autoImplicit false

namespace Flowmeter.Text

/-- A text file on its way. -/
structure Stream where
  /-- The bytes that have not been read. -/
  bytes : List UInt8
  /-- Where decoding stands between two chunks. -/
  stage : Utf8.Stage
  heldReturn : Bool
  /-- Characters that have been decoded and not handed out. -/
  ready : List Char
  /-- How many bytes a character of the last chunk took. -/
  density : Float

namespace Stream

/-- The stream of a file. -/
def ofBytes (bytes : List UInt8) : Stream := ⟨bytes, .start, false, [], 0⟩

/-- The least number of bytes that are asked for. -/
def chunkSize : Nat := 8192

/-- How many bytes are asked for when so many characters are wanted. -/
def sizeFor (s : Stream) (wanted : Nat) : Nat :=
  let density := if s.density < 1 then 1 else s.density
  max chunkSize (density * wanted.toFloat).toUInt64.toNat

/-- The bytes of a character that has been begun. -/
def begun : Utf8.Stage → List UInt8
  | .start => []
  | .inside taken _ _ _ _ => taken

/-- The segments that bytes complete, and the stage after them. -/
def segmentsOf : Utf8.Stage → List UInt8 → List Utf8.Segment × Utf8.Stage
  | stage, [] => ([], stage)
  | stage, b :: bs =>
      let (done, stage) := Utf8.step stage b
      let (more, stage) := segmentsOf stage bs
      (done ++ more, stage)

/-- The characters that a chunk completes. The empty chunk is the end of the file. -/
def decodeChunk (s : Stream) (chunk : List UInt8) :
    Except Utf8.Fault (List Char × Utf8.Stage) := do
  if chunk.isEmpty then return (← Utf8.decode (begun s.stage), .start)
  let (segments, stage) := segmentsOf s.stage chunk
  return (← Utf8.decodeSegments 0 segments, stage)

/-- Characters with the carriage return before them that was held back, and whether the last of
    them is one that has to be held back. -/
def holdReturn (s : Stream) (isEnd : Bool) (cs : List Char) : List Char × Bool :=
  if cs.isEmpty && !isEnd then ([], s.heldReturn)
  else
    let cs := if s.heldReturn then '\r' :: cs else cs
    if !isEnd && cs.getLast? = some '\r' then (cs.dropLast, true) else (cs, false)

/-- Reads a chunk, so many characters being wanted. Also whether that was of any use. -/
def readChunk (s : Stream) (wanted : Nat) : Except Utf8.Fault (Bool × Stream) := do
  let chunk := s.bytes.take (s.sizeFor wanted)
  let isEnd := chunk.isEmpty
  let (cs, stage) ← s.decodeChunk chunk
  let (cs, heldReturn) := s.holdReturn isEnd cs
  let cs := unifyNewlines cs
  return (!isEnd || !cs.isEmpty,
    { bytes := s.bytes.drop chunk.length
      stage := stage
      heldReturn := heldReturn
      ready := cs
      density := if cs.isEmpty then 0 else chunk.length.toFloat / cs.length.toFloat })

/-- Hands out characters, fewer than are wanted only at the end of the file. The fuel bounds the
    number of chunks. -/
def readFrom : Nat → Nat → Stream → Except Utf8.Fault (List Char × Stream)
  | 0, _, s => .ok ([], s)
  | fuel + 1, wanted, s => do
      let cs := s.ready.take wanted
      let s := { s with ready := s.ready.drop wanted }
      if cs.length = wanted then return (cs, s)
      let (useful, s) ← s.readChunk (wanted - cs.length)
      if !useful then return (cs, s)
      let (more, s) ← readFrom fuel (wanted - cs.length) s
      return (cs ++ more, s)

/-- Hands out characters, fewer than are wanted only at the end of the file. -/
def read (s : Stream) (wanted : Nat) : Except Utf8.Fault (List Char × Stream) :=
  readFrom (s.bytes.length + 3) wanted s

end Stream

end Flowmeter.Text
