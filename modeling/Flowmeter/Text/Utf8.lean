import Flowmeter.Text.Digit

/-!
# UTF-8

Reading a byte stream is a small machine: between characters it stands at `Stage.start`, and
inside one it knows how many bytes are still due and which the next one may be. A byte that
may not come ends the character begun and starts afresh, so a malformed stretch is never
longer than it has to be. `segments` cuts the whole stream that way, losing no byte; the two
ways of reading a file differ only in what they make of a malformed segment.
-/

set_option autoImplicit false

namespace Flowmeter.Text.Utf8

/-- Why a stretch of bytes is no character. -/
inductive Flaw where
  /-- A byte that begins no character. -/
  | startByte
  /-- A character broken off by a byte that cannot continue it. -/
  | continuationByte
  /-- A character broken off by the end of the stream. -/
  | endOfData
deriving DecidableEq, Repr

/-- What a flaw is called in a message. -/
def Flaw.describe : Flaw → String
  | .startByte => "invalid start byte"
  | .continuationByte => "invalid continuation byte"
  | .endOfData => "unexpected end of data"

/-- A stretch of the stream: the bytes and the character they make. -/
structure Segment where
  bytes : List UInt8
  reading : Except Flaw Char

/-- Where the machine stands. Inside a character it keeps the bytes taken, the value so far,
    how many bytes are due after the next one, and the range of the next one. -/
inductive Stage where
  | start
  | inside (taken : List UInt8) (value : Nat) (later : Nat) (low high : UInt8)

/-- The stage after the first byte of a character, or the segment that this byte is. -/
def first (b : UInt8) : Sum Segment Stage :=
  if b < 0x80 then .inl ⟨[b], .ok (Char.ofNat b.toNat)⟩
  else if b < 0xC2 then .inl ⟨[b], .error .startByte⟩
  else if b < 0xE0 then .inr (.inside [b] (b.toNat - 0xC0) 0 0x80 0xBF)
  else if b < 0xF0 then
    .inr (.inside [b] (b.toNat - 0xE0) 1 (if b = 0xE0 then 0xA0 else 0x80)
      (if b = 0xED then 0x9F else 0xBF))
  else if b < 0xF5 then
    .inr (.inside [b] (b.toNat - 0xF0) 2 (if b = 0xF0 then 0x90 else 0x80)
      (if b = 0xF4 then 0x8F else 0xBF))
  else .inl ⟨[b], .error .startByte⟩

/-- The segments that one more byte completes, and the stage after it. -/
def step : Stage → UInt8 → List Segment × Stage
  | .start, b =>
      match first b with
      | .inl segment => ([segment], .start)
      | .inr stage => ([], stage)
  | .inside taken value later low high, b =>
      if low ≤ b ∧ b ≤ high then
        let value := value * 64 + (b.toNat - 0x80)
        match later with
        | 0 => ([⟨taken ++ [b], .ok (Char.ofNat value)⟩], .start)
        | later + 1 => ([], .inside (taken ++ [b]) value later 0x80 0xBF)
      else
        let broken : Segment := ⟨taken, .error .continuationByte⟩
        match first b with
        | .inl segment => ([broken, segment], .start)
        | .inr stage => ([broken], stage)

/-- The stream cut into characters and malformed stretches. -/
def segmentsFrom : Stage → List UInt8 → List Segment
  | .start, [] => []
  | .inside taken _ _ _ _, [] => [⟨taken, .error .endOfData⟩]
  | stage, b :: bs =>
      let (done, stage) := step stage b
      done ++ segmentsFrom stage bs

/-- The stream cut into characters and malformed stretches. -/
def segments (bytes : List UInt8) : List Segment :=
  segmentsFrom .start bytes

/-- The text of a stream in which every malformed stretch reads as U+FFFD. -/
def decodeReplacing (bytes : List UInt8) : List Char :=
  (segments bytes).map (fun s => match s.reading with | .ok c => c | .error _ => '\uFFFD')

/-- A malformed stretch: where it begins, its bytes and what is wrong. -/
structure Fault where
  position : Nat
  bytes : List UInt8
  flaw : Flaw
deriving DecidableEq, Repr

/-- The text of the segments, or the first fault; `position` is where they begin. -/
def decodeSegments (position : Nat) : List Segment → Except Fault (List Char)
  | [] => .ok []
  | s :: rest =>
      match s.reading with
      | .error flaw => .error ⟨position, s.bytes, flaw⟩
      | .ok c => (decodeSegments (position + s.bytes.length) rest).map (c :: ·)

/-- The text of a well-formed stream. -/
def decode (bytes : List UInt8) : Except Fault (List Char) :=
  decodeSegments 0 (segments bytes)

def Fault.message (fault : Fault) : String :=
  let position := fault.position
  let place :=
    match fault.bytes with
    | [b] => "byte 0x" ++ String.ofList (hexText 2 b.toNat) ++ s!" in position {position}"
    | bytes => s!"bytes in position {position}-{position + bytes.length - 1}"
  "\x27utf-8\x27 codec can\x27t decode " ++ place ++ ": " ++ fault.flaw.describe

/-- The bytes of a text. -/
def encode (s : String) : List UInt8 :=
  s.toUTF8.toList

end Flowmeter.Text.Utf8
