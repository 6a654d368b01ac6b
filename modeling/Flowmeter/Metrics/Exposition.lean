import Flowmeter.Decimal.Notation
import Flowmeter.Metrics.Published

/-!
# The text that a scraper reads

Series are shown by families: two lines say what a family is, then each sample has a line
with its name, its labels in order of their names, and its value. Label values are escaped so
that a sample never takes more than its line. Values are written as doubles; one that no
double can hold spoils the whole text.
-/

set_option autoImplicit false

namespace Flowmeter

/-- What the samples of a family are. -/
inductive FamilyKind where
  | gauge
  | counter
  | histogram
deriving DecidableEq, Repr

/-- The word for a kind of family. -/
def FamilyKind.word : FamilyKind → String
  | .gauge => "gauge"
  | .counter => "counter"
  | .histogram => "histogram"

/-- A sample: labels and a value. -/
structure Sample where
  labels : List (String × String)
  value : Int

/-- Samples of one name. -/
structure Family where
  name : String
  help : String
  kind : FamilyKind
  samples : List Sample

namespace Exposition

/-! ## Names, labels and values -/

/-- Whether a character may stand in a name of a series, or at its beginning. -/
def isNameChar (first : Bool) (c : Char) : Bool :=
  let n := c.toNat
  (0x41 ≤ n && n ≤ 0x5A) || (0x61 ≤ n && n ≤ 0x7A) || c == '_' || c == ':' ||
    (!first && 0x30 ≤ n && n ≤ 0x39)

/-- A name in which every character that may not stand there is an underscore. -/
def safeName (name : String) : String :=
  match name.toList with
  | [] => ""
  | c :: cs =>
      let keep (first : Bool) (c : Char) : Char := if isNameChar first c then c else '_'
      String.ofList (keep true c :: cs.map (keep false))

/-- One character of a label value. -/
def escapeChar (c : Char) : List Char :=
  if c = '\\' then ['\\', '\\']
  else if c = '\n' then ['\\', 'n']
  else if c = '\x22' then ['\\', '\x22']
  else [c]

/-- A label value without line feeds and unescaped quotation marks. -/
def escape (value : String) : String :=
  String.ofList (value.toList.flatMap escapeChar)

/-- A label as it is written. -/
def labelText (label : String × String) : String :=
  label.1 ++ "=\"" ++ escape label.2 ++ "\""

/-- The labels with one more in its place by name. -/
def insertLabel (label : String × String) : List (String × String) → List (String × String)
  | [] => [label]
  | other :: rest =>
      if label.1 < other.1 then label :: other :: rest else other :: insertLabel label rest

/-- The labels in order of their names. -/
def sortLabels (labels : List (String × String)) : List (String × String) :=
  labels.foldr insertLabel []

/-- The labels between braces; nothing for a sample without labels. -/
def labelsText (labels : List (String × String)) : String :=
  if labels.isEmpty then ""
  else "\x7b" ++ ",".intercalate ((sortLabels labels).map labelText) ++ "\x7d"

/-- A value as a double, unless no double can hold it. -/
def valueText? (value : Int) : Option String :=
  (Decimal.Magnitude.ofNat? value.natAbs).map fun x =>
    if value < 0 then "-" ++ x.write Decimal.Window.plain else x.write Decimal.Window.sample

/-! ## Families -/

/-- The name of a family as it is shown: counters say that they are totals. -/
def Family.title (family : Family) : String :=
  match family.kind with
  | .counter => safeName (family.name ++ "_total")
  | _ => safeName family.name

/-- The name of the samples of a family. Of a histogram only the count is shown. -/
def Family.sampleName (family : Family) : String :=
  match family.kind with
  | .counter => safeName (family.name ++ "_total")
  | .gauge => safeName family.name
  | .histogram => safeName (family.name ++ "_count")

/-- The line of a sample. -/
def Family.sampleLine? (family : Family) (sample : Sample) : Option String :=
  (valueText? sample.value).map fun value =>
    Family.sampleName family ++ labelsText sample.labels ++ " " ++ value

/-- The lines of a family. -/
def Family.lines? (family : Family) : Option (List String) :=
  (family.samples.mapM (Family.sampleLine? family)).map fun samples =>
    ("# HELP " ++ Family.title family ++ " " ++ family.help) ::
    ("# TYPE " ++ Family.title family ++ " " ++ family.kind.word) :: samples

/-- The lines of families, unless a value is too large for a double. -/
def lines? (families : List Family) : Option (List String) :=
  (families.mapM Family.lines?).map List.flatten

/-- The text of families, unless a value is too large for a double. -/
def text? (families : List Family) : Option String :=
  (lines? families).map fun lines => String.join (lines.map (· ++ "\n"))

end Exposition

/-! ## The published families -/

namespace Counter

/-- The name of a counter in the names of its families. -/
def stem : Counter → String
  | .sentPackets => "sent_packets"
  | .sentBytes => "sent_bytes"
  | .receivedPackets => "reply_packets"
  | .receivedBytes => "reply_bytes"

def describe : Counter → String
  | .sentPackets => "packets sent (original direction)"
  | .sentBytes => "bytes sent (original direction)"
  | .receivedPackets => "packets received (reply direction)"
  | .receivedBytes => "bytes received (reply direction)"

end Counter

namespace Published

/-- The samples of a counter in a table. -/
def samplesOf (table : Table Key Counters) (counter : Counter) : List Sample :=
  table.entries.map fun e => ⟨e.1.labels, e.2.get counter⟩

/-- The gauge of a counter: its values in the last snapshot. -/
def gauge (published : Published) (subsystem : String) (counter : Counter) : Family where
  name := subsystem ++ "_" ++ counter.stem
  help := "Number of " ++ counter.describe ++ " for the aggregated conntrack key."
  kind := .gauge
  samples := samplesOf published.snapshot counter

/-- The family of connection counts. -/
def connectionFamily (published : Published) (subsystem : String) : Family where
  name := subsystem ++ "_total_connections"
  help := "Total number of aggregated conntrack keys observed since exporter start."
  kind := .counter
  samples := published.connections.entries.map fun e => ⟨e.1.labels, e.2⟩

/-- The total of a counter. -/
def totalFamily (published : Published) (subsystem : String) (counter : Counter) : Family where
  name := subsystem ++ "_total_" ++ counter.stem
  help := "Monotonic total of " ++ counter.describe ++
    ", accumulated by deltas between snapshots."
  kind := .counter
  samples := samplesOf published.totals counter

/-- All families of the published series: gauges, connection counts, totals. -/
def families (published : Published) (subsystem : String) : List Family :=
  Counter.all.map (published.gauge subsystem) ++
    published.connectionFamily subsystem :: Counter.all.map (published.totalFamily subsystem)

end Published

end Flowmeter
