import Flowmeter.Collector.Service
import Flowmeter.Proofs.Flow.Line
import Flowmeter.Proofs.Snapshot.Grouping
import Flowmeter.Proofs.Text.Words

/-!
# What a table text comes to

A text whose counters can all be read is surveyed line by line: blank lines are passed over, of
the others each describes a flow or does not, and the snapshot is the sum of the flows by key.
What the lines describe is stated here over all lines of the text, blank ones included, so that
nothing has to be said of how they are passed over. A text with one counter too long has no
survey at all.

The program reads the lines that hold something, and stops at the first that it cannot read. So its
result is a text that was read whole or a fault, and which of the two it is can be told of the text
beforehand (`Survey.Readable`). Under that condition the reading is a map, and what is asked of its
result is asked of the list of all lines: `flows` are those that describe something, `passedOver`
counts those that say something and describe nothing.
-/

set_option autoImplicit false

namespace Flowmeter

open Flowmeter.Text Flowmeter.Decimal

/-- Whether a notice tells of the lines of a table text. -/
def Notice.isOfTable (n : Notice) : Bool :=
  n.source == "conntrack_exporter.collector.aggregator"

namespace Survey

/-- The flows that the lines of a text describe, in order. -/
def flows (text : String) : List Flow :=
  (lines text.toList).filterMap fun cs => (Line.ofText cs).accepted?

/-- How many lines of a text are not blank and describe no flow. -/
def passedOver (text : String) : Nat :=
  (lines text.toList).countP fun cs => !cs.all isBlank && (Line.ofText cs).accepted?.isNone

/-- Every line of the text is readable. -/
def Readable (text : String) : Prop :=
  ∀ cs ∈ lines text.toList, (Line.ofText cs).Readable

instance (text : String) : Decidable (Readable text) := by
  unfold Readable
  infer_instance

variable {text : String}

/-! ## Lines that count

A blank line describes nothing by itself, so leaving it out loses nothing, and the program may do so
early. -/

theorem isEmpty_ofText (cs : List Char) : (Line.ofText cs).isEmpty = cs.all isBlank := by
  rw [Bool.eq_iff_iff, List.isEmpty_iff]
  exact words_eq_nil_iff

/-- Blank in the sense of characters and empty in the sense of words are the same. -/
theorem records_eq (text : String) : records text =
    ((lines text.toList).filter (fun cs => !cs.all isBlank)).map Line.ofText := by
  rw [records, List.filter_map]
  congr 1
  refine List.filter_congr fun cs _ => ?_
  rw [Function.comp_apply, isEmpty_ofText]

theorem accepted?_of_blank {cs : List Char} (h : cs.all isBlank = true) :
    (Line.ofText cs).accepted? = none := by
  rw [Line.ofText, words_eq_nil_iff.mpr h, Line.accepted?_nil]

/-- Blank lines describe no flow, so it does not matter that they are left out. -/
theorem flows_eq (text : String) : flows text = (records text).filterMap Line.accepted? := by
  rw [records_eq, List.filterMap_map, List.filterMap_filter, flows]
  refine List.filterMap_congr fun cs _ => ?_
  cases hblank : cs.all isBlank with
  | true => simp [accepted?_of_blank hblank]
  | false => rfl

/-- Of the lines left over, those without a flow are the ones to be reported. -/
theorem passedOver_eq (text : String) :
    passedOver text = (records text).countP (fun line => line.accepted?.isNone) := by
  rw [records_eq, List.countP_map, List.countP_filter, passedOver]
  refine List.countP_congr fun cs _ => ?_
  rw [Bool.and_comm]
  rfl

/-! ## Reading all lines

Reading stops at the first fault, so a list is read just if each of its lines is. -/

/-- Where no line is refused the reading is a map. -/
theorem mapM_read_of_readable {l : List Line} (h : ∀ line ∈ l, line.Readable) :
    l.mapM Line.read = .ok (l.map Line.accepted?) := by
  induction l with
  | nil => rfl
  | cons line rest ih =>
    have hline := Line.read_of_readable (h line (by simp))
    have hrest := ih fun other hother => h other (List.mem_cons_of_mem line hother)
    rw [List.mapM_cons, hline, hrest]
    rfl

/-- The first line that is refused ends the reading. -/
theorem mapM_read_of_not_readable {l : List Line} (h : ∃ line ∈ l, ¬ line.Readable) :
    ∃ fault, l.mapM Line.read = .error fault := by
  induction l with
  | nil =>
    obtain ⟨line, hline, -⟩ := h
    cases hline
  | cons line rest ih =>
    rw [List.mapM_cons]
    by_cases hline : line.Readable
    · obtain ⟨other, hother, hno⟩ := h
      have hrest : other ∈ rest :=
        (List.mem_cons.mp hother).resolve_left fun heq => hno (heq ▸ hline)
      obtain ⟨fault, hfault⟩ := ih ⟨other, hrest, hno⟩
      exact ⟨fault, by rw [Line.read_of_readable hline, hfault]; rfl⟩
    · obtain ⟨fault, hfault⟩ := Line.read_of_not_readable hline
      exact ⟨fault, by rw [hfault]; rfl⟩

/-- A line without words is readable, so only the lines that count can be refused. -/
theorem readable_iff : Readable text ↔ ∀ line ∈ records text, line.Readable := by
  rw [records_eq]
  constructor
  · intro h line hline
    obtain ⟨cs, hcs, rfl⟩ := List.mem_map.mp hline
    exact h cs (List.mem_filter.mp hcs).1
  · intro h cs hcs
    cases hblank : cs.all isBlank with
    | true =>
      rw [Line.ofText, words_eq_nil_iff.mpr hblank]
      exact fun token htoken => absurd htoken List.not_mem_nil
    | false =>
      refine h _ (List.mem_map_of_mem (List.mem_filter.mpr ⟨hcs, ?_⟩))
      rw [hblank]
      rfl

/-! ## The survey

Readable or not: two lemmas, one with the result and one with a fault. -/

/-- A readable text has the survey of its flows. -/
theorem ofText_of_readable (h : Readable text) : ofText text =
    .ok ⟨Snapshot.ofFlows (flows text), (flows text).length, passedOver text⟩ := by
  rw [ofText, mapM_read_of_readable (readable_iff.mp h), flows_eq, passedOver_eq]
  show Except.ok (ofReadings ((records text).map Line.accepted?)) = _
  rw [ofReadings, List.filterMap_map, List.countP_map]
  rfl

theorem ofText_of_not_readable (h : ¬ Readable text) : ∃ fault, ofText text = .error fault := by
  rw [readable_iff, not_forall] at h
  obtain ⟨line, hline⟩ := h
  obtain ⟨fault, hfault⟩ :=
    mapM_read_of_not_readable ⟨line, Classical.not_imp.mp hline⟩
  exact ⟨fault, by rw [ofText, hfault]; rfl⟩

/-- A readable text has a snapshot just if one of its lines describes a flow. -/
theorem snapshot_of_readable (h : Readable text) : Snapshot.ofText text =
    if flows text = [] then .error .noFlows else .ok (Snapshot.ofFlows (flows text)) := by
  rw [Snapshot.ofText, ofText_of_readable h]
  simp only [List.length_eq_zero_iff]

/-! ## A counter of any length

Nines without end, to find where the limit lies. The text is given by its characters and never
evaluated: all that is asked of it is asked of the letters in front and of one nine. -/

/-- The token of `10 ^ digits - 1` packets. -/
def packetsToken (digits : Nat) : Token :=
  ['p', 'a', 'c', 'k', 'e', 't', 's', '='] ++ List.replicate digits '9'

/-- What a line says of a connection before it comes to the packets. -/
def connectionFront : List Char := "ipv4 2 tcp src=a dst=b".toList

/-- The table of one connection, which has sent `10 ^ digits - 1` packets. -/
def manyPackets (digits : Nat) : List Char :=
  connectionFront ++ ' ' :: packetsToken digits

/-- What holds of no letter of the key and not of a nine holds of nothing in the token. -/
theorem any_packetsToken {digits : Nat} {q : Char → Bool}
    (hletters : ['p', 'a', 'c', 'k', 'e', 't', 's', '='].any q = false) (hnine : q '9' = false) :
    (packetsToken digits).any q = false := by
  rw [packetsToken, List.any_append, hletters, Bool.false_or, List.any_eq_false]
  intro c hc
  rw [List.eq_of_mem_replicate hc, hnine]
  exact Bool.false_ne_true

theorem lines_manyPackets (digits : Nat) : lines (manyPackets digits) = [manyPackets digits] := by
  have hfront : connectionFront.any isLineBreak = false := by decide +kernel
  refine lines_eq_singleton (by simp [manyPackets]) ?_
  rw [manyPackets, List.any_append, hfront, List.any_cons,
    any_packetsToken (by decide) (by decide)]
  decide

/-- The token is the last of the line. -/
theorem words_manyPackets (digits : Nat) : Line.ofText (manyPackets digits) =
    Line.ofText connectionFront ++ [packetsToken digits] := by
  have htoken : words (packetsToken digits) = [packetsToken digits] :=
    words_eq_singleton (by simp [packetsToken]) (any_packetsToken (by decide) (by decide))
  rw [manyPackets, Line.ofText, words_append_of_blank (by decide), htoken, ← Line.ofText]

theorem pair?_packetsToken (digits : Nat) :
    (packetsToken digits).pair? = some (.packets, List.replicate digits '9') := by
  have hkey : Field.ofKey? ['p', 'a', 'c', 'k', 'e', 't', 's'] = some .packets := by
    decide +kernel
  rw [packetsToken, Token.pair?]
  -- the cut is at the first `=`, which is among the letters, so the digits need not be looked at
  show (Field.ofKey? ['p', 'a', 'c', 'k', 'e', 't', 's']).map _ = _
  rw [hkey]
  rfl

/-- The limit of digits is sharp. -/
theorem readable_manyPackets_iff (digits : Nat) :
    Readable (String.ofList (manyPackets digits)) ↔ digits ≤ 4300 := by
  have hothers : Line.Readable (Line.ofText connectionFront) := by decide +kernel
  have hnumeral : isCounterNumeral (List.replicate digits '9') = true ↔ digits ≠ 0 := by
    have hdigit : isAsciiDigit '9' = true := by decide
    simp [isCounterNumeral, hdigit]
  rw [Readable, String.toList_ofList, lines_manyPackets, List.forall_mem_singleton,
    words_manyPackets, Line.Readable, List.forall_mem_append, List.forall_mem_singleton,
    pair?_packetsToken, ← Line.Readable]
  simp only [hothers, Option.mem_def, Option.some.injEq, forall_eq', true_and, hnumeral,
    List.length_replicate, Field.isCounter, forall_const]
  omega

end Survey

/-! ## What is logged of it

Notices of a cycle have different sources, and those of the table are picked out by theirs. -/

namespace Collector.Service

/-- The notice of lines that describe no flow; there is none if there are no such lines. -/
def skipNotice (rejected : Nat) : List Notice :=
  if rejected = 0 then [] else [.linesSkipped rejected]

/-- What a cycle logs of the lines of its table. -/
theorem tableNotices_digestSurvey (s : Service) (survey : Survey) (now milliseconds : Nat) :
    (s.digestSurvey survey now milliseconds).2.1.filter Notice.isOfTable =
      skipNotice survey.rejected ++
        if survey.accepted = 0 then []
        else [.aggregated survey.accepted survey.snapshot.size] := by
  -- a notice of lines skipped is one of the table, if there is one at all
  have hskip : (skipNotice survey.rejected).filter Notice.isOfTable =
      skipNotice survey.rejected := by
    refine List.filter_eq_self.mpr fun n hn => ?_
    rw [skipNotice] at hn
    split at hn
    · cases hn
    · rw [List.mem_singleton.mp hn]
      rfl
  by_cases hnone : survey.accepted = 0
  · simp only [digestSurvey, if_pos hnone]
    rw [List.filter_append, ← skipNotice, hskip]
    rfl
  · simp only [digestSurvey, if_neg hnone]
    rw [List.filter_append, ← skipNotice, hskip]
    rfl

theorem tableNotices_digest {text : String} (h : Survey.Readable text) (s : Service)
    (now milliseconds : Nat) :
    (s.digest (.ok text) now milliseconds).2.1.filter Notice.isOfTable =
      skipNotice (Survey.passedOver text) ++
        if Survey.flows text = [] then []
        else [.aggregated (Survey.flows text).length
          (Snapshot.ofFlows (Survey.flows text)).size] := by
  have hdigest : s.digest (.ok text) now milliseconds =
      s.digestSurvey ⟨Snapshot.ofFlows (Survey.flows text), (Survey.flows text).length,
        Survey.passedOver text⟩ now milliseconds := by
    rw [digest, Survey.ofText_of_readable h]
  rw [hdigest, tableNotices_digestSurvey]
  simp only [List.length_eq_zero_iff]

end Collector.Service

namespace Snapshot

/-- **A snapshot is the grouped sum of its table.** If some line of a readable text describes a
    flow, the text has a snapshot: its keys are those of the flows described, each once and in
    order of first appearance, and what it shows for a key is, counter by counter, the sum over
    all flows of that key. The log gives the numbers of flows and of keys, and that of the lines
    that are not blank and describe no flow if there are any. If no line describes a flow there
    is no snapshot for just this reason. -/
theorem ofText_grouped_sum (text : String) (h : Survey.Readable text) :
    (Survey.flows text ≠ [] → ∃ snapshot, ofText text = .ok snapshot ∧
      snapshot.keys = ((Survey.flows text).map Flow.key).eraseDups ∧
      (∀ key c, snapshot.value key c = sumOf (Survey.flows text) key c) ∧
      ∀ (s : Collector.Service) (now milliseconds : Nat),
        (s.digest (.ok text) now milliseconds).2.1.filter Notice.isOfTable =
          Collector.Service.skipNotice (Survey.passedOver text) ++
            [.aggregated (Survey.flows text).length snapshot.size]) ∧
    (Survey.flows text = [] → ofText text = .error .noFlows ∧
      ∀ (s : Collector.Service) (now milliseconds : Nat),
        (s.digest (.ok text) now milliseconds).2.1.filter Notice.isOfTable =
          Collector.Service.skipNotice (Survey.passedOver text)) := by
  constructor
  · intro hsome
    refine ⟨ofFlows (Survey.flows text), ?_, keys_ofFlows _, value_ofFlows _, ?_⟩
    · rw [Survey.snapshot_of_readable h, if_neg hsome]
    · intro s now milliseconds
      rw [Collector.Service.tableNotices_digest h, if_neg hsome]
  · intro hnone
    constructor
    · rw [Survey.snapshot_of_readable h, if_pos hnone]
    · intro s now milliseconds
      rw [Collector.Service.tableNotices_digest h, if_pos hnone, List.append_nil]

/-- Two connections of one client to one server, with a blank line and one that describes
    nothing between them. A vertical tab and a carriage return end lines too. -/
def twoConnections : String :=
  "ipv4 2 tcp src=a dst=b sport=1 dport=443 packets=10 bytes=7\n \x0bno flow\r\n" ++
  "ipv4 2 tcp src=a dst=b sport=2 dport=443 packets=2 bytes=x packets=8"

theorem survey_twoConnections : Survey.Readable twoConnections ∧
    Survey.flows twoConnections =
      [⟨"ipv4", "tcp", ⟨"a", "b", "1", "443"⟩, ⟨"", "", "", ""⟩, ⟨10, 7⟩, ⟨0, 0⟩⟩,
        ⟨"ipv4", "tcp", ⟨"a", "b", "2", "443"⟩, ⟨"", "", "", ""⟩, ⟨2, 0⟩, ⟨8, 0⟩⟩] ∧
    Survey.passedOver twoConnections = 1 := by
  decide +kernel

theorem ofText_sums_twoConnections : Survey.Readable twoConnections ∧
    Survey.flows twoConnections ≠ [] ∧
    ∃ snapshot, ofText twoConnections = .ok snapshot ∧
      snapshot.keys = [⟨"a", "b", "ipv4", "tcp", "443", "https"⟩] ∧
      Counter.all.map (snapshot.value ⟨"a", "b", "ipv4", "tcp", "443", "https"⟩) =
        [12, 7, 8, 0] ∧
      ∀ (s : Collector.Service) (now milliseconds : Nat),
        (s.digest (.ok twoConnections) now milliseconds).2.1.filter Notice.isOfTable =
          [.linesSkipped 1, .aggregated 2 1] := by
  obtain ⟨hreadable, hflows, hpassed⟩ := survey_twoConnections
  have hsome : Survey.flows twoConnections ≠ [] := by simp [hflows]
  obtain ⟨snapshot, hs, hkeys, hvalue, hlog⟩ :=
    (ofText_grouped_sum twoConnections hreadable).1 hsome
  have hone : snapshot.keys = [⟨"a", "b", "ipv4", "tcp", "443", "https"⟩] := by
    rw [hkeys, hflows]
    decide +kernel
  refine ⟨hreadable, hsome, snapshot, hs, hone, ?_, ?_⟩
  · simp only [Counter.all, List.map_cons, List.map_nil, hvalue, hflows]
    decide +kernel
  · intro s now milliseconds
    rw [hlog, hpassed, hflows, ← Table.length_keys, hone]
    rfl

end Snapshot

end Flowmeter
