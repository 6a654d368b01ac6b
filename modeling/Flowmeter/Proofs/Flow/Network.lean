import Flowmeter.Proofs.Flow.Key
import Flowmeter.Proofs.Flow.Meaning
import Flowmeter.Proofs.Snapshot.Insertion

/-!
# Where the network protocol of a line comes from

The first token of a line is its network protocol, whatever it says, and a token is never empty.
So no line is refused for want of a protocol: a line is passed over just if one of its original
addresses is missing or empty. A line that begins with a pair, having no protocol in front of it,
is read as one whose protocol is written so, and the pair is then a label of all that is shown of
the line.

The check for a missing protocol stands in the reader, and `flow?_eq_of_words` is where it
disappears: the first token of a line that holds anything is a word, and words are not empty. What
is left is whether the addresses are there. Both results of the reader then have an exact
description, and what a snapshot shows follows from that of its lines.
-/

set_option autoImplicit false

namespace Flowmeter

open Flowmeter.Text

namespace Line

variable {line : Line}

/-- The first pair of either address has a value. -/
def Addressed (tokens : Line) : Prop :=
  (∃ value ∈ (tokens.occurrences .source).head?, value ≠ []) ∧
    ∃ value ∈ (tokens.occurrences .destination).head?, value ≠ []

instance (tokens : Line) : Decidable tokens.Addressed := by
  unfold Addressed
  infer_instance

/-- The first value of a key is what stands for it, and none is as good as an empty one. -/
theorem text_ne_empty_iff {f : Field} : (line.text f 0).isEmpty = false ↔
    ∃ value ∈ (line.occurrences f).head?, value ≠ [] := by
  rw [← Bool.not_eq_true, text_isEmpty_iff]
  cases line.occurrences f with
  | nil => simp
  | cons value rest => simp

/-- Said of pairs and said of the texts that a reader makes of them. -/
theorem addressed_iff : line.Addressed ↔
    (line.text .source 0).isEmpty = false ∧ (line.text .destination 0).isEmpty = false := by
  rw [text_ne_empty_iff, text_ne_empty_iff]
  exact Iff.rfl

theorem not_addressed_nil : ¬ Addressed [] := by
  rintro ⟨⟨value, hvalue, -⟩, -⟩
  cases hvalue

/-- A line with addresses has a first token. -/
theorem head?_eq_of_addressed (h : line.Addressed) : line.head? = some (line.headD []) := by
  cases line with
  | nil => exact absurd h not_addressed_nil
  | cons token rest => rfl

/-- Among words nothing is left of the check of the protocol. -/
theorem flow?_eq_of_words (hwords : ∀ token ∈ line, IsWord token) :
    line.flow? = if line.Addressed then some line.described else none := by
  cases line with
  | nil => exact (if_neg not_addressed_nil).symm
  | cons network rest =>
    have hnetwork : ((network :: rest).headD []).isEmpty = false :=
      List.isEmpty_eq_false_iff.mpr (hwords network List.mem_cons_self).1
    rw [flow?_eq, hnetwork, Bool.false_or]
    by_cases haddressed : Addressed (network :: rest)
    · obtain ⟨hsource, hdestination⟩ := addressed_iff.mp haddressed
      rw [if_pos haddressed, hsource, hdestination]
      rfl
    · rw [if_neg haddressed, if_pos]
      rw [addressed_iff, not_and_or, Bool.not_eq_false, Bool.not_eq_false] at haddressed
      exact Bool.or_eq_true_iff.mpr haddressed

theorem flow?_ofText (cs : List Char) : (ofText cs).flow? =
    if (ofText cs).Addressed then some (ofText cs).described else none :=
  flow?_eq_of_words fun _ htoken => isWord_of_mem_words htoken

/-- Passed over, and not refused. -/
theorem read_eq_none_iff {cs : List Char} :
    (ofText cs).read = .ok none ↔ (ofText cs).Readable ∧ ¬ (ofText cs).Addressed := by
  by_cases hreadable : (ofText cs).Readable
  · rw [read_of_readable hreadable, accepted?_of_readable hreadable, flow?_ofText]
    simp [hreadable]
  · obtain ⟨fault, hfault⟩ := read_of_not_readable hreadable
    rw [hfault]
    simp [hreadable]

/-- Read as a flow, which is what the line describes. -/
theorem read_eq_some_iff {cs : List Char} {flow : Flow} : (ofText cs).read = .ok (some flow) ↔
    (ofText cs).Readable ∧ (ofText cs).Addressed ∧ (ofText cs).described = flow := by
  by_cases hreadable : (ofText cs).Readable
  · rw [read_of_readable hreadable, accepted?_of_readable hreadable, flow?_ofText]
    simp [hreadable]
  · obtain ⟨fault, hfault⟩ := read_of_not_readable hreadable
    rw [hfault]
    simp [hreadable]

end Line

namespace Survey

variable {text : String}

/-- The flows of a text are what its addressed lines describe. -/
theorem mem_flows_iff (h : Readable text) {flow : Flow} : flow ∈ flows text ↔
    ∃ cs ∈ lines text.toList, (Line.ofText cs).Addressed ∧ (Line.ofText cs).described = flow := by
  unfold flows
  rw [List.mem_filterMap]
  refine exists_congr fun cs => and_congr_right fun hcs => ?_
  rw [Line.accepted?_of_readable (h cs hcs), Line.flow?_ofText]
  simp

/-- The networks that a snapshot shows are the first words of addressed lines. -/
theorem exists_network_iff {snapshot : Snapshot} (h : Snapshot.ofText text = .ok snapshot)
    {network : List Char} : (∃ key ∈ snapshot.keys, key.network.toList = network) ↔
    ∃ cs ∈ lines text.toList, (Line.ofText cs).Addressed ∧
      (Line.ofText cs).head? = some network := by
  have hreadable : Readable text := readable_of_ofText h
  rw [snapshot_of_readable hreadable] at h
  split at h
  · cases h
  cases h
  constructor
  · rintro ⟨key, hkey, rfl⟩
    obtain ⟨flow, hflow, rfl⟩ := (Snapshot.mem_keys_ofFlows _ _).mp hkey
    obtain ⟨cs, hcs, haddressed, rfl⟩ := (mem_flows_iff hreadable).mp hflow
    refine ⟨cs, hcs, haddressed, ?_⟩
    rw [Line.toList_network]
    exact Line.head?_eq_of_addressed haddressed
  · rintro ⟨cs, hcs, haddressed, hhead⟩
    -- the line describes a flow, and its key is in the snapshot
    have hflow := (mem_flows_iff hreadable).mpr ⟨cs, hcs, haddressed, rfl⟩
    refine ⟨_, (Snapshot.mem_keys_ofFlows _ _).mpr ⟨_, hflow, rfl⟩, ?_⟩
    rw [Line.head?_eq_of_addressed haddressed] at hhead
    rw [Line.toList_network]
    exact Option.some.inj hhead

end Survey

namespace Line

/-- **A pair in front of a line is its network protocol.** A text is passed over just if one of
    its addresses is missing or empty, unless a counter of it is refused; how it begins counts
    for nothing. If it begins with a pair of a known key, its flow has that pair for a network.
    So a snapshot shows such a network just if an addressed line of its text begins with the
    pair. -/
theorem leading_pair_is_network (f : Field) (value : List Char) :
    (∀ cs : List Char,
      (ofText cs).read = .ok none ↔ (ofText cs).Readable ∧ ¬ (ofText cs).Addressed) ∧
    (∀ (cs : List Char) (flow : Flow),
      (ofText cs).head? = some (f.token value) → (ofText cs).read = .ok (some flow) →
      flow.key.network.toList = f.token value) ∧
    (∀ text snapshot, Snapshot.ofText text = .ok snapshot →
      ((∃ key ∈ snapshot.keys, key.network.toList = f.token value) ↔
        ∃ cs ∈ lines text.toList, (ofText cs).Addressed ∧
          (ofText cs).head? = some (f.token value))) := by
  refine ⟨fun cs => read_eq_none_iff, ?network, ?snapshot⟩
  case network =>
    intro cs flow hhead hflow
    obtain ⟨-, -, rfl⟩ := read_eq_some_iff.mp hflow
    rw [toList_network, List.headD_eq_head?_getD, hhead, Option.getD_some]
  case snapshot =>
    intro text snapshot h
    exact Survey.exists_network_iff h

/-- Of two lines that begin with a pair, one lacks an address and shows no network. -/
theorem leading_pair_is_network_half_addressed :
    let text := "src= dst=b src=a\ndst=b src=a"
    (ofText "src= dst=b src=a".toList).read = .ok none ∧
      ∃ flow snapshot, (ofText "dst=b src=a".toList).read = .ok (some flow) ∧
        flow.key.network.toList = Field.destination.token ['b'] ∧
        Snapshot.ofText text = .ok snapshot ∧
        ¬ ∃ key ∈ snapshot.keys, key.network.toList = Field.source.token [] := by
  intro text
  have hlines : (ofText "src= dst=b src=a".toList).Readable ∧
      ¬ (ofText "src= dst=b src=a".toList).Addressed ∧
      (ofText "dst=b src=a".toList).head? = some (Field.destination.token ['b']) ∧
      (ofText "dst=b src=a".toList).Readable ∧ (ofText "dst=b src=a".toList).Addressed := by
    decide +kernel
  have htext : Survey.Readable text ∧ Survey.flows text ≠ [] ∧ ∀ cs ∈ lines text.toList,
      ¬ ((ofText cs).Addressed ∧ (ofText cs).head? = some (Field.source.token [])) := by
    decide +kernel
  obtain ⟨hreadable, hunaddressed, hhead, hread, haddressed⟩ := hlines
  obtain ⟨hsurvey, hflows, hnone⟩ := htext
  have hflow := read_eq_some_iff.mpr ⟨hread, haddressed, rfl⟩
  have hsnapshot : Snapshot.ofText text = .ok (Snapshot.ofFlows (Survey.flows text)) := by
    rw [Survey.snapshot_of_readable hsurvey, if_neg hflows]
  obtain ⟨hpassed, hnetwork, -⟩ := leading_pair_is_network .destination ['b']
  obtain ⟨-, -, hshown⟩ := leading_pair_is_network .source []
  refine ⟨(hpassed _).mpr ⟨hreadable, hunaddressed⟩, _, _, hflow, ?_, hsnapshot, ?_⟩
  · exact hnetwork _ _ hhead hflow
  · rw [hshown text _ hsnapshot]
    rintro ⟨cs, hcs, hshows⟩
    exact hnone cs hcs hshows

/-- A text without a protocol in front of its pairs is not passed over, and the first pair becomes
    a label of its snapshot. -/
theorem leading_pair_is_shown :
    (ofText "src=a dst=b".toList).head? = some (Field.source.token ['a']) ∧
    (ofText "src=a dst=b".toList).read ≠ .ok none ∧
    ∃ snapshot, Snapshot.ofText "src=a dst=b" = .ok snapshot ∧
      snapshot.keys = [⟨"a", "b", "src=a", "", "0", "na"⟩] := by
  have hline : (ofText "src=a dst=b".toList).head? = some (Field.source.token ['a']) ∧
      (ofText "src=a dst=b".toList).read ≠ .ok none := by decide +kernel
  have htext : Survey.Readable "src=a dst=b" ∧ Survey.flows "src=a dst=b" ≠ [] ∧
      ((Survey.flows "src=a dst=b").map Flow.key).eraseDups =
        [⟨"a", "b", "src=a", "", "0", "na"⟩] := by
    decide +kernel
  obtain ⟨hsurvey, hflows, hkeys⟩ := htext
  refine ⟨hline.1, hline.2, _, ?_, (Snapshot.keys_ofFlows _).trans hkeys⟩
  rw [Survey.snapshot_of_readable hsurvey, if_neg hflows]

end Line

end Flowmeter
