import Flowmeter.Proofs.Snapshot.Insertion

/-!
# Tables one after the other

Two table texts with a line feed between them have the lines of the one and then those of the
other, up to an empty line that says nothing. So their flows stand one behind the other, and the
snapshot is the two snapshots put together: the keys of the first in their order, then the new
keys of the second in theirs, and under each the sum of what both show. The order of the lines
decides the order of the keys and nothing else.

Two facts on lines carry everything. The lines of the joined text are those of both, with an empty
one between them where the first text ends with a line break of its own. And flows, readability and
keys are all functions of the lines, of which two do not even see the order.

A text may have no snapshot because nothing is in it, and then it counts as the empty one. This is
what lets the statement go without cases: the keys and values are those of `ofTextOrEmpty`, and when
there is a fault is said apart.
-/

set_option autoImplicit false

namespace Flowmeter

open Flowmeter.Text

/-! ## Sums of flows

Keys are kept in the order of first appearance, so those of the second list are struck out that are
in the first. -/

namespace Snapshot

/-- Leaving out repetitions and leaving out by a test can be done in either order. -/
theorem eraseDups_filter {α : Type} [DecidableEq α] (p : α → Bool) (l : List α) :
    (l.filter p).eraseDups = l.eraseDups.filter p := by
  induction l using List.reverseRecOn with
  | nil => rfl
  | append_singleton l a ih =>
    rw [List.filter_append, eraseDups_snoc]
    cases ha : p a with
    | true =>
      have hone : [a].filter p = [a] := by simp [ha]
      rw [hone, eraseDups_snoc, ih]
      by_cases hmem : a ∈ l
      · rw [if_pos (List.mem_filter.mpr ⟨hmem, ha⟩), if_pos hmem]
      · rw [if_neg fun h => hmem (List.mem_filter.mp h).1, if_neg hmem, List.filter_append, hone]
    | false =>
      have hnone : [a].filter p = [] := by simp [ha]
      rw [hnone, List.append_nil, ih]
      split
      · rfl
      · rw [List.filter_append, hnone, List.append_nil]

/-- The keys of the first, and then those of the second that are not among them. -/
theorem keys_ofFlows_append (flows more : List Flow) :
    (ofFlows (flows ++ more)).keys = (ofFlows flows).keys ++
      (ofFlows more).keys.filter fun key => key ∉ (ofFlows flows).keys := by
  rw [keys_ofFlows, keys_ofFlows, keys_ofFlows, List.map_append, List.eraseDups_append,
    ← eraseDups_filter]
  congr 2
  refine List.filter_congr fun key _ => ?_
  rw [Bool.eq_iff_iff]
  simp [List.mem_eraseDups]

theorem value_ofFlows_append (flows more : List Flow) (key : Key) (c : Counter) :
    (ofFlows (flows ++ more)).value key c =
      (ofFlows flows).value key c + (ofFlows more).value key c := by
  rw [value_ofFlows, value_ofFlows, value_ofFlows, sumOf_append]

end Snapshot

/-! ## Lines of both texts

The line feed ends the last line of the first text. If that was ended already there is an empty line
more. -/

namespace Survey

/-- Up to empty lines, which may be there or not. -/
theorem lines_concatenation (text more : String) :
    ∃ empty : List (List Char), (∀ cs ∈ empty, cs = []) ∧
      lines (text ++ "\n" ++ more).toList = lines text.toList ++ empty ++ lines more.toList := by
  have htext : (text ++ "\n" ++ more).toList = (text.toList ++ ['\n']) ++ more.toList := by
    rw [String.toList_append, String.toList_append]
    rfl
  rw [htext, lines_append (between_feed text.toList more.toList)]
  rcases lines_feed text.toList with hsame | hempty
  · exact ⟨[], by simp, by rw [hsame, List.append_nil]⟩
  · exact ⟨[[]], by simp, by rw [hempty]⟩

/-- An empty line describes nothing. -/
theorem flows_concatenation (text more : String) :
    flows (text ++ "\n" ++ more) = flows text ++ flows more := by
  obtain ⟨empty, hempty, hlines⟩ := lines_concatenation text more
  have hnone : empty.filterMap (fun cs => (Line.ofText cs).accepted?) = [] := by
    refine List.filterMap_eq_nil_iff.mpr fun cs hcs => ?_
    rw [hempty cs hcs]
    exact accepted?_of_blank rfl
  rw [flows, hlines, List.filterMap_append, List.filterMap_append, hnone, List.append_nil]
  rfl

/-- Nor is it ever refused. -/
theorem readable_concatenation (text more : String) :
    Readable (text ++ "\n" ++ more) ↔ Readable text ∧ Readable more := by
  obtain ⟨empty, hempty, hlines⟩ := lines_concatenation text more
  have hread : ∀ cs ∈ empty, (Line.ofText cs).Readable := by
    intro cs hcs
    rw [hempty cs hcs]
    exact fun token htoken => absurd htoken List.not_mem_nil
  unfold Readable
  rw [hlines, List.forall_mem_append, List.forall_mem_append]
  tauto

theorem flows_perm {text text' : String}
    (h : (lines text.toList).Perm (lines text'.toList)) : (flows text).Perm (flows text') :=
  h.filterMap _

theorem readable_perm {text text' : String}
    (h : (lines text.toList).Perm (lines text'.toList)) : Readable text ↔ Readable text' :=
  forall_congr' fun _ => imp_congr_left h.mem_iff

end Survey

/-! ## Snapshots of both texts

With readable texts there are two cases for each, flows or none; all three are told by the lists of
flows. -/

namespace Snapshot

/-- The snapshot of a text, the empty one if it has none. -/
def ofTextOrEmpty (text : String) : Snapshot :=
  (ofText text).toOption.getD Table.empty

theorem ofTextOrEmpty_of_readable {text : String} (h : Survey.Readable text) :
    ofTextOrEmpty text = ofFlows (Survey.flows text) := by
  rw [ofTextOrEmpty, Survey.snapshot_of_readable h]
  split
  case isTrue hnone =>
    rw [hnone]
    rfl
  case isFalse => rfl

/-- A readable text fails for want of flows, and for nothing else. -/
theorem ofText_eq_error_of_readable {text : String} (h : Survey.Readable text)
    {fault : SnapshotFault} :
    ofText text = .error fault ↔ fault = .noFlows ∧ Survey.flows text = [] := by
  rw [Survey.snapshot_of_readable h]
  by_cases hnone : Survey.flows text = []
  · simp [hnone, eq_comm]
  · simp [hnone]

/-- The order of the lines shows in nothing but the order of the keys. -/
theorem ofText_perm {text text' : String} (h : (lines text.toList).Perm (lines text'.toList)) :
    (∃ fault fault', ofText text = .error fault ∧ ofText text' = .error fault') ∨
    (∃ snapshot snapshot', ofText text = .ok snapshot ∧ ofText text' = .ok snapshot' ∧
      ∀ key, snapshot.get? key = snapshot'.get? key) := by
  by_cases htext : Survey.Readable text
  case neg =>
    -- the refused line is in the other text too, wherever it stands; which of several is met first
    -- may differ
    have htext' : ¬ Survey.Readable text' := mt (Survey.readable_perm h).mpr htext
    obtain ⟨fault, hfault⟩ := Survey.ofText_of_not_readable htext
    obtain ⟨fault', hfault'⟩ := Survey.ofText_of_not_readable htext'
    refine Or.inl ⟨.oversizedCounter fault, .oversizedCounter fault', ?_, ?_⟩
    · rw [ofText, hfault]
    · rw [ofText, hfault']
  case pos =>
    have htext' : Survey.Readable text' := (Survey.readable_perm h).mp htext
    have hflows : (Survey.flows text).Perm (Survey.flows text') := Survey.flows_perm h
    rw [Survey.snapshot_of_readable htext, Survey.snapshot_of_readable htext']
    by_cases hnone : Survey.flows text = []
    · rw [hnone] at hflows
      rw [if_pos hnone, if_pos hflows.nil_eq.symm]
      exact Or.inl ⟨_, _, rfl, rfl⟩
    · have hsome : Survey.flows text' ≠ [] := fun h => hnone (h ▸ hflows).eq_nil
      rw [if_neg hnone, if_neg hsome]
      exact Or.inr ⟨_, _, rfl, rfl, get?_ofFlows_perm hflows⟩

/-- **Snapshots of tables one after the other.** If all counters of two texts can be read, the
    text of both with a line feed between them has the keys of the first and then the new keys
    of the second, each with the sum of what they show, and it has no snapshot just if neither
    of them has. Two texts with the same lines in any order either have no snapshot both, or
    have snapshots that hold the same under every key. -/
theorem ofText_concatenation (text more : String) :
    (Survey.Readable text → Survey.Readable more →
      (ofTextOrEmpty (text ++ "\n" ++ more)).keys = (ofTextOrEmpty text).keys ++
        (ofTextOrEmpty more).keys.filter (fun key => key ∉ (ofTextOrEmpty text).keys) ∧
      (∀ key c, (ofTextOrEmpty (text ++ "\n" ++ more)).value key c =
        (ofTextOrEmpty text).value key c + (ofTextOrEmpty more).value key c) ∧
      (∀ fault, ofText (text ++ "\n" ++ more) = .error fault ↔
        fault = .noFlows ∧ ofText text = .error fault ∧ ofText more = .error fault)) ∧
    ((lines text.toList).Perm (lines more.toList) →
      (∃ fault fault', ofText text = .error fault ∧ ofText more = .error fault') ∨
      (∃ snapshot snapshot', ofText text = .ok snapshot ∧ ofText more = .ok snapshot' ∧
        ∀ key, snapshot.get? key = snapshot'.get? key)) := by
  refine ⟨fun htext hmore => ?_, ofText_perm⟩
  have hboth := (Survey.readable_concatenation text more).mpr ⟨htext, hmore⟩
  have hflows := Survey.flows_concatenation text more
  rw [ofTextOrEmpty_of_readable hboth, ofTextOrEmpty_of_readable htext,
    ofTextOrEmpty_of_readable hmore, hflows]
  refine ⟨keys_ofFlows_append _ _, value_ofFlows_append _ _, fun fault => ?_⟩
  rw [ofText_eq_error_of_readable hboth, ofText_eq_error_of_readable htext,
    ofText_eq_error_of_readable hmore, hflows, List.append_eq_nil_iff]
  tauto

/-- A table that ends with a carriage return, and one with a key of it and a key of its own,
    whose two lines are then exchanged. -/
theorem ofText_concatenation_shared :
    let text := "ipv4 2 tcp src=a dst=b packets=1\r"
    let more := "ipv4 2 tcp src=c dst=b packets=5\x0bipv4 2 tcp src=a dst=b packets=2"
    let exchanged := "ipv4 2 tcp src=a dst=b packets=2\nipv4 2 tcp src=c dst=b packets=5\r\n"
    (ofTextOrEmpty (text ++ "\n" ++ more)).keys =
        [⟨"a", "b", "ipv4", "tcp", "0", "na"⟩, ⟨"c", "b", "ipv4", "tcp", "0", "na"⟩] ∧
      (ofTextOrEmpty (text ++ "\n" ++ more)).value ⟨"a", "b", "ipv4", "tcp", "0", "na"⟩
        .sentPackets = 3 ∧
      ∃ snapshot snapshot', ofText more = .ok snapshot ∧ ofText exchanged = .ok snapshot' ∧
        ∀ key, snapshot.get? key = snapshot'.get? key := by
  intro text more exchanged
  have hreadable : Survey.Readable text ∧ Survey.Readable more := by decide +kernel
  have hshown : (ofTextOrEmpty text).entries =
        [(⟨"a", "b", "ipv4", "tcp", "0", "na"⟩, ⟨1, 0, 0, 0⟩)] ∧
      (ofTextOrEmpty more).entries =
        [(⟨"c", "b", "ipv4", "tcp", "0", "na"⟩, ⟨5, 0, 0, 0⟩),
          (⟨"a", "b", "ipv4", "tcp", "0", "na"⟩, ⟨2, 0, 0, 0⟩)] := by
    decide +kernel
  have hperm : (lines more.toList).Perm (lines exchanged.toList) := by decide +kernel
  obtain ⟨hkeys, hvalue, -⟩ := (ofText_concatenation text more).1 hreadable.1 hreadable.2
  refine ⟨?keys, ?value, ?exchanged⟩
  case keys =>
    rw [hkeys, Table.keys, Table.keys, hshown.1, hshown.2]
    decide
  case value =>
    rw [hvalue, value, value, Table.getD, Table.getD, Table.get?, Table.get?, hshown.1, hshown.2]
    decide
  case exchanged =>
    rcases (ofText_concatenation more exchanged).2 hperm with ⟨fault, fault', hfault, -⟩ | hsame
    · have hentries := hshown.2
      rw [ofTextOrEmpty, hfault] at hentries
      exact absurd hentries (List.cons_ne_nil _ _).symm
    · exact hsame

end Snapshot

end Flowmeter
