import Flowmeter.Metrics.Exposition
import Flowmeter.Proofs.Accounts.Coherence
import Flowmeter.Proofs.Accounts.Exactness
import Flowmeter.Proofs.Decimal.Range
import Flowmeter.Proofs.Snapshot.Survey

/-!
# When a scrape has an answer

A value is written as a double, and counters are not bounded by what doubles reach: a numeral
may have thousands of digits. One value beyond the doubles spoils the text of all families, and
as totals never fall it spoils every later one too. So a scrape is answered just as long as
every total is within the doubles. Gauges and connection counts do not matter: the one is never
above the total of its key, and the other is always one.

First the text: it is there just if every sample can be written, and a sample just if its value is
within the doubles. That is a condition on three stores. Then the accounts: of the three only the
totals matter, and here the invariant of the accounts is used, with the sum of rises bounding what
is shown now. Last the later cycles: the sum of rises of a longer history is no smaller.
-/

set_option autoImplicit false

namespace Flowmeter

open Decimal

/-! ## Values that have a text

A text is put together of lines, lines of samples; each layer has a result just if all its parts
have. -/

namespace Exposition

/-- A list has a result just if all its elements have one. -/
theorem isSome_mapM_iff {α β : Type} {f : α → Option β} {l : List α} :
    (l.mapM f).isSome = true ↔ ∀ x ∈ l, (f x).isSome = true := by
  induction l with
  | nil => simp
  | cons x rest ih =>
    rw [List.forall_mem_cons, ← ih, List.mapM_cons]
    cases f x with
    | none => simp
    | some y => cases rest.mapM f <;> simp

/-- A value can be written if some double is nearest to it. -/
theorem isSome_valueText?_iff {value : Int} :
    (valueText? value).isSome = true ↔ value.natAbs < Magnitude.leastBeyond := by
  rw [valueText?, Option.isSome_map, Magnitude.isSome_ofNat?_iff]

theorem isSome_lines?_iff {family : Family} : (Family.lines? family).isSome = true ↔
    ∀ sample ∈ family.samples, sample.value.natAbs < Magnitude.leastBeyond := by
  rw [Family.lines?, Option.isSome_map, isSome_mapM_iff]
  refine forall₂_congr fun sample _ => ?_
  rw [Family.sampleLine?, Option.isSome_map, isSome_valueText?_iff]

/-- Families have a text just if every sample of every family can be written as a double. -/
theorem isSome_text?_iff {families : List Family} : (text? families).isSome = true ↔
    ∀ family ∈ families, ∀ sample ∈ family.samples,
      sample.value.natAbs < Magnitude.leastBeyond := by
  rw [text?, Option.isSome_map, lines?, Option.isSome_map, isSome_mapM_iff]
  exact forall₂_congr fun _ _ => isSome_lines?_iff

end Exposition

/-! ## The published families

Nine families over three stores. What is asked of a family is asked of the table it is made from. -/

theorem Counter.mem_all (c : Counter) : c ∈ Counter.all := by
  cases c <;> decide

namespace Published

/-- The text that a scraper gets, if there is one. -/
def scrape? (published : Published) (subsystem : String) : Option String :=
  Exposition.text? (published.families subsystem)

theorem samplesOf_within_iff {table : Table Key Counters} {c : Counter} {limit : Nat} :
    (∀ sample ∈ samplesOf table c, sample.value.natAbs < limit) ↔
      ∀ key v, table.get? key = some v → (v.get c).natAbs < limit := by
  simp only [samplesOf, List.forall_mem_map, Prod.forall, Table.mem_entries_iff]

/-- The families have a text just if no value of the three stores is beyond the doubles. -/
theorem isSome_scrape?_iff {published : Published} {subsystem : String} :
    (published.scrape? subsystem).isSome = true ↔
      (∀ c key v, published.snapshot.get? key = some v →
        (v.get c).natAbs < Magnitude.leastBeyond) ∧
      (∀ key n, published.connections.get? key = some n → n < Magnitude.leastBeyond) ∧
      (∀ c key v, published.totals.get? key = some v →
        (v.get c).natAbs < Magnitude.leastBeyond) := by
  rw [scrape?, Exposition.isSome_text?_iff, families, List.forall_mem_append, List.forall_mem_map,
    List.forall_mem_cons, List.forall_mem_map]
  refine and_congr ?_ (and_congr ?_ ?_)
  · simp only [Counter.mem_all, forall_const, gauge, samplesOf_within_iff]
  · simp only [connectionFamily, List.forall_mem_map, Prod.forall, Table.mem_entries_iff,
      Int.natAbs_natCast]
  · simp only [Counter.mem_all, forall_const, totalFamily, samplesOf_within_iff]

end Published

/-! ## Accounts of a history

That gauges and counts can be left out needs the history: a value that is shown has been added to
its total, and nothing is ever taken off a total. -/

namespace Accounts

variable {history : List Snapshot} {a : Accounts} {subsystem : String}

/-- Only the totals decide whether a scrape is answered: no gauge is above its total, and every
    connection count is one. -/
theorem Reflects.isSome_scrape?_iff (h : Reflects history a) (hn : ∀ s ∈ history, s.Nonneg) :
    (a.published.scrape? subsystem).isSome = true ↔
      ∀ key c, (a.published.total key).get c < Magnitude.leastBeyond := by
  have hone : 1 < Magnitude.leastBeyond := by decide +kernel
  rw [Published.isSome_scrape?_iff]
  constructor
  · rintro ⟨-, -, htotals⟩ key c
    cases hv : a.published.totals.get? key with
    | none =>
      rw [Published.total, Table.getD_of_get?_eq_none hv, Counters.get_zero]
      omega
    | some v =>
      have hlt := htotals c key v hv
      rw [Published.total, Table.getD_of_get?_eq_some hv]
      omega
  · intro htotal
    refine ⟨?gauges, ?connections, ?totals⟩
    case gauges =>
      intro c key v hv
      have hvalue : a.published.snapshot.value key c = v.get c := Snapshot.value_of_get? hv c
      have hnonneg := Snapshot.nonneg_latest hn key c
      -- the gauge is the last value, which its total has reached
      have hle := Snapshot.latest_value_le_risen history key c
      have hlt := htotal key c
      rw [h.total] at hlt
      rw [h.gauges] at hvalue
      omega
    case connections =>
      intro key n hcount
      rw [h.connections_eq_one (Table.mem_keys_of_get? hcount), Option.some.injEq] at hcount
      omega
    case totals =>
      intro c key v hv
      have hlt := htotal key c
      have hnonneg := Snapshot.risen_nonneg history key c
      rw [← h.total] at hnonneg
      rw [Published.total, Table.getD_of_get?_eq_some hv] at hlt hnonneg
      omega

theorem isSome_scrape?_afterCycles_iff (texts : List String) :
    ((afterCycles texts).published.scrape? subsystem).isSome = true ↔
      ∀ key c, Snapshot.risen (snapshotsOf texts) key c < Magnitude.leastBeyond := by
  rw [(reflects_afterCycles texts).isSome_scrape?_iff (nonneg_snapshotsOf texts)]
  simp only [total_afterCycles]

/-- One flow beyond the doubles is enough, in whichever text it was read. -/
theorem scrape?_eq_none_of_flow {texts : List String} {text : String} (htext : text ∈ texts)
    (hreadable : Survey.Readable text) {flow : Flow} (hflow : flow ∈ Survey.flows text)
    {c : Counter} (hbeyond : (Magnitude.leastBeyond : Int) ≤ flow.counters.get c) :
    (afterCycles texts).published.scrape? subsystem = none := by
  have hsome : Survey.flows text ≠ [] := List.ne_nil_of_mem hflow
  have hsnapshot : Snapshot.ofText text = .ok (Snapshot.ofFlows (Survey.flows text)) := by
    rw [Survey.snapshot_of_readable hreadable, if_neg hsome]
  have hmem : Snapshot.ofFlows (Survey.flows text) ∈ snapshotsOf texts :=
    List.mem_filterMap.mpr ⟨text, htext, by rw [hsnapshot]; rfl⟩
  rw [← Option.not_isSome_iff_eq_none, isSome_scrape?_afterCycles_iff]
  intro hwithin
  have hflowle := Snapshot.le_sumOf hflow c
  have hrisen := Snapshot.value_le_risen hmem flow.key c
  have hlt := hwithin flow.key c
  rw [Snapshot.value_ofFlows] at hrisen
  omega

/-- **A scrape is answered as long as all totals are within the doubles.** Once there is no
    answer there is none for good, and a single flow beyond the doubles brings this about. -/
theorem scrape_answered_iff (texts : List String) (subsystem : String) :
    (((afterCycles texts).published.scrape? subsystem).isSome = true ↔
      ∀ key c, ((afterCycles texts).published.total key).get c < Magnitude.leastBeyond) ∧
    (∀ more, (afterCycles texts).published.scrape? subsystem = none →
      (afterCycles (texts ++ more)).published.scrape? subsystem = none) ∧
    (∀ text ∈ texts, Survey.Readable text → ∀ flow ∈ Survey.flows text, ∀ c,
      (Magnitude.leastBeyond : Int) ≤ flow.counters.get c →
        (afterCycles texts).published.scrape? subsystem = none) := by
  refine ⟨?_, ?_, fun text htext hreadable flow hflow c => scrape?_eq_none_of_flow htext
    hreadable hflow⟩
  · exact (reflects_afterCycles texts).isSome_scrape?_iff (nonneg_snapshotsOf texts)
  · intro more hnone
    rw [← Option.not_isSome_iff_eq_none, isSome_scrape?_afterCycles_iff] at hnone ⊢
    intro hlater
    refine hnone fun key c => ?_
    have hle := Snapshot.risen_le_append (snapshotsOf texts) (snapshotsOf more) key c
    have hlt := hlater key c
    rw [snapshotsOf_append] at hlt
    omega

theorem manyPackets_beyond : ∃ flow ∈ Survey.flows (String.ofList (Survey.manyPackets 309)),
    (Magnitude.leastBeyond : Int) ≤ flow.counters.get .sentPackets := by
  unfold Survey.flows
  rewrite [String.toList_ofList]
  decide +kernel

/-- One connection with a counter of 309 digits, and no scrape is answered any more, not even
    once the connection has gone. -/
theorem scrape_unanswered_after_manyPackets :
    (afterCycles [String.ofList (Survey.manyPackets 309), ""]).published.scrape?
      "conntrack" = none := by
  obtain ⟨flow, hflow, hbeyond⟩ := manyPackets_beyond
  have hreadable := (Survey.readable_manyPackets_iff 309).mpr (by omega)
  exact scrape?_eq_none_of_flow (List.mem_cons_self ..) hreadable hflow hbeyond

end Accounts

end Flowmeter
