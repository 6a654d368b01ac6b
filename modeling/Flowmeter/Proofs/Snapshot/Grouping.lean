import Flowmeter.Proofs.Accounts.Record
import Mathlib

/-!
# Flows summed by key

Counting a flow in touches one key, so what a key shows in the end is the sum over its own flows,
wherever they stand among the others. The keys are those of the flows, each once, in the order
in which they first appear. Both are laws of one more flow at the end, and the sum depends on
the order of the flows not at all.
-/

set_option autoImplicit false

namespace Flowmeter.Snapshot

/-- The sum of a counter over the flows of a key. -/
def sumOf (flows : List Flow) (key : Key) (c : Counter) : Int :=
  ((flows.filter (fun flow => flow.key = key)).map (fun flow => flow.counters.get c)).sum

variable (flows : List Flow) (flow : Flow) (key : Key) (c : Counter)

theorem sumOf_append (more : List Flow) :
    sumOf (flows ++ more) key c = sumOf flows key c + sumOf more key c := by
  rw [sumOf, List.filter_append, List.map_append, List.sum_append]
  rfl

theorem sumOf_singleton :
    sumOf [flow] key c = if flow.key = key then flow.counters.get c else 0 := by
  by_cases h : flow.key = key
  · simp [sumOf, h]
  · simp [sumOf, h]

variable {flows} in
/-- A sum over flows does not depend on their order. -/
theorem sumOf_perm {flows' : List Flow} (h : flows.Perm flows') :
    sumOf flows key c = sumOf flows' key c :=
  ((h.filter _).map _).sum_eq

variable {flows} in
/-- No flow shows more than its key does. -/
theorem le_sumOf {flow : Flow} (h : flow ∈ flows) (c : Counter) :
    flow.counters.get c ≤ sumOf flows flow.key c := by
  refine List.single_le_sum ?_ _ (List.mem_map_of_mem ?_)
  · intro x hx
    obtain ⟨other, -, rfl⟩ := List.mem_map.mp hx
    exact other.counters_nonneg c
  · exact List.mem_filter.mpr ⟨h, decide_eq_true rfl⟩

/-! ## One more flow -/

theorem ofFlows_snoc : ofFlows (flows ++ [flow]) = (ofFlows flows).count flow := by
  rw [ofFlows, List.foldl_append]
  rfl

theorem keys_count (snapshot : Snapshot) : (snapshot.count flow).keys =
    if flow.key ∈ snapshot.keys then snapshot.keys else snapshot.keys ++ [flow.key] :=
  Table.keys_put snapshot flow.key _

theorem value_count (snapshot : Snapshot) : (snapshot.count flow).value key c =
    snapshot.value key c + if flow.key = key then flow.counters.get c else 0 := by
  by_cases h : flow.key = key
  · subst h
    rw [if_pos rfl, value, count, Table.getD_put_self, Counters.get_add, ← value]
  · rw [if_neg h, Int.add_zero, value, count, Table.getD_put_of_ne snapshot (Ne.symm h), ← value]

/-! ## All flows -/

/-- Of a list with one more element, that element counts as a first appearance only if it has
    not been there before. -/
theorem eraseDups_snoc {α : Type} [DecidableEq α] (l : List α) (a : α) :
    (l ++ [a]).eraseDups = if a ∈ l then l.eraseDups else l.eraseDups ++ [a] := by
  rw [List.eraseDups_append]
  by_cases h : a ∈ l
  · simp [List.removeAll, h]
  · simp [List.removeAll, List.eraseDups_cons, h]

/-- The keys of a sum of flows are those of the flows, in order of first appearance. -/
theorem keys_ofFlows : (ofFlows flows).keys = (flows.map Flow.key).eraseDups := by
  induction flows using List.reverseRecOn with
  | nil => rfl
  | append_singleton flows flow ih =>
    rw [ofFlows_snoc, keys_count, ih, List.map_append, List.map_singleton, eraseDups_snoc]
    simp only [List.mem_eraseDups]

/-- What a sum of flows shows for a key is the sum over the flows of that key. -/
theorem value_ofFlows : (ofFlows flows).value key c = sumOf flows key c := by
  induction flows using List.reverseRecOn with
  | nil => exact value_of_not_mem (by simp [ofFlows]) c
  | append_singleton flows flow ih =>
    rw [ofFlows_snoc, value_count, ih, sumOf_append, sumOf_singleton]

theorem mem_keys_ofFlows : key ∈ (ofFlows flows).keys ↔ ∃ flow ∈ flows, flow.key = key := by
  rw [keys_ofFlows, List.mem_eraseDups, List.mem_map]

end Flowmeter.Snapshot
