import Flowmeter.Metrics.Published
import Flowmeter.Proofs.Table

/-!
# Recording one snapshot

What `Accounts.record` does to each of its stores, in terms of what snapshots show: totals
grow by the clamped rise of each counter, connections gain the keys that were never seen, and
both only ever append keys. Snapshots of a table text never show a negative counter, which is
what makes a key that is absent count as one that shows nought.

Every statement here is about one cycle, with any accounts before it. Where a baseline has to be
free of negative counters this stands as a hypothesis, since it is a fact about the history and not
about the record: later on it comes from the snapshot that was recorded last.

A change leaves out keys of which nothing rose, so its table of rises is smaller than the snapshot.
`value_rises` says that this can be forgotten: the clamped difference of a key that is left out is
nought. It needs the counters to be no less than nought, since a key that is absent from the
snapshot is left out as well.
-/

set_option autoImplicit false

namespace Flowmeter

/-! ## What a snapshot shows

Values are looked up for all keys, with nought for those that do not occur, so sums and differences
can be taken without asking whether a key is there. -/

/-- What a snapshot shows for a counter of a key; nought if the key does not occur. -/
def Snapshot.value (snapshot : Snapshot) (key : Key) (c : Counter) : Int :=
  (snapshot.getD key Counters.zero).get c

/-- No counter is below nought. -/
def Snapshot.Nonneg (snapshot : Snapshot) : Prop :=
  ∀ key c, 0 ≤ snapshot.value key c

theorem Snapshot.value_of_not_mem {snapshot : Snapshot} {key : Key}
    (h : key ∉ snapshot.keys) (c : Counter) : snapshot.value key c = 0 := by
  rw [Snapshot.value, Table.getD_of_not_mem h, Counters.get_zero]

theorem Snapshot.value_of_get? {snapshot : Snapshot} {key : Key} {v : Counters}
    (h : snapshot.get? key = some v) (c : Counter) :
    snapshot.value key c = v.get c := by
  rw [Snapshot.value, Table.getD, h, Option.getD_some]

theorem Snapshot.nonneg_empty : Snapshot.Nonneg Table.empty := by
  intro key c
  have hzero : Snapshot.value Table.empty key c = 0 := by
    rw [Snapshot.value, Table.getD_empty, Counters.get_zero]
  exact Int.le_of_eq hzero.symm

theorem Counters.isZero_iff {v : Counters} : v.isZero = true ↔ ∀ c, v.get c = 0 := by
  constructor
  · intro h c
    simp only [Counters.isZero, Bool.and_eq_true, beq_iff_eq] at h
    cases c <;> simp only [Counters.get, h]
  · intro h
    -- there are four counters, and `isZero` names them
    have h1 := h .sentPackets
    have h2 := h .sentBytes
    have h3 := h .receivedPackets
    have h4 := h .receivedBytes
    simp only [Counters.get] at h1 h2 h3 h4
    simp [Counters.isZero, h1, h2, h3, h4]

theorem Flow.counters_nonneg (flow : Flow) (c : Counter) : 0 ≤ flow.counters.get c := by
  cases c <;> exact Int.natCast_nonneg _

/-- A flow adds to its own key and leaves the others. -/
theorem Snapshot.Nonneg.count {snapshot : Snapshot} (h : snapshot.Nonneg)
    (flow : Flow) : Snapshot.Nonneg (Snapshot.count snapshot flow) := by
  intro key c
  by_cases hk : key = flow.key
  · subst hk
    rw [Snapshot.value, Snapshot.count, Table.getD_put_self, Counters.get_add]
    exact Int.add_nonneg (h flow.key c) (flow.counters_nonneg c)
  · rw [Snapshot.value, Snapshot.count, Table.getD_put_of_ne snapshot hk]
    exact h key c

theorem Snapshot.nonneg_ofFlows (flows : List Flow) :
    Snapshot.Nonneg (Snapshot.ofFlows flows) := by
  -- the fold is generalised over its start, since every step moves it
  suffices hfold : ∀ start : Snapshot, start.Nonneg →
      Snapshot.Nonneg (flows.foldl Snapshot.count start) from
    hfold Table.empty Snapshot.nonneg_empty
  induction flows with
  | nil => exact fun _ h => h
  | cons flow rest ih => exact fun _ h => ih _ (h.count flow)

/-- A text has a snapshot if it has a survey with a flow. -/
theorem Snapshot.ofText_eq_ok_iff {text : String} {snapshot : Snapshot} :
    Snapshot.ofText text = .ok snapshot ↔ ∃ survey, Survey.ofText text = .ok survey ∧
      survey.accepted ≠ 0 ∧ survey.snapshot = snapshot := by
  rw [Snapshot.ofText]
  cases Survey.ofText text with
  | error fault => simp
  | ok survey =>
    by_cases hnone : survey.accepted = 0
    · simp [hnone]
    · simp [hnone]

/-- A successful reading shows no counter below nought. -/
theorem Snapshot.nonneg_ofText {text : String} {snapshot : Snapshot}
    (h : Snapshot.ofText text = .ok snapshot) : snapshot.Nonneg := by
  obtain ⟨survey, hs, -, rfl⟩ := Snapshot.ofText_eq_ok_iff.mp h
  unfold Survey.ofText at hs
  cases hm : (Survey.records text).mapM Line.read with
  | error fault => rw [hm] at hs; cases hs
  | ok readings =>
    rw [hm] at hs
    cases hs
    exact Snapshot.nonneg_ofFlows _

/-! ## What a snapshot adds

Of a key there is a rise if one of its counters rose; the other three are then in it with nought or
more. -/

namespace Ledger

theorem rise?_eq_some {ledger : Ledger} {key : Key} {now rise : Counters}
    (h : ledger.rise? key now = some rise) :
    rise = now.rise (ledger.baseline.getD key Counters.zero) ∧ ∃ c, 0 < rise.get c := by
  unfold rise? at h
  simp only at h
  split at h
  · cases h
  · next hz =>
    cases h
    refine ⟨rfl, ?_⟩
    rw [Counters.isZero_iff, not_forall] at hz
    obtain ⟨c, hc⟩ := hz
    refine ⟨c, ?_⟩
    rw [Counters.get_rise] at hc ⊢
    omega

/-- No counter rose of a key that is left out. -/
theorem rise?_eq_none {ledger : Ledger} {key : Key} {now : Counters}
    (h : ledger.rise? key now = none) (c : Counter) :
    now.get c ≤ ledger.baseline.value key c := by
  unfold rise? at h
  simp only at h
  split at h
  · next hz =>
    have hc := Counters.isZero_iff.mp hz c
    rw [Counters.get_rise] at hc
    unfold Snapshot.value
    omega
  · cases h

variable {ledger : Ledger} {now : Snapshot}

/-- The rises of a change are the clamped differences, also for keys it leaves out. -/
theorem value_rises (hb : ledger.baseline.Nonneg) (key : Key) (c : Counter) :
    ((ledger.change now).rises.getD key Counters.zero).get c =
      max 0 (now.value key c - ledger.baseline.value key c) := by
  have hbase := hb key c
  rw [Table.getD, change, Table.get?_filterMap]
  cases hv : now.get? key with
  | none =>
    have hnot : key ∉ now.keys := Table.get?_eq_none_iff.mp hv
    rw [Snapshot.value_of_not_mem hnot]
    simp only [Option.bind_none, Option.getD_none, Counters.get_zero]
    omega
  | some v =>
    rw [Snapshot.value_of_get? hv, Option.bind_some]
    cases hr : ledger.rise? key v with
    | none =>
      have hle := rise?_eq_none hr c
      simp only [Option.getD_none, Counters.get_zero]
      omega
    | some rise =>
      rw [(rise?_eq_some hr).1, Option.getD_some, Counters.get_rise]
      rfl

/-- A key is among the rises if one of its counters rose. -/
theorem mem_rises (hb : ledger.baseline.Nonneg) {key : Key} :
    key ∈ (ledger.change now).rises.keys ↔
      ∃ c, ledger.baseline.value key c < now.value key c := by
  rw [change, Table.mem_keys_filterMap]
  constructor
  · rintro ⟨v, rise, hv, hr⟩
    obtain ⟨rfl, c, hc⟩ := rise?_eq_some hr
    refine ⟨c, ?_⟩
    rw [Counters.get_rise] at hc
    rw [Snapshot.value_of_get? hv]
    unfold Snapshot.value
    omega
  · rintro ⟨c, hc⟩
    cases hv : now.get? key with
    | none =>
      have hbase := hb key c
      rw [Snapshot.value_of_not_mem (Table.get?_eq_none_iff.mp hv)] at hc
      omega
    | some v =>
      cases hr : ledger.rise? key v with
      | none =>
        have hle := rise?_eq_none hr c
        rw [Snapshot.value_of_get? hv] at hc
        omega
      | some rise => exact ⟨v, rise, rfl, hr⟩

/-- Keys are new that were never seen, whatever they show. -/
theorem mem_newKeys {key : Key} :
    key ∈ (ledger.change now).newKeys ↔ key ∈ now.keys ∧ key ∉ ledger.seen := by
  simp [change, List.mem_filter]

theorem newKeys_nodup : (ledger.change now).newKeys.Nodup :=
  now.keys_nodup.filter _

end Ledger

/-! ## What is published then

The three stores are written one by one: the gauges are replaced, the totals and the connections
added to. -/

namespace Published

theorem totals_publish (published : Published) (snapshot : Snapshot) (change : Change) :
    (published.publish snapshot change).totals =
      change.rises.entries.foldl (Table.addTo Counters.zero) published.totals :=
  rfl

theorem connections_publish (published : Published) (snapshot : Snapshot) (change : Change) :
    (published.publish snapshot change).connections =
      (change.newKeys.map (·, 1)).foldl (Table.addTo 0) published.connections := by
  rw [List.foldl_map]
  rfl

/-- The keys of new connections, each with the one connection that is counted. -/
theorem keys_newConnections (keys : List Key) :
    Association.keys (keys.map (·, 1)) = keys := by
  simp [Association.keys, Function.comp_def]

end Published

namespace Accounts

variable (a : Accounts) (snapshot : Snapshot)

/-- Keys of totals come in the order in which they first rose. -/
theorem keys_totals_record :
    (a.record snapshot).published.totals.keys = a.published.totals.keys ++
      (a.ledger.change snapshot).rises.keys.filter (fun k => k ∉ a.published.totals.keys) :=
  Table.keys_foldl_addTo Counters.zero (Table.keys_nodup _) a.published.totals

/-- Keys of connections come in the order in which they were first seen. -/
theorem keys_connections_record :
    (a.record snapshot).published.connections.keys = a.published.connections.keys ++
      (a.ledger.change snapshot).newKeys.filter
        (fun k => k ∉ a.published.connections.keys) := by
  have hkeys := Published.keys_newConnections (a.ledger.change snapshot).newKeys
  rw [record, Published.connections_publish, Table.keys_foldl_addTo 0 (by
    rw [hkeys]; exact Ledger.newKeys_nodup), hkeys]

/-- Totals grow by the clamped rise of every counter since the baseline. -/
theorem total_record (hb : a.ledger.baseline.Nonneg) (key : Key) (c : Counter) :
    ((a.record snapshot).published.total key).get c = (a.published.total key).get c +
      max 0 (snapshot.value key c - a.ledger.baseline.value key c) := by
  rw [← Ledger.value_rises hb, Published.total, record, Published.totals_publish,
    Table.getD_foldl_addTo Counters.zero (Table.nodup_keys _)]
  -- what is added to a key is its entry among the rises, if it has one
  cases hr : (a.ledger.change snapshot).rises.entries.lookup key with
  | none => simp [Published.total, Table.getD_of_get?_eq_none hr]
  | some rise => simp [Published.total, Table.getD_of_get?_eq_some hr]

/-- A new key is counted once, and no other count changes. -/
theorem connectionCount_record (key : Key) :
    (a.record snapshot).published.connectionCount key = a.published.connectionCount key +
      if key ∈ (a.ledger.change snapshot).newKeys then 1 else 0 := by
  have hkeys := Published.keys_newConnections (a.ledger.change snapshot).newKeys
  have hnodup : (Association.keys ((a.ledger.change snapshot).newKeys.map (·, 1))).Nodup := by
    rw [hkeys]
    exact Ledger.newKeys_nodup
  rw [Published.connectionCount, record, Published.connections_publish,
    Table.getD_foldl_addTo 0 hnodup]
  cases hl : ((a.ledger.change snapshot).newKeys.map (·, 1)).lookup key with
  | none =>
    have hnot := Association.lookup_eq_none_iff_not_mem.mp hl
    rw [hkeys] at hnot
    simp [hnot, Published.connectionCount]
  | some n =>
    obtain ⟨j, hj, hn⟩ := List.mem_map.mp (Association.mem_of_lookup_eq_some hl)
    cases hn
    simp [hj, Published.connectionCount]

end Accounts

/-! ## The same snapshot again

Nothing is new the second time and nothing has risen, so both additions are empty and the ledger
moves to where it is. -/

theorem Ledger.newKeys_advance (ledger : Ledger) (now : Snapshot) :
    ((ledger.advance now).change now).newKeys = [] := by
  refine List.eq_nil_iff_forall_not_mem.mpr fun key hkey => ?_
  obtain ⟨hin, hnew⟩ := mem_newKeys.mp hkey
  rw [advance, List.mem_append, not_or] at hnew
  exact hnew.2 (mem_newKeys.mpr ⟨hin, hnew.1⟩)

theorem Ledger.rises_advance (ledger : Ledger) (now : Snapshot) :
    ((ledger.advance now).change now).rises = Table.empty := by
  refine Table.eq_empty_of_keys (List.eq_nil_iff_forall_not_mem.mpr fun key hkey => ?_)
  obtain ⟨v, rise, hv, hrise⟩ := Table.mem_keys_filterMap.mp hkey
  obtain ⟨rfl, c, hc⟩ := rise?_eq_some hrise
  -- the baseline is the snapshot itself, so nothing has grown since
  rw [Counters.get_rise, advance, Table.getD_of_get?_eq_some hv] at hc
  omega

/-- A snapshot that is recorded a second time adds nothing. -/
theorem Accounts.record_record (a : Accounts) (snapshot : Snapshot) :
    (a.record snapshot).record snapshot = a.record snapshot := by
  have hledger : (a.record snapshot).ledger.advance snapshot = a.ledger.advance snapshot := by
    have hnew := a.ledger.newKeys_advance snapshot
    rw [Ledger.advance, record, hnew, List.append_nil]
    rfl
  have hpublished : (a.record snapshot).published.publish snapshot
      ((a.record snapshot).ledger.change snapshot) = (a.record snapshot).published := by
    have hnew := a.ledger.newKeys_advance snapshot
    have hrises := a.ledger.rises_advance snapshot
    rw [Published.publish, record, hnew, hrises]
    rfl
  rw [record, hledger, hpublished]
  rfl

end Flowmeter
