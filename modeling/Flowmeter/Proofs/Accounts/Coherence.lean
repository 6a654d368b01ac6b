import Flowmeter.Proofs.Accounts.History

/-!
# Ledger and published series stay in step

The ledger and the published series never look at each other; they agree because every cycle
feeds both with one snapshot. What holds between them after every run is stated here, together
with what a scraper relies on between two scrapes: a series that has once been shown stays,
where it is, for good.

Each clause is a consequence of `Reflects`, which says what every store holds in terms of the
snapshots alone. Two stores that are both told by the same snapshots agree, so none of the clauses
needs an induction of its own. Only the last one, on two moments of one run, is proved by going
through the cycles between them: it is about the order of keys, of which `Reflects` says just so
much that two stores have the same.
-/

set_option autoImplicit false

namespace Flowmeter

namespace Snapshot

theorem exists_value_ne_zero_iff {s : Snapshot} {key : Key} :
    (∃ c, s.value key c ≠ 0) ↔ ∃ v, s.get? key = some v ∧ v.isZero = false := by
  constructor
  · rintro ⟨c, hc⟩
    cases hv : s.get? key with
    | none => exact absurd (value_of_not_mem (Table.get?_eq_none_iff.mp hv) c) hc
    | some v =>
      refine ⟨v, rfl, ?_⟩
      rw [value_of_get? hv] at hc
      rw [Bool.eq_false_iff, ne_eq, Counters.isZero_iff]
      exact fun hall => hc (hall c)
  · rintro ⟨v, hv, hz⟩
    rw [Bool.eq_false_iff, ne_eq, Counters.isZero_iff, not_forall] at hz
    obtain ⟨c, hc⟩ := hz
    exact ⟨c, by rwa [value_of_get? hv]⟩

end Snapshot

namespace Accounts

/-! ## Which keys have a total

A total is made by the first rise, and a first rise is what a snapshot shows of a key, since the
baseline holds nought for it. That a snapshot shows nothing but noughts makes no total, and nor does
any later one until there is traffic. -/

variable {history : List Snapshot} {a : Accounts}

/-- A key has a total if and only if some snapshot showed traffic of it: the first that did was
    compared with a baseline of nought, so it was a rise. -/
theorem Reflects.mem_totals_iff (h : Reflects history a) (hn : ∀ s ∈ history, s.Nonneg)
    (key : Key) : key ∈ a.published.totals.keys ↔
      ∃ s ∈ history, ∃ v, s.get? key = some v ∧ v.isZero = false := by
  rw [h.mem_totals key]
  simp only [Snapshot.risen_ne_zero_iff hn, ← Snapshot.exists_value_ne_zero_iff]
  constructor
  · rintro ⟨c, s, hs, hv⟩
    exact ⟨s, hs, c, hv⟩
  · rintro ⟨s, hs, c, hv⟩
    exact ⟨c, s, hs, hv⟩

theorem Reflects.totals_not_zero (h : Reflects history a) {key : Key} {v : Counters}
    (hv : a.published.totals.get? key = some v) : v.isZero = false := by
  obtain ⟨c, hc⟩ := (h.mem_totals key).mp (Table.mem_keys_of_get? hv)
  rw [Bool.eq_false_iff, ne_eq, Counters.isZero_iff]
  intro hall
  rw [← h.total, Published.total, Table.getD_of_get?_eq_some hv] at hc
  exact hc (hall c)

theorem Reflects.totals_subset (h : Reflects history a) (hn : ∀ s ∈ history, s.Nonneg)
    {key : Key} (hkey : key ∈ a.published.totals.keys) :
    key ∈ a.published.connections.keys := by
  obtain ⟨s, hs, v, hv, -⟩ := (h.mem_totals_iff hn key).mp hkey
  rw [← h.seen, h.mem_seen key]
  exact ⟨s, hs, Table.mem_keys_of_get? hv⟩

theorem Reflects.connections_eq_one (h : Reflects history a) {key : Key}
    (hkey : key ∈ a.published.connections.keys) :
    a.published.connections.get? key = some 1 := by
  rw [Table.get?_eq_some_getD hkey 0]
  exact congrArg some (h.once key (h.seen ▸ hkey))

/-! ## Series stay where they are -/

/-- A cycle leaves the series where they are and appends the new ones. -/
theorem keys_prefix_cycle (a : Accounts) (text : String) :
    a.published.connections.keys <+: (a.cycle text).published.connections.keys ∧
      a.published.totals.keys <+: (a.cycle text).published.totals.keys := by
  unfold cycle
  cases Snapshot.ofText text with
  | error fault => exact ⟨List.prefix_rfl, List.prefix_rfl⟩
  | ok s =>
    rw [keys_connections_record, keys_totals_record]
    exact ⟨List.prefix_append _ _, List.prefix_append _ _⟩

theorem keys_prefix_foldl_cycle (more : List String) (a : Accounts) :
    a.published.connections.keys <+: (more.foldl cycle a).published.connections.keys ∧
      a.published.totals.keys <+: (more.foldl cycle a).published.totals.keys := by
  induction more generalizing a with
  | nil => exact ⟨List.prefix_rfl, List.prefix_rfl⟩
  | cons text rest ih =>
    obtain ⟨hc, ht⟩ := keys_prefix_cycle a text
    obtain ⟨hc', ht'⟩ := ih (a.cycle text)
    exact ⟨hc.trans hc', ht.trans ht'⟩

/-- **Ledger and published series stay in step** after any run of cycles: one baseline, one set
    of keys in one order, a total for just the keys that ever had traffic, and series that are
    only ever extended at the end. -/
theorem ledger_published_coherent (texts : List String) :
    (afterCycles texts).ledger.baseline = (afterCycles texts).published.snapshot ∧
    (afterCycles texts).ledger.seen = (afterCycles texts).published.connections.keys ∧
    (∀ key ∈ (afterCycles texts).published.connections.keys,
      (afterCycles texts).published.connections.get? key = some 1) ∧
    (∀ key ∈ (afterCycles texts).published.totals.keys,
      key ∈ (afterCycles texts).published.connections.keys) ∧
    (∀ key, key ∈ (afterCycles texts).published.totals.keys ↔
      ∃ s ∈ snapshotsOf texts, ∃ v, s.get? key = some v ∧ v.isZero = false) ∧
    (∀ key v, (afterCycles texts).published.totals.get? key = some v → v.isZero = false) ∧
    (∀ more,
      (afterCycles texts).published.connections.keys <+:
        (afterCycles (texts ++ more)).published.connections.keys ∧
      (afterCycles texts).published.totals.keys <+:
        (afterCycles (texts ++ more)).published.totals.keys ∧
      (afterCycles (texts ++ more)).published.connections.keys.Nodup ∧
      (afterCycles (texts ++ more)).published.totals.keys.Nodup) := by
  have h : Reflects (snapshotsOf texts) (afterCycles texts) := reflects_afterCycles texts
  have hn : ∀ s ∈ snapshotsOf texts, s.Nonneg := nonneg_snapshotsOf texts
  refine ⟨h.baseline.trans h.gauges.symm, h.seen, fun key => h.connections_eq_one,
    fun key => h.totals_subset hn, h.mem_totals_iff hn, fun key v => h.totals_not_zero, ?_⟩
  -- the series are those of one run that goes on, so they are compared cycle by cycle
  intro more
  have hlater : afterCycles (texts ++ more) = more.foldl cycle (afterCycles texts) :=
    List.foldl_append
  obtain ⟨hc, ht⟩ := keys_prefix_foldl_cycle more (afterCycles texts)
  rw [hlater]
  exact ⟨hc, ht, Table.keys_nodup _, Table.keys_nodup _⟩

end Accounts

end Flowmeter
