import Flowmeter.Proofs.Accounts.History

/-!
# Exact accounting

After any run of cycles every total is exactly the traffic that the snapshots have shown: the
sum of what each counter rose by from one successful cycle to the next. Nothing is counted
twice and nothing is taken back, whatever keys do in between: a counter that falls is a new
baseline, and a key that returns starts from nought.

What is stated twice is meant twice. That a total is the sum of all rises so far (`Snapshot.risen`)
describes a whole run; that one more snapshot adds the rise over the last one describes a step. The
second follows from the first by the law of `risen` for a further snapshot and is stated for those
who look at one scrape after another. No total is looked at except through `Reflects`.
-/

set_option autoImplicit false

namespace Flowmeter

namespace Snapshot

theorem risen_le_append (history more : List Snapshot) (key : Key) (c : Counter) :
    risen history key c ≤ risen (history ++ more) key c := by
  induction more using List.reverseRecOn with
  | nil => rw [List.append_nil]
  | append_singleton more s ih =>
    -- what a snapshot adds is cut off at nought
    rw [← List.append_assoc, risen_snoc]
    omega

end Snapshot

namespace Accounts

variable {history : List Snapshot} {a : Accounts}

/-! ## Connections and keys seen -/

theorem Reflects.connectionCount (h : Reflects history a) (key : Key) :
    a.published.connectionCount key = if ∃ s ∈ history, key ∈ s.keys then 1 else 0 := by
  by_cases hkey : ∃ s ∈ history, key ∈ s.keys
  · rw [if_pos hkey]
    exact h.once key ((h.mem_seen key).mpr hkey)
  · have hnot : key ∉ a.published.connections.keys := by
      rw [← h.seen, h.mem_seen key]
      exact hkey
    rw [if_neg hkey]
    exact Table.getD_of_not_mem hnot 0

/-- No key is seen twice, so the keys seen are as many as the distinct keys of all snapshots. -/
theorem Reflects.length_seen (h : Reflects history a) :
    a.ledger.seen.length = (history.flatMap Table.keys).toFinset.card := by
  have hnodup : a.ledger.seen.Nodup := h.seen ▸ a.published.connections.keys_nodup
  rw [← List.toFinset_card_of_nodup hnodup]
  congr 1
  ext key
  rw [List.mem_toFinset, List.mem_toFinset, h.mem_seen key, List.mem_flatMap]

/-! ## One more cycle

A cycle adds one snapshot to those that count, or none if its text is refused. So a failed cycle is
a run without it. -/

theorem snapshotsOf_singleton_ok {text : String} {s : Snapshot}
    (h : Snapshot.ofText text = .ok s) : snapshotsOf [text] = [s] := by
  simp [snapshotsOf, h, Except.toOption]

theorem snapshotsOf_singleton_error {text : String} {fault : SnapshotFault}
    (h : Snapshot.ofText text = .error fault) : snapshotsOf [text] = [] := by
  simp [snapshotsOf, h, Except.toOption]

theorem total_afterCycles (texts : List String) (key : Key) (c : Counter) :
    ((afterCycles texts).published.total key).get c =
      Snapshot.risen (snapshotsOf texts) key c :=
  (reflects_afterCycles texts).total key c

/-- **Exact accounting.** The first five parts give every store of the accounts in terms of the
    snapshots of the successful cycles; the last four are what follows for one run and its
    continuations: a failed cycle changes nothing, totals never fall, a further snapshot is
    compared with the last one only, and a key that the last one lacks starts from nought. -/
theorem accounting_exact (texts : List String) :
    (∀ key c, ((afterCycles texts).published.total key).get c =
      Snapshot.risen (snapshotsOf texts) key c) ∧
    (∀ key, (afterCycles texts).published.connectionCount key =
      if ∃ s ∈ snapshotsOf texts, key ∈ s.keys then 1 else 0) ∧
    (afterCycles texts).published.snapshot = Snapshot.latest (snapshotsOf texts) ∧
    (afterCycles texts).ledger.tracked = (Snapshot.latest (snapshotsOf texts)).size ∧
    (afterCycles texts).ledger.seen.length =
      ((snapshotsOf texts).flatMap Table.keys).toFinset.card ∧
    (∀ text fault, Snapshot.ofText text = .error fault →
      afterCycles (texts ++ [text]) = afterCycles texts) ∧
    (∀ more key c, ((afterCycles texts).published.total key).get c ≤
      ((afterCycles (texts ++ more)).published.total key).get c) ∧
    (∀ text s, Snapshot.ofText text = .ok s → ∀ key c,
      ((afterCycles (texts ++ [text])).published.total key).get c =
        ((afterCycles texts).published.total key).get c +
          max 0 (s.value key c - (afterCycles texts).published.snapshot.value key c)) ∧
    (∀ text s, Snapshot.ofText text = .ok s →
      ∀ key, key ∉ (afterCycles texts).published.snapshot.keys → ∀ c,
        ((afterCycles (texts ++ [text])).published.total key).get c =
          ((afterCycles texts).published.total key).get c + s.value key c) := by
  have h : Reflects (snapshotsOf texts) (afterCycles texts) := reflects_afterCycles texts
  have hstep : ∀ text s, Snapshot.ofText text = .ok s → ∀ key c,
      ((afterCycles (texts ++ [text])).published.total key).get c =
        ((afterCycles texts).published.total key).get c +
          max 0 (s.value key c - (afterCycles texts).published.snapshot.value key c) := by
    intro text s hs key c
    rw [total_afterCycles, snapshotsOf_append, snapshotsOf_singleton_ok hs,
      Snapshot.risen_snoc, h.total, h.gauges]
  refine ⟨h.total, h.connectionCount, h.gauges, ?tracked, h.length_seen, ?failed, ?monotone,
    hstep, ?returning⟩
  case tracked => rw [Ledger.tracked, h.baseline]
  case failed =>
    intro text fault hf
    rw [afterCycles_eq_recordAll, snapshotsOf_append, snapshotsOf_singleton_error hf,
      List.append_nil, ← afterCycles_eq_recordAll]
  case monotone =>
    intro more key c
    rw [total_afterCycles, total_afterCycles, snapshotsOf_append]
    exact Snapshot.risen_le_append (snapshotsOf texts) _ key c
  case returning =>
    intro text s hs key hkey c
    -- the last snapshot has nought for it, and what is shown now is no less
    have hnonneg := Snapshot.nonneg_ofText hs key c
    rw [hstep text s hs key c, Snapshot.value_of_not_mem hkey]
    omega

end Accounts

end Flowmeter
