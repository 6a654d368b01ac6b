import Flowmeter.Proofs.Accounts.Record
import Mathlib

/-!
# Accounts and the history behind them

The accounts after any number of cycles are a function of the snapshots of those cycles that
succeeded. `Accounts.Reflects` says which: the baseline and the gauges are the last snapshot,
the keys seen are the keys of all snapshots, every count is one, and every total is the sum of
the clamped rises from each snapshot to the next. It holds before the first cycle and is kept
by each further one, so it holds after every run.

The induction goes over the history from its end, since a cycle is added there. `risen_snoc` gives
the sum of rises in this form, and `total_record` has told what one more cycle adds to a total; the
step for totals is these two put beside each other. That no snapshot shows less than nought is
needed throughout, and is asked of the snapshots and not of the accounts.

The accounts of table texts are those of the snapshots among them. A text without one leaves the
accounts as they are, so it drops out of the history.
-/

set_option autoImplicit false

namespace Flowmeter

/-! ## Histories of snapshots

A history is compared with itself, moved on by one: each snapshot with the one before, and the first
with the empty one. -/

namespace Snapshot

/-- The last snapshot of a history, the empty one before the first. -/
def latest (history : List Snapshot) : Snapshot :=
  history.getLastD Table.empty

/-- The sum of the clamped rises of a counter of a key, from each snapshot to the next; the
    first is compared with the empty one. -/
def risen (history : List Snapshot) (key : Key) (c : Counter) : Int :=
  (List.zipWith (fun earlier now : Snapshot => max 0 (now.value key c - earlier.value key c))
    (Table.empty :: history) history).sum

@[simp] theorem latest_nil : latest [] = Table.empty := rfl

@[simp] theorem latest_snoc (history : List Snapshot) (s : Snapshot) :
    latest (history ++ [s]) = s :=
  List.getLastD_concat

theorem latest_mem_or_empty (history : List Snapshot) :
    latest history ∈ history ∨ latest history = Table.empty := by
  induction history using List.reverseRecOn with
  | nil => exact Or.inr rfl
  | append_singleton history s _ => exact Or.inl (by simp)

theorem nonneg_latest {history : List Snapshot} (h : ∀ s ∈ history, s.Nonneg) :
    (latest history).Nonneg := by
  rcases latest_mem_or_empty history with hm | he
  · exact h _ hm
  · exact he ▸ nonneg_empty

/-- Comparing neighbours of a longer list adds the comparison of the new element with the
    last. -/
theorem zipWith_neighbours_snoc {α β : Type} (f : α → α → β) (first last : α) (l : List α) :
    List.zipWith f (first :: (l ++ [last])) (l ++ [last]) =
      List.zipWith f (first :: l) l ++ [f (l.getLastD first) last] := by
  induction l generalizing first with
  | nil => rfl
  | cons a l ih =>
    simp only [List.cons_append, List.zipWith_cons_cons, ih a, List.getLastD_cons]

@[simp] theorem risen_nil (key : Key) (c : Counter) : risen [] key c = 0 := rfl

/-- One more snapshot adds its rise since the one before, which is the last so far. -/
theorem risen_snoc (history : List Snapshot) (s : Snapshot) (key : Key) (c : Counter) :
    risen (history ++ [s]) key c =
      risen history key c + max 0 (s.value key c - (latest history).value key c) := by
  rw [risen, zipWith_neighbours_snoc, List.sum_append, List.sum_singleton]
  rfl

theorem risen_nonneg (history : List Snapshot) (key : Key) (c : Counter) :
    0 ≤ risen history key c := by
  induction history using List.reverseRecOn with
  | nil => exact Int.le_refl 0
  | append_singleton history s ih =>
    rw [risen_snoc]
    omega

theorem latest_value_le_risen (history : List Snapshot) (key : Key) (c : Counter) :
    (latest history).value key c ≤ risen history key c := by
  induction history using List.reverseRecOn with
  | nil => exact Int.le_of_eq (value_of_not_mem (by simp) c)
  | append_singleton history s ih =>
    rw [risen_snoc, latest_snoc]
    omega

/-- The rises of a counter add up to at least anything that was ever shown: what it fell by is
    never taken off again. -/
theorem value_le_risen {history : List Snapshot} {s : Snapshot} (hs : s ∈ history) (key : Key)
    (c : Counter) : s.value key c ≤ risen history key c := by
  induction history using List.reverseRecOn with
  | nil => cases hs
  | append_singleton history last ih =>
    rcases List.mem_append.mp hs with hs | hs
    -- shown earlier, and later rises only add to the sum
    · have hle := ih hs
      rw [risen_snoc]
      omega
    · have hle := latest_value_le_risen (history ++ [last]) key c
      rw [latest_snoc] at hle
      rw [List.mem_singleton.mp hs]
      exact hle

/-- A counter that was never shown has never risen. -/
theorem risen_eq_zero {history : List Snapshot} {key : Key} {c : Counter}
    (h : ∀ s ∈ history, s.value key c = 0) : risen history key c = 0 := by
  induction history using List.reverseRecOn with
  | nil => rfl
  | append_singleton history last ih =>
    have hlast : last.value key c = 0 := h last (by simp)
    have hbefore : (latest history).value key c = 0 := by
      rcases latest_mem_or_empty history with hm | he
      · exact h _ (List.mem_append_left _ hm)
      · exact he ▸ value_of_not_mem (by simp) c
    rw [risen_snoc, ih (fun s hs => h s (List.mem_append_left _ hs)), hlast, hbefore]
    rfl

/-- A counter has risen if and only if it was ever shown as more than nought. -/
theorem risen_ne_zero_iff {history : List Snapshot} (h : ∀ s ∈ history, s.Nonneg) (key : Key)
    (c : Counter) : risen history key c ≠ 0 ↔ ∃ s ∈ history, s.value key c ≠ 0 := by
  constructor
  · intro hne
    by_contra hnone
    push Not at hnone
    exact hne (risen_eq_zero hnone)
  · rintro ⟨s, hs, hv⟩ hzero
    have hle := value_le_risen hs key c
    have hnonneg := h s hs key c
    omega

end Snapshot

/-! ## Accounts of a history

`seen` ties the ledger to the connections: both lists of keys are extended by the same new keys,
though each by its own rule. So a key is new to the one just if it is new to the other. -/

namespace Accounts

/-- The accounts after recording snapshots one after the other. -/
def recordAll (history : List Snapshot) : Accounts :=
  history.foldl record empty

/-- What every store of the accounts is, in terms of the snapshots recorded so far. -/
structure Reflects (history : List Snapshot) (a : Accounts) : Prop where
  baseline : a.ledger.baseline = Snapshot.latest history
  gauges : a.published.snapshot = Snapshot.latest history
  /-- The keys seen are the keys counted, in the same order. -/
  seen : a.ledger.seen = a.published.connections.keys
  mem_seen : ∀ key, key ∈ a.ledger.seen ↔ ∃ s ∈ history, key ∈ s.keys
  once : ∀ key ∈ a.ledger.seen, a.published.connectionCount key = 1
  total : ∀ key c, (a.published.total key).get c = Snapshot.risen history key c
  /-- A key has a total as soon as one of its counters has risen. -/
  mem_totals : ∀ key, key ∈ a.published.totals.keys ↔ ∃ c, Snapshot.risen history key c ≠ 0

theorem reflects_empty : Reflects [] empty where
  baseline := rfl
  gauges := rfl
  seen := rfl
  mem_seen := by simp [empty, Ledger.empty]
  once := by simp [empty, Ledger.empty]
  total := fun key c => Counters.get_zero c
  mem_totals := by simp [empty, Published.empty]

variable {history : List Snapshot} {a : Accounts}

/-- A key that is new to the ledger is new to the connections too. -/
theorem Reflects.keys_connections (h : Reflects history a) (s : Snapshot) :
    (a.record s).published.connections.keys =
      a.published.connections.keys ++ (a.ledger.change s).newKeys := by
  rw [keys_connections_record, List.filter_eq_self.mpr]
  intro key hkey
  rw [← h.seen]
  exact decide_eq_true (Ledger.mem_newKeys.mp hkey).2

/-- After a cycle the keys are seen that were seen before or are shown now. -/
theorem mem_seen_record (a : Accounts) (s : Snapshot) (key : Key) :
    key ∈ (a.record s).ledger.seen ↔ key ∈ a.ledger.seen ∨ key ∈ s.keys := by
  have hnew : key ∈ (a.ledger.change s).newKeys ↔ key ∈ s.keys ∧ key ∉ a.ledger.seen :=
    Ledger.mem_newKeys
  rw [show (a.record s).ledger.seen = a.ledger.seen ++ (a.ledger.change s).newKeys from rfl,
    List.mem_append, hnew]
  tauto

/-- The step: one more snapshot keeps accounts and history in agreement. -/
theorem Reflects.record (h : Reflects history a) (hn : ∀ s ∈ history, s.Nonneg)
    (s : Snapshot) : Reflects (history ++ [s]) (a.record s) := by
  have hb : a.ledger.baseline.Nonneg := h.baseline ▸ Snapshot.nonneg_latest hn
  refine ⟨?baseline, ?gauges, ?seen, ?mem_seen, ?once, ?total, ?mem_totals⟩
  case baseline => exact (Snapshot.latest_snoc history s).symm
  case gauges => exact (Snapshot.latest_snoc history s).symm
  case seen =>
    rw [h.keys_connections s, ← h.seen]
    rfl
  case mem_seen =>
    intro key
    rw [mem_seen_record a s key, h.mem_seen key]
    constructor
    · rintro (⟨t, ht, hk⟩ | hk)
      · exact ⟨t, List.mem_append_left _ ht, hk⟩
      · exact ⟨s, by simp, hk⟩
    · rintro ⟨t, ht, hk⟩
      rcases List.mem_append.mp ht with ht | ht
      · exact Or.inl ⟨t, ht, hk⟩
      · exact Or.inr (List.mem_singleton.mp ht ▸ hk)
  case once =>
    intro key hkey
    rw [connectionCount_record]
    -- counted before, or counted now for the first time
    by_cases hseen : key ∈ a.ledger.seen
    · have hnot : key ∉ (a.ledger.change s).newKeys := fun hnew =>
        (Ledger.mem_newKeys.mp hnew).2 hseen
      rw [if_neg hnot, h.once key hseen]
    · have hin : key ∈ s.keys := ((mem_seen_record a s key).mp hkey).resolve_left hseen
      have hcount : a.published.connectionCount key = 0 := by
        rw [h.seen] at hseen
        exact Table.getD_of_not_mem hseen 0
      rw [if_pos (Ledger.mem_newKeys.mpr ⟨hin, hseen⟩), hcount]
  case total =>
    intro key c
    rw [total_record a s hb, h.total, h.baseline, Snapshot.risen_snoc]
  case mem_totals =>
    intro key
    rw [keys_totals_record, List.mem_append, List.mem_filter, Ledger.mem_rises hb, h.baseline]
    simp only [decide_eq_true_eq, h.mem_totals key, Snapshot.risen_snoc]
    -- totals never fall, so a sum is nonzero just if a part of it is
    have hsum : ∀ c, (Snapshot.risen history key c +
        max 0 (s.value key c - (Snapshot.latest history).value key c) ≠ 0 ↔
        Snapshot.risen history key c ≠ 0 ∨
          (Snapshot.latest history).value key c < s.value key c) := by
      intro c
      have := Snapshot.risen_nonneg history key c
      omega
    simp only [hsum, exists_or]
    tauto

/-- The run: any number of snapshots, each recorded upon those before. -/
theorem reflects_recordAll {history : List Snapshot} (hn : ∀ s ∈ history, s.Nonneg) :
    Reflects history (recordAll history) := by
  induction history using List.reverseRecOn with
  | nil => exact reflects_empty
  | append_singleton history s ih =>
    have hn' : ∀ t ∈ history, t.Nonneg := fun t ht => hn t (List.mem_append_left _ ht)
    rw [recordAll, List.foldl_append]
    exact (ih hn').record hn' s

/-! ## Accounts of table texts

The program is given texts. Each has a snapshot or fails, and a failing one is a cycle that leaves
no trace. -/

/-- The accounts after a cycle on each of some table texts. -/
def afterCycles (texts : List String) : Accounts :=
  texts.foldl cycle empty

/-- The snapshots of the texts that have one, in order. -/
def snapshotsOf (texts : List String) : List Snapshot :=
  texts.filterMap fun text => (Snapshot.ofText text).toOption

theorem snapshotsOf_append (texts more : List String) :
    snapshotsOf (texts ++ more) = snapshotsOf texts ++ snapshotsOf more :=
  List.filterMap_append

theorem nonneg_snapshotsOf (texts : List String) : ∀ s ∈ snapshotsOf texts, s.Nonneg := by
  intro s hs
  obtain ⟨text, -, ht⟩ := List.mem_filterMap.mp hs
  cases hr : Snapshot.ofText text with
  | error fault => rw [hr] at ht; cases ht
  | ok t =>
    rw [hr] at ht
    cases ht
    exact Snapshot.nonneg_ofText hr

/-- A text without snapshot leaves no trace, so only the snapshots count. -/
theorem foldl_cycle (texts : List String) (a : Accounts) :
    texts.foldl cycle a = (snapshotsOf texts).foldl record a := by
  induction texts generalizing a with
  | nil => rfl
  | cons text rest ih =>
    rw [List.foldl_cons, ih]
    cases ht : Snapshot.ofText text with
    | error fault => simp [cycle, snapshotsOf, ht, Except.toOption]
    | ok s => simp [cycle, snapshotsOf, ht, Except.toOption]

theorem afterCycles_eq_recordAll (texts : List String) :
    afterCycles texts = recordAll (snapshotsOf texts) :=
  foldl_cycle texts empty

theorem reflects_afterCycles (texts : List String) :
    Reflects (snapshotsOf texts) (afterCycles texts) := by
  rw [afterCycles_eq_recordAll]
  exact reflects_recordAll (nonneg_snapshotsOf texts)

end Accounts

end Flowmeter
