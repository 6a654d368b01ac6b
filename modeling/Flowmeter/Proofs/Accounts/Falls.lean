import Flowmeter.Proofs.Accounts.Collapse

/-!
# What totals keep of counters that fall

A counter goes up by its rises and down by its falls, so its rises add up to where it stands and
to all it has ever fallen by. A total is the sum of the rises. It therefore exceeds the gauge that
is published beside it by just the traffic that the kernel no longer shows, and the two agree as
long as the counter has never fallen and its key has never left the table with anything on it.

Rises and falls are sums over the same neighbours. Each step moves the counter by its rise less its
fall, of which one is nought, and so the sums differ by where the counter stands now. That is one
line of arithmetic in the induction, and the rest of the module says when the falls are nought: no
neighbour is less than the one before, where a key that is gone shows nought.
-/

set_option autoImplicit false

namespace Flowmeter

namespace Snapshot

/-- The sum of what a counter of a key fell by, from each snapshot to the next. A key that
    disappears falls to nought; the first snapshot is compared with the empty one. -/
def fallen (history : List Snapshot) (key : Key) (c : Counter) : Int :=
  (List.zipWith (fun earlier now : Snapshot => max 0 (earlier.value key c - now.value key c))
    (Table.empty :: history) history).sum

/-- From each snapshot to the next, a key that is still there shows no less than before, and one
    that has gone had shown nought. -/
def Kept (history : List Snapshot) (key : Key) (c : Counter) : Prop :=
  history.IsChain fun earlier now =>
    (key ∈ now.keys → earlier.value key c ≤ now.value key c) ∧
    (key ∉ now.keys → earlier.value key c = 0)

instance (history : List Snapshot) (key : Key) (c : Counter) :
    Decidable (Kept history key c) := by
  unfold Kept
  infer_instance

variable (history : List Snapshot) (key : Key) (c : Counter)

theorem fallen_snoc (s : Snapshot) : fallen (history ++ [s]) key c =
    fallen history key c + max 0 ((latest history).value key c - s.value key c) := by
  unfold fallen
  rw [zipWith_neighbours_snoc, List.sum_append, List.sum_singleton]
  rfl

theorem fallen_nonneg : 0 ≤ fallen history key c := by
  induction history using List.reverseRecOn with
  | nil => exact Int.le_refl 0
  | append_singleton history s ih =>
    rw [fallen_snoc]
    omega

/-- One more snapshot moves both sides by as much: where it stands higher by its rise, where it
    stands lower by nothing, since what is lost from sight is added to the falls. -/
theorem risen_eq_latest_add_fallen :
    risen history key c = (latest history).value key c + fallen history key c := by
  induction history using List.reverseRecOn with
  | nil =>
    have hempty : (latest []).value key c = 0 := value_of_not_mem (by simp) c
    rw [hempty]
    rfl
  | append_singleton history s ih =>
    rw [risen_snoc, fallen_snoc, latest_snoc, ih]
    omega

/-- A sum of what is not negative is nought just if each part is, so there are no falls just if
    there is none from any snapshot to the next. -/
theorem fallen_eq_zero_iff :
    fallen history key c = 0 ↔ NeverFalls (Table.empty :: history) key c := by
  induction history using List.reverseRecOn with
  | nil =>
    constructor
    · intro _
      exact List.isChain_singleton _
    · intro _
      rfl
  | append_singleton history s ih =>
    -- the chain is extended by comparing with its last, which is the last snapshot or the empty one
    have hlast : (Table.empty :: history).getLast? = some (latest history) :=
      List.getLast?_cons.trans (congrArg some (List.getLastD_eq_getLast? ..).symm)
    have hnonneg := fallen_nonneg history key c
    unfold NeverFalls at ih ⊢
    rw [fallen_snoc, ← List.cons_append, List.isChain_append, ← ih, hlast]
    simp only [List.isChain_singleton, List.head?_cons, Option.mem_def, Option.some.injEq,
      forall_eq', true_and]
    omega

variable {history}

/-- Said of keys that are there and of keys that are gone, or said of values: it is the same,
    where none is below nought. -/
theorem kept_pair_iff {earlier : Snapshot} (hearlier : earlier.Nonneg) (now : Snapshot) :
    ((key ∈ now.keys → earlier.value key c ≤ now.value key c) ∧
      (key ∉ now.keys → earlier.value key c = 0)) ↔
        earlier.value key c ≤ now.value key c := by
  by_cases hkey : key ∈ now.keys
  · simp [hkey]
  · have hpos := hearlier key c
    simp only [hkey, false_implies, not_false_eq_true, forall_const, true_and,
      value_of_not_mem hkey c]
    omega

/-- Where no counter is below nought, a counter that never falls is one that is never lost. -/
theorem kept_iff_neverFalls (hn : ∀ s ∈ history, s.Nonneg) :
    Kept history key c ↔ NeverFalls (Table.empty :: history) key c := by
  have htail : Kept history key c ↔ NeverFalls history key c := by
    unfold Kept NeverFalls
    induction history with
    | nil => simp
    | cons earlier rest ih =>
      have ih := ih fun s hs => hn s (List.mem_cons_of_mem earlier hs)
      cases rest with
      | nil => simp
      | cons now rest =>
        rw [List.isChain_cons_cons, List.isChain_cons_cons, ih,
          kept_pair_iff key c (hn earlier List.mem_cons_self) now]
  rw [htail]
  constructor
  · intro h
    exact h.from_empty hn
  · intro h
    exact List.IsChain.tail h

end Snapshot

namespace Accounts

open Snapshot

/-- **A total is the gauge beside it and all that the counter ever fell by.** So it is never
    below that gauge, nor below any value that was ever published, and it is that gauge just if
    nothing was ever lost from sight. Every run of table texts reaches such accounts. -/
theorem total_eq_latest_add_fallen (history : List Snapshot) (hn : ∀ s ∈ history, s.Nonneg) :
    (∀ key c, ((recordAll history).published.total key).get c =
      (latest history).value key c + fallen history key c) ∧
    (recordAll history).published.snapshot = latest history ∧
    (∀ key c, (recordAll history).published.snapshot.value key c ≤
      ((recordAll history).published.total key).get c) ∧
    (∀ s ∈ history, ∀ key c, s.value key c ≤ ((recordAll history).published.total key).get c) ∧
    (∀ key c, ((recordAll history).published.total key).get c =
      (recordAll history).published.snapshot.value key c ↔ Kept history key c) ∧
    (∀ texts, snapshotsOf texts = history → afterCycles texts = recordAll history) := by
  have h : Reflects history (recordAll history) := reflects_recordAll hn
  refine ⟨?identity, h.gauges, ?gauge, ?ever, ?exact, ?texts⟩
  case identity =>
    intro key c
    rw [h.total, risen_eq_latest_add_fallen]
  case gauge =>
    intro key c
    rw [h.total, h.gauges]
    exact latest_value_le_risen history key c
  case ever =>
    intro s hs key c
    rw [h.total]
    exact value_le_risen hs key c
  case exact =>
    intro key c
    rw [kept_iff_neverFalls key c hn, ← fallen_eq_zero_iff, h.total, h.gauges,
      risen_eq_latest_add_fallen]
    omega
  case texts =>
    intro texts htexts
    rw [afterCycles_eq_recordAll, htexts]

/-- A key that is gone for one snapshot and returns with fewer packets. -/
theorem total_eq_latest_add_fallen_returning :
    let history := [ofFlows [sampleFlow 5 0], ofFlows [], ofFlows [sampleFlow 2 0]]
    let key := (sampleFlow 5 0).key
    (∀ s ∈ history, s.Nonneg) ∧
    ((recordAll history).published.total key).get .sentPackets = 2 + 5 ∧
    ((recordAll history).published.total key).get .sentPackets ≠
      (recordAll history).published.snapshot.value key .sentPackets ∧
    ((recordAll history).published.total key).get .sentBytes =
      (recordAll history).published.snapshot.value key .sentBytes := by
  intro history key
  have hn : ∀ s ∈ history, s.Nonneg := by
    simp only [history, List.mem_cons, List.not_mem_nil, or_false, forall_eq_or_imp, forall_eq]
    exact ⟨nonneg_ofFlows _, nonneg_ofFlows _, nonneg_ofFlows _⟩
  obtain ⟨hidentity, -, -, -, hexact, -⟩ := total_eq_latest_add_fallen history hn
  refine ⟨hn, ?_, ?_, ?_⟩
  · rw [hidentity]
    decide +kernel
  · rw [ne_eq, hexact]
    decide +kernel
  · rw [hexact]
    decide +kernel

end Accounts

end Flowmeter
