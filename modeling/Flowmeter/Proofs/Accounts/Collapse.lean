import Flowmeter.Proofs.Accounts.Exactness
import Flowmeter.Proofs.Snapshot.Grouping

/-!
# Connections counted together

Connections with one key are counted as one, so their traffic is known only in sum. Suppose two
groups of connections had been counted apart as well. At every snapshot the sum rises by no more
than the two do, for where both rise it rises by as much, and where one falls it may hide what
the other rises by. Three accounts with baselines of their own are compared here, and what is
compared of them at each step is one inequality between clamped differences.

The totals of the three are sums of clamped rises already, so nothing of accounts is left in the
argument: a clamped difference of sums is no more than the sum of the clamped differences, and where
none of the differences is below nought both are the same. Both come down to arithmetic for one
step, and a run adds the steps up. The first step is measured from the empty snapshot, which joins
itself.

Connections are counted by key and not by group, so a key that both groups have counts once; the
larger of two counts that are nought or one is what the joined run has.
-/

set_option autoImplicit false

namespace Flowmeter

namespace Snapshot

/-- A snapshot that has the keys of two others, and shows for each what they show together. -/
structure Joins (a b joined : Snapshot) : Prop where
  keys : ∀ key, key ∈ joined.keys ↔ key ∈ a.keys ∨ key ∈ b.keys
  value : ∀ key c, joined.value key c = a.value key c + b.value key c

theorem joins_empty : Joins Table.empty Table.empty Table.empty where
  keys := by simp
  value := by simp [value]

/-- The sum of two groups of flows, in whatever order they stand together, joins their sums. -/
theorem joins_ofFlows {flows flows' together : List Flow}
    (h : together.Perm (flows ++ flows')) :
    Joins (ofFlows flows) (ofFlows flows') (ofFlows together) where
  keys := by
    intro key
    rw [mem_keys_ofFlows, mem_keys_ofFlows, mem_keys_ofFlows]
    simp only [h.mem_iff, List.mem_append, or_and_right, exists_or]
  value := by
    intro key c
    rw [value_ofFlows, value_ofFlows, value_ofFlows, sumOf_perm key c h, sumOf_append]

theorem Joins.nonneg {a b joined : Snapshot} (h : Joins a b joined) (ha : a.Nonneg)
    (hb : b.Nonneg) : joined.Nonneg := by
  intro key c
  rw [h.value key c]
  exact Int.add_nonneg (ha key c) (hb key c)

/-- A counter of a key never falls from one snapshot to the next. A key that disappears falls to
    nought. -/
def NeverFalls (history : List Snapshot) (key : Key) (c : Counter) : Prop :=
  history.IsChain fun earlier now => earlier.value key c ≤ now.value key c

instance (history : List Snapshot) (key : Key) (c : Counter) :
    Decidable (NeverFalls history key c) := by
  unfold NeverFalls
  infer_instance

/-! ## One step and all steps

The sum of rises is taken from a given snapshot on, so that the induction can go forward from any
three that belong together. -/

/-- The sum of the clamped rises from one snapshot to the next, from a given one on. -/
def risenFrom (first : Snapshot) (history : List Snapshot) (key : Key) (c : Counter) : Int :=
  (List.zipWith (fun earlier now : Snapshot => max 0 (now.value key c - earlier.value key c))
    (first :: history) history).sum

theorem risen_eq_risenFrom (history : List Snapshot) (key : Key) (c : Counter) :
    risen history key c = risenFrom Table.empty history key c :=
  rfl

theorem risenFrom_cons (first now : Snapshot) (history : List Snapshot) (key : Key)
    (c : Counter) : risenFrom first (now :: history) key c =
      max 0 (now.value key c - first.value key c) + risenFrom now history key c := by
  rw [risenFrom, List.zipWith_cons_cons, List.sum_cons, risenFrom]

variable {a b s a' b' s' : Snapshot} {runs : List (Snapshot × Snapshot)}
  {joined : List Snapshot}

/-- Where one rises and the other falls the fall is taken off, and it is not where they are
    counted apart. -/
theorem Joins.rise_le (h : Joins a b s) (h' : Joins a' b' s') (key : Key) (c : Counter) :
    max 0 (s'.value key c - s.value key c) ≤
      max 0 (a'.value key c - a.value key c) + max 0 (b'.value key c - b.value key c) := by
  rw [h.value, h'.value]
  omega

/-- Where neither of two falls, together they rise by what both rise by. -/
theorem Joins.rise_eq (h : Joins a b s) (h' : Joins a' b' s') {key : Key} {c : Counter}
    (ha : a.value key c ≤ a'.value key c) (hb : b.value key c ≤ b'.value key c) :
    max 0 (s'.value key c - s.value key c) =
      max 0 (a'.value key c - a.value key c) + max 0 (b'.value key c - b.value key c) := by
  rw [h.value, h'.value]
  omega

/-- Each of a list of snapshots joins the two of a pair. -/
def JoinEach (runs : List (Snapshot × Snapshot)) (joined : List Snapshot) : Prop :=
  List.Forall₂ (fun run s => Joins run.1 run.2 s) runs joined

theorem risenFrom_join_le (h : JoinEach runs joined) (hs : Joins a b s) (key : Key)
    (c : Counter) : risenFrom s joined key c ≤
      risenFrom a (runs.map Prod.fst) key c + risenFrom b (runs.map Prod.snd) key c := by
  -- the induction goes over the snapshots, with the three baselines moving along
  induction h generalizing a b s with
  | nil => exact Int.le_refl 0
  | cons hnow _ ih =>
    have hstep := hs.rise_le hnow key c
    have hrest := ih hnow
    rw [List.map_cons, List.map_cons, risenFrom_cons, risenFrom_cons, risenFrom_cons]
    omega

/-- As long as neither falls nothing is lost. -/
theorem risenFrom_join_eq (h : JoinEach runs joined) (hs : Joins a b s) {key : Key}
    {c : Counter} (ha : NeverFalls (a :: runs.map Prod.fst) key c)
    (hb : NeverFalls (b :: runs.map Prod.snd) key c) : risenFrom s joined key c =
      risenFrom a (runs.map Prod.fst) key c + risenFrom b (runs.map Prod.snd) key c := by
  induction h generalizing a b s with
  | nil => rfl
  | cons hnow _ ih =>
    rw [List.map_cons] at ha hb
    obtain ⟨hanow, harest⟩ := List.isChain_cons_cons.mp ha
    obtain ⟨hbnow, hbrest⟩ := List.isChain_cons_cons.mp hb
    have hstep := hs.rise_eq hnow hanow hbnow
    have hrest := ih hnow harest hbrest
    rw [List.map_cons, List.map_cons, risenFrom_cons, risenFrom_cons, risenFrom_cons]
    omega

/-- The first snapshot is compared with nought, from which no counter falls. -/
theorem NeverFalls.from_empty {history : List Snapshot} (hn : ∀ s ∈ history, s.Nonneg)
    {key : Key} {c : Counter} (h : NeverFalls history key c) :
    NeverFalls (Table.empty :: history) key c := by
  cases history with
  | nil => exact List.isChain_singleton _
  | cons s rest =>
    refine List.isChain_cons_cons.mpr ⟨?_, h⟩
    rw [value_of_not_mem (by simp)]
    exact hn s (by simp) key c

/-- A key has occurred in the joined run just if it has in one of the two. -/
theorem JoinEach.exists_mem_keys (h : JoinEach runs joined) (key : Key) :
    (∃ s ∈ joined, key ∈ s.keys) ↔
      (∃ s ∈ runs.map Prod.fst, key ∈ s.keys) ∨ ∃ s ∈ runs.map Prod.snd, key ∈ s.keys := by
  induction h with
  | nil => simp
  | cons hnow _ ih =>
    simp only [List.map_cons, List.mem_cons, exists_eq_or_imp, ih, hnow.keys]
    exact or_or_or_comm

theorem JoinEach.nonneg (h : JoinEach runs joined)
    (hn : ∀ run ∈ runs, run.1.Nonneg ∧ run.2.Nonneg) : ∀ s ∈ joined, s.Nonneg := by
  induction h with
  | nil => simp
  | cons hnow _ ih =>
    obtain ⟨ha, hb⟩ := hn _ (List.mem_cons_self ..)
    have hrest := ih fun run hrun => hn run (List.mem_cons_of_mem _ hrun)
    intro s hs
    rcases List.mem_cons.mp hs with rfl | hs
    · exact hnow.nonneg ha hb
    · exact hrest s hs

end Snapshot

namespace Accounts

open Snapshot

/-- **Connections counted together are never overcounted.** Two runs of as many snapshots, none
    of them negative, are recorded each by itself, and so is the run of the snapshots that join
    them. Then no total of the joined run is more than the totals of the two together, it is as
    much for a counter that falls in neither, and a key has been new in the joined run just if
    it has been new in one of the two. The sums of two groups of flows are joined by the sum of
    all of them, so this is about connections that share a key. -/
theorem collapse_never_overcounts (runs : List (Snapshot × Snapshot)) (joined : List Snapshot)
    (hnonneg : ∀ run ∈ runs, run.1.Nonneg ∧ run.2.Nonneg) (hjoined : JoinEach runs joined) :
    (∀ key c, ((recordAll joined).published.total key).get c ≤
      ((recordAll (runs.map Prod.fst)).published.total key).get c +
        ((recordAll (runs.map Prod.snd)).published.total key).get c) ∧
    (∀ key c, NeverFalls (runs.map Prod.fst) key c → NeverFalls (runs.map Prod.snd) key c →
      ((recordAll joined).published.total key).get c =
        ((recordAll (runs.map Prod.fst)).published.total key).get c +
          ((recordAll (runs.map Prod.snd)).published.total key).get c) ∧
    (∀ key, (recordAll joined).published.connectionCount key =
      max ((recordAll (runs.map Prod.fst)).published.connectionCount key)
        ((recordAll (runs.map Prod.snd)).published.connectionCount key)) ∧
    (∀ flows flows' together : List Flow, together.Perm (flows ++ flows') →
      Joins (ofFlows flows) (ofFlows flows') (ofFlows together)) := by
  have hfirst : ∀ s ∈ runs.map Prod.fst, s.Nonneg := by
    intro s hs
    obtain ⟨run, hrun, rfl⟩ := List.mem_map.mp hs
    exact (hnonneg run hrun).1
  have hsecond : ∀ s ∈ runs.map Prod.snd, s.Nonneg := by
    intro s hs
    obtain ⟨run, hrun, rfl⟩ := List.mem_map.mp hs
    exact (hnonneg run hrun).2
  have ra := reflects_recordAll hfirst
  have rb := reflects_recordAll hsecond
  have rs := reflects_recordAll (hjoined.nonneg hnonneg)
  refine ⟨?atMost, ?exact, ?connections, fun _ _ _ => joins_ofFlows⟩
  case atMost =>
    intro key c
    rw [ra.total, rb.total, rs.total, risen_eq_risenFrom, risen_eq_risenFrom, risen_eq_risenFrom]
    exact risenFrom_join_le hjoined joins_empty key c
  case exact =>
    intro key c ha hb
    rw [ra.total, rb.total, rs.total, risen_eq_risenFrom, risen_eq_risenFrom, risen_eq_risenFrom]
    exact risenFrom_join_eq hjoined joins_empty (ha.from_empty hfirst) (hb.from_empty hsecond)
  case connections =>
    intro key
    have hiff := hjoined.exists_mem_keys key
    rw [ra.connectionCount, rb.connectionCount, rs.connectionCount]
    by_cases ha : ∃ s ∈ runs.map Prod.fst, key ∈ s.keys
    · rw [if_pos ha, if_pos (hiff.mpr (Or.inl ha))]
      split <;> rfl
    · by_cases hb : ∃ s ∈ runs.map Prod.snd, key ∈ s.keys
      · rw [if_neg ha, if_pos hb, if_pos (hiff.mpr (Or.inr hb))]
        rfl
      · rw [if_neg ha, if_neg hb, if_neg fun h => (hiff.mp h).elim ha hb]
        rfl

/-- A flow of a client to a server with so many packets and bytes sent. -/
def sampleFlow (packets bytes : Nat) : Flow :=
  ⟨"ipv4", "tcp", ⟨"a", "b", "", "443"⟩, ⟨"b", "a", "", ""⟩, ⟨packets, bytes⟩, ⟨0, 0⟩⟩

/-- The first of two connections starts anew between two snapshots, which hides some packets of
    the other but none of its bytes. -/
theorem collapse_hides_packets :
    let runs := [(ofFlows [sampleFlow 5 10], ofFlows [sampleFlow 1 1]),
      (ofFlows [sampleFlow 2 12], ofFlows [sampleFlow 9 4])]
    let joined := [ofFlows [sampleFlow 5 10, sampleFlow 1 1],
      ofFlows [sampleFlow 2 12, sampleFlow 9 4]]
    let key := (sampleFlow 5 10).key
    (∀ run ∈ runs, run.1.Nonneg ∧ run.2.Nonneg) ∧ JoinEach runs joined ∧
    NeverFalls (runs.map Prod.fst) key .sentBytes ∧
    NeverFalls (runs.map Prod.snd) key .sentBytes ∧
    ((recordAll joined).published.total key).get .sentPackets ≤ 5 + 9 ∧
    ((recordAll joined).published.total key).get .sentPackets = 11 ∧
    ((recordAll joined).published.total key).get .sentBytes = 12 + 4 ∧
    (recordAll joined).published.connectionCount key = max 1 1 := by
  intro runs joined key
  have hnonneg : ∀ run ∈ runs, run.1.Nonneg ∧ run.2.Nonneg := by
    simp only [runs, List.mem_cons, List.not_mem_nil, or_false, forall_eq_or_imp, forall_eq]
    exact ⟨⟨nonneg_ofFlows _, nonneg_ofFlows _⟩, nonneg_ofFlows _, nonneg_ofFlows _⟩
  have hjoined : JoinEach runs joined :=
    .cons (joins_ofFlows (.refl _)) (.cons (joins_ofFlows (.refl _)) .nil)
  have hfirst : NeverFalls (runs.map Prod.fst) key .sentBytes := by decide +kernel
  have hsecond : NeverFalls (runs.map Prod.snd) key .sentBytes := by decide +kernel
  obtain ⟨hatMost, hexact, hconnections, -⟩ := collapse_never_overcounts runs joined hnonneg hjoined
  refine ⟨hnonneg, hjoined, hfirst, hsecond, hatMost key .sentPackets, ?_,
    hexact key .sentBytes hfirst hsecond, hconnections key⟩
  decide +kernel

end Accounts

end Flowmeter
