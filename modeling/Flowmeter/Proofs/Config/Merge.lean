import Flowmeter.Config.Merge
import Flowmeter.Proofs.Association

/-!
# What one mapping laid over another holds

Laying one mapping over another decides key by key: what both have is laid over each other in
turn, what only one has stays (`lookup_overlayEntries`). The order is that of the lower mapping,
and behind it come the entries that only the upper one has, as they are
(`overlayEntries_eq_append`).

Keys are compared by what they are the same as, not by equality: a whole number, a double and a
truth value may be one key, and a double that is not a number is the same as none, not even as
itself. So sameness is symmetric and transitive but not reflexive, and lemmas on lists that ask for
a lawful comparison do not apply. What is used is that both sides of a comparison have an identity
and that these are equal (`Scalar.same_iff`).
-/

set_option autoImplicit false

namespace Flowmeter.Config

open Association

/-! ## Sameness of keys -/

theorem Scalar.same_iff {a b : Scalar} :
    (a == b) = true ↔ ∃ i, a.identity = some i ∧ b.identity = some i := by
  show Scalar.same a b = true ↔ _
  rw [Scalar.same]
  cases a.identity <;> cases b.identity <;> simp [eq_comm]

instance : PartialEquivBEq Scalar where
  symm h := by
    obtain ⟨i, ha, hb⟩ := Scalar.same_iff.mp h
    exact Scalar.same_iff.mpr ⟨i, hb, ha⟩
  trans h h' := by
    obtain ⟨i, ha, hb⟩ := Scalar.same_iff.mp h
    obtain ⟨j, hb', hc⟩ := Scalar.same_iff.mp h'
    rw [hb] at hb'
    cases hb'
    exact Scalar.same_iff.mpr ⟨i, ha, hc⟩

/-- Texts are the same key just if they are equal. -/
@[simp] theorem Scalar.text_beq_text (s t : String) :
    ((Scalar.text s : Scalar) == .text t) = decide (s = t) := by
  rw [Bool.eq_iff_iff, Scalar.same_iff]
  simp [Scalar.identity, eq_comm]

/-! ## One mapping over another -/

theorem overlay_of_not_map {base : Value} (h : base.kind ≠ .map) (v : Value) :
    base.overlay v = v := by
  cases v with
  | map upper =>
    cases base with
    | map lower => exact absurd rfl h
    | _ => rfl
  | _ => rfl

/-- What stands where one thing, or none, is laid over another, or none. -/
def overlaid : Option Value → Option Value → Option Value
  | some old, some new => some (old.overlay new)
  | some old, none => some old
  | none, new => new

theorem overlayEntries_cons (lower : List (Scalar × Value)) (e : Scalar × Value)
    (rest : List (Scalar × Value)) : ∃ v, overlaid (lower.lookup e.1) (some e.2) = some v ∧
      overlayEntries lower (e :: rest) = overlayEntries (put e.1 v lower) rest := by
  obtain ⟨k, v⟩ := e
  rw [overlayEntries]
  cases lower.lookup k with
  | none => exact ⟨v, rfl, rfl⟩
  | some old => exact ⟨old.overlay v, rfl, rfl⟩

/-- What is found under a key of one mapping laid over another. -/
theorem lookup_overlayEntries {upper : List (Scalar × Value)} (h : Distinct upper)
    (lower : List (Scalar × Value)) (k : Scalar) :
    (overlayEntries lower upper).lookup k = overlaid (lower.lookup k) (upper.lookup k) := by
  induction upper generalizing lower with
  | nil =>
    rw [overlayEntries]
    cases lower.lookup k <;> rfl
  | cons e rest ih =>
    obtain ⟨v, hv, heq⟩ := overlayEntries_cons lower e rest
    rw [heq, ih (List.pairwise_cons.mp h).2, lookup_put, lookup_cons_eq]
    split
    case isTrue hk => rw [h.lookup_tail hk, lookup_congr hk, hv]; rfl
    case isFalse => rfl

/-- What is laid over entries behind which only new ones follow. -/
theorem overlayEntries_append {upper : List (Scalar × Value)} (h : Distinct upper)
    (lower new : List (Scalar × Value)) (hnew : ∀ e ∈ upper, has e.1 new = false) :
    ∃ own, keys own = keys lower ∧
      overlayEntries (lower ++ new) upper =
        own ++ (new ++ upper.filter (fun e => !has e.1 lower)) := by
  induction upper generalizing lower new with
  | nil => exact ⟨lower, rfl, by rw [overlayEntries, List.filter_nil, List.append_nil]⟩
  | cons e rest ih =>
    obtain ⟨hfirst, hrest⟩ := List.pairwise_cons.mp h
    obtain ⟨v, hv, heq⟩ := overlayEntries_cons (lower ++ new) e rest
    have hnewRest : ∀ d ∈ rest, has d.1 new = false := fun d hd =>
      hnew d (List.mem_cons_of_mem e hd)
    rw [heq]
    cases he : has e.1 lower with
    | true =>
      obtain ⟨own, hkeys, hown⟩ := ih hrest (put e.1 v lower) new hnewRest
      have hput := keys_put_of_has he v
      refine ⟨own, hkeys.trans hput, ?_⟩
      rw [put_append_of_has he, hown, List.filter_cons_of_neg (by simp [he])]
      simp only [has_congr hput]
    | false =>
      -- nothing lies under a new key, so its entry is written behind the others as it is
      have hnone : has e.1 (lower ++ new) = false := by
        rw [has, List.lookup_append, lookup_eq_none_of_has he,
          lookup_eq_none_of_has (hnew e List.mem_cons_self)]
        rfl
      rw [lookup_eq_none_of_has hnone] at hv
      cases hv
      have hnewRest' : ∀ d ∈ rest, has d.1 (new ++ [(e.1, e.2)]) = false := by
        intro d hd
        have hne : (d.1 == e.1) = false := by rw [BEq.comm, hfirst d hd]
        rw [has, List.lookup_append, lookup_eq_none_of_has (hnewRest d hd), lookup_cons_eq, hne]
        rfl
      obtain ⟨own, hkeys, hown⟩ := ih hrest lower (new ++ [(e.1, e.2)]) hnewRest'
      refine ⟨own, hkeys, ?_⟩
      rw [put_of_not_has hnone, List.append_assoc, hown,
        List.filter_cons_of_pos (by simp [he]), List.append_assoc]
      rfl

/-- The keys of the lower mapping keep their places, and behind them follow the entries that
    only the upper one has, as they are. -/
theorem overlayEntries_eq_append {upper : List (Scalar × Value)} (h : Distinct upper)
    (lower : List (Scalar × Value)) : ∃ own, keys own = keys lower ∧
      overlayEntries lower upper = own ++ upper.filter (fun e => !has e.1 lower) := by
  obtain ⟨own, hkeys, hown⟩ := overlayEntries_append h lower [] fun _ _ => rfl
  rw [List.append_nil, List.nil_append] at hown
  exact ⟨own, hkeys, hown⟩

end Flowmeter.Config
