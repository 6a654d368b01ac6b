import Flowmeter.Association
import Mathlib.Data.List.Basic

/-!
# Associations under a sameness of keys

Keys of settings are the same when they are equal as numbers or as texts, and what is no number
is the same as nothing, itself included. So sameness is symmetric and transitive and no more.
That is enough for what is looked up in an association: writing under a key changes what is
found under the keys that are the same as it, and under no others.

Two laws are missing that equality would have, and both are felt. A key may not be found where it
was put, so facts on finding one ask for it to be the same as itself. And of two keys that are the
same either may stand in the list, so what is said of a key is said up to sameness; the key that was
there first stays.
-/

set_option autoImplicit false

namespace Flowmeter

namespace Association

variable {κ ν μ : Type} [BEq κ]

/-- No key is the same as an earlier one. -/
def Distinct (entries : List (κ × ν)) : Prop :=
  entries.Pairwise fun a b => (a.1 == b.1) = false

instance (entries : List (κ × ν)) : Decidable (Distinct entries) :=
  inferInstanceAs (Decidable (entries.Pairwise fun a b => (a.1 == b.1) = false))

theorem Distinct.mapValues {entries : List (κ × ν)} (h : Distinct entries)
    (f : κ × ν → μ) : Distinct (entries.map fun e => (e.1, f e)) :=
  List.pairwise_map.mpr h

theorem lookup_cons_eq (k : κ) (e : κ × ν) (rest : List (κ × ν)) :
    (e :: rest).lookup k = if k == e.1 then some e.2 else rest.lookup k := by
  obtain ⟨j, w⟩ := e
  rw [List.lookup_cons]
  cases k == j <;> rfl

theorem lookup_mapValues (f : ν → μ) (k : κ) (entries : List (κ × ν)) :
    (entries.map fun e => (e.1, f e.2)).lookup k = (entries.lookup k).map f := by
  induction entries with
  | nil => rfl
  | cons e rest ih =>
    rw [List.map_cons, lookup_cons_eq, lookup_cons_eq, ih]
    cases k == e.1 <;> rfl

/-- What is found stands under a key that is the same, not always under the very key. -/
theorem mem_of_lookup {k : κ} {v : ν} {entries : List (κ × ν)}
    (h : entries.lookup k = some v) : ∃ e ∈ entries, (k == e.1) = true ∧ e.2 = v := by
  induction entries with
  | nil => simp at h
  | cons e rest ih =>
    rw [lookup_cons_eq] at h
    split at h
    case isTrue hk => exact ⟨e, List.mem_cons_self, hk, Option.some.inj h⟩
    case isFalse =>
      obtain ⟨d, hd, hk, rfl⟩ := ih h
      exact ⟨d, List.mem_cons_of_mem e hd, hk, rfl⟩

/-! ## Which keys occur

`has` is asked of keys before anything is written, and depends on them only. -/

theorem has_cons (k : κ) (e : κ × ν) (rest : List (κ × ν)) :
    has k (e :: rest) = (k == e.1 || has k rest) := by
  rw [has, has, lookup_cons_eq]
  cases k == e.1 <;> rfl

/-- Whether a key occurs depends on the keys only. -/
theorem has_congr {k : κ} {entries : List (κ × ν)} {others : List (κ × μ)}
    (h : keys entries = keys others) : has k entries = has k others := by
  have hany : ∀ {α : Type} (l : List (κ × α)), has k l = (keys l).any (k == ·) := by
    intro α l
    induction l with
    | nil => rfl
    | cons e rest ih => rw [has_cons, ih, keys, keys, List.map_cons, List.any_cons]
  rw [hany, hany, h]

theorem lookup_eq_none_of_has {k : κ} {entries : List (κ × ν)} (h : has k entries = false) :
    entries.lookup k = none :=
  Option.not_isSome_iff_eq_none.mp (Bool.eq_false_iff.mp h)

/-! ## Writing under a key

A key that occurs is written in its place, and any other behind all. The two cases are told apart by
`has`, which needs no law of sameness; from `lookup_congr` on the two laws that hold are assumed. -/

/-- A key that occurs keeps its place. -/
theorem keys_put_of_has {k : κ} {entries : List (κ × ν)} (h : has k entries = true) (v : ν) :
    keys (put k v entries) = keys entries := by
  induction entries with
  | nil => cases h
  | cons e rest ih =>
    rw [put]
    cases hb : k == e.1 with
    | true => rfl
    | false =>
      rw [has_cons, hb, Bool.false_or] at h
      exact congrArg (e.1 :: ·) (ih h)

theorem put_of_not_has {k : κ} {entries : List (κ × ν)} (h : has k entries = false) (v : ν) :
    put k v entries = entries ++ [(k, v)] := by
  induction entries with
  | nil => rfl
  | cons e rest ih =>
    rw [has_cons, Bool.or_eq_false_iff] at h
    rw [put, h.1]
    exact congrArg (e :: ·) (ih h.2)

/-- A key that occurs in front is written there, and what is behind stays. -/
theorem put_append_of_has {k : κ} {entries : List (κ × ν)} (h : has k entries = true) (v : ν)
    (more : List (κ × ν)) : put k v (entries ++ more) = put k v entries ++ more := by
  induction entries with
  | nil => cases h
  | cons e rest ih =>
    rw [List.cons_append, put, put]
    cases hb : k == e.1 with
    | true => rfl
    | false =>
      rw [has_cons, hb, Bool.false_or] at h
      exact congrArg (e :: ·) (ih h)

/-- Writing under a key what stands there changes nothing. -/
theorem put_of_lookup {k : κ} {v : ν} {entries : List (κ × ν)}
    (h : entries.lookup k = some v) : put k v entries = entries := by
  induction entries with
  | nil => cases h
  | cons e rest ih =>
    rw [lookup_cons_eq] at h
    rw [put]
    split at h
    case isTrue hk =>
      rw [if_pos hk, ← Option.some.inj h]
    case isFalse hk => rw [if_neg hk, ih h]

/-- Of two writings under one key the second counts, if the key is found at all. -/
theorem put_put {k : κ} (h : (k == k) = true) (v w : ν) (entries : List (κ × ν)) :
    put k w (put k v entries) = put k w entries := by
  induction entries with
  | nil =>
    show put k w [(k, v)] = [(k, w)]
    rw [put, if_pos h]
  | cons e rest ih =>
    obtain ⟨j, u⟩ := e
    rw [put, put]
    split
    case isTrue hk => rw [put, if_pos hk]
    case isFalse hk => rw [put, if_neg hk, ih]

variable [PartialEquivBEq κ]

/-- Keys that are the same are found alike. -/
theorem lookup_congr {k l : κ} (h : (k == l) = true) (entries : List (κ × ν)) :
    entries.lookup k = entries.lookup l := by
  induction entries with
  | nil => rfl
  | cons e rest ih => rw [lookup_cons_eq, lookup_cons_eq, BEq.congr_left h, ih]

/-- What is written under a key is found under all keys that are the same, and nothing else
    changes. -/
theorem lookup_put (k l : κ) (v : ν) (entries : List (κ × ν)) :
    (put k v entries).lookup l = if l == k then some v else entries.lookup l := by
  induction entries with
  | nil => rw [put, lookup_cons_eq]
  | cons e rest ih =>
    rw [put]
    cases hb : k == e.1 with
    | true =>
      -- the old name stays: whatever is the same as it is the same as the key
      rw [if_pos rfl, lookup_cons_eq, lookup_cons_eq, BEq.congr_right hb]
      split <;> rfl
    | false =>
      rw [if_neg (by simp), lookup_cons_eq, lookup_cons_eq, ih]
      cases he : l == e.1 with
      | false => rfl
      | true =>
        have hne : (l == k) = false := by rw [BEq.congr_left he, BEq.comm, hb]
        simp [hne]

/-- Under distinct keys what stands first is not found again. -/
theorem Distinct.lookup_tail {e : κ × ν} {rest : List (κ × ν)} (h : Distinct (e :: rest))
    {k : κ} (hk : (k == e.1) = true) : rest.lookup k = none := by
  refine List.lookup_eq_none_iff.mpr fun d hd => ?_
  rw [bne, BEq.congr_left hk, (List.pairwise_cons.mp h).1 d hd]
  rfl

/-- Under distinct keys each that is the same as itself is found with its own value. -/
theorem Distinct.lookup_of_mem {e : κ × ν} {entries : List (κ × ν)} (h : Distinct entries)
    (he : e ∈ entries) (hself : (e.1 == e.1) = true) : entries.lookup e.1 = some e.2 := by
  induction entries with
  | nil => cases he
  | cons d rest ih =>
    obtain ⟨hfirst, hrest⟩ := List.pairwise_cons.mp h
    rw [lookup_cons_eq]
    rcases List.mem_cons.mp he with rfl | he
    · rw [if_pos hself]
    · rw [BEq.comm, hfirst e he, if_neg Bool.false_ne_true]
      exact ih hrest he

end Association

end Flowmeter
