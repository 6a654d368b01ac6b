import Flowmeter.Association
import Mathlib.Data.List.Nodup

/-!
# What tables hold

A table is looked at in two ways: by its keys in order, and by the value of each key. Every
operation is described through these two views, so nothing after this module looks at the
pairs inside. The second half is about adding amounts to a table one after the other, which
is how snapshots, connection counts and totals all come about.

Keys of a table are distinct by its type, and this is what makes the two views enough: an entry is
there just if its key has that value (`mem_entries_iff`). Of associations, whose keys may be
anything, only what tables need is said here, with the keys distinct where that matters.
-/

set_option autoImplicit false

namespace Flowmeter

namespace Association

/-! ## Entries with any keys

Lookup finds the first entry of a key, so an entry that stands behind another of its key is not
found. Where keys are distinct this cannot be, and only then does changing or dropping entries
commute with lookup. -/

variable {κ ν : Type} [DecidableEq κ]

theorem lookup_eq_none_iff_not_mem {k : κ} {entries : List (κ × ν)} :
    entries.lookup k = none ↔ k ∉ keys entries := by
  induction entries with
  | nil => simp [keys]
  | cons e rest ih =>
    obtain ⟨j, w⟩ := e
    simp only [keys] at ih
    by_cases h : k = j
    · subst h
      simp [keys]
    · have hb : (k == j) = false := by simpa using h
      simp [keys, List.lookup_cons, hb, h, ih]

theorem mem_of_lookup_eq_some {k : κ} {v : ν} {entries : List (κ × ν)}
    (h : entries.lookup k = some v) : (k, v) ∈ entries := by
  induction entries with
  | nil => simp at h
  | cons e rest ih =>
    obtain ⟨j, w⟩ := e
    by_cases hk : k = j
    · subst hk
      simp only [List.lookup_cons_self, Option.some.injEq] at h
      simp [h]
    · have hb : (k == j) = false := by simpa using hk
      rw [List.lookup_cons, hb] at h
      exact List.mem_cons_of_mem _ (ih h)

/-- Under distinct keys every entry is found under its key. -/
theorem lookup_eq_some_of_mem {k : κ} {v : ν} {entries : List (κ × ν)}
    (hn : (keys entries).Nodup) (h : (k, v) ∈ entries) : entries.lookup k = some v := by
  induction entries with
  | nil => cases h
  | cons e rest ih =>
    obtain ⟨j, w⟩ := e
    obtain ⟨hj, hrest⟩ := List.nodup_cons.mp hn
    rcases List.mem_cons.mp h with heq | hmem
    · cases heq
      exact List.lookup_cons_self
    · have hne : k ≠ j := by
        rintro rfl
        exact hj (List.mem_map.mpr ⟨(k, v), hmem, rfl⟩)
      have hb : (k == j) = false := by simpa using hne
      rw [List.lookup_cons, hb]
      exact ih hrest hmem

/-- Taking out the entry of a key takes one off the entries of a kind, if it is of that kind. -/
theorem length_filter_of_lookup {k : κ} {v : ν} {entries : List (κ × ν)}
    (hn : (keys entries).Nodup) (h : entries.lookup k = some v) (p : ν → Bool) :
    (entries.filter (fun e => p e.2)).length =
      ((entries.filter (fun e => e.1 != k)).filter (fun e => p e.2)).length +
        if p v then 1 else 0 := by
  induction entries with
  | nil => cases h
  | cons e rest ih =>
    obtain ⟨j, w⟩ := e
    obtain ⟨hj, hrest⟩ := List.nodup_cons.mp hn
    -- it is the first entry, and then there is no other of its key; or it comes later
    by_cases hk : k = j
    · subst hk
      rw [List.lookup_cons_self, Option.some.injEq] at h
      subst h
      have hothers : rest.filter (fun e => e.1 != k) = rest := by
        refine List.filter_eq_self.mpr fun e he => ?_
        rw [bne_iff_ne]
        rintro rfl
        exact hj (List.mem_map.mpr ⟨e, he, rfl⟩)
      have hfirst : ((k, w) :: rest).filter (fun e => e.1 != k) = rest := by
        rw [List.filter_cons_of_neg (by simp), hothers]
      rw [hfirst, List.filter_cons]
      cases p w <;> simp
    · have hb : (k == j) = false := by simpa using hk
      have hne : (j != k) = true := by simpa using Ne.symm hk
      rw [List.lookup_cons, hb] at h
      have ih := ih hrest h
      have hkept : ((j, w) :: rest).filter (fun e => e.1 != k) =
          (j, w) :: rest.filter (fun e => e.1 != k) := List.filter_cons_of_pos hne
      rw [hkept, List.filter_cons, List.filter_cons]
      cases p w with
      | true =>
        simp only [if_true, List.length_cons, ih]
        omega
      | false => simpa using ih

/-- To change each value, or drop it, is to change or drop what is found. -/
theorem lookup_filterMap {μ : Type} (f : κ → ν → Option μ) {entries : List (κ × ν)}
    (hn : (keys entries).Nodup) (k : κ) :
    (entries.filterMap (fun e => (f e.1 e.2).map (e.1, ·))).lookup k =
      (entries.lookup k).bind (f k) := by
  induction entries with
  | nil => simp
  | cons e rest ih =>
    obtain ⟨j, w⟩ := e
    simp only [keys, List.map_cons, List.nodup_cons] at hn ih
    have ih := ih hn.2
    by_cases h : k = j
    · subst h
      have hrest : rest.lookup k = none := lookup_eq_none_iff_not_mem.mpr hn.1
      rw [hrest] at ih
      cases hf : f k w with
      | none => simpa [List.filterMap_cons, hf] using ih
      | some u => simp [hf]
    · have hb : (k == j) = false := by simpa using h
      cases hf : f j w with
      | none => simpa [List.filterMap_cons, hf, List.lookup_cons, hb] using ih
      | some u => simpa [List.filterMap_cons, hf, List.lookup_cons, hb] using ih

end Association

namespace Table

/-! ## The two views of a table -/

variable {κ ν : Type}

theorem keys_nodup (t : Table κ ν) : t.keys.Nodup := t.nodup_keys

theorem eq_empty_of_keys {t : Table κ ν} (h : t.keys = []) : t = empty := by
  obtain ⟨entries, hnodup⟩ := t
  cases entries with
  | nil => rfl
  | cons e rest => cases h

@[simp] theorem length_keys (t : Table κ ν) : t.keys.length = t.size :=
  List.length_map _

variable [DecidableEq κ]

theorem get?_eq_none_iff {t : Table κ ν} {k : κ} : t.get? k = none ↔ k ∉ t.keys :=
  Association.lookup_eq_none_iff_not_mem

/-- A key occurs if something is found under it. -/
theorem mem_keys_iff {t : Table κ ν} {k : κ} : k ∈ t.keys ↔ ∃ v, t.get? k = some v := by
  rw [← Option.ne_none_iff_exists', ne_eq, get?_eq_none_iff, not_not]

theorem mem_keys_of_get? {t : Table κ ν} {k : κ} {v : ν} (h : t.get? k = some v) :
    k ∈ t.keys :=
  mem_keys_iff.mpr ⟨v, h⟩

/-- The entries are the keys that occur, each with its value. -/
theorem mem_entries_iff {t : Table κ ν} {k : κ} {v : ν} :
    (k, v) ∈ t.entries ↔ t.get? k = some v :=
  ⟨Association.lookup_eq_some_of_mem t.nodup_keys, Association.mem_of_lookup_eq_some⟩

theorem get?_eq_some_getD {t : Table κ ν} {k : κ} (h : k ∈ t.keys) (d : ν) :
    t.get? k = some (t.getD k d) := by
  obtain ⟨v, hv⟩ := mem_keys_iff.mp h
  rw [getD, hv, Option.getD_some]

theorem getD_of_get?_eq_none {t : Table κ ν} {k : κ} (h : t.get? k = none) (d : ν) :
    t.getD k d = d := by
  rw [getD, h, Option.getD_none]

theorem getD_of_get?_eq_some {t : Table κ ν} {k : κ} {v : ν} (h : t.get? k = some v) (d : ν) :
    t.getD k d = v := by
  rw [getD, h, Option.getD_some]

theorem getD_of_not_mem {t : Table κ ν} {k : κ} (h : k ∉ t.keys) (d : ν) : t.getD k d = d :=
  getD_of_get?_eq_none (get?_eq_none_iff.mpr h) d

@[simp] theorem getD_empty (k : κ) (d : ν) : (empty : Table κ ν).getD k d = d := rfl

/-- The same for tables, whose keys are distinct by themselves. -/
theorem get?_filterMap {μ : Type} (f : κ → ν → Option μ) (t : Table κ ν) (k : κ) :
    (t.filterMap f).get? k = (t.get? k).bind (f k) :=
  Association.lookup_filterMap f t.nodup_keys k

/-- A key is left if it has a value from which one is made. -/
theorem mem_keys_filterMap {μ : Type} {f : κ → ν → Option μ} {t : Table κ ν} {k : κ} :
    k ∈ (t.filterMap f).keys ↔ ∃ v w, t.get? k = some v ∧ f k v = some w := by
  rw [mem_keys_iff, get?_filterMap]
  constructor
  · rintro ⟨w, hw⟩
    obtain ⟨v, hv, hf⟩ := Option.bind_eq_some_iff.mp hw
    exact ⟨v, w, hv, hf⟩
  · rintro ⟨v, w, hv, hf⟩
    exact ⟨w, Option.bind_eq_some_iff.mpr ⟨v, hv, hf⟩⟩

@[simp] theorem getD_put_self (t : Table κ ν) (k : κ) (v d : ν) : (t.put k v).getD k d = v := by
  rw [getD, get?_put_self, Option.getD_some]

theorem getD_put_of_ne (t : Table κ ν) {k l : κ} (h : l ≠ k) (v d : ν) :
    (t.put k v).getD l d = t.getD l d := by
  rw [getD, get?_put_of_ne t h, getD]

/-! ## Adding amounts

Amounts are added one after the other, and a key that is given twice would be added to twice. Here
keys are distinct, so every amount meets the table as it was before all of them.

The accounts are three such sums: of what the lines of a table say, of the connections seen, and of
the rises from one snapshot to the next. What is said here of keys and of values is all that they
share, and neither lemma asks what is added. -/

/-- The table with an amount added to what a key has, `zero` if it has nothing. -/
def addTo [Add ν] (zero : ν) (t : Table κ ν) (entry : κ × ν) : Table κ ν :=
  t.put entry.1 (t.getD entry.1 zero + entry.2)

/-- Adding to distinct keys appends those that are new, in their order. -/
theorem keys_foldl_addTo [Add ν] (zero : ν) {entries : List (κ × ν)}
    (hn : (Association.keys entries).Nodup) (t : Table κ ν) :
    (entries.foldl (addTo zero) t).keys =
      t.keys ++ (Association.keys entries).filter (fun k => k ∉ t.keys) := by
  induction entries generalizing t with
  -- nothing is added, and nothing is new
  | nil => simp [Association.keys]
  | cons e rest ih =>
    obtain ⟨j, w⟩ := e
    simp only [Association.keys, List.map_cons, List.nodup_cons] at hn ih
    -- later keys are none of them the first, so it is no matter that the first is there now
    have hrest : ∀ k ∈ rest.map Prod.fst, k ≠ j := fun k hk he => hn.1 (he ▸ hk)
    rw [List.foldl_cons, ih hn.2, addTo, keys_put]
    simp only [Association.keys, List.map_cons, List.filter_cons]
    by_cases h : j ∈ t.keys
    · simp [h]
    · rw [if_neg h, List.append_assoc, decide_eq_true h, if_pos rfl, List.singleton_append]
      congr 2
      refine List.filter_congr fun k hk => ?_
      simp [hrest k hk]

/-- Adding to distinct keys adds to each what is meant for it. -/
theorem getD_foldl_addTo [Add ν] (zero : ν) {entries : List (κ × ν)}
    (hn : (Association.keys entries).Nodup) (t : Table κ ν) (k : κ) :
    (entries.foldl (addTo zero) t).getD k zero =
      match entries.lookup k with
      | none => t.getD k zero
      | some amount => t.getD k zero + amount := by
  induction entries generalizing t with
  | nil => rfl
  | cons e rest ih =>
    obtain ⟨j, w⟩ := e
    simp only [Association.keys, List.map_cons, List.nodup_cons] at hn ih
    rw [List.foldl_cons, ih hn.2, addTo]
    by_cases h : k = j
    · subst h
      -- its amount has been added, and none of the later ones is for it
      have hrest : rest.lookup k = none := Association.lookup_eq_none_iff_not_mem.mpr hn.1
      rw [hrest, List.lookup_cons_self]
      exact getD_put_self t k _ zero
    · have hb : (k == j) = false := by simpa using h
      rw [List.lookup_cons, hb, getD_put_of_ne t h]

end Table

end Flowmeter
