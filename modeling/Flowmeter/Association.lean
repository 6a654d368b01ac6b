/-!
# Associations in order of first appearance

Counters are shown in the order in which their keys were first seen, and settings in the order
in which they were written. Both are lists of pairs in which writing a key a second time keeps
its place. `put` and `List.lookup` work for any notion of sameness of keys; `Table` is the
association over keys with decidable equality, and carries the proof that no key occurs twice.
-/

set_option autoImplicit false

namespace Flowmeter

/-! ## Lists of pairs -/

namespace Association

variable {κ ν : Type}

/-- The association with `k` standing for `v`: in its old place, or at the end. -/
def put [BEq κ] (k : κ) (v : ν) : List (κ × ν) → List (κ × ν)
  | [] => [(k, v)]
  | (j, w) :: rest => if k == j then (j, v) :: rest else (j, w) :: put k v rest

/-- Whether a key is the same as `k`. -/
def has [BEq κ] (k : κ) (entries : List (κ × ν)) : Bool :=
  (entries.lookup k).isSome

def keys (entries : List (κ × ν)) : List κ :=
  entries.map Prod.fst

theorem keys_put [DecidableEq κ] (k : κ) (v : ν) (entries : List (κ × ν)) :
    keys (put k v entries) =
      if k ∈ keys entries then keys entries else keys entries ++ [k] := by
  induction entries with
  | nil => simp [put, keys]
  | cons e rest ih =>
    obtain ⟨j, w⟩ := e
    by_cases h : k = j
    · simp [put, keys, h]
    · have hb : (k == j) = false := by simp [h]
      simp only [keys] at ih
      simp only [put, hb, keys, List.map_cons, List.mem_cons, h, false_or, Bool.false_eq_true,
        if_false, ih]
      by_cases hm : k ∈ rest.map Prod.fst <;> simp [hm]

theorem lookup_put_self [DecidableEq κ] (k : κ) (v : ν) (entries : List (κ × ν)) :
    (put k v entries).lookup k = some v := by
  induction entries with
  | nil => simp [put]
  | cons e rest ih =>
    obtain ⟨j, w⟩ := e
    by_cases h : k = j
    · simp [put, h]
    · have hb : (k == j) = false := by simp [h]
      simp [put, hb, List.lookup_cons, ih]

theorem lookup_put_of_ne [DecidableEq κ] {k l : κ} (h : l ≠ k) (v : ν)
    (entries : List (κ × ν)) : (put k v entries).lookup l = entries.lookup l := by
  induction entries with
  | nil =>
    have hl : (l == k) = false := by simp [h]
    simp [put, List.lookup_cons, hl]
  | cons e rest ih =>
    obtain ⟨j, w⟩ := e
    by_cases hk : k = j
    · subst hk
      have hl : (l == k) = false := by simp [h]
      simp [put, List.lookup_cons, hl]
    · have hb : (k == j) = false := by simp [hk]
      simp only [put, hb, Bool.false_eq_true, if_false, List.lookup_cons]
      split <;> simp_all

end Association

/-! ## Tables -/

/-- An association in which no key occurs twice, in order of first appearance. -/
structure Table (κ ν : Type) where
  entries : List (κ × ν)
  nodup_keys : (Association.keys entries).Nodup

namespace Table

variable {κ ν : Type}

def empty : Table κ ν := ⟨[], by simp [Association.keys]⟩

instance : Inhabited (Table κ ν) := ⟨empty⟩

/-- The keys in order of first appearance. -/
def keys (t : Table κ ν) : List κ := Association.keys t.entries

/-- How many keys there are. -/
def size (t : Table κ ν) : Nat := t.entries.length

/-- Whether there is no entry. -/
def isEmpty (t : Table κ ν) : Bool := t.entries.isEmpty

/-- The entries to which `f` gives a value, in their order. -/
def filterMap {μ : Type} (f : κ → ν → Option μ) (t : Table κ ν) : Table κ μ where
  entries := t.entries.filterMap (fun e => (f e.1 e.2).map (e.1, ·))
  nodup_keys := by
    refine t.nodup_keys.sublist ?_
    generalize t.entries = entries
    induction entries with
    | nil => simp [Association.keys]
    | cons e rest ih =>
      simp only [Association.keys, List.filterMap_cons, List.map_cons] at ih ⊢
      cases f e.1 e.2 with
      | none => exact ih.cons _
      | some w => exact ih.cons_cons _

variable [DecidableEq κ]

/-- The value of a key. -/
def get? (t : Table κ ν) (k : κ) : Option ν := t.entries.lookup k

/-- The value of a key, `d` for a key that does not occur. -/
def getD (t : Table κ ν) (k : κ) (d : ν) : ν := (t.get? k).getD d

/-- The table in which `k` stands for `v`; a key that occurs keeps its place. -/
def put (t : Table κ ν) (k : κ) (v : ν) : Table κ ν where
  entries := Association.put k v t.entries
  nodup_keys := by
    rw [Association.keys_put]
    split
    · exact t.nodup_keys
    · next h =>
      rw [List.nodup_append]
      refine ⟨t.nodup_keys, by simp, ?_⟩
      intro a ha b hb
      simp only [List.mem_singleton] at hb
      subst hb
      exact fun e => h (e ▸ ha)

/-- The table of a list of pairs; of two pairs with one key the later value counts. -/
def ofList (entries : List (κ × ν)) : Table κ ν :=
  entries.foldl (fun t e => t.put e.1 e.2) empty

omit [DecidableEq κ] in
@[simp] theorem keys_empty : (empty : Table κ ν).keys = [] := rfl

@[simp] theorem get?_empty (k : κ) : (empty : Table κ ν).get? k = none := rfl

theorem keys_put (t : Table κ ν) (k : κ) (v : ν) :
    (t.put k v).keys = if k ∈ t.keys then t.keys else t.keys ++ [k] :=
  Association.keys_put k v t.entries

@[simp] theorem get?_put_self (t : Table κ ν) (k : κ) (v : ν) : (t.put k v).get? k = some v :=
  Association.lookup_put_self k v t.entries

theorem get?_put_of_ne (t : Table κ ν) {k l : κ} (h : l ≠ k) (v : ν) :
    (t.put k v).get? l = t.get? l :=
  Association.lookup_put_of_ne h v t.entries

end Table

end Flowmeter
