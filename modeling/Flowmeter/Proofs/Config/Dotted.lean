import Flowmeter.Config.Document
import Flowmeter.Proofs.Config.Merge
import Flowmeter.Proofs.Text.Words

/-!
# Looking under keys and writing under keys

What is written under keys is found there, with all its parts, and what stands under keys that
lead elsewhere stays. The second needs that no mapping in a loop stands on the way: writing under
one takes a turn of it out.

Both functions follow the keys one at a time, so all inductions are on the keys, with the entries
left open. Reading makes no difference between an entry that is missing and one below something that
is no mapping: nothing is found. Writing makes a mapping of either. So at each step the entries that
stand under the key are those of the mapping there, or none (`entriesUnder`).

A mapping may be shared, and even lie within itself. Of that only one thing is asked here, and only
for what stays: that no mapping on the way is in a loop.
-/

set_option autoImplicit false

namespace Flowmeter.Config

open Association Flowmeter.Text

/-! ## Names

A name and its keys are one thing in two forms: cutting at dots loses nothing, and what was cut can
be put together again. -/

/-- There is always a key, if only an empty one. -/
theorem keysOf_ne_nil (name : String) : keysOf name ≠ [] :=
  fun h => pieces_ne_nil _ _ (List.map_eq_nil_iff.mp h)

/-- Behind a dot the keys of another name follow. -/
theorem keysOf_append (name rest : String) :
    keysOf (name ++ "." ++ rest) = keysOf name ++ keysOf rest := by
  have hchars : (name ++ "." ++ rest).toList = name.toList ++ '.' :: rest.toList := by simp
  rw [keysOf, hchars, pieces_append_of_pos (p := (· == '.')) rfl, List.map_append, ← keysOf,
    ← keysOf]

/-! ## Looking

One key and the rest; where there is no entry there is nothing below it. -/

theorem Value.find?_map_cons (entries : List (Scalar × Value)) (key : String)
    (rest : List String) : (Value.map entries).find? (key :: rest) =
      (entries.lookup (.text key)).bind (fun part => part.find? rest) := by
  simp only [Value.find?, Value.unfold]
  cases entries.lookup (.text key) <;> rfl

theorem Value.find?_map_single (entries : List (Scalar × Value)) (key : String) :
    (Value.map entries).find? [key] = entries.lookup (.text key) := by
  rw [Value.find?_map_cons]
  cases entries.lookup (.text key) <;> rfl

/-- What is looked for under a value that is no mapping in a loop stands among its entries. -/
theorem Value.find?_entries {v : Value} (h : v.kind = .map → v.unfold = v) (key : String)
    (rest : List String) :
    (Value.map v.entries).find? (key :: rest) = v.find? (key :: rest) := by
  cases v with
  | map entries => rfl
  | loop members number =>
    show none = _
    rw [Value.find?]
    split
    case h_1 entries hmap =>
      -- it would be a mapping, and so no loop
      rw [Value.kind, hmap] at h
      cases h rfl
    case h_2 => rfl
  | _ => rfl

/-! ## Writing

What is written is looked at along another path, which goes along with it, ends before it or parts
from it. -/

/-- No mapping in a loop stands on the way along keys, before the last. -/
def OpenWay : List String → List (Scalar × Value) → Prop
  | key :: next :: rest, entries =>
      ∀ part, entries.lookup (.text key) = some part →
        (part.kind = .map → part.unfold = part) ∧ OpenWay (next :: rest) part.entries
  | _, _ => True

/-- Among no entries there is nothing in the way. -/
theorem openWay_nil (keys : List String) : OpenWay keys [] := by
  match keys with
  | [] => trivial
  | [_] => trivial
  | _ :: _ :: _ =>
    intro part h
    cases h

/-- The entries that stand under a key, as far as there are any. -/
def entriesUnder (key : String) (entries : List (Scalar × Value)) : List (Scalar × Value) :=
  ((entries.lookup (.text key)).map Value.entries).getD []

theorem insertAt_cons_cons (key next : String) (rest : List String) (v : Value)
    (entries : List (Scalar × Value)) : insertAt (key :: next :: rest) v entries =
      put (.text key) (.map (insertAt (next :: rest) v (entriesUnder key entries))) entries :=
  rfl

/-- What holds of the way holds of the rest of it. -/
theorem OpenWay.under {key next : String} {rest : List String}
    {entries : List (Scalar × Value)} (h : OpenWay (key :: next :: rest) entries) :
    OpenWay (next :: rest) (entriesUnder key entries) := by
  rw [entriesUnder]
  cases hpart : entries.lookup (.text key) with
  | none => exact openWay_nil _
  | some part => exact (h part hpart).2

/-- What is written under keys is found there, with all its parts. -/
theorem find?_insertAt_append {keys : List String} (hne : keys ≠ []) (v : Value)
    (entries : List (Scalar × Value)) (rest : List String) :
    (Value.map (insertAt keys v entries)).find? (keys ++ rest) = v.find? rest := by
  induction keys generalizing entries with
  | nil => exact absurd rfl hne
  | cons key more ih =>
    rw [List.cons_append, Value.find?_map_cons]
    cases more with
    | nil =>
      rw [insertAt, lookup_put, if_pos (by simp)]
      rfl
    | cons next more =>
      rw [insertAt_cons_cons, lookup_put, if_pos (by simp), Option.bind_some]
      exact ih (by simp) _

/-- Along the keys, before the last, stand mappings. -/
theorem find?_insertAt_of_prefix {keys path : List String} (h : path <+: keys)
    (hne : path ≠ keys) (v : Value) (entries : List (Scalar × Value)) :
    ∃ inner, (Value.map (insertAt keys v entries)).find? path = some (.map inner) := by
  induction path generalizing keys entries with
  | nil => exact ⟨_, rfl⟩
  | cons key path ih =>
    obtain ⟨more, rfl⟩ := h
    rw [List.cons_append] at hne ⊢
    obtain ⟨next, rest, heq⟩ := List.exists_cons_of_ne_nil
      (fun hnil => hne (by rw [hnil, (List.append_eq_nil_iff.mp hnil).1]) : path ++ more ≠ [])
    rw [heq, insertAt_cons_cons, Value.find?_map_cons, lookup_put, if_pos (by simp),
      Option.bind_some, ← heq]
    exact ih ⟨more, rfl⟩ (fun hpath => hne (congrArg (key :: ·) hpath)) _

/-- Of two values written under the same keys the second is there. -/
theorem insertAt_insertAt (keys : List String) (v w : Value) (entries : List (Scalar × Value)) :
    insertAt keys w (insertAt keys v entries) = insertAt keys w entries := by
  induction keys generalizing entries with
  | nil => rfl
  | cons key more ih =>
    cases more with
    | nil => exact put_put (by simp) v w entries
    | cons next more =>
      have hunder : entriesUnder key (insertAt (key :: next :: more) v entries) =
          insertAt (next :: more) v (entriesUnder key entries) := by
        rw [insertAt_cons_cons, entriesUnder, lookup_put, if_pos (by simp)]
        rfl
      rw [insertAt_cons_cons key next more w (insertAt _ v entries), hunder, ih,
        insertAt_cons_cons, put_put (by simp), insertAt_cons_cons]

/-- What stands under keys that lead elsewhere stays. -/
theorem find?_insertAt_of_apart {keys path : List String} (h : ¬ keys <+: path)
    (h' : ¬ path <+: keys) (v : Value) {entries : List (Scalar × Value)}
    (hway : OpenWay keys entries) :
    (Value.map (insertAt keys v entries)).find? path = (Value.map entries).find? path := by
  induction keys generalizing path entries with
  | nil => exact absurd (List.nil_prefix) h
  | cons key more ih =>
    cases path with
    | nil => exact absurd (List.nil_prefix) h'
    | cons first path =>
      rw [Value.find?_map_cons, Value.find?_map_cons]
      by_cases hkey : first = key
      · subst hkey
        -- the way parts later, so neither is at its end yet
        rw [List.cons_prefix_cons] at h h'
        have hmore : ¬ more <+: path := fun hp => h ⟨rfl, hp⟩
        have hpath : ¬ path <+: more := fun hp => h' ⟨rfl, hp⟩
        obtain ⟨next, more, rfl⟩ := List.exists_cons_of_ne_nil
          (fun hnil => hmore (hnil ▸ List.nil_prefix) : more ≠ [])
        obtain ⟨second, path, rfl⟩ := List.exists_cons_of_ne_nil
          (fun hnil => hpath (hnil ▸ List.nil_prefix) : path ≠ [])
        rw [insertAt_cons_cons, lookup_put, if_pos (by simp), Option.bind_some,
          ih hmore hpath hway.under, entriesUnder]
        cases hpart : entries.lookup (.text first) with
        | none => rfl
        | some part => exact Value.find?_entries (hway part hpart).1 second path
      · have hne : ((Scalar.text first : Scalar) == .text key) = false := by simp [hkey]
        cases more with
        | nil => rw [insertAt, lookup_put, hne]; rfl
        | cons next more => rw [insertAt_cons_cons, lookup_put, hne]; rfl

end Flowmeter.Config
