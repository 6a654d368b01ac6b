import Flowmeter.Proofs.Config.Dotted

/-!
# What parts of a document come down to

A part of a document comes down to the same value wherever it is looked at, for the collections
are settled once and for all (`Document.valueOf`). So a mapping that is written out comes down
entry by entry, and a value without references is what it is.

A document of the file is not a tree: a collection may have several names and may contain itself. It
is kept as its collections with numbers, and a value that is asked for is filled in from them to the
end. Two facts are wanted of this. A mapping at the top commutes with it entry by entry
(`valueOf_map`), so that looking up and filling in may be done in either order. And what holds no
number of a collection stays as it is (`valueOf_of_closed`), which is so of all that does not come
from the file.

The proofs go by the shape of values with their lists, and stop at a number: what stands behind it
is the business of the function that fills in, whatever that is.
-/

set_option autoImplicit false

namespace Flowmeter.Config

open Association

/-! ## Filling in -/

section

variable (part : Nat → Id Value)

theorem Value.fillEntries_eq_map (entries : List (Scalar × Value)) :
    Value.fillEntries part entries =
      (entries.map fun e => (e.1, (e.2.fill part).run) : Id (List (Scalar × Value))) := by
  induction entries with
  | nil => rfl
  | cons e rest ih =>
    obtain ⟨k, v⟩ := e
    rw [Value.fillEntries, ih]
    rfl

mutual

/-- Where there are no references nothing is filled in. -/
theorem Value.fill_of_closed : ∀ {v : Value}, v.parts = [] → v.fill part = (v : Id Value)
  | .scalar _, _ | .set _, _ | .loop _ _, _ => rfl
  | .enclosing _, h => by simp [Value.parts] at h
  | .list items, h => by
      rw [Value.fill, Value.fillItems_of_closed (by simpa [Value.parts] using h)]
      rfl
  | .pair first second, h => by
      rw [Value.parts, List.append_eq_nil_iff] at h
      rw [Value.fill, Value.fill_of_closed h.1, Value.fill_of_closed h.2]
      rfl
  | .map entries, h => by
      rw [Value.fill, Value.fillEntries_of_closed (by simpa [Value.parts] using h)]
      rfl

theorem Value.fillItems_of_closed : ∀ {items : List Value}, Value.partsOfItems items = [] →
    Value.fillItems part items = (items : Id (List Value))
  | [], _ => rfl
  | v :: rest, h => by
      rw [Value.partsOfItems, List.append_eq_nil_iff] at h
      rw [Value.fillItems, Value.fill_of_closed h.1, Value.fillItems_of_closed h.2]
      rfl

theorem Value.fillEntries_of_closed : ∀ {entries : List (Scalar × Value)},
    Value.partsOfEntries entries = [] →
      Value.fillEntries part entries = (entries : Id (List (Scalar × Value)))
  | [], _ => rfl
  | (_, v) :: rest, h => by
      rw [Value.partsOfEntries, List.append_eq_nil_iff] at h
      rw [Value.fillEntries, Value.fill_of_closed h.1, Value.fillEntries_of_closed h.2]
      rfl

end

end

/-! ## What the parts of a document are written as -/

/-- What a part of a document is written as: a scalar, or the number of a collection. -/
def Value.IsPart : Value → Prop
  | .scalar _ | .enclosing _ => True
  | _ => False

/-- Wherever a document has a mapping, its keys are distinct, and its entries are written as
    parts. -/
structure Document.Keyed (d : Document) : Prop where
  value : d.value.IsPart
  mapping : ∀ {v : Value}, v.IsPart → ∀ {entries}, d.look v = .map entries →
    Distinct entries ∧ ∀ e ∈ entries, e.2.IsPart

namespace Document

variable (d : Document)

/-! ## Coming down to values -/

theorem valueOf_map (entries : List (Scalar × Value)) :
    d.valueOf (.map entries) = .map (entries.map fun e => (e.1, d.valueOf e.2)) := by
  rw [valueOf, Value.fill, Value.fillEntries_eq_map]
  rfl

theorem resolve_of_map {entries : List (Scalar × Value)} (h : d.value = .map entries) :
    d.resolve = .map (entries.map fun e => (e.1, d.valueOf e.2)) := by
  rw [resolve, h, valueOf_map]

/-- Whatever is written into a mapping, it stays one. -/
theorem value_insert {entries : List (Scalar × Value)} (h : d.value = .map entries)
    (keys : List String) (v : Value) : ∃ written, (d.insert keys v).value = .map written := by
  rw [insert]
  dsimp only
  split
  · exact ⟨entries, h⟩
  · exact ⟨_, rfl⟩

/-- A setting of a section that is written out is written there. -/
theorem insert_of_written {entries inner : List (Scalar × Value)} {group key : String}
    (hvalue : d.value = .map entries)
    (h : entries.lookup (.text group) = some (.map inner)) (v : Value) :
    d.insert [group, key] v = { d with value := .map (insertAt [group, key] v entries) } := by
  have hhome : d.home? [group, key] entries = none := by
    rw [home?, h]
    rfl
  rw [insert, hvalue]
  simp only [Value.entries, hhome]

end Document

end Flowmeter.Config
