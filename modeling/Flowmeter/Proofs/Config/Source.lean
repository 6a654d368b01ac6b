import Flowmeter.Proofs.Config.Settings

/-!
# Settings of files

The settings of a file may stand under one key, and are a mapping if anything can be told of
them. Its built-in sections are written out before anything is laid over them, and have distinct
keys, as all mappings of a file.

A document is looked at through two questions: is it a mapping, and are its sections. `settings?`
answers the first the way the program goes about it, with the key for all settings in between, and
`Sectioned` the second. With both answered the settings are a list of entries, `written`, in which
each section stands as the mapping that it is, and what is laid over the defaults later on is just
this list.
-/

set_option autoImplicit false

namespace Flowmeter.Config

open Association

namespace Document

/-- The mapping that a part of a document is. -/
def mapping? (d : Document) (part : Value) : Option (List (Scalar × Value)) :=
  match d.look part with
  | .map entries => some entries
  | _ => none

/-- The settings of a file: what its document holds, or what stands there under the key for all
    settings. A document that says nothing has none, and what is no mapping has no such thing. -/
def settings? (d : Document) : Option (List (Scalar × Value)) :=
  if (d.look d.value).isGiven then
    (d.mapping? d.value).bind fun outer =>
      match outer.lookup (.text envelopeKey) with
      | none => some outer
      | some part => d.mapping? part
  else some []

/-- Each built-in section is a mapping, if it is there. -/
def Sectioned (d : Document) (entries : List (Scalar × Value)) : Prop :=
  ∀ e ∈ entries, has e.1 defaults = true → (d.mapping? e.2).isSome = true

instance (d : Document) (entries : List (Scalar × Value)) : Decidable (d.Sectioned entries) :=
  inferInstanceAs (Decidable (∀ e ∈ entries, _))

/-- What a file has in a section. -/
def within (d : Document) (entries : List (Scalar × Value)) (group : String) :
    List (Scalar × Value) :=
  ((entries.lookup (.text group)).bind d.mapping?).getD []

/-- The settings of a file with the built-in sections written out. -/
def written (d : Document) (entries : List (Scalar × Value)) : List (Scalar × Value) :=
  entries.map fun e => (e.1, if has e.1 defaults then d.look e.2 else e.2)

variable {d : Document} {entries : List (Scalar × Value)}

theorem mapping?_eq_some {part : Value} : d.mapping? part = some entries ↔
    d.look part = .map entries := by
  rw [mapping?]
  cases d.look part <;> simp

/-- The settings of a file are handed on with the built-in sections written out. Settings that
    are no mapping are met at once, or handed on as they are. -/
theorem settingsOf_cases (d : Document) :
    (∃ entries, d.settings? = some entries ∧
      settingsOf d = .ok { d with value := .map (d.written entries) }) ∨
    d.settings? = none ∧ ((∃ m, settingsOf d = .error m) ∨
      ∃ file, settingsOf d = .ok file ∧ ∀ entries, file.value ≠ .map entries) := by
  simp only [settings?, settingsOf, mapping?]
  cases hgiven : (d.look d.value).isGiven with
  | false => exact Or.inl ⟨[], rfl, rfl⟩
  | true =>
    cases d.look d.value with
    | map outer =>
      simp only [lookupPart, Option.bind_some, if_true]
      cases outer.lookup (.text envelopeKey) with
      | none => exact Or.inl ⟨outer, rfl, rfl⟩
      | some part =>
        simp only [Option.getD_some, bind, Except.bind]
        -- under the key there may be anything; what is no mapping is handed on and refused later
        cases d.look part with
        | map entries => exact Or.inl ⟨entries, rfl, rfl⟩
        | _ => exact Or.inr ⟨rfl, Or.inr ⟨_, rfl, fun entries h => by cases h⟩⟩
    | _ => exact Or.inr ⟨rfl, Or.inl ⟨_, rfl⟩⟩

/-- With settings there is one way to go on. -/
theorem settingsOf_eq (h : d.settings? = some entries) :
    settingsOf d = .ok { d with value := .map (d.written entries) } := by
  rcases settingsOf_cases d with ⟨found, hfound, heq⟩ | ⟨hnone, -⟩
  · cases h.symm.trans hfound
    exact heq
  · cases h.symm.trans hnone

/-- The settings of a file have distinct keys, and are parts of its document. -/
theorem Keyed.settings (hd : d.Keyed) (h : d.settings? = some entries) :
    Distinct entries ∧ ∀ e ∈ entries, e.2.IsPart := by
  rw [settings?] at h
  split at h
  case isFalse => cases h; exact ⟨List.Pairwise.nil, by simp⟩
  case isTrue =>
    obtain ⟨outer, houter, h⟩ := Option.bind_eq_some_iff.mp h
    have hentries := hd.mapping hd.value (mapping?_eq_some.mp houter)
    cases hpart : outer.lookup (.text envelopeKey) with
    | none =>
      rw [hpart] at h
      cases h
      exact hentries
    | some part =>
      rw [hpart] at h
      obtain ⟨e, he, -, rfl⟩ := mem_of_lookup hpart
      exact hd.mapping (hentries.2 e he) (mapping?_eq_some.mp h)

/-- A built-in section is found written out. -/
theorem lookup_written {group : String} (h : has (.text group) defaults = true) :
    (d.written entries).lookup (.text group) = (entries.lookup (.text group)).map d.look := by
  induction entries with
  | nil => rfl
  | cons e rest ih =>
    rw [written, List.map_cons, lookup_cons_eq, lookup_cons_eq, ← written, ih]
    cases hsame : (Scalar.text group : Scalar) == e.1 with
    | false => rfl
    | true =>
      rw [has, lookup_congr hsame] at h
      rw [has, if_pos h]
      rfl

theorem Keyed.distinct_written (hd : d.Keyed) (h : d.settings? = some entries) :
    Distinct (d.written entries) :=
  (hd.settings h).1.mapValues _

/-- Every section that is there is a mapping of the file, so its keys are distinct. -/
theorem Keyed.sections_written (hd : d.Keyed) (h : d.settings? = some entries)
    (hs : d.Sectioned entries) : Sections (d.written entries) := by
  intro group hgroup part hpart
  rw [lookup_written hgroup, Option.map_eq_some_iff] at hpart
  obtain ⟨inside, hinside, rfl⟩ := hpart
  -- the key in the file is only the same as the name of the section
  obtain ⟨e, he, hsame, rfl⟩ := mem_of_lookup hinside
  rw [has, lookup_congr hsame] at hgroup
  obtain ⟨inner, hinner⟩ := Option.isSome_iff_exists.mp (hs e he hgroup)
  have hlook := mapping?_eq_some.mp hinner
  exact ⟨inner, hlook, (hd.mapping ((hd.settings h).2 e he) hlook).1⟩

end Document

end Flowmeter.Config
