import Flowmeter.Config.Load
import Flowmeter.Proofs.Config.Document

/-!
# Built-in settings and what is written over them

A built-in setting has a name of two keys, that of its section and its own. While a
configuration is put together its sections are written out in their order, each with all its
settings, and what only a file has stands behind them (`Laid`). The built-in settings with a
file laid over them are like that, and no writing of a setting changes it. So of several
settings each is found where it was written, whatever else was written (`find?_writeAll`).
-/

set_option autoImplicit false

namespace Flowmeter.Config

open Association

/-! ## Names -/

/-- The name of a built-in setting: that of its section and its own key. -/
structure IsSetting (name group key : String) : Prop where
  keysOf_eq : keysOf name = [group, key]
  builtIn : ((Value.map defaults).find? [group, key]).isSome = true

example : IsSetting "collector.interval" "collector" "interval" := ⟨by decide, by decide⟩

/-- A built-in section: a mapping of settings that are no mappings and refer to nothing. -/
structure IsSection (group : String) (settings : List (Scalar × Value)) : Prop where
  lookup_eq : defaults.lookup (.text group) = some (.map settings)
  plain : ∀ s ∈ settings, s.2.parts = [] ∧ s.2.kind ≠ .map

/-- A section is one of the built-in keys. -/
theorem IsSection.has_eq {group : String} {settings : List (Scalar × Value)}
    (h : IsSection group settings) : has (.text group) defaults = true := by
  rw [has, h.lookup_eq]
  rfl

/-- Each built-in key is that of a section. There are four, and what is asked of them is decided
    by going through them. -/
theorem isSection_of_has {group : String} (h : has (.text group) defaults = true) :
    ∃ settings, IsSection group settings := by
  obtain ⟨part, hpart⟩ := Option.isSome_iff_exists.mp h
  obtain ⟨e, he, -, rfl⟩ := mem_of_lookup hpart
  have hmap : ∀ e ∈ defaults, ∃ settings, e.2 = .map settings := by
    simp [defaults, Value.record]
  have hplain : ∀ e ∈ defaults, ∀ s ∈ e.2.entries, s.2.parts = [] ∧ s.2.kind ≠ .map := by
    decide
  obtain ⟨settings, hsettings⟩ := hmap e he
  have hall := hplain e he
  rw [hsettings] at hall hpart
  exact ⟨settings, hpart, hall⟩

/-- A setting lies in a section and is one of its keys. -/
theorem IsSetting.section {name group key : String} (h : IsSetting name group key) :
    ∃ settings, IsSection group settings ∧ has (.text key) settings = true := by
  have hbuiltIn := h.builtIn
  rw [Value.find?_map_cons] at hbuiltIn
  have hhas : has (.text group) defaults = true := by
    rw [has]
    cases hpart : defaults.lookup (.text group) with
    | none => rw [hpart] at hbuiltIn; cases hbuiltIn
    | some part => rfl
  obtain ⟨settings, hsection⟩ := isSection_of_has hhas
  rw [hsection.lookup_eq, Option.bind_some, Value.find?_map_single] at hbuiltIn
  exact ⟨settings, hsection, hbuiltIn⟩

/-- Every built-in section is written out with all its settings. Behind the sections stands what
    else is in a mapping `upper`, and behind the settings in a section what else is there. -/
structure Laid (upper entries : List (Scalar × Value)) : Prop where
  outer : ∃ own, keys own = keys defaults ∧
    entries = own ++ upper.filter fun e => !has e.1 defaults
  sections : ∀ {group settings}, IsSection group settings → ∃ own, keys own = keys settings ∧
    entries.lookup (.text group) =
      some (.map (own ++ (entriesUnder group upper).filter fun e => !has e.1 settings))

variable {upper entries : List (Scalar × Value)} {name group key : String}

theorem entriesUnder_of_lookup {inner : List (Scalar × Value)}
    (h : entries.lookup (.text group) = some (.map inner)) :
    entriesUnder group entries = inner := by
  rw [entriesUnder, h]
  rfl

/-- Writing a setting changes neither the sections nor what stands behind them. -/
theorem Laid.write (h : Laid upper entries) (hs : IsSetting name group key)
    (v : Value) : Laid upper (insertAt [group, key] v entries) := by
  obtain ⟨settings, hsection, hkey⟩ := hs.section
  obtain ⟨own, hkeys, hlookup⟩ := h.sections hsection
  rw [insertAt_cons_cons, entriesUnder_of_lookup hlookup, insertAt,
    put_append_of_has ((has_congr hkeys).trans hkey)]
  constructor
  case outer =>
    obtain ⟨sections, hsections, rfl⟩ := h.outer
    have hgroup : has (.text group) sections = true :=
      (has_congr hsections).trans hsection.has_eq
    refine ⟨put (.text group) _ sections, ?_, put_append_of_has hgroup _ _⟩
    rw [keys_put_of_has hgroup, hsections]
  case sections =>
    intro group' settings' hsection'
    rw [lookup_put]
    split
    case isTrue hsame =>
      -- it is the section written into, and its own keys are those it had
      obtain rfl : group' = group := by simpa using hsame
      obtain rfl : settings' = settings := by
        simpa [hsection.lookup_eq] using hsection'.lookup_eq.symm
      refine ⟨put (.text key) v own, ?_, rfl⟩
      rw [keys_put_of_has ((has_congr hkeys).trans hkey), hkeys]
    case isFalse => exact h.sections hsection'

theorem Laid.openWay (h : Laid upper entries) (hs : IsSetting name group key) :
    OpenWay [group, key] entries := by
  obtain ⟨settings, hsection, -⟩ := hs.section
  obtain ⟨own, -, hlookup⟩ := h.sections hsection
  intro part hpart
  rw [hlookup] at hpart
  cases hpart
  exact ⟨fun _ => rfl, trivial⟩

/-! ## Writing several settings -/

/-- Entries with settings written over them, in order. -/
def writeAll (writes : List (String × Value)) (entries : List (Scalar × Value)) :
    List (Scalar × Value) :=
  writes.foldl (fun entries w => insertAt (keysOf w.1) w.2 entries) entries

theorem writeAll_cons (w : String × Value) (rest : List (String × Value))
    (entries : List (Scalar × Value)) :
    writeAll (w :: rest) entries = writeAll rest (insertAt (keysOf w.1) w.2 entries) :=
  rfl

/-- All that is written are built-in settings. -/
def OfSettings (writes : List (String × Value)) : Prop :=
  ∀ w ∈ writes, ∃ group key, IsSetting w.1 group key

theorem OfSettings.tail {w : String × Value} {rest : List (String × Value)}
    (h : OfSettings (w :: rest)) : OfSettings rest :=
  fun d hd => h d (List.mem_cons_of_mem w hd)

theorem Laid.writeAll {writes : List (String × Value)} (h : Laid upper entries)
    (hw : OfSettings writes) : Laid upper (writeAll writes entries) := by
  induction writes generalizing entries with
  | nil => exact h
  | cons w rest ih =>
    obtain ⟨group, key, hs⟩ := hw w List.mem_cons_self
    rw [writeAll_cons, hs.keysOf_eq]
    exact ih (h.write hs w.2) hw.tail

/-- The sections of a file are mappings with distinct keys, as far as there are any. -/
def Sections (upper : List (Scalar × Value)) : Prop :=
  ∀ group, has (.text group) defaults = true → ∀ part, upper.lookup (.text group) = some part →
    ∃ inner, part = .map inner ∧ Distinct inner

/-- A section of a file lies over the built-in one. -/
theorem lookup_overlay_section {settings : List (Scalar × Value)} (hdistinct : Distinct upper)
    (hsections : Sections upper) (h : IsSection group settings) :
    Distinct (entriesUnder group upper) ∧
    (overlayEntries defaults upper).lookup (.text group) =
      some (.map (overlayEntries settings (entriesUnder group upper))) := by
  rw [lookup_overlayEntries hdistinct, h.lookup_eq, entriesUnder]
  cases hpart : upper.lookup (.text group) with
  | none => exact ⟨List.Pairwise.nil, rfl⟩
  | some part =>
    obtain ⟨inner, rfl, hinner⟩ := hsections group h.has_eq part hpart
    exact ⟨hinner, rfl⟩

theorem laid_overlay (hdistinct : Distinct upper) (hsections : Sections upper) :
    Laid upper (overlayEntries defaults upper) := by
  refine ⟨overlayEntries_eq_append hdistinct defaults, fun {group settings} h => ?_⟩
  obtain ⟨hinner, hlookup⟩ := lookup_overlay_section hdistinct hsections h
  obtain ⟨own, hkeys, hown⟩ := overlayEntries_eq_append hinner settings
  exact ⟨own, hkeys, by rw [hlookup, hown]⟩

end Flowmeter.Config
