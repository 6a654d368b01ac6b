import Flowmeter.Program
import Flowmeter.Proofs.Config.Precedence

/-!
# Which configurations are reported

A configuration that cannot be used is to be reported. Of a document that is read it is, unless
something is no mapping where one is looked into: the settings themselves, or the section of the
first check that is not passed (`load_unreported_iff`). Sections that the file leaves out or has
as mappings are looked into without harm.
-/

set_option autoImplicit false

namespace Flowmeter.Program

open Flowmeter.Config Association

variable {d : Document} (environment : Environment) (given : List (String × Value))

theorem isReported_invalid {fault : Invalid} :
    isReported (.invalid fault) = false ↔ ∃ m, fault = .mismatch m := by
  cases fault <;> simp [isReported]

/-- A document fails unreported just if its settings are no mapping, or the first check that
    the layers do not pass cannot be made. -/
theorem ofDocument_unreported_iff :
    (∃ fault, ofDocument d environment given = .error fault ∧ isReported fault = false) ↔
      d.settings? = none ∨
        ∃ settings, layered d environment given = .ok settings ∧ Stuck settings := by
  simp only [ofDocument_eq_error]
  cases hsettings : d.settings? with
  | none =>
    obtain ⟨m, hm⟩ := layered_of_none environment given hsettings
    exact iff_of_true ⟨.mismatch m, Or.inl hm, rfl⟩ (Or.inl rfl)
  | some entries =>
    rcases layered_of_some environment given hsettings with ⟨n, hn⟩ | ⟨merged, hmerged⟩
    · -- a number that is none is reported, and nothing is checked
      simp [hn, isReported]
    · simp only [hmerged, reduceCtorEq, false_or, Except.ok.injEq, exists_eq_left']
      rw [← validate_eq_mismatch_iff]
      constructor
      · rintro ⟨_, ⟨i, hi, rfl⟩, hunreported⟩
        obtain ⟨m, rfl⟩ := isReported_invalid.mp hunreported
        exact ⟨m, hi⟩
      · rintro ⟨m, hm⟩
        exact ⟨_, ⟨_, hm, rfl⟩, rfl⟩

/-- Every check can be made where the sections of the file are mappings. -/
theorem not_blocked_of_sectioned {entries : List (Scalar × Value)} {settings : Value} {c : Check}
    (hd : d.Keyed) (hsettings : d.settings? = some entries) (hsectioned : d.Sectioned entries)
    (hgiven : OfSettings given) (hlayered : layered d environment given = .ok settings)
    (hc : c ∈ checks) : ¬ c.Blocked settings := by
  have hhas : ∀ c ∈ checks, has (.text c.group) defaults = true := by decide
  obtain ⟨writes, hwrites, rfl⟩ := layered_eq_ok hd hsettings hsectioned hgiven hlayered
  -- each check looks into a built-in section, and those are written out
  obtain ⟨builtIn, hsection⟩ := isSection_of_has (hhas c hc)
  obtain ⟨own, -, hlookup⟩ :=
    (laid_assembled hd hsettings hsectioned hwrites hgiven).sections hsection
  have hfound : ∃ inner,
      sectionOf (d.valueOf (.map (assembled d entries given writes))).entries c.group =
        .map inner := by
    rw [d.valueOf_map, sectionOf, Value.entries, lookup_mapValues, hlookup, Option.map_some,
      Option.getD_some, d.valueOf_map]
    exact ⟨_, rfl⟩
  obtain ⟨inner, hinner⟩ := hfound
  exact fun hblocked => hblocked inner hinner

/-! ## Loading -/

/-- **Which configurations are not reported.** Once the file is read, what is wrong is reported
    unless the settings are no mapping or the first check that they do not pass cannot be made.
    Where the file has the sections as mappings, or leaves them out, everything is reported. -/
theorem load_unreported_iff {standard : Option Files.Path} {files : Files.Tree}
    {path : Option String} {place : Option Files.Path}
    (hplace : filePath standard files path environment = .ok place)
    (hdocument : documentFrom files place = .ok d) :
    ((∃ fault, loadFrom standard files path environment given = .error fault ∧
        isReported fault = false) ↔
      d.settings? = none ∨
        ∃ settings, layered d environment given = .ok settings ∧ Stuck settings) ∧
    ∀ entries, d.settings? = some entries → d.Sectioned entries → OfSettings given →
      ∀ fault, loadFrom standard files path environment given = .error fault →
        isReported fault = true := by
  simp only [loadFrom_eq_error hplace hdocument, ofDocument_unreported_iff, true_and]
  intro entries hsettings hsectioned hgiven fault hfault
  rw [← Bool.not_eq_false]
  intro hunreported
  rcases (ofDocument_unreported_iff environment given).mp ⟨fault, hfault, hunreported⟩ with
    hnone | ⟨settings, hlayered, before, c, after, heq, -, hblocked⟩
  · rw [hsettings] at hnone
    cases hnone
  · have hc : c ∈ checks := heq ▸ List.mem_append_right before List.mem_cons_self
    exact not_blocked_of_sectioned environment given (keyed_documentFrom hdocument) hsettings
      hsectioned hgiven hlayered hc hblocked

/-- A file with the name of a section and nothing below it. -/
def emptySection : Files.Tree :=
  .directory [(Files.Name.ofString "c.yaml", .file (Text.Utf8.encode "collector:\n"))]

/-- Of that file what is checked first is in a section that is no mapping. -/
theorem load_emptySection_stuck : ∃ (d : Document) (settings : Value),
    documentFrom emptySection (some (Files.Path.ofText "c.yaml")) = .ok d ∧
    layered d [] [] = .ok settings ∧ Stuck settings := by
  have hdocument : Outcome.satisfies (fun d => decide (d.settings? ≠ none))
      (documentFrom emptySection (some (Files.Path.ofText "c.yaml"))) = true := by
    decide +kernel
  have hload : Outcome.refuses (fun fault => !isReported fault)
      (loadFrom none emptySection (some "c.yaml") [] []) = true := by
    decide +kernel
  obtain ⟨d, hd, hsettings⟩ := Outcome.exists_of_satisfies hdocument
  obtain ⟨fault, hfault, hunreported⟩ := Outcome.exists_of_refuses hload
  rcases (load_unreported_iff [] [] rfl hd).1.mp ⟨fault, hfault, by simpa using hunreported⟩ with
    hnone | ⟨settings, hlayered, hstuck⟩
  · exact absurd hnone (of_decide_eq_true hsettings)
  · exact ⟨d, settings, hd, hlayered, hstuck⟩

/-- Not everything that is wrong is reported: that file is read, and loading ends in a crash. -/
theorem load_emptySection_crashes :
    (∃ d, documentFrom emptySection (some (Files.Path.ofText "c.yaml")) = .ok d) ∧
    ∃ fault, loadFrom none emptySection (some "c.yaml") [] [] = .error fault ∧
      isReported fault = false ∧
      fault.message = "\x27NoneType\x27 object has no attribute \x27get\x27" := by
  have hdocument : Outcome.satisfies (fun _ => true)
      (documentFrom emptySection (some (Files.Path.ofText "c.yaml"))) = true := by
    decide +kernel
  have hload : Outcome.refuses (fun fault => !isReported fault &&
      fault.message == "\x27NoneType\x27 object has no attribute \x27get\x27")
      (loadFrom none emptySection (some "c.yaml") [] []) = true := by
    decide +kernel
  obtain ⟨d, hd, -⟩ := Outcome.exists_of_satisfies hdocument
  obtain ⟨fault, hfault, hcheck⟩ := Outcome.exists_of_refuses hload
  rw [Bool.and_eq_true, Bool.not_eq_true'] at hcheck
  exact ⟨⟨d, hd⟩, fault, hfault, hcheck.1, eq_of_beq hcheck.2⟩

end Flowmeter.Program
