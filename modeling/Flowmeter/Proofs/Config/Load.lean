import Flowmeter.Config.Load
import Flowmeter.Proofs.Config.Validation
import Flowmeter.Proofs.Yaml.Judging

/-!
# Steps of loading

A configuration is loaded from the document of its file. What comes of it, good or bad, depends
on that document alone, which has distinct keys in all its mappings.
-/

set_option autoImplicit false

namespace Flowmeter.Config

variable {standard : Option Files.Path} {files : Files.Tree} {path : Option String}
  {environment : Environment} {given : List (String × Value)}

/-- What is loaded comes from the document of the file. -/
theorem loadFrom_eq_ok {config : Flowmeter.Config}
    (h : loadFrom standard files path environment given = .ok config) :
    ∃ place document, filePath standard files path environment = .ok place ∧
      documentFrom files place = .ok document ∧
      ofDocument document environment given = .ok config.settings := by
  obtain ⟨place, hplace, h⟩ := Outcome.bind_eq_ok.mp h
  obtain ⟨document, hdocument, h⟩ := Outcome.bind_eq_ok.mp h
  obtain ⟨settings, hsettings, h⟩ := Outcome.bind_eq_ok.mp h
  cases h
  exact ⟨place, document, hplace, hdocument, hsettings⟩

/-- Once its document is read, loading fails just as the document does. -/
theorem loadFrom_eq_error {place : Option Files.Path} {document : Document} {fault : LoadFault}
    (hplace : filePath standard files path environment = .ok place)
    (hdocument : documentFrom files place = .ok document) :
    loadFrom standard files path environment given = .error fault ↔
      ofDocument document environment given = .error fault := by
  rw [loadFrom, hplace]
  show (documentFrom files place >>= _) = _ ↔ _
  rw [hdocument]
  show (ofDocument document environment given >>= _) = _ ↔ _
  rw [Outcome.bind_eq_error]
  simp [pure, Except.pure]

/-- The settings of a document are valid. -/
theorem ofDocument_eq_ok {document : Document} {settings : Value}
    (h : ofDocument document environment given = .ok settings) :
    layered document environment given = .ok settings ∧ validate settings = .ok () := by
  obtain ⟨merged, hmerged, h⟩ := Outcome.bind_eq_ok.mp h
  obtain ⟨_, hvalid, h⟩ := Outcome.bind_eq_ok.mp h
  cases h
  exact ⟨hmerged, Outcome.mapError_eq_ok.mp hvalid⟩

/-- A document fails where its layers do, or where what they make is not valid. -/
theorem ofDocument_eq_error {document : Document} {fault : LoadFault} :
    ofDocument document environment given = .error fault ↔
      layered document environment given = .error fault ∨
      ∃ settings, layered document environment given = .ok settings ∧
        ∃ i, validate settings = .error i ∧ .invalid i = fault := by
  simp only [ofDocument, Outcome.bind_eq_error, Outcome.mapError_eq_error]
  simp [pure, Except.pure]

/-- What is loaded is valid. -/
theorem validate_of_load {config : Flowmeter.Config}
    (h : loadFrom standard files path environment given = .ok config) :
    validate config.settings = .ok () := by
  obtain ⟨place, document, -, -, hof⟩ := loadFrom_eq_ok h
  exact (ofDocument_eq_ok hof).2

/-- A check accepts what is loaded for its setting. -/
theorem accepts_get_of_load {config : Flowmeter.Config}
    (h : loadFrom standard files path environment given = .ok config) {c : Check}
    (hc : c ∈ checks) {name : String} (hname : keysOf name = [c.group, c.key])
    (fallback : Value) : c.accepts (config.get name fallback) = true := by
  obtain ⟨v, hfound, haccepts⟩ := find?_of_valid (validate_of_load h) hc
  rw [get, hname, hfound]
  exact haccepts

/-- The mappings of a file have distinct keys. -/
theorem keyed_documentFrom {place : Option Files.Path} {document : Document}
    (h : documentFrom files place = .ok document) : document.Keyed := by
  cases place with
  | none => cases h; exact Yaml.keyed_null
  | some path =>
    obtain ⟨found, -, h⟩ := Outcome.bind_eq_ok.mp h
    split at h
    · obtain ⟨bytes, -, h⟩ := Outcome.bind_eq_ok.mp h
      exact Yaml.keyed_read (Outcome.mapError_eq_ok.mp h)
    · cases h

end Flowmeter.Config
