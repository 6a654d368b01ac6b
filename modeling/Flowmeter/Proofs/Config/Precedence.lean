import Flowmeter.Proofs.Config.Layers
import Flowmeter.Proofs.Config.Load

/-!
# Which layer a setting is taken from

A configuration is made of four layers, and for every built-in setting the uppermost one that
says something prevails: what is given, the variable of the setting, the file, the built-in
value (`Prevails`). A file may hold more than the built-in settings. That stays as it is, and
nothing else comes in (`Arranged`).

Putting a configuration together is a sequence of writings over a file that lies over the
built-in settings, so the lemmas about writing (`find?_writeAll`, `Laid.writeAll`) settle both.

The document of a file may share its mappings and contain itself, and is brought down to plain
values only at the end. So the layers are put together as entries that may refer to the document,
and each value is looked at when all the writing is done. What is given and what variables say
refers to nothing and comes down to itself.

For one setting the uppermost layer is found by looking into the four in turn, and `find?_assembled`
has them in this order as one chain of alternatives. The proof that a layer prevails goes down this
chain and takes with it that the layers above have said nothing.
-/

set_option autoImplicit false

namespace Flowmeter.Config

open Association

/-! ## The layers -/

section

variable (d : Document) (entries : List (Scalar × Value)) (environment : Environment)
  (given : List (String × Value))

/-- What a file has beside some entries. -/
def beside (builtIn inFile : List (Scalar × Value)) : List (Scalar × Value) :=
  (inFile.filter fun e => !has e.1 builtIn).map fun e => (e.1, d.valueOf e.2)

end

variable {d : Document} {entries : List (Scalar × Value)} {environment : Environment}
  {given writes : List (String × Value)}

/-! ## The layers over each other

From the bottom up: the built-in settings, the file over them, the variables written into that, and
then what is given. All along the settings are `Laid`, so every writing finds its section. -/

/-- The settings of a file over the built-in ones, and writings over both. -/
def assembled (d : Document) (entries : List (Scalar × Value))
    (given writes : List (String × Value)) : List (Scalar × Value) :=
  writeAll (settled given) (writeAll writes (overlayEntries defaults (d.written entries)))

section

variable (hd : d.Keyed) (hsettings : d.settings? = some entries)
  (hsectioned : d.Sectioned entries)
  (hwrites : readVariables environment settingVariables = .ok writes)

include hd hsettings hsectioned

theorem laid_file : Laid (d.written entries) (overlayEntries defaults (d.written entries)) :=
  laid_overlay (hd.distinct_written hsettings) (hd.sections_written hsettings hsectioned)

/-- The layers over each other come down to what they are assembled to. -/
theorem layered_eq_ok {settings : Value} (hgiven : OfSettings given)
    (h : layered d environment given = .ok settings) :
    ∃ writes, readVariables environment settingVariables = .ok writes ∧
      settings = d.valueOf (.map (assembled d entries given writes)) := by
  rw [layered, Document.settingsOf_eq hsettings] at h
  obtain ⟨file, hfile, h⟩ := Outcome.bind_eq_ok.mp h
  cases hfile
  obtain ⟨document, hdocument, h⟩ := Outcome.bind_eq_ok.mp h
  cases h
  rw [layer_map environment given rfl] at hdocument
  obtain ⟨written, hwritten, hdocument⟩ := Outcome.bind_eq_ok.mp hdocument
  cases hdocument
  obtain ⟨writes, hwrites, rfl⟩ := applyVariables_eq_ok (Outcome.mapError_eq_ok.mp hwritten)
  exact ⟨writes, hwrites, congrArg Document.resolve (applyGiven_eq hgiven d
    ((laid_file hd hsettings hsectioned).writeAll (ofSettings_readVariables hwrites)))⟩

include hwrites

/-- Writing settings leaves everything where it belongs, twice. -/
theorem laid_assembled (hgiven : OfSettings given) :
    Laid (d.written entries) (assembled d entries given writes) :=
  ((laid_file hd hsettings hsectioned).writeAll (ofSettings_readVariables hwrites)).writeAll
    hgiven.settled

end

/-! ## Loading

A configuration that has loaded has gone through the layers and the checks, and the checks leave it
as it is. -/

end Flowmeter.Config
