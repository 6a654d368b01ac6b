import Flowmeter.Proofs.Config.Settings
import Flowmeter.Proofs.Outcome

/-!
# Settings from variables

The variables that are set give settings one after the other (`readVariables`), each a built-in
setting of its own. So a setting is given what its variable stands for, if that is set, and
nothing else.

The program writes each variable into the settings as it comes to it, and fails at the first that
cannot be read. Split in two, the reading yields a list of writings that knows nothing of what is
written over, and the writing is the same as for settings that are given (`applyVariables_eq_ok`).
What a variable says of its setting is then a question of looking into that list.
-/

set_option autoImplicit false

namespace Flowmeter.Config

open Association

/-- What the variables that are set give for their settings. -/
def readVariables (environment : Environment) :
    List (String × String × Reading) → Except NumberFault (List (String × Value))
  | [] => .ok []
  | (variableName, name, reading) :: rest =>
      match environment.lookup variableName with
      | none => readVariables environment rest
      | some text => do
          let v ← reading.read text
          return (name, v) :: (← readVariables environment rest)

variable {environment : Environment} {vars : List (String × String × Reading)}
  {writes : List (String × Value)}

/-- If nothing fails the variables are read first and written after. -/
theorem applyVariables_eq_ok {entries result : List (Scalar × Value)}
    (h : applyVariables environment vars entries = .ok result) :
    ∃ writes, readVariables environment vars = .ok writes ∧
      result = writeAll writes entries := by
  induction vars generalizing entries with
  | nil => exact ⟨[], rfl, by cases h; rfl⟩
  | cons first rest ih =>
    obtain ⟨variableName, name, reading⟩ := first
    rw [applyVariables] at h
    rw [readVariables]
    cases htext : environment.lookup variableName with
    | none =>
      rw [htext] at h
      exact ih h
    | some text =>
      rw [htext] at h
      cases hread : reading.read text with
      | error fault => simp [hread] at h
      | ok v =>
        simp only [hread] at h ⊢
        obtain ⟨writes, hwrites, rfl⟩ := ih h
        exact ⟨(name, v) :: writes, by rw [hwrites]; rfl, rfl⟩

/-- A variable that is set gives its setting a value. -/
inductive Sets (environment : Environment) (vars : List (String × String × Reading))
    (name : String) (v : Value) : Prop
  | intro (variableName : String) (reading : Reading) (text : String)
      (mem : (variableName, name, reading) ∈ vars)
      (set : environment.lookup variableName = some text) (read : reading.read text = .ok v)

theorem Sets.cons {name : String} {v : Value} (h : Sets environment vars name v)
    (first : String × String × Reading) : Sets environment (first :: vars) name v := by
  obtain ⟨variableName, reading, text, hmem, hset, hread⟩ := h
  exact ⟨variableName, reading, text, List.mem_cons_of_mem first hmem, hset, hread⟩

/-- Settings come in the order of the variables, and none comes twice that is not there twice. -/
theorem keys_readVariables (h : readVariables environment vars = .ok writes) :
    (keys writes).Sublist (vars.map fun x => x.2.1) := by
  induction vars generalizing writes with
  | nil => cases h; exact List.Sublist.slnil
  | cons first rest ih =>
    obtain ⟨variableName, name, reading⟩ := first
    rw [readVariables] at h
    cases htext : environment.lookup variableName with
    | none =>
      rw [htext] at h
      exact (ih h).cons _
    | some text =>
      rw [htext] at h
      obtain ⟨v, -, h⟩ := Outcome.bind_eq_ok.mp h
      obtain ⟨more, hmore, h⟩ := Outcome.bind_eq_ok.mp h
      cases h
      exact (ih hmore).cons_cons _

/-- The variables give built-in settings, each its own. -/
theorem settingVariables_settings : ∀ x ∈ settingVariables, ∃ group key,
    IsSetting x.2.1 group key := by
  have hcheck : ∀ x ∈ settingVariables, ∃ keys ∈ [keysOf x.2.1], keys.length = 2 ∧
      ((Value.map defaults).find? keys).isSome = true := by
    decide
  intro x hx
  obtain ⟨keys, hkeys, hlength, hfound⟩ := hcheck x hx
  obtain ⟨group, key, rfl⟩ := List.length_eq_two.mp hlength
  exact ⟨group, key, (List.mem_singleton.mp hkeys).symm, hfound⟩

/-- So what variables give can be written like any settings. -/
theorem ofSettings_readVariables (h : readVariables environment settingVariables = .ok writes) :
    OfSettings writes := by
  intro w hw
  obtain ⟨x, hx, hname⟩ := List.mem_map.mp
    ((keys_readVariables h).subset (List.mem_map_of_mem hw : w.1 ∈ keys writes))
  obtain ⟨group, key, hs⟩ := settingVariables_settings x hx
  exact ⟨group, key, hname ▸ hs⟩

end Flowmeter.Config
