import Flowmeter.Config.Validation
import Flowmeter.Proofs.Config.Dotted
import Flowmeter.Proofs.Outcome

/-!
# What the checks of a configuration let through

The five checks are of one form: a setting is looked for in its section, and what is found there
is accepted or reported (`Check`). So settings are valid just if each check accepts what it finds,
and the first check that does not decides what is reported. A check whose section is no mapping
cannot be made at all.
-/

set_option autoImplicit false

namespace Flowmeter.Config

open Association

/-! ## The checks -/

/-- The check of a setting: what is accepted, and how everything else is reported. -/
structure Check where
  group : String
  key : String
  accepts : Value → Bool
  /-- What a report shows. -/
  shown : Value → Value
  report : String → Invalid

/-- Looks for the setting in its section and accepts or reports it. -/
def Check.run (settings : Value) (c : Check) : Except Invalid Unit := do
  let v ← setting settings c.group c.key
  require (c.accepts v) (c.shown v) c.report

/-- The checks in the order in which they are made. -/
def checks : List Check :=
  [⟨"collector", "interval", isSeconds, id, .badSeconds "interval"⟩,
   ⟨"collector", "read_timeout", isSeconds, id, .badSeconds "read_timeout"⟩,
   ⟨"web", "max_requests", isCount, id, .badMaxRequests⟩,
   ⟨"web", "listen_addresses", isNonEmptyList, fun _ => .null, fun _ => .noListenAddresses⟩,
   ⟨"logging", "format", isLogFormat, id, .badFormat⟩]

theorem validate_eq_forM (settings : Value) :
    validate settings = checks.forM (Check.run settings) := by
  simp [validate, checks, Check.run]

/-! ## What a check finds -/

/-- A section of settings; one that is missing counts as empty. -/
def sectionOf (settings : List (Scalar × Value)) (group : String) : Value :=
  (settings.lookup (.text group)).getD (.map [])

theorem lookupPart_eq_ok {v default part : Value} {key : String} :
    lookupPart v key default = .ok part ↔
      ∃ entries, v = .map entries ∧ (entries.lookup (.text key)).getD default = part := by
  cases v <;> simp [lookupPart]

/-- A setting is found just if the settings and the section are mappings; one that is missing
    counts as null. -/
theorem setting_eq_ok {settings v : Value} {group key : String} :
    setting settings group key = .ok v ↔ ∃ entries inner, settings = .map entries ∧
      sectionOf entries group = .map inner ∧ (inner.lookup (.text key)).getD .null = v := by
  simp only [setting, lookupSetting, Outcome.mapError_eq_ok, Outcome.bind_eq_ok, lookupPart_eq_ok]
  constructor
  · rintro ⟨-, ⟨entries, rfl, rfl⟩, inner, hinner, hv⟩
    exact ⟨entries, inner, rfl, hinner, hv⟩
  · rintro ⟨entries, inner, rfl, hinner, hv⟩
    exact ⟨_, ⟨entries, rfl, rfl⟩, inner, hinner, hv⟩

theorem setting_map (entries : List (Scalar × Value)) (group key : String) :
    setting (.map entries) group key =
      (lookupPart (sectionOf entries group) key .null).mapError .mismatch :=
  rfl

/-- A setting that a check finds stands under its name. -/
theorem find?_of_setting {settings v : Value} {group key : String}
    (h : setting settings group key = .ok v) (hv : v ≠ .null) :
    settings.find? [group, key] = some v := by
  obtain ⟨entries, inner, rfl, hinner, hfound⟩ := setting_eq_ok.mp h
  rw [Value.find?_map_cons]
  rw [sectionOf] at hinner
  cases hpart : entries.lookup (.text group) with
  | none =>
    -- a section that is missing is looked into as if empty, where all is null
    rw [hpart] at hinner
    cases hinner
    exact absurd hfound.symm hv
  | some part =>
    rw [hpart, Option.getD_some] at hinner
    subst hinner
    rw [Option.bind_some, Value.find?_map_single]
    cases hkey : inner.lookup (.text key) with
    | none =>
      rw [hkey] at hfound
      exact absurd hfound.symm hv
    | some found =>
      rw [hkey] at hfound
      exact congrArg some hfound

theorem require_eq_ok {holds : Bool} {v : Value} {report : String → Invalid} :
    require holds v report = .ok () ↔ holds = true := by
  rw [require]
  cases holds with
  | true => simp
  | false => cases v.show <;> simp

theorem Check.run_eq_ok {c : Check} {settings : Value} : c.run settings = .ok () ↔
    ∃ v, setting settings c.group c.key = .ok v ∧ c.accepts v = true := by
  rw [run, Outcome.bind_eq_ok]
  simp only [require_eq_ok]

/-- Settings are valid just if every check finds something that it accepts. -/
theorem validate_eq_ok {settings : Value} : validate settings = .ok () ↔
    ∀ c ∈ checks, ∃ v, setting settings c.group c.key = .ok v ∧ c.accepts v = true := by
  rw [validate_eq_forM, Outcome.forM_eq_ok]
  simp only [Check.run_eq_ok]

/-! ## What a check cannot look into -/

/-- The section of a check is no mapping. -/
def Check.Blocked (settings : Value) (c : Check) : Prop :=
  ∀ inner, sectionOf settings.entries c.group ≠ .map inner

theorem require_ne_mismatch {holds : Bool} {v : Value} {report : String → Invalid}
    (hreport : ∀ shown m, report shown ≠ .mismatch m) (m : Mismatch) :
    require holds v report ≠ .error (.mismatch m) := by
  rw [require]
  split
  · simp
  · cases v.show with
    | ok shown => simpa using hreport shown m
    | error fault => simp

/-- Among mappings a check fails for a mismatch just if its section is none. -/
theorem Check.run_eq_mismatch_iff {c : Check} (hc : c ∈ checks)
    (entries : List (Scalar × Value)) :
    (∃ m, c.run (.map entries) = .error (.mismatch m)) ↔ c.Blocked (.map entries) := by
  have hreport : ∀ shown m, c.report shown ≠ .mismatch m := by
    simp only [checks, List.mem_cons, List.not_mem_nil, or_false] at hc
    rcases hc with rfl | rfl | rfl | rfl | rfl <;> simp
  rw [Blocked, Value.entries, run, setting_map]
  cases sectionOf entries c.group with
  | map inner =>
    refine iff_of_false (fun ⟨m, h⟩ => ?_) fun h => h inner rfl
    exact require_ne_mismatch hreport m h
  | _ => exact iff_of_true ⟨_, rfl⟩ fun inner h => by cases h

/-- The first check that settings do not pass cannot be made. -/
def Stuck (settings : Value) : Prop :=
  ∃ before c after, checks = before ++ c :: after ∧
    (∀ b ∈ before, b.run settings = .ok ()) ∧ c.Blocked settings

theorem validate_eq_mismatch_iff (entries : List (Scalar × Value)) :
    (∃ m, validate (.map entries) = .error (.mismatch m)) ↔ Stuck (.map entries) := by
  simp only [validate_eq_forM, Outcome.forM_eq_error]
  constructor
  · rintro ⟨m, before, c, after, heq, hbefore, hc⟩
    have hmem : c ∈ checks := heq ▸ List.mem_append_right before List.mem_cons_self
    exact ⟨before, c, after, heq, hbefore, (Check.run_eq_mismatch_iff hmem entries).mp ⟨m, hc⟩⟩
  · rintro ⟨before, c, after, heq, hbefore, hc⟩
    have hmem : c ∈ checks := heq ▸ List.mem_append_right before List.mem_cons_self
    obtain ⟨m, hm⟩ := (Check.run_eq_mismatch_iff hmem entries).mpr hc
    exact ⟨m, before, c, after, heq, hbefore, hm⟩

/-- No check accepts that its setting is missing. -/
theorem accepts_null : ∀ c ∈ checks, c.accepts .null = false := by
  decide

/-- In valid settings each setting that is checked stands under its name, and is accepted. -/
theorem find?_of_valid {settings : Value} (h : validate settings = .ok ()) {c : Check}
    (hc : c ∈ checks) : ∃ v, settings.find? [c.group, c.key] = some v ∧ c.accepts v = true := by
  obtain ⟨v, hv, haccepts⟩ := validate_eq_ok.mp h c hc
  refine ⟨v, find?_of_setting hv fun hnull => ?_, haccepts⟩
  rw [hnull, accepts_null c hc] at haccepts
  cases haccepts

end Flowmeter.Config
