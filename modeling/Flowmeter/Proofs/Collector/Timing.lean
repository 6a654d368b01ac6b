import Flowmeter.Collector.Timing
import Flowmeter.Proofs.Config.Load
import Flowmeter.Proofs.Config.Validation
import Flowmeter.Proofs.Decimal.Order

/-!
# The timing of a loaded configuration

The lengths of time in a loaded configuration are more than nought, or no numbers: a check that
refuses what is at most nought lets through what compares as nothing (`load_timing`). A collector
takes them the same way, but keeps doubles, and an integer may be too large for one. So there are
two ways in which a valid configuration fails to give a collector an interval: it has none to run
at, or it does not start.

A value that passes the check can be of three kinds, and each is a test of the value by itself:
positive, no number, beyond the doubles. The first two come from the check, and the last from the
conversion. With them the result of starting a collector is told without running it.
-/

set_option autoImplicit false

namespace Flowmeter.Collector

open Flowmeter.Config Flowmeter.Decimal

/-! ## Lengths of time

Integers compare as numbers do, and doubles have one exception: what is no number is neither at most
nought nor more than it. -/

/-- Whether a value is a number more than nought. -/
def isPositive : Value → Bool
  | .scalar (.int n) => 0 < n
  | .scalar (.float x) => 0 < x
  | _ => false

/-- Whether a value is of the kind of doubles and no number. -/
def isNoNumber : Value → Bool
  | .scalar (.float x) => x.isNaN
  | _ => false

/-- Whether a value is an integer that no double holds, be it rounded. -/
def isBeyondDoubles : Value → Bool
  | .scalar (.int n) => Magnitude.leastBeyond ≤ n
  | _ => false

variable {v : Value}

/-- What passes the check of a length of time. -/
theorem isSeconds_iff : isSeconds v = true ↔ isPositive v = true ∨ isNoNumber v = true := by
  cases v with
  | scalar s =>
    cases s with
    | int n => simp [isSeconds, isPositive, isNoNumber]
    | float x =>
      -- only among doubles is there something neither at most nought nor more than it
      rw [isSeconds, isPositive, isNoNumber, Bool.not_eq_true', decide_eq_false_iff_not,
        not_le_zero_iff, decide_eq_true_iff]
    | _ => simp [isSeconds, isPositive, isNoNumber]
  | _ => simp [isSeconds, isPositive, isNoNumber]

/-- A collector refuses none of what passes that check. -/
theorem requirePositive_of_isSeconds (h : isSeconds v = true) (name : String) :
    requirePositive name v = .ok () := by
  have hat : atMostZero v = .ok false := by
    cases v with
    | scalar s =>
      cases s with
      | int n => simpa [isSeconds, atMostZero] using h
      | float x => simpa [isSeconds, atMostZero] using h
      | _ => cases h
    | _ => cases h
  rw [requirePositive, hat]

/-- An integer that large has no double, not even after rounding. -/
theorem requireDouble_of_beyond (h : isBeyondDoubles v = true) :
    requireDouble v = .error .beyondDoubles := by
  cases v with
  | scalar s =>
    cases s with
    | int n =>
      have hbeyond : Magnitude.leastBeyond ≤ n := of_decide_eq_true h
      have hnone : doubleOfInt? n = none := by
        rw [← Option.not_isSome_iff_eq_none, isSome_doubleOfInt?_iff]
        omega
      rw [requireDouble, toDouble?, hnone]
    | _ => cases h
  | _ => cases h

/-- The double of a length of time is more than nought, unless that was no number. -/
theorem requireDouble_of_isSeconds (h : isSeconds v = true) (hv : isBeyondDoubles v = false) :
    ∃ x, requireDouble v = .ok x ∧ (0 < x ↔ isNoNumber v = false) := by
  cases v with
  | scalar s =>
    cases s with
    | int n =>
      have hpos : 0 < n := of_decide_eq_true h
      have hwithin : ¬ Magnitude.leastBeyond ≤ n := of_decide_eq_false hv
      have hsome : (doubleOfInt? n).isSome = true := by
        rw [isSome_doubleOfInt?_iff]
        omega
      obtain ⟨x, hx⟩ := Option.isSome_iff_exists.mp hsome
      refine ⟨x, by rw [requireDouble, toDouble?, hx], ?_⟩
      -- rounding may change the number, but takes no positive one to nought
      exact iff_of_true (zero_lt_of_doubleOfInt? hpos hx) rfl
    | float x =>
      refine ⟨x, rfl, fun hpos => ?_, fun hnumber => ?_⟩
      · exact Bool.eq_false_iff.mpr fun hnan => not_zero_lt_of_isNaN hnan hpos
      · rcases isSeconds_iff.mp h with hpos | hnan
        · exact of_decide_eq_true hpos
        · exact absurd hnan (Bool.eq_false_iff.mp hnumber)
    | _ => cases h
  | _ => cases h

/-! ## Timings

Both checks are passed, so only the two conversions are left, the interval first. -/

section

variable {interval limit : Value} (hi : isSeconds interval = true)
  (hl : isSeconds limit = true)

include hi hl

theorem ofValues_of_isSeconds : Timing.ofValues interval limit =
    (do return ⟨← requireDouble interval, ← requireDouble limit⟩) := by
  rw [Timing.ofValues, requirePositive_of_isSeconds hi, requirePositive_of_isSeconds hl]
  rfl

/-- A collector starts with lengths of time that doubles hold. -/
theorem ofValues_eq_ok (hinterval : isBeyondDoubles interval = false)
    (hlimit : isBeyondDoubles limit = false) :
    ∃ timing, Timing.ofValues interval limit = .ok timing ∧
      (0 < timing.interval ↔ isNoNumber interval = false) ∧
      (0 < timing.readTimeout ↔ isNoNumber limit = false) := by
  obtain ⟨x, hx, hxpos⟩ := requireDouble_of_isSeconds hi hinterval
  obtain ⟨y, hy, hypos⟩ := requireDouble_of_isSeconds hl hlimit
  refine ⟨⟨x, y⟩, ?_, hxpos, hypos⟩
  rw [ofValues_of_isSeconds hi hl, hx, hy]
  rfl

/-- It does not start with one that no double holds. -/
theorem ofValues_eq_error
    (h : isBeyondDoubles interval = true ∨ isBeyondDoubles limit = true) :
    Timing.ofValues interval limit = .error .beyondDoubles := by
  rw [ofValues_of_isSeconds hi hl]
  cases hinterval : isBeyondDoubles interval with
  | true =>
    rw [requireDouble_of_beyond hinterval]
    rfl
  | false =>
    -- the interval is turned into a double first, so it is the limit that has none
    obtain ⟨x, hx, -⟩ := requireDouble_of_isSeconds hi hinterval
    rw [hx, requireDouble_of_beyond (h.resolve_left (by simp [hinterval]))]
    rfl

end

/-! ## Loaded configurations -/

/-- **The lengths of time that are loaded** are more than nought or no numbers. A collector
    starts with them if doubles hold them, at an interval more than nought unless that is no
    number; and otherwise not. -/
theorem load_timing {standard : Option Files.Path} {files : Files.Tree} {path : Option String}
    {environment : Environment} {given : List (String × Value)} {config : Config}
    (hload : Config.loadFrom standard files path environment given = .ok config)
    (fallback : Value) :
    let interval := config.get "collector.interval" fallback
    let limit := config.get "collector.read_timeout" fallback
    (isPositive interval = true ∨ isNoNumber interval = true) ∧
    (isPositive limit = true ∨ isNoNumber limit = true) ∧
    (isBeyondDoubles interval = true ∨ isBeyondDoubles limit = true →
      Timing.ofValues interval limit = .error .beyondDoubles) ∧
    (isBeyondDoubles interval = false → isBeyondDoubles limit = false → ∃ timing,
      Timing.ofValues interval limit = .ok timing ∧
      (0 < timing.interval ↔ isNoNumber interval = false) ∧
      (0 < timing.readTimeout ↔ isNoNumber limit = false)) := by
  intro interval limit
  have hi : isSeconds interval = true :=
    accepts_get_of_load hload List.mem_cons_self (by decide) fallback
  have hl : isSeconds limit = true :=
    accepts_get_of_load hload (List.mem_cons_of_mem _ List.mem_cons_self) (by decide) fallback
  exact ⟨isSeconds_iff.mp hi, isSeconds_iff.mp hl, ofValues_eq_error hi hl,
    ofValues_eq_ok hi hl⟩

/-- With an interval of half a second from the environment a collector starts. -/
theorem load_timing_half : ∃ config,
    Config.loadFrom none (.directory []) none [("CONNTRACK_EXPORTER_INTERVAL", "0.5")] [] =
      .ok config ∧
    ∃ timing, Timing.ofValues (config.get "collector.interval" .null)
      (config.get "collector.read_timeout" .null) = .ok timing ∧ 0 < timing.interval := by
  have hcheck : Outcome.satisfies
      (fun config => !isBeyondDoubles (config.get "collector.interval" .null) &&
        !isBeyondDoubles (config.get "collector.read_timeout" .null) &&
        !isNoNumber (config.get "collector.interval" .null))
      (Config.loadFrom none (.directory []) none [("CONNTRACK_EXPORTER_INTERVAL", "0.5")] []) =
        true := by
    decide +kernel
  obtain ⟨config, hload, hconfig⟩ := Outcome.exists_of_satisfies hcheck
  simp only [Bool.and_eq_true, Bool.not_eq_true'] at hconfig
  obtain ⟨⟨hinterval, hlimit⟩, hnumber⟩ := hconfig
  obtain ⟨-, -, -, hstarts⟩ := load_timing hload .null
  obtain ⟨timing, htiming, hpos, -⟩ := hstarts hinterval hlimit
  exact ⟨config, hload, timing, htiming, hpos.mpr hnumber⟩

/-- Not all that is loaded gives a collector an interval. One that is no number passes every
    check and is run at, and with an integer of 401 digits a collector does not start. -/
theorem load_timing_unstartable :
    (∃ config, Config.loadFrom none (.directory []) none
        [("CONNTRACK_EXPORTER_INTERVAL", "nan")] [] = .ok config ∧
      isPositive (config.get "collector.interval" .null) = false ∧
      ∃ timing, Timing.ofValues (config.get "collector.interval" .null)
        (config.get "collector.read_timeout" .null) = .ok timing ∧ ¬ 0 < timing.interval) ∧
    ∃ config, Config.loadFrom none (.directory []) none []
        [("collector.interval", .int (10 ^ 400))] = .ok config ∧
      Timing.ofValues (config.get "collector.interval" .null)
        (config.get "collector.read_timeout" .null) = .error .beyondDoubles := by
  let timing (config : Config) : Except TimingFault Timing :=
    Timing.ofValues (config.get "collector.interval" .null)
      (config.get "collector.read_timeout" .null)
  have hnan : Outcome.satisfies
      (fun config => !isPositive (config.get "collector.interval" .null) &&
        Outcome.satisfies (fun t => !decide (0 < t.interval)) (timing config))
      (Config.loadFrom none (.directory []) none [("CONNTRACK_EXPORTER_INTERVAL", "nan")] []) =
        true := by
    decide +kernel
  have hbeyond : Outcome.satisfies
      (fun config => Outcome.refuses (fun fault => decide (fault = .beyondDoubles)) (timing config))
      (Config.loadFrom none (.directory []) none []
        [("collector.interval", .int (10 ^ 400))]) = true := by
    decide +kernel
  constructor
  · obtain ⟨config, hload, hconfig⟩ := Outcome.exists_of_satisfies hnan
    rw [Bool.and_eq_true, Bool.not_eq_true'] at hconfig
    obtain ⟨t, htiming, hpos⟩ := Outcome.exists_of_satisfies hconfig.2
    exact ⟨config, hload, hconfig.1, t, htiming, by simpa using hpos⟩
  · obtain ⟨config, hload, hconfig⟩ := Outcome.exists_of_satisfies hbeyond
    obtain ⟨fault, hfault, hsame⟩ := Outcome.exists_of_refuses hconfig
    obtain rfl := of_decide_eq_true hsame
    exact ⟨config, hload, hfault⟩

end Flowmeter.Collector
