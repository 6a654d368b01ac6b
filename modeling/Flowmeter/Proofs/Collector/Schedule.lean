import Flowmeter.Collector.Schedule
import Mathlib

/-!
# The collector stays on its grid

In exact time every cycle begins on a point of the grid, however long the cycles take and however
they end. The invariant is that the clock shows the time at which the cycle is due: a sleep leads
just to the next point, and a point that has been missed is made good by skipping to the first one
ahead. From it everything is said turn by turn, and a turn depends on nothing but how many whole
intervals go into the duration of its cycle.

Time is exact here, and this is where the modules differ from the loop that runs: in doubles a sum
may be rounded off the grid, and no statement about points of a grid survives that. The loop is one
definition for every scale of time (`TimeScale`), and `Rat` is the scale on which its arithmetic
says what is meant.

A turn is first written as `exactTurn`, with nothing in it but the number of whole intervals in the
duration, and the loop is shown to take just such turns. Everything else is about this number.
Floors come in at one place, `floor_overrun`: the loop divides what is left after the first interval
and adds one to the result, so that its count is the number of whole intervals in the whole
duration. A cycle that ends just on a tick has passed that tick by this count.
-/

set_option autoImplicit false

namespace Flowmeter

def Notice.saysOverran : Notice → Bool
  | .overran _ _ => true
  | _ => false

namespace Collector

/-- The point of the grid that lies some intervals after a time. -/
def gridPoint (interval start : Rat) (m : Nat) : Rat :=
  start + m * interval

/-- The points of the grid after a time that is one of them. -/
def ticks (interval start : Rat) : Set Rat :=
  {t | ∃ j, 0 < j ∧ gridPoint interval start j = t}

/-- What a loop says of an interval that a cycle has overrun. -/
def Beat.overruns {τ : Type} (b : Beat τ) (shown : Float) : List Notice :=
  (b.notices shown).filter Notice.saysOverran

/-- How many intervals lie between the beginning of a cycle and that of the next. -/
def intervalsTaken (interval duration : Rat) : Nat :=
  if duration ≤ interval then 1 else ⌊duration / interval⌋₊ + 1

/-- What follows a cycle in exact time. -/
def exactTurn (interval due duration : Rat) : Turn Rat where
  next := gridPoint interval due (intervalsTaken interval duration)
  sleep := gridPoint interval due (intervalsTaken interval duration) - (due + duration)
  skipped := if duration ≤ interval then none else some ⌊duration / interval⌋₊

variable {interval due duration : Rat}

/-! ## Whole intervals

Points are compared by their numbers. With `gridPoint_le_iff` the end of a cycle can be compared
with points too, and no later proof divides. -/

theorem gridPoint_zero (interval start : Rat) : gridPoint interval start 0 = start := by
  simp [gridPoint]

theorem gridPoint_one (interval start : Rat) : gridPoint interval start 1 = start + interval := by
  simp [gridPoint]

/-- A grid begun at one of its points is the same grid further on. -/
theorem gridPoint_add (interval start : Rat) (m k : Nat) :
    gridPoint interval (gridPoint interval start m) k = gridPoint interval start (m + k) := by
  simp only [gridPoint, Nat.cast_add]
  ring

theorem gridPoint_lt_gridPoint (hpos : 0 < interval) (start : Rat) {j k : Nat} :
    gridPoint interval start j < gridPoint interval start k ↔ j < k := by
  simp [gridPoint, hpos]

theorem gridPoint_le_gridPoint (hpos : 0 < interval) (start : Rat) {j k : Nat} :
    gridPoint interval start j ≤ gridPoint interval start k ↔ j ≤ k := by
  simp [gridPoint, hpos]

/-- As many points lie up to the end of a cycle as whole intervals go into its duration. -/
theorem gridPoint_le_iff (hpos : 0 < interval) (hd : 0 ≤ duration) (start : Rat) {j : Nat} :
    gridPoint interval start j ≤ start + duration ↔ j ≤ ⌊duration / interval⌋₊ := by
  rw [Nat.le_floor_iff (div_nonneg hd hpos.le), le_div_iff₀ hpos]
  simp [gridPoint]

/-- The points that lie behind the end of a cycle are the others. -/
theorem lt_gridPoint_iff (hpos : 0 < interval) (hd : 0 ≤ duration) (start : Rat) {j : Nat} :
    start + duration < gridPoint interval start j ↔ ⌊duration / interval⌋₊ < j := by
  rw [← not_le, gridPoint_le_iff hpos hd, not_le]

/-! ## One turn

Two cases by whether the cycle has kept to its interval, as the loop has them: within it the next
point is taken as it is, and beyond it the loop looks how far it has got. -/

theorem intervalsTaken_pos (interval duration : Rat) : 0 < intervalsTaken interval duration := by
  unfold intervalsTaken
  split <;> omega

theorem exactTurn_of_le (h : duration ≤ interval) :
    exactTurn interval due duration =
      ⟨due + interval, due + interval - (due + duration), none⟩ := by
  simp [exactTurn, intervalsTaken, h, gridPoint_one]

theorem exactTurn_of_lt (h : interval < duration) :
    exactTurn interval due duration =
      ⟨gridPoint interval due (⌊duration / interval⌋₊ + 1),
        gridPoint interval due (⌊duration / interval⌋₊ + 1) - (due + duration),
        some ⌊duration / interval⌋₊⟩ := by
  simp [exactTurn, intervalsTaken, not_le.mpr h]

/-- A cycle within its interval: the comparison of the loop fails, and the first point ahead is
    the next. -/
theorem turn_of_le (h : duration ≤ interval) :
    turn interval due (due + duration) = .ok (exactTurn interval due duration) := by
  have hahead : ¬ due + interval < due + duration := by linarith
  have hbefore : TimeScale.before (due + interval) (due + duration) = false :=
    decide_eq_false hahead
  rw [exactTurn_of_le h]
  -- `before` is a truth value and not a proposition, so the branch is shown before it is taken
  show (if TimeScale.before (due + interval) (due + duration) = true then _ else
    Except.ok (⟨due + interval, due + interval - (due + duration), none⟩ : Turn Rat)) = _
  rw [hbefore, if_neg Bool.false_ne_true]

/-- The interval that has been added before the division and the one that is added after it make
    the points skipped those up to the end of the cycle, that end included. -/
theorem floor_overrun (hpos : 0 < interval) (h : interval < duration) (due : Rat) :
    ((due + duration - (due + interval)) / interval).floor + 1 =
      ((⌊duration / interval⌋₊ : Nat) : Int) := by
  have hquotient : (due + duration - (due + interval)) / interval = duration / interval - 1 := by
    field_simp
    ring
  have hnonneg : 0 ≤ duration / interval := div_nonneg (hpos.trans h).le hpos.le
  rw [hquotient, Int.natCast_floor_eq_floor hnonneg]
  show ⌊duration / interval - 1⌋ + 1 = ⌊duration / interval⌋
  rw [Int.floor_sub_one]
  omega

/-- A cycle beyond it: the points that have been passed are added to the one that was next. -/
theorem turn_of_lt (hpos : 0 < interval) (h : interval < duration) :
    turn interval due (due + duration) = .ok (exactTurn interval due duration) := by
  have hbefore : TimeScale.before (due + interval) (due + duration) = true :=
    decide_eq_true (by linarith)
  have hskipped := floor_overrun hpos h due
  have hnext : due + interval + (⌊duration / interval⌋₊ : Int) * interval =
      gridPoint interval due (⌊duration / interval⌋₊ + 1) := by
    simp only [gridPoint, Int.cast_natCast, Nat.cast_add, Nat.cast_one]
    ring
  rw [exactTurn_of_lt h, ← hnext, ← hskipped]
  show (if TimeScale.before (due + interval) (due + duration) = true then
    Except.ok (_ : Turn Rat) else _) = _
  rw [hbefore, if_pos rfl]

theorem turn_eq (hpos : 0 < interval) (due duration : Rat) :
    turn interval due (due + duration) = .ok (exactTurn interval due duration) := by
  rcases le_or_gt duration interval with h | h
  · exact turn_of_le h
  · exact turn_of_lt hpos h

/-- A sleep is what is left up to the next point, by the very definition of it. -/
theorem next_eq (interval due duration : Rat) : (exactTurn interval due duration).next =
    due + duration + (exactTurn interval due duration).sleep := by
  simp [exactTurn]

/-- The next point is never behind the end of a cycle, and never more than an interval ahead. -/
theorem sleep_bounds (hpos : 0 < interval) (hd : 0 ≤ duration) (due : Rat) :
    0 ≤ (exactTurn interval due duration).sleep ∧
      (exactTurn interval due duration).sleep ≤ interval := by
  rcases le_or_gt duration interval with h | h
  · rw [exactTurn_of_le h]
    constructor <;> simp only <;> linarith
  -- the next point is ahead, and the one before it is not
  · have hahead := (lt_gridPoint_iff hpos hd due (j := ⌊duration / interval⌋₊ + 1)).mpr
      (Nat.lt_succ_self _)
    have hpassed := (gridPoint_le_iff hpos hd due).mpr (Nat.le_refl ⌊duration / interval⌋₊)
    rw [← gridPoint_add, gridPoint_one] at hahead
    rw [exactTurn_of_lt h, ← gridPoint_add, gridPoint_one]
    constructor <;> simp only <;> linarith

/-- A sleep that is not negative leads to where it is to lead. -/
theorem sleepUntil_eq (now : Rat) {sleep : Rat} (h : 0 ≤ sleep) :
    sleepUntil now sleep = .ok (now + sleep) := by
  rcases h.eq_or_lt with rfl | hlt
  · rw [add_zero]
    rfl
  · show (if decide ((0 : Rat) < sleep) = true then Except.ok (now + sleep) else .ok now) = _
    rw [if_pos (decide_eq_true hlt)]

/-! ## The cycles of a loop

The induction is on the laps, with the time at which the next is due left open. The clock and the
time due are one number in it: that they stay one is the invariant, and `beats_cons` is where it is
kept. -/

/-- The step: the loop is woken just when its next cycle is due. -/
theorem beats_cons (hpos : 0 < interval) {lap : Lap Rat} (hlap : 0 ≤ lap.duration)
    (rest : List (Lap Rat)) :
    beats interval due due (lap :: rest) =
      (beats interval (exactTurn interval due lap.duration).next
        (exactTurn interval due lap.duration).next rest).map
          (⟨due, lap.result, exactTurn interval due lap.duration⟩ :: ·) := by
  have hturn := turn_eq hpos due lap.duration
  have hwoken := sleepUntil_eq (due + lap.duration) (sleep_bounds hpos hlap due).1
  rw [← next_eq] at hwoken
  simp only [beats, TimeScale.add, bind, Except.bind]
  rw [hturn]
  simp only
  rw [hwoken]
  simp only
  -- what the rest comes to plays no part: a fault there is a fault here
  cases beats interval (exactTurn interval due lap.duration).next
    (exactTurn interval due lap.duration).next rest <;> rfl

/-- The run: every cycle is followed by the turn that its duration calls for, and begins at the
    point that the turn before has led to. -/
theorem exists_beats (hpos : 0 < interval) {laps : List (Lap Rat)}
    (hlaps : ∀ lap ∈ laps, 0 ≤ lap.duration) (due : Rat) :
    ∃ bs, beats interval due due laps = .ok bs ∧
      List.Forall₂ (fun lap b => 0 ≤ lap.duration ∧ b.result = lap.result ∧
        b.turn = exactTurn interval b.began lap.duration) laps bs ∧
      bs.IsChain (fun b later => later.began = b.turn.next) ∧
      ∀ b ∈ bs.head?, b.began = due := by
  induction laps generalizing due with
  | nil => exact ⟨[], rfl, .nil, .nil, by simp⟩
  | cons lap rest ih =>
    obtain ⟨hlap, hrest⟩ := List.forall_mem_cons.mp hlaps
    obtain ⟨bs, hbs, hturns, hchain, hfirst⟩ :=
      ih hrest (exactTurn interval due lap.duration).next
    refine ⟨⟨due, lap.result, exactTurn interval due lap.duration⟩ :: bs, ?_, ?_, ?_, ?_⟩
    · rw [beats_cons hpos hlap, hbs]
      rfl
    · exact .cons ⟨hlap, rfl, rfl⟩ hturns
    · exact List.isChain_cons.mpr ⟨hfirst, hchain⟩
    · simp

/-- What begins on the grid and is followed by turns stays on it. -/
theorem exists_marks {interval start : Rat} {laps : List (Lap Rat)} {bs : List (Beat Rat)}
    {m : Nat}
    (hturns : List.Forall₂ (fun lap b => 0 ≤ lap.duration ∧ b.result = lap.result ∧
      b.turn = exactTurn interval b.began lap.duration) laps bs)
    (hchain : bs.IsChain (fun b later => later.began = b.turn.next))
    (hfirst : ∀ b ∈ bs.head?, b.began = gridPoint interval start m) :
    ∃ ms : List Nat, bs.map Beat.began = ms.map (gridPoint interval start) ∧
      ms.IsChain (· < ·) ∧ ∀ first ∈ ms.head?, first = m := by
  -- the point at which the first cycle begins moves along
  induction hturns generalizing m with
  | nil => exact ⟨[], rfl, .nil, by simp⟩
  | @cons lap b laps rest hturn hrest ih =>
    obtain ⟨hlater, hchain⟩ := List.isChain_cons.mp hchain
    have hbegan : b.began = gridPoint interval start m := hfirst b rfl
    have hnext : b.turn.next =
        gridPoint interval start (m + intervalsTaken interval lap.duration) := by
      rw [hturn.2.2, hbegan, ← gridPoint_add]
      rfl
    obtain ⟨ms, hms, hsorted, hhead⟩ := ih hchain fun later h => (hlater later h).trans hnext
    refine ⟨m :: ms, ?_, ?_, by simp⟩
    · rw [List.map_cons, List.map_cons, hms, hbegan]
    · refine List.isChain_cons.mpr ⟨fun first h => ?_, hsorted⟩
      rw [hhead first h]
      exact Nat.lt_add_of_pos_right (intervalsTaken_pos _ _)

/-- Only how long a cycle takes plays a part in when cycles begin, on any scale of time. -/
theorem beats_congr {τ : Type} [TimeScale τ] {laps laps' : List (Lap τ)}
    (h : laps.map Lap.duration = laps'.map Lap.duration) (interval due now : τ) :
    (beats interval due now laps).map (List.map fun b => (b.began, b.turn)) =
      (beats interval due now laps').map (List.map fun b => (b.began, b.turn)) := by
  -- a fault may come at any of the three operations, and then at the same for both
  induction laps generalizing laps' due now with
  | nil =>
    cases laps' with
    | nil => rfl
    | cons => cases h
  | cons lap rest ih =>
    cases laps' with
    | nil => cases h
    | cons lap' rest' =>
      obtain ⟨hlap, hrest⟩ := List.cons.inj h
      simp only [beats, hlap, bind, Except.bind]
      cases TimeScale.add now lap'.duration with
      | error fault => rfl
      | ok ended =>
        simp only
        cases turn interval due ended with
        | error fault => rfl
        | ok following =>
          simp only
          cases sleepUntil ended following.sleep with
          | error fault => rfl
          | ok woken =>
            have hlater := ih hrest following.next woken
            cases hb : beats interval following.next woken rest <;>
              cases hb' : beats interval following.next woken rest' <;>
              simp_all [Except.map, pure, Except.pure]

/-- Of all that a loop says of a beat only what its turn says is about an overrun; a failed cycle
    says something else. -/
theorem overruns_eq {τ : Type} (b : Beat τ) (shown : Float) :
    b.overruns shown = b.turn.notices shown := by
  unfold Beat.overruns Beat.notices Turn.notices
  cases b.result <;> cases b.turn.skipped <;> rfl

/-- **Cycles stay on the grid.** Whatever the cycles of a loop take and however they end, the loop
    runs them all. They begin at points of the grid, the first at once and each later one further
    on; each begins where the turn before has led to. A sleep is never negative and never more than
    an interval, and what it leads to is the next beginning. A cycle of at most an interval is
    followed by the very next point and nothing is said of it; one that takes longer is said once to
    have overrun. All this is the same for cycles that end otherwise and take as long. -/
theorem beats_stay_on_grid (interval start : Rat) (hpos : 0 < interval) (laps : List (Lap Rat))
    (hlaps : ∀ lap ∈ laps, 0 ≤ lap.duration) :
    ∃ bs, beats interval start start laps = .ok bs ∧
      (∃ ms : List Nat, bs.map Beat.began = ms.map (gridPoint interval start) ∧
        ms.IsChain (· < ·) ∧ ∀ first ∈ ms.head?, first = 0) ∧
      bs.IsChain (fun b later => later.began = b.turn.next) ∧
      List.Forall₂ (fun lap b =>
        b.result = lap.result ∧
        b.turn.next = b.began + lap.duration + b.turn.sleep ∧
        0 ≤ b.turn.sleep ∧ b.turn.sleep ≤ interval ∧
        (lap.duration ≤ interval →
          b.turn.next = b.began + interval ∧ ∀ shown, b.overruns shown = []) ∧
        (interval < lap.duration →
          ∃ skipped, ∀ shown, b.overruns shown = [.overran shown skipped])) laps bs ∧
      ∀ laps', laps'.map Lap.duration = laps.map Lap.duration →
        ∃ bs', beats interval start start laps' = .ok bs' ∧
          bs'.map (fun b => (b.began, b.turn)) = bs.map (fun b => (b.began, b.turn)) ∧
          ∀ shown, bs'.map (·.overruns shown) = bs.map (·.overruns shown) := by
  obtain ⟨bs, hbs, hturns, hchain, hfirst⟩ := exists_beats hpos hlaps start
  refine ⟨bs, hbs, ?grid, hchain, ?turns, ?ends⟩
  case grid =>
    rw [← gridPoint_zero interval start] at hfirst
    exact exists_marks hturns hchain hfirst
  case turns =>
    refine hturns.imp fun lap b ⟨hlap, hresult, hturn⟩ => ?_
    have hbounds := sleep_bounds hpos hlap b.began
    rw [← hturn] at hbounds
    refine ⟨hresult, ?_, hbounds.1, hbounds.2, fun h => ?_, fun h => ?_⟩
    · rw [hturn]
      exact next_eq interval b.began lap.duration
    · rw [exactTurn_of_le h] at hturn
      refine ⟨by rw [hturn], fun shown => ?_⟩
      rw [overruns_eq, hturn]
      rfl
    · rw [exactTurn_of_lt h] at hturn
      refine ⟨⌊lap.duration / interval⌋₊, fun shown => ?_⟩
      rw [overruns_eq, hturn]
      rfl
  case ends =>
    intro laps' h
    have hsame := beats_congr h interval start start
    rw [hbs] at hsame
    cases hbs' : beats interval start start laps' with
    | error fault =>
      rw [hbs'] at hsame
      cases hsame
    | ok bs' =>
      rw [hbs'] at hsame
      have htimes := Except.ok.inj hsame
      refine ⟨bs', rfl, htimes, fun shown => ?_⟩
      have hturns := congrArg (List.map fun times => times.2.notices shown) htimes
      simpa [Function.comp_def, overruns_eq] using hturns

theorem beats_stay_on_grid_of_failure :
    ((0 : Rat) < 10 ∧ ∀ lap ∈ ([⟨3, .failed⟩, ⟨25, .published⟩] : List (Lap Rat)),
      0 ≤ lap.duration) ∧
    ∃ first second, beats 10 5 5 ([⟨3, .failed⟩, ⟨25, .published⟩] : List (Lap Rat)) =
        .ok [first, second] ∧
      first.turn.next = first.began + 10 ∧ second.began = first.turn.next := by
  have hpos : (0 : Rat) < 10 := by norm_num
  have hlaps : ∀ lap ∈ ([⟨3, .failed⟩, ⟨25, .published⟩] : List (Lap Rat)),
      0 ≤ lap.duration := by
    simp
  obtain ⟨bs, hbs, -, hchain, hturns, -⟩ := beats_stay_on_grid 10 5 hpos _ hlaps
  cases hturns with
  | @cons _ first _ rest hfirst hrest =>
    cases hrest with
    | @cons _ second _ rest hsecond hrest =>
      cases hrest
      have hnext := (hfirst.2.2.2.2.1 (by norm_num)).1
      exact ⟨⟨hpos, hlaps⟩, first, second, hbs, hnext, (List.isChain_cons.mp hchain).1 second rfl⟩

/-! ## Overrun intervals

The ticks are a set of times here and the points are numbered, so both are tied together once, in
`ticks_before` and `tick_ahead_iff`; the rest counts numbers. -/

theorem mem_ticks (interval start : Rat) (k : Nat) :
    gridPoint interval start (k + 1) ∈ ticks interval start :=
  ⟨k + 1, k.succ_pos, rfl⟩

/-- The ticks before a point are those with a smaller number, of which nought is none: the cycle
    itself began there. -/
theorem ticks_before (hpos : 0 < interval) (start : Rat) (k : Nat) :
    {t ∈ ticks interval start | t < gridPoint interval start (k + 1)} =
      gridPoint interval start '' Finset.Icc 1 k := by
  ext t
  rw [Finset.coe_Icc]
  constructor
  · rintro ⟨⟨j, hj, rfl⟩, hlt⟩
    rw [gridPoint_lt_gridPoint hpos] at hlt
    exact ⟨j, ⟨hj, Nat.le_of_lt_succ hlt⟩, rfl⟩
  · rintro ⟨j, ⟨hj, hle⟩, rfl⟩
    exact ⟨⟨j, hj, rfl⟩, (gridPoint_lt_gridPoint hpos start).mpr (Nat.lt_succ_of_le hle)⟩

theorem ncard_ticks_before (hpos : 0 < interval) (start : Rat) (k : Nat) :
    {t ∈ ticks interval start | t < gridPoint interval start (k + 1)}.ncard = k := by
  have hinjective : Function.Injective (gridPoint interval start) := fun j k h =>
    le_antisymm ((gridPoint_le_gridPoint hpos start).mp h.le)
      ((gridPoint_le_gridPoint hpos start).mp h.ge)
  rw [ticks_before hpos, Set.ncard_image_of_injective _ hinjective, Set.ncard_coe_finset,
    Nat.card_Icc, Nat.add_sub_cancel]

theorem isLeast_tick_from (interval start : Rat) (k : Nat) :
    IsLeast {t ∈ ticks interval start | gridPoint interval start (k + 1) ≤ t}
      (gridPoint interval start (k + 1)) :=
  ⟨⟨mem_ticks interval start k, le_rfl⟩, fun _ ht => ht.2⟩

/-- A tick is ahead of the end of a cycle just when it is none of those passed by then. -/
theorem tick_ahead_iff (hpos : 0 < interval) (hd : 0 ≤ duration) {start t : Rat}
    (ht : t ∈ ticks interval start) :
    start + duration < t ↔ gridPoint interval start (⌊duration / interval⌋₊ + 1) ≤ t := by
  obtain ⟨j, -, rfl⟩ := ht
  rw [lt_gridPoint_iff hpos hd, gridPoint_le_gridPoint hpos, Nat.succ_le_iff]

/-- The first tick behind the end of a cycle. -/
theorem isLeast_tick_ahead (hpos : 0 < interval) (hd : 0 ≤ duration) (start : Rat) :
    IsLeast {t ∈ ticks interval start | start + duration < t}
      (gridPoint interval start (⌊duration / interval⌋₊ + 1)) := by
  have hsame : {t ∈ ticks interval start | start + duration < t} =
      {t ∈ ticks interval start | gridPoint interval start (⌊duration / interval⌋₊ + 1) ≤ t} :=
    Set.sep_ext_iff.mpr fun t ht => tick_ahead_iff hpos hd ht
  rw [hsame]
  exact isLeast_tick_from interval start _

/-- The ticks up to the end of a cycle, that end included, are as many as whole intervals go into
    it. -/
theorem ncard_ticks_passed (hpos : 0 < interval) (hd : 0 ≤ duration) (start : Rat) :
    {t ∈ ticks interval start | t ≤ start + duration}.ncard = ⌊duration / interval⌋₊ := by
  have hsame : {t ∈ ticks interval start | t ≤ start + duration} =
      {t ∈ ticks interval start | t < gridPoint interval start (⌊duration / interval⌋₊ + 1)} :=
    Set.sep_ext_iff.mpr fun t ht => by
      rw [← not_lt, tick_ahead_iff hpos hd ht, not_le]
  rw [hsame]
  exact ncard_ticks_before hpos start _

/-- Off the grid it makes no difference on which side an end is counted. -/
theorem le_tick_iff_lt {start ended t : Rat} (hended : ended ∉ ticks interval start)
    (ht : t ∈ ticks interval start) : (t ≤ ended ↔ t < ended) ∧ (ended ≤ t ↔ ended < t) := by
  have hne : t ≠ ended := fun h => hended (h ▸ ht)
  exact ⟨⟨fun h => h.lt_of_ne hne, le_of_lt⟩, ⟨fun h => h.lt_of_ne hne.symm, le_of_lt⟩⟩

/-- **An overrun skips the ticks up to its end.** A cycle that takes longer than the interval is
    followed by the first tick that lies after its end, and the ticks reported as skipped are those
    up to its end, the end included. Where the cycle does not end just on a tick, that is the first
    tick not before its end, and as many as lie before it. -/
theorem overruns_skip_through_end (interval start : Rat) (hpos : 0 < interval)
    (laps : List (Lap Rat)) (hlaps : ∀ lap ∈ laps, 0 ≤ lap.duration) :
    ∃ bs, beats interval start start laps = .ok bs ∧
      bs.IsChain (fun b later => later.began = b.turn.next) ∧
      List.Forall₂ (fun lap b => interval < lap.duration →
        IsLeast {t ∈ ticks interval b.began | b.began + lap.duration < t} b.turn.next ∧
        (∀ shown, b.overruns shown =
          [.overran shown {t ∈ ticks interval b.began | t ≤ b.began + lap.duration}.ncard]) ∧
        (b.began + lap.duration ∉ ticks interval b.began →
          IsLeast {t ∈ ticks interval b.began | b.began + lap.duration ≤ t} b.turn.next ∧
          ∀ shown, b.overruns shown =
            [.overran shown {t ∈ ticks interval b.began | t < b.began + lap.duration}.ncard]))
        laps bs := by
  obtain ⟨bs, hbs, hturns, hchain, -⟩ := exists_beats hpos hlaps start
  refine ⟨bs, hbs, hchain, hturns.imp fun lap b ⟨hlap, _, hturn⟩ h => ?_⟩
  rw [exactTurn_of_lt h] at hturn
  have hnext : IsLeast {t ∈ ticks interval b.began | b.began + lap.duration < t} b.turn.next := by
    rw [hturn]
    exact isLeast_tick_ahead hpos hlap b.began
  have hskipped : ∀ shown, b.overruns shown =
      [.overran shown {t ∈ ticks interval b.began | t ≤ b.began + lap.duration}.ncard] := by
    intro shown
    rw [overruns_eq, ncard_ticks_passed hpos hlap, hturn]
    rfl
  refine ⟨hnext, hskipped, fun hended => ⟨?_, fun shown => ?_⟩⟩
  · rwa [Set.sep_ext_iff.mpr fun t ht => (le_tick_iff_lt hended ht).2]
  · rw [hskipped, Set.sep_ext_iff.mpr fun t ht => (le_tick_iff_lt hended ht).1]

theorem overruns_skip_through_end_between_ticks :
    ((0 : Rat) < 10 ∧ ∀ lap ∈ ([⟨25, .published⟩] : List (Lap Rat)), 0 ≤ lap.duration) ∧
    ∃ b, beats 10 0 0 ([⟨25, .published⟩] : List (Lap Rat)) = .ok [b] ∧
      IsLeast {t ∈ ticks 10 b.began | b.began + 25 < t} b.turn.next := by
  have hpos : (0 : Rat) < 10 := by norm_num
  have hlaps : ∀ lap ∈ ([⟨25, .published⟩] : List (Lap Rat)), 0 ≤ lap.duration := by simp
  obtain ⟨bs, hbs, -, hturns⟩ := overruns_skip_through_end 10 0 hpos _ hlaps
  cases hturns with
  | @cons _ b _ rest hb hrest =>
    cases hrest
    exact ⟨⟨hpos, hlaps⟩, b, hbs, (hb (by norm_num)).1⟩

/-- A cycle of two intervals ends just on a tick. That tick is dropped: it is reported together with
    the one before, and the next cycle begins an interval later. -/
theorem tick_at_end_is_dropped :
    beats 10 0 0 ([⟨20, .published⟩, ⟨1, .published⟩] : List (Lap Rat)) =
      .ok [⟨0, .published, ⟨30, 10, some 2⟩⟩, ⟨30, .published, ⟨40, 9, none⟩⟩] ∧
    IsLeast {t ∈ ticks 10 0 | 0 + 20 ≤ t} 20 ∧
    {t ∈ ticks 10 0 | t < 0 + 20}.ncard = 1 := by
  have hpos : (0 : Rat) < 10 := by norm_num
  have hend : gridPoint 10 0 (1 + 1) = 20 := by norm_num [gridPoint]
  have hlong : exactTurn 10 0 20 = ⟨30, 10, some 2⟩ := by
    rw [exactTurn_of_lt (by norm_num)]
    norm_num [gridPoint]
  have hshort : exactTurn 10 30 1 = ⟨40, 9, none⟩ := by
    rw [exactTurn_of_le (by norm_num)]
    norm_num
  refine ⟨?_, ?_, ?_⟩
  · rw [beats_cons hpos (by norm_num), hlong, beats_cons hpos (by norm_num), hshort]
    rfl
  · have h := isLeast_tick_from 10 0 1
    rw [hend] at h
    rwa [zero_add]
  · have h := ncard_ticks_before hpos 0 1
    rw [hend] at h
    rwa [zero_add]

end Collector

end Flowmeter
