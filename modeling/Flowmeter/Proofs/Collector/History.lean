import Flowmeter.Collector.Service
import Mathlib.Data.List.Forall2
import Mathlib.Data.List.Induction

/-!
# Reading a history

The effects of a run, in order, are its history. What is read off a history here needs no look
at the collector: which calls have been made and how they ended, who is between taking the lock
and letting it go, which readings are under way, and which text the reading of a call has
yielded. Statements about runs are made in these terms.

What is open at a time, calls inside or readings under way, is not a part of the history but follows
from it: what has been opened and not closed, gone through from the start. The two are one
definition with what opens and what closes left open, and what is proved of it is proved of both.

A rule is what an effect may rely on when it happens. A history that keeps a rule keeps it at every
place, so a statement about the whole run is proved where an effect is added.
-/

set_option autoImplicit false

namespace Flowmeter.Collector

namespace Effect

def called? : Effect → Option Call
  | .called call => some call
  | _ => none

def entered? : Effect → Option Call
  | .entered call => some call
  | _ => none

def left? : Effect → Option Call
  | .left call => some call
  | _ => none

/-- The call that ends, in whatever way. -/
def ended? : Effect → Option Call
  | .returned call _ => some call
  | .cancelled call => some call
  | _ => none

/-- The call that ends after its snapshot has been published. -/
def publisher? : Effect → Option Call
  | .returned call .published => some call
  | _ => none

def begun? : Effect → Option (Call × Nat)
  | .readingBegun call reading => some (call, reading)
  | _ => none

def finished? : Effect → Option (Nat × Except Files.Fault String)
  | .readingFinished reading outcome => some (reading, outcome)
  | _ => none

end Effect

namespace History

/-! ## What has happened -/

def calls (history : List Effect) : List Call := history.filterMap Effect.called?

def ends (history : List Effect) : List Call := history.filterMap Effect.ended?

/-- The calls that have ended by publishing, in order. -/
def publishers (history : List Effect) : List Call := history.filterMap Effect.publisher?

/-- The readings begun, each with the call that began it. -/
def begun (history : List Effect) : List (Call × Nat) := history.filterMap Effect.begun?

/-- The readings finished, each with what it yielded. -/
def finished (history : List Effect) : List (Nat × Except Files.Fault String) :=
  history.filterMap Effect.finished?

/-- The reading that a call began has yielded a text. -/
def Read (history : List Effect) (call : Call) (text : String) : Prop :=
  ∃ reading, (call, reading) ∈ begun history ∧ (reading, .ok text) ∈ finished history

/-- If no call ends twice, the effects that end one call are one effect. -/
theorem ended_unique {history : List Effect} (h : (ends history).Nodup) {d e : Effect}
    (hd : d ∈ history) (he : e ∈ history) {call : Call} (hdc : d.ended? = some call)
    (hec : e.ended? = some call) : d = e := by
  induction history with
  | nil => cases hd
  | cons first rest ih =>
    -- an effect of the rest that ends the same call as the first would be a second end
    have hfirst : first.ended? = some call → ∀ e ∈ rest, e.ended? ≠ some call := by
      intro hfc e he hec
      rw [ends, List.filterMap_cons_some hfc, List.nodup_cons] at h
      exact h.1 (List.mem_filterMap.mpr ⟨e, he, hec⟩)
    have hrest : (ends rest).Nodup := h.sublist ((List.sublist_cons_self first rest).filterMap _)
    rcases List.mem_cons.mp hd with rfl | hd'
    · rcases List.mem_cons.mp he with rfl | he'
      · rfl
      · exact absurd hec (hfirst hdc e he')
    · rcases List.mem_cons.mp he with rfl | he'
      · exact absurd hdc (hfirst hec d hd')
      · exact ih hrest hd' he'

/-! ## What is still open -/

section Open

variable {α : Type} [DecidableEq α]

/-- The open items after an effect that may open one or close some. -/
def opened (opens closes : Effect → Option α) (items : List α) (e : Effect) : List α :=
  match opens e with
  | some a => items ++ [a]
  | none => items.filter (fun a => closes e ≠ some a)

/-- The items that a history has opened and not closed. -/
def stillOpen (opens closes : Effect → Option α) (history : List Effect) : List α :=
  history.foldl (opened opens closes) []

end Open

/-- The calls that have taken the lock and not let it go. -/
def inside (history : List Effect) : List Call :=
  stillOpen Effect.entered? Effect.left? history

/-- The readings that have begun and not finished. -/
def underway (history : List Effect) : List Nat :=
  stillOpen (fun e => e.begun?.map Prod.snd) (fun e => e.finished?.map Prod.fst) history

/-! ## Longer histories

A history grows at its end. What is filtered from it grows there too, and what is open goes through
the new effects. -/

variable (history more : List Effect)

@[simp] theorem calls_append : calls (history ++ more) = calls history ++ calls more :=
  List.filterMap_append

@[simp] theorem ends_append : ends (history ++ more) = ends history ++ ends more :=
  List.filterMap_append

@[simp] theorem publishers_append :
    publishers (history ++ more) = publishers history ++ publishers more :=
  List.filterMap_append

@[simp] theorem begun_append : begun (history ++ more) = begun history ++ begun more :=
  List.filterMap_append

@[simp] theorem finished_append :
    finished (history ++ more) = finished history ++ finished more :=
  List.filterMap_append

variable {history}

/-- What a reading has yielded stays. -/
theorem Read.append {call : Call} {text : String} (h : Read history call text) :
    Read (history ++ more) call text := by
  obtain ⟨reading, hbegun, hfinished⟩ := h
  rw [Read, begun_append, finished_append]
  exact ⟨reading, List.mem_append_left _ hbegun, List.mem_append_left _ hfinished⟩

section Open

variable {α : Type} [DecidableEq α] {opens closes : Effect → Option α} {more}

theorem stillOpen_append (more : List Effect) :
    stillOpen opens closes (history ++ more) =
      more.foldl (opened opens closes) (stillOpen opens closes history) :=
  List.foldl_append

/-- An effect that opens and closes nothing. -/
theorem opened_of_silent {e : Effect} (ho : opens e = none) (hc : closes e = none)
    (items : List α) : opened opens closes items e = items := by
  rw [opened, ho, hc]
  simp

/-- Effects that open and close nothing leave what is open. -/
theorem stillOpen_append_of_silent (h : ∀ e ∈ more, opens e = none ∧ closes e = none) :
    stillOpen opens closes (history ++ more) = stillOpen opens closes history := by
  rw [stillOpen_append]
  generalize stillOpen opens closes history = items
  induction more generalizing items with
  | nil => rfl
  | cons e rest ih =>
    obtain ⟨ho, hc⟩ := h e (by simp)
    rw [List.foldl_cons, opened_of_silent ho hc]
    exact ih (fun d hd => h d (List.mem_cons_of_mem e hd)) items

/-- If an item is opened only when none is open, there is never more than one. -/
theorem length_stillOpen_le_one
    (h : ∀ before e a, before ++ [e] <+: history → opens e = some a →
      stillOpen opens closes before = []) :
    ∀ before, before <+: history → (stillOpen opens closes before).length ≤ 1 := by
  intro before hbefore
  induction before using List.reverseRecOn with
  | nil => exact Nat.zero_le 1
  | append_singleton before e ih =>
    have hle := ih ((List.prefix_append before [e]).trans hbefore)
    rw [stillOpen_append, List.foldl_cons, List.foldl_nil, opened]
    cases ho : opens e with
    | none => exact Nat.le_trans (List.length_filter_le _ _) hle
    | some a => simp [h before e a hbefore ho]

end Open

/-! ## Rules that every effect keeps

An effect is looked at with the history before it, and so a history is taken apart into beginnings
that end with the effect. -/

/-- Every effect of a history keeps a rule about what came before it. -/
def Keeps (rule : List Effect → Effect → Prop) (history : List Effect) : Prop :=
  ∀ before e, before ++ [e] <+: history → rule before e

variable {rule : List Effect → Effect → Prop}

theorem keeps_nil : Keeps rule [] := by
  intro before e h
  simp at h

theorem Keeps.snoc (h : Keeps rule history) {e : Effect} (he : rule history e) :
    Keeps rule (history ++ [e]) := by
  intro before d hd
  rcases List.prefix_concat_iff.mp hd with heq | hprefix
  · obtain ⟨rfl, hlast⟩ := List.append_inj' heq rfl
    cases hlast
    exact he
  · exact h before d hprefix

end History

end Flowmeter.Collector
