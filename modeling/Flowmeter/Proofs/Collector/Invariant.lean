import Flowmeter.Proofs.Collector.Readings

/-!
# What every run keeps

The invariant of the collector joins what is known of its turns with what is known of its
accounts: they are what the cycles come to that published, each taken on the text that its own
reading has yielded, in the order in which they returned. Every act keeps it, so it holds after
every run, whatever the order of its events.

The parts need each other in one direction only: agreement about calls needs the order of the turns,
what calls know of their readings needs both, and the accounts and the rules rest on that. So they
are proved one after the other, and joined where all have been proved (`Consistent.act`).
-/

set_option autoImplicit false

namespace Flowmeter.Collector

open History

variable {history more : List Effect} {c d : Core} {effects : List Effect}

/-! ## The accounts

Publishing is the only act that changes them, and the call that publishes has been told its own
text. -/

/-- The accounts are those of the texts read by the calls that have published. -/
def Balanced (history : List Effect) (accounts : Accounts) : Prop :=
  ∃ texts, List.Forall₂ (Read history) (publishers history) texts ∧
    (∀ text ∈ texts, ∃ snapshot, Snapshot.ofText text = .ok snapshot) ∧
    accounts = texts.foldl Accounts.cycle Accounts.empty

namespace Balanced

theorem new : Balanced [] Accounts.empty :=
  ⟨[], List.Forall₂.nil, by simp, rfl⟩

/-- Effects by which nothing is published. -/
theorem quiet {accounts : Accounts} (h : Balanced history accounts)
    (hmore : publishers more = []) : Balanced (history ++ more) accounts := by
  obtain ⟨texts, hread, hok, haccounts⟩ := h
  refine ⟨texts, ?_, hok, haccounts⟩
  rw [publishers_append, hmore, List.append_nil]
  exact hread.imp fun _ _ hr => hr.append more

/-- One more call has published, on a text that its reading has yielded. -/
theorem published {accounts : Accounts} (h : Balanced history accounts) {call : Call}
    {text : String} {snapshot : Snapshot} (hmore : publishers more = [call])
    (hr : Read history call text) (hs : Snapshot.ofText text = .ok snapshot) :
    Balanced (history ++ more) (accounts.record snapshot) := by
  obtain ⟨texts, hread, hok, rfl⟩ := h
  refine ⟨texts ++ [text], ?_, ?_, ?_⟩
  · rw [publishers_append, hmore]
    exact List.rel_append (hread.imp fun _ _ hr => hr.append more)
      (List.Forall₂.cons (hr.append more) List.Forall₂.nil)
  · intro other hother
    rcases List.mem_append.mp hother with hother | hother
    · exact hok other hother
    · exact ⟨snapshot, List.mem_singleton.mp hother ▸ hs⟩
  · rw [List.foldl_append, List.foldl_cons, List.foldl_nil, Accounts.cycle, hs]

theorem act (h : Balanced history c.accounts) (hk : CallsKnow history c.turns)
    (hact : Act c effects d) : Balanced (history ++ effects) d.accounts := by
  cases hact with
  | leave hh hend =>
    cases hend with
    | published ho hs =>
      -- what the call holds as the outcome is what its own reading has yielded
      obtain ⟨reading, hbegun, hfinished⟩ := hk.outcome _ hh _ ho
      exact h.published rfl ⟨reading, hbegun, hfinished⟩ hs
    | _ => exact h.quiet rfl
  | _ => exact h.quiet rfl

end Balanced

/-! ## Rules of the history

What must hold when an effect happens, told in terms of the effects before it. An act may have two
effects, of which the second relies on the first. -/

/-- What every effect may rely on. -/
def Rule (before : List Effect) : Effect → Prop
  | .entered _ => inside before = []
  | .readingBegun _ _ => underway before = []
  | .returned call .published =>
      ∃ text snapshot, Read before call text ∧ Snapshot.ofText text = .ok snapshot
  | .notice n => n.saysStillReading = true → underway before ≠ []
  | _ => True

/-- Each act keeps the rules by what is known of the turns when it happens. -/
theorem keeps_rule_act (h : Keeps Rule history) (ho : c.turns.Orderly)
    (hc : CallsAgree history c.turns) (hr : ReadingsAgree history c.turns)
    (hk : CallsKnow history c.turns) (hact : Act c effects d) :
    Keeps Rule (history ++ effects) := by
  cases hact with
  | notice hn =>
    refine h.snoc fun hsays => ?_
    rw [hr.underway]
    exact hr.isReading_iff.mp (hn hsays)
  | queue caller hbusy => exact h.snoc trivial
  | letIn caller hfree =>
    have hcalled : Keeps Rule (history ++ [.called (c.turns.nextCall caller)]) :=
      h.snoc trivial
    rw [List.append_cons]
    refine hcalled.snoc ?_
    show inside (history ++ [.called (c.turns.nextCall caller)]) = []
    rw [inside, stillOpen_append_of_silent (by simp [Effect.entered?, Effect.left?]), ← inside,
      hc.inside, ho.holders_of_isFree hfree, List.map_nil]
  | hold hw hwoken =>
    refine h.snoc ?_
    show inside history = []
    rw [hc.inside, ho.holders_of_woken hw hwoken, List.map_nil]
  | beginReading hh hnone hidle =>
    refine h.snoc ?_
    show underway history = []
    rw [hr.underway, hr.unfinished_nil hidle]
  | finish outcome hin => exact h.snoc trivial
  | @leave holder _ _ hh hend =>
    have hleft : Keeps Rule (history ++ [.left holder.call]) := h.snoc trivial
    rw [List.append_cons]
    refine hleft.snoc ?_
    cases hend with
    | published hout hs =>
      obtain ⟨reading, hbegun, hfinished⟩ := hk.outcome _ hh _ hout
      exact ⟨_, _, Read.append _ ⟨reading, hbegun, hfinished⟩, hs⟩
    | _ => trivial
  | abandon hw => exact h.snoc trivial

/-! ## The invariant

It holds of a collector that has done nothing, every act keeps it, and a run is a sequence of acts.
-/

/-- All that a history and a collector have in common. -/
structure Consistent (history : List Effect) (c : Core) : Prop where
  orderly : c.turns.Orderly
  calls : CallsAgree history c.turns
  readings : ReadingsAgree history c.turns
  know : CallsKnow history c.turns
  balanced : Balanced history c.accounts
  rules : Keeps Rule history

theorem Consistent.act (h : Consistent history c) (hact : Act c effects d) :
    Consistent (history ++ effects) d where
  orderly := h.orderly.act hact
  calls := h.calls.act h.orderly hact
  readings := h.readings.act hact
  know := h.know.act h.calls h.orderly hact
  balanced := h.balanced.act h.know hact
  rules := keeps_rule_act h.rules h.orderly h.calls h.readings h.know hact

namespace Service

/-- The collector after a run from the start. -/
def after (table : String) (timing : Timing) (events : List Event) : Service :=
  ((new table timing).run events).1

/-- The history of a run from the start. -/
def historyAfter (table : String) (timing : Timing) (events : List Event) : List Effect :=
  ((new table timing).run events).2

variable (table : String) (timing : Timing)

theorem consistent_new : Consistent [] (new table timing).core where
  orderly := .new
  calls := .new
  readings := .new
  know := .new
  balanced := .new
  rules := keeps_nil

/-- The run: whatever happens, and in whatever order. -/
theorem consistent_after (events : List Event) :
    Consistent (historyAfter table timing events) (after table timing events).core :=
  (trail_run (new table timing) events).keeps (fun h hact => h.act hact)
    (consistent_new table timing)

end Service

end Flowmeter.Collector
