import Flowmeter.Proofs.Collector.Told

/-!
# A collector is its successful cycles

Whatever happens to a collector, its ledger and its published series are what the plain cycle
of a text makes of some texts, one after the other: those that the calls which published have
read, in the order in which they returned. Everything else that happens leaves both as they
are, and with them the text that a scraper is shown.
-/

set_option autoImplicit false

namespace Flowmeter.Collector

open History

variable {c d : Core} {effects history : List Effect}

theorem Act.accounts_eq (h : Act c effects d) (hnone : publishers effects = []) :
    d.accounts = c.accounts := by
  cases h with
  | leave hh hend =>
    cases hend with
    | published ho hs => cases hnone
    | _ => rfl
  | _ => rfl

/-- Acts by which nothing is published leave the accounts as they are. -/
theorem Trail.accounts_eq (h : Trail c effects d) (hnone : publishers effects = []) :
    d.accounts = c.accounts := by
  induction h with
  | done c => rfl
  | act first _ ih =>
    rw [publishers_append, List.append_eq_nil_iff] at hnone
    exact (ih hnone.2).trans (first.accounts_eq hnone.1)

/-- A call has read at most one text. -/
theorem Consistent.text_unique (h : Consistent history c) {call : Call} {text text' : String}
    (hr : Read history call text) (hr' : Read history call text') : text = text' :=
  Except.ok.inj (h.yielded_unique hr hr')

namespace Service

/-! ## A text that has a snapshot is published -/

theorem digest_of_snapshot {s : Service} {text : String} {snapshot : Snapshot}
    (hs : Snapshot.ofText text = .ok snapshot) (now milliseconds : Nat) :
    ∃ s' l, s.digest (.ok text) now milliseconds = (s', l, .published) ∧
      s'.accounts = s.accounts.record snapshot := by
  obtain ⟨survey, hsurvey, hsome, rfl⟩ := Snapshot.ofText_eq_ok_iff.mp hs
  have hdigest : s.digest (.ok text) now milliseconds =
      s.digestSurvey survey now milliseconds := by
    rw [digest, hsurvey]
  rw [hdigest, digestSurvey, if_neg hsome]
  exact ⟨_, _, rfl, rfl⟩

/-- A call whose reading has yielded a text with a snapshot publishes it when it goes on. -/
theorem step_conclude_publishes {s : Service} {number : Nat} {call : Call}
    {reading : Option Nat} {text : String} {snapshot : Snapshot}
    (hh : s.turns.holder? number = some ⟨call, reading, some (.ok text)⟩)
    (hs : Snapshot.ofText text = .ok snapshot) (now milliseconds : Nat) :
    publishers (s.step (.conclude number now milliseconds)).2 = [call] ∧
      (s.step (.conclude number now milliseconds)).1.accounts =
        s.accounts.record snapshot := by
  obtain ⟨s', l, hdigest, haccounts⟩ :=
    digest_of_snapshot (s := s) hs now milliseconds
  have hnone : ∀ l : List Notice, publishers (l.map .notice) = [] := by
    intro l
    refine List.filterMap_eq_nil_iff.mpr fun e he => ?_
    obtain ⟨n, -, rfl⟩ := List.mem_map.mp he
    rfl
  rw [step, hh]
  show publishers (Service.conclude call (s.digest (.ok text) now milliseconds)).2 = [call] ∧
    (Service.conclude call (s.digest (.ok text) now milliseconds)).1.accounts = _
  rw [hdigest, Service.conclude, publishers_append, publishers_append, hnone, hnone]
  exact ⟨rfl, haccounts⟩

/-! ## The refinement -/

/-- What a scraper is shown of the traffic depends on the accounts only. -/
theorem families_congr {s s' : Service} (h : s'.accounts = s.accounts) :
    s'.families false = s.families false := by
  rw [families, families, h]
  rfl

/-- **A collector refines the plain cycle.** After any run the accounts are the fold of the
    cycle over the texts read by the calls that published, in the order of their returns; which
    texts these are is determined by the history. And a stretch of any further events in which
    no call publishes, however many fail, are broken off or cancelled, leaves the accounts and
    the exposition of the traffic as they are. -/
theorem refines_cycles (table : String) (timing : Timing) (events : List Event) :
    (∃ texts,
      List.Forall₂ (Read (historyAfter table timing events))
        (publishers (historyAfter table timing events)) texts ∧
      (∀ text ∈ texts, ∃ snapshot, Snapshot.ofText text = .ok snapshot) ∧
      (after table timing events).accounts =
        texts.foldl Accounts.cycle Accounts.empty) ∧
    (∀ call text text', Read (historyAfter table timing events) call text →
      Read (historyAfter table timing events) call text' → text = text') ∧
    (∀ more, publishers ((after table timing events).run more).2 = [] →
      ((after table timing events).run more).1.accounts =
        (after table timing events).accounts ∧
      Exposition.text? (((after table timing events).run more).1.families false) =
        Exposition.text? ((after table timing events).families false)) := by
  have h := consistent_after table timing events
  refine ⟨h.balanced, fun call text text' => h.text_unique, ?_⟩
  intro more hnone
  have hsame : ((after table timing events).run more).1.accounts =
      (after table timing events).accounts :=
    (trail_run (after table timing events) more).accounts_eq hnone
  exact ⟨hsame, congrArg Exposition.text? (families_congr hsame)⟩

end Service

end Flowmeter.Collector
