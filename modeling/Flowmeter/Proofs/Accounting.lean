import Flowmeter.Accounting
import Flowmeter.Proofs.Decimal.Spelling
import Flowmeter.Proofs.Text.Spacing

/-!
# What is told about the accounting switch

Whatever reading and writing do, checking the switch comes to an end with notices, and these tell
the truth about the switch as it then is. A write is told to have been heard only if the file
says so afterwards. Then the file holds one, so there is nothing else to be told.

Reading decides it all: the file either holds an integer (`Holds`) or tells none (`Illegible`).

What a file does is left open: `Store` has any writing and any reading, and a write may fail and
change the file all the same, or succeed and change nothing. So the notices are compared with the
last state and with the result of the write, and with nothing in between. Nothing is assumed of the
store, since the kernel promises nothing of this file.
-/

set_option autoImplicit false

namespace Flowmeter.Accounting

open Flowmeter.Files Flowmeter.Text Flowmeter.Decimal

section

variable {σ : Type} {store : Store σ} {procfs : Procfs} {s : σ} {path : Path} {text : String}
  {n : Int}

/-- The text of a file spells an integer, with any blanks around it. -/
def Holds (store : Store σ) (s : σ) (path : Path) (n : Int) : Prop :=
  ∃ bytes, store.read s path = .ok bytes ∧ Spells (trim (textOf bytes).toList) n

/-- A file does not tell an integer. -/
inductive Illegible (store : Store σ) (s : σ) (path : Path) : Prop
  | unreadable {fault : Files.Fault} (h : store.read s path = .error fault)
  | blank {bytes : List UInt8} (h : store.read s path = .ok bytes)
      (hblank : ∀ c ∈ (textOf bytes).toList, isBlank c = true)
  | notInteger {bytes : List UInt8} (h : store.read s path = .ok bytes)
      (hnone : ¬ ∃ n, Spells (trim (textOf bytes).toList) n)

/-! ## Reading

A file is read as an integer in the way texts are, with blanks around it; if it is not, there are
three ways for that. -/

/-- The check for an empty text comes first, but an empty text spells no integer either. -/
theorem valueOf_eq_ok_iff : valueOf path text = .ok n ↔ Spells (trim text.toList) n := by
  have hempty : (trimmed text).isEmpty = (trim text.toList).isEmpty := by
    rw [Bool.eq_iff_iff, String.isEmpty_iff, List.isEmpty_iff, trimmed, String.ofList_eq_empty_iff]
  rw [valueOf, hempty, trimmed, String.toList_ofList, ← readInteger_eq_ok_iff]
  cases htrim : trim text.toList with
  | nil =>
    have hnone : readInteger [] ≠ .ok n := fun h =>
      not_spells_nil n (readInteger_eq_ok_iff.mp h)
    simp [hnone]
  | cons c cs => cases readInteger (c :: cs) <;> simp

theorem read_eq_ok_iff : read store procfs s = .ok n ↔ Holds store s procfs.accounting n := by
  rw [read, Holds]
  cases store.read s procfs.accounting with
  | error fault => simp
  | ok bytes => simp [valueOf_eq_ok_iff]

/-- A file that is blank holds no integer either. -/
theorem illegible_iff : Illegible store s path ↔ ¬ ∃ n, Holds store s path n := by
  constructor
  case mp =>
    rintro hillegible ⟨n, bytes, hread, hspells⟩
    cases hillegible with
    | unreadable h => rw [h] at hread; cases hread
    | blank h hblank =>
      obtain rfl := Except.ok.inj (h.symm.trans hread)
      rw [trim, trimBy_eq_nil_iff.mpr hblank] at hspells
      exact not_spells_nil n hspells
    | notInteger h hnone =>
      obtain rfl := Except.ok.inj (h.symm.trans hread)
      exact hnone ⟨n, hspells⟩
  case mpr =>
    intro hnone
    cases hread : store.read s path with
    | error fault => exact .unreadable hread
    | ok bytes => exact .notInteger hread fun ⟨n, hspells⟩ => hnone ⟨n, bytes, hread, hspells⟩

/-- What is not read as an integer is illegible, and the other way round. -/
theorem read_eq_error_iff :
    (∃ fault, read store procfs s = .error fault) ↔ Illegible store s procfs.accounting := by
  rw [illegible_iff]
  simp only [← read_eq_ok_iff]
  cases read store procfs s <;> simp

/-- A file holds one integer at most. -/
theorem Holds.unique {m : Int} (h : Holds store s procfs.accounting m)
    (h' : Holds store s procfs.accounting n) : m = n :=
  Except.ok.inj ((read_eq_ok_iff.mpr h).symm.trans (read_eq_ok_iff.mpr h'))

/-! ## Turning the switch on

Writing and then reading back. The state afterwards is that of the write, however the reading goes.
-/

theorem configure_fst : (configure store procfs s).1 =
    (store.write s procfs.accounting (Utf8.encode onText)).1 := by
  rw [configure]
  split
  case h_1 heq => rw [heq]
  case h_2 heq => rw [heq]

/-- It is believed to be on if nothing went wrong and it says so itself. -/
theorem configure_snd_eq_ok_iff : (configure store procfs s).2 = .ok () ↔
    (store.write s procfs.accounting (Utf8.encode onText)).2 = .ok () ∧
      Holds store (configure store procfs s).1 procfs.accounting 1 := by
  rw [← read_eq_ok_iff, configure_fst, configure]
  obtain ⟨after, outcome⟩ := store.write s procfs.accounting (Utf8.encode onText)
  cases outcome with
  | error fault => simp
  | ok u =>
    cases hread : read store procfs after with
    | error fault => simp [Except.bind, hread]
    | ok value => simp [Except.bind, requireOn, hread]

/-! ## Checking the switch

At most two notices, of which the first is about the attempt, if there was one, and the second about
what is read then. -/

theorem check_fst (asked : Bool) : (check store procfs asked s).1 =
    if asked then (store.write s procfs.accounting (Utf8.encode onText)).1 else s := by
  cases asked with
  | false => rfl
  | true => exact configure_fst

/-- First something is told about an attempt to turn it on, and then about what it says. -/
theorem check_snd (asked : Bool) : (check store procfs asked s).2 =
    (if asked then [settingNotice (configure store procfs s).2] else []) ++
      readingNotices (read store procfs (check store procfs asked s).1) := by
  cases asked <;> rfl

/-- A reading is worth a notice if it failed, or if it was nought. -/
theorem mem_readingNotices_iff {notice : Notice} {outcome : Except Fault Int} :
    notice ∈ readingNotices outcome ↔
      (∃ fault, outcome = .error fault ∧ notice = .accountingUnreadable fault.message) ∨
        outcome = .ok 0 ∧ notice = .accountingDisabled := by
  cases outcome with
  | error fault => simp [readingNotices]
  | ok value =>
    rw [readingNotices]
    split <;> simp [*]

theorem mem_check_iff {notice : Notice} (asked : Bool) :
    notice ∈ (check store procfs asked s).2 ↔
      asked = true ∧ notice = settingNotice (configure store procfs s).2 ∨
        notice ∈ readingNotices (read store procfs (check store procfs asked s).1) := by
  rw [check_snd]
  cases asked <;> simp

/-- Only an attempt is told of this way. -/
theorem configured_mem_check_iff (asked : Bool) :
    .accountingConfigured ∈ (check store procfs asked s).2 ↔
      asked = true ∧ (configure store procfs s).2 = .ok () := by
  rw [mem_check_iff, mem_readingNotices_iff]
  cases (configure store procfs s).2 <;> simp [settingNotice]

/-- What is told about an attempt to turn it on says nothing of this. -/
theorem unreadable_mem_check_iff (asked : Bool) :
    (∃ cause, .accountingUnreadable cause ∈ (check store procfs asked s).2) ↔
      ∃ fault, read store procfs (check store procfs asked s).1 = .error fault := by
  simp only [mem_check_iff, mem_readingNotices_iff]
  cases (configure store procfs s).2 <;> simp [settingNotice]

theorem disabled_mem_check_iff (asked : Bool) :
    .accountingDisabled ∈ (check store procfs asked s).2 ↔
      read store procfs (check store procfs asked s).1 = .ok 0 := by
  rw [mem_check_iff, mem_readingNotices_iff]
  cases (configure store procfs s).2 <;> simp [settingNotice]

/-- **A check of the switch always ends, and its notices say what the file then says.** -/
theorem check_notices (store : Store σ) (procfs : Procfs) (asked : Bool) (s : σ) :
    ∃ last notices, check store procfs asked s = (last, notices) ∧
      last = (if asked then (store.write s procfs.accounting (Utf8.encode onText)).1 else s) ∧
      (.accountingConfigured ∈ notices ↔ asked = true ∧
        (store.write s procfs.accounting (Utf8.encode onText)).2 = .ok () ∧
        Holds store last procfs.accounting 1) ∧
      ((∃ cause, .accountingUnreadable cause ∈ notices) ↔
        Illegible store last procfs.accounting) ∧
      (.accountingDisabled ∈ notices ↔ Holds store last procfs.accounting 0) ∧
      (.accountingConfigured ∈ notices → .accountingDisabled ∉ notices ∧
        ∀ cause, .accountingUnreadable cause ∉ notices) := by
  have hconfigured : .accountingConfigured ∈ (check store procfs asked s).2 ↔ asked = true ∧
      (store.write s procfs.accounting (Utf8.encode onText)).2 = .ok () ∧
      Holds store (check store procfs asked s).1 procfs.accounting 1 := by
    rw [configured_mem_check_iff, configure_snd_eq_ok_iff]
    refine and_congr_right fun hasked => ?_
    rw [check_fst, if_pos hasked, configure_fst]
  have hunreadable : (∃ cause, .accountingUnreadable cause ∈ (check store procfs asked s).2) ↔
      Illegible store (check store procfs asked s).1 procfs.accounting :=
    (unreadable_mem_check_iff asked).trans read_eq_error_iff
  have hdisabled : .accountingDisabled ∈ (check store procfs asked s).2 ↔
      Holds store (check store procfs asked s).1 procfs.accounting 0 :=
    (disabled_mem_check_iff asked).trans read_eq_ok_iff
  refine ⟨_, _, rfl, check_fst asked, hconfigured, hunreadable, hdisabled, fun hmem => ?_⟩
  obtain ⟨-, -, hone⟩ := hconfigured.mp hmem
  constructor
  · intro hmem
    cases hone.unique (hdisabled.mp hmem)
  · intro cause hmem
    exact illegible_iff.mp (hunreadable.mp ⟨cause, hmem⟩) ⟨1, hone⟩

/-- What a switch that takes no heed of writing has told about it. -/
example : (check (⟨fun _ _ => .ok (Utf8.encode "0\n"), fun s _ _ => (s, .ok ())⟩ : Store Unit)
    (.ofText "/proc") true ()).2 =
      [.accountingNotConfigured
        "failed to set /proc/sys/net/netfilter/nf_conntrack_acct to 1 (current=0)",
       .accountingDisabled] := by
  cbv

end

end Flowmeter.Accounting
