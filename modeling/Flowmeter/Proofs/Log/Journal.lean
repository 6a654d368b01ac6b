import Flowmeter.Log.Journal
import Flowmeter.Proofs.Log.RotatingFile

/-!
# Where records go after a log has been set up

A log may have been set up any number of times, by any configurations and with records in
between, and some of that may have failed half way. What that has left behind is taken away when
the log is set up again: from then on it has a console and, if a directory is set, one file, and
each record from its level up is written to both once and to no other file.

What is kept from record to record is that the log is as it was set up and its file can be
written (`IsSetUp`).
-/

set_option autoImplicit false

namespace Flowmeter.Log

open Flowmeter.Config Flowmeter.Files Flowmeter.Files.Tree

/-! ## Setting up -/

/-- Taking away one handler after the other leaves none, whatever they are. -/
theorem clear_eq (log : Log) : log.clear = ⟨log.level, []⟩ := by
  obtain ⟨level, handlers⟩ := log
  induction handlers with
  | nil => rfl
  | cons h rest ih =>
    have hfirst : removeHandler ⟨level, h :: rest⟩ h = ⟨level, rest⟩ := by
      rw [removeHandler, List.erase_cons_head]
    calc clear ⟨level, h :: rest⟩
        = rest.foldl removeHandler (removeHandler ⟨level, h :: rest⟩ h) := rfl
      _ = clear ⟨level, rest⟩ := by rw [hfirst]; rfl
      _ = ⟨level, []⟩ := ih

/-- A log with a console and at most one file, in one layout. -/
def toConsole (level : Int) (layout : Layout) (file : Option RotatingFile) : Log :=
  ⟨level, .console layout :: (file.map (.file layout)).toList⟩

/-- The file is the one in the directory that a configuration names. -/
def IsLogFile (config : Config) (files : Tree) (f : RotatingFile) : Prop :=
  ∃ path, (directoryOf config).path = .ok path ∧
    files.locate (path.join (Path.ofText fileName)) = .ok f.names

/-- The name of the file is one name, with no directories in it. -/
theorem ofText_fileName : Path.ofText fileName = ⟨.here, [Name.ofString fileName]⟩ := by
  decide

/-- A log file that has been opened lies in its directory, and can be written. -/
theorem openFile_eq_ok {directory maxBytes backupCount : Value} {files after : Tree}
    {f : RotatingFile} (h : openFile directory maxBytes backupCount files = (after, .ok f)) :
    f.IsOpen after ∧ ∃ path, directory.path = .ok path ∧
      after.locate (path.join (Path.ofText fileName)) = .ok f.names := by
  rw [openFile] at h
  split at h
  case h_1 => cases h
  case h_2 path hpath =>
    split at h
    case h_1 => cases h
    case h_2 made names hmade =>
      dsimp only at h
      split at h
      case h_1 => cases h
      case h_2 => cases h
      case h_3 limit place hlimit hplace =>
        obtain ⟨rfl, hfile⟩ := Prod.mk.inj h
        obtain rfl := Except.ok.inj hfile
        obtain ⟨hentry, hnone⟩ := locateFile_eq_ok_iff.mp hplace
        have hnames : place = names ++ [Name.ofString fileName] := by
          rw [ofText_fileName] at hentry
          exact eq_of_locate_join (by decide) (locate_makeDirectory hmade) hentry
        subst hnames
        exact ⟨RotatingFile.isOpen_append hnone [], path, hpath,
          RotatingFile.locate_append hnone hentry []⟩

/-- What a log is when it has been set up, whatever it was before. -/
theorem setUp_of_fault_eq_none {log : Log} {config : Config} {files : Tree}
    (h : (log.setUp config files).fault = none) :
    ∃ level file, levelOf (config.get "logging.level" (.text "info")) = .ok level ∧
      file.isSome = (directoryOf config).isGiven ∧
      (log.setUp config files).log = toConsole level (layoutOf config) file ∧
      ∀ f, file = some f → f.IsOpen (log.setUp config files).files ∧
        IsLogFile config (log.setUp config files).files f := by
  rw [Log.setUp] at h ⊢
  cases hlevel : levelOf (config.get "logging.level" (.text "info")) with
  | error fault =>
    rw [hlevel] at h
    cases h
  | ok level =>
    rw [hlevel] at h
    dsimp only at h ⊢
    -- from here on nothing is left of the handlers that were there
    rw [clear_eq] at h ⊢
    by_cases hgiven : (directoryOf config).isGiven = true
    · rw [if_pos hgiven] at h ⊢
      split at h
      case h_1 => cases h
      case h_2 after f hopened =>
        refine ⟨level, some f, rfl, hgiven.symm, rfl, fun g hg => ?_⟩
        obtain rfl := Option.some.inj hg
        exact openFile_eq_ok hopened
    · rw [if_neg hgiven]
      refine ⟨level, none, rfl, (Bool.eq_false_iff.mpr hgiven).symm, rfl, fun f hf => ?_⟩
      cases hf

/-! ## Records -/

/-- The parts of the program that tell something. -/
def speakers : List String :=
  ["conntrack_exporter.collector.aggregator", "conntrack_exporter.collector.delta",
    "conntrack_exporter.services.collector_service", "conntrack_exporter.web.server",
    "conntrack_exporter.app"]

/-- Every notice has one of these for a source. -/
theorem source_mem_speakers (notice : Notice) : notice.source ∈ speakers := by
  cases notice <;> simp [speakers, Notice.source]

/-- Whatever the program tells comes to its log. -/
theorem isOfProgram_ofNotice (second : Int) (notice : Notice) :
    (Record.ofNotice second notice).isOfProgram = true := by
  have hspeakers : ∀ source ∈ speakers,
      (programName ++ ".").toList.isPrefixOf source.toList = true := by
    decide
  rw [Record.isOfProgram, Bool.or_eq_true]
  exact Or.inr (hspeakers _ (source_mem_speakers notice))

/-- An output to which one line has been added: on the console, in the file if there is one, and
    nowhere else. Under the names of files set aside stands only what stood there or in the version
    before, as `RotatingFile.Took` tells. -/
structure Output.Took (file : Option RotatingFile) (line : String) (before after : Output) :
    Prop where
  onConsole : after.console = before.console ++ [line]
  inFile : ∀ f, file = some f → f.Took line before.files after.files
  elsewhere : ∀ names, (∀ f, file = some f → f.IsElsewhere names) →
    after.files.content? names = before.files.content? names

section

variable {level : Int} {layout : Layout} {file : Option RotatingFile} {r : Record} {out : Output}

theorem write_of_lt {log : Log} (h : r.level < log.effectiveLevel) : log.write r out = out := by
  rw [Log.write, if_pos h]

theorem took_write (h : (toConsole level layout file).effectiveLevel ≤ r.level)
    (hopen : ∀ f, file = some f → f.IsOpen out.files) :
    out.Took file (layout.line r ++ "\n") ((toConsole level layout file).write r out) := by
  rw [Log.write, if_neg (Int.not_lt.mpr h)]
  cases file with
  | none => exact ⟨rfl, fun f hf => (by cases hf), fun _ _ => rfl⟩
  | some f =>
    have htook := RotatingFile.took_write (hopen f rfl) (layout.line r ++ "\n")
    refine ⟨rfl, fun g hg => ?_, fun names hnames => htook.content?_eq (hnames f rfl)⟩
    obtain rfl := Option.some.inj hg
    exact htook

/-- A record that comes to a log nobody has set up is in no file. -/
theorem files_write_initial : (initial.write r out).files = out.files := by
  rw [Log.write]
  split
  · rfl
  · show (if r.level < inheritedLevel then out else _).files = _
    split <;> rfl

end

namespace Journal

/-- The log is as it was set up, and its file can be written. -/
structure IsSetUp (level : Int) (layout : Layout) (file : Option RotatingFile) (j : Journal) :
    Prop where
  log : j.log = toConsole level layout file
  isOpen : ∀ f, file = some f → f.IsOpen j.out.files

variable {level : Int} {layout : Layout} {file : Option RotatingFile} {j : Journal} {r : Record}

theorem isSetUp_of_setUp {before : Journal} {config : Config}
    (h : before.setUp config = (j, none)) :
    ∃ level file, levelOf (config.get "logging.level" (.text "info")) = .ok level ∧
      file.isSome = (directoryOf config).isGiven ∧ j.IsSetUp level (layoutOf config) file ∧
      ∀ f, file = some f → IsLogFile config j.out.files f := by
  obtain ⟨rfl, hfault⟩ := Prod.mk.inj h
  obtain ⟨level, file, hlevel, hgiven, hlog, hfile⟩ := setUp_of_fault_eq_none hfault
  exact ⟨level, file, hlevel, hgiven, ⟨hlog, fun f hf => (hfile f hf).1⟩,
    fun f hf => (hfile f hf).2⟩

/-- A record from the program from the level up is written once. -/
theorem IsSetUp.took (h : j.IsSetUp level layout file) (hr : r.isOfProgram = true)
    (hlevel : j.log.effectiveLevel ≤ r.level) :
    j.out.Took file (layout.line r ++ "\n") (j.take r).out := by
  rw [take, hearing, if_pos hr, h.log]
  exact took_write (h.log ▸ hlevel) h.isOpen

theorem take_of_lt (hr : r.isOfProgram = true) (hlevel : r.level < j.log.effectiveLevel) :
    j.take r = j := by
  rw [take, hearing, if_pos hr, write_of_lt hlevel]

/-- A file that can be written can be written after any record. -/
theorem IsSetUp.take (h : j.IsSetUp level layout file) (r : Record) :
    (j.take r).IsSetUp level layout file := by
  refine ⟨h.log, fun f hf => ?_⟩
  cases hr : r.isOfProgram with
  | false =>
    have hfiles : (j.take r).out.files = j.out.files := by
      rw [Journal.take, hearing, hr, if_neg Bool.false_ne_true]
      exact files_write_initial
    rw [hfiles]
    exact h.isOpen f hf
  | true =>
    rcases Int.lt_or_le r.level j.log.effectiveLevel with hlt | hle
    · rw [take_of_lt hr hlt]
      exact h.isOpen f hf
    · exact ((h.took hr hle).inFile f hf).isOpen

theorem IsSetUp.after_records (h : j.IsSetUp level layout file) (records : List Record) :
    (j.after (records.map .record)).IsSetUp level layout file := by
  induction records generalizing j with
  | nil => exact h
  | cons r rest ih => exact ih (h.take r)

/-- **From the last setting up on, each record is written once to where that has it go.** However
    often a log has been set up before, and however that ended, it then has one console and, just
    if a directory is set, one file, which lies in that directory. Unless its level is none, each
    later record from the program from that level up is one more line on the console and in the
    file (`RotatingFile.Took`) and in no other file, and all others are written nowhere. -/
theorem written_once_after_setUp {start j : Journal} {acts : List Act} {config : Config}
    (h : (start.after acts).setUp config = (j, none)) :
    levelOf (config.get "logging.level" (.text "info")) = .ok j.log.level ∧
    ∃ file : Option RotatingFile,
      j.log.handlers = .console (layoutOf config) ::
        (file.map (Handler.file (layoutOf config))).toList ∧
      file.isSome = (directoryOf config).isGiven ∧
      (∀ f, file = some f → IsLogFile config j.out.files f) ∧
      (j.log.level ≠ 0 → ∀ (later : List Record) (r : Record), r.isOfProgram = true →
        let now := j.after (later.map .record)
        (j.log.level ≤ r.level →
          now.out.Took file ((layoutOf config).line r ++ "\n") (now.take r).out) ∧
        (r.level < j.log.level → now.take r = now)) := by
  obtain ⟨level, file, hlevel, hgiven, hset, hfile⟩ := isSetUp_of_setUp h
  have hlog : j.log.level = level := congrArg Log.level hset.log
  refine ⟨hlog ▸ hlevel, file, congrArg Log.handlers hset.log, hgiven, hfile, ?_⟩
  intro hne later r hr now
  have hnow : now.IsSetUp level (layoutOf config) file := hset.after_records later
  have heffective : now.log.effectiveLevel = j.log.level := by
    rw [hnow.log, ← hset.log, effectiveLevel, if_neg hne]
  exact ⟨fun hle => hnow.took hr (heffective ▸ hle), fun hlt => take_of_lt hr (heffective ▸ hlt)⟩

/-- A configuration that says something about the log only. -/
def loggingConfig (entries : List (Scalar × Value)) : Config :=
  .ofSettings (.map [(.text "logging", .map entries)]) none

/-- A record that most logs take: the program warns of kernel accounting that is off. -/
def lateRecord : Record := .ofNotice 0 .accountingDisabled

/-- A log gets a file and is then set up by a directory that is no text, which ends when the
    console is there. Records come before, between and after. -/
def unsettledActs : List Act :=
  [.record lateRecord, .setUp (loggingConfig [(.text "directory", .text "a")]),
   .record lateRecord,
   .setUp (loggingConfig [(.text "level", .text "debug"), (.text "directory", .int 5)]),
   .record lateRecord]

/-- A log of everything with a file that is set aside at once. -/
def smallConfig : Config :=
  loggingConfig [(.text "level", .text "debug"), (.text "directory", .text "b"),
    (.text "max_bytes", .int 1), (.text "backup_count", .int 2)]

/-- The log file in a directory, under the settings of `smallConfig`. -/
def smallFile (directory : String) : RotatingFile :=
  ⟨[Name.ofString directory], Name.ofString fileName, some 1, 2⟩

/-- A record goes to the new file, where another is set aside for it, and the file in the old
    directory stays as it is. -/
theorem written_once_after_setUp_elsewhere :
    ∃ j : Journal,
      ((new (.directory [])).after unsettledActs).setUp smallConfig = (j, none) ∧
      j.log.level = 10 ∧
      j.log.handlers = [.console .fields, .file .fields (smallFile "b")] ∧
      lateRecord.isOfProgram = true ∧
      let now := j.after [.record lateRecord]
      (now.take lateRecord).out.console =
        now.out.console ++ [Layout.fields.line lateRecord ++ "\n"] ∧
      (smallFile "b").Took (Layout.fields.line lateRecord ++ "\n") now.out.files
        (now.take lateRecord).out.files ∧
      (now.take lateRecord).out.files.content? (smallFile "a").names =
        now.out.files.content? (smallFile "a").names := by
  generalize hset : ((new (.directory [])).after unsettledActs).setUp smallConfig = result
  have hresult : result.2 = none ∧ result.1.log.level = 10 ∧ result.1.log.handlers =
      [.console .fields, .file .fields (smallFile "b")] := by
    rw [← hset]
    decide +kernel
  obtain ⟨j, fault⟩ := result
  obtain ⟨rfl, hlevel, hhandlers⟩ := hresult
  obtain ⟨-, file, hfile, -, -, hrecords⟩ := written_once_after_setUp hset
  obtain rfl : file = some (smallFile "b") := by
    rw [hhandlers] at hfile
    cases file with
    | none => simp at hfile
    | some f =>
      simp only [Option.map_some, Option.toList_some, List.cons.injEq, Handler.file.injEq] at hfile
      exact congrArg some hfile.2.1.2.symm
  have htook := (hrecords (by rw [hlevel]; decide) [lateRecord] lateRecord
    (isOfProgram_ofNotice 0 .accountingDisabled)).1
    (by rw [hlevel]; decide)
  have helsewhere : (smallFile "b").IsElsewhere (smallFile "a").names :=
    RotatingFile.isElsewhere_of_directory_ne rfl (by decide) fun n hp => by
      simpa [RotatingFile.version, smallFile] using hp.length_le
  exact ⟨j, rfl, hlevel, hhandlers, isOfProgram_ofNotice 0 _, htook.onConsole, htook.inFile _ rfl,
    htook.elsewhere _ fun f hf => Option.some.inj hf ▸ helsewhere⟩

end Journal

end Flowmeter.Log
