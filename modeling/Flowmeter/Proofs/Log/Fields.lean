import Flowmeter.Log.Handlers
import Flowmeter.Proofs.Text.Quotation
import Flowmeter.Proofs.Text.Words

/-!
# How lines of fields are read

A reader knows how a line of fields is made up and nothing of records. It cuts the line at the
spaces outside of quotation marks, each part at its first equality sign, and takes a value that
begins with a quotation mark out of its marks and escapes.

What is written is read back, whatever the values are. So no message can end its line, its field
or its quotation: it cannot pass for another field or another record, and two records with the
same line say the same.

The reader is made from the description of the format and shares nothing with the writer: it has no
list of keys, no order of fields and no table of escapes. What it is given is a text, and its answer
may be none.

* `IsPart` is the heart of the argument. A text is a part if the reader goes through it without a
  cut and stands outside of quotation marks behind it, whatever follows. Parts can be put together,
  so a field is a part because its key, the sign and its value are.
* Bare and quoted values are told apart by their first character. A bare value cannot begin with a
  quotation mark, since any text that holds one is quoted.
* A line feed is escaped wherever it stands in a value, and no key holds one. That is all that the
  last section needs to cut a console back into its lines.

The escapes are written as one pass over the characters. The program replaces one character after
another in the whole text, in a certain order, and `flatMap_escape` says that this comes to the
same; whatever is proved of the pass is proved of the replacements.
-/

set_option autoImplicit false

namespace Flowmeter.Log.Fields

open Flowmeter.Text

/-! ## The reader -/

/-- What stands between the spaces of a text outside of its quotation marks. The text begins
    outside of them or, if so told, within. -/
def parts : Bool → List Char → List (List Char)
  | _, [] => [[]]
  | false, ' ' :: cs => [] :: parts false cs
  | true, '\\' :: c :: cs => (parts true cs).modifyHead ('\\' :: c :: ·)
  | within, '\x22' :: cs => (parts (!within) cs).modifyHead ('\x22' :: ·)
  | within, c :: cs => (parts within cs).modifyHead (c :: ·)

def readValue? : List Char → Option String
  | '\x22' :: cs => ((marks? true cs).bind (·.mapM Mark.quoted?)).map String.ofList
  | cs => some (String.ofList cs)

def readField? (cs : List Char) : Option (String × String) :=
  match cutFirst (· == '=') cs with
  | (key, some value) => (readValue? value).map (String.ofList key, ·)
  | (_, none) => none

def readLine? (cs : List Char) : Option (List (String × String)) :=
  (parts false cs).mapM readField?

/-- The fields of each line of a text. -/
def readText? (text : String) : Option (List (List (String × String))) :=
  (endedBy (· == '\n') text.toList).mapM readLine?

/-! ## Escapes

An escape is either a character by itself or a backslash with one behind it from which the reader
knows the character. The order of the replacements matters: backslashes go first, or the backslashes
of the other two would be doubled. -/

theorem escapes_escape : Escapes escape := by
  intro c
  unfold escape
  split
  · exact Or.inr ⟨'\\', rfl, by subst c; rfl⟩
  · split
    · exact Or.inr ⟨'\x22', rfl, by subst c; rfl⟩
    · split
      · exact Or.inr ⟨'n', rfl, by subst c; rfl⟩
      · exact Or.inl ⟨rfl, ‹_›, ‹_›, ‹_›⟩

/-- A text with another in place of each occurrence of a character. -/
def replace (c : Char) (text cs : List Char) : List Char :=
  cs.flatMap fun d => if d = c then text else [d]

/-- A text without the character is left alone, whatever would stand in its place. -/
theorem replace_of_not_mem {c : Char} {text cs : List Char} (h : c ∉ cs) :
    replace c text cs = cs := by
  unfold replace
  induction cs with
  | nil => rfl
  | cons d cs ih =>
    rw [List.mem_cons, not_or] at h
    rw [List.flatMap_cons, if_neg (Ne.symm h.1), ih h.2]
    rfl

theorem replace_append (c : Char) (text cs ds : List Char) :
    replace c text (cs ++ ds) = replace c text cs ++ replace c text ds :=
  List.flatMap_append

/-- To escape each character is to replace backslashes first, then quotation marks, then line
    feeds: no replacement finds a character that an earlier one has put there. -/
theorem flatMap_escape (cs : List Char) :
    cs.flatMap escape =
      replace '\n' ['\\', 'n'] (replace '\x22' ['\\', '\x22'] (replace '\\' ['\\', '\\'] cs)) := by
  induction cs with
  | nil => rfl
  | cons c cs ih =>
    rw [List.flatMap_cons, ih, ← List.singleton_append (x := c) (l := cs), replace_append,
      replace_append, replace_append]
    -- character by character: the three that are replaced, and any other
    congr 1
    by_cases hbackslash : c = '\\'
    · subst hbackslash
      rfl
    by_cases hmark : c = '\x22'
    · subst hmark
      rfl
    have hplain : replace '\\' ['\\', '\\'] [c] = [c] :=
      replace_of_not_mem fun hmem => hbackslash (List.mem_singleton.mp hmem).symm
    have hunmarked : replace '\x22' ['\\', '\x22'] [c] = [c] :=
      replace_of_not_mem fun hmem => hmark (List.mem_singleton.mp hmem).symm
    rw [hplain, hunmarked]
    unfold escape replace
    rw [if_neg hbackslash, if_neg hmark, List.flatMap_singleton]

/-! ## Parts

The reader carries along whether it is within quotation marks. Since a part is outside of them at
both of its ends, what the reader carries is the same in front of every part, and the parts of a
line can be taken one by one. -/

/-- A text that is not divided, and after which a text goes on outside of quotation marks. -/
def IsPart (cs : List Char) : Prop :=
  ∀ rest, parts false (cs ++ rest) = (parts false rest).modifyHead (cs ++ ·)

theorem isPart_nil : IsPart [] := by
  intro rest
  show parts false rest = (parts false rest).modifyHead id
  rw [List.modifyHead_id]
  rfl

theorem IsPart.append {cs ds : List Char} (hc : IsPart cs) (hd : IsPart ds) :
    IsPart (cs ++ ds) := by
  intro rest
  rw [List.append_assoc, hc, hd, List.modifyHead_modifyHead]
  congr 1
  funext part
  exact (List.append_assoc cs ds part).symm

/-- Without spaces and quotation marks nothing can happen to a text. -/
theorem isPart_of_not_mem {cs : List Char} (hspace : ' ' ∉ cs) (hmark : '\x22' ∉ cs) :
    IsPart cs := by
  induction cs with
  | nil => exact isPart_nil
  | cons c cs ih =>
    rw [List.mem_cons, not_or] at hspace hmark
    intro rest
    rw [List.cons_append, parts, ih hspace.2 hmark.2 rest, List.modifyHead_modifyHead]
    · rfl
    · exact fun heq => hmark.1 heq.symm
    · exact fun _ heq => hspace.1 heq.symm
    · exact fun _ _ hwithin => absurd hwithin Bool.false_ne_true

/-- Within quotation marks spaces do not divide, and no escaped mark ends the quotation. -/
theorem parts_flatMap_escape (cs rest : List Char) :
    parts true (cs.flatMap escape ++ '\x22' :: rest) =
      (parts false rest).modifyHead (cs.flatMap escape ++ '\x22' :: ·) := by
  induction cs with
  | nil => rfl
  | cons c cs ih =>
    rw [List.flatMap_cons, List.append_assoc]
    rcases escapes_escape c with ⟨hplain, hbackslash, hmark, -⟩ | ⟨d, hescaped, -⟩
    · rw [hplain, List.singleton_append, parts, ih, List.modifyHead_modifyHead]
      · rfl
      · exact hmark
      · exact fun hwithin => absurd hwithin.symm Bool.false_ne_true
      · exact fun _ _ _ heq => absurd heq hbackslash
    · rw [hescaped, List.cons_append, List.singleton_append, parts, ih,
        List.modifyHead_modifyHead]
      rfl

/-- A quotation is a part as a whole: what it opens it closes. -/
theorem isPart_quotation (cs : List Char) :
    IsPart ('\x22' :: (cs.flatMap escape ++ ['\x22'])) := by
  intro rest
  rw [List.cons_append, List.append_assoc, List.singleton_append, parts, Bool.not_false,
    parts_flatMap_escape, List.modifyHead_modifyHead]
  simp only [List.cons_append, List.append_assoc, List.nil_append]
  rfl

/-! ## Values and fields

What is written of a value is either the value or its quotation; all three facts on values are
looked at in these two cases. -/

/-- Bare, and then there is something and nothing in it that needs marks; or quoted. -/
theorem writeValue_cases (cs : List Char) :
    (writeValue cs = cs ∧ cs ≠ [] ∧ ∀ c ∈ cs, needsQuotes c = false) ∨
      writeValue cs = '\x22' :: (cs.flatMap escape ++ ['\x22']) := by
  unfold writeValue
  cases h : cs.isEmpty || cs.any needsQuotes with
  | true => exact Or.inr (if_pos rfl)
  | false =>
    rw [Bool.or_eq_false_iff] at h
    refine Or.inl ⟨if_neg Bool.false_ne_true, List.isEmpty_eq_false_iff.mp h.1, ?_⟩
    intro c hc
    exact Bool.eq_false_iff.mpr (List.any_eq_false.mp h.2 c hc)

/-- A character that needs quotation marks is not where none need them. -/
theorem not_mem_of_plain {cs : List Char} (h : ∀ c ∈ cs, needsQuotes c = false) {c : Char}
    (hc : needsQuotes c = true) : c ∉ cs := by
  intro hmem
  rw [h c hmem] at hc
  cases hc

theorem isPart_writeValue (cs : List Char) : IsPart (writeValue cs) := by
  rcases writeValue_cases cs with ⟨hbare, -, hplain⟩ | hquoted
  · rw [hbare]
    exact isPart_of_not_mem (not_mem_of_plain hplain rfl) (not_mem_of_plain hplain rfl)
  · rw [hquoted]
    exact isPart_quotation cs

theorem feed_not_mem_writeValue (cs : List Char) : '\n' ∉ writeValue cs := by
  rcases writeValue_cases cs with ⟨hbare, -, hplain⟩ | hquoted
  · rw [hbare]
    exact not_mem_of_plain hplain rfl
  · rw [hquoted, List.mem_cons, List.mem_append, not_or, not_or]
    exact ⟨by decide, escapes_escape.feed_not_mem cs, by decide⟩

theorem readValue?_of_ne {c : Char} (hc : c ≠ '\x22') (cs : List Char) :
    readValue? (c :: cs) = some (String.ofList (c :: cs)) := by
  rw [readValue?]
  intro rest heq
  exact hc (List.cons.inj heq).1

theorem readValue?_writeValue (value : String) :
    readValue? (writeValue value.toList) = some value := by
  rcases writeValue_cases value.toList with ⟨hbare, hsome, hplain⟩ | hquoted
  · obtain ⟨c, cs, hvalue⟩ := List.exists_cons_of_ne_nil hsome
    have hc : c ≠ '\x22' := by
      -- a mark at the front would have had the value quoted
      rintro rfl
      refine not_mem_of_plain hplain (c := '\x22') rfl ?_
      rw [hvalue]
      exact List.mem_cons_self
    rw [hbare, hvalue, readValue?_of_ne hc, ← hvalue, String.ofList_toList]
  · have hmarks : (value.toList.map Mark.quoted).mapM Mark.quoted? = some value.toList :=
      mapM_map_eq_some fun _ _ => rfl
    have hread := escapes_escape.marks?_flatMap value.toList ['\x22']
    rw [marks?, marks?, Option.map_some, List.append_nil] at hread
    rw [hquoted, readValue?, hread, Option.bind_some, hmarks, Option.map_some,
      String.ofList_toList]

/-- A key that is written as it is. -/
def IsKey (key : String) : Prop := ∀ c ∈ key.toList, needsQuotes c = false

theorem isPart_writeField {field : String × String} (h : IsKey field.1) :
    IsPart (writeField field) := by
  have hkey : IsPart field.1.toList :=
    isPart_of_not_mem (not_mem_of_plain h rfl) (not_mem_of_plain h rfl)
  have hequals : IsPart ['='] := isPart_of_not_mem (by decide) (by decide)
  exact hkey.append (hequals.append (isPart_writeValue _))

theorem feed_not_mem_writeField {field : String × String} (h : IsKey field.1) :
    '\n' ∉ writeField field := by
  unfold writeField
  rw [List.mem_append, List.mem_cons, not_or, not_or]
  exact ⟨not_mem_of_plain h rfl, by decide, feed_not_mem_writeValue _⟩

/-- The first equality sign is the one behind the key, for no key holds any. A value may hold as
    many as it likes. -/
theorem readField?_writeField {field : String × String} (h : IsKey field.1) :
    readField? (writeField field) = some field := by
  unfold readField? writeField
  rw [cutFirst_append_of_not_mem (not_mem_of_plain h rfl)]
  dsimp only
  rw [readValue?_writeValue, String.ofList_toList]
  rfl

/-! ## Lines

The space between two fields is the only one outside of quotation marks. -/

/-- Parts with spaces between them are cut back into these parts. -/
theorem parts_joinWith {fields : List (List Char)} (hsome : fields ≠ [])
    (h : ∀ field ∈ fields, IsPart field) : parts false (joinWith [' '] fields) = fields := by
  induction fields with
  | nil => exact absurd rfl hsome
  | cons field rest ih =>
    obtain ⟨hfield, hrest⟩ := List.forall_mem_cons.mp h
    cases rest with
    | nil =>
      -- behind the last there is nothing left to cut
      have hwhole := hfield []
      rw [List.append_nil] at hwhole
      rw [joinWith, hwhole]
      show [field ++ []] = [field]
      rw [List.append_nil]
    | cons next rest =>
      rw [joinWith, List.append_assoc, hfield, List.singleton_append, parts,
        ih (List.cons_ne_nil _ _) hrest]
      show (field ++ []) :: next :: rest = field :: next :: rest
      rw [List.append_nil]

theorem joinWith_eq_intercalate (sep : List Char) (texts : List (List Char)) :
    joinWith sep texts = sep.intercalate texts := by
  induction texts with
  | nil => rfl
  | cons text rest ih =>
    cases rest with
    | nil => exact List.intercalate_singleton.symm
    | cons next rest => rw [joinWith, ih, List.intercalate_cons_cons]

/-- What is written as a line of fields is read as these fields. -/
theorem readLine?_write {fields : List (String × String)} (hsome : fields ≠ [])
    (h : ∀ field ∈ fields, IsKey field.1) : readLine? (write fields) = some fields := by
  have hparts : ∀ part ∈ fields.map writeField, IsPart part := by
    intro part hpart
    obtain ⟨field, hfield, rfl⟩ := List.mem_map.mp hpart
    exact isPart_writeField (h field hfield)
  have hwritten : fields.map writeField ≠ [] := by
    rw [ne_eq, List.map_eq_nil_iff]
    exact hsome
  unfold readLine? write
  rw [parts_joinWith hwritten hparts]
  exact mapM_map_eq_some fun field hfield => readField?_writeField (h field hfield)

theorem feed_not_mem_write {fields : List (String × String)}
    (h : ∀ field ∈ fields, IsKey field.1) : '\n' ∉ write fields := by
  unfold write
  rw [joinWith_eq_intercalate]
  refine not_mem_intercalate (by decide) ?_
  intro part hpart
  obtain ⟨field, hfield, rfl⟩ := List.mem_map.mp hpart
  exact feed_not_mem_writeField (h field hfield)

/-! ## Records

The keys are fixed and known to be plain, so every record is written in fields that can be read. -/

/-- The fields of a record with certain values. -/
def named (time level source message : String) (exception? : Option String) :
    List (String × String) :=
  [("ts", time), ("level", level), ("logger", source), ("msg", message)] ++
    (exception?.map fun text => ("exception", text)).toList

theorem named_ne_nil (time level source message : String) (exception? : Option String) :
    named time level source message exception? ≠ [] :=
  List.cons_ne_nil _ _

/-- Five keys, each looked at once by evaluation. -/
theorem isKey_named {time level source message : String} {exception? : Option String} :
    ∀ field ∈ named time level source message exception?, IsKey field.1 := by
  have hall : (["ts", "level", "logger", "msg"] ++ ["exception"]).all fun key =>
      key.toList.all fun c => !needsQuotes c := by
    decide +kernel
  intro field hfield c hc
  have hkeys := List.mem_map_of_mem (f := Prod.fst) hfield
  have hkey : field.1 ∈ ["ts", "level", "logger", "msg"] ++ ["exception"] := by
    cases exception? with
    | none => exact List.mem_append_left ["exception"] hkeys
    | some text => exact hkeys
  have hplain := List.all_eq_true.mp (List.all_eq_true.mp hall field.1 hkey) c hc
  rw [Bool.not_eq_true'] at hplain
  exact hplain

theorem readLine?_named (time level source message : String) (exception? : Option String) :
    readLine? (write (named time level source message exception?)) =
      some (named time level source message exception?) :=
  readLine?_write (named_ne_nil _ _ _ _ _) isKey_named

theorem named_inj {time time' level level' source source' message message' : String}
    {exception? exception?' : Option String} :
    named time level source message exception? =
        named time' level' source' message' exception?' ↔
      time = time' ∧ level = level' ∧ source = source' ∧ message = message' ∧
        exception? = exception?' := by
  unfold named
  simp only [List.cons_append, List.nil_append, List.cons.injEq, Prod.mk.injEq, true_and]
  cases exception? <;> cases exception?' <;> simp

/-- Fields written the same are the same, since they are read the same. -/
theorem write_named_inj {time time' level level' source source' message message' : String}
    {exception? exception?' : Option String} :
    write (named time level source message exception?) =
        write (named time' level' source' message' exception?') ↔
      time = time' ∧ level = level' ∧ source = source' ∧ message = message' ∧
        exception? = exception?' := by
  rw [← named_inj]
  constructor
  · intro h
    have hread := readLine?_named time level source message exception?
    rw [h, readLine?_named] at hread
    exact (Option.some.inj hread).symm
  · exact congrArg write

theorem toList_line (r : Record) : (Layout.fields.line r).toList = write (ofRecord r) :=
  String.toList_ofList

/-! ## The console

A console keeps what each record has been written as, one behind the other, and an onlooker has only
the text put together from them. -/

/-- Lines of fields, each ended, are read one by one: no record passes for two or for another. -/
theorem readText?_join (rs : List Record) :
    readText? (String.join (rs.map fun r => Layout.fields.line r ++ "\n")) =
      some (rs.map ofRecord) := by
  have htext : (String.join (rs.map fun r => Layout.fields.line r ++ "\n")).toList =
      ((rs.map ofRecord).map write).flatMap (· ++ ['\n']) := by
    rw [String.toList_join, List.flatMap_map, List.flatMap_map, List.flatMap_map]
    simp only [String.toList_append, toList_line]
    rfl
  -- no line feed but the ones that end the lines
  have hfeed : ∀ line ∈ (rs.map ofRecord).map write, '\n' ∉ line := by
    intro line hline
    obtain ⟨fields, hfields, rfl⟩ := List.mem_map.mp hline
    obtain ⟨r, -, rfl⟩ := List.mem_map.mp hfields
    exact feed_not_mem_write isKey_named
  unfold readText?
  rw [htext, endedBy_flatMap hfeed]
  refine mapM_map_eq_some ?_
  intro fields hfields
  obtain ⟨r, -, rfl⟩ := List.mem_map.mp hfields
  exact readLine?_named _ _ _ _ _

/-- A log that shows lines of fields on the console and may keep them in files. -/
def logTo (level : Int) (files : List RotatingFile) : Log :=
  ⟨level, .console .fields :: files.map (.file .fields)⟩

/-- Files take their line and show nothing on the console. -/
theorem console_foldl_files (r : Record) (files : List RotatingFile) (out : Output) :
    ((files.map (Handler.file .fields)).foldl (fun out h => h.write r out) out).console =
      out.console := by
  induction files generalizing out with
  | nil => rfl
  | cons file rest ih => exact ih _

/-- A record is shown whole or, below the level of the log, not at all. -/
theorem console_write (level : Int) (files : List RotatingFile) (r : Record) (out : Output) :
    ((logTo level files).write r out).console =
      out.console ++ if (logTo level files).effectiveLevel ≤ r.level
        then [Layout.fields.line r ++ "\n"] else [] := by
  unfold Log.write
  by_cases hlevel : r.level < (logTo level files).effectiveLevel
  · rw [if_pos hlevel, if_neg (Int.not_le.mpr hlevel), List.append_nil]
  · rw [if_neg hlevel, if_pos (Int.not_lt.mp hlevel)]
    exact console_foldl_files r files _

theorem console_foldl_write (level : Int) (files : List RotatingFile) (rs : List Record)
    (out : Output) :
    (rs.foldl (fun out r => (logTo level files).write r out) out).console =
      out.console ++ (rs.filter fun r => (logTo level files).effectiveLevel ≤ r.level).map
        fun r => Layout.fields.line r ++ "\n" := by
  induction rs generalizing out with
  | nil => exact (List.append_nil _).symm
  | cons r rs ih =>
    rw [List.foldl_cons, ih, console_write, List.append_assoc]
    congr 1
    by_cases hlevel : (logTo level files).effectiveLevel ≤ r.level
    · rw [if_pos hlevel, List.filter_cons, if_pos (decide_eq_true hlevel)]
      rfl
    · rw [if_neg hlevel, List.filter_cons, decide_eq_false hlevel, if_neg Bool.false_ne_true]
      rfl

/-- **Lines of fields are read as they were written.** The line of a record holds no line feed and
    is read as the time, level, source, message and exception of the record, whatever texts these
    are; so two lines are the same only where all of these are. What a console shows of records
    is read as the fields of those it takes, record by record. -/
theorem read_of_fields_line :
    (∀ r : Record, '\n' ∉ (Layout.fields.line r).toList ∧
      readLine? (Layout.fields.line r).toList = some
        ([("ts", r.time), ("level", (levelName r.level).toLower), ("logger", r.source),
          ("msg", r.message)] ++ (r.exception?.map fun text => ("exception", text)).toList)) ∧
    (∀ time level source message : String, ∀ exception? : Option String,
      '\n' ∉ write (named time level source message exception?) ∧
      readLine? (write (named time level source message exception?)) =
        some (named time level source message exception?)) ∧
    (∀ r s : Record, Layout.fields.line r = Layout.fields.line s ↔
      r.time = s.time ∧ (levelName r.level).toLower = (levelName s.level).toLower ∧
        r.source = s.source ∧ r.message = s.message ∧ r.exception? = s.exception?) ∧
    (∀ (level : Int) (files : List RotatingFile) (kept : Files.Tree) (rs : List Record),
      readText? (String.join
        (rs.foldl (fun out r => (logTo level files).write r out) ⟨[], kept⟩).console) =
        some ((rs.filter fun r => (logTo level files).effectiveLevel ≤ r.level).map ofRecord)) := by
  refine ⟨?_, ?_, ?_, ?_⟩
  · intro r
    rw [toList_line]
    exact ⟨feed_not_mem_write isKey_named, readLine?_named _ _ _ _ _⟩
  · intro time level source message exception?
    exact ⟨feed_not_mem_write isKey_named, readLine?_named _ _ _ _ _⟩
  · intro r s
    rw [← String.toList_inj, toList_line, toList_line]
    exact write_named_inj
  · intro level files kept rs
    rw [console_foldl_write, List.nil_append]
    exact readText?_join _

end Flowmeter.Log.Fields
