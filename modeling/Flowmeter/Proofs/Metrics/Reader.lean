import Flowmeter.Metrics.Exposition
import Flowmeter.Proofs.Decimal.Notation
import Flowmeter.Proofs.Text.Quotation
import Flowmeter.Proofs.Text.Words
import Mathlib.Data.List.Forall2

/-!
# How the text is read

A reader knows nothing of keys or counters. It cuts the text into lines, tells the two that
describe a family from those that are samples, and takes a sample apart at the braces, commas and
equality signs that are outside of quotation marks.

What the program writes is read back, family by family: no label value can end its line, its
label or its quotation, whatever characters it has.

The reader is written for this proof and shares no definition with what writes the text, so that
what is proved of it is not true by the way the two are built. It works in three passes: the text
into lines, a line into marks (what is bare and what is quoted, with escapes undone), and the marks
into an entry. The last pass cuts at bare marks only, and so never sees what is inside a label
value.

Each part of the text gets the same two lemmas. `feed_not_mem_…`: no line feed is in it, so the
lines of the text are the lines that were written. `readsAs_…`: which marks it is made of. The
second is compositional (`ReadsAs.append`, `ReadsAs.intercalate`), so a line is understood from its
parts without being scanned as a whole. Whatever a client of the network puts into a label value
enters at one place only, `Escapes.readsAs`, which holds for every text.
-/

set_option autoImplicit false

namespace Flowmeter.Exposition

open Flowmeter.Text Flowmeter.Decimal

/-! ## The reader

It accepts more than is ever written: any names, labels in any order, any text as a value. It need
not tell a good text from a bad one, only take what is written for what it is. -/

/-- What a line says. -/
inductive Entry where
  | help (name text : String)
  | kind (name word : String)
  | sample (name : String) (labels : List (String × String)) (value : String)
deriving DecidableEq, Repr

def bareText? (ms : List Mark) : Option String := (ms.mapM Mark.bare?).map String.ofList

def quotedText? (ms : List Mark) : Option String := (ms.mapM Mark.quoted?).map String.ofList

def readLabel? (ms : List Mark) : Option (String × String) :=
  match cutFirst (· == .bare '=') ms with
  | (name, some value) => do return (← bareText? name, ← quotedText? value)
  | (_, none) => none

/-- A sample: a name, perhaps labels between braces, and behind a space the value. -/
def readSample? (ms : List Mark) : Option Entry :=
  match cutFirst (· == .bare '\x7b') ms with
  | (name, some rest) =>
      match cutFirst (· == .bare '\x7d') rest with
      | (labels, some (.bare ' ' :: value)) => do
          let name ← bareText? name
          let labels ← (labels.splitOn (.bare ',')).mapM readLabel?
          let value ← bareText? value
          return .sample name labels value
      | _ => none
  | (_, none) =>
      match cutFirst (· == .bare ' ') ms with
      | (name, some value) => do return .sample (← bareText? name) [] (← bareText? value)
      | (_, none) => none

/-- A name and what follows it behind a space. -/
def readNamed (cs : List Char) : String × String :=
  let (name, text) := cutFirst (· == ' ') cs
  (String.ofList name, String.ofList (text.getD []))

def readLine? (cs : List Char) : Option Entry :=
  match List.isPrefixOf? "# HELP ".toList cs with
  | some rest => some (.help (readNamed rest).1 (readNamed rest).2)
  | none =>
      match List.isPrefixOf? "# TYPE ".toList cs with
      | some rest => some (.kind (readNamed rest).1 (readNamed rest).2)
      | none => (marks? false cs).bind readSample?

def read? (text : String) : Option (List Entry) :=
  (endedBy (· == '\n') text.toList).mapM readLine?

/-! ## Names and values -/

/-- A text of characters that may stand in a name. -/
def IsName (cs : List Char) : Prop := ∀ c ∈ cs, isNameChar false c = true

instance (cs : List Char) : Decidable (IsName cs) :=
  decidable_of_iff (cs.all (isNameChar false) = true) List.all_eq_true

theorem IsName.not_mem {cs : List Char} (h : IsName cs) {c : Char}
    (hc : isNameChar false c = false) : c ∉ cs := by
  intro hmem
  rw [h c hmem] at hc
  cases hc

theorem isNameChar_of_first {c : Char} (h : isNameChar true c = true) :
    isNameChar false c = true := by
  unfold isNameChar at h ⊢
  simp only [Bool.not_true, Bool.false_and, Bool.or_false] at h
  dsimp only
  rw [h]
  rfl

/-- Whatever a family is called, its safe name may stand in a line. -/
theorem isName_safeName (name : String) : IsName (safeName name).toList := by
  unfold safeName
  split
  · decide
  · rename_i c cs hname
    rw [String.toList_ofList]
    intro d hd
    rcases List.mem_cons.mp hd with rfl | hrest
    · dsimp only
      split
      · exact isNameChar_of_first ‹_›
      · decide
    · obtain ⟨e, -, rfl⟩ := List.mem_map.mp hrest
      dsimp only
      split
      · assumption
      · decide

/-- A value is written with digits, signs, a point and an `e`, so it needs no quotation marks. -/
theorem isNumberText_valueText? {value : Int} {text : String} (h : valueText? value = some text) :
    IsNumberText text.toList := by
  unfold valueText? at h
  obtain ⟨x, -, rfl⟩ := Option.map_eq_some_iff.mp h
  split
  · rw [String.toList_append]
    exact .append (by decide) (x.isNumberText_write _)
  · exact x.isNumberText_write _


/-! ## Labels

The name of a label is chosen by the program and the value is not. So the name is known to have no
mark in it, and of the value nothing is known. -/

/-- Three characters have an escape of their own and all others stand for themselves. -/
theorem escapes_escapeChar : Escapes escapeChar := by
  intro c
  unfold escapeChar
  split
  · exact Or.inr ⟨'\\', rfl, by subst c; rfl⟩
  · split
    · exact Or.inr ⟨'n', rfl, by subst c; rfl⟩
    · split
      · exact Or.inr ⟨'\x22', rfl, by subst c; rfl⟩
      · exact Or.inl ⟨rfl, ‹_›, ‹_›, ‹_›⟩

def labelMarks (label : String × String) : List Mark :=
  label.1.toList.map .bare ++ .bare '=' :: label.2.toList.map .quoted

theorem toList_labelText (label : String × String) : (labelText label).toList =
    label.1.toList ++
      (['='] ++ '\x22' :: (label.2.toList.flatMap escapeChar ++ ['\x22'])) := by
  unfold labelText escape
  simp only [String.toList_append, String.toList_ofList, List.append_assoc]
  rfl

/-- A label reads as its name, an equality sign and its value, all of the value being quoted. -/
theorem readsAs_labelText {label : String × String} (h : IsName label.1.toList) :
    ReadsAs (labelText label).toList (labelMarks label) := by
  rw [toList_labelText]
  have hname : ReadsAs label.1.toList (label.1.toList.map .bare) :=
    readsAs_bare (h.not_mem (by decide))
  have hequals : ReadsAs ['='] [.bare '='] := readsAs_bare (by decide)
  exact hname.append (hequals.append (escapes_escapeChar.readsAs _))

theorem feed_not_mem_labelText {label : String × String} (h : IsName label.1.toList) :
    '\n' ∉ (labelText label).toList := by
  rw [toList_labelText]
  simp only [List.mem_append, List.mem_cons, List.not_mem_nil, or_false, not_or]
  exact ⟨h.not_mem (by decide), by decide, by decide, escapes_escapeChar.feed_not_mem _, by decide⟩

theorem bareText?_map (s : String) : bareText? (s.toList.map .bare) = some s := by
  have hread : (s.toList.map Mark.bare).mapM Mark.bare? = some s.toList :=
    mapM_map_eq_some fun _ _ => rfl
  unfold bareText?
  rw [hread, Option.map_some, String.ofList_toList]

theorem quotedText?_map (s : String) : quotedText? (s.toList.map .quoted) = some s := by
  have hread : (s.toList.map Mark.quoted).mapM Mark.quoted? = some s.toList :=
    mapM_map_eq_some fun _ _ => rfl
  unfold quotedText?
  rw [hread, Option.map_some, String.ofList_toList]

/-- Equality signs in the value are quoted, so the first bare one ends the name. -/
theorem readLabel?_labelMarks {label : String × String} (h : IsName label.1.toList) :
    readLabel? (labelMarks label) = some label := by
  have hequals : Mark.bare '=' ∉ label.1.toList.map Mark.bare := by
    rw [Mark.bare_mem_map_bare]
    exact h.not_mem (by decide)
  unfold readLabel? labelMarks
  rw [cutFirst_append_of_not_mem hequals]
  dsimp only
  rw [bareText?_map, quotedText?_map]
  rfl

/-- Outside of quotation marks a label has only its name and the equality sign. -/
theorem bare_not_mem_labelMarks {label : String × String} (h : IsName label.1.toList) {c : Char}
    (hname : isNameChar false c = false) (hequals : c ≠ '=') : .bare c ∉ labelMarks label := by
  unfold labelMarks
  rw [List.mem_append, List.mem_cons, not_or, not_or]
  refine ⟨?_, ?_, Mark.bare_not_mem_map_quoted c _⟩
  · rw [Mark.bare_mem_map_bare]
    exact h.not_mem hname
  · intro heq
    cases heq
    exact hequals rfl

theorem mem_insertLabel {label other : String × String} {labels : List (String × String)} :
    label ∈ insertLabel other labels ↔ label = other ∨ label ∈ labels := by
  induction labels with
  | nil => rw [insertLabel, List.mem_singleton, or_iff_left List.not_mem_nil]
  | cons first rest ih =>
    unfold insertLabel
    split
    · exact List.mem_cons
    · rw [List.mem_cons, ih, List.mem_cons]
      exact or_left_comm

/-- Sorting labels loses none and adds none, which is all that is needed to read them. -/
theorem mem_sortLabels {label : String × String} {labels : List (String × String)} :
    label ∈ sortLabels labels ↔ label ∈ labels := by
  induction labels with
  | nil => rfl
  | cons first rest ih =>
    show label ∈ insertLabel first (sortLabels rest) ↔ _
    rw [mem_insertLabel, ih, List.mem_cons]

/-! ## Samples

Between name and value stand braces with labels, or nothing. The two cases are read by different
branches of the reader and come together in `readSample?_eq`. -/

/-- What stands between the name and the value of a sample. -/
def labelsMarks (labels : List (String × String)) : List Mark :=
  if labels.isEmpty then []
  else .bare '\x7b' :: ([.bare ','].intercalate ((sortLabels labels).map labelMarks) ++
    [.bare '\x7d'])

theorem toList_labelsText {labels : List (String × String)} (hne : labels.isEmpty = false) :
    (labelsText labels).toList = ['\x7b'] ++
      ([','].intercalate ((sortLabels labels).map fun l => (labelText l).toList) ++ ['\x7d']) := by
  unfold labelsText
  rw [hne, if_neg Bool.false_ne_true]
  simp only [String.toList_append, String.toList_intercalate, List.map_map, List.append_assoc]
  rfl

/-- Labels whose names may stand in a line. -/
def Named (labels : List (String × String)) : Prop :=
  ∀ label ∈ labels, IsName label.1.toList

theorem readsAs_labelsText {labels : List (String × String)} (h : Named labels) :
    ReadsAs (labelsText labels).toList (labelsMarks labels) := by
  cases hempty : labels.isEmpty with
  | true =>
    unfold labelsText labelsMarks
    rw [hempty, if_pos rfl, if_pos rfl]
    exact .nil
  | false =>
    unfold labelsMarks
    rw [toList_labelsText hempty, hempty, if_neg Bool.false_ne_true]
    -- one label after the other, with bare commas between them
    have hlabels : ReadsAs
        ([','].intercalate ((sortLabels labels).map fun l => (labelText l).toList))
        ([.bare ','].intercalate ((sortLabels labels).map labelMarks)) :=
      .intercalate (by decide) fun label hlabel =>
        readsAs_labelText (h label (mem_sortLabels.mp hlabel))
    have hopen : ReadsAs ['\x7b'] [.bare '\x7b'] := readsAs_bare (by decide)
    have hclose : ReadsAs ['\x7d'] [.bare '\x7d'] := readsAs_bare (by decide)
    exact hopen.append (hlabels.append hclose)

theorem feed_not_mem_labelsText {labels : List (String × String)} (h : Named labels) :
    '\n' ∉ (labelsText labels).toList := by
  cases hempty : labels.isEmpty with
  | true =>
    unfold labelsText
    rw [hempty, if_pos rfl]
    exact List.not_mem_nil
  | false =>
    rw [toList_labelsText hempty, List.mem_append, List.mem_append, not_or, not_or]
    refine ⟨by decide, not_mem_intercalate (by decide) ?_, by decide⟩
    intro l hl
    obtain ⟨label, hlabel, rfl⟩ := List.mem_map.mp hl
    exact feed_not_mem_labelText (h label (mem_sortLabels.mp hlabel))

theorem bare_not_mem_labels {labels : List (String × String)} (h : Named labels) :
    .bare '\x7d' ∉ [Mark.bare ','].intercalate (labels.map labelMarks) := by
  refine not_mem_intercalate (by decide) ?_
  intro l hl
  obtain ⟨label, hlabel, rfl⟩ := List.mem_map.mp hl
  exact bare_not_mem_labelMarks (h label hlabel) (by decide) (by decide)

theorem bare_not_mem_name {name : List Char} (h : IsName name) {c : Char}
    (hc : isNameChar false c = false) : .bare c ∉ name.map Mark.bare := by
  rw [Mark.bare_mem_map_bare]
  exact h.not_mem hc

/-- Without labels the name ends at the space, for neither name nor value has a brace. -/
theorem readSample?_plain {name value : String} (hname : IsName name.toList)
    (hvalue : IsNumberText value.toList) :
    readSample? (name.toList.map .bare ++ .bare ' ' :: value.toList.map .bare) =
      some (.sample name [] value) := by
  have hspace := bare_not_mem_name hname (c := ' ') (by decide)
  have hbrace : Mark.bare '\x7b' ∉
      name.toList.map Mark.bare ++ Mark.bare ' ' :: value.toList.map Mark.bare := by
    rw [List.mem_append, List.mem_cons, not_or, not_or]
    refine ⟨bare_not_mem_name hname (by decide), by decide, ?_⟩
    rw [Mark.bare_mem_map_bare]
    intro hmem
    cases hvalue _ hmem
  unfold readSample?
  rw [cutFirst_of_not_mem hbrace]
  dsimp only
  rw [cutFirst_append_of_not_mem hspace]
  dsimp only
  rw [bareText?_map, bareText?_map]
  rfl

/-- Commas divide labels, and the closing brace ends them, only where they are bare. -/
theorem readSample?_labelled {name value : String} {labels : List (String × String)}
    (hname : IsName name.toList) (hlabels : Named labels) (hsome : labels ≠ []) :
    readSample? (name.toList.map .bare ++ .bare '\x7b' ::
      ([Mark.bare ','].intercalate (labels.map labelMarks) ++
        .bare '\x7d' :: .bare ' ' :: value.toList.map .bare)) =
      some (.sample name labels value) := by
  -- no comma of a value is bare, so cutting at bare commas gives back the labels
  have hcomma : ∀ l ∈ labels.map labelMarks, Mark.bare ',' ∉ l := by
    intro l hl
    obtain ⟨label, hlabel, rfl⟩ := List.mem_map.mp hl
    exact bare_not_mem_labelMarks (hlabels label hlabel) (by decide) (by decide)
  have hread : (labels.map labelMarks).mapM readLabel? = some labels :=
    mapM_map_eq_some fun label hlabel => readLabel?_labelMarks (hlabels label hlabel)
  have hparts : labels.map labelMarks ≠ [] := by
    rw [ne_eq, List.map_eq_nil_iff]
    exact hsome
  unfold readSample?
  rw [cutFirst_append_of_not_mem (bare_not_mem_name hname (by decide))]
  dsimp only
  rw [cutFirst_append_of_not_mem (bare_not_mem_labels hlabels)]
  show (do
    let name ← bareText? (name.toList.map Mark.bare)
    let labels ← (([Mark.bare ','].intercalate (labels.map labelMarks)).splitOn
      (Mark.bare ',')).mapM readLabel?
    let value ← bareText? (value.toList.map Mark.bare)
    return Entry.sample name labels value) = _
  rw [bareText?_map, List.splitOn_intercalate _ hcomma hparts, hread, bareText?_map]
  rfl

/-- A sample is read with its labels in order of their names. -/
theorem readSample?_eq {name value : String} {labels : List (String × String)}
    (hname : IsName name.toList) (hlabels : Named labels) (hvalue : IsNumberText value.toList) :
    readSample? (name.toList.map .bare ++
      (labelsMarks labels ++ .bare ' ' :: value.toList.map .bare)) =
      some (.sample name (sortLabels labels) value) := by
  unfold labelsMarks
  cases hempty : labels.isEmpty with
  | true =>
    rw [List.isEmpty_iff.mp hempty, if_pos rfl, List.nil_append]
    exact readSample?_plain hname hvalue
  | false =>
    have hsorted : Named (sortLabels labels) := fun label hlabel =>
      hlabels label (mem_sortLabels.mp hlabel)
    have hsome : sortLabels labels ≠ [] := by
      obtain ⟨label, hlabel⟩ :=
        List.exists_mem_of_ne_nil labels (List.isEmpty_eq_false_iff.mp hempty)
      exact List.ne_nil_of_mem (mem_sortLabels.mpr hlabel)
    rw [if_neg Bool.false_ne_true, List.cons_append, List.append_assoc, List.singleton_append]
    exact readSample?_labelled hname hsorted hsome

/-! ## Lines

A line that describes begins with a hash and a sample does not, because a name has none. That is how
the reader tells them apart. -/

/-- A text without line feeds that a reader takes for an entry. -/
def Tells (line : String) (entry : Entry) : Prop :=
  '\n' ∉ line.toList ∧ readLine? line.toList = some entry

theorem readNamed_eq {name : String} (hname : IsName name.toList) (text : List Char) :
    readNamed (name.toList ++ ' ' :: text) = (name, String.ofList text) := by
  unfold readNamed
  rw [cutFirst_append_of_not_mem (hname.not_mem (by decide))]
  dsimp only [Option.getD_some]
  rw [String.ofList_toList]

theorem toList_described (keyword name text : String) :
    (keyword ++ name ++ " " ++ text).toList =
      keyword.toList ++ (name.toList ++ ' ' :: text.toList) := by
  simp only [String.toList_append, List.append_assoc]
  rfl

theorem feed_not_mem_described {keyword name text : List Char} (hkeyword : '\n' ∉ keyword)
    (hname : IsName name) (htext : '\n' ∉ text) : '\n' ∉ keyword ++ (name ++ ' ' :: text) := by
  simp only [List.mem_append, List.mem_cons, not_or]
  exact ⟨hkeyword, hname.not_mem (by decide), by decide, htext⟩

theorem isPrefixOf?_append (cs ds : List Char) : List.isPrefixOf? cs (cs ++ ds) = some ds :=
  List.isPrefixOf?_eq_some_iff_append_eq.mpr rfl

/-- The description of a family is free text up to the end of its line. -/
theorem tells_help {name text : String} (hname : IsName name.toList) (htext : '\n' ∉ text.toList) :
    Tells ("# HELP " ++ name ++ " " ++ text) (.help name text) := by
  unfold Tells
  rw [toList_described]
  refine ⟨feed_not_mem_described (by decide) hname htext, ?_⟩
  unfold readLine?
  rw [isPrefixOf?_append]
  dsimp only
  rw [readNamed_eq hname, String.ofList_toList]

theorem tells_kind {name word : String} (hname : IsName name.toList) (hword : '\n' ∉ word.toList) :
    Tells ("# TYPE " ++ name ++ " " ++ word) (.kind name word) := by
  unfold Tells
  rw [toList_described]
  refine ⟨feed_not_mem_described (by decide) hname hword, ?_⟩
  have hother : List.isPrefixOf? "# HELP ".toList
      ("# TYPE ".toList ++ (name.toList ++ ' ' :: word.toList)) = none := rfl
  unfold readLine?
  rw [hother, isPrefixOf?_append]
  dsimp only
  rw [readNamed_eq hname, String.ofList_toList]

theorem readLine?_of_ne {c : Char} (hc : c ≠ '#') (cs : List Char) :
    readLine? (c :: cs) = (marks? false (c :: cs)).bind readSample? := by
  have hfirst : ('#' == c) = false := beq_eq_false_iff_ne.mpr (Ne.symm hc)
  have hother : ∀ rest, List.isPrefixOf? ('#' :: rest) (c :: cs) = none := by
    intro rest
    rw [List.isPrefixOf?, hfirst, if_neg Bool.false_ne_true]
  have hhelp : List.isPrefixOf? "# HELP ".toList (c :: cs) = none := hother _
  have hkind : List.isPrefixOf? "# TYPE ".toList (c :: cs) = none := hother _
  unfold readLine?
  rw [hhelp, hkind]

/-- A line that begins with a name, or with what stands behind one, is no description. -/
theorem readLine?_of_name {name tail : List Char} {c : Char} (hname : IsName name) (hc : c ≠ '#') :
    readLine? (name ++ c :: tail) = (marks? false (name ++ c :: tail)).bind readSample? := by
  cases name with
  | nil => exact readLine?_of_ne hc tail
  | cons d rest =>
    refine readLine?_of_ne ?_ _
    rintro rfl
    exact absurd (List.mem_cons_self ..) (hname.not_mem (c := '#') (by decide))

/-- **A line.** A sample is taken for what it says, whatever its label values are. -/
theorem tells_sample {name value : String} {labels : List (String × String)}
    (hname : IsName name.toList) (hlabels : Named labels) (hvalue : IsNumberText value.toList) :
    Tells (name ++ labelsText labels ++ " " ++ value)
      (.sample name (sortLabels labels) value) := by
  have hline : (name ++ labelsText labels ++ " " ++ value).toList =
      name.toList ++ ((labelsText labels).toList ++ ' ' :: value.toList) := by
    simp only [String.toList_append, List.append_assoc]
    rfl
  have hvalueMark : '\x22' ∉ value.toList := by
    intro hmem
    cases hvalue _ hmem
  have hvalueFeed : '\n' ∉ value.toList := by
    intro hmem
    cases hvalue _ hmem
  unfold Tells
  rw [hline]
  constructor
  · simp only [List.mem_append, List.mem_cons, not_or]
    exact ⟨hname.not_mem (by decide), feed_not_mem_labelsText hlabels, by decide, hvalueFeed⟩
  -- the marks of the line are the marks of its parts
  · have hreads : ReadsAs (name.toList ++ ((labelsText labels).toList ++ ' ' :: value.toList))
        (name.toList.map .bare ++ (labelsMarks labels ++ .bare ' ' :: value.toList.map .bare)) := by
      have hspace : ReadsAs (' ' :: value.toList) (.bare ' ' :: value.toList.map .bare) := by
        refine readsAs_bare ?_
        rw [List.mem_cons, not_or]
        exact ⟨by decide, hvalueMark⟩
      exact (readsAs_bare (hname.not_mem (by decide))).append
        ((readsAs_labelsText hlabels).append hspace)
    -- the line is no description: its first character is of a name, a brace or a space
    have hsample : readLine? (name.toList ++ ((labelsText labels).toList ++ ' ' :: value.toList)) =
        (marks? false (name.toList ++
          ((labelsText labels).toList ++ ' ' :: value.toList))).bind readSample? := by
      cases hempty : labels.isEmpty with
      | true =>
        unfold labelsText
        rw [hempty, if_pos rfl]
        exact readLine?_of_name hname (by decide)
      | false =>
        rw [toList_labelsText hempty]
        exact readLine?_of_name hname (by decide)
    rw [hsample, hreads.marks?_eq]
    exact readSample?_eq hname hlabels hvalue

/-! ## Families

From lines to the text: no line holds a line feed, so cutting at line feeds gives back the lines,
and each tells its entry. -/

/-- Lines that tell are read one by one. -/
theorem mapM_readLine? {lines : List String} {entries : List Entry}
    (h : List.Forall₂ Tells lines entries) :
    (lines.map String.toList).mapM readLine? = some entries := by
  induction h with
  | nil => rfl
  | cons htells _ ih =>
    rw [List.map_cons, List.mapM_cons, htells.2, ih]
    rfl

theorem feed_not_mem_of_tells {lines : List String} {entries : List Entry}
    (h : List.Forall₂ Tells lines entries) : ∀ line ∈ lines.map String.toList, '\n' ∉ line := by
  induction h with
  | nil => exact fun line hline => absurd hline List.not_mem_nil
  | cons htells _ ih => exact List.forall_mem_cons.mpr ⟨htells.1, ih⟩

/-- What is said line by line is what is read of the text. -/
theorem read?_join {lines : List String} {entries : List Entry}
    (h : List.Forall₂ Tells lines entries) :
    read? (String.join (lines.map (· ++ "\n"))) = some entries := by
  have htext : (String.join (lines.map (· ++ "\n"))).toList =
      (lines.map String.toList).flatMap (· ++ ['\n']) := by
    rw [String.toList_join, List.flatMap_map, List.flatMap_map]
    simp only [String.toList_append]
    rfl
  unfold read?
  rw [htext, endedBy_flatMap (feed_not_mem_of_tells h)]
  exact mapM_readLine? h

theorem isName_title (family : Family) : IsName (Family.title family).toList := by
  unfold Family.title
  split <;> exact isName_safeName _

theorem isName_sampleName (family : Family) : IsName (Family.sampleName family).toList := by
  unfold Family.sampleName
  split <;> exact isName_safeName _

/-- A family whose description is one line and whose labels have names. -/
structure Legible (family : Family) : Prop where
  help : '\n' ∉ family.help.toList
  named : ∀ sample ∈ family.samples, Named sample.labels

/-- The text of a value, if it has one. -/
def valueText (value : Int) : String := (valueText? value).getD ""

def shownSample (family : Family) (sample : Sample) : Entry :=
  .sample (Family.sampleName family) (sortLabels sample.labels) (valueText sample.value)

/-- What a reader is to make of a family. -/
def shown (family : Family) : List Entry :=
  .help (Family.title family) family.help :: .kind (Family.title family) family.kind.word ::
    family.samples.map (shownSample family)

theorem tells_sampleLine {family : Family} {sample : Sample} (hnamed : Named sample.labels)
    {line : String} (h : Family.sampleLine? family sample = some line) :
    Tells line (shownSample family sample) := by
  unfold Family.sampleLine? at h
  obtain ⟨value, hvalue, rfl⟩ := Option.map_eq_some_iff.mp h
  unfold shownSample valueText
  rw [hvalue]
  exact tells_sample (isName_sampleName family) hnamed (isNumberText_valueText? hvalue)

/-- Results that are as they should be one by one are so in order. -/
theorem forall₂_of_mapM {α β γ : Type} {f : α → Option β} {R : β → γ → Prop} {g : α → γ}
    {l : List α} (hR : ∀ a ∈ l, ∀ b, f a = some b → R b (g a)) {bs : List β}
    (h : l.mapM f = some bs) : List.Forall₂ R bs (l.map g) := by
  induction l generalizing bs with
  | nil =>
    cases h
    exact .nil
  | cons a rest ih =>
    obtain ⟨ha, hrest⟩ := List.forall_mem_cons.mp hR
    rw [List.mapM_cons] at h
    obtain ⟨b, hb, h⟩ := Option.bind_eq_some_iff.mp h
    obtain ⟨bs', hbs, h⟩ := Option.bind_eq_some_iff.mp h
    cases h
    exact .cons (ha b hb) (ih hrest hbs)

theorem forall₂_tells_lines {family : Family} (hlegible : Legible family) {lines : List String}
    (h : Family.lines? family = some lines) : List.Forall₂ Tells lines (shown family) := by
  unfold Family.lines? at h
  obtain ⟨samples, hsamples, rfl⟩ := Option.map_eq_some_iff.mp h
  have hword : '\n' ∉ family.kind.word.toList := by
    cases family.kind <;> decide
  have hrest : List.Forall₂ Tells samples (family.samples.map (shownSample family)) :=
    forall₂_of_mapM (fun sample hsample line hline =>
      tells_sampleLine (hlegible.named sample hsample) hline) hsamples
  exact .cons (tells_help (isName_title family) hlegible.help)
    (.cons (tells_kind (isName_title family) hword) hrest)

/-- **What is written is read back.** If families have a text, a reader makes of it exactly what
    they hold: each is described, and all its samples follow with their labels and values. -/
theorem read?_text {families : List Family} (hlegible : ∀ family ∈ families, Legible family)
    {text : String} (h : text? families = some text) :
    read? text = some (families.flatMap shown) := by
  unfold text? at h
  obtain ⟨lines, hlines, rfl⟩ := Option.map_eq_some_iff.mp h
  unfold lines? at hlines
  obtain ⟨parts, hparts, rfl⟩ := Option.map_eq_some_iff.mp hlines
  -- what `mapM` has made of the families, family by family
  have htells : List.Forall₂ (List.Forall₂ Tells) parts (families.map shown) :=
    forall₂_of_mapM (fun family hfamily lines hlines =>
      forall₂_tells_lines (hlegible family hfamily) hlines) hparts
  rw [List.flatMap_def]
  exact read?_join (List.rel_flatten htells)

end Flowmeter.Exposition
