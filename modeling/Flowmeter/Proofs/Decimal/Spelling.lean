import Flowmeter.Proofs.Decimal.Numeral
import Flowmeter.Proofs.Text.Words
import Mathlib.Data.List.Basic
import Mathlib.Data.List.TakeWhile
import Mathlib.Data.Nat.Digits.Defs

/-!
# The texts that spell an integer

An integer is spelt by a sign, if any, and digits of any script, between which single underscores
may stand, with blanks around them (`Spelling`). Those texts and no others are read as integers
(`readInteger_eq_ok_iff`).

A reader first puts a text into ASCII. That loses nothing that matters, since blanks, digits and
signs are told apart as well before as afterwards, so reading is the same without it
(`readInteger_eq`).

The grammar (`Spelling`) is written down with no look at the reader. It is a structure, and a
spelling is its text taken apart: lead, sign, groups, trail, with the conditions on each part as
fields. So "the reader accepts" becomes "there is a spelling", and both directions of the main
equivalence are about taking a text apart.

* From reader to spelling (`spells_of_readInteger`): the parts are what the reader has cut off on
  its way, and the conditions are what it has checked.
* From spelling to reader (`Spelling.readInteger_text`): each cut of the reader falls where the
  spelling has a boundary. That needs the parts to be told apart by their characters, so that no
  blank is part of a body, no digit is a sign, and a group never begins with an underscore.

What makes the first part long is the detour through ASCII. A digit of another script becomes the
ASCII digit of its value, a blank becomes a space, and everything else beyond ASCII a question mark.
The question mark is what must not be mistaken for anything: it is no blank, no digit, no sign and
no underscore, and that is what `asciiForm_eq_iff` asks of a mark.
-/

set_option autoImplicit false

namespace Flowmeter.Decimal

open Flowmeter.Text

/-! ## Characters of a numeral -/

/-- What may stand around a numeral: all blanks but the information separators. -/
def isNumeralBlank (c : Char) : Bool :=
  isBlank c && !(0x1C ≤ c.toNat && c.toNat ≤ 0x1F)

/-- A decimal digit of any script. -/
def isDigit (c : Char) : Bool :=
  (digitValue? c).isSome

/-- The number that digits of any script spell. -/
def ofDigits (cs : List Char) : Nat :=
  cs.foldl (fun n c => 10 * n + (digitValue? c).getD 0) 0

/-- A digit stands in a block of ten. -/
theorem digitValue?_lt {c : Char} {v : Nat} (h : digitValue? c = some v) : v < 10 := by
  obtain ⟨first, hfirst, rfl⟩ := Option.map_eq_some_iff.mp h
  have hblock := List.find?_some hfirst
  rw [Bool.and_eq_true, decide_eq_true_eq, decide_eq_true_eq] at hblock
  omega

/-- Of ASCII only the digits nought to nine are digits. -/
theorem digitValue?_of_lt {c : Char} (h : c.toNat < 127) :
    digitValue? c = if isAsciiDigit c then some (asciiDigitValue c) else none := by
  have hothers : ∀ first ∈ digitBlocks.tail, 127 ≤ first := by decide
  have hnone : digitBlocks.tail.find? (fun first => first ≤ c.toNat && c.toNat < first + 10) =
      none := by
    refine List.find?_eq_none.mpr fun first hfirst hblock => ?_
    rw [Bool.and_eq_true, decide_eq_true_eq] at hblock
    have := hothers first hfirst
    omega
  have hblocks : digitBlocks = 0x30 :: digitBlocks.tail := rfl
  rw [digitValue?, hblocks, List.find?_cons, hnone]
  unfold isAsciiDigit asciiDigitValue
  have hlimit : c.toNat < 0x30 + 10 ↔ c.toNat ≤ 0x39 := Nat.lt_succ_iff
  simp only [hlimit]
  cases decide (0x30 ≤ c.toNat) && decide (c.toNat ≤ 0x39) <;> rfl

/-- No blank is a digit of any script. -/
theorem isDigit_of_isBlank {c : Char} (h : isBlank c = true) : isDigit c = false := by
  have hapart : ∀ first ∈ digitBlocks, 0x30 ≤ first ∧ (first + 10 ≤ 0x85 ∨ 0xA0 < first) ∧
      (first + 10 ≤ 0x1680 ∨ 0x1680 < first) ∧ (first + 10 ≤ 0x2000 ∨ 0x3000 < first) := by
    decide
  rw [isDigit, digitValue?, Option.isSome_map, ← Bool.not_eq_true]
  intro hsome
  obtain ⟨first, hfirst⟩ := Option.isSome_iff_exists.mp hsome
  have hblock := List.find?_some hfirst
  -- blocks of digits begin above the controls and pass by each group of blanks
  obtain ⟨hlow, hlatin, hogham, hhigh⟩ := hapart first (List.mem_of_find?_eq_some hfirst)
  unfold isBlank at h
  simp only [Bool.or_eq_true, Bool.and_eq_true, decide_eq_true_eq, beq_iff_eq] at h hblock
  omega

/-- What a character becomes in ASCII. -/
theorem asciiForm_cases (c : Char) :
    c.toNat < 127 ∧ asciiForm c = c ∨
    127 ≤ c.toNat ∧ isBlank c = true ∧ asciiForm c = ' ' ∨
    127 ≤ c.toNat ∧ isBlank c = false ∧
      (∃ v, digitValue? c = some v ∧ asciiForm c = Char.ofNat (0x30 + v)) ∨
    127 ≤ c.toNat ∧ isBlank c = false ∧ digitValue? c = none ∧ asciiForm c = '?' := by
  unfold asciiForm
  by_cases hascii : c.toNat < 127
  · exact Or.inl ⟨hascii, if_pos hascii⟩
  rw [if_neg hascii]
  have hbeyond := Nat.le_of_not_lt hascii
  cases hblank : isBlank c with
  | true => exact Or.inr (Or.inl ⟨hbeyond, rfl, rfl⟩)
  | false =>
    cases hvalue : digitValue? c with
    | some v => exact Or.inr (Or.inr (Or.inl ⟨hbeyond, rfl, v, rfl, rfl⟩))
    | none => exact Or.inr (Or.inr (Or.inr ⟨hbeyond, rfl, rfl, rfl⟩))

theorem toNat_asciiDigit {v : Nat} (h : v < 10) : (Char.ofNat (0x30 + v)).toNat = 0x30 + v := by
  revert v
  decide

/-- A blank of ASCII comes from a blank around numerals and from nothing else. The information
    separators are blanks of a text but not of ASCII, and stay what they are. -/
theorem isAsciiBlank_asciiForm (c : Char) : isAsciiBlank (asciiForm c) = isNumeralBlank c := by
  rcases asciiForm_cases c with ⟨hascii, hform⟩ | ⟨hbeyond, hblank, hform⟩ |
    ⟨-, hblank, v, hvalue, hform⟩ | ⟨-, hblank, -, hform⟩
  · rw [hform, Bool.eq_iff_iff]
    -- in ASCII both are lists of the same few characters
    unfold isAsciiBlank isNumeralBlank isBlank
    simp only [Bool.or_eq_true, Bool.and_eq_true, decide_eq_true_eq, beq_iff_eq,
      Bool.not_eq_true', Bool.and_eq_false_iff, decide_eq_false_iff_not]
    omega
  · have hnot : ¬ c.toNat ≤ 0x1F := by omega
    rw [hform, isNumeralBlank, hblank, decide_eq_false hnot, Bool.and_false]
    rfl
  · rw [hform, isNumeralBlank, hblank, Bool.false_and]
    unfold isAsciiBlank
    rw [toNat_asciiDigit (digitValue?_lt hvalue)]
    simp only [Bool.or_eq_false_iff, Bool.and_eq_false_iff, decide_eq_false_iff_not,
      beq_eq_false_iff_ne]
    have := digitValue?_lt hvalue
    omega
  · rw [hform, isNumeralBlank, hblank]
    rfl

theorem isAsciiDigit_asciiForm (c : Char) : isAsciiDigit (asciiForm c) = isDigit c := by
  rcases asciiForm_cases c with ⟨hascii, hform⟩ | ⟨-, hblank, hform⟩ |
    ⟨-, -, v, hvalue, hform⟩ | ⟨-, -, hvalue, hform⟩
  · rw [hform, isDigit, digitValue?_of_lt hascii]
    cases isAsciiDigit c <;> rfl
  · rw [hform, isDigit_of_isBlank hblank]
    rfl
  · have := digitValue?_lt hvalue
    rw [hform, isDigit, hvalue]
    unfold isAsciiDigit
    rw [toNat_asciiDigit this]
    simp
    omega
  · rw [hform, isDigit, hvalue]
    rfl

/-- A digit keeps its value. -/
theorem asciiDigitValue_asciiForm {c : Char} (h : isDigit c = true) :
    asciiDigitValue (asciiForm c) = (digitValue? c).getD 0 := by
  rcases asciiForm_cases c with ⟨hascii, hform⟩ | ⟨-, hblank, -⟩ | ⟨-, -, v, hvalue, hform⟩ |
    ⟨-, -, hvalue, -⟩
  · have hdigit : isAsciiDigit c = true := by rw [← hform, isAsciiDigit_asciiForm, h]
    rw [hform, digitValue?_of_lt hascii, if_pos hdigit]
    rfl
  · rw [isDigit_of_isBlank hblank] at h
    cases h
  · rw [hform, hvalue, asciiDigitValue, toNat_asciiDigit (digitValue?_lt hvalue)]
    exact Nat.add_sub_cancel_left 0x30 v
  · rw [isDigit, hvalue] at h
    cases h

/-- A mark of ASCII stays what it is, and nothing else becomes one. -/
theorem asciiForm_eq_iff {c mark : Char} (hascii : mark.toNat < 127)
    (hblank : isAsciiBlank mark = false) (hdigit : isAsciiDigit mark = false)
    (hunknown : mark ≠ '?') : asciiForm c = mark ↔ c = mark := by
  constructor
  case mpr =>
    rintro rfl
    exact if_pos hascii
  case mp =>
    intro hform
    rcases asciiForm_cases c with ⟨-, heq⟩ | ⟨-, -, heq⟩ | ⟨-, -, v, hvalue, heq⟩ | ⟨-, -, -, heq⟩
    · rw [← heq, hform]
    · rw [← hform, heq] at hblank
      cases hblank
    · have hsome : isDigit c = true := by rw [isDigit, hvalue]; rfl
      rw [← hform, isAsciiDigit_asciiForm, hsome] at hdigit
      cases hdigit
    · exact absurd (hform.symm.trans heq) hunknown

/-! ## Reading without a detour

Each cut that the reader makes is made at a character with some property. The property holds of the
ASCII form just if its counterpart holds of the character, so cutting and putting into ASCII change
places. The three lemmas on `takeWhile`, `dropWhile` and `ungroup?` say so once for each way to cut.
-/

/-- What digits and the underscores between them are made of. -/
def isBody (c : Char) : Bool :=
  isDigit c || c == '_'

theorem takeSign_of_ne {c : Char} (hminus : c ≠ '-') (hplus : c ≠ '+') (cs : List Char) :
    takeSign (c :: cs) = (false, c :: cs) := by
  unfold takeSign
  split
  case h_1 heq => exact absurd (List.cons.inj heq).1 hminus
  case h_2 heq => exact absurd (List.cons.inj heq).1 hplus
  case h_3 => rfl

theorem takeSign_plainForm (cs : List Char) :
    takeSign (plainForm cs) = ((takeSign cs).1, plainForm (takeSign cs).2) := by
  cases cs with
  | nil => rfl
  | cons c cs =>
    have hminus : asciiForm c = '-' ↔ c = '-' :=
      asciiForm_eq_iff (by decide) (by decide) (by decide) (by decide)
    have hplus : asciiForm c = '+' ↔ c = '+' :=
      asciiForm_eq_iff (by decide) (by decide) (by decide) (by decide)
    by_cases hm : c = '-'
    · rw [hm]; rfl
    by_cases hp : c = '+'
    · rw [hp]; rfl
    rw [takeSign_of_ne hm hp, plainForm, List.map_cons,
      takeSign_of_ne (fun h => hm (hminus.mp h)) (fun h => hp (hplus.mp h))]

/-- The characters at which the digits of a numeral end are the same before and afterwards. -/
theorem isBody_asciiForm (c : Char) :
    (isAsciiDigit (asciiForm c) || asciiForm c == '_') = isBody c := by
  have hunderscore : asciiForm c = '_' ↔ c = '_' :=
    asciiForm_eq_iff (by decide) (by decide) (by decide) (by decide)
  rw [isAsciiDigit_asciiForm, isBody, Bool.beq_eq_decide_eq, Bool.beq_eq_decide_eq]
  simp only [hunderscore]

theorem dropWhile_plainForm {p q : Char → Bool} (h : ∀ c, p (asciiForm c) = q c)
    (cs : List Char) : (plainForm cs).dropWhile p = plainForm (cs.dropWhile q) := by
  have hsame : p ∘ asciiForm = q := funext h
  rw [plainForm, List.dropWhile_map, hsame, plainForm]

theorem takeWhile_plainForm {p q : Char → Bool} (h : ∀ c, p (asciiForm c) = q c)
    (cs : List Char) : (plainForm cs).takeWhile p = plainForm (cs.takeWhile q) := by
  have hsame : p ∘ asciiForm = q := funext h
  rw [plainForm, List.takeWhile_map, hsame, plainForm]

theorem ungroup?_plainForm (run : List Char) :
    ungroup? (plainForm run) = (ungroup? run).map plainForm := by
  have hunderscore : ∀ c, (asciiForm c == '_') = (c == '_') := fun c => by
    have hmark : asciiForm c = '_' ↔ c = '_' :=
      asciiForm_eq_iff (by decide) (by decide) (by decide) (by decide)
    rw [Bool.eq_iff_iff, beq_iff_eq, beq_iff_eq, hmark]
  rw [ungroup?, ungroup?, plainForm, pieces_map hunderscore, List.any_map, ← List.map_flatten]
  simp only [Function.comp_def, List.isEmpty_map]
  split <;> rfl

/-- The digits of a run in which underscores stand between digits are digits. -/
theorem isDigit_of_ungroup? {run digits : List Char} (h : ungroup? run = some digits)
    (hrun : ∀ c ∈ run, isBody c = true) : ∀ c ∈ digits, isDigit c = true := by
  rw [ungroup?] at h
  split at h
  case isTrue => cases h
  case isFalse =>
    cases h
    intro c hc
    rw [flatten_pieces, List.mem_filter, Bool.not_eq_true'] at hc
    have hbody := hrun c hc.1
    rwa [isBody, hc.2, Bool.or_false] at hbody

/-- The value is that of the digits as they stand. -/
theorem ofAsciiDigits_plainForm {digits : List Char} (h : ∀ c ∈ digits, isDigit c = true) :
    ofAsciiDigits (plainForm digits) = ofDigits digits := by
  rw [ofAsciiDigits, ofDigits, plainForm, List.foldl_map]
  exact List.foldl_ext _ _ _ fun n c hc => by rw [asciiDigitValue_asciiForm (h c hc)]

/-- What is read of a text is the same without putting it into ASCII first. -/
theorem readInteger_eq (cs : List Char) :
    readInteger cs =
      let (negative, body) := takeSign (cs.dropWhile isNumeralBlank)
      match ungroup? (body.takeWhile isBody) with
      | none => .error .malformed
      | some digits =>
          if digitLimit < digits.length then .error (.tooLong digits.length)
          else if ((body.dropWhile isBody).dropWhile isNumeralBlank).isEmpty then
            .ok (signed negative (ofDigits digits))
          else .error .malformed := by
  rw [readInteger, dropWhile_plainForm isAsciiBlank_asciiForm, takeSign_plainForm]
  -- behind the sign all further cuts are cuts of one text, of which only the form differs
  obtain ⟨negative, body⟩ := takeSign (cs.dropWhile isNumeralBlank)
  have hbody := isBody_asciiForm
  simp only [takeWhile_plainForm (p := fun c => isAsciiDigit c || c == '_') hbody,
    dropWhile_plainForm (p := fun c => isAsciiDigit c || c == '_') hbody,
    dropWhile_plainForm isAsciiBlank_asciiForm, ungroup?_plainForm]
  cases hdigits : ungroup? (body.takeWhile isBody) with
  | none => rfl
  | some digits =>
    have hall := isDigit_of_ungroup? hdigits fun c hc => List.mem_takeWhile_imp hc
    have hlength : (plainForm digits).length = digits.length := List.length_map _
    have hempty : ∀ cs, (plainForm cs).isEmpty = cs.isEmpty := fun _ => List.isEmpty_map
    simp only [Option.map_some, ofAsciiDigits_plainForm hall, hlength, hempty]

/-! ## Spellings -/

/-- The sign of a numeral, a minus being `true`. -/
def signText : Option Bool → List Char
  | none => []
  | some true => ['-']
  | some false => ['+']

/-- The ways in which an integer may be written. -/
structure Spelling where
  lead : List Char
  sign : Option Bool
  /-- The digits between underscores. -/
  groups : List (List Char)
  trail : List Char
  blank_lead : ∀ c ∈ lead, isNumeralBlank c = true
  blank_trail : ∀ c ∈ trail, isNumeralBlank c = true
  groups_ne_nil : groups ≠ []
  group_ne_nil : ∀ group ∈ groups, group ≠ []
  isDigit_group : ∀ group ∈ groups, ∀ c ∈ group, isDigit c = true
  length_le : groups.flatten.length ≤ digitLimit

namespace Spelling

def text (s : Spelling) : List Char :=
  s.lead ++ (signText s.sign ++ (['_'].intercalate s.groups ++ s.trail))

def value (s : Spelling) : Int :=
  signed (s.sign == some true) (ofDigits s.groups.flatten)

end Spelling

/-- A text spells an integer. -/
def Spells (cs : List Char) (n : Int) : Prop :=
  ∃ s : Spelling, s.text = cs ∧ s.value = n

/-! ## Every text that is read spells what is read

The spelling is made of the pieces that the reader has cut: what it dropped in front, the sign it
took, the pieces between underscores, and what it dropped at the end. -/

theorem exists_sign (cs : List Char) :
    ∃ sign, cs = signText sign ++ (takeSign cs).2 ∧ (takeSign cs).1 = (sign == some true) := by
  cases cs with
  | nil => exact ⟨none, rfl, rfl⟩
  | cons c cs =>
    by_cases hminus : c = '-'
    · exact ⟨some true, by rw [hminus]; rfl, by rw [hminus]; rfl⟩
    by_cases hplus : c = '+'
    · exact ⟨some false, by rw [hplus]; rfl, by rw [hplus]; rfl⟩
    rw [takeSign_of_ne hminus hplus]
    exact ⟨none, rfl, rfl⟩

/-- A run is accepted if no piece between its underscores is empty. That excludes an underscore
    at either end and two in a row. -/
theorem ungroup?_eq_some {run digits : List Char} (h : ungroup? run = some digits) :
    (∀ group ∈ pieces (· == '_') run, group ≠ []) ∧ (pieces (· == '_') run).flatten = digits := by
  rw [ungroup?] at h
  split at h
  case isTrue => cases h
  case isFalse hnone =>
    cases h
    refine ⟨fun group hgroup heq => hnone ?_, rfl⟩
    exact List.any_eq_true.mpr ⟨group, hgroup, by rw [heq]; rfl⟩

theorem intercalate_pieces (c : Char) (cs : List Char) :
    [c].intercalate (pieces (· == c) cs) = cs := by
  rw [pieces_eq_splitOnP]
  exact List.intercalate_splitOn c

theorem spells_of_readInteger {cs : List Char} {n : Int} (h : readInteger cs = .ok n) :
    Spells cs n := by
  rw [readInteger_eq] at h
  obtain ⟨sign, hsign, hnegative⟩ := exists_sign (cs.dropWhile isNumeralBlank)
  -- the sign and the body are all that matters of it from here on
  generalize takeSign (cs.dropWhile isNumeralBlank) = taken at h hsign hnegative
  obtain ⟨negative, body⟩ := taken
  dsimp only at h hsign hnegative
  split at h
  case h_1 => cases h
  case h_2 digits hdigits =>
    obtain ⟨hgroups, rfl⟩ := ungroup?_eq_some hdigits
    split at h
    case isTrue => cases h
    case isFalse hlength =>
    split at h
    case isFalse => cases h
    case isTrue htrail =>
      rw [List.isEmpty_iff, List.dropWhile_eq_nil_iff] at htrail
      have hbody : ∀ c ∈ body.takeWhile isBody, isBody c = true := fun c hc =>
        List.mem_takeWhile_imp hc
      have hall := isDigit_of_ungroup? hdigits hbody
      -- the parts of the spelling, then its text, then its value
      refine ⟨⟨cs.takeWhile isNumeralBlank, sign, pieces (· == '_') (body.takeWhile isBody),
        body.dropWhile isBody, fun c hc => List.mem_takeWhile_imp hc, htrail, pieces_ne_nil _ _,
        hgroups, fun group hgroup c hc => hall c (List.mem_flatten.mpr ⟨group, hgroup, hc⟩),
        Nat.le_of_not_lt hlength⟩, ?_, ?_⟩
      · rw [Spelling.text, intercalate_pieces, List.takeWhile_append_dropWhile, ← hsign,
          List.takeWhile_append_dropWhile]
      · rw [Spelling.value, ← hnegative]
        exact Except.ok.inj h

/-! ## Every spelling is read

The first character of a body is a digit, which is neither a blank nor a sign, so the reader stops
dropping blanks at the right place and takes no sign where there is none. -/

theorem ne_of_isDigit {c mark : Char} (h : isDigit c = true) (hmark : isDigit mark = false) :
    c ≠ mark := by
  rintro rfl
  rw [h] at hmark
  cases hmark

theorem isNumeralBlank_of_isBody {c : Char} (h : isBody c = true) : isNumeralBlank c = false := by
  rw [isBody, Bool.or_eq_true, beq_iff_eq] at h
  rcases h with hdigit | rfl
  · cases hblank : isBlank c with
    | true => rw [isDigit_of_isBlank hblank] at hdigit; cases hdigit
    | false => rw [isNumeralBlank, hblank, Bool.false_and]
  · decide

namespace Spelling

variable (s : Spelling)

/-- The groups are what stands between the underscores. -/
theorem pieces_intercalate : pieces (· == '_') (['_'].intercalate s.groups) = s.groups := by
  rw [pieces_eq_splitOnP]
  refine List.splitOn_intercalate '_' (fun group hgroup hmem => ?_) s.groups_ne_nil
  exact ne_of_isDigit (s.isDigit_group group hgroup '_' hmem) (by decide) rfl

/-- Between groups of digits joined by underscores there is nothing else. -/
theorem isBody_intercalate : ∀ c ∈ ['_'].intercalate s.groups, isBody c = true := by
  intro c hc
  cases hmark : c == '_' with
  | true => rw [isBody, hmark, Bool.or_true]
  | false =>
    -- what is no underscore stands in one of the pieces, and these are the groups
    have hflat := flatten_pieces (· == '_') (['_'].intercalate s.groups)
    rw [s.pieces_intercalate] at hflat
    have hmem : c ∈ s.groups.flatten := by
      rw [hflat, List.mem_filter, hmark]
      exact ⟨hc, rfl⟩
    obtain ⟨group, hgroup, hc⟩ := List.mem_flatten.mp hmem
    rw [isBody, s.isDigit_group group hgroup c hc, Bool.true_or]

/-- What follows the sign begins with a digit. -/
theorem exists_digit : ∃ c rest, ['_'].intercalate s.groups = c :: rest ∧ isDigit c = true := by
  have hpieces := s.pieces_intercalate
  have hbody := s.isBody_intercalate
  cases hjoined : ['_'].intercalate s.groups with
  | nil =>
    rw [hjoined] at hpieces
    exact absurd rfl (s.group_ne_nil [] (hpieces ▸ List.mem_singleton_self []))
  | cons c rest =>
    rw [hjoined] at hpieces hbody
    refine ⟨c, rest, rfl, ?_⟩
    cases hmark : c == '_' with
    | true =>
      -- nothing would stand in front of the first underscore
      rw [pieces_cons_of_pos (p := (· == '_')) hmark] at hpieces
      exact absurd rfl (s.group_ne_nil [] (hpieces ▸ List.mem_cons_self))
    | false =>
      have hfirst := hbody c List.mem_cons_self
      rwa [isBody, hmark, Bool.or_false] at hfirst

theorem ungroup?_intercalate :
    ungroup? (['_'].intercalate s.groups) = some s.groups.flatten := by
  rw [ungroup?, s.pieces_intercalate, if_neg]
  rw [List.any_eq_true]
  rintro ⟨group, hgroup, hempty⟩
  exact s.group_ne_nil group hgroup (List.isEmpty_iff.mp hempty)

theorem takeSign_eq (rest : List Char) :
    takeSign (signText s.sign ++ (['_'].intercalate s.groups ++ rest)) =
      (s.sign == some true, ['_'].intercalate s.groups ++ rest) := by
  obtain ⟨c, digits, hjoined, hdigit⟩ := s.exists_digit
  rw [hjoined]
  match s.sign with
  | some true => rfl
  | some false => rfl
  | none =>
    exact takeSign_of_ne (ne_of_isDigit hdigit (by decide)) (ne_of_isDigit hdigit (by decide)) _

/-- The blanks in front go, and nothing behind them does. -/
theorem dropWhile_text : s.text.dropWhile isNumeralBlank =
    signText s.sign ++ (['_'].intercalate s.groups ++ s.trail) := by
  obtain ⟨c, digits, hjoined, hdigit⟩ := s.exists_digit
  have hblank : isNumeralBlank c = false :=
    isNumeralBlank_of_isBody (by rw [isBody, hdigit, Bool.true_or])
  rw [text, List.dropWhile_append_of_pos s.blank_lead, hjoined]
  match s.sign with
  | some true => rfl
  | some false => rfl
  | none => exact List.dropWhile_cons_of_neg (by rw [hblank]; exact Bool.false_ne_true)

/-- The blanks behind a numeral end its digits. -/
theorem span_isBody_trail : s.trail.takeWhile isBody = [] ∧ s.trail.dropWhile isBody = s.trail := by
  cases htrail : s.trail with
  | nil => exact ⟨rfl, rfl⟩
  | cons c rest =>
    have hc : isBody c = false := by
      cases hbody : isBody c with
      | false => rfl
      | true =>
        have hblank := s.blank_trail c (htrail ▸ List.mem_cons_self)
        rw [isNumeralBlank_of_isBody hbody] at hblank
        cases hblank
    exact ⟨List.takeWhile_cons_of_neg (by simp [hc]), List.dropWhile_cons_of_neg (by simp [hc])⟩

/-- A spelling is read as its value. -/
theorem readInteger_text : readInteger s.text = .ok s.value := by
  obtain ⟨htake, hdrop⟩ := s.span_isBody_trail
  have htrail : s.trail.dropWhile isNumeralBlank = [] :=
    List.dropWhile_eq_nil_iff.mpr s.blank_trail
  -- one cut after the other, each at the boundary of a part
  rw [readInteger_eq, s.dropWhile_text, s.takeSign_eq]
  simp only [List.takeWhile_append_of_pos s.isBody_intercalate, htake, List.append_nil,
    s.ungroup?_intercalate, List.dropWhile_append_of_pos s.isBody_intercalate, hdrop, htrail,
    List.isEmpty_nil, if_true, if_neg (Nat.not_lt.mpr s.length_le)]
  rfl

end Spelling

/-- **A text is read as an integer just if it spells that integer.** -/
theorem readInteger_eq_ok_iff {cs : List Char} {n : Int} :
    readInteger cs = .ok n ↔ Spells cs n := by
  constructor
  · exact spells_of_readInteger
  · rintro ⟨s, rfl, rfl⟩
    exact s.readInteger_text

/-- What is put for an unknown character is no part of any numeral. -/
theorem not_mem_of_spells {cs : List Char} {n : Int} (h : Spells cs n) : '\uFFFD' ∉ cs := by
  obtain ⟨s, rfl, -⟩ := h
  intro hmem
  rw [Spelling.text, List.mem_append, List.mem_append, List.mem_append] at hmem
  rcases hmem with hlead | hsign | hgroups | htrail
  · exact absurd (s.blank_lead _ hlead) (by decide)
  · revert hsign
    cases s.sign with
    | none => exact List.not_mem_nil
    | some negative => cases negative <;> decide
  · exact absurd (s.isBody_intercalate _ hgroups) (by decide)
  · exact absurd (s.blank_trail _ htrail) (by decide)

theorem not_spells_nil (n : Int) : ¬ Spells [] n := by
  rintro ⟨s, htext, -⟩
  obtain ⟨c, digits, hjoined, -⟩ := s.exists_digit
  rw [Spelling.text, hjoined] at htext
  simp at htext

/-! ## Numerals of numbers

What a program writes for a number is one of its spellings: no sign, one group, no blanks. The
condition is the limit of digits, which applies to reading alone. -/

theorem digitValue?_of_isAsciiDigit {c : Char} (h : isAsciiDigit c = true) :
    digitValue? c = some (asciiDigitValue c) := by
  have hascii : c.toNat < 127 := by
    unfold isAsciiDigit at h
    rw [Bool.and_eq_true, decide_eq_true_eq, decide_eq_true_eq] at h
    omega
  rw [digitValue?_of_lt hascii, if_pos h]

theorem ofDigits_toDigits (n : Nat) : ofDigits (Nat.toDigits 10 n) = n := by
  have hvalue : ofDigits (Nat.toDigits 10 n) = ofAsciiDigits (Nat.toDigits 10 n) :=
    List.foldl_ext _ _ _ fun m c hc => by
      rw [digitValue?_of_isAsciiDigit (isAsciiDigit_of_mem_toDigits hc)]
      rfl
  rw [hvalue]
  exact Nat.ofDigitChars_ten_toDigits

/-- The numeral of a number spells it, unless it is too long. -/
theorem spells_toDigits {n : Nat} (h : (Nat.toDigits 10 n).length ≤ digitLimit) :
    Spells (Nat.toDigits 10 n) n := by
  refine ⟨⟨[], none, [Nat.toDigits 10 n], [], by simp, by simp, by simp, ?_, ?_, by simpa⟩, ?_, ?_⟩
  · exact fun group hgroup => List.mem_singleton.mp hgroup ▸ Nat.toDigits_ne_nil
  · intro group hgroup c hc
    rw [List.mem_singleton.mp hgroup] at hc
    rw [isDigit, digitValue?_of_isAsciiDigit (isAsciiDigit_of_mem_toDigits hc)]
    rfl
  · simp [Spelling.text, signText]
  · simp [Spelling.value, signed, ofDigits_toDigits]

end Flowmeter.Decimal
