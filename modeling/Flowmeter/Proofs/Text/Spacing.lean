import Flowmeter.Proofs.Text.Words
import Mathlib.Data.List.TakeWhile

/-!
# Words kept apart by blanks

Words can be written out with blanks between them, and blanks in front and behind, in many ways;
all of them are cut back into the same words. The other way round, what a text is cut into are
words: none is empty, and none holds a blank.

Cutting at blanks forgets how many there are. `Gaps` says what a text may put between words so that
nothing else is forgotten: blanks, and at least one between any two. For the other direction nothing
has to be assumed, since pieces never hold what they were cut at.
-/

set_option autoImplicit false

namespace Flowmeter.Text

/-- No character of the text is a blank. -/
def Unbroken (cs : List Char) : Prop :=
  ∀ c ∈ cs, isBlank c = false

instance (cs : List Char) : Decidable (Unbroken cs) :=
  List.decidableBAll (fun c => isBlank c = false) cs

/-- A text that can be a word. -/
def IsWord (cs : List Char) : Prop :=
  cs ≠ [] ∧ Unbroken cs

instance (cs : List Char) : Decidable (IsWord cs) :=
  inferInstanceAs (Decidable (cs ≠ [] ∧ Unbroken cs))

theorem unbroken_append {cs ds : List Char} :
    Unbroken (cs ++ ds) ↔ Unbroken cs ∧ Unbroken ds :=
  List.forall_mem_append

theorem unbroken_cons {c : Char} {cs : List Char} :
    Unbroken (c :: cs) ↔ isBlank c = false ∧ Unbroken cs :=
  List.forall_mem_cons

theorem Unbroken.any_isBlank {cs : List Char} (h : Unbroken cs) : cs.any isBlank = false :=
  List.any_eq_false.mpr fun c hc => by simp [h c hc]

/-- Whatever ends a line is a blank. -/
theorem isLineBreak_eq_false {c : Char} (h : isBlank c = false) : isLineBreak c = false := by
  unfold isBlank at h
  unfold isLineBreak
  simp only [Bool.or_eq_false_iff, Bool.and_eq_false_iff, decide_eq_false_iff_not,
    beq_eq_false_iff_ne] at h ⊢
  omega

/-! ## Words written out

The gap behind a word belongs to it, so that the induction can take off a word with its gap; only
the last may do without. -/

/-- A gap, and then words with the gap behind each. -/
def spaced (lead : List Char) (parts : List (List Char × List Char)) : List Char :=
  lead ++ parts.flatMap fun part => part.1 ++ part.2

/-- Gaps are blank, and only in front of the first word and behind the last may there be none. -/
structure Gaps (lead : List Char) (parts : List (List Char × List Char)) : Prop where
  lead : lead.all isBlank = true
  behind : ∀ part ∈ parts, part.2.all isBlank = true
  apart : ∀ part ∈ parts.dropLast, part.2 ≠ []

/-- Blanks in front are no words. -/
theorem words_blank_append {gap : List Char} (h : gap.all isBlank = true) (cs : List Char) :
    words (gap ++ cs) = words cs := by
  induction gap with
  | nil => rfl
  | cons c gap ih =>
    rw [List.all_cons, Bool.and_eq_true] at h
    exact (words_append_of_blank h.1 [] (gap ++ cs)).trans (ih h.2)

/-- A word with a gap behind it is the first of the words. -/
theorem words_word_append {w gap : List Char} (hw : IsWord w) (hgap : gap.all isBlank = true)
    (hne : gap ≠ []) (cs : List Char) : words (w ++ (gap ++ cs)) = w :: words cs := by
  obtain ⟨c, gap, rfl⟩ := List.exists_cons_of_ne_nil hne
  rw [List.all_cons, Bool.and_eq_true] at hgap
  rw [List.cons_append, words_append_of_blank hgap.1, words_eq_singleton hw.1 hw.2.any_isBlank,
    words_blank_append hgap.2, List.singleton_append]

/-- Written out with any gaps, words are read back. -/
theorem words_spaced {lead : List Char} {parts : List (List Char × List Char)}
    (hgaps : Gaps lead parts) (hwords : ∀ part ∈ parts, IsWord part.1) :
    words (spaced lead parts) = parts.map Prod.fst := by
  obtain ⟨hlead, hbehind, hapart⟩ := hgaps
  rw [spaced, words_blank_append hlead]
  induction parts with
  | nil => rfl
  | cons part rest ih =>
    obtain ⟨w, gap⟩ := part
    obtain ⟨hw, hrest⟩ := List.forall_mem_cons.mp hwords
    obtain ⟨hgap, hbehind⟩ := List.forall_mem_cons.mp hbehind
    rw [List.flatMap_cons, List.map_cons, List.append_assoc]
    cases rest with
    | nil =>
      -- nothing need stand behind the last word
      rw [List.flatMap_nil, List.append_nil]
      cases gap with
      | nil => rw [List.append_nil, words_eq_singleton hw.1 hw.2.any_isBlank, List.map_nil]
      | cons c gap =>
        have hlast := words_word_append hw hgap (List.cons_ne_nil c gap) []
        rwa [List.append_nil] at hlast
    | cons next rest =>
      rw [List.dropLast_cons_cons, List.forall_mem_cons] at hapart
      rw [words_word_append hw hgap hapart.1, ih hrest hbehind hapart.2]

/-! ## Trimming

Taking off is done from both ends, and stops at the first that stays. -/

/-- A text with nothing to take off at its ends stays as it is. -/
theorem trimBy_eq_self {α : Type} {p : α → Bool} {xs : List α}
    (hfirst : ∀ x ∈ xs.head?, p x = false) (hlast : ∀ x ∈ xs.getLast?, p x = false) :
    trimBy p xs = xs := by
  have hdrop : ∀ ys : List α, (∀ y ∈ ys.head?, p y = false) → ys.dropWhile p = ys := by
    intro ys h
    cases ys with
    | nil => rfl
    | cons y ys => exact List.dropWhile_cons_of_neg (by simp [h y rfl])
  rw [trimBy, dropEndWhile, hdrop xs hfirst, hdrop xs.reverse, List.reverse_reverse]
  rwa [List.head?_reverse]

theorem trimBy_eq_nil_iff {α : Type} {p : α → Bool} {xs : List α} :
    trimBy p xs = [] ↔ ∀ x ∈ xs, p x = true := by
  rw [trimBy, dropEndWhile, List.reverse_eq_nil_iff, List.dropWhile_eq_nil_iff]
  simp only [List.mem_reverse]
  constructor
  case mp =>
    intro h
    refine List.dropWhile_eq_nil_iff.mp (by_contra fun hne => ?_)
    -- the first that is left would have been dropped
    have hfirst := h _ (List.head_mem hne)
    rw [List.head_dropWhile_not p hne] at hfirst
    cases hfirst
  case mpr =>
    intro h x hx
    exact h x (List.dropWhile_subset p hx)

/-! ## Words of a text

What a text is cut into can be put into it again as words. -/

/-- Pieces hold nothing that is cut at. -/
theorem not_of_mem_pieces {α : Type} {p : α → Bool} {xs piece : List α}
    (h : piece ∈ pieces p xs) : ∀ x ∈ piece, p x = false := by
  induction xs generalizing piece with
  | nil =>
    rw [List.mem_singleton.mp h]
    exact fun x hx => absurd hx List.not_mem_nil
  | cons y xs ih =>
    cases hy : p y with
    | true =>
      rw [pieces_cons_of_pos hy] at h
      rcases List.mem_cons.mp h with rfl | h
      · exact fun x hx => absurd hx List.not_mem_nil
      · exact ih h
    | false =>
      obtain ⟨first, rest, hpieces⟩ := List.exists_cons_of_ne_nil (pieces_ne_nil p xs)
      rw [pieces_cons_of_neg hy, hpieces, List.modifyHead_cons] at h
      rw [hpieces] at ih
      rcases List.mem_cons.mp h with rfl | h
      · exact List.forall_mem_cons.mpr ⟨hy, ih List.mem_cons_self⟩
      · exact ih (List.mem_cons_of_mem first h)

/-- And those that are left as words are not empty. -/
theorem isWord_of_mem_words {w cs : List Char} (h : w ∈ words cs) : IsWord w := by
  obtain ⟨hpiece, hne⟩ := List.mem_filter.mp h
  refine ⟨?_, not_of_mem_pieces hpiece⟩
  rintro rfl
  cases hne

end Flowmeter.Text
