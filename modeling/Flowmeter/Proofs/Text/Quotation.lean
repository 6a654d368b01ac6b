import Flowmeter.Text.Blank

/-!
# Quotations

Where parts of a text stand between quotation marks, a character that divides the text divides it
only outside of them. So a text is first read into marks, which tell of each character whether it
is quoted; then it can be cut at bare characters without a look at what is quoted. Within
quotation marks a backslash makes the next character stand for another: it is how a quotation
holds a quotation mark, a line feed and the backslash itself.

What was written with such escapes is read back as it was, whatever it was, and a text whose parts
read as certain marks reads as these marks one after the other.

`ReadsAs` says of a part of a text what it reads as, whatever follows, and the part must begin and
end outside of quotation marks for that. So parts can be put together without a look inside
(`ReadsAs.append`), and a text is read by reading its parts. Inside a quotation there is one lemma,
on escapes: its induction is over the characters that were meant, not over those that were written,
of which an escape has two.
-/

set_option autoImplicit false

namespace Flowmeter.Text

/-- What was put in a form that is read back is read back one by one. -/
theorem mapM_map_eq_some {α β : Type} {f : α → β} {g : β → Option α} {l : List α}
    (h : ∀ a ∈ l, g (f a) = some a) : (l.map f).mapM g = some l := by
  induction l with
  | nil => rfl
  | cons a rest ih =>
    obtain ⟨ha, hrest⟩ := List.forall_mem_cons.mp h
    rw [List.map_cons, List.mapM_cons, ha, ih hrest]
    rfl

/-- A character as a text with quotations has it. -/
inductive Mark where
  | bare (c : Char)
  | quoted (c : Char)
deriving DecidableEq, Repr

namespace Mark

def bare? : Mark → Option Char
  | bare c => some c
  | quoted _ => none

def quoted? : Mark → Option Char
  | bare _ => none
  | quoted c => some c

/-- A bare character is among bare ones just if it is among the characters. -/
theorem bare_mem_map_bare {c : Char} {cs : List Char} : bare c ∈ cs.map bare ↔ c ∈ cs := by
  rw [List.mem_map]
  constructor
  · rintro ⟨d, hd, heq⟩
    cases heq
    exact hd
  · intro hc
    exact ⟨c, hc, rfl⟩

theorem bare_not_mem_map_quoted (c : Char) (cs : List Char) : bare c ∉ cs.map quoted := by
  intro hmem
  obtain ⟨d, -, heq⟩ := List.mem_map.mp hmem
  cases heq

end Mark

open Mark

/-- What a character stands for behind a backslash. -/
def unescaped? (c : Char) : Option Char :=
  if c = '\\' then some '\\'
  else if c = '\x22' then some '\x22'
  else if c = 'n' then some '\n'
  else none

/-- The marks of a text that begins outside of quotation marks or, if so told, within. -/
def marks? : Bool → List Char → Option (List Mark)
  | false, [] => some []
  | false, '\x22' :: cs => marks? true cs
  | false, c :: cs => (marks? false cs).map (bare c :: ·)
  | true, '\x22' :: cs => marks? false cs
  | true, '\\' :: c :: cs =>
      match unescaped? c with
      | some d => (marks? true cs).map (quoted d :: ·)
      | none => none
  | true, ['\\'] => none
  | true, c :: cs => (marks? true cs).map (quoted c :: ·)
  | true, [] => none

/-! ## Reading what was written

What a writer may do with a character is said by `Escapes` and not by a table, since two formats
here escape different characters and the reader is the same. -/

/-- A part of a text that reads as certain marks, whatever follows it. -/
def ReadsAs (cs : List Char) (ms : List Mark) : Prop :=
  ∀ rest, marks? false (cs ++ rest) = (marks? false rest).map (ms ++ ·)

theorem ReadsAs.nil : ReadsAs [] [] := by
  intro rest
  rw [List.nil_append]
  exact Option.map_id'.symm

theorem ReadsAs.append {cs ds : List Char} {ms ns : List Mark} (hc : ReadsAs cs ms)
    (hd : ReadsAs ds ns) : ReadsAs (cs ++ ds) (ms ++ ns) := by
  intro rest
  rw [List.append_assoc, hc, hd, Option.map_map]
  congr 1
  funext marks
  exact (List.append_assoc ms ns marks).symm

theorem ReadsAs.marks?_eq {cs : List Char} {ms : List Mark} (h : ReadsAs cs ms) :
    marks? false cs = some ms := by
  have hread := h []
  rw [List.append_nil] at hread
  rw [hread]
  exact congrArg some (List.append_nil ms)

/-- Without a quotation mark a text is bare from one end to the other. -/
theorem readsAs_bare {cs : List Char} (h : '\x22' ∉ cs) : ReadsAs cs (cs.map bare) := by
  induction cs with
  | nil => exact .nil
  | cons c cs ih =>
    rw [List.mem_cons, not_or] at h
    intro rest
    rw [List.cons_append, marks?, ih h.2 rest, Option.map_map]
    · rfl
    · rintro rfl
      exact h.1 rfl

theorem ReadsAs.intercalate {α : Type} {c : Char} (hc : c ≠ '\x22') {f : α → List Char}
    {g : α → List Mark} {l : List α} (h : ∀ a ∈ l, ReadsAs (f a) (g a)) :
    ReadsAs ([c].intercalate (l.map f)) ([.bare c].intercalate (l.map g)) := by
  have hseparator : ReadsAs [c] [.bare c] := by
    refine readsAs_bare ?_
    rw [List.mem_singleton]
    exact Ne.symm hc
  induction l with
  | nil => exact .nil
  | cons a rest ih =>
    obtain ⟨ha, hrest⟩ := List.forall_mem_cons.mp h
    cases rest with
    | nil => simpa using ha
    | cons b rest =>
      rw [List.map_cons, List.map_cons, List.map_cons, List.map_cons,
        List.intercalate_cons_cons, List.intercalate_cons_cons]
      exact (ha.append hseparator).append (ih hrest)

/-- What is in no part and is not the separator is not in the whole. -/
theorem not_mem_intercalate {α : Type} {x y : α} (hxy : x ≠ y) {ls : List (List α)}
    (h : ∀ l ∈ ls, x ∉ l) : x ∉ [y].intercalate ls := by
  induction ls with
  | nil => exact List.not_mem_nil
  | cons l rest ih =>
    obtain ⟨hl, hrest⟩ := List.forall_mem_cons.mp h
    cases rest with
    | nil => simpa using hl
    | cons m rest =>
      rw [List.intercalate_cons_cons, List.mem_append, List.mem_append, List.mem_singleton,
        not_or, not_or]
      exact ⟨⟨hl, hxy⟩, ih hrest⟩

/-- A way to write each character of a quotation: as it is, or escaped. -/
def Escapes (escape : Char → List Char) : Prop :=
  ∀ c, (escape c = [c] ∧ c ≠ '\\' ∧ c ≠ '\x22' ∧ c ≠ '\n') ∨
    ∃ d, escape c = ['\\', d] ∧ unescaped? d = some c

theorem Escapes.marks?_flatMap {escape : Char → List Char} (h : Escapes escape)
    (cs rest : List Char) :
    marks? true (cs.flatMap escape ++ rest) =
      (marks? true rest).map (cs.map quoted ++ ·) := by
  induction cs with
  | nil => exact Option.map_id'.symm
  | cons c cs ih =>
    rw [List.flatMap_cons, List.append_assoc]
    rcases h c with ⟨hplain, hbackslash, hmark, -⟩ | ⟨d, hescaped, hd⟩
    · rw [hplain, List.singleton_append, marks?, ih, Option.map_map]
      · rfl
      · exact hmark
      · exact fun _ _ hc => absurd hc hbackslash
      · exact fun hc => absurd hc hbackslash
    · rw [hescaped, List.cons_append, List.singleton_append, marks?, hd, ih]
      dsimp only
      rw [Option.map_map]
      rfl

/-- What is written between quotation marks is read back, whatever it is. -/
theorem Escapes.readsAs {escape : Char → List Char} (h : Escapes escape) (cs : List Char) :
    ReadsAs ('\x22' :: (cs.flatMap escape ++ ['\x22'])) (cs.map quoted) := by
  intro rest
  rw [List.cons_append, List.append_assoc, List.singleton_append, marks?, h.marks?_flatMap, marks?]

/-- What is written between quotation marks stays on its line. -/
theorem Escapes.feed_not_mem {escape : Char → List Char} (h : Escapes escape) (cs : List Char) :
    '\n' ∉ cs.flatMap escape := by
  intro hmem
  obtain ⟨c, -, hc⟩ := List.mem_flatMap.mp hmem
  rcases h c with ⟨hplain, -, -, hfeed⟩ | ⟨d, hescaped, hd⟩
  · rw [hplain, List.mem_singleton] at hc
    exact hfeed hc.symm
  · rw [hescaped] at hc
    rcases List.mem_cons.mp hc with hbackslash | hd'
    · cases hbackslash
    · rw [List.mem_singleton] at hd'
      subst hd'
      cases hd

end Flowmeter.Text
