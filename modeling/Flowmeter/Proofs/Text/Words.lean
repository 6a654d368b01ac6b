import Flowmeter.Text.Lines

/-!
# What words and lines are made of

Cutting is one recursion over the characters, and its two equations are all that is used of it:
a character at which to cut ends a piece, and any other is put in front of one. From them it
follows which texts have no words at all, those of blanks only; that the words of a text are
those before a blank and those after it; that a text without line ends is its only line; and
that the lines of a text begin anew where a line has ended.

Two definitions of the runtime rest on the cutting. Words are the pieces between blanks that hold
something. Lines are what ends with a line break, and differ in two ways: a carriage return with a
line feed behind it is one end and not two, and the text behind the last end is a line only if there
is any. Each of the two is treated by itself, `joinReturnFeed` by its first character and `endedBy`
by its last, and the facts on lines join them.

Two further ways of cutting, at the first and at the last of a character, are used by the readers of
single tokens. Both are told by what they return: the text itself, split where the character stands,
with none of it in the one part or the other.
-/

set_option autoImplicit false

namespace Flowmeter.Text

variable {α : Type} {p : α → Bool}

/-! ## Pieces

Over any type and any test, since the same recursion cuts texts, lines of fields and code points. -/

theorem pieces_cons_of_pos {x : α} (hx : p x = true) (xs : List α) :
    pieces p (x :: xs) = [] :: pieces p xs := by
  rw [pieces, List.foldr_cons, if_pos hx, ← pieces]

theorem pieces_cons_of_neg {x : α} (hx : p x = false) (xs : List α) :
    pieces p (x :: xs) = (pieces p xs).modifyHead (x :: ·) := by
  rw [pieces, List.foldr_cons, hx, if_neg Bool.false_ne_true, ← pieces]

/-- The library has this as `splitOnP`, with an accumulator. The recursion from the right is what
    the equations above need, and this is the bridge to the lemmas of the library. -/
theorem pieces_eq_splitOnP (p : α → Bool) (xs : List α) : pieces p xs = xs.splitOnP p := by
  induction xs with
  | nil => rfl
  | cons x rest ih =>
    rw [List.splitOnP_cons_eq_if_modifyHead, ← ih]
    cases hx : p x with
    | true => exact pieces_cons_of_pos hx rest
    | false => exact pieces_cons_of_neg hx rest

/-- There is always a piece, if only an empty one. -/
theorem pieces_ne_nil (p : α → Bool) (xs : List α) : pieces p xs ≠ [] := by
  induction xs with
  | nil => exact List.cons_ne_nil _ _
  | cons x xs ih =>
    cases hx : p x with
    | true =>
      rw [pieces_cons_of_pos hx]
      exact List.cons_ne_nil _ _
    | false =>
      rw [pieces_cons_of_neg hx]
      obtain ⟨first, rest, hpieces⟩ := List.exists_cons_of_ne_nil ih
      rw [hpieces]
      exact List.cons_ne_nil _ _

/-- An element at which to cut leaves the pieces on both sides as they are. -/
theorem pieces_append_of_pos {x : α} (hx : p x = true) (xs ys : List α) :
    pieces p (xs ++ x :: ys) = pieces p xs ++ pieces p ys := by
  induction xs with
  | nil =>
    rw [List.nil_append, pieces_cons_of_pos hx]
    rfl
  | cons y xs ih =>
    rw [List.cons_append]
    cases hy : p y with
    | true => rw [pieces_cons_of_pos hy, pieces_cons_of_pos hy, ih, List.cons_append]
    | false =>
      -- the piece that is begun belongs to the text on the left
      obtain ⟨first, rest, hpieces⟩ := List.exists_cons_of_ne_nil (pieces_ne_nil p xs)
      rw [pieces_cons_of_neg hy, pieces_cons_of_neg hy, ih, hpieces]
      rfl

/-- What holds nothing to cut at is one piece. -/
theorem pieces_eq_singleton {xs : List α} (h : xs.any p = false) : pieces p xs = [xs] := by
  induction xs with
  | nil => rfl
  | cons x xs ih =>
    rw [List.any_cons, Bool.or_eq_false_iff] at h
    rw [pieces_cons_of_neg h.1, ih h.2]
    rfl

/-- Changing each element does not change where a text is cut, if it does not change which
    elements it is cut at. -/
theorem pieces_map {β : Type} {q : β → Bool} {f : α → β} (h : ∀ x, q (f x) = p x)
    (xs : List α) : pieces q (xs.map f) = (pieces p xs).map (List.map f) := by
  induction xs with
  | nil => rfl
  | cons x xs ih =>
    rw [List.map_cons]
    cases hx : p x with
    | true => rw [pieces_cons_of_pos ((h x).trans hx), pieces_cons_of_pos hx, ih]; rfl
    | false =>
      obtain ⟨first, rest, hpieces⟩ := List.exists_cons_of_ne_nil (pieces_ne_nil p xs)
      rw [pieces_cons_of_neg ((h x).trans hx), pieces_cons_of_neg hx, ih, hpieces]
      rfl

/-- Cutting loses only what is cut at. -/
theorem flatten_pieces (p : α → Bool) (xs : List α) :
    (pieces p xs).flatten = xs.filter (!p ·) := by
  induction xs with
  | nil => rfl
  | cons x xs ih =>
    rw [List.filter_cons, ← ih]
    cases hx : p x with
    | true => rw [pieces_cons_of_pos hx]; rfl
    | false =>
      obtain ⟨first, rest, hpieces⟩ := List.exists_cons_of_ne_nil (pieces_ne_nil p xs)
      rw [pieces_cons_of_neg hx, hpieces]
      rfl

/-- What is put together of parts, each with the same end behind it, is cut into these parts. -/
theorem endedBy_flatMap [DecidableEq α] {a : α} {parts : List (List α)}
    (h : ∀ part ∈ parts, a ∉ part) : endedBy (· == a) (parts.flatMap (· ++ [a])) = parts := by
  have hcut : pieces (· == a) (parts.flatMap (· ++ [a])) = parts ++ [[]] := by
    induction parts with
    | nil => rfl
    | cons part rest ih =>
      obtain ⟨hpart, hrest⟩ := List.forall_mem_cons.mp h
      have hwhole : part.any (· == a) = false := by
        refine List.any_eq_false.mpr fun x hx heq => ?_
        rw [eq_of_beq heq] at hx
        exact hpart hx
      rw [List.flatMap_cons, List.append_assoc, List.singleton_append,
        pieces_append_of_pos (p := (· == a)) (beq_self_eq_true a), pieces_eq_singleton hwhole,
        ih hrest]
      rfl
  unfold endedBy
  rw [hcut]
  cases parts with
  | nil => rfl
  | cons part rest =>
    -- the piece behind the last end is the empty one, which is no stretch
    have hlast : (part :: rest ++ [[]]).getLast? = some [] := List.getLast?_concat
    have hinit : (part :: rest ++ [[]]).dropLast = part :: rest := List.dropLast_concat
    show (if ((part :: rest ++ [[]]).getLast?.getD []).isEmpty = true
      then (part :: rest ++ [[]]).dropLast else part :: rest ++ [[]]) = _
    rw [hlast, hinit]
    rfl

theorem cutFirst_of_not_mem [DecidableEq α] {a : α} {xs : List α} (h : a ∉ xs) :
    cutFirst (· == a) xs = (xs, none) := by
  induction xs with
  | nil => rfl
  | cons x xs ih =>
    rw [List.mem_cons, not_or] at h
    have hx : (x == a) = false := beq_eq_false_iff_ne.mpr (Ne.symm h.1)
    rw [cutFirst, hx, if_neg Bool.false_ne_true, ih h.2]

theorem cutFirst_append_of_not_mem [DecidableEq α] {a : α} {xs : List α} (h : a ∉ xs)
    (ys : List α) : cutFirst (· == a) (xs ++ a :: ys) = (xs, some ys) := by
  induction xs with
  | nil => rw [List.nil_append, cutFirst, if_pos (beq_self_eq_true a)]
  | cons x xs ih =>
    rw [List.mem_cons, not_or] at h
    have hx : (x == a) = false := beq_eq_false_iff_ne.mpr (Ne.symm h.1)
    rw [List.cons_append, cutFirst, hx, if_neg Bool.false_ne_true, ih h.2]

/-- A cut loses the character at which it is made, and nothing else. -/
theorem eq_of_cutFirst_eq_some [DecidableEq α] {a : α} {xs before after : List α}
    (h : cutFirst (· == a) xs = (before, some after)) : xs = before ++ a :: after := by
  induction xs generalizing before with
  | nil => cases h
  | cons x xs ih =>
    rw [cutFirst] at h
    split at h
    case isTrue hx =>
      cases h
      rw [eq_of_beq hx, List.nil_append]
    case isFalse =>
      cases hcut : cutFirst (· == a) xs with
      | mk front back =>
        rw [hcut] at h
        cases h
        rw [ih hcut, List.cons_append]

/-- The cut at the first of a character is the one with none of it in front. -/
theorem cutFirst_eq_some_iff [DecidableEq α] {a : α} {xs before after : List α} :
    cutFirst (· == a) xs = (before, some after) ↔ xs = before ++ a :: after ∧ a ∉ before := by
  constructor
  case mpr =>
    rintro ⟨rfl, h⟩
    exact cutFirst_append_of_not_mem h after
  case mp =>
    intro h
    refine ⟨eq_of_cutFirst_eq_some h, ?_⟩
    induction xs generalizing before with
    | nil => cases h
    | cons x xs ih =>
      rw [cutFirst] at h
      split at h
      case isTrue =>
        cases h
        exact List.not_mem_nil
      case isFalse hx =>
        cases hcut : cutFirst (· == a) xs with
        | mk front back =>
          rw [hcut] at h
          cases h
          rw [List.mem_cons, not_or]
          exact ⟨fun heq => hx (beq_iff_eq.mpr heq.symm), ih hcut⟩

theorem cutLast_of_not_mem [DecidableEq α] {a : α} {xs : List α} (h : a ∉ xs) :
    cutLast (· == a) xs = (none, xs) := by
  induction xs with
  | nil => rfl
  | cons x xs ih =>
    rw [List.mem_cons, not_or] at h
    have hx : (x == a) = false := beq_eq_false_iff_ne.mpr (Ne.symm h.1)
    rw [cutLast, ih h.2]
    simp [hx]

/-- A text that is not cut has nothing at which to cut. -/
theorem not_mem_of_cutLast_eq_none [DecidableEq α] {a : α} {xs after : List α}
    (h : cutLast (· == a) xs = (none, after)) : a ∉ xs := by
  induction xs generalizing after with
  | nil => exact List.not_mem_nil
  | cons x xs ih =>
    rw [cutLast] at h
    cases hcut : cutLast (· == a) xs with
    | mk front back =>
      rw [hcut] at h
      cases front with
      | some front => cases h
      | none =>
        dsimp only at h
        split at h
        case isTrue => cases h
        case isFalse hx =>
          rw [List.mem_cons, not_or]
          exact ⟨fun heq => hx (beq_iff_eq.mpr heq.symm), ih hcut⟩

theorem cutLast_append_of_not_mem [DecidableEq α] {a : α} (xs : List α) {ys : List α}
    (h : a ∉ ys) : cutLast (· == a) (xs ++ a :: ys) = (some xs, ys) := by
  induction xs with
  | nil =>
    rw [List.nil_append, cutLast, cutLast_of_not_mem h]
    simp
  | cons x xs ih => rw [List.cons_append, cutLast, ih]

/-- The cut at the last of a character is the one with none of it behind. -/
theorem cutLast_eq_some_iff [DecidableEq α] {a : α} {xs before after : List α} :
    cutLast (· == a) xs = (some before, after) ↔ xs = before ++ a :: after ∧ a ∉ after := by
  constructor
  case mpr =>
    rintro ⟨rfl, h⟩
    exact cutLast_append_of_not_mem before h
  case mp =>
    intro h
    induction xs generalizing before with
    | nil => cases h
    | cons x xs ih =>
      rw [cutLast] at h
      cases hcut : cutLast (· == a) xs with
      | mk front back =>
        rw [hcut] at h
        cases front with
        | some front =>
          cases h
          obtain ⟨rfl, hafter⟩ := ih hcut
          exact ⟨rfl, hafter⟩
        | none =>
          -- nothing further on is cut at, so only this element can be
          dsimp only at h
          split at h
          case isFalse => cases h
          case isTrue hx =>
            have hrest := not_mem_of_cutLast_eq_none hcut
            rw [cutLast_of_not_mem hrest] at hcut
            cases hcut
            cases h
            exact ⟨by rw [eq_of_beq hx, List.nil_append], hrest⟩

/-! ## Words -/

/-- The texts without words are the blank ones. -/
theorem words_eq_nil_iff {cs : List Char} : words cs = [] ↔ cs.all isBlank = true := by
  induction cs with
  | nil => exact ⟨fun _ => rfl, fun _ => rfl⟩
  | cons c cs ih =>
    rw [words] at ih ⊢
    cases hc : isBlank c with
    | true =>
      rw [pieces_cons_of_pos hc, List.filter_cons, List.all_cons, hc]
      exact ih
    | false =>
      -- the piece that this character begins holds something
      obtain ⟨first, rest, hpieces⟩ := List.exists_cons_of_ne_nil (pieces_ne_nil isBlank cs)
      rw [pieces_cons_of_neg hc, hpieces, List.all_cons, hc]
      simp

/-- A blank between two texts divides their words, whatever other blanks are around it: what lies
    between two blanks is empty and no word. -/
theorem words_append_of_blank {c : Char} (hc : isBlank c = true) (cs ds : List Char) :
    words (cs ++ c :: ds) = words cs ++ words ds := by
  rw [words, pieces_append_of_pos hc, List.filter_append, ← words, ← words]

theorem words_eq_singleton {cs : List Char} (hne : cs ≠ []) (h : cs.any isBlank = false) :
    words cs = [cs] := by
  rw [words, pieces_eq_singleton h, List.filter_cons_of_pos]
  · rfl
  · simp [hne]

/-! ## Texts of one line -/

theorem joinReturnFeed_eq_self {cs : List Char} (h : '\r' ∉ cs) : joinReturnFeed cs = cs := by
  induction cs with
  | nil => rfl
  | cons c cs ih =>
    rw [List.mem_cons, not_or] at h
    rw [joinReturnFeed, List.foldr_cons, ← joinReturnFeed, ih h.2, if_neg]
    exact fun hreturn => h.1 hreturn.1.symm

/-- A text without line breaks is one line, if there is a text at all. -/
theorem lines_eq_singleton {cs : List Char} (hne : cs ≠ []) (h : cs.any isLineBreak = false) :
    lines cs = [cs] := by
  have hreturn : '\r' ∉ cs := fun hmem => List.any_eq_false.mp h '\r' hmem (by decide)
  rw [lines, joinReturnFeed_eq_self hreturn, endedBy, pieces_eq_singleton h]
  simp [hne]

/-! ## Texts one after the other

That the lines of two texts are those of the one and of the other needs a line to end in between,
and a pair must not be torn apart: of `\r` and `\n` each would be an end, and there would be an
empty line between them. `Between` says both, and by `between_feed` a line feed behind the first
text always makes it so. -/

/-- Between two texts a line ends: the first is empty or ends with a line break, and no pair of
    carriage return and line feed is torn apart. -/
def Between (front back : List Char) : Prop :=
  ∀ c ∈ front.getLast?, isLineBreak c = true ∧ ¬ (c = '\r' ∧ back.head? = some '\n')

theorem between_feed (front back : List Char) : Between (front ++ ['\n']) back := by
  intro c hc
  rw [List.getLast?_concat] at hc
  rw [← Option.some.inj hc]
  exact ⟨by decide, fun hpair => absurd hpair.1 (by decide)⟩

theorem joinReturnFeed_cons (c : Char) (cs : List Char) : joinReturnFeed (c :: cs) =
    if c = '\r' ∧ (joinReturnFeed cs).head? = some '\n' then c :: (joinReturnFeed cs).tail
    else c :: joinReturnFeed cs := by
  rw [joinReturnFeed, List.foldr_cons, ← joinReturnFeed]

theorem joinReturnFeed_singleton (c : Char) : joinReturnFeed [c] = [c] := by
  rw [joinReturnFeed_cons, if_neg]
  · rfl
  · exact fun h => nomatch h.2

/-- Joining never takes the first character away, so whether a pair begins can be told from the
    text as it was. -/
theorem exists_joinReturnFeed_cons (c : Char) (cs : List Char) :
    ∃ rest, joinReturnFeed (c :: cs) = c :: rest := by
  rw [joinReturnFeed_cons]
  split
  · exact ⟨_, rfl⟩
  · exact ⟨_, rfl⟩

theorem head?_joinReturnFeed (cs : List Char) : (joinReturnFeed cs).head? = cs.head? := by
  cases cs with
  | nil => rfl
  | cons c cs =>
    obtain ⟨rest, hrest⟩ := exists_joinReturnFeed_cons c cs
    rw [hrest]
    rfl

/-- A pair is joined within one of the texts, or not at all. -/
theorem joinReturnFeed_append {front back : List Char} (h : Between front back) :
    joinReturnFeed (front ++ back) = joinReturnFeed front ++ joinReturnFeed back := by
  induction front with
  | nil => rfl
  | cons c front ih =>
    rw [List.cons_append, joinReturnFeed_cons]
    cases front with
    | nil =>
      -- the last character of the first text meets the second here, and makes no pair
      rw [joinReturnFeed_singleton, List.nil_append, if_neg]
      · rfl
      · rw [head?_joinReturnFeed]
        exact (h c rfl).2
    | cons d front =>
      have hrest : Between (d :: front) back := fun e he => h e (by rwa [List.getLast?_cons_cons])
      obtain ⟨rest, hjoined⟩ := exists_joinReturnFeed_cons d front
      rw [joinReturnFeed_cons c, ih hrest, hjoined, List.cons_append, List.head?_cons,
        List.head?_cons]
      split <;> rfl

/-- What ends with a line break still does when the pairs are joined. -/
theorem getLast?_joinReturnFeed {cs : List Char}
    (h : ∀ c ∈ cs.getLast?, isLineBreak c = true) :
    ∀ c ∈ (joinReturnFeed cs).getLast?, isLineBreak c = true := by
  induction cs with
  | nil => exact h
  | cons c cs ih =>
    cases cs with
    | nil => rwa [joinReturnFeed_singleton]
    | cons d cs =>
      have hcs := ih fun e he => h e (by rwa [List.getLast?_cons_cons])
      obtain ⟨rest, hjoined⟩ := exists_joinReturnFeed_cons d cs
      rw [hjoined] at hcs
      rw [joinReturnFeed_cons, hjoined]
      split
      case isFalse => rwa [List.getLast?_cons_cons]
      case isTrue hpair =>
        rw [List.tail_cons]
        cases rest with
        | nil =>
          -- the pair stood at the end, so the carriage return does now
          intro e he
          rw [← Option.some.inj he, hpair.1]
          decide
        | cons f rest =>
          rw [List.getLast?_cons_cons] at hcs ⊢
          exact hcs

theorem endedBy_eq (p : α → Bool) (xs : List α) : endedBy p xs =
    if ((pieces p xs).getLast?.getD []).isEmpty then (pieces p xs).dropLast else pieces p xs := by
  obtain ⟨first, rest, hpieces⟩ := List.exists_cons_of_ne_nil (pieces_ne_nil p xs)
  rw [endedBy, hpieces]

/-- With an end behind it a text has as many stretches as pieces: the empty piece that comes
    after is left out. -/
theorem endedBy_snoc {x : α} (hx : p x = true) (xs : List α) :
    endedBy p (xs ++ [x]) = pieces p xs := by
  have hlast : pieces p ([] : List α) = [[]] := rfl
  rw [endedBy_eq, pieces_append_of_pos hx, hlast, List.getLast?_concat, List.dropLast_concat]
  rfl

/-- Behind an end the stretches begin anew. -/
theorem endedBy_append {xs : List α} (h : ∀ x ∈ xs.getLast?, p x = true) (ys : List α) :
    endedBy p (xs ++ ys) = endedBy p xs ++ endedBy p ys := by
  rcases List.eq_nil_or_concat xs with rfl | ⟨init, x, hxs⟩
  · rfl
  · rw [List.concat_eq_append] at hxs
    subst hxs
    have hx : p x = true := h x List.getLast?_concat
    have hlast := List.getLast?_eq_some_getLast (pieces_ne_nil p ys)
    rw [endedBy_snoc hx, List.append_assoc, List.singleton_append, endedBy_eq, endedBy_eq,
      pieces_append_of_pos hx, List.getLast?_append, hlast, Option.some_or,
      List.dropLast_append_of_ne_nil (pieces_ne_nil p ys)]
    split <;> rfl

/-- The lines of two texts between which a line ends are those of the one and those of the
    other. -/
theorem lines_append {front back : List Char} (h : Between front back) :
    lines (front ++ back) = lines front ++ lines back := by
  have hlast := getLast?_joinReturnFeed fun c hc => (h c hc).1
  rw [lines, joinReturnFeed_append h, endedBy_append hlast, ← lines, ← lines]

/-- A line feed behind a text is one character more, or joins a carriage return at its end. -/
theorem joinReturnFeed_feed (cs : List Char) :
    joinReturnFeed (cs ++ ['\n']) = joinReturnFeed cs ++ ['\n'] ∨
      joinReturnFeed (cs ++ ['\n']) = joinReturnFeed cs := by
  induction cs with
  | nil => exact Or.inl rfl
  | cons c cs ih =>
    rw [List.cons_append, joinReturnFeed_cons, joinReturnFeed_cons c cs]
    rcases ih with hfeed | hpair
    case inr => exact Or.inr (by rw [hpair])
    case inl =>
      rw [hfeed]
      cases cs with
      | nil =>
        -- the line feed is the next character: it makes a pair with a carriage return
        by_cases hc : c = '\r'
        · exact Or.inr (by rw [hc]; rfl)
        · rw [if_neg fun h => hc h.1, if_neg fun h => hc h.1]
          exact Or.inl rfl
      | cons d cs =>
        obtain ⟨rest, hjoined⟩ := exists_joinReturnFeed_cons d cs
        rw [hjoined, List.cons_append, List.head?_cons, List.head?_cons]
        split
        · exact Or.inl rfl
        · exact Or.inl rfl

/-- Pieces and stretches differ by an empty piece at the end, if at all. -/
theorem pieces_eq_endedBy (p : α → Bool) (xs : List α) :
    pieces p xs = endedBy p xs ∨ pieces p xs = endedBy p xs ++ [[]] := by
  rw [endedBy_eq]
  split
  case isFalse => exact Or.inl rfl
  case isTrue h =>
    have hlast := List.getLast?_eq_some_getLast (pieces_ne_nil p xs)
    rw [hlast, Option.getD_some, List.isEmpty_iff] at h
    have hall := List.dropLast_concat_getLast (pieces_ne_nil p xs)
    rw [h] at hall
    exact Or.inr hall.symm

/-- A line feed at the end begins no line; it may only end an empty one. -/
theorem lines_feed (cs : List Char) :
    lines (cs ++ ['\n']) = lines cs ∨ lines (cs ++ ['\n']) = lines cs ++ [[]] := by
  rw [lines, lines]
  rcases joinReturnFeed_feed cs with hfeed | hpair
  · rw [hfeed, endedBy_snoc (by decide)]
    exact pieces_eq_endedBy isLineBreak (joinReturnFeed cs)
  · exact Or.inl (by rw [hpair])

theorem lines_ended {cs : List Char} (h : cs.any isLineBreak = false) :
    lines (cs ++ ['\n']) = [cs] := by
  have hreturn : '\r' ∉ cs ++ ['\n'] := by
    rw [List.mem_append, not_or]
    exact ⟨fun hmem => List.any_eq_false.mp h '\r' hmem (by decide), by decide⟩
  rw [lines, joinReturnFeed_eq_self hreturn, endedBy_snoc (by decide), pieces_eq_singleton h]

end Flowmeter.Text
