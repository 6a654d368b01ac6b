import Flowmeter.Decimal.Notation

/-!
# What written numbers are made of

Whether a number is written positionally or with an exponent, its text holds digits, a point, the
sign and the mark of an exponent, and nothing else. So it can stand in any line without being
taken for a part of it.

This is all that the exposition needs to know of numbers, and far less than which number a text
stands for. It is what keeps the reader of the exposition apart from how numbers are written: a
change to the width of the window, or to how many digits an exponent has, leaves `IsNumberText` as
it is and so every lemma on lines that uses it.

The proof follows the writing. Digits are such a text, and so are noughts and the exponent; each
layout of them is put together from these by `IsNumberText.append`.
-/

set_option autoImplicit false

namespace Flowmeter.Decimal

/-- Whether a character may stand in a written number. -/
def isNumberChar (c : Char) : Bool :=
  c.isDigit || c == '.' || c == 'e' || c == '+' || c == '-'

theorem isNumberChar_of_isDigit {c : Char} (h : c.isDigit = true) : isNumberChar c = true := by
  unfold isNumberChar
  rw [h]
  rfl

/-- A text of which a written number may be made. -/
def IsNumberText (cs : List Char) : Prop := ∀ c ∈ cs, isNumberChar c = true

instance (cs : List Char) : Decidable (IsNumberText cs) :=
  decidable_of_iff (cs.all isNumberChar = true) List.all_eq_true

theorem IsNumberText.append {cs ds : List Char} (hcs : IsNumberText cs) (hds : IsNumberText ds) :
    IsNumberText (cs ++ ds) :=
  List.forall_mem_append.mpr ⟨hcs, hds⟩

/-! ## The parts -/

theorem isNumberText_toDigits (n : Nat) : IsNumberText (Nat.toDigits 10 n) := fun _ hc =>
  isNumberChar_of_isDigit (Nat.isDigit_of_mem_toDigits (by decide) (by decide) hc)

theorem isNumberText_toString (n : Nat) : IsNumberText (toString n).toList := by
  have htext : (toString n).toList = Nat.toDigits 10 n := by
    show (Nat.repr n).toList = _
    rw [Nat.repr, String.toList_ofList]
  rw [htext]
  exact isNumberText_toDigits n

theorem isNumberText_noughts (n : Nat) : IsNumberText (List.replicate n '0') := by
  intro c hc
  rw [List.eq_of_mem_replicate hc]
  rfl

theorem isNumberText_exponentText (e : Int) : IsNumberText (exponentText e).toList := by
  unfold exponentText
  dsimp only
  rw [String.toList_append, String.toList_append]
  refine .append (.append ?sign ?pad) (isNumberText_toString _)
  case sign => split <;> decide
  case pad => split <;> decide

/-! ## The whole -/

/-- Only the digits that are written have to be such a text; the rest is laid around them. -/
theorem Digits.isNumberText_write {d : Digits} (hd : IsNumberText d.digits) (window : Window) :
    IsNumberText (d.write window).toList := by
  have hbefore : ∀ n, IsNumberText (d.digits.take n) := fun n c hc =>
    hd c (List.mem_of_mem_take hc)
  have hafter : ∀ n, IsNumberText (d.digits.drop n) := fun n c hc =>
    hd c (List.mem_of_mem_drop hc)
  unfold write
  dsimp only
  -- four layouts: the point before the digits, behind them and noughts, or between them; or a
  -- single digit before it and an exponent
  split
  · split
    · simp only [String.toList_append, String.toList_ofList]
      exact .append (by decide) (.append (isNumberText_noughts _) hd)
    · split
      · simp only [String.toList_append, String.toList_ofList]
        exact .append (.append hd (isNumberText_noughts _)) (by decide)
      · simp only [String.toList_append, String.toList_ofList]
        exact .append (.append (hbefore _) (by decide)) (hafter _)
  · rw [String.toList_append]
    refine .append ?mantissa (isNumberText_exponentText _)
    case mantissa =>
      split
      · exact fun c hc => absurd hc List.not_mem_nil
      · rename_i first hdigits
        rw [String.toList_ofList, ← hdigits]
        exact hd
      · rename_i first rest _ hdigits
        rw [hdigits] at hd
        rw [String.toList_ofList]
        intro c hc
        rcases List.mem_cons.mp hc with rfl | hc
        · exact hd c (List.mem_cons_self ..)
        rcases List.mem_cons.mp hc with rfl | hc
        · decide
        · exact hd c (List.mem_cons_of_mem _ hc)

theorem Magnitude.isNumberText_shortest (x : Magnitude) : IsNumberText x.shortest.digits := by
  unfold shortest
  split
  · decide
  · intro c hc
    have hkept := (List.dropWhile_sublist _).subset (List.mem_reverse.mp hc)
    exact isNumberText_toDigits _ c (List.mem_reverse.mp hkept)

theorem Magnitude.isNumberText_write (x : Magnitude) (window : Window) :
    IsNumberText (x.write window).toList :=
  Digits.isNumberText_write x.isNumberText_shortest window

end Flowmeter.Decimal
