import Flowmeter.Flow.Line

/-!
# Which lines are read

Reading a line is refused for one reason only, a counter with too many digits. Every other line
is read, and means what `Line.flow?` makes of it. The values that a line gives for a key are
described token by token, which is all that later modules use of how they are collected.

`described` is the flow that a line would be read as if nothing were asked of it. Reading is then a
matter of three questions in turn, and `read`, `accepted?` and `flow?` differ in which of them they
have asked: whether a counter is too long, whether the addresses are there, whether there is a first
token.
-/

set_option autoImplicit false

namespace Flowmeter

open Flowmeter.Decimal

namespace Line

/-- No packet or byte counter of the line is a numeral of more than 4300 digits. -/
def Readable (line : Line) : Prop :=
  ∀ token ∈ line, ∀ pair ∈ Token.pair? token, pair.1.isCounter = true →
    isCounterNumeral pair.2 = true → pair.2.length ≤ 4300

instance (line : Line) : Decidable line.Readable := by
  unfold Readable
  infer_instance

/-- The flow that reading a line yields, if it yields one. -/
def accepted? (line : Line) : Option Flow :=
  match line.read with
  | .ok flow => flow
  | .error _ => none

/-- Only numerals can be too long; what is none is read as nought. -/
theorem oversizedCounter?_eq_none_iff {cs : List Char} :
    oversizedCounter? cs = none ↔ (isCounterNumeral cs = true → cs.length ≤ 4300) := by
  rw [oversizedCounter?]
  cases isCounterNumeral cs with
  | true =>
    simp only [Bool.true_and, decide_eq_true_eq, ite_eq_right_iff, reduceCtorEq, imp_false,
      Nat.not_lt, forall_const]
    exact Iff.rfl
  | false => simp

variable {line : Line}

/-- No counter of the line is too long. -/
theorem oversized?_eq_none_iff : line.oversized? = none ↔ line.Readable := by
  rw [oversized?, List.findSome?_eq_none_iff, Readable]
  refine forall₂_congr fun token _ => ?_
  cases hpair : Token.pair? token with
  | none => simp
  | some pair =>
    obtain ⟨f, value⟩ := pair
    cases hcounter : f.isCounter with
    | true => simp [hcounter, oversizedCounter?_eq_none_iff]
    | false => simp [hcounter]

/-- A readable line is accepted as what it describes, or as nothing. -/
theorem accepted?_of_readable (h : line.Readable) : line.accepted? = line.flow? := by
  rw [accepted?, read, oversized?_eq_none_iff.mpr h]

theorem read_of_readable (h : line.Readable) : line.read = .ok line.accepted? := by
  rw [accepted?_of_readable h, read, oversized?_eq_none_iff.mpr h]

/-- A line that is not readable is refused, whatever else it says. -/
theorem read_of_not_readable (h : ¬ line.Readable) : ∃ fault, line.read = .error fault := by
  obtain ⟨fault, hfault⟩ :=
    Option.ne_none_iff_exists'.mp (fun hnone => h (oversized?_eq_none_iff.mp hnone))
  exact ⟨fault, by rw [read, hfault]⟩

/-- Reading a line yields a flow or nothing just if the line is readable. -/
theorem readable_iff_read : line.Readable ↔ ∃ flow?, line.read = .ok flow? := by
  refine ⟨fun h => ⟨_, read_of_readable h⟩, fun ⟨flow?, hflow⟩ => ?_⟩
  refine Decidable.byContradiction fun hno => ?_
  obtain ⟨fault, hfault⟩ := read_of_not_readable hno
  rw [hfault] at hflow
  cases hflow

/-- A line without words is read, and describes nothing. -/
theorem accepted?_nil : accepted? [] = none := rfl

/-! ## The flow of a line -/

/-- The flow that a line describes if it describes one. -/
def described (line : Line) : Flow where
  network := String.ofList (line.headD [])
  transport := String.ofList ((line.drop 2).headD [])
  original := line.endpoints 0
  reply := line.endpoints 1
  sent := line.traffic 0
  received := line.traffic 1

theorem headD_eq (tokens : Line) : tokens.headD [] = tokens[0]?.getD [] := by
  rw [List.headD_eq_head?_getD, List.head?_eq_getElem?]

theorem headD_drop_eq (tokens : Line) : (tokens.drop 2).headD [] = tokens[2]?.getD [] := by
  rw [List.headD_eq_head?_getD, List.head?_drop]

/-- The three tests in one condition. -/
theorem flow?_eq (line : Line) : line.flow? =
    if (line.headD []).isEmpty || (line.text .source 0).isEmpty ||
        (line.text .destination 0).isEmpty then none
    else some line.described := by
  cases line with
  | nil => rfl
  | cons network rest => rfl

/-! ## Values, token by token

How the values of a key are collected is not used beyond these three lemmas. -/

section Values

variable {token : Token} {f : Field}

theorem values_cons_of_pair {value : List Char} (h : token.pair? = some (f, value))
    (rest : Line) : values (token :: rest) f = value :: rest.values f := by
  unfold values
  rw [List.filterMap_cons, h]
  simp

theorem values_cons_of_other (h : ∀ value, token.pair? ≠ some (f, value)) (rest : Line) :
    values (token :: rest) f = rest.values f := by
  unfold values
  rw [List.filterMap_cons]
  cases hpair : token.pair? with
  | none => rfl
  | some pair =>
    obtain ⟨g, value⟩ := pair
    have hg : g ≠ f := by
      rintro rfl
      exact h value hpair
    simp [hg]

theorem values_append (line more : Line) (f : Field) :
    values (line ++ more) f = line.values f ++ more.values f :=
  List.filterMap_append

end Values

end Line

end Flowmeter
