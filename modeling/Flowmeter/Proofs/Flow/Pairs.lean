import Flowmeter.Proofs.Flow.Line
import Flowmeter.Proofs.Text.Words
import Mathlib.Data.List.Basic

/-!
# Pairs of a key and a value

A token is a pair of a known key just if it begins with the key and an equality sign, and its
value is whatever follows; it may hold further equality signs, or be empty. So the pairs of a
line can be told by what their tokens begin with, without a cut and without a list of keys.

The reader cuts a token at its first equality sign and looks the front up among the keys. What is
proved here is that this comes to the same as comparing beginnings: a key holds no equality sign, so
where a token begins with `key=` the cut is behind the key. Statements about lines are made with
`occurrences`, in which there is no cut, and `values_eq_occurrences` is what ties them to the
reader.
-/

set_option autoImplicit false

namespace Flowmeter

open Flowmeter.Text Flowmeter.Decimal

/-! ## One token

A token is a pair or it is not, each with its exact condition. -/

/-- The pair of a key and a value, as it is written. -/
def Field.token (f : Field) (value : List Char) : Token :=
  f.key.toList ++ '=' :: value

namespace Field

/-- Every field is found by its own key. -/
theorem ofKey?_key (f : Field) : ofKey? f.key.toList = some f := by
  cases f <;> decide

/-- And by no other text. -/
theorem eq_key_of_ofKey? {cs : List Char} {f : Field} (h : ofKey? cs = some f) :
    cs = f.key.toList := by
  rw [ofKey?] at h
  have hspelt := List.find?_some h
  exact (eq_of_beq hspelt).symm

theorem not_mem_key (f : Field) : '=' ∉ f.key.toList := by
  cases f <;> decide

theorem mem_all (f : Field) : f ∈ all := by
  cases f <;> decide

/-- A pair can be written in one way only: field and value can be told from the token. -/
theorem token_inj {f g : Field} {value value' : List Char} :
    f.token value = g.token value' ↔ f = g ∧ value = value' := by
  constructor
  · intro h
    have hcut := congrArg (cutFirst (· == '=')) h
    unfold token at hcut
    rw [cutFirst_append_of_not_mem f.not_mem_key, cutFirst_append_of_not_mem g.not_mem_key,
      Prod.mk.injEq, Option.some.injEq] at hcut
    have hkey := congrArg ofKey? hcut.1
    rw [ofKey?_key, ofKey?_key, Option.some.injEq] at hkey
    exact ⟨hkey, hcut.2⟩
  · rintro ⟨rfl, rfl⟩
    rfl

end Field

namespace Token

variable {token : Token} {f : Field} {value : List Char}

theorem pair?_token (f : Field) (value : List Char) : pair? (f.token value) = some (f, value) := by
  rw [pair?, Field.token, cutFirst_append_of_not_mem f.not_mem_key]
  simp only [f.ofKey?_key, Option.map_some]

/-- A token is read as a pair just if it is written as this pair. -/
theorem pair?_eq_some_iff : token.pair? = some (f, value) ↔ token = f.token value := by
  constructor
  · intro h
    rw [pair?] at h
    split at h
    · cases h
    · next key rest hcut =>
      obtain ⟨g, hkey, hpair⟩ := Option.map_eq_some_iff.mp h
      cases hpair
      rw [eq_of_cutFirst_eq_some hcut, Field.token, Field.eq_key_of_ofKey? hkey]
  · rintro rfl
    exact pair?_token f value

/-- The token is no pair of a known key. -/
def IsOther (token : Token) : Prop :=
  ∀ (f : Field) (value : List Char), token ≠ f.token value

/-- It is read as none just if it is written as none. -/
theorem pair?_eq_none_iff : token.pair? = none ↔ token.IsOther := by
  constructor
  · rintro h f value rfl
    rw [pair?_token] at h
    cases h
  · intro h
    cases hpair : token.pair? with
    | none => rfl
    | some pair => exact absurd (pair?_eq_some_iff.mp hpair) (h pair.1 pair.2)

instance (token : Token) : Decidable token.IsOther :=
  decidable_of_iff (token.pair? = none) pair?_eq_none_iff

/-- Taking off the beginning of a pair leaves its value. -/
theorem dropPrefix?_eq_some_iff :
    token.dropPrefix? (f.token []) = some value ↔ token = f.token value := by
  rw [List.dropPrefix?_eq_some_iff, Field.token, Field.token]
  constructor
  · rintro ⟨front, rfl, hfront⟩
    rw [eq_of_beq hfront, List.append_assoc, List.singleton_append]
  · rintro rfl
    refine ⟨_, ?_, beq_self_eq_true _⟩
    rw [List.append_assoc, List.singleton_append]

end Token

/-! ## The tokens of a line

Of all tokens those are counted that begin the right way. -/

namespace Line

/-- What a line gives for a key: of every token that begins with the key and an equality sign,
    what follows them. -/
def occurrences (line : Line) (f : Field) : List (List Char) :=
  line.filterMap fun token => token.dropPrefix? (f.token [])

theorem values_eq_occurrences (line : Line) (f : Field) : line.values f = line.occurrences f := by
  unfold values occurrences
  refine List.filterMap_congr fun token _ => Option.ext fun value => ?_
  rw [Token.dropPrefix?_eq_some_iff, ← Token.pair?_eq_some_iff]
  -- both sides ask for a pair of this very field
  cases hpair : Token.pair? token with
  | none => simp
  | some pair =>
    obtain ⟨g, v⟩ := pair
    by_cases hg : g = f
    · simp [hg]
    · simp [hg]

theorem mem_occurrences {line : Line} {f : Field} {value : List Char} :
    value ∈ line.occurrences f ↔ f.token value ∈ line := by
  rw [occurrences, List.mem_filterMap]
  simp only [Token.dropPrefix?_eq_some_iff]
  constructor
  · rintro ⟨token, htoken, rfl⟩
    exact htoken
  · intro h
    exact ⟨_, h, rfl⟩

/-- A line is refused for a counter, wherever it stands and however often the key was given
    before. -/
theorem readable_iff_occurrences {line : Line} : line.Readable ↔
    ∀ f : Field, f.isCounter = true → ∀ value ∈ line.occurrences f,
      isCounterNumeral value = true → value.length ≤ 4300 := by
  unfold Readable
  constructor
  · intro h f hf value hvalue
    exact h _ (mem_occurrences.mp hvalue) (f, value) (Token.pair?_token f value) hf
  · intro h token htoken pair hpair hf
    obtain ⟨f, value⟩ := pair
    rw [Token.pair?_eq_some_iff.mp hpair] at htoken
    exact h f hf value (mem_occurrences.mpr htoken)

end Line

end Flowmeter
