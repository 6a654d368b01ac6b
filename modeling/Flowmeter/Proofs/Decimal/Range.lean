import Mathlib.Tactic.Ring
import Flowmeter.Decimal.Binary64

/-!
# The whole numbers that doubles reach

A natural number is rounded to the nearest double, a half going to the even significand, and it
has one unless the rounding goes past the largest scale. So there is one threshold: numbers below
`Magnitude.leastBeyond`, the middle between the largest double and the next power of two, have a
double, and that number and all above it have none.

The powers of two in question have hundreds of digits, and nothing may compute them: `decide` on
such a number or a `simp` that unfolds it is past waiting for. So exponents are kept behind names
from the outside (`obtain ⟨e, he⟩`), the laws of powers do the work, and the one place where the
threshold is compared with its value is settled by the kernel.
-/

set_option autoImplicit false

namespace Flowmeter.Decimal

/-! ## Rounded quotients

A quotient is rounded by its remainder. To compare it with an odd number needs the cases only where
the quotient is that number: an odd one never gains from a half. -/

/-- The quotient rounds to no more than an odd number just if it lies below the middle between
    that number and the next, to which the middle itself goes. -/
theorem roundDiv_le_iff_of_odd {n d k : Nat} (hd : 0 < d) (hk : k % 2 = 1) :
    roundDiv n d ≤ k ↔ 2 * n < (2 * k + 1) * d := by
  have hdiv : d * (n / d) + n % d = n := Nat.div_add_mod n d
  have hmod : n % d < d := Nat.mod_lt n hd
  have hhalf : (2 * k + 1) * d = 2 * (d * k) + d := by ring
  rw [roundDiv, hhalf]
  generalize n / d = q at hdiv ⊢
  generalize n % d = r at hdiv hmod ⊢
  rcases Nat.lt_trichotomy q k with hlt | heq | hgt
  · -- a whole step below: even rounded up it does not pass
    have hstep : d * q + d ≤ d * k := by
      rw [← Nat.mul_succ]
      exact Nat.mul_le_mul_left d hlt
    refine ⟨fun _ => by omega, fun _ => ?_⟩
    split
    · omega
    · split
      · omega
      · split <;> omega
  · subst heq
    constructor
    · intro hle
      split at hle
      · omega
      · split at hle
        · omega
        · rw [if_neg (by omega)] at hle
          omega
    · intro hbelow
      rw [if_pos (by omega)]
  · have hstep : d * k + d ≤ d * q := by
      rw [← Nat.mul_succ]
      exact Nat.mul_le_mul_left d hgt
    refine ⟨fun hle => ?_, fun hbelow => by omega⟩
    split at hle
    · omega
    · split at hle
      · omega
      · split at hle <;> omega

/-! ## Scale and significand of a whole number

Every whole number from one on is normal, so its scale follows from its length in bits and its
significand is rounded to 53 of them. -/

theorem nat_pow_two (e : Nat) : Nat.pow 2 e = 2 ^ e := rfl

namespace Magnitude

/-- The least natural number that lies beyond the finite doubles: the middle between the largest
    of them, `(2 ^ 53 - 1) * 2 ^ 971`, and the next power of two. -/
def leastBeyond : Nat := (2 ^ 54 - 1) * Nat.pow 2 970

theorem leastBeyond_eq {e : Nat} (he : 970 = e) : leastBeyond = (2 ^ 54 - 1) * 2 ^ e := by
  rw [← nat_pow_two]
  subst he
  decide +kernel

/-- Multiplying by a power of two moves the leading bit and changes none. -/
theorem log2_mul_two_pow {n : Nat} (hn : n ≠ 0) (e : Nat) :
    (n * 2 ^ e).log2 = n.log2 + e := by
  have hpos : 0 < 2 ^ e := Nat.two_pow_pos e
  obtain ⟨hlow, hhigh⟩ := (Nat.log2_eq_iff hn).mp rfl
  refine (Nat.log2_eq_iff (Nat.mul_ne_zero hn hpos.ne')).mpr ⟨?_, ?_⟩
  · rw [Nat.pow_add]
    exact Nat.mul_le_mul_right _ hlow
  · rw [Nat.add_right_comm, Nat.pow_add]
    exact Nat.mul_lt_mul_of_pos_right hhigh hpos

theorem unit_eq_two_pow {e : Nat} (he : 1074 = e) : unit = 2 ^ e := by
  rw [← nat_pow_two]
  subst he
  decide +kernel

/-- A whole number has so many units that all digits of its significand are used. -/
theorem nearestUnbounded_one {n : Nat} (hn : n ≠ 0) :
    (nearestUnbounded n 1).scale = n.log2 + 1022 ∧
    (nearestUnbounded n 1).significand = roundDiv (n * unit) (2 ^ (n.log2 + 1022)) := by
  have hscale : (n * unit).log2 + 1 - 53 = n.log2 + 1022 := by
    obtain ⟨e, he⟩ : ∃ e, 1074 = e := ⟨_, rfl⟩
    rw [unit_eq_two_pow he, log2_mul_two_pow hn]
    omega
  constructor
  · rw [nearestUnbounded]
    simp only [Nat.div_one, hscale]
  · rw [nearestUnbounded]
    simp only [Nat.div_one, hscale, Nat.one_mul]
    rfl

/-- Where the significand of a whole number ends, in terms of that number. -/
theorem significand_le_iff {n k : Nat} (hn : n ≠ 0) (hk : k % 2 = 1) :
    (nearestUnbounded n 1).significand ≤ k ↔ n * 2 ^ 53 < (2 * k + 1) * 2 ^ n.log2 := by
  -- the exponent is kept behind a name, so that no such power is ever computed
  obtain ⟨e, he⟩ : ∃ e, 1022 = e := ⟨_, rfl⟩
  have hunit : unit = 2 ^ (52 + e) := unit_eq_two_pow (by omega)
  have hunits : 2 * (n * unit) = n * 2 ^ 53 * 2 ^ e := by
    rw [hunit, Nat.pow_add]
    ring
  rw [(nearestUnbounded_one hn).2, he, roundDiv_le_iff_of_odd (Nat.two_pow_pos _) hk, hunits,
    Nat.pow_add, ← Nat.mul_assoc]
  exact Nat.mul_lt_mul_right (Nat.two_pow_pos _)

/-! ## The threshold

Three cases by the leading bit: below the last binade there is room, above it there is none, and in
it the significand decides. -/

/-- A magnitude is finite just if its scale leaves room for its significand. -/
theorem word_lt_iff {n : Nat} (hn : n ≠ 0) : (nearestUnbounded n 1).word < infinityWord ↔
    n.log2 ≤ 1024 ∧ (nearestUnbounded n 1).significand ≤ (1025 - n.log2) * 2 ^ 52 - 1 := by
  have hfull : leastFull = 2 ^ 52 := rfl
  rw [word, (nearestUnbounded_one hn).1, infinityWord, hfull]
  generalize (nearestUnbounded n 1).significand = significand
  generalize n.log2 = l
  omega

/-- The middle before `2 ^ 1024` is the first number whose significand is rounded up too far. -/
theorem word_nearest_lt_iff {n : Nat} (hn : n ≠ 0) :
    (nearestUnbounded n 1).word < infinityWord ↔ n < leastBeyond := by
  obtain ⟨hlow, hhigh⟩ := (Nat.log2_eq_iff hn).mp rfl
  obtain ⟨e, he⟩ : ∃ e, 970 = e := ⟨_, rfl⟩
  have hpos : 0 < 2 ^ e := Nat.two_pow_pos e
  rw [word_lt_iff hn, leastBeyond_eq he]
  rcases Nat.lt_trichotomy n.log2 1023 with hless | heq | hmore
  · -- below `2 ^ 1023` there is room for any significand
    have hn' : n < 2 ^ (e + 53) :=
      hhigh.trans_le (Nat.pow_le_pow_right (by omega) (by omega))
    have hk : ((1025 - n.log2) * 2 ^ 52 - 1) % 2 = 1 := by omega
    have hsignificand : n * 2 ^ 53 < (2 * ((1025 - n.log2) * 2 ^ 52 - 1) + 1) * 2 ^ n.log2 := by
      have hroom : 2 ^ 54 ≤ 2 * ((1025 - n.log2) * 2 ^ 52 - 1) + 1 := by omega
      calc n * 2 ^ 53 < 2 ^ (n.log2 + 1) * 2 ^ 53 :=
            Nat.mul_lt_mul_of_pos_right hhigh (Nat.two_pow_pos 53)
        _ = 2 ^ 54 * 2 ^ n.log2 := by ring
        _ ≤ _ := Nat.mul_le_mul_right _ hroom
    rw [Nat.pow_add] at hn'
    exact ⟨fun _ => by omega, fun _ => ⟨by omega, (significand_le_iff hn hk).mpr hsignificand⟩⟩
  · have hlog : 2 ^ n.log2 = 2 ^ e * 2 ^ 53 := by rw [heq, ← Nat.pow_add, ← he]
    rw [significand_le_iff hn (by omega), hlog, heq]
    omega
  · -- from `2 ^ 1024` on the least significand of its digits is already too large
    have hn' : 2 ^ (e + 54) ≤ n :=
      (Nat.pow_le_pow_right (by omega) (by omega)).trans hlow
    rw [Nat.pow_add] at hn'
    refine ⟨fun ⟨hlog, hsignificand⟩ => ?_, fun hless => by omega⟩
    have heq : n.log2 = 1024 := by omega
    rw [heq, significand_le_iff hn (by omega)] at hsignificand
    omega

/-- The whole numbers that a finite double stands for, be it rounded. -/
theorem isSome_ofNat?_iff (n : Nat) : (ofNat? n).isSome = true ↔ n < leastBeyond := by
  rcases Nat.eq_zero_or_pos n with rfl | hpos
  · exact ⟨fun _ => by decide +kernel, fun _ => by decide +kernel⟩
  · rw [← word_nearest_lt_iff hpos.ne', ofNat?, nearest?]
    split
    · exact ⟨fun _ => ‹_›, fun _ => rfl⟩
    · exact ⟨fun h => by simp at h, fun h => absurd h ‹_›⟩

end Magnitude
end Flowmeter.Decimal
