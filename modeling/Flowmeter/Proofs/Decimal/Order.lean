import Flowmeter.Proofs.Decimal.Range
import Mathlib

/-!
# Which doubles are more than nought

A double that is not at most nought is more than nought or no number at all. The doubles of
positive whole numbers are more than nought: their words are those of normal doubles, and such a
word keeps its sign and its exponent on the way through the double.

A double is known here by its word of 64 bits and what it unpacks to, and comparing is defined on
the latter. For a test against nought the sign and the kind are enough. A positive whole number
becomes a word by rounding, and then a double by unpacking, packing and unpacking again: on this way
its significand could change, but sign and exponent do not, and the exponent of a whole number is
neither nought nor full.
-/

set_option autoImplicit false

namespace Flowmeter.Decimal

open Float.Model (Format UnpackedFloat)
open Float.Model.UnpackedFloat (Sign packComponents unpackSign unpackExponent unpackMantissa
  unpackExponent_packComponents unpackMantissa_packComponents)

/-! ## Comparing with nought

Each comparison is turned into one of unpacked numbers, and these are gone through by kind. -/

theorem unpack_zero : (0 : Float).toModel.unpack = .zero .positive := rfl

theorem le_zero_iff (x : Float) : x ≤ 0 ↔
    (x.toModel.unpack.compare (.zero .positive)).any (·.isLE) = true := by
  show x.le 0 = true ↔ _
  rw [Float.le]
  show decide (x.toModel.le (0 : Float).toModel = true) = true ↔ _
  rw [decide_eq_true_iff, Float.Model.le, unpack_zero, UnpackedFloat.le]

theorem zero_lt_iff (x : Float) : 0 < x ↔
    UnpackedFloat.compare (.zero .positive) x.toModel.unpack = some .lt := by
  show (0 : Float).lt x = true ↔ _
  rw [Float.lt]
  show decide ((0 : Float).toModel.lt x.toModel = true) = true ↔ _
  rw [decide_eq_true_iff, Float.Model.lt, unpack_zero, UnpackedFloat.lt, beq_iff_eq]

theorem isNaN_iff (x : Float) : x.isNaN = true ↔ x.toModel.unpack = .notANumber := by
  show x.toModel.unpack.isNaN = true ↔ _
  cases x.toModel.unpack <;> simp [UnpackedFloat.isNaN]

/-- What is not at most nought is more than nought, or no number. -/
theorem not_le_zero_iff (x : Float) : ¬ x ≤ 0 ↔ 0 < x ∨ x.isNaN = true := by
  rw [le_zero_iff, zero_lt_iff, isNaN_iff]
  cases x.toModel.unpack with
  | notANumber => simp [UnpackedFloat.compare]
  | infinity s => cases s <;> simp [UnpackedFloat.compare]
  | zero s => simp [UnpackedFloat.compare]
  | finite s m e h => cases s <;> simp [UnpackedFloat.compare]

/-- What is no number is on neither side. -/
theorem not_zero_lt_of_isNaN {x : Float} (h : x.isNaN = true) : ¬ 0 < x := by
  rw [zero_lt_iff, (isNaN_iff x).mp h]
  simp [UnpackedFloat.compare]

/-! ## Words of normal doubles

Sign, exponent and significand one by one. A format is kept as a variable as long as possible, since
52 bits in plain sight make every step slow. -/

/-- The sign is the last bit of the word. -/
theorem unpackSign_packComponents {spec : Format} (sign : Sign)
    (exponent : BitVec spec.exponentBits) (mantissa : BitVec spec.mantissaBitsWithoutImplicit) :
    unpackSign (packComponents spec sign exponent mantissa) = sign.toBitVec := by
  ext i hi
  obtain rfl : i = 0 := by omega
  simp [unpackSign, packComponents, BitVec.getLsbD_append, BitVec.getElem_append]

/-- A double without a sign whose exponent is neither full nor nought is more than nought. -/
theorem compare_zero_packComponents {spec : Format} {exponent : BitVec spec.exponentBits}
    (hfull : exponent ≠ -1#_) (hzero : exponent ≠ 0#_)
    (mantissa : BitVec spec.mantissaBitsWithoutImplicit) :
    UnpackedFloat.compare (.zero .positive)
      (UnpackedFloat.unpack spec (packComponents spec .positive exponent mantissa)) =
        some .lt := by
  rw [UnpackedFloat.unpack]
  simp only [unpackExponent_packComponents, unpackMantissa_packComponents,
    unpackSign_packComponents, hfull, hzero, if_false]
  rfl

/-- A full significand is packed with its exponent as it is. -/
theorem pack_normal (sign : Sign) {m : Nat} (h : 0 < m) (hm : m.log2 + 1 = 53) {e : Nat}
    (he : e < 2047) :
    UnpackedFloat.pack Format.binary64 (.finite sign m (e - (1023 + 52)) h) =
      packComponents Format.binary64 sign (BitVec.ofNat _ e) (BitVec.ofNat _ m) := by
  have hexponent : ((e : Int) - (1023 + 52) + Format.binary64.exponentBias +
      Format.binary64.mantissaBitsWithoutImplicit).toNat = e := by
    show ((e : Int) - (1023 + 52) + 1023 + 52).toNat = e
    omega
  have hfull : m.log2 + 1 = Format.binary64.mantissaBits := hm
  have hroom : ¬ 2 ^ Format.binary64.exponentBits ≤ e + 1 := by
    show ¬ 2 ^ 11 ≤ e + 1
    omega
  rw [UnpackedFloat.pack]
  simp only [hexponent]
  rw [if_neg hroom, if_pos hfull]

/-- With the hidden bit in front a significand has all of its 53 bits. -/
theorem log2_append_one (m : BitVec 52) : (1#1 ++ m).toNat.log2 + 1 = 53 := by
  have hm : m.toNat < 2 ^ 52 := m.isLt
  have hvalue : (1#1 ++ m).toNat = 2 ^ 52 + m.toNat := by
    rw [BitVec.toNat_append, ← Nat.shiftLeft_add_eq_or_of_lt hm]
    rfl
  have hlog : (1#1 ++ m).toNat.log2 = 52 := (Nat.log2_eq_iff (by omega)).mpr (by omega)
  rw [hlog]

/-- Packing what a normal word stands for keeps its sign and its exponent. -/
theorem pack_unpack {b : BitVec Format.binary64.numBits}
    (hfull : unpackExponent b ≠ -1#_) (hzero : unpackExponent b ≠ 0#_) : ∃ mantissa,
    UnpackedFloat.pack Format.binary64 (UnpackedFloat.unpack Format.binary64 b) =
      packComponents Format.binary64 (Sign.ofBitVec (unpackSign b)) (unpackExponent b)
        mantissa := by
  have hexponent : (unpackExponent b).toNat < 2047 := by
    have hne : (unpackExponent b).toNat ≠ 2047 := fun h => hfull (BitVec.eq_of_toNat_eq h)
    have hlt : (unpackExponent b).toNat < 2048 := (unpackExponent b).isLt
    omega
  refine ⟨BitVec.ofNat _ (1#1 ++ unpackMantissa b).toNat, ?_⟩
  rw [UnpackedFloat.unpack]
  simp only [hfull, hzero, if_false]
  exact (pack_normal _ _ (log2_append_one _) hexponent).trans (by
    rw [BitVec.ofNat_toNat, BitVec.setWidth_eq])

/-- The double of the word of a normal magnitude is more than nought. -/
theorem zero_lt_doubleOfWord {w : Nat} (hlow : Magnitude.leastFull ≤ w)
    (hhigh : w < Magnitude.infinityWord) : 0 < doubleOfWord false w := by
  have hleast : Magnitude.leastFull = 2 ^ 52 := rfl
  rw [hleast] at hlow
  rw [Magnitude.infinityWord, hleast] at hhigh
  -- a word without a sign has its exponent in front of the 52 bits of its significand
  have hexponent : (@unpackExponent Format.binary64 (BitVec.ofNat 64 w)).toNat = w / 2 ^ 52 := by
    show ((BitVec.ofNat 64 w).extractLsb 62 52).toNat = _
    rw [BitVec.extractLsb_toNat, BitVec.toNat_ofNat, Nat.shiftRight_eq_div_pow]
    omega
  have hsign : @unpackSign Format.binary64 (BitVec.ofNat 64 w) = 0#1 := by
    refine BitVec.eq_of_toNat_eq ?_
    show ((BitVec.ofNat 64 w).extractLsb 63 63).toNat = _
    rw [BitVec.extractLsb_toNat, BitVec.toNat_ofNat, Nat.shiftRight_eq_div_pow, BitVec.toNat_zero]
    omega
  have hfull : @unpackExponent Format.binary64 (BitVec.ofNat 64 w) ≠ -1#_ := fun h => by
    have hmax : w / 2 ^ 52 = 2047 := hexponent.symm.trans (congrArg BitVec.toNat h)
    omega
  have hzero : @unpackExponent Format.binary64 (BitVec.ofNat 64 w) ≠ 0#_ := fun h => by
    have hmin : w / 2 ^ 52 = 0 := hexponent.symm.trans (congrArg BitVec.toNat h)
    omega
  -- a double is packed once on its way in, which changes at most its significand
  obtain ⟨mantissa, hpack⟩ := pack_unpack hfull hzero
  rw [hsign] at hpack
  rw [zero_lt_iff]
  show UnpackedFloat.compare (.zero .positive) (UnpackedFloat.unpack Format.binary64
    (UnpackedFloat.pack Format.binary64 (UnpackedFloat.unpack Format.binary64
      (BitVec.ofNat 64 w)))) = some .lt
  rw [hpack]
  exact compare_zero_packComponents hfull hzero mantissa

/-! ## Whole numbers

They have a double just if it is within range, and a positive one if they are positive. -/

theorem isSome_doubleOfInt?_iff (n : Int) :
    (doubleOfInt? n).isSome = true ↔ n.natAbs < Magnitude.leastBeyond := by
  rw [doubleOfInt?, Option.isSome_map, Magnitude.isSome_ofNat?_iff]

/-- The double of a positive whole number is more than nought. -/
theorem zero_lt_of_doubleOfInt? {n : Int} {x : Float} (hpos : 0 < n)
    (h : doubleOfInt? n = some x) : 0 < x := by
  have hn : n.natAbs ≠ 0 := by omega
  have hsign : decide (n < 0) = false := decide_eq_false (by omega)
  rw [doubleOfInt?, Magnitude.ofNat?, Magnitude.nearest?, hsign] at h
  split at h
  case isTrue hfinite =>
    cases h
    have hfull : Magnitude.leastFull ≤ (Magnitude.nearestUnbounded n.natAbs 1).word := by
      rw [Magnitude.word, (Magnitude.nearestUnbounded_one hn).1]
      exact le_add_right (Nat.le_mul_of_pos_left _ (by omega))
    exact zero_lt_doubleOfWord hfull hfinite
  case isFalse => cases h

end Flowmeter.Decimal
