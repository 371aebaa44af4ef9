import Mathlib
import SimEngine.Number.Decimal

/-!
# The values of doubles

A finite double is a whole number of at most 53 bits times a power of two.  The
doubles in their order are such that none lies between a double and the one with
the next mantissa.  The parts that are read off the bits of a double are those
that the arithmetic on doubles works on, and a result is written into bits from
which the same parts are read again.

**Definitions.**
* `Canonical`: the mantissas and exponents of finite doubles.
* `dyadic`, `Binary.magnitude`: the number that they write.

**Results.**
* `Canonical.succ_le`: no double lies between two neighbours.
* `ofFloat_of_unpack`: the parts of a positive double.
* `unpack_pack`: parts that are written are read again.
* `unpack_of_pos`: a positive double is finite or infinite.
-/

namespace SimEngine

open Float.Model (Format UnpackedFloat)

/--
The mantissas and exponents of the finite doubles.  The mantissa has no more than 53 bits, and fewer
of them only at the least exponent, so that no number is written twice.
-/
structure Canonical (mantissa : Nat) (exponent : Int) : Prop where
  fits : mantissa < 2 ^ 53
  low : -1074 ≤ exponent
  high : exponent ≤ 971
  full : 2 ^ 52 ≤ mantissa ∨ exponent = -1074

/-- The number that a mantissa and an exponent write. -/
def dyadic (mantissa : Nat) (exponent : Int) : ℚ :=
  mantissa * 2 ^ exponent

/-- The number that the parts of a double write, without its sign. -/
def Binary.magnitude (b : Binary) : ℚ :=
  dyadic b.mantissa b.exponent

section Dyadic

variable {m n : Nat} {e f : Int}

theorem zpow_pos_two (e : Int) : (0 : ℚ) < 2 ^ e :=
  zpow_pos (by norm_num) e

theorem dyadic_le (hmn : m ≤ n) (hef : e ≤ f) : dyadic m e ≤ dyadic n f := by
  have hpow : (2 : ℚ) ^ e ≤ 2 ^ f := zpow_le_zpow_right₀ (by norm_num) hef
  have hcast : (m : ℚ) ≤ n := by exact_mod_cast hmn
  exact mul_le_mul hcast hpow (zpow_pos_two e).le (Nat.cast_nonneg n)

theorem dyadic_lt_iff : dyadic m e < dyadic n e ↔ m < n := by
  rw [dyadic, dyadic, mul_lt_mul_iff_left₀ (zpow_pos_two e), Nat.cast_lt]

theorem dyadic_le_iff : dyadic m e ≤ dyadic n e ↔ m ≤ n := by
  rw [dyadic, dyadic, mul_le_mul_iff_left₀ (zpow_pos_two e), Nat.cast_le]

/-- The same number at a lower exponent. -/
theorem dyadic_lower (m : Nat) (e : Int) (k : Nat) : dyadic (m * 2 ^ k) e = dyadic m (e + k) := by
  rw [dyadic, dyadic, zpow_add₀ (by norm_num), zpow_natCast]
  push_cast
  ring

theorem dyadic_mul (m n : Nat) (e f : Int) : dyadic m e * dyadic n f = dyadic (m * n) (e + f) := by
  rw [dyadic, dyadic, dyadic, zpow_add₀ (by norm_num)]
  push_cast
  ring

theorem dyadic_pos (hm : 0 < m) (e : Int) : 0 < dyadic m e :=
  mul_pos (Nat.cast_pos.2 hm) (zpow_pos_two e)

theorem dyadic_two_pow (k : Nat) : dyadic (2 ^ k) (-k) = 1 := by
  rw [← one_mul (2 ^ k), dyadic_lower, neg_add_cancel, dyadic]
  simp

/-- A number is below the inverse of another if the product is at most one. -/
theorem le_inverse {k a : Nat} {g : Int} (hm : 0 < m) (hle : dyadic m e ≤ dyadic n f)
    (hk : g + f = -k) (ha : a * n ≤ 2 ^ k) : dyadic a g ≤ (dyadic m e)⁻¹ := by
  rw [← one_div, le_div_iff₀ (dyadic_pos hm e)]
  calc dyadic a g * dyadic m e ≤ dyadic a g * dyadic n f :=
        mul_le_mul_of_nonneg_left hle (mul_nonneg (Nat.cast_nonneg a) (zpow_pos_two g).le)
    _ = dyadic (a * n) (-k) := by rw [dyadic_mul, hk]
    _ ≤ dyadic (2 ^ k) (-k) := dyadic_le_iff.2 ha
    _ = 1 := dyadic_two_pow k

/-- A number is above the inverse of another if the product is more than one. -/
theorem inverse_lt {k a : Nat} {g : Int} (hm : 0 < m) (hle : dyadic n f ≤ dyadic m e)
    (hk : g + f = -k) (ha : 2 ^ k < a * n) : (dyadic m e)⁻¹ < dyadic a g := by
  rw [← one_div, div_lt_iff₀ (dyadic_pos hm e)]
  calc 1 = dyadic (2 ^ k) (-k) := (dyadic_two_pow k).symm
    _ < dyadic (a * n) (-k) := dyadic_lt_iff.2 ha
    _ = dyadic a g * dyadic n f := by rw [dyadic_mul, hk]
    _ ≤ dyadic a g * dyadic m e :=
        mul_le_mul_of_nonneg_left hle (mul_nonneg (Nat.cast_nonneg a) (zpow_pos_two g).le)

/-- A number with all its bits is above those at lower exponents. -/
theorem dyadic_lt_of_full (hm : m < 2 ^ 53) (hn : 2 ^ 52 ≤ n) (hef : e < f) :
    dyadic m e < dyadic n f := by
  calc dyadic m e < dyadic (2 ^ 52 * 2 ^ 1) e := dyadic_lt_iff.2 (by omega)
    _ = dyadic (2 ^ 52) (e + 1) := dyadic_lower _ _ 1
    _ ≤ dyadic n f := dyadic_le hn (by omega)

/--
**No double lies between two neighbours.**  A number with at most 53 bits that is above one with 53
bits, or with fewer at the least exponent, is at or above the one after it.
-/
theorem dyadic_succ_le
    (hn : n < 2 ^ 53) (hf : -1074 ≤ f) (hm : 2 ^ 52 ≤ m ∨ e = -1074)
    (hlt : dyadic m e < dyadic n f) : dyadic (m + 1) e ≤ dyadic n f := by
  rcases le_or_gt e f with hle | hgt
  · -- Both are whole multiples of the lower power.
    obtain ⟨k, rfl⟩ := Int.le.dest hle
    rw [← dyadic_lower] at hlt ⊢
    exact dyadic_le_iff.2 (dyadic_lt_iff.1 hlt)
  · exact absurd hlt (dyadic_lt_of_full hn (by omega) hgt).not_gt

namespace Canonical

theorem of_full (hfull : 2 ^ 52 ≤ m) (hfits : m < 2 ^ 53) (hlow : -1074 ≤ e) (hhigh : e ≤ 971) :
    Canonical m e :=
  ⟨hfits, hlow, hhigh, Or.inl hfull⟩

/-- A double above another one is at or above the next. -/
theorem succ_le (h : Canonical m e) (h' : Canonical n f) (hlt : dyadic m e < dyadic n f) :
    dyadic (m + 1) e ≤ dyadic n f :=
  dyadic_succ_le h'.fits h'.low h.full hlt

/-- A number is written in one way. -/
theorem ext (h : Canonical m e) (h' : Canonical n f) (hn : 2 ^ 52 ≤ n)
    (heq : dyadic m e = dyadic n f) : m = n ∧ e = f := by
  rcases lt_trichotomy e f with hlt | rfl | hgt
  · exact absurd heq (dyadic_lt_of_full h.fits hn hlt).ne
  · refine ⟨?_, rfl⟩
    exact le_antisymm (dyadic_le_iff.1 heq.le) (dyadic_le_iff.1 heq.ge)
  · have hfull := h.full
    have hlow := h'.low
    exact absurd heq (dyadic_lt_of_full h'.fits (by omega) hgt).ne'

theorem le_greatest (h : Canonical m e) : dyadic m e ≤ dyadic (2 ^ 53 - 1) 971 :=
  dyadic_le (Nat.le_sub_one_of_lt h.fits) h.high

end Canonical

end Dyadic

section Parts

theorem toNat_unpackExponent (b : BitVec Format.binary64.numBits) :
    (UnpackedFloat.unpackExponent b).toNat = b.toNat / Nat.pow 2 52 % Nat.pow 2 11 := by
  simp [UnpackedFloat.unpackExponent, BitVec.extractLsb_toNat, Nat.shiftRight_eq_div_pow]

theorem toNat_unpackMantissa (b : BitVec Format.binary64.numBits) :
    (UnpackedFloat.unpackMantissa b).toNat = b.toNat % Nat.pow 2 52 := by
  simp [UnpackedFloat.unpackMantissa, BitVec.extractLsb_toNat]

theorem toNat_one_append (v : BitVec 52) : (1#1 ++ v).toNat = 2 ^ 52 + v.toNat := by
  rw [BitVec.toNat_append, ← Nat.shiftLeft_add_eq_or_of_lt v.isLt]
  rfl

theorem lt_of_positive
    {b : BitVec Format.binary64.numBits}
    (h : UnpackedFloat.Sign.ofBitVec (UnpackedFloat.unpackSign b) = .positive) :
    b.toNat < Nat.pow 2 63 := by
  have hlt : b.toNat < 2 ^ 64 := b.isLt
  unfold UnpackedFloat.Sign.ofBitVec at h
  split at h
  · rename_i hzero
    have hbit := congrArg BitVec.toNat hzero
    simp [UnpackedFloat.unpackSign, BitVec.extractLsb_toNat, Nat.shiftRight_eq_div_pow] at hbit
    simp only [Nat.pow_eq, Nat.reducePow] at hlt ⊢
    omega
  · cases h

/-- The parts of a finite double, read off its bits. -/
theorem parts_of_unpack
    {b : BitVec Format.binary64.numBits} {sign : UnpackedFloat.Sign} {m : Nat} {e : Int}
    {hm : 0 < m} (h : UnpackedFloat.unpack Format.binary64 b = .finite sign m e hm) :
    UnpackedFloat.Sign.ofBitVec (UnpackedFloat.unpackSign b) = sign ∧
    ((b.toNat / Nat.pow 2 52 % Nat.pow 2 11 = 0 ∧ m = b.toNat % Nat.pow 2 52 ∧ e = -1074) ∨
      (0 < b.toNat / Nat.pow 2 52 % Nat.pow 2 11 ∧ b.toNat / Nat.pow 2 52 % Nat.pow 2 11 < 2047 ∧
        m = Nat.pow 2 52 + b.toNat % Nat.pow 2 52 ∧
        e = (b.toNat / Nat.pow 2 52 % Nat.pow 2 11 : Nat) - 1075)) := by
  rw [← toNat_unpackExponent, ← toNat_unpackMantissa]
  have hlt := (UnpackedFloat.unpackExponent b).isLt
  unfold UnpackedFloat.unpack at h
  dsimp only at h
  split at h
  · split at h <;> cases h
  · rename_i hfinite
    split at h
    · rename_i hzero
      split at h
      · cases h
      · cases h
        refine ⟨rfl, Or.inl ?_⟩
        simp [hzero, Format.exponentBias]
    · rename_i hnonzero
      cases h
      have hpositive : (UnpackedFloat.unpackExponent b).toNat ≠ 0 :=
        fun hzero => hnonzero (BitVec.eq_of_toNat_eq hzero)
      have hbelow : (UnpackedFloat.unpackExponent b).toNat ≠ 2047 :=
        fun htop => hfinite (BitVec.eq_of_toNat_eq htop)
      refine ⟨rfl, Or.inr ⟨by omega, ?_, toNat_one_append _, ?_⟩⟩
      · simp only [Nat.reducePow] at hlt
        omega
      · simp [Format.exponentBias]

/-- A finite double that is positive holds the parts that it is unpacked to. -/
theorem ofFloat_of_unpack
    {x : Float} {m : Nat} {e : Int} {hm : 0 < m}
    (h : x.toModel.unpack = .finite .positive m e hm) :
    Binary.ofFloat x = ⟨false, m, e⟩ ∧ Canonical m e := by
  have hbits : x.toBits.toNat = x.toModel.toBits.toBitVec.toNat := rfl
  have hfraction : x.toModel.toBits.toBitVec.toNat % Nat.pow 2 52 < 2 ^ 52 :=
    Nat.mod_lt _ (by decide)
  obtain ⟨hsign, hparts⟩ := parts_of_unpack h
  have hpositive := Nat.not_le.2 (lt_of_positive hsign)
  rcases hparts with ⟨hfield, rfl, rfl⟩ | ⟨hsome, hbelow, rfl, rfl⟩
  · refine ⟨?_, by omega, by omega, by omega, Or.inr rfl⟩
    simp only [Binary.ofFloat, hbits, hfield, if_pos, hpositive, decide_false]
  · refine ⟨?_, ?_, by omega, by omega, Or.inl (Nat.le_add_right _ _)⟩
    · simp only [Binary.ofFloat, hbits, if_neg hsome.ne', hpositive, decide_false]
    · simp only [Nat.pow_eq] at hfraction ⊢
      omega

theorem pack_finite (sign : UnpackedFloat.Sign) {m : Nat} (e : Int) (hm : 0 < m) :
    UnpackedFloat.pack Format.binary64 (.finite sign m e hm) =
      if 971 < e then UnpackedFloat.packedInfinity Format.binary64 sign
      else if m.log2 = 52 then
        UnpackedFloat.packComponents Format.binary64 sign (BitVec.ofNat 11 (e + 1075).toNat)
          (BitVec.ofNat 52 m)
      else UnpackedFloat.packComponents Format.binary64 sign 0 (BitVec.ofNat 52 m) := by
  have hfield : e + Format.binary64.exponentBias + (52 : Nat) = e + 1075 := by
    simp [Format.exponentBias]
    omega
  rw [UnpackedFloat.pack.eq_def]
  simp only [hfield]
  refine if_congr ?_ rfl (if_congr ?_ rfl rfl)
  · simp only [Nat.reducePow]
    omega
  · simp [Format.mantissaBits]

theorem unpack_subnormal
    (sign : UnpackedFloat.Sign) {m : Nat} (hm : 0 < m) (hlt : m < 2 ^ 52) :
    UnpackedFloat.unpack Format.binary64
      (UnpackedFloat.packComponents Format.binary64 sign 0 (BitVec.ofNat 52 m)) =
      .finite sign m (-1074) hm := by
  have hvalue : (BitVec.ofNat 52 m).toNat = m := by
    rw [BitVec.toNat_ofNat, Nat.mod_eq_of_lt hlt]
  have hsome : BitVec.ofNat 52 m ≠ 0#52 := by
    intro hzero
    rw [hzero] at hvalue
    exact hm.ne hvalue
  unfold UnpackedFloat.unpack
  simp only [UnpackedFloat.unpackExponent_packComponents,
    UnpackedFloat.unpackMantissa_packComponents, UnpackedFloat.unpackSign_packComponents,
    UnpackedFloat.Sign.ofBitVec_toBitVec]
  simp [hsome, hvalue, Format.exponentBias]

theorem unpack_normal
    (sign : UnpackedFloat.Sign) {m field : Nat} (hm : 0 < m) (hfull : 2 ^ 52 ≤ m)
    (hfits : m < 2 ^ 53) (hpositive : 0 < field) (hlt : field < 2047) :
    UnpackedFloat.unpack Format.binary64 (UnpackedFloat.packComponents Format.binary64 sign
      (BitVec.ofNat 11 field) (BitVec.ofNat 52 m)) = .finite sign m (field - 1075) hm := by
  have hfield : (BitVec.ofNat 11 field).toNat = field := by
    rw [BitVec.toNat_ofNat]
    omega
  have hmantissa : (1#1 ++ BitVec.ofNat 52 m).toNat = m := by
    rw [toNat_one_append, BitVec.toNat_ofNat]
    omega
  have hsome : BitVec.ofNat 11 field ≠ 0#11 := by
    intro hzero
    rw [hzero] at hfield
    exact hpositive.ne hfield
  have hbelow : BitVec.ofNat 11 field ≠ -1#11 := by
    intro htop
    rw [htop] at hfield
    exact hlt.ne' hfield
  unfold UnpackedFloat.unpack
  simp only [UnpackedFloat.unpackExponent_packComponents,
    UnpackedFloat.unpackMantissa_packComponents, UnpackedFloat.unpackSign_packComponents,
    UnpackedFloat.Sign.ofBitVec_toBitVec, if_neg hbelow, if_neg hsome, hfield, hmantissa]
  rfl

/-- What is packed from canonical parts is unpacked to them. -/
theorem unpack_pack
    {sign : UnpackedFloat.Sign} {m : Nat} {e : Int} (hm : 0 < m) (h : Canonical m e) :
    (Float.Model.pack (.finite sign m e hm)).unpack = .finite sign m e hm := by
  obtain ⟨hfits, hlow, hhigh, hfull⟩ := h
  rw [Float.Model.unpack, Float.Model.pack]
  simp only [pack_finite, if_neg (show ¬ 971 < e by omega)]
  by_cases hnormal : 2 ^ 52 ≤ m
  · have hlog : m.log2 = 52 := (Nat.log2_eq_iff hm.ne').2 ⟨hnormal, hfits⟩
    rw [if_pos hlog, unpack_normal sign hm hnormal hfits (by omega) (by omega)]
    congr 1
    omega
  · have hlog : m.log2 ≠ 52 := fun hlog =>
      hnormal ((Nat.log2_eq_iff hm.ne').1 hlog).1
    rw [if_neg hlog, unpack_subnormal sign hm (by omega)]
    congr 1
    omega

/-- What is packed from parts beyond the doubles is infinite. -/
theorem unpack_pack_of_large {sign : UnpackedFloat.Sign} {m : Nat} {e : Int} (hm : 0 < m)
    (h : 971 < e) : (Float.Model.pack (.finite sign m e hm)).unpack = .infinity sign := by
  rw [Float.Model.unpack, Float.Model.pack]
  simp only [pack_finite, if_pos h]
  cases sign <;> rfl

/-- An infinite double has the parts that come next after those of the greatest finite one. -/
theorem ofFloat_of_infinity {x : Float} (h : x.toModel.unpack = .infinity .positive) :
    Binary.ofFloat x = ⟨false, 2 ^ 52, 972⟩ := by
  have hbits : x.toBits.toNat = x.toModel.toBits.toBitVec.toNat := rfl
  unfold Float.Model.unpack UnpackedFloat.unpack at h
  dsimp only at h
  split at h
  · rename_i htop
    split at h
    · rename_i hzero
      have hfield := congrArg BitVec.toNat htop
      have hfraction := congrArg BitVec.toNat hzero
      rw [toNat_unpackExponent] at hfield
      rw [toNat_unpackMantissa] at hfraction
      have hsign := Nat.not_le.2 (lt_of_positive (UnpackedFloat.infinity.inj h))
      simp only [Binary.ofFloat, hbits, hfield, hfraction, hsign, decide_false]
      rfl
    · cases h
  · split at h
    · split at h <;> cases h
    · cases h

theorem unpack_of_pos {x : Float} (h : x > 0.0) :
    x.toModel.unpack = .infinity .positive ∨
      ∃ m e hm, x.toModel.unpack = .finite .positive m e hm := by
  have hlt : UnpackedFloat.lt (.zero .positive) x.toModel.unpack = true := of_decide_eq_true h
  cases hx : x.toModel.unpack with
  | notANumber =>
      rw [hx] at hlt
      cases hlt
  | zero sign =>
      rw [hx] at hlt
      cases hlt
  | infinity sign =>
      cases sign with
      | negative =>
          rw [hx] at hlt
          cases hlt
      | positive =>
          exact Or.inl rfl
  | finite sign m e hm =>
      cases sign with
      | negative =>
          rw [hx] at hlt
          cases hlt
      | positive =>
          exact Or.inr ⟨m, e, hm, rfl⟩

end Parts

end SimEngine
