import SimEngine.Proofs.Doubles

/-!
# Reciprocals of doubles

The quotient of one by a double is computed up to a unit, with what is known of
the rest, and then rounded.  Here only this matters of the rounding: it yields
the double below the exact quotient or the one above it.  So a double that is
at most the exact quotient is at most the computed one, and likewise for doubles
above it.

**Definitions.**
* `Floor`: the double below a number, or the number next in line.
* `Nearby`: what is known of a computed quotient.

**Results.**
* `exists_divCore`: the quotient up to a unit.
* `exists_rounded`: what it is rounded to.
* `nearby_inverse`: the quotient of one by a double.
-/

namespace SimEngine

open Float.Model (Format UnpackedFloat totalExponent)
open Float.Model.UnpackedFloat (Accuracy ExtendedMantissa)

section Rounding

theorem mantissa_shiftRight (em : ExtendedMantissa) (s : Nat) :
    (em >>> s).mantissa = em.mantissa / 2 ^ s := by
  induction s with
  | zero =>
      simp [HShiftRight.hShiftRight, Nat.repeat]
  | succ s ih =>
      have hstep : (em >>> (s + 1)).mantissa = (em >>> s).mantissa / 2 := rfl
      rw [hstep, ih, Nat.div_div_eq_div_mul, pow_succ]

theorem mantissa_ofMantissaAndAccuracy (m : Nat) (accuracy : Accuracy) :
    (ExtendedMantissa.ofMantissaAndAccuracy m accuracy).mantissa = m := by
  cases accuracy with
  | exact =>
      rfl
  | inexact o =>
      cases o <;> rfl

theorem roundedMantissa_bounds (em : ExtendedMantissa) :
    em.mantissa ≤ em.roundedMantissa ∧ em.roundedMantissa ≤ em.mantissa + 1 := by
  rcases em with ⟨m, r, s⟩
  cases r <;> cases s <;>
    simp [ExtendedMantissa.roundedMantissa, ExtendedMantissa.accuracy,
      Accuracy.roundToNearestEven]
  omega

theorem targetExponent_eq (m : Nat) (e : Int) :
    Format.binary64.targetExponent (totalExponent m e) = max (m.log2 + e - 52) (-1074) := by
  simp only [Format.targetExponent, totalExponent, Format.mantissaBits, Format.minExponent]
  norm_num
  omega

/-- A mantissa that fits is not shifted. -/
theorem shiftToTargetExponent_of_fits {m : Nat} {e : Int} (hm : m < 2 ^ 53) (he : -1074 ≤ e) :
    UnpackedFloat.shiftToTargetExponent Format.binary64 m e .exact = (⟨m, false, false⟩, e) := by
  have hlog : m.log2 ≤ 52 := by
    rcases Nat.eq_zero_or_pos m with rfl | hpos
    · decide
    · have := (Nat.log2_lt hpos.ne').2 hm
      omega
  have hshift : (max (m.log2 + e - 52) (-1074) - e).toNat = 0 := by omega
  rw [UnpackedFloat.shiftToTargetExponent, targetExponent_eq, UnpackedFloat.shiftToExponent]
  simp only [hshift]
  simp [HShiftRight.hShiftRight, Nat.repeat, ExtendedMantissa.ofMantissaAndAccuracy]

/-- A mantissa of one bit too many is shifted by one place. -/
theorem shiftToTargetExponent_of_carry {e : Int} (he : -1074 ≤ e) :
    UnpackedFloat.shiftToTargetExponent Format.binary64 (2 ^ 53) e .exact =
      (⟨2 ^ 52, false, false⟩, e + 1) := by
  have hshift : (max (((2 ^ 53 : Nat).log2 : Int) + e - 52) (-1074) - e).toNat = 1 := by
    rw [Nat.log2_two_pow]
    omega
  rw [UnpackedFloat.shiftToTargetExponent, targetExponent_eq, UnpackedFloat.shiftToExponent]
  simp only [hshift]
  rfl

/-- A mantissa as it is written after it was rounded, where it may have one bit too many. -/
def written (m : Nat) (e : Int) (hm : 0 < m) : UnpackedFloat :=
  if m < 2 ^ 53 then .finite .positive m e hm
  else .finite .positive (2 ^ 52) (e + 1) (by decide)

/-- What a number is rounded down to: the double below it, or a number beyond the doubles. -/
structure Floor (k : Nat) (f : Int) (v : ℚ) : Prop where
  positive : 0 < k
  fits : k < 2 ^ 53
  low : -1074 ≤ f
  full : 2 ^ 52 ≤ k ∨ f = -1074
  le : dyadic k f ≤ v
  lt : v < dyadic (k + 1) f

/--
A number that is known up to a unit is rounded to the double below it or the one above it, whatever
is known of the rest.
-/
theorem exists_rounded
    {p : Nat} {e : Int} {v : ℚ} (accuracy : Accuracy) (hp : 0 < p) (he : -1074 ≤ e)
    (hfull : 2 ^ 52 ≤ p ∨ e = -1074) (hle : dyadic p e ≤ v) (hlt : v < dyadic (p + 1) e) :
    ∃ k f r hr, Floor k f v ∧ (r = k ∨ r = k + 1) ∧
      UnpackedFloat.roundWithAccuracy Format.binary64 .positive p e accuracy = written r f hr := by
  obtain ⟨s, hs⟩ : ∃ s, s = (max (p.log2 + e - 52) (-1074) - e).toNat := ⟨_, rfl⟩
  obtain ⟨em, hem⟩ : ∃ em, em = ExtendedMantissa.ofMantissaAndAccuracy p accuracy >>> s := ⟨_, rfl⟩
  have hfirst : UnpackedFloat.shiftToTargetExponent Format.binary64 p e accuracy =
      (em, e + s) := by
    rw [UnpackedFloat.shiftToTargetExponent, targetExponent_eq, UnpackedFloat.shiftToExponent]
    simp only [← hs, ← hem]
  have hk : em.mantissa = p / 2 ^ s := by
    rw [hem, mantissa_shiftRight, mantissa_ofMantissaAndAccuracy]
  have hpow : 0 < 2 ^ s := Nat.two_pow_pos s
  have hfits : p / 2 ^ s < 2 ^ 53 := by
    rw [Nat.div_lt_iff_lt_mul hpow, ← pow_add]
    exact lt_of_lt_of_le Nat.lt_log2_self (Nat.pow_le_pow_right (by decide) (by omega))
  have hnormal : 2 ^ 52 ≤ p / 2 ^ s ∨ e + s = -1074 := by
    by_cases hlog : 52 ≤ p.log2
    · left
      have hs' : 52 + s = p.log2 := by omega
      rw [Nat.le_div_iff_mul_le hpow, ← pow_add, hs']
      exact Nat.log2_self_le hp.ne'
    · right
      have := hfull.resolve_left fun h => hlog ((Nat.le_log2 hp.ne').2 h)
      omega
  have hfloor : Floor (p / 2 ^ s) (e + s) v := by
    refine ⟨?_, hfits, by omega, hnormal, ?_, ?_⟩
    · rcases hnormal with hnormal | hleast
      · exact lt_of_lt_of_le (by decide) hnormal
      · obtain rfl : s = 0 := by omega
        simpa using hp
    · refine le_trans ?_ hle
      rw [← dyadic_lower]
      exact dyadic_le_iff.2 (Nat.div_mul_le_self p _)
    · refine lt_of_lt_of_le hlt ?_
      rw [← dyadic_lower]
      exact dyadic_le_iff.2 (Nat.lt_div_mul_add hpow |>.trans_eq (by ring))
  obtain ⟨hlow, hhigh⟩ := roundedMantissa_bounds em
  rw [hk] at hlow hhigh
  have hr : 0 < em.roundedMantissa := hfloor.positive.trans_le hlow
  refine ⟨_, _, em.roundedMantissa, hr, hfloor, by omega, ?_⟩
  rw [UnpackedFloat.roundWithAccuracy, hfirst]
  by_cases hsmall : em.roundedMantissa < 2 ^ 53
  · simp only [shiftToTargetExponent_of_fits hsmall hfloor.low, written, if_pos hsmall,
      dif_neg hr.ne']
  · have hcarry : em.roundedMantissa = 2 ^ 53 := by omega
    simp only [hcarry, shiftToTargetExponent_of_carry hfloor.low, written]
    rfl

end Rounding

/--
The quotient of one by a double, up to a unit: with all its bits, or at the least exponent.
-/
theorem exists_divCore {m : Nat} {e : Int} (hm : 0 < m) (h : Canonical m e) :
    ∃ p f accuracy, UnpackedFloat.divCore Format.binary64 (2 ^ 52) (-52) m e = (p, f, accuracy) ∧
      0 < p ∧ -1074 ≤ f ∧ (2 ^ 52 ≤ p ∨ f = -1074) ∧
      dyadic p f ≤ (dyadic m e)⁻¹ ∧ (dyadic m e)⁻¹ < dyadic (p + 1) f := by
  obtain ⟨hfits, hlow, hhigh, -⟩ := h
  have hlog : m.log2 ≤ 52 := by
    have := (Nat.log2_lt hm.ne').2 hfits
    omega
  obtain ⟨f, hf⟩ : ∃ f : Int, f = max (-m.log2 - e - 53) (-1074) := ⟨_, rfl⟩
  obtain ⟨s, hs⟩ : ∃ s : Nat, (s : Int) = -52 - e - f := ⟨(-52 - e - f).toNat, by omega⟩
  have hcore : UnpackedFloat.divCore Format.binary64 (2 ^ 52) (-52) m e = (2 ^ (52 + s) / m, f,
      UnpackedFloat.accuracyOfFraction (2 ^ (52 + s) % m) m) := by
    have htarget : min (-52 - e) (Format.binary64.targetExponent
        (totalExponent (2 ^ 52) (-52) - totalExponent m e)) = f := by
      have hone : ((2 ^ 52 : Nat).log2 : Int) = 52 := by
        rw [Nat.log2_two_pow]
        rfl
      simp only [Format.targetExponent, totalExponent, Format.mantissaBits, Format.minExponent,
        hone]
      norm_num
      omega
    have hshift : (-52 - e - f).toNat = s := by omega
    rw [UnpackedFloat.divCore]
    simp only [htarget, hshift, Nat.shiftLeft_eq, ← pow_add]
  have hquotient : ∀ k, k + m.log2 + 1 ≤ 52 + s → 2 ^ k ≤ 2 ^ (52 + s) / m := by
    intro k hk
    rw [Nat.le_div_iff_mul_le hm]
    calc 2 ^ k * m ≤ 2 ^ k * 2 ^ (m.log2 + 1) := Nat.mul_le_mul_left _ Nat.lt_log2_self.le
      _ = 2 ^ (k + m.log2 + 1) := by rw [← pow_add, add_assoc]
      _ ≤ 2 ^ (52 + s) := Nat.pow_le_pow_right (by decide) hk
  have hexponents : f + e = -(52 + s : Nat) := by omega
  refine ⟨_, f, _, hcore, hquotient 0 (by omega), by omega, ?_, ?_, ?_⟩
  · by_cases hleast : f = -1074
    · exact Or.inr hleast
    · exact Or.inl (hquotient 52 (by omega))
  · exact le_inverse hm le_rfl hexponents (Nat.div_mul_le_self _ m)
  · refine inverse_lt hm le_rfl hexponents ?_
    rw [add_mul, one_mul]
    exact Nat.lt_div_mul_add hm

/--
What is known of a double that stands for a number: that it is positive, and that no other double
lies between the two.
-/
structure Nearby (y : Float) (v : ℚ) : Prop where
  notNaN : y.isNaN = false
  negative : (Binary.ofFloat y).negative = false
  below : ∀ {m e}, Canonical m e → dyadic m e ≤ v →
    y.isInf = true ∨ dyadic m e ≤ (Binary.ofFloat y).magnitude
  above : ∀ {m e}, Canonical m e → v < dyadic m e →
    y.isInf = false ∧ (Binary.ofFloat y).magnitude ≤ dyadic m e

/-- What becomes of a rounded number: the double that it is, or infinity beyond the doubles. -/
theorem unpack_written
    {y : Float} {v : ℚ} {k r : Nat} {f : Int} {hr : 0 < r} (hfloor : Floor k f v)
    (hrounded : r = k ∨ r = k + 1) (hy : y.toModel = Float.Model.pack (written r f hr)) :
    (y.toModel.unpack = .infinity .positive ∧ dyadic (2 ^ 53 - 1) 971 ≤ dyadic k f) ∨
      ∃ m e hm, y.toModel.unpack = .finite .positive m e hm ∧ dyadic m e = dyadic r f := by
  obtain ⟨-, hfits, hlow, hfull, -, -⟩ := hfloor
  rw [hy, written]
  split
  · rename_i hsmall
    rcases le_or_gt f 971 with hle | hgt
    · exact Or.inr ⟨r, f, hr, unpack_pack hr ⟨hsmall, hlow, hle, by omega⟩, rfl⟩
    · refine Or.inl ⟨unpack_pack_of_large hr hgt, ?_⟩
      have hk : 2 ^ 52 ≤ k := by omega
      calc dyadic (2 ^ 53 - 1) 971 ≤ dyadic (2 ^ 52 * 2 ^ 1) 971 := dyadic_le (by decide) le_rfl
        _ = dyadic (2 ^ 52) 972 := dyadic_lower _ _ 1
        _ ≤ dyadic k f := dyadic_le hk (by omega)
  · obtain rfl : r = 2 ^ 53 := by omega
    rcases le_or_gt (f + 1) 971 with hle | hgt
    · refine Or.inr ⟨2 ^ 52, f + 1, by decide,
        unpack_pack _ ⟨by decide, by omega, hle, Or.inl le_rfl⟩, ?_⟩
      exact (dyadic_lower (2 ^ 52) f 1).symm
    · exact Or.inl ⟨unpack_pack_of_large _ hgt, dyadic_le (by omega) (by omega)⟩

theorem nearby_of_written
    {y : Float} {v : ℚ} {k r : Nat} {f : Int} (hr : 0 < r) (hfloor : Floor k f v)
    (hrounded : r = k ∨ r = k + 1) (hy : y.toModel = Float.Model.pack (written r f hr)) :
    Nearby y v := by
  have hisNaN : y.isNaN = y.toModel.unpack.isNaN := rfl
  have hisInf : y.isInf = y.toModel.unpack.isInf := rfl
  -- A double above the floor is at or above the next one.
  have hnext : ∀ {m e}, Canonical m e → dyadic k f < dyadic m e → dyadic (k + 1) f ≤ dyadic m e :=
    fun h => dyadic_succ_le h.fits h.low hfloor.full
  have hbelow : ∀ {m e}, Canonical m e → dyadic m e ≤ v → dyadic m e ≤ dyadic k f := by
    intro m e h hle
    by_contra hgt
    exact absurd (hfloor.lt.trans_le ((hnext h (not_le.1 hgt)).trans hle)) (lt_irrefl _)
  have hk : dyadic k f ≤ dyadic r f := dyadic_le_iff.2 (by omega)
  have hr' : dyadic r f ≤ dyadic (k + 1) f := dyadic_le_iff.2 (by omega)
  rcases unpack_written hfloor hrounded hy with ⟨hinf, hgreatest⟩ | ⟨m, e, hm, hfinite, hvalue⟩
  · refine ⟨by rw [hisNaN, hinf]; rfl, by rw [ofFloat_of_infinity hinf], ?_, ?_⟩
    · intro m e h hle
      exact Or.inl (by rw [hisInf, hinf]; rfl)
    · intro m e h hlt
      exact absurd (hlt.trans_le (h.le_greatest.trans hgreatest)) (not_lt_of_ge hfloor.le)
  · have hparts := (ofFloat_of_unpack hfinite).1
    have hmagnitude : (Binary.ofFloat y).magnitude = dyadic r f := by
      rw [hparts, ← hvalue]
      rfl
    refine ⟨by rw [hisNaN, hfinite]; rfl, by rw [hparts], ?_, ?_⟩
    · intro m' e' h hle
      exact Or.inr (hmagnitude ▸ (hbelow h hle).trans hk)
    · intro m' e' h hlt
      refine ⟨by rw [hisInf, hfinite]; rfl, ?_⟩
      exact hmagnitude ▸ hr'.trans (hnext h (hfloor.le.trans_lt hlt))

/-- The quotient of one by a number, computed from its parts. -/
def inverseOf (u : UnpackedFloat) : Float :=
  .ofModel (.pack (UnpackedFloat.div Format.binary64
    (.finite .positive (2 ^ 52) (-52) (by decide)) u))

theorem one_div_eq (x : Float) : 1.0 / x = inverseOf x.toModel.unpack := by
  have hone : (1.0 : Float).toModel.unpack = .finite .positive (2 ^ 52) (-52) (by decide) := rfl
  rw [inverseOf, ← hone]
  rfl

/-- **The quotient of one by a double** is a double next to the inverse. -/
theorem nearby_inverse {x : Float} {m : Nat} {e : Int} {hm : 0 < m}
    (hx : x.toModel.unpack = .finite .positive m e hm) : Nearby (1.0 / x) (dyadic m e)⁻¹ := by
  obtain ⟨p, f, accuracy, hcore, hp, hf, hfull, hle, hlt⟩ :=
    exists_divCore hm (ofFloat_of_unpack hx).2
  obtain ⟨k, g, r, hr, hfloor, hrounded, hwritten⟩ :=
    exists_rounded accuracy hp hf hfull hle hlt
  refine nearby_of_written hr hfloor hrounded ?_
  rw [one_div_eq, hx, inverseOf, ← hwritten]
  simp only [UnpackedFloat.div, hcore]
  rfl

end SimEngine
