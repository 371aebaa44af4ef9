import Mathlib.Logic.ExistsUnique
import Mathlib.Logic.Function.Basic
import SimEngine.Component

/-!
# Hashes of component types

The hash of a name takes in one byte after the other.  A byte that was taken in
can be taken out again: the prime has an inverse modulo `2 ^ 64`, and an
exclusive or undoes itself.  So hashes that differ go on differing, whatever
bytes they both take in, and so do the hashes of names that differ in one byte.

**Definitions.**
* `ComponentId.unmix`, `ComponentId.unmixAll`: take bytes out of a hash.
* `ComponentId.DifferOnce`: byte strings that differ in one place.

**Results.**
* `mix_unmix`, `unmix_mix`: taking in a byte is a bijection of the hashes.
* `unmixAll_mixAll`: bytes that were taken in can be taken out.
* `differOnce_iff_split`: what stands before and behind that place is the same.
* `hashes_tell_apart`: which hashes are the same, and which never are.
-/

namespace SimEngine
namespace ComponentId

/-- The inverse of the prime modulo `2 ^ 64`. -/
def inverse : UInt64 := 0xce965057aff6957b

/-- Takes one byte out of the hash. -/
def unmix (hash : UInt64) (byte : UInt8) : UInt64 :=
  (hash * inverse) ^^^ byte.toUInt64

/-- Takes bytes out of the hash, the last one first. -/
def unmixAll (hash : UInt64) (bytes : List UInt8) : UInt64 :=
  bytes.foldr (fun byte hash => unmix hash byte) hash

/-- Byte strings of one length that differ in exactly one place. -/
def DifferOnce (first second : List UInt8) : Prop :=
  first.length = second.length ∧ ∃! i : Nat, first[i]? ≠ second[i]?

section Bytes

theorem prime_mul_inverse : prime * inverse = 1 := by
  decide

theorem unmix_mix (hash : UInt64) (byte : UInt8) : unmix (mix hash byte) byte = hash := by
  rw [unmix, mix, UInt64.mul_assoc, prime_mul_inverse, UInt64.mul_one, UInt64.xor_assoc,
    UInt64.xor_self, UInt64.xor_zero]

theorem mix_unmix (hash : UInt64) (byte : UInt8) : mix (unmix hash byte) byte = hash := by
  rw [mix, unmix, UInt64.xor_assoc, UInt64.xor_self, UInt64.xor_zero, UInt64.mul_assoc,
    UInt64.mul_comm inverse, prime_mul_inverse, UInt64.mul_one]

/-- A hash takes in different bytes differently. -/
theorem mix_byte_injective (hash : UInt64) : Function.Injective (mix hash) := by
  intro x y hsame
  have hmasked : hash ^^^ x.toUInt64 = hash ^^^ y.toUInt64 := by
    have hdivided := congrArg (· * inverse) hsame
    simpa only [mix, UInt64.mul_assoc, prime_mul_inverse, UInt64.mul_one] using hdivided
  exact UInt8.toUInt64_inj.1 ((UInt64.xor_right_inj hash).1 hmasked)

/-- **Bytes that were taken in can be taken out again.** -/
theorem unmixAll_mixAll (hash : UInt64) (bytes : List UInt8) :
    unmixAll (mixAll hash bytes) bytes = hash := by
  induction bytes generalizing hash with
  | nil =>
      rfl
  | cons byte rest ih =>
      show unmix (unmixAll (mixAll (mix hash byte) rest) rest) byte = hash
      rw [ih, unmix_mix]

/-- Hashes that take in the same bytes stay as different as they are. -/
theorem mixAll_injective (bytes : List UInt8) : Function.Injective (mixAll · bytes) :=
  Function.LeftInverse.injective (g := (unmixAll · bytes)) fun hash => unmixAll_mixAll hash bytes

end Bytes

section Names

variable {first second : List UInt8}

theorem ofBytes_append (first second : List UInt8) :
    ofBytes (first ++ second) = ⟨mixAll (ofBytes first).hash second⟩ := by
  rw [ofBytes, ofBytes, mixAll, List.foldl_append]
  rfl

theorem ofBytes_append_inj (first second behind : List UInt8) :
    ofBytes (first ++ behind) = ofBytes (second ++ behind) ↔ ofBytes first = ofBytes second := by
  rw [ofBytes_append, ofBytes_append, mk.injEq]
  exact (mixAll_injective behind).eq_iff.trans (iff_of_eq (mk.injEq _ _).symm)

theorem ofBytes_concat_inj (bytes : List UInt8) (x y : UInt8) :
    ofBytes (bytes ++ [x]) = ofBytes (bytes ++ [y]) ↔ x = y := by
  rw [ofBytes_append, ofBytes_append, mk.injEq]
  exact (mix_byte_injective (ofBytes bytes).hash).eq_iff

/-- Around the place where they differ, such byte strings are the same. -/
theorem differOnce_iff_split :
    DifferOnce first second ↔ ∃ before behind x y, x ≠ y ∧
      first = before ++ x :: behind ∧ second = before ++ y :: behind := by
  constructor
  · rintro ⟨hlength, i, hdiffer, honly⟩
    -- Everywhere else the two are the same, so the parts on both sides are.
    have hsame : ∀ j, j ≠ i → second[j]? = first[j]? := fun j hj => by
      by_contra hother
      exact hj (honly j (Ne.symm hother))
    have hfirst : i < first.length := by
      by_contra hbeyond
      refine hdiffer ?_
      rw [List.getElem?_eq_none (Nat.le_of_not_lt hbeyond),
        List.getElem?_eq_none (hlength ▸ Nat.le_of_not_lt hbeyond)]
    have hsecond : i < second.length := hlength ▸ hfirst
    have hbefore : second.take i = first.take i := by
      refine List.ext_getElem? fun j => ?_
      rw [List.getElem?_take, List.getElem?_take]
      split
      · exact hsame j (by omega)
      · rfl
    have hbehind : second.drop (i + 1) = first.drop (i + 1) := by
      refine List.ext_getElem? fun j => ?_
      rw [List.getElem?_drop, List.getElem?_drop]
      exact hsame (i + 1 + j) (by omega)
    refine ⟨first.take i, first.drop (i + 1), first[i], second[i], ?_, ?_, ?_⟩
    · intro heq
      rw [List.getElem?_eq_getElem hfirst, List.getElem?_eq_getElem hsecond, heq] at hdiffer
      exact hdiffer rfl
    · rw [← List.drop_eq_getElem_cons hfirst, List.take_append_drop]
    · rw [← hbefore, ← hbehind, ← List.drop_eq_getElem_cons hsecond, List.take_append_drop]
  · rintro ⟨before, behind, x, y, hne, rfl, rfl⟩
    refine ⟨by simp, before.length, by simpa using hne, fun j hdiffer => ?_⟩
    by_contra hj
    refine hdiffer ?_
    rcases Nat.lt_or_gt_of_ne hj with hbelow | habove
    · rw [List.getElem?_append_left hbelow, List.getElem?_append_left hbelow]
    · obtain ⟨k, rfl⟩ := Nat.exists_eq_add_of_lt habove
      simp [List.getElem?_append_right, Nat.add_assoc]

/-- **Byte strings that differ in one place** have different types. -/
theorem ofBytes_ne_of_differOnce (h : DifferOnce first second) :
    ofBytes first ≠ ofBytes second := by
  obtain ⟨before, behind, x, y, hne, rfl, rfl⟩ := differOnce_iff_split.1 h
  rw [List.append_cons before x, List.append_cons before y, ne_eq, ofBytes_append_inj,
    ofBytes_concat_inj]
  exact hne

end Names

/--
**Which hashes are the same, and which never are.**  Taking in a byte is a bijection of the hashes.
So it makes no difference what two names end with, if it is the same; names that differ in their
last byte never share their type, and no more do names that differ in any one byte.
-/
theorem hashes_tell_apart :
    (∀ byte, Function.Bijective (mix · byte)) ∧
    (∀ first second behind : List UInt8,
      ofBytes (first ++ behind) = ofBytes (second ++ behind) ↔ ofBytes first = ofBytes second) ∧
    (∀ (bytes : List UInt8) (x y : UInt8),
      ofBytes (bytes ++ [x]) = ofBytes (bytes ++ [y]) ↔ x = y) ∧
    (∀ first second : List UInt8, DifferOnce first second → ofBytes first ≠ ofBytes second) ∧
    ∀ first second : String, DifferOnce first.toUTF8.toList second.toUTF8.toList →
      ofName first ≠ ofName second := by
  refine ⟨fun byte => ⟨?_, ?_⟩, ofBytes_append_inj, ofBytes_concat_inj,
    fun _ _ => ofBytes_ne_of_differOnce, fun _ _ => ofBytes_ne_of_differOnce⟩
  · exact Function.LeftInverse.injective (g := (unmix · byte)) (unmix_mix · byte)
  · exact Function.RightInverse.surjective (g := (unmix · byte)) (mix_unmix · byte)

/-- Two names that differ in their first byte only. -/
theorem hashes_tell_apart_counts :
    DifferOnce "Count".toUTF8.toList "Mount".toUTF8.toList ∧ ofName "Count" ≠ ofName "Mount" := by
  have hdiffer : DifferOnce "Count".toUTF8.toList "Mount".toUTF8.toList :=
    differOnce_iff_split.2 ⟨[], "ount".toUTF8.toList, 67, 77, by decide, by decide +kernel,
      by decide +kernel⟩
  exact ⟨hdiffer, hashes_tell_apart.2.2.2.2 _ _ hdiffer⟩

end ComponentId
end SimEngine
