import Mathlib.Algebra.Group.Nat.Defs
import Mathlib.Data.Nat.Log
import Stencil.Double

/-!
# Numbers within the range of doubles

A ratio has a nearest double unless it is too large.  For a numerator of `k` bits
the exponent of the double stays close to `k - 53`, which bounds the double of a
natural number of 64 bits and the product of two such doubles.
-/

namespace Stencil.Double

theorem scaleOf_le {num k : Nat} (hnum : num < 2 ^ k) (hpositive : num ≠ 0) (den : Nat) :
    scaleOf num den ≤ max minExponent ((k : Int) - 53) + 1 := by
  have hlog : num.log2 < k := (Nat.log2_lt hpositive).mpr hnum
  simp only [scaleOf]
  split_ifs <;> omega

/-- A numerator of at most 900 bits is in range. -/
theorem exists_ofRatio? {num k : Nat} (hnum : num < 2 ^ k) (hk : k ≤ 900) (den : Nat) :
    ∃ x, ofRatio? num den = some x ∧ x.significand < bound ∧
      x.exponent ≤ max minExponent ((k : Int) - 53) + 2 := by
  have hmin : minExponent = -1074 := rfl
  have hmax : maxExponent = 971 := rfl
  unfold ofRatio?
  by_cases hzero : num = 0
  · refine ⟨zero, if_pos hzero, by decide, ?_⟩
    simp only [zero]
    omega
  · have hscale := scaleOf_le hnum hzero den
    rw [if_neg hzero]
    dsimp only
    -- The significand fits, or the next power of two takes its place.
    split_ifs with hfits hrange hrange
    · exact ⟨_, rfl, hfits, by dsimp only; omega⟩
    · dsimp only at hrange
      omega
    · exact ⟨_, rfl, show bound / 2 < bound by decide, by dsimp only; omega⟩
    · dsimp only at hrange
      omega

/-- A natural number of 64 bits has a double close to it. -/
theorem exists_ofDecimal? {n : Nat} (hn : n < 2 ^ 64) :
    ∃ x, ofDecimal? n 0 = some x ∧ x.significand < bound ∧ x.exponent ≤ 13 := by
  obtain ⟨x, hx, hsignificand, hexponent⟩ := exists_ofRatio? hn (by decide) 1
  have hlength : (Nat.toDigits 10 n).length ≤ 20 :=
    (Nat.length_toDigits_le_iff (by decide) (by decide)).mpr (hn.trans (by decide))
  have hmin : minExponent = -1074 := rfl
  unfold ofDecimal?
  dsimp only
  split_ifs with hzero hlarge
  · exact ⟨zero, rfl, by decide, by decide⟩
  · omega
  · have hratio : ratio n 10 0 = (n, 1) := by simp [ratio]
    rw [hratio]
    exact ⟨x, hx, hsignificand, by omega⟩

/-- The product of two such doubles is in range. -/
theorem exists_mul? {x y : Double} (hx : x.significand < bound) (hy : y.significand < bound)
    (hexponents : x.exponent + y.exponent ≤ 26) : ∃ z, x.mul? y = some z := by
  have hbound : bound = 2 ^ 53 := by decide
  rw [hbound] at hx hy
  have hpower : 2 ^ (x.exponent + y.exponent).toNat ≤ 2 ^ 26 :=
    Nat.pow_le_pow_right (by decide) (by omega)
  have hnum : x.significand * y.significand * 2 ^ (x.exponent + y.exponent).toNat < 2 ^ 132 :=
    calc x.significand * y.significand * 2 ^ (x.exponent + y.exponent).toNat
        ≤ x.significand * y.significand * 2 ^ 26 := Nat.mul_le_mul_left _ hpower
      _ < 2 ^ 53 * 2 ^ 53 * 2 ^ 26 :=
          Nat.mul_lt_mul_of_pos_right (Nat.mul_lt_mul_of_lt_of_lt hx hy) (by decide)
      _ = 2 ^ 132 := by decide
  obtain ⟨z, hz, -⟩ := exists_ofRatio? hnum (by decide) _
  exact ⟨z, hz⟩

end Stencil.Double
