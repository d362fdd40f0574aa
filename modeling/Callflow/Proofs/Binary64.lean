import Callflow.Json.Value

/-!
Whole numbers of 64 bits are finite as binary64 numbers: at the scale that is chosen for one its
significand has at most 55 digits, and the scale is far from the largest.
-/

namespace Callflow.Decimal.Binary64

open Json

theorem roundDiv_le (num den : Nat) : roundDiv num den ≤ num / den + 1 := by
  have hmod : num / den % 2 ≤ 1 := by omega
  simp only [roundDiv]
  split
  · omega
  · split <;> omega

theorem scaleOf_bounds (num den : Nat) :
    max 1 (1022 + Nat.log2 num - Nat.log2 den) ≤ scaleOf num den ∧
      scaleOf num den ≤ max 1 (1022 + Nat.log2 num - Nat.log2 den) + 1 := by
  simp only [scaleOf]
  split <;> omega

theorem magnitude_ofMagnitude (negative : Bool) {magnitude : Nat} (h : magnitude < signBit) :
    (ofMagnitude negative magnitude).magnitude = magnitude := by
  have hsum : magnitude + (if negative then signBit else 0) < 2 ^ 64 := by
    have hbit : signBit + signBit = 2 ^ 64 := by decide
    cases negative <;> simp <;> omega
  rw [Binary64.magnitude, ofMagnitude, UInt64.toNat_ofNat_of_lt' hsum]
  cases negative with
  | false => exact Nat.mod_eq_of_lt h
  | true => rw [if_pos rfl, Nat.add_mod_right, Nat.mod_eq_of_lt h]

theorem nearest_lt_infinity {n : Nat} (h : n < twoTo 64) : nearest n 1 < infinity := by
  have htwo : ∀ k, twoTo k = 2 ^ k := fun _ => rfl
  rw [nearest]
  split
  · decide
  · rename_i hne
    have hlog : Nat.log2 n < 64 := (Nat.log2_lt hne).mpr h
    have hone : Nat.log2 1 = 0 := by decide
    obtain ⟨hlow, hhigh⟩ := scaleOf_bounds n 1
    rw [hone] at hlow hhigh
    have hquotient : n * twoTo bias / (1 * twoTo (scaleOf n 1)) < 2 ^ 54 := by
      rw [htwo, htwo, Nat.one_mul, Nat.div_lt_iff_lt_mul (Nat.two_pow_pos _), ← Nat.pow_add]
      calc n * 2 ^ bias < 2 ^ (n.log2 + 1) * 2 ^ bias :=
            Nat.mul_lt_mul_of_pos_right Nat.lt_log2_self (Nat.two_pow_pos _)
        _ = 2 ^ (n.log2 + 1 + bias) := (Nat.pow_add ..).symm
        _ ≤ 2 ^ (54 + scaleOf n 1) := Nat.pow_le_pow_right (by decide) (by
            have hbias : bias = 1075 := rfl
            omega)
    have hround := roundDiv_le (n * twoTo bias) (1 * twoTo (scaleOf n 1))
    have hscale : (scaleOf n 1 - 1) * hiddenBit ≤ 1085 * hiddenBit :=
      Nat.mul_le_mul_right _ (by omega)
    have hroom : 1085 * hiddenBit + 2 ^ 54 < infinity := by decide
    exact Nat.lt_of_le_of_lt (Nat.min_le_right _ _) (by omega)

theorem isFinite_ofInt {n : Int} (h : IsWord n) : (ofInt n).isFinite = true := by
  have hsize : n.natAbs < twoTo 64 := by
    have hlimit : twoTo 64 = 0x10000000000000000 := rfl
    obtain ⟨hlow, hhigh⟩ := h
    omega
  have hnearest := nearest_lt_infinity hsize
  have hinfinity : infinity < signBit := by decide
  rw [isFinite, decide_eq_true_iff, ofInt, ofRatio,
    magnitude_ofMagnitude _ (Nat.lt_trans hnearest hinfinity)]
  exact hnearest

end Callflow.Decimal.Binary64
