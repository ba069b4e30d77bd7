import Mathlib.Data.Nat.Log
import Mathlib.Tactic.FieldSimp
import Mathlib.Tactic.GCongr
import Mathlib.Tactic.Positivity
import SparqlCompose.Number.Read
import SparqlCompose.Proofs.Number.Value

namespace SparqlCompose.Number

namespace Double

theorem scale_spec (num : Nat) {den : Nat} (positive : 0 < den) (e : Int) :
    0 < (scale num den e).2 ∧
      ((scale num den e).1 : ℚ) * 2 ^ e * den = num * (scale num den e).2 := by
  rw [scale]
  by_cases negative : e < 0
  · obtain ⟨k, rfl⟩ : ∃ k : Nat, e = -k := ⟨(-e).toNat, by omega⟩
    rw [if_pos negative]
    refine ⟨positive, ?_⟩
    have power : (2 : ℚ) ^ k ≠ 0 := pow_ne_zero k two_ne_zero
    simp only [neg_neg, Int.toNat_natCast, Nat.pow_eq, zpow_neg, zpow_natCast]
    push_cast
    field_simp
  · obtain ⟨k, rfl⟩ : ∃ k : Nat, e = k := ⟨e.toNat, by omega⟩
    rw [if_neg negative]
    refine ⟨Nat.mul_pos positive (Nat.pow_pos Nat.two_pos), ?_⟩
    simp only [Int.toNat_natCast, Nat.pow_eq, zpow_natCast]
    push_cast
    ring

theorem le_roundDiv {n num den : Nat} (positive : 0 < den) (h : n * den ≤ num) :
    n ≤ roundDiv num den := by
  have quotient : n ≤ num / den := (Nat.le_div_iff_mul_le positive).mpr h
  unfold roundDiv
  dsimp only
  split_ifs <;> omega

theorem roundDiv_le {n num den : Nat} (positive : 0 < den) (h : num < n * den) :
    roundDiv num den ≤ n := by
  have quotient : num / den < n := (Nat.div_lt_iff_lt_mul positive).mpr h
  unfold roundDiv
  dsimp only
  split_ifs <;> omega

theorem mul_le_scale_iff (n num : Nat) {den : Nat} (positive : 0 < den) (e : Int) :
    n * (scale num den e).2 ≤ (scale num den e).1 ↔ (n : ℚ) * 2 ^ e * den ≤ num := by
  obtain ⟨below, value⟩ := scale_spec num positive e
  have factor : (0 : ℚ) < 2 ^ e * den := mul_pos (zpow_pos two_pos e) (Nat.cast_pos.mpr positive)
  have right : (0 : ℚ) < (scale num den e).2 := Nat.cast_pos.mpr below
  calc n * (scale num den e).2 ≤ (scale num den e).1
      ↔ (n : ℚ) * (scale num den e).2 ≤ (scale num den e).1 := by norm_cast
    _ ↔ (n : ℚ) * (scale num den e).2 * (2 ^ e * den) ≤ (scale num den e).1 * (2 ^ e * den) :=
        (mul_le_mul_iff_left₀ factor).symm
    _ ↔ (n : ℚ) * 2 ^ e * den * (scale num den e).2 ≤ num * (scale num den e).2 := by
        rw [← value]
        ring_nf
    _ ↔ (n : ℚ) * 2 ^ e * den ≤ num := mul_le_mul_iff_left₀ right

theorem log2_bounds {n : Nat} (nonzero : n ≠ 0) :
    (2 : ℚ) ^ (n.log2 : Int) ≤ n ∧ (n : ℚ) < 2 ^ (n.log2 + 1 : Int) := by
  have low : ((2 ^ n.log2 : Nat) : ℚ) ≤ n := Nat.cast_le.mpr (Nat.log2_self_le nonzero)
  have high : (n : ℚ) < ((2 ^ (n.log2 + 1) : Nat) : ℚ) := Nat.cast_lt.mpr Nat.lt_log2_self
  push_cast at low high
  exact ⟨by exact_mod_cast low, by exact_mod_cast high⟩

/-- With the exponent that the lengths of numerator and denominator suggest, or the one below, the
mantissa has 53 bits. -/
theorem exponent_fits {num den : Nat} (nonzero : num ≠ 0) (positive : 0 < den) {guess e : Int}
    (lengths : guess = (Nat.log2 num : Int) - (Nat.log2 den : Int) - 52)
    (chosen : e = if (scale num den guess).1 / (scale num den guess).2 < Nat.pow 2 52 then guess - 1
      else guess) :
    ((2 ^ 52 : Nat) : ℚ) * 2 ^ e * den ≤ num ∧ (num : ℚ) < (2 ^ 53 : Nat) * 2 ^ e * den := by
  obtain ⟨low, high⟩ := log2_bounds nonzero
  obtain ⟨low', high'⟩ := log2_bounds (Nat.pos_iff_ne_zero.mp positive)
  have shorter : ((2 ^ 51 : Nat) : ℚ) * 2 ^ guess * den ≤ num := by
    calc ((2 ^ 51 : Nat) : ℚ) * 2 ^ guess * den
        ≤ (2 : ℚ) ^ (51 : Int) * 2 ^ guess * 2 ^ (den.log2 + 1 : Int) := by
          push_cast
          gcongr
      _ = 2 ^ (num.log2 : Int) := by
          rw [← zpow_add₀ two_ne_zero, ← zpow_add₀ two_ne_zero, lengths]
          ring_nf
      _ ≤ num := low
  have longer : (num : ℚ) < (2 ^ 53 : Nat) * 2 ^ guess * den := by
    calc (num : ℚ) < 2 ^ (num.log2 + 1 : Int) := high
      _ = (2 : ℚ) ^ (53 : Int) * 2 ^ guess * 2 ^ (den.log2 : Int) := by
          rw [← zpow_add₀ two_ne_zero, ← zpow_add₀ two_ne_zero, lengths]
          ring_nf
      _ ≤ (2 ^ 53 : Nat) * 2 ^ guess * den := by
          push_cast
          gcongr
  have test := mul_le_scale_iff (2 ^ 52) num positive guess
  rw [← Nat.le_div_iff_mul_le (scale_spec num positive guess).1] at test
  split_ifs at chosen with few
  · have small : (num : ℚ) < (2 ^ 52 : Nat) * 2 ^ guess * den :=
      not_le.mp fun enough => absurd (test.mpr enough) (Nat.not_le.mpr few)
    rw [chosen, zpow_sub_one₀ two_ne_zero]
    push_cast at *
    constructor <;> linarith
  · rw [chosen]
    exact ⟨test.mp (Nat.not_lt.mp few), longer⟩

theorem isCanonical_ofRatio (negative : Bool) (num : Nat) {den : Nat} (positive : 0 < den) :
    (ofRatio negative num den).IsCanonical := by
  by_cases zero : num = 0
  · rw [ofRatio, if_pos zero]
    cases negative <;> decide
  rw [ofRatio, if_neg zero]
  dsimp only
  generalize chosen : (if (scale num den _).1 / _ < _ then _ else _ : Int) = e
  obtain ⟨low, high⟩ := exponent_fits zero positive rfl chosen.symm
  obtain ⟨least, same⟩ : leastExponent ≤ max e leastExponent ∧
      (max e leastExponent = leastExponent ∨ max e leastExponent = e) := by omega
  have wider : (2 : ℚ) ^ e ≤ 2 ^ max e leastExponent :=
    zpow_le_zpow_right₀ one_le_two (le_max_left _ _)
  generalize max e leastExponent = e' at *
  have bits := (scale_spec num positive e').1
  have short : roundDiv (scale num den e').1 (scale num den e').2 ≤ 2 ^ 53 := by
    apply roundDiv_le bits
    refine Nat.lt_of_not_le fun long => ?_
    have reached := (mul_le_scale_iff (2 ^ 53) num positive e').mp long
    have more : ((2 ^ 53 : Nat) : ℚ) * 2 ^ e * den ≤ (2 ^ 53 : Nat) * 2 ^ e' * den := by gcongr
    linarith
  have leading : e' = leastExponent ∨
      2 ^ 52 ≤ roundDiv (scale num den e').1 (scale num den e').2 := by
    refine same.imp_right fun same => le_roundDiv bits ?_
    rw [same]
    exact (mul_le_scale_iff (2 ^ 52) num positive e).mpr low
  generalize roundDiv (scale num den e').1 (scale num den e').2 = m at *
  -- a mantissa that is rounded up to one bit more is halved
  by_cases full : m = Nat.pow 2 53
  · rw [if_pos full]
    dsimp only
    split_ifs with large
    · trivial
    · refine ⟨by decide, by omega, Int.not_lt.mp large, .inr (by decide)⟩
  · rw [if_neg full]
    dsimp only
    split_ifs with large
    · trivial
    · exact ⟨Nat.lt_of_le_of_ne short full, least, Int.not_lt.mp large, leading⟩

theorem isCanonical_ofDecimal (negative : Bool) (digits : Nat) (exponent : Int) :
    (ofDecimal negative digits exponent).IsCanonical := by
  have zero : (Double.zero negative).IsCanonical := by cases negative <;> decide
  unfold ofDecimal
  dsimp only
  split_ifs
  · exact zero
  · trivial
  · exact zero
  · exact isCanonical_ofRatio negative digits (Nat.pow_pos (by decide))
  · exact isCanonical_ofRatio negative _ Nat.one_pos

end Double

theorem isCanonical_decimal (negative : Bool) (whole fraction : List Nat) (exponent : Int) :
    (decimal negative whole fraction exponent).IsCanonical :=
  Double.isCanonical_ofDecimal _ _ _

end SparqlCompose.Number
