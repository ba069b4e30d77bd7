import Mathlib.Algebra.Order.Field.Power
import Mathlib.Algebra.Order.Field.Rat
import Mathlib.Tactic.Linarith
import Mathlib.Tactic.Ring
import SparqlCompose.Number.Double

namespace SparqlCompose.Number.Double

/-- A binary64 number in its one form: the mantissa has its leading bit, unless the exponent is the
least one. -/
def IsCanonical : Double → Prop
  | .finite _ mantissa exponent =>
    mantissa < 2 ^ 53 ∧ leastExponent ≤ exponent ∧ exponent ≤ greatestExponent ∧
      (exponent = leastExponent ∨ 2 ^ 52 ≤ mantissa)
  | _ => True

instance : DecidablePred IsCanonical
  | .finite .. => inferInstanceAs (Decidable (_ ∧ _))
  | .nan => inferInstanceAs (Decidable True)
  | .infinite _ => inferInstanceAs (Decidable True)

def rational (negative : Bool) (mantissa : Nat) (exponent : Int) : ℚ :=
  (if negative then -1 else 1) * (mantissa * 2 ^ exponent)

def EqualValue : Double → Double → Prop
  | .infinite n, .infinite m => n = m
  | .finite n a i, .finite m b j => rational n a i = rational m b j
  | _, _ => False

variable {n m : Bool} {a b : Nat} {i j : Int}

theorem rational_eq_zero_iff : rational n a i = 0 ↔ a = 0 := by
  have power : (2 : ℚ) ^ i ≠ 0 := zpow_ne_zero i two_ne_zero
  cases n <;> simp [rational, power]

theorem eq_of_rational_eq (nonzero : a ≠ 0) (h : rational n a i = rational m b j) :
    n = m ∧ (a : ℚ) * 2 ^ i = b * 2 ^ j := by
  have left : 0 < (a : ℚ) * 2 ^ i :=
    mul_pos (Nat.cast_pos.mpr (Nat.pos_of_ne_zero nonzero)) (zpow_pos two_pos i)
  have right : 0 ≤ (b : ℚ) * 2 ^ j := mul_nonneg (Nat.cast_nonneg b) (zpow_nonneg two_pos.le j)
  cases n <;> cases m <;> simp only [rational, if_true, Bool.false_eq_true, if_false] at h
  · exact ⟨rfl, by linarith⟩
  · exact absurd h (by linarith)
  · exact absurd h (by linarith)
  · exact ⟨rfl, by linarith⟩

theorem le_of_mul_zpow_eq (bound : a < 2 ^ 53) (form : j = leastExponent ∨ 2 ^ 52 ≤ b)
    (least : leastExponent ≤ i) (h : (a : ℚ) * 2 ^ i = b * 2 ^ j) : j ≤ i := by
  by_contra more
  obtain ⟨k, apart⟩ : ∃ k : Nat, j = i + (k + 1 : Nat) := ⟨(j - i - 1).toNat, by omega⟩
  have scaled : a = b * 2 ^ (k + 1) := by
    have power : (2 : ℚ) ^ i ≠ 0 := zpow_ne_zero i two_ne_zero
    rw [apart, zpow_add₀ two_ne_zero, zpow_natCast] at h
    have cast : (a : ℚ) = ((b * 2 ^ (k + 1) : Nat) : ℚ) := by
      apply mul_right_cancel₀ power
      push_cast
      rw [h]
      ring
    exact Nat.cast_injective cast
  have leading : 2 ^ 52 ≤ b := form.resolve_left (by omega)
  have twice : 2 ≤ 2 ^ (k + 1) := Nat.le_self_pow (Nat.succ_ne_zero k) 2
  have large : 2 ^ 52 * 2 ≤ a := scaled ▸ Nat.mul_le_mul leading twice
  omega

theorem same_iff_equalValue {x y : Double} (hx : x.IsCanonical) (hy : y.IsCanonical) :
    x.same y = true ↔ x.EqualValue y := by
  cases x with
  | nan => cases y <;> simp [same, EqualValue]
  | infinite n => cases y <;> simp [same, EqualValue]
  | finite n a i =>
    cases y with
    | nan | infinite => simp [same, EqualValue]
    | finite m b j =>
      simp only [same, EqualValue, Bool.or_eq_true, Bool.and_eq_true, beq_iff_eq]
      constructor
      · rintro (⟨rfl, rfl⟩ | ⟨⟨rfl, rfl⟩, rfl⟩)
        · rw [rational_eq_zero_iff.mpr rfl, rational_eq_zero_iff.mpr rfl]
        · rfl
      · intro equal
        by_cases zero : a = 0
        · rw [rational_eq_zero_iff.mpr zero, eq_comm, rational_eq_zero_iff] at equal
          exact .inl ⟨zero, equal⟩
        · obtain ⟨signs, values⟩ := eq_of_rational_eq zero equal
          obtain ⟨boundA, leastA, -, formA⟩ := hx
          obtain ⟨boundB, leastB, -, formB⟩ := hy
          have exponents : i = j := Int.le_antisymm
            (le_of_mul_zpow_eq boundB formA leastB values.symm)
            (le_of_mul_zpow_eq boundA formB leastA values)
          subst exponents
          have mantissas : a = b :=
            Nat.cast_injective (mul_right_cancel₀ (zpow_ne_zero i two_ne_zero) values)
          exact .inr ⟨⟨signs, mantissas⟩, rfl⟩

theorem same_self {x : Double} (number : x ≠ .nan) : x.same x = true := by
  cases x with
  | nan => exact absurd rfl number
  | infinite n => simp [same]
  | finite n a i => simp [same]

end SparqlCompose.Number.Double
