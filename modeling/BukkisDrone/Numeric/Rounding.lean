import Mathlib.Algebra.Order.Field.Rat
import Mathlib.Tactic.NormNum
import Mathlib.Tactic.Positivity
import Mathlib.Tactic.Linarith

/-!
# Rounded arithmetic

A floating-point operation computes the exact result and rounds it. A `Rounding` keeps what a
program may rely on about that last step. Underflow is covered, overflow is not modelled.
-/

namespace Numeric

/-- How an exact result becomes a value of the format. -/
structure Rounding where
  fl : ℚ → ℚ
  mono : Monotone fl
  idem : ∀ x, fl (fl x) = fl x
  odd : ∀ x, fl (-x) = -fl x
  dyadic : ∀ (n : ℤ) (k : ℕ), |n| ≤ 2 ^ 24 → k ≤ 24 → fl (n / 2 ^ k) = n / 2 ^ k

namespace Rounding

instance : CoeFun Rounding fun _ => ℚ → ℚ := ⟨fl⟩

def exact : Rounding where
  fl := id
  mono := monotone_id
  idem _ := rfl
  odd _ := rfl
  dyadic _ _ _ _ := rfl

@[simp] theorem exact_apply (x : ℚ) : exact x = x := rfl

def Representable (ρ : Rounding) (x : ℚ) : Prop := ρ x = x

variable (ρ : Rounding)

@[simp] theorem apply_apply (x : ℚ) : ρ (ρ x) = ρ x := ρ.idem x

theorem apply_neg (x : ℚ) : ρ (-x) = -ρ x := ρ.odd x

theorem representable_apply (x : ℚ) : ρ.Representable (ρ x) := ρ.idem x

theorem representable_int {n : ℤ} (small : |n| ≤ 2 ^ 24) : ρ.Representable n := by
  have h := ρ.dyadic n 0 small (by norm_num)
  rwa [pow_zero, div_one] at h

theorem representable_nat {n : ℕ} (small : n ≤ 2 ^ 24) : ρ.Representable n := by
  have h := ρ.representable_int (n := n) (by simpa using by exact_mod_cast small)
  rwa [Int.cast_natCast] at h

theorem representable_ofNat {n : ℕ} [n.AtLeastTwo] (small : n ≤ 2 ^ 24) :
    ρ.Representable (OfNat.ofNat n : ℚ) := ρ.representable_nat small

@[simp] theorem apply_zero : ρ 0 = 0 := by
  have h := ρ.representable_int (n := 0) (by norm_num)
  rwa [Int.cast_zero] at h

@[simp] theorem apply_one : ρ 1 = 1 := by
  have h := ρ.representable_int (n := 1) (by norm_num)
  rwa [Int.cast_one] at h

variable {ρ} {x c : ℚ}

theorem Representable.apply (h : ρ.Representable c) : ρ c = c := h

theorem Representable.neg (h : ρ.Representable c) : ρ.Representable (-c) := by
  rw [Representable, apply_neg, h.apply]

theorem Representable.le_apply (h : ρ.Representable c) (le : c ≤ x) : c ≤ ρ x :=
  h.apply ▸ ρ.mono le

theorem Representable.apply_le (h : ρ.Representable c) (le : x ≤ c) : ρ x ≤ c :=
  h.apply ▸ ρ.mono le

theorem apply_nonneg (h : 0 ≤ x) : 0 ≤ ρ x := by
  simpa using ρ.mono h

end Rounding

end Numeric
