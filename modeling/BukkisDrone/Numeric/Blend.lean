import Mathlib.Algebra.Order.Field.Basic
import Mathlib.Tactic.FieldSimp
import Mathlib.Tactic.Linarith
import Mathlib.Tactic.Ring

/-!
# Complementary filters

A complementary filter integrates a rate and leaks towards an absolute reading. Whatever it
integrates, its estimate stays near the readings.
-/

namespace Numeric

variable {K : Type*} [Field K]

/-- The estimate `x` after an increment `u` and an absolute reading `v`, with trust `a` in the
first. -/
def blend (a x u v : K) : K := a * (x + u) + (1 - a) * v

theorem blend_fixed {a : K} (h : 1 - a ≠ 0) (u v : K) :
    blend a (v + a / (1 - a) * u) u v = v + a / (1 - a) * u := by
  unfold blend; field_simp; ring

theorem blend_sub_blend (a x y u v : K) : blend a x u v - blend a y u v = a * (x - y) := by
  unfold blend; ring

variable [LinearOrder K] [IsStrictOrderedRing K] {a x u v U V : K}

theorem abs_blend_le (nonneg : 0 ≤ a) (leaks : a < 1) (hu : |u| ≤ U) (hv : |v| ≤ V)
    (hx : |x| ≤ V + a / (1 - a) * U) : |blend a x u v| ≤ V + a / (1 - a) * U := by
  have share : 0 < 1 - a := sub_pos.mpr leaks
  have inside := blend_fixed share.ne' U V
  rw [← inside, blend, blend]
  calc |a * (x + u) + (1 - a) * v|
      ≤ |a * (x + u)| + |(1 - a) * v| := abs_add_le _ _
    _ = a * |x + u| + (1 - a) * |v| := by rw [abs_mul, abs_mul, abs_of_nonneg nonneg, abs_of_pos share]
    _ ≤ a * (V + a / (1 - a) * U + U) + (1 - a) * V := by
      have sum := (abs_add_le x u).trans (add_le_add hx hu)
      exact add_le_add (mul_le_mul_of_nonneg_left sum nonneg) (mul_le_mul_of_nonneg_left hv share.le)

end Numeric
