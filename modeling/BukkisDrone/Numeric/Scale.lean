import Mathlib.Tactic.Linarith
import Mathlib.Tactic.Ring

/-!
# Centred scales

A reading is moved so that the middle of its limits is zero, and scaled to a fixed span. The division truncates
towards zero.
-/

namespace Numeric

variable {k r x : ℤ}

theorem le_tdiv_iff (positive : 0 < r) (nonpos : k ≤ 0) : k ≤ x.tdiv r ↔ (k - 1) * r < x := by
  rcases le_or_gt 0 x with nonneg | negative
  · have quotient := Int.tdiv_nonneg nonneg positive.le
    exact ⟨fun _ => (mul_neg_of_neg_of_pos (by omega) positive).trans_le nonneg, fun _ => by omega⟩
  · obtain ⟨y, rfl⟩ : ∃ y, x = -y := ⟨-x, (neg_neg x).symm⟩
    rw [Int.neg_tdiv, Int.tdiv_eq_ediv_of_nonneg (by omega), le_neg, ← Int.lt_add_one_iff,
      Int.ediv_lt_iff_lt_mul positive, lt_neg, show -((k - 1) * r) = (-k + 1) * r by ring]

theorem tdiv_le_iff (positive : 0 < r) (nonneg : 0 ≤ k) : x.tdiv r ≤ k ↔ x < (k + 1) * r := by
  have mirrored := le_tdiv_iff (x := -x) positive (show -k ≤ 0 by omega)
  rw [Int.neg_tdiv, neg_le_neg_iff] at mirrored
  rw [mirrored, lt_neg, show -((-k - 1) * r) = (k + 1) * r by ring]

def span (least greatest : ℤ) : ℤ := greatest - least + 1

def centred (least greatest x : ℤ) : ℤ := x - span least greatest / 2 - least

def scaled (n least greatest x : ℤ) : ℤ := (centred least greatest x * n).tdiv (span least greatest)

variable {n least greatest low high : ℤ}

theorem centred_le_centred (le : x ≤ low) : centred least greatest x ≤ centred least greatest low := by
  unfold centred
  omega

/-- A reading between two others is scaled into any bounds around zero that hold for these. -/
theorem scaled_between {most : ℤ} (positive : 0 < span least greatest) (grows : 0 ≤ n) (nonpos : k ≤ 0)
    (nonneg : 0 ≤ most) (above : low ≤ x) (below : x ≤ high) (bottom : k ≤ scaled n least greatest low)
    (top : scaled n least greatest high ≤ most) :
    ((k - 1) * span least greatest < centred least greatest x * n ∧
      centred least greatest x * n < (most + 1) * span least greatest) ∧
      k ≤ scaled n least greatest x ∧ scaled n least greatest x ≤ most := by
  unfold scaled at bottom top ⊢
  rw [le_tdiv_iff positive nonpos] at bottom ⊢
  rw [tdiv_le_iff positive nonneg] at top ⊢
  have left : centred least greatest low * n ≤ centred least greatest x * n :=
    mul_le_mul_of_nonneg_right (centred_le_centred above) grows
  have right : centred least greatest x * n ≤ centred least greatest high * n :=
    mul_le_mul_of_nonneg_right (centred_le_centred below) grows
  exact ⟨⟨bottom.trans_le left, right.trans_lt top⟩, bottom.trans_le left, right.trans_lt top⟩

end Numeric
