import Mathlib.Algebra.Order.Group.Abs
import Mathlib.Algebra.Order.Group.MinMax
import Mathlib.Order.Lattice
import Mathlib.Tactic.Abel

/-!
# Saturation to an interval
-/

namespace Numeric

section Order
variable {α : Type*} [LinearOrder α] {lo hi x y : α}

/-- `value`, moved to the nearer end of `[min, max]` where it lies outside. -/
def limit (value min max : α) : α :=
  if value < min then min else if max < value then max else value

theorem limit_eq (h : lo ≤ hi) (x : α) : limit x lo hi = max lo (min x hi) := by
  unfold limit
  split
  · rename_i below
    rw [min_eq_left (below.le.trans h), max_eq_left below.le]
  · rename_i above
    split
    · rename_i beyond
      rw [min_eq_right beyond.le, max_eq_right h]
    · rename_i under
      rw [min_eq_left (not_lt.mp under), max_eq_right (not_lt.mp above)]

theorem le_limit (h : lo ≤ hi) (x : α) : lo ≤ limit x lo hi := by
  rw [limit_eq h]; exact le_max_left _ _

theorem limit_le (h : lo ≤ hi) (x : α) : limit x lo hi ≤ hi := by
  rw [limit_eq h]; exact max_le h (min_le_right _ _)

theorem limit_of_mem (low : lo ≤ x) (high : x ≤ hi) : limit x lo hi = x := by
  rw [limit, if_neg (not_lt.mpr low), if_neg (not_lt.mpr high)]

theorem limit_mono (h : lo ≤ hi) (le : x ≤ y) : limit x lo hi ≤ limit y lo hi := by
  rw [limit_eq h, limit_eq h]
  exact max_le_max_left _ (min_le_min_right _ le)

theorem limit_lt_limit (h : lo < hi) (lt : x < y) (above : lo < y) (below : x < hi) :
    limit x lo hi < limit y lo hi := by
  rw [limit_eq h.le, limit_eq h.le]
  exact max_lt (lt_max_of_lt_right (lt_min above h))
    (lt_max_of_lt_right ((min_le_left x hi).trans_lt (lt_min lt below)))

theorem limit_of_ge (h : lo ≤ hi) (beyond : hi ≤ x) : limit x lo hi = hi := by
  rw [limit_eq h, min_eq_right beyond, max_eq_right h]

theorem limit_of_le (h : lo ≤ hi) (under : x ≤ lo) : limit x lo hi = lo := by
  rw [limit_eq h, min_eq_left (under.trans h), max_eq_left under]

end Order

section Group
variable {α : Type*} [AddCommGroup α] [LinearOrder α] [IsOrderedAddMonoid α] {l x y : α}

theorem neg_le_of_nonneg (h : 0 ≤ l) : -l ≤ l := (neg_nonpos.mpr h).trans h

theorem limit_neg (h : 0 ≤ l) (x : α) : limit (-x) (-l) l = -limit x (-l) l := by
  have sym := neg_le_of_nonneg h
  rcases le_total x (-l) with low | low
  · rw [limit_of_ge sym (le_neg.mp low), limit_of_le sym low, neg_neg]
  rcases le_total l x with high | high
  · rw [limit_of_le sym (neg_le_neg high), limit_of_ge sym high]
  · rw [limit_of_mem (neg_le_neg high) (neg_le.mp low), limit_of_mem low high]

theorem abs_limit_sub_limit_le {lo hi : α} (h : lo ≤ hi) (x y : α) :
    |limit x lo hi - limit y lo hi| ≤ |x - y| := by
  rw [limit_eq h, limit_eq h, max_comm lo, max_comm lo]
  refine (abs_max_sub_max_le_abs _ _ lo).trans ?_
  rw [min_comm x, min_comm y]
  refine (abs_min_sub_min_le_max _ _ _ _).trans ?_
  simp

theorem abs_limit_le (h : 0 ≤ l) (x : α) : |limit x (-l) l| ≤ l :=
  abs_le.mpr ⟨le_limit (neg_le_of_nonneg h) x, limit_le (neg_le_of_nonneg h) x⟩

@[simp] theorem limit_zero (h : 0 ≤ l) : limit 0 (-l) l = 0 :=
  limit_of_mem (neg_nonpos.mpr h) h

theorem limit_nonneg (h : 0 ≤ l) (hx : 0 ≤ x) : 0 ≤ limit x (-l) l :=
  limit_zero h ▸ limit_mono (neg_le_of_nonneg h) hx

theorem limit_nonpos (h : 0 ≤ l) (hx : x ≤ 0) : limit x (-l) l ≤ 0 :=
  limit_zero h ▸ limit_mono (neg_le_of_nonneg h) hx

/-- Saturating a partial sum early is harmless while the terms push the same way. -/
theorem limit_limit_add (h : 0 ≤ l) {d : α} (up : l < x → 0 ≤ d) (down : x < -l → d ≤ 0) :
    limit (limit x (-l) l + d) (-l) l = limit (x + d) (-l) l := by
  have sym := neg_le_of_nonneg h
  rcases lt_or_ge l x with high | high
  · have rises : ∀ a : α, a ≤ a + d := fun a => le_add_of_nonneg_right (up high)
    rw [limit_of_ge sym high.le, limit_of_ge sym (rises l), limit_of_ge sym (high.le.trans (rises x))]
  rcases lt_or_ge x (-l) with low | low
  · have falls : ∀ a : α, a + d ≤ a := fun a => add_le_of_nonpos_right (down low)
    rw [limit_of_le sym low.le, limit_of_le sym (falls (-l)), limit_of_le sym ((falls x).trans low.le)]
  · rw [limit_of_mem low high]

theorem limit_add_eq_iff_of_pos (h : 0 ≤ l) (hx : 0 ≤ x) {d : α} (pos : 0 < d) :
    limit (x + d) (-l) l = limit x (-l) l ↔ l ≤ x := by
  have sym := neg_le_of_nonneg h
  constructor
  · intro same
    by_contra below
    have inside : -l ≤ x := (neg_nonpos.mpr h).trans hx
    rw [limit_of_mem inside (not_le.mp below).le, limit_eq sym,
      max_eq_right (le_min (inside.trans (le_add_of_nonneg_right pos.le)) sym)] at same
    rcases min_choice (x + d) l with sum | bound
    · exact (lt_add_of_pos_right x pos).ne' (sum ▸ same)
    · exact below (bound ▸ same).le
  · intro beyond
    rw [limit_of_ge sym beyond, limit_of_ge sym (beyond.trans (le_add_of_nonneg_right pos.le))]

/-- A further push in the direction of `x` shows through exactly while `x` is not saturated. -/
theorem limit_add_eq_iff (h : 0 ≤ l) {d : α} (same : 0 ≤ x ∧ 0 ≤ d ∨ x ≤ 0 ∧ d ≤ 0) :
    limit (x + d) (-l) l = limit x (-l) l ↔ d = 0 ∨ l ≤ |x| := by
  rcases eq_or_ne d 0 with rfl | moves
  · simp
  rcases same with ⟨hx, hd⟩ | ⟨hx, hd⟩
  · rw [limit_add_eq_iff_of_pos h hx (hd.lt_of_ne moves.symm), abs_of_nonneg hx]
    simp [moves]
  · have mirrored := limit_add_eq_iff_of_pos h (neg_nonneg.mpr hx) (neg_pos.mpr (hd.lt_of_ne moves))
    rw [← neg_add, limit_neg h, limit_neg h, neg_inj] at mirrored
    rw [mirrored, abs_of_nonpos hx]
    simp [moves]

/-- A saturating sum that falls by at least `δ` falls by `δ` or reaches the lower limit. -/
theorem limit_add_le_max (h : 0 ≤ l) {b d δ : α} (pos : 0 ≤ δ) (below : x ≤ max (-l) b) (falls : d ≤ -δ) :
    limit (x + d) (-l) l ≤ max (-l) (b - δ) := by
  rw [limit_eq (neg_le_of_nonneg h)]
  refine max_le (le_max_left _ _) ((min_le_left _ _).trans ?_)
  rcases le_max_iff.mp below with low | low
  · exact le_max_of_le_left ((add_le_of_nonpos_right (falls.trans (neg_nonpos.mpr pos))).trans low)
  · exact le_max_of_le_right (sub_eq_add_neg b δ ▸ add_le_add low falls)

theorem min_le_limit_add (h : 0 ≤ l) {b d δ : α} (pos : 0 ≤ δ) (above : min l b ≤ x) (rises : δ ≤ d) :
    min l (b + δ) ≤ limit (x + d) (-l) l := by
  have below : -x ≤ max (-l) (-b) := by rw [max_neg_neg]; exact neg_le_neg above
  have mirrored := limit_add_le_max h pos below (neg_le_neg rises)
  rw [← neg_add, limit_neg h, ← neg_add', max_neg_neg] at mirrored
  exact neg_le_neg_iff.mp mirrored

/-! ### Any interval -/

section Interval
variable {lo hi : α}

theorem limit_reflect (h : lo ≤ hi) (x : α) : limit (lo + hi - x) lo hi = lo + hi - limit x lo hi := by
  rcases le_total x lo with low | low
  · rw [limit_of_le h low, limit_of_ge h (by grind)]
    abel
  rcases le_total hi x with high | high
  · rw [limit_of_ge h high, limit_of_le h (by grind)]
    abel
  · rw [limit_of_mem low high, limit_of_mem (by grind) (by grind)]

theorem pair_of_low_of_nonneg {d : α} (low : lo ≤ x) (half : x + x ≤ lo + hi) (pos : 0 ≤ d) :
    x + x ≤ limit (x + d) lo hi + limit (x - d) lo hi ∧
      limit (x + d) lo hi + limit (x - d) lo hi ≤ lo + hi := by
  have high : x ≤ hi := by grind
  have order : lo ≤ hi := low.trans high
  rcases le_total lo (x - d) with inside | cut
  · -- The lower value is inside, and then so is the upper one.
    rw [limit_of_mem inside (by grind), limit_of_mem (by grind) (by grind)]
    grind
  · rw [limit_of_le order cut]
    rcases le_total (x + d) hi with inside | full
    · rw [limit_of_mem (by grind) inside]
      grind
    · rw [limit_of_ge order full]
      grind

/-- Saturating two opposite offsets of a value below the middle moves their sum towards the middle. -/
theorem pair_of_low (low : lo ≤ x) (half : x + x ≤ lo + hi) (d : α) :
    x + x ≤ limit (x + d) lo hi + limit (x - d) lo hi ∧
      limit (x + d) lo hi + limit (x - d) lo hi ≤ lo + hi := by
  rcases le_total 0 d with pos | neg
  · exact pair_of_low_of_nonneg low half pos
  · have swapped := pair_of_low_of_nonneg low half (neg_nonneg.mpr neg)
    rwa [sub_neg_eq_add, ← sub_eq_add_neg, add_comm (limit (x - d) lo hi)] at swapped

theorem pair_of_high (high : x ≤ hi) (half : lo + hi ≤ x + x) (d : α) :
    lo + hi ≤ limit (x + d) lo hi + limit (x - d) lo hi ∧
      limit (x + d) lo hi + limit (x - d) lo hi ≤ x + x := by
  have order : lo ≤ hi := by grind
  have low : lo ≤ lo + hi - x := by grind
  have half' : lo + hi - x + (lo + hi - x) ≤ lo + hi := by grind
  have turned := pair_of_low low half' d
  rw [show lo + hi - x + d = lo + hi - (x - d) by abel, show lo + hi - x - d = lo + hi - (x + d) by abel,
    limit_reflect order, limit_reflect order] at turned
  constructor <;> grind

end Interval

end Group

end Numeric
