import Mathlib.Analysis.SpecificLimits.Basic
import Mathlib.Data.Nat.Nth

/-!
# Sequences that contract towards a target

The steps where `p` holds shrink the distance to the target by one factor, and the others leave the
sequence alone.
-/

namespace Numeric
open Filter

variable {K : Type*} [Field K] {p : ℕ → Prop} [DecidablePred p] {x : ℕ → K} {a target : K}

theorem contract_pow (moves : ∀ n, p n → x (n + 1) - target = a * (x n - target))
    (rests : ∀ n, ¬p n → x (n + 1) = x n) (n : ℕ) :
    x n - target = a ^ Nat.count p n * (x 0 - target) := by
  induction n with
  | zero => simp
  | succ n ih =>
    rw [Nat.count_succ]
    split
    · rename_i h
      rw [moves n h, ih, pow_succ']
      ring
    · rename_i h
      rw [rests n h, ih, add_zero]

theorem tendsto_count (often : ∃ᶠ n in atTop, p n) : Tendsto (Nat.count p) atTop atTop := by
  have infinite := Nat.frequently_atTop_iff_infinite.mp often
  refine tendsto_atTop_atTop_of_monotone (Nat.count_monotone p) fun b => ?_
  obtain ⟨n, h⟩ := Nat.surjective_count_of_infinite_setOfPred infinite b
  exact ⟨n, h.ge⟩

variable [LinearOrder K] [IsStrictOrderedRing K] [Archimedean K] [TopologicalSpace K] [OrderTopology K]

/-- With a factor below one and shrinking steps without end, the sequence reaches its target. -/
theorem tendsto_of_contract (moves : ∀ n, p n → x (n + 1) - target = a * (x n - target))
    (rests : ∀ n, ¬p n → x (n + 1) = x n) (nonneg : 0 ≤ a) (shrinks : a < 1)
    (often : ∃ᶠ n in atTop, p n) : Tendsto x atTop (nhds target) := by
  have powers := (tendsto_pow_atTop_nhds_zero_of_lt_one nonneg shrinks).comp (tendsto_count often)
  have distance := (powers.mul_const (x 0 - target)).const_add target
  rw [zero_mul, add_zero] at distance
  refine distance.congr fun n => ?_
  rw [Function.comp_apply, ← contract_pow moves rests n, add_sub_cancel]

end Numeric
