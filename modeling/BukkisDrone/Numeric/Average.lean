import Mathlib.Algebra.Order.Field.Basic
import Mathlib.Data.List.Induction
import Mathlib.Tactic.FieldSimp
import Mathlib.Tactic.Linarith
import Mathlib.Tactic.Positivity
import Mathlib.Tactic.Ring

/-!
# Running averages

The average that gives the newest value one half of the weight, and starts at zero.
-/

namespace Numeric

variable {K : Type*} [Field K]

def runningAverage (xs : List K) : K := xs.foldl (fun m x => (m + x) / 2) 0

@[simp] theorem runningAverage_nil : runningAverage ([] : List K) = 0 := rfl

@[simp] theorem runningAverage_snoc (xs : List K) (x : K) :
    runningAverage (xs ++ [x]) = (runningAverage xs + x) / 2 := by
  simp [runningAverage]

variable [LinearOrder K] [IsStrictOrderedRing K] {xs : List K} {x E : K}

theorem runningAverage_replicate (n : ℕ) (x : K) :
    runningAverage (List.replicate n x) = x * (1 - 1 / 2 ^ n) := by
  induction n with
  | zero => simp
  | succ n ih =>
    rw [List.replicate_succ', runningAverage_snoc, ih, pow_succ]
    field_simp
    ring

/-- The average lacks the weight that its start at zero still has. -/
theorem abs_runningAverage_le (small : ∀ x ∈ xs, |x| ≤ E) :
    |runningAverage xs| ≤ E * (1 - 1 / 2 ^ xs.length) := by
  induction xs using List.reverseRecOn with
  | nil => simp
  | append_singleton xs x ih =>
    have last := small x (by simp)
    have before := ih fun y member => small y (List.mem_append_left _ member)
    rw [runningAverage_snoc, List.length_append, List.length_singleton, abs_div, abs_two]
    calc |runningAverage xs + x| / 2
        ≤ (E * (1 - 1 / 2 ^ xs.length) + E) / 2 :=
          div_le_div_of_nonneg_right ((abs_add_le _ _).trans (add_le_add before last)) zero_le_two
      _ = E * (1 - 1 / 2 ^ (xs.length + 1)) := by rw [pow_succ]; field_simp; ring

/-- The average takes the newest value in before it is compared with it, which halves the distance. -/
theorem abs_sub_runningAverage_le (small : ∀ y ∈ xs ++ [x], |y| ≤ E) :
    |x - runningAverage (xs ++ [x])| ≤ E * (1 - 1 / 2 ^ (xs.length + 1)) := by
  have last := small x (by simp)
  have before := abs_runningAverage_le fun y member => small y (List.mem_append_left _ member)
  rw [runningAverage_snoc, show x - (runningAverage xs + x) / 2 = (x - runningAverage xs) / 2 by ring,
    abs_div, abs_two]
  calc |x - runningAverage xs| / 2
      ≤ (E + E * (1 - 1 / 2 ^ xs.length)) / 2 :=
        div_le_div_of_nonneg_right ((abs_sub _ _).trans (add_le_add last before)) zero_le_two
    _ = E * (1 - 1 / 2 ^ (xs.length + 1)) := by rw [pow_succ]; field_simp; ring

end Numeric
