import Mathlib.Data.Rat.Floor
import Mathlib.Algebra.Order.Floor.Semiring
import BukkisDrone.Pid.HeldError

/-!
# Anti-windup

The clamp after each accumulation bounds the integral, so the way back from a limit is as long after
a long saturation as after a short one.
-/

namespace BukkisDrone.Pid
open Numeric Runs

variable {pid : PidCtrl} {e dt : ℚ} {calls : List PidCall}

theorem integral_falls (bounded : |pid.integral| ≤ pid.iLimit) (pos : 0 ≤ e) (forward : 0 ≤ dt)
    (errs : ∀ call ∈ calls, call.Errs (· ≤ -e) dt) :
    ((controller .exact pid).run calls).integral ≤
      max (-pid.iLimit) (pid.iLimit - calls.length * e * dt) := by
  have nonneg : 0 ≤ pid.iLimit := (abs_nonneg _).trans bounded
  refine run_integral_induction (p := (· ≤ -e))
    (B := fun n x => x ≤ max (-pid.iLimit) (pid.iLimit - n * e * dt)) ?_ ?_ errs
  · simpa using Or.inr (abs_le.mp bounded).2
  intro n x error low below
  have falls : error * dt ≤ -(e * dt) := by
    rw [← neg_mul]; exact mul_le_mul_of_nonneg_right low forward
  have next := limit_add_le_max nonneg (mul_nonneg pos forward) below falls
  rwa [show pid.iLimit - n * e * dt - e * dt = pid.iLimit - (n + 1 : ℕ) * e * dt by push_cast; ring] at next

theorem integral_rises (bounded : |pid.integral| ≤ pid.iLimit) (pos : 0 ≤ e) (forward : 0 ≤ dt)
    (errs : ∀ call ∈ calls, call.Errs (e ≤ ·) dt) :
    min pid.iLimit (-pid.iLimit + calls.length * e * dt) ≤
      ((controller .exact pid).run calls).integral := by
  have nonneg : 0 ≤ pid.iLimit := (abs_nonneg _).trans bounded
  refine run_integral_induction (p := (e ≤ ·))
    (B := fun n x => min pid.iLimit (-pid.iLimit + n * e * dt) ≤ x) ?_ ?_ errs
  · simpa using Or.inr (abs_le.mp bounded).1
  intro n x error high above
  have rises : e * dt ≤ error * dt := mul_le_mul_of_nonneg_right high forward
  have next := min_le_limit_add nonneg (mul_nonneg pos forward) above rises
  rwa [show -pid.iLimit + n * e * dt + e * dt = -pid.iLimit + (n + 1 : ℕ) * e * dt by push_cast; ring] at next

theorem range_crossed {iLimit : ℚ} (pos : 0 < e) (forward : 0 < dt) {n : ℕ}
    (enough : ⌈2 * iLimit / (e * dt)⌉₊ ≤ n) : 2 * iLimit ≤ n * e * dt := by
  have steps := Nat.ceil_le.mp enough
  rwa [div_le_iff₀ (mul_pos pos forward), ← mul_assoc] at steps

/-- Whatever came before, the integral is within its limits, and errors of one sign bring it from
any value to their limit in the calls that the whole range takes. -/
theorem recovery_forgets_history {iLimit : ℚ} (nonneg : 0 ≤ iLimit) (kp ki kd outLimit : ℚ)
    (history : List PidCall) :
    let pid := (controller .exact (pidInit kp ki kd iLimit outLimit)).run history
    |pid.integral| ≤ iLimit ∧
      ∀ (e dt : ℚ) (calls : List PidCall), 0 < e → 0 < dt →
        let n := calls.length
        let integral := ((controller .exact pid).run calls).integral
        ((∀ call ∈ calls, call.Errs (· ≤ -e) dt) →
          integral ≤ max (-iLimit) (iLimit - n * e * dt) ∧
            (⌈2 * iLimit / (e * dt)⌉₊ ≤ n → integral = -iLimit)) ∧
        ((∀ call ∈ calls, call.Errs (e ≤ ·) dt) →
          min iLimit (-iLimit + n * e * dt) ≤ integral ∧
            (⌈2 * iLimit / (e * dt)⌉₊ ≤ n → integral = iLimit)) := by
  intro pid
  have start : |(pidInit kp ki kd iLimit outLimit).integral| ≤ iLimit := by
    rw [pidInit, abs_zero]; exact nonneg
  have limits : pid.iLimit = iLimit := run_iLimit .exact (pidInit kp ki kd iLimit outLimit) history
  have bounded : |pid.integral| ≤ iLimit := run_integral_le .exact start history
  refine ⟨bounded, fun e dt calls pos forward => ?_⟩
  rw [← limits] at bounded ⊢
  intro n integral
  obtain ⟨low, high⟩ := abs_le.mp (run_integral_le .exact bounded calls)
  constructor
  · intro errs
    have falls := integral_falls bounded pos.le forward.le errs
    refine ⟨falls, fun enough => le_antisymm (falls.trans (max_le le_rfl ?_)) low⟩
    linarith [range_crossed pos forward enough]
  · intro errs
    have rises := integral_rises bounded pos.le forward.le errs
    refine ⟨rises, fun enough => le_antisymm high ((le_min le_rfl ?_).trans rises)⟩
    linarith [range_crossed pos forward enough]

theorem recovery_forgets_history_windup :
    let pid := (controller .exact (pidInit (6 / 5) (1 / 10) (1 / 2) 20 40)).run
      (List.replicate 1000 (.compute 30 0 1))
    ((controller .exact pid).run (List.replicate 4 (.compute 0 10 1))).integral = -20 := by
  intro pid
  have windup := (recovery_forgets_history (by norm_num : (0 : ℚ) ≤ 20) (6 / 5) (1 / 10) (1 / 2) 40
    (List.replicate 1000 (.compute 30 0 1))).2 10 1 (List.replicate 4 (.compute 0 10 1)) (by norm_num)
    (by norm_num)
  refine (windup.1 fun call member => ?_).2 ?_
  · rw [List.eq_of_mem_replicate member]
    exact ⟨by norm_num, rfl⟩
  · rw [List.length_replicate, Nat.ceil_le]
    norm_num

end BukkisDrone.Pid
