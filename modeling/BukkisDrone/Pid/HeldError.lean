import Mathlib.Tactic.FieldSimp
import BukkisDrone.Pid.Controller

/-!
# A held error

Calls with one error and one time step, over exact arithmetic. The D filter turns the last change
of the error into an impulse that halves with every call, and the integral saturates as if it were
clamped once.
-/

namespace BukkisDrone.Pid
open Numeric Runs

def PidCall.Holds (e dt : ℚ) : PidCall → Prop
  | .compute setpoint measured step => setpoint - measured = e ∧ step = dt
  | .reset => False

/-- What the next call with error `e` feeds to the D filter, with the filter's own memory. -/
def kick (pid : PidCtrl) (e dt : ℚ) : ℚ := (e - pid.prevError) / dt + pid.prevDerivative

theorem compute_derivative (pid : PidCtrl) (setpoint measured dt : ℚ) :
    (pidCompute .exact pid setpoint measured dt).2.prevDerivative =
      kick pid (setpoint - measured) dt / 2 := by
  simp only [pidCompute, kick, Rounding.exact_apply]
  ring

theorem compute_integral (pid : PidCtrl) (setpoint measured dt : ℚ) :
    (pidCompute .exact pid setpoint measured dt).2.integral =
      clamp (pid.integral + (setpoint - measured) * dt) (-pid.iLimit) pid.iLimit := rfl

theorem compute_output (pid : PidCtrl) (setpoint measured dt : ℚ) :
    (pidCompute .exact pid setpoint measured dt).1 =
      clamp (pid.kp * (setpoint - measured) +
          pid.ki * (pidCompute .exact pid setpoint measured dt).2.integral +
          pid.kd * (pidCompute .exact pid setpoint measured dt).2.prevDerivative)
        (-pid.outLimit) pid.outLimit := rfl

theorem compute_kick (pid : PidCtrl) (setpoint measured dt : ℚ) :
    kick (pidCompute .exact pid setpoint measured dt).2 (setpoint - measured) dt =
      kick pid (setpoint - measured) dt / 2 := by
  rw [kick, compute_derivative]
  simp [pidCompute]

theorem run_kick (pid : PidCtrl) {e dt : ℚ} {calls : List PidCall}
    (held : ∀ call ∈ calls, call.Holds e dt) :
    kick ((controller .exact pid).run calls) e dt = kick pid e dt / 2 ^ calls.length := by
  refine Machine.run_allowed (M := controller .exact pid)
    (P := fun calls s => kick s e dt = kick pid e dt / 2 ^ calls.length) ?_ ?_ held
  · simp [controller]
  intro calls call last before
  cases call with
  | reset => exact last.elim
  | compute setpoint measured step =>
    obtain ⟨rfl, rfl⟩ := last
    show kick (pidCompute .exact _ setpoint measured step).2 (setpoint - measured) step = _
    rw [compute_kick, before, List.length_append, List.length_singleton, pow_succ, div_div]

/-! ### The integral over calls without a reset -/

/-- A call with time step `dt` and an error that satisfies `p`. -/
def PidCall.Errs (p : ℚ → Prop) (dt : ℚ) : PidCall → Prop
  | .compute setpoint measured step => p (setpoint - measured) ∧ step = dt
  | .reset => False

theorem PidCall.Holds.errs {e dt : ℚ} {call : PidCall} (h : call.Holds e dt) : call.Errs (· = e) dt := by
  cases call <;> exact h

/-- What one call with such an error keeps of the integral, a run of them keeps. -/
theorem run_integral_induction {p : ℚ → Prop} {B : ℕ → ℚ → Prop} {pid : PidCtrl} {dt : ℚ}
    (start : B 0 pid.integral)
    (step : ∀ n x error, p error → B n x →
      B (n + 1) (clamp (x + error * dt) (-pid.iLimit) pid.iLimit))
    {calls : List PidCall} (errs : ∀ call ∈ calls, call.Errs p dt) :
    B calls.length ((controller .exact pid).run calls).integral := by
  refine Machine.run_allowed (M := controller .exact pid) (P := fun calls s => B calls.length s.integral)
    start ?_ errs
  intro calls call last before
  cases call with
  | reset => exact last.elim
  | compute setpoint measured time =>
    obtain ⟨error, rfl⟩ := last
    have next := step _ _ _ error before
    rw [← run_iLimit .exact pid calls] at next
    rwa [List.length_append, List.length_singleton]

/-- Clamping at every call equals clamping the total once. -/
theorem run_integral {pid : PidCtrl} (bounded : |pid.integral| ≤ pid.iLimit) {e dt : ℚ}
    {calls : List PidCall} (held : ∀ call ∈ calls, call.Holds e dt) :
    ((controller .exact pid).run calls).integral =
      clamp (pid.integral + calls.length * (e * dt)) (-pid.iLimit) pid.iLimit := by
  obtain ⟨low, high⟩ := abs_le.mp bounded
  have nonneg : 0 ≤ pid.iLimit := (abs_nonneg _).trans bounded
  refine run_integral_induction (p := (· = e))
    (B := fun n x => x = clamp (pid.integral + n * (e * dt)) (-pid.iLimit) pid.iLimit) ?_ ?_
    fun call member => (held call member).errs
  · simp [clamp, limit_of_mem low high]
  rintro n x error rfl rfl
  rw [clamp, clamp, limit_limit_add nonneg, clamp]
  · congr 1
    push_cast
    ring
  · intro beyond
    have pushed : 0 < n * (error * dt) := by linarith
    exact (pos_of_mul_pos_right pushed (Nat.cast_nonneg _)).le
  · intro under
    have pushed : n * (error * dt) < 0 := by linarith
    exact (neg_of_mul_neg_right pushed (Nat.cast_nonneg _)).le

/-! ### Held calls -/

theorem held_call {pid : PidCtrl} (bounded : |pid.integral| ≤ pid.iLimit) {e dt : ℚ}
    {calls : List PidCall} (held : ∀ call ∈ calls, call.Holds e dt) {setpoint measured : ℚ}
    (error : setpoint - measured = e) :
    let call := pidCompute .exact ((controller .exact pid).run calls) setpoint measured dt
    call.2.integral =
        clamp (pid.integral + (calls.length + 1 : ℕ) * (e * dt)) (-pid.iLimit) pid.iLimit ∧
      call.2.prevDerivative = kick pid e dt / 2 ^ (calls.length + 1) ∧
      call.2.prevError = e ∧
      call.1 = clamp (pid.kp * e + pid.ki * call.2.integral + pid.kd * call.2.prevDerivative)
        (-pid.outLimit) pid.outLimit := by
  have all : ∀ call ∈ calls ++ [.compute setpoint measured dt], call.Holds e dt := by
    intro call member
    rcases List.mem_append.mp member with old | new
    · exact held call old
    · rw [List.mem_singleton.mp new]; exact ⟨error, rfl⟩
  have tuning := PidCtrl.mk.inj (run_tuning .exact pid calls)
  refine ⟨?_, ?_, error, ?_⟩
  · have total := run_integral bounded all
    rw [List.length_append, List.length_singleton, Machine.run_snoc] at total
    exact total
  · rw [compute_derivative, error, run_kick pid held, pow_succ, div_div]
  · rw [compute_output, error, tuning.1, tuning.2.1, tuning.2.2.1, tuning.2.2.2.2.1]

/-- The `k`-th of `k` calls with one error and one time step, after any history. -/
theorem held_closed_form {iLimit : ℚ} (nonneg : 0 ≤ iLimit) (kp ki kd outLimit : ℚ)
    (history : List PidCall) {e dt : ℚ} {calls : List PidCall}
    (held : ∀ call ∈ calls, call.Holds e dt) {setpoint measured : ℚ} (error : setpoint - measured = e) :
    let pid := (controller .exact (pidInit kp ki kd iLimit outLimit)).run history
    let k := calls.length + 1
    let integral := clamp (pid.integral + k * e * dt) (-iLimit) iLimit
    let derivative := ((e - pid.prevError) / dt + pid.prevDerivative) / 2 ^ k
    let call := pidCompute .exact ((controller .exact pid).run calls) setpoint measured dt
    call.1 = clamp (kp * e + ki * integral + kd * derivative) (-outLimit) outLimit ∧
      call.2.integral = integral ∧ call.2.prevError = e ∧ call.2.prevDerivative = derivative := by
  intro pid k integral derivative call
  have start : |(pidInit kp ki kd iLimit outLimit).integral| ≤ iLimit := by
    rw [pidInit, abs_zero]; exact nonneg
  have tuning := PidCtrl.mk.inj (run_tuning .exact (pidInit kp ki kd iLimit outLimit) history)
  have limits : pid.iLimit = iLimit := tuning.2.2.2.1
  have bounded : |pid.integral| ≤ pid.iLimit := limits ▸ run_integral_le .exact start history
  obtain ⟨integral', derivative', error', output⟩ := held_call bounded held error
  rw [limits, ← mul_assoc] at integral'
  refine ⟨output.trans ?_, integral', error', derivative'⟩
  rw [integral', derivative', tuning.1, tuning.2.1, tuning.2.2.1, tuning.2.2.2.2.1]
  rfl

theorem held_closed_form_third :
    let history := [.compute 5 0 (1 / 100), .reset, .compute 30 0 1, .compute 30 (-10) 1]
    let calls := [.compute 0 1 (1 / 100), .compute 2 3 (1 / 100)]
    let pid := (controller .exact (pidInit (6 / 5) (1 / 10) (1 / 2) 20 40)).run history
    let call := pidCompute .exact ((controller .exact pid).run calls) 0 1 (1 / 100)
    call.2.integral = clamp (pid.integral + 3 * (-1) * (1 / 100)) (-20) 20 ∧ call.2.prevError = -1 ∧
      call.2.prevDerivative = ((-1 - pid.prevError) / (1 / 100) + pid.prevDerivative) / 2 ^ 3 := by
  intro history calls pid call
  have held : ∀ call ∈ calls, PidCall.Holds (-1) (1 / 100) call := by
    simp only [calls, List.forall_mem_cons, PidCall.Holds]
    norm_num
  obtain ⟨-, integral, error, derivative⟩ := held_closed_form (by norm_num : (0 : ℚ) ≤ 20) (6 / 5) (1 / 10)
    (1 / 2) 40 history held (show (0 : ℚ) - 1 = -1 by norm_num)
  exact ⟨by exact_mod_cast integral, error, derivative⟩

/-! ### The first calls after a start or a reset -/

/-- A controller as `pid_init` or `pid_reset` leaves it. -/
inductive Fresh : PidCtrl → Prop
  | init (kp ki kd iLimit outLimit : ℚ) : Fresh (pidInit kp ki kd iLimit outLimit)
  | reset (pid : PidCtrl) : Fresh (pidReset pid)

theorem Fresh.memory {pid : PidCtrl} (h : Fresh pid) :
    pid.integral = 0 ∧ pid.prevError = 0 ∧ pid.prevDerivative = 0 := by
  cases h <;> exact ⟨rfl, rfl, rfl⟩

theorem Fresh.kick_eq {pid : PidCtrl} (h : Fresh pid) (e dt : ℚ) : kick pid e dt = e / dt := by
  obtain ⟨-, hp, hd⟩ := h.memory
  rw [kick, hp, hd, sub_zero, add_zero]

theorem fresh_held_call {pid : PidCtrl} (fresh : Fresh pid) (nonneg : 0 ≤ pid.iLimit) {e dt : ℚ}
    {calls : List PidCall} (held : ∀ call ∈ calls, call.Holds e dt) {setpoint measured : ℚ}
    (error : setpoint - measured = e) :
    let call := pidCompute .exact ((controller .exact pid).run calls) setpoint measured dt
    call.2.integral = clamp ((calls.length + 1 : ℕ) * (e * dt)) (-pid.iLimit) pid.iLimit ∧
      call.2.prevDerivative = e / dt / 2 ^ (calls.length + 1) ∧
      call.1 = clamp (pid.kp * e + pid.ki * call.2.integral + pid.kd * call.2.prevDerivative)
        (-pid.outLimit) pid.outLimit := by
  have bounded : |pid.integral| ≤ pid.iLimit := by rw [fresh.memory.1, abs_zero]; exact nonneg
  obtain ⟨integral, derivative, -, output⟩ := held_call bounded held error
  rw [fresh.memory.1, zero_add] at integral
  rw [fresh.kick_eq] at derivative
  exact ⟨integral, derivative, output⟩

/-- The D term of a held error vanishes from the output exactly when it has no gain, the error is
zero, or the P and I terms alone saturate the output. -/
theorem held_output_iff {pid : PidCtrl} (fresh : Fresh pid) (tuned : WellTuned pid) {e dt : ℚ}
    (positive : 0 < dt) {calls : List PidCall} (held : ∀ call ∈ calls, call.Holds e dt)
    {setpoint measured : ℚ} (error : setpoint - measured = e) :
    let call := pidCompute .exact ((controller .exact pid).run calls) setpoint measured dt
    call.1 = clamp (pid.kp * e + pid.ki * call.2.integral) (-pid.outLimit) pid.outLimit ↔
      pid.kd = 0 ∨ e = 0 ∨
        pid.outLimit ≤ |pid.kp * e +
          pid.ki * clamp ((calls.length + 1 : ℕ) * (e * dt)) (-pid.iLimit) pid.iLimit| := by
  obtain ⟨integral, derivative, output⟩ := fresh_held_call fresh tuned.iLimit held error
  intro call
  rw [output, derivative, integral]
  simp only [clamp]
  rw [limit_add_eq_iff tuned.outLimit]
  · rw [mul_eq_zero, div_eq_zero_iff, div_eq_zero_iff, or_assoc]
    simp [positive.ne']
  -- The integral has the sign of the error, and so have the P and D terms.
  rcases le_total 0 e with up | down
  · have total : 0 ≤ ((calls.length + 1 : ℕ) : ℚ) * (e * dt) := by positivity
    have i := mul_nonneg tuned.ki (limit_nonneg tuned.iLimit total)
    have d : 0 ≤ e / dt / 2 ^ (calls.length + 1) := by positivity
    exact Or.inl ⟨add_nonneg (mul_nonneg tuned.kp up) i, mul_nonneg tuned.kd d⟩
  · have total : ((calls.length + 1 : ℕ) : ℚ) * (e * dt) ≤ 0 :=
      mul_nonpos_of_nonneg_of_nonpos (Nat.cast_nonneg _) (mul_nonpos_of_nonpos_of_nonneg down positive.le)
    have i := mul_nonpos_of_nonneg_of_nonpos tuned.ki (limit_nonpos tuned.iLimit total)
    have d : e / dt / 2 ^ (calls.length + 1) ≤ 0 :=
      div_nonpos_of_nonpos_of_nonneg (div_nonpos_of_nonpos_of_nonneg down positive.le) (by positivity)
    exact Or.inr ⟨add_nonpos (mul_nonpos_of_nonneg_of_nonpos tuned.kp down) i,
      mul_nonpos_of_nonneg_of_nonpos tuned.kd d⟩

theorem held_output_iff_first_call :
    let pid := pidInit (6 / 5) 0 (1 / 2) 20 40
    let call := pidCompute .exact ((controller .exact pid).run []) 1 0 (1 / 100)
    call.1 = clamp (pid.kp * 1 + pid.ki * call.2.integral) (-pid.outLimit) pid.outLimit ↔
      pid.kd = 0 ∨ (1 : ℚ) = 0 ∨
        pid.outLimit ≤ |pid.kp * 1 +
          pid.ki * clamp ((0 + 1 : ℕ) * (1 * (1 / 100))) (-pid.iLimit) pid.iLimit| :=
  held_output_iff (Fresh.init _ _ _ _ _)
    ⟨by norm_num [pidInit], le_rfl, by norm_num [pidInit], by norm_num [pidInit], by norm_num [pidInit]⟩
    (by norm_num) (by simp) (by norm_num)

/-- With the gains of `app_main`, the first call after a start answers a steady error of one degree
with 26.2, where the P and I terms alone ask for 1.2. -/
theorem first_call_kicks :
    let pid := pidInit (6 / 5) 0 (1 / 2) 20 40
    let call := pidCompute .exact ((controller .exact pid).run []) 1 0 (1 / 100)
    call.1 = 131 / 5 ∧
      clamp (pid.kp * 1 + pid.ki * call.2.integral) (-pid.outLimit) pid.outLimit = 6 / 5 := by
  decide +kernel

end BukkisDrone.Pid
