import BukkisDrone.Pid.HeldError

/-!
# Controllers converge

Two controllers with the same gains and limits and different memories, on the same calls. The first
call makes their last errors agree, each call halves the distance of their derivatives, and no call
moves their integrals apart.
-/

namespace BukkisDrone.Pid
open Numeric Runs

def PidCall.Forward : PidCall → Prop
  | .compute _ _ dt => 0 < dt
  | .reset => False

/-! ### One call -/

variable {p q : PidCtrl}

theorem compute_derivative_sub (p q : PidCtrl) (setpoint measured dt : ℚ) :
    (pidCompute .exact p setpoint measured dt).2.prevDerivative -
        (pidCompute .exact q setpoint measured dt).2.prevDerivative =
      (p.prevDerivative - q.prevDerivative - (p.prevError - q.prevError) / dt) / 2 := by
  rw [compute_derivative, compute_derivative, kick, kick]
  ring

theorem compute_integral_sub_le (tuned : WellTuned p) (same : pidReset q = pidReset p)
    (setpoint measured dt : ℚ) :
    |(pidCompute .exact p setpoint measured dt).2.integral -
        (pidCompute .exact q setpoint measured dt).2.integral| ≤ |p.integral - q.integral| := by
  have limit : q.iLimit = p.iLimit := (PidCtrl.mk.inj same).2.2.2.1
  have near := abs_limit_sub_limit_le (neg_le_of_nonneg tuned.iLimit)
    (p.integral + (setpoint - measured) * dt) (q.integral + (setpoint - measured) * dt)
  rw [compute_integral, compute_integral, limit]
  rwa [add_sub_add_right_eq_sub] at near

theorem output_sub_le (tuned : WellTuned p) (same : pidReset q = pidReset p) (setpoint measured dt : ℚ) :
    let x := pidCompute .exact p setpoint measured dt
    let y := pidCompute .exact q setpoint measured dt
    |x.1 - y.1| ≤
      p.ki * |x.2.integral - y.2.integral| + p.kd * |x.2.prevDerivative - y.2.prevDerivative| := by
  intro x y
  obtain ⟨kp, ki, kd, -, outLimit, -⟩ := PidCtrl.mk.inj same
  have near := abs_limit_sub_limit_le (neg_le_of_nonneg tuned.outLimit)
    (p.kp * (setpoint - measured) + p.ki * x.2.integral + p.kd * x.2.prevDerivative)
    (p.kp * (setpoint - measured) + p.ki * y.2.integral + p.kd * y.2.prevDerivative)
  -- The P terms cancel.
  have terms : p.kp * (setpoint - measured) + p.ki * x.2.integral + p.kd * x.2.prevDerivative -
      (p.kp * (setpoint - measured) + p.ki * y.2.integral + p.kd * y.2.prevDerivative) =
        p.ki * (x.2.integral - y.2.integral) + p.kd * (x.2.prevDerivative - y.2.prevDerivative) := by
    ring
  rw [terms] at near
  rw [compute_output, compute_output, kp, ki, kd, outLimit]
  refine near.trans ((abs_add_le _ _).trans ?_)
  rw [abs_mul, abs_mul, abs_of_nonneg tuned.ki, abs_of_nonneg tuned.kd]

/-! ### Runs -/

variable {calls : List PidCall}

theorem run_same (same : pidReset q = pidReset p) (calls : List PidCall) :
    pidReset ((controller .exact q).run calls) = pidReset ((controller .exact p).run calls) := by
  rw [run_tuning, run_tuning, same]

/-- Once the last errors agree they stay so, and the derivatives approach each other by halves. -/
theorem run_memory_sub (agree : p.prevError = q.prevError) (forward : ∀ call ∈ calls, call.Forward) :
    ((controller .exact p).run calls).prevError = ((controller .exact q).run calls).prevError ∧
      ((controller .exact p).run calls).prevDerivative - ((controller .exact q).run calls).prevDerivative =
        (p.prevDerivative - q.prevDerivative) / 2 ^ calls.length := by
  refine Machine.run_allowed (M := controller .exact p)
    (P := fun calls s => s.prevError = ((controller .exact q).run calls).prevError ∧
      s.prevDerivative - ((controller .exact q).run calls).prevDerivative =
        (p.prevDerivative - q.prevDerivative) / 2 ^ calls.length) ?_ ?_ forward
  · exact ⟨agree, by simp [controller]⟩
  intro calls call last before
  obtain ⟨error, derivative⟩ := before
  rw [Machine.run_snoc, List.length_append, List.length_singleton]
  cases call with
  | reset => exact last.elim
  | compute setpoint measured dt =>
    refine ⟨rfl, (compute_derivative_sub _ _ setpoint measured dt).trans ?_⟩
    rw [error, sub_self, zero_div, sub_zero, derivative, pow_succ, div_div]

theorem run_integral_sub_le (tuned : WellTuned p) (same : pidReset q = pidReset p)
    (forward : ∀ call ∈ calls, call.Forward) :
    |((controller .exact p).run calls).integral - ((controller .exact q).run calls).integral| ≤
      |p.integral - q.integral| := by
  refine Machine.run_allowed (M := controller .exact p)
    (P := fun calls s => |s.integral - ((controller .exact q).run calls).integral| ≤
      |p.integral - q.integral|) le_rfl ?_ forward
  intro calls call last before
  rw [Machine.run_snoc]
  cases call with
  | reset => exact last.elim
  | compute setpoint measured dt =>
    exact (compute_integral_sub_le (tuned.of_reset (run_tuning .exact p calls)) (run_same same calls)
      setpoint measured dt).trans before

def firstDt : List PidCall → ℚ
  | .compute _ _ dt :: _ => dt
  | _ => 0

theorem run_memory (nonempty : calls ≠ []) (forward : ∀ call ∈ calls, call.Forward) :
    ((controller .exact p).run calls).prevError = ((controller .exact q).run calls).prevError ∧
      ((controller .exact p).run calls).prevDerivative - ((controller .exact q).run calls).prevDerivative =
        (p.prevDerivative - q.prevDerivative - (p.prevError - q.prevError) / firstDt calls) /
          2 ^ calls.length := by
  cases calls with
  | nil => exact absurd rfl nonempty
  | cons first rest =>
    cases first with
    | reset => exact (forward .reset (by simp)).elim
    | compute setpoint measured dt =>
      obtain ⟨error, derivative⟩ := run_memory_sub (p := (pidCompute .exact p setpoint measured dt).2)
        (q := (pidCompute .exact q setpoint measured dt).2) rfl
        fun call member => forward call (List.mem_cons_of_mem _ member)
      refine ⟨error, derivative.trans ?_⟩
      rw [compute_derivative_sub, firstDt, List.length_cons, pow_succ', div_div]

/-- The states and outputs of the `k`-th call, compared with the starting states. -/
theorem controllers_converge (tuned : WellTuned p) (same : pidReset q = pidReset p)
    {before : List PidCall} {setpoint measured dt : ℚ}
    (forward : ∀ call ∈ before ++ [.compute setpoint measured dt], call.Forward) :
    let calls := before ++ [.compute setpoint measured dt]
    let k := calls.length
    let memory := p.prevDerivative - q.prevDerivative - (p.prevError - q.prevError) / firstDt calls
    let x := pidCompute .exact ((controller .exact p).run before) setpoint measured dt
    let y := pidCompute .exact ((controller .exact q).run before) setpoint measured dt
    (controller .exact p).run calls = x.2 ∧ (controller .exact q).run calls = y.2 ∧
      x.2.prevError = y.2.prevError ∧
      x.2.prevDerivative - y.2.prevDerivative = memory / 2 ^ k ∧
      |x.2.integral - y.2.integral| ≤
        |((controller .exact p).run before).integral - ((controller .exact q).run before).integral| ∧
      |x.1 - y.1| ≤ p.ki * |p.integral - q.integral| + p.kd * (|memory| / 2 ^ k) := by
  intro calls k memory x y
  have stepP : (controller .exact p).run calls = x.2 := Machine.run_snoc _ _ _
  have stepQ : (controller .exact q).run calls = y.2 := Machine.run_snoc _ _ _
  have nonempty : calls ≠ [] := by simp [calls]
  obtain ⟨error, derivative⟩ := run_memory (p := p) (q := q) nonempty forward
  have total := run_integral_sub_le tuned same forward
  have tuning := run_tuning .exact p before
  have later := tuned.of_reset tuning
  have output := output_sub_le later (run_same same before) setpoint measured dt
  rw [stepP, stepQ] at error derivative total
  refine ⟨stepP, stepQ, error, derivative,
    compute_integral_sub_le later (run_same same before) setpoint measured dt, ?_⟩
  obtain ⟨-, ki, kd, -⟩ := PidCtrl.mk.inj tuning
  rw [ki, kd] at output
  refine output.trans (add_le_add (mul_le_mul_of_nonneg_left total tuned.ki)
    (mul_le_mul_of_nonneg_left (le_of_eq ?_) tuned.kd))
  rw [derivative, abs_div, abs_of_pos (by positivity : (0 : ℚ) < 2 ^ k)]

theorem controllers_converge_second :
    let p := pidInit (6 / 5) (1 / 10) (1 / 2) 20 40
    let q := { p with integral := 5, prevError := 3, prevDerivative := -2 }
    let x := pidCompute .exact ((controller .exact p).run [.compute 4 1 (1 / 100)]) 2 0 (1 / 50)
    let y := pidCompute .exact ((controller .exact q).run [.compute 4 1 (1 / 100)]) 2 0 (1 / 50)
    x.2.prevError = y.2.prevError ∧
      x.2.prevDerivative - y.2.prevDerivative = (0 - -2 - (0 - 3) / (1 / 100)) / 2 ^ 2 ∧
      |x.1 - y.1| ≤ 1 / 10 * |0 - 5| + 1 / 2 * (|0 - -2 - (0 - 3) / (1 / 100)| / 2 ^ 2) := by
  intro p q x y
  have tuned : WellTuned p := by constructor <;> norm_num [p, pidInit]
  have forward : ∀ call ∈ [.compute 4 1 (1 / 100)] ++ [.compute 2 0 (1 / 50)], PidCall.Forward call := by
    simp only [List.cons_append, List.nil_append, List.forall_mem_cons, PidCall.Forward]
    norm_num
  obtain ⟨-, -, error, derivative, -, output⟩ := controllers_converge tuned (q := q) rfl forward
  exact ⟨error, derivative, output⟩

end BukkisDrone.Pid
