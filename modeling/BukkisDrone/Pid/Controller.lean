import Mathlib.Tactic.Ring
import BukkisDrone.Numeric.Limit
import BukkisDrone.Numeric.Rounding
import BukkisDrone.Runs.Machine

/-!
# The PID controller

`pid.c`, with every `float` operation rounded by `ρ`.
-/

namespace BukkisDrone.Pid
open Numeric Runs

structure PidCtrl where
  kp : ℚ
  ki : ℚ
  kd : ℚ
  iLimit : ℚ
  outLimit : ℚ
  integral : ℚ
  prevError : ℚ
  prevDerivative : ℚ
  deriving DecidableEq

def clamp (value min max : ℚ) : ℚ := limit value min max

def pidInit (kp ki kd iLimit outLimit : ℚ) : PidCtrl where
  kp := kp
  ki := ki
  kd := kd
  iLimit := iLimit
  outLimit := outLimit
  integral := 0
  prevError := 0
  prevDerivative := 0

/-- The returned output, and the controller as the call leaves it. -/
def pidCompute (ρ : Rounding) (pid : PidCtrl) (setpoint measured dt : ℚ) : ℚ × PidCtrl :=
  let error := ρ (setpoint - measured)
  let pOut := ρ (pid.kp * error)
  let integral := ρ (pid.integral + ρ (error * dt))
  let integral := clamp integral (-pid.iLimit) pid.iLimit
  let iOut := ρ (pid.ki * integral)
  let derivative := ρ (ρ (error - pid.prevError) / dt)
  let derivative := ρ (ρ (1 / 2 * derivative) + ρ (1 / 2 * pid.prevDerivative))
  let dOut := ρ (pid.kd * derivative)
  let output := ρ (ρ (pOut + iOut) + dOut)
  (clamp output (-pid.outLimit) pid.outLimit,
    { pid with integral := integral, prevError := error, prevDerivative := derivative })

def pidReset (pid : PidCtrl) : PidCtrl :=
  { pid with integral := 0, prevError := 0, prevDerivative := 0 }

/-! ### Gains and limits

Two controllers have the same gains and limits when they agree after a reset. -/

/-- Gains and limits as every caller sets them. -/
structure WellTuned (pid : PidCtrl) : Prop where
  kp : 0 ≤ pid.kp
  ki : 0 ≤ pid.ki
  kd : 0 ≤ pid.kd
  iLimit : 0 ≤ pid.iLimit
  outLimit : 0 ≤ pid.outLimit

theorem WellTuned.of_reset {pid other : PidCtrl} (h : WellTuned pid)
    (same : pidReset other = pidReset pid) : WellTuned other := by
  obtain ⟨kp, ki, kd, iLimit, outLimit⟩ := h
  simp only [pidReset, PidCtrl.mk.injEq] at same
  obtain ⟨h₁, h₂, h₃, h₄, h₅, -⟩ := same
  exact ⟨h₁ ▸ kp, h₂ ▸ ki, h₃ ▸ kd, h₄ ▸ iLimit, h₅ ▸ outLimit⟩

theorem abs_output_le (ρ : Rounding) {pid : PidCtrl} (h : 0 ≤ pid.outLimit)
    (setpoint measured dt : ℚ) : |(pidCompute ρ pid setpoint measured dt).1| ≤ pid.outLimit :=
  abs_limit_le h _

theorem output_mono (ρ : Rounding) {pid : PidCtrl} (tuned : WellTuned pid) (measured : ℚ) {dt : ℚ}
    (nonneg : 0 ≤ dt) : Monotone fun setpoint => (pidCompute ρ pid setpoint measured dt).1 := by
  intro a b le
  obtain ⟨kp, ki, kd, iLimit, outLimit⟩ := tuned
  have add : ∀ {u v x y : ℚ}, u ≤ v → x ≤ y → ρ (u + x) ≤ ρ (v + y) := fun h h' => ρ.mono (add_le_add h h')
  have scale : ∀ {c u v : ℚ}, 0 ≤ c → u ≤ v → ρ (c * u) ≤ ρ (c * v) :=
    fun h h' => ρ.mono (mul_le_mul_of_nonneg_left h' h)
  have error : ρ (a - measured) ≤ ρ (b - measured) := ρ.mono (sub_le_sub_right le _)
  have integral : clamp (ρ (pid.integral + ρ (ρ (a - measured) * dt))) (-pid.iLimit) pid.iLimit ≤
      clamp (ρ (pid.integral + ρ (ρ (b - measured) * dt))) (-pid.iLimit) pid.iLimit :=
    limit_mono (neg_le_of_nonneg iLimit) (add le_rfl (ρ.mono (mul_le_mul_of_nonneg_right error nonneg)))
  have derivative : ρ (ρ (ρ (a - measured) - pid.prevError) / dt) ≤
      ρ (ρ (ρ (b - measured) - pid.prevError) / dt) :=
    ρ.mono (div_le_div_of_nonneg_right (ρ.mono (sub_le_sub_right error _)) nonneg)
  have filtered := add (scale (c := 1 / 2) (by norm_num) derivative) (le_refl (ρ (1 / 2 * pid.prevDerivative)))
  exact limit_mono (neg_le_of_nonneg outLimit)
    (add (add (scale kp error) (scale ki integral)) (scale kd filtered))

/-! ### Sign symmetry -/

def PidCtrl.negate (pid : PidCtrl) : PidCtrl :=
  { pid with
    integral := -pid.integral
    prevError := -pid.prevError
    prevDerivative := -pid.prevDerivative }

@[simp] theorem pidInit_negate (kp ki kd iLimit outLimit : ℚ) :
    (pidInit kp ki kd iLimit outLimit).negate = pidInit kp ki kd iLimit outLimit := by
  simp [pidInit, PidCtrl.negate]

theorem pidCompute_negate (ρ : Rounding) {pid : PidCtrl} (hi : 0 ≤ pid.iLimit)
    (ho : 0 ≤ pid.outLimit) (setpoint measured dt : ℚ) :
    pidCompute ρ pid.negate (-setpoint) (-measured) dt =
      (-(pidCompute ρ pid setpoint measured dt).1, (pidCompute ρ pid setpoint measured dt).2.negate) := by
  have neg_error : ρ (-setpoint - -measured) = -ρ (setpoint - measured) := by
    rw [← ρ.apply_neg]; congr 1; ring
  have neg_sum : ∀ a b : ℚ, ρ (-a + -b) = -ρ (a + b) := by
    intro a b; rw [← ρ.apply_neg]; congr 1; ring
  have neg_sub : ∀ a b : ℚ, ρ (-a - -b) = -ρ (a - b) := by
    intro a b; rw [← ρ.apply_neg]; congr 1; ring
  simp only [pidCompute, PidCtrl.negate, clamp, neg_error, neg_mul, mul_neg, neg_div, ρ.apply_neg,
    neg_sum, neg_sub, limit_neg hi, limit_neg ho]

/-! ### Sequences of calls -/

inductive PidCall where
  | compute (setpoint measured dt : ℚ)
  | reset

def PidCall.apply (ρ : Rounding) (pid : PidCtrl) : PidCall → PidCtrl
  | .compute setpoint measured dt => (pidCompute ρ pid setpoint measured dt).2
  | .reset => pidReset pid

def controller (ρ : Rounding) (pid : PidCtrl) : Machine PidCtrl PidCall where
  init := pid
  step := PidCall.apply ρ

theorem apply_tuning (ρ : Rounding) (pid : PidCtrl) (call : PidCall) :
    pidReset (call.apply ρ pid) = pidReset pid := by
  cases call <;> rfl

theorem run_tuning (ρ : Rounding) (pid : PidCtrl) (calls : List PidCall) :
    pidReset ((controller ρ pid).run calls) = pidReset pid :=
  Machine.run_history (P := fun _ s => pidReset s = pidReset pid) rfl
    (fun _ call ih => (apply_tuning ρ _ call).trans ih) calls

theorem run_iLimit (ρ : Rounding) (pid : PidCtrl) (calls : List PidCall) :
    ((controller ρ pid).run calls).iLimit = pid.iLimit :=
  (PidCtrl.mk.inj (run_tuning ρ pid calls)).2.2.2.1

theorem run_integral_le (ρ : Rounding) {pid : PidCtrl} (bounded : |pid.integral| ≤ pid.iLimit)
    (calls : List PidCall) : |((controller ρ pid).run calls).integral| ≤ pid.iLimit := by
  have nonneg : 0 ≤ pid.iLimit := (abs_nonneg _).trans bounded
  refine Machine.run_history (M := controller ρ pid) (P := fun _ s => |s.integral| ≤ pid.iLimit) bounded ?_ calls
  intro calls call _
  cases call with
  | compute setpoint measured dt =>
    have limit := run_iLimit ρ pid calls
    rw [← limit] at nonneg ⊢
    exact abs_limit_le nonneg _
  | reset => exact abs_zero.trans_le nonneg

end BukkisDrone.Pid
