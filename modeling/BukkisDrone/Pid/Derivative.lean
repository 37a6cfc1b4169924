import BukkisDrone.Numeric.Average
import BukkisDrone.Pid.HeldError

/-!
# The filtered derivative

With one time step the D filter holds the distance of the error from its running average since the
last reset. The average takes the error in, so the filter never sees the whole of a jump.
-/

namespace BukkisDrone.Pid
open Numeric Runs

/-- A reset, or a call with time step `dt` and an error of at most `E`. -/
def PidCall.Within (E dt : ℚ) : PidCall → Prop
  | .compute setpoint measured step => |setpoint - measured| ≤ E ∧ step = dt
  | .reset => True

def PidCall.record (errors : List ℚ) : PidCall → List ℚ
  | .compute setpoint measured _ => errors ++ [setpoint - measured]
  | .reset => []

/-- The errors of the calls since the last reset, the latest at the end. -/
def errorsSinceReset (calls : List PidCall) : List ℚ := calls.foldl PidCall.record []

theorem errorsSinceReset_snoc (calls : List PidCall) (call : PidCall) :
    errorsSinceReset (calls ++ [call]) = call.record (errorsSinceReset calls) := by
  simp [errorsSinceReset]

theorem errorsSinceReset_le {E dt : ℚ} {calls : List PidCall} (within : ∀ call ∈ calls, call.Within E dt) :
    ∀ e ∈ errorsSinceReset calls, |e| ≤ E := by
  induction calls using List.reverseRecOn with
  | nil => simp [errorsSinceReset]
  | append_singleton calls call ih =>
    have last := within call (by simp)
    have before := ih fun c member => within c (List.mem_append_left _ member)
    rw [errorsSinceReset_snoc]
    cases call with
    | reset => simp [PidCall.record]
    | compute setpoint measured step =>
      intro e member
      rcases List.mem_append.mp member with old | new
      · exact before e old
      · exact List.mem_singleton.mp new ▸ last.1

/-- How the filter's memory follows from the errors since the last reset. -/
structure Tracks (dt : ℚ) (errors : List ℚ) (pid : PidCtrl) : Prop where
  error : pid.prevError = errors.getLastD 0
  derivative : pid.prevDerivative * dt = errors.getLastD 0 - runningAverage errors

theorem Fresh.tracks {pid : PidCtrl} (fresh : Fresh pid) (dt : ℚ) : Tracks dt [] pid := by
  obtain ⟨-, error, derivative⟩ := fresh.memory
  exact ⟨error, by rw [derivative]; simp⟩

theorem apply_tracks {E dt : ℚ} (forward : 0 < dt) {errors : List ℚ} {pid : PidCtrl}
    (tracks : Tracks dt errors pid) {call : PidCall} (within : call.Within E dt) :
    Tracks dt (call.record errors) (call.apply .exact pid) := by
  cases call with
  | reset => exact (Fresh.reset pid).tracks dt
  | compute setpoint measured step =>
    obtain ⟨-, rfl⟩ := within
    refine ⟨by simp [PidCall.record, PidCall.apply, pidCompute], ?_⟩
    have filtered : (pidCompute .exact pid setpoint measured step).2.prevDerivative * step =
        (setpoint - measured - pid.prevError + pid.prevDerivative * step) / 2 := by
      rw [compute_derivative, kick]
      field_simp
    rw [PidCall.apply, filtered, tracks.error, tracks.derivative]
    simp only [PidCall.record, List.getLastD_concat, runningAverage_snoc]
    ring

theorem run_tracks {pid : PidCtrl} (fresh : Fresh pid) {E dt : ℚ} (forward : 0 < dt)
    {calls : List PidCall} (within : ∀ call ∈ calls, call.Within E dt) :
    Tracks dt (errorsSinceReset calls) ((controller .exact pid).run calls) := by
  refine Machine.run_allowed (M := controller .exact pid)
    (P := fun calls s => Tracks dt (errorsSinceReset calls) s) (fresh.tracks dt) ?_ within
  intro calls call last before
  rw [errorsSinceReset_snoc]
  exact apply_tracks forward before last

theorem Tracks.abs_derivative_le {E dt : ℚ} (forward : 0 < dt) {errors : List ℚ} {pid : PidCtrl}
    (tracks : Tracks dt errors pid) (small : ∀ e ∈ errors, |e| ≤ E) :
    |pid.prevDerivative| ≤ E * (1 - 1 / 2 ^ errors.length) / dt := by
  rw [le_div_iff₀ forward, ← abs_of_pos forward, ← abs_mul, tracks.derivative]
  rcases List.eq_nil_or_concat errors with rfl | ⟨before, last, rfl⟩
  · simp
  · rw [List.concat_eq_append] at small ⊢
    rw [List.getLastD_concat, List.length_append, List.length_singleton]
    exact abs_sub_runningAverage_le small

theorem errorsSinceReset_replicate (n : ℕ) (setpoint measured dt : ℚ) :
    errorsSinceReset (List.replicate n (.compute setpoint measured dt)) =
      List.replicate n (setpoint - measured) := by
  induction n with
  | zero => rfl
  | succ n ih =>
    rw [List.replicate_succ', List.replicate_succ', errorsSinceReset_snoc, ih]
    rfl

/-- The worst case: the error waits at one end and then jumps to the other. -/
theorem derivative_reached {pid : PidCtrl} (fresh : Fresh pid) {E dt : ℚ} (nonneg : 0 ≤ E)
    (forward : 0 < dt) (n : ℕ) : ∃ calls : List PidCall, (∀ call ∈ calls, call.Within E dt) ∧
      (errorsSinceReset calls).length = n + 1 ∧
      ((controller .exact pid).run calls).prevDerivative = E * (1 - 1 / 2 ^ (n + 1)) / dt := by
  have within : ∀ call ∈ List.replicate n (.compute (-E) 0 dt) ++ [.compute E 0 dt],
      PidCall.Within E dt call := by
    intro call member
    rcases List.mem_append.mp member with old | new
    · rw [List.eq_of_mem_replicate old]
      exact ⟨by rw [sub_zero, abs_neg, abs_of_nonneg nonneg], rfl⟩
    · rw [List.mem_singleton.mp new]
      exact ⟨by rw [sub_zero, abs_of_nonneg nonneg], rfl⟩
  have errors : errorsSinceReset (List.replicate n (.compute (-E) 0 dt) ++ [.compute E 0 dt]) =
      List.replicate n (-E) ++ [E] := by
    rw [errorsSinceReset_snoc, errorsSinceReset_replicate, PidCall.record, sub_zero, sub_zero]
  refine ⟨_, within, by rw [errors]; simp, ?_⟩
  have tracks := (run_tracks fresh forward within).derivative
  rw [errors, List.getLastD_concat, runningAverage_snoc, runningAverage_replicate] at tracks
  rw [eq_div_iff forward.ne', tracks, pow_succ]
  field_simp
  ring

/-- The filtered derivative is the distance of the error from its running average, at most `E` in
`dt` times what `n` halvings leave. That much it reaches. -/
theorem derivative_from_average {pid : PidCtrl} (fresh : Fresh pid) {E dt : ℚ} (nonneg : 0 ≤ E)
    (forward : 0 < dt) :
    (∀ calls : List PidCall, (∀ call ∈ calls, call.Within E dt) →
      let errors := errorsSinceReset calls
      let s := (controller .exact pid).run calls
      s.prevDerivative * dt = errors.getLastD 0 - runningAverage errors ∧
        |s.prevDerivative| ≤ E * (1 - 1 / 2 ^ errors.length) / dt ∧
        |pid.kd * s.prevDerivative| ≤ |pid.kd| * E / dt) ∧
    ∀ n : ℕ, ∃ calls : List PidCall, (∀ call ∈ calls, call.Within E dt) ∧
      (errorsSinceReset calls).length = n + 1 ∧
      ((controller .exact pid).run calls).prevDerivative = E * (1 - 1 / 2 ^ (n + 1)) / dt := by
  refine ⟨fun calls within => ?_, derivative_reached fresh nonneg forward⟩
  intro errors s
  have tracks := run_tracks fresh forward within
  have bound := tracks.abs_derivative_le forward (errorsSinceReset_le within)
  refine ⟨tracks.derivative, bound, ?_⟩
  have share : E * (1 - 1 / 2 ^ errors.length) ≤ E := mul_le_of_le_one_right nonneg (by simp)
  calc |pid.kd * s.prevDerivative| = |pid.kd| * |s.prevDerivative| := abs_mul _ _
    _ ≤ |pid.kd| * (E / dt) :=
      mul_le_mul_of_nonneg_left (bound.trans (div_le_div_of_nonneg_right share forward.le)) (abs_nonneg _)
    _ = |pid.kd| * E / dt := (mul_div_assoc _ _ _).symm

theorem derivative_from_average_jump :
    let calls := List.replicate 10 (.compute 7 0 (1 / 100)) ++
      [.reset, .compute (-10) 0 (1 / 100), .compute 10 0 (1 / 100)]
    let s := (controller .exact (pidInit (6 / 5) 0 (1 / 2) 20 40)).run calls
    s.prevDerivative * (1 / 100) = 10 - runningAverage [-10, 10] ∧
      |s.prevDerivative| ≤ 10 * (1 - 1 / 2 ^ 2) / (1 / 100) := by
  intro calls s
  have within : ∀ call ∈ calls, PidCall.Within 10 (1 / 100) call := by
    simp only [calls, List.forall_mem_append, List.forall_mem_cons, List.mem_replicate, PidCall.Within]
    norm_num [abs_of_pos, abs_of_neg]
  have errors : errorsSinceReset calls = [-10, 10] := by decide +kernel
  obtain ⟨average, bound, -⟩ := (derivative_from_average (Fresh.init (6 / 5) 0 (1 / 2) 20 40)
    (by norm_num : (0 : ℚ) ≤ 10) (by norm_num : (0 : ℚ) < 1 / 100)).1 calls within
  rw [errors] at average bound
  exact ⟨average, bound⟩

end BukkisDrone.Pid
