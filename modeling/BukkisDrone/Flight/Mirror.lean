import BukkisDrone.Flight.Loop

/-!
# Mirror symmetry

Mirroring every command and every measured angle of one axis mirrors the motors and the memory of
that axis's controller, over whole runs. This rests on the symmetry of the rounding.
-/

namespace BukkisDrone.Flight
open Motor Numeric Pid Runs Sensor

def mirrorRollMotor : MotorId → MotorId
  | .fl => .fr
  | .fr => .fl
  | .bl => .br
  | .br => .bl

def mirrorPitchMotor : MotorId → MotorId
  | .fl => .bl
  | .fr => .br
  | .bl => .fl
  | .br => .fr

def ControlInput.mirrorRoll (input : ControlInput) : ControlInput :=
  { input with
    cmd := { input.cmd with rollCmd := -input.cmd.rollCmd }
    winkel := { input.winkel with roll := -input.winkel.roll } }

def ControlInput.mirrorPitch (input : ControlInput) : ControlInput :=
  { input with
    cmd := { input.cmd with pitchCmd := -input.cmd.pitchCmd }
    winkel := { input.winkel with pitch := -input.winkel.pitch } }

def Control.mirrorRoll (c : Control) : Control :=
  { c with duties := c.duties ∘ mirrorRollMotor, pidRoll := c.pidRoll.negate }

def Control.mirrorPitch (c : Control) : Control :=
  { c with duties := c.duties ∘ mirrorPitchMotor, pidPitch := c.pidPitch.negate }

theorem off_comp (f : MotorId → MotorId) : off ∘ f = off := rfl

theorem mixer_mirrorRoll (ρ : Rounding) (throttleCmd outPitch outRoll : ℚ) (motor : MotorId) :
    mixer ρ throttleCmd outPitch (-outRoll) motor =
      mixer ρ throttleCmd outPitch outRoll (mirrorRollMotor motor) := by
  cases motor <;> simp [mixer, mirrorRollMotor, ← sub_eq_add_neg]

theorem mixer_mirrorPitch (ρ : Rounding) (throttleCmd outPitch outRoll : ℚ) (motor : MotorId) :
    mixer ρ throttleCmd (-outPitch) outRoll motor =
      mixer ρ throttleCmd outPitch outRoll (mirrorPitchMotor motor) := by
  cases motor <;> simp [mixer, mirrorPitchMotor, ← sub_eq_add_neg]

/-! ### One step -/

theorem controlStep_mirrorRoll {ρ : Rounding} {c : Control} (tuned : Tuned ρ c) (input : ControlInput) :
    controlStep ρ c.mirrorRoll input.mirrorRoll = (controlStep ρ c input).mirrorRoll := by
  have limits := tuned.limits.2
  rcases Bool.eq_false_or_eq_true input.sensorOk with ok | failed
  · rw [controlStep, controlStep, if_pos (show input.mirrorRoll.sensorOk = true from ok), if_pos ok]
    rcases le_or_gt input.cmd.throttleCmd 2 with released | engaged
    · have released' : input.mirrorRoll.cmd.throttleCmd ≤ 2 := released
      rw [motorControl_released ρ c _ released, motorControl_released ρ _ _ released']
      simp [Control.mirrorRoll, pidReset, PidCtrl.negate, off_comp]
    · have engaged' : 2 < input.mirrorRoll.cmd.throttleCmd := engaged
      rw [motorControl_engaged ρ c _ engaged, motorControl_engaged ρ _ _ engaged']
      simp only [Control.mirrorRoll, ControlInput.mirrorRoll,
        pidCompute_negate ρ limits.iLimit limits.outLimit, mixer_mirrorRoll]
      rfl
  · rw [controlStep, controlStep, if_neg (by simp [failed, ControlInput.mirrorRoll]), if_neg (by simp [failed])]

theorem controlStep_mirrorPitch {ρ : Rounding} {c : Control} (tuned : Tuned ρ c) (input : ControlInput) :
    controlStep ρ c.mirrorPitch input.mirrorPitch = (controlStep ρ c input).mirrorPitch := by
  have limits := tuned.limits.1
  rcases Bool.eq_false_or_eq_true input.sensorOk with ok | failed
  · rw [controlStep, controlStep, if_pos (show input.mirrorPitch.sensorOk = true from ok), if_pos ok]
    rcases le_or_gt input.cmd.throttleCmd 2 with released | engaged
    · have released' : input.mirrorPitch.cmd.throttleCmd ≤ 2 := released
      rw [motorControl_released ρ c _ released, motorControl_released ρ _ _ released']
      simp [Control.mirrorPitch, pidReset, PidCtrl.negate, off_comp]
    · have engaged' : 2 < input.mirrorPitch.cmd.throttleCmd := engaged
      rw [motorControl_engaged ρ c _ engaged, motorControl_engaged ρ _ _ engaged']
      simp only [Control.mirrorPitch, ControlInput.mirrorPitch,
        pidCompute_negate ρ limits.iLimit limits.outLimit, mixer_mirrorPitch]
      rfl
  · rw [controlStep, controlStep, if_neg (by simp [failed, ControlInput.mirrorPitch]), if_neg (by simp [failed])]

/-! ### Whole runs -/

/-- A symmetry of the control loop's step and of its start is one of its runs. -/
theorem run_mirror {ρ : Rounding} {c : Control} {onInput : ControlInput → ControlInput}
    {onControl : Control → Control} (start : onControl c = c) (tuned : Tuned ρ c)
    (step : ∀ {c}, Tuned ρ c → ∀ input,
      controlStep ρ (onControl c) (onInput input) = onControl (controlStep ρ c input))
    (inputs : List ControlInput) :
    (controlLoop ρ c).run (inputs.map onInput) = onControl ((controlLoop ρ c).run inputs) := by
  have related := Machine.run_related (M := controlLoop ρ c) (N := controlLoop ρ c)
    (R := fun s t => Tuned ρ s ∧ t = onControl s) (f := onInput) ⟨tuned, start.symm⟩ ?_ inputs
  · exact related.2
  · rintro s t input ⟨tuned, rfl⟩
    exact ⟨controlStep_tuned tuned input, step tuned input⟩

theorem bootControl_mirrorRoll (ρ : Rounding) (duties : Duties) :
    (bootControl ρ duties).mirrorRoll = bootControl ρ duties := by
  simp [bootControl, Control.mirrorRoll, flightPid, off_comp]

theorem bootControl_mirrorPitch (ρ : Rounding) (duties : Duties) :
    (bootControl ρ duties).mirrorPitch = bootControl ρ duties := by
  simp [bootControl, Control.mirrorPitch, flightPid, off_comp]

structure Negated (pid other : PidCtrl) : Prop where
  integral : pid.integral = -other.integral
  prevError : pid.prevError = -other.prevError
  prevDerivative : pid.prevDerivative = -other.prevDerivative

theorem run_mirror_symmetric (ρ : Rounding) (duties : Duties) (inputs : List ControlInput) :
    let c := (controlLoop ρ (bootControl ρ duties)).run inputs
    let r := (controlLoop ρ (bootControl ρ duties)).run (inputs.map ControlInput.mirrorRoll)
    let p := (controlLoop ρ (bootControl ρ duties)).run (inputs.map ControlInput.mirrorPitch)
    (r.duties .fl = c.duties .fr ∧ r.duties .fr = c.duties .fl ∧
      r.duties .bl = c.duties .br ∧ r.duties .br = c.duties .bl ∧
      Negated r.pidRoll c.pidRoll ∧ r.pidPitch = c.pidPitch) ∧
    (p.duties .fl = c.duties .bl ∧ p.duties .bl = c.duties .fl ∧
      p.duties .fr = c.duties .br ∧ p.duties .br = c.duties .fr ∧
      Negated p.pidPitch c.pidPitch ∧ p.pidRoll = c.pidRoll) := by
  intro c r p
  have roll : r = c.mirrorRoll := run_mirror (bootControl_mirrorRoll ρ duties)
    (bootControl_tuned ρ duties) controlStep_mirrorRoll inputs
  have pitch : p = c.mirrorPitch := run_mirror (bootControl_mirrorPitch ρ duties)
    (bootControl_tuned ρ duties) controlStep_mirrorPitch inputs
  rw [roll, pitch]
  exact ⟨⟨rfl, rfl, rfl, rfl, ⟨rfl, rfl, rfl⟩, rfl⟩, ⟨rfl, rfl, rfl, rfl, ⟨rfl, rfl, rfl⟩, rfl⟩⟩

end BukkisDrone.Flight
