import BukkisDrone.Flight.Commands
import BukkisDrone.Motor.Ledc
import BukkisDrone.Pid.Controller
import BukkisDrone.Sensor.Mpu6050

/-!
# The flight loop

`app_main`: the state on entry to the loop, and one iteration of its body. Callbacks run between
two iterations.
-/

namespace BukkisDrone.Flight
open Bluetooth Motor Numeric Pid Runs Sensor

def clamp (value min max : ℚ) : ℚ := limit value min max

def dt (ρ : Rounding) : ℚ := ρ (1 / 100)

structure Control where
  duties : Duties
  pidPitch : PidCtrl
  pidRoll : PidCtrl

def mixer (ρ : Rounding) (throttleCmd outPitch outRoll : ℚ) : MotorId → ℚ
  | .fl => clamp (ρ (ρ (throttleCmd + outPitch) - outRoll)) 0 100
  | .fr => clamp (ρ (ρ (throttleCmd + outPitch) + outRoll)) 0 100
  | .bl => clamp (ρ (ρ (throttleCmd - outPitch) - outRoll)) 0 100
  | .br => clamp (ρ (ρ (throttleCmd - outPitch) + outRoll)) 0 100

def setSpeeds (ρ : Rounding) (speeds : MotorId → ℚ) (duties : Duties) : Duties :=
  motors.foldl (fun duties motor => motorSetSpeed ρ motor (speeds motor) duties) duties

/-- The second half of the loop body, from the commands and the measured angles on. -/
def motorControl (ρ : Rounding) (c : Control) (cmd : Commands) (winkel : Angles) : Control :=
  if 2 < cmd.throttleCmd then
    let (outPitch, pidPitch) := pidCompute ρ c.pidPitch cmd.pitchCmd winkel.pitch (dt ρ)
    let (outRoll, pidRoll) := pidCompute ρ c.pidRoll cmd.rollCmd winkel.roll (dt ρ)
    { duties := setSpeeds ρ (mixer ρ cmd.throttleCmd outPitch outRoll) c.duties
      pidPitch := pidPitch
      pidRoll := pidRoll }
  else
    { duties := setSpeeds ρ (fun _ => 0) c.duties
      pidPitch := pidReset c.pidPitch
      pidRoll := pidReset c.pidRoll }

structure Drone where
  control : Control
  filter : Filter
  aktuelleWinkel : Angles
  bt : Globals

def appMainLoop (ρ : Rounding) (libm : Libm) (i2c : I2cRead) (s : Drone) : Drone :=
  let (err, filter, winkel) := mpu6050ReadAngles ρ libm i2c s.filter s.aktuelleWinkel
  let s := { s with filter := filter, aktuelleWinkel := winkel }
  if err = espOk then
    { s with control := motorControl ρ s.control (commands ρ s.bt) s.aktuelleWinkel }
  else s

/-- What the boot code does not determine: the registers, the clock, the stack. -/
structure PowerUp where
  duties : Duties
  startTime : UInt64
  winkel : Angles

def flightPid (ρ : Rounding) : PidCtrl := pidInit (ρ (6 / 5)) 0 (ρ (1 / 2)) 20 40

/-- Cleared registers, and a clock that starts with the boot. -/
def PowerUp.cold : PowerUp := ⟨off, 0, ⟨0, 0⟩⟩

def bootControl (ρ : Rounding) (duties : Duties) : Control where
  duties := motorTestSequence ρ (motorInit duties)
  pidPitch := flightPid ρ
  pidRoll := flightPid ρ

def boot (ρ : Rounding) (power : PowerUp) : Drone where
  control := bootControl ρ power.duties
  filter := Filter.boot power.startTime
  aktuelleWinkel := power.winkel
  bt := Globals.zero

variable {δ : Type*}

/-- One iteration: the callbacks since the last one, and the sensor's answer. -/
structure Period (δ : Type*) where
  callbacks : List (Callback δ)
  i2c : I2cRead

def Period.Reads (p : Period δ) : Prop := p.i2c.Ok

instance (p : Period δ) : Decidable p.Reads := inferInstanceAs (Decidable p.i2c.Ok)

def Drone.receive (s : Drone) (callbacks : List (Callback δ)) : Drone :=
  { s with bt := callbacks.foldl Callback.apply s.bt }

def flight (ρ : Rounding) (libm : Libm) (power : PowerUp) (δ : Type*) : Machine Drone (Period δ) where
  init := boot ρ power
  step s p := appMainLoop ρ libm p.i2c (s.receive p.callbacks)

/-! ### What a step does -/

theorem setSpeeds_eq (ρ : Rounding) (speeds : MotorId → ℚ) (duties : Duties) :
    setSpeeds ρ speeds duties = fun motor => dutyOf ρ (speeds motor) := by
  funext motor
  simp only [setSpeeds, motors, List.foldl_cons, List.foldl_nil]
  cases motor <;> simp [motorSetSpeed]

theorem motorControl_released (ρ : Rounding) (c : Control) {cmd : Commands} (winkel : Angles)
    (h : cmd.throttleCmd ≤ 2) :
    motorControl ρ c cmd winkel = ⟨off, pidReset c.pidPitch, pidReset c.pidRoll⟩ := by
  rw [motorControl, if_neg (not_lt.mpr h), setSpeeds_eq]
  congr 1
  funext motor
  exact dutyOf_zero ρ

theorem motorControl_engaged (ρ : Rounding) (c : Control) {cmd : Commands} (winkel : Angles)
    (h : 2 < cmd.throttleCmd) :
    motorControl ρ c cmd winkel =
      let pitch := pidCompute ρ c.pidPitch cmd.pitchCmd winkel.pitch (dt ρ)
      let roll := pidCompute ρ c.pidRoll cmd.rollCmd winkel.roll (dt ρ)
      ⟨fun motor => dutyOf ρ (mixer ρ cmd.throttleCmd pitch.1 roll.1 motor), pitch.2, roll.2⟩ := by
  rw [motorControl, if_pos h]
  exact congrArg (Control.mk · _ _) (setSpeeds_eq ρ _ c.duties)

theorem appMainLoop_failed (ρ : Rounding) (libm : Libm) {i2c : I2cRead} (failed : ¬i2c.Ok)
    (s : Drone) : appMainLoop ρ libm i2c s = s := by
  rw [appMainLoop, readAngles_failed ρ libm failed]
  exact if_neg failed

theorem appMainLoop_ok (ρ : Rounding) (libm : Libm) {i2c : I2cRead} (ok : i2c.Ok) (s : Drone) :
    appMainLoop ρ libm i2c s =
      let read := (mpu6050ReadAngles ρ libm i2c s.filter s.aktuelleWinkel).2
      { control := motorControl ρ s.control (commands ρ s.bt) read.2
        filter := read.1
        aktuelleWinkel := read.2
        bt := s.bt } := by
  have err := readAngles_err ρ libm i2c s.filter s.aktuelleWinkel
  rw [appMainLoop]
  generalize mpu6050ReadAngles ρ libm i2c s.filter s.aktuelleWinkel = r at err ⊢
  obtain ⟨code, filter, winkel⟩ := r
  exact if_pos (err.trans ok)

@[simp] theorem appMainLoop_bt (ρ : Rounding) (libm : Libm) (i2c : I2cRead) (s : Drone) :
    (appMainLoop ρ libm i2c s).bt = s.bt := by
  by_cases ok : i2c.Ok
  · rw [appMainLoop_ok ρ libm ok]
  · rw [appMainLoop_failed ρ libm ok]

/-! ### Gains and limits -/

/-- Both controllers have the gains and limits of `app_main`. -/
structure Tuned (ρ : Rounding) (c : Control) : Prop where
  pitch : pidReset c.pidPitch = flightPid ρ
  roll : pidReset c.pidRoll = flightPid ρ

theorem flightPid_wellTuned (ρ : Rounding) : WellTuned (flightPid ρ) where
  kp := Rounding.apply_nonneg (by norm_num)
  ki := le_rfl
  kd := Rounding.apply_nonneg (by norm_num)
  iLimit := by norm_num [flightPid, pidInit]
  outLimit := by norm_num [flightPid, pidInit]

theorem Tuned.limits {ρ : Rounding} {c : Control} (tuned : Tuned ρ c) :
    WellTuned c.pidPitch ∧ WellTuned c.pidRoll :=
  ⟨(flightPid_wellTuned ρ).of_reset tuned.pitch, (flightPid_wellTuned ρ).of_reset tuned.roll⟩

theorem Tuned.abs_outPitch_le {ρ : Rounding} {c : Control} (tuned : Tuned ρ c) (setpoint measured : ℚ) :
    |(pidCompute ρ c.pidPitch setpoint measured (dt ρ)).1| ≤ 40 := by
  have limit : c.pidPitch.outLimit = 40 := congrArg PidCtrl.outLimit tuned.pitch
  exact limit ▸ abs_output_le ρ tuned.limits.1.outLimit setpoint measured (dt ρ)

theorem Tuned.abs_outRoll_le {ρ : Rounding} {c : Control} (tuned : Tuned ρ c) (setpoint measured : ℚ) :
    |(pidCompute ρ c.pidRoll setpoint measured (dt ρ)).1| ≤ 40 := by
  have limit : c.pidRoll.outLimit = 40 := congrArg PidCtrl.outLimit tuned.roll
  exact limit ▸ abs_output_le ρ tuned.limits.2.outLimit setpoint measured (dt ρ)

theorem bootControl_tuned (ρ : Rounding) (duties : Duties) : Tuned ρ (bootControl ρ duties) :=
  ⟨rfl, rfl⟩

theorem motorControl_tuned {ρ : Rounding} {c : Control} (tuned : Tuned ρ c) (cmd : Commands)
    (winkel : Angles) : Tuned ρ (motorControl ρ c cmd winkel) := by
  rcases le_or_gt cmd.throttleCmd 2 with released | engaged
  · rw [motorControl_released ρ c winkel released]
    exact ⟨tuned.pitch, tuned.roll⟩
  · rw [motorControl_engaged ρ c winkel engaged]
    exact ⟨tuned.pitch, tuned.roll⟩

theorem appMainLoop_tuned {ρ : Rounding} {libm : Libm} (i2c : I2cRead) {s : Drone}
    (tuned : Tuned ρ s.control) : Tuned ρ (appMainLoop ρ libm i2c s).control := by
  by_cases ok : i2c.Ok
  · rw [appMainLoop_ok ρ libm ok]
    exact motorControl_tuned tuned _ _
  · rwa [appMainLoop_failed ρ libm ok]

theorem flight_tuned (ρ : Rounding) (libm : Libm) (power : PowerUp) (periods : List (Period δ)) :
    Tuned ρ ((flight ρ libm power δ).run periods).control :=
  Machine.run_history (M := flight ρ libm power δ) (P := fun _ s => Tuned ρ s.control)
    (bootControl_tuned ρ _) (fun _ p ih => appMainLoop_tuned p.i2c ih) periods

theorem flight_bt (ρ : Rounding) (libm : Libm) (power : PowerUp) (periods : List (Period δ)) :
    ((flight ρ libm power δ).run periods).bt =
      (platform δ).run (periods.flatMap Period.callbacks) := by
  induction periods using List.reverseRecOn with
  | nil => rfl
  | append_singleton periods p ih =>
    rw [Machine.run_snoc, List.flatMap_append, Machine.run_append, ← ih]
    simp [flight, Drone.receive, Machine.run, Machine.resume, platform]

/-- The state in which the loop body of iteration `p` starts. -/
def entered (ρ : Rounding) (libm : Libm) (power : PowerUp) (periods : List (Period δ))
    (p : Period δ) : Drone :=
  ((flight ρ libm power δ).run periods).receive p.callbacks

theorem flight_snoc (ρ : Rounding) (libm : Libm) (power : PowerUp) (periods : List (Period δ))
    (p : Period δ) : (flight ρ libm power δ).run (periods ++ [p]) =
      appMainLoop ρ libm p.i2c (entered ρ libm power periods p) :=
  Machine.run_snoc _ _ _

def measured (ρ : Rounding) (libm : Libm) (power : PowerUp) (periods : List (Period δ))
    (p : Period δ) : Angles :=
  let s := entered ρ libm power periods p
  (mpu6050ReadAngles ρ libm p.i2c s.filter s.aktuelleWinkel).2.2

theorem flight_control (ρ : Rounding) (libm : Libm) (power : PowerUp) (periods : List (Period δ))
    {p : Period δ} (reads : p.Reads) :
    ((flight ρ libm power δ).run (periods ++ [p])).control =
      motorControl ρ (entered ρ libm power periods p).control
        (commands ρ (entered ρ libm power periods p).bt) (measured ρ libm power periods p) := by
  rw [flight_snoc, appMainLoop_ok ρ libm reads]; rfl

theorem flight_filter (ρ : Rounding) (libm : Libm) (power : PowerUp) (periods : List (Period δ))
    {p : Period δ} (reads : p.Reads) :
    ((flight ρ libm power δ).run (periods ++ [p])).filter =
      (mpu6050ReadAngles ρ libm p.i2c (entered ρ libm power periods p).filter
        (entered ρ libm power periods p).aktuelleWinkel).2.1 := by
  rw [flight_snoc, appMainLoop_ok ρ libm reads]

theorem flight_lastReadTime (ρ : Rounding) (libm : Libm) (power : PowerUp) (periods : List (Period δ))
    {p : Period δ} (reads : p.Reads) :
    ((flight ρ libm power δ).run (periods ++ [p])).filter.lastReadTime = p.i2c.currentTime := by
  rw [flight_filter ρ libm power periods reads, readAngles_time ρ libm reads]

theorem flight_suspended (ρ : Rounding) (libm : Libm) (power : PowerUp) (periods : List (Period δ))
    {fails : List (Period δ)} (failed : ∀ p ∈ fails, ¬p.Reads) :
    ((flight ρ libm power δ).run (periods ++ fails)).control =
        ((flight ρ libm power δ).run periods).control ∧
      ((flight ρ libm power δ).run (periods ++ fails)).filter =
        ((flight ρ libm power δ).run periods).filter := by
  induction fails using List.reverseRecOn with
  | nil => simp
  | append_singleton fails p ih =>
    have last := failed p (by simp)
    have before := ih fun x hx => failed x (List.mem_append_left _ hx)
    rw [← List.append_assoc, flight_snoc, appMainLoop_failed ρ libm last]
    exact before

theorem entered_bt (ρ : Rounding) (libm : Libm) (power : PowerUp) (periods : List (Period δ))
    (p : Period δ) : (entered ρ libm power periods p).bt =
      (platform δ).run ((periods ++ [p]).flatMap Period.callbacks) := by
  rw [← flight_bt ρ libm power, flight_snoc, appMainLoop_bt]

theorem entered_tuned (ρ : Rounding) (libm : Libm) (power : PowerUp) (periods : List (Period δ))
    (p : Period δ) : Tuned ρ (entered ρ libm power periods p).control :=
  flight_tuned ρ libm power periods

/-! ### The control loop alone -/

/-- What the second half of the loop body gets from the first: whether the read succeeded, the
commands and the measured angles. -/
structure ControlInput where
  sensorOk : Bool
  cmd : Commands
  winkel : Angles

def controlStep (ρ : Rounding) (c : Control) (input : ControlInput) : Control :=
  if input.sensorOk then motorControl ρ c input.cmd input.winkel else c

def controlLoop (ρ : Rounding) (c : Control) : Machine Control ControlInput where
  init := c
  step := controlStep ρ

def controlInput (ρ : Rounding) (libm : Libm) (i2c : I2cRead) (s : Drone) : ControlInput :=
  let (err, _, winkel) := mpu6050ReadAngles ρ libm i2c s.filter s.aktuelleWinkel
  { sensorOk := err = espOk
    cmd := commands ρ s.bt
    winkel := winkel }

def controlInputs (ρ : Rounding) (libm : Libm) : Drone → List (Period δ) → List ControlInput
  | _, [] => []
  | s, p :: rest =>
    let s := s.receive p.callbacks
    controlInput ρ libm p.i2c s :: controlInputs ρ libm (appMainLoop ρ libm p.i2c s) rest

theorem appMainLoop_control (ρ : Rounding) (libm : Libm) (i2c : I2cRead) (s : Drone) :
    (appMainLoop ρ libm i2c s).control = controlStep ρ s.control (controlInput ρ libm i2c s) := by
  rw [appMainLoop, controlStep, controlInput]
  generalize mpu6050ReadAngles ρ libm i2c s.filter s.aktuelleWinkel = r
  obtain ⟨err, filter, winkel⟩ := r
  by_cases ok : err = espOk <;> simp [ok]

theorem resume_control (ρ : Rounding) (libm : Libm) (power : PowerUp) (s : Drone)
    (periods : List (Period δ)) :
    (((flight ρ libm power δ).resume s).run periods).control =
      (controlLoop ρ s.control).run (controlInputs ρ libm s periods) := by
  induction periods generalizing s with
  | nil => rfl
  | cons p rest ih =>
    have first := appMainLoop_control ρ libm p.i2c (s.receive p.callbacks)
    have later := ih (appMainLoop ρ libm p.i2c (s.receive p.callbacks))
    rw [first] at later
    exact later

theorem controlStep_tuned {ρ : Rounding} {c : Control} (tuned : Tuned ρ c) (input : ControlInput) :
    Tuned ρ (controlStep ρ c input) := by
  unfold controlStep
  split
  · exact motorControl_tuned tuned _ _
  · exact tuned

end BukkisDrone.Flight
