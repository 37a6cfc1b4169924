import BukkisDrone.Flight.Mixer

/-!
# From stick to duty

One iteration is monotone in each stick, across the dead zone, the cut-off, both controllers and
every clamp, and with every rounding.
-/

namespace BukkisDrone.Flight
open Bluetooth Motor Numeric Pid Runs Sensor

/-! ### Commands -/

theorem mapThrottle_antitone (ρ : Rounding) {v w : Int32} (le : v.toInt ≤ w.toInt) :
    mapThrottle ρ w ≤ mapThrottle ρ v := by
  rw [mapThrottle_eq, mapThrottle_eq]
  split
  · rw [if_pos (by omega)]
    exact throttleOf_antitone ρ (by omega)
  · split
    · -- The jump out of the dead zone goes up.
      rw [← throttleOf_rest ρ]
      exact throttleOf_antitone ρ (by omega)
    · exact le_rfl

/-- Beyond the dead zone the tilt has the sign of the stick, although the map has its zero off the
centre. -/
theorem tiltOf_sign (ρ : Rounding) : tiltOf ρ 491 ≤ 0 ∧ 0 ≤ tiltOf ρ 533 := by
  have thirty : ρ.Representable 30 := ρ.representable_ofNat (by norm_num)
  have low : ρ (((491 : ℤ) : ℚ) * 60 / 1023) ≤ 30 := thirty.apply_le (by norm_num)
  have high : 30 ≤ ρ (((533 : ℤ) : ℚ) * 60 / 1023) := thirty.le_apply (by norm_num)
  rw [tiltOf_eq ρ (by norm_num), tiltOf_eq ρ (by norm_num)]
  refine ⟨?_, Rounding.apply_nonneg (by linarith)⟩
  simpa using ρ.mono (show _ ≤ (0 : ℚ) by linarith)

theorem mapTilt_mono (ρ : Rounding) {v w : Int32} (hv : InRange v) (hw : InRange w)
    (le : v.toInt ≤ w.toInt) : mapTilt ρ v ≤ mapTilt ρ w := by
  obtain ⟨left, right⟩ := tiltOf_sign ρ
  rw [mapTilt_eq ρ hv, mapTilt_eq ρ hw]
  split
  · rename_i out
    split
    · exact tiltOf_mono ρ (by omega)
    · exact (tiltOf_mono ρ (by omega)).trans left
  · split
    · exact right.trans (tiltOf_mono ρ (by omega))
    · exact le_rfl

/-! ### Mixer -/

/-- From `before` to `after` no front motor slows down and no back motor speeds up. -/
structure RaisesPitch {α : Type*} [LE α] (before after : MotorId → α) : Prop where
  fl : before .fl ≤ after .fl
  fr : before .fr ≤ after .fr
  bl : after .bl ≤ before .bl
  br : after .br ≤ before .br

structure RaisesRoll {α : Type*} [LE α] (before after : MotorId → α) : Prop where
  fr : before .fr ≤ after .fr
  br : before .br ≤ after .br
  fl : after .fl ≤ before .fl
  bl : after .bl ≤ before .bl

variable (ρ : Rounding)

theorem mixer_throttle {T U : ℚ} (le : T ≤ U) (p r : ℚ) (motor : MotorId) :
    mixer ρ T p r motor ≤ mixer ρ U p r motor := by
  have up : ρ (T + p) ≤ ρ (U + p) := ρ.mono (by linarith)
  have down : ρ (T - p) ≤ ρ (U - p) := ρ.mono (by linarith)
  cases motor <;> exact clamp_le_clamp (ρ.mono (by linarith))

theorem mixer_pitch (T : ℚ) {p q : ℚ} (le : p ≤ q) (r : ℚ) :
    RaisesPitch (mixer ρ T p r) (mixer ρ T q r) := by
  have front : ρ (T + p) ≤ ρ (T + q) := ρ.mono (by linarith)
  have back : ρ (T - q) ≤ ρ (T - p) := ρ.mono (by linarith)
  refine ⟨?_, ?_, ?_, ?_⟩ <;> exact clamp_le_clamp (ρ.mono (by linarith))

theorem mixer_roll (T p : ℚ) {r q : ℚ} (le : r ≤ q) :
    RaisesRoll (mixer ρ T p r) (mixer ρ T p q) := by
  refine ⟨?_, ?_, ?_, ?_⟩ <;> exact clamp_le_clamp (ρ.mono (by linarith))

variable {ρ} {before after : MotorId → ℚ}

theorem RaisesPitch.duties (h : RaisesPitch before after) :
    RaisesPitch (fun motor => dutyOf ρ (before motor)) (fun motor => dutyOf ρ (after motor)) :=
  ⟨dutyOf_mono ρ h.fl, dutyOf_mono ρ h.fr, dutyOf_mono ρ h.bl, dutyOf_mono ρ h.br⟩

theorem RaisesRoll.duties (h : RaisesRoll before after) :
    RaisesRoll (fun motor => dutyOf ρ (before motor)) (fun motor => dutyOf ρ (after motor)) :=
  ⟨dutyOf_mono ρ h.fr, dutyOf_mono ρ h.br, dutyOf_mono ρ h.fl, dutyOf_mono ρ h.bl⟩

/-! ### Motor control -/

theorem dt_nonneg (ρ : Rounding) : 0 ≤ dt ρ := Rounding.apply_nonneg (by norm_num)

theorem motorControl_throttle (c : Control) {cmd : Commands} {throttle : ℚ}
    (le : cmd.throttleCmd ≤ throttle) (winkel : Angles) (motor : MotorId) :
    (motorControl ρ c cmd winkel).duties motor ≤
      (motorControl ρ c { cmd with throttleCmd := throttle } winkel).duties motor := by
  rcases le_or_gt cmd.throttleCmd 2 with released | engaged
  · rw [motorControl_released ρ c winkel released]
    exact Nat.zero_le _
  · have engaged' : 2 < ({ cmd with throttleCmd := throttle } : Commands).throttleCmd := engaged.trans_le le
    rw [motorControl_engaged ρ c winkel engaged, motorControl_engaged ρ c winkel engaged']
    exact dutyOf_mono ρ (mixer_throttle ρ le _ _ motor)

theorem motorControl_pitch {c : Control} (tuned : Tuned ρ c) {cmd : Commands} {pitch : ℚ}
    (le : cmd.pitchCmd ≤ pitch) (winkel : Angles) :
    RaisesPitch (motorControl ρ c cmd winkel).duties
      (motorControl ρ c { cmd with pitchCmd := pitch } winkel).duties := by
  rcases le_or_gt cmd.throttleCmd 2 with released | engaged
  · have released' : ({ cmd with pitchCmd := pitch } : Commands).throttleCmd ≤ 2 := released
    rw [motorControl_released ρ c winkel released, motorControl_released ρ c winkel released']
    exact ⟨le_rfl, le_rfl, le_rfl, le_rfl⟩
  · have engaged' : 2 < ({ cmd with pitchCmd := pitch } : Commands).throttleCmd := engaged
    rw [motorControl_engaged ρ c winkel engaged, motorControl_engaged ρ c winkel engaged']
    have out := output_mono ρ tuned.limits.1 winkel.pitch (dt_nonneg ρ) le
    exact (mixer_pitch ρ _ out _).duties

theorem motorControl_roll {c : Control} (tuned : Tuned ρ c) {cmd : Commands} {roll : ℚ}
    (le : cmd.rollCmd ≤ roll) (winkel : Angles) :
    RaisesRoll (motorControl ρ c cmd winkel).duties
      (motorControl ρ c { cmd with rollCmd := roll } winkel).duties := by
  rcases le_or_gt cmd.throttleCmd 2 with released | engaged
  · have released' : ({ cmd with rollCmd := roll } : Commands).throttleCmd ≤ 2 := released
    rw [motorControl_released ρ c winkel released, motorControl_released ρ c winkel released']
    exact ⟨le_rfl, le_rfl, le_rfl, le_rfl⟩
  · have engaged' : 2 < ({ cmd with rollCmd := roll } : Commands).throttleCmd := engaged
    rw [motorControl_engaged ρ c winkel engaged, motorControl_engaged ρ c winkel engaged']
    have out := output_mono ρ tuned.limits.2 winkel.roll (dt_nonneg ρ) le
    exact (mixer_roll ρ _ _ out).duties

/-! ### One iteration -/

def dutiesAt (ρ : Rounding) (libm : Libm) (i2c : I2cRead) (s : Drone) (bt : Globals) : Duties :=
  (appMainLoop ρ libm i2c { s with bt := bt }).control.duties

theorem dutiesAt_ok (ρ : Rounding) (libm : Libm) {i2c : I2cRead} (ok : i2c.Ok) (s : Drone)
    (bt : Globals) : dutiesAt ρ libm i2c s bt =
      (motorControl ρ s.control (commands ρ bt)
        (mpu6050ReadAngles ρ libm i2c s.filter s.aktuelleWinkel).2.2).duties := by
  rw [dutiesAt, appMainLoop_ok ρ libm ok]

/-- Throttle up raises every duty, or keeps it. Pitch and roll up move the duties the way the mixer
signs say. -/
theorem stick_to_duty_monotone (ρ : Rounding) (libm : Libm) {i2c : I2cRead} (ok : i2c.Ok) {s : Drone}
    (tuned : Tuned ρ s.control) (bt : Globals) :
    (∀ v : Int32, v ≤ bt.btThrottle → ∀ motor,
      dutiesAt ρ libm i2c s bt motor ≤ dutiesAt ρ libm i2c s { bt with btThrottle := v } motor) ∧
    (∀ v : Int32, InRange bt.btPitch → InRange v → bt.btPitch ≤ v →
      RaisesPitch (dutiesAt ρ libm i2c s bt) (dutiesAt ρ libm i2c s { bt with btPitch := v })) ∧
    (∀ v : Int32, InRange bt.btRoll → InRange v → bt.btRoll ≤ v →
      RaisesRoll (dutiesAt ρ libm i2c s bt) (dutiesAt ρ libm i2c s { bt with btRoll := v })) := by
  refine ⟨fun v le motor => ?_, fun v here there le => ?_, fun v here there le => ?_⟩ <;>
    rw [dutiesAt_ok ρ libm ok, dutiesAt_ok ρ libm ok]
  · have command : commands ρ { bt with btThrottle := v } =
        { commands ρ bt with throttleCmd := mapThrottle ρ v } := rfl
    have higher : (commands ρ bt).throttleCmd ≤ mapThrottle ρ v :=
      mapThrottle_antitone ρ (Int32.le_iff_toInt_le.mp le)
    rw [command]
    exact motorControl_throttle s.control higher _ motor
  · have command : commands ρ { bt with btPitch := v } =
        { commands ρ bt with pitchCmd := mapTilt ρ v } := rfl
    have higher : (commands ρ bt).pitchCmd ≤ mapTilt ρ v :=
      mapTilt_mono ρ here there (Int32.le_iff_toInt_le.mp le)
    rw [command]
    exact motorControl_pitch tuned higher _
  · have command : commands ρ { bt with btRoll := v } =
        { commands ρ bt with rollCmd := mapTilt ρ v } := rfl
    have higher : (commands ρ bt).rollCmd ≤ mapTilt ρ v :=
      mapTilt_mono ρ here there (Int32.le_iff_toInt_le.mp le)
    rw [command]
    exact motorControl_roll tuned higher _

theorem stick_to_duty_monotone_boot :
    let duties := dutiesAt .exact Libm.axes (I2cRead.level 10000) (boot .exact .cold)
    (∀ motor, duties ⟨-300, 0, 10, 30⟩ motor ≤ duties ⟨-400, 0, 10, 30⟩ motor) ∧
      RaisesPitch (duties ⟨-300, 0, 10, 30⟩) (duties ⟨-300, 0, 200, 30⟩) ∧
      RaisesRoll (duties ⟨-300, 0, 10, 30⟩) (duties ⟨-300, 0, 10, 511⟩) := by
  obtain ⟨throttle, pitch, roll⟩ := stick_to_duty_monotone .exact Libm.axes
    (show (I2cRead.level 10000).Ok from rfl) (s := boot .exact .cold) (bootControl_tuned .exact _)
    ⟨-300, 0, 10, 30⟩
  exact ⟨throttle (-400) (by decide), pitch 200 (by decide) (by decide) (by decide),
    roll 511 (by decide) (by decide) (by decide)⟩

end BukkisDrone.Flight
