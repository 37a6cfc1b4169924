import BukkisDrone.Bluetooth.GamepadOnly
import BukkisDrone.Flight.Loop

/-!
# Throttle cut

The branch that stops the motors sits behind the sensor read. An iteration whose read fails leaves
the motors as they are, whatever the throttle.
-/

namespace BukkisDrone.Flight
open Bluetooth Motor Numeric Pid Runs Sensor

variable {δ : Type*}

structure Cleared (pid : PidCtrl) : Prop where
  integral : pid.integral = 0
  prevError : pid.prevError = 0
  prevDerivative : pid.prevDerivative = 0

theorem cleared_reset (pid : PidCtrl) : Cleared (pidReset pid) := ⟨rfl, rfl, rfl⟩

structure Cut (c : Control) : Prop where
  motors : ∀ motor, c.duties motor = 0
  pitch : Cleared c.pidPitch
  roll : Cleared c.pidRoll

def seenThrottle (before : List (Period δ)) (p : Period δ) : Int32 :=
  ((platform δ).run ((before ++ [p]).flatMap Period.callbacks)).btThrottle

/-- The latest iteration with a successful read saw a released throttle, or there is none. -/
def Settled (periods : List (Period δ)) : Prop :=
  ∀ before p, Latest Period.Reads periods before p → Released (seenThrottle before p)

theorem bootControl_cut (ρ : Rounding) (duties : Duties) : Cut (bootControl ρ duties) where
  motors motor := by simp [bootControl, off]
  pitch := ⟨rfl, rfl, rfl⟩
  roll := ⟨rfl, rfl, rfl⟩

theorem released_cut (ρ : Rounding) (c : Control) {cmd : Commands} (winkel : Angles)
    (h : cmd.throttleCmd ≤ 2) : Cut (motorControl ρ c cmd winkel) := by
  rw [motorControl_released ρ c winkel h]
  exact ⟨fun _ => rfl, cleared_reset _, cleared_reset _⟩

/-- Whatever the corrections are, one motor gets at least the throttle. -/
theorem mixer_turns (ρ : Rounding) {throttleCmd : ℚ} (rep : ρ.Representable throttleCmd)
    (engaged : 2 < throttleCmd) (outPitch outRoll : ℚ) :
    ∃ motor, 0 < dutyOf ρ (mixer ρ throttleCmd outPitch outRoll motor) := by
  have turns : ∀ x, throttleCmd ≤ x → 0 < dutyOf ρ (clamp x 0 100) := by
    intro x le
    apply dutyOf_pos
    have two : limit 2 0 100 = (2 : ℚ) := limit_of_mem (by norm_num) (by norm_num)
    rw [← two]
    exact limit_mono (by norm_num) (engaged.le.trans le)
  rcases le_total 0 outPitch with up | down
  · have front : throttleCmd ≤ ρ (throttleCmd + outPitch) := rep.le_apply (by linarith)
    rcases le_total 0 outRoll with right | left
    · exact ⟨.fr, turns _ (rep.le_apply (by linarith))⟩
    · exact ⟨.fl, turns _ (rep.le_apply (by linarith))⟩
  · have back : throttleCmd ≤ ρ (throttleCmd - outPitch) := rep.le_apply (by linarith)
    rcases le_total 0 outRoll with right | left
    · exact ⟨.br, turns _ (rep.le_apply (by linarith))⟩
    · exact ⟨.bl, turns _ (rep.le_apply (by linarith))⟩

theorem representable_mapThrottle (ρ : Rounding) (v : Int32) : ρ.Representable (mapThrottle ρ v) := by
  unfold mapThrottle
  split
  · exact ρ.representable_apply _
  · exact ρ.apply_zero

theorem engaged_not_cut (ρ : Rounding) (c : Control) {bt : Globals} (winkel : Angles)
    (h : 2 < (commands ρ bt).throttleCmd) : ¬Cut (motorControl ρ c (commands ρ bt) winkel) := by
  intro cut
  obtain ⟨motor, turns⟩ := mixer_turns ρ (representable_mapThrottle ρ bt.btThrottle) h
    (pidCompute ρ c.pidPitch (commands ρ bt).pitchCmd winkel.pitch (dt ρ)).1
    (pidCompute ρ c.pidRoll (commands ρ bt).rollCmd winkel.roll (dt ρ)).1
  have still := cut.motors motor
  rw [motorControl_engaged ρ c winkel h] at still
  exact turns.ne' still

theorem appMainLoop_cut_iff (ρ : Rounding) (libm : Libm) {i2c : I2cRead} (ok : i2c.Ok) (s : Drone) :
    Cut (appMainLoop ρ libm i2c s).control ↔ Released s.bt.btThrottle := by
  rw [appMainLoop_ok ρ libm ok]
  constructor
  · intro cut
    by_contra pushed
    exact engaged_not_cut ρ _ _ ((two_lt_throttleCmd_iff ρ s.bt).mpr pushed) cut
  · intro released
    have low := mt (two_lt_throttleCmd_iff ρ s.bt).mp (not_not.mpr released)
    exact released_cut ρ _ _ (not_lt.mp low)

theorem entered_throttle (ρ : Rounding) (libm : Libm) (power : PowerUp) (before : List (Period δ))
    (p : Period δ) : (entered ρ libm power before p).bt.btThrottle = seenThrottle before p := by
  rw [entered_bt, seenThrottle]

theorem run_cut_iff (ρ : Rounding) (libm : Libm) (power : PowerUp) (periods : List (Period δ)) :
    Cut ((flight ρ libm power δ).run periods).control ↔ Settled periods := by
  induction periods using List.reverseRecOn with
  | nil => exact ⟨fun _ _ _ latest => (not_latest_nil latest).elim, fun _ => bootControl_cut ρ _⟩
  | append_singleton periods p ih =>
    rw [flight_snoc]
    by_cases ok : p.Reads
    · rw [appMainLoop_cut_iff ρ libm ok, entered_throttle]
      constructor
      · intro released before q latest
        obtain ⟨rfl, rfl⟩ := (latest_snoc ok).mp latest
        exact released
      · exact fun settled => settled periods p ((latest_snoc ok).mpr ⟨rfl, rfl⟩)
    · rw [appMainLoop_failed ρ libm ok]
      refine ih.trans (forall₂_congr fun before q => ?_)
      rw [latest_snoc_skip ok]

/-- An iteration that sees a released throttle ends with everything cut exactly when its own read
succeeds, or everything was cut before it. -/
theorem throttle_cut_iff (ρ : Rounding) (libm : Libm) (power : PowerUp) (periods : List (Period δ))
    (p : Period δ) (released : Released (seenThrottle periods p)) :
    Cut ((flight ρ libm power δ).run (periods ++ [p])).control ↔ p.Reads ∨ Settled periods := by
  rw [run_cut_iff]
  by_cases ok : p.Reads
  · refine iff_of_true (fun before q latest => ?_) (Or.inl ok)
    obtain ⟨rfl, rfl⟩ := (latest_snoc ok).mp latest
    exact released
  · rw [or_iff_right ok]
    refine forall₂_congr fun before q => ?_
    rw [latest_snoc_skip ok]

/-! ### The read fails while the throttle is cut -/

/-- Full flight with a level drone, and then a disconnect together with a failed read. -/
def cutDuringFailure : List (Period ℕ) :=
  [⟨[.controllerData 0 (UniController.gamepad 0 0 0 (-300))], I2cRead.level 10000⟩,
    ⟨[.deviceDisconnected 0], { I2cRead.level 20000 with err := 263 }⟩]

/-- Full flight, and then the stick released while the read fails: neither side holds. -/
theorem throttle_cut_iff_released_in_flight :
    let flown : List (Period ℕ) :=
      [⟨[.controllerData 0 (UniController.gamepad 0 0 0 (-300))], I2cRead.level 10000⟩]
    let release : Period ℕ :=
      ⟨[.controllerData 0 (UniController.gamepad 0 0 0 0)], { I2cRead.level 20000 with err := 263 }⟩
    Cut ((flight .exact Libm.axes .cold ℕ).run (flown ++ [release])).control ↔
      release.Reads ∨ Settled flown :=
  throttle_cut_iff .exact Libm.axes .cold _ _ (by decide +kernel)

/-- The motors keep turning at 56 percent after the controller is gone. -/
theorem motors_turn_after_disconnect :
    let s := (flight .exact Libm.axes .cold ℕ).run cutDuringFailure
    s.bt.btThrottle = 0 ∧ s.control.duties .fl = 582 ∧ s.control.duties .fr = 582 ∧
      s.control.duties .bl = 582 ∧ s.control.duties .br = 582 := by
  decide +kernel

end BukkisDrone.Flight
