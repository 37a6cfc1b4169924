import BukkisDrone.Bluetooth.GamepadOnly
import BukkisDrone.Flight.Loop

/-!
# Landing

Releasing the throttle brings motors and controllers back to the state on entry to the loop.
-/

namespace BukkisDrone.Flight
open Bluetooth Motor Numeric Pid Runs Sensor

variable {δ : Type*}

theorem bootControl_eq (ρ : Rounding) (duties : Duties) :
    bootControl ρ duties = ⟨off, flightPid ρ, flightPid ρ⟩ := by
  rw [bootControl, motorTestSequence_off]

theorem released_boot {ρ : Rounding} {c : Control} (tuned : Tuned ρ c) {cmd : Commands}
    (winkel : Angles) (released : cmd.throttleCmd ≤ 2) (duties : Duties) :
    motorControl ρ c cmd winkel = bootControl ρ duties := by
  rw [motorControl_released ρ c winkel released, tuned.pitch, tuned.roll, bootControl_eq]

/-- After any run, an iteration that reads its sensor and sees a throttle of at most two percent
ends in the control state of a boot, and the flight goes on as a freshly booted one would. -/
theorem landing_erases_flight (ρ : Rounding) (libm : Libm) (power : PowerUp)
    (periods : List (Period δ)) (p : Period δ) (reads : p.Reads)
    (released : (commands ρ (entered ρ libm power periods p).bt).throttleCmd ≤ 2) :
    let landed := (flight ρ libm power δ).run (periods ++ [p])
    ((∀ motor, landed.control.duties motor = 0) ∧
      landed.control.pidPitch = flightPid ρ ∧ landed.control.pidRoll = flightPid ρ) ∧
    (∀ duties, landed.control = bootControl ρ duties) ∧
    (∀ inputs : List ControlInput, ∀ duties,
      ((controlLoop ρ landed.control).run inputs).duties =
        ((controlLoop ρ (bootControl ρ duties)).run inputs).duties) ∧
    ∀ rest : List (Period δ), ∀ duties,
      ((flight ρ libm power δ).run (periods ++ [p] ++ rest)).control.duties =
        ((controlLoop ρ (bootControl ρ duties)).run (controlInputs ρ libm landed rest)).duties := by
  intro landed
  have tuned := entered_tuned ρ libm power periods p
  have same : ∀ duties, landed.control = bootControl ρ duties := by
    intro duties
    exact (flight_control ρ libm power periods reads).trans (released_boot tuned _ released duties)
  refine ⟨?_, same, fun inputs duties => by rw [same], fun rest duties => ?_⟩
  · rw [same power.duties, bootControl_eq]
    exact ⟨fun _ => rfl, rfl, rfl⟩
  · rw [Machine.run_append, resume_control, same]

theorem landing_erases_flight_short :
    let periods : List (Period ℕ) :=
      [⟨[.controllerData 0 (UniController.gamepad 100 50 0 (-300))], I2cRead.level 10000⟩]
    let p : Period ℕ := ⟨[.controllerData 0 (UniController.gamepad 0 0 0 0)], I2cRead.level 20000⟩
    ((flight .exact Libm.axes .cold ℕ).run (periods ++ [p])).control =
      bootControl .exact off :=
  (landing_erases_flight .exact Libm.axes .cold _ _ (by decide) (by decide +kernel)).2.1 off

end BukkisDrone.Flight
