import BukkisDrone.Bluetooth.GamepadOnly

/-!
# Disconnects

The disconnect callback does not look at the device: whoever drops off, the globals are zeroed.
-/

namespace BukkisDrone.Bluetooth
open Runs

variable {δ : Type*}

theorem run_disconnect (before : List (Callback δ)) (d : δ) :
    (platform δ).run (before ++ [.deviceDisconnected d]) = Globals.zero := by
  rw [Machine.run_snoc]; rfl

/-- The globals hold the latest report while no device at all has disconnected since. A disconnect
of any device zeroes them, and they stay zero until the next report. -/
theorem any_disconnect_zeroes (callbacks : List (Callback δ)) :
    (∀ before a ctl, Latest Callback.Writes callbacks before (.controllerData a ctl) →
      (platform δ).run callbacks = ctl.axes) ∧
    ∀ b after, (∀ cb ∈ after, ∀ d ctl, cb ≠ Callback.controllerData d ctl) →
      (platform δ).run (callbacks ++ .deviceDisconnected b :: after) = Globals.zero := by
  refine ⟨fun before a ctl latest => (run_eq_written callbacks).1 before _ latest, ?_⟩
  intro b after
  induction after using List.reverseRecOn with
  | nil => exact fun _ => run_disconnect callbacks b
  | append_singleton after cb ih =>
    intro quiet
    have before := ih fun x member => quiet x (List.mem_append_left _ member)
    rw [← List.cons_append, ← List.append_assoc, Machine.run_snoc, before]
    cases cb with
    | controllerData d ctl => exact absurd rfl (quiet _ (by simp) d ctl)
    | _ => rfl

theorem bystander_cuts_flight :
    let report := UniController.gamepad 0 0 0 (-300)
    let flight := [.deviceConnected 0, .deviceReady 0, .deviceConnected 1, .deviceReady 1,
      .controllerData 0 report]
    (platform ℕ).run flight = report.axes ∧ report.axes = ⟨-300, 0, 0, 0⟩ ∧
      (platform ℕ).run (flight ++ [.deviceDisconnected 1]) = Globals.zero := by
  refine ⟨rfl, axes_gamepad _ _ _ _, rfl⟩

end BukkisDrone.Bluetooth
