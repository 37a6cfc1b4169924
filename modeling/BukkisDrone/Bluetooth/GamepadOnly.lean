import BukkisDrone.Bluetooth.Platform

/-!
# Who flies the drone

The data callback reads the gamepad member of the union without looking at the class. A report of
another class therefore writes its own bytes to the command globals.
-/

namespace BukkisDrone.Bluetooth
open Bytes Runs

variable {δ : Type*}

def Callback.IsGamepadReport : Callback δ → Prop
  | .controllerData _ ctl => ctl.klass = .gamepad
  | _ => False

/-- Only gamepad reports and disconnects reach the command globals. -/
structure GamepadsOnly (callbacks : List (Callback δ)) : Prop where
  frame : ∀ before d ctl after, callbacks = before ++ .controllerData d ctl :: after →
    ctl.klass ≠ .gamepad →
    (platform δ).run (before ++ [.controllerData d ctl]) = (platform δ).run before
  held : ∀ before after, callbacks = before ++ after →
    (platform δ).run before = Globals.zero ∨
      ∃ earlier d ctl, Latest Callback.IsGamepadReport before earlier (.controllerData d ctl) ∧
        (platform δ).run before = ctl.axes

/-- The report's bytes at the gamepad axes are those of the data callback before it, or zeros where
none came since boot or the last disconnect. -/
def Repeats (before : List (Callback δ)) (ctl : UniController) : Prop :=
  (∀ earlier cb, Latest Callback.Writes before earlier cb → ctl.axes = cb.written) ∧
    ((∀ cb ∈ before, ¬cb.Writes) → ctl.axes = Globals.zero)

theorem repeats_iff (before : List (Callback δ)) (ctl : UniController) :
    Repeats before ctl ↔ ctl.axes = (platform δ).run before := by
  obtain ⟨written, zero⟩ := run_eq_written before
  constructor
  · rintro ⟨same, none⟩
    rcases latest_or_none Callback.Writes before with ⟨earlier, cb, latest⟩ | absent
    · rw [same _ _ latest, written _ _ latest]
    · rw [none absent, zero absent]
  · intro same
    exact ⟨fun _ _ latest => same.trans (written _ _ latest), fun absent => same.trans (zero absent)⟩

theorem run_report (before : List (Callback δ)) (d : δ) (ctl : UniController) :
    (platform δ).run (before ++ [.controllerData d ctl]) = ctl.axes := by
  rw [Machine.run_snoc]; rfl

theorem held_of_repeats {callbacks : List (Callback δ)}
    (repeats : ∀ before d ctl after, callbacks = before ++ .controllerData d ctl :: after →
      ctl.klass ≠ .gamepad → Repeats before ctl) :
    (platform δ).run callbacks = Globals.zero ∨
      ∃ earlier d ctl, Latest Callback.IsGamepadReport callbacks earlier (.controllerData d ctl) ∧
        (platform δ).run callbacks = ctl.axes := by
  induction callbacks using List.reverseRecOn with
  | nil => exact Or.inl rfl
  | append_singleton callbacks cb ih =>
    have before := ih fun b d ctl after same => repeats b d ctl (after ++ [cb]) (by rw [same]; simp)
    by_cases gamepad : cb.IsGamepadReport
    · cases cb with
      | controllerData d ctl =>
        exact Or.inr ⟨callbacks, d, ctl, (latest_snoc gamepad).mpr ⟨rfl, rfl⟩, run_report _ _ _⟩
      | _ => exact gamepad.elim
    have skip : ∀ earlier x, Latest Callback.IsGamepadReport callbacks earlier x →
        Latest Callback.IsGamepadReport (callbacks ++ [cb]) earlier x :=
      fun _ _ => (latest_snoc_skip gamepad).mpr
    have kept : (platform δ).run (callbacks ++ [cb]) = (platform δ).run callbacks →
        (platform δ).run (callbacks ++ [cb]) = Globals.zero ∨
          ∃ earlier d ctl, Latest Callback.IsGamepadReport (callbacks ++ [cb]) earlier
            (.controllerData d ctl) ∧ (platform δ).run (callbacks ++ [cb]) = ctl.axes := by
      intro same
      rw [same]
      rcases before with zero | ⟨earlier, d, ctl, latest, held⟩
      · exact Or.inl zero
      · exact Or.inr ⟨earlier, d, ctl, skip _ _ latest, held⟩
    cases cb with
    | controllerData d ctl =>
      have same := (repeats_iff callbacks ctl).mp (repeats callbacks d ctl [] rfl gamepad)
      exact kept ((run_report _ _ _).trans same)
    | deviceDisconnected d => exact Or.inl (by rw [Machine.run_snoc]; rfl)
    | deviceDiscovered d => exact kept (by rw [Machine.run_snoc]; rfl)
    | deviceConnected d => exact kept (by rw [Machine.run_snoc]; rfl)
    | deviceReady d => exact kept (by rw [Machine.run_snoc]; rfl)

/-- Gamepads alone fly the drone exactly when every report of another class happens to repeat the
bytes of the data callback before it. -/
theorem gamepadsOnly_iff (callbacks : List (Callback δ)) :
    GamepadsOnly callbacks ↔
      ∀ before d ctl after, callbacks = before ++ .controllerData d ctl :: after →
        ctl.klass ≠ .gamepad → Repeats before ctl := by
  constructor
  · intro only before d ctl after same other
    rw [repeats_iff, ← run_report before d ctl]
    exact only.frame before d ctl after same other
  · intro repeats
    refine ⟨fun before d ctl after same other => ?_, fun before after same => ?_⟩
    · rw [run_report, (repeats_iff before ctl).mp (repeats before d ctl after same other)]
    · exact held_of_repeats fun b d ctl rest split => repeats b d ctl (rest ++ after) (by rw [same, split]; simp)

/-! ### Reports as the parsers write them -/

def UniController.gamepad (axisX axisY axisRx axisRy : Int32) : UniController where
  klass := .gamepad
  union := setInt32 (setInt32 (setInt32 (setInt32 (Vector.replicate 56 0) 4 axisX) 8 axisY) 12 axisRx) 16 axisRy

/-- A mouse report. `uni_mouse_t` starts with `delta_x` and `delta_y`. -/
def UniController.mouse (deltaX deltaY : Int32) : UniController where
  klass := .mouse
  union := setInt32 (setInt32 (Vector.replicate 56 0) 0 deltaX) 4 deltaY

theorem axes_gamepad (axisX axisY axisRx axisRy : Int32) :
    (UniController.gamepad axisX axisY axisRx axisRy).axes = ⟨axisRy, axisRx, axisY, axisX⟩ := by
  simp [UniController.axes, UniController.axisX, UniController.axisY, UniController.axisRx,
    UniController.axisRy, UniController.gamepad, int32At_setInt32_other]

theorem axes_mouse (deltaX deltaY : Int32) :
    (UniController.mouse deltaX deltaY).axes = ⟨0, 0, 0, deltaY⟩ := by
  have zero : ∀ off (h : off + 4 ≤ 56), int32At (Vector.replicate 56 0) off h = 0 := by
    intro off h
    simp only [int32At, Vector.getElem_replicate]
    rfl
  simp [UniController.axes, UniController.axisX, UniController.axisY, UniController.axisRx,
    UniController.axisRy, UniController.mouse, int32At_setInt32_other, zero]

/-- The sticks in `ds4_input_report_11_t`. -/
structure Ds4InputReport11 where
  x : UInt8
  y : UInt8
  rx : UInt8
  ry : UInt8

def ds4Axis (raw : UInt8) : Int32 := (Int32.ofNat raw.toNat - 127) * 4

/-- `ds4_parse_input_report_11`, as far as the axes go. -/
def ds4ParseInputReport11 (r : Ds4InputReport11) : UniController :=
  UniController.gamepad (ds4Axis r.x) (ds4Axis r.y) (ds4Axis r.rx) (ds4Axis r.ry)

theorem toInt_ds4Axis (raw : UInt8) : (ds4Axis raw).toInt = (raw.toNat - 127) * 4 := by
  have small := raw.toNat_lt
  have promoted : (Int32.ofNat raw.toNat).toInt = raw.toNat := Int32.toInt_ofNat_of_lt (by omega)
  rw [ds4Axis, Int32.toInt_mul, Int32.toInt_sub, promoted]
  simp only [show (127 : Int32).toInt = 127 from rfl, show (4 : Int32).toInt = 4 from rfl]
  rw [Int.bmod_eq_of_le (n := raw.toNat - 127) (by omega) (by omega), Int.bmod_eq_of_le (by omega) (by omega)]

/-- A mouse moves during a flight with a gamepad. -/
theorem mouse_takes_over :
    ¬GamepadsOnly [Callback.controllerData 0 (UniController.gamepad 0 0 0 (-300)),
      Callback.controllerData 1 (UniController.mouse 0 100)] := by
  intro only
  have same := only.frame [Callback.controllerData 0 (UniController.gamepad 0 0 0 (-300))] 1
    (UniController.mouse 0 100) [] rfl (by decide)
  rw [run_report, axes_mouse, ← List.nil_append [Callback.controllerData 0 _], run_report,
    axes_gamepad] at same
  exact absurd same (by decide)

end BukkisDrone.Bluetooth
