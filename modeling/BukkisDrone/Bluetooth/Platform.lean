import BukkisDrone.Bytes.Words
import BukkisDrone.Runs.Machine

/-!
# The Bluetooth platform

The callbacks of `bukkis_bt.c`, over the four command globals, and the `uni_controller_t` that
bluepad32 hands to the data callback.
-/

namespace BukkisDrone.Bluetooth
open Bytes Runs

inductive ControllerClass where
  | none | gamepad | mouse | keyboard | balanceBoard
  deriving DecidableEq

/-- `uni_controller_t`: the class, and the bytes of the union, as large as its largest member
`uni_gamepad_t`. -/
structure UniController where
  klass : ControllerClass
  union : Vector UInt8 56
  deriving DecidableEq

/-! ### The union read as `uni_gamepad_t`

`dpad` and three bytes of padding come before the axes. -/

def UniController.axisX (ctl : UniController) : Int32 := int32At ctl.union 4 (by omega)

def UniController.axisY (ctl : UniController) : Int32 := int32At ctl.union 8 (by omega)

def UniController.axisRx (ctl : UniController) : Int32 := int32At ctl.union 12 (by omega)

def UniController.axisRy (ctl : UniController) : Int32 := int32At ctl.union 16 (by omega)

structure Globals where
  btThrottle : Int32
  btYaw : Int32
  btPitch : Int32
  btRoll : Int32
  deriving DecidableEq

def Globals.zero : Globals := ⟨0, 0, 0, 0⟩

def UniController.axes (ctl : UniController) : Globals where
  btThrottle := ctl.axisRy
  btYaw := ctl.axisRx
  btPitch := ctl.axisY
  btRoll := ctl.axisX

variable {δ : Type*}

inductive Callback (δ : Type*) where
  | deviceDiscovered (d : δ)
  | deviceConnected (d : δ)
  | deviceReady (d : δ)
  | deviceDisconnected (d : δ)
  | controllerData (d : δ) (ctl : UniController)
  deriving DecidableEq

def myOnDeviceDisconnected (_ : δ) (bt : Globals) : Globals :=
  { bt with btThrottle := 0, btYaw := 0, btPitch := 0, btRoll := 0 }

def myOnControllerData (_ : δ) (ctl : UniController) (bt : Globals) : Globals :=
  { bt with
    btThrottle := ctl.axisRy
    btYaw := ctl.axisRx
    btPitch := ctl.axisY
    btRoll := ctl.axisX }

/-- Discovery, connection and readiness are accepted and change nothing. -/
def Callback.apply (bt : Globals) : Callback δ → Globals
  | .deviceDiscovered _ => bt
  | .deviceConnected _ => bt
  | .deviceReady _ => bt
  | .deviceDisconnected d => myOnDeviceDisconnected d bt
  | .controllerData d ctl => myOnControllerData d ctl bt

def platform (δ : Type*) : Machine Globals (Callback δ) where
  init := Globals.zero
  step := Callback.apply

/-! ### What the globals hold -/

def Callback.Writes : Callback δ → Prop
  | .deviceDisconnected _ | .controllerData _ _ => True
  | _ => False

/-- What a writing callback leaves in the globals, whatever they held. -/
def Callback.written : Callback δ → Globals
  | .controllerData _ ctl => ctl.axes
  | _ => Globals.zero

theorem apply_of_writes {cb : Callback δ} (h : cb.Writes) (bt : Globals) : cb.apply bt = cb.written := by
  cases cb <;> first | exact h.elim | rfl

theorem apply_of_not_writes {cb : Callback δ} (h : ¬cb.Writes) (bt : Globals) : cb.apply bt = bt := by
  cases cb <;> first | exact (h trivial).elim | rfl

/-- The globals hold what the latest writing callback left, or the zeros of boot. -/
theorem run_eq_written (callbacks : List (Callback δ)) :
    (∀ before cb, Latest Callback.Writes callbacks before cb →
      (platform δ).run callbacks = cb.written) ∧
    ((∀ cb ∈ callbacks, ¬cb.Writes) → (platform δ).run callbacks = Globals.zero) := by
  induction callbacks using List.reverseRecOn with
  | nil => exact ⟨fun before cb h => (not_latest_nil h).elim, fun _ => rfl⟩
  | append_singleton callbacks cb ih =>
    rw [Machine.run_snoc]
    by_cases h : cb.Writes
    · refine ⟨fun before x latest => ?_, fun none => (none cb (by simp) h).elim⟩
      obtain ⟨-, rfl⟩ := (latest_snoc h).mp latest
      exact apply_of_writes h _
    · have same : (platform δ).step ((platform δ).run callbacks) cb = (platform δ).run callbacks :=
        apply_of_not_writes h _
      rw [same]
      exact ⟨fun before x latest => ih.1 before x ((latest_snoc_skip h).mp latest),
        fun none => ih.2 fun x member => none x (List.mem_append_left _ member)⟩

end BukkisDrone.Bluetooth
