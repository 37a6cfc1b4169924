import BukkisDrone.Bluetooth.GamepadOnly
import BukkisDrone.Flight.Loop

/-!
# The command envelope

`app_main` promises a throttle of 0 to 100 percent and a tilt of at most 30 degrees. The data
callback stores the axes unchecked, and the maps do not clamp: the commands keep the promise exactly
while the sticks stay between the ends that the maps name.
-/

namespace BukkisDrone.Flight
open Bluetooth Numeric Runs Sensor

variable {δ : Type*}

/-- The `int` difference `value - in_min` of `map_value` does not overflow. -/
def Fits (value inMin : Int32) : Prop :=
  -2 ^ 31 ≤ value.toInt - inMin.toInt ∧ value.toInt - inMin.toInt < 2 ^ 31

/-- What the comments of `app_main` promise, and that each map taken stays within `int`. -/
structure Envelope (ρ : Rounding) (bt : Globals) : Prop where
  throttle : 0 ≤ (commands ρ bt).throttleCmd ∧ (commands ρ bt).throttleCmd ≤ 100
  pitch : |(commands ρ bt).pitchCmd| ≤ 30
  roll : |(commands ρ bt).rollCmd| ≤ 30
  throttleFits : bt.btThrottle < -20 → Fits bt.btThrottle (-20)
  pitchFits : 20 < bt.btPitch ∨ bt.btPitch < -20 → Fits bt.btPitch (-512)
  rollFits : 20 < bt.btRoll ∨ bt.btRoll < -20 → Fits bt.btRoll (-512)

/-- The sticks are no further out than the ends that `app_main` maps. The throttle has no end on
the side where the motors are off. -/
structure WithinSticks (bt : Globals) : Prop where
  throttle : -512 ≤ bt.btThrottle.toInt
  pitch : InRange bt.btPitch
  roll : InRange bt.btRoll

/-! ### Just past the ends -/

theorem throttleOf_beyond (ρ : Rounding) : 100 < throttleOf ρ (-493) := by
  have step : ρ.Representable (801 / 2 ^ 3) := ρ.dyadic 801 3 (by norm_num) (by norm_num)
  calc (100 : ℚ) < 801 / 2 ^ 3 := by norm_num
    _ ≤ throttleOf ρ (-493) := by rw [throttleOf_eq ρ (by norm_num)]; exact step.le_apply (by norm_num)

theorem tiltOf_beyond_right (ρ : Rounding) : 30 < tiltOf ρ 1024 := by
  have share : ρ.Representable (1921 / 2 ^ 5) := ρ.dyadic 1921 5 (by norm_num) (by norm_num)
  have step : ρ.Representable (961 / 2 ^ 5) := ρ.dyadic 961 5 (by norm_num) (by norm_num)
  have scaled : 1921 / 2 ^ 5 ≤ ρ (((1024 : ℤ) : ℚ) * 60 / 1023) := share.le_apply (by norm_num)
  calc (30 : ℚ) < 961 / 2 ^ 5 := by norm_num
    _ ≤ tiltOf ρ 1024 := by rw [tiltOf_eq ρ (by norm_num)]; exact step.le_apply (by linarith)

theorem tiltOf_beyond_left (ρ : Rounding) : tiltOf ρ (-1) < -30 := by
  have share : ρ.Representable ((-1 : ℤ) / 2 ^ 5) := ρ.dyadic (-1) 5 (by norm_num) (by norm_num)
  have step : ρ.Representable ((-961 : ℤ) / 2 ^ 5) := ρ.dyadic (-961) 5 (by norm_num) (by norm_num)
  have scaled : ρ (((-1 : ℤ) : ℚ) * 60 / 1023) ≤ (-1 : ℤ) / 2 ^ 5 := share.apply_le (by norm_num)
  calc tiltOf ρ (-1) ≤ (-961 : ℤ) / 2 ^ 5 := by
        rw [tiltOf_eq ρ (by norm_num)]
        exact step.apply_le (by push_cast at scaled ⊢; linarith)
    _ < -30 := by norm_num

/-! ### One command -/

theorem throttle_within_iff (ρ : Rounding) (v : Int32) :
    (0 ≤ mapThrottle ρ v ∧ mapThrottle ρ v ≤ 100) ↔ -512 ≤ v.toInt := by
  rw [mapThrottle_eq]
  split
  · constructor
    · rintro ⟨-, most⟩
      by_contra beyond
      have more := throttleOf_antitone ρ (show v.toInt + 20 ≤ -493 by omega)
      exact absurd (more.trans most) (not_le.mpr (throttleOf_beyond ρ))
    · intro low
      rw [← throttleOf_rest ρ, ← throttleOf_full ρ]
      exact ⟨throttleOf_antitone ρ (by omega), throttleOf_antitone ρ (by omega)⟩
  · simp only [le_refl, Nat.ofNat_nonneg, and_self, true_iff]
    omega

theorem tilt_within_iff (ρ : Rounding) (v : Int32) :
    (|mapTilt ρ v| ≤ 30 ∧ (20 < v ∨ v < -20 → Fits v (-512))) ↔ InRange v := by
  by_cases tested : 20 < v ∨ v < -20
  · rw [mapTilt, if_pos tested]
    constructor
    · rintro ⟨most, fits⟩
      obtain ⟨low, high⟩ := fits tested
      have diff : (v - -512).toInt = v.toInt + 512 := toInt_sub_of_fits low high
      rw [mapValue_tilt, diff, abs_le] at most
      constructor
      · by_contra beyond
        have more := tiltOf_mono ρ (show v.toInt + 512 ≤ -1 by omega)
        exact absurd (most.1.trans more) (not_le.mpr (tiltOf_beyond_left ρ))
      · by_contra beyond
        have more := tiltOf_mono ρ (show 1024 ≤ v.toInt + 512 by omega)
        exact absurd (more.trans most.2) (not_le.mpr (tiltOf_beyond_right ρ))
    · intro range
      refine ⟨abs_mapValue_tilt_le ρ range, fun _ => ?_⟩
      obtain ⟨low, high⟩ := range
      simp only [Fits, show (-512 : Int32).toInt = -512 from rfl]
      omega
  · have inside := mt (dead_zone_iff v).mpr tested
    rw [mapTilt, if_neg tested, InRange]
    refine ⟨fun _ => by omega, fun _ => ⟨by norm_num, fun h => absurd h tested⟩⟩

theorem envelope_iff_withinSticks (ρ : Rounding) (bt : Globals) :
    Envelope ρ bt ↔ WithinSticks bt := by
  constructor
  · intro envelope
    exact ⟨(throttle_within_iff ρ _).mp envelope.throttle,
      (tilt_within_iff ρ _).mp ⟨envelope.pitch, envelope.pitchFits⟩,
      (tilt_within_iff ρ _).mp ⟨envelope.roll, envelope.rollFits⟩⟩
  · intro within
    obtain ⟨pitch, pitchFits⟩ := (tilt_within_iff ρ _).mpr within.pitch
    obtain ⟨roll, rollFits⟩ := (tilt_within_iff ρ _).mpr within.roll
    refine ⟨(throttle_within_iff ρ _).mpr within.throttle, pitch, roll, ?_, pitchFits, rollFits⟩
    intro tested
    have low := within.throttle
    have pushed := (lt_neg_twenty_iff _).mp tested
    simp only [Fits, show (-20 : Int32).toInt = -20 from rfl]
    omega

/-! ### Every iteration of every run -/

theorem withinSticks_zero : WithinSticks Globals.zero := ⟨by decide, by decide, by decide⟩

/-- An iteration keeps its commands to the envelope exactly when the callback that wrote the sticks
left them within their ends. -/
theorem envelope_kept_iff (ρ : Rounding) (libm : Libm) (power : PowerUp) (periods : List (Period δ))
    (p : Period δ) : Envelope ρ (entered ρ libm power periods p).bt ↔
      ∀ before cb, Latest Callback.Writes ((periods ++ [p]).flatMap Period.callbacks) before cb →
        WithinSticks cb.written := by
  rw [entered_bt, envelope_iff_withinSticks]
  obtain ⟨written, zero⟩ := run_eq_written ((periods ++ [p]).flatMap Period.callbacks)
  constructor
  · intro within before cb latest
    exact written before cb latest ▸ within
  · intro within
    rcases latest_or_none Callback.Writes ((periods ++ [p]).flatMap Period.callbacks) with
      ⟨before, cb, latest⟩ | none
    · exact written before cb latest ▸ within before cb latest
    · exact zero none ▸ withinSticks_zero

/-- A DualShock 4 keeps to the envelope with every stick position but the last to the right or down. -/
theorem ds4_withinSticks_iff (r : Ds4InputReport11) :
    WithinSticks (ds4ParseInputReport11 r).axes ↔ r.y ≠ 255 ∧ r.x ≠ 255 := by
  have range : ∀ raw : UInt8, InRange (ds4Axis raw) ↔ raw ≠ 255 := by
    intro raw
    have small := raw.toNat_lt
    rw [InRange, toInt_ds4Axis, ne_eq, ← UInt8.toNat_inj, show (255 : UInt8).toNat = 255 from rfl]
    omega
  have throttle : -512 ≤ (ds4Axis r.ry).toInt := by rw [toInt_ds4Axis]; omega
  rw [ds4ParseInputReport11, axes_gamepad, ← range, ← range]
  exact ⟨fun within => ⟨within.pitch, within.roll⟩, fun ⟨pitch, roll⟩ => ⟨throttle, pitch, roll⟩⟩

/-- The right stick of a DualShock 4 at rest, the left one pulled down to its end. -/
theorem ds4_exceeds_tilt :
    let p : Period ℕ := ⟨[.controllerData 0 (ds4ParseInputReport11 ⟨127, 255, 127, 127⟩)],
      I2cRead.level 10000⟩
    let s := entered .exact Libm.axes .cold [] p
    p.Reads ∧ (commands .exact s.bt).pitchCmd = 10250 / 341 ∧ 30 < (commands .exact s.bt).pitchCmd ∧
      ¬Envelope .exact s.bt := by
  intro p s
  have command : (commands .exact s.bt).pitchCmd = 10250 / 341 := by decide +kernel
  have exceeds : 30 < (commands .exact s.bt).pitchCmd := by rw [command]; norm_num
  exact ⟨rfl, command, exceeds, fun envelope => absurd (abs_le.mp envelope.pitch).2 (not_le.mpr exceeds)⟩

end BukkisDrone.Flight
