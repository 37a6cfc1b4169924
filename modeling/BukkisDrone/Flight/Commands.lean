import BukkisDrone.Bluetooth.Platform
import BukkisDrone.Numeric.Rounding

/-!
# From sticks to commands

`map_value` and the dead zones of `app_main`.
-/

namespace BukkisDrone.Flight
open Bluetooth Numeric Runs

/-- The differences of the axis values are `int` operations. Where they overflow, which C leaves
undefined, they wrap. -/
def mapValue (ρ : Rounding) (value inMin inMax : Int32) (outMin outMax : ℚ) : ℚ :=
  ρ (ρ (ρ (ρ (value - inMin).toInt * ρ (outMax - outMin)) / ρ (inMax - inMin).toInt) + outMin)

def mapThrottle (ρ : Rounding) (btThrottle : Int32) : ℚ :=
  if btThrottle < -20 then mapValue ρ btThrottle (-20) (-512) 0 100 else 0

def mapTilt (ρ : Rounding) (value : Int32) : ℚ :=
  if 20 < value ∨ value < -20 then mapValue ρ value (-512) 511 (-30) 30 else 0

structure Commands where
  throttleCmd : ℚ
  pitchCmd : ℚ
  rollCmd : ℚ
  deriving DecidableEq

def commands (ρ : Rounding) (bt : Globals) : Commands where
  throttleCmd := mapThrottle ρ bt.btThrottle
  pitchCmd := mapTilt ρ bt.btPitch
  rollCmd := mapTilt ρ bt.btRoll

/-! ### Ranges -/

def InRange (axis : Int32) : Prop := -512 ≤ axis.toInt ∧ axis.toInt ≤ 511

instance (axis : Int32) : Decidable (InRange axis) :=
  inferInstanceAs (Decidable (-512 ≤ axis.toInt ∧ axis.toInt ≤ 511))

structure AxesInRange (bt : Globals) : Prop where
  throttle : InRange bt.btThrottle
  yaw : InRange bt.btYaw
  pitch : InRange bt.btPitch
  roll : InRange bt.btRoll

instance (bt : Globals) : Decidable (AxesInRange bt) :=
  decidable_of_iff (InRange bt.btThrottle ∧ InRange bt.btYaw ∧ InRange bt.btPitch ∧ InRange bt.btRoll)
    ⟨fun ⟨t, y, p, r⟩ => ⟨t, y, p, r⟩, fun ⟨t, y, p, r⟩ => ⟨t, y, p, r⟩⟩

theorem axesInRange_zero : AxesInRange Globals.zero := by decide

def ReportInRange {δ : Type*} : Callback δ → Prop
  | .controllerData _ ctl => AxesInRange ctl.axes
  | _ => True

instance {δ : Type*} : DecidablePred (ReportInRange (δ := δ))
  | .controllerData _ ctl => inferInstanceAs (Decidable (AxesInRange ctl.axes))
  | .deviceDiscovered _ => isTrue trivial
  | .deviceConnected _ => isTrue trivial
  | .deviceReady _ => isTrue trivial
  | .deviceDisconnected _ => isTrue trivial

theorem apply_inRange {δ : Type*} {bt : Globals} {cb : Callback δ} (report : ReportInRange cb)
    (range : AxesInRange bt) : AxesInRange (cb.apply bt) := by
  cases cb with
  | controllerData d ctl => exact report
  | deviceDisconnected d => exact axesInRange_zero
  | _ => exact range

theorem platform_inRange {δ : Type*} {callbacks : List (Callback δ)}
    (reports : ∀ cb ∈ callbacks, ReportInRange cb) : AxesInRange ((platform δ).run callbacks) :=
  Machine.run_invariant (I := AxesInRange) axesInRange_zero
    (fun _ _ report range => apply_inRange report range) reports

theorem toInt_sub_of_fits {a b : Int32} (low : -2 ^ 31 ≤ a.toInt - b.toInt)
    (high : a.toInt - b.toInt < 2 ^ 31) : (a - b).toInt = a.toInt - b.toInt := by
  rw [Int32.toInt_sub]
  exact Int.bmod_eq_of_le (by omega) (by omega)

/-! ### The two maps

Both depend on one difference, and are monotone in it with every rounding. -/

def throttleOf (ρ : Rounding) (diff : ℤ) : ℚ := ρ (ρ (ρ diff * 100) / -492)

def tiltOf (ρ : Rounding) (diff : ℤ) : ℚ := ρ (ρ (ρ (ρ diff * 60) / 1023) + -30)

theorem mapValue_throttle (ρ : Rounding) {v : Int32} (fits : v.toInt < 2 ^ 31 - 20) :
    mapValue ρ v (-20) (-512) 0 100 = throttleOf ρ (v.toInt + 20) := by
  have diff : (v - -20).toInt = v.toInt + 20 := by
    have low := v.le_toInt
    rw [toInt_sub_of_fits] <;> simp <;> omega
  have span : ((-512 : Int32) - -20).toInt = -492 := by decide
  have full : ρ.Representable 100 := ρ.representable_ofNat (by norm_num)
  have width : ρ.Representable 492 := ρ.representable_ofNat (by norm_num)
  rw [mapValue, diff, span, sub_zero, full.apply, add_zero, ρ.apply_apply, throttleOf, Int.cast_neg,
    Int.cast_ofNat, width.neg.apply]

theorem mapValue_tilt (ρ : Rounding) (v : Int32) :
    mapValue ρ v (-512) 511 (-30) 30 = tiltOf ρ (v - -512).toInt := by
  have span : ((511 : Int32) - -512).toInt = 1023 := by decide
  have wide : ρ.Representable 1023 := ρ.representable_ofNat (by norm_num)
  have sixty : ρ.Representable 60 := ρ.representable_ofNat (by norm_num)
  rw [mapValue, span, show (30 : ℚ) - -30 = 60 by norm_num, sixty.apply, tiltOf, Int.cast_ofNat, wide.apply]

theorem throttleOf_antitone (ρ : Rounding) {a b : ℤ} (le : a ≤ b) : throttleOf ρ b ≤ throttleOf ρ a := by
  have start : ρ a ≤ ρ b := ρ.mono (by exact_mod_cast le)
  have scaled : ρ (ρ a * 100) ≤ ρ (ρ b * 100) := ρ.mono (by linarith)
  exact ρ.mono (div_le_div_of_nonpos_of_le (by norm_num) scaled)

theorem tiltOf_mono (ρ : Rounding) {a b : ℤ} (le : a ≤ b) : tiltOf ρ a ≤ tiltOf ρ b := by
  have start : ρ a ≤ ρ b := ρ.mono (by exact_mod_cast le)
  have scaled : ρ (ρ a * 60) ≤ ρ (ρ b * 60) := ρ.mono (by linarith)
  have share : ρ (ρ (ρ a * 60) / 1023) ≤ ρ (ρ (ρ b * 60) / 1023) := ρ.mono (by linarith)
  exact ρ.mono (by linarith)

/-- A difference that the format represents with its hundredfold is rounded once. -/
theorem throttleOf_eq (ρ : Rounding) {diff : ℤ} (small : |diff * 100| ≤ 2 ^ 24) :
    throttleOf ρ diff = ρ (diff * 100 / -492) := by
  have one : ρ.Representable diff := ρ.representable_int (by rw [abs_mul] at small; norm_num at small; omega)
  have hundred : ρ.Representable (diff * 100) := by exact_mod_cast ρ.representable_int small
  rw [throttleOf, one.apply, hundred.apply]

theorem tiltOf_eq (ρ : Rounding) {diff : ℤ} (small : |diff * 60| ≤ 2 ^ 24) :
    tiltOf ρ diff = ρ (ρ (diff * 60 / 1023) + -30) := by
  have one : ρ.Representable diff := ρ.representable_int (by rw [abs_mul] at small; norm_num at small; omega)
  have sixty : ρ.Representable (diff * 60) := by exact_mod_cast ρ.representable_int small
  rw [tiltOf, one.apply, sixty.apply]

theorem throttleOf_rest (ρ : Rounding) : throttleOf ρ 0 = 0 := by simp [throttleOf]

theorem throttleOf_full (ρ : Rounding) : throttleOf ρ (-492) = 100 := by
  have full : ρ.Representable 100 := ρ.representable_ofNat (by norm_num)
  rw [throttleOf_eq ρ (by norm_num), show ((-492 : ℤ) * 100 / -492 : ℚ) = 100 by norm_num, full.apply]

theorem tiltOf_left (ρ : Rounding) : tiltOf ρ 0 = -30 := by
  have thirty : ρ.Representable 30 := ρ.representable_ofNat (by norm_num)
  simp [tiltOf, thirty.neg.apply]

theorem tiltOf_right (ρ : Rounding) : tiltOf ρ 1023 = 30 := by
  have thirty : ρ.Representable 30 := ρ.representable_ofNat (by norm_num)
  have sixty : ρ.Representable 60 := ρ.representable_ofNat (by norm_num)
  rw [tiltOf_eq ρ (by norm_num), show ((1023 : ℤ) * 60 / 1023 : ℚ) = 60 by norm_num, sixty.apply,
    show (60 : ℚ) + -30 = 30 by norm_num, thirty.apply]

theorem two_lt_mapValue_iff (ρ : Rounding) {v : Int32} (fits : v.toInt < 2 ^ 31 - 20) :
    2 < mapValue ρ v (-20) (-512) 0 100 ↔ v.toInt ≤ -30 := by
  rw [mapValue_throttle ρ fits]
  constructor
  · intro above
    by_contra released
    have percent : throttleOf ρ (-9) ≤ 2 := by
      rw [throttleOf_eq ρ (by norm_num)]
      exact (ρ.representable_ofNat (n := 2) (by norm_num)).apply_le (by norm_num)
    exact absurd ((throttleOf_antitone ρ (by omega)).trans percent) (not_le.mpr above)
  · intro pushed
    have step : ρ.Representable (65 / 2 ^ 5) := ρ.dyadic 65 5 (by norm_num) (by norm_num)
    calc (2 : ℚ) < 65 / 2 ^ 5 := by norm_num
      _ ≤ throttleOf ρ (-10) := by rw [throttleOf_eq ρ (by norm_num)]; exact step.le_apply (by norm_num)
      _ ≤ throttleOf ρ (v.toInt + 20) := throttleOf_antitone ρ (by omega)

theorem mapValue_throttle_le (ρ : Rounding) {v : Int32} (range : InRange v) :
    mapValue ρ v (-20) (-512) 0 100 ≤ 100 := by
  obtain ⟨low, high⟩ := range
  rw [mapValue_throttle ρ (by omega), ← throttleOf_full ρ]
  exact throttleOf_antitone ρ (by omega)

theorem toInt_tilt_diff {v : Int32} (range : InRange v) : (v - -512).toInt = v.toInt + 512 := by
  obtain ⟨low, high⟩ := range
  rw [toInt_sub_of_fits] <;> simp <;> omega

theorem abs_mapValue_tilt_le (ρ : Rounding) {v : Int32} (range : InRange v) :
    |mapValue ρ v (-512) 511 (-30) 30| ≤ 30 := by
  have diff := toInt_tilt_diff range
  obtain ⟨low, high⟩ := range
  rw [mapValue_tilt, diff, abs_le, ← tiltOf_left ρ, ← tiltOf_right ρ]
  exact ⟨tiltOf_mono ρ (by omega), tiltOf_mono ρ (by omega)⟩

/-! ### Commands -/

/-- The stick position from which on the throttle is off, dead zone and cut-off together. -/
def Released (throttle : Int32) : Prop := -29 ≤ throttle.toInt

instance (throttle : Int32) : Decidable (Released throttle) :=
  inferInstanceAs (Decidable (-29 ≤ throttle.toInt))

theorem lt_neg_twenty_iff (v : Int32) : v < -20 ↔ v.toInt < -20 := by
  rw [Int32.lt_iff_toInt_lt]; rfl

theorem dead_zone_iff (v : Int32) : 20 < v ∨ v < -20 ↔ 20 < v.toInt ∨ v.toInt < -20 := by
  rw [lt_neg_twenty_iff, Int32.lt_iff_toInt_lt]; rfl

theorem mapThrottle_eq (ρ : Rounding) (v : Int32) :
    mapThrottle ρ v = if v.toInt < -20 then throttleOf ρ (v.toInt + 20) else 0 := by
  unfold mapThrottle
  split
  · rename_i tested
    have pushed := (lt_neg_twenty_iff v).mp tested
    rw [if_pos pushed, mapValue_throttle ρ (by omega)]
  · rename_i released
    rw [if_neg (mt (lt_neg_twenty_iff v).mpr released)]

theorem mapTilt_eq (ρ : Rounding) {v : Int32} (range : InRange v) :
    mapTilt ρ v = if 20 < v.toInt ∨ v.toInt < -20 then tiltOf ρ (v.toInt + 512) else 0 := by
  rw [mapTilt, mapValue_tilt, toInt_tilt_diff range]
  exact if_congr (dead_zone_iff v) rfl rfl

/-- The throttle engages exactly while the stick is not released, whatever 32-bit value it has. -/
theorem two_lt_throttleCmd_iff (ρ : Rounding) (bt : Globals) :
    2 < (commands ρ bt).throttleCmd ↔ ¬Released bt.btThrottle := by
  simp only [commands, mapThrottle, Released, not_le]
  by_cases tested : bt.btThrottle < -20
  · have low := (lt_neg_twenty_iff _).mp tested
    rw [if_pos tested, two_lt_mapValue_iff ρ (by omega)]
    omega
  · have high := mt (lt_neg_twenty_iff _).mpr tested
    rw [if_neg tested]
    constructor
    · intro h; norm_num at h
    · intro h; omega

theorem mapThrottle_le (ρ : Rounding) {v : Int32} (range : InRange v) : mapThrottle ρ v ≤ 100 := by
  unfold mapThrottle
  split
  · exact mapValue_throttle_le ρ range
  · norm_num

end BukkisDrone.Flight
