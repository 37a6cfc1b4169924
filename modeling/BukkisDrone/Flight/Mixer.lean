import BukkisDrone.Bluetooth.GamepadOnly
import BukkisDrone.Flight.Loop

/-!
# Saturation in the mixer

Each motor may be cut at 0 or at 100 percent. The corrections stay below the reach of the throttle,
so the front and back pairs, and the left and right pairs, never lose a correction to the cut.
The duties keep the order of the speeds, whatever the rounding. The mean speed leaves the throttle for
half power.
-/

namespace BukkisDrone.Flight
open Bluetooth Motor Numeric Pid Runs Sensor

variable {δ : Type*}

def pitchMoment (speeds : MotorId → ℚ) : ℚ := (speeds .fl + speeds .fr) - (speeds .bl + speeds .br)

def rollMoment (speeds : MotorId → ℚ) : ℚ := (speeds .fr + speeds .br) - (speeds .fl + speeds .bl)

/-- The motors answer a correction in its direction, with at most four times its size. -/
structure Follows (correction moment : ℚ) : Prop where
  up : 0 < correction → 0 < moment
  down : correction < 0 → moment < 0
  rest : correction = 0 → moment = 0
  bound : |moment| ≤ 4 * |correction|

theorem Follows.neg {correction moment : ℚ} (h : Follows (-correction) (-moment)) :
    Follows correction moment where
  up pos := neg_neg_iff_pos.mp (h.down (neg_neg_iff_pos.mpr pos))
  down neg := neg_pos.mp (h.up (neg_pos.mpr neg))
  rest zero := neg_eq_zero.mp (h.rest (neg_eq_zero.mpr zero))
  bound := by have := h.bound; rwa [abs_neg, abs_neg] at this

/-! ### One axis -/

theorem clamp_lt_clamp {x y : ℚ} (lt : x < y) (above : 0 < y) (below : x < 100) :
    clamp x 0 100 < clamp y 0 100 :=
  limit_lt_limit (by norm_num) lt above below

theorem clamp_le_clamp {x y : ℚ} (le : x ≤ y) : clamp x 0 100 ≤ clamp y 0 100 :=
  limit_mono (by norm_num) le

theorem side_follows (T p r : ℚ) (pos : 0 ≤ p) :
    clamp (T - p + r) 0 100 ≤ clamp (T + p + r) 0 100 ∧
      clamp (T + p + r) 0 100 - clamp (T - p + r) 0 100 ≤ 2 * p := by
  have near := abs_limit_sub_limit_le (by norm_num : (0 : ℚ) ≤ 100) (T + p + r) (T - p + r)
  rw [show T + p + r - (T - p + r) = 2 * p by ring, abs_of_nonneg (by linarith : 0 ≤ 2 * p)] at near
  exact ⟨clamp_le_clamp (by linarith), (abs_le.mp near).2⟩

theorem side_lost {T p r : ℚ} (pos : 0 < p)
    (lost : ¬clamp (T - p + r) 0 100 < clamp (T + p + r) 0 100) : T + p + r ≤ 0 ∨ 100 ≤ T - p + r := by
  by_contra inside
  rw [not_or, not_le, not_le] at inside
  exact lost (clamp_lt_clamp (by linarith) inside.1 inside.2)

variable {T p r : ℚ}

/-- Both sides are never cut together: that takes a throttle beyond its range, or a roll correction
beyond the output limit. -/
theorem a_side_follows (off : 0 < T) (full : T ≤ 100) (limited : |r| ≤ 40) (pos : 0 < p) :
    clamp (T - p + -r) 0 100 < clamp (T + p + -r) 0 100 ∨
      clamp (T - p + r) 0 100 < clamp (T + p + r) 0 100 := by
  obtain ⟨low, high⟩ := abs_le.mp limited
  by_contra both
  rw [not_or] at both
  obtain ⟨left, right⟩ := both
  rcases side_lost pos left with idle | maximal <;> rcases side_lost pos right with idle' | maximal' <;>
    linarith

theorem pitch_follows_up (off : 0 < T) (full : T ≤ 100) (limited : |r| ≤ 40) (pos : 0 ≤ p) :
    Follows p (pitchMoment (mixer .exact T p r)) := by
  obtain ⟨left, left'⟩ := side_follows T p (-r) pos
  obtain ⟨right, right'⟩ := side_follows T p r pos
  have moment : pitchMoment (mixer .exact T p r) =
      (clamp (T + p + -r) 0 100 - clamp (T - p + -r) 0 100) +
        (clamp (T + p + r) 0 100 - clamp (T - p + r) 0 100) := by
    simp only [pitchMoment, mixer, Rounding.exact_apply, sub_eq_add_neg]
    ring
  rw [moment]
  refine ⟨fun strict => ?_, fun neg => absurd neg (not_lt.mpr pos), fun zero => by subst zero; simp, ?_⟩
  · rcases a_side_follows off full limited strict with wins | wins <;> linarith
  · rw [abs_of_nonneg (by linarith), abs_of_nonneg pos]
    linarith

theorem pitch_follows (off : 0 < T) (full : T ≤ 100) (limited : |r| ≤ 40) (p : ℚ) :
    Follows p (pitchMoment (mixer .exact T p r)) := by
  rcases le_total 0 p with pos | neg
  · exact pitch_follows_up off full limited pos
  · have mirrored := pitch_follows_up off full limited (neg_nonneg.mpr neg)
    have moment : pitchMoment (mixer .exact T (-p) r) = -pitchMoment (mixer .exact T p r) := by
      simp only [pitchMoment, mixer, Rounding.exact_apply, sub_neg_eq_add, ← sub_eq_add_neg]
      ring
    rw [moment] at mirrored
    exact mirrored.neg

theorem rollMoment_mixer (T p r : ℚ) :
    rollMoment (mixer .exact T p r) = pitchMoment (mixer .exact T r p) := by
  simp only [rollMoment, pitchMoment, mixer, Rounding.exact_apply]
  rw [show T + p + r = T + r + p by ring, show T - p + r = T + r - p by ring,
    show T + p - r = T - r + p by ring, show T - p - r = T - r - p by ring]
  ring

/-! ### Duties -/

structure Leans (duties : Duties) (outPitch outRoll : ℚ) : Prop where
  front : 0 ≤ outPitch → duties .bl ≤ duties .fl ∧ duties .br ≤ duties .fr
  back : outPitch ≤ 0 → duties .fl ≤ duties .bl ∧ duties .fr ≤ duties .br
  right : 0 ≤ outRoll → duties .fl ≤ duties .fr ∧ duties .bl ≤ duties .br
  left : outRoll ≤ 0 → duties .fr ≤ duties .fl ∧ duties .br ≤ duties .bl

theorem duties_lean (ρ : Rounding) (T outPitch outRoll : ℚ) :
    Leans (fun motor => dutyOf ρ (mixer ρ T outPitch outRoll motor)) outPitch outRoll := by
  have cut : ∀ {x y : ℚ}, x ≤ y → dutyOf ρ (clamp (ρ x) 0 100) ≤ dutyOf ρ (clamp (ρ y) 0 100) :=
    fun le => dutyOf_mono ρ (clamp_le_clamp (ρ.mono le))
  constructor
  · intro up
    have pair : ρ (T - outPitch) ≤ ρ (T + outPitch) := ρ.mono (by linarith)
    exact ⟨cut (by linarith), cut (by linarith)⟩
  · intro down
    have pair : ρ (T + outPitch) ≤ ρ (T - outPitch) := ρ.mono (by linarith)
    exact ⟨cut (by linarith), cut (by linarith)⟩
  · intro right
    exact ⟨cut (by linarith), cut (by linarith)⟩
  · intro left
    exact ⟨cut (by linarith), cut (by linarith)⟩

/-! ### Every iteration of every run -/

theorem entered_throttle_le (ρ : Rounding) (libm : Libm) (power : PowerUp) {periods : List (Period δ)}
    {p : Period δ} (reports : ∀ q ∈ periods ++ [p], ∀ cb ∈ q.callbacks, ReportInRange cb) :
    (commands ρ (entered ρ libm power periods p).bt).throttleCmd ≤ 100 := by
  refine mapThrottle_le ρ (AxesInRange.throttle ?_)
  rw [entered_bt]
  refine platform_inRange fun cb member => ?_
  obtain ⟨q, hq, hcb⟩ := List.mem_flatMap.mp member
  exact reports q hq cb hcb

/-- With every axis in range, an engaged iteration neither loses, nor reverses, nor amplifies what
its controllers ask for, whatever setpoints and angles they get. -/
theorem corrections_survive_saturation (libm : Libm) (power : PowerUp) (periods : List (Period δ))
    (p : Period δ) (reports : ∀ q ∈ periods ++ [p], ∀ cb ∈ q.callbacks, ReportInRange cb)
    (reads : p.Reads)
    (engaged : 2 < (commands .exact (entered .exact libm power periods p).bt).throttleCmd) :
    let s := entered .exact libm power periods p
    (∀ (pitchCmd rollCmd : ℚ) (winkel : Angles),
      let cmd := { commands .exact s.bt with pitchCmd := pitchCmd, rollCmd := rollCmd }
      let outPitch := (pidCompute .exact s.control.pidPitch pitchCmd winkel.pitch (dt .exact)).1
      let outRoll := (pidCompute .exact s.control.pidRoll rollCmd winkel.roll (dt .exact)).1
      let speeds := mixer .exact cmd.throttleCmd outPitch outRoll
      let duties := (motorControl .exact s.control cmd winkel).duties
      Follows outPitch (pitchMoment speeds) ∧ Follows outRoll (rollMoment speeds) ∧
        (∀ motor, duties motor = dutyOf .exact (speeds motor)) ∧ Leans duties outPitch outRoll) ∧
    ((flight .exact libm power δ).run (periods ++ [p])).control =
      motorControl .exact s.control (commands .exact s.bt) (measured .exact libm power periods p) := by
  intro s
  have full := entered_throttle_le .exact libm power reports
  have positive : 0 < (commands .exact s.bt).throttleCmd := by linarith
  have tuned := entered_tuned .exact libm power periods p
  refine ⟨fun pitchCmd rollCmd winkel => ?_, flight_control .exact libm power periods reads⟩
  intro cmd outPitch outRoll speeds duties
  have limitedPitch : |outPitch| ≤ 40 := tuned.abs_outPitch_le _ _
  have limitedRoll : |outRoll| ≤ 40 := tuned.abs_outRoll_le _ _
  have written : duties = fun motor => dutyOf .exact (speeds motor) := by
    simp only [duties, motorControl_engaged .exact s.control winkel (show 2 < cmd.throttleCmd from engaged)]
    rfl
  refine ⟨pitch_follows positive full limitedRoll outPitch, ?_, fun motor => by rw [written], ?_⟩
  · rw [rollMoment_mixer]
    exact pitch_follows positive full limitedPitch outRoll
  · rw [written]
    exact duties_lean .exact _ outPitch outRoll

theorem corrections_survive_saturation_corner :
    let p : Period ℕ := ⟨[.controllerData 0 (UniController.gamepad 511 511 0 (-512))], I2cRead.level 10000⟩
    let s := entered .exact Libm.axes .cold [] p
    let outPitch := (pidCompute .exact s.control.pidPitch 30 0 (dt .exact)).1
    let outRoll := (pidCompute .exact s.control.pidRoll 30 0 (dt .exact)).1
    let speeds := mixer .exact (commands .exact s.bt).throttleCmd outPitch outRoll
    Follows outPitch (pitchMoment speeds) ∧ Follows outRoll (rollMoment speeds) := by
  have corner := (corrections_survive_saturation Libm.axes .cold []
    (⟨[.controllerData 0 (UniController.gamepad 511 511 0 (-512))], I2cRead.level 10000⟩ : Period ℕ)
    (by decide) (by decide) (by decide +kernel)).1 30 30 ⟨0, 0⟩
  exact ⟨corner.1, corner.2.1⟩

/-! ### Collective thrust -/

/-- The outputs of the mixer before they are cut. -/
def uncut (T p r : ℚ) : MotorId → ℚ
  | .fl => T + p - r
  | .fr => T + p + r
  | .bl => T - p - r
  | .br => T - p + r

theorem mixer_exact (T p r : ℚ) (motor : MotorId) :
    mixer .exact T p r motor = clamp (uncut T p r motor) 0 100 := by
  cases motor <;> rfl

def meanSpeed (speeds : MotorId → ℚ) : ℚ := (speeds .fl + speeds .fr + speeds .bl + speeds .br) / 4

theorem meanSpeed_mixer (T p r : ℚ) : 4 * meanSpeed (mixer .exact T p r) =
    (clamp (T + (p - r)) 0 100 + clamp (T - (p - r)) 0 100) +
      (clamp (T + (p + r)) 0 100 + clamp (T - (p + r)) 0 100) := by
  simp only [meanSpeed, mixer_exact, uncut]
  -- Diagonally opposite motors get opposite offsets from the throttle.
  rw [show T + p - r = T + (p - r) by ring, show T + p + r = T + (p + r) by ring,
    show T - p - r = T - (p + r) by ring, show T - p + r = T - (p - r) by ring]
  ring

theorem meanSpeed_uncut {T p r : ℚ} (inside : ∀ motor, 0 ≤ uncut T p r motor ∧ uncut T p r motor ≤ 100) :
    meanSpeed (mixer .exact T p r) = T := by
  have same : ∀ motor, mixer .exact T p r motor = uncut T p r motor := by
    intro motor
    obtain ⟨low, high⟩ := inside motor
    rw [mixer_exact, clamp, limit_of_mem low high]
  simp only [meanSpeed, same, uncut]
  ring

/-- Saturation pulls the mean speed towards half power, never past it and never away from it. -/
theorem saturation_pulls_to_half {T : ℚ} (low : 0 ≤ T) (high : T ≤ 100) (p r : ℚ) :
    ((∀ motor, 0 ≤ uncut T p r motor ∧ uncut T p r motor ≤ 100) → meanSpeed (mixer .exact T p r) = T) ∧
      (T ≤ 50 → T ≤ meanSpeed (mixer .exact T p r) ∧ meanSpeed (mixer .exact T p r) ≤ 50) ∧
      (50 ≤ T → 50 ≤ meanSpeed (mixer .exact T p r) ∧ meanSpeed (mixer .exact T p r) ≤ T) := by
  have total := meanSpeed_mixer T p r
  refine ⟨meanSpeed_uncut, fun below => ?_, fun above => ?_⟩
  · have half : T + T ≤ 0 + 100 := by linarith
    obtain ⟨diagonal, diagonal'⟩ := pair_of_low low half (p - r)
    obtain ⟨other, other'⟩ := pair_of_low low half (p + r)
    simp only [clamp] at total
    constructor <;> linarith
  · have half : 0 + 100 ≤ T + T := by linarith
    obtain ⟨diagonal, diagonal'⟩ := pair_of_high high half (p - r)
    obtain ⟨other, other'⟩ := pair_of_high high half (p + r)
    simp only [clamp] at total
    constructor <;> linarith

theorem saturation_pulls_to_half_low :
    let avg := meanSpeed (mixer .exact 10 40 20)
    ((∀ motor, 0 ≤ uncut 10 40 20 motor ∧ uncut 10 40 20 motor ≤ 100) → avg = 10) ∧
      ((10 : ℚ) ≤ 50 → 10 ≤ avg ∧ avg ≤ 50) ∧ ((50 : ℚ) ≤ 10 → 50 ≤ avg ∧ avg ≤ 10) :=
  saturation_pulls_to_half (by norm_num) (by norm_num) 40 20

end BukkisDrone.Flight
