import Mathlib.Data.Rat.Floor
import Mathlib.Algebra.Order.Floor.Semiring
import BukkisDrone.Numeric.Limit
import BukkisDrone.Numeric.Rounding

/-!
# The motors

`motor.c`, over the duty registers of the four LEDC channels. The LEDC calls succeed.
-/

namespace BukkisDrone.Motor
open Numeric

/-- `motor_id_t`. The enumerator is the LEDC channel of the motor. -/
inductive MotorId where
  | fl | fr | bl | br
  deriving DecidableEq

abbrev Duties := MotorId → ℕ

def motors : List MotorId := [.fl, .fr, .bl, .br]

def off : Duties := fun _ => 0

/-- The duty written for a speed in percent, cut to ten bits by truncation. -/
def dutyOf (ρ : Rounding) (speedPercent : ℚ) : ℕ :=
  let speedPercent := if speedPercent < 0 then 0 else speedPercent
  let speedPercent := if 100 < speedPercent then 100 else speedPercent
  ⌊ρ (ρ (speedPercent / 100) * 1023)⌋₊

def motorSetSpeed (ρ : Rounding) (motor : MotorId) (speedPercent : ℚ) (duties : Duties) : Duties :=
  Function.update duties motor (dutyOf ρ speedPercent)

def motorInit (duties : Duties) : Duties :=
  motors.foldl (fun duties motor => Function.update duties motor 0) duties

/-- `for (float speed = 0; speed <= 15; speed += 1)`, with a bound on the passes. -/
def rampUp (ρ : Rounding) (motor : MotorId) : ℕ → ℚ → Duties → Duties
  | 0, _, duties => duties
  | fuel + 1, speed, duties =>
    if speed ≤ 15 then
      rampUp ρ motor fuel (ρ (speed + 1)) (motorSetSpeed ρ motor speed duties)
    else duties

def motorTestSequence (ρ : Rounding) (duties : Duties) : Duties :=
  motors.foldl (fun duties motor => motorSetSpeed ρ motor 0 (rampUp ρ motor 17 0 duties)) duties

/-! ### Duties -/

theorem dutyOf_eq (ρ : Rounding) (speedPercent : ℚ) :
    dutyOf ρ speedPercent = ⌊ρ (ρ (limit speedPercent 0 100 / 100) * 1023)⌋₊ := by
  have same : (if 100 < (if speedPercent < 0 then 0 else speedPercent) then 100
      else if speedPercent < 0 then 0 else speedPercent) = limit speedPercent 0 100 := by
    unfold limit
    split_ifs <;> first | rfl | linarith
  rw [← same, dutyOf]

@[simp] theorem dutyOf_zero (ρ : Rounding) : dutyOf ρ 0 = 0 := by
  rw [dutyOf_eq, limit_of_mem le_rfl (by norm_num)]
  simp

theorem dutyOf_mono (ρ : Rounding) : Monotone (dutyOf ρ) := by
  intro a b le
  rw [dutyOf_eq, dutyOf_eq]
  have speed : limit a 0 100 ≤ limit b 0 100 := limit_mono (by norm_num) le
  have share : ρ (limit a 0 100 / 100) ≤ ρ (limit b 0 100 / 100) := ρ.mono (by linarith)
  exact Nat.floor_le_floor (ρ.mono (by linarith))

theorem dutyOf_le (ρ : Rounding) (speedPercent : ℚ) : dutyOf ρ speedPercent ≤ 1023 := by
  have full : ρ.Representable 1023 := ρ.representable_ofNat (by norm_num)
  have share : ρ (limit speedPercent 0 100 / 100) ≤ 1 := by
    rw [← ρ.apply_one]
    have le := limit_le (by norm_num : (0 : ℚ) ≤ 100) speedPercent
    exact ρ.mono (by linarith)
  rw [dutyOf_eq]
  exact Nat.floor_le_of_le (full.apply_le (by linarith))

theorem dutyOf_pos (ρ : Rounding) {speedPercent : ℚ} (h : 2 ≤ speedPercent) :
    0 < dutyOf ρ speedPercent := by
  refine lt_of_lt_of_le ?_ (dutyOf_mono ρ h)
  have share : (1 / 2 ^ 6 : ℚ) ≤ ρ (2 / 100) := by
    have exact := ρ.dyadic 1 6 (by norm_num) (by norm_num)
    rw [Int.cast_one] at exact
    rw [← exact]
    exact ρ.mono (by norm_num)
  rw [dutyOf_eq, limit_of_mem (by norm_num) (by norm_num)]
  refine Nat.floor_pos.mpr ?_
  rw [← ρ.apply_one]
  exact ρ.mono (by linarith)

/-! ### Frames -/

@[simp] theorem motorSetSpeed_same (ρ : Rounding) (motor : MotorId) (speedPercent : ℚ) (d : Duties) :
    motorSetSpeed ρ motor speedPercent d motor = dutyOf ρ speedPercent :=
  Function.update_self ..

theorem motorSetSpeed_other (ρ : Rounding) {motor other : MotorId} (different : other ≠ motor)
    (speedPercent : ℚ) (d : Duties) : motorSetSpeed ρ motor speedPercent d other = d other :=
  Function.update_of_ne different ..

theorem rampUp_other (ρ : Rounding) {motor other : MotorId} (different : other ≠ motor) (fuel : ℕ)
    (speed : ℚ) (d : Duties) : rampUp ρ motor fuel speed d other = d other := by
  induction fuel generalizing speed d with
  | zero => rfl
  | succ fuel ih =>
    rw [rampUp]
    split
    · rw [ih, motorSetSpeed_other ρ different]
    · rfl

/-- The ramp ends by its own test: more passes change nothing. -/
theorem rampUp_ends (ρ : Rounding) (motor : MotorId) (extra : ℕ) (d : Duties) :
    rampUp ρ motor (17 + extra) 0 d = rampUp ρ motor 17 0 d := by
  have rest : ∀ (n k : ℕ), k + n = 16 → ∀ d : Duties,
      rampUp ρ motor (n + 1 + extra) k d = rampUp ρ motor (n + 1) k d := by
    intro n
    induction n with
    | zero =>
      intro k hk d
      obtain rfl : k = 16 := by omega
      rw [show 0 + 1 + extra = extra + 1 by omega, rampUp, rampUp]
      norm_num
    | succ n ih =>
      intro k hk d
      have next : ρ ((k : ℚ) + 1) = ((k + 1 : ℕ) : ℚ) := by
        rw [← Nat.cast_succ]
        exact ρ.representable_nat (by omega)
      rw [show n + 1 + 1 + extra = (n + 1 + extra) + 1 by omega, rampUp, rampUp, next,
        ih (k + 1) (by omega)]
  simpa using rest 16 0 rfl d

theorem foldl_off {f : Duties → MotorId → Duties} (same : ∀ d m, f d m m = 0)
    (other : ∀ d m n, n ≠ m → f d m n = d n) (d : Duties) : motors.foldl f d = off := by
  funext m
  simp only [motors, List.foldl_cons, List.foldl_nil, off]
  cases m <;> simp [same, other]

@[simp] theorem motorInit_off (d : Duties) : motorInit d = off :=
  foldl_off (fun _ _ => Function.update_self ..) (fun _ _ _ ne => Function.update_of_ne ne ..) d

@[simp] theorem motorTestSequence_off (ρ : Rounding) (d : Duties) : motorTestSequence ρ d = off := by
  refine foldl_off (fun d m => ?_) (fun d m n ne => ?_) d
  · rw [motorSetSpeed_same, dutyOf_zero]
  · rw [motorSetSpeed_other ρ ne, rampUp_other ρ ne]

end BukkisDrone.Motor
