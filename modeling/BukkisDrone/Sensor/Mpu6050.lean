import BukkisDrone.Numeric.Rounding
import BukkisDrone.Runs.Machine

/-!
# The attitude sensor

`mpu6050_read_angles` of `mpu6050.c`: one I2C read, and the complementary filter it feeds. The
`math.h` functions are parameters.
-/

namespace BukkisDrone.Sensor
open Numeric Runs

/-- The functions of `math.h` that the filter calls, with `double` results. -/
structure Libm where
  sqrt : ℚ → ℚ
  /-- `atan2(y, x) * 180 / M_PI`. -/
  atan2Deg : ℚ → ℚ → ℚ

structure Libm.Sound (libm : Libm) : Prop where
  sqrt_nonneg : ∀ x, 0 ≤ libm.sqrt x
  abs_atan2_le : ∀ y x, |libm.atan2Deg y x| ≤ 180
  abs_atan2_le_of_nonneg : ∀ y x, 0 ≤ x → |libm.atan2Deg y x| ≤ 90

/-- Functions that agree with `math.h` on the coordinate axes and on perfect squares. -/
def Libm.axes : Libm where
  sqrt x := Nat.sqrt x.floor.toNat
  atan2Deg y x := if y = 0 then (if 0 ≤ x then 0 else 180) else if 0 < y then 90 else -90

theorem Libm.axes_sound : Libm.axes.Sound where
  sqrt_nonneg _ := Nat.cast_nonneg _
  abs_atan2_le y x := by
    simp only [Libm.axes]
    split_ifs <;> norm_num
  abs_atan2_le_of_nonneg y x h := by
    simp only [Libm.axes, h, if_true]
    split_ifs <;> norm_num

/-- One call's I2C result: the error code, and on success the bytes and the time in µs. -/
structure I2cRead where
  err : Int32
  data : Vector UInt8 14
  currentTime : UInt64

def espOk : Int32 := 0

def I2cRead.Ok (i2c : I2cRead) : Prop := i2c.err = espOk

instance (i2c : I2cRead) : Decidable i2c.Ok := inferInstanceAs (Decidable (i2c.err = espOk))

/-- A successful read at rest in level attitude: 1 g on the z axis at the ±2 g scale. -/
def I2cRead.level (currentTime : UInt64) : I2cRead where
  err := espOk
  data := #v[0, 0, 0, 0, 64, 0, 0, 0, 0, 0, 0, 0, 0, 0]
  currentTime := currentTime

structure Filter where
  currentAnglePitch : ℚ
  currentAngleRoll : ℚ
  lastReadTime : UInt64
  deriving DecidableEq

structure Angles where
  pitch : ℚ
  roll : ℚ
  deriving DecidableEq

/-- `(hi << 8) | lo`, stored in an `int16_t`. -/
def int16 (hi lo : UInt8) : Int16 := (hi.toUInt16 <<< 8 ||| lo.toUInt16).toInt16

/-- The seconds between two clock values, before the guard. The difference is unsigned. -/
def interval (ρ : Rounding) (currentTime lastReadTime : UInt64) : ℚ :=
  ρ (ρ (currentTime - lastReadTime).toNat / 1000000)

def readDt (ρ : Rounding) (currentTime lastReadTime : UInt64) : ℚ :=
  let dt := interval ρ currentTime lastReadTime
  if 1 / 2 < dt then ρ (1 / 100) else dt

structure Readings where
  gyroX : ℚ
  gyroY : ℚ
  pitchAcc : ℚ
  rollAcc : ℚ

def readings (ρ : Rounding) (libm : Libm) (data : Vector UInt8 14) : Readings :=
  let accelX : ℚ := (int16 data[0] data[1]).toInt
  let accelY : ℚ := (int16 data[2] data[3]).toInt
  let accelZ : ℚ := (int16 data[4] data[5]).toInt
  let gyroXRaw : ℚ := (int16 data[8] data[9]).toInt
  let gyroYRaw : ℚ := (int16 data[10] data[11]).toInt
  { gyroX := ρ (ρ gyroXRaw / ρ (131 / 2))
    gyroY := ρ (ρ gyroYRaw / ρ (131 / 2))
    pitchAcc := ρ (libm.atan2Deg (ρ accelY) (ρ accelZ))
    rollAcc := ρ (libm.atan2Deg (-ρ accelX)
      (libm.sqrt (ρ (ρ (ρ accelY * ρ accelY) + ρ (ρ accelZ * ρ accelZ))))) }

/-- `alpha * (angle + gyro * dt) + (1.0f - alpha) * acc`. -/
def fuse (ρ : Rounding) (angle gyro dt acc : ℚ) : ℚ :=
  let alpha := ρ (98 / 100)
  ρ (ρ (alpha * ρ (angle + ρ (gyro * dt))) + ρ (ρ (1 - alpha) * acc))

def mpu6050ReadAngles (ρ : Rounding) (libm : Libm) (i2c : I2cRead) (filter : Filter)
    (angles : Angles) : Int32 × Filter × Angles :=
  if i2c.Ok then
    let dt := readDt ρ i2c.currentTime filter.lastReadTime
    let r := readings ρ libm i2c.data
    let pitch := fuse ρ filter.currentAnglePitch r.gyroX dt r.pitchAcc
    let roll := fuse ρ filter.currentAngleRoll r.gyroY dt r.rollAcc
    (i2c.err, { currentAnglePitch := pitch, currentAngleRoll := roll, lastReadTime := i2c.currentTime },
      { pitch := -roll, roll := -pitch })
  else (i2c.err, filter, angles)

theorem readAngles_failed (ρ : Rounding) (libm : Libm) {i2c : I2cRead} (failed : ¬i2c.Ok)
    (filter : Filter) (angles : Angles) :
    mpu6050ReadAngles ρ libm i2c filter angles = (i2c.err, filter, angles) := if_neg failed

@[simp] theorem readAngles_err (ρ : Rounding) (libm : Libm) (i2c : I2cRead) (filter : Filter)
    (angles : Angles) : (mpu6050ReadAngles ρ libm i2c filter angles).1 = i2c.err := by
  unfold mpu6050ReadAngles; split <;> rfl

theorem readAngles_time (ρ : Rounding) (libm : Libm) {i2c : I2cRead} (ok : i2c.Ok)
    (filter : Filter) (angles : Angles) :
    (mpu6050ReadAngles ρ libm i2c filter angles).2.1.lastReadTime = i2c.currentTime := by
  rw [mpu6050ReadAngles, if_pos ok]

def Filter.boot (startTime : UInt64) : Filter where
  currentAnglePitch := 0
  currentAngleRoll := 0
  lastReadTime := startTime

def sensor (ρ : Rounding) (libm : Libm) (filter : Filter) (angles : Angles) :
    Machine (Filter × Angles) I2cRead where
  init := (filter, angles)
  step s i2c := (mpu6050ReadAngles ρ libm i2c s.1 s.2).2

end BukkisDrone.Sensor
