import Mathlib.Analysis.Normed.Field.Lemmas
import BukkisDrone.Numeric.Contraction
import BukkisDrone.Sensor.AttitudeBound

/-!
# The attitude estimate forgets where it started

Over exact arithmetic each successful read shrinks the difference of two estimates by 0.98, whatever
its frame and its time. On a constant frame and interval the estimate therefore settles.
-/

namespace BukkisDrone.Sensor
open Numeric Runs

/-- `x` and `y` differ by `c` times as much as `filter` and `other` do, and have one clock. -/
structure Apart (c : ℚ) (filter other x y : Filter) : Prop where
  pitch : x.currentAnglePitch - y.currentAnglePitch =
    c * (filter.currentAnglePitch - other.currentAnglePitch)
  roll : x.currentAngleRoll - y.currentAngleRoll = c * (filter.currentAngleRoll - other.currentAngleRoll)
  time : x.lastReadTime = y.lastReadTime

theorem Apart.trans {c d : ℚ} {filter other x y v w : Filter} (h : Apart c filter other x y)
    (h' : Apart d x y v w) : Apart (d * c) filter other v w := by
  refine ⟨?_, ?_, h'.time⟩
  · rw [h'.pitch, h.pitch, mul_assoc]
  · rw [h'.roll, h.roll, mul_assoc]

theorem readAngles_apart (libm : Libm) {i2c : I2cRead} (ok : i2c.Ok) {filter other : Filter}
    (same : filter.lastReadTime = other.lastReadTime) (angles winkel : Angles) :
    Apart (98 / 100) filter other (mpu6050ReadAngles .exact libm i2c filter angles).2.1
      (mpu6050ReadAngles .exact libm i2c other winkel).2.1 := by
  rw [mpu6050ReadAngles, mpu6050ReadAngles, if_pos ok, if_pos ok, same]
  exact ⟨blend_sub_blend _ _ _ _ _, blend_sub_blend _ _ _ _ _, rfl⟩

theorem run_apart (libm : Libm) {filter other : Filter} (same : filter.lastReadTime = other.lastReadTime)
    (angles winkel : Angles) (reads : List I2cRead) :
    Apart ((98 / 100) ^ reads.countP (fun i2c => i2c.Ok)) filter other
      ((sensor .exact libm filter angles).run reads).1 ((sensor .exact libm other winkel).run reads).1 := by
  induction reads using List.reverseRecOn with
  | nil => exact ⟨by simp [sensor], by simp [sensor], same⟩
  | append_singleton reads i2c ih =>
    rw [Machine.run_snoc, Machine.run_snoc, List.countP_append, List.countP_singleton]
    by_cases ok : i2c.Ok
    · rw [decide_eq_true ok, if_pos rfl, pow_succ']
      exact ih.trans (readAngles_apart libm ok ih.time _ _)
    · rw [decide_eq_false ok, if_neg Bool.false_ne_true, add_zero]
      simp only [sensor, readAngles_failed .exact libm ok]
      exact ih

/-! ### A drone at rest -/

/-- Endless reads, of which the successful ones never stop, all bring the frame `data`, and all come
with the time step `dt`. -/
structure Steady (libm : Libm) (filter : Filter) (angles : Angles) (reads : ℕ → I2cRead)
    (data : Vector UInt8 14) (dt : ℚ) : Prop where
  often : ∃ᶠ n in Filter.atTop, (reads n).Ok
  frame : ∀ n, (reads n).Ok → (reads n).data = data
  pace : ∀ n, (reads n).Ok → readDt .exact (reads n).currentTime
    ((sensor .exact libm filter angles).trace reads n).1.lastReadTime = dt

theorem fuse_settled (gyro dt acc : ℚ) :
    fuse .exact (acc + 49 * gyro * dt) gyro dt acc = acc + 49 * gyro * dt := by
  have fixed := blend_fixed (a := (98 / 100 : ℚ)) (by norm_num) (gyro * dt) acc
  rwa [show (98 / 100 : ℚ) / (1 - 98 / 100) = 49 by norm_num, ← mul_assoc] at fixed

theorem fuse_sub_settled (angle gyro dt acc : ℚ) :
    fuse .exact angle gyro dt acc - (acc + 49 * gyro * dt) =
      98 / 100 * (angle - (acc + 49 * gyro * dt)) := by
  have settled := fuse_settled gyro dt acc
  calc fuse .exact angle gyro dt acc - (acc + 49 * gyro * dt)
      = fuse .exact angle gyro dt acc - fuse .exact (acc + 49 * gyro * dt) gyro dt acc := by rw [settled]
    _ = 98 / 100 * (angle - (acc + 49 * gyro * dt)) := by
      rw [fuse_exact, fuse_exact, blend_sub_blend]

variable {libm : Libm} {filter : Filter} {angles : Angles} {reads : ℕ → I2cRead}
  {data : Vector UInt8 14} {dt : ℚ}

theorem Steady.settles (steady : Steady libm filter angles reads data dt) :
    let r := readings .exact libm data
    let estimate := fun n => ((sensor .exact libm filter angles).trace reads n).1
    Filter.Tendsto (fun n => (estimate n).currentAnglePitch) Filter.atTop
        (nhds (r.pitchAcc + 49 * r.gyroX * dt)) ∧
      Filter.Tendsto (fun n => (estimate n).currentAngleRoll) Filter.atTop
        (nhds (r.rollAcc + 49 * r.gyroY * dt)) := by
  intro r estimate
  have read : ∀ n, (reads n).Ok → estimate (n + 1) =
      { currentAnglePitch := fuse .exact (estimate n).currentAnglePitch r.gyroX dt r.pitchAcc
        currentAngleRoll := fuse .exact (estimate n).currentAngleRoll r.gyroY dt r.rollAcc
        lastReadTime := (reads n).currentTime } := by
    intro n ok
    have frame := steady.frame n ok
    have pace := steady.pace n ok
    simp only [estimate, Machine.trace_succ, r]
    simp only [sensor, mpu6050ReadAngles, if_pos ok] at pace ⊢
    rw [pace, frame]
  have missed : ∀ n, ¬(reads n).Ok → estimate (n + 1) = estimate n := by
    intro n failed
    simp only [estimate, Machine.trace_succ]
    simp only [sensor, readAngles_failed .exact libm failed]
  have axis : ∀ (angle : Filter → ℚ) (gyro acc : ℚ), (∀ n, (reads n).Ok →
      angle (estimate (n + 1)) = fuse .exact (angle (estimate n)) gyro dt acc) →
      Filter.Tendsto (fun n => angle (estimate n)) Filter.atTop (nhds (acc + 49 * gyro * dt)) := by
    intro angle gyro acc fused
    refine tendsto_of_contract (p := fun n => (reads n).Ok) (a := 98 / 100) ?_ ?_ (by norm_num)
      (by norm_num) steady.often
    · intro n ok
      rw [fused n ok, fuse_sub_settled]
    · intro n failed
      rw [missed n failed]
  exact ⟨axis _ _ _ fun n ok => by rw [read n ok], axis _ _ _ fun n ok => by rw [read n ok]⟩

/-- Two estimates approach each other by 0.98 with every successful read, failed reads change
nothing, and a steady input draws the estimate to the accelerometer angle and 49 gyro increments. -/
theorem attitude_forgets (libm : Libm) :
    (∀ (filter other : Filter) (angles winkel : Angles) (reads : List I2cRead),
      filter.lastReadTime = other.lastReadTime →
      Apart ((98 / 100) ^ reads.countP (fun i2c => i2c.Ok)) filter other
        ((sensor .exact libm filter angles).run reads).1
        ((sensor .exact libm other winkel).run reads).1) ∧
    (∀ (i2c : I2cRead) (filter : Filter) (angles : Angles), ¬i2c.Ok →
      mpu6050ReadAngles .exact libm i2c filter angles = (i2c.err, filter, angles)) ∧
    ∀ (filter : Filter) (angles : Angles) (reads : ℕ → I2cRead) (data : Vector UInt8 14) (dt : ℚ),
      Steady libm filter angles reads data dt →
      let r := readings .exact libm data
      let estimate := fun n => ((sensor .exact libm filter angles).trace reads n).1
      Filter.Tendsto (fun n => (estimate n).currentAnglePitch) Filter.atTop
          (nhds (r.pitchAcc + 49 * r.gyroX * dt)) ∧
        Filter.Tendsto (fun n => (estimate n).currentAngleRoll) Filter.atTop
          (nhds (r.rollAcc + 49 * r.gyroY * dt)) :=
  ⟨fun _ _ angles winkel reads same => run_apart libm same angles winkel reads,
    fun _ filter angles failed => readAngles_failed .exact libm failed filter angles,
    fun _ _ _ _ _ steady => steady.settles⟩

def levelReads (n : ℕ) : I2cRead := I2cRead.level (10000 * UInt64.ofNat (n + 1))

theorem steady_levelReads (pitch roll : ℚ) (angles : Angles) :
    Steady Libm.axes ⟨pitch, roll, 0⟩ angles levelReads (I2cRead.level 0).data (1 / 100) := by
  have time : ∀ n, ((sensor .exact Libm.axes ⟨pitch, roll, 0⟩ angles).trace levelReads n).1.lastReadTime =
      10000 * UInt64.ofNat n := by
    intro n
    cases n with
    | zero => rfl
    | succ n =>
      have ok : (levelReads n).Ok := rfl
      rw [Machine.trace_succ]
      exact readAngles_time .exact Libm.axes ok _
        ((sensor .exact Libm.axes ⟨pitch, roll, 0⟩ angles).trace levelReads n).2
  refine ⟨Filter.Frequently.of_forall fun n => rfl, fun n _ => rfl, fun n _ => ?_⟩
  have elapsed : (levelReads n).currentTime - 10000 * UInt64.ofNat n = 10000 := by
    simp only [levelReads, I2cRead.level, UInt64.ofNat_add]
    grind
  rw [time, readDt, interval, elapsed]
  decide +kernel

theorem attitude_forgets_level :
    let reads := [I2cRead.level 10000, { I2cRead.level 20000 with err := -1 }, I2cRead.level 30000]
    Apart ((98 / 100) ^ 2) ⟨45, -30, 0⟩ ⟨0, 0, 0⟩
        ((sensor .exact Libm.axes ⟨45, -30, 0⟩ ⟨0, 0⟩).run reads).1
        ((sensor .exact Libm.axes ⟨0, 0, 0⟩ ⟨0, 0⟩).run reads).1 ∧
      mpu6050ReadAngles .exact Libm.axes { I2cRead.level 20000 with err := -1 } ⟨45, -30, 0⟩ ⟨0, 0⟩ =
        (-1, ⟨45, -30, 0⟩, ⟨0, 0⟩) ∧
      Filter.Tendsto (fun n => ((sensor .exact Libm.axes ⟨45, -30, 0⟩ ⟨0, 0⟩).trace levelReads
        n).1.currentAnglePitch) Filter.atTop (nhds 0) := by
  obtain ⟨forgets, failed, settles⟩ := attitude_forgets Libm.axes
  have level : (readings .exact Libm.axes (I2cRead.level 0).data).pitchAcc +
      49 * (readings .exact Libm.axes (I2cRead.level 0).data).gyroX * (1 / 100) = 0 := by decide +kernel
  have settled := (settles _ _ _ _ _ (steady_levelReads 45 (-30) ⟨0, 0⟩)).1
  rw [level] at settled
  exact ⟨forgets ⟨45, -30, 0⟩ ⟨0, 0, 0⟩ ⟨0, 0⟩ ⟨0, 0⟩
      [I2cRead.level 10000, { I2cRead.level 20000 with err := -1 }, I2cRead.level 30000] rfl,
    failed _ _ _ (by decide), settled⟩

end BukkisDrone.Sensor
