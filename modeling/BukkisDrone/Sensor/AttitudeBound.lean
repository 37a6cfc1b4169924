import BukkisDrone.Numeric.Blend
import BukkisDrone.Sensor.Mpu6050

/-!
# The attitude estimate stays bounded

Over exact arithmetic the filter is a complementary filter with weight 0.98. The accelerometer
angles are bounded, and an interval bound on the successful reads bounds every gyro increment.
-/

namespace BukkisDrone.Sensor
open Numeric Runs

def gyroRange : ℚ := 32768 / (131 / 2)

theorem fuse_exact (angle gyro dt acc : ℚ) :
    fuse .exact angle gyro dt acc = blend (98 / 100) angle (gyro * dt) acc := rfl

theorem abs_int16_le (hi lo : UInt8) : |((int16 hi lo).toInt : ℚ)| ≤ 32768 := by
  have low := (int16 hi lo).le_toInt
  have high := (int16 hi lo).toInt_lt
  exact abs_le.mpr ⟨by exact_mod_cast low, by exact_mod_cast high.le⟩

theorem abs_gyro_le (libm : Libm) (data : Vector UInt8 14) :
    |(readings .exact libm data).gyroX| ≤ gyroRange ∧ |(readings .exact libm data).gyroY| ≤ gyroRange := by
  have scale : ∀ hi lo : UInt8, |((int16 hi lo).toInt : ℚ) / (131 / 2)| ≤ gyroRange := by
    intro hi lo
    rw [abs_div, abs_of_pos (by norm_num : (0 : ℚ) < 131 / 2), gyroRange]
    exact div_le_div_of_nonneg_right (abs_int16_le hi lo) (by norm_num)
  exact ⟨scale _ _, scale _ _⟩

theorem abs_acc_le {libm : Libm} (sound : libm.Sound) (data : Vector UInt8 14) :
    |(readings .exact libm data).pitchAcc| ≤ 180 ∧ |(readings .exact libm data).rollAcc| ≤ 90 :=
  ⟨sound.abs_atan2_le _ _, sound.abs_atan2_le_of_nonneg _ _ (sound.sqrt_nonneg _)⟩

theorem readDt_mem (currentTime lastReadTime : UInt64) :
    0 ≤ readDt .exact currentTime lastReadTime ∧ readDt .exact currentTime lastReadTime ≤ 1 / 2 := by
  have nonneg : 0 ≤ interval .exact currentTime lastReadTime := by
    simp only [interval, Rounding.exact_apply]
    positivity
  simp only [readDt]
  split
  · norm_num
  · rename_i short
    exact ⟨nonneg, not_lt.mp short⟩

theorem readDt_le {D : ℚ} (hD : 1 / 100 ≤ D) {currentTime lastReadTime : UInt64}
    (h : interval .exact currentTime lastReadTime ≤ D ∨ 1 / 2 < interval .exact currentTime lastReadTime) :
    readDt .exact currentTime lastReadTime ≤ D := by
  simp only [readDt]
  split
  · simpa using hD
  · rename_i short
    exact h.resolve_right short

/-- Every successful read comes at most `D` seconds after the one before, or after more than half
a second. -/
def IntervalsWithin (D : ℚ) (libm : Libm) (filter : Filter) (angles : Angles) (reads : List I2cRead) :
    Prop :=
  ∀ before i2c after, reads = before ++ i2c :: after → i2c.Ok →
    let last := ((sensor .exact libm filter angles).run before).1.lastReadTime
    interval .exact i2c.currentTime last ≤ D ∨ 1 / 2 < interval .exact i2c.currentTime last

theorem intervalsWithin_snoc {D : ℚ} {libm : Libm} {filter : Filter} {angles : Angles} (reads : List I2cRead)
    (i2c : I2cRead) : IntervalsWithin D libm filter angles (reads ++ [i2c]) ↔
      IntervalsWithin D libm filter angles reads ∧
        (i2c.Ok →
          let last := ((sensor .exact libm filter angles).run reads).1.lastReadTime
          interval .exact i2c.currentTime last ≤ D ∨ 1 / 2 < interval .exact i2c.currentTime last) := by
  constructor
  · intro within
    refine ⟨fun before other after same => within before other (after ++ [i2c]) ?_, within reads i2c [] rfl⟩
    rw [same, List.append_assoc, List.cons_append]
  · rintro ⟨within, short⟩ before other after same
    rcases List.eq_nil_or_concat after with rfl | ⟨rest, last, rfl⟩
    · obtain ⟨rfl, one⟩ := List.append_inj' same rfl
      obtain rfl := (List.cons.inj one).1
      exact short
    · rw [List.concat_eq_append, ← List.cons_append, ← List.append_assoc] at same
      exact within before other rest (List.append_inj' same rfl).1

/-- The invariant, with `B` the most that the gyro contributes. -/
structure Bounded (B : ℚ) (filter : Filter) : Prop where
  pitch : |filter.currentAnglePitch| ≤ 180 + B
  roll : |filter.currentAngleRoll| ≤ 90 + B

structure Reported (B : ℚ) (angles : Angles) : Prop where
  pitch : |angles.pitch| ≤ 90 + B
  roll : |angles.roll| ≤ 180 + B

theorem readAngles_bounded {libm : Libm} (sound : libm.Sound) {D : ℚ} {i2c : I2cRead} (ok : i2c.Ok)
    {filter : Filter} (short : readDt .exact i2c.currentTime filter.lastReadTime ≤ D)
    (bounded : Bounded (49 * gyroRange * D) filter) (angles : Angles) :
    Bounded (49 * gyroRange * D) (mpu6050ReadAngles .exact libm i2c filter angles).2.1 ∧
      Reported (49 * gyroRange * D) (mpu6050ReadAngles .exact libm i2c filter angles).2.2 := by
  obtain ⟨gyroX, gyroY⟩ := abs_gyro_le libm i2c.data
  obtain ⟨pitchAcc, rollAcc⟩ := abs_acc_le sound i2c.data
  have elapsed := (readDt_mem i2c.currentTime filter.lastReadTime).1
  -- One axis: the weight 0.98 turns an increment bound `U` into `49 * U`.
  have axis : ∀ angle gyro acc V : ℚ, |gyro| ≤ gyroRange → |acc| ≤ V →
      |angle| ≤ V + 49 * gyroRange * D →
      |fuse .exact angle gyro (readDt .exact i2c.currentTime filter.lastReadTime) acc| ≤
        V + 49 * gyroRange * D := by
    intro angle gyro acc V hg ha hx
    have increment : |gyro * readDt .exact i2c.currentTime filter.lastReadTime| ≤ gyroRange * D := by
      rw [abs_mul, abs_of_nonneg elapsed]
      exact mul_le_mul hg short elapsed ((abs_nonneg _).trans hg)
    have weight : (98 / 100 : ℚ) / (1 - 98 / 100) = 49 := by norm_num
    have kept := abs_blend_le (a := (98 / 100 : ℚ)) (x := angle) (by norm_num) (by norm_num) increment ha
      (by rw [weight, ← mul_assoc]; exact hx)
    rwa [weight, ← mul_assoc, ← fuse_exact] at kept
  have pitch := axis _ _ _ 180 gyroX pitchAcc bounded.pitch
  have roll := axis _ _ _ 90 gyroY rollAcc bounded.roll
  rw [mpu6050ReadAngles, if_pos ok]
  exact ⟨⟨pitch, roll⟩, ⟨(abs_neg _).trans_le roll, (abs_neg _).trans_le pitch⟩⟩

/-- Every run keeps the estimate within the accelerometer's range and 49 full-scale increments. -/
theorem attitude_bounded {libm : Libm} (sound : libm.Sound) (startTime : UInt64) (angles : Angles) :
    (∀ currentTime lastReadTime, 0 ≤ readDt .exact currentTime lastReadTime ∧
      readDt .exact currentTime lastReadTime ≤ 1 / 2) ∧
    ∀ D : ℚ, 1 / 100 ≤ D → D ≤ 1 / 2 → ∀ reads : List I2cRead,
      IntervalsWithin D libm (Filter.boot startTime) angles reads →
      let s := (sensor .exact libm (Filter.boot startTime) angles).run reads
      (|s.1.currentAnglePitch| ≤ 180 + 49 * gyroRange * D ∧
        |s.1.currentAngleRoll| ≤ 90 + 49 * gyroRange * D) ∧
      ((∃ i2c ∈ reads, i2c.Ok) →
        |s.2.pitch| ≤ 90 + 49 * gyroRange * D ∧ |s.2.roll| ≤ 180 + 49 * gyroRange * D) := by
  refine ⟨readDt_mem, fun D low high reads within => ?_⟩
  have range : 0 ≤ 49 * gyroRange * D := by
    have : (0 : ℚ) ≤ gyroRange := by norm_num [gyroRange]
    positivity
  have inv := Machine.run_history (M := sensor .exact libm (Filter.boot startTime) angles)
    (P := fun reads s => IntervalsWithin D libm (Filter.boot startTime) angles reads →
      Bounded (49 * gyroRange * D) s.1 ∧
        ((∃ i2c ∈ reads, i2c.Ok) → Reported (49 * gyroRange * D) s.2))
    ?_ ?_ reads within
  · exact ⟨⟨inv.1.pitch, inv.1.roll⟩, fun read => ⟨(inv.2 read).pitch, (inv.2 read).roll⟩⟩
  · intro _
    refine ⟨⟨?_, ?_⟩, by simp⟩ <;> simp [sensor, Filter.boot] <;> linarith
  · intro reads i2c ih within
    obtain ⟨earlier, short⟩ := (intervalsWithin_snoc reads i2c).mp within
    have before := ih earlier
    by_cases ok : i2c.Ok
    · have short := readDt_le low (short ok)
      have kept := readAngles_bounded sound ok short before.1
        ((sensor .exact libm (Filter.boot startTime) angles).run reads).2
      exact ⟨kept.1, fun _ => kept.2⟩
    · have same := readAngles_failed .exact libm ok
        ((sensor .exact libm (Filter.boot startTime) angles).run reads).1
        ((sensor .exact libm (Filter.boot startTime) angles).run reads).2
      simp only [sensor] at same before ⊢
      rw [same]
      refine ⟨before.1, fun ⟨x, member, hx⟩ => before.2 ?_⟩
      rcases List.mem_append.mp member with old | new
      · exact ⟨x, old, hx⟩
      · exact absurd (List.mem_singleton.mp new ▸ hx) ok

/-- A read while the drone tilts and turns, with both gyros at their ends. -/
def turning (currentTime : UInt64) : I2cRead :=
  { I2cRead.level currentTime with data := #v[32, 0, 224, 0, 48, 0, 0, 0, 127, 255, 128, 0, 0, 0] }

/-- The second read fails, the fourth comes after a gap, and at the last the clock has started again. -/
def turningReads : List I2cRead :=
  [turning 10000, { turning 20000 with err := 263 }, turning 30000, turning 700000, turning 5000]

theorem attitude_bounded_turning :
    let s := (sensor .exact Libm.axes (Filter.boot 0) ⟨0, 0⟩).run turningReads
    (|s.1.currentAnglePitch| ≤ 180 + 49 * gyroRange * (1 / 50) ∧
      |s.1.currentAngleRoll| ≤ 90 + 49 * gyroRange * (1 / 50)) ∧
    ((∃ i2c ∈ turningReads, i2c.Ok) →
      |s.2.pitch| ≤ 90 + 49 * gyroRange * (1 / 50) ∧ |s.2.roll| ≤ 180 + 49 * gyroRange * (1 / 50)) := by
  refine (attitude_bounded Libm.axes_sound 0 ⟨0, 0⟩).2 (1 / 50) (by norm_num) (by norm_num) _ ?_
  have nothing : IntervalsWithin (1 / 50) Libm.axes (Filter.boot 0) ⟨0, 0⟩ [] := fun _ _ _ same =>
    absurd same (by simp)
  have first := (intervalsWithin_snoc _ (turning 10000)).mpr ⟨nothing, fun _ => Or.inl (by decide +kernel)⟩
  have failed := (intervalsWithin_snoc _ { turning 20000 with err := 263 }).mpr
    ⟨first, fun ok => absurd ok (by decide)⟩
  have third := (intervalsWithin_snoc _ (turning 30000)).mpr ⟨failed, fun _ => Or.inl (by decide +kernel)⟩
  have gap := (intervalsWithin_snoc _ (turning 700000)).mpr ⟨third, fun _ => Or.inr (by decide +kernel)⟩
  exact (intervalsWithin_snoc _ (turning 5000)).mpr ⟨gap, fun _ => Or.inr (by decide +kernel)⟩

end BukkisDrone.Sensor
