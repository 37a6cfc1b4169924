import BukkisDrone.Bluetooth.GamepadOnly
import BukkisDrone.Flight.Loop

/-!
# Two notions of elapsed time

The filter measures the time since the latest successful read. The controllers take the loop's
constant for it. With a loop on schedule the two agree unless a read has just failed.
-/

namespace BukkisDrone.Flight
open Bluetooth Motor Numeric Pid Runs Sensor

variable {δ : Type*}

def tick (startTime : UInt64) (k : ℕ) : UInt64 := startTime + UInt64.ofNat (10000 * k)

def OnTime (startTime : UInt64) (periods : List (Period δ)) : Prop :=
  ∀ k, (h : k < periods.length) → periods[k].i2c.currentTime = tick startTime k

instance (startTime : UInt64) (periods : List (Period δ)) : Decidable (OnTime startTime periods) :=
  inferInstanceAs (Decidable (∀ k, (h : k < periods.length) → _))

/-- Never do 50 reads in a row fail. -/
def NoOutage (periods : List (Period δ)) : Prop :=
  ∀ before fails after, periods = before ++ fails ++ after → (∀ p ∈ fails, ¬p.Reads) →
    fails.length < 50

def Computes (ρ : Rounding) (libm : Libm) (power : PowerUp) (before : List (Period δ))
    (p : Period δ) : Prop :=
  p.Reads ∧ 2 < (commands ρ (entered ρ libm power before p).bt).throttleCmd

instance (ρ : Rounding) (libm : Libm) (power : PowerUp) (before : List (Period δ)) (p : Period δ) :
    Decidable (Computes ρ libm power before p) := inferInstanceAs (Decidable (_ ∧ _))

def Resets (ρ : Rounding) (libm : Libm) (power : PowerUp) (before : List (Period δ))
    (p : Period δ) : Prop :=
  p.Reads ∧ ¬2 < (commands ρ (entered ρ libm power before p).bt).throttleCmd

/-- `pid_compute` has been called since the last `pid_reset`. -/
def PidRunning (ρ : Rounding) (libm : Libm) (power : PowerUp) (periods : List (Period δ)) : Prop :=
  ∃ before q after, periods = before ++ q :: after ∧ Computes ρ libm power before q ∧
    ∀ between x rest, after = between ++ x :: rest → ¬Resets ρ libm power (before ++ q :: between) x

def JustRead (periods : List (Period δ)) : Prop := ∃ before q, periods = before ++ [q] ∧ q.Reads

/-! ### The measured interval -/

theorem tick_sub (startTime : UInt64) (k m : ℕ) :
    tick startTime (k + m) - tick startTime k = UInt64.ofNat (10000 * m) := by
  have later : tick startTime (k + m) = UInt64.ofNat (10000 * m) + tick startTime k := by
    rw [tick, tick, Nat.mul_add, UInt64.ofNat_add, UInt64.add_comm (UInt64.ofNat (10000 * m)),
      UInt64.add_assoc]
  rw [later, UInt64.add_sub_cancel]

theorem readDt_ticks (ρ : Rounding) (startTime : UInt64) (k : ℕ) {m : ℕ} (short : m ≤ 50) :
    readDt ρ (tick startTime (k + m)) (tick startTime k) = ρ (m / 100) := by
  have ticks : (tick startTime (k + m) - tick startTime k).toNat = 10000 * m := by
    rw [tick_sub]
    exact UInt64.toNat_ofNat_of_lt' (by rw [UInt64.size]; omega)
  have whole : ρ.Representable ((10000 * m : ℕ) : ℚ) := ρ.representable_nat (by omega)
  have seconds : interval ρ (tick startTime (k + m)) (tick startTime k) = ρ (m / 100) := by
    rw [interval, ticks, whole.apply]
    congr 1
    push_cast
    ring
  have half : ρ.Representable (2 / 2 ^ 2) := ρ.dyadic 2 2 (by norm_num) (by norm_num)
  have guard : ρ (m / 100) ≤ 1 / 2 := by
    have fewer : (m : ℚ) ≤ 50 := by exact_mod_cast short
    exact (half.apply_le (by linarith)).trans (by norm_num)
  simp only [readDt]
  rw [seconds, if_neg (not_lt.mpr guard)]

theorem dt_lt_ticks (ρ : Rounding) {m : ℕ} (more : 2 ≤ m) : dt ρ < ρ (m / 100) := by
  have below : ρ.Representable (3 / 2 ^ 8) := ρ.dyadic 3 8 (by norm_num) (by norm_num)
  have above : ρ.Representable (2 / 2 ^ 7) := ρ.dyadic 2 7 (by norm_num) (by norm_num)
  have least : (2 : ℚ) ≤ m := by exact_mod_cast more
  calc dt ρ ≤ 3 / 2 ^ 8 := below.apply_le (by norm_num)
    _ < 2 / 2 ^ 7 := by norm_num
    _ ≤ ρ (m / 100) := above.le_apply (by linarith)

/-! ### The sample before -/

theorem PidRunning.latest {ρ : Rounding} {libm : Libm} {power : PowerUp} {periods : List (Period δ)}
    (running : PidRunning ρ libm power periods) :
    ∃ before q, Latest Period.Reads periods before q ∧ Computes ρ libm power before q := by
  obtain ⟨before, q, after, rfl, computes, noReset⟩ := running
  rcases latest_or_none Period.Reads after with ⟨between, x, reads, rest, rfl, none⟩ | none
  · refine ⟨before ++ q :: between, x, ⟨reads, rest, by simp, none⟩, reads, ?_⟩
    by_contra idle
    exact noReset between x rest rfl ⟨reads, idle⟩
  · exact ⟨before, q, ⟨computes.1, after, rfl, none⟩, computes⟩

/-- What the state remembers of the sample before iteration `p`: the errors that it differences, and
the time from which it measures. -/
structure Remembers (ρ : Rounding) (libm : Libm) (power : PowerUp) (s : Drone)
    (before : List (Period δ)) (q : Period δ) : Prop where
  pitch : s.control.pidPitch.prevError =
    ρ ((commands ρ (entered ρ libm power before q).bt).pitchCmd - (measured ρ libm power before q).pitch)
  roll : s.control.pidRoll.prevError =
    ρ ((commands ρ (entered ρ libm power before q).bt).rollCmd - (measured ρ libm power before q).roll)
  time : s.filter.lastReadTime = q.i2c.currentTime

theorem remembers_latest {ρ : Rounding} {libm : Libm} {power : PowerUp} {before : List (Period δ)}
    {q : Period δ} (computes : Computes ρ libm power before q) {fails : List (Period δ)}
    (failed : ∀ x ∈ fails, ¬x.Reads) (p : Period δ) :
    Remembers ρ libm power (entered ρ libm power (before ++ q :: fails) p) before q := by
  have suspended := flight_suspended ρ libm power (before ++ [q]) failed
  rw [List.append_assoc, List.singleton_append] at suspended
  have control : (entered ρ libm power (before ++ q :: fails) p).control = _ := suspended.1
  have filter : (entered ρ libm power (before ++ q :: fails) p).filter = _ := suspended.2
  constructor
  · rw [control, flight_control ρ libm power before computes.1, motorControl_engaged ρ _ _ computes.2]
    rfl
  · rw [control, flight_control ρ libm power before computes.1, motorControl_engaged ρ _ _ computes.2]
    rfl
  · rw [filter, flight_lastReadTime ρ libm power before computes.1]

theorem OnTime.at {startTime : UInt64} {before after : List (Period δ)} {p : Period δ}
    (clock : OnTime startTime (before ++ p :: after)) : p.i2c.currentTime = tick startTime before.length := by
  have h := clock before.length (by simp)
  simpa using h

theorem justRead_iff {before fails : List (Period δ)} {q : Period δ} (reads : q.Reads)
    (failed : ∀ x ∈ fails, ¬x.Reads) : JustRead (before ++ q :: fails) ↔ fails = [] := by
  constructor
  · rintro ⟨front, last, same, read⟩
    rcases snoc_eq_iff.mp same.symm with ⟨_, _, rfl⟩ | ⟨rest, _, rfl⟩
    · rfl
    · exact absurd read (failed last (by simp))
  · rintro rfl
    exact ⟨before, q, rfl, reads⟩

/-- Iteration `p` updates the controllers with the step `dtPid`, and the filter with `dtFilter`. -/
structure Updates (ρ : Rounding) (libm : Libm) (power : PowerUp) (periods : List (Period δ))
    (p : Period δ) (dtPid dtFilter : ℚ) : Prop where
  pidPitch : ((flight ρ libm power δ).run (periods ++ [p])).control.pidPitch =
    (pidCompute ρ (entered ρ libm power periods p).control.pidPitch
      (commands ρ (entered ρ libm power periods p).bt).pitchCmd (measured ρ libm power periods p).pitch dtPid).2
  pidRoll : ((flight ρ libm power δ).run (periods ++ [p])).control.pidRoll =
    (pidCompute ρ (entered ρ libm power periods p).control.pidRoll
      (commands ρ (entered ρ libm power periods p).bt).rollCmd (measured ρ libm power periods p).roll dtPid).2
  anglePitch : ((flight ρ libm power δ).run (periods ++ [p])).filter.currentAnglePitch =
    fuse ρ (entered ρ libm power periods p).filter.currentAnglePitch
      (readings ρ libm p.i2c.data).gyroX dtFilter (readings ρ libm p.i2c.data).pitchAcc
  angleRoll : ((flight ρ libm power δ).run (periods ++ [p])).filter.currentAngleRoll =
    fuse ρ (entered ρ libm power periods p).filter.currentAngleRoll
      (readings ρ libm p.i2c.data).gyroY dtFilter (readings ρ libm p.i2c.data).rollAcc

theorem computes_updates {ρ : Rounding} {libm : Libm} {power : PowerUp} {periods : List (Period δ)}
    {p : Period δ} (computes : Computes ρ libm power periods p) :
    Updates ρ libm power periods p (dt ρ)
      (readDt ρ p.i2c.currentTime (entered ρ libm power periods p).filter.lastReadTime) := by
  obtain ⟨reads, engaged⟩ := computes
  have control := flight_control ρ libm power periods reads
  rw [motorControl_engaged ρ _ _ engaged] at control
  have filter := flight_filter ρ libm power periods reads
  rw [mpu6050ReadAngles, if_pos (show p.i2c.Ok from reads)] at filter
  constructor
  · rw [control]
  · rw [control]
  · rw [filter]
  · rw [filter]

/-- On schedule, an iteration that differences two errors takes the measured time between their
samples exactly when the iteration before it read its sensor. -/
theorem same_time_base_iff (ρ : Rounding) (libm : Libm) (power : PowerUp) (startTime : UInt64)
    {periods : List (Period δ)} {p : Period δ} (clock : OnTime startTime (periods ++ [p]))
    (outage : NoOutage (periods ++ [p])) (computes : Computes ρ libm power periods p)
    (running : PidRunning ρ libm power periods) :
    let s := entered ρ libm power periods p
    let dtFilter := readDt ρ p.i2c.currentTime s.filter.lastReadTime
    Updates ρ libm power periods p (dt ρ) dtFilter ∧
      (∃ before q, Latest Period.Reads periods before q ∧ Remembers ρ libm power s before q) ∧
      (dt ρ = dtFilter ↔ JustRead periods) := by
  intro s dtFilter
  obtain ⟨before, q, ⟨reads, fails, rfl, failed⟩, earlier⟩ := running.latest
  have remembers := remembers_latest earlier failed p
  refine ⟨computes_updates computes, ⟨before, q, ⟨reads, fails, rfl, failed⟩, remembers⟩, ?_⟩
  have few : fails.length < 50 := outage (before ++ [q]) fails [p] (by simp) failed
  have now : p.i2c.currentTime = tick startTime (before.length + (fails.length + 1)) := by
    rw [clock.at]; simp
  have last : q.i2c.currentTime = tick startTime before.length := by
    rw [List.append_assoc, List.cons_append] at clock
    exact clock.at
  simp only [dtFilter, s]
  rw [remembers.time, now, last, readDt_ticks ρ startTime before.length (by omega), justRead_iff reads failed]
  constructor
  · intro same
    by_contra some
    have positive := List.length_pos_iff.mpr some
    exact (dt_lt_ticks ρ (by omega)).ne same
  · rintro rfl
    simp [dt]

/-! ### A failed read between two samples -/

/-- The throttle is engaged, and the second of three reads fails. -/
def skippedRead : List (Period ℕ) :=
  [⟨[.controllerData 0 (UniController.gamepad 0 0 0 (-300))], I2cRead.level 10000⟩,
    ⟨[], { I2cRead.level 20000 with err := 263 }⟩]

def afterSkippedRead : Period ℕ := ⟨[], I2cRead.level 30000⟩

theorem skippedRead_noOutage : NoOutage (skippedRead ++ [afterSkippedRead]) := by
  intro before fails after same _
  have length := congrArg List.length same
  simp [skippedRead] at length
  omega

theorem skippedRead_running : PidRunning .exact Libm.axes .cold skippedRead := by
  refine ⟨[], _, _, rfl, by decide +kernel, ?_⟩
  intro between x rest same resets
  have member : x ∈ skippedRead.tail := by rw [skippedRead, List.tail_cons, same]; simp
  exact absurd (List.mem_singleton.mp member ▸ resets.1) (by decide)

theorem same_time_base_iff_skipped :
    dt .exact = readDt .exact afterSkippedRead.i2c.currentTime
      (entered .exact Libm.axes .cold skippedRead afterSkippedRead).filter.lastReadTime ↔
        JustRead skippedRead :=
  (same_time_base_iff .exact Libm.axes .cold 10000 (by decide)
    skippedRead_noOutage (by decide +kernel) skippedRead_running).2.2

theorem skippedRead_diverges :
    let s := entered .exact Libm.axes .cold skippedRead afterSkippedRead
    (OnTime 10000 (skippedRead ++ [afterSkippedRead]) ∧ NoOutage (skippedRead ++ [afterSkippedRead]) ∧
      Computes .exact Libm.axes .cold skippedRead afterSkippedRead ∧
      PidRunning .exact Libm.axes .cold skippedRead) ∧
    readDt .exact afterSkippedRead.i2c.currentTime s.filter.lastReadTime = 1 / 50 ∧ dt .exact = 1 / 100 :=
  ⟨⟨by decide, skippedRead_noOutage, by decide +kernel, skippedRead_running⟩, by decide +kernel, rfl⟩

end BukkisDrone.Flight
