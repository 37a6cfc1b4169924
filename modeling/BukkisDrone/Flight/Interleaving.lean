import BukkisDrone.Bluetooth.GamepadOnly
import BukkisDrone.Flight.Loop

/-!
# Loads and stores that interleave

The Bluetooth task stores the command globals one word at a time, and the loop loads a global up to
three times in one iteration. Here every load and every store is a step of its own. The value that
passes the dead zone and the value that is mapped may differ.
-/

namespace BukkisDrone.Flight
open Bluetooth Motor Numeric Pid Runs Sensor

inductive Word where
  | throttle | yaw | pitch | roll
  deriving DecidableEq

def store (word : Word) (value : Int32) (bt : Globals) : Globals :=
  match word with
  | .throttle => { bt with btThrottle := value }
  | .yaw => { bt with btYaw := value }
  | .pitch => { bt with btPitch := value }
  | .roll => { bt with btRoll := value }

structure Store (δ : Type*) where
  word : Word
  value : Int32
  callback : Callback δ

/-- Where the loop is: at its next load, or at a block without any. -/
inductive Pc where
  | readSensor
  | testThrottle | mapThrottle
  | testPitchHigh | testPitchLow | mapPitch
  | testRollHigh | testRollLow | mapRoll
  | drive
  deriving DecidableEq

/-- A loaded value, and the callback that stored it, if any did since boot. -/
structure Load (δ : Type*) where
  value : Int32
  writer : Option (Callback δ)
  deriving DecidableEq

variable {δ : Type*}

def stores (cb : Callback δ) : List (Store δ) :=
  match cb with
  | .deviceDisconnected _ => [⟨.throttle, 0, cb⟩, ⟨.yaw, 0, cb⟩, ⟨.pitch, 0, cb⟩, ⟨.roll, 0, cb⟩]
  | .controllerData _ ctl =>
    [⟨.throttle, ctl.axisRy, cb⟩, ⟨.yaw, ctl.axisRx, cb⟩, ⟨.pitch, ctl.axisY, cb⟩, ⟨.roll, ctl.axisX, cb⟩]
  | _ => []

/-- Both tasks. `writer` and `mapped` record where the throttle comes from, and no step reads them. -/
structure System (δ : Type*) where
  drone : Drone
  pending : List (Store δ)
  pc : Pc
  cmd : Commands
  writer : Option (Callback δ)
  mapped : Option (Load δ)

def loopStep (ρ : Rounding) (libm : Libm) (i2c : I2cRead) (s : System δ) : System δ :=
  let bt := s.drone.bt
  match s.pc with
  | .readSensor =>
    let (err, filter, winkel) := mpu6050ReadAngles ρ libm i2c s.drone.filter s.drone.aktuelleWinkel
    let s := { s with drone := { s.drone with filter := filter, aktuelleWinkel := winkel } }
    if err = espOk then { s with pc := .testThrottle, cmd := ⟨0, 0, 0⟩, mapped := none } else s
  | .testThrottle => { s with pc := if bt.btThrottle < -20 then .mapThrottle else .testPitchHigh }
  | .mapThrottle =>
    { s with
      pc := .testPitchHigh
      cmd := { s.cmd with throttleCmd := mapValue ρ bt.btThrottle (-20) (-512) 0 100 }
      mapped := some ⟨bt.btThrottle, s.writer⟩ }
  | .testPitchHigh => { s with pc := if 20 < bt.btPitch then .mapPitch else .testPitchLow }
  | .testPitchLow => { s with pc := if bt.btPitch < -20 then .mapPitch else .testRollHigh }
  | .mapPitch =>
    { s with
      pc := .testRollHigh
      cmd := { s.cmd with pitchCmd := mapValue ρ bt.btPitch (-512) 511 (-30) 30 } }
  | .testRollHigh => { s with pc := if 20 < bt.btRoll then .mapRoll else .testRollLow }
  | .testRollLow => { s with pc := if bt.btRoll < -20 then .mapRoll else .drive }
  | .mapRoll =>
    { s with
      pc := .drive
      cmd := { s.cmd with rollCmd := mapValue ρ bt.btRoll (-512) 511 (-30) 30 } }
  | .drive =>
    { s with
      pc := .readSensor
      drone := { s.drone with control := motorControl ρ s.drone.control s.cmd s.drone.aktuelleWinkel } }

def storeStep (s : System δ) : System δ :=
  match s.pending with
  | [] => s
  | st :: rest =>
    { s with
      drone := { s.drone with bt := store st.word st.value s.drone.bt }
      pending := rest
      writer := if st.word = .throttle then some st.callback else s.writer }

/-- What the scheduler chooses. A callback starts when the ones before it have done their stores. -/
inductive Event (δ : Type*) where
  | loop (i2c : I2cRead)
  | callback (cb : Callback δ)
  | store

def systemStep (ρ : Rounding) (libm : Libm) (s : System δ) : Event δ → System δ
  | .loop i2c => loopStep ρ libm i2c s
  | .callback cb => { s with pending := s.pending ++ stores cb }
  | .store => storeStep s

def interleaved (ρ : Rounding) (libm : Libm) (power : PowerUp) (δ : Type*) :
    Machine (System δ) (Event δ) where
  init := ⟨boot ρ power, [], .readSensor, ⟨0, 0, 0⟩, none, none⟩
  step := systemStep ρ libm

/-! ### The invariant -/

/-- The value is an axis in range, and a disconnect left a zero. -/
structure Load.Sound (load : Load δ) : Prop where
  range : InRange load.value
  zero : ∀ d, load.writer = some (.deviceDisconnected d) → load.value = 0

structure Harmless (ρ : Rounding) (s : System δ) : Prop where
  axes : AxesInRange s.drone.bt
  pending : ∀ st ∈ s.pending, Load.Sound ⟨st.value, some st.callback⟩
  current : Load.Sound ⟨s.drone.bt.btThrottle, s.writer⟩
  mapped : ∀ load, s.mapped = some load → load.Sound
  throttle : s.cmd.throttleCmd = 0 ∨
    ∃ load, s.mapped = some load ∧ s.cmd.throttleCmd = mapValue ρ load.value (-20) (-512) 0 100
  pitch : |s.cmd.pitchCmd| ≤ 30
  roll : |s.cmd.rollCmd| ≤ 30

theorem inRange_zero : InRange 0 := by decide

theorem stores_sound {cb : Callback δ} (report : ReportInRange cb) :
    ∀ st ∈ stores cb, Load.Sound ⟨st.value, some st.callback⟩ := by
  intro st member
  cases cb with
  | deviceDisconnected d =>
    simp only [stores, List.mem_cons, List.not_mem_nil, or_false] at member
    rcases member with rfl | rfl | rfl | rfl <;> exact ⟨inRange_zero, fun _ _ => rfl⟩
  | controllerData d ctl =>
    obtain ⟨throttle, yaw, pitch, roll⟩ := report
    simp only [stores, List.mem_cons, List.not_mem_nil, or_false] at member
    rcases member with rfl | rfl | rfl | rfl
    · exact ⟨throttle, fun _ h => by cases h⟩
    · exact ⟨yaw, fun _ h => by cases h⟩
    · exact ⟨pitch, fun _ h => by cases h⟩
    · exact ⟨roll, fun _ h => by cases h⟩
  | _ => simp [stores] at member

theorem axesInRange_store {bt : Globals} (range : AxesInRange bt) (word : Word) {value : Int32}
    (small : InRange value) : AxesInRange (store word value bt) := by
  obtain ⟨throttle, yaw, pitch, roll⟩ := range
  cases word
  · exact ⟨small, yaw, pitch, roll⟩
  · exact ⟨throttle, small, pitch, roll⟩
  · exact ⟨throttle, yaw, small, roll⟩
  · exact ⟨throttle, yaw, pitch, small⟩

theorem storeStep_harmless {ρ : Rounding} {s : System δ} (h : Harmless ρ s) :
    Harmless ρ (storeStep s) := by
  unfold storeStep
  split
  · exact h
  · rename_i st rest queue
    have sound := h.pending st (by rw [queue]; exact List.mem_cons_self)
    refine { h with
      axes := axesInRange_store h.axes _ sound.range
      pending := fun x member => h.pending x (by rw [queue]; exact List.mem_cons_of_mem _ member)
      current := ?_ }
    cases word : st.word
    · simpa [store] using sound
    all_goals simpa [store] using h.current

theorem loopStep_harmless {ρ : Rounding} (libm : Libm) (i2c : I2cRead) {s : System δ}
    (h : Harmless ρ s) : Harmless ρ (loopStep ρ libm i2c s) := by
  obtain ⟨axes, pending, current, mapped, throttle, pitch, roll⟩ := h
  cases place : s.pc <;> simp only [loopStep, place]
  case readSensor =>
    split
    · exact ⟨axes, pending, current, by simp, Or.inl rfl, by simp, by simp⟩
    · exact ⟨axes, pending, current, mapped, throttle, pitch, roll⟩
  case mapThrottle =>
    refine ⟨axes, pending, current, ?_, Or.inr ⟨_, rfl, rfl⟩, pitch, roll⟩
    rintro load same
    exact Option.some.inj same ▸ current
  case mapPitch =>
    exact ⟨axes, pending, current, mapped, throttle, abs_mapValue_tilt_le ρ axes.pitch, roll⟩
  case mapRoll =>
    exact ⟨axes, pending, current, mapped, throttle, pitch, abs_mapValue_tilt_le ρ axes.roll⟩
  all_goals exact ⟨axes, pending, current, mapped, throttle, pitch, roll⟩

def Event.InRange : Event δ → Prop
  | .callback cb => ReportInRange cb
  | _ => True

theorem systemStep_harmless {ρ : Rounding} (libm : Libm) {s : System δ} {e : Event δ}
    (range : e.InRange) (h : Harmless ρ s) : Harmless ρ (systemStep ρ libm s e) := by
  cases e with
  | loop i2c => exact loopStep_harmless libm i2c h
  | store => exact storeStep_harmless h
  | callback cb =>
    refine { h with pending := fun st member => ?_ }
    rcases List.mem_append.mp member with old | new
    · exact h.pending st old
    · exact stores_sound range st new

theorem run_harmless (ρ : Rounding) (libm : Libm) (power : PowerUp) {events : List (Event δ)}
    (range : ∀ e ∈ events, e.InRange) : Harmless ρ ((interleaved ρ libm power δ).run events) := by
  refine Machine.run_invariant (I := Harmless ρ) ?_ (fun s e ok h => systemStep_harmless libm ok h) range
  exact ⟨axesInRange_zero, by simp [interleaved], ⟨inRange_zero, by simp [interleaved]⟩,
    by simp [interleaved], Or.inl rfl, by simp [interleaved], by simp [interleaved]⟩

/-! ### Double reads -/

theorem systemStep_control {ρ : Rounding} {libm : Libm} {s : System δ} {e : Event δ}
    (writes : (systemStep ρ libm s e).drone.control ≠ s.drone.control) : s.pc = .drive := by
  by_contra elsewhere
  apply writes
  cases e with
  | callback cb => rfl
  | store =>
    simp only [systemStep, storeStep]
    split <;> rfl
  | loop i2c =>
    cases place : s.pc <;> simp only [systemStep, loopStep, place]
    case readSensor => split <;> rfl
    case drive => exact absurd place elsewhere

theorem Harmless.engaged {ρ : Rounding} {s : System δ} (h : Harmless ρ s) (engaged : 2 < s.cmd.throttleCmd) :
    ∃ load, s.mapped = some load ∧ load.value.toInt ≤ -30 := by
  rcases h.throttle with zero | ⟨load, loaded, same⟩
  · rw [zero] at engaged
    norm_num at engaged
  · have range := (h.mapped load loaded).range
    exact ⟨load, loaded, (two_lt_mapValue_iff ρ (by have := range.2; omega)).mp (same ▸ engaged)⟩

theorem Harmless.throttle_le {ρ : Rounding} {s : System δ} (h : Harmless ρ s) :
    s.cmd.throttleCmd ≤ 100 := by
  rcases h.throttle with zero | ⟨load, loaded, same⟩
  · rw [zero]; norm_num
  · rw [same]
    exact mapValue_throttle_le ρ (h.mapped load loaded).range

theorem Harmless.drives {ρ : Rounding} {s : System δ} (h : Harmless ρ s) (libm : Libm) (i2c : I2cRead)
    (place : s.pc = .drive) {motor : MotorId}
    (turns : (systemStep ρ libm s (.loop i2c)).drone.control.duties motor ≠ 0) :
    ∃ load, s.mapped = some load ∧ load.value.toInt ≤ -30 := by
  apply h.engaged
  by_contra released
  apply turns
  simp only [systemStep, loopStep, place]
  rw [motorControl_released ρ _ _ (not_lt.mp released)]
  rfl

/-- However stores and loads interleave, every iteration that comes to its last block has its
commands in range, drives a motor only from a mapped throttle of at most -30, and drives none from a
zero that a disconnect stored. -/
theorem double_reads_harmless (ρ : Rounding) (libm : Libm) (power : PowerUp) (events : List (Event δ))
    (range : ∀ e ∈ events, e.InRange) :
    let s := (interleaved ρ libm power δ).run events
    (s.pc = .drive →
      (s.cmd.throttleCmd ≤ 100 ∧ |s.cmd.pitchCmd| ≤ 30 ∧ |s.cmd.rollCmd| ≤ 30) ∧
      ∀ i2c, let after := systemStep ρ libm s (.loop i2c)
        (∀ motor, after.drone.control.duties motor ≠ 0 →
          ∃ load, s.mapped = some load ∧ load.value.toInt ≤ -30) ∧
        (∀ load d, s.mapped = some load → load.writer = some (.deviceDisconnected d) →
          ∀ motor, after.drone.control.duties motor = 0)) ∧
    ∀ e, (systemStep ρ libm s e).drone.control ≠ s.drone.control → s.pc = .drive := by
  intro s
  have harmless : Harmless ρ s := run_harmless ρ libm power range
  refine ⟨fun place => ⟨⟨harmless.throttle_le, harmless.pitch, harmless.roll⟩, fun i2c => ⟨?_, ?_⟩⟩,
    fun e => systemStep_control⟩
  · exact fun motor => harmless.drives libm i2c place
  · intro load d loaded disconnected motor
    by_contra turns
    obtain ⟨load', loaded', low⟩ := harmless.drives libm i2c place turns
    obtain rfl := Option.some.inj (loaded.symm.trans loaded')
    rw [(harmless.mapped load loaded).zero d disconnected] at low
    exact absurd low (by decide)

/-- The stick is down when the throttle is tested, and the controller is gone when it is mapped. -/
def goneBeforeMapping : List (Event ℕ) :=
  [.callback (.controllerData 0 (UniController.gamepad 0 0 0 (-300))), .store, .store, .store, .store,
    .loop (I2cRead.level 10000), .loop (I2cRead.level 10000), .callback (.deviceDisconnected 0), .store,
    .loop (I2cRead.level 10000), .loop (I2cRead.level 10000), .loop (I2cRead.level 10000),
    .loop (I2cRead.level 10000), .loop (I2cRead.level 10000)]

instance : DecidablePred (Event.InRange (δ := δ))
  | .callback cb => inferInstanceAs (Decidable (ReportInRange cb))
  | .loop _ => isTrue trivial
  | .store => isTrue trivial

theorem double_reads_harmless_gone :
    let s := (interleaved .exact Libm.axes .cold ℕ).run goneBeforeMapping
    s.pc = .drive ∧ s.mapped = some ⟨0, some (.deviceDisconnected 0)⟩ ∧
      ∀ motor, (systemStep .exact Libm.axes s (.loop (I2cRead.level 10000))).drone.control.duties motor = 0 := by
  have place : ((interleaved .exact Libm.axes .cold ℕ).run goneBeforeMapping).pc = .drive := by
    decide +kernel
  have loaded : ((interleaved .exact Libm.axes .cold ℕ).run goneBeforeMapping).mapped =
      some ⟨0, some (.deviceDisconnected 0)⟩ := by decide +kernel
  have harmless := double_reads_harmless .exact Libm.axes .cold goneBeforeMapping (by decide)
  exact ⟨place, loaded, ((harmless.1 place).2 _).2 _ 0 loaded rfl⟩

/-! ### Flights are among the interleavings -/

/-- The loop runs alone from `s` to `t`, with one answer of the sensor. -/
def Alone (ρ : Rounding) (libm : Libm) (i2c : I2cRead) (s t : System δ) : Prop :=
  ∃ n, (loopStep ρ libm i2c)^[n] s = t

variable {ρ : Rounding} {libm : Libm} {i2c : I2cRead}

theorem Alone.refl (s : System δ) : Alone ρ libm i2c s s := ⟨0, rfl⟩

theorem Alone.step {s t u : System δ} (first : loopStep ρ libm i2c s = t) (rest : Alone ρ libm i2c t u) :
    Alone ρ libm i2c s u := by
  obtain ⟨n, rfl⟩ := rest
  exact ⟨n + 1, by rw [Function.iterate_succ_apply, first]⟩

theorem Alone.trans {s t u : System δ} (first : Alone ρ libm i2c s t) (rest : Alone ρ libm i2c t u) :
    Alone ρ libm i2c s u := by
  obtain ⟨n, rfl⟩ := first
  obtain ⟨m, rfl⟩ := rest
  exact ⟨m + n, Function.iterate_add_apply _ m n s⟩

/-- Two tests that lead to one mapping, as both tilts have them. -/
theorem alone_tilt {high mapped : System δ} (v : Int32) (low map skipped : System δ)
    (testHigh : loopStep ρ libm i2c high = if 20 < v then map else low)
    (testLow : loopStep ρ libm i2c low = if v < -20 then map else skipped)
    (maps : loopStep ρ libm i2c map = mapped) :
    Alone ρ libm i2c high (if 20 < v ∨ v < -20 then mapped else skipped) := by
  have last : Alone ρ libm i2c map mapped := .step maps (.refl mapped)
  by_cases up : 20 < v
  · rw [if_pos up] at testHigh
    rw [if_pos (Or.inl up)]
    exact .step testHigh last
  rw [if_neg up] at testHigh
  by_cases down : v < -20
  · rw [if_pos down] at testLow
    rw [if_pos (Or.inr down)]
    exact .step testHigh (.step testLow last)
  · rw [if_neg down] at testLow
    rw [if_neg (not_or.mpr ⟨up, down⟩)]
    exact .step testHigh (.step testLow (.refl skipped))

section Iteration
variable (ρ libm i2c) (drone : Drone) (pending : List (Store δ)) (writer : Option (Callback δ))

theorem alone_throttle : ∃ mapped, Alone ρ libm i2c
    ⟨drone, pending, .testThrottle, ⟨0, 0, 0⟩, writer, none⟩
    ⟨drone, pending, .testPitchHigh, ⟨mapThrottle ρ drone.bt.btThrottle, 0, 0⟩, writer, mapped⟩ := by
  by_cases tested : drone.bt.btThrottle < -20
  · rw [mapThrottle, if_pos tested]
    exact ⟨_, .step (by simp only [loopStep, if_pos tested]; rfl) (.step rfl (.refl _))⟩
  · rw [mapThrottle, if_neg tested]
    exact ⟨_, .step (by simp only [loopStep, if_neg tested]; rfl) (.refl _)⟩

theorem alone_pitch (t : ℚ) (mapped : Option (Load δ)) : Alone ρ libm i2c
    ⟨drone, pending, .testPitchHigh, ⟨t, 0, 0⟩, writer, mapped⟩
    ⟨drone, pending, .testRollHigh, ⟨t, mapTilt ρ drone.bt.btPitch, 0⟩, writer, mapped⟩ := by
  convert alone_tilt drone.bt.btPitch ⟨drone, pending, .testPitchLow, ⟨t, 0, 0⟩, writer, mapped⟩
    ⟨drone, pending, .mapPitch, ⟨t, 0, 0⟩, writer, mapped⟩
    ⟨drone, pending, .testRollHigh, ⟨t, 0, 0⟩, writer, mapped⟩ ?_ ?_ rfl using 1
  · unfold mapTilt; split <;> rfl
  · simp only [loopStep]; split <;> rfl
  · simp only [loopStep]; split <;> rfl

theorem alone_roll (t p : ℚ) (mapped : Option (Load δ)) : Alone ρ libm i2c
    ⟨drone, pending, .testRollHigh, ⟨t, p, 0⟩, writer, mapped⟩
    ⟨drone, pending, .drive, ⟨t, p, mapTilt ρ drone.bt.btRoll⟩, writer, mapped⟩ := by
  convert alone_tilt drone.bt.btRoll ⟨drone, pending, .testRollLow, ⟨t, p, 0⟩, writer, mapped⟩
    ⟨drone, pending, .mapRoll, ⟨t, p, 0⟩, writer, mapped⟩
    ⟨drone, pending, .drive, ⟨t, p, 0⟩, writer, mapped⟩ ?_ ?_ rfl using 1
  · unfold mapTilt; split <;> rfl
  · simp only [loopStep]; split <;> rfl
  · simp only [loopStep]; split <;> rfl

end Iteration

structure Between (s : System δ) (drone : Drone) : Prop where
  drone : s.drone = drone
  pending : s.pending = []
  pc : s.pc = .readSensor

theorem alone_iteration (ρ : Rounding) (libm : Libm) (i2c : I2cRead) {s : System δ} {drone : Drone}
    (between : Between s drone) :
    ∃ t, Alone ρ libm i2c s t ∧ Between t (appMainLoop ρ libm i2c drone) := by
  obtain ⟨drone, pending, pc, cmd, writer, mapped⟩ := s
  obtain ⟨rfl, rfl, rfl⟩ := between
  by_cases ok : i2c.Ok
  · have err := readAngles_err ρ libm i2c drone.filter drone.aktuelleWinkel
    let read := mpu6050ReadAngles ρ libm i2c drone.filter drone.aktuelleWinkel
    let sampled : Drone := { drone with filter := read.2.1, aktuelleWinkel := read.2.2 }
    obtain ⟨mapped', throttle⟩ := alone_throttle ρ libm i2c sampled [] writer
    have iteration := throttle.trans ((alone_pitch ..).trans ((alone_roll ..).trans (.step rfl (.refl _))))
    exact ⟨_, .step (if_pos (err.trans ok)) iteration, (appMainLoop_ok ρ libm ok drone).symm, rfl, rfl⟩
  · have waits : loopStep ρ libm i2c ⟨drone, [], .readSensor, cmd, writer, mapped⟩ =
        ⟨drone, [], .readSensor, cmd, writer, mapped⟩ := by
      simp only [loopStep, readAngles_failed ρ libm ok]
      exact if_neg ok
    exact ⟨_, .step waits (.refl _), (appMainLoop_failed ρ libm ok drone).symm, rfl, rfl⟩

theorem drain (ρ : Rounding) (libm : Libm) (s : System δ) :
    let t := (List.replicate s.pending.length Event.store).foldl (systemStep ρ libm) s
    t.drone = { s.drone with bt := s.pending.foldl (fun bt st => store st.word st.value bt) s.drone.bt } ∧
      t.pending = [] ∧ t.pc = s.pc := by
  obtain ⟨drone, pending, pc, cmd, writer, mapped⟩ := s
  induction pending generalizing drone writer with
  | nil => exact ⟨rfl, rfl, rfl⟩
  | cons st rest ih => exact ih { drone with bt := store st.word st.value drone.bt } _

theorem foldl_stores (cb : Callback δ) (bt : Globals) :
    (stores cb).foldl (fun bt st => store st.word st.value bt) bt = cb.apply bt := by
  cases cb <;> rfl

theorem callback_between (ρ : Rounding) (libm : Libm) {s : System δ} {drone : Drone}
    (between : Between s drone) (cb : Callback δ) :
    ∃ events : List (Event δ), Between (events.foldl (systemStep ρ libm) s) (drone.receive [cb]) := by
  obtain ⟨drone, pending, pc, cmd, writer, mapped⟩ := s
  obtain ⟨rfl, rfl, rfl⟩ := between
  refine ⟨.callback cb :: List.replicate (stores cb).length .store, ?_⟩
  have drained := drain ρ libm ⟨drone, stores cb, .readSensor, cmd, writer, mapped⟩
  simp only [foldl_stores] at drained
  exact ⟨drained.1, drained.2.1, drained.2.2⟩

theorem callbacks_between (ρ : Rounding) (libm : Libm) {s : System δ} {drone : Drone}
    (between : Between s drone) (callbacks : List (Callback δ)) :
    ∃ events : List (Event δ), Between (events.foldl (systemStep ρ libm) s) (drone.receive callbacks) := by
  induction callbacks generalizing s drone with
  | nil => exact ⟨[], between⟩
  | cons cb rest ih =>
    obtain ⟨first, between⟩ := callback_between ρ libm between cb
    obtain ⟨later, between⟩ := ih between
    exact ⟨first ++ later, by rw [List.foldl_append]; exact between⟩

theorem foldl_loop (n : ℕ) (s : System δ) :
    (List.replicate n (Event.loop i2c)).foldl (systemStep ρ libm) s = (loopStep ρ libm i2c)^[n] s := by
  induction n generalizing s with
  | zero => rfl
  | succ n ih => exact ih (loopStep ρ libm i2c s)

/-- Every flight is a run of the two tasks, one that no callback interrupts. -/
theorem flight_interleaves (ρ : Rounding) (libm : Libm) (power : PowerUp) (periods : List (Period δ)) :
    ∃ events, Between ((interleaved ρ libm power δ).run events) ((flight ρ libm power δ).run periods) := by
  induction periods using List.reverseRecOn with
  | nil => exact ⟨[], rfl, rfl, rfl⟩
  | append_singleton periods p ih =>
    obtain ⟨events, between⟩ := ih
    obtain ⟨received, between⟩ := callbacks_between ρ libm between p.callbacks
    obtain ⟨t, ⟨n, rfl⟩, between⟩ := alone_iteration ρ libm p.i2c between
    refine ⟨events ++ received ++ List.replicate n (.loop p.i2c), ?_⟩
    rw [← foldl_loop] at between
    rw [flight_snoc]
    simp only [Machine.run, List.foldl_append]
    exact between

end BukkisDrone.Flight
