import BukkisDrone.Bluetooth.DeviceSessions
import BukkisDrone.Flight.ThrottleCut

/-!
# From the radio to the motors

The whole program: in each iteration of the flight loop, the Bluetooth events since the last one run
the device table, whose callbacks write the commands that the loop reads.
-/

namespace BukkisDrone.Flight
open Bluetooth Numeric Runs Sensor Sessions

/-- One iteration: the Bluetooth events since the last one, and the sensor's answer. -/
structure RadioPeriod where
  events : List RadioEvent
  i2c : I2cRead

structure Radio where
  table : Bluepad
  drone : Drone

/-- The callbacks that the events made are those that the table has gained. -/
def radioStep (ρ : Rounding) (libm : Libm) (l : AllowList) (s : Radio) (p : RadioPeriod) : Radio :=
  let table := ((bluepad l).resume s.table).run p.events
  let callbacks := table.callbacks.drop s.table.callbacks.length
  { table := table
    drone := appMainLoop ρ libm p.i2c (s.drone.receive callbacks) }

def radio (ρ : Rounding) (libm : Libm) (power : PowerUp) (l : AllowList) : Machine Radio RadioPeriod where
  init := ⟨(bluepad l).init, boot ρ power⟩
  step := radioStep ρ libm l

def RadioPeriod.Proper (p : RadioPeriod) : Prop := ∀ e ∈ p.events, e.packet.Proper

/-- `flown` is a run of the flight loop alone, with the callbacks that the table made. -/
structure FlownAs (ρ : Rounding) (libm : Libm) (power : PowerUp) (l : AllowList) (periods : List RadioPeriod)
    (flown : List (Period (Fin 4))) (s : Radio) : Prop where
  table : s.table = (bluepad l).run (periods.flatMap RadioPeriod.events)
  drone : s.drone = (flight ρ libm power (Fin 4)).run flown
  callbacks : flown.flatMap Period.callbacks = s.table.callbacks
  i2c : flown.map Period.i2c = periods.map RadioPeriod.i2c

section Runs
variable {ρ : Rounding} {libm : Libm} {power : PowerUp} {l : AllowList}

theorem proper_flatMap {periods : List RadioPeriod} (proper : ∀ p ∈ periods, p.Proper) :
    ∀ e ∈ periods.flatMap RadioPeriod.events, e.packet.Proper := by
  intro e member
  obtain ⟨p, inside, here⟩ := List.mem_flatMap.mp member
  exact proper p inside e here

theorem flownAs_step {periods : List RadioPeriod} {flown : List (Period (Fin 4))} {s : Radio}
    (flownAs : FlownAs ρ libm power l periods flown s) {p : RadioPeriod}
    (proper : ∀ q ∈ periods ++ [p], q.Proper) :
    ∃ q, FlownAs ρ libm power l (periods ++ [p]) (flown ++ [q]) (radioStep ρ libm l s p) := by
  obtain ⟨table, drone, callbacks, i2c⟩ := flownAs
  have all := proper_flatMap proper
  rw [List.flatMap_append, List.flatMap_singleton] at all
  have next : ((bluepad l).resume s.table).run p.events =
      (bluepad l).run (periods.flatMap RadioPeriod.events ++ p.events) := by
    rw [Machine.run_append, table]
  obtain ⟨gained, same⟩ := run_callbacks l all
  have new : (((bluepad l).resume s.table).run p.events).callbacks.drop s.table.callbacks.length = gained := by
    rw [next, ← same, table, List.drop_left]
  refine ⟨⟨gained, p.i2c⟩, ?_, ?_, ?_, ?_⟩
  · rw [List.flatMap_append, List.flatMap_singleton]
    exact next
  · rw [flight_snoc, entered, ← drone, ← new]
    rfl
  · rw [List.flatMap_append, List.flatMap_singleton, callbacks, table]
    exact same.trans (congrArg Bluepad.callbacks next.symm)
  · rw [List.map_append, List.map_append, i2c]
    rfl

end Runs

/-- The flight loop of the whole program is the flight loop alone, on the callbacks of the table. -/
theorem run_flownAs (ρ : Rounding) (libm : Libm) (power : PowerUp) (l : AllowList)
    {periods : List RadioPeriod} (proper : ∀ p ∈ periods, p.Proper) :
    ∃ flown, FlownAs ρ libm power l periods flown ((radio ρ libm power l).run periods) := by
  induction periods using List.reverseRecOn with
  | nil => exact ⟨[], rfl, rfl, rfl, rfl⟩
  | append_singleton periods p ih =>
    obtain ⟨flown, flownAs⟩ := ih fun q member => proper q (List.mem_append_left _ member)
    obtain ⟨q, next⟩ := flownAs_step flownAs proper
    rw [Machine.run_snoc]
    exact ⟨_, next⟩

theorem radio_bt (ρ : Rounding) (libm : Libm) (power : PowerUp) (l : AllowList) {periods : List RadioPeriod}
    (proper : ∀ p ∈ periods, p.Proper) :
    ((radio ρ libm power l).run periods).drone.bt =
      (platform (Fin 4)).run ((radio ρ libm power l).run periods).table.callbacks := by
  obtain ⟨flown, -, drone, callbacks, -⟩ := run_flownAs ρ libm power l proper
  rw [drone, flight_bt, callbacks]

theorem radio_announced (ρ : Rounding) (libm : Libm) (power : PowerUp) (l : AllowList)
    {periods : List RadioPeriod} (proper : ∀ p ∈ periods, p.Proper) :
    Announced ((radio ρ libm power l).run periods).table := by
  obtain ⟨flown, table, -⟩ := run_flownAs ρ libm power l proper
  rw [table]
  exact run_announced l (proper_flatMap proper)

theorem radio_cut_iff (ρ : Rounding) (libm : Libm) (power : PowerUp) (l : AllowList)
    (periods : List RadioPeriod) {p : RadioPeriod} (reads : p.i2c.Ok) :
    Cut ((radio ρ libm power l).run (periods ++ [p])).drone.control ↔
      Released ((radio ρ libm power l).run (periods ++ [p])).drone.bt.btThrottle := by
  rw [Machine.run_snoc]
  refine (appMainLoop_cut_iff ρ libm reads _).trans ?_
  rw [← appMainLoop_bt ρ libm p.i2c]
  rfl

/-- After an iteration whose sensor read succeeded, the motors turn only for the latest report, with its
throttle pushed. The device that sent it was ready. It is still connected, or it was not connected when it
sent it. -/
theorem turns_only_for_report (ρ : Rounding) (libm : Libm) (power : PowerUp) (l : AllowList)
    (periods : List RadioPeriod) (p : RadioPeriod) (proper : ∀ q ∈ periods ++ [p], q.Proper)
    (reads : p.i2c.Ok) (turns : ¬Cut ((radio ρ libm power l).run (periods ++ [p])).drone.control) :
    ∃ before i ctl,
      Latest Callback.Writes ((radio ρ libm power l).run (periods ++ [p])).table.callbacks before
        (.controllerData i ctl) ∧
      ¬Released ctl.axisRy ∧
      Standing (.deviceReady i) (.deviceDisconnected i) before ∧
      ((((radio ρ libm power l).run (periods ++ [p])).table.devices i).conn.connected ∨
        ¬Standing (.deviceConnected i) (.deviceDisconnected i) before) := by
  rw [radio_cut_iff ρ libm power l periods reads, radio_bt ρ libm power l proper] at turns
  rcases (radio_announced ρ libm power l proper).commands with
    zero | ⟨before, i, ctl, latest, held, ready, present⟩
  · exact (turns (by rw [zero]; decide)).elim
  · refine ⟨before, i, ctl, latest, ?_, ready, present⟩
    rwa [held] at turns

/-! ### A gamepad that flies, and a clone that leaves unannounced -/

theorem turns_only_for_report_gamepad :
    ∃ before i ctl,
      Latest Callback.Writes ((radio .exact Libm.axes .cold .zero).run
        ([] ++ [⟨bleGamepad, I2cRead.level 10000⟩])).table.callbacks before (.controllerData i ctl) ∧
      ¬Released ctl.axisRy ∧
      Standing (.deviceReady i) (.deviceDisconnected i) before ∧
      ((((radio .exact Libm.axes .cold .zero).run
        ([] ++ [⟨bleGamepad, I2cRead.level 10000⟩])).table.devices i).conn.connected ∨
        ¬Standing (.deviceConnected i) (.deviceDisconnected i) before) := by
  refine turns_only_for_report .exact Libm.axes .cold .zero [] ⟨bleGamepad, I2cRead.level 10000⟩ ?_
    (by decide) fun cut => ?_
  · rintro q member
    rw [List.nil_append, List.mem_singleton] at member
    exact member ▸ bleGamepad_proper
  · exact absurd ((radio_cut_iff .exact Libm.axes .cold .zero [] (by decide)).mp cut) (by decide +kernel)

/-- The name of a clone is known before its channels are open, so it gets ready without being connected. When
it drops off, the platform is not told, and the motors keep turning. -/
def unannouncedClone : List RadioEvent :=
  [.hciConnectionRequest someAddr 0x508, .l2capIncomingConnection psmHidControl 5 0x41 someAddr,
    .l2capIncomingConnection psmHidInterrupt 5 0x42 someAddr,
    .hciRemoteNameRequestComplete 0 someAddr (ascii "PLAYSTATION(R)3 Controller"),
    .l2capDataPacket 0x42 [0xa1, 0x01] fullThrottle, .hciDisconnectionComplete 5].map
    fun packet => ⟨Answers.willing .acl, packet⟩

example :
    let s := (radio .exact Libm.axes .cold .zero).run [⟨unannouncedClone, I2cRead.level 10000⟩]
    s.table.callbacks = [.deviceReady 0, .controllerData 0 fullThrottle.controller] ∧
      (∀ i, s.table.devices i = uniHidDeviceInit) ∧ s.drone.control.duties .fl = 582 := by
  decide +kernel

end BukkisDrone.Flight
