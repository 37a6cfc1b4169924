import BukkisDrone.Bluetooth.Delivery
import BukkisDrone.Flight.Envelope
import BukkisDrone.Flight.Radio
import BukkisDrone.Hid.Xbox

/-!
# From the bytes of a report to the motors

What the parsers of usages make of a report is what the platform is given, and the flight loop reads.
-/

namespace BukkisDrone.Flight
open Bluetooth Bytes Hid Numeric Runs Sensor

variable {δ : Type*} {wide : ℕ → ℕ → ℕ} {mapping : Mapping} {descriptor : List UInt8} {fields : List ReportField}
  {report : Hid.Report} {s t : Parsing}

/-! ### Commands -/

theorem axesInRange_controller {pad : Gamepad} (inRange : pad.SticksInRange) : AxesInRange pad.controller.axes := by
  rw [axes_controller]
  exact ⟨inRange .axisRy, inRange .axisRx, inRange .axisY, inRange .axisX⟩

/-- A controller that a parser of usages leaves, through a descriptor whose fields are all safe for it. -/
inductive ReadSafely (wide : ℕ → ℕ → ℕ) : UniController → Prop where
  | intro {mapping : Mapping} {descriptor : List UInt8} {fields : List ReportField} {report : Hid.Report} {s t : Parsing}
    (read : walk (items wide descriptor) .input = .ended fields)
    (safe : ∀ f ∈ fields, ∀ version, (mapping version).Safe wide f)
    (done : uniHidParseInputReport wide mapping descriptor report s = some t) : ReadSafely wide t.gamepad.controller

theorem ReadSafely.axesInRange {ctl : UniController} (safely : ReadSafely wide ctl) : AxesInRange ctl.axes := by
  obtain ⟨read, safe, done⟩ := safely
  obtain ⟨t, same, inRange⟩ := parse_inRange read _ safe _ _
  obtain rfl := Option.some.inj (done.symm.trans same)
  exact axesInRange_controller inRange

theorem envelope_of_reports (ρ : Rounding) {callbacks : List (Callback δ)}
    (reports : ∀ d ctl, .controllerData d ctl ∈ callbacks → ReadSafely wide ctl) :
    Envelope ρ ((platform δ).run callbacks) := by
  have inRange : AxesInRange ((platform δ).run callbacks) := by
    refine platform_inRange fun cb member => ?_
    cases cb with
    | controllerData d ctl => exact (reports d ctl member).axesInRange
    | deviceDiscovered | deviceConnected | deviceReady | deviceDisconnected => trivial
  rw [envelope_iff_withinSticks]
  exact ⟨inRange.throttle.1, inRange.pitch, inRange.roll⟩

/-- While every report that arrives is read through a descriptor that is safe for its parser, no command of the
whole program ever leaves the envelope, whatever bytes the reports consist of. -/
theorem radio_envelope (wide : ℕ → ℕ → ℕ) (ρ : Rounding) (libm : Libm) (power : PowerUp) (l : AllowList)
    {periods : List RadioPeriod} (proper : ∀ p ∈ periods, p.Proper)
    (reports : ∀ p ∈ periods, ∀ e ∈ p.events, ∀ parsed ∈ e.packet.parsed, ReadSafely wide parsed.controller) :
    Envelope ρ ((radio ρ libm power l).run periods).drone.bt := by
  obtain ⟨flown, table, -⟩ := run_flownAs ρ libm power l proper
  rw [radio_bt ρ libm power l proper, table]
  have read (i : Fin 4) (ctl : UniController)
      (member : .controllerData i ctl ∈ ((bluepad l).run (periods.flatMap RadioPeriod.events)).callbacks) :
      ReadSafely wide ctl := by
    have report : (i, ctl) ∈ ((bluepad l).run (periods.flatMap RadioPeriod.events)).reports :=
      List.mem_filterMap.mpr ⟨_, member, rfl⟩
    obtain ⟨e, inside, parsed, own, same⟩ := run_reports l _ (i, ctl) report
    obtain ⟨p, present, here⟩ := List.mem_flatMap.mp inside
    obtain rfl : ctl = parsed.controller := same
    exact reports p present e here parsed own
  exact envelope_of_reports ρ read

/-- All sticks at their ends, the throttle among them. -/
def pushed : Gamepad := { Gamepad.zero with axisX := -512, axisY := -512, axisRx := -512, axisRy := -512 }

/-- A report that ends after its ID is read past its end. Where zeros follow it, it pushes the throttle. -/
theorem parse_short : uniHidParseInputReport shiftModulo xboxoneMapping xboxHidDescriptor48Fw ⟨[1], 0⟩
    ⟨.zero, 0, .v48⟩ = some ⟨pushed, 0, .v48⟩ := by
  decide +kernel

def pushedGamepad : List RadioEvent :=
  bleGamepad.dropLast ++ [⟨Answers.willing .le, .hidReport 1 [] ⟨pushed.controller, false⟩⟩]

theorem radio_envelope_pushed :
    Envelope .exact ((radio .exact Libm.axes .cold .zero).run [⟨pushedGamepad, I2cRead.level 10000⟩]).drone.bt := by
  have last {e : RadioEvent} (member : e ∈ pushedGamepad) : e ∈ bleGamepad.dropLast ∨
      e = ⟨Answers.willing .le, .hidReport 1 [] ⟨pushed.controller, false⟩⟩ := by
    simpa [pushedGamepad] using member
  refine radio_envelope shiftModulo .exact Libm.axes .cold .zero (fun p member => ?_) fun p member => ?_
  · obtain rfl := List.mem_singleton.mp member
    intro e inside
    rcases last inside with earlier | rfl
    · exact bleGamepad_proper e (List.mem_of_mem_dropLast earlier)
    · exact Nat.zero_le _
  · obtain rfl := List.mem_singleton.mp member
    intro e inside parsed own
    rcases last inside with earlier | rfl
    · have silent : ∀ e ∈ bleGamepad.dropLast, e.packet.parsed = none := by
        simp [bleGamepad, Packet.parsed]
      rw [silent e earlier] at own
      cases own
    · obtain rfl := Option.some.inj own
      exact .intro (t := ⟨pushed, 0, .v48⟩) walk_xboxItems (fun f here version => xboxFields_safe version f here)
        parse_short

/-! ### Motors -/

theorem latest_cut_iff (ρ : Rounding) (libm : Libm) (power : PowerUp) {periods : List (Period δ)} {p : Period δ}
    (reads : p.Reads) {before : List (Callback δ)} {d : δ} {pad : Gamepad}
    (latest : Latest Callback.Writes ((periods ++ [p]).flatMap Period.callbacks) before
      (.controllerData d pad.controller)) :
    Cut ((flight ρ libm power δ).run (periods ++ [p])).control ↔ Released pad.axisRy := by
  have throttle : ((platform δ).run ((periods ++ [p]).flatMap Period.callbacks)).btThrottle = pad.axisRy := by
    rw [(run_eq_written _).1 _ _ latest, Callback.written, axes_controller]
  rw [flight_snoc, appMainLoop_cut_iff ρ libm reads, entered_bt, throttle]

/-- A report that has no field for the throttle stick cuts the motors, such as one that tells the battery
level. -/
theorem rest_cuts (ρ : Rounding) (libm : Libm) (power : PowerUp) {periods : List (Period δ)} {p : Period δ}
    (reads : p.Reads) {before : List (Callback δ)} {d : δ}
    (read : walk (items wide descriptor) .input = .ended fields)
    (silent : ∀ f ∈ fields, f.item.InReport report → ∀ version, ¬(mapping version).MayMove .axisRy f)
    (done : uniHidParseInputReport wide mapping descriptor report s = some t)
    (latest : Latest Callback.Writes ((periods ++ [p]).flatMap Period.callbacks) before
      (.controllerData d t.gamepad.controller)) :
    Cut ((flight ρ libm power δ).run (periods ++ [p])).control := by
  have middle : t.gamepad.axisRy = 0 := parse_rest read silent done
  rw [latest_cut_iff ρ libm power reads latest, middle]
  decide

theorem parse_battery : uniHidParseInputReport shiftModulo xboxoneMapping xboxHidDescriptor48Fw ⟨[4, 0x64], 0⟩
    ⟨pushed, 0, .v48⟩ = some ⟨.zero, 0x64, .v48⟩ := by
  decide +kernel

/-- The drone flies, and then the controller tells its battery level. -/
theorem rest_cuts_battery :
    Cut ((flight .exact Libm.axes .cold ℕ).run
      ([⟨[.controllerData 0 pushed.controller], I2cRead.level 10000⟩] ++
        [⟨[.controllerData 0 Gamepad.zero.controller], I2cRead.level 20000⟩])).control := by
  have latest : Latest Callback.Writes
      ([.controllerData 0 pushed.controller] ++ [.controllerData 0 Gamepad.zero.controller])
      [.controllerData 0 pushed.controller] (.controllerData 0 Gamepad.zero.controller) :=
    (latest_snoc trivial).mpr ⟨rfl, rfl⟩
  exact rest_cuts (t := ⟨.zero, 0x64, .v48⟩) .exact Libm.axes .cold rfl walk_xboxItems (xbox_silent (by decide))
    parse_battery latest

/-- The motors stand still exactly from the value 30849 of the right stick on. -/
theorem xbox_cut_iff (ρ : Rounding) (libm : Libm) (power : PowerUp) {periods : List (Period δ)} {p : Period δ}
    (reads : p.Reads) {before : List (Callback δ)} {d : δ} (id : report.byte 0 = 1)
    (long : 9 ≤ report.bytes.length) (later : s.version ≠ .v31)
    (done : uniHidParseInputReport shiftModulo xboxoneMapping xboxHidDescriptor48Fw report s = some t)
    (latest : Latest Callback.Writes ((periods ++ [p]).flatMap Period.callbacks) before
      (.controllerData d t.gamepad.controller)) :
    Cut ((flight ρ libm power δ).run (periods ++ [p])).control ↔ 30849 ≤ report.raw .axisRy := by
  have throttle : t.gamepad.axisRy.toInt = (report.raw .axisRy - 2 ^ 15).tdiv (2 ^ 6) :=
    xbox_stick id long later done .axisRy
  rw [latest_cut_iff ρ libm power reads latest, Released, throttle, le_tdiv_iff (by decide) (by decide)]
  omega

theorem xbox_cut_iff_pushed :
    Cut ((flight .exact Libm.axes .cold ℕ).run
        ([] ++ [⟨[.controllerData 0 pushed.controller], I2cRead.level 10000⟩])).control ↔
      30849 ≤ Hid.Report.raw ⟨1 :: List.replicate 15 0, 0⟩ .axisRy := by
  have latest : Latest Callback.Writes ([] ++ [.controllerData 0 pushed.controller]) []
      (.controllerData 0 pushed.controller) := (latest_snoc trivial).mpr ⟨rfl, rfl⟩
  exact xbox_cut_iff (t := ⟨pushed, 0, .v48⟩) (s := ⟨.zero, 0, .v48⟩) .exact Libm.axes .cold rfl (by decide) (by decide)
    (by decide) (by decide +kernel) latest

end BukkisDrone.Flight
