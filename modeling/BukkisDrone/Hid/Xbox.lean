import BukkisDrone.Hid.Sticks

/-!
# Reports of the Xbox controller

Its report 1 has 16 bits for each stick. The other reports, for the Xbox button and for the battery, have no
stick at all.
-/

namespace BukkisDrone.Hid
open Bluetooth Bytes Numeric Runs

/-! ### Firmware versions -/

section Versions
variable {wide : ℕ → ℕ → ℕ} {s t : Parsing} {v : UsageValue}

theorem parseUsage_version {usages : Usages} (later : s.version ≠ .v31)
    (done : parseUsage wide usages s v = some t) : t.version ≠ .v31 := by
  unfold parseUsage at done
  split at done
  · exact Option.some.inj done ▸ later
  · obtain ⟨pad, -, rfl⟩ := Option.map_eq_some_iff.mp done
    dsimp only
    split_ifs
    · decide
    · decide
    · exact later

theorem xboxoneMapping_of_later {version : XboxoneFirmware} (later : version ≠ .v31) :
    xboxoneMapping version = firmwareV4V5Usages := by
  cases version with
  | v31 => exact (later rfl).elim
  | v48 | v5 => rfl

/-- Once the firmware is known to be a later one, the parser keeps to one table. -/
theorem parse_later (later : s.version ≠ .v31) (descriptor : List UInt8) (report : Report) :
    uniHidParseInputReport wide xboxoneMapping descriptor report s =
      uniHidParseInputReport wide (fun _ => firmwareV4V5Usages) descriptor report s := by
  unfold uniHidParseInputReport
  split
  · refine foldlM_congr (I := fun s => s.version ≠ .v31) (fun {s} later => ?_) (fun {s e t} later done => ?_) later
    · rw [xboxoneMapping_of_later later]
    · exact parseUsage_version later done
  · rfl

end Versions

/-! ### The sticks of report 1 -/

def Stick.index : Stick → ℕ
  | .axisX => 0
  | .axisY => 1
  | .axisRx => 2
  | .axisRy => 3

/-- The 16 bits of a stick, the report ID before them. -/
def Report.raw (report : Report) (stick : Stick) : ℤ :=
  ((report.byte (2 * stick.index + 1)).toNat + 2 ^ 8 * (report.byte (2 * stick.index + 2)).toNat : ℕ)

def xboxUsage : Stick → ℕ
  | .axisX => hidUsageAxisX
  | .axisY => hidUsageAxisY
  | .axisRx => hidUsageAxisZ
  | .axisRy => hidUsageAxisRz

def xboxField (stick : Stick) : ReportField :=
  fieldAt ⟨0, 65535, 1, 16, 2, 1⟩ ⟨2, 2, .mainItem, 8, 1⟩ (16 * stick.index) 1 (xboxUsage stick)

theorem xboxFields_split (stick : Stick) :
    ofReport 1 xboxFields =
      (ofReport 1 xboxFields).take stick.index ++
        xboxField stick :: (ofReport 1 xboxFields).drop (stick.index + 1) ∧
      ∀ f ∈ (ofReport 1 xboxFields).drop (stick.index + 1), ¬firmwareV4V5Usages.MayMove stick f := by
  cases stick <;> decide +kernel

theorem xboxFields_others : ∀ f ∈ xboxFields, f.item.reportId ≠ 1 → ∀ stick ∈ [.axisX, .axisY, .axisRx, .axisRy],
    ¬firmwareV4V5Usages.MayMove stick f ∧ ¬firmwareV31Usages.MayMove stick f := by
  decide +kernel

theorem xboxFields_withId : ∀ f ∈ xboxFields, f.item.reportId ≠ hidReportIdUndefined := by decide +kernel

variable {report : Report} {s t : Parsing} {stick : Stick}

theorem inReport_xboxFields (id : report.byte 0 = 1) :
    xboxFields.filter (·.item.InReport report) = ofReport 1 xboxFields := by
  refine List.filter_congr fun f member => decide_eq_decide.mpr ?_
  rw [UsageItem.InReport, id]
  exact ⟨fun h => h (xboxFields_withId f member), fun h _ => h⟩

theorem xboxField_isVariable (stick : Stick) : (xboxField stick).item.descriptorItem.isVariable := by
  cases stick <;> decide

theorem unsignedValue_xboxField (long : 9 ≤ report.bytes.length) (stick : Stick) :
    (unsignedValue shiftModulo report (xboxField stick).item.start (xboxField stick).item.size : ℤ) =
      report.raw stick := by
  have few : stick.index ≤ 3 := by cases stick <;> decide
  have start : (xboxField stick).item.start = 8 * (2 * stick.index + 1) := by cases stick <;> rfl
  have size : (xboxField stick).item.size = 8 * 2 := rfl
  have first : 2 * stick.index + 1 < report.bytes.length := by omega
  have second : 2 * stick.index + 2 < report.bytes.length := by omega
  rw [start, size, unsignedValue_of_inside shiftModulo (by decide) (by decide) (by omega) (by omega) (by omega),
    slice_number, List.drop_eq_getElem_cons first, List.drop_eq_getElem_cons second, Report.raw, Report.byte,
    Report.byte, List.getD_eq_getElem _ _ first, List.getD_eq_getElem _ _ second]
  simp only [List.take_succ_cons, List.take_zero, number, mul_zero, add_zero]

theorem raw_range (report : Report) (stick : Stick) : 0 ≤ report.raw stick ∧ report.raw stick < 2 ^ 16 := by
  have low := (report.byte (2 * stick.index + 1)).toNat_lt
  have high := (report.byte (2 * stick.index + 2)).toNat_lt
  unfold Report.raw
  omega

theorem value_xboxField (long : 9 ≤ report.bytes.length) (stick : Stick) :
    (getField shiftModulo report (xboxField stick)).value.toInt = report.raw stick := by
  have raw := unsignedValue_xboxField long stick
  obtain ⟨nonneg, small⟩ := raw_range report stick
  rw [getField, ReportField.read, if_pos (xboxField_isVariable stick), variableValue,
    if_neg fun signed => absurd signed.1 (by cases stick <;> decide), UInt32.toInt32_ofNat', ← raw]
  exact Int32.toInt_ofNat_of_lt (by omega)

/-- The reading of 16 bits, of which the middle is at rest. -/
theorem processAxis_xboxField (long : 9 ≤ report.bytes.length) (stick : Stick) :
    ∃ axis, uniHidParserProcessAxis shiftModulo (xboxField stick).globals
        (getField shiftModulo report (xboxField stick)).value = some axis ∧
      axis.toInt = (report.raw stick - 2 ^ 15).tdiv (2 ^ 6) := by
  obtain ⟨nonneg, small⟩ := raw_range report stick
  have value := value_xboxField long stick
  have least : (xboxField stick).globals.least = 0 := rfl
  have greatest : (xboxField stick).globals.greatest shiftModulo = 65535 := rfl
  have middle : centred 0 65535 (report.raw stick) = report.raw stick - 2 ^ 15 := by
    unfold centred span
    omega
  obtain ⟨axis, processed, scale⟩ := processAxis_eq_scaled shiftModulo (g := (xboxField stick).globals)
    (by rw [least, greatest]; decide) (by rw [least, greatest]; decide)
    (by rw [value, least, greatest, middle]; omega) (by rw [value, least, greatest, middle]; omega)
  refine ⟨axis, processed, ?_⟩
  rw [scale, value, least, greatest, scaled, middle, show span 0 65535 = 2 ^ 6 * 1024 from rfl]
  exact Int.mul_tdiv_mul_of_pos_left _ _ (by decide)

/-- From the two bytes of a stick to its axis. -/
theorem xbox_stick (id : report.byte 0 = 1) (long : 9 ≤ report.bytes.length) (later : s.version ≠ .v31)
    (done : uniHidParseInputReport shiftModulo xboxoneMapping xboxHidDescriptor48Fw report s = some t)
    (stick : Stick) : (t.gamepad.stick stick).toInt = (report.raw stick - 2 ^ 15).tdiv (2 ^ 6) := by
  rw [parse_later later] at done
  have action : firmwareV4V5Usages.action (getField shiftModulo report (xboxField stick)) = some (.axis stick) := by
    rw [action_getField (xboxField_isVariable stick)]
    cases stick <;> decide
  have moves : firmwareV4V5Usages.Moves stick (getField shiftModulo report (xboxField stick)) := by
    rw [Usages.Moves, action]
    rfl
  obtain ⟨split, others⟩ := xboxFields_split stick
  have latest := parse_latest walk_xboxItems ((inReport_xboxFields id).trans split) moves others done
  obtain ⟨axis, processed, same⟩ := processAxis_xboxField long stick
  rw [Usages.reading, action, Option.bind_some, UsageAction.reading, processAxis_getField, processed] at latest
  exact Option.some.inj latest ▸ same

/-- Every report 1 is parsed, and its bytes put the sticks. -/
theorem xbox_sticks (id : report.byte 0 = 1) (long : 9 ≤ report.bytes.length) (later : s.version ≠ .v31) :
    ∃ t, uniHidParseInputReport shiftModulo xboxoneMapping xboxHidDescriptor48Fw report s = some t ∧
      ∀ stick, (t.gamepad.stick stick).toInt = (report.raw stick - 2 ^ 15).tdiv (2 ^ 6) := by
  obtain ⟨t, done, -⟩ := parse_inRange walk_xboxItems xboxoneMapping
    (fun f member version => xboxFields_safe version f member) report s
  exact ⟨t, done, xbox_stick id long later done⟩

theorem xbox_sticks_full :
    ∃ t, uniHidParseInputReport shiftModulo xboxoneMapping xboxHidDescriptor48Fw
        ⟨encode 1 xboxFields fun _ => 0, 0⟩ ⟨.zero, 0, .v48⟩ = some t ∧
      ∀ stick, (t.gamepad.stick stick).toInt =
        (Report.raw ⟨encode 1 xboxFields fun _ => 0, 0⟩ stick - 2 ^ 15).tdiv (2 ^ 6) :=
  xbox_sticks (by decide +kernel) (by decide +kernel) (by decide)

/-- A report with another ID has no field for a stick, whatever the firmware. -/
theorem xbox_silent (other : report.byte 0 ≠ 1) :
    ∀ f ∈ xboxFields, f.item.InReport report → ∀ version, ¬(xboxoneMapping version).MayMove stick f := by
  intro f member here version
  have id : f.item.reportId ≠ 1 := fun one => by
    have first := here (xboxFields_withId f member)
    rw [one] at first
    exact other (UInt8.toNat_inj.mp first.symm)
  obtain ⟨v45, v31⟩ := xboxFields_others f member id stick (by cases stick <;> decide)
  cases version with
  | v31 => exact v31
  | v48 | v5 => exact v45

end BukkisDrone.Hid
