import BukkisDrone.Hid.Gamepads

/-!
# What a report does to the sticks

Every report starts from a gamepad at rest. Its fields are taken one after the other, so a stick stands where the
latest field that is read as this stick puts it.
-/

namespace BukkisDrone.Hid
open Numeric Runs

/-- The stick that is written. -/
def UsageAction.stick : UsageAction → Option Stick
  | .axis stick | .invertedAxis stick | .pedalAxis stick => some stick
  | _ => none

/-- Whether there is a division by the range of the field. -/
def UsageAction.divides : UsageAction → Bool
  | .axis _ | .invertedAxis _ | .pedalAxis _ | .pedal _ | .trigger _ _ | .buttonPedal _ _ => true
  | _ => false

variable {wide : ℕ → ℕ → ℕ} {action : UsageAction} {v : UsageValue} {pad next : Gamepad} {s t : Parsing}
  {stick : Stick}

theorem stick_setStick (other : Stick) (axis : Int32) :
    (pad.setStick other axis).stick stick = if other = stick then axis else pad.stick stick := by
  cases other <;> cases stick <;> rfl

@[simp] theorem stick_setPedal (which : Pedal) (value : Int32) :
    (pad.setPedal which value).stick stick = pad.stick stick := by
  cases which <;> cases stick <;> rfl

@[simp] theorem stick_press (mask : UInt16) (down : Bool) : (pad.press mask down).stick stick = pad.stick stick := by
  cases down <;> cases stick <;> rfl

@[simp] theorem stick_pressMisc (mask : UInt8) (down : Bool) :
    (pad.pressMisc mask down).stick stick = pad.stick stick := by
  cases down <;> cases stick <;> rfl

theorem processAxis_eq_none {g : HidGlobals} {value : Int32} :
    uniHidParserProcessAxis wide g value = none ↔ g.range wide = 0 := by
  simp [uniHidParserProcessAxis]

theorem processPedal_eq_none {g : HidGlobals} {value : Int32} :
    uniHidParserProcessPedal wide g value = none ↔ g.range wide = 0 := by
  simp [uniHidParserProcessPedal]

/-! ### One usage -/

theorem onGamepad_eq_none : action.onGamepad wide v pad = none ↔ action.divides ∧ v.globals.range wide = 0 := by
  cases action <;>
    simp [UsageAction.onGamepad, UsageAction.divides, processAxis_eq_none, processPedal_eq_none]

/-- What a usage that is read as a stick makes of its value. -/
def UsageAction.reading (wide : ℕ → ℕ → ℕ) (v : UsageValue) : UsageAction → Option Int32
  | .axis _ => uniHidParserProcessAxis wide v.globals v.value
  | .invertedAxis _ => (uniHidParserProcessAxis wide v.globals v.value).map (-·)
  | .pedalAxis _ => uniHidParserProcessPedal wide v.globals v.value
  | _ => none

theorem onGamepad_writes (done : action.onGamepad wide v pad = some next) (writes : action.stick = some stick) :
    action.reading wide v = some (next.stick stick) := by
  cases action <;> simp only [UsageAction.stick, Option.some.injEq, reduceCtorEq] at writes
  case axis | invertedAxis | pedalAxis =>
    subst writes
    obtain ⟨axis, processed, rfl⟩ := Option.map_eq_some_iff.mp done
    simp [UsageAction.reading, processed, stick_setStick]

theorem onGamepad_skips (done : action.onGamepad wide v pad = some next) (other : action.stick ≠ some stick) :
    next.stick stick = pad.stick stick := by
  cases action with
  | axis which | invertedAxis which | pedalAxis which =>
    obtain ⟨axis, -, rfl⟩ := Option.map_eq_some_iff.mp done
    rw [stick_setStick, if_neg fun same => other (congrArg some same)]
  | pedal | trigger | buttonPedal =>
    obtain ⟨value, -, rfl⟩ := Option.map_eq_some_iff.mp done
    simp
  | button | miscButton | share =>
    obtain rfl := Option.some.inj done
    simp
  | hat | dpad | battery | firmware48 =>
    obtain rfl := Option.some.inj done
    cases stick <;> rfl
  | dpadButton =>
    obtain rfl := Option.some.inj done
    split <;> cases stick <;> rfl

variable {usages : Usages}

theorem perform_eq_some : action.perform wide v s = some t →
    action.onGamepad wide v s.gamepad = some t.gamepad := by
  intro done
  obtain ⟨pad, performed, rfl⟩ := Option.map_eq_some_iff.mp done
  exact performed

theorem parseUsage_eq_none : parseUsage wide usages s v = none ↔
    (∃ action ∈ usages.action v, action.divides) ∧ v.globals.range wide = 0 := by
  unfold parseUsage
  split
  · rename_i unlisted
    simp [unlisted]
  · rename_i action listed
    rw [UsageAction.perform, Option.map_eq_none_iff, onGamepad_eq_none, listed]
    simp

/-- The usage is read as this stick. -/
def Usages.Moves (usages : Usages) (stick : Stick) (v : UsageValue) : Prop :=
  (usages.action v).bind UsageAction.stick = some stick

instance (usages : Usages) (stick : Stick) : DecidablePred (usages.Moves stick) := fun v =>
  inferInstanceAs (Decidable ((usages.action v).bind UsageAction.stick = some stick))

def Usages.reading (wide : ℕ → ℕ → ℕ) (usages : Usages) (v : UsageValue) : Option Int32 :=
  (usages.action v).bind (UsageAction.reading wide v)

theorem parseUsage_writes (done : parseUsage wide usages s v = some t) (moves : usages.Moves stick v) :
    usages.reading wide v = some (t.gamepad.stick stick) := by
  obtain ⟨action, listed, writes⟩ := Option.bind_eq_some_iff.mp moves
  rw [parseUsage, listed] at done
  rw [Usages.reading, listed]
  exact onGamepad_writes (perform_eq_some done) writes

theorem parseUsage_skips (done : parseUsage wide usages s v = some t) (other : ¬usages.Moves stick v) :
    t.gamepad.stick stick = s.gamepad.stick stick := by
  unfold parseUsage at done
  split at done
  · obtain rfl := Option.some.inj done
    rfl
  · rename_i action listed
    refine onGamepad_skips (perform_eq_some done) fun writes => other ?_
    rw [Usages.Moves, listed]
    exact writes

/-! ### A whole report -/

/-- The field of an array can say any usage of its page. -/
def ReportField.sayable (f : ReportField) : List ℕ :=
  if f.item.descriptorItem.isVariable then [f.item.usage] else List.range (2 ^ 16)

theorem getField_globals (report : Report) (f : ReportField) :
    (getField wide report f).globals = f.globals.saved := by
  unfold getField ReportField.read
  split <;> rfl

theorem getField_range (report : Report) (f : ReportField) :
    (getField wide report f).globals.range wide = f.globals.range wide := by
  rw [getField_globals]
  rfl

theorem processAxis_getField (report : Report) (f : ReportField) (value : Int32) :
    uniHidParserProcessAxis wide (getField wide report f).globals value =
      uniHidParserProcessAxis wide f.globals value := by
  rw [getField_globals]
  rfl

theorem getField_page (report : Report) (f : ReportField) :
    (getField wide report f).usagePage = f.item.usagePage := by
  unfold getField ReportField.read
  split <;> rfl

theorem getField_usage (report : Report) (f : ReportField) : (getField wide report f).usage ∈ f.sayable := by
  unfold getField ReportField.read ReportField.sayable
  split
  · exact List.mem_singleton.mpr rfl
  · exact List.mem_range.mpr (Nat.mod_lt _ (Nat.two_pow_pos 16))

theorem action_getField {f : ReportField} (isVariable : f.item.descriptorItem.isVariable) (usages : Usages)
    (report : Report) : usages.action (getField wide report f) =
      (usages.lookup f.item.usagePage).bind (List.lookup f.item.usage) := by
  have usage : (getField wide report f).usage = f.item.usage := by
    rw [getField, ReportField.read, if_pos isVariable]
  rw [Usages.action, getField_page, usage]

variable {descriptor : List UInt8} {report : Report} {f : ReportField} {fields : List ReportField}

/-- What the parser of usages is given of a report. -/
def Report.values (wide : ℕ → ℕ → ℕ) (report : Report) (fields : List ReportField) : List UsageValue :=
  (fields.filter fun f => f.item.InReport report).map (getField wide report)

theorem parse_eq_foldlM (read : walk (items wide descriptor) .input = .ended fields) (mapping : Mapping) :
    uniHidParseInputReport wide mapping descriptor report s =
      (report.values wide fields).foldlM (fun s => parseUsage wide (mapping s.version) s) (initReport s) := by
  rw [uniHidParseInputReport, usageValues, read]
  rfl

/-- A parser that does not depend on the firmware fails for exactly those reports that have an axis or a pedal
whose logical range is empty. The division by zero stops the program. -/
theorem parse_eq_none_iff (read : walk (items wide descriptor) .input = .ended fields) (usages : Usages) :
    uniHidParseInputReport wide (fun _ => usages) descriptor report s = none ↔
      ∃ f ∈ fields, f.item.InReport report ∧ f.globals.range wide = 0 ∧
        ∃ action ∈ usages.action (getField wide report f), action.divides := by
  rw [parse_eq_foldlM read, foldlM_eq_none_iff (parseUsage wide usages) fun s v => parseUsage_eq_none]
  simp only [Report.values, List.mem_map, List.mem_filter, decide_eq_true_eq]
  constructor
  · rintro ⟨-, ⟨f, ⟨member, inside⟩, rfl⟩, divides, empty⟩
    exact ⟨f, member, inside, (getField_range report f).symm.trans empty, divides⟩
  · rintro ⟨f, member, inside, empty, divides⟩
    exact ⟨_, ⟨f, ⟨member, inside⟩, rfl⟩, divides, (getField_range report f).trans empty⟩

/-- The axis of this descriptor has the logical limits 1 and 0. -/
def emptyAxis : List UInt8 := [0x05, 0x01, 0x09, 0x30, 0x15, 0x01, 0x25, 0x00, 0x75, 0x08, 0x95, 0x01, 0x81, 0x02]

def emptyAxisFields : List ReportField := (layout (items Bytes.shiftModulo emptyAxis)).getD []

theorem walk_emptyAxis : walk (items Bytes.shiftModulo emptyAxis) .input = .ended emptyAxisFields :=
  walk_eq_layout (by decide +kernel)

theorem parse_eq_none_iff_emptyAxis :
    uniHidParseInputReport Bytes.shiftModulo (fun _ => genericUsages) emptyAxis ⟨[0x80], 0⟩ ⟨.zero, 0, .v48⟩ =
        none ↔
      ∃ f ∈ emptyAxisFields, f.item.InReport ⟨[0x80], 0⟩ ∧ f.globals.range Bytes.shiftModulo = 0 ∧
        ∃ action ∈ genericUsages.action (getField Bytes.shiftModulo ⟨[0x80], 0⟩ f), action.divides :=
  parse_eq_none_iff walk_emptyAxis genericUsages

/-- The first report of such a device stops the program. -/
example :
    uniHidParseInputReport Bytes.shiftModulo (fun _ => genericUsages) emptyAxis ⟨[0x80], 0⟩ ⟨.zero, 0, .v48⟩ =
      none := by
  decide +kernel

/-- Some report may have a value in the field that is read as this stick. -/
def Usages.MayMove (usages : Usages) (stick : Stick) (f : ReportField) : Prop :=
  ∃ usage ∈ f.sayable,
    ((usages.lookup f.item.usagePage).bind (List.lookup usage)).bind UsageAction.stick = some stick

instance (usages : Usages) (stick : Stick) : DecidablePred (usages.MayMove stick) := fun f =>
  inferInstanceAs (Decidable (∃ usage ∈ f.sayable,
    ((usages.lookup f.item.usagePage).bind (List.lookup usage)).bind UsageAction.stick = some stick))

theorem moves_mayMove (moves : usages.Moves stick (getField wide report f)) : usages.MayMove stick f := by
  rw [Usages.Moves, Usages.action, getField_page] at moves
  exact ⟨_, getField_usage report f, moves⟩

theorem stick_initReport : (initReport s).gamepad.stick stick = 0 := by cases stick <;> rfl

/-- A stick stands where the latest usage that is read as this stick puts it, and in the middle if there is
none. -/
theorem parse_stick (read : walk (items wide descriptor) .input = .ended fields)
    (done : uniHidParseInputReport wide (fun _ => usages) descriptor report s = some t) (stick : Stick) :
    (∀ before v, Latest (usages.Moves stick) (report.values wide fields) before v →
      usages.reading wide v = some (t.gamepad.stick stick)) ∧
    ((∀ v ∈ report.values wide fields, ¬usages.Moves stick v) → t.gamepad.stick stick = 0) := by
  rw [parse_eq_foldlM read] at done
  obtain ⟨latest, none⟩ :=
    foldlM_latest (parseUsage wide usages) parseUsage_writes parseUsage_skips done
  exact ⟨latest, fun silent => (none silent).trans stick_initReport⟩

/-- The left stick at the left and at the bottom, the right one somewhat up. -/
def sticksReport : Report := ⟨[1, 0, 0, 0xff, 0xff, 0, 0x80, 0x40, 0x40, 0, 0, 0, 0, 0, 0, 0], 0⟩

def sticksPad : Gamepad := { Gamepad.zero with axisX := -512, axisY := 511, axisRx := 0, axisRy := -255 }

theorem parse_stick_moved :
    (∀ before v, Latest (firmwareV4V5Usages.Moves .axisRy) (sticksReport.values Bytes.shiftModulo xboxFields)
        before v →
      firmwareV4V5Usages.reading Bytes.shiftModulo v = some (sticksPad.stick .axisRy)) ∧
    ((∀ v ∈ sticksReport.values Bytes.shiftModulo xboxFields, ¬firmwareV4V5Usages.Moves .axisRy v) →
      sticksPad.stick .axisRy = 0) :=
  parse_stick (t := ⟨sticksPad, 0, .v48⟩) (s := ⟨.zero, 0, .v48⟩) walk_xboxItems (by decide +kernel) .axisRy

/-- A report without fields for a stick leaves it in the middle, wherever it was before. -/
theorem parse_rest (read : walk (items wide descriptor) .input = .ended fields) {mapping : Mapping}
    (silent : ∀ f ∈ fields, f.item.InReport report → ∀ version, ¬(mapping version).MayMove stick f)
    (done : uniHidParseInputReport wide mapping descriptor report s = some t) : t.gamepad.stick stick = 0 := by
  rw [parse_eq_foldlM read] at done
  refine foldlM_invariant (I := fun t => t.gamepad.stick stick = 0) ?_ stick_initReport done
  intro v member s t middle stepped
  obtain ⟨f, inside, rfl⟩ := List.mem_map.mp member
  obtain ⟨present, here⟩ := List.mem_filter.mp inside
  rw [← middle]
  exact parseUsage_skips stepped fun moves =>
    silent f present (of_decide_eq_true here) s.version (moves_mayMove moves)

/-- Where the fields after one that says its usage are for other sticks, the stick stands where it puts it. -/
theorem parse_latest (read : walk (items wide descriptor) .input = .ended fields)
    {before after : List ReportField} (split : fields.filter (·.item.InReport report) = before ++ f :: after)
    (moves : usages.Moves stick (getField wide report f)) (others : ∀ g ∈ after, ¬usages.MayMove stick g)
    (done : uniHidParseInputReport wide (fun _ => usages) descriptor report s = some t) :
    usages.reading wide (getField wide report f) = some (t.gamepad.stick stick) := by
  rw [parse_eq_foldlM read] at done
  obtain ⟨latest, -⟩ := foldlM_latest (parseUsage wide usages) parseUsage_writes parseUsage_skips done
  refine latest (before.map (getField wide report)) _ ⟨moves, ?_⟩
  refine ⟨after.map (getField wide report), ?_, fun v member => ?_⟩
  · rw [Report.values, split, List.map_append, List.map_cons]
  · obtain ⟨g, inside, rfl⟩ := List.mem_map.mp member
    exact mt moves_mayMove (others g inside)

/-! ### Sticks in range -/

def Gamepad.SticksInRange (pad : Gamepad) : Prop :=
  ∀ stick, -512 ≤ (pad.stick stick).toInt ∧ (pad.stick stick).toInt ≤ 511

/-- A stick that is read as a pedal goes up to 1023. An inverted one is -512 at most. -/
def UsageAction.Safe (wide : ℕ → ℕ → ℕ) (f : ReportField) : UsageAction → Prop
  | .axis _ => AxisWithin wide (-512) 511 f
  | .invertedAxis _ => AxisWithin wide (-511) 512 f
  | .pedalAxis _ => False
  | .pedal _ | .trigger _ _ | .buttonPedal _ _ => f.globals.range wide ≠ 0
  | _ => True

instance (f : ReportField) : DecidablePred (UsageAction.Safe wide f)
  | .axis _ => inferInstanceAs (Decidable (AxisWithin wide (-512) 511 f))
  | .invertedAxis _ => inferInstanceAs (Decidable (AxisWithin wide (-511) 512 f))
  | .pedalAxis _ => inferInstanceAs (Decidable False)
  | .pedal _ | .trigger _ _ | .buttonPedal _ _ => inferInstanceAs (Decidable (f.globals.range wide ≠ 0))
  | .button _ | .miscButton _ | .hat | .dpad | .dpadButton _ | .battery | .firmware48 | .share => isTrue trivial

def Usages.Safe (wide : ℕ → ℕ → ℕ) (usages : Usages) (f : ReportField) : Prop :=
  ∀ usage ∈ f.sayable, ∀ action ∈ (usages.lookup f.item.usagePage).bind (List.lookup usage), action.Safe wide f

instance (usages : Usages) : DecidablePred (usages.Safe wide) := fun f =>
  inferInstanceAs (Decidable (∀ usage ∈ f.sayable,
    ∀ action ∈ (usages.lookup f.item.usagePage).bind (List.lookup usage), action.Safe wide f))

theorem sticksInRange_setStick {axis : Int32} (inRange : pad.SticksInRange)
    (bounds : -512 ≤ axis.toInt ∧ axis.toInt ≤ 511) (stick : Stick) : (pad.setStick stick axis).SticksInRange := by
  intro other
  rw [stick_setStick]
  split
  · exact bounds
  · exact inRange other

theorem toInt_neg_of_within {axis : Int32} (low : -511 ≤ axis.toInt) (high : axis.toInt ≤ 512) :
    (-axis).toInt = -axis.toInt := by
  rw [Int32.toInt_neg]
  exact Int.bmod_eq_of_le (by omega) (by omega)

/-- A usage that is no stick is read, unless it is a pedal with an empty range. -/
theorem onGamepad_steady (steady : action.stick = none) (fine : action.divides → f.globals.range wide ≠ 0)
    (report : Report) (inRange : pad.SticksInRange) :
    ∃ next, action.onGamepad wide (getField wide report f) pad = some next ∧ next.SticksInRange := by
  have read : action.onGamepad wide (getField wide report f) pad ≠ none := fun failed => by
    obtain ⟨divides, empty⟩ := onGamepad_eq_none.mp failed
    exact fine divides ((getField_range report f).symm.trans empty)
  obtain ⟨next, done⟩ := Option.ne_none_iff_exists'.mp read
  refine ⟨next, done, fun stick => ?_⟩
  rw [onGamepad_skips done (by simp [steady])]
  exact inRange stick

/-- A safe usage is read, and leaves the sticks in range. -/
theorem onGamepad_inRange (safe : action.Safe wide f) (report : Report) (inRange : pad.SticksInRange) :
    ∃ next, action.onGamepad wide (getField wide report f) pad = some next ∧ next.SticksInRange := by
  cases action with
  | axis stick =>
    obtain ⟨axis, processed, bounds⟩ :=
      processAxis_within wide safe (by decide) (by decide) (by decide) (by decide) report
    refine ⟨pad.setStick stick axis, ?_, sticksInRange_setStick inRange bounds stick⟩
    rw [UsageAction.onGamepad, processAxis_getField, processed, Option.map_some]
  | invertedAxis stick =>
    obtain ⟨axis, processed, low, high⟩ :=
      processAxis_within wide safe (by decide) (by decide) (by decide) (by decide) report
    refine ⟨pad.setStick stick (-axis), ?_, sticksInRange_setStick inRange ?_ stick⟩
    · rw [UsageAction.onGamepad, processAxis_getField, processed, Option.map_some]
    · rw [toInt_neg_of_within low high]
      omega
  | pedalAxis => exact safe.elim
  | pedal | trigger | buttonPedal => exact onGamepad_steady rfl (fun _ => safe) report inRange
  | button | miscButton | hat | dpad | dpadButton | battery | firmware48 | share =>
    refine onGamepad_steady rfl (fun divides => ?_) report inRange
    cases divides

theorem parseUsage_inRange (safe : usages.Safe wide f) (report : Report) (inRange : s.gamepad.SticksInRange) :
    ∃ t, parseUsage wide usages s (getField wide report f) = some t ∧ t.gamepad.SticksInRange := by
  unfold parseUsage
  split
  · exact ⟨s, rfl, inRange⟩
  · rename_i action listed
    rw [Usages.action, getField_page] at listed
    obtain ⟨next, done, kept⟩ :=
      onGamepad_inRange (safe _ (getField_usage report f) action listed) report inRange
    rw [UsageAction.perform, done]
    exact ⟨_, rfl, kept⟩

/-- If every field is safe for the parser, then every report is parsed, and leaves the sticks in range. -/
theorem parse_inRange (read : walk (items wide descriptor) .input = .ended fields) (mapping : Mapping)
    (safe : ∀ f ∈ fields, ∀ version, (mapping version).Safe wide f) (report : Report) (s : Parsing) :
    ∃ t, uniHidParseInputReport wide mapping descriptor report s = some t ∧ t.gamepad.SticksInRange := by
  rw [parse_eq_foldlM read]
  refine foldlM_keeps (fun v member s inRange => ?_) fun stick => ?_
  · obtain ⟨f, inside, rfl⟩ := List.mem_map.mp member
    exact parseUsage_inRange (safe f (List.mem_filter.mp inside).1 s.version) report inRange
  · rw [stick_initReport]
    decide

theorem xboxFields_safe (version : XboxoneFirmware) :
    ∀ f ∈ xboxFields, (xboxoneMapping version).Safe Bytes.shiftModulo f := by
  cases version <;> decide +kernel

end BukkisDrone.Hid
