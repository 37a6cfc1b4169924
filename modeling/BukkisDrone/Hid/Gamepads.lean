import BukkisDrone.Hid.Axes
import BukkisDrone.Runs.Fold

/-!
# Gamepads that report through a HID descriptor

The `parse_usage` functions of bluepad32's gamepad parsers. Each one is a table of what it does with a usage;
a usage that is not listed is ignored, or only logged.
-/

namespace BukkisDrone.Hid
open Bytes Numeric Runs

/-! ### The virtual gamepad -/

inductive Stick where
  | axisX | axisY | axisRx | axisRy
  deriving DecidableEq

inductive Pedal where
  | brake | throttle
  deriving DecidableEq

/-- `uni_gamepad_t`, without the motion sensors. -/
structure Gamepad where
  dpad : UInt8
  axisX : Int32
  axisY : Int32
  axisRx : Int32
  axisRy : Int32
  brake : Int32
  throttle : Int32
  buttons : UInt16
  miscButtons : UInt8
  deriving DecidableEq

def Gamepad.zero : Gamepad := ⟨0, 0, 0, 0, 0, 0, 0, 0, 0⟩

def Gamepad.stick (pad : Gamepad) : Stick → Int32
  | .axisX => pad.axisX
  | .axisY => pad.axisY
  | .axisRx => pad.axisRx
  | .axisRy => pad.axisRy

def Gamepad.setStick (pad : Gamepad) (stick : Stick) (axis : Int32) : Gamepad :=
  match stick with
  | .axisX => { pad with axisX := axis }
  | .axisY => { pad with axisY := axis }
  | .axisRx => { pad with axisRx := axis }
  | .axisRy => { pad with axisRy := axis }

def Gamepad.setPedal (pad : Gamepad) (pedal : Pedal) (value : Int32) : Gamepad :=
  match pedal with
  | .brake => { pad with brake := value }
  | .throttle => { pad with throttle := value }

def buttonA : UInt16 := 0x001

def buttonB : UInt16 := 0x002

def buttonX : UInt16 := 0x004

def buttonY : UInt16 := 0x008

def buttonShoulderL : UInt16 := 0x010

def buttonShoulderR : UInt16 := 0x020

def buttonTriggerL : UInt16 := 0x040

def buttonTriggerR : UInt16 := 0x080

def buttonThumbL : UInt16 := 0x100

def buttonThumbR : UInt16 := 0x200

def miscButtonSystem : UInt8 := 0x1

def miscButtonSelect : UInt8 := 0x2

def miscButtonStart : UInt8 := 0x4

def miscButtonCapture : UInt8 := 0x8

inductive XboxoneFirmware where
  | v31 | v48 | v5
  deriving DecidableEq

/-- What a parser of usages writes: the controller, and for the Xbox controller its firmware version. -/
structure Parsing where
  gamepad : Gamepad
  battery : UInt8
  version : XboxoneFirmware
  deriving DecidableEq

/-! ### What is done with a usage -/

inductive UsageAction where
  | axis (stick : Stick)
  | invertedAxis (stick : Stick)
  | pedalAxis (stick : Stick)
  | pedal (pedal : Pedal)
  | trigger (pedal : Pedal) (mask : UInt16)
  | buttonPedal (mask : UInt16) (pedal : Pedal)
  | button (mask : UInt16)
  | miscButton (mask : UInt8)
  | hat
  | dpad
  | dpadButton (mask : UInt8)
  | battery
  | firmware48
  | share
  deriving DecidableEq

def triggerButtonThreshold : Int32 := 32

def Gamepad.press (pad : Gamepad) (mask : UInt16) (down : Bool) : Gamepad :=
  if down then { pad with buttons := pad.buttons ||| mask } else pad

def Gamepad.pressMisc (pad : Gamepad) (mask : UInt8) (down : Bool) : Gamepad :=
  if down then { pad with miscButtons := pad.miscButtons ||| mask } else pad

variable (wide : ℕ → ℕ → ℕ)

def UsageAction.onGamepad (action : UsageAction) (v : UsageValue) (pad : Gamepad) : Option Gamepad :=
  match action with
  | .axis stick => (uniHidParserProcessAxis wide v.globals v.value).map (pad.setStick stick)
  | .invertedAxis stick =>
    (uniHidParserProcessAxis wide v.globals v.value).map fun axis => pad.setStick stick (-axis)
  | .pedalAxis stick => (uniHidParserProcessPedal wide v.globals v.value).map (pad.setStick stick)
  | .pedal which => (uniHidParserProcessPedal wide v.globals v.value).map (pad.setPedal which)
  | .trigger which mask =>
    (uniHidParserProcessPedal wide v.globals v.value).map fun pushed =>
      (pad.setPedal which pushed).press mask (triggerButtonThreshold ≤ pushed)
  | .buttonPedal mask which =>
    (uniHidParserProcessPedal wide v.globals v.value).map ((pad.press mask (v.value ≠ 0)).setPedal which)
  | .button mask => some (pad.press mask (v.value ≠ 0))
  | .miscButton mask => some (pad.pressMisc mask (v.value ≠ 0))
  | .hat => some { pad with dpad := uniHidParserHatToDpad (uniHidParserProcessHat v.globals v.value) }
  | .dpad => some { pad with dpad := uniHidParserProcessDpad v.usage v.value pad.dpad }
  | .dpadButton mask => some (if v.value ≠ 0 then { pad with dpad := pad.dpad ||| mask } else pad)
  | .share => some (pad.pressMisc miscButtonCapture (v.value ≠ 0))
  | .battery | .firmware48 => some pad

def UsageAction.perform (action : UsageAction) (v : UsageValue) (s : Parsing) : Option Parsing :=
  (action.onGamepad wide v s.gamepad).map fun pad =>
    { gamepad := pad
      battery := if action = .battery then v.value.toUInt32.toUInt8 else s.battery
      version := if action = .firmware48 then .v48 else if action = .share then .v5 else s.version }

/-- For each usage page, what is done with its usages. -/
abbrev Usages := List (ℕ × List (ℕ × UsageAction))

def Usages.action (usages : Usages) (v : UsageValue) : Option UsageAction :=
  (usages.lookup v.usagePage).bind (List.lookup v.usage)

def parseUsage (usages : Usages) (s : Parsing) (v : UsageValue) : Option Parsing :=
  match usages.action v with
  | none => some s
  | some action => action.perform wide v s

/-! ### The tables -/

def hidUsagePageGenericDesktop : ℕ := 0x01

def hidUsagePageSimulationControls : ℕ := 0x02

def hidUsagePageGenericDeviceControls : ℕ := 0x06

def hidUsagePageKeyboardKeypad : ℕ := 0x07

def hidUsagePageButton : ℕ := 0x09

def hidUsagePageConsumer : ℕ := 0x0c

def hidUsageAxisX : ℕ := 0x30

def hidUsageAxisY : ℕ := 0x31

def hidUsageAxisZ : ℕ := 0x32

def hidUsageAxisRx : ℕ := 0x33

def hidUsageAxisRy : ℕ := 0x34

def hidUsageAxisRz : ℕ := 0x35

def hidUsageHat : ℕ := 0x39

def hidUsageSystemMainMenu : ℕ := 0x85

def hidUsageDpadUp : ℕ := 0x90

def hidUsageDpadDown : ℕ := 0x91

def hidUsageDpadRight : ℕ := 0x92

def hidUsageDpadLeft : ℕ := 0x93

def hidUsageAccelerator : ℕ := 0xc4

def hidUsageBrake : ℕ := 0xc5

def hidUsageBatteryStrength : ℕ := 0x20

def hidUsageMenu : ℕ := 0x40

def hidUsageRecord : ℕ := 0xb2

def hidUsageAcHome : ℕ := 0x223

def hidUsageAcBack : ℕ := 0x224

def hatAndDpad : List (ℕ × UsageAction) :=
  [(hidUsageHat, .hat), (hidUsageDpadUp, .dpad), (hidUsageDpadDown, .dpad), (hidUsageDpadRight, .dpad),
    (hidUsageDpadLeft, .dpad)]

/-- The pedals and the battery are the same for most parsers. -/
def pedalsAndBattery : Usages :=
  [(hidUsagePageSimulationControls, [(hidUsageAccelerator, .pedal .throttle), (hidUsageBrake, .pedal .brake)]),
    (hidUsagePageGenericDeviceControls, [(hidUsageBatteryStrength, .battery)])]

/-- `uni_hid_parser_generic_parse_usage`. -/
def genericUsages : Usages :=
  [(hidUsagePageGenericDesktop,
      [(hidUsageAxisX, .axis .axisX), (hidUsageAxisY, .axis .axisY), (hidUsageAxisZ, .axis .axisRx),
        (hidUsageAxisRx, .axis .axisRx), (hidUsageAxisRy, .pedalAxis .axisRy),
        (hidUsageAxisRz, .axis .axisRy)] ++ hatAndDpad),
    (hidUsagePageKeyboardKeypad, [(0x28, .miscButton miscButtonSystem)]),
    (hidUsagePageButton,
      [(0x01, .button buttonA), (0x02, .button buttonB), (0x04, .button buttonX), (0x05, .button buttonY),
        (0x07, .button buttonShoulderL), (0x08, .button buttonShoulderR), (0x0b, .miscButton miscButtonSelect),
        (0x0c, .miscButton miscButtonStart), (0x0d, .miscButton miscButtonSystem), (0x0e, .button buttonThumbL),
        (0x0f, .button buttonThumbR)]),
    (hidUsagePageConsumer,
      [(hidUsageAcHome, .miscButton miscButtonStart), (hidUsageAcBack, .miscButton miscButtonSelect)])] ++
    pedalsAndBattery

def androidDesktop : List (ℕ × UsageAction) :=
  [(hidUsageAxisX, .axis .axisX), (hidUsageAxisY, .axis .axisY), (hidUsageAxisZ, .axis .axisRx),
    (hidUsageAxisRz, .axis .axisRy)] ++ hatAndDpad

/-- `uni_hid_parser_android_parse_usage`. -/
def androidUsages : Usages :=
  [(hidUsagePageGenericDesktop, androidDesktop),
    (hidUsagePageButton,
      [(0x01, .button buttonA), (0x02, .button buttonB), (0x04, .button buttonX), (0x05, .button buttonY),
        (0x07, .button buttonShoulderL), (0x08, .button buttonShoulderR), (0x09, .button buttonTriggerL),
        (0x0a, .button buttonTriggerR), (0x0b, .miscButton miscButtonSelect),
        (0x0c, .miscButton miscButtonStart), (0x0d, .miscButton miscButtonSystem), (0x0e, .button buttonThumbL),
        (0x0f, .button buttonThumbR), (0x13, .button buttonTriggerL), (0x14, .button buttonTriggerR)]),
    (hidUsagePageConsumer,
      [(hidUsageAcHome, .miscButton miscButtonStart), (hidUsageAcBack, .miscButton miscButtonSelect)])] ++
    pedalsAndBattery

/-- `uni_hid_parser_8bitdo_parse_usage`. -/
def eightBitdoUsages : Usages :=
  [(hidUsagePageGenericDesktop, androidDesktop),
    (hidUsagePageButton,
      [(0x01, .button buttonB), (0x02, .button buttonA), (0x03, .miscButton miscButtonSystem),
        (0x04, .button buttonY), (0x05, .button buttonX), (0x07, .button buttonShoulderL),
        (0x08, .button buttonShoulderR), (0x09, .button buttonTriggerL), (0x0a, .button buttonTriggerR),
        (0x0b, .miscButton miscButtonSelect), (0x0c, .miscButton miscButtonStart),
        (0x0d, .miscButton miscButtonSystem), (0x0e, .button buttonThumbL), (0x0f, .button buttonThumbR)]),
    (hidUsagePageKeyboardKeypad,
      [(0x06, .dpadButton dpadUp), (0x07, .dpadButton dpadDown), (0x08, .dpadButton dpadLeft),
        (0x09, .dpadButton dpadRight), (0x0a, .button buttonB), (0x0b, .button buttonY), (0x0c, .button buttonX),
        (0x0d, .button buttonA), (0x0e, .button buttonShoulderL), (0x10, .button buttonShoulderR),
        (0x11, .miscButton miscButtonSelect), (0x12, .miscButton miscButtonStart)])] ++
    pedalsAndBattery

/-- `uni_hid_parser_nimbus_parse_usage`. -/
def nimbusUsages : Usages :=
  [(hidUsagePageGenericDesktop,
      [(hidUsageAxisX, .axis .axisX), (hidUsageAxisY, .invertedAxis .axisY), (hidUsageAxisZ, .axis .axisRx),
        (hidUsageAxisRz, .invertedAxis .axisRy)] ++ hatAndDpad),
    (hidUsagePageButton,
      [(0x01, .button buttonA), (0x02, .button buttonB), (0x03, .button buttonX), (0x04, .button buttonY),
        (0x05, .button buttonShoulderL), (0x06, .button buttonShoulderR),
        (0x07, .buttonPedal buttonTriggerL .brake), (0x08, .buttonPedal buttonTriggerR .throttle)]),
    (hidUsagePageConsumer, [(hidUsageAcHome, .miscButton miscButtonSystem)])] ++
    pedalsAndBattery

/-- Where the triggers are axes, the right stick has two axes of its own. -/
def triggerAxes : List (ℕ × UsageAction) :=
  [(hidUsageAxisX, .axis .axisX), (hidUsageAxisY, .axis .axisY), (hidUsageAxisZ, .pedal .brake),
    (hidUsageAxisRx, .axis .axisRx), (hidUsageAxisRy, .axis .axisRy), (hidUsageAxisRz, .pedal .throttle)]

/-- `uni_hid_parser_ouya_parse_usage`. -/
def ouyaUsages : Usages :=
  [(hidUsagePageGenericDesktop, triggerAxes),
    (hidUsagePageButton,
      [(1, .button buttonA), (2, .button buttonX), (3, .button buttonY), (4, .button buttonB),
        (5, .button buttonShoulderL), (6, .button buttonShoulderR), (7, .button buttonThumbL),
        (8, .button buttonThumbR), (9, .dpadButton dpadUp), (0x0a, .dpadButton dpadDown),
        (0x0b, .dpadButton dpadLeft), (0x0c, .dpadButton dpadRight), (0x0d, .button buttonTriggerL),
        (0x0e, .button buttonTriggerR), (0x0f, .miscButton miscButtonSystem)])]

/-- `uni_hid_parser_smarttvremote_parse_usage`. -/
def smartTVRemoteUsages : Usages :=
  [(hidUsagePageGenericDeviceControls, [(hidUsageBatteryStrength, .battery)]),
    (hidUsagePageKeyboardKeypad,
      [(0x4f, .dpadButton dpadRight), (0x50, .dpadButton dpadLeft), (0x51, .dpadButton dpadDown),
        (0x52, .dpadButton dpadUp), (0x58, .button buttonA), (0xf1, .miscButton miscButtonSelect)]),
    (hidUsagePageConsumer,
      [(hidUsageMenu, .miscButton miscButtonSystem), (hidUsageAcHome, .miscButton miscButtonStart)])]

/-- `parse_usage_firmware_v3_1` of the Xbox controller. -/
def firmwareV31Usages : Usages :=
  [(hidUsagePageGenericDesktop,
      triggerAxes ++ (hidUsageSystemMainMenu, .miscButton miscButtonSystem) :: hatAndDpad),
    (hidUsagePageGenericDeviceControls, [(hidUsageBatteryStrength, .battery)]),
    (hidUsagePageButton,
      [(0x01, .button buttonA), (0x02, .button buttonB), (0x03, .button buttonX), (0x04, .button buttonY),
        (0x05, .button buttonShoulderL), (0x06, .button buttonShoulderR), (0x07, .miscButton miscButtonSelect),
        (0x08, .miscButton miscButtonStart), (0x09, .button buttonThumbL), (0x0a, .button buttonThumbR),
        (0x0f, .firmware48)])]

/-- `parse_usage_firmware_v4_v5` of the Xbox controller. -/
def firmwareV4V5Usages : Usages :=
  [(hidUsagePageGenericDesktop,
      androidDesktop ++ [(hidUsageSystemMainMenu, .miscButton miscButtonSystem)]),
    (hidUsagePageSimulationControls,
      [(hidUsageAccelerator, .trigger .throttle buttonTriggerR), (hidUsageBrake, .trigger .brake buttonTriggerL)]),
    (hidUsagePageGenericDeviceControls, [(hidUsageBatteryStrength, .battery)]),
    (hidUsagePageButton,
      [(0x01, .button buttonA), (0x02, .button buttonB), (0x04, .button buttonX), (0x05, .button buttonY),
        (0x07, .button buttonShoulderL), (0x08, .button buttonShoulderR), (0x0b, .miscButton miscButtonSelect),
        (0x0c, .miscButton miscButtonStart), (0x0d, .miscButton miscButtonSystem), (0x0e, .button buttonThumbL),
        (0x0f, .button buttonThumbR)]),
    (hidUsagePageConsumer, [(hidUsageRecord, .share), (hidUsageAcBack, .miscButton miscButtonSelect)])]

/-! ### Parsers of whole reports -/

/-- Only the Xbox parser looks at the firmware version. -/
abbrev Mapping := XboxoneFirmware → Usages

def xboxoneMapping : Mapping
  | .v31 => firmwareV31Usages
  | .v48 | .v5 => firmwareV4V5Usages

/-- The parsers of `uni_hid_device_guess_controller_type_from_pid_vid` that read usages as a gamepad. -/
def mapping : Bluetooth.ControllerType → Option Mapping
  | .ouyaController => some fun _ => ouyaUsages
  | .xBoxOneController => some xboxoneMapping
  | .androidController => some fun _ => androidUsages
  | .nimbusController => some fun _ => nimbusUsages
  | .smartTVRemoteController => some fun _ => smartTVRemoteUsages
  | .eightBitdoController => some fun _ => eightBitdoUsages
  | .iCadeController | .psMoveController | .ps3Controller | .ps4Controller | .ps5Controller | .wiiController
  | .switchProController | .switchJoyConRight | .switchJoyConLeft | .steamController | .atariJoystick
  | .genericMouse | .genericKeyboard => none
  | _ => some fun _ => genericUsages

def initReport (s : Parsing) : Parsing := { s with gamepad := .zero, battery := 0 }

/-- `none` is a failed assertion, or a division by zero. -/
def uniHidParseInputReport (mapping : Mapping) (descriptor : List UInt8) (report : Report) (s : Parsing) :
    Option Parsing :=
  match usageValues wide descriptor report with
  | .ended values => values.foldlM (fun s => parseUsage wide (mapping s.version) s) (initReport s)
  | _ => none

/-- The controller that the platform is given. -/
def Gamepad.controller (pad : Gamepad) : Bluetooth.UniController where
  klass := .gamepad
  union :=
    let union := setInt32 (Vector.replicate 56 0) 0 pad.dpad.toUInt32.toInt32
    let union := setInt32 (setInt32 (setInt32 (setInt32 union 4 pad.axisX) 8 pad.axisY) 12 pad.axisRx) 16 pad.axisRy
    let union := setInt32 (setInt32 union 20 pad.brake) 24 pad.throttle
    setInt32 union 28 (pad.buttons.toUInt32 ||| pad.miscButtons.toUInt32 <<< 16).toInt32

theorem axes_controller (pad : Gamepad) :
    pad.controller.axes = ⟨pad.axisRy, pad.axisRx, pad.axisY, pad.axisX⟩ := by
  simp [Bluetooth.UniController.axes, Bluetooth.UniController.axisX, Bluetooth.UniController.axisY,
    Bluetooth.UniController.axisRx, Bluetooth.UniController.axisRy, Gamepad.controller, int32At_setInt32_other]

end BukkisDrone.Hid
