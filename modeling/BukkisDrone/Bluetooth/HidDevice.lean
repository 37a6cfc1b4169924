import BukkisDrone.Bluetooth.Platform

/-!
# HID devices

One entry of the device table of `uni_hid_device.c`, with its `uni_bt_conn_t`, and how its controller
type is guessed. It is assumed that virtual devices stay off, as `sdkconfig` has them, so an entry has no
parent and no child.
-/

namespace BukkisDrone.Bluetooth

abbrev BdAddr := Vector UInt8 6

def zeroAddr : BdAddr := Vector.replicate 6 0

/-- A C string, without its NUL. -/
abbrev Name := List UInt8

def ascii (s : String) : Name := s.toList.map Char.toUInt8

def cString (bytes : List UInt8) : Name := bytes.takeWhile (· ≠ 0)

/-! ### Controller types -/

inductive ControllerType where
  | none | unknown
  | unknownSteamController | steamController | steamControllerV2 | steamControllerNeptune
  | unknownNonSteamController | xBox360Controller | xBoxOneController | ps3Controller | ps4Controller
  | wiiController | appleController | androidController
  | switchProController | switchJoyConLeft | switchJoyConRight | switchJoyConPair
  | switchInputOnlyController | mobileTouch | xInputSwitchController | ps5Controller
  | xInputPS4Controller
  | iCadeController | smartTVRemoteController | eightBitdoController | genericController
  | nimbusController | ouyaController | psMoveController | atariJoystick | lastController
  | genericKeyboard | genericMouse
  deriving DecidableEq

/-- Whether a parser's `setup` calls `uni_hid_device_set_ready_complete` itself, or leaves that to a
report, a timer or a GATT answer. -/
inductive Setup where
  | completes | deferred
  deriving DecidableEq

/-- The function pointers of `uni_report_parser_t` that decide how a device gets ready. -/
structure ReportParser where
  setup : Option Setup
  parseUsage : Bool
  parseFeatureReport : Bool
  deriving DecidableEq

def ReportParser.zero : ReportParser := ⟨.none, false, false⟩

def stadiaVid : UInt16 := 0x18d1

def stadiaPid : UInt16 := 0x9400

/-- The `switch` of `uni_hid_device_guess_controller_type_from_pid_vid`. -/
def reportParser (type : ControllerType) (vendorId productId : UInt16) : ReportParser :=
  match type with
  | .iCadeController => { setup := some .completes, parseUsage := true, parseFeatureReport := false }
  | .ouyaController => { setup := none, parseUsage := true, parseFeatureReport := false }
  | .xBoxOneController => { setup := some .completes, parseUsage := true, parseFeatureReport := false }
  | .androidController =>
    if vendorId = stadiaVid ∧ productId = stadiaPid then
      { setup := some .completes, parseUsage := true, parseFeatureReport := false }
    else { setup := none, parseUsage := true, parseFeatureReport := false }
  | .nimbusController => { setup := none, parseUsage := true, parseFeatureReport := false }
  | .smartTVRemoteController => { setup := none, parseUsage := true, parseFeatureReport := false }
  | .psMoveController => { setup := some .completes, parseUsage := false, parseFeatureReport := false }
  | .ps3Controller => { setup := some .completes, parseUsage := false, parseFeatureReport := false }
  | .ps4Controller => { setup := some .completes, parseUsage := false, parseFeatureReport := true }
  | .ps5Controller => { setup := some .deferred, parseUsage := false, parseFeatureReport := true }
  | .eightBitdoController => { setup := none, parseUsage := true, parseFeatureReport := false }
  | .genericController => { setup := none, parseUsage := true, parseFeatureReport := false }
  | .wiiController => { setup := some .deferred, parseUsage := false, parseFeatureReport := false }
  | .switchProController | .switchJoyConRight | .switchJoyConLeft =>
    { setup := some .deferred, parseUsage := false, parseFeatureReport := false }
  | .steamController => { setup := some .deferred, parseUsage := false, parseFeatureReport := false }
  | .atariJoystick => { setup := some .completes, parseUsage := false, parseFeatureReport := false }
  | .genericMouse => { setup := some .completes, parseUsage := true, parseFeatureReport := false }
  | .genericKeyboard => { setup := some .completes, parseUsage := true, parseFeatureReport := false }
  | _ => { setup := none, parseUsage := true, parseFeatureReport := false }

/-! ### The device -/

inductive Protocol where
  | none | brEdr | ble
  deriving DecidableEq

inductive ConnState where
  | deviceNone | deviceDiscovered
  | remoteNameRequest | remoteNameInquired | remoteNameFetched
  | sdpVendorRequested | sdpVendorFetched | sdpHidDescriptorRequested | sdpHidDescriptorFetched
  | l2capControlConnectionRequested | l2capControlConnected
  | l2capInterruptConnectionRequested | l2capInterruptConnected
  | devicePendingReady | deviceReady
  deriving DecidableEq

inductive SdpQueryType where
  | afterConnect | beforeConnect | notNeeded
  deriving DecidableEq

structure Conn where
  btaddr : BdAddr
  handle : UInt16
  controlCid : UInt16
  interruptCid : UInt16
  pageScanRepetitionMode : UInt8
  clockOffset : UInt16
  incoming : Bool
  connected : Bool
  state : ConnState
  protocol : Protocol
  deriving DecidableEq

/-- The timers are kept as whether they run. -/
structure HidDevice where
  cod : UInt32
  vendorId : UInt16
  productId : UInt16
  name : Name
  hasName : Bool
  hasControllerType : Bool
  connectionTimer : Bool
  inquiryRemoteNameTimer : Bool
  hidDescriptor : List UInt8
  sdpQueryType : SdpQueryType
  hidsCid : UInt16
  controllerType : ControllerType
  controller : UniController
  reportParser : ReportParser
  conn : Conn
  deriving DecidableEq

def handleInvalid : UInt16 := 0xffff

def UniController.zero : UniController := ⟨.none, Vector.replicate 56 0⟩

def Conn.zero : Conn where
  btaddr := zeroAddr
  handle := 0
  controlCid := 0
  interruptCid := 0
  pageScanRepetitionMode := 0
  clockOffset := 0
  incoming := false
  connected := false
  state := .deviceNone
  protocol := .none

/-- What `memset` leaves. -/
def HidDevice.zero : HidDevice where
  cod := 0
  vendorId := 0
  productId := 0
  name := []
  hasName := false
  hasControllerType := false
  connectionTimer := false
  inquiryRemoteNameTimer := false
  hidDescriptor := []
  sdpQueryType := .afterConnect
  hidsCid := 0
  controllerType := .unknown
  controller := .zero
  reportParser := .zero
  conn := .zero

def uniHidDeviceInit : HidDevice :=
  { HidDevice.zero with hidsCid := 0xffff, conn := { Conn.zero with handle := handleInvalid } }

/-! ### Class of device -/

def codMajorMask : UInt32 := 0x1f00

def codMajorPeripheral : UInt32 := 0x0500

def codMajorAudioVideo : UInt32 := 0x0400

def codMinorMask : UInt32 := 0xfc

def codMinorMice : UInt32 := 0x80

def codMinorKeyboard : UInt32 := 0x40

def codMinorGamepad : UInt32 := 0x08

def codMinorJoystick : UInt32 := 0x04

def uniHidDeviceIsCodSupported (cod : UInt32) : Bool :=
  let minorCod := cod &&& codMinorMask
  if cod &&& codMajorMask = codMajorPeripheral then
    minorCod &&& (codMinorMice ||| codMinorKeyboard ||| codMinorGamepad ||| codMinorJoystick) ≠ 0
  else if cod &&& codMajorMask = codMajorAudioVideo then cod = 0x400408
  else false

def uniHidDeviceIsMouse (d : HidDevice) : Bool :=
  let mouseCod := codMajorPeripheral ||| codMinorMice
  d.cod &&& mouseCod = mouseCod

def uniHidDeviceIsKeyboard (d : HidDevice) : Bool :=
  let keyboardCod := codMajorPeripheral ||| codMinorKeyboard
  d.cod &&& keyboardCod = keyboardCod

/-! ### Setters -/

def uniHidDeviceSetName (name : Name) (d : HidDevice) : HidDevice :=
  { d with name := name.take 239, hasName := true }

def hidMaxDescriptorLen : ℕ := 512

/-- What `uni_hid_device_set_hid_descriptor` writes of a descriptor that fits. -/
def storeHidDescriptor (descriptor : List UInt8) (d : HidDevice) : HidDevice :=
  { d with hidDescriptor := descriptor }

def uniHidDeviceSetProductId (productId : UInt16) (d : HidDevice) : HidDevice :=
  { d with productId := productId }

def uniHidDeviceSetVendorId (vendorId : UInt16) (d : HidDevice) : HidDevice :=
  if vendorId = 0 then d else { d with vendorId := vendorId }

def uniHidDeviceSetCod (cod : UInt32) (d : HidDevice) : HidDevice := { d with cod := cod }

def uniHidDeviceSetIncoming (incoming : Bool) (d : HidDevice) : HidDevice :=
  { d with conn := { d.conn with incoming := incoming } }

def uniHidDeviceSetConnectionHandle (handle : UInt16) (d : HidDevice) : HidDevice :=
  { d with conn := { d.conn with handle := handle } }

def uniBtConnSetState (state : ConnState) (d : HidDevice) : HidDevice :=
  { d with conn := { d.conn with state := state } }

def uniBtConnSetProtocol (protocol : Protocol) (d : HidDevice) : HidDevice :=
  { d with conn := { d.conn with protocol := protocol } }

def uniBtConnSetConnected (connected : Bool) (d : HidDevice) : HidDevice :=
  { d with conn := { d.conn with connected := connected } }

/-! ### Guessing the controller type -/

def setVidPid (vendorId productId : UInt16) (d : HidDevice) : HidDevice :=
  uniHidDeviceSetProductId productId (uniHidDeviceSetVendorId vendorId d)

def uniHidParserDs3DoesNameMatch (name : Name) (d : HidDevice) : Option HidDevice :=
  if name = ascii "Navigation Controller" ∨ name.take 15 = ascii "PLAYSTATION(R)3" then
    some (setVidPid 0x054c 0x0268 d)
  else none

def switchNames : List (Name × UInt16 × UInt16) :=
  [(ascii "Pro Controller", 0x057e, 0x2009),
    (ascii "Joy-Con (L)", 0x057e, 0x2006),
    (ascii "Joy-Con (R)", 0x057e, 0x2007),
    (ascii "SNES Controller", 0x057e, 0x2017)]

def uniHidParserSwitchDoesNameMatch (name : Name) (d : HidDevice) : Option HidDevice :=
  (switchNames.find? fun entry => entry.1 = name).map fun entry => setVidPid entry.2.1 entry.2.2 d

/-- `xbox_hid_descriptor_4_8_fw`. -/
def xboxHidDescriptor48Fw : List UInt8 :=
  [0x05, 0x01, 0x09, 0x05, 0xa1, 0x01, 0x85, 0x01, 0x09, 0x01, 0xa1, 0x00, 0x09, 0x30, 0x09, 0x31, 0x15,
    0x00, 0x27, 0xff, 0xff, 0x00, 0x00, 0x95, 0x02, 0x75, 0x10, 0x81, 0x02, 0xc0, 0x09, 0x01, 0xa1, 0x00,
    0x09, 0x32, 0x09, 0x35, 0x15, 0x00, 0x27, 0xff, 0xff, 0x00, 0x00, 0x95, 0x02, 0x75, 0x10, 0x81, 0x02,
    0xc0, 0x05, 0x02, 0x09, 0xc5, 0x15, 0x00, 0x26, 0xff, 0x03, 0x95, 0x01, 0x75, 0x0a, 0x81, 0x02, 0x15,
    0x00, 0x25, 0x00, 0x75, 0x06, 0x95, 0x01, 0x81, 0x03, 0x05, 0x02, 0x09, 0xc4, 0x15, 0x00, 0x26, 0xff,
    0x03, 0x95, 0x01, 0x75, 0x0a, 0x81, 0x02, 0x15, 0x00, 0x25, 0x00, 0x75, 0x06, 0x95, 0x01, 0x81, 0x03,
    0x05, 0x01, 0x09, 0x39, 0x15, 0x01, 0x25, 0x08, 0x35, 0x00, 0x46, 0x3b, 0x01, 0x66, 0x14, 0x00, 0x75,
    0x04, 0x95, 0x01, 0x81, 0x42, 0x75, 0x04, 0x95, 0x01, 0x15, 0x00, 0x25, 0x00, 0x35, 0x00, 0x45, 0x00,
    0x65, 0x00, 0x81, 0x03, 0x05, 0x09, 0x19, 0x01, 0x29, 0x0f, 0x15, 0x00, 0x25, 0x01, 0x75, 0x01, 0x95,
    0x0f, 0x81, 0x02, 0x15, 0x00, 0x25, 0x00, 0x75, 0x01, 0x95, 0x01, 0x81, 0x03, 0x05, 0x0c, 0x0a, 0x24,
    0x02, 0x15, 0x00, 0x25, 0x01, 0x95, 0x01, 0x75, 0x01, 0x81, 0x02, 0x15, 0x00, 0x25, 0x00, 0x75, 0x07,
    0x95, 0x01, 0x81, 0x03, 0x05, 0x0c, 0x09, 0x01, 0x85, 0x02, 0xa1, 0x01, 0x05, 0x0c, 0x0a, 0x23, 0x02,
    0x15, 0x00, 0x25, 0x01, 0x95, 0x01, 0x75, 0x01, 0x81, 0x02, 0x15, 0x00, 0x25, 0x00, 0x75, 0x07, 0x95,
    0x01, 0x81, 0x03, 0xc0, 0x05, 0x0f, 0x09, 0x21, 0x85, 0x03, 0xa1, 0x02, 0x09, 0x97, 0x15, 0x00, 0x25,
    0x01, 0x75, 0x04, 0x95, 0x01, 0x91, 0x02, 0x15, 0x00, 0x25, 0x00, 0x75, 0x04, 0x95, 0x01, 0x91, 0x03,
    0x09, 0x70, 0x15, 0x00, 0x25, 0x64, 0x75, 0x08, 0x95, 0x04, 0x91, 0x02, 0x09, 0x50, 0x66, 0x01, 0x10,
    0x55, 0x0e, 0x15, 0x00, 0x26, 0xff, 0x00, 0x75, 0x08, 0x95, 0x01, 0x91, 0x02, 0x09, 0xa7, 0x15, 0x00,
    0x26, 0xff, 0x00, 0x75, 0x08, 0x95, 0x01, 0x91, 0x02, 0x65, 0x00, 0x55, 0x00, 0x09, 0x7c, 0x15, 0x00,
    0x26, 0xff, 0x00, 0x75, 0x08, 0x95, 0x01, 0x91, 0x02, 0xc0, 0x05, 0x06, 0x09, 0x20, 0x85, 0x04, 0x15,
    0x00, 0x26, 0xff, 0x00, 0x75, 0x08, 0x95, 0x01, 0x81, 0x02, 0xc0]

def uniHidParserXboxoneDoesNameMatch (name : Name) (d : HidDevice) : Option HidDevice :=
  if name = ascii "Xbox Wireless Controller" then
    some (storeHidDescriptor xboxHidDescriptor48Fw (setVidPid 0x045e 0x02e0 d))
  else none

/-- A device that the database does not list: by its class, then by its name. -/
def guessUnlisted (d : HidDevice) : ControllerType × HidDevice :=
  if uniHidDeviceIsMouse d then (.genericMouse, d)
  else if uniHidDeviceIsKeyboard d then (.genericKeyboard, d)
  else match uniHidParserXboxoneDoesNameMatch d.name d with
    | some d => (.xBoxOneController, d)
    | none => (.androidController, d)

/-- `guess` is the database, `uni_guess_controller_type`. -/
def uniHidDeviceGuessControllerTypeFromPidVid (guess : UInt16 → UInt16 → ControllerType)
    (d : HidDevice) : HidDevice :=
  if d.hasControllerType then d
  else
    let (type, d) := match guess d.vendorId d.productId with
      | .unknown | .unknownNonSteamController | .unknownSteamController => guessUnlisted d
      | type => (type, d)
    { d with
      reportParser := reportParser type d.vendorId d.productId
      controllerType := type
      hasControllerType := true }

def uniHidDeviceGuessControllerTypeFromName (guess : UInt16 → UInt16 → ControllerType) (name : Name)
    (d : HidDevice) : Option HidDevice :=
  ((uniHidParserDs3DoesNameMatch name d).orElse fun _ => uniHidParserSwitchDoesNameMatch name d).map
    (uniHidDeviceGuessControllerTypeFromPidVid guess)

def uniHidDeviceDoesRequireHidDescriptor (d : HidDevice) : Bool := d.reportParser.parseUsage

end BukkisDrone.Bluetooth
