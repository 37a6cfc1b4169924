import BukkisDrone.Bluetooth.AllowList
import Mathlib.Logic.Function.Basic

/-!
# The device table

The four devices of `uni_hid_device.c` and what the functions over them read and write besides: the
SDP lock of `uni_bt_sdp.c`, the allow list, the callbacks made to the platform and the requests made
to BTstack.
-/

namespace BukkisDrone.Bluetooth

inductive ConnectionType where
  | invalid | acl | sco | le
  deriving DecidableEq

inductive ServiceClass where
  | pnpInformation | humanInterfaceDevice
  deriving DecidableEq

/-- What the functions of other files answer while one event is handled. The second components are
what `l2cap_create_channel` and `hids_client_connect` write through their last argument. The table
`overrun` is what stands in `g_devices` after a HID descriptor has been copied past the end of its field. -/
structure Answers where
  gapGetConnectionType : UInt16 → ConnectionType
  l2capCreateChannel : UInt8 × UInt16
  sdpClientQuery : ServiceClass → UInt8
  hidsClientConnect : UInt8 × UInt16
  uniGuessControllerType : UInt16 → UInt16 → ControllerType
  overrun : Fin 4 → HidDevice

/-- An accepted channel is named with the address that asked for it. -/
inductive Request where
  | l2capAcceptConnection (channel : UInt16) (addr : BdAddr)
  | l2capDeclineConnection (channel : UInt16)
  | l2capCreateChannel (addr : BdAddr) (psm : UInt16)
  | l2capDisconnect (cid : UInt16)
  | gapConnect (addr : BdAddr)
  | gapDisconnect (handle : UInt16)
  | gapRemoteNameRequest (addr : BdAddr) (mode : UInt8) (clockOffset : UInt16)
  | sdpClientQuery (addr : BdAddr) (service : ServiceClass)
  deriving DecidableEq

/-- `sdp_device`, and the device that `sdp_query_timer` runs for. -/
structure Sdp where
  device : Option (Fin 4)
  queryTimer : Option (Fin 4)
  deriving DecidableEq

structure Bluepad where
  devices : Fin 4 → HidDevice
  sdp : Sdp
  allowList : AllowList
  allowIncoming : Bool
  callbacks : List (Callback (Fin 4))
  requests : List Request

def Bluepad.modify (i : Fin 4) (f : HidDevice → HidDevice) (t : Bluepad) : Bluepad :=
  { t with devices := Function.update t.devices i (f (t.devices i)) }

def Bluepad.call (cb : Callback (Fin 4)) (t : Bluepad) : Bluepad := { t with callbacks := t.callbacks ++ [cb] }

def Bluepad.request (r : Request) (t : Bluepad) : Bluepad := { t with requests := t.requests ++ [r] }

def Bluepad.setSdp (sdp : Sdp) (t : Bluepad) : Bluepad := { t with sdp := sdp }

/-! ### Lookups -/

def Bluepad.find (p : HidDevice → Bool) (t : Bluepad) : Option (Fin 4) := Fin.find? fun i => p (t.devices i)

def uniHidDeviceGetInstanceForAddress (addr : BdAddr) (t : Bluepad) : Option (Fin 4) :=
  t.find fun d => addr == d.conn.btaddr

def uniHidDeviceGetInstanceForCid (cid : UInt16) (t : Bluepad) : Option (Fin 4) :=
  if cid = 0 then none else t.find fun d => d.conn.interruptCid == cid || d.conn.controlCid == cid

def uniHidDeviceGetInstanceForHidsCid (cid : UInt16) (t : Bluepad) : Option (Fin 4) :=
  if cid = 0 then none else t.find fun d => d.hidsCid == cid

def uniHidDeviceGetInstanceForConnectionHandle (handle : UInt16) (t : Bluepad) : Option (Fin 4) :=
  if handle = handleInvalid then none else t.find fun d => d.conn.handle == handle

/-! ### Slots taken and released -/

/-- The device starts with its connection timer running. -/
def uniHidDeviceCreate (addr : BdAddr) (t : Bluepad) : Option (Fin 4 × Bluepad) :=
  match t.find fun d => d.conn.btaddr == zeroAddr with
  | some i => some (i, t.modify i fun _ =>
      { HidDevice.zero with connectionTimer := true, conn := { Conn.zero with btaddr := addr } })
  | none => none

def uniHidDeviceOnConnected (i : Fin 4) (connected : Bool) (t : Bluepad) : Bluepad :=
  t.call (if connected then .deviceConnected i else .deviceDisconnected i)

def uniHidDeviceConnect (i : Fin 4) (t : Bluepad) : Bluepad :=
  uniHidDeviceOnConnected i true (t.modify i (uniBtConnSetConnected true))

variable (answers : Answers)

def hogDisconnect (handle : UInt16) (t : Bluepad) : Bluepad :=
  if answers.gapGetConnectionType handle ≠ .invalid then t.request (.gapDisconnect handle) else t

def uniBtLeDisconnect (i : Fin 4) (t : Bluepad) : Bluepad :=
  hogDisconnect answers (t.devices i).conn.handle t

def uniBtBredrDisconnect (i : Fin 4) (t : Bluepad) : Bluepad :=
  let conn := (t.devices i).conn
  if answers.gapGetConnectionType conn.handle ≠ .invalid then
    (t.request (.gapDisconnect conn.handle)).modify i (uniHidDeviceSetConnectionHandle handleInvalid)
  else
    let t := if conn.controlCid ≠ 0 then
        (t.request (.l2capDisconnect conn.controlCid)).modify i fun d =>
          { d with conn := { d.conn with controlCid := 0 } }
      else t
    if conn.interruptCid ≠ 0 then
      (t.request (.l2capDisconnect conn.interruptCid)).modify i fun d =>
        { d with conn := { d.conn with interruptCid := 0 } }
    else t

def uniHidDeviceDisconnect (i : Fin 4) (t : Bluepad) : Bluepad :=
  let connected := (t.devices i).conn.connected
  let t := match answers.gapGetConnectionType (t.devices i).conn.handle with
    | .le => uniBtLeDisconnect answers i t
    | .acl => uniBtBredrDisconnect answers i t
    | _ => t
  let t := t.modify i fun d =>
    { uniBtConnSetConnected false d with connectionTimer := false, inquiryRemoteNameTimer := false }
  if connected then uniHidDeviceOnConnected i false t else t

def uniHidDeviceDelete (i : Fin 4) (t : Bluepad) : Bluepad := t.modify i fun _ => uniHidDeviceInit

/-- The two calls that every place of the source makes one after the other. -/
def disconnectAndDelete (i : Fin 4) (t : Bluepad) : Bluepad :=
  uniHidDeviceDelete i (uniHidDeviceDisconnect answers i t)

/-- The function copies as many bytes as the descriptor has. Those that do not fit overwrite what lies behind
the field, which is taken to be the table still. -/
def uniHidDeviceSetHidDescriptor (i : Fin 4) (descriptor : List UInt8) (t : Bluepad) : Bluepad :=
  if descriptor.length ≤ hidMaxDescriptorLen then t.modify i (storeHidDescriptor descriptor)
  else { t with devices := answers.overrun }

/-! ### Readiness and data -/

/-- The platform of this program never declines a device. -/
def uniHidDeviceSetReadyComplete (i : Fin 4) (t : Bluepad) : Bluepad :=
  if (t.devices i).conn.state = .deviceReady then t
  else
    let t := t.modify i fun d => { d with connectionTimer := false }
    let t := t.call (.deviceReady i)
    t.modify i (uniBtConnSetState .deviceReady)

def uniHidDeviceSetReady (i : Fin 4) (t : Bluepad) : Bluepad :=
  if (t.devices i).conn.state = .devicePendingReady then t
  else
    let t := t.modify i (uniBtConnSetState .devicePendingReady)
    match (t.devices i).reportParser.setup with
    | none | some .completes => uniHidDeviceSetReadyComplete i t
    | some .deferred => t

/-- The gamepad mapping of this program is the identity. -/
def uniHidDeviceProcessController (i : Fin 4) (t : Bluepad) : Bluepad :=
  let d := t.devices i
  if d.conn.state ≠ .deviceReady then t else t.call (.controllerData i d.controller)

/-- What a report parser makes of a report: the controller it leaves in the device, and whether it
calls `uni_hid_device_set_ready_complete`. -/
structure Parsed where
  controller : UniController
  setupComplete : Bool
  deriving DecidableEq

def Parsed.apply (parsed : Parsed) (i : Fin 4) (t : Bluepad) : Bluepad :=
  let t := t.modify i fun d => { d with controller := parsed.controller }
  if parsed.setupComplete then uniHidDeviceSetReadyComplete i t else t

end BukkisDrone.Bluetooth
