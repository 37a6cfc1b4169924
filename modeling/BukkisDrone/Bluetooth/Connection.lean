import BukkisDrone.Bluetooth.DeviceTable
import BukkisDrone.Bluetooth.GamepadOnly

/-!
# Connections

The connection state machine of `uni_bt_bredr.c`, `uni_bt_sdp.c` and `uni_bt_le.c`, with the timers of
`uni_hid_device.c`. Each packet that BTstack hands over, each timer that fires and each command of the
console or the BLE service that changes the allow list, the admission of incoming connections or a device
is one event. The console command `virtual_device_enable` is none: virtual devices are taken to stay off.
-/

namespace BukkisDrone.Bluetooth
open Runs

variable (answers : Answers)

/-! ### SDP queries and the state machine of BR/EDR -/

def psmHidControl : UInt16 := 0x11

def psmHidInterrupt : UInt16 := 0x13

def clockOffsetValid : UInt16 := 0x8000

def l2capCreateControlConnection (i : Fin 4) (t : Bluepad) : Bluepad :=
  let t := t.request (.l2capCreateChannel (t.devices i).conn.btaddr psmHidControl)
  let (status, cid) := answers.l2capCreateChannel
  if status ≠ 0 then t
  else t.modify i fun d =>
    uniBtConnSetState .l2capControlConnectionRequested { d with conn := { d.conn with controlCid := cid } }

def l2capCreateInterruptConnection (i : Fin 4) (t : Bluepad) : Bluepad :=
  let t := t.request (.l2capCreateChannel (t.devices i).conn.btaddr psmHidInterrupt)
  let (status, cid) := answers.l2capCreateChannel
  if status ≠ 0 then t
  else t.modify i fun d =>
    uniBtConnSetState .l2capInterruptConnectionRequested { d with conn := { d.conn with interruptCid := cid } }

def uniBtSdpQueryStartVidPid (i : Fin 4) (t : Bluepad) : Bluepad :=
  let t := t.modify i (uniBtConnSetState .sdpVendorRequested)
  let t := t.request (.sdpClientQuery (t.devices i).conn.btaddr .pnpInformation)
  if answers.sdpClientQuery .pnpInformation ≠ 0 then disconnectAndDelete answers i t else t

def uniBtSdpQueryStart (i : Fin 4) (t : Bluepad) : Bluepad :=
  if t.sdp.device ≠ none then disconnectAndDelete answers i t
  else uniBtSdpQueryStartVidPid answers i (t.setSdp ⟨some i, some i⟩)

/-- `uni_bt_bredr_process_fsm` in the state `sdpHidDescriptorFetched`. -/
def processHidDescriptorFetched (i : Fin 4) (t : Bluepad) : Bluepad :=
  let d := t.devices i
  if d.conn.incoming then uniHidDeviceSetReady i t
  else if d.sdpQueryType = .beforeConnect then l2capCreateControlConnection answers i t
  else uniHidDeviceSetReady i t

def uniBtSdpQueryEnd (i : Fin 4) (t : Bluepad) : Bluepad :=
  let t := t.modify i (uniBtConnSetState .sdpHidDescriptorFetched)
  let t := t.setSdp ⟨none, none⟩
  processHidDescriptorFetched answers i t

def uniBtSdpQueryStartHidDescriptor (i : Fin 4) (t : Bluepad) : Bluepad :=
  if ¬uniHidDeviceDoesRequireHidDescriptor (t.devices i) then uniBtSdpQueryEnd answers i t
  else if t.sdp.device = none then t
  else
    let t := t.modify i (uniBtConnSetState .sdpHidDescriptorRequested)
    let t := t.request (.sdpClientQuery (t.devices i).conn.btaddr .humanInterfaceDevice)
    if answers.sdpClientQuery .humanInterfaceDevice ≠ 0 then
      disconnectAndDelete answers i (t.setSdp { t.sdp with queryTimer := none })
    else t

/-- Asks for the name, and waits for it with a timer. -/
def requestName (i : Fin 4) (t : Bluepad) : Bluepad :=
  let conn := (t.devices i).conn
  let t := t.request <|
    if conn.clockOffset &&& clockOffsetValid ≠ 0 then
      .gapRemoteNameRequest conn.btaddr conn.pageScanRepetitionMode conn.clockOffset
    else .gapRemoteNameRequest conn.btaddr 0x02 0x0000
  t.modify i fun d => { uniBtConnSetState .remoteNameInquired d with inquiryRemoteNameTimer := true }

/-- `uni_bt_bredr_process_fsm` in the state `remoteNameFetched`. -/
def processNameFetched (i : Fin 4) (t : Bluepad) : Bluepad :=
  let d := t.devices i
  if d.name = ascii "Wireless Controller" then
    uniBtSdpQueryStart answers i (t.modify i fun d => { d with sdpQueryType := .beforeConnect })
  else
    let t := match uniHidDeviceGuessControllerTypeFromName answers.uniGuessControllerType d.name d with
      | some d => t.modify i fun _ =>
        uniBtConnSetState .sdpHidDescriptorFetched { d with sdpQueryType := .notNeeded }
      | none => t
    let d := t.devices i
    if d.conn.incoming then
      if d.sdpQueryType = .notNeeded then uniHidDeviceSetReady i t else uniBtSdpQueryStart answers i t
    else l2capCreateControlConnection answers i t

def uniBtBredrProcessFsm (i : Fin 4) (t : Bluepad) : Bluepad :=
  let d := t.devices i
  let state := d.conn.state
  if ¬d.hasName ∧ (state = .deviceDiscovered ∨ state = .l2capInterruptConnected) then requestName i t
  else match state with
    | .remoteNameFetched => processNameFetched answers i t
    | .sdpVendorFetched => uniBtSdpQueryStartHidDescriptor answers i t
    | .sdpHidDescriptorFetched => processHidDescriptorFetched answers i t
    | .l2capControlConnected => if d.conn.incoming then t else l2capCreateInterruptConnection answers i t
    | .l2capInterruptConnected =>
      if d.conn.incoming then t
      else match d.sdpQueryType with
        | .beforeConnect | .notNeeded => uniHidDeviceSetReady i t
        | .afterConnect => uniBtSdpQueryStart answers i t
    | _ => t

/-! ### BR/EDR events -/

/-- The device with this address. A ready one is deleted: it connects again without having
disconnected. -/
def existingDevice (addr : BdAddr) (t : Bluepad) : Option (Fin 4) × Bluepad :=
  match uniHidDeviceGetInstanceForAddress addr t with
  | some i =>
    if (t.devices i).conn.state = .deviceReady then (none, disconnectAndDelete answers i t) else (some i, t)
  | none => (none, t)

def l2capIncomingConnection (psm handle channel : UInt16) (addr : BdAddr) (t : Bluepad) : Bluepad :=
  if ¬t.allowIncoming then t.request (.l2capDeclineConnection channel)
  else if ¬uniBtAllowlistIsAllowedAddr t.allowList addr then t.request (.l2capDeclineConnection channel)
  else
    let (device, t) := existingDevice answers addr t
    if psm = psmHidControl then
      let device := match device with
        | some i => some (i, t)
        | none => uniHidDeviceCreate addr t
      match device with
      | none => t.request (.l2capDeclineConnection channel)
      | some (i, t) =>
        let t := t.request (.l2capAcceptConnection channel addr)
        let t := t.modify i (uniHidDeviceSetConnectionHandle handle)
        let t := t.modify i fun d => { d with conn := { d.conn with controlCid := channel } }
        t.modify i (uniHidDeviceSetIncoming true)
    else if psm = psmHidInterrupt then
      match device with
      | none => t.request (.l2capDeclineConnection channel)
      | some i =>
        let t := t.modify i fun d => { d with conn := { d.conn with interruptCid := channel } }
        t.request (.l2capAcceptConnection channel addr)
    else t

def l2capChannelOpened (status : UInt8) (psm localCid : UInt16) (addr : BdAddr) (t : Bluepad) : Bluepad :=
  match uniHidDeviceGetInstanceForAddress addr t with
  | none => t
  | some i =>
    if status ≠ 0 then disconnectAndDelete answers i t
    else
      let t :=
        if psm = psmHidControl then
          t.modify i fun d =>
            uniBtConnSetState .l2capControlConnected { d with conn := { d.conn with controlCid := localCid } }
        else if psm = psmHidInterrupt then
          uniHidDeviceConnect i <| t.modify i fun d =>
            uniBtConnSetState .l2capInterruptConnected
              { d with conn := { d.conn with interruptCid := localCid } }
        else t
      uniBtBredrProcessFsm answers i t

def l2capChannelClosed (localCid : UInt16) (t : Bluepad) : Bluepad :=
  match uniHidDeviceGetInstanceForCid localCid t with
  | none => t
  | some i => disconnectAndDelete answers i t

def l2capDataPacket (channel : UInt16) (packet : List UInt8) (parsed : Parsed) (t : Bluepad) : Bluepad :=
  match uniHidDeviceGetInstanceForCid channel t with
  | none => t
  | some i =>
    let d := t.devices i
    if packet.length < 2 then t
    else if channel = d.conn.controlCid then
      if d.reportParser.parseFeatureReport then parsed.apply i t else t
    else if channel ≠ d.conn.interruptCid then t
    else if packet.head? ≠ some 0xa1 then t
    else uniHidDeviceProcessController i (parsed.apply i t)

def uniHidDeviceOnDeviceDiscovered (l : AllowList) (addr : BdAddr) (cod : UInt16) (rssi : UInt8) : Bool :=
  uniBtAllowlistIsAllowedAddr l addr && !decide (rssi < 255 - 100) && uniHidDeviceIsCodSupported cod.toUInt32

/-- The platform hears of the device too, and accepts every one. -/
def gapInquiryResult (addr : BdAddr) (pageScanRepetitionMode : UInt8) (clockOffset : UInt16) (cod : UInt32)
    (rssi : UInt8) (nameBytes : List UInt8) (t : Bluepad) : Bluepad :=
  if ¬uniHidDeviceOnDeviceDiscovered t.allowList addr cod.toUInt16 rssi then t
  else match uniHidDeviceGetInstanceForAddress addr t with
    | some i => if (t.devices i).conn.state = .deviceReady then t else uniBtBredrProcessFsm answers i t
    | none => match uniHidDeviceCreate addr t with
      | none => t
      | some (i, t) =>
        let t := t.modify i (uniBtConnSetState .deviceDiscovered)
        let t := t.modify i (uniHidDeviceSetCod cod)
        let t := t.modify i fun d =>
          { d with
            conn := { d.conn with
              pageScanRepetitionMode := pageScanRepetitionMode
              clockOffset := clockOffset ||| clockOffsetValid } }
        let t := if 0 < nameBytes.length ∧ ¬(t.devices i).hasName then
            (t.modify i (uniHidDeviceSetName (cString nameBytes))).modify i (uniBtConnSetState .remoteNameFetched)
          else t
        uniBtBredrProcessFsm answers i t

def hciConnectionRequest (addr : BdAddr) (cod : UInt32) (t : Bluepad) : Bluepad :=
  let found := match uniHidDeviceGetInstanceForAddress addr t with
    | some i => some (i, t)
    | none => uniHidDeviceCreate addr t
  match found with
  | none => t
  | some (i, t) => (t.modify i (uniHidDeviceSetCod cod)).modify i (uniHidDeviceSetIncoming true)

def hciConnectionComplete (status : UInt8) (addr : BdAddr) (handle : UInt16) (t : Bluepad) : Bluepad :=
  if status ≠ 0 then t
  else match uniHidDeviceGetInstanceForAddress addr t with
    | none => t
    | some i => t.modify i (uniHidDeviceSetConnectionHandle handle)

def hciDisconnectionComplete (handle : UInt16) (t : Bluepad) : Bluepad :=
  match uniHidDeviceGetInstanceForConnectionHandle handle t with
  | none => t
  | some i => disconnectAndDelete answers i t

def hciRemoteNameRequestComplete (status : UInt8) (addr : BdAddr) (nameBytes : List UInt8) (t : Bluepad) :
    Bluepad :=
  match uniHidDeviceGetInstanceForAddress addr t with
  | none => t
  | some i =>
    let name := if status ≠ 0 then ascii "Controller without name" else cString nameBytes
    let t := t.modify i (uniHidDeviceSetName name)
    let t := if (t.devices i).conn.state.ctorIdx < ConnState.devicePendingReady.ctorIdx then
        uniBtBredrProcessFsm answers i (t.modify i (uniBtConnSetState .remoteNameFetched))
      else t
    t.modify i fun d => { d with inquiryRemoteNameTimer := false }

/-! ### SDP answers -/

def sdpHidDescriptor (descriptor : List UInt8) (t : Bluepad) : Bluepad :=
  match t.sdp.device with
  | none => t
  | some i => uniHidDeviceSetHidDescriptor answers i descriptor t

def sdpHidQueryComplete (t : Bluepad) : Bluepad :=
  match t.sdp.device with
  | none => t
  | some i => uniBtSdpQueryEnd answers i t

def sdpVendorId (vendorId : UInt16) (t : Bluepad) : Bluepad :=
  match t.sdp.device with
  | none => t
  | some i => t.modify i (uniHidDeviceSetVendorId vendorId)

def sdpProductId (productId : UInt16) (t : Bluepad) : Bluepad :=
  match t.sdp.device with
  | none => t
  | some i => t.modify i (uniHidDeviceSetProductId productId)

def sdpPidQueryComplete (t : Bluepad) : Bluepad :=
  match t.sdp.device with
  | none => t
  | some i =>
    let t := t.modify i (uniHidDeviceGuessControllerTypeFromPidVid answers.uniGuessControllerType)
    uniBtBredrProcessFsm answers i (t.modify i (uniBtConnSetState .sdpVendorFetched))

/-! ### BLE events -/

inductive Appearance where
  | keyboard | mouse | joystick | gamepad | other
  deriving DecidableEq

def Appearance.cod : Appearance → UInt16
  | .keyboard => 0x0540
  | .mouse => 0x0580
  | .joystick => 0x0504
  | .gamepad => 0x0508
  | .other => 0

def gapAdvertisingReport (addr : BdAddr) (appearance : Appearance) (rssi : UInt8) (name : Name) (t : Bluepad) :
    Bluepad :=
  if uniHidDeviceGetInstanceForAddress addr t ≠ none then t
  else if appearance = .other then t
  else if ¬uniHidDeviceOnDeviceDiscovered t.allowList addr appearance.cod rssi then t
  else match uniHidDeviceCreate addr t with
    | none => t
    | some (i, t) =>
      let t := t.modify i (uniHidDeviceSetCod appearance.cod.toUInt32)
      let t := t.modify i (uniHidDeviceSetName name)
      let t := t.modify i (uniBtConnSetProtocol .ble)
      let t := t.modify i (uniBtConnSetState .deviceDiscovered)
      t.request (.gapConnect addr)

def leConnectionComplete (addr : BdAddr) (handle : UInt16) (t : Bluepad) : Bluepad :=
  match uniHidDeviceGetInstanceForAddress addr t with
  | none => t
  | some i => t.modify i (uniHidDeviceSetConnectionHandle handle)

def encryptionChange (handle : UInt16) (enabled : Bool) (t : Bluepad) : Bluepad :=
  if answers.gapGetConnectionType handle ≠ .le then t
  else match uniHidDeviceGetInstanceForConnectionHandle handle t with
    | none => t
    | some i => if (t.devices i).conn.protocol ≠ .ble then t
      else if enabled then t else hogDisconnect answers handle t

/-- The connection is dropped after a timeout, or when the other side ended it. -/
def smReencryptionComplete (status : UInt8) (handle : UInt16) (t : Bluepad) : Bluepad :=
  if status = 0x08 ∨ status = 0x13 then hogDisconnect answers handle t else t

def smPairingComplete (addr : BdAddr) (handle : UInt16) (t : Bluepad) : Bluepad :=
  match uniHidDeviceGetInstanceForAddress addr t with
  | none => hogDisconnect answers handle t
  | some _ => t

def pnpId (handle vendorId productId : UInt16) (t : Bluepad) : Bluepad :=
  match uniHidDeviceGetInstanceForConnectionHandle handle t with
  | none => t
  | some i => (t.modify i (uniHidDeviceSetVendorId vendorId)).modify i (uniHidDeviceSetProductId productId)

def deviceInformationDone (status : UInt8) (handle : UInt16) (t : Bluepad) : Bluepad :=
  if status ≠ 0 then hogDisconnect answers handle t
  else match uniHidDeviceGetInstanceForConnectionHandle handle t with
    | none => t
    | some i =>
      let (status, cid) := answers.hidsClientConnect
      if status ≠ 0 then hogDisconnect answers handle t
      else t.modify i fun d => { d with hidsCid := cid }

def hidServiceConnected (status : UInt8) (cid : UInt16) (t : Bluepad) : Bluepad :=
  if status ≠ 0 then t
  else match uniHidDeviceGetInstanceForHidsCid cid t with
    | none => t
    | some i =>
      let t := t.modify i (uniHidDeviceGuessControllerTypeFromPidVid answers.uniGuessControllerType)
      uniHidDeviceSetReady i (uniHidDeviceConnect i t)

def hidReport (cid : UInt16) (descriptor : List UInt8) (parsed : Parsed) (t : Bluepad) : Bluepad :=
  match uniHidDeviceGetInstanceForHidsCid cid t with
  | none => t
  | some i =>
    let t := if (t.devices i).hidDescriptor.length = 0 then
        uniHidDeviceSetHidDescriptor answers i descriptor t
      else t
    uniHidDeviceProcessController i (parsed.apply i t)

/-! ### Timers -/

def deviceConnectionTimeout (i : Fin 4) (t : Bluepad) : Bluepad :=
  if ¬(t.devices i).connectionTimer then t
  else
    let t := t.modify i fun d => { d with connectionTimer := false }
    if (t.devices i).conn.state = .deviceReady then t else disconnectAndDelete answers i t

def inquiryRemoteNameTimeout (i : Fin 4) (t : Bluepad) : Bluepad :=
  if ¬(t.devices i).inquiryRemoteNameTimer then t
  else
    let t := t.modify i fun d => { d with inquiryRemoteNameTimer := false }
    let t := t.modify i (uniHidDeviceSetName (ascii "Controller without name"))
    uniBtBredrProcessFsm answers i (t.modify i (uniBtConnSetState .remoteNameFetched))

def sdpQueryTimeout (t : Bluepad) : Bluepad :=
  match t.sdp.queryTimer with
  | none => t
  | some i =>
    let t := t.setSdp { t.sdp with queryTimer := none }
    if t.sdp.device = some i then t.setSdp { t.sdp with device := none } else t

/-! ### Every event -/

inductive Packet where
  | gapInquiryResult (addr : BdAddr) (pageScanRepetitionMode : UInt8) (clockOffset : UInt16) (cod : UInt32)
    (rssi : UInt8) (nameBytes : List UInt8)
  | hciConnectionRequest (addr : BdAddr) (cod : UInt32)
  | hciConnectionComplete (status : UInt8) (addr : BdAddr) (handle : UInt16)
  | hciDisconnectionComplete (handle : UInt16)
  | hciRemoteNameRequestComplete (status : UInt8) (addr : BdAddr) (nameBytes : List UInt8)
  | l2capIncomingConnection (psm handle channel : UInt16) (addr : BdAddr)
  | l2capChannelOpened (status : UInt8) (psm localCid : UInt16) (addr : BdAddr)
  | l2capChannelClosed (localCid : UInt16)
  | l2capDataPacket (channel : UInt16) (packet : List UInt8) (parsed : Parsed)
  | sdpVendorId (vendorId : UInt16)
  | sdpProductId (productId : UInt16)
  | sdpPidQueryComplete
  | sdpHidDescriptor (descriptor : List UInt8)
  | sdpHidQueryComplete
  | gapAdvertisingReport (addr : BdAddr) (appearance : Appearance) (rssi : UInt8) (name : Name)
  | leConnectionComplete (addr : BdAddr) (handle : UInt16)
  | encryptionChange (handle : UInt16) (enabled : Bool)
  | smReencryptionComplete (status : UInt8) (handle : UInt16)
  | smPairingComplete (addr : BdAddr) (handle : UInt16)
  | pnpId (handle vendorId productId : UInt16)
  | deviceInformationDone (status : UInt8) (handle : UInt16)
  | hidServiceConnected (status : UInt8) (cid : UInt16)
  | hidReport (cid : UInt16) (descriptor : List UInt8) (parsed : Parsed)
  | parserReady (i : Fin 4)
  | deviceConnectionTimeout (i : Fin 4)
  | inquiryRemoteNameTimeout (i : Fin 4)
  | sdpQueryTimeout
  | disconnectDevice (i : Fin 4)
  | allowIncomingConnections (allow : Bool)
  | allowlistAdd (addr : BdAddr)
  | allowlistRemove (addr : BdAddr)
  | allowlistEnable (enabled : Bool)

structure RadioEvent where
  answers : Answers
  packet : Packet

def RadioEvent.apply (t : Bluepad) (e : RadioEvent) : Bluepad :=
  match e.packet with
  | .gapInquiryResult addr mode offset cod rssi name => gapInquiryResult e.answers addr mode offset cod rssi name t
  | .hciConnectionRequest addr cod => hciConnectionRequest addr cod t
  | .hciConnectionComplete status addr handle => hciConnectionComplete status addr handle t
  | .hciDisconnectionComplete handle => hciDisconnectionComplete e.answers handle t
  | .hciRemoteNameRequestComplete status addr name => hciRemoteNameRequestComplete e.answers status addr name t
  | .l2capIncomingConnection psm handle channel addr =>
    l2capIncomingConnection e.answers psm handle channel addr t
  | .l2capChannelOpened status psm cid addr => l2capChannelOpened e.answers status psm cid addr t
  | .l2capChannelClosed cid => l2capChannelClosed e.answers cid t
  | .l2capDataPacket channel packet parsed => l2capDataPacket channel packet parsed t
  | .sdpVendorId vendorId => sdpVendorId vendorId t
  | .sdpProductId productId => sdpProductId productId t
  | .sdpPidQueryComplete => sdpPidQueryComplete e.answers t
  | .sdpHidDescriptor descriptor => sdpHidDescriptor e.answers descriptor t
  | .sdpHidQueryComplete => sdpHidQueryComplete e.answers t
  | .gapAdvertisingReport addr appearance rssi name => gapAdvertisingReport addr appearance rssi name t
  | .leConnectionComplete addr handle => leConnectionComplete addr handle t
  | .encryptionChange handle enabled => encryptionChange e.answers handle enabled t
  | .smReencryptionComplete status handle => smReencryptionComplete e.answers status handle t
  | .smPairingComplete addr handle => smPairingComplete e.answers addr handle t
  | .pnpId handle vendorId productId => pnpId handle vendorId productId t
  | .deviceInformationDone status handle => deviceInformationDone e.answers status handle t
  | .hidServiceConnected status cid => hidServiceConnected e.answers status cid t
  | .hidReport cid descriptor parsed => hidReport e.answers cid descriptor parsed t
  | .parserReady i => uniHidDeviceSetReadyComplete i t
  | .deviceConnectionTimeout i => deviceConnectionTimeout e.answers i t
  | .inquiryRemoteNameTimeout i => inquiryRemoteNameTimeout e.answers i t
  | .sdpQueryTimeout => sdpQueryTimeout t
  | .disconnectDevice i => disconnectAndDelete e.answers i t
  | .allowIncomingConnections allow => { t with allowIncoming := allow }
  | .allowlistAdd addr => { t with allowList := (uniBtAllowlistAddAddr addr t.allowList).2 }
  | .allowlistRemove addr => { t with allowList := (uniBtAllowlistRemoveAddr addr t.allowList).2 }
  | .allowlistEnable enabled => { t with allowList := uniBtAllowlistSetEnabled enabled t.allowList }

/-- The state that `uni_hid_device_setup` and `uni_bt_allowlist_init` leave. -/
def bluepad (allowList : AllowList) : Machine Bluepad RadioEvent where
  init :=
    { devices := fun _ => uniHidDeviceInit
      sdp := ⟨none, none⟩
      allowList := allowList
      allowIncoming := true
      callbacks := []
      requests := [] }
  step := RadioEvent.apply

/-! ### A BLE gamepad that connects and reports full throttle -/

def someAddr : BdAddr := #v[1, 2, 3, 4, 5, 6]

/-- Every request succeeds, every link is `type`, and every listed device is a DualShock 3. -/
def Answers.willing (type : ConnectionType) : Answers where
  gapGetConnectionType _ := type
  l2capCreateChannel := (0, 0x40)
  sdpClientQuery _ := 0
  hidsClientConnect := (0, 1)
  uniGuessControllerType vendorId _ := if vendorId = 0x054c then .ps3Controller else .unknown
  overrun _ := uniHidDeviceInit

def fullThrottle : Parsed := ⟨UniController.gamepad 0 0 0 (-300), false⟩

def bleGamepad : List RadioEvent :=
  [.gapAdvertisingReport someAddr .gamepad 200 (ascii "Gamepad"), .leConnectionComplete someAddr 5,
    .deviceInformationDone 0 5, .hidServiceConnected 0 1, .hidReport 1 [] fullThrottle].map
    fun packet => ⟨Answers.willing .le, packet⟩

end BukkisDrone.Bluetooth
