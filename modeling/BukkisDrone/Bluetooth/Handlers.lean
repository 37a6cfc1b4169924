import BukkisDrone.Bluetooth.LifeCycle

/-!
# Every event is a sequence of acts

Handler by handler. An event names no zero address and no HIDS client 0xffff, which BTstack gives to
one client in 65535: both would find a free entry of the table.
-/

namespace BukkisDrone.Bluetooth
open Relation Runs Sessions

variable {Seen : BdAddr → Prop} {t t' : Bluepad} {i : Fin 4} (answers : Answers)

/-! ### SDP queries and the state machine of BR/EDR -/

theorem createControl_acts (live : (t.devices i).Live) (outgoing : ¬(t.devices i).conn.incoming) :
    Acts Seen t (l2capCreateControlConnection answers i t) := by
  intro good
  have seen : Seen (t.devices i).conn.btaddr := (good.asked i live).resolve_right outgoing
  refine Acts.trans (acts_request (r := .l2capCreateChannel _ psmHidControl) seen) ?_ good
  unfold l2capCreateControlConnection
  split
  split
  · exact .refl
  · exact acts_modify (quiet_of_live live rfl rfl (fun h => by cases h) id)

theorem createInterrupt_acts (live : (t.devices i).Live) (outgoing : ¬(t.devices i).conn.incoming) :
    Acts Seen t (l2capCreateInterruptConnection answers i t) := by
  intro good
  have seen : Seen (t.devices i).conn.btaddr := (good.asked i live).resolve_right outgoing
  refine Acts.trans (acts_request (r := .l2capCreateChannel _ psmHidInterrupt) seen) ?_ good
  unfold l2capCreateInterruptConnection
  split
  split
  · exact .refl
  · exact acts_modify (quiet_of_live live rfl rfl (fun h => by cases h) id)

theorem startVidPid_acts (i : Fin 4) : Acts Seen t (uniBtSdpQueryStartVidPid answers i t) := by
  unfold uniBtSdpQueryStartVidPid
  extract_lets waiting asked
  have first : Acts Seen t waiting := acts_modify (setState_quiet (by decide))
  have second : Acts Seen t asked :=
    first.trans (acts_request (r := .sdpClientQuery _ .pnpInformation) trivial)
  split
  · exact second.trans (disconnectAndDelete_acts answers i)
  · exact second

theorem queryStart_acts (i : Fin 4) : Acts Seen t (uniBtSdpQueryStart answers i t) := by
  unfold uniBtSdpQueryStart
  split
  · exact disconnectAndDelete_acts answers i
  · exact (Act.setSdp _).acts.trans (startVidPid_acts answers i)

theorem hidDescriptorFetched_acts (i : Fin 4) : Acts Seen t (processHidDescriptorFetched answers i t) := by
  intro good
  unfold processHidDescriptorFetched
  extract_lets d
  split
  · exact setReady_acts i good
  · rename_i outgoing
    split
    · rename_i before
      -- a free entry keeps the query type of `memset`
      have live : (t.devices i).Live := fun free => by
        have query := (good.blank i (not_not.mpr free)).sdpQueryType
        rw [before] at query
        cases query
      exact createControl_acts answers live outgoing good
    · exact setReady_acts i good

theorem queryEnd_acts (i : Fin 4) : Acts Seen t (uniBtSdpQueryEnd answers i t) := by
  unfold uniBtSdpQueryEnd
  extract_lets fetched ended
  have first : Acts Seen t fetched := acts_modify (setState_quiet (by decide))
  have second : Acts Seen t ended := first.trans (Act.setSdp _).acts
  exact second.trans (hidDescriptorFetched_acts answers i)

theorem startHidDescriptor_acts (i : Fin 4) : Acts Seen t (uniBtSdpQueryStartHidDescriptor answers i t) := by
  unfold uniBtSdpQueryStartHidDescriptor
  split
  · exact queryEnd_acts answers i
  · split
    · exact .refl
    · extract_lets waiting asked
      have first : Acts Seen t waiting := acts_modify (setState_quiet (by decide))
      have second : Acts Seen t asked :=
        first.trans (acts_request (r := .sdpClientQuery _ .humanInterfaceDevice) trivial)
      split
      · exact (second.trans (Act.setSdp _).acts).trans (disconnectAndDelete_acts answers i)
      · exact second

theorem requestName_acts (live : (t.devices i).Live) : Acts Seen t (requestName i t) := by
  unfold requestName
  extract_lets conn asked
  have first : Acts Seen t asked := by
    unfold asked
    split <;> exact acts_request (r := .gapRemoteNameRequest _ _ _) trivial
  exact first.trans (acts_modify (quiet_of_live live rfl rfl (fun h => by cases h) id))

theorem nameFetched_acts (live : (t.devices i).Live) : Acts Seen t (processNameFetched answers i t) := by
  unfold processNameFetched
  extract_lets d guessed named
  split
  · exact (acts_modify (quiet_of_live live rfl rfl id id)).trans (queryStart_acts answers i)
  · have first : Acts Seen t guessed ∧ (guessed.devices i).Live := by
      unfold guessed
      split
      · rename_i found
        have inert := guessFromName_inert found
        obtain ⟨btaddr, connected, state, incoming, handle⟩ := inert.conn
        refine ⟨acts_modify (quiet_of_live live btaddr connected (fun h => by cases h) ?_), ?_⟩
        · intro same
          exact incoming.trans same
        · rw [modify_self, HidDevice.Live]
          exact btaddr ▸ live
      · exact ⟨.refl, live⟩
    obtain ⟨acts, alive⟩ := first
    split
    · split
      · exact acts.trans (setReady_acts i)
      · exact acts.trans (queryStart_acts answers i)
    · rename_i outgoing
      exact acts.trans (createControl_acts answers alive outgoing)

/-- A late SDP answer runs the state machine of an entry that has become free. -/
theorem processFsm_acts
    (proper : (t.devices i).Live ∨ (t.devices i).conn.state = .sdpVendorFetched) :
    Acts Seen t (uniBtBredrProcessFsm answers i t) := by
  have live : (t.devices i).conn.state ≠ .sdpVendorFetched → (t.devices i).Live := proper.resolve_right
  unfold uniBtBredrProcessFsm
  dsimp only
  split
  · rename_i nameless
    refine requestName_acts (live fun same => ?_)
    rcases nameless.2 with discovered | connected
    · exact absurd (discovered.symm.trans same) (by decide)
    · exact absurd (connected.symm.trans same) (by decide)
  · split
    · rename_i same
      exact nameFetched_acts answers (live fun other => absurd (same.symm.trans other) (by decide))
    · exact startHidDescriptor_acts answers i
    · exact hidDescriptorFetched_acts answers i
    · rename_i same
      split
      · exact .refl
      · rename_i outgoing
        exact createInterrupt_acts answers
          (live fun other => absurd (same.symm.trans other) (by decide)) outgoing
    · split
      · exact .refl
      · split
        · exact setReady_acts i
        · exact setReady_acts i
        · exact queryStart_acts answers i
    · exact .refl

/-! ### BR/EDR events -/

theorem declined_acts (channel : UInt16) : Acts Seen t (t.request (.l2capDeclineConnection channel)) :=
  acts_request trivial

theorem removed_fresh (good : Good Seen t) (live : (t.devices i).Live) (j : Fin 4) :
    ((disconnectAndDelete answers i t).devices j).conn.btaddr ≠ (t.devices i).conn.btaddr := by
  by_cases same : j = i
  · subst same
    rw [disconnectAndDelete_self]
    exact Ne.symm live
  · rw [disconnectAndDelete_other answers same]
    exact fun twice => same (good.unique i j live twice.symm).symm

theorem existingDevice_acts {addr : BdAddr} : Acts Seen t (existingDevice answers addr t).2 := by
  unfold existingDevice
  split
  · split
    · exact disconnectAndDelete_acts answers _
    · exact .refl
  · exact .refl

theorem existingDevice_some {addr : BdAddr} (proper : addr ≠ zeroAddr)
    (known : (existingDevice answers addr t).1 = some i) : ((existingDevice answers addr t).2.devices i).Live := by
  unfold existingDevice at known ⊢
  split at known
  · rename_i j old
    split at known
    · cases known
    · rename_i unready
      cases known
      rw [if_neg unready]
      exact forAddress_live old proper
  · cases known

theorem existingDevice_none {addr : BdAddr} (good : Good Seen t) (proper : addr ≠ zeroAddr)
    (absent : (existingDevice answers addr t).1 = none) :
    uniHidDeviceGetInstanceForAddress addr (existingDevice answers addr t).2 = none := by
  unfold existingDevice at absent ⊢
  split at absent
  · rename_i j old
    split at absent
    · rename_i ready
      rw [if_pos ready]
      exact forAddress_eq_none (forAddress_some old ▸ removed_fresh answers good (forAddress_live old proper))
    · cases absent
  · assumption

theorem l2capIncomingConnection_acts (psm handle channel : UInt16) {addr : BdAddr} (proper : addr ≠ zeroAddr)
    (seen : uniBtAllowlistIsAllowedAddr t.allowList addr → Seen addr) :
    Acts Seen t (l2capIncomingConnection answers psm handle channel addr t) := by
  unfold l2capIncomingConnection
  split
  · exact declined_acts channel
  split
  · exact declined_acts channel
  rename_i listed
  have allowed := seen (not_not.mp listed)
  intro good
  have live := fun j => existingDevice_some (t := t) (i := j) answers proper
  have absent := existingDevice_none answers good proper
  have first : Acts Seen t (existingDevice answers addr t).2 := existingDevice_acts answers
  refine first.trans ?_ good
  generalize existingDevice answers addr t = found at live absent ⊢
  obtain ⟨device, t₁⟩ := found
  dsimp only at live absent ⊢
  have accepted : Acts Seen t₁ (t₁.request (.l2capAcceptConnection channel addr)) := acts_request allowed
  split
  · cases device with
    | some i =>
      dsimp only
      simp only [modify_modify]
      exact accepted.trans (acts_modify (quiet_of_live (live i rfl) rfl rfl id fun _ => rfl))
    | none =>
      cases some : uniHidDeviceCreate addr t₁ with
      | none => exact declined_acts channel
      | some entry =>
        obtain ⟨i, t₂⟩ := entry
        dsimp only
        simp only [modify_modify]
        have made : Acts Seen t₁ t₂ := by
          have same : t₂ = t₂.modify i id := by simp [Bluepad.modify]
          rw [same]
          exact create_acts some (absent rfl) proper rfl rfl (fun h => by cases h) (Or.inl allowed)
        have alive : (t₂.devices i).Live := by
          obtain ⟨-, rfl⟩ := create_some some
          rw [modify_self]
          exact proper
        refine (made.trans (acts_request (r := .l2capAcceptConnection channel addr) allowed)).trans ?_
        exact acts_modify (quiet_of_live alive rfl rfl id fun _ => rfl)
  · split
    · cases device with
      | none => exact declined_acts channel
      | some i =>
        have noted : Acts Seen t₁
            (t₁.modify i fun d => { d with conn := { d.conn with interruptCid := channel } }) :=
          acts_modify (quiet_of_live (live i rfl) rfl rfl id id)
        exact noted.trans (acts_request (r := .l2capAcceptConnection channel addr) allowed)
    · exact .refl

theorem l2capChannelOpened_acts (status : UInt8) (psm localCid : UInt16) {addr : BdAddr}
    (proper : addr ≠ zeroAddr) : Acts Seen t (l2capChannelOpened answers status psm localCid addr t) := by
  unfold l2capChannelOpened
  split
  · exact .refl
  · rename_i i found
    have live := forAddress_live found proper
    split
    · exact disconnectAndDelete_acts answers i
    · extract_lets opened
      have first : Acts Seen t opened ∧ (opened.devices i).Live := by
        unfold opened
        split
        · refine ⟨acts_modify (quiet_of_live live rfl rfl (fun h => by cases h) id), ?_⟩
          rw [modify_self]
          exact live
        · split
          · have quiet : Quiet (t.devices i) (uniBtConnSetState .l2capInterruptConnected
                { t.devices i with conn := { (t.devices i).conn with interruptCid := localCid } }) :=
              quiet_of_live live rfl rfl (fun h => by cases h) id
            refine ⟨(acts_modify quiet).trans (Act.connect i ?_).acts, ?_⟩
            · rw [modify_self]
              exact live
            · unfold uniHidDeviceConnect uniHidDeviceOnConnected
              rw [call_devices, modify_self, modify_self]
              exact live
          · exact ⟨.refl, live⟩
      exact first.1.trans (processFsm_acts answers (Or.inl first.2))

theorem l2capChannelClosed_acts (localCid : UInt16) : Acts Seen t (l2capChannelClosed answers localCid t) := by
  unfold l2capChannelClosed
  split
  · exact .refl
  · exact disconnectAndDelete_acts answers _

theorem l2capDataPacket_acts (channel : UInt16) (packet : List UInt8) (parsed : Parsed) :
    Acts Seen t (l2capDataPacket channel packet parsed t) := by
  unfold l2capDataPacket
  split
  · exact .refl
  · rename_i i found
    dsimp only
    split
    · exact .refl
    · split
      · split
        · exact parsed_acts parsed i
        · exact .refl
      · split
        · exact .refl
        · split
          · exact .refl
          · exact (parsed_acts parsed i).trans (processController_acts i)

theorem discovered_allowed {l : AllowList} {addr : BdAddr} {cod : UInt16} {rssi : UInt8}
    (discovered : uniHidDeviceOnDeviceDiscovered l addr cod rssi) : uniBtAllowlistIsAllowedAddr l addr := by
  simp only [uniHidDeviceOnDeviceDiscovered, Bool.and_eq_true] at discovered
  exact discovered.1.1

theorem gapInquiryResult_acts (mode : UInt8) (offset : UInt16) (cod : UInt32) (rssi : UInt8)
    (nameBytes : List UInt8) {addr : BdAddr} (proper : addr ≠ zeroAddr)
    (seen : uniBtAllowlistIsAllowedAddr t.allowList addr → Seen addr) :
    Acts Seen t (gapInquiryResult answers addr mode offset cod rssi nameBytes t) := by
  unfold gapInquiryResult
  split
  · exact .refl
  · rename_i supported
    have allowed := seen (discovered_allowed (not_not.mp supported))
    split
    · rename_i i found
      split
      · exact .refl
      · exact processFsm_acts answers (Or.inl (forAddress_live found proper))
    · rename_i absent
      split
      · exact .refl
      · rename_i i t₁ some
        extract_lets discovered classed paged named
        have first : Acts Seen t paged := by
          unfold paged classed discovered
          simp only [modify_modify]
          exact create_acts some absent proper rfl rfl (fun h => by cases h) (Or.inl allowed)
        have alive : (paged.devices i).Live := by
          obtain ⟨-, rfl⟩ := create_some some
          unfold paged classed discovered
          simp only [modify_modify, modify_self]
          exact proper
        have second : Acts Seen t named ∧ (named.devices i).Live := by
          unfold named
          split
          · rw [modify_modify]
            refine ⟨first.trans (acts_modify (quiet_of_live alive rfl rfl (fun h => by cases h) id)), ?_⟩
            rw [modify_self]
            exact alive
          · exact ⟨first, alive⟩
        exact second.1.trans (processFsm_acts answers (Or.inl second.2))

theorem hciConnectionRequest_acts {addr : BdAddr} (cod : UInt32) (proper : addr ≠ zeroAddr) :
    Acts Seen t (hciConnectionRequest addr cod t) := by
  unfold hciConnectionRequest
  cases known : uniHidDeviceGetInstanceForAddress addr t with
  | some i =>
    dsimp only
    rw [modify_modify]
    exact acts_modify (quiet_of_live (forAddress_live known proper) rfl rfl id fun _ => rfl)
  | none =>
    cases some : uniHidDeviceCreate addr t with
    | none => exact .refl
    | some entry =>
      dsimp only
      rw [modify_modify]
      exact create_acts some known proper rfl rfl (fun h => by cases h) (Or.inr rfl)

theorem hciConnectionComplete_acts (status : UInt8) {addr : BdAddr} (handle : UInt16)
    (proper : addr ≠ zeroAddr) : Acts Seen t (hciConnectionComplete status addr handle t) := by
  unfold hciConnectionComplete
  split
  · exact .refl
  · split
    · exact .refl
    · rename_i i found
      exact acts_modify (quiet_of_live (forAddress_live found proper) rfl rfl id id)

theorem hciDisconnectionComplete_acts (handle : UInt16) :
    Acts Seen t (hciDisconnectionComplete answers handle t) := by
  unfold hciDisconnectionComplete
  split
  · exact .refl
  · exact disconnectAndDelete_acts answers _

theorem hciRemoteNameRequestComplete_acts (status : UInt8) {addr : BdAddr} (nameBytes : List UInt8)
    (proper : addr ≠ zeroAddr) :
    Acts Seen t (hciRemoteNameRequestComplete answers status addr nameBytes t) := by
  unfold hciRemoteNameRequestComplete
  split
  · exact .refl
  · rename_i i found
    have live := forAddress_live found proper
    extract_lets name named processed
    have first : Acts Seen t named := acts_modify (quiet_of_live live rfl rfl id id)
    have alive : (named.devices i).Live := by
      unfold named
      rw [modify_self]
      exact live
    have second : Acts Seen t processed := by
      unfold processed
      split
      · have fetched : Acts Seen named (named.modify i (uniBtConnSetState .remoteNameFetched)) :=
          acts_modify (setState_quiet (by decide))
        refine (first.trans fetched).trans (processFsm_acts answers (Or.inl ?_))
        rw [modify_self]
        exact alive
      · exact first
    refine second.trans (acts_modify ⟨rfl, rfl, id, id, fun _ ⟨a, b, c, e, _⟩ => ⟨a, b, c, e, rfl⟩⟩)

/-! ### SDP answers -/

theorem setHidDescriptor_acts (i : Fin 4) {descriptor : List UInt8}
    (fits : descriptor.length ≤ hidMaxDescriptorLen) :
    Acts Seen t (uniHidDeviceSetHidDescriptor answers i descriptor t) := by
  rw [uniHidDeviceSetHidDescriptor, if_pos fits]
  exact acts_inert ⟨⟨rfl, rfl, rfl, rfl, rfl⟩, rfl, rfl, rfl⟩

theorem sdpHidDescriptor_acts {descriptor : List UInt8} (fits : descriptor.length ≤ hidMaxDescriptorLen) :
    Acts Seen t (sdpHidDescriptor answers descriptor t) := by
  unfold sdpHidDescriptor
  split
  · exact .refl
  · exact setHidDescriptor_acts answers _ fits

theorem sdpHidQueryComplete_acts : Acts Seen t (sdpHidQueryComplete answers t) := by
  unfold sdpHidQueryComplete
  split
  · exact .refl
  · exact queryEnd_acts answers _

theorem sdpVendorId_acts (vendorId : UInt16) : Acts Seen t (sdpVendorId vendorId t) := by
  unfold sdpVendorId
  split
  · exact .refl
  · exact acts_inert (setVendorId_inert vendorId)

theorem sdpProductId_acts (productId : UInt16) : Acts Seen t (sdpProductId productId t) := by
  unfold sdpProductId
  split
  · exact .refl
  · exact acts_inert ⟨⟨rfl, rfl, rfl, rfl, rfl⟩, rfl, rfl, rfl⟩

theorem sdpPidQueryComplete_acts : Acts Seen t (sdpPidQueryComplete answers t) := by
  unfold sdpPidQueryComplete
  split
  · exact .refl
  · rename_i i held
    extract_lets guessed
    have first : Acts Seen t guessed := acts_inert (guessFromPidVid_inert answers.uniGuessControllerType)
    have second : Acts Seen guessed (guessed.modify i (uniBtConnSetState .sdpVendorFetched)) :=
      acts_modify (setState_quiet (by decide))
    refine (first.trans second).trans (processFsm_acts answers (Or.inr ?_))
    rw [modify_self]
    rfl

/-! ### BLE events -/

theorem gapAdvertisingReport_acts {addr : BdAddr} (appearance : Appearance) (rssi : UInt8) (name : Name)
    (proper : addr ≠ zeroAddr) (seen : uniBtAllowlistIsAllowedAddr t.allowList addr → Seen addr) :
    Acts Seen t (gapAdvertisingReport addr appearance rssi name t) := by
  unfold gapAdvertisingReport
  split
  · exact .refl
  · rename_i absent
    split
    · exact .refl
    · split
      · exact .refl
      · rename_i supported
        have allowed := seen (discovered_allowed (not_not.mp supported))
        split
        · exact .refl
        · rename_i i t₁ some
          dsimp only
          simp only [modify_modify]
          refine Acts.trans ?_ (acts_request (r := .gapConnect addr) allowed)
          exact create_acts some (not_not.mp absent) proper rfl rfl (fun h => by cases h) (Or.inl allowed)

theorem leConnectionComplete_acts {addr : BdAddr} (handle : UInt16) (proper : addr ≠ zeroAddr) :
    Acts Seen t (leConnectionComplete addr handle t) := by
  unfold leConnectionComplete
  split
  · exact .refl
  · rename_i i found
    exact acts_modify (quiet_of_live (forAddress_live found proper) rfl rfl id id)

theorem encryptionChange_acts (handle : UInt16) (enabled : Bool) :
    Acts Seen t (encryptionChange answers handle enabled t) := by
  unfold encryptionChange
  split
  · exact .refl
  · split
    · exact .refl
    · split
      · exact .refl
      · split
        · exact .refl
        · exact hogDisconnect_acts answers handle

theorem smReencryptionComplete_acts (status : UInt8) (handle : UInt16) :
    Acts Seen t (smReencryptionComplete answers status handle t) := by
  unfold smReencryptionComplete
  split
  · exact hogDisconnect_acts answers handle
  · exact .refl

theorem smPairingComplete_acts (addr : BdAddr) (handle : UInt16) :
    Acts Seen t (smPairingComplete answers addr handle t) := by
  unfold smPairingComplete
  split
  · exact hogDisconnect_acts answers handle
  · exact .refl

theorem pnpId_acts (handle vendorId productId : UInt16) : Acts Seen t (pnpId handle vendorId productId t) := by
  unfold pnpId
  split
  · exact .refl
  · rw [modify_modify]
    exact acts_inert (setVidPid_inert vendorId productId)

theorem deviceInformationDone_acts (status : UInt8) (handle : UInt16) :
    Acts Seen t (deviceInformationDone answers status handle t) := by
  unfold deviceInformationDone
  split
  · exact hogDisconnect_acts answers handle
  · split
    · exact .refl
    · rename_i i found
      split
      split
      · exact hogDisconnect_acts answers handle
      · exact fun good => acts_modify (quiet_of_live (forHandle_live good found) rfl rfl id id) good

theorem hidServiceConnected_acts (status : UInt8) {cid : UInt16} (valid : cid ≠ 0xffff) :
    Acts Seen t (hidServiceConnected answers status cid t) := by
  unfold hidServiceConnected
  split
  · exact .refl
  · split
    · exact .refl
    · rename_i i found
      intro good
      have live := forHidsCid_live good valid found
      extract_lets guessed
      have inert := guessFromPidVid_inert answers.uniGuessControllerType (d := t.devices i)
      have first : Acts Seen t guessed := acts_inert inert
      have alive : (guessed.devices i).Live := by
        unfold guessed
        rw [modify_self, HidDevice.Live, inert.conn.1]
        exact live
      exact ((first.trans (Act.connect i alive).acts).trans (setReady_acts i)) good

theorem hidReport_acts (cid : UInt16) {descriptor : List UInt8} (fits : descriptor.length ≤ hidMaxDescriptorLen)
    (parsed : Parsed) : Acts Seen t (hidReport answers cid descriptor parsed t) := by
  unfold hidReport
  split
  · exact .refl
  · rename_i i found
    extract_lets described
    have first : Acts Seen t described := by
      unfold described
      split
      · exact setHidDescriptor_acts answers i fits
      · exact .refl
    exact (first.trans (parsed_acts parsed i)).trans (processController_acts i)

/-! ### Timers -/

theorem deviceConnectionTimeout_acts (i : Fin 4) : Acts Seen t (deviceConnectionTimeout answers i t) := by
  unfold deviceConnectionTimeout
  split
  · exact .refl
  · extract_lets fired
    have first : Acts Seen t fired := acts_inert ⟨⟨rfl, rfl, rfl, rfl, rfl⟩, rfl, rfl, rfl⟩
    split
    · exact first
    · exact first.trans (disconnectAndDelete_acts answers i)

theorem inquiryRemoteNameTimeout_acts (i : Fin 4) : Acts Seen t (inquiryRemoteNameTimeout answers i t) := by
  unfold inquiryRemoteNameTimeout
  split
  · exact .refl
  · rename_i runs
    intro good
    have live : (t.devices i).Live := by
      by_contra free
      exact runs (by simp [(good.blank i free).inquiryRemoteNameTimer])
    dsimp only
    simp only [modify_modify]
    refine Acts.trans (acts_modify ?_) (processFsm_acts answers (Or.inl ?_)) good
    · exact quiet_of_live live rfl rfl (fun h => by cases h) id
    · rw [modify_self]
      exact live

theorem sdpQueryTimeout_acts : Acts Seen t (sdpQueryTimeout t) := by
  unfold sdpQueryTimeout
  split
  · exact .refl
  · dsimp only
    split
    · exact (Act.setSdp _).acts.trans (Act.setSdp _).acts
    · exact (Act.setSdp _).acts

/-! ### Every event, and every run -/

/-- A zero address marks a free entry and `0xffff` a device without a BLE client, so BTstack is taken to name
neither. A HID descriptor that does not fit would overwrite the entry. -/
def Packet.Proper : Packet → Prop
  | .gapInquiryResult addr _ _ _ _ _ | .hciConnectionRequest addr _ | .hciConnectionComplete _ addr _
  | .hciRemoteNameRequestComplete _ addr _ | .l2capIncomingConnection _ _ _ addr
  | .l2capChannelOpened _ _ _ addr | .gapAdvertisingReport addr _ _ _ | .leConnectionComplete addr _ =>
    addr ≠ zeroAddr
  | .hidServiceConnected _ cid => cid ≠ 0xffff
  | .sdpHidDescriptor descriptor | .hidReport _ descriptor _ => descriptor.length ≤ hidMaxDescriptorLen
  | _ => True

theorem apply_acts {e : RadioEvent} (proper : e.packet.Proper)
    (seen : ∀ addr, uniBtAllowlistIsAllowedAddr t.allowList addr → Seen addr) : Acts Seen t (e.apply t) := by
  obtain ⟨answers, packet⟩ := e
  cases packet with
  | gapInquiryResult addr => exact gapInquiryResult_acts answers _ _ _ _ _ proper (seen addr)
  | hciConnectionRequest => exact hciConnectionRequest_acts _ proper
  | hciConnectionComplete => exact hciConnectionComplete_acts _ _ proper
  | hciDisconnectionComplete => exact hciDisconnectionComplete_acts answers _
  | hciRemoteNameRequestComplete => exact hciRemoteNameRequestComplete_acts answers _ _ proper
  | l2capIncomingConnection psm handle channel addr =>
    exact l2capIncomingConnection_acts answers _ _ _ proper (seen addr)
  | l2capChannelOpened => exact l2capChannelOpened_acts answers _ _ _ proper
  | l2capChannelClosed => exact l2capChannelClosed_acts answers _
  | l2capDataPacket => exact l2capDataPacket_acts _ _ _
  | sdpVendorId => exact sdpVendorId_acts _
  | sdpProductId => exact sdpProductId_acts _
  | sdpPidQueryComplete => exact sdpPidQueryComplete_acts answers
  | sdpHidDescriptor => exact sdpHidDescriptor_acts answers proper
  | sdpHidQueryComplete => exact sdpHidQueryComplete_acts answers
  | gapAdvertisingReport addr => exact gapAdvertisingReport_acts _ _ _ proper (seen addr)
  | leConnectionComplete => exact leConnectionComplete_acts _ proper
  | encryptionChange => exact encryptionChange_acts answers _ _
  | smReencryptionComplete => exact smReencryptionComplete_acts answers _ _
  | smPairingComplete => exact smPairingComplete_acts answers _ _
  | pnpId => exact pnpId_acts _ _ _
  | deviceInformationDone => exact deviceInformationDone_acts answers _ _
  | hidServiceConnected => exact hidServiceConnected_acts answers _ proper
  | hidReport => exact hidReport_acts answers _ proper _
  | parserReady i => exact setReadyComplete_acts i
  | deviceConnectionTimeout i => exact deviceConnectionTimeout_acts answers i
  | inquiryRemoteNameTimeout i => exact inquiryRemoteNameTimeout_acts answers i
  | sdpQueryTimeout => exact sdpQueryTimeout_acts
  | disconnectDevice i => exact disconnectAndDelete_acts answers i
  | allowIncomingConnections allow => exact (Act.configure allow _).acts
  | allowlistAdd | allowlistRemove | allowlistEnable => exact (Act.configure _ _).acts

theorem bleGamepad_proper : ∀ e ∈ bleGamepad, e.packet.Proper := by
  have proper : someAddr ≠ zeroAddr ∧ (1 : UInt16) ≠ 0xffff := by decide
  simpa [bleGamepad, Packet.Proper] using proper

/-- The addresses that the allow list let through at some moment of a run. -/
def AllowedIn (l : AllowList) (es : List RadioEvent) (addr : BdAddr) : Prop :=
  ∃ before, before <+: es ∧ uniBtAllowlistIsAllowedAddr ((bluepad l).run before).allowList addr

theorem allowedIn_snoc {l : AllowList} {es : List RadioEvent} {e : RadioEvent} {addr : BdAddr}
    (allowed : AllowedIn l es addr) : AllowedIn l (es ++ [e]) addr := by
  obtain ⟨before, part, listed⟩ := allowed
  exact ⟨before, part.trans (List.prefix_append es [e]), listed⟩

theorem Request.Allowed.mono {Seen' : BdAddr → Prop} (more : ∀ addr, Seen addr → Seen' addr) {r : Request}
    (allowed : r.Allowed Seen) : r.Allowed Seen' := by
  cases r with
  | l2capAcceptConnection _ addr | l2capCreateChannel addr | gapConnect addr => exact more addr allowed
  | _ => trivial

theorem Good.mono {Seen' : BdAddr → Prop} (more : ∀ addr, Seen addr → Seen' addr) (good : Good Seen t) :
    Good Seen' t :=
  ⟨good.blank, good.unique, fun i live => (good.asked i live).imp (more _) id,
    fun r member => (good.requests r member).mono more⟩

theorem good_boot (l : AllowList) : Good Seen (bluepad l).init where
  blank _ _ := blank_init
  unique _ _ live := (init_not_live live).elim
  asked _ live := (init_not_live live).elim
  requests _ member := absurd member List.not_mem_nil

theorem run_acts (l : AllowList) {es : List RadioEvent} (e : RadioEvent) (proper : e.packet.Proper)
    (good : Good (AllowedIn l es) ((bluepad l).run es)) :
    Good (AllowedIn l (es ++ [e])) ((bluepad l).run es) ∧
      ReflTransGen (Act (AllowedIn l (es ++ [e]))) ((bluepad l).run es)
        ((bluepad l).step ((bluepad l).run es) e) := by
  have before := good.mono (fun _ => allowedIn_snoc (e := e))
  refine ⟨before, apply_acts proper (fun addr listed => ?_) before⟩
  exact ⟨es, List.prefix_append es [e], listed⟩

theorem run_good (l : AllowList) {es : List RadioEvent} (proper : ∀ e ∈ es, e.packet.Proper) :
    Good (AllowedIn l es) ((bluepad l).run es) := by
  refine Machine.run_allowed (M := bluepad l) (P := fun es t => Good (AllowedIn l es) t)
    (good_boot l) (fun es e ok good => ?_) proper
  obtain ⟨before, acts⟩ := run_acts l e ok good
  exact good_acts before acts

/-- Channels are only accepted and created, and BLE connections only opened, for addresses that the allow
list has let through before. An entry of the table holds such an address, or one that asked for a
connection. -/
theorem opens_only_allowed (l : AllowList) {es : List RadioEvent} (proper : ∀ e ∈ es, e.packet.Proper) :
    (∀ r ∈ ((bluepad l).run es).requests, r.Allowed (AllowedIn l es)) ∧
      ∀ i, (((bluepad l).run es).devices i).Live →
        AllowedIn l es (((bluepad l).run es).devices i).conn.btaddr ∨
          (((bluepad l).run es).devices i).conn.incoming :=
  ⟨(run_good l proper).requests, (run_good l proper).asked⟩

theorem opens_only_allowed_gamepad :
    (∀ r ∈ ((bluepad .zero).run bleGamepad).requests, r.Allowed (AllowedIn .zero bleGamepad)) ∧
      ∀ i, (((bluepad .zero).run bleGamepad).devices i).Live →
        AllowedIn .zero bleGamepad (((bluepad .zero).run bleGamepad).devices i).conn.btaddr ∨
          (((bluepad .zero).run bleGamepad).devices i).conn.incoming :=
  opens_only_allowed .zero bleGamepad_proper

end BukkisDrone.Bluetooth
