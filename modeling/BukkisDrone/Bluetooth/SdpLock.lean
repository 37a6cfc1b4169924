import BukkisDrone.Bluetooth.Connection

/-!
# The SDP lock

BTstack runs one SDP query at a time, so `sdp_device` names the device that asks, and a timer of 13
seconds frees it. A query for the HID descriptor that fails to start stops the timer and leaves the lock.
-/

namespace BukkisDrone.Bluetooth
open Runs

variable {t : Bluepad} {i : Fin 4} (answers : Answers)

/-! ### Who leaves the lock alone -/

@[simp] theorem modify_sdp (i : Fin 4) (f : HidDevice → HidDevice) (t : Bluepad) : (t.modify i f).sdp = t.sdp :=
  rfl

@[simp] theorem call_sdp (cb : Callback (Fin 4)) (t : Bluepad) : (t.call cb).sdp = t.sdp := rfl

@[simp] theorem request_sdp (r : Request) (t : Bluepad) : (t.request r).sdp = t.sdp := rfl

@[simp] theorem setSdp_sdp (sdp : Sdp) (t : Bluepad) : (t.setSdp sdp).sdp = sdp := rfl

@[simp] theorem hogDisconnect_sdp (handle : UInt16) : (hogDisconnect answers handle t).sdp = t.sdp := by
  unfold hogDisconnect
  split <;> rfl

@[simp] theorem bredrDisconnect_sdp (i : Fin 4) : (uniBtBredrDisconnect answers i t).sdp = t.sdp := by
  unfold uniBtBredrDisconnect
  extract_lets conn cleared
  have first : cleared.sdp = t.sdp := by
    unfold cleared
    split <;> rfl
  split
  · rfl
  · split <;> exact first

@[simp] theorem disconnectAndDelete_sdp (i : Fin 4) : (disconnectAndDelete answers i t).sdp = t.sdp := by
  unfold disconnectAndDelete uniHidDeviceDelete uniHidDeviceDisconnect
  extract_lets connected dropped cleared
  have first : dropped.sdp = t.sdp := by
    unfold dropped
    split
    · exact hogDisconnect_sdp answers _
    · exact bredrDisconnect_sdp answers i
    · rfl
  split <;> exact first

@[simp] theorem setReadyComplete_sdp (i : Fin 4) : (uniHidDeviceSetReadyComplete i t).sdp = t.sdp := by
  unfold uniHidDeviceSetReadyComplete
  split <;> rfl

@[simp] theorem setHidDescriptor_sdp (i : Fin 4) (descriptor : List UInt8) :
    (uniHidDeviceSetHidDescriptor answers i descriptor t).sdp = t.sdp := by
  unfold uniHidDeviceSetHidDescriptor
  split <;> rfl

@[simp] theorem setReady_sdp (i : Fin 4) : (uniHidDeviceSetReady i t).sdp = t.sdp := by
  unfold uniHidDeviceSetReady
  split
  · rfl
  · extract_lets pending
    split
    · exact setReadyComplete_sdp i
    · exact setReadyComplete_sdp i
    · rfl

@[simp] theorem processController_sdp (i : Fin 4) : (uniHidDeviceProcessController i t).sdp = t.sdp := by
  unfold uniHidDeviceProcessController
  extract_lets d
  split <;> rfl

@[simp] theorem parsed_sdp (parsed : Parsed) (i : Fin 4) : (parsed.apply i t).sdp = t.sdp := by
  unfold Parsed.apply
  extract_lets held
  split
  · exact setReadyComplete_sdp i
  · rfl

@[simp] theorem createControl_sdp (i : Fin 4) : (l2capCreateControlConnection answers i t).sdp = t.sdp := by
  unfold l2capCreateControlConnection
  split
  split <;> rfl

@[simp] theorem createInterrupt_sdp (i : Fin 4) : (l2capCreateInterruptConnection answers i t).sdp = t.sdp := by
  unfold l2capCreateInterruptConnection
  split
  split <;> rfl

@[simp] theorem requestName_sdp (i : Fin 4) : (requestName i t).sdp = t.sdp := rfl

@[simp] theorem hidDescriptorFetched_sdp (i : Fin 4) : (processHidDescriptorFetched answers i t).sdp = t.sdp := by
  unfold processHidDescriptorFetched
  extract_lets d
  split
  · exact setReady_sdp i
  · split
    · exact createControl_sdp answers i
    · exact setReady_sdp i

theorem create_sdp {addr : BdAddr} {t' : Bluepad} (some : uniHidDeviceCreate addr t = some (i, t')) :
    t'.sdp = t.sdp := by
  unfold uniHidDeviceCreate at some
  split at some
  · cases some
    rfl
  · cases some

/-! ### The timer runs while the lock is held -/

/-- The timer runs for the device that holds the lock. -/
def Timed (sdp : Sdp) : Prop := sdp.device ≠ none → sdp.queryTimer = sdp.device

theorem timed_free (queryTimer : Option (Fin 4)) : Timed ⟨none, queryTimer⟩ := fun held => (held rfl).elim

theorem startVidPid_sdp (i : Fin 4) : (uniBtSdpQueryStartVidPid answers i t).sdp = t.sdp := by
  unfold uniBtSdpQueryStartVidPid
  extract_lets waiting asked
  split
  · exact disconnectAndDelete_sdp answers i
  · rfl

theorem queryStart_timed (timed : Timed t.sdp) (i : Fin 4) : Timed (uniBtSdpQueryStart answers i t).sdp := by
  unfold uniBtSdpQueryStart
  split
  · rwa [disconnectAndDelete_sdp]
  · rw [startVidPid_sdp]
    exact fun _ => rfl

theorem queryEnd_timed (i : Fin 4) : Timed (uniBtSdpQueryEnd answers i t).sdp := by
  unfold uniBtSdpQueryEnd
  rw [hidDescriptorFetched_sdp]
  exact timed_free none

theorem startHidDescriptor_timed (starts : answers.sdpClientQuery .humanInterfaceDevice = 0)
    (timed : Timed t.sdp) (i : Fin 4) : Timed (uniBtSdpQueryStartHidDescriptor answers i t).sdp := by
  unfold uniBtSdpQueryStartHidDescriptor
  split
  · exact queryEnd_timed answers i
  · split
    · exact timed
    · rw [if_neg (not_not.mpr starts)]
      exact timed

theorem nameFetched_timed (timed : Timed t.sdp) (i : Fin 4) : Timed (processNameFetched answers i t).sdp := by
  unfold processNameFetched
  extract_lets d guessed named
  have same : guessed.sdp = t.sdp := by
    unfold guessed
    split <;> rfl
  split
  · refine queryStart_timed answers ?_ i
    exact timed
  · split
    · split
      · rwa [setReady_sdp, same]
      · exact queryStart_timed answers (same ▸ timed) i
    · rwa [createControl_sdp, same]

theorem processFsm_timed (starts : answers.sdpClientQuery .humanInterfaceDevice = 0)
    (timed : Timed t.sdp) (i : Fin 4) : Timed (uniBtBredrProcessFsm answers i t).sdp := by
  unfold uniBtBredrProcessFsm
  dsimp only
  split
  · exact timed
  · split
    · exact nameFetched_timed answers timed i
    · exact startHidDescriptor_timed answers starts timed i
    · rwa [hidDescriptorFetched_sdp]
    · split
      · exact timed
      · rwa [createInterrupt_sdp]
    · split
      · exact timed
      · split
        · rwa [setReady_sdp]
        · rwa [setReady_sdp]
        · exact queryStart_timed answers timed i
    · exact timed

/-! ### Every event -/

theorem existingDevice_sdp (addr : BdAddr) : (existingDevice answers addr t).2.sdp = t.sdp := by
  unfold existingDevice
  split
  · split
    · exact disconnectAndDelete_sdp answers _
    · rfl
  · rfl

theorem l2capIncomingConnection_sdp (psm handle channel : UInt16) (addr : BdAddr) :
    (l2capIncomingConnection answers psm handle channel addr t).sdp = t.sdp := by
  unfold l2capIncomingConnection
  split
  · rfl
  split
  · rfl
  have known := existingDevice_sdp answers (t := t) addr
  generalize existingDevice answers addr t = found at known ⊢
  obtain ⟨device, t₁⟩ := found
  dsimp only at known ⊢
  split
  · cases device with
    | some i => exact known
    | none =>
      cases some : uniHidDeviceCreate addr t₁ with
      | none => exact known
      | some entry => exact (create_sdp some).trans known
  · split
    · cases device <;> exact known
    · exact known

theorem l2capChannelOpened_timed (starts : answers.sdpClientQuery .humanInterfaceDevice = 0)
    (timed : Timed t.sdp) (status : UInt8) (psm localCid : UInt16) (addr : BdAddr) :
    Timed (l2capChannelOpened answers status psm localCid addr t).sdp := by
  unfold l2capChannelOpened
  split
  · exact timed
  · split
    · rwa [disconnectAndDelete_sdp]
    · extract_lets opened
      have same : opened.sdp = t.sdp := by
        unfold opened
        split
        · rfl
        · split <;> rfl
      exact processFsm_timed answers starts (same ▸ timed) _

theorem l2capDataPacket_sdp (channel : UInt16) (packet : List UInt8) (parsed : Parsed) :
    (l2capDataPacket channel packet parsed t).sdp = t.sdp := by
  unfold l2capDataPacket
  split
  · rfl
  · dsimp only
    repeat' split
    all_goals first | rfl | exact parsed_sdp parsed _ | skip
    rw [processController_sdp, parsed_sdp]

theorem gapInquiryResult_timed (starts : answers.sdpClientQuery .humanInterfaceDevice = 0)
    (timed : Timed t.sdp) (addr : BdAddr) (mode : UInt8) (offset : UInt16) (cod : UInt32) (rssi : UInt8)
    (nameBytes : List UInt8) : Timed (gapInquiryResult answers addr mode offset cod rssi nameBytes t).sdp := by
  unfold gapInquiryResult
  split
  · exact timed
  · split
    · split
      · exact timed
      · exact processFsm_timed answers starts timed _
    · split
      · exact timed
      · rename_i i t₁ some
        extract_lets discovered classed paged named
        have same : named.sdp = t.sdp := by
          refine Eq.trans ?_ (create_sdp some)
          unfold named
          split <;> rfl
        exact processFsm_timed answers starts (same ▸ timed) i

theorem hciConnectionRequest_sdp (addr : BdAddr) (cod : UInt32) :
    (hciConnectionRequest addr cod t).sdp = t.sdp := by
  unfold hciConnectionRequest
  cases uniHidDeviceGetInstanceForAddress addr t with
  | some i => rfl
  | none =>
    cases some : uniHidDeviceCreate addr t with
    | none => rfl
    | some entry =>
      have same := create_sdp some
      exact same

theorem hciRemoteNameRequestComplete_timed (starts : answers.sdpClientQuery .humanInterfaceDevice = 0)
    (timed : Timed t.sdp) (status : UInt8) (addr : BdAddr) (nameBytes : List UInt8) :
    Timed (hciRemoteNameRequestComplete answers status addr nameBytes t).sdp := by
  unfold hciRemoteNameRequestComplete
  split
  · exact timed
  · extract_lets name named processed
    have second : Timed processed.sdp := by
      unfold processed
      split
      · refine processFsm_timed answers starts ?_ _
        exact timed
      · exact timed
    exact second

theorem gapAdvertisingReport_sdp (addr : BdAddr) (appearance : Appearance) (rssi : UInt8) (name : Name) :
    (gapAdvertisingReport addr appearance rssi name t).sdp = t.sdp := by
  unfold gapAdvertisingReport
  repeat' split
  all_goals first | rfl | skip
  rename_i some
  have same := create_sdp some
  exact same

theorem inquiryRemoteNameTimeout_timed (starts : answers.sdpClientQuery .humanInterfaceDevice = 0)
    (timed : Timed t.sdp) (i : Fin 4) : Timed (inquiryRemoteNameTimeout answers i t).sdp := by
  unfold inquiryRemoteNameTimeout
  split
  · exact timed
  · refine processFsm_timed answers starts ?_ i
    exact timed

theorem sdpPidQueryComplete_timed (starts : answers.sdpClientQuery .humanInterfaceDevice = 0)
    (timed : Timed t.sdp) : Timed (sdpPidQueryComplete answers t).sdp := by
  unfold sdpPidQueryComplete
  split
  · exact timed
  · refine processFsm_timed answers starts ?_ _
    exact timed

theorem sdpQueryTimeout_timed (timed : Timed t.sdp) : Timed (sdpQueryTimeout t).sdp := by
  unfold sdpQueryTimeout
  split
  · exact timed
  · rename_i i runs
    dsimp only
    split
    · exact timed_free none
    · rename_i other
      intro held
      exact (other ((timed held).symm.trans runs)).elim

theorem apply_timed {e : RadioEvent} (starts : e.answers.sdpClientQuery .humanInterfaceDevice = 0)
    (timed : Timed t.sdp) : Timed (e.apply t).sdp := by
  obtain ⟨answers, packet⟩ := e
  have keep : ∀ t' : Bluepad, t'.sdp = t.sdp → Timed t'.sdp := fun t' same => same ▸ timed
  cases packet with
  | gapInquiryResult => exact gapInquiryResult_timed answers starts timed _ _ _ _ _ _
  | hciConnectionRequest => exact keep _ (hciConnectionRequest_sdp _ _)
  | l2capIncomingConnection => exact keep _ (l2capIncomingConnection_sdp answers _ _ _ _)
  | l2capChannelOpened => exact l2capChannelOpened_timed answers starts timed _ _ _ _
  | l2capDataPacket => exact keep _ (l2capDataPacket_sdp _ _ _)
  | hciRemoteNameRequestComplete => exact hciRemoteNameRequestComplete_timed answers starts timed _ _ _
  | sdpPidQueryComplete => exact sdpPidQueryComplete_timed answers starts timed
  | sdpHidQueryComplete =>
    simp only [RadioEvent.apply, sdpHidQueryComplete]
    split
    · exact timed
    · exact queryEnd_timed answers _
  | gapAdvertisingReport => exact keep _ (gapAdvertisingReport_sdp _ _ _ _)
  | inquiryRemoteNameTimeout i => exact inquiryRemoteNameTimeout_timed answers starts timed i
  | sdpQueryTimeout => exact sdpQueryTimeout_timed timed
  | parserReady i => exact keep _ (setReadyComplete_sdp i)
  | disconnectDevice i => exact keep _ (disconnectAndDelete_sdp answers i)
  | allowIncomingConnections | allowlistAdd | allowlistRemove | allowlistEnable => exact timed
  | hciConnectionComplete | hciDisconnectionComplete | l2capChannelClosed | sdpVendorId | sdpProductId
  | sdpHidDescriptor | leConnectionComplete | encryptionChange | smReencryptionComplete | smPairingComplete
  | pnpId | deviceInformationDone | hidServiceConnected | hidReport | deviceConnectionTimeout =>
    refine keep _ ?_
    simp only [RadioEvent.apply, hciConnectionComplete, hciDisconnectionComplete, l2capChannelClosed, sdpVendorId,
      sdpProductId, sdpHidDescriptor, leConnectionComplete, encryptionChange, smReencryptionComplete,
      smPairingComplete, pnpId, deviceInformationDone, hidServiceConnected, hidReport, deviceConnectionTimeout]
    repeat' split
    all_goals simp [uniHidDeviceConnect, uniHidDeviceOnConnected]

/-- While no query for a HID descriptor fails to start, the lock is only held with its timer running, so the
timeout frees it. A HID descriptor that overruns its entry does not reach the lock. -/
theorem sdp_lock_timed (l : AllowList) {es : List RadioEvent}
    (starts : ∀ e ∈ es, e.answers.sdpClientQuery .humanInterfaceDevice = 0) :
    Timed ((bluepad l).run es).sdp ∧ (sdpQueryTimeout ((bluepad l).run es)).sdp.device = none := by
  have timed : Timed ((bluepad l).run es).sdp :=
    Machine.run_invariant (M := bluepad l) (I := fun t => Timed t.sdp) (timed_free none)
      (fun _ _ starts timed => apply_timed starts timed) starts
  refine ⟨timed, ?_⟩
  generalize (bluepad l).run es = t at timed
  unfold sdpQueryTimeout
  split
  · rename_i stopped
    by_contra held
    exact held ((timed held).symm.trans stopped)
  · rename_i i runs
    dsimp only
    split
    · rfl
    · rename_i other
      by_contra held
      exact other ((timed held).symm.trans runs)

/-- The query for the vendor and product ids has started, and nothing has been answered. -/
def askingClassic : List RadioEvent :=
  [.hciConnectionRequest someAddr 0x508, .l2capIncomingConnection psmHidControl 5 0x41 someAddr,
    .hciRemoteNameRequestComplete 0 someAddr (ascii "Gamepad")].map
    fun packet => ⟨Answers.willing .acl, packet⟩

theorem sdp_lock_timed_classic :
    Timed ((bluepad .zero).run askingClassic).sdp ∧
      (sdpQueryTimeout ((bluepad .zero).run askingClassic)).sdp.device = none := by
  refine sdp_lock_timed .zero fun e member => ?_
  obtain ⟨packet, -, rfl⟩ := List.mem_map.mp member
  rfl

/-- The query for the HID descriptor fails to start: the lock stays, and its timer is gone. -/
example :
    let failing : Answers := { Answers.willing .acl with
      sdpClientQuery := fun service => if service = .humanInterfaceDevice then 1 else 0 }
    ((bluepad .zero).run (askingClassic ++ [⟨failing, .sdpPidQueryComplete⟩])).sdp = ⟨some 0, none⟩ := by
  decide +kernel

end BukkisDrone.Bluetooth
