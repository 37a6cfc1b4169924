import BukkisDrone.Bluetooth.Connection

/-!
# Where reports come from

The platform is given a controller only by the handler that has just parsed a report into it. No other handler
makes a data callback.
-/

namespace BukkisDrone.Bluetooth
open Runs

def Callback.report {δ : Type*} : Callback δ → Option (δ × UniController)
  | .controllerData d ctl => some (d, ctl)
  | _ => none

def Bluepad.reports (t : Bluepad) : List (Fin 4 × UniController) := t.callbacks.filterMap Callback.report

variable {t : Bluepad} {i : Fin 4} (answers : Answers)

/-! ### Who reports nothing -/

@[simp] theorem modify_reports (i : Fin 4) (f : HidDevice → HidDevice) (t : Bluepad) :
    (t.modify i f).reports = t.reports := rfl

@[simp] theorem request_reports (r : Request) (t : Bluepad) : (t.request r).reports = t.reports := rfl

@[simp] theorem setSdp_reports (sdp : Sdp) (t : Bluepad) : (t.setSdp sdp).reports = t.reports := rfl

theorem call_reports (cb : Callback (Fin 4)) (t : Bluepad) :
    (t.call cb).reports = t.reports ++ cb.report.toList := by
  rw [Bluepad.reports, Bluepad.call, List.filterMap_append]
  cases h : cb.report <;> simp [Bluepad.reports, h]

@[simp] theorem onConnected_reports (i : Fin 4) (connected : Bool) :
    (uniHidDeviceOnConnected i connected t).reports = t.reports := by
  unfold uniHidDeviceOnConnected
  rw [call_reports]
  cases connected <;> exact List.append_nil _

@[simp] theorem connect_reports (i : Fin 4) : (uniHidDeviceConnect i t).reports = t.reports :=
  onConnected_reports i true

@[simp] theorem hogDisconnect_reports (handle : UInt16) : (hogDisconnect answers handle t).reports = t.reports := by
  unfold hogDisconnect
  split <;> rfl

@[simp] theorem bredrDisconnect_reports (i : Fin 4) : (uniBtBredrDisconnect answers i t).reports = t.reports := by
  unfold uniBtBredrDisconnect
  extract_lets conn cleared
  have first : cleared.reports = t.reports := by
    unfold cleared
    split <;> rfl
  split
  · rfl
  · split <;> exact first

@[simp] theorem disconnectAndDelete_reports (i : Fin 4) : (disconnectAndDelete answers i t).reports = t.reports := by
  unfold disconnectAndDelete uniHidDeviceDelete uniHidDeviceDisconnect
  extract_lets connected dropped cleared
  have first : dropped.reports = t.reports := by
    unfold dropped
    split
    · exact hogDisconnect_reports answers _
    · exact bredrDisconnect_reports answers i
    · rfl
  rw [modify_reports]
  split
  · rw [onConnected_reports]
    exact first
  · exact first

@[simp] theorem setHidDescriptor_reports (i : Fin 4) (descriptor : List UInt8) :
    (uniHidDeviceSetHidDescriptor answers i descriptor t).reports = t.reports := by
  unfold uniHidDeviceSetHidDescriptor
  split <;> rfl

@[simp] theorem setReadyComplete_reports (i : Fin 4) : (uniHidDeviceSetReadyComplete i t).reports = t.reports := by
  unfold uniHidDeviceSetReadyComplete
  extract_lets stopped
  split
  · rfl
  · rw [modify_reports, call_reports]
    exact List.append_nil _

@[simp] theorem setReady_reports (i : Fin 4) : (uniHidDeviceSetReady i t).reports = t.reports := by
  unfold uniHidDeviceSetReady
  split
  · rfl
  · extract_lets pending
    split
    · exact setReadyComplete_reports i
    · exact setReadyComplete_reports i
    · rfl

@[simp] theorem createControl_reports (i : Fin 4) : (l2capCreateControlConnection answers i t).reports = t.reports := by
  unfold l2capCreateControlConnection
  split
  split <;> rfl

@[simp] theorem createInterrupt_reports (i : Fin 4) :
    (l2capCreateInterruptConnection answers i t).reports = t.reports := by
  unfold l2capCreateInterruptConnection
  split
  split <;> rfl

@[simp] theorem hidDescriptorFetched_reports (i : Fin 4) :
    (processHidDescriptorFetched answers i t).reports = t.reports := by
  unfold processHidDescriptorFetched
  extract_lets d
  split
  · exact setReady_reports i
  · split
    · exact createControl_reports answers i
    · exact setReady_reports i

@[simp] theorem queryStart_reports (i : Fin 4) : (uniBtSdpQueryStart answers i t).reports = t.reports := by
  unfold uniBtSdpQueryStart uniBtSdpQueryStartVidPid
  extract_lets waiting asked
  split
  · exact disconnectAndDelete_reports answers i
  · split
    · exact disconnectAndDelete_reports answers i
    · rfl

@[simp] theorem queryEnd_reports (i : Fin 4) : (uniBtSdpQueryEnd answers i t).reports = t.reports :=
  hidDescriptorFetched_reports answers i

@[simp] theorem startHidDescriptor_reports (i : Fin 4) :
    (uniBtSdpQueryStartHidDescriptor answers i t).reports = t.reports := by
  unfold uniBtSdpQueryStartHidDescriptor
  split
  · exact queryEnd_reports answers i
  · split
    · rfl
    · extract_lets requested asked
      split
      · exact disconnectAndDelete_reports answers i
      · rfl

@[simp] theorem nameFetched_reports (i : Fin 4) : (processNameFetched answers i t).reports = t.reports := by
  unfold processNameFetched
  extract_lets d guessed named
  have same : guessed.reports = t.reports := by
    unfold guessed
    split <;> rfl
  split
  · exact queryStart_reports answers i
  · split
    · split
      · exact (setReady_reports i).trans same
      · exact (queryStart_reports answers i).trans same
    · exact (createControl_reports answers i).trans same

@[simp] theorem processFsm_reports (i : Fin 4) : (uniBtBredrProcessFsm answers i t).reports = t.reports := by
  unfold uniBtBredrProcessFsm
  dsimp only
  split
  · rfl
  · split
    · exact nameFetched_reports answers i
    · exact startHidDescriptor_reports answers i
    · exact hidDescriptorFetched_reports answers i
    · split
      · rfl
      · exact createInterrupt_reports answers i
    · split
      · rfl
      · split
        · exact setReady_reports i
        · exact setReady_reports i
        · exact queryStart_reports answers i
    · rfl

theorem create_reports {addr : BdAddr} {t' : Bluepad} (some : uniHidDeviceCreate addr t = some (i, t')) :
    t'.reports = t.reports := by
  unfold uniHidDeviceCreate at some
  split at some
  · cases some
    rfl
  · cases some

theorem existingDevice_reports (addr : BdAddr) : (existingDevice answers addr t).2.reports = t.reports := by
  unfold existingDevice
  split
  · split
    · exact disconnectAndDelete_reports answers _
    · rfl
  · rfl

theorem l2capIncomingConnection_reports (psm handle channel : UInt16) (addr : BdAddr) :
    (l2capIncomingConnection answers psm handle channel addr t).reports = t.reports := by
  unfold l2capIncomingConnection
  split
  · rfl
  split
  · rfl
  have known := existingDevice_reports answers (t := t) addr
  generalize existingDevice answers addr t = found at known ⊢
  obtain ⟨device, t₁⟩ := found
  dsimp only at known ⊢
  split
  · cases device with
    | some i => exact known
    | none =>
      cases some : uniHidDeviceCreate addr t₁ with
      | none => exact known
      | some entry => exact (create_reports some).trans known
  · split
    · cases device <;> exact known
    · exact known

theorem l2capChannelOpened_reports (status : UInt8) (psm localCid : UInt16) (addr : BdAddr) :
    (l2capChannelOpened answers status psm localCid addr t).reports = t.reports := by
  unfold l2capChannelOpened
  split
  · rfl
  · split
    · exact disconnectAndDelete_reports answers _
    · rw [processFsm_reports]
      split
      · rfl
      · split
        · exact connect_reports _
        · rfl

theorem gapInquiryResult_reports (addr : BdAddr) (mode : UInt8) (offset : UInt16) (cod : UInt32) (rssi : UInt8)
    (nameBytes : List UInt8) :
    (gapInquiryResult answers addr mode offset cod rssi nameBytes t).reports = t.reports := by
  unfold gapInquiryResult
  split
  · rfl
  · split
    · split
      · rfl
      · exact processFsm_reports answers _
    · split
      · rfl
      · rename_i i t₁ some
        rw [processFsm_reports]
        refine Eq.trans ?_ (create_reports some)
        split <;> rfl

theorem hciConnectionRequest_reports (addr : BdAddr) (cod : UInt32) :
    (hciConnectionRequest addr cod t).reports = t.reports := by
  unfold hciConnectionRequest
  cases uniHidDeviceGetInstanceForAddress addr t with
  | some i => rfl
  | none =>
    cases some : uniHidDeviceCreate addr t with
    | none => rfl
    | some entry =>
      have same := create_reports some
      exact same

theorem hciRemoteNameRequestComplete_reports (status : UInt8) (addr : BdAddr) (nameBytes : List UInt8) :
    (hciRemoteNameRequestComplete answers status addr nameBytes t).reports = t.reports := by
  unfold hciRemoteNameRequestComplete
  split
  · rfl
  · extract_lets name named processed
    rw [modify_reports]
    unfold processed
    split
    · exact processFsm_reports answers _
    · rfl

theorem gapAdvertisingReport_reports (addr : BdAddr) (appearance : Appearance) (rssi : UInt8) (name : Name) :
    (gapAdvertisingReport addr appearance rssi name t).reports = t.reports := by
  unfold gapAdvertisingReport
  repeat' split
  all_goals first | rfl | skip
  rename_i some
  have same := create_reports some
  exact same

theorem inquiryRemoteNameTimeout_reports (i : Fin 4) :
    (inquiryRemoteNameTimeout answers i t).reports = t.reports := by
  unfold inquiryRemoteNameTimeout
  split
  · rfl
  · exact processFsm_reports answers i

/-! ### Who reports -/

/-- What the parser of the device made of the report in a packet. -/
def Packet.parsed : Packet → Option Parsed
  | .l2capDataPacket _ _ parsed | .hidReport _ _ parsed => some parsed
  | _ => none

theorem parsed_reports (parsed : Parsed) (i : Fin 4) : (parsed.apply i t).reports = t.reports := by
  unfold Parsed.apply
  extract_lets held
  split
  · exact setReadyComplete_reports i
  · rfl

theorem parsed_controller (parsed : Parsed) (i : Fin 4) :
    ((parsed.apply i t).devices i).controller = parsed.controller := by
  have held (f : HidDevice → HidDevice) (t : Bluepad) : (t.modify i f).devices i = f (t.devices i) :=
    Function.update_self i _ _
  unfold Parsed.apply uniHidDeviceSetReadyComplete
  dsimp only
  split_ifs
  · rw [held]
  · rw [held, Bluepad.call, held, held]
    rfl
  · rw [held]

theorem processController_reports (parsed : Parsed) (i : Fin 4) :
    (uniHidDeviceProcessController i (parsed.apply i t)).reports = t.reports ∨
      (uniHidDeviceProcessController i (parsed.apply i t)).reports = t.reports ++ [(i, parsed.controller)] := by
  unfold uniHidDeviceProcessController
  extract_lets d
  split
  · exact .inl (parsed_reports parsed i)
  · refine .inr ?_
    rw [call_reports, parsed_reports]
    exact congrArg (fun ctl => t.reports ++ [(i, ctl)]) (parsed_controller parsed i)

theorem l2capDataPacket_reports (channel : UInt16) (packet : List UInt8) (parsed : Parsed) :
    (l2capDataPacket channel packet parsed t).reports = t.reports ∨
      ∃ i, (l2capDataPacket channel packet parsed t).reports = t.reports ++ [(i, parsed.controller)] := by
  unfold l2capDataPacket
  split
  · exact .inl rfl
  · rename_i i found
    dsimp only
    split_ifs
    · exact .inl rfl
    · exact .inl (parsed_reports parsed i)
    · exact .inl rfl
    · exact .inl rfl
    · exact .inl rfl
    · exact (processController_reports parsed i).imp id fun same => ⟨i, same⟩

theorem hidReport_reports (cid : UInt16) (descriptor : List UInt8) (parsed : Parsed) :
    (hidReport answers cid descriptor parsed t).reports = t.reports ∨
      ∃ i, (hidReport answers cid descriptor parsed t).reports = t.reports ++ [(i, parsed.controller)] := by
  unfold hidReport
  split
  · exact .inl rfl
  · rename_i i found
    extract_lets described
    have same : described.reports = t.reports := by
      unfold described
      split
      · exact setHidDescriptor_reports answers i descriptor
      · rfl
    rw [← same]
    exact (processController_reports parsed i).imp id fun same => ⟨i, same⟩

/-- An event adds at most one report, and it is the one that was parsed. -/
theorem apply_reports (e : RadioEvent) : (e.apply t).reports = t.reports ∨
    ∃ i parsed, e.packet.parsed = some parsed ∧ (e.apply t).reports = t.reports ++ [(i, parsed.controller)] := by
  obtain ⟨answers, packet⟩ := e
  cases packet with
  | l2capDataPacket channel packet parsed =>
    exact (l2capDataPacket_reports channel packet parsed).imp id fun ⟨i, same⟩ => ⟨i, parsed, rfl, same⟩
  | hidReport cid descriptor parsed =>
    exact (hidReport_reports answers cid descriptor parsed).imp id fun ⟨i, same⟩ => ⟨i, parsed, rfl, same⟩
  | gapInquiryResult => exact .inl (gapInquiryResult_reports answers _ _ _ _ _ _)
  | hciConnectionRequest => exact .inl (hciConnectionRequest_reports _ _)
  | l2capIncomingConnection => exact .inl (l2capIncomingConnection_reports answers _ _ _ _)
  | l2capChannelOpened => exact .inl (l2capChannelOpened_reports answers _ _ _ _)
  | hciRemoteNameRequestComplete => exact .inl (hciRemoteNameRequestComplete_reports answers _ _ _)
  | gapAdvertisingReport => exact .inl (gapAdvertisingReport_reports _ _ _ _)
  | inquiryRemoteNameTimeout i => exact .inl (inquiryRemoteNameTimeout_reports answers i)
  | parserReady i => exact .inl (setReadyComplete_reports i)
  | disconnectDevice i => exact .inl (disconnectAndDelete_reports answers i)
  | allowIncomingConnections | allowlistAdd | allowlistRemove | allowlistEnable => exact .inl rfl
  | hciConnectionComplete | hciDisconnectionComplete | l2capChannelClosed | sdpVendorId | sdpProductId
  | sdpHidDescriptor | leConnectionComplete | encryptionChange | smReencryptionComplete | smPairingComplete
  | pnpId | deviceInformationDone | hidServiceConnected | deviceConnectionTimeout | sdpPidQueryComplete
  | sdpHidQueryComplete | sdpQueryTimeout =>
    refine .inl ?_
    simp only [RadioEvent.apply, hciConnectionComplete, hciDisconnectionComplete, l2capChannelClosed, sdpVendorId,
      sdpProductId, sdpHidDescriptor, leConnectionComplete, encryptionChange, smReencryptionComplete,
      smPairingComplete, pnpId, deviceInformationDone, hidServiceConnected, deviceConnectionTimeout,
      sdpPidQueryComplete, sdpHidQueryComplete, sdpQueryTimeout]
    repeat' split
    all_goals simp

/-- The controllers that the platform is given are those that the parsers of the reports left. -/
theorem run_reports (l : AllowList) (es : List RadioEvent) :
    ∀ r ∈ ((bluepad l).run es).reports, ∃ e ∈ es, ∃ parsed, e.packet.parsed = some parsed ∧
      r.2 = parsed.controller := by
  refine Machine.run_history (M := bluepad l)
    (P := fun es t => ∀ r ∈ t.reports, ∃ e ∈ es, ∃ parsed, e.packet.parsed = some parsed ∧ r.2 = parsed.controller)
    (fun r member => nomatch member) (fun es e ih r member => ?_) es
  have earlier (member : r ∈ ((bluepad l).run es).reports) : ∃ x ∈ es ++ [e], ∃ parsed,
      x.packet.parsed = some parsed ∧ r.2 = parsed.controller := by
    obtain ⟨x, inside, found⟩ := ih r member
    exact ⟨x, List.mem_append_left _ inside, found⟩
  rcases apply_reports (t := (bluepad l).run es) e with same | ⟨i, parsed, own, same⟩
  · exact earlier (same ▸ member)
  · have present : r ∈ ((bluepad l).run es).reports ++ [(i, parsed.controller)] := same ▸ member
    rcases List.mem_append.mp present with old | new
    · exact earlier old
    · exact ⟨e, by simp, parsed, own, congrArg Prod.snd (List.mem_singleton.mp new)⟩

end BukkisDrone.Bluetooth
