import BukkisDrone.Bluetooth.Connection
import BukkisDrone.Runs.Sessions

/-!
# What an event can do to the device table

Every event is a sequence of a few acts on the table. An invariant is kept by every run once each act
keeps it, and the acts are the moves of a table of sessions.
-/

namespace BukkisDrone.Bluetooth
open Relation Runs Sessions

def HidDevice.Live (d : HidDevice) : Prop := d.conn.btaddr ≠ zeroAddr

/-- What a free entry keeps from `uniHidDeviceInit`. Its state may change, by a late SDP answer. -/
structure HidDevice.Blank (d : HidDevice) : Prop where
  handle : d.conn.handle = handleInvalid
  hidsCid : d.hidsCid = 0xffff
  incoming : d.conn.incoming = false
  sdpQueryType : d.sdpQueryType = .afterConnect
  inquiryRemoteNameTimer : d.inquiryRemoteNameTimer = false

/-- A change that starts no session, connects nothing and makes nothing ready. -/
structure Quiet (d d' : HidDevice) : Prop where
  btaddr : d'.conn.btaddr = d.conn.btaddr
  connected : d'.conn.connected = d.conn.connected
  ready : d'.conn.state = .deviceReady → d.conn.state = .deviceReady
  incoming : d.conn.incoming → d'.conn.incoming
  blank : ¬d.Live → d.Blank → d'.Blank

/-- The requests that open a connection name an address that was once allowed. -/
def Request.Allowed (Seen : BdAddr → Prop) : Request → Prop
  | .l2capAcceptConnection _ addr | .l2capCreateChannel addr _ | .gapConnect addr => Seen addr
  | _ => True

inductive Act (Seen : BdAddr → Prop) (t : Bluepad) : Bluepad → Prop where
  | modify (i : Fin 4) (d : HidDevice) (quiet : Quiet (t.devices i) d) : Act Seen t (t.modify i fun _ => d)
  | create (i : Fin 4) (d : HidDevice) (free : ¬(t.devices i).Live) (live : d.Live)
    (fresh : ∀ j, (t.devices j).conn.btaddr ≠ d.conn.btaddr) (down : d.conn.connected = false)
    (unready : d.conn.state ≠ .deviceReady) (asked : Seen d.conn.btaddr ∨ d.conn.incoming) :
    Act Seen t (t.modify i fun _ => d)
  | connect (i : Fin 4) (live : (t.devices i).Live) : Act Seen t (uniHidDeviceConnect i t)
  | ready (i : Fin 4) : Act Seen t ((t.call (.deviceReady i)).modify i (uniBtConnSetState .deviceReady))
  | deliver (i : Fin 4) (ctl : UniController) (ready : (t.devices i).conn.state = .deviceReady) :
    Act Seen t (t.call (.controllerData i ctl))
  | remove (i : Fin 4) : Act Seen t
      { t.modify i fun _ => uniHidDeviceInit with
        callbacks := t.callbacks ++ if (t.devices i).conn.connected then [.deviceDisconnected i] else [] }
  | request (r : Request) (allowed : r.Allowed Seen) : Act Seen t (t.request r)
  | setSdp (sdp : Sdp) : Act Seen t (t.setSdp sdp)
  | configure (allow : Bool) (l : AllowList) : Act Seen t { t with allowIncoming := allow, allowList := l }

/-! ### The invariant of every act -/

structure Good (Seen : BdAddr → Prop) (t : Bluepad) : Prop where
  blank : ∀ i, ¬(t.devices i).Live → (t.devices i).Blank
  unique : ∀ i j, (t.devices i).Live → (t.devices i).conn.btaddr = (t.devices j).conn.btaddr → i = j
  asked : ∀ i, (t.devices i).Live → Seen (t.devices i).conn.btaddr ∨ (t.devices i).conn.incoming
  requests : ∀ r ∈ t.requests, r.Allowed Seen

@[simp] theorem modify_self (i : Fin 4) (f : HidDevice → HidDevice) (t : Bluepad) :
    (t.modify i f).devices i = f (t.devices i) := Function.update_self i _ _

theorem modify_other {i j : Fin 4} (other : j ≠ i) (f : HidDevice → HidDevice) (t : Bluepad) :
    (t.modify i f).devices j = t.devices j := Function.update_of_ne other _ _

@[simp] theorem modify_modify (i : Fin 4) (f g : HidDevice → HidDevice) (t : Bluepad) :
    (t.modify i f).modify i g = t.modify i (g ∘ f) := by
  simp [Bluepad.modify, Function.update_idem]

@[simp] theorem call_devices (cb : Callback (Fin 4)) (t : Bluepad) : (t.call cb).devices = t.devices := rfl

@[simp] theorem request_devices (r : Request) (t : Bluepad) : (t.request r).devices = t.devices := rfl

@[simp] theorem setSdp_devices (sdp : Sdp) (t : Bluepad) : (t.setSdp sdp).devices = t.devices := rfl

variable {Seen : BdAddr → Prop} {t t' t'' : Bluepad}

theorem blank_init : uniHidDeviceInit.Blank := ⟨rfl, rfl, rfl, rfl, rfl⟩

theorem init_not_live : ¬uniHidDeviceInit.Live := fun live => live rfl

theorem good_modify (good : Good Seen t) {i : Fin 4} {d : HidDevice} (blank : ¬d.Live → d.Blank)
    (unique : ∀ j, j ≠ i → d.Live → (t.devices j).conn.btaddr ≠ d.conn.btaddr)
    (asked : d.Live → Seen d.conn.btaddr ∨ d.conn.incoming) : Good Seen (t.modify i fun _ => d) where
  blank j := by
    by_cases same : j = i
    · subst same
      simpa using blank
    · simpa [modify_other same] using good.blank j
  unique j k live same := by
    by_cases hj : j = i <;> by_cases hk : k = i
    · rw [hj, hk]
    · subst hj
      rw [modify_self, modify_other hk] at same
      rw [modify_self] at live
      exact (unique k hk live same.symm).elim
    · subst hk
      rw [modify_self, modify_other hj] at same
      rw [modify_other hj, HidDevice.Live, same] at live
      exact (unique j hj live same).elim
    · rw [modify_other hj, modify_other hk] at same
      rw [modify_other hj] at live
      exact good.unique j k live same
  asked j := by
    by_cases same : j = i
    · subst same
      simpa using asked
    · simpa [modify_other same] using good.asked j
  requests := good.requests

theorem good_act (good : Good Seen t) (act : Act Seen t t') : Good Seen t' := by
  have keep : ∀ (i : Fin 4) (d : HidDevice), Quiet (t.devices i) d → Good Seen (t.modify i fun _ => d) := by
    intro i d quiet
    have live : d.Live ↔ (t.devices i).Live := by rw [HidDevice.Live, quiet.btaddr, HidDevice.Live]
    refine good_modify good (fun free => ?_) (fun j other alive same => ?_) (fun alive => ?_)
    · exact quiet.blank (mt live.mpr free) (good.blank i (mt live.mpr free))
    · exact other (good.unique i j (live.mp alive) (quiet.btaddr ▸ same.symm)).symm
    · rw [quiet.btaddr]
      exact (good.asked i (live.mp alive)).imp id quiet.incoming
  cases act with
  | modify i d quiet => exact keep i d quiet
  | create i d free live fresh down unready asked =>
    exact good_modify good (fun dead => (dead live).elim) (fun j _ _ => fresh j) fun _ => asked
  | connect i live =>
    have quiet := good_modify good (i := i) (d := uniBtConnSetConnected true (t.devices i))
      (fun dead => (dead live).elim) (fun j other _ same => other (good.unique i j live same.symm).symm)
      fun _ => good.asked i live
    exact ⟨quiet.blank, quiet.unique, quiet.asked, quiet.requests⟩
  | ready i =>
    have quiet := good_modify good (i := i) (d := uniBtConnSetState .deviceReady (t.devices i))
      (fun dead => ?_) (fun j other live same => other (good.unique i j live same.symm).symm)
      fun live => good.asked i live
    · exact ⟨quiet.blank, quiet.unique, quiet.asked, quiet.requests⟩
    · obtain ⟨handle, hidsCid, incoming, query, timer⟩ := good.blank i dead
      exact ⟨handle, hidsCid, incoming, query, timer⟩
  | deliver => exact ⟨good.blank, good.unique, good.asked, good.requests⟩
  | remove i =>
    have gone := good_modify good (i := i) (d := uniHidDeviceInit) (fun _ => blank_init)
      (fun _ _ live => (init_not_live live).elim) fun live => (init_not_live live).elim
    exact ⟨gone.blank, gone.unique, gone.asked, gone.requests⟩
  | request r allowed =>
    refine ⟨good.blank, good.unique, good.asked, fun x member => ?_⟩
    rcases List.mem_append.mp member with old | new
    · exact good.requests x old
    · exact List.mem_singleton.mp new ▸ allowed
  | setSdp | configure => exact ⟨good.blank, good.unique, good.asked, good.requests⟩

theorem good_acts (good : Good Seen t) (acts : ReflTransGen (Act Seen) t t') : Good Seen t' := by
  induction acts with
  | refl => exact good
  | tail _ act ih => exact good_act ih act

/-- From a good table, `t'` is reached by acts. -/
def Acts (Seen : BdAddr → Prop) (t t' : Bluepad) : Prop := Good Seen t → ReflTransGen (Act Seen) t t'

theorem Acts.refl : Acts Seen t t := fun _ => .refl

theorem Acts.trans (first : Acts Seen t t') (second : Acts Seen t' t'') : Acts Seen t t'' :=
  fun good => (first good).trans (second (good_acts good (first good)))

theorem Act.acts (act : Act Seen t t') : Acts Seen t t' := fun _ => .single act

theorem Acts.good (acts : Acts Seen t t') (good : Good Seen t) : Good Seen t' := good_acts good (acts good)

/-! ### Changes of one device -/

/-- Everything that the invariant or a table of sessions looks at is unchanged. -/
structure Inert (d d' : HidDevice) : Prop where
  conn : d'.conn.btaddr = d.conn.btaddr ∧ d'.conn.connected = d.conn.connected ∧
    d'.conn.state = d.conn.state ∧ d'.conn.incoming = d.conn.incoming ∧ d'.conn.handle = d.conn.handle
  hidsCid : d'.hidsCid = d.hidsCid
  sdpQueryType : d'.sdpQueryType = d.sdpQueryType
  timer : d'.inquiryRemoteNameTimer = d.inquiryRemoteNameTimer

variable {i : Fin 4} {d d' d'' : HidDevice}

theorem Inert.refl : Inert d d := ⟨⟨rfl, rfl, rfl, rfl, rfl⟩, rfl, rfl, rfl⟩

theorem Inert.trans (first : Inert d d') (second : Inert d' d'') : Inert d d'' := by
  obtain ⟨⟨a, b, c, e, f⟩, g, h, k⟩ := second
  obtain ⟨⟨a', b', c', e', f'⟩, g', h', k'⟩ := first
  exact ⟨⟨a.trans a', b.trans b', c.trans c', e.trans e', f.trans f'⟩, g.trans g', h.trans h', k.trans k'⟩

theorem Inert.quiet (inert : Inert d d') : Quiet d d' := by
  obtain ⟨⟨btaddr, connected, state, incoming, handle⟩, hidsCid, query, timer⟩ := inert
  refine ⟨btaddr, connected, state.symm ▸ id, incoming.symm ▸ id, fun _ blank => ?_⟩
  exact ⟨handle.trans blank.handle, hidsCid.trans blank.hidsCid, incoming.trans blank.incoming,
    query.trans blank.sdpQueryType, timer.trans blank.inquiryRemoteNameTimer⟩

theorem setVendorId_inert (vendorId : UInt16) : Inert d (uniHidDeviceSetVendorId vendorId d) := by
  unfold uniHidDeviceSetVendorId
  split
  · exact .refl
  · exact ⟨⟨rfl, rfl, rfl, rfl, rfl⟩, rfl, rfl, rfl⟩

theorem setVidPid_inert (vendorId productId : UInt16) : Inert d (setVidPid vendorId productId d) :=
  (setVendorId_inert vendorId).trans ⟨⟨rfl, rfl, rfl, rfl, rfl⟩, rfl, rfl, rfl⟩

theorem xboxoneNameMatch_inert {name : Name} (found : uniHidParserXboxoneDoesNameMatch name d = some d') :
    Inert d d' := by
  unfold uniHidParserXboxoneDoesNameMatch at found
  split at found
  · cases found
    exact (setVidPid_inert 0x045e 0x02e0).trans ⟨⟨rfl, rfl, rfl, rfl, rfl⟩, rfl, rfl, rfl⟩
  · cases found

theorem guessUnlisted_inert : Inert d (guessUnlisted d).2 := by
  unfold guessUnlisted
  split
  · exact .refl
  · split
    · exact .refl
    · split
      · rename_i found
        exact xboxoneNameMatch_inert found
      · exact .refl

theorem guessFromPidVid_inert (guess : UInt16 → UInt16 → ControllerType) :
    Inert d (uniHidDeviceGuessControllerTypeFromPidVid guess d) := by
  unfold uniHidDeviceGuessControllerTypeFromPidVid
  split
  · exact .refl
  · have typed : ∀ listed : ControllerType × HidDevice, Inert d listed.2 →
        Inert d { listed.2 with
          reportParser := reportParser listed.1 listed.2.vendorId listed.2.productId
          controllerType := listed.1
          hasControllerType := true } :=
      fun _ inert => inert.trans ⟨⟨rfl, rfl, rfl, rfl, rfl⟩, rfl, rfl, rfl⟩
    refine typed _ ?_
    split
    · exact guessUnlisted_inert
    · exact guessUnlisted_inert
    · exact guessUnlisted_inert
    · exact .refl

theorem guessFromName_inert {guess : UInt16 → UInt16 → ControllerType} {name : Name}
    (found : uniHidDeviceGuessControllerTypeFromName guess name d = some d') : Inert d d' := by
  obtain ⟨named, match_, rfl⟩ := Option.map_eq_some_iff.mp found
  refine Inert.trans ?_ (guessFromPidVid_inert guess)
  unfold uniHidParserDs3DoesNameMatch at match_
  split at match_
  · cases match_
    exact setVidPid_inert _ _
  · obtain ⟨entry, -, rfl⟩ := Option.map_eq_some_iff.mp match_
    exact setVidPid_inert _ _

theorem setState_quiet {state : ConnState} (unready : state ≠ .deviceReady) :
    Quiet d (uniBtConnSetState state d) :=
  ⟨rfl, rfl, fun h => absurd h unready, id, fun _ ⟨a, b, c, e, f⟩ => ⟨a, b, c, e, f⟩⟩

/-- An occupied entry may change anything but its address and whether it is connected. -/
theorem quiet_of_live (live : d.Live) (btaddr : d'.conn.btaddr = d.conn.btaddr)
    (connected : d'.conn.connected = d.conn.connected)
    (ready : d'.conn.state = .deviceReady → d.conn.state = .deviceReady)
    (incoming : d.conn.incoming → d'.conn.incoming) : Quiet d d' :=
  ⟨btaddr, connected, ready, incoming, fun free => (free live).elim⟩

theorem acts_modify {f : HidDevice → HidDevice} (quiet : Quiet (t.devices i) (f (t.devices i))) :
    Acts Seen t (t.modify i f) := (Act.modify i _ quiet).acts

theorem acts_inert {f : HidDevice → HidDevice} (inert : Inert (t.devices i) (f (t.devices i))) :
    Acts Seen t (t.modify i f) := acts_modify inert.quiet

theorem acts_request {r : Request} (allowed : r.Allowed Seen) : Acts Seen t (t.request r) :=
  (Act.request r allowed).acts

/-! ### The functions of the device table -/

section Functions
variable (answers : Answers)

theorem hogDisconnect_acts (handle : UInt16) : Acts Seen t (hogDisconnect answers handle t) := by
  unfold hogDisconnect
  split
  · exact acts_request (r := .gapDisconnect handle) trivial
  · exact .refl

theorem bredrDisconnect_acts (i : Fin 4) : Acts Seen t (uniBtBredrDisconnect answers i t) := by
  unfold uniBtBredrDisconnect
  extract_lets conn cleared
  split
  · refine (acts_request (r := .gapDisconnect _) trivial).trans (acts_modify ?_)
    exact ⟨rfl, rfl, id, id, fun _ ⟨_, b, c, e, f⟩ => ⟨rfl, b, c, e, f⟩⟩
  · have first : Acts Seen t cleared := by
      unfold cleared
      split
      · exact (acts_request (r := .l2capDisconnect _) trivial).trans (acts_inert ⟨⟨rfl, rfl, rfl, rfl, rfl⟩, rfl, rfl, rfl⟩)
      · exact .refl
    refine first.trans ?_
    split
    · exact (acts_request (r := .l2capDisconnect _) trivial).trans (acts_inert ⟨⟨rfl, rfl, rfl, rfl, rfl⟩, rfl, rfl, rfl⟩)
    · exact .refl

theorem bredrDisconnect_connected (i : Fin 4) :
    ((uniBtBredrDisconnect answers i t).devices i).conn.connected = (t.devices i).conn.connected := by
  unfold uniBtBredrDisconnect
  extract_lets conn cleared
  split
  · simp [uniHidDeviceSetConnectionHandle]
  · have first : (cleared.devices i).conn.connected = (t.devices i).conn.connected := by
      unfold cleared
      split <;> simp
    split
    · simpa using first
    · exact first

theorem disconnectAndDelete_acts (i : Fin 4) : Acts Seen t (disconnectAndDelete answers i t) := by
  unfold disconnectAndDelete uniHidDeviceDisconnect
  extract_lets connected dropped cleared
  have linked : Acts Seen t dropped ∧
      (dropped.devices i).conn.connected = (t.devices i).conn.connected := by
    unfold dropped
    split
    · refine ⟨hogDisconnect_acts answers _, ?_⟩
      unfold uniBtLeDisconnect hogDisconnect
      split <;> rfl
    · exact ⟨bredrDisconnect_acts answers i, bredrDisconnect_connected answers i⟩
    · exact ⟨.refl, rfl⟩
  obtain ⟨acts, same⟩ := linked
  refine acts.trans ?_
  have removed := Act.acts (Act.remove i : Act Seen dropped _)
  rw [same] at removed
  convert removed using 1
  unfold cleared uniHidDeviceDelete
  split
  · simp [Bluepad.modify, uniHidDeviceOnConnected, Bluepad.call, Function.update_idem]
  · simp [Bluepad.modify, Function.update_idem]

theorem bredrDisconnect_other {j : Fin 4} (other : j ≠ i) :
    (uniBtBredrDisconnect answers i t).devices j = t.devices j := by
  unfold uniBtBredrDisconnect
  extract_lets conn cleared
  split
  · simp [modify_other other]
  · have first : cleared.devices j = t.devices j := by
      unfold cleared
      split <;> simp [modify_other other]
    split
    · simpa [modify_other other] using first
    · exact first

@[simp] theorem disconnectAndDelete_self (i : Fin 4) :
    (disconnectAndDelete answers i t).devices i = uniHidDeviceInit := by
  unfold disconnectAndDelete uniHidDeviceDelete
  exact modify_self i _ _

theorem disconnectAndDelete_other {j : Fin 4} (other : j ≠ i) :
    (disconnectAndDelete answers i t).devices j = t.devices j := by
  unfold disconnectAndDelete uniHidDeviceDelete uniHidDeviceDisconnect
  extract_lets connected dropped cleared
  rw [modify_other other]
  have linked : dropped.devices j = t.devices j := by
    unfold dropped
    split
    · unfold uniBtLeDisconnect hogDisconnect
      split <;> rfl
    · exact bredrDisconnect_other answers other
    · rfl
  have second : cleared.devices j = t.devices j := (modify_other other _ _).trans linked
  split
  · exact second
  · exact second

theorem setReadyComplete_acts (i : Fin 4) : Acts Seen t (uniHidDeviceSetReadyComplete i t) := by
  unfold uniHidDeviceSetReadyComplete
  split
  · exact .refl
  · refine (acts_inert (f := fun d => { d with connectionTimer := false }) ?_).trans (Act.ready i).acts
    exact ⟨⟨rfl, rfl, rfl, rfl, rfl⟩, rfl, rfl, rfl⟩

theorem setReady_acts (i : Fin 4) : Acts Seen t (uniHidDeviceSetReady i t) := by
  unfold uniHidDeviceSetReady
  split
  · exact .refl
  · extract_lets pending
    have first : Acts Seen t pending := acts_modify (setState_quiet (by decide))
    split
    · exact first.trans (setReadyComplete_acts i)
    · exact first.trans (setReadyComplete_acts i)
    · exact first

theorem processController_acts (i : Fin 4) : Acts Seen t (uniHidDeviceProcessController i t) := by
  unfold uniHidDeviceProcessController
  extract_lets d
  split
  · exact .refl
  · rename_i ready
    exact (Act.deliver i _ (not_not.mp ready)).acts

theorem parsed_acts (parsed : Parsed) (i : Fin 4) : Acts Seen t (parsed.apply i t) := by
  unfold Parsed.apply
  extract_lets held
  have first : Acts Seen t held := acts_inert ⟨⟨rfl, rfl, rfl, rfl, rfl⟩, rfl, rfl, rfl⟩
  split
  · exact first.trans (setReadyComplete_acts i)
  · exact first

end Functions

/-! ### Lookups -/

theorem find_some {p : HidDevice → Bool} (found : t.find p = some i) : p (t.devices i) :=
  Fin.find?_eq_some_iff.mp found |>.1

theorem find_none {p : HidDevice → Bool} (none : t.find p = none) (i : Fin 4) : p (t.devices i) = false :=
  Fin.find?_eq_none_iff.mp none i

theorem forAddress_some {addr : BdAddr} (found : uniHidDeviceGetInstanceForAddress addr t = some i) :
    (t.devices i).conn.btaddr = addr := by
  unfold uniHidDeviceGetInstanceForAddress at found
  have same := find_some found
  exact (eq_of_beq same).symm

theorem forAddress_none {addr : BdAddr} (none : uniHidDeviceGetInstanceForAddress addr t = none) (i : Fin 4) :
    (t.devices i).conn.btaddr ≠ addr := by
  unfold uniHidDeviceGetInstanceForAddress at none
  have absent := find_none none i
  exact (ne_of_beq_false absent).symm

theorem forAddress_eq_none {addr : BdAddr} (absent : ∀ i, (t.devices i).conn.btaddr ≠ addr) :
    uniHidDeviceGetInstanceForAddress addr t = none := by
  cases known : uniHidDeviceGetInstanceForAddress addr t with
  | none => rfl
  | some i => exact (absent i (forAddress_some known)).elim

theorem forAddress_live {addr : BdAddr} (found : uniHidDeviceGetInstanceForAddress addr t = some i)
    (proper : addr ≠ zeroAddr) : (t.devices i).Live := by
  rw [HidDevice.Live, forAddress_some found]
  exact proper

theorem forHandle_live (good : Good Seen t) {handle : UInt16}
    (found : uniHidDeviceGetInstanceForConnectionHandle handle t = some i) : (t.devices i).Live := by
  by_contra free
  unfold uniHidDeviceGetInstanceForConnectionHandle at found
  split at found
  · cases found
  · rename_i valid
    have same := find_some found
    exact valid ((eq_of_beq same).symm.trans (good.blank i free).handle)

theorem forHidsCid_live (good : Good Seen t) {cid : UInt16} (valid : cid ≠ 0xffff)
    (found : uniHidDeviceGetInstanceForHidsCid cid t = some i) : (t.devices i).Live := by
  by_contra free
  unfold uniHidDeviceGetInstanceForHidsCid at found
  split at found
  · cases found
  · have same := find_some found
    exact valid ((eq_of_beq same).symm.trans (good.blank i free).hidsCid)

/-- What `uniHidDeviceCreate` puts into the entry it takes. -/
def created (addr : BdAddr) : HidDevice :=
  { HidDevice.zero with connectionTimer := true, conn := { Conn.zero with btaddr := addr } }

theorem create_some {addr : BdAddr} (some : uniHidDeviceCreate addr t = some (i, t')) :
    ¬(t.devices i).Live ∧ t' = t.modify i fun _ => created addr := by
  unfold uniHidDeviceCreate at some
  split at some
  · rename_i found
    cases some
    have vacant := find_some found
    exact ⟨fun live => live (eq_of_beq vacant), rfl⟩
  · cases some

/-- A new entry, with what the handler that created it has set since. -/
theorem create_acts {addr : BdAddr} (some : uniHidDeviceCreate addr t = some (i, t'))
    (fresh : uniHidDeviceGetInstanceForAddress addr t = none) (proper : addr ≠ zeroAddr)
    {f : HidDevice → HidDevice} (btaddr : (f (created addr)).conn.btaddr = addr)
    (down : (f (created addr)).conn.connected = false) (unready : (f (created addr)).conn.state ≠ .deviceReady)
    (asked : Seen addr ∨ (f (created addr)).conn.incoming) : Acts Seen t (t'.modify i f) := by
  obtain ⟨free, rfl⟩ := create_some some
  rw [modify_modify]
  have live : (f (created addr)).Live := by
    rw [HidDevice.Live, btaddr]
    exact proper
  refine (Act.create i (f (created addr)) free live ?_ down unready ?_).acts
  · rw [btaddr]
    exact forAddress_none fresh
  · rwa [btaddr]

end BukkisDrone.Bluetooth
