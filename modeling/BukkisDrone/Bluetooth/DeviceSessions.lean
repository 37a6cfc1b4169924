import BukkisDrone.Bluetooth.Handlers

/-!
# The device table is a table of sessions

A device's address is the key of its slot, and the platform's callbacks are the notes. What the platform
can rely on follows from the moves of `Sessions`.
-/

namespace BukkisDrone.Bluetooth
open Relation Runs Sessions

def HidDevice.slot (d : HidDevice) : Slot BdAddr where
  key := if d.conn.btaddr = zeroAddr then none else some d.conn.btaddr
  connected := d.conn.connected
  ready := d.conn.state = .deviceReady

/-- The callback that tells the platform of a note. -/
def callback : Note (Fin 4) UniController → Callback (Fin 4)
  | .connected i => .deviceConnected i
  | .ready i => .deviceReady i
  | .disconnected i => .deviceDisconnected i
  | .data i ctl => .controllerData i ctl

theorem callback_injective : Function.Injective callback := by
  intro x y same
  cases x <;> cases y <;> simp_all [callback]

structure Refines (t : Bluepad) (T : Table (Fin 4) BdAddr UniController) : Prop where
  slots : ∀ i, T.slots i = (t.devices i).slot
  callbacks : t.callbacks = T.notes.map callback

variable {Seen : BdAddr → Prop} {t t' : Bluepad} {T : Table (Fin 4) BdAddr UniController}

theorem slot_key_none {d : HidDevice} : d.slot.key = none ↔ ¬d.Live := by
  unfold HidDevice.slot HidDevice.Live
  split <;> simp_all

theorem slot_key_some {d : HidDevice} {addr : BdAddr} (key : d.slot.key = some addr) :
    d.conn.btaddr = addr := by
  unfold HidDevice.slot at key
  split at key
  · cases key
  · exact Option.some.inj key

theorem slot_of_live {d : HidDevice} (live : d.Live) :
    d.slot = ⟨some d.conn.btaddr, d.conn.connected, d.conn.state = .deviceReady⟩ := by
  unfold HidDevice.slot
  rw [if_neg live]

theorem slot_init : uniHidDeviceInit.slot = .free := rfl

theorem refines_boot (l : AllowList) : Refines (bluepad l).init Table.empty := ⟨fun _ => rfl, rfl⟩

/-- One move on the table of sessions, for a change of one device and the callbacks it makes. -/
theorem refines_move (refines : Refines t T) {i : Fin 4} {d : HidDevice}
    {more : List (Note (Fin 4) UniController)} (move : Move T.Fresh i (t.devices i).slot d.slot more) :
    ∃ T', Table.Step T T' ∧
      ∀ t' : Bluepad, t'.devices = Function.update t.devices i d →
        t'.callbacks = t.callbacks ++ more.map callback → Refines t' T' := by
  refine ⟨T.put i d.slot more, ⟨i, d.slot, more, (refines.slots i).symm ▸ move, rfl⟩, ?_⟩
  intro t' devices callbacks
  refine ⟨fun j => ?_, ?_⟩
  · rw [devices, Table.put]
    by_cases same : j = i
    · subst same
      simp
    · simpa [Function.update_of_ne same] using refines.slots j
  · rw [callbacks, refines.callbacks, Table.put, List.map_append]

theorem simulate_act (act : Act Seen t t') (refines : Refines t T) :
    ∃ T', ReflTransGen Table.Step T T' ∧ Refines t' T' := by
  have one : ∀ (i : Fin 4) (d : HidDevice) (more : List (Note (Fin 4) UniController)),
      Move T.Fresh i (t.devices i).slot d.slot more →
      t'.devices = Function.update t.devices i d → t'.callbacks = t.callbacks ++ more.map callback →
      ∃ T', ReflTransGen Table.Step T T' ∧ Refines t' T' := by
    intro i d more move devices callbacks
    obtain ⟨T', step, done⟩ := refines_move refines move
    exact ⟨T', .single step, done t' devices callbacks⟩
  cases act with
  | modify i d quiet =>
    have key : d.slot.key = (t.devices i).slot.key := by
      unfold HidDevice.slot
      rw [quiet.btaddr]
    by_cases same : d.slot.ready = (t.devices i).slot.ready
    · have slot : d.slot = (t.devices i).slot := by
        have connected : d.slot.connected = (t.devices i).slot.connected := quiet.connected
        cases old : (t.devices i).slot
        cases new : d.slot
        simp_all
      refine ⟨T, .refl, fun j => ?_, refines.callbacks⟩
      by_cases here : j = i
      · subst here
        rw [modify_self, slot]
        exact refines.slots j
      · rw [modify_other here]
        exact refines.slots j
    · have slot : d.slot = { (t.devices i).slot with ready := false } := by
        have connected : d.slot.connected = (t.devices i).slot.connected := quiet.connected
        have unready : d.slot.ready = false := by
          rw [Bool.eq_false_iff]
          intro up
          have before : (t.devices i).slot.ready = true := by
            simp only [HidDevice.slot, decide_eq_true_eq] at up ⊢
            exact quiet.ready up
          exact same (up.trans before.symm)
        cases old : (t.devices i).slot
        cases new : d.slot
        simp_all
      refine one i d [] ?_ rfl (List.append_nil _).symm
      exact slot ▸ Move.unready
  | create i d free live fresh down unready asked =>
    refine one i d [] ?_ rfl (List.append_nil _).symm
    have slot : d.slot = ⟨some d.conn.btaddr, false, false⟩ := by
      rw [slot_of_live live, down]
      simp [unready]
    rw [slot]
    refine Move.assign _ (slot_key_none.mpr free) fun j held => ?_
    rw [refines.slots j] at held
    exact fresh j (slot_key_some held)
  | connect i live =>
    refine one i (uniBtConnSetConnected true (t.devices i)) [.connected i] ?_ rfl rfl
    exact Move.connect fun free => slot_key_none.mp free live
  | ready i =>
    refine one i (uniBtConnSetState .deviceReady (t.devices i)) [.ready i] ?_ rfl rfl
    exact Move.becomeReady
  | deliver i ctl ready =>
    refine one i (t.devices i) [.data i ctl] ?_ (by simp) rfl
    exact Move.deliver ctl (by simpa [HidDevice.slot] using ready)
  | remove i =>
    refine one i uniHidDeviceInit (if (t.devices i).conn.connected then [.disconnected i] else []) ?_ rfl ?_
    · exact slot_init ▸ Move.release
    · dsimp only
      split <;> rfl
  | request | setSdp | configure => exact ⟨T, .refl, refines.slots, refines.callbacks⟩

theorem simulate_acts (acts : ReflTransGen (Act Seen) t t') (refines : Refines t T) :
    ∃ T', ReflTransGen Table.Step T T' ∧ Refines t' T' := by
  induction acts with
  | refl => exact ⟨T, .refl, refines⟩
  | tail before act ih =>
    obtain ⟨T', reached, related⟩ := ih
    obtain ⟨T'', later, done⟩ := simulate_act act related
    exact ⟨T'', reached.trans later, done⟩

/-- Every run of the device table is a run of a table of sessions. -/
theorem run_refines (l : AllowList) {es : List RadioEvent} (proper : ∀ e ∈ es, e.packet.Proper) :
    ∃ T, ReflTransGen Table.Step Table.empty T ∧ Refines ((bluepad l).run es) T := by
  have both := Machine.run_allowed (M := bluepad l)
    (P := fun es t => Good (AllowedIn l es) t ∧
      ∃ T, ReflTransGen Table.Step Table.empty T ∧ Refines t T)
    ⟨good_boot l, _, .refl, refines_boot l⟩ (fun es e ok ⟨good, T, reached, related⟩ => ?_) proper
  · exact both.2
  · obtain ⟨before, acts⟩ := run_acts l e ok good
    obtain ⟨T', later, done⟩ := simulate_acts acts related
    exact ⟨good_acts before acts, T', reached.trans later, done⟩

/-! ### What the platform can rely on -/

/-- The part of a run of the table that a platform sees. -/
structure Announced (t : Bluepad) : Prop where
  unique : ∀ i j, (t.devices i).Live → (t.devices i).conn.btaddr = (t.devices j).conn.btaddr → i = j
  connected : ∀ i, (t.devices i).conn.connected ↔
    Standing (.deviceConnected i) (.deviceDisconnected i) t.callbacks
  data : ∀ before i ctl after, t.callbacks = before ++ .controllerData i ctl :: after →
    Standing (.deviceReady i) (.deviceDisconnected i) before
  disconnected : ∀ before i after, t.callbacks = before ++ .deviceDisconnected i :: after →
    Standing (.deviceConnected i) (.deviceDisconnected i) before

theorem standing_notes {up down : Note (Fin 4) UniController} {notes : List (Note (Fin 4) UniController)} :
    Standing (callback up) (callback down) (notes.map callback) ↔ Standing up down notes :=
  standing_map callback_injective

theorem announced_of_refines (sound : T.Sound) (refines : Refines t T) : Announced t where
  unique i j live same := by
    have key : ∀ k, (t.devices k).conn.btaddr = (t.devices i).conn.btaddr →
        (T.slots k).key = some (t.devices i).conn.btaddr := by
      intro k twin
      have alive : (t.devices k).Live := by
        rw [HidDevice.Live, twin]
        exact live
      rw [refines.slots k, slot_of_live alive, twin]
    exact sound.unique i j _ (key i rfl) (key j same.symm)
  connected i := by
    have slot := (sound.slots i).connected
    rw [refines.slots i] at slot
    rw [refines.callbacks]
    exact slot.trans standing_notes.symm
  data before i ctl after same := by
    rw [refines.callbacks] at same
    obtain ⟨earlier, rest, split, rfl, later⟩ := List.map_eq_append_iff.mp same
    obtain ⟨note, last, rfl, this, -⟩ := List.map_eq_cons_iff.mp later
    obtain rfl : note = .data i ctl := callback_injective this
    exact standing_notes.mpr (sound.due earlier _ last split)
  disconnected before i after same := by
    rw [refines.callbacks] at same
    obtain ⟨earlier, rest, split, rfl, later⟩ := List.map_eq_append_iff.mp same
    obtain ⟨note, last, rfl, this, -⟩ := List.map_eq_cons_iff.mp later
    obtain rfl : note = .disconnected i := callback_injective this
    exact standing_notes.mpr (sound.due earlier _ last split)

theorem run_announced (l : AllowList) {es : List RadioEvent} (proper : ∀ e ∈ es, e.packet.Proper) :
    Announced ((bluepad l).run es) := by
  obtain ⟨T, reached, refines⟩ := run_refines l proper
  exact announced_of_refines (sound_reach sound_empty reached) refines

/-- No address is ever in two entries, so the lookup by address finds the entry that holds it. -/
theorem one_entry_per_address (l : AllowList) {es : List RadioEvent} (proper : ∀ e ∈ es, e.packet.Proper)
    {addr : BdAddr} (address : addr ≠ zeroAddr) (i : Fin 4) :
    uniHidDeviceGetInstanceForAddress addr ((bluepad l).run es) = some i ↔
      (((bluepad l).run es).devices i).conn.btaddr = addr := by
  refine ⟨forAddress_some, fun held => ?_⟩
  cases found : uniHidDeviceGetInstanceForAddress addr ((bluepad l).run es) with
  | none => exact (forAddress_none found i held).elim
  | some j =>
    have same := (forAddress_some found).trans held.symm
    exact congrArg some ((run_announced l proper).unique j i (forAddress_live found address) same)

theorem one_entry_per_address_gamepad :
    uniHidDeviceGetInstanceForAddress someAddr ((bluepad .zero).run bleGamepad) = some 0 ↔
      (((bluepad .zero).run bleGamepad).devices 0).conn.btaddr = someAddr :=
  one_entry_per_address .zero bleGamepad_proper (by decide) 0

/-- The platform hears of data only from devices it was told are ready, and of a disconnect exactly
when a connected device goes. -/
theorem callbacks_in_order (l : AllowList) {es : List RadioEvent} (proper : ∀ e ∈ es, e.packet.Proper) :
    (∀ i, (((bluepad l).run es).devices i).conn.connected ↔
      Standing (.deviceConnected i) (.deviceDisconnected i) ((bluepad l).run es).callbacks) ∧
    (∀ before i ctl after, ((bluepad l).run es).callbacks = before ++ .controllerData i ctl :: after →
      Standing (.deviceReady i) (.deviceDisconnected i) before) ∧
    ∀ before i after, ((bluepad l).run es).callbacks = before ++ .deviceDisconnected i :: after →
      Standing (.deviceConnected i) (.deviceDisconnected i) before :=
  ⟨(run_announced l proper).connected, (run_announced l proper).data, (run_announced l proper).disconnected⟩

theorem callbacks_in_order_gamepad :
    (∀ i, (((bluepad .zero).run bleGamepad).devices i).conn.connected ↔
      Standing (.deviceConnected i) (.deviceDisconnected i) ((bluepad .zero).run bleGamepad).callbacks) ∧
    (∀ before i ctl after,
      ((bluepad .zero).run bleGamepad).callbacks = before ++ .controllerData i ctl :: after →
      Standing (.deviceReady i) (.deviceDisconnected i) before) ∧
    ∀ before i after, ((bluepad .zero).run bleGamepad).callbacks = before ++ .deviceDisconnected i :: after →
      Standing (.deviceConnected i) (.deviceDisconnected i) before :=
  callbacks_in_order .zero bleGamepad_proper

example : ((bluepad .zero).run bleGamepad).callbacks =
    [.deviceConnected 0, .deviceReady 0, .controllerData 0 fullThrottle.controller] := by
  decide +kernel

/-! ### Whose commands the globals hold -/

/-- A device that stood connected when it sent the latest report is still connected. -/
theorem Announced.still_connected (announced : Announced t) {before : List (Callback (Fin 4))} {i : Fin 4}
    {ctl : UniController} (latest : Latest Callback.Writes t.callbacks before (.controllerData i ctl))
    (stood : Standing (.deviceConnected i) (.deviceDisconnected i) before) :
    (t.devices i).conn.connected := by
  obtain ⟨-, after, same, none⟩ := latest
  rw [announced.connected, same]
  refine stood.append fun cb member => ?_
  rcases List.mem_cons.mp member with rfl | later
  · exact fun h => by cases h
  · rintro rfl
    exact none _ later trivial

/-- The globals hold zeros, or the latest report. -/
theorem held_commands (callbacks : List (Callback (Fin 4))) :
    (platform (Fin 4)).run callbacks = Globals.zero ∨
      ∃ before i ctl, Latest Callback.Writes callbacks before (.controllerData i ctl) ∧
        (platform (Fin 4)).run callbacks = ctl.axes := by
  obtain ⟨written, zero⟩ := run_eq_written callbacks
  rcases latest_or_none Callback.Writes callbacks with ⟨before, cb, latest⟩ | absent
  · have held := written before cb latest
    cases cb with
    | controllerData i ctl => exact Or.inr ⟨before, i, ctl, latest, held⟩
    | _ => exact Or.inl held
  · exact Or.inl (zero absent)

/-- Commands other than zero are those of a device that was ready. It is still connected, or it was not
connected when it sent them. -/
theorem Announced.commands (announced : Announced t) :
    (platform (Fin 4)).run t.callbacks = Globals.zero ∨
      ∃ before i ctl, Latest Callback.Writes t.callbacks before (.controllerData i ctl) ∧
        (platform (Fin 4)).run t.callbacks = ctl.axes ∧
        Standing (.deviceReady i) (.deviceDisconnected i) before ∧
        ((t.devices i).conn.connected ∨ ¬Standing (.deviceConnected i) (.deviceDisconnected i) before) := by
  rcases held_commands t.callbacks with zero | ⟨before, i, ctl, latest, held⟩
  · exact Or.inl zero
  · refine Or.inr ⟨before, i, ctl, latest, held, ?_, ?_⟩
    · obtain ⟨-, after, same, -⟩ := latest
      exact announced.data before i ctl after same
    · by_cases stood : Standing (.deviceConnected i) (.deviceDisconnected i) before
      · exact Or.inl (announced.still_connected latest stood)
      · exact Or.inr stood

/-! ### Callbacks are never taken back -/

theorem act_callbacks (act : Act Seen t t') : t.callbacks <+: t'.callbacks := by
  cases act with
  | connect | ready | deliver | remove => exact List.prefix_append _ _
  | _ => exact List.prefix_rfl

theorem acts_callbacks (acts : ReflTransGen (Act Seen) t t') : t.callbacks <+: t'.callbacks := by
  induction acts with
  | refl => exact List.prefix_rfl
  | tail _ act earlier => exact earlier.trans (act_callbacks act)

theorem run_callbacks (l : AllowList) {es more : List RadioEvent} (proper : ∀ e ∈ es ++ more, e.packet.Proper) :
    ((bluepad l).run es).callbacks <+: ((bluepad l).run (es ++ more)).callbacks := by
  induction more using List.reverseRecOn with
  | nil => exact (List.append_nil es).symm ▸ List.prefix_rfl
  | append_singleton more e ih =>
    rw [← List.append_assoc] at proper ⊢
    have before : ∀ x ∈ es ++ more, x.packet.Proper := fun x member => proper x (List.mem_append_left _ member)
    refine (ih before).trans ?_
    obtain ⟨-, acts⟩ := run_acts l e (proper e (by simp)) (run_good l before)
    rw [Machine.run_snoc]
    exact acts_callbacks acts

end BukkisDrone.Bluetooth
