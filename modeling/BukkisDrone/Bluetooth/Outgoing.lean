import BukkisDrone.Queues.Ring
import BukkisDrone.Runs.Machine

/-!
# Outgoing reports

`uni_circular_buffer.c`, and the reports of `uni_hid_device.c` that wait in it while L2CAP is busy.
-/

namespace BukkisDrone.Bluetooth
open Queues Runs

abbrev circularBufferDataSize : ℕ := 128

/-- `data` holds the first `data_len` bytes of the source's array. -/
structure CircularBufferData where
  cid : Int16
  data : List UInt8
  deriving DecidableEq

structure CircularBuffer where
  buffer : Vector CircularBufferData 32
  headIdx : Fin 32
  tailIdx : Fin 32

inductive BufferError where
  | full | empty | tooBig
  deriving DecidableEq

def CircularBuffer.zero : CircularBuffer := ⟨Vector.replicate 32 ⟨0, []⟩, 0, 0⟩

def isEmpty (b : CircularBuffer) : Bool := b.headIdx == b.tailIdx

def isFull (b : CircularBuffer) : Bool :=
  b.tailIdx.val + 1 == b.headIdx.val || b.headIdx.val == 0 && b.tailIdx.val == 32 - 1

def advance (idx : Fin 32) : Fin 32 := if h : idx.val + 1 = 32 then 0 else ⟨idx.val + 1, by omega⟩

def circularBufferPut (b : CircularBuffer) (cid : Int16) (data : List UInt8) :
    Except BufferError CircularBuffer :=
  if isFull b then .error .full
  else if circularBufferDataSize ≤ data.length then .error .tooBig
  else .ok { b with buffer := b.buffer.set b.tailIdx ⟨cid, data⟩, tailIdx := advance b.tailIdx }

/-- The source hands out a pointer into the cell. The next `put` writes another cell. -/
def circularBufferGet (b : CircularBuffer) : Except BufferError (CircularBufferData × CircularBuffer) :=
  if isEmpty b then .error .empty
  else .ok (b.buffer.get b.headIdx, { b with headIdx := advance b.headIdx })

def circularBufferReset (b : CircularBuffer) : CircularBuffer := { b with headIdx := 0, tailIdx := 0 }

/-! ### The buffer is a ring of 32 cells -/

def CircularBuffer.ring (b : CircularBuffer) : Ring CircularBufferData 31 :=
  ⟨b.buffer, b.headIdx, b.tailIdx⟩

def CircularBuffer.queue (b : CircularBuffer) : List CircularBufferData := b.ring.contents

theorem advance_eq (idx : Fin 32) : advance idx = idx + 1 := by
  revert idx
  decide

theorem isEmpty_iff (b : CircularBuffer) : isEmpty b ↔ b.queue = [] := by
  rw [CircularBuffer.queue, ← Ring.empty_iff, isEmpty, beq_iff_eq]
  rfl

theorem isFull_iff (b : CircularBuffer) : isFull b ↔ b.queue.length = 31 := by
  rw [CircularBuffer.queue, ← Ring.full_iff, Ring.Full, isFull]
  simp only [Bool.or_eq_true, Bool.and_eq_true, beq_iff_eq, Fin.ext_iff, Fin.val_add]
  have head := b.headIdx.isLt
  have tail := b.tailIdx.isLt
  simp only [CircularBuffer.ring, Fin.val_one]
  omega

theorem put_full {b : CircularBuffer} (full : b.queue.length = 31) (cid : Int16) (data : List UInt8) :
    circularBufferPut b cid data = .error .full := if_pos ((isFull_iff b).mpr full)

theorem put_tooBig {b : CircularBuffer} (room : b.queue.length ≠ 31) (cid : Int16) {data : List UInt8}
    (big : 128 ≤ data.length) : circularBufferPut b cid data = .error .tooBig := by
  rw [circularBufferPut, if_neg (mt (isFull_iff b).mp room)]
  exact if_pos big

theorem put_ok {b : CircularBuffer} (room : b.queue.length ≠ 31) (cid : Int16) {data : List UInt8}
    (fits : data.length < 128) :
    ∃ b', circularBufferPut b cid data = .ok b' ∧ b'.queue = b.queue ++ [⟨cid, data⟩] := by
  rw [circularBufferPut, if_neg (mt (isFull_iff b).mp room), if_neg (not_le.mpr fits)]
  refine ⟨_, rfl, ?_⟩
  rw [advance_eq]
  exact b.ring.contents_put ⟨cid, data⟩ (mt (Ring.full_iff _).mp room)

theorem get_empty {b : CircularBuffer} (none : b.queue = []) : circularBufferGet b = .error .empty :=
  if_pos ((isEmpty_iff b).mpr none)

theorem get_ok {b : CircularBuffer} {x : CircularBufferData} {rest : List CircularBufferData}
    (some : b.queue = x :: rest) : ∃ b', circularBufferGet b = .ok (x, b') ∧ b'.queue = rest := by
  have full : ¬isEmpty b := by
    rw [isEmpty_iff, some]
    exact List.cons_ne_nil x rest
  have split : b.queue = b.ring.get.1 :: b.ring.get.2.contents :=
    b.ring.contents_get fun same => full ((isEmpty_iff b).mpr ((Ring.empty_iff _).mp same))
  obtain ⟨first, later⟩ := List.cons.inj (some.symm.trans split)
  refine ⟨{ b with headIdx := b.headIdx + 1 }, ?_, later.symm⟩
  rw [circularBufferGet, if_neg full, advance_eq, first]
  rfl

theorem queue_reset (b : CircularBuffer) : (circularBufferReset b).queue = [] :=
  (isEmpty_iff _).mp rfl

theorem queue_zero : CircularBuffer.zero.queue = [] := (isEmpty_iff _).mp rfl

/-! ### Every run of the buffer -/

inductive BufferCall where
  | put (cid : Int16) (data : List UInt8)
  | get
  | reset

inductive BufferAnswer where
  | done
  | report (x : CircularBufferData)
  | failed (e : BufferError)

/-- The buffer with the answers it has given. -/
def circularBuffer : Machine (CircularBuffer × List BufferAnswer) BufferCall where
  init := (CircularBuffer.zero, [])
  step s call := match call with
    | .put cid data => match circularBufferPut s.1 cid data with
      | .ok b => (b, s.2 ++ [.done])
      | .error e => (s.1, s.2 ++ [.failed e])
    | .get => match circularBufferGet s.1 with
      | .ok (x, b) => (b, s.2 ++ [.report x])
      | .error e => (s.1, s.2 ++ [.failed e])
    | .reset => (circularBufferReset s.1, s.2 ++ [.done])

/-- What the buffer is for: a first-in first-out queue of at most 31 reports of less than 128 bytes. -/
def boundedFifo : Machine (List CircularBufferData × List BufferAnswer) BufferCall where
  init := ([], [])
  step s call := match call, s.1 with
    | .put cid data, queue =>
      if queue.length = 31 then (queue, s.2 ++ [.failed .full])
      else if 128 ≤ data.length then (queue, s.2 ++ [.failed .tooBig])
      else (queue ++ [⟨cid, data⟩], s.2 ++ [.done])
    | .get, [] => ([], s.2 ++ [.failed .empty])
    | .get, x :: rest => (rest, s.2 ++ [.report x])
    | .reset, _ => ([], s.2 ++ [.done])

theorem circularBuffer_step (b : CircularBuffer) (answers : List BufferAnswer) (call : BufferCall) :
    ((circularBuffer.step (b, answers) call).1.queue, (circularBuffer.step (b, answers) call).2) =
      boundedFifo.step (b.queue, answers) call := by
  cases call with
  | put cid data =>
    by_cases full : b.queue.length = 31
    · simp [circularBuffer, boundedFifo, put_full full, full]
    by_cases big : 128 ≤ data.length
    · simp [circularBuffer, boundedFifo, put_tooBig full cid big, full, big]
    · obtain ⟨b', put, queue⟩ := put_ok full cid (not_le.mp big)
      simp [circularBuffer, boundedFifo, put, queue, full, big]
  | get =>
    cases h : b.queue with
    | nil => simp [circularBuffer, boundedFifo, get_empty h, h]
    | cons x rest =>
      obtain ⟨b', got, queue⟩ := get_ok h
      simp [circularBuffer, boundedFifo, got, queue]
  | reset => simp [circularBuffer, boundedFifo, queue_reset]

/-- Over every sequence of calls the buffer answers as the bounded queue does. -/
theorem circularBuffer_fifo (calls : List BufferCall) :
    ((circularBuffer.run calls).1.queue, (circularBuffer.run calls).2) = boundedFifo.run calls := by
  have kept := Machine.run_related (M := circularBuffer) (N := boundedFifo) (f := id)
    (R := fun s t => (s.1.queue, s.2) = t) (Prod.ext queue_zero rfl)
    (fun s t call same => by rw [← same]; exact circularBuffer_step s.1 s.2 call) calls
  rwa [List.map_id] at kept

/-! ### The reports of a device -/

abbrev Report := UInt16 × List UInt8

/-- The buffer, and what became of the reports that left it or never entered it. -/
structure Outgoing where
  buffer : CircularBuffer
  sent : List Report
  dropped : List Report

/-- `err` is what `l2cap_send` answers. -/
def uniHidDeviceSendReport (o : Outgoing) (cid : UInt16) (report : List UInt8) (err : Int32) : Outgoing :=
  if cid = 0 then o
  else if report = [] then o
  else if err ≠ 0 then
    match circularBufferPut o.buffer cid.toInt16 report with
    | .ok buffer => { o with buffer := buffer }
    | .error _ => { o with dropped := o.dropped ++ [(cid, report)] }
  else { o with sent := o.sent ++ [(cid, report)] }

def uniHidDeviceSendQueuedReports (o : Outgoing) (err : Int32) : Outgoing :=
  if isEmpty o.buffer then o
  else match circularBufferGet o.buffer with
    | .error _ => o
    | .ok (x, buffer) => uniHidDeviceSendReport { o with buffer := buffer } x.cid.toUInt16 x.data err

inductive SendEvent where
  | sendReport (cid : UInt16) (report : List UInt8) (err : Int32)
  | canSendNow (err : Int32)

def outgoing : Machine Outgoing SendEvent where
  init := ⟨CircularBuffer.zero, [], []⟩
  step o e := match e with
    | .sendReport cid report err => uniHidDeviceSendReport o cid report err
    | .canSendNow err => uniHidDeviceSendQueuedReports o err

@[simp] theorem outgoing_sendReport (o : Outgoing) (cid : UInt16) (report : List UInt8) (err : Int32) :
    outgoing.step o (.sendReport cid report err) = uniHidDeviceSendReport o cid report err := rfl

@[simp] theorem outgoing_canSendNow (o : Outgoing) (err : Int32) :
    outgoing.step o (.canSendNow err) = uniHidDeviceSendQueuedReports o err := rfl

def Outgoing.queued (o : Outgoing) : List Report := o.buffer.queue.map fun x => (x.cid.toUInt16, x.data)

/-- The reports that pass the checks on entry. -/
def SendEvent.submitted : SendEvent → List Report
  | .sendReport cid report _ => if cid ≠ 0 ∧ report ≠ [] then [(cid, report)] else []
  | .canSendNow _ => []

/-- What waits was checked on its way in, so that it passes the same checks on its way out. -/
def Outgoing.Checked (o : Outgoing) : Prop :=
  ∀ x ∈ o.buffer.queue, x.cid.toUInt16 ≠ 0 ∧ x.data ≠ [] ∧ x.data.length < 128

/-- What one call to `uni_hid_device_send_report` does with a report that passes the checks. -/
theorem sendReport_cases (o : Outgoing) {cid : UInt16} (valid : cid ≠ 0) {report : List UInt8}
    (some : report ≠ []) (err : Int32) :
    (err = 0 ∧ uniHidDeviceSendReport o cid report err = { o with sent := o.sent ++ [(cid, report)] }) ∨
    (err ≠ 0 ∧ o.buffer.queue.length ≠ 31 ∧ report.length < 128 ∧
      ∃ buffer, uniHidDeviceSendReport o cid report err = { o with buffer := buffer } ∧
        buffer.queue = o.buffer.queue ++ [⟨cid.toInt16, report⟩]) ∨
    (err ≠ 0 ∧ (o.buffer.queue.length = 31 ∨ 128 ≤ report.length) ∧
      uniHidDeviceSendReport o cid report err =
        { o with dropped := o.dropped ++ [(cid, report)] }) := by
  rw [uniHidDeviceSendReport, if_neg valid, if_neg some]
  by_cases ok : err = 0
  · exact Or.inl ⟨ok, if_neg (not_not.mpr ok)⟩
  rw [if_pos ok]
  by_cases full : o.buffer.queue.length = 31
  · exact Or.inr (Or.inr ⟨ok, Or.inl full, by rw [put_full full]⟩)
  by_cases big : 128 ≤ report.length
  · exact Or.inr (Or.inr ⟨ok, Or.inr big, by rw [put_tooBig full _ big]⟩)
  · obtain ⟨buffer, put, queue⟩ := put_ok full cid.toInt16 (not_le.mp big)
    exact Or.inr (Or.inl ⟨ok, full, not_le.mp big, buffer, by rw [put], queue⟩)

theorem sendReport_skipped (o : Outgoing) {cid : UInt16} {report : List UInt8}
    (invalid : ¬(cid ≠ 0 ∧ report ≠ [])) (err : Int32) : uniHidDeviceSendReport o cid report err = o := by
  rw [uniHidDeviceSendReport]
  split
  · rfl
  · rw [if_pos]
    by_contra some
    exact invalid ⟨by assumption, some⟩

/-- A waiting report is sent, or goes to the back of the queue. It is never dropped. -/
theorem sendQueued_cases {o : Outgoing} (checked : o.Checked) {x : CircularBufferData}
    {rest : List CircularBufferData} (queue : o.buffer.queue = x :: rest) (err : Int32) :
    ∃ buffer, (err = 0 ∧ buffer.queue = rest ∧ uniHidDeviceSendQueuedReports o err =
        { o with buffer := buffer, sent := o.sent ++ [(x.cid.toUInt16, x.data)] }) ∨
      (err ≠ 0 ∧ buffer.queue = rest ++ [x] ∧
        uniHidDeviceSendQueuedReports o err = { o with buffer := buffer }) := by
  obtain ⟨valid, some, fits⟩ := checked x (by rw [queue]; exact List.mem_cons_self)
  obtain ⟨buffer, got, left⟩ := get_ok queue
  have nonempty : ¬isEmpty o.buffer := by
    rw [isEmpty_iff, queue]
    exact List.cons_ne_nil x rest
  have bound : o.buffer.queue.length < 32 := o.buffer.ring.length_contents ▸ o.buffer.ring.length_lt
  have room : buffer.queue.length ≠ 31 := by
    rw [queue, List.length_cons] at bound
    rw [left]
    omega
  have call : uniHidDeviceSendQueuedReports o err =
      uniHidDeviceSendReport { o with buffer := buffer } x.cid.toUInt16 x.data err := by
    rw [uniHidDeviceSendQueuedReports, if_neg nonempty, got]
  rw [call]
  rcases sendReport_cases { o with buffer := buffer } valid some err with
    ⟨ok, same⟩ | ⟨failed, -, -, again, same, back⟩ | ⟨-, full | big, -⟩
  · exact ⟨buffer, Or.inl ⟨ok, left, same⟩⟩
  · exact ⟨again, Or.inr ⟨failed, by rw [back, left]; simp, same⟩⟩
  · exact absurd full room
  · exact absurd fits (not_lt.mpr big)

theorem sendQueued_empty {o : Outgoing} (queue : o.buffer.queue = []) (err : Int32) :
    uniHidDeviceSendQueuedReports o err = o := if_pos ((isEmpty_iff _).mpr queue)

theorem checked_step {o : Outgoing} (checked : o.Checked) (e : SendEvent) :
    (outgoing.step o e).Checked := by
  cases e with
  | sendReport cid report err =>
    by_cases valid : cid ≠ 0 ∧ report ≠ []
    · rcases sendReport_cases o valid.1 valid.2 err with ⟨-, same⟩ | ⟨-, -, fits, _, same, queue⟩ | ⟨-, -, same⟩
      · exact (congrArg Outgoing.Checked same).mpr checked
      · refine (congrArg Outgoing.Checked same).mpr fun x member => ?_
        rw [queue, List.mem_append, List.mem_singleton] at member
        rcases member with old | rfl
        · exact checked x old
        · exact ⟨by simpa using valid.1, valid.2, fits⟩
      · exact (congrArg Outgoing.Checked same).mpr checked
    · exact (congrArg Outgoing.Checked (sendReport_skipped o valid err)).mpr checked
  | canSendNow err =>
    cases queue : o.buffer.queue with
    | nil => exact (congrArg Outgoing.Checked (sendQueued_empty queue err)).mpr checked
    | cons x rest =>
      obtain ⟨buffer, ⟨-, left, same⟩ | ⟨-, left, same⟩⟩ := sendQueued_cases checked queue err
      all_goals
        refine (congrArg Outgoing.Checked same).mpr fun y member => checked y ?_
        rw [left] at member
        rw [queue]
        simp only [List.mem_append, List.mem_cons] at member ⊢
        tauto

theorem outgoing_checked (events : List SendEvent) : (outgoing.run events).Checked :=
  Machine.run_history (M := outgoing) (P := fun _ o => o.Checked)
    (fun x member => by rw [show outgoing.init.buffer.queue = [] from queue_zero] at member; cases member)
    (fun _ e => fun checked => checked_step checked e) events

theorem outgoing_step_perm {o : Outgoing} (checked : o.Checked) (e : SendEvent) :
    ((outgoing.step o e).sent ++ (outgoing.step o e).queued ++ (outgoing.step o e).dropped).Perm
      (o.sent ++ o.queued ++ o.dropped ++ e.submitted) := by
  cases e with
  | sendReport cid report err =>
    by_cases valid : cid ≠ 0 ∧ report ≠ []
    · rw [SendEvent.submitted, if_pos valid, outgoing]
      rcases sendReport_cases o valid.1 valid.2 err with ⟨-, same⟩ | ⟨-, -, -, _, same, queue⟩ | ⟨-, -, same⟩
      · simp only [same, Outgoing.queued]
        grind
      · simp only [same, Outgoing.queued, queue, List.map_append, List.map_singleton,
          UInt16.toUInt16_toInt16]
        grind
      · simp only [same, Outgoing.queued]
        grind
    · rw [SendEvent.submitted, if_neg valid, outgoing, List.append_nil]
      simp only [sendReport_skipped o valid err]
      rfl
  | canSendNow err =>
    rw [SendEvent.submitted, outgoing, List.append_nil]
    cases queue : o.buffer.queue with
    | nil => simp only [sendQueued_empty queue err]; rfl
    | cons x rest =>
      obtain ⟨buffer, ⟨-, left, same⟩ | ⟨-, left, same⟩⟩ := sendQueued_cases checked queue err
      · simp only [same, Outgoing.queued, left, queue, List.map_cons]
        grind
      · simp only [same, Outgoing.queued, left, queue, List.map_cons, List.map_append]
        grind

/-- Over every run each report is sent once, or waits once, or was dropped once. -/
theorem outgoing_perm (events : List SendEvent) :
    ((outgoing.run events).sent ++ (outgoing.run events).queued ++ (outgoing.run events).dropped).Perm
      (events.flatMap SendEvent.submitted) := by
  induction events using List.reverseRecOn with
  | nil => simp [outgoing, Outgoing.queued, queue_zero]
  | append_singleton events e ih =>
    rw [Machine.run_snoc, List.flatMap_append, List.flatMap_singleton]
    exact (outgoing_step_perm (outgoing_checked events) e).trans (ih.append_right _)

/-- A report is dropped only on submission, when L2CAP refuses it and the buffer is full or the
report too long for it. -/
def Refused (events : List SendEvent) (d : Report) : Prop :=
  ∃ before err after, events = before ++ .sendReport d.1 d.2 err :: after ∧ err ≠ 0 ∧
    ((outgoing.run before).queued.length = 31 ∨ 128 ≤ d.2.length)

theorem Refused.snoc {events : List SendEvent} {d : Report} (refused : Refused events d) (e : SendEvent) :
    Refused (events ++ [e]) d := by
  obtain ⟨before, err, after, same, failed, why⟩ := refused
  exact ⟨before, err, after ++ [e], by rw [same]; simp, failed, why⟩

theorem step_dropped {o : Outgoing} (checked : o.Checked) {e : SendEvent} {d : Report}
    (member : d ∈ (outgoing.step o e).dropped) : d ∈ o.dropped ∨
      ∃ err, e = .sendReport d.1 d.2 err ∧ err ≠ 0 ∧ (o.queued.length = 31 ∨ 128 ≤ d.2.length) := by
  cases e with
  | sendReport cid report err =>
    rw [outgoing_sendReport] at member
    by_cases valid : cid ≠ 0 ∧ report ≠ []
    · rcases sendReport_cases o valid.1 valid.2 err with ⟨-, same⟩ | ⟨-, -, -, _, same, -⟩ | ⟨failed, why, same⟩
      · exact Or.inl (by rwa [same] at member)
      · exact Or.inl (by rwa [same] at member)
      · rw [same, List.mem_append, List.mem_singleton] at member
        rcases member with old | rfl
        · exact Or.inl old
        · exact Or.inr ⟨err, rfl, failed, by rwa [Outgoing.queued, List.length_map]⟩
    · exact Or.inl (by rwa [sendReport_skipped o valid] at member)
  | canSendNow err =>
    rw [outgoing_canSendNow] at member
    cases queue : o.buffer.queue with
    | nil => exact Or.inl (by rwa [sendQueued_empty queue] at member)
    | cons x rest =>
      obtain ⟨buffer, ⟨-, -, same⟩ | ⟨-, -, same⟩⟩ := sendQueued_cases checked queue err
      all_goals exact Or.inl (by rwa [same] at member)

theorem outgoing_dropped (events : List SendEvent) :
    ∀ d ∈ (outgoing.run events).dropped, Refused events d := by
  induction events using List.reverseRecOn with
  | nil => exact fun d member => absurd member List.not_mem_nil
  | append_singleton events e ih =>
    rw [Machine.run_snoc]
    intro d member
    rcases step_dropped (outgoing_checked events) member with old | ⟨err, rfl, failed, why⟩
    · exact (ih d old).snoc e
    · exact ⟨events, err, [], rfl, failed, why⟩

theorem outgoing_conserved (events : List SendEvent) :
    ((outgoing.run events).sent ++ (outgoing.run events).queued ++ (outgoing.run events).dropped).Perm
        (events.flatMap SendEvent.submitted) ∧
      ∀ d ∈ (outgoing.run events).dropped, Refused events d :=
  ⟨outgoing_perm events, outgoing_dropped events⟩

/-- When nothing new is submitted, `k` free slots of L2CAP send the `k` oldest waiting reports in the
order they came. -/
theorem outgoing_drain (events : List SendEvent) (k : ℕ) :
    (outgoing.run (events ++ List.replicate k (.canSendNow 0))).sent =
        (outgoing.run events).sent ++ (outgoing.run events).queued.take k ∧
      (outgoing.run (events ++ List.replicate k (.canSendNow 0))).queued =
        (outgoing.run events).queued.drop k := by
  induction k with
  | zero => simp
  | succ k ih =>
    obtain ⟨sent, queued⟩ := ih
    rw [List.replicate_succ', ← List.append_assoc, Machine.run_snoc]
    have checked := outgoing_checked (events ++ List.replicate k (.canSendNow 0))
    generalize outgoing.run (events ++ List.replicate k (.canSendNow 0)) = o at sent queued checked ⊢
    generalize (outgoing.run events).queued = waiting at sent queued ⊢
    cases queue : o.buffer.queue with
    | nil =>
      have short : waiting.drop k = [] := by rw [← queued, Outgoing.queued, queue, List.map_nil]
      have done := List.drop_eq_nil_iff.mp short
      rw [outgoing_canSendNow, sendQueued_empty queue, sent, queued, short, List.take_of_length_le done, List.take_of_length_le (by omega),
        List.drop_of_length_le (by omega)]
      exact ⟨rfl, rfl⟩
    | cons x rest =>
      obtain ⟨buffer, ⟨-, left, same⟩ | ⟨failed, -, -⟩⟩ := sendQueued_cases checked queue 0
      · have head : waiting.drop k = (x.cid.toUInt16, x.data) :: buffer.queue.map fun x => (x.cid.toUInt16, x.data) := by
          rw [← queued, Outgoing.queued, queue, left, List.map_cons]
        rw [outgoing_canSendNow, same]
        simp only [sent, Outgoing.queued, List.append_assoc]
        constructor
        · rw [List.take_add_one, ← List.head?_drop, head]
          rfl
        · rw [← List.tail_drop, head]
          rfl
      · exact absurd rfl failed

end BukkisDrone.Bluetooth
