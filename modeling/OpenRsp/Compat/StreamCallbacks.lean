import OpenRsp.Library.Ring
import OpenRsp.Library.Runs
import Mathlib.Data.UInt

/-!
# The stream callback queue

`queue_stream_callback`, `emit_update_ack` and the body of
`stream_callback_thread_main` in `compat/sdrplay_api_compat.c`.  Both tuners
share one ring of frames.  When it is full the oldest frame is dropped and
its flags are merged into the newest one, whichever tuner that belongs to.
A flag therefore stays on its own stream as long as the two frames of a
merge belong to one tuner.
-/

namespace OpenRsp

open Rings Runs

/-! ## Frames and callbacks -/

/-- `sdrplay_api_TunerSelectT`. -/
inductive TunerSelect where
  | neither
  | a
  | b
  | both
deriving DecidableEq, Repr

/-- `sdrplay_api_RspDuoModeT`. -/
inductive RspDuoMode where
  | unknown
  | singleTuner
  | dualTuner
  | master
  | slave
deriving DecidableEq, Repr

/-- The flags a frame carries to its callback. -/
structure FrameFlags where
  reset : Bool
  grChanged : Bool
  rfChanged : Bool
  fsChanged : Bool
deriving DecidableEq, Repr

/-- The name of one of them. -/
inductive FrameFlag where
  | reset
  | grChanged
  | rfChanged
  | fsChanged
deriving DecidableEq, Repr

namespace FrameFlags

def none : FrameFlags := ⟨false, false, false, false⟩

/-- Whether a flag is set. -/
def has (flags : FrameFlags) : FrameFlag → Bool
  | .reset => flags.reset
  | .grChanged => flags.grChanged
  | .rfChanged => flags.rfChanged
  | .fsChanged => flags.fsChanged

/-- The C `||` of two sets of flags. -/
def merge (flags carried : FrameFlags) : FrameFlags where
  reset := flags.reset || carried.reset
  grChanged := flags.grChanged || carried.grChanged
  rfChanged := flags.rfChanged || carried.rfChanged
  fsChanged := flags.fsChanged || carried.fsChanged

@[simp]
theorem has_none (flag : FrameFlag) : FrameFlags.none.has flag = false := by
  cases flag <;> rfl

@[simp]
theorem has_merge (flags carried : FrameFlags) (flag : FrameFlag) :
    (flags.merge carried).has flag = (flags.has flag || carried.has flag) := by
  cases flag <;> rfl

end FrameFlags

/-- `compat_stream_frame`. -/
structure StreamFrame where
  samples : Nat
  tuner : TunerSelect
  firstSample : UInt32
  flags : FrameFlags
  xi : List Int16
  xq : List Int16
deriving DecidableEq, Repr

/-- The two callback functions of an application. -/
inductive StreamFunction where
  | streamA
  | streamB
deriving DecidableEq, Repr

/-- One call of a stream callback: the function, the tuner whose frame it
delivers and its arguments. -/
structure StreamCallback where
  function : StreamFunction
  tuner : TunerSelect
  firstSampleNum : UInt32
  flags : FrameFlags
  numSamples : Nat
  xi : List Int16
  xq : List Int16
deriving DecidableEq, Repr

/-! ## The device -/

/-- `OPENRSP_STREAM_QUEUE_CAPACITY` of the POSIX build. -/
def openrspStreamQueueCapacity : Nat := 8

/-- The part of `compat_device_context` the callback queue uses. -/
structure CallbackDevice where
  mode : RspDuoMode
  streamQueue : Ring StreamFrame openrspStreamQueueCapacity
  streamCallbackStop : Bool
  streamCallbackPaused : Bool
  streamCallbackDropCount : UInt32
  streamCallbackNextSample : UInt32
  streamCallbackNextSampleB : UInt32
  streamCallbackSeen : Bool
  streamCallbackSeenB : Bool

namespace CallbackDevice

/-- What `start_stream_callback_thread` leaves when the thread could be
created. -/
def startStreamCallbackThread (device : CallbackDevice) : CallbackDevice :=
  { device with
    streamQueue := device.streamQueue.clear
    streamCallbackStop := false
    streamCallbackPaused := false
    streamCallbackDropCount := 0
    streamCallbackSeen := false
    streamCallbackSeenB := false }

/-- The frame stored for a call of `queue_stream_callback`, whose arguments
and scratch buffers `frame` holds. -/
def storedFrame (frame : StreamFrame) (carried : FrameFlags) : StreamFrame :=
  { frame with
    flags := frame.flags.merge carried
    xi := frame.xi.take frame.samples
    xq := frame.xq.take frame.samples }

/-- `queue_stream_callback`. -/
def queueStreamCallback (device : CallbackDevice) (frame : StreamFrame) : CallbackDevice :=
  if device.streamCallbackPaused ∨ device.streamCallbackStop then device
  else if full : device.streamQueue.count = openrspStreamQueueCapacity then
    { device with
      streamQueue := device.streamQueue.dropFront.pushBack
          (storedFrame frame device.streamQueue.front.flags)
          device.streamQueue.dropFront_room
      streamCallbackDropCount := device.streamCallbackDropCount + 1 }
  else
    { device with
      streamQueue := device.streamQueue.pushBack (storedFrame frame .none)
          (lt_of_le_of_ne device.streamQueue.countBound full) }

/-- The frame `emit_update_ack` queues at a tuner's current sample number. -/
def updateAck (tuner : TunerSelect) (sampleNumber : UInt32)
    (fsChanged rfChanged grChanged : Bool) : StreamFrame where
  samples := 0
  tuner := tuner
  firstSample := sampleNumber
  flags := ⟨false, grChanged, rfChanged, fsChanged⟩
  xi := []
  xq := []

/-! ## The callback thread -/

/-- The values `callback_samples` takes. -/
inductive CallbackSize where
  | standard
  | large
deriving DecidableEq, Repr

def CallbackSize.samples : CallbackSize → Nat
  | .standard => 1344
  | .large => 2016

/-- The application's function for a tuner. -/
def callbackFunction (mode : RspDuoMode) (tuner : TunerSelect) :
    StreamFunction :=
  if tuner = .b ∧ mode = .dualTuner then .streamB else .streamA

section Delivery

variable (mode : RspDuoMode) (frame : StreamFrame) (flags : FrameFlags)

/-- The call that delivers `chunk` samples from `offset` on; the flags go
with the first sample. -/
def chunkCallback (offset chunk : Nat) : StreamCallback where
  function := callbackFunction mode frame.tuner
  tuner := frame.tuner
  firstSampleNum := frame.firstSample + UInt32.ofNat offset
  flags := if offset = 0 then flags else .none
  numSamples := chunk
  xi := (frame.xi.drop offset).take chunk
  xq := (frame.xq.drop offset).take chunk

variable (loads : Nat → CallbackSize)

/-- The loop over the samples of a frame.  `loads` are the successive
readings of `callback_samples`; every turn delivers at least one sample, so
the number of samples bounds the turns. -/
def deliverChunks : (turns offset load : Nat) → List StreamCallback
  | 0, _, _ => []
  | turns + 1, offset, load =>
      if offset < frame.samples then
        let chunk := min (frame.samples - offset) (loads load).samples
        chunkCallback mode frame flags offset chunk ::
          deliverChunks turns (offset + chunk) (load + 1)
      else []

/-- The calls that deliver a frame. -/
def frameCallbacks : List StreamCallback :=
  if frame.samples = 0 then [chunkCallback mode frame flags 0 0]
  else deliverChunks mode frame flags loads frame.samples 0 0

end Delivery

/-- The flags of a frame's first callback; a gap in the samples resets. -/
def deliveredFlags (device : CallbackDevice) (frame : StreamFrame) :
    FrameFlags :=
  let seen :=
    if frame.tuner = .b then device.streamCallbackSeenB
    else device.streamCallbackSeen
  let next :=
    if frame.tuner = .b then device.streamCallbackNextSampleB
    else device.streamCallbackNextSample
  { frame.flags with
    reset := frame.flags.reset || !seen || frame.firstSample != next }

/-- The device once a frame has been taken off the queue. -/
def dequeued (device : CallbackDevice) (frame : StreamFrame) :
    CallbackDevice :=
  let next := frame.firstSample + UInt32.ofNat frame.samples
  let taken := { device with streamQueue := device.streamQueue.dropFront }
  if frame.tuner = .b then
    { taken with
      streamCallbackSeenB := true
      streamCallbackNextSampleB := next }
  else
    { taken with
      streamCallbackSeen := true
      streamCallbackNextSample := next }

/-- One turn of the loop of `stream_callback_thread_main`: the device it
leaves and the calls it made.  The thread waits while there is nothing to
deliver. -/
def streamCallbackThreadTurn (device : CallbackDevice) (loads : Nat → CallbackSize) :
    CallbackDevice × List StreamCallback :=
  if device.streamCallbackStop ∨ device.streamQueue.count = 0 ∨
      device.streamCallbackPaused then
    (device, [])
  else
    let frame := device.streamQueue.front
    (device.dequeued frame, frameCallbacks device.mode frame (device.deliveredFlags frame) loads)

/-- Neither paused nor stopping. -/
structure Open (device : CallbackDevice) : Prop where
  notPaused : device.streamCallbackPaused = false
  notStopped : device.streamCallbackStop = false

end CallbackDevice

/-! ## What a delivery says -/

section Delivery

open CallbackDevice

variable (mode : RspDuoMode) (frame : StreamFrame) (flags : FrameFlags)
variable (loads : Nat → CallbackSize)

theorem CallbackDevice.CallbackSize.samples_pos (size : CallbackSize) : 0 < size.samples := by
  cases size <;> decide

theorem deliverChunks_within (turns offset load : Nat) :
    ∀ callback ∈ deliverChunks mode frame flags loads turns offset load,
      callback.tuner = frame.tuner ∧
        ∀ flag, callback.flags.has flag = true → flags.has flag = true := by
  induction turns generalizing offset load with
  | zero => simp [deliverChunks]
  | succ turns inductionHypothesis =>
      intro callback member
      by_cases inside : offset < frame.samples
      · simp only [deliverChunks, if_pos inside, List.mem_cons] at member
        rcases member with rfl | later
        · refine ⟨rfl, fun flag set => ?_⟩
          by_cases first : offset = 0
          · simpa [chunkCallback, first] using set
          · simp [chunkCallback, first] at set
        · exact inductionHypothesis _ _ callback later
      · simp [deliverChunks, inside] at member

/-- A frame's callbacks belong to its tuner and carry none but its flags. -/
theorem frameCallbacks_within : ∀ callback ∈ frameCallbacks mode frame flags loads,
      callback.tuner = frame.tuner ∧
        ∀ flag, callback.flags.has flag = true → flags.has flag = true := by
  unfold frameCallbacks
  split_ifs with empty
  · intro callback member
    rw [List.mem_singleton] at member
    subst member
    exact ⟨rfl, fun _ set => set⟩
  · exact deliverChunks_within mode frame flags loads _ _ _

/-- One of them carries them all. -/
theorem frameCallbacks_carry : ∃ callback ∈ frameCallbacks mode frame flags loads,
      callback.tuner = frame.tuner ∧ callback.flags = flags := by
  unfold frameCallbacks
  split_ifs with empty
  · exact ⟨_, List.mem_singleton_self _, rfl, rfl⟩
  · obtain ⟨turns, counted⟩ := Nat.exists_eq_succ_of_ne_zero empty
    have first : 0 < frame.samples := Nat.pos_of_ne_zero empty
    rw [counted]
    simp only [deliverChunks, if_pos first]
    exact ⟨_, List.mem_cons_self, rfl, rfl⟩

end Delivery

/-! ## Histories -/

/-- A callback together with the number of the frame it delivers, counted
over all calls of `queue_stream_callback`. -/
structure Delivery where
  number : Nat
  callback : StreamCallback
deriving DecidableEq, Repr

/-- The device, the frames queued so far and the callbacks made. -/
structure CallbackHistory where
  device : CallbackDevice
  queued : List StreamFrame
  delivered : List Delivery

/-- What happens to the queue between a start and a pause or stop. -/
inductive CallbackAction where
  | queue (frame : StreamFrame)
  | turn (loads : Nat → CallbackDevice.CallbackSize)

namespace CallbackHistory

/-- Nothing has been queued yet. -/
def start (device : CallbackDevice) : CallbackHistory := ⟨device, [], []⟩

/-- The number of the oldest frame still queued. -/
def oldest (history : CallbackHistory) : Nat :=
  history.queued.length - history.device.streamQueue.count

def step (history : CallbackHistory) : CallbackAction → CallbackHistory
  | .queue frame =>
      { history with
        device := history.device.queueStreamCallback frame
        queued := history.queued ++ [frame] }
  | .turn loads =>
      let turn := history.device.streamCallbackThreadTurn loads
      { history with
        device := turn.1
        delivered := history.delivered ++ turn.2.map (Delivery.mk history.oldest) }

/-- Each flag stays on the stream it was queued for. -/
structure FlagsKept (history : CallbackHistory) : Prop where
  /-- A flag of a queued frame has been delivered to its tuner, with that
  frame or a later one, or waits in the queue for that tuner. -/
  carried : ∀ number frame, history.queued[number]? = some frame →
      ∀ flag, frame.flags.has flag = true → (∃ delivery ∈ history.delivered,
          delivery.callback.tuner = frame.tuner ∧
            number ≤ delivery.number ∧
            delivery.callback.flags.has flag = true) ∨
          ∃ waiting ∈ history.device.streamQueue.toList,
            waiting.tuner = frame.tuner ∧ waiting.flags.has flag = true
  /-- A callback announces a change only if a frame of its tuner did. -/
  own : ∀ delivery ∈ history.delivered, ∀ flag, flag ≠ .reset →
      delivery.callback.flags.has flag = true → ∃ frame ∈ history.queued,
          frame.tuner = delivery.callback.tuner ∧ frame.flags.has flag = true

/-- A frame that is queued while the ring is full does no harm to the flags
of the frame that gives way: both belong to one tuner, or the flag is carried
by another queued frame of the old tuner and by the new frame itself. -/
def MergesSafely (history : CallbackHistory) : CallbackAction → Prop
  | .queue frame =>
      ∀ dropped rest,
        history.device.streamQueue.toList = dropped :: rest →
        rest.length + 1 = openrspStreamQueueCapacity →
        ∀ flag, dropped.flags.has flag = true → dropped.tuner = frame.tuner ∨
            (∃ other ∈ rest,
              other.tuner = dropped.tuner ∧ other.flags.has flag = true) ∧
              (flag = .reset ∨ frame.flags.has flag = true)
  | .turn _ => True

end CallbackHistory

/-! ## One step -/

open CallbackDevice

/-- What queueing a frame does: it takes the last place, and a full ring
gives up its first. -/
theorem queueStreamCallback_outcome
    {device : CallbackDevice} (opened : device.Open) (frame : StreamFrame) :
    (device.queueStreamCallback frame).Open ∧
      ((device.queueStreamCallback frame).streamQueue.toList =
          device.streamQueue.toList ++ [storedFrame frame .none] ∨
        ∃ dropped rest, device.streamQueue.toList = dropped :: rest ∧
            rest.length + 1 = openrspStreamQueueCapacity ∧
            (device.queueStreamCallback frame).streamQueue.toList =
              rest ++ [storedFrame frame dropped.flags]) := by
  have accepts :
      ¬ (device.streamCallbackPaused = true ∨ device.streamCallbackStop = true) := by
    simp [opened.notPaused, opened.notStopped]
  unfold queueStreamCallback
  rw [if_neg accepts]
  split_ifs with full
  · have occupied : device.streamQueue.count ≠ 0 := by
      rw [full]
      decide
    have split := device.streamQueue.toList_eq_front_cons occupied
    have counted := device.streamQueue.length_toList.trans full
    rw [split] at counted
    exact ⟨⟨opened.notPaused, opened.notStopped⟩,
      .inr ⟨_, _, split, counted, Ring.toList_pushBack _ _ _⟩⟩
  · exact ⟨⟨opened.notPaused, opened.notStopped⟩, .inl (Ring.toList_pushBack _ _ _)⟩

/-- What a turn of the callback thread does: nothing, or it delivers the
first frame. -/
theorem streamCallbackThreadTurn_outcome
    {device : CallbackDevice} (opened : device.Open)
    (loads : Nat → CallbackSize) :
    (device.streamCallbackThreadTurn loads).1.Open ∧
      (device.streamCallbackThreadTurn loads = (device, []) ∨
        ∃ frame rest, device.streamQueue.toList = frame :: rest ∧
            (device.streamCallbackThreadTurn loads).1.streamQueue.toList = rest ∧
            (device.streamCallbackThreadTurn loads).2 =
              frameCallbacks device.mode frame (device.deliveredFlags frame) loads) := by
  unfold streamCallbackThreadTurn
  split_ifs with waits
  · exact ⟨opened, .inl rfl⟩
  · have occupied : device.streamQueue.count ≠ 0 := by
      intro empty
      exact waits (.inr (.inl empty))
    have split := device.streamQueue.toList_eq_front_cons occupied
    by_cases second : device.streamQueue.front.tuner = .b
    · simp only [dequeued, if_pos second]
      exact ⟨⟨opened.notPaused, opened.notStopped⟩, .inr ⟨_, _, split, rfl, rfl⟩⟩
    · simp only [dequeued, if_neg second]
      exact ⟨⟨opened.notPaused, opened.notStopped⟩, .inr ⟨_, _, split, rfl, rfl⟩⟩

/-- The first callback of a frame carries at least the frame's flags. -/
theorem deliveredFlags_of_has (device : CallbackDevice) {frame : StreamFrame} {flag : FrameFlag}
    (set : frame.flags.has flag = true) :
    (device.deliveredFlags frame).has flag = true := by
  cases flag with
  | reset =>
      have reset : frame.flags.reset = true := set
      simp [deliveredFlags, FrameFlags.has, reset]
  | grChanged => exact set
  | rfChanged => exact set
  | fsChanged => exact set

/-- A change it announces is one the frame carries. -/
theorem has_of_deliveredFlags
    {device : CallbackDevice} {frame : StreamFrame} {flag : FrameFlag}
    (change : flag ≠ .reset)
    (set : (device.deliveredFlags frame).has flag = true) :
    frame.flags.has flag = true := by
  cases flag with
  | reset => exact absurd rfl change
  | grChanged => exact set
  | rfChanged => exact set
  | fsChanged => exact set

namespace CallbackHistory

/-! ## The invariant -/

/-- The frames that wait to be delivered, oldest first. -/
def waiting (history : CallbackHistory) : List StreamFrame := history.device.streamQueue.toList

/-- Some callback announced a flag to a tuner with the frame of a given
number or a later one. -/
def Told (history : CallbackHistory) (number : Nat) (tuner : TunerSelect)
    (flag : FrameFlag) : Prop :=
  ∃ delivery ∈ history.delivered, delivery.callback.tuner = tuner ∧ number ≤ delivery.number ∧
      delivery.callback.flags.has flag = true

/-- Some frame queued for a tuner carried a flag. -/
def Asked (history : CallbackHistory) (tuner : TunerSelect) (flag : FrameFlag) :
    Prop :=
  ∃ frame ∈ history.queued, frame.tuner = tuner ∧ frame.flags.has flag = true

/-- A frame of a tuner that waits at `place` carries a flag. -/
def WaitsAt (frames : List StreamFrame) (place : Nat) (tuner : TunerSelect)
    (flag : FrameFlag) : Prop :=
  ∃ frame, frames[place]? = some frame ∧ frame.tuner = tuner ∧ frame.flags.has flag = true

/-- The flags of frames not yet delivered wait at or behind their frame, and
nothing waits that was not asked for. -/
structure Kept (history : CallbackHistory) : Prop where
  opened : history.device.Open
  numbered : history.waiting.length ≤ history.queued.length
  owed : ∀ number frame, history.queued[number]? = some frame →
      ∀ flag, frame.flags.has flag = true → history.Told number frame.tuner flag ∨
          ∃ place, WaitsAt history.waiting place frame.tuner flag ∧
              number + history.waiting.length ≤ history.queued.length + place
  asked : ∀ frame ∈ history.waiting, ∀ flag, flag ≠ .reset →
      frame.flags.has flag = true → history.Asked frame.tuner flag
  own : ∀ delivery ∈ history.delivered, ∀ flag, flag ≠ .reset →
      delivery.callback.flags.has flag = true → history.Asked delivery.callback.tuner flag

theorem WaitsAt.append_left
    {frames : List StreamFrame} {place : Nat} {tuner : TunerSelect}
    {flag : FrameFlag} (waits : WaitsAt frames place tuner flag)
    (more : List StreamFrame) :
    WaitsAt (frames ++ more) place tuner flag := by
  obtain ⟨frame, found, rest⟩ := waits
  refine ⟨frame, ?_, rest⟩
  rw [List.getElem?_append_left (List.getElem?_eq_some_iff.mp found).1]
  exact found

theorem WaitsAt.last (frames : List StreamFrame) {frame : StreamFrame} {flag : FrameFlag}
    (set : frame.flags.has flag = true) :
    WaitsAt (frames ++ [frame]) frames.length frame.tuner flag :=
  ⟨frame, by simp, rfl, set⟩

theorem WaitsAt.of_mem
    {frames : List StreamFrame} {frame : StreamFrame} {flag : FrameFlag}
    (member : frame ∈ frames) (set : frame.flags.has flag = true) :
    ∃ place, WaitsAt frames place frame.tuner flag := by
  obtain ⟨place, found⟩ := List.mem_iff_getElem?.mp member
  exact ⟨place, frame, found, rfl, set⟩

@[simp]
theorem queued_step_queue (history : CallbackHistory) (frame : StreamFrame) :
    (history.step (.queue frame)).queued = history.queued ++ [frame] :=
  rfl

@[simp]
theorem queued_step_turn (history : CallbackHistory) (loads : Nat → CallbackSize) :
    (history.step (.turn loads)).queued = history.queued :=
  rfl

theorem Asked.queue
    {history : CallbackHistory} {tuner : TunerSelect} {flag : FrameFlag}
    (asked : history.Asked tuner flag) (frame : StreamFrame) :
    (history.step (.queue frame)).Asked tuner flag := by
  obtain ⟨earlier, member, rest⟩ := asked
  exact ⟨earlier, List.mem_append_left _ member, rest⟩

theorem asked_of_queued (history : CallbackHistory) {frame : StreamFrame} {flag : FrameFlag}
    (set : frame.flags.has flag = true) :
    (history.step (.queue frame)).Asked frame.tuner flag :=
  ⟨frame, by simp, rfl, set⟩

/-- A frame that was queued is the one just queued or an earlier one. -/
theorem queued_cases
    {history : CallbackHistory} {frame queuedFrame : StreamFrame}
    {number : Nat}
    (found : (history.step (.queue frame)).queued[number]? = some queuedFrame) :
    history.queued[number]? = some queuedFrame ∨
      number = history.queued.length ∧ queuedFrame = frame := by
  have appended : (history.queued ++ [frame])[number]? = some queuedFrame := found
  rcases Nat.lt_trichotomy number history.queued.length with
    before | here | behind
  · rw [List.getElem?_append_left before] at appended
    exact .inl appended
  · subst here
    simp at appended
    exact .inr ⟨rfl, appended.symm⟩
  · have outside : (history.queued ++ [frame]).length ≤ number := by
      rw [List.length_append]
      exact behind
    rw [List.getElem?_eq_none outside] at appended
    cases appended

/-- The frame that was just queued waits in the last place, and the flags
merged into it with it. -/
theorem owed_last
    {history : CallbackHistory} {frame : StreamFrame} {carried : FrameFlags}
    {frames : List StreamFrame} {flag : FrameFlag}
    (after : (history.step (.queue frame)).waiting = frames ++ [storedFrame frame carried])
    (set : (frame.flags.merge carried).has flag = true)
    {number : Nat} (bound : number ≤ history.queued.length) :
    ∃ place, WaitsAt (history.step (.queue frame)).waiting place frame.tuner flag ∧
        number + (history.step (.queue frame)).waiting.length ≤
          (history.step (.queue frame)).queued.length + place := by
  refine ⟨frames.length, ?_, ?_⟩
  · rw [after]
    exact WaitsAt.last frames set
  · simp only [after, queued_step_queue, List.length_append, List.length_singleton]
    omega

/-- Queueing a frame while there is room. -/
theorem Kept.queue_room
    {history : CallbackHistory} (kept : history.Kept) {frame : StreamFrame}
    (opened : (history.device.queueStreamCallback frame).Open)
    (after : (history.step (.queue frame)).waiting = history.waiting ++ [storedFrame frame .none]) :
    (history.step (.queue frame)).Kept where
  opened := opened
  numbered := by
    have before := kept.numbered
    simp only [after, queued_step_queue, List.length_append, List.length_singleton]
    omega
  owed := by
    intro number queuedFrame found flag set
    rcases queued_cases found with earlier | ⟨rfl, rfl⟩
    · rcases kept.owed number queuedFrame earlier flag set with
        told | ⟨place, waits, behind⟩
      · exact .inl told
      · refine .inr ⟨place, ?_, ?_⟩
        · rw [after]
          exact waits.append_left _
        · simp only [after, queued_step_queue, List.length_append, List.length_singleton]
          omega
    · exact .inr (owed_last after (by simpa using set) le_rfl)
  asked := by
    intro waitingFrame member flag change set
    rw [after] at member
    rcases List.mem_append.mp member with earlier | last
    · exact (kept.asked waitingFrame earlier flag change set).queue frame
    · rw [List.mem_singleton] at last
      subst last
      refine history.asked_of_queued ?_
      simpa [storedFrame] using set
  own := fun delivery member flag change set =>
    (kept.own delivery member flag change set).queue frame

/-- Queueing a frame in the place of the oldest one. -/
theorem Kept.queue_full
    {history : CallbackHistory} (kept : history.Kept) {frame : StreamFrame}
    {dropped : StreamFrame} {rest : List StreamFrame}
    (opened : (history.device.queueStreamCallback frame).Open)
    (before : history.waiting = dropped :: rest)
    (safe : ∀ flag, dropped.flags.has flag = true → dropped.tuner = frame.tuner ∨
          (∃ other ∈ rest,
            other.tuner = dropped.tuner ∧ other.flags.has flag = true) ∧
            (flag = .reset ∨ frame.flags.has flag = true))
    (after : (history.step (.queue frame)).waiting = rest ++ [storedFrame frame dropped.flags]) :
    (history.step (.queue frame)).Kept where
  opened := opened
  numbered := by
    have bound := kept.numbered
    simp only [before, List.length_cons] at bound
    simp only [after, queued_step_queue, List.length_append, List.length_singleton]
    omega
  owed := by
    intro number queuedFrame found flag set
    rcases queued_cases found with earlier | ⟨rfl, rfl⟩
    · have inside : number < history.queued.length := (List.getElem?_eq_some_iff.mp earlier).1
      rcases kept.owed number queuedFrame earlier flag set with
        told | ⟨place, waits, behind⟩
      · exact .inl told
      rw [before] at waits behind
      have moved : ∀ later, WaitsAt rest later queuedFrame.tuner flag →
            place ≤ later + 1 →
            ∃ place, WaitsAt (history.step (.queue frame)).waiting place
                  queuedFrame.tuner flag ∧
                number + (history.step (.queue frame)).waiting.length ≤
                  (history.step (.queue frame)).queued.length + place := by
        intro later waitsLater bound
        refine ⟨later, ?_, ?_⟩
        · rw [after]
          exact waitsLater.append_left _
        · simp only [List.length_cons] at behind
          simp only [after, queued_step_queue, List.length_append, List.length_singleton]
          omega
      cases place with
      | succ place =>
          obtain ⟨waitingFrame, here, fits⟩ := waits
          exact .inr (moved place ⟨waitingFrame, here, fits⟩ le_rfl)
      | zero =>
          -- the flag waits on the frame that gives way
          obtain ⟨waitingFrame, here, sameTuner, carries⟩ := waits
          cases here
          rcases safe flag carries with same | ⟨⟨other, member, fits⟩, _⟩
          · rw [← sameTuner, same]
            exact .inr (owed_last after (by simp [carries]) inside.le)
          · obtain ⟨later, waitsLater⟩ := WaitsAt.of_mem member fits.2
            rw [fits.1, sameTuner] at waitsLater
            exact .inr (moved later waitsLater (Nat.zero_le _))
    · exact .inr (owed_last after (by simp [set]) le_rfl)
  asked := by
    intro waitingFrame member flag change set
    rw [after] at member
    rcases List.mem_append.mp member with earlier | last
    · have inQueue : waitingFrame ∈ history.waiting := by
        rw [before]
        exact List.mem_cons_of_mem _ earlier
      exact (kept.asked waitingFrame inQueue flag change set).queue frame
    · rw [List.mem_singleton] at last
      subst last
      have either :
          frame.flags.has flag = true ∨ dropped.flags.has flag = true := by
        simpa [storedFrame] using set
      rcases either with ownFlag | carriedFlag
      · exact history.asked_of_queued ownFlag
      · rcases safe flag carriedFlag with same | ⟨_, reset | ownFlag⟩
        · have inQueue : dropped ∈ history.waiting := by
            rw [before]
            exact List.mem_cons_self
          have asked := kept.asked dropped inQueue flag change carriedFlag
          rw [same] at asked
          exact asked.queue frame
        · exact absurd reset change
        · exact history.asked_of_queued ownFlag
  own := fun delivery member flag change set =>
    (kept.own delivery member flag change set).queue frame

/-- Delivering the oldest frame. -/
theorem Kept.turn_delivers
    {history : CallbackHistory} (kept : history.Kept)
    {loads : Nat → CallbackSize} {frame : StreamFrame}
    {rest : List StreamFrame}
    (opened : (history.device.streamCallbackThreadTurn loads).1.Open)
    (before : history.waiting = frame :: rest)
    (after : (history.step (.turn loads)).waiting = rest)
    (calls : (history.device.streamCallbackThreadTurn loads).2 =
        frameCallbacks history.device.mode frame (history.device.deliveredFlags frame) loads) :
    (history.step (.turn loads)).Kept where
  opened := opened
  numbered := by
    have bound := kept.numbered
    simp only [before, List.length_cons] at bound
    simp only [after, queued_step_turn]
    omega
  owed := by
    intro number queuedFrame found flag set
    rcases kept.owed number queuedFrame found flag set with
      ⟨delivery, member, fits⟩ | ⟨place, waits, behind⟩
    · exact .inl ⟨delivery, List.mem_append_left _ member, fits⟩
    rw [before] at waits behind
    cases place with
    | succ place =>
        obtain ⟨waitingFrame, here, fits⟩ := waits
        refine .inr ⟨place, ?_, ?_⟩
        · rw [after]
          exact ⟨waitingFrame, here, fits⟩
        · simp only [List.length_cons] at behind
          simp only [after, queued_step_turn]
          omega
    | zero =>
        obtain ⟨waitingFrame, here, sameTuner, carries⟩ := waits
        cases here
        obtain ⟨callback, called, ofTuner, flags⟩ :=
          frameCallbacks_carry history.device.mode frame (history.device.deliveredFlags frame) loads
        refine .inl ⟨⟨history.oldest, callback⟩, ?_, ofTuner.trans sameTuner, ?_, ?_⟩
        · refine List.mem_append_right _ (List.mem_map_of_mem ?_)
          rw [calls]
          exact called
        · have counted : history.device.streamQueue.count =
              rest.length + 1 := by
            rw [← Ring.length_toList]
            exact congrArg List.length before
          simp only [oldest, counted]
          simp only [List.length_cons] at behind
          omega
        · rw [flags]
          exact deliveredFlags_of_has _ carries
  asked := by
    intro waitingFrame member flag change set
    rw [after] at member
    have inQueue : waitingFrame ∈ history.waiting := by
      rw [before]
      exact List.mem_cons_of_mem _ member
    exact kept.asked waitingFrame inQueue flag change set
  own := by
    intro delivery member flag change set
    rcases List.mem_append.mp member with earlier | now
    · exact kept.own delivery earlier flag change set
    · obtain ⟨callback, called, rfl⟩ := List.mem_map.mp now
      rw [calls] at called
      obtain ⟨ofTuner, within⟩ := frameCallbacks_within _ _ _ _ callback called
      have inQueue : frame ∈ history.waiting := by
        rw [before]
        exact List.mem_cons_self
      have carries : frame.flags.has flag = true := has_of_deliveredFlags change (within flag set)
      have asked := kept.asked frame inQueue flag change carries
      rw [← ofTuner] at asked
      exact asked

/-- Every step that merges safely keeps the flags on their streams. -/
theorem Kept.step
    {history : CallbackHistory} {action : CallbackAction}
    (safe : history.MergesSafely action) (kept : history.Kept) :
    (history.step action).Kept := by
  cases action with
  | queue frame =>
      obtain ⟨opened, room | ⟨dropped, rest, before, full, after⟩⟩ :=
        queueStreamCallback_outcome kept.opened frame
      · exact kept.queue_room opened room
      · exact kept.queue_full opened before (safe dropped rest before full) after
  | turn loads =>
      obtain ⟨opened, idle | ⟨frame, rest, before, after, calls⟩⟩ :=
        streamCallbackThreadTurn_outcome kept.opened loads
      · have same : history.step (.turn loads) = history := by
          simp only [CallbackHistory.step, idle, List.map_nil, List.append_nil]
        rw [same]
        exact kept
      · exact kept.turn_delivers opened before after calls

theorem kept_start
    {device : CallbackDevice} (opened : device.Open)
    (empty : device.streamQueue.count = 0) :
    (start device).Kept where
  opened := opened
  numbered := by
    simp [waiting, start, empty]
  owed := by
    intro number frame found
    simp [start] at found
  asked := by
    intro frame member
    simp [waiting, start, Ring.toList_eq_nil empty] at member
  own := by
    intro delivery member
    simp [start] at member

theorem Kept.flagsKept {history : CallbackHistory} (kept : history.Kept) :
    history.FlagsKept where
  carried := by
    intro number frame found flag set
    rcases kept.owed number frame found flag set with
      told | ⟨place, ⟨waitingFrame, here, fits⟩, _⟩
    · exact .inl told
    · exact .inr ⟨waitingFrame, List.mem_of_getElem? here, fits⟩
  own := kept.own

end CallbackHistory

/-- From an empty queue, while every frame that is queued in the place of
another merges safely, every flag stays on the stream it was queued for. -/
theorem flags_stay_on_their_stream (device : CallbackDevice) (opened : device.Open)
    (empty : device.streamQueue.count = 0) (actions : List CallbackAction)
    (safe : StepsMeet CallbackHistory.step CallbackHistory.MergesSafely
        (CallbackHistory.start device) actions) :
    (runSteps CallbackHistory.step (CallbackHistory.start device) actions).FlagsKept := by
  refine CallbackHistory.Kept.flagsKept ?_
  refine invariant_of_stepsMeet ?_ safe (CallbackHistory.kept_start opened empty)
  intro history action allowed kept
  exact kept.step allowed

/-! ## A full queue -/

/-- A new thread finds the queue open and empty. -/
theorem startStreamCallbackThread_open (device : CallbackDevice) :
    device.startStreamCallbackThread.Open ∧
      device.startStreamCallbackThread.streamQueue.count = 0 :=
  ⟨⟨rfl, rfl⟩, rfl⟩

/-- A device in dual-tuner mode whose callback thread has just started. -/
def dualDevice : CallbackDevice :=
  startStreamCallbackThread
    { mode := .dualTuner
      streamQueue :=
        { slots := fun _ => updateAck .neither 0 false false false
          head := 0
          count := 0
          headBound := by decide
          countBound := by decide }
      streamCallbackStop := false
      streamCallbackPaused := false
      streamCallbackDropCount := 0
      streamCallbackNextSample := 0
      streamCallbackNextSampleB := 0
      streamCallbackSeen := false
      streamCallbackSeenB := false }

/-- A gain change of tuner A is acknowledged, and `frames` frames of a tuner
without flags follow. -/
def ackThenFrames (tuner : TunerSelect) (frames : Nat) :
    List CallbackAction :=
  .queue (updateAck .a 0 false false true) ::
    List.replicate frames (.queue (updateAck tuner 0 false false false))

/-- Frames of one tuner always merge safely. -/
theorem mergesSafely_of_one_tuner
    {history : CallbackHistory} {frame : StreamFrame}
    (same : ∀ waiting ∈ history.device.streamQueue.toList, waiting.tuner = frame.tuner) :
    history.MergesSafely (.queue frame) := by
  intro dropped rest before _ flag _
  refine .inl (same dropped ?_)
  rw [before]
  exact List.mem_cons_self

/-- Eight frames of tuner A push the acknowledgement onto a later frame of
tuner A. -/
theorem overflow_of_one_tuner_keeps_ack :
    (runSteps CallbackHistory.step (CallbackHistory.start dualDevice)
      (ackThenFrames .a 8)).FlagsKept := by
  obtain ⟨opened, empty⟩ := startStreamCallbackThread_open dualDevice
  refine flags_stay_on_their_stream dualDevice opened empty _ ?_
  refine ⟨?_, ?_, ?_, ?_, ?_, ?_, ?_, ?_, ?_, trivial⟩ <;>
    exact mergesSafely_of_one_tuner (by decide +kernel)

/-- Eight frames of tuner B push the acknowledgement of tuner A onto the
stream of tuner B. -/
theorem overflow_moves_ack_to_other_tuner :
    ¬ (runSteps CallbackHistory.step (CallbackHistory.start dualDevice)
      (ackThenFrames .b 8)).FlagsKept := by
  intro kept
  have lost := kept.carried 0 (updateAck .a 0 false false true) (by decide +kernel) .grChanged rfl
  revert lost
  decide +kernel

end OpenRsp
