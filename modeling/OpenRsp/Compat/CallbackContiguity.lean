import OpenRsp.Compat.StreamCallbacks
import OpenRsp.Library.Runs
import Mathlib.Data.List.Chain
import Mathlib.Data.PNat.Basic

/-!
# Contiguous callbacks

The callback thread cuts every frame into calls of at most
`callback_samples` samples and numbers them from the frame's first sample.
Here the limit may be any positive number and may change before every call,
and the queue may be paused and resumed.  A frame is delivered whole by its
calls, and a tuner's calls are contiguous except where one of them says
`reset`.
-/

namespace OpenRsp

open Rings Runs

namespace CallbackDevice

/-- What `pause_stream_callbacks` leaves once no call is active. -/
def pauseStreamCallbacks (device : CallbackDevice) : CallbackDevice :=
  { device with
    streamQueue := device.streamQueue.clear
    streamCallbackPaused := true }

/-- `resume_stream_callbacks`. -/
def resumeStreamCallbacks (device : CallbackDevice) : CallbackDevice :=
  { device with streamCallbackPaused := false }

/-- The sample a tuner's next frame should start with; tuner B has a cell of
its own. -/
def nextSample (device : CallbackDevice) (onTunerB : Bool) : UInt32 :=
  if onTunerB then device.streamCallbackNextSampleB
  else device.streamCallbackNextSample

/-- Whether a tuner has had a frame. -/
def seen (device : CallbackDevice) (onTunerB : Bool) : Bool :=
  if onTunerB then device.streamCallbackSeenB else device.streamCallbackSeen

/-! ## Delivery under any limits -/

section Limits

variable (mode : RspDuoMode) (frame : StreamFrame) (flags : FrameFlags)
variable (limits : Nat → ℕ+)

/-- The loop over the samples of a frame when the successive readings of
`callback_samples` are any positive numbers. -/
def deliverLimited : (turns offset load : Nat) → List StreamCallback
  | 0, _, _ => []
  | turns + 1, offset, load =>
      if offset < frame.samples then
        let chunk := min (frame.samples - offset) (limits load)
        chunkCallback mode frame flags offset chunk ::
          deliverLimited turns (offset + chunk) (load + 1)
      else []

/-- The calls that deliver a frame under these limits. -/
def frameCallbacksLimited : List StreamCallback :=
  if frame.samples = 0 then [chunkCallback mode frame flags 0 0]
  else deliverLimited mode frame flags limits frame.samples 0 0

end Limits

/-- A value of `callback_samples` as a limit. -/
def CallbackSize.limit (size : CallbackSize) : ℕ+ := ⟨size.samples, size.samples_pos⟩

theorem deliverChunks_eq_limited (mode : RspDuoMode) (frame : StreamFrame) (flags : FrameFlags)
    (loads : Nat → CallbackSize) (turns offset load : Nat) :
    deliverChunks mode frame flags loads turns offset load =
      deliverLimited mode frame flags (fun load => (loads load).limit)
        turns offset load := by
  induction turns generalizing offset load with
  | zero => rfl
  | succ turns inductionHypothesis =>
      simp only [deliverChunks, deliverLimited, inductionHypothesis]
      rfl

/-- The library's own limits are an instance. -/
theorem frameCallbacks_eq_limited (mode : RspDuoMode) (frame : StreamFrame) (flags : FrameFlags)
    (loads : Nat → CallbackSize) :
    frameCallbacks mode frame flags loads =
      frameCallbacksLimited mode frame flags (fun load => (loads load).limit) := by
  simp only [frameCallbacks, frameCallbacksLimited, deliverChunks_eq_limited]

end CallbackDevice

/-- A frame taken off the queue, the limits read during its delivery and the
calls it was delivered by. -/
structure FrameDelivery where
  frame : StreamFrame
  limits : Nat → ℕ+
  callbacks : List StreamCallback

namespace CallbackDevice

/-- One turn of the loop of `stream_callback_thread_main` under any limits:
the device it leaves and the frame it delivered, if there was one. -/
def streamCallbackThreadTurnLimited (device : CallbackDevice) (limits : Nat → ℕ+) :
    CallbackDevice × Option FrameDelivery :=
  if device.streamCallbackStop ∨ device.streamQueue.count = 0 ∨
      device.streamCallbackPaused then
    (device, none)
  else
    let frame := device.streamQueue.front
    (device.dequeued frame, some
        { frame, limits,
          callbacks :=
            frameCallbacksLimited device.mode frame (device.deliveredFlags frame) limits })

/-- The turn under the library's own limits. -/
theorem streamCallbackThreadTurn_eq_limited (device : CallbackDevice) (loads : Nat → CallbackSize) :
    device.streamCallbackThreadTurn loads = ((device.streamCallbackThreadTurnLimited
          fun load => (loads load).limit).1,
        ((device.streamCallbackThreadTurnLimited
            fun load => (loads load).limit).2.map
          FrameDelivery.callbacks).getD []) := by
  unfold streamCallbackThreadTurn streamCallbackThreadTurnLimited
  split_ifs with waits
  · rfl
  · simp only [Option.map_some, Option.getD_some, frameCallbacks_eq_limited]

end CallbackDevice

/-! ## One frame -/

/-- The later call starts with the sample after the earlier one's last. -/
def StreamCallback.Abuts (earlier later : StreamCallback) : Prop :=
  later.firstSampleNum = earlier.firstSampleNum + UInt32.ofNat earlier.numSamples

/-- The calls deliver the frame and nothing else. -/
structure FrameDelivery.Whole (delivery : FrameDelivery) : Prop where
  sameTuner : ∀ callback ∈ delivery.callbacks, callback.tuner = delivery.frame.tuner
  samplesI : (delivery.callbacks.map StreamCallback.xi).flatten =
      delivery.frame.xi.take delivery.frame.samples
  samplesQ : (delivery.callbacks.map StreamCallback.xq).flatten =
      delivery.frame.xq.take delivery.frame.samples
  counted : (delivery.callbacks.map StreamCallback.numSamples).sum = delivery.frame.samples
  lengths :
    delivery.frame.xi.length = delivery.frame.samples →
    delivery.frame.xq.length = delivery.frame.samples →
    ∀ callback ∈ delivery.callbacks,
      callback.xi.length = callback.numSamples ∧ callback.xq.length = callback.numSamples
  emptyFrame : delivery.frame.samples = 0 →
      ∃ callback, delivery.callbacks = [callback] ∧ callback.numSamples = 0
  blocks :
    delivery.frame.samples ≠ 0 →
    ∀ index callback, delivery.callbacks[index]? = some callback →
      0 < callback.numSamples ∧ callback.numSamples ≤ (delivery.limits index : Nat)
  flagsFirst : ∀ callback ∈ delivery.callbacks.tail, callback.flags = .none

/-- Calls that abut end where their samples, counted from the first call,
end. -/
theorem last_of_abutting
    {callbacks : List StreamCallback}
    (abutting : callbacks.IsChain StreamCallback.Abuts)
    {first last : StreamCallback}
    (isFirst : callbacks.head? = some first)
    (isLast : callbacks.getLast? = some last) :
    last.firstSampleNum + UInt32.ofNat last.numSamples =
      first.firstSampleNum + UInt32.ofNat (callbacks.map StreamCallback.numSamples).sum := by
  induction callbacks generalizing first with
  | nil => simp at isFirst
  | cons callback rest inductionHypothesis =>
      obtain rfl : callback = first := by simpa using isFirst
      cases rest with
      | nil =>
          obtain rfl : callback = last := by simpa using isLast
          simp
      | cons next rest =>
          rw [List.isChain_cons_cons] at abutting
          rw [List.getLast?_cons_cons] at isLast
          have abuts := abutting.1
          unfold StreamCallback.Abuts at abuts
          rw [inductionHypothesis abutting.2 rfl isLast, abuts,
            List.map_cons (f := StreamCallback.numSamples) (a := callback),
            List.sum_cons (a := callback.numSamples), UInt32.ofNat_add,
            UInt32.add_assoc]

namespace CallbackDevice

section Limits

variable (mode : RspDuoMode) (frame : StreamFrame) (flags : FrameFlags)
variable (limits : Nat → ℕ+)

/-- The loop's first call starts where the loop stands. -/
theorem deliverLimited_head (turns offset load : Nat) : ∀ callback ∈
        (deliverLimited mode frame flags limits turns offset load).head?,
      callback.firstSampleNum = frame.firstSample + UInt32.ofNat offset := by
  intro callback isFirst
  cases turns with
  | zero => simp [deliverLimited] at isFirst
  | succ turns =>
      by_cases inside : offset < frame.samples
      · simp only [deliverLimited, if_pos inside, List.head?_cons,
          Option.mem_def, Option.some.injEq] at isFirst
        rw [← isFirst]
        rfl
      · simp [deliverLimited, inside] at isFirst

theorem deliverLimited_abutting (turns offset load : Nat) :
    (deliverLimited mode frame flags limits turns offset load).IsChain
      StreamCallback.Abuts := by
  induction turns generalizing offset load with
  | zero => exact List.IsChain.nil
  | succ turns inductionHypothesis =>
      by_cases inside : offset < frame.samples
      · simp only [deliverLimited, if_pos inside]
        refine List.isChain_cons.mpr ⟨fun next isNext => ?_, inductionHypothesis _ _⟩
        unfold StreamCallback.Abuts
        rw [deliverLimited_head mode frame flags limits _ _ _ next isNext,
          UInt32.ofNat_add, ← UInt32.add_assoc]
        rfl
      · simp only [deliverLimited, if_neg inside]
        exact List.IsChain.nil

/-- The calls of the loop all have a place in the frame: the index of the
limit they were cut by, the offset they start at and their size. -/
theorem deliverLimited_blocks (turns offset load : Nat) (index : Nat) (callback : StreamCallback)
    (isCall : (deliverLimited mode frame flags limits turns offset load)[index]? = some callback) :
    ∃ start chunk, callback = chunkCallback mode frame flags start chunk ∧
        offset ≤ start ∧ (0 < index → offset < start) ∧
        start + chunk ≤ frame.samples ∧ 0 < chunk ∧
        chunk ≤ limits (load + index) := by
  induction turns generalizing offset load index with
  | zero => simp [deliverLimited] at isCall
  | succ turns inductionHypothesis =>
      by_cases inside : offset < frame.samples
      · simp only [deliverLimited, if_pos inside] at isCall
        have positive := (limits load).pos
        cases index with
        | zero =>
            obtain rfl := Option.some.inj isCall
            exact ⟨offset, _, rfl, le_rfl, fun impossible => by omega,
              by omega, by omega, min_le_right _ _⟩
        | succ index =>
            rw [List.getElem?_cons_succ] at isCall
            obtain ⟨start, chunk, same, from_, _, inFrame, some_, cut⟩ :=
              inductionHypothesis _ _ _ isCall
            refine ⟨start, chunk, same, by omega, fun _ => by omega, inFrame, some_, ?_⟩
            rwa [Nat.add_right_comm] at cut
      · simp [deliverLimited, inside] at isCall

/-- Lists cut at the loop's offsets come back together. -/
theorem deliverLimited_flatten
    {block : StreamCallback → List Int16} {samples : List Int16}
    (cut : ∀ offset chunk,
        block (chunkCallback mode frame flags offset chunk) = (samples.drop offset).take chunk)
    (turns offset load : Nat) (enough : frame.samples - offset ≤ turns) :
    ((deliverLimited mode frame flags limits turns offset load).map
        block).flatten =
      (samples.drop offset).take (frame.samples - offset) := by
  induction turns generalizing offset load with
  | zero => simp [deliverLimited, Nat.le_zero.mp enough]
  | succ turns inductionHypothesis =>
      by_cases inside : offset < frame.samples
      · have positive := (limits load).pos
        simp only [deliverLimited, if_pos inside, List.map_cons, List.flatten_cons, cut]
        generalize sized : min (frame.samples - offset) (limits load : Nat) = chunk
        rw [inductionHypothesis _ _ (by omega), ← List.drop_drop, ← List.take_add]
        congr 1
        omega
      · simp only [deliverLimited, if_neg inside, List.map_nil, List.flatten_nil]
        rw [Nat.sub_eq_zero_of_le (by omega), List.take_zero]

theorem deliverLimited_counted (turns offset load : Nat) (enough : frame.samples - offset ≤ turns) :
    ((deliverLimited mode frame flags limits turns offset load).map
        StreamCallback.numSamples).sum =
      frame.samples - offset := by
  induction turns generalizing offset load with
  | zero =>
      rw [Nat.le_zero.mp enough]
      rfl
  | succ turns inductionHypothesis =>
      by_cases inside : offset < frame.samples
      · have positive := (limits load).pos
        simp only [deliverLimited, if_pos inside, List.map_cons, List.sum_cons, chunkCallback]
        rw [inductionHypothesis _ _ (by omega)]
        omega
      · simp only [deliverLimited, if_neg inside, List.map_nil, List.sum_nil]
        omega

/-- A frame's calls start at its first sample. -/
theorem frameCallbacksLimited_head :
    ∀ callback ∈ (frameCallbacksLimited mode frame flags limits).head?,
      callback.firstSampleNum = frame.firstSample ∧ callback.flags = flags := by
  intro callback isFirst
  unfold frameCallbacksLimited at isFirst
  split_ifs at isFirst with empty
  · obtain rfl : chunkCallback mode frame flags 0 0 = callback := by
      simpa using isFirst
    exact ⟨UInt32.add_zero _, rfl⟩
  · obtain ⟨turns, counted⟩ := Nat.exists_eq_succ_of_ne_zero empty
    rw [counted] at isFirst
    simp only [deliverLimited, if_pos (Nat.pos_of_ne_zero empty),
      List.head?_cons, Option.mem_def, Option.some.injEq] at isFirst
    rw [← isFirst]
    exact ⟨UInt32.add_zero _, rfl⟩

theorem frameCallbacksLimited_ne_nil :
    frameCallbacksLimited mode frame flags limits ≠ [] := by
  unfold frameCallbacksLimited
  split_ifs with empty
  · exact List.cons_ne_nil _ _
  · obtain ⟨turns, counted⟩ := Nat.exists_eq_succ_of_ne_zero empty
    rw [counted]
    simp only [deliverLimited, if_pos (Nat.pos_of_ne_zero empty)]
    exact List.cons_ne_nil _ _

theorem frameCallbacksLimited_abutting : (frameCallbacksLimited mode frame flags limits).IsChain
      StreamCallback.Abuts := by
  unfold frameCallbacksLimited
  split_ifs with empty
  · exact List.IsChain.singleton _
  · exact deliverLimited_abutting mode frame flags limits _ _ _

/-- A frame is delivered whole, whatever the limits. -/
theorem frameCallbacksLimited_whole : FrameDelivery.Whole
      { frame, limits,
        callbacks := frameCallbacksLimited mode frame flags limits } := by
  by_cases empty : frame.samples = 0
  · have single : frameCallbacksLimited mode frame flags limits =
          [chunkCallback mode frame flags 0 0] := if_pos empty
    constructor <;> simp [single, chunkCallback, empty]
  · have loop : frameCallbacksLimited mode frame flags limits =
          deliverLimited mode frame flags limits frame.samples 0 0 :=
      if_neg empty
    have enough : frame.samples - 0 ≤ frame.samples := Nat.sub_le _ _
    constructor <;> simp only [loop]
    case samplesI =>
      exact deliverLimited_flatten mode frame flags limits (fun _ _ => rfl) _ 0 0 enough
    case samplesQ =>
      exact deliverLimited_flatten mode frame flags limits (fun _ _ => rfl) _ 0 0 enough
    case counted =>
      exact deliverLimited_counted mode frame flags limits _ 0 0 enough
    case emptyFrame =>
      exact fun isEmpty => absurd isEmpty empty
    case sameTuner =>
      intro callback member
      obtain ⟨index, isCall⟩ := List.mem_iff_getElem?.mp member
      obtain ⟨_, _, rfl, _⟩ := deliverLimited_blocks mode frame flags limits _ _ _ _ _ isCall
      rfl
    case lengths =>
      intro fullI fullQ callback member
      obtain ⟨index, isCall⟩ := List.mem_iff_getElem?.mp member
      obtain ⟨start, chunk, rfl, _, _, inFrame, _, _⟩ :=
        deliverLimited_blocks mode frame flags limits _ _ _ _ _ isCall
      simp only [chunkCallback, List.length_take, List.length_drop, fullI, fullQ]
      omega
    case blocks =>
      intro _ index callback isCall
      obtain ⟨start, chunk, rfl, _, _, _, positive, cut⟩ :=
        deliverLimited_blocks mode frame flags limits _ _ _ _ _ isCall
      rw [Nat.zero_add] at cut
      exact ⟨positive, cut⟩
    case flagsFirst =>
      intro callback member
      obtain ⟨index, isCall⟩ := List.mem_iff_getElem?.mp member
      rw [List.getElem?_tail] at isCall
      obtain ⟨start, chunk, rfl, _, later, _⟩ :=
        deliverLimited_blocks mode frame flags limits _ _ _ _ _ isCall
      exact if_neg (Nat.ne_of_gt (later (Nat.succ_pos index)))

/-- A frame's calls end where the frame ends. -/
theorem frameCallbacksLimited_last :
    ∀ callback ∈ (frameCallbacksLimited mode frame flags limits).getLast?,
      callback.firstSampleNum + UInt32.ofNat callback.numSamples =
        frame.firstSample + UInt32.ofNat frame.samples := by
  intro callback isLast
  have isFirst := List.head?_eq_some_head (frameCallbacksLimited_ne_nil mode frame flags limits)
  have counted := (frameCallbacksLimited_whole mode frame flags limits).counted
  rw [last_of_abutting
      (frameCallbacksLimited_abutting mode frame flags limits)
      isFirst isLast,
    (frameCallbacksLimited_head mode frame flags limits _ isFirst).1,
    counted]

end Limits

end CallbackDevice

/-! ## Runs -/

/-- The tuner whose numbering a call belongs to: tuner B, or the other. -/
def StreamCallback.onTunerB (callback : StreamCallback) : Bool := callback.tuner = .b

/-- What happens to the callback queue: frames and update acknowledgements
are queued, it is paused and resumed, and the thread takes a turn. -/
inductive QueueAction where
  | queue (frame : StreamFrame)
  | acknowledge
      (tuner : TunerSelect) (sampleNumber : UInt32)
      (fsChanged rfChanged grChanged : Bool)
  | pause
  | resume
  | turn (limits : Nat → ℕ+)

/-- The device and the frames delivered so far. -/
structure DeliveryHistory where
  device : CallbackDevice
  delivered : List FrameDelivery

namespace DeliveryHistory

open CallbackDevice

/-- All calls made, in order. -/
def callbacks (history : DeliveryHistory) : List StreamCallback :=
  history.delivered.flatMap FrameDelivery.callbacks

/-- The calls of one tuner. -/
def tunerCallbacks (history : DeliveryHistory) (onTunerB : Bool) :
    List StreamCallback :=
  history.callbacks.filter fun callback => callback.onTunerB == onTunerB

def step (history : DeliveryHistory) : QueueAction → DeliveryHistory
  | .queue frame =>
      { history with device := history.device.queueStreamCallback frame }
  | .acknowledge tuner sampleNumber fsChanged rfChanged grChanged =>
      { history with
        device := history.device.queueStreamCallback
            (updateAck tuner sampleNumber fsChanged rfChanged grChanged) }
  | .pause =>
      { history with device := history.device.pauseStreamCallbacks }
  | .resume =>
      { history with device := history.device.resumeStreamCallbacks }
  | .turn limits =>
      let turn := history.device.streamCallbackThreadTurnLimited limits
      { device := turn.1
        delivered := history.delivered ++ turn.2.toList }

/-- The later call says `reset` or starts where the earlier one ended. -/
def Follows (earlier later : StreamCallback) : Prop :=
  later.flags.reset = false → earlier.Abuts later

/-- Every frame was delivered whole, and every tuner's calls are contiguous
up to the sample its next frame is expected at. -/
structure Contiguous (history : DeliveryHistory) : Prop where
  whole : ∀ delivery ∈ history.delivered, delivery.Whole
  follows : ∀ onTunerB, (history.tunerCallbacks onTunerB).IsChain Follows
  expected : ∀ onTunerB, ∀ last ∈ (history.tunerCallbacks onTunerB).getLast?,
      history.device.seen onTunerB = true →
      history.device.nextSample onTunerB = last.firstSampleNum + UInt32.ofNat last.numSamples

/-- Only the cells and the deliveries matter. -/
theorem Contiguous.of_cells
    {history other : DeliveryHistory} (contiguous : history.Contiguous)
    (delivered : other.delivered = history.delivered)
    (seen : ∀ onTunerB, other.device.seen onTunerB = history.device.seen onTunerB)
    (next : ∀ onTunerB, other.device.nextSample onTunerB = history.device.nextSample onTunerB) :
    other.Contiguous := by
  have calls (onTunerB : Bool) :
      other.tunerCallbacks onTunerB = history.tunerCallbacks onTunerB := by
    unfold tunerCallbacks callbacks
    rw [delivered]
  refine ⟨?_, ?_, ?_⟩
  · rw [delivered]
    exact contiguous.whole
  · intro onTunerB
    rw [calls]
    exact contiguous.follows onTunerB
  · intro onTunerB
    rw [calls, seen, next]
    exact contiguous.expected onTunerB

/-- Queueing leaves the cells alone. -/
theorem queueStreamCallback_cells
    (device : CallbackDevice) (frame : StreamFrame) (onTunerB : Bool) :
    (device.queueStreamCallback frame).seen onTunerB =
        device.seen onTunerB ∧
      (device.queueStreamCallback frame).nextSample onTunerB =
        device.nextSample onTunerB := by
  unfold queueStreamCallback
  split_ifs <;> exact ⟨rfl, rfl⟩

/-- Taking a frame sets its tuner's cells and leaves the other's alone. -/
theorem dequeued_cells (device : CallbackDevice) (frame : StreamFrame) (onTunerB : Bool) :
    (device.dequeued frame).seen onTunerB =
        (device.seen onTunerB || decide (frame.tuner = .b) == onTunerB) ∧
      (device.dequeued frame).nextSample onTunerB =
        if (decide (frame.tuner = .b) == onTunerB) = true then
          frame.firstSample + UInt32.ofNat frame.samples
        else device.nextSample onTunerB := by
  by_cases tunerB : frame.tuner = .b
  · cases onTunerB <;> simp [dequeued, seen, nextSample, tunerB]
  · cases onTunerB <;> simp [dequeued, seen, nextSample, tunerB]

/-- A frame delivered without `reset` starts at the expected sample. -/
theorem expected_of_not_reset
    {device : CallbackDevice} {frame : StreamFrame}
    (continues : (device.deliveredFlags frame).reset = false) :
    device.seen (frame.tuner = .b) = true ∧
      frame.firstSample = device.nextSample (frame.tuner = .b) := by
  have unset : (frame.flags.reset = false ∧ device.seen (frame.tuner = .b) = true) ∧
        frame.firstSample = device.nextSample (frame.tuner = .b) := by
    simpa [deliveredFlags, seen, nextSample] using continues
  exact ⟨unset.1.2, unset.2⟩

/-- A turn leaves things as they were, or delivers the oldest frame. -/
theorem streamCallbackThreadTurnLimited_cases (device : CallbackDevice) (limits : Nat → ℕ+) :
    device.streamCallbackThreadTurnLimited limits = (device, none) ∨
      ∃ frame, device.streamCallbackThreadTurnLimited limits = (device.dequeued frame, some
              { frame, limits,
                callbacks := frameCallbacksLimited device.mode frame
                    (device.deliveredFlags frame) limits }) := by
  unfold streamCallbackThreadTurnLimited
  split_ifs
  · exact .inl rfl
  · exact .inr ⟨device.streamQueue.front, rfl⟩

/-- The calls of a tuner after one more delivery. -/
theorem tunerCallbacks_snoc (device : CallbackDevice) (delivered : List FrameDelivery)
    {delivery : FrameDelivery} (whole : delivery.Whole) (onTunerB : Bool) :
    (mk device (delivered ++ [delivery])).tunerCallbacks onTunerB =
      (mk device delivered).tunerCallbacks onTunerB ++
        if (decide (delivery.frame.tuner = .b) == onTunerB) = true then
          delivery.callbacks
        else [] := by
  have sides (callback : StreamCallback)
      (member : callback ∈ delivery.callbacks) :
      callback.onTunerB = decide (delivery.frame.tuner = .b) := by
    unfold StreamCallback.onTunerB
    rw [whole.sameTuner callback member]
  simp only [tunerCallbacks, callbacks, List.flatMap_append,
    List.flatMap_singleton, List.filter_append]
  congr 1
  split_ifs with same
  · rw [List.filter_eq_self]
    intro callback member
    rw [sides callback member]
    exact same
  · rw [List.filter_eq_nil_iff]
    intro callback member
    rw [sides callback member]
    exact same

/-- Delivering a frame keeps the calls contiguous: a frame that does not
start at the expected sample says `reset`, and its last call ends where the
next frame is expected. -/
theorem Contiguous.deliver
    {history : DeliveryHistory} (contiguous : history.Contiguous)
    (frame : StreamFrame) (limits : Nat → ℕ+) :
    Contiguous
      { device := history.device.dequeued frame
        delivered := history.delivered ++
          [{ frame, limits,
             callbacks := frameCallbacksLimited history.device.mode frame
                (history.device.deliveredFlags frame) limits }] } := by
  have whole := frameCallbacksLimited_whole history.device.mode frame
      (history.device.deliveredFlags frame) limits
  refine ⟨?_, fun onTunerB => ?_, fun onTunerB => ?_⟩
  · intro delivery member
    rcases List.mem_append.mp member with earlier | last
    · exact contiguous.whole delivery earlier
    · rw [List.mem_singleton.mp last]
      exact whole
  · rw [tunerCallbacks_snoc _ _ whole]
    split_ifs with same
    · rw [beq_iff_eq] at same
      subst same
      refine (contiguous.follows _).append
        ((frameCallbacksLimited_abutting _ _ _ _).imp fun _ _ abuts _ => abuts) ?_
      intro earlier isLast later isFirst continues
      obtain ⟨starts, flagged⟩ := frameCallbacksLimited_head _ _ _ _ later isFirst
      rw [flagged] at continues
      obtain ⟨seen, expected⟩ := expected_of_not_reset continues
      unfold StreamCallback.Abuts
      rw [starts, expected]
      exact contiguous.expected _ earlier isLast seen
    · rw [List.append_nil]
      exact contiguous.follows onTunerB
  · obtain ⟨seen, next⟩ := dequeued_cells history.device frame onTunerB
    rw [tunerCallbacks_snoc _ _ whole, seen, next]
    split_ifs with same
    · intro last isLast _
      rw [List.getLast?_append_of_ne_nil _ (frameCallbacksLimited_ne_nil _ _ _ _)] at isLast
      exact (frameCallbacksLimited_last _ _ _ _ last isLast).symm
    · rw [List.append_nil, Bool.eq_false_iff.mpr same, Bool.or_false]
      exact contiguous.expected onTunerB

/-- Every action keeps the calls contiguous. -/
theorem Contiguous.step
    {history : DeliveryHistory} (contiguous : history.Contiguous)
    (action : QueueAction) :
    (history.step action).Contiguous := by
  cases action with
  | queue frame =>
      exact contiguous.of_cells rfl
        (fun side => (queueStreamCallback_cells _ _ side).1)
        (fun side => (queueStreamCallback_cells _ _ side).2)
  | acknowledge tuner sampleNumber fsChanged rfChanged grChanged =>
      exact contiguous.of_cells rfl
        (fun side => (queueStreamCallback_cells _ _ side).1)
        (fun side => (queueStreamCallback_cells _ _ side).2)
  | pause => exact contiguous.of_cells rfl (fun _ => rfl) (fun _ => rfl)
  | resume => exact contiguous.of_cells rfl (fun _ => rfl) (fun _ => rfl)
  | turn limits =>
      unfold DeliveryHistory.step
      rcases streamCallbackThreadTurnLimited_cases history.device limits with
        waits | ⟨frame, delivers⟩
      · simp only [waits, Option.toList_none, List.append_nil]
        exact contiguous
      · simp only [delivers, Option.toList_some]
        exact contiguous.deliver frame limits

/-- Nothing has been delivered yet. -/
def start (device : CallbackDevice) : DeliveryHistory := ⟨device, []⟩

theorem start_contiguous (device : CallbackDevice) :
    (start device).Contiguous where
  whole := by simp [start]
  follows := fun _ => List.IsChain.nil
  expected := by simp [start, tunerCallbacks, callbacks]

/-- A turn of a thread that may run delivers the oldest frame and takes it
off the queue. -/
theorem step_turn_delivers (history : DeliveryHistory) (limits : Nat → ℕ+)
    {frame : StreamFrame} {rest : List StreamFrame}
    (running : history.device.streamCallbackStop = false)
    (resumed : history.device.streamCallbackPaused = false)
    (queued : history.device.streamQueue.toList = frame :: rest) :
    ∃ callbacks, (history.step (.turn limits)).delivered =
          history.delivered ++ [⟨frame, limits, callbacks⟩] ∧
        (history.step (.turn limits)).device.streamQueue.toList = rest := by
  obtain ⟨occupied, front, left⟩ := Ring.of_toList_eq_cons queued
  have turn : history.device.streamCallbackThreadTurnLimited limits =
        (history.device.dequeued frame, some ⟨frame, limits, frameCallbacksLimited
          history.device.mode frame (history.device.deliveredFlags frame) limits⟩) := by
    simp [streamCallbackThreadTurnLimited, running, resumed, occupied, front]
  have dropped : (history.device.dequeued frame).streamQueue.toList = rest := by
    unfold dequeued
    split <;> exact left
  simp only [step, turn, Option.toList_some]
  exact ⟨_, rfl, dropped⟩

/-- Otherwise a turn does nothing. -/
theorem step_turn_waits (history : DeliveryHistory) (limits : Nat → ℕ+)
    (waits : history.device.streamCallbackStop = true ∨ history.device.streamCallbackPaused = true ∨
        history.device.streamQueue.toList = []) :
    history.step (.turn limits) = history := by
  have empty (nothing : history.device.streamQueue.toList = []) :
      history.device.streamQueue.count = 0 := by
    rw [← Ring.length_toList, nothing, List.length_nil]
  rcases waits with stop | paused | nothing
  · simp [step, streamCallbackThreadTurnLimited, stop]
  · simp [step, streamCallbackThreadTurnLimited, paused]
  · simp [step, streamCallbackThreadTurnLimited, empty nothing]

/-- Whatever is queued, paused and resumed and whatever positive limits the
thread reads, a turn of a thread that may run takes the oldest frame off the
queue and delivers it, and other turns do nothing; every frame taken off the
queue is delivered whole; and of two consecutive calls for a tuner the later
one says `reset` or starts where the earlier one ended. -/
theorem callbacks_contiguous_unless_reset (device : CallbackDevice) (actions : List QueueAction) :
    let history := runSteps step (start device) actions
    (∀ limits frame rest, history.device.streamCallbackStop = false →
        history.device.streamCallbackPaused = false →
        history.device.streamQueue.toList = frame :: rest → ∃ callbacks,
            (history.step (.turn limits)).delivered =
                history.delivered ++ [⟨frame, limits, callbacks⟩] ∧
              (history.step (.turn limits)).device.streamQueue.toList = rest) ∧
      (∀ limits,
        history.device.streamCallbackStop = true ∨ history.device.streamCallbackPaused = true ∨
            history.device.streamQueue.toList = [] →
          history.step (.turn limits) = history) ∧
      (∀ delivery ∈ history.delivered, delivery.Whole) ∧
      ∀ onTunerB, (history.tunerCallbacks onTunerB).IsChain fun earlier later =>
          later.flags.reset = false →
          later.firstSampleNum = earlier.firstSampleNum + UInt32.ofNat earlier.numSamples := by
  intro history
  have contiguous : history.Contiguous :=
    invariant_of_steps (fun _ action kept => kept.step action) actions (start_contiguous device)
  exact ⟨fun limits _ _ => history.step_turn_delivers limits, history.step_turn_waits,
    contiguous.whole, contiguous.follows⟩

end DeliveryHistory

end OpenRsp
