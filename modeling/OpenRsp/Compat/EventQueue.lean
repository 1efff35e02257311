import OpenRsp.Compat.StreamCallbacks

/-!
# The event queue

`queue_api_event` and the loop of `event_thread_main` in
`compat/sdrplay_api_compat.c`.  A full queue refuses an event, unless the
event reports a failure: that one replaces the oldest entry, whatever it is.
A failure is therefore lost exactly when it is the oldest entry of a full
queue and another failure arrives.
-/

namespace OpenRsp

open Rings Runs

/-! ## Events -/

/-- `sdrplay_api_EventT`. -/
inductive ApiEventKind where
  | gainChange
  | powerOverloadChange
  | deviceRemoved
  | rspDuoModeChange
  | deviceFailure
deriving DecidableEq, Repr

/-- Transport and physical-device failures. -/
def ApiEventKind.isFailure : ApiEventKind → Bool
  | .deviceRemoved | .deviceFailure => true
  | _ => false

/-- `sdrplay_api_EventParamsT`; `currGain` is the bit pattern of a float. -/
inductive ApiEventParams where
  | zeroed
  | gain (gRdB lnaGRdB currGain : UInt32)
  | powerOverload (detected : Bool)
  | rspDuoMode (modeChangeType : UInt32)
deriving DecidableEq, Repr

/-- `compat_api_event`. -/
structure ApiEvent where
  event : ApiEventKind
  tuner : TunerSelect
  params : ApiEventParams
deriving DecidableEq, Repr

def ApiEvent.isFailure (event : ApiEvent) : Bool := event.event.isFailure

/-! ## The queue -/

/-- `OPENRSP_EVENT_QUEUE_CAPACITY`. -/
def openrspEventQueueCapacity : Nat := 32

/-- The part of `compat_device_context` the event queue uses. -/
structure EventDevice where
  eventThreadStarted : Bool
  eventStop : Bool
  eventDispatching : Bool
  eventQueue : Ring ApiEvent openrspEventQueueCapacity

namespace EventDevice

/-- A zeroed context whose event thread has just been started. -/
def startEventThread : EventDevice where
  eventThreadStarted := true
  eventStop := false
  eventDispatching := false
  eventQueue :=
    { slots := fun _ => ⟨.gainChange, .neither, .zeroed⟩
      head := 0
      count := 0
      headBound := by decide
      countBound := Nat.zero_le _ }

/-- The queued events, oldest first. -/
def waiting (device : EventDevice) : List ApiEvent := device.eventQueue.toList

/-- Whether `queue_api_event` gets as far as looking at the queue. -/
def Accepting (device : EventDevice) : Prop :=
  device.eventThreadStarted = true ∧ device.eventStop = false

instance (device : EventDevice) : Decidable device.Accepting := inferInstanceAs (Decidable (_ ∧ _))

/-- `queue_api_event`. -/
def queueApiEvent (device : EventDevice) (event : ApiEvent) :
    Int × EventDevice :=
  if device.eventThreadStarted = false then (-1, device)
  else if device.eventStop then (-1, device)
  else if full : device.eventQueue.count = openrspEventQueueCapacity then
    if event.isFailure = false then (-1, device)
    else
      (0, { device with
        eventQueue := device.eventQueue.dropFront.pushBack event device.eventQueue.dropFront_room })
  else
    (0, { device with
      eventQueue :=
        device.eventQueue.pushBack event (lt_of_le_of_ne device.eventQueue.countBound full) })

/-- The event thread takes the oldest event under the lock and calls the
application with it.  It waits while there is none. -/
def takeEvent (device : EventDevice) : Option ApiEvent × EventDevice :=
  if device.eventDispatching ∨ device.eventQueue.count = 0 then (none, device)
  else
    (some device.eventQueue.front,
      { device with
        eventQueue := device.eventQueue.dropFront
        eventDispatching := true })

/-- The application has returned. -/
def finishDispatch (device : EventDevice) : EventDevice :=
  { device with eventDispatching := false }

/-- `stop_event_thread` up to joining the thread, which empties the queue
first. -/
def stopEventThread (device : EventDevice) : EventDevice :=
  { device with eventStop := true }

/-- What becomes of an event: it is appended, it is appended in place of the
oldest one, or it is refused. -/
theorem queueApiEvent_outcome (device : EventDevice) (event : ApiEvent) :
    (device.queueApiEvent event).1 = 0 ∧
        (device.queueApiEvent event).2.waiting = device.waiting ++ [event] ∨
      (device.queueApiEvent event).1 = 0 ∧ (device.Accepting ∧ event.isFailure = true ∧
          device.eventQueue.count = openrspEventQueueCapacity) ∧
        (∃ rest,
          device.waiting = device.eventQueue.front :: rest ∧
          (device.queueApiEvent event).2.waiting = rest ++ [event]) ∨
      (device.queueApiEvent event).1 = -1 ∧ (device.queueApiEvent event).2 = device := by
  unfold queueApiEvent
  split_ifs with stopped stopping full plain
  · exact .inr (.inr ⟨rfl, rfl⟩)
  · exact .inr (.inr ⟨rfl, rfl⟩)
  · exact .inr (.inr ⟨rfl, rfl⟩)
  · have occupied : device.eventQueue.count ≠ 0 := by
      rw [full]
      decide
    refine .inr (.inl ⟨rfl, ⟨⟨?_, ?_⟩, ?_, full⟩, _,
      device.eventQueue.toList_eq_front_cons occupied, ?_⟩)
    · simpa using stopped
    · simpa using stopping
    · simpa using plain
    · exact Ring.toList_pushBack _ _ _
  · exact .inl ⟨rfl, Ring.toList_pushBack _ _ _⟩

/-- What the event thread does: nothing, or it takes the oldest event. -/
theorem takeEvent_outcome (device : EventDevice) : device.takeEvent = (none, device) ∨
      ∃ event rest,
        device.takeEvent.1 = some event ∧
        device.waiting = event :: rest ∧
        device.takeEvent.2.waiting = rest := by
  unfold takeEvent
  split_ifs with idle
  · exact .inl rfl
  · obtain ⟨-, occupied⟩ := not_or.mp idle
    exact .inr ⟨_, _, rfl, device.eventQueue.toList_eq_front_cons occupied, rfl⟩

end EventDevice

/-! ## Histories -/

/-- The device, the events accepted so far and those the application has
been called with. -/
structure EventHistory where
  device : EventDevice
  accepted : List ApiEvent
  dispatched : List ApiEvent

/-- The steps of the threads that share the queue. -/
inductive EventAction where
  | queue (event : ApiEvent)
  | take
  | finish
  | stop
deriving DecidableEq, Repr

namespace EventHistory

/-- The history that starts with the event thread. -/
def start : EventHistory := ⟨EventDevice.startEventThread, [], []⟩

/-- Take one step. -/
def step (history : EventHistory) : EventAction → EventHistory
  | .queue event =>
      let queued := history.device.queueApiEvent event
      { history with
        device := queued.2
        accepted := history.accepted ++ (if queued.1 = 0 then [event] else []) }
  | .take =>
      let taken := history.device.takeEvent
      { history with
        device := taken.2
        dispatched := history.dispatched ++ taken.1.toList }
  | .finish => { history with device := history.device.finishDispatch }
  | .stop => { history with device := history.device.stopEventThread }

/-- The accepted events that have not been discarded: those dispatched, then
those still queued. -/
def kept (history : EventHistory) : List ApiEvent := history.dispatched ++ history.device.waiting

/-- The queue is bounded, events are dispatched in the order in which they
were accepted, and of the failures none is missing. -/
structure FailuresKept (history : EventHistory) : Prop where
  bounded : history.device.waiting.length ≤ openrspEventQueueCapacity
  ordered : history.kept.Sublist history.accepted
  failures : history.kept.filter ApiEvent.isFailure = history.accepted.filter ApiEvent.isFailure

/-- A failure that arrives at a full queue does not find another failure at
its head. -/
def SparesFailures (history : EventHistory) : EventAction → Prop
  | .queue event =>
      history.device.Accepting → event.isFailure = true →
        history.device.eventQueue.count = openrspEventQueueCapacity →
          history.device.eventQueue.front.isFailure = false
  | _ => True

instance (history : EventHistory) (action : EventAction) :
    Decidable (history.SparesFailures action) := by
  cases action <;> unfold SparesFailures <;> infer_instance

theorem waiting_bounded (history : EventHistory) :
    history.device.waiting.length ≤ openrspEventQueueCapacity := by
  rw [EventDevice.waiting, Ring.length_toList]
  exact history.device.eventQueue.countBound

theorem start_failuresKept : start.FailuresKept where
  bounded := waiting_bounded start
  ordered := .slnil
  failures := rfl

/-- An accepted event is kept; only one that is not a failure makes room for
it. -/
theorem FailuresKept.queue {history : EventHistory} (kept : history.FailuresKept) (event : ApiEvent)
    (spares : history.SparesFailures (.queue event)) :
    (history.step (.queue event)).FailuresKept := by
  have bounded := waiting_bounded (history.step (.queue event))
  rcases history.device.queueApiEvent_outcome event with
    ⟨accepted, appended⟩ |
    ⟨accepted, ⟨accepting, failure, full⟩, rest, found, appended⟩ |
    ⟨refused, unchanged⟩
  · have grown :
        (history.step (.queue event)).kept = history.kept ++ [event] := by
      simp [EventHistory.kept, step, appended]
    refine ⟨bounded, ?_, ?_⟩
    · rw [grown]
      simpa [step, accepted] using kept.ordered.append_right [event]
    · rw [grown]
      simp [step, accepted, kept.failures]
  · have spared : history.device.eventQueue.front.isFailure = false := spares accepting failure full
    have before :
        history.kept = history.dispatched ++ history.device.eventQueue.front :: rest := by
      rw [EventHistory.kept, found]
    have grown :
        (history.step (.queue event)).kept = (history.dispatched ++ rest) ++ [event] := by
      simp [EventHistory.kept, step, appended]
    have fewer : (history.dispatched ++ rest).Sublist history.accepted := by
      refine List.Sublist.trans ?_ (before ▸ kept.ordered)
      exact (List.sublist_cons_self _ rest).append_left _
    have failures : (history.dispatched ++ rest).filter ApiEvent.isFailure =
          history.accepted.filter ApiEvent.isFailure := by
      rw [← kept.failures, before]
      simp [spared]
    refine ⟨bounded, ?_, ?_⟩
    · rw [grown]
      simpa [step, accepted] using fewer.append_right [event]
    · rw [grown, List.filter_append, failures]
      simp [step, accepted]
  · have same : (history.step (.queue event)) = history := by
      simp [step, refused, unchanged]
    rw [same]
    exact kept

/-- Taking an event moves it from the queue to the application. -/
theorem kept_take (history : EventHistory) :
    (history.step .take).kept = history.kept := by
  rcases history.device.takeEvent_outcome with
    idle | ⟨event, rest, taken, found, left⟩
  · simp [EventHistory.kept, step, idle]
  · simp [EventHistory.kept, step, taken, found, left]

theorem FailuresKept.step {history : EventHistory}
    (kept : history.FailuresKept) (action : EventAction)
    (spares : history.SparesFailures action) :
    (history.step action).FailuresKept := by
  cases action with
  | queue event => exact kept.queue event spares
  | take =>
      refine ⟨waiting_bounded _, ?_, ?_⟩
      · rw [kept_take]
        exact kept.ordered
      · rw [kept_take]
        exact kept.failures
  | finish => exact ⟨kept.bounded, kept.ordered, kept.failures⟩
  | stop => exact ⟨kept.bounded, kept.ordered, kept.failures⟩

end EventHistory

open EventHistory

/-- In every history in which no failure replaces another one, the queue is
bounded, events come out in the order accepted, and every accepted failure
has been dispatched or is still queued. -/
theorem failures_kept_unless_replaced (actions : List EventAction)
    (spares : StepsMeet EventHistory.step EventHistory.SparesFailures start actions) :
    (runSteps EventHistory.step start actions).FailuresKept := by
  have preserved (history : EventHistory) (action : EventAction)
      (allowed : history.SparesFailures action)
      (kept : history.FailuresKept) : (history.step action).FailuresKept :=
    kept.step action allowed
  exact invariant_of_stepsMeet preserved spares start_failuresKept

/-- A notification of a gain change. -/
def gainNotice : ApiEvent := ⟨.gainChange, .a, .gain 40 0 0⟩

/-- The receiver was removed. -/
def removedNotice : ApiEvent := ⟨.deviceRemoved, .a, .zeroed⟩

/-- The connection to the daemon was lost. -/
def failureNotice : ApiEvent := ⟨.deviceFailure, .a, .zeroed⟩

/-- A full queue of gain changes loses one of them to a removal, which the
event thread then dispatches. -/
def removalBehindGains : List EventAction :=
  .queue gainNotice :: .take :: (List.replicate 32 (.queue gainNotice) ++ [.queue removedNotice])

/-- The same with the removal first and a lost connection last. -/
def failureBehindRemoval : List EventAction :=
  .queue gainNotice :: .take :: .queue removedNotice ::
    (List.replicate 31 (.queue gainNotice) ++ [.queue failureNotice])

/-- Gain changes make room for a removal. -/
theorem removal_replaces_gain_change : StepsMeet EventHistory.step EventHistory.SparesFailures start
        removalBehindGains ∧
      (runSteps EventHistory.step start removalBehindGains).FailuresKept := by
  have spares : StepsMeet EventHistory.step EventHistory.SparesFailures start
        removalBehindGains := by
    simp only [removalBehindGains, List.replicate, List.cons_append, List.nil_append, StepsMeet]
    decide +kernel
  exact ⟨spares, failures_kept_unless_replaced _ spares⟩

/-- A lost connection replaces the removal that has waited longest. -/
theorem failure_replaces_removal :
    ¬ (runSteps EventHistory.step start failureBehindRemoval).FailuresKept := by
  intro kept
  have missing : (runSteps EventHistory.step start failureBehindRemoval).kept.filter
          ApiEvent.isFailure ≠
        (runSteps EventHistory.step start failureBehindRemoval).accepted.filter
          ApiEvent.isFailure := by
    decide +kernel
  exact missing kept.failures

end OpenRsp
