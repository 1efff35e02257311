import OpenRsp.Compat.IqQueue

/-!
# Responses of the daemon backend

`reader_main`, `drain_iq_before_response` and `async_request` of
`compat/daemon_backend.c`, together with the IQ queue.  The reader takes the
frames of the socket in order.  Before it makes a response visible it waits
until the IQ queue is empty and the worker idle.  A requester numbers its
request, resets the response slots, sends, and waits until the slots are
filled, the reader has failed or its time is up.  One mutex admits one
requester at a time.

The reader, the worker and the requester take their steps in any order.
-/

namespace OpenRsp

open Rings Runs

/-! ## Frames and results -/

/-- `openrsp_response`. -/
structure Response where
  sequence : UInt32
  status : UInt32
  changedFlags : UInt32
deriving DecidableEq, Repr

/-- A frame the reader receives.  Status and duo events, and frames it does
not know, touch neither the queue nor the response slots. -/
inductive WireFrame where
  | iq (message : IqMessage)
  | response (response : Response)
  | other
deriving DecidableEq, Repr

/-- `OPENRSP_RESPONSE_RECOVERY_QUEUED`. -/
def recoveryQueuedBit : UInt32 := 0x80000000

/-- What `async_request` returns for a response. -/
def asyncResult (status changedFlags : UInt32) : Int :=
  if status = 0 then
    if changedFlags &&& recoveryQueuedBit ≠ 0 then 1 else 0
  else (-status.toInt32).toInt

/-- What `async_request` returns when the connection is lost:
`-(int)OPENRSP_STATUS_IO_ERROR`. -/
def lostResult : Int := -4

/-- The way an `async_request` ended; an answer is named by the position of
its response on the wire. -/
inductive Outcome where
  | sendFailed
  | timedOut
  | lost
  | answered (position : Nat)
deriving DecidableEq, Repr

/-- An `async_request` that has returned. -/
structure Completion where
  sequence : UInt32
  result : Int
  outcome : Outcome
deriving DecidableEq, Repr

/-- A response made visible, and what had become of the IQ frames by then. -/
structure Visible where
  position : Nat
  handed : List Nat
  completed : List Nat
  discards : List IqDiscard
deriving DecidableEq, Repr

/-! ## The backend -/

/-- Where the reader is. -/
inductive ReaderPoint where
  | receiving
  | draining (response : Response)
  | publishing (response : Response)
  | ended
deriving DecidableEq, Repr

/-- Where the requester that holds `request_lock` is. -/
inductive RequesterPoint where
  | none
  | numbered (sequence : UInt32)
  | armed (sequence : UInt32)
  | checking (sequence : UInt32)
  | sleeping (sequence : UInt32)
deriving DecidableEq, Repr

/-- The sequence number of the request under way. -/
def RequesterPoint.sequence? : RequesterPoint → Option UInt32
  | .none => Option.none
  | .numbered sequence | .armed sequence | .checking sequence
  | .sleeping sequence => some sequence

/-- Whether the slots have been reset for the request under way. -/
def RequesterPoint.isArmed : RequesterPoint → Bool
  | .none | .numbered _ => false
  | _ => true

/-- The part of `openrsp_daemon_backend` requests use, where its threads
are, and what has happened.  `stored` is the position of the response in the
slots. -/
structure Backend (build : IqBuild) where
  iq : IqQueue build
  reader : ReaderPoint
  readerFailed : Bool
  nextSequence : UInt32
  waitingSequence : UInt32
  waitingStatus : UInt32
  waitingChangedFlags : UInt32
  responseReceived : Bool
  requester : RequesterPoint
  received : List WireFrame
  stored : Option Nat
  visible : List Visible
  completed : List Completion

/-- The steps of the threads. -/
inductive BackendAction where
  | receive (frame : WireFrame) (clockWorks : Bool)
  | failReceive
  | wakeReader
  | drain
  | publish
  | worker (action : IqAction)
  | request
  | arm
  | send (sent clockWorks : Bool)
  | check
  | wakeRequester
  | timeOut
deriving DecidableEq, Repr

/-- Whether a step is a new request. -/
def BackendAction.isRequest : BackendAction → Bool
  | .request => true
  | _ => false

namespace Backend

variable {build : IqBuild}

/-- A backend whose reader and worker have just been started; earlier
requests have used the sequence numbers before `first`. -/
def start (build : IqBuild) (first : UInt32) : Backend build where
  iq := .start build true
  reader := .receiving
  readerFailed := false
  nextSequence := first
  waitingSequence := 0
  waitingStatus := 0
  waitingChangedFlags := 0
  responseReceived := false
  requester := .none
  received := []
  stored := none
  visible := []
  completed := []

/-- The reader stops. -/
def failReader (backend : Backend build) : Backend build :=
  { backend with reader := .ended, readerFailed := true }

/-- One turn of the loop of `reader_main`, up to a wait.  A frame larger than
the buffer is an error of `openrsp_client_receive`. -/
def receive (backend : Backend build) (frame : WireFrame) (clockWorks : Bool) : Backend build :=
  if backend.reader ≠ .receiving ∨ backend.iq.waiting.isSome then backend
  else
    match frame with
    | .iq message =>
        if openrspMaxIqSamples < message.samples then backend.failReader
        else
          { backend with
            iq := backend.iq.arrive message clockWorks
            received := backend.received ++ [frame] }
    | .response response =>
        { backend with
          reader := .draining response
          received := backend.received ++ [frame] }
    | .other => { backend with received := backend.received ++ [frame] }

/-- `drain_iq_before_response` sees the queue empty and the worker idle. -/
def drain (backend : Backend build) : Backend build :=
  match backend.reader with
  | .draining response =>
      if backend.iq.queue.count = 0 ∧ backend.iq.active = false then
        { backend with reader := .publishing response }
      else backend
  | _ => backend

/-- The IQ frames' fate as a response becomes visible. -/
def snapshot (backend : Backend build) : Visible where
  position := backend.received.length - 1
  handed := backend.iq.handed.map Prod.fst
  completed := backend.iq.completed
  discards := backend.iq.discards

/-- The reader fills the response slots if the response is awaited. -/
def publish (backend : Backend build) : Backend build :=
  match backend.reader with
  | .publishing response =>
      if response.sequence = backend.waitingSequence then
        { backend with
          reader := .receiving
          waitingStatus := response.status
          waitingChangedFlags := response.changedFlags
          responseReceived := true
          stored := some (backend.received.length - 1)
          visible := backend.visible ++ [backend.snapshot] }
      else { backend with reader := .receiving }
  | _ => backend

/-- The steps of the worker; the others are the reader's. -/
def workerStep (backend : Backend build) : IqAction → Backend build
  | .take => { backend with iq := backend.iq.take }
  | .call => { backend with iq := backend.iq.call }
  | .complete => { backend with iq := backend.iq.complete }
  | _ => backend

/-- `async_request` returns. -/
def finish (backend : Backend build) (completion : Completion) :
    Backend build :=
  { backend with
    requester := .none
    completed := backend.completed ++ [completion] }

/-- The loop condition of `async_request` and what follows it. -/
def check (backend : Backend build) (sequence : UInt32) : Backend build :=
  if backend.responseReceived then
    backend.finish
      ⟨sequence,
        asyncResult backend.waitingStatus backend.waitingChangedFlags,
        match backend.stored with
        | some position => .answered position
        | none => .lost⟩
  else if backend.readerFailed then
    backend.finish ⟨sequence, lostResult, .lost⟩
  else { backend with requester := .sleeping sequence }

/-- One step. -/
def step (backend : Backend build) : BackendAction → Backend build
  | .receive frame clockWorks => backend.receive frame clockWorks
  | .failReceive =>
      if backend.reader = .receiving ∧ backend.iq.waiting = none then
        backend.failReader
      else backend
  | .wakeReader => { backend with iq := backend.iq.wake }
  | .drain => backend.drain
  | .publish => backend.publish
  | .worker action => backend.workerStep action
  | .request =>
      if backend.requester = .none then
        { backend with
          nextSequence := backend.nextSequence + 1
          requester := .numbered backend.nextSequence }
      else backend
  | .arm =>
      match backend.requester with
      | .numbered sequence =>
          { backend with
            waitingSequence := sequence
            waitingChangedFlags := 0
            responseReceived := false
            stored := none
            requester := .armed sequence }
      | _ => backend
  | .send sent clockWorks =>
      match backend.requester with
      | .armed sequence =>
          if sent = false then backend.finish ⟨sequence, -1, .sendFailed⟩
          else if clockWorks = false then
            backend.finish ⟨sequence, -1, .timedOut⟩
          else { backend with requester := .checking sequence }
      | _ => backend
  | .check =>
      match backend.requester with
      | .checking sequence => backend.check sequence
      | _ => backend
  | .wakeRequester =>
      match backend.requester with
      | .sleeping sequence => { backend with requester := .checking sequence }
      | _ => backend
  | .timeOut =>
      match backend.requester with
      | .sleeping sequence => backend.finish ⟨sequence, -1, .timedOut⟩
      | _ => backend

/-! ## Matching -/

/-- The response at a position of the wire. -/
def responseAt (backend : Backend build) (position : Nat) : Option Response :=
  match backend.received[position]? with
  | some (.response response) => some response
  | _ => none

/-- An answered request has the result of a response with its own sequence
number; no two requests share one; and the result `1` stands for an accepted
request whose recovery is queued. -/
structure Matched (backend : Backend build) : Prop where
  answered : ∀ completion ∈ backend.completed, ∀ position, completion.outcome = .answered position →
        ∃ response, backend.responseAt position = some response ∧
          response.sequence = completion.sequence ∧
          completion.result = asyncResult response.status response.changedFlags
  apart : backend.completed.Pairwise fun first second =>
      first.sequence ≠ second.sequence
  queued : ∀ completion ∈ backend.completed, completion.result = 1 ↔
        ∃ position response, completion.outcome = .answered position ∧
          backend.responseAt position = some response ∧
          response.status = 0 ∧
          response.changedFlags &&& recoveryQueuedBit ≠ 0

/-- Every response received has a status that is not `UINT32_MAX`. -/
def StatusKnown (_ : Backend build) : BackendAction → Prop
  | .receive (.response response) _ => response.status ≠ 0xffffffff
  | _ => True

/-! ## Order -/

/-- How many of the frames before a position are IQ frames. -/
def iqBefore (backend : Backend build) (position : Nat) : Nat :=
  ((backend.received.take position).filter fun frame =>
    match frame with
    | .iq _ => true
    | _ => false).length

/-- When a response becomes visible, every IQ frame before it on the wire has
been delivered or discarded as the oldest waiting frame, and none behind it
has been handed over; and a request is only answered by a response that has
become visible. -/
structure ResponsesOrdered (backend : Backend build) : Prop where
  delivered : ∀ shown ∈ backend.visible, ∀ arrival < backend.iqBefore shown.position,
      arrival ∈ shown.completed ∨
        ∃ lost ∈ shown.discards,
          lost.arrival = arrival ∧ lost.oldest = some arrival ∧ lost.free = none
  behind :
    ∀ shown ∈ backend.visible, ∀ arrival ∈ shown.handed, arrival < backend.iqBefore shown.position
  returned : ∀ completion ∈ backend.completed, ∀ position,
      completion.outcome = .answered position → ∃ shown ∈ backend.visible, shown.position = position

/-! ## Requests are matched -/

theorem asyncResult_eq_one {status changedFlags : UInt32} (known : status ≠ 0xffffffff) :
    asyncResult status changedFlags = 1 ↔ status = 0 ∧ changedFlags &&& recoveryQueuedBit ≠ 0 := by
  unfold asyncResult
  by_cases accepted : status = 0
  · rw [if_pos accepted]
    by_cases queued : changedFlags &&& recoveryQueuedBit ≠ 0
    · simp [accepted, queued]
    · simp [accepted, queued]
  · rw [if_neg accepted]
    refine ⟨fun isOne => ?_, fun both => absurd both.1 accepted⟩
    refine absurd ?_ known
    have negated : -status.toInt32 = 1 := Int32.toInt_inj.mp isOne
    have same : status.toInt32 = -1 := by rw [← Int32.neg_neg (a := status.toInt32), negated]
    calc
      status = status.toInt32.toUInt32 := (UInt32.toUInt32_toInt32 status).symm
      _ = (-1 : Int32).toUInt32 := by rw [same]
      _ = 0xffffffff := by decide

theorem responseAt_append {before after : Backend build}
    {more : List WireFrame} (received : after.received = before.received ++ more)
    {position : Nat} {response : Response}
    (found : before.responseAt position = some response) :
    after.responseAt position = some response := by
  unfold responseAt at found ⊢
  rcases known : before.received[position]? with _ | frame
  · simp [known] at found
  · have bound := (List.getElem?_eq_some_iff.mp known).choose
    rw [received, List.getElem?_append_left bound]
    exact found

theorem responseAt_last {backend : Backend build} {response : Response}
    (last : backend.received.getLast? = some (.response response)) :
    backend.responseAt (backend.received.length - 1) = some response := by
  unfold responseAt
  rw [← List.getLast?_eq_getElem?, last]

theorem mem_received_of_responseAt {backend : Backend build} {position : Nat}
    {response : Response}
    (found : backend.responseAt position = some response) :
    .response response ∈ backend.received := by
  unfold responseAt at found
  split at found
  · rename_i other known
    obtain rfl : other = response := by simpa using found
    exact List.mem_of_getElem? known
  · simp at found

/-- What a completed request says is true of the wire. -/
def Answered (backend : Backend build) (completion : Completion) : Prop :=
  match completion.outcome with
  | .answered position =>
      ∃ response, backend.responseAt position = some response ∧
        response.sequence = completion.sequence ∧
        completion.result = asyncResult response.status response.changedFlags
  | _ => completion.result ≠ 1

/-- The response slots hold a response with the awaited number, and the
request under way is the awaited one. -/
structure Slots (backend : Backend build) : Prop where
  filled : backend.responseReceived = true → ∃ position response, backend.stored = some position ∧
        backend.responseAt position = some response ∧
        response.sequence = backend.waitingSequence ∧
        backend.waitingStatus = response.status ∧
        backend.waitingChangedFlags = response.changedFlags
  reading : ∀ response, backend.reader = .draining response ∨
          backend.reader = .publishing response →
        backend.received.getLast? = some (.response response)
  awaited :
    backend.requester.isArmed = true → backend.requester.sequence? = some backend.waitingSequence
  answered : ∀ completion ∈ backend.completed, backend.Answered completion

theorem Answered.append {before after : Backend build}
    {more : List WireFrame} (received : after.received = before.received ++ more)
    {completion : Completion} (answered : before.Answered completion) :
    after.Answered completion := by
  unfold Answered at answered ⊢
  split at answered
  · obtain ⟨response, found, same⟩ := answered
    exact ⟨response, responseAt_append received found, same⟩
  · exact answered

/-- A step of the reader that leaves slots and requester alone. -/
theorem Slots.of_received {before after : Backend build}
    (slots : before.Slots) {more : List WireFrame}
    (received : after.received = before.received ++ more)
    (reading : ∀ response, after.reader = .draining response ∨
            after.reader = .publishing response →
          after.received.getLast? = some (.response response))
    (responseReceived : after.responseReceived = before.responseReceived)
    (stored : after.stored = before.stored)
    (sequence : after.waitingSequence = before.waitingSequence)
    (status : after.waitingStatus = before.waitingStatus)
    (flags : after.waitingChangedFlags = before.waitingChangedFlags)
    (requester : after.requester = before.requester)
    (completed : after.completed = before.completed) : after.Slots where
  filled got := by
    obtain ⟨position, response, kept, found, same⟩ := slots.filled (responseReceived ▸ got)
    rw [stored, sequence, status, flags]
    exact ⟨position, response, kept, responseAt_append received found, same⟩
  reading := reading
  awaited := by
    rw [requester, sequence]
    exact slots.awaited
  answered completion member := (slots.answered completion (completed ▸ member)).append received

/-- A step that leaves everything but the IQ queue alone. -/
theorem Slots.of_iq {backend : Backend build} (slots : backend.Slots)
    (iq : IqQueue build) : ({ backend with iq := iq } : Backend build).Slots :=
  slots.of_received (List.append_nil _).symm slots.reading rfl rfl rfl rfl rfl rfl rfl

theorem Slots.receive {backend : Backend build} (slots : backend.Slots)
    (frame : WireFrame) (clockWorks : Bool) :
    (backend.receive frame clockWorks).Slots := by
  unfold Backend.receive
  split_ifs with busy
  · exact slots
  · have receiving : backend.reader = .receiving := by
      simpa using (not_or.mp busy).1
    cases frame with
    | iq message =>
        dsimp only
        split_ifs
        · exact slots.of_received (List.append_nil _).symm (by
            simp [failReader]) rfl rfl rfl rfl rfl rfl rfl
        · exact slots.of_received rfl (by simp [receiving]) rfl rfl rfl rfl rfl rfl rfl
    | response response =>
        refine slots.of_received rfl ?_ rfl rfl rfl rfl rfl rfl rfl
        rintro other (draining | publishing)
        · obtain rfl : response = other := by simpa using draining
          exact List.getLast?_concat
        · simp at publishing
    | other =>
        exact slots.of_received rfl (by simp [receiving]) rfl rfl rfl rfl rfl rfl rfl

theorem Slots.drain {backend : Backend build} (slots : backend.Slots) :
    backend.drain.Slots := by
  unfold Backend.drain
  split
  · rename_i response draining
    split_ifs
    · refine slots.of_received (List.append_nil _).symm ?_ rfl rfl rfl rfl rfl rfl rfl
      rintro other (impossible | publishing)
      · simp at impossible
      · obtain rfl : response = other := by simpa using publishing
        exact slots.reading response (.inl draining)
    · exact slots
  · exact slots

theorem Slots.publish {backend : Backend build} (slots : backend.Slots) :
    backend.publish.Slots := by
  unfold Backend.publish
  split
  · rename_i response publishing
    have last := slots.reading response (.inr publishing)
    split_ifs with awaited
    · exact
        { filled := fun _ =>
            ⟨_, response, rfl, responseAt_last last, awaited, rfl, rfl⟩
          reading := by simp
          awaited := slots.awaited
          answered := slots.answered }
    · exact slots.of_received (List.append_nil _).symm (by simp) rfl rfl rfl rfl rfl rfl rfl
  · exact slots

/-- A step of the requester that leaves the slots alone. -/
theorem Slots.of_requester {backend : Backend build} (slots : backend.Slots)
    {requester : RequesterPoint} (nextSequence : UInt32)
    (awaited : requester.isArmed = true → requester.sequence? = some backend.waitingSequence) :
    ({ backend with
      requester := requester
      nextSequence := nextSequence } : Backend build).Slots where
  filled := slots.filled
  reading := slots.reading
  awaited := awaited
  answered := slots.answered

theorem Slots.finish {backend : Backend build} (slots : backend.Slots)
    {completion : Completion} (answered : backend.Answered completion) :
    (backend.finish completion).Slots where
  filled := slots.filled
  reading := slots.reading
  awaited := nofun
  answered other member := by
    rcases List.mem_append.mp member with earlier | new
    · exact slots.answered other earlier
    · rw [List.mem_singleton.mp new]
      exact answered

theorem Slots.check {backend : Backend build} (slots : backend.Slots)
    {sequence : UInt32} (checking : backend.requester = .checking sequence) :
    (backend.check sequence).Slots := by
  have awaited : backend.waitingSequence = sequence := by
    have awaited := slots.awaited (by simp [checking, RequesterPoint.isArmed])
    simpa [checking, RequesterPoint.sequence?, eq_comm] using awaited
  unfold Backend.check
  split_ifs with got failed
  · obtain ⟨position, response, kept, found, same, status, flags⟩ := slots.filled got
    refine slots.finish ?_
    rw [kept, status, flags]
    exact ⟨response, found, same.trans awaited, rfl⟩
  · exact slots.finish (show lostResult ≠ 1 by decide)
  · exact slots.of_requester backend.nextSequence fun _ => by
      simp [RequesterPoint.sequence?, awaited]

theorem Slots.step {backend : Backend build} (slots : backend.Slots)
    (action : BackendAction) : (backend.step action).Slots := by
  cases action with
  | receive frame clockWorks => exact slots.receive frame clockWorks
  | failReceive =>
      simp only [Backend.step]
      split_ifs
      · exact slots.of_received (List.append_nil _).symm (by
          simp [failReader]) rfl rfl rfl rfl rfl rfl rfl
      · exact slots
  | wakeReader => exact slots.of_iq _
  | drain => exact slots.drain
  | publish => exact slots.publish
  | worker action =>
      cases action with
      | take => exact slots.of_iq _
      | call => exact slots.of_iq _
      | complete => exact slots.of_iq _
      | arrive message clockWorks => exact slots
      | wake => exact slots
  | request =>
      simp only [Backend.step]
      split_ifs
      · exact slots.of_requester _ nofun
      · exact slots
  | arm =>
      simp only [Backend.step]
      split
      · exact
          { filled := nofun
            reading := slots.reading
            awaited := fun _ => rfl
            answered := slots.answered }
      · exact slots
  | send sent clockWorks =>
      simp only [Backend.step]
      split
      · rename_i sequence armed
        have awaited := slots.awaited (by simp [armed, RequesterPoint.isArmed])
        rw [armed] at awaited
        split_ifs
        · exact slots.finish (show (-1 : Int) ≠ 1 by decide)
        · exact slots.finish (show (-1 : Int) ≠ 1 by decide)
        · exact slots.of_requester _ fun _ => awaited
      · exact slots
  | check =>
      simp only [Backend.step]
      split
      · exact slots.check ‹_›
      · exact slots
  | wakeRequester =>
      simp only [Backend.step]
      split
      · rename_i sequence sleeping
        have awaited := slots.awaited (by simp [sleeping, RequesterPoint.isArmed])
        rw [sleeping] at awaited
        exact slots.of_requester _ fun _ => awaited
      · exact slots
  | timeOut =>
      simp only [Backend.step]
      split
      · exact slots.finish (show (-1 : Int) ≠ 1 by decide)
      · exact slots

/-- The statuses of the responses received. -/
def StatusesKnown (backend : Backend build) : Prop :=
  ∀ response, .response response ∈ backend.received → response.status ≠ 0xffffffff

/-- A step receives at most the frame it names. -/
theorem received_step (backend : Backend build) (action : BackendAction) :
    (backend.step action).received = backend.received ∨
      ∃ frame clockWorks, action = .receive frame clockWorks ∧
        (backend.step action).received = backend.received ++ [frame] := by
  cases action with
  | receive frame clockWorks =>
      simp only [Backend.step, Backend.receive]
      split_ifs
      · exact .inl rfl
      · cases frame with
        | iq message =>
            dsimp only
            split_ifs
            · exact .inl rfl
            · exact .inr ⟨_, _, rfl, rfl⟩
        | response response => exact .inr ⟨_, _, rfl, rfl⟩
        | other => exact .inr ⟨_, _, rfl, rfl⟩
  | failReceive =>
      simp only [Backend.step]
      split_ifs
      · exact .inl rfl
      · exact .inl rfl
  | worker action => cases action <;> exact .inl rfl
  | wakeReader => exact .inl rfl
  | drain =>
      simp only [Backend.step, Backend.drain]
      split
      · split_ifs
        · exact .inl rfl
        · exact .inl rfl
      · exact .inl rfl
  | publish =>
      simp only [Backend.step, Backend.publish]
      split
      · split_ifs
        · exact .inl rfl
        · exact .inl rfl
      · exact .inl rfl
  | request | arm | send sent clockWorks | check | wakeRequester | timeOut =>
      refine .inl ?_
      simp only [Backend.step, Backend.check, finish]
      repeat' split
      all_goals rfl

theorem StatusesKnown.step {backend : Backend build}
    (known : backend.StatusesKnown) {action : BackendAction}
    (allowed : backend.StatusKnown action) :
    (backend.step action).StatusesKnown := by
  intro response member
  rcases backend.received_step action with same | ⟨frame, works, rfl, more⟩
  · exact known response (same ▸ member)
  · rw [more] at member
    rcases List.mem_append.mp member with earlier | new
    · exact known response earlier
    · rw [List.mem_singleton] at new
      subst new
      exact allowed

/-! ### Numbering -/

/-- How many requests have taken a number. -/
def taken (backend : Backend build) : Nat :=
  backend.completed.length +
    if backend.requester = .none then 0 else 1

/-- The requests take consecutive numbers. -/
structure Numbered (first : UInt32) (backend : Backend build) : Prop where
  completed : backend.completed.map Completion.sequence =
      (List.range backend.completed.length).map fun index =>
        first + UInt32.ofNat index
  current : ∀ sequence, backend.requester.sequence? = some sequence →
      sequence = first + UInt32.ofNat backend.completed.length
  next : backend.nextSequence = first + UInt32.ofNat backend.taken

/-- What a step does to the requester and its log. -/
theorem requester_step (backend : Backend build) (action : BackendAction) :
    ((backend.step action).completed = backend.completed ∧
        (backend.step action).nextSequence = backend.nextSequence ∧
        (backend.step action).requester.sequence? = backend.requester.sequence?) ∨
      (action = .request ∧ backend.requester = .none ∧
        (backend.step action).completed = backend.completed ∧
        (backend.step action).nextSequence = backend.nextSequence + 1 ∧
        (backend.step action).requester.sequence? = some backend.nextSequence) ∨
      ∃ completion, backend.requester.sequence? = some completion.sequence ∧
          (backend.step action).completed = backend.completed ++ [completion] ∧
          (backend.step action).nextSequence = backend.nextSequence ∧
          (backend.step action).requester = .none := by
  cases action with
  | receive frame clockWorks =>
      refine .inl ?_
      simp only [Backend.step, Backend.receive]
      split_ifs
      · exact ⟨rfl, rfl, rfl⟩
      · cases frame with
        | iq message =>
            dsimp only
            split_ifs
            · exact ⟨rfl, rfl, rfl⟩
            · exact ⟨rfl, rfl, rfl⟩
        | response response => exact ⟨rfl, rfl, rfl⟩
        | other => exact ⟨rfl, rfl, rfl⟩
  | failReceive | drain | publish =>
      refine .inl ?_
      simp only [Backend.step, Backend.drain, Backend.publish]
      repeat' split
      all_goals exact ⟨rfl, rfl, rfl⟩
  | worker action => cases action <;> exact .inl ⟨rfl, rfl, rfl⟩
  | wakeReader => exact .inl ⟨rfl, rfl, rfl⟩
  | request =>
      simp only [Backend.step]
      split_ifs with free
      · exact .inr (.inl ⟨trivial, free, rfl, rfl, rfl⟩)
      · exact .inl ⟨rfl, rfl, rfl⟩
  | arm | wakeRequester =>
      refine .inl ?_
      simp only [Backend.step]
      split
      · rename_i sequence at_
        exact ⟨rfl, rfl, by rw [at_]; rfl⟩
      · exact ⟨rfl, rfl, rfl⟩
  | send sent clockWorks =>
      simp only [Backend.step]
      split
      · rename_i sequence armed
        split_ifs
        · exact .inr (.inr ⟨_, by rw [armed]; rfl, rfl, rfl, rfl⟩)
        · exact .inr (.inr ⟨_, by rw [armed]; rfl, rfl, rfl, rfl⟩)
        · exact .inl ⟨rfl, rfl, by rw [armed]; rfl⟩
      · exact .inl ⟨rfl, rfl, rfl⟩
  | check =>
      simp only [Backend.step]
      split
      · rename_i sequence checking
        unfold Backend.check
        split_ifs
        · exact .inr (.inr ⟨_, by rw [checking]; rfl, rfl, rfl, rfl⟩)
        · exact .inr (.inr ⟨_, by rw [checking]; rfl, rfl, rfl, rfl⟩)
        · exact .inl ⟨rfl, rfl, by rw [checking]; rfl⟩
      · exact .inl ⟨rfl, rfl, rfl⟩
  | timeOut =>
      simp only [Backend.step]
      split
      · rename_i sequence sleeping
        exact .inr (.inr ⟨_, by rw [sleeping]; rfl, rfl, rfl, rfl⟩)
      · exact .inl ⟨rfl, rfl, rfl⟩

theorem sequence_eq_none {requester : RequesterPoint} :
    requester.sequence? = none ↔ requester = .none := by
  cases requester <;> simp [RequesterPoint.sequence?]

theorem taken_eq (backend : Backend build) : backend.taken =
      backend.completed.length +
        if backend.requester.sequence? = none then 0 else 1 := by
  simp only [taken, sequence_eq_none]

theorem Numbered.step {first : UInt32} {backend : Backend build}
    (numbered : backend.Numbered first) (action : BackendAction) :
    (backend.step action).Numbered first := by
  rcases backend.requester_step action with
    ⟨completed, next, requester⟩ |
      ⟨-, free, completed, next, requester⟩ |
      ⟨completion, busy, completed, next, free⟩
  · refine ⟨?_, ?_, ?_⟩
    · rw [completed]
      exact numbered.completed
    · rw [requester, completed]
      exact numbered.current
    · rw [next, numbered.next, taken_eq, taken_eq, completed, requester]
  · have count : backend.taken = backend.completed.length := by
      simp [taken, free]
    refine ⟨?_, ?_, ?_⟩
    · rw [completed]
      exact numbered.completed
    · intro sequence known
      rw [requester, Option.some.injEq] at known
      rw [completed, ← known, numbered.next, count]
    · rw [next, numbered.next, count, taken_eq, completed, requester]
      simp [add_assoc]
  · have count : backend.taken = backend.completed.length + 1 := by
      simp [taken_eq, busy]
    have sequence := numbered.current _ busy
    refine ⟨?_, ?_, ?_⟩
    · rw [completed]
      simp [numbered.completed, List.range_succ, sequence]
    · intro other known
      simp [free, RequesterPoint.sequence?] at known
    · rw [next, numbered.next, count, taken_eq, completed, free]
      simp [RequesterPoint.sequence?]

theorem taken_step_le (backend : Backend build) (action : BackendAction) :
    (backend.step action).taken ≤ backend.taken + if action.isRequest then 1 else 0 := by
  rcases backend.requester_step action with
    ⟨completed, -, requester⟩ | ⟨rfl, free, completed, -, requester⟩ |
      ⟨completion, busy, completed, -, free⟩
  · rw [taken_eq, taken_eq, completed, requester]
    omega
  · have before := sequence_eq_none.mpr free
    simp [taken_eq, completed, requester, before, BackendAction.isRequest]
  · have after := sequence_eq_none.mpr free
    simp [taken_eq, completed, after, busy]

/-- A run takes at most one number for each request. -/
theorem taken_run_le (backend : Backend build) (actions : List BackendAction) :
    (runSteps Backend.step backend actions).taken ≤
      backend.taken + actions.countP BackendAction.isRequest := by
  induction actions generalizing backend with
  | nil => exact Nat.le_refl _
  | cons action rest run =>
      have one := backend.taken_step_le action
      have more := run (backend.step action)
      rw [List.countP_cons]
      change (runSteps Backend.step (backend.step action) rest).taken ≤ _
      omega

theorem Numbered.apart {first : UInt32} {backend : Backend build}
    (numbered : backend.Numbered first)
    (few : backend.completed.length ≤ 2 ^ 32) :
    backend.completed.Pairwise fun one other =>
      one.sequence ≠ other.sequence := by
  rw [← List.pairwise_map (R := (· ≠ ·)), numbered.completed, List.pairwise_map]
  refine (List.pairwise_lt_range).imp_of_mem ?_
  intro one other memOne memOther less same
  rw [List.mem_range] at memOne memOther
  have equal : UInt32.ofNat one = UInt32.ofNat other := (UInt32.add_right_inj first).mp same
  have nats := congrArg UInt32.toNat equal
  simp only [UInt32.toNat_ofNat'] at nats
  rw [Nat.mod_eq_of_lt (by omega), Nat.mod_eq_of_lt (by omega)] at nats
  omega

theorem Slots.matched {backend : Backend build} (slots : backend.Slots)
    (known : backend.StatusesKnown) {completion : Completion}
    (member : completion ∈ backend.completed) :
    completion.result = 1 ↔ ∃ position response, completion.outcome = .answered position ∧
        backend.responseAt position = some response ∧
        response.status = 0 ∧
        response.changedFlags &&& recoveryQueuedBit ≠ 0 := by
  have answered := slots.answered completion member
  unfold Answered at answered
  split at answered
  · rename_i position outcome
    obtain ⟨response, found, -, result⟩ := answered
    rw [result, asyncResult_eq_one (known response (mem_received_of_responseAt found))]
    constructor
    · intro both
      exact ⟨position, response, outcome, found, both⟩
    · rintro ⟨position', response', outcome', found', both⟩
      obtain rfl : position = position' := by
        simpa using outcome.symm.trans outcome'
      obtain rfl : response = response' := Option.some.inj (found.symm.trans found')
      exact both
  · rename_i outcome
    refine ⟨fun isOne => absurd isOne answered, ?_⟩
    rintro ⟨position, response, known, -⟩
    exact absurd known (outcome position)

/-- What the matching of requests to responses rests on. -/
structure MatchInvariant (first : UInt32) (backend : Backend build) : Prop where
  slots : backend.Slots
  known : backend.StatusesKnown
  numbered : backend.Numbered first

theorem start_matchInvariant (build : IqBuild) (first : UInt32) :
    (start build first).MatchInvariant first where
  slots := by
    refine ⟨nofun, ?_, nofun, nofun⟩
    rintro response (impossible | impossible) <;> cases impossible
  known := nofun
  numbered := ⟨rfl, nofun, (UInt32.add_zero first).symm⟩

/-- Every request is matched to its own response in every run of fewer than
`2 ^ 32` requests in which no response has the status `UINT32_MAX`. -/
theorem requests_matched_of_known (build : IqBuild) (first : UInt32) (actions : List BackendAction)
    (few : actions.countP BackendAction.isRequest < 2 ^ 32)
    (steps : StepsMeet Backend.step StatusKnown (start build first) actions) :
    (runSteps Backend.step (start build first) actions).Matched := by
  have preserved (backend : Backend build) (action : BackendAction)
      (allowed : backend.StatusKnown action)
      (inv : backend.MatchInvariant first) :
      (backend.step action).MatchInvariant first :=
    ⟨inv.slots.step action, inv.known.step allowed, inv.numbered.step action⟩
  have inv := invariant_of_stepsMeet preserved steps (start_matchInvariant build first)
  have bound := (start build first).taken_run_le actions
  have none : (start build first).taken = 0 := rfl
  have length : (runSteps Backend.step (start build first) actions).completed.length
      ≤ 2 ^ 32 := by
    unfold taken at bound none
    omega
  refine ⟨?_, inv.numbered.apart length, fun completion =>
    inv.slots.matched inv.known⟩
  intro completion member position outcome
  have answered := inv.slots.answered completion member
  unfold Answered at answered
  rw [outcome] at answered
  exact answered

instance (backend : Backend build) (action : BackendAction) :
    Decidable (StatusKnown backend action) := by
  unfold StatusKnown
  split <;> infer_instance

/-- A request that is answered by the given response. -/
def answeredRequest (response : Response) : List BackendAction :=
  [.request, .arm, .send true true, .receive (.response response) true, .drain, .publish, .check]

/-- A late response to the first request does not answer the second. -/
def lateResponse : List BackendAction :=
  [.request, .arm, .send true true, .check, .timeOut, .request, .arm,
    .send true true, .receive (.response ⟨7, 0, recoveryQueuedBit⟩) true,
    .drain, .publish, .check, .receive (.response ⟨8, 0, 0⟩) true, .drain,
    .publish, .wakeRequester, .check]

theorem late_response_matched :
    (runSteps Backend.step (start .posix 7) lateResponse).Matched :=
  requests_matched_of_known .posix 7 lateResponse (by decide) (by
    simp only [lateResponse, StepsMeet]
    decide +kernel)

theorem not_matched_of_refused {backend : Backend build}
    {completion : Completion}
    (member : completion ∈ backend.completed) (result : completion.result = 1)
    {position : Nat} (outcome : completion.outcome = .answered position)
    {response : Response}
    (found : backend.responseAt position = some response)
    (refused : response.status ≠ 0) : ¬ backend.Matched := by
  intro matched
  obtain ⟨position', response', outcome', found', accepted, -⟩ :=
    (matched.queued completion member).mp result
  obtain rfl : position = position' := by
    simpa using outcome.symm.trans outcome'
  obtain rfl : response = response' := Option.some.inj (found.symm.trans found')
  exact refused accepted

/-- The status `UINT32_MAX` negates to `1`, which reads as a queued
recovery. -/
theorem refused_request_reads_queued :
    ¬ (runSteps Backend.step (start .posix 7) (answeredRequest ⟨7, 0xffffffff, 0⟩)).Matched := by
  have logged : (runSteps Backend.step (start .posix 7)
        (answeredRequest ⟨7, 0xffffffff, 0⟩)).completed = [⟨7, 1, .answered 0⟩] := by decide +kernel
  refine not_matched_of_refused (by rw [logged]; exact List.mem_singleton_self _)
    rfl rfl (show _ = some (⟨7, 0xffffffff, 0⟩ : Response) by decide +kernel)
    (by decide)

end Backend

end OpenRsp
