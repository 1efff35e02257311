import OpenRsp.Compat.Backend
import OpenRsp.Daemon.Notifications

/-!
# Requests of a selected duo client

`openrsp_daemon_backend_configure_duo`, `openrsp_daemon_backend_start_duo` and
the release in `openrsp_daemon_backend_close`.  Until the reader thread has
been started a request is a `direct_request`: it takes the next frame of the
socket and wants that to be its response.  From then on it is an
`async_request`.  The start of the stream starts the reader first.

The daemon answers the requests of one connection in order, and may write an
event of the peer at any time.
-/

namespace OpenRsp

open Runs

/-- What `request_on_client` returns for a response. -/
def directResult (status : UInt32) : Int :=
  if status = 0 then 0 else (-status.toInt32).toInt

/-- The requests of a selected client. -/
inductive SessionRequest where
  | configure
  | start
  | release
deriving DecidableEq, Repr

/-- A backend of `openrsp_daemon_backend_open_duo`, its socket and the daemon
behind it.  `waiting` is the number of the `direct_request` under way,
`pending` the numbers of the requests not answered yet. -/
structure DuoClient (build : IqBuild) where
  backend : Backend build
  readerStarted : Bool
  unread : List WireFrame
  waiting : Option UInt32
  pending : List UInt32
  issued : List UInt32
  answers : List Response
  returned : List (UInt32 × Int)

/-- The steps of the client's threads and of the daemon. -/
inductive DuoClientAction where
  | unsolicited (frame : WireFrame)
  | respond (status changedFlags : UInt32)
  | request (command : SessionRequest) (sent : Bool)
  | receiveDirect
  | failDirect
  | read (clockWorks : Bool)
  | backend (action : BackendAction)
deriving DecidableEq, Repr

namespace DuoClient

variable {build : IqBuild}

/-- A client whose acquisition has been answered; it has used the numbers
before `first`. -/
def start (build : IqBuild) (first : UInt32) : DuoClient build where
  backend := .start build first
  readerStarted := false
  unread := []
  waiting := none
  pending := []
  issued := []
  answers := []
  returned := []

/-- `direct_request` up to its wait. -/
def sendDirect (client : DuoClient build) (sent : Bool) : DuoClient build :=
  let sequence := client.backend.nextSequence
  let numbered :=
    { client with
      backend := { client.backend with nextSequence := sequence + 1 }
      issued := client.issued ++ [sequence] }
  if sent then
    { numbered with
      pending := client.pending ++ [sequence]
      waiting := some sequence }
  else numbered

/-- `async_request` takes its number. -/
def beginAsync (client : DuoClient build) : DuoClient build :=
  { client with
    readerStarted := true
    backend := client.backend.step .request
    issued := client.issued ++ [client.backend.nextSequence] }

/-- A request of the application; one is made at a time. -/
def request (client : DuoClient build) (command : SessionRequest) (sent : Bool) : DuoClient build :=
  if client.waiting.isSome ∨ client.backend.requester ≠ .none then client
  else if client.readerStarted ∨ command = .start then client.beginAsync
  else client.sendDirect sent

/-- What `receive_response` makes of the next frame. -/
def directAnswer (sequence : UInt32) : WireFrame → Int
  | .response response =>
      if response.sequence = sequence then directResult response.status
      else -1
  | _ => -1

/-- `direct_request` receives a frame. -/
def receiveDirect (client : DuoClient build) : DuoClient build :=
  match client.waiting, client.unread with
  | some sequence, frame :: rest =>
      { client with
        waiting := none
        unread := rest
        returned := client.returned ++ [(sequence, directAnswer sequence frame)] }
  | _, _ => client

/-- The reader thread takes the next frame. -/
def read (client : DuoClient build) (clockWorks : Bool) : DuoClient build :=
  match client.unread with
  | frame :: rest =>
      if client.readerStarted ∧ client.backend.reader = .receiving ∧
          client.backend.iq.waiting = none then
        { client with
          unread := rest
          backend := client.backend.receive frame clockWorks }
      else client
  | [] => client

/-- A step of a thread other than taking a frame or a new request. -/
def runBackend (client : DuoClient build) (action : BackendAction) :
    DuoClient build :=
  if client.readerStarted = false then client
  else
    match action with
    | .receive _ _ | .request => client
    | .send sent clockWorks =>
        match client.backend.requester with
        | .armed sequence =>
            { client with
              backend := client.backend.step (.send sent clockWorks)
              pending :=
                if sent then client.pending ++ [sequence]
                else client.pending }
        | _ => client
    | action => { client with backend := client.backend.step action }

/-- The daemon answers its oldest request. -/
def respond (client : DuoClient build) (status changedFlags : UInt32) :
    DuoClient build :=
  match client.pending with
  | sequence :: rest =>
      let response : Response := ⟨sequence, status, changedFlags⟩
      { client with
        pending := rest
        answers := client.answers ++ [response]
        unread := client.unread ++ [.response response] }
  | [] => client

/-- The daemon writes a frame that is not a response. -/
def push (client : DuoClient build) : WireFrame → DuoClient build
  | .response _ => client
  | frame => { client with unread := client.unread ++ [frame] }

/-- One step. -/
def step (client : DuoClient build) : DuoClientAction → DuoClient build
  | .unsolicited frame => client.push frame
  | .respond status changedFlags => client.respond status changedFlags
  | .request command sent => client.request command sent
  | .receiveDirect => client.receiveDirect
  | .failDirect => { client with waiting := none }
  | .read clockWorks => client.read clockWorks
  | .backend action => client.runBackend action

/-! ## Statuses are returned -/

/-- An `async_request` waits, and the reader is ready for the next frame with
no IQ frame before it. -/
structure Awaiting (client : DuoClient build) (sequence : UInt32) : Prop where
  requester :
    client.backend.requester = .checking sequence ∨ client.backend.requester = .sleeping sequence
  started : client.readerStarted = true
  reader : client.backend.reader = .receiving
  settled : client.backend.iq.waiting = none
  drained : client.backend.iq.queue.count = 0
  idle : client.backend.iq.active = false

/-- The reader passes over `events` frames and takes the response behind them;
the requester wakes and returns. -/
def readResponse (events : Nat) : List DuoClientAction :=
  List.replicate events (.read true) ++
    [.read true, .backend .drain, .backend .publish, .backend .wakeRequester, .backend .check]

/-- A request that has received an answer returns the status of the daemon's
response to it.  What a `direct_request` receives is its response.  Events
before a response do not keep it from the `async_request` that waits for it. -/
structure StatusesReturned (client : DuoClient build) : Prop where
  direct : ∀ entry ∈ client.returned, ∀ response ∈ client.answers,
      response.sequence = entry.1 → entry.2 = directResult response.status
  directReceives :
    ∀ sequence frame rest, client.waiting = some sequence → client.unread = frame :: rest →
      ∃ response, frame = .response response ∧ response.sequence = sequence ∧
        client.receiveDirect.returned =
          client.returned ++ [(sequence, directResult response.status)]
  async : ∀ completion ∈ client.backend.completed, ∀ position,
      completion.outcome = .answered position → ∀ response ∈ client.answers,
          response.sequence = completion.sequence →
            completion.result = asyncResult response.status response.changedFlags
  asyncReceives :
    ∀ sequence response events rest, client.Awaiting sequence → response.sequence = sequence →
        client.unread = List.replicate events .other ++ .response response :: rest →
          (runSteps step client (readResponse events)).backend.completed =
            client.backend.completed ++
              [⟨sequence, asyncResult response.status response.changedFlags,
                .answered (client.backend.received.length + events)⟩]

/-- Requests take new numbers.  A request made before the reader has been
started finds nothing unread and nothing unanswered, and no event is written
until it has been answered. -/
def Undisturbed (client : DuoClient build) : DuoClientAction → Prop
  | .request command _ =>
      client.backend.nextSequence ∉ client.issued ∧
        (client.readerStarted = true ∨ command = .start ∨ client.unread = [] ∧ client.pending = [])
  | .unsolicited _ => client.waiting = none ∨ client.pending = []
  | _ => True

/-! ## The invariant -/

/-- The numbers of the requests the daemon has answered or will answer. -/
def numbers (client : DuoClient build) : List UInt32 :=
  client.answers.map Response.sequence ++ client.pending

/-- The number of a request that is still to be sent. -/
def unsent : RequesterPoint → Option UInt32
  | .numbered sequence | .armed sequence => some sequence
  | _ => none

/-- The daemon answers each request once, and nothing else is read. -/
structure AnswersSound (client : DuoClient build) : Prop where
  once : client.numbers.Nodup
  asked : ∀ number ∈ client.numbers, number ∈ client.issued
  unsent : ∀ sequence, unsent client.backend.requester = some sequence →
      sequence ∈ client.issued ∧ sequence ∉ client.numbers
  unread : ∀ response, .response response ∈ client.unread → response ∈ client.answers
  received : ∀ response, .response response ∈ client.backend.received → response ∈ client.answers

/-- The next frame for a `direct_request` is its response. -/
structure DirectSound (client : DuoClient build) : Prop where
  next : ∀ sequence, client.waiting = some sequence → client.readerStarted = false ∧
        (client.unread = [] ∧ client.pending = [sequence] ∨
          client.pending = [] ∧ ∃ response rest,
            client.unread = .response response :: rest ∧ response.sequence = sequence)
  returned : ∀ entry ∈ client.returned, ∃ response ∈ client.answers,
      response.sequence = entry.1 ∧ entry.2 = directResult response.status

/-- What the statuses rest on. -/
structure Sound (client : DuoClient build) : Prop where
  answers : client.AnswersSound
  direct : client.DirectSound
  slots : client.backend.Slots

theorem AnswersSound.eq_of_sequence {client : DuoClient build}
    (sound : client.AnswersSound) {one other : Response}
    (memberOne : one ∈ client.answers) (memberOther : other ∈ client.answers)
    (same : one.sequence = other.sequence) : one = other :=
  List.inj_on_of_nodup_map (List.nodup_append.mp sound.once).1 memberOne memberOther same

theorem DirectSound.receives {client : DuoClient build} (sound : client.DirectSound)
    {sequence : UInt32} {frame : WireFrame} {rest : List WireFrame}
    (waiting : client.waiting = some sequence) (unread : client.unread = frame :: rest) :
    ∃ response, frame = .response response ∧ response.sequence = sequence ∧
      client.receiveDirect.returned =
        client.returned ++ [(sequence, directResult response.status)] := by
  obtain ⟨-, ⟨empty, -⟩ | ⟨-, response, behind, first, same⟩⟩ := sound.next sequence waiting
  · simp [unread] at empty
  obtain ⟨rfl, -⟩ : frame = .response response ∧ rest = behind := by simpa [unread] using first
  exact ⟨response, rfl, same, by simp [receiveDirect, waiting, unread, directAnswer, same]⟩

/-- By induction on the events before the response; the reader takes one and
is as ready as before. -/
theorem Awaiting.receives {client : DuoClient build} {sequence : UInt32} {response : Response}
    {events : Nat} {rest : List WireFrame} (awaiting : client.Awaiting sequence)
    (armed : client.backend.waitingSequence = sequence) (same : response.sequence = sequence)
    (unread : client.unread = List.replicate events .other ++ .response response :: rest) :
    (runSteps step client (readResponse events)).backend.completed = client.backend.completed ++
        [⟨sequence, asyncResult response.status response.changedFlags,
          .answered (client.backend.received.length + events)⟩] := by
  induction events generalizing client with
  | zero =>
      obtain ⟨requester, started, reader, settled, drained, idle⟩ := awaiting
      rcases requester with checking | sleeping
      · simp_all [readResponse, step, DuoClient.read, runBackend, Backend.step, Backend.receive,
          Backend.drain, Backend.publish, Backend.check, Backend.finish]
      · simp_all [readResponse, step, DuoClient.read, runBackend, Backend.step, Backend.receive,
          Backend.drain, Backend.publish, Backend.check, Backend.finish]
  | succ events inductionHypothesis =>
      have passed : client.step (.read true) =
            { client with
              unread := List.replicate events .other ++ .response response :: rest
              backend :=
                { client.backend with received := client.backend.received ++ [.other] } } := by
        simp [step, DuoClient.read, unread, List.replicate_succ, awaiting.started,
          awaiting.reader, awaiting.settled, Backend.receive]
      have ready : (client.step (.read true)).Awaiting sequence := by
        rw [passed]
        exact ⟨awaiting.requester, awaiting.started, awaiting.reader, awaiting.settled,
          awaiting.drained, awaiting.idle⟩
      have later := inductionHypothesis ready (by rw [passed]; exact armed) (by rw [passed])
      rw [readResponse, List.replicate_succ, List.cons_append, runSteps_cons]
      rw [passed] at later ⊢
      simpa [readResponse, Nat.add_comm, Nat.add_left_comm] using later

theorem Sound.statusesReturned {client : DuoClient build}
    (sound : client.Sound) : client.StatusesReturned where
  direct entry member response answered same := by
    obtain ⟨own, ownAnswered, ownSame, result⟩ := sound.direct.returned entry member
    rw [sound.answers.eq_of_sequence answered ownAnswered (same.trans ownSame.symm)]
    exact result
  directReceives _ _ _ := sound.direct.receives
  async completion member position outcome response answered same := by
    have known := sound.slots.answered completion member
    unfold Backend.Answered at known
    rw [outcome] at known
    obtain ⟨own, found, ownSame, result⟩ := known
    have onWire := Backend.mem_received_of_responseAt found
    rw [sound.answers.eq_of_sequence answered
      (sound.answers.received own onWire) (same.trans ownSame.symm)]
    exact result
  asyncReceives sequence response events rest awaiting := by
    refine awaiting.receives ?_
    have awaited := sound.slots.awaited
    rcases awaiting.requester with checking | sleeping <;>
      simp_all [RequesterPoint.isArmed, RequesterPoint.sequence?]

/-! ### The daemon's steps -/

theorem Sound.push {client : DuoClient build} (sound : client.Sound) (frame : WireFrame)
    (allowed : client.waiting = none ∨ client.pending = []) :
    (client.push frame).Sound := by
  have pushed (event : WireFrame)
      (plain : ∀ response, event ≠ .response response) :
      ({ client with unread := client.unread ++ [event] } : DuoClient build).Sound := by
    refine ⟨{ sound.answers with unread := ?_ },
      { next := ?_, returned := sound.direct.returned }, sound.slots⟩
    · intro response member
      rcases List.mem_append.mp member with earlier | new
      · exact sound.answers.unread response earlier
      · exact absurd (List.mem_singleton.mp new).symm (plain response)
    · intro sequence waiting
      have waiting : client.waiting = some sequence := waiting
      obtain ⟨unstarted, next⟩ := sound.direct.next sequence waiting
      refine ⟨unstarted, .inr ?_⟩
      rcases next with ⟨-, pending⟩ | ⟨pending, response, rest, unread, same⟩
      · simp [waiting, pending] at allowed
      · exact ⟨pending, response, rest ++ [event], by simp [unread], same⟩
  cases frame with
  | iq message => exact pushed _ nofun
  | response response => exact sound
  | other => exact pushed _ nofun

theorem Sound.respond {client : DuoClient build} (sound : client.Sound)
    (status changedFlags : UInt32) :
    (client.respond status changedFlags).Sound := by
  unfold DuoClient.respond
  split
  · rename_i sequence rest pending
    refine ⟨⟨?_, ?_, ?_, ?_, ?_⟩, ⟨?_, ?_⟩, sound.slots⟩
    · have once := sound.answers.once
      simpa [numbers, pending] using once
    · intro number member
      refine sound.answers.asked number ?_
      simpa [numbers, pending] using member
    · intro unsentNumber known
      obtain ⟨issued, fresh⟩ := sound.answers.unsent unsentNumber known
      refine ⟨issued, ?_⟩
      simpa [numbers, pending] using fresh
    · intro response member
      rcases List.mem_append.mp member with earlier | new
      · exact List.mem_append_left _ (sound.answers.unread response earlier)
      · refine List.mem_append_right _ ?_
        simpa using new
    · intro response member
      exact List.mem_append_left _ (sound.answers.received response member)
    · intro waitingNumber waiting
      obtain ⟨unstarted, next⟩ := sound.direct.next waitingNumber waiting
      refine ⟨unstarted, .inr ?_⟩
      rcases next with ⟨unread, only⟩ | ⟨none, -⟩
      · obtain ⟨rfl, rfl⟩ : sequence = waitingNumber ∧ rest = [] := by
          simpa [pending] using only
        exact ⟨rfl, ⟨sequence, status, changedFlags⟩, [], by simp [unread], rfl⟩
      · simp [pending] at none
    · intro entry member
      obtain ⟨response, answered, known⟩ := sound.direct.returned entry member
      exact ⟨response, List.mem_append_left _ answered, known⟩
  · exact sound

/-! ### The client's steps -/

theorem Sound.fresh_not_mem {client : DuoClient build} (sound : client.Sound)
    (fresh : client.backend.nextSequence ∉ client.issued) :
    client.backend.nextSequence ∉ client.numbers :=
  fun member => fresh (sound.answers.asked _ member)

theorem Sound.sendDirect {client : DuoClient build} (sound : client.Sound)
    (free : client.backend.requester = .none)
    (idle : client.waiting = none)
    (unstarted : client.readerStarted = false)
    (fresh : client.backend.nextSequence ∉ client.issued)
    (unread : client.unread = []) (pending : client.pending = [])
    (sent : Bool) : (client.sendDirect sent).Sound := by
  have slots : ({ client.backend with
        nextSequence := client.backend.nextSequence + 1 } :
        Backend build).Slots :=
    sound.slots.of_requester _ sound.slots.awaited
  have unused := sound.fresh_not_mem fresh
  unfold DuoClient.sendDirect
  dsimp only
  split_ifs
  · refine ⟨⟨?_, ?_, ?_, sound.answers.unread, sound.answers.received⟩,
      ⟨?_, sound.direct.returned⟩, slots⟩
    · have once := sound.answers.once
      simp only [numbers, pending, List.append_nil, List.nil_append] at once unused ⊢
      exact List.nodup_append.mpr ⟨once, List.nodup_singleton _, fun one member other isNew same =>
          unused (List.mem_singleton.mp isNew ▸ same ▸ member)⟩
    · intro number member
      simp only [numbers, pending, List.nil_append, List.mem_append, List.mem_singleton] at member
      rcases member with answered | rfl
      · exact List.mem_append_left _ (sound.answers.asked number (List.mem_append_left _ answered))
      · exact List.mem_append_right _ (List.mem_singleton_self _)
    · intro sequence known
      simp [free, DuoClient.unsent] at known
    · intro sequence waiting
      refine ⟨unstarted, .inl ⟨unread, ?_⟩⟩
      simpa [pending] using waiting
  · refine ⟨{ sound.answers with asked := ?_, unsent := ?_ }, ⟨?_, sound.direct.returned⟩, slots⟩
    · intro number member
      exact List.mem_append_left _ (sound.answers.asked number member)
    · intro sequence known
      simp [free, DuoClient.unsent] at known
    · intro sequence waiting
      simp [idle] at waiting

theorem Sound.beginAsync {client : DuoClient build} (sound : client.Sound)
    (free : client.backend.requester = .none)
    (idle : client.waiting = none)
    (fresh : client.backend.nextSequence ∉ client.issued) :
    client.beginAsync.Sound := by
  have requester :
      (client.backend.step .request).requester = .numbered client.backend.nextSequence := by
    simp [Backend.step, free]
  have received :
      (client.backend.step .request).received = client.backend.received := by
    simp [Backend.step, free]
  refine ⟨⟨sound.answers.once, ?_, ?_, sound.answers.unread, ?_⟩,
    ⟨?_, sound.direct.returned⟩, sound.slots.step .request⟩
  · intro number member
    exact List.mem_append_left _ (sound.answers.asked number member)
  · intro sequence known
    have same : client.backend.nextSequence = sequence := by
      simpa [DuoClient.beginAsync, requester, DuoClient.unsent] using known
    rw [← same]
    exact ⟨List.mem_append_right _ (List.mem_singleton_self _), sound.fresh_not_mem fresh⟩
  · intro response member
    exact sound.answers.received response (received ▸ member)
  · intro sequence waiting
    have waiting : client.waiting = some sequence := waiting
    simp [idle] at waiting

theorem Sound.request {client : DuoClient build} (sound : client.Sound)
    {command : SessionRequest} {sent : Bool}
    (allowed : client.Undisturbed (.request command sent)) :
    (client.request command sent).Sound := by
  obtain ⟨fresh, quiet⟩ := allowed
  unfold DuoClient.request
  split_ifs with busy async
  · exact sound
  · obtain ⟨idle, free⟩ := not_or.mp busy
    exact sound.beginAsync (not_not.mp free) (by simpa using idle) fresh
  · obtain ⟨idle, free⟩ := not_or.mp busy
    obtain ⟨unstarted, notStart⟩ := not_or.mp async
    rcases quiet with started | isStart | ⟨unread, pending⟩
    · exact absurd started unstarted
    · exact absurd isStart notStart
    · exact sound.sendDirect (not_not.mp free) (by simpa using idle)
        (by simpa using unstarted) fresh unread pending sent

theorem Sound.receiveDirect {client : DuoClient build} (sound : client.Sound) :
    client.receiveDirect.Sound := by
  unfold DuoClient.receiveDirect
  split
  · rename_i sequence frame rest waiting unread
    obtain ⟨-, ⟨empty, -⟩ | ⟨-, response, behind, first, same⟩⟩ :=
      sound.direct.next sequence waiting
    · simp [unread] at empty
    obtain ⟨rfl, rfl⟩ : frame = .response response ∧ rest = behind := by
      simpa [unread] using first
    refine ⟨{ sound.answers with unread := ?_ }, ⟨nofun, ?_⟩, sound.slots⟩
    · intro other member
      refine sound.answers.unread other ?_
      rw [unread]
      exact List.mem_cons_of_mem _ member
    · intro entry member
      rcases List.mem_append.mp member with earlier | new
      · exact sound.direct.returned entry earlier
      · refine ⟨response, sound.answers.unread response ?_, ?_⟩
        · rw [unread]
          exact List.mem_cons_self
        · rw [List.mem_singleton.mp new]
          exact ⟨same, by simp [directAnswer, same]⟩
  · exact sound

/-- A step that is not a new request leaves no request to be sent that was
not there before. -/
theorem unsent_step {backend : Backend build} {action : BackendAction}
    (old : action ≠ .request) {sequence : UInt32}
    (known : unsent (backend.step action).requester = some sequence) :
    unsent backend.requester = some sequence := by
  cases action with
  | request => exact absurd rfl old
  | receive frame clockWorks =>
      simp only [Backend.step, Backend.receive] at known
      split_ifs at known
      · exact known
      · cases frame with
        | iq message =>
            dsimp only at known
            split_ifs at known <;> exact known
        | response response => exact known
        | other => exact known
  | worker action => cases action <;> exact known
  | wakeReader => exact known
  | arm =>
      simp only [Backend.step] at known
      split at known
      · rename_i number numbered
        rw [numbered]
        exact known
      · exact known
  | failReceive | drain | publish =>
      simp only [Backend.step, Backend.drain, Backend.publish] at known
      repeat' split at known
      all_goals exact known
  | send sent clockWorks | check | wakeRequester | timeOut =>
      simp only [Backend.step, Backend.check, Backend.finish] at known
      repeat' split at known
      all_goals first | exact known | cases known

/-- A step of the threads once the reader has been started; `frames` are the
responses it receives. -/
theorem Sound.of_backend {client : DuoClient build} (sound : client.Sound)
    (started : client.readerStarted = true) (action : BackendAction)
    (old : action ≠ .request) {unread : List WireFrame}
    (fewer : ∀ frame ∈ unread, frame ∈ client.unread)
    (received : ∀ response,
        .response response ∈ (client.backend.step action).received → response ∈ client.answers) :
    ({ client with
      unread := unread
      backend := client.backend.step action } : DuoClient build).Sound := by
  refine ⟨⟨sound.answers.once, sound.answers.asked, ?_, ?_, received⟩,
    ⟨?_, sound.direct.returned⟩, sound.slots.step action⟩
  · intro sequence known
    exact sound.answers.unsent sequence (unsent_step old known)
  · intro response member
    exact sound.answers.unread response (fewer _ member)
  · intro sequence waiting
    have unstarted := (sound.direct.next sequence waiting).1
    simp [started] at unstarted

theorem Sound.read {client : DuoClient build} (sound : client.Sound)
    (clockWorks : Bool) : (client.read clockWorks).Sound := by
  unfold DuoClient.read
  split
  · rename_i frame rest unread
    split_ifs with ready
    · refine sound.of_backend ready.1 (.receive frame clockWorks) nofun ?_ ?_
      · intro later member
        rw [unread]
        exact List.mem_cons_of_mem _ member
      · intro response member
        rcases client.backend.received_step (.receive frame clockWorks) with
          same | ⟨taken, _, isSame, added⟩
        · exact sound.answers.received response (same ▸ member)
        · obtain ⟨rfl, -⟩ : frame = taken ∧ _ := by simpa using isSame
          rw [added] at member
          rcases List.mem_append.mp member with earlier | new
          · exact sound.answers.received response earlier
          · refine sound.answers.unread response ?_
            rw [unread, ← List.mem_singleton.mp new]
            exact List.mem_cons_self
    · exact sound
  · exact sound

/-- Only receiving adds to what was received. -/
theorem received_of_other (backend : Backend build) {action : BackendAction}
    (other : ∀ frame clockWorks, action ≠ .receive frame clockWorks) :
    (backend.step action).received = backend.received := by
  rcases backend.received_step action with same | ⟨frame, clockWorks, is, -⟩
  · exact same
  · exact absurd is (other frame clockWorks)

theorem Sound.of_other {client : DuoClient build} (sound : client.Sound)
    (started : client.readerStarted = true) (action : BackendAction)
    (old : action ≠ .request)
    (other : ∀ frame clockWorks, action ≠ .receive frame clockWorks) :
    ({ client with backend := client.backend.step action } : DuoClient build).Sound := by
  refine sound.of_backend started action old (fun _ member => member) ?_
  rw [received_of_other client.backend other]
  exact sound.answers.received

theorem Sound.send {client : DuoClient build} (sound : client.Sound)
    (started : client.readerStarted = true) {sequence : UInt32}
    (armed : client.backend.requester = .armed sequence)
    (sent clockWorks : Bool) :
    ({ client with
      backend := client.backend.step (.send sent clockWorks)
      pending :=
        if sent then client.pending ++ [sequence] else client.pending } :
      DuoClient build).Sound := by
  have stepped := sound.of_other started (.send sent clockWorks) (by simp) (by simp)
  cases sent with
  | false => exact stepped
  | true =>
      obtain ⟨issued, fresh⟩ := sound.answers.unsent sequence (by rw [armed]; rfl)
      have done (other : UInt32) : unsent (client.backend.step (.send true clockWorks)).requester ≠
            some other := by
        simp only [Backend.step, armed, Backend.finish]
        split_ifs <;> rintro ⟨⟩
      refine ⟨⟨?_, ?_, ?_, stepped.answers.unread, stepped.answers.received⟩,
        ⟨?_, sound.direct.returned⟩, stepped.slots⟩
      · change (client.answers.map Response.sequence ++ (client.pending ++ [sequence])).Nodup
        rw [← List.append_assoc]
        exact List.nodup_append.mpr ⟨sound.answers.once,
          List.nodup_singleton _, fun one member other isNew same =>
            fresh (List.mem_singleton.mp isNew ▸ same ▸ member)⟩
      · intro number member
        change number ∈ client.answers.map Response.sequence ++
          (client.pending ++ [sequence]) at member
        rw [← List.append_assoc] at member
        rcases List.mem_append.mp member with earlier | new
        · exact sound.answers.asked number earlier
        · rw [List.mem_singleton.mp new]
          exact issued
      · intro other known
        exact absurd known (done other)
      · intro number waiting
        have unstarted := (sound.direct.next number waiting).1
        simp [started] at unstarted

theorem Sound.runBackend {client : DuoClient build} (sound : client.Sound)
    (action : BackendAction) : (client.runBackend action).Sound := by
  unfold DuoClient.runBackend
  split_ifs with unstarted
  · exact sound
  have started : client.readerStarted = true := by simpa using unstarted
  cases action with
  | receive frame clockWorks => exact sound
  | request => exact sound
  | send sent clockWorks =>
      dsimp only
      split
      · exact sound.send started ‹_› sent clockWorks
      · exact sound
  | failReceive | wakeReader | drain | publish | worker action | arm | check
  | wakeRequester | timeOut => exact sound.of_other started _ nofun nofun

theorem Sound.step {client : DuoClient build} (sound : client.Sound)
    {action : DuoClientAction} (allowed : client.Undisturbed action) :
    (client.step action).Sound := by
  cases action with
  | unsolicited frame => exact sound.push frame allowed
  | respond status changedFlags => exact sound.respond status changedFlags
  | request command sent => exact sound.request allowed
  | receiveDirect => exact sound.receiveDirect
  | failDirect =>
      exact ⟨{ sound.answers with }, ⟨nofun, sound.direct.returned⟩, sound.slots⟩
  | read clockWorks => exact sound.read clockWorks
  | backend action => exact sound.runBackend action

theorem start_sound (build : IqBuild) (first : UInt32) :
    (start build first).Sound where
  answers := ⟨List.nodup_nil, nofun, nofun, nofun, nofun⟩
  direct := ⟨nofun, nofun⟩
  slots := (Backend.start_matchInvariant build first).slots

/-! ### A connection that is not lost -/

/-- The socket delivers: no receive fails, and no IQ frame is larger than the
reader's buffer. -/
def Delivers : DuoClientAction → Prop
  | .backend .failReceive => False
  | .unsolicited (.iq message) => message.samples ≤ openrspMaxIqSamples
  | _ => True

/-- The reader has not failed, and no request has returned for that reason. -/
structure Unbroken (backend : Backend build) : Prop where
  reader : backend.readerFailed = false
  notLost : ∀ completion ∈ backend.completed, completion.outcome ≠ .lost

theorem Unbroken.finish {backend : Backend build} (unbroken : Unbroken backend)
    {completion : Completion} (notLost : completion.outcome ≠ .lost) :
    Unbroken (backend.finish completion) := by
  refine ⟨unbroken.reader, fun other member => ?_⟩
  rcases List.mem_append.mp member with earlier | new
  · exact unbroken.notLost other earlier
  · rw [List.mem_singleton.mp new]
    exact notLost

theorem Unbroken.step {backend : Backend build} (unbroken : Unbroken backend)
    (slots : backend.Slots) (action : BackendAction) (works : action ≠ .failReceive)
    (fits : ∀ message clockWorks, action = .receive (.iq message) clockWorks →
      message.samples ≤ openrspMaxIqSamples) :
    Unbroken (backend.step action) := by
  cases action with
  | receive frame clockWorks =>
      simp only [Backend.step, Backend.receive]
      split_ifs
      · exact unbroken
      · cases frame with
        | iq message =>
            dsimp only
            rw [if_neg (not_lt.mpr (fits message clockWorks rfl))]
            exact ⟨unbroken.reader, unbroken.notLost⟩
        | response response => exact ⟨unbroken.reader, unbroken.notLost⟩
        | other => exact ⟨unbroken.reader, unbroken.notLost⟩
  | failReceive => exact absurd rfl works
  | worker action => cases action <;> exact ⟨unbroken.reader, unbroken.notLost⟩
  | wakeReader => exact ⟨unbroken.reader, unbroken.notLost⟩
  | drain | publish | request | arm | wakeRequester =>
      simp only [Backend.step, Backend.drain, Backend.publish]
      repeat' split
      all_goals exact ⟨unbroken.reader, unbroken.notLost⟩
  | send sent clockWorks | timeOut =>
      simp only [Backend.step]
      repeat' split
      all_goals first
        | exact unbroken.finish (by simp)
        | exact ⟨unbroken.reader, unbroken.notLost⟩
  | check =>
      simp only [Backend.step, Backend.check, unbroken.reader, Bool.false_eq_true, if_false]
      split
      · split_ifs with received
        · obtain ⟨position, -, stored, -⟩ := slots.filled received
          exact unbroken.finish (by simp [stored])
        · exact ⟨rfl, unbroken.notLost⟩
      · exact unbroken

/-- Nothing unread will break the connection either. -/
structure Connected (client : DuoClient build) : Prop where
  backend : Unbroken client.backend
  fits : ∀ message, .iq message ∈ client.unread → message.samples ≤ openrspMaxIqSamples

theorem Connected.read {client : DuoClient build} (connected : client.Connected)
    (sound : client.Sound) (clockWorks : Bool) :
    (client.step (.read clockWorks)).Connected := by
  simp only [DuoClient.step, DuoClient.read]
  split
  · rename_i frame rest unread
    split_ifs
    · have later (message : IqMessage) (member : .iq message ∈ frame :: rest) :=
        connected.fits message (unread ▸ member)
      refine ⟨connected.backend.step sound.slots (.receive frame clockWorks) (by simp) ?_,
        fun message member => later message (List.mem_cons_of_mem _ member)⟩
      rintro message _ ⟨rfl, rfl⟩
      exact later message List.mem_cons_self
    · exact connected
  · exact connected

theorem Connected.runBackend {client : DuoClient build} (connected : client.Connected)
    (sound : client.Sound) (action : BackendAction) (works : action ≠ .failReceive) :
    (client.step (.backend action)).Connected := by
  simp only [DuoClient.step, DuoClient.runBackend]
  split_ifs
  · exact connected
  have stepped (old : ∀ frame clockWorks, action ≠ .receive frame clockWorks) :
      Unbroken (client.backend.step action) :=
    connected.backend.step sound.slots action works fun message clockWorks same =>
      absurd same (old _ clockWorks)
  cases action with
  | receive frame clockWorks => exact connected
  | request => exact connected
  | failReceive => exact absurd rfl works
  | send sent clockWorks =>
      dsimp only
      split
      · exact ⟨stepped (by simp), connected.fits⟩
      · exact connected
  | wakeReader | drain | publish | worker action | arm | check | wakeRequester | timeOut =>
      exact ⟨stepped (by simp), connected.fits⟩

theorem Connected.step {client : DuoClient build} (connected : client.Connected)
    (sound : client.Sound) {action : DuoClientAction} (delivers : Delivers action) :
    (client.step action).Connected := by
  have unbroken := connected.backend
  cases action with
  | unsolicited frame =>
      cases frame with
      | iq message =>
          refine ⟨unbroken, fun other member => ?_⟩
          rcases List.mem_append.mp member with earlier | new
          · exact connected.fits other earlier
          · cases List.mem_singleton.mp new
            exact delivers
      | response response => exact connected
      | other =>
          exact ⟨unbroken, fun message member =>
            connected.fits message (by simpa [DuoClient.step, push] using member)⟩
  | respond status changedFlags =>
      simp only [DuoClient.step, DuoClient.respond]
      split
      · exact ⟨unbroken, fun message member => connected.fits message (by simpa using member)⟩
      · exact connected
  | request command sent =>
      simp only [DuoClient.step, DuoClient.request, DuoClient.beginAsync, DuoClient.sendDirect]
      split_ifs
      · exact connected
      · exact ⟨unbroken.step sound.slots .request (by simp) (by simp), connected.fits⟩
      all_goals exact ⟨⟨unbroken.reader, unbroken.notLost⟩, connected.fits⟩
  | receiveDirect =>
      simp only [DuoClient.step, DuoClient.receiveDirect]
      split
      · rename_i unread
        exact ⟨unbroken, fun message member =>
          connected.fits message (by rw [unread]; exact List.mem_cons_of_mem _ member)⟩
      · exact connected
  | failDirect => exact ⟨unbroken, connected.fits⟩
  | read clockWorks => exact connected.read sound clockWorks
  | backend action =>
      refine connected.runBackend sound action ?_
      rintro rfl
      exact delivers

end DuoClient

open DuoClient

/-- Every answered request returns the status of its response in every run in
which no event stands between a request made before the reader was started
and its response; and no request is told that the connection is lost unless a
receive failed or an IQ frame was larger than the reader's buffer. -/
theorem statuses_returned_of_undisturbed
    (build : IqBuild) (first : UInt32) (actions : List DuoClientAction)
    (steps : StepsMeet DuoClient.step Undisturbed (DuoClient.start build first) actions) :
    let client := runSteps DuoClient.step (DuoClient.start build first) actions
    client.StatusesReturned ∧ ((∀ action ∈ actions, Delivers action) →
        ∀ completion ∈ client.backend.completed, completion.outcome ≠ .lost) := by
  have preserved (client : DuoClient build) (action : DuoClientAction)
      (allowed : client.Undisturbed action) (sound : client.Sound) :
      (client.step action).Sound :=
    sound.step allowed
  refine ⟨(invariant_of_stepsMeet preserved steps (start_sound build first)).statusesReturned,
    fun delivers => ?_⟩
  have connected := invariant_of_stepsMeet
      (fun client action allowed (known : client.Sound ∧ client.Connected) =>
        ⟨preserved client action allowed.1 known.1, known.2.step known.1 allowed.2⟩)
      (steps.and_forall delivers)
      ⟨start_sound build first, ⟨rfl, by simp [DuoClient.start, Backend.start]⟩,
        by simp [DuoClient.start]⟩
  exact connected.2.backend.notLost

/-! ## An attached slave -/

namespace DuoClient

variable {build : IqBuild}

instance (client : DuoClient build) (action : DuoClientAction) :
    Decidable (Undisturbed client action) := by
  unfold Undisturbed
  split <;> infer_instance

end DuoClient

/-- The slave's attachment is announced before the master starts; the reader
passes over the event. -/
def eventBeforeStart : List DuoClientAction :=
  [.request .configure true, .respond 0 0, .receiveDirect,
    .unsolicited .other, .request .start true, .backend .arm,
    .backend (.send true true), .respond 0 0, .read true, .read true,
    .backend .drain, .backend .publish, .backend .check]

theorem event_before_start_passed_over : (runSteps DuoClient.step (DuoClient.start .posix 2)
        eventBeforeStart).backend.completed = [⟨3, 0, .answered 1⟩] ∧
      (runSteps DuoClient.step (DuoClient.start .posix 2) eventBeforeStart).StatusesReturned :=
  ⟨by decide +kernel, (statuses_returned_of_undisturbed .posix 2 eventBeforeStart (by
      simp only [eventBeforeStart, StepsMeet]
      decide +kernel)).1⟩

/-- The slave's attachment is announced before the master configures. -/
def eventBeforeConfigure : List DuoClientAction :=
  [.unsolicited .other, .request .configure true, .respond 0 0, .receiveDirect]

/-- A slave attaches, then the master configures. -/
def attachThenConfigure : List Step :=
  masterAndGuest ++
    [.serve 1 attachSlave,
      .serve 0 (.request 2 (.duoConfigure { sampleConfig with sampleRateHz := 6000000 }))]

/-- What the daemon writes to a descriptor. -/
def writtenTo (descriptor : Int) (server : Server) : List Frame :=
  (server.world.sent.filter fun sent => sent.descriptor == descriptor).map Sent.frame

theorem not_statusesReturned_of_direct {client : DuoClient build}
    {entry : UInt32 × Int} (returned : entry ∈ client.returned)
    {response : Response} (answered : response ∈ client.answers)
    (same : response.sequence = entry.1)
    (different : entry.2 ≠ directResult response.status) :
    ¬ client.StatusesReturned :=
  fun right => different (right.direct entry returned response answered same)

/-- The daemon announces the slave before it answers the master's
configuration, and the master takes the event for a failed request. -/
theorem peer_event_fails_configure : writtenTo 5 (runSteps (Server.step oneReceiver) Server.initial
        attachThenConfigure) =
      [.response 1 .ok 0, .duo .slaveAttached 2, .response 2 .ok 0] ∧
    ¬ (runSteps DuoClient.step (DuoClient.start .posix 2)
        eventBeforeConfigure).StatusesReturned := by
  refine ⟨by decide +kernel, ?_⟩
  have returned : (runSteps DuoClient.step (DuoClient.start .posix 2)
        eventBeforeConfigure).returned = [(2, -1)] := by decide +kernel
  have answers : (runSteps DuoClient.step (DuoClient.start .posix 2)
        eventBeforeConfigure).answers = [⟨2, 0, 0⟩] := by decide +kernel
  exact not_statusesReturned_of_direct
    (by rw [returned]; exact List.mem_singleton_self _)
    (by rw [answers]; exact List.mem_singleton_self _) rfl (by decide)

end OpenRsp
