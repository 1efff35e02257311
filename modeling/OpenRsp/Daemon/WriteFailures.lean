import OpenRsp.Daemon.LiveRequests
import OpenRsp.Daemon.Notifications

/-!
# Whom a failed write removes

`serve_request` folds the outcome of every write it makes, and of the
creation of the stream thread, into one return value, and the client that
sent the request is removed unless all of them succeed.  The module says
exactly when a request costs a client a role although no write to its own
socket failed.
-/

namespace OpenRsp

open Runs

/-! ## Requests that create a thread -/

section Conditions

variable (environment : Environment) (world : World) (descriptor : Int)

/-- `OPENRSP_CMD_DUO_SWAP_RATE` gives a running stream another rate. -/
structure RestartsAtRate (rate : UInt32) : Prop where
  role : duoRoleDescriptor world.daemon descriptor = .master
  started : world.daemon.duo.masterInitialised = true
  validRate : rate = 6000000 ∨ rate = 8000000
  alone : world.daemon.duo.slaveInitialised = false
  newRate : rate ≠ world.daemon.duo.sampleRateHz
  streams : world.daemon.streamThreadStarted = true
  taken : (swapRate environment world rate).status = .ok

/-- `OPENRSP_CMD_SWAP_MODE` fails and is rolled back. -/
structure RollsBack (swap : ModeSwapRequest) : Prop where
  owner : world.daemon.owner = descriptor
  configured : world.daemon.configured = true
  validTarget : validModeTarget swap = true
  streams : world.daemon.streamThreadStarted = true
  refused : (stopAndClose environment world).1 = false ∨
      (configureMode environment (stopAndClose environment world).2
        (decide (swap.mode = modeDual)) swap.single swap.dual).1 ≠ .ok
  restored : ¬ RollbackFails environment world swap

/-- `OPENRSP_CMD_UPDATE` gives a running stream another rate. -/
structure RestartsForUpdate (request : UpdateRequest) : Prop where
  owner : world.daemon.owner = descriptor
  validConfig : openrspdConfigValid request.config = true
  radio : world.daemon.radio ≠ none
  configured : world.daemon.configured = true
  noError : world.daemon.streamError = false
  restarts : restartForSampleRate world.daemon request = true
  taken : (stopAndApplyUpdate environment world request).1 = .ok

/-- The requests after which a stream thread is created. -/
def Command.StartsStream : Command → Prop
  | .duoStart => StartsMaster environment world descriptor
  | .duoSwapRate rate => RestartsAtRate environment world descriptor rate
  | .start =>
      world.daemon.owner = descriptor ∧ world.daemon.radio.isSome = true ∧
        world.daemon.streamThreadStarted = false ∧
        world.daemon.modeSwapPaused = false
  | .resumeMode =>
      world.daemon.owner = descriptor ∧ world.daemon.configured = true ∧
        world.daemon.modeSwapPaused = true
  | .swapMode swap => RollsBack environment world descriptor swap
  | .update request => RestartsForUpdate environment world descriptor request
  | _ => False

end Conditions

section Threads

variable (environment : Environment) {world : World} {descriptor : Int}

theorem Handled.reply_starts {command : Command} (status : Status) (notStart : command ≠ .start) :
    (Handled.reply world status).starts command = false := by
  simp [Handled.starts, Handled.reply, notStart]

theorem startMaster_starts (before : World) (event : DuoEvent) :
    (startMaster environment before event).starts .duoStart = true ↔
      SharedConfigTaken environment before := by
  rw [← startMaster_status environment before event]
  simp only [startMaster]
  split_ifs <;>
    simp_all [Handled.starts, Handled.reply, Handled.notify, Handled.startDuoStream]

theorem serveDuoStart_starts (valid : 0 ≤ descriptor) :
    (serveDuoStart environment world descriptor).starts .duoStart = true ↔
      StartsMaster environment world descriptor := by
  cases role : duoRoleDescriptor world.daemon descriptor with
  | none =>
      refine iff_of_false ?_ fun starts => ?_
      · simp [serveDuoStart, withDuoRole, role, Handled.reply_starts]
      · simpa [role] using starts.role
  | master =>
      by_cases stopped : world.daemon.duo.masterInitialised = false
      · rw [serveDuoStart_master environment valid role stopped, startMaster_starts]
        exact ⟨fun taken => ⟨role, stopped, taken⟩, fun starts => starts.taken⟩
      · refine iff_of_false ?_ fun starts => stopped starts.stopped
        have isMaster := duoRoleDescriptor_master role
        have refused :
            openrspdDuoInitialise world.daemon.duo descriptor = .refuse .busy world.daemon.duo := by
          simp [openrspdDuoInitialise, validDescriptor, valid, isMaster, stopped]
        simp [serveDuoStart, withDuoRole, role, refused, DuoReturn.refuse, Handled.reply_starts]
  | slave =>
      refine iff_of_false ?_ fun starts => ?_
      · rw [serveDuoStart_slave environment valid role]
        unfold startSlave
        split_ifs <;>
          simp [Handled.starts, Handled.reply, Handled.notify]
      · simpa [role] using starts.role

/-- A rate swap restarts the stream it stopped, if it succeeds. -/
theorem swapRate_starts (rate : UInt32) :
    (swapRate environment world rate).starts (.duoSwapRate rate) = true ↔
      world.daemon.streamThreadStarted = true ∧ (swapRate environment world rate).status = .ok := by
  have started : (duoPrepareConfig world.daemon).2.streamThreadStarted =
        world.daemon.streamThreadStarted :=
    congrArg (·.stream.streamThreadStarted) (duoPrepareConfig_view world world.daemon)
  simp only [swapRate, swapRateStopped, World.modify_daemon, started]
  split_ifs <;>
    simp_all [Handled.starts, Handled.reply, Handled.startDuoStream]

theorem serveDuoSwapRate_starts (rate : UInt32) :
    (serveDuoSwapRate environment world descriptor rate).starts
        (.duoSwapRate rate) = true ↔
      RestartsAtRate environment world descriptor rate := by
  have quiet (status : Status) :
      ¬ (Handled.reply world status).starts (.duoSwapRate rate) = true := by
    simp [Handled.reply_starts]
  cases role : duoRoleDescriptor world.daemon descriptor with
  | none =>
      refine iff_of_false ?_ fun restarts => ?_
      · simpa [serveDuoSwapRate, withDuoRole, role] using quiet _
      · simpa [role] using restarts.role
  | slave =>
      refine iff_of_false ?_ fun restarts => ?_
      · simpa [serveDuoSwapRate, withDuoRole, role] using quiet _
      · simpa [role] using restarts.role
  | master =>
      simp only [serveDuoSwapRate, withDuoRole, role, ne_eq, not_true_eq_false, if_false]
      split_ifs with waiting invalid slaveRuns sameRate
      · exact iff_of_false (quiet _) fun restarts => by
          simp [restarts.started] at waiting
      · exact iff_of_false (quiet _) fun restarts => by
          rcases restarts.validRate with rfl | rfl <;> simp at invalid
      · exact iff_of_false (quiet _) fun restarts => by
          simp [restarts.alone] at slaveRuns
      · exact iff_of_false (quiet _) fun restarts =>
          restarts.newRate sameRate
      · rw [swapRate_starts]
        constructor
        · rintro ⟨streams, taken⟩
          exact
            { role := role
              started := by simpa using waiting
              validRate := by tauto
              alone := by simpa using slaveRuns
              newRate := sameRate
              streams := streams
              taken := taken }
        · intro restarts
          exact ⟨restarts.streams, restarts.taken⟩

/-! ### Requests of an owner -/

theorem rollBackMode_starts (saved : DaemonState) (before : World) (swap : ModeSwapRequest)
    {status : Status} (failed : status ≠ .ok) :
    (rollBackMode environment saved before status).starts
        (.swapMode swap) = true ↔
      saved.streamThreadStarted = true ∧
        (configureMode environment before saved.dualMode saved.config
          saved.dualConfig).1 = .ok := by
  simp only [rollBackMode]
  split_ifs <;>
    simp_all [Handled.starts, Handled.reply, Handled.restartStream]

theorem serveSwapMode_starts (swap : ModeSwapRequest) :
    (serveSwapMode environment world descriptor swap).starts
        (.swapMode swap) = true ↔
      RollsBack environment world descriptor swap := by
  by_cases owns : world.daemon.owner = descriptor ∧ world.daemon.configured = true
  · by_cases validTarget : validModeTarget swap = true
    · have expand : RollsBack environment world descriptor swap ↔
            ((stopAndClose environment world).1 = false ∨
              (configureMode environment
                (stopAndClose environment world).2
                (decide (swap.mode = modeDual)) swap.single
                swap.dual).1 ≠ .ok) ∧
              world.daemon.streamThreadStarted = true ∧ ¬ RollbackFails environment world swap := by
        constructor
        · intro rolls
          exact ⟨rolls.refused, rolls.streams, rolls.restored⟩
        · rintro ⟨refused, streams, restored⟩
          exact ⟨owns.1, owns.2, validTarget, streams, refused, restored⟩
      rw [expand]
      simp only [serveSwapMode, owns, validTarget, RollbackFails,
        modeSwapFailed, and_self, if_true, Bool.true_eq_false, if_false,
        ne_eq, not_not]
      by_cases closed : (stopAndClose environment world).1 = false
      · simp only [closed, if_true, true_or, true_and]
        exact rollBackMode_starts environment _ _ swap (by simp)
      · have shut : (stopAndClose environment world).1 = true := by
          simpa using closed
        simp only [shut, Bool.true_eq_false, if_false, false_or]
        by_cases taken : (configureMode environment (stopAndClose environment world).2
              (decide (swap.mode = modeDual)) swap.single swap.dual).1 = .ok
        · simp [taken, Handled.starts, Handled.reply]
        · simp only [taken, if_false, not_false_eq_true, true_and]
          exact rollBackMode_starts environment _ _ swap taken
    · refine iff_of_false ?_ fun rolls => validTarget rolls.validTarget
      simp [serveSwapMode, owns, validTarget, Handled.starts, Handled.reply]
  · refine iff_of_false ?_ fun rolls => owns ⟨rolls.owner, rolls.configured⟩
    simp [serveSwapMode, owns, serveUnrecognised, Handled.starts, Handled.reply]

theorem serveUpdate_starts (request : UpdateRequest) :
    (serveUpdate environment world descriptor request).starts
        (.update request) = true ↔
      RestartsForUpdate environment world descriptor request := by
  constructor
  · intro starts
    simp only [serveUpdate] at starts
    split_ifs at starts with owner invalid closed failed
    · simp [Handled.starts, Handled.reply] at starts
    · simp [Handled.starts, Handled.queued, Handled.reply] at starts
    · simp [Handled.starts, Handled.queued, Handled.reply] at starts
    · simp only [not_or, Bool.not_eq_true, Bool.not_eq_false] at closed
      simp [Handled.starts, Handled.restartStream, Handled.reply] at starts
      exact
        { owner := owner
          validConfig := by simpa using invalid
          radio := closed.1
          configured := closed.2.1
          noError := closed.2.2
          restarts := starts.1.2
          taken := starts.1.1 }
    · simp [serveUnrecognised, Handled.starts, Handled.reply] at starts
  · intro restarts
    simp [serveUpdate, restarts.owner, restarts.validConfig, restarts.radio,
      restarts.configured, restarts.noError, restarts.restarts,
      restarts.taken, Handled.starts, Handled.restartStream, Handled.reply]

theorem serveStart_starts : (serveStart world descriptor).starts .start = true ↔
      world.daemon.owner = descriptor ∧ world.daemon.radio.isSome = true ∧
        world.daemon.streamThreadStarted = false ∧
        world.daemon.modeSwapPaused = false := by
  unfold serveStart
  split_ifs with starts
  · simpa [Handled.starts, Handled.reply] using starts
  · refine iff_of_false ?_ starts
    have refused := serveUnrecognised_ne_ok world descriptor
    simpa [Handled.starts, serveUnrecognised, Handled.reply] using refused

theorem serveResumeMode_starts : (serveResumeMode world descriptor).starts .resumeMode = true ↔
      world.daemon.owner = descriptor ∧ world.daemon.configured = true ∧
        world.daemon.modeSwapPaused = true := by
  unfold serveResumeMode
  split_ifs with resumes
  · simpa [Handled.starts, Handled.reply, Handled.restartStream] using resumes
  · refine iff_of_false ?_ resumes
    simp [Handled.starts, serveUnrecognised, Handled.reply]

/-- A request is followed by the creation of a thread exactly under its
condition. -/
theorem dispatch_starts_iff (command : Command) (valid : 0 ≤ descriptor) :
    (dispatch environment world descriptor command).starts command = true ↔
      command.StartsStream environment world descriptor := by
  have never (notDuo : command.startsDuo = false)
      (notStart : command ≠ .start) (notAgain : command.startsAgain = false) :
      ¬ (dispatch environment world descriptor command).starts command =
        true := by
    simp [Handled.starts, notStart, dispatch_startsNoDuo environment world descriptor notDuo,
      dispatch_startsNoneAgain environment world descriptor notAgain]
  cases command with
  | duoStart => exact serveDuoStart_starts environment valid
  | duoSwapRate rate => exact serveDuoSwapRate_starts environment rate
  | start => exact serveStart_starts
  | resumeMode => exact serveResumeMode_starts
  | swapMode swap => exact serveSwapMode_starts environment swap
  | update request => exact serveUpdate_starts environment request
  | _ => exact iff_of_false (never rfl (by simp) rfl) id

theorem Incoming.handled_starts (incoming : Incoming) (valid : 0 ≤ descriptor) :
    (incoming.handled environment world descriptor).starts
        incoming.command = true ↔
      incoming.command.StartsStream environment world descriptor := by
  cases incoming with
  | request sequence command =>
      exact dispatch_starts_iff environment command valid
  | _ =>
      refine iff_of_false ?_ id
      simp [Incoming.handled, Incoming.command, Handled.reply_starts]

end Threads

/-! ## Roles -/

/-- What a client can hold. -/
inductive ClientRole where
  | owner
  | master
  | slave
  | apiLock
deriving DecidableEq, Repr

/-- Whether a client holds a role. -/
def Holdings.holds (holdings : Holdings) (client : Int) : ClientRole → Bool
  | .owner => decide (holdings.owner = client)
  | .master => descriptorIsMaster holdings.duo client
  | .slave => descriptorIsSlave holdings.duo client
  | .apiLock => decide (holdings.apiLockOwner = client)

/-- The command with which a client gives a role up. -/
def ClientRole.releaseCommand : ClientRole → Command
  | .owner => .release
  | .master => .duoRelease
  | .slave => .duoRelease
  | .apiLock => .unlockApi

section Roles

variable {holdings after : Holdings} {descriptor client : Int}
  {role : ClientRole}

theorem DuoSession.SameRoles.isMaster {before changed : DuoSession}
    (same : before.SameRoles changed) (client : Int) :
    descriptorIsMaster changed client =
      descriptorIsMaster before client := by
  simp [descriptorIsMaster, same.masterSelected, same.masterFd]

theorem DuoSession.SameRoles.isSlave {before changed : DuoSession}
    (same : before.SameRoles changed) (client : Int) :
    descriptorIsSlave changed client = descriptorIsSlave before client := by
  simp [descriptorIsSlave, same.slaveSelected, same.slaveFd]

/-- A granted acquisition takes no role from anybody. -/
theorem DuoTransition.acquire_keeps
    {session : DuoSession} {asked : DuoRole} {tuner rate : UInt32}
    {returned : DuoReturn}
    (transition : DuoTransition session (.acquire descriptor asked tuner rate) returned) :
    (descriptorIsMaster session client = true →
        descriptorIsMaster returned.session client = true) ∧
      (descriptorIsSlave session client = true →
        descriptorIsSlave returned.session client = true) := by
  cases transition with
  | refused => exact ⟨id, id⟩
  | reacquired => exact ⟨id, id⟩
  | masterAcquired _ _ _ _ _ _ noMaster noSlave =>
      simp [descriptorIsMaster, descriptorIsSlave, noMaster, noSlave]
  | slaveAttached _ _ _ _ _ _ noSlave =>
      simp [descriptorIsMaster, descriptorIsSlave, noSlave]

/-- A release takes a role from its own client only. -/
theorem DuoTransition.release_keeps
    {session : DuoSession} {returned : DuoReturn}
    (transition : DuoTransition session (.release descriptor) returned)
    (other : client ≠ descriptor) :
    (descriptorIsMaster session client = true →
        descriptorIsMaster returned.session client = true) ∧
      (descriptorIsSlave session client = true →
        descriptorIsSlave returned.session client = true) := by
  cases transition with
  | refused => exact ⟨id, id⟩
  | masterReleased _ isMaster _ noSlave =>
      obtain ⟨-, named⟩ := selected_of_descriptorIsMaster isMaster
      constructor
      · intro alsoMaster
        obtain ⟨-, alsoNamed⟩ := selected_of_descriptorIsMaster alsoMaster
        exact absurd (alsoNamed.symm.trans named) other
      · simp [descriptorIsSlave, noSlave]
  | slaveDetached _ isSlave =>
      obtain ⟨-, named⟩ := selected_of_descriptorIsSlave isSlave
      constructor
      · exact id
      · intro alsoSlave
        obtain ⟨-, alsoNamed⟩ := selected_of_descriptorIsSlave alsoSlave
        exact absurd (alsoNamed.symm.trans named) other

/-- The command branches take a role from the client that releases it and
from nobody else. -/
theorem CommandHoldings.released_itself {command : Command}
    (effect : CommandHoldings descriptor holdings command after)
    (valid : 0 ≤ client) (held : holdings.holds client role = true)
    (gone : after.holds client role = false) :
    client = descriptor ∧ command = role.releaseCommand := by
  have stays {changed : Holdings}
      (lost : changed.holds client role = false)
      (same : changed.holds client role = holdings.holds client role) :
      False := by
    simp [same, held] at lost
  cases effect with
  | kept => exact (stays gone rfl).elim
  | locked free =>
      cases role with
      | apiLock =>
          simp only [Holdings.holds, decide_eq_true_eq, decide_eq_false_iff_not] at held gone
          omega
      | _ => exact (stays gone rfl).elim
  | unlocked lockHeld =>
      cases role with
      | apiLock =>
          have named : holdings.apiLockOwner = client := by
            simpa [Holdings.holds] using held
          exact ⟨named.symm.trans lockHeld, rfl⟩
      | _ => exact (stays gone rfl).elim
  | acquired _ free =>
      cases role with
      | owner =>
          simp only [Holdings.holds, decide_eq_true_eq] at held
          omega
      | _ => exact (stays gone rfl).elim
  | released ownerHeld =>
      cases role with
      | owner =>
          have named : holdings.owner = client := by
            simpa [Holdings.holds] using held
          exact ⟨named.symm.trans ownerHeld, rfl⟩
      | _ => exact (stays gone rfl).elim
  | duoAcquired _ _ _ returned _ _ transition =>
      cases role with
      | master =>
          have kept := transition.acquire_keeps.1 held
          exact (stays gone (kept.trans held.symm)).elim
      | slave =>
          have kept := transition.acquire_keeps.2 held
          exact (stays gone (kept.trans held.symm)).elim
      | _ => exact (stays gone rfl).elim
  | duoChanged _ _ same =>
      cases role with
      | master => exact (stays gone (same.isMaster client)).elim
      | slave => exact (stays gone (same.isSlave client)).elim
      | _ => exact (stays gone rfl).elim
  | duoReleased returned _ _ transition =>
      by_cases own : client = descriptor
      · cases role with
        | master => exact ⟨own, rfl⟩
        | slave => exact ⟨own, rfl⟩
        | _ => exact (stays gone rfl).elim
      · cases role with
        | master =>
            have kept := (transition.release_keeps own).1 held
            exact (stays gone (kept.trans held.symm)).elim
        | slave =>
            have kept := (transition.release_keeps own).2 held
            exact (stays gone (kept.trans held.symm)).elim
        | _ => exact (stays gone rfl).elim

/-- A removal takes a role from the client removed, or from the slave whose
master it is. -/
theorem Holdings.RemovedOnly.lost (removed : holdings.RemovedOnly descriptor after)
    (held : holdings.holds client role = true)
    (gone : after.holds client role = false) :
    client = descriptor ∨ (role = .slave ∧ descriptorIsMaster holdings.duo descriptor = true) := by
  by_contra neither
  simp only [not_or, not_and] at neither
  obtain ⟨other, unrelated⟩ := neither
  cases role with
  | owner =>
      simp only [Holdings.holds, decide_eq_true_eq, decide_eq_false_iff_not] at held gone
      exact gone ((removed.ownerKept (by rw [held]; exact other)).trans held)
  | apiLock =>
      simp only [Holdings.holds, decide_eq_true_eq, decide_eq_false_iff_not] at held gone
      exact gone ((removed.lockKept (by rw [held]; exact other)).trans held)
  | master =>
      simp only [Holdings.holds] at held gone
      by_cases isMaster : descriptorIsMaster holdings.duo descriptor = true
      · exact other
          ((selected_of_descriptorIsMaster held).2.symm.trans
            (selected_of_descriptorIsMaster isMaster).2)
      by_cases isSlave : descriptorIsSlave holdings.duo descriptor = true
      · rw [(removed.slaveLeaves isSlave).1, descriptorIsMaster_withoutSlave, held] at gone
        simp at gone
      · rw [(removed.strangerLeaves (by simpa using isMaster)
          (by simpa using isSlave)).1, held] at gone
        simp at gone
  | slave =>
      simp only [Holdings.holds] at held gone
      have notMaster := unrelated rfl
      by_cases isSlave : descriptorIsSlave holdings.duo descriptor = true
      · exact other
          ((selected_of_descriptorIsSlave held).2.symm.trans
            (selected_of_descriptorIsSlave isSlave).2)
      · rw [(removed.strangerLeaves (by simpa using notMaster)
          (by simpa using isSlave)).1, held] at gone
        simp at gone

/-- A removed client holds nothing. -/
theorem Holdings.RemovedOnly.empty
    (removed : holdings.RemovedOnly descriptor after) (role : ClientRole) :
    after.holds descriptor role = false := by
  cases role with
  | owner => simpa [Holdings.holds] using removed.ownerCleared
  | apiLock => simpa [Holdings.holds] using removed.lockCleared
  | master =>
      simp [Holdings.holds, descriptorIsMaster, removed.masterCleared]
  | slave => simp [Holdings.holds, descriptorIsSlave, removed.slaveCleared]

/-- A role stays with its client unless the client releases it. -/
theorem CommandHoldings.keeps {command : Command}
    (effect : CommandHoldings descriptor holdings command after)
    (valid : 0 ≤ client) (held : holdings.holds client role = true)
    (other : command ≠ role.releaseCommand) :
    after.holds client role = true := by
  by_contra gone
  exact other (effect.released_itself valid held (by simpa using gone)).2

end Roles

/-! ## Losing a role -/

section Losses

variable (environment : Environment) (server : Server) (slot : Nat)
  (incoming : Incoming)

/-- The holdings once the command has been carried out and before it is
answered. -/
def grantedHoldings : Holdings :=
  (incoming.handled environment server.world
    (server.clients.getD slot invalidSocket)).world.holdings

/-- A role held before the request, or granted by it, is gone once the
request has been served. -/
def LosesRole (client : Int) (role : ClientRole) : Prop :=
  (server.world.holdings.holds client role = true ∨
      (grantedHoldings environment server slot incoming).holds client role = true) ∧
    (serveClient environment server slot incoming).world.holdings.holds client role = false

/-- The client gave the role up, a write to its socket failed, or its master
lost its role. -/
inductive LossExplained (client : Int) (role : ClientRole) : Prop
  | released :
      client = server.clients.getD slot invalidSocket →
      incoming.command = role.releaseCommand →
      (grantedHoldings environment server slot incoming).holds client role = false →
      LossExplained client role
  | unheard (sent : Sent) :
      sent ∈ (serveClient environment server slot
        incoming).world.sent.drop server.world.sent.length →
      sent.descriptor = client → sent.delivered = false →
      LossExplained client role
  | followsMaster (master : Int) :
      role = .slave →
      LosesRole environment server slot incoming master .master →
      LossExplained client role

/-- No client loses a role over a failure of another socket. -/
def FailuresIsolated : Prop :=
  ∀ (client : Int) (role : ClientRole), 0 ≤ client →
    LosesRole environment server slot incoming client role →
      LossExplained environment server slot incoming client role

/-- The response arrives, but the event to the peer does not, or no thread
can be created.  After `OPENRSP_CMD_DUO_RELEASE` only the API lock is left
to lose. -/
def PaysForOthers : Prop :=
  server.world.result environment .socketWrite = 0 ∧
    ((incoming.command.Notifies environment server.world
          (server.clients.getD slot invalidSocket) ∧
        (server.world.advance .socketWrite).result environment .socketWrite ≠ 0 ∧
        (incoming.command = .duoRelease →
          server.world.daemon.apiLockOwner = server.clients.getD slot invalidSocket)) ∨
      (incoming.command.StartsStream environment server.world
          (server.clients.getD slot invalidSocket) ∧
        server.world.result environment .threadCreate ≠ 0))

end Losses

section Unexplained

variable {environment : Environment} {server : Server} {slot : Nat}
  {incoming : Incoming}

/-- A departure is told to the peer. -/
theorem Departed.elsewhere
    {session : DuoSession} {descriptor : Int} {departure : List Sent}
    (departed : Departed session descriptor departure)
    (wellFormed : session.WellFormed) :
    ∀ sent ∈ departure, sent.descriptor ≠ descriptor := by
  cases departed with
  | stranger => simp
  | loneMaster => simp
  | slave delivered _ isSlave =>
      obtain ⟨selected, named⟩ := selected_of_descriptorIsSlave isSlave
      have differs := wellFormed.slaveFdDiffers selected
      simp only [List.mem_singleton, forall_eq]
      rw [← named]
      exact Ne.symm differs
  | master delivered isMaster selected =>
      obtain ⟨-, named⟩ := selected_of_descriptorIsMaster isMaster
      have differs := wellFormed.slaveFdDiffers selected
      simp only [List.mem_singleton, forall_eq]
      rw [← named]
      exact differs

/-- An event goes to the other role. -/
theorem Notified.elsewhere
    {descriptor : Int} {before after : DuoSession} {command : Command}
    {event : DuoEvent}
    (notified : Notified descriptor before command after event)
    (wellFormed : before.WellFormed) :
    event.targetFd ≠ descriptor := by
  cases notified with
  | attached _ _ other => exact other
  | masterStarted isMaster selected =>
      exact (wellFormed.addressedToSlave isMaster selected
        .masterInitialised before.slaveTuner before).other
  | slaveStarted isSlave =>
      exact (wellFormed.addressedToMaster isSlave .slaveInitialised before.slaveTuner before).other
  | slaveStopped isSlave =>
      exact (wellFormed.addressedToMaster isSlave .slaveUninitialised
        before.slaveTuner before).other
  | detached isSlave =>
      exact (wellFormed.addressedToMaster isSlave .slaveDetached before.slaveTuner before).other

/-- Who notifies its peer has a role, unless it has just released it. -/
theorem Notified.holds
    {descriptor : Int} {before after : DuoSession} {command : Command}
    {event : DuoEvent}
    (notified : Notified descriptor before command after event)
    (notRelease : command ≠ .duoRelease) :
    descriptorIsMaster after descriptor = true ∨ descriptorIsSlave after descriptor = true := by
  cases notified with
  | attached _ _ _ _ _ isSlave => exact .inr isSlave
  | masterStarted isMaster _ same =>
      exact .inl ((same.isMaster descriptor).trans isMaster)
  | slaveStarted isSlave same =>
      exact .inr ((same.isSlave descriptor).trans isSlave)
  | slaveStopped isSlave same =>
      exact .inr ((same.isSlave descriptor).trans isSlave)
  | detached => exact absurd rfl notRelease

/-- Once its response has arrived, whatever fails to arrive was meant for
another client. -/
theorem Answered.elsewhere
    {descriptor : Int} {sequence : UInt32} {command : Command}
    {handled : Handled} {result : Int} {written : List Sent}
    (answered : Answered environment descriptor sequence command handled result written)
    (heard : handled.world.result environment .socketWrite = 0)
    (notList : command ≠ .list)
    (peer : handled.notifies = true → handled.duoEvent.targetFd ≠ descriptor) :
    ∀ sent ∈ written, sent.delivered = false → sent.descriptor ≠ descriptor := by
  intro sent member lost
  cases answered with
  | unheard fails => exact absurd heard fails
  | cut _ isList => exact absurd isList notList
  | peerUnheard _ notifies =>
      simp only [List.mem_cons, List.not_mem_nil, or_false] at member
      rcases member with rfl | rfl
      · simp at lost
      · exact peer notifies
  | told _ notifies =>
      simp only [List.mem_cons, List.not_mem_nil, or_false] at member
      rcases member with rfl | rfl
      · simp at lost
      · exact peer notifies
  | untold _ _ _ arrived =>
      rcases List.mem_cons.mp member with rfl | member
      · simp at lost
      · simp [arrived sent member] at lost

theorem PaysForOthers.notList (pays : PaysForOthers environment server slot incoming) :
    incoming.command ≠ .list := by
  intro isList
  rcases pays.2 with ⟨notifies, -⟩ | ⟨starts, -⟩
  · rw [isList] at notifies
    exact notifies
  · rw [isList] at starts
    exact starts

variable (valid : 0 ≤ server.clients.getD slot invalidSocket)
  (sound : server.Sound)

include valid sound in
/-- The failure reaches the return value of `serve_request`. -/
theorem PaysForOthers.fails (pays : PaysForOthers environment server slot incoming)
    {result : Int} {written : List Sent}
    (answer : Answered environment (server.clients.getD slot invalidSocket)
        incoming.sequence incoming.command
        (incoming.handled environment server.world
          (server.clients.getD slot invalidSocket)) result written) :
    result ≠ 1 := by
  obtain ⟨first, second, threads⟩ :=
    World.result_of_outgoing environment (incoming.handled_outgoing environment valid sound)
  have notifies := incoming.handled_notifies environment valid sound
  obtain ⟨-, ⟨condition, lost, -⟩ | ⟨condition, failed⟩⟩ := pays
  · cases answer with
    | unheard => decide
    | cut => decide
    | peerUnheard => decide
    | told _ _ eventHeard =>
        exact absurd (second.symm.trans eventHeard) lost
    | untold _ silent =>
        have told := notifies.mpr condition
        exact absurd (silent.symm.trans told) Bool.false_ne_true
  · have starts := (Incoming.handled_starts environment incoming valid).mpr condition
    have both := And.intro starts fun created => failed (threads.symm.trans created)
    cases answer with
    | unheard => decide
    | cut => decide
    | peerUnheard => decide
    | told _ _ _ outcome => exact outcome.mpr both
    | untold _ _ _ _ outcome => exact outcome.mpr both

include valid sound in
/-- The client that pays holds a role it did not release. -/
theorem PaysForOthers.holds (pays : PaysForOthers environment server slot incoming) : ∃ role,
      (grantedHoldings environment server slot incoming).holds
          (server.clients.getD slot invalidSocket) role = true ∧
        (role = .slave → incoming.command ≠ .duoRelease) := by
  have effect := incoming.handled_holdings environment valid sound
  obtain ⟨-, ⟨condition, -, locked⟩ | ⟨condition, -⟩⟩ := pays
  · by_cases released : incoming.command = .duoRelease
    · have held :
          server.world.holdings.holds (server.clients.getD slot invalidSocket) .apiLock = true :=
        decide_eq_true (locked released)
      refine ⟨.apiLock, effect.keeps valid held ?_, by simp⟩
      rw [released]
      decide
    · have notified := Incoming.handled_notified environment valid sound
          ((incoming.handled_notifies environment valid sound).mpr condition)
      rcases notified.holds released with isMaster | isSlave
      · exact ⟨.master, isMaster, by simp⟩
      · exact ⟨.slave, isSlave, fun _ => released⟩
  · generalize incoming.command = command at effect condition
    have owner
        (owns : server.world.daemon.owner = server.clients.getD slot invalidSocket)
        (other : command ≠ .release) :
        (grantedHoldings environment server slot incoming).holds
          (server.clients.getD slot invalidSocket) .owner = true := by
      have held :
          server.world.holdings.holds (server.clients.getD slot invalidSocket) .owner = true :=
        decide_eq_true owns
      exact effect.keeps valid held other
    have master
        (role :
          duoRoleDescriptor server.world.daemon (server.clients.getD slot invalidSocket) = .master)
        (other : command ≠ .duoRelease) :
        (grantedHoldings environment server slot incoming).holds
          (server.clients.getD slot invalidSocket) .master = true := by
      have held :
          server.world.holdings.holds (server.clients.getD slot invalidSocket) .master = true :=
        duoRoleDescriptor_master role
      exact effect.keeps valid held other
    cases command with
    | duoStart =>
        exact ⟨.master, master condition.role (by simp), by simp⟩
    | duoSwapRate rate =>
        exact ⟨.master, master condition.role (by simp), by simp⟩
    | start => exact ⟨.owner, owner condition.1 (by simp), by simp⟩
    | resumeMode => exact ⟨.owner, owner condition.1 (by simp), by simp⟩
    | swapMode swap =>
        exact ⟨.owner, owner condition.owner (by simp), by simp⟩
    | update request =>
        exact ⟨.owner, owner condition.owner (by simp), by simp⟩
    | _ => exact condition.elim

/-- The removal of a slave leaves the master its role. -/
theorem Holdings.RemovedOnly.master_stays
    {holdings after : Holdings} {descriptor master : Int}
    (removed : holdings.RemovedOnly descriptor after)
    (wellFormed : holdings.duo.WellFormed)
    (isSlave : holdings.holds descriptor .slave = true)
    (isMaster : holdings.holds master .master = true) :
    after.holds master .master = true := by
  by_contra gone
  rcases removed.lost isMaster (by simpa using gone) with same | ⟨other, -⟩
  · subst same
    have notMaster := wellFormed.slave_not_master isSlave
    exact absurd (notMaster.symm.trans isMaster) Bool.false_ne_true
  · simp at other

include valid sound in
/-- Nothing explains the loss of a client that pays for others. -/
theorem PaysForOthers.unexplained (pays : PaysForOthers environment server slot incoming)
    (answered : incoming.isAnswered = true) :
    ¬ FailuresIsolated environment server slot incoming := by
  intro isolated
  let client := server.clients.getD slot invalidSocket
  obtain ⟨first, -, -⟩ :=
    World.result_of_outgoing environment (incoming.handled_outgoing environment valid sound)
  obtain ⟨role, held, notReleased⟩ := pays.holds valid sound
  obtain ⟨written, sent, served⟩ := serveClient_served environment valid sound answered
  cases served with
  | stays answer => exact pays.fails valid sound answer rfl
  | @removed result written departure answer failed holdings departed =>
      have grantedSound : (grantedHoldings environment server slot incoming).Sound
            server.clients :=
        (incoming.handled_holdings environment valid sound).request.sound
          (mem_of_valid_slot valid) sound
      have removed := grantedSound.removedOnly valid
      have loses : LosesRole environment server slot incoming client role := by
        refine ⟨.inr held, ?_⟩
        rw [holdings]
        exact removed.empty role
      cases isolated client role valid loses with
      | released _ _ gone =>
          exact absurd (gone.symm.trans held) Bool.false_ne_true
      | unheard entry member own lost =>
          rw [sent, List.drop_left] at member
          rcases List.mem_append.mp member with inAnswer | inDeparture
          · refine answer.elsewhere (first.trans pays.1) pays.notList
              (fun notifies => ?_) entry inAnswer lost own
            exact (Incoming.handled_notified environment valid sound
              notifies).elsewhere sound.wellFormed
          · exact departed.elsewhere grantedSound.wellFormed entry inDeparture own
      | followsMaster master isSlave masterLoses =>
          subst isSlave
          rw [LosesRole, holdings] at masterLoses
          have stays
              (granted :
                (grantedHoldings environment server slot incoming).holds master .master = true) :=
            removed.master_stays grantedSound.wellFormed held granted
          obtain ⟨before | granted, after⟩ := masterLoses
          · obtain ⟨selected, named⟩ := selected_of_descriptorIsMaster before
            have masterValid : 0 ≤ master := named ▸ sound.wellFormed.masterFdValid selected
            have kept := (incoming.handled_holdings environment valid sound).keeps
                masterValid before (notReleased rfl)
            exact absurd (after.symm.trans (stays kept)) Bool.false_ne_true
          · exact absurd (after.symm.trans (stays granted)) Bool.false_ne_true

/-- A slave that has released its role has at most the API lock left. -/
theorem Notified.released
    {holdings after : Holdings} {descriptor : Int} {event : DuoEvent}
    {clients : List Int} {role : ClientRole}
    (notified : Notified descriptor holdings.duo .duoRelease after.duo event)
    (effect : CommandHoldings descriptor holdings .duoRelease after)
    (sound : holdings.Sound clients) (valid : 0 ≤ descriptor)
    (held : after.holds descriptor role = true) :
    holdings.apiLockOwner = descriptor := by
  have owner : after.owner = holdings.owner := by
    cases effect <;> rfl
  have lock : after.apiLockOwner = holdings.apiLockOwner := by
    cases effect <;> rfl
  obtain ⟨isSlave, session⟩ := notified.detaches
  have selected := (selected_of_descriptorIsSlave isSlave).1
  have active := sound.active.mpr (sound.wellFormed.slaveHasMaster selected)
  cases role with
  | owner =>
      have unowned := sound.exclusive active
      have named : after.owner = descriptor := by
        simpa [Holdings.holds] using held
      omega
  | apiLock =>
      have named : after.apiLockOwner = descriptor := by
        simpa [Holdings.holds] using held
      exact lock.symm.trans named
  | master =>
      have notMaster := sound.wellFormed.slave_not_master isSlave
      simp [Holdings.holds, session, descriptorIsMaster_withoutSlave, notMaster] at held
  | slave =>
      simp [Holdings.holds, session, descriptorIsSlave_withoutSlave] at held

include valid sound in
/-- A client that is removed without paying for others did not hear. -/
theorem removed_unheard (spared : ¬ PaysForOthers environment server slot incoming)
    {role : ClientRole}
    (held : (grantedHoldings environment server slot incoming).holds
        (server.clients.getD slot invalidSocket) role = true)
    {result : Int} {written : List Sent}
    (answer : Answered environment (server.clients.getD slot invalidSocket)
        incoming.sequence incoming.command
        (incoming.handled environment server.world
          (server.clients.getD slot invalidSocket)) result written)
    (failed : result ≠ 1) :
    ∃ sent ∈ written,
      sent.descriptor = server.clients.getD slot invalidSocket ∧ sent.delivered = false := by
  obtain ⟨first, second, threads⟩ :=
    World.result_of_outgoing environment (incoming.handled_outgoing environment valid sound)
  have thread
      (heard : (incoming.handled environment server.world
          (server.clients.getD slot invalidSocket)).world.result environment .socketWrite = 0)
      (outcome : result ≠ 1 ↔ (incoming.handled environment server.world
              (server.clients.getD slot invalidSocket)).starts incoming.command = true ∧
            (incoming.handled environment server.world
              (server.clients.getD slot invalidSocket)).world.result
                environment .threadCreate ≠ 0) : False := by
    obtain ⟨starts, notCreated⟩ := outcome.mp failed
    refine spared ⟨first.symm.trans heard, .inr ⟨?_, ?_⟩⟩
    · exact (Incoming.handled_starts environment incoming valid).mp starts
    · exact fun created => notCreated (threads.trans created)
  cases answer with
  | unheard =>
      exact ⟨_, List.mem_singleton_self _, rfl, rfl⟩
  | cut _ _ own undelivered =>
      obtain ⟨entry, member, lost⟩ := undelivered
      exact ⟨entry, List.mem_cons_of_mem _ member, (own entry member).1, lost⟩
  | peerUnheard heard notifies lost =>
      refine absurd ⟨first.symm.trans heard, .inl ⟨?_, ?_, ?_⟩⟩ spared
      · exact (incoming.handled_notifies environment valid sound).mp notifies
      · exact fun arrived => lost (second.trans arrived)
      · intro isRelease
        have notified := Incoming.handled_notified environment valid sound notifies
        have effect := incoming.handled_holdings environment valid sound
        rw [isRelease] at notified effect
        exact notified.released effect sound valid held
  | told heard _ _ outcome => exact (thread heard outcome).elim
  | untold heard _ _ _ outcome => exact (thread heard outcome).elim

include valid sound in
theorem failuresIsolated_of_spared (answered : incoming.isAnswered = true)
    (spared : ¬ PaysForOthers environment server slot incoming) :
    FailuresIsolated environment server slot incoming := by
  intro client role clientValid loses
  obtain ⟨held, gone⟩ := loses
  by_cases granted : (grantedHoldings environment server slot incoming).holds client role = true
  · obtain ⟨written, sent, served⟩ := serveClient_served environment valid sound answered
    cases served with
    | stays _ holdings =>
        rw [holdings] at gone
        exact absurd (gone.symm.trans granted) Bool.false_ne_true
    | @removed result written departure answer failed holdings departed =>
        have grantedSound := (incoming.handled_holdings environment valid sound).request.sound
            (mem_of_valid_slot valid) sound
        have removed := grantedSound.removedOnly valid
        rw [← holdings] at removed
        rcases removed.lost granted gone with rfl | ⟨isSlave, isMaster⟩
        · obtain ⟨entry, member, own, lost⟩ :=
            removed_unheard valid sound spared granted answer failed
          refine .unheard entry ?_ own lost
          rw [sent, List.drop_left]
          exact List.mem_append_left _ member
        · exact .followsMaster _ isSlave ⟨.inr isMaster, removed.empty .master⟩
  · have lost :
        (grantedHoldings environment server slot incoming).holds client role = false := by
      simpa using granted
    have before := held.resolve_right granted
    obtain ⟨own, released⟩ :=
      (incoming.handled_holdings environment valid sound).released_itself clientValid before lost
    exact .released own released lost

end Unexplained

/-- In every reachable state, serving a client costs nobody a role over a
failure of another socket exactly when the client does not pay for
others. -/
theorem write_failures_isolated_unless_pays_for_others
    (environment : Environment) (steps : List Step) (slot : Nat)
    (incoming : Incoming) :
    let server := runSteps (Server.step environment) Server.initial steps
    0 ≤ server.clients.getD slot invalidSocket → incoming.isAnswered = true →
        (FailuresIsolated environment server slot incoming ↔
          ¬ PaysForOthers environment server slot incoming) := by
  intro server valid answered
  have sound : server.Sound := sound_run environment steps
  constructor
  · intro isolated pays
    exact pays.unexplained valid sound answered isolated
  · intro spared
    exact failuresIsolated_of_spared valid sound answered spared

/-- When every write succeeds, the new slave keeps its role. -/
theorem attached_slave_isolated :
    let server :=
      runSteps (Server.step oneReceiver) Server.initial masterAndGuest
    server.clients.getD 1 invalidSocket = 6 ∧
      FailuresIsolated oneReceiver server 1 attachSlave := by
  refine ⟨by decide, ?_⟩
  have isolated := write_failures_isolated_unless_pays_for_others oneReceiver
      masterAndGuest 1 attachSlave (by decide) rfl
  refine isolated.mpr ?_
  rintro ⟨-, ⟨-, lost, -⟩ | ⟨starts, -⟩⟩
  · exact lost (by decide)
  · exact starts

/-- The event about the new slave does not reach the master: the response
has arrived, and still the slave is removed. -/
theorem deaf_master_costs_slave_its_role :
    let environment := failingWrite 2
    let server :=
      runSteps (Server.step environment) Server.initial masterAndGuest
    let after := serveClient environment server 1 attachSlave
    after.world.sent.drop server.world.sent.length = [⟨6, .response 2 .ok 0, true⟩,
          ⟨5, .duo .slaveAttached tunerB, false⟩,
          ⟨5, .duo .slaveDllDisappeared tunerB, true⟩] ∧
      (grantedHoldings environment server 1 attachSlave).holds 6 .slave = true ∧
      after.world.holdings.holds 6 .slave = false ∧
      6 ∉ after.clients ∧
      ¬ FailuresIsolated environment server 1 attachSlave := by
  intro environment server after
  refine ⟨by decide, by decide, by decide, by decide, ?_⟩
  have sound : server.Sound := sound_run environment masterAndGuest
  have attaches : AttachesSlave server.world
        (server.clients.getD 1 invalidSocket)
        ⟨receiverIdentity, duoRoleSlave, tunerB, 0⟩ := by
    constructor <;> decide
  have pays : PaysForOthers environment server 1 attachSlave :=
    ⟨by decide, .inl ⟨attaches, by decide, by decide⟩⟩
  exact pays.unexplained (by decide) sound rfl

end OpenRsp
