import OpenRsp.Daemon.Notifications

/-!
# Telling the master that its slave is gone

The session changes before a request is answered, and its event follows only
a response that has been written.  The module compares, step by step, the
slave roles that end under a master with the events the master is sent
about them.
-/

namespace OpenRsp

open Runs

/-! ## Events about the slave -/

/-- An event that tells a master its slave is gone. -/
def Sent.isDeparture (sent : Sent) : Bool :=
  match sent.frame with
  | .duo .slaveDetached _ => true
  | .duo .slaveDllDisappeared _ => true
  | _ => false

/-- An event that tells a master it has a slave. -/
def Sent.isAttachment (sent : Sent) : Bool :=
  match sent.frame with
  | .duo .slaveAttached _ => true
  | _ => false

/-- Whether a frame is an event about the session. -/
def Frame.isDuo : Frame → Bool
  | .duo _ _ => true
  | _ => false

/-- Frames that are no events. -/
def PlainFrames (frames : List Sent) : Prop := ∀ sent ∈ frames, sent.frame.isDuo = false

/-- The master to tell when the slave of `before` no longer has its role in
`after` and a master does. -/
def DuoSession.ended (before after : DuoSession) : List Int :=
  if before.slaveSelected = true ∧ after.masterSelected = true ∧
      descriptorIsSlave after before.slaveFd = false then
    [after.masterFd]
  else []

theorem DuoSession.ended_of_none {before after : DuoSession}
    (vacant : before.slaveSelected = false) :
    before.ended after = [] := by
  simp [DuoSession.ended, vacant]

theorem DuoSession.ended_of_masterless {before after : DuoSession}
    (masterless : after.masterSelected = false) :
    before.ended after = [] := by
  simp [DuoSession.ended, masterless]

theorem DuoSession.SameRoles.ended {before after : DuoSession}
    (same : before.SameRoles after) : before.ended after = [] := by
  have stays (selected : before.slaveSelected = true) :
      descriptorIsSlave after before.slaveFd = true := by
    simp [descriptorIsSlave, same.slaveSelected, same.slaveFd, selected]
  by_cases selected : before.slaveSelected = true
  · simp [DuoSession.ended, stays selected]
  · exact DuoSession.ended_of_none (by simpa using selected)

theorem DuoSession.ended_self (session : DuoSession) :
    session.ended session = [] :=
  (DuoSession.SameRoles.refl session).ended

theorem DuoSession.WellFormed.ended_withoutSlave {session : DuoSession}
    (wellFormed : session.WellFormed)
    (selected : session.slaveSelected = true) :
    session.ended session.withoutSlave = [session.masterFd] := by
  have master := wellFormed.slaveHasMaster selected
  simp [DuoSession.ended, selected, DuoSession.withoutSlave, master, descriptorIsSlave]

/-! ## Steps that write no event -/

/-- Only frames other than events are written. -/
def WritesPlain (before after : World) : Prop :=
  ∃ frames, after.sent = before.sent ++ frames ∧ PlainFrames frames

namespace WritesPlain

theorem of_eq {before after : World} (same : after.sent = before.sent) :
    WritesPlain before after :=
  ⟨[], by simpa using same, nofun⟩

theorem trans {first second third : World}
    (left : WritesPlain first second) (right : WritesPlain second third) :
    WritesPlain first third := by
  obtain ⟨earlier, sentEarlier, plainEarlier⟩ := left
  obtain ⟨later, sentLater, plainLater⟩ := right
  refine ⟨earlier ++ later, by simp [sentLater, sentEarlier], ?_⟩
  intro sent member
  rcases List.mem_append.mp member with member | member
  · exact plainEarlier sent member
  · exact plainLater sent member

theorem of_outgoing {before after : World} (same : after.outgoing = before.outgoing) :
    WritesPlain before after :=
  of_eq (congrArg Outgoing.sent same)

end WritesPlain

section Plain

variable (environment : Environment) (world : World)

theorem writeFrame_plain (descriptor : Int) {frame : Frame} (plain : frame.isDuo = false) :
    WritesPlain world (writeFrame environment world descriptor frame).2 :=
  ⟨_, rfl, by simpa [PlainFrames] using plain⟩

theorem sendStream_plain (tuner length : UInt32) :
    WritesPlain world (sendStream environment world tuner length) := by
  simp only [sendStream]
  split
  · exact .of_eq rfl
  · split
    · exact .of_eq rfl
    · have wrote (sequence : UInt32) : WritesPlain world
            (writeFrame environment
              ((world.modify noteFirstIq).modify (countBlock · tuner))
              (streamTarget ((world.modify noteFirstIq).modify (countBlock · tuner)).daemon tuner)
              (.iq tuner sequence length)).2 :=
        writeFrame_plain environment _ _ rfl
      split <;> split <;> exact wrote _

theorem sendRemovalNotice_plain (descriptor : Int) (tuner : UInt32) :
    WritesPlain world (sendRemovalNotice environment world descriptor tuner) := by
  simp only [sendRemovalNotice]
  split_ifs
  · exact .of_eq rfl
  · exact writeFrame_plain environment _ _ rfl
  · exact writeFrame_plain environment _ _ rfl

theorem reportRemovedDevice_plain :
    WritesPlain world (reportRemovedDevice environment world) := by
  simp only [reportRemovedDevice]
  split
  · exact (sendRemovalNotice_plain environment world _ _).trans
      (sendRemovalNotice_plain environment _ _ _)
  · exact sendRemovalNotice_plain environment world _ _

theorem noteUnresolved_plain (failure : Int) :
    WritesPlain world (noteUnresolved environment world failure) := by
  have clock (before : World) :
      (monotonicMilliseconds environment before).2.sent = before.sent :=
    (clockGettime_inventoryOnly environment before).sent
  simp only [noteUnresolved]
  split_ifs
  · exact (WritesPlain.of_eq (clock world)).trans (reportRemovedDevice_plain environment _)
  · exact .of_eq (clock world)
  · exact .of_eq rfl

theorem recoverMode_plain :
    WritesPlain world (recoverMode environment world) := by
  have configured (before : World) (config : DualConfig) :=
    congrArg Outgoing.sent (configureDualRadio_outgoing environment before config)
  have single (before : World) (config : RadioConfig) :=
    congrArg Outgoing.sent ((outgoingFrame environment).configureRadio before config 3)
  have closed (before : World) := congrArg Outgoing.sent (closeRadio_outgoing environment before)
  simp only [World.outgoing] at configured single closed
  refine .of_eq ?_
  simp only [recoverMode, recoverDual, recoverSingle]
  split_ifs <;> simp [configured, single, closed]

theorem reopenResolved_plain :
    WritesPlain world (reopenResolved environment world) := by
  have resolved := (resolveAcquiredDevice_inventoryOnly environment world).sent
  simp only [reopenResolved]
  split
  · exact (WritesPlain.of_eq resolved).trans (noteUnresolved_plain environment _ _)
  · rename_i index _
    have found : ((resolveAcquiredDevice environment world).2.modify
          (noteResolved index)).sent = world.sent := resolved
    exact (WritesPlain.of_eq found).trans (recoverMode_plain environment _)

theorem reopenFailedStream_plain :
    WritesPlain world (reopenFailedStream environment world) := by
  unfold reopenFailedStream
  split
  · exact .of_eq rfl
  · have forgotten : ((world.modify forgetConfigured).modify invalidateSnapshot).sent =
          world.sent := rfl
    exact (WritesPlain.of_eq forgotten).trans (reopenResolved_plain environment _)

theorem recoverFailedStream_plain :
    WritesPlain world (recoverFailedStream environment world) := by
  have joined : (joinFailed environment world).sent = world.sent := by
    unfold joinFailed
    split
    · exact (joinStreamThread_streamOnly environment world).sent
    · rfl
  have closed : (closeRadio environment (joinFailed environment world)).2.sent =
        world.sent :=
    (congrArg Outgoing.sent
      (closeRadio_outgoing environment (joinFailed environment world))).trans
      joined
  simp only [recoverFailedStream]
  split_ifs
  · exact .of_eq rfl
  · exact .of_eq closed
  · exact (WritesPlain.of_eq closed).trans (reopenFailedStream_plain environment _)

theorem finishRecoveryConfig_plain :
    WritesPlain world (finishRecoveryConfig environment world) := by
  have wrote := (writeRecoveryConfig_registersOnly environment world
      (bootstrapOrConfig world.daemon) world.daemon.config).sent
  simp only [finishRecoveryConfig]
  split
  · exact .of_eq rfl
  · exact .of_eq wrote

end Plain

/-! ## Every step -/

/-- Whether a step answers a request. -/
def Server.answers (server : Server) : Step → Bool
  | .serve slot incoming =>
      decide (0 ≤ server.clients.getD slot invalidSocket) && incoming.isAnswered
  | _ => false

/-- What a step that answers no request does to the session and to the
frames written. -/
inductive Unanswered (server after : Server) : List Sent → Prop
  | plain {frames : List Sent} :
      after.world.daemon.duo = server.world.daemon.duo →
      PlainFrames frames →
      Unanswered server after frames
  | removal {descriptor : Int} {departure : List Sent} :
      0 ≤ descriptor →
      after.world.holdings = server.world.holdings.remove descriptor →
      Departed server.world.daemon.duo descriptor departure →
      Unanswered server after departure

theorem Unanswered.silent {server after : Server} (sent : after.world.sent = server.world.sent)
    (duo : after.world.daemon.duo = server.world.daemon.duo) :
    ∃ written, after.world.sent = server.world.sent ++ written ∧
      Unanswered server after written :=
  ⟨[], sent.trans (List.append_nil _).symm, .plain duo nofun⟩

section Steps

variable (environment : Environment)

theorem removeClient_unanswered {server : Server} (sound : server.Sound) (slot : Nat) : ∃ written,
      (removeClient environment server slot).world.sent = server.world.sent ++ written ∧
      Unanswered server (removeClient environment server slot) written := by
  by_cases valid : 0 ≤ server.clients.getD slot invalidSocket
  · obtain ⟨written, departed, sent⟩ := removeClient_departed environment valid sound
    exact ⟨written, sent, .removal valid (removeClient_holdings environment sound valid) departed⟩
  · have same : removeClient environment server slot = server := by
      rw [removeClient, if_pos (not_le.mp valid)]
    rw [same]
    exact Unanswered.silent rfl rfl

theorem evictClient_unanswered {server : Server} (sound : server.Sound) : ∃ written,
      (evictClient environment server).world.sent = server.world.sent ++ written ∧
      Unanswered server (evictClient environment server) written := by
  let cleared : Server :=
    { server with
      world := server.world.modify fun daemon =>
        { daemon with
          clientWriteError := false
          clientWriteErrorFd := invalidSocket } }
  have clearedSound : cleared.Sound := sound
  simp only [evictClient]
  split_ifs
  · exact Unanswered.silent rfl rfl
  · split
    · exact Unanswered.silent rfl rfl
    · rename_i slot _
      obtain ⟨written, sent, unanswered⟩ := removeClient_unanswered environment clearedSound slot
      refine ⟨written, sent, ?_⟩
      cases unanswered with
      | plain same frames => exact .plain same frames
      | removal valid holdings departed =>
          exact .removal valid holdings departed

theorem serveClient_unanswered {server : Server} (sound : server.Sound)
    {slot : Nat} {incoming : Incoming}
    (silent : server.answers (.serve slot incoming) = false) :
    ∃ written,
      (serveClient environment server slot incoming).world.sent = server.world.sent ++ written ∧
      Unanswered server (serveClient environment server slot incoming)
        written := by
  by_cases valid : 0 ≤ server.clients.getD slot invalidSocket
  · have removed : serveClient environment server slot incoming =
          removeClient environment server slot := by
      have connected : ¬ server.clients.getD slot invalidSocket < 0 := by
        omega
      simp only [Server.answers, valid, decide_true, Bool.true_and] at silent
      cases incoming with
      | closed =>
          simp only [serveClient, serveRequest, if_neg connected]
          exact if_pos (by decide)
      | unreadable =>
          simp only [serveClient, serveRequest, if_neg connected]
          exact if_pos (by decide)
      | badHeader sequence => simp [Incoming.isAnswered] at silent
      | request sequence command => simp [Incoming.isAnswered] at silent
    rw [removed]
    exact removeClient_unanswered environment sound slot
  · have same : serveClient environment server slot incoming = server := by
      simp only [serveClient]
      rw [if_pos (not_le.mp valid)]
    rw [same]
    exact Unanswered.silent rfl rfl

/-- Every step that answers no request. -/
theorem step_unanswered {server : Server} (sound : server.Sound)
    {step : Step} (silent : server.answers step = false) :
    ∃ written,
      (server.step environment step).world.sent = server.world.sent ++ written ∧
      Unanswered server (server.step environment step) written := by
  have ofPlain {world : World}
      (holdings : world.holdings = server.world.holdings)
      (writes : WritesPlain server.world world) :
      ∃ written, world.sent = server.world.sent ++ written ∧
        Unanswered server { server with world := world } written := by
    obtain ⟨frames, sent, plain⟩ := writes
    exact ⟨frames, sent, .plain (congrArg Holdings.duo holdings) plain⟩
  cases step with
  | accept descriptor =>
      simp only [Server.step, acceptClient]
      split <;> exact Unanswered.silent rfl rfl
  | hangup slot => exact removeClient_unanswered environment sound slot
  | serve slot incoming =>
      exact serveClient_unanswered environment sound silent
  | evict => exact evictClient_unanswered environment sound
  | recover =>
      exact ofPlain (recoverFailedStream_holdings environment server.world)
        (recoverFailedStream_plain environment server.world)
  | finishRecovery =>
      exact ofPlain (finishRecoveryConfig_holdings environment server.world)
        (finishRecoveryConfig_plain environment server.world)
  | streamEnds =>
      exact ofPlain
        (holdings_of_ledger (streamThreadEnds_ledger environment server.world))
        (.of_outgoing (streamThreadEnds_outgoing environment server.world))
  | streamBlock tuner length =>
      simp only [Server.step]
      split
      · exact Unanswered.silent rfl rfl
      · exact ofPlain
          (holdings_of_ledger (sendStream_reportsOnly environment server.world tuner length).ledger)
          (sendStream_plain environment server.world tuner length)

end Steps

/-! ## The law -/

/-- Every departure comes after an attachment, given whether one came
before. -/
def DeparturesAnnounced (announced : Bool) : List Sent → Prop
  | [] => True
  | sent :: rest =>
      (sent.isDeparture = true → announced = true) ∧
        DeparturesAnnounced (announced || sent.isAttachment) rest

theorem departuresAnnounced_true (frames : List Sent) :
    DeparturesAnnounced true frames := by
  induction frames with
  | nil => trivial
  | cons sent rest inductionHypothesis =>
      exact ⟨fun _ => rfl, inductionHypothesis⟩

theorem departuresAnnounced_of_none {frames : List Sent}
    (none : ∀ sent ∈ frames, sent.isDeparture = false) (announced : Bool) :
    DeparturesAnnounced announced frames := by
  induction frames generalizing announced with
  | nil => trivial
  | cons sent rest inductionHypothesis =>
      refine ⟨fun departs => ?_, inductionHypothesis
        (fun later member => none later (List.mem_cons_of_mem _ member)) _⟩
      simp [none sent List.mem_cons_self] at departs

theorem departuresAnnounced_append
    {earlier later : List Sent} (announced : Bool) :
    DeparturesAnnounced announced (earlier ++ later) ↔ DeparturesAnnounced announced earlier ∧
        DeparturesAnnounced (announced || earlier.any Sent.isAttachment) later := by
  induction earlier generalizing announced with
  | nil => simp [DeparturesAnnounced]
  | cons sent rest inductionHypothesis =>
      simp [DeparturesAnnounced, inductionHypothesis, and_assoc, Bool.or_assoc]

/-- Whom the departures among some frames are addressed to. -/
def departuresIn (frames : List Sent) : List Int :=
  (frames.filter Sent.isDeparture).map Sent.descriptor

theorem departuresIn_append (earlier later : List Sent) :
    departuresIn (earlier ++ later) = departuresIn earlier ++ departuresIn later := by
  simp [departuresIn]

/-- A server, and whether its slave has been announced to the master. -/
structure AnnouncedServer where
  server : Server
  announced : Bool

def AnnouncedServer.initial : AnnouncedServer := ⟨Server.initial, false⟩

section Law

variable (environment : Environment)

/-- The frames a step writes. -/
def Server.written (server : Server) (step : Step) : List Sent :=
  (server.step environment step).world.sent.drop server.world.sent.length

/-- The session once the request of a step has been carried out and before
it is answered. -/
def Server.carriedOut (server : Server) : Step → DuoSession
  | .serve slot incoming =>
      if server.answers (.serve slot incoming) then
        (incoming.handled environment server.world
          (server.clients.getD slot invalidSocket)).world.daemon.duo
      else server.world.daemon.duo
  | _ => server.world.daemon.duo

/-- Take a step, and note whether it announces a slave. -/
def AnnouncedServer.step (traced : AnnouncedServer) (step : Step) :
    AnnouncedServer :=
  let after := traced.server.step environment step
  ⟨after, after.world.daemon.duo.slaveSelected &&
      (traced.announced || (traced.server.written environment step).any Sent.isAttachment)⟩

/-- A master is told once about each slave role that ends under it, and only
about slaves it has been told of. -/
structure AnnouncedServer.Lawful
    (traced : AnnouncedServer) (step : Step) : Prop where
  told : departuresIn (traced.server.written environment step) =
      traced.server.world.daemon.duo.ended
          (traced.server.carriedOut environment step) ++
        (traced.server.carriedOut environment step).ended
          (traced.server.step environment step).world.daemon.duo
  announced : DeparturesAnnounced traced.announced (traced.server.written environment step)

/-- A client becomes the slave, or gives that role up, and the response to
its request cannot be written. -/
def Server.RoleChangeUnheard (server : Server) : Step → Prop
  | .serve slot incoming =>
      0 ≤ server.clients.getD slot invalidSocket ∧
        incoming.command.Notifies environment server.world
          (server.clients.getD slot invalidSocket) ∧
        ((∃ acquire, incoming.command = .duoAcquire acquire) ∨ incoming.command = .duoRelease) ∧
        server.world.result environment .socketWrite ≠ 0
  | _ => False

end Law

/-! ### Requests that notify nobody -/

section Silent

variable (environment : Environment) {world : World} {descriptor : Int}
  {clients : List Int}

theorem serveDuoAcquire_silent {acquire : DuoAcquireRequest} (sound : world.holdings.Sound clients)
    (silent : (serveDuoAcquire environment world descriptor acquire).notifies = false) :
    let session :=
      (serveDuoAcquire environment world descriptor acquire).world.daemon.duo
    world.daemon.duo.SameRoles session ∨
      (world.daemon.duo.slaveSelected = false ∧ session.slaveSelected = false) := by
  have same := congrArg Ledger.duo (resolveDuoIdentity_ledger environment world acquire)
  revert silent
  simp only [serveDuoAcquire]
  split_ifs
  · exact fun _ => .inl (.refl _)
  · exact fun _ => .inl (.refl _)
  · split
    · exact fun _ => .inl (by rw [Handled.reply_world, same]; exact .refl _)
    · simp only [acquireDuoRole, same]
      have transition := duoTransition_apply world.daemon.duo
          (.acquire descriptor (requestedRole acquire) acquire.tuner acquire.sampleRateHz)
      simp only [DuoOp.apply] at transition
      generalize openrspdDuoAcquire world.daemon.duo descriptor
        (requestedRole acquire) acquire.tuner acquire.sampleRateHz = returned at transition
      generalize requestedRole acquire = role at transition
      cases transition with
      | refused _ result refused =>
          intro _
          simp only [DuoReturn.refuse, refused, if_false, Handled.reply_world, same]
          exact .inl (.refl _)
      | reacquired => exact fun _ => .inl (.refl _)
      | masterAcquired _ _ _ _ _ _ _ vacant =>
          exact fun _ => .inr ⟨vacant, vacant⟩
      | slaveAttached _ _ _ _ _ hasMaster =>
          intro silent
          have addressed : 0 ≤ world.daemon.duo.masterFd := sound.wellFormed.masterFdValid hasMaster
          simp [Handled.notifies, Handled.notify, emitEvent, addressed] at silent

theorem CommandHoldings.sameRoles
    {holdings after : Holdings} {command : Command}
    (effect : CommandHoldings descriptor holdings command after)
    (notAcquire : ∀ acquire, command ≠ .duoAcquire acquire)
    (notRelease : command ≠ .duoRelease) :
    holdings.duo.SameRoles after.duo := by
  cases effect with
  | duoAcquired => exact absurd rfl (notAcquire _)
  | duoReleased => exact absurd rfl notRelease
  | duoChanged _ _ same => exact same
  | _ => exact .refl _

theorem serveDuoRelease_silent (valid : 0 ≤ descriptor) (sound : world.holdings.Sound clients)
    (silent : (serveDuoRelease environment world descriptor).notifies = false) :
    let session :=
      (serveDuoRelease environment world descriptor).world.daemon.duo
    world.daemon.duo.SameRoles session ∨
      (world.daemon.duo.slaveSelected = false ∧ session.slaveSelected = false) := by
  intro session
  have effect := serveDuoRelease_holdings environment world descriptor
  generalize after :
    (serveDuoRelease environment world descriptor).world.holdings = holdings at effect
  have left : session = holdings.duo := congrArg Holdings.duo after
  rw [left]
  cases effect with
  | kept => exact .inl (.refl _)
  | duoChanged _ _ same => exact .inl same
  | duoReleased returned active _ transition =>
      cases transition with
      | refused => exact .inl (.refl _)
      | masterReleased _ _ _ vacant => exact .inr ⟨vacant, rfl⟩
      | slaveDetached _ isSlave stopped =>
          have notMaster := sound.wellFormed.slave_not_master isSlave
          have role :
              duoRoleDescriptor world.daemon descriptor = .slave := by
            have inSession : world.daemon.duoActive = true := active
            have first : descriptorIsMaster world.daemon.duo descriptor = false := notMaster
            have second : descriptorIsSlave world.daemon.duo descriptor = true := isSlave
            simp [duoRoleDescriptor, inSession, openrspdDuoRoleForDescriptor, first, second]
          have notifies := (serveDuoRelease_notifies environment valid sound).mpr ⟨role, stopped⟩
          exact absurd (silent.symm.trans notifies) Bool.false_ne_true

/-- A request that notifies nobody ends no slave's role and makes nobody the
slave. -/
theorem Incoming.handled_silent {incoming : Incoming}
    (valid : 0 ≤ descriptor) (sound : world.holdings.Sound clients)
    (silent : (incoming.handled environment world descriptor).notifies = false) :
    let session :=
      (incoming.handled environment world descriptor).world.daemon.duo
    world.daemon.duo.SameRoles session ∨
      (world.daemon.duo.slaveSelected = false ∧ session.slaveSelected = false) := by
  cases incoming with
  | request sequence command =>
      by_cases isRelease : command = .duoRelease
      · subst isRelease
        exact serveDuoRelease_silent environment valid sound silent
      by_cases isAcquire : ∃ acquire, command = .duoAcquire acquire
      · obtain ⟨acquire, rfl⟩ := isAcquire
        exact serveDuoAcquire_silent environment sound silent
      exact .inl ((dispatch_commandHoldings environment world descriptor
        command valid sound).sameRoles (fun acquire same => isAcquire ⟨acquire, same⟩) isRelease)
  | _ => exact .inl (.refl _)

end Silent

/-! ### What the events say -/

namespace PlainFrames

variable {frames : List Sent}

theorem not_departure (plain : PlainFrames frames) :
    ∀ sent ∈ frames, sent.isDeparture = false := by
  intro sent member
  have notDuo := plain sent member
  unfold Sent.isDeparture
  split <;> simp_all [Frame.isDuo]

theorem departures (plain : PlainFrames frames) :
    departuresIn frames = [] := by
  simp only [departuresIn, List.map_eq_nil_iff, List.filter_eq_nil_iff]
  intro sent member
  simp [plain.not_departure sent member]

theorem attachments (plain : PlainFrames frames) :
    frames.any Sent.isAttachment = false := by
  simp only [List.any_eq_false]
  intro sent member
  have notDuo := plain sent member
  unfold Sent.isAttachment
  split <;> simp_all [Frame.isDuo]

/-- Frames that are no events do not matter to the announcements. -/
theorem departuresAnnounced_iff (plain : PlainFrames frames)
    (announced : Bool) (later : List Sent) :
    DeparturesAnnounced announced (frames ++ later) ↔
      DeparturesAnnounced announced later := by
  rw [departuresAnnounced_append, plain.attachments, Bool.or_false]
  exact and_iff_right (departuresAnnounced_of_none plain.not_departure announced)

end PlainFrames

/-- A request is answered with frames that are no events, and then with its
event, if it has one and the response was written. -/
theorem Answered.shape
    {environment : Environment} {descriptor : Int} {sequence : UInt32}
    {command : Command} {handled : Handled} {result : Int}
    {written : List Sent}
    (answer : Answered environment descriptor sequence command handled result written)
    (orderly : handled.Orderly command) :
    ∃ frames events, written = frames ++ events ∧ PlainFrames frames ∧
      ((handled.world.result environment .socketWrite = 0 ∧
          handled.notifies = true ∧
          ∃ delivered, events = [handled.event delivered]) ∨
        (events = [] ∧ (handled.notifies = false ∨
            (handled.world.result environment .socketWrite ≠ 0 ∧ result = -1)))) := by
  have response (delivered : Bool) :
      PlainFrames [⟨descriptor, handled.response sequence, delivered⟩] := by
    simp [PlainFrames, Handled.response, Frame.isDuo]
  have listed {records : List Sent} (own : RecordsTo descriptor records) :
      PlainFrames (⟨descriptor, handled.response sequence, true⟩ :: records) := by
    intro sent member
    rcases List.mem_cons.mp member with rfl | member
    · rfl
    · obtain ⟨-, _, _, isRecord⟩ := own sent member
      rw [isRecord]
      rfl
  cases answer with
  | unheard fails =>
      exact ⟨_, [], by simp, response false, .inr ⟨rfl, .inr ⟨fails, rfl⟩⟩⟩
  | cut heard isList own =>
      exact ⟨_, [], by simp, listed own, .inr ⟨rfl, .inl (orderly.list isList)⟩⟩
  | peerUnheard heard notifies =>
      exact ⟨_, [handled.event false], rfl, response true, .inl ⟨heard, notifies, false, rfl⟩⟩
  | told heard notifies =>
      exact ⟨_, [handled.event true], rfl, response true, .inl ⟨heard, notifies, true, rfl⟩⟩
  | untold heard silent own =>
      exact ⟨_, [], by simp, listed own, .inr ⟨rfl, .inl silent⟩⟩

section Events

variable {descriptor : Int} {before after : DuoSession} {command : Command}
  {event : DuoEvent}

/-- The event of a request tells the master what it does to the slave. -/
theorem Notified.told (notified : Notified descriptor before command after event)
    (wellFormed : before.WellFormed) (delivered : Bool) :
    departuresIn
        [⟨event.targetFd, .duo event.kind event.tuner, delivered⟩] =
      before.ended after := by
  cases notified with
  | attached _ vacant => exact (DuoSession.ended_of_none vacant).symm
  | masterStarted _ _ same => exact same.ended.symm
  | slaveStarted _ same => exact same.ended.symm
  | slaveStopped _ same => exact same.ended.symm
  | detached isSlave =>
      have selected := (selected_of_descriptorIsSlave isSlave).1
      rw [wellFormed.ended_withoutSlave selected]
      rfl

theorem Notified.sameRoles (notified : Notified descriptor before command after event)
    (notAcquire : ∀ acquire, command ≠ .duoAcquire acquire)
    (notRelease : command ≠ .duoRelease) :
    before.SameRoles after := by
  cases notified with
  | attached => exact absurd rfl (notAcquire _)
  | masterStarted _ _ same => exact same
  | slaveStarted _ same => exact same
  | slaveStopped _ same => exact same
  | detached => exact absurd rfl notRelease

/-- The first event about a slave is its attachment. -/
theorem Notified.attaches (notified : Notified descriptor before command after event)
    (vacant : before.slaveSelected = false) (delivered : Bool) :
    let sent : Sent :=
      ⟨event.targetFd, .duo event.kind event.tuner, delivered⟩
    sent.isAttachment = true ∧ sent.isDeparture = false ∧
      descriptorIsSlave after descriptor = true := by
  have noSlave (isSlave : descriptorIsSlave before descriptor = true) :
      False := by
    simp [(selected_of_descriptorIsSlave isSlave).1] at vacant
  cases notified with
  | attached _ _ _ _ _ isSlave => exact ⟨rfl, rfl, isSlave⟩
  | masterStarted _ selected => simp [selected] at vacant
  | slaveStarted isSlave => exact (noSlave isSlave).elim
  | slaveStopped isSlave => exact (noSlave isSlave).elim
  | detached isSlave => exact (noSlave isSlave).elim

/-- A removal tells the master what it does to the slave. -/
theorem Departed.told
    {holdings : Holdings} {clients : List Int} {departure : List Sent}
    (departed : Departed holdings.duo descriptor departure)
    (sound : holdings.Sound clients) (valid : 0 ≤ descriptor) :
    departuresIn departure = holdings.duo.ended (holdings.remove descriptor).duo := by
  have removed := sound.removedOnly valid
  cases departed with
  | stranger notMaster notSlave =>
      rw [(removed.strangerLeaves notMaster notSlave).1, DuoSession.ended_self]
      rfl
  | slave delivered _ isSlave =>
      have selected := (selected_of_descriptorIsSlave isSlave).1
      rw [(removed.slaveLeaves isSlave).1, sound.wellFormed.ended_withoutSlave selected]
      rfl
  | loneMaster isMaster =>
      rw [(removed.masterLeaves isMaster).1, DuoSession.ended_of_masterless rfl]
      rfl
  | master delivered isMaster =>
      rw [(removed.masterLeaves isMaster).1, DuoSession.ended_of_masterless rfl]
      rfl

theorem Departed.of_slave {departure : List Sent} (departed : Departed before descriptor departure)
    (wellFormed : before.WellFormed)
    (isSlave : descriptorIsSlave before descriptor = true) :
    ∃ delivered,
      departure = [⟨before.masterFd, .duo .slaveDllDisappeared before.slaveTuner, delivered⟩] := by
  have notMaster := wellFormed.slave_not_master isSlave
  cases departed with
  | stranger _ notSlave =>
      exact absurd (notSlave.symm.trans isSlave) Bool.false_ne_true
  | slave delivered => exact ⟨delivered, rfl⟩
  | loneMaster isMaster =>
      exact absurd (notMaster.symm.trans isMaster) Bool.false_ne_true
  | master _ isMaster =>
      exact absurd (notMaster.symm.trans isMaster) Bool.false_ne_true

/-- Without a slave there is no departure. -/
theorem Departed.of_vacant {departure : List Sent} (departed : Departed before descriptor departure)
    (vacant : before.slaveSelected = false) :
    ∀ sent ∈ departure, sent.isDeparture = false := by
  cases departed with
  | stranger => simp
  | loneMaster => simp
  | slave _ _ isSlave =>
      simp [(selected_of_descriptorIsSlave isSlave).1] at vacant
  | master _ _ selected => simp [selected] at vacant

/-- A removal gives nobody the slave's role. -/
theorem Holdings.Sound.remove_slave
    {holdings : Holdings} {clients : List Int}
    (sound : holdings.Sound clients) (valid : 0 ≤ descriptor)
    (stays : (holdings.remove descriptor).duo.slaveSelected = true) :
    holdings.duo.slaveSelected = true ∧ descriptorIsSlave holdings.duo descriptor = false := by
  have removed := sound.removedOnly valid
  by_cases isMaster : descriptorIsMaster holdings.duo descriptor = true
  · rw [(removed.masterLeaves isMaster).1] at stays
    simp [openrspdDuoSessionInit] at stays
  by_cases isSlave : descriptorIsSlave holdings.duo descriptor = true
  · rw [(removed.slaveLeaves isSlave).1] at stays
    simp [DuoSession.withoutSlave] at stays
  · rw [(removed.strangerLeaves (by simpa using isMaster) (by simpa using isSlave)).1] at stays
    exact ⟨stays, by simpa using isSlave⟩

end Events

/-! ## The law, step by step -/

/-- A step that answers a request: the event it writes, what it writes about
a client it removes, and the session it leaves. -/
structure AnsweredStep
    (environment : Environment) (server : Server) (descriptor : Int)
    (handled : Handled) (step : Step) (events departure : List Sent) :
    Prop where
  written :
    ∃ frames, PlainFrames frames ∧ server.written environment step = frames ++ (events ++ departure)
  events : (server.world.result environment .socketWrite = 0 ∧
        handled.notifies = true ∧
        ∃ delivered, events = [handled.event delivered]) ∨
      (events = [] ∧ (handled.notifies = false ∨ server.world.result environment .socketWrite ≠ 0))
  left : (server.world.result environment .socketWrite = 0 ∧ departure = [] ∧
        (server.step environment step).world.daemon.duo = handled.world.daemon.duo) ∨
      ((server.step environment step).world.daemon.duo =
          (handled.world.holdings.remove descriptor).duo ∧
        Departed handled.world.daemon.duo descriptor departure)

section Answered

variable (environment : Environment) {server : Server} {slot : Nat}
  {incoming : Incoming}

theorem answeredStep_of_answers (sound : server.Sound)
    (answers : server.answers (.serve slot incoming) = true) :
    ∃ events departure, AnsweredStep environment server
        (server.clients.getD slot invalidSocket)
        (incoming.handled environment server.world (server.clients.getD slot invalidSocket))
        (.serve slot incoming) events departure := by
  obtain ⟨isValid, answered⟩ := Bool.and_eq_true_iff.mp answers
  have valid : 0 ≤ server.clients.getD slot invalidSocket := of_decide_eq_true isValid
  obtain ⟨first, -, -⟩ :=
    World.result_of_outgoing environment (incoming.handled_outgoing environment valid sound)
  obtain ⟨written, sent, served⟩ := serveClient_served environment valid sound answered
  have dropped :
      server.written environment (.serve slot incoming) = written := by
    simp only [Server.written, Server.step]
    rw [sent, List.drop_left]
  have orderly := incoming.handled_orderly environment valid sound
  cases served with
  | stays answer holdings =>
      obtain ⟨frames, events, shape, plain, outcome⟩ := answer.shape orderly
      rw [first] at outcome
      refine ⟨events, [], ⟨frames, plain, by simpa [shape] using dropped⟩,
        ?_, .inl ⟨?_, rfl, congrArg Holdings.duo holdings⟩⟩
      · rcases outcome with told | ⟨none, silent | ⟨-, failed⟩⟩
        · exact .inl told
        · exact .inr ⟨none, .inl silent⟩
        · simp at failed
      · cases answer with
        | told heard => exact first.symm.trans heard
        | untold heard => exact first.symm.trans heard
  | @removed result written departure answer failed holdings departed =>
      obtain ⟨frames, events, shape, plain, outcome⟩ := answer.shape orderly
      rw [first] at outcome
      refine ⟨events, departure,
        ⟨frames, plain, by simpa [shape] using dropped⟩, ?_,
        .inr ⟨congrArg Holdings.duo holdings, departed⟩⟩
      rcases outcome with told | ⟨none, silent | ⟨unheard, -⟩⟩
      · exact .inl told
      · exact .inr ⟨none, .inl silent⟩
      · exact .inr ⟨none, .inr unheard⟩

variable {descriptor : Int} {events departure : List Sent}

variable {environment} in
/-- The slave's role after a request that is not heard to change it. -/
theorem AnsweredStep.unchanged (answered : AnsweredStep environment server descriptor
        (incoming.handled environment server.world descriptor)
        (.serve slot incoming) events departure)
    (valid : 0 ≤ descriptor) (sound : server.Sound)
    (none : events = [])
    (heard : incoming.command.Notifies environment server.world descriptor →
        ((∃ acquire, incoming.command = .duoAcquire acquire) ∨
          incoming.command = .duoRelease) →
          server.world.result environment .socketWrite = 0) :
    let session :=
      (incoming.handled environment server.world descriptor).world.daemon.duo
    server.world.daemon.duo.SameRoles session ∨
      (server.world.daemon.duo.slaveSelected = false ∧ session.slaveSelected = false) := by
  rcases answered.events with ⟨-, -, delivered, event⟩ | ⟨-, unheard⟩
  · simp [event] at none
  by_cases notifies : (incoming.handled environment server.world descriptor).notifies = true
  · have silent := unheard.resolve_left fun silent =>
        absurd (silent.symm.trans notifies) Bool.false_ne_true
    have condition := (incoming.handled_notifies environment valid sound).mp notifies
    have keeps := fun changes => silent (heard condition changes)
    exact .inl
      ((Incoming.handled_notified environment valid sound
        notifies).sameRoles
          (fun acquire same => keeps (.inl ⟨acquire, same⟩))
          (fun same => keeps (.inr same)))
  · exact Incoming.handled_silent environment valid sound (by simpa using notifies)

variable {environment} in
/-- What is written about the request itself. -/
theorem AnsweredStep.told (answered : AnsweredStep environment server descriptor
        (incoming.handled environment server.world descriptor)
        (.serve slot incoming) events departure)
    (valid : 0 ≤ descriptor) (sound : server.Sound)
    (heard : incoming.command.Notifies environment server.world descriptor →
        ((∃ acquire, incoming.command = .duoAcquire acquire) ∨
          incoming.command = .duoRelease) →
          server.world.result environment .socketWrite = 0) :
    departuresIn events = server.world.daemon.duo.ended
        (incoming.handled environment server.world descriptor).world.daemon.duo := by
  rcases answered.events with ⟨-, notifies, delivered, rfl⟩ | ⟨none, -⟩
  · exact (Incoming.handled_notified environment valid sound notifies).told
      sound.wellFormed delivered
  · rcases answered.unchanged valid sound none heard with same | vacant
    · rw [none, same.ended]
      rfl
    · rw [none, DuoSession.ended_of_none vacant.1]
      rfl

variable {environment} in
/-- What is written about a client that is removed. -/
theorem AnsweredStep.departed
    {handled : Handled} {step : Step} {clients : List Int}
    (answered : AnsweredStep environment server descriptor handled step events departure)
    (valid : 0 ≤ descriptor)
    (sound : handled.world.holdings.Sound clients) :
    departuresIn departure =
      handled.world.daemon.duo.ended (server.step environment step).world.daemon.duo := by
  rcases answered.left with ⟨-, none, same⟩ | ⟨removed, departed⟩
  · rw [none, same, DuoSession.ended_self]
    rfl
  · rw [removed]
    exact departed.told sound valid

variable {environment} in
/-- A master that knows of no slave is told of one before it is told that
the slave is gone. -/
theorem AnsweredStep.announced (answered : AnsweredStep environment server descriptor
        (incoming.handled environment server.world descriptor)
        (.serve slot incoming) events departure)
    (valid : 0 ≤ descriptor) (sound : server.Sound)
    (vacant : server.world.daemon.duo.slaveSelected = false)
    (heard : incoming.command.Notifies environment server.world descriptor →
        ((∃ acquire, incoming.command = .duoAcquire acquire) ∨
          incoming.command = .duoRelease) →
          server.world.result environment .socketWrite = 0) :
    DeparturesAnnounced false (events ++ departure) := by
  rcases answered.events with ⟨-, notifies, delivered, rfl⟩ | ⟨none, -⟩
  · obtain ⟨attaches, stays, -⟩ :=
      (Incoming.handled_notified environment valid sound notifies).attaches vacant delivered
    refine ⟨fun departs => ?_, ?_⟩
    · exact absurd (stays.symm.trans departs) Bool.false_ne_true
    · have told : (false || ((incoming.handled environment server.world
            descriptor).event delivered).isAttachment) = true := attaches
      rw [told]
      exact departuresAnnounced_true departure
  · have stillVacant : (incoming.handled environment server.world
          descriptor).world.daemon.duo.slaveSelected = false := by
      rcases answered.unchanged valid sound none heard with same | both
      · exact same.slaveSelected.trans vacant
      · exact both.2
    rw [none, List.nil_append]
    refine departuresAnnounced_of_none ?_ false
    rcases answered.left with ⟨-, gone, -⟩ | ⟨-, departed⟩
    · simp [gone]
    · exact departed.of_vacant stillVacant

end Answered

/-- Only a request that is answered notifies anybody. -/
theorem Command.Notifies.isAnswered
    {environment : Environment} {world : World} {descriptor : Int}
    {incoming : Incoming}
    (notifies : incoming.command.Notifies environment world descriptor) :
    incoming.isAnswered = true := by
  cases incoming with
  | request => rfl
  | _ => exact notifies.elim

/-! ### The invariant -/

/-- A slave that is still there between two steps has been announced. -/
structure AnnouncedServer.Sound (traced : AnnouncedServer) : Prop where
  server : traced.server.Sound
  announced : traced.announced = traced.server.world.daemon.duo.slaveSelected

section Invariant

variable (environment : Environment)

theorem serve_attachment {server : Server} (sound : server.Sound)
    {slot : Nat} {incoming : Incoming}
    (answers : server.answers (.serve slot incoming) = true)
    (vacant : server.world.daemon.duo.slaveSelected = false)
    (selected :
      (server.step environment (.serve slot incoming)).world.daemon.duo.slaveSelected = true) :
    (server.written environment (.serve slot incoming)).any Sent.isAttachment = true := by
  let client := server.clients.getD slot invalidSocket
  let handled := incoming.handled environment server.world client
  have valid : 0 ≤ client := of_decide_eq_true (Bool.and_eq_true_iff.mp answers).1
  have grantedSound : handled.world.holdings.Sound server.clients :=
    (incoming.handled_holdings environment valid sound).request.sound
      (mem_of_valid_slot valid) sound
  obtain ⟨events, departure, answered⟩ := answeredStep_of_answers environment sound answers
  have granted : handled.world.daemon.duo.slaveSelected = true := by
    rcases answered.left with ⟨-, -, same⟩ | ⟨removed, -⟩
    · exact same ▸ selected
    · rw [removed] at selected
      exact (grantedSound.remove_slave valid selected).1
  have notifies : handled.notifies = true := by
    by_contra silent
    rcases Incoming.handled_silent environment valid sound (by simpa using silent) with same | both
    · have stillVacant := same.slaveSelected.trans vacant
      exact absurd (stillVacant.symm.trans granted) Bool.false_ne_true
    · exact absurd (both.2.symm.trans granted) Bool.false_ne_true
  have notified := Incoming.handled_notified environment valid sound notifies
  rcases answered.events with ⟨-, -, delivered, event⟩ | ⟨-, unheard⟩
  · obtain ⟨attaches, -, -⟩ := notified.attaches vacant delivered
    obtain ⟨frames, -, written⟩ := answered.written
    have told : (handled.event delivered).isAttachment = true := attaches
    refine List.any_eq_true.mpr ⟨_, ?_, told⟩
    rw [written, event]
    exact List.mem_append_right _ (List.mem_append_left _ List.mem_cons_self)
  · -- an unheard response removes the slave that has just been made
    have lost := unheard.resolve_left fun silent =>
      absurd (silent.symm.trans notifies) Bool.false_ne_true
    rcases answered.left with ⟨heard, -, -⟩ | ⟨removed, -⟩
    · exact absurd heard lost
    · rw [removed] at selected
      have other := (grantedSound.remove_slave valid selected).2
      have isSlave := (notified.attaches vacant false).2.2
      exact absurd (other.symm.trans isSlave) Bool.false_ne_true

/-- A step that leaves a slave where there was none has announced it. -/
theorem written_attachment {server : Server} (sound : server.Sound) (step : Step)
    (vacant : server.world.daemon.duo.slaveSelected = false)
    (selected : (server.step environment step).world.daemon.duo.slaveSelected = true) :
    (server.written environment step).any Sent.isAttachment = true := by
  by_cases answers : server.answers step = true
  · cases step with
    | serve slot incoming =>
        exact serve_attachment environment sound answers vacant selected
    | _ => simp [Server.answers] at answers
  · obtain ⟨written, -, unanswered⟩ := step_unanswered environment sound (by simpa using answers)
    cases unanswered with
    | plain same =>
        rw [same, vacant] at selected
        simp at selected
    | removal valid holdings =>
        have session := congrArg Holdings.duo holdings
        have stays :
            (server.world.holdings.remove _).duo.slaveSelected = true :=
          (congrArg DuoSession.slaveSelected session).symm.trans selected
        have was := (sound.remove_slave valid stays).1
        exact absurd (vacant.symm.trans was) Bool.false_ne_true

theorem AnnouncedServer.Sound.step (traced : AnnouncedServer) (step : Step)
    (sound : traced.Sound) : (traced.step environment step).Sound where
  server := Server.Sound.step environment traced.server step sound.server
  announced := by
    simp only [AnnouncedServer.step]
    by_cases selected : (traced.server.step environment step).world.daemon.duo.slaveSelected = true
    · rw [selected, Bool.true_and, sound.announced, Bool.or_eq_true]
      by_cases was : traced.server.world.daemon.duo.slaveSelected = true
      · exact .inl was
      · exact .inr (written_attachment environment sound.server step (by simpa using was) selected)
    · simp [selected]

theorem announcedSound_run (steps : List Step) :
    (runSteps (AnnouncedServer.step environment) AnnouncedServer.initial steps).Sound :=
  invariant_of_steps (AnnouncedServer.Sound.step environment) steps ⟨sound_initial, rfl⟩

end Invariant

/-! ## When the law holds -/

section Lawful

variable {environment : Environment} {traced : AnnouncedServer}

theorem lawful_of_unanswered (sound : traced.Sound) {step : Step}
    (silent : traced.server.answers step = false) :
    traced.Lawful environment step := by
  have carriedOut : traced.server.carriedOut environment step =
        traced.server.world.daemon.duo := by
    cases step with
    | serve slot incoming =>
        simp only [Server.carriedOut, silent, Bool.false_eq_true, if_false]
    | _ => rfl
  obtain ⟨written, sent, unanswered⟩ := step_unanswered environment sound.server silent
  have dropped : traced.server.written environment step = written := by
    rw [Server.written, sent, List.drop_left]
  cases unanswered with
  | plain same plain =>
      constructor
      · rw [dropped, carriedOut, same, DuoSession.ended_self, plain.departures]
        rfl
      · rw [dropped]
        exact departuresAnnounced_of_none plain.not_departure _
  | removal valid holdings departed =>
      have session := congrArg Holdings.duo holdings
      constructor
      · rw [dropped, carriedOut, DuoSession.ended_self, List.nil_append,
          departed.told sound.server valid]
        exact congrArg (DuoSession.ended _) session.symm
      · rw [dropped, sound.announced]
        by_cases selected : traced.server.world.daemon.duo.slaveSelected = true
        · rw [selected]
          exact departuresAnnounced_true written
        · exact departuresAnnounced_of_none (departed.of_vacant (by simpa using selected)) _

variable {slot : Nat} {incoming : Incoming}

theorem lawful_of_answered (sound : traced.Sound)
    (answers : traced.server.answers (.serve slot incoming) = true)
    (heard : ¬ traced.server.RoleChangeUnheard environment (.serve slot incoming)) :
    traced.Lawful environment (.serve slot incoming) := by
  let client := traced.server.clients.getD slot invalidSocket
  have valid : 0 ≤ client := of_decide_eq_true (Bool.and_eq_true_iff.mp answers).1
  have changesHeard
      (notifies : incoming.command.Notifies environment traced.server.world client)
      (changes :
        (∃ acquire, incoming.command = .duoAcquire acquire) ∨ incoming.command = .duoRelease) :
      traced.server.world.result environment .socketWrite = 0 := by
    by_contra lost
    exact heard ⟨valid, notifies, changes, lost⟩
  have grantedSound := (incoming.handled_holdings environment valid sound.server).request.sound
      (mem_of_valid_slot valid) sound.server
  have carriedOut : traced.server.carriedOut environment (.serve slot incoming) =
        (incoming.handled environment traced.server.world client).world.daemon.duo := by
    simp only [Server.carriedOut, answers, if_true]
    rfl
  obtain ⟨events, departure, answered⟩ := answeredStep_of_answers environment sound.server answers
  obtain ⟨frames, plain, written⟩ := answered.written
  constructor
  · rw [written, departuresIn_append, departuresIn_append,
      plain.departures, List.nil_append, carriedOut,
      answered.told valid sound.server changesHeard,
      answered.departed valid grantedSound]
  · rw [written, plain.departuresAnnounced_iff, sound.announced]
    by_cases selected : traced.server.world.daemon.duo.slaveSelected = true
    · rw [selected]
      exact departuresAnnounced_true _
    · rw [Bool.eq_false_of_not_eq_true selected]
      exact answered.announced valid sound.server (by simpa using selected) changesHeard

theorem not_lawful_of_unheard (sound : traced.Sound)
    (unheard : traced.server.RoleChangeUnheard environment (.serve slot incoming)) :
    ¬ traced.Lawful environment (.serve slot incoming) := by
  intro lawful
  let client := traced.server.clients.getD slot invalidSocket
  let handled := incoming.handled environment traced.server.world client
  obtain ⟨valid, condition, changes, lost⟩ := unheard
  have answers : traced.server.answers (.serve slot incoming) = true :=
    Bool.and_eq_true_iff.mpr ⟨decide_eq_true valid, condition.isAnswered⟩
  have grantedSound : handled.world.holdings.Sound traced.server.clients :=
    (incoming.handled_holdings environment valid sound.server).request.sound
      (mem_of_valid_slot valid) sound.server
  have notified := Incoming.handled_notified environment valid sound.server
      ((incoming.handled_notifies environment valid sound.server).mpr condition)
  obtain ⟨events, departure, answered⟩ := answeredStep_of_answers environment sound.server answers
  obtain ⟨frames, plain, written⟩ := answered.written
  have none : events = [] := by
    rcases answered.events with ⟨heard, -⟩ | ⟨none, -⟩
    · exact absurd heard lost
    · exact none
  rw [none, List.nil_append] at written
  rcases changes with ⟨acquire, isAcquire⟩ | isRelease
  · -- the slave disappears without ever having been announced
    rw [isAcquire] at notified
    obtain ⟨vacant, isSlave⟩ := notified.makesSlave
    have departed : Departed handled.world.daemon.duo client departure := by
      rcases answered.left with ⟨heard, -⟩ | ⟨-, departed⟩
      · exact absurd heard lost
      · exact departed
    obtain ⟨delivered, rfl⟩ := departed.of_slave grantedSound.wellFormed isSlave
    have announced := lawful.announced
    rw [written, plain.departuresAnnounced_iff, sound.announced] at announced
    exact absurd (vacant.symm.trans (announced.1 rfl)) Bool.false_ne_true
  · -- the slave has left and nobody has told the master
    rw [isRelease] at notified
    obtain ⟨isSlave, released⟩ := notified.detaches
    have selected := (selected_of_descriptorIsSlave isSlave).1
    have carriedOut : traced.server.carriedOut environment (.serve slot incoming) =
          handled.world.daemon.duo := by
      simp only [Server.carriedOut, answers, if_true]
      rfl
    have told := lawful.told
    rw [written, departuresIn_append, plain.departures, List.nil_append,
      carriedOut, answered.departed valid grantedSound] at told
    have silent :
        traced.server.world.daemon.duo.ended handled.world.daemon.duo = [] :=
      List.self_eq_append_left.mp told
    rw [show handled.world.daemon.duo = _ from released] at silent
    have ended := sound.server.wellFormed.ended_withoutSlave selected
    exact absurd (ended.symm.trans silent) (by simp)

end Lawful

/-- In every reachable state and for every step, the master is told about
its slave as it should be, exactly unless the response to a request that
makes or releases the slave cannot be written. -/
theorem master_told_unless_role_change_unheard
    (environment : Environment) (steps : List Step) (step : Step) :
    let traced :=
      runSteps (AnnouncedServer.step environment) AnnouncedServer.initial steps
    traced.Lawful environment step ↔ ¬ traced.server.RoleChangeUnheard environment step := by
  intro traced
  have sound : traced.Sound := announcedSound_run environment steps
  constructor
  · intro lawful unheard
    cases step with
    | serve slot incoming =>
        exact not_lawful_of_unheard sound unheard lawful
    | _ => exact unheard
  · intro heard
    by_cases answers : traced.server.answers step = true
    · cases step with
      | serve slot incoming => exact lawful_of_answered sound answers heard
      | _ => simp [Server.answers] at answers
    · exact lawful_of_unanswered sound (by simpa using answers)

/-- The slave releases its role, the response cannot be written, and the
master is never told. -/
theorem unheard_release_never_told :
    let released : AnnouncedServer :=
      runSteps (AnnouncedServer.step (failingWrite 3))
        AnnouncedServer.initial (masterAndGuest ++ [.serve 1 attachSlave])
    let release : Step := .serve 1 (.request 3 .duoRelease)
    released.server.world.daemon.duo.slaveSelected = true ∧
      (released.server.step (failingWrite 3) release).world.daemon.duo.slaveSelected = false ∧
      (released.server.step (failingWrite 3) release).world.daemon.duo.masterFd = 5 ∧
      released.server.written (failingWrite 3) release = [⟨6, .response 3 .ok 0, false⟩] ∧
      ¬ released.Lawful (failingWrite 3) release := by
  intro released release
  refine ⟨by decide +kernel, by decide +kernel, by decide +kernel,
    by decide +kernel, fun lawful => ?_⟩
  exact absurd lawful.told (by decide +kernel)

/-- The other way round: the master is told that a slave is gone of which it
has never been told. -/
example :
    let attached : AnnouncedServer :=
      runSteps (AnnouncedServer.step (failingWrite 1)) AnnouncedServer.initial masterAndGuest
    attached.announced = false ∧ attached.server.written (failingWrite 1) (.serve 1 attachSlave) =
        [⟨6, .response 2 .ok 0, false⟩, ⟨5, .duo .slaveDllDisappeared tunerB, true⟩] := by
  decide +kernel

end OpenRsp
