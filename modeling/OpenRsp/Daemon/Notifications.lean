import OpenRsp.Daemon.Trace
import OpenRsp.DuoSessionEvents

/-!
# When a peer is notified

Which requests are followed by an event to the other role, and what the
removal of a client tells its peer.  Each is given as a condition on the
state in which the request arrives and on what the hardware will do.
-/

namespace OpenRsp

/-! ## Requests -/

section Conditions

variable (environment : Environment) (world : World) (descriptor : Int)

/-- `OPENRSP_CMD_DUO_ACQUIRE` makes its client the slave. -/
structure AttachesSlave (acquire : DuoAcquireRequest) : Prop where
  unowned : world.daemon.owner < 0
  role : acquire.role = duoRoleSlave
  receiver : acquire.identity.vendorId = 0x1df7 ∧ acquire.identity.productId = 0x3020
  active : world.daemon.duoActive = true
  identity : duoIdentityEqual world.daemon.acquiredIdentity acquire.identity = true
  vacant : world.daemon.duo.slaveSelected = false
  granted : (openrspdDuoAcquire world.daemon.duo descriptor .slave acquire.tuner
      acquire.sampleRateHz).result = .ok

/-- The two stored configurations fit together and the hardware takes
them. -/
def SharedConfigTaken (before : World) : Prop :=
  (duoPrepareConfig before.daemon).1 = 0 ∧ (configureDualRadio environment
      (before.modify fun _ => (duoPrepareConfig before.daemon).2)
      (duoPrepareConfig before.daemon).2.duoConfig).1 = .ok

/-- `OPENRSP_CMD_DUO_START` of the master is accepted. -/
structure StartsMaster : Prop where
  role : duoRoleDescriptor world.daemon descriptor = .master
  stopped : world.daemon.duo.masterInitialised = false
  taken : SharedConfigTaken environment
      (world.modify fun daemon =>
        { daemon with
          duo := { daemon.duo with masterInitialised := true } })

/-- `OPENRSP_CMD_DUO_START` of the slave is accepted. -/
structure StartsSlave : Prop where
  role : duoRoleDescriptor world.daemon descriptor = .slave
  stopped : world.daemon.duo.slaveInitialised = false
  master : world.daemon.duo.masterInitialised = true
  radio : world.daemon.radio ≠ none
  configured : world.daemon.configured = true

/-- The requests that are followed by an event to the peer. -/
def Command.Notifies : Command → Prop
  | .duoAcquire request => AttachesSlave world descriptor request
  | .duoStart =>
      (StartsMaster environment world descriptor ∧
          world.daemon.duo.slaveSelected = true) ∨
        StartsSlave world descriptor
  | .duoStop =>
      duoRoleDescriptor world.daemon descriptor = .slave ∧ world.daemon.duo.slaveInitialised = true
  | .duoRelease =>
      duoRoleDescriptor world.daemon descriptor = .slave ∧ world.daemon.duo.slaveInitialised = false
  | _ => False

end Conditions

/-- The event a request is followed by, given the session before and after
it. -/
inductive Notified (descriptor : Int) (before : DuoSession) :
    Command → DuoSession → DuoEvent → Prop
  | attached {acquire : DuoAcquireRequest} {after : DuoSession} :
      before.masterSelected = true → before.slaveSelected = false →
      before.masterFd ≠ descriptor →
      after.masterSelected = true → after.masterFd = before.masterFd →
      descriptorIsSlave after descriptor = true →
      Notified descriptor before (.duoAcquire acquire) after
        (emitEvent .slaveAttached before.masterFd descriptor acquire.tuner)
  | masterStarted {after : DuoSession} :
      descriptorIsMaster before descriptor = true →
      before.slaveSelected = true → before.SameRoles after →
      Notified descriptor before .duoStart after
        (emitEvent .masterInitialised before.slaveFd descriptor before.slaveTuner)
  | slaveStarted {after : DuoSession} :
      descriptorIsSlave before descriptor = true →
      before.SameRoles after →
      Notified descriptor before .duoStart after
        (emitEvent .slaveInitialised before.masterFd descriptor before.slaveTuner)
  | slaveStopped {after : DuoSession} :
      descriptorIsSlave before descriptor = true →
      before.SameRoles after →
      Notified descriptor before .duoStop after
        (emitEvent .slaveUninitialised before.masterFd descriptor before.slaveTuner)
  | detached :
      descriptorIsSlave before descriptor = true →
      Notified descriptor before .duoRelease before.withoutSlave
        (emitEvent .slaveDetached before.masterFd descriptor before.slaveTuner)

theorem Notified.detaches
    {descriptor : Int} {before after : DuoSession} {event : DuoEvent}
    (notified : Notified descriptor before .duoRelease after event) :
    descriptorIsSlave before descriptor = true ∧ after = before.withoutSlave := by
  cases notified with
  | detached isSlave => exact ⟨isSlave, rfl⟩

theorem Notified.makesSlave
    {descriptor : Int} {before after : DuoSession} {event : DuoEvent}
    {acquire : DuoAcquireRequest}
    (notified : Notified descriptor before (.duoAcquire acquire) after event) :
    before.slaveSelected = false ∧ descriptorIsSlave after descriptor = true := by
  cases notified with
  | attached _ vacant _ _ _ isSlave => exact ⟨vacant, isSlave⟩

section Requests

variable (environment : Environment) {world : World} {descriptor : Int}

@[simp]
theorem Handled.reply_notifies (status : Status) :
    (Handled.reply world status).notifies = false := by
  simp [Handled.notifies, Handled.reply, clearEvent]

theorem Handled.notifies_iff {handled : Handled} : handled.notifies = true ↔
      handled.status = .ok ∧ handled.duoEvent.kind ≠ .none ∧ 0 ≤ handled.duoEvent.targetFd := by
  simp [Handled.notifies]

/-- A role that is taken again or by the master notifies nobody. -/
theorem openrspdDuoAcquire_attaches
    {session : DuoSession} {role : DuoRole} {tuner rate : UInt32}
    (emits : (openrspdDuoAcquire session descriptor role tuner rate).event.kind ≠ .none) :
    role = .slave ∧ session.masterSelected = true ∧
      session.slaveSelected = false ∧ session.masterFd ≠ descriptor ∧
      openrspdDuoAcquire session descriptor role tuner rate = ⟨.ok,
          { session with
            slaveFd := descriptor
            slaveTuner := tuner
            slaveSelected := true
            slaveInitialised := false },
          emitEvent .slaveAttached session.masterFd descriptor tuner⟩ := by
  have transition := duoTransition_apply session (.acquire descriptor role tuner rate)
  simp only [DuoOp.apply] at transition
  generalize openrspdDuoAcquire session descriptor role tuner rate = returned at transition emits
  cases transition with
  | refused => exact absurd rfl emits
  | reacquired => exact absurd rfl emits
  | masterAcquired => exact absurd rfl emits
  | slaveAttached _ _ _ _ _ hasMaster vacant other =>
      exact ⟨rfl, hasMaster, vacant, other, rfl⟩

/-- A vacant slave role that is granted is announced. -/
theorem openrspdDuoAcquire_announces
    {session : DuoSession} {tuner rate : UInt32}
    (vacant : session.slaveSelected = false)
    (granted : (openrspdDuoAcquire session descriptor .slave tuner rate).result = .ok) :
    (openrspdDuoAcquire session descriptor .slave tuner rate).event.kind = .slaveAttached := by
  have isSlave : DuoRole.slave ≠ .master := by decide
  unfold openrspdDuoAcquire acquireSlave at granted ⊢
  simp only [isSlave, if_false, vacant, Bool.false_eq_true] at granted ⊢
  split_ifs at granted ⊢ <;> first | rfl | simp [DuoReturn.refuse] at granted

theorem resolveDuoIdentity_slave {acquire : DuoAcquireRequest}
    (role : acquire.role = duoRoleSlave) {index : UInt32}
    (resolved : (resolveDuoIdentity environment world acquire).1 = some index) :
    (acquire.identity.vendorId = 0x1df7 ∧
        acquire.identity.productId = 0x3020) ∧
      world.daemon.duoActive = true ∧
      duoIdentityEqual world.daemon.acquiredIdentity acquire.identity =
        true := by
  have notMaster : ¬ duoRoleSlave = duoRoleMaster := by decide
  simp only [resolveDuoIdentity, role, notMaster, and_false, if_false] at resolved
  split_ifs at resolved with refused
  simp only [not_or, not_not, Bool.not_eq_false] at refused
  exact ⟨⟨refused.1, refused.2.1⟩, refused.2.2.1, refused.2.2.2.2⟩

theorem AttachesSlave.serves
    {acquire : DuoAcquireRequest} {clients : List Int}
    (attaches : AttachesSlave world descriptor acquire)
    (sound : world.holdings.Sound clients) :
    serveDuoAcquire environment world descriptor acquire =
      acquireDuoRole world descriptor acquire 0 := by
  have selected : world.daemon.duo.masterSelected = true := sound.active.mp attaches.active
  have notMaster : ¬ duoRoleSlave = duoRoleMaster := by decide
  have unowned : ¬ 0 ≤ world.daemon.owner := by
    have := attaches.unowned
    omega
  have resolved :
      resolveDuoIdentity environment world acquire = (some 0, world) := by
    simp [resolveDuoIdentity, attaches.role, notMaster, attaches.receiver,
      attaches.active, attaches.identity, selected]
  simp only [serveDuoAcquire, resolved, unowned, attaches.role, notMaster]
  simp

theorem serveDuoAcquire_notifies
    {acquire : DuoAcquireRequest} {clients : List Int}
    (sound : world.holdings.Sound clients) :
    (serveDuoAcquire environment world descriptor acquire).notifies =
        true ↔
      AttachesSlave world descriptor acquire := by
  constructor
  · intro notifies
    simp only [serveDuoAcquire] at notifies
    split_ifs at notifies with held unknownRole
    · simp at notifies
    · simp at notifies
    · split at notifies
      · simp at notifies
      · rename_i index resolved
        have same := congrArg Ledger.duo (resolveDuoIdentity_ledger environment world acquire)
        simp only [acquireDuoRole, same] at notifies
        split_ifs at notifies with granted
        · obtain ⟨-, emits, -⟩ := Handled.notifies_iff.mp notifies
          obtain ⟨isSlave, -, vacant, -⟩ := openrspdDuoAcquire_attaches emits
          have role : acquire.role = duoRoleSlave := by
            by_contra notSlave
            refine unknownRole ⟨fun isMaster => ?_, notSlave⟩
            simp [requestedRole, isMaster] at isSlave
          obtain ⟨receiver, active, identity⟩ := resolveDuoIdentity_slave environment role resolved
          rw [isSlave] at granted
          simp only [not_or, not_le] at held
          exact ⟨held.1, role, receiver, active, identity, vacant, granted⟩
        · simp at notifies
  · intro attaches
    have notMaster : ¬ duoRoleSlave = duoRoleMaster := by decide
    have isSlave : requestedRole acquire = .slave := by
      simp [requestedRole, attaches.role, notMaster]
    have announced := openrspdDuoAcquire_announces attaches.vacant attaches.granted
    have emits : (openrspdDuoAcquire world.daemon.duo descriptor .slave
          acquire.tuner acquire.sampleRateHz).event.kind ≠ .none := by
      rw [announced]
      decide
    obtain ⟨-, selected, -, -, returned⟩ := openrspdDuoAcquire_attaches emits
    have addressed := sound.wellFormed.masterFdValid selected
    rw [attaches.serves environment sound]
    simp only [acquireDuoRole, isSlave, attaches.granted, if_true,
      Handled.notifies, Handled.notify, Handled.reply, decide_eq_true_eq]
    refine ⟨trivial, emits, ?_⟩
    rw [returned]
    exact addressed

theorem AttachesSlave.notified
    {acquire : DuoAcquireRequest} {clients : List Int}
    (attaches : AttachesSlave world descriptor acquire)
    (sound : world.holdings.Sound clients) :
    let handled := serveDuoAcquire environment world descriptor acquire
    Notified descriptor world.daemon.duo (.duoAcquire acquire)
      handled.world.daemon.duo handled.duoEvent := by
  have notMaster : ¬ duoRoleSlave = duoRoleMaster := by decide
  have isSlave : requestedRole acquire = .slave := by
    simp [requestedRole, attaches.role, notMaster]
  have emits : (openrspdDuoAcquire world.daemon.duo descriptor .slave
        acquire.tuner acquire.sampleRateHz).event.kind ≠ .none := by
    rw [openrspdDuoAcquire_announces attaches.vacant attaches.granted]
    decide
  obtain ⟨-, selected, vacant, other, returned⟩ := openrspdDuoAcquire_attaches emits
  rw [attaches.serves environment sound]
  simp only [acquireDuoRole, isSlave, returned, if_true, Handled.notify,
    Handled.reply, World.modify_daemon, grantDuo]
  exact .attached selected vacant other selected rfl (by simp [descriptorIsSlave])

/-- The status of a started master: its event plays no part. -/
theorem startMaster_status (before : World) (event : DuoEvent) :
    (startMaster environment before event).status = .ok ↔
      SharedConfigTaken environment before := by
  simp only [startMaster, SharedConfigTaken]
  split_ifs with unprepared taken
  · simp [unprepared]
  · exact iff_of_true rfl ⟨not_not.mp unprepared, taken⟩
  · exact iff_of_false taken fun both => taken both.2

theorem startMaster_event {before : World} {event : DuoEvent}
    (accepted : (startMaster environment before event).status = .ok) :
    (startMaster environment before event).duoEvent = event := by
  revert accepted
  simp only [startMaster]
  split_ifs <;> simp [Handled.notify, Handled.startDuoStream]

theorem openrspdDuoInitialise_of_master {session : DuoSession} (valid : 0 ≤ descriptor)
    (isMaster : descriptorIsMaster session descriptor = true)
    (stopped : session.masterInitialised = false) :
    openrspdDuoInitialise session descriptor = ⟨.ok, { session with masterInitialised := true },
        if session.slaveSelected then
          emitEvent .masterInitialised session.slaveFd descriptor session.slaveTuner
        else clearEvent⟩ := by
  simp [openrspdDuoInitialise, validDescriptor, valid, isMaster, stopped]

theorem openrspdDuoInitialise_of_slave {session : DuoSession} (valid : 0 ≤ descriptor)
    (notMaster : descriptorIsMaster session descriptor = false)
    (isSlave : descriptorIsSlave session descriptor = true) :
    openrspdDuoInitialise session descriptor =
      if session.slaveInitialised then .refuse .busy session
      else if session.masterInitialised = false then
        .refuse .startPending session
      else
        ⟨.ok, { session with slaveInitialised := true },
          emitEvent .slaveInitialised session.masterFd descriptor session.slaveTuner⟩ := by
  simp [openrspdDuoInitialise, validDescriptor, valid, notMaster, isSlave]

theorem serveDuoStart_master (valid : 0 ≤ descriptor)
    (role : duoRoleDescriptor world.daemon descriptor = .master)
    (stopped : world.daemon.duo.masterInitialised = false) :
    serveDuoStart environment world descriptor = startMaster environment
        (world.modify fun daemon =>
          { daemon with
            duo := { daemon.duo with masterInitialised := true } })
        (if world.daemon.duo.slaveSelected then
          emitEvent .masterInitialised world.daemon.duo.slaveFd descriptor
            world.daemon.duo.slaveTuner
        else clearEvent) := by
  have started := openrspdDuoInitialise_of_master valid (duoRoleDescriptor_master role) stopped
  simp only [serveDuoStart, withDuoRole, role, started]
  simp [World.modify]

theorem serveDuoStart_master_notifies {clients : List Int}
    (valid : 0 ≤ descriptor) (sound : world.holdings.Sound clients)
    (role : duoRoleDescriptor world.daemon descriptor = .master) :
    (serveDuoStart environment world descriptor).notifies = true ↔
      StartsMaster environment world descriptor ∧ world.daemon.duo.slaveSelected = true := by
  by_cases stopped : world.daemon.duo.masterInitialised = false
  · have status (event : DuoEvent) := startMaster_status environment
        (world.modify fun daemon =>
          { daemon with
            duo := { daemon.duo with masterInitialised := true } }) event
    rw [serveDuoStart_master environment valid role stopped]
    constructor
    · intro notifies
      obtain ⟨accepted, emits, -⟩ := Handled.notifies_iff.mp notifies
      refine ⟨⟨role, stopped, (status _).mp accepted⟩, ?_⟩
      by_contra alone
      rw [startMaster_event environment accepted, if_neg alone] at emits
      exact emits rfl
    · rintro ⟨starts, selected⟩
      have accepted := (status
        (emitEvent .masterInitialised world.daemon.duo.slaveFd descriptor
          world.daemon.duo.slaveTuner)).mpr starts.taken
      rw [if_pos selected]
      refine Handled.notifies_iff.mpr ⟨accepted, ?_⟩
      rw [startMaster_event environment accepted]
      exact ⟨by simp [emitEvent], sound.wellFormed.slaveFdValid selected⟩
  · have started : world.daemon.duo.masterInitialised = true := by
      simpa using stopped
    have isMaster := duoRoleDescriptor_master role
    have refused :
        openrspdDuoInitialise world.daemon.duo descriptor = .refuse .busy world.daemon.duo := by
      simp [openrspdDuoInitialise, validDescriptor, valid, isMaster, started]
    constructor
    · intro notifies
      simp [serveDuoStart, withDuoRole, role, refused, DuoReturn.refuse] at notifies
    · rintro ⟨starts, -⟩
      exact absurd starts.stopped stopped

theorem serveDuoStart_slave (valid : 0 ≤ descriptor)
    (role : duoRoleDescriptor world.daemon descriptor = .slave) :
    serveDuoStart environment world descriptor =
      if world.daemon.duo.slaveInitialised then
        .reply world (duoResultStatus .busy)
      else if world.daemon.duo.masterInitialised = false then
        .reply world (duoResultStatus .startPending)
      else
        startSlave
          (world.modify fun daemon =>
            { daemon with
              duo := { daemon.duo with slaveInitialised := true } })
          (emitEvent .slaveInitialised world.daemon.duo.masterFd descriptor
            world.daemon.duo.slaveTuner) := by
  obtain ⟨notMaster, isSlave⟩ := duoRoleDescriptor_slave role
  have started := openrspdDuoInitialise_of_slave valid notMaster isSlave
  simp only [serveDuoStart, withDuoRole, role, started]
  split_ifs <;> simp [DuoReturn.refuse, World.modify] at *

theorem serveDuoStart_slave_notifies {clients : List Int}
    (valid : 0 ≤ descriptor) (sound : world.holdings.Sound clients)
    (role : duoRoleDescriptor world.daemon descriptor = .slave) :
    (serveDuoStart environment world descriptor).notifies = true ↔
      StartsSlave world descriptor := by
  obtain ⟨-, isSlave⟩ := duoRoleDescriptor_slave role
  have addressed := (sound.wellFormed.addressedToMaster isSlave .slaveInitialised
      world.daemon.duo.slaveTuner world.daemon.duo).valid
  rw [serveDuoStart_slave environment valid role]
  constructor
  · intro notifies
    split_ifs at notifies with started waiting
    · simp at notifies
    · simp at notifies
    · simp only [startSlave] at notifies
      split_ifs at notifies with unusable
      · simp at notifies
      · simp only [World.modify_daemon, not_or, Bool.not_eq_false] at unusable
        exact ⟨role, by simpa using started, by simpa using waiting, unusable.1, unusable.2⟩
  · intro starts
    simp only [starts.stopped, starts.master, startSlave,
      World.modify_daemon, starts.radio, starts.configured]
    simp only [Bool.false_eq_true, Bool.true_eq_false, or_self, if_false,
      Handled.notifies, Handled.notify, Handled.reply, decide_eq_true_eq]
    exact ⟨trivial, by simp [emitEvent], addressed⟩

theorem DuoSession.SameRoles.refl (session : DuoSession) :
    session.SameRoles session :=
  ⟨rfl, rfl, rfl, rfl, id⟩

theorem serveDuoStart_sameRoles :
    world.daemon.duo.SameRoles (serveDuoStart environment world descriptor).world.daemon.duo := by
  have effect := serveDuoStart_holdings environment world descriptor
  generalize after :
    (serveDuoStart environment world descriptor).world.holdings = holdings at effect
  have session := congrArg Holdings.duo after
  simp only [World.holdings, Ledger.holdings] at session
  rw [session]
  cases effect with
  | kept => exact .refl _
  | duoChanged _ _ same => exact same

theorem serveDuoStart_notified {clients : List Int}
    (valid : 0 ≤ descriptor) (sound : world.holdings.Sound clients)
    (notifies : (serveDuoStart environment world descriptor).notifies = true) :
    let handled := serveDuoStart environment world descriptor
    Notified descriptor world.daemon.duo .duoStart handled.world.daemon.duo handled.duoEvent := by
  intro handled
  have same : world.daemon.duo.SameRoles handled.world.daemon.duo :=
    serveDuoStart_sameRoles environment
  cases role : duoRoleDescriptor world.daemon descriptor with
  | none => simp [serveDuoStart, withDuoRole, role] at notifies
  | master =>
      obtain ⟨starts, selected⟩ :=
        (serveDuoStart_master_notifies environment valid sound role).mp notifies
      have serves := serveDuoStart_master environment valid role starts.stopped
      rw [if_pos selected] at serves
      have event : handled.duoEvent =
            emitEvent .masterInitialised world.daemon.duo.slaveFd descriptor
              world.daemon.duo.slaveTuner := by
        simp only [handled, serves]
        exact startMaster_event environment ((startMaster_status environment _ _).mpr starts.taken)
      rw [event]
      exact .masterStarted (duoRoleDescriptor_master role) selected same
  | slave =>
      have starts := (serveDuoStart_slave_notifies environment valid sound role).mp notifies
      have event : handled.duoEvent =
            emitEvent .slaveInitialised world.daemon.duo.masterFd descriptor
              world.daemon.duo.slaveTuner := by
        simp [handled, serveDuoStart_slave environment valid role,
          starts.stopped, starts.master, startSlave, starts.radio,
          starts.configured, Handled.notify]
      rw [event]
      exact .slaveStarted (duoRoleDescriptor_slave role).2 same

theorem serveDuoStart_notifies {clients : List Int}
    (valid : 0 ≤ descriptor) (sound : world.holdings.Sound clients) :
    (serveDuoStart environment world descriptor).notifies = true ↔
      (StartsMaster environment world descriptor ∧
          world.daemon.duo.slaveSelected = true) ∨
        StartsSlave world descriptor := by
  cases role : duoRoleDescriptor world.daemon descriptor with
  | none =>
      constructor
      · intro notifies
        simp [serveDuoStart, withDuoRole, role] at notifies
      · rintro (⟨starts, -⟩ | starts)
        · simpa [role] using starts.role
        · simpa [role] using starts.role
  | master =>
      rw [serveDuoStart_master_notifies environment valid sound role]
      refine ⟨.inl, ?_⟩
      rintro (both | starts)
      · exact both
      · have other := role.symm.trans starts.role
        simp at other
  | slave =>
      rw [serveDuoStart_slave_notifies environment valid sound role]
      refine ⟨.inr, ?_⟩
      rintro (⟨starts, -⟩ | starts)
      · have other := role.symm.trans starts.role
        simp at other
      · exact starts

/-! ### Stopping and releasing -/

theorem serveDuoStop_slave (valid : 0 ≤ descriptor)
    (role : duoRoleDescriptor world.daemon descriptor = .slave) :
    serveDuoStop environment world descriptor =
      if world.daemon.duo.slaveInitialised then
        (Handled.reply
          (world.modify fun daemon =>
            { daemon with
              duo := { daemon.duo with slaveInitialised := false } })
          .ok).notify
          (emitEvent .slaveUninitialised world.daemon.duo.masterFd
            descriptor world.daemon.duo.slaveTuner)
      else .reply world (duoResultStatus .invalid) := by
  obtain ⟨notMaster, isSlave⟩ := duoRoleDescriptor_slave role
  have stopped : openrspdDuoUninitialise world.daemon.duo descriptor =
        if world.daemon.duo.slaveInitialised then
          ⟨.ok, { world.daemon.duo with slaveInitialised := false },
            emitEvent .slaveUninitialised world.daemon.duo.masterFd
              descriptor world.daemon.duo.slaveTuner⟩
        else .refuse .invalid world.daemon.duo := by
    by_cases started : world.daemon.duo.slaveInitialised = true <;>
      simp [openrspdDuoUninitialise, validDescriptor, valid, notMaster, isSlave, started]
  have notMasterRole : ¬ DuoRole.slave = .master := by decide
  simp only [serveDuoStop, withDuoRole, role, stopped, notMasterRole, and_false, if_false]
  split_ifs <;> rfl

theorem serveDuoStop_master_silent (role : duoRoleDescriptor world.daemon descriptor = .master) :
    (serveDuoStop environment world descriptor).notifies = false := by
  have isMaster := duoRoleDescriptor_master role
  have quiet :
      (openrspdDuoUninitialise world.daemon.duo descriptor).event.kind = .none := by
    simp only [openrspdDuoUninitialise, isMaster, if_true]
    split_ifs <;> rfl
  simp only [serveDuoStop, withDuoRole, role]
  split_ifs <;> simp [Handled.notifies, Handled.notify, quiet]

theorem serveDuoStop_notifies {clients : List Int}
    (valid : 0 ≤ descriptor) (sound : world.holdings.Sound clients) :
    (serveDuoStop environment world descriptor).notifies = true ↔
      duoRoleDescriptor world.daemon descriptor = .slave ∧
        world.daemon.duo.slaveInitialised = true := by
  cases role : duoRoleDescriptor world.daemon descriptor with
  | none => simp [serveDuoStop, withDuoRole, role]
  | master => simp [serveDuoStop_master_silent environment role]
  | slave =>
      obtain ⟨-, isSlave⟩ := duoRoleDescriptor_slave role
      have addressed := (sound.wellFormed.addressedToMaster isSlave .slaveUninitialised
          world.daemon.duo.slaveTuner world.daemon.duo).valid
      rw [serveDuoStop_slave environment valid role]
      by_cases started : world.daemon.duo.slaveInitialised = true
      · simp only [started, if_true, and_self, iff_true]
        exact Handled.notifies_iff.mpr ⟨rfl, by simp [Handled.notify, emitEvent], addressed⟩
      · simp [started]

theorem serveDuoRelease_slave (valid : 0 ≤ descriptor)
    (role : duoRoleDescriptor world.daemon descriptor = .slave)
    (selected : world.daemon.duo.masterSelected = true) :
    serveDuoRelease environment world descriptor =
      if world.daemon.duo.slaveInitialised then
        .reply world (duoResultStatus .busy)
      else
        (Handled.reply
          (world.modify fun daemon =>
            { daemon with
              duo := daemon.duo.withoutSlave
              deviceSnapshotValid := false })
          .ok).notify
          (emitEvent .slaveDetached world.daemon.duo.masterFd descriptor
            world.daemon.duo.slaveTuner) := by
  obtain ⟨notMaster, isSlave⟩ := duoRoleDescriptor_slave role
  have released : openrspdDuoRelease world.daemon.duo descriptor =
        if world.daemon.duo.slaveInitialised then
          .refuse .busy world.daemon.duo
        else
          ⟨.ok, world.daemon.duo.withoutSlave,
            emitEvent .slaveDetached world.daemon.duo.masterFd descriptor
              world.daemon.duo.slaveTuner⟩ := by
    simp [openrspdDuoRelease, validDescriptor, valid, notMaster, isSlave]
  simp only [serveDuoRelease, withDuoRole, role, released]
  split_ifs <;>
    simp_all [DuoReturn.refuse, World.modify, DuoSession.withoutSlave]

theorem serveDuoRelease_master_silent (role : duoRoleDescriptor world.daemon descriptor = .master) :
    (serveDuoRelease environment world descriptor).notifies = false := by
  have isMaster := duoRoleDescriptor_master role
  have quiet :
      (openrspdDuoRelease world.daemon.duo descriptor).event.kind = .none := by
    simp only [openrspdDuoRelease, isMaster, if_true]
    split_ifs <;> rfl
  simp only [serveDuoRelease, withDuoRole, role]
  split_ifs
  · simp
  · simp [Handled.notifies, Handled.notify, quiet]
  · simp [Handled.notifies, Handled.notify, quiet]

theorem serveDuoRelease_notifies {clients : List Int}
    (valid : 0 ≤ descriptor) (sound : world.holdings.Sound clients) :
    (serveDuoRelease environment world descriptor).notifies = true ↔
      duoRoleDescriptor world.daemon descriptor = .slave ∧
        world.daemon.duo.slaveInitialised = false := by
  cases role : duoRoleDescriptor world.daemon descriptor with
  | none => simp [serveDuoRelease, withDuoRole, role]
  | master => simp [serveDuoRelease_master_silent environment role]
  | slave =>
      obtain ⟨-, isSlave⟩ := duoRoleDescriptor_slave role
      have selected := sound.wellFormed.slaveHasMaster (selected_of_descriptorIsSlave isSlave).1
      have addressed := (sound.wellFormed.addressedToMaster isSlave .slaveDetached
          world.daemon.duo.slaveTuner world.daemon.duo).valid
      rw [serveDuoRelease_slave environment valid role selected]
      by_cases started : world.daemon.duo.slaveInitialised = true
      · simp [started]
      · simp only [started, Bool.false_eq_true, if_false, true_and]
        refine iff_of_true (Handled.notifies_iff.mpr
          ⟨rfl, by simp [Handled.notify, emitEvent], addressed⟩) ?_
        simp

/-! ### Every request -/

@[simp]
theorem Handled.restartStream_notifies (handled : Handled) (start onError : Bool) :
    (handled.restartStream start onError).notifies = handled.notifies :=
  rfl

@[simp]
theorem Handled.startDuoStream_notifies (handled : Handled) (start : Bool) :
    (handled.startDuoStream start).notifies = handled.notifies :=
  rfl

@[simp]
theorem Handled.queued_notifies :
    (Handled.queued world).notifies = false := by
  simp [Handled.queued, Handled.notifies, Handled.reply, clearEvent]

theorem swapRate_silent (rate : UInt32) :
    (swapRate environment world rate).notifies = false := by
  simp only [swapRate, swapRateStopped]
  split_ifs <;> simp

theorem serveDuoSwapRate_silent (rate : UInt32) :
    (serveDuoSwapRate environment world descriptor rate).notifies =
      false := by
  refine withDuoRole_outcome world descriptor _
    (fun handled => handled.notifies = false) (by simp)
    fun role _ _ _ => ?_
  split_ifs
  all_goals first | exact swapRate_silent environment rate | simp

/-- A request is followed by an event exactly under its condition. -/
theorem dispatch_notifies_iff {clients : List Int} (command : Command)
    (valid : 0 ≤ descriptor) (sound : world.holdings.Sound clients) :
    (dispatch environment world descriptor command).notifies = true ↔
      command.Notifies environment world descriptor := by
  cases command with
  | duoAcquire acquire => exact serveDuoAcquire_notifies environment sound
  | duoStart => exact serveDuoStart_notifies environment valid sound
  | duoStop => exact serveDuoStop_notifies environment valid sound
  | duoRelease => exact serveDuoRelease_notifies environment valid sound
  | duoSwapRate rate =>
      simp [dispatch, serveDuoSwapRate_silent, Command.Notifies]
  | list => simp [dispatch, serveList, Command.Notifies, Handled.notifies,
      Handled.reply, clearEvent]
  | _ =>
      simp only [Command.Notifies, iff_false, Bool.not_eq_true, dispatch,
        serveLockApi, serveUnlockApi, serveDuoConfigure, serveDuoUpdate,
        withDuoRole, serveAcquire, serveStart, serveStop, serveRelease,
        serveConfigure, serveConfigureDual, serveSwapTuner, serveSwapMode,
        rollBackMode, serveResumeMode, serveUpdate, serveUnrecognised]
      repeat' split
      all_goals simp

/-- The event a request is followed by. -/
theorem dispatch_notified {clients : List Int} {command : Command}
    (valid : 0 ≤ descriptor) (sound : world.holdings.Sound clients)
    (notifies : (dispatch environment world descriptor command).notifies = true) :
    let handled := dispatch environment world descriptor command
    Notified descriptor world.daemon.duo command handled.world.daemon.duo
      handled.duoEvent := by
  have condition := (dispatch_notifies_iff environment command valid sound).mp notifies
  cases command with
  | duoAcquire acquire =>
      exact AttachesSlave.notified environment condition sound
  | duoStart =>
      exact serveDuoStart_notified environment valid sound notifies
  | duoStop =>
      obtain ⟨role, started⟩ := condition
      simp only [dispatch, serveDuoStop_slave environment valid role, started, if_true]
      exact .slaveStopped (duoRoleDescriptor_slave role).2
        { masterFd := rfl
          slaveFd := rfl
          masterSelected := rfl
          slaveSelected := rfl
          wellFormed := fun wellFormed =>
            { wellFormed with
              slaveInitialisedNeedsMaster := by simp
              slaveCleared := fun vacant =>
                let cleared := wellFormed.slaveCleared vacant
                ⟨cleared.1, cleared.2.1, rfl⟩ } }
  | duoRelease =>
      obtain ⟨role, stopped⟩ := condition
      obtain ⟨-, isSlave⟩ := duoRoleDescriptor_slave role
      have selected := sound.wellFormed.slaveHasMaster (selected_of_descriptorIsSlave isSlave).1
      simp only [dispatch, serveDuoRelease_slave environment valid role selected, stopped]
      exact .detached isSlave
  | _ => exact condition.elim

/-- At most one thread is created, and a list notifies nobody. -/
theorem dispatch_orderly {clients : List Int} (command : Command)
    (valid : 0 ≤ descriptor) (sound : world.holdings.Sound clients) :
    (dispatch environment world descriptor command).Orderly command where
  duo begins := by
    have startsDuo : command.startsDuo = true := by
      by_contra quiet
      have none := dispatch_startsNoDuo environment world descriptor
          (by simpa using quiet : command.startsDuo = false)
      simp [none] at begins
    cases command with
    | duoStart =>
        exact ⟨by simp, dispatch_startsNoneAgain environment world descriptor rfl⟩
    | duoSwapRate rate =>
        exact ⟨by simp, dispatch_startsNoneAgain environment world descriptor rfl⟩
    | _ => simp [Command.startsDuo] at startsDuo
  plain := by
    rintro rfl
    exact dispatch_startsNoneAgain environment world descriptor rfl
  list := by
    rintro rfl
    by_contra notifies
    exact (dispatch_notifies_iff environment .list valid sound).mp (by simpa using notifies)

end Requests

/-! ## Removals -/

/-- What the removal of `descriptor` writes to its peer. -/
inductive Departed (session : DuoSession) (descriptor : Int) :
    List Sent → Prop
  | stranger :
      descriptorIsMaster session descriptor = false →
      descriptorIsSlave session descriptor = false →
      Departed session descriptor []
  | slave (delivered : Bool) :
      descriptorIsMaster session descriptor = false →
      descriptorIsSlave session descriptor = true →
      Departed session descriptor
        [⟨session.masterFd, .duo .slaveDllDisappeared session.slaveTuner, delivered⟩]
  | loneMaster :
      descriptorIsMaster session descriptor = true →
      session.slaveSelected = false →
      Departed session descriptor []
  | master (delivered : Bool) :
      descriptorIsMaster session descriptor = true →
      session.slaveSelected = true →
      Departed session descriptor
        [⟨session.slaveFd, .duo .masterDllDisappeared session.slaveTuner, delivered⟩]

section Removals

variable (environment : Environment) {world : World} {descriptor : Int}

theorem sendDuoEvent_sent
    {event : DuoEvent} (emits : event.kind ≠ .none)
    (valid : 0 ≤ event.targetFd) :
    (sendDuoEvent environment world event).2.sent = world.sent ++
        [⟨event.targetFd, .duo event.kind event.tuner,
          decide (world.result environment .socketWrite = 0)⟩] := by
  have addressed : ¬ event.targetFd < 0 := by omega
  simp [sendDuoEvent, emits, addressed, writeFrame]

theorem tearDownDuo_sent :
    (tearDownDuo environment world).sent = world.sent := by
  have stopped := congrArg Outgoing.sent (stopIfOpen_outgoing environment world)
  have closed (before : World) := congrArg Outgoing.sent (closeRadio_outgoing environment before)
  exact (closed _).trans stopped

theorem releaseDuoClient_sent : (releaseDuoClient environment world descriptor).sent =
      (sendDuoEvent environment
        (world.modify fun daemon =>
          { daemon with
            duo := (openrspdDuoDisconnect daemon.duo descriptor).session })
        (openrspdDuoDisconnect world.daemon.duo descriptor).event).2.sent := by
  simp only [releaseDuoClient]
  split
  · exact tearDownDuo_sent environment
  · rfl

theorem releaseClient_master_departed {clients : List Int}
    (valid : 0 ≤ descriptor) (sound : world.holdings.Sound clients)
    (isMaster : descriptorIsMaster world.daemon.duo descriptor = true) :
    ∃ written, Departed world.daemon.duo descriptor written ∧
      (releaseClient environment world descriptor).sent = world.sent ++ written := by
  have wellFormed : world.daemon.duo.WellFormed := sound.wellFormed
  have bothValid : validDescriptor descriptor = true := by
    simpa [validDescriptor] using valid
  have active : world.daemon.duoActive = true :=
    sound.active.mpr (selected_of_descriptorIsMaster isMaster).1
  have notSlave :
      descriptorIsSlave world.daemon.duo descriptor = false := by
    by_contra isSlave
    have other := wellFormed.slave_not_master (by simpa using isSlave)
    simp [isMaster] at other
  have released : releaseClient environment world descriptor =
        releaseDuoClient environment world descriptor := by
    simp [releaseClient, active, openrspdDuoRoleForDescriptor, isMaster]
  rw [released, releaseDuoClient_sent]
  by_cases attached : world.daemon.duo.slaveSelected = true
  · have event : (openrspdDuoDisconnect world.daemon.duo descriptor).event =
          emitEvent .masterDllDisappeared world.daemon.duo.slaveFd
            descriptor world.daemon.duo.slaveTuner := by
      simp [openrspdDuoDisconnect, bothValid, notSlave, isMaster, attached]
    refine ⟨_, .master (decide (world.result environment .socketWrite = 0)) isMaster attached, ?_⟩
    rw [event]
    exact sendDuoEvent_sent environment (by simp [emitEvent]) (wellFormed.slaveFdValid attached)
  · have event : (openrspdDuoDisconnect world.daemon.duo descriptor).event =
          clearEvent := by
      simp [openrspdDuoDisconnect, bothValid, notSlave, isMaster, attached]
    refine ⟨_, .loneMaster isMaster (by simpa using attached), ?_⟩
    rw [event]
    simp [sendDuoEvent, clearEvent]

theorem releaseClient_slave_departed {clients : List Int}
    (valid : 0 ≤ descriptor) (sound : world.holdings.Sound clients)
    (isSlave : descriptorIsSlave world.daemon.duo descriptor = true) :
    ∃ written, Departed world.daemon.duo descriptor written ∧
      (releaseClient environment world descriptor).sent = world.sent ++ written := by
  have wellFormed : world.daemon.duo.WellFormed := sound.wellFormed
  have bothValid : validDescriptor descriptor = true := by
    simpa [validDescriptor] using valid
  have notMaster := wellFormed.slave_not_master isSlave
  have selected := wellFormed.slaveHasMaster (selected_of_descriptorIsSlave isSlave).1
  have active : world.daemon.duoActive = true := sound.active.mpr selected
  have released : releaseClient environment world descriptor =
        releaseDuoClient environment world descriptor := by
    simp [releaseClient, active, openrspdDuoRoleForDescriptor, notMaster, isSlave]
  have event : (openrspdDuoDisconnect world.daemon.duo descriptor).event =
        emitEvent .slaveDllDisappeared world.daemon.duo.masterFd descriptor
          world.daemon.duo.slaveTuner := by
    simp [openrspdDuoDisconnect, bothValid, isSlave]
  refine ⟨_, .slave (decide (world.result environment .socketWrite = 0)) notMaster isSlave, ?_⟩
  rw [released, releaseDuoClient_sent, event]
  exact sendDuoEvent_sent environment (by simp [emitEvent]) (wellFormed.masterFdValid selected)

/-- What `release_client` writes. -/
theorem releaseClient_departed {clients : List Int}
    (valid : 0 ≤ descriptor) (sound : world.holdings.Sound clients) :
    ∃ written, Departed world.daemon.duo descriptor written ∧
      (releaseClient environment world descriptor).sent = world.sent ++ written := by
  by_cases isMaster : descriptorIsMaster world.daemon.duo descriptor = true
  · exact releaseClient_master_departed environment valid sound isMaster
  by_cases isSlave : descriptorIsSlave world.daemon.duo descriptor = true
  · exact releaseClient_slave_departed environment valid sound isSlave
  refine ⟨[], .stranger (by simpa using isMaster) (by simpa using isSlave), ?_⟩
  have noRole :
      openrspdDuoRoleForDescriptor world.daemon.duo descriptor = .none := by
    simp [openrspdDuoRoleForDescriptor, isMaster, isSlave]
  have owner := congrArg Outgoing.sent (releaseOwner_outgoing environment world)
  simp only [releaseClient, noRole, ne_eq, not_true_eq_false, and_false, if_false, List.append_nil]
  split
  · rfl
  · exact owner

theorem removeClient_departed {server : Server} {slot : Nat}
    (valid : 0 ≤ server.clients.getD slot invalidSocket)
    (sound : server.Sound) :
    ∃ written,
      Departed server.world.daemon.duo (server.clients.getD slot invalidSocket) written ∧
      (removeClient environment server slot).world.sent = server.world.sent ++ written := by
  obtain ⟨written, departed, sent⟩ := releaseClient_departed environment valid sound
  refine ⟨written, departed, ?_⟩
  have connected : ¬ server.clients.getD slot invalidSocket < 0 := by omega
  simp only [removeClient, connected, if_false, releaseApiLock]
  split
  · exact sent
  · exact sent

end Removals

/-! ## Serving a client -/

/-- The command a client is answered for; a bad header names none. -/
def Incoming.command : Incoming → Command
  | .request _ command => command
  | _ => .unknown

/-- The sequence number of the response. -/
def Incoming.sequence : Incoming → UInt32
  | .request sequence _ => sequence
  | .badHeader sequence => sequence
  | _ => 0

/-- Whether `serve_request` writes a response. -/
def Incoming.isAnswered : Incoming → Bool
  | .request _ _ => true
  | .badHeader _ => true
  | _ => false

section Serving

variable (environment : Environment)

/-- What the command branches do before the response is written. -/
def Incoming.handled (world : World) (descriptor : Int) : Incoming → Handled
  | .request _ command => dispatch environment world descriptor command
  | _ => .reply world .badRequest

/-- What serving a client that is answered does: the holdings it leaves and
the frames it writes. -/
inductive Served
    (server : Server) (descriptor : Int) (incoming : Incoming)
    (after : Server) : List Sent → Prop
  | stays {written : List Sent} :
      Answered environment descriptor incoming.sequence incoming.command
        (incoming.handled environment server.world descriptor) 1 written →
      after.world.holdings = (incoming.handled environment server.world descriptor).world.holdings →
      Served server descriptor incoming after written
  | removed {result : Int} {written departure : List Sent} :
      Answered environment descriptor incoming.sequence incoming.command
        (incoming.handled environment server.world descriptor) result
        written →
      result ≠ 1 →
      after.world.holdings =
        ((incoming.handled environment server.world descriptor).world.holdings).remove descriptor →
      Departed
        (incoming.handled environment server.world
          descriptor).world.daemon.duo descriptor departure →
      Served server descriptor incoming after (written ++ departure)

variable {world : World} {descriptor : Int} {clients : List Int}

theorem Incoming.serveRequest_eq {incoming : Incoming} (answered : incoming.isAnswered = true) :
    serveRequest environment world descriptor incoming =
      respond environment descriptor incoming.sequence incoming.command
        (incoming.handled environment world descriptor) := by
  cases incoming with
  | closed => simp [Incoming.isAnswered] at answered
  | unreadable => simp [Incoming.isAnswered] at answered
  | badHeader sequence => rfl
  | request sequence command => rfl

theorem Incoming.handled_orderly (incoming : Incoming)
    (valid : 0 ≤ descriptor) (sound : world.holdings.Sound clients) :
    (incoming.handled environment world descriptor).Orderly
      incoming.command := by
  cases incoming with
  | request sequence command =>
      exact dispatch_orderly environment command valid sound
  | _ => exact ⟨by simp [Incoming.handled, Handled.reply], fun _ => rfl,
      fun _ => Handled.reply_notifies _⟩

theorem Incoming.handled_outgoing (incoming : Incoming)
    (valid : 0 ≤ descriptor) (sound : world.holdings.Sound clients) :
    (incoming.handled environment world descriptor).world.outgoing =
      world.outgoing := by
  cases incoming with
  | request sequence command =>
      exact dispatch_outgoing environment world descriptor command valid sound
  | _ => rfl

theorem Incoming.handled_holdings (incoming : Incoming)
    (valid : 0 ≤ descriptor) (sound : world.holdings.Sound clients) :
    CommandHoldings descriptor world.holdings incoming.command
      (incoming.handled environment world descriptor).world.holdings := by
  cases incoming with
  | request sequence command =>
      exact dispatch_commandHoldings environment world descriptor command valid sound
  | _ => exact .kept

theorem Incoming.handled_notifies (incoming : Incoming)
    (valid : 0 ≤ descriptor) (sound : world.holdings.Sound clients) :
    (incoming.handled environment world descriptor).notifies = true ↔
      incoming.command.Notifies environment world descriptor := by
  cases incoming with
  | request sequence command =>
      exact dispatch_notifies_iff environment command valid sound
  | _ => simp [Incoming.handled, Incoming.command, Command.Notifies]

theorem Incoming.handled_notified {incoming : Incoming}
    (valid : 0 ≤ descriptor) (sound : world.holdings.Sound clients)
    (notifies : (incoming.handled environment world descriptor).notifies = true) :
    let handled := incoming.handled environment world descriptor
    Notified descriptor world.daemon.duo incoming.command
      handled.world.daemon.duo handled.duoEvent := by
  cases incoming with
  | request sequence command =>
      exact dispatch_notified environment valid sound notifies
  | _ => simp [Incoming.handled] at notifies

/-- Serving a client that is answered, from a sound server. -/
theorem serveClient_served {server : Server} {slot : Nat}
    (valid : 0 ≤ server.clients.getD slot invalidSocket)
    (sound : server.Sound) {incoming : Incoming}
    (answered : incoming.isAnswered = true) :
    ∃ written,
      (serveClient environment server slot incoming).world.sent = server.world.sent ++ written ∧
      Served environment server (server.clients.getD slot invalidSocket)
        incoming (serveClient environment server slot incoming)
        written := by
  let client := server.clients.getD slot invalidSocket
  let handled := incoming.handled environment server.world client
  let reply :=
    respond environment client incoming.sequence incoming.command handled
  have connected : ¬ client < 0 := by omega
  have replied :
      serveRequest environment server.world client incoming = reply :=
    Incoming.serveRequest_eq environment answered
  have holdings : reply.2.holdings = handled.world.holdings :=
    respond_holdings environment client incoming.sequence incoming.command handled
  have outgoing := congrArg Outgoing.sent (incoming.handled_outgoing environment valid sound)
  obtain ⟨written, sent, answer⟩ := respond_answered environment client incoming.sequence
      (incoming.handled_orderly environment valid sound)
  have repliedSent : reply.2.sent = server.world.sent ++ written :=
    sent.trans (congrArg (· ++ written) outgoing)
  by_cases completed : reply.1 = 1
  · have after : serveClient environment server slot incoming =
          { server with world := reply.2 } := by
      simp only [serveClient]
      rw [if_neg connected, replied, if_neg (not_not.mpr completed)]
    rw [after]
    refine ⟨written, repliedSent, .stays ?_ holdings⟩
    rw [← completed]
    exact answer
  · let left : Server := { server with world := reply.2 }
    have leftSound : left.Sound := by
      have served := sound.served environment slot incoming valid
      rw [replied] at served
      exact served
    have after : serveClient environment server slot incoming =
          removeClient environment left slot := by
      simp only [serveClient]
      rw [if_neg connected, replied, if_pos completed]
    have leftValid : 0 ≤ left.clients.getD slot invalidSocket := valid
    obtain ⟨departure, departed, leftSent⟩ := removeClient_departed environment leftValid leftSound
    have removed := removeClient_holdings environment leftSound leftValid
    have session : reply.2.daemon.duo = handled.world.daemon.duo := congrArg Holdings.duo holdings
    rw [after]
    refine ⟨written ++ departure, ?_, .removed answer completed ?_ ?_⟩
    · rw [leftSent, ← List.append_assoc]
      exact congrArg (· ++ departure) repliedSent
    · rw [removed]
      exact congrArg (Holdings.remove · client) holdings
    · rw [← session]
      exact departed

end Serving

/-! ## A session of two clients -/

/-- Client 5 is the master of a session, client 6 has just connected. -/
def masterAndGuest : List Step :=
  [.accept 5,
    .serve 0 (.request 1 (.duoAcquire ⟨receiverIdentity, duoRoleMaster, tunerA, 6000000⟩)),
    .accept 6]

/-- A request for the slave's role. -/
def attachSlave : Incoming := .request 2 (.duoAcquire ⟨receiverIdentity, duoRoleSlave, tunerB, 0⟩)

/-- One write fails, counted from zero. -/
def failingWrite (use : Nat) : Environment :=
  { oneReceiver with
    results := fun call count =>
      if call = .socketWrite ∧ count = use then 1 else 0 }

end OpenRsp
