import OpenRsp.Daemon.Ledger
import OpenRsp.DuoSessionInvariant

/-!
# Ownership

Who holds the receiver, the API lock and the two master/slave roles.  What a
request can do to these holdings is listed once, in `HoldingsRequest`; what
the removal of a client does is the function `Holdings.remove`.
-/

namespace OpenRsp

/-- The fields that name clients, and whether a session is active. -/
structure Holdings where
  owner : Int
  apiLockOwner : Int
  duo : DuoSession
  duoActive : Bool
deriving DecidableEq, Repr

/-- The holdings recorded in a ledger. -/
def Ledger.holdings (ledger : Ledger) : Holdings :=
  ⟨ledger.owner, ledger.apiLockOwner, ledger.duo, ledger.duoActive⟩

/-- The holdings in a world. -/
def World.holdings (world : World) : Holdings := world.daemon.toLedger.holdings

/-- Two sessions with the same roles held by the same clients. -/
structure DuoSession.SameRoles (before after : DuoSession) : Prop where
  masterFd : after.masterFd = before.masterFd
  slaveFd : after.slaveFd = before.slaveFd
  masterSelected : after.masterSelected = before.masterSelected
  slaveSelected : after.slaveSelected = before.slaveSelected
  wellFormed : before.WellFormed → after.WellFormed

/-- What a request of `descriptor` can do to the holdings. -/
inductive HoldingsRequest (descriptor : Int) (before : Holdings) :
    Holdings → Prop
  | kept : HoldingsRequest descriptor before before
  | locked :
      before.apiLockOwner < 0 ∨ before.apiLockOwner = descriptor →
      HoldingsRequest descriptor before
        { before with apiLockOwner := descriptor }
  | unlocked :
      before.apiLockOwner = descriptor →
      HoldingsRequest descriptor before { before with apiLockOwner := -1 }
  | acquired :
      before.duoActive = false → before.owner < 0 →
      HoldingsRequest descriptor before { before with owner := descriptor }
  | released :
      before.owner = descriptor →
      HoldingsRequest descriptor before { before with owner := -1 }
  | duoAcquired
      (role : DuoRole) (tuner rate : UInt32) (returned : DuoReturn) :
      before.owner < 0 → returned.result = .ok →
      DuoTransition before.duo (.acquire descriptor role tuner rate) returned →
      HoldingsRequest descriptor before
        { before with duo := returned.session, duoActive := true }
  | duoChanged (session : DuoSession) :
      before.duoActive = true → before.duo.SameRoles session →
      HoldingsRequest descriptor before { before with duo := session }
  | duoReleased (returned : DuoReturn) :
      before.duoActive = true → returned.result = .ok →
      DuoTransition before.duo (.release descriptor) returned →
      HoldingsRequest descriptor before
        { before with
          duo := returned.session
          duoActive := returned.session.masterSelected || returned.session.slaveSelected }

/-- The client `descriptor` gives up the receiver and its role. -/
def Holdings.leave (holdings : Holdings) (descriptor : Int) : Holdings :=
  let session :=
    if holdings.duoActive then
      (openrspdDuoDisconnect holdings.duo descriptor).session
    else holdings.duo
  { holdings with
    owner := if holdings.owner = descriptor then -1 else holdings.owner
    duo := session
    duoActive := holdings.duoActive && (session.masterSelected || session.slaveSelected) }

/-- The client `descriptor` gives up the API lock. -/
def Holdings.unlock (holdings : Holdings) (descriptor : Int) : Holdings :=
  { holdings with
    apiLockOwner :=
      if holdings.apiLockOwner = descriptor then -1
      else holdings.apiLockOwner }

/-- The holdings after the client `descriptor` has been removed. -/
def Holdings.remove (holdings : Holdings) (descriptor : Int) : Holdings :=
  (holdings.leave descriptor).unlock descriptor

/-- Exclusive ownership by connected clients. -/
structure Holdings.Sound (holdings : Holdings) (clients : List Int) :
    Prop where
  exclusive : holdings.duoActive = true → holdings.owner < 0
  active : holdings.duoActive = true ↔ holdings.duo.masterSelected = true
  wellFormed : holdings.duo.WellFormed
  ownerConnected : 0 ≤ holdings.owner → holdings.owner ∈ clients
  lockConnected : 0 ≤ holdings.apiLockOwner → holdings.apiLockOwner ∈ clients
  masterConnected : 0 ≤ holdings.duo.masterFd → holdings.duo.masterFd ∈ clients
  slaveConnected : 0 ≤ holdings.duo.slaveFd → holdings.duo.slaveFd ∈ clients

/-! ## Requests keep ownership sound -/

theorem HoldingsRequest.sound
    {descriptor : Int} {before after : Holdings} {clients : List Int}
    (request : HoldingsRequest descriptor before after)
    (connected : descriptor ∈ clients)
    (sound : before.Sound clients) :
    after.Sound clients := by
  cases request with
  | kept => exact sound
  | locked => exact { sound with lockConnected := fun _ => connected }
  | unlocked => exact { sound with lockConnected := by simp }
  | acquired inactive =>
      exact
        { sound with
          exclusive := by simp [inactive]
          ownerConnected := fun _ => connected }
  | released =>
      exact
        { sound with
          exclusive := fun _ => by simp
          ownerConnected := by simp }
  | duoAcquired role tuner rate returned noOwner granted transition =>
      have wellFormed := transition.wellFormed sound.wellFormed
      cases transition with
      | refused op result failed => exact absurd granted failed
      | reacquired _ _ _ _ holder =>
          have selected : before.duo.masterSelected = true := by
            rcases holder with isMaster | isSlave
            · exact (selected_of_descriptorIsMaster isMaster).1
            · exact sound.wellFormed.slaveHasMaster (selected_of_descriptorIsSlave isSlave).1
          exact
            { sound with
              exclusive := fun _ => noOwner
              active := by simpa [DuoReturn.refuse] using selected }
      | masterAcquired =>
          exact
            { sound with
              exclusive := fun _ => noOwner
              active := by simp
              wellFormed := wellFormed
              masterConnected := fun _ => connected }
      | slaveAttached _ _ _ _ _ hasMaster =>
          exact
            { sound with
              exclusive := fun _ => noOwner
              active := by simpa using hasMaster
              wellFormed := wellFormed
              slaveConnected := fun _ => connected }
  | duoChanged session active sameRoles =>
      exact
        { sound with
          active := by simpa [sameRoles.masterSelected] using sound.active
          wellFormed := sameRoles.wellFormed sound.wellFormed
          masterConnected := by
            simpa [sameRoles.masterFd] using sound.masterConnected
          slaveConnected := by
            simpa [sameRoles.slaveFd] using sound.slaveConnected }
  | duoReleased returned active granted transition =>
      have noOwner := sound.exclusive active
      have wellFormed := transition.wellFormed sound.wellFormed
      cases transition with
      | refused op result failed => exact absurd granted failed
      | masterReleased =>
          exact
            { sound with
              exclusive := fun _ => noOwner
              active := by simp [openrspdDuoSessionInit]
              wellFormed := wellFormed
              masterConnected := by simp [openrspdDuoSessionInit]
              slaveConnected := by simp [openrspdDuoSessionInit] }
      | slaveDetached =>
          exact
            { sound with
              exclusive := fun _ => noOwner
              active := by simp [DuoSession.withoutSlave]
              wellFormed := wellFormed
              slaveConnected := by simp [DuoSession.withoutSlave] }

/-- What each command of `descriptor` can do to the holdings. -/
inductive CommandHoldings (descriptor : Int) (before : Holdings) :
    Command → Holdings → Prop
  | kept {command : Command} :
      CommandHoldings descriptor before command before
  | locked :
      before.apiLockOwner < 0 ∨ before.apiLockOwner = descriptor →
      CommandHoldings descriptor before .lockApi
        { before with apiLockOwner := descriptor }
  | unlocked :
      before.apiLockOwner = descriptor →
      CommandHoldings descriptor before .unlockApi
        { before with apiLockOwner := -1 }
  | acquired {acquire : AcquireRequest} :
      before.duoActive = false → before.owner < 0 →
      CommandHoldings descriptor before (.acquire acquire)
        { before with owner := descriptor }
  | released :
      before.owner = descriptor →
      CommandHoldings descriptor before .release
        { before with owner := -1 }
  | duoAcquired {acquire : DuoAcquireRequest}
      (role : DuoRole) (tuner rate : UInt32) (returned : DuoReturn) :
      before.owner < 0 → returned.result = .ok →
      DuoTransition before.duo (.acquire descriptor role tuner rate) returned →
      CommandHoldings descriptor before (.duoAcquire acquire)
        { before with duo := returned.session, duoActive := true }
  | duoChanged {command : Command} (session : DuoSession) :
      before.duoActive = true → before.duo.SameRoles session →
      CommandHoldings descriptor before command
        { before with duo := session }
  | duoReleased (returned : DuoReturn) :
      before.duoActive = true → returned.result = .ok →
      DuoTransition before.duo (.release descriptor) returned →
      CommandHoldings descriptor before .duoRelease
        { before with
          duo := returned.session
          duoActive := returned.session.masterSelected || returned.session.slaveSelected }

theorem CommandHoldings.request
    {descriptor : Int} {before after : Holdings} {command : Command}
    (effect : CommandHoldings descriptor before command after) :
    HoldingsRequest descriptor before after := by
  cases effect with
  | kept => exact .kept
  | locked free => exact .locked free
  | unlocked held => exact .unlocked held
  | acquired inactive free => exact .acquired inactive free
  | released held => exact .released held
  | duoAcquired role tuner rate returned free granted transition =>
      exact .duoAcquired role tuner rate returned free granted transition
  | duoChanged session active same => exact .duoChanged session active same
  | duoReleased returned active granted transition =>
      exact .duoReleased returned active granted transition

/-! ## What each handler does to the holdings -/

theorem holdings_of_ledger {before after : World}
    (frame : after.daemon.toLedger = before.daemon.toLedger) :
    after.holdings = before.holdings :=
  congrArg Ledger.holdings frame

@[simp]
theorem serveUnrecognised_world (world : World) (descriptor : Int) :
    (serveUnrecognised world descriptor).world = world :=
  rfl

theorem busyOrUnsupported_ne_ok (daemon : DaemonState) :
    busyOrUnsupported daemon ≠ .ok := by
  unfold busyOrUnsupported
  split <;> simp

theorem serveUnrecognised_ne_ok (world : World) (descriptor : Int) :
    (serveUnrecognised world descriptor).status ≠ .ok := by
  simp only [serveUnrecognised, Handled.reply_status]
  split <;> simp

section Handlers

variable (environment : Environment) (world : World) (descriptor : Int)

theorem serveList_holdings :
    (serveList environment world).world.holdings = world.holdings :=
  holdings_of_ledger (snapshotSdrplayDevices_inventoryOnly environment world).ledger

theorem serveLockApi_holdings : CommandHoldings descriptor world.holdings .lockApi
      (serveLockApi world descriptor).world.holdings := by
  unfold serveLockApi
  split_ifs with held
  · exact .kept
  · refine .locked ?_
    simp only [not_and_or, not_le, not_not] at held
    exact held

theorem serveUnlockApi_holdings : CommandHoldings descriptor world.holdings .unlockApi
      (serveUnlockApi world descriptor).world.holdings := by
  unfold serveUnlockApi
  split_ifs with held
  · rw [Handled.reply_world, releaseApiLock, if_neg (not_not.mpr held)]
    exact CommandHoldings.unlocked held
  · exact .kept

theorem serveAcquire_holdings (acquire : AcquireRequest) :
    CommandHoldings descriptor world.holdings (.acquire acquire)
      (serveAcquire environment world descriptor acquire).world.holdings := by
  have listed := snapshotSdrplayDevices_inventoryOnly environment world
  simp only [serveAcquire]
  split_ifs with inactive held own
  · exact .kept
  · exact .kept
  · exact .kept
  · have free : world.daemon.owner < 0 := by
      by_contra negative
      exact held ⟨by omega, own⟩
    split
    · simpa [holdings_of_ledger listed.ledger] using CommandHoldings.kept
    · rename_i index _
      have checked := ((ledgerFrame environment).closeIfIdentityChanged
          (snapshotSdrplayDevices environment world).2
          (snapshotSdrplayDevices environment world).1 index).trans
          listed.ledger
      split_ifs
      · have granted : CommandHoldings descriptor world.holdings (.acquire acquire)
              { world.holdings with owner := descriptor } :=
          .acquired (Bool.eq_false_of_not_eq_true inactive) free
        simpa [World.holdings, Ledger.holdings, grantOwner, checked] using granted
      · simpa [holdings_of_ledger checked] using CommandHoldings.kept

theorem resolveDuoIdentity_ledger (acquire : DuoAcquireRequest) :
    (resolveDuoIdentity environment world acquire).2.daemon.toLedger =
      world.daemon.toLedger := by
  simp only [resolveDuoIdentity]
  split_ifs
  · exact (snapshotSdrplayDevices_inventoryOnly environment world).ledger
  · rfl
  · rfl

theorem acquireDuoRole_holdings (acquire : DuoAcquireRequest) (index : UInt32)
    (noOwner : world.daemon.owner < 0) :
    CommandHoldings descriptor world.holdings (.duoAcquire acquire)
      (acquireDuoRole world descriptor acquire index).world.holdings := by
  simp only [acquireDuoRole]
  split_ifs with granted
  · exact CommandHoldings.duoAcquired (requestedRole acquire) _ _ _ noOwner
      granted
      (duoTransition_apply world.daemon.duo
        (.acquire descriptor _ acquire.tuner acquire.sampleRateHz))
  · exact .kept

theorem serveDuoAcquire_holdings (acquire : DuoAcquireRequest) :
    CommandHoldings descriptor world.holdings (.duoAcquire acquire)
      (serveDuoAcquire environment world descriptor acquire).world.holdings := by
  have resolved := resolveDuoIdentity_ledger environment world acquire
  have sameOwner := congrArg Ledger.owner resolved
  simp only [serveDuoAcquire]
  split_ifs with held unknownRole
  · exact .kept
  · exact .kept
  · simp only [not_or, not_le] at held
    rw [← holdings_of_ledger resolved]
    split
    · exact .kept
    · exact acquireDuoRole_holdings _ descriptor acquire _ (sameOwner.trans_lt held.1)

/-! ### Handlers that leave the holdings alone -/

theorem holdingsFrame :
    RequestFrame environment fun before after => after.holdings = before.holdings :=
  ledgerView environment Ledger.holdings fun only => (congrArg Ledger.holdings only.ledger :)

theorem serveStart_holdings :
    (serveStart world descriptor).world.holdings = world.holdings := by
  unfold serveStart
  split_ifs <;> rfl

theorem stopAndClose_ledger : (stopAndClose environment world).2.daemon.toLedger =
      world.daemon.toLedger := by
  simp only [stopAndClose]
  split_ifs <;> simp

@[simp]
theorem configureMode_ledger (dual : Bool) (single : RadioConfig) (both : DualConfig) :
    (configureMode environment world dual single
      both).2.daemon.toLedger = world.daemon.toLedger := by
  unfold configureMode
  split <;> simp

theorem serveUpdate_holdings (update : UpdateRequest) :
    (serveUpdate environment world descriptor update).world.holdings =
      world.holdings := by
  have applied := (holdingsFrame environment).stopAndApplyUpdate world update
  simp only [serveUpdate]
  split_ifs
  · rfl
  · rfl
  · exact applied
  · exact applied
  · rfl

/-! ### Master/slave commands -/

/-- A command of a client without a role changes nothing; otherwise the
session is active. -/
theorem withDuoRole_outcome (serve : DuoRole → Handled) (outcome : Handled → Prop)
    (turnedAway : outcome (.reply world (busyOrUnsupported world.daemon)))
    (served : ∀ role, role ≠ .none → world.daemon.duoActive = true →
      duoRoleDescriptor world.daemon descriptor = role →
      outcome (serve role)) :
    outcome (withDuoRole world descriptor serve) := by
  have active (role : DuoRole) (isRole : role ≠ .none)
      (found : duoRoleDescriptor world.daemon descriptor = role) :
      world.daemon.duoActive = true := by
    by_contra inactive
    exact isRole (by simpa [duoRoleDescriptor, inactive] using found.symm)
  unfold withDuoRole
  split
  · exact turnedAway
  · rename_i found
    exact served .master (by simp) (active _ (by simp) found) found
  · rename_i found
    exact served .slave (by simp) (active _ (by simp) found) found

theorem withDuoRole_holdings {command : Command} (serve : DuoRole → Handled)
    (served : ∀ role, role ≠ .none → world.daemon.duoActive = true →
      duoRoleDescriptor world.daemon descriptor = role →
      CommandHoldings descriptor world.holdings command (serve role).world.holdings) :
    CommandHoldings descriptor world.holdings command
      (withDuoRole world descriptor serve).world.holdings :=
  withDuoRole_outcome world descriptor serve
    (fun handled =>
      CommandHoldings descriptor world.holdings command handled.world.holdings)
    .kept served

theorem serveDuoConfigure_holdings (config : RadioConfig) :
    (serveDuoConfigure environment world descriptor config).world.holdings = world.holdings := by
  refine withDuoRole_outcome world descriptor _
    (fun handled => handled.world.holdings = world.holdings) rfl ?_
  intro role isRole active found
  have applied : (duoApplyRunningConfig environment world config).2.holdings =
        world.holdings := by
    simp only [duoApplyRunningConfig]
    split_ifs <;> simp [World.holdings, Ledger.holdings]
  have stored (before : World) : (before.modify (storeDuoConfig · config)).holdings =
        before.holdings := by
    simp only [World.holdings, World.modify_daemon, storeDuoConfig]
    split <;> rfl
  simp only
  split_ifs
  · rfl
  · rw [Handled.reply_world, stored, applied]
  · rw [Handled.reply_world, applied]

theorem serveDuoUpdate_holdings (update : UpdateRequest) :
    (serveDuoUpdate environment world descriptor update).world.holdings =
      world.holdings := by
  refine withDuoRole_outcome world descriptor _
    (fun handled => handled.world.holdings = world.holdings) rfl ?_
  intro role isRole active found
  simp only
  split_ifs
  · rfl
  · rfl
  · exact (holdingsFrame environment).applyUpdate world update

/-- Initialising changes no role. -/
theorem sameRoles_initialise (session : DuoSession) :
    session.SameRoles (openrspdDuoInitialise session descriptor).session := by
  have transition := duoTransition_apply session (.initialise descriptor)
  have wellFormed := transition.wellFormed
  simp only [DuoOp.apply] at transition wellFormed
  generalize openrspdDuoInitialise session descriptor = returned at transition wellFormed ⊢
  cases transition <;> exact ⟨rfl, rfl, rfl, rfl, wellFormed⟩

/-- Nor does uninitialising. -/
theorem sameRoles_uninitialise (session : DuoSession) :
    session.SameRoles (openrspdDuoUninitialise session descriptor).session := by
  have transition := duoTransition_apply session (.uninitialise descriptor)
  have wellFormed := transition.wellFormed
  simp only [DuoOp.apply] at transition wellFormed
  generalize openrspdDuoUninitialise session descriptor = returned at transition wellFormed ⊢
  cases transition <;> exact ⟨rfl, rfl, rfl, rfl, wellFormed⟩

theorem duoRoleDescriptor_master {daemon : DaemonState} {descriptor : Int}
    (found : duoRoleDescriptor daemon descriptor = .master) :
    descriptorIsMaster daemon.duo descriptor = true := by
  unfold duoRoleDescriptor openrspdDuoRoleForDescriptor at found
  split_ifs at found with active isMaster
  exact isMaster

theorem duoRoleDescriptor_slave {daemon : DaemonState} {descriptor : Int}
    (found : duoRoleDescriptor daemon descriptor = .slave) :
    descriptorIsMaster daemon.duo descriptor = false ∧
      descriptorIsSlave daemon.duo descriptor = true := by
  unfold duoRoleDescriptor openrspdDuoRoleForDescriptor at found
  split_ifs at found with active isMaster isSlave
  exact ⟨by simpa using isMaster, isSlave⟩

/-- The master's initialisation, when it is granted. -/
theorem openrspdDuoInitialise_master
    {session : DuoSession} {descriptor : Int}
    (isMaster : descriptorIsMaster session descriptor = true)
    (granted : (openrspdDuoInitialise session descriptor).result = .ok) :
    session.masterInitialised = false ∧ (openrspdDuoInitialise session descriptor).session =
        { session with masterInitialised := true } := by
  unfold openrspdDuoInitialise at granted ⊢
  split_ifs at granted ⊢ with badDescriptor initialised <;>
    simp_all [DuoReturn.refuse]

/-- The slave's initialisation, when it is granted. -/
theorem openrspdDuoInitialise_slave
    {session : DuoSession} {descriptor : Int}
    (notMaster : descriptorIsMaster session descriptor = false)
    (granted : (openrspdDuoInitialise session descriptor).result = .ok) :
    session.slaveInitialised = false ∧ (openrspdDuoInitialise session descriptor).session =
        { session with slaveInitialised := true } := by
  unfold openrspdDuoInitialise at granted ⊢
  split_ifs at granted ⊢ <;> simp_all [DuoReturn.refuse]

theorem duoPrepareConfig_holdings (daemon : DaemonState) :
    (duoPrepareConfig daemon).2.toLedger.holdings =
      daemon.toLedger.holdings := by
  simp only [duoPrepareConfig]
  split <;> rfl

/-- Starting the master keeps the session or withdraws the mark it was
started with. -/
theorem startMaster_holdings (event : DuoEvent) (active : world.daemon.duoActive = true) :
    (startMaster environment world event).world.holdings =
        world.holdings ∨
      (startMaster environment world event).world.holdings =
        { world.holdings with
          duo := { world.holdings.duo with masterInitialised := false } } := by
  have prepared := duoPrepareConfig_holdings world.daemon
  simp only [Ledger.holdings, Holdings.mk.injEq] at prepared
  obtain ⟨owner, lock, duo, duoActive⟩ := prepared
  simp only [startMaster]
  split_ifs
  · right
    simp [World.holdings, Ledger.holdings, clearMasterInitialised, owner, lock, duo, duoActive]
  · left
    simp [World.holdings, Ledger.holdings, owner, lock, duo, active]
  · right
    simp [World.holdings, Ledger.holdings, clearMasterInitialised, owner, lock, duo, duoActive]

theorem serveDuoStart_holdings : CommandHoldings descriptor world.holdings .duoStart
      (serveDuoStart environment world descriptor).world.holdings := by
  refine withDuoRole_holdings world descriptor _ ?_
  intro role isRole active found
  have changed : CommandHoldings descriptor world.holdings .duoStart
        { world.holdings with
          duo := (openrspdDuoInitialise world.daemon.duo descriptor).session } :=
    .duoChanged _ active (sameRoles_initialise descriptor world.daemon.duo)
  simp only
  split_ifs with failed isMaster
  · exact changed
  · subst isMaster
    obtain ⟨waiting, session⟩ :=
      openrspdDuoInitialise_master (duoRoleDescriptor_master found) (not_not.mp failed)
    rcases startMaster_holdings environment
        (world.modify fun daemon =>
          { daemon with
            duo := (openrspdDuoInitialise world.daemon.duo descriptor).session })
        (openrspdDuoInitialise world.daemon.duo descriptor).event active
      with kept | withdrawn
    · rw [kept]
      exact changed
    · rw [withdrawn]
      simpa [World.holdings, Ledger.holdings, session, ← waiting] using CommandHoldings.kept
  · have isSlave : duoRoleDescriptor world.daemon descriptor = .slave := by
      cases role <;> simp_all
    obtain ⟨waiting, session⟩ :=
      openrspdDuoInitialise_slave (duoRoleDescriptor_slave isSlave).1 (not_not.mp failed)
    unfold startSlave
    split_ifs
    · simpa [World.holdings, Ledger.holdings, session, ← waiting] using CommandHoldings.kept
    · exact changed

theorem serveDuoStop_holdings : CommandHoldings descriptor world.holdings .duoStop
      (serveDuoStop environment world descriptor).world.holdings := by
  refine withDuoRole_holdings world descriptor _ ?_
  intro role isRole active found
  have changed : CommandHoldings descriptor world.holdings .duoStop
        { world.holdings with
          duo := (openrspdDuoUninitialise world.daemon.duo descriptor).session } :=
    .duoChanged _ active (sameRoles_uninitialise descriptor world.daemon.duo)
  simp only
  split_ifs
  · rw [Handled.notify_world, Handled.reply_world,
      holdings_of_ledger (duoResetHardware_ledger environment _)]
    exact changed
  · exact changed

theorem serveDuoRelease_holdings : CommandHoldings descriptor world.holdings .duoRelease
      (serveDuoRelease environment world descriptor).world.holdings := by
  refine withDuoRole_holdings world descriptor _ ?_
  intro role isRole active found
  have released (granted :
        (openrspdDuoRelease world.daemon.duo descriptor).result = .ok) :
      CommandHoldings descriptor world.holdings .duoRelease
        { world.holdings with
          duo := (openrspdDuoRelease world.daemon.duo descriptor).session
          duoActive := _ } :=
    .duoReleased _ active granted (duoTransition_apply world.daemon.duo (.release descriptor))
  simp only
  split_ifs with failed empty
  · have same := ((duoTransition_apply world.daemon.duo (.release descriptor)).not_granted failed).1
    simp only [DuoOp.apply] at same
    simpa [World.holdings, Ledger.holdings, same] using CommandHoldings.kept
  · simp only [World.modify_daemon] at empty
    simpa [World.holdings, Ledger.holdings, forgetDuo, empty] using released (not_not.mp failed)
  · simp only [World.modify_daemon, not_and_or, Bool.not_eq_false, ← Bool.or_eq_true] at empty
    simpa [World.holdings, Ledger.holdings, empty, active] using released (not_not.mp failed)

/-- A rate swap ends with the new rate or with the old one. -/
theorem swapRateStopped_holdings (rate : UInt32) (wasStreaming : Bool) :
    (swapRateStopped environment world rate wasStreaming).world.holdings =
        { world.holdings with
          duo := { world.holdings.duo with sampleRateHz := rate } } ∨
      (swapRateStopped environment world rate wasStreaming).world.holdings =
        world.holdings := by
  have prepared := duoPrepareConfig_holdings
    { world.daemon with
      duo := { world.daemon.duo with sampleRateHz := rate } }
  simp only [Ledger.holdings, Holdings.mk.injEq] at prepared
  obtain ⟨owner, lock, duo, duoActive⟩ := prepared
  simp only [swapRateStopped]
  split_ifs
  · right
    simp [World.holdings, Ledger.holdings, restoreRate, owner, lock, duo, duoActive]
  · right
    simp [World.holdings, Ledger.holdings, restoreRate, owner, lock, duo, duoActive]
  · left
    simp [World.holdings, Ledger.holdings, owner, lock, duo, duoActive]
  · right
    simp [World.holdings, Ledger.holdings, restoreRate, owner, lock, duo, duoActive]

theorem swapRate_holdings (rate : UInt32) : (swapRate environment world rate).world.holdings =
        { world.holdings with
          duo := { world.holdings.duo with sampleRateHz := rate } } ∨
      (swapRate environment world rate).world.holdings =
        world.holdings := by
  have prepared := duoPrepareConfig_holdings world.daemon
  have stopped := (holdings_of_ledger (stopStream_ledger environment
      (world.modify fun _ => (duoPrepareConfig world.daemon).2))).trans
      prepared
  simp only [swapRate]
  split_ifs
  · exact Or.inr prepared
  · exact Or.inr stopped
  · have swapped := swapRateStopped_holdings environment
      (stopStream environment (world.modify fun _ => (duoPrepareConfig world.daemon).2)).2
      rate
      (world.modify fun _ =>
        (duoPrepareConfig world.daemon).2).daemon.streamThreadStarted
    rw [stopped] at swapped
    exact swapped

/-- A selected master may be given another valid rate. -/
theorem DuoSession.sameRoles_rate
    {session : DuoSession} {rate : UInt32}
    (selected : session.masterSelected = true)
    (validRate : rate = 6000000 ∨ rate = 8000000) :
    session.SameRoles { session with sampleRateHz := rate } where
  masterFd := rfl
  slaveFd := rfl
  masterSelected := rfl
  slaveSelected := rfl
  wellFormed wellFormed :=
    { wellFormed with
      masterRate := fun _ => validRate
      masterCleared := by simp [selected] }

theorem serveDuoSwapRate_holdings (rate : UInt32) :
    CommandHoldings descriptor world.holdings (.duoSwapRate rate)
      (serveDuoSwapRate environment world descriptor rate).world.holdings := by
  refine withDuoRole_holdings world descriptor _ ?_
  intro role isRole active found
  split_ifs with notMaster waiting invalid slaveRuns sameRate
  · exact .kept
  · exact .kept
  · exact .kept
  · exact .kept
  · exact .kept
  · simp only [not_not] at notMaster
    subst notMaster
    have selected := (selected_of_descriptorIsMaster (duoRoleDescriptor_master found)).1
    have valid : rate = 6000000 ∨ rate = 8000000 := by
      by_contra neither
      exact invalid (not_or.mp neither)
    rcases swapRate_holdings environment world rate with swapped | kept
    · rw [swapped]
      exact .duoChanged _ active (DuoSession.sameRoles_rate selected valid)
    · rw [kept]
      exact .kept

/-! ## Removing a client -/

theorem tearDownDuo_holdings : (tearDownDuo environment world).holdings =
      { world.holdings with duoActive := false } := by
  simp [tearDownDuo, World.holdings, Ledger.holdings]

theorem releaseOwner_holdings : (releaseOwner environment world).holdings =
      { world.holdings with owner := -1 } :=
  congrArg (fun holdings : Holdings => { holdings with owner := -1 })
    ((holdingsFrame environment).closeLeft world)

/-- The disconnection of a client without a role changes nothing. -/
theorem openrspdDuoDisconnect_stranger
    {session : DuoSession} {descriptor : Int}
    (stranger : openrspdDuoRoleForDescriptor session descriptor = .none) :
    (openrspdDuoDisconnect session descriptor).session = session := by
  unfold openrspdDuoRoleForDescriptor at stranger
  split_ifs at stranger with isMaster isSlave
  unfold openrspdDuoDisconnect
  split_ifs <;> rfl

theorem releaseDuoClient_holdings (active : world.daemon.duoActive = true) :
    (releaseDuoClient environment world descriptor).holdings =
      { world.holdings with
        duo := (openrspdDuoDisconnect world.daemon.duo descriptor).session
        duoActive := (openrspdDuoDisconnect world.daemon.duo
              descriptor).session.masterSelected ||
            (openrspdDuoDisconnect world.daemon.duo descriptor).session.slaveSelected } := by
  simp only [releaseDuoClient, sendDuoEvent_daemon, World.modify_daemon]
  split_ifs with empty
  · rw [tearDownDuo_holdings]
    simp [World.holdings, Ledger.holdings, empty]
  · simp only [not_and_or, Bool.not_eq_false, ← Bool.or_eq_true] at empty
    simp [World.holdings, Ledger.holdings, active, empty]

theorem releaseApiLock_holdings : (releaseApiLock world descriptor).holdings =
      world.holdings.unlock descriptor := by
  unfold releaseApiLock
  split_ifs with other
  · simp [Holdings.unlock, show ¬ world.holdings.apiLockOwner = descriptor from other]
  · simp [Holdings.unlock, World.holdings, Ledger.holdings, not_not.mp other]

theorem Holdings.leave_inactive
    {holdings : Holdings} {descriptor : Int}
    (noOwner : holdings.owner ≠ descriptor)
    (inactive : holdings.duoActive = false) :
    holdings.leave descriptor = holdings := by
  obtain ⟨owner, lock, duo, duoActive⟩ := holdings
  simp_all [Holdings.leave]

theorem Holdings.leave_stranger
    {holdings : Holdings} {descriptor : Int}
    (noOwner : holdings.owner ≠ descriptor)
    (stranger : openrspdDuoRoleForDescriptor holdings.duo descriptor = .none)
    (selected : holdings.duoActive = true →
      (holdings.duo.masterSelected || holdings.duo.slaveSelected) = true) :
    holdings.leave descriptor = holdings := by
  obtain ⟨owner, lock, duo, duoActive⟩ := holdings
  cases duoActive <;>
    simp_all [Holdings.leave, openrspdDuoDisconnect_stranger]

theorem releaseClient_holdings {clients : List Int}
    (valid : 0 ≤ descriptor) (sound : world.holdings.Sound clients) :
    (releaseClient environment world descriptor).holdings =
      world.holdings.leave descriptor := by
  unfold releaseClient
  split_ifs with inSession notOwner
  · have active : world.holdings.duoActive = true := inSession.1
    have noOwner : world.holdings.owner ≠ descriptor := by
      have negative := sound.exclusive active
      omega
    rw [releaseDuoClient_holdings environment world descriptor inSession.1]
    simp only [Holdings.leave, active, noOwner, if_true, if_false, Bool.true_and]
    rfl
  · have noOwner : world.holdings.owner ≠ descriptor := notOwner
    by_cases active : world.holdings.duoActive = true
    · have stranger :
          openrspdDuoRoleForDescriptor world.holdings.duo descriptor = .none := by
        by_contra isRole
        exact inSession ⟨active, isRole⟩
      exact (Holdings.leave_stranger noOwner stranger
        fun active => by simp [sound.active.mp active]).symm
    · exact (Holdings.leave_inactive noOwner (by simpa using active)).symm
  · have owns : world.holdings.owner = descriptor := not_not.mp notOwner
    have inactive : world.holdings.duoActive = false := by
      by_contra active
      have negative := sound.exclusive (by simpa using active)
      omega
    rw [releaseOwner_holdings]
    simp [Holdings.leave, owns, inactive]

theorem serveRelease_holdings {clients : List Int}
    (valid : 0 ≤ descriptor) (sound : world.holdings.Sound clients) :
    CommandHoldings descriptor world.holdings .release
      (serveRelease environment world descriptor).world.holdings := by
  unfold serveRelease
  split_ifs with owns
  · have inactive : world.holdings.duoActive = false := by
      by_contra active
      have negative := sound.exclusive (by simpa using active)
      have owner : world.holdings.owner = descriptor := owns
      omega
    have left : world.holdings.leave descriptor =
          { world.holdings with owner := -1 } := by
      simp [Holdings.leave, show world.holdings.owner = descriptor from owns, inactive]
    rw [Handled.reply_world, releaseClient_holdings environment world descriptor valid sound, left]
    exact .released owns
  · exact .kept

/-! ## Serving -/

/-- What a whole request does to the holdings, before it is answered. -/
theorem dispatch_commandHoldings {clients : List Int} (command : Command)
    (valid : 0 ≤ descriptor) (sound : world.holdings.Sound clients) :
    CommandHoldings descriptor world.holdings command
      (dispatch environment world descriptor command).world.holdings := by
  have kept {handled : Handled}
      (same : handled.world.holdings = world.holdings) :
      CommandHoldings descriptor world.holdings command handled.world.holdings :=
    same ▸ .kept
  cases command with
  | ping => exact .kept
  | list => exact kept (serveList_holdings environment world)
  | lockApi => exact serveLockApi_holdings world descriptor
  | unlockApi => exact serveUnlockApi_holdings world descriptor
  | duoAcquire acquire =>
      exact serveDuoAcquire_holdings environment world descriptor acquire
  | duoConfigure config =>
      exact kept (serveDuoConfigure_holdings environment world descriptor config)
  | duoStart => exact serveDuoStart_holdings environment world descriptor
  | duoStop => exact serveDuoStop_holdings environment world descriptor
  | duoRelease =>
      exact serveDuoRelease_holdings environment world descriptor
  | duoSwapRate rate =>
      exact serveDuoSwapRate_holdings environment world descriptor rate
  | duoUpdate update =>
      exact kept (serveDuoUpdate_holdings environment world descriptor update)
  | acquire acquire =>
      exact serveAcquire_holdings environment world descriptor acquire
  | start => exact kept (serveStart_holdings world descriptor)
  | stop => exact kept ((holdingsFrame environment).serveStop world descriptor)
  | release =>
      exact serveRelease_holdings environment world descriptor valid sound
  | configure config =>
      exact kept ((holdingsFrame environment).serveConfigure world descriptor config)
  | configureDual config =>
      exact kept ((holdingsFrame environment).serveConfigureDual world descriptor config)
  | swapTuner swap =>
      exact kept ((holdingsFrame environment).serveSwapTuner world descriptor swap)
  | swapMode swap =>
      exact kept ((holdingsFrame environment).serveSwapMode world descriptor swap)
  | resumeMode => exact kept ((holdingsFrame environment).serveResumeMode world descriptor)
  | update update =>
      exact kept (serveUpdate_holdings environment world descriptor update)
  | unknown => exact .kept

theorem dispatch_holdings {clients : List Int} (command : Command)
    (valid : 0 ≤ descriptor) (sound : world.holdings.Sound clients) :
    HoldingsRequest descriptor world.holdings
      (dispatch environment world descriptor command).world.holdings :=
  (dispatch_commandHoldings environment world descriptor command valid sound).request

theorem respond_holdings (sequence : UInt32) (command : Command) (handled : Handled) :
    (respond environment descriptor sequence command handled).2.holdings =
      handled.world.holdings := by
  have kept := congrArg Ledger.holdings
      (respond_restreamed environment descriptor sequence command handled).ledger
  exact kept

theorem serveRequest_holdings {clients : List Int} (incoming : Incoming)
    (valid : 0 ≤ descriptor) (sound : world.holdings.Sound clients) :
    HoldingsRequest descriptor world.holdings
      (serveRequest environment world descriptor incoming).2.holdings := by
  cases incoming with
  | closed => exact .kept
  | unreadable => exact .kept
  | badHeader sequence =>
      simp only [serveRequest, respond_holdings]
      exact .kept
  | request sequence command =>
      simp only [serveRequest, respond_holdings]
      exact dispatch_holdings environment world descriptor command valid sound

end Handlers

end OpenRsp
