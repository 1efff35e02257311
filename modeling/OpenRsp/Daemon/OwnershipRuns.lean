import OpenRsp.Daemon.Ownership

/-!
# Ownership over every run

Removing a client clears exactly what it held, and with the list of what a
request can do this makes exclusive ownership by connected clients an
invariant of the server.
-/

namespace OpenRsp

open Runs

/-! ## Removal -/

/-- What the removal of `descriptor` may do: every field naming it is
cleared, and the others keep what they hold, except that the slave's role
ends with the master's. -/
structure Holdings.RemovedOnly
    (before : Holdings) (descriptor : Int) (after : Holdings) : Prop where
  ownerCleared : after.owner ≠ descriptor
  lockCleared : after.apiLockOwner ≠ descriptor
  masterCleared : after.duo.masterFd ≠ descriptor
  slaveCleared : after.duo.slaveFd ≠ descriptor
  ownerKept : before.owner ≠ descriptor → after.owner = before.owner
  lockKept : before.apiLockOwner ≠ descriptor → after.apiLockOwner = before.apiLockOwner
  strangerLeaves : descriptorIsMaster before.duo descriptor = false →
      descriptorIsSlave before.duo descriptor = false →
        after.duo = before.duo ∧ after.duoActive = before.duoActive
  slaveLeaves : descriptorIsSlave before.duo descriptor = true →
      after.duo = before.duo.withoutSlave ∧ after.duoActive = before.duoActive
  masterLeaves : descriptorIsMaster before.duo descriptor = true →
      after.duo = openrspdDuoSessionInit ∧ after.duoActive = false

/-- The session left by a removal, case by case. -/
inductive SessionLeft (holdings : Holdings) (descriptor : Int) :
    DuoSession → Bool → Prop
  | stranger :
      descriptorIsMaster holdings.duo descriptor = false →
      descriptorIsSlave holdings.duo descriptor = false →
      SessionLeft holdings descriptor holdings.duo holdings.duoActive
  | slave :
      descriptorIsMaster holdings.duo descriptor = false →
      descriptorIsSlave holdings.duo descriptor = true →
      SessionLeft holdings descriptor holdings.duo.withoutSlave holdings.duoActive
  | master :
      descriptorIsMaster holdings.duo descriptor = true →
      descriptorIsSlave holdings.duo descriptor = false →
      SessionLeft holdings descriptor openrspdDuoSessionInit false

theorem Holdings.Sound.sessionLeft
    {holdings : Holdings} {clients : List Int} {descriptor : Int}
    (sound : holdings.Sound clients) (valid : 0 ≤ descriptor) :
    SessionLeft holdings descriptor (holdings.leave descriptor).duo
      (holdings.leave descriptor).duoActive := by
  by_cases active : holdings.duoActive = true
  · have selected := sound.active.mp active
    have bothValid : validDescriptor descriptor = true := by
      simpa [validDescriptor] using valid
    by_cases isSlave : descriptorIsSlave holdings.duo descriptor = true
    · have notMaster := sound.wellFormed.slave_not_master isSlave
      have left := SessionLeft.slave notMaster isSlave
      simpa [Holdings.leave, active, openrspdDuoDisconnect, bothValid,
        isSlave, DuoSession.withoutSlave, selected] using left
    · by_cases isMaster : descriptorIsMaster holdings.duo descriptor = true
      · have left := SessionLeft.master isMaster (by simpa using isSlave)
        simpa [Holdings.leave, active, openrspdDuoDisconnect, bothValid,
          isSlave, isMaster, openrspdDuoSessionInit] using left
      · have left : SessionLeft holdings descriptor holdings.duo
              holdings.duoActive :=
          .stranger (by simpa using isMaster) (by simpa using isSlave)
        simpa [Holdings.leave, active, openrspdDuoDisconnect, bothValid,
          isSlave, isMaster, DuoReturn.refuse, selected] using left
  · have unselected : holdings.duo.masterSelected = false := by
      simpa [sound.active] using active
    have noSlave : holdings.duo.slaveSelected = false := by
      by_contra slave
      have := sound.wellFormed.slaveHasMaster (by simpa using slave)
      simp [unselected] at this
    have left :
        SessionLeft holdings descriptor holdings.duo holdings.duoActive :=
      .stranger (by simp [descriptorIsMaster, unselected]) (by simp [descriptorIsSlave, noSlave])
    simpa [Holdings.leave, active] using left

/-- A stored master or slave descriptor belongs to a selected role. -/
theorem DuoSession.WellFormed.masterFd_ne
    {session : DuoSession} (wellFormed : session.WellFormed)
    {descriptor : Int} (valid : 0 ≤ descriptor)
    (notMaster : descriptorIsMaster session descriptor = false) :
    session.masterFd ≠ descriptor := by
  intro same
  by_cases selected : session.masterSelected = true
  · simp [descriptorIsMaster, selected, same] at notMaster
  · have cleared := wellFormed.masterCleared (by simpa using selected)
    omega

theorem DuoSession.WellFormed.slaveFd_ne
    {session : DuoSession} (wellFormed : session.WellFormed)
    {descriptor : Int} (valid : 0 ≤ descriptor)
    (notSlave : descriptorIsSlave session descriptor = false) :
    session.slaveFd ≠ descriptor := by
  intro same
  by_cases selected : session.slaveSelected = true
  · simp [descriptorIsSlave, selected, same] at notSlave
  · have cleared := wellFormed.slaveCleared (by simpa using selected)
    omega

theorem Holdings.Sound.removedOnly
    {holdings : Holdings} {clients : List Int} {descriptor : Int}
    (sound : holdings.Sound clients) (valid : 0 ≤ descriptor) :
    holdings.RemovedOnly descriptor (holdings.remove descriptor) := by
  have left := sound.sessionLeft valid
  have wellFormed := sound.wellFormed
  have ownerCleared :
      (holdings.leave descriptor).owner ≠ descriptor := by
    simp only [Holdings.leave]
    split_ifs with owns
    · omega
    · exact owns
  have ownerKept (other : holdings.owner ≠ descriptor) :
      (holdings.leave descriptor).owner = holdings.owner := by
    simp [Holdings.leave, other]
  have sameLock : (holdings.leave descriptor).apiLockOwner = holdings.apiLockOwner := rfl
  unfold Holdings.remove
  generalize holdings.leave descriptor = after at left ownerCleared ownerKept sameLock
  obtain ⟨owner, lock, duo, duoActive⟩ := after
  simp only at left ownerCleared ownerKept sameLock
  have lockCleared :
      (if lock = descriptor then (-1 : Int) else lock) ≠ descriptor := by
    split_ifs with holds
    · omega
    · exact holds
  have lockKept (other : holdings.apiLockOwner ≠ descriptor) :
      (if lock = descriptor then (-1 : Int) else lock) =
        holdings.apiLockOwner := by
    simp [sameLock, other]
  cases left with
  | stranger notMaster notSlave =>
      exact
        { ownerCleared := ownerCleared
          lockCleared := lockCleared
          masterCleared := wellFormed.masterFd_ne valid notMaster
          slaveCleared := wellFormed.slaveFd_ne valid notSlave
          ownerKept := ownerKept
          lockKept := lockKept
          strangerLeaves := fun _ _ => ⟨rfl, rfl⟩
          slaveLeaves := by simp [notSlave]
          masterLeaves := by simp [notMaster] }
  | slave notMaster isSlave =>
      exact
        { ownerCleared := ownerCleared
          lockCleared := lockCleared
          masterCleared := wellFormed.masterFd_ne valid notMaster
          slaveCleared := by
            simp only [Holdings.unlock, DuoSession.withoutSlave]
            omega
          ownerKept := ownerKept
          lockKept := lockKept
          strangerLeaves := by simp [isSlave]
          slaveLeaves := fun _ => ⟨rfl, rfl⟩
          masterLeaves := by simp [notMaster] }
  | master isMaster notSlave =>
      exact
        { ownerCleared := ownerCleared
          lockCleared := lockCleared
          masterCleared := by
            simp only [Holdings.unlock, openrspdDuoSessionInit]
            omega
          slaveCleared := by
            simp only [Holdings.unlock, openrspdDuoSessionInit]
            omega
          ownerKept := ownerKept
          lockKept := lockKept
          strangerLeaves := by simp [isMaster]
          slaveLeaves := by simp [notSlave]
          masterLeaves := fun _ => ⟨rfl, rfl⟩ }

theorem mem_set_of_ne
    {clients : List Int} {client : Int} {slot : Nat}
    (member : client ∈ clients)
    (other : client ≠ clients.getD slot invalidSocket) :
    client ∈ clients.set slot invalidSocket := by
  obtain ⟨position, inRange, rfl⟩ := List.getElem_of_mem member
  have different : slot ≠ position := by
    rintro rfl
    exact other (by simp [inRange])
  refine List.mem_iff_getElem.mpr ⟨position, by simpa using inRange, ?_⟩
  simp [different]

theorem Holdings.Sound.remove
    {holdings : Holdings} {clients : List Int} {slot : Nat}
    (sound : holdings.Sound clients)
    (valid : 0 ≤ clients.getD slot invalidSocket) :
    (holdings.remove (clients.getD slot invalidSocket)).Sound (clients.set slot invalidSocket) := by
  let descriptor := clients.getD slot invalidSocket
  -- whoever the removal leaves in place is still in its slot
  have stays (client : Int) (member : 0 ≤ client → client ∈ clients)
      (other : client ≠ descriptor) (named : 0 ≤ client) :
      client ∈ clients.set slot invalidSocket :=
    mem_set_of_ne (member named) other
  have removed := sound.removedOnly valid
  have ownerConnected : 0 ≤ (holdings.remove descriptor).owner →
        (holdings.remove descriptor).owner ∈
          clients.set slot invalidSocket := by
    by_cases owns : holdings.owner = descriptor
    · simp [Holdings.remove, Holdings.unlock, Holdings.leave, owns]
    · rw [removed.ownerKept owns]
      exact stays _ sound.ownerConnected owns
  have lockConnected : 0 ≤ (holdings.remove descriptor).apiLockOwner →
        (holdings.remove descriptor).apiLockOwner ∈
          clients.set slot invalidSocket := by
    by_cases holds : holdings.apiLockOwner = descriptor
    · simp [Holdings.remove, Holdings.unlock, Holdings.leave, holds]
    · rw [removed.lockKept holds]
      exact stays _ sound.lockConnected holds
  have noOwner (active : holdings.duoActive = true) :
      (holdings.remove descriptor).owner < 0 := by
    have negative := sound.exclusive active
    rw [removed.ownerKept (by omega)]
    exact negative
  have wellFormed := sound.wellFormed
  have left := sound.sessionLeft valid
  change SessionLeft holdings descriptor (holdings.remove descriptor).duo
    (holdings.remove descriptor).duoActive at left
  change (holdings.remove descriptor).Sound _
  generalize holdings.remove descriptor = after at ownerConnected lockConnected noOwner left ⊢
  obtain ⟨owner, lock, duo, duoActive⟩ := after
  cases left with
  | stranger notMaster notSlave =>
      exact
        { exclusive := noOwner
          active := sound.active
          wellFormed := wellFormed
          ownerConnected := ownerConnected
          lockConnected := lockConnected
          masterConnected := stays _ sound.masterConnected (wellFormed.masterFd_ne valid notMaster)
          slaveConnected := stays _ sound.slaveConnected (wellFormed.slaveFd_ne valid notSlave) }
  | slave notMaster isSlave =>
      exact
        { exclusive := noOwner
          active := sound.active
          wellFormed := wellFormed.withoutSlave
          ownerConnected := ownerConnected
          lockConnected := lockConnected
          masterConnected := stays _ sound.masterConnected (wellFormed.masterFd_ne valid notMaster)
          slaveConnected := by simp }
  | master isMaster notSlave =>
      exact
        { exclusive := by simp
          active := by simp
          wellFormed := wellFormed_sessionInit
          ownerConnected := ownerConnected
          lockConnected := lockConnected
          masterConnected := by simp
          slaveConnected := by simp }

/-! ## Steps -/

/-- Ownership is sound in a server. -/
def Server.Sound (server : Server) : Prop := server.world.holdings.Sound server.clients

section Steps

variable (environment : Environment)

theorem removeClient_holdings
    {server : Server} (sound : server.Sound) {slot : Nat}
    (valid : 0 ≤ server.clients.getD slot invalidSocket) :
    (removeClient environment server slot).world.holdings =
      server.world.holdings.remove (server.clients.getD slot invalidSocket) := by
  rw [removeClient, if_neg (not_lt.mpr valid), Holdings.remove, releaseApiLock_holdings,
    releaseClient_holdings environment _ _ valid sound]

theorem Server.Sound.removeClient
    {server : Server} (sound : server.Sound) (slot : Nat) :
    (removeClient environment server slot).Sound := by
  by_cases valid : 0 ≤ server.clients.getD slot invalidSocket
  · unfold Server.Sound
    rw [removeClient_holdings environment sound valid,
      OpenRsp.removeClient, if_neg (not_lt.mpr valid)]
    exact Holdings.Sound.remove sound valid
  · rw [OpenRsp.removeClient, if_pos (not_le.mp valid)]
    exact sound

theorem mem_storeClient {descriptor client : Int} {clients : List Int}
    (member : client ∈ clients) (valid : 0 ≤ client) :
    client ∈ storeClient descriptor clients := by
  induction clients with
  | nil => simp at member
  | cons head rest inductionHypothesis =>
      simp only [storeClient]
      split_ifs with taken
      · rcases List.mem_cons.mp member with rfl | inRest
        · exact List.mem_cons_self
        · exact List.mem_cons_of_mem _ (inductionHypothesis inRest)
      · rcases List.mem_cons.mp member with rfl | inRest
        · exact absurd valid taken
        · exact List.mem_cons_of_mem _ inRest

theorem Holdings.Sound.mono
    {holdings : Holdings} {clients larger : List Int}
    (sound : holdings.Sound clients)
    (kept : ∀ client ∈ clients, 0 ≤ client → client ∈ larger) :
    holdings.Sound larger :=
  { sound with
    ownerConnected := fun valid => kept _ (sound.ownerConnected valid) valid
    lockConnected := fun valid => kept _ (sound.lockConnected valid) valid
    masterConnected := fun valid =>
      kept _ (sound.masterConnected valid) valid
    slaveConnected := fun valid =>
      kept _ (sound.slaveConnected valid) valid }

theorem Server.Sound.acceptClient
    {server : Server} (sound : server.Sound) (descriptor : Int) :
    (acceptClient server descriptor).Sound := by
  unfold OpenRsp.acceptClient
  split_ifs
  · exact sound
  · exact Holdings.Sound.mono sound fun _ member valid =>
      mem_storeClient member valid

theorem mem_of_valid_slot {clients : List Int} {slot : Nat}
    (valid : 0 ≤ clients.getD slot invalidSocket) :
    clients.getD slot invalidSocket ∈ clients := by
  by_cases inRange : slot < clients.length
  · simp [inRange]
  · simp [List.getElem?_eq_none (not_lt.mp inRange), invalidSocket] at valid

/-- Serving a request keeps ownership sound, before its client may be
removed. -/
theorem Server.Sound.served
    {server : Server} (sound : server.Sound) (slot : Nat)
    (incoming : Incoming)
    (valid : 0 ≤ server.clients.getD slot invalidSocket) :
    ({ server with
        world := (serveRequest environment server.world
            (server.clients.getD slot invalidSocket)
            incoming).2 } : Server).Sound :=
  (serveRequest_holdings environment server.world _ incoming valid
    sound).sound (mem_of_valid_slot valid) sound

theorem Server.Sound.serveClient
    {server : Server} (sound : server.Sound) (slot : Nat)
    (incoming : Incoming) :
    (serveClient environment server slot incoming).Sound := by
  by_cases valid : 0 ≤ server.clients.getD slot invalidSocket
  · have served := Server.Sound.served environment sound slot incoming valid
    simp only [OpenRsp.serveClient, if_neg (not_lt.mpr valid)]
    split_ifs
    · exact Server.Sound.removeClient environment served slot
    · exact served
  · rw [OpenRsp.serveClient]
    simp only [if_pos (not_le.mp valid)]
    exact sound

theorem Server.Sound.evictClient
    {server : Server} (sound : server.Sound) :
    (evictClient environment server).Sound := by
  simp only [OpenRsp.evictClient]
  split
  · exact sound
  · have cleared : ({ server with
            world := server.world.modify fun daemon =>
              { daemon with
                clientWriteError := false
                clientWriteErrorFd := invalidSocket } } : Server).Sound :=
      sound
    split
    · exact cleared
    · exact Server.Sound.removeClient environment cleared _

/-! ### Recovery and the stream thread -/

theorem holdings_of_requests {before after : World}
    (frame : after.daemon.toLedger.requests = before.daemon.toLedger.requests) :
    after.holdings = before.holdings := by
  have kept := congrArg Ledger.holdings frame
  exact kept

theorem recoverFailedStream_holdings (world : World) :
    (recoverFailedStream environment world).holdings = world.holdings :=
  holdings_of_requests (recoverFailedStream_requests environment world)

theorem finishRecoveryConfig_holdings (world : World) :
    (finishRecoveryConfig environment world).holdings = world.holdings :=
  holdings_of_requests (finishRecoveryConfig_requests environment world)

/-! ## Every run -/

/-- Every step of the server keeps ownership sound. -/
theorem Server.Sound.step (server : Server) (step : Step) (sound : server.Sound) :
    (server.step environment step).Sound := by
  have withHoldings {after : World}
      (same : after.holdings = server.world.holdings) :
      ({ server with world := after } : Server).Sound := by
    unfold Server.Sound
    rw [same]
    exact sound
  cases step with
  | accept descriptor => exact sound.acceptClient descriptor
  | hangup slot => exact Server.Sound.removeClient environment sound slot
  | serve slot incoming =>
      exact Server.Sound.serveClient environment sound slot incoming
  | evict => exact Server.Sound.evictClient environment sound
  | recover =>
      exact withHoldings (recoverFailedStream_holdings environment _)
  | finishRecovery =>
      exact withHoldings (finishRecoveryConfig_holdings environment _)
  | streamEnds =>
      exact withHoldings (holdings_of_ledger (streamThreadEnds_ledger environment _))
  | streamBlock tuner length =>
      simp only [Server.step]
      split
      · exact sound
      · exact withHoldings (holdings_of_ledger (sendStream_reportsOnly environment _ _ _).ledger)

theorem sound_initial : Server.initial.Sound where
  exclusive := fun _ => by decide
  active := by simp [Server.initial, World.initial, World.holdings,
    Ledger.holdings, DaemonState.initial, openrspdDuoSessionInit]
  wellFormed := wellFormed_sessionInit
  ownerConnected := fun valid => absurd valid (by decide)
  lockConnected := fun valid => absurd valid (by decide)
  masterConnected := fun valid => absurd valid (by decide)
  slaveConnected := fun valid => absurd valid (by decide)

theorem sound_run (steps : List Step) :
    (runSteps (Server.step environment) Server.initial steps).Sound :=
  invariant_of_steps (Server.Sound.step environment) steps sound_initial

/-- What ownership promises of a server. -/
structure Server.OwnershipExclusive (server : Server) : Prop where
  exclusive : ¬ (0 ≤ server.world.daemon.owner ∧ server.world.daemon.duoActive = true)
  activeIffMaster :
    server.world.daemon.duoActive = true ↔ server.world.daemon.duo.masterSelected = true
  connected : ∀ descriptor, 0 ≤ descriptor → descriptor = server.world.daemon.owner ∨
        descriptor = server.world.daemon.apiLockOwner ∨
        descriptor = server.world.daemon.duo.masterFd ∨
        descriptor = server.world.daemon.duo.slaveFd →
      descriptor ∈ server.clients

theorem Server.Sound.ownershipExclusive
    {server : Server} (sound : server.Sound) :
    server.OwnershipExclusive where
  exclusive := by
    rintro ⟨owned, active⟩
    exact absurd (sound.exclusive active) (not_lt.mpr owned)
  activeIffMaster := sound.active
  connected := by
    rintro descriptor valid (rfl | rfl | rfl | rfl)
    · exact sound.ownerConnected valid
    · exact sound.lockConnected valid
    · exact sound.masterConnected valid
    · exact sound.slaveConnected valid

/-- In every run ownership is exclusive and held by connected clients, and
removing a client takes away what it held and nothing else. -/
theorem ownership_exclusive_and_removal_exact (steps : List Step) :
    let server := runSteps (Server.step environment) Server.initial steps
    server.OwnershipExclusive ∧ ∀ slot, 0 ≤ server.clients.getD slot invalidSocket →
        server.world.holdings.RemovedOnly
          (server.clients.getD slot invalidSocket)
          (removeClient environment server slot).world.holdings := by
  intro server
  have sound : server.Sound := sound_run environment steps
  refine ⟨sound.ownershipExclusive, fun slot valid => ?_⟩
  rw [removeClient_holdings environment sound valid]
  exact Holdings.Sound.removedOnly sound valid

end Steps

end OpenRsp
