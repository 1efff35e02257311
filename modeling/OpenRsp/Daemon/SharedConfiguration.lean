import OpenRsp.Daemon.OwnershipRuns

/-!
# The shared configuration stays valid

What a master or slave stores with `DUO_CONFIGURE` has passed the check of a
single configuration.  `duo_prepare_config` gives both channels the rate of
the session, so what it leaves passes the check of a dual configuration,
whatever the order in which the roles were configured.  In every reachable
state it fails only when neither role has been configured.
-/

namespace OpenRsp

open Runs

/-! ## Preparing valid channels -/

/-- A configuration that passes the check and belongs to a tuner. -/
def RadioConfig.ValidFor (config : RadioConfig) (tuner : UInt32) : Prop :=
  openrspdConfigValid config = true ∧ config.tuner = tuner

theorem RadioConfig.ValidFor.share {config : RadioConfig} {tuner : UInt32}
    (valid : config.ValidFor tuner) {rate : UInt32} (nonzero : rate ≠ 0) :
    (shareChannel config rate).ValidFor tuner := by
  obtain ⟨valid, own⟩ := valid
  refine ⟨?_, own⟩
  simp only [openrspdConfigValid, Bool.and_eq_true] at valid
  simp_all [openrspdConfigValid, shareChannel]

theorem RadioConfig.ValidFor.copy {config : RadioConfig} {tuner : UInt32}
    (valid : config.ValidFor tuner) {other : UInt32}
    (isTuner : other = tunerA ∨ other = tunerB) :
    (copyChannel config other).ValidFor other := by
  obtain ⟨valid, own⟩ := valid
  refine ⟨?_, rfl⟩
  simp only [openrspdConfigValid, Bool.and_eq_true] at valid
  simp_all [openrspdConfigValid, copyChannel]

/-- Each role's stored configuration is valid for its tuner. -/
structure Ledger.SharedSound (ledger : Ledger) : Prop where
  channelA : ledger.duoConfigA = true → ledger.duoConfig.channelA.ValidFor tunerA
  channelB : ledger.duoConfigB = true → ledger.duoConfig.channelB.ValidFor tunerB

/-- A session rate. -/
def SessionRate (rate : UInt32) : Prop := rate = 6000000 ∨ rate = 8000000

theorem SessionRate.ne_zero {rate : UInt32} (valid : SessionRate rate) :
    rate ≠ 0 := by
  rcases valid with rfl | rfl <;> decide

section Prepare

variable {daemon : DaemonState}

/-- Preparing makes both channels valid as soon as one of them is. -/
theorem preparedDuoConfig_channels (sound : daemon.toLedger.SharedSound)
    (configured : daemon.duoConfigA = true ∨ daemon.duoConfigB = true)
    (rate : SessionRate daemon.duo.sampleRateHz) :
    (preparedDuoConfig daemon).channelA.ValidFor tunerA ∧
      (preparedDuoConfig daemon).channelB.ValidFor tunerB := by
  have channelA : (if daemon.duoConfigA then daemon.duoConfig.channelA
        else copyChannel daemon.duoConfig.channelB tunerA).ValidFor
          tunerA := by
    split
    · exact sound.channelA ‹_›
    · exact (sound.channelB (configured.resolve_left ‹_›)).copy (.inl rfl)
  have channelB : (if daemon.duoConfigB then daemon.duoConfig.channelB
        else copyChannel
          (if daemon.duoConfigA then daemon.duoConfig.channelA
            else copyChannel daemon.duoConfig.channelB tunerA)
          tunerB).ValidFor tunerB := by
    split
    · exact sound.channelB ‹_›
    · exact channelA.copy (.inr rfl)
  exact ⟨channelA.share rate.ne_zero, channelB.share rate.ne_zero⟩

theorem shareChannel_bandwidth (config : RadioConfig) (rate : UInt32) :
    (shareChannel config rate).bandwidthHz ≤ 1536000 := by
  simp only [shareChannel]
  split
  · exact UInt32.le_refl _
  · exact UInt32.not_lt.mp ‹_›

theorem preparedDuoConfig_valid (sound : daemon.toLedger.SharedSound)
    (configured : daemon.duoConfigA = true ∨ daemon.duoConfigB = true)
    (rate : SessionRate daemon.duo.sampleRateHz) :
    validDualConfig (preparedDuoConfig daemon) = true := by
  obtain ⟨⟨validA, tunerOfA⟩, ⟨validB, tunerOfB⟩⟩ :=
    preparedDuoConfig_channels sound configured rate
  have rateOf : ((preparedDuoConfig daemon).sampleRateHz == 6000000 ||
        (preparedDuoConfig daemon).sampleRateHz == 8000000) = true := by
    simpa [preparedDuoConfig, SessionRate] using rate
  have bandwidthA :
      (preparedDuoConfig daemon).channelA.bandwidthHz ≤ 1536000 :=
    shareChannel_bandwidth _ _
  have bandwidthB :
      (preparedDuoConfig daemon).channelB.bandwidthHz ≤ 1536000 :=
    shareChannel_bandwidth _ _
  simp only [validDualConfig, rateOf, validA, validB, tunerOfA, tunerOfB,
    bandwidthA, bandwidthB, decide_true, Bool.and_true, Bool.true_and,
    Bool.and_eq_true, beq_iff_eq, beq_self_eq_true]
  exact ⟨⟨⟨rfl, rfl⟩, rfl⟩, rfl⟩

theorem duoPrepareConfig_of_configured (sound : daemon.toLedger.SharedSound)
    (configured : daemon.duoConfigA = true ∨ daemon.duoConfigB = true)
    (rate : SessionRate daemon.duo.sampleRateHz) :
    duoPrepareConfig daemon = (0, { daemon with duoConfig := preparedDuoConfig daemon }) := by
  have some :
      ¬ (daemon.duoConfigA = false ∧ daemon.duoConfigB = false) := by
    rcases configured with isA | isB
    · simp [isA]
    · simp [isB]
  simp only [duoPrepareConfig, if_neg some, preparedDuoConfig_valid sound configured rate, if_true]

/-- `duo_prepare_config` fails without effect when neither role has been
configured, and succeeds otherwise. -/
theorem duoPrepareConfig_cases (sound : daemon.toLedger.SharedSound)
    (rate : SessionRate daemon.duo.sampleRateHz) :
    duoPrepareConfig daemon = (-1, daemon) ∨
      (daemon.duoConfigA = true ∨ daemon.duoConfigB = true) ∧
        duoPrepareConfig daemon = (0, { daemon with duoConfig := preparedDuoConfig daemon }) := by
  by_cases configured : daemon.duoConfigA = true ∨ daemon.duoConfigB = true
  · exact .inr ⟨configured, duoPrepareConfig_of_configured sound configured rate⟩
  · simp only [not_or, Bool.not_eq_true] at configured
    exact .inl (by simp [duoPrepareConfig, configured])

theorem duoPrepareConfig_sharedSound (sound : daemon.toLedger.SharedSound)
    (rate : SessionRate daemon.duo.sampleRateHz) :
    (duoPrepareConfig daemon).2.toLedger.SharedSound := by
  rcases duoPrepareConfig_cases sound rate with same | ⟨configured, same⟩
  · rw [same]
    exact sound
  · obtain ⟨channelA, channelB⟩ := preparedDuoConfig_channels sound configured rate
    rw [same]
    exact ⟨fun _ => channelA, fun _ => channelB⟩

end Prepare

/-! ## Commands that leave the shared configuration alone -/

/-- The shared configuration and which roles have stored theirs. -/
def Ledger.shared (ledger : Ledger) : Bool × Bool × DualConfig :=
  (ledger.duoConfigA, ledger.duoConfigB, ledger.duoConfig)

def World.shared (world : World) : Bool × Bool × DualConfig := world.daemon.toLedger.shared

theorem Ledger.SharedSound.of_shared {before after : Ledger}
    (sound : before.SharedSound) (same : after.shared = before.shared) :
    after.SharedSound := by
  simp only [Ledger.shared, Prod.mk.injEq] at same
  obtain ⟨flagA, flagB, config⟩ := same
  constructor
  · rw [flagA, config]
    exact sound.channelA
  · rw [flagB, config]
    exact sound.channelB

theorem shared_of_ledger {before after : World}
    (frame : after.daemon.toLedger = before.daemon.toLedger) :
    after.shared = before.shared :=
  congrArg Ledger.shared frame

section Handlers

variable (environment : Environment) (world : World) (descriptor : Int)

theorem sharedFrame :
    RequestFrame environment fun before after => after.shared = before.shared :=
  ledgerView environment Ledger.shared fun only => (congrArg Ledger.shared only.ledger :)

theorem serveDuoAcquire_shared (acquire : DuoAcquireRequest) :
    (serveDuoAcquire environment world descriptor acquire).world.shared =
      world.shared := by
  have resolved := shared_of_ledger (resolveDuoIdentity_ledger environment world acquire)
  simp only [serveDuoAcquire]
  split_ifs
  · rfl
  · rfl
  · split
    · exact resolved
    · simp only [acquireDuoRole]
      split_ifs
      · exact resolved
      · exact resolved

theorem serveAcquire_shared (acquire : AcquireRequest) :
    (serveAcquire environment world descriptor acquire).world.shared =
      world.shared := by
  have listed := snapshotSdrplayDevices_inventoryOnly environment world
  simp only [serveAcquire]
  split_ifs
  · rfl
  · rfl
  · rfl
  · split
    · exact shared_of_ledger listed.ledger
    · have checked (index : UInt32) := ((sharedFrame environment).closeIfIdentityChanged
          (snapshotSdrplayDevices environment world).2
          (snapshotSdrplayDevices environment world).1 index).trans
            (shared_of_ledger listed.ledger)
      split_ifs
      · exact checked _
      · exact checked _

theorem serveUpdate_shared (request : UpdateRequest) :
    (serveUpdate environment world descriptor request).world.shared =
      world.shared := by
  have applied := (sharedFrame environment).stopAndApplyUpdate world request
  simp only [serveUpdate]
  split_ifs
  · rfl
  · rfl
  · exact applied
  · exact applied
  · rfl

theorem serveDuoUpdate_shared (request : UpdateRequest) :
    (serveDuoUpdate environment world descriptor request).world.shared =
      world.shared := by
  refine withDuoRole_outcome world descriptor _
    (fun handled => handled.world.shared = world.shared) rfl ?_
  intro role _ _ _
  simp only
  split_ifs
  · rfl
  · rfl
  · exact (sharedFrame environment).applyUpdate world request

theorem serveDuoStop_shared : (serveDuoStop environment world descriptor).world.shared =
      world.shared := by
  refine withDuoRole_outcome world descriptor _
    (fun handled => handled.world.shared = world.shared) rfl ?_
  intro role _ _ _
  simp only
  split_ifs
  · exact (shared_of_ledger (duoResetHardware_ledger environment _)).trans rfl
  · rfl

/-! ## Commands that write it -/

/-- What a property of the shared configuration needs to survive the requests
of a session whose rates are of a kind. -/
structure SharedRule (holds : Ledger → Prop) (rates : UInt32 → Prop) : Prop where
  of_shared : ∀ {before after : Ledger}, holds before → after.shared = before.shared → holds after
  prepare : ∀ {daemon : DaemonState}, rates daemon.duo.sampleRateHz →
    holds daemon.toLedger → holds (duoPrepareConfig daemon).2.toLedger

namespace SharedRule

variable {holds : Ledger → Prop} {rates : UInt32 → Prop} (rule : SharedRule holds rates)
include rule

theorem startMaster (event : DuoEvent) (rate : rates world.daemon.duo.sampleRateHz)
    (held : holds world.daemon.toLedger) :
    holds (OpenRsp.startMaster environment world event).world.daemon.toLedger := by
  have prepared := rule.prepare rate held
  have configured := rule.of_shared prepared
      (congrArg Ledger.shared
        (configureDualRadio_ledger environment
          (world.modify fun _ => (duoPrepareConfig world.daemon).2)
          (duoPrepareConfig world.daemon).2.duoConfig))
  simp only [OpenRsp.startMaster]
  split_ifs
  · exact rule.of_shared prepared rfl
  · exact rule.of_shared configured rfl
  · exact rule.of_shared configured rfl

theorem serveDuoStart (held : holds world.daemon.toLedger)
    (rate : duoRoleDescriptor world.daemon descriptor = .master →
      rates world.daemon.duo.sampleRateHz) :
    holds (OpenRsp.serveDuoStart environment world descriptor).world.daemon.toLedger := by
  refine withDuoRole_outcome world descriptor _
    (fun handled => holds handled.world.daemon.toLedger) held ?_
  intro role _ _ found
  simp only
  split_ifs with failed isMaster
  · exact rule.of_shared held rfl
  · subst isMaster
    obtain ⟨-, session⟩ :=
      openrspdDuoInitialise_master (duoRoleDescriptor_master found) (not_not.mp failed)
    refine rule.startMaster environment _ _ ?_ (rule.of_shared held rfl)
    simpa [session] using rate found
  · unfold startSlave
    split_ifs <;> exact rule.of_shared held rfl

theorem swapRateStopped {rate : UInt32} (wasStreaming : Bool) (valid : rates rate)
    (held : holds world.daemon.toLedger) :
    holds (OpenRsp.swapRateStopped environment world rate
      wasStreaming).world.daemon.toLedger := by
  let swapped : DaemonState :=
    { world.daemon with duo := { world.daemon.duo with sampleRateHz := rate } }
  have prepared : holds (duoPrepareConfig swapped).2.toLedger :=
    rule.prepare valid (rule.of_shared held rfl)
  have flags : (duoPrepareConfig swapped).2.duoConfigA = world.daemon.duoConfigA ∧
      (duoPrepareConfig swapped).2.duoConfigB = world.daemon.duoConfigB := by
    simp only [duoPrepareConfig]
    split <;> exact ⟨rfl, rfl⟩
  simp only [OpenRsp.swapRateStopped]
  split_ifs
  · exact rule.of_shared held (by simp [Ledger.shared, restoreRate, flags, swapped])
  · exact rule.of_shared held (by simp [Ledger.shared, restoreRate, flags, swapped])
  · exact rule.of_shared prepared (by simp [Ledger.shared, swapped])
  · exact rule.of_shared held (by simp [Ledger.shared, restoreRate, flags, swapped])

theorem serveDuoSwapRate (rate : UInt32) (held : holds world.daemon.toLedger)
    (current : duoRoleDescriptor world.daemon descriptor = .master →
      rates world.daemon.duo.sampleRateHz)
    (valid : SessionRate rate → rates rate) :
    holds (OpenRsp.serveDuoSwapRate environment world descriptor rate).world.daemon.toLedger := by
  refine withDuoRole_outcome world descriptor _
    (fun handled => holds handled.world.daemon.toLedger) held ?_
  intro role _ _ found
  split_ifs with notMaster waiting invalid slaveRuns sameRate
  · exact held
  · exact held
  · exact held
  · exact held
  · exact held
  · obtain rfl := not_not.mp notMaster
    have isRate : SessionRate rate := by
      by_contra neither
      exact invalid (not_or.mp neither)
    have prepared := rule.prepare (current found) held
    have stopped := rule.of_shared prepared (congrArg Ledger.shared
        (stopStream_ledger environment (world.modify fun _ => (duoPrepareConfig world.daemon).2)))
    simp only [swapRate]
    split_ifs
    · exact prepared
    · exact stopped
    · exact rule.swapRateStopped environment _ _ (valid isRate) stopped

end SharedRule

theorem sharedSound_rule : SharedRule Ledger.SharedSound SessionRate where
  of_shared sound same := sound.of_shared same
  prepare rate sound := duoPrepareConfig_sharedSound sound rate

variable {world}

/-- Replacing the channel of a valid configuration's tuner. -/
theorem Ledger.SharedSound.withChannel {ledger : Ledger}
    (sound : ledger.SharedSound) {config : RadioConfig}
    (valid : openrspdConfigValid config = true) :
    ({ ledger with
        duoConfig := ledger.duoConfig.withChannel config.tuner config } :
      Ledger).SharedSound := by
  unfold DualConfig.withChannel
  split
  · exact ⟨sound.channelA, fun _ => ⟨valid, ‹_›⟩⟩
  · have own := (tuner_of_openrspdConfigValid valid).resolve_right ‹_›
    exact ⟨fun _ => ⟨valid, own⟩, sound.channelB⟩

theorem duoApplyRunningConfig_sharedSound {config : RadioConfig}
    (valid : openrspdConfigValid config = true)
    (sound : world.daemon.toLedger.SharedSound) :
    (duoApplyRunningConfig environment world config).2.daemon.toLedger.SharedSound := by
  have wrote :=
    (writeRunningConfig_registersOnly environment world
      (world.daemon.duoConfig.channel config.tuner) config).ledger
  have kept := sound.of_shared (congrArg Ledger.shared wrote)
  simp only [duoApplyRunningConfig]
  split_ifs
  · exact sound
  · exact sound
  · exact kept
  · exact kept.withChannel valid

theorem storeDuoConfig_sharedSound {config : RadioConfig}
    {daemon : DaemonState} (valid : openrspdConfigValid config = true)
    (sound : daemon.toLedger.SharedSound) :
    (storeDuoConfig daemon config).toLedger.SharedSound := by
  unfold storeDuoConfig
  split
  · exact ⟨fun _ => ⟨valid, ‹_›⟩, sound.channelB⟩
  · have own := (tuner_of_openrspdConfigValid valid).resolve_left ‹_›
    exact ⟨sound.channelA, fun _ => ⟨valid, own⟩⟩

variable (sound : world.daemon.toLedger.SharedSound)
include sound

theorem serveDuoConfigure_sharedSound (config : RadioConfig) :
    (serveDuoConfigure environment world descriptor config).world.daemon.toLedger.SharedSound := by
  refine withDuoRole_outcome world descriptor _
    (fun handled => handled.world.daemon.toLedger.SharedSound) sound ?_
  intro role _ _ _
  simp only
  split_ifs with refused accepted
  · exact sound
  all_goals
    have valid : openrspdConfigValid config = true := by
      simpa using fun invalid => refused (.inl invalid)
    have applied := duoApplyRunningConfig_sharedSound environment valid sound
  · exact storeDuoConfig_sharedSound valid applied
  · exact applied

omit sound in
/-- The rate of a session whose master asks for something. -/
theorem sessionRate_of_master {clients : List Int} (owned : world.holdings.Sound clients)
    (found : duoRoleDescriptor world.daemon descriptor = .master) :
    SessionRate world.daemon.duo.sampleRateHz :=
  owned.wellFormed.masterRate (selected_of_descriptorIsMaster (duoRoleDescriptor_master found)).1

theorem serveDuoRelease_sharedSound :
    (serveDuoRelease environment world descriptor).world.daemon.toLedger.SharedSound := by
  refine withDuoRole_outcome world descriptor _
    (fun handled => handled.world.daemon.toLedger.SharedSound) sound ?_
  intro role _ _ _
  simp only
  split_ifs
  · exact ⟨sound.channelA, sound.channelB⟩
  · exact ⟨fun stored => absurd stored Bool.false_ne_true,
      fun stored => absurd stored Bool.false_ne_true⟩
  · exact ⟨sound.channelA, sound.channelB⟩

/-! ## Every run -/

theorem releaseClient_sharedSound :
    (releaseClient environment world descriptor).daemon.toLedger.SharedSound := by
  simp only [releaseClient, releaseDuoClient]
  split_ifs
  · exact ⟨fun stored => absurd stored Bool.false_ne_true,
      fun stored => absurd stored Bool.false_ne_true⟩
  · simp only [sendDuoEvent_daemon]
    exact ⟨sound.channelA, sound.channelB⟩
  · exact sound
  · exact sound.of_shared ((sharedFrame environment).closeLeft world)

theorem dispatch_sharedSound {clients : List Int} (command : Command)
    (owned : world.holdings.Sound clients) :
    (dispatch environment world descriptor command).world.daemon.toLedger.SharedSound := by
  have kept {after : World} (same : after.shared = world.shared) :
      after.daemon.toLedger.SharedSound :=
    sound.of_shared same
  cases command with
  | ping => exact sound
  | unknown => exact sound
  | list =>
      exact kept (shared_of_ledger (snapshotSdrplayDevices_inventoryOnly environment world).ledger)
  | lockApi =>
      simp only [dispatch, serveLockApi]
      split <;> exact ⟨sound.channelA, sound.channelB⟩
  | unlockApi =>
      simp only [dispatch, serveUnlockApi, releaseApiLock]
      split_ifs <;> exact ⟨sound.channelA, sound.channelB⟩
  | duoAcquire acquire =>
      exact kept (serveDuoAcquire_shared environment world descriptor acquire)
  | duoConfigure config =>
      exact serveDuoConfigure_sharedSound environment descriptor sound config
  | duoStart =>
      exact sharedSound_rule.serveDuoStart environment world descriptor sound
        (sessionRate_of_master descriptor owned)
  | duoStop =>
      exact kept (serveDuoStop_shared environment world descriptor)
  | duoRelease =>
      exact serveDuoRelease_sharedSound environment descriptor sound
  | duoSwapRate rate =>
      exact sharedSound_rule.serveDuoSwapRate environment world descriptor rate sound
        (sessionRate_of_master descriptor owned) id
  | duoUpdate request =>
      exact kept (serveDuoUpdate_shared environment world descriptor request)
  | acquire acquire =>
      exact kept (serveAcquire_shared environment world descriptor acquire)
  | start =>
      simp only [dispatch, serveStart]
      split_ifs <;> exact ⟨sound.channelA, sound.channelB⟩
  | stop => exact kept ((sharedFrame environment).serveStop world descriptor)
  | release =>
      simp only [dispatch, serveRelease]
      split_ifs
      · exact releaseClient_sharedSound environment descriptor sound
      · exact sound
  | configure config =>
      exact kept ((sharedFrame environment).serveConfigure world descriptor config)
  | configureDual config =>
      exact kept ((sharedFrame environment).serveConfigureDual world descriptor config)
  | swapTuner swap =>
      exact kept ((sharedFrame environment).serveSwapTuner world descriptor swap)
  | swapMode swap =>
      exact kept ((sharedFrame environment).serveSwapMode world descriptor swap)
  | resumeMode => exact kept ((sharedFrame environment).serveResumeMode world descriptor)
  | update request =>
      exact kept (serveUpdate_shared environment world descriptor request)

theorem serveRequest_sharedSound {clients : List Int} (incoming : Incoming)
    (owned : world.holdings.Sound clients) :
    (serveRequest environment world descriptor incoming).2.daemon.toLedger.SharedSound := by
  have answered (sequence : UInt32) (command : Command) {handled : Handled}
      (sound : handled.world.daemon.toLedger.SharedSound) :
      (respond environment descriptor sequence command handled).2.daemon.toLedger.SharedSound := by
    have same := congrArg Ledger.shared
        (respond_restreamed environment descriptor sequence command handled).ledger
    exact sound.of_shared same
  cases incoming with
  | closed => exact sound
  | unreadable => exact sound
  | badHeader sequence => exact answered sequence .unknown sound
  | request sequence command =>
      exact answered sequence command
        (dispatch_sharedSound environment descriptor sound command owned)

end Handlers

section Runs

variable (environment : Environment)

theorem removeClient_sharedSound (server : Server) (slot : Nat)
    (sound : server.world.daemon.toLedger.SharedSound) :
    (removeClient environment server slot).world.daemon.toLedger.SharedSound := by
  simp only [removeClient]
  split
  · exact sound
  · have released :=
      releaseClient_sharedSound environment (server.clients.getD slot invalidSocket) sound
    unfold releaseApiLock
    split
    · exact released
    · exact ⟨released.channelA, released.channelB⟩

theorem step_sharedSound (server : Server) (step : Step) (owned : server.Sound)
    (sound : server.world.daemon.toLedger.SharedSound) :
    (server.step environment step).world.daemon.toLedger.SharedSound := by
  cases step with
  | accept descriptor =>
      simp only [Server.step, acceptClient]
      split <;> exact sound
  | hangup slot => exact removeClient_sharedSound environment server slot sound
  | serve slot incoming =>
      have served := serveRequest_sharedSound environment
          (server.clients.getD slot invalidSocket) sound incoming owned
      simp only [Server.step, serveClient]
      split_ifs
      · exact sound
      · exact removeClient_sharedSound environment _ slot served
      · exact served
  | evict =>
      simp only [Server.step, evictClient]
      split
      · exact sound
      · split
        · exact sound
        · exact removeClient_sharedSound environment _ _ sound
  | recover =>
      have same := congrArg Ledger.shared (recoverFailedStream_requests environment server.world)
      exact sound.of_shared same
  | finishRecovery =>
      have same := congrArg Ledger.shared (finishRecoveryConfig_requests environment server.world)
      exact sound.of_shared same
  | streamEnds =>
      exact sound.of_shared (congrArg Ledger.shared (streamThreadEnds_ledger environment _))
  | streamBlock tuner length =>
      simp only [Server.step]
      split
      · exact sound
      · exact sound.of_shared
          (congrArg Ledger.shared (sendStream_reportsOnly environment _ _ _).ledger)

/-- In every reachable state the stored role configurations are valid. -/
theorem sharedSound_run (steps : List Step) : (runSteps (Server.step environment) Server.initial
      steps).world.daemon.toLedger.SharedSound := by
  have kept (server : Server) (step : Step)
      (held : server.Sound ∧ server.world.daemon.toLedger.SharedSound) :=
    And.intro (Server.Sound.step environment server step held.1)
      (step_sharedSound environment server step held.1 held.2)
  refine (invariant_of_steps kept steps ⟨sound_initial, ?_⟩).2
  exact ⟨fun stored => absurd stored Bool.false_ne_true,
    fun stored => absurd stored Bool.false_ne_true⟩

end Runs

/-! ## Preparing in a reachable state -/

/-- What a session shares between its channels blanked out. -/
def RadioConfig.settings (config : RadioConfig) : RadioConfig :=
  { config with sampleRateHz := 0, ifFrequencyHz := 0, bandwidthHz := 0 }

/-- `duo_prepare_config` succeeds, leaves a valid configuration at the rate
of the session and the settings of the channels that were configured, and has
nothing left to do a second time. -/
structure PreparesWell (daemon : DaemonState) : Prop where
  succeeds : (duoPrepareConfig daemon).1 = 0
  valid : validDualConfig (duoPrepareConfig daemon).2.duoConfig = true
  rate : (duoPrepareConfig daemon).2.duoConfig.sampleRateHz = daemon.duo.sampleRateHz
  channelA : daemon.duoConfigA = true →
      (duoPrepareConfig daemon).2.duoConfig.channelA.settings = daemon.duoConfig.channelA.settings
  channelB : daemon.duoConfigB = true →
      (duoPrepareConfig daemon).2.duoConfig.channelB.settings = daemon.duoConfig.channelB.settings
  again : duoPrepareConfig (duoPrepareConfig daemon).2 = duoPrepareConfig daemon

theorem shareChannel_settings (config : RadioConfig) (rate : UInt32) :
    (shareChannel config rate).settings = config.settings :=
  rfl

theorem shareChannel_shareChannel (config : RadioConfig) (rate : UInt32) :
    shareChannel (shareChannel config rate) rate =
      shareChannel config rate := by
  have within := UInt32.not_lt.mpr (shareChannel_bandwidth config rate)
  unfold shareChannel at within ⊢
  rw [if_neg within]

/-- Sharing and copying are independent. -/
theorem copyChannel_shareChannel (config : RadioConfig) (rate tuner : UInt32) :
    copyChannel (shareChannel config rate) tuner = shareChannel (copyChannel config tuner) rate :=
  rfl

theorem copyChannel_copyChannel (config : RadioConfig) (tuner other : UInt32) :
    copyChannel (copyChannel config tuner) other = copyChannel config other :=
  rfl

/-- A configuration that has been prepared is prepared. -/
theorem preparedDuoConfig_again (daemon : DaemonState) :
    preparedDuoConfig { daemon with duoConfig := preparedDuoConfig daemon } =
      preparedDuoConfig daemon := by
  cases configuredA : daemon.duoConfigA <;>
    cases configuredB : daemon.duoConfigB <;>
    simp [preparedDuoConfig, configuredA, configuredB,
      copyChannel_shareChannel, copyChannel_copyChannel,
      shareChannel_shareChannel]

theorem preparesWell {daemon : DaemonState} (sound : daemon.toLedger.SharedSound)
    (configured : daemon.duoConfigA = true ∨ daemon.duoConfigB = true)
    (rate : SessionRate daemon.duo.sampleRateHz) : PreparesWell daemon := by
  have prepared := duoPrepareConfig_of_configured sound configured rate
  have again : duoPrepareConfig { daemon with duoConfig := preparedDuoConfig daemon } =
        (0, { daemon with duoConfig := preparedDuoConfig daemon }) := by
    have preparedSound := duoPrepareConfig_sharedSound sound rate
    rw [prepared] at preparedSound
    rw [duoPrepareConfig_of_configured preparedSound configured rate, preparedDuoConfig_again]
  constructor
  case succeeds => rw [prepared]
  case valid =>
    rw [prepared]
    exact preparedDuoConfig_valid sound configured rate
  case rate =>
    rw [prepared]
    rfl
  case channelA =>
    intro isA
    rw [prepared]
    simp only [preparedDuoConfig, isA, if_true, shareChannel_settings]
  case channelB =>
    intro isB
    rw [prepared]
    simp only [preparedDuoConfig, isB, if_true, shareChannel_settings]
  case again => rw [prepared, again]

/-- In every reachable state with a master and a configured role,
`duo_prepare_config` does its work, at the session's rate and at the rate a
swap is about to give it. -/
theorem duo_prepare_config_in_every_state (environment : Environment)
    (steps : List Step) {daemon : DaemonState}
    (reached : (runSteps (Server.step environment) Server.initial steps).world.daemon = daemon)
    (master : daemon.duo.masterSelected = true)
    (configured : daemon.duoConfigA = true ∨ daemon.duoConfigB = true) :
    PreparesWell daemon ∧ ∀ rate, SessionRate rate → PreparesWell
          { daemon with duo := { daemon.duo with sampleRateHz := rate } } := by
  subst reached
  have sound := sharedSound_run environment steps
  have owned := sound_run environment steps
  exact ⟨preparesWell sound configured (owned.wellFormed.masterRate master), fun rate valid =>
      preparesWell ⟨sound.channelA, sound.channelB⟩ configured valid⟩

/-- Client 5 becomes the master and configures tuner A. -/
def masterConfigures : List Step :=
  [.accept 5,
    .serve 0 (.request 1 (.duoAcquire ⟨receiverIdentity, duoRoleMaster, tunerA, 6000000⟩)),
    .serve 0 (.request 2 (.duoConfigure { sampleConfig with sampleRateHz := 6000000 }))]

theorem masterConfigures_prepares : PreparesWell
      (runSteps (Server.step oneReceiver) Server.initial masterConfigures).world.daemon :=
  (duo_prepare_config_in_every_state oneReceiver masterConfigures rfl (by decide) (by decide)).1

end OpenRsp
