import OpenRsp.Daemon.SnapshotTrace

/-!
# What discovery advertises

A LIST answers with records that carry the mode mask and the sample rate of
the master/slave session as it was when they were made.  Everything that
changes the session's master drops the cached snapshot.  A change of its rate
does not: it reopens the receiver, and whether the snapshot is made anew on
that occasion depends on its age.
-/

namespace OpenRsp

open Runs

/-! ## Records and the session -/

/-- Every RSPduo among the records carries a mask and a rate. -/
def Tells (advert : UInt32 × UInt32) (devices : List DeviceRecord) : Prop :=
  ∀ record ∈ devices, record.productId = 0x3020 →
    (record.rspduoModeMask, record.rspduoSampleRateHz) = advert

theorem deviceRecords_tell (daemon : DaemonState) (rawIndex : Nat) (bus : List UsbDevice) :
    Tells daemon.toLedger.advert (deviceRecords daemon rawIndex bus) := by
  induction bus generalizing rawIndex with
  | nil => simp [Tells, deviceRecords]
  | cons device rest inductionHypothesis =>
      simp only [deviceRecords]
      split_ifs
      · exact inductionHypothesis (rawIndex + 1)
      · intro record member isDuo
        rcases List.mem_cons.mp member with rfl | inRest
        · have product : device.productId = 0x3020 := isDuo
          simp [deviceRecord, product, Ledger.advert, rspduoModeMask]
        · exact inductionHypothesis (rawIndex + 1) record inRest isDuo

theorem listing_tells (daemon : DaemonState) (bus : List UsbDevice) :
    Tells daemon.toLedger.advert (listing daemon bus) := fun record member =>
  deviceRecords_tell daemon 0 bus record (List.mem_of_mem_take member)

/-- The snapshot, if it stands, tells the session as it is. -/
def World.Advertised (world : World) : Prop :=
  world.daemon.deviceSnapshotValid = true →
    Tells world.daemon.toLedger.advert world.daemon.deviceSnapshot

theorem World.Advertised.of_invalid {world : World}
    (invalid : world.daemon.deviceSnapshotValid = false) :
    world.Advertised := by
  intro valid
  rw [invalid] at valid
  cases valid

/-- A step that keeps the session and the snapshot, or lists anew. -/
theorem World.Advertised.of_cache {before after : World} (advertised : before.Advertised)
    (advert : after.daemon.toLedger.advert = before.daemon.toLedger.advert)
    (cache : after.daemon.deviceSnapshotValid = true → (before.daemon.deviceSnapshotValid = true ∧
            after.daemon.deviceSnapshot = before.daemon.deviceSnapshot) ∨
          Tells before.daemon.toLedger.advert after.daemon.deviceSnapshot) :
    after.Advertised := by
  intro valid
  rw [advert]
  rcases cache valid with ⟨stillValid, same⟩ | tells
  · rw [same]
    exact advertised stillValid
  · exact tells

theorem World.Lists.tells {environment : Environment} {world : World}
    {devices : List DeviceRecord} (lists : world.Lists environment devices) :
    Tells world.daemon.toLedger.advert devices := by
  obtain ⟨daemon, bus, -, advert, -, rfl⟩ := lists
  rw [← advert]
  exact listing_tells daemon bus

theorem Traced.advertised {environment : Environment} {before after : World}
    (traced : Traced environment before after)
    (advertised : before.Advertised) : after.Advertised :=
  advertised.of_cache traced.advert fun valid =>
    (traced.cache valid).imp_right World.Lists.tells

section Requests

variable (environment : Environment) (world : World) (descriptor : Int)

/-! ## Looking at the bus -/

/-- A look at the bus is told what the session is, whether the answer is
cached or not. -/
theorem snapshotSdrplayDevices_advertised (advertised : world.Advertised) :
    Tells world.daemon.toLedger.advert
        (snapshotSdrplayDevices environment world).1 ∧
      (snapshotSdrplayDevices environment world).2.Advertised := by
  have frame := snapshotSdrplayDevices_inventoryOnly environment world
  have advert := congrArg Ledger.advert frame.ledger
  rcases snapshotSdrplayDevices_source environment world with
    ⟨valid, -, served, kept⟩ | ⟨daemon, bus, ledger, -, -, served, kept⟩
  · rw [served]
    exact ⟨advertised valid, advertised.of_cache advert fun _ => .inl ⟨valid, kept⟩⟩
  · have tells := listing_tells daemon bus
    rw [congrArg Ledger.advert ledger] at tells
    rw [served]
    exact ⟨tells, advertised.of_cache advert fun _ => .inr (kept ▸ tells)⟩

theorem serveList_advertised (advertised : world.Advertised) :
    (serveList environment world).world.Advertised :=
  (snapshotSdrplayDevices_advertised environment world advertised).2

theorem serveAcquire_advertised (acquire : AcquireRequest) (advertised : world.Advertised) :
    (serveAcquire environment world descriptor acquire).world.Advertised := by
  have looked := (snapshotSdrplayDevices_advertised environment world advertised).2
  simp only [serveAcquire]
  split_ifs
  · exact advertised
  · exact advertised
  · exact advertised
  · split
    · exact looked
    · rename_i index resolved
      have checked := ((tracedFrame environment).closeIfIdentityChanged
        (snapshotSdrplayDevices environment world).2
        (snapshotSdrplayDevices environment world).1 index).advertised looked
      split_ifs
      · exact checked
      · exact checked

theorem serveDuoAcquire_advertised (acquire : DuoAcquireRequest) (advertised : world.Advertised) :
    (serveDuoAcquire environment world descriptor acquire).world.Advertised := by
  have resolved :
      (resolveDuoIdentity environment world acquire).2.Advertised := by
    simp only [resolveDuoIdentity]
    split_ifs
    · exact (snapshotSdrplayDevices_advertised environment world advertised).2
    · exact advertised
    · exact advertised
  simp only [serveDuoAcquire]
  split_ifs
  · exact advertised
  · exact advertised
  · split
    · exact resolved
    · simp only [acquireDuoRole]
      split_ifs
      · exact .of_invalid rfl
      · exact resolved

/-! ## Leaving -/

theorem releaseClient_advertised (advertised : world.Advertised) :
    (releaseClient environment world descriptor).Advertised := by
  rcases releaseClient_traced environment world descriptor with
    traced | invalid
  · exact traced.advertised advertised
  · exact .of_invalid invalid

theorem serveRelease_advertised (advertised : world.Advertised) :
    (serveRelease environment world descriptor).world.Advertised := by
  unfold serveRelease
  split_ifs
  · exact releaseClient_advertised environment world descriptor advertised
  · exact advertised

theorem serveDuoRelease_advertised (advertised : world.Advertised) :
    (serveDuoRelease environment world descriptor).world.Advertised := by
  refine withDuoRole_outcome world descriptor _
    (fun handled => handled.world.Advertised) advertised ?_
  intro role isRole active found
  simp only
  split_ifs with failed empty
  · have same := ((duoTransition_apply world.daemon.duo (.release descriptor)).not_granted failed).1
    simp only [DuoOp.apply] at same
    rw [same]
    exact advertised
  · refine .of_invalid ?_
    exact congrArg Inventory.deviceSnapshotValid (duoResetHardware_inventory environment _)
  · exact .of_invalid rfl

/-! ## Changing the rate -/

/-- The world in which a change of rate reopens the receiver once the stream
has stopped, if it comes to that. -/
def reopensStopped (rate : UInt32) : Option World :=
  let prepared :=
    duoPrepareConfig
      { world.daemon with
        duo := { world.daemon.duo with sampleRateHz := rate } }
  if prepared.1 ≠ 0 then none
  else
    let reset :=
      duoResetHardware environment (world.modify fun _ => prepared.2)
    if reset.1 ≠ .ok then none else some reset.2

/-- The world in which `OPENRSP_CMD_DUO_SWAP_RATE` reopens the receiver. -/
def rateSwapReopens (rate : UInt32) : Option World :=
  if duoRoleDescriptor world.daemon descriptor = .master ∧
      world.daemon.duo.masterInitialised = true ∧
      (rate = 6000000 ∨ rate = 8000000) ∧
      world.daemon.duo.slaveInitialised = false ∧
      rate ≠ world.daemon.duo.sampleRateHz then
    let prepared := duoPrepareConfig world.daemon
    if prepared.1 ≠ 0 then none
    else
      let stopped :=
        stopStream environment (world.modify fun _ => prepared.2)
      if stopped.1 ≠ 0 then none
      else reopensStopped environment stopped.2 rate
  else none

/-- Reopening the receiver refreshes the snapshot when it succeeds and leaves
it alone when it fails. -/
def World.RefreshedWithRate (reopened : World) : Prop :=
  reopened.CacheServed environment ↔
    (configureDualRadio environment reopened reopened.daemon.duoConfig).1 ≠ .ok

instance (reopened : World) :
    Decidable (reopened.RefreshedWithRate environment) :=
  inferInstanceAs (Decidable (_ ↔ _))

theorem configureDualRadio_closed (config : DualConfig) (closed : world.daemon.radio = none) :
    configureDualRadio environment world config =
      if validDualConfig config = false then (.badRequest, world)
      else configureDualHandle environment world config := by
  simp [configureDualRadio, closed]

/-- A snapshot that is not served is made anew. -/
theorem snapshotSdrplayDevices_stale (closed : world.daemon.radio = none)
    (stale : ¬world.CacheServed environment) :
    Tells world.daemon.toLedger.advert
      (snapshotSdrplayDevices environment world).2.daemon.deviceSnapshot := by
  rcases snapshotSdrplayDevices_source environment world with
    ⟨-, served, -, -⟩ | ⟨daemon, bus, ledger, -, -, -, kept⟩
  · exact absurd (served closed) stale
  · rw [kept, ← congrArg Ledger.advert ledger]
    exact listing_tells daemon bus

/-- One that is served stays. -/
theorem snapshotSdrplayDevices_cached (closed : world.daemon.radio = none)
    (served : world.CacheServed environment) :
    (snapshotSdrplayDevices environment world).2.daemon =
      world.daemon := by
  obtain ⟨valid, now, isNow, fresh⟩ := served
  have reads : (clockGettime environment world).1 = some now := isNow
  simp only [snapshotSdrplayDevices, valid, closed, reads, fresh,
    Option.isSome_none, Bool.false_eq_true, if_false, if_true]
  rfl

/-- Reopening with a snapshot that is not served makes it anew. -/
theorem configureDualRadio_stale (config : DualConfig) (closed : world.daemon.radio = none)
    (stale : ¬world.CacheServed environment)
    (ok : (configureDualRadio environment world config).1 = .ok) :
    Tells world.daemon.toLedger.advert
      (configureDualRadio environment world config).2.daemon.deviceSnapshot := by
  rw [configureDualRadio_closed environment world config closed] at ok ⊢
  split_ifs at ok ⊢ with invalid
  rw [(configureDualHandle_snapshot environment world config closed).1]
  exact snapshotSdrplayDevices_stale environment world closed stale

/-- Reopening with one that is served leaves it. -/
theorem configureDualRadio_cached (config : DualConfig) (closed : world.daemon.radio = none)
    (served : world.CacheServed environment) :
    let after := (configureDualRadio environment world config).2.daemon
    after.deviceSnapshotValid = world.daemon.deviceSnapshotValid ∧
      after.deviceSnapshot = world.daemon.deviceSnapshot := by
  rw [configureDualRadio_closed environment world config closed]
  split_ifs with invalid
  · exact ⟨rfl, rfl⟩
  · obtain ⟨snapshot, valid⟩ := configureDualHandle_snapshot environment world config closed
    rw [snapshotSdrplayDevices_cached environment world closed served] at snapshot valid
    exact ⟨valid, snapshot⟩

/-- A change of the session's rate and back. -/
theorem Ledger.advert_restored {ledger changed : Ledger} {rate : UInt32}
    {config : DualConfig}
    (active : changed.duoActive = ledger.duoActive)
    (session : changed.duo = { ledger.duo with sampleRateHz := rate }) :
    { changed with
      duo := { changed.duo with sampleRateHz := ledger.duo.sampleRateHz }
      duoConfig := config }.advert = ledger.advert := by
  simp [Ledger.advert, active, session]

theorem swapRateStopped_advertised (rate : UInt32) (wasStreaming : Bool)
    (advertised : world.Advertised)
    (told :
      ∀ reopened ∈ reopensStopped environment world rate, reopened.RefreshedWithRate environment) :
    (swapRateStopped environment world rate wasStreaming).world.Advertised := by
  have prepared := duoPrepareConfig_holdings
    { world.daemon with
      duo := { world.daemon.duo with sampleRateHz := rate } }
  have inventory := duoPrepareConfig_inventory
    { world.daemon with
      duo := { world.daemon.duo with sampleRateHz := rate } }
  simp only [reopensStopped] at told
  simp only [swapRateStopped]
  generalize duoPrepareConfig
    { world.daemon with
      duo := { world.daemon.duo with sampleRateHz := rate } } = changed
    at prepared inventory told ⊢
  obtain ⟨result, changed⟩ := changed
  simp only at prepared inventory told ⊢
  have active : changed.duoActive = world.daemon.duoActive := congrArg Holdings.duoActive prepared
  have session :
      changed.duo = { world.daemon.duo with sampleRateHz := rate } :=
    congrArg Holdings.duo prepared
  -- Putting the old rate back leaves the session as it was.
  have restored {after : World}
      (ledger : after.daemon.toLedger = changed.toLedger)
      (sameValid : after.daemon.deviceSnapshotValid = world.daemon.deviceSnapshotValid)
      (sameSnapshot : after.daemon.deviceSnapshot = world.daemon.deviceSnapshot) :
      (after.modify
        (restoreRate · world.daemon.duo.sampleRateHz world.daemon.duoConfig)).Advertised := by
    refine advertised.of_cache ?_ fun valid =>
      .inl ⟨sameValid.symm.trans valid, sameSnapshot⟩
    exact Ledger.advert_restored
      ((congrArg Ledger.duoActive ledger).trans active)
      ((congrArg Ledger.duo ledger).trans session)
  have resetLedger := duoResetHardware_ledger environment (world.modify fun _ => changed)
  have resetInventory :=
    (duoResetHardware_inventory environment (world.modify fun _ => changed)).trans inventory
  have closed := duoResetHardware_radio environment (world.modify fun _ => changed)
  generalize duoResetHardware environment (world.modify fun _ => changed) =
    reset at told resetLedger resetInventory closed ⊢
  have resetValid := congrArg Inventory.deviceSnapshotValid resetInventory
  have resetSnapshot := congrArg Inventory.deviceSnapshot resetInventory
  have refreshed (prepares : ¬result ≠ 0) (resets : ¬reset.1 ≠ .ok) :
      reset.2.RefreshedWithRate environment := by
    refine told reset.2 ?_
    rw [if_neg prepares, if_neg resets]
    rfl
  split_ifs with failed notReset ok
  · exact restored rfl (congrArg Inventory.deviceSnapshotValid inventory)
      (congrArg Inventory.deviceSnapshot inventory)
  · exact restored resetLedger resetValid resetSnapshot
  · have stale := fun served => (refreshed failed notReset).mp served ok
    have tells :=
      configureDualRadio_stale environment reset.2 reset.2.daemon.duoConfig closed stale ok
    intro _
    rw [← congrArg Ledger.advert (configureDualRadio_ledger environment
      reset.2 reset.2.daemon.duoConfig)] at tells
    exact tells
  · obtain ⟨valid, snapshot⟩ := configureDualRadio_cached environment reset.2
        reset.2.daemon.duoConfig closed
        ((refreshed failed notReset).mpr ok)
    refine ((tracedFrame environment).configureDualRadio _ _).advertised ?_
    exact restored
      ((configureDualRadio_ledger environment reset.2 _).trans resetLedger)
      (valid.trans resetValid) (snapshot.trans resetSnapshot)

theorem serveDuoSwapRate_advertised (rate : UInt32) (advertised : world.Advertised)
    (told : ∀ reopened ∈ rateSwapReopens environment world descriptor rate,
        reopened.RefreshedWithRate environment) :
    (serveDuoSwapRate environment world descriptor rate).world.Advertised := by
  refine withDuoRole_outcome world descriptor _
    (fun handled => handled.world.Advertised) advertised ?_
  intro role isRole active found
  split_ifs with notMaster waiting invalid slaveRuns sameRate
  · exact advertised
  · exact advertised
  · exact advertised
  · exact advertised
  · exact advertised
  · have swaps : duoRoleDescriptor world.daemon descriptor = .master ∧
          world.daemon.duo.masterInitialised = true ∧
          (rate = 6000000 ∨ rate = 8000000) ∧
          world.daemon.duo.slaveInitialised = false ∧
          rate ≠ world.daemon.duo.sampleRateHz := by
      refine ⟨found.trans (not_not.mp notMaster), by simpa using waiting,
        ?_, by simpa using slaveRuns, sameRate⟩
      by_contra neither
      exact invalid (not_or.mp neither)
    have prepared := (duoPrepareConfig_traced environment world).advertised advertised
    have stopped := (stopStream_traced environment _).advertised prepared
    simp only [rateSwapReopens, if_pos swaps] at told
    simp only [swapRate]
    split_ifs with failed notStopped
    · exact prepared
    · exact stopped
    · refine swapRateStopped_advertised environment _ rate _ stopped ?_
      intro reopened reopens
      refine told reopened ?_
      rw [if_neg failed, if_neg notStopped]
      exact reopens

/-! ## Every step -/

/-- A change of rate finds the snapshot it needs: too old when the receiver
reopens at the new rate, fresh when it does not. -/
def Command.RefreshesSnapshot : Command → Prop
  | .duoSwapRate rate =>
      ∀ reopened ∈ rateSwapReopens environment world descriptor rate,
        reopened.RefreshedWithRate environment
  | _ => True

theorem dispatch_advertised (command : Command)
    (refreshes : command.RefreshesSnapshot environment world descriptor)
    (advertised : world.Advertised) :
    (dispatch environment world descriptor command).world.Advertised := by
  cases command with
  | ping => exact advertised
  | list => exact serveList_advertised environment world advertised
  | lockApi =>
      exact (serveLockApi_traced environment world descriptor).advertised advertised
  | unlockApi =>
      exact (serveUnlockApi_traced environment world descriptor).advertised advertised
  | duoAcquire acquire =>
      exact serveDuoAcquire_advertised environment world descriptor acquire advertised
  | duoConfigure config =>
      exact (serveDuoConfigure_traced environment world descriptor config).advertised advertised
  | duoStart =>
      exact (serveDuoStart_traced environment world descriptor).advertised advertised
  | duoStop =>
      exact (serveDuoStop_traced environment world descriptor).advertised advertised
  | duoRelease =>
      exact serveDuoRelease_advertised environment world descriptor advertised
  | duoSwapRate rate =>
      exact serveDuoSwapRate_advertised environment world descriptor rate advertised refreshes
  | duoUpdate update =>
      exact (serveDuoUpdate_traced environment world descriptor update).advertised advertised
  | acquire acquire =>
      exact serveAcquire_advertised environment world descriptor acquire advertised
  | start =>
      exact (serveStart_traced environment world descriptor).advertised advertised
  | stop =>
      exact ((tracedFrame environment).serveStop world descriptor).advertised advertised
  | release =>
      exact serveRelease_advertised environment world descriptor advertised
  | configure config =>
      exact ((tracedFrame environment).serveConfigure world descriptor config).advertised advertised
  | configureDual config =>
      exact ((tracedFrame environment).serveConfigureDual world descriptor config).advertised advertised
  | swapTuner swap =>
      exact ((tracedFrame environment).serveSwapTuner world descriptor swap).advertised advertised
  | swapMode swap =>
      exact ((tracedFrame environment).serveSwapMode world descriptor swap).advertised advertised
  | resumeMode =>
      exact ((tracedFrame environment).serveResumeMode world descriptor).advertised advertised
  | update update =>
      exact (serveUpdate_traced environment world descriptor update).advertised advertised
  | unknown =>
      simp only [dispatch, serveUnrecognised]
      split_ifs
      · exact advertised
      · exact advertised

/-- The same for whatever a client sends. -/
def Incoming.RefreshesSnapshot : Incoming → Prop
  | .request _ command => command.RefreshesSnapshot environment world descriptor
  | _ => True

theorem serveRequest_advertised (incoming : Incoming)
    (refreshes : incoming.RefreshesSnapshot environment world descriptor)
    (advertised : world.Advertised) :
    (serveRequest environment world descriptor incoming).2.Advertised := by
  cases incoming with
  | closed => exact advertised
  | unreadable => exact advertised
  | badHeader sequence =>
      exact (respond_traced environment descriptor sequence .unknown
        (.reply world .badRequest)).advertised advertised
  | request sequence command =>
      exact (respond_traced environment descriptor sequence command
        _).advertised
          (dispatch_advertised environment world descriptor command refreshes advertised)

end Requests

section Steps

variable (environment : Environment) (server : Server)

/-- Every change of rate in a run finds the snapshot it needs. -/
def Step.RefreshesSnapshot : Step → Prop
  | .serve slot incoming =>
      incoming.RefreshesSnapshot environment server.world (server.clients.getD slot invalidSocket)
  | _ => True

theorem removeClient_advertised (slot : Nat) (advertised : server.world.Advertised) :
    (removeClient environment server slot).world.Advertised := by
  simp only [removeClient]
  split_ifs
  · exact advertised
  · exact (releaseApiLock_traced environment _ _).advertised
      (releaseClient_advertised environment _ _ advertised)

theorem serveClient_advertised (slot : Nat) (incoming : Incoming)
    (refreshes : (Step.serve slot incoming).RefreshesSnapshot environment server)
    (advertised : server.world.Advertised) :
    (serveClient environment server slot incoming).world.Advertised := by
  have served := serveRequest_advertised environment server.world _ incoming refreshes advertised
  simp only [serveClient]
  split_ifs
  · exact advertised
  · exact removeClient_advertised environment _ slot served
  · exact served

theorem evictClient_advertised (advertised : server.world.Advertised) :
    (evictClient environment server).world.Advertised := by
  simp only [evictClient]
  split_ifs
  · exact advertised
  · split
    · exact advertised
    · exact removeClient_advertised environment _ _ advertised

theorem Server.step_advertised (step : Step) (refreshes : step.RefreshesSnapshot environment server)
    (advertised : server.world.Advertised) :
    (server.step environment step).world.Advertised := by
  cases step with
  | accept descriptor =>
      simp only [Server.step, acceptClient]
      split_ifs <;> exact advertised
  | hangup slot =>
      exact removeClient_advertised environment server slot advertised
  | serve slot incoming =>
      exact serveClient_advertised environment server slot incoming refreshes advertised
  | evict => exact evictClient_advertised environment server advertised
  | recover =>
      exact (recoverFailedStream_traced environment server.world).advertised advertised
  | finishRecovery =>
      exact (finishRecoveryConfig_traced environment server.world).advertised advertised
  | streamEnds =>
      have traced : Traced environment server.world _ :=
        (streamThreadEnds_streamOnly environment server.world).traced
      exact traced.advertised advertised
  | streamBlock tuner length =>
      have frame := sendStream_reportsOnly environment server.world tuner length
      simp only [Server.step]
      split_ifs
      · exact advertised
      · refine advertised.of_cache (congrArg Ledger.advert frame.ledger) ?_
        rw [frame.inventory]
        exact fun valid => .inl ⟨valid, rfl⟩

/-- What a record says is so. -/
structure DeviceRecord.Advertises (record : DeviceRecord)
    (daemon : DaemonState) : Prop where
  slaveMask : record.rspduoModeMask = modeCapSlave ↔ daemon.duo.masterSelected = true
  sampleRate : record.rspduoSampleRateHz =
      if daemon.duoActive then daemon.duo.sampleRateHz else 0

theorem DeviceRecord.advertises_of_advert {record : DeviceRecord}
    {daemon : DaemonState}
    (active : daemon.duoActive = true ↔ daemon.duo.masterSelected = true)
    (tells : (record.rspduoModeMask, record.rspduoSampleRateHz) = daemon.toLedger.advert) :
    record.Advertises daemon := by
  obtain ⟨mask, rate⟩ := Prod.ext_iff.mp tells
  refine ⟨?_, rate⟩
  simp only [Ledger.advert] at mask
  rw [mask]
  by_cases selected : daemon.duo.masterSelected = true
  · simp [active.mpr selected, selected]
  · simp only [selected, Bool.and_false, Bool.false_eq_true, if_false, iff_false]
    decide

/-- In every run whose changes of rate find the snapshot they need, a list
tells of the master/slave session as it is. -/
theorem list_advertises_session (steps : List Step) (refreshes : StepsMeet (Server.step environment)
        (fun server step => step.RefreshesSnapshot environment server)
        Server.initial steps)
    (descriptor : Int) :
    let world :=
      (runSteps (Server.step environment) Server.initial steps).world
    ∀ record ∈ (dispatch environment world descriptor .list).listed,
      record.productId = 0x3020 → record.Advertises world.daemon := by
  intro world record listed isDuo
  have advertised : world.Advertised := invariant_of_stepsMeet
      (fun server step refreshes advertised =>
        Server.step_advertised environment server step refreshes advertised)
      refreshes (.of_invalid rfl)
  have tells := (snapshotSdrplayDevices_advertised environment world advertised).1
  exact DeviceRecord.advertises_of_advert
    (sound_run environment steps).active (tells record listed isDuo)

end Steps

/-! ## A change from 6 to 8 MHz -/

/-- A master at 6 MHz starts and changes to 8 MHz. -/
def masterSwapsRate : List Step :=
  [.accept 5,
    .serve 0 (.request 1 (.duoAcquire ⟨receiverIdentity, duoRoleMaster, tunerA, 6000000⟩)),
    .serve 0 (.request 2
      (.duoConfigure
        { sampleConfig with
          sampleRateHz := 6000000
          ifFrequencyHz := 1620000 })),
    .serve 0 (.request 3 .duoStart),
    .serve 0 (.request 4 (.duoSwapRate 8000000))]

/-- After two seconds the snapshot is made anew and a list tells the new
rate. -/
theorem swapped_rate_listed :
    let world :=
      (runSteps (Server.step slowReceiver) Server.initial masterSwapsRate).world
    (dispatch slowReceiver world 5 .list).listed.map
        (·.rspduoSampleRateHz) = [8000000] ∧
      ∀ record ∈ (dispatch slowReceiver world 5 .list).listed,
        record.productId = 0x3020 → record.Advertises world.daemon := by
  refine ⟨by decide +kernel, list_advertises_session slowReceiver masterSwapsRate ?_ 5⟩
  refine ⟨trivial, trivial, trivial, trivial, ?_, trivial⟩
  change ∀ reopened ∈ rateSwapReopens slowReceiver _ 5 8000000, _
  decide +kernel

/-- Within a second of the start the change is accepted and a list still
tells the old rate. -/
theorem swapped_rate_not_listed :
    let world :=
      (runSteps (Server.step oneReceiver) Server.initial masterSwapsRate).world
    world.daemon.duo.masterSelected = true ∧
      world.daemon.duo.sampleRateHz = 8000000 ∧
      (dispatch oneReceiver world 5 .list).listed.map
          (fun record => (record.productId, record.rspduoSampleRateHz)) =
        [(0x3020, 6000000)] := by
  decide +kernel

end OpenRsp
