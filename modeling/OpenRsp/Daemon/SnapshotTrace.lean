import OpenRsp.Daemon.OwnershipRuns
import OpenRsp.Daemon.StreamFrames

/-!
# Where snapshots and openings come from

Stopping, closing, opening, configuring and recovering a receiver go to the
bus only through `resolve_acquired_device`, and only without an open handle.
So the snapshot they leave is the one they found or a fresh listing, and so
is the one from which they resolved a receiver they opened.
-/

namespace OpenRsp

/-! ## What a listing says -/

/-- The mode mask and the rate an enumeration gives an RSPduo. -/
def Ledger.advert (ledger : Ledger) : UInt32 × UInt32 :=
  (if ledger.duoActive && ledger.duo.masterSelected then modeCapSlave
    else modeCapSingle ||| modeCapDual ||| modeCapMaster,
    if ledger.duoActive then ledger.duo.sampleRateHz else 0)

/-- The records a daemon makes of an inventory. -/
def listing (daemon : DaemonState) (bus : List UsbDevice) :
    List DeviceRecord :=
  (deviceRecords daemon 0 bus).take openrspdMaxDevices

/-- The receivers opened, and the readings of the clock. -/
def World.looks (world : World) : List Opening × Nat := (world.openings, world.clockReadings)

section Trace

variable (environment : Environment)

/-- A listing made without a handle, for a session as it is in a world. -/
def World.Lists (world : World) (devices : List DeviceRecord) : Prop :=
  ∃ (daemon : DaemonState) (bus : List UsbDevice), daemon.radio = none ∧
      daemon.toLedger.advert = world.daemon.toLedger.advert ∧
      bus ∈ Set.range environment.inventories ∧
      devices = listing daemon bus

/-- Without a handle the next look at the bus is answered from the cache. -/
def World.CacheServed (world : World) : Prop :=
  world.daemon.deviceSnapshotValid = true ∧ ∃ now, world.now environment = some now ∧
      snapshotFresh world.daemon.deviceSnapshotTime now = true

instance (world : World) : Decidable (world.CacheServed environment) :=
  decidable_of_iff
    (world.daemon.deviceSnapshotValid = true ∧
      (world.now environment).any (snapshotFresh world.daemon.deviceSnapshotTime) = true)
    (and_congr_right' (Option.any_eq_true _ _))

/-- The records a world without a handle may answer with. -/
def World.Serves (world : World) (devices : List DeviceRecord) : Prop :=
  (world.CacheServed environment ∧
      devices = world.daemon.deviceSnapshot) ∨
    world.Lists environment devices

/-- The same identity, whatever its index. -/
def AcquireRequest.unindexed (identity : AcquireRequest) : AcquireRequest :=
  { identity with deviceIndex := 0 }

/-- An opening resolved from records a world may answer with. -/
def Opening.From (opening : Opening) (world : World) : Prop :=
  opening.inventory ∈ Set.range environment.inventories ∧ ∃ identity devices,
      identity.unindexed = opening.identity.unindexed ∧
        world.Serves environment devices ∧
        openrspIdentityResolve identity devices = .ok opening.index

/-- The session stays, the snapshot is the one found or a listing, and what
is served or opened on the way comes from what could be served before. -/
structure Traced (before after : World) : Prop where
  advert : after.daemon.toLedger.advert = before.daemon.toLedger.advert
  cache : after.daemon.deviceSnapshotValid = true → (before.daemon.deviceSnapshotValid = true ∧
          after.daemon.deviceSnapshot = before.daemon.deviceSnapshot) ∨
        before.Lists environment after.daemon.deviceSnapshot
  serves : ∀ devices, after.Serves environment devices → before.Serves environment devices
  openings : ∃ added, after.openings = before.openings ++ added ∧
      ∀ opening ∈ added, opening.From environment before

variable {environment}

theorem World.Lists.of_advert {before after : World}
    {devices : List DeviceRecord}
    (lists : after.Lists environment devices)
    (same : after.daemon.toLedger.advert = before.daemon.toLedger.advert) :
    before.Lists environment devices := by
  obtain ⟨daemon, bus, closed, advert, onBus, listed⟩ := lists
  exact ⟨daemon, bus, closed, advert.trans same, onBus, listed⟩

theorem Traced.refl (world : World) : Traced environment world world :=
  ⟨rfl, fun valid => .inl ⟨valid, rfl⟩, fun _ => id, [], by simp, by simp⟩

theorem Traced.trans {first second third : World} (left : Traced environment first second)
    (right : Traced environment second third) :
    Traced environment first third where
  advert := right.advert.trans left.advert
  cache valid := by
    rcases right.cache valid with ⟨stillValid, same⟩ | lists
    · rw [same]
      exact left.cache stillValid
    · exact .inr (lists.of_advert left.advert)
  serves devices served := left.serves devices (right.serves devices served)
  openings := by
    obtain ⟨earlier, isEarlier, earlierFrom⟩ := left.openings
    obtain ⟨later, isLater, laterFrom⟩ := right.openings
    refine ⟨earlier ++ later, ?_, ?_⟩
    · rw [isLater, isEarlier, List.append_assoc]
    · intro opening member
      rcases List.mem_append.mp member with inEarlier | inLater
      · exact earlierFrom opening inEarlier
      · obtain ⟨onBus, identity, devices, same, serves, resolved⟩ := laterFrom opening inLater
        exact ⟨onBus, identity, devices, same, left.serves devices serves, resolved⟩

/-- A cache that is served after some steps was there before them and was
served then. -/
theorem World.CacheServed.of_frame {before after : World} (served : after.CacheServed environment)
    (inventory : after.daemon.deviceSnapshotValid = true →
        before.daemon.deviceSnapshotValid = true ∧
          after.daemon.deviceSnapshot = before.daemon.deviceSnapshot ∧
          after.daemon.deviceSnapshotTime = before.daemon.deviceSnapshotTime)
    (looks : after.looks = before.looks) :
    before.CacheServed environment ∧
      after.daemon.deviceSnapshot = before.daemon.deviceSnapshot := by
  obtain ⟨valid, now, isNow, fresh⟩ := served
  obtain ⟨stillValid, sameSnapshot, sameTime⟩ := inventory valid
  rw [sameTime] at fresh
  have sameNow := congrArg (fun looks => environment.clock looks.2) looks
  exact ⟨⟨stillValid, now, sameNow.symm.trans isNow, fresh⟩, sameSnapshot⟩

/-- Nothing is done to the session, the snapshot, the clock or the
openings. -/
theorem Traced.of_frame {before after : World}
    (ledger : after.daemon.toLedger.advert = before.daemon.toLedger.advert)
    (inventory : after.daemon.deviceSnapshotValid = true →
        before.daemon.deviceSnapshotValid = true ∧
          after.daemon.deviceSnapshot = before.daemon.deviceSnapshot ∧
          after.daemon.deviceSnapshotTime = before.daemon.deviceSnapshotTime)
    (looks : after.looks = before.looks) :
    Traced environment before after where
  advert := ledger
  cache valid := .inl ⟨(inventory valid).1, (inventory valid).2.1⟩
  serves devices served := by
    rcases served with ⟨served, rfl⟩ | lists
    · exact .inl (served.of_frame inventory looks)
    · exact .inr (lists.of_advert ledger)
  openings := by
    have sameOpenings : after.openings = before.openings := congrArg Prod.fst looks
    exact ⟨[], by simp [sameOpenings], by simp⟩

theorem Traced.of_inventory {before after : World}
    (ledger : after.daemon.toLedger.advert = before.daemon.toLedger.advert)
    (inventory : after.daemon.toInventory = before.daemon.toInventory)
    (looks : after.looks = before.looks) :
    Traced environment before after := by
  refine .of_frame ledger (fun valid => ?_) looks
  have sameValid := congrArg Inventory.deviceSnapshotValid inventory
  have sameSnapshot := congrArg Inventory.deviceSnapshot inventory
  have sameTime := congrArg Inventory.deviceSnapshotTime inventory
  exact ⟨sameValid.symm.trans valid, sameSnapshot, sameTime⟩

/-- Changes to the daemon that touch neither the session nor the snapshot. -/
theorem Traced.modify {before after : World} (traced : Traced environment before after)
    (change : DaemonState → DaemonState)
    (ledger : (change after.daemon).toLedger.advert = after.daemon.toLedger.advert)
    (inventory : (change after.daemon).deviceSnapshotValid = true →
        after.daemon.deviceSnapshotValid = true ∧
          (change after.daemon).deviceSnapshot = after.daemon.deviceSnapshot ∧
          (change after.daemon).deviceSnapshotTime = after.daemon.deviceSnapshotTime) :
    Traced environment before (after.modify change) :=
  traced.trans (.of_frame ledger inventory rfl)

theorem RegistersOnly.traced {before after : World}
    (frame : RegistersOnly before after) : Traced environment before after :=
  .of_inventory (congrArg Ledger.advert frame.ledger) frame.inventory
    (Prod.ext frame.openings frame.clockReadings)

theorem StreamOnly.traced {before after : World}
    (frame : StreamOnly before after) : Traced environment before after :=
  .of_inventory (congrArg Ledger.advert frame.ledger) frame.inventory
    (Prod.ext frame.openings frame.clockReadings)

/-- After a look at the bus the clock may be read for a report. -/
theorem ReportsOnly.traced_after {before between after : World} (frame : ReportsOnly between after)
    (traced : Traced environment before between)
    (settled : between.daemon.deviceSnapshotValid = true →
        before.Serves environment between.daemon.deviceSnapshot) :
    Traced environment before after where
  advert := (congrArg Ledger.advert frame.ledger).trans traced.advert
  cache := by
    rw [frame.inventory]
    exact traced.cache
  serves devices served := by
    rcases served with ⟨⟨valid, -⟩, rfl⟩ | lists
    · rw [frame.inventory] at valid ⊢
      exact settled valid
    · exact .inr (lists.of_advert ((congrArg Ledger.advert frame.ledger).trans traced.advert))
  openings := by
    rw [frame.openings]
    exact traced.openings

/-- Restarting a stream leaves the session and the inventory alone. -/
theorem Restreamed.traced {before after : World}
    (restreamed : Restreamed before.daemon after.daemon)
    (looks : after.looks = before.looks) :
    Traced environment before after :=
  .of_inventory ((congrArg Ledger.advert restreamed.ledger :)) restreamed.inventory looks

end Trace

/-! ## Looking at the bus -/

section Operations

variable (environment : Environment) (world : World)

/-- A refreshed snapshot is a listing of the bus by the daemon as it is. -/
theorem refreshSnapshot_source : ∃ daemon bus,
      daemon.toLedger = world.daemon.toLedger ∧
        daemon.toReceiver = world.daemon.toReceiver ∧
        bus ∈ Set.range environment.inventories ∧
        (refreshSnapshot environment world).1 = listing daemon bus ∧
        (refreshSnapshot environment world).2.daemon.deviceSnapshot =
          listing daemon bus := by
  have looked := (bootstrapColdDevices_inventoryOnly environment world
      openrspdMaxDevices).trans (enumerate_inventoryOnly environment _)
  refine ⟨_, _, looked.ledger, looked.receiver, ⟨_, rfl⟩, rfl, ?_⟩
  unfold refreshSnapshot
  dsimp only
  split <;> rfl

/-- A snapshot is the cached one, which stays, or a listing, which is
cached. -/
theorem snapshotSdrplayDevices_source :
    let devices := snapshotSdrplayDevices environment world
    (world.daemon.deviceSnapshotValid = true ∧
        (world.daemon.radio = none → world.CacheServed environment) ∧
        devices.1 = world.daemon.deviceSnapshot ∧
        devices.2.daemon.deviceSnapshot = world.daemon.deviceSnapshot) ∨
      ∃ daemon bus, daemon.toLedger = world.daemon.toLedger ∧
          daemon.toReceiver = world.daemon.toReceiver ∧
          bus ∈ Set.range environment.inventories ∧
          devices.1 = listing daemon bus ∧
          devices.2.daemon.deviceSnapshot = listing daemon bus := by
  have timed := clockGettime_inventoryOnly environment world
  have refreshed := refreshSnapshot_source environment (clockGettime environment world).2
  rw [timed.ledger, timed.receiver] at refreshed
  simp only [snapshotSdrplayDevices]
  split_ifs with invalid held
  · exact .inr (refreshSnapshot_source environment world)
  · refine .inl ⟨by simpa using invalid, fun closed => ?_, rfl, rfl⟩
    simp [closed] at held
  · split
    · exact .inr refreshed
    · rename_i now isNow
      split_ifs with fresh
      · have valid : world.daemon.deviceSnapshotValid = true := by
          simpa using invalid
        exact .inl ⟨valid, fun _ => ⟨valid, now, isNow, fresh⟩, rfl, rfl⟩
      · exact .inr refreshed

/-- Looking at the bus with no handle open. -/
structure World.LooksAt (before after : World) (devices : List DeviceRecord) :
    Prop where
  traced : Traced environment before after
  serves : before.Serves environment devices
  settled :
    after.daemon.deviceSnapshotValid = true → before.Serves environment after.daemon.deviceSnapshot

theorem snapshotSdrplayDevices_looks (closed : world.daemon.radio = none) :
    world.LooksAt environment
      (snapshotSdrplayDevices environment world).2
      (snapshotSdrplayDevices environment world).1 := by
  have frame := snapshotSdrplayDevices_inventoryOnly environment world
  have advert := congrArg Ledger.advert frame.ledger
  have opened : ∃ added, (snapshotSdrplayDevices environment world).2.openings =
            world.openings ++ added ∧
          ∀ opening ∈ added, opening.From environment world :=
    ⟨[], by simp [frame.openings], by simp⟩
  rcases snapshotSdrplayDevices_source environment world with
    ⟨valid, served, isServed, kept⟩ | ⟨daemon, bus, ledger, receiver, onBus, isListed, kept⟩
  · have serves (devices : List DeviceRecord)
        (cached : devices = world.daemon.deviceSnapshot) :
        world.Serves environment devices :=
      .inl ⟨served closed, cached⟩
    refine ⟨⟨advert, fun _ => .inl ⟨valid, kept⟩, ?_, opened⟩,
      serves _ isServed, fun _ => serves _ kept⟩
    rintro devices (⟨-, rfl⟩ | lists)
    · exact serves _ kept
    · exact .inr (lists.of_advert advert)
  · have lists : world.Lists environment (listing daemon bus) :=
      ⟨daemon, bus, (congrArg Receiver.radio receiver).trans closed,
        congrArg Ledger.advert ledger, onBus, rfl⟩
    refine ⟨⟨advert, fun _ => .inr (kept ▸ lists), ?_, opened⟩,
      .inr (isListed ▸ lists), fun _ => .inr (kept ▸ lists)⟩
    rintro devices (⟨-, rfl⟩ | listsLater)
    · exact .inr (kept ▸ lists)
    · exact .inr (listsLater.of_advert advert)

/-- Resolving the acquired receiver with no handle open. -/
theorem resolveAcquiredDevice_looks (closed : world.daemon.radio = none) :
    let resolved := resolveAcquiredDevice environment world
    ∃ devices, world.LooksAt environment resolved.2 devices ∧ ∀ index, resolved.1 = .ok index →
          ∃ identity, identity.unindexed =
                resolved.2.daemon.acquiredIdentity.unindexed ∧
              openrspIdentityResolve identity devices = .ok index := by
  obtain ⟨traced, serves, settled⟩ := snapshotSdrplayDevices_looks environment world closed
  refine ⟨(snapshotSdrplayDevices environment world).1, ⟨?_, serves, ?_⟩, ?_⟩
  · simp only [resolveAcquiredDevice]
    split
    · exact traced
    · exact traced.trans (.of_frame rfl (fun valid => ⟨valid, rfl, rfl⟩) rfl)
  · simp only [resolveAcquiredDevice]
    split <;> exact settled
  · intro index
    simp only [resolveAcquiredDevice]
    split
    · simp
    · rename_i found resolved
      intro isFound
      obtain rfl : found = index := Except.ok.inj isFound
      exact ⟨(snapshotSdrplayDevices environment world).2.daemon
        |>.acquiredIdentity, rfl, resolved⟩

theorem closeRadio_inventory : (closeRadio environment world).2.daemon.toInventory =
      world.daemon.toInventory := by
  simp only [closeRadio]
  split_ifs
  · rfl
  · rfl
  · exact (streamThreadEnds_streamOnly environment _).inventory

theorem closeRadio_looks :
    (closeRadio environment world).2.looks = world.looks := by
  simp only [closeRadio]
  split_ifs
  · rfl
  · rfl
  · have ended := streamThreadEnds_streamOnly environment
      ((world.advance .close).modify fun daemon =>
        { daemon with radio := none })
    exact Prod.ext ended.openings ended.clockReadings

theorem closeRadio_traced :
    Traced environment world (closeRadio environment world).2 :=
  .of_inventory
    (congrArg Ledger.advert (closeRadio_ledger environment world))
    (closeRadio_inventory environment world)
    (closeRadio_looks environment world)

/-- Opening the receiver a look at the bus resolved. -/
theorem openTuner_traced {before : World} {devices : List DeviceRecord}
    {index tuner : UInt32} {identity : AcquireRequest}
    (looked : before.LooksAt environment world devices)
    (same : identity.unindexed = world.daemon.acquiredIdentity.unindexed)
    (resolved : openrspIdentityResolve identity devices = .ok index) :
    Traced environment before (mirisdrOpenTuner environment world index tuner).2 := by
  obtain ⟨added, isAdded, addedFrom⟩ := looked.traced.openings
  refine ⟨looked.traced.advert, looked.traced.cache, looked.traced.serves,
    added ++ [⟨index, world.daemon.acquiredIdentity, world.inventory environment⟩], ?_, ?_⟩
  · rw [← List.append_assoc, ← isAdded]
    rfl
  · intro opening member
    rcases List.mem_append.mp member with inAdded | isLast
    · exact addedFrom opening inAdded
    · obtain rfl := List.mem_singleton.mp isLast
      exact ⟨⟨_, rfl⟩, identity, devices, same, looked.serves, resolved⟩

theorem stopStream_traced :
    Traced environment world (stopStream environment world).2 :=
  (stopStream_streamOnly environment world).traced

theorem duoResetHardware_inventory : (duoResetHardware environment world).2.daemon.toInventory =
      world.daemon.toInventory := by
  have stopped : (stopIfOpen environment world).2.daemon.toInventory =
        world.daemon.toInventory := by
    unfold stopIfOpen
    split_ifs
    · exact (stopStream_streamOnly environment world).inventory
    · rfl
  exact (closeRadio_inventory environment _).trans stopped

/-! ## Configuring -/

/-- A configuration looks at the bus, and opens what it finds there. -/
theorem tracedFrame : RequestFrame environment (Traced environment) where
  refl := .refl
  trans left right := left.trans right
  registers frame := frame.traced
  resolves world closed := by
    obtain ⟨devices, looked, -⟩ := resolveAcquiredDevice_looks environment world closed
    exact looked.traced
  opens world index tuner closed found := by
    obtain ⟨devices, looked, source⟩ := resolveAcquiredDevice_looks environment world closed
    obtain ⟨identity, same, resolved⟩ := source index found
    exact openTuner_traced environment _ looked same resolved
  closes := closeRadio_traced environment
  marks _ _ _ _ := .of_inventory rfl rfl rfl
  stops := stopStream_traced environment
  stores _ _ only := .of_inventory (congrArg Ledger.advert only.ledger :) only.inventory rfl

/-- The snapshot after both tuners have been configured from a closed handle
is that of one look at the bus. -/
theorem configureDualHandle_snapshot (config : DualConfig) (closed : world.daemon.radio = none) :
    let after := (configureDualHandle environment world config).2.daemon
    let looked := (snapshotSdrplayDevices environment world).2.daemon
    after.deviceSnapshot = looked.deviceSnapshot ∧
      after.deviceSnapshotValid = looked.deviceSnapshotValid := by
  have resolved :
      let after := (resolveAcquiredDevice environment world).2.daemon
      let looked := (snapshotSdrplayDevices environment world).2.daemon
      after.deviceSnapshot = looked.deviceSnapshot ∧
        after.deviceSnapshotValid = looked.deviceSnapshotValid := by
    simp only [resolveAcquiredDevice]
    split <;> exact ⟨rfl, rfl⟩
  have opened :
      let after := (openForDual environment world).2.daemon
      let looked := (snapshotSdrplayDevices environment world).2.daemon
      after.deviceSnapshot = looked.deviceSnapshot ∧
        after.deviceSnapshotValid = looked.deviceSnapshotValid := by
    simp only [openForDual, closed, Option.isSome_none, Bool.false_eq_true, if_false]
    split <;> exact resolved
  have written :=
    (writeDual_registersOnly environment (openForDual environment world).2 config).inventory
  simp only [configureDualHandle]
  split_ifs
  · exact opened
  · simp only [closeRadio_inventory, written]
    exact opened
  · simp only [World.modify_daemon, written]
    exact opened

/-! ## Recovering -/

theorem createStreamThread_looks :
    (createStreamThread environment world).2.looks = world.looks := by
  simp only [createStreamThread]
  split <;> rfl

theorem createStreamThread_traced :
    Traced environment world (createStreamThread environment world).2 :=
  (createStreamThread_restreamed environment world id (.refl _)).traced
    (createStreamThread_looks environment world)

theorem recoverDual_traced :
    Traced environment world (recoverDual environment world) := by
  have configured := (tracedFrame environment).configureDualRadio world world.daemon.dualConfig
  have armed := configured.modify armRestart rfl fun valid => ⟨valid, rfl, rfl⟩
  have created := armed.trans (createStreamThread_traced environment _)
  simp only [recoverDual]
  split_ifs
  · exact configured
  · exact created.modify restartFailed rfl fun valid => ⟨valid, rfl, rfl⟩
  · exact created

theorem recoverSingle_traced :
    Traced environment world (recoverSingle environment world) := by
  have configured := (tracedFrame environment).configureRadio world (bootstrapOrConfig world.daemon) 3
  have armed := configured.modify
      (fun daemon => armRestart { daemon with configured := true })
      rfl fun valid => ⟨valid, rfl, rfl⟩
  have created := armed.trans (createStreamThread_traced environment _)
  simp only [recoverSingle]
  split_ifs
  · exact configured.trans (closeRadio_traced environment _)
  · exact
      (created.modify restartFailed rfl fun valid => ⟨valid, rfl, rfl⟩).trans
        (closeRadio_traced environment _)
  · exact created.trans (.of_inventory rfl rfl rfl)

theorem reopenResolved_traced (closed : world.daemon.radio = none) :
    Traced environment world (reopenResolved environment world) := by
  obtain ⟨devices, looked, -⟩ := resolveAcquiredDevice_looks environment world closed
  simp only [reopenResolved]
  split
  · exact (noteUnresolved_reportsOnly environment _ _).traced_after looked.traced looked.settled
  · rename_i index _
    have noted := looked.traced.modify (noteResolved index) rfl fun valid => ⟨valid, rfl, rfl⟩
    unfold recoverMode
    split_ifs
    · exact noted.trans (recoverDual_traced environment _)
    · exact noted.trans (recoverSingle_traced environment _)

theorem recoverFailedStream_traced :
    Traced environment world (recoverFailedStream environment world) := by
  have joined :
      Traced environment world (joinFailed environment world) := by
    unfold joinFailed
    split_ifs
    · exact (joinStreamThread_streamOnly environment world).traced.trans (.of_inventory rfl rfl rfl)
    · exact .refl world
  have closed := joined.trans (closeRadio_traced environment _)
  have forgotten := closed.modify forgetConfigured rfl fun valid => ⟨valid, rfl, rfl⟩
  simp only [recoverFailedStream]
  split_ifs
  · exact .refl world
  · exact closed
  · unfold reopenFailedStream
    split_ifs
    · exact forgotten
    · exact (forgotten.modify invalidateSnapshot rfl (by rintro ⟨⟩)).trans
        (reopenResolved_traced environment _ (closeRadio_radio environment _))

theorem finishRecoveryConfig_traced :
    Traced environment world (finishRecoveryConfig environment world) := by
  simp only [finishRecoveryConfig]
  split_ifs
  · exact .refl world
  · exact (writeRecoveryConfig_registersOnly environment world _ _).traced
      |>.trans (.of_inventory rfl rfl rfl)

/-! ## Requests of an owner -/

variable (descriptor : Int)

theorem serveStart_traced :
    Traced environment world (serveStart world descriptor).world := by
  unfold serveStart
  split_ifs
  · exact .of_inventory rfl rfl rfl
  · exact .refl world

theorem serveUpdate_traced (update : UpdateRequest) :
    Traced environment world (serveUpdate environment world descriptor update).world := by
  have applied :
      Traced environment world (stopAndApplyUpdate environment world update).2 := by
    have stopped := stopStream_traced environment world
    simp only [stopAndApplyUpdate]
    split_ifs
    · exact stopped
    · exact stopped.trans ((tracedFrame environment).applyUpdate _ update)
    · exact (tracedFrame environment).applyUpdate world update
  simp only [serveUpdate]
  split_ifs
  · exact .refl world
  · exact .of_inventory rfl rfl rfl
  · exact applied.trans (.of_inventory rfl rfl rfl)
  · exact applied
  · exact .refl world

/-! ## Requests of a role -/

theorem serveDuoConfigure_traced (config : RadioConfig) :
    Traced environment world (serveDuoConfigure environment world descriptor config).world := by
  have written : Traced environment world _ := (writeRunningConfig_registersOnly environment world
      (world.daemon.duoConfig.channel config.tuner) config).traced
  have applied :
      Traced environment world (duoApplyRunningConfig environment world config).2 := by
    simp only [duoApplyRunningConfig]
    split_ifs
    · exact .refl world
    · exact .refl world
    · exact written
    · exact written.trans (.of_inventory rfl rfl rfl)
  refine withDuoRole_outcome world descriptor _
    (fun handled => Traced environment world handled.world) (.refl world) ?_
  intro role isRole active found
  simp only
  split_ifs
  · exact .refl world
  · refine applied.trans (.of_inventory ?_ ?_ rfl) <;>
      simp only [Handled.reply_world, World.modify_daemon, storeDuoConfig] <;>
      split <;> rfl
  · exact applied

theorem serveDuoUpdate_traced (update : UpdateRequest) :
    Traced environment world (serveDuoUpdate environment world descriptor update).world := by
  refine withDuoRole_outcome world descriptor _
    (fun handled => Traced environment world handled.world) (.refl world) ?_
  intro role isRole active found
  simp only
  split_ifs
  · exact .refl world
  · exact .refl world
  · exact (tracedFrame environment).applyUpdate world update

/-- The session's master and rate decide what is advertised. -/
theorem Ledger.advert_duo (ledger : Ledger) {session : DuoSession}
    (selected : session.masterSelected = ledger.duo.masterSelected)
    (rate : session.sampleRateHz = ledger.duo.sampleRateHz) :
    { ledger with duo := session }.advert = ledger.advert := by
  simp only [Ledger.advert, selected, rate]

theorem openrspdDuoInitialise_rate (session : DuoSession) :
    (openrspdDuoInitialise session descriptor).session.sampleRateHz =
      session.sampleRateHz := by
  have transition := duoTransition_apply session (.initialise descriptor)
  simp only [DuoOp.apply] at transition
  generalize openrspdDuoInitialise session descriptor = returned at transition ⊢
  cases transition <;> rfl

theorem openrspdDuoUninitialise_rate (session : DuoSession) :
    (openrspdDuoUninitialise session descriptor).session.sampleRateHz =
      session.sampleRateHz := by
  have transition := duoTransition_apply session (.uninitialise descriptor)
  simp only [DuoOp.apply] at transition
  generalize openrspdDuoUninitialise session descriptor = returned at transition ⊢
  cases transition <;> rfl

theorem duoPrepareConfig_inventory (daemon : DaemonState) :
    (duoPrepareConfig daemon).2.toInventory = daemon.toInventory := by
  simp only [duoPrepareConfig]
  split <;> rfl

/-- Preparing the shared configuration is no matter of the session or the
snapshot. -/
theorem duoPrepareConfig_traced :
    Traced environment world (world.modify fun _ => (duoPrepareConfig world.daemon).2) := by
  refine .of_inventory ?_ (duoPrepareConfig_inventory world.daemon) rfl
  simp only [World.modify_daemon, duoPrepareConfig]
  split <;> rfl

theorem startMaster_traced (event : DuoEvent) (active : world.daemon.duoActive = true) :
    Traced environment world (startMaster environment world event).world := by
  have prepared := duoPrepareConfig_traced environment world
  have configured := prepared.trans ((tracedFrame environment).configureDualRadio _
      (duoPrepareConfig world.daemon).2.duoConfig)
  simp only [startMaster]
  split_ifs
  · exact prepared.trans (.of_inventory rfl rfl rfl)
  · have stays : (duoPrepareConfig world.daemon).2.duoActive = true :=
      (congrArg Holdings.duoActive (duoPrepareConfig_holdings world.daemon)).trans active
    refine configured.trans (.of_inventory ?_ rfl rfl)
    simp [Ledger.advert, stays]
  · exact configured.trans (.of_inventory rfl rfl rfl)

theorem serveDuoStart_traced :
    Traced environment world (serveDuoStart environment world descriptor).world := by
  refine withDuoRole_outcome world descriptor _
    (fun handled => Traced environment world handled.world) (.refl world) ?_
  intro role isRole active found
  have marked : Traced environment world
        (world.modify fun daemon =>
          { daemon with
            duo := (openrspdDuoInitialise world.daemon.duo descriptor).session }) :=
    .of_inventory
      (Ledger.advert_duo _
        (sameRoles_initialise descriptor world.daemon.duo).masterSelected
        (openrspdDuoInitialise_rate descriptor world.daemon.duo)) rfl rfl
  simp only
  split_ifs
  · exact marked
  · exact marked.trans (startMaster_traced environment _ _ active)
  · unfold startSlave
    split_ifs
    · exact marked.trans (.of_inventory rfl rfl rfl)
    · exact marked

theorem serveDuoStop_traced :
    Traced environment world (serveDuoStop environment world descriptor).world := by
  refine withDuoRole_outcome world descriptor _
    (fun handled => Traced environment world handled.world) (.refl world) ?_
  intro role isRole active found
  have marked : Traced environment world
        (world.modify fun daemon =>
          { daemon with
            duo := (openrspdDuoUninitialise world.daemon.duo descriptor).session }) :=
    .of_inventory
      (Ledger.advert_duo _
        (sameRoles_uninitialise descriptor world.daemon.duo).masterSelected
        (openrspdDuoUninitialise_rate descriptor world.daemon.duo)) rfl rfl
  simp only
  split_ifs
  · exact marked.trans ((tracedFrame environment).duoResetHardware _)
  · exact marked

theorem serveLockApi_traced :
    Traced environment world (serveLockApi world descriptor).world := by
  unfold serveLockApi
  split_ifs
  · exact .refl world
  · exact .of_inventory rfl rfl rfl

theorem releaseApiLock_traced :
    Traced environment world (releaseApiLock world descriptor) := by
  unfold releaseApiLock
  split_ifs
  · exact .refl world
  · exact .of_inventory rfl rfl rfl

theorem serveUnlockApi_traced :
    Traced environment world (serveUnlockApi world descriptor).world := by
  unfold serveUnlockApi
  split_ifs
  · exact releaseApiLock_traced environment world descriptor
  · exact .refl world

/-! ## Answering -/

theorem writeDevices_looks (sequence : UInt32) (devices : List DeviceRecord) :
    (writeDevices environment descriptor sequence devices world).2.looks =
      world.looks := by
  induction devices generalizing world with
  | nil => rfl
  | cons record rest inductionHypothesis =>
      simp only [writeDevices]
      split_ifs
      · rfl
      · exact (inductionHypothesis _).trans rfl

theorem sendDuoEvent_looks (event : DuoEvent) :
    (sendDuoEvent environment world event).2.looks = world.looks := by
  simp only [sendDuoEvent]
  split_ifs <;> rfl

theorem continueWith_looks {first next : World → Int × World}
    (begins : ∀ before, (first before).2.looks = before.looks)
    (continues : ∀ before, (next before).2.looks = before.looks)
    (world : World) :
    (continueWith first next world).2.looks = world.looks := by
  unfold continueWith
  split
  · exact begins world
  · exact (continues _).trans (begins world)

theorem startStreams_looks (command : Command) (handled : Handled) :
    (startStreams environment command handled world).2.looks =
      world.looks := by
  refine continueWith_looks (fun before => ?_)
    (continueWith_looks (fun before => ?_)
      (continueWith_looks (fun before => ?_) fun _ => rfl)) world
  · unfold startDuo
    split
    · exact createStreamThread_looks environment _
    · rfl
  · have created := createStreamThread_looks environment
        (before.modify fun daemon => { daemon with loggedUsbIq := false })
    simp only [startPlain]
    split_ifs
    · exact created
    · exact created
    · rfl
  · unfold startAgain
    split
    · exact createStreamThread_looks environment _
    · rfl

/-- Answering a request opens no receiver and looks at no bus. -/
theorem respond_looks (sequence : UInt32) (command : Command) (handled : Handled) :
    (respond environment descriptor sequence command handled).2.looks =
      handled.world.looks := by
  refine continueWith_looks (fun _ => rfl)
    (continueWith_looks (fun before => ?_)
      (continueWith_looks (fun before => ?_)
        fun before =>
          startStreams_looks environment before command handled))
    handled.world
  · unfold writeList
    split
    · exact writeDevices_looks environment before descriptor sequence _
    · rfl
  · unfold writeEvent
    split
    · exact sendDuoEvent_looks environment before _
    · rfl

theorem respond_traced (sequence : UInt32) (command : Command) (handled : Handled) :
    Traced environment handled.world (respond environment descriptor sequence command handled).2 :=
  (respond_restreamed environment descriptor sequence command
    handled).traced (respond_looks environment descriptor sequence command handled)

/-! ## Leaving -/

theorem stopIfOpen_looks :
    (stopIfOpen environment world).2.looks = world.looks := by
  have stopped := stopStream_streamOnly environment world
  unfold stopIfOpen
  split_ifs
  · exact Prod.ext stopped.openings stopped.clockReadings
  · rfl

theorem releaseOwner_traced :
    Traced environment world (releaseOwner environment world) :=
  ((tracedFrame environment).closeLeft world).modify forgetOwner rfl fun valid => ⟨valid, rfl, rfl⟩

theorem releaseOwner_looks :
    (releaseOwner environment world).looks = world.looks := by
  have closed (before : World) (due : Prop) [Decidable due] :
      (if due then closeUnconfigured environment before else before).looks = before.looks := by
    split
    · exact closeRadio_looks environment before
    · rfl
  exact (closed _ _).trans ((closed _ _).trans (stopIfOpen_looks environment world))

theorem tearDownDuo_looks :
    (tearDownDuo environment world).looks = world.looks :=
  (closeRadio_looks environment _).trans (stopIfOpen_looks environment world)

theorem releaseDuoClient_looks : (releaseDuoClient environment world descriptor).looks =
      world.looks := by
  have notified := sendDuoEvent_looks environment
      (world.modify fun daemon =>
        { daemon with
          duo := (openrspdDuoDisconnect daemon.duo descriptor).session })
      (openrspdDuoDisconnect world.daemon.duo descriptor).event
  simp only [releaseDuoClient]
  split_ifs
  · exact (tearDownDuo_looks environment _).trans notified
  · exact notified

/-- Releasing a client opens nothing. -/
theorem releaseClient_looks :
    (releaseClient environment world descriptor).looks = world.looks := by
  unfold releaseClient
  split_ifs
  · exact releaseDuoClient_looks environment world descriptor
  · rfl
  · exact releaseOwner_looks environment world

theorem openrspdDuoDisconnect_leaves (session : DuoSession) :
    (openrspdDuoDisconnect session descriptor).session =
        openrspdDuoSessionInit ∨
      ((openrspdDuoDisconnect session descriptor).session.masterSelected =
          session.masterSelected ∧
        (openrspdDuoDisconnect session descriptor).session.sampleRateHz =
          session.sampleRateHz) := by
  unfold openrspdDuoDisconnect
  split_ifs
  · exact .inr ⟨rfl, rfl⟩
  · exact .inr ⟨rfl, rfl⟩
  · exact .inl rfl
  · exact .inl rfl
  · exact .inr ⟨rfl, rfl⟩

/-- Unless the last role went with it, a departure leaves the master and its
rate. -/
theorem releaseDuoClient_traced : Traced environment world
        (releaseDuoClient environment world descriptor) ∨
      (releaseDuoClient environment world descriptor).daemon.deviceSnapshotValid = false := by
  simp only [releaseDuoClient]
  split_ifs with empty
  · exact .inr rfl
  · left
    rw [sendDuoEvent_daemon] at empty
    rcases openrspdDuoDisconnect_leaves descriptor world.daemon.duo with
      cleared | ⟨selected, rate⟩
    · exact absurd (by simp [cleared, openrspdDuoSessionInit]) empty
    · refine .of_inventory ?_ ?_ (sendDuoEvent_looks environment _ _)
      · rw [sendDuoEvent_daemon]
        exact Ledger.advert_duo _ selected rate
      · rw [sendDuoEvent_daemon]
        rfl

/-- Releasing a client keeps what is advertised or drops the snapshot. -/
theorem releaseClient_traced :
    Traced environment world (releaseClient environment world descriptor) ∨
      (releaseClient environment world descriptor).daemon.deviceSnapshotValid = false := by
  unfold releaseClient
  split_ifs
  · exact releaseDuoClient_traced environment world descriptor
  · exact .inl (.refl world)
  · exact .inl (releaseOwner_traced environment world)

end Operations

/-- One receiver with two seconds between any two readings of the clock. -/
def slowReceiver : Environment :=
  { oneReceiver with clock := fun reading => some (2000000000 * reading) }

end OpenRsp
