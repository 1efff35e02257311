import OpenRsp.Daemon.Frames

/-!
# Operations that keep the ledger

Socket writes write only the trace.  Driver calls, stopping, closing, opening
and configuring never write the ledger, so a property of the ledger is
settled by the request handlers alone.
-/

namespace OpenRsp

section Frames

variable (environment : Environment) (world : World)

/-! ## Driver calls and writes -/

@[simp]
theorem driverCall_ledger (call : Call) (effect : Int → Radio → Radio) :
    (driverCall environment world call effect).2.daemon.toLedger =
      world.daemon.toLedger :=
  rfl

@[simp]
theorem mirisdrOpenTuner_ledger (index tuner : UInt32) :
    (mirisdrOpenTuner environment world index tuner).2.daemon.toLedger =
      world.daemon.toLedger :=
  rfl

@[simp]
theorem writeFrame_daemon (descriptor : Int) (frame : Frame) :
    (writeFrame environment world descriptor frame).2.daemon =
      world.daemon :=
  rfl

@[simp]
theorem sendDuoEvent_daemon (event : DuoEvent) :
    (sendDuoEvent environment world event).2.daemon = world.daemon := by
  unfold sendDuoEvent
  split <;> rfl

@[simp]
theorem writeDevices_daemon (descriptor : Int) (sequence : UInt32) (records : List DeviceRecord) :
    (writeDevices environment descriptor sequence records world).2.daemon =
      world.daemon := by
  induction records generalizing world with
  | nil => rfl
  | cons record rest inductionHypothesis =>
      simp only [writeDevices]
      split
      · rfl
      · rw [inductionHypothesis, writeFrame_daemon]

/-! ## The stream thread and the handle -/

@[simp]
theorem streamThreadEnds_ledger : (streamThreadEnds environment world).daemon.toLedger =
      world.daemon.toLedger := by
  unfold streamThreadEnds
  split <;> rfl

@[simp]
theorem joinStreamThread_ledger : (joinStreamThread environment world).daemon.toLedger =
      world.daemon.toLedger := by
  unfold joinStreamThread
  split
  · exact streamThreadEnds_ledger environment world
  · rfl

@[simp]
theorem createStreamThread_ledger : (createStreamThread environment world).2.daemon.toLedger =
      world.daemon.toLedger := by
  simp only [createStreamThread]
  split
  · rfl
  · simp only [World.modify_daemon]
    split <;> rfl

@[simp]
theorem stopStream_ledger : (stopStream environment world).2.daemon.toLedger =
      world.daemon.toLedger := by
  simp only [stopStream]
  split
  · rfl
  · simp only [World.modify_daemon, joinStreamThread_ledger]
    split <;> rfl

@[simp]
theorem stopIfOpen_ledger : (stopIfOpen environment world).2.daemon.toLedger =
      world.daemon.toLedger := by
  unfold stopIfOpen
  split
  · exact stopStream_ledger environment world
  · rfl

@[simp]
theorem closeRadio_ledger : (closeRadio environment world).2.daemon.toLedger =
      world.daemon.toLedger := by
  simp only [closeRadio]
  split
  · rfl
  · split
    · rfl
    · rw [streamThreadEnds_ledger]
      rfl

/-! ## Configuring -/

/-- No part of a configuration writes the ledger. -/
theorem ledgerFrame : ConfigurationFrame environment fun before after =>
    after.daemon.toLedger = before.daemon.toLedger where
  refl _ := rfl
  trans left right := right.trans left
  registers frame := frame.ledger
  resolves world _ := (resolveAcquiredDevice_inventoryOnly environment world).ledger
  opens world _ _ _ _ := (resolveAcquiredDevice_inventoryOnly environment world).ledger
  closes := closeRadio_ledger environment
  marks _ _ _ _ := rfl

/-- No request of an owner writes more of the ledger than its settings. -/
theorem ledgerView {View : Type} (view : Ledger → View)
    (settings : ∀ {before after : DaemonState},
      SettingsOnly before after → view after.toLedger = view before.toLedger) :
    RequestFrame environment fun before after =>
      view after.daemon.toLedger = view before.daemon.toLedger where
  refl _ := rfl
  trans left right := right.trans left
  registers frame := congrArg view frame.ledger
  resolves world _ := congrArg view (resolveAcquiredDevice_inventoryOnly environment world).ledger
  opens world _ _ _ _ :=
    congrArg view (resolveAcquiredDevice_inventoryOnly environment world).ledger
  closes world := congrArg view (closeRadio_ledger environment world)
  marks _ _ _ _ := rfl
  stops world := congrArg view (stopStream_ledger environment world)
  stores _ _ only := settings only

@[simp]
theorem configureRadio_ledger (config : RadioConfig) (maxAttempts : Nat) :
    (configureRadio environment world config maxAttempts).2.daemon.toLedger =
      world.daemon.toLedger :=
  (ledgerFrame environment).configureRadio world config maxAttempts

@[simp]
theorem configureDualRadio_ledger (config : DualConfig) :
    (configureDualRadio environment world config).2.daemon.toLedger =
      world.daemon.toLedger :=
  (ledgerFrame environment).configureDualRadio world config

@[simp]
theorem writeUpdate_ledger (old next : RadioConfig) (flags : UInt32) :
    (writeUpdate environment world old next flags).2.daemon.toLedger = world.daemon.toLedger :=
  (writeUpdate_registersOnly ..).ledger

@[simp]
theorem writeDualUpdate_ledger (next : RadioConfig) (flags : UInt32) :
    (writeDualUpdate environment world next flags).2.daemon.toLedger = world.daemon.toLedger :=
  (writeDualUpdate_registersOnly ..).ledger

@[simp]
theorem writeRunningConfig_ledger (current config : RadioConfig) :
    (writeRunningConfig environment world current config).2.daemon.toLedger =
      world.daemon.toLedger :=
  (writeRunningConfig_registersOnly ..).ledger

/-- A dual update leaves the ledger alone: its configuration is stored with
the handle. -/
@[simp]
theorem applyDualUpdate_ledger (next : RadioConfig) (flags : UInt32) :
    (applyDualUpdate environment world next flags).2.daemon.toLedger =
      world.daemon.toLedger := by
  simp only [applyDualUpdate]
  split_ifs <;> simp

@[simp]
theorem duoResetHardware_ledger : (duoResetHardware environment world).2.daemon.toLedger =
      world.daemon.toLedger := by
  simp [duoResetHardware]

end Frames

/-! ## Reports -/

/-- Two worlds that differ at most in the reports, the trace and the
clock. -/
structure ReportsOnly (before after : World) : Prop where
  ledger : after.daemon.toLedger = before.daemon.toLedger
  receiver : after.daemon.toReceiver = before.daemon.toReceiver
  stream : after.daemon.toStreamState = before.daemon.toStreamState
  inventory : after.daemon.toInventory = before.daemon.toInventory
  running : after.running = before.running
  openings : after.openings = before.openings
  opened : after.used .openTuner = before.used .openTuner

theorem ReportsOnly.trans {first second third : World}
    (left : ReportsOnly first second) (right : ReportsOnly second third) :
    ReportsOnly first third where
  ledger := right.ledger.trans left.ledger
  receiver := right.receiver.trans left.receiver
  stream := right.stream.trans left.stream
  inventory := right.inventory.trans left.inventory
  running := right.running.trans left.running
  openings := right.openings.trans left.openings
  opened := right.opened.trans left.opened

theorem ReportsOnly.modify
    {world : World} (change : DaemonState → DaemonState)
    (ledger : (change world.daemon).toLedger = world.daemon.toLedger)
    (receiver : (change world.daemon).toReceiver = world.daemon.toReceiver)
    (stream : (change world.daemon).toStreamState = world.daemon.toStreamState)
    (inventory : (change world.daemon).toInventory = world.daemon.toInventory) :
    ReportsOnly world (world.modify change) :=
  ⟨ledger, receiver, stream, inventory, rfl, rfl, rfl⟩

section Reports

variable (environment : Environment) (world : World)

theorem sendRemovalNotice_reportsOnly (descriptor : Int) (tuner : UInt32) :
    ReportsOnly world (sendRemovalNotice environment world descriptor tuner) := by
  simp only [sendRemovalNotice]
  split_ifs <;> exact ⟨rfl, rfl, rfl, rfl, rfl, rfl, rfl⟩

theorem reportRemovedDevice_reportsOnly :
    ReportsOnly world (reportRemovedDevice environment world) := by
  simp only [reportRemovedDevice]
  split
  · exact (sendRemovalNotice_reportsOnly environment world _ _).trans
      (sendRemovalNotice_reportsOnly environment _ _ _)
  · exact sendRemovalNotice_reportsOnly environment world _ _

theorem noteUnresolved_reportsOnly (failure : Int) :
    ReportsOnly world (noteUnresolved environment world failure) := by
  have noted {after : World} (status : Int)
      (frame : ReportsOnly world after) :
      ReportsOnly world
        (after.modify fun daemon =>
          { daemon with recoveryIdentityStatus := status }) :=
    frame.trans ⟨rfl, rfl, rfl, rfl, rfl, rfl, rfl⟩
  simp only [noteUnresolved]
  split_ifs
  · refine noted failure (.trans ?_ (reportRemovedDevice_reportsOnly environment _))
    exact ⟨rfl, rfl, rfl, rfl, rfl, rfl, rfl⟩
  · exact noted failure ⟨rfl, rfl, rfl, rfl, rfl, rfl, rfl⟩
  · exact noted failure ⟨rfl, rfl, rfl, rfl, rfl, rfl, rfl⟩

/-- Delivering a block touches counters and the trace only. -/
theorem sendStream_reportsOnly (tuner length : UInt32) :
    ReportsOnly world (sendStream environment world tuner length) := by
  have noted : ReportsOnly world (world.modify noteFirstIq) := by
    refine .modify _ ?_ ?_ ?_ ?_ <;> unfold noteFirstIq <;> split <;> rfl
  have counted (before : World) :
      ReportsOnly before (before.modify (countBlock · tuner)) := by
    refine .modify _ ?_ ?_ ?_ ?_ <;> unfold countBlock <;> split <;> rfl
  have both := noted.trans (counted _)
  simp only [sendStream]
  split_ifs
  · exact noted
  · exact both
  all_goals exact both.trans ⟨rfl, rfl, rfl, rfl, rfl, rfl, rfl⟩

end Reports

/-! ## Recovery -/

/-- The ledger but for the flag of `recover_failed_stream` that the newest
configuration has still to be written. -/
def Ledger.requests (ledger : Ledger) : Ledger :=
  { ledger with recoveryConfigPending := false }

section Recovery

variable (environment : Environment) (world : World)

theorem recoverDual_requests : (recoverDual environment world).daemon.toLedger.requests =
      world.daemon.toLedger.requests := by
  simp only [recoverDual]
  split_ifs <;> simp [armRestart, restartFailed]

theorem recoverSingle_requests : (recoverSingle environment world).daemon.toLedger.requests =
      world.daemon.toLedger.requests := by
  simp only [recoverSingle]
  split_ifs <;> simp [Ledger.requests, armRestart, restartFailed]

theorem reopenResolved_requests : (reopenResolved environment world).daemon.toLedger.requests =
      world.daemon.toLedger.requests := by
  have resolved := (resolveAcquiredDevice_inventoryOnly environment world).ledger
  simp only [reopenResolved, recoverMode]
  split
  · exact congrArg Ledger.requests
      ((noteUnresolved_reportsOnly environment _ _).ledger.trans resolved)
  · split
    · exact (recoverDual_requests environment _).trans (congrArg Ledger.requests resolved)
    · exact (recoverSingle_requests environment _).trans (congrArg Ledger.requests resolved)

theorem reopenFailedStream_requests :
    (reopenFailedStream environment world).daemon.toLedger.requests =
      world.daemon.toLedger.requests := by
  unfold reopenFailedStream
  split
  · rfl
  · exact reopenResolved_requests environment _

theorem recoverFailedStream_requests :
    (recoverFailedStream environment world).daemon.toLedger.requests =
      world.daemon.toLedger.requests := by
  have joined : (joinFailed environment world).daemon.toLedger =
        world.daemon.toLedger := by
    unfold joinFailed
    split <;> simp
  have closed := congrArg Ledger.requests
      ((closeRadio_ledger environment (joinFailed environment world)).trans joined)
  simp only [recoverFailedStream]
  split_ifs
  · rfl
  · exact closed
  · exact (reopenFailedStream_requests environment _).trans closed

theorem finishRecoveryConfig_requests :
    (finishRecoveryConfig environment world).daemon.toLedger.requests =
      world.daemon.toLedger.requests := by
  have wrote := congrArg Ledger.requests
      (writeRecoveryConfig_registersOnly environment world (bootstrapOrConfig world.daemon)
        world.daemon.config).ledger
  simp only [finishRecoveryConfig]
  split_ifs
  · rfl
  · exact wrote

end Recovery

/-! ## Answering -/

/-- Two daemon states that differ at most in the stream, its counters and
whether recovery has still to write the newest configuration. -/
structure Restreamed (before after : DaemonState) : Prop where
  ledger :
    { after.toLedger with
      recoveryConfigPending := before.recoveryConfigPending } =
      before.toLedger
  receiver : after.toReceiver = before.toReceiver
  inventory : after.toInventory = before.toInventory

theorem Restreamed.refl (daemon : DaemonState) : Restreamed daemon daemon := ⟨rfl, rfl, rfl⟩

theorem Restreamed.of_eq {before after : DaemonState}
    (same : after = before) : Restreamed before after :=
  same ▸ .refl before

theorem Restreamed.trans {first second third : DaemonState}
    (left : Restreamed first second) (right : Restreamed second third) :
    Restreamed first third where
  ledger := by
    rw [← left.ledger, ← right.ledger]
  receiver := right.receiver.trans left.receiver
  inventory := right.inventory.trans left.inventory

section Responses

variable (environment : Environment)

/-- A relation both parts keep is kept by the whole. -/
theorem continueWith_restreamed
    {first next : World → Int × World}
    (firstKeeps : ∀ before, Restreamed before.daemon (first before).2.daemon)
    (nextKeeps : ∀ before, Restreamed before.daemon (next before).2.daemon)
    (world : World) :
    Restreamed world.daemon (continueWith first next world).2.daemon := by
  unfold continueWith
  split
  · exact firstKeeps world
  · exact (firstKeeps world).trans (nextKeeps _)

/-- Preparing the stream flags and creating the thread. -/
theorem createStreamThread_restreamed (world : World) (change : DaemonState → DaemonState)
    (prepared : Restreamed world.daemon (change world.daemon)) :
    Restreamed world.daemon (createStreamThread environment (world.modify change)).2.daemon := by
  refine prepared.trans ?_
  simp only [createStreamThread]
  split
  · exact .refl _
  · simp only [World.modify_daemon]
    split <;> exact ⟨rfl, rfl, rfl⟩

theorem startStreams_restreamed (command : Command) (handled : Handled) (world : World) :
    Restreamed world.daemon (startStreams environment command handled world).2.daemon := by
  refine continueWith_restreamed (fun before => ?_)
    (continueWith_restreamed (fun before => ?_)
      (continueWith_restreamed (fun before => ?_) fun before => .refl _)) world
  · unfold startDuo
    split
    · exact createStreamThread_restreamed environment before _ ⟨rfl, rfl, rfl⟩
    · exact .refl _
  · have created := createStreamThread_restreamed environment before
        (fun daemon => { daemon with loggedUsbIq := false }) ⟨rfl, rfl, rfl⟩
    simp only [startPlain]
    split_ifs
    · exact created.trans ⟨rfl, rfl, rfl⟩
    · exact created
    · exact .refl _
  · unfold startAgain
    split
    · exact createStreamThread_restreamed environment before _ ⟨rfl, rfl, rfl⟩
    · exact .refl _

/-- Answering a request only starts streams. -/
theorem respond_restreamed (descriptor : Int) (sequence : UInt32) (command : Command)
    (handled : Handled) :
    Restreamed handled.world.daemon
      (respond environment descriptor sequence command handled).2.daemon := by
  refine continueWith_restreamed (fun before => .refl _)
    (continueWith_restreamed (fun before => .of_eq ?_)
      (continueWith_restreamed (fun before => .of_eq ?_)
        (startStreams_restreamed environment command handled)))
    handled.world
  · unfold writeList
    split <;> simp
  · unfold writeEvent
    split <;> simp

end Responses

end OpenRsp
