import OpenRsp.Daemon.Server

/-!
# What the hardware operations leave alone

Enumeration writes only the inventory, and the setters only registers of the
open handle.  `configure_radio` and `configure_dual_radio` are made of these,
of opening and closing the handle and of marks for what it is configured for,
so what all of them keep a configuration keeps.
-/

namespace OpenRsp

/-! ## Enumeration -/

/-- Two worlds that differ at most in the inventory and what has been used
of the bus, the clock and the firmware loader. -/
structure InventoryOnly (before after : World) : Prop where
  ledger : after.daemon.toLedger = before.daemon.toLedger
  receiver : after.daemon.toReceiver = before.daemon.toReceiver
  stream : after.daemon.toStreamState = before.daemon.toStreamState
  reports : after.daemon.toReports = before.daemon.toReports
  running : after.running = before.running
  sent : after.sent = before.sent
  openings : after.openings = before.openings
  used : ∀ call, call ≠ .coldOpen → after.used call = before.used call

theorem InventoryOnly.refl (world : World) : InventoryOnly world world :=
  ⟨rfl, rfl, rfl, rfl, rfl, rfl, rfl, fun _ _ => rfl⟩

theorem InventoryOnly.trans {first second third : World} (left : InventoryOnly first second)
    (right : InventoryOnly second third) : InventoryOnly first third where
  ledger := right.ledger.trans left.ledger
  receiver := right.receiver.trans left.receiver
  stream := right.stream.trans left.stream
  reports := right.reports.trans left.reports
  running := right.running.trans left.running
  sent := right.sent.trans left.sent
  openings := right.openings.trans left.openings
  used call other := (right.used call other).trans (left.used call other)

/-- Changing nothing but inventory fields afterwards. -/
theorem InventoryOnly.modify {before after : World} (frame : InventoryOnly before after)
    (change : DaemonState → DaemonState)
    (ledger : (change after.daemon).toLedger = after.daemon.toLedger)
    (receiver : (change after.daemon).toReceiver = after.daemon.toReceiver)
    (stream : (change after.daemon).toStreamState = after.daemon.toStreamState)
    (reports : (change after.daemon).toReports = after.daemon.toReports) :
    InventoryOnly before (after.modify change) where
  ledger := ledger.trans frame.ledger
  receiver := receiver.trans frame.receiver
  stream := stream.trans frame.stream
  reports := reports.trans frame.reports
  running := frame.running
  sent := frame.sent
  openings := frame.openings
  used := frame.used

theorem InventoryOnly.result {before after : World}
    (frame : InventoryOnly before after) (environment : Environment)
    {call : Call} (other : call ≠ .coldOpen) :
    after.result environment call = before.result environment call := by
  simp only [World.result, frame.used call other]

section Enumeration

variable (environment : Environment) (world : World)

theorem enumerate_inventoryOnly :
    InventoryOnly world (enumerate environment world).2 :=
  ⟨rfl, rfl, rfl, rfl, rfl, rfl, rfl, fun _ _ => rfl⟩

theorem clockGettime_inventoryOnly :
    InventoryOnly world (clockGettime environment world).2 :=
  ⟨rfl, rfl, rfl, rfl, rfl, rfl, rfl, fun _ _ => rfl⟩

theorem advance_coldOpen_inventoryOnly :
    InventoryOnly world (world.advance .coldOpen) :=
  ⟨rfl, rfl, rfl, rfl, rfl, rfl, rfl, fun _ other =>
    World.advance_used_of_ne world other⟩

theorem bootstrapColdDevices_inventoryOnly (passes : Nat) :
    InventoryOnly world (bootstrapColdDevices environment passes world) := by
  induction passes generalizing world with
  | zero => exact .refl world
  | succ passes inductionHypothesis =>
      have looked := enumerate_inventoryOnly environment world
      have booted := looked.trans (advance_coldOpen_inventoryOnly _)
      simp only [bootstrapColdDevices]
      split_ifs
      · exact .refl world
      · exact booted
      · exact booted.trans (inductionHypothesis _)
      · exact looked

theorem refreshSnapshot_inventoryOnly :
    InventoryOnly world (refreshSnapshot environment world).2 := by
  have booted := bootstrapColdDevices_inventoryOnly environment world openrspdMaxDevices
  have looked := booted.trans (enumerate_inventoryOnly environment _)
  simp only [refreshSnapshot]
  split
  · exact (looked.modify _ rfl rfl rfl rfl).trans (clockGettime_inventoryOnly environment _)
  · exact ((looked.modify _ rfl rfl rfl rfl).trans
      (clockGettime_inventoryOnly environment _)).modify _ rfl rfl rfl rfl

theorem snapshotSdrplayDevices_inventoryOnly :
    InventoryOnly world (snapshotSdrplayDevices environment world).2 := by
  have timed := clockGettime_inventoryOnly environment world
  simp only [snapshotSdrplayDevices]
  split_ifs
  · exact refreshSnapshot_inventoryOnly environment world
  · exact .refl world
  · split
    · exact timed.trans (refreshSnapshot_inventoryOnly environment _)
    · split_ifs
      · exact timed
      · exact timed.trans (refreshSnapshot_inventoryOnly environment _)

theorem resolveAcquiredDevice_inventoryOnly :
    InventoryOnly world (resolveAcquiredDevice environment world).2 := by
  have listed := snapshotSdrplayDevices_inventoryOnly environment world
  simp only [resolveAcquiredDevice]
  split
  · exact listed
  · dsimp only
    exact listed.modify _ rfl rfl rfl rfl

end Enumeration

/-! ## Register writes -/

/-- Calls that write registers of an open handle. -/
def Call.writesRegisters : Call → Bool
  | .configureRspduo | .configureRspduoDual | .updateRspduoDual
  | .setSampleRate | .setCenterFreq | .setBandwidth | .setIfFreq
  | .setRspduoGain | .setRspduoControls => true
  | _ => false

/-- A handle without its registers. -/
def Radio.unregistered (radio : Radio) : Nat × UInt32 × UInt32 :=
  (radio.handle, radio.index, radio.tuner)

/-- Two worlds that differ at most in the registers of the open handle. -/
structure RegistersOnly (before after : World) : Prop where
  ledger : after.daemon.toLedger = before.daemon.toLedger
  stream : after.daemon.toStreamState = before.daemon.toStreamState
  inventory : after.daemon.toInventory = before.daemon.toInventory
  reports : after.daemon.toReports = before.daemon.toReports
  configured : after.daemon.configured = before.daemon.configured
  dualMode : after.daemon.dualMode = before.daemon.dualMode
  dualConfig : after.daemon.dualConfig = before.daemon.dualConfig
  handle : after.daemon.radio.map Radio.unregistered = before.daemon.radio.map Radio.unregistered
  running : after.running = before.running
  sent : after.sent = before.sent
  openings : after.openings = before.openings
  clockReadings : after.clockReadings = before.clockReadings
  used : ∀ call, call.writesRegisters = false → after.used call = before.used call

theorem RegistersOnly.refl (world : World) : RegistersOnly world world :=
  ⟨rfl, rfl, rfl, rfl, rfl, rfl, rfl, rfl, rfl, rfl, rfl, rfl, fun _ _ => rfl⟩

theorem RegistersOnly.trans {first second third : World} (left : RegistersOnly first second)
    (right : RegistersOnly second third) : RegistersOnly first third where
  ledger := right.ledger.trans left.ledger
  stream := right.stream.trans left.stream
  inventory := right.inventory.trans left.inventory
  reports := right.reports.trans left.reports
  configured := right.configured.trans left.configured
  dualMode := right.dualMode.trans left.dualMode
  dualConfig := right.dualConfig.trans left.dualConfig
  handle := right.handle.trans left.handle
  running := right.running.trans left.running
  sent := right.sent.trans left.sent
  openings := right.openings.trans left.openings
  clockReadings := right.clockReadings.trans left.clockReadings
  used call other := (right.used call other).trans (left.used call other)

theorem RegistersOnly.isSome {before after : World} (frame : RegistersOnly before after) :
    after.daemon.radio.isSome = before.daemon.radio.isSome := by
  simpa using congrArg Option.isSome frame.handle

@[simp]
theorem Radio.unregistered_writeChannel (radio : Radio) (tuner : UInt32)
    (write : ChannelRegisters → ChannelRegisters) :
    (radio.writeChannel tuner write).unregistered = radio.unregistered := by
  unfold Radio.writeChannel
  split <;> rfl

@[simp]
theorem Radio.unregistered_setFreq (radio : Radio) (frequency : Option UInt32) :
    (radio.setFreq frequency).unregistered = radio.unregistered :=
  rfl

@[simp]
theorem Radio.unregistered_writeTuned
    (radio : Radio) (write : ChannelRegisters → ChannelRegisters) :
    (radio.writeTuned write).unregistered = radio.unregistered :=
  Radio.unregistered_writeChannel radio radio.tuner write

section Writes

variable (environment : Environment) (world : World)

/-- A call that writes registers does nothing else. -/
theorem driverCall_registersOnly (call : Call) (effect : Int → Radio → Radio)
    (writes : call.writesRegisters = true)
    (keeps : ∀ result radio, (effect result radio).unregistered = radio.unregistered) :
    RegistersOnly world (driverCall environment world call effect).2 where
  ledger := rfl
  stream := rfl
  inventory := rfl
  reports := rfl
  configured := rfl
  dualMode := rfl
  dualConfig := rfl
  handle := by
    simp only [driverCall, World.modify_daemon, World.advance_daemon, Option.map_map]
    congr 1
    funext radio
    exact keeps _ radio
  running := rfl
  sent := rfl
  openings := rfl
  clockReadings := rfl
  used other notWrite := World.advance_used_of_ne world (by
      rintro rfl
      simp [writes] at notWrite)

/-- One more call that writes registers, if it is needed. -/
theorem RegistersOnly.callIf {before after : World} (frame : RegistersOnly before after)
    {needed : Bool} {call : World → Int × World}
    (writes : RegistersOnly after (call after).2) :
    RegistersOnly before (callIf needed call after).2 := by
  unfold OpenRsp.callIf
  split
  · exact frame.trans writes
  · exact frame

theorem mirisdrSetSampleRate_registersOnly (rate : UInt32) :
    RegistersOnly world (mirisdrSetSampleRate environment world rate).2 :=
  driverCall_registersOnly environment world _ _ rfl (by simp)

theorem mirisdrSetCenterFreq_registersOnly (frequency : UInt32) :
    RegistersOnly world (mirisdrSetCenterFreq environment world frequency).2 :=
  driverCall_registersOnly environment world _ _ rfl (by simp)

theorem mirisdrSetBandwidth_registersOnly (bandwidth : UInt32) :
    RegistersOnly world (mirisdrSetBandwidth environment world bandwidth).2 :=
  driverCall_registersOnly environment world _ _ rfl (by simp)

theorem mirisdrSetIfFreq_registersOnly (frequency : UInt32) :
    RegistersOnly world (mirisdrSetIfFreq environment world frequency).2 :=
  driverCall_registersOnly environment world _ _ rfl (by simp)

theorem setGain_registersOnly (config : RadioConfig) :
    RegistersOnly world (setGain environment world config).2 :=
  driverCall_registersOnly environment world _ _ rfl (by simp)

theorem mirisdrUpdateRspduoDual_registersOnly (config : RadioConfig) :
    RegistersOnly world (mirisdrUpdateRspduoDual environment world config).2 :=
  driverCall_registersOnly environment world _ _ rfl (by simp)

theorem mirisdrConfigureRspduo_registersOnly (config : RadioConfig) :
    RegistersOnly world (mirisdrConfigureRspduo environment world config).2 :=
  driverCall_registersOnly environment world _ _ rfl (by simp)

theorem mirisdrConfigureRspduoDual_registersOnly (config : DualConfig) :
    RegistersOnly world (mirisdrConfigureRspduoDual environment world config).2 :=
  driverCall_registersOnly environment world _ _ rfl fun _ _ => rfl

theorem setRspduoControls_registersOnly (config : RadioConfig) (flags : UInt32) :
    RegistersOnly world (setRspduoControls environment world config flags).2 := by
  unfold setRspduoControls
  split
  · exact .refl world
  · refine driverCall_registersOnly environment world _ _ rfl fun _ _ => ?_
    dsimp only
    split <;> rfl

theorem writeUpdate_registersOnly (old next : RadioConfig) (flags : UInt32) :
    RegistersOnly world (writeUpdate environment world old next flags).2 := by
  simp only [writeUpdate]
  refine .trans ?_ (setRspduoControls_registersOnly ..)
  refine .callIf ?_ (setGain_registersOnly ..)
  refine .callIf ?_ (mirisdrSetIfFreq_registersOnly ..)
  refine .callIf ?_ (mirisdrSetBandwidth_registersOnly ..)
  refine .callIf ?_ (mirisdrSetCenterFreq_registersOnly ..)
  exact .callIf (.refl world) (mirisdrSetSampleRate_registersOnly ..)

theorem writeFrontEnd_registersOnly (needed : Bool) (config : RadioConfig) (flags : UInt32) :
    RegistersOnly world (writeFrontEnd environment world needed config flags).2 := by
  simp only [writeFrontEnd]
  refine .trans ?_ (setRspduoControls_registersOnly ..)
  exact .callIf (.refl world) (mirisdrUpdateRspduoDual_registersOnly ..)

theorem writeDualUpdate_registersOnly (next : RadioConfig) (flags : UInt32) :
    RegistersOnly world (writeDualUpdate environment world next flags).2 :=
  writeFrontEnd_registersOnly ..

theorem writeRunningConfig_registersOnly (current config : RadioConfig) :
    RegistersOnly world (writeRunningConfig environment world current config).2 :=
  writeFrontEnd_registersOnly ..

theorem writeDual_registersOnly (config : DualConfig) :
    RegistersOnly world (writeDual environment world config).2 := by
  have shared := mirisdrConfigureRspduoDual_registersOnly environment world config
  have controlsA := shared.trans
      (setRspduoControls_registersOnly environment _ config.channelA changeRspduoControls)
  simp only [writeDual]
  split_ifs
  · exact shared
  · exact controlsA
  · exact controlsA.trans (setRspduoControls_registersOnly ..)

theorem writeRecoveryConfig_registersOnly (bootstrap target : RadioConfig) :
    RegistersOnly world (writeRecoveryConfig environment world bootstrap target).2 := by
  simp only [writeRecoveryConfig]
  refine .callIf ?_ (setRspduoControls_registersOnly ..)
  refine .callIf ?_ (setGain_registersOnly ..)
  refine .callIf ?_ (mirisdrSetIfFreq_registersOnly ..)
  refine .callIf ?_ (mirisdrSetBandwidth_registersOnly ..)
  refine .callIf ?_ (mirisdrSetCenterFreq_registersOnly ..)
  exact .callIf (.refl world) (mirisdrSetSampleRate_registersOnly ..)

theorem applyConfig_registersOnly (config : RadioConfig) :
    RegistersOnly world (applyConfig environment world config).2 := by
  unfold applyConfig
  split
  · exact .refl world
  · exact mirisdrConfigureRspduo_registersOnly environment world config

end Writes

/-! ## Configurations -/

/-- A relation between worlds that holds across every part of a
configuration. -/
structure ConfigurationFrame (environment : Environment) (related : World → World → Prop) :
    Prop where
  refl (world : World) : related world world
  trans {first second third : World} :
    related first second → related second third → related first third
  registers {before after : World} : RegistersOnly before after → related before after
  resolves (world : World) : world.daemon.radio = none →
    related world (resolveAcquiredDevice environment world).2
  opens (world : World) (index tuner : UInt32) : world.daemon.radio = none →
    (resolveAcquiredDevice environment world).1 = .ok index → related world
      (mirisdrOpenTuner environment (resolveAcquiredDevice environment world).2 index tuner).2
  closes (world : World) : related world (closeRadio environment world).2
  marks (world : World) (configured dualMode : Bool) (dualConfig : DualConfig) :
    related world (world.modify fun daemon =>
      { daemon with configured := configured, dualMode := dualMode, dualConfig := dualConfig })

namespace ConfigurationFrame

variable {environment : Environment} {related : World → World → Prop}
  (frame : ConfigurationFrame environment related) (world : World)
include frame

theorem openForAttempt (config : RadioConfig) :
    related world (openForAttempt environment world config).2 := by
  simp only [OpenRsp.openForAttempt]
  split_ifs with isOpen
  · exact frame.refl world
  · have closed := Option.not_isSome_iff_eq_none.mp isOpen
    split
    · exact frame.resolves world closed
    · exact frame.opens world _ _ closed ‹_›

theorem openForDual : related world (openForDual environment world).2 := by
  simp only [OpenRsp.openForDual]
  split_ifs with isOpen
  · exact frame.refl world
  · have closed := Option.not_isSome_iff_eq_none.mp isOpen
    split
    · exact frame.resolves world closed
    · exact frame.opens world _ _ closed ‹_›

theorem applyIfOpen (config : RadioConfig) :
    related world (applyIfOpen environment world config).2 := by
  unfold OpenRsp.applyIfOpen
  split
  · exact frame.registers (applyConfig_registersOnly environment world config)
  · exact frame.refl world

theorem configureAttempts (config : RadioConfig) (remaining : Nat) :
    related world (configureAttempts environment config remaining world).2 := by
  induction remaining generalizing world with
  | zero => exact frame.refl world
  | succ remaining inductionHypothesis =>
      have opened := frame.openForAttempt world config
      have applied := frame.trans opened (frame.applyIfOpen _ config)
      have closed := frame.trans applied (frame.closes _)
      simp only [OpenRsp.configureAttempts]
      split_ifs
      · exact opened
      · exact frame.trans applied (frame.marks _ _ false _)
      · exact closed
      · exact frame.trans closed (inductionHypothesis _)

/-- The handle is closed and no longer counts as configured. -/
theorem closeUnconfigured : related world (closeUnconfigured environment world) :=
  frame.trans (frame.closes world) (frame.marks _ false _ _)

theorem closeDual : related world (closeDual environment world) := by
  unfold OpenRsp.closeDual
  split
  · exact frame.closeUnconfigured world
  · exact frame.refl world

theorem closeFailed : related world (closeFailed environment world) := by
  unfold OpenRsp.closeFailed
  split
  · exact frame.closeUnconfigured world
  · exact frame.refl world

theorem closeIfIdentityChanged (devices : List DeviceRecord) (index : UInt32) :
    related world (closeIfIdentityChanged environment world devices index) := by
  simp only [OpenRsp.closeIfIdentityChanged]
  split
  · exact frame.closeUnconfigured world
  · exact frame.refl world

theorem configureRadio (config : RadioConfig) (maxAttempts : Nat) :
    related world (configureRadio environment world config maxAttempts).2 := by
  simp only [OpenRsp.configureRadio]
  split_ifs
  · exact frame.refl world
  · exact frame.closes world
  · exact frame.trans (frame.closeUnconfigured world) (frame.configureAttempts _ config _)
  · exact frame.configureAttempts world config _

theorem configureDualHandle (config : DualConfig) :
    related world (configureDualHandle environment world config).2 := by
  have opened := frame.openForDual world
  have written := frame.trans opened (frame.registers (writeDual_registersOnly environment _ config))
  simp only [OpenRsp.configureDualHandle]
  split_ifs
  · exact opened
  · exact frame.trans written (frame.closes _)
  · exact frame.trans written (frame.marks _ true true config)

theorem configureDualRadio (config : DualConfig) :
    related world (configureDualRadio environment world config).2 := by
  simp only [OpenRsp.configureDualRadio]
  split_ifs
  · exact frame.refl world
  · exact frame.closes world
  · exact frame.trans (frame.closeUnconfigured world) (frame.configureDualHandle _ config)
  · exact frame.configureDualHandle world config

theorem configureMode (dual : Bool) (single : RadioConfig) (both : DualConfig) :
    related world (configureMode environment world dual single both).2 := by
  unfold OpenRsp.configureMode
  split
  · exact frame.configureDualRadio world both
  · exact frame.configureRadio world single 3

end ConfigurationFrame

/-! ## Requests of an owner -/

/-- Two states that differ at most in the settings of an owner, its handle's
marks and the reports. -/
structure SettingsOnly (before after : DaemonState) : Prop where
  ledger :
    { after.toLedger with
      config := before.config
      bootstrapConfigured := before.bootstrapConfigured
      bootstrapConfig := before.bootstrapConfig
      recoveryConfigPending := before.recoveryConfigPending
      modeSwapPaused := before.modeSwapPaused } = before.toLedger
  radio : after.radio = before.radio
  stream : after.toStreamState = before.toStreamState
  inventory : after.toInventory = before.toInventory

/-- A relation that holds across stops and changes of settings as well. -/
structure RequestFrame (environment : Environment) (related : World → World → Prop) : Prop
    extends ConfigurationFrame environment related where
  stops (world : World) : related world (stopStream environment world).2
  stores (world : World) (change : DaemonState → DaemonState) :
    SettingsOnly world.daemon (change world.daemon) → related world (world.modify change)

namespace RequestFrame

variable {environment : Environment} {related : World → World → Prop}
  (frame : RequestFrame environment related) (world : World) (descriptor : Int)
include frame

theorem stopIfOpen : related world (stopIfOpen environment world).2 := by
  unfold OpenRsp.stopIfOpen
  split
  · exact frame.stops world
  · exact frame.refl world

theorem stopAndClose : related world (stopAndClose environment world).2 := by
  simp only [OpenRsp.stopAndClose]
  split_ifs
  · exact frame.stops world
  · exact frame.trans (frame.stops world) (frame.closes _)

theorem duoResetHardware : related world (duoResetHardware environment world).2 :=
  frame.trans (frame.trans (frame.stopIfOpen world) (frame.closes _))
    (frame.marks _ false false _)

/-- What `release_client` does before it forgets the owner. -/
theorem closeLeft : related world
    (closeFailed environment (closeDual environment (OpenRsp.stopIfOpen environment world).2)) :=
  frame.trans (frame.trans (frame.stopIfOpen world) (frame.closeDual _)) (frame.closeFailed _)

theorem serveStop : related world (serveStop environment world descriptor).world := by
  unfold OpenRsp.serveStop
  split_ifs
  · exact frame.stops world
  · exact frame.refl world

theorem serveResumeMode : related world (serveResumeMode world descriptor).world := by
  simp only [OpenRsp.serveResumeMode, apply_ite Handled.world, Handled.restartStream_world,
    Handled.reply_world]
  split_ifs
  · exact frame.stores world _ ⟨rfl, rfl, rfl, rfl⟩
  · exact frame.refl world

theorem serveConfigure (config : RadioConfig) :
    related world (serveConfigure environment world descriptor config).world := by
  have configured := frame.configureRadio world config 3
  simp only [OpenRsp.serveConfigure, apply_ite Handled.world, Handled.reply_world]
  split_ifs
  · exact frame.trans configured (frame.stores _ _ ⟨rfl, rfl, rfl, rfl⟩)
  · exact configured
  · exact frame.refl world

theorem serveConfigureDual (config : DualConfig) :
    related world (serveConfigureDual environment world descriptor config).world := by
  have configured := frame.configureDualRadio world config
  simp only [OpenRsp.serveConfigureDual, apply_ite Handled.world, Handled.reply_world]
  split_ifs
  · exact frame.trans configured (frame.stores _ _ ⟨rfl, rfl, rfl, rfl⟩)
  · exact configured
  · exact frame.refl world

theorem serveSwapTuner (swap : SwapRequest) :
    related world (serveSwapTuner environment world descriptor swap).world := by
  have closed := frame.stopAndClose world
  have configured := frame.trans closed (frame.configureRadio _ swap.config 3)
  simp only [OpenRsp.serveSwapTuner, apply_ite Handled.world, Handled.reply_world]
  split_ifs
  · exact frame.refl world
  · exact closed
  · exact frame.trans configured (frame.stores _ _ ⟨rfl, rfl, rfl, rfl⟩)
  · exact configured
  · exact frame.refl world

theorem rollBackMode (saved : DaemonState) (status : Status) :
    related world (rollBackMode environment saved world status).world := by
  have configured := frame.configureMode world saved.dualMode saved.config saved.dualConfig
  simp only [OpenRsp.rollBackMode, apply_ite Handled.world, Handled.reply_world,
    Handled.restartStream_world]
  split_ifs
  · exact frame.trans configured (frame.stores _ _ ⟨rfl, rfl, rfl, rfl⟩)
  · exact configured
  · exact frame.refl world

theorem serveSwapMode (swap : ModeSwapRequest) :
    related world (serveSwapMode environment world descriptor swap).world := by
  have closed := frame.stopAndClose world
  have configured := frame.trans closed
    (frame.configureMode _ (decide (swap.mode = modeDual)) swap.single swap.dual)
  simp only [OpenRsp.serveSwapMode, apply_ite Handled.world, Handled.reply_world]
  split_ifs
  · exact frame.refl world
  · exact frame.trans closed (frame.rollBackMode _ _ _)
  · refine frame.trans configured (frame.stores _ _ ?_)
    unfold storeMode
    split <;> exact ⟨rfl, rfl, rfl, rfl⟩
  · exact frame.trans configured (frame.rollBackMode _ _ _)
  · exact frame.refl world

theorem applyUpdate (update : UpdateRequest) :
    related world (applyUpdate environment world update).2 := by
  have dual := frame.registers (writeDualUpdate_registersOnly environment world update.config
    update.changedFlags)
  have single := frame.registers (writeUpdate_registersOnly environment world world.daemon.config
    update.config update.changedFlags)
  simp only [OpenRsp.applyUpdate, applyDualUpdate, applySingleUpdate, apply_ite Prod.snd]
  split_ifs
  · exact frame.refl world
  · exact frame.refl world
  · exact frame.refl world
  · exact frame.refl world
  · exact dual
  · exact frame.trans dual (frame.stores _ _ ⟨rfl, rfl, rfl, rfl⟩)
  · exact frame.refl world
  · exact frame.refl world
  · exact single
  · exact frame.trans single (frame.stores _ _ ⟨rfl, rfl, rfl, rfl⟩)

theorem stopAndApplyUpdate (update : UpdateRequest) :
    related world (stopAndApplyUpdate environment world update).2 := by
  simp only [OpenRsp.stopAndApplyUpdate]
  split_ifs
  · exact frame.stops world
  · exact frame.trans (frame.stops world) (frame.applyUpdate _ update)
  · exact frame.applyUpdate world update

end RequestFrame

end OpenRsp
