import OpenRsp.Daemon.LiveRequests

/-!
# Front-end controls across swaps

A swap closes the handle and opens another, whose controls are all off.
`configure_dual_radio` writes the controls of both channels after it has
configured the tuners.  `apply_config` writes none: a single tuner gets its
controls from `finish_recovery_config`, which waits for
`recovery_config_pending`, and `OPENRSP_CMD_RESUME_MODE` clears that flag.
The two channels of a dual configuration share the external reference, the AM
port and the AM notch, so the channel written last decides them.
-/

namespace OpenRsp

open Runs

/-! ## Hardware that obeys -/

/-- Every call to the hardware succeeds; socket writes may fail. -/
def Environment.Obeys (environment : Environment) : Prop :=
  ∀ call use, call ≠ .socketWrite → environment.results call use = 0

variable {environment : Environment}

theorem Environment.Obeys.result (obeys : environment.Obeys) (world : World)
    {call : Call} (hardware : call ≠ .socketWrite) :
    world.result environment call = 0 := by
  simp [World.result, obeys call _ hardware]

section Configuring

variable {world : World}

/-- A handle has been opened and left with some controls. -/
structure World.OpensWith
    (before after : World) (controls : ControlRegisters) : Prop where
  held : after.controls = some controls
  stream : after.daemon.toStreamState = before.daemon.toStreamState
  reports : after.daemon.toReports = before.daemon.toReports

theorem World.OpensWith.of_resolved {after : World} {radio : Radio}
    (opened : after.daemon.radio = some radio)
    (stream :
      after.daemon.toStreamState = (resolveAcquiredDevice environment world).2.daemon.toStreamState)
    (reports :
      after.daemon.toReports = (resolveAcquiredDevice environment world).2.daemon.toReports) :
    world.OpensWith after radio.controls where
  held := by simp [World.controls, opened]
  stream := stream.trans (resolveAcquiredDevice_inventoryOnly environment world).stream
  reports := reports.trans (resolveAcquiredDevice_inventoryOnly environment world).reports

/-- A single tuner is opened and configured; its controls stay off. -/
theorem configureRadio_opens (obeys : environment.Obeys) (closed : world.daemon.radio = none)
    {config : RadioConfig}
    (accepted : (configureRadio environment world config 3).1 = .ok) :
    world.OpensWith (configureRadio environment world config 3).2 .opened := by
  have valid := (configureRadio_ok environment world config 3 accepted).1
  have opens (before : World) :
      before.result environment .openTuner = 0 :=
    obeys.result before (by decide)
  have writes (before : World) :
      before.result environment .configureRspduo = 0 :=
    obeys.result before (by decide)
  cases found : (resolveAcquiredDevice environment world).1 with
  | error failure =>
      simp [configureRadio, valid, closed, configureAttempts, openForAttempt, found] at accepted
  | ok index =>
      let radio :=
        ((Radio.fresh
          ((resolveAcquiredDevice environment world).2.used .openTuner)
          index config.tuner).setFreq (some config.centerFrequencyHz)).writeTuned
            fun _ => .of config
      have controls : radio.controls = .opened := (Radio.writeTuned_rest _ _).2.2
      have after : (configureRadio environment world config 3).2.daemon =
            { (resolveAcquiredDevice environment world).2.daemon with
              radio := some radio
              dualMode := false } := by
        simp [configureRadio, valid, closed, configureAttempts,
          openForAttempt, found, applyIfOpen, applyConfig, mirisdrOpenTuner,
          opens, written, mirisdrConfigureRspduo, driverCall, writes,
          ChannelRegisters.of, radio]
      rw [← controls]
      exact .of_resolved (by rw [after]) (by rw [after]) (by rw [after])

/-- Both tuners are opened and configured, with the controls of the first
channel and then those of the second. -/
theorem configureDualRadio_opens (closed : world.daemon.radio = none) {config : DualConfig}
    (accepted : (configureDualRadio environment world config).1 = .ok) :
    validDualConfig config = true ∧
      ∃ before, world.OpensWith (configureDualRadio environment world config).2
        (ControlRegisters.write (ControlRegisters.write before 0 config.channelA) 0
          config.channelB) := by
  have runs := configureDualRadio_runsDual environment world config accepted
  obtain ⟨before, held⟩ := runs.controls
  have wrote := writeDual_registersOnly environment (openForDual environment world).2 config
  have resolved := resolveAcquiredDevice_inventoryOnly environment world
  have opened : (openForDual environment world).2.daemon.toStreamState =
        world.daemon.toStreamState ∧
      (openForDual environment world).2.daemon.toReports = world.daemon.toReports := by
    simp only [openForDual, closed, Option.isSome_none, Bool.false_eq_true, if_false]
    split
    · exact ⟨resolved.stream, resolved.reports⟩
    · exact ⟨resolved.stream, resolved.reports⟩
  refine ⟨runs.valid, before, held, ?_, ?_⟩ <;>
    simp only [configureDualRadio, runs.valid, closed, Option.isSome_none, Bool.true_eq_false,
      Bool.false_eq_true, and_false, if_false, configureDualHandle] at accepted ⊢ <;>
    split_ifs at accepted ⊢
  · exact wrote.stream.trans opened.1
  · exact wrote.reports.trans opened.2

end Configuring

/-! ## A swap and its resumption -/

/-- The swap a client asks for. -/
inductive SwapTarget where
  | tuner (swap : SwapRequest)
  | mode (swap : ModeSwapRequest)
deriving DecidableEq, Repr

/-- What the main loop and the stream thread do between requests. -/
inductive LoopStep where
  | recover
  | finishRecovery
  | streamEnds
  | streamBlock (tuner length : UInt32)
deriving DecidableEq, Repr

def LoopStep.toStep : LoopStep → Step
  | .recover => .recover
  | .finishRecovery => .finishRecovery
  | .streamEnds => .streamEnds
  | .streamBlock tuner length => .streamBlock tuner length

namespace SwapTarget

def command : SwapTarget → Command
  | .tuner swap => .swapTuner swap
  | .mode swap => .swapMode swap

/-- The configurations of the active tuners. -/
def configs : SwapTarget → List RadioConfig
  | .tuner swap => [swap.config]
  | .mode swap =>
      if swap.mode = modeDual then [swap.dual.channelA, swap.dual.channelB]
      else [swap.single]

/-- The swap carries its controls: both channels agree on the controls they
share, or all controls of the single tuner are off, or a
recovery that was pending before a tuner swap is finished before the stream
resumes. -/
def CarriesControls (before : DaemonState) (between : List LoopStep) :
    SwapTarget → Prop
  | .tuner swap =>
      swap.config.ControlsOff ∨
        before.recoveryConfigPending = true ∧ before.firstIqSeen = true ∧ .finishRecovery ∈ between
  | .mode swap =>
      if swap.mode = modeDual then
        swap.dual.SharesControls
      else swap.single.ControlsOff

end SwapTarget

/-- A request of the client in a slot is answered OK and served to the
end. -/
structure Server.Accepts
    (environment : Environment) (server : Server) (slot : Nat)
    (sequence : UInt32) (command : Command) : Prop where
  connected : 0 ≤ server.clients.getD slot invalidSocket
  status : (dispatch environment server.world
      (server.clients.getD slot invalidSocket) command).status = .ok
  served : (serveRequest environment server.world
      (server.clients.getD slot invalidSocket)
      (.request sequence command)).1 = 1

theorem Server.Accepts.step_world
    {server : Server} {slot : Nat} {sequence : UInt32} {command : Command}
    (accepts : server.Accepts environment slot sequence command) :
    (server.step environment
        (.serve slot (.request sequence command))).world =
      (serveRequest environment server.world
        (server.clients.getD slot invalidSocket)
        (.request sequence command)).2 := by
  have connected : ¬ server.clients.getD slot invalidSocket < 0 := not_lt.mpr accepts.connected
  simp only [Server.step, serveClient, if_neg connected]
  rw [if_neg (not_not.mpr accepts.served)]

/-- A swap, the turns of the main loop until the client resumes the stream,
and those after it. -/
structure SwapRun where
  server : Server
  slot : Nat
  target : SwapTarget
  swapSequence : UInt32
  between : List LoopStep
  resumeSequence : UInt32
  after : List LoopStep

namespace SwapRun

variable (environment : Environment) (run : SwapRun)

/-- The server after the swap. -/
def swapped : Server :=
  run.server.step environment (.serve run.slot (.request run.swapSequence run.target.command))

/-- The server before the stream resumes. -/
def paused : Server :=
  runSteps (Server.step environment) (run.swapped environment) (run.between.map LoopStep.toStep)

/-- The server after the stream has resumed. -/
def resumed : Server :=
  (run.paused environment).step environment
    (.serve run.slot (.request run.resumeSequence .resumeMode))

/-- The server in the end. -/
def settled : Server :=
  runSteps (Server.step environment) (run.resumed environment) (run.after.map LoopStep.toStep)

/-- Both requests are accepted. -/
structure Accepted : Prop where
  swap : run.server.Accepts environment run.slot run.swapSequence run.target.command
  resume : (run.paused environment).Accepts environment run.slot run.resumeSequence .resumeMode

end SwapRun

/-! ## Handles of the main loop -/

section Handles

variable {world : World}

/-- A thread that is created for recovery, whatever flags are set first. -/
theorem createStreamThread_handleKept (arm : DaemonState → DaemonState)
    (armed : ∀ daemon, (arm daemon).radio = daemon.radio) :
    world.view.HandleKept (createStreamThread environment (world.modify arm)).2.view := by
  have receiver := createStreamThread_receiver environment (world.modify arm)
  have radio : (createStreamThread environment (world.modify arm)).2.daemon.radio =
        world.daemon.radio :=
    (congrArg Receiver.radio receiver).trans (armed _)
  refine .of_eq (congrArg (Option.map Radio.handle) radio) ?_
  simp only [createStreamThread]
  split <;> rfl

theorem recoverDual_handleKept :
    world.view.HandleKept (recoverDual environment world).view := by
  have configured := ((quieterFrame environment).configureDualRadio world world.daemon.dualConfig).handles
  simp only [recoverDual]
  generalize configureDualRadio environment world world.daemon.dualConfig = attempt at configured ⊢
  have created : attempt.2.view.HandleKept
        (createStreamThread environment (attempt.2.modify armRestart)).2.view :=
    createStreamThread_handleKept armRestart fun _ => rfl
  generalize createStreamThread environment (attempt.2.modify armRestart) = thread at created ⊢
  split_ifs
  · exact configured
  · exact configured.trans (created.trans (.of_eq rfl rfl))
  · exact configured.trans created

theorem recoverSingle_handleKept :
    world.view.HandleKept (recoverSingle environment world).view := by
  have configured :=
    ((quieterFrame environment).configureRadio world (bootstrapOrConfig world.daemon) 3).handles
  simp only [recoverSingle]
  generalize
    configureRadio environment world (bootstrapOrConfig world.daemon) 3 = attempt at configured ⊢
  have created : attempt.2.view.HandleKept
        (createStreamThread environment
          (attempt.2.modify fun daemon =>
            armRestart { daemon with configured := true })).2.view :=
    createStreamThread_handleKept _ fun _ => rfl
  generalize
    createStreamThread environment
      (attempt.2.modify fun daemon =>
        armRestart { daemon with configured := true }) = thread
    at created ⊢
  split_ifs
  · exact configured.trans (closeRadio_quieter environment _).handles
  · refine (configured.trans (created.trans ?_)).trans (closeRadio_quieter environment _).handles
    exact .of_eq rfl rfl
  · exact configured.trans (created.trans (.of_eq rfl rfl))

theorem recoverMode_handleKept :
    world.view.HandleKept (recoverMode environment world).view := by
  unfold recoverMode
  split
  · exact recoverDual_handleKept
  · exact recoverSingle_handleKept

theorem reopenFailedStream_handleKept :
    world.view.HandleKept (reopenFailedStream environment world).view := by
  have resolved := (resolveAcquiredDevice_inventoryOnly environment
      ((world.modify forgetConfigured).modify invalidateSnapshot)).view
  simp only [reopenFailedStream, reopenResolved]
  split_ifs
  · exact .of_eq rfl rfl
  · split
    · rw [(noteUnresolved_reportsOnly environment _ _).view, resolved]
      exact .of_eq rfl rfl
    · refine .trans ?_ recoverMode_handleKept
      exact .trans (.of_eq rfl rfl) (.trans
        (.of_eq (congrArg StreamView.handle resolved)
          (congrArg StreamView.opened resolved)) (.of_eq rfl rfl))

/-- A recovery that is due gives the handle up; one that is open afterwards
is new. -/
theorem recoverFailedStream_handleKept :
    world.view.HandleKept (recoverFailedStream environment world).view ∧
      (world.daemon.streamError = true → world.daemon.streaming = false → ∀ number,
          (recoverFailedStream environment world).view.handle =
              some number →
            world.used .openTuner ≤ number) := by
  have shut := (joinFailed_quieter environment).handles.trans
      (closeRadio_quieter environment (joinFailed environment world)).handles
  have closed := closeRadio_radio environment (joinFailed environment world)
  simp only [recoverFailedStream]
  generalize closeRadio environment (joinFailed environment world) = after at shut closed ⊢
  have reopened :
      after.2.view.HandleKept (reopenFailedStream environment after.2).view :=
    reopenFailedStream_handleKept
  have gone (number : Nat) : after.2.view.handle ≠ some number := by
    simp [World.view, closed]
  split_ifs with healthy busy
  · refine ⟨.of_eq rfl rfl, fun failed stopped => ?_⟩
    simp [failed, stopped] at healthy
  · exact ⟨shut, fun _ _ number isOpen => absurd isOpen (gone number)⟩
  · refine ⟨shut.trans reopened, fun _ _ number isOpen => ?_⟩
    rcases reopened.handle number isOpen with same | ⟨lower, -⟩
    · exact absurd same (gone number)
    · exact shut.opened.trans lower

/-- A recovery after which an old handle is still open did nothing. -/
theorem recoverFailedStream_eq_of_open {number : Nat} (old : number < world.used .openTuner)
    (isOpen : (recoverFailedStream environment world).view.handle = some number) :
    recoverFailedStream environment world = world := by
  have healthy : world.daemon.streamError = false ∨ world.daemon.streaming = true := by
    by_contra due
    simp only [not_or, Bool.not_eq_false, Bool.not_eq_true] at due
    exact absurd old (not_lt.mpr
      (recoverFailedStream_handleKept.2 due.1 due.2 number isOpen))
  simp [recoverFailedStream, healthy]

/-- Between requests the handle stays or is replaced by a new one. -/
theorem loopStep_handleKept (server : Server) (step : LoopStep) :
    server.world.view.HandleKept (server.step environment step.toStep).world.view := by
  cases step with
  | recover => exact recoverFailedStream_handleKept.1
  | finishRecovery =>
      have frame := (writeRecoveryConfig_registersOnly environment server.world
          (bootstrapOrConfig server.world.daemon)
          server.world.daemon.config).view
      simp only [LoopStep.toStep, Server.step, finishRecoveryConfig]
      generalize
        writeRecoveryConfig environment server.world
          (bootstrapOrConfig server.world.daemon)
          server.world.daemon.config = write at frame ⊢
      have wrote : server.world.view.HandleKept write.2.view :=
        .of_eq (congrArg StreamView.handle frame) (congrArg StreamView.opened frame)
      split_ifs
      · exact .of_eq rfl rfl
      · exact wrote.trans (.of_eq rfl rfl)
  | streamEnds => exact (streamThreadEnds_quieter environment).handles
  | streamBlock tuner length =>
      have frame := (sendStream_reportsOnly environment server.world tuner length).view
      simp only [LoopStep.toStep, Server.step]
      split_ifs
      · exact .of_eq rfl rfl
      · exact .of_eq (congrArg StreamView.handle frame) (congrArg StreamView.opened frame)

theorem loopSteps_handleKept (server : Server) (steps : List LoopStep) :
    server.world.view.HandleKept
      (runSteps (Server.step environment) server (steps.map LoopStep.toStep)).world.view := by
  induction steps generalizing server with
  | nil => exact .of_eq rfl rfl
  | cons step rest inductionHypothesis =>
      exact (loopStep_handleKept server step).trans (inductionHypothesis _)

/-- A handle that is old and still open in the end was open all along. -/
theorem StreamView.HandleKept.openBefore {before after : StreamView}
    {number : Nat} (kept : before.HandleKept after)
    (old : number < before.opened) (isOpen : after.handle = some number) :
    before.handle = some number := by
  rcases kept.handle number isOpen with same | ⟨lower, -⟩
  · exact same
  · exact absurd old (not_lt.mpr lower)

end Handles

/-! ## While the stream is paused -/

/-- The receiver waits for its stream.  `due` tells whether the main loop has
still to write the newest configuration. -/
structure World.Paused
    (world : World) (config : RadioConfig) (due : Bool)
    (controls : ControlRegisters) : Prop where
  held : world.controls = some controls
  idle : world.daemon.streamThread = .idle
  pending :
    (!world.daemon.dualMode && world.daemon.recoveryConfigPending && world.daemon.firstIqSeen) = due
  target : due = true → world.daemon.config = config ∧ bootstrapOrConfig world.daemon = config

section Pausing

variable {world : World} {config : RadioConfig} {due : Bool}
  {controls : ControlRegisters}

theorem World.controls_isSome (held : world.controls = some controls) :
    world.daemon.radio ≠ none := by
  intro closed
  simp [World.controls, closed] at held

theorem writeRecoveryConfig_controls (obeys : environment.Obeys) (config : RadioConfig) :
    (writeRecoveryConfig environment world config config).2.controls =
      world.controls.map (·.write 0 config) := by
  have gains (before : World) :
      before.result environment .setRspduoGain = 0 :=
    obeys.result before (by decide)
  have writes (before : World) :
      before.result environment .setRspduoControls = 0 :=
    obeys.result before (by decide)
  have flagged : controlFlags config changeRspduoControls ≠ 0 := by
    unfold controlFlags
    split <;> decide
  simp [writeRecoveryConfig, callIf, setGain, mirisdrSetRspduoGain,
    setRspduoControls, flagged, mirisdrSetRspduoControls, driverCall, gains,
    writes, World.controls, Function.comp_def, apply_ite Radio.controls, Radio.setSoft]

/-- A recovery that is finished writes the controls of the stored
configuration. -/
theorem World.Paused.finish (obeys : environment.Obeys)
    (paused : world.Paused config due controls) :
    (finishRecoveryConfig environment world).Paused config false
      (if due then controls.write 0 config else controls) := by
  have isOpen := World.controls_isSome paused.held
  have pending := paused.pending
  cases due with
  | false =>
      have skipped :
          finishRecoveryConfig environment world = world := by
        unfold finishRecoveryConfig
        refine if_pos ?_
        by_contra due
        simp_all
      rw [skipped]
      exact paused
  | true =>
      obtain ⟨stored, bootstrap⟩ := paused.target rfl
      simp only [Bool.and_eq_true, Bool.not_eq_true'] at pending
      have due : ¬ (world.daemon.dualMode = true ∨
            world.daemon.recoveryConfigPending = false ∨
            world.daemon.firstIqSeen = false ∨
            world.daemon.radio = none) := by
        simp [pending, isOpen]
      have frame := writeRecoveryConfig_registersOnly environment world config config
      have written : (writeRecoveryConfig environment world config config).2.controls =
            world.controls.map (·.write 0 config) :=
        writeRecoveryConfig_controls obeys config
      rw [paused.held] at written
      rw [finishRecoveryConfig, if_neg due, bootstrap, stored]
      exact
        { held := written
          idle := (congrArg StreamState.streamThread frame.stream).trans paused.idle
          pending := by simp
          target := by simp }

/-- One turn of the main loop that keeps the handle. -/
theorem World.Paused.loopStep {server : Server} {number : Nat}
    (obeys : environment.Obeys) (step : LoopStep)
    (old : number < server.world.used .openTuner)
    (isOpen : (server.step environment step.toStep).world.view.handle = some number)
    (paused : server.world.Paused config due controls) :
    (server.step environment step.toStep).world.Paused config
      (due && decide (step ≠ .finishRecovery))
      (if due && decide (step = .finishRecovery) then
        controls.write 0 config
      else controls) := by
  cases step with
  | recover =>
      have same := recoverFailedStream_eq_of_open old isOpen
      simpa [LoopStep.toStep, Server.step, same] using paused
  | finishRecovery =>
      simpa [LoopStep.toStep, Server.step] using paused.finish obeys
  | streamEnds =>
      simpa [LoopStep.toStep, Server.step, streamThreadEnds, paused.idle] using paused
  | streamBlock tuner length =>
      simpa [LoopStep.toStep, Server.step, paused.idle] using paused

theorem World.Paused.run {server : Server} {number : Nat}
    (obeys : environment.Obeys) (steps : List LoopStep)
    (old : number < server.world.used .openTuner)
    (isOpen : (runSteps (Server.step environment) server
        (steps.map LoopStep.toStep)).world.view.handle = some number)
    (paused : server.world.Paused config due controls) :
    (runSteps (Server.step environment) server
      (steps.map LoopStep.toStep)).world.Paused config
        (due && decide (.finishRecovery ∉ steps))
        (if due && decide (.finishRecovery ∈ steps) then
          controls.write 0 config
        else controls) := by
  induction steps generalizing server due controls with
  | nil => simpa using paused
  | cons step rest inductionHypothesis =>
      have stillOld :
          number < (server.step environment step.toStep).world.used .openTuner :=
        old.trans_le (loopStep_handleKept server step).opened
      have stillOpen := (loopSteps_handleKept _ rest).openBefore stillOld isOpen
      have stepped := paused.loopStep obeys step old stillOpen
      have ran := inductionHypothesis stillOld isOpen stepped
      by_cases finishes : step = .finishRecovery
      · subst finishes
        simpa using ran
      · have other : LoopStep.finishRecovery ≠ step := Ne.symm finishes
        simpa [finishes, other] using ran

end Pausing

/-! ## After the stream has resumed -/

/-- Nothing is left to be written to the handle. -/
structure World.Resumed
    (world : World) (controls : ControlRegisters) : Prop where
  held : world.controls = some controls
  settled : world.daemon.recoveryConfigPending = false

section Resuming

variable {controls : ControlRegisters}

theorem World.Resumed.congr {before after : World} (resumed : before.Resumed controls)
    (radio : after.daemon.radio = before.daemon.radio)
    (pending : after.daemon.recoveryConfigPending = before.daemon.recoveryConfigPending) :
    after.Resumed controls where
  held := by
    simpa only [World.controls, radio] using resumed.held
  settled := pending.trans resumed.settled

theorem World.Resumed.loopStep {server : Server} {number : Nat} (step : LoopStep)
    (old : number < server.world.used .openTuner)
    (isOpen : (server.step environment step.toStep).world.view.handle = some number)
    (resumed : server.world.Resumed controls) :
    (server.step environment step.toStep).world.Resumed controls := by
  cases step with
  | recover =>
      have same := recoverFailedStream_eq_of_open old isOpen
      simpa [LoopStep.toStep, Server.step, same] using resumed
  | finishRecovery =>
      simpa [LoopStep.toStep, Server.step, finishRecoveryConfig, resumed.settled] using resumed
  | streamEnds =>
      have frame := streamThreadEnds_streamOnly environment server.world
      exact resumed.congr (congrArg Receiver.radio frame.receiver)
        (congrArg Ledger.recoveryConfigPending frame.ledger)
  | streamBlock tuner length =>
      have frame := sendStream_reportsOnly environment server.world tuner length
      simp only [LoopStep.toStep, Server.step]
      split_ifs
      · exact resumed
      · exact resumed.congr (congrArg Receiver.radio frame.receiver)
          (congrArg Ledger.recoveryConfigPending frame.ledger)

theorem World.Resumed.run {server : Server} {number : Nat} (steps : List LoopStep)
    (old : number < server.world.used .openTuner)
    (isOpen : (runSteps (Server.step environment) server
        (steps.map LoopStep.toStep)).world.view.handle = some number)
    (resumed : server.world.Resumed controls) :
    (runSteps (Server.step environment) server
      (steps.map LoopStep.toStep)).world.Resumed controls := by
  induction steps generalizing server with
  | nil => exact resumed
  | cons step rest inductionHypothesis =>
      have stillOld :
          number < (server.step environment step.toStep).world.used .openTuner :=
        old.trans_le (loopStep_handleKept server step).opened
      have stillOpen := (loopSteps_handleKept _ rest).openBefore stillOld isOpen
      exact inductionHypothesis stillOld isOpen (resumed.loopStep step old stillOpen)

/-! ## The two requests -/

/-- Starting a stream opens no handle. -/
theorem createStreamThread_opened (world : World) :
    (createStreamThread environment world).2.used .openTuner = world.used .openTuner := by
  simp only [createStreamThread]
  split <;> rfl

theorem continueWith_opened {first next : World → Int × World}
    (begins : ∀ before, (first before).2.used .openTuner = before.used .openTuner)
    (continues : ∀ before, (next before).2.used .openTuner = before.used .openTuner)
    (world : World) :
    (continueWith first next world).2.used .openTuner = world.used .openTuner := by
  unfold continueWith
  split
  · exact begins world
  · exact (continues _).trans (begins world)

/-- Answering opens no handle. -/
theorem respond_opened (descriptor : Int) (sequence : UInt32)
    (command : Command) (handled : Handled) :
    (respond environment descriptor sequence command
        handled).2.used .openTuner =
      handled.world.used .openTuner := by
  have devices (before : World) : (writeDevices environment descriptor sequence handled.listed
        before).2.view.opened = before.view.opened :=
    congrArg StreamView.opened (writeDevices_view environment descriptor sequence handled.listed)
  have events (before : World) : (sendDuoEvent environment before handled.duoEvent).2.view.opened =
        before.view.opened :=
    congrArg StreamView.opened (sendDuoEvent_view environment handled.duoEvent)
  refine continueWith_opened (fun _ => rfl) ?_ handled.world
  refine continueWith_opened (fun before => ?_) ?_
  · unfold writeList
    split
    · exact devices before
    · rfl
  refine continueWith_opened (fun before => ?_) ?_
  · unfold writeEvent
    split
    · exact events before
    · rfl
  refine continueWith_opened (fun before => ?_) ?_
  · unfold startDuo
    split
    · exact createStreamThread_opened _
    · rfl
  refine continueWith_opened (fun before => ?_) ?_
  · simp only [startPlain]
    split_ifs
    · exact createStreamThread_opened _
    · exact createStreamThread_opened _
    · rfl
  refine continueWith_opened (fun before => ?_) fun _ => rfl
  unfold startAgain
  split
  · exact createStreamThread_opened _
  · rfl

/-- A resumption keeps the handle. -/
theorem resume_radio {server : Server} {slot : Nat} {sequence : UInt32}
    (accepts : server.Accepts environment slot sequence .resumeMode) :
    (server.step environment
        (.serve slot (.request sequence .resumeMode))).world.daemon.radio =
      server.world.daemon.radio := by
  rw [accepts.step_world]
  refine (congrArg Receiver.radio (respond_restreamed environment _ _ _ _).receiver).trans ?_
  simp only [dispatch, serveResumeMode]
  split <;> rfl

/-- After an accepted resumption nothing is left to be written. -/
theorem resumed_of_paused {server : Server} {slot : Nat} {sequence : UInt32}
    (accepts : server.Accepts environment slot sequence .resumeMode)
    (held : server.world.controls = some controls) :
    (server.step environment
        (.serve slot (.request sequence .resumeMode))).world.Resumed
      controls := by
  have radio := resume_radio accepts
  have served := accepts.served
  have status := accepts.status
  refine ⟨by simpa only [World.controls, radio] using held, ?_⟩
  rw [accepts.step_world]
  simp only [serveRequest] at served ⊢
  obtain ⟨before, -, completed⟩ := respond_completed environment served
  rw [completed]
  simp only [dispatch, serveResumeMode] at status ⊢
  split_ifs at status ⊢ with paused
  · rw [startStreams_again environment rfl (by simp)]
    exact congrArg Ledger.recoveryConfigPending
      (createStreamThread_ledger environment (before.modify (armRestartedStream false)))
  · simp only [serveUnrecognised, Handled.reply_status] at status
    split_ifs at status

theorem resume_opened {server : Server} {slot : Nat} {sequence : UInt32}
    (accepts : server.Accepts environment slot sequence .resumeMode) :
    (server.step environment
        (.serve slot (.request sequence .resumeMode))).world.used
      .openTuner = server.world.used .openTuner := by
  rw [accepts.step_world]
  simp only [serveRequest]
  rw [respond_opened]
  simp only [dispatch, serveResumeMode]
  split <;> rfl

end Resuming

section Swapping

variable {world : World}

/-- What is left when the old stream has stopped and its handle is
closed. -/
theorem stopAndClose_settled (sound : world.view.Sound) (running : world.running = true)
    (closed : (stopAndClose environment world).1 = true) :
    (stopAndClose environment world).2.daemon.radio = none ∧
      (stopAndClose environment world).2.daemon.toReports = world.daemon.toReports ∧
      (stopAndClose environment world).2.daemon.streamThread = .idle := by
  have stopped := stopStream_streamOnly environment world
  have soundly := (stopStream_quieter environment world).sound sound
  revert closed
  simp only [stopAndClose]
  split_ifs with failed
  · simp
  generalize (stopStream environment world).2 = halted at stopped soundly ⊢
  intro closed
  rw [← stopped.reports]
  refine ⟨closeRadio_radio environment halted, ?_, ?_⟩
  · simp only [closeRadio]
    split_ifs
    · rfl
    · rfl
    · exact (streamThreadEnds_streamOnly environment _).reports
  · have succeeds : (closeRadio environment halted).1 = 0 := by
      simpa using closed
    revert succeeds
    simp only [closeRadio]
    split_ifs with shut busy
    · intro _
      by_contra busy
      have isOpen := soundly.isOpen (stopped.running.trans running) busy
      simp [World.view_isOpen, shut] at isOpen
    · intro succeeds
      rw [busy] at succeeds
      cases succeeds
    · intro _
      unfold streamThreadEnds
      split_ifs with idle
      · exact idle
      · rfl

/-- After an accepted tuner swap the controls are off, and only a recovery
that was pending before will write them. -/
theorem swapTuner_paused (obeys : environment.Obeys)
    (sound : world.view.Sound) (running : world.running = true)
    {descriptor : Int} {swap : SwapRequest}
    (accepted : (serveSwapTuner environment world descriptor swap).status = .ok) :
    (serveSwapTuner environment world descriptor swap).world.Paused swap.config
      (world.daemon.recoveryConfigPending && world.daemon.firstIqSeen) .opened := by
  simp only [serveSwapTuner] at accepted ⊢
  split_ifs at accepted ⊢ with applies refused unstopped configured
  · exact absurd accepted (by simp)
  · exact absurd accepted (by simp)
  · obtain ⟨closed, reports, idle⟩ := stopAndClose_settled sound running (by simpa using unstopped)
    have opens := configureRadio_opens obeys closed configured
    obtain ⟨-, -, single⟩ := configureRadio_ok environment _ swap.config 3 configured
    have ledger : (configureRadio environment (stopAndClose environment world).2
          swap.config 3).2.daemon.toLedger = world.daemon.toLedger :=
      (configureRadio_ledger environment _ swap.config 3).trans
        (stopAndClose_ledger environment world)
    generalize
      configureRadio environment (stopAndClose environment world).2
        swap.config 3 = attempt at opens single ledger ⊢
    exact
      { held := opens.held
        idle := (congrArg StreamState.streamThread opens.stream).trans idle
        pending := by
          have pends := congrArg Ledger.recoveryConfigPending ledger
          have seen := congrArg Reports.firstIqSeen (opens.reports.trans reports)
          simp [storeSingleConfig, single, pends, seen]
        target := fun _ => ⟨rfl, rfl⟩ }
  · exact absurd accepted configured
  · simp only [serveUnrecognised, Handled.reply_status] at accepted
    split_ifs at accepted

/-- After an accepted mode swap nothing is pending; both tuners have their
controls, a single one has not. -/
theorem swapMode_paused (obeys : environment.Obeys)
    (sound : world.view.Sound) (running : world.running = true)
    {descriptor : Int} {swap : ModeSwapRequest}
    (accepted : (serveSwapMode environment world descriptor swap).status = .ok) :
    ∃ controls, (serveSwapMode environment world descriptor swap).world.Paused
        swap.single false controls ∧
      ∀ daemon between, (∀ active ∈ (SwapTarget.mode swap).configs, controls.Holds active) ↔
        (SwapTarget.mode swap).CarriesControls daemon between := by
  have rolledBack (saved : DaemonState) (before : World) {status : Status}
      (failed : status ≠ .ok) :
      (rollBackMode environment saved before status).status ≠ .ok := by
    simp only [rollBackMode]
    split_ifs <;> exact failed
  simp only [serveSwapMode] at accepted ⊢
  split_ifs at accepted ⊢ with applies refused unstopped configured
  · exact absurd accepted (by simp)
  · exact absurd accepted (rolledBack _ _ (by simp))
  · obtain ⟨closed, reports, idle⟩ := stopAndClose_settled sound running (by simpa using unstopped)
    by_cases dual : swap.mode = modeDual
    · simp only [configureMode, storeMode, SwapTarget.configs, SwapTarget.CarriesControls, dual,
        decide_true, if_true] at configured ⊢
      obtain ⟨valid, before, opens⟩ := configureDualRadio_opens closed configured
      refine ⟨_, ?_, fun _ _ => write_dual_holds_iff before valid⟩
      generalize
        configureDualRadio environment (stopAndClose environment world).2
          swap.dual = attempt at opens ⊢
      exact
        { held := opens.held
          idle := (congrArg StreamState.streamThread opens.stream).trans idle
          pending := by simp
          target := by simp }
    · simp only [configureMode, storeMode, SwapTarget.configs, SwapTarget.CarriesControls, dual,
        decide_false, Bool.false_eq_true, if_false] at configured ⊢
      have opens := configureRadio_opens obeys closed configured
      refine ⟨_, ?_, fun _ _ => by simpa using opened_holds_iff swap.single⟩
      generalize
        configureRadio environment (stopAndClose environment world).2
          swap.single 3 = attempt at opens ⊢
      exact
        { held := opens.held
          idle := (congrArg StreamState.streamThread opens.stream).trans idle
          pending := by simp
          target := by simp }
  · exact absurd accepted (rolledBack _ _ configured)
  · simp only [serveUnrecognised, Handled.reply_status] at accepted
    split_ifs at accepted

/-- A swap that was accepted leaves the stream stopped. -/
theorem swap_startsNone {descriptor : Int} {target : SwapTarget}
    (accepted : (dispatch environment world descriptor target.command).status = .ok) :
    (dispatch environment world descriptor target.command).startStreamAfterResponse = false := by
  cases target with
  | tuner swap =>
      exact dispatch_startsNoneAgain environment world descriptor rfl
  | mode swap =>
      have rolledBack (saved : DaemonState) (before : World)
          {status : Status} (failed : status ≠ .ok) :
          (rollBackMode environment saved before status).status ≠ .ok := by
        simp only [rollBackMode]
        split_ifs <;> exact failed
      simp only [SwapTarget.command, dispatch, serveSwapMode] at accepted ⊢
      split_ifs at accepted ⊢ with applies refused unstopped configured
      · rfl
      · exact absurd accepted (rolledBack _ _ (by simp))
      · rfl
      · exact absurd accepted (rolledBack _ _ configured)
      · rfl

/-- The daemon after an accepted swap is the one its handler leaves. -/
theorem swapped_daemon {descriptor : Int} {sequence : UInt32}
    {target : SwapTarget}
    (accepted : (dispatch environment world descriptor target.command).status = .ok) :
    (serveRequest environment world descriptor
        (.request sequence target.command)).2.daemon =
      (dispatch environment world descriptor target.command).world.daemon := by
  refine respond_daemon environment descriptor sequence target.command _
    (fun daemon => daemon =
      (dispatch environment world descriptor target.command).world.daemon) rfl fun before same => ?_
  rw [startStreams_none environment
    (dispatch_startsNoDuo environment world descriptor (by cases target <;> rfl))
    (by cases target <;> simp [SwapTarget.command]) (swap_startsNone accepted),
    same]

end Swapping

theorem World.Paused.of_daemon {before after : World} {config : RadioConfig}
    {due : Bool} {controls : ControlRegisters}
    (paused : before.Paused config due controls)
    (same : after.daemon = before.daemon) :
    after.Paused config due controls := by
  obtain ⟨held, idle, pending, target⟩ := paused
  rw [World.controls, ← same] at held
  rw [← same] at idle pending target
  exact ⟨held, idle, pending, target⟩

/-- After an accepted swap, whether its controls will be written before the
stream resumes decides whether they are carried. -/
theorem swapped_paused {server : Server} {slot : Nat} {sequence : UInt32}
    {target : SwapTarget} (obeys : environment.Obeys)
    (sound : server.world.view.Sound)
    (running : server.world.running = true)
    (accepts : server.Accepts environment slot sequence target.command) :
    ∃ config due controls, (server.step environment
          (.serve slot (.request sequence target.command))).world.Paused
        config due controls ∧
      ∀ between, (∀ active ∈ target.configs,
            (if due && decide (LoopStep.finishRecovery ∈ between) then
              controls.write 0 config
            else controls).Holds active) ↔
          target.CarriesControls server.world.daemon between := by
  have status := accepts.status
  have same : (server.step environment
          (.serve slot (.request sequence target.command))).world.daemon =
        (dispatch environment server.world
          (server.clients.getD slot invalidSocket)
          target.command).world.daemon := by
    rw [accepts.step_world]
    exact swapped_daemon status
  cases target with
  | tuner swap =>
      have paused := swapTuner_paused obeys sound running status
      refine ⟨_, _, _, paused.of_daemon same, fun between => ?_⟩
      simp only [SwapTarget.configs, SwapTarget.CarriesControls, List.mem_singleton, forall_eq]
      split_ifs with finished
      · simp only [Bool.and_eq_true, decide_eq_true_eq] at finished
        exact iff_of_true (write_holds _ _) (.inr ⟨finished.1.1, finished.1.2, finished.2⟩)
      · simp only [Bool.and_eq_true, decide_eq_true_eq] at finished
        rw [opened_holds_iff]
        refine ⟨.inl, fun carries => carries.resolve_right ?_⟩
        exact fun due => finished ⟨⟨due.1, due.2.1⟩, due.2.2⟩
  | mode swap =>
      obtain ⟨controls, paused, carries⟩ := swapMode_paused obeys sound running status
      exact ⟨_, _, _, paused.of_daemon same, carries _⟩

/-! ## Every swap -/

/-- A swap is accepted in any state the daemon has reached and then resumed,
on hardware that obeys from the swap on.  As long as the handle it opened is
open, that handle has the controls of every active tuner exactly when the swap
carries them. -/
theorem swap_carries_controls_iff (obeys : environment.Obeys)
    (past : Environment) (history : List Step) (run : SwapRun)
    (reached : run.server = runSteps (Server.step past) Server.initial history)
    (running : run.server.world.running = true)
    (accepted : run.Accepted environment) (radio : Radio)
    (opened : (run.swapped environment).world.daemon.radio.map Radio.handle = some radio.handle)
    (held : (run.settled environment).world.daemon.radio = some radio) :
    (∀ config ∈ run.target.configs, radio.controls.Holds config) ↔
      run.target.CarriesControls run.server.world.daemon run.between := by
  have sound : run.server.world.view.Sound := reached ▸ viewSound_run past history
  have swappedSound : (run.swapped environment).world.view.Sound :=
    step_viewSound environment _ _ sound
  have old :
      radio.handle < (run.swapped environment).world.used .openTuner :=
    swappedSound.numbered _ opened
  have pausedOld :
      radio.handle < (run.paused environment).world.used .openTuner :=
    old.trans_le (loopSteps_handleKept _ run.between).opened
  have resumedOld :
      radio.handle < (run.resumed environment).world.used .openTuner :=
    pausedOld.trans_eq (resume_opened accepted.resume).symm
  have settledOpen :
      (run.settled environment).world.view.handle = some radio.handle :=
    congrArg (Option.map Radio.handle) held
  have resumedOpen := (loopSteps_handleKept _ run.after).openBefore resumedOld settledOpen
  have pausedOpen :
      (run.paused environment).world.view.handle = some radio.handle :=
    (congrArg (Option.map Radio.handle) (resume_radio accepted.resume)).symm.trans resumedOpen
  obtain ⟨config, due, controls, paused, carries⟩ :=
    swapped_paused obeys sound running accepted.swap
  have pausedLater := paused.run obeys run.between old pausedOpen
  have resumed := resumed_of_paused accepted.resume pausedLater.held
  have settled := resumed.run run.after resumedOld settledOpen
  have last : radio.controls =
        if due && decide (LoopStep.finishRecovery ∈ run.between) then
          controls.write 0 config
        else controls :=
    Option.some.inj ((congrArg (Option.map Radio.controls) held).symm.trans settled.held)
  rw [last]
  exact carries run.between

/-- Client 5 streams from tuner A and swaps; the main loop goes round before
and after the stream resumes. -/
def swapWhileStreaming (target : SwapTarget) : SwapRun where
  server := runSteps (Server.step oneReceiver) Server.initial streamingSteps
  slot := 0
  target := target
  swapSequence := 4
  between := [.recover, .finishRecovery]
  resumeSequence := 5
  after := [.streamBlock tunerB 1024, .recover, .finishRecovery]

/-- Both tuners with an RF notch, a bias tee and the external reference. -/
def swapToControlled : ModeSwapRequest :=
  { swapToDual with
    dual :=
      { swapToDual.dual with
        channelA :=
          { swapToDual.dual.channelA with
            rfNotchEnabled := 1
            externalReferenceEnabled := 1 }
        channelB :=
          { swapToDual.dual.channelB with
            biasTeeEnabled := 1
            externalReferenceEnabled := 1 } } }

/-- A swap to both tuners carries their controls. -/
theorem dual_swap_carries_controls : ∃ radio,
      ((swapWhileStreaming (.mode swapToControlled)).settled
          oneReceiver).world.daemon.radio = some radio ∧
        ∀ config ∈ (SwapTarget.mode swapToControlled).configs,
          radio.controls.Holds config := by
  obtain ⟨radio, held⟩ : ∃ radio, ((swapWhileStreaming (.mode swapToControlled)).settled
          oneReceiver).world.daemon.radio = some radio :=
    Option.isSome_iff_exists.mp (by decide +kernel)
  have sameHandle : ((swapWhileStreaming (.mode swapToControlled)).swapped
          oneReceiver).world.daemon.radio.map Radio.handle =
        ((swapWhileStreaming (.mode swapToControlled)).settled
          oneReceiver).world.daemon.radio.map Radio.handle := by
    decide +kernel
  refine ⟨radio, held, ?_⟩
  exact (swap_carries_controls_iff (fun _ _ _ => rfl) oneReceiver
    streamingSteps (swapWhileStreaming (.mode swapToControlled)) rfl
    (by decide +kernel)
    ⟨⟨by decide +kernel, by decide +kernel, by decide +kernel⟩,
      ⟨by decide +kernel, by decide +kernel, by decide +kernel⟩⟩
    radio (sameHandle.trans (congrArg (Option.map Radio.handle) held))
    held).mpr ⟨rfl, rfl, rfl⟩

/-- Tuner B with its bias tee on. -/
def swapToBiasTee : SwapRequest where
  tuner := tunerB
  config := { sampleConfig with tuner := tunerB, biasTeeEnabled := 1 }

/-- A swap to tuner B is accepted and resumed, its stream runs and nothing is
pending, and the bias tee it asked for is off. -/
theorem tuner_swap_drops_bias_tee :
    let run := swapWhileStreaming (.tuner swapToBiasTee)
    let settled := run.settled oneReceiver
    settled.world.sent.filter (·.frame = .response 4 .ok 0) =
        [⟨5, .response 4 .ok 0, true⟩] ∧
      settled.world.sent.filter (·.frame = .response 5 .ok 0) = [⟨5, .response 5 .ok 0, true⟩] ∧
      settled.world.daemon.streamThread = .reading ∧
      settled.world.daemon.streamError = false ∧
      settled.world.daemon.recoveryConfigPending = false ∧
      settled.world.daemon.config.biasTeeEnabled = 1 ∧
      settled.world.controls.map ControlRegisters.biasTeeB = some (some 0) := by
  decide +kernel

end OpenRsp
