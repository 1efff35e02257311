import OpenRsp.Daemon.SwapControls

/-!
# Outcomes of the swaps

What `OPENRSP_CMD_SWAP_TUNER`, `OPENRSP_CMD_SWAP_MODE` and
`OPENRSP_CMD_RESUME_MODE` leave of the mode, the tuner and the pause, whatever
the hardware does: a swap that is not answered with `OK` leaves all of them,
and nothing the daemon does between requests touches them.
-/

namespace OpenRsp

/-! ## What a swap is about -/

/-- The owner, the mode, the single tuner and whether the daemon waits to be
resumed. -/
structure SwapMark where
  owner : Int
  dualMode : Bool
  tuner : UInt32
  paused : Bool
deriving DecidableEq, Repr

def DaemonState.swapMark (daemon : DaemonState) : SwapMark :=
  ⟨daemon.owner, daemon.dualMode, daemon.config.tuner, daemon.modeSwapPaused⟩

theorem swapMark_eq {before after : DaemonState}
    (requests : after.toLedger.requests = before.toLedger.requests)
    (mode : after.dualMode = before.dualMode) :
    after.swapMark = before.swapMark := by
  have owner : after.owner = before.owner := (congrArg Ledger.owner requests :)
  have config : after.config = before.config := (congrArg Ledger.config requests :)
  have paused : after.modeSwapPaused = before.modeSwapPaused :=
    (congrArg Ledger.modeSwapPaused requests :)
  simp only [DaemonState.swapMark, owner, mode, config, paused]

/-! ## The mode -/

section Modes

variable (environment : Environment) (world : World)

theorem closeRadio_dualMode : (closeRadio environment world).2.daemon.dualMode =
      world.daemon.dualMode :=
  congrArg (fun mode => mode.2.1) (closeRadio_mode environment world)

theorem configureAttempts_dualMode (config : RadioConfig) (remaining : Nat) :
    (configureAttempts environment config remaining
        world).2.daemon.dualMode =
      if (configureAttempts environment config remaining world).1 = .ok then
        false
      else world.daemon.dualMode := by
  have mode := congrArg (fun mode => mode.2.1)
    (configureAttempts_mode environment world config remaining)
  refine mode.trans ?_
  unfold singleModeAfter
  split <;> rfl

/-- Only a configuration that succeeds changes the mode. -/
theorem configureRadio_dualMode (config : RadioConfig) (maxAttempts : Nat) :
    (configureRadio environment world config maxAttempts).2.daemon.dualMode =
      if (configureRadio environment world config maxAttempts).1 = .ok then
        false
      else world.daemon.dualMode := by
  have closed := closeRadio_dualMode environment world
  unfold configureRadio
  by_cases invalid : openrspdConfigValid config = false
  · rw [if_pos invalid]
    exact (if_neg nofun).symm
  rw [if_neg invalid]
  by_cases transition : world.daemon.dualMode ∧ world.daemon.radio.isSome
  · rw [if_pos transition]
    dsimp only
    by_cases busy : (closeRadio environment world).1 = minusEbusy
    · rw [if_pos busy]
      exact closed.trans (if_neg nofun).symm
    · rw [if_neg busy, configureAttempts_dualMode]
      simp only [World.modify_daemon, closed]
  · rw [if_neg transition]
    exact configureAttempts_dualMode environment world config _

theorem configureDualHandle_dualMode (config : DualConfig) :
    (configureDualHandle environment world config).2.daemon.dualMode =
      if (configureDualHandle environment world config).1 = .ok then true
      else world.daemon.dualMode := by
  have mode := congrArg (fun mode => mode.2.1) (configureDualHandle_mode environment world config)
  refine mode.trans ?_
  split <;> rfl

theorem configureDualRadio_dualMode (config : DualConfig) :
    (configureDualRadio environment world config).2.daemon.dualMode =
      if (configureDualRadio environment world config).1 = .ok then true
      else world.daemon.dualMode := by
  have closed := closeRadio_dualMode environment world
  unfold configureDualRadio
  by_cases invalid : validDualConfig config = false
  · rw [if_pos invalid]
    exact (if_neg nofun).symm
  rw [if_neg invalid]
  by_cases transition : world.daemon.dualMode = false ∧ world.daemon.radio.isSome
  · rw [if_pos transition]
    dsimp only
    by_cases busy : (closeRadio environment world).1 = minusEbusy
    · rw [if_pos busy]
      exact closed.trans (if_neg nofun).symm
    · rw [if_neg busy, configureDualHandle_dualMode]
      simp only [World.modify_daemon, closed]
  · rw [if_neg transition]
    exact configureDualHandle_dualMode environment world config

theorem configureMode_dualMode (dual : Bool) (single : RadioConfig) (both : DualConfig) :
    (configureMode environment world dual single both).2.daemon.dualMode =
      if (configureMode environment world dual single both).1 = .ok then dual
      else world.daemon.dualMode := by
  cases dual with
  | false => exact configureRadio_dualMode environment world single 3
  | true => exact configureDualRadio_dualMode environment world both

theorem stopAndClose_dualMode : (stopAndClose environment world).2.daemon.dualMode =
      world.daemon.dualMode := by
  have stopped : (stopStream environment world).2.daemon.dualMode =
        world.daemon.dualMode :=
    congrArg Receiver.dualMode (stopStream_streamOnly environment world).receiver
  simp only [stopAndClose]
  split_ifs
  · exact stopped
  · exact (closeRadio_dualMode environment _).trans stopped

/-! ## Between requests -/

theorem createStreamThread_dualMode : (createStreamThread environment world).2.daemon.dualMode =
      world.daemon.dualMode :=
  congrArg Receiver.dualMode (createStreamThread_restreamed environment world id (.refl _)).receiver

theorem recoverMode_dualMode : (recoverMode environment world).daemon.dualMode =
      world.daemon.dualMode := by
  unfold recoverMode
  by_cases dual : world.daemon.dualMode = true
  · have configured := configureDualRadio_dualMode environment world world.daemon.dualConfig
    rw [if_pos dual]
    simp only [recoverDual]
    split_ifs with failed created
    · rw [configured, if_neg failed]
    · simp_all [restartFailed, createStreamThread_dualMode, armRestart]
    · simp_all [createStreamThread_dualMode, armRestart]
  · have configured := configureRadio_dualMode environment world (bootstrapOrConfig world.daemon) 3
    rw [if_neg dual]
    simp only [recoverSingle]
    split_ifs with failed created
    · rw [closeRadio_dualMode, configured, if_neg failed]
    · simp_all [closeRadio_dualMode, restartFailed, createStreamThread_dualMode, armRestart]
    · simp_all [createStreamThread_dualMode, armRestart]

theorem recoverFailedStream_dualMode : (recoverFailedStream environment world).daemon.dualMode =
      world.daemon.dualMode := by
  have joined : (joinFailed environment world).daemon.dualMode =
        world.daemon.dualMode := by
    unfold joinFailed
    split
    · exact congrArg Receiver.dualMode (joinStreamThread_streamOnly environment world).receiver
    · rfl
  have closed := (closeRadio_dualMode environment _).trans joined
  simp only [recoverFailedStream, reopenFailedStream, reopenResolved]
  split_ifs
  · rfl
  · exact closed
  · exact closed
  · have resolved := congrArg Receiver.dualMode
        (resolveAcquiredDevice_inventoryOnly environment
          (((closeRadio environment
            (joinFailed environment world)).2.modify
              forgetConfigured).modify invalidateSnapshot)).receiver
    split
    · exact (congrArg Receiver.dualMode
        (noteUnresolved_reportsOnly environment _ _).receiver).trans (resolved.trans closed)
    · exact (recoverMode_dualMode environment _).trans (resolved.trans closed)

/-- What the daemon does between requests leaves the swaps alone. -/
theorem loopStep_swapMark (server : Server) (step : LoopStep) :
    (server.step environment step.toStep).world.daemon.swapMark =
      server.world.daemon.swapMark := by
  cases step with
  | recover =>
      exact swapMark_eq (recoverFailedStream_requests environment _)
        (recoverFailedStream_dualMode environment _)
  | finishRecovery =>
      refine swapMark_eq (finishRecoveryConfig_requests environment _) ?_
      have frame := writeRecoveryConfig_registersOnly environment server.world
          (bootstrapOrConfig server.world.daemon) server.world.daemon.config
      simp only [LoopStep.toStep, Server.step, finishRecoveryConfig]
      split_ifs
      · rfl
      · exact frame.dualMode
  | streamEnds =>
      have frame := streamThreadEnds_streamOnly environment server.world
      exact swapMark_eq (congrArg Ledger.requests frame.ledger)
        (congrArg Receiver.dualMode frame.receiver)
  | streamBlock tuner length =>
      have frame := sendStream_reportsOnly environment server.world tuner length
      simp only [LoopStep.toStep, Server.step]
      split_ifs
      · rfl
      · exact swapMark_eq (congrArg Ledger.requests frame.ledger)
          (congrArg Receiver.dualMode frame.receiver)

end Modes

/-! ## The requests -/

section Swaps

variable (environment : Environment) (world : World) (descriptor : Int)

theorem serveUnrecognised_status :
    (serveUnrecognised world descriptor).status ≠ .ok := by
  unfold serveUnrecognised Handled.reply
  dsimp only
  split_ifs <;> decide

theorem configureRadio_swapMark (config : RadioConfig) (maxAttempts : Nat)
    (single : world.daemon.dualMode = false) :
    (configureRadio environment world config
        maxAttempts).2.daemon.swapMark = world.daemon.swapMark := by
  refine swapMark_eq (congrArg Ledger.requests
    (configureRadio_ledger environment world config maxAttempts)) ?_
  rw [configureRadio_dualMode, single, ite_self]

theorem stopAndClose_swapMark : (stopAndClose environment world).2.daemon.swapMark =
      world.daemon.swapMark :=
  swapMark_eq
    (congrArg Ledger.requests (stopAndClose_ledger environment world))
    (stopAndClose_dualMode environment world)

/-- A tuner swap is made, and the daemon waits for the resume if it was
streaming, or nothing of the session changes. -/
theorem serveSwapTuner_outcome (swap : SwapRequest) :
    let handled := serveSwapTuner environment world descriptor swap
    (handled.status = .ok ∧ handled.world.daemon.configured = true ∧ handled.world.daemon.swapMark =
          ⟨descriptor, false, swap.config.tuner, world.daemon.streamThreadStarted⟩) ∨
      (handled.status ≠ .ok ∧ handled.world.daemon.swapMark = world.daemon.swapMark) := by
  have closed := stopAndClose_swapMark environment world
  intro handled
  simp only [handled, serveSwapTuner]
  split_ifs with guard invalid failed configured
  · exact .inr ⟨by simp, rfl⟩
  · exact .inr ⟨by simp, closed⟩
  · have owned :
        (stopAndClose environment world).2.daemon.owner = descriptor :=
      (congrArg SwapMark.owner closed).trans guard.1
    have single :
        (stopAndClose environment world).2.daemon.dualMode = false :=
      (congrArg SwapMark.dualMode closed).trans guard.2.2
    have mark := configureRadio_swapMark environment
      (stopAndClose environment world).2 swap.config 3 single
    have ownerAfter := (congrArg SwapMark.owner mark).trans owned
    have modeAfter := (congrArg SwapMark.dualMode mark).trans single
    refine .inl ⟨rfl, rfl, ?_⟩
    simp only [DaemonState.swapMark] at ownerAfter modeAfter
    simp only [DaemonState.swapMark, Handled.reply, World.modify_daemon,
      storeSingleConfig, ownerAfter, modeAfter]
  · have single :
        (stopAndClose environment world).2.daemon.dualMode = false :=
      (congrArg SwapMark.dualMode closed).trans guard.2.2
    exact .inr ⟨configured,
      (configureRadio_swapMark environment _ swap.config 3 single).trans closed⟩
  · exact .inr ⟨serveUnrecognised_status world descriptor, rfl⟩

/-- Rolling a mode swap back restores the session, and so does leaving it
without a rollback. -/
theorem rollBackMode_outcome (saved : DaemonState) (status : Status)
    (failed : status ≠ .ok) (unpaused : saved.modeSwapPaused = false)
    (same : world.daemon.swapMark = saved.swapMark) :
    let handled := rollBackMode environment saved world status
    handled.status ≠ .ok ∧ handled.world.daemon.swapMark = saved.swapMark := by
  have mode : world.daemon.dualMode = saved.dualMode := congrArg SwapMark.dualMode same
  have rolled : (configureMode environment world saved.dualMode saved.config
          saved.dualConfig).2.daemon.swapMark = saved.swapMark := by
    refine (swapMark_eq (congrArg Ledger.requests
      (configureMode_ledger environment world saved.dualMode saved.config
        saved.dualConfig)) ?_).trans same
    rw [configureMode_dualMode, mode, ite_self]
  intro handled
  simp only [handled, rollBackMode]
  split_ifs
  · refine ⟨failed, ?_⟩
    have owner := congrArg SwapMark.owner rolled
    simp only [DaemonState.swapMark] at owner
    simp only [DaemonState.swapMark, Handled.restartStream, Handled.reply,
      World.modify_daemon, restoreMode, owner, unpaused]
  · exact ⟨failed, rolled⟩
  · exact ⟨failed, same⟩

/-- The stored tuner after a mode swap; one to both tuners leaves it. -/
def ModeSwapRequest.tunerAfter (swap : ModeSwapRequest) (stored : UInt32) :
    UInt32 :=
  if swap.mode = modeDual then stored else swap.single.tuner

/-- A mode swap is made, and the daemon waits for the resume if it was
streaming, or nothing of the session changes. -/
theorem serveSwapMode_outcome (swap : ModeSwapRequest)
    (unpaused : world.daemon.modeSwapPaused = false) :
    let handled := serveSwapMode environment world descriptor swap
    (handled.status = .ok ∧ handled.world.daemon.configured = true ∧ handled.world.daemon.swapMark =
          ⟨descriptor, decide (swap.mode = modeDual),
            swap.tunerAfter world.daemon.config.tuner,
            world.daemon.streamThreadStarted⟩) ∨
      (handled.status ≠ .ok ∧ handled.world.daemon.swapMark = world.daemon.swapMark) := by
  have closed := stopAndClose_swapMark environment world
  intro handled
  simp only [handled, serveSwapMode]
  split_ifs with guard invalid failed configured
  · exact .inr ⟨by simp, rfl⟩
  · exact .inr (rollBackMode_outcome environment _ world.daemon .ioError (by simp) unpaused closed)
  · have ledger : (configureMode environment (stopAndClose environment world).2
            (decide (swap.mode = modeDual)) swap.single
            swap.dual).2.daemon.toLedger = world.daemon.toLedger :=
      (configureMode_ledger ..).trans (stopAndClose_ledger environment world)
    have mode := configureMode_dualMode environment (stopAndClose environment world).2
        (decide (swap.mode = modeDual)) swap.single swap.dual
    rw [if_pos configured] at mode
    generalize
      configureMode environment (stopAndClose environment world).2
        (decide (swap.mode = modeDual)) swap.single swap.dual = after
      at ledger mode ⊢
    have owner : after.2.daemon.owner = descriptor := (congrArg Ledger.owner ledger).trans guard.1
    have config : after.2.daemon.config = world.daemon.config := congrArg Ledger.config ledger
    refine .inl ⟨rfl, ?_, ?_⟩
    · simp only [Handled.reply, World.modify_daemon, storeMode]
      split_ifs <;> rfl
    · simp only [DaemonState.swapMark, Handled.reply, World.modify_daemon,
        storeMode, ModeSwapRequest.tunerAfter]
      split_ifs with dual <;>
        simp [storeSingleConfig, owner, mode, config, dual]
  · refine .inr (rollBackMode_outcome environment _ world.daemon _ configured unpaused ?_)
    refine (swapMark_eq (congrArg Ledger.requests (configureMode_ledger ..)) ?_).trans closed
    rw [configureMode_dualMode, if_neg configured]
  · exact .inr ⟨serveUnrecognised_status world descriptor, rfl⟩

/-- The session after a swap that is made. -/
def SwapTarget.markAfter (target : SwapTarget) (descriptor : Int)
    (stored : UInt32) (wasStreaming : Bool) : SwapMark :=
  match target with
  | .tuner swap => ⟨descriptor, false, swap.config.tuner, wasStreaming⟩
  | .mode swap =>
      ⟨descriptor, decide (swap.mode = modeDual), swap.tunerAfter stored, wasStreaming⟩

/-- A swap is made or leaves the session as it was. -/
theorem dispatch_swap_outcome (target : SwapTarget)
    (unpaused : world.daemon.modeSwapPaused = false) :
    let handled := dispatch environment world descriptor target.command
    (handled.status = .ok ∧ handled.world.daemon.configured = true ∧ handled.world.daemon.swapMark =
          target.markAfter descriptor world.daemon.config.tuner world.daemon.streamThreadStarted) ∨
      (handled.status ≠ .ok ∧ handled.world.daemon.swapMark = world.daemon.swapMark) := by
  cases target with
  | tuner swap =>
      exact serveSwapTuner_outcome environment world descriptor swap
  | mode swap =>
      exact serveSwapMode_outcome environment world descriptor swap unpaused

/-- A resume ends the pause, or nothing changes because there is none. -/
theorem serveResumeMode_outcome :
    let handled := serveResumeMode world descriptor
    if world.daemon.owner = descriptor ∧ world.daemon.configured = true ∧
        world.daemon.modeSwapPaused = true then
      handled.status = .ok ∧ handled.world.daemon.swapMark =
          { world.daemon.swapMark with paused := false }
    else handled.status ≠ .ok ∧ handled.world = world := by
  intro handled
  simp only [handled, serveResumeMode]
  split_ifs
  · exact ⟨rfl, rfl⟩
  · exact ⟨serveUnrecognised_status world descriptor, rfl⟩

/-- Answering a request and starting its stream leave the session alone. -/
theorem serveRequest_swapMark (sequence : UInt32) (command : Command) :
    let handled := dispatch environment world descriptor command
    let served :=
      (serveRequest environment world descriptor (.request sequence command)).2
    served.daemon.swapMark = handled.world.daemon.swapMark ∧
      served.daemon.configured = handled.world.daemon.configured := by
  intro handled served
  have frame := respond_restreamed environment descriptor sequence command handled
  refine ⟨swapMark_eq ?_ (congrArg Receiver.dualMode frame.receiver),
    congrArg Receiver.configured frame.receiver⟩
  exact (congrArg Ledger.requests frame.ledger :)

end Swaps

end OpenRsp
