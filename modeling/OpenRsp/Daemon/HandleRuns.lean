import OpenRsp.Daemon.HandleRefinement

/-!
# Runs of the handle

The requests that acquire and release the receiver, the removal of a client
and the recovery of a failed stream, as moves of the abstract handle.  With
the other requests this covers every step of the server, and a property of
the handle that every move keeps holds along every run that complies with
its policy.
-/

namespace OpenRsp

open Runs

variable {policy : HandlePolicy} (environment : Environment)

/-! ## Acquiring and releasing -/

section Release

variable {world : World} (descriptor : Int)

theorem closeUnconfigured_handle : (closeUnconfigured environment world).handle =
      { world.handle with tuner := none, configured := false } :=
  congrArg (fun view : HandleView => { view with configured := false })
    (closeRadio_handle environment world)

theorem closeUnconfigured_moves :
    HandleMoves policy world.handle (closeUnconfigured environment world).handle := by
  rw [closeUnconfigured_handle]
  exact .closed (.inl rfl)

theorem serveAcquire_moves (request : AcquireRequest) : HandleMoves policy world.handle
      (serveAcquire environment world descriptor request).world.handle := by
  have listed := (snapshotSdrplayDevices_inventoryOnly environment world).handle_eq
  have checked (devices : List DeviceRecord) (index : UInt32) : HandleMoves policy world.handle
        (closeIfIdentityChanged environment
          (snapshotSdrplayDevices environment world).2 devices
          index).handle := by
    simp only [closeIfIdentityChanged]
    split_ifs
    · exact .trans (.of_eq listed) (closeUnconfigured_moves environment)
    · exact .of_eq listed
  simp only [serveAcquire]
  split_ifs
  · exact .stay _
  · exact .stay _
  · exact .stay _
  · split
    · exact .of_eq listed
    · split_ifs
      · exact checked _ _
      · exact checked _ _

theorem serveDuoAcquire_moves (request : DuoAcquireRequest) : HandleMoves policy world.handle
      (serveDuoAcquire environment world descriptor request).world.handle := by
  have resolved : (resolveDuoIdentity environment world request).2.handle =
        world.handle := by
    simp only [resolveDuoIdentity]
    split_ifs
    · exact (snapshotSdrplayDevices_inventoryOnly environment world).handle_eq
    · rfl
    · rfl
  simp only [serveDuoAcquire]
  split_ifs
  · exact .stay _
  · exact .stay _
  · split
    · exact .of_eq resolved
    · simp only [acquireDuoRole]
      split_ifs
      · exact .of_eq resolved
      · exact .of_eq resolved

/-- A handle for both tuners is closed when its owner leaves, so what is left
of dual mode is only the flag. -/
theorem releaseOwner_moves :
    HandleMoves policy world.handle (releaseOwner environment world).handle := by
  have stopped :
      (stopIfOpen environment world).2.handle = world.handle := by
    unfold stopIfOpen
    split
    · exact (stopStream_streamOnly environment world).handle_eq
    · rfl
  unfold releaseOwner
  generalize (stopIfOpen environment world).2 = before at stopped ⊢
  rw [← stopped]
  have dualClosed : HandleMoves policy before.handle
          (closeDual environment before).handle ∧
        ((closeDual environment before).daemon.dualMode = true →
          (closeDual environment before).daemon.radio = none) := by
    unfold closeDual
    split_ifs with dualOpen
    · exact ⟨closeUnconfigured_moves environment, fun _ => closeRadio_radio environment _⟩
    · refine ⟨.stay _, fun dual => ?_⟩
      simpa [dual] using dualOpen
  generalize closeDual environment before = closed at dualClosed ⊢
  obtain ⟨moved, shut⟩ := dualClosed
  have failedClosed : HandleMoves policy closed.handle
          (closeFailed environment closed).handle ∧
        ((closeFailed environment closed).daemon.dualMode = true →
          (closeFailed environment closed).daemon.radio = none) := by
    unfold closeFailed
    split_ifs
    · exact ⟨closeUnconfigured_moves environment, fun _ => closeRadio_radio environment _⟩
    · exact ⟨.stay _, shut⟩
  generalize closeFailed environment closed = left at failedClosed ⊢
  obtain ⟨movedOn, shutAfter⟩ := failedClosed
  refine moved.trans (movedOn.trans ?_)
  by_cases dual : left.daemon.dualMode = true
  · exact .of_move (.leaveDual left.handle (handle_tuner_eq_none.mpr (shutAfter dual)))
  · have single : left.daemon.dualMode = false := by simpa using dual
    refine .of_eq ?_
    change { left.handle with dualMode := false } = left.handle
    rw [← single]
    rfl

theorem tearDownDuo_moves :
    HandleMoves policy world.handle (tearDownDuo environment world).handle := by
  have reset :
      (tearDownDuo environment world).handle = (duoResetHardware environment world).2.handle :=
    rfl
  rw [reset]
  exact duoResetHardware_moves environment rfl

theorem releaseClient_moves :
    HandleMoves policy world.handle (releaseClient environment world descriptor).handle := by
  simp only [releaseClient, releaseDuoClient]
  have notified : (sendDuoEvent environment
        (world.modify fun daemon =>
          { daemon with
            duo := (openrspdDuoDisconnect world.daemon.duo descriptor).session })
        (openrspdDuoDisconnect world.daemon.duo descriptor).event).2.handle = world.handle := by
    simp only [World.handle, sendDuoEvent_daemon]
    rfl
  split_ifs
  · exact .trans (.of_eq notified) (tearDownDuo_moves environment)
  · exact .of_eq notified
  · exact .stay _
  · exact releaseOwner_moves environment

theorem releaseApiLock_handle :
    (releaseApiLock world descriptor).handle = world.handle := by
  unfold releaseApiLock
  split <;> rfl

end Release

/-! ## Requests of every kind -/

section Serving

variable {world : World} (descriptor : Int)

theorem dispatch_moves (command : Command)
    (complies : command.Complies policy environment world descriptor) :
    HandleMoves policy world.handle
      (dispatch environment world descriptor command).world.handle := by
  cases command with
  | ping => exact .stay _
  | list =>
      exact .of_eq (snapshotSdrplayDevices_inventoryOnly environment world).handle_eq
  | lockApi =>
      simp only [dispatch, serveLockApi]
      split_ifs <;> exact .stay _
  | unlockApi =>
      simp only [dispatch, serveUnlockApi]
      split_ifs
      · exact .of_eq (releaseApiLock_handle descriptor)
      · exact .stay _
  | duoAcquire request =>
      exact serveDuoAcquire_moves environment descriptor request
  | duoConfigure config =>
      exact serveDuoConfigure_moves environment descriptor config
  | duoStart => exact serveDuoStart_moves environment descriptor complies
  | duoStop => exact serveDuoStop_moves environment descriptor
  | duoRelease => exact serveDuoRelease_moves environment descriptor
  | duoSwapRate rate =>
      exact serveDuoSwapRate_moves environment descriptor rate
  | duoUpdate request =>
      exact serveDuoUpdate_moves environment descriptor request
  | acquire request =>
      exact serveAcquire_moves environment descriptor request
  | start =>
      simp only [dispatch, serveStart]
      split_ifs <;> exact .stay _
  | stop =>
      have stopped := (stopStream_streamOnly environment world).handle_eq
      simp only [dispatch, serveStop]
      split_ifs
      · exact .of_eq stopped
      · exact .of_eq stopped
      · exact .stay _
  | release =>
      simp only [dispatch, serveRelease]
      split_ifs
      · exact releaseClient_moves environment descriptor
      · exact .stay _
  | configure config =>
      exact serveConfigure_moves environment descriptor config complies
  | configureDual config =>
      exact serveConfigureDual_moves environment descriptor config complies
  | swapTuner swap =>
      exact serveSwapTuner_moves environment descriptor swap complies
  | swapMode swap =>
      exact serveSwapMode_moves environment descriptor swap complies
  | resumeMode =>
      simp only [dispatch, serveResumeMode]
      split_ifs <;> exact .stay _
  | update request =>
      exact serveUpdate_moves environment descriptor request complies
  | unknown => exact .stay _

theorem removeClient_moves {server : Server} {view : HandleView}
    (slot : Nat) (start : server.world.handle = view) :
    HandleMoves policy view (removeClient environment server slot).world.handle := by
  subst start
  simp only [removeClient]
  split_ifs
  · exact .stay _
  · rw [releaseApiLock_handle]
    exact releaseClient_moves environment _

/-- What a step asks of what a client sends. -/
theorem serveRequest_moves (incoming : Incoming)
    (complies : ∀ sequence command, incoming = .request sequence command →
        command.Complies policy environment world descriptor) :
    HandleMoves policy world.handle
      (serveRequest environment world descriptor incoming).2.handle := by
  have responded (sequence : UInt32) (command : Command)
      (handled : Handled) :
      (respond environment descriptor sequence command handled).2.handle = handled.world.handle :=
    (respond_restreamed environment descriptor sequence command handled).handle_eq
  cases incoming with
  | closed => exact .stay _
  | unreadable => exact .stay _
  | badHeader sequence => exact .of_eq (responded _ _ _)
  | request sequence command =>
      exact .trans
        (dispatch_moves environment descriptor command (complies sequence command rfl))
        (.of_eq (responded _ _ _))

theorem serveClient_moves (server : Server) (slot : Nat) (incoming : Incoming)
    (complies : (Step.serve slot incoming).Complies policy environment server) :
    HandleMoves policy server.world.handle
      (serveClient environment server slot incoming).world.handle := by
  have served : HandleMoves policy server.world.handle
        (serveRequest environment server.world
          (server.clients.getD slot invalidSocket) incoming).2.handle := by
    refine serveRequest_moves environment _ incoming ?_
    rintro sequence command rfl
    exact complies
  simp only [serveClient]
  split_ifs
  · exact .stay _
  · exact served.trans (removeClient_moves environment slot rfl)
  · exact served

theorem evictClient_moves (server : Server) :
    HandleMoves policy server.world.handle (evictClient environment server).world.handle := by
  simp only [evictClient]
  split_ifs
  · exact .stay _
  · split
    · exact .stay _
    · exact removeClient_moves environment _ rfl

end Serving

/-! ## Recovery -/

section Recovery

variable {world : World}

/-- Configuring a tuner creates no thread. -/
theorem openForAttempt_threads (config : RadioConfig) :
    (openForAttempt environment world config).2.used .threadCreate = world.used .threadCreate := by
  have resolved :=
    (resolveAcquiredDevice_inventoryOnly environment world).used .threadCreate (by decide)
  simp only [openForAttempt]
  split_ifs
  · rfl
  · split
    · exact resolved
    · exact resolved

theorem configureAttempts_threads (config : RadioConfig) (remaining : Nat) :
    (configureAttempts environment config remaining world).2.used
      .threadCreate = world.used .threadCreate := by
  induction remaining generalizing world with
  | zero => rfl
  | succ remaining inductionHypothesis =>
      have opened : (openForAttempt environment world config).2.used .threadCreate =
            world.used .threadCreate :=
        openForAttempt_threads environment config
      have applied : (applyIfOpen environment
            (openForAttempt environment world config).2 config).2.used
              .threadCreate = world.used .threadCreate := by
        refine Eq.trans ?_ opened
        unfold applyIfOpen
        split
        · exact (applyConfig_registersOnly environment _ config).used _ (by decide)
        · rfl
      have closed : (closeRadio environment
            (applyIfOpen environment
              (openForAttempt environment world config).2 config).2).2.used
              .threadCreate = world.used .threadCreate :=
        (closeRadio_used environment _ (by decide) (by decide)).trans applied
      simp only [configureAttempts]
      split_ifs
      · exact opened
      · exact applied
      · exact closed
      · exact inductionHypothesis.trans closed

theorem configureRadio_threads (config : RadioConfig) (maxAttempts : Nat) :
    (configureRadio environment world config maxAttempts).2.used
      .threadCreate = world.used .threadCreate := by
  have closed :
      (closeRadio environment world).2.used .threadCreate = world.used .threadCreate :=
    closeRadio_used environment world (by decide) (by decide)
  simp only [configureRadio]
  split_ifs
  · rfl
  · exact closed
  · exact (configureAttempts_threads environment config _).trans closed
  · exact configureAttempts_threads environment config _

theorem createStreamThread_handle (world : World) :
    (createStreamThread environment world).2.handle = world.handle :=
  (createStreamThread_restreamed environment world id (.refl _)).handle_eq

/-- Recovery of both tuners, once the failed handle has been given up. -/
theorem recoverDual_moves (closed : world.daemon.radio = none)
    (forgotten : world.daemon.configured = false) :
    HandleMoves policy world.handle (recoverDual environment world).handle := by
  have configured : HandleMoves policy world.handle
        (configureDualRadio environment world world.daemon.dualConfig).2.handle :=
    configureUnconfigured_moves environment _ rfl closed forgotten
  simp only [recoverDual]
  generalize configureDualRadio environment world world.daemon.dualConfig = attempt at configured ⊢
  have created := createStreamThread_handle environment (attempt.2.modify armRestart)
  split_ifs
  · exact configured
  · exact configured.trans (.of_eq created)
  · exact configured.trans (.of_eq created)

/-- A handle that was configured for recovery is given up again when no
thread can be created for it. -/
theorem recoverSingle_moves (closed : world.daemon.radio = none)
    (forgotten : world.daemon.configured = false)
    (creates : policy.loses ∨ world.result environment .threadCreate = 0) :
    HandleMoves policy world.handle (recoverSingle environment world).handle := by
  have threads : (configureRadio environment world (bootstrapOrConfig world.daemon)
        3).2.used .threadCreate = world.used .threadCreate :=
    configureRadio_threads environment _ 3
  have outcome := configureRadio_handle environment world (bootstrapOrConfig world.daemon)
  simp only [recoverSingle]
  generalize
    configureRadio environment world (bootstrapOrConfig world.daemon) 3 =
      attempt at threads outcome ⊢
  rcases outcome with
    ⟨succeeds, valid, tuner, configured, offers, after⟩ | ⟨failed, after⟩
  · have reopened : HandleMoves policy world.handle
          (attempt.2.modify fun daemon =>
            armRestart { daemon with configured := true }).handle := by
      refine .trans (.of_move (.reopen _ tuner _ (.inr rfl) valid offers)) (.of_eq ?_)
      exact congrArg (fun view : HandleView => { view with configured := true }) after
    have created := createStreamThread_handle environment
        (attempt.2.modify fun daemon =>
          armRestart { daemon with configured := true })
    have result : (createStreamThread environment
          (attempt.2.modify fun daemon =>
            armRestart { daemon with configured := true })).1 =
          world.result environment .threadCreate :=
      World.result_of_used environment threads
    rw [if_neg (by simpa using succeeds)]
    split_ifs with uncreated
    · refine reopened.trans ?_
      rw [closeRadio_handle]
      refine .trans (.closed (.inr ⟨rfl, fun _ _ => ?_⟩)) (.of_eq ?_)
      · exact creates.resolve_right (result ▸ uncreated)
      · exact congrArg (fun view : HandleView => { view with tuner := none }) created
    · exact reopened.trans (.of_eq created)
  · rw [if_pos failed, closeRadio_handle]
    refine .of_eq ?_
    have shut := handle_tuner_eq_none.mpr closed
    rcases after with same | ⟨-, configured, forgets, after⟩
    · rw [same, ← shut]
    · have unconfigured : configured = world.handle.configured := by
        rcases forgets with rfl | kept
        · exact forgotten.symm
        · exact kept.1
      rw [after, unconfigured, ← shut]

theorem recoverMode_moves {view : HandleView}
    (start : world.handle = view) (closed : world.daemon.radio = none)
    (forgotten : world.daemon.configured = false)
    (creates :
      policy.loses ∨ (world.daemon.dualMode = false → world.result environment .threadCreate = 0)) :
    HandleMoves policy view (recoverMode environment world).handle := by
  subst start
  unfold recoverMode
  split_ifs with dual
  · exact recoverDual_moves environment closed forgotten
  · exact recoverSingle_moves environment closed forgotten
      (creates.imp id fun created => created (by simpa using dual))

theorem reopenResolved_moves {view : HandleView}
    (start : world.handle = view) (closed : world.daemon.radio = none)
    (forgotten : world.daemon.configured = false)
    (creates :
      policy.loses ∨ (world.daemon.dualMode = false → world.result environment .threadCreate = 0)) :
    HandleMoves policy view (reopenResolved environment world).handle := by
  subst start
  have frame := resolveAcquiredDevice_inventoryOnly environment world
  have receiver := frame.receiver
  have threads : (resolveAcquiredDevice environment world).2.result environment
        .threadCreate = world.result environment .threadCreate :=
    frame.result environment (by decide)
  have resolved := frame.handle_eq
  simp only [reopenResolved]
  generalize resolveAcquiredDevice environment world = found at receiver threads resolved ⊢
  split
  · exact .of_eq ((noteUnresolved_reportsOnly environment _ _).handle_eq.trans resolved)
  · refine recoverMode_moves environment resolved ?_ ?_ ?_
    · exact (congrArg Receiver.radio receiver).trans closed
    · exact (congrArg Receiver.configured receiver).trans forgotten
    · refine creates.imp id fun created single => threads.trans (created ?_)
      exact (congrArg Receiver.dualMode receiver).symm.trans single

theorem joinFailed_streamOnly :
    StreamOnly world (joinFailed environment world) := by
  unfold joinFailed
  split
  · exact (joinStreamThread_streamOnly environment world).trans
      ⟨rfl, rfl, rfl, rfl, rfl, rfl, rfl, rfl, fun _ _ _ => rfl⟩
  · exact .refl _

theorem recoverFailedStream_moves (complies : world.RecoveryComplies policy environment) :
    HandleMoves policy world.handle (recoverFailedStream environment world).handle := by
  have joined : StreamOnly world (joinFailed environment world) := joinFailed_streamOnly environment
  have shut := closeRadio_handle environment (joinFailed environment world)
  rw [joined.handle_eq] at shut
  have closes : (closeRadio environment (joinFailed environment world)).1 =
          minusEbusy →
        world.result environment .close = minusEbusy := by
    have same : (joinFailed environment world).result environment .close =
          world.result environment .close :=
      World.result_of_used environment (joined.used _ (by decide) (by decide))
    simp only [closeRadio]
    split_ifs
    · intro busy
      cases busy
    · exact same.symm.trans
    · exact same.symm.trans
  have threads : (closeRadio environment (joinFailed environment world)).2.used
        .threadCreate = world.used .threadCreate :=
    (closeRadio_used environment _ (by decide) (by decide)).trans
      (joined.used _ (by decide) (by decide))
  have closed := closeRadio_radio environment (joinFailed environment world)
  simp only [recoverFailedStream]
  generalize closeRadio environment (joinFailed environment world) = after
    at shut closes threads closed ⊢
  split_ifs with healthy busy
  · exact .stay _
  · have obeys := complies (by simp_all) (by simp_all)
    rw [shut]
    refine .closed (.inr ⟨rfl, fun _ _ => ?_⟩)
    exact obeys.resolve_right fun obeys => obeys.1 (closes busy)
  · have obeys := complies (by simp_all) (by simp_all)
    have forgotten : HandleMoves policy world.handle
          { world.handle with tuner := none, configured := false } :=
      .closed (.inl rfl)
    have forgets : (after.2.modify forgetConfigured).handle =
          { world.handle with tuner := none, configured := false } :=
      congrArg (fun view : HandleView => { view with configured := false }) shut
    unfold reopenFailedStream
    split_ifs
    · exact forgotten.trans (.of_eq forgets)
    · refine forgotten.trans (reopenResolved_moves environment forgets closed rfl ?_)
      refine obeys.imp id fun obeys single => ?_
      refine (World.result_of_used environment threads).trans (obeys.2 ?_)
      exact (congrArg HandleView.dualMode shut).symm.trans single

theorem finishRecoveryConfig_handle :
    (finishRecoveryConfig environment world).handle = world.handle := by
  have frame := writeRecoveryConfig_registersOnly environment world
      (bootstrapOrConfig world.daemon) world.daemon.config
  unfold finishRecoveryConfig
  split_ifs
  · rfl
  · exact frame.handle_eq

end Recovery

/-! ## Every run -/

/-- A step that complies with a policy moves the handle as the policy
allows. -/
theorem Server.step_moves (server : Server) (step : Step)
    (complies : step.Complies policy environment server) :
    HandleMoves policy server.world.handle (server.step environment step).world.handle := by
  cases step with
  | accept descriptor =>
      simp only [Server.step, acceptClient]
      split_ifs <;> exact .stay _
  | hangup slot => exact removeClient_moves environment slot rfl
  | serve slot incoming =>
      exact serveClient_moves environment server slot incoming complies
  | evict => exact evictClient_moves environment server
  | recover => exact recoverFailedStream_moves environment complies
  | finishRecovery => exact .of_eq (finishRecoveryConfig_handle environment)
  | streamEnds =>
      exact .of_eq (streamThreadEnds_streamOnly environment server.world).handle_eq
  | streamBlock tuner length =>
      simp only [Server.step]
      split_ifs
      · exact .stay _
      · exact .of_eq (sendStream_reportsOnly environment server.world tuner length).handle_eq

/-- What every move of a policy keeps holds in every state of a run whose
steps all comply with it. -/
theorem handle_invariant
    {invariant : HandleView → Prop}
    (preserved :
      ∀ before after, HandleMove policy before after → invariant before → invariant after)
    (initially : invariant Server.initial.world.handle)
    {steps : List Step}
    (comply : StepsMeet (Server.step environment)
        (fun server step => step.Complies policy environment server)
        Server.initial steps) :
    invariant (runSteps (Server.step environment) Server.initial steps).world.handle :=
  invariant_of_stepsMeet
    (fun server step complies holds =>
      (Server.step_moves environment server step complies).keeps preserved holds)
    comply initially

end OpenRsp
