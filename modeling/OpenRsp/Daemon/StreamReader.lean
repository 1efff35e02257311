import OpenRsp.Daemon.StreamActivity

/-!
# The reader and its handle

While the main loop runs, a thread reads only from an open handle, and the
one that `stream_thread` names is waiting to be joined.  Closing a handle
waits for its reader, unless the driver refuses with `-EBUSY`; then the loop
ends.  Handles are numbered in the order they were opened in.
-/

namespace OpenRsp

open Runs

/-- A reader has an open handle and a name, and the handle is one of those
opened so far. -/
structure StreamView.Sound (view : StreamView) : Prop where
  isOpen : view.running = true → view.stream.streamThread ≠ .idle → view.isOpen = true
  named : view.running = true → view.stream.streamThread = .reading →
      view.stream.streamThreadStarted = true
  numbered : ∀ number, view.handle = some number → number < view.opened

theorem StreamView.Quieter.sound {before after : StreamView}
    (quieter : before.Quieter after) (sound : before.Sound) :
    after.Sound where
  isOpen running busy := by
    obtain ⟨same, -, isOpen⟩ := quieter.reader running busy
    exact isOpen (sound.isOpen (quieter.running running) (same ▸ busy))
  named running reading := by
    obtain ⟨same, started, -⟩ := quieter.reader running (by simp [reading])
    exact started reading (sound.named (quieter.running running) (same.trans reading))
  numbered number found := by
    rcases quieter.handles.handle number found with found | ⟨-, upper⟩
    · exact (sound.numbered number found).trans_le quieter.handles.opened
    · exact upper

/-- Without a handle nothing reads. -/
theorem StreamView.Sound.idle_of_closed {world : World}
    (sound : world.view.Sound) (running : world.running = true)
    (closed : world.daemon.radio = none) :
    world.daemon.streamThread = .idle := by
  by_contra busy
  have isOpen := sound.isOpen running busy
  simp [closed] at isOpen

/-- Flags do not matter. -/
theorem StreamView.Sound.of_flags {before after : StreamView} (sound : before.Sound)
    (thread : after.stream.streamThread = before.stream.streamThread)
    (started : after.stream.streamThreadStarted = before.stream.streamThreadStarted)
    (handle : after.handle = before.handle)
    (opened : after.opened = before.opened)
    (running : after.running = before.running) : after.Sound := by
  constructor
  · rw [running, thread, StreamView.isOpen, handle]
    exact sound.isOpen
  · rw [running, thread, started]
    exact sound.named
  · rw [handle, opened]
    exact sound.numbered

section Steps

variable (environment : Environment) {world : World}

theorem createStreamThread_viewSound (sound : world.view.Sound) :
    (createStreamThread environment world).2.view.Sound := by
  simp only [createStreamThread]
  split
  · exact sound
  · by_cases idle : world.daemon.streamThread = .idle
    · by_cases isOpen : world.daemon.radio.isSome = true
      · exact ⟨by simp [idle, isOpen], by simp [World.view, idle, isOpen],
          by simpa [World.view, idle, isOpen] using sound.numbered⟩
      · exact ⟨by simp [World.view, idle, isOpen],
          by simp [World.view, idle, isOpen],
          by simpa [World.view, idle, isOpen, streamMainReturns] using sound.numbered⟩
    · have isOpen := sound.isOpen
      exact ⟨fun running _ => by
          simpa [idle, streamMainReturns] using isOpen running idle,
        by simp [World.view, idle],
        by simpa [World.view, idle, streamMainReturns] using sound.numbered⟩

/-! ## Requests -/

theorem continueWith_viewSound {first next : World → Int × World}
    (begins : (first world).2.view.Sound)
    (continues : ∀ before : World, before.view.Sound → (next before).2.view.Sound) :
    (continueWith first next world).2.view.Sound := by
  unfold continueWith
  split
  · exact begins
  · exact continues _ begins

theorem startStreams_viewSound (command : Command) (handled : Handled) (sound : world.view.Sound) :
    (startStreams environment command handled world).2.view.Sound := by
  have created (before : World) (sound : before.view.Sound) :=
    createStreamThread_viewSound environment sound
  refine continueWith_viewSound ?_ fun before sound => ?_
  · unfold startDuo
    split
    · exact created (world.modify armDuoStream) (sound.of_flags rfl rfl rfl rfl rfl)
    · exact sound
  refine continueWith_viewSound ?_ fun before sound => ?_
  · have plain := created (before.modify fun daemon => { daemon with loggedUsbIq := false }) sound
    simp only [startPlain]
    split_ifs
    · exact plain.of_flags rfl rfl rfl rfl rfl
    · exact plain
    · exact sound
  refine continueWith_viewSound ?_ fun before sound => sound
  simp only [startAgain]
  split
  · exact created (before.modify (armRestartedStream _)) (sound.of_flags rfl rfl rfl rfl rfl)
  · exact sound

theorem writeDevices_view (descriptor : Int) (sequence : UInt32) (records : List DeviceRecord) :
    (writeDevices environment descriptor sequence records world).2.view =
      world.view := by
  induction records generalizing world with
  | nil => rfl
  | cons record rest inductionHypothesis =>
      simp only [writeDevices]
      split
      · rfl
      · rw [inductionHypothesis]
        rfl

theorem sendDuoEvent_view (event : DuoEvent) :
    (sendDuoEvent environment world event).2.view = world.view := by
  unfold sendDuoEvent
  split <;> rfl

theorem respond_viewSound (descriptor : Int) (sequence : UInt32)
    (command : Command) {handled : Handled}
    (sound : handled.world.view.Sound) :
    (respond environment descriptor sequence command handled).2.view.Sound := by
  refine continueWith_viewSound sound fun answered sound => ?_
  refine continueWith_viewSound ?_ fun listed sound => ?_
  · unfold writeList
    split
    · rw [writeDevices_view]
      exact sound
    · exact sound
  refine continueWith_viewSound ?_ fun notified sound =>
    startStreams_viewSound environment command handled sound
  unfold writeEvent
  split
  · rw [sendDuoEvent_view]
    exact sound
  · exact sound

/-! ## Removal -/

theorem releaseOwner_quieter :
    world.view.Quieter (releaseOwner environment world).view :=
  ((quieterFrame environment).closeLeft world).trans
    (.of_flags rfl rfl (fun failed => absurd failed Bool.false_ne_true) rfl rfl rfl)

theorem tearDownDuo_quieter :
    world.view.Quieter (tearDownDuo environment world).view :=
  ((quieterFrame environment).stopIfOpen world).trans
    (closeRadio_quieter environment (stopIfOpen environment world).2)

theorem releaseClient_quieter (descriptor : Int) :
    world.view.Quieter (releaseClient environment world descriptor).view := by
  simp only [releaseClient, releaseDuoClient]
  split_ifs
  · refine .trans ?_ (tearDownDuo_quieter environment)
    rw [sendDuoEvent_view]
    exact .refl _
  · rw [sendDuoEvent_view]
    exact .refl _
  · exact .refl _
  · exact releaseOwner_quieter environment

theorem releaseApiLock_view (descriptor : Int) :
    (releaseApiLock world descriptor).view = world.view := by
  unfold releaseApiLock
  split <;> rfl

theorem removeClient_quieter (server : Server) (slot : Nat) :
    server.world.view.Quieter (removeClient environment server slot).world.view := by
  simp only [removeClient]
  split
  · exact .refl _
  · rw [releaseApiLock_view]
    exact releaseClient_quieter environment _

/-! ## Recovery -/

theorem streamThreadEnds_quieter :
    world.view.Quieter (streamThreadEnds environment world).view := by
  have stream := (streamThreadEnds_mayEnd environment world).quieter
  revert stream
  unfold streamThreadEnds
  split
  · exact fun _ => .refl _
  · exact fun stream => .of_idle stream id (fun _ => rfl) (.of_eq rfl rfl)

theorem joinFailed_quieter :
    world.view.Quieter (joinFailed environment world).view := by
  unfold joinFailed
  split
  · have frame := joinStreamThread_streamOnly environment world
    have stream := joinStreamThread_stream environment world
    have thread := congrArg StreamState.streamThread stream
    exact joined_quieter environment world ‹_›
      (frame.trans ⟨rfl, rfl, rfl, rfl, rfl, rfl, rfl, rfl, fun _ _ _ => rfl⟩)
      thread
  · exact .refl _

theorem recoverMode_viewSound (sound : world.view.Sound) :
    (recoverMode environment world).view.Sound := by
  have created (before : World) (sound : before.view.Sound) :=
    createStreamThread_viewSound environment sound
  simp only [recoverMode, recoverDual, recoverSingle]
  split
  · have configured :=
      ((quieterFrame environment).configureDualRadio world world.daemon.dualConfig).sound sound
    have restarted := created
        ((configureDualRadio environment world world.daemon.dualConfig).2.modify armRestart)
        (configured.of_flags rfl rfl rfl rfl rfl)
    split_ifs
    · exact configured
    · exact restarted.of_flags rfl rfl rfl rfl rfl
    · exact restarted
  · have configured :=
      ((quieterFrame environment).configureRadio world (bootstrapOrConfig world.daemon) 3).sound sound
    have restarted := created
        ((configureRadio environment world (bootstrapOrConfig world.daemon)
          3).2.modify fun daemon =>
            armRestart { daemon with configured := true })
        (configured.of_flags rfl rfl rfl rfl rfl)
    split_ifs
    · exact (closeRadio_quieter environment _).sound configured
    · exact (closeRadio_quieter environment _).sound (restarted.of_flags rfl rfl rfl rfl rfl)
    · exact restarted

theorem recoverFailedStream_viewSound (sound : world.view.Sound) :
    (recoverFailedStream environment world).view.Sound := by
  have closed := ((joinFailed_quieter environment).trans
      (closeRadio_quieter environment (joinFailed environment world))).sound sound
  simp only [recoverFailedStream, reopenFailedStream]
  split_ifs
  · exact sound
  · exact closed
  · exact closed
  · have resolved := resolveAcquiredDevice_inventoryOnly environment
        (((closeRadio environment
          (joinFailed environment world)).2.modify forgetConfigured).modify invalidateSnapshot)
    have sound := (StreamView.Quieter.of_eq resolved.view).sound closed
    simp only [reopenResolved]
    split
    · rw [(noteUnresolved_reportsOnly environment _ _).view]
      exact sound
    · exact recoverMode_viewSound environment sound

theorem finishRecoveryConfig_viewSound (sound : world.view.Sound) :
    (finishRecoveryConfig environment world).view.Sound := by
  have wrote := (writeRecoveryConfig_registersOnly environment world
      (bootstrapOrConfig world.daemon) world.daemon.config).view
  simp only [finishRecoveryConfig]
  split
  · exact sound
  · exact ((StreamView.Quieter.of_eq wrote).sound sound).of_flags rfl rfl rfl rfl rfl

end Steps

/-! ## Every run -/

section Runs

variable (environment : Environment)

theorem serveUpdate_viewSound {world : World} (descriptor : Int)
    (request : UpdateRequest) (sound : world.view.Sound) :
    (serveUpdate environment world descriptor request).world.view.Sound := by
  have applied := ((quieterFrame environment).stopAndApplyUpdate world request).sound sound
  simp only [serveUpdate]
  split_ifs
  · exact sound
  · exact sound
  · exact applied.of_flags rfl rfl rfl rfl rfl
  · exact applied
  · exact sound

theorem dispatch_viewSound {world : World} (descriptor : Int)
    (command : Command) (sound : world.view.Sound) :
    (dispatch environment world descriptor command).world.view.Sound := by
  have quiet {handled : Handled} (quiet : handled.Quiet world) :
      handled.world.view.Sound :=
    StreamView.Quieter.sound quiet sound
  cases command with
  | ping => exact sound
  | unknown => exact sound
  | list =>
      exact quiet (.of_eq (snapshotSdrplayDevices_inventoryOnly environment world).view)
  | lockApi =>
      simp only [dispatch, serveLockApi]
      split <;> exact sound
  | unlockApi =>
      simp only [dispatch, serveUnlockApi]
      split
      · rw [Handled.reply_world, releaseApiLock_view]
        exact sound
      · exact sound
  | duoAcquire acquire =>
      exact quiet (serveDuoAcquire_quiet environment world descriptor acquire)
  | duoConfigure config =>
      exact quiet (serveDuoConfigure_quiet environment world descriptor config)
  | duoStart => exact quiet (serveDuoStart_quiet environment world descriptor)
  | duoStop => exact quiet (serveDuoStop_quiet environment world descriptor)
  | duoRelease =>
      exact quiet (serveDuoRelease_quiet environment world descriptor)
  | duoSwapRate rate =>
      exact quiet (serveDuoSwapRate_quiet environment world descriptor rate)
  | duoUpdate request =>
      exact quiet (serveDuoUpdate_quiet environment world descriptor request)
  | acquire acquire =>
      exact quiet (serveAcquire_quiet environment world descriptor acquire)
  | start => exact quiet (serveStart_quiet world descriptor)
  | stop => exact quiet ((quieterFrame environment).serveStop world descriptor)
  | release =>
      simp only [dispatch, serveRelease]
      split
      · exact quiet (releaseClient_quieter environment descriptor)
      · exact sound
  | configure config =>
      exact quiet ((quieterFrame environment).serveConfigure world descriptor config)
  | configureDual config =>
      exact quiet ((quieterFrame environment).serveConfigureDual world descriptor config)
  | swapTuner swap =>
      exact quiet ((quieterFrame environment).serveSwapTuner world descriptor swap)
  | swapMode swap =>
      exact quiet ((quieterFrame environment).serveSwapMode world descriptor swap)
  | resumeMode => exact quiet ((quieterFrame environment).serveResumeMode world descriptor)
  | update request =>
      exact serveUpdate_viewSound environment descriptor request sound

theorem serveRequest_viewSound {world : World} (descriptor : Int)
    (incoming : Incoming) (sound : world.view.Sound) :
    (serveRequest environment world descriptor incoming).2.view.Sound := by
  cases incoming with
  | closed => exact sound
  | unreadable => exact sound
  | badHeader sequence =>
      exact respond_viewSound environment descriptor sequence .unknown sound
  | request sequence command =>
      exact respond_viewSound environment descriptor sequence command
        (dispatch_viewSound environment descriptor command sound)

theorem step_viewSound (server : Server) (step : Step) (sound : server.world.view.Sound) :
    (server.step environment step).world.view.Sound := by
  have removed (before : Server) (slot : Nat)
      (sound : before.world.view.Sound) :=
    (removeClient_quieter environment before slot).sound sound
  cases step with
  | accept descriptor =>
      simp only [Server.step, acceptClient]
      split <;> exact sound
  | hangup slot => exact removed server slot sound
  | serve slot incoming =>
      have served :=
        serveRequest_viewSound environment (server.clients.getD slot invalidSocket) incoming sound
      simp only [Server.step, serveClient]
      split_ifs
      · exact sound
      · exact removed _ slot served
      · exact served
  | evict =>
      simp only [Server.step, evictClient]
      split
      · exact sound
      · split
        · exact sound
        · exact removed _ _ sound
  | recover => exact recoverFailedStream_viewSound environment sound
  | finishRecovery =>
      exact finishRecoveryConfig_viewSound environment sound
  | streamEnds =>
      exact (streamThreadEnds_quieter environment).sound sound
  | streamBlock tuner length =>
      simp only [Server.step]
      split
      · exact sound
      · rw [(sendStream_reportsOnly environment _ _ _).view]
        exact sound

/-- In every state the main loop reaches, a reader has a name and an open
handle. -/
theorem viewSound_run (steps : List Step) :
    (runSteps (Server.step environment) Server.initial steps).world.view.Sound :=
  invariant_of_steps (step_viewSound environment) steps
    ⟨fun _ busy => absurd rfl busy, fun _ reading => absurd reading (by decide),
      fun _ found => absurd found (by simp [World.view, Server.initial,
        World.initial, DaemonState.initial])⟩

end Runs

end OpenRsp
