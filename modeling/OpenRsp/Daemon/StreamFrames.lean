import OpenRsp.Daemon.Tuning

/-!
# What the hardware operations do to the stream

Closing a handle waits for its reader, so an operation that closes may end
the stream thread.  It does nothing else to the stream state, and nothing at
all when no thread reads.
-/

namespace OpenRsp

/-- The stream state once the reader has returned. -/
def StreamState.ended (stream : StreamState) (result : Int) : StreamState :=
  { stream with
    streaming := false
    streamResult := result
    streamError := decide (result ≠ 0)
    streamThread := .idle }

/-- The reader, if there was one, may have returned. -/
def StreamState.MayEnd (before after : StreamState) : Prop :=
  after = before ∨ before.streamThread ≠ .idle ∧ ∃ result, after = before.ended result

theorem StreamState.MayEnd.refl (stream : StreamState) :
    stream.MayEnd stream :=
  .inl rfl

theorem StreamState.MayEnd.of_eq {before after : StreamState}
    (same : after = before) : before.MayEnd after :=
  .inl same

theorem StreamState.MayEnd.eq_of_idle {before after : StreamState}
    (ends : before.MayEnd after) (idle : before.streamThread = .idle) :
    after = before :=
  ends.resolve_right fun reading => reading.1 idle

theorem StreamState.MayEnd.trans {first second third : StreamState}
    (left : first.MayEnd second) (right : second.MayEnd third) :
    first.MayEnd third := by
  rcases left with rfl | ⟨reading, result, rfl⟩
  · exact right
  · exact .inr ⟨reading, result, right.eq_of_idle rfl⟩

/-- A thread that returned has still to be joined. -/
theorem StreamState.MayEnd.started {before after : StreamState} (ends : before.MayEnd after) :
    after.streamThreadStarted = before.streamThreadStarted := by
  rcases ends with rfl | ⟨-, result, rfl⟩ <;> rfl

section Frames

variable (environment : Environment) (world : World)

theorem streamThreadEnds_mayEnd : world.daemon.toStreamState.MayEnd
      (streamThreadEnds environment world).daemon.toStreamState := by
  unfold streamThreadEnds
  split
  · exact .refl _
  · exact .inr ⟨‹_›, _, rfl⟩

theorem streamThreadEnds_receiver : (streamThreadEnds environment world).daemon.toReceiver =
      world.daemon.toReceiver := by
  unfold streamThreadEnds
  split <;> rfl

theorem closeRadio_mayEnd :
    world.daemon.toStreamState.MayEnd (closeRadio environment world).2.daemon.toStreamState := by
  simp only [closeRadio]
  split_ifs
  · exact .refl _
  · exact .refl _
  · exact streamThreadEnds_mayEnd environment _

/-- Closing a handle forgets it and keeps the mode and its configuration. -/
theorem closeRadio_receiver : (closeRadio environment world).2.daemon.toReceiver =
      { world.daemon.toReceiver with radio := none } := by
  simp only [closeRadio]
  split_ifs with closed
  · rw [← closed]
  · rfl
  · rw [streamThreadEnds_receiver]
    rfl

/-- What a receiver is configured for, whatever its handle. -/
def Receiver.mode (receiver : Receiver) : Bool × Bool × DualConfig :=
  (receiver.configured, receiver.dualMode, receiver.dualConfig)

theorem closeRadio_mode :
    (closeRadio environment world).2.daemon.mode = world.daemon.mode := by
  unfold Receiver.mode
  rw [closeRadio_receiver]

theorem openForAttempt_mode (config : RadioConfig) :
    (openForAttempt environment world config).2.daemon.mode =
      world.daemon.mode := by
  have resolved :=
    congrArg Receiver.mode (resolveAcquiredDevice_inventoryOnly environment world).receiver
  simp only [openForAttempt]
  split
  · rfl
  · split
    · exact resolved
    · exact resolved

theorem applyIfOpen_mode (config : RadioConfig) :
    (applyIfOpen environment world config).2.daemon.mode =
      world.daemon.mode := by
  have frame := applyConfig_registersOnly environment world config
  unfold applyIfOpen
  split
  · simp only [Receiver.mode, frame.configured, frame.dualMode, frame.dualConfig]
  · rfl

/-- The mode after a single-tuner configuration with the given result. -/
def singleModeAfter (status : Status) (mode : Bool × Bool × DualConfig) :
    Bool × Bool × DualConfig :=
  if status = .ok then (mode.1, false, mode.2.2) else mode

/-- Only an attempt that succeeds changes the mode. -/
theorem configureAttempts_mode (config : RadioConfig) (remaining : Nat) :
    (configureAttempts environment config remaining world).2.daemon.mode = singleModeAfter
        (configureAttempts environment config remaining world).1
        world.daemon.mode := by
  induction remaining generalizing world with
  | zero => rfl
  | succ remaining inductionHypothesis =>
      have opened := openForAttempt_mode environment world config
      have applied := (applyIfOpen_mode environment
          (openForAttempt environment world config).2 config).trans opened
      have closed := (closeRadio_mode environment _).trans applied
      unfold configureAttempts
      dsimp only
      split
      · exact opened
      · split
        · exact congrArg (singleModeAfter .ok) applied
        · split
          · exact closed
          · rw [inductionHypothesis, closed]

theorem openForDual_mode :
    (openForDual environment world).2.daemon.mode = world.daemon.mode := by
  have resolved :=
    congrArg Receiver.mode (resolveAcquiredDevice_inventoryOnly environment world).receiver
  simp only [openForDual]
  split
  · rfl
  · split
    · exact resolved
    · exact resolved

/-- Both tuners are configured, or the mode stays. -/
theorem configureDualHandle_mode (config : DualConfig) :
    (configureDualHandle environment world config).2.daemon.mode =
      if (configureDualHandle environment world config).1 = .ok then
        (true, true, config)
      else world.daemon.mode := by
  have opened := openForDual_mode environment world
  have frame := writeDual_registersOnly environment (openForDual environment world).2 config
  have wrote : (writeDual environment (openForDual environment world).2
        config).2.daemon.mode = world.daemon.mode := by
    rw [← opened]
    simp only [Receiver.mode, frame.configured, frame.dualMode, frame.dualConfig]
  have closed := (closeRadio_mode environment _).trans wrote
  unfold configureDualHandle
  dsimp only
  split
  · exact opened
  · split
    · exact closed
    · rfl

/-- A configuration starts no stream. -/
theorem mayEndFrame : ConfigurationFrame environment fun before after =>
    before.daemon.toStreamState.MayEnd after.daemon.toStreamState where
  refl _ := .refl _
  trans left right := left.trans right
  registers frame := .of_eq frame.stream
  resolves world _ := .of_eq (resolveAcquiredDevice_inventoryOnly environment world).stream
  opens world _ _ _ _ := .of_eq (resolveAcquiredDevice_inventoryOnly environment world).stream
  closes := closeRadio_mayEnd environment
  marks _ _ _ _ := .refl _

end Frames

/-! ## Answering -/

section Answering

variable (environment : Environment)

theorem continueWith_skip
    {first next : World → Int × World} {world : World}
    (skipped : first world = (0, world)) :
    continueWith first next world = next world := by
  simp [continueWith, skipped]

theorem continueWith_last (first : World → Int × World) (world : World) :
    (continueWith first (fun after => (1, after)) world).2 = (first world).2 := by
  unfold continueWith
  split <;> rfl

/-- A part that writes frames only, and what is left to do after it. -/
theorem continueWith_daemon
    {first next : World → Int × World} {daemon : DaemonState}
    {outcome : DaemonState → Prop} {world : World}
    (same : world.daemon = daemon)
    (writes : (first world).2.daemon = world.daemon)
    (stops : outcome daemon)
    (continues : ∀ before : World, before.daemon = daemon → outcome (next before).2.daemon) :
    outcome (continueWith first next world).2.daemon := by
  have kept := writes.trans same
  unfold continueWith
  split
  · exact kept ▸ stops
  · exact continues _ kept

/-- Answering leaves the daemon as the handler left it, or goes on to start
a stream. -/
theorem respond_daemon (descriptor : Int) (sequence : UInt32) (command : Command)
    (handled : Handled) (outcome : DaemonState → Prop)
    (stops : outcome handled.world.daemon)
    (starts : ∀ before : World, before.daemon = handled.world.daemon →
        outcome (startStreams environment command handled before).2.daemon) :
    outcome (respond environment descriptor sequence command handled).2.daemon := by
  refine continueWith_daemon rfl rfl stops fun answered same => ?_
  refine continueWith_daemon same ?_ stops fun listed same => ?_
  · unfold writeList
    split <;> simp
  refine continueWith_daemon same ?_ stops starts
  unfold writeEvent
  split <;> simp

section Starts

variable {command : Command} {handled : Handled} {world : World}

theorem startDuo_skip (notDuo : handled.duoStartStreamAfterResponse = false) :
    startDuo environment handled world = (0, world) := by
  simp [startDuo, notDuo]

theorem startPlain_skip (notStart : command ≠ .start) :
    startPlain environment command handled world = (0, world) := by
  simp [startPlain, notStart]

theorem startAgain_skip (notAgain : handled.startStreamAfterResponse = false) :
    startAgain environment command handled world = (0, world) := by
  simp [startAgain, notAgain]

/-- Most requests start no stream. -/
theorem startStreams_none (notDuo : handled.duoStartStreamAfterResponse = false)
    (notStart : command ≠ .start)
    (notAgain : handled.startStreamAfterResponse = false) :
    (startStreams environment command handled world).2 = world := by
  rw [startStreams, continueWith_skip (startDuo_skip environment notDuo),
    continueWith_skip (startPlain_skip environment notStart),
    continueWith_skip (startAgain_skip environment notAgain)]

theorem startStreams_again (notDuo : handled.duoStartStreamAfterResponse = false)
    (notStart : command ≠ .start) :
    (startStreams environment command handled world).2 =
      (startAgain environment command handled world).2 := by
  rw [startStreams, continueWith_skip (startDuo_skip environment notDuo),
    continueWith_skip (startPlain_skip environment notStart),
    continueWith_last]

theorem startStreams_duo (notStart : command ≠ .start)
    (notAgain : handled.startStreamAfterResponse = false) :
    (startStreams environment command handled world).2 =
      (startDuo environment handled world).2 := by
  unfold startStreams continueWith
  split
  · rfl
  · rw [startPlain_skip environment notStart, startAgain_skip environment notAgain]
    simp

end Starts

/-- The commands of a master that may start a stream. -/
def Command.startsDuo : Command → Bool
  | .duoStart | .duoSwapRate _ => true
  | _ => false

/-- The commands of an owner after which a stream may be started again. -/
def Command.startsAgain : Command → Bool
  | .swapMode _ | .resumeMode | .update _ => true
  | _ => false

theorem dispatch_startsNoDuo (world : World) (descriptor : Int) {command : Command}
    (quiet : command.startsDuo = false) :
    (dispatch environment world descriptor command).duoStartStreamAfterResponse = false := by
  cases command with
  | duoStart => simp [Command.startsDuo] at quiet
  | duoSwapRate rate => simp [Command.startsDuo] at quiet
  | _ =>
      simp only [dispatch, serveList, serveLockApi, serveUnlockApi,
        serveDuoAcquire, acquireDuoRole, serveDuoConfigure, serveDuoStop,
        serveDuoRelease, serveDuoUpdate, withDuoRole, serveAcquire,
        serveStart, serveStop, serveRelease, serveConfigure,
        serveConfigureDual, serveSwapTuner, serveSwapMode, rollBackMode,
        serveResumeMode, serveUpdate, serveUnrecognised]
      repeat' split
      all_goals rfl

theorem serveDuoSwapRate_startsNoneAgain (world : World) (descriptor : Int) (rate : UInt32) :
    (serveDuoSwapRate environment world descriptor rate).startStreamAfterResponse = false := by
  have stopped (before : World) (wasStreaming : Bool) :
      (swapRateStopped environment before rate wasStreaming).startStreamAfterResponse = false := by
    simp only [swapRateStopped]
    split_ifs <;> rfl
  have swapped :
      (swapRate environment world rate).startStreamAfterResponse = false := by
    simp only [swapRate]
    split_ifs
    · rfl
    · rfl
    · exact stopped _ _
  have served (role : DuoRole) : (if role ≠ .master then Handled.reply world .badRequest
        else if world.daemon.duo.masterInitialised = false then
          .reply world .startPending
        else if rate ≠ 6000000 ∧ rate ≠ 8000000 then
          .reply world .badRequest
        else if world.daemon.duo.slaveInitialised then
          .reply world .stopPending
        else if rate = world.daemon.duo.sampleRateHz then .reply world .ok
        else swapRate environment world rate).startStreamAfterResponse =
          false := by
    split_ifs
    all_goals first | rfl | exact swapped
  unfold serveDuoSwapRate withDuoRole
  split
  · rfl
  · exact served _
  · exact served _

theorem dispatch_startsNoneAgain (world : World) (descriptor : Int) {command : Command}
    (quiet : command.startsAgain = false) :
    (dispatch environment world descriptor command).startStreamAfterResponse = false := by
  cases command with
  | swapMode swap => simp [Command.startsAgain] at quiet
  | resumeMode => simp [Command.startsAgain] at quiet
  | update request => simp [Command.startsAgain] at quiet
  | duoSwapRate rate =>
      exact serveDuoSwapRate_startsNoneAgain environment world descriptor rate
  | _ =>
      simp only [dispatch, serveList, serveLockApi, serveUnlockApi,
        serveDuoAcquire, acquireDuoRole, serveDuoConfigure, serveDuoStop,
        serveDuoStart, startMaster, startSlave, serveDuoRelease,
        serveDuoUpdate, withDuoRole,
        serveAcquire, serveStart, serveStop, serveRelease, serveConfigure,
        serveConfigureDual, serveSwapTuner, serveUnrecognised]
      repeat' split
      all_goals rfl

end Answering

section Creating

variable (environment : Environment) (world : World)

/-- The stream state after the creation of a thread on an open handle nobody
reads. -/
theorem createStreamThread_stream (idle : world.daemon.streamThread = .idle)
    (isOpen : world.daemon.radio.isSome = true) :
    (createStreamThread environment world).2.daemon.toStreamState =
      if (createStreamThread environment world).1 = 0 then
        { world.daemon.toStreamState with
          streamThread := .reading
          streamThreadStarted := true }
      else world.daemon.toStreamState := by
  unfold createStreamThread
  dsimp only
  by_cases failed : world.result environment .threadCreate = 0
  · simp [failed, idle, isOpen]
  · simp [failed]

theorem createStreamThread_receiver : (createStreamThread environment world).2.daemon.toReceiver =
      world.daemon.toReceiver := by
  simp only [createStreamThread]
  split
  · rfl
  · simp only [World.modify_daemon]
    split <;> rfl

end Creating

end OpenRsp
