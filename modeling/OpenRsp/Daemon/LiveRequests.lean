import OpenRsp.Daemon.Controls
import OpenRsp.Daemon.StreamReader

/-!
# Requests that change a running stream

`OPENRSP_CMD_UPDATE`, `OPENRSP_CMD_SWAP_TUNER`, `OPENRSP_CMD_SWAP_MODE` and
`OPENRSP_CMD_DUO_SWAP_RATE` stop a running stream before they know that they
will succeed.  A failure has to leave it running as it was or to arm
recovery.  A mode swap rolls back; the others give up with the stream
stopped, and unless the stopped thread itself reported a failure nothing
starts it again.  A rollback programs the stored configuration, but on a
handle it had to open again a single tuner loses its controls, and tuner A of
two loses its frequency and the controls it shares with tuner B.
-/

namespace OpenRsp

open Runs

/-! ## Requests and what they promise -/

/-- The requests that stop a running stream to change it. -/
inductive LiveRequest where
  | update (request : UpdateRequest)
  | swapTuner (swap : SwapRequest)
  | swapMode (swap : ModeSwapRequest)
  | duoSwapRate (rate : UInt32)
deriving DecidableEq, Repr

def LiveRequest.command : LiveRequest → Command
  | .update request => .update request
  | .swapTuner swap => .swapTuner swap
  | .swapMode swap => .swapMode swap
  | .duoSwapRate rate => .duoSwapRate rate

/-- The thread that `stream_thread` names reads. -/
def DaemonState.Streams (daemon : DaemonState) : Prop := daemon.streamThread = .reading

/-- `recover_failed_stream` will reopen the receiver. -/
structure DaemonState.RecoveryArmed (daemon : DaemonState) : Prop where
  failed : daemon.streamError = true
  stopped : daemon.streaming = false
  wanted : 0 ≤ daemon.owner ∨ daemon.duoActive = true ∧ daemon.duo.masterSelected = true

/-- The registers of the open handle, by mode. -/
def DaemonState.RunsStored (daemon : DaemonState) : Prop :=
  if daemon.dualMode = true then
    ∀ tuner, daemon.radio.map (Radio.channel · tuner) =
        some (dualRegisters 0 daemon.dualConfig (daemon.dualConfig.channel tuner))
  else daemon.radio.map Radio.tuned = some (.of daemon.config)

/-- The configurations of the active tuners. -/
def DaemonState.activeConfigs (daemon : DaemonState) : List RadioConfig :=
  if daemon.dualMode = true then [daemon.dualConfig.channelA, daemon.dualConfig.channelB]
  else [daemon.config]

/-- The stored configuration is the previous one, and the registers and the
controls of the handle are what they were or what is stored. -/
structure DaemonState.SameConfiguration (before after : DaemonState) :
    Prop where
  dualMode : after.dualMode = before.dualMode
  config : after.config = before.config
  dualConfig : after.dualConfig = before.dualConfig
  hardware : after.radio = before.radio ∨ after.RunsStored
  controls : after.radio.map Radio.controls = before.radio.map Radio.controls ∨
    ∀ radio, after.radio = some radio →
      ∀ config ∈ after.activeConfigs, radio.controls.Holds config
  tuner : after.dualMode = false → ∀ radio, after.radio = some radio →
      radio.tuner = before.config.tuner ∨ before.radio.map Radio.tuner = some radio.tuner

/-- The stream runs again as before, or recovery will restart it. -/
def DaemonState.Survives (before after : DaemonState) : Prop :=
  (after.Streams ∧ before.SameConfiguration after) ∨ after.RecoveryArmed

/-- The stream runs, is paused for `OPENRSP_CMD_RESUME_MODE`, or recovery
will restart it. -/
def DaemonState.GoesOn (daemon : DaemonState) : Prop :=
  daemon.Streams ∨ daemon.modeSwapPaused = true ∨ daemon.RecoveryArmed

/-! ## Where they stall -/

section Stalls

variable (environment : Environment) (world : World) (descriptor : Int)

/-- The world in which a failed mode swap puts the old mode back. -/
def modeSwapFailed (swap : ModeSwapRequest) : World :=
  let closed := stopAndClose environment world
  if closed.1 = false then closed.2
  else
    (configureMode environment closed.2 (decide (swap.mode = modeDual)) swap.single swap.dual).2

/-- The hardware does not take the old mode back. -/
def RollbackFails (swap : ModeSwapRequest) : Prop :=
  (configureMode environment (modeSwapFailed environment world swap)
    world.daemon.dualMode world.daemon.config
    world.daemon.dualConfig).1 ≠ .ok

/-- The request gets past its checks to the stream, and the stopped thread
reports no failure that would arm recovery.  An update restarts the stream
before `apply_update` checks it; a mode swap is rolled back if possible. -/
def LiveRequest.Stalls : LiveRequest → Prop
  | .update request =>
      world.daemon.owner = descriptor ∧
        openrspdConfigValid request.config = true ∧
        world.daemon.configured = true ∧
        world.daemon.streamError = false ∧
        restartForSampleRate world.daemon request = true
  | .swapTuner swap =>
      world.daemon.owner = descriptor ∧ world.daemon.configured = true ∧
        world.daemon.dualMode = false ∧
        (swap.tuner = tunerA ∨ swap.tuner = tunerB) ∧
        openrspdConfigValid swap.config = true ∧
        swap.config.tuner = swap.tuner ∧
        world.result environment .readAsync = 0
  | .swapMode swap =>
      world.daemon.owner = descriptor ∧ world.daemon.configured = true ∧
        validModeTarget swap = true ∧
        world.result environment .readAsync = 0 ∧
        RollbackFails environment world swap
  | .duoSwapRate rate =>
      duoRoleDescriptor world.daemon descriptor = .master ∧
        world.daemon.duo.masterInitialised = true ∧
        (rate = 6000000 ∨ rate = 8000000) ∧
        world.daemon.duo.slaveInitialised = false ∧
        rate ≠ world.daemon.duo.sampleRateHz ∧
        (duoPrepareConfig world.daemon).1 = 0 ∧
        world.result environment .readAsync = 0

end Stalls

/-- A rollback restores the stored configuration: the controls of a single
tuner are those of a fresh handle or all off, and two tuners share their
frequency and what they share of the controls. -/
def LiveRequest.Restores (daemon : DaemonState) : LiveRequest → Prop
  | .swapMode _ =>
      if daemon.dualMode = true then
        daemon.dualConfig.SharesFrequency ∧ daemon.dualConfig.SharesControls
      else
        daemon.radio.map Radio.controls = some .opened ∨ daemon.config.ControlsOff
  | _ => True

/-! ## Stopping -/

section Configuring

variable (environment : Environment) {world : World}

theorem configureMode_closed (dual : Bool) (single : RadioConfig) (both : DualConfig)
    (closed : world.daemon.radio = none)
    (failed : (configureMode environment world dual single both).1 ≠ .ok) :
    (configureMode environment world dual single both).2.daemon.radio =
      none := by
  unfold configureMode at failed ⊢
  split_ifs at failed ⊢
  · rcases configureDualRadio_outcome environment world both with
      ⟨succeeds, -⟩ | ⟨-, shut | same⟩
    · exact absurd succeeds failed
    · exact shut
    · rw [same]
      exact closed
  · simp only [configureRadio, closed, Option.isSome_none,
      Bool.false_eq_true, and_false, if_false] at failed ⊢
    split_ifs at failed ⊢
    · exact closed
    · exact configureAttempts_failed environment world single _ (.inr closed) failed

theorem configureMode_isSome (dual : Bool) (single : RadioConfig) (both : DualConfig)
    (succeeds : (configureMode environment world dual single both).1 = .ok) :
    (configureMode environment world dual single both).2.daemon.radio.isSome = true := by
  unfold configureMode at succeeds ⊢
  split_ifs at succeeds ⊢
  · exact (configureDualRadio_runsDual environment world both succeeds).isSome
  · obtain ⟨-, tuning, -⟩ := configureRadio_ok environment world single 3 succeeds
    obtain ⟨radio, found, -⟩ := Option.map_eq_some_iff.mp tuning
    rw [found]
    rfl

end Configuring

section Halting

variable (environment : Environment) {world : World}

/-- The stream state once a reader has been stopped. -/
def haltedStream (world : World) : StreamState where
  streaming := false
  streamThreadStarted := false
  streamError := decide (world.result environment .readAsync ≠ 0)
  streamResult := world.result environment .readAsync
  streamThread := .idle

theorem stopStream_halted (streams : world.daemon.Streams)
    (started : world.daemon.streamThreadStarted = true) :
    (stopStream environment world).2.daemon.toStreamState =
      haltedStream environment world := by
  have reading : world.daemon.streamThread = .reading := streams
  rw [stopStream_stream environment world started]
  simp only [joinedStream, reading, if_true]
  rfl

/-- Nothing the daemon does afterwards, short of starting a stream, changes
a halted stream. -/
theorem StreamState.MayEnd.halted {before after : World}
    (ends : before.daemon.toStreamState.MayEnd after.daemon.toStreamState)
    (halted : before.daemon.toStreamState = haltedStream environment world) :
    after.daemon.toStreamState = haltedStream environment world := by
  rw [ends.eq_of_idle (congrArg StreamState.streamThread halted), halted]

/-- A thread that fails makes the stop fail. -/
theorem stopStream_ne_zero_of_failed (streams : world.daemon.Streams)
    (started : world.daemon.streamThreadStarted = true)
    (isOpen : world.daemon.radio.isSome = true)
    (failed : world.result environment .readAsync ≠ 0) :
    (stopStream environment world).1 ≠ 0 := by
  intro stopped
  have joined := ((stopStream_ok_iff environment world started isOpen).mp stopped).2
  have reading : world.daemon.streamThread = .reading := streams
  simp only [joinedStream, reading, if_true] at joined
  exact failed joined

theorem stopAndClose_halted (streams : world.daemon.Streams)
    (started : world.daemon.streamThreadStarted = true) :
    (stopAndClose environment world).2.daemon.toStreamState =
      haltedStream environment world := by
  have stopped := stopStream_halted environment streams started
  simp only [stopAndClose]
  split
  · exact stopped
  · exact (closeRadio_mayEnd environment _).halted environment stopped

end Halting

/-! ## Answering -/

section Answering

variable (environment : Environment) {descriptor : Int}
  {sequence : UInt32} {command : Command} {handled : Handled}

theorem continueWith_completed
    {first next : World → Int × World} {world : World}
    (completed : (continueWith first next world).1 = 1) :
    (first world).1 = 0 ∧ continueWith first next world = next (first world).2 := by
  unfold continueWith at completed ⊢
  by_cases succeeds : (first world).1 = 0
  · simp [succeeds]
  · simp [succeeds] at completed

/-- A request that has been served to the end has gone on from its response
to the stream starts. -/
theorem respond_completed
    (completed : (respond environment descriptor sequence command handled).1 = 1) :
    ∃ before : World, before.daemon = handled.world.daemon ∧
        respond environment descriptor sequence command handled =
          startStreams environment command handled before := by
  obtain ⟨-, answered⟩ := continueWith_completed completed
  rw [respond, answered] at completed ⊢
  obtain ⟨-, listed⟩ := continueWith_completed completed
  rw [listed] at completed ⊢
  obtain ⟨-, notified⟩ := continueWith_completed completed
  rw [notified] at completed ⊢
  refine ⟨_, ?_, rfl⟩
  have eventSent (before : World) :
      (writeEvent environment handled before).2.daemon = before.daemon := by
    unfold writeEvent
    split <;> simp
  have listSent (before : World) : (writeList environment descriptor sequence command handled
        before).2.daemon = before.daemon := by
    unfold writeList
    split <;> simp
  rw [eventSent, listSent]
  rfl

/-- Without a stream to start, answering changes nothing. -/
theorem respond_daemon_of_quiet (notStart : command ≠ .start)
    (notDuo : handled.duoStartStreamAfterResponse = false)
    (notAgain : handled.startStreamAfterResponse = false) :
    (respond environment descriptor sequence command handled).2.daemon =
      handled.world.daemon := by
  refine respond_daemon environment descriptor sequence command handled
    (· = handled.world.daemon) rfl fun before same => ?_
  rw [startStreams_none environment notDuo notStart notAgain]
  exact same

/-- A stream has been started on a handle nobody read. -/
structure DaemonState.Began (before after : DaemonState) : Prop where
  streams : after.Streams
  receiver : after.toReceiver = before.toReceiver
  config : after.config = before.config

theorem createStreamThread_began (world : World) (idle : world.daemon.streamThread = .idle)
    (isOpen : world.daemon.radio.isSome = true)
    (created : (createStreamThread environment world).1 = 0) :
    world.daemon.Began (createStreamThread environment world).2.daemon := by
  have stream := createStreamThread_stream environment world idle isOpen
  rw [if_pos created] at stream
  exact
    { streams := congrArg StreamState.streamThread stream
      receiver := createStreamThread_receiver environment world
      config := congrArg Ledger.config (createStreamThread_ledger environment world) }

theorem respond_again_began (notStart : command ≠ .start)
    (notDuo : handled.duoStartStreamAfterResponse = false)
    (again : handled.startStreamAfterResponse = true)
    (accepted : handled.status = .ok ∨ handled.startStreamAfterError = true)
    (idle : handled.world.daemon.streamThread = .idle)
    (isOpen : handled.world.daemon.radio.isSome = true)
    (completed : (respond environment descriptor sequence command handled).1 = 1) :
    handled.world.daemon.Began
      (respond environment descriptor sequence command handled).2.daemon := by
  obtain ⟨before, same, started⟩ := respond_completed environment completed
  rw [started] at completed ⊢
  rw [startStreams, continueWith_skip (startDuo_skip environment notDuo),
    continueWith_skip (startPlain_skip environment notStart)]
    at completed ⊢
  obtain ⟨created, rest⟩ := continueWith_completed completed
  rw [rest]
  simp only [startAgain, again, accepted, and_self, if_true] at created ⊢
  rw [← same] at idle isOpen ⊢
  have began :=
    createStreamThread_began environment (before.modify (armRestartedStream _)) idle isOpen created
  exact ⟨began.streams, began.receiver, began.config⟩

theorem respond_duo_began (notStart : command ≠ .start)
    (notAgain : handled.startStreamAfterResponse = false)
    (begins : handled.duoStartStreamAfterResponse = true)
    (accepted : handled.status = .ok)
    (idle : handled.world.daemon.streamThread = .idle)
    (isOpen : handled.world.daemon.radio.isSome = true)
    (completed : (respond environment descriptor sequence command handled).1 = 1) :
    handled.world.daemon.Began
      (respond environment descriptor sequence command handled).2.daemon := by
  obtain ⟨before, same, started⟩ := respond_completed environment completed
  rw [started] at completed ⊢
  rw [startStreams_duo environment notStart notAgain]
  obtain ⟨created, -⟩ := continueWith_completed completed
  simp only [startDuo, begins, accepted, and_self, if_true] at created ⊢
  rw [← same] at idle isOpen ⊢
  have began :=
    createStreamThread_began environment (before.modify armDuoStream) idle isOpen created
  exact ⟨began.streams, began.receiver, began.config⟩

end Answering

/-! ## Outcomes -/

theorem DaemonState.SameConfiguration.of_receiver
    {before after : DaemonState}
    (receiver : after.toReceiver = before.toReceiver)
    (config : after.config = before.config) :
    before.SameConfiguration after := by
  have radio := congrArg Receiver.radio receiver
  exact
    { dualMode := congrArg Receiver.dualMode receiver
      config := config
      dualConfig := congrArg Receiver.dualConfig receiver
      hardware := .inl radio
      controls := .inl (congrArg (Option.map Radio.controls) radio)
      tuner := fun _ found isOpen => .inr (by
        rw [← show after.radio = before.radio from radio, isOpen]
        rfl) }

theorem DaemonState.SameConfiguration.trans_began {before restored after : DaemonState}
    (same : before.SameConfiguration restored) (began : restored.Began after) :
    before.SameConfiguration after := by
  have radio : after.radio = restored.radio := congrArg Receiver.radio began.receiver
  have dualMode : after.dualMode = restored.dualMode := congrArg Receiver.dualMode began.receiver
  have dualConfig : after.dualConfig = restored.dualConfig :=
    congrArg Receiver.dualConfig began.receiver
  constructor
  · exact dualMode.trans same.dualMode
  · exact began.config.trans same.config
  · exact dualConfig.trans same.dualConfig
  · simpa only [DaemonState.RunsStored, radio, dualMode, dualConfig, began.config]
      using same.hardware
  · simpa only [DaemonState.activeConfigs, radio, dualMode, dualConfig, began.config]
      using same.controls
  · simpa only [radio, dualMode] using same.tuner

/-- What a request that is not granted leaves behind. -/
inductive Denied (environment : Environment) (world : World) (descriptor : Int)
    (request : LiveRequest) (handled : Handled) : Prop
  | untouched
      (streams : handled.world.daemon.Streams)
      (same : world.daemon.SameConfiguration handled.world.daemon)
      (notDuo : handled.duoStartStreamAfterResponse = false)
      (notAgain : handled.startStreamAfterResponse = false)
      (safe : ¬ request.Stalls environment world descriptor)
  | halted
      (stream : handled.world.daemon.toStreamState = haltedStream environment world)
      (wanted : 0 ≤ handled.world.daemon.owner ∨
          handled.world.daemon.duoActive = true ∧ handled.world.daemon.duo.masterSelected = true)
      (notDuo : handled.duoStartStreamAfterResponse = false)
      (notAgain : handled.startStreamAfterResponse = false)
      (stalls : request.Stalls environment world descriptor ↔
        world.result environment .readAsync = 0)
  | rolledBack
      (notDuo : handled.duoStartStreamAfterResponse = false)
      (again : handled.startStreamAfterResponse = true)
      (onError : handled.startStreamAfterError = true)
      (idle : handled.world.daemon.streamThread = .idle)
      (isOpen : handled.world.daemon.radio.isSome = true)
      (same : request.Restores world.daemon →
        world.daemon.SameConfiguration handled.world.daemon)
      (safe : ¬ request.Stalls environment world descriptor)

/-- What a granted request leaves behind. -/
inductive Granted (handled : Handled) : Prop
  | settled
      (goesOn : handled.world.daemon.GoesOn)
      (notDuo : handled.duoStartStreamAfterResponse = false)
      (notAgain : handled.startStreamAfterResponse = false)
  | restarts
      (notDuo : handled.duoStartStreamAfterResponse = false)
      (again : handled.startStreamAfterResponse = true)
      (idle : handled.world.daemon.streamThread = .idle)
      (isOpen : handled.world.daemon.radio.isSome = true)
  | begins
      (notAgain : handled.startStreamAfterResponse = false)
      (begins : handled.duoStartStreamAfterResponse = true)
      (idle : handled.world.daemon.streamThread = .idle)
      (isOpen : handled.world.daemon.radio.isSome = true)

section Outcomes

variable {environment : Environment} {world : World} {request : LiveRequest}
  {descriptor : Int} {sequence : UInt32} {command : Command}
  {handled : Handled}

/-- A denied request leaves the stream running or recovery armed exactly
when it does not stall. -/
theorem Denied.outcome (denied : Denied environment world descriptor request handled)
    (notStart : command ≠ .start)
    (completed : (respond environment descriptor sequence command handled).1 = 1) :
    let after := (respond environment descriptor sequence command handled).2.daemon
    ((after.Streams ∨ after.RecoveryArmed) ↔ ¬ request.Stalls environment world descriptor) ∧
      (¬ request.Stalls environment world descriptor → request.Restores world.daemon →
        world.daemon.Survives after) := by
  intro after
  cases denied with
  | untouched streams same notDuo notAgain safe =>
      rw [show after = _ from respond_daemon_of_quiet environment notStart notDuo notAgain]
      exact ⟨iff_of_true (.inl streams) safe, fun _ _ => .inl ⟨streams, same⟩⟩
  | halted stream wanted notDuo notAgain halts =>
      rw [show after = _ from respond_daemon_of_quiet environment notStart notDuo notAgain, halts]
      have thread := congrArg StreamState.streamThread stream
      have error := congrArg StreamState.streamError stream
      have stopped := congrArg StreamState.streaming stream
      have armed (failed : ¬ world.result environment .readAsync = 0) :
          handled.world.daemon.RecoveryArmed :=
        ⟨error.trans (decide_eq_true failed), stopped, wanted⟩
      refine ⟨⟨?_, fun failed => .inr (armed failed)⟩, fun failed _ => .inr (armed failed)⟩
      rintro (streams | armed)
      · have reading : handled.world.daemon.streamThread = .reading := streams
        simp [haltedStream, reading] at thread
      · exact of_decide_eq_true (error.symm.trans armed.failed)
  | rolledBack notDuo again onError idle isOpen same safe =>
      have began :=
        respond_again_began environment notStart notDuo again (.inr onError) idle isOpen completed
      exact ⟨iff_of_true (.inl began.streams) safe, fun _ restores =>
        .inl ⟨began.streams, (same restores).trans_began began⟩⟩

/-- A granted request leaves the stream running, paused or to be
recovered. -/
theorem Granted.goesOn (granted : Granted handled)
    (accepted : handled.status = .ok) (notStart : command ≠ .start)
    (completed : (respond environment descriptor sequence command handled).1 = 1) :
    (respond environment descriptor sequence command handled).2.daemon.GoesOn := by
  cases granted with
  | settled goesOn notDuo notAgain =>
      rw [respond_daemon_of_quiet environment notStart notDuo notAgain]
      exact goesOn
  | restarts notDuo again idle isOpen =>
      exact .inl
        (respond_again_began environment notStart notDuo again
          (.inl accepted) idle isOpen completed).streams
  | begins notAgain begins idle isOpen =>
      exact .inl
        (respond_duo_began environment notStart notAgain begins accepted
          idle isOpen completed).streams

end Outcomes

/-- A denied request survives or stalls, a granted one goes on. -/
structure LiveOutcome (environment : Environment) (world : World) (descriptor : Int)
    (request : LiveRequest) (handled : Handled) : Prop where
  denied : handled.status ≠ .ok → Denied environment world descriptor request handled
  granted : handled.status = .ok → Granted handled

/-- The stream runs on a handle that is open and can be joined. -/
structure World.Live (world : World) : Prop where
  streams : world.daemon.Streams
  started : world.daemon.streamThreadStarted = true
  isOpen : world.daemon.radio.isSome = true

section LiveOutcomes

variable {environment : Environment} {world : World} {descriptor : Int}
  {request : LiveRequest} {handled : Handled}

theorem LiveOutcome.of_denied (denied : Denied environment world descriptor request handled)
    (notOk : handled.status ≠ .ok) :
    LiveOutcome environment world descriptor request handled :=
  ⟨fun _ => denied, fun accepted => absurd accepted notOk⟩

theorem LiveOutcome.of_granted (granted : Granted handled) (accepted : handled.status = .ok) :
    LiveOutcome environment world descriptor request handled :=
  ⟨fun notOk => absurd accepted notOk, fun _ => granted⟩

/-- The request is turned away before anything happens. -/
theorem World.Live.refused (live : world.Live) {status : Status}
    (notOk : status ≠ .ok) (safe : ¬ request.Stalls environment world descriptor) :
    LiveOutcome environment world descriptor request (.reply world status) :=
  .of_denied (.untouched live.streams (.of_receiver rfl rfl) rfl rfl safe) notOk

theorem World.Live.unrecognised (live : world.Live)
    (safe : ¬ request.Stalls environment world descriptor) :
    LiveOutcome environment world descriptor request (serveUnrecognised world descriptor) :=
  live.refused (serveUnrecognised_ne_ok world descriptor) safe

variable (environment) (live : world.Live)
include live

/-! ### Updates -/

omit live in
/-- An update that `apply_update` turns away touches nothing. -/
theorem applyUpdate_refused (before : World) (request : UpdateRequest)
    (notOk : (applyUpdate environment before request).1 ≠ .ok)
    (notFailed : (applyUpdate environment before request).1 ≠ .ioError) :
    (applyUpdate environment before request).2 = before := by
  revert notOk notFailed
  simp only [applyUpdate, applyDualUpdate, applySingleUpdate]
  split_ifs <;> simp

/-- An update that restarts the stream. -/
theorem World.Live.updateRestarts (valid : 0 ≤ descriptor)
    (owner : world.daemon.owner = descriptor) (request : UpdateRequest)
    (validConfig : openrspdConfigValid request.config = true)
    (configured : world.daemon.configured = true)
    (noError : world.daemon.streamError = false)
    (restarts : restartForSampleRate world.daemon request = true) :
    LiveOutcome environment world descriptor (.update request)
      (serveUpdate environment world descriptor request) := by
  have stillOpen : world.daemon.radio ≠ none := fun closed => by
    have isOpen := live.isOpen
    simp [closed] at isOpen
  have stalls :
      (LiveRequest.update request).Stalls environment world descriptor :=
    ⟨owner, validConfig, configured, noError, restarts⟩
  have halted := stopStream_halted environment live.streams live.started
  have stopFrame := stopStream_streamOnly environment world
  have owned : (stopStream environment world).2.daemon.owner = descriptor :=
    (congrArg Ledger.owner stopFrame.ledger).trans owner
  simp only [serveUpdate, owner, validConfig, stillOpen, configured,
    noError, stopAndApplyUpdate, restarts, if_true, Bool.true_eq_false,
    Bool.false_eq_true, or_self, if_false]
  by_cases stopped : (stopStream environment world).1 = 0
  · simp only [stopped, ne_eq, not_true_eq_false, if_false]
    have view := applyUpdate_view environment (stopStream environment world).2 request
    have stream := (congrArg StreamView.stream view).trans halted
    have isOpen := (World.isSome_of_view view).trans
        ((congrArg (·.radio.isSome) stopFrame.receiver).trans live.isOpen)
    have stillOwned := (congrArg Holdings.owner ((holdingsFrame environment).applyUpdate
        (stopStream environment world).2 request)).trans owned
    have returned : world.result environment .readAsync = 0 := by
      by_contra failed
      exact stopStream_ne_zero_of_failed environment live.streams
        live.started live.isOpen failed stopped
    split_ifs with failed
    · have stopped := congrArg StreamState.streaming stream
      exact .of_granted
        (.settled (.inr (.inr ⟨rfl, stopped, .inl (valid.trans_eq stillOwned.symm)⟩)) rfl rfl) rfl
    · refine ⟨fun notOk => ?_, fun accepted => ?_⟩
      · exact .halted stream (.inl (valid.trans_eq stillOwned.symm)) rfl
          (by simpa [Handled.restartStream] using notOk)
          (iff_of_true stalls returned)
      · exact .restarts rfl
          (by simpa [Handled.restartStream] using accepted)
          (congrArg StreamState.streamThread stream) isOpen
  · simp only [stopped, ne_eq, not_false_eq_true, if_true]
    have stream := congrArg StreamState.streaming halted
    exact .of_granted
      (.settled (.inr (.inr ⟨rfl, stream, .inl (valid.trans_eq owned.symm)⟩)) rfl rfl) rfl

theorem World.Live.update (valid : 0 ≤ descriptor) (request : UpdateRequest) :
    LiveOutcome environment world descriptor (.update request)
      (serveUpdate environment world descriptor request) := by
  by_cases owner : world.daemon.owner = descriptor
  case neg =>
    rw [serveUpdate, if_neg owner]
    exact live.unrecognised fun stalls => owner stalls.1
  by_cases validConfig : openrspdConfigValid request.config = true
  case neg =>
    rw [serveUpdate, if_pos owner, if_pos (by simpa using validConfig)]
    exact live.refused (by simp) fun stalls => validConfig stalls.2.1
  by_cases ready : world.daemon.configured = true ∧ world.daemon.streamError = false
  case neg =>
    have queued : world.daemon.radio = none ∨ world.daemon.configured = false ∨
          world.daemon.streamError = true := by
      rw [not_and_or] at ready
      exact .inr (by simpa using ready)
    rw [serveUpdate, if_pos owner, if_neg (by simp [validConfig]), if_pos queued]
    exact .of_granted (.settled (.inl live.streams) rfl rfl) rfl
  by_cases restarts : restartForSampleRate world.daemon request = true
  case pos =>
    exact live.updateRestarts environment valid owner request validConfig ready.1 ready.2 restarts
  have stillOpen : world.daemon.radio ≠ none := fun closed => by
    have isOpen := live.isOpen
    simp [closed] at isOpen
  have view := applyUpdate_view environment world request
  have streams :
      (applyUpdate environment world request).2.daemon.Streams := by
    have thread := congrArg (·.stream.streamThread) view
    have reading : world.view.stream.streamThread = .reading := live.streams
    exact thread.trans reading
  simp only [serveUpdate, owner, validConfig, stillOpen, ready,
    stopAndApplyUpdate, restarts, if_true, Bool.true_eq_false,
    Bool.false_eq_true, or_self, if_false, Bool.and_false]
  split_ifs with failed
  · exact .of_granted (.settled (.inl streams) rfl rfl) rfl
  · refine ⟨fun notOk => ?_, fun _ => .settled (.inl streams) rfl rfl⟩
    have same := applyUpdate_refused environment world request notOk failed
    refine .untouched streams ?_ rfl rfl fun stalls =>
      restarts stalls.2.2.2.2
    simp only [Handled.restartStream_world, Handled.reply_world, same]
    exact .of_receiver rfl rfl

/-! ### Swaps of an owner -/

theorem World.Live.swapTuner (valid : 0 ≤ descriptor) (swap : SwapRequest) :
    LiveOutcome environment world descriptor (.swapTuner swap)
      (serveSwapTuner environment world descriptor swap) := by
  by_cases entitled : world.daemon.owner = descriptor ∧ world.daemon.configured = true ∧
        world.daemon.dualMode = false
  case neg =>
    rw [serveSwapTuner, if_neg entitled]
    exact live.unrecognised fun stalls =>
      entitled ⟨stalls.1, stalls.2.1, stalls.2.2.1⟩
  by_cases sensible : (swap.tuner = tunerA ∨ swap.tuner = tunerB) ∧
        openrspdConfigValid swap.config = true ∧
        swap.config.tuner = swap.tuner
  case neg =>
    rw [serveSwapTuner, if_pos entitled, if_pos (by
      rw [not_and_or, not_and_or] at sensible
      simpa [not_or] using sensible)]
    exact live.refused (by simp) fun stalls =>
      sensible ⟨stalls.2.2.2.1, stalls.2.2.2.2.1, stalls.2.2.2.2.2.1⟩
  have stalls : (LiveRequest.swapTuner swap).Stalls environment world descriptor ↔
        world.result environment .readAsync = 0 := by
    simp [LiveRequest.Stalls, entitled, sensible]
  have halted := stopAndClose_halted environment live.streams live.started
  have configured := ((mayEndFrame environment).configureRadio (stopAndClose environment world).2
      swap.config 3).halted environment halted
  have closedLedger := stopAndClose_ledger environment world
  have configuredLedger := (configureRadio_ledger environment (stopAndClose environment world).2
      swap.config 3).trans closedLedger
  have owned {after : Ledger} (same : after = world.daemon.toLedger) :
      0 ≤ after.owner := by
    rw [same]
    exact valid.trans_eq entitled.1.symm
  rw [serveSwapTuner, if_pos entitled, if_neg (by
    rcases sensible with ⟨_ | _, _, _⟩ <;> simp_all)]
  dsimp only
  split_ifs
  · exact .of_denied (.halted halted (.inl (owned closedLedger)) rfl rfl stalls) (by simp)
  · exact .of_granted (.settled (.inr (.inl live.started)) rfl rfl) rfl
  · rename_i notOk
    exact .of_denied (.halted configured (.inl (owned configuredLedger)) rfl rfl stalls) notOk

omit live in
/-- Where a failed mode swap is rolled back, the old handle is still open or
none is. -/
theorem modeSwapFailed_radio (swap : ModeSwapRequest)
    (failed : (stopAndClose environment world).1 = true →
        (configureMode environment (stopAndClose environment world).2
          (decide (swap.mode = modeDual)) swap.single
          swap.dual).1 ≠ .ok) :
    (modeSwapFailed environment world swap).daemon.radio =
        world.daemon.radio ∨
      (modeSwapFailed environment world swap).daemon.radio = none := by
  have stopped := congrArg Receiver.radio (stopStream_streamOnly environment world).receiver
  have shut := closeRadio_radio environment (stopStream environment world).2
  unfold modeSwapFailed
  dsimp only
  split_ifs with notClosed
  · simp only [stopAndClose]
    split
    · exact .inl stopped
    · exact .inr shut
  · have closed : (stopAndClose environment world).1 = true := by
      simpa using notClosed
    refine .inr (configureMode_closed environment _ _ _ ?_ (failed closed))
    revert closed
    simp only [stopAndClose]
    split_ifs
    · simp
    · exact fun _ => shut

omit live in
/-- Putting dual mode back restores it when the tuners share what they are
written together with. -/
theorem configureDualRadio_sameConfiguration {before : World}
    (isDual : world.daemon.dualMode = true)
    (shares : world.daemon.dualConfig.SharesFrequency ∧ world.daemon.dualConfig.SharesControls)
    (succeeds : (configureDualRadio environment before world.daemon.dualConfig).1 = .ok) :
    world.daemon.SameConfiguration (restoreMode world.daemon
      (configureDualRadio environment before world.daemon.dualConfig).2.daemon) := by
  have runs := configureDualRadio_runsDual environment before _ succeeds
  obtain ⟨first, held⟩ := runs.controls
  obtain ⟨found, isOpen, controls⟩ := Option.map_eq_some_iff.mp held
  have holds := (write_dual_holds_iff first runs.valid).mpr shares.2
  refine ⟨rfl, rfl, rfl, .inr ?_, .inr ?_, fun single => absurd (isDual.symm.trans single) ?_⟩
  · simp only [DaemonState.RunsStored, restoreMode, isDual, if_true]
    exact runs.channel shares.1
  · simp only [DaemonState.activeConfigs, restoreMode, isDual, if_true, isOpen]
    rintro radio ⟨rfl⟩
    rwa [controls]
  · decide

omit live in
/-- Putting a single tuner back restores it when no control was on. -/
theorem configureRadio_sameConfiguration {before : World}
    (isSingle : ¬ world.daemon.dualMode = true)
    (radio : before.daemon.radio = world.daemon.radio ∨ before.daemon.radio = none)
    (known : world.daemon.radio.map Radio.controls = some .opened ∨
      world.daemon.config.ControlsOff)
    (succeeds : (configureRadio environment before world.daemon.config 3).1 = .ok) :
    world.daemon.SameConfiguration (restoreMode world.daemon
      (configureRadio environment before world.daemon.config 3).2.daemon) := by
  obtain ⟨-, tuning, -⟩ := configureRadio_ok environment before _ 3 succeeds
  obtain ⟨found, isOpen, -⟩ := Option.map_eq_some_iff.mp tuning
  -- the handle is the old one or was opened for the stored tuner
  have former : before.OpenWithin fun tuner controls =>
      (tuner = world.daemon.config.tuner ∨ world.daemon.radio.map Radio.tuner = some tuner) ∧
        (controls = .opened ∨ world.daemon.radio.map Radio.controls = some controls) := by
    intro old opened
    rcases radio with same | closed
    · exact ⟨.inr (by rw [← same, opened]; rfl), .inr (by rw [← same, opened]; rfl)⟩
    · simp [closed] at opened
  have within := configureRadio_openWithin environment before 3 ⟨.inl rfl, .inl rfl⟩
    (fun _ => former) succeeds
  refine ⟨rfl, rfl, rfl, .inr ?_, ?_, fun _ other opened => (within other opened).1⟩
  · simp only [DaemonState.RunsStored, restoreMode, isSingle]
    exact World.tuned_of_tuning tuning
  · simp only [DaemonState.activeConfigs, restoreMode, isSingle, isOpen]
    rcases (within found isOpen).2 with fresh | kept
    · refine known.imp (fun same => ?_) fun off => ?_
      · rw [same, Option.map_some, fresh]
      rintro radio ⟨rfl⟩ config active
      rw [List.mem_singleton.mp active, fresh]
      exact (opened_holds_iff _).mpr off
    · exact .inl kept.symm

omit live in
/-- Putting the old mode back restores the previous configuration. -/
theorem configureMode_sameConfiguration {before : World} {swap : ModeSwapRequest}
    (radio : before.daemon.radio = world.daemon.radio ∨ before.daemon.radio = none)
    (succeeds : (configureMode environment before world.daemon.dualMode
        world.daemon.config world.daemon.dualConfig).1 = .ok)
    (restores : (LiveRequest.swapMode swap).Restores world.daemon) :
    world.daemon.SameConfiguration
      (restoreMode world.daemon
        (configureMode environment before world.daemon.dualMode
          world.daemon.config world.daemon.dualConfig).2.daemon) := by
  unfold LiveRequest.Restores at restores
  unfold configureMode at succeeds ⊢
  split_ifs at restores succeeds ⊢ with isDual
  · exact configureDualRadio_sameConfiguration environment isDual restores succeeds
  · exact configureRadio_sameConfiguration environment isDual radio restores succeeds

/-- A failed mode swap gives the stream its old mode back, or leaves it
stopped when the hardware does not take it. -/
theorem World.Live.rollBack (valid : 0 ≤ descriptor) (owner : world.daemon.owner = descriptor)
    (configured : world.daemon.configured = true)
    (swap : ModeSwapRequest) (target : validModeTarget swap = true)
    (failed : (stopAndClose environment world).1 = true →
        (configureMode environment (stopAndClose environment world).2
          (decide (swap.mode = modeDual)) swap.single
          swap.dual).1 ≠ .ok)
    {status : Status} (notOk : status ≠ .ok) :
    LiveOutcome environment world descriptor (.swapMode swap)
      (rollBackMode environment world.daemon (modeSwapFailed environment world swap) status) := by
  have halted : (modeSwapFailed environment world swap).daemon.toStreamState =
        haltedStream environment world := by
    have closed := stopAndClose_halted environment live.streams live.started
    unfold modeSwapFailed
    dsimp only
    split
    · exact closed
    · exact ((mayEndFrame environment).configureMode _ _ _ _).halted environment closed
  have ledger : (modeSwapFailed environment world swap).daemon.toLedger =
        world.daemon.toLedger := by
    unfold modeSwapFailed
    dsimp only
    split
    · exact stopAndClose_ledger environment world
    · rw [configureMode_ledger]
      exact stopAndClose_ledger environment world
  have rolledHalted := ((mayEndFrame environment).configureMode _ world.daemon.dualMode
      world.daemon.config world.daemon.dualConfig).halted environment halted
  simp only [rollBackMode, live.started, if_true]
  split_ifs with succeeds
  · refine .of_denied (.rolledBack rfl rfl rfl
      (congrArg StreamState.streamThread rolledHalted)
      (configureMode_isSome environment _ _ _ succeeds)
      (configureMode_sameConfiguration environment
        (modeSwapFailed_radio environment swap failed) succeeds)
      fun stalls => ?_) notOk
    exact stalls.2.2.2.2 succeeds
  · have stillOwned : 0 ≤ (configureMode environment
          (modeSwapFailed environment world swap) world.daemon.dualMode
          world.daemon.config
          world.daemon.dualConfig).2.daemon.toLedger.owner := by
      rw [configureMode_ledger, ledger]
      exact valid.trans_eq owner.symm
    refine .of_denied (.halted rolledHalted (.inl stillOwned) rfl rfl ?_) notOk
    have fails : RollbackFails environment world swap := succeeds
    simp [LiveRequest.Stalls, owner, configured, target, fails]

theorem World.Live.swapMode (valid : 0 ≤ descriptor) (swap : ModeSwapRequest) :
    LiveOutcome environment world descriptor (.swapMode swap)
      (serveSwapMode environment world descriptor swap) := by
  by_cases entitled : world.daemon.owner = descriptor ∧ world.daemon.configured = true
  case neg =>
    rw [serveSwapMode, if_neg entitled]
    exact live.unrecognised fun stalls =>
      entitled ⟨stalls.1, stalls.2.1⟩
  by_cases target : validModeTarget swap = true
  case neg =>
    rw [serveSwapMode, if_pos entitled, if_pos (by simpa using target)]
    exact live.refused (by simp) fun stalls => target stalls.2.2.1
  have rollBack
      (failed : (stopAndClose environment world).1 = true →
          (configureMode environment (stopAndClose environment world).2
            (decide (swap.mode = modeDual)) swap.single
            swap.dual).1 ≠ .ok) {status : Status} (notOk : status ≠ .ok) :=
    live.rollBack environment valid entitled.1 entitled.2 swap target failed notOk
  rw [serveSwapMode, if_pos entitled, if_neg (by simp [target])]
  dsimp only
  split_ifs with notClosed accepted
  · have rolled :=
      rollBack (fun closed => by simp [notClosed] at closed) (show Status.ioError ≠ .ok by simp)
    rwa [modeSwapFailed, if_pos notClosed] at rolled
  · exact .of_granted (.settled (.inr (.inl live.started)) rfl rfl) rfl
  · have rolled := rollBack (fun _ => accepted) accepted
    rwa [modeSwapFailed, if_neg notClosed] at rolled

/-! ### The rate swap of a master -/

omit live in
theorem duoResetHardware_halted {before : World}
    (halted : before.daemon.toStreamState = haltedStream environment world) :
    (duoResetHardware environment before).2.daemon.toStreamState =
      haltedStream environment world := by
  have unstarted := congrArg StreamState.streamThreadStarted halted
  have stopped : (stopIfOpen environment before).2 = before := by
    simp [stopIfOpen, stopStream,
      show before.daemon.streamThreadStarted = false from unstarted]
  have closed := (closeRadio_mayEnd environment
      (stopIfOpen environment before).2).halted environment (stopped.symm ▸ halted)
  exact closed

omit live in
/-- Once the stream has stopped, a rate swap starts it at the new rate or
leaves it stopped. -/
theorem swapRateStopped_outcome {before : World} (rate : UInt32)
    (halted : before.daemon.toStreamState = haltedStream environment world)
    (active : before.daemon.duoActive = true)
    (selected : before.daemon.duo.masterSelected = true)
    (halts : request.Stalls environment world descriptor ↔
      world.result environment .readAsync = 0) :
    LiveOutcome environment world descriptor request (swapRateStopped environment before rate true) := by
  have wanted : (swapRateStopped environment before rate
          true).world.daemon.duoActive = true ∧
        (swapRateStopped environment before rate true).world.daemon.duo.masterSelected = true := by
    have duoActive {after : Holdings}
        (same : (swapRateStopped environment before rate true).world.holdings = after) :=
      congrArg Holdings.duoActive same
    have duo {after : Holdings}
        (same : (swapRateStopped environment before rate true).world.holdings = after) :=
      congrArg (·.duo.masterSelected) same
    rcases swapRateStopped_holdings environment before rate true with
      swapped | kept
    · exact ⟨(duoActive swapped).trans active, (duo swapped).trans selected⟩
    · exact ⟨(duoActive kept).trans active, (duo kept).trans selected⟩
  revert wanted
  have preparedHalted : (before.modify fun _ =>
        (duoPrepareConfig
          { before.daemon with
            duo :=
              { before.daemon.duo with
                sampleRateHz := rate } }).2).daemon.toStreamState =
        haltedStream environment world :=
    (congrArg StreamView.stream (duoPrepareConfig_view before _)).trans halted
  have resetHalted := duoResetHardware_halted environment preparedHalted
  have configuredHalted (config : DualConfig) :=
    ((mayEndFrame environment).configureDualRadio _ config).halted environment resetHalted
  simp only [swapRateStopped]
  split_ifs with unprepared unreset succeeds
  · exact fun wanted => .of_denied (.halted preparedHalted (.inr wanted) rfl rfl halts) (by simp)
  · exact fun wanted => .of_denied (.halted resetHalted (.inr wanted) rfl rfl halts) unreset
  · exact fun _ => .of_granted
      (.begins rfl rfl
        (congrArg StreamState.streamThread (configuredHalted _))
        (configureDualRadio_runsDual environment _ _ succeeds).isSome) rfl
  · intro wanted
    refine .of_denied (.halted ?_ (.inr wanted) rfl rfl halts) succeeds
    exact ((mayEndFrame environment).configureDualRadio _ _).halted environment (configuredHalted _)

omit live in
theorem duoPrepareConfig_receiver_config (daemon : DaemonState) :
    (duoPrepareConfig daemon).2.toReceiver = daemon.toReceiver ∧
      (duoPrepareConfig daemon).2.config = daemon.config := by
  simp only [duoPrepareConfig]
  split <;> exact ⟨rfl, rfl⟩

/-- Preparing the shared configuration leaves the stream running. -/
theorem World.Live.prepared :
    (world.modify fun _ => (duoPrepareConfig world.daemon).2).Live := by
  have view := duoPrepareConfig_view world world.daemon
  have thread := congrArg (·.stream.streamThread) view
  have started := congrArg (·.stream.streamThreadStarted) view
  have isOpen := World.isSome_of_view view
  have streams : world.daemon.streamThread = .reading := live.streams
  exact ⟨thread.trans streams, started.trans live.started, isOpen.trans live.isOpen⟩

theorem World.Live.swapRate (rate : UInt32) (active : world.daemon.duoActive = true)
    (selected : world.daemon.duo.masterSelected = true)
    (stallsIff : request.Stalls environment world descriptor ↔
      (duoPrepareConfig world.daemon).1 = 0 ∧ world.result environment .readAsync = 0) :
    LiveOutcome environment world descriptor request (swapRate environment world rate) := by
  have ready := live.prepared
  have holdings := duoPrepareConfig_holdings world.daemon
  have halted := stopStream_halted environment ready.streams ready.started
  have ledger := holdings_of_ledger
      (stopStream_ledger environment (world.modify fun _ => (duoPrepareConfig world.daemon).2))
  have duoActive := (congrArg Holdings.duoActive (ledger.trans holdings)).trans active
  have masterSelected := (congrArg (·.duo.masterSelected) (ledger.trans holdings)).trans selected
  simp only [OpenRsp.swapRate]
  split_ifs with unprepared unstopped
  · obtain ⟨receiver, config⟩ := duoPrepareConfig_receiver_config world.daemon
    refine .of_denied (.untouched ready.streams (.of_receiver receiver config) rfl rfl ?_) (by simp)
    exact fun stalling => unprepared (stallsIff.mp stalling).1
  · have halts : request.Stalls environment world descriptor ↔
        world.result environment .readAsync = 0 := by
      rw [stallsIff, not_not.mp unprepared]
      simp
    exact .of_denied (.halted halted (.inr ⟨duoActive, masterSelected⟩) rfl rfl halts) (by simp)
  · have halts : request.Stalls environment world descriptor ↔
        world.result environment .readAsync = 0 := by
      rw [stallsIff, not_not.mp unprepared]
      simp
    rw [ready.started]
    exact swapRateStopped_outcome environment rate halted duoActive masterSelected halts

theorem World.Live.duoSwapRate (rate : UInt32) : LiveOutcome environment world descriptor (.duoSwapRate rate)
      (serveDuoSwapRate environment world descriptor rate) := by
  by_cases master : duoRoleDescriptor world.daemon descriptor = .master
  case neg =>
    refine withDuoRole_outcome world descriptor _
      (LiveOutcome environment world descriptor (.duoSwapRate rate))
      ?_ fun role _ _ found => ?_
    · exact live.refused (busyOrUnsupported_ne_ok world.daemon) fun stalls => master stalls.1
    · rw [if_pos fun isMaster => master (found.trans isMaster)]
      exact live.refused (by simp) fun stalls => master stalls.1
  have active : world.daemon.duoActive = true := by
    by_contra inactive
    simp [duoRoleDescriptor, inactive] at master
  have selected := (selected_of_descriptorIsMaster (duoRoleDescriptor_master master)).1
  simp only [serveDuoSwapRate, withDuoRole, master, ne_eq, not_true_eq_false, if_false]
  split_ifs with waiting badRate slaveRuns sameRate
  · exact live.refused (by simp) fun stalls => by
      have initialised := stalls.2.1
      simp [waiting] at initialised
  · exact live.refused (by simp) fun stalls =>
      stalls.2.2.1.elim badRate.1 badRate.2
  · exact live.refused (by simp) fun stalls => by
      have idle := stalls.2.2.2.1
      simp [slaveRuns] at idle
  · exact .of_granted (.settled (.inl live.streams) rfl rfl) rfl
  · refine live.swapRate environment rate active selected ?_
    have validRate : rate = 6000000 ∨ rate = 8000000 := by
      by_contra neither
      exact badRate (not_or.mp neither)
    simp [LiveRequest.Stalls, master, validRate, waiting, slaveRuns, sameRate]

end LiveOutcomes

/-! ## Every reachable state -/

/-- Client 5 streams from one tuner. -/
def streamingSteps : List Step := acquireAndConfigure ++ [.serve 0 (.request 3 .start)]

/-- A swap to both tuners of the sample configuration. -/
def swapToDual : ModeSwapRequest where
  mode := modeDual
  single := RadioConfig.zeroed
  dual :=
    { sampleRateHz := 6000000
      channelA :=
        { sampleConfig with
          sampleRateHz := 6000000
          ifFrequencyHz := 1620000 }
      channelB :=
        { sampleConfig with
          sampleRateHz := 6000000
          ifFrequencyHz := 1620000
          tuner := tunerB } }

/-- An update of the sample rate that names the other tuner. -/
def rateForOtherTuner : UpdateRequest :=
  ⟨changeSampleRate,
    { sampleConfig with sampleRateHz := 3000000, tuner := tunerB }⟩

end OpenRsp
