import OpenRsp.Daemon.Requests

/-!
# Requests of a single owner

The branches of `serve_request` for a client that owns the whole receiver:
acquire, configure, start, stop, release, the two swaps, resume and update.
A branch whose guard fails falls through to the last one.
-/

namespace OpenRsp

section OwnerRequests

variable (environment : Environment)

/-! ## Ownership -/

/-- What a granted `OPENRSP_CMD_ACQUIRE` records. -/
def grantOwner (daemon : DaemonState) (descriptor : Int) (acquire : AcquireRequest)
    (index : UInt32) : DaemonState :=
  { daemon with
    owner := descriptor
    acquiredIdentity := { acquire with deviceIndex := index } }

/-- The handle left open by an earlier owner is closed unless it belongs to
the receiver now selected. -/
def closeIfIdentityChanged (world : World) (devices : List DeviceRecord) (index : UInt32) : World :=
  let selected := devices.find? (·.deviceIndex == index)
  let sameReceiver :=
    selected.any (openrspIdentityMatches world.daemon.acquiredIdentity)
  if world.daemon.radio.isSome ∧ sameReceiver = false then
    closeUnconfigured environment world
  else world

/-- `OPENRSP_CMD_ACQUIRE`. -/
def serveAcquire (world : World) (descriptor : Int) (acquire : AcquireRequest) :
    Handled :=
  if world.daemon.duoActive then .reply world .busy
  else if 0 ≤ world.daemon.owner ∧ world.daemon.owner ≠ descriptor then
    .reply world .busy
  else if world.daemon.owner = descriptor then .reply world .ok
  else
    let devices := snapshotSdrplayDevices environment world
    match openrspIdentityResolve acquire devices.1 with
    | .error _ => .reply devices.2 .badRequest
    | .ok index =>
        let checked :=
          closeIfIdentityChanged environment devices.2 devices.1 index
        if checked.running then
          .reply (checked.modify (grantOwner · descriptor acquire index)) .ok
        else .reply checked .ioError

/-- `OPENRSP_CMD_RELEASE`. -/
def serveRelease (world : World) (descriptor : Int) : Handled :=
  if world.daemon.owner = descriptor then
    .reply (releaseClient environment world descriptor) .ok
  else serveUnrecognised world descriptor

/-! ## Starting and stopping -/

/-- `OPENRSP_CMD_START`; the thread is created after the response. -/
def serveStart (world : World) (descriptor : Int) : Handled :=
  if world.daemon.owner = descriptor ∧ world.daemon.radio.isSome ∧
      world.daemon.streamThreadStarted = false ∧
      world.daemon.modeSwapPaused = false then
    .reply
      (world.modify fun daemon =>
        { daemon with
          streaming := true
          streamError := false
          streamResult := 0
          streamSequenceA := 0
          streamSequenceB := 0 })
      .ok
  else serveUnrecognised world descriptor

/-- `OPENRSP_CMD_STOP`. -/
def serveStop (world : World) (descriptor : Int) : Handled :=
  if world.daemon.owner = descriptor ∧ world.daemon.radio.isSome then
    let stopped := stopStream environment world
    .reply stopped.2 (if stopped.1 = 0 then .ok else .ioError)
  else serveUnrecognised world descriptor

/-- `OPENRSP_CMD_RESUME_MODE`. -/
def serveResumeMode (world : World) (descriptor : Int) : Handled :=
  if world.daemon.owner = descriptor ∧ world.daemon.configured ∧
      world.daemon.modeSwapPaused then
    (Handled.reply
      (world.modify fun daemon => { daemon with modeSwapPaused := false })
      .ok).restartStream true false
  else serveUnrecognised world descriptor

/-! ## Configuring -/

/-- An accepted single-tuner configuration becomes the stored one and the
one recovery starts from. -/
def storeSingleConfig (daemon : DaemonState) (config : RadioConfig) :
    DaemonState :=
  { daemon with
    config := config
    bootstrapConfig := config
    bootstrapConfigured := true
    configured := true }

/-- `OPENRSP_CMD_CONFIGURE`. -/
def serveConfigure (world : World) (descriptor : Int) (config : RadioConfig) : Handled :=
  if world.daemon.owner = descriptor then
    let configured := configureRadio environment world config 3
    if configured.1 = .ok then
      .reply (configured.2.modify (storeSingleConfig · config)) .ok
    else .reply configured.2 configured.1
  else serveUnrecognised world descriptor

/-- `OPENRSP_CMD_CONFIGURE_DUAL`. -/
def serveConfigureDual (world : World) (descriptor : Int) (config : DualConfig) : Handled :=
  if world.daemon.owner = descriptor then
    let configured := configureDualRadio environment world config
    if configured.1 = .ok then
      .reply
        (configured.2.modify fun daemon =>
          { daemon with bootstrapConfigured := false }) .ok
    else .reply configured.2 configured.1
  else serveUnrecognised world descriptor

/-! ## Swaps -/

/-- Both swaps first stop a running stream and close the handle; the flag
tells whether that succeeded.  `stop_stream` does nothing and returns `0`
when no thread was started, as `was_streaming &&` demands. -/
def stopAndClose (world : World) : Bool × World :=
  let stopped := stopStream environment world
  if stopped.1 ≠ 0 then (false, stopped.2)
  else
    let closed := closeRadio environment stopped.2
    (decide (closed.1 = 0), closed.2)

/-- `OPENRSP_CMD_SWAP_TUNER`. -/
def serveSwapTuner (world : World) (descriptor : Int) (swap : SwapRequest) : Handled :=
  if world.daemon.owner = descriptor ∧ world.daemon.configured ∧
      world.daemon.dualMode = false then
    if (swap.tuner ≠ tunerA ∧ swap.tuner ≠ tunerB) ∨
        openrspdConfigValid swap.config = false ∨
        swap.config.tuner ≠ swap.tuner then
      .reply world .badRequest
    else
      let wasStreaming := world.daemon.streamThreadStarted
      let closed := stopAndClose environment world
      if closed.1 = false then .reply closed.2 .ioError
      else
        let configured :=
          configureRadio environment closed.2 swap.config 3
        if configured.1 = .ok then
          .reply
            (configured.2.modify fun daemon =>
              { storeSingleConfig daemon swap.config with
                modeSwapPaused := wasStreaming
                streamSequenceA := 0 }) .ok
        else .reply configured.2 configured.1
  else serveUnrecognised world descriptor

/-- Whether the target of a mode swap is valid. -/
def validModeTarget (swap : ModeSwapRequest) : Bool :=
  if swap.mode = modeSingle then openrspdConfigValid swap.single
  else if swap.mode = modeDual then validDualConfig swap.dual
  else false

/-- Configure the radio in a given mode. -/
def configureMode (world : World) (dual : Bool) (single : RadioConfig)
    (both : DualConfig) : Status × World :=
  if dual then configureDualRadio environment world both
  else configureRadio environment world single 3

/-- Store the configuration of an accepted mode swap. -/
def storeMode (daemon : DaemonState) (swap : ModeSwapRequest) :
    DaemonState :=
  if swap.mode = modeDual then
    { daemon with
      dualConfig := swap.dual
      bootstrapConfigured := false
      configured := true }
  else storeSingleConfig daemon swap.single

/-- Put back the configuration saved before a mode swap. -/
def restoreMode (saved daemon : DaemonState) : DaemonState :=
  { daemon with
    dualMode := saved.dualMode
    config := saved.config
    dualConfig := saved.dualConfig
    bootstrapConfig := saved.bootstrapConfig
    bootstrapConfigured := saved.bootstrapConfigured
    configured := true
    modeSwapPaused := false }

/-- A mode swap failed with `status`: a stream that was running gets its old
configuration back. -/
def rollBackMode (saved : DaemonState) (world : World) (status : Status) : Handled :=
  if saved.streamThreadStarted then
    let rollback :=
      configureMode environment world saved.dualMode saved.config saved.dualConfig
    if rollback.1 = .ok then
      (Handled.reply (rollback.2.modify (restoreMode saved)) status).restartStream true true
    else .reply rollback.2 status
  else .reply world status

/-- `OPENRSP_CMD_SWAP_MODE`. -/
def serveSwapMode (world : World) (descriptor : Int) (swap : ModeSwapRequest) : Handled :=
  if world.daemon.owner = descriptor ∧ world.daemon.configured then
    if validModeTarget swap = false then .reply world .badRequest
    else
      let saved := world.daemon
      let closed := stopAndClose environment world
      if closed.1 = false then
        rollBackMode environment saved closed.2 .ioError
      else
        let configured :=
          configureMode environment closed.2 (decide (swap.mode = modeDual)) swap.single swap.dual
        if configured.1 = .ok then
          .reply
            (configured.2.modify fun daemon =>
              { storeMode daemon swap with
                recoveryConfigPending := false
                modeSwapPaused := saved.streamThreadStarted
                streamSequenceA := 0
                streamSequenceB := 0 }) .ok
        else rollBackMode environment saved configured.2 configured.1
  else serveUnrecognised world descriptor

/-! ## Updating -/

/-- Store an update for the recovery that is under way. -/
def queueUpdate (daemon : DaemonState) (update : UpdateRequest) :
    DaemonState :=
  { daemon with config := update.config }

/-- A queued update is answered like an applied one, with a flag. -/
def Handled.queued (world : World) : Handled :=
  { Handled.reply world .ok with changedFlags := responseRecoveryQueued }

/-- Whether an update changes the rate of a running stream. -/
def restartForSampleRate (daemon : DaemonState) (update : UpdateRequest) : Bool :=
  daemon.streamThreadStarted &&
    hasFlag update.changedFlags changeSampleRate &&
    update.config.sampleRateHz != daemon.config.sampleRateHz

/-- The writes of `OPENRSP_CMD_UPDATE`, with the stream stopped around a
change of its rate. -/
def stopAndApplyUpdate (world : World) (update : UpdateRequest) : Status × World :=
  if restartForSampleRate world.daemon update then
    let stopped := stopStream environment world
    if stopped.1 ≠ 0 then (.ioError, stopped.2)
    else applyUpdate environment stopped.2 update
  else applyUpdate environment world update

/-- `OPENRSP_CMD_UPDATE`. -/
def serveUpdate (world : World) (descriptor : Int) (update : UpdateRequest) : Handled :=
  if world.daemon.owner = descriptor then
    if openrspdConfigValid update.config = false then
      .reply world .badRequest
    else if world.daemon.radio = none ∨ world.daemon.configured = false ∨
        world.daemon.streamError then
      .queued (world.modify (queueUpdate · update))
    else
      let applied := stopAndApplyUpdate environment world update
      if applied.1 = .ioError then
        .queued
          (applied.2.modify fun daemon =>
            { queueUpdate daemon update with streamError := true })
      else
        (Handled.reply applied.2 applied.1).restartStream
          (decide (applied.1 = .ok) && restartForSampleRate world.daemon update) false
  else serveUnrecognised world descriptor

end OwnerRequests

end OpenRsp
