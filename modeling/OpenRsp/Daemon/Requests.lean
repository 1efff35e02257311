import OpenRsp.Daemon.DuoConfiguration

/-!
# Requests

The branches of `serve_request` in `daemon/openrspd.c`, one handler per
command.  A handler decides the response and what `serve_request` does after
it has been written; `Handled` carries both.
-/

namespace OpenRsp

/-- What the command branches of `serve_request` leave for the part after
them. -/
structure Handled where
  world : World
  status : Status
  changedFlags : UInt32
  listed : List DeviceRecord
  startStreamAfterResponse : Bool
  startStreamAfterError : Bool
  duoStartStreamAfterResponse : Bool
  duoEvent : DuoEvent

/-- A response with nothing to do after it. -/
def Handled.reply (world : World) (status : Status) : Handled :=
  ⟨world, status, 0, [], false, false, false, clearEvent⟩

/-- Notify the peer after the response. -/
def Handled.notify (handled : Handled) (event : DuoEvent) : Handled :=
  { handled with duoEvent := event }

/-- Set `duo_start_stream_after_response`. -/
def Handled.startDuoStream (handled : Handled) (start : Bool) : Handled :=
  { handled with duoStartStreamAfterResponse := start }

/-- Set `start_stream_after_response` and `start_stream_after_error`. -/
def Handled.restartStream (handled : Handled) (start onError : Bool) :
    Handled :=
  { handled with
    startStreamAfterResponse := start
    startStreamAfterError := onError }

@[simp]
theorem Handled.reply_world (world : World) (status : Status) :
    (Handled.reply world status).world = world :=
  rfl

@[simp]
theorem Handled.reply_status (world : World) (status : Status) :
    (Handled.reply world status).status = status :=
  rfl

@[simp]
theorem Handled.notify_world (handled : Handled) (event : DuoEvent) :
    (handled.notify event).world = handled.world :=
  rfl

@[simp]
theorem Handled.notify_status (handled : Handled) (event : DuoEvent) :
    (handled.notify event).status = handled.status :=
  rfl

@[simp]
theorem Handled.startDuoStream_world (handled : Handled) (start : Bool) :
    (handled.startDuoStream start).world = handled.world :=
  rfl

@[simp]
theorem Handled.startDuoStream_status (handled : Handled) (start : Bool) :
    (handled.startDuoStream start).status = handled.status :=
  rfl

@[simp]
theorem Handled.restartStream_world (handled : Handled) (start onError : Bool) :
    (handled.restartStream start onError).world = handled.world :=
  rfl

@[simp]
theorem Handled.restartStream_status (handled : Handled) (start onError : Bool) :
    (handled.restartStream start onError).status = handled.status :=
  rfl

/-- The status for a client that holds no role. -/
def busyOrUnsupported (daemon : DaemonState) : Status :=
  if 0 ≤ daemon.owner then .busy else .unsupported

/-- The last branch of `serve_request`. -/
def serveUnrecognised (world : World) (descriptor : Int) : Handled :=
  .reply world
    (if 0 ≤ world.daemon.owner ∧ world.daemon.owner ≠ descriptor then .busy
      else .unsupported)

/-- Serve a command of the master or the slave; others are turned away. -/
def withDuoRole (world : World) (descriptor : Int) (serve : DuoRole → Handled) :
    Handled :=
  match duoRoleDescriptor world.daemon descriptor with
  | .none => .reply world (busyOrUnsupported world.daemon)
  | .master => serve .master
  | .slave => serve .slave

/-- The tuner of a role. -/
def DuoSession.roleTuner (session : DuoSession) : DuoRole → UInt32
  | .master => session.masterTuner
  | _ => session.slaveTuner

section Requests

variable (environment : Environment)

/-! ## Inventory and lock -/

/-- `OPENRSP_CMD_LIST`. -/
def serveList (world : World) : Handled :=
  let devices := snapshotSdrplayDevices environment world
  { Handled.reply devices.2 .ok with
    changedFlags := UInt32.ofNat devices.1.length
    listed := devices.1 }

/-- `OPENRSP_CMD_LOCK_API`. -/
def serveLockApi (world : World) (descriptor : Int) : Handled :=
  if 0 ≤ world.daemon.apiLockOwner ∧
      world.daemon.apiLockOwner ≠ descriptor then
    .reply world .busy
  else
    .reply (world.modify fun daemon => { daemon with apiLockOwner := descriptor }) .ok

/-- `OPENRSP_CMD_UNLOCK_API`. -/
def serveUnlockApi (world : World) (descriptor : Int) : Handled :=
  if world.daemon.apiLockOwner = descriptor then
    .reply (releaseApiLock world descriptor) .ok
  else serveUnrecognised world descriptor

/-! ## Master/slave commands -/

/-- The identity check of `OPENRSP_CMD_DUO_ACQUIRE`: the index a master
resolved to, or nothing when the role may not be taken. -/
def resolveDuoIdentity (world : World) (acquire : DuoAcquireRequest) : Option UInt32 × World :=
  let identity := acquire.identity
  if (identity.vendorId = 0x1df7 ∧ identity.productId = 0x3020) ∧
      acquire.role = duoRoleMaster then
    let devices := snapshotSdrplayDevices environment world
    ((openrspIdentityResolve identity devices.1).toOption, devices.2)
  else if identity.vendorId ≠ 0x1df7 ∨ identity.productId ≠ 0x3020 ∨
      world.daemon.duoActive = false ∨
      world.daemon.duo.masterSelected = false ∨
      duoIdentityEqual world.daemon.acquiredIdentity identity = false then
    (none, world)
  else (some 0, world)

/-- What a granted `OPENRSP_CMD_DUO_ACQUIRE` records. -/
def grantDuo (daemon : DaemonState) (acquire : DuoAcquireRequest) (index : UInt32)
    (session : DuoSession) : DaemonState :=
  { daemon with
    duo := session
    duoActive := true
    deviceSnapshotValid := false
    acquiredIdentity :=
      if acquire.role = duoRoleMaster then
        { acquire.identity with deviceIndex := index }
      else daemon.acquiredIdentity }

/-- The session role a client asks for. -/
def requestedRole (acquire : DuoAcquireRequest) : DuoRole :=
  if acquire.role = duoRoleMaster then .master else .slave

/-- `OPENRSP_CMD_DUO_ACQUIRE` once the receiver has been identified. -/
def acquireDuoRole (world : World) (descriptor : Int) (acquire : DuoAcquireRequest)
    (index : UInt32) : Handled :=
  let granted :=
    openrspdDuoAcquire world.daemon.duo descriptor (requestedRole acquire)
      acquire.tuner acquire.sampleRateHz
  if granted.result = .ok then
    (Handled.reply (world.modify (grantDuo · acquire index granted.session))
      .ok).notify granted.event
  else .reply world (duoResultStatus granted.result)

/-- `OPENRSP_CMD_DUO_ACQUIRE`. -/
def serveDuoAcquire (world : World) (descriptor : Int) (acquire : DuoAcquireRequest) :
    Handled :=
  if 0 ≤ world.daemon.owner ∨
      (world.daemon.duoActive ∧ acquire.role = duoRoleMaster ∧ world.daemon.duo.masterSelected) then
    .reply world .busy
  else if acquire.role ≠ duoRoleMaster ∧ acquire.role ≠ duoRoleSlave then
    .reply world .badRequest
  else
    let resolved := resolveDuoIdentity environment world acquire
    match resolved.1 with
    | none => .reply resolved.2 .badRequest
    | some index => acquireDuoRole resolved.2 descriptor acquire index

/-- Store an accepted role configuration. -/
def storeDuoConfig (daemon : DaemonState) (config : RadioConfig) :
    DaemonState :=
  if config.tuner = tunerA then
    { daemon with
      duoConfig := { daemon.duoConfig with channelA := config }
      duoConfigA := true }
  else
    { daemon with
      duoConfig := { daemon.duoConfig with channelB := config }
      duoConfigB := true }

/-- `OPENRSP_CMD_DUO_CONFIGURE`. -/
def serveDuoConfigure (world : World) (descriptor : Int) (config : RadioConfig) : Handled :=
  withDuoRole world descriptor fun role =>
    if openrspdConfigValid config = false ∨
        config.tuner ≠ world.daemon.duo.roleTuner role ∨
        config.sampleRateHz ≠ world.daemon.duo.sampleRateHz then
      .reply world .badRequest
    else
      let applied := duoApplyRunningConfig environment world config
      if applied.1 = .ok then
        .reply (applied.2.modify (storeDuoConfig · config)) .ok
      else .reply applied.2 applied.1

/-- Withdraw the master's initialisation. -/
def clearMasterInitialised (daemon : DaemonState) : DaemonState :=
  { daemon with duo := { daemon.duo with masterInitialised := false } }

/-- `OPENRSP_CMD_DUO_START` after the master has been marked initialised. -/
def startMaster (world : World) (event : DuoEvent) : Handled :=
  let prepared := duoPrepareConfig world.daemon
  let ready := world.modify fun _ => prepared.2
  if prepared.1 ≠ 0 then
    .reply (ready.modify clearMasterInitialised) .badRequest
  else
    let configured :=
      configureDualRadio environment ready ready.daemon.duoConfig
    if configured.1 = .ok then
      ((Handled.reply
        (configured.2.modify fun daemon =>
          { daemon with duoActive := true, dualMode := true })
        .ok).startDuoStream true).notify event
    else
      (Handled.reply (configured.2.modify clearMasterInitialised) configured.1).notify event

/-- `OPENRSP_CMD_DUO_START` after the slave has been marked initialised. -/
def startSlave (world : World) (event : DuoEvent) : Handled :=
  if world.daemon.radio = none ∨ world.daemon.configured = false then
    .reply
      (world.modify fun daemon =>
        { daemon with duo := { daemon.duo with slaveInitialised := false } })
      .ioError
  else (Handled.reply world .ok).notify event

/-- `OPENRSP_CMD_DUO_START`. -/
def serveDuoStart (world : World) (descriptor : Int) : Handled :=
  withDuoRole world descriptor fun role =>
    let started := openrspdDuoInitialise world.daemon.duo descriptor
    let marked :=
      world.modify fun daemon => { daemon with duo := started.session }
    if started.result ≠ .ok then
      .reply marked (duoResultStatus started.result)
    else if role = .master then
      startMaster environment marked started.event
    else startSlave marked started.event

/-- `OPENRSP_CMD_DUO_STOP`. -/
def serveDuoStop (world : World) (descriptor : Int) : Handled :=
  withDuoRole world descriptor fun role =>
    let stopped := openrspdDuoUninitialise world.daemon.duo descriptor
    let marked :=
      world.modify fun daemon => { daemon with duo := stopped.session }
    if stopped.result = .ok ∧ role = .master then
      let reset := duoResetHardware environment marked
      (Handled.reply reset.2 reset.1).notify stopped.event
    else
      (Handled.reply marked (duoResultStatus stopped.result)).notify stopped.event

/-- The last role of a session has been released. -/
def forgetDuo (daemon : DaemonState) : DaemonState :=
  { daemon with
    duoActive := false
    duoConfigA := false
    duoConfigB := false }

/-- `OPENRSP_CMD_DUO_RELEASE`. -/
def serveDuoRelease (world : World) (descriptor : Int) : Handled :=
  withDuoRole world descriptor fun _ =>
    let released := openrspdDuoRelease world.daemon.duo descriptor
    let marked :=
      world.modify fun daemon => { daemon with duo := released.session }
    if released.result ≠ .ok then
      .reply marked (duoResultStatus released.result)
    else
      let forgotten :=
        marked.modify fun daemon =>
          { daemon with deviceSnapshotValid := false }
      if forgotten.daemon.duo.masterSelected = false ∧
          forgotten.daemon.duo.slaveSelected = false then
        let reset := duoResetHardware environment forgotten
        (Handled.reply (reset.2.modify forgetDuo) reset.1).notify released.event
      else (Handled.reply forgotten .ok).notify released.event

/-- Put back the rate and configuration saved before a rate swap. -/
def restoreRate (daemon : DaemonState) (rate : UInt32) (config : DualConfig) :
    DaemonState :=
  { daemon with
    duo := { daemon.duo with sampleRateHz := rate }
    duoConfig := config }

/-- `OPENRSP_CMD_DUO_SWAP_RATE` once the stream has stopped. -/
def swapRateStopped (world : World) (rate : UInt32) (wasStreaming : Bool) : Handled :=
  let saved := world.daemon.duoConfig
  let savedRate := world.daemon.duo.sampleRateHz
  let prepared :=
    duoPrepareConfig
      { world.daemon with
        duo := { world.daemon.duo with sampleRateHz := rate } }
  let ready := world.modify fun _ => prepared.2
  if prepared.1 ≠ 0 then
    .reply (ready.modify (restoreRate · savedRate saved)) .badRequest
  else
    let reset := duoResetHardware environment ready
    if reset.1 ≠ .ok then
      .reply (reset.2.modify (restoreRate · savedRate saved)) reset.1
    else
      let configured :=
        configureDualRadio environment reset.2 reset.2.daemon.duoConfig
      if configured.1 = .ok then
        (Handled.reply
          (configured.2.modify fun daemon => { daemon with dualMode := true })
          .ok).startDuoStream wasStreaming
      else
        .reply
          (configureDualRadio environment
            (configured.2.modify (restoreRate · savedRate saved)) saved).2
          configured.1

/-- `OPENRSP_CMD_DUO_SWAP_RATE` to a rate other than the current one. -/
def swapRate (world : World) (rate : UInt32) : Handled :=
  let prepared := duoPrepareConfig world.daemon
  let ready := world.modify fun _ => prepared.2
  if prepared.1 ≠ 0 then .reply ready .badRequest
  else
    -- `stop_stream` returns `0` at once when no thread was started
    let stopped := stopStream environment ready
    if stopped.1 ≠ 0 then .reply stopped.2 .ioError
    else
      swapRateStopped environment stopped.2 rate ready.daemon.streamThreadStarted

/-- `OPENRSP_CMD_DUO_SWAP_RATE`. -/
def serveDuoSwapRate (world : World) (descriptor : Int) (rate : UInt32) : Handled :=
  withDuoRole world descriptor fun role =>
    if role ≠ .master then .reply world .badRequest
    else if world.daemon.duo.masterInitialised = false then
      .reply world .startPending
    else if rate ≠ 6000000 ∧ rate ≠ 8000000 then .reply world .badRequest
    else if world.daemon.duo.slaveInitialised then
      .reply world .stopPending
    else if rate = world.daemon.duo.sampleRateHz then .reply world .ok
    else swapRate environment world rate

/-- `OPENRSP_CMD_DUO_UPDATE`. -/
def serveDuoUpdate (world : World) (descriptor : Int) (update : UpdateRequest) : Handled :=
  withDuoRole world descriptor fun role =>
    if world.daemon.radio = none ∨ world.daemon.configured = false ∨
        world.daemon.duo.masterInitialised = false then
      .reply world .startPending
    else if update.config.tuner ≠ world.daemon.duo.roleTuner role then
      .reply world .badRequest
    else
      let applied := applyUpdate environment world update
      .reply applied.2 applied.1

end Requests

end OpenRsp
