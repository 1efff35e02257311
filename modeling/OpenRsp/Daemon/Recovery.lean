import OpenRsp.Daemon.Configuration

/-!
# Stream recovery

`report_removed_device`, `recover_failed_stream` and
`finish_recovery_config` of `daemon/openrspd.c`.
-/

namespace OpenRsp

/-- `OPENRSPD_DEVICE_REMOVAL_GRACE_MILLISECONDS`. -/
def deviceRemovalGraceMilliseconds : Nat := 5000

/-- The configuration recovery opens a single tuner with. -/
def bootstrapOrConfig (daemon : DaemonState) : RadioConfig :=
  if daemon.bootstrapConfigured then daemon.bootstrapConfig
  else daemon.config

section Recovery

variable (environment : Environment)

/-- `monotonic_milliseconds`. -/
def monotonicMilliseconds (world : World) : Nat × World :=
  let time := clockGettime environment world
  ((time.1.getD 0) / 1000000, time.2)

/-- Write one removal notice; a failed write marks its client for eviction. -/
def sendRemovalNotice (world : World) (descriptor : Int) (tuner : UInt32) : World :=
  if descriptor < 0 then world
  else
    let write :=
      writeFrame environment world descriptor (.status deviceStatusRemoved tuner)
    if write.1 ≠ 0 then
      write.2.modify fun daemon =>
        { daemon with
          clientWriteErrorFd := descriptor
          clientWriteError := true }
    else write.2

/-- `report_removed_device`. -/
def reportRemovedDevice (world : World) : World :=
  let duo := world.daemon.duo
  if world.daemon.duoActive then
    sendRemovalNotice environment
      (sendRemovalNotice environment world duo.masterFd duo.masterTuner)
      duo.slaveFd duo.slaveTuner
  else
    sendRemovalNotice environment world world.daemon.owner
      (if world.daemon.dualMode then tunerBoth
        else world.daemon.config.tuner)

/-- The receiver could not be resolved during recovery. -/
def noteUnresolved (world : World) (failure : Int) : World :=
  let tracked :=
    if failure = identityNotFound then
      let now := monotonicMilliseconds environment world
      let absent :=
        openrspdRemovalTrackerAbsent now.2.daemon.removalTracker now.1
          deviceRemovalGraceMilliseconds
      let noted := now.2.modify fun daemon =>
        { daemon with removalTracker := absent.2 }
      if absent.1 then reportRemovedDevice environment noted else noted
    else
      world.modify fun daemon =>
        { daemon with removalTracker := openrspdRemovalTrackerPresent }
  tracked.modify fun daemon =>
    { daemon with recoveryIdentityStatus := failure }

/-- Clear the failure and prepare the flags of a restarted stream. -/
def armRestart (daemon : DaemonState) : DaemonState :=
  { daemon with
    loggedUsbIq := false
    firstIqSeen := false
    streamError := false
    streamResult := 0
    streaming := true }

/-- `pthread_create` failed during recovery. -/
def restartFailed (daemon : DaemonState) : DaemonState :=
  { daemon with streaming := false, streamError := true }

/-- The dual branch of `recover_failed_stream`. -/
def recoverDual (world : World) : World :=
  let configured :=
    configureDualRadio environment world world.daemon.dualConfig
  if configured.1 ≠ .ok then configured.2
  else
    let created :=
      createStreamThread environment (configured.2.modify armRestart)
    if created.1 ≠ 0 then created.2.modify restartFailed else created.2

/-- The single-tuner branch of `recover_failed_stream`. -/
def recoverSingle (world : World) : World :=
  let configured :=
    configureRadio environment world (bootstrapOrConfig world.daemon) 3
  if configured.1 ≠ .ok then (closeRadio environment configured.2).2
  else
    let created :=
      createStreamThread environment
        (configured.2.modify fun daemon =>
          armRestart { daemon with configured := true })
    if created.1 ≠ 0 then
      (closeRadio environment (created.2.modify restartFailed)).2
    else
      created.2.modify fun daemon =>
        { daemon with recoveryConfigPending := true }

/-- What is known of a receiver found again. -/
def noteResolved (index : UInt32) (daemon : DaemonState) : DaemonState :=
  { daemon with
    removalTracker := openrspdRemovalTrackerPresent
    recoveryIdentityStatus := 0
    acquiredIdentity := { daemon.acquiredIdentity with deviceIndex := index } }

/-- Reopen in the mode the stream ran in. -/
def recoverMode (world : World) : World :=
  if world.daemon.dualMode then recoverDual environment world
  else recoverSingle environment world

/-- Look for the acquired receiver and reopen it. -/
def reopenResolved (world : World) : World :=
  let resolved := resolveAcquiredDevice environment world
  match resolved.1 with
  | .error failure => noteUnresolved environment resolved.2 failure
  | .ok index =>
      recoverMode environment (resolved.2.modify (noteResolved index))

/-- A failed stream's configuration no longer stands. -/
def forgetConfigured (daemon : DaemonState) : DaemonState :=
  { daemon with configured := false, recoveryConfigPending := false }

/-- A cached enumeration may still list an unplugged receiver. -/
def invalidateSnapshot (daemon : DaemonState) : DaemonState :=
  { daemon with deviceSnapshotValid := false }

/-- `recover_failed_stream` once the failed handle has been closed. -/
def reopenFailedStream (world : World) : World :=
  if world.daemon.owner < 0 ∧
      ¬(world.daemon.duoActive ∧ world.daemon.duo.masterSelected) then
    world.modify forgetConfigured
  else
    reopenResolved environment ((world.modify forgetConfigured).modify invalidateSnapshot)

/-- Join the thread of the failed stream. -/
def joinFailed (world : World) : World :=
  if world.daemon.streamThreadStarted then
    (joinStreamThread environment world).modify fun daemon =>
      { daemon with streamThreadStarted := false }
  else world

/-- `recover_failed_stream`. -/
def recoverFailedStream (world : World) : World :=
  if world.daemon.streamError = false ∨ world.daemon.streaming then world
  else
    let closed := closeRadio environment (joinFailed environment world)
    if closed.1 = minusEbusy then closed.2
    else reopenFailedStream environment closed.2

/-- The writes of `finish_recovery_config`; a failure skips the rest. -/
def writeRecoveryConfig (world : World) (bootstrap target : RadioConfig) : Int × World :=
  let rate :=
    callIf (target.sampleRateHz != bootstrap.sampleRateHz)
      (setRspduoSampleRate environment · target) world
  let frequency :=
    callIf
      (rate.1 == 0 && target.centerFrequencyHz != bootstrap.centerFrequencyHz)
      (mirisdrSetCenterFreq environment · target.centerFrequencyHz) rate.2
  let bandwidth :=
    callIf
      (rate.1 == 0 && frequency.1 == 0 && target.bandwidthHz != bootstrap.bandwidthHz)
      (mirisdrSetBandwidth environment · target.bandwidthHz) frequency.2
  let ifFrequency :=
    callIf
      (rate.1 == 0 && frequency.1 == 0 && bandwidth.1 == 0 &&
        target.ifFrequencyHz != bootstrap.ifFrequencyHz)
      (mirisdrSetIfFreq environment · target.ifFrequencyHz.toUInt32)
      bandwidth.2
  let gain :=
    callIf
      (rate.1 == 0 && frequency.1 == 0 && bandwidth.1 == 0 && ifFrequency.1 == 0)
      (setGain environment · target) ifFrequency.2
  let controls :=
    callIf
      (rate.1 == 0 && frequency.1 == 0 && bandwidth.1 == 0 && ifFrequency.1 == 0 && gain.1 == 0)
      (setRspduoControls environment · target changeRspduoControls) gain.2
  (if rate.1 = 0 ∧ frequency.1 = 0 ∧ bandwidth.1 = 0 ∧
      ifFrequency.1 = 0 ∧ gain.1 = 0 ∧ controls.1 = 0 then 0 else -1,
    controls.2)

/-- `finish_recovery_config`. -/
def finishRecoveryConfig (world : World) : World :=
  if world.daemon.dualMode ∨ world.daemon.recoveryConfigPending = false ∨
      world.daemon.firstIqSeen = false ∨ world.daemon.radio = none then
    world
  else
    let write :=
      writeRecoveryConfig environment world (bootstrapOrConfig world.daemon) world.daemon.config
    write.2.modify fun daemon =>
      { daemon with
        recoveryConfigPending := false
        streamError := daemon.streamError || decide (write.1 ≠ 0) }

end Recovery

end OpenRsp
