import OpenRsp.Daemon.Configuration

/-!
# Shared configuration of a master and its slave

`duo_role_descriptor`, `duo_prepare_config`, `duo_reset_hardware`,
`duo_apply_running_config`, `duo_result_status` and `duo_identity_equal` of
`daemon/openrspd.c`.
-/

namespace OpenRsp

/-- `duo_role_descriptor`. -/
def duoRoleDescriptor (daemon : DaemonState) (descriptor : Int) : DuoRole :=
  if daemon.duoActive then
    openrspdDuoRoleForDescriptor daemon.duo descriptor
  else .none

/-- A channel nobody configured copies its peer's, less the controls that
belong to one tuner. -/
def copyChannel (peer : RadioConfig) (tuner : UInt32) : RadioConfig :=
  { peer with
    tuner := tuner
    biasTeeEnabled := 0
    amPortSelect := 0
    amNotchEnabled := 0 }

/-- Impose the shared rate, IF and bandwidth limit on a channel. -/
def shareChannel (channel : RadioConfig) (sampleRateHz : UInt32) :
    RadioConfig :=
  { channel with
    sampleRateHz := sampleRateHz
    ifFrequencyHz := requiredIf sampleRateHz
    bandwidthHz :=
      if channel.bandwidthHz > 1536000 then 1536000
      else channel.bandwidthHz }

/-- The `duo_config` that `duo_prepare_config` leaves. -/
def preparedDuoConfig (daemon : DaemonState) : DualConfig :=
  let channelA :=
    if daemon.duoConfigA then daemon.duoConfig.channelA
    else copyChannel daemon.duoConfig.channelB tunerA
  let channelB :=
    if daemon.duoConfigB then daemon.duoConfig.channelB
    else copyChannel channelA tunerB
  { sampleRateHz := daemon.duo.sampleRateHz
    channelA := shareChannel channelA daemon.duo.sampleRateHz
    channelB := shareChannel channelB daemon.duo.sampleRateHz }

/-- `duo_prepare_config`. -/
def duoPrepareConfig (daemon : DaemonState) : Int × DaemonState :=
  if daemon.duoConfigA = false ∧ daemon.duoConfigB = false then (-1, daemon)
  else
    let prepared := preparedDuoConfig daemon
    (if validDualConfig prepared then 0 else -1,
      { daemon with duoConfig := prepared })

/-- `duo_result_status`. -/
def duoResultStatus : DuoResult → Status
  | .ok => .ok
  | .startPending => .startPending
  | .stopPending => .stopPending
  | .busy => .busy
  | .invalid => .badRequest

/-- `duo_identity_equal`. -/
def duoIdentityEqual (left right : AcquireRequest) : Bool :=
  left.vendorId == right.vendorId && left.productId == right.productId &&
    cString left.serial == cString right.serial

section DuoConfiguration

variable (environment : Environment)

/-- `duo_reset_hardware`. -/
def duoResetHardware (world : World) : Status × World :=
  let stopped := stopIfOpen environment world
  let closed := closeRadio environment stopped.2
  (if stopped.1 = 0 ∧ closed.1 = 0 then .ok else .ioError,
    closed.2.modify fun daemon =>
      { daemon with configured := false, dualMode := false })

/-- The hardware writes of `duo_apply_running_config`. -/
def writeRunningConfig (world : World) (current config : RadioConfig) : Bool × World :=
  writeFrontEnd environment world
    (config.centerFrequencyHz != current.centerFrequencyHz ||
      config.gainReductionDb != current.gainReductionDb ||
      config.lnaState != current.lnaState)
    config changeRspduoControls

/-- `duo_apply_running_config`. -/
def duoApplyRunningConfig (world : World) (config : RadioConfig) : Status × World :=
  let shared := world.daemon.duoConfig
  let current := shared.channel config.tuner
  if world.daemon.radio = none ∨ world.daemon.configured = false ∨
      world.daemon.dualMode = false then
    (.ok, world)
  else if config.sampleRateHz ≠ shared.sampleRateHz ∨
      config.ifFrequencyHz ≠ current.ifFrequencyHz ∨
      config.bandwidthHz ≠ current.bandwidthHz then
    (.badRequest, world)
  else
    let write := writeRunningConfig environment world current config
    if write.1 = false then (.ioError, write.2)
    else
      (.ok, write.2.modify fun daemon =>
        { daemon with
          duoConfig := daemon.duoConfig.withChannel config.tuner config })

end DuoConfiguration

end OpenRsp
