import OpenRsp.Daemon.Stream

/-!
# Configuring the radio

`set_rspduo_controls`, `apply_config`, `configure_radio`,
`configure_dual_radio` and `apply_update` of `daemon/openrspd.c`.
-/

namespace OpenRsp

section Configuration

variable (environment : Environment)

/-- `set_gain`. -/
def setGain (world : World) (config : RadioConfig) : Int × World :=
  mirisdrSetRspduoGain environment world config.gainReductionDb config.lnaState

/-- The control flags that apply to a configuration's tuner. -/
def controlFlags (config : RadioConfig) (flags : UInt32) : UInt32 :=
  (if config.tuner = tunerB then flags &&& ~~~(changeAmPort ||| changeAmNotch)
    else flags) &&& changeRspduoControls

/-- `set_rspduo_controls`. -/
def setRspduoControls (world : World) (config : RadioConfig) (flags : UInt32) : Int × World :=
  if controlFlags config flags = 0 then (0, world)
  else
    mirisdrSetRspduoControls environment world config (controlFlags config flags)

/-- `set_rspduo_sample_rate`. -/
def setRspduoSampleRate (world : World) (config : RadioConfig) : Int × World :=
  mirisdrSetSampleRate environment world config.sampleRateHz

/-! ## Single tuner -/

/-- `apply_config`. -/
def applyConfig (world : World) (config : RadioConfig) : Status × World :=
  if openrspdConfigValid config = false then (.badRequest, world)
  else
    let call := mirisdrConfigureRspduo environment world config
    (if call.1 ≠ 0 then .ioError else .ok, call.2)

/-- The opening of one attempt of `configure_radio`: nothing when the
acquired device could not be resolved.  A failed open leaves no handle. -/
def openForAttempt (world : World) (config : RadioConfig) : Bool × World :=
  if world.daemon.radio.isSome then (true, world)
  else
    let resolved := resolveAcquiredDevice environment world
    match resolved.1 with
    | .error _ => (false, resolved.2)
    | .ok index =>
        (true, (mirisdrOpenTuner environment resolved.2 index config.tuner).2)

/-- The writes of one attempt; they fail when the open did. -/
def applyIfOpen (world : World) (config : RadioConfig) : Status × World :=
  if world.daemon.radio.isSome then applyConfig environment world config
  else (.ioError, world)

/-- The attempts of `configure_radio`, `remaining` of them. -/
def configureAttempts (config : RadioConfig) :
    Nat → World → Status × World
  | 0, world => (.ioError, world)
  | remaining + 1, world =>
      let opened := openForAttempt environment world config
      if opened.1 = false then (.badRequest, opened.2)
      else
        let applied := applyIfOpen environment opened.2 config
        if applied.1 = .ok then
          (.ok, applied.2.modify fun daemon =>
            { daemon with dualMode := false })
        else
          let closed := closeRadio environment applied.2
          if closed.1 = minusEbusy then (.ioError, closed.2)
          else configureAttempts config remaining closed.2

/-- `configure_radio`. -/
def configureRadio (world : World) (config : RadioConfig) (maxAttempts : Nat) :
    Status × World :=
  if openrspdConfigValid config = false then (.badRequest, world)
  else if world.daemon.dualMode ∧ world.daemon.radio.isSome then
    let closed := closeRadio environment world
    if closed.1 = minusEbusy then (.ioError, closed.2)
    else
      configureAttempts environment config (max maxAttempts 1)
        (closed.2.modify fun daemon => { daemon with configured := false })
  else configureAttempts environment config (max maxAttempts 1) world

/-! ## Both tuners -/

/-- The opening of `configure_dual_radio`; the flag tells whether it
succeeded. -/
def openForDual (world : World) : Bool × World :=
  if world.daemon.radio.isSome then (true, world)
  else
    let resolved := resolveAcquiredDevice environment world
    match resolved.1 with
    | .error _ => (false, resolved.2)
    | .ok index =>
        let opened :=
          mirisdrOpenTuner environment resolved.2 index tunerBoth
        (decide (opened.1 = 0), opened.2)

/-- Write a dual configuration and both sets of controls to the handle. -/
def writeDual (world : World) (config : DualConfig) : Int × World :=
  let call := mirisdrConfigureRspduoDual environment world config
  if call.1 ≠ 0 then call
  else
    let controlsA :=
      setRspduoControls environment call.2 config.channelA changeRspduoControls
    if controlsA.1 ≠ 0 then controlsA
    else
      setRspduoControls environment controlsA.2 config.channelB changeRspduoControls

/-- `configure_dual_radio` once any single-tuner handle has been closed. -/
def configureDualHandle (world : World) (config : DualConfig) : Status × World :=
  let opened := openForDual environment world
  if opened.1 = false then (.ioError, opened.2)
  else
    let call := writeDual environment opened.2 config
    if call.1 < 0 then (.ioError, (closeRadio environment call.2).2)
    else
      (.ok, call.2.modify fun daemon =>
        { daemon with
          dualMode := true
          dualConfig := config
          configured := true })

/-- `configure_dual_radio`. -/
def configureDualRadio (world : World) (config : DualConfig) : Status × World :=
  if validDualConfig config = false then (.badRequest, world)
  else if world.daemon.dualMode = false ∧ world.daemon.radio.isSome then
    let closed := closeRadio environment world
    if closed.1 = minusEbusy then (.ioError, closed.2)
    else
      configureDualHandle environment
        (closed.2.modify fun daemon => { daemon with configured := false })
        config
  else configureDualHandle environment world config

/-! ## Updates -/

/-- Call a setter when `needed`; an omitted call counts as success. -/
def callIf (needed : Bool) (call : World → Int × World) (world : World) :
    Int × World :=
  if needed then call world else (0, world)

/-- The channel of a dual configuration that belongs to a tuner. -/
def DualConfig.channel (config : DualConfig) (tuner : UInt32) : RadioConfig :=
  if tuner = tunerB then config.channelB else config.channelA

/-- Replace the channel that belongs to a tuner. -/
def DualConfig.withChannel (config : DualConfig) (tuner : UInt32) (channel : RadioConfig) :
    DualConfig :=
  if tuner = tunerB then { config with channelB := channel }
  else { config with channelA := channel }

/-- Write a front end, if need be, and the controls of one of two tuners. -/
def writeFrontEnd (world : World) (needed : Bool) (config : RadioConfig) (flags : UInt32) :
    Bool × World :=
  let tuned := callIf needed (mirisdrUpdateRspduoDual environment · config) world
  let controls := setRspduoControls environment tuned.2 config flags
  (decide (tuned.1 = 0 ∧ controls.1 = 0), controls.2)

/-- The hardware writes of the dual branch of `apply_update`. -/
def writeDualUpdate (world : World) (next : RadioConfig) (flags : UInt32) : Bool × World :=
  writeFrontEnd environment world (hasFlag flags (changeRf ||| changeGain)) next flags

/-- The dual branch of `apply_update`. -/
def applyDualUpdate (world : World) (next : RadioConfig) (flags : UInt32) : Status × World :=
  let dual := world.daemon.dualConfig
  let old := dual.channel next.tuner
  if next.tuner ≠ tunerA ∧ next.tuner ≠ tunerB then (.badRequest, world)
  else if next.sampleRateHz ≠ dual.sampleRateHz ∨
      next.ifFrequencyHz ≠ old.ifFrequencyHz ∨
      next.bandwidthHz ≠ old.bandwidthHz then
    (.badRequest, world)
  else if openrspdConfigValid next = false then (.badRequest, world)
  else
    let write := writeDualUpdate environment world next flags
    if write.1 = false then (.ioError, write.2)
    else
      (.ok, write.2.modify fun daemon =>
        { daemon with
          dualConfig := daemon.dualConfig.withChannel next.tuner next })

/-- The hardware writes of the single branch of `apply_update`: every
needed setter is called, whatever the earlier ones returned. -/
def writeUpdate (world : World) (old next : RadioConfig) (flags : UInt32) :
    Bool × World :=
  let rate :=
    callIf
      (hasFlag flags changeSampleRate &&
        next.sampleRateHz != old.sampleRateHz)
      (setRspduoSampleRate environment · next) world
  let frequency :=
    callIf
      (hasFlag flags changeRf &&
        next.centerFrequencyHz != old.centerFrequencyHz)
      (mirisdrSetCenterFreq environment · next.centerFrequencyHz) rate.2
  let bandwidth :=
    callIf
      (hasFlag flags changeBandwidth &&
        next.bandwidthHz != old.bandwidthHz)
      (mirisdrSetBandwidth environment · next.bandwidthHz) frequency.2
  let ifFrequency :=
    callIf
      (hasFlag flags changeIf &&
        next.ifFrequencyHz != old.ifFrequencyHz)
      (mirisdrSetIfFreq environment · next.ifFrequencyHz.toUInt32)
      bandwidth.2
  let gain :=
    callIf (hasFlag flags (changeGain ||| changeRf)) (setGain environment · next) ifFrequency.2
  let controls := setRspduoControls environment gain.2 next flags
  (decide
    (rate.1 = 0 ∧ frequency.1 = 0 ∧ bandwidth.1 = 0 ∧
      ifFrequency.1 = 0 ∧ gain.1 = 0 ∧ controls.1 = 0),
    controls.2)

/-- The single branch of `apply_update`. -/
def applySingleUpdate (world : World) (next : RadioConfig) (flags : UInt32) : Status × World :=
  if next.tuner ≠ world.daemon.config.tuner then (.badRequest, world)
  else if openrspdConfigValid next = false then (.badRequest, world)
  else
    let write :=
      writeUpdate environment world world.daemon.config next flags
    if write.1 = false then (.ioError, write.2)
    else
      (.ok, write.2.modify fun daemon => { daemon with config := next })

/-- `apply_update`. -/
def applyUpdate (world : World) (update : UpdateRequest) : Status × World :=
  if update.config.tuner = tunerB ∧
      hasFlag update.changedFlags (changeAmPort ||| changeAmNotch) then
    (.badRequest, world)
  else if world.daemon.dualMode then
    applyDualUpdate environment world update.config update.changedFlags
  else
    applySingleUpdate environment world update.config update.changedFlags

end Configuration

end OpenRsp
