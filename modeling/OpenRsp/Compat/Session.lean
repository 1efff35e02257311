import OpenRsp.Compat.IqQueue
import OpenRsp.Compat.Overload
import OpenRsp.Compat.Parameters
import OpenRsp.Compat.SyncUpdate

/-!
# Streaming sessions

The device context between `sdrplay_api_Init` and `sdrplay_api_Uninit` of
`compat/sdrplay_api_compat.c`: both calls, `sdrplay_api_Update`,
`daemon_stream_callback`, the AGC loop, the callback thread and the event
thread.  The answers of the daemon and of the operating system, the frames and
the times are inputs of the steps; the callbacks, the events and the results
of the calls are their outputs.

A call that waits is two steps, with the frames it waits for in between.
-/

namespace OpenRsp

open Doubles Rings

/-! ## The context -/

/-- The filters of one tuner's stream. -/
structure SampleFilters where
  iqCorrection : IqCorrection
  adsbFilter : AdsbFilter
  lowIf : LowIfDsp
  decimator : Decimator
deriving DecidableEq, Repr

/-- The fields `compat_device_context` has for each tuner. -/
structure TunerStream where
  lastIqSequence : UInt32
  iqSequenceSeen : Bool
  sampleNumber : UInt32
  firstCallback : Bool
  pendingGrChanged : UInt32
  pendingRfChanged : UInt32
  pendingFsChanged : UInt32
  agcPeak : UInt32
  agcMode : UInt32
  agcSetpoint : Int32
  agcLastAdjustMs : UInt64
  agcDecaySinceMs : UInt64
  overload : OverloadAtomics
  filters : SampleFilters
  syncUpdate : SyncUpdate
  syncWaiting : Bool
deriving DecidableEq, Repr

/-- `sdrplay_api_CallbackFnsT`: which functions the application gave. -/
structure CallbackFns where
  streamA : Bool
  streamB : Bool
  event : Bool
deriving DecidableEq, Repr

/-- An update that waits for a sample boundary: what the caller asked for,
the categories of each tuner, and the boundary waited for. -/
structure UpdateWait where
  tuner : TunerSelect
  reason : UInt32
  extension : UInt32
  categoriesA : SyncCategories
  categoriesB : SyncCategories
  slot : Tuner
  target : UInt32
deriving DecidableEq, Repr

/-- `compat_device_context`.  `starting` is set while `sdrplay_api_Init`
waits for the first IQ, `updating` while `sdrplay_api_Update` waits. -/
structure ApiContext where
  blocks : DeviceBlocks
  identity : AcquireRequest
  selected : Bool
  initialized : Bool
  starting : Bool
  updating : Option UpdateWait
  backend : Bool
  callbacks : CallbackFns
  callback : CallbackDevice
  streams : Tuner → TunerStream
  streamState : Int
  callbackSamples : CallbackDevice.CallbackSize
  events : EventDevice

/-- The slot of a tuner. -/
def slotOf (tuner : TunerSelect) : Tuner :=
  if tuner = .b then .b else .a

/-- Change the channel of a tuner. -/
def DeviceBlocks.modifyChannel (blocks : DeviceBlocks) (tuner : TunerSelect)
    (change : RxChannelParams → RxChannelParams) : DeviceBlocks :=
  if tuner = .b then { blocks with channelB := change blocks.channelB }
  else { blocks with channelA := change blocks.channelA }

theorem channelForTuner_modifyChannel (blocks : DeviceBlocks)
    (tuner : TunerSelect) (change : RxChannelParams → RxChannelParams) :
    (blocks.modifyChannel tuner change).channelForTuner tuner =
      change (blocks.channelForTuner tuner) := by
  unfold DeviceBlocks.modifyChannel DeviceBlocks.channelForTuner
  split_ifs <;> rfl

theorem modifyChannel_fixed (blocks : DeviceBlocks)
    (tuner : TunerSelect) (change : RxChannelParams → RxChannelParams) :
    (blocks.modifyChannel tuner change).devParams = blocks.devParams ∧
      (blocks.modifyChannel tuner change).tuner = blocks.tuner ∧
      (blocks.modifyChannel tuner change).mode = blocks.mode := by
  unfold DeviceBlocks.modifyChannel
  split_ifs <;> exact ⟨rfl, rfl, rfl⟩

/-- Store the gain values of a channel. -/
def RxChannelParams.setGainVals (channel : RxChannelParams)
    (values : GainValues) : RxChannelParams :=
  { channel with
    tunerParams :=
      { channel.tunerParams with
        gain := { channel.tunerParams.gain with gainVals := values } } }

/-- Store the gain reduction of a channel. -/
def RxChannelParams.setGainReduction (channel : RxChannelParams)
    (reduction : Int32) : RxChannelParams :=
  { channel with
    tunerParams :=
      { channel.tunerParams with
        gain := { channel.tunerParams.gain with gRdB := reduction } } }

/-- The synchronous flags of a channel after a reset. -/
def RxChannelParams.clearSync (channel : RxChannelParams)
    (reset : SyncCategories) : RxChannelParams :=
  { channel with
    tunerParams :=
      { channel.tunerParams with
        gain :=
          { channel.tunerParams.gain with
            syncUpdate :=
              if reset.gain then 0 else channel.tunerParams.gain.syncUpdate }
        rfFreq :=
          { channel.tunerParams.rfFreq with
            syncUpdate :=
              if reset.rf then 0
              else channel.tunerParams.rfFreq.syncUpdate } }
    ctrlParams :=
      { channel.ctrlParams with
        agc :=
          { channel.ctrlParams.agc with
            syncUpdate :=
              if reset.gain then 0
              else channel.ctrlParams.agc.syncUpdate } } }

/-- `openrsp_rspduo_gain_values` for a channel as an update calls it. -/
def channelGainValues (channel : RxChannelParams) (tuner : TunerSelect) :
    Option GainValues :=
  let gain := channel.tunerParams.gain
  openrspRspduoGainValues channel.tunerParams.rfFreq.rfHz gain.lnaState
    gain.gRdB gain.minGr.toInt32
    (tuner == .a && channel.rspDuoTunerParams.tuner1AmPortSel == amPort1)

namespace ApiContext

/-- Change the stream of a tuner. -/
def modifyStream (context : ApiContext) (slot : Tuner)
    (change : TunerStream → TunerStream) : ApiContext :=
  { context with
    streams := Function.update context.streams slot (change (context.streams slot)) }

/-- `queue_api_event`: whether the queue took the event. -/
def queueEvent (context : ApiContext) (event : ApiEvent) :
    Bool × ApiContext :=
  let queued := context.events.queueApiEvent event
  (queued.1 == 0, { context with events := queued.2 })

/-- `queue_stream_callback`. -/
def queueFrame (context : ApiContext) (frame : StreamFrame) : ApiContext :=
  { context with callback := context.callback.queueStreamCallback frame }

/-! ## Overload events -/

/-- `emit_overload_event`. -/
def emitOverloadEvent (context : ApiContext) (tuner : TunerSelect)
    (overloaded : Bool) : ApiContext :=
  let queued :=
    context.queueEvent ⟨.powerOverloadChange, tuner, .powerOverload overloaded⟩
  queued.2.modifyStream (slotOf tuner) fun stream =>
    { stream with
      overload :=
        if queued.1 then
          { stream.overload with reported := overloaded, pending := true }
        else { stream.overload with pending := false } }

/-- The overload part of `daemon_stream_callback`. -/
def noteOverload (context : ApiContext) (tuner : TunerSelect)
    (samples : List IqSample) : ApiContext :=
  let overload := (context.streams (slotOf tuner)).overload
  let next := nextOverload overload.state (framePeak samples)
  if next = overload.state then context
  else
    let noted :=
      context.modifyStream (slotOf tuner) fun stream =>
        { stream with
          overload :=
            { stream.overload with state := next, pending := true } }
    if overload.pending then noted else noted.emitOverloadEvent tuner next

/-- The acknowledgement of an overload event. -/
def acknowledgeOverload (context : ApiContext) (tuner : TunerSelect) :
    ApiContext :=
  let overload := (context.streams (slotOf tuner)).overload
  let cleared :=
    context.modifyStream (slotOf tuner) fun stream =>
      { stream with overload := { stream.overload with pending := false } }
  if overload.state ≠ overload.reported then
    cleared.emitOverloadEvent tuner overload.state
  else cleared

end ApiContext

/-! ## Frames -/

/-- A call of `daemon_stream_callback`. -/
structure DaemonFrame where
  protocolTunerB : Bool
  sequence : UInt32
  samples : List IqSample
deriving DecidableEq, Repr

/-- The tuner a frame belongs to. -/
def DeviceBlocks.frameTuner (blocks : DeviceBlocks) (protocolTunerB : Bool) :
    TunerSelect :=
  if blocks.mode = .dualTuner then if protocolTunerB then .b else .a
  else blocks.tuner

/-- Whether a frame follows a gap, and how many frames are missing. -/
def TunerStream.gap (stream : TunerStream) (sequence : UInt32) :
    Bool × UInt32 :=
  let expected := stream.lastIqSequence + 1
  let distance := sequence - expected
  let discontinuity := stream.iqSequenceSeen && sequence != expected
  (discontinuity,
    if discontinuity ∧ distance < 0x80000000 then distance else 0)

/-- The filters of `daemon_stream_callback`, in order. -/
def SampleFilters.process (libm : Libm) (filters : SampleFilters)
    (samples : List IqSample) : SampleFilters × List IqSample :=
  let corrected := filters.iqCorrection.process samples
  let filtered := filters.adsbFilter.process corrected.2
  let mixed := filters.lowIf.process libm filtered.2
  let decimated :=
    if filtered.1.mode = .decimation then filters.decimator.process mixed.2
    else (filters.decimator, mixed.2)
  (⟨corrected.1, filtered.1, mixed.1, decimated.1⟩, decimated.2)

/-- The power of the samples received. -/
def powerSum (samples : List IqSample) : Nat :=
  (samples.map fun sample =>
    sample.1.toInt.natAbs ^ 2 + sample.2.toInt.natAbs ^ 2).sum

/-- The level handed to the AGC; the filters may have left no sample. -/
def frameRms (received filtered : List IqSample) : UInt32 :=
  if 0 < filtered.length then
    (Float.ofNat (powerSum received) / (2.0 * Float.ofNat filtered.length)).sqrt.toUInt32
  else 0

/-- `consume_one`. -/
def consumeOne (pending : UInt32) : Bool × UInt32 :=
  if pending > 0 then (true, pending - 1) else (false, pending)

namespace ApiContext

/-- The end of `daemon_stream_callback`: the samples are counted, the pending
changes consumed and the frame queued. -/
def deliverFrame (context : ApiContext) (tuner : TunerSelect)
    (gap : Bool × UInt32) (filtered : SampleFilters × List IqSample)
    (rms : UInt32) : ApiContext :=
  let stream := context.streams (slotOf tuner)
  let count := UInt32.ofNat filtered.2.length
  let first := stream.sampleNumber + gap.2 * count
  let grChanged := consumeOne stream.pendingGrChanged
  let rfChanged := consumeOne stream.pendingRfChanged
  let fsChanged := consumeOne stream.pendingFsChanged
  (context.modifyStream (slotOf tuner) fun stream =>
    { stream with
      filters := filtered.1
      sampleNumber := first + count
      agcPeak := if rms > stream.agcPeak then rms else stream.agcPeak
      pendingGrChanged := grChanged.2
      pendingRfChanged := rfChanged.2
      pendingFsChanged := fsChanged.2
      firstCallback := false }).queueFrame
    { samples := filtered.2.length
      tuner := tuner
      firstSample := first
      flags := ⟨stream.firstCallback || gap.1, grChanged.1, rfChanged.1, fsChanged.1⟩
      xi := filtered.2.map Prod.fst
      xq := filtered.2.map Prod.snd }

/-- `daemon_stream_callback`. -/
def daemonStreamCallback (libm : Libm) (context : ApiContext) (frame : DaemonFrame) : ApiContext :=
  let tuner := context.blocks.frameTuner frame.protocolTunerB
  let gap := (context.streams (slotOf tuner)).gap frame.sequence
  let sequenced :=
    { context with streamState := 1 }.modifyStream (slotOf tuner)
      fun stream =>
        { stream with
          lastIqSequence := frame.sequence
          iqSequenceSeen := true }
  if frame.samples.length > openrspMaxIqSamples then
    { sequenced with streamState := -1 }
  else
    let noted := sequenced.noteOverload tuner frame.samples
    let filtered :=
      (noted.streams (slotOf tuner)).filters.process libm frame.samples
    noted.deliverFrame tuner gap filtered (frameRms frame.samples filtered.2)

/-! ## The AGC -/

/-- `agc_period_ms`. -/
def agcPeriodMs (mode : UInt32) : UInt64 :=
  if mode = agc100Hz then 10
  else if mode = agc50Hz ∨ mode = agcCtrlEn then 20
  else 200

/-- `agc_ctrl_interval_ms`. -/
def agcCtrlIntervalMs (configuredMs : UInt16) : UInt64 :=
  let interval := configuredMs.toUInt64 / 5
  if interval < 50 then 50 else interval

/-- What one look of the AGC at a level leads to: a step in decibels, whether
the decision is put off, and when the level fell below its target. -/
structure AgcDecision where
  step : Int
  deferred : Bool
  decaySinceMs : UInt64
deriving DecidableEq, Repr

/-- `clamp_int`. -/
def clampInt (value minimum maximum : Int) : Int :=
  if value < minimum then minimum
  else if value > maximum then maximum
  else value

/-- The AGC under the control of the application. -/
def decideControlled (agc : AgcParams) (stream : TunerStream)
    (error : Float) (now : UInt64) : AgcDecision :=
  let since := now - stream.agcLastAdjustMs
  if error > 1.5 then
    if since ≥ agcCtrlIntervalMs agc.attackMs then
      ⟨clampInt (ceiling (error * 0.4)) 1 24, false, 0⟩
    else ⟨0, true, 0⟩
  else
    let threshold :=
      if agc.decayThresholdDb > 0 then
        Float.ofNat agc.decayThresholdDb.toNat
      else 1.5
    if error < -threshold then
      let interval := agcCtrlIntervalMs agc.decayMs
      let decaySince :=
        if stream.agcDecaySinceMs = 0 then now else stream.agcDecaySinceMs
      if now ≥ decaySince + agc.decayDelayMs.toUInt64 + interval ∧
          since ≥ interval then
        ⟨-clampInt (ceiling (-error * 0.8)) 1 24, false, decaySince⟩
      else ⟨0, true, decaySince⟩
    else ⟨0, false, 0⟩

/-- The AGC of a fixed rate. -/
def decidePeriodic (stream : TunerStream) (error : Float) (now : UInt64) :
    AgcDecision :=
  if now - stream.agcLastAdjustMs ≥ agcPeriodMs stream.agcMode then
    ⟨if error > 6.0 then 3 else if error > 1.5 then 1
      else if error < -6.0 then -2 else if error < -1.5 then -1 else 0,
      false, stream.agcDecaySinceMs⟩
  else ⟨0, true, stream.agcDecaySinceMs⟩

/-- The AGC has changed a gain reduction; `backend` is the daemon's
answer. -/
def adjustGain (context : ApiContext) (tuner : TunerSelect)
    (reduction : Int32) (backend : Int) (now : UInt64) : ApiContext :=
  let changed :=
    (context.blocks.channelForTuner tuner).setGainReduction reduction
  if gainValid changed tuner ∧ 0 ≤ backend then
    match channelGainValues changed tuner with
    | some values =>
        let applied :=
          { context with
            blocks := context.blocks.modifyChannel tuner fun channel =>
                (channel.setGainReduction reduction).setGainVals values
          }.modifyStream (slotOf tuner) fun stream =>
            { stream with
              agcLastAdjustMs := now
              pendingGrChanged := stream.pendingGrChanged + 1 }
        let lnaReduction :=
          (rspduoLnaGainReduction changed.tunerParams.rfFreq.rfHz
            changed.tunerParams.gain.lnaState).getD 0
        (applied.queueEvent
          ⟨.gainChange, tuner, .gain reduction.toUInt32 lnaReduction.toUInt32 values.curr.toBits⟩).2
    | none => context
  else context

/-- One look of `agc_thread_main` at a tuner.  `now` and `later` are the
readings of the clock. -/
def agcTick (libm : Libm) (context : ApiContext) (tuner : TunerSelect)
    (backend : Int) (now later : UInt64) : ApiContext :=
  let stream := context.streams (slotOf tuner)
  let taken :=
    context.modifyStream (slotOf tuner) fun stream =>
      { stream with agcPeak := 0 }
  if stream.agcMode = agcDisable ∨ stream.agcPeak = 0 ∨
      context.initialized = false then
    taken
  else
    let channel := context.blocks.channelForTuner tuner
    let level :=
      20.0 * libm.log10 (Float.ofNat stream.agcPeak.toNat / 32767.0)
    let target :=
      clampInt stream.agcSetpoint.toInt
        (agcMinimumSetpoint context.blocks.devParams.fsHz).toInt
        (agcMaximumSetpoint channel.tunerParams.gain).toInt
    let error := level - Float.ofInt target
    let decision :=
      if stream.agcMode = agcCtrlEn then
        decideControlled channel.ctrlParams.agc stream error now
      else decidePeriodic stream error now
    let decided :=
      taken.modifyStream (slotOf tuner) fun stream =>
        { stream with agcDecaySinceMs := decision.decaySinceMs }
    if decision.step = 0 then
      if decision.deferred then
        decided.modifyStream (slotOf tuner) fun restored =>
          { restored with agcPeak := stream.agcPeak }
      else decided
    else if stream.syncWaiting then decided
    else
      let old := channel.tunerParams.gain.gRdB
      let reduction :=
        Int32.ofInt (clampInt (old.toInt + decision.step)
          channel.tunerParams.gain.minGr.toInt32.toInt 59)
      if reduction = old then decided
      else decided.adjustGain tuner reduction backend later

/-- The tuners the AGC looks at. -/
def agcTuner (context : ApiContext) (second : Bool) : TunerSelect :=
  context.blocks.frameTuner second

/-! ## Updates -/

/-- The reasons that reconfigure a filter. -/
def dspReasons : UInt32 :=
  updateCtrlDcOffsetIqImbalance ||| updateTunerLoMode |||
    updateCtrlAdsbMode ||| updateCtrlDecimation ||| updateDevFs |||
    updateTunerIfType

/-- The filters an update leads to, or none if one cannot be configured. -/
def configureFilters (libm : Libm) (channel : RxChannelParams)
    (fsHz : Float) (reason : UInt32) (filters : SampleFilters) :
    Option SampleFilters := do
  let iqCorrection ←
    if names reason
        (updateCtrlDcOffsetIqImbalance ||| updateTunerLoMode ||| updateDevFs) then
      configureIqCorrection channel fsHz
    else some filters.iqCorrection
  let adsbFilter ←
    if names reason (updateCtrlAdsbMode ||| updateDevFs) then
      AdsbFilter.configure libm fsHz channel.ctrlParams.adsbMode
    else some filters.adsbFilter
  let decimator ←
    if names reason updateCtrlDecimation then
      Decimator.configure libm channel.ctrlParams.decimation.factor
    else some filters.decimator
  let lowIf :=
    if names reason (updateDevFs ||| updateTunerIfType) then
      LowIfDsp.configure libm fsHz channel.tunerParams.ifFrequencyHz
    else filters.lowIf
  return ⟨iqCorrection, adsbFilter, lowIf, decimator⟩

/-- The callback size of a sample rate. -/
def callbackSizeFor (fsHz : Float) : CallbackDevice.CallbackSize :=
  if fsHz > 9216000.0 then .large else .standard

/-- `update_failure_code`. -/
def updateFailureCode (reason : UInt32) : ApiError :=
  if names reason (updateTunerGr ||| updateTunerGrLimits) then
    .gainUpdateError
  else if names reason updateTunerFrf then .rfUpdateError
  else if names reason (updateDevFs ||| updateDevPpm) then .fsUpdateError
  else .hwError

/-- Whether the AGC parameters are in range. -/
def agcValid (channel : RxChannelParams) (fsHz : Float) : Bool :=
  let agc := channel.ctrlParams.agc
  decide (agc.enable ≤ agcCtrlEn) &&
    decide (agcMinimumSetpoint fsHz ≤ agc.setPointDbfs) &&
    decide (agc.setPointDbfs ≤ agcMaximumSetpoint channel.tunerParams.gain)

/-- What an update announces. -/
structure Announcement where
  fsChanged : Bool
  rfChanged : Bool
  grChanged : Bool
deriving DecidableEq, Repr

def announcementOf (reason : UInt32) : Announcement where
  fsChanged := names reason (updateDevFs ||| updateDevPpm)
  rfChanged := names reason updateTunerFrf
  grChanged := names reason (updateTunerGr ||| updateTunerGrLimits) || names reason updateTunerFrf

/-- The state an update installs before it asks the daemon. -/
def installUpdate (context : ApiContext) (tuner : TunerSelect)
    (reason : UInt32) (filters : SampleFilters) (now : UInt64) : ApiContext :=
  let channel := context.blocks.channelForTuner tuner
  let fsHz := context.blocks.devParams.fsHz
  let sized :=
    { context with
      callbackSamples :=
        if (announcementOf reason).fsChanged then callbackSizeFor fsHz
        else context.callbackSamples }
  let installed :=
    sized.modifyStream (slotOf tuner) fun stream =>
      if names reason updateCtrlAgc ∧ agcValid channel fsHz then
        { stream with
          filters := filters
          agcPeak := 0
          agcMode := channel.ctrlParams.agc.enable
          agcSetpoint := channel.ctrlParams.agc.setPointDbfs
          agcLastAdjustMs := now
          agcDecaySinceMs := 0 }
      else { stream with filters := filters }
  if names reason updateCtrlOverloadMsgAck then
    installed.acknowledgeOverload tuner
  else installed

/-- A failed update puts the AGC and the filters back. -/
def rollBackUpdate (context before : ApiContext) (tuner : TunerSelect)
    (reason : UInt32) : ApiContext :=
  let saved := before.streams (slotOf tuner)
  let restored :=
    context.modifyStream (slotOf tuner) fun stream =>
      if names reason updateCtrlAgc then
        { stream with
          filters := saved.filters
          agcMode := saved.agcMode
          agcSetpoint := saved.agcSetpoint
          agcLastAdjustMs := 0
          agcDecaySinceMs := 0 }
      else { stream with filters := saved.filters }
  if names reason dspReasons then
    { restored with callbackSamples := before.callbackSamples }
  else restored

/-- The frame or the pending changes that announce an update. -/
def announce (context : ApiContext) (tuner : TunerSelect)
    (announcement : Announcement) (acknowledged : Bool) : ApiContext :=
  if acknowledged then
    context.queueFrame
      (CallbackDevice.updateAck tuner
        (context.streams (slotOf tuner)).sampleNumber announcement.fsChanged
        announcement.rfChanged announcement.grChanged)
  else
    context.modifyStream (slotOf tuner) fun stream =>
      { stream with
        pendingFsChanged :=
          if announcement.fsChanged then stream.pendingFsChanged + 1
          else stream.pendingFsChanged
        pendingRfChanged :=
          if announcement.rfChanged then stream.pendingRfChanged + 1
          else stream.pendingRfChanged
        pendingGrChanged :=
          if announcement.grChanged then stream.pendingGrChanged + 1
          else stream.pendingGrChanged }

/-- The gain values after an update; none if there are none. -/
def refreshGainVals (context : ApiContext) (tuner : TunerSelect)
    (reason : UInt32) : Option ApiContext :=
  if (announcementOf reason).grChanged ∨
      names reason updateAmPortSelect then
    (channelGainValues (context.blocks.channelForTuner tuner) tuner).map
      fun values =>
        { context with
          blocks := context.blocks.modifyChannel tuner fun channel =>
              channel.setGainVals values }
  else some context

/-- `sdrplay_api_Update` for one tuner, once validated and past its boundary.
`backend` is the daemon's answer: positive for an acknowledged change. -/
def applyUpdate (libm : Libm) (context : ApiContext) (tuner : TunerSelect)
    (reason : UInt32) (backend : Int) (now : UInt64) :
    ApiError × ApiContext :=
  if reason = updateNone then (.success, context)
  else
    let channel := context.blocks.channelForTuner tuner
    let fsHz := context.blocks.devParams.fsHz
    let stream := context.streams (slotOf tuner)
    let configured :=
      if names reason updateCtrlAgc ∧ !agcValid channel fsHz then none
      else configureFilters libm channel fsHz reason stream.filters
    let installed :=
      context.installUpdate tuner reason (configured.getD stream.filters) now
    if configured.isSome ∧ 0 ≤ backend then
      match installed.refreshGainVals tuner reason with
      | some refreshed =>
          (.success, refreshed.announce tuner (announcementOf reason) (decide (0 < backend)))
      | none =>
          (updateFailureCode reason, (installed.announce tuner (announcementOf reason)
              false).rollBackUpdate context tuner reason)
    else
      (updateFailureCode reason, installed.rollBackUpdate context tuner reason)

/-- `Update_Dev_SyncUpdate` for a slot. -/
def scheduleUpdate (context : ApiContext) (slot : Tuner) : ApiContext :=
  context.modifyStream slot fun stream =>
    { stream with
      syncUpdate := stream.syncUpdate.schedule .all context.blocks.devParams.syncSampleNum
          context.blocks.devParams.syncPeriod }

/-- The categories the reset flags name. -/
def resetCategories (devParams : DevParams) : SyncCategories where
  gain := devParams.resetGainUpdate != 0
  rf := devParams.resetRfUpdate != 0
  fs := devParams.resetFsUpdate != 0

/-- The device parameters after a reset. -/
def clearResetFlags (devParams : DevParams) : DevParams :=
  { devParams with
    fsSyncUpdate :=
      if (resetCategories devParams).fs then 0 else devParams.fsSyncUpdate
    resetGainUpdate := 0
    resetRfUpdate := 0
    resetFsUpdate := 0 }

/-- `Update_Dev_ResetFlags` for a tuner or for both. -/
def resetSchedules (context : ApiContext) (tuner : TunerSelect) :
    ApiContext :=
  let reset := resetCategories context.blocks.devParams
  let clear (stream : TunerStream) : TunerStream :=
    { stream with syncUpdate := stream.syncUpdate.reset reset }
  let blocks :=
    { context.blocks with
      devParams := clearResetFlags context.blocks.devParams }
  if tuner = .both then
    { (context.modifyStream .a clear).modifyStream .b clear with
      blocks :=
        { blocks with
          channelA := blocks.channelA.clearSync reset
          channelB := blocks.channelB.clearSync reset } }
  else
    { context.modifyStream (slotOf tuner) clear with
      blocks := blocks.modifyChannel tuner fun channel => channel.clearSync reset }

/-- The categories an update of a channel waits for. -/
def waitCategories (channel : RxChannelParams) (reason : UInt32)
    (fsSync : Bool) : SyncCategories where
  gain := (names reason updateTunerGr &&
        channel.tunerParams.gain.syncUpdate != 0) ||
      (names reason updateCtrlAgc && channel.ctrlParams.agc.syncUpdate != 0)
  rf := names reason updateTunerFrf && channel.tunerParams.rfFreq.syncUpdate != 0
  fs := fsSync

/-- The next boundary of a set of categories; none if one of them has no
schedule. -/
def nextBoundary (state : SyncUpdate) (current : UInt32) :
    List SyncCategory → UInt32 → Option UInt32 × SyncUpdate
  | [], target => (some target, state)
  | category :: rest, target =>
      match state.next category current with
      | (none, state) => (none, state)
      | (some candidate, state) =>
          nextBoundary state current rest
            (if (candidate - target).toInt32 > 0 then candidate else target)

/-- `wait_for_sync_boundary` up to its loop. -/
def targetBoundary (context : ApiContext) (slot : Tuner)
    (categories : SyncCategories) : Option UInt32 × ApiContext :=
  let stream := context.streams slot
  let found :=
    nextBoundary stream.syncUpdate stream.sampleNumber categories.toList stream.sampleNumber
  (found.1, context.modifyStream slot fun stream =>
      { stream with syncUpdate := found.2 })

/-- Whether the AGC of a tuner is to hold still. -/
def setSyncWaiting (context : ApiContext) (tuner : TunerSelect) (waiting : Bool) : ApiContext :=
  let set (stream : TunerStream) : TunerStream :=
    { stream with syncWaiting := waiting }
  if tuner = .both then (context.modifyStream .a set).modifyStream .b set
  else context.modifyStream (slotOf tuner) set

/-- The answers to the two tuners' updates and the time. -/
structure UpdateAnswers where
  backendA : Int
  backendB : Int
  now : UInt64
deriving DecidableEq, Repr

def UpdateAnswers.backend (answers : UpdateAnswers) (tuner : TunerSelect) :
    Int :=
  if tuner = .b then answers.backendB else answers.backendA

/-- A nested call of `sdrplay_api_Update` for one tuner of a pair; what it
would wait for has been waited for. -/
def updateOne (libm : Libm) (context : ApiContext) (tuner : TunerSelect)
    (reason extension : UInt32) (answers : UpdateAnswers) :
    ApiError × ApiContext :=
  match validateUpdate libm context.blocks tuner reason extension with
  | .success =>
      context.applyUpdate libm tuner reason (answers.backend tuner) answers.now
  | error => (error, context)

/-- The update of both tuners, tuner A first. -/
def updateBoth (libm : Libm) (context : ApiContext)
    (reason extension : UInt32) (answers : UpdateAnswers) :
    ApiError × ApiContext :=
  match context.updateOne libm .a reason extension answers with
  | (.success, updated) =>
      updated.updateOne libm .b reason extension answers
  | failed => failed

/-- An update past its boundary. -/
def performUpdate (libm : Libm) (context : ApiContext) (tuner : TunerSelect)
    (reason extension : UInt32) (answers : UpdateAnswers) :
    ApiError × ApiContext :=
  if tuner = .both then context.updateBoth libm reason extension answers
  else
    context.applyUpdate libm tuner reason (answers.backend tuner) answers.now

/-- Start waiting for the boundary of a slot. -/
def waitFor (context : ApiContext) (wait : UpdateWait) (slot : Tuner)
    (categories : SyncCategories) : Option ApiError × ApiContext :=
  match context.targetBoundary slot categories with
  | (some target, found) =>
      (none,
        { found with
          updating := some { wait with slot := slot, target := target } })
  | (none, found) =>
      (some .serviceNotResponding,
        { found.setSyncWaiting wait.tuner false with updating := none })

/-- The schedule and the reset flags of an update. -/
def prepareUpdate (context : ApiContext) (tuner : TunerSelect)
    (reason extension : UInt32) : ApiContext :=
  let scheduled :=
    if names reason updateDevSyncUpdate then
      if tuner = .both then
        (context.scheduleUpdate .a).scheduleUpdate .b
      else context.scheduleUpdate (slotOf tuner)
    else context
  let reset :=
    if names reason updateDevResetFlags then scheduled.resetSchedules tuner
    else scheduled
  if names extension updateResetSlaveFlags ∧ tuner ≠ .both then
    { reset with
      blocks := reset.blocks.modifyChannel tuner fun channel =>
          { channel with
            rspDuoTunerParams :=
              { channel.rspDuoTunerParams with
                resetSlaveGainUpdate := 0
                resetSlaveRfUpdate := 0 } } }
  else reset

/-- The reasons left after `prepareUpdate`. -/
def remainingReasons (reason : UInt32) : UInt32 :=
  reason &&& ~~~(updateDevSyncUpdate ||| updateDevResetFlags)

/-- `validate_update` for a tuner or for both. -/
def validateTuners (libm : Libm) (blocks : DeviceBlocks)
    (tuner : TunerSelect) (reason extension : UInt32) : ApiError :=
  if tuner = .both then
    match validateUpdate libm blocks .a reason extension with
    | .success => validateUpdate libm blocks .b reason extension
    | error => error
  else validateUpdate libm blocks tuner reason extension

/-- Whether `sdrplay_api_Update` takes a tuner. -/
def acceptsTuner (blocks : DeviceBlocks) (tuner : TunerSelect) : Bool :=
  if blocks.mode = .dualTuner then
    tuner == .a || tuner == .b || tuner == .both
  else tuner == blocks.tuner

/-- What an update waits for, if it waits.  The sample rate is shared, so an
update of both tuners does not wait for its category. -/
def updateWait (blocks : DeviceBlocks) (tuner : TunerSelect)
    (reason extension : UInt32) : UpdateWait :=
  let fsSync :=
    names reason updateDevFs && blocks.devParams.fsSyncUpdate != 0
  { tuner := tuner
    reason := reason
    extension := extension
    categoriesA :=
      if tuner = .b then .none
      else
        waitCategories blocks.channelA reason (tuner != .both && fsSync)
    categoriesB :=
      if tuner = .both then waitCategories blocks.channelB reason false
      else if tuner = .b then waitCategories blocks.channelB reason fsSync
      else .none
    slot := .a
    target := 0 }

/-- `sdrplay_api_Update` up to its wait, or to its end if it does not
wait. -/
def beginUpdate (libm : Libm) (context : ApiContext) (tuner : TunerSelect)
    (reason extension : UInt32) (answers : UpdateAnswers) :
    Option ApiError × ApiContext :=
  if !acceptsTuner context.blocks tuner then (some .invalidParam, context)
  else if !context.initialized ∨ !context.backend then
    (some .notInitialised, context)
  else
    match validateTuners libm context.blocks tuner reason extension with
    | .success =>
        let prepared := context.prepareUpdate tuner reason extension
        let remaining := remainingReasons reason
        let wait := updateWait prepared.blocks tuner remaining extension
        if wait.categoriesA ≠ .none then
          (prepared.setSyncWaiting tuner true).waitFor wait .a wait.categoriesA
        else if wait.categoriesB ≠ .none then
          (prepared.setSyncWaiting tuner true).waitFor wait .b wait.categoriesB
        else
          let performed :=
            prepared.performUpdate libm tuner remaining extension answers
          (some performed.1, performed.2)
    | error => (some error, context)

/-- The updates of a wait are made: their schedules are consumed if they
succeed. -/
def finishWait (libm : Libm) (context : ApiContext) (wait : UpdateWait)
    (answers : UpdateAnswers) : Option ApiError × ApiContext :=
  let released :=
    if wait.tuner = .both then context
    else context.setSyncWaiting wait.tuner false
  let performed :=
    released.performUpdate libm wait.tuner wait.reason wait.extension answers
  let quiet := performed.2.setSyncWaiting wait.tuner false
  let consume (slot : Tuner) (categories : SyncCategories)
      (context : ApiContext) : ApiContext :=
    context.modifyStream slot fun stream =>
      { stream with
        syncUpdate := stream.syncUpdate.consume categories stream.sampleNumber }
  let consumed :=
    if performed.1 = .success ∧ wait.reason ≠ updateNone then
      let first :=
        if wait.categoriesA ≠ .none then consume .a wait.categoriesA quiet
        else quiet
      if wait.categoriesB ≠ .none then consume .b wait.categoriesB first
      else first
    else quiet
  (some performed.1, { consumed with updating := none })

/-- One look of a waiting update at the sample count.  `timedOut` says that
its five seconds are over. -/
def awaitUpdate (libm : Libm) (context : ApiContext) (timedOut : Bool)
    (answers : UpdateAnswers) : Option ApiError × ApiContext :=
  match context.updating with
  | none => (none, context)
  | some wait =>
      let sampleNumber := (context.streams wait.slot).sampleNumber
      if context.streamState < 0 then
        (some .serviceNotResponding,
          { context.setSyncWaiting wait.tuner false with updating := none })
      else if (sampleNumber - wait.target).toInt32 ≥ 0 then
        if wait.slot = .a ∧ wait.categoriesB ≠ .none then
          context.waitFor wait .b wait.categoriesB
        else context.finishWait libm wait answers
      else if timedOut then
        (some .serviceNotResponding,
          { context.setSyncWaiting wait.tuner false with updating := none })
      else (none, context)

/-! ## Init and Uninit -/

/-- What Init finds outside: memory, the daemon's answers and the threads. -/
structure InitOutcomes where
  buffers : Bool
  opened : Bool
  configure : Int
  callbackThread : Bool
  start : Int
  agcThread : Bool
deriving DecidableEq, Repr

/-- `-(int)OPENRSP_STATUS_START_PENDING`. -/
def startPendingStatus : Int := -5

/-- The gain values Init stores: those of tuner A, then those of tuner B. -/
def initGainVals (blocks : DeviceBlocks) : Option DeviceBlocks × DeviceBlocks :=
  let valuesA :=
    let gain := blocks.channelA.tunerParams.gain
    openrspRspduoGainValues blocks.channelA.tunerParams.rfFreq.rfHz
      gain.lnaState gain.gRdB gain.minGr.toInt32
      (blocks.channelA.rspDuoTunerParams.tuner1AmPortSel == amPort1)
  let valuesB :=
    let gain := blocks.channelB.tunerParams.gain
    openrspRspduoGainValues blocks.channelB.tunerParams.rfFreq.rfHz
      gain.lnaState gain.gRdB gain.minGr.toInt32 false
  let storeB (blocks : DeviceBlocks) :
      Option DeviceBlocks × DeviceBlocks :=
    if blocks.tuner ≠ .a then
      match valuesB with
      | some values =>
          let stored :=
            { blocks with channelB := blocks.channelB.setGainVals values }
          (some stored, stored)
      | none => (none, blocks)
    else (some blocks, blocks)
  if blocks.tuner ≠ .b then
    match valuesA with
    | some values =>
        storeB { blocks with channelA := blocks.channelA.setGainVals values }
    | none => (none, blocks)
  else storeB blocks

/-- The filters Init configures for a channel. -/
def initFilters (libm : Libm) (channel : RxChannelParams) (fsHz : Float) :
    Option SampleFilters := do
  let iqCorrection ← configureIqCorrection channel fsHz
  let adsbFilter ←
    AdsbFilter.configure libm fsHz channel.ctrlParams.adsbMode
  let decimator ←
    Decimator.configure libm channel.ctrlParams.decimation.factor
  let lowIf :=
    LowIfDsp.configure libm fsHz channel.tunerParams.ifFrequencyHz
  return ⟨iqCorrection, adsbFilter, lowIf, decimator⟩

/-- The shared parameters dual-tuner mode asks for. -/
def dualBlocksValid (blocks : DeviceBlocks) : Bool :=
  let fsHz := blocks.devParams.fsHz
  (fsHz == 6000000.0 || fsHz == 8000000.0) &&
    blocks.channelA.tunerParams.ifType == (if fsHz == 6000000.0 then 1620 else 2048) &&
    blocks.channelB.tunerParams.ifType == blocks.channelA.tunerParams.ifType &&
    decide (blocks.channelA.tunerParams.bwType ≤ bw1536) &&
    decide (blocks.channelB.tunerParams.bwType ≤ bw1536)

/-- The filters Init configures, tuner by tuner, and the error that stops
it. -/
def initAllFilters (libm : Libm) (blocks : DeviceBlocks) :
    Option ApiError × (Tuner → Option SampleFilters) :=
  let fsHz := blocks.devParams.fsHz
  match initFilters libm (blocks.channelForTuner blocks.tuner) fsHz with
  | none => (some .outOfRange, fun _ => none)
  | some first =>
      let firstOnly : Tuner → Option SampleFilters :=
        Function.update (fun _ => none) (slotOf blocks.tuner) (some first)
      if blocks.mode = .dualTuner then
        if !dualBlocksValid blocks then (some .invalidMode, firstOnly)
        else
          match initFilters libm blocks.channelB fsHz with
          | none => (some .outOfRange, firstOnly)
          | some second =>
              (none, Function.update firstOnly .b (some second))
      else (none, firstOnly)

/-- Install the filters that have been configured. -/
def installFilters (context : ApiContext) (filters : Tuner → Option SampleFilters) : ApiContext :=
  { context with
    streams := fun slot =>
      { context.streams slot with
        filters := (filters slot).getD (context.streams slot).filters } }

/-- Give back the connection, unless it belongs to a master or a slave. -/
def dropBackend (context : ApiContext) : ApiContext :=
  if context.blocks.duoRole = .none then { context with backend := false }
  else context

/-- The stream of a tuner as Init leaves it. -/
def initStream (blocks : DeviceBlocks) (slot : Tuner) (stream : TunerStream) : TunerStream :=
  let agc :=
    match slot with
    | .a => (blocks.channelForTuner blocks.tuner).ctrlParams.agc
    | .b => blocks.channelB.ctrlParams.agc
  { stream with
    lastIqSequence :=
      match slot with
      | .a => 0
      | .b => stream.lastIqSequence
    iqSequenceSeen := false
    sampleNumber := 0
    firstCallback := true
    agcPeak := 0
    agcMode := agc.enable
    agcSetpoint := agc.setPointDbfs }

/-- Whether Init goes on with a device and callbacks. -/
def initChecks (libm : Libm) (context : ApiContext) (callbacks : CallbackFns) : ApiError :=
  let blocks := context.blocks
  let fsHz := blocks.devParams.fsHz
  if !context.selected then .invalidParam
  else if !callbacks.streamA ∨
      (blocks.mode = .dualTuner ∧ !callbacks.streamB) then
    .invalidParam
  else if context.initialized then .alreadyInitialised
  else if !validateDspConfiguration libm
        (blocks.channelForTuner blocks.tuner) fsHz ∨
      (blocks.mode = .dualTuner ∧ !validateDspConfiguration libm blocks.channelB fsHz) then
    .outOfRange
  else .success

/-- The context once the callback thread runs and the fields are reset. -/
def startSession (context : ApiContext) (callbacks : CallbackFns) :
    ApiContext :=
  { context with
    callbacks := callbacks
    callback :=
      { context.callback with
        mode := context.blocks.mode }.startStreamCallbackThread
    streams := fun slot =>
      initStream context.blocks slot (context.streams slot)
    streamState := 0
    callbackSamples := callbackSizeFor context.blocks.devParams.fsHz
    initialized := true
    starting := true }

/-- The callback thread is joined and what was queued is gone. -/
def stopSession (context : ApiContext) : ApiContext :=
  { context with
    initialized := false
    starting := false
    callback :=
      { context.callback with
        streamCallbackStop := true
        streamQueue := context.callback.streamQueue.clear } }

/-- `sdrplay_api_Init` from the connection to the start of the stream. -/
def connectAndStart (context : ApiContext) (callbacks : CallbackFns)
    (outcomes : InitOutcomes) : Option ApiError × ApiContext :=
  if !context.backend ∧ !outcomes.opened then (some .hwError, context)
  else
    let connected := { context with backend := true }
    if outcomes.configure < 0 then (some .hwError, connected.dropBackend)
    else if !outcomes.callbackThread then
      (some .outOfMemError,
        { connected.dropBackend with callbacks := ⟨false, false, false⟩ })
    else
      let started := connected.startSession callbacks
      if outcomes.start ≠ 0 then
        if outcomes.start = startPendingStatus then
          (some .startPending, started.stopSession)
        else (some .hwError, started.stopSession.dropBackend)
      else if !outcomes.agcThread then
        (some .startPending, started.stopSession.dropBackend)
      else (none, started)

/-- `sdrplay_api_Init` up to the wait for the first IQ. -/
def beginInit (libm : Libm) (context : ApiContext) (callbacks : CallbackFns)
    (outcomes : InitOutcomes) : Option ApiError × ApiContext :=
  match context.initChecks libm callbacks with
  | .success =>
      match initGainVals context.blocks with
      | (none, blocks) => (some .outOfRange, { context with blocks := blocks })
      | (some blocks, _) =>
          let valued := { context with blocks := blocks }
          if !outcomes.buffers then (some .hwError, valued)
          else
            let configured := initAllFilters libm blocks
            let filtered := valued.installFilters configured.2
            match configured.1 with
            | some error => (some error, filtered)
            | none => filtered.connectAndStart callbacks outcomes
  | error => (some error, context)

/-- The end of `sdrplay_api_Init`.  `gaveUp` says that its thirty seconds are
over, `gain` is the daemon's answer to the first gain. -/
def finishInit (context : ApiContext) (gaveUp : Bool) (gain : Int) :
    Option ApiError × ApiContext :=
  if !context.starting then (none, context)
  else if context.streamState = 0 ∧ !gaveUp then (none, context)
  else if context.streamState ≠ 1 ∨ gain < 0 then
    (some .hwError, context.stopSession.dropBackend)
  else (some .success, { context with starting := false })

/-- `-(int)OPENRSP_STATUS_STOP_PENDING`. -/
def stopPendingStatus : Int := -6

/-- `sdrplay_api_Uninit`; `stopped` is the daemon's answer to a master or a
slave.  It returns once the event thread has delivered what is queued. -/
def uninit (context : ApiContext) (stopped : Int) :
    ApiError × List ApiEvent × ApiContext :=
  if !context.initialized then (.notInitialised, [], context)
  else if context.blocks.duoRole ≠ .none ∧ stopped = stopPendingStatus then
    (.stopPending, [], context)
  else if context.blocks.duoRole ≠ .none ∧ stopped ≠ 0 then
    (.hwError, [], context)
  else
    (.success, if context.callbacks.event then context.events.waiting else [],
      { context.stopSession.dropBackend with
        callbacks := ⟨false, false, false⟩
        events :=
          { context.events with
            eventDispatching := false
            eventQueue := context.events.eventQueue.clear } })

end ApiContext

/-! ## The context after Open -/

/-- The channel parameters of `reset_parameters`. -/
def defaultChannel : RxChannelParams where
  tunerParams :=
    { bwType := 200
      ifType := ifZero
      loMode := loAuto
      gain := ⟨50, 0, 0, normalMinGr, ⟨0.0, 0.0, 0.0⟩⟩
      rfFreq := ⟨200000000.0, 0⟩
      dcOffsetTuner := ⟨3, 0, 1, 2048⟩ }
  ctrlParams :=
    { dcOffset := ⟨1, 1⟩
      decimation := ⟨0, 1⟩
      agc := ⟨agc50Hz, -60, 0, 0, 0, 0, 0⟩
      adsbMode := 0 }
  rspDuoTunerParams := ⟨0, amPort2, 0, 0, 0, 0, 0⟩

/-- The stream of a tuner after `reset_parameters`. -/
def defaultStream (libm : Libm) : TunerStream where
  lastIqSequence := 0
  iqSequenceSeen := false
  sampleNumber := 0
  firstCallback := false
  pendingGrChanged := 0
  pendingRfChanged := 0
  pendingFsChanged := 0
  agcPeak := 0
  agcMode := agc50Hz
  agcSetpoint := -60
  agcLastAdjustMs := 0
  agcDecaySinceMs := 0
  overload := ⟨false, false, false⟩
  filters :=
    { iqCorrection :=
        (configureIqCorrection defaultChannel 2000000.0).getD (.configure false false)
      adsbFilter := (AdsbFilter.configure libm 2000000.0 0).getD ⟨.decimation, 0, 0, [], [], []⟩
      lowIf := .configure libm 2000000.0 0
      decimator := ⟨1, 0, 0, 0, [], [], []⟩ }
  syncUpdate := .init
  syncWaiting := false

/-- `reset_parameters` and `start_event_thread`. -/
def resetParameters (libm : Libm) : ApiContext where
  blocks :=
    { mode := .singleTuner
      tuner := .a
      duoRole := .none
      devParams := ⟨0.0, 2000000.0, 0, 0, 0, 0, 0, 0, 0⟩
      channelA := defaultChannel
      channelB := defaultChannel }
  identity := ⟨0, 0, 0, []⟩
  selected := false
  initialized := false
  starting := false
  updating := none
  backend := false
  callbacks := ⟨false, false, false⟩
  callback :=
    { mode := .singleTuner
      streamQueue :=
        { slots := fun _ =>
            CallbackDevice.updateAck .neither 0 false false false
          head := 0
          count := 0
          headBound := Nat.zero_lt_succ _
          countBound := Nat.zero_le _ }
      streamCallbackStop := false
      streamCallbackPaused := false
      streamCallbackDropCount := 0
      streamCallbackNextSample := 0
      streamCallbackNextSampleB := 0
      streamCallbackSeen := false
      streamCallbackSeenB := false }
  streams := fun _ => defaultStream libm
  streamState := 0
  callbackSamples := .standard
  events := EventDevice.startEventThread

/-! ## Steps -/

/-- What happens to a context, with what comes from outside. -/
inductive SessionAction where
  | edit (devParams : DevParams) (channelA channelB : RxChannelParams)
  | beginInit (callbacks : CallbackFns) (outcomes : ApiContext.InitOutcomes)
  | finishInit (gaveUp : Bool) (gain : Int)
  | uninit (stopped : Int)
  | beginUpdate (tuner : TunerSelect) (reason extension : UInt32)
      (answers : ApiContext.UpdateAnswers)
  | awaitUpdate (timedOut : Bool) (answers : ApiContext.UpdateAnswers)
  | frame (frame : DaemonFrame)
  | turn
  | agcTick (second : Bool) (backend : Int) (now later : UInt64)
  | daemonEvent (event : ApiEvent) (fails : Bool)
  | takeEvent
  | finishDispatch

/-- What an application sees. -/
inductive SessionOutput where
  | stream (callback : StreamCallback)
  | event (event : ApiEvent)
  | update (result : ApiError)
  | init (result : ApiError)
  | uninit (result : ApiError)
deriving DecidableEq, Repr

namespace ApiContext

/-- One step.  The application makes one call at a time, and the daemon's
messages arrive while a session runs. -/
def step (libm : Libm) (context : ApiContext) :
    SessionAction → ApiContext × List SessionOutput
  | .edit devParams channelA channelB =>
      ({ context with
          blocks :=
            { context.blocks with
              devParams := devParams
              channelA := channelA
              channelB := channelB } }, [])
  | .beginInit callbacks outcomes =>
      if context.starting ∨ context.updating.isSome then (context, [])
      else
        let begun := context.beginInit libm callbacks outcomes
        (begun.2, begun.1.toList.map .init)
  | .finishInit gaveUp gain =>
      let finished := context.finishInit gaveUp gain
      (finished.2, finished.1.toList.map .init)
  | .uninit stopped =>
      if context.starting ∨ context.updating.isSome then (context, [])
      else
        let stopped := context.uninit stopped
        (stopped.2.2, stopped.2.1.map .event ++ [.uninit stopped.1])
  | .beginUpdate tuner reason extension answers =>
      if context.starting ∨ context.updating.isSome then (context, [])
      else
        let begun :=
          context.beginUpdate libm tuner reason extension answers
        (begun.2, begun.1.toList.map .update)
  | .awaitUpdate timedOut answers =>
      let awaited := context.awaitUpdate libm timedOut answers
      (awaited.2, awaited.1.toList.map .update)
  | .frame frame =>
      if context.initialized then
        (context.daemonStreamCallback libm frame, [])
      else (context, [])
  | .turn =>
      if context.initialized then
        let turn :=
          context.callback.streamCallbackThreadTurn fun _ => context.callbackSamples
        ({ context with callback := turn.1 }, turn.2.map .stream)
      else (context, [])
  | .agcTick second backend now later =>
      if context.initialized then
        (context.agcTick libm (context.agcTuner second) backend now later, [])
      else (context, [])
  | .daemonEvent event fails =>
      if context.initialized then
        let queued := (context.queueEvent event).2
        (if fails then { queued with streamState := -1 } else queued, [])
      else (context, [])
  | .takeEvent =>
      let taken := context.events.takeEvent
      ({ context with events := taken.2 },
        if context.callbacks.event then taken.1.toList.map .event else [])
  | .finishDispatch =>
      ({ context with events := context.events.finishDispatch }, [])

end ApiContext

end OpenRsp
