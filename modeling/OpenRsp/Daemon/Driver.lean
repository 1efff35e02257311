import OpenRsp.Daemon.State

/-!
# Driver calls

The calls of `mirisdr.h` the daemon makes on its open handle.  Each returns
the next result of its kind and records what it wrote.  The single-tuner
setters act on the tuner the handle was opened for.
-/

namespace OpenRsp

/-- What a register holds after a write with the given result. -/
def written {α : Type} (result : Int) (value : α) : Option α :=
  if result = 0 then some value else none

/-- Write the registers of the tuner a handle was opened for. -/
def Radio.writeTuned (radio : Radio) (write : ChannelRegisters → ChannelRegisters) : Radio :=
  radio.writeChannel radio.tuner write

/-- The registers of the tuner a handle was opened for. -/
def Radio.tuned (radio : Radio) : ChannelRegisters := radio.channel radio.tuner

/-- `p->freq = freq`. -/
def Radio.setFreq (radio : Radio) (frequency : Option UInt32) : Radio :=
  { radio with frequency := frequency }

section Calls

variable (environment : Environment)

/-- Call the driver on the open handle. -/
def driverCall (world : World) (call : Call) (effect : Int → Radio → Radio) :
    Int × World :=
  (world.result environment call, (world.advance call).modify fun daemon =>
      { daemon with
        radio := daemon.radio.map (effect (world.result environment call)) })

/-- `mirisdr_set_sample_rate`. -/
def mirisdrSetSampleRate (world : World) (rate : UInt32) : Int × World :=
  driverCall environment world .setSampleRate fun result radio =>
    radio.writeTuned fun registers =>
      { registers with sampleRate := written result rate }

/-- `mirisdr_set_center_freq`. -/
def mirisdrSetCenterFreq (world : World) (frequency : UInt32) : Int × World :=
  driverCall environment world .setCenterFreq fun result radio =>
    (radio.setFreq (written result frequency)).writeTuned fun registers =>
      { registers with centerFrequency := written result frequency }

/-- `mirisdr_set_bandwidth`. -/
def mirisdrSetBandwidth (world : World) (bandwidth : UInt32) : Int × World :=
  driverCall environment world .setBandwidth fun result radio =>
    radio.writeTuned fun registers =>
      { registers with bandwidth := written result bandwidth }

/-- `mirisdr_set_if_freq`. -/
def mirisdrSetIfFreq (world : World) (frequency : UInt32) : Int × World :=
  driverCall environment world .setIfFreq fun result radio =>
    radio.writeTuned fun registers =>
      { registers with ifFrequency := written result frequency }

/-- `mirisdr_set_rspduo_gain`. -/
def mirisdrSetRspduoGain (world : World) (gainReduction : Int32) (lnaState : UInt32) :
    Int × World :=
  driverCall environment world .setRspduoGain fun result radio =>
    radio.writeTuned fun registers =>
      { registers with
        gainReduction := written result gainReduction
        lnaState := written result lnaState }

/-- `mirisdr_configure_rspduo` with the arguments `apply_config` passes. -/
def mirisdrConfigureRspduo (world : World) (config : RadioConfig) : Int × World :=
  driverCall environment world .configureRspduo fun result radio =>
    (radio.setFreq (written result config.centerFrequencyHz)).writeTuned fun _ =>
      { sampleRate := written result config.sampleRateHz
        centerFrequency := written result config.centerFrequencyHz
        bandwidth := written result config.bandwidthHz
        ifFrequency := written result config.ifFrequencyHz.toUInt32
        gainReduction := written result config.gainReductionDb
        lnaState := written result config.lnaState }

/-- What `mirisdr_configure_rspduo_dual` writes for one tuner.  Sample rate,
IF and bandwidth are shared; the daemon passes those of channel A. -/
def dualRegisters (result : Int) (config : DualConfig) (channel : RadioConfig) :
    ChannelRegisters :=
  { sampleRate := written result config.sampleRateHz
    centerFrequency := written result channel.centerFrequencyHz
    bandwidth := written result config.channelA.bandwidthHz
    ifFrequency := written result config.channelA.ifFrequencyHz.toUInt32
    gainReduction := written result channel.gainReductionDb
    lnaState := written result channel.lnaState }

/-- `mirisdr_configure_rspduo_dual` with the arguments
`configure_dual_radio` passes.  Tuner B is tuned last. -/
def mirisdrConfigureRspduoDual (world : World) (config : DualConfig) : Int × World :=
  driverCall environment world .configureRspduoDual fun result radio =>
    { radio with
      frequency := written result config.channelB.centerFrequencyHz
      channelA := dualRegisters result config config.channelA
      channelB := dualRegisters result config config.channelB }

/-- `mirisdr_update_rspduo_dual` for the tuner of a configuration. -/
def mirisdrUpdateRspduoDual (world : World) (config : RadioConfig) : Int × World :=
  driverCall environment world .updateRspduoDual fun result radio =>
    (radio.setFreq (written result config.centerFrequencyHz)).writeChannel config.tuner
      fun registers =>
        { registers with
          centerFrequency := written result config.centerFrequencyHz
          gainReduction := written result config.gainReductionDb
          lnaState := written result config.lnaState }

/-- The controls left by `mirisdr_set_rspduo_controls`, which stores all it
is given before it looks at the flags. -/
def ControlRegisters.write (controls : ControlRegisters) (result : Int) (config : RadioConfig) :
    ControlRegisters :=
  let shared :=
    { controls with
      externalReference := written result config.externalReferenceEnabled
      amPort := written result (if config.amPortSelect ≠ 0 then 1 else 2)
      amNotch := written result config.amNotchEnabled }
  if config.tuner = tunerB then
    { shared with
      biasTeeB := written result config.biasTeeEnabled
      rfNotchB := written result config.rfNotchEnabled
      dabNotchB := written result config.dabNotchEnabled }
  else
    { shared with
      biasTeeA := written result config.biasTeeEnabled
      rfNotchA := written result config.rfNotchEnabled
      dabNotchA := written result config.dabNotchEnabled }

/-- `mirisdr_set_soft` for the AM port, which is an input of tuner A: that
tuner is set to `p->freq`, whichever tuner was tuned last. -/
def Radio.setSoft (radio : Radio) (result : Int) : Radio :=
  { radio with
    channelA :=
      { radio.channelA with
        centerFrequency := if result = 0 then radio.frequency else none } }

/-- `mirisdr_set_rspduo_controls`. -/
def mirisdrSetRspduoControls
    (world : World) (config : RadioConfig) (flags : UInt32) : Int × World :=
  driverCall environment world .setRspduoControls fun result radio =>
    let stored := { radio with controls := radio.controls.write result config }
    if hasFlag flags changeAmPort then stored.setSoft result else stored

/-- `mirisdr_streaming_stop`. -/
def mirisdrStreamingStop (world : World) : Int × World :=
  driverCall environment world .streamingStop fun _ radio => radio

/-- A handle as `mirisdr_open_tuner` leaves it. -/
def Radio.fresh (handle : Nat) (index tuner : UInt32) : Radio :=
  { handle := handle
    index := index
    tuner := tuner
    frequency := none
    channelA := .unwritten
    channelB := .unwritten
    controls := .opened }

/-- `mirisdr_open_tuner(&state->radio, index, tuner)`: the pointer is null
unless the call succeeded. -/
def mirisdrOpenTuner (world : World) (index tuner : UInt32) : Int × World :=
  (world.result environment .openTuner, ((world.advance .openTuner).logOpening
      ⟨index, world.daemon.acquiredIdentity, world.inventory environment⟩).modify fun daemon =>
      { daemon with
        radio := written (world.result environment .openTuner)
            (Radio.fresh (world.used .openTuner) index tuner) })

/-! ## Writing to a socket -/

/-- `write_frame` and `write_control_frame`: the result and the trace. -/
def writeFrame (world : World) (descriptor : Int) (frame : Frame) : Int × World :=
  (world.result environment .socketWrite,
    { world.advance .socketWrite with
      sent := world.sent ++
        [⟨descriptor, frame, decide (world.result environment .socketWrite = 0)⟩] })

/-- `send_duo_event`. -/
def sendDuoEvent (world : World) (event : DuoEvent) : Int × World :=
  if event.kind = .none ∨ event.targetFd < 0 then (0, world)
  else
    writeFrame environment world event.targetFd (.duo event.kind event.tuner)

end Calls

end OpenRsp
