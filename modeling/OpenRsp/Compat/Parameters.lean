import OpenRsp.Compat.Filters
import OpenRsp.Compat.GainValues
import OpenRsp.Compat.StreamCallbacks
import OpenRsp.DuoSession
import OpenRsp.Protocol

/-!
# The parameter blocks

The device and channel parameters an application edits, `validate_update`
and `fill_radio_config_tuner` of `compat/sdrplay_api_compat.c`.  The blocks
are shared memory: an update names the changed fields in a mask of reasons,
and only those are checked, while the request sent to the daemon is filled
from all of them.

Enumerations an application stores are numbers here, since nothing keeps it
from storing others.
-/

namespace OpenRsp

open Doubles

/-! ## Blocks -/

/-- `sdrplay_api_ErrT`. -/
inductive ApiError where
  | success
  | fail
  | invalidParam
  | outOfRange
  | gainUpdateError
  | rfUpdateError
  | fsUpdateError
  | hwError
  | aliasingError
  | alreadyInitialised
  | notInitialised
  | notEnabled
  | hwVerError
  | outOfMemError
  | serviceNotResponding
  | startPending
  | stopPending
  | invalidMode
deriving DecidableEq, Repr

/-- `sdrplay_api_GainT`. -/
structure GainParams where
  gRdB : Int32
  lnaState : UInt8
  syncUpdate : UInt8
  minGr : UInt32
  gainVals : GainValues
deriving DecidableEq, Repr

/-- `sdrplay_api_RfFreqT`. -/
structure RfFreqParams where
  rfHz : Float
  syncUpdate : UInt8
deriving DecidableEq, Repr

/-- `sdrplay_api_DcOffsetTunerT`. -/
structure DcOffsetTunerParams where
  dcCal : UInt8
  speedUp : UInt8
  trackTime : Int32
  refreshRateTime : Int32
deriving DecidableEq, Repr

/-- `sdrplay_api_TunerParamsT`. -/
structure TunerParams where
  bwType : UInt32
  ifType : Int32
  loMode : UInt32
  gain : GainParams
  rfFreq : RfFreqParams
  dcOffsetTuner : DcOffsetTunerParams
deriving DecidableEq, Repr

/-- `sdrplay_api_DcOffsetT`. -/
structure DcOffsetParams where
  dcEnable : UInt8
  iqEnable : UInt8
deriving DecidableEq, Repr

/-- `sdrplay_api_DecimationT`. -/
structure DecimationParams where
  enable : UInt8
  decimationFactor : UInt8
deriving DecidableEq, Repr

/-- `sdrplay_api_AgcT`. -/
structure AgcParams where
  enable : UInt32
  setPointDbfs : Int32
  attackMs : UInt16
  decayMs : UInt16
  decayDelayMs : UInt16
  decayThresholdDb : UInt16
  syncUpdate : Int32
deriving DecidableEq, Repr

/-- `sdrplay_api_ControlParamsT`. -/
structure ControlParams where
  dcOffset : DcOffsetParams
  decimation : DecimationParams
  agc : AgcParams
  adsbMode : UInt32
deriving DecidableEq, Repr

/-- `sdrplay_api_RspDuoTunerParamsT`. -/
structure RspDuoTunerParams where
  biasTEnable : UInt8
  tuner1AmPortSel : UInt32
  tuner1AmNotchEnable : UInt8
  rfNotchEnable : UInt8
  rfDabNotchEnable : UInt8
  resetSlaveGainUpdate : UInt8
  resetSlaveRfUpdate : UInt8
deriving DecidableEq, Repr

/-- `sdrplay_api_RxChannelParamsT`. -/
structure RxChannelParams where
  tunerParams : TunerParams
  ctrlParams : ControlParams
  rspDuoTunerParams : RspDuoTunerParams
deriving DecidableEq, Repr

/-- `sdrplay_api_DevParamsT`. -/
structure DevParams where
  ppm : Float
  fsHz : Float
  fsSyncUpdate : UInt8
  syncSampleNum : UInt32
  syncPeriod : UInt32
  resetGainUpdate : UInt8
  resetRfUpdate : UInt8
  resetFsUpdate : UInt8
  extRefOutputEn : Int32
deriving DecidableEq, Repr

/-- The part of `compat_device_context` that says what is wanted. -/
structure DeviceBlocks where
  mode : RspDuoMode
  tuner : TunerSelect
  duoRole : DuoRole
  devParams : DevParams
  channelA : RxChannelParams
  channelB : RxChannelParams
deriving DecidableEq, Repr

/-- `channel_for_tuner`. -/
def DeviceBlocks.channelForTuner (device : DeviceBlocks) (tuner : TunerSelect) : RxChannelParams :=
  if tuner = .b then device.channelB else device.channelA

/-! ## Constants -/

def bw1536 : UInt32 := 1536
def ifZero : Int32 := 0
def loAuto : UInt32 := 1
def extendedMinGr : UInt32 := 0
def normalMinGr : UInt32 := 20
def agcDisable : UInt32 := 0
def agc100Hz : UInt32 := 1
def agc50Hz : UInt32 := 2
def agcCtrlEn : UInt32 := 4
def amPort2 : UInt32 := 0
def amPort1 : UInt32 := 1

def updateNone : UInt32 := 0x00000000
def updateDevFs : UInt32 := 0x00000001
def updateDevPpm : UInt32 := 0x00000002
def updateDevSyncUpdate : UInt32 := 0x00000004
def updateDevResetFlags : UInt32 := 0x00000008
/-- The reasons of the RSP1A and the RSP2. -/
def updateOtherModels : UInt32 := 0x00000ff0
def updateExtRefControl : UInt32 := 0x00001000
def updateMasterSpare1 : UInt32 := 0x00002000
def updateMasterSpare2 : UInt32 := 0x00004000
def updateTunerGr : UInt32 := 0x00008000
def updateTunerGrLimits : UInt32 := 0x00010000
def updateTunerFrf : UInt32 := 0x00020000
def updateTunerBwType : UInt32 := 0x00040000
def updateTunerIfType : UInt32 := 0x00080000
def updateTunerDcOffset : UInt32 := 0x00100000
def updateTunerLoMode : UInt32 := 0x00200000
def updateCtrlDcOffsetIqImbalance : UInt32 := 0x00400000
def updateCtrlDecimation : UInt32 := 0x00800000
def updateCtrlAgc : UInt32 := 0x01000000
def updateCtrlAdsbMode : UInt32 := 0x02000000
def updateCtrlOverloadMsgAck : UInt32 := 0x04000000
def updateBiasTControl : UInt32 := 0x08000000
def updateAmPortSelect : UInt32 := 0x10000000
def updateTuner1AmNotchControl : UInt32 := 0x20000000

/-- The extensions of the RSPdx. -/
def updateRspDx : UInt32 := 0x0000003f
def updateResetSlaveFlags : UInt32 := 0x00000040

/-- Whether a mask names one of the given reasons. -/
def names (mask reasons : UInt32) : Bool := mask &&& reasons != 0

/-! ## Checks of single fields -/

/-- `valid_bandwidth`. -/
def validBandwidth (bandwidth : UInt32) : Bool :=
  bandwidth == 200 || bandwidth == 300 || bandwidth == 600 ||
    bandwidth == 1536 || bandwidth == 5000 || bandwidth == 6000 ||
    bandwidth == 7000 || bandwidth == 8000

/-- `valid_if`. -/
def validIf (ifType : Int32) : Bool :=
  ifType == 0 || ifType == 450 || ifType == 1620 || ifType == 2048

/-- `agc_minimum_setpoint`. -/
def agcMinimumSetpoint (sampleRateHz : Float) : Int32 :=
  if sampleRateHz < 8064000.0 then -72
  else if sampleRateHz ≤ 9216000.0 then -60
  else -48

/-- `agc_maximum_setpoint`. -/
def agcMaximumSetpoint (gain : GainParams) : Int32 :=
  if gain.minGr = extendedMinGr then 0 else -20

/-- The ranges of `rspduo_lna_gain_reduction`. -/
inductive LnaBand where
  | below60Mhz
  | below420Mhz
  | below1Ghz
  | below2Ghz
deriving DecidableEq, Repr

/-- The reduction of each LNA state in a range, in decibels. -/
def LnaBand.reductions : LnaBand → List Int32
  | .below60Mhz => [0, 6, 12, 18, 37, 42, 61]
  | .below420Mhz => [0, 6, 12, 18, 20, 26, 32, 38, 57, 62]
  | .below1Ghz => [0, 7, 13, 19, 20, 27, 33, 39, 45, 64]
  | .below2Ghz => [0, 6, 12, 20, 26, 32, 38, 43, 62]

/-- `rspduo_lna_gain_reduction`. -/
def rspduoLnaGainReduction (rfHz : Float) (state : UInt8) : Option Int32 :=
  if rfHz < 60000000.0 then LnaBand.below60Mhz.reductions[state.toNat]?
  else if rfHz < 420000000.0 then
    LnaBand.below420Mhz.reductions[state.toNat]?
  else if rfHz < 1000000000.0 then
    LnaBand.below1Ghz.reductions[state.toNat]?
  else if rfHz ≤ 2000000000.0 then
    LnaBand.below2Ghz.reductions[state.toNat]?
  else none

/-- `rspduo_am_port_lna_state_valid`. -/
def rspduoAmPortLnaStateValid (channel : RxChannelParams) (tuner : TunerSelect) : Bool :=
  tuner != .a || channel.rspDuoTunerParams.tuner1AmPortSel != amPort1 ||
    decide (channel.tunerParams.rfFreq.rfHz ≥ 60000000.0) ||
    decide (channel.tunerParams.gain.lnaState < 5)

/-- The gain check of `validate_update` and `apply_rspduo_gain_locked`. -/
def gainValid (channel : RxChannelParams) (tuner : TunerSelect) : Bool :=
  let gain := channel.tunerParams.gain
  decide (gain.minGr.toInt32 ≤ gain.gRdB) && decide (gain.gRdB ≤ 59) &&
    (rspduoLnaGainReduction channel.tunerParams.rfFreq.rfHz gain.lnaState).isSome &&
    rspduoAmPortLnaStateValid channel tuner

/-- The factor a channel asks for. -/
def DecimationParams.factor (decimation : DecimationParams) : Nat :=
  if decimation.enable != 0 then decimation.decimationFactor.toNat else 1

/-- `(int)ifType * 1000`. -/
def TunerParams.ifFrequencyHz (params : TunerParams) : Int32 := params.ifType * 1000

/-- `configure_iq_correction`. -/
def configureIqCorrection (channel : RxChannelParams) (sampleRateHz : Float) :
    Option IqCorrection :=
  let calibration := channel.tunerParams.dcOffsetTuner
  (IqCorrection.configure (channel.ctrlParams.dcOffset.dcEnable != 0)
    (channel.ctrlParams.dcOffset.iqEnable != 0)).configureCalibration
      sampleRateHz calibration.dcCal (calibration.speedUp != 0)
      calibration.trackTime calibration.refreshRateTime

/-- Whether `validate_dsp_configuration` returns zero. -/
def validateDspConfiguration (libm : Libm) (channel : RxChannelParams)
    (sampleRateHz : Float) : Bool :=
  decide (0 < channel.tunerParams.dcOffsetTuner.trackTime) &&
    decide (0 < channel.tunerParams.dcOffsetTuner.refreshRateTime) &&
    validDecimationFactor channel.ctrlParams.decimation.factor &&
    (configureIqCorrection channel sampleRateHz).isSome &&
    (AdsbFilter.configure libm sampleRateHz channel.ctrlParams.adsbMode).isSome

/-! ## Updates -/

/-- `validate_update`. -/
def validateUpdate (libm : Libm) (device : DeviceBlocks)
    (tuner : TunerSelect) (reason extension : UInt32) : ApiError :=
  let channel := device.channelForTuner tuner
  let fsHz := device.devParams.fsHz
  let rfHz := channel.tunerParams.rfFreq.rfHz
  let agc := channel.ctrlParams.agc
  if names extension (~~~0x7f) then .invalidParam
  else if names extension updateRspDx then .hwVerError
  else if names extension updateResetSlaveFlags ∧
      (device.mode ≠ .master ∨ device.duoRole ≠ .master) then
    .invalidMode
  else if names reason updateOtherModels then .hwVerError
  else if names reason (updateAmPortSelect ||| updateTuner1AmNotchControl) ∧
      tuner ≠ .a then
    .outOfRange
  else if names reason updateBiasTControl ∧ tuner ≠ .b then .invalidParam
  else if channel.rspDuoTunerParams.tuner1AmPortSel ≠ amPort1 ∧
      channel.rspDuoTunerParams.tuner1AmPortSel ≠ amPort2 then
    .invalidParam
  else if device.mode = .dualTuner ∧
      names reason (updateDevFs ||| updateTunerBwType ||| updateTunerIfType) then
    .invalidMode
  else if names reason (updateMasterSpare1 ||| updateMasterSpare2) then
    .invalidParam
  else if names reason updateDevFs ∧
      (!fsHz.isFinite ∨ fsHz < 2000000.0 ∨ fsHz > 10660000.0) then
    .outOfRange
  else if names reason updateDevFs ∧
      !validateDspConfiguration libm channel fsHz then
    .outOfRange
  else if names reason updateDevPpm ∧
      (!device.devParams.ppm.isFinite ∨ device.devParams.ppm < -300.0 ∨
        device.devParams.ppm > 300.0) then
    .outOfRange
  else if names reason updateTunerFrf ∧
      (!rfHz.isFinite ∨ rfHz < 0.0 ∨ rfHz > 2000000000.0) then
    .outOfRange
  else if names reason updateTunerBwType ∧
      !validBandwidth channel.tunerParams.bwType then
    .outOfRange
  else if names reason updateTunerIfType ∧
      !validIf channel.tunerParams.ifType then
    .outOfRange
  else if names reason (updateTunerBwType ||| updateTunerIfType) ∧
      channel.tunerParams.ifType ≠ ifZero ∧
      channel.tunerParams.bwType > bw1536 then
    .invalidMode
  else if names reason updateTunerGrLimits ∧
      channel.tunerParams.gain.minGr ≠ extendedMinGr ∧
      channel.tunerParams.gain.minGr ≠ normalMinGr then
    .invalidParam
  else if names reason
        (updateTunerGr ||| updateTunerGrLimits ||| updateAmPortSelect) ∧
      !gainValid channel tuner then
    .outOfRange
  -- The interface maps the DcOffset reason to `loMode` and the LoMode reason
  -- to `dcOffsetTuner`.
  else if names reason updateTunerDcOffset ∧
      channel.tunerParams.loMode ≠ loAuto then
    .invalidMode
  else if names reason updateCtrlDecimation ∧
      !validDecimationFactor channel.ctrlParams.decimation.factor then
    .outOfRange
  else if names reason updateTunerLoMode ∧
      (channel.tunerParams.dcOffsetTuner.trackTime ≤ 0 ∨
        channel.tunerParams.dcOffsetTuner.refreshRateTime ≤ 0) then
    .outOfRange
  else if names reason updateCtrlAgc ∧
      (agc.enable > agcCtrlEn ∨
        agc.setPointDbfs < agcMinimumSetpoint fsHz ∨
        agc.setPointDbfs > agcMaximumSetpoint channel.tunerParams.gain) then
    .outOfRange
  else if names reason updateCtrlAdsbMode ∧
      (AdsbFilter.configure libm fsHz channel.ctrlParams.adsbMode).isNone then
    .outOfRange
  else .success

/-- A truth value as the protocol sends it. -/
def flagWord (flag : Bool) : UInt32 :=
  if flag then 1 else 0

theorem flagWord_le (flag : Bool) : flagWord flag ≤ 1 := by
  cases flag <;> decide

/-- The centre frequency after the correction of the crystal. -/
def correctedFrequency (rfHz ppm : Float) : Float := rfHz / (1.0 + ppm / 1000000.0)

/-- `fill_radio_config_tuner`.  There is no configuration when a frequency
cannot be converted. -/
def fillRadioConfigTuner (device : DeviceBlocks) (tuner : TunerSelect) :
    Option RadioConfig :=
  let channel := device.channelForTuner tuner
  let duo := channel.rspDuoTunerParams
  let bandwidthHz := channel.tunerParams.bwType * 1000
  match toUInt32? device.devParams.fsHz,
      toUInt32? (correctedFrequency channel.tunerParams.rfFreq.rfHz device.devParams.ppm) with
  | some sampleRateHz, some centerFrequencyHz =>
      some
        { sampleRateHz := sampleRateHz
          centerFrequencyHz := centerFrequencyHz
          bandwidthHz :=
            if device.duoRole ≠ .none ∧ bandwidthHz > 1536000 then 1536000
            else bandwidthHz
          ifFrequencyHz := channel.tunerParams.ifFrequencyHz
          gainReductionDb := channel.tunerParams.gain.gRdB
          lnaState := channel.tunerParams.gain.lnaState.toUInt32
          agcMode := channel.ctrlParams.agc.enable.toInt32
          agcSetpointDbfs := channel.ctrlParams.agc.setPointDbfs
          tuner := if tuner = .b then tunerB else tunerA
          biasTeeEnabled := flagWord (duo.biasTEnable != 0)
          rfNotchEnabled := flagWord (duo.rfNotchEnable != 0)
          dabNotchEnabled := flagWord (duo.rfDabNotchEnable != 0)
          externalReferenceEnabled := flagWord (device.devParams.extRefOutputEn != 0)
          amPortSelect := duo.tuner1AmPortSel
          amNotchEnabled := flagWord (duo.tuner1AmNotchEnable != 0) }
  | _, _ => none

end OpenRsp
