import OpenRsp.Library.Doubles

/-!
# The sample filters

`compat/iq_correction.c`, `compat/adsb_filter.c`, `compat/low_if_dsp.c` and
the decimator of `compat/sdrplay_api_compat.c`.  A filter is a state and a
step that takes one sample and gives back one or none; configuring it builds
the whole state anew.  Doubles are `Float`; of the mathematics library only
what `Float` lacks is left open.
-/

namespace OpenRsp

open Doubles

/-- An I and a Q sample. -/
abbrev IqSample := Int16 × Int16

/-- The functions of the C mathematics library. -/
structure Libm where
  sin : Float → Float
  cos : Float → Float
  log10 : Float → Float
  hypot : Float → Float → Float

/-- The functions `Float` has. -/
def floatLibm : Libm := ⟨Float.sin, Float.cos, Float.log10, fun x y => (x * x + y * y).sqrt⟩

/-- Pass samples through a filter step by step. -/
def runFilter {σ : Type} (step : σ → IqSample → σ × Option IqSample) :
    σ → List IqSample → σ × List IqSample
  | state, [] => (state, [])
  | state, sample :: samples =>
      let stepped := step state sample
      let rest := runFilter step stepped.1 samples
      (rest.1, stepped.2.toList ++ rest.2)

/-- `clamp_sample` of the filters that compute in doubles. -/
def clampSample (value : Float) : Int16 :=
  if value > 32767.0 then 32767
  else if value < -32768.0 then -32768
  else Int16.ofInt (lround value)

/-- `pi` as the filters write it. -/
def pi : Float := 3.14159265358979323846

/-- The sinc of a tap at a distance from the centre. -/
def sinc (libm : Libm) (cutoff offset : Float) : Float :=
  if offset == 0.0 then 2.0 * cutoff
  else libm.sin (2.0 * pi * cutoff * offset) / (pi * offset)

/-! ## DC and IQ correction -/

/-- `OPENRSP_IQ_ESTIMATOR_ALPHA`. -/
def openrspIqEstimatorAlpha : Float := 1.0 / 256.0

/-- `openrsp_iq_correction`. -/
structure IqCorrection where
  dcEnabled : Bool
  iqEnabled : Bool
  dcI : Float
  dcQ : Float
  powerI : Float
  powerQ : Float
  crossIq : Float
  leakage : Float
  gain : Float
  coefficientSamples : UInt64
  dcCal : UInt8
  dcAlpha : Float
  samplesSinceRefresh : UInt64
  calibrationWindowSamples : UInt64
  refreshSamples : UInt64
deriving DecidableEq, Repr

namespace IqCorrection

/-- `openrsp_iq_correction_configure`, whose callers pass truth values. -/
def configure (dcEnable iqEnable : Bool) : IqCorrection where
  dcEnabled := dcEnable
  iqEnabled := iqEnable
  dcI := 0.0
  dcQ := 0.0
  powerI := 0.0
  powerQ := 0.0
  crossIq := 0.0
  leakage := 0.0
  gain := 0.0
  coefficientSamples := 0
  dcCal := 3
  dcAlpha := openrspIqEstimatorAlpha
  samplesSinceRefresh := 0
  calibrationWindowSamples := 0
  refreshSamples := 0

/-- `reset_estimates`. -/
def resetEstimates (correction : IqCorrection) : IqCorrection :=
  { correction with
    dcI := 0.0
    dcQ := 0.0
    powerI := 0.0
    powerQ := 0.0
    crossIq := 0.0
    leakage := 0.0
    gain := 1.0
    coefficientSamples := 0
    samplesSinceRefresh := 0 }

/-- The microseconds of a number of calibration periods. -/
def calibrationUs (dcCal : UInt8) (periods : Int32) : Float :=
  Float.ofNat (if dcCal = 0 then 1 else dcCal.toNat) * 3.0 *
    Float.ofInt periods.toInt

/-- `openrsp_iq_correction_configure_calibration`. -/
def configureCalibration (correction : IqCorrection) (sampleRateHz : Float)
    (dcCal : UInt8) (speedUp : Bool) (trackTime refreshRateTime : Int32) :
    Option IqCorrection :=
  if !sampleRateHz.isFinite ∨ sampleRateHz ≤ 0.0 ∨ trackTime ≤ 0 ∨
      refreshRateTime ≤ 0 then
    none
  else
    let tracked :=
      sampleRateHz * calibrationUs dcCal trackTime / 1000000.0
    let trackingSamples := if tracked < 16.0 then 16.0 else tracked
    let alpha := (if speedUp then 4.0 else 1.0) / trackingSamples
    let refreshSamples :=
      (sampleRateHz * calibrationUs dcCal refreshRateTime / 1000000.0).toUInt64
    some (resetEstimates
      { correction with
        dcCal := dcCal
        calibrationWindowSamples := trackingSamples.toUInt64
        dcAlpha := if alpha > 0.25 then 0.25 else alpha
        refreshSamples := if refreshSamples < 1 then 1 else refreshSamples })

/-- Follow the DC offset of one sample. -/
def trackDc (correction : IqCorrection) (inputI inputQ : Float) :
    IqCorrection :=
  if correction.dcEnabled then
    let calibrated :=
      correction.dcCal != 0 && correction.refreshSamples != 0
    let advanced := correction.samplesSinceRefresh + 1
    let since :=
      if calibrated then
        if advanced ≥ correction.refreshSamples then 0 else advanced
      else correction.samplesSinceRefresh
    let alpha :=
      if correction.dcCal = 0 then 0.0
      else if since > correction.calibrationWindowSamples then 0.0
      else correction.dcAlpha
    { correction with
      samplesSinceRefresh := since
      dcI := correction.dcI + alpha * (inputI - correction.dcI)
      dcQ := correction.dcQ + alpha * (inputQ - correction.dcQ) }
  else { correction with dcI := 0.0, dcQ := 0.0 }

/-- The gain that equalises Q to I, within its limits. -/
def limitGain (gain : Float) : Float :=
  let raised := if gain < 0.25 then 0.25 else gain
  if raised > 4.0 then 4.0 else raised

/-- Follow the powers of the two channels. -/
def trackPowers (correction : IqCorrection) (outputI outputQ : Float) :
    IqCorrection :=
  let alpha := openrspIqEstimatorAlpha
  let tracked :=
    { correction with
      powerI := correction.powerI + alpha * (outputI * outputI - correction.powerI)
      powerQ := correction.powerQ + alpha * (outputQ * outputQ - correction.powerQ)
      crossIq := correction.crossIq + alpha * (outputI * outputQ - correction.crossIq)
      coefficientSamples := correction.coefficientSamples + 1 }
  if tracked.coefficientSamples &&& 255 = 0 ∧ tracked.powerI > 1.0 ∧
      tracked.powerQ > 1.0 then
    { tracked with
      leakage := tracked.crossIq / tracked.powerI
      gain := limitGain (tracked.powerI / tracked.powerQ).sqrt }
  else tracked

/-- One turn of `openrsp_iq_correction_process`. -/
def processSample (correction : IqCorrection) (sample : IqSample) :
    IqCorrection × Option IqSample :=
  let inputI := ofInt16 sample.1
  let inputQ := ofInt16 sample.2
  let centred := correction.trackDc inputI inputQ
  let outputI := inputI - centred.dcI
  let outputQ := inputQ - centred.dcQ
  if centred.iqEnabled then
    let tracked := centred.trackPowers outputI outputQ
    (tracked, some (clampSample outputI,
        clampSample ((outputQ - tracked.leakage * outputI) * tracked.gain)))
  else
    ({ centred with
        powerI := 0.0
        powerQ := 0.0
        crossIq := 0.0
        leakage := 0.0
        gain := 1.0
        coefficientSamples := 0 },
      some (clampSample outputI, clampSample outputQ))

/-- `openrsp_iq_correction_process`. -/
def process : IqCorrection → List IqSample → IqCorrection × List IqSample := runFilter processSample

end IqCorrection

/-! ## The ADS-B filter -/

/-- `openrsp_adsb_mode`. -/
inductive AdsbMode where
  | decimation
  | noDecimationLowpass
  | noDecimationBandpass2Mhz
  | noDecimationBandpass3Mhz
deriving DecidableEq, Repr

/-- The mode of a number that passes `valid_mode`. -/
def AdsbMode.ofNumber? (number : UInt32) : Option AdsbMode :=
  if number = 0 then some .decimation
  else if number = 1 then some .noDecimationLowpass
  else if number = 2 then some .noDecimationBandpass2Mhz
  else if number = 3 then some .noDecimationBandpass3Mhz
  else none

/-- `openrsp_adsb_filter`. -/
structure AdsbFilter where
  mode : AdsbMode
  taps : Nat
  position : Nat
  coefficients : List Int32
  historyI : List Int16
  historyQ : List Int16
deriving DecidableEq, Repr

namespace AdsbFilter

/-- `OPENRSP_ADSB_MAX_TAPS`. -/
def openrspAdsbMaxTaps : Nat := 17

/-- `OPENRSP_ADSB_COEFFICIENT_SCALE`. -/
def openrspAdsbCoefficientScale : Int := 1073741824

/-- The windowed tap of the ADS-B filter. -/
def tap (libm : Libm) (cutoff : Float) (index : Nat) : Float :=
  let last := Float.ofNat (openrspAdsbMaxTaps - 1)
  let center := (Float.ofNat openrspAdsbMaxTaps - 1.0) * 0.5
  let window :=
    0.42 - 0.5 * libm.cos (2.0 * pi * Float.ofNat index / last) +
      0.08 * libm.cos (4.0 * pi * Float.ofNat index / last)
  sinc libm cutoff (Float.ofNat index - center) * window

/-- `openrsp_adsb_filter_configure`. -/
def configure (libm : Libm) (sampleRateHz : Float) (mode : UInt32) :
    Option AdsbFilter :=
  if !sampleRateHz.isFinite ∨ sampleRateHz ≤ 0.0 then none
  else
    match AdsbMode.ofNumber? mode with
    | none => none
    | some .decimation =>
        some
          { mode := .decimation
            taps := 1
            position := 0
            coefficients := [Int32.ofInt openrspAdsbCoefficientScale]
            historyI := List.replicate (2 * openrspAdsbMaxTaps) 0
            historyQ := List.replicate (2 * openrspAdsbMaxTaps) 0 }
    | some mode =>
        let bandwidthHz :=
          if mode = .noDecimationBandpass3Mhz then 3000000.0 else 2000000.0
        let cutoffHz := bandwidthHz * 0.5
        let transitionHz := bandwidthHz * 0.1
        if cutoffHz + transitionHz ≥ sampleRateHz * 0.5 then none
        else
          let cutoff := (cutoffHz + transitionHz) / sampleRateHz
          let taps := (List.range openrspAdsbMaxTaps).map (tap libm cutoff)
          let sum := taps.foldl (· + ·) 0.0
          if sum.abs < 1e-12 then none
          else
            some
              { mode := mode
                taps := openrspAdsbMaxTaps
                position := 0
                coefficients := taps.map fun value =>
                    Int32.ofInt (lround (value / sum * Float.ofInt openrspAdsbCoefficientScale))
                historyI := List.replicate (2 * openrspAdsbMaxTaps) 0
                historyQ := List.replicate (2 * openrspAdsbMaxTaps) 0 }

/-- `openrsp_adsb_filter_reset`. -/
def reset (filter : AdsbFilter) : AdsbFilter :=
  { filter with
    historyI := List.replicate (2 * openrspAdsbMaxTaps) 0
    historyQ := List.replicate (2 * openrspAdsbMaxTaps) 0
    position := 0 }

/-- `clamp_sample` of the ADS-B filter: a shift towards zero. -/
def clampScaled (scaled : Int64) : Int16 :=
  let value := if scaled ≥ 0 then scaled >>> 30 else -((-scaled) >>> 30)
  if value > 32767 then 32767
  else if value < -32768 then -32768
  else value.toInt16

/-- The convolution with the newest samples of a doubled history. -/
def convolve (filter : AdsbFilter) (history : List Int16) : Int64 :=
  (List.range filter.taps).foldl
    (fun sum tap =>
      sum + (filter.coefficients.getD tap 0).toInt64 *
        (history.getD (filter.position + tap) 0).toInt64) 0

/-- One turn of `openrsp_adsb_filter_process`. -/
def processSample (filter : AdsbFilter) (sample : IqSample) :
    AdsbFilter × Option IqSample :=
  let stored :=
    { filter with
      historyI :=
        (filter.historyI.set filter.position sample.1).set (filter.position + filter.taps) sample.1
      historyQ :=
        (filter.historyQ.set filter.position sample.2).set (filter.position + filter.taps) sample.2
      position := (filter.position + 1) % filter.taps }
  (stored, some (clampScaled (stored.convolve stored.historyI),
      clampScaled (stored.convolve stored.historyQ)))

/-- `openrsp_adsb_filter_process`. -/
def process (filter : AdsbFilter) (samples : List IqSample) :
    AdsbFilter × List IqSample :=
  if filter.mode = .decimation then (filter, samples)
  else runFilter processSample filter samples

end AdsbFilter

/-! ## The low-IF mixer -/

/-- `openrsp_low_if_dsp`. -/
structure LowIfDsp where
  factor : Nat
  taps : Nat
  position : Nat
  phase : Nat
  oscillatorCosine : Float
  oscillatorSine : Float
  oscillatorCosineStep : Float
  oscillatorSineStep : Float
  oscillatorSamples : UInt32
  coefficients : List Float
  historyI : List Float
  historyQ : List Float
deriving DecidableEq, Repr

/-- The normalised low-pass taps of the low-IF filter and of the
decimator. -/
def decimationTaps (libm : Libm) (factor : Nat) : List Float :=
  let taps := 16 * factor + 1
  let cutoff := 0.45 / Float.ofNat factor
  let center := (Float.ofNat taps - 1.0) / 2.0
  let values :=
    (List.range taps).map fun index =>
      let window :=
        0.54 - 0.46 * libm.cos (2.0 * pi * Float.ofNat index / Float.ofNat (taps - 1))
      sinc libm cutoff (Float.ofNat index - center) * window
  let sum := values.foldl (· + ·) 0.0
  values.map (· / sum)

namespace LowIfDsp

/-- `OPENRSP_LOW_IF_MAX_TAPS`. -/
def openrspLowIfMaxTaps : Nat := 65

/-- `openrsp_low_if_configure`, which always succeeds. -/
def configure (libm : Libm) (sampleRateHz : Float) (ifFrequencyHz : Int32) :
    LowIfDsp :=
  let factor :=
    if sampleRateHz == 6000000.0 ∧ ifFrequencyHz = 1620000 then 3
    else if sampleRateHz == 8000000.0 ∧ ifFrequencyHz = 2048000 then 4
    else 1
  let step :=
    2.0 * pi * Float.ofInt ifFrequencyHz.toInt / sampleRateHz
  { factor := factor
    taps := if factor = 1 then 0 else 16 * factor + 1
    position := 0
    phase := 0
    oscillatorCosine := 1.0
    oscillatorSine := 0.0
    oscillatorCosineStep := if factor = 1 then 0.0 else libm.cos step
    oscillatorSineStep := if factor = 1 then 0.0 else libm.sin step
    oscillatorSamples := 0
    coefficients := if factor = 1 then [] else decimationTaps libm factor
    historyI := List.replicate (2 * openrspLowIfMaxTaps) 0.0
    historyQ := List.replicate (2 * openrspLowIfMaxTaps) 0.0 }

/-- Turn the oscillator by one sample and now and then restore its
length. -/
def turnOscillator (libm : Libm) (dsp : LowIfDsp) : LowIfDsp :=
  let cosine := dsp.oscillatorCosine
  let sine := dsp.oscillatorSine
  let turned :=
    { dsp with
      oscillatorCosine := cosine * dsp.oscillatorCosineStep - sine * dsp.oscillatorSineStep
      oscillatorSine := sine * dsp.oscillatorCosineStep + cosine * dsp.oscillatorSineStep
      oscillatorSamples := dsp.oscillatorSamples + 1 }
  if turned.oscillatorSamples &&& 4095 = 0 then
    let magnitude := libm.hypot turned.oscillatorCosine turned.oscillatorSine
    { turned with
      oscillatorCosine := turned.oscillatorCosine / magnitude
      oscillatorSine := turned.oscillatorSine / magnitude }
  else turned

/-- The convolution, newest sample first. -/
def convolve (dsp : LowIfDsp) (history : List Float) : Float :=
  (List.range dsp.taps).foldl
    (fun sum tap =>
      sum + dsp.coefficients.getD tap 0.0 *
        history.getD (dsp.position + dsp.taps - 1 - tap) 0.0) 0.0

/-- One turn of `openrsp_low_if_process`. -/
def processSample (libm : Libm) (dsp : LowIfDsp) (sample : IqSample) :
    LowIfDsp × Option IqSample :=
  let inputI := ofInt16 sample.1
  let inputQ := ofInt16 sample.2
  let mixedI :=
    inputI * dsp.oscillatorCosine + inputQ * dsp.oscillatorSine
  let mixedQ :=
    inputQ * dsp.oscillatorCosine - inputI * dsp.oscillatorSine
  let turned := dsp.turnOscillator libm
  let stored :=
    { turned with
      historyI :=
        (turned.historyI.set turned.position mixedI).set (turned.position + turned.taps) mixedI
      historyQ :=
        (turned.historyQ.set turned.position mixedQ).set (turned.position + turned.taps) mixedQ
      position := (turned.position + 1) % turned.taps }
  ({ stored with phase := (stored.phase + 1) % stored.factor },
    if stored.phase = 0 then
      some (clampSample (stored.convolve stored.historyI),
        clampSample (stored.convolve stored.historyQ))
    else none)

/-- `openrsp_low_if_process`. -/
def process (libm : Libm) (dsp : LowIfDsp) (samples : List IqSample) :
    LowIfDsp × List IqSample :=
  if dsp.factor ≤ 1 then (dsp, samples)
  else runFilter (processSample libm) dsp samples

end LowIfDsp

/-! ## The decimator -/

/-- `compat_decimator`. -/
structure Decimator where
  factor : Nat
  taps : Nat
  position : Nat
  phase : Nat
  coefficients : List Float
  historyI : List Int16
  historyQ : List Int16
deriving DecidableEq, Repr

/-- `valid_decimation_factor`. -/
def validDecimationFactor (factor : Nat) : Bool :=
  factor == 1 || factor == 2 || factor == 4 || factor == 8 || factor == 16 || factor == 32

namespace Decimator

/-- `configure_decimator`. -/
def configure (libm : Libm) (factor : Nat) : Option Decimator :=
  if validDecimationFactor factor then
    some
      { factor := factor
        taps := if factor = 1 then 0 else 16 * factor + 1
        position := 0
        phase := 0
        coefficients := if factor > 1 then decimationTaps libm factor else []
        historyI := List.replicate 513 0
        historyQ := List.replicate 513 0 }
  else none

/-- The convolution over the circular history, newest sample first. -/
def convolve (decimator : Decimator) (history : List Int16) : Float :=
  (List.range decimator.taps).foldl
    (fun sum tap =>
      sum + decimator.coefficients.getD tap 0.0 *
        ofInt16 (history.getD
          ((decimator.position + decimator.taps - 1 - tap) % decimator.taps) 0)) 0.0

/-- `clamp_int` of a rounded sum. -/
def clampRounded (value : Float) : Int16 := Int16.ofInt (max (-32768) (min 32767 (lround value)))

/-- One turn of `decimate_iq`. -/
def processSample (decimator : Decimator) (sample : IqSample) :
    Decimator × Option IqSample :=
  let stored :=
    { decimator with
      historyI := decimator.historyI.set decimator.position sample.1
      historyQ := decimator.historyQ.set decimator.position sample.2
      position := (decimator.position + 1) % decimator.taps }
  ({ stored with phase := (stored.phase + 1) % stored.factor },
    if stored.phase = 0 then
      some (clampRounded (stored.convolve stored.historyI),
        clampRounded (stored.convolve stored.historyQ))
    else none)

/-- `decimate_iq`. -/
def process (decimator : Decimator) (samples : List IqSample) :
    Decimator × List IqSample :=
  if decimator.factor = 1 then (decimator, samples)
  else runFilter processSample decimator samples

end Decimator

end OpenRsp
