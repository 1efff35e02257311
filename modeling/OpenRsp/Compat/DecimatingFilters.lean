import Mathlib
import OpenRsp.Compat.AdsbConvolution
import OpenRsp.Library.DecimatedConvolution

/-!
# The decimating filters

`decimate_iq` of `compat/sdrplay_api_compat.c` and the filter of
`compat/low_if_dsp.c`, over any arithmetic.  With the arithmetic of doubles
they are the filters of `OpenRsp.Compat.Filters`.  With exact arithmetic both
give, in place and for any framing, every so manieth value of the convolution
of the whole input with their coefficients.

The decimator keeps one copy of its history and finds a tap through a
remainder; the low-IF filter keeps two copies and needs none.
-/

namespace OpenRsp

open DelayLine DecimatedConvolution

/-! ## Arithmetic -/

/-- The operations the two filters use. -/
structure Arithmetic (α : Type) where
  zero : α
  add : α → α → α
  sub : α → α → α
  mul : α → α → α
  div : α → α → α
  hypot : α → α → α
  ofInt16 : Int16 → α

/-- Doubles. -/
def floatArithmetic (libm : Libm) : Arithmetic Float where
  zero := 0.0
  add := (· + ·)
  sub := (· - ·)
  mul := (· * ·)
  div := (· / ·)
  hypot := libm.hypot
  ofInt16 := Doubles.ofInt16

/-- A field, with any function for the length of the oscillator. -/
def exactArithmetic {R : Type} [Field R] (hypot : R → R → R) :
    Arithmetic R where
  zero := 0
  add := (· + ·)
  sub := (· - ·)
  mul := (· * ·)
  div := (· / ·)
  hypot := hypot
  ofInt16 sample := sample.toInt

/-- The sum both filters accumulate over their taps. -/
def Arithmetic.tapSum {α : Type} (arithmetic : Arithmetic α) (taps : Nat)
    (coefficients : List α) (delayed : Nat → α) : α :=
  (List.range taps).foldl
    (fun sum tap =>
      arithmetic.add sum
        (arithmetic.mul (coefficients.getD tap arithmetic.zero) (delayed tap))) arithmetic.zero

/-! ## The decimator -/

/-- `compat_decimator` over an arithmetic. -/
structure DecimatorOver (α : Type) where
  factor : Nat
  taps : Nat
  position : Nat
  phase : Nat
  coefficients : List α
  historyI : List Int16
  historyQ : List Int16

namespace DecimatorOver

variable {α : Type} (arithmetic : Arithmetic α) (quantise : α → Int16)

/-- The convolution over the circular history, newest sample first. -/
def convolve (decimator : DecimatorOver α) (history : List Int16) : α :=
  arithmetic.tapSum decimator.taps decimator.coefficients fun tap =>
    arithmetic.ofInt16
      (history.getD ((decimator.position + decimator.taps - 1 - tap) % decimator.taps) 0)

/-- Store a sample in the history. -/
def store (decimator : DecimatorOver α) (sample : IqSample) :
    DecimatorOver α :=
  { decimator with
    historyI := decimator.historyI.set decimator.position sample.1
    historyQ := decimator.historyQ.set decimator.position sample.2
    position := (decimator.position + 1) % decimator.taps }

/-- One turn of `decimate_iq`. -/
def processSample (decimator : DecimatorOver α) (sample : IqSample) :
    DecimatorOver α × Option IqSample :=
  let stored := decimator.store sample
  ({ stored with phase := (stored.phase + 1) % stored.factor },
    if stored.phase = 0 then
      some (quantise (stored.convolve arithmetic stored.historyI),
        quantise (stored.convolve arithmetic stored.historyQ))
    else none)

end DecimatorOver

/-- The decimator of doubles as one over an arithmetic. -/
def Decimator.over (decimator : Decimator) : DecimatorOver Float :=
  { decimator with }

/-- The same turn. -/
theorem Decimator.over_processSample (libm : Libm) (decimator : Decimator) (sample : IqSample) :
    decimator.over.processSample (floatArithmetic libm) clampRounded sample =
      ((decimator.processSample sample).1.over, (decimator.processSample sample).2) :=
  rfl

/-! ## The low-IF filter -/

/-- The oscillator of `openrsp_low_if_dsp`. -/
structure Oscillator (α : Type) where
  cosine : α
  sine : α
  cosineStep : α
  sineStep : α
  samples : UInt32

namespace Oscillator

variable {α : Type} (arithmetic : Arithmetic α)

/-- Turn the oscillator by one sample and now and then restore its
length. -/
def turn (oscillator : Oscillator α) : Oscillator α :=
  let cosine := oscillator.cosine
  let sine := oscillator.sine
  let turned :=
    { oscillator with
      cosine := arithmetic.sub (arithmetic.mul cosine oscillator.cosineStep)
          (arithmetic.mul sine oscillator.sineStep)
      sine := arithmetic.add (arithmetic.mul sine oscillator.cosineStep)
          (arithmetic.mul cosine oscillator.sineStep)
      samples := oscillator.samples + 1 }
  if turned.samples &&& 4095 = 0 then
    let magnitude := arithmetic.hypot turned.cosine turned.sine
    { turned with
      cosine := arithmetic.div turned.cosine magnitude
      sine := arithmetic.div turned.sine magnitude }
  else turned

/-- A mixed sample. -/
def mix (oscillator : Oscillator α) (sample : IqSample) : α × α :=
  let inputI := arithmetic.ofInt16 sample.1
  let inputQ := arithmetic.ofInt16 sample.2
  (arithmetic.add (arithmetic.mul inputI oscillator.cosine)
      (arithmetic.mul inputQ oscillator.sine),
    arithmetic.sub (arithmetic.mul inputQ oscillator.cosine)
      (arithmetic.mul inputI oscillator.sine))

/-- The mixed samples of a whole input. -/
def mixed : Oscillator α → List IqSample → List (α × α)
  | _, [] => []
  | oscillator, sample :: samples =>
      oscillator.mix arithmetic sample :: mixed (oscillator.turn arithmetic) samples

end Oscillator

/-- `openrsp_low_if_dsp` over an arithmetic. -/
structure LowIfOver (α : Type) where
  factor : Nat
  taps : Nat
  position : Nat
  phase : Nat
  oscillator : Oscillator α
  coefficients : List α
  historyI : List α
  historyQ : List α

namespace LowIfOver

variable {α : Type} (arithmetic : Arithmetic α) (quantise : α → Int16)

/-- The convolution, newest sample first. -/
def convolve (dsp : LowIfOver α) (history : List α) : α :=
  arithmetic.tapSum dsp.taps dsp.coefficients fun tap =>
    history.getD (dsp.position + dsp.taps - 1 - tap) arithmetic.zero

/-- Mix a sample and store it twice in the history. -/
def store (dsp : LowIfOver α) (sample : IqSample) : LowIfOver α :=
  let mixed := dsp.oscillator.mix arithmetic sample
  { dsp with
    oscillator := dsp.oscillator.turn arithmetic
    historyI := DelayLine.store dsp.taps dsp.historyI dsp.position mixed.1
    historyQ := DelayLine.store dsp.taps dsp.historyQ dsp.position mixed.2
    position := (dsp.position + 1) % dsp.taps }

/-- One turn of `openrsp_low_if_process`. -/
def processSample (dsp : LowIfOver α) (sample : IqSample) :
    LowIfOver α × Option IqSample :=
  let stored := dsp.store arithmetic sample
  ({ stored with phase := (stored.phase + 1) % stored.factor },
    if stored.phase = 0 then
      some (quantise (stored.convolve arithmetic stored.historyI),
        quantise (stored.convolve arithmetic stored.historyQ))
    else none)

end LowIfOver

/-- The low-IF filter of doubles as one over an arithmetic. -/
def LowIfDsp.over (dsp : LowIfDsp) : LowIfOver Float where
  factor := dsp.factor
  taps := dsp.taps
  position := dsp.position
  phase := dsp.phase
  oscillator := ⟨dsp.oscillatorCosine, dsp.oscillatorSine, dsp.oscillatorCosineStep,
      dsp.oscillatorSineStep, dsp.oscillatorSamples⟩
  coefficients := dsp.coefficients
  historyI := dsp.historyI
  historyQ := dsp.historyQ

theorem LowIfDsp.turnOscillator_eq (libm : Libm) (dsp : LowIfDsp) : dsp.turnOscillator libm =
      let turned := dsp.over.oscillator.turn (floatArithmetic libm)
      { dsp with
        oscillatorCosine := turned.cosine
        oscillatorSine := turned.sine
        oscillatorCosineStep := turned.cosineStep
        oscillatorSineStep := turned.sineStep
        oscillatorSamples := turned.samples } := by
  simp only [LowIfDsp.turnOscillator, Oscillator.turn, LowIfDsp.over]
  by_cases restored : dsp.oscillatorSamples + 1 &&& 4095 = 0
  · simp only [restored, if_true]
    rfl
  · simp only [restored, if_false]
    rfl

/-- The same turn. -/
theorem LowIfDsp.over_processSample (libm : Libm) (dsp : LowIfDsp) (sample : IqSample) :
    dsp.over.processSample (floatArithmetic libm) clampSample sample =
      ((dsp.processSample libm sample).1.over, (dsp.processSample libm sample).2) := by
  unfold LowIfDsp.processSample
  rw [LowIfDsp.turnOscillator_eq]
  rfl

/-! ## In place -/

/-- The two arrays a filter reads from and writes to, and how many outputs it
has written. -/
structure IqArrays where
  xi : List Int16
  xq : List Int16
  output : Nat
deriving DecidableEq, Repr

/-- The samples written. -/
def IqArrays.outputs (arrays : IqArrays) : List IqSample :=
  (arrays.xi.take arrays.output).zip (arrays.xq.take arrays.output)

section InPlace

variable {σ : Type} (step : σ → IqSample → σ × Option IqSample)

/-- The turn of the loop that reads the sample `input`. -/
def inPlaceTurn (reached : σ × IqArrays) (input : Nat) : σ × IqArrays :=
  let arrays := reached.2
  let stepped := step reached.1 (arrays.xi.getD input 0, arrays.xq.getD input 0)
  (stepped.1,
    match stepped.2 with
    | none => arrays
    | some sample =>
        { xi := arrays.xi.set arrays.output sample.1
          xq := arrays.xq.set arrays.output sample.2
          output := arrays.output + 1 })

/-- The loop of both filters over their arrays. -/
def processInPlace (state : σ) (xi xq : List Int16) (samples : Nat) :
    σ × IqArrays :=
  (List.range samples).foldl (inPlaceTurn step) (state, ⟨xi, xq, 0⟩)

/-- Frames passed one after another. -/
def processFrames (process : σ → List Int16 → List Int16 → Nat → σ × IqArrays) :
    σ → List (List IqSample) → σ × List IqArrays
  | state, [] => (state, [])
  | state, frame :: frames =>
      let first :=
        process state (frame.map Prod.fst) (frame.map Prod.snd) frame.length
      let rest := processFrames process first.1 frames
      (rest.1, first.2 :: rest.2)

/-- Arrays that start with some outputs and are otherwise as they were. -/
def IqArrays.written (frame outputs : List IqSample) : IqArrays where
  xi := outputs.map Prod.fst ++ (frame.map Prod.fst).drop outputs.length
  xq := outputs.map Prod.snd ++ (frame.map Prod.snd).drop outputs.length
  output := outputs.length

theorem IqArrays.written_outputs (frame outputs : List IqSample) :
    (IqArrays.written frame outputs).outputs = outputs := by
  simp [IqArrays.outputs, IqArrays.written, List.zip_map']

/-- What has not been overwritten is read as it was. -/
theorem getD_written (values outputs : List Int16) (input : Nat) (ahead : outputs.length ≤ input) :
    (outputs ++ values.drop outputs.length).getD input 0 =
      values.getD input 0 := by
  rw [List.getD_eq_getElem?_getD, List.getD_eq_getElem?_getD,
    List.getElem?_append_right ahead, List.getElem?_drop]
  congr 2
  omega

/-- An output is written over a value that has been read. -/
theorem set_written (values outputs : List Int16) (value : Int16)
    (room : outputs.length < values.length) :
    (outputs ++ values.drop outputs.length).set outputs.length value =
      (outputs ++ [value]) ++ values.drop (outputs.length + 1) := by
  rw [List.set_append_right _ _ (Nat.le_refl _), Nat.sub_self,
    List.drop_eq_getElem_cons room, List.set_cons_zero, List.append_assoc]
  rfl

theorem runFilter_length_le (state : σ) (samples : List IqSample) :
    (runFilter step state samples).2.length ≤ samples.length := by
  induction samples generalizing state with
  | nil => exact Nat.le_refl _
  | cons sample samples inductionHypothesis =>
      have rest := inductionHypothesis (step state sample).1
      have one : (step state sample).2.toList.length ≤ 1 := by
        cases (step state sample).2 <;> simp
      simp only [runFilter, List.length_append, List.length_cons]
      omega

theorem runFilter_concat (state : σ) (samples : List IqSample) (sample : IqSample) :
    runFilter step state (samples ++ [sample]) =
      let reached := runFilter step state samples
      ((step reached.1 sample).1, reached.2 ++ (step reached.1 sample).2.toList) := by
  rw [runFilter_append]
  simp [runFilter]

/-- In its arrays the loop is the filter over the list of samples. -/
theorem processInPlace_eq (state : σ) (frame : List IqSample) {count : Nat}
    (within : count ≤ frame.length) :
    processInPlace step state (frame.map Prod.fst) (frame.map Prod.snd)
        count =
      ((runFilter step state (frame.take count)).1,
        .written frame (runFilter step state (frame.take count)).2) := by
  induction count with
  | zero => simp [processInPlace, runFilter, IqArrays.written]
  | succ count inductionHypothesis =>
      have inside : count < frame.length := within
      have taken :
          frame.take (count + 1) = frame.take count ++ [frame[count]] :=
        List.take_succ_eq_append_getElem inside
      have behind :=
        (runFilter_length_le step state (frame.take count)).trans (List.length_take_le count frame)
      have turned : processInPlace step state (frame.map Prod.fst)
              (frame.map Prod.snd) (count + 1) =
            inPlaceTurn step
              (processInPlace step state (frame.map Prod.fst)
                (frame.map Prod.snd) count) count := by
        simp [processInPlace, List.range_succ]
      rw [turned, inductionHypothesis (by omega), taken, runFilter_concat]
      generalize runFilter step state (frame.take count) = reached at behind ⊢
      obtain ⟨state, outputs⟩ := reached
      simp only at behind
      have readI :
          (IqArrays.written frame outputs).xi.getD count 0 = frame[count].1 := by
        have read :=
          getD_written (frame.map Prod.fst) (outputs.map Prod.fst) count (by simpa using behind)
        simpa [IqArrays.written, inside] using read
      have readQ :
          (IqArrays.written frame outputs).xq.getD count 0 = frame[count].2 := by
        have read :=
          getD_written (frame.map Prod.snd) (outputs.map Prod.snd) count (by simpa using behind)
        simpa [IqArrays.written, inside] using read
      simp only [inPlaceTurn, readI, readQ]
      cases given : (step state frame[count]).2 with
      | none => simp
      | some sample =>
          have writtenI :=
            set_written (frame.map Prod.fst) (outputs.map Prod.fst) sample.1 (by simp; omega)
          have writtenQ :=
            set_written (frame.map Prod.snd) (outputs.map Prod.snd) sample.2 (by simp; omega)
          simp only [List.length_map] at writtenI writtenQ
          simp [IqArrays.written, writtenI, writtenQ]

/-- A step that gives an output for the first of every `factor` inputs, as a
function of all inputs so far, gives every so manieth of its values. -/
theorem runFilter_every {factor : Nat} (positive : 0 < factor) (fed : σ → List IqSample → Prop)
    (reference : List IqSample → IqSample)
    (advances : ∀ state inputs sample, fed state inputs →
      fed (step state sample).1 (inputs ++ [sample]) ∧ (step state sample).2 =
          if inputs.length % factor = 0 then
            some (reference (inputs ++ [sample]))
          else none)
    {state : σ} (start : fed state []) (samples : List IqSample) :
    fed (runFilter step state samples).1 samples ∧ (runFilter step state samples).2 =
        every factor (fun index => reference (samples.take (index + 1)))
          samples.length := by
  induction samples using List.reverseRecOn with
  | nil => exact ⟨start, by simp [runFilter]⟩
  | append_singleton samples sample inductionHypothesis =>
      obtain ⟨reached, outputs⟩ := inductionHypothesis
      obtain ⟨next, given⟩ := advances _ _ sample reached
      rw [runFilter_concat]
      refine ⟨next, ?_⟩
      have earlier : every factor
              (fun index =>
                reference ((samples ++ [sample]).take (index + 1)))
              samples.length =
            every factor
              (fun index => reference (samples.take (index + 1)))
              samples.length :=
        every_congr positive fun index inside => by
          rw [List.take_append_of_le_length inside]
      have last :
          (samples ++ [sample]).take (samples.length + 1) = samples ++ [sample] :=
        List.take_of_length_le (by simp)
      rw [List.length_append, List.length_singleton, every_succ positive, earlier, last]
      simp only [given, outputs]
      congr 1
      split <;> rfl

end InPlace

/-! ## Sums over the newest inputs -/

theorem Arithmetic.tapSum_congr {α : Type} (arithmetic : Arithmetic α)
    (taps : Nat) (coefficients : List α) {delayed other : Nat → α}
    (same : ∀ tap, tap < taps → delayed tap = other tap) :
    arithmetic.tapSum taps coefficients delayed =
      arithmetic.tapSum taps coefficients other := by
  unfold Arithmetic.tapSum
  refine List.foldl_ext _ _ _ fun sum tap member => ?_
  rw [same tap (List.mem_range.mp member)]

namespace DecimatorOver

variable {α : Type} (arithmetic : Arithmetic α) (quantise : α → Int16)

/-- `decimate_iq`. -/
def decimateIq (decimator : DecimatorOver α) (xi xq : List Int16)
    (samples : Nat) : DecimatorOver α × IqArrays :=
  if decimator.factor = 1 then (decimator, ⟨xi, xq, samples⟩)
  else
    processInPlace (processSample arithmetic quantise) decimator xi xq samples

/-- The decimator `start` after it has been fed `inputs`. -/
structure Fed (start decimator : DecimatorOver α) (inputs : List IqSample) :
    Prop where
  factor : decimator.factor = start.factor
  taps : decimator.taps = start.taps
  coefficients : decimator.coefficients = start.coefficients
  phase : decimator.phase = inputs.length % start.factor
  historyI : Circular start.taps decimator.historyI decimator.position
      (newest start.taps 0 (inputs.map Prod.fst))
  historyQ : Circular start.taps decimator.historyQ decimator.position
      (newest start.taps 0 (inputs.map Prod.snd))

/-- The output for the newest of the inputs. -/
def output (start : DecimatorOver α) (inputs : List Int16) : α :=
  arithmetic.tapSum start.taps start.coefficients fun tap =>
    arithmetic.ofInt16 (inputs.reverse.getD tap 0)

/-- Both channels of the output. -/
def outputPair (start : DecimatorOver α) (inputs : List IqSample) :
    IqSample :=
  (quantise (start.output arithmetic (inputs.map Prod.fst)),
    quantise (start.output arithmetic (inputs.map Prod.snd)))

theorem convolve_eq {start decimator : DecimatorOver α}
    {history inputs : List Int16}
    (taps : decimator.taps = start.taps)
    (coefficients : decimator.coefficients = start.coefficients)
    (circular : Circular start.taps history decimator.position (newest start.taps 0 inputs)) :
    decimator.convolve arithmetic history =
      start.output arithmetic inputs := by
  rw [convolve, output, taps, coefficients]
  refine arithmetic.tapSum_congr _ _ fun tap inside => ?_
  rw [← newest_getD inside, List.getD_eq_getElem?_getD,
    List.getD_eq_getElem?_getD, ← circular.read (by omega)]
  congr 4
  omega

theorem Fed.stored {start decimator : DecimatorOver α}
    {inputs : List IqSample} (fed : start.Fed decimator inputs)
    (sample : IqSample) :
    start.Fed
      { decimator.store sample with
        phase := (decimator.phase + 1) % decimator.factor }
      (inputs ++ [sample]) where
  factor := fed.factor
  taps := fed.taps
  coefficients := fed.coefficients
  phase := by
    simp only
    rw [fed.phase, fed.factor, Nat.mod_add_mod, List.length_append, List.length_singleton]
  historyI := by
    have stored := fed.historyI.store_newest sample.1
    simp only [store, fed.taps, List.map_append, List.map_singleton]
    exact stored
  historyQ := by
    have stored := fed.historyQ.store_newest sample.2
    simp only [store, fed.taps, List.map_append, List.map_singleton]
    exact stored

theorem Fed.advances {start decimator : DecimatorOver α}
    {inputs : List IqSample} (fed : start.Fed decimator inputs)
    (sample : IqSample) :
    start.Fed (decimator.processSample arithmetic quantise sample).1
        (inputs ++ [sample]) ∧
      (decimator.processSample arithmetic quantise sample).2 =
        if inputs.length % start.factor = 0 then
          some (start.outputPair arithmetic quantise (inputs ++ [sample]))
        else none := by
  have stored := fed.stored sample
  have outputI :
      (decimator.store sample).convolve arithmetic (decimator.store sample).historyI = _ :=
    convolve_eq arithmetic fed.taps fed.coefficients stored.historyI
  have outputQ :
      (decimator.store sample).convolve arithmetic (decimator.store sample).historyQ = _ :=
    convolve_eq arithmetic fed.taps fed.coefficients stored.historyQ
  have phase : (decimator.store sample).phase = _ := fed.phase
  refine ⟨stored, ?_⟩
  simp only [processSample, outputI, outputQ, phase, outputPair]

end DecimatorOver

namespace LowIfOver

variable {α : Type} (arithmetic : Arithmetic α) (quantise : α → Int16)

/-- `openrsp_low_if_process`. -/
def process (dsp : LowIfOver α) (xi xq : List Int16) (samples : Nat) :
    LowIfOver α × IqArrays :=
  if dsp.factor ≤ 1 then (dsp, ⟨xi, xq, samples⟩)
  else
    processInPlace (processSample arithmetic quantise) dsp xi xq samples

/-- The filter `start` after it has been fed `inputs`.  Only as much of the
history is used as two copies of the taps need. -/
structure Fed (start dsp : LowIfOver α) (inputs : List IqSample) : Prop where
  factor : dsp.factor = start.factor
  taps : dsp.taps = start.taps
  coefficients : dsp.coefficients = start.coefficients
  phase : dsp.phase = inputs.length % start.factor
  oscillator : dsp.oscillator = (Oscillator.turn arithmetic)^[inputs.length] start.oscillator
  historyI : Doubled start.taps (dsp.historyI.take (2 * start.taps)) dsp.position
      (newest start.taps arithmetic.zero ((start.oscillator.mixed arithmetic inputs).map Prod.fst))
  historyQ : Doubled start.taps (dsp.historyQ.take (2 * start.taps)) dsp.position
      (newest start.taps arithmetic.zero ((start.oscillator.mixed arithmetic inputs).map Prod.snd))

/-- The output for the newest of the mixed inputs. -/
def output (start : LowIfOver α) (mixed : List α) : α :=
  arithmetic.tapSum start.taps start.coefficients fun tap =>
    mixed.reverse.getD tap arithmetic.zero

/-- Both channels of the output. -/
def outputPair (start : LowIfOver α) (inputs : List IqSample) : IqSample :=
  let mixed := start.oscillator.mixed arithmetic inputs
  (quantise (start.output arithmetic (mixed.map Prod.fst)),
    quantise (start.output arithmetic (mixed.map Prod.snd)))

theorem convolve_eq {start dsp : LowIfOver α} {history mixed : List α}
    (taps : dsp.taps = start.taps)
    (coefficients : dsp.coefficients = start.coefficients)
    (doubled : Doubled start.taps (history.take (2 * start.taps)) dsp.position
        (newest start.taps arithmetic.zero mixed)) :
    dsp.convolve arithmetic history = start.output arithmetic mixed := by
  have within := doubled.within
  rw [convolve, output, taps, coefficients]
  refine arithmetic.tapSum_congr _ _ fun tap inside => ?_
  rw [← newest_getD inside, List.getD_eq_getElem?_getD,
    List.getD_eq_getElem?_getD, ← doubled.read (by omega),
    List.getElem?_take_of_lt (by omega)]
  congr 2
  omega

theorem take_store (taps : Nat) (history : List α) (position : Nat) (value : α) (count : Nat) :
    (DelayLine.store taps history position value).take count =
      DelayLine.store taps (history.take count) position value := by
  rw [DelayLine.store, DelayLine.store, List.take_set, List.take_set]

theorem mixed_concat (oscillator : Oscillator α) (inputs : List IqSample) (sample : IqSample) :
    oscillator.mixed arithmetic (inputs ++ [sample]) = oscillator.mixed arithmetic inputs ++
        [((Oscillator.turn arithmetic)^[inputs.length] oscillator).mix arithmetic sample] := by
  induction inputs generalizing oscillator with
  | nil => rfl
  | cons first inputs inductionHypothesis =>
      simp only [List.cons_append, Oscillator.mixed, inductionHypothesis,
        List.length_cons, Function.iterate_succ_apply]

theorem Fed.stored {start dsp : LowIfOver α} {inputs : List IqSample}
    (fed : start.Fed arithmetic dsp inputs) (sample : IqSample) :
    start.Fed arithmetic
      { dsp.store arithmetic sample with
        phase := (dsp.phase + 1) % dsp.factor }
      (inputs ++ [sample]) where
  factor := fed.factor
  taps := fed.taps
  coefficients := fed.coefficients
  phase := by
    simp only
    rw [fed.phase, fed.factor, Nat.mod_add_mod, List.length_append, List.length_singleton]
  oscillator := by
    rw [List.length_append, List.length_singleton, Function.iterate_succ_apply', ← fed.oscillator]
    rfl
  historyI := by
    have stored := fed.historyI.store_newest (dsp.oscillator.mix arithmetic sample).1
    rw [mixed_concat, ← fed.oscillator, List.map_append, List.map_singleton]
    simp only [store, fed.taps, take_store]
    exact stored
  historyQ := by
    have stored := fed.historyQ.store_newest (dsp.oscillator.mix arithmetic sample).2
    rw [mixed_concat, ← fed.oscillator, List.map_append, List.map_singleton]
    simp only [store, fed.taps, take_store]
    exact stored

theorem Fed.advances {start dsp : LowIfOver α} {inputs : List IqSample}
    (fed : start.Fed arithmetic dsp inputs) (sample : IqSample) :
    start.Fed arithmetic (dsp.processSample arithmetic quantise sample).1
        (inputs ++ [sample]) ∧
      (dsp.processSample arithmetic quantise sample).2 =
        if inputs.length % start.factor = 0 then
          some (start.outputPair arithmetic quantise (inputs ++ [sample]))
        else none := by
  have stored := fed.stored arithmetic sample
  have outputI : (dsp.store arithmetic sample).convolve arithmetic
          (dsp.store arithmetic sample).historyI = _ :=
    convolve_eq arithmetic fed.taps fed.coefficients stored.historyI
  have outputQ : (dsp.store arithmetic sample).convolve arithmetic
          (dsp.store arithmetic sample).historyQ = _ :=
    convolve_eq arithmetic fed.taps fed.coefficients stored.historyQ
  have phase : (dsp.store arithmetic sample).phase = _ := fed.phase
  refine ⟨stored, ?_⟩
  simp only [processSample, outputI, outputQ, phase, outputPair]

end LowIfOver

/-! ## Frames -/

section Frames

variable {σ : Type}
  {process : σ → List Int16 → List Int16 → Nat → σ × IqArrays}

/-- Frames filtered one after another are filtered as a whole. -/
theorem processFrames_outputs (step : σ → IqSample → σ × Option IqSample) (filters : σ → Prop)
    (inPlace : ∀ state, filters state → process state = processInPlace step state)
    (kept : ∀ state sample, filters state → filters (step state sample).1)
    {state : σ} (start : filters state) (frames : List (List IqSample)) :
    (processFrames process state frames).2.flatMap IqArrays.outputs =
      (runFilter step state frames.flatten).2 := by
  have run (samples : List IqSample) (state : σ) (start : filters state) :
      filters (runFilter step state samples).1 := by
    induction samples generalizing state with
    | nil => exact start
    | cons sample samples inductionHypothesis =>
        exact inductionHypothesis _ (kept state sample start)
  induction frames generalizing state with
  | nil => rfl
  | cons frame frames inductionHypothesis =>
      have first : process state (frame.map Prod.fst) (frame.map Prod.snd)
              frame.length =
            ((runFilter step state frame).1, .written frame (runFilter step state frame).2) := by
        rw [inPlace state start, processInPlace_eq step state frame le_rfl, List.take_length]
      rw [processFrames, List.flatMap_cons, first, List.flatten_cons, runFilter_append]
      simp only [IqArrays.written_outputs]
      rw [inductionHypothesis (run frame state start)]

/-- A process that does nothing passes the frames on. -/
theorem processFrames_passed (state : σ) (passes : ∀ xi xq samples,
      process state xi xq samples = (state, ⟨xi, xq, samples⟩))
    (frames : List (List IqSample)) :
    (processFrames process state frames).2.flatMap IqArrays.outputs =
      frames.flatten := by
  induction frames with
  | nil => rfl
  | cons frame frames inductionHypothesis =>
      rw [processFrames, List.flatMap_cons, passes, List.flatten_cons]
      simp only
      rw [inductionHypothesis]
      congr 1
      rw [IqArrays.outputs, List.take_of_length_le (by simp), List.take_of_length_le (by simp)]
      simp [List.zip_map']

/-- When a turn reads a sample, neither it nor any later one has been
overwritten. -/
def KeepsUnread (step : σ → IqSample → σ × Option IqSample) : Prop :=
  ∀ state (frame : List IqSample) input, input ≤ frame.length →
    let arrays :=
      (processInPlace step state (frame.map Prod.fst) (frame.map Prod.snd) input).2
    arrays.output ≤ input ∧
      arrays.xi.drop input = (frame.map Prod.fst).drop input ∧
      arrays.xq.drop input = (frame.map Prod.snd).drop input

theorem keepsUnread (step : σ → IqSample → σ × Option IqSample) :
    KeepsUnread step := by
  intro state frame input within
  have behind :=
    (runFilter_length_le step state (frame.take input)).trans (List.length_take_le input frame)
  rw [processInPlace_eq step state frame within]
  simp only [IqArrays.written]
  refine ⟨behind, ?_, ?_⟩
  · rw [List.drop_append, List.drop_eq_nil_of_le (by simpa using behind),
      List.nil_append, List.drop_drop, List.length_map]
    congr 1
    omega
  · rw [List.drop_append, List.drop_eq_nil_of_le (by simpa using behind),
      List.nil_append, List.drop_drop, List.length_map]
    congr 1
    omega

end Frames

/-- A decimator that filters, over any arithmetic and framing. -/
theorem DecimatorOver.decimateIq_outputs {α : Type}
    (arithmetic : Arithmetic α) (quantise : α → Int16)
    {start : DecimatorOver α} (filters : 1 < start.factor)
    (fed : start.Fed start []) (frames : List (List IqSample)) :
    (processFrames (decimateIq arithmetic quantise) start
        frames).2.flatMap IqArrays.outputs =
      every start.factor
        (fun index =>
          start.outputPair arithmetic quantise (frames.flatten.take (index + 1)))
        frames.flatten.length := by
  rw [processFrames_outputs (processSample arithmetic quantise)
    (fun decimator => decimator.factor = start.factor)]
  · exact (runFilter_every (processSample arithmetic quantise)
      (Nat.zero_lt_of_lt filters) start.Fed
      (start.outputPair arithmetic quantise)
      (fun _ _ sample reached => reached.advances arithmetic quantise sample)
      fed frames.flatten).2
  · intro decimator factor
    funext xi xq samples
    exact if_neg (by omega)
  · intro decimator sample factor
    exact factor
  · rfl

/-- A low-IF filter that filters, over any arithmetic and framing. -/
theorem LowIfOver.process_outputs {α : Type} (arithmetic : Arithmetic α) (quantise : α → Int16)
    {start : LowIfOver α} (filters : 1 < start.factor)
    (fed : start.Fed arithmetic start []) (frames : List (List IqSample)) :
    (processFrames (process arithmetic quantise) start
        frames).2.flatMap IqArrays.outputs =
      every start.factor
        (fun index =>
          start.outputPair arithmetic quantise (frames.flatten.take (index + 1)))
        frames.flatten.length := by
  rw [processFrames_outputs (processSample arithmetic quantise)
    (fun dsp => dsp.factor = start.factor)]
  · exact (runFilter_every (processSample arithmetic quantise)
      (Nat.zero_lt_of_lt filters) (start.Fed arithmetic)
      (start.outputPair arithmetic quantise)
      (fun _ _ sample reached => reached.advances arithmetic quantise sample)
      fed frames.flatten).2
  · intro dsp factor
    funext xi xq samples
    exact if_neg (by omega)
  · intro dsp sample factor
    exact factor
  · rfl

theorem Oscillator.mixed_length {α : Type} (arithmetic : Arithmetic α)
    (oscillator : Oscillator α) (samples : List IqSample) :
    (oscillator.mixed arithmetic samples).length = samples.length := by
  induction samples generalizing oscillator with
  | nil => rfl
  | cons sample samples inductionHypothesis =>
      simp [Oscillator.mixed, inductionHypothesis]

theorem Oscillator.mixed_take {α : Type} (arithmetic : Arithmetic α)
    (oscillator : Oscillator α) (samples : List IqSample) (count : Nat) :
    oscillator.mixed arithmetic (samples.take count) =
      (oscillator.mixed arithmetic samples).take count := by
  induction samples generalizing oscillator count with
  | nil => simp [Oscillator.mixed]
  | cons sample samples inductionHypothesis =>
      cases count with
      | zero => rfl
      | succ count =>
          simp [Oscillator.mixed, inductionHypothesis]

/-! ## The filters of doubles -/

theorem runFilter_map {σ τ : Type} {other : τ → IqSample → τ × Option IqSample}
    {step : σ → IqSample → σ × Option IqSample} (view : σ → τ)
    (same : ∀ state sample,
      other (view state) sample = (view (step state sample).1, (step state sample).2))
    (state : σ) (samples : List IqSample) :
    runFilter other (view state) samples =
      (view (runFilter step state samples).1, (runFilter step state samples).2) := by
  induction samples generalizing state with
  | nil => rfl
  | cons sample samples inductionHypothesis =>
      simp only [runFilter, same, inductionHypothesis]

theorem IqArrays.written_self (frame : List IqSample) :
    IqArrays.written frame frame = ⟨frame.map Prod.fst, frame.map Prod.snd, frame.length⟩ := by
  simp [IqArrays.written, List.drop_eq_nil_of_le]

/-- In its arrays `decimate_iq` of doubles does what it does to a list. -/
theorem Decimator.over_decimateIq (libm : Libm) (decimator : Decimator) (frame : List IqSample) :
    decimator.over.decimateIq (floatArithmetic libm) clampRounded
        (frame.map Prod.fst) (frame.map Prod.snd) frame.length =
      ((decimator.process frame).1.over, .written frame (decimator.process frame).2) := by
  unfold DecimatorOver.decimateIq Decimator.process
  have factor : decimator.over.factor = decimator.factor := rfl
  by_cases passes : decimator.factor = 1
  · rw [factor, if_pos passes, if_pos passes, IqArrays.written_self]
  · rw [factor, if_neg passes, if_neg passes, processInPlace_eq _ _ frame le_rfl, List.take_length,
      runFilter_map Decimator.over (over_processSample libm)]

/-- So does `openrsp_low_if_process`. -/
theorem LowIfDsp.over_process (libm : Libm) (dsp : LowIfDsp) (frame : List IqSample) :
    dsp.over.process (floatArithmetic libm) clampSample
        (frame.map Prod.fst) (frame.map Prod.snd) frame.length =
      ((dsp.process libm frame).1.over, .written frame (dsp.process libm frame).2) := by
  unfold LowIfOver.process LowIfDsp.process
  have factor : dsp.over.factor = dsp.factor := rfl
  by_cases passes : dsp.factor ≤ 1
  · rw [factor, if_pos passes, if_pos passes, IqArrays.written_self]
  · rw [factor, if_neg passes, if_neg passes, processInPlace_eq _ _ frame le_rfl, List.take_length,
      runFilter_map LowIfDsp.over (over_processSample libm)]

/-! ## What the code configures -/

/-- The decimator over another arithmetic, as `configure_decimator` leaves
it. -/
def Decimator.exactly {α : Type} (decimator : Decimator)
    (coefficients : List α) : DecimatorOver α :=
  { decimator with coefficients := coefficients }

theorem Decimator.exactly_fed {α : Type} {libm : Libm} {factor : Nat}
    {decimator : Decimator}
    (configured : Decimator.configure libm factor = some decimator)
    (filters : factor ≠ 1) (coefficients : List α) :
    decimator.factor = factor ∧ 1 < factor ∧
      (decimator.exactly coefficients).Fed (decimator.exactly coefficients) [] := by
  rw [Decimator.configure, Option.ite_none_right_eq_some] at configured
  obtain ⟨valid, isDecimator⟩ := configured
  obtain rfl := Option.some.inj isDecimator
  have range : 1 < factor ∧ factor ≤ 32 := by
    simp only [validDecimationFactor, Bool.or_eq_true, beq_iff_eq] at valid
    omega
  have circular : Circular (if factor = 1 then 0 else 16 * factor + 1)
        (List.replicate 513 (0 : Int16)) 0
        (newest (if factor = 1 then 0 else 16 * factor + 1) 0 []) := by
    rw [if_neg filters, newest_nil]
    exact circular_replicate (by omega) (by omega) 0
  exact ⟨rfl, range.1, rfl, rfl, rfl, (Nat.zero_mod _).symm, circular, circular⟩

/-! ## Exact sums -/

section ExactSums

variable {R : Type} [Field R]

/-- The samples of one channel as exact numbers. -/
def exactSignal (channel : IqSample → Int16) (samples : List IqSample) :
    List R :=
  samples.map fun sample => ((channel sample).toInt : R)

/-- What a filter gives at an index before decimation: the convolution with
its coefficients.  With a factor of one there is no filter. -/
def filtered (factor taps : Nat) (coefficients : List R) (signal : List R) (index : Nat) : R :=
  if factor = 1 then signal.getD index 0
  else convolution taps (coefficients.getD · 0) signal index

theorem tapSum_exact (hypot : R → R → R) (taps : Nat) (coefficients signal : List R) {index : Nat}
    (inside : index < signal.length) :
    (exactArithmetic hypot).tapSum taps coefficients
        (fun tap => (signal.take (index + 1)).reverse.getD tap 0) =
      convolution taps (coefficients.getD · 0) signal index :=
  foldl_reverse_eq_convolution taps (coefficients.getD · 0) signal index inside

/-- Reading a converted history is converting what is read. -/
theorem getD_exactSignal (channel : IqSample → Int16) (samples : List IqSample) (tap : Nat) :
    (((samples.map channel).getD tap 0).toInt : R) = (exactSignal channel samples).getD tap 0 := by
  rw [List.getD_eq_getElem?_getD, List.getD_eq_getElem?_getD, exactSignal,
    List.getElem?_map, List.getElem?_map]
  cases samples[tap]? <;> simp

/-- The low-IF filter over exact arithmetic, as `openrsp_low_if_configure`
leaves it. -/
def LowIfDsp.exactly (dsp : LowIfDsp) (coefficients : List R)
    (cosineStep sineStep : R) : LowIfOver R where
  factor := dsp.factor
  taps := dsp.taps
  position := dsp.position
  phase := dsp.phase
  oscillator := ⟨1, 0, cosineStep, sineStep, dsp.oscillatorSamples⟩
  coefficients := coefficients
  historyI := List.replicate dsp.historyI.length 0
  historyQ := List.replicate dsp.historyQ.length 0

theorem LowIfDsp.exactly_fed (libm : Libm) (sampleRateHz : Float)
    (ifFrequencyHz : Int32) (hypot : R → R → R) (coefficients : List R)
    (cosineStep sineStep : R)
    (filters : (LowIfDsp.configure libm sampleRateHz ifFrequencyHz).factor ≠ 1) :
    let start :=
      (LowIfDsp.configure libm sampleRateHz ifFrequencyHz).exactly coefficients cosineStep sineStep
    1 < start.factor ∧ start.Fed (exactArithmetic hypot) start [] := by
  have range : (LowIfDsp.configure libm sampleRateHz ifFrequencyHz).factor = 1 ∨
        (LowIfDsp.configure libm sampleRateHz ifFrequencyHz).factor = 3 ∨
        (LowIfDsp.configure libm sampleRateHz ifFrequencyHz).factor = 4 := by
    simp only [LowIfDsp.configure]
    split_ifs <;> simp
  have taps : (LowIfDsp.configure libm sampleRateHz ifFrequencyHz).taps =
        16 * (LowIfDsp.configure libm sampleRateHz ifFrequencyHz).factor + 1 :=
    if_neg filters
  have length :
      (LowIfDsp.configure libm sampleRateHz ifFrequencyHz).historyI.length = 130 :=
    List.length_replicate
  have doubled : Doubled (LowIfDsp.configure libm sampleRateHz ifFrequencyHz).taps
        ((List.replicate 130 (0 : R)).take
          (2 * (LowIfDsp.configure libm sampleRateHz ifFrequencyHz).taps)) 0
        (newest (LowIfDsp.configure libm sampleRateHz ifFrequencyHz).taps 0 []) := by
    rw [newest_nil, List.take_replicate, min_eq_left (by omega)]
    exact doubled_replicate (by omega) 0
  refine ⟨?_, rfl, rfl, rfl, (Nat.zero_mod _).symm, rfl, ?_, ?_⟩
  · simp only [LowIfDsp.exactly]
    omega
  · simp only [LowIfDsp.exactly, length]
    exact doubled
  · simp only [LowIfDsp.exactly]
    exact doubled

/-- The signal the low-IF filter convolves: the mixed input, and the input
itself when there is no filter. -/
def LowIfOver.exactMixed (hypot : R → R → R) (dsp : LowIfOver R)
    (samples : List IqSample) : List (R × R) :=
  if dsp.factor = 1 then
    samples.map fun sample =>
      ((sample.1.toInt : R), (sample.2.toInt : R))
  else dsp.oscillator.mixed (exactArithmetic hypot) samples

theorem DecimatorOver.output_exact (hypot : R → R → R)
    (start : DecimatorOver R) (channel : IqSample → Int16)
    (samples : List IqSample) {index : Nat}
    (inside : index < samples.length) :
    start.output (exactArithmetic hypot)
        ((samples.take (index + 1)).map channel) =
      convolution start.taps (start.coefficients.getD · 0) (exactSignal channel samples) index := by
  rw [← tapSum_exact hypot start.taps start.coefficients _
    (by simpa [exactSignal] using inside), output]
  refine Arithmetic.tapSum_congr _ _ _ fun tap _ => ?_
  rw [← List.map_reverse]
  refine (getD_exactSignal channel _ tap).trans ?_
  simp [exactSignal, List.map_take]

theorem LowIfOver.output_exact (hypot : R → R → R) (start : LowIfOver R)
    (channel : R × R → R) (mixed : List (R × R)) {index : Nat}
    (inside : index < mixed.length) :
    start.output (exactArithmetic hypot)
        ((mixed.take (index + 1)).map channel) =
      convolution start.taps (start.coefficients.getD · 0) (mixed.map channel) index := by
  rw [← tapSum_exact hypot start.taps start.coefficients _
    (by simpa using inside), output, List.map_take]
  rfl

end ExactSums

/-! ## Exact arithmetic -/

section Exact

variable {R : Type} [Field R] [LinearOrder R] [IsStrictOrderedRing R]
  [FloorRing R]

/-- `lround` of an exact number. -/
def exactLround (value : R) : Int :=
  if 0 ≤ value then ⌊value + 1 / 2⌋ else -⌊-value + 1 / 2⌋

/-- The conversion of `decimate_iq`. -/
def exactClampRounded (value : R) : Int16 :=
  Int16.ofInt (max (-32768) (min 32767 (exactLround value)))

/-- `clamp_sample` of `low_if_dsp.c`. -/
def exactClampSample (value : R) : Int16 :=
  if value > 32767 then 32767
  else if value < -32768 then -32768
  else Int16.ofInt (exactLround value)

variable (R) in
theorem exactLround_intCast (value : Int) :
    exactLround (value : R) = value := by
  have half (integer : Int) : ⌊(integer : R) + 1 / 2⌋ = integer := by
    rw [Int.floor_intCast_add]
    have none : ⌊(1 / 2 : R)⌋ = 0 := by
      rw [Int.floor_eq_zero_iff]
      constructor <;> norm_num
    omega
  unfold exactLround
  split_ifs
  · exact half value
  · have negated := half (-value)
    push_cast at negated
    omega

theorem exactLround_mono {low high : R} (below : low ≤ high) :
    exactLround low ≤ exactLround high := by
  unfold exactLround
  split_ifs with lowSign highSign highSign
  · gcongr
  · exact absurd (lowSign.trans below) highSign
  · have negative : 0 ≤ ⌊-low + 1 / 2⌋ := Int.floor_nonneg.mpr (by linarith [not_le.mp lowSign])
    have positive : 0 ≤ ⌊high + 1 / 2⌋ := Int.floor_nonneg.mpr (by linarith)
    omega
  · have mirrored : ⌊-high + 1 / 2⌋ ≤ ⌊-low + 1 / 2⌋ := by
      gcongr
    omega

/-- The two conversions are the same. -/
theorem exactClampSample_eq (value : R) :
    exactClampSample value = exactClampRounded value := by
  unfold exactClampSample exactClampRounded
  have top := exactLround_intCast R 32767
  have bottom := exactLround_intCast R (-32768)
  push_cast at top bottom
  split_ifs with above below
  · have large := exactLround_mono above.le
    rw [top] at large
    rw [min_eq_left large]
    rfl
  · have small := exactLround_mono below.le
    rw [bottom] at small
    rw [max_eq_left ((min_le_right _ _).trans small)]
    rfl
  · have small := exactLround_mono (not_lt.mp above)
    have large := exactLround_mono (not_lt.mp below)
    rw [top] at small
    rw [bottom] at large
    rw [min_eq_right small, max_eq_right large]

theorem exactClampRounded_toInt (sample : Int16) :
    exactClampRounded (sample.toInt : R) = sample := by
  have low := sample.le_toInt
  have high := sample.toInt_lt
  rw [exactClampRounded, exactLround_intCast, min_eq_right (by omega),
    max_eq_right (by omega), Int16.ofInt_toInt]

/-- Both channels of a filter's output, rounded to samples. -/
def decimatedPair (factor taps : Nat) (coefficients signalI signalQ : List R)
    (index : Nat) : IqSample :=
  (exactClampRounded (filtered factor taps coefficients signalI index),
    exactClampRounded (filtered factor taps coefficients signalQ index))

/-- What passes unfiltered comes out as it went in. -/
theorem every_passed (taps : Nat) (coefficients : List R) (samples : List IqSample) : every 1
        (decimatedPair 1 taps coefficients (exactSignal Prod.fst samples)
          (exactSignal Prod.snd samples)) samples.length =
      samples := by
  rw [every_one]
  refine List.ext_getElem (by simp) fun index _ inside => ?_
  have read (channel : IqSample → Int16) :
      (exactSignal channel samples).getD index 0 = ((channel samples[index]).toInt : R) := by
    simp [exactSignal, inside]
  rw [List.getElem_map, List.getElem_range]
  simp only [decimatedPair, filtered, if_true, read, exactClampRounded_toInt]

variable (hypot : R → R → R) (libm : Libm)

/-- What `decimate_iq` gives for frames. -/
theorem decimator_convolves {factor : Nat} {decimator : Decimator}
    (configured : Decimator.configure libm factor = some decimator)
    (coefficients : List R) (frames : List (List IqSample)) :
    (processFrames
        (DecimatorOver.decimateIq (exactArithmetic hypot) exactClampRounded)
        (decimator.exactly coefficients) frames).2.flatMap IqArrays.outputs =
      every factor
        (decimatedPair factor decimator.taps coefficients
          (exactSignal Prod.fst frames.flatten)
          (exactSignal Prod.snd frames.flatten)) frames.flatten.length := by
  by_cases filters : factor = 1
  · subst filters
    rw [every_passed]
    refine processFrames_passed _ (fun xi xq samples => if_pos ?_) frames
    obtain rfl := Option.some.inj configured
    rfl
  · obtain ⟨isFactor, above, fed⟩ := Decimator.exactly_fed configured filters coefficients
    have start : (decimator.exactly coefficients).factor = factor := isFactor
    rw [DecimatorOver.decimateIq_outputs _ _ (start ▸ above) fed, start]
    refine every_congr (Nat.zero_lt_of_lt above) fun index inside => ?_
    rw [DecimatorOver.outputPair, DecimatorOver.output_exact hypot _ Prod.fst _ inside,
      DecimatorOver.output_exact hypot _ Prod.snd _ inside]
    simp only [decimatedPair, filtered, if_neg filters]
    rfl

/-- What `openrsp_low_if_process` gives for frames. -/
theorem lowIf_convolves (sampleRateHz : Float) (ifFrequencyHz : Int32)
    (coefficients : List R) (cosineStep sineStep : R)
    (frames : List (List IqSample)) :
    let dsp :=
      (LowIfDsp.configure libm sampleRateHz ifFrequencyHz).exactly coefficients cosineStep sineStep
    let signal := dsp.exactMixed hypot frames.flatten
    (processFrames
        (LowIfOver.process (exactArithmetic hypot) exactClampSample)
        dsp frames).2.flatMap IqArrays.outputs =
      every dsp.factor
        (decimatedPair dsp.factor dsp.taps coefficients (signal.map Prod.fst) (signal.map Prod.snd))
        frames.flatten.length := by
  intro dsp signal
  by_cases filters : dsp.factor = 1
  · have unmixed : signal = frames.flatten.map fun sample =>
          ((sample.1.toInt : R), (sample.2.toInt : R)) :=
      if_pos filters
    rw [filters, unmixed, List.map_map, List.map_map]
    refine Eq.trans ?_ (every_passed dsp.taps coefficients _).symm
    exact processFrames_passed _ (fun xi xq samples => if_pos filters.le) frames
  · obtain ⟨above, fed⟩ := LowIfDsp.exactly_fed libm sampleRateHz ifFrequencyHz hypot
        coefficients cosineStep sineStep filters
    have isMixed :
        signal = dsp.oscillator.mixed (exactArithmetic hypot) frames.flatten :=
      if_neg filters
    have length : signal.length = frames.flatten.length := by
      rw [isMixed, Oscillator.mixed_length]
    rw [LowIfOver.process_outputs _ _ above fed]
    refine every_congr (Nat.zero_lt_of_lt above) fun index inside => ?_
    rw [← length] at inside
    simp only [LowIfOver.outputPair, Oscillator.mixed_take]
    rw [← isMixed, LowIfOver.output_exact hypot _ Prod.fst _ inside,
      LowIfOver.output_exact hypot _ Prod.snd _ inside]
    simp only [decimatedPair, filtered, if_neg filters, exactClampSample_eq]
    rfl

/-- For whatever the code configures, whatever the coefficients and however
an input is cut into frames, both filters write into its arrays every so
manieth value of the convolution of the whole input, starting with the first,
so that the number of outputs is that of the inputs divided by the factor and
rounded up; and no turn overwrites an input that is still to be read. -/
theorem decimating_filters_convolve : (∀ factor decimator (coefficients : List R) frames,
      Decimator.configure libm factor = some decimator →
        let outputs :=
          (processFrames
            (DecimatorOver.decimateIq (exactArithmetic hypot) exactClampRounded)
            (decimator.exactly coefficients) frames).2.flatMap IqArrays.outputs
        outputs = every factor
              (decimatedPair factor decimator.taps coefficients
                (exactSignal Prod.fst frames.flatten)
                (exactSignal Prod.snd frames.flatten))
              frames.flatten.length ∧
          outputs.length = frames.flatten.length ⌈/⌉ factor) ∧
    (∀ sampleRateHz ifFrequencyHz (coefficients : List R) cosineStep sineStep
        frames,
      let dsp :=
        (LowIfDsp.configure libm sampleRateHz ifFrequencyHz).exactly
          coefficients cosineStep sineStep
      let signal := dsp.exactMixed hypot frames.flatten
      let outputs :=
        (processFrames
          (LowIfOver.process (exactArithmetic hypot) exactClampSample)
          dsp frames).2.flatMap IqArrays.outputs
      outputs = every dsp.factor
            (decimatedPair dsp.factor dsp.taps coefficients
              (signal.map Prod.fst) (signal.map Prod.snd))
            frames.flatten.length ∧
        outputs.length = frames.flatten.length ⌈/⌉ dsp.factor) ∧
    KeepsUnread
      (DecimatorOver.processSample (exactArithmetic hypot) (exactClampRounded : R → Int16)) ∧
    KeepsUnread
      (LowIfOver.processSample (exactArithmetic hypot) (exactClampSample : R → Int16)) := by
  refine ⟨?_, ?_, keepsUnread _, keepsUnread _⟩
  · intro factor decimator coefficients frames configured outputs
    have convolved := decimator_convolves hypot libm configured coefficients frames
    exact ⟨convolved, (congrArg List.length convolved).trans (every_length _ _ _)⟩
  · intro sampleRateHz ifFrequencyHz coefficients cosineStep sineStep frames dsp signal outputs
    have convolved :=
      lowIf_convolves hypot libm sampleRateHz ifFrequencyHz coefficients cosineStep sineStep frames
    exact ⟨convolved, (congrArg List.length convolved).trans (every_length _ _ _)⟩

end Exact

/-- Three samples in two frames through the decimator by two, with the mean
of two samples as its filter. -/
theorem mean_of_two_convolves : ∃ decimator,
      Decimator.configure floatLibm 2 = some decimator ∧ (processFrames
            (DecimatorOver.decimateIq (exactArithmetic fun cosine _ => cosine) exactClampRounded)
            (decimator.exactly [(1 / 2 : Rat), 1 / 2])
            [[(100, -7)], [(50, 3), (30, 5)]]).2.flatMap IqArrays.outputs =
          [(50, -4), (40, 4)] := by
  refine ⟨_, rfl, ?_⟩
  refine ((decimating_filters_convolve (fun cosine (_ : Rat) => cosine)
    floatLibm).1 2 _ [1 / 2, 1 / 2] [[(100, -7)], [(50, 3), (30, 5)]] rfl).1.trans ?_
  decide +kernel

end OpenRsp
