import OpenRsp.Compat.Filters
import OpenRsp.Library.DelayLine

/-!
# The ADS-B filter is a convolution

`openrsp_adsb_filter_process` keeps its history twice and sums in 64 bits.
For every coefficients, every input and every framing its output is the
convolution of the whole input, taken in unbounded integers, scaled and
saturated.
-/

namespace OpenRsp

open DelayLine

/-! ## Framing -/

theorem runFilter_append {σ : Type} (step : σ → IqSample → σ × Option IqSample) (state : σ)
    (first second : List IqSample) :
    runFilter step state (first ++ second) =
      ((runFilter step (runFilter step state first).1 second).1, (runFilter step state first).2 ++
          (runFilter step (runFilter step state first).1 second).2) := by
  induction first generalizing state with
  | nil => rfl
  | cons sample first inductionHypothesis =>
      simp only [List.cons_append, runFilter, inductionHypothesis, List.append_assoc]

namespace AdsbFilter

/-- Frames passed to `openrsp_adsb_filter_process` one after another. -/
def processFrames :
    AdsbFilter → List (List IqSample) → AdsbFilter × List IqSample
  | filter, [] => (filter, [])
  | filter, frame :: frames =>
      let first := filter.process frame
      let rest := processFrames first.1 frames
      (rest.1, first.2 ++ rest.2)

/-! ## The convolution -/

/-- The sum over taps, oldest value first, in unbounded integers. -/
def exactSum (coefficients : List Int32) (window : List Int16) (taps : Nat) : Int :=
  ((List.range taps).map fun tap =>
    (coefficients.getD tap 0).toInt * (window.getD tap 0).toInt).sum

/-- Saturation to 16 bits. -/
def saturate (value : Int) : Int := max (-32768) (min 32767 value)

/-- The output for the newest of the inputs. -/
def reference (coefficients : List Int32) (inputs : List Int16) : Int :=
  saturate
    ((exactSum coefficients (newest openrspAdsbMaxTaps 0 inputs) openrspAdsbMaxTaps).tdiv (2 ^ 30))

/-- The outputs for a whole input. -/
def references (coefficients : List Int32) (inputs : List Int16) :
    List Int :=
  (List.range inputs.length).map fun index =>
    reference coefficients (inputs.take (index + 1))

/-! ## Sums in 64 bits -/

/-- The first terms of the sum as the filter computes it. -/
def partialSum (filter : AdsbFilter) (history : List Int16) (taps : Nat) :
    Int64 :=
  (List.range taps).foldl
    (fun sum tap =>
      sum + (filter.coefficients.getD tap 0).toInt64 *
        (history.getD (filter.position + tap) 0).toInt64) 0

/-- A product does not overflow. -/
theorem product_exact (coefficient : Int32) (value : Int16) :
    (coefficient.toInt64 * value.toInt64).toInt =
        coefficient.toInt * value.toInt ∧
      |coefficient.toInt * value.toInt| ≤ 2 ^ 46 := by
  have bound : |coefficient.toInt * value.toInt| ≤ 2 ^ 46 := by
    rw [abs_mul]
    have first : |coefficient.toInt| ≤ 2 ^ 31 :=
      abs_le.mpr ⟨coefficient.le_toInt, coefficient.toInt_lt.le⟩
    have second : |value.toInt| ≤ 2 ^ 15 := abs_le.mpr ⟨value.le_toInt, value.toInt_lt.le⟩
    calc |coefficient.toInt| * |value.toInt|
        ≤ 2 ^ 31 * 2 ^ 15 := mul_le_mul first second (abs_nonneg _) (by norm_num)
      _ = 2 ^ 46 := by norm_num
  refine ⟨?_, bound⟩
  obtain ⟨lower, upper⟩ := abs_le.mp bound
  rw [Int64.toInt_mul, Int32.toInt_toInt64, Int16.toInt_toInt64]
  exact Int.bmod_eq_of_le (by norm_num; omega) (by norm_num; omega)

/-- What a history holds from the filter's position on. -/
def Reads (filter : AdsbFilter) (history window : List Int16) : Prop :=
  ∀ tap, tap < openrspAdsbMaxTaps → history.getD (filter.position + tap) 0 = window.getD tap 0

/-- No term and no partial sum overflows. -/
theorem partialSum_exact {filter : AdsbFilter} {history window : List Int16}
    (reads : filter.Reads history window) (taps : Nat)
    (within : taps ≤ openrspAdsbMaxTaps) :
    (filter.partialSum history taps).toInt =
        exactSum filter.coefficients window taps ∧
      |exactSum filter.coefficients window taps| ≤ taps * 2 ^ 46 := by
  induction taps with
  | zero => exact ⟨rfl, by simp [exactSum]⟩
  | succ taps inductionHypothesis =>
      obtain ⟨sum, bound⟩ := inductionHypothesis (by omega)
      obtain ⟨product, size⟩ := product_exact (filter.coefficients.getD taps 0) (window.getD taps 0)
      have next : exactSum filter.coefficients window (taps + 1) =
            exactSum filter.coefficients window taps +
              (filter.coefficients.getD taps 0).toInt * (window.getD taps 0).toInt := by
        simp [exactSum, List.range_succ]
      have total :
          |exactSum filter.coefficients window (taps + 1)| ≤
            (taps + 1 : Nat) * 2 ^ 46 := by
        rw [next]
        refine (abs_add_le _ _).trans ?_
        push_cast
        linarith
      refine ⟨?_, total⟩
      have taken : filter.partialSum history (taps + 1) = filter.partialSum history taps +
              (filter.coefficients.getD taps 0).toInt64 * (window.getD taps 0).toInt64 := by
        rw [← reads taps (by omega)]
        simp only [partialSum, List.range_succ, List.foldl_append, List.foldl_cons, List.foldl_nil]
      have small : ((taps + 1 : Nat) : Int) ≤ 17 := by
        exact_mod_cast within
      obtain ⟨lower, upper⟩ := abs_le.mp total
      rw [taken, Int64.toInt_add, sum, product, ← next]
      refine Int.bmod_eq_of_le ?_ ?_
      · norm_num
        linarith
      · norm_num
        linarith

theorem toInt_shift (value : Int64) :
    (value >>> (30 : Int64)).toInt = value.toInt / 2 ^ 30 := by
  have shifted :
      (value >>> (30 : Int64)).toInt = value.toInt >>> (30 : Nat) := by
    rw [← Int64.toInt_toBitVec]
    simp
  rw [shifted, Int.shiftRight_eq_div_pow]
  norm_num

/-- The shift of the absolute value is the division towards zero, and nothing
overflows. -/
theorem clampScaled_exact (scaled : Int64) (small : |scaled.toInt| < 2 ^ 62) :
    (clampScaled scaled).toInt = saturate (scaled.toInt.tdiv (2 ^ 30)) := by
  obtain ⟨lower, upper⟩ := abs_lt.mp small
  have value : (if scaled ≥ 0 then scaled >>> 30 else -((-scaled) >>> 30) : Int64).toInt =
        scaled.toInt.tdiv (2 ^ 30) := by
    by_cases sign : scaled ≥ 0
    · have positive : 0 ≤ scaled.toInt := by
        simpa using Int64.le_iff_toInt_le.mp sign
      rw [if_pos sign, toInt_shift, Int.tdiv_eq_ediv_of_nonneg positive]
    · have negative : scaled.toInt < 0 := by
        have not := mt Int64.le_iff_toInt_le.mpr sign
        simpa using not
      have opposite : (-scaled).toInt = -scaled.toInt := by
        rw [Int64.toInt_neg]
        exact Int.bmod_eq_of_le (by norm_num; omega) (by norm_num; omega)
      rw [if_neg sign, Int64.toInt_neg, toInt_shift, opposite,
        ← Int.tdiv_eq_ediv_of_nonneg (by omega), Int.neg_tdiv, neg_neg]
      have quotient :
          0 ≤ (-scaled.toInt).tdiv (2 ^ 30) ∧ (-scaled.toInt).tdiv (2 ^ 30) < 2 ^ 62 := by
        rw [Int.tdiv_eq_ediv_of_nonneg (by omega)]
        omega
      rw [Int.neg_tdiv] at quotient
      generalize scaled.toInt.tdiv (2 ^ 30) = exact at quotient ⊢
      exact Int.bmod_eq_of_le (by norm_num; omega) (by norm_num; omega)
  unfold clampScaled
  dsimp only
  generalize
    (if scaled ≥ 0 then scaled >>> 30 else -((-scaled) >>> 30) : Int64) =
      shifted at value ⊢
  unfold saturate
  rw [← value]
  have high : shifted > 32767 ↔ 32767 < shifted.toInt := by
    rw [gt_iff_lt, Int64.lt_iff_toInt_lt]
    rfl
  have low : shifted < -32768 ↔ shifted.toInt < -32768 := by
    rw [Int64.lt_iff_toInt_lt]
    rfl
  by_cases above : shifted > 32767
  · have exact := high.mp above
    rw [if_pos above, min_eq_left exact.le]
    rfl
  · have notHigh := mt high.mpr above
    rw [if_neg above, min_eq_right (by omega)]
    by_cases below : shifted < -32768
    · have exact := low.mp below
      rw [if_pos below, max_eq_left exact.le]
      rfl
    · have notLow := mt low.mpr below
      rw [if_neg below, max_eq_right (by omega), Int64.toInt_toInt16]
      exact Int.bmod_eq_of_le (by norm_num; omega) (by norm_num; omega)

/-! ## One turn -/

/-- A filter in a no-decimation mode that has been fed `inputs` since it was
configured or reset. -/
structure Fed (filter : AdsbFilter) (inputs : List IqSample) : Prop where
  mode : filter.mode ≠ .decimation
  taps : filter.taps = openrspAdsbMaxTaps
  coefficients : filter.coefficients.length = openrspAdsbMaxTaps
  historyI : Doubled openrspAdsbMaxTaps filter.historyI filter.position
      (newest openrspAdsbMaxTaps 0 (inputs.map Prod.fst))
  historyQ : Doubled openrspAdsbMaxTaps filter.historyQ filter.position
      (newest openrspAdsbMaxTaps 0 (inputs.map Prod.snd))

/-- The filter as its next turn sums with it. -/
def stored (filter : AdsbFilter) (sample : IqSample) : AdsbFilter := (filter.processSample sample).1

variable {filter : AdsbFilter} {inputs : List IqSample}

theorem reads_of_doubled {history window : List Int16}
    (doubled : Doubled openrspAdsbMaxTaps history filter.position window) :
    filter.Reads history window := by
  intro tap inside
  rw [List.getD_eq_getElem?_getD, List.getD_eq_getElem?_getD, doubled.read inside]

theorem Fed.stored (fed : filter.Fed inputs) (sample : IqSample) :
    (filter.stored sample).Fed (inputs ++ [sample]) where
  mode := fed.mode
  taps := fed.taps
  coefficients := fed.coefficients
  historyI := by
    have stored := fed.historyI.store_newest sample.1
    rw [List.map_append]
    simp only [AdsbFilter.stored, processSample, fed.taps]
    exact stored
  historyQ := by
    have stored := fed.historyQ.store_newest sample.2
    rw [List.map_append]
    simp only [AdsbFilter.stored, processSample, fed.taps]
    exact stored

theorem convolve_exact (taps : filter.taps = openrspAdsbMaxTaps)
    {history values : List Int16}
    (doubled :
      Doubled openrspAdsbMaxTaps history filter.position (newest openrspAdsbMaxTaps 0 values)) :
    (clampScaled (filter.convolve history)).toInt = reference filter.coefficients values := by
  obtain ⟨sum, bound⟩ :=
    partialSum_exact (reads_of_doubled doubled) openrspAdsbMaxTaps (Nat.le_refl _)
  have whole : filter.convolve history =
        filter.partialSum history openrspAdsbMaxTaps := by
    rw [convolve, partialSum, taps]
  have small :
      |(filter.partialSum history openrspAdsbMaxTaps).toInt| < 2 ^ 62 := by
    rw [sum]
    refine lt_of_le_of_lt bound ?_
    norm_num [openrspAdsbMaxTaps]
  rw [whole, clampScaled_exact _ small, sum]
  rfl

/-- One turn gives out the reference for everything fed so far. -/
theorem Fed.output (fed : filter.Fed inputs) (sample : IqSample) : ∃ output,
      (filter.processSample sample).2 = some output ∧
        output.1.toInt = reference filter.coefficients ((inputs ++ [sample]).map Prod.fst) ∧
        output.2.toInt = reference filter.coefficients ((inputs ++ [sample]).map Prod.snd) := by
  have next := fed.stored sample
  have outputI := convolve_exact next.taps next.historyI
  have outputQ := convolve_exact next.taps next.historyQ
  exact ⟨_, rfl, outputI, outputQ⟩

/-! ## Runs -/

theorem references_concat (coefficients : List Int32) (inputs : List Int16) (value : Int16) :
    references coefficients (inputs ++ [value]) =
      references coefficients inputs ++ [reference coefficients (inputs ++ [value])] := by
  unfold references
  rw [List.length_append, List.length_singleton, List.range_succ,
    List.map_append, List.map_singleton,
    List.take_of_length_le (by simp)]
  refine congrArg (· ++ _) (List.map_congr_left ?_)
  intro index inside
  rw [List.take_append_of_le_length (List.mem_range.mp inside)]

theorem runFilter_fed (fed : filter.Fed []) (samples : List IqSample) :
    (runFilter processSample filter samples).1.Fed samples ∧
      (runFilter processSample filter samples).1.coefficients = filter.coefficients ∧
      (runFilter processSample filter samples).2.map
          (fun output => output.1.toInt) =
        references filter.coefficients (samples.map Prod.fst) ∧
      (runFilter processSample filter samples).2.map
          (fun output => output.2.toInt) =
        references filter.coefficients (samples.map Prod.snd) := by
  -- Induction from the end: the last turn is taken in the state that the
  -- samples before it have led to.
  induction samples using List.reverseRecOn with
  | nil => exact ⟨fed, rfl, rfl, rfl⟩
  | append_singleton samples sample inductionHypothesis =>
      obtain ⟨reached, same, outputsI, outputsQ⟩ := inductionHypothesis
      obtain ⟨output, given, exactI, exactQ⟩ := reached.output sample
      have single : runFilter processSample
              (runFilter processSample filter samples).1 [sample] =
            ((runFilter processSample filter samples).1.stored sample, [output]) := by
        simp only [runFilter, AdsbFilter.stored, given, Option.toList_some, List.append_nil]
      rw [runFilter_append, single]
      refine ⟨reached.stored sample, same, ?_, ?_⟩
      · rw [List.map_append, outputsI, List.map_append, List.map_singleton,
          List.map_singleton, references_concat, exactI, same,
          List.map_append, List.map_singleton]
      · rw [List.map_append, outputsQ, List.map_append, List.map_singleton,
          List.map_singleton, references_concat, exactQ, same,
          List.map_append, List.map_singleton]

theorem processFrames_eq (fed : filter.Fed inputs) (frames : List (List IqSample)) :
    filter.processFrames frames = runFilter processSample filter frames.flatten := by
  have kept (filter : AdsbFilter) (samples : List IqSample) :
      (runFilter processSample filter samples).1.mode = filter.mode := by
    induction samples generalizing filter with
    | nil => rfl
    | cons sample samples inductionHypothesis =>
        exact inductionHypothesis _
  have mode := fed.mode
  clear fed
  induction frames generalizing filter with
  | nil => rfl
  | cons frame frames inductionHypothesis =>
      have first : filter.process frame = runFilter processSample filter frame := if_neg mode
      have next : (runFilter processSample filter frame).1.mode ≠
          .decimation := by
        rwa [kept]
      rw [processFrames, first, inductionHypothesis next, List.flatten_cons, runFilter_append]

/-! ## The whole filter -/

/-- A filter in a no-decimation mode as `openrsp_adsb_filter_configure` or
`openrsp_adsb_filter_reset` leaves it, with any coefficients. -/
structure Ready (filter : AdsbFilter) : Prop where
  mode : filter.mode ≠ .decimation
  taps : filter.taps = openrspAdsbMaxTaps
  coefficients : filter.coefficients.length = openrspAdsbMaxTaps
  position : filter.position = 0
  historyI : filter.historyI = List.replicate (2 * openrspAdsbMaxTaps) 0
  historyQ : filter.historyQ = List.replicate (2 * openrspAdsbMaxTaps) 0

theorem ready_reset (mode : filter.mode ≠ .decimation) (taps : filter.taps = openrspAdsbMaxTaps)
    (coefficients : filter.coefficients.length = openrspAdsbMaxTaps) :
    filter.reset.Ready :=
  ⟨mode, taps, coefficients, rfl, rfl, rfl⟩

theorem ready_configure {libm : Libm} {sampleRateHz : Float} {mode : UInt32}
    (configured : configure libm sampleRateHz mode = some filter)
    (filters : filter.mode ≠ .decimation) : filter.Ready := by
  unfold configure at configured
  split_ifs at configured
  split at configured
  · cases configured
  · obtain rfl := Option.some.inj configured
    exact absurd rfl filters
  · dsimp only at configured
    split_ifs at configured
    all_goals
      obtain rfl := Option.some.inj configured
      refine ⟨filters, rfl, ?_, rfl, rfl, rfl⟩
      rw [List.length_map, List.length_map, List.length_range]

theorem Ready.fed (ready : filter.Ready) : filter.Fed [] where
  mode := ready.mode
  taps := ready.taps
  coefficients := ready.coefficients
  historyI := by
    rw [ready.historyI, ready.position, List.map_nil, newest_nil]
    exact doubled_replicate (by decide) 0
  historyQ := by
    rw [ready.historyQ, ready.position, List.map_nil, newest_nil]
    exact doubled_replicate (by decide) 0

/-- The partial sums over a history are exact and far from overflow. -/
def ExactSums (filter : AdsbFilter) (history : List Int16) : Prop :=
  ∀ taps, taps ≤ filter.taps → (filter.partialSum history taps).toInt =
        exactSum filter.coefficients (history.drop filter.position) taps ∧
      |exactSum filter.coefficients (history.drop filter.position) taps| <
        2 ^ 62

/-- A turn stores and reads within the buffers, and its sums are exact. -/
structure TurnSafe (filter : AdsbFilter) (sample : IqSample) : Prop where
  writesI : filter.position + filter.taps < filter.historyI.length
  writesQ : filter.position + filter.taps < filter.historyQ.length
  reads : ∀ tap, tap < filter.taps → tap < filter.coefficients.length ∧
        (filter.stored sample).position + tap < (filter.stored sample).historyI.length ∧
        (filter.stored sample).position + tap < (filter.stored sample).historyQ.length
  sumsI : (filter.stored sample).ExactSums (filter.stored sample).historyI
  sumsQ : (filter.stored sample).ExactSums (filter.stored sample).historyQ

theorem exactSums_of_taps (taps : filter.taps = openrspAdsbMaxTaps) (history : List Int16) :
    filter.ExactSums history := by
  have reads : filter.Reads history (history.drop filter.position) := by
    intro tap inside
    rw [List.getD_eq_getElem?_getD, List.getD_eq_getElem?_getD, List.getElem?_drop]
  intro count within
  rw [taps] at within
  obtain ⟨sum, bound⟩ := partialSum_exact reads count within
  refine ⟨sum, lt_of_le_of_lt bound ?_⟩
  have few : (count : Int) ≤ 17 := by
    exact_mod_cast within
  linarith

theorem Fed.turnSafe (fed : filter.Fed inputs) (sample : IqSample) :
    filter.TurnSafe sample := by
  have next := fed.stored sample
  have taps := fed.taps
  have length := fed.coefficients
  have beforeI := fed.historyI.length
  have beforeQ := fed.historyQ.length
  have before := fed.historyI.within
  have afterI := next.historyI.length
  have afterQ := next.historyQ.length
  have after := next.historyI.within
  exact
    { writesI := by omega
      writesQ := by omega
      reads := fun tap inside => ⟨by omega, by omega, by omega⟩
      sumsI := exactSums_of_taps next.taps _
      sumsQ := exactSums_of_taps next.taps _ }

/-- However an input is cut into frames, the outputs are the convolution of
the whole input; and whatever has been fed, the next turn is safe. -/
theorem adsb_filter_convolves (ready : filter.Ready) (frames : List (List IqSample)) :
    (filter.processFrames frames).2.map (fun output => output.1.toInt) =
        references filter.coefficients (frames.flatten.map Prod.fst) ∧
      (filter.processFrames frames).2.map (fun output => output.2.toInt) =
        references filter.coefficients (frames.flatten.map Prod.snd) ∧
      ∀ samples sample, (runFilter processSample filter samples).1.TurnSafe sample := by
  have fed := ready.fed
  obtain ⟨-, -, outputsI, outputsQ⟩ := runFilter_fed fed frames.flatten
  rw [processFrames_eq fed]
  exact ⟨outputsI, outputsQ, fun samples sample => (runFilter_fed fed samples).1.turnSafe sample⟩

/-- A filter whose sixteen older taps are zero and whose newest is 2 in the
scale of the coefficients, with its sign turned. -/
def doublingFilter : AdsbFilter where
  mode := .noDecimationLowpass
  taps := openrspAdsbMaxTaps
  position := 0
  coefficients := List.replicate 16 0 ++ [-2147483648]
  historyI := List.replicate (2 * openrspAdsbMaxTaps) 0
  historyQ := List.replicate (2 * openrspAdsbMaxTaps) 0

theorem doublingFilter_convolves : doublingFilter.Ready ∧
      (doublingFilter.processFrames [[(100, -32768)], [(-7, 5)]]).2.map
          (fun output => output.1.toInt) =
        references doublingFilter.coefficients [100, -7] := by
  have ready : doublingFilter.Ready := ⟨by decide, rfl, rfl, rfl, rfl, rfl⟩
  exact ⟨ready, (adsb_filter_convolves ready [[(100, -32768)], [(-7, 5)]]).1⟩

end AdsbFilter

end OpenRsp
