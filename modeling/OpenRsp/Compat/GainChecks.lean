import OpenRsp.Compat.Session
import Mathlib.Algebra.Order.Floor.Ring
import Mathlib.Tactic.Linarith

/-!
# The two gain checks

A gain is checked twice: `validate_update` looks its LNA state up in four
frequency bands before anything is sent, and `openrsp_rspduo_gain_values`
looks it up in a table of measurements, rounded to a kilohertz, after the
daemon has taken the update.  The checks are written here for an arbitrary
number type, of which doubles are one and exact numbers another, and compared
over exact numbers.
-/

namespace OpenRsp

/-- What the two checks ask of the type of a frequency. -/
class FrequencyType (F : Type) extends
    LT F, LE F, BEq F, Add F, Mul F, Div F, OfScientific F where
  decidableLT : DecidableLT F
  decidableLE : DecidableLE F
  isFinite : F → Bool
  floor : F → F
  ofDouble : Float → F

instance FrequencyType.instDecidableLT {F : Type} [FrequencyType F] :
    DecidableLT F :=
  FrequencyType.decidableLT

instance FrequencyType.instDecidableLE {F : Type} [FrequencyType F] :
    DecidableLE F :=
  FrequencyType.decidableLE

instance : FrequencyType Float where
  decidableLT := inferInstance
  decidableLE := inferInstance
  isFinite := Float.isFinite
  floor := Doubles.floor
  ofDouble frequency := frequency

instance : FrequencyType ℚ where
  decidableLT := inferInstance
  decidableLE := inferInstance
  isFinite _ := true
  floor frequency := (⌊frequency⌋ : ℤ)
  ofDouble frequency := (Doubles.value? frequency).getD 0

/-- A knot of a gain table, as far as the checks read it. -/
structure StateKnot (F : Type) where
  rfHz : F
  stateCount : Nat
deriving DecidableEq

/-- The gain settings of a tuner. -/
structure GainQuery (F : Type) where
  rfHz : F
  lnaState : UInt8
  gRdB : Int32
  minGr : Int32
  tuner : TunerSelect
  amPort : UInt32

/-- The settings of a channel. -/
def RxChannelParams.gainQuery (channel : RxChannelParams)
    (tuner : TunerSelect) : GainQuery Float where
  rfHz := channel.tunerParams.rfFreq.rfHz
  lnaState := channel.tunerParams.gain.lnaState
  gRdB := channel.tunerParams.gain.gRdB
  minGr := channel.tunerParams.gain.minGr.toInt32
  tuner := tuner
  amPort := channel.rspDuoTunerParams.tuner1AmPortSel

/-! ## The checks over a number type -/

section Checks

variable {F : Type} [FrequencyType F]

/-- The knots of a table in a number type. -/
def stateKnots (F : Type) [FrequencyType F] (knots : List RspduoGainKnot) :
    List (StateKnot F) :=
  knots.map fun knot =>
    ⟨FrequencyType.ofDouble knot.rfHz, knot.lnaReduction.length⟩

/-- The numbers of LNA states of the knots on both sides of a frequency. -/
def findStateCounts (lookupHz : F) (previous : StateKnot F) :
    List (StateKnot F) → Nat × Nat
  | [] => (previous.stateCount, previous.stateCount)
  | knot :: knots =>
      if lookupHz == knot.rfHz then (knot.stateCount, knot.stateCount)
      else if lookupHz < knot.rfHz then
        (previous.stateCount, knot.stateCount)
      else findStateCounts lookupHz knot knots

/-- The same from the first knot on. -/
def bracketingStateCounts (lookupHz : F) :
    List (StateKnot F) → Option (Nat × Nat)
  | [] => none
  | knot :: knots => some (findStateCounts lookupHz knot (knot :: knots))

namespace GainQuery

/-- `rspduo_lna_gain_reduction`. -/
def lnaGainReduction (query : GainQuery F) : Option Int32 :=
  if query.rfHz < 60000000.0 then
    LnaBand.below60Mhz.reductions[query.lnaState.toNat]?
  else if query.rfHz < 420000000.0 then
    LnaBand.below420Mhz.reductions[query.lnaState.toNat]?
  else if query.rfHz < 1000000000.0 then
    LnaBand.below1Ghz.reductions[query.lnaState.toNat]?
  else if query.rfHz ≤ 2000000000.0 then
    LnaBand.below2Ghz.reductions[query.lnaState.toNat]?
  else none

/-- `rspduo_am_port_lna_state_valid`. -/
def amPortLnaStateValid (query : GainQuery F) : Bool :=
  query.tuner != .a || query.amPort != amPort1 ||
    decide (query.rfHz ≥ 60000000.0) || decide (query.lnaState < 5)

/-- The gain check of `validate_update`. -/
def accepted (query : GainQuery F) : Bool :=
  decide (query.minGr ≤ query.gRdB) && decide (query.gRdB ≤ 59) &&
    query.lnaGainReduction.isSome && query.amPortLnaStateValid

/-- The high impedance input as an update names it. -/
def highImpedance (query : GainQuery F) : Bool := query.tuner == .a && query.amPort == amPort1

/-- The frequency that is looked up. -/
def lookupHz (query : GainQuery F) : F :=
  if query.highImpedance ∨ query.rfHz < 1000.0 then query.rfHz
  else FrequencyType.floor ((query.rfHz + 500.0) / 1000.0) * 1000.0

/-- The table that is looked up. -/
def table (query : GainQuery F) : List RspduoGainKnot :=
  if query.highImpedance then highImpedanceGainKnots else gainKnots

/-- Whether `openrsp_rspduo_gain_values` returns 0. -/
def valued (query : GainQuery F) : Bool :=
  if !FrequencyType.isFinite query.rfHz ∨ query.rfHz < 0.0 ∨
      query.rfHz > 2000000000.0 ∨
      (query.minGr ≠ 0 ∧ query.minGr ≠ 20) ∨
      query.gRdB < query.minGr ∨ query.gRdB > 59 then
    false
  else if query.highImpedance ∧ query.rfHz ≥ 30000000.0 then
    !decide (query.lnaState ≥ 5)
  else
    match bracketingStateCounts query.lookupHz (stateKnots F query.table) with
    | none => false
    | some (low, high) =>
        decide (query.lnaState.toNat < low) && decide (query.lnaState.toNat < high)

end GainQuery

end Checks

/-! ## Doubles -/

theorem gainValid_eq_accepted (channel : RxChannelParams) (tuner : TunerSelect) :
    gainValid channel tuner = (channel.gainQuery tuner).accepted :=
  rfl

theorem findStateCounts_eq (lookupHz : Float) (previous : RspduoGainKnot)
    (knots : List RspduoGainKnot) :
    findStateCounts lookupHz
        ⟨previous.rfHz, previous.lnaReduction.length⟩
        (stateKnots Float knots) =
      ((findKnots lookupHz previous knots).1.lnaReduction.length,
        (findKnots lookupHz previous knots).2.lnaReduction.length) := by
  induction knots generalizing previous with
  | nil => rfl
  | cons knot knots inductionHypothesis =>
      have unfolded : findStateCounts lookupHz
              ⟨previous.rfHz, previous.lnaReduction.length⟩
              (stateKnots Float (knot :: knots)) =
            if lookupHz == knot.rfHz then
              (knot.lnaReduction.length, knot.lnaReduction.length)
            else if lookupHz < knot.rfHz then
              (previous.lnaReduction.length, knot.lnaReduction.length)
            else
              findStateCounts lookupHz
                ⟨knot.rfHz, knot.lnaReduction.length⟩
                (stateKnots Float knots) :=
        rfl
      rw [unfolded, inductionHypothesis knot, findKnots]
      by_cases atKnot : lookupHz == knot.rfHz
      · rw [if_pos atKnot, if_pos atKnot]
      · rw [if_neg atKnot, if_neg atKnot]
        by_cases beforeKnot : lookupHz < knot.rfHz
        · rw [if_pos beforeKnot, if_pos beforeKnot]
        · rw [if_neg beforeKnot, if_neg beforeKnot]

theorem bracketingStateCounts_eq (lookupHz : Float) (knots : List RspduoGainKnot) :
    bracketingStateCounts lookupHz (stateKnots Float knots) =
      (bracketingKnots lookupHz knots).map fun sides =>
        (sides.1.lnaReduction.length, sides.2.lnaReduction.length) := by
  cases knots with
  | nil => rfl
  | cons knot knots =>
      exact congrArg some (findStateCounts_eq lookupHz knot (knot :: knots))

/-- The values between two knots are there when the state is in both. -/
theorem interpolated_isSome (sides : Option (RspduoGainKnot × RspduoGainKnot)) (state : Nat)
    (values : RspduoGainKnot → RspduoGainKnot → Float32 → Float32 → GainValues) :
    (match sides with
      | none => none
      | some (low, high) =>
          match low.lnaReduction[state]?, high.lnaReduction[state]? with
          | some lowReduction, some highReduction =>
              some (values low high lowReduction highReduction)
          | _, _ => none).isSome =
      match sides.map fun sides =>
          (sides.1.lnaReduction.length, sides.2.lnaReduction.length) with
      | none => false
      | some (low, high) => decide (state < low) && decide (state < high) := by
  cases sides with
  | none => rfl
  | some sides =>
      obtain ⟨low, high⟩ := sides
      dsimp only [Option.map_some]
      by_cases inLow : state < low.lnaReduction.length
      · by_cases inHigh : state < high.lnaReduction.length
        · simp [inLow, inHigh]
        · simp [inHigh]
      · simp [inLow]

/-- The values of a channel are there when the check over doubles says so. -/
theorem channelGainValues_isSome (channel : RxChannelParams) (tuner : TunerSelect) :
    (channelGainValues channel tuner).isSome = (channel.gainQuery tuner).valued := by
  unfold channelGainValues openrspRspduoGainValues GainQuery.valued
  rw [bracketingStateCounts_eq]
  dsimp only
  refine (apply_ite Option.isSome _ _ _).trans ?_
  refine if_congr Iff.rfl rfl ?_
  refine (apply_ite Option.isSome _ _ _).trans ?_
  refine if_congr Iff.rfl ?_ (interpolated_isSome _ _ _)
  by_cases few : channel.tunerParams.gain.lnaState ≥ 5
  · simp [few, RxChannelParams.gainQuery]
  · simp [few, RxChannelParams.gainQuery]

/-! ## Exact numbers -/

/-- The knots below a frequency are passed over. -/
theorem findStateCounts_append (lookupHz : ℚ) (previous : StateKnot ℚ)
    (below rest : List (StateKnot ℚ))
    (passed : ∀ knot ∈ below, knot.rfHz < lookupHz) :
    findStateCounts lookupHz previous (below ++ rest) =
      findStateCounts lookupHz ((previous :: below).getLast (by simp))
        rest := by
  induction below generalizing previous with
  | nil => rfl
  | cons knot below inductionHypothesis =>
      have above : knot.rfHz < lookupHz := passed knot (by simp)
      have different : ¬(lookupHz == knot.rfHz) = true := by
        simp only [beq_iff_eq]
        exact above.ne'
      have notBefore : ¬lookupHz < knot.rfHz := above.not_gt
      rw [List.cons_append, findStateCounts, if_neg different, if_neg notBefore,
        inductionHypothesis knot fun other member => passed other (by simp [member])]
      simp

/-- Inside a band of knots with one number of states, both sides have it. -/
theorem findStateCounts_band (lookupHz : ℚ) (previous : StateKnot ℚ)
    (band above : List (StateKnot ℚ)) (count : Nat)
    (reached : ∃ knot ∈ band, lookupHz ≤ knot.rfHz)
    (before : previous.stateCount = count)
    (counts : ∀ knot ∈ band, knot.stateCount = count) :
    findStateCounts lookupHz previous (band ++ above) = (count, count) := by
  induction band generalizing previous with
  | nil =>
      obtain ⟨knot, member, _⟩ := reached
      cases member
  | cons knot band inductionHypothesis =>
      have here : knot.stateCount = count := counts knot (by simp)
      rw [List.cons_append, findStateCounts]
      by_cases atKnot : (lookupHz == knot.rfHz) = true
      · rw [if_pos atKnot, here]
      · rw [if_neg atKnot]
        by_cases beforeKnot : lookupHz < knot.rfHz
        · rw [if_pos beforeKnot, before, here]
        · rw [if_neg beforeKnot]
          refine inductionHypothesis knot ?_ here fun other member =>
            counts other (by simp [member])
          obtain ⟨other, member, bound⟩ := reached
          rcases List.mem_cons.mp member with rfl | later
          · have equal : lookupHz = other.rfHz := le_antisymm bound (not_lt.mp beforeKnot)
            exact absurd (beq_iff_eq.mpr equal) atKnot
          · exact ⟨other, later, bound⟩

/-- A table cut in three: a frequency that lies in the middle part finds the
number of states of that part. -/
theorem bracketingStateCounts_band (lookupHz : ℚ)
    (below band above : List (StateKnot ℚ)) (first : StateKnot ℚ)
    (count : Nat)
    (passed : ∀ knot ∈ below, knot.rfHz < lookupHz)
    (from_first : first.rfHz ≤ lookupHz)
    (reached : ∃ knot ∈ first :: band, lookupHz ≤ knot.rfHz)
    (counts : ∀ knot ∈ first :: band, knot.stateCount = count) :
    bracketingStateCounts lookupHz (below ++ first :: band ++ above) = some (count, count) := by
  have firstCount : first.stateCount = count := counts first (by simp)
  have inBand (previous : StateKnot ℚ) :
      findStateCounts lookupHz previous (first :: band ++ above) = (count, count) := by
    by_cases atFirst : (lookupHz == first.rfHz) = true
    · rw [List.cons_append, findStateCounts, if_pos atFirst, firstCount]
    · have notBefore : ¬lookupHz < first.rfHz := not_lt.mpr from_first
      have later : ∃ knot ∈ band, lookupHz ≤ knot.rfHz := by
        obtain ⟨knot, member, bound⟩ := reached
        rcases List.mem_cons.mp member with rfl | member
        · exact absurd (beq_iff_eq.mpr (le_antisymm bound from_first)) atFirst
        · exact ⟨knot, member, bound⟩
      rw [List.cons_append, findStateCounts, if_neg atFirst, if_neg notBefore]
      exact findStateCounts_band lookupHz first band above count later
        firstCount fun knot member => counts knot (by simp [member])
  rw [List.append_assoc]
  cases below with
  | nil => exact congrArg some (inBand first)
  | cons head below =>
      refine congrArg some ?_
      exact (findStateCounts_append lookupHz head (head :: below) _ passed).trans (inBand _)

/-- In a table of one number of states that number is found everywhere. -/
theorem findStateCounts_uniform (lookupHz : ℚ) (previous : StateKnot ℚ)
    (knots : List (StateKnot ℚ)) (count : Nat)
    (before : previous.stateCount = count)
    (counts : ∀ knot ∈ knots, knot.stateCount = count) :
    findStateCounts lookupHz previous knots = (count, count) := by
  induction knots generalizing previous with
  | nil => rw [findStateCounts, before]
  | cons knot knots inductionHypothesis =>
      have here : knot.stateCount = count := counts knot (by simp)
      have later : findStateCounts lookupHz knot knots = (count, count) :=
        inductionHypothesis knot here fun other member => counts other (by simp [member])
      rw [findStateCounts, here, before, later, ite_self, ite_self]

/-- The frequencies of the knots with seven states. -/
def sevenStates : List ℚ :=
  [0, 1000, 100000, 1000000, 5000000, 10000000, 11999000, 12000000, 20000000,
    29999000, 30000000, 50000000, 59999000]

/-- The frequencies of the knots with ten states. -/
def tenStates : List ℚ :=
  [60000000, 80000000, 100000000, 101100000, 119999000, 120000000, 150000000,
    200000000, 249999000, 250000000, 299999000, 300000000, 350000000,
    379999000, 380000000, 400000000, 419999000, 420000000, 500000000,
    700000000, 853863000, 900000000, 999999000]

/-- The frequencies of the knots with nine states. -/
def nineStates : List ℚ := [1000000000, 1200000000, 1500000000, 1800000000, 2000000000]

theorem stateKnots_gainKnots : stateKnots ℚ gainKnots =
      sevenStates.map (⟨·, 7⟩) ++ tenStates.map (⟨·, 10⟩) ++ nineStates.map (⟨·, 9⟩) := by
  decide +kernel

/-- The number of LNA states the table has at a frequency that is looked up. -/
theorem bracketingStateCounts_gainKnots (lookupHz : ℚ)
    (nonnegative : 0 ≤ lookupHz) (inTable : lookupHz ≤ 2000000000)
    (count : Nat)
    (band : lookupHz ≤ 59999000 ∧ count = 7 ∨
      60000000 ≤ lookupHz ∧ lookupHz ≤ 999999000 ∧ count = 10 ∨
      1000000000 ≤ lookupHz ∧ count = 9) :
    bracketingStateCounts lookupHz (stateKnots ℚ gainKnots) = some (count, count) := by
  have sevenBelow : ∀ rfHz ∈ sevenStates, rfHz < 60000000 := by decide +kernel
  have tenBelow : ∀ rfHz ∈ tenStates, rfHz < 1000000000 := by decide +kernel
  rw [stateKnots_gainKnots]
  rcases band with ⟨bound, rfl⟩ | ⟨fromBound, bound, rfl⟩ | ⟨fromBound, rfl⟩
  · rw [List.append_assoc]
    refine bracketingStateCounts_band lookupHz []
      (sevenStates.tail.map (⟨·, 7⟩)) _ ⟨0, 7⟩ 7 (by simp) nonnegative
      ⟨⟨59999000, 7⟩, by decide +kernel, bound⟩ ?_
    decide +kernel
  · refine bracketingStateCounts_band lookupHz (sevenStates.map (⟨·, 7⟩))
      (tenStates.tail.map (⟨·, 10⟩)) _ ⟨60000000, 10⟩ 10 ?_ fromBound
      ⟨⟨999999000, 10⟩, by decide +kernel, bound⟩ ?_
    · intro knot member
      obtain ⟨rfHz, listed, rfl⟩ := List.mem_map.mp member
      exact (sevenBelow rfHz listed).trans_le fromBound
    · decide +kernel
  · rw [← List.append_nil (_ ++ _ ++ _)]
    refine bracketingStateCounts_band lookupHz
      (sevenStates.map (⟨·, 7⟩) ++ tenStates.map (⟨·, 10⟩))
      (nineStates.tail.map (⟨·, 9⟩)) [] ⟨1000000000, 9⟩ 9 ?_ fromBound
      ⟨⟨2000000000, 9⟩, by decide +kernel, inTable⟩ ?_
    · intro knot member
      rcases List.mem_append.mp member with member | member
      · obtain ⟨rfHz, listed, rfl⟩ := List.mem_map.mp member
        exact (sevenBelow rfHz listed).trans_le (le_trans (by norm_num) fromBound)
      · obtain ⟨rfHz, listed, rfl⟩ := List.mem_map.mp member
        exact (tenBelow rfHz listed).trans_le fromBound
    · decide +kernel

namespace GainQuery

/-- What a caller may ask: a frequency of the receiver and a gain reduction
inside its limits. -/
structure InRange (query : GainQuery ℚ) : Prop where
  nonnegative : 0 ≤ query.rfHz
  atMost : query.rfHz ≤ 2000000000
  minimum : query.minGr = 0 ∨ query.minGr = 20
  fromMinimum : query.minGr ≤ query.gRdB
  toMaximum : query.gRdB ≤ 59

/-- The number of LNA states in the bands of `validate_update`. -/
def bandStates (rfHz : ℚ) : Nat :=
  if rfHz < 60000000 then 7 else if rfHz < 1000000000 then 10 else 9

/-- The number of LNA states in the table, after rounding to a kilohertz. -/
def tableStates (rfHz : ℚ) : Nat :=
  if rfHz < 59999500 then 7 else if rfHz < 999999500 then 10 else 9

theorem lnaGainReduction_isSome (query : GainQuery ℚ) (atMost : query.rfHz ≤ 2000000000) :
    query.lnaGainReduction.isSome = decide (query.lnaState.toNat < bandStates query.rfHz) := by
  have listed (reductions : List Int32) : reductions[query.lnaState.toNat]?.isSome =
        decide (query.lnaState.toNat < reductions.length) := by
    by_cases inside : query.lnaState.toNat < reductions.length
    · simp [inside]
    · simp [inside]
  have reduction : query.lnaGainReduction =
        if query.rfHz < 60000000 then
          LnaBand.below60Mhz.reductions[query.lnaState.toNat]?
        else if query.rfHz < 420000000 then
          LnaBand.below420Mhz.reductions[query.lnaState.toNat]?
        else if query.rfHz < 1000000000 then
          LnaBand.below1Ghz.reductions[query.lnaState.toNat]?
        else if query.rfHz ≤ 2000000000 then
          LnaBand.below2Ghz.reductions[query.lnaState.toNat]?
        else none := by
    unfold lnaGainReduction
    norm_num
  rw [reduction, bandStates]
  by_cases below60Mhz : query.rfHz < 60000000
  · rw [if_pos below60Mhz, if_pos below60Mhz, listed]
    rfl
  · rw [if_neg below60Mhz, if_neg below60Mhz]
    by_cases below420Mhz : query.rfHz < 420000000
    · have below1Ghz : query.rfHz < 1000000000 := below420Mhz.trans (by norm_num)
      rw [if_pos below420Mhz, if_pos below1Ghz, listed]
      rfl
    · rw [if_neg below420Mhz]
      by_cases below1Ghz : query.rfHz < 1000000000
      · rw [if_pos below1Ghz, if_pos below1Ghz, listed]
        rfl
      · rw [if_neg below1Ghz, if_neg below1Ghz, if_pos atMost, listed]
        rfl

theorem accepted_iff (query : GainQuery ℚ) (inRange : query.InRange) : query.accepted = true ↔
      query.lnaState.toNat < bandStates query.rfHz ∧
        (query.highImpedance = true → query.rfHz < 60000000 → query.lnaState.toNat < 5) := by
  have port : query.amPortLnaStateValid = true ↔
        (query.highImpedance = true → query.rfHz < 60000000 → query.lnaState.toNat < 5) := by
    have states : query.lnaState < 5 ↔ query.lnaState.toNat < 5 := UInt8.lt_iff_toNat_lt
    have edge : query.rfHz ≥ 60000000.0 ↔ ¬query.rfHz < 60000000 := by
      norm_num
    simp only [amPortLnaStateValid, highImpedance, Bool.or_eq_true,
      Bool.and_eq_true, bne_iff_ne, beq_iff_eq, decide_eq_true_eq, states,
      edge]
    tauto
  unfold accepted
  simp only [Bool.and_eq_true, decide_eq_true_eq, inRange.fromMinimum,
    inRange.toMaximum, lnaGainReduction_isSome query inRange.atMost, port,
    true_and]

/-- Rounding to a kilohertz. -/
theorem le_roundedKilohertz (rfHz : ℚ) (kilohertz : ℤ) :
    kilohertz ≤ ⌊(rfHz + 500) / 1000⌋ ↔ (kilohertz : ℚ) * 1000 ≤ rfHz + 500 := by
  rw [Int.le_floor, le_div_iff₀ (by norm_num)]

/-- The frequency looked up in the main table. -/
theorem lookupHz_eq (query : GainQuery ℚ) (notHighImpedance : query.highImpedance = false) :
    query.lookupHz =
      if query.rfHz < 1000 then query.rfHz
      else (⌊(query.rfHz + 500) / 1000⌋ : ℤ) * 1000 := by
  have edge : query.rfHz < 1000.0 ↔ query.rfHz < 1000 := by norm_num
  have rounded : (FrequencyType.floor ((query.rfHz + 500.0) / 1000.0) * 1000.0 : ℚ) =
        (⌊(query.rfHz + 500) / 1000⌋ : ℤ) * 1000 := by
    have halves : (query.rfHz + 500.0 : ℚ) / 1000.0 =
        (query.rfHz + 500) / 1000 := by
      norm_num
    have unit : (1000.0 : ℚ) = 1000 := by norm_num
    rw [halves, unit]
    rfl
  rw [lookupHz, notHighImpedance, rounded]
  simp only [Bool.false_eq_true, false_or, edge]

/-- The part of the table a frequency is looked up in. -/
theorem lookupHz_band (query : GainQuery ℚ) (inRange : query.InRange)
    (notHighImpedance : query.highImpedance = false) :
    0 ≤ query.lookupHz ∧ query.lookupHz ≤ 2000000000 ∧
      (query.lookupHz ≤ 59999000 ∧ tableStates query.rfHz = 7 ∨
        60000000 ≤ query.lookupHz ∧ query.lookupHz ≤ 999999000 ∧ tableStates query.rfHz = 10 ∨
        1000000000 ≤ query.lookupHz ∧ tableStates query.rfHz = 9) := by
  have nonnegative := inRange.nonnegative
  have atMost := inRange.atMost
  rw [lookupHz_eq query notHighImpedance]
  by_cases small : query.rfHz < 1000
  · have low : query.rfHz < 59999500 := small.trans (by norm_num)
    rw [if_pos small, tableStates, if_pos low]
    exact ⟨nonnegative, atMost, Or.inl ⟨by linarith, rfl⟩⟩
  · rw [if_neg small]
    have bounds := le_roundedKilohertz query.rfHz
    generalize ⌊(query.rfHz + 500) / 1000⌋ = kilohertz at bounds ⊢
    have fromZero : 0 ≤ kilohertz := (bounds 0).mpr (by norm_num; linarith)
    have toEnd : kilohertz ≤ 2000000 := by
      by_contra beyond
      have reached := (bounds 2000001).mp (by omega)
      norm_num at reached
      linarith
    have fromZero' : (0 : ℚ) ≤ kilohertz := by exact_mod_cast fromZero
    have toEnd' : (kilohertz : ℚ) ≤ 2000000 := by exact_mod_cast toEnd
    refine ⟨by linarith, by linarith, ?_⟩
    by_cases below60Mhz : query.rfHz < 59999500
    · have below : kilohertz ≤ 59999 := by
        by_contra beyond
        have reached := (bounds 60000).mp (by omega)
        norm_num at reached
        linarith
      have below' : (kilohertz : ℚ) ≤ 59999 := by exact_mod_cast below
      rw [tableStates, if_pos below60Mhz]
      exact Or.inl ⟨by linarith, rfl⟩
    · have above : 60000 ≤ kilohertz := (bounds 60000).mpr (by norm_num; linarith)
      have above' : (60000 : ℚ) ≤ kilohertz := by exact_mod_cast above
      rw [tableStates, if_neg below60Mhz]
      by_cases below1Ghz : query.rfHz < 999999500
      · have below : kilohertz ≤ 999999 := by
          by_contra beyond
          have reached := (bounds 1000000).mp (by omega)
          norm_num at reached
          linarith
        have below' : (kilohertz : ℚ) ≤ 999999 := by exact_mod_cast below
        rw [if_pos below1Ghz]
        exact Or.inr (Or.inl ⟨by linarith, by linarith, rfl⟩)
      · have fromBound : 1000000 ≤ kilohertz := (bounds 1000000).mpr (by norm_num; linarith)
        have fromBound' : (1000000 : ℚ) ≤ kilohertz := by
          exact_mod_cast fromBound
        rw [if_neg below1Ghz]
        exact Or.inr (Or.inr ⟨by linarith, rfl⟩)

/-- The table of the high impedance input has five states throughout. -/
theorem bracketingStateCounts_highImpedance (lookupHz : ℚ) :
    bracketingStateCounts lookupHz (stateKnots ℚ highImpedanceGainKnots) = some (5, 5) := by
  have counts :
      ∀ knot ∈ stateKnots ℚ highImpedanceGainKnots, knot.stateCount = 5 := by
    decide +kernel
  exact congrArg some (findStateCounts_uniform lookupHz _ _ 5 rfl counts)

theorem valued_iff (query : GainQuery ℚ) (inRange : query.InRange) : query.valued = true ↔
      query.lnaState.toNat <
        if query.highImpedance then 5 else tableStates query.rfHz := by
  have asked : ¬(!FrequencyType.isFinite query.rfHz ∨ query.rfHz < 0.0 ∨
        query.rfHz > 2000000000.0 ∨
        (query.minGr ≠ 0 ∧ query.minGr ≠ 20) ∨
        query.gRdB < query.minGr ∨ query.gRdB > 59) := by
    rintro (finite | negative | beyond | minimum | less | more)
    · cases finite
    · norm_num at negative
      exact absurd negative (not_lt.mpr inRange.nonnegative)
    · norm_num at beyond
      exact absurd beyond (not_lt.mpr inRange.atMost)
    · exact inRange.minimum.elim minimum.1 minimum.2
    · exact absurd inRange.fromMinimum (Int32.not_le.mpr less)
    · exact absurd inRange.toMaximum (Int32.not_le.mpr more)
  rw [valued, if_neg asked]
  cases input : query.highImpedance with
  | true =>
      have states : query.lnaState ≥ 5 ↔ ¬query.lnaState.toNat < 5 := by
        rw [ge_iff_le, UInt8.le_iff_toNat_le, Nat.not_lt]
        rfl
      rw [table, input, if_pos rfl, bracketingStateCounts_highImpedance]
      simp [states]
  | false =>
      obtain ⟨nonnegative, inTable, band⟩ := lookupHz_band query inRange input
      rw [table, input, if_neg (by simp), if_neg (by simp),
        bracketingStateCounts_gainKnots query.lookupHz nonnegative inTable
          (tableStates query.rfHz) band]
      simp

/-- Away from these settings the checks agree.  Near 60 MHz and 1 GHz the table
already rounds into the next band; the high impedance input has five states
above 60 MHz in the table and those of the other input in the bands. -/
def OffEdges (query : GainQuery ℚ) : Prop :=
  if query.highImpedance then
    60000000 ≤ query.rfHz → 5 ≤ query.lnaState.toNat → bandStates query.rfHz ≤ query.lnaState.toNat
  else
    (59999500 ≤ query.rfHz → query.rfHz < 60000000 →
        query.lnaState.toNat < 7 ∨ 10 ≤ query.lnaState.toNat) ∧
      (999999500 ≤ query.rfHz → query.rfHz < 1000000000 → query.lnaState.toNat ≠ 9)

/-- The gain check of an update and the computation of the gain values accept
the same settings exactly off the edges. -/
theorem gain_checks_agree_iff (query : GainQuery ℚ) (inRange : query.InRange) :
    (query.accepted = true ↔ query.valued = true) ↔ query.OffEdges := by
  rw [accepted_iff query inRange, valued_iff query inRange, OffEdges]
  cases query.highImpedance with
  | true =>
      simp only [true_implies, if_true]
      have atLeastFive : 5 ≤ bandStates query.rfHz := by
        unfold bandStates
        split_ifs <;> omega
      by_cases below60Mhz : query.rfHz < 60000000
      · simp only [below60Mhz, true_implies, not_le.mpr below60Mhz, false_implies, iff_true]
        omega
      · simp only [below60Mhz, false_implies, and_true, not_lt.mp below60Mhz, true_implies]
        omega
  | false =>
      simp only [Bool.false_eq_true, false_implies, and_true, if_false]
      generalize query.lnaState.toNat = state
      rw [bandStates, tableStates]
      by_cases below60Mhz : query.rfHz < 60000000
      · have below1Ghz : ¬999999500 ≤ query.rfHz := not_le.mpr (below60Mhz.trans (by norm_num))
        simp only [below60Mhz, if_true, below1Ghz, not_le.mp below1Ghz,
          false_implies, and_true, true_implies]
        by_cases rounded : query.rfHz < 59999500
        · simp only [rounded, if_true, not_le.mpr rounded, false_implies]
        · simp only [rounded, if_false, not_lt.mp rounded, true_implies]
          omega
      · have above60Mhz : ¬query.rfHz < 59999500 := by
          intro below
          exact below60Mhz (below.trans (by norm_num))
        simp only [below60Mhz, above60Mhz, if_false, false_implies, implies_true, true_and]
        by_cases below1Ghz : query.rfHz < 1000000000
        · by_cases rounded : query.rfHz < 999999500
          · simp only [below1Ghz, rounded, if_true, not_le.mpr rounded, false_implies]
          · simp only [below1Ghz, rounded, if_true, if_false, not_lt.mp rounded, true_implies]
            omega
        · have above1Ghz : ¬query.rfHz < 999999500 := by
            intro below
            exact below1Ghz (below.trans (by norm_num))
          simp only [below1Ghz, above1Ghz, if_false, false_implies, implies_true]

/-- Tuner B at 100 MHz in its last LNA state. -/
def tunerBHundredMegahertz : GainQuery ℚ := ⟨100000000, 9, 40, 20, .b, amPort2⟩

theorem tunerBHundredMegahertz_agrees :
    tunerBHundredMegahertz.accepted = true ∧ tunerBHundredMegahertz.valued = true := by
  have accepts : tunerBHundredMegahertz.accepted = true := by
    decide +kernel
  have inRange : tunerBHundredMegahertz.InRange :=
    ⟨by decide +kernel, by decide +kernel, Or.inr rfl, by decide +kernel, by decide +kernel⟩
  have offEdges : tunerBHundredMegahertz.OffEdges := by
    rw [OffEdges]
    decide +kernel
  exact ⟨accepts, ((gain_checks_agree_iff _ inRange).mpr offEdges).mp accepts⟩

/-- The high impedance input of tuner A at 60 MHz in state 5, which an update
accepts and which has no gain values. -/
def highImpedanceSixtyMegahertz : GainQuery ℚ := ⟨60000000, 5, 40, 20, .a, amPort1⟩

theorem highImpedanceSixtyMegahertz_disagrees : highImpedanceSixtyMegahertz.InRange ∧
      highImpedanceSixtyMegahertz.accepted = true ∧
      highImpedanceSixtyMegahertz.valued = false := by
  have inRange : highImpedanceSixtyMegahertz.InRange :=
    ⟨by decide +kernel, by decide +kernel, Or.inr rfl, by decide +kernel, by decide +kernel⟩
  exact ⟨inRange, by decide +kernel, by decide +kernel⟩

end GainQuery

end OpenRsp
