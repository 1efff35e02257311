import OpenRsp.Compat.Parameters

/-!
# Gain plans of the driver

`mirisdr_rspduo_gain_plan_with_controls` in `third_party/libmirisdr/src/reg.c`
turns a frequency, a gain reduction and an LNA state into register words, and
refuses what it has no row for.  The daemon takes a refusal for a hardware
failure, so what the interface accepts should have a plan.

The driver knows ten ranges of the frequency and the interface four; each
range of the driver has as many rows as its range of the interface has LNA
states.  But `validate_update` looks only at the fields its mask names, and at
the frequency before it is corrected.
-/

namespace OpenRsp

/-! ## The tables -/

/-- `struct rspduo_gain_row`. -/
structure RspduoGainRow where
  reg9Base : UInt16
  tunerAFirst4b : UInt16
  tunerA4a : UInt16
  tunerAFinal4b : UInt16
  tunerB4a : UInt16
  tunerBFinal4b : UInt16
deriving DecidableEq, Repr

/-- `struct rspduo_gain_band`. -/
structure RspduoGainBand where
  rows : List RspduoGainRow
  tunerBBankThreshold : UInt32
  tunerBDefault4b : UInt16
  tunerBTogglesBankBit : Bool
deriving DecidableEq, Repr

/-- `LOW_GAIN_ROWS`. -/
def lowGainRows (a4a b4a : UInt16) : List RspduoGainRow :=
  [⟨0xc000, 0x12ff, a4a, 0x13ff, b4a, 0x13ff⟩,
    ⟨0xc000, 0x12ff, a4a, 0x13fb, b4a, 0x13df⟩,
    ⟨0xc000, 0x12ff, a4a, 0x13f7, b4a, 0x13bf⟩,
    ⟨0xc000, 0x12ff, a4a, 0x13ef, b4a, 0x137f⟩,
    ⟨0xd000, 0x12ff, a4a, 0x13ef, b4a, 0x137f⟩,
    ⟨0xcc00, 0x12ff, a4a, 0x13ef, b4a, 0x137f⟩,
    ⟨0xdc00, 0x12ff, a4a, 0x13ef, b4a, 0x137f⟩]

/-- `MID_GAIN_ROWS`. -/
def midGainRows (aLo aHi bLo bHi lastReg9 : UInt16) : List RspduoGainRow :=
  [⟨0xc000, 0x12df, aLo, 0x13ff, bLo, 0x13fe⟩,
    ⟨0xc000, 0x12df, aLo, 0x13fb, bLo, 0x13de⟩,
    ⟨0xc000, 0x12df, aLo, 0x13f7, bLo, 0x13be⟩,
    ⟨0xc000, 0x12df, aLo, 0x13ef, bLo, 0x137e⟩,
    ⟨0xc000, 0x12ff, aHi, 0x13ff, bHi, 0x13ff⟩,
    ⟨0xc000, 0x12ff, aHi, 0x13fb, bHi, 0x13df⟩,
    ⟨0xc000, 0x12ff, aHi, 0x13f7, bHi, 0x13bf⟩,
    ⟨0xc000, 0x12ff, aHi, 0x13ef, bHi, 0x137f⟩,
    ⟨0xd000, 0x12ff, aHi, 0x13ef, bHi, 0x137f⟩,
    ⟨lastReg9, 0x12ff, aHi, 0x13ef, bHi, 0x137f⟩]

/-- `rspduo_gain_below_1ghz`. -/
def rspduoGainBelow1Ghz : List RspduoGainRow :=
  [⟨0xc000, 0x12df, 0x12a4, 0x13ff, 0x13c8, 0x13fe⟩,
    ⟨0xe000, 0x12df, 0x12a4, 0x13ff, 0x13c8, 0x13fe⟩,
    ⟨0xe000, 0x12df, 0x12a4, 0x13fb, 0x13c8, 0x13de⟩,
    ⟨0xe000, 0x12df, 0x12a4, 0x13f7, 0x13c8, 0x13be⟩,
    ⟨0xc000, 0x12ff, 0x12a6, 0x13ff, 0x13cc, 0x13ff⟩,
    ⟨0xe000, 0x12ff, 0x12a6, 0x13ff, 0x13cc, 0x13ff⟩,
    ⟨0xe000, 0x12ff, 0x12a6, 0x13fb, 0x13cc, 0x13df⟩,
    ⟨0xe000, 0x12ff, 0x12a6, 0x13f7, 0x13cc, 0x13bf⟩,
    ⟨0xe000, 0x12ff, 0x12a6, 0x13ef, 0x13cc, 0x137f⟩,
    ⟨0xf000, 0x12ff, 0x12a6, 0x13ef, 0x13cc, 0x137f⟩]

/-- `rspduo_gain_below_2ghz`. -/
def rspduoGainBelow2Ghz : List RspduoGainRow :=
  [⟨0xc000, 0x12df, 0x12b4, 0x13ff, 0x13e8, 0x13fe⟩,
    ⟨0xc000, 0x12df, 0x12b4, 0x13fb, 0x13e8, 0x13de⟩,
    ⟨0xc000, 0x12df, 0x12b4, 0x13f7, 0x13e8, 0x13be⟩,
    ⟨0xc000, 0x12ff, 0x12b6, 0x13ff, 0x13ec, 0x13ff⟩,
    ⟨0xc000, 0x12ff, 0x12b6, 0x13fb, 0x13ec, 0x13df⟩,
    ⟨0xc000, 0x12ff, 0x12b6, 0x13f7, 0x13ec, 0x13bf⟩,
    ⟨0xc000, 0x12ff, 0x12b6, 0x13ef, 0x13ec, 0x137f⟩,
    ⟨0xe000, 0x12ff, 0x12b6, 0x13ef, 0x13ec, 0x137f⟩,
    ⟨0xf000, 0x12ff, 0x12b6, 0x13ef, 0x13ec, 0x137f⟩]

/-- `rspduo_gain_band`. -/
def rspduoGainBand (frequency : UInt32) : Option RspduoGainBand :=
  if frequency < 1000 ∨ frequency > 2000000000 then none
  else if frequency < 12000000 then
    some ⟨lowGainRows 0x12a2 0x13c4, 0, 0x13ff, false⟩
  else if frequency < 30000000 then
    some ⟨lowGainRows 0x12a1 0x13c2, 0, 0x13ff, false⟩
  else if frequency < 60000000 then
    some ⟨lowGainRows 0x12a3 0x13c6, 0, 0x13ff, false⟩
  else if frequency < 120000000 then
    some ⟨midGainRows 0x12a4 0x12a6 0x13c8 0x13cc 0xe000, 4, 0x13fe, true⟩
  else if frequency < 250000000 then
    some ⟨midGainRows 0x12b4 0x12b6 0x13e8 0x13ec 0xe000, 4, 0x13fe, true⟩
  else if frequency < 300000000 then
    some ⟨midGainRows 0x12b0 0x12b2 0x13e0 0x13e4 0xcc00, 4, 0x13fe, true⟩
  else if frequency < 380000000 then
    some ⟨midGainRows 0x12a8 0x12aa 0x13d0 0x13d4 0xcc00, 4, 0x13fe, true⟩
  else if frequency < 420000000 then
    some ⟨midGainRows 0x12b8 0x12ba 0x13f0 0x13f4 0xcc00, 4, 0x13fe, true⟩
  else if frequency < 1000000000 then
    some ⟨rspduoGainBelow1Ghz, 4, 0x13fe, true⟩
  else some ⟨rspduoGainBelow2Ghz, 3, 0x13fe, true⟩

/-! ## The plan -/

/-- `mirisdr_rspduo_gain_plan_t`. -/
structure RspduoGainPlan where
  reg9 : UInt32
  firstGpio4b : UInt16
  gpio4a : UInt16
  finalGpio4b : UInt16
deriving DecidableEq, Repr

/-- `rspduo_active_low`. -/
def rspduoActiveLow (value mask : UInt16) (enabled : UInt32) : UInt16 :=
  if enabled ≠ 0 then value &&& ~~~mask else value ||| mask

/-- `am_port1_reg9`. -/
def amPort1Reg9 : List UInt16 := [0xc000, 0xc400, 0xc800, 0xcc00, 0xdc00]

/-- The last GPIO word and the controls of the front end that a plan is made
with. -/
structure RspduoControls where
  previousGpio4b : UInt16
  rfNotch : UInt32
  dabNotch : UInt32
  externalReference : UInt32
  amPort : UInt32
  amNotch : UInt32
deriving DecidableEq, Repr

/-- The words for a row of the table. -/
def planRow (frequency tuner : UInt32) (gainReduction : Int32)
    (lnaState : UInt32) (controls : RspduoControls) (band : RspduoGainBand)
    (row : RspduoGainRow) : RspduoGainPlan :=
  let amInput := controls.amPort = 1 ∧ frequency < 60000000
  let reg9Base :=
    if tuner = 1 ∧ amInput then amPort1Reg9.getD lnaState.toNat 0
    else row.reg9Base
  let reg9 :=
    reg9Base.toUInt32 ||| (gainReduction.toUInt32 <<< 4) ||| 1
  if tuner = 1 then
    let notched :=
      rspduoActiveLow
        (rspduoActiveLow row.tunerAFirst4b 0x0010 controls.rfNotch) 0x0040
        controls.dabNotch
    { reg9 := reg9
      firstGpio4b :=
        if frequency < 60000000 then
          rspduoActiveLow notched 0x0008 controls.amNotch
        else notched
      gpio4a := rspduoActiveLow row.tunerA4a 0x0020 controls.externalReference
      finalGpio4b := if amInput then 0x13ff else row.tunerAFinal4b }
  else
    let previous :=
      if controls.previousGpio4b ≠ 0 then controls.previousGpio4b
      else band.tunerBDefault4b
    let banked :=
      if band.tunerBTogglesBankBit then
        if lnaState < band.tunerBBankThreshold then previous &&& ~~~1
        else previous ||| 1
      else previous
    { reg9 := reg9
      firstGpio4b := rspduoActiveLow banked 0x0002 controls.dabNotch
      gpio4a := row.tunerB4a
      finalGpio4b := rspduoActiveLow row.tunerBFinal4b 0x0002 controls.dabNotch }

/-- `mirisdr_rspduo_gain_plan_with_controls`. -/
def mirisdrRspduoGainPlanWithControls (frequency tuner : UInt32)
    (gainReduction : Int32) (lnaState : UInt32)
    (controls : RspduoControls) : Option RspduoGainPlan :=
  if (tuner ≠ 1 ∧ tuner ≠ 2) ∨ gainReduction < 0 ∨ gainReduction > 59 ∨
      controls.rfNotch > 1 ∨ controls.dabNotch > 1 ∨
      controls.externalReference > 1 ∨ controls.amPort < 1 ∨
      controls.amPort > 2 ∨ controls.amNotch > 1 then
    none
  else
    match rspduoGainBand frequency with
    | none => none
    | some band =>
        if tuner = 1 ∧ controls.amPort = 1 ∧ frequency < 60000000 ∧
            lnaState ≥ 5 then
          none
        else
          (band.rows[lnaState.toNat]?).map
            (planRow frequency tuner gainReduction lnaState controls band)

/-- The controls of a configuration as `set_rspduo_controls` passes them
on. -/
def RadioConfig.controls (config : RadioConfig) (previousGpio4b : UInt16) :
    RspduoControls where
  previousGpio4b := previousGpio4b
  rfNotch := config.rfNotchEnabled
  dabNotch := config.dabNotchEnabled
  externalReference := config.externalReferenceEnabled
  amPort := if config.amPortSelect ≠ 0 then 1 else 2
  amNotch := config.amNotchEnabled

/-- The driver has a plan for a configuration, whatever it last wrote to the
front end. -/
def RadioConfig.Plannable (config : RadioConfig) : Prop :=
  ∀ previousGpio4b, (mirisdrRspduoGainPlanWithControls config.centerFrequencyHz config.tuner
      config.gainReductionDb config.lnaState
      (config.controls previousGpio4b)).isSome = true

/-- The configuration sent for a tuner has a plan. -/
def DeviceBlocks.Plannable (device : DeviceBlocks) (tuner : TunerSelect) :
    Prop :=
  ∃ config, fillRadioConfigTuner device tuner = some config ∧ config.Plannable

/-! ## Ranges of the interface and of the driver -/

/-- The range of the interface a frequency in hertz falls into. -/
def LnaBand.ofHertz (frequency : UInt32) : LnaBand :=
  if frequency < 60000000 then .below60Mhz
  else if frequency < 420000000 then .below420Mhz
  else if frequency < 1000000000 then .below1Ghz
  else .below2Ghz

/-- The driver has a range from 1 kHz to 2 GHz, with a row for each LNA state
of the interface. -/
theorem rspduoGainBand_rows (frequency : UInt32) : (rspduoGainBand frequency).map (·.rows.length) =
      if 1000 ≤ frequency ∧ frequency ≤ 2000000000 then
        some (LnaBand.ofHertz frequency).reductions.length
      else none := by
  simp only [rspduoGainBand, LnaBand.ofHertz, UInt32.lt_iff_toNat_lt,
    UInt32.le_iff_toNat_le, gt_iff_lt, UInt32.reduceToNat]
  generalize frequency.toNat = hertz
  by_cases range : 1000 ≤ hertz ∧ hertz ≤ 2000000000
  · rw [if_neg (by omega), if_pos range]
    -- The limits of the interface are limits of the driver, which divides
    -- the two lower ranges further.
    rcases Nat.lt_or_ge hertz 60000000 with low | from60Mhz
    · rw [if_pos low, if_pos low]
      split
      · rfl
      · split <;> rfl
    rw [if_neg (by omega), if_neg (by omega), if_neg from60Mhz.not_gt, if_neg from60Mhz.not_gt]
    rcases Nat.lt_or_ge hertz 420000000 with mid | from420Mhz
    · rw [if_pos mid, if_pos mid]
      split
      · rfl
      · split
        · rfl
        · split
          · rfl
          · split <;> rfl
    rw [if_neg (by omega), if_neg (by omega), if_neg (by omega),
      if_neg (by omega), if_neg from420Mhz.not_gt, if_neg from420Mhz.not_gt]
    rcases Nat.lt_or_ge hertz 1000000000 with high | from1Ghz
    · rw [if_pos high, if_pos high]
      rfl
    · rw [if_neg from1Ghz.not_gt, if_neg from1Ghz.not_gt]
      rfl
  · rw [if_pos (by omega), if_neg range]
    rfl

/-- Controls the driver accepts. -/
def RspduoControls.Valid (controls : RspduoControls) : Prop :=
  controls.rfNotch ≤ 1 ∧ controls.dabNotch ≤ 1 ∧
    controls.externalReference ≤ 1 ∧ 1 ≤ controls.amPort ∧
    controls.amPort ≤ 2 ∧ controls.amNotch ≤ 1

/-- What the driver has a plan for. -/
theorem gainPlan_isSome_iff (frequency : UInt32) {tuner : UInt32}
    (gainReduction : Int32) (lnaState : UInt32) {controls : RspduoControls}
    (known : tuner = 1 ∨ tuner = 2) (valid : controls.Valid) :
    (mirisdrRspduoGainPlanWithControls frequency tuner gainReduction lnaState
        controls).isSome = true ↔
      (0 ≤ gainReduction ∧ gainReduction ≤ 59) ∧
        (1000 ≤ frequency ∧ frequency ≤ 2000000000) ∧
        lnaState.toNat < (LnaBand.ofHertz frequency).reductions.length ∧
        ¬(tuner = 1 ∧ controls.amPort = 1 ∧ frequency < 60000000 ∧ lnaState ≥ 5) := by
  obtain ⟨rfNotch, dabNotch, externalReference, amLow, amHigh, amNotch⟩ := valid
  have rows := rspduoGainBand_rows frequency
  unfold mirisdrRspduoGainPlanWithControls
  by_cases reduction : 0 ≤ gainReduction ∧ gainReduction ≤ 59
  · have accepted : ¬((tuner ≠ 1 ∧ tuner ≠ 2) ∨ gainReduction < 0 ∨ gainReduction > 59 ∨
          controls.rfNotch > 1 ∨ controls.dabNotch > 1 ∨
          controls.externalReference > 1 ∨ controls.amPort < 1 ∨
          controls.amPort > 2 ∨ controls.amNotch > 1) := by
      grind
    rw [if_neg accepted]
    split_ifs at rows with range
    · obtain ⟨band, found, length⟩ := Option.map_eq_some_iff.mp rows
      simp only [found]
      split_ifs with amInput
      · simp [amInput]
      · simp [reduction, range, amInput, length]
    · rw [Option.map_eq_none_iff.mp rows]
      simp [range]
  · have refused : (tuner ≠ 1 ∧ tuner ≠ 2) ∨ gainReduction < 0 ∨ gainReduction > 59 ∨
          controls.rfNotch > 1 ∨ controls.dabNotch > 1 ∨
          controls.externalReference > 1 ∨ controls.amPort < 1 ∨
          controls.amPort > 2 ∨ controls.amNotch > 1 := by
      grind
    rw [if_pos refused]
    simp [reduction]

/-- The controls of a filled configuration are always accepted. -/
theorem controls_valid {device : DeviceBlocks} {tuner : TunerSelect}
    {config : RadioConfig}
    (filled : fillRadioConfigTuner device tuner = some config)
    (previousGpio4b : UInt16) : (config.controls previousGpio4b).Valid := by
  unfold fillRadioConfigTuner at filled
  dsimp only at filled
  split at filled
  · cases filled
    refine ⟨flagWord_le _, flagWord_le _, flagWord_le _, ?_, ?_, flagWord_le _⟩
    all_goals
      simp only [RadioConfig.controls]
      split_ifs <;> decide
  · cases filled

/-! ## Accepted updates -/

/-- What the interface could know about the fields it sends: the gain
reduction is one of the driver's, and at the frequency sent, not the one asked
for, the LNA state is one of its table and of the AM input. -/
structure GainFits (channel : RxChannelParams) (tuner : TunerSelect)
    (frequency : UInt32) : Prop where
  reduction : 0 ≤ channel.tunerParams.gain.gRdB ∧ channel.tunerParams.gain.gRdB ≤ 59
  range : 1000 ≤ frequency ∧ frequency ≤ 2000000000
  state : channel.tunerParams.gain.lnaState.toNat < (LnaBand.ofHertz frequency).reductions.length
  amPort : tuner ≠ .b → channel.rspDuoTunerParams.tuner1AmPortSel = amPort1 →
      frequency < 60000000 → channel.tunerParams.gain.lnaState < 5

/-- The frequencies of a tuner can be sent, and the gain fits the one that
is. -/
def DeviceBlocks.GainFitsSent (device : DeviceBlocks) (tuner : TunerSelect) :
    Prop :=
  ∃ config, fillRadioConfigTuner device tuner = some config ∧
      GainFits (device.channelForTuner tuner) tuner config.centerFrequencyHz

/-- An accepted update has named a port of the AM input. -/
theorem amPort_of_validateUpdate {libm : Libm} {device : DeviceBlocks}
    {tuner : TunerSelect} {reason extension : UInt32}
    (accepted : validateUpdate libm device tuner reason extension = .success) :
    (device.channelForTuner tuner).rspDuoTunerParams.tuner1AmPortSel =
        amPort1 ∨
      (device.channelForTuner tuner).rspDuoTunerParams.tuner1AmPortSel =
        amPort2 := by
  by_contra neither
  have unknown := not_or.mp neither
  simp only [validateUpdate, if_pos unknown] at accepted
  split_ifs at accepted

/-- The fields of a filled configuration the plan is made from. -/
theorem fill_fields {device : DeviceBlocks} {tuner : TunerSelect}
    {config : RadioConfig}
    (filled : fillRadioConfigTuner device tuner = some config) :
    config.tuner = (if tuner = .b then 2 else 1) ∧
      config.gainReductionDb = (device.channelForTuner tuner).tunerParams.gain.gRdB ∧
      config.lnaState = (device.channelForTuner tuner).tunerParams.gain.lnaState.toUInt32 ∧
      config.amPortSelect = (device.channelForTuner tuner).rspDuoTunerParams.tuner1AmPortSel := by
  unfold fillRadioConfigTuner at filled
  dsimp only at filled
  split at filled
  · cases filled
    exact ⟨rfl, rfl, rfl, rfl⟩
  · cases filled

theorem plannable_iff_of_fill {device : DeviceBlocks} {tuner : TunerSelect}
    {config : RadioConfig}
    (filled : fillRadioConfigTuner device tuner = some config)
    (known : (device.channelForTuner tuner).rspDuoTunerParams.tuner1AmPortSel =
          amPort1 ∨
        (device.channelForTuner tuner).rspDuoTunerParams.tuner1AmPortSel = amPort2) :
    config.Plannable ↔ GainFits (device.channelForTuner tuner) tuner
        config.centerFrequencyHz := by
  obtain ⟨number, reduction, state, port⟩ := fill_fields filled
  have tunerKnown : config.tuner = 1 ∨ config.tuner = 2 := by
    rw [number]
    split_ifs
    · exact .inr rfl
    · exact .inl rfl
  have amInput (previousGpio4b : UInt16) :
      (config.tuner = 1 ∧ (config.controls previousGpio4b).amPort = 1) ↔ tuner ≠ .b ∧
          (device.channelForTuner tuner).rspDuoTunerParams.tuner1AmPortSel =
            amPort1 := by
    rcases known with first | second
    · simp [number, RadioConfig.controls, port, first, amPort1]
    · simp [RadioConfig.controls, port, second, amPort1, amPort2]
  have plan (previousGpio4b : UInt16) :=
    gainPlan_isSome_iff config.centerFrequencyHz config.gainReductionDb
      config.lnaState tunerKnown (controls_valid filled previousGpio4b)
  have stateNumber :
      config.lnaState.toNat = (device.channelForTuner tuner).tunerParams.gain.lnaState.toNat := by
    rw [state, UInt8.toNat_toUInt32]
  have stateBound :
      config.lnaState ≥ 5 ↔ ¬(device.channelForTuner tuner).tunerParams.gain.lnaState < 5 := by
    rw [ge_iff_le, UInt32.le_iff_toNat_le, stateNumber, UInt8.lt_iff_toNat_lt]
    exact Nat.not_lt.symm
  constructor
  · intro plannable
    obtain ⟨bounded, range, rows, noAm⟩ := (plan 0).mp (plannable 0)
    refine ⟨reduction ▸ bounded, range, stateNumber ▸ rows, ?_⟩
    intro notB selected below
    by_contra high
    obtain ⟨isA, isAm⟩ := (amInput 0).mpr ⟨notB, selected⟩
    exact noAm ⟨isA, isAm, below, stateBound.mpr high⟩
  · intro fits previousGpio4b
    refine (plan previousGpio4b).mpr
      ⟨reduction ▸ fits.reduction, fits.range, stateNumber ▸ fits.state, ?_⟩
    rintro ⟨isA, isAm, below, high⟩
    obtain ⟨notB, selected⟩ := (amInput previousGpio4b).mp ⟨isA, isAm⟩
    exact stateBound.mp high (fits.amPort notB selected below)

/-- An accepted update has a plan exactly if the gain fits the frequency that
is sent. -/
theorem accepted_update_plannable_iff (libm : Libm) (device : DeviceBlocks)
    (tuner : TunerSelect) (reason extension : UInt32)
    (accepted : validateUpdate libm device tuner reason extension = .success) :
    device.Plannable tuner ↔ device.GainFitsSent tuner := by
  have known := amPort_of_validateUpdate accepted
  constructor
  · rintro ⟨config, filled, plannable⟩
    exact ⟨config, filled, (plannable_iff_of_fill filled known).mp plannable⟩
  · rintro ⟨config, filled, fits⟩
    exact ⟨config, filled, (plannable_iff_of_fill filled known).mpr fits⟩

/-- A single tuner at a frequency, with LNA state 9. -/
def tunedTo (rfHz : Float) : DeviceBlocks :=
  let channel : RxChannelParams :=
    { tunerParams :=
        { bwType := 1536
          ifType := 0
          loMode := loAuto
          gain := ⟨40, 9, 0, normalMinGr, ⟨0.0, 0.0, 0.0⟩⟩
          rfFreq := ⟨rfHz, 0⟩
          dcOffsetTuner := ⟨3, 0, 1, 2048⟩ }
      ctrlParams :=
        { dcOffset := ⟨1, 1⟩
          decimation := ⟨0, 1⟩
          agc := ⟨agcDisable, -60, 0, 0, 0, 0, 0⟩
          adsbMode := 0 }
      rspDuoTunerParams := ⟨0, amPort2, 0, 0, 0, 0, 0⟩ }
  { mode := .singleTuner
    tuner := .a
    duoRole := .none
    devParams := ⟨0.0, 2000000.0, 0, 0, 0, 0, 0, 0, 0⟩
    channelA := channel
    channelB := channel }

/-- The gain of that tuner has a plan exactly up to 1 GHz. -/
theorem tunedTo_plannable_iff {rfHz : Float} {frequency : UInt32}
    (sent :
      (fillRadioConfigTuner (tunedTo rfHz) .a).map RadioConfig.centerFrequencyHz = some frequency) :
    (tunedTo rfHz).Plannable .a ↔ (1000 ≤ frequency ∧ frequency ≤ 2000000000) ∧
        9 < (LnaBand.ofHertz frequency).reductions.length := by
  obtain ⟨config, filled, rfl⟩ := Option.map_eq_some_iff.mp sent
  have plan := plannable_iff_of_fill filled (.inr rfl)
  constructor
  · rintro ⟨other, otherFilled, plannable⟩
    rw [filled] at otherFilled
    cases otherFilled
    exact ⟨(plan.mp plannable).range, (plan.mp plannable).state⟩
  · rintro ⟨range, state⟩
    have reduction : (0 : Int32) ≤ 40 ∧ (40 : Int32) ≤ 59 := by decide
    exact ⟨config, filled, plan.mpr ⟨reduction, range, state, fun _ selected => by cases selected⟩⟩

theorem retuned_below_1ghz_plannable :
    validateUpdate floatLibm (tunedTo 700000000.0) .a updateTunerFrf 0 =
        .success ∧
      (tunedTo 700000000.0).GainFitsSent .a := by
  have accepted :
      validateUpdate floatLibm (tunedTo 700000000.0) .a updateTunerFrf 0 = .success := by
    decide +kernel
  have sent : (fillRadioConfigTuner (tunedTo 700000000.0) .a).map
        RadioConfig.centerFrequencyHz = some 700000000 := by
    decide +kernel
  exact ⟨accepted, (accepted_update_plannable_iff floatLibm (tunedTo 700000000.0) .a
      updateTunerFrf 0 accepted).mp ((tunedTo_plannable_iff sent).mpr (by decide))⟩

/-- LNA state 9 exists below 1 GHz only.  Retuning beyond leaves it as it is,
and is accepted. -/
theorem retuned_above_1ghz_refused : (tunedTo 700000000.0).Plannable .a ∧
      validateUpdate floatLibm (tunedTo 1500000000.0) .a updateTunerFrf 0 = .success ∧
      ¬(tunedTo 1500000000.0).Plannable .a := by
  have before : (fillRadioConfigTuner (tunedTo 700000000.0) .a).map
        RadioConfig.centerFrequencyHz = some 700000000 := by
    decide +kernel
  have after : (fillRadioConfigTuner (tunedTo 1500000000.0) .a).map
        RadioConfig.centerFrequencyHz = some 1500000000 := by
    decide +kernel
  refine ⟨(tunedTo_plannable_iff before).mpr (by decide), by decide +kernel, ?_⟩
  rw [tunedTo_plannable_iff after]
  decide

end OpenRsp
