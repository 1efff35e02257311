import Mathlib
import OpenRsp.Library.BitFields

/-!
# The frequency in the registers of the tuner

`mirisdr_set_soft` of `third_party/libmirisdr/src/soft.c` turns a centre
frequency into words for the registers of the tuner.  It divides rounding down
several times and masks what it stores.  The frequency the hardware makes of
the words is read back here from the words alone.
-/

namespace OpenRsp.Driver

open BitFields

/-! ## Bands -/

/-- `mirisdr_hw_flavour_t`. -/
inductive HwFlavour where
  | default
  | sdrplay
deriving DecidableEq, Repr

/-- `hw_switch_freq_plan_t`; `low_cut` is in megahertz. -/
structure SwitchPlan where
  lowCut : Nat
  mode : Int
  upconvertMixerOn : Nat
  amPort : Nat
  loDiv : Nat
  bandSelectWord : Nat
deriving DecidableEq, Repr

/-- The first row of `hw_switch_freq_plan`. -/
def firstPlan : HwFlavour → SwitchPlan
  | .default => ⟨0, 1, 1, 1, 16, 0xf780⟩
  | .sdrplay => ⟨0, 1, 1, 1, 16, 0xf580⟩

/-- Its other rows. -/
def furtherPlans : HwFlavour → List SwitchPlan
  | .default =>
      [⟨12, 1, 1, 1, 16, 0xff80⟩, ⟨30, 1, 1, 1, 16, 0xf280⟩,
        ⟨50, 2, 0, 0, 32, 0xf380⟩, ⟨108, 4, 0, 0, 16, 0xfa80⟩,
        ⟨250, 4, 0, 0, 16, 0xf680⟩, ⟨259, 6, 0, 0, 8, 0xf680⟩,
        ⟨330, 8, 0, 0, 4, 0xf380⟩, ⟨960, 16, 0, 0, 2, 0xfa80⟩,
        ⟨2400, -1, 0, 0, 0, 0⟩]
  | .sdrplay =>
      [⟨12, 1, 1, 1, 16, 0xf580⟩, ⟨30, 1, 1, 1, 16, 0xf580⟩,
        ⟨50, 2, 0, 0, 32, 0xf180⟩, ⟨112, 4, 0, 0, 16, 0xf580⟩,
        ⟨250, 4, 0, 0, 16, 0xf480⟩, ⟨261, 6, 0, 0, 8, 0xf480⟩,
        ⟨404, 8, 0, 0, 4, 0xf580⟩, ⟨1000, 16, 0, 0, 2, 0xf580⟩,
        ⟨2400, -1, 0, 0, 0, 0⟩]

/-- The loop of `mirisdr_set_soft` over the rows. -/
def selectPlan (freq : Nat) : SwitchPlan → List SwitchPlan → SwitchPlan
  | previous, [] => previous
  | previous, plan :: plans =>
      if 1000000 * plan.lowCut ≤ freq then
        if plan.mode < 0 then previous else selectPlan freq plan plans
      else previous

def switchPlan (flavour : HwFlavour) (freq : Nat) : SwitchPlan :=
  selectPlan freq (firstPlan flavour) (furtherPlans flavour)

/-- The shift of the band in hertz. -/
def SwitchPlan.offset (plan : SwitchPlan) : Nat :=
  if plan.mode = 1 ∧ plan.upconvertMixerOn ≠ 0 then 120000000 else 0

/-- The modes with their mixer and divider. -/
def bandModes : List (Int × Nat × Nat) :=
  [(1, 1, 16), (2, 0, 32), (4, 0, 16), (6, 0, 8), (8, 0, 4), (16, 0, 2)]

/-- Every frequency gets a band of the hardware, in which the integer part
of the ratio fits its six bits exactly below 3072 MHz. -/
theorem switchPlan_spec (flavour : HwFlavour) (freq : Nat) :
    let plan := switchPlan flavour freq
    (plan.mode, plan.upconvertMixerOn, plan.loDiv) ∈ bandModes ∧
      plan.amPort ≤ 1 ∧
      ((freq + plan.offset) * plan.loDiv < 64 * 96000000 ↔ freq < 3072000000) := by
  cases flavour <;>
    simp +decide only [switchPlan, firstPlan, furtherPlans, selectPlan, if_true, if_false] <;>
    split_ifs <;>
    refine ⟨by decide, by decide, ?_⟩ <;>
    simp +decide only [SwitchPlan.offset, if_true, if_false] <;>
    omega

/-! ## The words of the tuner -/

/-- What the synthesiser is given: the integer and the fractional part of a
ratio, and a correction in units of 1/4096 of the fraction's. -/
structure Ratio where
  n : Nat
  thresh : Nat
  frac : Nat
  afc : Nat
deriving DecidableEq, Repr

/-- The ratio for an RSPduo.  The sums and products of the source stay below
2^64. -/
def rspduoRatio (target loDiv : Nat) : Ratio :=
  let fvco := target * loDiv
  let n := fvco / 96000000
  let nativeThresh := 96000000 / loDiv
  let thresh := 3000
  let frac := fvco % 96000000 / loDiv * thresh / nativeThresh
  let rfvco :=
    96000000 * (n * thresh * 4096 + frac * 4096) / (thresh * 4096 * loDiv)
  let afc := (target - rfvco) * thresh * 4096 * loDiv / 96000000
  ⟨n, thresh, frac, if 0 < afc then afc - 1 else afc⟩

/-- The ratio for the other receivers, in which a difference may wrap. -/
def legacyRatio (target loDiv : Nat) : Ratio :=
  let fvco := target * loDiv
  let n := fvco / 96000000
  let common := Nat.gcd (96000000 / loDiv) (fvco % 96000000 / loDiv)
  let reduced := 96000000 / loDiv / common
  let a := (reduced + 4094) / 4095
  let thresh := (reduced + a / 2) / a
  let rounded := (fvco % 96000000 / loDiv / common + a / 2) / a
  let rfvco (frac : Nat) :=
    96000000 * (n * thresh * 4096 + frac * 4096) % 2 ^ 64 / (thresh * 4096 * loDiv)
  let frac :=
    if target < rfvco rounded then (rounded + 2 ^ 64 - 1) % 2 ^ 64 else rounded
  ⟨n, thresh, frac, (target + 2 ^ 64 - rfvco frac) * (thresh * 4096 * loDiv) % 2 ^ 64 / 96000000⟩

/-- The ratio of an RSPduo fits its fields and falls short of the one asked
for by less than two units of the correction. -/
theorem rspduoRatio_spec {loDiv : Nat} (divider : loDiv ∈ [2, 4, 8, 16, 32]) (target : Nat) :
    let ratio := rspduoRatio target loDiv
    let units := (ratio.n * 3000 + ratio.frac) * 4096 + ratio.afc
    ratio.n = target * loDiv / 96000000 ∧ ratio.frac < 3000 ∧
      ratio.afc < 4096 ∧ units * 125 ≤ target * loDiv * 16 ∧
      target * loDiv * 16 < (units + 2) * 125 := by
  -- Once the divider is a number, each rounding is a linear fact.
  simp only [List.mem_cons, List.not_mem_nil, or_false] at divider
  rcases divider with rfl | rfl | rfl | rfl | rfl <;>
    dsimp only [rspduoRatio] <;>
    split_ifs <;>
    refine ⟨rfl, ?_, ?_, ?_, ?_⟩ <;>
    omega

/-- The band in register 0. -/
def bandWord (mode : Int) (upconvertMixerOn amPort : Nat) : Nat :=
  if mode = 1 then
    1 <<< 4 ||| upconvertMixerOn <<< 9 ||| amPort <<< 11
  else mode.toNat <<< 4

/-- The intermediate frequencies of the tuner. -/
inductive IfFreq where
  | zero
  | khz450
  | khz1620
  | khz2048
deriving DecidableEq, Repr

/-- Their codes in register 0. -/
def IfFreq.code : IfFreq → Nat
  | .zero => 3
  | .khz450 => 2
  | .khz1620 => 1
  | .khz2048 => 0

/-- What `mirisdr_set_soft` reads of a device.  `bandwidth` counts the
bandwidths from 200 kHz on, of which the ninth is the widest, and `xtal` the
crystals. -/
structure SoftDevice where
  rspduo : Bool
  flavour : HwFlavour
  freq : UInt32
  ifFreq : IfFreq
  bandwidth : Fin 9
  xtal : Fin 6
  rspduoTuner : Nat
  rspduoAmPort : Nat
  bias : Bool
deriving DecidableEq, Repr

namespace SoftDevice

/-- The row in force, with the antenna port of an RSPduo. -/
def plan (device : SoftDevice) : SwitchPlan :=
  let plan := switchPlan device.flavour device.freq.toNat
  if device.rspduo ∧ device.rspduoTuner = 1 ∧ plan.mode = 1 then
    { plan with amPort := if device.rspduoAmPort = 1 then 0 else 1 }
  else plan

/-- The crystal's code. -/
def xtalCode (device : SoftDevice) : Nat :=
  if device.xtal.val < 3 then device.xtal.val else device.xtal.val - 1

def reg0 (device : SoftDevice) : Nat :=
  bandWord device.plan.mode device.plan.upconvertMixerOn
      device.plan.amPort ||| 1 <<< 10 ||| device.ifFreq.code <<< 12 |||
    min device.bandwidth.val 7 <<< 14 ||| device.xtalCode <<< 17

def ratio (device : SoftDevice) : Ratio :=
  let target := device.freq.toNat + device.plan.offset
  if device.rspduo then rspduoRatio target device.plan.loDiv
  else legacyRatio target device.plan.loDiv

def reg2 (device : SoftDevice) : Nat :=
  2 ||| (device.ratio.frac % 4096) <<< 4 ||| (device.ratio.n % 64) <<< 16

def reg3 (device : SoftDevice) : Nat := 3 ||| (device.ratio.afc % 4096) <<< 4

def reg5 (device : SoftDevice) : Nat := 5 ||| (device.ratio.thresh % 4096) <<< 4 ||| 0x28 <<< 16

def regd (device : SoftDevice) : Nat :=
  if device.bandwidth = 8 then 0x0d ||| 1 <<< 4 else 0x0d

/-- `mirisdr_set_soft`: its result and the words written, each with its
address.  `routed` says whether the switches of the front end could be
set. -/
def setSoft (device : SoftDevice) (routed : Bool) :
    Int × List (Nat × Nat) :=
  if device.rspduo then
    if routed then
      (0, [(9, device.reg0), (9, device.reg3), (9, device.reg2), (9, device.regd), (9, 0x0e)])
    else (-1, [(9, device.reg0)])
  else
    (0, [(8, device.plan.bandSelectWord |||
        if device.bias then 1 <<< 11 else 0),
      (9, device.reg3), (9, 0x0e), (9, device.reg0), (9, device.reg5),
      (9, device.reg2), (9, device.regd)])

end SoftDevice

/-! ## What the tuner makes of them -/

/-- The registers of the tuner: address 9 takes a word whose low four bits
name the register. -/
def writeTuner (registers : Nat → Nat) (write : Nat × Nat) : Nat → Nat :=
  fun register =>
    if write.1 = 9 ∧ register = write.2 % 16 then write.2
    else registers register

/-- The tuner after `mirisdr_adc_init` of an RSPduo. -/
def adcInit (registers : Nat → Nat) : Nat → Nat :=
  [(5, 0x00000c), (9, 0x00000e), (0, 0x000200), (2, 0x004801),
    (9, 0x28bb85)].foldl writeTuner registers

/-- The divider of the local oscillator in a mode. -/
def modeDivider (mode : Nat) : Nat :=
  if mode = 1 then 16
  else if mode = 2 then 32
  else if mode = 4 then 16
  else if mode = 6 then 8
  else if mode = 8 then 4
  else 2

def tunedMode (registers : Nat → Nat) : Nat := registers 0 / 16 % 32

/-- The frequency the registers stand for, in hertz. -/
def tunedHz (registers : Nat → Nat) : ℚ :=
  let integer : ℚ := (registers 2 / 65536 % 64 : Nat)
  let frac : ℚ := (registers 2 / 16 % 4096 : Nat)
  let afc : ℚ := (registers 3 / 16 % 4096 : Nat)
  let thresh : ℚ := (registers 5 / 16 % 4096 : Nat)
  let shift : ℚ := (registers 0 / 512 % 2 : Nat)
  (integer + (frac + afc / 4096) / thresh) * 96000000 /
      modeDivider (tunedMode registers) - shift * 120000000

/-- The fields of the band in register 0. -/
theorem bandWord_fields : ∀ band ∈ bandModes, ∀ amPort < 2,
      let word := bandWord band.1 band.2.1 amPort ||| 1 <<< 10
      word < 2 ^ 12 ∧ word % 16 = 0 ∧ word / 16 % 32 = band.1.toNat ∧
        word / 512 % 2 = band.2.1 ∧
        modeDivider band.1.toNat = band.2.2 := by
  decide

namespace SoftDevice

variable (device : SoftDevice)

theorem plan_spec : (device.plan.mode, device.plan.upconvertMixerOn, device.plan.loDiv) ∈
        bandModes ∧
      device.plan.amPort < 2 ∧
      ((device.freq.toNat + device.plan.offset) * device.plan.loDiv <
          64 * 96000000 ↔
        device.freq.toNat < 3072000000) := by
  obtain ⟨isBand, port, fits⟩ := switchPlan_spec device.flavour device.freq.toNat
  unfold plan
  dsimp only
  split_ifs
  · exact ⟨isBand, Nat.zero_lt_two, fits⟩
  · exact ⟨isBand, Nat.one_lt_two, fits⟩
  · exact ⟨isBand, Nat.lt_succ_of_le port, fits⟩

theorem offset_eq :
    device.plan.offset = device.plan.upconvertMixerOn * 120000000 := by
  have shifts : ∀ band ∈ bandModes, (if band.1 = 1 ∧ band.2.1 ≠ 0 then 120000000 else 0) =
          band.2.1 * 120000000 := by
    decide
  exact shifts _ device.plan_spec.1

theorem loDiv_mem : device.plan.loDiv ∈ [2, 4, 8, 16, 32] := by
  have dividers : ∀ band ∈ bandModes, band.2.2 ∈ [2, 4, 8, 16, 32] := by
    decide
  exact dividers _ device.plan_spec.1

theorem reg0_fields : device.reg0 % 16 = 0 ∧
      device.reg0 / 16 % 32 = device.plan.mode.toNat ∧
      device.reg0 / 512 % 2 = device.plan.upconvertMixerOn := by
  obtain ⟨isBand, port, -⟩ := device.plan_spec
  obtain ⟨small, number, mode, shift, -⟩ := bandWord_fields _ isBand _ port
  have ifCode : device.ifFreq.code < 2 ^ 2 := by
    cases device.ifFreq <;> decide
  unfold reg0
  dsimp only at small number mode shift
  generalize bandWord device.plan.mode device.plan.upconvertMixerOn
      device.plan.amPort ||| 1 <<< 10 = word at small number mode shift ⊢
  have narrow : min device.bandwidth.val 7 < 2 ^ 3 := Nat.lt_succ_of_le (Nat.min_le_right _ _)
  have withIf : device.ifFreq.code * 2 ^ 12 + word < 2 ^ 14 := field_lt small ifCode
  have withBandwidth :
      min device.bandwidth.val 7 * 2 ^ 14 + (device.ifFreq.code * 2 ^ 12 + word) < 2 ^ 17 :=
    field_lt withIf narrow
  rw [or_field small, or_field withIf, or_field withBandwidth]
  omega

theorem reg2_fields : device.reg2 % 16 = 2 ∧
      device.reg2 / 16 % 4096 = device.ratio.frac % 4096 ∧
      device.reg2 / 65536 % 64 = device.ratio.n % 64 := by
  have small : 2 < 2 ^ 4 := by
    norm_num
  have withFrac : device.ratio.frac % 4096 * 2 ^ 4 + 2 < 2 ^ 16 := by
    omega
  unfold reg2
  rw [or_field small, or_field withFrac]
  omega

theorem reg3_fields :
    device.reg3 % 16 = 3 ∧ device.reg3 / 16 % 4096 = device.ratio.afc % 4096 := by
  have small : 3 < 2 ^ 4 := by
    norm_num
  unfold reg3
  rw [or_field small]
  omega

/-- The registers of an RSPduo's tuner once it is tuned. -/
theorem setSoft_registers (isRspduo : device.rspduo = true) (registers : Nat → Nat) :
    let tuned :=
      (device.setSoft true).2.foldl writeTuner (adcInit registers)
    tuned 0 = device.reg0 ∧ tuned 2 = device.reg2 ∧ tuned 3 = device.reg3 ∧ tuned 5 = 0x28bb85 := by
  have number0 := device.reg0_fields.1
  have number2 := device.reg2_fields.1
  have number3 := device.reg3_fields.1
  have numberD : device.regd % 16 = 13 := by
    unfold regd
    split_ifs <;> decide
  simp [setSoft, isRspduo, writeTuner, adcInit, number0, number2, number3, numberD]

end SoftDevice

section Units

variable {freq offset loDiv units : Nat}

theorem below_iff (positive : (0 : ℚ) < loDiv) :
    (freq : ℚ) - 125 / 8 / loDiv < (units : ℚ) * 125 / 16 / loDiv - offset ↔
      (freq + offset) * loDiv * 16 < (units + 2) * 125 := by
  rw [sub_lt_iff_lt_add, sub_add_eq_add_sub, lt_sub_iff_add_lt,
    ← add_div, lt_div_iff₀ positive, ← @Nat.cast_lt ℚ]
  push_cast
  constructor <;> intro below <;> linarith

theorem above_iff (positive : (0 : ℚ) < loDiv) : (units : ℚ) * 125 / 16 / loDiv - offset ≤ freq ↔
      units * 125 ≤ (freq + offset) * loDiv * 16 := by
  rw [sub_le_iff_le_add, div_le_iff₀ positive, ← @Nat.cast_le ℚ]
  push_cast
  constructor <;> intro above <;> linarith

end Units

/-- An RSPduo is tuned at most two units of the correction below the
frequency it was given, and never above it, exactly if that frequency is
below 3072 MHz: from there on the integer part of the ratio does not fit its
field. -/
theorem registers_tune_iff (device : SoftDevice)
    (isRspduo : device.rspduo = true) (registers : Nat → Nat) :
    let tuned :=
      (device.setSoft true).2.foldl writeTuner (adcInit registers)
    (device.freq.toNat - 125 / 8 / (modeDivider (tunedMode tuned) : ℚ) <
          tunedHz tuned ∧
        tunedHz tuned ≤ device.freq.toNat) ↔
      device.freq.toNat < 3072000000 := by
  intro tuned
  obtain ⟨is0, is2, is3, is5⟩ :
      tuned 0 = _ ∧ tuned 2 = _ ∧ tuned 3 = _ ∧ tuned 5 = _ :=
    device.setSoft_registers isRspduo registers
  obtain ⟨isBand, port, fits⟩ := device.plan_spec
  obtain ⟨-, mode, shift⟩ := device.reg0_fields
  have divider : modeDivider device.plan.mode.toNat = device.plan.loDiv :=
    (bandWord_fields _ isBand _ port).2.2.2.2
  obtain ⟨isN, frac, afc, lower, upper⟩ :=
    rspduoRatio_spec device.loDiv_mem (device.freq.toNat + device.plan.offset)
  have isRatio : device.ratio = rspduoRatio (device.freq.toNat + device.plan.offset)
          device.plan.loDiv :=
    if_pos isRspduo
  rw [← isRatio] at isN frac afc lower upper
  have tunedMode_eq : tunedMode tuned = device.plan.mode.toNat := by
    rw [tunedMode, is0, mode]
  have positive : (0 : ℚ) < device.plan.loDiv := by
    have divides := device.loDiv_mem
    rw [Nat.cast_pos]
    by_contra zero
    simp [Nat.eq_zero_of_not_pos zero] at divides
  -- The units of the correction the words stand for.
  have tunedHz_eq : tunedHz tuned = (((device.ratio.n % 64 * 3000 + device.ratio.frac) * 4096 +
              device.ratio.afc : Nat) : ℚ) *
            125 / 16 / device.plan.loDiv -
          device.plan.offset := by
    have fraction : device.ratio.frac % 4096 = device.ratio.frac :=
      Nat.mod_eq_of_lt (frac.trans (by norm_num))
    unfold tunedHz
    rw [tunedMode_eq, is0, is2, is3, is5, divider, shift,
      device.reg2_fields.2.1, device.reg2_fields.2.2,
      device.reg3_fields.2, fraction, Nat.mod_eq_of_lt afc,
      device.offset_eq]
    push_cast
    field_simp
    ring
  rw [tunedHz_eq, tunedMode_eq, divider, ← fits, below_iff positive, above_iff positive]
  generalize (device.freq.toNat + device.plan.offset) *
      device.plan.loDiv = product at isN lower upper ⊢
  rcases Nat.lt_or_ge product (64 * 96000000) with small | large
  · have kept : device.ratio.n % 64 = device.ratio.n :=
      Nat.mod_eq_of_lt (isN ▸ Nat.div_lt_of_lt_mul (by omega))
    rw [kept]
    exact iff_of_true ⟨upper, lower⟩ small
  · have wrapped : device.ratio.n % 64 + 64 ≤ device.ratio.n := by
      have : 64 ≤ product / 96000000 := (Nat.le_div_iff_mul_le (by norm_num)).mpr large
      omega
    refine iff_of_false (fun near => ?_) (Nat.not_lt.mpr large)
    have := near.1
    clear fits
    omega

/-- An RSPduo at 100 MHz. -/
def duoAtHundredMegahertz : SoftDevice := ⟨true, .sdrplay, 100000000, .zero, 7, 2, 1, 0, false⟩

theorem duoAtHundredMegahertz_tuned : duoAtHundredMegahertz.rspduo = true ∧
      let tuned :=
        (duoAtHundredMegahertz.setSoft true).2.foldl writeTuner (adcInit fun _ => 0)
      100000000 - 125 / 8 / (modeDivider (tunedMode tuned) : ℚ) <
          tunedHz tuned ∧
        tunedHz tuned ≤ 100000000 :=
  ⟨rfl, (registers_tune_iff duoAtHundredMegahertz rfl fun _ => 0).mpr (by decide)⟩

end OpenRsp.Driver
