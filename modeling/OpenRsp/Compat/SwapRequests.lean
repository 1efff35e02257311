import OpenRsp.Compat.Session
import OpenRsp.Daemon.OwnerRequests
import OpenRsp.Library.DoubleOrder

/-!
# Requests for a swap

`sdrplay_api_SwapRspDuoActiveTuner` and `sdrplay_api_SwapRspDuoMode` of
`compat/sdrplay_api_compat.c` up to the request they send, against the checks
`serve_request` of `daemon/openrspd.c` makes of it.  The tuner swap copies
the active channel onto the other tuner and clears the bias tee, which tuner A
lacks, but not the AM port and notch, which tuner B lacks.
-/

namespace OpenRsp

open Doubles

/-! ## The calls -/

/-- The arguments of `sdrplay_api_SwapRspDuoActiveTuner`; `handle` says that
the device is the one selected and the pointer is given. -/
structure TunerSwapCall where
  handle : Bool
  currentTuner : TunerSelect
  tuner1AmPort : UInt32
deriving DecidableEq, Repr

/-- The arguments of `sdrplay_api_SwapRspDuoMode`; `pointers` says that both
are given, `handle` that the device is the one selected. -/
structure ModeSwapCall where
  pointers : Bool
  handle : Bool
  mode : RspDuoMode
  sampleRate : Float
  tuner : TunerSelect
  bandwidth : UInt32
  ifType : Int32
  tuner1AmPort : UInt32
deriving DecidableEq, Repr

/-- The tuner a swap leads to. -/
def nextTuner (tuner : TunerSelect) : TunerSelect :=
  if tuner = .a then .b else .a

/-- The channel the next tuner starts with. -/
def carriedChannel (channel : RxChannelParams) (next : TunerSelect) :
    RxChannelParams :=
  if next = .a then
    { channel with
      rspDuoTunerParams := { channel.rspDuoTunerParams with biasTEnable := 0 } }
  else channel

/-- Set the bandwidth and the intermediate frequency of a channel. -/
def RxChannelParams.setBand (channel : RxChannelParams) (bandwidth : UInt32)
    (ifType : Int32) : RxChannelParams :=
  { channel with
    tunerParams :=
      { channel.tunerParams with bwType := bandwidth, ifType := ifType } }

/-- Select the AM port of a channel. -/
def RxChannelParams.setAmPort (channel : RxChannelParams) (port : UInt32) :
    RxChannelParams :=
  { channel with
    rspDuoTunerParams :=
      { channel.rspDuoTunerParams with tuner1AmPortSel := port } }

namespace ApiContext

variable (libm : Libm) (context : ApiContext)

/-- `sdrplay_api_SwapRspDuoActiveTuner` up to its request: the parameters it
is made from, or the error returned. -/
def prepareTunerSwap (call : TunerSwapCall) : Except ApiError DeviceBlocks :=
  let blocks := context.blocks
  let next := nextTuner blocks.tuner
  let copied :=
    blocks.modifyChannel next fun _ =>
      carriedChannel (blocks.channelForTuner blocks.tuner) next
  if !call.handle then .error .invalidParam
  else if !context.initialized ∨ blocks.mode ≠ .singleTuner ∨
      (call.currentTuner ≠ .a ∧ call.currentTuner ≠ .b) ∨
      call.currentTuner ≠ blocks.tuner then
    .error .invalidMode
  else if call.tuner1AmPort ≠ amPort1 ∧ call.tuner1AmPort ≠ amPort2 then
    .error .invalidParam
  else if !validateDspConfiguration libm (copied.channelForTuner next)
      blocks.devParams.fsHz then
    .error .outOfRange
  else .ok copied

/-- The low intermediate frequency dual-tuner mode asks for at a rate. -/
def dualIf? (sampleRate : Float) : Option Int32 :=
  if sampleRate == 6000000.0 then some 1620
  else if sampleRate == 8000000.0 then some 2048
  else none

/-- The checks `sdrplay_api_SwapRspDuoMode` makes of its arguments. -/
def modeSwapChecks (call : ModeSwapCall) : ApiError :=
  if !call.pointers then .invalidParam
  else if !call.handle ∨ !context.initialized then .invalidMode
  else if call.mode ≠ .singleTuner ∧ call.mode ≠ .dualTuner then
    .invalidParam
  else if call.mode = context.blocks.mode then .invalidMode
  else if !call.sampleRate.isFinite ∨ !validBandwidth call.bandwidth ∨
      !validIf call.ifType ∨
      (call.tuner1AmPort ≠ amPort1 ∧ call.tuner1AmPort ≠ amPort2) then
    .outOfRange
  else if call.mode = .dualTuner then
    if call.tuner ≠ .both ∨ dualIf? call.sampleRate ≠ some call.ifType ∨
        call.bandwidth > bw1536 ∨ !context.callbacks.streamB then
      .outOfRange
    else .success
  else if (call.tuner ≠ .a ∧ call.tuner ≠ .b) ∨
      call.sampleRate < 2000000.0 ∨ call.sampleRate > 10660000.0 ∨
      (call.ifType ≠ ifZero ∧ call.bandwidth > bw1536) then
    .outOfRange
  else .success

/-- The parameters a mode swap is made with. -/
def modeSwapBlocks (call : ModeSwapCall) : DeviceBlocks :=
  let blocks :=
    { context.blocks with
      devParams :=
        { context.blocks.devParams with fsHz := call.sampleRate } }
  if call.mode = .dualTuner then
    { blocks with
      channelA := (blocks.channelA.setBand call.bandwidth call.ifType).setAmPort call.tuner1AmPort
      channelB := blocks.channelB.setBand call.bandwidth call.ifType }
  else
    blocks.modifyChannel call.tuner fun channel =>
      let set := channel.setBand call.bandwidth call.ifType
      if call.tuner = .a then set.setAmPort call.tuner1AmPort else set

/-- `sdrplay_api_SwapRspDuoMode` up to its request. -/
def prepareModeSwap (call : ModeSwapCall) : Except ApiError DeviceBlocks :=
  let changed := context.modeSwapBlocks call
  let first :=
    if call.mode = .dualTuner then changed.channelA
    else changed.channelForTuner call.tuner
  match context.modeSwapChecks call with
  | .success =>
      if !validateDspConfiguration libm first call.sampleRate ∨
          (call.mode = .dualTuner ∧
            !validateDspConfiguration libm changed.channelB call.sampleRate) then
        .error .outOfRange
      else .ok changed
  | error => .error error

end ApiContext

/-! ## The requests -/

/-- The `openrsp_swap_request` of a tuner swap; there is none when a
frequency cannot be converted. -/
def tunerSwapRequest (blocks : DeviceBlocks) : Option SwapRequest :=
  let next := nextTuner blocks.tuner
  (fillRadioConfigTuner blocks next).map fun config =>
    ⟨if next = .b then tunerB else tunerA, config⟩

/-- The `openrsp_mode_swap_request` of a mode swap. -/
def modeSwapRequest (blocks : DeviceBlocks) (call : ModeSwapCall) :
    Option ModeSwapRequest :=
  if call.mode = .dualTuner then do
    let sampleRateHz ← toUInt32? call.sampleRate
    let channelA ← fillRadioConfigTuner blocks .a
    let channelB ← fillRadioConfigTuner blocks .b
    return ⟨modeDual, .zeroed, ⟨sampleRateHz, channelA, channelB⟩⟩
  else do
    let single ← fillRadioConfigTuner blocks call.tuner
    return ⟨modeSingle, single, ⟨0, .zeroed, .zeroed⟩⟩

/-- The checks of `serve_request` on an `openrsp_swap_request`. -/
def SwapRequest.acceptable (swap : SwapRequest) : Bool :=
  (swap.tuner == tunerA || swap.tuner == tunerB) &&
    openrspdConfigValid swap.config && swap.config.tuner == swap.tuner

/-! ## What the daemon checks of a channel -/

/-- The fields of a channel within what the daemon takes for a tuner. -/
structure RxChannelParams.AcceptableOn (channel : RxChannelParams)
    (tuner : TunerSelect) : Prop where
  gain : 0 ≤ channel.tunerParams.gain.gRdB ∧ channel.tunerParams.gain.gRdB ≤ 59
  lna : channel.tunerParams.gain.lnaState.toUInt32 ≤ 9
  agcMode : 0 ≤ channel.ctrlParams.agc.enable.toInt32 ∧ channel.ctrlParams.agc.enable.toInt32 ≤ 4
  agcSetpoint : -72 ≤ channel.ctrlParams.agc.setPointDbfs ∧ channel.ctrlParams.agc.setPointDbfs ≤ 0
  amPort : channel.rspDuoTunerParams.tuner1AmPortSel ≤ 1
  tunerA : tuner ≠ .b → channel.rspDuoTunerParams.biasTEnable = 0
  tunerB : tuner = .b → channel.rspDuoTunerParams.tuner1AmPortSel = amPort2 ∧
        channel.rspDuoTunerParams.tuner1AmNotchEnable = 0

@[simp]
theorem flagWord_eq_zero (flag : Bool) :
    flagWord flag = 0 ↔ flag = false := by
  cases flag <;> decide

/-- A filled configuration passes the check exactly if its rate is not zero
and the channel is within what its tuner takes. -/
theorem filled_valid_iff {blocks : DeviceBlocks} {tuner : TunerSelect}
    {config : RadioConfig}
    (filled : fillRadioConfigTuner blocks tuner = some config) :
    openrspdConfigValid config = true ↔
      config.sampleRateHz ≠ 0 ∧ (blocks.channelForTuner tuner).AcceptableOn tuner := by
  unfold fillRadioConfigTuner at filled
  dsimp only at filled
  split at filled
  · obtain rfl := Option.some.inj filled
    generalize blocks.channelForTuner tuner = channel
    by_cases onB : tuner = .b
    · have tuners : (tunerB == tunerA) = false := by decide
      simp only [openrspdConfigValid, onB, if_true, tuners, flagWord_le,
        Bool.and_eq_true, decide_eq_true_eq, bne_iff_ne, Bool.false_and,
        Bool.not_false, beq_self_eq_true, Bool.true_and, Bool.not_eq_true',
        Bool.or_eq_false_iff, bne_eq_false_iff_eq, flagWord_eq_zero,
        Bool.false_or, and_true]
      constructor
      · intro valid
        obtain ⟨⟨⟨⟨⟨⟨⟨⟨⟨rate, least⟩, most⟩, lna⟩, agcLeast⟩, agcMost⟩,
          setLeast⟩, setMost⟩, port⟩, select, notch⟩ := valid
        exact ⟨rate,
          { gain := ⟨least, most⟩
            lna := lna
            agcMode := ⟨agcLeast, agcMost⟩
            agcSetpoint := ⟨setLeast, setMost⟩
            amPort := port
            tunerA := fun notB => absurd rfl notB
            tunerB := fun _ => ⟨select, notch⟩ }⟩
      · rintro ⟨rate, acceptable⟩
        obtain ⟨select, notch⟩ := acceptable.tunerB rfl
        exact ⟨⟨⟨⟨⟨⟨⟨⟨⟨rate, acceptable.gain.1⟩, acceptable.gain.2⟩,
          acceptable.lna⟩, acceptable.agcMode.1⟩, acceptable.agcMode.2⟩,
          acceptable.agcSetpoint.1⟩, acceptable.agcSetpoint.2⟩,
          acceptable.amPort⟩, select, notch⟩
    · have tuners : (tunerA == tunerB) = false := by decide
      simp only [openrspdConfigValid, onB, if_false, tuners, flagWord_le,
        Bool.and_eq_true, decide_eq_true_eq, bne_iff_ne, Bool.false_and,
        Bool.not_false, beq_self_eq_true, Bool.true_and, Bool.not_eq_true',
        bne_eq_false_iff_eq, flagWord_eq_zero, Bool.or_false, and_true]
      constructor
      · intro valid
        obtain ⟨⟨⟨⟨⟨⟨⟨⟨⟨rate, least⟩, most⟩, lna⟩, agcLeast⟩, agcMost⟩,
          setLeast⟩, setMost⟩, port⟩, bias⟩ := valid
        exact ⟨rate,
          { gain := ⟨least, most⟩
            lna := lna
            agcMode := ⟨agcLeast, agcMost⟩
            agcSetpoint := ⟨setLeast, setMost⟩
            amPort := port
            tunerA := fun _ => bias
            tunerB := fun isB => absurd isB onB }⟩
      · rintro ⟨rate, acceptable⟩
        exact ⟨⟨⟨⟨⟨⟨⟨⟨⟨rate, acceptable.gain.1⟩, acceptable.gain.2⟩,
          acceptable.lna⟩, acceptable.agcMode.1⟩, acceptable.agcMode.2⟩,
          acceptable.agcSetpoint.1⟩, acceptable.agcSetpoint.2⟩,
          acceptable.amPort⟩, acceptable.tunerA onB⟩
  · cases filled

/-- The parts of a filled configuration. -/
theorem filled_parts {blocks : DeviceBlocks} {tuner : TunerSelect}
    {config : RadioConfig}
    (filled : fillRadioConfigTuner blocks tuner = some config) :
    toUInt32? blocks.devParams.fsHz = some config.sampleRateHz ∧
      config.tuner = (if tuner = .b then tunerB else tunerA) ∧
      config.ifFrequencyHz = (blocks.channelForTuner tuner).tunerParams.ifFrequencyHz ∧
      (config.bandwidthHz =
          (blocks.channelForTuner tuner).tunerParams.bwType * 1000 ∨
        config.bandwidthHz = 1536000) := by
  unfold fillRadioConfigTuner at filled
  dsimp only at filled
  split at filled
  case h_1 rate center isRate isCenter =>
    obtain rfl := Option.some.inj filled
    refine ⟨isRate, rfl, rfl, ?_⟩
    dsimp only
    split_ifs
    · exact .inr rfl
    · exact .inl rfl
  case h_2 => cases filled

/-! ## The tuner swap -/

/-- The channel of a tuner yields a configuration the daemon accepts. -/
def DeviceBlocks.Accepted (blocks : DeviceBlocks) (tuner : TunerSelect) :
    Prop :=
  ∃ config, fillRadioConfigTuner blocks tuner = some config ∧ openrspdConfigValid config = true

theorem DeviceBlocks.Accepted.acceptableOn {blocks : DeviceBlocks}
    {tuner : TunerSelect} (accepted : blocks.Accepted tuner) :
    (blocks.channelForTuner tuner).AcceptableOn tuner := by
  obtain ⟨config, filled, valid⟩ := accepted
  exact ((filled_valid_iff filled).mp valid).2

namespace ApiContext

variable {libm : Libm} {context : ApiContext}

/-- What a tuner swap that gets as far as its request has found and done. -/
theorem prepareTunerSwap_ok {call : TunerSwapCall} {after : DeviceBlocks}
    (prepared : context.prepareTunerSwap libm call = .ok after) :
    context.blocks.mode = .singleTuner ∧
      (context.blocks.tuner = .a ∨ context.blocks.tuner = .b) ∧
      validateDspConfiguration libm
        (after.channelForTuner (nextTuner context.blocks.tuner))
        context.blocks.devParams.fsHz = true ∧
      after = context.blocks.modifyChannel (nextTuner context.blocks.tuner)
          fun _ =>
            carriedChannel
              (context.blocks.channelForTuner context.blocks.tuner)
              (nextTuner context.blocks.tuner) := by
  unfold prepareTunerSwap at prepared
  dsimp only at prepared
  split_ifs at prepared with handle modes port dsp
  obtain rfl := Except.ok.inj prepared
  simp only [not_or, not_and, not_not] at modes
  refine ⟨modes.2.1, ?_, by simpa using dsp, rfl⟩
  rw [← modes.2.2.2]
  by_cases isA : call.currentTuner = .a
  · exact .inl isA
  · exact .inr (modes.2.2.1 isA)

/-- The request of a tuner swap passes the daemon's checks exactly if the
swap leads to tuner A or the channel uses neither the AM port nor the AM
notch. -/
theorem tunerSwap_acceptable_iff (accepted : context.blocks.Accepted context.blocks.tuner)
    {call : TunerSwapCall} {after : DeviceBlocks} {swap : SwapRequest}
    (prepared : context.prepareTunerSwap libm call = .ok after)
    (built : tunerSwapRequest after = some swap) :
    swap.acceptable = true ↔ context.blocks.tuner = .b ∨
        context.blocks.channelA.rspDuoTunerParams.tuner1AmPortSel = amPort2 ∧
          context.blocks.channelA.rspDuoTunerParams.tuner1AmNotchEnable = 0 := by
  obtain ⟨_, tuners, _, rfl⟩ := prepareTunerSwap_ok prepared
  have channel := accepted.acceptableOn
  obtain ⟨config, filled, valid⟩ := accepted
  have rate := ((filled_valid_iff filled).mp valid).1
  have sampled := (filled_parts filled).1
  unfold tunerSwapRequest at built
  dsimp only at built
  rw [(modifyChannel_fixed _ _ _).2.1] at built
  obtain ⟨carried, isCarried, rfl⟩ := Option.map_eq_some_iff.mp built
  obtain ⟨carriedRate, carriedTuner, _, _⟩ := filled_parts isCarried
  rw [(modifyChannel_fixed _ _ _).1, sampled] at carriedRate
  have sameRate := Option.some.inj carriedRate
  have carriedValid := filled_valid_iff isCarried
  rw [channelForTuner_modifyChannel, ← sameRate] at carriedValid
  have checks : (SwapRequest.mk
          (if nextTuner context.blocks.tuner = .b then tunerB else tunerA)
          carried).acceptable = true ↔
        (carriedChannel
          (context.blocks.channelForTuner context.blocks.tuner)
          (nextTuner context.blocks.tuner)).AcceptableOn (nextTuner context.blocks.tuner) := by
    simp only [SwapRequest.acceptable, carriedTuner, Bool.and_eq_true,
      carriedValid, beq_self_eq_true, and_true, Bool.or_eq_true, beq_iff_eq]
    constructor
    · exact fun accepts => accepts.2.2
    · intro acceptable
      refine ⟨?_, rate, acceptable⟩
      split_ifs <;> simp
  rw [checks]
  rcases tuners with isA | isB
  · simp only [isA, nextTuner, if_true, carriedChannel, DeviceBlocks.channelForTuner] at channel ⊢
    constructor
    · intro acceptable
      exact .inr (acceptable.tunerB rfl)
    · intro clear
      exact { channel with
        tunerA := fun notB => absurd rfl notB
        tunerB := fun _ => clear.resolve_left (by decide) }
  · simp only [isB, nextTuner, carriedChannel, DeviceBlocks.channelForTuner] at channel ⊢
    refine ⟨fun _ => .inl trivial, fun _ => ?_⟩
    exact { channel with
      tunerA := fun _ => rfl
      tunerB := fun isB => absurd isB (by decide) }

/-! ## The mode swap -/

/-- What a mode swap that passes the checks asks for. -/
theorem modeSwapChecks_success {call : ModeSwapCall}
    (checked : context.modeSwapChecks call = .success) :
    call.sampleRate.isFinite = true ∧ call.tuner1AmPort ≤ 1 ∧ (call.mode = .dualTuner ∧
          dualIf? call.sampleRate = some call.ifType ∧
          call.bandwidth ≤ bw1536 ∨
        call.mode ≠ .dualTuner ∧ (call.tuner = .a ∨ call.tuner = .b) ∧
          ¬call.sampleRate < 2000000.0) := by
  unfold modeSwapChecks at checked
  split_ifs at checked with pointers handle modes same ranges dual duals singles
  · simp only [not_or, not_and, not_not, Bool.not_eq_true', Bool.not_eq_false] at ranges duals
    obtain ⟨finite, _, _, ports⟩ := ranges
    refine ⟨finite, ?_, .inl ⟨dual, duals.2.1, ?_⟩⟩
    · by_cases first : call.tuner1AmPort = amPort1
      · rw [first]; decide
      · rw [ports first]; decide
    · exact UInt32.not_lt.mp duals.2.2.1
  · simp only [not_or, not_and, not_not, Bool.not_eq_true', Bool.not_eq_false] at ranges singles
    obtain ⟨finite, _, _, ports⟩ := ranges
    refine ⟨finite, ?_, .inr ⟨dual, ?_, singles.2.1⟩⟩
    · by_cases first : call.tuner1AmPort = amPort1
      · rw [first]; decide
      · rw [ports first]; decide
    · by_cases isA : call.tuner = .a
      · exact .inl isA
      · exact .inr (singles.1 isA)

/-- What a mode swap that gets as far as its request has found and done. -/
theorem prepareModeSwap_ok {call : ModeSwapCall} {after : DeviceBlocks}
    (prepared : context.prepareModeSwap libm call = .ok after) :
    context.modeSwapChecks call = .success ∧ validateDspConfiguration libm
        (if call.mode = .dualTuner then after.channelA
          else after.channelForTuner call.tuner) call.sampleRate = true ∧
      (call.mode = .dualTuner →
        validateDspConfiguration libm after.channelB call.sampleRate = true) ∧
      after = context.modeSwapBlocks call := by
  unfold prepareModeSwap at prepared
  dsimp only at prepared
  generalize isFirst : (if call.mode = .dualTuner then (context.modeSwapBlocks call).channelA
      else (context.modeSwapBlocks call).channelForTuner call.tuner) = first
    at prepared
  split at prepared
  case h_1 checked =>
    split_ifs at prepared with invalid
    obtain rfl := Except.ok.inj prepared
    simp only [not_or, not_and, Bool.not_eq_true', Bool.not_eq_false] at invalid
    exact ⟨checked, isFirst ▸ invalid.1, invalid.2, rfl⟩
  case h_2 => cases prepared

end ApiContext

theorem RxChannelParams.AcceptableOn.setBand {channel : RxChannelParams}
    {tuner : TunerSelect} (acceptable : channel.AcceptableOn tuner)
    (bandwidth : UInt32) (ifType : Int32) :
    (channel.setBand bandwidth ifType).AcceptableOn tuner :=
  { acceptable with }

theorem RxChannelParams.AcceptableOn.setAmPort {channel : RxChannelParams}
    (acceptable : channel.AcceptableOn .a) {port : UInt32}
    (isPort : port ≤ 1) : (channel.setAmPort port).AcceptableOn .a :=
  { acceptable with
    amPort := isPort
    tunerB := fun isB => absurd isB (by decide) }

/-- The rate and the intermediate frequency of dual-tuner mode. -/
theorem dualRate {sampleRate : Float} {ifType : Int32} (finite : sampleRate.isFinite = true)
    (frequency : ApiContext.dualIf? sampleRate = some ifType) :
    toUInt32? sampleRate = some 6000000 ∧ ifType * 1000 = 1620000 ∨
      toUInt32? sampleRate = some 8000000 ∧ ifType * 1000 = 2048000 := by
  unfold ApiContext.dualIf? at frequency
  split_ifs at frequency with six eight
  · obtain rfl := Option.some.inj frequency
    refine .inl ⟨?_, by decide⟩
    rw [toUInt32?_of_beq finite (by decide +kernel) six]
    decide +kernel
  · obtain rfl := Option.some.inj frequency
    refine .inr ⟨?_, by decide⟩
    rw [toUInt32?_of_beq finite (by decide +kernel) eight]
    decide +kernel

/-- A bandwidth of at most 1.536 MHz is within the daemon's bound. -/
theorem bandwidth_le {bandwidth : UInt32} (narrow : bandwidth ≤ bw1536) :
    bandwidth * 1000 ≤ 1536000 := by
  have bound : bandwidth.toNat ≤ 1536 := narrow
  rw [UInt32.le_iff_toNat_le, UInt32.toNat_mul]
  exact (Nat.mod_le _ _).trans (Nat.mul_le_mul_right 1000 bound)

namespace ApiContext

variable {libm : Libm} {context : ApiContext}

/-- The channel of the tuner a single-tuner mode swap names is within what
that tuner takes. -/
theorem modeSwapBlocks_single (channelA : context.blocks.channelA.AcceptableOn .a)
    (channelB : context.blocks.channelB.AcceptableOn .b)
    {call : ModeSwapCall} (port : call.tuner1AmPort ≤ 1)
    (notDual : call.mode ≠ .dualTuner)
    (tuners : call.tuner = .a ∨ call.tuner = .b) :
    (context.modeSwapBlocks call).devParams.fsHz = call.sampleRate ∧
      ((context.modeSwapBlocks call).channelForTuner call.tuner).AcceptableOn call.tuner := by
  unfold modeSwapBlocks
  dsimp only
  rw [if_neg notDual, (modifyChannel_fixed _ _ _).1, channelForTuner_modifyChannel]
  refine ⟨rfl, ?_⟩
  rcases tuners with isA | isB
  · simp only [isA, if_true, DeviceBlocks.channelForTuner]
    exact (channelA.setBand _ _).setAmPort port
  · simp only [isB, DeviceBlocks.channelForTuner]
    exact channelB.setBand _ _

/-- A mode swap to a single tuner asks for a configuration the daemon
accepts. -/
theorem modeSwap_single_valid (channelA : context.blocks.channelA.AcceptableOn .a)
    (channelB : context.blocks.channelB.AcceptableOn .b)
    {call : ModeSwapCall} (finite : call.sampleRate.isFinite = true)
    (port : call.tuner1AmPort ≤ 1) (notDual : call.mode ≠ .dualTuner)
    (tuners : call.tuner = .a ∨ call.tuner = .b)
    (least : ¬call.sampleRate < 2000000.0) {config : RadioConfig}
    (filled : fillRadioConfigTuner (context.modeSwapBlocks call) call.tuner = some config) :
    openrspdConfigValid config = true := by
  obtain ⟨isRate, acceptable⟩ := modeSwapBlocks_single channelA channelB port notDual tuners
  have converted := (filled_parts filled).1
  rw [isRate] at converted
  obtain ⟨rate, isValue⟩ := value?_of_isFinite finite
  have two : value? 2000000.0 = some 2000000 := by decide +kernel
  have large := value_le_of_not_lt isValue two least
  exact (filled_valid_iff filled).mpr
    ⟨toUInt32?_ne_zero isValue (le_trans (by norm_num) large) converted, acceptable⟩

/-- A mode swap to both tuners asks for a configuration the daemon
accepts. -/
theorem modeSwap_dual_valid (channelA : context.blocks.channelA.AcceptableOn .a)
    (channelB : context.blocks.channelB.AcceptableOn .b)
    {call : ModeSwapCall} (finite : call.sampleRate.isFinite = true)
    (port : call.tuner1AmPort ≤ 1) (isDual : call.mode = .dualTuner)
    (frequency : dualIf? call.sampleRate = some call.ifType)
    (narrow : call.bandwidth ≤ bw1536) {rate : UInt32}
    {configA configB : RadioConfig}
    (converted : toUInt32? call.sampleRate = some rate)
    (filledA : fillRadioConfigTuner (context.modeSwapBlocks call) .a = some configA)
    (filledB : fillRadioConfigTuner (context.modeSwapBlocks call) .b = some configB) :
    validDualConfig ⟨rate, configA, configB⟩ = true := by
  have blocks : context.modeSwapBlocks call =
        { context.blocks with
          devParams :=
            { context.blocks.devParams with fsHz := call.sampleRate }
          channelA :=
            (context.blocks.channelA.setBand call.bandwidth call.ifType).setAmPort call.tuner1AmPort
          channelB := context.blocks.channelB.setBand call.bandwidth call.ifType } := by
    unfold modeSwapBlocks
    rw [if_pos isDual]
  rw [blocks] at filledA filledB
  have acceptableA := (channelA.setBand call.bandwidth call.ifType).setAmPort port
  have acceptableB := channelB.setBand call.bandwidth call.ifType
  obtain ⟨rateA, tunerOfA, ifA, bandA⟩ := filled_parts filledA
  obtain ⟨rateB, tunerOfB, ifB, bandB⟩ := filled_parts filledB
  have sameA := Option.some.inj (converted.symm.trans rateA)
  have sameB := Option.some.inj (converted.symm.trans rateB)
  have bandwidthA : configA.bandwidthHz ≤ 1536000 := by
    rcases bandA with band | band
    · exact band ▸ bandwidth_le narrow
    · exact band ▸ UInt32.le_refl _
  have bandwidthB : configB.bandwidthHz ≤ 1536000 := by
    rcases bandB with band | band
    · exact band ▸ bandwidth_le narrow
    · exact band ▸ UInt32.le_refl _
  have rates :
      (rate = 6000000 ∨ rate = 8000000) ∧ call.ifType * 1000 = requiredIf rate := by
    rcases dualRate finite frequency with six | eight
    · obtain rfl := Option.some.inj (converted.symm.trans six.1)
      exact ⟨.inl rfl, six.2⟩
    · obtain rfl := Option.some.inj (converted.symm.trans eight.1)
      exact ⟨.inr rfl, eight.2⟩
  have nonzero : rate ≠ 0 := by
    rcases rates.1 with isRate | isRate <;> rw [isRate] <;> decide
  have validA := (filled_valid_iff filledA).mpr ⟨sameA ▸ nonzero, acceptableA⟩
  have validB := (filled_valid_iff filledB).mpr ⟨sameB ▸ nonzero, acceptableB⟩
  simp only [validDualConfig, Bool.and_eq_true, Bool.or_eq_true, beq_iff_eq, decide_eq_true_eq]
  exact ⟨⟨⟨⟨⟨⟨⟨⟨⟨⟨rates.1, validA⟩, validB⟩, tunerOfA⟩, tunerOfB⟩,
    sameA.symm⟩, sameB.symm⟩, ifA.trans rates.2⟩, ifB.trans rates.2⟩,
    bandwidthA⟩, bandwidthB⟩

/-- The request of a mode swap passes the daemon's checks. -/
theorem modeSwap_valid (channelA : context.blocks.channelA.AcceptableOn .a)
    (channelB : context.blocks.channelB.AcceptableOn .b)
    {call : ModeSwapCall} {after : DeviceBlocks} {swap : ModeSwapRequest}
    (prepared : context.prepareModeSwap libm call = .ok after)
    (built : modeSwapRequest after call = some swap) :
    validModeTarget swap = true := by
  obtain ⟨checked, _, _, rfl⟩ := prepareModeSwap_ok prepared
  obtain ⟨finite, port, dual | single⟩ := modeSwapChecks_success checked
  · obtain ⟨isDual, frequency, narrow⟩ := dual
    unfold modeSwapRequest at built
    rw [if_pos isDual] at built
    obtain ⟨rate, converted, built⟩ := Option.bind_eq_some_iff.mp built
    obtain ⟨configA, filledA, built⟩ := Option.bind_eq_some_iff.mp built
    obtain ⟨configB, filledB, built⟩ := Option.bind_eq_some_iff.mp built
    obtain rfl := Option.some.inj built
    exact modeSwap_dual_valid channelA channelB finite port isDual frequency
      narrow converted filledA filledB
  · obtain ⟨notDual, tuners, least⟩ := single
    unfold modeSwapRequest at built
    rw [if_neg notDual] at built
    obtain ⟨config, filled, built⟩ := Option.bind_eq_some_iff.mp built
    obtain rfl := Option.some.inj built
    exact modeSwap_single_valid channelA channelB finite port notDual tuners least filled

/-! ## Swaps from an accepted state -/

end ApiContext

/-- A channel as it was when its tuner was last active, or as it is given
before that. -/
def RxChannelParams.Kept (channel : RxChannelParams) (tuner : TunerSelect) :
    Prop :=
  channel = defaultChannel ∨
    ∃ earlier : DeviceBlocks, earlier.channelForTuner tuner = channel ∧ earlier.Accepted tuner

theorem RxChannelParams.Kept.acceptableOn {channel : RxChannelParams}
    {tuner : TunerSelect} (kept : channel.Kept tuner) :
    channel.AcceptableOn tuner := by
  rcases kept with rfl | ⟨earlier, rfl, accepted⟩
  · exact
      { gain := by decide
        lna := by decide
        agcMode := by decide
        agcSetpoint := by decide
        amPort := by decide
        tunerA := fun _ => rfl
        tunerB := fun _ => ⟨rfl, rfl⟩ }
  · exact accepted.acceptableOn

/-- The configuration of both tuners, as `sdrplay_api_Init` sends it. -/
def DeviceBlocks.dualConfig? (blocks : DeviceBlocks) : Option DualConfig := do
  let sampleRateHz ← toUInt32? blocks.devParams.fsHz
  let channelA ← fillRadioConfigTuner blocks .a
  let channelB ← fillRadioConfigTuner blocks .b
  return ⟨sampleRateHz, channelA, channelB⟩

namespace ApiContext

/-- A device in single-tuner or dual-tuner mode whose active channels yield
configurations the daemon accepts, with an untouched inactive channel. -/
inductive SwapReady (context : ApiContext) : Prop where
  | onA
      (mode : context.blocks.mode = .singleTuner)
      (tuner : context.blocks.tuner = .a)
      (active : context.blocks.Accepted .a)
      (inactive : context.blocks.channelB.Kept .b)
  | onB
      (mode : context.blocks.mode = .singleTuner)
      (tuner : context.blocks.tuner = .b)
      (active : context.blocks.Accepted .b)
      (inactive : context.blocks.channelA.Kept .a)
  | dual
      (mode : context.blocks.mode = .dualTuner)
      (config : DualConfig)
      (filled : context.blocks.dualConfig? = some config)
      (valid : validDualConfig config = true)

variable {libm : Libm} {context : ApiContext}

theorem SwapReady.channels (ready : context.SwapReady) :
    context.blocks.channelA.AcceptableOn .a ∧ context.blocks.channelB.AcceptableOn .b := by
  cases ready with
  | onA mode tuner active inactive =>
      exact ⟨active.acceptableOn, inactive.acceptableOn⟩
  | onB mode tuner active inactive =>
      exact ⟨inactive.acceptableOn, active.acceptableOn⟩
  | dual mode config filled valid =>
      obtain ⟨rate, converted, filled⟩ := Option.bind_eq_some_iff.mp filled
      obtain ⟨configA, filledA, filled⟩ := Option.bind_eq_some_iff.mp filled
      obtain ⟨configB, filledB, filled⟩ := Option.bind_eq_some_iff.mp filled
      obtain rfl := Option.some.inj filled
      simp only [validDualConfig, Bool.and_eq_true] at valid
      obtain ⟨⟨⟨⟨⟨⟨⟨⟨⟨⟨_, validA⟩, validB⟩, _⟩, _⟩, _⟩, _⟩, _⟩, _⟩, _⟩, _⟩ := valid
      exact ⟨((filled_valid_iff filledA).mp validA).2, ((filled_valid_iff filledB).mp validB).2⟩

/-- From an accepted state the request of every mode swap passes the checks
of `serve_request`, and that of a tuner swap exactly if the swap leads to
tuner A or channel A uses neither its AM port nor its AM notch. -/
theorem swap_requests_valid_iff (ready : context.SwapReady) :
    (∀ (call : TunerSwapCall) (after : DeviceBlocks) (swap : SwapRequest),
        context.prepareTunerSwap libm call = .ok after →
        tunerSwapRequest after = some swap →
        (swap.acceptable = true ↔ context.blocks.tuner = .b ∨
            context.blocks.channelA.rspDuoTunerParams.tuner1AmPortSel =
                amPort2 ∧
              context.blocks.channelA.rspDuoTunerParams.tuner1AmNotchEnable = 0)) ∧
      ∀ (call : ModeSwapCall) (after : DeviceBlocks)
          (swap : ModeSwapRequest),
        context.prepareModeSwap libm call = .ok after →
        modeSwapRequest after call = some swap →
        validModeTarget swap = true := by
  constructor
  · intro call after swap prepared built
    refine tunerSwap_acceptable_iff ?_ prepared built
    cases ready with
    | onA mode tuner active inactive => exact tuner ▸ active
    | onB mode tuner active inactive => exact tuner ▸ active
    | dual mode config filled valid =>
        have single := (prepareTunerSwap_ok prepared).1
        rw [mode] at single
        cases single
  · intro call after swap prepared built
    exact modeSwap_valid ready.channels.1 ready.channels.2 prepared built

end ApiContext

/-! ## A device with the default parameters -/

/-- A device initialised with the parameters of `reset_parameters`. -/
def initialisedDevice : ApiContext :=
  { resetParameters floatLibm with
    selected := true
    initialized := true
    callbacks := ⟨true, true, true⟩ }

/-- The same device with the high-impedance port of tuner A selected. -/
def highImpedanceDevice : ApiContext :=
  { initialisedDevice with
    blocks :=
      { initialisedDevice.blocks with
        channelA := defaultChannel.setAmPort amPort1 } }

/-- The configuration of the default channel on a tuner. -/
def defaultConfig (tuner amPort : UInt32) : RadioConfig where
  sampleRateHz := 2000000
  centerFrequencyHz := 200000000
  bandwidthHz := 200000
  ifFrequencyHz := 0
  gainReductionDb := 50
  lnaState := 0
  agcMode := 2
  agcSetpointDbfs := -60
  tuner := tuner
  biasTeeEnabled := 0
  rfNotchEnabled := 0
  dabNotchEnabled := 0
  externalReferenceEnabled := 0
  amPortSelect := amPort
  amNotchEnabled := 0

theorem initialisedDevice_ready : initialisedDevice.SwapReady :=
  .onA rfl rfl ⟨defaultConfig tunerA amPort2, by decide +kernel, by decide⟩ (.inl rfl)

/-- The swap of the default channel to tuner B passes the checks. -/
theorem initialisedDevice_swaps : initialisedDevice.prepareTunerSwap floatLibm ⟨true, .a, amPort2⟩ =
        .ok initialisedDevice.blocks ∧
      tunerSwapRequest initialisedDevice.blocks = some ⟨tunerB, defaultConfig tunerB amPort2⟩ ∧
      (SwapRequest.mk tunerB (defaultConfig tunerB amPort2)).acceptable =
        true := by
  have prepared : initialisedDevice.prepareTunerSwap floatLibm ⟨true, .a, amPort2⟩ =
        .ok initialisedDevice.blocks := by
    decide +kernel
  have built :
      tunerSwapRequest initialisedDevice.blocks = some ⟨tunerB, defaultConfig tunerB amPort2⟩ := by
    decide +kernel
  exact ⟨prepared, built, ((ApiContext.swap_requests_valid_iff initialisedDevice_ready).1
      _ _ _ prepared built).mpr (.inr ⟨rfl, rfl⟩)⟩

/-- With the high-impedance port selected the swap to tuner B asks for a port
tuner B does not have, and the daemon refuses it. -/
theorem highImpedance_swap_refused : fillRadioConfigTuner highImpedanceDevice.blocks .a =
        some (defaultConfig tunerA amPort1) ∧
      openrspdConfigValid (defaultConfig tunerA amPort1) = true ∧
      highImpedanceDevice.blocks.channelB = defaultChannel ∧
      highImpedanceDevice.prepareTunerSwap floatLibm ⟨true, .a, amPort2⟩ = .ok
          { highImpedanceDevice.blocks with
            channelB := highImpedanceDevice.blocks.channelA } ∧
      tunerSwapRequest
          { highImpedanceDevice.blocks with
            channelB := highImpedanceDevice.blocks.channelA } =
        some ⟨tunerB, defaultConfig tunerB amPort1⟩ ∧
      (SwapRequest.mk tunerB (defaultConfig tunerB amPort1)).acceptable =
        false := by
  decide +kernel

end OpenRsp
