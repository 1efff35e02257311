import OpenRsp.Daemon.Ledger

/-!
# What is written to the hardware

The register writes of a configuration change nothing but registers, and a
sequence of successful writes leaves the registers its arguments say.  The
tuned registers of a world are those of the tuner its handle was opened for.
-/

namespace OpenRsp

/-! ## Open handles -/

/-- The open handle, if there is one, has a tuner and controls that are
allowed. -/
def World.OpenWithin (world : World) (allowed : UInt32 → ControlRegisters → Prop) : Prop :=
  ∀ radio, world.daemon.radio = some radio → allowed radio.tuner radio.controls

theorem World.openWithin_of_closed {world : World} (closed : world.daemon.radio = none)
    (allowed : UInt32 → ControlRegisters → Prop) :
    world.OpenWithin allowed := by
  simp [World.OpenWithin, closed]

/-! ## The tuned registers -/

/-- The registers of the tuner the open handle was opened for. -/
def World.tuned (world : World) : Option ChannelRegisters := world.daemon.radio.map Radio.tuned

/-- Writing the tuned registers changes nothing else. -/
@[simp]
theorem Radio.writeTuned_rest (radio : Radio) (write : ChannelRegisters → ChannelRegisters) :
    (radio.writeTuned write).tuner = radio.tuner ∧
      (radio.writeTuned write).frequency = radio.frequency ∧
      (radio.writeTuned write).controls = radio.controls := by
  unfold Radio.writeTuned Radio.writeChannel
  split <;> exact ⟨rfl, rfl, rfl⟩

@[simp]
theorem Radio.frequency_setFreq (radio : Radio) (frequency : Option UInt32) :
    (radio.setFreq frequency).frequency = frequency :=
  rfl

@[simp]
theorem Radio.tuned_setFreq (radio : Radio) (frequency : Option UInt32) :
    (radio.setFreq frequency).tuned = radio.tuned :=
  rfl

@[simp]
theorem Radio.tuned_writeTuned (radio : Radio) (write : ChannelRegisters → ChannelRegisters) :
    (radio.writeTuned write).tuned = write radio.tuned := by
  simp only [Radio.tuned, Radio.writeTuned, Radio.writeChannel]
  split <;> simp_all [Radio.channel]

/-- What a configuration writes to the tuned registers. -/
def ChannelRegisters.of (config : RadioConfig) : ChannelRegisters where
  sampleRate := some config.sampleRateHz
  centerFrequency := some config.centerFrequencyHz
  bandwidth := some config.bandwidthHz
  ifFrequency := some config.ifFrequencyHz.toUInt32
  gainReduction := some config.gainReductionDb
  lnaState := some config.lnaState

section Tuned

variable (environment : Environment) (world : World)

/-- The tuned registers with the frequency the driver keeps. -/
def World.tuning (world : World) : Option (ChannelRegisters × Option UInt32) :=
  world.daemon.radio.map fun radio => (radio.tuned, radio.frequency)

theorem World.tuned_of_tuning {world : World} {registers : ChannelRegisters}
    {frequency : Option UInt32} (tuning : world.tuning = some (registers, frequency)) :
    world.tuned = some registers := by
  simpa [World.tuned, World.tuning, Function.comp_def] using congrArg (Option.map Prod.fst) tuning

/-- A successful call that writes the tuned registers. -/
theorem driverCall_tuning (call : Call) (write : Int → ChannelRegisters → ChannelRegisters)
    (succeeds : world.result environment call = 0) :
    (driverCall environment world call fun result radio =>
      radio.writeTuned (write result)).2.tuning = world.tuning.map fun tuned =>
        (write 0 tuned.1, tuned.2) := by
  simp [World.tuning, driverCall, succeeds, Function.comp_def]

/-- The same with a new frequency. -/
theorem driverCall_tuning_setFreq (call : Call) (frequency : Int → Option UInt32)
    (write : Int → ChannelRegisters → ChannelRegisters)
    (succeeds : world.result environment call = 0) :
    (driverCall environment world call fun result radio =>
      (radio.setFreq (frequency result)).writeTuned (write result)).2.tuning =
      world.tuning.map fun tuned => (write 0 tuned.1, frequency 0) := by
  simp [World.tuning, driverCall, succeeds, Function.comp_def]

/-- Part of the handle after a call that is made if it is needed. -/
theorem callIf_view {α : Type} (view : World → Option α) {needed : Bool}
    {call : World → Int × World} {write : α → α}
    (called : (call world).1 = 0 → view (call world).2 = (view world).map write)
    (succeeds : (callIf needed call world).1 = 0) :
    view (callIf needed call world).2 = (view world).map fun part =>
        if needed then write part else part := by
  unfold callIf at succeeds ⊢
  split
  · rename_i isNeeded
    rw [if_pos isNeeded] at succeeds
    simpa [isNeeded] using called succeeds
  · simp

/-- Setting the port of a handle whose tuner has the driver's frequency leaves
its registers. -/
theorem Radio.tuned_setSoft {radio : Radio}
    (aligned : radio.frequency = radio.tuned.centerFrequency) :
    (radio.setSoft 0).tuned = radio.tuned := by
  simp only [Radio.setSoft, Radio.tuned, Radio.channel] at aligned ⊢
  split_ifs at aligned ⊢
  · rfl
  · simp [aligned]

theorem setRspduoControls_tuning {config : RadioConfig} {flags : UInt32}
    {registers : ChannelRegisters}
    (tuning : world.tuning = some (registers, registers.centerFrequency))
    (succeeds : (setRspduoControls environment world config flags).1 = 0) :
    (setRspduoControls environment world config flags).2.tuning =
      some (registers, registers.centerFrequency) := by
  unfold setRspduoControls at succeeds ⊢
  split_ifs at succeeds ⊢
  · exact tuning
  have result : world.result environment .setRspduoControls = 0 := succeeds
  obtain ⟨radio, opened, same⟩ := Option.map_eq_some_iff.mp tuning
  obtain ⟨rfl, aligned⟩ := Prod.mk.inj same
  simp only [World.tuning, mirisdrSetRspduoControls, driverCall, result,
    World.modify_daemon, World.advance_daemon, opened, Option.map_some]
  split_ifs
  · exact congrArg some (Prod.ext (Radio.tuned_setSoft aligned) aligned)
  · exact congrArg some (Prod.ext rfl aligned)

/-- The registers an update leaves when all its writes succeed. -/
def updatedRegisters (old next : RadioConfig) (flags : UInt32)
    (registers : ChannelRegisters) : ChannelRegisters where
  sampleRate :=
    if hasFlag flags changeSampleRate &&
        next.sampleRateHz != old.sampleRateHz then
      some next.sampleRateHz
    else registers.sampleRate
  centerFrequency :=
    if hasFlag flags changeRf &&
        next.centerFrequencyHz != old.centerFrequencyHz then
      some next.centerFrequencyHz
    else registers.centerFrequency
  bandwidth :=
    if hasFlag flags changeBandwidth &&
        next.bandwidthHz != old.bandwidthHz then
      some next.bandwidthHz
    else registers.bandwidth
  ifFrequency :=
    if hasFlag flags changeIf &&
        next.ifFrequencyHz != old.ifFrequencyHz then
      some next.ifFrequencyHz.toUInt32
    else registers.ifFrequency
  gainReduction :=
    if hasFlag flags (changeGain ||| changeRf) then
      some next.gainReductionDb
    else registers.gainReduction
  lnaState :=
    if hasFlag flags (changeGain ||| changeRf) then some next.lnaState
    else registers.lnaState

theorem writeUpdate_tuning (old next : RadioConfig) (flags : UInt32) {registers : ChannelRegisters}
    (tuning : world.tuning = some (registers, registers.centerFrequency))
    (succeeds : (writeUpdate environment world old next flags).1 = true) :
    (writeUpdate environment world old next flags).2.tuning =
      some (updatedRegisters old next flags registers,
        (updatedRegisters old next flags registers).centerFrequency) := by
  simp only [writeUpdate, decide_eq_true_eq] at succeeds ⊢
  obtain ⟨rate, frequency, bandwidth, ifFrequency, gain, controls⟩ := succeeds
  refine setRspduoControls_tuning environment _ ?_ controls
  rw [callIf_view _ World.tuning (driverCall_tuning environment _ _ _) gain,
    callIf_view _ World.tuning (driverCall_tuning environment _ _ _) ifFrequency,
    callIf_view _ World.tuning (driverCall_tuning environment _ _ _) bandwidth,
    callIf_view _ World.tuning (driverCall_tuning_setFreq environment _ _ _ _) frequency,
    callIf_view _ World.tuning (driverCall_tuning environment _ _ _) rate, tuning]
  simp only [Option.map_some, updatedRegisters, written, if_true]
  split_ifs <;> rfl

/-! ## Configuring one tuner -/

theorem applyConfig_tuning (config : RadioConfig)
    (succeeds : (applyConfig environment world config).1 = .ok) :
    (applyConfig environment world config).2.tuning =
      world.tuning.map fun _ => (.of config, some config.centerFrequencyHz) := by
  unfold applyConfig at succeeds ⊢
  split_ifs at succeeds ⊢
  have called : world.result environment .configureRspduo = 0 := by
    by_contra failed
    simp [mirisdrConfigureRspduo, driverCall, failed] at succeeds
  exact driverCall_tuning_setFreq environment world .configureRspduo
    (fun result => written result config.centerFrequencyHz)
    (fun result _ =>
      { sampleRate := written result config.sampleRateHz
        centerFrequency := written result config.centerFrequencyHz
        bandwidth := written result config.bandwidthHz
        ifFrequency := written result config.ifFrequencyHz.toUInt32
        gainReduction := written result config.gainReductionDb
        lnaState := written result config.lnaState }) called

/-- A successful attempt leaves an open single-tuner handle with the
registers of the configuration. -/
theorem configureAttempts_ok (config : RadioConfig) (remaining : Nat)
    (succeeds : (configureAttempts environment config remaining world).1 = .ok) :
    (configureAttempts environment config remaining world).2.tuning =
        some (.of config, some config.centerFrequencyHz) ∧
      (configureAttempts environment config remaining world).2.daemon.dualMode = false := by
  induction remaining generalizing world with
  | zero => simp [configureAttempts] at succeeds
  | succ remaining inductionHypothesis =>
      simp only [configureAttempts] at succeeds ⊢
      split_ifs at succeeds ⊢ with unresolved applied busy
      · unfold applyIfOpen at applied ⊢
        split_ifs at applied ⊢ with isOpen
        obtain ⟨radio, opened⟩ := Option.isSome_iff_exists.mp isOpen
        refine ⟨(applyConfig_tuning environment _ config applied).trans ?_, rfl⟩
        simp [World.tuning, opened]
      · exact inductionHypothesis _ succeeds

theorem closeRadio_radio :
    (closeRadio environment world).2.daemon.radio = none := by
  simp only [closeRadio]
  split_ifs with closed
  · exact closed
  · rfl
  · unfold streamThreadEnds
    split <;> rfl

theorem duoResetHardware_radio :
    (duoResetHardware environment world).2.daemon.radio = none :=
  closeRadio_radio environment _

/-- A receiver that could not be resolved was not open. -/
theorem openForAttempt_failed (config : RadioConfig)
    (failed : (openForAttempt environment world config).1 = false) :
    (openForAttempt environment world config).2.daemon.radio = none := by
  have resolved :=
    congrArg Receiver.radio (resolveAcquiredDevice_inventoryOnly environment world).receiver
  revert failed
  simp only [openForAttempt]
  split
  · simp
  · split
    · exact fun _ => resolved.trans (Option.not_isSome_iff_eq_none.mp ‹_›)
    · simp

/-- Attempts that all fail leave no handle. -/
theorem configureAttempts_failed (config : RadioConfig) (remaining : Nat)
    (begun : remaining ≠ 0 ∨ world.daemon.radio = none)
    (failed : (configureAttempts environment config remaining world).1 ≠ .ok) :
    (configureAttempts environment config remaining world).2.daemon.radio = none := by
  induction remaining generalizing world with
  | zero => exact begun.elim (absurd rfl) id
  | succ remaining inductionHypothesis =>
      have shut (before : World) := closeRadio_radio environment before
      revert failed
      simp only [configureAttempts]
      split_ifs with unresolved
      · exact fun _ => openForAttempt_failed environment world config unresolved
      · simp
      · exact fun _ => shut _
      · exact inductionHypothesis _ (.inr (shut _))

section Opening

variable {allowed : UInt32 → ControlRegisters → Prop}

theorem openForAttempt_openWithin {config : RadioConfig}
    (own : allowed config.tuner .opened) (within : world.OpenWithin allowed) :
    (openForAttempt environment world config).2.OpenWithin allowed := by
  have resolved := resolveAcquiredDevice_inventoryOnly environment world
  have sameRadio := congrArg Receiver.radio resolved.receiver
  intro radio found
  simp only [openForAttempt] at found
  split at found
  · exact within radio found
  · split at found
    · exact within radio (sameRadio ▸ found)
    · simp only [mirisdrOpenTuner, World.modify_daemon, written] at found
      split at found
      · cases found
        exact own
      · cases found

theorem applyIfOpen_openWithin (config : RadioConfig) (within : world.OpenWithin allowed) :
    (applyIfOpen environment world config).2.OpenWithin allowed := by
  unfold applyIfOpen applyConfig
  split_ifs
  · exact within
  · intro radio found
    obtain ⟨before, opened, rfl⟩ := Option.map_eq_some_iff.mp found
    simpa [Radio.setFreq] using within before opened
  · exact within

/-- A failed attempt closes the handle, so the next one opens it for the
tuner it configures. -/
theorem configureAttempts_openWithin {config : RadioConfig}
    (remaining : Nat) (own : allowed config.tuner .opened)
    (within : world.OpenWithin allowed) :
    (configureAttempts environment config remaining world).2.OpenWithin
      allowed := by
  induction remaining generalizing world with
  | zero => exact within
  | succ remaining inductionHypothesis =>
      have opened := openForAttempt_openWithin environment world own within
      have applied := applyIfOpen_openWithin environment _ config opened
      have closed (before : World) :=
        World.openWithin_of_closed (closeRadio_radio environment before) allowed
      simp only [configureAttempts]
      split_ifs
      · exact opened
      · exact applied
      · exact closed _
      · exact inductionHypothesis _ (closed _)

theorem configureRadio_openWithin {config : RadioConfig}
    (maxAttempts : Nat) (own : allowed config.tuner .opened)
    (within : world.daemon.dualMode = false → world.OpenWithin allowed) :
    (configureRadio environment world config maxAttempts).1 = .ok →
      (configureRadio environment world config maxAttempts).2.OpenWithin
        allowed := by
  have closed := World.openWithin_of_closed (closeRadio_radio environment world) allowed
  simp only [configureRadio]
  split_ifs with invalid dual busy
  · simp
  · simp
  · exact fun _ => configureAttempts_openWithin environment _ _ own closed
  · intro _
    refine configureAttempts_openWithin environment _ _ own ?_
    intro radio found
    refine within ?_ radio found
    by_contra isDual
    exact dual ⟨by simpa using isDual, by simp [found]⟩

end Opening

theorem configureRadio_ok (config : RadioConfig) (maxAttempts : Nat)
    (succeeds : (configureRadio environment world config maxAttempts).1 = .ok) :
    openrspdConfigValid config = true ∧
      (configureRadio environment world config maxAttempts).2.tuning =
        some (.of config, some config.centerFrequencyHz) ∧
      (configureRadio environment world config maxAttempts).2.daemon.dualMode = false := by
  simp only [configureRadio] at succeeds ⊢
  split_ifs at succeeds ⊢ with invalid dual busy
  · exact ⟨by simpa using invalid, configureAttempts_ok environment _ config _ succeeds⟩
  · exact ⟨by simpa using invalid, configureAttempts_ok environment _ config _ succeeds⟩

end Tuned

/-! ## Configuring both tuners -/

/-- Two tuner numbers that select the same channel. -/
def SameChannel (left right : UInt32) : Prop := left = tunerB ↔ right = tunerB

instance (left right : UInt32) : Decidable (SameChannel left right) :=
  inferInstanceAs (Decidable (left = tunerB ↔ right = tunerB))

@[simp]
theorem sameChannel_self (tuner : UInt32) : SameChannel tuner tuner := Iff.rfl

theorem Radio.channel_writeChannel (radio : Radio) (writtenTuner tuner : UInt32)
    (write : ChannelRegisters → ChannelRegisters) :
    (radio.writeChannel writtenTuner write).channel tuner =
      if SameChannel tuner writtenTuner then write (radio.channel tuner)
      else radio.channel tuner := by
  unfold Radio.writeChannel Radio.channel SameChannel
  split_ifs <;> simp_all

theorem DualConfig.channel_withChannel (config : DualConfig) (storedTuner tuner : UInt32)
    (channel : RadioConfig) :
    (config.withChannel storedTuner channel).channel tuner =
      if SameChannel tuner storedTuner then channel
      else config.channel tuner := by
  unfold DualConfig.withChannel DualConfig.channel SameChannel
  split_ifs <;> simp_all

/-- The registers of a tuner of the open handle. -/
def World.channel (world : World) (tuner : UInt32) :
    Option ChannelRegisters :=
  world.daemon.radio.map (Radio.channel · tuner)

/-- A handle is open and configured for both tuners. -/
structure World.DualConfigured (world : World) : Prop where
  isOpen : world.daemon.radio.isSome = true
  configured : world.daemon.configured = true
  dual : world.daemon.dualMode = true

theorem World.DualConfigured.congr {before after : World}
    (same : after.daemon.toReceiver = before.daemon.toReceiver)
    (configured : after.DualConfigured) : before.DualConfigured where
  isOpen := by
    rw [← congrArg Receiver.radio same]
    exact configured.isOpen
  configured := by
    rw [← congrArg Receiver.configured same]
    exact configured.configured
  dual := by
    rw [← congrArg Receiver.dualMode same]
    exact configured.dual

theorem World.DualConfigured.of_registersOnly {before after : World}
    (frame : RegistersOnly before after)
    (configured : after.DualConfigured) : before.DualConfigured where
  isOpen := frame.isSome.symm.trans configured.isOpen
  configured := frame.configured.symm.trans configured.configured
  dual := frame.dualMode.symm.trans configured.dual

/-- A configuration's centre frequency, gain reduction and LNA state. -/
def RadioConfig.frontEnd (config : RadioConfig) :
    UInt32 × Int32 × UInt32 :=
  (config.centerFrequencyHz, config.gainReductionDb, config.lnaState)

/-- A dual update flags the front-end fields in which it differs from a
configuration. -/
structure UpdateRequest.NamesFrontEnd
    (update : UpdateRequest) (previous : RadioConfig) : Prop where
  centerFrequency : update.config.centerFrequencyHz ≠ previous.centerFrequencyHz →
      hasFlag update.changedFlags changeRf = true
  gain : update.config.gainReductionDb ≠ previous.gainReductionDb ∨
        update.config.lnaState ≠ previous.lnaState →
      hasFlag update.changedFlags changeGain = true

theorem UpdateRequest.NamesFrontEnd.frontEnd_of_unflagged
    {update : UpdateRequest} {previous : RadioConfig}
    (names : update.NamesFrontEnd previous)
    (unflagged : ¬ hasFlag update.changedFlags (changeRf ||| changeGain) = true) :
    update.config.frontEnd = previous.frontEnd := by
  simp only [hasFlag_or, Bool.or_eq_true, not_or] at unflagged
  have frequency := not_imp_comm.mp names.centerFrequency unflagged.1
  have gain := mt names.gain unflagged.2
  simp only [ne_eq, not_or, not_not] at gain
  simp only [RadioConfig.frontEnd, frequency, gain]

/-- The registers a dual update leaves. -/
def frontEndRegisters (config : RadioConfig) (registers : ChannelRegisters) :
    ChannelRegisters :=
  { registers with
    centerFrequency := some config.centerFrequencyHz
    gainReduction := some config.gainReductionDb
    lnaState := some config.lnaState }

section Dual

variable (environment : Environment) (world : World)

/-- `p->freq` is the frequency of tuner A. -/
def World.TunedToA (world : World) : Prop :=
  ∀ radio, world.daemon.radio = some radio → radio.frequency = radio.channelA.centerFrequency

/-- The flags that reach the driver name the AM port. -/
def setsAmPort (config : RadioConfig) (flags : UInt32) : Prop :=
  hasFlag (controlFlags config flags) changeAmPort = true

/-- The AM port can be set without moving tuner A when the driver's frequency
is that of tuner A. -/
theorem setRspduoControls_radio {config : RadioConfig} {flags : UInt32}
    (tuned : setsAmPort config flags → world.TunedToA)
    (succeeds : (setRspduoControls environment world config flags).1 = 0) :
    ∃ change : Radio → ControlRegisters,
      (setRspduoControls environment world config flags).2.daemon.radio =
        world.daemon.radio.map fun radio => { radio with controls := change radio } := by
  unfold setRspduoControls at succeeds ⊢
  split_ifs at succeeds ⊢
  · exact ⟨Radio.controls, Option.map_id'.symm⟩
  have result : world.result environment .setRspduoControls = 0 := succeeds
  refine ⟨fun radio => radio.controls.write 0 config, ?_⟩
  simp only [mirisdrSetRspduoControls, driverCall, result, World.modify_daemon,
    World.advance_daemon]
  cases opened : world.daemon.radio with
  | none => rfl
  | some radio =>
      simp only [Option.map_some]
      split_ifs with named
      · simp [Radio.setSoft, tuned named radio opened]
      · rfl

theorem setRspduoControls_channel {config : RadioConfig} {flags : UInt32}
    (tuned : setsAmPort config flags → world.TunedToA)
    (succeeds : (setRspduoControls environment world config flags).1 = 0) (tuner : UInt32) :
    (setRspduoControls environment world config flags).2.channel tuner =
      world.channel tuner := by
  obtain ⟨change, same⟩ := setRspduoControls_radio environment world tuned succeeds
  rw [World.channel, same, Option.map_map]
  rfl

theorem mirisdrUpdateRspduoDual_channel (config : RadioConfig) (tuner : UInt32)
    (succeeds : (mirisdrUpdateRspduoDual environment world config).1 = 0) :
    (mirisdrUpdateRspduoDual environment world config).2.channel tuner =
      (world.channel tuner).map fun registers =>
        if SameChannel tuner config.tuner then
          frontEndRegisters config registers
        else registers := by
  have result : world.result environment .updateRspduoDual = 0 := succeeds
  simp only [World.channel, mirisdrUpdateRspduoDual, driverCall, result,
    World.modify_daemon, World.advance_daemon, Option.map_map]
  congr 1
  funext radio
  exact Radio.channel_writeChannel (radio.setFreq _) config.tuner tuner _

theorem setsAmPort.notB {config : RadioConfig} {flags : UInt32} (sets : setsAmPort config flags) :
    config.tuner ≠ tunerB := by
  intro onB
  have masked :
      ~~~(changeAmPort ||| changeAmNotch) &&& (changeRspduoControls &&& changeAmPort) = 0 := by
    decide
  simp [setsAmPort, hasFlag, controlFlags, onB, UInt32.and_assoc, masked] at sets

theorem writeFrontEnd_channel {needed : Bool} {config : RadioConfig} {flags : UInt32}
    (tuned : needed = false → setsAmPort config flags → world.TunedToA)
    (succeeds : (writeFrontEnd environment world needed config flags).1 = true) (tuner : UInt32) :
    (writeFrontEnd environment world needed config flags).2.channel tuner =
      (world.channel tuner).map fun registers =>
        if needed = true ∧ SameChannel tuner config.tuner then frontEndRegisters config registers
        else registers := by
  simp only [writeFrontEnd, decide_eq_true_eq] at succeeds ⊢
  rw [setRspduoControls_channel environment _ (fun sets => ?_) succeeds.2,
    callIf_view _ (World.channel · tuner) (mirisdrUpdateRspduoDual_channel environment _ _ _)
      succeeds.1]
  · simp only [ite_and]
  cases needed with
  | false => exact tuned rfl sets
  | true =>
      intro radio found
      obtain ⟨before, -, rfl⟩ := Option.map_eq_some_iff.mp found
      simp only [Radio.writeChannel, if_neg sets.notB]
      rfl

/-- A call that does not fail returns zero. -/
theorem driverCall_eq_zero_of_not_neg
    {call : Call} {effect : Int → Radio → Radio}
    (notNegative : ¬ (driverCall environment world call effect).1 < 0) :
    (driverCall environment world call effect).1 = 0 := by
  have nonpositive := world.result_nonpos environment call
  simp only [driverCall] at notNegative ⊢
  omega

/-- Both channels have the same frequency. -/
def DualConfig.SharesFrequency (config : DualConfig) : Prop :=
  config.channelA.centerFrequencyHz = config.channelB.centerFrequencyHz

instance (config : DualConfig) : Decidable config.SharesFrequency :=
  inferInstanceAs (Decidable (_ = _))

/-- Setting the AM port of tuner A moves it to the frequency of tuner B, which
was tuned last. -/
theorem writeDual_radio {config : DualConfig} (valid : validDualConfig config = true)
    (succeeds : ¬ (writeDual environment world config).1 < 0) :
    (writeDual environment world config).2.daemon.radio = world.daemon.radio.map fun radio =>
      { radio with
        frequency := some config.channelB.centerFrequencyHz
        channelA :=
          { dualRegisters 0 config config.channelA with
            centerFrequency := some config.channelB.centerFrequencyHz }
        channelB := dualRegisters 0 config config.channelB
        controls := (radio.controls.write 0 config.channelA).write 0 config.channelB } := by
  simp only [validDualConfig, Bool.and_eq_true, beq_iff_eq] at valid
  have onA : config.channelA.tuner = tunerA := by tauto
  have onB : config.channelB.tuner = tunerB := by tauto
  have flagsA : controlFlags config.channelA changeRspduoControls = changeRspduoControls := by
    simp only [controlFlags, onA]
    decide
  have flagsB : controlFlags config.channelB changeRspduoControls =
      changeRspduoControls &&& ~~~(changeAmPort ||| changeAmNotch) := by
    simp only [controlFlags, onB]
    decide
  have zero {call : Call} {effect : Int → Radio → Radio} {before : World}
      (notNegative : ¬ (driverCall environment before call effect).1 < 0) :
      before.result environment call = 0 :=
    driverCall_eq_zero_of_not_neg environment before notNegative
  have someA : changeRspduoControls ≠ 0 := by decide
  have someB : changeRspduoControls &&& ~~~(changeAmPort ||| changeAmNotch) ≠ 0 := by decide
  simp only [writeDual, setRspduoControls, flagsA, flagsB, if_neg someA, if_neg someB] at succeeds ⊢
  split_ifs at succeeds ⊢ with configured controlled
  · exact absurd (zero succeeds) configured
  · exact absurd (zero succeeds) controlled
  · have resultB := zero succeeds
    have result : world.result environment .configureRspduoDual = 0 := not_not.mp configured
    have resultA := not_not.mp controlled
    simp only [mirisdrSetRspduoControls, mirisdrConfigureRspduoDual, driverCall, result,
      World.modify_daemon, World.advance_daemon, Option.map_map] at resultA resultB ⊢
    rw [resultA] at resultB ⊢
    rw [resultB]
    rfl

/-- The controls of the open handle. -/
def World.controls (world : World) : Option ControlRegisters :=
  world.daemon.radio.map Radio.controls

theorem openForDual_isSome : (openForDual environment world).1 = true ↔
      (openForDual environment world).2.daemon.radio.isSome = true := by
  unfold openForDual
  split_ifs with isOpen
  · simp [isOpen]
  · have resolved := resolveAcquiredDevice_inventoryOnly environment world
    have sameRadio := congrArg Receiver.radio resolved.receiver
    have closed : world.daemon.radio = none := by simpa using isOpen
    dsimp only
    split
    · simp [sameRadio, closed]
    · simp only [mirisdrOpenTuner, World.modify_daemon, written]
      split <;> simp_all

/-- Both tuners run a dual configuration, with the controls of the first
channel and then those of the second. -/
structure World.RunsDual (world : World) (config : DualConfig) : Prop where
  configured : world.daemon.configured = true
  dual : world.daemon.dualMode = true
  dualConfig : world.daemon.dualConfig = config
  channel : config.SharesFrequency →
    ∀ tuner, world.channel tuner = some (dualRegisters 0 config (config.channel tuner))
  controls : ∃ before : ControlRegisters,
    world.controls = some ((before.write 0 config.channelA).write 0 config.channelB)
  valid : validDualConfig config = true

theorem World.RunsDual.isSome {world : World} {config : DualConfig} (runs : world.RunsDual config) :
    world.daemon.radio.isSome = true := by
  obtain ⟨before, controls⟩ := runs.controls
  obtain ⟨radio, found, -⟩ := Option.map_eq_some_iff.mp controls
  rw [found]
  rfl

/-- Configuring both tuners leaves them as configured, or no handle. -/
theorem configureDualHandle_outcome {config : DualConfig} (valid : validDualConfig config = true) :
    ((configureDualHandle environment world config).1 = .ok ∧
        (configureDualHandle environment world config).2.RunsDual config) ∨
      ((configureDualHandle environment world config).1 ≠ .ok ∧
        (configureDualHandle environment world config).2.daemon.radio = none) := by
  have opens := openForDual_isSome environment world
  simp only [configureDualHandle]
  split_ifs with unopened failed
  · simp_all
  · exact .inr ⟨by simp, closeRadio_radio environment _⟩
  · have isOpen := opens.mp (by simpa using unopened)
    obtain ⟨radio, opened⟩ := Option.isSome_iff_exists.mp isOpen
    refine .inl ⟨rfl, rfl, rfl, rfl, fun shares tuner => ?_, ⟨radio.controls, ?_⟩, valid⟩
    · change (writeDual environment _ config).2.daemon.radio.map (Radio.channel · tuner) = _
      rw [writeDual_radio environment _ valid failed, opened]
      unfold DualConfig.SharesFrequency at shares
      simp only [Option.map_some, Radio.channel, DualConfig.channel, ← shares]
      split <;> rfl
    · change (writeDual environment _ config).2.daemon.radio.map Radio.controls = _
      rw [writeDual_radio environment _ valid failed, opened]
      rfl

theorem configureDualRadio_outcome (config : DualConfig) :
    ((configureDualRadio environment world config).1 = .ok ∧
        (configureDualRadio environment world config).2.RunsDual config) ∨
      ((configureDualRadio environment world config).1 ≠ .ok ∧
        ((configureDualRadio environment world
            config).2.daemon.radio = none ∨
          (configureDualRadio environment world config).2 = world)) := by
  simp only [configureDualRadio]
  split_ifs with invalid
  · exact .inr ⟨by simp, .inr rfl⟩
  · exact .inr ⟨by simp, .inl (closeRadio_radio environment world)⟩
  all_goals
    exact (configureDualHandle_outcome environment _ (by simpa using invalid)).imp id
      fun failed => ⟨failed.1, .inl failed.2⟩

theorem configureDualRadio_runsDual (config : DualConfig)
    (succeeds : (configureDualRadio environment world config).1 = .ok) :
    (configureDualRadio environment world config).2.RunsDual config := by
  rcases configureDualRadio_outcome environment world config with
    ⟨-, runs⟩ | ⟨failed, -⟩
  · exact runs
  · exact absurd succeeds failed

/-- An update changes no mode. -/
theorem applySingleUpdate_dualMode (next : RadioConfig) (flags : UInt32) :
    (applySingleUpdate environment world next flags).2.daemon.dualMode =
      world.daemon.dualMode := by
  have frame := writeUpdate_registersOnly environment world world.daemon.config next flags
  simp only [applySingleUpdate]
  split_ifs
  · rfl
  · rfl
  · exact frame.dualMode
  · exact frame.dualMode

end Dual

/-! ## What was accepted -/

/-- The configuration that was last accepted for each tuner. -/
structure AcceptedConfigs where
  channelA : Option RadioConfig
  channelB : Option RadioConfig
deriving DecidableEq

namespace AcceptedConfigs

def nothing : AcceptedConfigs := ⟨none, none⟩

def channel (accepted : AcceptedConfigs) (tuner : UInt32) :
    Option RadioConfig :=
  if tuner = tunerB then accepted.channelB else accepted.channelA

/-- Record an accepted configuration under its tuner. -/
def record (accepted : AcceptedConfigs) (config : RadioConfig) :
    AcceptedConfigs :=
  if config.tuner = tunerB then { accepted with channelB := some config }
  else { accepted with channelA := some config }

theorem channel_record (accepted : AcceptedConfigs) (config : RadioConfig) (tuner : UInt32) :
    (accepted.record config).channel tuner =
      if SameChannel tuner config.tuner then some config
      else accepted.channel tuner := by
  unfold record channel SameChannel
  split_ifs <;> simp_all

end AcceptedConfigs

/-! ## When the setters succeed -/

/-- The next call of each of these kinds succeeds. -/
def World.Succeeds (environment : Environment) (world : World) (calls : List Call) : Prop :=
  ∀ call ∈ calls, world.result environment call = 0

/-- The calls of an update of a single tuner, in order. -/
def updateCalls : List Call :=
  [.setSampleRate, .setCenterFreq, .setBandwidth, .setIfFreq, .setRspduoGain, .setRspduoControls]

/-- The calls of an update of one of two tuners, in order. -/
def dualUpdateCalls : List Call := [.updateRspduoDual, .setRspduoControls]

/-- Every call that writes registers succeeds. -/
def Environment.SettersSucceed (environment : Environment) : Prop :=
  ∀ call, call.writesRegisters = true → ∀ count, environment.results call count = 0

theorem Environment.SettersSucceed.succeeds
    {environment : Environment} (setters : environment.SettersSucceed)
    (world : World) {calls : List Call}
    (write : ∀ call ∈ calls, call.writesRegisters = true) :
    world.Succeeds environment calls := by
  intro call member
  simp [World.result, setters call (write call member)]

/-- A setter that is called once succeeds, and leaves the others' results
alone. -/
theorem World.Succeeds.callIf
    {environment : Environment} {world : World} {kind : Call}
    {rest : List Call} (succeeds : world.Succeeds environment (kind :: rest))
    (other : kind ∉ rest) {call : World → Int × World}
    (result : (call world).1 = world.result environment kind)
    (counts : (call world).2.used = (world.advance kind).used)
    (needed : Bool) :
    (callIf needed call world).1 = 0 ∧ (callIf needed call world).2.Succeeds environment rest := by
  unfold OpenRsp.callIf
  split
  · refine ⟨result.trans (succeeds kind List.mem_cons_self), ?_⟩
    intro later member
    have different : later ≠ kind := fun same => other (same ▸ member)
    have later := succeeds later (List.mem_cons_of_mem _ member)
    simpa [World.result, counts, different] using later
  · exact ⟨rfl, fun later member =>
      succeeds later (List.mem_cons_of_mem _ member)⟩

section Setters

variable {environment : Environment} {world : World}

theorem setRspduoControls_succeeds (succeeds : world.Succeeds environment [.setRspduoControls])
    (config : RadioConfig) (flags : UInt32) :
    (setRspduoControls environment world config flags).1 = 0 := by
  unfold setRspduoControls
  split
  · rfl
  · exact succeeds _ List.mem_cons_self

theorem writeUpdate_succeeds (succeeds : world.Succeeds environment updateCalls)
    (old next : RadioConfig) (flags : UInt32) :
    (writeUpdate environment world old next flags).1 = true := by
  unfold writeUpdate
  extract_lets rate frequency bandwidth ifFrequency gain controls
  obtain ⟨rateSet, succeeds⟩ : rate.1 = 0 ∧ rate.2.Succeeds environment _ :=
    succeeds.callIf (by decide) rfl rfl _
  obtain ⟨frequencySet, succeeds⟩ :
      frequency.1 = 0 ∧ frequency.2.Succeeds environment _ :=
    succeeds.callIf (by decide) rfl rfl _
  obtain ⟨bandwidthSet, succeeds⟩ :
      bandwidth.1 = 0 ∧ bandwidth.2.Succeeds environment _ :=
    succeeds.callIf (by decide) rfl rfl _
  obtain ⟨ifFrequencySet, succeeds⟩ :
      ifFrequency.1 = 0 ∧ ifFrequency.2.Succeeds environment _ :=
    succeeds.callIf (by decide) rfl rfl _
  obtain ⟨gainSet, succeeds⟩ : gain.1 = 0 ∧ gain.2.Succeeds environment _ :=
    succeeds.callIf (by decide) rfl rfl _
  exact decide_eq_true
    ⟨rateSet, frequencySet, bandwidthSet, ifFrequencySet, gainSet,
      setRspduoControls_succeeds succeeds next flags⟩

theorem writeFrontEnd_succeeds (succeeds : world.Succeeds environment dualUpdateCalls)
    (needed : Bool) (config : RadioConfig) (flags : UInt32) :
    (writeFrontEnd environment world needed config flags).1 = true := by
  unfold writeFrontEnd
  extract_lets tuned controls
  obtain ⟨tunedSet, succeeds⟩ :
      tuned.1 = 0 ∧ tuned.2.Succeeds environment _ :=
    succeeds.callIf (by decide) rfl rfl _
  exact decide_eq_true ⟨tunedSet, setRspduoControls_succeeds succeeds config flags⟩

end Setters

/-! ## Stopping the stream -/

/-- Two worlds that differ at most in the stream thread. -/
structure StreamOnly (before after : World) : Prop where
  ledger : after.daemon.toLedger = before.daemon.toLedger
  receiver : after.daemon.toReceiver = before.daemon.toReceiver
  inventory : after.daemon.toInventory = before.daemon.toInventory
  reports : after.daemon.toReports = before.daemon.toReports
  running : after.running = before.running
  sent : after.sent = before.sent
  openings : after.openings = before.openings
  clockReadings : after.clockReadings = before.clockReadings
  used : ∀ call, call ≠ .streamingStop → call ≠ .readAsync → after.used call = before.used call

theorem StreamOnly.refl (world : World) : StreamOnly world world :=
  ⟨rfl, rfl, rfl, rfl, rfl, rfl, rfl, rfl, fun _ _ _ => rfl⟩

theorem StreamOnly.trans {first second third : World} (left : StreamOnly first second)
    (right : StreamOnly second third) : StreamOnly first third where
  ledger := right.ledger.trans left.ledger
  receiver := right.receiver.trans left.receiver
  inventory := right.inventory.trans left.inventory
  reports := right.reports.trans left.reports
  running := right.running.trans left.running
  sent := right.sent.trans left.sent
  openings := right.openings.trans left.openings
  clockReadings := right.clockReadings.trans left.clockReadings
  used call notStop notRead :=
    (right.used call notStop notRead).trans (left.used call notStop notRead)

theorem StreamOnly.result {before after : World}
    (frame : StreamOnly before after) (environment : Environment)
    {call : Call} (notStop : call ≠ .streamingStop)
    (notRead : call ≠ .readAsync) :
    after.result environment call = before.result environment call := by
  simp only [World.result, frame.used call notStop notRead]

section Stopping

variable (environment : Environment) (world : World)

theorem streamThreadEnds_streamOnly :
    StreamOnly world (streamThreadEnds environment world) := by
  unfold streamThreadEnds
  split
  · exact .refl world
  · exact ⟨rfl, rfl, rfl, rfl, rfl, rfl, rfl, rfl, fun call _ notRead =>
      World.advance_used_of_ne world notRead⟩

theorem joinStreamThread_streamOnly :
    StreamOnly world (joinStreamThread environment world) := by
  unfold joinStreamThread
  split
  · exact streamThreadEnds_streamOnly environment world
  · exact .refl world

theorem mirisdrStreamingStop_streamOnly :
    StreamOnly world (mirisdrStreamingStop environment world).2 where
  ledger := rfl
  receiver := by
    simp [mirisdrStreamingStop, driverCall]
  inventory := rfl
  reports := rfl
  running := rfl
  sent := rfl
  openings := rfl
  clockReadings := rfl
  used call notStop _ := World.advance_used_of_ne world notStop

theorem stopStream_streamOnly :
    StreamOnly world (stopStream environment world).2 := by
  have stopped : StreamOnly world
        (if world.daemon.radio.isSome then
          mirisdrStreamingStop environment world
        else (0, world)).2 := by
    split
    · exact mirisdrStreamingStop_streamOnly environment world
    · exact .refl world
  have joined := stopped.trans (joinStreamThread_streamOnly environment _)
  simp only [stopStream]
  split
  · exact .refl world
  · exact { joined with }

/-- The stream state after the thread named by `stream_thread` has been
joined. -/
def joinedStream : StreamState :=
  if world.daemon.streamThread = .reading then
    { streaming := false
      streamThreadStarted := world.daemon.streamThreadStarted
      streamError := decide (world.result environment .readAsync ≠ 0)
      streamResult := world.result environment .readAsync
      streamThread := .idle }
  else world.daemon.toStreamState

theorem joinStreamThread_stream : (joinStreamThread environment world).daemon.toStreamState =
      joinedStream environment world := by
  unfold joinStreamThread streamThreadEnds joinedStream
  by_cases reading : world.daemon.streamThread = .reading
  · simp only [reading, if_true]
    rfl
  · simp only [reading, if_false]

theorem joinedStream_streamingStop :
    joinedStream environment (mirisdrStreamingStop environment world).2 =
      joinedStream environment world := by
  have read : (mirisdrStreamingStop environment world).2.result environment
        .readAsync = world.result environment .readAsync :=
    World.result_advance_of_ne environment world (by decide : Call.readAsync ≠ .streamingStop)
  simp only [joinedStream, read]
  rfl

/-- Stopping a started stream succeeds when the endpoint stops and the
stream thread has no error to report. -/
theorem stopStream_ok_iff (started : world.daemon.streamThreadStarted = true)
    (isOpen : world.daemon.radio.isSome = true) :
    (stopStream environment world).1 = 0 ↔ world.result environment .streamingStop = 0 ∧
        (joinedStream environment world).streamResult = 0 := by
  have nonpositive := world.result_nonpos environment .streamingStop
  have joined := congrArg StreamState.streamResult
      ((joinStreamThread_stream environment _).trans (joinedStream_streamingStop environment world))
  have stopped :
      (mirisdrStreamingStop environment world).1 = world.result environment .streamingStop :=
    rfl
  simp only [stopStream, started, isOpen, if_true, Bool.true_eq_false, if_false, joined, stopped]
  split_ifs with failed
  · rcases failed with negative | nonzero
    · simp only [false_iff, not_and]
      omega
    · simp [nonzero]
  · simp only [not_or, not_lt, not_not] at failed
    simp only [true_iff]
    exact ⟨by omega, failed.2⟩

/-- The stream state a stop leaves. -/
theorem stopStream_stream (started : world.daemon.streamThreadStarted = true) :
    (stopStream environment world).2.daemon.toStreamState =
      { joinedStream environment world with
        streamThreadStarted := false
        streaming := false } := by
  have joined : (joinStreamThread environment
        (if world.daemon.radio.isSome then
          mirisdrStreamingStop environment world
        else (0, world)).2).daemon.toStreamState =
        joinedStream environment world := by
    rw [joinStreamThread_stream]
    split
    · exact joinedStream_streamingStop environment world
    · rfl
  simp only [stopStream, started, Bool.true_eq_false, if_false, World.modify_daemon, joined]

end Stopping

end OpenRsp
