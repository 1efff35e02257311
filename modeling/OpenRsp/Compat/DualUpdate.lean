import OpenRsp.Compat.Session
import OpenRsp.Compat.UpdateAtomicity
import OpenRsp.Library.Runs

/-!
# Updates of both tuners

`sdrplay_api_Update` with `Tuner_Both` validates both tuners, prepares and
waits, and then calls itself for each of them, which validates again.  What
happens in between, the update of the first tuner included, touches only what
validation does not read or what it has already checked.
-/

namespace OpenRsp

open Runs

/-! ## What validation reads -/

/-- A channel without the fields validation does not read, or reads for the
check of the gain only. -/
def RxChannelParams.withoutGain (channel : RxChannelParams) :
    RxChannelParams :=
  { channel with
    tunerParams :=
      { channel.tunerParams with
        gain :=
          { channel.tunerParams.gain with
            gRdB := 0
            syncUpdate := 0
            gainVals := ⟨0.0, 0.0, 0.0⟩ }
        rfFreq := { channel.tunerParams.rfFreq with syncUpdate := 0 } }
    ctrlParams :=
      { channel.ctrlParams with
        agc := { channel.ctrlParams.agc with syncUpdate := 0 } } }

/-- Parameters that pass the validation of a tuner if the others do. -/
structure DeviceBlocks.ValidAs (before after : DeviceBlocks)
    (tuner : TunerSelect) : Prop where
  mode : after.mode = before.mode
  duoRole : after.duoRole = before.duoRole
  fsHz : after.devParams.fsHz = before.devParams.fsHz
  ppm : after.devParams.ppm = before.devParams.ppm
  channel : (after.channelForTuner tuner).withoutGain = (before.channelForTuner tuner).withoutGain
  gain : gainValid (before.channelForTuner tuner) tuner = true →
      gainValid (after.channelForTuner tuner) tuner = true

theorem DeviceBlocks.ValidAs.refl (blocks : DeviceBlocks)
    (tuner : TunerSelect) : blocks.ValidAs blocks tuner :=
  ⟨rfl, rfl, rfl, rfl, rfl, id⟩

theorem DeviceBlocks.ValidAs.trans {first second third : DeviceBlocks}
    {tuner : TunerSelect} (left : first.ValidAs second tuner)
    (right : second.ValidAs third tuner) : first.ValidAs third tuner where
  mode := right.mode.trans left.mode
  duoRole := right.duoRole.trans left.duoRole
  fsHz := right.fsHz.trans left.fsHz
  ppm := right.ppm.trans left.ppm
  channel := right.channel.trans left.channel
  gain valid := right.gain (left.gain valid)

/-- A check that fails less often, before checks that fail less often. -/
theorem check_mono {often seldom : Prop} [Decidable often]
    [Decidable seldom] {error rest less : ApiError}
    (isError : error ≠ .success) (implies : seldom → often)
    (next : rest = .success → less = .success)
    (passed : (if often then error else rest) = .success) :
    (if seldom then error else less) = .success := by
  by_cases fails : often
  · rw [if_pos fails] at passed
    exact absurd passed isError
  · rw [if_neg fails] at passed
    rw [if_neg fun also => fails (implies also)]
    exact next passed

/-- Validation passes again, for some of the reasons. -/
theorem validateUpdate_again {libm : Libm} {before after : DeviceBlocks}
    {tuner : TunerSelect} {reason fewer extension : UInt32}
    (same : before.ValidAs after tuner)
    (named : ∀ mask, names fewer mask = true → names reason mask = true)
    (valid : validateUpdate libm before tuner reason extension = .success) :
    validateUpdate libm after tuner fewer extension = .success := by
  obtain ⟨mode, duoRole, fsHz, ppm, channel, gain⟩ := same
  have read {Value : Type} (field : RxChannelParams → Value)
      (blind : ∀ channel, field channel.withoutGain = field channel) :
      field (after.channelForTuner tuner) = field (before.channelForTuner tuner) :=
    (blind _).symm.trans ((congrArg field channel).trans (blind _))
  unfold validateUpdate at valid ⊢
  dsimp only at valid ⊢
  rw [mode, duoRole, fsHz, ppm, read (·.rspDuoTunerParams.tuner1AmPortSel) fun _ => rfl,
    read (·.tunerParams.rfFreq.rfHz) fun _ => rfl,
    read (·.tunerParams.bwType) fun _ => rfl,
    read (·.tunerParams.ifType) fun _ => rfl,
    read (·.tunerParams.gain.minGr) fun _ => rfl,
    read (·.tunerParams.loMode) fun _ => rfl,
    read (·.tunerParams.dcOffsetTuner.trackTime) fun _ => rfl,
    read (·.tunerParams.dcOffsetTuner.refreshRateTime) fun _ => rfl,
    read (·.ctrlParams.decimation.factor) fun _ => rfl,
    read (·.ctrlParams.agc.enable) fun _ => rfl,
    read (·.ctrlParams.agc.setPointDbfs) fun _ => rfl,
    read (agcMaximumSetpoint ·.tunerParams.gain) fun _ => rfl,
    read (·.ctrlParams.adsbMode) fun _ => rfl,
    read (validateDspConfiguration libm · before.devParams.fsHz) fun _ => rfl]
  have refused : (!gainValid (after.channelForTuner tuner) tuner) = true →
        (!gainValid (before.channelForTuner tuner) tuner) = true := by
    simp only [Bool.not_eq_true']
    intro invalid
    by_contra valid
    rw [gain (by simpa using valid)] at invalid
    cases invalid
  refine check_mono (by decide) id ?_ valid
  refine check_mono (by decide) id ?_
  refine check_mono (by decide) id ?_
  refine check_mono (by decide) (named _) ?_
  refine check_mono (by decide) (And.imp_left (named _)) ?_
  refine check_mono (by decide) (And.imp_left (named _)) ?_
  refine check_mono (by decide) id ?_
  refine check_mono (by decide) (And.imp_right (named _)) ?_
  refine check_mono (by decide) (named _) ?_
  refine check_mono (by decide) (And.imp_left (named _)) ?_
  refine check_mono (by decide) (And.imp_left (named _)) ?_
  refine check_mono (by decide) (And.imp_left (named _)) ?_
  refine check_mono (by decide) (And.imp_left (named _)) ?_
  refine check_mono (by decide) (And.imp_left (named _)) ?_
  refine check_mono (by decide) (And.imp_left (named _)) ?_
  refine check_mono (by decide) (And.imp_left (named _)) ?_
  refine check_mono (by decide) (And.imp_left (named _)) ?_
  refine check_mono (by decide) (And.imp (named _) refused) ?_
  refine check_mono (by decide) (And.imp_left (named _)) ?_
  refine check_mono (by decide) (And.imp_left (named _)) ?_
  refine check_mono (by decide) (And.imp_left (named _)) ?_
  refine check_mono (by decide) (And.imp_left (named _)) ?_
  refine check_mono (by decide) (And.imp_left (named _)) ?_
  exact id

/-! ## What a call and the other threads change -/

/-- A change of one channel that validation does not see. -/
theorem DeviceBlocks.ValidAs.modifyChannel (blocks : DeviceBlocks) (changed tuner : TunerSelect)
    {change : RxChannelParams → RxChannelParams}
    (blind : (change (blocks.channelForTuner changed)).withoutGain =
        (blocks.channelForTuner changed).withoutGain)
    (gain : gainValid (blocks.channelForTuner changed) tuner = true →
        gainValid (change (blocks.channelForTuner changed)) tuner = true) :
    blocks.ValidAs (blocks.modifyChannel changed change) tuner := by
  unfold DeviceBlocks.channelForTuner at blind gain
  unfold DeviceBlocks.modifyChannel
  by_cases second : changed = .b
  · rw [if_pos second] at blind gain ⊢
    by_cases asked : tuner = .b
    · subst asked
      exact ⟨rfl, rfl, rfl, rfl, blind, gain⟩
    · refine ⟨rfl, rfl, rfl, rfl, ?_, ?_⟩ <;>
        simp [DeviceBlocks.channelForTuner, asked]
  · rw [if_neg second] at blind gain ⊢
    by_cases asked : tuner = .b
    · refine ⟨rfl, rfl, rfl, rfl, ?_, ?_⟩ <;>
        simp [DeviceBlocks.channelForTuner, asked]
    · refine ⟨rfl, rfl, rfl, rfl, ?_, ?_⟩
      · simpa [DeviceBlocks.channelForTuner, asked] using blind
      · simpa [DeviceBlocks.channelForTuner, asked] using gain

namespace ApiContext

/-- A change that leaves the parameters of a tuner as valid as they were, and
the call that waits alone. -/
structure KeepsValid (before after : ApiContext) (tuner : TunerSelect) :
    Prop where
  blocks : before.blocks.ValidAs after.blocks tuner
  updating : after.updating = before.updating

theorem KeepsValid.refl (context : ApiContext) (tuner : TunerSelect) :
    context.KeepsValid context tuner :=
  ⟨.refl _ _, rfl⟩

theorem KeepsValid.trans {first second third : ApiContext}
    {tuner : TunerSelect} (left : first.KeepsValid second tuner)
    (right : second.KeepsValid third tuner) :
    first.KeepsValid third tuner :=
  ⟨left.blocks.trans right.blocks, right.updating.trans left.updating⟩

variable (context : ApiContext)

/-- The parameters and the call that waits. -/
def parameters : DeviceBlocks × Option UpdateWait := (context.blocks, context.updating)

theorem KeepsValid.of_eq {before after : ApiContext}
    (same : after.parameters = before.parameters) (tuner : TunerSelect) :
    before.KeepsValid after tuner := by
  simp only [parameters, Prod.mk.injEq] at same
  exact ⟨same.1 ▸ .refl _ _, same.2⟩

theorem acknowledgeOverload_parameters (tuner : TunerSelect) :
    (context.acknowledgeOverload tuner).parameters =
      context.parameters := by
  unfold acknowledgeOverload
  dsimp only
  split_ifs <;> rfl

theorem installUpdate_parameters (tuner : TunerSelect) (reason : UInt32)
    (filters : SampleFilters) (now : UInt64) :
    (context.installUpdate tuner reason filters now).parameters =
      context.parameters := by
  unfold installUpdate
  dsimp only
  by_cases acknowledges : names reason updateCtrlOverloadMsgAck = true
  · rw [if_pos acknowledges, acknowledgeOverload_parameters]
    rfl
  · rw [if_neg acknowledges]
    rfl

theorem rollBackUpdate_parameters (before : ApiContext) (tuner : TunerSelect) (reason : UInt32) :
    (context.rollBackUpdate before tuner reason).parameters =
      context.parameters := by
  unfold rollBackUpdate
  dsimp only
  by_cases dsp : names reason dspReasons = true
  · rw [if_pos dsp]
    rfl
  · rw [if_neg dsp]
    rfl

theorem announce_parameters (tuner : TunerSelect)
    (announcement : Announcement) (acknowledged : Bool) :
    (context.announce tuner announcement acknowledged).parameters =
      context.parameters := by
  cases acknowledged <;> rfl

theorem daemonStreamCallback_parameters (libm : Libm) (frame : DaemonFrame) :
    (context.daemonStreamCallback libm frame).parameters =
      context.parameters := by
  have noted (context : ApiContext) (tuner : TunerSelect)
      (samples : List IqSample) :
      (context.noteOverload tuner samples).parameters =
        context.parameters := by
    unfold noteOverload
    dsimp only
    split_ifs <;> rfl
  have delivered (context : ApiContext) (tuner : TunerSelect)
      (gap : Bool × UInt32) (filtered : SampleFilters × List IqSample)
      (rms : UInt32) :
      (context.deliverFrame tuner gap filtered rms).parameters =
        context.parameters := rfl
  unfold daemonStreamCallback
  dsimp only
  split_ifs
  · rfl
  · rw [delivered, noted]
    rfl

theorem refreshGainVals_keepsValid {context refreshed : ApiContext}
    {updated : TunerSelect} {reason : UInt32}
    (found : context.refreshGainVals updated reason = some refreshed)
    (tuner : TunerSelect) : context.KeepsValid refreshed tuner := by
  unfold refreshGainVals at found
  split_ifs at found
  · obtain ⟨values, _, rfl⟩ := Option.map_eq_some_iff.mp found
    have stored : context.blocks.ValidAs
          (context.blocks.modifyChannel updated fun channel =>
            channel.setGainVals values) tuner :=
      .modifyChannel context.blocks updated tuner rfl id
    exact ⟨stored, rfl⟩
  · cases found
    exact .refl _ _

/-- An update stores gain values, and nothing else in the parameters. -/
theorem applyUpdate_keepsValid (libm : Libm) (updated : TunerSelect)
    (reason : UInt32) (backend : Int) (now : UInt64) (tuner : TunerSelect) :
    context.KeepsValid (context.applyUpdate libm updated reason backend now).2 tuner := by
  have installed (filters : SampleFilters) :=
    installUpdate_parameters context updated reason filters now
  rw [applyUpdate_eq]
  split_ifs
  · exact .refl _ _
  · split
    case h_1 refreshed found =>
      exact (KeepsValid.of_eq (installed _) tuner).trans
        ((refreshGainVals_keepsValid found tuner).trans
          (.of_eq (announce_parameters refreshed _ _ _) tuner))
    case h_2 =>
      refine .of_eq ?_ _
      rw [rollBackUpdate_parameters, announce_parameters, installed]
  · refine .of_eq ?_ _
    rw [rollBackUpdate_parameters, installed]

/-- A gain reduction the AGC may set is one validation accepts. -/
theorem gainValid_setGainReduction {channel : RxChannelParams}
    {adjusted tuner : TunerSelect} {reduction : Int32}
    (valid : gainValid (channel.setGainReduction reduction) adjusted = true)
    (values : GainValues) (before : gainValid channel tuner = true) :
    gainValid ((channel.setGainReduction reduction).setGainVals values) tuner = true := by
  unfold gainValid at valid before ⊢
  simp only [Bool.and_eq_true] at valid before ⊢
  exact ⟨⟨⟨valid.1.1.1, valid.1.1.2⟩, before.1.2⟩, before.2⟩

theorem adjustGain_keepsValid (adjusted : TunerSelect) (reduction : Int32)
    (backend : Int) (now : UInt64) (tuner : TunerSelect) :
    context.KeepsValid (context.adjustGain adjusted reduction backend now)
      tuner := by
  unfold adjustGain
  dsimp only
  by_cases accepted : gainValid ((context.blocks.channelForTuner adjusted).setGainReduction
        reduction) adjusted = true ∧ 0 ≤ backend
  · rw [if_pos accepted]
    cases channelGainValues
        ((context.blocks.channelForTuner adjusted).setGainReduction reduction)
        adjusted with
    | none => exact .refl _ _
    | some values =>
        have changed : context.blocks.ValidAs
              (context.blocks.modifyChannel adjusted fun channel =>
                (channel.setGainReduction reduction).setGainVals values)
              tuner :=
          .modifyChannel context.blocks adjusted tuner rfl
            (gainValid_setGainReduction accepted.1 values)
        exact ⟨changed, rfl⟩
  · rw [if_neg accepted]
    exact .refl _ _

theorem agcTick_keepsValid (libm : Libm) (adjusted : TunerSelect)
    (backend : Int) (now later : UInt64) (tuner : TunerSelect) :
    context.KeepsValid (context.agcTick libm adjusted backend now later) tuner := by
  unfold agcTick
  dsimp only
  generalize (if (context.streams (slotOf adjusted)).agcMode = agcCtrlEn then
    _ else _) = decision
  split_ifs
  · exact .of_eq (by rfl) _
  · exact .of_eq (by rfl) _
  · exact .of_eq (by rfl) _
  · exact .of_eq (by rfl) _
  · exact .of_eq (by rfl) _
  · exact KeepsValid.trans (.of_eq (by rfl) _)
      (adjustGain_keepsValid (modifyStream (modifyStream context _ _) _ _)
        adjusted _ backend later tuner)

theorem prepareUpdate_keepsValid (reason extension : UInt32) (tuner : TunerSelect) :
    context.KeepsValid (context.prepareUpdate .both reason extension)
      tuner := by
  have scheduled : (if names reason updateDevSyncUpdate then
        (context.scheduleUpdate .a).scheduleUpdate .b
      else context).parameters = context.parameters := by
    split_ifs <;> rfl
  have cleared (other : ApiContext) :
      other.KeepsValid (other.resetSchedules .both) tuner := by
    refine ⟨⟨rfl, rfl, rfl, rfl, ?_, ?_⟩, rfl⟩
    · unfold DeviceBlocks.channelForTuner
      split_ifs <;> rfl
    · unfold DeviceBlocks.channelForTuner
      split_ifs <;> exact id
  unfold prepareUpdate
  dsimp only
  rw [if_pos rfl, if_neg fun both => both.2 rfl]
  refine KeepsValid.trans (.of_eq scheduled tuner) ?_
  generalize (if names reason updateDevSyncUpdate then _ else _) = begun
  split_ifs
  · exact cleared begun
  · exact .refl _ _

theorem updateOne_keepsValid (libm : Libm) (updated : TunerSelect)
    (reason extension : UInt32) (answers : UpdateAnswers)
    (tuner : TunerSelect) :
    context.KeepsValid (context.updateOne libm updated reason extension answers).2 tuner := by
  unfold updateOne
  split
  · exact applyUpdate_keepsValid context libm updated reason _ _ tuner
  · exact .refl _ _

theorem performUpdate_keepsValid (libm : Libm) (updated : TunerSelect)
    (reason extension : UInt32) (answers : UpdateAnswers)
    (tuner : TunerSelect) :
    context.KeepsValid
      (context.performUpdate libm updated reason extension answers).2
      tuner := by
  have first := updateOne_keepsValid context libm .a reason extension answers tuner
  unfold performUpdate updateBoth
  split_ifs
  · split
    case h_1 after found =>
      rw [found] at first
      exact first.trans (updateOne_keepsValid after libm .b reason extension answers tuner)
    case h_2 => exact first
  · exact applyUpdate_keepsValid context libm updated reason _ _ tuner

theorem setSyncWaiting_blocks (tuner : TunerSelect) (waiting : Bool) :
    (context.setSyncWaiting tuner waiting).blocks = context.blocks := by
  unfold setSyncWaiting
  dsimp only
  split_ifs <;> rfl

theorem waitFor_blocks (wait : UpdateWait) (slot : Tuner) (categories : SyncCategories) :
    (context.waitFor wait slot categories).2.blocks = context.blocks := by
  have found : (context.targetBoundary slot categories).2.blocks = context.blocks := rfl
  unfold waitFor
  split
  case h_1 after looked =>
    rw [looked] at found
    exact found
  case h_2 after looked =>
    rw [looked] at found
    exact (setSyncWaiting_blocks after wait.tuner false).trans found

/-- The context the updates of a wait are made in. -/
def released (wait : UpdateWait) : ApiContext :=
  if wait.tuner = .both then context
  else context.setSyncWaiting wait.tuner false

theorem released_blocks (wait : UpdateWait) :
    (context.released wait).blocks = context.blocks := by
  unfold released
  split_ifs
  · rfl
  · exact setSyncWaiting_blocks context wait.tuner false

theorem finishWait_blocks (libm : Libm) (wait : UpdateWait) (answers : UpdateAnswers) :
    (context.finishWait libm wait answers).2.blocks =
      ((context.released wait).performUpdate libm wait.tuner wait.reason
        wait.extension answers).2.blocks := by
  have quiet := setSyncWaiting_blocks
      ((context.released wait).performUpdate libm wait.tuner wait.reason
        wait.extension answers).2 wait.tuner false
  have released : (if wait.tuner = .both then context
        else context.setSyncWaiting wait.tuner false) =
        context.released wait :=
    rfl
  unfold finishWait
  dsimp only
  rw [released]
  generalize (context.released wait).performUpdate libm wait.tuner
    wait.reason wait.extension answers = performed at quiet ⊢
  split_ifs <;> exact quiet

theorem awaitUpdate_validAs (libm : Libm) (timedOut : Bool)
    (answers : UpdateAnswers) (tuner : TunerSelect) :
    context.blocks.ValidAs (context.awaitUpdate libm timedOut answers).2.blocks tuner := by
  have quiet (waiting : TunerSelect) :
      context.blocks.ValidAs (context.setSyncWaiting waiting false).blocks
        tuner :=
    setSyncWaiting_blocks context waiting false ▸ .refl _ _
  unfold awaitUpdate
  split
  case h_1 => exact .refl _ _
  case h_2 wait updating =>
    dsimp only
    by_cases failed : context.streamState < 0
    · rw [if_pos failed]
      exact quiet wait.tuner
    · rw [if_neg failed]
      split_ifs
      · rw [waitFor_blocks]
        exact .refl _ _
      · rw [finishWait_blocks, ← released_blocks context wait]
        exact (performUpdate_keepsValid _ libm _ _ _ answers tuner).blocks
      · exact quiet wait.tuner
      · exact .refl _ _

end ApiContext

/-- What may happen during a call for both tuners: the work of a nested call,
a look at the sample count it waits for, or a step of another thread. -/
inductive DualMove where
  | nested (tuner : TunerSelect) (reason : UInt32) (backend : Int)
      (now : UInt64)
  | look (timedOut : Bool) (answers : ApiContext.UpdateAnswers)
  | thread (action : SessionAction)

/-- The steps of the threads of the interface, as opposed to calls and edits
of the application. -/
def SessionAction.isThread : SessionAction → Bool
  | .frame _ | .turn | .agcTick .. | .daemonEvent .. | .takeEvent
  | .finishDispatch => true
  | _ => false

def DualMove.isInside : DualMove → Bool
  | .nested .. | .look .. => true
  | .thread action => action.isThread

namespace ApiContext

/-- A move of a call for both tuners. -/
def moved (libm : Libm) (context : ApiContext) : DualMove → ApiContext
  | .nested tuner reason backend now =>
      (context.applyUpdate libm tuner reason backend now).2
  | .look timedOut answers => (context.awaitUpdate libm timedOut answers).2
  | .thread action => (context.step libm action).1

/-- The steps of the other threads. -/
theorem step_keepsValid (libm : Libm) (context : ApiContext)
    {action : SessionAction} (isThread : action.isThread = true)
    (tuner : TunerSelect) :
    context.KeepsValid (context.step libm action).1 tuner := by
  cases action with
  | edit _ _ _ => cases isThread
  | beginInit _ _ => cases isThread
  | finishInit _ _ => cases isThread
  | uninit _ => cases isThread
  | beginUpdate _ _ _ _ => cases isThread
  | awaitUpdate _ _ => cases isThread
  | frame frame =>
      simp only [step]
      split_ifs
      · exact .of_eq (daemonStreamCallback_parameters context libm frame) _
      · exact .refl _ _
  | turn =>
      simp only [step]
      split_ifs
      · exact .of_eq (by rfl) _
      · exact .refl _ _
  | agcTick second backend now later =>
      simp only [step]
      split_ifs
      · exact agcTick_keepsValid context libm _ backend now later tuner
      · exact .refl _ _
  | daemonEvent event fails =>
      simp only [step]
      split_ifs
      · exact .of_eq (by rfl) _
      · exact .of_eq (by rfl) _
      · exact .refl _ _
  | takeEvent => exact .of_eq (by rfl) _
  | finishDispatch => exact .of_eq (by rfl) _

theorem moved_validAs (libm : Libm) (context : ApiContext) {move : DualMove}
    (inside : move.isInside = true) (tuner : TunerSelect) :
    context.blocks.ValidAs (context.moved libm move).blocks tuner := by
  cases move with
  | nested updated reason backend now =>
      exact (applyUpdate_keepsValid context libm updated reason backend now tuner).blocks
  | look timedOut answers =>
      exact awaitUpdate_validAs context libm timedOut answers tuner
  | thread action => exact (step_keepsValid libm context inside tuner).blocks

/-- Whatever happens inside the call, the parameters stay as valid as they
were. -/
theorem moves_validAs (libm : Libm) (context : ApiContext)
    {moves : List DualMove} (inside : ∀ move ∈ moves, move.isInside = true)
    (tuner : TunerSelect) :
    context.blocks.ValidAs (runSteps (moved libm) context moves).blocks
      tuner := by
  have preserved (reached : ApiContext) (move : DualMove)
      (isInside : move.isInside = true)
      (valid : context.blocks.ValidAs reached.blocks tuner) :
      context.blocks.ValidAs (reached.moved libm move).blocks tuner :=
    valid.trans (moved_validAs libm reached isInside tuner)
  exact invariant_of_forall preserved inside (.refl _ _)

/-- The reasons that are left are among those that were validated. -/
theorem names_of_remaining {reason : UInt32} (mask : UInt32)
    (named : names (remainingReasons reason) mask = true) :
    names reason mask = true := by
  unfold names remainingReasons at *
  simp only [bne_iff_ne] at *
  intro none
  apply named
  rw [UInt32.and_assoc, UInt32.and_comm _ mask, ← UInt32.and_assoc, none, UInt32.zero_and]

/-! ## Requests and results -/

/-- The tuners a nested call sends an update for. -/
def requestsOfOne (libm : Libm) (context : ApiContext) (tuner : TunerSelect)
    (reason extension : UInt32) : List TunerSelect :=
  match validateUpdate libm context.blocks tuner reason extension with
  | .success => if context.sendsUpdate libm tuner reason then [tuner] else []
  | _ => []

/-- The tuners the two nested calls send an update for. -/
def requestsOfBoth (libm : Libm) (context : ApiContext)
    (reason extension : UInt32) (answers : UpdateAnswers) :
    List TunerSelect :=
  context.requestsOfOne libm .a reason extension ++
    match context.updateOne libm .a reason extension answers with
    | (.success, updated) => updated.requestsOfOne libm .b reason extension
    | _ => []

/-- The tuners a call for both sends an update for before it waits. -/
def requestsAtOnce (libm : Libm) (context : ApiContext)
    (reason extension : UInt32) (answers : UpdateAnswers) :
    List TunerSelect :=
  match context.readyAtOnce libm .both reason extension with
  | some prepared =>
      prepared.requestsOfBoth libm (remainingReasons reason) extension answers
  | none => []

end ApiContext

/-- The errors of `validate_update`. -/
def ApiError.isValidation : ApiError → Bool
  | .invalidParam | .outOfRange | .invalidMode | .hwVerError => true
  | _ => false

namespace ApiContext

/-- An update that was validated fails with an error of its own. -/
theorem applyUpdate_not_validation (libm : Libm) (context : ApiContext)
    (tuner : TunerSelect) (reason : UInt32) (backend : Int) (now : UInt64) :
    (context.applyUpdate libm tuner reason backend now).1.isValidation =
      false := by
  have code : (updateFailureCode reason).isValidation = false := by
    unfold updateFailureCode
    split_ifs <;> rfl
  rw [applyUpdate_eq]
  split_ifs
  · rfl
  · split
    · rfl
    · exact code
  · exact code

/-- Both tuners pass validation. -/
def BothValid (libm : Libm) (blocks : DeviceBlocks) (reason extension : UInt32) : Prop :=
  ∀ tuner, tuner = .a ∨ tuner = .b → validateUpdate libm blocks tuner reason extension = .success

/-- The nested calls find their parameters valid. -/
theorem performUpdate_not_validation {libm : Libm} {context : ApiContext}
    {reason extension : UInt32}
    (valid : BothValid libm context.blocks reason extension)
    (answers : UpdateAnswers) :
    (context.performUpdate libm .both reason extension answers).1.isValidation = false := by
  have first : context.updateOne libm .a reason extension answers =
        context.applyUpdate libm .a reason (answers.backend .a)
          answers.now := by
    unfold updateOne
    rw [valid .a (.inl rfl)]
  have second : validateUpdate libm
          (context.applyUpdate libm .a reason (answers.backend .a)
            answers.now).2.blocks .b reason extension =
        .success :=
    validateUpdate_again
      (applyUpdate_keepsValid context libm .a reason _ _ .b).blocks
      (fun _ named => named) (valid .b (.inr rfl))
  have failure := applyUpdate_not_validation libm context .a reason (answers.backend .a) answers.now
  unfold performUpdate updateBoth
  rw [if_pos rfl, first]
  generalize context.applyUpdate libm .a reason (answers.backend .a)
    answers.now = result at second failure ⊢
  obtain ⟨code, updated⟩ := result
  cases code with
  | success =>
      dsimp only
      unfold updateOne
      rw [second]
      exact applyUpdate_not_validation libm updated .b reason _ _
  | _ => exact failure

theorem bothValid_of_validateTuners {libm : Libm} {blocks : DeviceBlocks}
    {reason extension : UInt32}
    (valid : validateTuners libm blocks .both reason extension = .success) :
    BothValid libm blocks reason extension := by
  unfold validateTuners at valid
  rw [if_pos rfl] at valid
  have first : validateUpdate libm blocks .a reason extension = .success := by
    by_contra failed
    revert valid
    cases result : validateUpdate libm blocks .a reason extension with
    | success => exact fun _ => failed result
    | _ => exact nofun
  rw [first] at valid
  rintro tuner (rfl | rfl)
  · exact first
  · exact valid

/-- Validated parameters stay valid for the reasons that are left. -/
theorem BothValid.again {libm : Libm} {before after : DeviceBlocks}
    {reason fewer extension : UInt32}
    (valid : BothValid libm before reason extension)
    (same : ∀ tuner, before.ValidAs after tuner)
    (named : ∀ mask, names fewer mask = true → names reason mask = true) :
    BothValid libm after fewer extension :=
  fun tuner asked =>
    validateUpdate_again (same tuner) named (valid tuner asked)

/-! ## Calls that wait -/

/-- A call that waits is the one for both tuners with these reasons. -/
def WaitsFor (context : ApiContext) (reason extension : UInt32) : Prop :=
  ∀ wait, context.updating = some wait →
    wait.tuner = .both ∧ wait.reason = reason ∧ wait.extension = extension

theorem waitFor_waitsFor {context : ApiContext} {wait : UpdateWait}
    (slot : Tuner) (categories : SyncCategories) (both : wait.tuner = .both) :
    (context.waitFor wait slot categories).2.WaitsFor wait.reason
      wait.extension := by
  unfold waitFor
  split
  · intro waiting found
    cases found
    exact ⟨both, rfl, rfl⟩
  · exact fun waiting found => by cases found

theorem awaitUpdate_waitsFor {libm : Libm} {context : ApiContext}
    {reason extension : UInt32} (waits : context.WaitsFor reason extension)
    (timedOut : Bool) (answers : UpdateAnswers) :
    (context.awaitUpdate libm timedOut answers).2.WaitsFor reason
      extension := by
  have done {other : ApiContext} (ended : other.updating = none) :
      other.WaitsFor reason extension :=
    fun wait found => by rw [ended] at found; cases found
  unfold awaitUpdate
  split
  case h_1 => exact waits
  case h_2 wait updating =>
    obtain ⟨both, rfl, rfl⟩ := waits wait updating
    dsimp only
    by_cases failed : context.streamState < 0
    · rw [if_pos failed]
      exact done rfl
    · rw [if_neg failed]
      split_ifs
      · exact waitFor_waitsFor .b wait.categoriesB both
      · exact done rfl
      · exact done rfl
      · exact waits

theorem moves_waitsFor (libm : Libm) {context : ApiContext}
    {reason extension : UInt32} (waits : context.WaitsFor reason extension)
    {moves : List DualMove} (inside : ∀ move ∈ moves, move.isInside = true) :
    (runSteps (moved libm) context moves).WaitsFor reason extension := by
  have keeps {before after : ApiContext}
      (same : after.updating = before.updating)
      (waiting : before.WaitsFor reason extension) :
      after.WaitsFor reason extension :=
    fun wait found => waiting wait (same ▸ found)
  have preserved (reached : ApiContext) (move : DualMove)
      (isInside : move.isInside = true)
      (waiting : reached.WaitsFor reason extension) :
      (reached.moved libm move).WaitsFor reason extension := by
    cases move with
    | nested tuner asked backend now =>
        exact keeps (applyUpdate_keepsValid reached libm tuner asked backend
          now .a).updating waiting
    | look timedOut answers =>
        exact awaitUpdate_waitsFor waiting timedOut answers
    | thread action =>
        exact keeps (step_keepsValid libm reached isInside .a).updating waiting
  exact invariant_of_forall preserved inside waits

/-- A call whose wait is over does not fail validation. -/
theorem awaitUpdate_not_validation {libm : Libm} {context : ApiContext}
    {reason extension : UInt32} (waits : context.WaitsFor reason extension)
    (valid : BothValid libm context.blocks reason extension)
    (timedOut : Bool) (answers : UpdateAnswers) {error : ApiError}
    (returned : (context.awaitUpdate libm timedOut answers).1 = some error) :
    error.isValidation = false := by
  unfold awaitUpdate at returned
  split at returned
  case h_1 => cases returned
  case h_2 wait updating =>
    obtain ⟨both, rfl, rfl⟩ := waits wait updating
    have target (slot : Tuner) (categories : SyncCategories)
        (found : (context.waitFor wait slot categories).1 = some error) :
        error.isValidation = false := by
      unfold waitFor at found
      split at found
      · cases found
      · cases found
        rfl
    dsimp only at returned
    by_cases failed : context.streamState < 0
    · rw [if_pos failed] at returned
      cases returned
      rfl
    · rw [if_neg failed] at returned
      split_ifs at returned
      · exact target .b _ returned
      · have finished : (context.finishWait libm wait answers).1 =
              some ((context.released wait).performUpdate libm wait.tuner
                wait.reason wait.extension answers).1 :=
          rfl
        rw [finished] at returned
        cases returned
        rw [both]
        exact performUpdate_not_validation (released_blocks context wait ▸ valid) answers
      · cases returned
        rfl

/-! ## The whole call -/

theorem readyAtOnce_valid {libm : Libm} {context prepared : ApiContext}
    {reason extension : UInt32}
    (ready : context.readyAtOnce libm .both reason extension = some prepared) :
    BothValid libm prepared.blocks (remainingReasons reason) extension := by
  unfold readyAtOnce at ready
  dsimp only at ready
  split_ifs at ready with conditions
  cases ready
  exact (bothValid_of_validateTuners conditions.2.2.2.1).again
    (fun tuner =>
      (prepareUpdate_keepsValid context reason extension tuner).blocks)
    fun mask => names_of_remaining mask

/-- A call for both tuners that is refused by a check changes nothing; past
its checks it fails no more validation. -/
theorem beginUpdate_validation {libm : Libm} {context : ApiContext}
    {reason extension : UInt32} {answers : UpdateAnswers} {error : ApiError}
    (returned : (context.beginUpdate libm .both reason extension answers).1 = some error)
    (isValidation : error.isValidation = true) :
    (context.beginUpdate libm .both reason extension answers).2 = context ∧
      context.readyAtOnce libm .both reason extension = none := by
  rcases beginUpdate_cases context libm .both reason extension answers with
    ⟨notReady, _, begun⟩ | ⟨_, _, slot, categories, begun⟩ | ⟨prepared, ready, begun⟩
  · exact ⟨congrArg Prod.snd begun, notReady⟩
  · rw [begun] at returned
    unfold waitFor at returned
    split at returned
    · cases returned
    · cases returned
      cases isValidation
  · rw [begun] at returned
    cases returned
    rw [performUpdate_not_validation (readyAtOnce_valid ready)] at isValidation
    cases isValidation

theorem beginUpdate_waitsFor {libm : Libm} {context : ApiContext}
    {reason extension : UInt32} {answers : UpdateAnswers}
    (idle : context.updating = none) :
    (context.beginUpdate libm .both reason extension answers).2.WaitsFor
      (remainingReasons reason) extension := by
  have done {other : ApiContext} (ended : other.updating = none) :
      other.WaitsFor (remainingReasons reason) extension :=
    fun wait found => by rw [ended] at found; cases found
  rcases beginUpdate_cases context libm .both reason extension answers with
    ⟨_, _, begun⟩ | ⟨_, _, slot, categories, begun⟩ | ⟨prepared, ready, begun⟩
  · rw [begun]
    exact done idle
  · rw [begun]
    exact waitFor_waitsFor slot categories rfl
  · have kept :=
      performUpdate_keepsValid prepared libm .both (remainingReasons reason) extension answers .a
    unfold readyAtOnce at ready
    dsimp only at ready
    split_ifs at ready
    cases ready
    rw [begun]
    exact done (kept.updating.trans
      ((prepareUpdate_keepsValid context reason extension .a).updating.trans idle))

/-- A call that waits has validated what it will update. -/
theorem beginUpdate_waiting_valid {libm : Libm} {context : ApiContext}
    {reason extension : UInt32} {answers : UpdateAnswers}
    (waits : (context.beginUpdate libm .both reason extension answers).1 = none) :
    BothValid libm
      (context.beginUpdate libm .both reason extension answers).2.blocks
      (remainingReasons reason) extension := by
  rcases beginUpdate_cases context libm .both reason extension answers with
    ⟨_, _, begun⟩ | ⟨_, valid, slot, categories, begun⟩ | ⟨_, _, begun⟩
  · rw [begun] at waits
    cases waits
  · rw [begun, waitFor_blocks, setSyncWaiting_blocks]
    exact (bothValid_of_validateTuners valid).again
      (fun tuner =>
        (prepareUpdate_keepsValid context reason extension tuner).blocks)
      fun mask => names_of_remaining mask
  · rw [begun] at waits
    cases waits

/-- An update of both tuners acts only on parameters that pass validation: a
call that returns one of its errors has sent nothing and changed nothing, and
once both tuners are validated, both are valid for the nested calls, whatever
these and the other threads do, also after a wait. -/
theorem dual_update_validates_first (libm : Libm) (context : ApiContext)
    (reason extension : UInt32) (answers : UpdateAnswers)
    (idle : context.updating = none) :
    (∀ error,
      (context.beginUpdate libm .both reason extension answers).1 = some error →
      error.isValidation = true → (context.beginUpdate libm .both reason extension answers).2 =
            context ∧
          context.requestsAtOnce libm reason extension answers = []) ∧
    (validateTuners libm context.blocks .both reason extension = .success →
      ∀ moves : List DualMove, (∀ move ∈ moves, move.isInside = true) → BothValid libm
          (runSteps (moved libm) (context.prepareUpdate .both reason extension) moves).blocks
          (remainingReasons reason) extension) ∧
    ((context.beginUpdate libm .both reason extension answers).1 = none →
      ∀ moves : List DualMove, (∀ move ∈ moves, move.isInside = true) → ∀ timedOut later error,
          ((runSteps (moved libm)
            (context.beginUpdate libm .both reason extension answers).2
            moves).awaitUpdate libm timedOut later).1 = some error →
          error.isValidation = false) := by
  refine ⟨?_, ?_, ?_⟩
  · intro error returned isValidation
    obtain ⟨unchanged, notReady⟩ := beginUpdate_validation returned isValidation
    refine ⟨unchanged, ?_⟩
    rw [requestsAtOnce, notReady]
  · intro valid moves inside
    refine (bothValid_of_validateTuners valid).again (fun tuner => ?_)
      fun mask => names_of_remaining mask
    exact (prepareUpdate_keepsValid context reason extension
      tuner).blocks.trans (moves_validAs libm _ inside tuner)
  · intro waits moves inside timedOut later error returned
    refine awaitUpdate_not_validation
      (moves_waitsFor libm (beginUpdate_waitsFor idle) inside) ?_ timedOut
      later returned
    exact (beginUpdate_waiting_valid waits).again
      (fun tuner => moves_validAs libm _ inside tuner) fun _ named => named

/-- A dual session in which the application has set an AM port that does not
exist for tuner B. -/
def wrongPortContext : ApiContext :=
  let opened := resetParameters floatLibm
  { opened with
    selected := true
    initialized := true
    backend := true
    blocks :=
      { opened.blocks with
        mode := .dualTuner
        tuner := .both
        channelB :=
          { opened.blocks.channelB with
            rspDuoTunerParams :=
              { opened.blocks.channelB.rspDuoTunerParams with
                tuner1AmPortSel := 7 } } } }

theorem wrongPort_changes_nothing :
    let result :=
      wrongPortContext.beginUpdate floatLibm .both
        (updateDevSyncUpdate ||| updateTunerGr) 0 ⟨0, 0, 0⟩
    result.1 = some .invalidParam ∧ result.2 = wrongPortContext ∧
      wrongPortContext.requestsAtOnce floatLibm
        (updateDevSyncUpdate ||| updateTunerGr) 0 ⟨0, 0, 0⟩ = [] := by
  have returned : (wrongPortContext.beginUpdate floatLibm .both
        (updateDevSyncUpdate ||| updateTunerGr) 0 ⟨0, 0, 0⟩).1 = some .invalidParam := by
    decide +kernel
  exact ⟨returned, (dual_update_validates_first floatLibm wrongPortContext
      (updateDevSyncUpdate ||| updateTunerGr) 0 ⟨0, 0, 0⟩ rfl).1 .invalidParam returned rfl⟩

end ApiContext

end OpenRsp
