import OpenRsp.Compat.Session
import OpenRsp.Daemon.Ownership
import OpenRsp.Daemon.Tuning

/-!
# Failed updates

`sdrplay_api_Update` for one tuner with the daemon that answers it.  The call
installs the state of the filters and the AGC, asks the daemon, computes the
gain values, and takes back what it installed if any of this fails.

It takes back too little: the timers of the AGC are cleared instead of
restored, the callback size is restored only together with the filters, and
what the daemon has stored stays stored.
-/

namespace OpenRsp

/-! ## The request -/

def updateRfNotchControl : UInt32 := 0x40000000
def updateRfDabNotchControl : UInt32 := 0x80000000

/-- The reasons and the flags of `protocol_change_flags`. -/
def reasonFlags : List (UInt32 × UInt32) :=
  [(updateDevFs, changeSampleRate),
    (updateTunerFrf ||| updateDevPpm, changeRf),
    (updateTunerBwType, changeBandwidth),
    (updateTunerIfType, changeIf),
    (updateTunerGr, changeGain),
    (updateTunerGrLimits, changeGain),
    (updateCtrlAgc, changeAgc),
    (updateBiasTControl, changeBiasTee),
    (updateRfNotchControl, changeRfNotch),
    (updateRfDabNotchControl, changeDabNotch),
    (updateExtRefControl, changeExtRef),
    (updateAmPortSelect, changeAmPort),
    (updateTuner1AmNotchControl, changeAmNotch)]

/-- `protocol_change_flags`. -/
def protocolChangeFlags (reason : UInt32) : UInt32 :=
  reasonFlags.foldl
    (fun flags entry => if names reason entry.1 then flags ||| entry.2 else flags)
    0

/-- The number of a tuner in the protocol. -/
def tunerNumber (tuner : TunerSelect) : UInt32 :=
  if tuner = .b then tunerB else tunerA

/-- The request an update sends.  A frequency that no conversion is defined
for may become anything. -/
structure IsUpdateRequest (blocks : DeviceBlocks) (tuner : TunerSelect)
    (reason : UInt32) (request : UpdateRequest) : Prop where
  changedFlags : request.changedFlags = protocolChangeFlags reason
  number : request.config.tuner = tunerNumber tuner
  config : ∀ config, fillRadioConfigTuner blocks tuner = some config → request.config = config

/-! ## The call -/

namespace ApiContext

/-- The filters an update installs; none if the AGC parameters or a filter
are refused. -/
def configuredFilters (libm : Libm) (context : ApiContext)
    (tuner : TunerSelect) (reason : UInt32) : Option SampleFilters :=
  let channel := context.blocks.channelForTuner tuner
  let fsHz := context.blocks.devParams.fsHz
  if names reason updateCtrlAgc ∧ !agcValid channel fsHz then none
  else
    configureFilters libm channel fsHz reason (context.streams (slotOf tuner)).filters

/-- Whether an update asks the daemon. -/
def sendsUpdate (libm : Libm) (context : ApiContext) (tuner : TunerSelect)
    (reason : UInt32) : Bool :=
  reason != updateNone && (context.configuredFilters libm tuner reason).isSome

/-- The context a call makes its update in, if it gets there at once. -/
def readyAtOnce (libm : Libm) (context : ApiContext) (tuner : TunerSelect)
    (reason extension : UInt32) : Option ApiContext :=
  let prepared := context.prepareUpdate tuner reason extension
  let wait :=
    updateWait prepared.blocks tuner (remainingReasons reason) extension
  if acceptsTuner context.blocks tuner ∧ context.initialized ∧
      context.backend ∧
      validateTuners libm context.blocks tuner reason extension = .success ∧
      wait.categoriesA = .none ∧ wait.categoriesB = .none then
    some prepared
  else none

/-- Whether a waiting update has reached its last boundary. -/
def boundaryReached (context : ApiContext) (wait : UpdateWait) : Bool :=
  decide (0 ≤ context.streamState) &&
    decide (((context.streams wait.slot).sampleNumber - wait.target).toInt32 ≥ 0) &&
    !(decide (wait.slot = .a) && decide (wait.categoriesB ≠ .none))

/-- The context a waiting call makes its update in, if its wait is over. -/
def readyAfterWait (context : ApiContext) (wait : UpdateWait) :
    Option ApiContext :=
  if context.boundaryReached wait then
    some (context.setSyncWaiting wait.tuner false)
  else none

end ApiContext

/-- A step of a call: its start, or a look at the sample count. -/
inductive UpdateCall where
  | start (tuner : TunerSelect) (reason extension : UInt32)
  | look (timedOut : Bool)

/-- A client and the daemon it is connected to. -/
structure UpdateSystem where
  context : ApiContext
  world : World
  descriptor : Int

/-- What becomes of a request: it does not reach the daemon, it is handled and
the answer does not come in time, or it is answered. -/
inductive RequestFate where
  | lost
  | unanswered
  | answered
deriving DecidableEq, Repr

/-- The result of `async_request` for an answer. -/
def Handled.backendResult (handled : Handled) : Int :=
  if handled.status = .ok then
    if hasFlag handled.changedFlags responseRecoveryQueued then 1 else 0
  else -(handled.status.code : Int)

theorem backendResult_neg_iff (handled : Handled) :
    handled.backendResult < 0 ↔ handled.status ≠ .ok := by
  unfold Handled.backendResult
  split_ifs with ok flag
  · simp [ok]
  · simp [ok]
  · simp only [ne_eq, ok, not_false_eq_true, iff_true]
    revert ok
    cases handled.status <;> decide

namespace UpdateSystem

variable (libm : Libm) (environment : Environment) (system : UpdateSystem)

/-- The daemon handles an update. -/
def handled (request : UpdateRequest) : Handled :=
  dispatch environment system.world system.descriptor
    (if system.context.blocks.duoRole ≠ .none then .duoUpdate request
      else .update request)

/-- `openrsp_daemon_backend_update` and `openrsp_daemon_backend_update_duo`. -/
def deliver (request : UpdateRequest) : RequestFate → Int × World
  | .lost => (-1, system.world)
  | .unanswered => (-1, (system.handled environment request).world)
  | .answered =>
      ((system.handled environment request).backendResult,
        (system.handled environment request).world)

/-- The tuner a call is about. -/
def callTuner : UpdateCall → Option TunerSelect
  | .start tuner _ _ => some tuner
  | .look _ => system.context.updating.map UpdateWait.tuner

/-- The context and the reasons a call makes its update with. -/
def applies : UpdateCall → Option (ApiContext × UInt32)
  | .start tuner reason extension =>
      (system.context.readyAtOnce libm tuner reason extension).map
        (·, ApiContext.remainingReasons reason)
  | .look _ =>
      system.context.updating.bind fun wait =>
        (system.context.readyAfterWait wait).map (·, wait.reason)

/-- One step of a call.  The request matters only to a step that sends it. -/
def step (call : UpdateCall) (request : UpdateRequest) (fate : RequestFate)
    (now : UInt64) : Option ApiError × UpdateSystem :=
  let answer := system.deliver environment request fate
  let answers : ApiContext.UpdateAnswers := ⟨answer.1, answer.1, now⟩
  let result :=
    match call with
    | .start tuner reason extension =>
        system.context.beginUpdate libm tuner reason extension answers
    | .look timedOut => system.context.awaitUpdate libm timedOut answers
  let sent :=
    match system.applies libm call, system.callTuner call with
    | some (ready, reason), some tuner =>
        ready.sendsUpdate libm tuner reason
    | _, _ => false
  (result.1,
    { system with
      context := result.2
      world := if sent then answer.2 else system.world })

end UpdateSystem

/-! ## What a failed update should leave -/

/-- The state of a tuner an update installs. -/
@[ext]
structure UpdateState where
  filters : SampleFilters
  agcMode : UInt32
  agcSetpoint : Int32
  agcLastAdjustMs : UInt64
  agcDecaySinceMs : UInt64
  callbackSamples : CallbackDevice.CallbackSize

def TunerStream.updateState (stream : TunerStream)
    (callbackSamples : CallbackDevice.CallbackSize) : UpdateState where
  filters := stream.filters
  agcMode := stream.agcMode
  agcSetpoint := stream.agcSetpoint
  agcLastAdjustMs := stream.agcLastAdjustMs
  agcDecaySinceMs := stream.agcDecaySinceMs
  callbackSamples := callbackSamples

namespace ApiContext

def updateState (context : ApiContext) (slot : Tuner) : UpdateState :=
  (context.streams slot).updateState context.callbackSamples

variable (context : ApiContext) (slot : Tuner)

theorem modifyStream_updateState (changed : Tuner) (change : TunerStream → TunerStream)
    (kept : ∀ stream callbackSamples,
      (change stream).updateState callbackSamples = stream.updateState callbackSamples) :
    (context.modifyStream changed change).updateState slot =
      context.updateState slot := by
  unfold updateState modifyStream
  by_cases same : slot = changed
  · subst same
    simp only [Function.update_self, kept]
  · simp only [Function.update_of_ne same]

@[simp] theorem setSyncWaiting_updateState (tuner : TunerSelect)
    (waiting : Bool) :
    (context.setSyncWaiting tuner waiting).updateState slot =
      context.updateState slot := by
  unfold setSyncWaiting
  dsimp only
  split_ifs
  · exact (modifyStream_updateState _ _ _ _ (by intro _ _; rfl)).trans
      (modifyStream_updateState _ _ _ _ (by intro _ _; rfl))
  · exact modifyStream_updateState _ _ _ _ (by intro _ _; rfl)

@[simp] theorem waitFor_updateState (wait : UpdateWait) (waited : Tuner)
    (categories : SyncCategories) :
    (context.waitFor wait waited categories).2.updateState slot =
      context.updateState slot := by
  have found : (context.targetBoundary waited categories).2.updateState slot =
        context.updateState slot := by
    unfold targetBoundary
    dsimp only
    exact modifyStream_updateState _ _ _ _ (by intro _ _; rfl)
  unfold waitFor
  split
  case h_1 target after looked =>
    rw [looked] at found
    exact found
  case h_2 after looked =>
    rw [looked] at found
    exact (setSyncWaiting_updateState after slot wait.tuner false).trans found

theorem scheduleUpdate_updateState (scheduled : Tuner) :
    (context.scheduleUpdate scheduled).updateState slot =
      context.updateState slot :=
  modifyStream_updateState _ _ _ _ (by intro _ _; rfl)

theorem resetSchedules_updateState (tuner : TunerSelect) :
    (context.resetSchedules tuner).updateState slot =
      context.updateState slot := by
  have cleared (context : ApiContext) (changed : Tuner)
      (reset : SyncCategories) :
      (context.modifyStream changed fun stream =>
          { stream with
            syncUpdate := stream.syncUpdate.reset reset }).updateState slot =
        context.updateState slot :=
    modifyStream_updateState _ _ _ _ (by intro _ _; rfl)
  unfold resetSchedules
  dsimp only
  split_ifs
  · exact (cleared (context.modifyStream .a _) .b _).trans (cleared context .a _)
  · exact cleared context (slotOf tuner) _

@[simp] theorem prepareUpdate_updateState (tuner : TunerSelect)
    (reason extension : UInt32) :
    (context.prepareUpdate tuner reason extension).updateState slot =
      context.updateState slot := by
  have scheduled : (if names reason updateDevSyncUpdate then
        if tuner = .both then (context.scheduleUpdate .a).scheduleUpdate .b
        else context.scheduleUpdate (slotOf tuner)
      else context).updateState slot = context.updateState slot := by
    split_ifs
    · rw [scheduleUpdate_updateState, scheduleUpdate_updateState]
    · rw [scheduleUpdate_updateState]
    · rfl
  unfold prepareUpdate
  dsimp only
  generalize (if names reason updateDevSyncUpdate then _ else _) = begun
    at scheduled ⊢
  have reset :
      (if names reason updateDevResetFlags then begun.resetSchedules tuner
      else begun).updateState slot = context.updateState slot := by
    split_ifs
    · rw [resetSchedules_updateState, scheduled]
    · exact scheduled
  generalize (if names reason updateDevResetFlags then _ else _) = cleared
    at reset ⊢
  split_ifs
  · exact reset
  · exact reset

theorem acknowledgeOverload_updateState (tuner : TunerSelect) :
    (context.acknowledgeOverload tuner).updateState slot =
      context.updateState slot := by
  have emitted (context : ApiContext) (overloaded : Bool) :
      (context.emitOverloadEvent tuner overloaded).updateState slot =
        context.updateState slot := by
    unfold emitOverloadEvent
    exact modifyStream_updateState _ _ _ _ (by intro _ _; rfl)
  have cleared : (context.modifyStream (slotOf tuner) fun stream =>
          { stream with
            overload :=
              { stream.overload with pending := false } }).updateState slot =
        context.updateState slot :=
    modifyStream_updateState _ _ _ _ (by intro _ _; rfl)
  unfold acknowledgeOverload
  dsimp only
  split_ifs
  · rw [emitted, cleared]
  · exact cleared

theorem announce_updateState (tuner : TunerSelect)
    (announcement : Announcement) (acknowledged : Bool) :
    (context.announce tuner announcement acknowledged).updateState slot =
      context.updateState slot := by
  unfold announce
  cases acknowledged with
  | true => rfl
  | false =>
      rw [if_neg (by decide)]
      exact modifyStream_updateState _ _ _ _ (by intro _ _; rfl)

/-- What an update that failed leaves of the state it found. -/
def afterFailure (state : UpdateState) (reason : UInt32) (fsHz : Float) :
    UpdateState :=
  { state with
    agcLastAdjustMs :=
      if names reason updateCtrlAgc then 0 else state.agcLastAdjustMs
    agcDecaySinceMs :=
      if names reason updateCtrlAgc then 0 else state.agcDecaySinceMs
    callbackSamples :=
      if names reason dspReasons then state.callbackSamples
      else if (announcementOf reason).fsChanged then callbackSizeFor fsHz
      else state.callbackSamples }

/-- The AGC of the tuner after an update has installed its state; the rest is
as before unless its reason is named. -/
theorem installUpdate_updateState (tuner : TunerSelect) (reason : UInt32)
    (filters : SampleFilters) (now : UInt64) :
    (context.installUpdate tuner reason filters now).updateState
        (slotOf tuner) =
      (if names reason updateCtrlAgc ∧
          agcValid (context.blocks.channelForTuner tuner) context.blocks.devParams.fsHz then
        { context.streams (slotOf tuner) with
          filters := filters
          agcPeak := 0
          agcMode := (context.blocks.channelForTuner tuner).ctrlParams.agc.enable
          agcSetpoint := (context.blocks.channelForTuner tuner).ctrlParams.agc.setPointDbfs
          agcLastAdjustMs := now
          agcDecaySinceMs := 0 }
      else
        { context.streams (slotOf tuner) with
          filters := filters }).updateState
        (if (announcementOf reason).fsChanged then
          callbackSizeFor context.blocks.devParams.fsHz
        else context.callbackSamples) := by
  have acknowledged (installed : ApiContext) : (if names reason updateCtrlOverloadMsgAck then
        installed.acknowledgeOverload tuner
      else installed).updateState (slotOf tuner) = installed.updateState (slotOf tuner) := by
    split_ifs
    · exact acknowledgeOverload_updateState installed (slotOf tuner) tuner
    · rfl
  unfold installUpdate
  dsimp only
  rw [acknowledged]
  simp only [updateState, modifyStream, Function.update_self]

/-- Taking an update back. -/
theorem rollBackUpdate_updateState (before : ApiContext) (tuner : TunerSelect) (reason : UInt32) :
    (context.rollBackUpdate before tuner reason).updateState (slotOf tuner) =
      { context.updateState (slotOf tuner) with
        filters := (before.updateState (slotOf tuner)).filters
        agcMode :=
          if names reason updateCtrlAgc then
            (before.updateState (slotOf tuner)).agcMode
          else (context.updateState (slotOf tuner)).agcMode
        agcSetpoint :=
          if names reason updateCtrlAgc then
            (before.updateState (slotOf tuner)).agcSetpoint
          else (context.updateState (slotOf tuner)).agcSetpoint
        agcLastAdjustMs :=
          if names reason updateCtrlAgc then 0
          else (context.updateState (slotOf tuner)).agcLastAdjustMs
        agcDecaySinceMs :=
          if names reason updateCtrlAgc then 0
          else (context.updateState (slotOf tuner)).agcDecaySinceMs
        callbackSamples :=
          if names reason dspReasons then before.callbackSamples
          else context.callbackSamples } := by
  unfold rollBackUpdate
  dsimp only
  split_ifs <;>
    simp only [updateState, TunerStream.updateState, modifyStream, Function.update_self]

theorem applyUpdate_eq (libm : Libm) (tuner : TunerSelect) (reason : UInt32)
    (backend : Int) (now : UInt64) :
    context.applyUpdate libm tuner reason backend now =
      if reason = updateNone then (.success, context)
      else if (context.configuredFilters libm tuner reason).isSome ∧
          0 ≤ backend then
        match
          (context.installUpdate tuner reason
            ((context.configuredFilters libm tuner reason).getD
              (context.streams (slotOf tuner)).filters)
            now).refreshGainVals tuner reason with
        | some refreshed =>
            (.success, refreshed.announce tuner (announcementOf reason) (decide (0 < backend)))
        | none =>
            (updateFailureCode reason, ((context.installUpdate tuner reason
                ((context.configuredFilters libm tuner reason).getD
                  (context.streams (slotOf tuner)).filters) now).announce
                tuner (announcementOf reason) false).rollBackUpdate context tuner reason)
      else
        (updateFailureCode reason, (context.installUpdate tuner reason
            ((context.configuredFilters libm tuner reason).getD
              (context.streams (slotOf tuner)).filters)
            now).rollBackUpdate context tuner reason) :=
  rfl

/-- An update that fails after its checks. -/
theorem applyUpdate_failed (libm : Libm) (tuner : TunerSelect)
    (reason : UInt32) (backend : Int) (now : UInt64)
    (failed : (context.applyUpdate libm tuner reason backend now).1 ≠ .success) :
    (context.applyUpdate libm tuner reason backend now).2.updateState
        (slotOf tuner) =
      afterFailure (context.updateState (slotOf tuner)) reason
        context.blocks.devParams.fsHz := by
  have rolledBack (installed : ApiContext) (filters : SampleFilters)
      (same : installed.updateState (slotOf tuner) =
          (context.installUpdate tuner reason filters now).updateState (slotOf tuner)) :
      (installed.rollBackUpdate context tuner reason).updateState
          (slotOf tuner) =
        afterFailure (context.updateState (slotOf tuner)) reason
          context.blocks.devParams.fsHz := by
    have size :
        installed.callbackSamples = (installed.updateState (slotOf tuner)).callbackSamples :=
      rfl
    rw [rollBackUpdate_updateState, size, same, installUpdate_updateState]
    by_cases agc : names reason updateCtrlAgc
    · simp only [agc, if_true, afterFailure, updateState, TunerStream.updateState]
    · simp only [agc, Bool.false_eq_true, false_and, if_false, afterFailure,
        updateState, TunerStream.updateState]
  revert failed
  rw [applyUpdate_eq]
  by_cases nothing : reason = updateNone
  · rw [if_pos nothing]
    exact fun failed => absurd rfl failed
  · rw [if_neg nothing]
    split_ifs
    · split
      · exact fun failed => absurd rfl failed
      · intro _
        exact rolledBack _ _ (announce_updateState _ _ _ _ _)
    · intro _
      exact rolledBack _ _ rfl

/-! ## The steps of a call -/

theorem performUpdate_single (libm : Libm) {tuner : TunerSelect}
    (single : tuner ≠ .both) (reason extension : UInt32)
    (answers : UpdateAnswers) :
    context.performUpdate libm tuner reason extension answers =
      context.applyUpdate libm tuner reason (answers.backend tuner)
        answers.now :=
  if_neg single

/-- How a call starts: a check refuses it, it waits for a boundary, or it
makes its update at once. -/
theorem beginUpdate_cases (libm : Libm) (tuner : TunerSelect)
    (reason extension : UInt32) (answers : UpdateAnswers) :
    (context.readyAtOnce libm tuner reason extension = none ∧
      ∃ error, context.beginUpdate libm tuner reason extension answers = (some error, context)) ∨
    (context.readyAtOnce libm tuner reason extension = none ∧
      validateTuners libm context.blocks tuner reason extension = .success ∧
      ∃ slot categories, context.beginUpdate libm tuner reason extension answers =
          ((context.prepareUpdate tuner reason extension).setSyncWaiting
            tuner true).waitFor
            (updateWait
              (context.prepareUpdate tuner reason extension).blocks tuner
              (remainingReasons reason) extension) slot categories) ∨
    ∃ ready, context.readyAtOnce libm tuner reason extension = some ready ∧
      context.beginUpdate libm tuner reason extension answers =
        (some (ready.performUpdate libm tuner (remainingReasons reason)
            extension answers).1,
          (ready.performUpdate libm tuner (remainingReasons reason) extension answers).2) := by
  set wait := updateWait (context.prepareUpdate tuner reason extension).blocks tuner
      (remainingReasons reason) extension with isWait
  have notReady
      (missing : ¬(acceptsTuner context.blocks tuner = true ∧
          context.initialized = true ∧ context.backend = true ∧
          validateTuners libm context.blocks tuner reason extension = .success ∧
          wait.categoriesA = .none ∧ wait.categoriesB = .none)) :
      context.readyAtOnce libm tuner reason extension = none :=
    if_neg missing
  unfold beginUpdate
  dsimp only
  rw [← isWait]
  by_cases accepts : acceptsTuner context.blocks tuner = true
  · by_cases active : context.initialized = true ∧ context.backend = true
    · rw [if_neg (by simp [accepts]), if_neg (by simp [active])]
      split
      case h_1 valid =>
        by_cases waitsA : wait.categoriesA = .none
        · rw [if_neg (not_not.mpr waitsA)]
          by_cases waitsB : wait.categoriesB = .none
          · rw [if_neg (not_not.mpr waitsB)]
            refine .inr (.inr ⟨_, if_pos ?_, rfl⟩)
            exact ⟨accepts, active.1, active.2, valid, waitsA, waitsB⟩
          · rw [if_pos waitsB]
            exact .inr (.inl ⟨notReady (by tauto), valid, _, _, rfl⟩)
        · rw [if_pos waitsA]
          exact .inr (.inl ⟨notReady (by tauto), valid, _, _, rfl⟩)
      case h_2 error invalid =>
        exact .inl ⟨notReady (by tauto), _, rfl⟩
    · rw [if_neg (by simp [accepts]),
        if_pos (by simpa [Classical.or_iff_not_imp_left] using active)]
      exact .inl ⟨notReady (by tauto), _, rfl⟩
  · rw [if_pos (by simpa using accepts)]
    exact .inl ⟨notReady (by tauto), _, rfl⟩

/-- A call that makes its update at once. -/
theorem beginUpdate_ready {libm : Libm} {tuner : TunerSelect}
    {reason extension : UInt32} {ready : ApiContext}
    (isReady : context.readyAtOnce libm tuner reason extension = some ready)
    (answers : UpdateAnswers) :
    context.beginUpdate libm tuner reason extension answers =
      (some (ready.performUpdate libm tuner (remainingReasons reason)
          extension answers).1,
        (ready.performUpdate libm tuner (remainingReasons reason) extension answers).2) := by
  rcases beginUpdate_cases context libm tuner reason extension answers with
    ⟨notReady, _⟩ | ⟨notReady, _⟩ | ⟨found, isFound, begun⟩
  · rw [notReady] at isReady
    cases isReady
  · rw [notReady] at isReady
    cases isReady
  · rw [isReady] at isFound
    cases isFound
    exact begun

/-- A call that is refused or waits. -/
theorem beginUpdate_notReady {libm : Libm} {tuner : TunerSelect}
    {reason extension : UInt32}
    (notReady : context.readyAtOnce libm tuner reason extension = none)
    (answers : UpdateAnswers) :
    (context.beginUpdate libm tuner reason extension answers).2.updateState
        slot =
      context.updateState slot := by
  rcases beginUpdate_cases context libm tuner reason extension answers with
    ⟨_, error, begun⟩ | ⟨_, _, waited, categories, begun⟩ | ⟨found, isFound, _⟩
  · rw [begun]
  · rw [begun, waitFor_updateState, setSyncWaiting_updateState, prepareUpdate_updateState]
  · rw [notReady] at isFound
    cases isFound

/-- A wait that is over. -/
theorem awaitUpdate_ready (libm : Libm) {wait : UpdateWait}
    {ready : ApiContext} (single : wait.tuner ≠ .both)
    (updating : context.updating = some wait)
    (isReady : context.readyAfterWait wait = some ready) (timedOut : Bool)
    (answers : UpdateAnswers) :
    (context.awaitUpdate libm timedOut answers).1 =
        some (ready.applyUpdate libm wait.tuner wait.reason
          (answers.backend wait.tuner) answers.now).1 ∧
      ((context.awaitUpdate libm timedOut answers).1 ≠ some .success →
        (context.awaitUpdate libm timedOut answers).2.updateState slot =
          (ready.applyUpdate libm wait.tuner wait.reason
            (answers.backend wait.tuner) answers.now).2.updateState slot) := by
  unfold readyAfterWait boundaryReached at isReady
  split_ifs at isReady with reached
  cases isReady
  simp only [Bool.and_eq_true, decide_eq_true_eq, Bool.not_eq_true',
    Bool.and_eq_false_iff, decide_eq_false_iff_not] at reached
  obtain ⟨⟨alive, boundary⟩, last⟩ := reached
  have finished : context.awaitUpdate libm timedOut answers =
        context.finishWait libm wait answers := by
    unfold awaitUpdate
    rw [updating]
    dsimp only
    rw [if_neg (not_lt.mpr alive), if_pos boundary, if_neg (by tauto)]
  rw [finished]
  unfold finishWait
  dsimp only
  rw [if_neg single, performUpdate_single _ _ single]
  refine ⟨rfl, fun failed => ?_⟩
  have notSuccess : ¬((context.setSyncWaiting wait.tuner false).applyUpdate
      libm wait.tuner wait.reason (answers.backend wait.tuner)
      answers.now).1 = .success :=
    fun success => failed (congrArg some success)
  rw [if_neg (fun both => notSuccess both.1)]
  exact setSyncWaiting_updateState _ slot _ _

/-- A wait that goes on or is given up. -/
theorem awaitUpdate_notReady {libm : Libm} (notReady : ∀ wait, context.updating = some wait →
      context.readyAfterWait wait = none) (timedOut : Bool)
    (answers : UpdateAnswers) :
    (context.awaitUpdate libm timedOut answers).2.updateState slot =
      context.updateState slot := by
  unfold awaitUpdate
  split
  case h_1 => rfl
  case h_2 wait updating =>
    have waiting := notReady wait updating
    unfold readyAfterWait boundaryReached at waiting
    split_ifs at waiting with reached
    dsimp only
    split_ifs with failed boundary second timeout
    · exact setSyncWaiting_updateState context slot wait.tuner false
    · simp
    · refine absurd ?_ reached
      simp only [Bool.and_eq_true, decide_eq_true_eq, Bool.not_eq_true',
        Bool.and_eq_false_iff, decide_eq_false_iff_not]
      exact ⟨⟨not_lt.mp failed, boundary⟩, by tauto⟩
    · exact setSyncWaiting_updateState context slot wait.tuner false
    · rfl

end ApiContext

/-! ## The daemon -/

/-- The configuration the daemon has stored for a tuner. -/
def DaemonState.storedFor (daemon : DaemonState) (tuner : UInt32) :
    RadioConfig :=
  if daemon.dualMode then daemon.dualConfig.channel tuner else daemon.config

/-- Whether an update has been stored for its tuner.  An update that is queued
for a recovery goes to the configuration of a single tuner, also in dual
mode. -/
def Handled.stores (handled : Handled) (dualMode : Bool) : Bool :=
  decide (handled.status = .ok) &&
    !(dualMode && hasFlag handled.changedFlags responseRecoveryQueued)

section Daemon

variable (environment : Environment) (world : World) (request : UpdateRequest)

/-- The mode and the configurations of a daemon. -/
def DaemonState.configurations (daemon : DaemonState) :
    Bool × DualConfig × RadioConfig :=
  (daemon.dualMode, daemon.dualConfig, daemon.config)

theorem DaemonState.storedFor_eq {before after : DaemonState}
    (same : after.configurations = before.configurations) (tuner : UInt32) :
    after.storedFor tuner = before.storedFor tuner := by
  simp only [DaemonState.configurations, Prod.mk.injEq] at same
  obtain ⟨dualMode, dualConfig, config⟩ := same
  rw [DaemonState.storedFor, DaemonState.storedFor, dualMode, dualConfig, config]

theorem RegistersOnly.configurations {before after : World} (only : RegistersOnly before after) :
    after.daemon.configurations = before.daemon.configurations := by
  have config := congrArg Ledger.config only.ledger
  simp only [DaemonState.configurations, only.dualMode, only.dualConfig, Prod.mk.injEq, true_and]
  exact config

theorem StreamOnly.configurations {before after : World} (only : StreamOnly before after) :
    after.daemon.configurations = before.daemon.configurations := by
  have config := congrArg Ledger.config only.ledger
  have dualMode := congrArg Receiver.dualMode only.receiver
  have dualConfig := congrArg Receiver.dualConfig only.receiver
  simp only [DaemonState.configurations, Prod.mk.injEq]
  exact ⟨dualMode, dualConfig, config⟩

theorem DualConfig.withChannel_channel (config : DualConfig) (tuner : UInt32)
    (channel : RadioConfig) :
    (config.withChannel tuner channel).channel tuner = channel := by
  unfold DualConfig.withChannel DualConfig.channel
  by_cases second : tuner = tunerB
  · simp [second]
  · simp [second]

/-- An update that is not accepted changes no configuration; one that is
accepted becomes the configuration of its tuner. -/
def StoredIfOk (result : Status × World) : Prop :=
  if result.1 = .ok then
    result.2.daemon.storedFor request.config.tuner = request.config
  else result.2.daemon.configurations = world.daemon.configurations

theorem applyUpdate_storedIfOk :
    StoredIfOk world request (applyUpdate environment world request) := by
  have dual := (writeDualUpdate_registersOnly environment world request.config
      request.changedFlags).configurations
  have single := (writeUpdate_registersOnly environment world world.daemon.config
      request.config request.changedFlags).configurations
  have refused : StoredIfOk world request (.badRequest, world) := rfl
  unfold applyUpdate
  split_ifs with control isDual
  · exact refused
  · unfold applyDualUpdate
    dsimp only
    split_ifs
    · exact refused
    · exact refused
    · exact refused
    · exact dual
    · have mode : (writeDualUpdate environment world request.config
            request.changedFlags).2.daemon.dualMode = true :=
        (congrArg Prod.fst dual).trans isDual
      simp only [StoredIfOk, if_true, DaemonState.storedFor, World.modify,
        mode, DualConfig.withChannel_channel]
  · unfold applySingleUpdate
    dsimp only
    split_ifs
    · exact refused
    · exact refused
    · exact single
    · have mode : ¬(writeUpdate environment world world.daemon.config request.config
            request.changedFlags).2.daemon.dualMode = true :=
        fun other => isDual ((congrArg Prod.fst single).symm.trans other)
      simp only [StoredIfOk, if_true, DaemonState.storedFor, World.modify,
        mode, if_false, Bool.false_eq_true]

theorem stopAndApplyUpdate_storedIfOk :
    StoredIfOk world request (stopAndApplyUpdate environment world request) := by
  have stopped := (stopStream_streamOnly environment world).configurations
  have applied := applyUpdate_storedIfOk environment (stopStream environment world).2 request
  unfold stopAndApplyUpdate
  dsimp only
  split_ifs
  · exact stopped
  · unfold StoredIfOk at applied ⊢
    rwa [stopped] at applied
  · exact applyUpdate_storedIfOk environment world request

/-- The configuration of the tuner after an update. -/
def Handled.StoresWhatItSays (handled : Handled) : Prop :=
  handled.world.daemon.storedFor request.config.tuner =
    if handled.stores world.daemon.dualMode then request.config
    else world.daemon.storedFor request.config.tuner

/-- An update that is queued for a recovery. -/
theorem queued_storedFor {after : World} (same : after.daemon.configurations =
        (world.daemon.dualMode, world.daemon.dualConfig, request.config)) :
    (Handled.queued after).StoresWhatItSays world request := by
  simp only [DaemonState.configurations, Prod.mk.injEq] at same
  obtain ⟨dualMode, dualConfig, config⟩ := same
  have queued : hasFlag responseRecoveryQueued responseRecoveryQueued = true := by
    decide
  unfold Handled.StoresWhatItSays DaemonState.storedFor Handled.stores Handled.queued Handled.reply
  dsimp only
  rw [dualMode, dualConfig, config, queued]
  cases world.daemon.dualMode with
  | true => simp
  | false => simp

/-- An update that is answered at once. -/
theorem reply_storedFor {result : Status × World} (start : Bool)
    (stored : StoredIfOk world request result) :
    ((Handled.reply result.2 result.1).restartStream start
      false).StoresWhatItSays world request := by
  have notQueued : hasFlag 0 responseRecoveryQueued = false := by decide
  unfold StoredIfOk at stored
  unfold Handled.StoresWhatItSays Handled.stores Handled.restartStream Handled.reply
  dsimp only
  rw [notQueued]
  by_cases ok : result.1 = .ok
  · rw [if_pos ok] at stored
    simpa [ok] using stored
  · rw [if_neg ok] at stored
    simpa [ok] using DaemonState.storedFor_eq stored request.config.tuner

theorem serveUpdate_storedFor (descriptor : Int) :
    (serveUpdate environment world descriptor request).StoresWhatItSays world request := by
  have applied := stopAndApplyUpdate_storedIfOk environment world request
  have refused (status : Status) (notOk : status ≠ .ok) :
      StoredIfOk world request (status, world) :=
    (if_neg notOk).mpr rfl
  unfold serveUpdate
  dsimp only
  split_ifs with owner invalid away failed
  · exact reply_storedFor world request false (refused .badRequest (by decide))
  · exact queued_storedFor world request rfl
  · refine queued_storedFor world request ?_
    unfold StoredIfOk at applied
    rw [failed, if_neg (by decide)] at applied
    simp only [DaemonState.configurations, Prod.mk.injEq] at applied ⊢
    exact ⟨applied.1, applied.2.1, rfl⟩
  · exact reply_storedFor world request _ applied
  · have notOk : (if 0 ≤ world.daemon.owner ∧ world.daemon.owner ≠ descriptor then
          Status.busy else .unsupported) ≠ .ok := by
      split_ifs <;> decide
    exact reply_storedFor world request false (refused _ notOk)

theorem serveDuoUpdate_storedFor (descriptor : Int) :
    (serveDuoUpdate environment world descriptor request).StoresWhatItSays world request := by
  have refused (status : Status) (notOk : status ≠ .ok) :
      StoredIfOk world request (status, world) :=
    (if_neg notOk).mpr rfl
  refine withDuoRole_outcome world descriptor _ (Handled.StoresWhatItSays world request) ?_ ?_
  · have notOk : busyOrUnsupported world.daemon ≠ .ok := by
      unfold busyOrUnsupported
      split_ifs <;> decide
    exact reply_storedFor world request false (refused _ notOk)
  · intro role _ _ _
    dsimp only
    split_ifs
    · exact reply_storedFor world request false (refused .startPending (by decide))
    · exact reply_storedFor world request false (refused .badRequest (by decide))
    · exact reply_storedFor world request false (applyUpdate_storedIfOk environment world request)

end Daemon

/-! ## Failed updates -/

namespace ApiContext

theorem afterFailure_eq_iff (state : UpdateState) (reason : UInt32) (fsHz : Float) :
    afterFailure state reason fsHz = state ↔
      (names reason updateCtrlAgc = true → state.agcLastAdjustMs = 0 ∧ state.agcDecaySinceMs = 0) ∧
      ((announcementOf reason).fsChanged = true →
        names reason dspReasons = false →
        callbackSizeFor fsHz = state.callbackSamples) := by
  have last := eq_comm (a := (0 : UInt64)) (b := state.agcLastAdjustMs)
  have decay := eq_comm (a := (0 : UInt64)) (b := state.agcDecaySinceMs)
  unfold afterFailure
  rw [UpdateState.ext_iff]
  dsimp only
  by_cases agc : names reason updateCtrlAgc = true
  · by_cases dsp : names reason dspReasons = true
    · simp [agc, dsp, last, decay]
    · by_cases fs : (announcementOf reason).fsChanged = true
      · simp [agc, dsp, fs, last, decay, and_assoc]
      · simp [agc, dsp, fs, last, decay]
  · by_cases dsp : names reason dspReasons = true
    · simp [agc, dsp]
    · by_cases fs : (announcementOf reason).fsChanged = true
      · simp [agc, dsp, fs]
      · simp [agc, dsp, fs]

theorem readyAtOnce_updateState {context ready : ApiContext} {libm : Libm}
    {tuner : TunerSelect} {reason extension : UInt32}
    (isReady : context.readyAtOnce libm tuner reason extension = some ready)
    (slot : Tuner) :
    ready.updateState slot = context.updateState slot := by
  unfold readyAtOnce at isReady
  dsimp only at isReady
  split_ifs at isReady
  cases isReady
  exact prepareUpdate_updateState context slot tuner reason extension

theorem readyAfterWait_updateState {context ready : ApiContext}
    {wait : UpdateWait}
    (isReady : context.readyAfterWait wait = some ready) (slot : Tuner) :
    ready.updateState slot = context.updateState slot := by
  unfold readyAfterWait at isReady
  split_ifs at isReady
  cases isReady
  exact setSyncWaiting_updateState context slot wait.tuner false

end ApiContext

namespace UpdateSystem

variable (libm : Libm) (environment : Environment) (system : UpdateSystem)

/-- What makes the rollback of a failed update complete: the timers it clears
were clear, the callback size it does not restore is the old one, and what the
daemon has stored was stored before. -/
structure RollsBack (tuner : TunerSelect) (request : UpdateRequest)
    (fate : RequestFate) (ready : ApiContext) (reason : UInt32) : Prop where
  timers : names reason updateCtrlAgc = true →
      (system.context.streams (slotOf tuner)).agcLastAdjustMs = 0 ∧
        (system.context.streams (slotOf tuner)).agcDecaySinceMs = 0
  callbackSize : (ApiContext.announcementOf reason).fsChanged = true →
      names reason ApiContext.dspReasons = false →
      ApiContext.callbackSizeFor ready.blocks.devParams.fsHz = system.context.callbackSamples
  stored : ready.sendsUpdate libm tuner reason = true → fate ≠ .lost →
      (system.handled environment request).stores system.world.daemon.dualMode = true →
      request.config = system.world.daemon.storedFor (tunerNumber tuner)

/-- The context a step makes its update in, and what becomes of a failure. -/
theorem step_context {call : UpdateCall} {tuner : TunerSelect}
    (isTuner : system.callTuner call = some tuner) (single : tuner ≠ .both)
    (request : UpdateRequest) (fate : RequestFate) (now : UInt64)
    (failed : (system.step libm environment call request fate now).1 ≠ some .success) :
    match system.applies libm call with
    | some (ready, reason) =>
        (system.step libm environment call request fate
          now).2.context.updateState (slotOf tuner) =
          ApiContext.afterFailure (system.context.updateState (slotOf tuner))
            reason ready.blocks.devParams.fsHz
    | none =>
        (system.step libm environment call request fate
          now).2.context.updateState (slotOf tuner) =
          system.context.updateState (slotOf tuner) := by
  cases call with
  | start asked reason extension =>
      cases isTuner
      simp only [applies]
      cases isReady : system.context.readyAtOnce libm tuner reason extension with
      | none => exact ApiContext.beginUpdate_notReady _ _ isReady _
      | some ready =>
          have begun := ApiContext.beginUpdate_ready system.context isReady
              ⟨(system.deliver environment request fate).1,
                (system.deliver environment request fate).1, now⟩
          rw [ApiContext.performUpdate_single _ _ single] at begun
          have notSuccess : (ready.applyUpdate libm tuner (ApiContext.remainingReasons reason)
                _ _).1 ≠ .success :=
            fun success => failed ((congrArg Prod.fst begun).trans (congrArg some success))
          dsimp only [Option.map_some]
          rw [← ApiContext.readyAtOnce_updateState isReady,
            ← ApiContext.applyUpdate_failed ready libm tuner _ _ _ notSuccess]
          exact congrArg (fun result => ApiContext.updateState result.2 _) begun
  | look timedOut =>
      obtain ⟨wait, updating, rfl⟩ := Option.map_eq_some_iff.mp isTuner
      simp only [applies, updating, Option.bind_some]
      cases isReady : system.context.readyAfterWait wait with
      | none =>
          refine ApiContext.awaitUpdate_notReady _ _ ?_ _ _
          intro other otherUpdating
          rw [updating] at otherUpdating
          cases otherUpdating
          exact isReady
      | some ready =>
          have awaited := ApiContext.awaitUpdate_ready system.context (slotOf wait.tuner)
              libm single updating isReady timedOut
              ⟨(system.deliver environment request fate).1,
                (system.deliver environment request fate).1, now⟩
          have notSuccess :
              (ready.applyUpdate libm wait.tuner wait.reason _ _).1 ≠ .success :=
            fun success => failed (awaited.1.trans (congrArg some success))
          dsimp only [Option.map_some]
          rw [← ApiContext.readyAfterWait_updateState isReady,
            ← ApiContext.applyUpdate_failed ready libm wait.tuner _ _ _ notSuccess]
          exact awaited.2 failed

/-- The configuration of the tuner after a step. -/
theorem step_stored {call : UpdateCall} {tuner : TunerSelect}
    (isTuner : system.callTuner call = some tuner)
    {request : UpdateRequest} (fate : RequestFate) (now : UInt64)
    {ready : ApiContext} {reason : UInt32}
    (isReady : system.applies libm call = some (ready, reason))
    (number : request.config.tuner = tunerNumber tuner) :
    (system.step libm environment call request fate
        now).2.world.daemon.storedFor (tunerNumber tuner) =
      if ready.sendsUpdate libm tuner reason = true ∧ fate ≠ .lost ∧
          (system.handled environment request).stores system.world.daemon.dualMode = true then
        request.config
      else system.world.daemon.storedFor (tunerNumber tuner) := by
  have handled : (system.handled environment request).StoresWhatItSays system.world
        request := by
    unfold UpdateSystem.handled
    split_ifs
    · exact serveDuoUpdate_storedFor environment system.world request system.descriptor
    · exact serveUpdate_storedFor environment system.world request system.descriptor
  unfold Handled.StoresWhatItSays at handled
  rw [number] at handled
  simp only [step, isReady, isTuner]
  by_cases sends : ready.sendsUpdate libm tuner reason = true
  · rw [if_pos sends]
    cases fate with
    | lost => simp [deliver]
    | unanswered => simpa [deliver, sends] using handled
    | answered => simpa [deliver, sends] using handled
  · rw [if_neg sends]
    simp [sends]

/-- A single-tuner update that does not succeed leaves the filters, the
callback size and the AGC of its tuner and the daemon's configuration as they
were exactly if its rollback is complete. -/
theorem failed_update_unchanged_iff {call : UpdateCall}
    {tuner : TunerSelect} (isTuner : system.callTuner call = some tuner)
    (single : tuner ≠ .both) (request : UpdateRequest) (fate : RequestFate)
    (now : UInt64)
    (built : ∀ ready reason, system.applies libm call = some (ready, reason) →
      IsUpdateRequest ready.blocks tuner reason request)
    (failed : (system.step libm environment call request fate now).1 ≠ some .success) :
    ((system.step libm environment call request fate
          now).2.context.updateState (slotOf tuner) =
        system.context.updateState (slotOf tuner) ∧
      (system.step libm environment call request fate
          now).2.world.daemon.storedFor (tunerNumber tuner) =
        system.world.daemon.storedFor (tunerNumber tuner)) ↔
      ∀ ready reason, system.applies libm call = some (ready, reason) →
        system.RollsBack libm environment tuner request fate ready
          reason := by
  have context := system.step_context libm environment isTuner single request fate now failed
  cases applied : system.applies libm call with
  | none =>
      rw [applied] at context
      have world : (system.step libm environment call request fate now).2.world =
            system.world := by
        simp [step, applied]
      rw [world]
      simp [context]
  | some found =>
      obtain ⟨ready, reason⟩ := found
      rw [applied] at context
      dsimp only at context
      have stored := system.step_stored libm environment isTuner fate now applied
          (built ready reason applied).number
      rw [context, stored, ApiContext.afterFailure_eq_iff]
      constructor
      · rintro ⟨⟨timers, size⟩, same⟩ _ _ equal
        cases equal
        refine ⟨timers, size, fun sends arrives stores => ?_⟩
        rwa [if_pos ⟨sends, arrives, stores⟩] at same
      · intro complete
        obtain ⟨timers, size, kept⟩ := complete ready reason rfl
        refine ⟨⟨timers, size⟩, ?_⟩
        split_ifs with stores
        · exact kept stores.1 stores.2.1 stores.2.2
        · rfl

/-- A running session on the high impedance input at 60 MHz, about to take LNA
state 5 and the AGC setpoint -30. -/
def highImpedanceContext : ApiContext :=
  let opened := resetParameters floatLibm
  { opened with
    selected := true
    initialized := true
    backend := true
    blocks := opened.blocks.modifyChannel .a fun channel =>
        { channel with
          tunerParams :=
            { channel.tunerParams with
              gain := { channel.tunerParams.gain with lnaState := 5 }
              rfFreq := ⟨60000000.0, 0⟩ }
          ctrlParams :=
            { channel.ctrlParams with
              agc := { channel.ctrlParams.agc with setPointDbfs := -30 } }
          rspDuoTunerParams :=
            { channel.rspDuoTunerParams with tuner1AmPortSel := amPort1 } } }

/-- The session with the daemon that runs its receiver. -/
def highImpedanceSystem : UpdateSystem where
  context := highImpedanceContext
  world := (Runs.runSteps (Server.step oneReceiver) Server.initial acquireAndConfigure).world
  descriptor := 5

/-- The request of a gain update. -/
def gainRequest : UpdateRequest where
  changedFlags := changeGain
  config :=
    { sampleConfig with
      centerFrequencyHz := 60000000
      bandwidthHz := 200000
      gainReductionDb := 50
      lnaState := 5
      agcMode := 2
      agcSetpointDbfs := -30
      amPortSelect := 1 }

/-- The request of an AGC update. -/
def agcRequest : UpdateRequest := { gainRequest with changedFlags := changeAgc }

/-- An AGC update that does not reach the daemon is taken back. -/
theorem lost_update_unchanged :
    let result :=
      highImpedanceSystem.step floatLibm oneReceiver (.start .a updateCtrlAgc 0) agcRequest .lost 0
    result.1 = some .hwError ∧
      (highImpedanceSystem.context.updateState .a).agcSetpoint ≠ agcRequest.config.agcSetpointDbfs ∧
      result.2.context.updateState .a = highImpedanceSystem.context.updateState .a ∧
      result.2.world.daemon.storedFor tunerA =
        highImpedanceSystem.world.daemon.storedFor tunerA := by
  have returned : (highImpedanceSystem.step floatLibm oneReceiver
        (.start .a updateCtrlAgc 0) agcRequest .lost 0).1 =
        some .hwError := by
    decide +kernel
  have failed : (highImpedanceSystem.step floatLibm oneReceiver
        (.start .a updateCtrlAgc 0) agcRequest .lost 0).1 ≠
        some .success := by
    rw [returned]
    decide
  have prepared : highImpedanceContext.prepareUpdate .a updateCtrlAgc 0 =
        highImpedanceContext := by
    unfold ApiContext.prepareUpdate
    rw [if_neg (by decide), if_neg (by decide), if_neg (by decide)]
  have ready : ∀ ready reason,
      highImpedanceSystem.applies floatLibm (.start .a updateCtrlAgc 0) = some (ready, reason) →
      ready = highImpedanceContext ∧ reason = updateCtrlAgc := by
    intro ready reason applied
    unfold applies at applied
    obtain ⟨found, isReady, equal⟩ := Option.map_eq_some_iff.mp applied
    cases equal
    unfold ApiContext.readyAtOnce at isReady
    dsimp only at isReady
    split_ifs at isReady
    cases isReady
    exact ⟨prepared, by decide⟩
  have built : ∀ ready reason,
      highImpedanceSystem.applies floatLibm (.start .a updateCtrlAgc 0) = some (ready, reason) →
      IsUpdateRequest ready.blocks .a reason agcRequest := by
    intro found reason applied
    obtain ⟨rfl, rfl⟩ := ready found reason applied
    have filled :
        fillRadioConfigTuner highImpedanceContext.blocks .a = some agcRequest.config := by
      decide +kernel
    refine ⟨by decide, by decide, fun config other => ?_⟩
    rw [filled] at other
    exact Option.some.inj other
  refine ⟨returned, by decide, (failed_update_unchanged_iff floatLibm oneReceiver
    highImpedanceSystem rfl (by decide) agcRequest .lost 0 built failed).mpr ?_⟩
  intro found reason applied
  obtain ⟨rfl, rfl⟩ := ready found reason applied
  exact ⟨fun _ => by decide, fun fs => absurd fs (by decide), fun _ lost => absurd rfl lost⟩

/-- The daemon accepts the gain, the interface has no gain values for it: the
call fails and the daemon keeps what it was sent. -/
theorem refused_gain_stays_stored :
    let result :=
      highImpedanceSystem.step floatLibm oneReceiver
        (.start .a updateTunerGr 0) gainRequest .answered 0
    fillRadioConfigTuner highImpedanceContext.blocks .a =
        some gainRequest.config ∧
      protocolChangeFlags updateTunerGr = gainRequest.changedFlags ∧
      result.1 = some .gainUpdateError ∧
      result.2.world.daemon.storedFor tunerA = gainRequest.config ∧
      highImpedanceSystem.world.daemon.storedFor tunerA = sampleConfig := by
  decide +kernel

end UpdateSystem

end OpenRsp
