import OpenRsp.Compat.CallbackContiguity
import OpenRsp.Compat.SwapRequests
import OpenRsp.Compat.UpdateAtomicity
import OpenRsp.Daemon.SwapOutcomes

/-!
# Agreement after a swap

`sdrplay_api_SwapRspDuoActiveTuner` and `sdrplay_api_SwapRspDuoMode` with the
daemon that answers them, to the end of the call.  The client asks for the
swap, moves to the new tuner or mode when it is granted, and asks the daemon
to resume.  It waits five seconds for each answer.  A swap whose answer is
late is taken back by the client and kept by the daemon.

The connection lasts through the call; between and after the requests the
daemon's main loop and stream thread take any steps.
-/

namespace OpenRsp

/-! ## The client -/

/-- The two swaps of a client that owns the receiver. -/
inductive SwapCall where
  | tuner (call : TunerSwapCall)
  | mode (call : ModeSwapCall)
deriving DecidableEq, Repr

namespace ApiContext

variable (libm : Libm) (context : ApiContext)

def pauseCallbacks : ApiContext :=
  { context with callback := context.callback.pauseStreamCallbacks }

def resumeCallbacks : ApiContext :=
  { context with callback := context.callback.resumeStreamCallbacks }

/-- The checks of a swap and the parameters it asks for. -/
def prepareSwap : SwapCall → Except ApiError DeviceBlocks
  | .tuner call => context.prepareTunerSwap libm call
  | .mode call => context.prepareModeSwap libm call

/-- The context while the daemon is asked. -/
def requesting (blocks : DeviceBlocks) : ApiContext :=
  { context with blocks := blocks }.pauseCallbacks

/-- The swap was not granted. -/
def abandonSwap (saved : DeviceBlocks) : ApiContext :=
  { context with blocks := saved }.resumeCallbacks

/-- Move to a tuner whose filters have been configured. -/
def activateTuner (next : TunerSelect) (filters : SampleFilters) :
    ApiContext :=
  { context.modifyStream (slotOf next) fun stream =>
      { stream with
        filters := filters
        firstCallback := true
        iqSequenceSeen := false
        sampleNumber := 0 } with
    blocks := { context.blocks with tuner := next }
    callback :=
      { context.callback with
        streamQueue := context.callback.streamQueue.clear
        streamCallbackSeen := decide (next = .b) && context.callback.streamCallbackSeen
        streamCallbackSeenB := decide (next ≠ .b) && context.callback.streamCallbackSeenB } }

/-- A granted tuner swap up to the request to resume; an error ends the
call. -/
def grantTuner (next : TunerSelect) : Option ApiError × ApiContext :=
  let paused := context.pauseCallbacks
  match initFilters libm (paused.blocks.channelForTuner next)
      paused.blocks.devParams.fsHz with
  | none => (some .hwError, { paused with streamState := -1 }.resumeCallbacks)
  | some filters => (none, (paused.activateTuner next filters).resumeCallbacks)

/-- The filters of a mode, tuner by tuner. -/
def modeFilters (blocks : DeviceBlocks) (mode : RspDuoMode)
    (tuner : TunerSelect) : Option (Tuner → Option SampleFilters) :=
  let fsHz := blocks.devParams.fsHz
  if mode = .dualTuner then do
    let first ← initFilters libm blocks.channelA fsHz
    let second ← initFilters libm blocks.channelB fsHz
    return fun
      | .a => some first
      | .b => some second
  else do
    let only ← initFilters libm (blocks.channelForTuner tuner) fsHz
    return Function.update (fun _ => none) (slotOf tuner) (some only)

/-- Both streams as a mode swap leaves them.  The AGC of tuner A is not
touched on the way to tuner B. -/
def activateMode (call : ModeSwapCall) (filters : Tuner → Option SampleFilters) : ApiContext :=
  let agcOf (slot : Tuner) (stream : TunerStream) : UInt32 × Int32 :=
    match slot with
    | .a =>
        if call.tuner = .b ∧ call.mode = .singleTuner then
          (stream.agcMode, stream.agcSetpoint)
        else
          (context.blocks.channelA.ctrlParams.agc.enable,
            context.blocks.channelA.ctrlParams.agc.setPointDbfs)
    | .b =>
        (context.blocks.channelB.ctrlParams.agc.enable,
          context.blocks.channelB.ctrlParams.agc.setPointDbfs)
  { context with
    streams := fun slot =>
      let stream := context.streams slot
      { stream with
        filters := (filters slot).getD stream.filters
        lastIqSequence := 0
        iqSequenceSeen := false
        sampleNumber := 0
        firstCallback := true
        agcMode := (agcOf slot stream).1
        agcSetpoint := (agcOf slot stream).2 }
    callback :=
      { context.callback with
        streamQueue := context.callback.streamQueue.clear
        streamCallbackSeen := false
        streamCallbackSeenB := false }
    callbackSamples := callbackSizeFor call.sampleRate }

/-- A granted mode swap up to the request to resume. -/
def grantMode (call : ModeSwapCall) : Option ApiError × ApiContext :=
  let paused := context.pauseCallbacks
  let moved :=
    { paused with
      blocks := { paused.blocks with mode := call.mode, tuner := call.tuner }
      callback := { paused.callback with mode := call.mode } }
  match modeFilters libm moved.blocks call.mode call.tuner with
  | none => (some .hwError, { moved with streamState := -1 }.resumeCallbacks)
  | some filters => (none, (moved.activateMode call filters).resumeCallbacks)

/-- A granted swap up to the request to resume. -/
def grantSwap : SwapCall → Option ApiError × ApiContext
  | .tuner _ => context.grantTuner libm (nextTuner context.blocks.tuner)
  | .mode call => context.grantMode libm call

/-- The end of a swap whose request to resume had a result. -/
def finishSwap (resumed : Int) : ApiError × ApiContext :=
  if resumed < 0 then (.hwError, { context with streamState := -1 })
  else (.success, context)

end ApiContext

/-! ## The exchange -/

/-- What a swap sends.  A frequency that no conversion is defined for may
become anything. -/
def IsSwapRequest (blocks : DeviceBlocks) : SwapCall → SwapTarget → Prop
  | .tuner _, .tuner swap =>
      swap.config.tuner = tunerNumber (nextTuner blocks.tuner) ∧
        ∀ built, tunerSwapRequest blocks = some built → swap = built
  | .mode call, .mode swap =>
      swap.mode = (if call.mode = .dualTuner then modeDual else modeSingle) ∧
        (call.mode ≠ .dualTuner → swap.single.tuner = tunerNumber call.tuner) ∧
        ∀ built, modeSwapRequest blocks call = some built → swap = built
  | _, _ => False

/-- A client and the daemon it is connected to. -/
structure SwapExchange where
  context : ApiContext
  world : World
  descriptor : Int

/-- What is decided outside the two programs: what becomes of each request,
and what the daemon does besides. -/
structure SwapCourse where
  sequence : UInt32
  request : SwapTarget
  fate : RequestFate
  between : List LoopStep
  resumeFate : RequestFate
  afterwards : List LoopStep

/-- Steps of the main loop and the stream thread. -/
def World.loop (environment : Environment) (world : World) (steps : List LoopStep) : World :=
  steps.foldl
    (fun world step =>
      (Server.step environment ⟨world, []⟩ step.toStep).world) world

/-- `async_request`, with the daemon's side of it. -/
def World.asyncRequest (environment : Environment) (world : World)
    (descriptor : Int) (sequence : UInt32) (command : Command) :
    RequestFate → Int × World
  | .lost => (-1, world)
  | .unanswered =>
      (-1, (serveRequest environment world descriptor (.request sequence command)).2)
  | .answered =>
      ((dispatch environment world descriptor command).backendResult,
        (serveRequest environment world descriptor (.request sequence command)).2)

namespace SwapExchange

variable (libm : Libm) (environment : Environment) (system : SwapExchange)

/-- The daemon's world when the client has the result of its swap. -/
def asked (course : SwapCourse) : Int × World :=
  let answer :=
    system.world.asyncRequest environment system.descriptor course.sequence
      course.request.command course.fate
  (answer.1, answer.2.loop environment course.between)

/-- A swap from its call to its return, and all the daemon does about it. -/
def swap (call : SwapCall) (course : SwapCourse) : ApiError × SwapExchange :=
  match system.context.prepareSwap libm call with
  | .error error => (error, system)
  | .ok blocks =>
      let requesting := system.context.requesting blocks
      let asked := system.asked environment course
      if asked.1 < 0 then
        (.hwError,
          { system with
            context := requesting.abandonSwap system.context.blocks
            world := asked.2.loop environment course.afterwards })
      else
        match requesting.grantSwap libm call with
        | (some error, context) =>
            (error,
              { system with
                context := context
                world := asked.2.loop environment course.afterwards })
        | (none, context) =>
            let resumed :=
              asked.2.asyncRequest environment system.descriptor
                (course.sequence + 1) .resumeMode course.resumeFate
            ((context.finishSwap resumed.1).1,
              { system with
                context := (context.finishSwap resumed.1).2
                world := resumed.2.loop environment course.afterwards })

end SwapExchange

/-! ## Agreement -/

/-- The mode and the active tuner of a client are the daemon's. -/
structure DeviceBlocks.AgreesWith (blocks : DeviceBlocks) (mark : SwapMark) :
    Prop where
  single :
    blocks.mode = .singleTuner → mark.dualMode = false ∧ mark.tuner = tunerNumber blocks.tuner
  dual : blocks.mode = .dualTuner → mark.dualMode = true

namespace SwapExchange

/-- The daemon has not been left waiting and agrees with a client in
single-tuner or dual-tuner mode. -/
structure Settled (system : SwapExchange) : Prop where
  mode : system.context.blocks.mode = .singleTuner ∨ system.context.blocks.mode = .dualTuner
  agrees : system.context.blocks.AgreesWith system.world.daemon.swapMark
  unpaused : system.world.daemon.modeSwapPaused = false

/-- What a swap should leave: agreement, and no pause if it failed. -/
structure Concluded (result : ApiError × SwapExchange) : Prop where
  agrees : result.2.context.blocks.AgreesWith result.2.world.daemon.swapMark
  unpaused : result.1 ≠ .success → result.2.world.daemon.modeSwapPaused = false

end SwapExchange

/-! ## The client moves -/

section Client

variable {libm : Libm}

/-- Filters of a validated channel can be configured. -/
theorem initFilters_of_valid {channel : RxChannelParams} {fsHz : Float}
    (valid : validateDspConfiguration libm channel fsHz = true) :
    ∃ filters, ApiContext.initFilters libm channel fsHz = some filters := by
  simp only [validateDspConfiguration, Bool.and_eq_true, Option.isSome_iff_exists] at valid
  obtain ⟨⟨⟨_, factor⟩, iqCorrection, isCorrection⟩, adsbFilter, isFilter⟩ := valid
  have decimator : ∃ decimator, Decimator.configure libm
      channel.ctrlParams.decimation.factor = some decimator :=
    ⟨_, if_pos factor⟩
  obtain ⟨decimator, isDecimator⟩ := decimator
  simp only [ApiContext.initFilters, isCorrection, isFilter, isDecimator]
  exact ⟨_, rfl⟩

/-- A granted tuner swap moves to the other tuner. -/
theorem grantTuner_moves {context : ApiContext} {call : TunerSwapCall}
    {blocks : DeviceBlocks}
    (prepared : context.prepareTunerSwap libm call = .ok blocks) :
    let granted :=
      (context.requesting blocks).grantTuner libm (nextTuner blocks.tuner)
    granted.1 = none ∧ granted.2.blocks.mode = .singleTuner ∧
      granted.2.blocks.tuner = nextTuner context.blocks.tuner := by
  obtain ⟨single, _, valid, isAfter⟩ := ApiContext.prepareTunerSwap_ok prepared
  have fixed := modifyChannel_fixed context.blocks
    (nextTuner context.blocks.tuner) fun _ =>
      carriedChannel (context.blocks.channelForTuner context.blocks.tuner)
        (nextTuner context.blocks.tuner)
  rw [← isAfter] at fixed
  obtain ⟨filters, configured⟩ := initFilters_of_valid valid
  rw [← fixed.2.1, ← fixed.1] at configured
  simp only [ApiContext.grantTuner, ApiContext.requesting, ApiContext.pauseCallbacks, configured]
  exact ⟨trivial, fixed.2.2.trans single, congrArg nextTuner fixed.2.1⟩

/-- A granted mode swap moves to the mode and tuner it names. -/
theorem grantMode_moves {context : ApiContext} {call : ModeSwapCall}
    {blocks : DeviceBlocks}
    (prepared : context.prepareModeSwap libm call = .ok blocks) :
    let granted := (context.requesting blocks).grantMode libm call
    granted.1 = none ∧ granted.2.blocks.mode = call.mode ∧ granted.2.blocks.tuner = call.tuner := by
  obtain ⟨_, first, second, isAfter⟩ := ApiContext.prepareModeSwap_ok prepared
  have rate : blocks.devParams.fsHz = call.sampleRate := by
    rw [isAfter]
    unfold ApiContext.modeSwapBlocks
    dsimp only
    by_cases dual : call.mode = .dualTuner
    · rw [if_pos dual]
    · rw [if_neg dual, (modifyChannel_fixed _ _ _).1]
  obtain ⟨filters, configured⟩ : ∃ filters, ApiContext.modeFilters libm
        { blocks with mode := call.mode, tuner := call.tuner } call.mode
        call.tuner = some filters := by
    unfold ApiContext.modeFilters
    rw [← rate] at first second
    split_ifs with dual
    · rw [if_pos dual] at first
      obtain ⟨filtersA, isA⟩ := initFilters_of_valid first
      obtain ⟨filtersB, isB⟩ := initFilters_of_valid (second dual)
      simp only [isA, isB]
      exact ⟨_, rfl⟩
    · rw [if_neg dual] at first
      obtain ⟨only, isOnly⟩ := initFilters_of_valid first
      have same : DeviceBlocks.channelForTuner
              { blocks with mode := call.mode, tuner := call.tuner }
              call.tuner =
            blocks.channelForTuner call.tuner :=
        rfl
      simp only [same, isOnly]
      exact ⟨_, rfl⟩
  simp only [ApiContext.grantMode, ApiContext.requesting, ApiContext.pauseCallbacks, configured]
  exact ⟨trivial, rfl, rfl⟩

theorem tunerNumber_nextTuner_ne {tuner : TunerSelect} (single : tuner = .a ∨ tuner = .b) :
    tunerNumber (nextTuner tuner) ≠ tunerNumber tuner := by
  rcases single with rfl | rfl <;> decide

/-- A mode swap leads to the other of the two modes. -/
theorem modeSwapChecks_mode {context : ApiContext} {call : ModeSwapCall}
    (checked : context.modeSwapChecks call = .success) :
    (call.mode = .singleTuner ∨ call.mode = .dualTuner) ∧ call.mode ≠ context.blocks.mode := by
  unfold ApiContext.modeSwapChecks at checked
  split_ifs at checked with pointers handle modes same
  all_goals
    refine ⟨?_, same⟩
    by_cases single : call.mode = .singleTuner
    · exact .inl single
    · exact .inr (not_not.mp fun other => modes ⟨single, other⟩)

/-- A client that moves agrees with a daemon that made the swap, and one that
does not move no longer agrees. -/
theorem grantSwap_agrees {context : ApiContext} {call : SwapCall}
    {blocks : DeviceBlocks} {target : SwapTarget}
    (prepared : context.prepareSwap libm call = .ok blocks)
    (request : IsSwapRequest blocks call target)
    (modes : context.blocks.mode = .singleTuner ∨ context.blocks.mode = .dualTuner)
    (descriptor : Int) (stored : UInt32) (wasStreaming : Bool) :
    let granted := (context.requesting blocks).grantSwap libm call
    let mark := target.markAfter descriptor stored wasStreaming
    granted.1 = none ∧ granted.2.blocks.AgreesWith mark ∧ ¬context.blocks.AgreesWith mark := by
  cases call with
  | tuner call =>
      cases target with
      | mode swap => exact request.elim
      | tuner swap =>
          obtain ⟨single, tuners, _, isAfter⟩ := ApiContext.prepareTunerSwap_ok prepared
          obtain ⟨granted, mode, tuner⟩ := grantTuner_moves prepared
          have sameTuner : blocks.tuner = context.blocks.tuner := by
            rw [isAfter, (modifyChannel_fixed _ _ _).2.1]
          have asked := request.1
          rw [sameTuner] at asked
          refine ⟨granted, ⟨fun _ => ⟨rfl, ?_⟩, fun dual => ?_⟩, fun agrees => ?_⟩
          · exact asked.trans (congrArg tunerNumber tuner).symm
          · exact absurd (mode.symm.trans dual) (by decide)
          · exact tunerNumber_nextTuner_ne tuners (asked.symm.trans (agrees.single single).2)
  | mode call =>
      cases target with
      | tuner swap => exact request.elim
      | mode swap =>
          obtain ⟨checked, _⟩ := ApiContext.prepareModeSwap_ok prepared
          obtain ⟨targets, differs⟩ := modeSwapChecks_mode checked
          obtain ⟨granted, mode, tuner⟩ := grantMode_moves prepared
          obtain ⟨isMode, isTuner, _⟩ := request
          rcases targets with single | dual
          · have notDual : call.mode ≠ .dualTuner := by
              rw [single]; decide
            rw [if_neg notDual] at isMode
            have otherMode : swap.mode ≠ modeDual := by
              rw [isMode]; decide
            have dualMode : decide (swap.mode = modeDual) = false := decide_eq_false otherMode
            refine ⟨granted, ⟨fun _ => ⟨dualMode, ?_⟩, fun dual => ?_⟩, fun agrees => ?_⟩
            · exact (if_neg otherMode).trans
                ((isTuner notDual).trans (congrArg tunerNumber tuner).symm)
            · exact absurd (mode.symm.trans dual) notDual
            · have was := modes.resolve_left fun wasSingle =>
                differs (single.trans wasSingle.symm)
              exact absurd ((agrees.dual was).symm.trans dualMode) (by decide)
          · rw [if_pos dual] at isMode
            have dualMode : decide (swap.mode = modeDual) = true := decide_eq_true isMode
            refine ⟨granted, ⟨fun single => ?_, fun _ => dualMode⟩, fun agrees => ?_⟩
            · exact absurd (dual.symm.trans (mode.symm.trans single)) (by decide)
            · have was := modes.resolve_right fun wasDual =>
                differs (dual.trans wasDual.symm)
              exact absurd ((agrees.single was).1.symm.trans dualMode) (by decide)

end Client

/-! ## The daemon is asked -/

section Daemon

variable (environment : Environment)

theorem loop_swapMark (world : World) (steps : List LoopStep) :
    (world.loop environment steps).daemon.swapMark =
      world.daemon.swapMark := by
  induction steps generalizing world with
  | nil => rfl
  | cons step steps inductionHypothesis =>
      exact (inductionHypothesis _).trans (loopStep_swapMark environment ⟨world, []⟩ step)

/-- The session after a request to resume by its owner. -/
theorem asyncRequest_resume {world : World} {descriptor : Int}
    (owned : world.daemon.owner = descriptor) (sequence : UInt32)
    (fate : RequestFate) :
    let resumed :=
      world.asyncRequest environment descriptor sequence .resumeMode fate
    resumed.2.daemon.swapMark =
        { world.daemon.swapMark with
          paused :=
            world.daemon.modeSwapPaused && !(decide (fate ≠ .lost) && world.daemon.configured) } ∧
      (0 ≤ resumed.1 → resumed.2.daemon.modeSwapPaused = false) := by
  have served := (serveRequest_swapMark environment world descriptor sequence .resumeMode).1
  have outcome : (serveRequest environment world descriptor
          (.request sequence .resumeMode)).2.daemon.swapMark =
        { world.daemon.swapMark with
          paused := world.daemon.modeSwapPaused && !world.daemon.configured } ∧
      ((dispatch environment world descriptor .resumeMode).status = .ok →
        (world.daemon.modeSwapPaused && !world.daemon.configured) = false) := by
    have handled := serveResumeMode_outcome world descriptor
    by_cases resumes : world.daemon.owner = descriptor ∧ world.daemon.configured = true ∧
          world.daemon.modeSwapPaused = true
    · dsimp only at handled
      rw [if_pos resumes] at handled
      simp only [resumes.2.1, Bool.not_true, Bool.and_false]
      exact ⟨served.trans handled.2, fun _ => trivial⟩
    · dsimp only at handled
      rw [if_neg resumes] at handled
      have kept : (world.daemon.modeSwapPaused && !world.daemon.configured) =
            world.daemon.modeSwapPaused := by
        cases paused : world.daemon.modeSwapPaused <;>
          cases configured : world.daemon.configured <;> simp_all
      rw [kept]
      refine ⟨served.trans ?_, fun ok => absurd ok handled.1⟩
      exact congrArg (fun after => after.daemon.swapMark) handled.2
  cases fate with
  | lost =>
      simp only [World.asyncRequest]
      exact ⟨by simp [DaemonState.swapMark], fun nonnegative => by omega⟩
  | unanswered =>
      simp only [World.asyncRequest]
      exact ⟨by simpa using outcome.1, fun nonnegative => by omega⟩
  | answered =>
      simp only [World.asyncRequest]
      refine ⟨by simpa using outcome.1, fun nonnegative => ?_⟩
      have ok :
          (dispatch environment world descriptor .resumeMode).status = .ok := by
        by_contra refused
        have := (backendResult_neg_iff _).mpr refused
        omega
      exact (congrArg SwapMark.paused outcome.1).trans (outcome.2 ok)

end Daemon

namespace SwapExchange

variable (libm : Libm) (environment : Environment) (system : SwapExchange)

/-- A swap the daemon makes is answered in time; and if the daemon was
streaming, the request to resume reaches it while it is still configured. -/
def Heard (call : SwapCall) (course : SwapCourse) : Prop :=
  ∀ blocks, system.context.prepareSwap libm call = .ok blocks →
    (dispatch environment system.world system.descriptor course.request.command).status = .ok →
    course.fate ≠ .unanswered ∧ (course.fate = .answered →
        system.world.daemon.streamThreadStarted = true →
        course.resumeFate ≠ .lost ∧ (system.asked environment course).2.daemon.configured = true)

variable {libm system}

/-- What the client and the daemon know when the client has the result of its
swap. -/
theorem asked_outcome (settled : system.Settled) (course : SwapCourse) :
    let asked := system.asked environment course
    let ok :=
      (dispatch environment system.world system.descriptor course.request.command).status = .ok
    (ok ∧ course.fate ≠ .lost ∧
        (asked.1 < 0 ↔ course.fate = .unanswered) ∧
        asked.2.daemon.swapMark = course.request.markAfter system.descriptor
            system.world.daemon.config.tuner
            system.world.daemon.streamThreadStarted) ∨
      ((ok → course.fate = .lost) ∧ asked.1 < 0 ∧
        asked.2.daemon.swapMark = system.world.daemon.swapMark) := by
  have outcome := dispatch_swap_outcome environment system.world
    system.descriptor course.request settled.unpaused
  have served := (serveRequest_swapMark environment system.world system.descriptor
      course.sequence course.request.command).1
  have negative := backendResult_neg_iff
    (dispatch environment system.world system.descriptor course.request.command)
  dsimp only at outcome served
  simp only [asked, loop_swapMark]
  cases fate : course.fate with
  | lost =>
      exact .inr ⟨fun _ => rfl, by simp [World.asyncRequest], by simp [World.asyncRequest]⟩
  | unanswered =>
      rcases outcome with ⟨ok, _, mark⟩ | ⟨refused, mark⟩
      · exact .inl ⟨ok, by decide, by simp [World.asyncRequest], served.trans mark⟩
      · exact .inr ⟨fun ok => absurd ok refused, by simp [World.asyncRequest], served.trans mark⟩
  | answered =>
      rcases outcome with ⟨ok, _, mark⟩ | ⟨refused, mark⟩
      · refine .inl ⟨ok, by decide, ?_, served.trans mark⟩
        simp only [World.asyncRequest, negative, ok, ne_eq, not_true_eq_false, false_iff]
        decide
      · exact .inr ⟨fun ok => absurd ok refused, negative.mpr refused, served.trans mark⟩

theorem markAfter_paused (target : SwapTarget) (descriptor : Int)
    (stored : UInt32) (wasStreaming paused : Bool) :
    { target.markAfter descriptor stored wasStreaming with paused := paused } =
      target.markAfter descriptor stored paused := by
  cases target <;> rfl

theorem markAfter_fields (target : SwapTarget) (descriptor : Int)
    (stored : UInt32) (wasStreaming : Bool) :
    (target.markAfter descriptor stored wasStreaming).owner = descriptor ∧
      (target.markAfter descriptor stored wasStreaming).paused =
        wasStreaming := by
  cases target <;> exact ⟨rfl, rfl⟩

/-- A granted swap concludes exactly if the daemon does not stay paused. -/
theorem granted_concluded_iff (system : SwapExchange) {context : ApiContext}
    {call : SwapCall} {blocks : DeviceBlocks} {course : SwapCourse}
    {stored : UInt32} {wasStreaming : Bool} {world : World}
    (prepared : context.prepareSwap libm call = .ok blocks)
    (request : IsSwapRequest blocks call course.request)
    (modes : context.blocks.mode = .singleTuner ∨ context.blocks.mode = .dualTuner)
    (mark :
      world.daemon.swapMark = course.request.markAfter system.descriptor stored wasStreaming) :
    let after := ((context.requesting blocks).grantSwap libm call).2
    let resumed :=
      world.asyncRequest environment system.descriptor (course.sequence + 1)
        .resumeMode course.resumeFate
    Concluded
        ((after.finishSwap resumed.1).1,
          { system with
            context := (after.finishSwap resumed.1).2
            world := resumed.2.loop environment course.afterwards }) ↔
      (wasStreaming = true → course.resumeFate ≠ .lost ∧ world.daemon.configured = true) := by
  intro after resumed
  have fields := markAfter_fields course.request system.descriptor stored wasStreaming
  have owned : world.daemon.owner = system.descriptor :=
    (congrArg SwapMark.owner mark).trans fields.1
  have waiting : world.daemon.modeSwapPaused = wasStreaming :=
    (congrArg SwapMark.paused mark).trans fields.2
  obtain ⟨resumedMark, unpaused⟩ :=
    asyncRequest_resume environment owned (course.sequence + 1) course.resumeFate
  rw [mark, waiting, markAfter_paused] at resumedMark
  have finalMark := (loop_swapMark environment resumed.2 course.afterwards).trans resumedMark
  have finalPaused : (resumed.2.loop environment course.afterwards).daemon.modeSwapPaused =
        (wasStreaming && !(decide (course.resumeFate ≠ .lost) && world.daemon.configured)) :=
    (congrArg SwapMark.paused finalMark).trans (markAfter_fields ..).2
  have sameBlocks : (after.finishSwap resumed.1).2.blocks = after.blocks := by
    unfold ApiContext.finishSwap
    split <;> rfl
  have agrees : (after.finishSwap resumed.1).2.blocks.AgreesWith
        (resumed.2.loop environment course.afterwards).daemon.swapMark := by
    rw [sameBlocks, finalMark]
    exact (grantSwap_agrees prepared request modes _ _ _).2.1
  -- a call that succeeds has been told that the pause is over
  have successful : (after.finishSwap resumed.1).1 = .success →
        (resumed.2.loop environment course.afterwards).daemon.modeSwapPaused = false := by
    intro success
    have nonnegative : 0 ≤ resumed.1 := by
      by_contra below
      unfold ApiContext.finishSwap at success
      rw [if_pos (not_le.mp below)] at success
      cases success
    refine (congrArg SwapMark.paused (loop_swapMark environment resumed.2
      course.afterwards)).trans (unpaused nonnegative)
  constructor
  · intro concluded streaming
    have noPause :
        (resumed.2.loop environment course.afterwards).daemon.modeSwapPaused = false := by
      by_cases success : (after.finishSwap resumed.1).1 = .success
      · exact successful success
      · exact concluded.unpaused success
    rw [finalPaused, streaming] at noPause
    simpa using noPause
  · intro heard
    refine ⟨agrees, fun _ => ?_⟩
    show (resumed.2.loop environment course.afterwards).daemon.modeSwapPaused = false
    rw [finalPaused]
    cases streaming : wasStreaming with
    | false => rfl
    | true =>
        obtain ⟨reached, configured⟩ := heard streaming
        simp [reached, configured]

/-- From an agreement, a swap concludes in agreement, without a pause if it
failed, exactly if it is heard. -/
theorem swap_concluded_iff_heard (settled : system.Settled) (call : SwapCall) (course : SwapCourse)
    (built : ∀ blocks, system.context.prepareSwap libm call = .ok blocks →
      IsSwapRequest blocks call course.request) :
    Concluded (system.swap libm environment call course) ↔
      system.Heard libm environment call course := by
  unfold swap Heard
  cases prepared : system.context.prepareSwap libm call with
  | error error =>
      exact ⟨fun _ _ equal => (nomatch equal), fun _ => ⟨settled.agrees, fun _ => settled.unpaused⟩⟩
  | ok blocks =>
      have request := built blocks prepared
      rcases asked_outcome environment settled course with
        ⟨ok, reached, negative, mark⟩ | ⟨lost, negative, mark⟩
      · by_cases late : course.fate = .unanswered
        · have abandoned := negative.mpr late
          dsimp only
          rw [if_pos abandoned]
          constructor
          · intro concluded
            have agrees := concluded.agrees
            dsimp only at agrees
            rw [loop_swapMark, mark] at agrees
            exact absurd agrees (grantSwap_agrees prepared request settled.mode _ _ _).2.2
          · intro heard
            exact absurd late (heard blocks rfl ok).1
        · have answered : course.fate = .answered := by
            cases fate : course.fate with
            | lost => exact absurd fate reached
            | unanswered => exact absurd fate late
            | answered => rfl
          have granted := (grantSwap_agrees prepared request settled.mode
            system.descriptor system.world.daemon.config.tuner
            system.world.daemon.streamThreadStarted).1
          have concluded :=
            granted_concluded_iff environment system prepared request settled.mode mark
          dsimp only at concluded ⊢
          rw [if_neg (mt negative.mp late)]
          generalize
            (system.context.requesting blocks).grantSwap libm call = result
            at granted concluded ⊢
          obtain ⟨error, after⟩ := result
          subst granted
          refine concluded.trans ⟨fun heard _ _ _ => ⟨late, fun _ => heard⟩,
            fun heard => (heard blocks rfl ok).2 answered⟩
      · dsimp only
        rw [if_pos negative]
        constructor
        · intro _ _ _ ok
          rw [lost ok]
          exact ⟨by decide, fun answered => absurd answered (by decide)⟩
        · intro _
          refine ⟨?_, fun _ => ?_⟩
          · dsimp only
            rw [loop_swapMark, mark]
            exact settled.agrees
          · exact (congrArg SwapMark.paused
              ((loop_swapMark environment _ _).trans mark)).trans settled.unpaused

/-! ## A streaming session -/

/-- A client with the default parameters whose daemon streams tuner A. -/
def streaming : SwapExchange where
  context := initialisedDevice
  world := (Runs.runSteps (Server.step oneReceiver) Server.initial
      (acquireAndConfigure ++ [.serve 0 (.request 3 .start)])).world
  descriptor := 5

/-- A swap to tuner B with the given fates. -/
def toTunerB (fate resumeFate : RequestFate) : SwapCourse where
  sequence := 4
  request := .tuner ⟨tunerB, defaultConfig tunerB amPort2⟩
  fate := fate
  between := []
  resumeFate := resumeFate
  afterwards := []

theorem streaming_settled : streaming.Settled where
  mode := .inl rfl
  agrees := ⟨fun _ => by decide +kernel, nofun⟩
  unpaused := by decide +kernel

theorem toTunerB_built (fate resumeFate : RequestFate) (blocks : DeviceBlocks)
    (prepared : streaming.context.prepareSwap floatLibm (.tuner ⟨true, .a, amPort2⟩) = .ok blocks) :
    IsSwapRequest blocks (.tuner ⟨true, .a, amPort2⟩) (toTunerB fate resumeFate).request := by
  have isBlocks : streaming.context.prepareSwap floatLibm
        (.tuner ⟨true, .a, amPort2⟩) = .ok initialisedDevice.blocks := by
    decide +kernel
  obtain rfl := Except.ok.inj (isBlocks.symm.trans prepared)
  have request :
      tunerSwapRequest initialisedDevice.blocks = some ⟨tunerB, defaultConfig tunerB amPort2⟩ := by
    decide +kernel
  exact ⟨by decide +kernel, fun built isBuilt =>
    Option.some.inj (request.symm.trans isBuilt)⟩

/-- Answered twice, the swap concludes. -/
theorem answered_swap_concluded : Concluded
      (streaming.swap floatLibm oneReceiver (.tuner ⟨true, .a, amPort2⟩)
        (toTunerB .answered .answered)) := by
  refine (swap_concluded_iff_heard oneReceiver streaming_settled _ _
    (toTunerB_built .answered .answered)).mpr ?_
  intro _ _ _
  exact ⟨by decide, fun _ _ => ⟨by decide, by decide +kernel⟩⟩

/-- The daemon makes the swap, the answer is late: the call fails on tuner A,
the daemon has tuner B and waits for a request to resume. -/
theorem late_answer_disagrees :
    let result :=
      streaming.swap floatLibm oneReceiver (.tuner ⟨true, .a, amPort2⟩) (toTunerB .unanswered .lost)
    streaming.Settled ∧ result.1 = .hwError ∧
      result.2.context.blocks.mode = .singleTuner ∧
      result.2.context.blocks.tuner = .a ∧
      result.2.world.daemon.dualMode = false ∧
      result.2.world.daemon.config.tuner = tunerB ∧
      result.2.world.daemon.modeSwapPaused = true := by
  exact ⟨streaming_settled, by decide +kernel⟩

end SwapExchange

end OpenRsp
