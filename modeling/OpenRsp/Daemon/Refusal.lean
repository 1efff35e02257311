import OpenRsp.Daemon.LiveRequests
import OpenRsp.Daemon.SharedConfiguration

/-!
# Refused requests

A request answered with `BAD_REQUEST`, `BUSY`, `UNSUPPORTED`,
`START_PENDING` or `STOP_PENDING` is refused.  Most refusals are decided
before anything is touched.  Four commands can still be refused after they
have reached the hardware: an update that stopped the stream for a new
rate, and a configuration or a swap that gave up its handle and then failed
to resolve the receiver.
-/

namespace OpenRsp

open Runs

/-- The statuses that turn a request down. -/
def Status.isRefusal : Status → Bool
  | .badRequest | .unsupported | .busy | .startPending | .stopPending =>
      true
  | .ok | .ioError => false

theorem Status.isRefusal_iff (status : Status) :
    status.isRefusal = true ↔ status ≠ .ok ∧ status ≠ .ioError := by
  cases status <;> simp [Status.isRefusal]

/-- Ownership, the lock, the session, the stored configurations with their
flags, the handle and the stream thread are as before. -/
structure DaemonState.Unchanged (before after : DaemonState) : Prop where
  holdings : after.toLedger.holdings = before.toLedger.holdings
  shared : after.toLedger.shared = before.toLedger.shared
  config : after.config = before.config
  bootstrapConfigured : after.bootstrapConfigured = before.bootstrapConfigured
  bootstrapConfig : after.bootstrapConfig = before.bootstrapConfig
  receiver : after.toReceiver = before.toReceiver
  stream : after.toStreamState = before.toStreamState

theorem DaemonState.Unchanged.of_frames {before after : DaemonState}
    (ledger : after.toLedger = before.toLedger)
    (receiver : after.toReceiver = before.toReceiver)
    (stream : after.toStreamState = before.toStreamState) :
    before.Unchanged after where
  holdings := congrArg Ledger.holdings ledger
  shared := congrArg Ledger.shared ledger
  config := congrArg Ledger.config ledger
  bootstrapConfigured := congrArg Ledger.bootstrapConfigured ledger
  bootstrapConfig := congrArg Ledger.bootstrapConfig ledger
  receiver := receiver
  stream := stream

/-- The handle is open or a thread has still to be joined. -/
def DaemonState.Engaged (daemon : DaemonState) : Prop :=
  daemon.radio.isSome = true ∨ daemon.streamThreadStarted = true

/-- The requests that act on the handle or on the stream thread before they
can be refused. -/
def Command.ReachesHardware (daemon : DaemonState) (descriptor : Int) :
    Command → Prop
  | .update request =>
      daemon.owner = descriptor ∧
        openrspdConfigValid request.config = true ∧
        daemon.radio.isSome = true ∧ daemon.configured = true ∧
        daemon.streamError = false ∧
        restartForSampleRate daemon request = true
  | .configure config =>
      daemon.owner = descriptor ∧ openrspdConfigValid config = true ∧ daemon.radio.isSome = true
  | .swapTuner swap =>
      daemon.owner = descriptor ∧ daemon.configured = true ∧
        daemon.dualMode = false ∧
        (swap.tuner = tunerA ∨ swap.tuner = tunerB) ∧
        openrspdConfigValid swap.config = true ∧
        swap.config.tuner = swap.tuner ∧ daemon.Engaged
  | .swapMode swap =>
      daemon.owner = descriptor ∧ daemon.configured = true ∧
        validModeTarget swap = true ∧ daemon.Engaged
  | _ => False

/-! ## What a refusal can leave -/

/-- A response and the state it leaves: not a refusal, a refusal before
anything was touched, or one after the stream was stopped or the handle was
given up. -/
inductive RefusalOutcome (world : World) (reaches : Prop)
    (handled : Handled) : Prop
  | answered (served : handled.status.isRefusal = false)
  | kept
      (ledger : handled.world.daemon.toLedger = world.daemon.toLedger)
      (receiver : handled.world.daemon.toReceiver = world.daemon.toReceiver)
      (stream : handled.world.daemon.toStreamState = world.daemon.toStreamState)
      (quiet : handled.startStreamAfterError = false)
      (safe : ¬ reaches)
  | stopped
      (changed : handled.world.daemon.streamThreadStarted ≠ world.daemon.streamThreadStarted)
      (quiet : handled.startStreamAfterError = false)
      (reached : reaches)
  | givenUp
      (changed : handled.world.daemon.radio ≠ world.daemon.radio)
      (reached : reaches)

section Answering

variable (environment : Environment) {world : World} {reaches : Prop}
  {descriptor : Int} {sequence : UInt32} {command : Command}
  {handled : Handled}

/-- Answering a refusal starts no stream. -/
theorem respond_refused (refused : handled.status.isRefusal = true)
    (quiet : handled.startStreamAfterError = false) :
    (respond environment descriptor sequence command handled).2.daemon =
      handled.world.daemon := by
  have notOk := (handled.status.isRefusal_iff.mp refused).1
  refine respond_daemon environment descriptor sequence command handled
    (· = handled.world.daemon) rfl fun before same => ?_
  simp [startStreams, continueWith, startDuo, startPlain, startAgain, notOk, quiet, same]

/-- A refusal leaves everything as it was, unless the request had reached
the hardware. -/
theorem RefusalOutcome.unchanged_iff (outcome : RefusalOutcome world reaches handled)
    (refused : handled.status.isRefusal = true) :
    world.daemon.Unchanged
        (respond environment descriptor sequence command handled).2.daemon ↔
      ¬ reaches := by
  cases outcome with
  | answered served => simp [served] at refused
  | kept ledger receiver stream quiet safe =>
      rw [respond_refused environment refused quiet]
      exact iff_of_true (.of_frames ledger receiver stream) safe
  | stopped changed quiet reached =>
      rw [respond_refused environment refused quiet]
      refine iff_of_false (fun same => changed ?_) (not_not.mpr reached)
      exact congrArg StreamState.streamThreadStarted same.stream
  | givenUp changed reached =>
      refine iff_of_false (fun same => changed ?_) (not_not.mpr reached)
      have answered := (respond_restreamed environment descriptor sequence command handled).receiver
      exact congrArg Receiver.radio (answered.symm.trans same.receiver)

theorem RefusalOutcome.untouched {status : Status} (safe : ¬ reaches) :
    RefusalOutcome world reaches (.reply world status) :=
  .kept rfl rfl rfl rfl safe

theorem RefusalOutcome.inventory {status : Status} {after : World}
    (frame : InventoryOnly world after) (safe : ¬ reaches) :
    RefusalOutcome world reaches (.reply after status) :=
  .kept frame.ledger frame.receiver frame.stream rfl safe

/-- The session is written back as it was read. -/
theorem RefusalOutcome.sameSession {status : Status} {session : DuoSession}
    (same : session = world.daemon.duo) (safe : ¬ reaches) :
    RefusalOutcome world reaches
      (.reply (world.modify fun daemon => { daemon with duo := session }) status) := by
  subst same
  exact .kept rfl rfl rfl rfl safe

end Answering

/-! ## Configuring -/

section Configuring

variable (environment : Environment) {world : World}

/-- A refused configuration could not resolve the receiver, and had no handle
then. -/
theorem configureRadio_refused (config : RadioConfig) (valid : openrspdConfigValid config = true)
    (refused : (configureRadio environment world config 3).1.isRefusal = true) :
    (configureRadio environment world config 3).2.daemon.radio = none := by
  revert refused
  simp only [configureRadio, valid, Bool.true_eq_false, if_false]
  have attempts (before : World)
      (refused : (configureAttempts environment config (max 3 1) before).1.isRefusal = true) :
      (configureAttempts environment config (max 3 1) before).2.daemon.radio = none := by
    refine configureAttempts_failed environment before config _ (.inl (by decide)) ?_
    intro accepted
    rw [accepted] at refused
    cases refused
  split_ifs
  · simp [Status.isRefusal]
  · exact attempts _
  · exact attempts _

/-- Without a handle a configuration that fails changes nothing. -/
theorem configureRadio_failed_closed (config : RadioConfig) (closed : world.daemon.radio = none)
    (idle : world.daemon.streamThread = .idle)
    (failed : (configureRadio environment world config 3).1 ≠ .ok) :
    (configureRadio environment world config 3).2.daemon.toReceiver =
        world.daemon.toReceiver ∧
      (configureRadio environment world config 3).2.daemon.toStreamState =
        world.daemon.toStreamState := by
  refine ⟨?_, ((mayEndFrame environment).configureRadio world config 3).eq_of_idle idle⟩
  simp only [configureRadio, closed, Option.isSome_none,
    Bool.false_eq_true, and_false, if_false] at failed ⊢
  split_ifs at failed ⊢
  · rfl
  · have radio :=
      (configureAttempts_failed environment world config _ (.inr closed) failed).trans closed.symm
    have mode := configureAttempts_mode environment world config (max 3 1)
    rw [singleModeAfter, if_neg failed] at mode
    simp only [Receiver.mode, Prod.mk.injEq] at mode
    obtain ⟨configured, dualMode, dualConfig⟩ := mode
    rw [Receiver.mk.injEq]
    exact ⟨radio, configured, dualMode, dualConfig⟩

/-- A valid configuration of both tuners is never refused. -/
theorem configureDualRadio_not_refused (config : DualConfig)
    (valid : validDualConfig config = true) :
    (configureDualRadio environment world config).1.isRefusal = false := by
  simp only [configureDualRadio, valid, Bool.true_eq_false, if_false, configureDualHandle]
  split_ifs <;> rfl

end Configuring

/-! ## Commands of an owner -/

section Outcomes

variable (environment : Environment) {world : World} (descriptor : Int)

theorem serveUnrecognised_refusal {reaches : Prop} (safe : ¬ reaches) :
    RefusalOutcome world reaches (serveUnrecognised world descriptor) :=
  .untouched safe

theorem serveAcquire_refusal (acquire : AcquireRequest) :
    RefusalOutcome world False (serveAcquire environment world descriptor acquire) := by
  have listed := snapshotSdrplayDevices_inventoryOnly environment world
  simp only [serveAcquire]
  split_ifs
  · exact .untouched id
  · exact .untouched id
  · exact .untouched id
  · split
    · exact .inventory listed id
    · split_ifs <;> exact .answered rfl

theorem serveConfigure_refusal (config : RadioConfig)
    (sound : world.view.Sound) (running : world.running = true) :
    RefusalOutcome world
      ((Command.configure config).ReachesHardware world.daemon descriptor)
      (serveConfigure environment world descriptor config) := by
  by_cases owner : world.daemon.owner = descriptor
  · cases refused : (configureRadio environment world config 3).1.isRefusal with
    | false =>
        refine .answered ?_
        simp only [serveConfigure, if_pos owner]
        split_ifs
        · rfl
        · exact refused
    | true =>
        have failed := ((configureRadio environment world config 3).1.isRefusal_iff.mp refused).1
        simp only [serveConfigure, if_pos owner, if_neg failed]
        by_cases valid : openrspdConfigValid config = true
        · by_cases isOpen : world.daemon.radio.isSome = true
          · refine .givenUp ?_ ⟨owner, valid, isOpen⟩
            rw [Handled.reply_world, configureRadio_refused environment config valid refused]
            intro same
            simp [← same] at isOpen
          · have closed := Option.not_isSome_iff_eq_none.mp isOpen
            have kept := configureRadio_failed_closed environment config closed
                (sound.idle_of_closed running closed) failed
            exact .kept (configureRadio_ledger environment world config 3)
              kept.1 kept.2 rfl fun reaches => isOpen reaches.2.2
        · have same : configureRadio environment world config 3 =
              (.badRequest, world) := by
            simp [configureRadio, valid]
          rw [same]
          exact .untouched fun reaches => valid reaches.2.1
  · simp only [serveConfigure, if_neg owner]
    exact serveUnrecognised_refusal descriptor fun reaches =>
      owner reaches.1

theorem serveConfigureDual_refusal (config : DualConfig) :
    RefusalOutcome world False (serveConfigureDual environment world descriptor config) := by
  simp only [serveConfigureDual]
  split_ifs with owner accepted
  · exact .answered rfl
  · by_cases valid : validDualConfig config = true
    · exact .answered (configureDualRadio_not_refused environment config valid)
    · have same : configureDualRadio environment world config =
          (.badRequest, world) := by
        simp [configureDualRadio, valid]
      rw [same]
      exact .untouched id
  · exact serveUnrecognised_refusal descriptor id

/-! ### Swaps -/

/-- Stopping and closing leave no handle and nothing to join, when they
succeed. -/
theorem stopAndClose_released (succeeds : (stopAndClose environment world).1 = true) :
    (stopAndClose environment world).2.daemon.radio = none ∧
      (stopAndClose environment world).2.daemon.streamThreadStarted =
        false := by
  revert succeeds
  simp only [stopAndClose]
  split_ifs with stopped
  · simp
  · intro _
    refine ⟨closeRadio_radio environment _, ?_⟩
    have unstarted : (stopStream environment world).2.daemon.streamThreadStarted =
          false := by
      by_cases started : world.daemon.streamThreadStarted = true
      · have stream := stopStream_stream environment world started
        exact congrArg StreamState.streamThreadStarted stream
      · simp [stopStream, started]
    exact (closeRadio_mayEnd environment _).started.trans unstarted

/-- Without a handle and a thread there is nothing to stop or to close. -/
theorem stopAndClose_disengaged (disengaged : ¬ world.daemon.Engaged) :
    stopAndClose environment world = (true, world) := by
  simp only [DaemonState.Engaged, not_or, Bool.not_eq_true,
    Option.isSome_eq_false_iff, Option.isNone_iff_eq_none] at disengaged
  simp [stopAndClose, stopStream, closeRadio, disengaged]

/-- A state whose handle was given up and whose thread was joined differs
from one that was engaged. -/
theorem RefusalOutcome.released {reaches : Prop} {status : Status}
    {after : World} (engaged : world.daemon.Engaged)
    (closed : after.daemon.radio = none)
    (unstarted : after.daemon.streamThreadStarted = false)
    (reached : reaches) :
    RefusalOutcome world reaches (.reply after status) := by
  rcases engaged with isOpen | started
  · refine .givenUp (fun same => ?_) reached
    rw [← same, Handled.reply_world, closed] at isOpen
    simp at isOpen
  · refine .stopped (fun same => ?_) rfl reached
    rw [← same, Handled.reply_world, unstarted] at started
    simp at started

theorem serveSwapTuner_refusal (swap : SwapRequest)
    (sound : world.view.Sound) (running : world.running = true) :
    RefusalOutcome world
      ((Command.swapTuner swap).ReachesHardware world.daemon descriptor)
      (serveSwapTuner environment world descriptor swap) := by
  simp only [serveSwapTuner]
  split_ifs with granted insane closed accepted
  · refine .untouched fun reaches => ?_
    obtain ⟨-, -, -, tuner, valid, same, -⟩ := reaches
    rcases insane with neither | invalid | other
    · exact tuner.elim neither.1 neither.2
    · simp [valid] at invalid
    · exact other same
  · exact .answered rfl
  · exact .answered rfl
  · obtain ⟨tuner, valid, own⟩ : (swap.tuner = tunerA ∨ swap.tuner = tunerB) ∧
          openrspdConfigValid swap.config = true ∧
          swap.config.tuner = swap.tuner := by
      simp only [not_or, not_and_or, not_not, Bool.not_eq_false] at insane
      exact insane
    cases refused : (configureRadio environment (stopAndClose environment world).2
          swap.config 3).1.isRefusal with
    | false => exact .answered refused
    | true =>
        by_cases engaged : world.daemon.Engaged
        · have released := stopAndClose_released environment (by simpa using closed)
          exact .released engaged
            (configureRadio_refused environment swap.config valid refused)
            (((mayEndFrame environment).configureRadio _ _ _).started.trans released.2)
            ⟨granted.1, granted.2.1, granted.2.2, tuner, valid, own, engaged⟩
        · have safe : ¬ (Command.swapTuner swap).ReachesHardware world.daemon
                descriptor :=
            fun reaches => engaged reaches.2.2.2.2.2.2
          rw [stopAndClose_disengaged environment engaged] at accepted ⊢
          have shut : world.daemon.radio = none := Option.not_isSome_iff_eq_none.mp fun isOpen =>
              engaged (.inl isOpen)
          have kept := configureRadio_failed_closed environment swap.config shut
              (sound.idle_of_closed running shut) accepted
          exact .kept (configureRadio_ledger environment world _ 3) kept.1 kept.2 rfl safe
  · exact serveUnrecognised_refusal descriptor fun reaches =>
      granted ⟨reaches.1, reaches.2.1, reaches.2.2.1⟩

/-- A handle opened after the old one was closed is another one. -/
theorem radio_ne_of_reopened {closed reopened : World}
    (sound : world.view.Sound) (quieter : world.view.Quieter closed.view)
    (shut : closed.daemon.radio = none)
    (opened : closed.view.Quieter reopened.view)
    (isOpen : reopened.daemon.radio.isSome = true) :
    reopened.daemon.radio ≠ world.daemon.radio := by
  obtain ⟨radio, found⟩ := Option.isSome_iff_exists.mp isOpen
  intro same
  have old := sound.numbered radio.handle (by
    simp [World.view, ← same, found])
  rcases opened.handles.handle radio.handle (by
    simp [World.view, found]) with kept | ⟨later, -⟩
  · simp [World.view, shut] at kept
  · have order := quieter.handles.opened
    omega

theorem configureMode_refused {dual : Bool} {single : RadioConfig}
    {both : DualConfig}
    (valid :
      if dual then validDualConfig both = true
      else openrspdConfigValid single = true)
    (refused : (configureMode environment world dual single both).1.isRefusal = true) :
    configureMode environment world dual single both =
        configureRadio environment world single 3 ∧
      (configureMode environment world dual single both).2.daemon.radio =
        none := by
  cases dual with
  | true =>
      have served :
          (configureDualRadio environment world both).1.isRefusal = false :=
        configureDualRadio_not_refused environment both valid
      exact absurd (refused.symm.trans served) (by decide)
  | false =>
      exact ⟨rfl, configureRadio_refused environment single valid refused⟩

/-- A mode swap that could not resolve the receiver, rolled back. -/
theorem rollBackMode_refusal {reaches : Prop} {after : World}
    {status : Status} (sound : world.view.Sound)
    (engaged : world.daemon.Engaged) (reached : reaches)
    (quieter : world.view.Quieter after.view)
    (shut : after.daemon.radio = none)
    (unstarted : after.daemon.streamThreadStarted = false) :
    RefusalOutcome world reaches (rollBackMode environment world.daemon after status) := by
  simp only [rollBackMode]
  split_ifs with started accepted
  · refine .givenUp ?_ reached
    exact radio_ne_of_reopened sound quieter shut
      ((quieterFrame environment).configureMode after _ _ _)
      (configureMode_isSome environment _ _ _ accepted)
  · exact .released engaged
      (configureMode_closed environment _ _ _ shut accepted)
      (((mayEndFrame environment).configureMode _ _ _ _).started.trans unstarted)
      reached
  · exact .released engaged shut unstarted reached

theorem serveSwapMode_refusal (swap : ModeSwapRequest)
    (sound : world.view.Sound) (running : world.running = true) :
    RefusalOutcome world
      ((Command.swapMode swap).ReachesHardware world.daemon descriptor)
      (serveSwapMode environment world descriptor swap) := by
  have rolledBackStatus (after : World) (status : Status) :
      (rollBackMode environment world.daemon after status).status =
        status := by
    simp only [rollBackMode]
    split_ifs <;> rfl
  simp only [serveSwapMode]
  split_ifs with granted invalid closed accepted
  · exact .untouched fun reaches => by simp [reaches.2.2.1] at invalid
  · refine .answered ?_
    rw [rolledBackStatus]
    rfl
  · exact .answered rfl
  · have target : validModeTarget swap = true := by simpa using invalid
    cases refused : (configureMode environment (stopAndClose environment world).2
          (decide (swap.mode = modeDual)) swap.single
          swap.dual).1.isRefusal with
    | false =>
        refine .answered ?_
        rw [rolledBackStatus]
        exact refused
    | true =>
        have valid :
            if decide (swap.mode = modeDual) then
              validDualConfig swap.dual = true
            else openrspdConfigValid swap.single = true := by
          simp only [validModeTarget] at target
          split_ifs at target with isSingle isDual
          · simpa [isSingle, modeSingle, modeDual] using target
          · simpa [isDual] using target
        obtain ⟨single, shut⟩ := configureMode_refused environment valid refused
        by_cases engaged : world.daemon.Engaged
        · have released := stopAndClose_released environment (by simpa using closed)
          exact rollBackMode_refusal environment sound engaged
            ⟨granted.1, granted.2, target, engaged⟩
            (((quieterFrame environment).stopAndClose world).trans
              ((quieterFrame environment).configureMode _ _ _ _))
            shut
            (((mayEndFrame environment).configureMode _ _ _ _).started.trans released.2)
        · have unstarted : ¬ world.daemon.streamThreadStarted = true :=
            fun started => engaged (.inr started)
          have noHandle : world.daemon.radio = none :=
            Option.not_isSome_iff_eq_none.mp fun isOpen =>
              engaged (.inl isOpen)
          rw [single] at accepted ⊢
          rw [stopAndClose_disengaged environment engaged] at accepted ⊢
          have kept := configureRadio_failed_closed environment swap.single noHandle
              (sound.idle_of_closed running noHandle) accepted
          simp only [rollBackMode, if_neg unstarted]
          exact .kept (configureRadio_ledger environment world _ 3) kept.1
            kept.2 rfl fun reaches => engaged reaches.2.2.2
  · exact serveUnrecognised_refusal descriptor fun reaches =>
      granted ⟨reaches.1, reaches.2.1⟩

/-! ### Updates -/

theorem serveUpdate_refusal (request : UpdateRequest) : RefusalOutcome world
      ((Command.update request).ReachesHardware world.daemon descriptor)
      (serveUpdate environment world descriptor request) := by
  simp only [serveUpdate]
  split_ifs with owner invalid queued failed
  · exact .untouched fun reaches => by simp [reaches.2.1] at invalid
  · exact .answered rfl
  · exact .answered rfl
  · have valid : openrspdConfigValid request.config = true := by
      simpa using invalid
    simp only [not_or, Bool.not_eq_true, Bool.not_eq_false] at queued
    obtain ⟨isOpen, configured, noError⟩ := queued
    cases refused : (stopAndApplyUpdate environment world request).1.isRefusal with
    | false => exact .answered refused
    | true =>
        have notOk := ((Status.isRefusal_iff _).mp refused).1
        revert failed notOk
        simp only [stopAndApplyUpdate]
        split_ifs with restarts stopped
        · simp
        · intro failed notOk
          have same := applyUpdate_refused environment _ request notOk failed
          have started : world.daemon.streamThreadStarted = true := by
            simp only [restartForSampleRate, Bool.and_eq_true] at restarts
            exact restarts.1.1
          have stream := stopStream_stream environment world started
          have unstarted := congrArg StreamState.streamThreadStarted stream
          refine .stopped ?_ rfl
            ⟨owner, valid, Option.isSome_iff_ne_none.mpr isOpen, configured, noError, restarts⟩
          rw [Handled.restartStream_world, Handled.reply_world, same, started, unstarted]
          exact Bool.false_ne_true
        · intro failed notOk
          rw [applyUpdate_refused environment world request notOk failed]
          exact .kept rfl rfl rfl rfl fun reaches =>
            restarts reaches.2.2.2.2.2
  · exact serveUnrecognised_refusal descriptor fun reaches =>
      owner reaches.1

/-! ## Commands of a master or slave -/

theorem serveDuoAcquire_refusal (acquire : DuoAcquireRequest) :
    RefusalOutcome world False (serveDuoAcquire environment world descriptor acquire) := by
  have resolved :
      InventoryOnly world (resolveDuoIdentity environment world acquire).2 := by
    simp only [resolveDuoIdentity]
    split_ifs
    · exact snapshotSdrplayDevices_inventoryOnly environment world
    · exact .refl world
    · exact .refl world
  simp only [serveDuoAcquire]
  split_ifs
  · exact .untouched id
  · exact .untouched id
  · split
    · exact .inventory resolved id
    · simp only [acquireDuoRole]
      split_ifs
      · exact .answered rfl
      · exact .inventory resolved id

theorem serveDuoConfigure_refusal (config : RadioConfig) :
    RefusalOutcome world False (serveDuoConfigure environment world descriptor config) := by
  refine withDuoRole_outcome world descriptor _ (RefusalOutcome world False) (.untouched id) ?_
  intro role _ _ _
  simp only
  split_ifs with refused accepted
  · exact .untouched id
  · exact .answered rfl
  · revert accepted
    simp only [duoApplyRunningConfig]
    split_ifs
    · simp
    · exact fun _ => .untouched id
    · exact fun _ => .answered rfl
    · simp

theorem serveDuoUpdate_refusal (request : UpdateRequest) :
    RefusalOutcome world False (serveDuoUpdate environment world descriptor request) := by
  refine withDuoRole_outcome world descriptor _ (RefusalOutcome world False) (.untouched id) ?_
  intro role _ _ _
  simp only
  split_ifs
  · exact .untouched id
  · exact .untouched id
  · cases refused : (applyUpdate environment world request).1.isRefusal with
    | false => exact .answered refused
    | true =>
        obtain ⟨notOk, notFailed⟩ := (Status.isRefusal_iff _).mp refused
        rw [applyUpdate_refused environment world request notOk notFailed]
        exact .untouched id

theorem duoResetHardware_not_refused (before : World) :
    (duoResetHardware environment before).1.isRefusal = false := by
  simp only [duoResetHardware]
  split <;> rfl

/-- Preparing either succeeds, or leaves the master as it was. -/
theorem startMaster_refusal {marked : World} (event : DuoEvent)
    (shared : marked.daemon.toLedger.SharedSound)
    (rate : SessionRate marked.daemon.duo.sampleRateHz)
    (ledger : (clearMasterInitialised marked.daemon).toLedger = world.daemon.toLedger)
    (receiver : marked.daemon.toReceiver = world.daemon.toReceiver)
    (stream : marked.daemon.toStreamState = world.daemon.toStreamState) :
    RefusalOutcome world False (startMaster environment marked event) := by
  simp only [startMaster]
  rcases duoPrepareConfig_cases shared rate with
    unconfigured | ⟨configured, prepared⟩
  · simp only [unconfigured, ne_eq, Int.reduceNeg, Int.neg_eq_zero,
      one_ne_zero, not_false_eq_true, if_true]
    exact .kept ledger receiver stream rfl id
  · have valid := preparedDuoConfig_valid shared configured rate
    simp only [prepared, ne_eq, not_true_eq_false, if_false]
    split_ifs
    · exact .answered rfl
    · exact .answered (configureDualRadio_not_refused environment _ valid)

theorem serveDuoStart_refusal {clients : List Int} (owned : world.holdings.Sound clients)
    (shared : world.daemon.toLedger.SharedSound) :
    RefusalOutcome world False (serveDuoStart environment world descriptor) := by
  refine withDuoRole_outcome world descriptor _ (RefusalOutcome world False) (.untouched id) ?_
  intro role _ _ found
  simp only
  split_ifs with failed isMaster
  · exact .sameSession
      ((duoTransition_apply world.daemon.duo (.initialise descriptor)).not_granted failed).1 id
  · subst isMaster
    have rate := sessionRate_of_master descriptor owned found
    obtain ⟨waiting, session⟩ :=
      openrspdDuoInitialise_master (duoRoleDescriptor_master found) (not_not.mp failed)
    refine startMaster_refusal environment _ ?_ ?_ ?_ rfl rfl
    · exact ⟨shared.channelA, shared.channelB⟩
    · simpa [session] using rate
    · simp [clearMasterInitialised, session, ← waiting]
  · unfold startSlave
    split_ifs <;> exact .answered rfl

theorem serveDuoStop_refusal :
    RefusalOutcome world False (serveDuoStop environment world descriptor) := by
  refine withDuoRole_outcome world descriptor _ (RefusalOutcome world False) (.untouched id) ?_
  intro role _ _ _
  simp only
  split_ifs with stopped
  · exact .answered (duoResetHardware_not_refused environment _)
  · by_cases granted : (openrspdDuoUninitialise world.daemon.duo descriptor).result = .ok
    · refine .answered ?_
      rw [Handled.notify_status, Handled.reply_status, granted]
      rfl
    · have same :=
        ((duoTransition_apply world.daemon.duo (.uninitialise descriptor)).not_granted granted).1
      simp only [DuoOp.apply] at same
      exact .kept (by simp [same]) rfl rfl rfl id

theorem serveDuoRelease_refusal :
    RefusalOutcome world False (serveDuoRelease environment world descriptor) := by
  refine withDuoRole_outcome world descriptor _ (RefusalOutcome world False) (.untouched id) ?_
  intro role _ _ _
  simp only
  split_ifs with failed
  · exact .sameSession
      ((duoTransition_apply world.daemon.duo (.release descriptor)).not_granted failed).1 id
  · exact .answered (duoResetHardware_not_refused environment _)
  · exact .answered rfl

/-- Once the stream has been stopped a change of rate is not refused. -/
theorem swapRateStopped_not_refused {stopped : World} {rate : UInt32} (wasStreaming : Bool)
    (shared : stopped.daemon.toLedger.SharedSound)
    (configured : stopped.daemon.duoConfigA = true ∨ stopped.daemon.duoConfigB = true)
    (valid : SessionRate rate) :
    (swapRateStopped environment stopped rate wasStreaming).status.isRefusal = false := by
  let swapped : DaemonState :=
    { stopped.daemon with
      duo := { stopped.daemon.duo with sampleRateHz := rate } }
  have sound : swapped.toLedger.SharedSound := ⟨shared.channelA, shared.channelB⟩
  have prepared : duoPrepareConfig swapped = _ :=
    duoPrepareConfig_of_configured sound configured valid
  have dual := preparedDuoConfig_valid sound configured valid
  simp only [swapped] at prepared
  simp only [swapRateStopped, prepared, ne_eq, not_true_eq_false, if_false]
  split_ifs
  · rfl
  · refine configureDualRadio_not_refused environment _ ?_
    rw [congrArg Ledger.duoConfig (duoResetHardware_ledger environment _)]
    exact dual
  · exact duoResetHardware_not_refused environment _

theorem serveDuoSwapRate_refusal {clients : List Int} (owned : world.holdings.Sound clients)
    (shared : world.daemon.toLedger.SharedSound) (rate : UInt32) :
    RefusalOutcome world False (serveDuoSwapRate environment world descriptor rate) := by
  refine withDuoRole_outcome world descriptor _ (RefusalOutcome world False) (.untouched id) ?_
  intro role _ _ found
  split_ifs with notMaster waiting invalid slaveRuns sameRate
  · exact .untouched id
  · exact .untouched id
  · exact .untouched id
  · exact .untouched id
  · exact .untouched id
  · obtain rfl := not_not.mp notMaster
    have valid : SessionRate rate := by
      by_contra neither
      exact invalid (not_or.mp neither)
    have current := sessionRate_of_master descriptor owned found
    simp only [swapRate]
    rcases duoPrepareConfig_cases shared current with
      unconfigured | ⟨configured, prepared⟩
    · simp only [unconfigured, ne_eq, Int.reduceNeg, Int.neg_eq_zero,
        one_ne_zero, not_false_eq_true, if_true]
      exact .kept rfl rfl rfl rfl id
    · have sound := duoPrepareConfig_sharedSound shared current
      simp only [prepared, ne_eq, not_true_eq_false, if_false] at sound ⊢
      have ledger := stopStream_ledger environment
          (world.modify fun _ =>
            { world.daemon with
              duoConfig := preparedDuoConfig world.daemon })
      split_ifs
      · refine .answered (swapRateStopped_not_refused environment _ ?_ ?_ valid)
        · exact sound.of_shared (congrArg Ledger.shared ledger)
        · rw [congrArg Ledger.duoConfigA ledger, congrArg Ledger.duoConfigB ledger]
          exact configured
      · exact .answered rfl

/-! ## Every command -/

theorem dispatch_refusal {clients : List Int} (command : Command)
    (owned : world.holdings.Sound clients)
    (shared : world.daemon.toLedger.SharedSound)
    (sound : world.view.Sound) (running : world.running = true) :
    RefusalOutcome world (command.ReachesHardware world.daemon descriptor)
      (dispatch environment world descriptor command) := by
  cases command with
  | ping => exact .answered rfl
  | unknown => exact serveUnrecognised_refusal descriptor id
  | list => exact .answered rfl
  | lockApi =>
      simp only [dispatch, serveLockApi]
      split
      · exact .untouched id
      · exact .answered rfl
  | unlockApi =>
      simp only [dispatch, serveUnlockApi]
      split
      · exact .answered rfl
      · exact serveUnrecognised_refusal descriptor id
  | duoAcquire acquire =>
      exact serveDuoAcquire_refusal environment descriptor acquire
  | duoConfigure config =>
      exact serveDuoConfigure_refusal environment descriptor config
  | duoStart =>
      exact serveDuoStart_refusal environment descriptor owned shared
  | duoStop => exact serveDuoStop_refusal environment descriptor
  | duoRelease => exact serveDuoRelease_refusal environment descriptor
  | duoSwapRate rate =>
      exact serveDuoSwapRate_refusal environment descriptor owned shared rate
  | duoUpdate request =>
      exact serveDuoUpdate_refusal environment descriptor request
  | acquire acquire =>
      exact serveAcquire_refusal environment descriptor acquire
  | start =>
      simp only [dispatch, serveStart]
      split
      · exact .answered rfl
      · exact serveUnrecognised_refusal descriptor id
  | stop =>
      simp only [dispatch, serveStop]
      split_ifs
      · exact .answered rfl
      · exact .answered rfl
      · exact serveUnrecognised_refusal descriptor id
  | release =>
      simp only [dispatch, serveRelease]
      split
      · exact .answered rfl
      · exact serveUnrecognised_refusal descriptor id
  | configure config =>
      exact serveConfigure_refusal environment descriptor config sound running
  | configureDual config =>
      exact serveConfigureDual_refusal environment descriptor config
  | swapTuner swap =>
      exact serveSwapTuner_refusal environment descriptor swap sound running
  | swapMode swap =>
      exact serveSwapMode_refusal environment descriptor swap sound running
  | resumeMode =>
      simp only [dispatch, serveResumeMode]
      split
      · exact .answered rfl
      · exact serveUnrecognised_refusal descriptor id
  | update request =>
      exact serveUpdate_refusal environment descriptor request

end Outcomes

/-! ## Every reachable state -/

/-- The response to what was read, when there is one: a header that is not
of the protocol is refused at once. -/
def answer (environment : Environment) (world : World) (descriptor : Int) :
    Incoming → Option Handled
  | .closed | .unreadable => none
  | .badHeader _ => some (.reply world .badRequest)
  | .request _ command =>
      some (dispatch environment world descriptor command)

/-- Whether what was read is a request that acts on the hardware before it
can be refused. -/
def Incoming.ReachesHardware (daemon : DaemonState) (descriptor : Int) :
    Incoming → Prop
  | .request _ command => command.ReachesHardware daemon descriptor
  | _ => False

/-- In every state the main loop reaches, a refused request changes nothing,
exactly unless it reaches the hardware. -/
theorem refused_request_unchanged_unless_reaches_hardware
    (environment : Environment) (steps : List Step) (slot : Nat)
    (incoming : Incoming) (handled : Handled) :
    let server :=
      runSteps (Server.step environment) Server.initial steps
    let world := server.world
    let descriptor := server.clients.getD slot invalidSocket
    let served := serveRequest environment world descriptor incoming
    world.running = true → answer environment world descriptor incoming = some handled →
        handled.status.isRefusal = true → (world.daemon.Unchanged served.2.daemon ↔
            ¬ incoming.ReachesHardware world.daemon descriptor) := by
  intro server world descriptor served running answered refused
  cases incoming with
  | closed => simp [answer] at answered
  | unreadable => simp [answer] at answered
  | badHeader sequence =>
      obtain rfl := Option.some.inj answered
      exact RefusalOutcome.unchanged_iff environment (.untouched id) refused
  | request sequence command =>
      obtain rfl := Option.some.inj answered
      exact (dispatch_refusal environment descriptor command
        (sound_run environment steps) (sharedSound_run environment steps)
        (viewSound_run environment steps) running).unchanged_iff environment refused

/-- A second client asks for a receiver that streams to the first. -/
theorem busy_acquire_unchanged :
    let server :=
      runSteps (Server.step oneReceiver) Server.initial (streamingSteps ++ [.accept 6])
    let descriptor := server.clients.getD 1 invalidSocket
    descriptor = 6 ∧
      (dispatch oneReceiver server.world descriptor (.acquire receiverIdentity)).status = .busy ∧
      server.world.daemon.Unchanged
        (serveRequest oneReceiver server.world descriptor
          (.request 4 (.acquire receiverIdentity))).2.daemon := by
  intro server descriptor
  refine ⟨by decide, by decide, ?_⟩
  have refused := refused_request_unchanged_unless_reaches_hardware oneReceiver
      (streamingSteps ++ [.accept 6]) 1
      (.request 4 (.acquire receiverIdentity)) _ (by decide) rfl (by decide)
  exact refused.mpr fun reaches => reaches

/-- Without any hardware fault: the update is refused, and the stream thread
has been stopped for it. -/
theorem refused_update_stops_stream :
    let server :=
      runSteps (Server.step oneReceiver) Server.initial streamingSteps
    let served :=
      serveRequest oneReceiver server.world 5 (.request 4 (.update rateForOtherTuner))
    served.1 = 1 ∧
      (dispatch oneReceiver server.world 5 (.update rateForOtherTuner)).status = .badRequest ∧
      server.world.daemon.streamThreadStarted = true ∧
      served.2.daemon.streamThreadStarted = false ∧
      ¬ server.world.daemon.Unchanged served.2.daemon := by
  refine ⟨by decide, by decide, by decide, by decide, fun same => ?_⟩
  exact absurd (congrArg StreamState.streamThreadStarted same.stream) (by decide)

end OpenRsp
