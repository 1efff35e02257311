import OpenRsp.DuoSession
import OpenRsp.Library.Runs

/-!
# The session invariant and routing

`DuoTransition` lists what a session operation can do: refuse, or take one of
ten transitions, each with the guard under which the code takes it.  Every
sequence of operations keeps the nine fields of a session consistent, and the
routing facts follow from that.  That a disconnected descriptor is never
routed again before it has acquired a role needs the history of the run,
which `DuoHistory` records.
-/

namespace OpenRsp

open Runs

/-- The five operations on a session. -/
inductive DuoOp where
  | acquire
      (descriptor : Int) (role : DuoRole) (tuner sampleRateHz : UInt32)
  | initialise (descriptor : Int)
  | uninitialise (descriptor : Int)
  | release (descriptor : Int)
  | disconnect (descriptor : Int)
deriving DecidableEq, Repr

/-- Call an operation on a session. -/
def DuoOp.apply (session : DuoSession) : DuoOp → DuoReturn
  | .acquire descriptor role tuner sampleRateHz =>
      openrspdDuoAcquire session descriptor role tuner sampleRateHz
  | .initialise descriptor => openrspdDuoInitialise session descriptor
  | .uninitialise descriptor => openrspdDuoUninitialise session descriptor
  | .release descriptor => openrspdDuoRelease session descriptor
  | .disconnect descriptor => openrspdDuoDisconnect session descriptor

/-! ## Transitions -/

/-- What an operation can return, with the guard of each transition. -/
inductive DuoTransition (session : DuoSession) : DuoOp → DuoReturn → Prop
  | refused (op : DuoOp) (result : DuoResult) :
      result ≠ .ok →
      (∀ descriptor, op = .disconnect descriptor → descriptor < 0) →
      DuoTransition session op (.refuse result session)
  | reacquired
      (descriptor : Int) (role : DuoRole) (tuner rate : UInt32) :
      descriptorIsMaster session descriptor = true ∨ descriptorIsSlave session descriptor = true →
      DuoTransition session (.acquire descriptor role tuner rate) (.refuse .ok session)
  | strangerDisconnected (descriptor : Int) :
      descriptorIsMaster session descriptor = false →
      descriptorIsSlave session descriptor = false →
      DuoTransition session (.disconnect descriptor) (.refuse .ok session)
  | masterAcquired (descriptor : Int) (tuner rate : UInt32) :
      0 ≤ descriptor → (tuner = tunerA ∨ tuner = tunerB) →
      (rate = 6000000 ∨ rate = 8000000) →
      session.masterSelected = false → session.slaveSelected = false →
      DuoTransition session (.acquire descriptor .master tuner rate)
        ⟨.ok,
          { session with
            masterFd := descriptor
            masterTuner := tuner
            sampleRateHz := rate
            masterSelected := true
            masterInitialised := false },
          clearEvent⟩
  | slaveAttached (descriptor : Int) (tuner rate : UInt32) :
      0 ≤ descriptor → (tuner = tunerA ∨ tuner = tunerB) →
      session.masterSelected = true → session.slaveSelected = false →
      session.masterFd ≠ descriptor → tuner ≠ session.masterTuner →
      DuoTransition session (.acquire descriptor .slave tuner rate)
        ⟨.ok,
          { session with
            slaveFd := descriptor
            slaveTuner := tuner
            slaveSelected := true
            slaveInitialised := false },
          emitEvent .slaveAttached session.masterFd descriptor tuner⟩
  | masterInitialised (descriptor : Int) :
      descriptorIsMaster session descriptor = true →
      session.masterInitialised = false →
      DuoTransition session (.initialise descriptor)
        ⟨.ok, { session with masterInitialised := true },
          if session.slaveSelected then
            emitEvent .masterInitialised session.slaveFd descriptor session.slaveTuner
          else
            clearEvent⟩
  | slaveInitialised (descriptor : Int) :
      descriptorIsSlave session descriptor = true →
      session.slaveInitialised = false →
      session.masterInitialised = true →
      DuoTransition session (.initialise descriptor)
        ⟨.ok, { session with slaveInitialised := true },
          emitEvent .slaveInitialised session.masterFd descriptor session.slaveTuner⟩
  | masterUninitialised (descriptor : Int) :
      descriptorIsMaster session descriptor = true →
      session.masterInitialised = true →
      session.slaveInitialised = false →
      DuoTransition session (.uninitialise descriptor)
        ⟨.ok, { session with masterInitialised := false }, clearEvent⟩
  | slaveUninitialised (descriptor : Int) :
      descriptorIsSlave session descriptor = true →
      session.slaveInitialised = true →
      DuoTransition session (.uninitialise descriptor)
        ⟨.ok, { session with slaveInitialised := false },
          emitEvent .slaveUninitialised session.masterFd descriptor session.slaveTuner⟩
  | masterReleased (descriptor : Int) :
      descriptorIsMaster session descriptor = true →
      session.masterInitialised = false →
      session.slaveSelected = false →
      DuoTransition session (.release descriptor) ⟨.ok, openrspdDuoSessionInit, clearEvent⟩
  | slaveDetached (descriptor : Int) :
      descriptorIsSlave session descriptor = true →
      session.slaveInitialised = false →
      DuoTransition session (.release descriptor)
        ⟨.ok, session.withoutSlave,
          emitEvent .slaveDetached session.masterFd descriptor session.slaveTuner⟩
  | slaveDisappeared (descriptor : Int) :
      descriptorIsSlave session descriptor = true →
      DuoTransition session (.disconnect descriptor)
        ⟨.ok, session.withoutSlave,
          emitEvent .slaveDllDisappeared session.masterFd descriptor session.slaveTuner⟩
  | masterDisappeared (descriptor : Int) :
      descriptorIsMaster session descriptor = true →
      DuoTransition session (.disconnect descriptor)
        ⟨.ok, openrspdDuoSessionInit,
          if session.slaveSelected then
            emitEvent .masterDllDisappeared session.slaveFd descriptor session.slaveTuner
          else
            clearEvent⟩

private theorem acquireMaster_transition
    (session : DuoSession) (descriptor : Int) (tuner rate : UInt32)
    (descriptorValid : 0 ≤ descriptor)
    (tunerValid : tuner = tunerA ∨ tuner = tunerB) :
    DuoTransition session (.acquire descriptor .master tuner rate)
      (acquireMaster session descriptor tuner rate) := by
  unfold acquireMaster
  split_ifs with badRate selected same occupied
  · exact .refused _ _ (by simp) (by simp)
  · exact .reacquired _ _ _ _ (Or.inl (by
      simp [descriptorIsMaster, selected, same.1]))
  · exact .refused _ _ (by simp) (by simp)
  · exact .refused _ _ (by simp) (by simp)
  · have rateValid : rate = 6000000 ∨ rate = 8000000 := by
      simpa [validRate, or_iff_not_imp_left] using badRate
    exact .masterAcquired _ _ _ descriptorValid tunerValid rateValid
      (by simpa using selected)
      (by simpa using fun slave => occupied (Or.inl slave))

private theorem acquireSlave_transition
    (session : DuoSession) (descriptor : Int) (tuner rate : UInt32)
    (descriptorValid : 0 ≤ descriptor)
    (tunerValid : tuner = tunerA ∨ tuner = tunerB) :
    DuoTransition session (.acquire descriptor .slave tuner rate)
      (acquireSlave session descriptor tuner rate) := by
  unfold acquireSlave
  split_ifs with unavailable sameTuner selected same
  · exact .refused _ _ (by simp) (by simp)
  · exact .refused _ _ (by simp) (by simp)
  · exact .reacquired _ _ _ _ (Or.inr (by
      simp [descriptorIsSlave, selected, same.1]))
  · exact .refused _ _ (by simp) (by simp)
  · simp only [not_or] at unavailable
    exact .slaveAttached _ _ _ descriptorValid tunerValid
      (by simpa using unavailable.1) (by simpa using selected)
      unavailable.2.1 sameTuner

/-- Every call of an operation takes one of the listed transitions. -/
theorem duoTransition_apply (session : DuoSession) (op : DuoOp) :
    DuoTransition session op (op.apply session) := by
  cases op with
  | acquire descriptor role tuner rate =>
      simp only [DuoOp.apply, openrspdDuoAcquire]
      split_ifs with malformed isMaster
      · exact .refused _ _ (by simp) (by simp)
      all_goals
        simp only [not_or, validDescriptor, validTuner,
          decide_eq_false_iff_not, not_not, Bool.or_eq_false_iff,
          beq_eq_false_iff_ne, not_and_or] at malformed
      · subst isMaster
        exact acquireMaster_transition _ _ _ _ malformed.1 malformed.2.2
      · have isSlave : role = .slave := by
          cases role <;> simp_all
        subst isSlave
        exact acquireSlave_transition _ _ _ _ malformed.1 malformed.2.2
  | initialise descriptor =>
      simp only [DuoOp.apply, openrspdDuoInitialise]
      split_ifs with badDescriptor isMaster initialised selected isSlave
        slaveInitialised masterWaiting
      all_goals first
        | exact .refused _ _ (by simp) (by simp)
        | skip
      · simpa [selected] using
          DuoTransition.masterInitialised descriptor isMaster (by simpa using initialised)
      · simpa [selected] using
          DuoTransition.masterInitialised descriptor isMaster (by simpa using initialised)
      · exact .slaveInitialised _ (by simpa using isSlave)
          (by simpa using slaveInitialised) (by simpa using masterWaiting)
  | uninitialise descriptor =>
      simp only [DuoOp.apply, openrspdDuoUninitialise]
      split_ifs with badDescriptor isMaster waiting slaveInitialised notSlave
      all_goals first
        | exact .refused _ _ (by simp) (by simp)
        | skip
      · exact .masterUninitialised _ isMaster (by simpa using waiting)
          (by simpa using slaveInitialised)
      · simp only [not_or] at notSlave
        exact .slaveUninitialised _ (by simpa using notSlave.1) (by simpa using notSlave.2)
  | release descriptor =>
      simp only [DuoOp.apply, openrspdDuoRelease]
      split_ifs with badDescriptor isMaster initialised selected notSlave slaveInitialised
      all_goals first
        | exact .refused _ _ (by simp) (by simp)
        | skip
      · exact .masterReleased _ isMaster (by simpa using initialised) (by simpa using selected)
      · exact .slaveDetached _ (by simpa using notSlave) (by simpa using slaveInitialised)
  | disconnect descriptor =>
      simp only [DuoOp.apply, openrspdDuoDisconnect]
      split_ifs with badDescriptor isSlave isMaster selected
      · refine .refused _ _ (by simp) ?_
        intro other same
        cases same
        simpa [validDescriptor] using badDescriptor
      · exact .slaveDisappeared _ isSlave
      · simpa [selected] using DuoTransition.masterDisappeared descriptor isMaster
      · simpa [selected] using DuoTransition.masterDisappeared descriptor isMaster
      · exact .strangerDisconnected _ (by simpa using isMaster) (by simpa using isSlave)

/-- An operation that is not granted leaves the session as it was and emits
nothing. -/
theorem DuoTransition.not_granted
    {session : DuoSession} {op : DuoOp} {returned : DuoReturn}
    (transition : DuoTransition session op returned)
    (refused : returned.result ≠ .ok) :
    returned.session = session ∧ returned.event = clearEvent := by
  cases transition <;> first | exact ⟨rfl, rfl⟩ | exact absurd rfl refused

/-! ## The invariant -/

/-- The relation between the nine fields of a reachable session. -/
structure DuoSession.WellFormed (session : DuoSession) : Prop where
  masterFdValid : session.masterSelected = true → 0 ≤ session.masterFd
  masterTunerValid :
    session.masterSelected = true → session.masterTuner = tunerA ∨ session.masterTuner = tunerB
  masterRate :
    session.masterSelected = true → session.sampleRateHz = 6000000 ∨ session.sampleRateHz = 8000000
  slaveHasMaster : session.slaveSelected = true → session.masterSelected = true
  slaveFdValid : session.slaveSelected = true → 0 ≤ session.slaveFd
  slaveFdDiffers : session.slaveSelected = true → session.slaveFd ≠ session.masterFd
  slaveTunerValid :
    session.slaveSelected = true → session.slaveTuner = tunerA ∨ session.slaveTuner = tunerB
  slaveTunerDiffers : session.slaveSelected = true → session.slaveTuner ≠ session.masterTuner
  slaveInitialisedNeedsMaster : session.slaveInitialised = true → session.masterInitialised = true
  masterCleared : session.masterSelected = false → session.masterFd = -1 ∧ session.masterTuner = 0 ∧
        session.sampleRateHz = 0 ∧ session.masterInitialised = false
  slaveCleared : session.slaveSelected = false →
      session.slaveFd = -1 ∧ session.slaveTuner = 0 ∧ session.slaveInitialised = false

theorem wellFormed_sessionInit : openrspdDuoSessionInit.WellFormed := by
  constructor <;> simp [openrspdDuoSessionInit]

theorem DuoSession.WellFormed.withoutSlave
    {session : DuoSession} (wellFormed : session.WellFormed) :
    session.withoutSlave.WellFormed :=
  { wellFormed with
    slaveHasMaster := by simp [DuoSession.withoutSlave]
    slaveFdValid := by simp [DuoSession.withoutSlave]
    slaveFdDiffers := by simp [DuoSession.withoutSlave]
    slaveTunerValid := by simp [DuoSession.withoutSlave]
    slaveTunerDiffers := by simp [DuoSession.withoutSlave]
    slaveInitialisedNeedsMaster := by simp [DuoSession.withoutSlave]
    slaveCleared := by simp [DuoSession.withoutSlave] }

theorem selected_of_descriptorIsMaster
    {session : DuoSession} {descriptor : Int}
    (isMaster : descriptorIsMaster session descriptor = true) :
    session.masterSelected = true ∧ session.masterFd = descriptor := by
  simpa [descriptorIsMaster] using isMaster

theorem selected_of_descriptorIsSlave
    {session : DuoSession} {descriptor : Int}
    (isSlave : descriptorIsSlave session descriptor = true) :
    session.slaveSelected = true ∧ session.slaveFd = descriptor := by
  simpa [descriptorIsSlave] using isSlave

theorem DuoTransition.wellFormed
    {session : DuoSession} {op : DuoOp} {returned : DuoReturn}
    (transition : DuoTransition session op returned)
    (wellFormed : session.WellFormed) :
    returned.session.WellFormed := by
  cases transition with
  | refused => exact wellFormed
  | reacquired => exact wellFormed
  | strangerDisconnected => exact wellFormed
  | masterAcquired descriptor tuner rate descriptorValid tunerValid
      rateValid noMaster noSlave =>
      have slaveClear := wellFormed.slaveCleared noSlave
      constructor <;> simp_all
  | slaveAttached descriptor tuner rate descriptorValid tunerValid
      hasMaster noSlave otherFd otherTuner =>
      exact
        { wellFormed with
          slaveHasMaster := fun _ => hasMaster
          slaveFdValid := fun _ => descriptorValid
          slaveFdDiffers := fun _ => Ne.symm otherFd
          slaveTunerValid := fun _ => tunerValid
          slaveTunerDiffers := fun _ => otherTuner
          slaveInitialisedNeedsMaster := by simp
          slaveCleared := by simp }
  | masterInitialised descriptor isMaster =>
      have selected := (selected_of_descriptorIsMaster isMaster).1
      exact
        { wellFormed with
          slaveInitialisedNeedsMaster := fun _ => rfl
          masterCleared := by simp [selected] }
  | slaveInitialised descriptor isSlave _ masterReady =>
      have selected := (selected_of_descriptorIsSlave isSlave).1
      exact
        { wellFormed with
          slaveInitialisedNeedsMaster := fun _ => masterReady
          slaveCleared := by simp [selected] }
  | masterUninitialised descriptor isMaster _ slaveWaiting =>
      have selected := (selected_of_descriptorIsMaster isMaster).1
      exact
        { wellFormed with
          slaveInitialisedNeedsMaster := by simp [slaveWaiting]
          masterCleared := by simp [selected] }
  | slaveUninitialised descriptor isSlave =>
      have selected := (selected_of_descriptorIsSlave isSlave).1
      exact
        { wellFormed with
          slaveInitialisedNeedsMaster := by simp
          slaveCleared := by simp [selected] }
  | masterReleased => exact wellFormed_sessionInit
  | slaveDetached => exact wellFormed.withoutSlave
  | slaveDisappeared => exact wellFormed.withoutSlave
  | masterDisappeared => exact wellFormed_sessionInit

/-! ## Histories -/

/-- A session together with the descriptors that have disconnected and have
not been granted a role since. -/
structure DuoHistory where
  session : DuoSession
  disconnected : List Int
deriving DecidableEq, Repr

def DuoHistory.initial : DuoHistory := ⟨openrspdDuoSessionInit, []⟩

/-- The disconnected descriptors after a call that returned `result`. -/
def recordDisconnect (disconnected : List Int) (result : DuoResult) : DuoOp → List Int
  | .acquire descriptor _ _ _ =>
      if result = .ok then disconnected.filter (· ≠ descriptor)
      else disconnected
  | .disconnect descriptor => descriptor :: disconnected
  | _ => disconnected

def DuoHistory.step (history : DuoHistory) (op : DuoOp) : DuoHistory :=
  let returned := op.apply history.session
  ⟨returned.session, recordDisconnect history.disconnected returned.result op⟩

/-- No selected role is held by a descriptor that has disconnected. -/
def DuoHistory.Live (history : DuoHistory) : Prop :=
  ∀ descriptor ∈ history.disconnected, descriptorIsMaster history.session descriptor = false ∧
      descriptorIsSlave history.session descriptor = false

structure DuoHistory.Consistent (history : DuoHistory) : Prop where
  wellFormed : history.session.WellFormed
  live : history.Live

@[simp]
theorem descriptorIsMaster_sessionInit (descriptor : Int) :
    descriptorIsMaster openrspdDuoSessionInit descriptor = false := by
  simp [descriptorIsMaster, openrspdDuoSessionInit]

@[simp]
theorem descriptorIsSlave_sessionInit (descriptor : Int) :
    descriptorIsSlave openrspdDuoSessionInit descriptor = false := by
  simp [descriptorIsSlave, openrspdDuoSessionInit]

@[simp]
theorem descriptorIsMaster_withoutSlave (session : DuoSession) (descriptor : Int) :
    descriptorIsMaster session.withoutSlave descriptor =
      descriptorIsMaster session descriptor :=
  rfl

@[simp]
theorem descriptorIsSlave_withoutSlave (session : DuoSession) (descriptor : Int) :
    descriptorIsSlave session.withoutSlave descriptor = false := by
  simp [descriptorIsSlave, DuoSession.withoutSlave]

/-- The two roles of a well-formed session have different holders. -/
theorem DuoSession.WellFormed.slave_not_master
    {session : DuoSession} (wellFormed : session.WellFormed)
    {descriptor : Int}
    (isSlave : descriptorIsSlave session descriptor = true) :
    descriptorIsMaster session descriptor = false := by
  obtain ⟨selected, rfl⟩ := selected_of_descriptorIsSlave isSlave
  simp [descriptorIsMaster, Ne.symm (wellFormed.slaveFdDiffers selected)]

/-- A negative descriptor never holds a role. -/
theorem DuoSession.WellFormed.no_role_of_neg
    {session : DuoSession} (wellFormed : session.WellFormed)
    {descriptor : Int} (negative : descriptor < 0) :
    descriptorIsMaster session descriptor = false ∧
      descriptorIsSlave session descriptor = false := by
  constructor
  · by_contra isMaster
    obtain ⟨selected, rfl⟩ := selected_of_descriptorIsMaster (by simpa using isMaster)
    exact absurd (wellFormed.masterFdValid selected) (by omega)
  · by_contra isSlave
    obtain ⟨selected, rfl⟩ := selected_of_descriptorIsSlave (by simpa using isSlave)
    exact absurd (wellFormed.slaveFdValid selected) (by omega)

theorem DuoTransition.live
    {session : DuoSession} {op : DuoOp} {returned : DuoReturn}
    {disconnected : List Int}
    (transition : DuoTransition session op returned)
    (wellFormed : session.WellFormed)
    (live : DuoHistory.Live ⟨session, disconnected⟩) :
    DuoHistory.Live ⟨returned.session, recordDisconnect disconnected returned.result op⟩ := by
  intro tested member
  cases transition with
  | refused op result failed negative =>
      cases op with
      | disconnect descriptor =>
          rcases List.mem_cons.mp member with rfl | earlier
          · exact wellFormed.no_role_of_neg (negative _ rfl)
          · exact live tested earlier
      | acquire descriptor role tuner rate =>
          simp only [recordDisconnect, DuoReturn.refuse, failed, if_false] at member
          exact live tested member
      | initialise => exact live tested member
      | uninitialise => exact live tested member
      | release => exact live tested member
  | reacquired descriptor =>
      exact live tested (List.mem_of_mem_filter member)
  | strangerDisconnected descriptor noMaster noSlave =>
      rcases List.mem_cons.mp member with rfl | earlier
      · exact ⟨noMaster, noSlave⟩
      · exact live tested earlier
  | masterAcquired descriptor tuner rate _ _ _ _ noSlave =>
      simp only [recordDisconnect, if_true, List.mem_filter, decide_eq_true_eq] at member
      simp [descriptorIsMaster, descriptorIsSlave, noSlave, Ne.symm member.2]
  | slaveAttached descriptor tuner rate _ _ hasMaster noSlave =>
      simp only [recordDisconnect, if_true, List.mem_filter, decide_eq_true_eq] at member
      have notMaster := (live tested member.1).1
      simp only [descriptorIsMaster] at notMaster
      simp [descriptorIsMaster, descriptorIsSlave, notMaster, Ne.symm member.2]
  | masterInitialised => exact live tested member
  | slaveInitialised => exact live tested member
  | masterUninitialised => exact live tested member
  | slaveUninitialised => exact live tested member
  | masterReleased => simp
  | slaveDetached =>
      have earlier := live tested member
      simpa using earlier.1
  | slaveDisappeared descriptor isSlave =>
      rcases List.mem_cons.mp member with rfl | earlier
      · simpa using wellFormed.slave_not_master isSlave
      · simpa using (live tested earlier).1
  | masterDisappeared => simp

theorem DuoHistory.Consistent.step (history : DuoHistory) (op : DuoOp)
    (consistent : history.Consistent) :
    (history.step op).Consistent :=
  have transition := duoTransition_apply history.session op
  { wellFormed := transition.wellFormed consistent.wellFormed
    live := transition.live consistent.wellFormed consistent.live }

theorem consistent_run (ops : List DuoOp) :
    (runSteps DuoHistory.step DuoHistory.initial ops).Consistent :=
  invariant_of_steps DuoHistory.Consistent.step ops
    { wellFormed := wellFormed_sessionInit
      live := by simp [DuoHistory.Live, DuoHistory.initial] }

/-! ## Routing -/

/-- A routed tuner goes to the initialised role that owns it. -/
theorem openrspdDuoRoute_owner
    {session : DuoSession} {tuner : UInt32} {descriptor : Int}
    (routed : openrspdDuoRoute session tuner = (1, descriptor)) :
    (session.masterSelected = true ∧ session.masterInitialised = true ∧
        session.masterTuner = tuner ∧ session.masterFd = descriptor) ∨
      (session.slaveSelected = true ∧ session.slaveInitialised = true ∧
        session.slaveTuner = tuner ∧ session.slaveFd = descriptor) := by
  unfold openrspdDuoRoute at routed
  split_ifs at routed with invalid master slave <;>
    simp_all

/-- An initialised master receives its own tuner. -/
theorem DuoSession.WellFormed.route_master
    {session : DuoSession} (wellFormed : session.WellFormed)
    (selected : session.masterSelected = true)
    (initialised : session.masterInitialised = true) :
    openrspdDuoRoute session session.masterTuner = (1, session.masterFd) := by
  have tunerValid : validTuner session.masterTuner = true := by
    simpa [validTuner] using wellFormed.masterTunerValid selected
  simp [openrspdDuoRoute, tunerValid, selected, initialised, wellFormed.masterFdValid selected]

/-- What `send_stream` relies on when it asks for the receiver of a lane. -/
structure DuoHistory.RoutesSoundly (history : DuoHistory) : Prop where
  oneTunerEach : ∀ descriptor, ¬ (openrspdDuoRoute history.session tunerA = (1, descriptor) ∧
        openrspdDuoRoute history.session tunerB = (1, descriptor))
  toOwner : ∀ tuner descriptor, openrspdDuoRoute history.session tuner = (1, descriptor) →
        (history.session.masterSelected = true ∧
            history.session.masterInitialised = true ∧
            history.session.masterTuner = tuner ∧
            history.session.masterFd = descriptor) ∨
          (history.session.slaveSelected = true ∧
            history.session.slaveInitialised = true ∧
            history.session.slaveTuner = tuner ∧
            history.session.slaveFd = descriptor)
  slaveWithMaster : history.session.slaveSelected = true →
      (openrspdDuoRoute history.session history.session.slaveTuner).1 = 1 →
        openrspdDuoRoute history.session history.session.masterTuner = (1, history.session.masterFd)
  notDisconnected : ∀ tuner descriptor,
      openrspdDuoRoute history.session tuner = (1, descriptor) → descriptor ∉ history.disconnected
  unroutedIsInvalid : ∀ tuner, (openrspdDuoRoute history.session tuner).1 ≠ 1 →
        (openrspdDuoRoute history.session tuner).2 = -1

private theorem route_oneTunerEach
    {session : DuoSession} (wellFormed : session.WellFormed)
    (descriptor : Int) :
    ¬ (openrspdDuoRoute session tunerA = (1, descriptor) ∧
      openrspdDuoRoute session tunerB = (1, descriptor)) := by
  rintro ⟨routedA, routedB⟩
  have tunersDiffer : tunerA ≠ tunerB := by decide
  rcases openrspdDuoRoute_owner routedA with masterA | slaveA <;>
    rcases openrspdDuoRoute_owner routedB with masterB | slaveB
  · exact tunersDiffer (masterA.2.2.1.symm.trans masterB.2.2.1)
  · exact wellFormed.slaveFdDiffers slaveB.1 (slaveB.2.2.2.trans masterA.2.2.2.symm)
  · exact wellFormed.slaveFdDiffers slaveA.1 (slaveA.2.2.2.trans masterB.2.2.2.symm)
  · exact tunersDiffer (slaveA.2.2.1.symm.trans slaveB.2.2.1)

private theorem route_slaveWithMaster
    {session : DuoSession} (wellFormed : session.WellFormed)
    (selected : session.slaveSelected = true)
    (routed : (openrspdDuoRoute session session.slaveTuner).1 = 1) :
    openrspdDuoRoute session session.masterTuner = (1, session.masterFd) := by
  have masterSelected := wellFormed.slaveHasMaster selected
  have delivered : openrspdDuoRoute session session.slaveTuner =
        (1, (openrspdDuoRoute session session.slaveTuner).2) :=
    Prod.ext routed rfl
  have owner := openrspdDuoRoute_owner delivered
  rcases owner with ⟨_, initialised, _⟩ | ⟨_, slaveInitialised, _⟩
  · exact wellFormed.route_master masterSelected initialised
  · exact wellFormed.route_master masterSelected
      (wellFormed.slaveInitialisedNeedsMaster slaveInitialised)

private theorem route_unrouted
    {session : DuoSession} (wellFormed : session.WellFormed)
    (tuner : UInt32)
    (unrouted : (openrspdDuoRoute session tuner).1 ≠ 1) :
    (openrspdDuoRoute session tuner).2 = -1 := by
  unfold openrspdDuoRoute at unrouted ⊢
  split_ifs at unrouted ⊢ with invalid master negative slave negative
  · rfl
  · simp at unrouted
  · simp only [Bool.and_eq_true] at master
    exact absurd (wellFormed.masterFdValid master.1.1) negative
  · simp at unrouted
  · simp only [Bool.and_eq_true] at slave
    exact absurd (wellFormed.slaveFdValid slave.1.1) negative
  · rfl

theorem DuoHistory.Consistent.routesSoundly
    {history : DuoHistory} (consistent : history.Consistent) :
    history.RoutesSoundly where
  oneTunerEach := route_oneTunerEach consistent.wellFormed
  toOwner := fun _ _ => openrspdDuoRoute_owner
  slaveWithMaster := route_slaveWithMaster consistent.wellFormed
  notDisconnected := by
    intro tuner descriptor routed member
    have roles := consistent.live descriptor member
    rcases openrspdDuoRoute_owner routed with master | slave
    · simp [descriptorIsMaster, master.1, master.2.2.2] at roles
    · simp [descriptorIsSlave, slave.1, slave.2.2.2] at roles
  unroutedIsInvalid := route_unrouted consistent.wellFormed

/-- Every sequence of session operations, by any descriptors and with any
arguments, leaves a well-formed session that routes soundly. -/
theorem duo_session_wellFormed_and_routesSoundly (ops : List DuoOp) :
    (runSteps DuoHistory.step DuoHistory.initial ops).session.WellFormed ∧
      (runSteps DuoHistory.step DuoHistory.initial ops).RoutesSoundly :=
  have consistent := consistent_run ops
  ⟨consistent.wellFormed, consistent.routesSoundly⟩

end OpenRsp
