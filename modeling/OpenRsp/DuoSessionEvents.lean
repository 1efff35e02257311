import OpenRsp.DuoSessionInvariant

/-!
# The events of a session

Every operation writes at most one event.  `DuoLog` keeps the events emitted
since the current master was acquired.  Those addressed to the master tell it
exactly what the session knows of the slave: whether one is selected and
whether it is initialised.
-/

namespace OpenRsp

open Runs

/-- The caller of an operation. -/
def DuoOp.descriptor : DuoOp → Int
  | .acquire descriptor _ _ _ => descriptor
  | .initialise descriptor => descriptor
  | .uninitialise descriptor => descriptor
  | .release descriptor => descriptor
  | .disconnect descriptor => descriptor

/-- The events an operation emitted: one, unless the kind is `none`. -/
def DuoReturn.emitted (returned : DuoReturn) : List DuoEvent :=
  if returned.event.kind = .none then [] else [returned.event]

/-! ## What a master knows -/

/-- What the master has been told about the slave. -/
structure SlaveFlags where
  selected : Bool
  initialised : Bool
deriving DecidableEq, Repr

/-- Before any event there is no slave. -/
def SlaveFlags.absent : SlaveFlags := ⟨false, false⟩

/-- What the master learns from one event. -/
def SlaveFlags.learn (flags : SlaveFlags) (event : DuoEvent) : SlaveFlags :=
  match event.kind with
  | .slaveAttached => ⟨true, false⟩
  | .slaveInitialised => { flags with initialised := true }
  | .slaveUninitialised => { flags with initialised := false }
  | .slaveDetached => .absent
  | .slaveDllDisappeared => .absent
  | _ => flags

/-- What the events addressed to a descriptor tell it, oldest first. -/
def slaveFlagsOf (descriptor : Int) (events : List DuoEvent) : SlaveFlags :=
  (events.filter (·.targetFd = descriptor)).foldl SlaveFlags.learn .absent

/-- What the session holds about the slave. -/
def DuoSession.slaveFlags (session : DuoSession) : SlaveFlags :=
  ⟨session.slaveSelected, session.slaveInitialised⟩

@[simp]
theorem slaveFlagsOf_nil (descriptor : Int) : slaveFlagsOf descriptor [] = .absent := rfl

/-- One more event counts when it is addressed to the descriptor. -/
theorem slaveFlagsOf_snoc (descriptor : Int) (events : List DuoEvent) (event : DuoEvent) :
    slaveFlagsOf descriptor (events ++ [event]) =
      if event.targetFd = descriptor then
        (slaveFlagsOf descriptor events).learn event
      else slaveFlagsOf descriptor events := by
  by_cases addressed : event.targetFd = descriptor <;>
    simp [slaveFlagsOf, List.filter_append, addressed]

/-! ## The log -/

/-- A session with the events emitted since its master was acquired. -/
structure DuoLog where
  session : DuoSession
  events : List DuoEvent
deriving DecidableEq, Repr

def DuoLog.initial : DuoLog := ⟨openrspdDuoSessionInit, []⟩

/-- Call an operation and log what it emits; a new master starts a new
log. -/
def DuoLog.step (log : DuoLog) (op : DuoOp) : DuoLog :=
  let returned := op.apply log.session
  let earlier :=
    if log.session.masterSelected = false ∧
        returned.session.masterSelected then []
    else log.events
  ⟨returned.session, earlier ++ returned.emitted⟩

/-- The log tells the master what the session holds about the slave. -/
structure DuoLog.Faithful (log : DuoLog) : Prop where
  wellFormed : log.session.WellFormed
  told : log.session.masterSelected = true →
      slaveFlagsOf log.session.masterFd log.events = log.session.slaveFlags

/-- An event is emitted by one role for the other. -/
structure DuoEvent.Addressed
    (event : DuoEvent) (before after : DuoSession) (caller : Int) :
    Prop where
  source : event.sourceFd = caller
  valid : 0 ≤ event.targetFd
  other : event.targetFd ≠ caller
  peer : (before.masterSelected = true ∧ event.targetFd = before.masterFd ∧
        (descriptorIsSlave before caller = true ∨ descriptorIsSlave after caller = true)) ∨
      (before.slaveSelected = true ∧ event.targetFd = before.slaveFd ∧
        descriptorIsMaster before caller = true)

/-! ## One operation -/

section Operations

variable {session : DuoSession} {op : DuoOp} {returned : DuoReturn}

/-- An event of the slave, addressed to its master. -/
theorem DuoSession.WellFormed.addressedToMaster (wellFormed : session.WellFormed) {descriptor : Int}
    (isSlave : descriptorIsSlave session descriptor = true)
    (kind : DuoEventKind) (tuner : UInt32) (after : DuoSession) :
    (emitEvent kind session.masterFd descriptor tuner).Addressed session
      after descriptor := by
  obtain ⟨selected, rfl⟩ := selected_of_descriptorIsSlave isSlave
  have master := wellFormed.slaveHasMaster selected
  exact
    { source := rfl
      valid := wellFormed.masterFdValid master
      other := Ne.symm (wellFormed.slaveFdDiffers selected)
      peer := .inl ⟨master, rfl, .inl isSlave⟩ }

/-- An event of the master, addressed to its slave. -/
theorem DuoSession.WellFormed.addressedToSlave (wellFormed : session.WellFormed) {descriptor : Int}
    (isMaster : descriptorIsMaster session descriptor = true)
    (selected : session.slaveSelected = true)
    (kind : DuoEventKind) (tuner : UInt32) (after : DuoSession) :
    (emitEvent kind session.slaveFd descriptor tuner).Addressed session
      after descriptor := by
  obtain ⟨-, rfl⟩ := selected_of_descriptorIsMaster isMaster
  exact
    { source := rfl
      valid := wellFormed.slaveFdValid selected
      other := wellFormed.slaveFdDiffers selected
      peer := .inr ⟨selected, rfl, isMaster⟩ }

/-- Whatever an operation emits goes from its caller to the other role. -/
theorem DuoTransition.addressed (transition : DuoTransition session op returned)
    (wellFormed : session.WellFormed)
    (emits : returned.event.kind ≠ .none) :
    returned.event.Addressed session returned.session op.descriptor := by
  cases transition with
  | refused => exact absurd rfl emits
  | reacquired => exact absurd rfl emits
  | strangerDisconnected => exact absurd rfl emits
  | masterAcquired => exact absurd rfl emits
  | slaveAttached descriptor tuner rate _ _ hasMaster _ otherFd =>
      exact
        { source := rfl
          valid := wellFormed.masterFdValid hasMaster
          other := otherFd
          peer := .inl ⟨hasMaster, rfl, .inr (by
            simp [descriptorIsSlave, DuoOp.descriptor])⟩ }
  | masterInitialised descriptor isMaster =>
      simp only at emits ⊢
      split at emits
      · rename_i selected
        rw [if_pos selected]
        exact wellFormed.addressedToSlave isMaster selected _ _ _
      · exact absurd rfl emits
  | slaveInitialised descriptor isSlave =>
      exact wellFormed.addressedToMaster isSlave _ _ _
  | masterUninitialised => exact absurd rfl emits
  | slaveUninitialised descriptor isSlave =>
      exact wellFormed.addressedToMaster isSlave _ _ _
  | masterReleased => exact absurd rfl emits
  | slaveDetached descriptor isSlave =>
      exact wellFormed.addressedToMaster isSlave _ _ _
  | slaveDisappeared descriptor isSlave =>
      exact wellFormed.addressedToMaster isSlave _ _ _
  | masterDisappeared descriptor isMaster =>
      simp only at emits ⊢
      split at emits
      · rename_i selected
        rw [if_pos selected]
        exact wellFormed.addressedToSlave isMaster selected _ _ _
      · exact absurd rfl emits

end Operations

/-! ## Every run -/

/-- Every operation keeps the log faithful. -/
theorem DuoLog.Faithful.step (log : DuoLog) (op : DuoOp)
    (faithful : log.Faithful) : (log.step op).Faithful := by
  obtain ⟨wellFormed, told⟩ := faithful
  have transition := duoTransition_apply log.session op
  refine ⟨transition.wellFormed wellFormed, ?_⟩
  simp only [DuoLog.step]
  generalize op.apply log.session = returned at transition
  intro selected
  cases transition with
  | refused op result =>
      have was : log.session.masterSelected = true := selected
      simpa [DuoReturn.refuse, DuoReturn.emitted, clearEvent, was] using told was
  | reacquired =>
      have was : log.session.masterSelected = true := selected
      simpa [DuoReturn.refuse, DuoReturn.emitted, clearEvent, was] using told was
  | strangerDisconnected =>
      have was : log.session.masterSelected = true := selected
      simpa [DuoReturn.refuse, DuoReturn.emitted, clearEvent, was] using told was
  | masterAcquired descriptor tuner rate _ _ _ noMaster noSlave =>
      have cleared := (wellFormed.slaveCleared noSlave).2.2
      simp [DuoReturn.emitted, clearEvent, noMaster, DuoSession.slaveFlags,
        noSlave, cleared, SlaveFlags.absent]
  | slaveAttached descriptor tuner rate _ _ hasMaster =>
      simp [DuoReturn.emitted, emitEvent, hasMaster, slaveFlagsOf_snoc,
        SlaveFlags.learn, DuoSession.slaveFlags]
  | masterInitialised descriptor isMaster =>
      have was := (selected_of_descriptorIsMaster isMaster).1
      by_cases attached : log.session.slaveSelected = true
      · have other := wellFormed.slaveFdDiffers attached
        simpa [DuoReturn.emitted, emitEvent, was, attached,
          slaveFlagsOf_snoc, other, DuoSession.slaveFlags] using told was
      · simpa [DuoReturn.emitted, clearEvent, was, attached, DuoSession.slaveFlags] using told was
  | slaveInitialised descriptor isSlave =>
      have was := wellFormed.slaveHasMaster (selected_of_descriptorIsSlave isSlave).1
      simp [DuoReturn.emitted, emitEvent, was, slaveFlagsOf_snoc,
        SlaveFlags.learn, told was, DuoSession.slaveFlags]
  | masterUninitialised descriptor isMaster =>
      have was := (selected_of_descriptorIsMaster isMaster).1
      simpa [DuoReturn.emitted, clearEvent, was, DuoSession.slaveFlags] using told was
  | slaveUninitialised descriptor isSlave =>
      have was := wellFormed.slaveHasMaster (selected_of_descriptorIsSlave isSlave).1
      simp [DuoReturn.emitted, emitEvent, was, slaveFlagsOf_snoc,
        SlaveFlags.learn, told was, DuoSession.slaveFlags]
  | masterReleased => simp [openrspdDuoSessionInit] at selected
  | slaveDetached descriptor isSlave =>
      have was := wellFormed.slaveHasMaster (selected_of_descriptorIsSlave isSlave).1
      simp [DuoReturn.emitted, emitEvent, was, slaveFlagsOf_snoc,
        SlaveFlags.learn, DuoSession.slaveFlags, DuoSession.withoutSlave,
        SlaveFlags.absent]
  | slaveDisappeared descriptor isSlave =>
      have was := wellFormed.slaveHasMaster (selected_of_descriptorIsSlave isSlave).1
      simp [DuoReturn.emitted, emitEvent, was, slaveFlagsOf_snoc,
        SlaveFlags.learn, DuoSession.slaveFlags, DuoSession.withoutSlave,
        SlaveFlags.absent]
  | masterDisappeared => simp [openrspdDuoSessionInit] at selected

theorem faithful_run (ops : List DuoOp) :
    (runSteps DuoLog.step DuoLog.initial ops).Faithful :=
  invariant_of_steps DuoLog.Faithful.step ops
    ⟨wellFormed_sessionInit, by simp [DuoLog.initial, openrspdDuoSessionInit]⟩

/-- After any run, an operation that is not granted changes nothing and
emits nothing, what is emitted goes from the caller to the other role, and
the events addressed to the master since its acquisition tell it exactly
whether a slave is selected and initialised. -/
theorem session_events_faithful (ops : List DuoOp) (op : DuoOp) :
    let log := runSteps DuoLog.step DuoLog.initial ops
    let returned := op.apply log.session
    (returned.result ≠ .ok →
        returned.session = log.session ∧ returned.emitted = []) ∧
      (∀ event ∈ returned.emitted, event.Addressed log.session returned.session op.descriptor) ∧
      (log.session.masterSelected = true → slaveFlagsOf log.session.masterFd log.events =
          ⟨log.session.slaveSelected, log.session.slaveInitialised⟩) := by
  intro log returned
  have faithful := faithful_run ops
  have transition := duoTransition_apply log.session op
  refine ⟨fun refused => ?_, fun event emitted => ?_, faithful.told⟩
  · obtain ⟨same, silent⟩ := transition.not_granted refused
    have kind : returned.event.kind = .none := congrArg DuoEvent.kind silent
    exact ⟨same, by rw [DuoReturn.emitted, if_pos kind]⟩
  · by_cases silent : returned.event.kind = .none
    · simp [DuoReturn.emitted, silent] at emitted
    · obtain rfl : event = returned.event := by
        simpa [DuoReturn.emitted, silent] using emitted
      exact transition.addressed faithful.wellFormed silent

example : (runSteps DuoLog.step DuoLog.initial
      [.acquire 5 .master tunerA 6000000, .acquire 6 .slave tunerB 0,
        .initialise 5, .initialise 6, .release 6,
        .uninitialise 6]).events.map (fun event => (event.kind, event.targetFd)) =
      [(.slaveAttached, 5), (.masterInitialised, 6), (.slaveInitialised, 5),
        (.slaveUninitialised, 5)] := by
  decide

end OpenRsp
