import OpenRsp.Compat.EventQueue

/-!
# Overload notifications

The overload part of `daemon_stream_callback`, the acknowledgement in
`sdrplay_api_Update` and `emit_overload_event`, all of
`compat/sdrplay_api_compat.c`.  For each tuner three atomics hold the current
state, whether a notification is pending, and the state last reported.  The
IQ worker and the thread that calls the API each advance one atomic operation
at a time, in any order.

A notification the full queue refused leaves a state that was never reported.
If the state then changes back, the change back is reported although its
counterpart was not.
-/

namespace OpenRsp

open Rings Runs

/-! ## The atomics -/

/-- A tuner of the receiver. -/
inductive Tuner where
  | a
  | b
deriving DecidableEq, Repr

/-- The tuner as an event names it. -/
def Tuner.select : Tuner → TunerSelect
  | .a => .a
  | .b => .b

/-- `overload_state`, `overload_event_pending` and
`overload_reported_state` of one tuner. -/
structure OverloadAtomics where
  state : Bool
  pending : Bool
  reported : Bool
deriving DecidableEq, Repr

/-- The larger of the absolute values of a sample. -/
def samplePeak (sample : Int16 × Int16) : Nat := max sample.1.toInt.natAbs sample.2.toInt.natAbs

/-- The peak of the samples of a frame. -/
def framePeak (samples : List (Int16 × Int16)) : Nat :=
  samples.foldl (fun peak sample => max peak (samplePeak sample)) 0

/-- The overload state after a frame, with hysteresis. -/
def nextOverload (overloaded : Bool) (peak : Nat) : Bool :=
  if overloaded then decide (30000 < peak) else decide (32700 ≤ peak)

/-! ## The threads -/

/-- The atomic operation a thread is about to perform. -/
inductive OverloadStage where
  | exchange (overloaded : Bool)
  | load
  | compare (overloaded : Bool)
  | enqueue (overloaded : Bool)
  | report (overloaded : Bool)
  | mark
  | withdraw
deriving DecidableEq, Repr

/-- Accepted notifications and acknowledgements, in order. -/
inductive OverloadNote where
  | notice (tuner : Tuner) (detected : Bool)
  | acknowledged (tuner : Tuner)
deriving DecidableEq, Repr

/-- The event queue, the atomics, what the IQ worker and the API thread are
about to do, and what has happened.  `answered` names the tuner whose
acknowledgement the last step completed, unless the queue refused its
notification. -/
structure OverloadSystem where
  events : EventDevice
  atomics : Tuner → OverloadAtomics
  worker : Option (Tuner × OverloadStage)
  api : Option (Tuner × OverloadStage)
  notes : List OverloadNote
  answered : Option Tuner

/-- The event `emit_overload_event` queues. -/
def overloadEvent (tuner : Tuner) (overloaded : Bool) : ApiEvent :=
  ⟨.powerOverloadChange, tuner.select, .powerOverload overloaded⟩

namespace OverloadSystem

/-- A freshly opened device. -/
def start : OverloadSystem where
  events := .startEventThread
  atomics := fun _ => ⟨false, false, false⟩
  worker := none
  api := none
  notes := []
  answered := none

/-- Store into the atomics of a tuner. -/
def store (system : OverloadSystem) (tuner : Tuner)
    (change : OverloadAtomics → OverloadAtomics) : OverloadSystem :=
  { system with
    atomics := Function.update system.atomics tuner (change (system.atomics tuner)) }

/-- Perform one operation; what the thread does next. -/
def perform (system : OverloadSystem) (tuner : Tuner) :
    OverloadStage → OverloadSystem × Option OverloadStage
  | .exchange overloaded =>
      if (system.atomics tuner).pending then (system, none)
      else
        (system.store tuner fun atomics => { atomics with pending := true },
          some (.enqueue overloaded))
  | .load => (system, some (.compare (system.atomics tuner).state))
  | .compare overloaded =>
      (system,
        if overloaded ≠ (system.atomics tuner).reported then
          some (.enqueue overloaded)
        else none)
  | .enqueue overloaded =>
      let queued :=
        system.events.queueApiEvent (overloadEvent tuner overloaded)
      if queued.1 = 0 then
        ({ system with
            events := queued.2
            notes := system.notes ++ [.notice tuner overloaded] },
          some (.report overloaded))
      else ({ system with events := queued.2 }, some .withdraw)
  | .report overloaded =>
      (system.store tuner fun atomics =>
          { atomics with reported := overloaded },
        some .mark)
  | .mark =>
      (system.store tuner fun atomics => { atomics with pending := true }, none)
  | .withdraw =>
      (system.store tuner fun atomics => { atomics with pending := false }, none)

/-- Whether a frame changes the overload state of its tuner. -/
def flips (system : OverloadSystem) (tuner : Tuner) (samples : List (Int16 × Int16)) : Bool :=
  nextOverload (system.atomics tuner).state (framePeak samples) != (system.atomics tuner).state

/-- The steps of the threads. -/
inductive Action where
  | frame (tuner : Tuner) (samples : List (Int16 × Int16))
  | acknowledge (tuner : Tuner)
  | worker
  | api
  | queueOther (event : ApiEvent)
  | takeEvent
  | finishDispatch
  | stopEventThread
deriving DecidableEq, Repr

/-- The IQ worker stores the state of a frame that changes it. -/
def receiveFrame (system : OverloadSystem) (tuner : Tuner)
    (samples : List (Int16 × Int16)) : OverloadSystem :=
  if system.worker.isSome ∨ system.flips tuner samples = false then system
  else
    let overloaded := !(system.atomics tuner).state
    { system.store tuner fun atomics =>
        { atomics with state := overloaded } with
      worker := some (tuner, .exchange overloaded) }

/-- The API thread starts on an acknowledgement. -/
def receiveAcknowledgement (system : OverloadSystem) (tuner : Tuner) : OverloadSystem :=
  if system.api.isSome then system
  else
    { system.store tuner fun atomics => { atomics with pending := false } with
      api := some (tuner, .load)
      notes := system.notes ++ [.acknowledged tuner] }

/-- The IQ worker performs its next operation. -/
def advanceWorker (system : OverloadSystem) : OverloadSystem :=
  match system.worker with
  | none => system
  | some (tuner, stage) =>
      let done := system.perform tuner stage
      { done.1 with worker := done.2.map (tuner, ·) }

/-- The API thread performs its next operation. -/
def advanceApi (system : OverloadSystem) : OverloadSystem :=
  match system.api with
  | none => system
  | some (tuner, stage) =>
      let done := system.perform tuner stage
      { done.1 with
        api := done.2.map (tuner, ·)
        answered :=
          if done.2 = none ∧ stage ≠ .withdraw then some tuner else none }

/-- Take one step.  Only `emit_overload_event` queues overload events. -/
def step (system : OverloadSystem) (action : Action) : OverloadSystem :=
  let system := { system with answered := none }
  match action with
  | .frame tuner samples => system.receiveFrame tuner samples
  | .acknowledge tuner => system.receiveAcknowledgement tuner
  | .worker => system.advanceWorker
  | .api => system.advanceApi
  | .queueOther event =>
      if event.event = .powerOverloadChange then system
      else { system with events := (system.events.queueApiEvent event).2 }
  | .takeEvent => { system with events := system.events.takeEvent.2 }
  | .finishDispatch =>
      { system with events := system.events.finishDispatch }
  | .stopEventThread =>
      { system with events := system.events.stopEventThread }

end OverloadSystem

/-! ## What a tuner's application sees -/

/-- The notifications of a tuner: `true` for an overload detected. -/
def noticesOf (tuner : Tuner) (notes : List OverloadNote) : List Bool :=
  notes.filterMap fun
    | .notice noted detected => if noted = tuner then some detected else none
    | .acknowledged _ => none

/-- The notifications of a tuner since its last acknowledgement. -/
def outstandingOf (tuner : Tuner) (notes : List OverloadNote) : Nat :=
  notes.foldl
    (fun count note =>
      match note with
      | .notice noted _ => if noted = tuner then count + 1 else count
      | .acknowledged noted => if noted = tuner then 0 else count)
    0

/-- The list alternates, beginning with `expected`. -/
def Alternates : Bool → List Bool → Prop
  | _, [] => True
  | expected, value :: rest => value = expected ∧ Alternates (!expected) rest

/-- The last notification; before the first one no overload is known. -/
def lastNotice (notices : List Bool) : Bool := notices.getLast?.getD false

theorem alternates_append (expected : Bool) (values : List Bool) (value : Bool) :
    Alternates expected (values ++ [value]) ↔
      Alternates expected values ∧ value ≠ values.getLast?.getD (!expected) := by
  induction values generalizing expected with
  | nil => cases value <;> cases expected <;> simp [Alternates]
  | cons first rest inductionHypothesis =>
      simp only [List.cons_append, Alternates, inductionHypothesis, Bool.not_not, and_assoc]
      refine and_congr_right fun same => and_congr_right fun _ => ?_
      cases rest with
      | nil => simp [same]
      | cons second rest => simp [List.getLast?_cons]

/-- The atomics of a tuner and what its application has been sent. -/
structure TunerView where
  atomics : OverloadAtomics
  notices : List Bool
  outstanding : Nat

namespace TunerView

/-- Between notifications: they alternate, the last one is the reported
state, at most one is outstanding, and then it is pending. -/
structure Settled (view : TunerView) : Prop where
  alternate : Alternates true view.notices
  reported : lastNotice view.notices = view.atomics.reported
  bounded : view.outstanding ≤ 1
  unpended : view.atomics.pending = false → view.outstanding = 0

/-- A notification has been accepted and is being recorded. -/
structure Accepted (view : TunerView) (overloaded : Bool) : Prop where
  alternate : Alternates true view.notices
  last : lastNotice view.notices = overloaded
  bounded : view.outstanding ≤ 1
  state : view.atomics.state = overloaded

/-- What holds of a tuner while a thread is about to perform an operation on
it. -/
def Sound (view : TunerView) : Option OverloadStage → Prop
  | none => view.Settled
  | some (.exchange overloaded) =>
      view.Settled ∧ view.atomics.state = overloaded ∧
        (view.atomics.pending = false → overloaded ≠ view.atomics.reported)
  | some .load => view.Settled ∧ view.outstanding = 0
  | some (.compare overloaded) =>
      view.Settled ∧ view.outstanding = 0 ∧ view.atomics.state = overloaded
  | some (.enqueue overloaded) =>
      view.Settled ∧ view.outstanding = 0 ∧
        view.atomics.state = overloaded ∧
        overloaded ≠ view.atomics.reported
  | some (.report overloaded) => view.Accepted overloaded
  | some .mark => view.Accepted view.atomics.reported
  | some .withdraw => view.Settled ∧ view.outstanding = 0

/-- At most one of two threads works on a tuner, and its operation is
sound. -/
def Tracked (view : TunerView) (worker api : Option OverloadStage) : Prop :=
  worker = none ∧ view.Sound api ∨ api = none ∧ view.Sound worker

theorem Tracked.of_worker_idle {view : TunerView}
    {worker api : Option OverloadStage} (tracked : view.Tracked worker api)
    (idle : worker = none) : view.Sound api := by
  rcases tracked with ⟨-, sound⟩ | ⟨free, sound⟩
  · exact sound
  · rwa [free, ← idle]

theorem Tracked.of_api_idle {view : TunerView}
    {worker api : Option OverloadStage} (tracked : view.Tracked worker api)
    (free : api = none) : view.Sound worker := by
  rcases tracked with ⟨idle, sound⟩ | ⟨-, sound⟩
  · rwa [idle, ← free]
  · exact sound

end TunerView

namespace OverloadSystem

/-- The view of a tuner. -/
def view (system : OverloadSystem) (tuner : Tuner) : TunerView :=
  ⟨system.atomics tuner, noticesOf tuner system.notes, outstandingOf tuner system.notes⟩

/-- What a thread is about to do to a tuner. -/
def stageOn (tuner : Tuner) : Option (Tuner × OverloadStage) →
    Option OverloadStage
  | none => none
  | some (busy, stage) => if busy = tuner then some stage else none

/-- For each tuner the notifications alternate, beginning with an overload
detected; at most one is outstanding; and an acknowledgement just completed
leaves the last one in agreement with the current state. -/
structure NoticesSound (system : OverloadSystem) : Prop where
  alternate : ∀ tuner, Alternates true (noticesOf tuner system.notes)
  outstanding : ∀ tuner, outstandingOf tuner system.notes ≤ 1
  agrees : ∀ tuner, system.answered = some tuner →
      lastNotice (noticesOf tuner system.notes) = (system.atomics tuner).state

/-- A frame that changes the state of a tuner does so while no
acknowledgement of that tuner is being processed and, unless a notification
is pending, from the state last reported; an acknowledgement does not start
while the worker reports a change of its tuner. -/
def Orderly (system : OverloadSystem) : Action → Prop
  | .frame tuner samples =>
      system.worker = none → system.flips tuner samples = true → stageOn tuner system.api = none ∧
          ((system.atomics tuner).pending = false →
            (system.atomics tuner).state = (system.atomics tuner).reported)
  | .acknowledge tuner =>
      system.api = none → stageOn tuner system.worker = none
  | _ => True

/-! ## One operation -/

@[simp]
theorem stageOn_map (tuner busy : Tuner) (stage : Option OverloadStage) :
    stageOn tuner (stage.map (busy, ·)) =
      if busy = tuner then stage else none := by
  cases stage <;> simp [stageOn]

theorem view_store_of_ne (system : OverloadSystem) {tuner other : Tuner} (different : other ≠ tuner)
    (change : OverloadAtomics → OverloadAtomics) :
    (system.store tuner change).view other = system.view other := by
  simp [view, store, different]

theorem view_store (system : OverloadSystem) (tuner : Tuner)
    (change : OverloadAtomics → OverloadAtomics) :
    (system.store tuner change).view tuner =
      { system.view tuner with atomics := change (system.atomics tuner) } := by
  simp [view, store]

theorem noticesOf_append (tuner : Tuner) (notes : List OverloadNote)
    (noted : Tuner) (detected : Bool) :
    noticesOf tuner (notes ++ [.notice noted detected]) =
      noticesOf tuner notes ++ (if noted = tuner then [detected] else []) := by
  by_cases same : noted = tuner <;> simp [noticesOf, same]

theorem outstandingOf_append (tuner : Tuner) (notes : List OverloadNote)
    (noted : Tuner) (detected : Bool) :
    outstandingOf tuner (notes ++ [.notice noted detected]) =
      outstandingOf tuner notes + (if noted = tuner then 1 else 0) := by
  by_cases same : noted = tuner <;> simp [outstandingOf, same]

/-- An operation on one tuner leaves the other alone. -/
theorem perform_view_of_ne
    (system : OverloadSystem) {tuner other : Tuner} (different : other ≠ tuner)
    (stage : OverloadStage) :
    (system.perform tuner stage).1.view other = system.view other := by
  cases stage with
  | exchange overloaded =>
      simp only [perform]
      split_ifs
      · rfl
      · simp only [view_store_of_ne system different]
  | load => rfl
  | compare overloaded => rfl
  | enqueue overloaded =>
      simp only [perform]
      split_ifs
      · simp [view, noticesOf_append, outstandingOf_append, different.symm]
      · rfl
  | report overloaded => simp only [perform, view_store_of_ne system different]
  | mark => simp only [perform, view_store_of_ne system different]
  | withdraw => simp only [perform, view_store_of_ne system different]

/-- An operation keeps what holds of its tuner. -/
theorem perform_sound (system : OverloadSystem) (tuner : Tuner) (stage : OverloadStage)
    (sound : (system.view tuner).Sound (some stage)) :
    ((system.perform tuner stage).1.view tuner).Sound (system.perform tuner stage).2 := by
  cases stage with
  | exchange overloaded =>
      obtain ⟨settled, state, unreported⟩ := sound
      simp only [perform]
      split_ifs with pending
      · exact settled
      · have idle : (system.atomics tuner).pending = false := by
          simpa using pending
        rw [view_store]
        exact ⟨⟨settled.alternate, settled.reported, settled.bounded,
            fun _ => settled.unpended idle⟩,
          settled.unpended idle, state, unreported idle⟩
  | load =>
      obtain ⟨settled, none⟩ := sound
      exact ⟨settled, none, rfl⟩
  | compare overloaded =>
      obtain ⟨settled, none, state⟩ := sound
      simp only [perform]
      split_ifs with changed
      · exact ⟨settled, none, state, changed⟩
      · exact settled
  | enqueue overloaded =>
      obtain ⟨settled, none, state, unreported⟩ := sound
      simp only [perform]
      split_ifs
      · have fresh : overloaded ≠ lastNotice (noticesOf tuner system.notes) :=
          settled.reported ▸ unreported
        refine ⟨?_, ?_, ?_, state⟩
        · simpa [view, noticesOf_append] using
            (alternates_append true _ overloaded).mpr ⟨settled.alternate, fresh⟩
        · simp [view, noticesOf_append, lastNotice]
        · have none : outstandingOf tuner system.notes = 0 := none
          simp [view, outstandingOf_append, none]
      · exact ⟨settled, none⟩
  | report overloaded =>
      simp only [perform, view_store]
      exact ⟨sound.alternate, sound.last, sound.bounded, sound.state⟩
  | mark =>
      simp only [perform, view_store]
      exact ⟨sound.alternate, sound.last, sound.bounded, nofun⟩
  | withdraw =>
      obtain ⟨settled, none⟩ := sound
      simp only [perform, view_store]
      exact ⟨settled.alternate, settled.reported, settled.bounded, fun _ => none⟩

/-- An acknowledgement that ends, other than by withdrawing a refused
notification, leaves the last notification in agreement with the state. -/
theorem perform_agrees (system : OverloadSystem) (tuner : Tuner) (stage : OverloadStage)
    (sound : (system.view tuner).Sound (some stage))
    (ends : (system.perform tuner stage).2 = none)
    (kept : stage ≠ .withdraw)
    (loaded : ∀ overloaded, stage ≠ .exchange overloaded) :
    lastNotice (noticesOf tuner (system.perform tuner stage).1.notes) =
      ((system.perform tuner stage).1.atomics tuner).state := by
  cases stage with
  | exchange overloaded => exact absurd rfl (loaded overloaded)
  | load => simp [perform] at ends
  | compare overloaded =>
      obtain ⟨settled, -, state⟩ := sound
      have same : overloaded = (system.atomics tuner).reported := by
        simpa [perform] using ends
      exact settled.reported.trans (same ▸ state.symm)
  | enqueue overloaded =>
      simp only [perform] at ends
      split_ifs at ends
  | report overloaded => simp [perform] at ends
  | mark =>
      have last : lastNotice (noticesOf tuner system.notes) = _ := sound.last
      have state : (system.atomics tuner).state = _ := sound.state
      simp [perform, store, last, state, view]
  | withdraw => exact absurd rfl kept

/-! ## Whole runs -/

/-- At most one thread works on a tuner, and its operation is sound. -/
def Tracked (system : OverloadSystem) (tuner : Tuner) : Prop :=
  (system.view tuner).Tracked (stageOn tuner system.worker) (stageOn tuner system.api)

/-- The invariant of orderly runs.  The API thread never exchanges. -/
structure Invariant (system : OverloadSystem) : Prop where
  tracked : ∀ tuner, system.Tracked tuner
  loads : ∀ tuner overloaded, system.api ≠ some (tuner, .exchange overloaded)
  agrees : ∀ tuner, system.answered = some tuner →
      lastNotice (noticesOf tuner system.notes) = (system.atomics tuner).state

/-- A step that is not the API thread's and changes no view keeps the
invariant. -/
theorem Invariant.of_views {before after : OverloadSystem} (invariant : before.Invariant)
    (views : ∀ tuner, after.view tuner = before.view tuner)
    (worker : after.worker = before.worker) (api : after.api = before.api)
    (unanswered : after.answered = none) : after.Invariant where
  tracked tuner := by
    have tracked := invariant.tracked tuner
    simpa only [Tracked, views tuner, worker, api] using tracked
  loads := by
    rw [api]
    exact invariant.loads
  agrees tuner answered := by
    simp [unanswered] at answered

theorem sound_bounds {view : TunerView} {stage : Option OverloadStage} (sound : view.Sound stage) :
    Alternates true view.notices ∧ view.outstanding ≤ 1 := by
  match stage, sound with
  | none, sound => exact ⟨sound.alternate, sound.bounded⟩
  | some (.exchange _), sound => exact ⟨sound.1.alternate, sound.1.bounded⟩
  | some .load, sound => exact ⟨sound.1.alternate, sound.1.bounded⟩
  | some (.compare _), sound => exact ⟨sound.1.alternate, sound.1.bounded⟩
  | some (.enqueue _), sound => exact ⟨sound.1.alternate, sound.1.bounded⟩
  | some (.report _), sound => exact ⟨sound.alternate, sound.bounded⟩
  | some .mark, sound => exact ⟨sound.alternate, sound.bounded⟩
  | some .withdraw, sound => exact ⟨sound.1.alternate, sound.1.bounded⟩

theorem Invariant.noticesSound {system : OverloadSystem}
    (invariant : system.Invariant) : system.NoticesSound := by
  have bounds (tuner : Tuner) :
      Alternates true (system.view tuner).notices ∧ (system.view tuner).outstanding ≤ 1 := by
    rcases invariant.tracked tuner with ⟨-, sound⟩ | ⟨-, sound⟩
    · exact sound_bounds sound
    · exact sound_bounds sound
  exact ⟨fun tuner => (bounds tuner).1, fun tuner => (bounds tuner).2, invariant.agrees⟩

/-- A thread that works on a tuner is the only one, so its operation is
sound. -/
theorem Tracked.worker_sound {system : OverloadSystem} {tuner : Tuner}
    (tracked : system.Tracked tuner) {stage : OverloadStage}
    (busy : system.worker = some (tuner, stage)) :
    stageOn tuner system.api = none ∧ (system.view tuner).Sound (some stage) := by
  rcases tracked with ⟨idle, -⟩ | ⟨idle, sound⟩
  · simp [busy, stageOn] at idle
  · exact ⟨idle, by simpa [busy, stageOn] using sound⟩

theorem Tracked.api_sound {system : OverloadSystem} {tuner : Tuner}
    (tracked : system.Tracked tuner) {stage : OverloadStage}
    (busy : system.api = some (tuner, stage)) :
    stageOn tuner system.worker = none ∧ (system.view tuner).Sound (some stage) := by
  rcases tracked with ⟨idle, sound⟩ | ⟨idle, -⟩
  · exact ⟨idle, by simpa [busy, stageOn] using sound⟩
  · simp [busy, stageOn] at idle

theorem perform_threads (system : OverloadSystem) (tuner : Tuner) (stage : OverloadStage) :
    (system.perform tuner stage).1.worker = system.worker ∧
      (system.perform tuner stage).1.api = system.api ∧
      (system.perform tuner stage).1.answered = system.answered := by
  cases stage with
  | exchange overloaded =>
      simp only [perform]
      split_ifs
      · exact ⟨rfl, rfl, rfl⟩
      · exact ⟨rfl, rfl, rfl⟩
  | enqueue overloaded =>
      simp only [perform]
      split_ifs
      · exact ⟨rfl, rfl, rfl⟩
      · exact ⟨rfl, rfl, rfl⟩
  | _ => exact ⟨rfl, rfl, rfl⟩

/-- No operation is followed by an exchange. -/
theorem perform_loads (system : OverloadSystem) (busy : Tuner) (stage : OverloadStage)
    (overloaded : Bool) (tuner : Tuner) :
    (system.perform busy stage).2.map (busy, ·) ≠ some (tuner, .exchange overloaded) := by
  cases stage with
  | exchange overloaded =>
      simp only [perform]
      split_ifs <;> simp
  | compare overloaded =>
      simp only [perform]
      split_ifs <;> simp
  | enqueue overloaded =>
      simp only [perform]
      split_ifs <;> simp
  | _ => simp [perform]

theorem Invariant.advanceWorker {system : OverloadSystem}
    (invariant : system.Invariant) (unanswered : system.answered = none) :
    system.advanceWorker.Invariant := by
  unfold OverloadSystem.advanceWorker
  split
  · exact invariant
  · rename_i busy stage working
    obtain ⟨-, api, answered⟩ := perform_threads system busy stage
    refine ⟨fun tuner => ?_, ?_, ?_⟩
    · change
        ((system.perform busy stage).1.view tuner).Tracked
          (stageOn tuner ((system.perform busy stage).2.map (busy, ·)))
          (stageOn tuner (system.perform busy stage).1.api)
      rw [stageOn_map, api]
      have tracked := invariant.tracked tuner
      by_cases same : busy = tuner
      · subst same
        obtain ⟨idle, sound⟩ := tracked.worker_sound working
        rw [if_pos rfl]
        exact .inr ⟨idle, perform_sound system busy stage sound⟩
      · have elsewhere : stageOn tuner system.worker = none := by
          simp [working, stageOn, same]
        rw [if_neg same, perform_view_of_ne system (Ne.symm same)]
        exact .inl ⟨rfl, tracked.of_worker_idle elsewhere⟩
    · change ∀ tuner overloaded, (system.perform busy stage).1.api ≠ _
      rw [api]
      exact invariant.loads
    · change ∀ tuner, (system.perform busy stage).1.answered = _ → _
      rw [answered, unanswered]
      nofun

theorem Invariant.advanceApi {system : OverloadSystem} (invariant : system.Invariant) :
    system.advanceApi.Invariant := by
  unfold OverloadSystem.advanceApi
  split
  · exact invariant
  · rename_i busy stage working
    obtain ⟨worker, -, -⟩ := perform_threads system busy stage
    have loaded (overloaded : Bool) : stage ≠ .exchange overloaded := by
      rintro rfl
      exact invariant.loads busy overloaded working
    refine ⟨fun tuner => ?_, ?_, ?_⟩
    · change
        ((system.perform busy stage).1.view tuner).Tracked
          (stageOn tuner (system.perform busy stage).1.worker)
          (stageOn tuner ((system.perform busy stage).2.map (busy, ·)))
      rw [stageOn_map, worker]
      have tracked := invariant.tracked tuner
      by_cases same : busy = tuner
      · subst same
        obtain ⟨idle, sound⟩ := tracked.api_sound working
        rw [if_pos rfl]
        exact .inl ⟨idle, perform_sound system busy stage sound⟩
      · have elsewhere : stageOn tuner system.api = none := by
          simp [working, stageOn, same]
        rw [if_neg same, perform_view_of_ne system (Ne.symm same)]
        exact .inr ⟨rfl, tracked.of_api_idle elsewhere⟩
    · intro tuner overloaded exchanges
      exact perform_loads system busy stage overloaded tuner exchanges
    · intro tuner answered
      change
        (if (system.perform busy stage).2 = none ∧ stage ≠ .withdraw then
          some busy else none) = some tuner at answered
      split_ifs at answered with completed
      obtain rfl : busy = tuner := by simpa using answered
      obtain ⟨-, sound⟩ := (invariant.tracked busy).api_sound working
      exact perform_agrees system busy stage sound completed.1 completed.2 loaded

/-- The state of a tuner the worker is not busy with has been settled. -/
theorem Invariant.settled {system : OverloadSystem} (invariant : system.Invariant) (tuner : Tuner)
    (worker : stageOn tuner system.worker = none)
    (api : stageOn tuner system.api = none) :
    (system.view tuner).Settled := by
  have sound := (invariant.tracked tuner).of_worker_idle worker
  rwa [api] at sound

theorem Invariant.receiveFrame {system : OverloadSystem}
    (invariant : system.Invariant) (unanswered : system.answered = none)
    (tuner : Tuner) (samples : List (Int16 × Int16))
    (orderly : system.Orderly (.frame tuner samples)) :
    (system.receiveFrame tuner samples).Invariant := by
  unfold OverloadSystem.receiveFrame
  split_ifs with ignored
  · exact invariant
  · obtain ⟨idle, flips⟩ := not_or.mp ignored
    have idle : system.worker = none := by simpa using idle
    obtain ⟨free, reported⟩ := orderly idle (by simpa using flips)
    refine ⟨fun other => ?_, invariant.loads, by simp [store, unanswered]⟩
    by_cases same : other = tuner
    · subst same
      have settled := invariant.settled other (by simp [idle, stageOn]) free
      refine .inr ⟨free, ?_⟩
      simp only [stageOn, if_true]
      refine ⟨?_, ?_, ?_⟩
      · exact ⟨settled.alternate, by simpa [view, store] using
          settled.reported, settled.bounded, by simpa [view, store] using
          settled.unpended⟩
      · simp [view, store]
      · intro quiet
        have quiet : (system.atomics other).pending = false := by
          simpa [view, store] using quiet
        simp [view, store, reported quiet]
    · have sound : (system.view other).Sound (stageOn other system.api) :=
        (invariant.tracked other).of_worker_idle (by simp [idle, stageOn])
      refine .inl ⟨by simp [stageOn, Ne.symm same], ?_⟩
      have view := view_store_of_ne system same fun atomics =>
        { atomics with state := !(system.atomics tuner).state }
      exact view.symm ▸ sound

theorem Invariant.receiveAcknowledgement {system : OverloadSystem}
    (invariant : system.Invariant) (unanswered : system.answered = none)
    (tuner : Tuner) (orderly : system.Orderly (.acknowledge tuner)) :
    (system.receiveAcknowledgement tuner).Invariant := by
  unfold OverloadSystem.receiveAcknowledgement
  split_ifs with busy
  · exact invariant
  · have free : system.api = none := by simpa using busy
    have idle := orderly free
    refine ⟨fun other => ?_, by simp, by simp [store, unanswered]⟩
    by_cases same : other = tuner
    · subst same
      have settled := invariant.settled other idle (by simp [free, stageOn])
      refine .inl ⟨idle, ?_⟩
      simp only [stageOn, if_true]
      have none :
          outstandingOf other (system.notes ++ [.acknowledged other]) = 0 := by
        simp [outstandingOf]
      have notices : noticesOf other (system.notes ++ [.acknowledged other]) =
            noticesOf other system.notes := by
        simp [noticesOf]
      refine ⟨⟨?_, ?_, ?_, fun _ => none⟩, none⟩
      · simpa [view, notices] using settled.alternate
      · simpa [view, notices, store] using settled.reported
      · simp [view, none]
    · have sound :
          (system.view other).Sound (stageOn other system.worker) :=
        (invariant.tracked other).of_api_idle (by simp [free, stageOn])
      refine .inr ⟨by simp [stageOn, Ne.symm same], ?_⟩
      have view : (system.receiveAcknowledgement tuner).view other =
            system.view other := by
        simp [OverloadSystem.receiveAcknowledgement, free, OverloadSystem.view,
          store, same, noticesOf, outstandingOf, Ne.symm same]
      rw [OverloadSystem.receiveAcknowledgement, if_neg busy] at view
      exact view.symm ▸ sound

theorem Invariant.step {system : OverloadSystem} (invariant : system.Invariant) (action : Action)
    (orderly : system.Orderly action) : (system.step action).Invariant := by
  have quiet : ({ system with answered := none } : OverloadSystem).Invariant :=
    invariant.of_views (fun _ => rfl) rfl rfl rfl
  cases action with
  | frame tuner samples => exact quiet.receiveFrame rfl tuner samples orderly
  | acknowledge tuner => exact quiet.receiveAcknowledgement rfl tuner orderly
  | worker => exact quiet.advanceWorker rfl
  | api => exact quiet.advanceApi
  | queueOther event =>
      simp only [OverloadSystem.step]
      split_ifs
      · exact quiet
      · exact quiet.of_views (fun _ => rfl) rfl rfl rfl
  | takeEvent => exact quiet.of_views (fun _ => rfl) rfl rfl rfl
  | finishDispatch => exact quiet.of_views (fun _ => rfl) rfl rfl rfl
  | stopEventThread => exact quiet.of_views (fun _ => rfl) rfl rfl rfl

theorem start_invariant : start.Invariant where
  tracked _ := .inl ⟨rfl, trivial, rfl, Nat.zero_le 1, fun _ => rfl⟩
  loads := nofun
  agrees := nofun

end OverloadSystem

open OverloadSystem

/-- In every orderly run the notifications of each tuner alternate, at most
one is outstanding, and a completed acknowledgement leaves them in agreement
with the current state. -/
theorem overload_notices_sound_of_orderly (actions : List OverloadSystem.Action)
    (orderly : StepsMeet OverloadSystem.step OverloadSystem.Orderly OverloadSystem.start actions) :
    (runSteps OverloadSystem.step OverloadSystem.start actions).NoticesSound := by
  have preserved (system : OverloadSystem) (action : OverloadSystem.Action)
      (allowed : system.Orderly action) (invariant : system.Invariant) :
      (system.step action).Invariant :=
    invariant.step action allowed
  exact (invariant_of_stepsMeet preserved orderly OverloadSystem.start_invariant).noticesSound

/-- A frame of one sample at full scale. -/
def loudFrame : List (Int16 × Int16) := [(32767, 0)]

/-- A frame of one silent sample. -/
def quietFrame : List (Int16 × Int16) := [(0, 0)]

/-- The worker receives a frame and reports the change. -/
def reportFrame (tuner : Tuner) (samples : List (Int16 × Int16)) :
    List OverloadSystem.Action :=
  [.frame tuner samples, .worker, .worker, .worker, .worker]

/-- Overload, recovery while the first notification is pending, and the
acknowledgement that reports the recovery. -/
def overloadAcknowledged : List OverloadSystem.Action :=
  reportFrame .a loudFrame ++ reportFrame .a quietFrame ++
    [.acknowledge .a, .api, .api, .api, .api, .api]

/-- An overload meets a full queue; its end meets one with room. -/
def overloadRefused : List OverloadSystem.Action :=
  List.replicate 32 (.queueOther gainNotice) ++
    reportFrame .b loudFrame ++ [.takeEvent] ++ reportFrame .b quietFrame

instance (system : OverloadSystem) (action : OverloadSystem.Action) :
    Decidable (system.Orderly action) := by
  cases action <;> unfold OverloadSystem.Orderly <;> infer_instance

/-- An acknowledged overload. -/
theorem overload_notices_sound_acknowledged : StepsMeet OverloadSystem.step OverloadSystem.Orderly
        OverloadSystem.start overloadAcknowledged ∧
      (runSteps OverloadSystem.step OverloadSystem.start overloadAcknowledged).NoticesSound ∧
      noticesOf .a
        (runSteps OverloadSystem.step OverloadSystem.start
          overloadAcknowledged).notes = [true, false] := by
  have orderly : StepsMeet OverloadSystem.step OverloadSystem.Orderly
        OverloadSystem.start overloadAcknowledged := by
    simp only [overloadAcknowledged, reportFrame, List.cons_append, List.nil_append, StepsMeet]
    decide +kernel
  exact ⟨orderly, overload_notices_sound_of_orderly _ orderly, by decide +kernel⟩

theorem not_noticesSound_of_corrected {system : OverloadSystem}
    {tuner : Tuner} (reported : noticesOf tuner system.notes = [false]) :
    ¬ system.NoticesSound := by
  intro sound
  have alternate := sound.alternate tuner
  rw [reported] at alternate
  simp [Alternates] at alternate

/-- The end of an overload is reported although its beginning was not. -/
theorem refused_overload_reported_corrected :
    ¬ (runSteps OverloadSystem.step OverloadSystem.start overloadRefused).NoticesSound :=
  not_noticesSound_of_corrected (show noticesOf .b _ = _ by decide +kernel)

end OpenRsp
