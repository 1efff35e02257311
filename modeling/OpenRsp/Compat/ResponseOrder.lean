import OpenRsp.Compat.Backend

/-!
# Responses come after earlier IQ frames

The reader lets a response become visible only when the queue is empty and
the worker idle.  Nothing arrives while it does so, so the frames handed over
by then are the IQ frames before the response, less the discarded ones.
-/

namespace OpenRsp

open Runs

/-! ## The callbacks of the queue -/

namespace IqQueue

variable {build : IqBuild}

/-- The number of the frame in the callback. -/
def callingArrivals (queue : IqQueue build) : List Nat :=
  match queue.worker with
  | .calling slot => [(queue.frames slot).arrival]
  | _ => []

/-- Every frame handed over has completed its callback or is in it. -/
def Logged (queue : IqQueue build) : Prop :=
  queue.handed.map Prod.fst = queue.completed ++ queue.callingArrivals

theorem Logged.of_reader {queue : IqQueue build} (logged : queue.Logged)
    (invariant : queue.Invariant) {action : IqAction}
    (worker : (queue.step action).worker = queue.worker)
    (handed : (queue.step action).handed = queue.handed)
    (completed : (queue.step action).completed = queue.completed) :
    (queue.step action).Logged := by
  unfold Logged callingArrivals at logged ⊢
  rw [handed, completed, worker, logged]
  split
  · rename_i slot calling
    have held : queue.worker.slot = some slot := by rw [calling]; rfl
    rw [invariant.held_slot_unchanged action held (by rw [worker]; exact held)]
  · rfl

theorem Logged.take {queue : IqQueue build} (logged : queue.Logged) :
    queue.take.Logged := by
  unfold IqQueue.take
  split_ifs with busy
  · exact logged
  · have idle : queue.worker = .idle := not_not.mp (not_or.mp busy).1
    simpa [Logged, callingArrivals, idle] using logged

theorem Logged.call {queue : IqQueue build} (logged : queue.Logged) :
    queue.call.Logged := by
  unfold IqQueue.call
  split
  · rename_i slot taken
    have before : queue.handed.map Prod.fst = queue.completed := by
      simpa [Logged, callingArrivals, taken] using logged
    simp [Logged, callingArrivals, before]
  · exact logged

theorem Logged.complete {queue : IqQueue build} (logged : queue.Logged) :
    queue.complete.Logged := by
  unfold IqQueue.complete
  split
  · rename_i slot calling
    simpa [Logged, callingArrivals, calling] using logged
  · exact logged

/-- The queue is empty and the worker idle. -/
def Drained (queue : IqQueue build) : Prop := queue.queue.count = 0 ∧ queue.active = false

theorem Invariant.idle_of_drained {queue : IqQueue build}
    (invariant : queue.Invariant) (drained : queue.Drained) :
    queue.worker = .idle := by
  have flagged := invariant.flagged
  rw [drained.2] at flagged
  rcases working : queue.worker with _ | slot | slot
  · rfl
  all_goals simp [working, IqWorker.slot] at flagged

/-- A drained queue has handed over, and completed, all it kept. -/
theorem Invariant.kept_of_drained {queue : IqQueue build}
    (invariant : queue.Invariant) (drained : queue.Drained)
    (logged : queue.Logged) : queue.kept = queue.completed := by
  have idle := invariant.idle_of_drained drained
  have empty : queue.queued = [] := queue.queue.toList_eq_nil drained.1
  unfold Logged callingArrivals at logged
  simp only [idle, List.append_nil] at logged
  simp [kept, takenArrivals, idle, empty, logged]

/-- The worker finds nothing to do in a drained queue. -/
theorem Invariant.step_of_drained {queue : IqQueue build}
    (invariant : queue.Invariant) (drained : queue.Drained)
    {action : IqAction}
    (worker : action = .take ∨ action = .call ∨ action = .complete) :
    queue.step action = queue := by
  have idle := invariant.idle_of_drained drained
  rcases worker with rfl | rfl | rfl
  · simp [IqQueue.step, IqQueue.take, drained.1]
  · simp [IqQueue.step, IqQueue.call, idle]
  · simp [IqQueue.step, IqQueue.complete, idle]

end IqQueue

/-! ## The order of responses -/

namespace Backend

variable {build : IqBuild}

theorem iqBefore_append {before after : Backend build}
    {more : List WireFrame} (received : after.received = before.received ++ more)
    {position : Nat} (bound : position ≤ before.received.length) :
    after.iqBefore position = before.iqBefore position := by
  simp only [iqBefore, received, List.take_append_of_le_length bound]

/-- The last frame, if it is a response, does not count. -/
theorem iqBefore_last {backend : Backend build} {response : Response}
    (last : backend.received.getLast? = some (.response response)) :
    backend.iqBefore (backend.received.length - 1) = backend.iqBefore backend.received.length := by
  obtain ⟨earlier, received⟩ := List.getLast?_eq_some_iff.mp last
  have shorter : backend.received.length - 1 = earlier.length := by
    simp [received]
  rw [shorter]
  simp only [iqBefore, List.take_length]
  simp [received]

/-- What was shown is right: see `ResponsesOrdered`. -/
structure ShownRight (backend : Backend build) (shown : Visible) : Prop where
  onWire : shown.position < backend.received.length
  delivered : ∀ arrival < backend.iqBefore shown.position, arrival ∈ shown.completed ∨
        ∃ lost ∈ shown.discards,
          lost.arrival = arrival ∧ lost.oldest = some arrival ∧ lost.free = none
  behind : ∀ arrival ∈ shown.handed, arrival < backend.iqBefore shown.position

theorem ShownRight.append {before after : Backend build}
    {more : List WireFrame} (received : after.received = before.received ++ more)
    {shown : Visible} (right : before.ShownRight shown) :
    after.ShownRight shown := by
  have same : after.iqBefore shown.position = before.iqBefore shown.position :=
    iqBefore_append received right.onWire.le
  refine ⟨?_, ?_, ?_⟩
  · rw [received, List.length_append]
    exact Nat.lt_add_right _ right.onWire
  · rw [same]
    exact right.delivered
  · rw [same]
    exact right.behind

/-- The queue as the reader has fed it. -/
structure QueueFed (backend : Backend build) : Prop where
  queue : backend.iq.Invariant
  callback : backend.iq.callback = true
  logged : backend.iq.Logged
  counted : backend.iq.arrivals.length = backend.iqBefore backend.received.length
  quiet : ∀ response, backend.reader = .draining response ∨
          backend.reader = .publishing response →
        backend.iq.waiting = none
  drained : ∀ response, backend.reader = .publishing response → backend.iq.Drained

/-- What has been shown, and to whom. -/
structure ShownSound (backend : Backend build) : Prop where
  right : ∀ shown ∈ backend.visible, backend.ShownRight shown
  stored : backend.responseReceived = true →
      ∃ shown ∈ backend.visible, backend.stored = some shown.position
  returned : ∀ completion ∈ backend.completed, ∀ position,
      completion.outcome = .answered position → ∃ shown ∈ backend.visible, shown.position = position

/-- A drained queue accounts for every frame before the response. -/
theorem QueueFed.snapshot_right {backend : Backend build}
    (fed : backend.QueueFed) {response : Response}
    (publishing : backend.reader = .publishing response)
    (last : backend.received.getLast? = some (.response response)) :
    backend.ShownRight backend.snapshot := by
  have drained := fed.drained response publishing
  have quiet := fed.quiet response (.inr publishing)
  have kept := fed.queue.kept_of_drained drained fed.logged
  have idle := fed.queue.idle_of_drained drained
  have handed : backend.iq.handed.map Prod.fst = backend.iq.completed := by
    have logged := fed.logged
    unfold IqQueue.Logged IqQueue.callingArrivals at logged
    simpa only [idle, List.append_nil] using logged
  have counted : backend.iqBefore backend.snapshot.position =
        backend.iq.arrivals.length := by
    rw [fed.counted]
    exact iqBefore_last last
  have received : backend.received ≠ [] := by
    rintro empty
    simp [empty] at last
  refine ⟨?_, ?_, ?_⟩
  · exact Nat.sub_lt (List.length_pos_of_ne_nil received) Nat.one_pos
  · intro arrival before
    rw [counted] at before
    rcases fed.queue.accounted arrival before with
      known | ⟨waits, -⟩ | ⟨lost, found, same⟩
    · rw [kept] at known
      exact .inl known
    · simp [quiet] at waits
    · obtain ⟨oldest, free, -⟩ := fed.queue.overflow lost found
      exact .inr ⟨lost, found, same, same ▸ oldest, free⟩
  · intro arrival member
    have member : arrival ∈ backend.iq.kept := by
      rw [kept, ← handed]
      exact member
    have bounded := fed.queue.bounded arrival member
    rw [counted]
    omega

/-! ### One step -/

/-- A step that leaves the queue and the reader alone. -/
theorem QueueFed.of_same {before after : Backend build}
    (fed : before.QueueFed) (iq : after.iq = before.iq)
    (received : after.received = before.received)
    (reader : after.reader = before.reader) : after.QueueFed := by
  refine ⟨?_, ?_, ?_, ?_, ?_, ?_⟩
  · exact iq ▸ fed.queue
  · exact iq ▸ fed.callback
  · exact iq ▸ fed.logged
  · rw [iq, fed.counted, received]
    exact (iqBefore_append (received.trans (List.append_nil _).symm) le_rfl).symm
  · rw [iq, reader]
    exact fed.quiet
  · rw [iq, reader]
    exact fed.drained

/-- A step that leaves the queue alone and ends a wait of the reader, or its
loop. -/
theorem QueueFed.of_reader {before : Backend build}
    (fed : before.QueueFed) {after : Backend build} (iq : after.iq = before.iq)
    (received : after.received = before.received)
    (reader : after.reader = .receiving ∨ after.reader = .ended) :
    after.QueueFed := by
  refine ⟨iq ▸ fed.queue, iq ▸ fed.callback, iq ▸ fed.logged, ?_, ?_, ?_⟩
  · rw [iq, fed.counted, received]
    exact (iqBefore_append (received.trans (List.append_nil _).symm) le_rfl).symm
  · rintro response (draining | publishing)
    · simp [draining] at reader
    · simp [publishing] at reader
  · intro response publishing
    simp [publishing] at reader

theorem QueueFed.receive {backend : Backend build} (fed : backend.QueueFed)
    (frame : WireFrame) (clockWorks : Bool) :
    (backend.receive frame clockWorks).QueueFed := by
  unfold Backend.receive
  split_ifs with busy
  · exact fed
  have receiving : backend.reader = .receiving := by
    simpa using (not_or.mp busy).1
  have idle : backend.iq.waiting = none := by
    simpa using (not_or.mp busy).2
  have counted := fed.counted
  cases frame with
  | iq message =>
      dsimp only
      split_ifs with large
      · exact fed.of_reader rfl rfl (.inr rfl)
      · obtain ⟨callback, arrivals, worker, handed, completed⟩ :=
          IqQueue.arrive_rest fed.callback idle large clockWorks
        refine ⟨fed.queue.step (.arrive message clockWorks),
          callback.trans fed.callback,
          fed.logged.of_reader fed.queue
            (show (backend.iq.step (.arrive message clockWorks)).worker = _
              from worker) handed completed, ?_, ?_, ?_⟩
        · simp only [iqBefore, List.take_length] at counted ⊢
          simp [arrivals, counted]
        · simp [receiving]
        · simp [receiving]
  | response response =>
      refine ⟨fed.queue, fed.callback, fed.logged, ?_, ?_, ?_⟩
      · simp only [iqBefore, List.take_length] at counted ⊢
        simp [counted]
      · intro _ _
        exact idle
      · simp
  | other =>
      refine ⟨fed.queue, fed.callback, fed.logged, ?_, ?_, ?_⟩
      · simp only [iqBefore, List.take_length] at counted ⊢
        simp [counted]
      · simp [receiving]
      · simp [receiving]

theorem QueueFed.worker {backend : Backend build} (fed : backend.QueueFed)
    {action : IqAction}
    (worker : action = .take ∨ action = .call ∨ action = .complete) :
    ({ backend with iq := backend.iq.step action } : Backend build).QueueFed := by
  obtain ⟨callback, arrivals, waiting⟩ := backend.iq.worker_rest worker
  refine ⟨fed.queue.step action, callback.trans fed.callback, ?_, ?_, ?_, ?_⟩
  · rcases worker with rfl | rfl | rfl
    · exact fed.logged.take
    · exact fed.logged.call
    · exact fed.logged.complete
  · rw [arrivals]
    exact fed.counted
  · intro response reading
    rw [waiting]
    exact fed.quiet response reading
  · intro response publishing
    have drained := fed.drained response publishing
    rw [fed.queue.step_of_drained drained worker]
    exact drained

theorem QueueFed.step {backend : Backend build} (fed : backend.QueueFed)
    (action : BackendAction) : (backend.step action).QueueFed := by
  cases action with
  | receive frame clockWorks => exact fed.receive frame clockWorks
  | failReceive =>
      simp only [Backend.step]
      split_ifs
      · exact fed.of_reader rfl rfl (.inr rfl)
      · exact fed
  | wakeReader =>
      obtain ⟨callback, arrivals, worker, handed, completed⟩ := backend.iq.wake_rest
      have unchanged (idle : backend.iq.waiting = none) :
          backend.iq.wake = backend.iq := by
        simp [IqQueue.wake, idle]
      refine ⟨fed.queue.wake, callback.trans fed.callback, fed.logged.of_reader fed.queue
          (show (backend.iq.step .wake).worker = _ from worker) handed
          completed, ?_, ?_, ?_⟩
      · exact (congrArg List.length arrivals).trans fed.counted
      · intro response reading
        have idle := fed.quiet response reading
        exact (congrArg IqQueue.waiting (unchanged idle)).trans idle
      · intro response publishing
        have idle := fed.quiet response (.inr publishing)
        change backend.iq.wake.Drained
        rw [unchanged idle]
        exact fed.drained response publishing
  | drain =>
      simp only [Backend.step, Backend.drain]
      split
      · rename_i response draining
        split_ifs with empty
        · refine ⟨fed.queue, fed.callback, fed.logged, fed.counted, ?_, ?_⟩
          · intro _ _
            exact fed.quiet response (.inl draining)
          · intro _ _
            exact empty
        · exact fed
      · exact fed
  | publish =>
      simp only [Backend.step, Backend.publish]
      split
      · split_ifs
        · exact fed.of_reader rfl rfl (.inl rfl)
        · exact fed.of_reader rfl rfl (.inl rfl)
      · exact fed
  | worker action =>
      cases action with
      | take => exact fed.worker (.inl rfl)
      | call => exact fed.worker (.inr (.inl rfl))
      | complete => exact fed.worker (.inr (.inr rfl))
      | arrive message clockWorks => exact fed
      | wake => exact fed
  | request | arm | send sent clockWorks | check | wakeRequester | timeOut =>
      simp only [Backend.step, Backend.check, finish]
      repeat' split
      all_goals first | exact fed | exact fed.of_same rfl rfl rfl

/-- What a step does to what has been shown. -/
theorem visible_step (backend : Backend build) (action : BackendAction) :
    ((backend.step action).visible = backend.visible ∧
        ((backend.step action).responseReceived = true →
          backend.responseReceived = true ∧ (backend.step action).stored = backend.stored)) ∨
      ∃ response, backend.reader = .publishing response ∧
        (backend.step action).visible = backend.visible ++ [backend.snapshot] ∧
        (backend.step action).stored = some backend.snapshot.position := by
  have kept : backend.responseReceived = true →
      backend.responseReceived = true ∧ backend.stored = backend.stored :=
    fun received => ⟨received, rfl⟩
  cases action with
  | receive frame clockWorks =>
      refine .inl ?_
      simp only [Backend.step, Backend.receive]
      split_ifs
      · exact ⟨rfl, kept⟩
      · cases frame with
        | iq message =>
            dsimp only
            split_ifs
            · exact ⟨rfl, kept⟩
            · exact ⟨rfl, kept⟩
        | response response => exact ⟨rfl, kept⟩
        | other => exact ⟨rfl, kept⟩
  | publish =>
      simp only [Backend.step, Backend.publish]
      split
      · rename_i response publishing
        split_ifs
        · exact .inr ⟨response, publishing, rfl, rfl⟩
        · exact .inl ⟨rfl, kept⟩
      · exact .inl ⟨rfl, kept⟩
  | worker action => cases action <;> exact .inl ⟨rfl, kept⟩
  | wakeReader => exact .inl ⟨rfl, kept⟩
  | arm =>
      refine .inl ?_
      simp only [Backend.step]
      split
      · exact ⟨rfl, by simp⟩
      · exact ⟨rfl, kept⟩
  | failReceive | drain | request | send sent clockWorks | check
  | wakeRequester | timeOut =>
      refine .inl ?_
      simp only [Backend.step, Backend.drain, Backend.check, finish]
      repeat' split
      all_goals exact ⟨rfl, kept⟩

/-- A request is answered only by `check`, from the slots. -/
theorem completed_step (backend : Backend build) (action : BackendAction) :
    (backend.step action).completed = backend.completed ∨
      ∃ completion, (backend.step action).completed = backend.completed ++ [completion] ∧
          ∀ position, completion.outcome = .answered position →
            backend.responseReceived = true ∧ backend.stored = some position := by
  cases action with
  | check =>
      simp only [Backend.step]
      split
      · rename_i sequence _
        unfold Backend.check
        split_ifs with got
        · refine .inr ⟨_, rfl, fun position outcome => ⟨got, ?_⟩⟩
          rcases kept : backend.stored with _ | stored
          · simp [kept] at outcome
          · simpa [kept] using outcome
        · exact .inr ⟨_, rfl, by simp⟩
        · exact .inl rfl
      · exact .inl rfl
  | send sent clockWorks =>
      simp only [Backend.step]
      split
      · split_ifs
        · exact .inr ⟨_, rfl, by simp⟩
        · exact .inr ⟨_, rfl, by simp⟩
        · exact .inl rfl
      · exact .inl rfl
  | timeOut =>
      simp only [Backend.step]
      split
      · exact .inr ⟨_, rfl, by simp⟩
      · exact .inl rfl
  | receive frame clockWorks =>
      refine .inl ?_
      simp only [Backend.step, Backend.receive]
      split_ifs
      · rfl
      · cases frame with
        | iq message =>
            dsimp only
            split_ifs <;> rfl
        | response response => rfl
        | other => rfl
  | worker action => cases action <;> exact .inl rfl
  | failReceive | wakeReader | drain | publish | request | arm
  | wakeRequester =>
      refine .inl ?_
      simp only [Backend.step, Backend.drain, Backend.publish]
      repeat' split
      all_goals rfl

theorem ShownSound.step {backend : Backend build} (sound : backend.ShownSound)
    (fed : backend.QueueFed) (slots : backend.Slots)
    (action : BackendAction) : (backend.step action).ShownSound := by
  have more : ∃ frames, (backend.step action).received =
      backend.received ++ frames := by
    rcases backend.received_step action with same | ⟨frame, _, _, added⟩
    · exact ⟨[], same.trans (List.append_nil _).symm⟩
    · exact ⟨[frame], added⟩
  obtain ⟨frames, received⟩ := more
  -- Nothing that has been shown is withdrawn.
  have stays {shown : Visible} (member : shown ∈ backend.visible) :
      shown ∈ (backend.step action).visible := by
    rcases backend.visible_step action with ⟨same, -⟩ | ⟨_, _, added, -⟩
    · rw [same]
      exact member
    · rw [added]
      exact List.mem_append_left _ member
  refine ⟨?_, ?_, ?_⟩
  · intro shown member
    rcases backend.visible_step action with
      ⟨same, -⟩ | ⟨response, publishing, added, -⟩
    · exact (sound.right shown (same ▸ member)).append received
    · rw [added, List.mem_append, List.mem_singleton] at member
      rcases member with earlier | rfl
      · exact (sound.right shown earlier).append received
      · exact (fed.snapshot_right publishing
          (slots.reading response (.inr publishing))).append received
  · intro got
    rcases backend.visible_step action with
      ⟨same, kept⟩ | ⟨response, _, added, stored⟩
    · obtain ⟨before, stored⟩ := kept got
      rw [same, stored]
      exact sound.stored before
    · exact ⟨backend.snapshot, by rw [added]; simp, stored⟩
  · intro completion member position outcome
    rcases backend.completed_step action with
      same | ⟨new, added, answered⟩
    · obtain ⟨shown, visible, at_⟩ := sound.returned completion (same ▸ member) position outcome
      exact ⟨shown, stays visible, at_⟩
    · rw [added, List.mem_append, List.mem_singleton] at member
      rcases member with earlier | rfl
      · obtain ⟨shown, visible, at_⟩ := sound.returned completion earlier position outcome
        exact ⟨shown, stays visible, at_⟩
      · obtain ⟨got, stored⟩ := answered position outcome
        obtain ⟨shown, visible, at_⟩ := sound.stored got
        exact ⟨shown, stays visible, Option.some.inj (at_.symm.trans stored)⟩

/-! ### Every run -/

/-- What the order of responses rests on. -/
structure OrderInvariant (backend : Backend build) : Prop where
  slots : backend.Slots
  fed : backend.QueueFed
  sound : backend.ShownSound

theorem start_orderInvariant (build : IqBuild) (first : UInt32) :
    (start build first).OrderInvariant where
  slots := (start_matchInvariant build first).slots
  fed := by
    refine ⟨IqQueue.start_invariant build true, rfl, rfl, rfl, ?_, ?_⟩
    · rintro response (impossible | impossible) <;> cases impossible
    · intro response impossible
      cases impossible
  sound := ⟨nofun, nofun, nofun⟩

end Backend

open Backend

/-- In every interleaving of the reader, the worker and the requesters, a
response becomes visible after the callbacks of the IQ frames before it and
before those of the frames behind it. -/
theorem responses_ordered (build : IqBuild) (first : UInt32) (actions : List BackendAction) :
    (runSteps Backend.step (Backend.start build first) actions).ResponsesOrdered := by
  have preserved (backend : Backend build) (action : BackendAction)
      (inv : backend.OrderInvariant) : (backend.step action).OrderInvariant :=
    ⟨inv.slots.step action, inv.fed.step action, inv.sound.step inv.fed inv.slots action⟩
  have reached := invariant_of_steps preserved actions (start_orderInvariant build first)
  exact
    { delivered := fun shown member => (reached.sound.right shown member).delivered
      behind := fun shown member => (reached.sound.right shown member).behind
      returned := reached.sound.returned }

end OpenRsp
