import OpenRsp.Library.Ring
import OpenRsp.Library.Runs
import Mathlib.Data.Finset.Card
import Mathlib.Data.UInt

/-!
# The IQ queue of the daemon backend

`queue_iq` and the loop of `iq_main` in `compat/daemon_backend.c`.  Frames
live in slots; a ring of slot numbers orders those that wait for the worker.
The reader fills a free slot or, when there is none even after a short wait,
the slot of the oldest waiting frame.  The worker delivers a slot without
holding the lock.

Every call of `queue_iq` that stores its frame is numbered.  The numbers of
the frames handed over, about to be handed over and waiting grow, and a frame
is missing only when its slot was taken away.
-/

namespace OpenRsp

open Rings Runs

/-! ## Slots and messages -/

/-- The two builds of the library. -/
inductive IqBuild where
  | posix
  | windows
deriving DecidableEq, Repr

/-- `OPENRSP_DAEMON_IQ_QUEUE_CAPACITY`. -/
def IqBuild.capacity : IqBuild → Nat
  | .posix => 32
  | .windows => 128

/-- Whether `OPENRSP_DAEMON_IQ_QUEUE_WAIT_NANOSECONDS` is not zero. -/
def IqBuild.waits : IqBuild → Bool
  | .posix => true
  | .windows => false

/-- `OPENRSP_MAX_IQ_SAMPLES`. -/
def openrspMaxIqSamples : Nat := 65536

inductive IqSlotState where
  | free
  | queued
  | active
deriving DecidableEq, Repr

/-- The arguments of the IQ callback. -/
structure IqArguments where
  interleaved : List Int16
  samples : Nat
  sequence : UInt32
  tuner : UInt32
deriving DecidableEq, Repr

/-- The arguments of `queue_iq`; the buffer holds at least the samples. -/
structure IqMessage where
  interleaved : List Int16
  samples : Nat
  sequence : UInt32
  tuner : UInt32
  enough : 2 * samples ≤ interleaved.length
deriving DecidableEq, Repr

/-- What a message says. -/
def IqMessage.arguments (message : IqMessage) : IqArguments :=
  ⟨message.interleaved.take (2 * message.samples), message.samples, message.sequence, message.tuner⟩

/-- `openrsp_daemon_iq_frame`, and the number of the call that filled it. -/
structure IqSlot where
  state : IqSlotState
  samples : Nat
  sequence : UInt32
  tuner : UInt32
  interleaved : List Int16
  arrival : Nat
deriving DecidableEq, Repr

/-- What the worker passes to the callback. -/
def IqSlot.arguments (slot : IqSlot) : IqArguments :=
  ⟨slot.interleaved.take (2 * slot.samples), slot.samples, slot.sequence, slot.tuner⟩

/-- Fill a slot; `memcpy` leaves the rest of the buffer alone. -/
def IqSlot.fill (slot : IqSlot) (message : IqMessage) (arrival : Nat) :
    IqSlot where
  state := .queued
  samples := message.samples
  sequence := message.sequence
  tuner := message.tuner
  interleaved :=
    message.interleaved.take (2 * message.samples) ++ slot.interleaved.drop (2 * message.samples)
  arrival := arrival

@[simp]
theorem IqSlot.arguments_fill (slot : IqSlot) (message : IqMessage)
    (arrival : Nat) : (slot.fill message arrival).arguments =
      message.arguments := by
  have copied :
      (message.interleaved.take (2 * message.samples)).length = 2 * message.samples := by
    simpa using message.enough
  simp [IqSlot.fill, IqSlot.arguments, IqMessage.arguments,
    List.take_append_of_le_length (le_of_eq copied.symm)]

/-! ## The queue -/

/-- Where the worker is: waiting for a frame, about to call, in the
callback. -/
inductive IqWorker where
  | idle
  | taken (slot : Nat)
  | calling (slot : Nat)
deriving DecidableEq, Repr

/-- The slot the worker holds. -/
def IqWorker.slot : IqWorker → Option Nat
  | .idle => none
  | .taken slot | .calling slot => some slot

/-- A discarded frame, the oldest waiting frame and the first free slot at
that time, and how many frames had arrived. -/
structure IqDiscard where
  arrival : Nat
  oldest : Option Nat
  free : Option Nat
  arrived : Nat
deriving DecidableEq, Repr

/-- The part of `openrsp_daemon_backend` the queue uses, where its two
threads are, and what has happened.  `waiting` is the message of a
`queue_iq` that waits for a free slot. -/
structure IqQueue (build : IqBuild) where
  callback : Bool
  frames : Nat → IqSlot
  queue : Ring Nat build.capacity
  active : Bool
  dropCount : UInt32
  worker : IqWorker
  waiting : Option IqMessage
  arrivals : List IqMessage
  handed : List (Nat × IqArguments)
  completed : List Nat
  discards : List IqDiscard

/-- The steps of the reader and the worker.  `clockWorks` is the outcome of
`clock_gettime`. -/
inductive IqAction where
  | arrive (message : IqMessage) (clockWorks : Bool)
  | wake
  | take
  | call
  | complete
deriving DecidableEq, Repr

namespace IqQueue

variable {build : IqBuild}

/-- A zeroed backend. -/
def start (build : IqBuild) (callback : Bool) : IqQueue build where
  callback := callback
  frames := fun _ => ⟨.free, 0, 0, 0, [], 0⟩
  queue :=
    { slots := fun _ => 0
      head := 0
      count := 0
      headBound := by cases build <;> decide
      countBound := Nat.zero_le _ }
  active := false
  dropCount := 0
  worker := .idle
  waiting := none
  arrivals := []
  handed := []
  completed := []
  discards := []

/-- The queued slots, oldest first. -/
def queued (queue : IqQueue build) : List Nat := queue.queue.toList

/-- The first free slot. -/
def firstFree (queue : IqQueue build) : Option Nat :=
  (List.range build.capacity).find? fun slot =>
    (queue.frames slot).state == .free

/-- Fill a slot and append it to the queue.  The source does not look
whether there is room: a slot that is not queued leaves some. -/
def place (queue : IqQueue build) (slot : Nat) (message : IqMessage) :
    IqQueue build :=
  if room : queue.queue.count < build.capacity then
    { queue with
      frames := Function.update queue.frames slot
          ((queue.frames slot).fill message (queue.arrivals.length - 1))
      queue := queue.queue.pushBack slot room }
  else queue

/-- The message has no slot: record what is lost. -/
def discard (queue : IqQueue build) (arrival : Nat) : IqQueue build :=
  { queue with
    discards := queue.discards ++
        [⟨arrival,
          queue.queued.head?.map fun slot => (queue.frames slot).arrival,
          queue.firstFree, queue.arrivals.length⟩] }

/-- Take the slot of the oldest waiting frame. -/
def steal (queue : IqQueue build) : IqQueue build :=
  { queue.discard (queue.frames queue.queue.front).arrival with
    queue := queue.queue.dropFront
    dropCount := queue.dropCount + 1 }

/-- `queue_iq` from its last scan for a free slot on. -/
def settle (queue : IqQueue build) (message : IqMessage) : IqQueue build :=
  let ready := { queue with waiting := none }
  match queue.firstFree with
  | some slot => ready.place slot message
  | none =>
      if queue.queue.count = 0 then ready.discard (queue.arrivals.length - 1)
      else ready.steal.place queue.queue.front message

/-- `queue_iq` has its message. -/
def register (queue : IqQueue build) (message : IqMessage) :
    IqQueue build :=
  { queue with
    arrivals := queue.arrivals ++ [message]
    waiting := some message }

/-- `queue_iq` up to its wait, or to its end when it does not wait. -/
def arrive (queue : IqQueue build) (message : IqMessage) (clockWorks : Bool) :
    IqQueue build :=
  if queue.callback = false ∨ openrspMaxIqSamples < message.samples ∨
      queue.waiting.isSome then
    queue
  else if build.waits ∧ queue.firstFree = none ∧ queue.queue.count ≠ 0 ∧
      clockWorks then
    queue.register message
  else (queue.register message).settle message

/-- The wait of `queue_iq` ends. -/
def wake (queue : IqQueue build) : IqQueue build :=
  match queue.waiting with
  | none => queue
  | some message => queue.settle message

/-- `iq_main` takes the oldest waiting frame. -/
def take (queue : IqQueue build) : IqQueue build :=
  if queue.worker ≠ .idle ∨ queue.queue.count = 0 then queue
  else
    let slot := queue.queue.front
    { queue with
      frames := Function.update queue.frames slot
          { queue.frames slot with state := .active }
      queue := queue.queue.dropFront
      active := true
      worker := .taken slot }

/-- `iq_main` calls the callback, without the lock. -/
def call (queue : IqQueue build) : IqQueue build :=
  match queue.worker with
  | .taken slot =>
      { queue with
        worker := .calling slot
        handed := queue.handed ++ [((queue.frames slot).arrival, (queue.frames slot).arguments)] }
  | _ => queue

/-- The callback has returned. -/
def complete (queue : IqQueue build) : IqQueue build :=
  match queue.worker with
  | .calling slot =>
      { queue with
        frames := Function.update queue.frames slot
            { queue.frames slot with state := .free }
        active := false
        worker := .idle
        completed := queue.completed ++ [(queue.frames slot).arrival] }
  | _ => queue

/-- One step. -/
def step (queue : IqQueue build) : IqAction → IqQueue build
  | .arrive message clockWorks => queue.arrive message clockWorks
  | .wake => queue.wake
  | .take => queue.take
  | .call => queue.call
  | .complete => queue.complete

/-! ## What the queue guarantees -/

/-- The number of the frame the worker has taken but not handed over. -/
def takenArrivals (queue : IqQueue build) : List Nat :=
  match queue.worker with
  | .taken slot => [(queue.frames slot).arrival]
  | _ => []

/-- The numbers of the frames handed over, taken and waiting. -/
def kept (queue : IqQueue build) : List Nat :=
  queue.handed.map Prod.fst ++ queue.takenArrivals ++
    queue.queued.map fun slot => (queue.frames slot).arrival

/-- Queued slots are distinct and marked; the only active slot is the
worker's, and it is not queued. -/
structure SlotsHeld (queue : IqQueue build) : Prop where
  distinct : queue.queued.Nodup
  marked : ∀ slot ∈ queue.queued, slot < build.capacity ∧ (queue.frames slot).state = .queued
  active :
    ∀ slot < build.capacity, (queue.frames slot).state = .active ↔ queue.worker.slot = some slot
  held : ∀ slot, queue.worker.slot = some slot → slot < build.capacity ∧ slot ∉ queue.queued
  flagged : queue.active = queue.worker.slot.isSome

/-- All other slots are free. -/
structure SlotsSound (queue : IqQueue build) : Prop extends
    SlotsHeld queue where
  free : ∀ slot < build.capacity, slot ∉ queue.queued →
      queue.worker.slot ≠ some slot → (queue.frames slot).state = .free

/-- What is queued, active or has been handed over is what arrived. -/
structure ContentsSound (queue : IqQueue build) : Prop where
  contents : ∀ slot, slot ∈ queue.queued ∨ queue.worker.slot = some slot →
      queue.arrivals[(queue.frames slot).arrival]?.map IqMessage.arguments =
        some (queue.frames slot).arguments
  delivered :
    ∀ entry ∈ queue.handed, queue.arrivals[entry.1]?.map IqMessage.arguments = some entry.2

/-- Frames are handed over in the order of their arrival and at most once; a
discarded frame was the oldest waiting one, when no slot was free, and not
the newest. -/
structure OrderSound (queue : IqQueue build) : Prop where
  ordered : queue.kept.Pairwise (· < ·)
  overflow : ∀ lost ∈ queue.discards,
      lost.oldest = some lost.arrival ∧ lost.free = none ∧ lost.arrival + 1 < lost.arrived

/-- The guarantees of the queue; no arrival is missing unless it was
discarded. -/
structure Sound (queue : IqQueue build) : Prop extends
    SlotsSound queue, ContentsSound queue, OrderSound queue where
  accounted : ∀ arrival < queue.arrivals.length, arrival ∈ queue.kept ∨
        (queue.waiting.isSome ∧ arrival + 1 = queue.arrivals.length) ∨
        ∃ lost ∈ queue.discards, lost.arrival = arrival

/-! ## Room -/

/-- A slot that is neither queued nor held by the worker. -/
structure Available (queue : IqQueue build) (slot : Nat) : Prop where
  bound : slot < build.capacity
  unqueued : slot ∉ queue.queued
  unheld : queue.worker.slot ≠ some slot

theorem two_le_capacity (build : IqBuild) : 2 ≤ build.capacity := by
  cases build <;> decide

theorem SlotsHeld.room {queue : IqQueue build} (sound : queue.SlotsHeld)
    {slot : Nat} (available : queue.Available slot) :
    queue.queue.count < build.capacity := by
  have distinct : (slot :: queue.queued).Nodup :=
    List.nodup_cons.mpr ⟨available.unqueued, sound.distinct⟩
  have within :
      (slot :: queue.queued).toFinset ⊆ Finset.range build.capacity := by
    intro other member
    rw [List.mem_toFinset] at member
    rw [Finset.mem_range]
    rcases List.mem_cons.mp member with rfl | queued
    · exact available.bound
    · exact (sound.marked other queued).1
  have counted := Finset.card_le_card within
  rw [List.toFinset_card_of_nodup distinct, Finset.card_range,
    List.length_cons, IqQueue.queued, Ring.length_toList] at counted
  exact counted

theorem SlotsSound.available_of_free {queue : IqQueue build} (sound : queue.SlotsSound) {slot : Nat}
    (found : queue.firstFree = some slot) : queue.Available slot := by
  have isFree : (queue.frames slot).state = .free := by
    simpa using List.find?_some found
  have bound : slot < build.capacity := by
    simpa using List.mem_of_find?_eq_some found
  refine ⟨bound, fun queued => ?_, fun held => ?_⟩
  · simp [(sound.marked slot queued).2] at isFree
  · simp [(sound.active slot bound).mpr held] at isFree

/-- With no free slot some frame is waiting: the worker holds only one. -/
theorem SlotsSound.occupied_of_full {queue : IqQueue build}
    (sound : queue.SlotsSound) (full : queue.firstFree = none) :
    queue.queue.count ≠ 0 := by
  intro empty
  have nobody : queue.queued = [] := Ring.toList_eq_nil empty
  have held (slot : Nat) (bound : slot < build.capacity) :
      queue.worker.slot = some slot := by
    by_contra unheld
    have isFree := sound.free slot bound (by simp [nobody]) unheld
    have taken := List.find?_eq_none.mp full slot (List.mem_range.mpr bound)
    simp [isFree] at taken
  have capacity := two_le_capacity build
  have first := held 0 (by omega)
  have second := held 1 (by omega)
  simp [first] at second

theorem queued_place {queue : IqQueue build}
    (room : queue.queue.count < build.capacity) (slot : Nat)
    (message : IqMessage) :
    (queue.place slot message).queued = queue.queued ++ [slot] := by
  simp only [place, dif_pos room, IqQueue.queued, Ring.toList_pushBack]

theorem frames_place {queue : IqQueue build} {slot : Nat}
    (room : queue.queue.count < build.capacity) (message : IqMessage) :
    (queue.place slot message).frames = Function.update queue.frames slot
        ((queue.frames slot).fill message (queue.arrivals.length - 1)) := by
  simp only [place, dif_pos room]

/-- Placing a message leaves the rest of the backend alone. -/
theorem place_rest (queue : IqQueue build) (slot : Nat) (message : IqMessage) :
    (queue.place slot message).worker = queue.worker ∧
      (queue.place slot message).active = queue.active ∧
      (queue.place slot message).waiting = queue.waiting ∧
      (queue.place slot message).arrivals = queue.arrivals ∧
      (queue.place slot message).handed = queue.handed ∧
      (queue.place slot message).discards = queue.discards := by
  unfold place
  split_ifs <;> exact ⟨rfl, rfl, rfl, rfl, rfl, rfl⟩

/-- Filling an available slot; all others outside the queue are free. -/
theorem SlotsHeld.place {queue : IqQueue build} (sound : queue.SlotsHeld)
    {slot : Nat} (available : queue.Available slot)
    (free : ∀ other < build.capacity, other ∉ queue.queued →
        queue.worker.slot ≠ some other → other ≠ slot → (queue.frames other).state = .free)
    (message : IqMessage) : (queue.place slot message).SlotsSound := by
  have room := sound.room available
  obtain ⟨worker, active, -, -, -, -⟩ := place_rest queue slot message
  have others {other : Nat} (different : other ≠ slot) :
      (queue.place slot message).frames other = queue.frames other := by
    rw [frames_place room, Function.update_of_ne different]
  have filled :
      ((queue.place slot message).frames slot).state = .queued := by
    rw [frames_place room, Function.update_self]
    rfl
  have queued := queued_place room slot message
  refine ⟨⟨?_, ?_, ?_, ?_, ?_⟩, ?_⟩
  · rw [queued, List.nodup_append_comm]
    simpa using ⟨available.unqueued, sound.distinct⟩
  · intro other member
    rw [queued, List.mem_append, List.mem_singleton] at member
    by_cases same : other = slot
    · subst same
      exact ⟨available.bound, filled⟩
    · rw [others same]
      exact sound.marked other (member.resolve_right same)
  · intro other bound
    rw [worker]
    by_cases same : other = slot
    · subst same
      simp [filled, available.unheld]
    · rw [others same]
      exact sound.active other bound
  · intro other held
    rw [worker] at held
    obtain ⟨bound, unqueued⟩ := sound.held other held
    refine ⟨bound, ?_⟩
    rw [queued, List.mem_append, List.mem_singleton]
    rintro (member | rfl)
    · exact unqueued member
    · exact available.unheld held
  · rw [active, worker]
    exact sound.flagged
  · intro other bound unqueued unheld
    rw [queued, List.mem_append, List.mem_singleton, not_or] at unqueued
    rw [worker] at unheld
    rw [others unqueued.2]
    exact free other bound unqueued.1 unheld unqueued.2

/-! ## Storing a message -/

/-- A message is about to be stored in a slot: it is the last arrival, and
all earlier ones are accounted for. -/
structure Storing
    (queue : IqQueue build) (message : IqMessage) (slot : Nat) : Prop extends
    SlotsHeld queue, ContentsSound queue, OrderSound queue,
    Available queue slot where
  free : ∀ other < build.capacity, other ∉ queue.queued →
      queue.worker.slot ≠ some other → other ≠ slot → (queue.frames other).state = .free
  last : queue.arrivals.getLast? = some message
  idle : queue.waiting = none
  bounded : ∀ arrival ∈ queue.kept, arrival + 1 < queue.arrivals.length
  accounted : ∀ arrival, arrival + 1 < queue.arrivals.length →
      arrival ∈ queue.kept ∨ ∃ lost ∈ queue.discards, lost.arrival = arrival

/-- The invariant between the steps. -/
structure Invariant (queue : IqQueue build) : Prop extends
    Sound queue where
  bounded : ∀ arrival ∈ queue.kept, arrival + (if queue.waiting.isSome then 1 else 0) <
        queue.arrivals.length
  last : ∀ message, queue.waiting = some message → queue.arrivals.getLast? = some message

/-- The last arrival is the one whose number is the largest. -/
theorem Storing.getElem_last {queue : IqQueue build} {message : IqMessage}
    {slot : Nat} (storing : queue.Storing message slot) :
    queue.arrivals[queue.arrivals.length - 1]? = some message := by
  rw [← List.getLast?_eq_getElem?]
  exact storing.last

theorem Storing.length_pos {queue : IqQueue build} {message : IqMessage}
    {slot : Nat} (storing : queue.Storing message slot) : 0 < queue.arrivals.length := by
  refine List.length_pos_of_ne_nil fun empty => ?_
  have last := storing.last
  simp [empty] at last

theorem Storing.contentsSound {queue : IqQueue build} {message : IqMessage}
    {slot : Nat} (storing : queue.Storing message slot) :
    (queue.place slot message).ContentsSound := by
  have room := storing.room storing.toAvailable
  obtain ⟨worker, -, -, arrivals, handed, -⟩ := place_rest queue slot message
  refine ⟨?_, ?_⟩
  · intro other member
    rw [arrivals, frames_place room]
    rw [queued_place room, List.mem_append, List.mem_singleton, worker] at member
    by_cases same : other = slot
    · subst same
      rw [Function.update_self]
      simp only [IqSlot.arguments_fill]
      rw [IqSlot.fill, storing.getElem_last]
      rfl
    · rw [Function.update_of_ne same]
      refine storing.contents other ?_
      tauto
  · rw [arrivals, handed]
    exact storing.delivered

/-- The new frame is the last one kept. -/
theorem kept_place {queue : IqQueue build} (sound : queue.SlotsHeld)
    {slot : Nat} (available : queue.Available slot) (message : IqMessage) :
    (queue.place slot message).kept = queue.kept ++ [queue.arrivals.length - 1] := by
  have room := sound.room available
  obtain ⟨worker, -, -, -, handed, -⟩ := place_rest queue slot message
  have arrivalOf {other : Nat} (different : other ≠ slot) :
      ((queue.place slot message).frames other).arrival = (queue.frames other).arrival := by
    rw [frames_place room, Function.update_of_ne different]
  have taken :
      (queue.place slot message).takenArrivals = queue.takenArrivals := by
    unfold takenArrivals
    rw [worker]
    split
    · rename_i held working
      have different : held ≠ slot := by
        rintro rfl
        exact available.unheld (by simp [working, IqWorker.slot])
      rw [arrivalOf different]
    · rfl
  have queued : (queue.place slot message).queued.map
          (fun other => ((queue.place slot message).frames other).arrival) =
        queue.queued.map (fun other => (queue.frames other).arrival) ++
          [queue.arrivals.length - 1] := by
    rw [queued_place room, List.map_append, List.map_singleton]
    congr 1
    · refine List.map_congr_left fun other member => arrivalOf ?_
      rintro rfl
      exact available.unqueued member
    · rw [frames_place room, Function.update_self]
      rfl
  simp only [kept, handed, taken, queued, List.append_assoc]

theorem Storing.place {queue : IqQueue build} {message : IqMessage}
    {slot : Nat} (storing : queue.Storing message slot) :
    (queue.place slot message).Invariant := by
  obtain ⟨-, -, waiting, arrivals, -, discards⟩ := place_rest queue slot message
  have kept := kept_place storing.toSlotsHeld storing.toAvailable message
  have positive := storing.length_pos
  refine { storing.toSlotsHeld.place storing.toAvailable storing.free message,
      storing.contentsSound with
    ordered := ?_, overflow := ?_, accounted := ?_, bounded := ?_,
    last := ?_ }
  · rw [kept, List.pairwise_append]
    refine ⟨storing.ordered, List.pairwise_singleton _ _, ?_⟩
    intro arrival member newest isNewest
    have bounded := storing.bounded arrival member
    have isNewest := List.mem_singleton.mp isNewest
    omega
  · rw [discards]
    exact storing.overflow
  · intro arrival bound
    rw [arrivals] at bound
    rw [kept, discards, List.mem_append, List.mem_singleton]
    by_cases newest : arrival + 1 < queue.arrivals.length
    · rcases storing.accounted arrival newest with member | lost
      · exact .inl (.inl member)
      · exact .inr (.inr lost)
    · exact .inl (.inr (by omega))
  · rw [kept, arrivals, waiting, storing.idle]
    intro arrival member
    rw [List.mem_append, List.mem_singleton] at member
    rcases member with earlier | rfl
    · have bounded := storing.bounded arrival earlier
      simp only [Option.isSome_none, Bool.false_eq_true, if_false]
      omega
    · simp only [Option.isSome_none, Bool.false_eq_true, if_false]
      omega
  · rw [waiting, storing.idle]
    nofun

/-! ## Choosing a slot -/

/-- A `queue_iq` that waits, taken out of its wait. -/
theorem Invariant.storing {queue : IqQueue build}
    (invariant : queue.Invariant) {message : IqMessage}
    (waiting : queue.waiting = some message) {slot : Nat}
    (available : queue.Available slot) :
    ({ queue with waiting := none } : IqQueue build).Storing message slot where
  toSlotsHeld := { invariant.toSlotsHeld with }
  toContentsSound := { invariant.toContentsSound with }
  toOrderSound := { invariant.toOrderSound with }
  toAvailable := { available with }
  free other bound unqueued unheld _ := invariant.free other bound unqueued unheld
  last := invariant.last message waiting
  idle := rfl
  bounded arrival member := by
    have bounded := invariant.bounded arrival member
    simpa [waiting] using bounded
  accounted arrival earlier := by
    have earlier : arrival + 1 < queue.arrivals.length := earlier
    rcases invariant.accounted arrival (by omega) with
      member | ⟨-, newest⟩ | lost
    · exact .inl member
    · omega
    · exact .inr lost

theorem queued_steal {queue : IqQueue build} (occupied : queue.queue.count ≠ 0) :
    queue.queued = queue.queue.front :: queue.steal.queued :=
  queue.queue.toList_eq_front_cons occupied

/-- Without the oldest waiting frame the numbers still grow. -/
theorem kept_steal {queue : IqQueue build} (occupied : queue.queue.count ≠ 0) : ∃ before after,
      queue.kept = before ++ (queue.frames queue.queue.front).arrival :: after ∧
      queue.steal.kept = before ++ after := by
  refine ⟨_, _, ?_, rfl⟩
  rw [kept, queued_steal occupied]
  rfl

theorem discards_steal {queue : IqQueue build} (occupied : queue.queue.count ≠ 0)
    (full : queue.firstFree = none) :
    queue.steal.discards = queue.discards ++
      [⟨(queue.frames queue.queue.front).arrival,
        some (queue.frames queue.queue.front).arrival, none, queue.arrivals.length⟩] := by
  have first : queue.queued.head? = some queue.queue.front := by
    rw [queued_steal occupied]
    rfl
  simp only [steal, discard, full, first, Option.map_some]

/-- The oldest waiting frame moves from what is kept to what is lost. -/
theorem Invariant.accounted_steal {queue : IqQueue build} (invariant : queue.Invariant)
    (full : queue.firstFree = none) {arrival : Nat}
    (earlier : arrival + 1 < queue.arrivals.length) :
    arrival ∈ queue.steal.kept ∨ ∃ lost ∈ queue.steal.discards, lost.arrival = arrival := by
  have occupied := invariant.occupied_of_full full
  obtain ⟨before, after, keptBefore, keptAfter⟩ := kept_steal occupied
  rw [keptAfter, discards_steal occupied full]
  rcases invariant.accounted arrival (by omega) with
    known | ⟨-, newest⟩ | ⟨lost, found, same⟩
  · rw [keptBefore, List.mem_append, List.mem_cons] at known
    rcases known with inBefore | rfl | inAfter
    · exact .inl (List.mem_append_left _ inBefore)
    · exact .inr ⟨_, List.mem_append_right _ List.mem_cons_self, rfl⟩
    · exact .inl (List.mem_append_right _ inAfter)
  · omega
  · exact .inr ⟨lost, List.mem_append_left _ found, same⟩

/-- The slot of the oldest waiting frame can be taken when none is free. -/
theorem Invariant.storing_steal {queue : IqQueue build}
    (invariant : queue.Invariant) {message : IqMessage}
    (waiting : queue.waiting = some message)
    (full : queue.firstFree = none) :
    ({ queue with waiting := none } : IqQueue build).steal.Storing message
      queue.queue.front := by
  have occupied := invariant.occupied_of_full full
  have queued := queued_steal occupied
  have member : queue.queue.front ∈ queue.queued := by simp [queued]
  have distinct := invariant.distinct
  rw [queued, List.nodup_cons] at distinct
  obtain ⟨before, after, keptBefore, keptAfter⟩ := kept_steal occupied
  have fewer : queue.steal.kept.Sublist queue.kept := by
    rw [keptBefore, keptAfter]
    exact (List.sublist_cons_self _ after).append_left before
  have oldest :
      (queue.frames queue.queue.front).arrival ∈ queue.kept := by
    simp [keptBefore]
  have bounded (arrival : Nat) (known : arrival ∈ queue.kept) :
      arrival + 1 < queue.arrivals.length := by
    simpa [waiting] using invariant.bounded arrival known
  have stays {slot : Nat} (kept : slot ∈ queue.steal.queued) :
      slot ∈ queue.queued := by
    rw [queued]
    exact List.mem_cons_of_mem _ kept
  refine
    { distinct := distinct.2
      marked := fun slot kept => invariant.marked slot (stays kept)
      active := invariant.active
      held := fun slot held =>
        ⟨(invariant.held slot held).1, fun kept => (invariant.held slot held).2 (stays kept)⟩
      flagged := invariant.flagged
      contents := fun slot kept =>
        invariant.contents slot (kept.imp_left stays)
      delivered := invariant.delivered
      ordered := invariant.ordered.sublist fewer
      overflow := ?_
      bound := (invariant.marked _ member).1
      unqueued := distinct.1
      unheld := fun held => (invariant.held _ held).2 member
      free := ?_
      last := invariant.last message waiting
      idle := rfl
      bounded := fun arrival kept => bounded arrival (fewer.subset kept)
      accounted := fun _ earlier => invariant.accounted_steal full earlier }
  · intro lost found
    have found : lost ∈ queue.steal.discards := found
    rw [discards_steal occupied full, List.mem_append, List.mem_singleton] at found
    rcases found with earlier | rfl
    · exact invariant.overflow lost earlier
    · exact ⟨rfl, rfl, bounded _ oldest⟩
  · intro slot bound unqueued unheld different
    refine invariant.free slot bound ?_ unheld
    rw [queued]
    exact List.mem_cons.not.mpr (not_or.mpr ⟨different, unqueued⟩)

/-! ## The steps -/

theorem Invariant.settle {queue : IqQueue build} (invariant : queue.Invariant) {message : IqMessage}
    (waiting : queue.waiting = some message) :
    (queue.settle message).Invariant := by
  unfold IqQueue.settle
  dsimp only
  split
  · rename_i slot found
    exact (invariant.storing waiting (invariant.available_of_free found)).place
  · rename_i full
    rw [if_neg (invariant.occupied_of_full full)]
    exact (invariant.storing_steal waiting full).place

theorem Invariant.register {queue : IqQueue build}
    (invariant : queue.Invariant) (idle : queue.waiting = none)
    (message : IqMessage) : (queue.register message).Invariant := by
  have earlier {arrival : Nat} {arguments : IqArguments}
      (found : queue.arrivals[arrival]?.map IqMessage.arguments = some arguments) :
      (queue.arrivals ++ [message])[arrival]?.map IqMessage.arguments =
        some arguments := by
    obtain ⟨known, arrived, same⟩ := Option.map_eq_some_iff.mp found
    have bound := (List.getElem?_eq_some_iff.mp arrived).choose
    rw [List.getElem?_append_left bound, found]
  refine
    { invariant.toSlotsSound, invariant.toOrderSound with
      contents := fun slot kept => earlier (invariant.contents slot kept)
      delivered := fun entry kept => earlier (invariant.delivered entry kept)
      accounted := ?_
      bounded := ?_
      last := ?_ }
  · intro arrival bound
    have bound : arrival < (queue.arrivals ++ [message]).length := bound
    rw [List.length_append, List.length_singleton] at bound
    by_cases newest : arrival < queue.arrivals.length
    · rcases invariant.accounted arrival newest with
        known | ⟨waits, -⟩ | lost
      · exact .inl known
      · simp [idle] at waits
      · exact .inr (.inr lost)
    · refine .inr (.inl ⟨rfl, ?_⟩)
      simp only [IqQueue.register, List.length_append, List.length_singleton]
      omega
  · intro arrival known
    have bounded : arrival < queue.arrivals.length := by
      simpa [idle] using invariant.bounded arrival known
    change arrival + 1 < (queue.arrivals ++ [message]).length
    rw [List.length_append, List.length_singleton]
    omega
  · intro stored waiting
    have same : message = stored := Option.some.inj waiting
    rw [← same]
    exact List.getLast?_concat

theorem Invariant.arrive {queue : IqQueue build} (invariant : queue.Invariant) (message : IqMessage)
    (clockWorks : Bool) : (queue.arrive message clockWorks).Invariant := by
  unfold IqQueue.arrive
  split_ifs with ignored waits
  · exact invariant
  all_goals
    have idle : queue.waiting = none := by
      simpa using (not_or.mp (not_or.mp ignored).2).2
    have registered := invariant.register idle message
  · exact registered
  · exact registered.settle rfl

theorem Invariant.wake {queue : IqQueue build}
    (invariant : queue.Invariant) : queue.wake.Invariant := by
  unfold IqQueue.wake
  split
  · exact invariant
  · rename_i message waiting
    exact invariant.settle waiting

/-- Marking a slot changes neither its number nor its contents. -/
theorem frames_mark (queue : IqQueue build) (slot other : Nat) (state : IqSlotState) :
    (Function.update queue.frames slot
        { queue.frames slot with state := state } other).arrival = (queue.frames other).arrival ∧
      (Function.update queue.frames slot
        { queue.frames slot with state := state } other).arguments =
          (queue.frames other).arguments := by
  by_cases same : other = slot
  · subst same
    rw [Function.update_self]
    exact ⟨rfl, rfl⟩
  · rw [Function.update_of_ne same]
    exact ⟨rfl, rfl⟩

/-- A step that keeps the numbers in order, the arrivals and the discarded
frames keeps the rest of the invariant. -/
theorem Invariant.of_kept {before after : IqQueue build}
    (invariant : before.Invariant) (slots : after.SlotsSound)
    (contents : after.ContentsSound) (kept : after.kept = before.kept)
    (waiting : after.waiting = before.waiting)
    (arrivals : after.arrivals = before.arrivals)
    (discards : after.discards = before.discards) : after.Invariant where
  toSlotsSound := slots
  toContentsSound := contents
  ordered := kept ▸ invariant.ordered
  overflow := discards ▸ invariant.overflow
  accounted := by
    rw [kept, waiting, arrivals, discards]
    exact invariant.accounted
  bounded := by
    rw [kept, waiting, arrivals]
    exact invariant.bounded
  last := by
    rw [waiting, arrivals]
    exact invariant.last

theorem Invariant.take {queue : IqQueue build}
    (invariant : queue.Invariant) : queue.take.Invariant := by
  unfold IqQueue.take
  split_ifs with idle
  · exact invariant
  · obtain ⟨working, occupied⟩ := not_or.mp idle
    have working : queue.worker = .idle := not_not.mp working
    have nobody : queue.worker.slot = none := by simp [working, IqWorker.slot]
    have queued :
        queue.queued = queue.queue.front :: queue.queue.dropFront.toList :=
      queue.queue.toList_eq_front_cons occupied
    have member : queue.queue.front ∈ queue.queued := by simp [queued]
    have marked := invariant.marked _ member
    have distinct := invariant.distinct
    rw [queued, List.nodup_cons] at distinct
    have stays {slot : Nat} (kept : slot ∈ queue.queue.dropFront.toList) :
        slot ∈ queue.queued := by
      rw [queued]
      exact List.mem_cons_of_mem _ kept
    have other {slot : Nat} (kept : slot ∈ queue.queue.dropFront.toList) :
        slot ≠ queue.queue.front := by
      rintro rfl
      exact distinct.1 kept
    refine invariant.of_kept ⟨⟨distinct.2, ?_, ?_, ?_, rfl⟩, ?_⟩ ⟨?_, ?_⟩ ?_ rfl rfl rfl
    · intro slot kept
      have kept : slot ∈ queue.queue.dropFront.toList := kept
      dsimp only
      rw [Function.update_of_ne (other kept)]
      exact invariant.marked slot (stays kept)
    · intro slot bound
      dsimp only [IqWorker.slot]
      by_cases same : slot = queue.queue.front
      · subst same
        simp
      · rw [Function.update_of_ne same]
        have active := invariant.active slot bound
        simpa [nobody, Ne.symm same] using active
    · intro slot held
      have held : queue.queue.front = slot := by
        simpa [IqWorker.slot] using held
      subst held
      exact ⟨marked.1, distinct.1⟩
    · intro slot bound unqueued unheld
      have unheld : slot ≠ queue.queue.front := by
        simpa [IqWorker.slot, eq_comm] using unheld
      dsimp only
      rw [Function.update_of_ne unheld]
      refine invariant.free slot bound ?_ (by simp [nobody])
      rw [queued]
      exact List.mem_cons.not.mpr (not_or.mpr ⟨unheld, unqueued⟩)
    · intro slot kept
      obtain ⟨arrival, arguments⟩ := frames_mark queue queue.queue.front slot .active
      dsimp only
      rw [arrival, arguments]
      refine invariant.contents slot (.inl ?_)
      rcases kept with inQueue | held
      · exact stays inQueue
      · have held : queue.queue.front = slot := by
          simpa [IqWorker.slot] using held
        exact held ▸ member
    · exact invariant.delivered
    · have arrival (slot : Nat) := (frames_mark queue queue.queue.front slot .active).1
      simp only [kept, takenArrivals, working, arrival, queued,
        List.map_cons, List.append_assoc, List.nil_append,
        List.singleton_append]
      rfl

theorem Invariant.call {queue : IqQueue build}
    (invariant : queue.Invariant) : queue.call.Invariant := by
  unfold IqQueue.call
  split
  · rename_i slot working
    have held : queue.worker.slot = some slot := by
      simp [working, IqWorker.slot]
    have holds : queue.worker.slot = (IqWorker.calling slot).slot := held
    refine invariant.of_kept
      ⟨⟨invariant.distinct, invariant.marked, ?_, ?_, ?_⟩, ?_⟩ ⟨?_, ?_⟩ ?_
      rfl rfl rfl
    · exact holds ▸ invariant.active
    · exact holds ▸ invariant.held
    · exact holds ▸ invariant.flagged
    · exact holds ▸ invariant.free
    · exact holds ▸ invariant.contents
    · intro entry member
      rw [List.mem_append, List.mem_singleton] at member
      rcases member with earlier | rfl
      · exact invariant.delivered entry earlier
      · exact invariant.contents slot (.inr held)
    · simp [kept, takenArrivals, working, IqQueue.queued]
  · exact invariant

theorem Invariant.complete {queue : IqQueue build}
    (invariant : queue.Invariant) : queue.complete.Invariant := by
  unfold IqQueue.complete
  split
  · rename_i slot working
    have held : queue.worker.slot = some slot := by
      simp [working, IqWorker.slot]
    obtain ⟨bound, unqueued⟩ := invariant.held slot held
    have other {queued : Nat} (kept : queued ∈ queue.queued) :
        queued ≠ slot := by
      rintro rfl
      exact unqueued kept
    refine invariant.of_kept ⟨⟨invariant.distinct, ?_, ?_, nofun, rfl⟩, ?_⟩ ⟨?_, ?_⟩ ?_ rfl rfl rfl
    · intro queued kept
      dsimp only
      rw [Function.update_of_ne (other kept)]
      exact invariant.marked queued kept
    · intro marked inRange
      dsimp only [IqWorker.slot]
      by_cases same : marked = slot
      · subst same
        simp
      · rw [Function.update_of_ne same, invariant.active marked inRange, held]
        simp [Ne.symm same]
    · intro freed inRange unqueued _
      dsimp only
      by_cases same : freed = slot
      · subst same
        simp
      · rw [Function.update_of_ne same]
        refine invariant.free freed inRange unqueued ?_
        rw [held]
        simpa using Ne.symm same
    · intro queued kept
      obtain ⟨arrival, arguments⟩ := frames_mark queue slot queued .free
      dsimp only
      rw [arrival, arguments]
      exact invariant.contents queued (.inl (kept.resolve_right nofun))
    · exact invariant.delivered
    · have arrival (queued : Nat) := (frames_mark queue slot queued .free).1
      simp only [kept, takenArrivals, working, arrival]
      rfl
  · exact invariant

theorem Invariant.step {queue : IqQueue build} (invariant : queue.Invariant) (action : IqAction) :
    (queue.step action).Invariant := by
  cases action with
  | arrive message clockWorks => exact invariant.arrive message clockWorks
  | wake => exact invariant.wake
  | take => exact invariant.take
  | call => exact invariant.call
  | complete => exact invariant.complete

theorem start_invariant (build : IqBuild) (callback : Bool) :
    (start build callback).Invariant where
  distinct := List.nodup_nil
  marked := nofun
  active := by
    intro slot _
    simp [start, IqWorker.slot]
  held := nofun
  flagged := rfl
  free _ _ _ _ := rfl
  contents := by
    rintro slot (queued | held)
    · simp [IqQueue.queued, start, Ring.toList] at queued
    · simp [start, IqWorker.slot] at held
  delivered := nofun
  ordered := List.Pairwise.nil
  overflow := nofun
  accounted := nofun
  bounded := nofun
  last := nofun

/-- While the worker holds a slot nothing is written to it. -/
theorem Invariant.held_slot_unchanged {queue : IqQueue build}
    (invariant : queue.Invariant) (action : IqAction) {slot : Nat}
    (before : queue.worker.slot = some slot)
    (after : (queue.step action).worker.slot = some slot) :
    (queue.step action).frames slot = queue.frames slot := by
  have placed {other : IqQueue build} {target : Nat} (message : IqMessage)
      (available : other.Available target)
      (held : other.worker.slot = some slot) :
      (other.place target message).frames slot = other.frames slot := by
    have different : slot ≠ target := by
      rintro rfl
      exact available.unheld held
    unfold place
    split_ifs
    · exact Function.update_of_ne different _ _
    · rfl
  have settled {other : IqQueue build} (invariant : other.Invariant)
      {message : IqMessage} (waiting : other.waiting = some message)
      (held : other.worker.slot = some slot) :
      (other.settle message).frames slot = other.frames slot := by
    unfold IqQueue.settle
    dsimp only
    split
    · rename_i target found
      exact placed message
        (invariant.storing waiting (invariant.available_of_free found)).toAvailable held
    · rename_i full
      rw [if_neg (invariant.occupied_of_full full)]
      exact placed message (invariant.storing_steal waiting full).toAvailable held
  cases action with
  | arrive message clockWorks =>
      simp only [IqQueue.step, IqQueue.arrive]
      split_ifs with ignored waits
      · rfl
      · rfl
      · have idle : queue.waiting = none := by
          simpa using (not_or.mp (not_or.mp ignored).2).2
        exact settled (invariant.register idle message) rfl before
  | wake =>
      simp only [IqQueue.step, IqQueue.wake]
      split
      · rfl
      · rename_i message waiting
        exact settled invariant waiting before
  | take =>
      simp only [IqQueue.step, IqQueue.take]
      split_ifs with idle
      · rfl
      · have working : queue.worker = .idle := not_not.mp (not_or.mp idle).1
        simp [working, IqWorker.slot] at before
  | call =>
      simp only [IqQueue.step, IqQueue.call]
      split <;> rfl
  | complete =>
      simp only [IqQueue.step, IqQueue.complete] at after ⊢
      split at after
      · simp [IqWorker.slot] at after
      · rfl

/-! ## What arrives and what is handed over -/

/-- What `queue_iq` leaves alone once its message is registered. -/
theorem settle_rest (queue : IqQueue build) (message : IqMessage) :
    (queue.settle message).callback = queue.callback ∧
      (queue.settle message).arrivals = queue.arrivals ∧
      (queue.settle message).worker = queue.worker ∧
      (queue.settle message).handed = queue.handed ∧
      (queue.settle message).completed = queue.completed := by
  have placed (other : IqQueue build) (slot : Nat) :
      (other.place slot message).callback = other.callback ∧
        (other.place slot message).arrivals = other.arrivals ∧
        (other.place slot message).worker = other.worker ∧
        (other.place slot message).handed = other.handed ∧
        (other.place slot message).completed = other.completed := by
    unfold place
    split_ifs <;> exact ⟨rfl, rfl, rfl, rfl, rfl⟩
  unfold settle
  dsimp only
  split
  · exact placed _ _
  · split_ifs
    · exact ⟨rfl, rfl, rfl, rfl, rfl⟩
    · exact placed _ _

/-- A message that fits is registered unless another one waits. -/
theorem arrive_rest {queue : IqQueue build} (callback : queue.callback = true)
    (idle : queue.waiting = none) {message : IqMessage}
    (fits : ¬ openrspMaxIqSamples < message.samples) (clockWorks : Bool) :
    (queue.arrive message clockWorks).callback = queue.callback ∧
      (queue.arrive message clockWorks).arrivals = queue.arrivals ++ [message] ∧
      (queue.arrive message clockWorks).worker = queue.worker ∧
      (queue.arrive message clockWorks).handed = queue.handed ∧
      (queue.arrive message clockWorks).completed = queue.completed := by
  unfold arrive
  rw [if_neg (by simp [callback, idle, fits])]
  split_ifs
  · exact ⟨rfl, rfl, rfl, rfl, rfl⟩
  · exact settle_rest (queue.register message) message

theorem wake_rest (queue : IqQueue build) : queue.wake.callback = queue.callback ∧
      queue.wake.arrivals = queue.arrivals ∧
      queue.wake.worker = queue.worker ∧
      queue.wake.handed = queue.handed ∧
      queue.wake.completed = queue.completed := by
  unfold wake
  split
  · exact ⟨rfl, rfl, rfl, rfl, rfl⟩
  · exact settle_rest queue _

/-- The worker neither registers a callback nor receives frames. -/
theorem worker_rest (queue : IqQueue build) {action : IqAction}
    (worker : action = .take ∨ action = .call ∨ action = .complete) :
    (queue.step action).callback = queue.callback ∧
      (queue.step action).arrivals = queue.arrivals ∧
      (queue.step action).waiting = queue.waiting := by
  rcases worker with rfl | rfl | rfl
  · simp only [step, take]
    split_ifs <;> exact ⟨rfl, rfl, rfl⟩
  · simp only [step, call]
    split <;> exact ⟨rfl, rfl, rfl⟩
  · simp only [step, complete]
    split <;> exact ⟨rfl, rfl, rfl⟩

/-- The message a step takes in: one that fits, with a callback set and no
`queue_iq` waiting. -/
def accepted (queue : IqQueue build) (callback : Bool) : IqAction → List IqMessage
  | .arrive message _ =>
      if callback = true ∧ message.samples ≤ openrspMaxIqSamples ∧ queue.waiting = none then
        [message]
      else []
  | _ => []

theorem step_arrivals (queue : IqQueue build) (action : IqAction) :
    (queue.step action).callback = queue.callback ∧
      (queue.step action).arrivals = queue.arrivals ++ queue.accepted queue.callback action := by
  cases action with
  | arrive message clockWorks =>
      by_cases taken :
        queue.callback = true ∧ message.samples ≤ openrspMaxIqSamples ∧ queue.waiting = none
      · obtain ⟨callback, arrivals, -⟩ :=
          arrive_rest taken.1 taken.2.2 (not_lt.mpr taken.2.1) clockWorks
        exact ⟨callback, by simpa only [step, accepted, if_pos taken] using arrivals⟩
      · have ignored : queue.arrive message clockWorks = queue := if_pos (by
          by_contra accepts
          simp only [not_or, not_lt, Bool.not_eq_false, Bool.not_eq_true, Option.isSome_eq_false_iff,
            Option.isNone_iff_eq_none] at accepts
          exact taken accepts)
        simp only [step, ignored, accepted, if_neg taken, List.append_nil, and_self]
  | wake =>
      obtain ⟨callback, arrivals, -⟩ := queue.wake_rest
      exact ⟨callback, by simpa only [step, accepted, List.append_nil] using arrivals⟩
  | take | call | complete =>
      exact ⟨(queue.worker_rest (by simp)).1,
        (queue.worker_rest (by simp)).2.1.trans (List.append_nil _).symm⟩

theorem wake_waiting (queue : IqQueue build) : queue.wake.waiting = none := by
  unfold wake
  split
  · assumption
  · unfold settle
    dsimp only
    split
    · exact (place_rest _ _ _).2.2.1
    · split_ifs
      · rfl
      · exact (place_rest _ _ _).2.2.1

/-- An idle worker hands over the oldest waiting frame. -/
theorem call_take (queue : IqQueue build) {slot : Nat} {rest : List Nat}
    (idle : queue.worker = .idle) (waiting : queue.queued = slot :: rest) :
    queue.take.call.handed =
      queue.handed ++ [((queue.frames slot).arrival, (queue.frames slot).arguments)] := by
  obtain ⟨occupied, front, -⟩ := Ring.of_toList_eq_cons waiting
  simp [take, call, idle, occupied, front, IqSlot.arguments]

end IqQueue

open IqQueue

/-- In every interleaving of arriving frames with the worker, the slots are
kept apart, frames are handed over unmodified, in order and at most once, and
only the oldest waiting frame is discarded, when no slot is free.  Every frame
that fits arrives unless one is still waiting for a slot, which it gets when
the wait ends; an idle worker hands over the oldest waiting frame; and a slot
is not written to while the worker holds it. -/
theorem iq_queue_sound (build : IqBuild) (callback : Bool) (actions : List IqAction) :
    let queue := runSteps IqQueue.step (IqQueue.start build callback) actions
    queue.Sound ∧ (∀ action,
        (queue.step action).arrivals = queue.arrivals ++ queue.accepted callback action) ∧
      (queue.step .wake).waiting = none ∧
      (∀ slot rest, queue.worker = .idle → queue.queued = slot :: rest →
        ((queue.step .take).step .call).handed =
          queue.handed ++ [((queue.frames slot).arrival, (queue.frames slot).arguments)]) ∧
      ∀ action slot, queue.worker.slot = some slot → (queue.step action).worker.slot = some slot →
          (queue.step action).frames slot = queue.frames slot := by
  intro queue
  have preserved (before : IqQueue build) (action : IqAction)
      (known : before.Invariant ∧ before.callback = callback) :
      (before.step action).Invariant ∧ (before.step action).callback = callback :=
    ⟨known.1.step action, (before.step_arrivals action).1.trans known.2⟩
  obtain ⟨reached, registered⟩ : queue.Invariant ∧ queue.callback = callback :=
    invariant_of_steps preserved actions ⟨IqQueue.start_invariant build callback, rfl⟩
  refine ⟨reached.toSound, fun action => ?_, queue.wake_waiting,
    fun slot rest idle waiting => queue.call_take idle waiting,
    fun action slot before after => reached.held_slot_unchanged action before after⟩
  rw [← registered]
  exact (queue.step_arrivals action).2

end OpenRsp
