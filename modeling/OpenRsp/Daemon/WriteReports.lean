import OpenRsp.Daemon.OwnershipRuns

/-!
# Reports of failed writes, one atomic operation at a time

The write failure of `send_stream`, the reports of `report_removed_device`
and the eviction in `run_server`, all of `daemon/openrspd.c`.  A failed write
is reported through a flag and a descriptor.  The stream thread sets the flag
first, the main loop stores the descriptor first, and the eviction clears the
flag before it takes the descriptor.  There is room for one descriptor.

The main loop is kept in the order in which it runs: eviction, recovery,
new connections, then the clients it already has.
-/

namespace OpenRsp

open Runs

/-! ## The loop and the stream thread -/

/-- Where the main loop is. -/
inductive LoopPoint where
  | top
  | collecting
  | recovering
  | reporting
  | accepting
  | serving
deriving DecidableEq, Repr

/-- The flag and the descriptor, the clients, and where the two threads are.
`stream` is the descriptor the stream thread is about to store.  `failed`
are the connected clients whose write failure was reported, `wronged` the
clients evicted without one. -/
structure ReportState where
  clientWriteError : Bool
  clientWriteErrorFd : Int
  owner : Int
  clients : List Int
  stream : Option Int
  main : LoopPoint
  failed : List Int
  wronged : List Int
deriving DecidableEq, Repr

/-- The operations of the two threads. -/
inductive ReportAction where
  | failWrite (target : Int)
  | storeTarget
  | collect
  | take
  | failNotice (descriptor : Int)
  | raise
  | poll
  | attend
  | loop
  | accept (descriptor : Int)
  | hangup (slot : Nat)
  | acquire (descriptor : Int)
deriving DecidableEq, Repr

namespace ReportState

/-- `run_server` as it enters its loop. -/
def start : ReportState where
  clientWriteError := false
  clientWriteErrorFd := -1
  owner := -1
  clients := List.replicate openrspdMaxClients invalidSocket
  stream := none
  main := .top
  failed := []
  wronged := []

/-- A client that is connected. -/
def Connected (state : ReportState) (descriptor : Int) : Prop :=
  0 ≤ descriptor ∧ descriptor ∈ state.clients

instance (state : ReportState) (descriptor : Int) :
    Decidable (state.Connected descriptor) :=
  inferInstanceAs (Decidable (_ ∧ _))

/-- `remove_client`, as far as it matters here. -/
def removeSlot (state : ReportState) (slot : Nat) : ReportState :=
  let descriptor := state.clients.getD slot invalidSocket
  if descriptor < 0 then state
  else
    { state with
      clients := state.clients.set slot invalidSocket
      owner := if state.owner = descriptor then -1 else state.owner
      failed := state.failed.filter (· ≠ descriptor) }

/-- The write of an IQ frame fails; the exchange of the flag. -/
def failWrite (state : ReportState) (target : Int) : ReportState :=
  if state.stream.isSome ∨ ¬ state.Connected target then state
  else
    { state with
      clientWriteError := true
      stream := if state.clientWriteError then none else some target
      failed := target :: state.failed }

/-- The stream thread stores the descriptor. -/
def storeTarget (state : ReportState) : ReportState :=
  match state.stream with
  | none => state
  | some target =>
      { state with clientWriteErrorFd := target, stream := none }

/-- The head of the loop exchanges the flag. -/
def collect (state : ReportState) : ReportState :=
  if state.main ≠ .top then state
  else
    { state with
      clientWriteError := false
      main := if state.clientWriteError then .collecting else .recovering }

/-- The slot of the client to evict. -/
def evictedSlot (state : ReportState) : Option Nat :=
  state.clients.findIdx? fun client =>
    client == state.clientWriteErrorFd ||
      (decide (state.clientWriteErrorFd < 0) && client == state.owner)

/-- The head of the loop takes the descriptor and evicts its client. -/
def take (state : ReportState) : ReportState :=
  if state.main ≠ .collecting then state
  else
    let taken :=
      { state with clientWriteErrorFd := invalidSocket, main := .top }
    match state.evictedSlot with
    | none => taken
    | some slot =>
        let descriptor := state.clients.getD slot invalidSocket
        { taken.removeSlot slot with
          wronged :=
            if descriptor < 0 ∨ descriptor ∈ state.failed then state.wronged
            else state.wronged ++ [descriptor] }

/-- A removal notice cannot be written; its descriptor is stored. -/
def failNotice (state : ReportState) (descriptor : Int) : ReportState :=
  if state.main ≠ .recovering ∨ ¬ state.Connected descriptor then state
  else
    { state with
      clientWriteErrorFd := descriptor
      main := .reporting
      failed := descriptor :: state.failed }

/-- The flag of a removal notice is set. -/
def raise (state : ReportState) : ReportState :=
  if state.main ≠ .reporting then state
  else { state with clientWriteError := true, main := .recovering }

/-- One operation. -/
def step (state : ReportState) : ReportAction → ReportState
  | .failWrite target => state.failWrite target
  | .storeTarget => state.storeTarget
  | .collect => state.collect
  | .take => state.take
  | .failNotice descriptor => state.failNotice descriptor
  | .raise => state.raise
  | .poll =>
      if state.main = .recovering then { state with main := .accepting }
      else state
  | .attend =>
      if state.main = .accepting then { state with main := .serving }
      else state
  | .loop =>
      if state.main = .serving then { state with main := .top } else state
  | .accept descriptor =>
      if state.main = .accepting ∧ 0 ≤ descriptor ∧
          descriptor ∉ state.clients then
        { state with clients := storeClient descriptor state.clients }
      else state
  | .hangup slot =>
      if state.main = .serving then state.removeSlot slot else state
  | .acquire descriptor =>
      if state.main = .serving then { state with owner := descriptor }
      else state

/-- A failed write is reported while the main loop neither collects nor
reports and no other client is recorded; a failed notice is reported while
the stream thread does not report and no other client is recorded; and the
flag is not collected before the stream thread has stored its
descriptor. -/
def Orderly (state : ReportState) : ReportAction → Prop
  | .failWrite target =>
      state.main ≠ .collecting ∧ state.main ≠ .reporting ∧
        (state.clientWriteError = true → state.clientWriteErrorFd = target)
  | .failNotice descriptor =>
      state.stream = none ∧ (state.clientWriteError = true → state.clientWriteErrorFd = descriptor)
  | .collect => state.stream = none
  | _ => True

instance (state : ReportState) (action : ReportAction) :
    Decidable (state.Orderly action) := by
  cases action <;> unfold Orderly <;> infer_instance

/-! ## The recorded client -/

/-- The client whose failure is being or has been recorded. -/
def record (state : ReportState) : Option Int :=
  match state.stream with
  | some target => some target
  | none =>
      if state.clientWriteError ∨ state.main = .collecting ∨
          state.main = .reporting then
        some state.clientWriteErrorFd
      else none

/-- No client has left since the last collection. -/
def Early (state : ReportState) : Prop :=
  state.main = .recovering ∨ state.main = .reporting ∨ state.main = .accepting

/-- No descriptor is stored in two slots. -/
def Distinct (clients : List Int) : Prop :=
  clients.Pairwise fun first second => 0 ≤ first → first ≠ second

theorem mem_of_mem_storeClient {descriptor client : Int} {clients : List Int}
    (member : client ∈ storeClient descriptor clients) :
    client = descriptor ∨ client ∈ clients := by
  induction clients with
  | nil => simp [storeClient] at member
  | cons head rest inductionHypothesis =>
      simp only [storeClient] at member
      split_ifs at member
      · rcases List.mem_cons.mp member with rfl | inRest
        · exact .inr List.mem_cons_self
        · exact (inductionHypothesis inRest).imp_right (List.mem_cons_of_mem _)
      · rcases List.mem_cons.mp member with rfl | inRest
        · exact .inl rfl
        · exact .inr (List.mem_cons_of_mem _ inRest)

theorem Distinct.storeClient {clients : List Int} (distinct : Distinct clients) {descriptor : Int}
    (unused : descriptor ∉ clients) :
    Distinct (storeClient descriptor clients) := by
  induction clients with
  | nil => exact distinct
  | cons head rest inductionHypothesis =>
      obtain ⟨others, restDistinct⟩ := List.pairwise_cons.mp distinct
      obtain ⟨notHead, notRest⟩ := not_or.mp (List.mem_cons.not.mp unused)
      simp only [OpenRsp.storeClient]
      split_ifs
      · refine List.pairwise_cons.mpr
          ⟨fun client member valid => ?_, inductionHypothesis restDistinct notRest⟩
        rcases mem_of_mem_storeClient member with rfl | inRest
        · exact Ne.symm notHead
        · exact others client inRest valid
      · refine List.pairwise_cons.mpr ⟨fun client member _ => ?_, restDistinct⟩
        rintro rfl
        exact notRest member

theorem Distinct.set {clients : List Int} (distinct : Distinct clients)
    (slot : Nat) : Distinct (clients.set slot invalidSocket) := by
  induction clients generalizing slot with
  | nil => exact distinct
  | cons head rest inductionHypothesis =>
      obtain ⟨others, restDistinct⟩ := List.pairwise_cons.mp distinct
      cases slot with
      | zero =>
          exact List.pairwise_cons.mpr ⟨fun _ _ valid => absurd valid (by decide), restDistinct⟩
      | succ slot =>
          refine List.pairwise_cons.mpr
            ⟨fun client member valid => ?_, inductionHypothesis restDistinct slot⟩
          rcases List.mem_or_eq_of_mem_set member with inRest | rfl
          · exact others client inRest valid
          · rintro rfl
            exact absurd valid (by decide)

/-- A client that is removed is not connected any more. -/
theorem Distinct.not_mem_set {clients : List Int} (distinct : Distinct clients) {slot : Nat}
    (valid : 0 ≤ clients.getD slot invalidSocket) :
    clients.getD slot invalidSocket ∉ clients.set slot invalidSocket := by
  induction clients generalizing slot with
  | nil => simp
  | cons head rest inductionHypothesis =>
      obtain ⟨others, restDistinct⟩ := List.pairwise_cons.mp distinct
      cases slot with
      | zero =>
          have valid : 0 ≤ head := valid
          refine List.mem_cons.not.mpr (not_or.mpr ⟨?_, ?_⟩)
          · rintro isInvalid
            have isInvalid : head = invalidSocket := isInvalid
            rw [isInvalid] at valid
            exact absurd valid (by decide)
          · intro member
            exact others head member valid rfl
      | succ slot =>
          have valid : 0 ≤ rest.getD slot invalidSocket := valid
          refine List.mem_cons.not.mpr (not_or.mpr ⟨?_, inductionHypothesis restDistinct valid⟩)
          intro same
          have same : rest.getD slot invalidSocket = head := same
          have member := mem_of_valid_slot valid
          exact others _ member (same ▸ valid) same.symm

/-- The invariant of orderly runs: only the recorded client has failed; it is
a client, it has failed if it is still connected, and it is still connected
until the loop serves its clients. -/
structure Invariant (state : ReportState) : Prop where
  distinct : Distinct state.clients
  connected : ∀ client ∈ state.failed, state.Connected client
  failed : ∀ client ∈ state.failed, state.record = some client
  recorded : ∀ client, state.record = some client →
      0 ≤ client ∧ (client ∈ state.clients → client ∈ state.failed) ∧
        (state.Early → client ∈ state.clients)
  undisturbed : state.main = .collecting ∨ state.main = .reporting → state.stream = none
  cleared : state.main = .collecting → state.clientWriteError = false
  rightful : state.wronged = []

theorem start_invariant : start.Invariant where
  distinct := by
    refine List.pairwise_replicate.mpr (.inr fun valid => ?_)
    exact absurd valid (by decide)
  connected := nofun
  failed := nofun
  recorded := nofun
  undisturbed _ := rfl
  cleared := nofun
  rightful := rfl

theorem record_of_stream {state : ReportState} {target : Int}
    (storing : state.stream = some target) : state.record = some target := by
  simp [ReportState.record, storing]

theorem record_of_idle {state : ReportState} (idle : state.stream = none) : state.record =
      if state.clientWriteError ∨ state.main = .collecting ∨
          state.main = .reporting then
        some state.clientWriteErrorFd
      else none := by
  simp [ReportState.record, idle]

/-- A step that keeps the record, the clients and their failures, and does
not return the loop to an earlier part, keeps the invariant. -/
theorem Invariant.of_same {before after : ReportState} (invariant : before.Invariant)
    (record : after.record = before.record)
    (clients : after.clients = before.clients)
    (failed : after.failed = before.failed)
    (wronged : after.wronged = before.wronged)
    (early : after.Early → before.Early)
    (undisturbed : after.main = .collecting ∨ after.main = .reporting → after.stream = none)
    (cleared : after.main = .collecting → after.clientWriteError = false) :
    after.Invariant where
  distinct := clients ▸ invariant.distinct
  connected client member := by
    have connected := invariant.connected client (failed ▸ member)
    exact ⟨connected.1, clients ▸ connected.2⟩
  failed client member := by
    rw [record]
    exact invariant.failed client (failed ▸ member)
  recorded client found := by
    obtain ⟨valid, known, present⟩ := invariant.recorded client (record ▸ found)
    rw [clients, failed]
    exact ⟨valid, known, fun isEarly => present (early isEarly)⟩
  undisturbed := undisturbed
  cleared := cleared
  rightful := wronged.trans invariant.rightful

/-- Recording the failure of a connected client when no other one is
recorded. -/
theorem Invariant.of_recorded {before after : ReportState} {client : Int}
    (invariant : before.Invariant) (connected : before.Connected client)
    (alone : ∀ other, before.record = some other → other = client)
    (record : after.record = some client)
    (clients : after.clients = before.clients)
    (failed : after.failed = client :: before.failed)
    (wronged : after.wronged = before.wronged)
    (undisturbed : after.main = .collecting ∨ after.main = .reporting → after.stream = none)
    (notCollecting : after.main ≠ .collecting) :
    after.Invariant where
  distinct := clients ▸ invariant.distinct
  connected other member := by
    rw [failed] at member
    rcases List.mem_cons.mp member with rfl | earlier
    · exact ⟨connected.1, clients ▸ connected.2⟩
    · have connected := invariant.connected other earlier
      exact ⟨connected.1, clients ▸ connected.2⟩
  failed other member := by
    rw [failed] at member
    rw [record]
    rcases List.mem_cons.mp member with rfl | earlier
    · rfl
    · rw [alone other (invariant.failed other earlier)]
  recorded other found := by
    obtain rfl : client = other := by simpa [record] using found
    rw [clients, failed]
    exact ⟨connected.1, fun _ => List.mem_cons_self, fun _ => connected.2⟩
  undisturbed := undisturbed
  cleared collecting := absurd collecting notCollecting
  rightful := wronged.trans invariant.rightful

theorem Invariant.failWrite {state : ReportState} (invariant : state.Invariant) {target : Int}
    (orderly : state.Orderly (.failWrite target)) :
    (state.failWrite target).Invariant := by
  unfold ReportState.failWrite
  split_ifs with ignored flagged
  · exact invariant
  all_goals
    obtain ⟨idle, connected⟩ := not_or.mp ignored
    have idle : state.stream = none := by simpa using idle
    obtain ⟨notCollecting, notReporting, same⟩ := orderly
    have alone (other : Int) (found : state.record = some other) :
        other = target := by
      rw [record_of_idle idle] at found
      simp only [notCollecting, notReporting, or_false] at found
      rcases Bool.eq_false_or_eq_true state.clientWriteError with set | unset
      · rw [if_pos set] at found
        exact (Option.some.inj found).symm.trans (same set)
      · simp [unset] at found
  · refine invariant.of_recorded (not_not.mp connected) alone ?_ rfl rfl rfl
      (fun _ => rfl) notCollecting
    rw [record_of_idle rfl, if_pos (.inl rfl)]
    exact congrArg some (same flagged)
  · refine invariant.of_recorded (not_not.mp connected) alone
      (record_of_stream rfl) rfl rfl rfl ?_ notCollecting
    intro disturbed
    exact (disturbed.elim notCollecting notReporting).elim

/-- While the stream thread stores its descriptor the flag stays set. -/
theorem Invariant.storeTarget {state : ReportState} (invariant : state.Invariant)
    (flagged : state.stream.isSome → state.clientWriteError = true) :
    state.storeTarget.Invariant := by
  unfold ReportState.storeTarget
  split
  · exact invariant
  · rename_i target storing
    have flagged : state.clientWriteError = true := flagged (by simp [storing])
    refine invariant.of_same ?_ rfl rfl rfl id (fun _ => rfl) invariant.cleared
    rw [record_of_stream storing, record_of_idle rfl, if_pos (.inl flagged)]

theorem Invariant.collect {state : ReportState}
    (invariant : state.Invariant) (orderly : state.Orderly .collect) :
    state.collect.Invariant := by
  have idle : state.stream = none := orderly
  unfold ReportState.collect
  split_ifs with elsewhere flagged
  · exact invariant
  · refine invariant.of_same ?_ rfl rfl rfl ?_ (fun _ => idle) (fun _ => rfl)
    · simp [ReportState.record, idle, flagged]
    · intro early
      simp [Early] at early
  · have atTop : state.main = .top := by simpa using elsewhere
    have unrecorded : state.record = none := by
      simp [record_of_idle idle, atTop, flagged]
    have nobody : state.failed = [] := by
      refine List.eq_nil_iff_forall_not_mem.mpr fun client member => ?_
      have found := invariant.failed client member
      simp [unrecorded] at found
    refine ⟨invariant.distinct, ?_, ?_, ?_, fun _ => idle, fun _ => rfl, invariant.rightful⟩
    · simp [nobody]
    · simp [nobody]
    · simp [ReportState.record, idle]

/-- The evicted client is the recorded one. -/
theorem evictedSlot_eq {state : ReportState} (valid : 0 ≤ state.clientWriteErrorFd) {slot : Nat}
    (found : state.evictedSlot = some slot) :
    state.clients.getD slot invalidSocket = state.clientWriteErrorFd := by
  have isClient := (List.findIdx?_eq_some_iff_getElem.mp found).choose_spec.1
  have inRange := (List.findIdx?_eq_some_iff_getElem.mp found).choose
  simpa [inRange, not_lt.mpr valid] using isClient

theorem not_mem_of_evictedSlot_none {state : ReportState} (missing : state.evictedSlot = none) :
    state.clientWriteErrorFd ∉ state.clients := by
  intro member
  have unmatched := List.findIdx?_eq_none_iff.mp missing _ member
  simp at unmatched

theorem Invariant.take {state : ReportState}
    (invariant : state.Invariant) : state.take.Invariant := by
  unfold ReportState.take
  split_ifs with elsewhere
  · exact invariant
  · have collecting : state.main = .collecting := by simpa using elsewhere
    have idle := invariant.undisturbed (.inl collecting)
    have cleared := invariant.cleared collecting
    have record : state.record = some state.clientWriteErrorFd := by
      simp [record_of_idle idle, collecting]
    obtain ⟨valid, known, -⟩ := invariant.recorded _ record
    have alone (client : Int) (member : client ∈ state.failed) :
        client = state.clientWriteErrorFd := by
      have found := invariant.failed client member
      exact (Option.some.inj (record.symm.trans found)).symm
    -- nobody is left to be recorded
    have emptied (after : ReportState) (distinct : Distinct after.clients)
        (nobody : after.failed = []) (stream : after.stream = none)
        (unflagged : after.clientWriteError = false)
        (atTop : after.main = .top) (wronged : after.wronged = []) :
        after.Invariant := by
      refine ⟨distinct, ?_, ?_, ?_, fun _ => stream, ?_, wronged⟩
      · simp [nobody]
      · simp [nobody]
      · simp [ReportState.record, stream, unflagged, atTop]
      · simp [atTop]
    dsimp only
    split
    · rename_i missing
      refine emptied _ invariant.distinct ?_ idle cleared rfl invariant.rightful
      refine List.eq_nil_iff_forall_not_mem.mpr fun client member => ?_
      have connected := invariant.connected client member
      rw [alone client member] at connected
      exact not_mem_of_evictedSlot_none missing connected.2
    · rename_i slot found
      have evicted := evictedSlot_eq valid found
      have present : state.clientWriteErrorFd ∈ state.clients :=
        evicted ▸ mem_of_valid_slot (evicted ▸ valid)
      have failed := known present
      simp only [removeSlot, evicted, if_neg (not_lt.mpr valid)]
      refine emptied _ (invariant.distinct.set slot) ?_ idle cleared rfl ?_
      · simp only [List.filter_eq_nil_iff]
        intro client member
        simp [alone client member]
      · simp [failed, invariant.rightful]

theorem Invariant.failNotice {state : ReportState} (invariant : state.Invariant) {descriptor : Int}
    (orderly : state.Orderly (.failNotice descriptor)) :
    (state.failNotice descriptor).Invariant := by
  unfold ReportState.failNotice
  split_ifs with ignored
  · exact invariant
  · obtain ⟨recovering, connected⟩ := not_or.mp ignored
    obtain ⟨idle, same⟩ := orderly
    have recovering : state.main = .recovering := not_not.mp recovering
    refine invariant.of_recorded (not_not.mp connected) ?_ ?_ rfl rfl rfl (fun _ => idle) nofun
    · intro other found
      rw [record_of_idle idle] at found
      simp only [recovering, reduceCtorEq, or_false] at found
      split_ifs at found with flagged
      rw [← same flagged]
      exact (Option.some.inj found).symm
    · simp [ReportState.record, idle]

theorem Invariant.raise {state : ReportState}
    (invariant : state.Invariant) : state.raise.Invariant := by
  unfold ReportState.raise
  split_ifs with elsewhere
  · exact invariant
  · have reporting : state.main = .reporting := by simpa using elsewhere
    have idle := invariant.undisturbed (.inr reporting)
    refine invariant.of_same ?_ rfl rfl rfl ?_ (fun _ => idle) nofun
    · simp [ReportState.record, idle, reporting]
    · intro _
      exact .inr (.inl reporting)

/-- The loop moves on, to a part in which it is neither collecting nor
reporting. -/
theorem Invariant.move {state : ReportState} (invariant : state.Invariant) {next : LoopPoint}
    (from' : state.main ≠ .collecting ∧ state.main ≠ .reporting)
    (to' : next ≠ .collecting ∧ next ≠ .reporting)
    (early : ({ state with main := next } : ReportState).Early → state.Early) :
    ({ state with main := next } : ReportState).Invariant := by
  refine invariant.of_same ?_ rfl rfl rfl early ?_ ?_
  · simp [ReportState.record, from', to']
  · intro disturbed
    exact (disturbed.elim to'.1 to'.2).elim
  · intro collecting
    exact (to'.1 collecting).elim

theorem Invariant.accept {state : ReportState} (invariant : state.Invariant) {descriptor : Int}
    (accepting : state.main = .accepting)
    (unused : descriptor ∉ state.clients) :
    ({ state with
      clients := storeClient descriptor state.clients } : ReportState).Invariant where
  distinct := invariant.distinct.storeClient unused
  connected client member := by
    have connected := invariant.connected client member
    exact ⟨connected.1, mem_storeClient connected.2 connected.1⟩
  failed := invariant.failed
  recorded client found := by
    obtain ⟨valid, known, present⟩ := invariant.recorded client found
    have connected := present (.inr (.inr accepting))
    exact ⟨valid, fun _ => known connected, fun _ => mem_storeClient connected valid⟩
  undisturbed := invariant.undisturbed
  cleared := invariant.cleared
  rightful := invariant.rightful

theorem Invariant.removeSlot {state : ReportState}
    (invariant : state.Invariant) (serving : state.main = .serving)
    (slot : Nat) : (state.removeSlot slot).Invariant := by
  by_cases free : state.clients.getD slot invalidSocket < 0
  · rw [ReportState.removeSlot, if_pos free]
    exact invariant
  · rw [ReportState.removeSlot, if_neg free]
    refine ⟨invariant.distinct.set slot, ?_, ?_, ?_, invariant.undisturbed,
      invariant.cleared, invariant.rightful⟩
    · intro client member
      obtain ⟨member, other⟩ := List.mem_filter.mp member
      have connected := invariant.connected client member
      exact ⟨connected.1, mem_set_of_ne connected.2 (by simpa using other)⟩
    · intro client member
      exact invariant.failed client (List.mem_filter.mp member).1
    · intro client found
      obtain ⟨valid, known, -⟩ := invariant.recorded client found
      refine ⟨valid, fun present => ?_, fun early => ?_⟩
      · have other : client ≠ state.clients.getD slot invalidSocket := by
          rintro rfl
          exact invariant.distinct.not_mem_set valid present
        have earlier : client ∈ state.clients := by
          rcases List.mem_or_eq_of_mem_set present with member | rfl
          · exact member
          · exact absurd valid (by decide)
        exact List.mem_filter.mpr ⟨known earlier, by simpa using other⟩
      · simp [Early, serving] at early

/-! ## Whole runs -/

/-- The flag is set while the stream thread stores its descriptor. -/
def Flagged (state : ReportState) : Prop := state.stream.isSome → state.clientWriteError = true

theorem Flagged.step {state : ReportState} (flagged : state.Flagged)
    (action : ReportAction) (orderly : state.Orderly action) :
    (state.step action).Flagged := by
  cases action with
  | failWrite target =>
      simp only [ReportState.step, ReportState.failWrite]
      split_ifs
      · exact flagged
      all_goals exact fun _ => rfl
  | storeTarget =>
      simp only [ReportState.step, ReportState.storeTarget]
      split
      · exact flagged
      · nofun
  | collect =>
      have idle : state.stream = none := orderly
      simp only [ReportState.step, ReportState.collect]
      split_ifs
      · exact flagged
      all_goals simp [Flagged, idle]
  | take =>
      simp only [ReportState.step, ReportState.take, ReportState.removeSlot]
      split_ifs
      · exact flagged
      · split
        · exact flagged
        · split_ifs <;> exact flagged
  | failNotice descriptor =>
      simp only [ReportState.step, ReportState.failNotice]
      split_ifs <;> exact flagged
  | raise =>
      simp only [ReportState.step, ReportState.raise]
      split_ifs
      · exact flagged
      · exact fun _ => rfl
  | hangup slot =>
      simp only [ReportState.step, ReportState.removeSlot]
      split_ifs <;> exact flagged
  | poll | attend | loop | accept descriptor | acquire descriptor =>
      simp only [ReportState.step]
      split_ifs <;> exact flagged

theorem Invariant.step {state : ReportState} (invariant : state.Invariant)
    (flagged : state.Flagged) (action : ReportAction)
    (orderly : state.Orderly action) : (state.step action).Invariant := by
  cases action with
  | failWrite target => exact invariant.failWrite orderly
  | storeTarget => exact invariant.storeTarget flagged
  | collect => exact invariant.collect orderly
  | take => exact invariant.take
  | failNotice descriptor => exact invariant.failNotice orderly
  | raise => exact invariant.raise
  | poll =>
      simp only [ReportState.step]
      split_ifs with recovering
      · exact invariant.move (by simp [recovering]) (by simp) fun _ => .inl recovering
      · exact invariant
  | attend =>
      simp only [ReportState.step]
      split_ifs with accepting
      · exact invariant.move (by simp [accepting]) (by simp) fun _ => .inr (.inr accepting)
      · exact invariant
  | loop =>
      simp only [ReportState.step]
      split_ifs with serving
      · exact invariant.move (by simp [serving]) (by simp) fun early => by simp [Early] at early
      · exact invariant
  | accept descriptor =>
      simp only [ReportState.step]
      split_ifs with accepting
      · exact invariant.accept accepting.1 accepting.2.2
      · exact invariant
  | hangup slot =>
      simp only [ReportState.step]
      split_ifs with serving
      · exact invariant.removeSlot serving slot
      · exact invariant
  | acquire descriptor =>
      simp only [ReportState.step]
      split_ifs
      · exact invariant.of_same rfl rfl rfl rfl id invariant.undisturbed invariant.cleared
      · exact invariant

end ReportState

open ReportState

end OpenRsp
