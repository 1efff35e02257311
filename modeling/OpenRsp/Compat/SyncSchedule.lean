import Mathlib.Order.Bounds.Basic
import OpenRsp.Compat.SyncUpdate
import OpenRsp.Library.Runs
import OpenRsp.Library.WrappingClock

/-!
# The update schedule against an unbounded clock

The sample clock as a natural number of which `compat/sync_update.c` sees the
low 32 bits.  The boundaries of a schedule are the instants
`start + index * period`; a call that comes less than half the range after the
boundary a category is at finds the boundary the unbounded schedule has.
-/

namespace OpenRsp

open Runs WrappingClock

/-! ## Categories -/

def SyncCategories.contains (categories : SyncCategories) :
    SyncCategory → Bool
  | .gain => categories.gain
  | .rf => categories.rf
  | .fs => categories.fs

namespace SyncUpdate

theorem get_modify (state : SyncUpdate) (categories : SyncCategories)
    (change : CategorySchedule → CategorySchedule)
    (category : SyncCategory) :
    (state.modify categories change).get category =
      if categories.contains category then change (state.get category)
      else state.get category := by
  cases category <;> rfl

theorem get_set (state : SyncUpdate) (category other : SyncCategory) (schedule : CategorySchedule) :
    (state.set category schedule).get other =
      if other = category then schedule else state.get other := by
  cases category <;> cases other <;> rfl

theorem due_contains (state : SyncUpdate) (sample : UInt32) (category : SyncCategory) :
    (state.due sample).contains category = (state.get category).isDue sample := by
  cases category <;> rfl

/-- Only the category asked for moves. -/
theorem get_next (state : SyncUpdate) (category other : SyncCategory) (current : UInt32) :
    (state.next category current).2.get other =
      if other = category ∧ (state.get category).pending = true then
        (state.get category).advance current
      else state.get other := by
  unfold next
  by_cases pending : (state.get category).pending = true
  · rw [if_pos pending]
    simp only [get_set, pending, and_true]
  · rw [if_neg pending, if_neg fun both => pending both.2]

/-- Only the named categories that are due are consumed. -/
theorem get_consume (state : SyncUpdate) (categories : SyncCategories)
    (sample : UInt32) (category : SyncCategory) :
    (state.consume categories sample).get category =
      if categories.contains category && (state.get category).isDue sample
        then (state.get category).consume
      else state.get category := by
  cases category <;> rfl

end SyncUpdate

/-! ## The unbounded schedule -/

/-- A schedule on the unbounded clock: its first boundary, its period and how
many boundaries have been passed. -/
structure Plan where
  start : Nat
  period : Nat
  index : Nat
deriving DecidableEq, Repr

namespace Plan

/-- The boundary a plan is at. -/
def boundary (plan : Plan) : Nat := plan.start + plan.index * plan.period

/-- All boundaries of a plan. -/
def Boundaries (plan : Plan) : Set Nat :=
  {instant | ∃ index, instant = plan.start + index * plan.period}

/-- Move to the first boundary after an instant, unless the plan is at a later
one. -/
def advance (plan : Plan) (now : Nat) : Plan :=
  if plan.boundary ≤ now then
    { plan with
      index := plan.index + ((now - plan.boundary) / plan.period + 1) }
  else plan

/-- Move to the next boundary if the present one has been reached. -/
def consume (plan : Plan) (now : Nat) : Plan :=
  if plan.boundary ≤ now then { plan with index := plan.index + 1 }
  else plan

/-- The boundaries before the one a plan is at have been reached. -/
def Passed (plan : Plan) (now : Nat) : Prop := plan.index = 0 ∨ plan.boundary ≤ now + plan.period

theorem advance_boundary (plan : Plan) {now : Nat} (reached : plan.boundary ≤ now) :
    (plan.advance now).boundary = plan.boundary + ((now - plan.boundary) / plan.period + 1) *
        plan.period := by
  rw [advance, if_pos reached]
  simp only [boundary, Nat.add_mul]
  omega

theorem lt_advance_boundary (plan : Plan) {now : Nat}
    (positive : 0 < plan.period) : now < (plan.advance now).boundary := by
  by_cases reached : plan.boundary ≤ now
  · rw [advance_boundary plan reached, Nat.add_mul, Nat.one_mul]
    have split := Nat.div_add_mod (now - plan.boundary) plan.period
    have remainder := Nat.mod_lt (now - plan.boundary) positive
    rw [Nat.mul_comm] at split
    omega
  · rw [advance, if_neg reached]
    omega

theorem advance_boundary_le (plan : Plan) {now : Nat} (reached : plan.boundary ≤ now) :
    (plan.advance now).boundary ≤ now + plan.period := by
  rw [advance_boundary plan reached, Nat.add_mul, Nat.one_mul]
  have quotient := Nat.div_mul_le_self (now - plan.boundary) plan.period
  omega

/-- A plan moves to the least of its boundaries that is still to come. -/
theorem advance_isLeast (plan : Plan) {now : Nat}
    (positive : 0 < plan.period) (passed : plan.Passed now) :
    IsLeast {instant | instant ∈ plan.Boundaries ∧ now < instant} (plan.advance now).boundary := by
  have later : now < (plan.advance now).boundary := plan.lt_advance_boundary positive
  refine ⟨⟨⟨(plan.advance now).index, ?_⟩, later⟩, ?_⟩
  · unfold advance boundary
    split_ifs <;> rfl
  · rintro instant ⟨⟨index, rfl⟩, after⟩
    -- A boundary before the one moved to lies a whole period before it.
    by_contra below
    have fewer : index < (plan.advance now).index := by
      by_contra atLeast
      have products := Nat.mul_le_mul_right plan.period (not_lt.mp atLeast)
      have same :
          (plan.advance now).boundary = plan.start + (plan.advance now).index * plan.period := by
        unfold advance boundary
        split_ifs <;> rfl
      omega
    have period := Nat.mul_le_mul_right plan.period fewer
    rw [Nat.succ_mul] at period
    by_cases reached : plan.boundary ≤ now
    · have bound := plan.advance_boundary_le reached
      have same :
          (plan.advance now).boundary = plan.start + (plan.advance now).index * plan.period := by
        unfold advance boundary
        split_ifs <;> rfl
      omega
    · rw [advance, if_neg reached] at fewer period
      rcases passed with first | close
      · omega
      · unfold boundary at close
        omega

theorem passed_advance (plan : Plan) {now : Nat} (passed : plan.Passed now) :
    (plan.advance now).Passed now := by
  by_cases reached : plan.boundary ≤ now
  · refine .inr ?_
    have bound := plan.advance_boundary_le reached
    rw [advance, if_pos reached] at bound ⊢
    exact bound
  · rwa [advance, if_neg reached]

theorem consume_boundary (plan : Plan) {now : Nat} (reached : plan.boundary ≤ now) :
    (plan.consume now).boundary = plan.boundary + plan.period := by
  rw [consume, if_pos reached]
  simp only [boundary, Nat.add_mul]
  omega

theorem passed_consume (plan : Plan) {now : Nat} (passed : plan.Passed now) :
    (plan.consume now).Passed now := by
  by_cases reached : plan.boundary ≤ now
  · refine .inr ?_
    have bound := plan.consume_boundary reached
    rw [consume, if_pos reached] at bound ⊢
    simp only at bound ⊢
    omega
  · rwa [consume, if_neg reached]

end Plan

/-! ## One category -/

/-- What a category holds of a plan at an instant. -/
structure Follows (now : Nat) (plan : Plan) (schedule : CategorySchedule) :
    Prop where
  pending : schedule.pending = true
  due : schedule.due = seen plan.boundary
  period : schedule.period = seen plan.period
  positive : 0 < plan.period
  half : plan.period < 2 ^ 31
  behind : plan.boundary ≤ now + 2 ^ 31
  passed : plan.Passed now

/-- A category follows its plan, or has none and is not pending. -/
def Tracks (now : Nat) (schedule : CategorySchedule) : Option Plan → Prop
  | none => schedule.pending = false
  | some plan => Follows now plan schedule

variable {now later : Nat} {plan : Plan} {schedule : CategorySchedule}

theorem Follows.near (follows : Follows now plan schedule)
    (ordered : now ≤ later) (ahead : later < plan.boundary + 2 ^ 31) :
    Near plan.boundary later :=
  ⟨ahead, follows.behind.trans (Nat.add_le_add_right ordered _)⟩

/-- Time passes. -/
theorem Follows.mono (follows : Follows now plan schedule)
    (ordered : now ≤ later) : Follows later plan schedule :=
  { follows with
    behind := follows.behind.trans (Nat.add_le_add_right ordered _)
    passed := follows.passed.imp_right fun close =>
        close.trans (Nat.add_le_add_right ordered _) }

theorem Tracks.mono {plan : Option Plan} (tracks : Tracks now schedule plan)
    (ordered : now ≤ later) : Tracks later schedule plan := by
  cases plan with
  | none => exact tracks
  | some plan => exact Follows.mono tracks ordered

theorem Follows.reached_iff (follows : Follows now plan schedule)
    (ordered : now ≤ later) (ahead : later < plan.boundary + 2 ^ 31) :
    CategorySchedule.reached (seen later) schedule.due = true ↔ plan.boundary ≤ later := by
  rw [CategorySchedule.reached, decide_eq_true_iff, follows.due]
  exact sign_iff (follows.near ordered ahead)

theorem Follows.advance (follows : Follows now plan schedule)
    (ordered : now ≤ later) (ahead : later < plan.boundary + 2 ^ 31) :
    Follows later (plan.advance later) (schedule.advance (seen later)) := by
  have reached := follows.reached_iff ordered ahead
  have current := follows.mono ordered
  have half := follows.half
  have nonzero : schedule.period ≠ 0 := by
    rw [follows.period]
    intro zero
    have value := congrArg UInt32.toNat zero
    rw [seen_toNat, Nat.mod_eq_of_lt (by omega)] at value
    exact absurd value follows.positive.ne'
  unfold CategorySchedule.advance
  by_cases passed : plan.boundary ≤ later
  · rw [if_pos ⟨nonzero, reached.mpr passed⟩]
    have elapsed : (seen later - schedule.due) / schedule.period =
          seen ((later - plan.boundary) / plan.period) := by
      apply UInt32.toNat_inj.mp
      rw [UInt32.toNat_div, follows.due, follows.period,
        seen_sub_toNat passed (by omega), seen_toNat, seen_toNat,
        Nat.mod_eq_of_lt (a := plan.period) (by omega), Nat.mod_eq_of_lt]
      have quotient := Nat.div_le_self (later - plan.boundary) plan.period
      omega
    have moved := plan.advance_boundary_le passed
    refine
      { pending := follows.pending
        due := ?_
        period := ?_
        positive := ?_
        half := ?_
        behind := by omega
        passed := plan.passed_advance current.passed }
    · rw [plan.advance_boundary passed]
      dsimp only
      rw [elapsed, follows.due, follows.period, seen_add, seen_mul, seen_add]
      rfl
    · simpa only [Plan.advance, if_pos passed] using follows.period
    · simpa only [Plan.advance, if_pos passed] using follows.positive
    · simpa only [Plan.advance, if_pos passed] using half
  · rw [if_neg fun both => passed (reached.mp both.2), Plan.advance, if_neg passed]
    exact current

theorem Follows.consume (follows : Follows now plan schedule)
    (ordered : now ≤ later) (reached : plan.boundary ≤ later) :
    Follows later (plan.consume later) schedule.consume := by
  have current := follows.mono ordered
  have half := follows.half
  have nonzero : schedule.period ≠ 0 := by
    rw [follows.period]
    intro zero
    have value := congrArg UInt32.toNat zero
    rw [seen_toNat, Nat.mod_eq_of_lt (by omega)] at value
    exact absurd value follows.positive.ne'
  have moved := plan.consume_boundary reached
  rw [CategorySchedule.consume, if_pos nonzero]
  refine
    { pending := rfl
      due := ?_
      period := ?_
      positive := ?_
      half := ?_
      behind := by omega
      passed := plan.passed_consume current.passed }
  · dsimp only
    rw [moved, seen_add, follows.due, follows.period]
  · simpa only [Plan.consume, if_pos reached] using follows.period
  · simpa only [Plan.consume, if_pos reached] using follows.positive
  · simpa only [Plan.consume, if_pos reached] using half

/-- A category reports that it is due when its plan's boundary has been
reached. -/
theorem Tracks.isDue_iff {plan : Option Plan}
    (tracks : Tracks now schedule plan) (ordered : now ≤ later)
    (ahead : ∀ followed, plan = some followed → later < followed.boundary + 2 ^ 31) :
    schedule.isDue (seen later) = true ↔
      ∃ followed, plan = some followed ∧ followed.boundary ≤ later := by
  cases plan with
  | none =>
      have idle : schedule.pending = false := tracks
      simp [CategorySchedule.isDue, idle]
  | some plan =>
      have follows : Follows now plan schedule := tracks
      rw [CategorySchedule.isDue, follows.pending, Bool.true_and,
        follows.reached_iff ordered (ahead plan rfl)]
      simp

/-! ## Runs -/

/-- The calls of the scheduler, with instants of the unbounded clock. -/
inductive SyncOperation where
  | schedule (categories : SyncCategories) (start period : Nat)
  | reset (categories : SyncCategories)
  | next (category : SyncCategory)
  | due
  | consume (categories : SyncCategories)
deriving DecidableEq, Repr

/-- A call and when it is made. -/
structure SyncCall where
  now : Nat
  operation : SyncOperation
deriving DecidableEq, Repr

/-- The scheduler beside the plans it has been given.  `clock` is the time of
the last call. -/
structure SyncSystem where
  clock : Nat
  plans : SyncCategory → Option Plan
  state : SyncUpdate

namespace SyncSystem

/-- `openrsp_sync_update_init`. -/
def init : SyncSystem := ⟨0, fun _ => none, .init⟩

/-- One call, made of the scheduler with what is seen of its instants and of
the plans with the instants themselves. -/
def step (system : SyncSystem) (call : SyncCall) : SyncSystem :=
  match call.operation with
  | .schedule categories start period =>
      { clock := call.now
        plans := fun category =>
          if categories.contains category then some ⟨start, period, 0⟩
          else system.plans category
        state := system.state.schedule categories (seen start) (seen period) }
  | .reset categories =>
      { clock := call.now
        plans := fun category =>
          if categories.contains category then none
          else system.plans category
        state := system.state.reset categories }
  | .next category =>
      { clock := call.now
        plans := fun other =>
          if other = category then
            (system.plans category).map fun plan => plan.advance call.now
          else system.plans other
        state := (system.state.next category (seen call.now)).2 }
  | .due => { system with clock := call.now }
  | .consume categories =>
      { clock := call.now
        plans := fun category =>
          if categories.contains category then
            (system.plans category).map fun plan => plan.consume call.now
          else system.plans category
        state := system.state.consume categories (seen call.now) }

/-- A category is looked at less than half the range after the boundary it is
at. -/
def InTime (system : SyncSystem) (now : Nat) (category : SyncCategory) :
    Prop :=
  ∀ plan, system.plans category = some plan → now < plan.boundary + 2 ^ 31

/-- The clock does not go back; a schedule starts within half the range of the
clock and has a period below half the range; and the categories a call looks
at are looked at in time. -/
def Timely (system : SyncSystem) (call : SyncCall) : Prop :=
  system.clock ≤ call.now ∧
    match call.operation with
    | .schedule _ start period =>
        start ≤ call.now + 2 ^ 31 ∧ call.now ≤ start + 2 ^ 31 ∧ 0 < period ∧ period < 2 ^ 31
    | .reset _ => True
    | .next category => system.InTime call.now category
    | .due => ∀ category, system.InTime call.now category
    | .consume categories =>
        ∀ category, categories.contains category = true → system.InTime call.now category

/-- Every category follows its plan. -/
def Tracking (system : SyncSystem) : Prop :=
  ∀ category, Tracks system.clock (system.state.get category) (system.plans category)

variable {system : SyncSystem}

theorem tracking_init : init.Tracking := by
  intro category
  cases category <;> rfl

theorem Tracking.step (tracking : system.Tracking) (call : SyncCall)
    (timely : system.Timely call) : (system.step call).Tracking := by
  obtain ⟨now, operation⟩ := call
  obtain ⟨ordered, allowed⟩ := timely
  intro category
  have tracks := tracking category
  cases operation with
  | schedule categories start period =>
      obtain ⟨notFar, -, positive, half⟩ := allowed
      simp only [SyncSystem.step, SyncUpdate.schedule, SyncUpdate.get_modify]
      split_ifs
      · exact
          { pending := rfl
            due := by simp [Plan.boundary]
            period := rfl
            positive := positive
            half := half
            behind := by simpa [Plan.boundary] using notFar
            passed := .inl rfl }
      · exact tracks.mono ordered
  | reset categories =>
      simp only [SyncSystem.step, SyncUpdate.reset, SyncUpdate.get_modify]
      split_ifs
      · rfl
      · exact tracks.mono ordered
  | next asked =>
      simp only [SyncSystem.step, SyncUpdate.get_next]
      by_cases same : category = asked
      · subst same
        rw [if_pos rfl]
        cases planned : system.plans category with
        | none =>
            rw [planned] at tracks
            have idle : (system.state.get category).pending = false := tracks
            simp only [idle, Option.map_none]
            exact idle
        | some plan =>
            rw [planned] at tracks
            have follows : Follows _ plan _ := tracks
            rw [if_pos ⟨rfl, follows.pending⟩]
            exact follows.advance ordered (allowed plan planned)
      · rw [if_neg same, if_neg fun both => same both.1]
        exact tracks.mono ordered
  | due => exact tracks.mono ordered
  | consume categories =>
      simp only [SyncSystem.step, SyncUpdate.get_consume]
      by_cases named : categories.contains category = true
      · have due := tracks.isDue_iff ordered (allowed category named)
        rw [if_pos named, named, Bool.true_and]
        cases planned : system.plans category with
        | none =>
            rw [planned] at tracks due
            rw [if_neg fun ready => by simpa using due.mp ready]
            exact tracks
        | some plan =>
            rw [planned] at tracks due
            have follows : Follows _ plan _ := tracks
            by_cases reached : plan.boundary ≤ now
            · rw [if_pos (due.mpr ⟨plan, rfl, reached⟩)]
              exact follows.consume ordered reached
            · have early :
                  ¬(system.state.get category).isDue (seen now) = true := by
                intro ready
                obtain ⟨_, ⟨⟩, before⟩ := due.mp ready
                exact reached before
              rw [if_neg early, Option.map_some, Plan.consume, if_neg reached]
              exact tracks.mono ordered
      · simp only [named]
        exact tracks.mono ordered

/-- What the calls at an instant answer and do, against the plans.  The
boundary a plan is at is the first one not passed by a call; `next` moves to
the least that is still to come. -/
structure CallsCorrect (system : SyncSystem) (now : Nat) : Prop where
  next : ∀ category plan, system.plans category = some plan → system.InTime now category → ∃ target,
          IsLeast {instant | instant ∈ plan.Boundaries ∧ now < instant}
              target ∧
            (system.state.next category (seen now)).1 = some (seen target) ∧
            ((system.state.next category (seen now)).2.get category).due = seen target
  unscheduled :
    ∀ category, system.plans category = none → (system.state.next category (seen now)).1 = none
  due : ∀ category, system.InTime now category →
      ((system.state.due (seen now)).contains category = true ↔
        ∃ plan, system.plans category = some plan ∧ plan.boundary ≤ now)
  consume : ∀ categories category plan, categories.contains category = true →
      system.plans category = some plan → system.InTime now category →
        ((system.state.consume categories (seen now)).get category).due = seen
            (if plan.boundary ≤ now then plan.boundary + plan.period
              else plan.boundary)
  nextElsewhere : ∀ category other, other ≠ category →
      (system.state.next category (seen now)).2.get other = system.state.get other
  consumeElsewhere : ∀ categories other, categories.contains other = false →
      (system.state.consume categories (seen now)).get other = system.state.get other
  scheduleElsewhere : ∀ categories other start period, categories.contains other = false →
      (system.state.schedule categories start period).get other = system.state.get other
  resetElsewhere : ∀ categories other, categories.contains other = false →
      (system.state.reset categories).get other = system.state.get other

theorem Tracking.next_correct (tracking : system.Tracking) {now : Nat}
    (later : system.clock ≤ now) {category : SyncCategory} {plan : Plan}
    (planned : system.plans category = some plan)
    (inTime : system.InTime now category) :
    ∃ target, IsLeast {instant | instant ∈ plan.Boundaries ∧ now < instant}
          target ∧
        (system.state.next category (seen now)).1 = some (seen target) ∧
        ((system.state.next category (seen now)).2.get category).due =
          seen target := by
  have tracks := tracking category
  rw [planned] at tracks
  have follows : Follows _ plan _ := tracks
  have advanced := follows.advance later (inTime plan planned)
  refine ⟨(plan.advance now).boundary, ?_, ?_, ?_⟩
  · exact plan.advance_isLeast follows.positive (follows.mono later).passed
  · rw [SyncUpdate.next, if_pos follows.pending]
    exact congrArg some advanced.due
  · rw [SyncUpdate.get_next, if_pos ⟨rfl, follows.pending⟩]
    exact advanced.due

theorem Tracking.consume_correct (tracking : system.Tracking) {now : Nat}
    (later : system.clock ≤ now) {categories : SyncCategories}
    {category : SyncCategory} {plan : Plan}
    (named : categories.contains category = true)
    (planned : system.plans category = some plan)
    (inTime : system.InTime now category) :
    ((system.state.consume categories (seen now)).get category).due = seen
        (if plan.boundary ≤ now then plan.boundary + plan.period
          else plan.boundary) := by
  have tracks := tracking category
  have due := tracks.isDue_iff later inTime
  rw [planned] at tracks due
  have follows : Follows _ plan _ := tracks
  rw [SyncUpdate.get_consume, named, Bool.true_and]
  by_cases reached : plan.boundary ≤ now
  · rw [if_pos (due.mpr ⟨plan, rfl, reached⟩), if_pos reached, ← plan.consume_boundary reached]
    exact (follows.consume later reached).due
  · have early : ¬(system.state.get category).isDue (seen now) = true := by
      intro ready
      obtain ⟨_, ⟨⟩, before⟩ := due.mp ready
      exact reached before
    rw [if_neg early, if_neg reached]
    exact follows.due

/-- In every run whose calls are timely, a later call answers as the unbounded
schedule does for each category it looks at in time, and touches no other
category. -/
theorem wrapping_schedule_correct (calls : List SyncCall)
    (timely : StepsMeet step Timely init calls) {now : Nat}
    (later : (runSteps step init calls).clock ≤ now) :
    CallsCorrect (runSteps step init calls) now := by
  have preserved (system : SyncSystem) (call : SyncCall)
      (allowed : system.Timely call) (tracking : system.Tracking) :
      (system.step call).Tracking :=
    tracking.step call allowed
  have tracking := invariant_of_stepsMeet preserved timely tracking_init
  generalize runSteps step init calls = system at later tracking ⊢
  exact
    { next := fun _ _ planned inTime =>
        tracking.next_correct later planned inTime
      unscheduled := by
        intro category unplanned
        have tracks := tracking category
        rw [unplanned] at tracks
        have idle : (system.state.get category).pending = false := tracks
        simp [SyncUpdate.next, idle]
      due := by
        intro category inTime
        rw [SyncUpdate.due_contains]
        exact (tracking category).isDue_iff later inTime
      consume := fun _ _ _ named planned inTime =>
        tracking.consume_correct later named planned inTime
      nextElsewhere := by
        intro category other different
        rw [SyncUpdate.get_next, if_neg fun both => different both.1]
      consumeElsewhere := by
        intro categories other unnamed
        simp [SyncUpdate.get_consume, unnamed]
      scheduleElsewhere := by
        intro categories other start period unnamed
        simp [SyncUpdate.schedule, SyncUpdate.get_modify, unnamed]
      resetElsewhere := by
        intro categories other unnamed
        simp [SyncUpdate.reset, SyncUpdate.get_modify, unnamed] }

/-- A gain schedule from sample 1000 on, every 100 samples. -/
def everyHundred : List SyncCall := [⟨990, .schedule ⟨true, false, false⟩ 1000 100⟩]

theorem everyHundred_correct : StepsMeet step Timely init everyHundred ∧
      CallsCorrect (runSteps step init everyHundred) 2147484000 := by
  have timely : StepsMeet step Timely init everyHundred := by
    refine ⟨⟨?_, ?_, ?_, ?_, ?_⟩, trivial⟩ <;> decide
  exact ⟨timely, wrapping_schedule_correct everyHundred timely (by decide)⟩

/-- Half the range after its first boundary a schedule is taken to be still to
come. -/
theorem schedule_stuck_after_half_range :
    (runSteps step init everyHundred).plans .gain = some ⟨1000, 100, 0⟩ ∧ IsLeast
        {instant | instant ∈ Plan.Boundaries ⟨1000, 100, 0⟩ ∧ 2147484648 < instant}
        2147484700 ∧
      ((runSteps step init everyHundred).state.next .gain (seen 2147484648)).1 = some 1000 ∧
      seen 2147484700 ≠ 1000 := by
  refine ⟨rfl, ?_, by decide, by decide⟩
  exact Plan.advance_isLeast ⟨1000, 100, 0⟩ (by decide) (.inl rfl)

end SyncSystem

end OpenRsp
