import Mathlib.Data.UInt

/-!
# The update schedule

`compat/sync_update.c`: for each of gain, RF and sample rate the sample at
which the next synchronous update is due, and its period.  Samples are counted
in 32 bits and compared by the sign of their difference.
-/

namespace OpenRsp

/-- `enum openrsp_sync_update_category`. -/
inductive SyncCategory where
  | gain
  | rf
  | fs
deriving DecidableEq, Repr

/-- A set of categories. -/
structure SyncCategories where
  gain : Bool
  rf : Bool
  fs : Bool
deriving DecidableEq, Repr

/-- The schedule of one category. -/
structure CategorySchedule where
  pending : Bool
  due : UInt32
  period : UInt32
deriving DecidableEq, Repr

/-- `openrsp_sync_update`. -/
structure SyncUpdate where
  gain : CategorySchedule
  rf : CategorySchedule
  fs : CategorySchedule
deriving DecidableEq, Repr

namespace SyncCategories

def none : SyncCategories := ⟨false, false, false⟩

def all : SyncCategories := ⟨true, true, true⟩

/-- The categories of a set, in the order of their bits. -/
def toList (categories : SyncCategories) : List SyncCategory :=
  (if categories.gain then [.gain] else []) ++
    (if categories.rf then [.rf] else []) ++
    (if categories.fs then [.fs] else [])

end SyncCategories

namespace CategorySchedule

/-- A boundary has been reached. -/
def reached (sample boundary : UInt32) : Bool := decide ((sample - boundary).toInt32 ≥ 0)

/-- The first boundary of a period after a sample. -/
def advance (schedule : CategorySchedule) (current : UInt32) :
    CategorySchedule :=
  if schedule.period ≠ 0 ∧ reached current schedule.due then
    let elapsed := current - schedule.due
    { schedule with
      due := schedule.due + (elapsed / schedule.period + 1) * schedule.period }
  else schedule

/-- Whether an update is due. -/
def isDue (schedule : CategorySchedule) (sample : UInt32) : Bool :=
  schedule.pending && reached sample schedule.due

/-- An update that is due has been made. -/
def consume (schedule : CategorySchedule) : CategorySchedule :=
  if schedule.period ≠ 0 then
    { schedule with pending := true, due := schedule.due + schedule.period }
  else { schedule with pending := false }

end CategorySchedule

namespace SyncUpdate

/-- `openrsp_sync_update_init`. -/
def init : SyncUpdate := ⟨⟨false, 0, 0⟩, ⟨false, 0, 0⟩, ⟨false, 0, 0⟩⟩

/-- Change the schedules of some categories. -/
def modify (state : SyncUpdate) (categories : SyncCategories)
    (change : CategorySchedule → CategorySchedule) : SyncUpdate where
  gain := if categories.gain then change state.gain else state.gain
  rf := if categories.rf then change state.rf else state.rf
  fs := if categories.fs then change state.fs else state.fs

/-- `openrsp_sync_update_schedule`. -/
def schedule (state : SyncUpdate) (categories : SyncCategories)
    (sample period : UInt32) : SyncUpdate :=
  state.modify categories fun _ => ⟨true, sample, period⟩

/-- `openrsp_sync_update_reset`. -/
def reset (state : SyncUpdate) (categories : SyncCategories) : SyncUpdate :=
  state.modify categories fun schedule =>
    { schedule with pending := false, period := 0 }

def get (state : SyncUpdate) : SyncCategory → CategorySchedule
  | .gain => state.gain
  | .rf => state.rf
  | .fs => state.fs

def set (state : SyncUpdate) (category : SyncCategory) (schedule : CategorySchedule) : SyncUpdate :=
  match category with
  | .gain => { state with gain := schedule }
  | .rf => { state with rf := schedule }
  | .fs => { state with fs := schedule }

/-- `openrsp_sync_update_next`. -/
def next (state : SyncUpdate) (category : SyncCategory)
    (current : UInt32) : Option UInt32 × SyncUpdate :=
  if (state.get category).pending then
    let advanced := (state.get category).advance current
    (some advanced.due, state.set category advanced)
  else (none, state)

/-- `openrsp_sync_update_due`. -/
def due (state : SyncUpdate) (sample : UInt32) : SyncCategories where
  gain := state.gain.isDue sample
  rf := state.rf.isDue sample
  fs := state.fs.isDue sample

/-- `openrsp_sync_update_consume`. -/
def consume (state : SyncUpdate) (categories : SyncCategories) (sample : UInt32) : SyncUpdate :=
  let due := state.due sample
  state.modify
    ⟨categories.gain && due.gain, categories.rf && due.rf, categories.fs && due.fs⟩
    CategorySchedule.consume

end SyncUpdate

end OpenRsp
