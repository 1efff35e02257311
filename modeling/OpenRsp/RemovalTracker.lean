import Mathlib.Data.Nat.Basic

/-!
# The removal tracker

`daemon/removal_tracker.c`.  Timestamps are 64-bit in the source and only
subtracted after a comparison, so naturals carry the same values.
-/

namespace OpenRsp

/-- `openrspd_removal_tracker`. -/
structure RemovalTracker where
  absentSinceMs : Nat
  absenceActive : Bool
  removalNotified : Bool
deriving DecidableEq, Repr

/-- `openrspd_removal_tracker_present`. -/
def openrspdRemovalTrackerPresent : RemovalTracker := ⟨0, false, false⟩

/-- `openrspd_removal_tracker_absent`: whether to report, and the tracker. -/
def openrspdRemovalTrackerAbsent (tracker : RemovalTracker) (nowMs graceMs : Nat) :
    Bool × RemovalTracker :=
  if tracker.absenceActive = false then
    if graceMs = 0 ∧ tracker.removalNotified = false then
      (true, ⟨nowMs, true, true⟩)
    else
      (false, ⟨nowMs, true, tracker.removalNotified⟩)
  else if nowMs < tracker.absentSinceMs then
    -- a clock that went backwards restarts the grace window
    (false, { tracker with absentSinceMs := nowMs })
  else if tracker.removalNotified = false ∧
      graceMs ≤ nowMs - tracker.absentSinceMs then
    (true, { tracker with removalNotified := true })
  else
    (false, tracker)

end OpenRsp
