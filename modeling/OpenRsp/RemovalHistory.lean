import Mathlib.Data.List.Induction
import OpenRsp.RemovalTracker
import OpenRsp.Library.Runs

/-!
# Histories of the removal tracker

The calls of `daemon/removal_tracker.c` in any order and with any timestamps,
a clock that goes backwards included.  An absence is a stretch of calls of
`openrspd_removal_tracker_absent` without one of
`openrspd_removal_tracker_present` in between.  A removal is reported at most
once per absence, and only when the receiver has been away for the grace
period by the clock of a stretch that never fell below its start.
-/

namespace OpenRsp

open Runs

/-- A call of the tracker. -/
inductive TrackerCall where
  | present
  | absent (nowMs : Nat)
deriving DecidableEq, Repr

/-- The tracker a call leaves. -/
def RemovalTracker.call (graceMs : Nat) (tracker : RemovalTracker) :
    TrackerCall → RemovalTracker
  | .present => openrspdRemovalTrackerPresent
  | .absent nowMs => (openrspdRemovalTrackerAbsent tracker nowMs graceMs).2

/-- The tracker after calls on one that is zero. -/
def trackerAfter (graceMs : Nat) (calls : List TrackerCall) :
    RemovalTracker :=
  runSteps (RemovalTracker.call graceMs) openrspdRemovalTrackerPresent calls

/-- What `openrspd_removal_tracker_absent` returns at `nowMs` after calls. -/
def removalReported (graceMs : Nat) (calls : List TrackerCall) (nowMs : Nat) : Bool :=
  (openrspdRemovalTrackerAbsent (trackerAfter graceMs calls) nowMs graceMs).1

/-- No absence is under way after the calls. -/
def StartsAbsence (calls : List TrackerCall) : Prop :=
  calls = [] ∨ ∃ earlier, calls = earlier ++ [.present]

theorem trackerAfter_append (graceMs : Nat) (calls later : List TrackerCall) :
    trackerAfter graceMs (calls ++ later) =
      runSteps (RemovalTracker.call graceMs) (trackerAfter graceMs calls)
        later :=
  runSteps_append _ _ calls later

theorem trackerAfter_concat (graceMs : Nat) (calls : List TrackerCall) (call : TrackerCall) :
    trackerAfter graceMs (calls ++ [call]) = (trackerAfter graceMs calls).call graceMs call :=
  trackerAfter_append graceMs calls [call]

/-! ## One call -/

section Call

variable {tracker : RemovalTracker} {nowMs graceMs : Nat}

/-- When a call reports. -/
theorem absent_reports
    (reported : (openrspdRemovalTrackerAbsent tracker nowMs graceMs).1 = true) :
    (openrspdRemovalTrackerAbsent tracker nowMs graceMs).2.removalNotified =
        true ∧
      ((tracker.absenceActive = false ∧ graceMs = 0) ∨
        (tracker.absenceActive = true ∧ tracker.absentSinceMs ≤ nowMs ∧
          graceMs ≤ nowMs - tracker.absentSinceMs)) := by
  unfold openrspdRemovalTrackerAbsent at reported ⊢
  split_ifs at reported ⊢ with inactive atOnce backwards elapsed
  · exact ⟨rfl, .inl ⟨inactive, atOnce.1⟩⟩
  · exact ⟨rfl, .inr ⟨by simpa using inactive, not_lt.mp backwards, elapsed.2⟩⟩

/-- A tracker that has reported stays silent until the receiver is back. -/
theorem absent_notified (notified : tracker.removalNotified = true) :
    (openrspdRemovalTrackerAbsent tracker nowMs graceMs).1 = false ∧
      (openrspdRemovalTrackerAbsent tracker nowMs graceMs).2.removalNotified = true := by
  unfold openrspdRemovalTrackerAbsent
  split_ifs with inactive atOnce backwards elapsed
  · simp [notified] at atOnce
  · exact ⟨rfl, notified⟩
  · exact ⟨rfl, notified⟩
  · simp [notified] at elapsed
  · exact ⟨rfl, notified⟩

/-- The window of an absence starts with it, starts again when the clock goes
backwards, and otherwise stays. -/
theorem absent_since (tracker : RemovalTracker) (nowMs graceMs : Nat) :
    let after := (openrspdRemovalTrackerAbsent tracker nowMs graceMs).2
    after.absenceActive = true ∧ (after.absentSinceMs = nowMs ∨
        (tracker.absenceActive = true ∧
          after.absentSinceMs = tracker.absentSinceMs ∧
          tracker.absentSinceMs ≤ nowMs)) := by
  unfold openrspdRemovalTrackerAbsent
  split_ifs with inactive atOnce backwards elapsed
  · exact ⟨rfl, .inl rfl⟩
  · exact ⟨rfl, .inl rfl⟩
  · exact ⟨by simpa using inactive, .inl rfl⟩
  · have active : tracker.absenceActive = true := by simpa using inactive
    exact ⟨active, .inr ⟨active, rfl, not_lt.mp backwards⟩⟩
  · have active : tracker.absenceActive = true := by simpa using inactive
    exact ⟨active, .inr ⟨active, rfl, not_lt.mp backwards⟩⟩

/-- A call within a window that has not been left. -/
theorem absent_within {firstMs : Nat} {notified : Bool} (above : firstMs ≤ nowMs) :
    openrspdRemovalTrackerAbsent ⟨firstMs, true, notified⟩ nowMs graceMs =
      (!notified && decide (firstMs + graceMs ≤ nowMs),
        ⟨firstMs, true, notified || decide (firstMs + graceMs ≤ nowMs)⟩) := by
  have elapsed :
      graceMs ≤ nowMs - firstMs ↔ firstMs + graceMs ≤ nowMs := by
    omega
  simp only [openrspdRemovalTrackerAbsent, elapsed]
  rw [if_neg (by simp), if_neg (not_lt.mpr above)]
  by_cases late : firstMs + graceMs ≤ nowMs
  · cases notified <;> simp [late]
  · simp [late]

end Call

/-! ## Histories -/

section History

variable {graceMs : Nat}

theorem absences_notified (graceMs : Nat) {tracker : RemovalTracker}
    (notified : tracker.removalNotified = true) (times : List Nat) :
    (runSteps (RemovalTracker.call graceMs) tracker
      (times.map .absent)).removalNotified = true := by
  induction times generalizing tracker with
  | nil => exact notified
  | cons time times inductionHypothesis =>
      exact inductionHypothesis (absent_notified notified).2

/-- The calls end with a stretch of the current absence that begins at the
tracker's mark and never falls below it. -/
def EndsWithWindow (calls : List TrackerCall) (sinceMs : Nat) : Prop :=
  ∃ (older : List TrackerCall) (times : List Nat),
    calls = older ++ .absent sinceMs :: times.map .absent ∧ ∀ time ∈ times, sinceMs ≤ time

theorem EndsWithWindow.concat {calls : List TrackerCall} {sinceMs nowMs : Nat}
    (window : EndsWithWindow calls sinceMs) (later : sinceMs ≤ nowMs) :
    EndsWithWindow (calls ++ [.absent nowMs]) sinceMs := by
  obtain ⟨older, times, rfl, above⟩ := window
  refine ⟨older, times ++ [nowMs], by simp, ?_⟩
  intro time member
  rcases List.mem_append.mp member with earlier | last
  · exact above time earlier
  · rw [List.mem_singleton.mp last]
    exact later

theorem endsWithWindow_self (calls : List TrackerCall) (nowMs : Nat) :
    EndsWithWindow (calls ++ [.absent nowMs]) nowMs :=
  ⟨calls, [], rfl, by simp⟩

theorem trackerAfter_window (calls : List TrackerCall)
    (active : (trackerAfter graceMs calls).absenceActive = true) :
    EndsWithWindow calls (trackerAfter graceMs calls).absentSinceMs := by
  -- Induction from the end: the last call decides whether the window goes on.
  induction calls using List.reverseRecOn with
  | nil => cases active
  | append_singleton calls call inductionHypothesis =>
      rw [trackerAfter_concat] at active ⊢
      cases call with
      | present => cases active
      | absent nowMs =>
          simp only [RemovalTracker.call]
          rcases (absent_since (trackerAfter graceMs calls) nowMs
              graceMs).2 with restarted | ⟨wasActive, kept, later⟩
          · rw [restarted]
            exact endsWithWindow_self calls nowMs
          · rw [kept]
            exact (inductionHypothesis wasActive).concat later

theorem trackerAfter_startsAbsence (graceMs : Nat) {calls : List TrackerCall}
    (starts : StartsAbsence calls) :
    trackerAfter graceMs calls = openrspdRemovalTrackerPresent := by
  rcases starts with rfl | ⟨earlier, rfl⟩
  · rfl
  · rw [trackerAfter_concat]
    rfl

/-- While no timestamp falls below the first, the tracker keeps it and has
reported when one was late enough. -/
theorem absence_tracker {firstMs : Nat} (times : List Nat)
    (later : ∀ time ∈ times, firstMs ≤ time) :
    runSteps (RemovalTracker.call graceMs) ⟨firstMs, true, false⟩
        (times.map .absent) =
      ⟨firstMs, true, times.any fun time => firstMs + graceMs ≤ time⟩ := by
  induction times using List.reverseRecOn with
  | nil => rfl
  | append_singleton times time inductionHypothesis =>
      have above : firstMs ≤ time := later time (by simp)
      have before := inductionHypothesis fun earlier member =>
        later earlier (List.mem_append_left _ member)
      rw [List.map_append, runSteps_append, before, List.map_singleton,
        runSteps_cons, runSteps_nil, List.any_append]
      rw [RemovalTracker.call, absent_within above]
      simp

/-- In an absence whose timestamps never fall below the first, the report
comes with the first call that is late enough. -/
theorem absence_reported_iff {calls : List TrackerCall} {firstMs : Nat}
    {times : List Nat} {nowMs : Nat} (positive : 0 < graceMs)
    (starts : StartsAbsence calls)
    (later : ∀ time ∈ times ++ [nowMs], firstMs ≤ time) :
    removalReported graceMs calls firstMs = false ∧ (removalReported graceMs
          (calls ++ .absent firstMs :: times.map .absent) nowMs = true ↔
        firstMs + graceMs ≤ nowMs ∧ ∀ time ∈ times, time < firstMs + graceMs) := by
  have began := trackerAfter_startsAbsence graceMs starts
  have first : openrspdRemovalTrackerAbsent openrspdRemovalTrackerPresent firstMs
        graceMs = (false, ⟨firstMs, true, false⟩) := by
    simp [openrspdRemovalTrackerAbsent, openrspdRemovalTrackerPresent, Nat.ne_of_gt positive]
  have reached : trackerAfter graceMs
          (calls ++ .absent firstMs :: times.map .absent) =
        ⟨firstMs, true, times.any fun time => firstMs + graceMs ≤ time⟩ := by
    rw [trackerAfter_append, began, runSteps_cons, RemovalTracker.call, first]
    exact absence_tracker times fun time member =>
      later time (List.mem_append_left _ member)
  have above : firstMs ≤ nowMs := later nowMs (by simp)
  constructor
  · rw [removalReported, began, first]
  · rw [removalReported, reached, absent_within above]
    simp [and_comm]

/-- For every history of calls and every grace period, an absence is reported
at most once; a report comes at least the grace period after a call of the
same absence, below whose timestamp the clock has not fallen since; and in an
absence whose timestamps never decrease the report comes exactly at the first
call at least the grace period after the first one. -/
theorem removal_reported_once_and_never_early (graceMs : Nat) :
    (∀ (calls : List TrackerCall) (nowMs : Nat) (times : List Nat)
        (laterMs : Nat),
      removalReported graceMs calls nowMs = true →
        removalReported graceMs (calls ++ .absent nowMs :: times.map .absent) laterMs = false) ∧
    (∀ (calls : List TrackerCall) (nowMs : Nat),
      removalReported graceMs calls nowMs = true →
      ∃ (older : List TrackerCall) (sinceMs : Nat) (times : List Nat), calls ++ [.absent nowMs] =
            older ++ .absent sinceMs :: times.map .absent ∧
          (∀ time ∈ times, sinceMs ≤ time) ∧
          sinceMs ≤ nowMs ∧ graceMs ≤ nowMs - sinceMs) ∧
    (0 < graceMs → ∀ (calls : List TrackerCall) (firstMs : Nat) (times : List Nat)
        (nowMs : Nat), StartsAbsence calls →
      (firstMs :: times ++ [nowMs]).Pairwise (· ≤ ·) →
        removalReported graceMs calls firstMs = false ∧ (removalReported graceMs
              (calls ++ .absent firstMs :: times.map .absent) nowMs = true ↔
            firstMs + graceMs ≤ nowMs ∧ ∀ time ∈ times, time < firstMs + graceMs)) := by
  refine ⟨?_, ?_, ?_⟩
  · intro calls nowMs times laterMs reported
    have notified := absences_notified graceMs (absent_reports reported).1 times
    rw [removalReported, trackerAfter_append]
    exact (absent_notified notified).1
  · intro calls nowMs reported
    rcases (absent_reports reported).2 with
      ⟨-, noGrace⟩ | ⟨active, later, elapsed⟩
    · exact ⟨calls, nowMs, [], rfl, by simp, le_rfl, by omega⟩
    · obtain ⟨older, times, isWindow, above⟩ := (trackerAfter_window calls active).concat later
      exact ⟨older, _, times, isWindow, above, later, elapsed⟩
  · intro positive calls firstMs times nowMs starts ordered
    exact absence_reported_iff positive starts (List.pairwise_cons.mp ordered).1

/-- A clock that goes backwards starts the grace period again. -/
example : removalReported 5000 [.absent 20000, .absent 19000] 23999 = false ∧
      removalReported 5000 [.absent 20000, .absent 19000] 24000 = true := by
  decide

end History

end OpenRsp
