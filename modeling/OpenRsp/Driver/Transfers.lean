import Mathlib.Data.List.Basic
import Mathlib.Logic.Function.Basic
import OpenRsp.Library.Runs

/-!
# Transfers owned by libusb

`mirisdr_read_async` of `third_party/libmirisdr/src/async.c` submits its
transfers to libusb, whose event loop calls `_libusb_callback` for each one
that completes, and frees them when the stream ends.  libusb writes into a
transfer until its callback has run, so nothing may be freed before.  The
driver goes by a flag per transfer, which is set after the submission and
cleared in the callback.  Another thread may meanwhile cancel the stream, or
pause and resume it to change registers.  The steps of the threads interleave
where the code calls libusb or the device, and between reading the status and
writing it: a cancellation that found the stream running may write `canceling`
when the stream has ended.
-/

namespace OpenRsp.Driver

open Runs

/-- `async_status`. -/
inductive AsyncStatus where
  | inactive
  | canceling
  | running
  | paused
  | failed
deriving DecidableEq, Repr

/-- A transfer: whether libusb owns it, and its flag in `xfer_pending`. -/
structure Transfer where
  owned : Bool
  pending : Bool
deriving DecidableEq, Repr

/-- How `_libusb_callback` ends for a transfer: submitted again, submitted
again before a failure, not submitted again, or failed. -/
inductive CallbackEnd where
  | resubmitted
  | resubmittedFailed
  | ended
  | failed
deriving DecidableEq, Repr

/-- What `libusb_handle_events_timeout` returns. -/
inductive EventResult where
  | handled
  | interrupted
  | error
deriving DecidableEq, Repr

/-- Where `mirisdr_read_async` is.  A drain counts its passes and tells
whether it comes from `failed_free`. -/
inductive ReaderPoint where
  | idle
  | submitting (index : Nat)
  | marking (index : Nat)
  | starting
  | looping
  | checking
  | failing
  | deciding
  | draining (passes : Nat) (failing : Bool)
deriving DecidableEq, Repr

/-- Where `mirisdr_stop_async` or `mirisdr_start_async` is. -/
inductive ControlPoint where
  | idle
  | draining (passes : Nat)
  | pausing
  | submitting (index : Nat)
  | marking (index : Nat)
  | resuming
deriving DecidableEq, Repr

/-- The driver, with `xfer_buf_num` transfers, the number of calls of
`mirisdr_cancel_async` that have found the stream running and not written the
status yet, and what `mirisdr_read_async` returned last.  It is overtaken when
such a call writes after the stream has ended, and has faulted when it used
transfers that are freed. -/
structure AsyncDevice where
  status : AsyncStatus
  count : Nat
  transfers : Nat → Transfer
  allocated : Bool
  reader : ReaderPoint
  control : ControlPoint
  cancels : Nat
  transferFailed : Bool
  result : Int
  overtaken : Bool
  faulted : Bool

/-- What happens, with the results that come from libusb. -/
inductive AsyncAction where
  | readAsync (num : Nat) (prepared : Bool)
  | submit (accepted : Bool)
  | mark
  | start (succeeds : Bool)
  | handleEvents (result : EventResult)
  | checkFailed
  | storeCanceling
  | checkCanceling
  | drainPass (result : EventResult)
  | callback (index : Nat) (callbackEnd : CallbackEnd)
  | cancelAsync
  | cancelStore
  | stopAsync
  | stopPass (result : EventResult)
  | pause
  | startAsync
  | resubmit (accepted : Bool)
  | remark
  | resume
deriving DecidableEq, Repr

namespace AsyncDevice

def initial : AsyncDevice :=
  ⟨.inactive, 0, fun _ => ⟨false, false⟩, false, .idle, .idle, 0, false, 0, false, false⟩

def setTransfer (device : AsyncDevice) (index : Nat) (transfer : Transfer) :
    AsyncDevice :=
  { device with
    transfers := Function.update device.transfers index transfer }

/-- A step that uses the transfers. -/
def access (device next : AsyncDevice) : AsyncDevice :=
  if device.allocated then next else { device with faulted := true }

/-- Whether no flag is set. -/
def drained (device : AsyncDevice) : Bool :=
  (List.range device.count).all fun index =>
    !(device.transfers index).pending

/-- `mirisdr_async_free` and the return that follows. -/
def free (device : AsyncDevice) (failing : Bool) : AsyncDevice :=
  { device with
    status := .inactive
    allocated := false
    reader := .idle
    result := if device.transferFailed || failing then -1 else 0 }

/-- `_libusb_callback`. -/
def callback (device : AsyncDevice) (index : Nat) (callbackEnd : CallbackEnd) :
    AsyncDevice :=
  let cleared := device.setTransfer index ⟨false, false⟩
  if device.status = .canceling ∨ device.status = .failed then cleared
  else
    match callbackEnd with
    | .resubmitted => device
    | .resubmittedFailed => { device with status := .failed }
    | .ended => cleared
    | .failed => { cleared with status := .failed }

/-- A pass of `mirisdr_async_cancel_pending`: the result once it is known,
or nothing when there is another pass. -/
def cancelPass (device : AsyncDevice) (passes : Nat) (result : EventResult) :
    Option Bool :=
  if passes = 0 ∧ device.allocated = false then some true
  else if device.drained then some true
  else if passes = 8 ∨ result = .error then some false
  else none

def step (device : AsyncDevice) : AsyncAction → AsyncDevice
  | .readAsync num prepared =>
      if device.reader ≠ .idle then device
      else if device.status = .inactive then
        { device with
          count := if num = 0 then 32 else num
          transfers := fun _ => ⟨false, false⟩
          allocated := true
          transferFailed := false
          reader := if prepared then .submitting 0 else .draining 0 true }
      else { device with result := -1 }
  | .submit accepted =>
      match device.reader with
      | .submitting index =>
          if index < device.count then
            if accepted then
              device.access
                { device.setTransfer index
                    { device.transfers index with owned := true } with
                  reader := .marking index }
            else { device with reader := .draining 0 true }
          else { device with reader := .starting }
      | _ => device
  | .mark =>
      match device.reader with
      | .marking index =>
          device.access
            { device.setTransfer index
                { device.transfers index with pending := true } with
              reader := .submitting (index + 1) }
      | _ => device
  | .start succeeds =>
      if device.reader = .starting then
        if succeeds then
          { device with status := .running, reader := .looping }
        else { device with reader := .draining 0 true }
      else device
  | .handleEvents result =>
      if device.reader = .looping then
        if device.status = .inactive then device.free false
        else
          match result with
          | .interrupted => device
          | .error => { device with reader := .draining 0 true }
          | .handled => { device with reader := .checking }
      else device
  | .checkFailed =>
      if device.reader = .checking then
        if device.status = .failed then
          { device with transferFailed := true, reader := .failing }
        else { device with reader := .deciding }
      else device
  | .storeCanceling =>
      if device.reader = .failing then
        { device with status := .canceling, reader := .deciding }
      else device
  | .checkCanceling =>
      if device.reader = .deciding then
        if device.status = .canceling then
          { device with reader := .draining 0 false }
        else { device with reader := .looping }
      else device
  | .drainPass result =>
      match device.reader with
      | .draining passes failing =>
          match device.cancelPass passes result with
          | some true => device.free failing
          | some false =>
              { device with status := .failed, reader := .idle, result := -1 }
          | none => { device with reader := .draining (passes + 1) failing }
      | _ => device
  | .callback index callbackEnd =>
      if (device.transfers index).owned then
        device.access (device.callback index callbackEnd)
      else device
  | .cancelAsync =>
      if device.status = .running ∨ device.status = .paused then
        { device with cancels := device.cancels + 1 }
      else device
  | .cancelStore =>
      if device.cancels = 0 then device
      else
        { device with
          status := .canceling
          cancels := device.cancels - 1
          overtaken := device.overtaken || decide (device.reader = .idle) }
  | .stopAsync =>
      if device.control = .idle ∧ device.status = .running then
        { device with control := .draining 0 }
      else device
  | .stopPass result =>
      match device.control with
      | .draining passes =>
          let next :=
            match device.cancelPass passes result with
            | some true =>
                if device.status = .running then
                  { device with control := .pausing }
                else { device with control := .idle }
            | some false => { device with control := .idle }
            | none => { device with control := .draining (passes + 1) }
          -- only the first pass looks whether there are transfers
          if passes = 0 then next else device.access next
      | _ => device
  | .pause =>
      if device.control = .pausing then
        { device with control := .idle, status := .paused }
      else device
  | .startAsync =>
      if device.control = .idle ∧ device.status = .paused then
        { device with control := .submitting 0 }
      else device
  | .resubmit accepted =>
      match device.control with
      | .submitting index =>
          if index < device.count then
            -- libusb refuses a transfer that it owns already
            if accepted ∧ (device.transfers index).owned = false then
              device.access
                { device.setTransfer index
                    { device.transfers index with owned := true } with
                  control := .marking index }
            else device.access { device with control := .idle }
          else if device.status = .paused then
            { device with control := .resuming }
          else { device with control := .idle }
      | _ => device
  | .remark =>
      match device.control with
      | .marking index =>
          device.access
            { device.setTransfer index
                { device.transfers index with pending := true } with
              control := .submitting (index + 1) }
      | _ => device
  | .resume =>
      if device.control = .resuming then
        { device with control := .idle, status := .running }
      else device

/-! ## What is owned is marked -/

/-- The transfer was submitted a moment ago and its flag is still to be
set. -/
def Unmarked (device : AsyncDevice) (index : Nat) : Prop :=
  device.reader = .marking index ∨ device.control = .marking index

/-- `mirisdr_read_async` is in its loop. -/
def Loops (device : AsyncDevice) : Prop :=
  device.reader = .looping ∨ device.reader = .checking ∨ device.reader = .failing ∨
    device.reader = .deciding

@[grind cases]
structure Sound (device : AsyncDevice) : Prop where
  owned : ∀ index, (device.transfers index).owned = true →
      device.allocated = true ∧ index < device.count ∧
        ((device.transfers index).pending = true ∨ device.Unmarked index)
  looping : device.Loops → device.status ≠ .inactive
  working : device.reader ≠ .idle → device.allocated = true
  controlled : device.control ≠ .idle → device.reader ≠ .idle
  halted : device.reader = .idle → device.status ≠ .running ∧ device.status ≠ .paused
  kept : device.reader = .idle → device.allocated = true → device.result = -1
  returned : device.reader = .idle → device.overtaken = false →
      device.status = .failed ∧ device.result = -1 ∨
        device.status = .inactive ∧ device.allocated = false
  unfaulted : device.faulted = false

theorem sound_initial : initial.Sound where
  owned _ isOwned := by cases isOwned
  looping isLooping := by simp [Loops, initial] at isLooping
  working isWorking := absurd rfl isWorking
  controlled isControlled := absurd rfl isControlled
  halted _ := by simp [initial]
  kept _ isAllocated := by cases isAllocated
  returned _ _ := .inr ⟨rfl, rfl⟩
  unfaulted := rfl

/-- Whether a pass ends the drain of `mirisdr_read_async`. -/
def endsDrain (device : AsyncDevice) (result : EventResult) : Bool :=
  match device.reader with
  | .draining passes _ => (device.cancelPass passes result).isSome
  | _ => false

/-- The stream does not end while it is being paused or resumed. -/
def EndsUncontrolled (device : AsyncDevice) : AsyncAction → Prop
  | .drainPass result => device.endsDrain result = true → device.control = .idle
  | _ => True

instance EndsUncontrolled.decidable (device : AsyncDevice) :
    ∀ action, Decidable (device.EndsUncontrolled action)
  | .drainPass _ => inferInstanceAs (Decidable (_ → _))
  | .readAsync .. | .submit _ | .mark | .start _ | .handleEvents _ | .checkFailed
  | .storeCanceling | .checkCanceling | .callback .. | .cancelAsync | .cancelStore
  | .stopAsync | .stopPass _ | .pause | .startAsync | .resubmit _ | .remark | .resume =>
      inferInstanceAs (Decidable True)

section Steps

variable {device : AsyncDevice} (sound : device.Sound)

include sound

/-- With no flag set and none to be set, libusb owns nothing. -/
theorem Sound.none_owned (drained : device.drained = true)
    (unmarked : ∀ index, ¬device.Unmarked index) (index : Nat) :
    (device.transfers index).owned = false := by
  by_contra owned
  obtain ⟨-, bound, pending | submitted⟩ := sound.owned index (Bool.not_eq_false _ ▸ owned)
  · have clear := List.all_eq_true.mp drained index (List.mem_range.mpr bound)
    rw [pending] at clear
    cases clear
  · exact unmarked index submitted

theorem Sound.cleared (index : Nat) :
    (device.setTransfer index ⟨false, false⟩).Sound :=
  { sound with
    owned := fun other isOwned => by
      rcases eq_or_ne other index with rfl | different
      · simp [setTransfer] at isOwned
      · simp only [setTransfer, Function.update_of_ne different] at isOwned ⊢
        exact sound.owned other isOwned }

theorem Sound.failed (allocated : device.allocated = true) :
    ({ device with status := .failed } : AsyncDevice).Sound :=
  { sound with
    looping := fun _ => by simp
    halted := fun _ => by simp
    returned := fun isIdle inTime => by
      rcases sound.returned isIdle inTime with ⟨-, result⟩ | ⟨-, freed⟩
      · exact .inl ⟨rfl, result⟩
      · cases allocated.symm.trans freed }

theorem Sound.callback {index : Nat} (allocated : device.allocated = true)
    (callbackEnd : CallbackEnd) :
    (device.callback index callbackEnd).Sound := by
  unfold AsyncDevice.callback
  dsimp only
  split_ifs
  · exact sound.cleared index
  · cases callbackEnd with
    | resubmitted => exact sound
    | resubmittedFailed => exact sound.failed allocated
    | ended => exact sound.cleared index
    | failed => exact (sound.cleared index).failed allocated

/-- A drain that ends frees what libusb no longer owns, or frees nothing. -/
theorem Sound.drainPass (result : EventResult)
    (uncontrolled : device.endsDrain result = true → device.control = .idle) :
    (device.step (.drainPass result)).Sound := by
  simp only [AsyncDevice.step]
  split
  · rename_i passes failing isReader
    have allocated : device.allocated = true := by
      apply sound.working
      simp [isReader]
    simp only [endsDrain, isReader] at uncontrolled
    split
    · rename_i ended
      have isIdle := uncontrolled (by simp [ended])
      have drained : device.drained = true := by
        by_contra pending
        simp [cancelPass, allocated, pending] at ended
      have owned := sound.none_owned drained (by simp [Unmarked, isReader, isIdle])
      exact
        { owned := fun index isOwned => by
            cases (owned index).symm.trans isOwned
          looping := fun isLooping => by simp [Loops, free] at isLooping
          working := fun isWorking => absurd rfl isWorking
          controlled := fun isControlled => absurd isIdle isControlled
          halted := fun _ => by simp [free]
          kept := fun _ isAllocated => by cases isAllocated
          returned := fun _ _ => .inr ⟨rfl, rfl⟩
          unfaulted := sound.unfaulted }
    · rename_i ended
      have isIdle := uncontrolled (by simp [ended])
      constructor <;> grind [Unmarked, Loops]
    · constructor <;> grind [Unmarked, Loops]
  · exact sound

/-- Submissions and their flags. -/
theorem Sound.submission (accepted : Bool) :
    (device.step (.submit accepted)).Sound ∧ (device.step .mark).Sound ∧
      (device.step (.resubmit accepted)).Sound ∧
      (device.step .remark).Sound := by
  refine ⟨?_, ?_, ?_, ?_⟩
  all_goals
    simp only [AsyncDevice.step, setTransfer, access]
    repeat' split
    any_goals exact sound
    all_goals constructor <;> grind [Unmarked, Loops, Function.update_apply]

/-- The other steps of the reader; none frees what libusb could own. -/
theorem Sound.reading (num : Nat) (succeeds : Bool) (result : EventResult) :
    (device.step (.readAsync num succeeds)).Sound ∧ (device.step (.start succeeds)).Sound ∧
      (device.step (.handleEvents result)).Sound := by
  refine ⟨?_, ?_, ?_⟩
  all_goals
    simp only [AsyncDevice.step, free]
    repeat' split
    any_goals exact sound
    all_goals constructor <;> grind [Unmarked, Loops]

/-- The reader's checks of the status, and cancellations. -/
theorem Sound.checking : (device.step .checkFailed).Sound ∧ (device.step .storeCanceling).Sound ∧
      (device.step .checkCanceling).Sound ∧ (device.step .cancelAsync).Sound ∧
      (device.step .cancelStore).Sound := by
  refine ⟨?_, ?_, ?_, ?_, ?_⟩
  all_goals
    simp only [AsyncDevice.step]
    repeat' split
    any_goals exact sound
    all_goals constructor <;> grind [Unmarked, Loops]

/-- Pausing and resuming. -/
theorem Sound.controlling (result : EventResult) :
    (device.step .stopAsync).Sound ∧ (device.step (.stopPass result)).Sound ∧
      (device.step .pause).Sound ∧ (device.step .startAsync).Sound ∧
      (device.step .resume).Sound := by
  refine ⟨?_, ?_, ?_, ?_, ?_⟩
  all_goals
    simp only [AsyncDevice.step, access]
    repeat' split
    any_goals exact sound
    all_goals constructor <;> grind [Unmarked, Loops]

theorem Sound.step (action : AsyncAction) (uncontrolled : device.EndsUncontrolled action) :
    (device.step action).Sound := by
  cases action with
  | callback index callbackEnd =>
      simp only [AsyncDevice.step, access]
      split_ifs with isOwned allocated
      · exact sound.callback allocated callbackEnd
      · exact absurd (sound.owned index isOwned).1 allocated
      · exact sound
  | drainPass result => exact sound.drainPass result uncontrolled
  | submit accepted => exact (sound.submission accepted).1
  | mark => exact (sound.submission true).2.1
  | resubmit accepted => exact (sound.submission accepted).2.2.1
  | remark => exact (sound.submission true).2.2.2
  | readAsync num prepared => exact (sound.reading num prepared .handled).1
  | start succeeds => exact (sound.reading 0 succeeds .handled).2.1
  | handleEvents result => exact (sound.reading 0 true result).2.2
  | checkFailed => exact sound.checking.1
  | storeCanceling => exact sound.checking.2.1
  | checkCanceling => exact sound.checking.2.2.1
  | cancelAsync => exact sound.checking.2.2.2.1
  | cancelStore => exact sound.checking.2.2.2.2
  | stopAsync => exact (sound.controlling .handled).1
  | stopPass result => exact (sound.controlling result).2.1
  | pause => exact (sound.controlling .handled).2.2.1
  | startAsync => exact (sound.controlling .handled).2.2.2.1
  | resume => exact (sound.controlling .handled).2.2.2.2

end Steps

/-- A resumption that is overtaken by a cancellation submits a transfer,
which is freed before its flag is set. -/
example : (runSteps step initial
      [.readAsync 1 true, .submit true, .mark, .submit true, .start true,
        .stopAsync, .callback 0 .ended, .stopPass .handled, .pause,
        .startAsync, .resubmit true, .cancelAsync, .cancelStore, .handleEvents .handled,
        .checkFailed, .checkCanceling, .drainPass .handled, .remark]).faulted = true := by
  decide +kernel

/-- A cancellation that is overtaken by the end of the stream leaves the
status `canceling`. -/
example : (runSteps step initial
      [.readAsync 1 true, .submit true, .mark, .submit true, .start true, .cancelAsync,
        .callback 0 .failed, .handleEvents .handled, .checkFailed, .storeCanceling,
        .checkCanceling, .drainPass .handled, .cancelStore]).status = .canceling := by
  decide +kernel

end AsyncDevice

end OpenRsp.Driver
