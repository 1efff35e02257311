import OpenRsp.Protocol

/-!
# The master/slave session

`daemon/duo_session.c`: the ownership part of the RSPduo master/slave
contract, with no USB or socket dependency.  Each operation returns its
result together with the new session and the event it emitted.

The C functions also refuse a null session.  The daemon only ever passes the
address of a member of its own state, so the session is a value here.
-/

namespace OpenRsp

/-- `openrspd_duo_role`. -/
inductive DuoRole where
  | none
  | master
  | slave
deriving DecidableEq, Repr

/-- `openrspd_duo_result`. -/
inductive DuoResult where
  | ok
  | startPending
  | stopPending
  | busy
  | invalid
deriving DecidableEq, Repr

/-- `openrspd_duo_event_kind`. -/
inductive DuoEventKind where
  | none
  | masterInitialised
  | slaveAttached
  | slaveDetached
  | slaveInitialised
  | slaveUninitialised
  | masterDllDisappeared
  | slaveDllDisappeared
deriving DecidableEq, Repr

/-- `openrspd_duo_event`. -/
structure DuoEvent where
  kind : DuoEventKind
  targetFd : Int
  sourceFd : Int
  tuner : UInt32
deriving DecidableEq, Repr

/-- `openrspd_duo_session`. -/
structure DuoSession where
  masterFd : Int
  slaveFd : Int
  masterTuner : UInt32
  slaveTuner : UInt32
  sampleRateHz : UInt32
  masterSelected : Bool
  slaveSelected : Bool
  masterInitialised : Bool
  slaveInitialised : Bool
deriving DecidableEq, Repr

/-- What a session operation returns: its result, the session it leaves and
the event it wrote through its `event` pointer. -/
structure DuoReturn where
  result : DuoResult
  session : DuoSession
  event : DuoEvent
deriving DecidableEq, Repr

def validDescriptor (descriptor : Int) : Bool := decide (0 ≤ descriptor)

def validTuner (tuner : UInt32) : Bool := tuner == tunerA || tuner == tunerB

def validRate (rate : UInt32) : Bool := rate == 6000000 || rate == 8000000

/-- `clear_event`. -/
def clearEvent : DuoEvent := ⟨.none, -1, -1, 0⟩

/-- `emit_event`. -/
def emitEvent (kind : DuoEventKind) (targetFd sourceFd : Int) (tuner : UInt32) :
    DuoEvent :=
  ⟨kind, targetFd, sourceFd, tuner⟩

def descriptorIsMaster (session : DuoSession) (descriptor : Int) : Bool :=
  session.masterSelected && session.masterFd == descriptor

def descriptorIsSlave (session : DuoSession) (descriptor : Int) : Bool :=
  session.slaveSelected && session.slaveFd == descriptor

/-- `openrspd_duo_session_init`. -/
def openrspdDuoSessionInit : DuoSession := ⟨-1, -1, 0, 0, 0, false, false, false, false⟩

/-- Refuse a call: the session is unchanged and the event stays clear. -/
def DuoReturn.refuse (result : DuoResult) (session : DuoSession) :
    DuoReturn :=
  ⟨result, session, clearEvent⟩

/-- The master half of `openrspd_duo_acquire`. -/
def acquireMaster (session : DuoSession) (descriptor : Int)
    (tuner sampleRateHz : UInt32) : DuoReturn :=
  if validRate sampleRateHz = false then
    .refuse .invalid session
  else if session.masterSelected then
    if session.masterFd = descriptor ∧ session.masterTuner = tuner ∧
        session.sampleRateHz = sampleRateHz then
      .refuse .ok session
    else
      .refuse .busy session
  else if session.slaveSelected ∨
      (session.slaveTuner ≠ 0 ∧ session.slaveTuner = tuner) then
    .refuse .busy session
  else
    ⟨.ok,
      { session with
        masterFd := descriptor
        masterTuner := tuner
        sampleRateHz := sampleRateHz
        masterSelected := true
        masterInitialised := false },
      clearEvent⟩

/-- The slave half of `openrspd_duo_acquire`. -/
def acquireSlave (session : DuoSession) (descriptor : Int)
    (tuner sampleRateHz : UInt32) : DuoReturn :=
  if session.masterSelected = false ∨ session.masterFd = descriptor ∨
      (sampleRateHz ≠ 0 ∧ sampleRateHz ≠ session.sampleRateHz) then
    .refuse .busy session
  else if tuner = session.masterTuner then
    .refuse .busy session
  else if session.slaveSelected then
    if session.slaveFd = descriptor ∧ session.slaveTuner = tuner then
      .refuse .ok session
    else
      .refuse .busy session
  else
    ⟨.ok,
      { session with
        slaveFd := descriptor
        slaveTuner := tuner
        slaveSelected := true
        slaveInitialised := false },
      emitEvent .slaveAttached session.masterFd descriptor tuner⟩

/-- `openrspd_duo_acquire`. -/
def openrspdDuoAcquire (session : DuoSession) (descriptor : Int) (role : DuoRole)
    (tuner sampleRateHz : UInt32) : DuoReturn :=
  if validDescriptor descriptor = false ∨ role = .none ∨
      validTuner tuner = false then
    .refuse .invalid session
  else if role = .master then
    acquireMaster session descriptor tuner sampleRateHz
  else
    acquireSlave session descriptor tuner sampleRateHz

/-- `openrspd_duo_initialise`. -/
def openrspdDuoInitialise (session : DuoSession) (descriptor : Int) : DuoReturn :=
  if validDescriptor descriptor = false then
    .refuse .invalid session
  else if descriptorIsMaster session descriptor then
    if session.masterInitialised then
      .refuse .busy session
    else
      ⟨.ok, { session with masterInitialised := true },
        if session.slaveSelected then
          emitEvent .masterInitialised session.slaveFd descriptor session.slaveTuner
        else
          clearEvent⟩
  else if descriptorIsSlave session descriptor = false then
    .refuse .invalid session
  else if session.slaveInitialised then
    .refuse .busy session
  else if session.masterInitialised = false then
    .refuse .startPending session
  else
    ⟨.ok, { session with slaveInitialised := true },
      emitEvent .slaveInitialised session.masterFd descriptor session.slaveTuner⟩

/-- `openrspd_duo_uninitialise`. -/
def openrspdDuoUninitialise (session : DuoSession) (descriptor : Int) : DuoReturn :=
  if validDescriptor descriptor = false then
    .refuse .invalid session
  else if descriptorIsMaster session descriptor then
    if session.masterInitialised = false then
      .refuse .invalid session
    else if session.slaveInitialised then
      .refuse .stopPending session
    else
      ⟨.ok, { session with masterInitialised := false }, clearEvent⟩
  else if descriptorIsSlave session descriptor = false ∨
      session.slaveInitialised = false then
    .refuse .invalid session
  else
    ⟨.ok, { session with slaveInitialised := false },
      emitEvent .slaveUninitialised session.masterFd descriptor session.slaveTuner⟩

/-- The session once its slave role has been cleared. -/
def DuoSession.withoutSlave (session : DuoSession) : DuoSession :=
  { session with
    slaveFd := -1
    slaveTuner := 0
    slaveSelected := false
    slaveInitialised := false }

/-- `openrspd_duo_release`. -/
def openrspdDuoRelease (session : DuoSession) (descriptor : Int) : DuoReturn :=
  if validDescriptor descriptor = false then
    .refuse .invalid session
  else if descriptorIsMaster session descriptor then
    if session.masterInitialised then
      .refuse .busy session
    else if session.slaveSelected then
      .refuse .stopPending session
    else
      ⟨.ok, openrspdDuoSessionInit, clearEvent⟩
  else if descriptorIsSlave session descriptor = false then
    .refuse .invalid session
  else if session.slaveInitialised then
    .refuse .busy session
  else
    ⟨.ok, session.withoutSlave,
      emitEvent .slaveDetached session.masterFd descriptor session.slaveTuner⟩

/-- `openrspd_duo_disconnect`. -/
def openrspdDuoDisconnect (session : DuoSession) (descriptor : Int) : DuoReturn :=
  if validDescriptor descriptor = false then
    .refuse .invalid session
  else if descriptorIsSlave session descriptor then
    ⟨.ok, session.withoutSlave,
      emitEvent .slaveDllDisappeared session.masterFd descriptor session.slaveTuner⟩
  else if descriptorIsMaster session descriptor then
    ⟨.ok, openrspdDuoSessionInit,
      if session.slaveSelected then
        emitEvent .masterDllDisappeared session.slaveFd descriptor session.slaveTuner
      else
        clearEvent⟩
  else
    .refuse .ok session

/-- `openrspd_duo_route`: the return value and the descriptor written back. -/
def openrspdDuoRoute (session : DuoSession) (tuner : UInt32) : Int × Int :=
  if validTuner tuner = false then
    (-1, -1)
  else if session.masterSelected && session.masterInitialised &&
      session.masterTuner == tuner then
    (if 0 ≤ session.masterFd then 1 else 0, session.masterFd)
  else if session.slaveSelected && session.slaveInitialised &&
      session.slaveTuner == tuner then
    (if 0 ≤ session.slaveFd then 1 else 0, session.slaveFd)
  else
    (0, -1)

/-- `openrspd_duo_role_for_descriptor`. -/
def openrspdDuoRoleForDescriptor (session : DuoSession) (descriptor : Int) : DuoRole :=
  if descriptorIsMaster session descriptor then .master
  else if descriptorIsSlave session descriptor then .slave
  else .none

end OpenRsp
