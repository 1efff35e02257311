import OpenRsp.DuoSession
import OpenRsp.Identity
import OpenRsp.RemovalTracker

/-!
# The daemon state and its surroundings

`daemon_state` of `daemon/openrspd.c`, and the world it acts in.  An
environment fixes the result of every driver call, socket write and thread
creation, the USB inventory each enumeration sees and the clock readings; the
world counts how much of it has been used.  A statement about all
environments is a statement about every outcome.

The driver reports success as `0` and failure as a negative code; an entry
`n` of the environment stands for the result `-n`.  A register of an open
handle holds the value of the last successful write, or nothing when that
write failed half way.

The build modelled is the POSIX one.  The stream thread takes its steps
between the operations of the main loop, except where the main loop waits
for it.
-/

namespace OpenRsp

/-! ## Radio handles -/

/-- The tuning registers of one tuner, as last written. -/
@[ext]
structure ChannelRegisters where
  sampleRate : Option UInt32
  centerFrequency : Option UInt32
  bandwidth : Option UInt32
  ifFrequency : Option UInt32
  gainReduction : Option Int32
  lnaState : Option UInt32
deriving DecidableEq, Repr

def ChannelRegisters.unwritten : ChannelRegisters := ⟨none, none, none, none, none, none⟩

/-- The front-end controls of an open handle, as last stored.  The last three
are shared by the tuners. -/
structure ControlRegisters where
  biasTeeA : Option UInt32
  biasTeeB : Option UInt32
  rfNotchA : Option UInt32
  rfNotchB : Option UInt32
  dabNotchA : Option UInt32
  dabNotchB : Option UInt32
  externalReference : Option UInt32
  amPort : Option UInt32
  amNotch : Option UInt32
deriving DecidableEq, Repr

/-- A freshly opened handle has every control off and AM port 2. -/
def ControlRegisters.opened : ControlRegisters :=
  ⟨some 0, some 0, some 0, some 0, some 0, some 0, some 0, some 2, some 0⟩

/-- An open `mirisdr_dev_t`.  `handle` tells handles apart; `frequency` is
`p->freq`, which the tuners share. -/
structure Radio where
  handle : Nat
  index : UInt32
  tuner : UInt32
  frequency : Option UInt32
  channelA : ChannelRegisters
  channelB : ChannelRegisters
  controls : ControlRegisters
deriving DecidableEq, Repr

/-- The registers of a tuner. -/
def Radio.channel (radio : Radio) (tuner : UInt32) : ChannelRegisters :=
  if tuner = tunerB then radio.channelB else radio.channelA

/-- Write the registers of a tuner. -/
def Radio.writeChannel (radio : Radio) (tuner : UInt32)
    (write : ChannelRegisters → ChannelRegisters) : Radio :=
  if tuner = tunerB then { radio with channelB := write radio.channelB }
  else { radio with channelA := write radio.channelA }

/-! ## The daemon state -/

/-- Whether a stream thread reads from the handle.  An abandoned reader is
one that `stream_thread` no longer names. -/
inductive StreamThread where
  | idle
  | reading
  | abandoned
deriving DecidableEq, Repr

/-- Ownership, sessions and requested configurations: what clients hold and
have asked for.  No driver call writes these fields. -/
structure Ledger where
  owner : Int
  apiLockOwner : Int
  duo : DuoSession
  duoActive : Bool
  duoConfigA : Bool
  duoConfigB : Bool
  duoConfig : DualConfig
  config : RadioConfig
  bootstrapConfigured : Bool
  bootstrapConfig : RadioConfig
  recoveryConfigPending : Bool
  modeSwapPaused : Bool
deriving DecidableEq, Repr

/-- The open handle and what it was configured for. -/
structure Receiver where
  radio : Option Radio
  configured : Bool
  dualMode : Bool
  dualConfig : DualConfig
deriving DecidableEq, Repr

/-- The stream thread as the main loop sees it, and whether it reads. -/
structure StreamState where
  streaming : Bool
  streamThreadStarted : Bool
  streamError : Bool
  streamResult : Int
  streamThread : StreamThread
deriving DecidableEq, Repr

/-- The acquired identity and the cached enumeration. -/
structure Inventory where
  acquiredIdentity : AcquireRequest
  deviceSnapshotValid : Bool
  deviceSnapshotTime : Nat
  deviceSnapshot : List DeviceRecord
deriving DecidableEq, Repr

/-- Failed writes, stream counters and the bookkeeping of recovery. -/
structure Reports where
  clientWriteError : Bool
  clientWriteErrorFd : Int
  loggedUsbIq : Bool
  firstIqSeen : Bool
  streamSequenceA : UInt32
  streamSequenceB : UInt32
  recoveryIdentityStatus : Int
  removalTracker : RemovalTracker
deriving DecidableEq, Repr

/-- `daemon_state`, less the locks and the fields only logging reads. -/
structure DaemonState extends
    Ledger, Receiver, StreamState, Inventory, Reports
deriving DecidableEq, Repr

/-- The state `run_server` starts from. -/
def DaemonState.initial : DaemonState where
  owner := -1
  apiLockOwner := -1
  duo := openrspdDuoSessionInit
  duoActive := false
  duoConfigA := false
  duoConfigB := false
  duoConfig := DualConfig.zeroed
  config := RadioConfig.zeroed
  bootstrapConfigured := false
  bootstrapConfig := RadioConfig.zeroed
  recoveryConfigPending := false
  modeSwapPaused := false
  radio := none
  configured := false
  dualMode := false
  dualConfig := DualConfig.zeroed
  streaming := false
  streamThreadStarted := false
  streamError := false
  streamResult := 0
  streamThread := .idle
  acquiredIdentity := ⟨0, 0, 0, []⟩
  deviceSnapshotValid := false
  deviceSnapshotTime := 0
  deviceSnapshot := []
  clientWriteError := false
  clientWriteErrorFd := -1
  loggedUsbIq := false
  firstIqSeen := false
  streamSequenceA := 0
  streamSequenceB := 0
  recoveryIdentityStatus := 0
  removalTracker := openrspdRemovalTrackerPresent

/-! ## The world -/

/-- Calls whose result the daemon does not control. -/
inductive Call where
  | openTuner
  | close
  | configureRspduo
  | configureRspduoDual
  | updateRspduoDual
  | setSampleRate
  | setCenterFreq
  | setBandwidth
  | setIfFreq
  | setRspduoGain
  | setRspduoControls
  | streamingStop
  | readAsync
  | coldOpen
  | threadCreate
  | socketWrite
deriving DecidableEq, Repr

/-- `-EBUSY`. -/
def minusEbusy : Int := -16

/-- Whether a device is the raw firmware loader. -/
inductive IdentityState where
  | ready
  | cold
  | unreadable
deriving DecidableEq, Repr

/-- One entry of a USB enumeration. -/
structure UsbDevice where
  infoReadable : Bool
  vendorId : UInt16
  productId : UInt16
  product : List UInt8
  serial : List UInt8
  identityState : IdentityState
deriving DecidableEq, Repr

/-- A frame the daemon writes to a client socket. -/
inductive Frame where
  | response (sequence : UInt32) (status : Status) (changedFlags : UInt32)
  | device (sequence : UInt32) (record : DeviceRecord)
  | iq (tuner sequence length : UInt32)
  | status (reason tuner : UInt32)
  | duo (kind : DuoEventKind) (tuner : UInt32)
deriving DecidableEq, Repr

/-- A frame the daemon tried to write, and whether the write succeeded. -/
structure Sent where
  descriptor : Int
  frame : Frame
  delivered : Bool
deriving DecidableEq, Repr

/-- Every outcome the daemon will meet: the results of each kind of call in
order, the inventory seen by each enumeration, each monotonic clock reading
in nanoseconds. -/
structure Environment where
  results : Call → Nat → Nat
  inventories : Nat → List UsbDevice
  clock : Nat → Option Nat

/-- The environment in which every call succeeds and the bus never
changes. -/
def Environment.faultless (devices : List UsbDevice) : Environment :=
  ⟨fun _ _ => 0, fun _ => devices, some⟩

/-- A call of `mirisdr_open_tuner`: the index passed, the acquired identity
it was resolved for, and the inventory at that time. -/
structure Opening where
  index : UInt32
  identity : AcquireRequest
  inventory : List UsbDevice
deriving DecidableEq, Repr

/-- The daemon, what it has used of its environment, and the frames it has
sent and the receivers it has opened, oldest first. -/
structure World where
  daemon : DaemonState
  running : Bool
  used : Call → Nat
  enumerations : Nat
  clockReadings : Nat
  sent : List Sent
  openings : List Opening

/-- The world in which `run_server` enters its loop. -/
def World.initial : World := ⟨DaemonState.initial, true, fun _ => 0, 0, 0, [], []⟩

/-- Change the daemon state. -/
def World.modify (world : World) (change : DaemonState → DaemonState) : World :=
  { world with daemon := change world.daemon }

/-- Count one more use of a call. -/
def World.advance (world : World) (call : Call) : World :=
  { world with
    used := fun other =>
      if other = call then world.used other + 1 else world.used other }

/-- Record one more call of `mirisdr_open_tuner`. -/
def World.logOpening (world : World) (opening : Opening) : World :=
  { world with openings := world.openings ++ [opening] }

@[simp]
theorem World.logOpening_daemon (world : World) (opening : Opening) :
    (world.logOpening opening).daemon = world.daemon :=
  rfl

@[simp]
theorem World.logOpening_used (world : World) (opening : Opening) :
    (world.logOpening opening).used = world.used :=
  rfl

@[simp]
theorem World.modify_daemon (world : World) (change : DaemonState → DaemonState) :
    (world.modify change).daemon = change world.daemon :=
  rfl

@[simp]
theorem World.modify_running (world : World) (change : DaemonState → DaemonState) :
    (world.modify change).running = world.running :=
  rfl

@[simp]
theorem World.modify_sent (world : World) (change : DaemonState → DaemonState) :
    (world.modify change).sent = world.sent :=
  rfl

@[simp]
theorem World.modify_used (world : World) (change : DaemonState → DaemonState) :
    (world.modify change).used = world.used :=
  rfl

@[simp]
theorem World.advance_daemon (world : World) (call : Call) :
    (world.advance call).daemon = world.daemon :=
  rfl

@[simp]
theorem World.advance_running (world : World) (call : Call) :
    (world.advance call).running = world.running :=
  rfl

@[simp]
theorem World.advance_sent (world : World) (call : Call) :
    (world.advance call).sent = world.sent :=
  rfl

@[simp]
theorem World.advance_used_of_ne (world : World) {call other : Call} (different : other ≠ call) :
    (world.advance call).used other = world.used other := by
  simp [World.advance, different]

/-! ## Reading the environment -/

section Reading

variable (environment : Environment) (world : World)

/-- The result the next such call will return. -/
def World.result (call : Call) : Int := -(environment.results call (world.used call) : Int)

/-- The inventory the next enumeration will see. -/
def World.inventory : List UsbDevice := environment.inventories world.enumerations

/-- `clock_gettime(CLOCK_MONOTONIC, …)`, nothing when it fails. -/
def World.now : Option Nat := environment.clock world.clockReadings

@[simp]
theorem World.result_modify (change : DaemonState → DaemonState) (call : Call) :
    (world.modify change).result environment call =
      world.result environment call :=
  rfl

@[simp]
theorem World.result_logOpening (opening : Opening) (call : Call) :
    (world.logOpening opening).result environment call =
      world.result environment call :=
  rfl

@[simp]
theorem World.result_advance_of_ne
    {call other : Call} (different : other ≠ call) :
    (world.advance call).result environment other =
      world.result environment other := by
  simp [World.result, different]

/-- No call returns a positive code. -/
theorem World.result_nonpos (call : Call) :
    world.result environment call ≤ 0 := by
  simp [World.result]

end Reading

end OpenRsp
