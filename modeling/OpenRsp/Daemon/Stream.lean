import OpenRsp.Daemon.Snapshot

/-!
# The stream thread and the radio handle

`stream_main`, `send_stream`, `stop_stream`, `close_radio`, `release_client`
and `release_api_lock` of `daemon/openrspd.c`.
-/

namespace OpenRsp

section Stream

variable (environment : Environment)

/-! ## The stream thread -/

/-- `stream_main` after its read loop has returned `result`. -/
def streamMainReturns (daemon : DaemonState) (result : Int) : DaemonState :=
  { daemon with
    streaming := false
    streamResult := result
    streamError := decide (result ≠ 0) }

/-- The reader, if there is one, runs to its end. -/
def streamThreadEnds (world : World) : World :=
  if world.daemon.streamThread = .idle then world
  else
    (world.advance .readAsync).modify fun daemon =>
      { streamMainReturns daemon (world.result environment .readAsync) with
        streamThread := .idle }

/-- `pthread_join(state->stream_thread, NULL)`: only a reader that
`stream_thread` names is waited for. -/
def joinStreamThread (world : World) : World :=
  if world.daemon.streamThread = .reading then
    streamThreadEnds environment world
  else world

/-- `pthread_create(&state->stream_thread, …, stream_main, state)` and, on
success, `stream_thread_started = true`.  Without a handle, or on one that is
already being read, the new thread's `mirisdr_read_async` returns `-1` at
once. -/
def createStreamThread (world : World) : Int × World :=
  let result := world.result environment .threadCreate
  let after := world.advance .threadCreate
  (result,
    if result ≠ 0 then after
    else
      after.modify fun daemon =>
        if daemon.radio.isSome ∧ daemon.streamThread = .idle then
          { daemon with
            streamThread := .reading
            streamThreadStarted := true }
        else
          { streamMainReturns daemon (-1) with
            streamThread :=
              if daemon.streamThread = .idle then .idle else .abandoned
            streamThreadStarted := true })

/-- `OPENRSPD_STREAM_SLOT_BYTES`. -/
def openrspdStreamSlotBytes : Nat := 65536 * 4

/-- The client `send_stream` addresses. -/
def streamTarget (daemon : DaemonState) (tuner : UInt32) : Int :=
  if daemon.duoActive then (openrspdDuoRoute daemon.duo tuner).2
  else daemon.owner

/-- The first block of a stream sets `first_iq_seen`. -/
def noteFirstIq (daemon : DaemonState) : DaemonState :=
  if daemon.loggedUsbIq then daemon
  else { daemon with loggedUsbIq := true, firstIqSeen := true }

/-- The next sequence number of a tuner's stream. -/
def countBlock (daemon : DaemonState) (tuner : UInt32) : DaemonState :=
  if tuner = tunerB then
    { daemon with streamSequenceB := daemon.streamSequenceB + 1 }
  else
    { daemon with streamSequenceA := daemon.streamSequenceA + 1 }

/-- `send_stream`.  The cancellation it asks for, after a block that is too
large or a failed write to anyone but a slave, ends the stream thread in a
later step; the thread may end at any time, asked or not. -/
def sendStream (world : World) (tuner length : UInt32) : World :=
  let noted := world.modify noteFirstIq
  if openrspdStreamSlotBytes < length.toNat then noted
  else
    let counted := noted.modify (countBlock · tuner)
    let target := streamTarget counted.daemon tuner
    let sequence :=
      if tuner = tunerB then counted.daemon.streamSequenceB
      else counted.daemon.streamSequenceA
    if target < 0 then counted
    else
      let write := writeFrame environment counted target
        (.iq tuner sequence length)
      if write.1 ≠ 0 then
        write.2.modify fun daemon =>
          { daemon with
            clientWriteError := true
            clientWriteErrorFd :=
              if daemon.clientWriteError then daemon.clientWriteErrorFd
              else target }
      else write.2

/-! ## Stopping and closing -/

/-- `stop_stream`. -/
def stopStream (world : World) : Int × World :=
  if world.daemon.streamThreadStarted = false then (0, world)
  else
    let stopped :=
      if world.daemon.radio.isSome then
        mirisdrStreamingStop environment world
      else (0, world)
    let joined := joinStreamThread environment stopped.2
    (if stopped.1 < 0 ∨ joined.daemon.streamResult ≠ 0 then -1 else 0,
      joined.modify fun daemon =>
        { daemon with streamThreadStarted := false, streaming := false })

/-- `if (state->radio) stop_stream(state)`. -/
def stopIfOpen (world : World) : Int × World :=
  if world.daemon.radio.isSome then stopStream environment world
  else (0, world)

/-- `close_radio`.  A close that succeeds or fails otherwise than with
`-EBUSY` has waited for the stream thread; `-EBUSY` leaves it behind and
ends the main loop. -/
def closeRadio (world : World) : Int × World :=
  if world.daemon.radio = none then (0, world)
  else
    let result := world.result environment .close
    let closed :=
      (world.advance .close).modify fun daemon =>
        { daemon with radio := none }
    (result,
      if result = minusEbusy then { closed with running := false }
      else streamThreadEnds environment closed)

/-! ## Releasing a client -/

/-- The clean-up of `release_client` once no master/slave role is left. -/
def tearDownDuo (world : World) : World :=
  let stopped := stopIfOpen environment world
  (closeRadio environment stopped.2).2.modify fun daemon =>
    { daemon with
      configured := false
      dualMode := false
      duoActive := false
      duoConfigA := false
      duoConfigB := false
      deviceSnapshotValid := false }

/-- The master/slave half of `release_client`. -/
def releaseDuoClient (world : World) (descriptor : Int) : World :=
  let disconnect := openrspdDuoDisconnect world.daemon.duo descriptor
  let notified :=
    (sendDuoEvent environment
      (world.modify fun daemon => { daemon with duo := disconnect.session })
      disconnect.event).2
  if notified.daemon.duo.masterSelected = false ∧
      notified.daemon.duo.slaveSelected = false then
    tearDownDuo environment notified
  else notified

/-- Close the handle and forget its configuration. -/
def closeUnconfigured (world : World) : World :=
  (closeRadio environment world).2.modify fun daemon =>
    { daemon with configured := false }

/-- A dual handle does not outlive its owner. -/
def closeDual (world : World) : World :=
  if world.daemon.dualMode ∧ world.daemon.radio.isSome then
    closeUnconfigured environment world
  else world

/-- Neither does a handle whose stream has failed. -/
def closeFailed (world : World) : World :=
  if world.daemon.streamError ∧ world.daemon.radio.isSome then
    closeUnconfigured environment world
  else world

/-- What `release_client` leaves of the owner's session. -/
def forgetOwner (daemon : DaemonState) : DaemonState :=
  { daemon with
    owner := -1
    streaming := false
    streamError := false
    streamResult := 0
    dualMode := false
    modeSwapPaused := false
    removalTracker := openrspdRemovalTrackerPresent }

/-- The single-owner half of `release_client`. -/
def releaseOwner (world : World) : World :=
  (closeFailed environment
    (closeDual environment (stopIfOpen environment world).2)).modify forgetOwner

/-- `release_client`. -/
def releaseClient (world : World) (descriptor : Int) : World :=
  if world.daemon.duoActive ∧
      openrspdDuoRoleForDescriptor world.daemon.duo descriptor ≠ .none then
    releaseDuoClient environment world descriptor
  else if world.daemon.owner ≠ descriptor then world
  else releaseOwner environment world

end Stream

/-- `release_api_lock`. -/
def releaseApiLock (world : World) (descriptor : Int) : World :=
  if world.daemon.apiLockOwner ≠ descriptor then world
  else world.modify fun daemon => { daemon with apiLockOwner := -1 }

end OpenRsp
