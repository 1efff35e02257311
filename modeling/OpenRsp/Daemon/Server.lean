import OpenRsp.Daemon.OwnerRequests
import OpenRsp.Daemon.Recovery
import OpenRsp.Library.Runs

/-!
# The server

`serve_request`, `remove_client`, `accept_clients` and the body of
`run_server` in `daemon/openrspd.c`.  The main loop is cut into the steps it
is made of, in any order, interleaved with the stream thread.
-/

namespace OpenRsp

section Serve

variable (environment : Environment)

/-- The command branches of `serve_request`. -/
def dispatch (world : World) (descriptor : Int) : Command → Handled
  | .ping => .reply world .ok
  | .list => serveList environment world
  | .lockApi => serveLockApi world descriptor
  | .unlockApi => serveUnlockApi world descriptor
  | .duoAcquire acquire =>
      serveDuoAcquire environment world descriptor acquire
  | .duoConfigure config =>
      serveDuoConfigure environment world descriptor config
  | .duoStart => serveDuoStart environment world descriptor
  | .duoStop => serveDuoStop environment world descriptor
  | .duoRelease => serveDuoRelease environment world descriptor
  | .duoSwapRate rate => serveDuoSwapRate environment world descriptor rate
  | .duoUpdate update => serveDuoUpdate environment world descriptor update
  | .acquire acquire => serveAcquire environment world descriptor acquire
  | .start => serveStart world descriptor
  | .stop => serveStop environment world descriptor
  | .release => serveRelease environment world descriptor
  | .configure config => serveConfigure environment world descriptor config
  | .configureDual config =>
      serveConfigureDual environment world descriptor config
  | .swapTuner swap => serveSwapTuner environment world descriptor swap
  | .swapMode swap => serveSwapMode environment world descriptor swap
  | .resumeMode => serveResumeMode world descriptor
  | .update update => serveUpdate environment world descriptor update
  | .unknown => serveUnrecognised world descriptor

/-! ## After the response -/

/-- Write the records of a list in order, up to the first failure. -/
def writeDevices (descriptor : Int) (sequence : UInt32) :
    List DeviceRecord → World → Int × World
  | [], world => (0, world)
  | record :: rest, world =>
      let write :=
        writeFrame environment world descriptor (.device sequence record)
      if write.1 ≠ 0 then write
      else writeDevices descriptor sequence rest write.2

/-- Flags of a stream about to start for the master and slave. -/
def armDuoStream (daemon : DaemonState) : DaemonState :=
  { daemon with
    loggedUsbIq := false
    firstIqSeen := false
    streaming := true
    streamError := false
    streamSequenceA := 0
    streamSequenceB := 0 }

/-- Flags of a stream about to resume or restart. -/
def armRestartedStream (pending : Bool) (daemon : DaemonState) :
    DaemonState :=
  { daemon with
    loggedUsbIq := false
    firstIqSeen := false
    streaming := true
    streamError := false
    recoveryConfigPending := pending }

/-- Go on with `next` unless `first` fails, which ends `serve_request` with
`-1`. -/
def continueWith (first next : World → Int × World) (world : World) : Int × World :=
  if (first world).1 ≠ 0 then (-1, (first world).2)
  else next (first world).2

/-- The start of a master/slave stream. -/
def startDuo (handled : Handled) (world : World) : Int × World :=
  if handled.duoStartStreamAfterResponse ∧ handled.status = .ok then
    createStreamThread environment (world.modify armDuoStream)
  else (0, world)

/-- The thread of an accepted `OPENRSP_CMD_START`. -/
def startPlain (command : Command) (handled : Handled) (world : World) : Int × World :=
  if command = .start ∧ handled.status = .ok then
    let created :=
      createStreamThread environment
        (world.modify fun daemon => { daemon with loggedUsbIq := false })
    if created.1 ≠ 0 then
      (created.1, created.2.modify fun daemon => { daemon with streaming := false })
    else created
  else (0, world)

/-- The start after a resume, a rate change or a rolled back mode swap. -/
def startAgain (command : Command) (handled : Handled) (world : World) : Int × World :=
  if handled.startStreamAfterResponse ∧
      (handled.status = .ok ∨ handled.startStreamAfterError) then
    createStreamThread environment
      (world.modify (armRestartedStream (match command with | .swapTuner _ => true | _ => false)))
  else (0, world)

/-- The three stream starts at the end of `serve_request`. -/
def startStreams (command : Command) (handled : Handled) :
    World → Int × World :=
  continueWith (startDuo environment handled)
    (continueWith (startPlain environment command handled)
      (continueWith (startAgain environment command handled) fun world => (1, world)))

/-- The records that follow the response to a list. -/
def writeList (descriptor : Int) (sequence : UInt32) (command : Command)
    (handled : Handled) (world : World) : Int × World :=
  if command = .list ∧ handled.status = .ok then
    writeDevices environment descriptor sequence handled.listed world
  else (0, world)

/-- The event that follows an accepted master/slave command. -/
def writeEvent (handled : Handled) (world : World) : Int × World :=
  if handled.status = .ok then
    sendDuoEvent environment world handled.duoEvent
  else (0, world)

/-- `serve_request` from the response on. -/
def respond (descriptor : Int) (sequence : UInt32) (command : Command)
    (handled : Handled) : Int × World :=
  continueWith
    (writeFrame environment · descriptor (.response sequence handled.status handled.changedFlags))
    (continueWith (writeList environment descriptor sequence command handled)
      (continueWith (writeEvent environment handled) (startStreams environment command handled)))
    handled.world

/-- What `serve_request` reads from a client socket. -/
inductive Incoming where
  | closed
  | unreadable
  | badHeader (sequence : UInt32)
  | request (sequence : UInt32) (command : Command)
deriving DecidableEq, Repr

/-- `serve_request`. -/
def serveRequest (world : World) (descriptor : Int) : Incoming → Int × World
  | .closed => (0, world)
  | .unreadable => (-1, world)
  | .badHeader sequence =>
      respond environment descriptor sequence .unknown (.reply world .badRequest)
  | .request sequence command =>
      respond environment descriptor sequence command
        (dispatch environment world descriptor command)

end Serve

/-! ## Clients -/

/-- `OPENRSPD_MAX_CLIENTS`. -/
def openrspdMaxClients : Nat := 32

/-- `OPENRSP_INVALID_SOCKET`. -/
def invalidSocket : Int := -1

/-- The daemon with its client slots. -/
structure Server where
  world : World
  clients : List Int

/-- The server as `run_server` enters its loop. -/
def Server.initial : Server := ⟨World.initial, List.replicate openrspdMaxClients invalidSocket⟩

/-- The first free slot takes the descriptor; nothing when all are taken. -/
def storeClient (descriptor : Int) : List Int → List Int
  | [] => []
  | client :: rest =>
      if 0 ≤ client then client :: storeClient descriptor rest
      else descriptor :: rest

section Steps

variable (environment : Environment)

/-- `remove_client`. -/
def removeClient (server : Server) (slot : Nat) : Server :=
  let descriptor := server.clients.getD slot invalidSocket
  if descriptor < 0 then server
  else
    { world :=
        releaseApiLock (releaseClient environment server.world descriptor) descriptor
      clients := server.clients.set slot invalidSocket }

/-- One turn of the loop of `accept_clients`.  The system hands out a
descriptor that is not open, so one that is stored in a slot is not
accepted. -/
def acceptClient (server : Server) (descriptor : Int) : Server :=
  if descriptor < 0 ∨ descriptor ∈ server.clients then server
  else { server with clients := storeClient descriptor server.clients }

/-- Serve the client in a slot and remove it unless that went well. -/
def serveClient (server : Server) (slot : Nat) (incoming : Incoming) : Server :=
  let descriptor := server.clients.getD slot invalidSocket
  if descriptor < 0 then server
  else
    let served :=
      serveRequest environment server.world descriptor incoming
    let after := { server with world := served.2 }
    if served.1 ≠ 1 then removeClient environment after slot else after

/-- The slot of the client to evict after a failed write. -/
def evictionSlot (server : Server) (failed : Int) : Option Nat :=
  server.clients.findIdx? fun client =>
    client == failed || (decide (failed < 0) && client == server.world.daemon.owner)

/-- The eviction at the head of the loop of `run_server`. -/
def evictClient (server : Server) : Server :=
  if server.world.daemon.clientWriteError = false then server
  else
    let failed := server.world.daemon.clientWriteErrorFd
    let cleared :=
      { server with
        world := server.world.modify fun daemon =>
          { daemon with
            clientWriteError := false
            clientWriteErrorFd := invalidSocket } }
    match evictionSlot cleared failed with
    | none => cleared
    | some slot => removeClient environment cleared slot

/-- The steps of the main loop and of the stream thread. -/
inductive Step where
  | accept (descriptor : Int)
  | hangup (slot : Nat)
  | serve (slot : Nat) (incoming : Incoming)
  | evict
  | recover
  | finishRecovery
  | streamEnds
  | streamBlock (tuner length : UInt32)
deriving DecidableEq, Repr

/-- Take one step. -/
def Server.step (server : Server) : Step → Server
  | .accept descriptor => acceptClient server descriptor
  | .hangup slot => removeClient environment server slot
  | .serve slot incoming => serveClient environment server slot incoming
  | .evict => evictClient environment server
  | .recover =>
      { server with world := recoverFailedStream environment server.world }
  | .finishRecovery =>
      { server with world := finishRecoveryConfig environment server.world }
  | .streamEnds =>
      { server with world := streamThreadEnds environment server.world }
  | .streamBlock tuner length =>
      if server.world.daemon.streamThread = .idle then server
      else
        { server with
          world := sendStream environment server.world tuner length }

end Steps

/-! ## A bus with one receiver -/

/-- One RSPduo that never fails. -/
def oneReceiver : Environment := .faultless [⟨true, 0x1df7, 0x3020, [82, 83, 80], [49], .ready⟩]

/-- Its identity. -/
def receiverIdentity : AcquireRequest := ⟨0, 0x1df7, 0x3020, [49, 0]⟩

/-- A 2 MHz stream of tuner A at 100 MHz. -/
def sampleConfig : RadioConfig where
  sampleRateHz := 2000000
  centerFrequencyHz := 100000000
  bandwidthHz := 1536000
  ifFrequencyHz := 0
  gainReductionDb := 40
  lnaState := 4
  agcMode := 0
  agcSetpointDbfs := -30
  tuner := tunerA
  biasTeeEnabled := 0
  rfNotchEnabled := 0
  dabNotchEnabled := 0
  externalReferenceEnabled := 0
  amPortSelect := 0
  amNotchEnabled := 0

/-- Client 5 acquires and configures the receiver. -/
def acquireAndConfigure : List Step :=
  [.accept 5, .serve 0 (.request 1 (.acquire receiverIdentity)),
    .serve 0 (.request 2 (.configure sampleConfig))]

/-- The server after client 5 has connected and acquired the receiver. -/
def Server.acquired (environment : Environment) : Server :=
  Runs.runSteps (Server.step environment) Server.initial
    [.accept 5, .serve 0 (.request 1 (.acquire receiverIdentity))]

example : (Server.acquired oneReceiver).world.daemon.owner = 5 ∧
      (Server.acquired oneReceiver).world.sent = [⟨5, .response 1 .ok 0, true⟩] := by
  decide

end OpenRsp
