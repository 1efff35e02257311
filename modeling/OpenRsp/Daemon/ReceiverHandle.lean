import OpenRsp.Daemon.HandleRuns

/-!
# What the daemon's handle is good for

Two guarantees about the open handle in every state a run reaches.  The
handle of a single-tuner receiver should be open for the tuner of the stored
configuration, and a receiver that is marked configured should have a handle
open in the right mode with a valid configuration to recover with.

`configure_radio` keeps a handle that is open for the other tuner, and
`OPENRSP_CMD_UPDATE` stores a configuration it cannot write without looking at
its tuner.  `configure_radio`, the two swaps and `recover_failed_stream` close
a handle they could not use and leave `configured` as it was.  Each guarantee
holds along the runs that avoid this.
-/

namespace OpenRsp

open Runs

/-! ## The streamed tuner -/

/-- An open single-tuner handle was opened for the tuner of the stored
configuration. -/
def Server.OnRequestedTuner (server : Server) : Prop :=
  ∀ radio, server.world.daemon.radio = some radio →
    server.world.daemon.dualMode = false → radio.tuner = server.world.daemon.config.tuner

section StreamedTuner

variable (environment : Environment)

/-- A request that does not part the stored tuner from the open one: a
configuration made while a single-tuner handle is open is for the tuner of
that handle, and an update that is only stored is for the stored tuner as
long as a single-tuner handle is open or recovery would reopen one. -/
def Command.KeepsTuner (world : World) (descriptor : Int) : Command → Prop
  | .configure config =>
      world.daemon.owner = descriptor → openrspdConfigValid config = true →
        ∀ radio ∈ world.daemon.radio, world.daemon.dualMode = false → radio.tuner = config.tuner
  | .update request =>
      world.daemon.owner = descriptor → openrspdConfigValid request.config = true →
          world.MayQueue environment request → world.daemon.radio.isSome = true ∧
                world.daemon.dualMode = false ∨
              world.daemon.bootstrapConfigured = true →
                request.config.tuner = world.daemon.config.tuner
  | _ => True

/-- A step that does not part the stored tuner from the open one. -/
def Step.KeepsTuner (server : Server) : Step → Prop
  | .serve slot (.request _ command) =>
      command.KeepsTuner environment server.world (server.clients.getD slot invalidSocket)
  | _ => True

theorem Command.KeepsTuner.complies
    {world : World} {descriptor : Int} {command : Command}
    (keeps : command.KeepsTuner environment world descriptor) :
    command.Complies HandleView.tunerPolicy environment world descriptor := by
  cases command with
  | configure config =>
      exact fun owned valid => ⟨keeps owned valid, .inl trivial⟩
  | update request =>
      intro owned valid mayQueue atStake
      refine keeps owned valid mayQueue (atStake.imp (And.imp_left ?_) id)
      exact fun isOpen => (handle_tuner_isSome world).symm.trans isOpen
  | configureDual config => exact fun _ _ => .inl trivial
  | swapTuner swap => exact fun _ _ _ _ => .inl trivial
  | swapMode swap => exact fun _ _ _ => .inl trivial
  | duoStart => exact fun _ _ => .inl trivial
  | _ => trivial

theorem Step.KeepsTuner.complies {server : Server} {step : Step}
    (keeps : step.KeepsTuner environment server) :
    step.Complies HandleView.tunerPolicy environment server := by
  cases step with
  | serve slot incoming =>
      cases incoming with
      | request sequence command =>
          exact Command.KeepsTuner.complies environment keeps
      | _ => trivial
  | recover => exact fun _ _ => .inl trivial
  | _ => trivial

/-- Along every run whose requests keep to the tuner of the handle, the open
handle is on the tuner of the stored configuration. -/
theorem streamed_tuner_requested_of_keepsTuner (steps : List Step)
    (keeps : StepsMeet (Server.step environment)
        (fun server step => step.KeepsTuner environment server)
        Server.initial steps) :
    (runSteps (Server.step environment) Server.initial steps).OnRequestedTuner := by
  have onTuner := handle_invariant environment
      (fun _ _ => HandleView.OnTuner.move)
      ⟨nofun, nofun⟩
      (keeps.mono fun _ _ => Step.KeepsTuner.complies environment)
  intro radio isOpen single
  exact onTuner.single radio.tuner (congrArg (Option.map Radio.tuner) isOpen) single

end StreamedTuner

/-- A configuration for a tuner under a sequence number. -/
def configureTuner (sequence tuner : UInt32) : Step :=
  .serve 0 (.request sequence (.configure { sampleConfig with tuner := tuner }))

/-- Client 5 configures tuner A twice. -/
theorem streamed_tuner_requested_twice : (runSteps (Server.step oneReceiver) Server.initial
      (acquireAndConfigure ++ [configureTuner 3 tunerA])).OnRequestedTuner :=
  streamed_tuner_requested_of_keepsTuner oneReceiver _
    ⟨trivial, trivial, fun _ _ => by decide +kernel, fun _ _ => by decide +kernel, trivial⟩

/-- A second configuration, for tuner B, is accepted and stored, and the
handle stays on tuner A. -/
theorem second_configuration_stays_on_first_tuner :
    let server :=
      runSteps (Server.step oneReceiver) Server.initial
        (acquireAndConfigure ++ [configureTuner 3 tunerB])
    server.world.sent.getLast? = some ⟨5, .response 3 .ok 0, true⟩ ∧
      server.world.daemon.configured = true ∧
      server.world.daemon.dualMode = false ∧
      server.world.daemon.config.tuner = tunerB ∧
      server.world.daemon.radio.map Radio.tuner = some tunerA := by
  decide +kernel

/-! ## A configured receiver -/

/-- What it means for a configured receiver to be usable. -/
structure DaemonState.Usable (daemon : DaemonState) (radio : Radio) :
    Prop where
  isOpen : daemon.radio = some radio
  inMode : radio.tuner = tunerBoth ↔ daemon.dualMode = true
  valid :
    if daemon.dualMode then validDualConfig daemon.dualConfig = true
    else openrspdConfigValid daemon.config = true

/-- A configured receiver is usable. -/
def Server.ConfiguredUsable (server : Server) : Prop :=
  server.world.daemon.configured = true → ∃ radio, server.world.daemon.Usable radio

section Usable

variable (environment : Environment)

/-- A request under which the hardware does not make the daemon lose the
handle of a configured receiver. -/
def Command.KeepsHandle (world : World) (descriptor : Int) : Command → Prop
  | .configure config =>
      world.daemon.owner = descriptor → openrspdConfigValid config = true →
        world.HoldsSingle environment
  | .configureDual config =>
      world.daemon.owner = descriptor → validDualConfig config = true → world.HoldsDual environment
  | .swapTuner swap =>
      world.daemon.owner = descriptor → world.daemon.configured = true →
        world.daemon.dualMode = false →
          openrspdConfigValid swap.config = true → world.HoldsSwap environment false
  | .swapMode swap =>
      world.daemon.owner = descriptor → world.daemon.configured = true →
        validModeTarget swap = true → world.HoldsSwap environment (decide (swap.mode = modeDual))
  | .duoStart =>
      duoRoleDescriptor world.daemon descriptor = .master →
        (openrspdDuoInitialise world.daemon.duo descriptor).result = .ok →
          world.HoldsDual environment
  | _ => True

/-- A step under which the hardware does not make the daemon lose the handle
of a configured receiver. -/
def Step.KeepsHandle (server : Server) : Step → Prop
  | .serve slot (.request _ command) =>
      command.KeepsHandle environment server.world (server.clients.getD slot invalidSocket)
  | .recover =>
      server.world.daemon.streamError = true → server.world.daemon.streaming = false →
          server.world.result environment .close ≠ minusEbusy ∧
            (server.world.daemon.dualMode = false →
              server.world.result environment .threadCreate = 0)
  | _ => True

/-- Handles may be kept and updates stored, but no configured handle is
lost. -/
def holdingPolicy : HandlePolicy where
  reuses _ _ := True
  queues _ _ := True
  loses := False

theorem Command.KeepsHandle.complies
    {world : World} {descriptor : Int} {command : Command}
    (keeps : command.KeepsHandle environment world descriptor) :
    command.Complies holdingPolicy environment world descriptor := by
  cases command with
  | configure config =>
      exact fun owned valid =>
        ⟨fun _ _ _ => trivial, .inr (keeps owned valid)⟩
  | update request => exact fun _ _ _ => trivial
  | configureDual config => exact fun owned valid => .inr (keeps owned valid)
  | swapTuner swap =>
      exact fun owned configured single valid =>
        .inr (keeps owned configured single valid)
  | swapMode swap =>
      exact fun owned configured valid =>
        .inr (keeps owned configured valid)
  | duoStart => exact fun master accepted => .inr (keeps master accepted)
  | _ => trivial

theorem Step.KeepsHandle.complies {server : Server} {step : Step}
    (keeps : step.KeepsHandle environment server) :
    step.Complies holdingPolicy environment server := by
  cases step with
  | serve slot incoming =>
      cases incoming with
      | request sequence command =>
          exact Command.KeepsHandle.complies environment keeps
      | _ => trivial
  | recover => exact fun failed stopped => .inr (keeps failed stopped)
  | _ => trivial

/-- A handle that is held and in the right mode makes a configured receiver
usable. -/
theorem configuredUsable_of_handle {server : Server}
    (sound : server.world.handle.Sound) (held : server.world.handle.Held) :
    server.ConfiguredUsable := by
  intro configured
  have isSome := held configured
  obtain ⟨radio, isOpen⟩ := Option.isSome_iff_exists.mp ((handle_tuner_isSome _).symm.trans isSome)
  refine ⟨radio, isOpen, sound.mode radio.tuner ?_, ?_⟩
  · exact congrArg (Option.map Radio.tuner) isOpen
  · split_ifs with dual
    · exact sound.dual isSome dual
    · have single : server.world.daemon.dualMode = false := by
        simpa using dual
      exact sound.single isSome single

/-- Along every run in which the hardware does not make the daemon lose a
configured handle, a configured receiver is usable. -/
theorem configured_usable_of_keepsHandle (steps : List Step)
    (keeps : StepsMeet (Server.step environment)
        (fun server step => step.KeepsHandle environment server)
        Server.initial steps) :
    (runSteps (Server.step environment) Server.initial steps).ConfiguredUsable := by
  have complies := keeps.mono fun _ _ => Step.KeepsHandle.complies environment
  have sound := handle_invariant environment (fun _ _ => HandleView.Sound.move)
      ⟨nofun, nofun, nofun, nofun⟩ complies
  have held := handle_invariant environment (fun _ _ => HandleView.Held.move id) nofun complies
  exact configuredUsable_of_handle sound held

end Usable

/-- The first configuration succeeds and so does the second. -/
theorem configured_usable_twice : (runSteps (Server.step oneReceiver) Server.initial
      (acquireAndConfigure ++ [configureTuner 3 tunerA])).ConfiguredUsable :=
  configured_usable_of_keepsHandle oneReceiver _
    ⟨trivial, trivial,
      fun _ _ => ⟨fun _ _ => by decide +kernel, fun _ _ => rfl⟩,
      fun _ _ => ⟨fun _ _ => by decide +kernel, fun _ _ => rfl⟩, trivial⟩

/-- A receiver that takes one configuration and refuses every later one. -/
def refusingReceiver : Environment :=
  { oneReceiver with
    results := fun call count =>
      if call = .configureRspduo ∧ 0 < count then 1 else 0 }

/-- A second configuration fails three times, and the receiver stays marked
configured without a handle. -/
theorem configured_without_handle :
    let server :=
      runSteps (Server.step refusingReceiver) Server.initial
        (acquireAndConfigure ++ [configureTuner 3 tunerA])
    server.world.sent.getLast? = some ⟨5, .response 3 .ioError 0, true⟩ ∧
      server.world.running = true ∧
      server.world.daemon.configured = true ∧
      server.world.daemon.radio = none := by
  decide +kernel

end OpenRsp
