import OpenRsp.Daemon.SharedConfiguration
import OpenRsp.Daemon.Tuning

/-!
# Tuning of a master and its slave

The daemon keeps the configuration of both tuners twice.  `duo_config` is
written by `DUO_CONFIGURE` and read by `DUO_START` and the rate swap;
`dual_config` is written by `DUO_UPDATE`.  An accepted update is therefore
undone when `duo_config` is written to the hardware again, and a
configuration equal to `duo_config` is not written although an update may
have retuned the tuner since.  Setting the AM port moves tuner A to the
frequency the driver was given last, which may be that of tuner B.  In runs
that stay clear of these cases the front end of each tuner follows the last
request its role had accepted.
-/

namespace OpenRsp

open Runs

/-! ## What a role had accepted -/

/-- The front-end registers hold the values of a configuration. -/
structure ChannelRegisters.HoldsFrontEnd
    (registers : ChannelRegisters) (config : RadioConfig) : Prop where
  centerFrequency : registers.centerFrequency = some config.centerFrequencyHz
  gainReduction : registers.gainReduction = some config.gainReductionDb
  lnaState : registers.lnaState = some config.lnaState

theorem ChannelRegisters.HoldsFrontEnd.congr
    {registers : ChannelRegisters} {config other : RadioConfig}
    (holds : registers.HoldsFrontEnd config)
    (same : config.frontEnd = other.frontEnd) :
    registers.HoldsFrontEnd other := by
  simp only [RadioConfig.frontEnd, Prod.mk.injEq] at same
  exact
    { centerFrequency := same.1 ▸ holds.centerFrequency
      gainReduction := same.2.1 ▸ holds.gainReduction
      lnaState := same.2.2 ▸ holds.lnaState }

theorem holdsFrontEnd_frontEndRegisters (config : RadioConfig) (registers : ChannelRegisters) :
    (frontEndRegisters config registers).HoldsFrontEnd config :=
  ⟨rfl, rfl, rfl⟩

theorem holdsFrontEnd_dualRegisters (config : DualConfig) (channel : RadioConfig) :
    (dualRegisters 0 config channel).HoldsFrontEnd channel :=
  ⟨rfl, rfl, rfl⟩

/-- The commands of a master and its slave between acquiring and releasing
their roles. -/
inductive DuoCommand where
  | configure (config : RadioConfig)
  | start
  | update (update : UpdateRequest)
  | stop
  | swapRate (rate : UInt32)
deriving DecidableEq

def DuoCommand.toCommand : DuoCommand → Command
  | .configure config => .duoConfigure config
  | .start => .duoStart
  | .update request => .duoUpdate request
  | .stop => .duoStop
  | .swapRate rate => .duoSwapRate rate

/-- A command with the client that sends it. -/
structure DuoRequest where
  descriptor : Int
  sequence : UInt32
  command : DuoCommand
deriving DecidableEq

/-- The configuration a command asks for, if any. -/
def DuoCommand.config : DuoCommand → Option RadioConfig
  | .configure config => some config
  | .update request => some request.config
  | _ => none

namespace AcceptedConfigs

/-- What is on record after a command was answered. -/
def after (accepted : AcceptedConfigs) (command : DuoCommand) (status : Status) :
    AcceptedConfigs :=
  match status, command.config with
  | .ok, some config => accepted.record config
  | _, _ => accepted

theorem after_of_not_ok
    {accepted : AcceptedConfigs} {command : DuoCommand} {status : Status}
    (refused : status ≠ .ok) : accepted.after command status = accepted := by
  cases status <;> first | exact absurd rfl refused | rfl

end AcceptedConfigs

/-- The daemon together with what the roles had accepted. -/
structure DuoTuning where
  world : World
  accepted : AcceptedConfigs

/-- Serve one request and keep the record. -/
def DuoTuning.step (environment : Environment) (tuning : DuoTuning)
    (request : DuoRequest) : DuoTuning where
  world := (serveRequest environment tuning.world request.descriptor
      (.request request.sequence request.command.toCommand)).2
  accepted := tuning.accepted.after request.command
      (dispatch environment tuning.world request.descriptor request.command.toCommand).status

/-- The configuration a tuner is expected to run: the one its role last had
accepted, or before that the one the daemon configured it with. -/
def DuoTuning.expected (tuning : DuoTuning) (tuner : UInt32) : RadioConfig :=
  (tuning.accepted.channel tuner).getD (tuning.world.daemon.dualConfig.channel tuner)

theorem DuoTuning.expected_congr (tuning : DuoTuning) {left right : UInt32}
    (same : SameChannel left right) :
    tuning.expected left = tuning.expected right := by
  unfold SameChannel at same
  simp only [DuoTuning.expected, AcceptedConfigs.channel, DualConfig.channel, same]

/-- While both tuners are configured, each front end holds what is expected
of it. -/
def DuoTuning.Follows (tuning : DuoTuning) : Prop :=
  tuning.world.DualConfigured → ∀ tuner, ∃ registers, tuning.world.channel tuner = some registers ∧
      registers.HoldsFrontEnd (tuning.expected tuner)

/-- The receiver decides. -/
theorem DuoTuning.Follows.congr
    {before after : World} {accepted : AcceptedConfigs}
    (follows : DuoTuning.Follows ⟨before, accepted⟩)
    (same : after.daemon.toReceiver = before.daemon.toReceiver) :
    DuoTuning.Follows ⟨after, accepted⟩ := by
  intro configured tuner
  have holds := follows (configured.congr same) tuner
  have sameRadio : after.daemon.radio = before.daemon.radio := congrArg Receiver.radio same
  have sameDual : after.daemon.dualConfig = before.daemon.dualConfig :=
    congrArg Receiver.dualConfig same
  simpa only [DuoTuning.expected, World.channel, sameRadio, sameDual] using holds

theorem follows_of_closed
    {world : World} {accepted : AcceptedConfigs}
    (closed : world.daemon.radio = none) :
    DuoTuning.Follows ⟨world, accepted⟩ := by
  intro configured
  have isOpen := configured.isOpen
  simp [closed] at isOpen

/-! ## Requests in order -/

/-- With it what each role last had accepted with `DUO_CONFIGURE`. -/
structure TuningHistory extends DuoTuning where
  configured : AcceptedConfigs

def TuningHistory.step (environment : Environment) (history : TuningHistory)
    (request : DuoRequest) : TuningHistory where
  toDuoTuning := history.toDuoTuning.step environment request
  configured :=
    match request.command with
    | .configure _ => history.configured.after request.command
        (dispatch environment history.world request.descriptor request.command.toCommand).status
    | _ => history.configured

/-- No update has changed the front end a role had configured. -/
def TuningHistory.AsConfigured (history : TuningHistory) : Prop :=
  (∀ config ∈ history.accepted.channelA,
      ∃ base ∈ history.configured.channelA, base.frontEnd = config.frontEnd) ∧
    ∀ config ∈ history.accepted.channelB,
      ∃ base ∈ history.configured.channelB, base.frontEnd = config.frontEnd

instance (history : TuningHistory) : Decidable history.AsConfigured :=
  inferInstanceAs (Decidable (_ ∧ _))

/-- The command writes `duo_config` to the hardware: a master starts, or
moves a session it runs alone to the other rate. -/
def rewritesHardware (daemon : DaemonState) (descriptor : Int) : DuoCommand → Bool
  | .start =>
      duoRoleDescriptor daemon descriptor == .master && !daemon.duo.masterInitialised
  | .swapRate rate =>
      duoRoleDescriptor daemon descriptor == .master &&
        daemon.duo.masterInitialised && !daemon.duo.slaveInitialised &&
        rate != daemon.duo.sampleRateHz
  | _ => false

/-- The command sets the AM port and writes no front end. -/
def DuoCommand.SetsPortAlone (daemon : DaemonState) : DuoCommand → Prop
  | .configure config => setsAmPort config changeRspduoControls ∧
      config.frontEnd = (daemon.duoConfig.channel config.tuner).frontEnd
  | .update request => setsAmPort request.config request.changedFlags ∧
      hasFlag request.changedFlags (changeRf ||| changeGain) = false
  | _ => False

/-- An update names what it changes.  When `duo_config` is written to the
hardware, no update has changed a front end since it was configured, and both
tuners have one frequency.  A configuration sent to a running tuner that
equals its `duo_config` equals what the tuner runs.  The AM port is set alone
only while the driver's frequency is that of tuner A. -/
structure DuoRequestInOrder
    (history : TuningHistory) (request : DuoRequest) : Prop where
  names : ∀ update, request.command = .update update →
      update.NamesFrontEnd (history.expected update.config.tuner)
  configured : rewritesHardware history.world.daemon request.descriptor request.command = true →
      history.AsConfigured ∧ (preparedDuoConfig history.world.daemon).SharesFrequency
  differs : ∀ config, request.command = .configure config → history.world.DualConfigured →
        config.frontEnd =
            (history.world.daemon.duoConfig.channel config.tuner).frontEnd →
          config.frontEnd = (history.expected config.tuner).frontEnd
  port : history.world.DualConfigured → request.command.SetsPortAlone history.world.daemon →
      history.world.TunedToA

/-! ## One request -/

/-- The front ends follow what is on record after a request was handled. -/
def Handled.Follows (handled : Handled) (accepted : AcceptedConfigs)
    (command : DuoCommand) : Prop :=
  DuoTuning.Follows ⟨handled.world, accepted.after command handled.status⟩

section Refusals

variable {world : World} {accepted : AcceptedConfigs} {command : DuoCommand}

/-- A request that was refused and left the receiver alone. -/
theorem DuoTuning.Follows.refused {handled : Handled}
    (follows : DuoTuning.Follows ⟨world, accepted⟩)
    (same : handled.world.daemon.toReceiver = world.daemon.toReceiver)
    (notOk : handled.status ≠ .ok) :
    handled.Follows accepted command := by
  unfold Handled.Follows
  rw [AcceptedConfigs.after_of_not_ok notOk]
  exact follows.congr same

/-- A command that asks for no configuration. -/
theorem DuoTuning.Follows.unrecorded {handled : Handled}
    (follows : DuoTuning.Follows ⟨handled.world, accepted⟩)
    (noConfig : command.config = none) :
    handled.Follows accepted command := by
  have same : accepted.after command handled.status = accepted := by
    unfold AcceptedConfigs.after
    rw [noConfig]
    cases handled.status <;> rfl
  unfold Handled.Follows
  rw [same]
  exact follows

/-- A request of a client without a role is refused. -/
theorem withDuoRole_follows
    {descriptor : Int} {serve : DuoRole → Handled}
    (follows : DuoTuning.Follows ⟨world, accepted⟩)
    (served : ∀ role, duoRoleDescriptor world.daemon descriptor = role →
        (serve role).Follows accepted command) :
    (withDuoRole world descriptor serve).Follows accepted command := by
  unfold withDuoRole
  split
  · exact follows.refused rfl (busyOrUnsupported_ne_ok world.daemon)
  · exact served _ ‹_›
  · exact served _ ‹_›

end Refusals

section Requests

variable {environment : Environment} (setters : environment.SettersSucceed)
include setters

/-- A front end that follows, after a tuner was written and its channel
recorded.  The registers of the other tuner and its expected configuration
are those before. -/
theorem DuoTuning.Follows.written
    {before after : World} {accepted : AcceptedConfigs}
    {config : RadioConfig} {needed : Bool} {flags : UInt32}
    (follows : DuoTuning.Follows ⟨before, accepted⟩)
    (unneeded : before.DualConfigured → needed = false →
      config.frontEnd = (DuoTuning.expected ⟨before, accepted⟩ config.tuner).frontEnd ∧
        (setsAmPort config flags → before.TunedToA))
    (wrote : ∀ tuner, after.channel tuner =
      (writeFrontEnd environment before needed config flags).2.channel tuner)
    (configured : after.DualConfigured → before.DualConfigured)
    (otherConfig : ∀ tuner, ¬ SameChannel tuner config.tuner →
        after.daemon.dualConfig.channel tuner = before.daemon.dualConfig.channel tuner) :
    DuoTuning.Follows ⟨after, accepted.record config⟩ := by
  intro dual tuner
  obtain ⟨registers, found, holds⟩ := follows (configured dual) tuner
  have channel := (wrote tuner).trans (writeFrontEnd_channel environment before
    (fun skipped => (unneeded (configured dual) skipped).2)
    (writeFrontEnd_succeeds (setters.succeeds before (by decide)) needed config flags) tuner)
  rw [show before.channel tuner = some registers from found] at channel
  refine ⟨_, channel, ?_⟩
  by_cases own : SameChannel tuner config.tuner
  · simp only [DuoTuning.expected, AcceptedConfigs.channel_record, own, if_true, and_true,
      Option.getD_some]
    cases needed with
    | true => exact holdsFrontEnd_frontEndRegisters config registers
    | false =>
        -- nothing is written, so the tuner must already run the configuration
        have expected := (unneeded (configured dual) rfl).1
        rw [← DuoTuning.expected_congr _ own] at expected
        exact holds.congr expected.symm
  · simpa only [DuoTuning.expected, AcceptedConfigs.channel_record, own, and_false,
      if_false, otherConfig tuner own] using holds

/-- A configuration is kept for later, refused, or written to its tuner. -/
theorem duoApplyRunningConfig_outcome (world : World) (config : RadioConfig) :
    (¬ world.DualConfigured ∧
        duoApplyRunningConfig environment world config = (.ok, world)) ∨
      duoApplyRunningConfig environment world config = (.badRequest, world) ∨
      duoApplyRunningConfig environment world config = (.ok, (writeRunningConfig environment world
            (world.daemon.duoConfig.channel config.tuner)
            config).2.modify fun daemon =>
              { daemon with
                duoConfig := daemon.duoConfig.withChannel config.tuner config }) := by
  simp only [duoApplyRunningConfig, writeRunningConfig,
    writeFrontEnd_succeeds (setters.succeeds _ (by decide)), Bool.true_eq_false, if_false]
  split_ifs with unconfigured
  · refine .inl ⟨fun dual => ?_, rfl⟩
    rcases unconfigured with closed | unconfigured | single
    · simpa [closed] using dual.isOpen
    · simpa [unconfigured] using dual.configured
    · simpa [single] using dual.dual
  · exact .inr (.inl rfl)
  · exact .inr (.inr rfl)

theorem serveDuoConfigure_follows
    {world : World} {accepted : AcceptedConfigs} {config : RadioConfig}
    (descriptor : Int)
    (follows : DuoTuning.Follows ⟨world, accepted⟩)
    (differs : world.DualConfigured → config.frontEnd =
            (world.daemon.duoConfig.channel config.tuner).frontEnd →
          config.frontEnd = (DuoTuning.expected ⟨world, accepted⟩ config.tuner).frontEnd)
    (port : world.DualConfigured →
      (DuoCommand.configure config).SetsPortAlone world.daemon → world.TunedToA) :
    (serveDuoConfigure environment world descriptor config).Follows accepted
      (.configure config) := by
  have stored (before : World) : (before.modify (storeDuoConfig · config)).daemon.toReceiver =
        before.daemon.toReceiver := by
    simp only [World.modify_daemon, storeDuoConfig]
    split <;> rfl
  refine withDuoRole_follows follows fun role _ => ?_
  dsimp only
  split
  · exact follows.refused rfl (by simp)
  · rcases duoApplyRunningConfig_outcome setters world config with
      ⟨notDual, applied⟩ | applied | applied <;> rw [applied]
    · exact fun dual => absurd (dual.congr (stored world)) notDual
    · exact follows.refused rfl (by simp)
    · have frame := writeRunningConfig_registersOnly environment world
          (world.daemon.duoConfig.channel config.tuner) config
      refine DuoTuning.Follows.congr (follows.written setters (fun dual skipped => ?_)
        (fun _ => rfl) (fun dual => dual.of_registersOnly frame) ?_) (stored _)
      · have same : config.frontEnd =
            (world.daemon.duoConfig.channel config.tuner).frontEnd := by
          simpa [RadioConfig.frontEnd, and_assoc] using skipped
        exact ⟨differs dual same, fun sets => port dual ⟨sets, same⟩⟩
      · exact fun tuner _ => congrArg (DualConfig.channel · tuner) frame.dualConfig

theorem serveDuoUpdate_follows
    {world : World} {accepted : AcceptedConfigs} {update : UpdateRequest}
    (descriptor : Int)
    (follows : DuoTuning.Follows ⟨world, accepted⟩)
    (names : update.NamesFrontEnd (DuoTuning.expected ⟨world, accepted⟩ update.config.tuner))
    (port : world.DualConfigured →
      (DuoCommand.update update).SetsPortAlone world.daemon → world.TunedToA) :
    (serveDuoUpdate environment world descriptor update).Follows accepted (.update update) := by
  refine withDuoRole_follows follows fun role _ => ?_
  have frame := writeDualUpdate_registersOnly environment world update.config update.changedFlags
  have wrote : (writeDualUpdate environment world update.config update.changedFlags).1 = true :=
    writeFrontEnd_succeeds (setters.succeeds _ (by decide)) _ _ _
  simp only [applyUpdate, applyDualUpdate, wrote, Bool.true_eq_false, if_false]
  split_ifs with unready foreign controls dual wrongTuner shared invalid
  · exact follows.refused rfl (by simp)
  · exact follows.refused rfl (by simp)
  · exact follows.refused rfl (by simp)
  · exact follows.refused rfl (by simp)
  · exact follows.refused rfl (by simp)
  · exact follows.refused rfl (by simp)
  · refine follows.written setters (fun dual skipped => ?_) (fun _ => rfl) (fun dual => ?_) ?_
    · exact ⟨names.frontEnd_of_unflagged (by simp [skipped]), fun sets => port dual ⟨sets, skipped⟩⟩
    · exact World.DualConfigured.of_registersOnly frame ⟨dual.isOpen, dual.configured, dual.dual⟩
    · intro tuner other
      simp only [Handled.reply, World.modify_daemon, DualConfig.channel_withChannel, if_neg other,
        frame.dualConfig]
  · -- the session has no dual handle, and an update does not open one
    intro configured
    have single := (applySingleUpdate_dualMode environment world update.config
        update.changedFlags).symm.trans configured.dual
    exact absurd single dual

end Requests

/-! ## Requests that write `duo_config` -/

/-- The front ends `duo_prepare_config` leaves do not depend on the session,
and preparing again leaves the same. -/
theorem preparedDuoConfig_frontEnd
    {before after : DaemonState}
    (flagA : after.duoConfigA = before.duoConfigA)
    (flagB : after.duoConfigB = before.duoConfigB)
    (config : after.duoConfig = before.duoConfig ∨ after.duoConfig = preparedDuoConfig before)
    (tuner : UInt32) :
    ((preparedDuoConfig after).channel tuner).frontEnd =
      ((preparedDuoConfig before).channel tuner).frontEnd := by
  rcases config with config | config <;>
    simp only [preparedDuoConfig, DualConfig.channel, flagA, flagB, config]
  · split <;> rfl
  · cases before.duoConfigA <;> cases before.duoConfigB <;> split <;> rfl

/-- A dual configuration has the front ends on record, and one frequency. -/
structure AcceptedConfigs.Within (accepted : AcceptedConfigs) (dual : DualConfig) : Prop where
  frontEnd : ∀ tuner config, accepted.channel tuner = some config →
    (dual.channel tuner).frontEnd = config.frontEnd
  shares : dual.SharesFrequency

theorem AcceptedConfigs.Within.prepared
    {accepted : AcceptedConfigs} {before after : DaemonState}
    (within : accepted.Within (preparedDuoConfig before))
    (flagA : after.duoConfigA = before.duoConfigA)
    (flagB : after.duoConfigB = before.duoConfigB)
    (config : after.duoConfig = before.duoConfig ∨ after.duoConfig = preparedDuoConfig before) :
    accepted.Within (preparedDuoConfig after) := by
  have same := preparedDuoConfig_frontEnd flagA flagB config
  constructor
  · intro tuner recorded found
    exact (same tuner).trans (within.frontEnd tuner recorded found)
  · have sameA := congrArg Prod.fst (same tunerA)
    have sameB := congrArg Prod.fst (same tunerB)
    exact sameA.trans (within.shares.trans sameB.symm)

section Rewrites

variable (environment : Environment) {world : World}
  {accepted : AcceptedConfigs}

theorem World.RunsDual.follows {config : DualConfig}
    (runs : world.RunsDual config) (within : accepted.Within config) :
    DuoTuning.Follows ⟨world, accepted⟩ := by
  intro _ tuner
  refine ⟨_, runs.channel within.shares tuner, (holdsFrontEnd_dualRegisters config _).congr ?_⟩
  unfold DuoTuning.expected
  cases found : accepted.channel tuner with
  | none => rw [Option.getD_none, runs.dualConfig]
  | some recorded => exact within.frontEnd tuner recorded found

theorem DuoTuning.Follows.configureDual {config : DualConfig}
    (follows : DuoTuning.Follows ⟨world, accepted⟩)
    (within : accepted.Within config) :
    DuoTuning.Follows ⟨(configureDualRadio environment world config).2, accepted⟩ := by
  rcases configureDualRadio_outcome environment world config with
    ⟨-, runs⟩ | ⟨-, closed | same⟩
  · exact runs.follows within
  · exact follows_of_closed closed
  · rw [same]
    exact follows

theorem duoPrepareConfig_receiver (daemon : DaemonState) :
    (duoPrepareConfig daemon).2.toReceiver = daemon.toReceiver := by
  unfold duoPrepareConfig
  split <;> rfl

theorem duoPrepareConfig_duoConfig {daemon : DaemonState}
    (prepared : (duoPrepareConfig daemon).1 = 0) :
    (duoPrepareConfig daemon).2 =
      { daemon with duoConfig := preparedDuoConfig daemon } := by
  unfold duoPrepareConfig at prepared ⊢
  split_ifs at prepared ⊢ <;> simp_all

theorem startMaster_follows (event : DuoEvent) (follows : DuoTuning.Follows ⟨world, accepted⟩)
    (within : accepted.Within (preparedDuoConfig world.daemon)) :
    DuoTuning.Follows ⟨(startMaster environment world event).world, accepted⟩ := by
  have ready :
      DuoTuning.Follows ⟨world.modify fun _ => (duoPrepareConfig world.daemon).2, accepted⟩ :=
    follows.congr (duoPrepareConfig_receiver world.daemon)
  have shared (prepared : (duoPrepareConfig world.daemon).1 = 0) :
      accepted.Within (duoPrepareConfig world.daemon).2.duoConfig := by
    rw [duoPrepareConfig_duoConfig prepared]
    exact within
  simp only [startMaster]
  split_ifs with unprepared configured
  · exact ready.congr rfl
  · have runs := configureDualRadio_runsDual environment _ _ configured
    exact World.RunsDual.follows { runs with dual := rfl }
      (shared (not_not.mp unprepared))
  · exact (ready.configureDual environment (shared (not_not.mp unprepared))).congr rfl

theorem duoResetHardware_duoConfig (world : World) :
    (duoResetHardware environment world).2.daemon.duoConfig =
      world.daemon.duoConfig :=
  congrArg Ledger.duoConfig (duoResetHardware_ledger environment world)

theorem swapRateStopped_follows (rate : UInt32) (wasStreaming : Bool)
    (follows : DuoTuning.Follows ⟨world, accepted⟩)
    (within : accepted.Within (preparedDuoConfig world.daemon))
    (saved : accepted.Within world.daemon.duoConfig) :
    DuoTuning.Follows ⟨(swapRateStopped environment world rate wasStreaming).world, accepted⟩ := by
  have shared (session : DuoSession)
      (prepared : (duoPrepareConfig { world.daemon with duo := session }).1 = 0) :
      accepted.Within
        (duoPrepareConfig
          { world.daemon with duo := session }).2.duoConfig := by
    rw [duoPrepareConfig_duoConfig prepared]
    exact within.prepared rfl rfl (.inl rfl)
  simp only [swapRateStopped]
  split_ifs with unprepared unreset configured
  · exact follows.congr (duoPrepareConfig_receiver _)
  · exact follows_of_closed (duoResetHardware_radio environment _)
  · have runs := configureDualRadio_runsDual environment _ _ configured
    refine World.RunsDual.follows { runs with dual := rfl } ?_
    rw [duoResetHardware_duoConfig]
    exact shared _ (not_not.mp unprepared)
  · refine DuoTuning.Follows.configureDual environment ?_ saved
    rw [duoResetHardware_duoConfig]
    exact ((follows_of_closed
      (duoResetHardware_radio environment _)).configureDual environment
        (shared _ (not_not.mp unprepared))).congr rfl

/-- A swap of the rate writes `duo_config` with the rate changed, or the one
saved before. -/
theorem swapRate_follows (rate : UInt32) (follows : DuoTuning.Follows ⟨world, accepted⟩)
    (within : accepted.Within (preparedDuoConfig world.daemon)) :
    DuoTuning.Follows ⟨(swapRate environment world rate).world, accepted⟩ := by
  have ready :
      DuoTuning.Follows ⟨world.modify fun _ => (duoPrepareConfig world.daemon).2, accepted⟩ :=
    follows.congr (duoPrepareConfig_receiver world.daemon)
  have stopped :=
    stopStream_streamOnly environment (world.modify fun _ => (duoPrepareConfig world.daemon).2)
  simp only [swapRate]
  split_ifs with unprepared failed
  · exact ready
  · exact ready.congr stopped.receiver
  · have ledger := stopped.ledger.trans
        (congrArg DaemonState.toLedger (duoPrepareConfig_duoConfig (not_not.mp unprepared)))
    have flagA := congrArg Ledger.duoConfigA ledger
    have flagB := congrArg Ledger.duoConfigB ledger
    have config := congrArg Ledger.duoConfig ledger
    refine swapRateStopped_follows environment rate _ (ready.congr stopped.receiver) ?_ ?_
    · exact within.prepared flagA flagB (.inr config)
    · rw [show (stopStream environment _).2.daemon.duoConfig =
        preparedDuoConfig world.daemon from config]
      exact within

theorem serveDuoStart_follows (descriptor : Int) (follows : DuoTuning.Follows ⟨world, accepted⟩)
    (current : rewritesHardware world.daemon descriptor .start = true →
        accepted.Within (preparedDuoConfig world.daemon)) :
    (serveDuoStart environment world descriptor).Follows accepted .start := by
  have marked (session : DuoSession) :
      DuoTuning.Follows ⟨world.modify fun daemon => { daemon with duo := session }, accepted⟩ :=
    follows.congr rfl
  refine withDuoRole_follows follows fun role found => .unrecorded ?_ rfl
  dsimp only
  split_ifs with refused isMaster
  · exact marked _
  · subst isMaster
    obtain ⟨waiting, -⟩ :=
      openrspdDuoInitialise_master (duoRoleDescriptor_master found) (not_not.mp refused)
    have within := current (by simp [rewritesHardware, found, waiting])
    exact startMaster_follows environment _ (marked _) (within.prepared rfl rfl (.inl rfl))
  · unfold startSlave
    split
    · exact (marked _).congr rfl
    · exact marked _

theorem serveDuoStop_follows (descriptor : Int) (follows : DuoTuning.Follows ⟨world, accepted⟩) :
    (serveDuoStop environment world descriptor).Follows accepted .stop := by
  refine withDuoRole_follows follows fun role _ => .unrecorded ?_ rfl
  dsimp only
  split_ifs
  · exact follows_of_closed (duoResetHardware_radio environment _)
  · exact follows.congr rfl

theorem serveDuoSwapRate_follows (descriptor : Int) (rate : UInt32)
    (follows : DuoTuning.Follows ⟨world, accepted⟩)
    (current : rewritesHardware world.daemon descriptor (.swapRate rate) = true →
        accepted.Within (preparedDuoConfig world.daemon)) :
    (serveDuoSwapRate environment world descriptor rate).Follows accepted (.swapRate rate) := by
  refine withDuoRole_follows follows fun role found => .unrecorded ?_ rfl
  split_ifs with notMaster waiting invalid slave same
  · exact follows
  · exact follows
  · exact follows
  · exact follows
  · exact follows
  · rw [not_not.mp notMaster] at found
    refine swapRate_follows environment rate follows (current ?_)
    simp_all [rewritesHardware]

end Rewrites

/-! ## What `duo_config` stores -/

/-- The front ends on record are those `duo_config` stores. -/
structure AcceptedConfigs.Stored (configured : AcceptedConfigs) (ledger : Ledger) : Prop where
  channelA : ∀ config ∈ configured.channelA,
    ledger.duoConfigA = true ∧ ledger.duoConfig.channelA.frontEnd = config.frontEnd
  channelB : ∀ config ∈ configured.channelB,
    ledger.duoConfigB = true ∧ ledger.duoConfig.channelB.frontEnd = config.frontEnd

/-- Preparing keeps the front ends of the channels that were configured. -/
theorem AcceptedConfigs.Stored.prepared {configured : AcceptedConfigs} {daemon : DaemonState}
    (stored : configured.Stored daemon.toLedger) :
    configured.Stored { daemon.toLedger with duoConfig := preparedDuoConfig daemon } := by
  constructor <;> intro config found
  · obtain ⟨flag, same⟩ := stored.channelA config found
    simp only [preparedDuoConfig, flag, if_true]
    exact ⟨trivial, same⟩
  · obtain ⟨flag, same⟩ := stored.channelB config found
    simp only [preparedDuoConfig, flag, if_true]
    exact ⟨trivial, same⟩

theorem AcceptedConfigs.stored_rule (configured : AcceptedConfigs) :
    SharedRule configured.Stored fun _ => True where
  of_shared stored same := by
    simp only [Ledger.shared, Prod.mk.injEq] at same
    obtain ⟨flagA, flagB, config⟩ := same
    constructor
    · rw [flagA, config]
      exact stored.channelA
    · rw [flagB, config]
      exact stored.channelB
  prepare _ stored := by
    unfold duoPrepareConfig
    split
    · exact stored
    · exact stored.prepared

theorem AcceptedConfigs.Stored.store {configured : AcceptedConfigs} {daemon : DaemonState}
    {config : RadioConfig} (stored : configured.Stored daemon.toLedger)
    (valid : openrspdConfigValid config = true) :
    (configured.record config).Stored (storeDuoConfig daemon config).toLedger := by
  unfold storeDuoConfig AcceptedConfigs.record
  rcases tuner_of_openrspdConfigValid valid with own | own
  · have notB : config.tuner ≠ tunerB := by rw [own]; decide
    rw [if_pos own, if_neg notB]
    exact ⟨fun _ found => ⟨rfl, congrArg _ (Option.some.inj found)⟩, stored.channelB⟩
  · have notA : config.tuner ≠ tunerA := by rw [own]; decide
    rw [if_neg notA, if_pos own]
    exact ⟨stored.channelA, fun _ found => ⟨rfl, congrArg _ (Option.some.inj found)⟩⟩

theorem serveDuoConfigure_stored {environment : Environment} (setters : environment.SettersSucceed)
    {world : World} {configured : AcceptedConfigs} (descriptor : Int) (config : RadioConfig)
    (stored : configured.Stored world.daemon.toLedger) :
    (configured.after (.configure config)
        (serveDuoConfigure environment world descriptor config).status).Stored
      (serveDuoConfigure environment world descriptor config).world.daemon.toLedger := by
  refine withDuoRole_outcome world descriptor _
    (fun handled => (configured.after (.configure config) handled.status).Stored
      handled.world.daemon.toLedger) ?_ fun role _ _ _ => ?_
  · simpa only [Handled.reply,
      AcceptedConfigs.after_of_not_ok (busyOrUnsupported_ne_ok world.daemon)] using stored
  by_cases refused : openrspdConfigValid config = false ∨
      config.tuner ≠ world.daemon.duo.roleTuner role ∨
      config.sampleRateHz ≠ world.daemon.duo.sampleRateHz
  · rw [if_pos refused]
    exact stored
  rw [if_neg refused]
  have valid : openrspdConfigValid config = true := by
    simpa using fun invalid => refused (.inl invalid)
  rcases duoApplyRunningConfig_outcome setters world config with
    ⟨-, applied⟩ | applied | applied <;> rw [applied]
  · exact stored.store valid
  · exact stored
  · refine (AcceptedConfigs.stored_rule _).of_shared (stored.store valid) ?_
    simp only [Ledger.shared, storeDuoConfig, DualConfig.withChannel]
    rcases tuner_of_openrspdConfigValid valid with own | own <;> simp [own, tunerA, tunerB]

/-- The record of configurations stays what `duo_config` stores. -/
theorem TuningHistory.stored_step {environment : Environment} (setters : environment.SettersSucceed)
    (history : TuningHistory) (request : DuoRequest)
    (stored : history.configured.Stored history.world.daemon.toLedger) :
    (history.step environment request).configured.Stored
      (history.step environment request).world.daemon.toLedger := by
  have rule := history.configured.stored_rule
  obtain ⟨descriptor, sequence, command⟩ := request
  have answered := congrArg Ledger.shared (respond_restreamed environment descriptor sequence
    command.toCommand (dispatch environment history.world descriptor command.toCommand)).ledger
  refine (AcceptedConfigs.stored_rule _).of_shared ?_ answered
  cases command with
  | configure config => exact serveDuoConfigure_stored setters descriptor config stored
  | start => exact rule.serveDuoStart environment _ descriptor stored fun _ => trivial
  | update update =>
      exact rule.of_shared stored (serveDuoUpdate_shared environment _ descriptor update)
  | stop => exact rule.of_shared stored (serveDuoStop_shared environment _ descriptor)
  | swapRate rate =>
      exact rule.serveDuoSwapRate environment _ descriptor rate stored (fun _ => trivial)
        fun _ => trivial

/-- What was accepted is what preparing leaves, if no update changed it. -/
theorem TuningHistory.AsConfigured.within {history : TuningHistory}
    (stored : history.configured.Stored history.world.daemon.toLedger)
    (asConfigured : history.AsConfigured)
    (shares : (preparedDuoConfig history.world.daemon).SharesFrequency) :
    history.accepted.Within (preparedDuoConfig history.world.daemon) := by
  refine ⟨fun tuner config found => ?_, shares⟩
  unfold AcceptedConfigs.channel at found
  unfold DualConfig.channel
  split_ifs at found ⊢
  · obtain ⟨base, recorded, same⟩ := asConfigured.2 config found
    exact (stored.prepared.channelB base recorded).2.trans same
  · obtain ⟨base, recorded, same⟩ := asConfigured.1 config found
    exact (stored.prepared.channelA base recorded).2.trans same

/-! ## Every run -/

/-- A request in order keeps the front ends at what is expected. -/
theorem DuoTuning.Follows.step
    {environment : Environment} (setters : environment.SettersSucceed)
    (history : TuningHistory) (request : DuoRequest)
    (inOrder : DuoRequestInOrder history request)
    (held : history.configured.Stored history.world.daemon.toLedger ∧ history.Follows) :
    (history.step environment request).configured.Stored
        (history.step environment request).world.daemon.toLedger ∧
      (history.step environment request).Follows := by
  obtain ⟨stored, follows⟩ := held
  refine ⟨history.stored_step setters request stored, ?_⟩
  have within (rewrites : _) := (inOrder.configured rewrites).1.within stored
    (inOrder.configured rewrites).2
  have handled : (dispatch environment history.world request.descriptor
        request.command.toCommand).Follows history.accepted
          request.command := by
    obtain ⟨descriptor, sequence, command⟩ := request
    cases command with
    | configure config =>
        exact serveDuoConfigure_follows setters descriptor follows (inOrder.differs config rfl)
          inOrder.port
    | start =>
        exact serveDuoStart_follows environment descriptor follows within
    | update request =>
        exact serveDuoUpdate_follows setters descriptor follows (inOrder.names request rfl)
          inOrder.port
    | stop => exact serveDuoStop_follows environment descriptor follows
    | swapRate rate =>
        exact serveDuoSwapRate_follows environment descriptor rate follows within
  exact DuoTuning.Follows.congr handled
    (respond_restreamed environment request.descriptor request.sequence
      request.command.toCommand _).receiver

end OpenRsp
