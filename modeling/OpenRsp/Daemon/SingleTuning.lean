import OpenRsp.Daemon.Tuning
import OpenRsp.Library.Runs

/-!
# Tuning of a single owner

An owner configures one tuner and then sends updates.  `apply_update` writes
a field when it is flagged and differs from the stored configuration, and it
then stores the whole configuration it was sent.  A field that changed
without its flag is therefore stored and not written, and a later update that
flags it finds nothing to do.  When every update flags each tuning field it
changes, the registers keep up with the stored configuration.
-/

namespace OpenRsp

open Runs

/-- The tuning registers hold the tuning of a configuration. -/
structure ChannelRegisters.TunesAs
    (registers : ChannelRegisters) (config : RadioConfig) : Prop where
  sampleRate : registers.sampleRate = some config.sampleRateHz
  centerFrequency : registers.centerFrequency = some config.centerFrequencyHz
  bandwidth : registers.bandwidth = some config.bandwidthHz
  ifFrequency : registers.ifFrequency = some config.ifFrequencyHz.toUInt32

/-- An update flags every tuning field in which it differs from the stored
configuration. -/
structure UpdateRequest.NamesChanges
    (update : UpdateRequest) (stored : RadioConfig) : Prop where
  sampleRate : update.config.sampleRateHz ≠ stored.sampleRateHz →
      hasFlag update.changedFlags changeSampleRate = true
  centerFrequency : update.config.centerFrequencyHz ≠ stored.centerFrequencyHz →
      hasFlag update.changedFlags changeRf = true
  bandwidth : update.config.bandwidthHz ≠ stored.bandwidthHz →
      hasFlag update.changedFlags changeBandwidth = true
  ifFrequency :
    update.config.ifFrequencyHz ≠ stored.ifFrequencyHz → hasFlag update.changedFlags changeIf = true

/-- What an update flagged is what the hardware last received. -/
structure FlaggedTuningWritten
    (update : UpdateRequest) (world : World) : Prop where
  sampleRate : hasFlag update.changedFlags changeSampleRate = true →
      world.tuned.map ChannelRegisters.sampleRate = some (some update.config.sampleRateHz)
  centerFrequency : hasFlag update.changedFlags changeRf = true →
      world.tuned.map ChannelRegisters.centerFrequency = some (some update.config.centerFrequencyHz)
  bandwidth : hasFlag update.changedFlags changeBandwidth = true →
      world.tuned.map ChannelRegisters.bandwidth = some (some update.config.bandwidthHz)
  ifFrequency : hasFlag update.changedFlags changeIf = true →
      world.tuned.map ChannelRegisters.ifFrequency =
        some (some update.config.ifFrequencyHz.toUInt32)

/-! ## One update -/

theorem tunesAs_of (config : RadioConfig) :
    (ChannelRegisters.of config).TunesAs config :=
  ⟨rfl, rfl, rfl, rfl⟩

/-- A register that holds the stored value of a field, after a write that
is made when the field is flagged and has changed. -/
theorem written_if_changed
    {α β : Type} [BEq α] [LawfulBEq α] (value : α → β)
    {flagged : Bool} {next stored : α} {register : Option β}
    (holds : register = some (value stored))
    (named : next ≠ stored → flagged = true) :
    (if flagged && next != stored then some (value next) else register) =
      some (value next) := by
  by_cases same : next = stored
  · simp [same, holds]
  · simp [named same, same]

/-- The writes of an update that names its changes bring the registers to
its configuration. -/
theorem ChannelRegisters.TunesAs.update
    {registers : ChannelRegisters} {stored : RadioConfig}
    {update : UpdateRequest}
    (tunes : registers.TunesAs stored) (names : update.NamesChanges stored) :
    (updatedRegisters stored update.config update.changedFlags
      registers).TunesAs update.config where
  sampleRate := written_if_changed id tunes.sampleRate names.sampleRate
  centerFrequency := written_if_changed id tunes.centerFrequency names.centerFrequency
  bandwidth := written_if_changed id tunes.bandwidth names.bandwidth
  ifFrequency := written_if_changed Int32.toUInt32 tunes.ifFrequency names.ifFrequency

theorem ChannelRegisters.TunesAs.flaggedTuningWritten
    {registers : ChannelRegisters} {update : UpdateRequest} {world : World}
    (tunes : registers.TunesAs update.config)
    (tuned : world.tuned = some registers) :
    FlaggedTuningWritten update world := by
  constructor <;> intro <;> rw [tuned]
  · exact congrArg some tunes.sampleRate
  · exact congrArg some tunes.centerFrequency
  · exact congrArg some tunes.bandwidth
  · exact congrArg some tunes.ifFrequency

section Updates

variable (environment : Environment)

/-- The registers of a single-tuner handle hold the stored tuning, and the
driver's frequency is the one they hold. -/
structure World.SingleTuned (world : World) (descriptor : Int) : Prop where
  owner : world.daemon.owner = descriptor
  configured : world.daemon.configured = true
  single : world.daemon.dualMode = false
  tuned : ∃ registers, world.tuning = some (registers, registers.centerFrequency) ∧
    registers.TunesAs world.daemon.config

/-- An update arrives while no recovery is pending, flags the tuning fields
it changes, and if it changes the rate of a running stream that stream stops
cleanly. -/
structure UpdateInOrder
    (world : World) (request : UInt32 × UpdateRequest) : Prop where
  noError : world.daemon.streamError = false
  names : request.2.NamesChanges world.daemon.config
  stops : restartForSampleRate world.daemon request.2 = true →
      world.result environment .streamingStop = 0 ∧
        (joinedStream environment world).streamResult = 0

/-- Serve one update of the owner. -/
def updateStep (descriptor : Int) (world : World) (request : UInt32 × UpdateRequest) : World :=
  (serveRequest environment world descriptor (.request request.1 (.update request.2))).2

/-- What applying an update to a single tuner does: it is refused and
changes nothing, it is stored and written, or its writes fail. -/
theorem applyUpdate_single_outcome (world : World) (single : world.daemon.dualMode = false)
    (update : UpdateRequest) :
    applyUpdate environment world update = (.badRequest, world) ∨
      ((writeUpdate environment world world.daemon.config update.config
          update.changedFlags).1 = true ∧
        applyUpdate environment world update = (.ok,
            (writeUpdate environment world world.daemon.config update.config
              update.changedFlags).2.modify fun daemon =>
                { daemon with config := update.config })) ∨
      ((writeUpdate environment world world.daemon.config update.config
          update.changedFlags).1 = false ∧
        applyUpdate environment world update = (.ioError,
            (writeUpdate environment world world.daemon.config update.config
              update.changedFlags).2)) := by
  simp only [applyUpdate, applySingleUpdate, single, Bool.false_eq_true, if_false]
  split_ifs with controls wrongTuner invalid failed
  · exact .inl rfl
  · exact .inl rfl
  · exact .inl rfl
  · exact .inr (.inr ⟨failed, rfl⟩)
  · exact .inr (.inl ⟨by simpa using failed, rfl⟩)

/-- When the setters succeed, only a refusal is left besides. -/
theorem applyUpdate_single (setters : environment.SettersSucceed) (world : World)
    (single : world.daemon.dualMode = false) (update : UpdateRequest) :
    applyUpdate environment world update = (.badRequest, world) ∨
      applyUpdate environment world update = (.ok,
          (writeUpdate environment world world.daemon.config update.config
            update.changedFlags).2.modify fun daemon =>
              { daemon with config := update.config }) := by
  rcases applyUpdate_single_outcome environment world single update with
    refused | ⟨-, accepted⟩ | ⟨failed, -⟩
  · exact .inl refused
  · exact .inr accepted
  · simp [writeUpdate_succeeds (setters.succeeds world (by decide))] at failed

theorem World.SingleTuned.isSome
    {world : World} {descriptor : Int}
    (singleTuned : world.SingleTuned descriptor) :
    world.daemon.radio.isSome = true := by
  obtain ⟨registers, tuned, -⟩ := singleTuned.tuned
  cases opened : world.daemon.radio with
  | none => simp [World.tuning, opened] at tuned
  | some radio => rfl

/-- Starting a stream after the response changes no tuning. -/
theorem World.SingleTuned.restreamed
    {before after : World} {descriptor : Int}
    (singleTuned : before.SingleTuned descriptor)
    (frame : Restreamed before.daemon after.daemon) :
    after.SingleTuned descriptor where
  owner := (congrArg Ledger.owner frame.ledger).trans singleTuned.owner
  configured := (congrArg Receiver.configured frame.receiver).trans singleTuned.configured
  single := (congrArg Receiver.dualMode frame.receiver).trans singleTuned.single
  tuned := by
    obtain ⟨registers, tuned, tunes⟩ := singleTuned.tuned
    have sameRadio := congrArg Receiver.radio frame.receiver
    have sameConfig := congrArg Ledger.config frame.ledger
    refine ⟨registers, ?_, ?_⟩
    · simpa [World.tuning, sameRadio] using tuned
    · simpa [← sameConfig] using tunes

/-- Stopping the stream changes no tuning either. -/
theorem World.SingleTuned.streamOnly
    {before after : World} {descriptor : Int}
    (singleTuned : before.SingleTuned descriptor)
    (frame : StreamOnly before after) :
    after.SingleTuned descriptor :=
  singleTuned.restreamed
    { ledger := by rw [frame.ledger]
      receiver := frame.receiver
      inventory := frame.inventory }

/-- The writes of an update, once its configuration has been stored. -/
theorem World.SingleTuned.update
    {world : World} {descriptor : Int} {update : UpdateRequest}
    (singleTuned : world.SingleTuned descriptor)
    (names : update.NamesChanges world.daemon.config)
    (setters : environment.SettersSucceed) :
    ((writeUpdate environment world world.daemon.config update.config
      update.changedFlags).2.modify fun daemon =>
        { daemon with config := update.config }).SingleTuned descriptor := by
  have frame := writeUpdate_registersOnly environment world world.daemon.config
      update.config update.changedFlags
  obtain ⟨registers, tuned, tunes⟩ := singleTuned.tuned
  exact
    { owner := (congrArg Ledger.owner frame.ledger).trans singleTuned.owner
      configured := frame.configured.trans singleTuned.configured
      single := frame.dualMode.trans singleTuned.single
      tuned := by
        refine ⟨_, ?_, tunes.update names⟩
        exact writeUpdate_tuning environment world _ _ _ tuned
          (writeUpdate_succeeds (setters.succeeds world (by decide)) _ _ _) }

/-- Stopping the stream, if need be, and applying an update in order. -/
theorem stopAndApplyUpdate_singleTuned
    {world : World} {descriptor : Int} {request : UInt32 × UpdateRequest}
    (setters : environment.SettersSucceed)
    (singleTuned : world.SingleTuned descriptor)
    (inOrder : UpdateInOrder environment world request) :
    (stopAndApplyUpdate environment world request.2).1 ≠ .ioError ∧
      (stopAndApplyUpdate environment world request.2).2.SingleTuned descriptor ∧
      ((stopAndApplyUpdate environment world request.2).1 = .ok →
        (stopAndApplyUpdate environment world request.2).2.daemon.config = request.2.config) := by
  have applied (before : World) (tuned : before.SingleTuned descriptor)
      (names : request.2.NamesChanges before.daemon.config) :
      (applyUpdate environment before request.2).1 ≠ .ioError ∧
        (applyUpdate environment before request.2).2.SingleTuned descriptor ∧
        ((applyUpdate environment before request.2).1 = .ok →
          (applyUpdate environment before request.2).2.daemon.config = request.2.config) := by
    rcases applyUpdate_single environment setters before tuned.single
        request.2 with refused | accepted
    · rw [refused]
      exact ⟨by simp, tuned, by simp⟩
    · rw [accepted]
      exact ⟨by simp, tuned.update environment names setters, fun _ => rfl⟩
  have stopped := stopStream_streamOnly environment world
  simp only [stopAndApplyUpdate]
  split_ifs with restarts failed
  · have started : world.daemon.streamThreadStarted = true := by
      simp only [restartForSampleRate, Bool.and_eq_true] at restarts
      exact restarts.1.1
    exact absurd
      ((stopStream_ok_iff environment world started
        singleTuned.isSome).mpr (inOrder.stops restarts)) failed
  · refine applied _ (singleTuned.streamOnly stopped) ?_
    rw [show (stopStream environment world).2.daemon.config =
      world.daemon.config from congrArg Ledger.config stopped.ledger]
    exact inOrder.names
  · exact applied world singleTuned inOrder.names

theorem serveUpdate_singleTuned
    {world : World} {descriptor : Int} {request : UInt32 × UpdateRequest}
    (setters : environment.SettersSucceed)
    (singleTuned : world.SingleTuned descriptor)
    (inOrder : UpdateInOrder environment world request) :
    (serveUpdate environment world descriptor
        request.2).world.SingleTuned descriptor ∧
      ((serveUpdate environment world descriptor request.2).status = .ok →
        (serveUpdate environment world descriptor
          request.2).world.daemon.config = request.2.config) := by
  have applied := stopAndApplyUpdate_singleTuned environment setters singleTuned inOrder
  have noRecovery : ¬ (world.daemon.radio = none ∨ world.daemon.configured = false ∨
        world.daemon.streamError = true) := by
    have isSome := singleTuned.isSome
    rintro (closed | unconfigured | failed)
    · simp [closed] at isSome
    · simp [singleTuned.configured] at unconfigured
    · simp [inOrder.noError] at failed
  simp only [serveUpdate, singleTuned.owner, if_true, if_neg noRecovery, applied.1, if_false]
  split_ifs
  · exact ⟨singleTuned, by simp⟩
  · exact applied.2

/-! ## Every run -/

/-- One update in order keeps the registers at the stored tuning. -/
theorem updateStep_singleTuned (setters : environment.SettersSucceed) (descriptor : Int)
    (world : World) (request : UInt32 × UpdateRequest)
    (inOrder : UpdateInOrder environment world request)
    (singleTuned : world.SingleTuned descriptor) :
    (updateStep environment descriptor world request).SingleTuned
      descriptor :=
  (serveUpdate_singleTuned environment setters singleTuned
    inOrder).1.restreamed (respond_restreamed environment _ _ _ _)

/-- An accepted configuration tunes the registers. -/
theorem serveConfigure_singleTuned
    {world : World} {descriptor : Int} {config : RadioConfig}
    (accepted : (serveConfigure environment world descriptor config).status = .ok) :
    (serveConfigure environment world descriptor config).world.SingleTuned descriptor := by
  have unrecognised :
      (serveUnrecognised world descriptor).status ≠ .ok := by
    simp only [serveUnrecognised, Handled.reply_status]
    split <;> simp
  simp only [serveConfigure] at accepted ⊢
  split_ifs at accepted ⊢ with owns succeeds
  · obtain ⟨-, tuned, single⟩ := configureRadio_ok environment world config 3 succeeds
    have ledger := configureRadio_ledger environment world config 3
    exact
      { owner := (congrArg Ledger.owner ledger).trans owns
        configured := rfl
        single := single
        tuned := ⟨_, tuned, tunesAs_of config⟩ }
  · exact absurd accepted succeeds
  · exact absurd accepted unrecognised

/-- After an accepted configuration, every update served in order and
answered OK has written what it flags. -/
theorem flagged_tuning_written_of_changes_named (setters : environment.SettersSucceed)
    (world : World) (descriptor : Int) (sequence : UInt32)
    (config : RadioConfig)
    (accepted : (dispatch environment world descriptor (.configure config)).status = .ok)
    (requests : List (UInt32 × UpdateRequest))
    (inOrder : StepsMeet (updateStep environment descriptor)
        (UpdateInOrder environment)
        (serveRequest environment world descriptor
          (.request sequence (.configure config))).2 requests) :
    ∀ earlier request later, requests = earlier ++ request :: later →
      let reached :=
        runSteps (updateStep environment descriptor)
          (serveRequest environment world descriptor
            (.request sequence (.configure config))).2 earlier
      (dispatch environment reached descriptor
          (.update request.2)).status = .ok →
        FlaggedTuningWritten request.2 (updateStep environment descriptor reached request) := by
  rintro earlier request later rfl reached answered
  have configured : (serveRequest environment world descriptor
        (.request sequence (.configure config))).2.SingleTuned descriptor :=
    (serveConfigure_singleTuned environment accepted).restreamed
      (respond_restreamed environment _ _ _ _)
  have singleTuned : reached.SingleTuned descriptor := invariant_of_stepsMeet
      (updateStep_singleTuned environment setters descriptor)
      inOrder.append_left configured
  have served := serveUpdate_singleTuned environment setters singleTuned inOrder.allowed_at
  have stepped := served.1.restreamed
      (respond_restreamed environment descriptor request.1
        (.update request.2)
        (serveUpdate environment reached descriptor request.2))
  obtain ⟨registers, tuned, tunes⟩ := stepped.tuned
  have stored : (updateStep environment descriptor reached request).daemon.config =
        request.2.config :=
    (congrArg Ledger.config
      (respond_restreamed environment descriptor request.1
        (.update request.2)
        (serveUpdate environment reached descriptor request.2)).ledger).trans (served.2 answered)
  exact (stored ▸ tunes).flaggedTuningWritten (World.tuned_of_tuning tuned)

end Updates

/-- An update to 200 MHz under the given flags. -/
def retune (flags : UInt32) : UpdateRequest :=
  ⟨flags, { sampleConfig with centerFrequencyHz := 200000000 }⟩

/-- The receiver configured for client 5. -/
def sampleConfigured : World :=
  (serveRequest oneReceiver (Server.acquired oneReceiver).world 5
    (.request 2 (.configure sampleConfig))).2

theorem flagged_tuning_written_after_retune : FlaggedTuningWritten (retune changeRf)
      (updateStep oneReceiver 5 sampleConfigured (3, retune changeRf)) :=
  flagged_tuning_written_of_changes_named oneReceiver (fun _ _ _ => rfl)
    (Server.acquired oneReceiver).world 5 2 sampleConfig (by decide)
    [(3, retune changeRf)]
    ⟨{ noError := by decide
       names := by constructor <;> decide
       stops := by decide }, trivial⟩
    [] (3, retune changeRf) [] rfl (by decide)

/-- A gain update that carries a new frequency stores it, and the update that
flags the frequency then finds it stored: both are answered OK and the
hardware stays at 100 MHz. -/
theorem flagged_frequency_not_written :
    let gained :=
      updateStep oneReceiver 5 sampleConfigured (3, retune changeGain)
    oneReceiver.SettersSucceed ∧ (dispatch oneReceiver (Server.acquired oneReceiver).world 5
        (.configure sampleConfig)).status = .ok ∧
      (dispatch oneReceiver gained 5 (.update (retune changeRf))).status = .ok ∧
      (updateStep oneReceiver 5 gained (4, retune changeRf)).tuned.map
        ChannelRegisters.centerFrequency = some (some 100000000) ∧
      ¬ FlaggedTuningWritten (retune changeRf)
        (updateStep oneReceiver 5 gained (4, retune changeRf)) := by
  refine ⟨fun _ _ _ => rfl, by decide, by decide, by decide, ?_⟩
  intro written
  exact absurd (written.centerFrequency (by decide)) (by decide)

end OpenRsp
