import OpenRsp.Daemon.DuoTuning
import OpenRsp.Daemon.HandleModel
import OpenRsp.Daemon.OwnershipRuns
import OpenRsp.Daemon.StreamFrames

/-!
# The daemon moves its handle

Every step of the server is a sequence of moves of the abstract handle.  The
step conditions say what a policy asks of a step: for a reused handle and a
queued update a condition on the request, for a handle that must not be lost
a condition on what the hardware does.
-/

namespace OpenRsp

open Runs

/-! ## The view of a daemon -/

/-- What the daemon knows of its handle. -/
def handleOf (ledger : Ledger) (receiver : Receiver) : HandleView where
  tuner := receiver.radio.map Radio.tuner
  configured := receiver.configured
  dualMode := receiver.dualMode
  dualConfig := receiver.dualConfig
  config := ledger.config
  bootstrapConfigured := ledger.bootstrapConfigured
  bootstrapConfig := ledger.bootstrapConfig

def World.handle (world : World) : HandleView :=
  handleOf world.daemon.toLedger world.daemon.toReceiver

section Frames

variable {before after : World}

theorem handle_of_frames (ledger : after.daemon.toLedger = before.daemon.toLedger)
    (receiver : after.daemon.toReceiver = before.daemon.toReceiver) :
    after.handle = before.handle :=
  congrArg₂ handleOf ledger receiver

theorem InventoryOnly.handle_eq (frame : InventoryOnly before after) :
    after.handle = before.handle :=
  handle_of_frames frame.ledger frame.receiver

theorem StreamOnly.handle_eq (frame : StreamOnly before after) :
    after.handle = before.handle :=
  handle_of_frames frame.ledger frame.receiver

theorem ReportsOnly.handle_eq (frame : ReportsOnly before after) :
    after.handle = before.handle :=
  handle_of_frames frame.ledger frame.receiver

theorem Restreamed.handle_eq (frame : Restreamed before.daemon after.daemon) :
    after.handle = before.handle := by
  have ledger := frame.ledger
  have config := congrArg Ledger.config ledger
  have bootstrapConfigured := congrArg Ledger.bootstrapConfigured ledger
  have bootstrapConfig := congrArg Ledger.bootstrapConfig ledger
  simp only [World.handle, handleOf, frame.receiver]
  simp_all

/-- The view of a world whose ledger stayed, from its handle and mode. -/
theorem handle_of_mode
    {tuner : Option UInt32} {configured dualMode : Bool}
    {dualConfig : DualConfig}
    (ledger : after.daemon.toLedger = before.daemon.toLedger)
    (radio : after.daemon.radio.map Radio.tuner = tuner)
    (mode : after.daemon.mode = (configured, dualMode, dualConfig)) :
    after.handle =
      { before.handle with
        tuner := tuner
        configured := configured
        dualMode := dualMode
        dualConfig := dualConfig } := by
  simp only [Receiver.mode, Prod.mk.injEq] at mode
  obtain ⟨sameConfigured, sameDual, sameConfig⟩ := mode
  simp only [World.handle, handleOf, ledger, radio, sameConfigured, sameDual, sameConfig]

theorem RegistersOnly.handle_eq (frame : RegistersOnly before after) :
    after.handle = before.handle := by
  have tuner :
      after.daemon.radio.map Radio.tuner = before.daemon.radio.map Radio.tuner := by
    have tuners := congrArg (Option.map fun key => key.2.2) frame.handle
    rw [Option.map_map, Option.map_map] at tuners
    exact tuners
  have mode : after.daemon.mode = before.daemon.mode := by
    simp only [Receiver.mode, frame.configured, frame.dualMode, frame.dualConfig]
  exact handle_of_mode frame.ledger tuner mode

theorem handle_tuner_isSome (world : World) :
    world.handle.tuner.isSome = world.daemon.radio.isSome := by
  simp [World.handle, handleOf]

theorem handle_tuner_eq_none {world : World} :
    world.handle.tuner = none ↔ world.daemon.radio = none := by
  simp [World.handle, handleOf]

end Frames

/-! ## Opening, closing and configuring -/

section Configuring

variable (environment : Environment) (world : World)

theorem closeRadio_handle : (closeRadio environment world).2.handle =
      { world.handle with tuner := none } :=
  handle_of_mode (closeRadio_ledger environment world)
    (by rw [closeRadio_radio]; rfl) (closeRadio_mode environment world)

/-- A run of attempts that succeeds ends with the handle it began with or
one for its own tuner; one that fails ends without a handle. -/
theorem configureAttempts_handle (config : RadioConfig) (remaining : Nat) :
    ((configureAttempts environment config (remaining + 1) world).1 = .ok ∧ ∃ tuner,
          (tuner = config.tuner ∨ world.handle.tuner = some tuner) ∧
          (configureAttempts environment config (remaining + 1)
              world).2.handle =
            { world.handle with
              tuner := some tuner
              dualMode := false }) ∨
      ((configureAttempts environment config (remaining + 1) world).1 ≠
          .ok ∧
        (configureAttempts environment config (remaining + 1)
            world).2.handle = { world.handle with tuner := none }) := by
  have ledger := (ledgerFrame environment).configureAttempts world config (remaining + 1)
  have mode := configureAttempts_mode environment world config (remaining + 1)
  by_cases succeeds : (configureAttempts environment config (remaining + 1) world).1 = .ok
  · rw [singleModeAfter, if_pos succeeds] at mode
    have tuned := (configureAttempts_ok environment world config _ succeeds).1
    obtain ⟨radio, isOpen, -⟩ := Option.map_eq_some_iff.mp tuned
    have before : world.OpenWithin fun tuner _ =>
          tuner = config.tuner ∨ world.handle.tuner = some tuner := by
      intro radio isOpen
      exact .inr (by simp [World.handle, handleOf, isOpen])
    have within := configureAttempts_openWithin environment world (remaining + 1) (.inl rfl) before
    refine .inl ⟨succeeds, radio.tuner, within radio isOpen, ?_⟩
    exact handle_of_mode ledger (by rw [isOpen]; rfl) mode
  · rw [singleModeAfter, if_neg succeeds] at mode
    have closed := configureAttempts_failed environment world config (remaining + 1)
        (.inl (Nat.succ_ne_zero _)) succeeds
    exact .inr ⟨succeeds, handle_of_mode ledger (by rw [closed]; rfl) mode⟩

/-- What a single-tuner configuration does to the handle.  One that fails
after a valid request loses it, and forgets that the receiver was configured
only when it had to give up a handle for both tuners. -/
theorem configureRadio_handle (config : RadioConfig) :
    ((configureRadio environment world config 3).1 = .ok ∧
        openrspdConfigValid config = true ∧
        ∃ tuner configured, world.handle.Offers tuner config ∧
          (configureRadio environment world config 3).2.handle =
            { world.handle with
              tuner := some tuner
              configured := configured
              dualMode := false }) ∨
      ((configureRadio environment world config 3).1 ≠ .ok ∧
        ((configureRadio environment world config 3).2.handle =
            world.handle ∨
          openrspdConfigValid config = true ∧
          ∃ configured, (configured = false ∨
              configured = world.handle.configured ∧ (world.daemon.dualMode = true →
                  world.daemon.radio.isSome = true →
                  world.result environment .close = minusEbusy)) ∧
            (configureRadio environment world config 3).2.handle =
              { world.handle with
                tuner := none
                configured := configured })) := by
  have closed := closeRadio_handle environment world
  simp only [configureRadio]
  split_ifs with invalid dual busy
  · exact .inr ⟨by simp, .inl rfl⟩
  · have failed : world.result environment .close = minusEbusy := by
      have isOpen : world.daemon.radio ≠ none := by
        intro shut
        simp [shut] at dual
      simpa [closeRadio, isOpen] using busy
    exact .inr ⟨by simp, .inr ⟨by simpa using invalid, _, .inr ⟨rfl, fun _ _ => failed⟩, closed⟩⟩
  · have forgotten : ((closeRadio environment world).2.modify fun daemon =>
          { daemon with configured := false }).handle =
          { world.handle with tuner := none, configured := false } :=
      congrArg (fun view => { view with configured := false }) closed
    rcases configureAttempts_handle environment
        ((closeRadio environment world).2.modify fun daemon =>
          { daemon with configured := false }) config 2 with
      ⟨succeeds, tuner, fits, after⟩ | ⟨failed, after⟩
    · rw [forgotten] at fits after
      have own : tuner = config.tuner := by simpa using fits
      exact .inl ⟨succeeds, by simpa using invalid, tuner, false, .inl own, after⟩
    · rw [forgotten] at after
      exact .inr ⟨failed, .inr ⟨by simpa using invalid, false, .inl rfl, after⟩⟩
  · rcases configureAttempts_handle environment world config 2 with
      ⟨succeeds, tuner, fits, after⟩ | ⟨failed, after⟩
    · refine .inl ⟨succeeds, by simpa using invalid, tuner, _,
        fits.imp id fun isOpen => ⟨?_, isOpen⟩, after⟩
      have isSome : world.daemon.radio.isSome = true := by
        rw [← handle_tuner_isSome, isOpen]
        rfl
      have single : world.daemon.dualMode = false := by
        simpa [isSome] using dual
      exact single
    · exact .inr ⟨failed, .inr ⟨by simpa using invalid, _,
        .inr ⟨rfl, fun isDual isSome => absurd ⟨isDual, isSome⟩ dual⟩,
        after⟩⟩

theorem openForDual_openWithin {allowed : UInt32 → ControlRegisters → Prop}
    (own : allowed tunerBoth .opened) (within : world.OpenWithin allowed) :
    (openForDual environment world).2.OpenWithin allowed := by
  have resolved := resolveAcquiredDevice_inventoryOnly environment world
  have sameRadio := congrArg Receiver.radio resolved.receiver
  intro radio found
  simp only [openForDual] at found
  split at found
  · exact within radio found
  · split at found
    · exact within radio (sameRadio ▸ found)
    · simp only [mirisdrOpenTuner, World.modify_daemon, written] at found
      split at found
      · cases found
        exact own
      · cases found

/-- A handle for both tuners is opened when there is none. -/
theorem openForDual_handle : ((openForDual environment world).1 = true ∧
        ∃ tuner,
          (tuner = tunerBoth ∨ world.handle.tuner = some tuner) ∧
          (openForDual environment world).2.handle =
            { world.handle with tuner := some tuner }) ∨
      ((openForDual environment world).1 = false ∧ (openForDual environment world).2.handle =
          { world.handle with tuner := none }) := by
  have ledger := (ledgerFrame environment).openForDual world
  have mode := openForDual_mode environment world
  by_cases succeeds : (openForDual environment world).1 = true
  · have isOpen := (openForDual_isSome environment world).mp succeeds
    obtain ⟨radio, found⟩ := Option.isSome_iff_exists.mp isOpen
    have before : world.OpenWithin fun tuner _ =>
          tuner = tunerBoth ∨ world.handle.tuner = some tuner := by
      intro radio isOpen
      exact .inr (by simp [World.handle, handleOf, isOpen])
    exact .inl ⟨succeeds, radio.tuner,
      openForDual_openWithin environment world (.inl rfl) before radio found,
      handle_of_mode ledger (by rw [found]; rfl) mode⟩
  · have shut : (openForDual environment world).2.daemon.radio = none := by
      simpa using mt (openForDual_isSome environment world).mpr succeeds
    exact .inr ⟨by simpa using succeeds, handle_of_mode ledger (by rw [shut]; rfl) mode⟩

/-- What a dual configuration does to a handle for both tuners. -/
theorem configureDualHandle_handle (config : DualConfig) :
    ((configureDualHandle environment world config).1 = .ok ∧ ∃ tuner,
          (tuner = tunerBoth ∨ world.handle.tuner = some tuner) ∧
          (configureDualHandle environment world config).2.handle =
            { world.handle with
              tuner := some tuner
              configured := true
              dualMode := true
              dualConfig := config }) ∨
      ((configureDualHandle environment world config).1 ≠ .ok ∧
        (configureDualHandle environment world config).2.handle =
          { world.handle with tuner := none }) := by
  have written :=
    (writeDual_registersOnly environment (openForDual environment world).2 config).handle_eq
  have closed :=
    closeRadio_handle environment (writeDual environment (openForDual environment world).2 config).2
  rcases openForDual_handle environment world with
    ⟨succeeds, tuner, fits, opened⟩ | ⟨failed, shut⟩
  · rw [opened] at written
    rw [written] at closed
    simp only [configureDualHandle, succeeds, Bool.true_eq_false, if_false]
    split_ifs
    · exact .inr ⟨by simp, closed⟩
    · refine .inl ⟨rfl, tuner, fits, ?_⟩
      exact congrArg
        (fun view : HandleView =>
          { view with
            configured := true
            dualMode := true
            dualConfig := config }) written
  · simp only [configureDualHandle, failed, if_true]
    exact .inr ⟨by simp, shut⟩

/-- What a dual configuration does to the handle. -/
theorem configureDualRadio_handle (config : DualConfig) :
    ((configureDualRadio environment world config).1 = .ok ∧
        validDualConfig config = true ∧
        ∃ tuner, world.handle.OffersDual tuner ∧
          (configureDualRadio environment world config).2.handle =
            { world.handle with
              tuner := some tuner
              configured := true
              dualMode := true
              dualConfig := config }) ∨
      ((configureDualRadio environment world config).1 ≠ .ok ∧
        ((configureDualRadio environment world config).2.handle =
            world.handle ∨
          validDualConfig config = true ∧
          ∃ configured, (configured = false ∨
              configured = world.handle.configured ∧ (world.daemon.dualMode = false →
                  world.daemon.radio.isSome = true →
                  world.result environment .close = minusEbusy)) ∧
            (configureDualRadio environment world config).2.handle =
              { world.handle with
                tuner := none
                configured := configured })) := by
  have closed := closeRadio_handle environment world
  simp only [configureDualRadio]
  split_ifs with invalid single busy
  · exact .inr ⟨by simp, .inl rfl⟩
  · have failed : world.result environment .close = minusEbusy := by
      have isOpen : world.daemon.radio ≠ none := by
        intro shut
        simp [shut] at single
      simpa [closeRadio, isOpen] using busy
    exact .inr ⟨by simp, .inr ⟨by simpa using invalid, _, .inr ⟨rfl, fun _ _ => failed⟩, closed⟩⟩
  · have forgotten : ((closeRadio environment world).2.modify fun daemon =>
          { daemon with configured := false }).handle =
          { world.handle with tuner := none, configured := false } :=
      congrArg (fun view => { view with configured := false }) closed
    rcases configureDualHandle_handle environment
        ((closeRadio environment world).2.modify fun daemon =>
          { daemon with configured := false }) config with
      ⟨succeeds, tuner, fits, after⟩ | ⟨failed, after⟩
    · rw [forgotten] at fits after
      have both : tuner = tunerBoth := by simpa using fits
      exact .inl ⟨succeeds, by simpa using invalid, tuner, .inl both, after⟩
    · rw [forgotten] at after
      exact .inr ⟨failed, .inr ⟨by simpa using invalid, false, .inl rfl, after⟩⟩
  · rcases configureDualHandle_handle environment world config with
      ⟨succeeds, tuner, fits, after⟩ | ⟨failed, after⟩
    · refine .inl ⟨succeeds, by simpa using invalid, tuner,
        fits.imp id fun isOpen => ⟨?_, isOpen⟩, after⟩
      have isSome : world.daemon.radio.isSome = true := by
        rw [← handle_tuner_isSome, isOpen]
        rfl
      have dual : world.daemon.dualMode = true := by
        simpa [isSome] using single
      exact dual
    · exact .inr ⟨failed, .inr ⟨by simpa using invalid, _,
        .inr ⟨rfl, fun isSingle isSome => absurd ⟨isSingle, isSome⟩ single⟩,
        after⟩⟩

/-- Stopping for a swap keeps the handle when the stop fails, and gives it up
otherwise. -/
theorem stopAndClose_handle : (stopStream environment world).1 ≠ 0 ∧
        (stopAndClose environment world).1 = false ∧
        (stopAndClose environment world).2.handle = world.handle ∨
      (stopStream environment world).1 = 0 ∧ (stopAndClose environment world).2.handle =
          { world.handle with tuner := none } := by
  have stopped := (stopStream_streamOnly environment world).handle_eq
  simp only [stopAndClose]
  split_ifs with failed
  · exact .inl ⟨failed, rfl, stopped⟩
  · refine .inr ⟨by simpa using failed, ?_⟩
    rw [closeRadio_handle, stopped]

/-! ### Hardware that obeys -/

theorem World.result_of_used {before after : World} {call : Call}
    (same : after.used call = before.used call) :
    after.result environment call = before.result environment call := by
  simp only [World.result, same]

theorem streamThreadEnds_used
    {call : Call} (notRead : call ≠ .readAsync) :
    (streamThreadEnds environment world).used call = world.used call := by
  unfold streamThreadEnds
  split
  · rfl
  · exact World.advance_used_of_ne world notRead

/-- Closing makes no other call than the close and the reader's last one. -/
theorem closeRadio_used
    {call : Call} (notClose : call ≠ .close) (notRead : call ≠ .readAsync) :
    (closeRadio environment world).2.used call = world.used call := by
  have closed : (world.advance .close).used call = world.used call :=
    World.advance_used_of_ne world notClose
  simp only [closeRadio]
  split_ifs
  · rfl
  · exact closed
  · exact (streamThreadEnds_used environment _ notRead).trans closed

theorem stopAndClose_used
    {call : Call} (notStop : call ≠ .streamingStop)
    (notClose : call ≠ .close) (notRead : call ≠ .readAsync) :
    (stopAndClose environment world).2.used call = world.used call := by
  have stopped := (stopStream_streamOnly environment world).used call notStop notRead
  simp only [stopAndClose]
  split_ifs
  · exact stopped
  · exact (closeRadio_used environment _ notClose notRead).trans stopped

/-- A reused handle takes the configuration when the write succeeds. -/
theorem configureRadio_ok_of_open (config : RadioConfig) (valid : openrspdConfigValid config = true)
    (single : world.daemon.dualMode = false)
    (isOpen : world.daemon.radio.isSome = true)
    (writes : world.result environment .configureRspduo = 0) :
    (configureRadio environment world config 3).1 = .ok := by
  simp [configureRadio, valid, single, configureAttempts, openForAttempt,
    isOpen, applyIfOpen, applyConfig, mirisdrConfigureRspduo, driverCall,
    writes]

/-- So does a new one, when the receiver is found and opens. -/
theorem configureRadio_ok_of_found (config : RadioConfig)
    (valid : openrspdConfigValid config = true)
    (closed : world.daemon.radio = none)
    {index : UInt32}
    (found : (resolveAcquiredDevice environment world).1 = .ok index)
    (opens : world.result environment .openTuner = 0)
    (writes : world.result environment .configureRspduo = 0) :
    (configureRadio environment world config 3).1 = .ok := by
  have frame := resolveAcquiredDevice_inventoryOnly environment world
  have opened :
      (resolveAcquiredDevice environment world).2.result environment .openTuner = 0 :=
    (frame.result environment (by decide)).trans opens
  have written : ((resolveAcquiredDevice environment world).2.advance .openTuner).result
        environment .configureRspduo = 0 :=
    (World.result_advance_of_ne environment _ (by decide)).trans
      ((frame.result environment (by decide)).trans writes)
  simp [configureRadio, valid, closed, configureAttempts, openForAttempt,
    found, applyIfOpen, applyConfig, mirisdrOpenTuner, opened, OpenRsp.written,
    mirisdrConfigureRspduo, driverCall, written]

/-- The next configuration of both tuners and the two control writes after
it succeed. -/
structure World.WritesDual : Prop where
  registers : world.result environment .configureRspduoDual = 0
  controls :
    ∀ use < 2, environment.results .setRspduoControls (world.used .setRspduoControls + use) = 0

theorem setRspduoControls_step (config : RadioConfig) (flags : UInt32)
    (succeeds : world.result environment .setRspduoControls = 0) :
    (setRspduoControls environment world config flags).1 = 0 ∧ ∃ use < 2,
        (setRspduoControls environment world config flags).2.used
            .setRspduoControls =
          world.used .setRspduoControls + use := by
  unfold setRspduoControls
  split_ifs
  · exact ⟨rfl, 0, by decide, rfl⟩
  · refine ⟨succeeds, 1, by decide, ?_⟩
    simp [mirisdrSetRspduoControls, driverCall, World.advance]

variable {world}

theorem World.WritesDual.writes (obeys : world.WritesDual environment) (config : DualConfig) :
    (writeDual environment world config).1 = 0 := by
  have registers : (mirisdrConfigureRspduoDual environment world config).1 = 0 := obeys.registers
  have same : (mirisdrConfigureRspduoDual environment world config).2.used
          .setRspduoControls = world.used .setRspduoControls := by
    simp [mirisdrConfigureRspduoDual, driverCall]
  obtain ⟨first, use, bound, counted⟩ := setRspduoControls_step environment
      (mirisdrConfigureRspduoDual environment world config).2 config.channelA
      changeRspduoControls (by
        simpa [World.result, same] using obeys.controls 0 (by decide))
  obtain ⟨second, -⟩ := setRspduoControls_step environment
      (setRspduoControls environment
        (mirisdrConfigureRspduoDual environment world config).2
        config.channelA changeRspduoControls).2 config.channelB
      changeRspduoControls (by
        simpa [World.result, counted, same] using obeys.controls use bound)
  simp only [writeDual, registers, ne_eq, not_true_eq_false, if_false, first, second]

/-- What the two control writes need depends on how often each call was
used. -/
theorem World.WritesDual.congr {after : World} (obeys : world.WritesDual environment)
    (registers : after.used .configureRspduoDual = world.used .configureRspduoDual)
    (controls : after.used .setRspduoControls = world.used .setRspduoControls) :
    after.WritesDual environment where
  registers := by
    simpa [World.result, registers] using obeys.registers
  controls := by
    rw [controls]
    exact obeys.controls

theorem configureDualRadio_ok_of_open (config : DualConfig) (valid : validDualConfig config = true)
    (dual : world.daemon.dualMode = true)
    (isOpen : world.daemon.radio.isSome = true)
    (writes : world.WritesDual environment) :
    (configureDualRadio environment world config).1 = .ok := by
  simp [configureDualRadio, valid, dual, configureDualHandle, openForDual,
    isOpen, writes.writes environment config]

theorem configureDualRadio_ok_of_found (config : DualConfig) (valid : validDualConfig config = true)
    (closed : world.daemon.radio = none)
    {index : UInt32}
    (found : (resolveAcquiredDevice environment world).1 = .ok index)
    (opens : world.result environment .openTuner = 0)
    (writes : world.WritesDual environment) :
    (configureDualRadio environment world config).1 = .ok := by
  have frame := resolveAcquiredDevice_inventoryOnly environment world
  have opened :
      (resolveAcquiredDevice environment world).2.result environment .openTuner = 0 :=
    (frame.result environment (by decide)).trans opens
  have same {call : Call} (notOpen : call ≠ .openTuner)
      (notCold : call ≠ .coldOpen) :
      (mirisdrOpenTuner environment
        (resolveAcquiredDevice environment world).2 index
        tunerBoth).2.used call = world.used call :=
    (World.advance_used_of_ne _ notOpen).trans (frame.used call notCold)
  have written : (writeDual environment
        (mirisdrOpenTuner environment (resolveAcquiredDevice environment world).2 index tunerBoth).2
        config).1 = 0 :=
    (writes.congr environment (same (by decide) (by decide))
      (same (by decide) (by decide))).writes environment config
  have succeeds : (mirisdrOpenTuner environment
        (resolveAcquiredDevice environment world).2 index tunerBoth).1 = 0 :=
    opened
  simp [configureDualRadio, valid, closed, configureDualHandle, openForDual,
    found, succeeds, written]

end Configuring

/-! ## What a policy asks of a step -/

section Compliance

variable (policy : HandlePolicy) (environment : Environment) (world : World)

/-- A valid single-tuner configuration does not lose the handle of a
configured receiver: a handle for both tuners can be closed, and one that is
reused takes the first write. -/
structure World.HoldsSingle : Prop where
  closes : world.daemon.dualMode = true → world.daemon.radio.isSome = true →
      world.result environment .close ≠ minusEbusy
  writes : world.daemon.dualMode = false → world.daemon.configured = true →
      world.result environment .configureRspduo = 0

/-- The same for a dual configuration. -/
structure World.HoldsDual : Prop where
  closes : world.daemon.dualMode = false → world.daemon.radio.isSome = true →
      world.result environment .close ≠ minusEbusy
  writes :
    world.daemon.dualMode = true → world.daemon.configured = true → world.WritesDual environment

/-- The first writes of a configuration succeed. -/
def World.Writes (dual : Bool) : Prop :=
  if dual then world.WritesDual environment
  else world.result environment .configureRspduo = 0

/-- A swap gets another handle for the one it gives up: the close succeeds,
the acquired receiver is found, opens and takes the configuration. -/
structure World.Reopens (dual : Bool) : Prop where
  closes : world.result environment .close = 0
  found :
    ∃ index, (resolveAcquiredDevice environment (stopAndClose environment world).2).1 = .ok index
  opens : world.result environment .openTuner = 0
  writes : world.Writes environment dual

/-- A swap does not lose the handle: it gets another one, and when it cannot
stop the stream the handle it kept takes the old configuration again. -/
structure World.HoldsSwap (dual : Bool) : Prop where
  reopens : (stopStream environment world).1 = 0 → world.Reopens environment dual
  restores : (stopStream environment world).1 ≠ 0 → world.Writes environment world.daemon.dualMode

/-- An update may be stored without being written: there is nothing to write
it to, both tuners run, or the stream cannot be stopped for a new rate. -/
def World.MayQueue (update : UpdateRequest) : Prop :=
  world.daemon.radio = none ∨ world.daemon.configured = false ∨
    world.daemon.streamError = true ∨ world.daemon.dualMode = true ∨
    restartForSampleRate world.daemon update = true ∧ (stopStream environment world).1 ≠ 0

/-- What a policy asks of a request. -/
def Command.Complies (descriptor : Int) : Command → Prop
  | .configure config =>
      world.daemon.owner = descriptor → openrspdConfigValid config = true →
          (∀ radio, world.daemon.radio = some radio →
            world.daemon.dualMode = false →
            policy.reuses radio.tuner config) ∧
            (policy.loses ∨ world.HoldsSingle environment)
  | .configureDual config =>
      world.daemon.owner = descriptor → validDualConfig config = true →
        policy.loses ∨ world.HoldsDual environment
  | .swapTuner swap =>
      world.daemon.owner = descriptor → world.daemon.configured = true →
        world.daemon.dualMode = false →
          openrspdConfigValid swap.config = true → policy.loses ∨ world.HoldsSwap environment false
  | .swapMode swap =>
      world.daemon.owner = descriptor → world.daemon.configured = true →
        validModeTarget swap = true →
          policy.loses ∨ world.HoldsSwap environment (decide (swap.mode = modeDual))
  | .update request =>
      world.daemon.owner = descriptor → openrspdConfigValid request.config = true →
          world.MayQueue environment request → policy.queues world.handle request.config
  | .duoStart =>
      duoRoleDescriptor world.daemon descriptor = .master →
        (openrspdDuoInitialise world.daemon.duo descriptor).result = .ok →
          policy.loses ∨ world.HoldsDual environment
  | _ => True

/-- What a policy asks of a recovery. -/
def World.RecoveryComplies : Prop :=
  world.daemon.streamError = true → world.daemon.streaming = false → policy.loses ∨
      world.result environment .close ≠ minusEbusy ∧
        (world.daemon.dualMode = false → world.result environment .threadCreate = 0)

/-- What a policy asks of a step. -/
def Step.Complies (server : Server) : Step → Prop
  | .serve slot (.request _ command) =>
      command.Complies policy environment server.world (server.clients.getD slot invalidSocket)
  | .recover => server.world.RecoveryComplies policy environment
  | _ => True

end Compliance

/-! ## Requests -/

section Requests

variable {policy : HandlePolicy} (environment : Environment) {world : World}
variable (descriptor : Int)

/-- A handle that is given up: the receiver is no longer configured, or was
not, or had no handle, or the policy lets it be lost. -/
theorem HandleMoves.closed {view : HandleView} {configured : Bool} (forgets : configured = false ∨
        configured = view.configured ∧
          (view.configured = true → view.tuner.isSome = true → policy.loses)) :
    HandleMoves policy view
      { view with tuner := none, configured := configured } := by
  rcases forgets with rfl | ⟨rfl, loses⟩
  · exact .of_move (.close view false view.dualMode (.inl rfl) (.inr rfl))
  by_cases configured : view.configured = true
  · by_cases isOpen : view.tuner.isSome = true
    · exact .of_move (.close view _ view.dualMode (.inr ⟨rfl, loses configured isOpen⟩) (.inr rfl))
    · have shut : view.tuner = none := by simpa using isOpen
      refine .of_eq ?_
      rw [← shut]
  · have forgotten : view.configured = false := by simpa using configured
    exact .of_move (.close view _ view.dualMode (.inl forgotten) (.inr rfl))

/-- A configuration that failed although the policy asked the hardware to
obey. -/
theorem configureRadio_moves (config : RadioConfig)
    (complies : openrspdConfigValid config = true → policy.loses ∨ world.HoldsSingle environment)
    (failed : (configureRadio environment world config 3).1 ≠ .ok) :
    HandleMoves policy world.handle (configureRadio environment world config 3).2.handle := by
  rcases configureRadio_handle environment world config with
    ⟨succeeds, -⟩ | ⟨-, same | ⟨valid, configured, forgets, after⟩⟩
  · exact absurd succeeds failed
  · exact .of_eq same
  rw [after]
  refine .closed (forgets.imp id fun kept =>
    ⟨kept.1, fun isConfigured isSome => ?_⟩)
  rw [handle_tuner_isSome] at isSome
  rcases complies valid with loses | holds
  · exact loses
  cases mode : world.daemon.dualMode with
  | true => exact absurd (kept.2 mode isSome) (holds.closes mode isSome)
  | false =>
      exact absurd
        (configureRadio_ok_of_open environment world config valid mode isSome
          (holds.writes mode isConfigured)) failed

theorem serveConfigure_moves (config : RadioConfig)
    (complies : (Command.configure config).Complies policy environment world descriptor) :
    HandleMoves policy world.handle
      (serveConfigure environment world descriptor config).world.handle := by
  simp only [serveConfigure]
  split_ifs with owned accepted
  · rcases configureRadio_handle environment world config with
      ⟨-, valid, tuner, configured, offers, after⟩ | ⟨failed, -⟩
    · have stored : ((configureRadio environment world config 3).2.modify
            (storeSingleConfig · config)).handle =
            { world.handle with
              tuner := some tuner
              configured := true
              dualMode := false
              config := config
              bootstrapConfigured := true
              bootstrapConfig := config } :=
        congrArg
          (fun view : HandleView =>
            { view with
              configured := true
              config := config
              bootstrapConfigured := true
              bootstrapConfig := config }) after
      rw [Handled.reply_world, stored]
      refine .of_move (.single _ tuner config valid
        (offers.imp id fun kept => ⟨kept.1, kept.2, ?_⟩))
      obtain ⟨radio, isOpen, same⟩ := Option.map_eq_some_iff.mp kept.2
      rw [← same]
      exact (complies owned valid).1 radio isOpen kept.1
    · exact absurd accepted failed
  · exact configureRadio_moves environment config (fun valid => (complies owned valid).2) accepted
  · exact .stay _

/-! ### Both tuners -/

theorem configureDualRadio_moves (config : DualConfig)
    (complies : validDualConfig config = true → policy.loses ∨ world.HoldsDual environment) :
    HandleMoves policy world.handle (configureDualRadio environment world config).2.handle := by
  rcases configureDualRadio_handle environment world config with
    ⟨-, valid, tuner, offers, after⟩ | ⟨failed, same | ⟨valid, configured, forgets, after⟩⟩
  · rw [after]
    exact .of_move (.dual _ tuner config _ valid offers id)
  · exact .of_eq same
  rw [after]
  refine .closed (forgets.imp id fun kept =>
    ⟨kept.1, fun isConfigured isSome => ?_⟩)
  rw [handle_tuner_isSome] at isSome
  rcases complies valid with loses | holds
  · exact loses
  cases mode : world.daemon.dualMode with
  | false => exact absurd (kept.2 mode isSome) (holds.closes mode isSome)
  | true =>
      exact absurd
        (configureDualRadio_ok_of_open environment config valid mode isSome
          (holds.writes mode isConfigured)) failed

/-- Without a handle and a configuration there is nothing to lose. -/
theorem World.holdsDual_of_unconfigured (closed : world.daemon.radio = none)
    (forgotten : world.daemon.configured = false) :
    world.HoldsDual environment where
  closes := by simp [closed]
  writes := by simp [forgotten]

theorem serveConfigureDual_moves (config : DualConfig)
    (complies : (Command.configureDual config).Complies policy environment world descriptor) :
    HandleMoves policy world.handle
      (serveConfigureDual environment world descriptor config).world.handle := by
  simp only [serveConfigureDual]
  split_ifs with owned accepted
  · rcases configureDualRadio_handle environment world config with
      ⟨-, valid, tuner, offers, after⟩ | ⟨failed, -⟩
    · have stored :=
        congrArg (fun view : HandleView => { view with bootstrapConfigured := false }) after
      refine .trans (.of_move (.dual _ tuner config false valid offers ?_)) (.of_eq stored)
      simp
    · exact absurd accepted failed
  · exact configureDualRadio_moves environment config (complies owned)
  · exact .stay _

/-! ### Swaps -/

/-- The world holds its handle through a configuration in a mode. -/
def World.HoldsMode (environment : Environment) (world : World) (dual : Bool) : Prop :=
  if dual then world.HoldsDual environment
  else world.HoldsSingle environment

/-- A configuration that fails changes the handle and the flag alone. -/
theorem configureMode_failed
    {dual : Bool} {single : RadioConfig} {both : DualConfig}
    (complies : policy.loses ∨ world.HoldsMode environment dual)
    (failed : (configureMode environment world dual single both).1 ≠ .ok) :
    (∃ tuner configured, (configureMode environment world dual single both).2.handle =
        { world.handle with tuner := tuner, configured := configured }) ∧
      HandleMoves policy world.handle
        (configureMode environment world dual single both).2.handle := by
  cases dual with
  | true =>
      refine ⟨?_, configureDualRadio_moves environment both fun _ => complies⟩
      rcases configureDualRadio_handle environment world both with
        ⟨succeeds, -⟩ | ⟨-, same | ⟨-, configured, -, after⟩⟩
      · exact absurd succeeds failed
      · exact ⟨_, _, same⟩
      · exact ⟨_, _, after⟩
  | false =>
      refine ⟨?_, configureRadio_moves environment single (fun _ => complies) failed⟩
      rcases configureRadio_handle environment world single with
        ⟨succeeds, -⟩ | ⟨-, same | ⟨-, configured, -, after⟩⟩
      · exact absurd succeeds failed
      · exact ⟨_, _, same⟩
      · exact ⟨_, _, after⟩

/-- Rolling back opens the handle in the old mode, or fails to. -/
theorem rollBackMode_moves {saved : DaemonState} {status : Status} (before : ∃ tuner configured,
        world.handle =
          { handleOf saved.toLedger saved.toReceiver with
            tuner := tuner
            configured := configured })
    (complies : policy.loses ∨ world.HoldsMode environment saved.dualMode) :
    HandleMoves policy world.handle (rollBackMode environment saved world status).world.handle := by
  obtain ⟨openTuner, wasConfigured, same⟩ := before
  have restored (after : World) : (after.modify (restoreMode saved)).handle =
        { world.handle with
          tuner := after.handle.tuner
          configured := true } := by
    rw [same]
    rfl
  have config : world.handle.config = saved.config := by rw [same]; rfl
  have dualConfig : world.handle.dualConfig = saved.dualConfig := by
    rw [same]; rfl
  have dualMode : world.handle.dualMode = saved.dualMode := by
    rw [same]; rfl
  simp only [rollBackMode]
  split_ifs with streamed accepted
  · rw [Handled.restartStream_world, Handled.reply_world, restored]
    cases mode : saved.dualMode with
    | true =>
        rw [mode] at accepted dualMode
        rcases configureDualRadio_handle environment world
            saved.dualConfig with
          ⟨-, valid, tuner, offers, after⟩ | ⟨failed, -⟩
        · refine .trans (.of_move (.dual _ tuner saved.dualConfig _ valid offers id)) (.of_eq ?_)
          simp [configureMode, after, dualMode, dualConfig]
        · exact absurd accepted failed
    | false =>
        rw [mode] at accepted dualMode
        rcases configureRadio_handle environment world saved.config with
          ⟨-, valid, tuner, configured, offers, after⟩ | ⟨failed, -⟩
        · refine .trans (.of_move
            (.reopen _ tuner saved.config (.inl config.symm) valid offers))
            (.of_eq ?_)
          simp [configureMode, after, dualMode]
        · exact absurd accepted failed
  · exact (configureMode_failed environment complies accepted).2
  · exact .stay _

/-- Hardware that obeys gives a swap its new handle. -/
theorem World.Reopens.succeeds
    {dual : Bool} {single : RadioConfig} {both : DualConfig}
    (reopens : world.Reopens environment dual)
    (stopped : (stopStream environment world).1 = 0)
    (valid :
      if dual then validDualConfig both = true
      else openrspdConfigValid single = true) :
    (stopAndClose environment world).1 = true ∧
      (configureMode environment (stopAndClose environment world).2 dual single both).1 = .ok := by
  have stops := stopStream_streamOnly environment world
  have closes :
      (closeRadio environment (stopStream environment world).2).1 = 0 := by
    simp only [closeRadio]
    split_ifs
    · rfl
    · exact (stops.result environment (by decide) (by decide)).trans reopens.closes
    · exact (stops.result environment (by decide) (by decide)).trans reopens.closes
  have closed :
      (stopAndClose environment world).2.daemon.radio = none := by
    simp only [stopAndClose, stopped, ne_eq, not_true_eq_false, if_false]
    exact closeRadio_radio environment _
  obtain ⟨index, found⟩ := reopens.found
  have same {call : Call} (notStop : call ≠ .streamingStop)
      (notClose : call ≠ .close) (notRead : call ≠ .readAsync) :
      (stopAndClose environment world).2.used call = world.used call :=
    stopAndClose_used environment world notStop notClose notRead
  have opens :
      (stopAndClose environment world).2.result environment .openTuner = 0 :=
    (World.result_of_used environment
      (same (by decide) (by decide) (by decide))).trans reopens.opens
  refine ⟨by simp [stopAndClose, stopped, closes], ?_⟩
  cases dual with
  | false =>
      exact configureRadio_ok_of_found environment _ single valid closed found
        opens ((World.result_of_used environment
          (same (by decide) (by decide) (by decide))).trans reopens.writes)
  | true =>
      have writes : world.WritesDual environment := reopens.writes
      exact configureDualRadio_ok_of_found environment both valid closed
        found opens (writes.congr environment
          (same (by decide) (by decide) (by decide))
          (same (by decide) (by decide) (by decide)))

/-- A swap that gave up its handle and got no other was allowed to. -/
theorem loses_of_swap_failed
    {dual : Bool} {single : RadioConfig} (both : DualConfig)
    (complies : policy.loses ∨ world.HoldsSwap environment dual)
    (stopped : (stopStream environment world).1 = 0)
    (valid :
      if dual then validDualConfig both = true
      else openrspdConfigValid single = true)
    (failed : (stopAndClose environment world).1 = false ∨
        (configureMode environment (stopAndClose environment world).2 dual
          single both).1 ≠ .ok) : policy.loses := by
  rcases complies with loses | holds
  · exact loses
  obtain ⟨closed, configured⟩ := (holds.reopens stopped).succeeds environment stopped valid
  rcases failed with notClosed | notConfigured
  · rw [closed] at notClosed
    cases notClosed
  · exact absurd configured notConfigured

/-- When a swap has closed the handle the stop had succeeded. -/
theorem stopAndClose_closed (closed : (stopAndClose environment world).1 = true) :
    (stopStream environment world).1 = 0 ∧ (stopAndClose environment world).2.handle =
        { world.handle with tuner := none } := by
  rcases stopAndClose_handle environment world with
    ⟨-, failed, -⟩ | stopped
  · rw [closed] at failed
    cases failed
  · exact stopped

/-- A single-tuner configuration stored after a swap. -/
theorem swapSingle_moves {closed : World} {config : RadioConfig}
    (before : closed.handle = { world.handle with tuner := none })
    (accepted : (configureRadio environment closed config 3).1 = .ok)
    {change : DaemonState → DaemonState}
    (stores : ((configureRadio environment closed config 3).2.modify change).handle =
        ((configureRadio environment closed config 3).2.modify
          (storeSingleConfig · config)).handle) :
    HandleMoves policy world.handle
      ((configureRadio environment closed config 3).2.modify change).handle := by
  rcases configureRadio_handle environment closed config with
    ⟨-, valid, tuner, configured, offers, after⟩ | ⟨failed, -⟩
  · rw [before] at offers after
    have own : tuner = config.tuner := by
      simpa [HandleView.Offers] using offers
    have stored := congrArg
        (fun view : HandleView =>
          { view with
            configured := true
            config := config
            bootstrapConfigured := true
            bootstrapConfig := config }) after
    exact .trans (.of_move (.single _ tuner config valid (.inl own))) (.of_eq (stores.trans stored))
  · exact absurd accepted failed

theorem serveSwapTuner_moves (swap : SwapRequest)
    (complies : (Command.swapTuner swap).Complies policy environment world descriptor) :
    HandleMoves policy world.handle
      (serveSwapTuner environment world descriptor swap).world.handle := by
  simp only [serveSwapTuner]
  split_ifs with applies refused failed accepted
  · exact .stay _
  · have valid : openrspdConfigValid swap.config = true := by
      simp only [not_or] at refused
      simpa using refused.2.1
    rcases stopAndClose_handle environment world with
      ⟨-, -, same⟩ | ⟨stopped, closed⟩
    · exact .of_eq same
    · rw [Handled.reply_world, closed]
      exact .closed (.inr ⟨rfl, fun _ _ =>
        loses_of_swap_failed environment DualConfig.zeroed
          (complies applies.1 applies.2.1 applies.2.2 valid) stopped valid
          (.inl failed)⟩)
  · obtain ⟨-, closed⟩ := stopAndClose_closed environment (by simpa using failed)
    exact swapSingle_moves environment closed accepted rfl
  · have valid : openrspdConfigValid swap.config = true := by
      simp only [not_or] at refused
      simpa using refused.2.1
    obtain ⟨stopped, closed⟩ := stopAndClose_closed environment (by simpa using failed)
    have loses : policy.loses := loses_of_swap_failed environment DualConfig.zeroed
        (complies applies.1 applies.2.1 applies.2.2 valid) stopped valid
        (.inr accepted)
    have shut :
        HandleMoves policy world.handle (stopAndClose environment world).2.handle := by
      rw [closed]
      exact .closed (.inr ⟨rfl, fun _ _ => loses⟩)
    exact shut.trans (configureRadio_moves environment swap.config (fun _ => .inl loses) accepted)
  · exact .stay _

/-- A valid target is valid for its mode. -/
theorem validModeTarget_cases {swap : ModeSwapRequest} (valid : validModeTarget swap = true) :
    if decide (swap.mode = modeDual) then validDualConfig swap.dual = true
    else openrspdConfigValid swap.single = true := by
  unfold validModeTarget at valid
  by_cases dual : swap.mode = modeDual
  · have notSingle : swap.mode ≠ modeSingle := by
      rw [dual]
      decide
    rw [if_neg notSingle, if_pos dual] at valid
    simpa only [decide_eq_true_eq, if_pos dual] using valid
  · simp only [decide_eq_true_eq, if_neg dual] at valid ⊢
    split_ifs at valid
    exact valid

/-- A kept handle takes the old configuration when the next writes
succeed. -/
theorem World.Writes.holdsMode {after : World} {dual : Bool}
    (writes : world.Writes environment dual)
    (stops : StreamOnly world after)
    (mode : world.daemon.dualMode = dual) :
    after.HoldsMode environment dual := by
  have sameMode : after.daemon.dualMode = world.daemon.dualMode :=
    congrArg Receiver.dualMode stops.receiver
  cases dual with
  | true =>
      exact
        { closes := by simp [sameMode, mode]
          writes := fun _ _ =>
            World.WritesDual.congr environment writes
              (stops.used _ (by decide) (by decide))
              (stops.used _ (by decide) (by decide)) }
  | false =>
      exact
        { closes := by simp [sameMode, mode]
          writes := fun _ _ =>
            (stops.result environment (by decide) (by decide)).trans writes }

/-- The configuration of a mode stored after a swap. -/
theorem swapMode_moves {closed : World} {swap : ModeSwapRequest}
    (before : closed.handle = { world.handle with tuner := none })
    (accepted : (configureMode environment closed (decide (swap.mode = modeDual))
        swap.single swap.dual).1 = .ok)
    {change : DaemonState → DaemonState}
    (stores : ((configureMode environment closed (decide (swap.mode = modeDual))
        swap.single swap.dual).2.modify change).handle =
        ((configureMode environment closed (decide (swap.mode = modeDual))
          swap.single swap.dual).2.modify (storeMode · swap)).handle) :
    HandleMoves policy world.handle
      ((configureMode environment closed (decide (swap.mode = modeDual))
        swap.single swap.dual).2.modify change).handle := by
  by_cases dual : swap.mode = modeDual
  · simp only [configureMode, dual, decide_true, if_true] at accepted stores ⊢
    rcases configureDualRadio_handle environment closed swap.dual with
      ⟨-, valid, tuner, offers, after⟩ | ⟨failed, -⟩
    · rw [before] at offers after
      have both : tuner = tunerBoth := by
        simpa [HandleView.OffersDual] using offers
      have stored : ((configureDualRadio environment closed swap.dual).2.modify
            (storeMode · swap)).handle =
            { world.handle with
              tuner := some tuner
              configured := true
              dualMode := true
              dualConfig := swap.dual
              bootstrapConfigured := false } := by
        simp only [storeMode, dual, if_true]
        exact congrArg
          (fun view : HandleView =>
            { view with
              configured := true
              dualConfig := swap.dual
              bootstrapConfigured := false }) after
      exact .trans
        (.of_move (.dual _ tuner swap.dual false valid (.inl both) (by simp)))
        (.of_eq (stores.trans stored))
    · exact absurd accepted failed
  · simp only [configureMode, dual, decide_false, Bool.false_eq_true, if_false] at accepted stores ⊢
    refine swapSingle_moves environment before accepted (stores.trans ?_)
    simp only [storeMode, dual, if_false]

theorem serveSwapMode_moves (swap : ModeSwapRequest)
    (complies : (Command.swapMode swap).Complies policy environment world descriptor) :
    HandleMoves policy world.handle
      (serveSwapMode environment world descriptor swap).world.handle := by
  simp only [serveSwapMode]
  split_ifs with applies refused failed accepted
  · exact .stay _
  · have target : validModeTarget swap = true := by simpa using refused
    have valid := validModeTarget_cases target
    rcases stopAndClose_handle environment world with
      ⟨unstopped, -, same⟩ | ⟨stopped, closed⟩
    · refine .trans (.of_eq same) (rollBackMode_moves environment ⟨_, _, same⟩ ?_)
      have stops := stopStream_streamOnly environment world
      rw [stopAndClose, if_pos unstopped]
      exact (complies applies.1 applies.2 target).imp id fun holds =>
        (holds.restores unstopped).holdsMode environment stops rfl
    · have loses : policy.loses := loses_of_swap_failed environment swap.dual
          (complies applies.1 applies.2 target) stopped valid (.inl failed)
      refine .trans (.closed (.inr ⟨rfl, fun _ _ => loses⟩)) (.trans
        (.of_eq closed)
        (rollBackMode_moves environment ⟨_, _, closed⟩ (.inl loses)))
  · obtain ⟨-, closed⟩ := stopAndClose_closed environment (by simpa using failed)
    exact swapMode_moves environment closed accepted rfl
  · have target : validModeTarget swap = true := by simpa using refused
    have valid := validModeTarget_cases target
    obtain ⟨stopped, closed⟩ := stopAndClose_closed environment (by simpa using failed)
    have loses : policy.loses := loses_of_swap_failed environment swap.dual
        (complies applies.1 applies.2 target) stopped valid (.inr accepted)
    obtain ⟨⟨tuner, configured, same⟩, moves⟩ :=
      configureMode_failed environment (.inl loses) accepted
    rw [closed] at same
    refine .trans (.closed (.inr ⟨rfl, fun _ _ => loses⟩)) (.trans
      (.of_eq closed) (moves.trans (rollBackMode_moves environment ⟨_, _, same⟩ (.inl loses))))
  · exact .stay _

/-! ### Updates -/

/-- An update of one channel keeps a dual configuration valid. -/
theorem validDualConfig_withChannel
    {config : DualConfig} {next : RadioConfig}
    (known : next.tuner = tunerA ∨ next.tuner = tunerB)
    (sampleRate : next.sampleRateHz = config.sampleRateHz)
    (ifFrequency :
      next.ifFrequencyHz = (config.channel next.tuner).ifFrequencyHz)
    (bandwidth : next.bandwidthHz = (config.channel next.tuner).bandwidthHz)
    (valid : openrspdConfigValid next = true)
    (before : validDualConfig config = true) :
    validDualConfig (config.withChannel next.tuner next) = true := by
  simp only [validDualConfig, Bool.and_eq_true, beq_iff_eq, Bool.or_eq_true,
    decide_eq_true_eq] at before ⊢
  rcases known with isA | isB
  · have notB : next.tuner ≠ tunerB := by
      rw [isA]
      decide
    simp only [DualConfig.channel, DualConfig.withChannel, notB, if_false]
      at ifFrequency bandwidth ⊢
    simp_all
  · simp only [DualConfig.channel, DualConfig.withChannel, isB, if_true] at ifFrequency bandwidth ⊢
    simp_all

/-- What an update does to the stored configurations: nothing, or it is
applied to its own tuner. -/
theorem applyUpdate_moves (request : UpdateRequest) :
    HandleMoves policy world.handle (applyUpdate environment world request).2.handle := by
  simp only [applyUpdate]
  split_ifs with controls dual
  · exact .stay _
  · have frame := (writeDualUpdate_registersOnly environment world request.config
        request.changedFlags).handle_eq
    simp only [applyDualUpdate]
    split_ifs with unknown shared invalid failed
    · exact .stay _
    · exact .stay _
    · exact .stay _
    · exact .of_eq frame
    · have known : request.config.tuner = tunerA ∨
          request.config.tuner = tunerB := by
        by_contra neither
        rw [not_or] at neither
        exact unknown neither
      simp only [ne_eq, not_or, not_not] at shared
      have stored : ((writeDualUpdate environment world request.config
            request.changedFlags).2.modify fun daemon =>
              { daemon with
                dualConfig :=
                  daemon.dualConfig.withChannel request.config.tuner request.config }).handle =
            { world.handle with
              dualConfig :=
                world.handle.dualConfig.withChannel request.config.tuner request.config } :=
        congrArg
          (fun view : HandleView =>
            { view with
              dualConfig := view.dualConfig.withChannel request.config.tuner request.config }) frame
      rw [stored]
      exact .of_move (.retuneDual _ _
        (validDualConfig_withChannel known shared.1 shared.2.1 shared.2.2 (by simpa using invalid)))
  · have frame := (writeUpdate_registersOnly environment world world.daemon.config
        request.config request.changedFlags).handle_eq
    simp only [applySingleUpdate]
    split_ifs with wrongTuner invalid failed
    · exact .stay _
    · exact .stay _
    · exact .of_eq frame
    · refine .trans (.of_move (.retune _ request.config
        (by simpa using invalid) (not_not.mp wrongTuner))) (.of_eq ?_)
      exact congrArg (fun view : HandleView => { view with config := request.config }) frame

/-- An update of a single tuner that could not be written named its
tuner. -/
theorem applyUpdate_failed_tuner {request : UpdateRequest} (single : world.daemon.dualMode = false)
    (failed : (applyUpdate environment world request).1 = .ioError) :
    request.config.tuner = world.daemon.config.tuner := by
  by_contra wrongTuner
  simp [applyUpdate, applySingleUpdate, single, wrongTuner] at failed

/-- An update that could not be written stored nothing. -/
theorem applyUpdate_failed_handle {request : UpdateRequest}
    (failed : (applyUpdate environment world request).1 = .ioError) :
    (applyUpdate environment world request).2.handle = world.handle := by
  have dual :=
    (writeDualUpdate_registersOnly environment world request.config request.changedFlags).handle_eq
  have single := (writeUpdate_registersOnly environment world world.daemon.config
      request.config request.changedFlags).handle_eq
  revert failed
  simp only [applyUpdate, applyDualUpdate, applySingleUpdate]
  split_ifs <;> first | exact fun _ => dual | exact fun _ => single | simp

theorem stopAndApplyUpdate_moves (request : UpdateRequest) :
    HandleMoves policy world.handle (stopAndApplyUpdate environment world request).2.handle := by
  have stopped := (stopStream_streamOnly environment world).handle_eq
  simp only [stopAndApplyUpdate]
  split_ifs
  · exact .of_eq stopped
  · exact .trans (.of_eq stopped) (applyUpdate_moves environment request)
  · exact applyUpdate_moves environment request

/-- An update that fails stored nothing, and it may be queued or named the
tuner that is stored. -/
theorem stopAndApplyUpdate_failed {request : UpdateRequest}
    (failed : (stopAndApplyUpdate environment world request).1 = .ioError) :
    (stopAndApplyUpdate environment world request).2.handle = world.handle ∧
      (world.MayQueue environment request ∨ request.config.tuner = world.daemon.config.tuner) := by
  have stops := stopStream_streamOnly environment world
  cases mode : world.daemon.dualMode with
  | true =>
      refine ⟨?_, .inl (.inr (.inr (.inr (.inl mode))))⟩
      revert failed
      simp only [stopAndApplyUpdate]
      split_ifs
      · exact fun _ => stops.handle_eq
      · exact fun failed =>
          (applyUpdate_failed_handle environment failed).trans stops.handle_eq
      · exact applyUpdate_failed_handle environment
  | false =>
      revert failed
      simp only [stopAndApplyUpdate]
      split_ifs with restarts unstopped
      · exact fun _ => ⟨stops.handle_eq, .inl (.inr (.inr (.inr (.inr ⟨restarts, unstopped⟩))))⟩
      · intro failed
        have tuner := applyUpdate_failed_tuner environment
            ((congrArg Receiver.dualMode stops.receiver).trans mode) failed
        exact ⟨(applyUpdate_failed_handle environment failed).trans
            stops.handle_eq,
          .inr (tuner.trans (congrArg (fun ledger => ledger.config.tuner) stops.ledger))⟩
      · exact fun failed =>
          ⟨applyUpdate_failed_handle environment failed,
            .inr (applyUpdate_failed_tuner environment mode failed)⟩

theorem serveUpdate_moves (request : UpdateRequest)
    (complies : (Command.update request).Complies policy environment world descriptor) :
    HandleMoves policy world.handle
      (serveUpdate environment world descriptor request).world.handle := by
  simp only [serveUpdate]
  split_ifs with owned invalid down failed
  · exact .stay _
  · have valid : openrspdConfigValid request.config = true := by
      simpa using invalid
    exact .of_move (.queue _ request.config valid
      (complies owned valid (down.imp id fun rest => rest.imp id .inl)))
  · have valid : openrspdConfigValid request.config = true := by
      simpa using invalid
    obtain ⟨same, queued⟩ := stopAndApplyUpdate_failed environment failed
    have stored := congrArg (fun view : HandleView => { view with config := request.config }) same
    refine .trans (.of_move ?_) (.of_eq stored)
    rcases queued with mayQueue | ownTuner
    · exact .queue _ request.config valid (complies owned valid mayQueue)
    · exact .retune _ request.config valid ownTuner
  · exact stopAndApplyUpdate_moves environment request
  · exact .stay _

/-! ### Master and slave -/

/-- Preparing the shared configuration touches no handle. -/
theorem duoPrepareConfig_handle (daemon : DaemonState) :
    handleOf (duoPrepareConfig daemon).2.toLedger
        (duoPrepareConfig daemon).2.toReceiver =
      handleOf daemon.toLedger daemon.toReceiver := by
  unfold duoPrepareConfig
  split <;> rfl

/-- Resetting gives the handle up and forgets that it was configured. -/
theorem duoResetHardware_moves {view : HandleView} (start : world.handle = view) :
    HandleMoves policy view (duoResetHardware environment world).2.handle := by
  subst start
  have stopped :
      (stopIfOpen environment world).2.handle = world.handle := by
    unfold stopIfOpen
    split
    · exact (stopStream_streamOnly environment world).handle_eq
    · rfl
  have closed := closeRadio_handle environment (stopIfOpen environment world).2
  rw [stopped] at closed
  refine .trans (.of_move (.close _ false false (.inl rfl) (.inl rfl))) (.of_eq ?_)
  exact congrArg
    (fun view : HandleView =>
      { view with configured := false, dualMode := false }) closed

theorem duoResetHardware_unconfigured (world : World) :
    (duoResetHardware environment world).2.daemon.radio = none ∧
      (duoResetHardware environment world).2.daemon.configured = false :=
  ⟨closeRadio_radio environment _, rfl⟩

theorem World.HoldsDual.congr {after : World} (holds : world.HoldsDual environment)
    (receiver : after.daemon.toReceiver = world.daemon.toReceiver)
    (used : after.used = world.used) : after.HoldsDual environment where
  closes := by
    simpa only [World.result, receiver, used] using holds.closes
  writes single configured := by
    rw [receiver] at single configured
    exact (holds.writes single configured).congr environment (congrFun used _) (congrFun used _)

/-- A dual configuration that succeeded is in dual mode. -/
theorem configureDualRadio_dual_handle {config : DualConfig}
    (accepted : (configureDualRadio environment world config).1 = .ok)
    {change : DaemonState → DaemonState}
    (marks : ((configureDualRadio environment world config).2.modify change).handle =
        { (configureDualRadio environment world config).2.handle with
          dualMode := true }) :
    ((configureDualRadio environment world config).2.modify change).handle =
      (configureDualRadio environment world config).2.handle := by
  rcases configureDualRadio_handle environment world config with
    ⟨-, -, tuner, -, after⟩ | ⟨failed, -⟩
  · rw [marks, after]
  · exact absurd accepted failed

theorem startMaster_moves {view : HandleView} (event : DuoEvent) (start : world.handle = view)
    (complies : policy.loses ∨ world.HoldsDual environment) :
    HandleMoves policy view (startMaster environment world event).world.handle := by
  subst start
  have ready : (world.modify fun _ => (duoPrepareConfig world.daemon).2).handle =
        world.handle :=
    duoPrepareConfig_handle world.daemon
  have holds : policy.loses ∨
        (world.modify fun _ =>
          (duoPrepareConfig world.daemon).2).HoldsDual environment :=
    complies.imp id fun holds =>
      holds.congr environment (duoPrepareConfig_receiver world.daemon) rfl
  simp only [startMaster]
  split_ifs with unprepared accepted
  · exact .of_eq ready
  · exact .trans (.of_eq ready) (.trans
      (configureDualRadio_moves environment _ fun _ => holds)
      (.of_eq (configureDualRadio_dual_handle environment accepted rfl)))
  · exact .trans (.of_eq ready) (configureDualRadio_moves environment _ fun _ => holds)

theorem serveDuoStart_moves
    (complies : Command.duoStart.Complies policy environment world descriptor) :
    HandleMoves policy world.handle (serveDuoStart environment world descriptor).world.handle := by
  refine withDuoRole_outcome world descriptor _
    (fun handled => HandleMoves policy world.handle handled.world.handle)
    (.stay _) fun role _ _ found => ?_
  dsimp only
  split_ifs with refused master
  · exact .stay _
  · refine startMaster_moves environment _ rfl ?_
    have initialised :
        (openrspdDuoInitialise world.daemon.duo descriptor).result = .ok := by
      simpa using refused
    exact (complies (found.trans master) initialised).imp id fun holds =>
      holds.congr environment rfl rfl
  · unfold startSlave
    split <;> exact .stay _

theorem serveDuoStop_moves :
    HandleMoves policy world.handle (serveDuoStop environment world descriptor).world.handle := by
  refine withDuoRole_outcome world descriptor _
    (fun handled => HandleMoves policy world.handle handled.world.handle)
    (.stay _) fun role _ _ _ => ?_
  dsimp only
  split_ifs
  · exact duoResetHardware_moves environment rfl
  · exact .stay _

theorem serveDuoRelease_moves : HandleMoves policy world.handle
      (serveDuoRelease environment world descriptor).world.handle := by
  refine withDuoRole_outcome world descriptor _
    (fun handled => HandleMoves policy world.handle handled.world.handle)
    (.stay _) fun role _ _ _ => ?_
  dsimp only
  split_ifs
  · exact .stay _
  · exact duoResetHardware_moves environment rfl
  · exact .stay _

/-- A receiver without a handle and a configuration stays so when it cannot
be configured. -/
theorem configureDualRadio_unconfigured {config : DualConfig} (closed : world.daemon.radio = none)
    (forgotten : world.daemon.configured = false)
    (failed : (configureDualRadio environment world config).1 ≠ .ok) :
    (configureDualRadio environment world config).2.daemon.radio = none ∧
      (configureDualRadio environment world config).2.daemon.configured =
        false := by
  rcases configureDualRadio_handle environment world config with
    ⟨succeeds, -⟩ | ⟨-, same | ⟨-, configured, forgets, after⟩⟩
  · exact absurd succeeds failed
  · refine ⟨handle_tuner_eq_none.mp ?_, ?_⟩
    · rw [same]
      exact handle_tuner_eq_none.mpr closed
    · exact (congrArg HandleView.configured same).trans forgotten
  · refine ⟨handle_tuner_eq_none.mp (congrArg HandleView.tuner after), ?_⟩
    refine (congrArg HandleView.configured after).trans ?_
    exact forgets.elim id fun kept => kept.1.trans forgotten

/-- The second half of a rate swap: the hardware has been reset, so there is
nothing to lose. -/
theorem configureUnconfigured_moves {view : HandleView} (config : DualConfig)
    (start : world.handle = view) (closed : world.daemon.radio = none)
    (forgotten : world.daemon.configured = false) :
    HandleMoves policy view (configureDualRadio environment world config).2.handle := by
  subst start
  exact configureDualRadio_moves environment config fun _ =>
    .inr (World.holdsDual_of_unconfigured environment closed forgotten)

theorem swapRateStopped_moves (rate : UInt32) (wasStreaming : Bool) :
    HandleMoves policy world.handle
      (swapRateStopped environment world rate wasStreaming).world.handle := by
  have prepared : HandleMoves policy world.handle
        (world.modify fun _ =>
          (duoPrepareConfig
            { world.daemon with
              duo :=
                { world.daemon.duo with sampleRateHz := rate } }).2).handle :=
    .of_eq (duoPrepareConfig_handle
      { world.daemon with
        duo := { world.daemon.duo with sampleRateHz := rate } })
  simp only [swapRateStopped]
  generalize (world.modify fun _ =>
    (duoPrepareConfig
      { world.daemon with
        duo :=
          { world.daemon.duo with sampleRateHz := rate } }).2) = ready
    at prepared ⊢
  have cleared :
      HandleMoves policy world.handle (duoResetHardware environment ready).2.handle :=
    prepared.trans (duoResetHardware_moves environment rfl)
  obtain ⟨closed, forgotten⟩ := duoResetHardware_unconfigured environment ready
  split_ifs with unprepared failed accepted
  · exact prepared
  · exact cleared
  · exact cleared.trans (.trans
      (configureUnconfigured_moves environment _ rfl closed forgotten)
      (.of_eq (configureDualRadio_dual_handle environment accepted rfl)))
  · obtain ⟨stillClosed, stillForgotten⟩ :=
      configureDualRadio_unconfigured environment closed forgotten accepted
    have tried := cleared.trans
        (configureUnconfigured_moves environment
          (duoResetHardware environment ready).2.daemon.duoConfig rfl closed
          forgotten)
    generalize
      configureDualRadio environment (duoResetHardware environment ready).2
        (duoResetHardware environment ready).2.daemon.duoConfig = attempt
      at *
    exact tried.trans (configureUnconfigured_moves environment _ rfl stillClosed stillForgotten)

theorem serveDuoSwapRate_moves (rate : UInt32) : HandleMoves policy world.handle
      (serveDuoSwapRate environment world descriptor rate).world.handle := by
  refine withDuoRole_outcome world descriptor _
    (fun handled => HandleMoves policy world.handle handled.world.handle)
    (.stay _) fun role _ _ _ => ?_
  have prepared : HandleMoves policy world.handle
        (world.modify fun _ => (duoPrepareConfig world.daemon).2).handle :=
    .of_eq (duoPrepareConfig_handle world.daemon)
  have stopped := prepared.trans (.of_eq (stopStream_streamOnly environment
      (world.modify fun _ => (duoPrepareConfig world.daemon).2)).handle_eq)
  simp only [swapRate]
  split_ifs <;> first
    | exact .stay _
    | exact prepared
    | exact stopped
    | exact stopped.trans (swapRateStopped_moves environment rate _)

theorem serveDuoConfigure_moves (config : RadioConfig) : HandleMoves policy world.handle
      (serveDuoConfigure environment world descriptor config).world.handle := by
  refine withDuoRole_outcome world descriptor _
    (fun handled => HandleMoves policy world.handle handled.world.handle)
    (.stay _) fun role _ _ _ => ?_
  have applied : HandleMoves policy world.handle
        (duoApplyRunningConfig environment world config).2.handle := by
    have frame := (writeRunningConfig_registersOnly environment world
        (world.daemon.duoConfig.channel config.tuner) config).handle_eq
    simp only [duoApplyRunningConfig]
    split_ifs
    · exact .stay _
    · exact .stay _
    · exact .of_eq frame
    · exact .of_eq frame
  dsimp only
  split_ifs
  · exact .stay _
  · refine applied.trans (.of_eq ?_)
    by_cases onA : config.tuner = tunerA
    · simp only [storeDuoConfig, onA, if_true]
      rfl
    · simp only [storeDuoConfig, onA, if_false]
      rfl
  · exact applied

theorem serveDuoUpdate_moves (request : UpdateRequest) : HandleMoves policy world.handle
      (serveDuoUpdate environment world descriptor request).world.handle := by
  refine withDuoRole_outcome world descriptor _
    (fun handled => HandleMoves policy world.handle handled.world.handle)
    (.stay _) fun role _ _ _ => ?_
  dsimp only
  split_ifs
  · exact .stay _
  · exact .stay _
  · exact applyUpdate_moves environment request

end Requests

end OpenRsp
