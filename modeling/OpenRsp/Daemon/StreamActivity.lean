import OpenRsp.Daemon.StreamFrames
import OpenRsp.Daemon.OwnershipRuns

/-!
# Streams that nobody asked for

The stream is active while a thread reads, while one waits to be joined and
while a failure waits for recovery.  A request handler never makes the
stream active, with one exception: an update that fails marks the stream as
failed even when none was started.
-/

namespace OpenRsp

/-- A thread reads or waits to be joined, or a failure waits for recovery. -/
def StreamState.Active (stream : StreamState) : Prop :=
  stream.streamThread ≠ .idle ∨ stream.streamThreadStarted = true ∨ stream.streamError = true

/-- A thread that reads is the one `stream_thread` names. -/
def StreamState.Named (stream : StreamState) : Prop :=
  stream.streamThread ≠ .idle → stream.streamThread = .reading ∧ stream.streamThreadStarted = true

/-- The stream was not made active, nothing began to read, and no reader
lost its name. -/
structure StreamState.Quieter (before after : StreamState) : Prop where
  active : after.Active → before.Active
  idle : before.streamThread = .idle → after.streamThread = .idle
  named : before.Named → after.Named

namespace StreamState

theorem Named.of_idle {stream : StreamState} (idle : stream.streamThread = .idle) : stream.Named :=
  fun reading => absurd idle reading

theorem Quieter.refl (stream : StreamState) : stream.Quieter stream := ⟨id, id, id⟩

theorem Quieter.trans {first second third : StreamState}
    (left : first.Quieter second) (right : second.Quieter third) :
    first.Quieter third :=
  ⟨left.active ∘ right.active, right.idle ∘ left.idle, right.named ∘ left.named⟩

/-- A reader that returns leaves the stream no more active than it was. -/
theorem MayEnd.quieter {before after : StreamState}
    (ends : before.MayEnd after) : before.Quieter after := by
  rcases ends with rfl | ⟨reading, result, rfl⟩
  · exact .refl _
  · exact ⟨fun _ => .inl reading, fun _ => rfl, fun _ => .of_idle rfl⟩

/-- Nor does anything that clears flags. -/
theorem Quieter.of_flags {before after : StreamState}
    (thread : after.streamThread = before.streamThread)
    (started : after.streamThreadStarted = before.streamThreadStarted)
    (error : after.streamError = true → before.streamError = true) :
    before.Quieter after where
  active := by
    unfold Active
    rw [thread, started]
    exact Or.imp_right (Or.imp_right error)
  idle := thread.trans
  named := by
    unfold Named
    rw [thread, started]
    exact id

end StreamState

/-- The stream together with its open handle, the number of handles ever
asked for and whether the main loop runs. -/
structure StreamView where
  stream : StreamState
  handle : Option Nat
  opened : Nat
  running : Bool

def World.view (world : World) : StreamView :=
  ⟨world.daemon.toStreamState, world.daemon.radio.map Radio.handle,
    world.used .openTuner, world.running⟩

/-- Whether there is an open handle. -/
def StreamView.isOpen (view : StreamView) : Bool := view.handle.isSome

@[simp]
theorem World.view_isOpen (world : World) :
    world.view.isOpen = world.daemon.radio.isSome :=
  Option.isSome_map

theorem World.isSome_of_view {before after : World} (same : after.view = before.view) :
    after.daemon.radio.isSome = before.daemon.radio.isSome := by
  rw [← after.view_isOpen, same, before.view_isOpen]

/-- A handle is the one that was open or a later one. -/
structure StreamView.HandleKept (before after : StreamView) : Prop where
  opened : before.opened ≤ after.opened
  handle : ∀ number, after.handle = some number →
      before.handle = some number ∨ before.opened ≤ number ∧ number < after.opened

namespace StreamView.HandleKept

theorem of_eq {before after : StreamView} (handle : after.handle = before.handle)
    (opened : after.opened = before.opened) : before.HandleKept after :=
  ⟨opened.ge, fun _ found => .inl (handle.symm.trans found)⟩

theorem of_closed {before after : StreamView} (closed : after.handle = none)
    (opened : after.opened = before.opened) : before.HandleKept after :=
  ⟨opened.ge, fun _ found => by simp [closed] at found⟩

theorem trans {first second third : StreamView}
    (left : first.HandleKept second) (right : second.HandleKept third) :
    first.HandleKept third where
  opened := left.opened.trans right.opened
  handle number found := by
    rcases right.handle number found with found | ⟨lower, upper⟩
    · refine (left.handle number found).imp_right fun bounds => ?_
      exact ⟨bounds.1, bounds.2.trans_le right.opened⟩
    · exact .inr ⟨left.opened.trans lower, upper⟩

end StreamView.HandleKept

/-- Nothing was started: a thread that reads was reading before, with its
name and its handle. -/
structure StreamView.Quieter (before after : StreamView) : Prop where
  stream : before.stream.Quieter after.stream
  running : after.running = true → before.running = true
  reader : after.running = true → after.stream.streamThread ≠ .idle →
      before.stream.streamThread = after.stream.streamThread ∧
        (after.stream.streamThread = .reading →
          before.stream.streamThreadStarted = true → after.stream.streamThreadStarted = true) ∧
        (before.isOpen = true → after.isOpen = true)
  handles : before.HandleKept after

namespace StreamView.Quieter

theorem refl (view : StreamView) : view.Quieter view :=
  ⟨.refl _, id, fun _ _ => ⟨rfl, fun _ => id, id⟩, .of_eq rfl rfl⟩

theorem of_eq {before after : StreamView} (same : after = before) :
    before.Quieter after :=
  same ▸ .refl after

theorem trans {first second third : StreamView}
    (left : first.Quieter second) (right : second.Quieter third) :
    first.Quieter third where
  stream := left.stream.trans right.stream
  running := left.running ∘ right.running
  reader running busy := by
    obtain ⟨same, started, isOpen⟩ := right.reader running busy
    obtain ⟨firstSame, firstStarted, firstOpen⟩ := left.reader (right.running running) (same ▸ busy)
    exact ⟨firstSame.trans same,
      fun reading => started reading ∘ firstStarted (same.trans reading),
      isOpen ∘ firstOpen⟩
  handles := left.handles.trans right.handles

/-- Nothing reads any more. -/
theorem of_idle {before after : StreamView} (stream : before.stream.Quieter after.stream)
    (running : after.running = true → before.running = true)
    (idle : after.running = true → after.stream.streamThread = .idle)
    (handles : before.HandleKept after) : before.Quieter after :=
  ⟨stream, running, fun runs busy => absurd (idle runs) busy, handles⟩

/-- Only flags were cleared. -/
theorem of_flags {before after : StreamView}
    (thread : after.stream.streamThread = before.stream.streamThread)
    (started : after.stream.streamThreadStarted = before.stream.streamThreadStarted)
    (error : after.stream.streamError = true → before.stream.streamError = true)
    (handle : after.handle = before.handle)
    (opened : after.opened = before.opened)
    (running : after.running = before.running) :
    before.Quieter after where
  stream := .of_flags thread started error
  running := running ▸ id
  reader _ _ := by
    refine ⟨thread.symm, fun _ => started ▸ id, ?_⟩
    rw [isOpen, isOpen, handle]
    exact id
  handles := .of_eq handle opened

end StreamView.Quieter

theorem InventoryOnly.view {before after : World}
    (frame : InventoryOnly before after) : after.view = before.view := by
  simp only [World.view, frame.stream, frame.running,
    congrArg Receiver.radio frame.receiver, frame.used .openTuner (by decide)]

theorem RegistersOnly.view {before after : World}
    (frame : RegistersOnly before after) : after.view = before.view := by
  have handle : after.daemon.radio.map Radio.handle =
      before.daemon.radio.map Radio.handle := by
    have same := congrArg (Option.map Prod.fst) frame.handle
    rwa [Option.map_map, Option.map_map] at same
  simp only [World.view, frame.stream, frame.running, handle, frame.used .openTuner rfl]

theorem ReportsOnly.view {before after : World}
    (frame : ReportsOnly before after) : after.view = before.view := by
  simp only [World.view, frame.stream, frame.running,
    congrArg Receiver.radio frame.receiver, frame.opened]

section Operations

variable (environment : Environment) (world : World)

/-! ## Stopping and closing -/

theorem joinedStream_thread : (joinedStream environment world).streamThread = .idle ∨
      world.daemon.streamThread = .abandoned ∧
        (joinedStream environment world).streamThread = .abandoned := by
  unfold joinedStream
  split
  · exact .inl rfl
  · rename_i notReading
    cases thread : world.daemon.streamThread with
    | idle => exact .inl rfl
    | reading => exact absurd thread notReading
    | abandoned => exact .inr ⟨rfl, rfl⟩

/-- Joining a thread that was waiting for it. -/
theorem joined_quieter {after : World} (started : world.daemon.streamThreadStarted = true)
    (frame : StreamOnly world after)
    (joined : after.daemon.streamThread = (joinedStream environment world).streamThread) :
    world.view.Quieter after.view := by
  have thread := joined ▸ joinedStream_thread environment world
  have handle := congrArg Receiver.radio frame.receiver
  refine ⟨⟨fun _ => .inr (.inl started), fun idle => ?_,
    fun named => .of_idle ?_⟩, frame.running.symm.trans, fun _ busy => ?_,
    .of_eq (congrArg (Option.map Radio.handle) handle) (frame.used _ (by decide) (by decide))⟩
  · refine thread.resolve_right fun abandoned => ?_
    exact absurd (idle.symm.trans abandoned.1) (by decide)
  · refine thread.resolve_right fun abandoned => ?_
    have reading := (named (by simp [World.view, abandoned.1])).1
    exact absurd (abandoned.1.symm.trans reading) (by decide)
  · obtain ⟨was, still⟩ := thread.resolve_left busy
    simp [World.view, was, still, StreamView.isOpen, handle]

theorem stopStream_quieter :
    world.view.Quieter (stopStream environment world).2.view := by
  by_cases started : world.daemon.streamThreadStarted = true
  · have stream := stopStream_stream environment world started
    have thread := congrArg StreamState.streamThread stream
    exact joined_quieter environment world started (stopStream_streamOnly environment world) thread
  · rw [Bool.not_eq_true] at started
    rw [show stopStream environment world = (0, world) by
      simp [stopStream, started]]
    exact .refl _

theorem closeRadio_quieter :
    world.view.Quieter (closeRadio environment world).2.view := by
  have stream := (closeRadio_mayEnd environment world).quieter
  revert stream
  simp only [closeRadio]
  split_ifs with closed busy
  · exact fun _ => .refl _
  · exact fun stream => .of_idle stream (by simp [World.view])
      (by simp [World.view]) (.of_closed rfl rfl)
  · intro stream
    refine .of_idle stream ?_ (fun _ => ?_) ?_
    · simp only [World.view, streamThreadEnds]
      split <;> exact id
    · simp only [World.view, streamThreadEnds]
      split
      · exact ‹_›
      · rfl
    · simp only [World.view, streamThreadEnds]
      split <;> exact .of_closed rfl rfl

/-! ## Configuring -/

/-- Opening a handle where there is none starts nothing. -/
theorem mirisdrOpenTuner_quieter (index tuner : UInt32) (closed : world.daemon.radio = none) :
    world.view.Quieter (mirisdrOpenTuner environment world index tuner).2.view where
  stream := .refl _
  running := id
  reader _ _ := ⟨rfl, fun _ => id, by simp [closed]⟩
  handles := by
    refine ⟨Nat.le_succ _, fun number found => .inr ?_⟩
    simp only [World.view, mirisdrOpenTuner, written, World.modify_daemon] at found
    split at found
    · obtain rfl : world.used .openTuner = number := by
        simpa [Radio.fresh] using found
      exact ⟨le_rfl, Nat.lt_succ_self _⟩
    · simp at found

/-- A configuration leaves the stream no more active than it was. -/
theorem quieterFrame : RequestFrame environment fun before after =>
    before.view.Quieter after.view where
  refl _ := .refl _
  trans left right := left.trans right
  registers frame := .of_eq frame.view
  resolves world _ := .of_eq (resolveAcquiredDevice_inventoryOnly environment world).view
  opens world index tuner closed _ := by
    have frame := resolveAcquiredDevice_inventoryOnly environment world
    exact (StreamView.Quieter.of_eq frame.view).trans (mirisdrOpenTuner_quieter environment _
      index tuner ((congrArg Receiver.radio frame.receiver).trans closed))
  closes := closeRadio_quieter environment
  marks _ _ _ _ := .refl _
  stops := stopStream_quieter environment
  stores world change only := .of_eq (by
    simp only [World.view, World.modify_daemon, only.stream, only.radio]
    rfl)

theorem duoApplyRunningConfig_view (config : RadioConfig) :
    (duoApplyRunningConfig environment world config).2.view =
      world.view := by
  have wrote := (writeRunningConfig_registersOnly environment world
      (world.daemon.duoConfig.channel config.tuner) config).view
  simp only [duoApplyRunningConfig]
  split_ifs
  · rfl
  · rfl
  · exact wrote
  · exact wrote

theorem applyUpdate_view (request : UpdateRequest) :
    (applyUpdate environment world request).2.view = world.view := by
  have dual :=
    (writeDualUpdate_registersOnly environment world request.config request.changedFlags).view
  have single := (writeUpdate_registersOnly environment world world.daemon.config
      request.config request.changedFlags).view
  simp only [applyUpdate, applyDualUpdate, applySingleUpdate]
  split_ifs
  all_goals first | rfl | exact dual | exact single

/-- Preparing the shared configuration touches neither stream nor handle. -/
theorem duoPrepareConfig_view (daemon : DaemonState) :
    (world.modify fun _ => (duoPrepareConfig daemon).2).view =
      (world.modify fun _ => daemon).view := by
  simp only [duoPrepareConfig]
  split <;> rfl

end Operations

/-! ## Handlers -/

/-- The handler leaves the stream no more active than it was. -/
def Handled.Quiet (handled : Handled) (world : World) : Prop :=
  world.view.Quieter handled.world.view

section Handlers

variable (environment : Environment) (world : World) (descriptor : Int)

theorem serveAcquire_quiet (acquire : AcquireRequest) :
    (serveAcquire environment world descriptor acquire).Quiet world := by
  have listed :=
    StreamView.Quieter.of_eq (snapshotSdrplayDevices_inventoryOnly environment world).view
  simp only [serveAcquire]
  split_ifs
  · exact .refl _
  · exact .refl _
  · exact .refl _
  · split
    · exact listed
    · rename_i index _
      have checked := listed.trans ((quieterFrame environment).closeIfIdentityChanged
        (snapshotSdrplayDevices environment world).2
        (snapshotSdrplayDevices environment world).1 index)
      split
      · exact checked
      · exact checked

theorem serveDuoAcquire_quiet (acquire : DuoAcquireRequest) :
    (serveDuoAcquire environment world descriptor acquire).Quiet world := by
  have resolved :
      world.view.Quieter (resolveDuoIdentity environment world acquire).2.view := by
    simp only [resolveDuoIdentity]
    split_ifs
    · exact .of_eq (snapshotSdrplayDevices_inventoryOnly environment world).view
    · exact .refl _
    · exact .refl _
  simp only [serveDuoAcquire]
  split_ifs
  · exact .refl _
  · exact .refl _
  · split
    · exact resolved
    · simp only [acquireDuoRole]
      split
      · exact resolved
      · exact resolved

theorem serveDuoConfigure_quiet (config : RadioConfig) :
    (serveDuoConfigure environment world descriptor config).Quiet
      world := by
  have applied := duoApplyRunningConfig_view environment world config
  have stored (before : World) :
      (before.modify (storeDuoConfig · config)).view = before.view := by
    simp only [World.view, World.modify_daemon, storeDuoConfig]
    split <;> rfl
  refine withDuoRole_outcome world descriptor _ (Handled.Quiet · world)
    (.refl _) fun role _ _ _ => ?_
  simp only
  split_ifs
  · exact .refl _
  · exact .of_eq ((stored _).trans applied)
  · exact .of_eq applied

theorem serveDuoUpdate_quiet (request : UpdateRequest) :
    (serveDuoUpdate environment world descriptor request).Quiet world := by
  refine withDuoRole_outcome world descriptor _ (Handled.Quiet · world)
    (.refl _) fun role _ _ _ => ?_
  simp only
  split_ifs
  · exact .refl _
  · exact .refl _
  · exact .of_eq (applyUpdate_view environment world request)

theorem startMaster_quiet (event : DuoEvent) :
    (startMaster environment world event).Quiet world := by
  have prepared := StreamView.Quieter.of_eq (duoPrepareConfig_view world world.daemon)
  have configured := prepared.trans
      ((quieterFrame environment).configureDualRadio
        (world.modify fun _ => (duoPrepareConfig world.daemon).2)
        (duoPrepareConfig world.daemon).2.duoConfig)
  simp only [startMaster]
  split_ifs
  · exact prepared
  · exact configured
  · exact configured

theorem serveDuoStart_quiet :
    (serveDuoStart environment world descriptor).Quiet world := by
  refine withDuoRole_outcome world descriptor _ (Handled.Quiet · world)
    (.refl _) fun role _ _ _ => ?_
  simp only
  split_ifs
  · exact .refl _
  · refine .trans ?_ (startMaster_quiet environment _ _)
    exact .refl _
  · unfold startSlave
    split <;> exact .refl _

theorem serveDuoStop_quiet :
    (serveDuoStop environment world descriptor).Quiet world := by
  refine withDuoRole_outcome world descriptor _ (Handled.Quiet · world)
    (.refl _) fun role _ _ _ => ?_
  simp only
  split_ifs
  · refine .trans ?_ ((quieterFrame environment).duoResetHardware _)
    exact .refl _
  · exact .refl _

theorem serveDuoRelease_quiet :
    (serveDuoRelease environment world descriptor).Quiet world := by
  refine withDuoRole_outcome world descriptor _ (Handled.Quiet · world)
    (.refl _) fun role _ _ _ => ?_
  simp only
  split_ifs
  · exact .refl _
  · refine .trans ?_ ((quieterFrame environment).duoResetHardware _)
    exact .refl _
  · exact .refl _

theorem swapRateStopped_quiet (rate : UInt32) (wasStreaming : Bool) :
    (swapRateStopped environment world rate wasStreaming).Quiet world := by
  have prepared := StreamView.Quieter.of_eq
      (duoPrepareConfig_view world
        { world.daemon with
          duo := { world.daemon.duo with sampleRateHz := rate } })
  have reset := prepared.trans ((quieterFrame environment).duoResetHardware _)
  simp only [swapRateStopped]
  split_ifs
  · exact prepared
  · exact reset
  · exact reset.trans ((quieterFrame environment).configureDualRadio _ _)
  · refine .trans (.trans reset ?_) ((quieterFrame environment).configureDualRadio _ _)
    exact ((quieterFrame environment).configureDualRadio _ _)

theorem swapRate_quiet (rate : UInt32) :
    (swapRate environment world rate).Quiet world := by
  have prepared := StreamView.Quieter.of_eq (duoPrepareConfig_view world world.daemon)
  have stopped := prepared.trans
      (stopStream_quieter environment (world.modify fun _ => (duoPrepareConfig world.daemon).2))
  simp only [swapRate]
  split_ifs
  · exact prepared
  · exact stopped
  · exact stopped.trans (swapRateStopped_quiet environment _ rate _)

theorem serveDuoSwapRate_quiet (rate : UInt32) :
    (serveDuoSwapRate environment world descriptor rate).Quiet world := by
  refine withDuoRole_outcome world descriptor _ (Handled.Quiet · world)
    (.refl _) fun role _ _ _ => ?_
  split_ifs
  · exact .refl _
  · exact .refl _
  · exact .refl _
  · exact .refl _
  · exact .refl _
  · exact swapRate_quiet environment world rate

theorem serveStart_quiet : (serveStart world descriptor).Quiet world := by
  unfold serveStart
  split
  · exact .of_flags rfl rfl (by simp [World.view]) rfl rfl rfl
  · exact .refl _

/-! ### Updates -/

end Handlers

end OpenRsp
