import OpenRsp.Daemon.OwnershipRuns
import OpenRsp.Daemon.StreamFrames

/-!
# What the daemon writes

The hardware operations and the command branches of `serve_request` write
nothing and create no thread: a request leads to its response, the records
of a list, at most one event and at most one thread, all after the command
has been carried out.  Removing a client writes at most one event more.
-/

namespace OpenRsp

/-- The frames written, and how many writes and threads were tried. -/
structure Outgoing where
  sent : List Sent
  writes : Nat
  threads : Nat

/-- What the daemon has written and started so far. -/
def World.outgoing (world : World) : Outgoing :=
  ⟨world.sent, world.used .socketWrite, world.used .threadCreate⟩

@[simp]
theorem World.modify_outgoing (world : World) (change : DaemonState → DaemonState) :
    (world.modify change).outgoing = world.outgoing :=
  rfl

theorem InventoryOnly.outgoing {before after : World} (frame : InventoryOnly before after) :
    after.outgoing = before.outgoing := by
  simp only [World.outgoing, frame.sent, frame.used .socketWrite (by decide),
    frame.used .threadCreate (by decide)]

theorem RegistersOnly.outgoing {before after : World} (frame : RegistersOnly before after) :
    after.outgoing = before.outgoing := by
  simp only [World.outgoing, frame.sent, frame.used .socketWrite rfl, frame.used .threadCreate rfl]

theorem StreamOnly.outgoing {before after : World} (frame : StreamOnly before after) :
    after.outgoing = before.outgoing := by
  simp only [World.outgoing, frame.sent, frame.used .socketWrite (by decide) (by decide),
    frame.used .threadCreate (by decide) (by decide)]

theorem World.result_of_outgoing (environment : Environment)
    {before after : World} (same : after.outgoing = before.outgoing) :
    after.result environment .socketWrite =
        before.result environment .socketWrite ∧
      (after.advance .socketWrite).result environment .socketWrite =
        (before.advance .socketWrite).result environment .socketWrite ∧
      after.result environment .threadCreate = before.result environment .threadCreate := by
  have writes : after.used .socketWrite = before.used .socketWrite := congrArg Outgoing.writes same
  have threads : after.used .threadCreate = before.used .threadCreate :=
    congrArg Outgoing.threads same
  simp [World.result, World.advance, writes, threads]

section Silence

variable (environment : Environment) (world : World)

/-! ## Hardware operations -/

@[simp]
theorem streamThreadEnds_outgoing :
    (streamThreadEnds environment world).outgoing = world.outgoing := by
  unfold streamThreadEnds
  split <;> rfl

@[simp]
theorem createStreamThread_sent :
    (createStreamThread environment world).2.sent = world.sent := by
  simp only [createStreamThread]
  split <;> rfl

@[simp]
theorem stopStream_outgoing :
    (stopStream environment world).2.outgoing = world.outgoing :=
  (stopStream_streamOnly environment world).outgoing

@[simp]
theorem closeRadio_outgoing :
    (closeRadio environment world).2.outgoing = world.outgoing := by
  simp only [closeRadio]
  split_ifs
  · rfl
  · rfl
  · exact streamThreadEnds_outgoing environment _

theorem outgoingFrame : RequestFrame environment fun before after =>
    after.outgoing = before.outgoing where
  refl _ := rfl
  trans left right := right.trans left
  registers frame := frame.outgoing
  resolves world _ := (resolveAcquiredDevice_inventoryOnly environment world).outgoing
  opens world _ _ _ _ := (resolveAcquiredDevice_inventoryOnly environment world).outgoing
  closes := closeRadio_outgoing environment
  marks _ _ _ _ := rfl
  stops := stopStream_outgoing environment
  stores _ _ _ := rfl

@[simp]
theorem stopIfOpen_outgoing :
    (stopIfOpen environment world).2.outgoing = world.outgoing :=
  (outgoingFrame environment).stopIfOpen world

@[simp]
theorem configureDualRadio_outgoing (config : DualConfig) :
    (configureDualRadio environment world config).2.outgoing = world.outgoing :=
  (outgoingFrame environment).configureDualRadio world config

@[simp]
theorem duoResetHardware_outgoing :
    (duoResetHardware environment world).2.outgoing = world.outgoing :=
  (outgoingFrame environment).duoResetHardware world

@[simp]
theorem applyUpdate_outgoing (request : UpdateRequest) :
    (applyUpdate environment world request).2.outgoing = world.outgoing :=
  (outgoingFrame environment).applyUpdate world request

@[simp]
theorem duoApplyRunningConfig_outgoing (config : RadioConfig) :
    (duoApplyRunningConfig environment world config).2.outgoing =
      world.outgoing := by
  have wrote := (writeRunningConfig_registersOnly environment world
      (world.daemon.duoConfig.channel config.tuner) config).outgoing
  simp only [duoApplyRunningConfig]
  split_ifs <;> simp [wrote]

@[simp]
theorem releaseOwner_outgoing :
    (releaseOwner environment world).outgoing = world.outgoing :=
  (outgoingFrame environment).closeLeft world

/-! ## Commands -/

variable (descriptor : Int)

theorem serveAcquire_outgoing (acquire : AcquireRequest) :
    (serveAcquire environment world descriptor acquire).world.outgoing =
      world.outgoing := by
  have listed := snapshotSdrplayDevices_inventoryOnly environment world
  have checked (index : UInt32) := ((outgoingFrame environment).closeIfIdentityChanged
      (snapshotSdrplayDevices environment world).2
      (snapshotSdrplayDevices environment world).1 index).trans listed.outgoing
  simp only [serveAcquire]
  split_ifs
  · rfl
  · rfl
  · rfl
  · split
    · exact listed.outgoing
    · split <;> exact checked _

theorem serveDuoAcquire_outgoing (acquire : DuoAcquireRequest) :
    (serveDuoAcquire environment world descriptor acquire).world.outgoing =
      world.outgoing := by
  have resolved : (resolveDuoIdentity environment world acquire).2.outgoing =
        world.outgoing := by
    simp only [resolveDuoIdentity]
    split_ifs
    · exact (snapshotSdrplayDevices_inventoryOnly environment world).outgoing
    · rfl
    · rfl
  simp only [serveDuoAcquire]
  split_ifs
  · rfl
  · rfl
  · split
    · exact resolved
    · simp only [acquireDuoRole]
      split <;> exact resolved

theorem withDuoRole_outgoing (serve : DuoRole → Handled)
    (served : ∀ role, (serve role).world.outgoing = world.outgoing) :
    (withDuoRole world descriptor serve).world.outgoing = world.outgoing :=
  withDuoRole_outcome world descriptor serve
    (fun handled => handled.world.outgoing = world.outgoing) rfl
    fun role _ _ _ => served role

theorem swapRate_outgoing (rate : UInt32) :
    (swapRate environment world rate).world.outgoing = world.outgoing := by
  simp only [swapRate, swapRateStopped]
  split_ifs <;> simp

theorem serveUpdate_outgoing (request : UpdateRequest) :
    (serveUpdate environment world descriptor request).world.outgoing =
      world.outgoing := by
  have applied := (outgoingFrame environment).stopAndApplyUpdate world request
  simp only [serveUpdate]
  split_ifs
  · rfl
  · rfl
  · exact applied
  · exact applied
  · rfl

/-- A single owner has no role, so its release writes no event. -/
theorem serveRelease_outgoing {clients : List Int}
    (valid : 0 ≤ descriptor) (sound : world.holdings.Sound clients) :
    (serveRelease environment world descriptor).world.outgoing =
      world.outgoing := by
  unfold serveRelease
  split_ifs with owns
  · have inactive : ¬ world.daemon.duoActive = true := fun active => by
      have negative := sound.exclusive active
      have owner : world.holdings.owner = descriptor := owns
      omega
    simp [releaseClient, inactive, owns]
  · rfl

/-- The command branches write nothing. -/
theorem dispatch_outgoing {clients : List Int} (command : Command)
    (valid : 0 ≤ descriptor) (sound : world.holdings.Sound clients) :
    (dispatch environment world descriptor command).world.outgoing =
      world.outgoing := by
  cases command with
  | ping => rfl
  | unknown => rfl
  | list =>
      exact (snapshotSdrplayDevices_inventoryOnly environment world).outgoing
  | lockApi =>
      simp only [dispatch, serveLockApi]
      split <;> rfl
  | unlockApi =>
      simp only [dispatch, serveUnlockApi, releaseApiLock]
      split_ifs <;> rfl
  | duoAcquire acquire =>
      exact serveDuoAcquire_outgoing environment world descriptor acquire
  | duoConfigure config =>
      refine withDuoRole_outgoing world descriptor _ fun role => ?_
      simp only
      split_ifs <;> simp
  | duoStart =>
      refine withDuoRole_outgoing world descriptor _ fun role => ?_
      simp only [startMaster, startSlave]
      split_ifs <;> simp
  | duoStop =>
      refine withDuoRole_outgoing world descriptor _ fun role => ?_
      simp only
      split_ifs <;> simp
  | duoRelease =>
      refine withDuoRole_outgoing world descriptor _ fun role => ?_
      simp only
      split_ifs <;> simp
  | duoSwapRate rate =>
      refine withDuoRole_outgoing world descriptor _ fun role => ?_
      split_ifs
      · rfl
      · rfl
      · rfl
      · rfl
      · rfl
      · exact swapRate_outgoing environment world rate
  | duoUpdate request =>
      refine withDuoRole_outgoing world descriptor _ fun role => ?_
      simp only
      split_ifs <;> simp
  | acquire acquire =>
      exact serveAcquire_outgoing environment world descriptor acquire
  | start =>
      simp only [dispatch, serveStart]
      split <;> rfl
  | stop => exact (outgoingFrame environment).serveStop world descriptor
  | release =>
      exact serveRelease_outgoing environment world descriptor valid sound
  | configure config =>
      exact (outgoingFrame environment).serveConfigure world descriptor config
  | configureDual config =>
      exact (outgoingFrame environment).serveConfigureDual world descriptor config
  | swapTuner swap => exact (outgoingFrame environment).serveSwapTuner world descriptor swap
  | swapMode swap => exact (outgoingFrame environment).serveSwapMode world descriptor swap
  | resumeMode => exact (outgoingFrame environment).serveResumeMode world descriptor
  | update request =>
      exact serveUpdate_outgoing environment world descriptor request

end Silence

/-! ## Answering -/

/-- Whether the response is followed by an event to the peer. -/
def Handled.notifies (handled : Handled) : Bool :=
  decide (handled.status = .ok ∧ handled.duoEvent.kind ≠ .none ∧ 0 ≤ handled.duoEvent.targetFd)

/-- Whether a thread is created once everything has been written. -/
def Handled.starts (handled : Handled) (command : Command) : Bool :=
  decide
    ((handled.duoStartStreamAfterResponse ∧ handled.status = .ok) ∨
      (command = .start ∧ handled.status = .ok) ∨
        (handled.startStreamAfterResponse ∧ (handled.status = .ok ∨ handled.startStreamAfterError)))

/-- At most one of the three stream starts applies, and a list is followed
by its records only. -/
structure Handled.Orderly (handled : Handled) (command : Command) :
    Prop where
  duo : handled.duoStartStreamAfterResponse = true →
      command ≠ .start ∧ handled.startStreamAfterResponse = false
  plain : command = .start → handled.startStreamAfterResponse = false
  list : command = .list → handled.notifies = false

/-- The frame that answers a request. -/
def Handled.response (handled : Handled) (sequence : UInt32) : Frame :=
  .response sequence handled.status handled.changedFlags

/-- The event a request is followed by. -/
def Handled.event (handled : Handled) (delivered : Bool) : Sent :=
  ⟨handled.duoEvent.targetFd, .duo handled.duoEvent.kind handled.duoEvent.tuner, delivered⟩

/-- Only records of devices, to one client. -/
def RecordsTo (descriptor : Int) (records : List Sent) : Prop :=
  ∀ sent ∈ records, sent.descriptor = descriptor ∧
    ∃ sequence record, sent.frame = .device sequence record

/-- What `serve_request` returns and writes from the response on. -/
inductive Answered
    (environment : Environment) (descriptor : Int) (sequence : UInt32)
    (command : Command) (handled : Handled) : Int → List Sent → Prop
  | unheard :
      handled.world.result environment .socketWrite ≠ 0 →
      Answered environment descriptor sequence command handled (-1)
        [⟨descriptor, handled.response sequence, false⟩]
  | cut {records : List Sent} :
      handled.world.result environment .socketWrite = 0 →
      command = .list →
      RecordsTo descriptor records →
      (∃ sent ∈ records, sent.delivered = false) →
      Answered environment descriptor sequence command handled (-1)
        (⟨descriptor, handled.response sequence, true⟩ :: records)
  | peerUnheard :
      handled.world.result environment .socketWrite = 0 →
      handled.notifies = true →
      (handled.world.advance .socketWrite).result environment .socketWrite ≠ 0 →
      Answered environment descriptor sequence command handled (-1)
        [⟨descriptor, handled.response sequence, true⟩, handled.event false]
  | told {result : Int} :
      handled.world.result environment .socketWrite = 0 →
      handled.notifies = true →
      (handled.world.advance .socketWrite).result environment .socketWrite = 0 →
      (result ≠ 1 ↔ handled.starts command = true ∧
        handled.world.result environment .threadCreate ≠ 0) →
      Answered environment descriptor sequence command handled result
        [⟨descriptor, handled.response sequence, true⟩, handled.event true]
  | untold {result : Int} {records : List Sent} :
      handled.world.result environment .socketWrite = 0 →
      handled.notifies = false →
      RecordsTo descriptor records →
      (∀ sent ∈ records, sent.delivered = true) →
      (result ≠ 1 ↔ handled.starts command = true ∧
        handled.world.result environment .threadCreate ≠ 0) →
      Answered environment descriptor sequence command handled result
        (⟨descriptor, handled.response sequence, true⟩ :: records)

section Answering

variable (environment : Environment)

theorem writeDevices_trace (descriptor : Int) (sequence : UInt32) (devices : List DeviceRecord)
    (world : World) :
    ∃ records, RecordsTo descriptor records ∧
      (writeDevices environment descriptor sequence devices world).2.sent = world.sent ++ records ∧
      ((writeDevices environment descriptor sequence devices world).1 = 0 →
        ∀ sent ∈ records, sent.delivered = true) ∧
      ((writeDevices environment descriptor sequence devices world).1 ≠ 0 →
        ∃ sent ∈ records, sent.delivered = false) := by
  induction devices generalizing world with
  | nil => exact ⟨[], by simp [RecordsTo], by simp [writeDevices]⟩
  | cons record rest inductionHypothesis =>
      let written : Sent :=
        ⟨descriptor, .device sequence record, decide (world.result environment .socketWrite = 0)⟩
      have own : written.descriptor = descriptor ∧
          ∃ sequence record, written.frame = .device sequence record :=
        ⟨rfl, sequence, record, rfl⟩
      by_cases fails : world.result environment .socketWrite = 0
      · obtain ⟨records, others, sent, delivered, undelivered⟩ :=
          inductionHypothesis (writeFrame environment world descriptor (.device sequence record)).2
        have step : writeDevices environment descriptor sequence (record :: rest)
              world =
              writeDevices environment descriptor sequence rest
                (writeFrame environment world descriptor (.device sequence record)).2 := by
          simp [writeDevices, writeFrame, fails]
        rw [step]
        refine ⟨written :: records, ?_, ?_, ?_, ?_⟩
        · intro entry member
          rcases List.mem_cons.mp member with rfl | member
          · exact own
          · exact others entry member
        · rw [sent]
          simp [writeFrame, written]
        · intro succeeded entry member
          rcases List.mem_cons.mp member with rfl | member
          · simp [written, fails]
          · exact delivered succeeded entry member
        · intro failed
          obtain ⟨entry, member, lost⟩ := undelivered failed
          exact ⟨entry, List.mem_cons_of_mem _ member, lost⟩
      · refine ⟨[written], ?_, ?_, ?_, ?_⟩
        · intro entry member
          rw [List.mem_singleton.mp member]
          exact own
        · simp [writeDevices, writeFrame, fails, written]
        · simp [writeDevices, writeFrame, fails]
        · intro _
          exact ⟨written, List.mem_singleton_self _, by simp [written, fails]⟩

theorem startStreams_sent (command : Command) (handled : Handled) (world : World) :
    (startStreams environment command handled world).2.sent =
      world.sent := by
  have duo (before : World) :
      (startDuo environment handled before).2.sent = before.sent := by
    unfold startDuo
    split <;> simp
  have plain (before : World) : (startPlain environment command handled before).2.sent =
        before.sent := by
    simp only [startPlain]
    split_ifs <;> simp
  have again (before : World) : (startAgain environment command handled before).2.sent =
        before.sent := by
    unfold startAgain
    split <;> simp
  simp only [startStreams, continueWith]
  split_ifs <;> simp [duo, plain, again]

section Threads

variable (command : Command) (handled : Handled) (world : World)

theorem startDuo_eq : (startDuo environment handled world).1 =
      if handled.duoStartStreamAfterResponse = true ∧
          handled.status = .ok then
        world.result environment .threadCreate
      else 0 := by
  unfold startDuo
  split <;> rfl

theorem startPlain_eq : (startPlain environment command handled world).1 =
      if command = .start ∧ handled.status = .ok then
        world.result environment .threadCreate
      else 0 := by
  simp only [startPlain]
  split_ifs <;> rfl

theorem startAgain_eq : (startAgain environment command handled world).1 =
      if handled.startStreamAfterResponse = true ∧
          (handled.status = .ok ∨ handled.startStreamAfterError = true) then
        world.result environment .threadCreate
      else 0 := by
  unfold startAgain
  split <;> rfl

variable {world} in
theorem continueWith_fails {first next : World → Int × World} (fails : (first world).1 ≠ 0) :
    continueWith first next world = (-1, (first world).2) :=
  if_pos fails

variable {world} in
theorem continueWith_succeeds {first next : World → Int × World} (succeeds : (first world).1 = 0) :
    continueWith first next world = next (first world).2 :=
  if_neg (not_not.mpr succeeds)

theorem continueWith_ne_one {first next : World → Int × World} :
    (continueWith first next world).1 ≠ 1 ↔ (first world).1 ≠ 0 ∨ (next (first world).2).1 ≠ 1 := by
  unfold continueWith
  split_ifs with fails
  · simp [fails]
  · simp [not_not.mp fails]

end Threads

/-- Only the creation of a thread that is due can fail. -/
theorem startStreams_result
    {command : Command} {handled : Handled} (world : World)
    (orderly : handled.Orderly command) :
    (startStreams environment command handled world).1 ≠ 1 ↔
      handled.starts command = true ∧ world.result environment .threadCreate ≠ 0 := by
  simp only [startStreams, continueWith_ne_one, startDuo_eq, startPlain_eq,
    startAgain_eq, Handled.starts, decide_eq_true_eq]
  by_cases duo : handled.duoStartStreamAfterResponse = true ∧ handled.status = .ok
  · obtain ⟨notStart, notAgain⟩ := orderly.duo duo.1
    simp [duo, notStart, notAgain]
  · have skipped : startDuo environment handled world = (0, world) := by
      simp [startDuo, duo]
    by_cases plain : command = .start ∧ handled.status = .ok
    · have notAgain := orderly.plain plain.1
      simp only [skipped, plain, notAgain]
      simp
    · have kept :
          startPlain environment command handled world = (0, world) := by
        simp [startPlain, plain]
      simp only [skipped, kept, duo, plain]
      simp [and_assoc]

theorem writeEvent_eq
    {handled : Handled} (notifies : handled.notifies = true)
    (world : World) :
    writeEvent environment handled world = writeFrame environment world handled.duoEvent.targetFd
        (.duo handled.duoEvent.kind handled.duoEvent.tuner) := by
  obtain ⟨accepted, named, addressed⟩ := of_decide_eq_true notifies
  have valid : ¬ handled.duoEvent.targetFd < 0 := by omega
  simp [writeEvent, sendDuoEvent, accepted, named, valid]

theorem writeEvent_none
    {handled : Handled} (silent : handled.notifies = false)
    (world : World) :
    writeEvent environment handled world = (0, world) := by
  unfold writeEvent sendDuoEvent
  split_ifs with accepted absent
  · rfl
  · have named : handled.notifies = true := by
      simp only [Handled.notifies, decide_eq_true_eq]
      exact ⟨accepted, by tauto, by omega⟩
    simp [silent] at named
  · rfl

theorem writeDevices_threads (descriptor : Int) (sequence : UInt32) (devices : List DeviceRecord)
    (world : World) :
    (writeDevices environment descriptor sequence devices world).2.result
        environment .threadCreate =
      world.result environment .threadCreate := by
  induction devices generalizing world with
  | nil => rfl
  | cons record rest inductionHypothesis =>
      simp only [writeDevices]
      split
      · rfl
      · exact inductionHypothesis _

section Respond

variable (descriptor : Int) (sequence : UInt32) {command : Command}
  {handled : Handled}

/-- The world once the response has been delivered. -/
def Handled.heard (handled : Handled) : World :=
  (writeFrame environment handled.world descriptor (handled.response sequence)).2

theorem Handled.heard_sent (delivered : handled.world.result environment .socketWrite = 0) :
    (handled.heard environment descriptor sequence).sent =
      handled.world.sent ++ [⟨descriptor, handled.response sequence, true⟩] := by
  simp [Handled.heard, writeFrame, delivered]

theorem respond_heard (delivered : handled.world.result environment .socketWrite = 0) :
    respond environment descriptor sequence command handled = continueWith
        (writeList environment descriptor sequence command handled)
        (continueWith (writeEvent environment handled) (startStreams environment command handled))
        (handled.heard environment descriptor sequence) :=
  continueWith_succeeds delivered

theorem respond_notifies (orderly : handled.Orderly command)
    (delivered : handled.world.result environment .socketWrite = 0)
    (notifies : handled.notifies = true) :
    ∃ written, (respond environment descriptor sequence command handled).2.sent =
        handled.world.sent ++ written ∧
      Answered environment descriptor sequence command handled
        (respond environment descriptor sequence command handled).1
        written := by
  let heard := handled.heard environment descriptor sequence
  have heardSent := Handled.heard_sent environment descriptor sequence delivered
  have notList : command ≠ .list := fun isList => by
    simp [orderly.list isList] at notifies
  have listless :
      writeList environment descriptor sequence command handled heard = (0, heard) := by
    simp [writeList, notList]
  have event := writeEvent_eq environment notifies heard
  rw [respond_heard environment descriptor sequence delivered, continueWith_skip listless]
  by_cases told : (handled.world.advance .socketWrite).result environment .socketWrite = 0
  · have succeeds : (writeEvent environment handled heard).1 = 0 :=
      (congrArg Prod.fst event).trans told
    rw [continueWith_succeeds succeeds, event]
    refine ⟨_, ?_, .told delivered notifies told (startStreams_result environment _ orderly)⟩
    have eventTold : heard.result environment .socketWrite = 0 := told
    rw [startStreams_sent]
    simp [writeFrame, heard, heardSent, eventTold, Handled.event]
  · have fails : (writeEvent environment handled heard).1 ≠ 0 :=
      fun succeeds => told ((congrArg Prod.fst event).symm.trans succeeds)
    rw [continueWith_fails fails, event]
    refine ⟨_, ?_, .peerUnheard delivered notifies told⟩
    have eventLost : ¬ heard.result environment .socketWrite = 0 := told
    simp [writeFrame, heard, heardSent, eventLost, Handled.event]

theorem respond_silent (orderly : handled.Orderly command)
    (delivered : handled.world.result environment .socketWrite = 0)
    (silent : handled.notifies = false) :
    ∃ written, (respond environment descriptor sequence command handled).2.sent =
        handled.world.sent ++ written ∧
      Answered environment descriptor sequence command handled
        (respond environment descriptor sequence command handled).1
        written := by
  let heard := handled.heard environment descriptor sequence
  let list :=
    writeList environment descriptor sequence command handled heard
  have heardSent := Handled.heard_sent environment descriptor sequence delivered
  obtain ⟨records, own, sent, arrived, undelivered⟩ : ∃ records, RecordsTo descriptor records ∧
        list.2.sent = heard.sent ++ records ∧
        (list.1 = 0 → ∀ sent ∈ records, sent.delivered = true) ∧
        (list.1 ≠ 0 → ∃ sent ∈ records, sent.delivered = false) := by
    simp only [list, writeList]
    split
    · exact writeDevices_trace environment descriptor sequence _ _
    · exact ⟨[], by simp [RecordsTo], by simp⟩
  have threads :
      list.2.result environment .threadCreate = handled.world.result environment .threadCreate := by
    simp only [list, writeList]
    split
    · exact writeDevices_threads environment descriptor sequence _ _
    · rfl
  rw [respond_heard environment descriptor sequence delivered]
  by_cases listed : list.1 = 0
  · rw [continueWith_succeeds listed, continueWith_skip (writeEvent_none environment silent _)]
    refine ⟨_, ?_, .untold delivered silent own (arrived listed) ?_⟩
    · rw [startStreams_sent, sent, heardSent]
      simp
    · rw [← threads]
      exact startStreams_result environment _ orderly
  · have isList : command = .list := by
      by_contra notList
      exact listed (by simp [list, writeList, notList])
    rw [continueWith_fails listed]
    refine ⟨_, ?_, .cut delivered isList own (undelivered listed)⟩
    rw [sent, heardSent]
    simp

/-- What answering a request returns and writes. -/
theorem respond_answered (orderly : handled.Orderly command) : ∃ written,
      (respond environment descriptor sequence command handled).2.sent =
        handled.world.sent ++ written ∧
      Answered environment descriptor sequence command handled
        (respond environment descriptor sequence command handled).1
        written := by
  by_cases delivered : handled.world.result environment .socketWrite = 0
  · by_cases notifies : handled.notifies = true
    · exact respond_notifies environment descriptor sequence orderly delivered notifies
    · exact respond_silent environment descriptor sequence orderly
        delivered (by simpa using notifies)
  · have answers : respond environment descriptor sequence command handled =
          (-1, handled.heard environment descriptor sequence) :=
      continueWith_fails delivered
    rw [answers]
    refine ⟨_, ?_, .unheard delivered⟩
    simp [Handled.heard, writeFrame, delivered]

end Respond

end Answering

end OpenRsp
