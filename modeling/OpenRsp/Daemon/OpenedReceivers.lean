import OpenRsp.Daemon.SnapshotTrace

/-!
# The receiver that is opened

A receiver is acquired by its identity and opened by its index on the bus.
The index is resolved each time a handle is opened, from a fresh enumeration
or from one that is less than a second old.  When the records resolved from
place the receivers as they are on the bus, the index denotes the acquired
receiver and no other device answers to its identity.
-/

namespace OpenRsp

open Runs

/-! ## Buses -/

/-- The devices on the bus, which the driver counts in 32 bits. -/
structure Bus where
  devices : List UsbDevice
  counted : devices.length < 2 ^ 32

/-- A device the daemon makes a record of. -/
def UsbDevice.isListed (device : UsbDevice) : Bool :=
  device.infoReadable && device.vendorId == 0x1df7

/-- What a device reads as is an identity. -/
structure UsbDevice.Answers (device : UsbDevice)
    (identity : AcquireRequest) : Prop where
  readable : device.infoReadable = true
  vendor : device.vendorId = identity.vendorId
  product : device.productId = identity.productId
  serial : cString device.serial = cString identity.serial

/-- The index opened denotes the one device that answers to the identity. -/
structure Opening.Right (opening : Opening) (devices : List UsbDevice) :
    Prop where
  denotes : ∃ device, devices[opening.index.toNat]? = some device ∧ device.Answers opening.identity
  unique : ∀ position device, devices[position]? = some device →
      device.Answers opening.identity → position = opening.index.toNat

/-- Where a receiver is and what identifies it. -/
structure Place where
  index : UInt32
  vendorId : UInt16
  productId : UInt16
  serial : List UInt8
deriving DecidableEq, Repr

def DeviceRecord.place (record : DeviceRecord) : Place :=
  ⟨record.deviceIndex, record.vendorId, record.productId, record.serial⟩

def UsbDevice.place (entry : UsbDevice × Nat) : Place :=
  ⟨UInt32.ofNat entry.2, entry.1.vendorId, entry.1.productId, storeString entry.1.serial⟩

/-- The places of the receivers on a bus, counted from an index. -/
def placesFrom (start : Nat) (devices : List UsbDevice) : List Place :=
  ((devices.zipIdx start).filter (·.1.isListed)).map UsbDevice.place

/-- A bus the daemon can list in full: its receivers fit in the records and
their serials in a record. -/
structure Bus.Listable (bus : Bus) : Prop where
  fits : (placesFrom 0 bus.devices).length ≤ openrspdMaxDevices
  serials : ∀ device ∈ bus.devices, device.isListed = true → (cString device.serial).length ≤ 63

/-! ## Listings -/

/-- Without a handle the records place the receivers as they are. -/
theorem deviceRecords_places {daemon : DaemonState}
    (closed : daemon.radio = none) (start : Nat) (devices : List UsbDevice) :
    (deviceRecords daemon start devices).map DeviceRecord.place =
      placesFrom start devices := by
  induction devices generalizing start with
  | nil => rfl
  | cons device rest inductionHypothesis =>
      simp only [placesFrom] at inductionHypothesis
      simp only [deviceRecords, placesFrom, List.zipIdx_cons]
      split_ifs with skipped
      · rw [List.filter_cons_of_neg (by
          rcases skipped with unread | foreign
          · simp [UsbDevice.isListed, unread]
          · simp [UsbDevice.isListed, foreign])]
        exact inductionHypothesis (start + 1)
      · rw [List.filter_cons_of_pos (by
          simpa [UsbDevice.isListed] using skipped)]
        rw [List.map_cons, List.map_cons, inductionHypothesis (start + 1)]
        simp [DeviceRecord.place, deviceRecord, UsbDevice.place, closed]

theorem listing_places {daemon : DaemonState} {bus : Bus}
    (closed : daemon.radio = none) (listable : bus.Listable) :
    (listing daemon bus.devices).map DeviceRecord.place = placesFrom 0 bus.devices := by
  rw [listing, List.map_take, deviceRecords_places closed, List.take_of_length_le listable.fits]

/-! ## Resolution -/

/-- `openrsp_identity_matches` for an identity with a serial. -/
def Place.matches (identity : AcquireRequest) (place : Place) : Bool :=
  terminated identity.serial && terminated place.serial &&
    identity.vendorId == place.vendorId &&
    identity.productId == place.productId &&
    cString identity.serial == cString place.serial

theorem openrspIdentityMatches_place {identity : AcquireRequest}
    (serial : hasSerial identity.serial = true) (record : DeviceRecord) :
    openrspIdentityMatches identity record = Place.matches identity record.place := by
  simp only [openrspIdentityMatches, Place.matches, DeviceRecord.place, serial, if_true]
  split_ifs with differs
  · rcases differs with endless | endless | vendor | product
    · simp [endless]
    · simp [endless]
    · simp [vendor]
    · simp [product]
  · simp only [not_or, Bool.not_eq_false, not_not] at differs
    simp [differs]

/-- The index is resolved from the one place that matches. -/
theorem openrspIdentityResolve_places {identity : AcquireRequest}
    {devices : List DeviceRecord} {index : UInt32}
    (serial : hasSerial identity.serial = true)
    (resolved : openrspIdentityResolve identity devices = .ok index) :
    ((devices.map DeviceRecord.place).filter (Place.matches identity)).map (·.index) = [index] := by
  rw [← openrspIdentityResolve_ok resolved, List.filter_map, List.map_map]
  congr 1
  refine List.filter_congr fun record _ => ?_
  exact (openrspIdentityMatches_place serial record).symm

/-- Two identities that differ in their index match the same places. -/
theorem Place.matches_unindexed {first second : AcquireRequest}
    (same : first.unindexed = second.unindexed) :
    Place.matches first = Place.matches second := by
  have vendor : first.vendorId = second.vendorId := (congrArg AcquireRequest.vendorId same :)
  have product : first.productId = second.productId := (congrArg AcquireRequest.productId same :)
  have serial : first.serial = second.serial := (congrArg AcquireRequest.serial same :)
  funext place
  simp only [Place.matches, vendor, product, serial]

/-- The entry of a bus a place is matched for answers to the identity. -/
theorem UsbDevice.answers_of_matches {identity : AcquireRequest}
    {device : UsbDevice} {position : Nat}
    (fits : (cString device.serial).length ≤ 63)
    (listed : device.isListed = true)
    (found : Place.matches identity (UsbDevice.place (device, position)) = true) :
    device.Answers identity := by
  simp only [Place.matches, UsbDevice.place, cString_storeString,
    List.take_of_length_le fits, Bool.and_eq_true, beq_iff_eq] at found
  simp only [UsbDevice.isListed, Bool.and_eq_true] at listed
  obtain ⟨⟨⟨-, vendor⟩, product⟩, serial⟩ := found
  exact ⟨listed.1, vendor.symm, product.symm, serial.symm⟩

/-- A device that answers to an identity is matched. -/
theorem UsbDevice.Answers.matches {identity : AcquireRequest}
    {device : UsbDevice} (answers : device.Answers identity)
    (ends : terminated identity.serial = true) (position : Nat) :
    Place.matches identity (UsbDevice.place (device, position)) = true := by
  have fits := cString_length_of_terminated ends
  simp [Place.matches, UsbDevice.place, cString_storeString,
    List.take_of_length_le fits, terminated_storeString, ends,
    answers.vendor, answers.product, answers.serial]

/-- The one place that matches is that of one device. -/
theorem placesFrom_matched {identity : AcquireRequest} {index : UInt32}
    {devices : List UsbDevice}
    (only : ((placesFrom 0 devices).filter (Place.matches identity)).map (·.index) = [index]) :
    ∃ device position, devices[position]? = some device ∧ device.isListed = true ∧
        Place.matches identity (UsbDevice.place (device, position)) = true ∧
        index = UInt32.ofNat position ∧
        ∀ other place, devices[place]? = some other →
          other.isListed = true →
          Place.matches identity (UsbDevice.place (other, place)) = true →
          place = position := by
  rw [placesFrom, List.filter_map, List.map_map, List.filter_filter] at only
  obtain ⟨⟨device, position⟩, isOnly, isIndex⟩ := List.map_eq_singleton_iff.mp only
  have found (other : UsbDevice) (place : Nat) : ((other, place) = (device, position)) ↔
        devices[place]? = some other ∧
          Place.matches identity (UsbDevice.place (other, place)) = true ∧
          other.isListed = true := by
    rw [← List.mem_singleton, ← isOnly, List.mem_filter, List.mem_zipIdx_iff_getElem?]
    simp
  obtain ⟨isDevice, isMatch, isListed⟩ := (found device position).mp rfl
  refine ⟨device, position, isDevice, isListed, isMatch, isIndex.symm, ?_⟩
  intro other place isOther listed matched
  exact congrArg Prod.snd ((found other place).mpr ⟨isOther, matched, listed⟩)

/-- An index resolved from the places of the bus is right. -/
theorem Opening.right_of_places {opening : Opening} {bus : Bus}
    {identity : AcquireRequest} {devices : List DeviceRecord}
    (listable : bus.Listable)
    (serial : hasSerial opening.identity.serial = true)
    (same : identity.unindexed = opening.identity.unindexed)
    (places : devices.map DeviceRecord.place = placesFrom 0 bus.devices)
    (resolved : openrspIdentityResolve identity devices = .ok opening.index) :
    opening.Right bus.devices := by
  have sameSerial : identity.serial = opening.identity.serial :=
    (congrArg AcquireRequest.serial same :)
  have only := openrspIdentityResolve_places (sameSerial ▸ serial) resolved
  rw [places, Place.matches_unindexed same] at only
  obtain ⟨device, position, isDevice, listed, found, isIndex, unique⟩ := placesFrom_matched only
  have inBus : position < bus.devices.length := (List.getElem?_eq_some_iff.mp isDevice).1
  have isPosition : opening.index.toNat = position := by
    rw [isIndex, UInt32.toNat_ofNat']
    exact Nat.mod_eq_of_lt (inBus.trans bus.counted)
  have answers := UsbDevice.answers_of_matches
      (listable.serials device (List.mem_of_getElem? isDevice) listed) listed
      found
  refine ⟨⟨device, isPosition ▸ isDevice, answers⟩, ?_⟩
  intro place other isOther otherAnswers
  have ends : terminated opening.identity.serial = true := by
    simp only [Place.matches, Bool.and_eq_true] at found
    exact found.1.1.1.1
  -- The vendor of the identity is the one the daemon lists.
  have otherListed : other.isListed = true := by
    simp only [UsbDevice.isListed, Bool.and_eq_true, beq_iff_eq] at listed ⊢
    refine ⟨otherAnswers.readable, ?_⟩
    rw [otherAnswers.vendor, ← answers.vendor]
    exact listed.2
  rw [isPosition]
  exact unique other place isOther otherListed (otherAnswers.matches ends place)

/-! ## What an opening was resolved from -/

section Sight

variable (environment : Environment)

/-- The records a world without a handle may be answered with. -/
def World.Sees (world : World) (devices : List DeviceRecord) : Prop :=
  (world.CacheServed environment ∧
      devices = world.daemon.deviceSnapshot) ∨
    ∃ daemon bus, daemon.radio = none ∧
      bus ∈ Set.range environment.inventories ∧ devices = listing daemon bus

/-- An opening resolved from records a world may be answered with. -/
def Opening.SeenFrom (opening : Opening) (world : World) : Prop :=
  ∃ identity devices, identity.unindexed = opening.identity.unindexed ∧
      world.Sees environment devices ∧
      openrspIdentityResolve identity devices = .ok opening.index

/-- `Traced` without the session: what is seen or opened on the way could be
seen before. -/
structure Sighted (before after : World) : Prop where
  sees : ∀ devices, after.Sees environment devices → before.Sees environment devices
  openings : ∃ added, after.openings = before.openings ++ added ∧
      ∀ opening ∈ added, opening.SeenFrom environment before

variable {environment}

theorem World.Serves.sees {world : World} {devices : List DeviceRecord}
    (serves : world.Serves environment devices) :
    world.Sees environment devices := by
  rcases serves with served | ⟨daemon, bus, closed, -, onBus, listed⟩
  · exact .inl served
  · exact .inr ⟨daemon, bus, closed, onBus, listed⟩

theorem Traced.sighted {before after : World} (traced : Traced environment before after) :
    Sighted environment before after where
  sees devices seen := by
    rcases seen with served | listed
    · exact (traced.serves devices (.inl served)).sees
    · exact .inr listed
  openings := by
    obtain ⟨added, isAdded, addedFrom⟩ := traced.openings
    refine ⟨added, isAdded, fun opening member => ?_⟩
    obtain ⟨-, identity, devices, same, serves, resolved⟩ := addedFrom opening member
    exact ⟨identity, devices, same, serves.sees, resolved⟩

theorem Sighted.trans {first second third : World} (left : Sighted environment first second)
    (right : Sighted environment second third) :
    Sighted environment first third where
  sees devices seen := left.sees devices (right.sees devices seen)
  openings := by
    obtain ⟨earlier, isEarlier, earlierFrom⟩ := left.openings
    obtain ⟨later, isLater, laterFrom⟩ := right.openings
    refine ⟨earlier ++ later, ?_, ?_⟩
    · rw [isLater, isEarlier, List.append_assoc]
    · intro opening member
      rcases List.mem_append.mp member with inEarlier | inLater
      · exact earlierFrom opening inEarlier
      · obtain ⟨identity, devices, same, sees, resolved⟩ := laterFrom opening inLater
        exact ⟨identity, devices, same, left.sees devices sees, resolved⟩

theorem Sighted.of_inventory {before after : World}
    (inventory : after.daemon.toInventory = before.daemon.toInventory)
    (looks : after.looks = before.looks) :
    Sighted environment before after where
  sees devices seen := by
    have sameValid := congrArg Inventory.deviceSnapshotValid inventory
    have sameSnapshot := congrArg Inventory.deviceSnapshot inventory
    have sameTime := congrArg Inventory.deviceSnapshotTime inventory
    rcases seen with ⟨served, rfl⟩ | listed
    · exact .inl (served.of_frame
        (fun valid => ⟨sameValid.symm.trans valid, sameSnapshot, sameTime⟩)
        looks)
    · exact .inr listed
  openings := by
    have same : after.openings = before.openings := congrArg Prod.fst looks
    exact ⟨[], by simp [same], by simp⟩

end Sight

section Requests

variable (environment : Environment) (world : World) (descriptor : Int)

/-! ## Commands that open a receiver -/

theorem swapRateStopped_sighted (rate : UInt32) (wasStreaming : Bool) :
    Sighted environment world (swapRateStopped environment world rate wasStreaming).world := by
  have inventory := duoPrepareConfig_inventory
    { world.daemon with
      duo := { world.daemon.duo with sampleRateHz := rate } }
  simp only [swapRateStopped]
  generalize duoPrepareConfig
    { world.daemon with
      duo := { world.daemon.duo with sampleRateHz := rate } } = changed
    at inventory ⊢
  have prepared :
      Sighted environment world (world.modify fun _ => changed.2) :=
    .of_inventory inventory rfl
  have closed := prepared.trans ((tracedFrame environment).duoResetHardware _).sighted
  generalize duoResetHardware environment (world.modify fun _ => changed.2) = reset at closed ⊢
  have configured :=
    closed.trans ((tracedFrame environment).configureDualRadio reset.2 reset.2.daemon.duoConfig).sighted
  generalize
    configureDualRadio environment reset.2 reset.2.daemon.duoConfig = attempt
    at configured ⊢
  split_ifs
  · exact prepared.trans (.of_inventory rfl rfl)
  · exact closed.trans (.of_inventory rfl rfl)
  · exact configured.trans (.of_inventory rfl rfl)
  · refine Sighted.trans ?_ ((tracedFrame environment).configureDualRadio _ _).sighted
    exact configured.trans (.of_inventory rfl rfl)

theorem serveDuoSwapRate_sighted (rate : UInt32) :
    Sighted environment world (serveDuoSwapRate environment world descriptor rate).world := by
  have unchanged : Sighted environment world world := .of_inventory rfl rfl
  refine withDuoRole_outcome world descriptor _
    (fun handled => Sighted environment world handled.world) unchanged ?_
  intro role isRole active found
  have prepared := duoPrepareConfig_traced environment world
  have stopped := prepared.trans (stopStream_traced environment _)
  simp only [swapRate]
  split_ifs
  · exact unchanged
  · exact unchanged
  · exact unchanged
  · exact unchanged
  · exact unchanged
  · exact prepared.sighted
  · exact stopped.sighted
  · exact stopped.sighted.trans (swapRateStopped_sighted environment _ rate _)

/-- The commands that may open a receiver. -/
def Command.opensReceiver : Command → Bool
  | .configure _ | .configureDual _ | .swapTuner _ | .swapMode _ => true
  | .duoStart | .duoSwapRate _ => true
  | _ => false

theorem dispatch_sighted (command : Command) (opens : command.opensReceiver = true) :
    Sighted environment world (dispatch environment world descriptor command).world := by
  cases command with
  | configure config =>
      exact ((tracedFrame environment).serveConfigure world descriptor config).sighted
  | configureDual config =>
      exact ((tracedFrame environment).serveConfigureDual world descriptor config).sighted
  | swapTuner swap =>
      exact ((tracedFrame environment).serveSwapTuner world descriptor swap).sighted
  | swapMode swap =>
      exact ((tracedFrame environment).serveSwapMode world descriptor swap).sighted
  | duoStart =>
      exact (serveDuoStart_traced environment world descriptor).sighted
  | duoSwapRate rate =>
      exact serveDuoSwapRate_sighted environment world descriptor rate
  | _ => cases opens

/-! ## Commands that open none -/

theorem applyUpdate_openings (update : UpdateRequest) :
    (applyUpdate environment world update).2.openings = world.openings := by
  have dual :=
    (writeDualUpdate_registersOnly environment world update.config update.changedFlags).openings
  have single := (writeUpdate_registersOnly environment world world.daemon.config
      update.config update.changedFlags).openings
  simp only [applyUpdate, applyDualUpdate, applySingleUpdate]
  split_ifs
  · rfl
  · rfl
  · rfl
  · rfl
  · exact dual
  · exact dual
  · rfl
  · rfl
  · exact single
  · exact single

theorem serveUpdate_openings (update : UpdateRequest) :
    (serveUpdate environment world descriptor update).world.openings =
      world.openings := by
  have applied : (stopAndApplyUpdate environment world update).2.openings =
        world.openings := by
    have stopped := (stopStream_streamOnly environment world).openings
    simp only [stopAndApplyUpdate]
    split_ifs
    · exact stopped
    · exact (applyUpdate_openings environment _ update).trans stopped
    · exact applyUpdate_openings environment world update
  simp only [serveUpdate]
  split_ifs
  · rfl
  · rfl
  · exact applied
  · exact applied
  · rfl

theorem serveAcquire_openings (acquire : AcquireRequest) :
    (serveAcquire environment world descriptor acquire).world.openings =
      world.openings := by
  have looked := (snapshotSdrplayDevices_inventoryOnly environment world).openings
  simp only [serveAcquire]
  split_ifs
  · rfl
  · rfl
  · rfl
  · split
    · exact looked
    · rename_i index resolved
      have checked : (closeIfIdentityChanged environment
            (snapshotSdrplayDevices environment world).2
            (snapshotSdrplayDevices environment world).1
            index).openings = world.openings := by
        simp only [closeIfIdentityChanged]
        split_ifs
        · exact (congrArg Prod.fst (closeRadio_looks environment _)).trans looked
        · exact looked
      split_ifs
      · exact checked
      · exact checked

theorem serveDuoAcquire_openings (acquire : DuoAcquireRequest) :
    (serveDuoAcquire environment world descriptor acquire).world.openings =
      world.openings := by
  have resolved : (resolveDuoIdentity environment world acquire).2.openings =
        world.openings := by
    simp only [resolveDuoIdentity]
    split_ifs
    · exact (snapshotSdrplayDevices_inventoryOnly environment world).openings
    · rfl
    · rfl
  simp only [serveDuoAcquire]
  split_ifs
  · rfl
  · rfl
  · split
    · exact resolved
    · simp only [acquireDuoRole]
      split_ifs
      · exact resolved
      · exact resolved

theorem serveDuoConfigure_openings (config : RadioConfig) :
    (serveDuoConfigure environment world descriptor config).world.openings =
      world.openings := by
  have written := (writeRunningConfig_registersOnly environment world
      (world.daemon.duoConfig.channel config.tuner) config).openings
  have applied : (duoApplyRunningConfig environment world config).2.openings =
        world.openings := by
    simp only [duoApplyRunningConfig]
    split_ifs
    · rfl
    · rfl
    · exact written
    · exact written
  refine withDuoRole_outcome world descriptor _
    (fun handled => handled.world.openings = world.openings) rfl ?_
  intro role isRole active found
  simp only
  split_ifs
  · rfl
  · exact applied
  · exact applied

theorem serveDuoUpdate_openings (update : UpdateRequest) :
    (serveDuoUpdate environment world descriptor update).world.openings =
      world.openings := by
  refine withDuoRole_outcome world descriptor _
    (fun handled => handled.world.openings = world.openings) rfl ?_
  intro role isRole active found
  simp only
  split_ifs
  · rfl
  · rfl
  · exact applyUpdate_openings environment world update

theorem duoResetHardware_openings :
    (duoResetHardware environment world).2.openings = world.openings :=
  congrArg Prod.fst ((closeRadio_looks environment _).trans (stopIfOpen_looks environment world))

theorem serveDuoStop_openings : (serveDuoStop environment world descriptor).world.openings =
      world.openings := by
  refine withDuoRole_outcome world descriptor _
    (fun handled => handled.world.openings = world.openings) rfl ?_
  intro role isRole active found
  simp only
  split_ifs
  · exact duoResetHardware_openings environment _
  · rfl

theorem serveDuoRelease_openings : (serveDuoRelease environment world descriptor).world.openings =
      world.openings := by
  refine withDuoRole_outcome world descriptor _
    (fun handled => handled.world.openings = world.openings) rfl ?_
  intro role isRole active found
  simp only
  split_ifs
  · rfl
  · exact duoResetHardware_openings environment _
  · rfl

theorem dispatch_openings (command : Command) (opensNone : command.opensReceiver = false) :
    (dispatch environment world descriptor command).world.openings =
      world.openings := by
  cases command with
  | ping => rfl
  | list =>
      exact (snapshotSdrplayDevices_inventoryOnly environment world).openings
  | lockApi =>
      simp only [dispatch, serveLockApi]
      split_ifs <;> rfl
  | unlockApi =>
      simp only [dispatch, serveUnlockApi, releaseApiLock]
      split_ifs <;> rfl
  | duoAcquire acquire =>
      exact serveDuoAcquire_openings environment world descriptor acquire
  | duoConfigure config =>
      exact serveDuoConfigure_openings environment world descriptor config
  | duoStop => exact serveDuoStop_openings environment world descriptor
  | duoRelease => exact serveDuoRelease_openings environment world descriptor
  | duoUpdate update =>
      exact serveDuoUpdate_openings environment world descriptor update
  | acquire acquire =>
      exact serveAcquire_openings environment world descriptor acquire
  | start =>
      simp only [dispatch, serveStart]
      split_ifs <;> rfl
  | stop =>
      simp only [dispatch, serveStop]
      split_ifs
      · exact (stopStream_streamOnly environment world).openings
      · exact (stopStream_streamOnly environment world).openings
      · rfl
  | release =>
      simp only [dispatch, serveRelease]
      split_ifs
      · exact congrArg Prod.fst (releaseClient_looks environment world descriptor)
      · rfl
  | resumeMode =>
      simp only [dispatch, serveResumeMode]
      split_ifs <;> rfl
  | update update =>
      exact serveUpdate_openings environment world descriptor update
  | unknown => rfl
  | configure | configureDual | swapTuner | swapMode | duoStart
  | duoSwapRate => cases opensNone

/-- Recovery of a failed stream opens nothing, or drops the snapshot
first. -/
theorem recoverFailedStream_sighted :
    (recoverFailedStream environment world).openings = world.openings ∨
      world.daemon.streamError = true ∧ ∃ forgotten : World, forgotten.openings = world.openings ∧
            forgotten.daemon.deviceSnapshotValid = false ∧
            Sighted environment forgotten (recoverFailedStream environment world) := by
  have joined : (joinFailed environment world).openings = world.openings := by
    unfold joinFailed
    split_ifs
    · exact (joinStreamThread_streamOnly environment world).openings
    · rfl
  have closed :=
    (congrArg Prod.fst (closeRadio_looks environment (joinFailed environment world))).trans joined
  have shut := closeRadio_radio environment (joinFailed environment world)
  simp only [recoverFailedStream]
  generalize closeRadio environment (joinFailed environment world) = after at closed shut ⊢
  split_ifs with healthy busy
  · exact .inl rfl
  · exact .inl closed
  · have failed : world.daemon.streamError = true := by
      simpa using (not_or.mp healthy).1
    unfold reopenFailedStream
    split_ifs
    · exact .inl closed
    · have reopened := reopenResolved_traced environment
          ((after.2.modify forgetConfigured).modify invalidateSnapshot) shut
      exact .inr ⟨failed,
        (after.2.modify forgetConfigured).modify invalidateSnapshot, closed,
        rfl, reopened.sighted⟩

end Requests

/-! ## A bus that changes between steps -/

/-- What a step opens for an identity with a serial is right. -/
def World.OpensRight (before after : World) (bus : Bus) : Prop :=
  ∃ added, after.openings = before.openings ++ added ∧
    ∀ opening ∈ added, hasSerial opening.identity.serial = true → opening.Right bus.devices

theorem World.OpensRight.of_openings {before after : World} {bus : Bus}
    (same : after.openings = before.openings) :
    before.OpensRight after bus :=
  ⟨[], by simp [same], by simp⟩

theorem World.OpensRight.congr {before after later : World} {bus : Bus}
    (opens : before.OpensRight after bus)
    (same : later.openings = after.openings) :
    before.OpensRight later bus := by
  obtain ⟨added, isAdded, right⟩ := opens
  exact ⟨added, same.trans isAdded, right⟩

section Steps

variable (environment : Environment)

/-- The same environment with a bus that stays as it is. -/
def Environment.onBus (bus : Bus) : Environment :=
  { environment with inventories := fun _ => bus.devices }

/-- A snapshot that would be served places the receivers as they are. -/
def World.CachePlaces (world : World) (bus : Bus) : Prop :=
  world.CacheServed environment →
    world.daemon.deviceSnapshot.map DeviceRecord.place = placesFrom 0 bus.devices

variable {environment}

/-- What is seen of a bus places its receivers as they are. -/
theorem World.Sees.places {world : World} {bus : Bus}
    {devices : List DeviceRecord}
    (seen : world.Sees (environment.onBus bus) devices)
    (listable : bus.Listable) (cached : world.CachePlaces environment bus) :
    devices.map DeviceRecord.place = placesFrom 0 bus.devices := by
  rcases seen with ⟨served, rfl⟩ | ⟨daemon, onBus, closed, ⟨_, rfl⟩, rfl⟩
  · exact cached served
  · exact listing_places closed listable

theorem Sighted.opensRight {before after : World} {bus : Bus}
    (sighted : Sighted (environment.onBus bus) before after)
    (listable : bus.Listable) (cached : before.CachePlaces environment bus) :
    before.OpensRight after bus := by
  obtain ⟨added, isAdded, seenFrom⟩ := sighted.openings
  refine ⟨added, isAdded, fun opening member serial => ?_⟩
  obtain ⟨identity, devices, same, seen, resolved⟩ := seenFrom opening member
  exact Opening.right_of_places listable serial same (seen.places listable cached) resolved

variable (environment)

/-- Take a step while the bus is as given. -/
def Server.stepOnBus (server : Server) (action : Bus × Step) : Server :=
  server.step (environment.onBus action.1) action.2

/-- A step that may open a receiver finds a bus that can be listed in full,
and a request one that the snapshot it may be served has not missed a change
of. -/
def Server.SeesBus (server : Server) : Bus × Step → Prop
  | (bus, .serve _ (.request _ command)) =>
      command.opensReceiver = true → bus.Listable ∧ server.world.CachePlaces environment bus
  | (bus, .recover) =>
      server.world.daemon.streamError = true → bus.Listable
  | _ => True

theorem removeClient_openings (server : Server) (slot : Nat) :
    (removeClient environment server slot).world.openings =
      server.world.openings := by
  simp only [removeClient]
  split_ifs
  · rfl
  · refine Eq.trans ?_ (congrArg Prod.fst (releaseClient_looks environment
      server.world (server.clients.getD slot invalidSocket)))
    unfold releaseApiLock
    split_ifs <;> rfl

theorem respond_openings (descriptor : Int) (sequence : UInt32)
    (command : Command) (handled : Handled) :
    (respond environment descriptor sequence command handled).2.openings =
      handled.world.openings :=
  congrArg Prod.fst (respond_looks environment descriptor sequence command handled)

theorem serveRequest_opensRight (server : Server) (bus : Bus) (slot : Nat) (incoming : Incoming)
    (sees : server.SeesBus environment (bus, .serve slot incoming)) :
    server.world.OpensRight
      (serveRequest (environment.onBus bus) server.world
        (server.clients.getD slot invalidSocket) incoming).2 bus := by
  cases incoming with
  | closed => exact .of_openings rfl
  | unreadable => exact .of_openings rfl
  | badHeader sequence =>
      exact .of_openings (respond_openings _ _ sequence .unknown _)
  | request sequence command =>
      refine World.OpensRight.congr ?_ (respond_openings _ _ sequence command _)
      cases opens : command.opensReceiver with
      | true =>
          obtain ⟨listable, cached⟩ := sees opens
          exact (dispatch_sighted _ server.world _ command opens).opensRight listable cached
      | false =>
          exact .of_openings (dispatch_openings _ server.world _ command opens)

theorem evictClient_openings (server : Server) : (evictClient environment server).world.openings =
      server.world.openings := by
  simp only [evictClient]
  split_ifs
  · rfl
  · split
    · rfl
    · exact removeClient_openings environment _ _

theorem Server.stepOnBus_opensRight (server : Server) (action : Bus × Step)
    (sees : server.SeesBus environment action) :
    server.world.OpensRight (server.stepOnBus environment action).world
      action.1 := by
  obtain ⟨bus, step⟩ := action
  cases step with
  | accept descriptor =>
      simp only [Server.stepOnBus, Server.step, acceptClient]
      split_ifs <;> exact .of_openings rfl
  | hangup slot => exact .of_openings (removeClient_openings _ server slot)
  | serve slot incoming =>
      have served := serveRequest_opensRight environment server bus slot incoming sees
      simp only [Server.stepOnBus, Server.step, serveClient]
      split_ifs
      · exact .of_openings rfl
      · exact served.congr (removeClient_openings _ _ slot)
      · exact served
  | evict => exact .of_openings (evictClient_openings _ server)
  | recover =>
      rcases recoverFailedStream_sighted (environment.onBus bus)
          server.world with same | ⟨failed, forgotten, same, invalid, sighted⟩
      · exact .of_openings same
      · have unserved : forgotten.CachePlaces environment bus := by
          rintro ⟨valid, -⟩
          rw [invalid] at valid
          cases valid
        obtain ⟨added, isAdded, right⟩ := sighted.opensRight (sees failed) unserved
        exact ⟨added, same ▸ isAdded, right⟩
  | finishRecovery =>
      refine .of_openings ?_
      simp only [Server.stepOnBus, Server.step, finishRecoveryConfig]
      split_ifs
      · rfl
      · exact (writeRecoveryConfig_registersOnly _ server.world _ _).openings
  | streamEnds =>
      exact .of_openings (streamThreadEnds_streamOnly _ server.world).openings
  | streamBlock tuner length =>
      simp only [Server.stepOnBus, Server.step]
      split_ifs
      · exact .of_openings rfl
      · exact .of_openings (sendStream_reportsOnly _ server.world tuner length).openings

/-- In every run during which the bus changes between steps, and whose steps
see the bus, a receiver opened for an identity with a serial is the one device
that answers to it. -/
theorem right_receiver_opened (initial : List (Bus × Step))
    (action : Bus × Step) (rest : List (Bus × Step))
    (sees : StepsMeet (Server.stepOnBus environment) (Server.SeesBus environment)
        Server.initial (initial ++ action :: rest)) :
    let before :=
      runSteps (Server.stepOnBus environment) Server.initial initial
    before.world.OpensRight (before.stepOnBus environment action).world
      action.1 :=
  Server.stepOnBus_opensRight environment _ action sees.allowed_at

end Steps

/-! ## Two receivers that change places -/

/-- An RSPduo with a serial of one character. -/
def receiverWithSerial (character : UInt8) : UsbDevice :=
  ⟨true, 0x1df7, 0x3020, [82, 83, 80], [character], .ready⟩

/-- Receivers 1 and 2. -/
def twoReceivers : Bus := ⟨[receiverWithSerial 49, receiverWithSerial 50], by decide⟩

/-- Receivers 2 and 1. -/
def swappedReceivers : Bus := ⟨[receiverWithSerial 50, receiverWithSerial 49], by decide⟩

/-- Client 5 acquires receiver 1. -/
def acquireFirst : List (Bus × Step) :=
  [(twoReceivers, .accept 5), (twoReceivers, .serve 0 (.request 1 (.acquire receiverIdentity)))]

/-- Client 5 configures it after the receivers have changed places. -/
def configureSwapped : Bus × Step :=
  (swappedReceivers, .serve 0 (.request 2 (.configure sampleConfig)))

/-- Two seconds later the receiver is found in its new place. -/
theorem swapped_receiver_opened :
    let before :=
      runSteps (Server.stepOnBus slowReceiver) Server.initial acquireFirst
    let after := before.stepOnBus slowReceiver configureSwapped
    after.world.openings.map (·.index) = [1] ∧
      before.world.OpensRight after.world swappedReceivers := by
  refine ⟨by decide +kernel, right_receiver_opened slowReceiver acquireFirst configureSwapped [] ?_⟩
  have listable : swappedReceivers.Listable := ⟨by decide, by decide⟩
  have unserved : ¬(runSteps (Server.stepOnBus slowReceiver) Server.initial
        acquireFirst).world.CacheServed slowReceiver := by
    decide +kernel
  exact ⟨trivial, nofun, fun _ => ⟨listable, fun served => absurd served unserved⟩, trivial⟩

/-- Within a second the index of the other receiver is opened. -/
theorem swapped_receiver_mistaken :
    let before :=
      runSteps (Server.stepOnBus oneReceiver) Server.initial acquireFirst
    let after := before.stepOnBus oneReceiver configureSwapped
    ∃ opening ∈ after.world.openings, hasSerial opening.identity.serial = true ∧
        opening.inventory = swappedReceivers.devices ∧
        ¬opening.Right swappedReceivers.devices := by
  refine ⟨⟨0, receiverIdentity, swappedReceivers.devices⟩,
    by decide +kernel, by decide, rfl, fun right => ?_⟩
  have elsewhere := right.unique 1 (receiverWithSerial 49) rfl ⟨rfl, rfl, rfl, by decide⟩
  exact absurd elsewhere (by decide)

end OpenRsp
