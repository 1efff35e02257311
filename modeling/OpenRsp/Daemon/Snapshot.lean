import OpenRsp.Daemon.Driver

/-!
# Device snapshots

`snapshot_sdrplay_devices` and `resolve_acquired_device` of
`daemon/openrspd.c`.  A snapshot is served from the cache while a handle is
open or the cache is younger than a second.  Otherwise cold devices are
bootstrapped one pass at a time and the bus is enumerated afresh.
-/

namespace OpenRsp

/-- `OPENRSPD_MAX_DEVICES`. -/
def openrspdMaxDevices : Nat := 32

/-- `OPENRSPD_DEVICE_SNAPSHOT_CACHE_NANOSECONDS`. -/
def deviceSnapshotCacheNanoseconds : Nat := 1000000000

/-- The mode mask of an RSPduo record. -/
def rspduoModeMask (daemon : DaemonState) : UInt32 :=
  if daemon.duoActive && daemon.duo.masterSelected then modeCapSlave
  else modeCapSingle ||| modeCapDual ||| modeCapMaster

/-- The record written for one enumerated device. -/
def deviceRecord (daemon : DaemonState) (rawIndex : UInt32) (device : UsbDevice) :
    DeviceRecord :=
  let identity := daemon.acquiredIdentity
  let keepsIdentity :=
    daemon.radio.isSome && rawIndex == identity.deviceIndex &&
      device.vendorId == identity.vendorId &&
      device.productId == identity.productId &&
      hasSerial identity.serial
  let isRspduo := device.productId == 0x3020
  { deviceIndex := rawIndex
    vendorId := device.vendorId
    productId := device.productId
    serial := storeString (if keepsIdentity then identity.serial else device.serial)
    model := storeString device.product
    rspduoModeMask := if isRspduo then rspduoModeMask daemon else 0
    rspduoSampleRateHz :=
      if isRspduo && daemon.duoActive then daemon.duo.sampleRateHz else 0 }

/-- The records of an enumeration, from the raw index `rawIndex` on. -/
def deviceRecords (daemon : DaemonState) :
    Nat → List UsbDevice → List DeviceRecord
  | _, [] => []
  | rawIndex, device :: rest =>
      if device.infoReadable = false ∨ device.vendorId ≠ 0x1df7 then
        deviceRecords daemon (rawIndex + 1) rest
      else
        deviceRecord daemon (UInt32.ofNat rawIndex) device ::
          deviceRecords daemon (rawIndex + 1) rest

section Snapshot

variable (environment : Environment)

/-- Look at the bus once. -/
def enumerate (world : World) : List UsbDevice × World :=
  (world.inventory environment,
    { world with enumerations := world.enumerations + 1 })

/-- Read the monotonic clock. -/
def clockGettime (world : World) : Option Nat × World :=
  (world.now environment,
    { world with clockReadings := world.clockReadings + 1 })

/-- The bootstrap loop: each pass opens the first cold device so that it
loads its firmware.  The result of closing it again is only logged. -/
def bootstrapColdDevices : Nat → World → World
  | 0, world => world
  | passes + 1, world =>
      if world.daemon.radio.isSome then world
      else
        let candidates := enumerate environment world
        if candidates.1.any (·.identityState == .cold) then
          let opened := candidates.2.result environment .coldOpen
          let after := candidates.2.advance .coldOpen
          if opened ≠ 0 then after else bootstrapColdDevices passes after
        else candidates.2

/-- The enumeration that refills the cache. -/
def refreshSnapshot (world : World) : List DeviceRecord × World :=
  let ready := bootstrapColdDevices environment openrspdMaxDevices world
  let bus := enumerate environment ready
  let records :=
    (deviceRecords bus.2.daemon 0 bus.1).take openrspdMaxDevices
  let stored :=
    bus.2.modify fun daemon => { daemon with deviceSnapshot := records }
  let time := clockGettime environment stored
  (records,
    match time.1 with
    | none => time.2
    | some now =>
        time.2.modify fun daemon =>
          { daemon with
            deviceSnapshotTime := now
            deviceSnapshotValid := true })

/-- Whether a cache filled at `filled` may still be served at `now`. -/
def snapshotFresh (filled now : Nat) : Bool :=
  decide (filled ≤ now) && decide (now - filled < deviceSnapshotCacheNanoseconds)

/-- `snapshot_sdrplay_devices` with room for `OPENRSPD_MAX_DEVICES`. -/
def snapshotSdrplayDevices (world : World) : List DeviceRecord × World :=
  if world.daemon.deviceSnapshotValid = false then
    refreshSnapshot environment world
  else if world.daemon.radio.isSome then
    (world.daemon.deviceSnapshot, world)
  else
    let time := clockGettime environment world
    match time.1 with
    | none => refreshSnapshot environment time.2
    | some now =>
        if snapshotFresh world.daemon.deviceSnapshotTime now then
          (world.daemon.deviceSnapshot, time.2)
        else
          refreshSnapshot environment time.2

/-- `resolve_acquired_device`. -/
def resolveAcquiredDevice (world : World) : Except Int UInt32 × World :=
  let devices := snapshotSdrplayDevices environment world
  match openrspIdentityResolve devices.2.daemon.acquiredIdentity
      devices.1 with
  | .error failure => (.error failure, devices.2)
  | .ok index =>
      (.ok index, devices.2.modify fun daemon =>
          { daemon with
            acquiredIdentity :=
              { daemon.acquiredIdentity with deviceIndex := index } })

end Snapshot

end OpenRsp
