import Mathlib.Data.UInt

/-!
# The daemon protocol

The wire vocabulary of `include/openrsp/protocol.h`: status codes, change
flags, configuration records and the commands a client can send.  Numeric
fields keep the width and signedness of the C structures, so an arbitrary
payload is an arbitrary value of the corresponding record.

A command constructor stands for one pair of message type and payload size
that `serve_request` recognises.  Every other pair is `Command.unknown`.
-/

namespace OpenRsp

/-! ## Status codes and change flags -/

/-- `openrsp_status`. -/
inductive Status where
  | ok
  | badRequest
  | unsupported
  | busy
  | ioError
  | startPending
  | stopPending
deriving DecidableEq, Repr

/-- The value of a status on the wire. -/
def Status.code : Status → Nat
  | .ok => 0
  | .badRequest => 1
  | .unsupported => 2
  | .busy => 3
  | .ioError => 4
  | .startPending => 5
  | .stopPending => 6

def changeSampleRate : UInt32 := 0x1
def changeRf : UInt32 := 0x2
def changeBandwidth : UInt32 := 0x4
def changeIf : UInt32 := 0x8
def changeGain : UInt32 := 0x10
def changeAgc : UInt32 := 0x20
def changeBiasTee : UInt32 := 0x40
def changeRfNotch : UInt32 := 0x80
def changeDabNotch : UInt32 := 0x100
def changeExtRef : UInt32 := 0x200
def changeAmPort : UInt32 := 0x400
def changeAmNotch : UInt32 := 0x800

/-- `OPENRSP_CHANGE_RSPDUO_CONTROLS`. -/
def changeRspduoControls : UInt32 :=
  changeBiasTee ||| changeRfNotch ||| changeDabNotch ||| changeExtRef |||
    changeAmPort ||| changeAmNotch

/-- `OPENRSP_RESPONSE_RECOVERY_QUEUED`. -/
def responseRecoveryQueued : UInt32 := 0x80000000

/-- The C test `(flags & mask) != 0`. -/
def hasFlag (flags mask : UInt32) : Bool := decide (flags &&& mask ≠ 0)

/-- A test against two combined masks is the disjunction of the two tests. -/
theorem hasFlag_or (flags left right : UInt32) :
    hasFlag flags (left ||| right) = (hasFlag flags left || hasFlag flags right) := by
  have distributed :
      flags &&& (left ||| right) = (flags &&& left) ||| (flags &&& right) := by
    apply UInt32.toBitVec_inj.mp
    simp only [UInt32.toBitVec_and, UInt32.toBitVec_or]
    exact BitVec.and_or_distrib_left
  simp only [hasFlag, distributed, ne_eq, UInt32.or_eq_zero_iff, not_and_or, Bool.decide_or]

def tunerA : UInt32 := 1
def tunerB : UInt32 := 2
def tunerBoth : UInt32 := 3

def modeCapSingle : UInt32 := 1
def modeCapDual : UInt32 := 2
def modeCapMaster : UInt32 := 4
def modeCapSlave : UInt32 := 8

def modeSingle : UInt32 := 1
def modeDual : UInt32 := 2

def duoRoleMaster : UInt32 := 1
def duoRoleSlave : UInt32 := 2

/-- `OPENRSP_DEVICE_STATUS_REMOVED`. -/
def deviceStatusRemoved : UInt32 := 1

/-! ## Records -/

/-- `openrsp_acquire_request`.  A serial is the raw contents of its
`char[64]` array, terminator included. -/
structure AcquireRequest where
  deviceIndex : UInt32
  vendorId : UInt16
  productId : UInt16
  serial : List UInt8
deriving DecidableEq, Repr

/-- `openrsp_device_record`. -/
structure DeviceRecord where
  deviceIndex : UInt32
  vendorId : UInt16
  productId : UInt16
  serial : List UInt8
  model : List UInt8
  rspduoModeMask : UInt32
  rspduoSampleRateHz : UInt32
deriving DecidableEq, Repr

/-- `openrsp_duo_acquire_request`. -/
structure DuoAcquireRequest where
  identity : AcquireRequest
  role : UInt32
  tuner : UInt32
  sampleRateHz : UInt32
deriving DecidableEq, Repr

/-- `openrsp_radio_config`. -/
structure RadioConfig where
  sampleRateHz : UInt32
  centerFrequencyHz : UInt32
  bandwidthHz : UInt32
  ifFrequencyHz : Int32
  gainReductionDb : Int32
  lnaState : UInt32
  agcMode : Int32
  agcSetpointDbfs : Int32
  tuner : UInt32
  biasTeeEnabled : UInt32
  rfNotchEnabled : UInt32
  dabNotchEnabled : UInt32
  externalReferenceEnabled : UInt32
  amPortSelect : UInt32
  amNotchEnabled : UInt32
deriving DecidableEq, Repr

/-- The configuration of a zero-initialised `daemon_state`. -/
def RadioConfig.zeroed : RadioConfig := ⟨0, 0, 0, 0, 0, 0, 0, 0, 0, 0, 0, 0, 0, 0, 0⟩

/-- `openrsp_dual_config`; the reserved word is never read. -/
structure DualConfig where
  sampleRateHz : UInt32
  channelA : RadioConfig
  channelB : RadioConfig
deriving DecidableEq, Repr

def DualConfig.zeroed : DualConfig := ⟨0, RadioConfig.zeroed, RadioConfig.zeroed⟩

/-- `openrsp_update_request`. -/
structure UpdateRequest where
  changedFlags : UInt32
  config : RadioConfig
deriving DecidableEq, Repr

/-- `openrsp_swap_request`. -/
structure SwapRequest where
  tuner : UInt32
  config : RadioConfig
deriving DecidableEq, Repr

/-- `openrsp_mode_swap_request`. -/
structure ModeSwapRequest where
  mode : UInt32
  single : RadioConfig
  dual : DualConfig
deriving DecidableEq, Repr

/-! ## Commands -/

/-- A request type together with a payload of the size that type expects. -/
inductive Command where
  | ping
  | list
  | lockApi
  | unlockApi
  | duoAcquire (acquire : DuoAcquireRequest)
  | duoConfigure (config : RadioConfig)
  | duoStart
  | duoStop
  | duoRelease
  | duoSwapRate (sampleRateHz : UInt32)
  | duoUpdate (update : UpdateRequest)
  | acquire (acquire : AcquireRequest)
  | start
  | stop
  | release
  | configure (config : RadioConfig)
  | configureDual (config : DualConfig)
  | swapTuner (swap : SwapRequest)
  | swapMode (swap : ModeSwapRequest)
  | resumeMode
  | update (update : UpdateRequest)
  | unknown
deriving DecidableEq, Repr

/-! ## Configuration checks -/

/-- `openrspd_config_valid`. -/
def openrspdConfigValid (config : RadioConfig) : Bool :=
  config.sampleRateHz != 0 &&
    decide (0 ≤ config.gainReductionDb) &&
    decide (config.gainReductionDb ≤ 59) &&
    decide (config.lnaState ≤ 9) &&
    decide (0 ≤ config.agcMode) && decide (config.agcMode ≤ 4) &&
    decide (-72 ≤ config.agcSetpointDbfs) &&
    decide (config.agcSetpointDbfs ≤ 0) &&
    decide (config.biasTeeEnabled ≤ 1) &&
    decide (config.rfNotchEnabled ≤ 1) &&
    decide (config.dabNotchEnabled ≤ 1) &&
    decide (config.externalReferenceEnabled ≤ 1) &&
    decide (config.amPortSelect ≤ 1) &&
    decide (config.amNotchEnabled ≤ 1) &&
    !(config.tuner == tunerA && config.biasTeeEnabled != 0) &&
    !(config.tuner == tunerB && (config.amPortSelect != 0 || config.amNotchEnabled != 0)) &&
    (config.tuner == tunerA || config.tuner == tunerB)

/-- The low intermediate frequency that goes with a shared dual rate. -/
def requiredIf (sampleRateHz : UInt32) : Int32 :=
  if sampleRateHz = 6000000 then 1620000 else 2048000

/-- `valid_dual_config`. -/
def validDualConfig (config : DualConfig) : Bool :=
  (config.sampleRateHz == 6000000 || config.sampleRateHz == 8000000) &&
    openrspdConfigValid config.channelA &&
    openrspdConfigValid config.channelB &&
    config.channelA.tuner == tunerA &&
    config.channelB.tuner == tunerB &&
    config.channelA.sampleRateHz == config.sampleRateHz &&
    config.channelB.sampleRateHz == config.sampleRateHz &&
    config.channelA.ifFrequencyHz == requiredIf config.sampleRateHz &&
    config.channelB.ifFrequencyHz == requiredIf config.sampleRateHz &&
    decide (config.channelA.bandwidthHz ≤ 1536000) &&
    decide (config.channelB.bandwidthHz ≤ 1536000)

/-- A configuration that passes the check addresses tuner A or tuner B. -/
theorem tuner_of_openrspdConfigValid
    {config : RadioConfig}
    (valid : openrspdConfigValid config = true) :
    config.tuner = tunerA ∨ config.tuner = tunerB := by
  simp only [openrspdConfigValid, Bool.and_eq_true, Bool.or_eq_true, beq_iff_eq] at valid
  exact valid.2

end OpenRsp
