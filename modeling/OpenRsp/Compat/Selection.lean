import OpenRsp.Compat.Session

/-!
# Selecting a device

`sdrplay_api_SelectDevice` of `compat/sdrplay_api_compat.c`.  All its checks
come before it writes anything, except one: the role of a master or a slave is
asked of the daemon after the device context and the caller's structure have
been written, and a refusal takes back two of the fields.
-/

namespace OpenRsp

open Doubles

/-! ## The API's state -/

/-- `compat_discovery_handle`. -/
structure DiscoveryHandle where
  identity : AcquireRequest
  hwVersion : UInt8
  rspduoModeMask : UInt32
  rspduoSampleRateHz : UInt32
  valid : Bool
deriving DecidableEq, Repr

/-- What the `dev` of a device structure points to. -/
inductive DeviceHandle where
  | discovery (index : Nat)
  | device
  | other
deriving DecidableEq, Repr

/-- `sdrplay_api_DeviceT` without its serial number, which selection does not
look at.  `unknown` stands for every mode the code does not name. -/
structure DeviceT where
  hwVer : UInt8
  tuner : TunerSelect
  rspDuoMode : RspDuoMode
  valid : Bool
  rspDuoSampleFreq : Float
  dev : DeviceHandle
deriving DecidableEq, Repr

/-- `sdrplay_api_DeviceParamsT`: which of its pointers are set. -/
structure PublishedParams where
  devParams : Bool
  rxChannelA : Bool
  rxChannelB : Bool
deriving DecidableEq, Repr

/-- The API's state as far as selection uses it. -/
structure ApiState where
  apiOpen : Bool
  discoveryHandles : List DiscoveryHandle
  productId : UInt16
  hwVersion : UInt8
  params : PublishedParams
  device : ApiContext

/-- The product number of the RSPduo. -/
def rspduoProductId : UInt16 := 0x3020

/-- A rate two tuners can share. -/
def isDuoFreq (sampleFreq : Float) : Bool := sampleFreq == 6000000.0 || sampleFreq == 8000000.0

/-- The role of a mode. -/
def RspDuoMode.role : RspDuoMode → DuoRole
  | .master => .master
  | .slave => .slave
  | _ => .none

/-! ## Selection -/

namespace ApiState

/-- The handle a device structure points to. -/
def findHandle (state : ApiState) : DeviceHandle → Option DiscoveryHandle
  | .discovery index => state.discoveryHandles[index]?
  | _ => none

/-- Whether a mode, a tuner and a handle go together. -/
def modeCheck (device : DeviceT) (handle : DiscoveryHandle) : ApiError :=
  if handle.identity.productId = rspduoProductId ∧
      device.rspDuoMode = .unknown then
    .invalidMode
  else if device.rspDuoMode = .dualTuner ∧ device.tuner ≠ .both then
    .invalidMode
  else if device.rspDuoMode = .dualTuner ∧
      !isDuoFreq device.rspDuoSampleFreq then
    .invalidMode
  else if device.rspDuoMode = .singleTuner ∧ device.tuner = .both then
    .invalidMode
  else if device.rspDuoMode = .master ∧
      (device.tuner ≠ .a ∨ !isDuoFreq device.rspDuoSampleFreq) then
    .invalidMode
  else if device.rspDuoMode = .slave ∧
      (device.tuner ≠ .b ∨ handle.rspduoModeMask &&& modeCapSlave = 0 ∨
        (handle.rspduoSampleRateHz ≠ 6000000 ∧ handle.rspduoSampleRateHz ≠ 8000000)) then
    .invalidMode
  else if device.tuner = .b ∧
      handle.identity.productId ≠ rspduoProductId then
    .invalidParam
  else .success

/-- The checks of `sdrplay_api_SelectDevice`: an error, or the structure and
the handle it points to. -/
def selectChecks (state : ApiState) (device : Option DeviceT) :
    Except ApiError (DeviceT × DiscoveryHandle) :=
  if !state.apiOpen then .error .notInitialised
  else
    match device with
    | none => .error .invalidParam
    | some device =>
        if device.tuner = .neither ∨ !device.valid then .error .invalidParam
        else if state.device.selected then .error .alreadyInitialised
        else
          match state.findHandle device.dev with
          | none => .error .invalidParam
          | some handle =>
              if !handle.valid ∨ device.hwVer ≠ handle.hwVersion then
                .error .invalidParam
              else
                match modeCheck device handle with
                | .success => .ok (device, handle)
                | error => .error error

/-- The rate of a master or a slave. -/
def roleRate (device : DeviceT) (handle : DiscoveryHandle) : UInt32 :=
  if device.rspDuoMode = .master then
    (toUInt32? device.rspDuoSampleFreq).getD 0
  else handle.rspduoSampleRateHz

/-- The IF of a shared rate. -/
def roleIfType (sampleRateHz : UInt32) : Int32 :=
  if sampleRateHz = 6000000 then 1620 else 2048

/-- A channel prepared for a role. -/
def prepareRoleChannel (sampleRateHz : UInt32) (channel : RxChannelParams) :
    RxChannelParams :=
  { channel with
    tunerParams :=
      { channel.tunerParams with
        ifType := roleIfType sampleRateHz
        bwType :=
          if channel.tunerParams.bwType > bw1536 then bw1536
          else channel.tunerParams.bwType } }

/-- What selection writes before it asks for a role. -/
def writeSelection (state : ApiState) (device : DeviceT) (handle : DiscoveryHandle) : ApiState :=
  { state with
    productId := handle.identity.productId
    hwVersion := handle.hwVersion
    device :=
      { state.device with
        selected := true
        identity := handle.identity
        blocks :=
          { state.device.blocks with
            tuner := device.tuner
            mode := device.rspDuoMode
            duoRole := device.rspDuoMode.role } } }

/-- What selection writes for a role. -/
def writeRole (state : ApiState) (device : DeviceT) (sampleRateHz : UInt32) :
    ApiState :=
  { state with
    device :=
      { state.device with
        blocks :=
          { state.device.blocks with
            devParams :=
              { state.device.blocks.devParams with
                fsHz := Float.ofNat sampleRateHz.toNat }
          }.modifyChannel device.tuner (prepareRoleChannel sampleRateHz) } }

/-- The rest of a selection: the parameters of dual-tuner mode and the
pointers. -/
def publish (state : ApiState) (device : DeviceT) : ApiState :=
  let blocks := state.device.blocks
  let dualIf := if device.rspDuoSampleFreq == 6000000.0 then 1620 else 2048
  let setIf (channel : RxChannelParams) : RxChannelParams :=
    { channel with
      tunerParams := { channel.tunerParams with ifType := dualIf } }
  { state with
    device :=
      { state.device with
        blocks :=
          if blocks.mode = .dualTuner then
            { blocks with
              devParams :=
                { blocks.devParams with fsHz := device.rspDuoSampleFreq }
              channelA := setIf blocks.channelA
              channelB := setIf blocks.channelB }
          else blocks }
    params :=
      match blocks.duoRole with
      | .master => ⟨true, true, false⟩
      | .slave => ⟨false, false, true⟩
      | .none =>
          { state.params with
            rxChannelA := decide (device.tuner ≠ .b)
            rxChannelB := decide (device.tuner ≠ .a) } }

/-- `sdrplay_api_SelectDevice`.  `opened` says whether the daemon grants a
master's or a slave's role. -/
def selectDevice (state : ApiState) (device : Option DeviceT)
    (opened : Bool) : ApiError × ApiState × Option DeviceT :=
  match state.selectChecks device with
  | .error error => (error, state, device)
  | .ok (device, handle) =>
      let written := state.writeSelection device handle
      if device.rspDuoMode.role = .none then
        (.success, written.publish device, some { device with dev := .device })
      else
        let sampleRateHz := roleRate device handle
        let prepared := written.writeRole device sampleRateHz
        let device :=
          { device with
            rspDuoSampleFreq := Float.ofNat sampleRateHz.toNat }
        if opened then
          (.success,
            { prepared with
              device := { prepared.device with backend := true }
            }.publish device,
            some { device with dev := .device })
        else
          (.hwError,
            { prepared with
              device :=
                { prepared.device with
                  selected := false
                  blocks := { prepared.device.blocks with duoRole := .none } }
            },
            some device)

/-! ## What passed the checks -/

theorem modeCheck_of_selectChecks {state : ApiState}
    {argument : Option DeviceT} {device : DeviceT} {handle : DiscoveryHandle}
    (passed : state.selectChecks argument = .ok (device, handle)) :
    modeCheck device handle = .success ∧ argument = some device ∧
      state.device.selected = false := by
  unfold selectChecks at passed
  split at passed
  · cases passed
  split at passed
  · cases passed
  next requested =>
  split_ifs at passed with _ selected
  split at passed
  · cases passed
  next found _ =>
  split at passed
  · cases passed
  split at passed
  · next success =>
      obtain ⟨rfl, rfl⟩ := Prod.mk.inj (Except.ok.inj passed)
      exact ⟨success, rfl, by simpa using selected⟩
  · cases passed

/-! ## Failed selections -/

/-- The state and the caller's structure already hold what selection writes
for a role: what a refusal does not take back makes no difference. -/
structure Holds (state : ApiState) (device : DeviceT)
    (handle : DiscoveryHandle) : Prop where
  productId : state.productId = handle.identity.productId
  hwVersion : state.hwVersion = handle.hwVersion
  identity : state.device.identity = handle.identity
  tuner : state.device.blocks.tuner = device.tuner
  mode : state.device.blocks.mode = device.rspDuoMode
  duoRole : state.device.blocks.duoRole = .none
  fsHz : state.device.blocks.devParams.fsHz = Float.ofNat (roleRate device handle).toNat
  ifType : (state.device.blocks.channelForTuner device.tuner).tunerParams.ifType =
      roleIfType (roleRate device handle)
  bwType : (state.device.blocks.channelForTuner device.tuner).tunerParams.bwType ≤ bw1536
  sampleFreq : device.rspDuoSampleFreq = Float.ofNat (roleRate device handle).toNat

theorem modifyChannel_self {blocks : DeviceBlocks} {tuner : TunerSelect}
    {change : RxChannelParams → RxChannelParams}
    (same : change (blocks.channelForTuner tuner) = blocks.channelForTuner tuner) :
    blocks.modifyChannel tuner change = blocks := by
  unfold DeviceBlocks.modifyChannel DeviceBlocks.channelForTuner at *
  split_ifs at *
  all_goals rw [same]

theorem prepareRoleChannel_self {sampleRateHz : UInt32}
    {channel : RxChannelParams}
    (ifType : channel.tunerParams.ifType = roleIfType sampleRateHz)
    (bwType : channel.tunerParams.bwType ≤ bw1536) :
    prepareRoleChannel sampleRateHz channel = channel := by
  unfold prepareRoleChannel
  rw [← ifType]
  dsimp only
  rw [if_neg (UInt32.not_lt.mpr bwType)]

theorem prepareRoleChannel_bwType (sampleRateHz : UInt32) (channel : RxChannelParams) :
    (prepareRoleChannel sampleRateHz channel).tunerParams.bwType ≤
      bw1536 := by
  unfold prepareRoleChannel
  dsimp only
  split_ifs with wide
  · exact UInt32.le_refl _
  · exact UInt32.not_lt.mp wide

/-- The state a refused role leaves. -/
def refused (state : ApiState) (device : DeviceT) (handle : DiscoveryHandle) : ApiState :=
  let prepared :=
    (state.writeSelection device handle).writeRole device (roleRate device handle)
  { prepared with
    device :=
      { prepared.device with
        selected := false
        blocks := { prepared.device.blocks with duoRole := .none } } }

theorem holds_of_refused {state : ApiState} {device : DeviceT}
    {handle : DiscoveryHandle}
    (sameState : state.refused device handle = state)
    (sameDevice :
      { device with
        rspDuoSampleFreq := Float.ofNat (roleRate device handle).toNat } =
        device) :
    state.Holds device handle := by
  have blocks := congrArg (fun state => state.device.blocks) sameState
  have channel := congrArg (fun blocks => blocks.channelForTuner device.tuner) blocks
  have prepared (kept : DeviceBlocks) :
      { kept.modifyChannel device.tuner
          (prepareRoleChannel (roleRate device handle)) with
        duoRole := .none }.channelForTuner device.tuner =
        prepareRoleChannel (roleRate device handle) (kept.channelForTuner device.tuner) :=
    channelForTuner_modifyChannel kept device.tuner _
  obtain ⟨-, tuner, mode⟩ := modifyChannel_fixed
      { (state.writeSelection device handle).device.blocks with
        devParams :=
          { (state.writeSelection device handle).device.blocks.devParams with
            fsHz := Float.ofNat (roleRate device handle).toNat } }
      device.tuner (prepareRoleChannel (roleRate device handle))
  have devParams :
      state.device.blocks.devParams.fsHz = Float.ofNat (roleRate device handle).toNat := by
    rw [← blocks]
    simp only [refused, writeRole, DeviceBlocks.modifyChannel]
    split_ifs <;> rfl
  simp only [refused, writeRole, prepared] at channel
  exact
    { productId := (congrArg ApiState.productId sameState).symm
      hwVersion := (congrArg ApiState.hwVersion sameState).symm
      identity := (congrArg (fun state => state.device.identity) sameState).symm
      tuner := by
        rw [← blocks]
        exact tuner
      mode := by
        rw [← blocks]
        exact mode
      duoRole := by rw [← blocks]; rfl
      fsHz := devParams
      ifType := by rw [← channel]; rfl
      bwType := by
        rw [← channel]
        exact prepareRoleChannel_bwType _ _
      sampleFreq := (congrArg DeviceT.rspDuoSampleFreq sameDevice).symm }

theorem refused_of_holds {state : ApiState} {device : DeviceT}
    {handle : DiscoveryHandle}
    (unselected : state.device.selected = false)
    (holds : state.Holds device handle) :
    state.refused device handle = state := by
  have blocks :
      (state.refused device handle).device.blocks = state.device.blocks := by
    simp only [refused, writeRole, writeSelection]
    rw [modifyChannel_self, ← holds.fsHz, ← holds.mode, ← holds.tuner, ← holds.duoRole]
    exact prepareRoleChannel_self holds.ifType holds.bwType
  have context : (state.refused device handle).device =
        { state.device with
          selected := false
          identity := handle.identity
          blocks := (state.refused device handle).device.blocks } := rfl
  have whole : state.refused device handle =
        { state with
          productId := handle.identity.productId
          hwVersion := handle.hwVersion
          device := (state.refused device handle).device } := rfl
  rw [whole, context, blocks, ← unselected, ← holds.productId, ← holds.identity, ← holds.hwVersion]

/-- A selection that fails leaves everything as it was exactly if it fails
before it asks for a role, or what it wrote was there already. -/
theorem failed_selection_unchanged_iff (state : ApiState)
    (argument : Option DeviceT) (opened : Bool)
    (failed : (state.selectDevice argument opened).1 ≠ .success) :
    (state.selectDevice argument opened).2 = (state, argument) ↔
      ∀ device handle, state.selectChecks argument = .ok (device, handle) →
        state.Holds device handle := by
  unfold selectDevice at failed ⊢
  cases checked : state.selectChecks argument with
  | error error =>
      simp only [checked] at failed ⊢
      exact ⟨fun _ _ _ => nofun, fun _ => trivial⟩
  | ok found =>
      obtain ⟨device, handle⟩ := found
      obtain ⟨-, rfl, unselected⟩ := modeCheck_of_selectChecks checked
      simp only [checked] at failed ⊢
      by_cases plain : device.rspDuoMode.role = .none
      · rw [if_pos plain] at failed
        exact absurd rfl failed
      rw [if_neg plain] at failed ⊢
      cases opened with
      | true => exact absurd rfl failed
      | false =>
          have outcome : (state.refused device handle, some
                    { device with
                      rspDuoSampleFreq := Float.ofNat (roleRate device handle).toNat }) =
                  (state, some device) ↔
                state.Holds device handle := by
            constructor
            · intro same
              obtain ⟨sameState, sameDevice⟩ := Prod.mk.inj same
              exact holds_of_refused sameState (Option.some.inj sameDevice)
            · intro holds
              rw [refused_of_holds unselected holds, ← holds.sampleFreq]
          refine outcome.trans ?_
          constructor
          · rintro holds _ _ ⟨⟩
            exact holds
          · intro holds
            exact holds device handle rfl

/-! ## A refused master -/

def idleRspduo : DiscoveryHandle where
  identity := ⟨0, 0x1df7, rspduoProductId, []⟩
  hwVersion := 3
  rspduoModeMask := 7
  rspduoSampleRateHz := 0
  valid := true

/-- The API after `sdrplay_api_Open` and the discovery of one RSPduo. -/
def oneRspduo : ApiState where
  apiOpen := true
  discoveryHandles := [idleRspduo]
  productId := 0
  hwVersion := 0
  params := ⟨true, true, true⟩
  device := resetParameters floatLibm

/-- The structure of an application that wants to be a master at 6 MHz. -/
def wantedMaster : DeviceT where
  hwVer := 3
  tuner := .a
  rspDuoMode := .master
  valid := true
  rspDuoSampleFreq := 6000000.0
  dev := .discovery 0

/-- Once refused, a master refused again leaves no further trace. -/
theorem second_refusal_unchanged :
    ((oneRspduo.selectDevice (some wantedMaster) false).2.1.selectDevice
        (some wantedMaster) false).1 = .hwError ∧
      ((oneRspduo.selectDevice (some wantedMaster) false).2.1.selectDevice
        (some wantedMaster) false).2 =
        ((oneRspduo.selectDevice (some wantedMaster) false).2.1, some wantedMaster) := by
  have failed : ((oneRspduo.selectDevice (some wantedMaster) false).2.1.selectDevice
        (some wantedMaster) false).1 = .hwError := by
    decide +kernel
  refine ⟨failed, (failed_selection_unchanged_iff _ _ _ ?_).mpr ?_⟩
  · rw [failed]
    decide
  · intro device handle checked
    have known : (oneRspduo.selectDevice (some wantedMaster) false).2.1.selectChecks
          (some wantedMaster) = .ok (wantedMaster, idleRspduo) := by
      decide +kernel
    obtain ⟨rfl, rfl⟩ := Prod.mk.inj (Except.ok.inj (checked.symm.trans known))
    constructor <;> decide +kernel

/-- A refused master leaves its sample rate, its mode and its IF behind. -/
theorem refused_master_leaves_trace : oneRspduo.device.selected = false ∧
      (oneRspduo.selectDevice (some wantedMaster) false).1 = .hwError ∧
      oneRspduo.device.blocks.devParams.fsHz = 2000000.0 ∧
      (oneRspduo.selectDevice (some wantedMaster)
        false).2.1.device.blocks.devParams.fsHz = 6000000.0 ∧
      (oneRspduo.selectDevice (some wantedMaster) false).2.1.device.blocks.mode = .master ∧
      (oneRspduo.selectDevice (some wantedMaster)
        false).2.1.device.blocks.channelA.tunerParams.ifType = 1620 := by
  decide +kernel

end ApiState

end OpenRsp
