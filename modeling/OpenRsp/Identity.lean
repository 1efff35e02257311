import OpenRsp.Protocol

/-!
# Receiver identity

`src/identity.c`: a stored identity is matched against the records of an
enumeration, by serial when it has one and by raw index otherwise, and it
resolves only when exactly one record matches.
-/

namespace OpenRsp

def identityNotFound : Int := -1
def identityAmbiguous : Int := -2

/-- `terminated`: the array holds a terminator. -/
def terminated (serial : List UInt8) : Bool := (serial.take 64).contains 0

/-- The C string stored in an array: its bytes before the terminator. -/
def cString (bytes : List UInt8) : List UInt8 := bytes.takeWhile (· ≠ 0)

/-- `snprintf(array, 64, "%s", text)`. -/
def storeString (text : List UInt8) : List UInt8 := (cString text).take 63 ++ [0]

/-- The C test `serial[0] != '\0'`. -/
def hasSerial (serial : List UInt8) : Bool := !(cString serial).isEmpty

/-- `openrsp_identity_matches`. -/
def openrspIdentityMatches (identity : AcquireRequest) (candidate : DeviceRecord) : Bool :=
  if terminated identity.serial = false ∨
      terminated candidate.serial = false ∨
      identity.vendorId ≠ candidate.vendorId ∨
      identity.productId ≠ candidate.productId then
    false
  else if hasSerial identity.serial then
    cString identity.serial == cString candidate.serial
  else
    identity.deviceIndex == candidate.deviceIndex

/-- The loop of `openrsp_identity_resolve`; `found` is the index resolved so
far. -/
def resolveLoop (identity : AcquireRequest) :
    Option UInt32 → List DeviceRecord → Except Int UInt32
  | none, [] => .error identityNotFound
  | some resolved, [] => .ok resolved
  | found, device :: rest =>
      if openrspIdentityMatches identity device = false then
        resolveLoop identity found rest
      else if found.isSome then
        .error identityAmbiguous
      else
        resolveLoop identity (some device.deviceIndex) rest

/-- `openrsp_identity_resolve`: the resolved index, or the failure code. -/
def openrspIdentityResolve (identity : AcquireRequest) (devices : List DeviceRecord) :
    Except Int UInt32 :=
  resolveLoop identity none devices

/-! ## Strings in arrays -/

/-- A terminator among the first bytes bounds the string. -/
theorem cString_length_lt {bytes : List UInt8} {size : Nat}
    (terminates : 0 ∈ bytes.take size) : (cString bytes).length < size := by
  induction bytes generalizing size with
  | nil => simp at terminates
  | cons byte rest inductionHypothesis =>
      cases size with
      | zero => simp at terminates
      | succ size =>
          by_cases isEnd : byte = 0
          · simp [cString, isEnd]
          · have later : 0 ∈ rest.take size := by
              simpa [Ne.symm isEnd] using terminates
            have bounded := inductionHypothesis later
            simpa [cString, isEnd] using bounded

theorem cString_length_of_terminated {serial : List UInt8}
    (ends : terminated serial = true) : (cString serial).length ≤ 63 :=
  Nat.le_of_lt_succ (cString_length_lt (List.contains_iff_mem.mp ends))

theorem terminated_storeString (text : List UInt8) :
    terminated (storeString text) = true := by
  have short : (storeString text).length ≤ 64 := by
    simp [storeString]
  rw [terminated, List.take_of_length_le short]
  simp [storeString]

theorem cString_storeString (text : List UInt8) :
    cString (storeString text) = (cString text).take 63 := by
  have nonzero : ∀ byte ∈ (cString text).take 63, decide (byte ≠ 0) = true := fun byte member =>
      List.all_eq_true.mp List.all_takeWhile byte (List.mem_of_mem_take member)
  rw [storeString, cString, List.takeWhile_append_of_pos nonzero]
  simp

/-! ## What is resolved -/

/-- Resolution succeeds when exactly one record matches, and answers with its
index. -/
theorem resolveLoop_ok {identity : AcquireRequest} {index : UInt32}
    {devices : List DeviceRecord} {found : Option UInt32}
    (resolved : resolveLoop identity found devices = .ok index) :
    found.toList ++
        (devices.filter (openrspIdentityMatches identity)).map (·.deviceIndex) = [index] := by
  induction devices generalizing found with
  | nil =>
      cases found with
      | none => cases resolved
      | some earlier =>
          cases resolved
          rfl
  | cons device rest inductionHypothesis =>
      rw [resolveLoop.eq_def] at resolved
      simp only at resolved
      split_ifs at resolved with differs again
      · rw [List.filter_cons_of_neg (by simp [differs])]
        exact inductionHypothesis resolved
      · obtain rfl : found = none := by simpa using again
        rw [List.filter_cons_of_pos (by simpa using differs)]
        exact inductionHypothesis resolved

theorem openrspIdentityResolve_ok {identity : AcquireRequest}
    {index : UInt32} {devices : List DeviceRecord}
    (resolved : openrspIdentityResolve identity devices = .ok index) :
    (devices.filter (openrspIdentityMatches identity)).map (·.deviceIndex) = [index] :=
  resolveLoop_ok resolved

end OpenRsp
