import Mathlib.Algebra.Group.Nat.Defs
import Mathlib.Data.List.Basic

/-!
# Exact transfers over a stream

A reader wants a given number of items of a stream and calls a primitive that
may give fewer, be interrupted, time out or fail; it calls again until it has
them all.  A writer is the same in the other direction.  The outcomes of the
calls are a script.  Whatever the script is, what has been read and what is
left make up the stream.

Numbers of a fixed width are written with their lowest byte first.
-/

namespace ByteStreams

universe u

/-! ## Numbers of a fixed width -/

/-- The lowest `width` bytes of a number, lowest first. -/
def toBytes : Nat → Nat → List UInt8
  | 0, _ => []
  | width + 1, number => UInt8.ofNat number :: toBytes width (number / 256)

/-- The number with the given bytes, lowest first. -/
def ofBytes : List UInt8 → Nat
  | [] => 0
  | byte :: rest => byte.toNat + 256 * ofBytes rest

@[simp]
theorem length_toBytes (width number : Nat) :
    (toBytes width number).length = width := by
  induction width generalizing number with
  | zero => rfl
  | succ width inductionHypothesis =>
      simp [toBytes, inductionHypothesis]

theorem ofBytes_toBytes (width number : Nat) :
    ofBytes (toBytes width number) = number % 256 ^ width := by
  induction width generalizing number with
  | zero => simp [toBytes, ofBytes, Nat.mod_one]
  | succ width inductionHypothesis =>
      rw [toBytes, ofBytes, inductionHypothesis, pow_succ, Nat.mul_comm _ 256, Nat.mod_mul]
      simp

theorem ofBytes_toBytes_of_lt {width number : Nat} (bound : number < 256 ^ width) :
    ofBytes (toBytes width number) = number := by
  rw [ofBytes_toBytes, Nat.mod_eq_of_lt bound]

/-! ## Reading -/

/-- The outcome of one call: up to `limit + 1` items, as far as they are
wanted and there, or an error. -/
inductive ReadCall where
  | data (limit : Nat)
  | interrupted
  | timedOut
  | failed
deriving DecidableEq, Repr

/-- Why a transfer has ended early. -/
inductive Stop where
  | ended
  | timedOut
  | failed
deriving DecidableEq, Repr

section Transfers

variable {α : Type u}

/-- Where a transfer has got to: the items read, those left, and the calls
left. -/
inductive Read (α : Type u) where
  | done (items rest : List α) (calls : List ReadCall)
  | stopped (reason : Stop) (items rest : List α)
      (calls : List ReadCall)
  | waiting (items rest : List α)
deriving DecidableEq, Repr

/-- Read `wanted` items more; `got` have been read. -/
def readExact :
    List ReadCall → Nat → List α → List α → Read α
  | calls, 0, got, stream => .done got stream calls
  | [], _ + 1, got, stream => .waiting got stream
  | .interrupted :: calls, wanted + 1, got, stream =>
      readExact calls (wanted + 1) got stream
  | .timedOut :: calls, _ + 1, got, stream =>
      .stopped .timedOut got stream calls
  | .failed :: calls, _ + 1, got, stream =>
      .stopped .failed got stream calls
  | .data limit :: calls, wanted + 1, got, stream =>
      match stream with
      | [] => .stopped .ended got [] calls
      | item :: stream =>
          let count := min limit (min wanted stream.length)
          readExact calls (wanted - count) (got ++ item :: stream.take count) (stream.drop count)

/-- What holds of any transfer from `got` and `stream`. -/
def Read.Conserves (wanted : Nat) (got stream : List α) : Read α → Prop
  | .done items rest _ =>
      items ++ rest = got ++ stream ∧ items.length = got.length + wanted
  | .stopped _ items rest _ | .waiting items rest =>
      items ++ rest = got ++ stream ∧ items.length < got.length + wanted

/-- Items are neither lost nor invented, and a transfer is done exactly when
it has all it wants. -/
theorem readExact_conserves (calls : List ReadCall) (wanted : Nat) (got stream : List α) :
    (readExact calls wanted got stream).Conserves wanted got stream := by
  fun_induction readExact calls wanted got stream with
  | case1 => simp [Read.Conserves]
  | case2 => simp [Read.Conserves]
  | case3 calls wanted got stream inductionHypothesis =>
      exact inductionHypothesis
  | case4 => simp [Read.Conserves]
  | case5 => simp [Read.Conserves]
  | case6 => simp [Read.Conserves]
  | case7 limit calls wanted got item stream count inductionHypothesis =>
      have taken : count ≤ stream.length :=
        Nat.le_trans (Nat.min_le_right _ _) (Nat.min_le_right _ _)
      have enough : count ≤ wanted := Nat.le_trans (Nat.min_le_right _ _) (Nat.min_le_left _ _)
      have same :
          (got ++ item :: stream.take count) ++ stream.drop count = got ++ item :: stream := by simp
      have length : (got ++ item :: stream.take count).length + (wanted - count) =
            got.length + (wanted + 1) := by
        simp only [List.length_append, List.length_cons, List.length_take_of_le taken]
        omega
      cases outcome : readExact calls (wanted - count) (got ++ item :: stream.take count)
            (stream.drop count) with
      | done items rest left =>
          simp only [outcome, Read.Conserves, same, length] at inductionHypothesis ⊢
          exact inductionHypothesis
      | stopped reason items rest left =>
          simp only [outcome, Read.Conserves, same, length] at inductionHypothesis ⊢
          exact inductionHypothesis
      | waiting items rest =>
          simp only [outcome, Read.Conserves, same, length] at inductionHypothesis ⊢
          exact inductionHypothesis

/-- A finished transfer has read the front of the stream. -/
theorem readExact_done {calls left : List ReadCall} {wanted : Nat}
    {stream items rest : List α}
    (done : readExact calls wanted [] stream = .done items rest left) :
    stream = items ++ rest ∧ items.length = wanted := by
  have conserves := readExact_conserves calls wanted [] stream
  rw [done] at conserves
  simpa [Read.Conserves, eq_comm] using conserves

/-- A transfer cannot be done on a stream that is too short. -/
theorem readExact_ne_done {calls left : List ReadCall} {wanted : Nat}
    {stream items rest : List α} (short : stream.length < wanted) :
    readExact calls wanted [] stream ≠ .done items rest left := by
  intro done
  obtain ⟨rfl, length⟩ := readExact_done done
  simp only [List.length_append] at short
  omega

/-- A transfer that stops with nothing read has left the stream alone. -/
theorem readExact_stopped_nil {calls left : List ReadCall} {wanted : Nat}
    {stream rest : List α} {reason : Stop}
    (stopped : readExact calls wanted [] stream = .stopped reason [] rest left) :
    rest = stream := by
  have conserves := readExact_conserves calls wanted [] stream
  rw [stopped] at conserves
  simpa [Read.Conserves] using conserves.1

/-- With further calls a transfer goes on from where it was waiting. -/
theorem readExact_append (calls more : List ReadCall) (wanted : Nat) (got stream : List α) :
    readExact (calls ++ more) wanted got stream =
      match readExact calls wanted got stream with
      | .done items rest left => .done items rest (left ++ more)
      | .stopped reason items rest left =>
          .stopped reason items rest (left ++ more)
      | .waiting items rest =>
          readExact more (got.length + wanted - items.length) items rest := by
  fun_induction readExact calls wanted got stream with
  | case1 calls got stream => cases calls <;> cases more <;> simp [readExact]
  | case2 wanted got stream => simp
  | case3 calls wanted got stream inductionHypothesis =>
      simpa [readExact] using inductionHypothesis
  | case4 => simp [readExact]
  | case5 => simp [readExact]
  | case6 => simp [readExact]
  | case7 limit calls wanted got item stream count inductionHypothesis =>
      have taken : count ≤ stream.length :=
        Nat.le_trans (Nat.min_le_right _ _) (Nat.min_le_right _ _)
      have enough : count ≤ wanted := Nat.le_trans (Nat.min_le_right _ _) (Nat.min_le_left _ _)
      have length : (got ++ item :: stream.take count).length + (wanted - count) =
            got.length + (wanted + 1) := by
        simp only [List.length_append, List.length_cons, List.length_take_of_le taken]
        omega
      rw [length] at inductionHypothesis
      exact inductionHypothesis

/-- A call that ends a transfer for good or bad: a timeout, or the end of the
stream. -/
def Stuck (rest : List α) : ReadCall → Prop
  | .timedOut => True
  | .data _ => rest = []
  | _ => False

/-- Why a transfer ends at such a call. -/
def ReadCall.stop : ReadCall → Stop
  | .timedOut => .timedOut
  | .data _ => .ended
  | _ => .failed

/-- A transfer that waits stops at such a call. -/
theorem readExact_stuck {calls : List ReadCall} {wanted : Nat}
    {stream items rest : List α}
    (waiting : readExact calls wanted [] stream = .waiting items rest)
    {call : ReadCall} (stuck : Stuck rest call) (more : List ReadCall) :
    readExact (calls ++ call :: more) wanted [] stream = .stopped call.stop items rest more := by
  have conserves := readExact_conserves calls wanted [] stream
  rw [waiting] at conserves
  have short : items.length < wanted := by
    simpa [Read.Conserves] using conserves.2
  obtain ⟨missing, count⟩ :
      ∃ missing, ([] : List α).length + wanted - items.length = missing + 1 :=
    Nat.exists_eq_succ_of_ne_zero (by
      rw [List.length_nil]
      omega)
  rw [readExact_append, waiting]
  dsimp only
  rw [count]
  cases call with
  | timedOut => rfl
  | data limit =>
      obtain rfl : rest = [] := stuck
      rfl
  | interrupted => exact stuck.elim
  | failed => exact stuck.elim

/-- Whether a call gives data if there is any. -/
def ReadCall.isData : ReadCall → Bool
  | .data _ => true
  | _ => false

/-- A script without errors. -/
def Calm (calls : List ReadCall) : Prop := ∀ call ∈ calls, call = .interrupted ∨ call.isData = true

/-- Without errors and with as many calls that give data as items are wanted,
a transfer is done if the stream is long enough. -/
theorem readExact_calm (calls : List ReadCall) (wanted : Nat)
    (got stream : List α) (calm : Calm calls)
    (enough : wanted ≤ calls.countP ReadCall.isData)
    (long : wanted ≤ stream.length) :
    ∃ left, Calm left ∧
      calls.countP ReadCall.isData ≤ left.countP ReadCall.isData + wanted ∧
      readExact calls wanted got stream =
        .done (got ++ stream.take wanted) (stream.drop wanted) left := by
  fun_induction readExact calls wanted got stream with
  | case1 calls got stream =>
      exact ⟨calls, calm, Nat.le_refl _, by simp⟩
  | case2 wanted got stream => simp at enough
  | case3 calls wanted got stream inductionHypothesis =>
      exact inductionHypothesis (fun call member => calm call (.tail _ member))
        (by simpa [ReadCall.isData] using enough) long
  | case4 calls => simp [Calm, ReadCall.isData] at calm
  | case5 calls => simp [Calm, ReadCall.isData] at calm
  | case6 => simp at long
  | case7 limit calls wanted got item stream count inductionHypothesis =>
      have taken : count ≤ stream.length :=
        Nat.le_trans (Nat.min_le_right _ _) (Nat.min_le_right _ _)
      have within : count ≤ wanted := Nat.le_trans (Nat.min_le_right _ _) (Nat.min_le_left _ _)
      simp only [List.countP_cons, ReadCall.isData, if_true, List.length_cons] at enough long ⊢
      obtain ⟨left, calmLeft, counted, done⟩ :=
        inductionHypothesis (fun call member => calm call (.tail _ member))
          (by omega) (by simp only [List.length_drop]; omega)
      refine ⟨left, calmLeft, by omega, ?_⟩
      rw [done]
      have items : got ++ item :: stream.take count ++
              (stream.drop count).take (wanted - count) =
            got ++ (item :: stream).take (wanted + 1) := by
        rw [List.take_succ_cons, List.append_assoc, List.cons_append,
          ← List.take_append_drop count (stream.take wanted),
          List.take_take, Nat.min_eq_left within, List.drop_take]
      have rest :
          (stream.drop count).drop (wanted - count) = (item :: stream).drop (wanted + 1) := by
        rw [List.drop_drop, List.drop_succ_cons, Nat.add_sub_cancel' within]
      rw [items, rest]

/-! ## Writing -/

/-- The outcome of one call: `count` items taken, or an error. -/
inductive WriteCall where
  | wrote (count : Nat)
  | interrupted
  | failed
deriving DecidableEq, Repr

/-- Where a transfer has got to: the items written, and the calls left. -/
inductive Write (α : Type u) where
  | done (items : List α) (calls : List WriteCall)
  | stopped (items : List α)
  | waiting (items : List α)
deriving DecidableEq, Repr

/-- Write the items; `written` have been written.  `zeroStops` says whether a
call that takes nothing is an error. -/
def writeExact (zeroStops : Bool) :
    List WriteCall → List α → List α → Write α
  | calls, [], written => .done written calls
  | [], _ :: _, written => .waiting written
  | .interrupted :: calls, item :: items, written =>
      writeExact zeroStops calls (item :: items) written
  | .failed :: _, _ :: _, written => .stopped written
  | .wrote count :: calls, item :: items, written =>
      if count = 0 ∧ zeroStops then .stopped written
      else
        writeExact zeroStops calls ((item :: items).drop count)
          (written ++ (item :: items).take count)

/-- What holds of any transfer of `items` after `written`. -/
def Write.Conserves (items written : List α) : Write α → Prop
  | .done all _ => all = written ++ items
  | .stopped front | .waiting front =>
      ∃ rest, rest ≠ [] ∧ front ++ rest = written ++ items

/-- A transfer writes all, or stops short of it. -/
theorem writeExact_conserves (zeroStops : Bool) (calls : List WriteCall) (items written : List α) :
    (writeExact zeroStops calls items written).Conserves items written := by
  fun_induction writeExact zeroStops calls items written with
  | case1 => simp [Write.Conserves]
  | case2 item items written => exact ⟨item :: items, by simp, rfl⟩
  | case3 calls item items written inductionHypothesis =>
      exact inductionHypothesis
  | case4 calls item items written => exact ⟨item :: items, by simp, rfl⟩
  | case5 count calls item items written => exact ⟨item :: items, by simp, rfl⟩
  | case6 count calls item items written _ inductionHypothesis =>
      have same : written ++ (item :: items).take count ++ (item :: items).drop count =
            written ++ item :: items := by
        rw [List.append_assoc, List.take_append_drop]
      generalize writeExact zeroStops calls _ _ = outcome at inductionHypothesis ⊢
      cases outcome <;>
        simp only [Write.Conserves, same] at inductionHypothesis ⊢ <;>
        exact inductionHypothesis

/-- Whether a call takes some items. -/
def WriteCall.takes : WriteCall → Bool
  | .wrote count => count != 0
  | _ => false

/-- A script of writes without errors. -/
def CalmWrites (calls : List WriteCall) : Prop :=
  ∀ call ∈ calls, call = .interrupted ∨ call.takes = true

/-- Without errors and with as many calls that take something as there are
items, all are written. -/
theorem writeExact_calm (zeroStops : Bool) (calls : List WriteCall) (items written : List α)
    (calm : CalmWrites calls) (enough : items.length ≤ calls.countP WriteCall.takes) :
    ∃ left, CalmWrites left ∧
      calls.countP WriteCall.takes ≤ left.countP WriteCall.takes + items.length ∧
      writeExact zeroStops calls items written = .done (written ++ items) left := by
  fun_induction writeExact zeroStops calls items written with
  | case1 calls written => exact ⟨calls, calm, Nat.le_refl _, by simp⟩
  | case2 item items written => simp at enough
  | case3 calls item items written inductionHypothesis =>
      exact inductionHypothesis (fun call member => calm call (.tail _ member))
        (by simpa [WriteCall.takes] using enough)
  | case4 calls item items written => simp [CalmWrites, WriteCall.takes] at calm
  | case5 count calls item items written nothing =>
      simp [CalmWrites, WriteCall.takes, nothing.1] at calm
  | case6 count calls item items written _ inductionHypothesis =>
      have takes : WriteCall.takes (.wrote count) = true := by simpa using calm _ (.head _)
      have some : count ≠ 0 := by simpa [WriteCall.takes] using takes
      simp only [List.countP_cons, takes, if_true, List.length_cons] at enough ⊢
      obtain ⟨left, calmLeft, counted, done⟩ :=
        inductionHypothesis (fun call member => calm call (.tail _ member))
          (by simp only [List.length_drop, List.length_cons]; omega)
      simp only [List.length_drop, List.length_cons] at counted
      refine ⟨left, calmLeft, by omega, ?_⟩
      rw [done, List.append_assoc, List.take_append_drop]

end Transfers

end ByteStreams
