import Mathlib
import OpenRsp.Library.BitFields
import OpenRsp.Library.Runs

/-!
# From packets to blocks of samples

A completed transfer is a row of packets of 1024 bytes, each with a header of
16.  The functions of `third_party/libmirisdr/src/convert` unpack the samples
of a packet, and `mirisdr_feed_async` of `async.c` hands them on, in blocks of
`xfer_out_len` bytes when that is set.  With both tuners of an RSPduo running,
`_libusb_callback` gives every other sample to each of them, with a zero behind
it.  It drops a transfer that arrives after a cancellation or a failure or did
not complete, and one of an RSPduo that cannot be submitted again.
-/

namespace OpenRsp.Driver

open BitFields ByteStreams Runs

/-! ## Unpacking -/

/-- The packet formats with samples of 16 bits. -/
inductive SampleFormat where
  | s16x252
  | s16x336
  | s16x384
  | s16x504
deriving DecidableEq, Repr

/-- A sample that is put together from two bytes. -/
def joined (low : UInt8) (lowMask lowShift : Nat)
    (high : UInt8) (highMask highShift : Nat) : BitVec 16 :=
  BitVec.ofNat 16 ((low.toNat &&& lowMask) <<< lowShift ||| (high.toNat &&& highMask) <<< highShift)

/-- The payload of a packet in `mirisdr_samples_convert_252_s16`. -/
def convert252 : List UInt8 → List (BitVec 16)
  | b0 :: b1 :: b2 :: b3 :: rest =>
      joined b0 0xff 2 b1 0xff 10 :: joined b2 0xff 2 b3 0xff 10 :: convert252 rest
  | _ => []

/-- The payload of a packet in `mirisdr_samples_convert_336_s16`. -/
def convert336 : List UInt8 → List (BitVec 16)
  | b0 :: b1 :: b2 :: rest =>
      joined b0 0xff 4 b1 0x0f 12 :: joined b1 0xf0 0 b2 0xff 8 :: convert336 rest
  | _ => []

/-- The shift of a group in `mirisdr_samples_convert_384_s16`. -/
def shifted (code : Nat) (sample : BitVec 16) : BitVec 16 :=
  match code with
  | 0 => sample.sshiftRight 2
  | 1 => sample.sshiftRight 1
  | _ => sample

/-- The groups of a block from the `k`-th on. -/
def convertBlock384 (shift : Nat) : Nat → List UInt8 → List (BitVec 16)
  | k, b0 :: b1 :: b2 :: b3 :: b4 :: b5 :: b6 :: b7 :: b8 :: b9 :: rest =>
      [joined b0 0xff 6 b1 0x03 14, joined b1 0xfc 4 b2 0x0f 12,
        joined b2 0xf0 2 b3 0x3f 10, joined b3 0xc0 0 b4 0xff 8,
        joined b5 0xff 6 b6 0x03 14, joined b6 0xfc 4 b7 0x0f 12,
        joined b7 0xf0 2 b8 0x3f 10, joined b8 0xc0 0 b9 0xff 8].map
          (shifted (shift >>> (2 * k) &&& 3)) ++
        convertBlock384 shift (k + 1) rest
  | _, _ => []

/-- Six blocks, each with its shifts behind it. -/
def convert384 (payload : List UInt8) : List (BitVec 16) :=
  (List.range 6).flatMap fun j =>
    convertBlock384 (ofBytes ((payload.drop (164 * j + 160)).take 4)) 0
      ((payload.drop (164 * j)).take 160)

/-- The payload of a packet in `mirisdr_samples_convert_504_s16`. -/
def convert504 : List UInt8 → List (BitVec 16)
  | b0 :: b1 :: rest =>
      BitVec.ofNat 16 (b0.toNat <<< 8) :: BitVec.ofNat 16 (b1.toNat <<< 8) :: convert504 rest
  | _ => []

def SampleFormat.convert : SampleFormat → List UInt8 → List (BitVec 16)
  | .s16x252 => convert252
  | .s16x336 => convert336
  | .s16x384 => convert384
  | .s16x504 => convert504

/-- The samples of a transfer. -/
def SampleFormat.convertTransfer (format : SampleFormat) (buffer : List UInt8) : List (BitVec 16) :=
  (List.range (buffer.length / 1024)).flatMap fun packet =>
    format.convert ((buffer.drop (1024 * packet + 16)).take 1008)

/-! ## What a packet holds -/

/-- A field at the upper end of a sample. -/
def scaled (shift value : Nat) : BitVec 16 := BitVec.ofNat 16 (value * 2 ^ shift)

/-- What a payload means: 504 fields of 16 bits whose upper two are unused,
672 of twelve, 1008 of eight, or six blocks of 128 fields of ten bits, every
eight of which share a shift. -/
def SampleFormat.meaning (payload : List UInt8) :
    SampleFormat → List (BitVec 16)
  | .s16x252 => row (fun _ => scaled 2) 16 0 504 payload
  | .s16x336 => row (fun _ => scaled 4) 12 0 672 payload
  | .s16x384 =>
      (List.range 6).flatMap fun j =>
        row
          (fun index value =>
            shifted
              (field 2 (ofBytes ((payload.drop (164 * j + 160)).take 4)) (index / 8))
              (scaled 6 value))
          10 0 128 ((payload.drop (164 * j)).take 160)
  | .s16x504 => row (fun _ => scaled 8) 8 0 1008 payload

theorem masked_high :
    ∀ byte < 256, ∀ k < 9, byte &&& (256 - 2 ^ k) = byte / 2 ^ k * 2 ^ k := by
  decide +kernel

/-- A joined sample is the upper bits of one byte and the lower of the
next. -/
theorem joined_eq {low high : UInt8} (k s m : Nat) {value : Nat} (narrow : k < 9)
    (isValue : value = low.toNat / 2 ^ k + 2 ^ (8 - k) * (high.toNat % 2 ^ m)) :
    joined low (256 - 2 ^ k) s high (2 ^ m - 1) (s + 8) = scaled (k + s) value := by
  have bound : low.toNat / 2 ^ k * 2 ^ k * 2 ^ s < 2 ^ (s + 8) := by
    rw [pow_add, Nat.mul_comm (2 ^ s)]
    refine Nat.mul_lt_mul_of_pos_right ?_ (by positivity)
    exact (Nat.div_mul_le_self _ _).trans_lt low.toNat_lt
  have whole : 2 ^ (8 - k) * 2 ^ k = 2 ^ 8 := by
    rw [← pow_add, Nat.sub_add_cancel (Nat.le_of_lt_succ narrow)]
  unfold joined scaled
  rw [masked_high _ low.toNat_lt _ narrow, Nat.and_two_pow_sub_one_eq_mod,
    Nat.shiftLeft_eq, or_field bound, isValue]
  congr 1
  rw [pow_add, ← whole, pow_add]
  ring

theorem convert252_eq {payload : List UInt8} (whole : payload.length = 1008) :
    convert252 payload = row (fun _ => scaled 2) 16 0 504 payload := by
  refine @eq_row_of_groups _ (fun _ => convert252) (fun _ => scaled 2) 4 16 2
    rfl (fun _ => rfl) ?_ 252 0 payload whole
  intro number chunk rest size
  match chunk, size with
  | [b0, b1, b2, b3], _ =>
      have bound0 := b0.toNat_lt
      have bound1 := b1.toNat_lt
      have bound2 := b2.toNat_lt
      have bound3 := b3.toNat_lt
      refine congrArg₂ List.cons (joined_eq 0 2 8 (by decide) ?_)
        (congrArg₂ List.cons (joined_eq 0 2 8 (by decide) ?_) rfl)
      all_goals
        simp only [field, ofBytes]
        omega

theorem convert336_eq {payload : List UInt8} (whole : payload.length = 1008) :
    convert336 payload = row (fun _ => scaled 4) 12 0 672 payload := by
  refine @eq_row_of_groups _ (fun _ => convert336) (fun _ => scaled 4) 3 12 2
    rfl (fun _ => rfl) ?_ 336 0 payload whole
  intro number chunk rest size
  match chunk, size with
  | [b0, b1, b2], _ =>
      have bound0 := b0.toNat_lt
      have bound1 := b1.toNat_lt
      have bound2 := b2.toNat_lt
      refine congrArg₂ List.cons (joined_eq 0 4 4 (by decide) ?_)
        (congrArg₂ List.cons (joined_eq 4 0 8 (by decide) ?_) rfl)
      all_goals
        simp only [field, ofBytes]
        omega

/-- Ten bytes hold eight fields. -/
theorem mantissas384 (b0 b1 b2 b3 b4 b5 b6 b7 b8 b9 : UInt8) :
    [joined b0 0xff 6 b1 0x03 14, joined b1 0xfc 4 b2 0x0f 12,
      joined b2 0xf0 2 b3 0x3f 10, joined b3 0xc0 0 b4 0xff 8,
      joined b5 0xff 6 b6 0x03 14, joined b6 0xfc 4 b7 0x0f 12,
      joined b7 0xf0 2 b8 0x3f 10, joined b8 0xc0 0 b9 0xff 8] =
      (List.range 8).map fun index =>
        scaled 6 (field 10 (ofBytes [b0, b1, b2, b3, b4, b5, b6, b7, b8, b9]) index) := by
  have bounds :
      ∀ byte ∈ [b0, b1, b2, b3, b4, b5, b6, b7, b8, b9], byte.toNat < 256 :=
    fun byte _ => byte.toNat_lt
  simp only [List.forall_mem_cons] at bounds
  refine congrArg₂ List.cons (joined_eq 0 6 2 (by decide) ?_) <|
    congrArg₂ List.cons (joined_eq 2 4 4 (by decide) ?_) <|
    congrArg₂ List.cons (joined_eq 4 2 6 (by decide) ?_) <|
    congrArg₂ List.cons (joined_eq 6 0 8 (by decide) ?_) <|
    congrArg₂ List.cons (joined_eq 0 6 2 (by decide) ?_) <|
    congrArg₂ List.cons (joined_eq 2 4 4 (by decide) ?_) <|
    congrArg₂ List.cons (joined_eq 4 2 6 (by decide) ?_) <|
    congrArg₂ List.cons (joined_eq 6 0 8 (by decide) ?_) rfl
  all_goals
    simp only [field, ofBytes]
    omega

theorem convertBlock384_eq {payload : List UInt8} (shift : Nat) (whole : payload.length = 160) :
    convertBlock384 shift 0 payload = row
        (fun index value =>
          shifted (field 2 shift (index / 8)) (scaled 6 value))
        10 0 128 payload := by
  refine eq_row_of_groups (by rfl : 8 * 10 = 10 * 8) (fun _ => rfl) ?_ 16 0 whole
  intro number chunk rest size
  match chunk, size with
  | [b0, b1, b2, b3, b4, b5, b6, b7, b8, b9], _ =>
      have code : shift >>> (2 * number) &&& 3 = field 2 shift number := by
        rw [field, Nat.shiftRight_eq_div_pow]
        exact Nat.and_two_pow_sub_one_eq_mod _ 2
      simp only [List.cons_append, List.nil_append, convertBlock384]
      rw [mantissas384, code, List.map_map, row]
      congr 1
      refine List.map_congr_left fun index member => ?_
      have inside := List.mem_range.mp member
      rw [Function.comp_apply,
        show (8 * number + index) / 8 = number by omega]

theorem convert504_eq {payload : List UInt8} (whole : payload.length = 1008) :
    convert504 payload = row (fun _ => scaled 8) 8 0 1008 payload := by
  refine @eq_row_of_groups _ (fun _ => convert504) (fun _ => scaled 8) 2 8 2
    rfl (fun _ => rfl) ?_ 504 0 payload whole
  intro number chunk rest size
  match chunk, size with
  | [b0, b1], _ =>
      have bound0 := b0.toNat_lt
      have bound1 := b1.toNat_lt
      have first : field 8 (ofBytes [b0, b1]) 0 = b0.toNat := by
        simp only [field, ofBytes]
        omega
      have second : field 8 (ofBytes [b0, b1]) 1 = b1.toNat := by
        simp only [field, ofBytes]
        omega
      simp [convert504, row, List.range_succ, scaled, first, second, Nat.shiftLeft_eq]

theorem SampleFormat.convert_eq (format : SampleFormat)
    {payload : List UInt8} (whole : payload.length = 1008) :
    format.convert payload = format.meaning payload := by
  cases format with
  | s16x252 => exact convert252_eq whole
  | s16x336 => exact convert336_eq whole
  | s16x504 => exact convert504_eq whole
  | s16x384 =>
      refine List.flatMap_congr fun j member => convertBlock384_eq _ ?_
      have inside := List.mem_range.mp member
      rw [List.length_take, List.length_drop]
      omega

/-- The samples the packets of a transfer hold. -/
def SampleFormat.samples (format : SampleFormat) (buffer : List UInt8) :
    List (BitVec 16) :=
  (List.range (buffer.length / 1024)).flatMap fun packet =>
    format.meaning ((buffer.drop (1024 * packet + 16)).take 1008)

theorem SampleFormat.convertTransfer_eq (format : SampleFormat) (buffer : List UInt8) :
    format.convertTransfer buffer = format.samples buffer := by
  refine List.flatMap_congr fun packet member => format.convert_eq ?_
  have inside := List.mem_range.mp member
  rw [List.length_take, List.length_drop]
  omega

theorem even_flatMap {α β : Type} {parts : α → List β} (even : ∀ part, Even (parts part).length)
    (whole : List α) : Even (whole.flatMap parts).length := by
  induction whole with
  | nil => simp
  | cons part rest inductionHypothesis =>
      rw [List.flatMap_cons, List.length_append]
      exact (even part).add inductionHypothesis

/-- Samples come in pairs. -/
theorem SampleFormat.even_samples (format : SampleFormat)
    (buffer : List UInt8) : Even (format.samples buffer).length := by
  refine even_flatMap (fun packet => ?_) _
  cases format <;> simp [SampleFormat.meaning, row] <;> decide

/-- What a transfer carries. -/
inductive Payload where
  | bulk (buffer : List UInt8)
  | isochronous (packets : List (List UInt8))
deriving DecidableEq, Repr

/-- The buffers `_libusb_callback` converts one after the other. -/
def Payload.buffers : Payload → List (List UInt8)
  | .bulk buffer => [buffer]
  | .isochronous packets => packets.filter (· ≠ [])

/-- The transfer is submitted again before its copy is converted. -/
def Payload.early : Payload → Bool
  | .bulk buffer => decide (buffer ≠ [])
  | .isochronous _ => false

/-! ## Blocks -/

/-- The loop of `mirisdr_feed_async`: full blocks, and what is left. -/
def splitBlocks (outLen : Nat) (samples : List UInt8) :
    List (List UInt8) × List UInt8 :=
  if 0 < outLen ∧ outLen ≤ samples.length then
    let rest := splitBlocks outLen (samples.drop outLen)
    (samples.take outLen :: rest.1, rest.2)
  else ([], samples)
termination_by samples.length
decreasing_by
  rw [List.length_drop]
  omega

/-- `mirisdr_feed_async`, where `held` is what `xfer_out` holds: the blocks
handed on, and what it holds then. -/
def feedAsync (outLen : Nat) (held samples : List UInt8) :
    List (List UInt8) × List UInt8 :=
  if outLen = 0 then ([samples], held)
  else if held = [] then
    if samples.length = outLen then ([samples], [])
    else if samples.length < outLen then ([], samples)
    else splitBlocks outLen samples
  else if held.length + samples.length = outLen then ([held ++ samples], [])
  else if held.length + samples.length < outLen then ([], held ++ samples)
  else
    let rest := splitBlocks outLen (samples.drop (outLen - held.length))
    ((held ++ samples.take (outLen - held.length)) :: rest.1, rest.2)

theorem splitBlocks_spec {outLen : Nat} (positive : 0 < outLen) (samples : List UInt8) :
    let split := splitBlocks outLen samples
    split.1.flatten ++ split.2 = samples ∧ split.2.length < outLen ∧
      ∀ block ∈ split.1, block.length = outLen := by
  fun_induction splitBlocks outLen samples with
  | case1 samples long rest inductionHypothesis =>
      obtain ⟨joins, short, sized⟩ := inductionHypothesis
      refine ⟨?_, short, ?_⟩
      · rw [List.flatten_cons, List.append_assoc, joins, List.take_append_drop]
      · rintro block (_ | ⟨_, member⟩)
        · simp [long.2]
        · exact sized block member
  | case2 samples short => exact ⟨rfl, by dsimp only; omega, by simp⟩

/-- Feeding loses nothing and hands on blocks of the right size. -/
theorem feedAsync_spec {outLen : Nat} {held : List UInt8}
    (fits : held.length < max outLen 1) (samples : List UInt8) :
    let fed := feedAsync outLen held samples
    fed.1.flatten ++ fed.2 = held ++ samples ∧
      fed.2.length < max outLen 1 ∧
      (outLen ≠ 0 → ∀ block ∈ fed.1, block.length = outLen) := by
  unfold feedAsync
  split_ifs with unset empty exact short exact short
  · obtain rfl : held = [] := List.length_eq_zero_iff.mp (by omega)
    simp [unset]
  · simp [empty, exact]
  · simp [empty]
    omega
  · obtain ⟨joins, short, sized⟩ :=
      splitBlocks_spec (Nat.pos_of_ne_zero unset) samples
    exact ⟨by simpa [empty] using joins, by omega, fun _ => sized⟩
  · simp [exact]
  · simp
    omega
  · obtain ⟨joins, short, sized⟩ :=
      splitBlocks_spec (Nat.pos_of_ne_zero unset) (samples.drop (outLen - held.length))
    refine ⟨?_, by dsimp only; omega, ?_⟩
    · dsimp only
      rw [List.flatten_cons, List.append_assoc, joins, List.append_assoc, List.take_append_drop]
    · rintro - block (_ | ⟨_, member⟩)
      · rw [List.length_append, List.length_take]
        omega
      · exact sized block member

/-! ## Streams -/

/-- Who gets samples: the callback of `mirisdr_read_async`, or that of
`mirisdr_read_async_dual` for one of the tuners. -/
inductive Receiver where
  | callback
  | tunerA
  | tunerB
deriving DecidableEq, Repr

/-- Every other sample, with zeros for the missing halves. -/
def lane (first : Bool) : List (BitVec 16) → List (BitVec 16)
  | a :: b :: rest => (if first then a else b) :: 0 :: lane first rest
  | _ => []

/-- What a receiver gets of the samples of a transfer. -/
def Receiver.select : Receiver → List (BitVec 16) → List (BitVec 16)
  | .callback => id
  | .tunerA => lane true
  | .tunerB => lane false

/-- The samples in memory. -/
def sampleBytes (samples : List (BitVec 16)) : List UInt8 :=
  samples.flatMap fun sample => toBytes 2 sample.toNat

theorem lane_append (first : Bool) {samples : List (BitVec 16)}
    (even : Even samples.length) (more : List (BitVec 16)) :
    lane first (samples ++ more) = lane first samples ++ lane first more := by
  fun_induction lane first samples with
  | case1 a b rest inductionHypothesis =>
      have even : Even rest.length := by
        simpa [Nat.even_add_one] using even
      simp [lane, inductionHypothesis even]
  | case2 samples short =>
      match samples, short with
      | [], _ => rfl
      | [_], _ => simp at even
      | a :: b :: rest, short => exact absurd rfl (short a b rest)

theorem Receiver.select_append (receiver : Receiver)
    {samples : List (BitVec 16)} (even : Even samples.length)
    (more : List (BitVec 16)) :
    receiver.select (samples ++ more) = receiver.select samples ++ receiver.select more := by
  cases receiver with
  | callback => rfl
  | tunerA => exact lane_append true even more
  | tunerB => exact lane_append false even more

/-- How a stream is set up, as one receiver sees it.  Only an RSPduo streams
from both tuners, and for them no length is set. -/
structure StreamSetup where
  format : SampleFormat
  receiver : Receiver
  rspduo : Bool
  outLen : Nat
  dualSamplesSize : Nat
  direct : receiver ≠ .callback → rspduo = true ∧ outLen = 0

/-- A stream between two pauses, with what `xfer_out` holds. -/
structure SampleStream extends StreamSetup where
  held : List UInt8
  fits : held.length < max outLen 1

/-- A transfer as `_libusb_callback` gets it: whether the status still allows
to submit it again, whether it completed, and whether it could be copied and
submitted. -/
structure Arrival where
  payload : Payload
  allowed : Bool
  completed : Bool
  resubmits : Bool
deriving DecidableEq, Repr

namespace StreamSetup

/-- The samples `_libusb_callback` converts. -/
def convert (setup : StreamSetup) (payload : Payload) : List (BitVec 16) :=
  payload.buffers.flatMap setup.format.convertTransfer

/-- The samples a transfer holds. -/
def samples (setup : StreamSetup) (transfer : Arrival) : List (BitVec 16) :=
  transfer.payload.buffers.flatMap setup.format.samples

/-- The checks of `_libusb_callback` on the way to the receiver. -/
def takes (setup : StreamSetup) (transfer : Arrival) : Bool :=
  transfer.allowed && transfer.completed &&
    (!(setup.rspduo && transfer.payload.early) || transfer.resubmits) &&
    (setup.receiver == .callback ||
      decide (2 * (setup.convert transfer.payload).length ≤ setup.dualSamplesSize))

/-- What the receiver is to get: its part of the samples held by the transfers
that are taken. -/
def part (setup : StreamSetup) (transfers : List Arrival) : List UInt8 :=
  sampleBytes (setup.receiver.select ((transfers.filter setup.takes).flatMap setup.samples))

theorem part_nil (setup : StreamSetup) : setup.part [] = [] := by
  unfold part
  cases setup.receiver <;> simp [Receiver.select, lane, sampleBytes]

theorem part_cons (setup : StreamSetup) (transfer : Arrival) (transfers : List Arrival) :
    setup.part (transfer :: transfers) = setup.part [transfer] ++ setup.part transfers := by
  have even : Even (([transfer].filter setup.takes).flatMap setup.samples).length :=
    even_flatMap (fun _ => even_flatMap setup.format.even_samples _) _
  rw [part, ← List.singleton_append, List.filter_append, List.flatMap_append,
    setup.receiver.select_append even, sampleBytes, List.flatMap_append]
  rfl

theorem part_singleton (setup : StreamSetup) (transfer : Arrival) :
    setup.part [transfer] = if setup.takes transfer then
      sampleBytes (setup.receiver.select (setup.convert transfer.payload)) else [] := by
  have converted : setup.convert transfer.payload = setup.samples transfer :=
    List.flatMap_congr fun buffer _ => setup.format.convertTransfer_eq buffer
  split_ifs with taken
  · simp [part, taken, converted]
  · rw [← setup.part_nil]
    simp [part, taken]

end StreamSetup

namespace SampleStream

/-- `_libusb_callback`: the blocks the receiver gets. -/
def step (stream : SampleStream) (transfer : Arrival) :
    SampleStream × List (List UInt8) :=
  let samples := stream.convert transfer.payload
  if stream.takes transfer = false ∨ samples = [] then (stream, [])
  else
    let bytes := sampleBytes (stream.receiver.select samples)
    let fed := feedAsync stream.outLen stream.held bytes
    ({ stream with
        held := fed.2
        fits := (feedAsync_spec stream.fits bytes).2.1 }, fed.1)

/-- One transfer is handed on, held or dropped, and leaves how the stream is
set up. -/
theorem step_spec (stream : SampleStream) (transfer : Arrival) :
    let after := stream.step transfer
    after.2.flatten ++ after.1.held = stream.held ++ stream.part [transfer] ∧
      (stream.outLen ≠ 0 → ∀ block ∈ after.2, block.length = stream.outLen) ∧
      after.1.toStreamSetup = stream.toStreamSetup := by
  rw [stream.part_singleton]
  unfold step
  dsimp only
  split_ifs with dropped taken
  · rw [dropped.resolve_left (by simp [taken])]
    cases stream.receiver <;> simp [Receiver.select, lane, sampleBytes]
  · simp
  · obtain ⟨joins, -, sized⟩ := feedAsync_spec stream.fits
        (sampleBytes (stream.receiver.select (stream.convert transfer.payload)))
    exact ⟨joins, sized, rfl⟩
  · exact absurd (.inl (by simpa using ‹¬ stream.takes transfer = true›)) dropped

/-- Whatever the transfers, a receiver gets its part of the samples held by
those that are taken, in order and once, but for the bytes still held, which
are less than a block.  Where a length is set, all blocks have it. -/
theorem stream_keeps_samples (stream : SampleStream) (transfers : List Arrival) :
    let blocks := runOutputs step stream transfers
    let last :=
      runSteps (fun stream transfer => (stream.step transfer).1) stream transfers
    blocks.flatten ++ last.held = stream.held ++ stream.part transfers ∧
      (stream.outLen ≠ 0 →
        (∀ block ∈ blocks, block.length = stream.outLen) ∧ last.held.length < stream.outLen) := by
  induction transfers generalizing stream with
  | nil =>
      have fits := stream.fits
      refine ⟨?_, fun positive => ⟨by simp [runOutputs], ?_⟩⟩
      · simp [runOutputs, StreamSetup.part_nil]
      · simp only [runSteps_nil]
        omega
  | cons transfer transfers inductionHypothesis =>
      obtain ⟨joins, sized, setup⟩ := stream.step_spec transfer
      obtain ⟨laterJoins, laterSized⟩ := inductionHypothesis (stream.step transfer).1
      rw [setup] at laterJoins laterSized
      refine ⟨?_, fun positive => ?_⟩
      · rw [runOutputs, runSteps_cons, List.flatten_append, List.append_assoc, laterJoins,
          ← List.append_assoc, joins, stream.part_cons transfer transfers, List.append_assoc]
      · obtain ⟨rest, short⟩ := laterSized positive
        refine ⟨fun block member => ?_, short⟩
        rcases List.mem_append.mp member with now | later
        · exact sized positive block now
        · exact rest block later

end SampleStream

end OpenRsp.Driver
