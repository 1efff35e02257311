import OpenRsp.Daemon.Stream
import OpenRsp.Library.ByteStream

/-!
# Framing

`transfer_exact`, `openrsp_client_send` and `openrsp_client_receive` of
`src/client_posix.c`, `read_exact`, `write_exact` and `write_frame` of
`daemon/openrspd.c`, and the two reads at the head of its `serve_request`.  A
message is a header of sixteen bytes and a payload.

The results of the system calls are scripts: a message is written and read by
any number of short transfers, interrupted calls and timeouts.
-/

namespace OpenRsp

open ByteStreams

/-! ## Messages -/

/-- A message whose payload is within the receiver's limit and has a length
that the header can hold. -/
@[ext]
structure Message (limit : Nat) where
  type : UInt16
  sequence : UInt32
  payload : List UInt8
  fits : payload.length ≤ limit
  countable : payload.length < 2 ^ 32
deriving DecidableEq

/-- `openrsp_message_header`. -/
structure MessageHeader where
  magic : UInt32
  version : UInt16
  type : UInt16
  sequence : UInt32
  payloadBytes : UInt32
deriving DecidableEq, Repr

/-- `OPENRSP_PROTOCOL_MAGIC`. -/
def openrspProtocolMagic : UInt32 := 0x4f525350

/-- `OPENRSP_PROTOCOL_VERSION`. -/
def openrspProtocolVersion : UInt16 := 9

/-- `sizeof(openrsp_message_header)`. -/
def headerBytes : Nat := 16

/-- The header in memory. -/
def MessageHeader.encode (header : MessageHeader) : List UInt8 :=
  toBytes 4 header.magic.toNat ++ toBytes 2 header.version.toNat ++
    toBytes 2 header.type.toNat ++ toBytes 4 header.sequence.toNat ++
    toBytes 4 header.payloadBytes.toNat

/-- The memory read as a header. -/
def MessageHeader.decode (bytes : List UInt8) : MessageHeader where
  magic := .ofNat (ofBytes (bytes.take 4))
  version := .ofNat (ofBytes ((bytes.drop 4).take 2))
  type := .ofNat (ofBytes ((bytes.drop 6).take 2))
  sequence := .ofNat (ofBytes ((bytes.drop 8).take 4))
  payloadBytes := .ofNat (ofBytes ((bytes.drop 12).take 4))

@[simp]
theorem MessageHeader.length_encode (header : MessageHeader) :
    header.encode.length = headerBytes := by
  simp [MessageHeader.encode, headerBytes]

@[simp]
theorem MessageHeader.decode_encode (header : MessageHeader) :
    decode header.encode = header := by
  have wide (value : UInt32) :
      UInt32.ofNat (ofBytes (toBytes 4 value.toNat)) = value := by
    rw [ofBytes_toBytes_of_lt value.toNat_lt]
    exact UInt32.ofNat_toNat
  have narrow (value : UInt16) :
      UInt16.ofNat (ofBytes (toBytes 2 value.toNat)) = value := by
    rw [ofBytes_toBytes_of_lt value.toNat_lt]
    exact UInt16.ofNat_toNat
  rcases header with ⟨magic, version, type, sequence, payloadBytes⟩
  simp only [decode, encode, mk.injEq]
  exact ⟨wide magic, narrow version, narrow type, wide sequence, wide payloadBytes⟩

namespace Message

variable {limit : Nat}

/-- The header `openrsp_client_send` and `write_frame` make. -/
def header (message : Message limit) : MessageHeader where
  magic := openrspProtocolMagic
  version := openrspProtocolVersion
  type := message.type
  sequence := message.sequence
  payloadBytes := .ofNat message.payload.length

/-- A message as it is written. -/
def encode (message : Message limit) : List UInt8 := message.header.encode ++ message.payload

theorem header_payloadBytes (message : Message limit) :
    message.header.payloadBytes.toNat = message.payload.length :=
  UInt32.toNat_ofNat_of_lt message.countable

/-- The messages one after the other. -/
def encodeAll (messages : List (Message limit)) : List UInt8 := messages.flatMap encode

end Message

/-! ## Sending -/

/-- The two ends of a connection. -/
inductive Side where
  | client
  | daemon
deriving DecidableEq, Repr

/-- A call that takes nothing is an error of `transfer_exact`; `write_exact`
goes on. -/
def Side.zeroStops : Side → Bool
  | .client => true
  | .daemon => false

section Sending

variable {limit : Nat}

/-- `openrsp_client_send` or `write_frame`: the header, then the payload if
there is one. -/
def sendMessage (side : Side) (calls : List WriteCall) (message : Message limit) : Write UInt8 :=
  match writeExact side.zeroStops calls message.header.encode [] with
  | .done written calls =>
      if message.payload = [] then .done written calls
      else writeExact side.zeroStops calls message.payload written
  | outcome => outcome

/-- The messages sent, and everything written to the wire. -/
structure Written (limit : Nat) where
  messages : List (Message limit)
  bytes : List UInt8

/-- Send the messages in order, up to the first that is not sent. -/
def sendAll (side : Side) :
    List WriteCall → List (Message limit) → Written limit
  | _, [] => ⟨[], []⟩
  | calls, message :: rest =>
      match sendMessage side calls message with
      | .done bytes calls =>
          let more := sendAll side calls rest
          ⟨message :: more.messages, bytes ++ more.bytes⟩
      | .stopped front | .waiting front => ⟨[], front⟩

end Sending

/-! ## Receiving -/

/-- What a receive has come to: a message, `OPENRSP_CLIENT_TIMEOUT`, a header
that is answered with `BAD_REQUEST`, another result, or a wait in a system
call, with the bytes read so far. -/
inductive Received (limit : Nat) where
  | message (message : Message limit) (rest : List UInt8)
      (calls : List ReadCall)
  | timedOut (rest : List UInt8) (calls : List ReadCall)
  | refused (sequence : UInt32) (rest : List UInt8) (calls : List ReadCall)
  | failed (result : Int)
  | waiting (bytes rest : List UInt8)
deriving DecidableEq

/-- Read the payload a header announces. -/
def readPayload {limit : Nat} (header : MessageHeader) (fits : header.payloadBytes.toNat ≤ limit)
    (headerRead : List UInt8) (calls : List ReadCall) (stream : List UInt8) :
    Received limit :=
  match outcome : readExact calls header.payloadBytes.toNat [] stream with
  | .done payload rest calls =>
      .message
        { type := header.type
          sequence := header.sequence
          payload := payload
          fits := (readExact_done outcome).2.trans_le fits
          countable := (readExact_done outcome).2.trans_lt header.payloadBytes.toNat_lt }
        rest calls
  | .stopped _ _ _ _ => .failed (-1)
  | .waiting bytes rest => .waiting (headerRead ++ bytes) rest

/-- `openrsp_client_receive` once it has its header. -/
def clientPayload (capacity : Nat) (headerRead : List UInt8)
    (calls : List ReadCall) (stream : List UInt8) : Received capacity :=
  let header := MessageHeader.decode headerRead
  if header.magic ≠ openrspProtocolMagic ∨
      header.version ≠ openrspProtocolVersion then .failed (-1)
  else if fits : header.payloadBytes.toNat ≤ capacity then
    readPayload header fits headerRead calls stream
  else .failed (-1)

/-- `openrsp_client_receive` with a buffer of `capacity` bytes. -/
def clientReceive (capacity : Nat) (calls : List ReadCall)
    (stream : List UInt8) : Received capacity :=
  match readExact calls headerBytes [] stream with
  | .stopped .timedOut [] rest calls => .timedOut rest calls
  | .stopped _ _ _ _ => .failed (-1)
  | .waiting bytes rest => .waiting bytes rest
  | .done bytes rest calls => clientPayload capacity bytes calls rest

/-- `OPENRSPD_MAX_PAYLOAD`. -/
def openrspdMaxPayload : Nat := 4096

/-- `serve_request` once it has its header. -/
def daemonPayload (headerRead : List UInt8) (calls : List ReadCall)
    (stream : List UInt8) : Received openrspdMaxPayload :=
  let header := MessageHeader.decode headerRead
  if fits : header.payloadBytes.toNat ≤ openrspdMaxPayload then
    if header.magic ≠ openrspProtocolMagic ∨
        header.version ≠ openrspProtocolVersion then
      match readPayload header fits headerRead calls stream with
      | .message message rest calls => .refused message.sequence rest calls
      | outcome => outcome
    else readPayload header fits headerRead calls stream
  else .failed (-1)

/-- The reads of `serve_request`.  The end of the stream within the header is
the result `0`. -/
def daemonReceive (calls : List ReadCall) (stream : List UInt8) :
    Received openrspdMaxPayload :=
  match readExact calls headerBytes [] stream with
  | .stopped .ended _ _ _ => .failed 0
  | .stopped _ _ _ _ => .failed (-1)
  | .waiting bytes rest => .waiting bytes rest
  | .done bytes rest calls => daemonPayload bytes calls rest

/-- How a series of receives ends: the next one may follow, one has failed, or
one waits. -/
inductive Ending where
  | ready (rest : List UInt8) (calls : List ReadCall)
  | failed (result : Int)
  | waiting
deriving DecidableEq, Repr

/-- Receive a number of times, up to the first error; the messages. -/
def receiveAll {limit : Nat} (receive : List ReadCall → List UInt8 → Received limit) :
    Nat → List ReadCall → List UInt8 → List (Message limit) × Ending
  | 0, calls, stream => ([], .ready stream calls)
  | count + 1, calls, stream =>
      match receive calls stream with
      | .message message rest calls =>
          let more := receiveAll receive count calls rest
          (message :: more.1, more.2)
      | .timedOut rest calls | .refused _ rest calls =>
          receiveAll receive count calls rest
      | .failed result => ([], .failed result)
      | .waiting _ _ => ([], .waiting)

/-! ## What is received -/

/-- The messages are sent in order; without errors and with enough calls all
are. -/
structure SendsInOrder {limit : Nat} (side : Side) (writes : List WriteCall)
    (messages : List (Message limit)) : Prop where
  sent : (sendAll side writes messages).messages <+: messages
  complete : CalmWrites writes →
      (Message.encodeAll messages).length ≤ writes.countP WriteCall.takes →
        (sendAll side writes messages).messages = messages

/-- What is sent is received: the messages in order and whole, and as long as
there is no error what has been read of the wire is those messages.  With
enough calls and no error all messages are received. -/
structure RoundTrip {limit : Nat}
    (receive : List ReadCall → List UInt8 → Received limit)
    (written : Written limit) (reads : List ReadCall) (count : Nat) :
    Prop where
  received : (receiveAll receive count reads written.bytes).1 <+: written.messages
  aligned : ∀ rest calls, (receiveAll receive count reads written.bytes).2 = .ready rest calls →
        written.bytes = Message.encodeAll (receiveAll receive count reads written.bytes).1 ++ rest
  complete : Calm reads → written.bytes.length ≤ reads.countP ReadCall.isData →
      written.messages.length ≤ count →
        (receiveAll receive count reads written.bytes).1 = written.messages

/-- A timeout consumes nothing; once a byte has been read, a timeout or the
end of the stream before the message is complete is an error. -/
structure ErrorsSound {limit : Nat}
    (receive : List ReadCall → List UInt8 → Received limit)
    (reads : List ReadCall) (stream : List UInt8) : Prop where
  retry : ∀ rest calls, receive reads stream = .timedOut rest calls → rest = stream
  late : ∀ bytes rest, receive reads stream = .waiting bytes rest → bytes ≠ [] →
      ∀ more, receive (reads ++ .timedOut :: more) stream = .failed (-1)
  ended : ∀ bytes, receive reads stream = .waiting bytes [] →
      ∀ count more, ∃ result, receive (reads ++ .data count :: more) stream = .failed result

/-! ### One message -/

section OneMessage

variable {limit : Nat}

/-- What may come of a receive when the stream begins with a message. -/
def Received.Takes (message : Message limit) (rest : List UInt8) :
    Received limit → Prop
  | .message got left _ => got = message ∧ left = rest
  | .timedOut left _ => left = message.encode ++ rest
  | .refused _ _ _ => False
  | .failed _ => True
  | .waiting _ _ => True

/-- What may come of a receive when the stream ends within a message. -/
def Received.Misses (front : List UInt8) : Received limit → Prop
  | .message _ _ _ | .refused _ _ _ => False
  | .timedOut left _ => left = front
  | .failed _ => True
  | .waiting _ _ => True

/-- The front of some message, not the whole of it. -/
def Front (limit : Nat) (front : List UInt8) : Prop :=
  ∃ (message : Message limit) (rest : List UInt8), rest ≠ [] ∧ front ++ rest = message.encode

/-- A header read from the head of a message is the message's. -/
theorem header_of_takes {message : Message limit} {rest bytes left : List UInt8}
    (same : message.encode ++ rest = bytes ++ left)
    (length : bytes.length = headerBytes) :
    bytes = message.header.encode ∧ left = message.payload ++ rest := by
  rw [Message.encode, List.append_assoc] at same
  obtain ⟨headers, payloads⟩ := List.append_inj same (by simp [length])
  exact ⟨headers.symm, payloads.symm⟩

/-- A header read from the front of a message is the message's, and what is
left is too short for the payload. -/
theorem header_of_front {message : Message limit}
    {front rest bytes left : List UInt8} (cut : rest ≠ [])
    (whole : front ++ rest = message.encode) (same : front = bytes ++ left)
    (length : bytes.length = headerBytes) :
    bytes = message.header.encode ∧ left.length < message.payload.length := by
  rw [same, Message.encode, List.append_assoc] at whole
  obtain ⟨headers, payloads⟩ := List.append_inj whole (by simp [length])
  refine ⟨headers, ?_⟩
  rw [← payloads, List.length_append]
  exact Nat.lt_add_of_pos_right (List.length_pos_of_ne_nil cut)

theorem readPayload_takes {message : Message limit} {rest headerRead : List UInt8}
    (fits : message.header.payloadBytes.toNat ≤ limit)
    (calls : List ReadCall) :
    (readPayload message.header fits headerRead calls
      (message.payload ++ rest)).Takes message rest := by
  unfold readPayload
  split
  · rename_i payload left calls done
    obtain ⟨same, length⟩ := readExact_done done
    rw [message.header_payloadBytes] at length
    obtain ⟨payloads, rests⟩ := List.append_inj same length.symm
    exact ⟨Message.ext rfl rfl payloads.symm, rests.symm⟩
  · trivial
  · trivial

theorem readPayload_misses {message : Message limit} {left headerRead : List UInt8}
    (fits : message.header.payloadBytes.toNat ≤ limit)
    (calls : List ReadCall) (short : left.length < message.payload.length)
    (front : List UInt8) :
    (readPayload message.header fits headerRead calls left).Misses front := by
  unfold readPayload
  split
  · rename_i payload rest calls done
    rw [← message.header_payloadBytes] at short
    exact absurd done (readExact_ne_done short)
  · trivial
  · trivial

theorem readPayload_calm {message : Message limit} (rest headerRead : List UInt8)
    (fits : message.header.payloadBytes.toNat ≤ limit)
    {calls : List ReadCall} (calm : Calm calls)
    (enough : message.payload.length ≤ calls.countP ReadCall.isData) :
    ∃ left, Calm left ∧
      calls.countP ReadCall.isData ≤ left.countP ReadCall.isData + message.payload.length ∧
      readPayload message.header fits headerRead calls
        (message.payload ++ rest) = .message message rest left := by
  obtain ⟨left, calmLeft, counted, done⟩ :=
    readExact_calm calls message.payload.length [] (message.payload ++ rest) calm enough (by simp)
  refine ⟨left, calmLeft, counted, ?_⟩
  simp only [List.nil_append, List.take_left', List.drop_left'] at done
  unfold readPayload
  split
  · rename_i payload after calls outcome
    rw [message.header_payloadBytes, done] at outcome
    injection outcome with payloads rests lefts
    subst payloads rests lefts
    rfl
  all_goals
    rename_i outcome
    rw [message.header_payloadBytes, done] at outcome
    cases outcome

/-- The message's own header passes the checks of both ends. -/
theorem header_checked (message : Message limit) : ¬ (message.header.magic ≠ openrspProtocolMagic ∨
      message.header.version ≠ openrspProtocolVersion) := by
  simp [Message.header]

theorem header_fits (message : Message limit) :
    message.header.payloadBytes.toNat ≤ limit := by
  rw [message.header_payloadBytes]
  exact message.fits

end OneMessage

/-- Behind the header of a message both ends read its payload. -/
theorem clientPayload_header {capacity : Nat} (message : Message capacity)
    (calls : List ReadCall) (stream : List UInt8) :
    clientPayload capacity message.header.encode calls stream =
      readPayload message.header (header_fits message) message.header.encode
        calls stream := by
  unfold clientPayload
  simp only [MessageHeader.decode_encode]
  rw [if_neg (header_checked message), dif_pos (header_fits message)]

theorem daemonPayload_header (message : Message openrspdMaxPayload)
    (calls : List ReadCall) (stream : List UInt8) :
    daemonPayload message.header.encode calls stream =
      readPayload message.header (header_fits message) message.header.encode
        calls stream := by
  unfold daemonPayload
  simp only [MessageHeader.decode_encode]
  rw [dif_pos (header_fits message), if_neg (header_checked message)]

/-- A receive that takes whole messages, and only those. -/
structure TakesMessages {limit : Nat}
    (receive : List ReadCall → List UInt8 → Received limit) : Prop where
  takes : ∀ message rest calls, (receive calls (message.encode ++ rest)).Takes message rest
  misses : ∀ front calls, Front limit front → (receive calls front).Misses front
  calm : ∀ message rest calls, Calm calls → message.encode.length ≤ calls.countP ReadCall.isData →
        ∃ left, Calm left ∧
          calls.countP ReadCall.isData ≤ left.countP ReadCall.isData + message.encode.length ∧
          receive calls (message.encode ++ rest) = .message message rest left

/-- Reading the header without errors. -/
theorem readHeader_calm {limit : Nat} (message : Message limit)
    (rest : List UInt8) {calls : List ReadCall} (calm : Calm calls)
    (enough : message.encode.length ≤ calls.countP ReadCall.isData) :
    ∃ left, Calm left ∧
      calls.countP ReadCall.isData ≤ left.countP ReadCall.isData + headerBytes ∧
      message.payload.length ≤ left.countP ReadCall.isData ∧
      readExact calls headerBytes [] (message.encode ++ rest) =
        .done message.header.encode (message.payload ++ rest) left := by
  have length : message.encode.length =
      headerBytes + message.payload.length := by
    simp [Message.encode]
  obtain ⟨left, calmLeft, counted, done⟩ :=
    readExact_calm calls headerBytes [] (message.encode ++ rest) calm
      (by omega) (by simp only [List.length_append]; omega)
  refine ⟨left, calmLeft, counted, by omega, ?_⟩
  obtain ⟨same, size⟩ := readExact_done done
  obtain ⟨headers, payloads⟩ := header_of_takes same size
  rw [done, headers, payloads]

theorem clientReceive_takesMessages (capacity : Nat) :
    TakesMessages (clientReceive capacity) where
  takes message rest calls := by
    unfold clientReceive
    split
    · rename_i outcome
      exact readExact_stopped_nil outcome
    · trivial
    · trivial
    · rename_i bytes left calls done
      obtain ⟨same, length⟩ := readExact_done done
      obtain ⟨rfl, rfl⟩ := header_of_takes same length
      rw [clientPayload_header]
      exact readPayload_takes _ calls
  misses front calls := by
    rintro ⟨message, tail, cut, whole⟩
    unfold clientReceive
    split
    · rename_i outcome
      exact readExact_stopped_nil outcome
    · trivial
    · trivial
    · rename_i bytes left calls done
      obtain ⟨same, length⟩ := readExact_done done
      obtain ⟨rfl, short⟩ := header_of_front cut whole same length
      rw [clientPayload_header]
      exact readPayload_misses _ calls short front
  calm message rest calls calm enough := by
    obtain ⟨middle, calmMiddle, counted, enough', done⟩ := readHeader_calm message rest calm enough
    obtain ⟨left, calmLeft, counted', taken⟩ :=
      readPayload_calm rest message.header.encode (header_fits message) calmMiddle enough'
    refine ⟨left, calmLeft, ?_, ?_⟩
    · simp only [Message.encode, List.length_append, MessageHeader.length_encode]
      omega
    · unfold clientReceive
      rw [done]
      exact (clientPayload_header message middle _).trans taken

theorem daemonReceive_takesMessages : TakesMessages daemonReceive where
  takes message rest calls := by
    unfold daemonReceive
    split
    · trivial
    · trivial
    · trivial
    · rename_i bytes left calls done
      obtain ⟨same, length⟩ := readExact_done done
      obtain ⟨rfl, rfl⟩ := header_of_takes same length
      rw [daemonPayload_header]
      exact readPayload_takes _ calls
  misses front calls := by
    rintro ⟨message, tail, cut, whole⟩
    unfold daemonReceive
    split
    · trivial
    · trivial
    · trivial
    · rename_i bytes left calls done
      obtain ⟨same, length⟩ := readExact_done done
      obtain ⟨rfl, short⟩ := header_of_front cut whole same length
      rw [daemonPayload_header]
      exact readPayload_misses _ calls short front
  calm message rest calls calm enough := by
    obtain ⟨middle, calmMiddle, counted, enough', done⟩ := readHeader_calm message rest calm enough
    obtain ⟨left, calmLeft, counted', taken⟩ :=
      readPayload_calm rest message.header.encode (header_fits message) calmMiddle enough'
    refine ⟨left, calmLeft, ?_, ?_⟩
    · simp only [Message.encode, List.length_append, MessageHeader.length_encode]
      omega
    · unfold daemonReceive
      rw [done]
      exact (daemonPayload_header message middle _).trans taken

/-! ### A series of messages -/

section Series

variable {limit : Nat}
  {receive : List ReadCall → List UInt8 → Received limit}

/-- Receiving from the front of a message gives nothing. -/
theorem TakesMessages.receiveAll_front (sound : TakesMessages receive)
    {front : List UInt8} (cut : Front limit front) (count : Nat)
    (calls : List ReadCall) :
    (receiveAll receive count calls front).1 = [] ∧
      ∀ rest left, (receiveAll receive count calls front).2 = .ready rest left → rest = front := by
  induction count generalizing calls with
  | zero => simp [receiveAll]
  | succ count inductionHypothesis =>
      have misses := sound.misses front calls cut
      simp only [receiveAll]
      cases outcome : receive calls front with
      | message message rest left => simp [outcome, Received.Misses] at misses
      | refused sequence rest left => simp [outcome, Received.Misses] at misses
      | timedOut rest left =>
          obtain rfl : rest = front := by
            simpa [outcome, Received.Misses] using misses
          exact inductionHypothesis left
      | failed result => simp
      | waiting bytes rest => simp

/-- One induction over the receives: as long as there is no error they take
the messages off the stream one by one. -/
theorem TakesMessages.receiveAll_aligned (sound : TakesMessages receive)
    {front : List UInt8} (cut : Front limit front) (count : Nat)
    (messages : List (Message limit)) (calls : List ReadCall) :
    (receiveAll receive count calls
        (Message.encodeAll messages ++ front)).1 <+: messages ∧
      ∀ rest left, (receiveAll receive count calls
            (Message.encodeAll messages ++ front)).2 = .ready rest left →
          rest = Message.encodeAll
                (messages.drop
                  (receiveAll receive count calls
                    (Message.encodeAll messages ++ front)).1.length) ++
              front := by
  induction count generalizing messages calls with
  | zero =>
      refine ⟨List.nil_prefix, ?_⟩
      intro rest left ready
      simp only [receiveAll, Ending.ready.injEq] at ready
      simpa [receiveAll] using ready.1.symm
  | succ count inductionHypothesis =>
      cases messages with
      | nil =>
          obtain ⟨nothing, ready⟩ := sound.receiveAll_front cut (count + 1) calls
          refine ⟨?_, ?_⟩
          · simp [Message.encodeAll, nothing]
          · intro rest left isReady
            simpa [Message.encodeAll] using ready rest left
              (by simpa [Message.encodeAll] using isReady)
      | cons message messages =>
          have stream : Message.encodeAll (message :: messages) ++ front =
                message.encode ++ (Message.encodeAll messages ++ front) := by
            simp [Message.encodeAll]
          have takes := sound.takes message (Message.encodeAll messages ++ front) calls
          rw [← stream] at takes
          simp only [receiveAll]
          cases outcome : receive calls (Message.encodeAll (message :: messages) ++ front) with
          | message got rest left =>
              obtain ⟨rfl, rfl⟩ : got = message ∧
                  rest = Message.encodeAll messages ++ front := by
                simpa [outcome, Received.Takes] using takes
              obtain ⟨taken, ready⟩ := inductionHypothesis messages left
              refine ⟨List.cons_prefix_cons.mpr ⟨rfl, taken⟩, ?_⟩
              simpa using ready
          | timedOut rest left =>
              obtain rfl :
                  rest = Message.encodeAll (message :: messages) ++ front := by
                rw [outcome] at takes
                exact takes.trans stream.symm
              exact inductionHypothesis (message :: messages) left
          | refused sequence rest left =>
              simp [outcome, Received.Takes] at takes
          | failed result => simp
          | waiting bytes rest => simp

/-- Without errors and with enough calls every message is received. -/
theorem TakesMessages.receiveAll_complete (sound : TakesMessages receive)
    {front : List UInt8} (cut : Front limit front)
    (messages : List (Message limit)) (count : Nat) (calls : List ReadCall)
    (calm : Calm calls)
    (enough : (Message.encodeAll messages).length ≤ calls.countP ReadCall.isData)
    (often : messages.length ≤ count) :
    (receiveAll receive count calls (Message.encodeAll messages ++ front)).1 = messages := by
  induction messages generalizing count calls with
  | nil => exact (sound.receiveAll_front cut count calls).1
  | cons message messages inductionHypothesis =>
      obtain ⟨count, rfl⟩ := Nat.exists_eq_add_of_le often
      simp only [Message.encodeAll, List.flatMap_cons, List.length_append] at enough
      obtain ⟨left, calmLeft, counted, taken⟩ :=
        sound.calm message (Message.encodeAll messages ++ front) calls calm (by omega)
      have rest := inductionHypothesis (messages.length + count) left calmLeft
          (by rw [Message.encodeAll]; omega) (Nat.le_add_right _ _)
      have stream : Message.encodeAll (message :: messages) ++ front =
            message.encode ++ (Message.encodeAll messages ++ front) := by
        simp [Message.encodeAll]
      rw [List.length_cons, Nat.add_right_comm, stream]
      simp only [receiveAll, taken]
      rw [rest]

end Series

/-! ### The sender -/

section Sender

variable {limit : Nat}

/-- A message that is sent is written whole; one that is not, in part. -/
theorem sendMessage_conserves (side : Side) (calls : List WriteCall) (message : Message limit) :
    (sendMessage side calls message).Conserves message.encode [] := by
  unfold sendMessage Message.encode
  generalize message.header.encode = header
  have headerWritten := writeExact_conserves side.zeroStops calls header []
  split
  · rename_i written left done
    rw [done] at headerWritten
    by_cases empty : message.payload = []
    · rw [if_pos empty, empty, List.append_nil]
      exact headerWritten
    · rw [if_neg empty, headerWritten]
      have payloadWritten := writeExact_conserves side.zeroStops left message.payload ([] ++ header)
      generalize writeExact side.zeroStops left message.payload _ = outcome at payloadWritten ⊢
      cases outcome <;> exact payloadWritten
  · rename_i unfinished
    generalize writeExact side.zeroStops calls header [] = outcome at headerWritten unfinished ⊢
    -- The header was not finished, so the payload is missing as well.
    cases outcome with
    | done items left => exact absurd rfl (unfinished items left)
    | stopped front =>
        obtain ⟨rest, cut, same⟩ := headerWritten
        refine ⟨rest ++ message.payload, by simp [cut], ?_⟩
        rw [← List.append_assoc, same, List.append_assoc]
    | waiting front =>
        obtain ⟨rest, cut, same⟩ := headerWritten
        refine ⟨rest ++ message.payload, by simp [cut], ?_⟩
        rw [← List.append_assoc, same, List.append_assoc]

/-- Nothing is the front of a message. -/
theorem front_nil (limit : Nat) : Front limit [] := by
  let empty : Message limit := ⟨0, 0, [], Nat.zero_le _, by decide⟩
  refine ⟨empty, empty.encode, ?_, rfl⟩
  refine List.ne_nil_of_length_pos ?_
  rw [Message.encode, List.length_append, MessageHeader.length_encode]
  exact Nat.add_pos_left (by decide) _

/-- What is on the wire are the messages sent and the front of one more. -/
theorem sendAll_sound (side : Side) (calls : List WriteCall) (messages : List (Message limit)) :
    (sendAll side calls messages).messages <+: messages ∧ ∃ front, Front limit front ∧
        (sendAll side calls messages).bytes =
          Message.encodeAll (sendAll side calls messages).messages ++ front := by
  induction messages generalizing calls with
  | nil => exact ⟨List.nil_prefix, [], front_nil limit, rfl⟩
  | cons message messages inductionHypothesis =>
      have conserves := sendMessage_conserves side calls message
      simp only [sendAll]
      cases outcome : sendMessage side calls message with
      | done bytes left =>
          rw [outcome] at conserves
          obtain rfl : bytes = message.encode := conserves
          obtain ⟨sent, front, cut, same⟩ := inductionHypothesis left
          refine ⟨List.cons_prefix_cons.mpr ⟨rfl, sent⟩, front, cut, ?_⟩
          simp only [same, Message.encodeAll, List.flatMap_cons, List.append_assoc]
      | stopped front =>
          rw [outcome] at conserves
          obtain ⟨rest, cut, same⟩ := conserves
          exact ⟨List.nil_prefix, front, ⟨message, rest, cut, same⟩, rfl⟩
      | waiting front =>
          rw [outcome] at conserves
          obtain ⟨rest, cut, same⟩ := conserves
          exact ⟨List.nil_prefix, front, ⟨message, rest, cut, same⟩, rfl⟩

theorem sendMessage_calm (side : Side) (calls : List WriteCall) (message : Message limit)
    (calm : CalmWrites calls) (enough : message.encode.length ≤ calls.countP WriteCall.takes) :
    ∃ left, CalmWrites left ∧
      calls.countP WriteCall.takes ≤ left.countP WriteCall.takes + message.encode.length ∧
      sendMessage side calls message = .done message.encode left := by
  simp only [Message.encode, List.length_append] at enough ⊢
  obtain ⟨left, calmLeft, counted, done⟩ :=
    writeExact_calm side.zeroStops calls message.header.encode [] calm (by omega)
  obtain ⟨last, calmLast, countedLast, all⟩ :=
    writeExact_calm side.zeroStops left message.payload message.header.encode calmLeft (by omega)
  unfold sendMessage
  rw [done, List.nil_append]
  dsimp only
  split_ifs with empty
  · exact ⟨left, calmLeft, by omega, by rw [empty, List.append_nil]⟩
  · exact ⟨last, calmLast, by omega, all⟩

theorem sendAll_complete (side : Side) (calls : List WriteCall) (messages : List (Message limit))
    (calm : CalmWrites calls)
    (enough : (Message.encodeAll messages).length ≤ calls.countP WriteCall.takes) :
    (sendAll side calls messages).messages = messages := by
  induction messages generalizing calls with
  | nil => rfl
  | cons message messages inductionHypothesis =>
      simp only [Message.encodeAll, List.flatMap_cons, List.length_append] at enough
      obtain ⟨left, calmLeft, counted, done⟩ := sendMessage_calm side calls message calm (by omega)
      have rest := inductionHypothesis left calmLeft (by rw [Message.encodeAll]; omega)
      simp only [sendAll, done, rest]

theorem sendAll_inOrder (side : Side) (writes : List WriteCall) (messages : List (Message limit)) :
    SendsInOrder side writes messages :=
  ⟨(sendAll_sound side writes messages).1, sendAll_complete side writes messages⟩

theorem TakesMessages.roundTrip
    {receive : List ReadCall → List UInt8 → Received limit}
    (sound : TakesMessages receive) (side : Side) (writes : List WriteCall)
    (messages : List (Message limit)) (reads : List ReadCall) (count : Nat) :
    RoundTrip receive (sendAll side writes messages) reads count := by
  obtain ⟨-, front, cut, wire⟩ := sendAll_sound side writes messages
  generalize sendAll side writes messages = written at wire ⊢
  obtain ⟨sent, bytes⟩ := written
  obtain rfl : bytes = Message.encodeAll sent ++ front := wire
  obtain ⟨received, aligned⟩ := sound.receiveAll_aligned cut count sent reads
  refine ⟨received, fun rest calls ready => ?_, fun calm enough often => ?_⟩
  · obtain ⟨later, split⟩ := received
    rw [aligned rest calls ready, ← List.append_assoc]
    refine congrArg (· ++ front) ?_
    dsimp only at split ⊢
    generalize (receiveAll receive count reads (Message.encodeAll sent ++ front)).1 = got at split ⊢
    rw [← split, List.drop_left, Message.encodeAll, List.flatMap_append]
    rfl
  · refine sound.receiveAll_complete cut sent count reads calm ?_ often
    exact Nat.le_trans (by simp) enough

end Sender

/-! ### Errors -/

/-- A payload read that waits fails at a timeout and at the end of the
stream. -/
theorem readPayload_stuck {limit : Nat} {header : MessageHeader}
    {fits : header.payloadBytes.toNat ≤ limit}
    {headerRead stream bytes rest : List UInt8} {calls : List ReadCall}
    (waiting : readPayload header fits headerRead calls stream = .waiting bytes rest)
    {call : ReadCall} (stuck : Stuck rest call) (more : List ReadCall) :
    readPayload header fits headerRead (calls ++ call :: more) stream = .failed (-1) := by
  unfold readPayload at waiting
  split at waiting
  · cases waiting
  · cases waiting
  · rename_i read left outcome
    injection waiting with _ rests
    subst rests
    have stopped := readExact_stuck outcome stuck more
    unfold readPayload
    split
    · rename_i finished
      rw [stopped] at finished
      cases finished
    · rfl
    · rename_i unfinished
      rw [stopped] at unfinished
      cases unfinished

theorem readPayload_ne_timedOut {limit : Nat} {header : MessageHeader}
    {fits : header.payloadBytes.toNat ≤ limit}
    {headerRead stream rest : List UInt8} {calls left : List ReadCall} :
    readPayload header fits headerRead calls stream ≠ .timedOut rest left := by
  unfold readPayload
  split <;> nofun

theorem clientPayload_stuck {capacity : Nat}
    {headerRead stream bytes rest : List UInt8} {calls : List ReadCall}
    (waiting : clientPayload capacity headerRead calls stream = .waiting bytes rest)
    {call : ReadCall} (stuck : Stuck rest call) (more : List ReadCall) :
    clientPayload capacity headerRead (calls ++ call :: more) stream = .failed (-1) := by
  unfold clientPayload at waiting ⊢
  dsimp only at waiting ⊢
  split at waiting
  · cases waiting
  · rename_i checked
    split at waiting
    · rename_i fits
      rw [if_neg checked, dif_pos fits]
      exact readPayload_stuck waiting stuck more
    · cases waiting

theorem daemonPayload_stuck
    {headerRead stream bytes rest : List UInt8} {calls : List ReadCall}
    (waiting : daemonPayload headerRead calls stream = .waiting bytes rest)
    {call : ReadCall} (stuck : Stuck rest call) (more : List ReadCall) :
    daemonPayload headerRead (calls ++ call :: more) stream = .failed (-1) := by
  unfold daemonPayload at waiting ⊢
  dsimp only at waiting ⊢
  split at waiting
  · rename_i fits
    rw [dif_pos fits]
    split at waiting
    · rename_i unknown
      rw [if_pos unknown]
      split at waiting
      · cases waiting
      · rw [readPayload_stuck waiting stuck more]
    · rename_i known
      rw [if_neg known]
      exact readPayload_stuck waiting stuck more
  · cases waiting

theorem clientReceive_errorsSound (capacity : Nat) (reads : List ReadCall) (stream : List UInt8) :
    ErrorsSound (clientReceive capacity) reads stream where
  retry rest calls := by
    unfold clientReceive
    split
    · rename_i outcome
      intro same
      injection same with rests _
      exact rests ▸ readExact_stopped_nil outcome
    · nofun
    · nofun
    · unfold clientPayload
      dsimp only
      split
      · nofun
      · split
        · exact fun late => absurd late readPayload_ne_timedOut
        · nofun
  late bytes rest waiting begun more := by
    unfold clientReceive at waiting ⊢
    cases outcome : readExact reads headerBytes [] stream with
    | stopped reason items left calls =>
        rw [outcome] at waiting
        cases reason <;> cases items <;> cases waiting
    | waiting items left =>
        rw [outcome] at waiting
        cases waiting
        rw [readExact_stuck outcome (show Stuck _ .timedOut from trivial) more]
        cases bytes with
        | nil => exact absurd rfl begun
        | cons first others => rfl
    | done items left calls =>
        rw [outcome] at waiting
        rw [readExact_append, outcome]
        exact clientPayload_stuck waiting (show Stuck _ .timedOut from trivial) more
  ended bytes waiting count more := by
    refine ⟨-1, ?_⟩
    unfold clientReceive at waiting ⊢
    cases outcome : readExact reads headerBytes [] stream with
    | stopped reason items left calls =>
        rw [outcome] at waiting
        cases reason <;> cases items <;> cases waiting
    | waiting items left =>
        rw [outcome] at waiting
        cases waiting
        rw [readExact_stuck outcome (show Stuck _ (.data count) from rfl) more]
        rfl
    | done items left calls =>
        rw [outcome] at waiting
        rw [readExact_append, outcome]
        exact clientPayload_stuck waiting (show Stuck _ (.data count) from rfl) more

theorem daemonReceive_errorsSound (reads : List ReadCall)
    (stream : List UInt8) : ErrorsSound daemonReceive reads stream where
  retry rest calls := by
    unfold daemonReceive
    split
    · nofun
    · nofun
    · nofun
    · unfold daemonPayload
      dsimp only
      split
      · split
        · split
          · nofun
          · exact fun late => absurd late readPayload_ne_timedOut
        · exact fun late => absurd late readPayload_ne_timedOut
      · nofun
  late bytes rest waiting begun more := by
    unfold daemonReceive at waiting ⊢
    cases outcome : readExact reads headerBytes [] stream with
    | stopped reason items left calls =>
        rw [outcome] at waiting
        cases reason <;> cases waiting
    | waiting items left =>
        rw [readExact_stuck outcome (show Stuck _ .timedOut from trivial) more]
        rfl
    | done items left calls =>
        rw [outcome] at waiting
        rw [readExact_append, outcome]
        exact daemonPayload_stuck waiting (show Stuck _ .timedOut from trivial) more
  ended bytes waiting count more := by
    unfold daemonReceive at waiting ⊢
    cases outcome : readExact reads headerBytes [] stream with
    | stopped reason items left calls =>
        rw [outcome] at waiting
        cases reason <;> cases waiting
    | waiting items left =>
        rw [outcome] at waiting
        cases waiting
        rw [readExact_stuck outcome (show Stuck _ (.data count) from rfl) more]
        exact ⟨0, rfl⟩
    | done items left calls =>
        rw [outcome] at waiting
        rw [readExact_append, outcome]
        exact ⟨-1, daemonPayload_stuck waiting (show Stuck _ (.data count) from rfl) more⟩

/-! ## The IQ path -/

/-- The `payload` buffer of `reader_main`. -/
def readerPayloadBytes : Nat := 262144

/-- The frames of the IQ path among those written fit the reader's buffer. -/
def IqFits (frames : List Sent) : Prop :=
  ∀ sent ∈ frames, ∀ tuner sequence length,
    sent.frame = .iq tuner sequence length → length.toNat ≤ readerPayloadBytes

theorem sendStream_fits (environment : Environment) (world : World) (tuner length : UInt32) :
    ∃ frames,
      (sendStream environment world tuner length).sent = world.sent ++ frames ∧ IqFits frames := by
  unfold sendStream
  dsimp only
  split
  · exact ⟨[], (List.append_nil _).symm, nofun⟩
  · rename_i small
    have fits : length.toNat ≤ readerPayloadBytes := by
      simpa [openrspdStreamSlotBytes, readerPayloadBytes] using small
    have single (target : Int) (sequence : UInt32) (delivered : Bool) :
        IqFits [⟨target, .iq tuner sequence length, delivered⟩] := by
      intro sent member other number size frame
      rw [List.mem_singleton.mp member] at frame
      injection frame with _ _ sizes
      exact sizes ▸ fits
    split
    · exact ⟨[], (List.append_nil _).symm, nofun⟩
    · split_ifs <;> exact ⟨_, rfl, single _ _ _⟩

/-- Messages sent by either end are received by the other, in order, whole
and aligned, however the transfers are split; timeouts consume nothing, and
what is cut off is an error; and IQ frames fit the reader's buffer. -/
theorem framing_round_trip : (∀ capacity (messages : List (Message capacity)) writes reads count,
      SendsInOrder .daemon writes messages ∧
        RoundTrip (clientReceive capacity) (sendAll .daemon writes messages) reads count) ∧
    (∀ (messages : List (Message openrspdMaxPayload)) writes reads count,
      SendsInOrder .client writes messages ∧
        RoundTrip daemonReceive (sendAll .client writes messages) reads count) ∧
    (∀ capacity reads stream, ErrorsSound (clientReceive capacity) reads stream) ∧
    (∀ reads stream, ErrorsSound daemonReceive reads stream) ∧
    ∀ environment world tuner length, ∃ frames, (sendStream environment world tuner length).sent =
            world.sent ++ frames ∧ IqFits frames := by
  refine ⟨?_, ?_, clientReceive_errorsSound, daemonReceive_errorsSound, sendStream_fits⟩
  · intro capacity messages writes reads count
    exact ⟨sendAll_inOrder .daemon writes messages,
      (clientReceive_takesMessages capacity).roundTrip .daemon writes messages reads count⟩
  · intro messages writes reads count
    exact ⟨sendAll_inOrder .client writes messages,
      daemonReceive_takesMessages.roundTrip .client writes messages reads count⟩

end OpenRsp
