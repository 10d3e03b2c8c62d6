/-
**The messages of the session layer, as the generated protobuf code encodes and decodes them.**

`Route` is the route identifier of `routes.go`, with `Route.ToProto` and `RouteFromProto` into
the open `pb.Route` enum. The messages of `internal/box` and the one well-known type the protocol
sends are each given with the field list `proto.Marshal` writes (fields in number order, proto3
zero values left out) and the decoder `proto.Unmarshal` runs on top of `parseFields`:

* `Timestamp` — `timestamppb.Timestamp`: `seconds` (`int64`, field 1), `nanos` (`int32`, field 2);
* `Metadata` — `pb.Metadata`: `ID` (`string`, 1), `Timestamp` (message, 2), `Sequence`
  (`uint64`, 3), `Route` (enum, 4);
* `SignedTransport` — `pb.SignedTransport`: `Data`, `Signature`, `Metadata`, `Padding` (`bytes`,
  1–4);
* `Handshake` — `pb.Handshake`: `Key`, `Salt` (`bytes`, 1–2), `SessionKey` (`string`, 3);
* `BytesValue` — `wrapperspb.BytesValue`: `value` (`bytes`, 1).

A message type the transport is generic over is a `Codec`: its `proto.Marshal` and its
`proto.Unmarshal` into a fresh destination. `Codec.Lawful` is the documented behaviour the code
relies on: `proto.Unmarshal` accepts what `proto.Marshal` wrote, and the result marshals back to the
same bytes.

* `RouteFromProto_ToProto`, `Timestamp.ofFields_fields`, `Metadata.unmarshal_marshal`,
  `SignedTransport.unmarshal_marshal`: every encoding reads back.
* `handshakeCodec_readsBack`, `bytesValueCodec_readsBack`: the two concrete message types read
  back exactly what they wrote, hence are lawful.
-/

import Kamune.Wire.Protobuf

namespace Kamune

open Wire

/-! ### Routes -/

/-- `Route` (`routes.go`). The code only ever names these constants; any other value of the
underlying `int32` is invalid, prints as `Invalid` and maps to `ROUTE_INVALID`, exactly as
`RouteInvalid` does. -/
inductive Route where
  | invalid
  | identity
  | requestHandshake
  | acceptHandshake
  | finalizeHandshake
  | sendChallenge
  | verifyChallenge
  | exchangeMessages
  | closeTransport
  | ping
  | pong
  | resumeRequest
  | resumeAccept
  | sessionData
  deriving DecidableEq, Repr

/-- `Route.IsValid`: `r > RouteInvalid && r <= RouteSessionData`. -/
def Route.IsValid (route : Route) : Bool := route != .invalid

/-- `Route.ToProto`: the number of the `pb.Route` enum value. -/
def Route.ToProto : Route → Int32
  | invalid => 0
  | identity => 1
  | requestHandshake => 2
  | acceptHandshake => 3
  | finalizeHandshake => 4
  | sendChallenge => 5
  | verifyChallenge => 6
  | exchangeMessages => 7
  | closeTransport => 8
  | ping => 9
  | pong => 10
  | resumeRequest => 11
  | resumeAccept => 12
  | sessionData => 13

/-- The route of a non-negative enum number. -/
def Route.ofNumber : Nat → Route
  | 1 => identity
  | 2 => requestHandshake
  | 3 => acceptHandshake
  | 4 => finalizeHandshake
  | 5 => sendChallenge
  | 6 => verifyChallenge
  | 7 => exchangeMessages
  | 8 => closeTransport
  | 9 => ping
  | 10 => pong
  | 11 => resumeRequest
  | 12 => resumeAccept
  | 13 => sessionData
  | _ => invalid

/-- `RouteFromProto`: the named numbers to their routes, every other `int32` to `RouteInvalid`. -/
def RouteFromProto (number : Int32) : Route := Route.ofNumber number.toInt.toNat

@[simp] theorem RouteFromProto_ToProto (route : Route) : RouteFromProto route.ToProto = route := by
  cases route <;> decide

/-! ### Messages as codecs -/

/-- A protobuf message type: `proto.Marshal`, and `proto.Unmarshal` into a fresh destination. -/
structure Codec (M : Type) where
  marshal : M → Option Bytes
  unmarshal : Bytes → Option M

/-- What the code relies on of `proto.Marshal` and `proto.Unmarshal`: the bytes of a marshalled
message unmarshal, into a message that marshals back to the same bytes. (A Go slice is shorter
than `2 ^ 63`, so only such encodings exist.) -/
def Codec.Lawful {M : Type} (codec : Codec M) : Prop :=
  ∀ (message : M) (bytes : Bytes), codec.marshal message = some bytes → bytes.length < 2 ^ 63 →
    ∃ decoded, codec.unmarshal bytes = some decoded ∧ codec.marshal decoded = some bytes

/-- A codec that reads back exactly the message it wrote. -/
def Codec.ReadsBack {M : Type} (codec : Codec M) : Prop :=
  ∀ (message : M) (bytes : Bytes), codec.marshal message = some bytes → bytes.length < 2 ^ 63 →
    codec.unmarshal bytes = some message

/-- A codec that reads back every message it writes is lawful. -/
theorem Codec.ReadsBack.lawful {M : Type} {codec : Codec M} (readsBack : codec.ReadsBack) :
    codec.Lawful :=
  fun message bytes written short => ⟨message, readsBack message bytes written short, written⟩

/-- A codec that reads back never writes two messages the same. -/
theorem Codec.ReadsBack.eq_of_marshal {M : Type} {codec : Codec M} (readsBack : codec.ReadsBack)
    {first second : M} {bytes : Bytes} (firstWritten : codec.marshal first = some bytes)
    (secondWritten : codec.marshal second = some bytes) (short : bytes.length < 2 ^ 63) :
    first = second := by
  have firstBack := readsBack first bytes firstWritten short
  rw [readsBack second bytes secondWritten short] at firstBack
  exact (Option.some.inj firstBack).symm

/-! ### `timestamppb.Timestamp` -/

/-- An `int32` written sign-extended and read back by `int32(v)` is itself. -/
@[simp] theorem int32_ofNat_toUInt64 (value : Int32) :
    Int32.ofNat value.toInt64.toUInt64.toNat = value := by
  have roundTrip := congrArg Int64.toInt32 (Int64.toInt64_toUInt64 value.toInt64)
  rw [← UInt64.ofNat_toNat (x := value.toInt64.toUInt64), UInt64.toInt64_ofNat'] at roundTrip
  simpa using roundTrip

/-- `timestamppb.Timestamp`. -/
structure Timestamp where
  seconds : Int64
  nanos : Int32
  deriving DecidableEq, Repr

/-- The fields `proto.Marshal` writes for a timestamp; an `int32` is sign-extended to 64 bits. -/
def Timestamp.fields (time : Timestamp) : List Field :=
  varintField 1 time.seconds.toUInt64.toNat ++ varintField 2 time.nanos.toInt64.toUInt64.toNat

/-- The timestamp a decoder reads from its fields: `int64(v)` and `int32(v)` of the last values. -/
def Timestamp.ofFields (fields : List Field) : Timestamp where
  seconds := (UInt64.ofNat (lastVarint 1 fields)).toInt64
  nanos := (UInt64.ofNat (lastVarint 2 fields)).toInt64.toInt32

theorem Timestamp.fields_wellFormed (time : Timestamp) :
    ∀ field ∈ time.fields, field.WellFormed := by
  intro field member
  rcases List.mem_append.mp member with first | second
  · exact varintField_wellFormed (by norm_num) (by norm_num) (UInt64.toNat_lt _) field first
  · exact varintField_wellFormed (by norm_num) (by norm_num) (UInt64.toNat_lt _) field second

/-- **A timestamp reads back from its fields.** -/
@[simp] theorem Timestamp.ofFields_fields (time : Timestamp) :
    Timestamp.ofFields time.fields = time := by
  rcases time with ⟨seconds, nanos⟩
  simp [Timestamp.ofFields, Timestamp.fields, lastVarint_eq]

/-- A timestamp takes at most `22` bytes: two one-byte tags and two 64-bit varints. -/
theorem Timestamp.length_encode_le (time : Timestamp) : (encodeFields time.fields).length ≤ 22 := by
  have seconds := length_uvarint_le_ten (UInt64.toNat_lt time.seconds.toUInt64)
  have nanos := length_uvarint_le_ten (UInt64.toNat_lt time.nanos.toInt64.toUInt64)
  simp only [Timestamp.fields, encodeFields_append, List.length_append,
    length_encodeFields_varintField (by norm_num : 1 < 16),
    length_encodeFields_varintField (by norm_num : 2 < 16)]
  split <;> split <;> omega

/-! ### `pb.Metadata` -/

/-- `pb.Metadata`. The `Route` field keeps the raw `int32` of the open enum. -/
structure Metadata where
  id : Bytes
  timestamp : Option Timestamp
  sequence : UInt64
  route : Int32
  deriving DecidableEq, Repr

/-- The fields `proto.Marshal` writes for a metadata record. -/
def Metadata.fields (metadata : Metadata) : List Field :=
  bytesField 1 metadata.id ++ messageField 2 (metadata.timestamp.map Timestamp.fields) ++
    varintField 3 metadata.sequence.toNat ++ varintField 4 metadata.route.toInt64.toUInt64.toNat

/-- `proto.Marshal(md)`: fails when the `string` field `ID` is not valid UTF-8. -/
def Metadata.marshal (metadata : Metadata) : Option Bytes :=
  if utf8Valid metadata.id then some (encodeFields metadata.fields) else none

/-- `proto.Unmarshal` into a `pb.Metadata`: every occurrence of `ID` must be valid UTF-8, every
occurrence of `Timestamp` is merged into the one before. -/
def Metadata.unmarshal (bytes : Bytes) : Option Metadata :=
  (parseFields bytes).bind fun fields =>
    if (payloads 1 fields).all utf8Valid then
      (nestedFields 2 fields).map fun nested =>
        { id := lastBytes 1 fields
          timestamp := nested.map Timestamp.ofFields
          sequence := UInt64.ofNat (lastVarint 3 fields)
          route := (UInt64.ofNat (lastVarint 4 fields)).toInt64.toInt32 }
    else none

/-- `md.GetRoute()` as a route: `RouteFromProto`. -/
def Metadata.Route (metadata : Metadata) : Route := RouteFromProto metadata.route

theorem Metadata.fields_wellFormed {metadata : Metadata} (small : metadata.id.length < 2 ^ 64) :
    ∀ field ∈ metadata.fields, field.WellFormed := by
  intro field member
  simp only [Metadata.fields, List.mem_append] at member
  rcases member with ((identifier | nested) | sequence) | route
  · exact bytesField_wellFormed (by norm_num) (by norm_num) small field identifier
  · refine messageField_wellFormed (by norm_num) (by norm_num) ?_ field nested
    intro fields written
    obtain ⟨time, -, rfl⟩ := Option.map_eq_some_iff.mp written
    have short := time.length_encode_le
    omega
  · exact varintField_wellFormed (by norm_num) (by norm_num) (UInt64.toNat_lt _) field sequence
  · exact varintField_wellFormed (by norm_num) (by norm_num) (UInt64.toNat_lt _) field route

/-- **A marshalled metadata record reads back.** -/
theorem Metadata.unmarshal_marshal {metadata : Metadata} {bytes : Bytes}
    (small : metadata.id.length < 2 ^ 64) (written : metadata.marshal = some bytes) :
    Metadata.unmarshal bytes = some metadata := by
  unfold Metadata.marshal at written
  split at written
  case isFalse => cases written
  case isTrue valid =>
    cases written
    have nested : nestedFields 2 metadata.fields = some (metadata.timestamp.map Timestamp.fields) :=
      nestedFields_messageField (fun fields written field member => by
        obtain ⟨time, -, rfl⟩ := Option.map_eq_some_iff.mp written
        exact time.fields_wellFormed field member) (by simp [Metadata.fields])
    rw [Metadata.unmarshal, parseFields_encodeFields (Metadata.fields_wellFormed small)]
    rcases metadata with ⟨id, timestamp, sequence, route⟩
    cases timestamp <;>
      simp_all [Metadata.fields, lastBytes_eq, lastVarint_eq]

/-! ### `pb.SignedTransport` -/

/-- `pb.SignedTransport`. -/
structure SignedTransport where
  data : Bytes
  signature : Bytes
  metadata : Bytes
  padding : Bytes
  deriving DecidableEq, Repr

/-- The fields `proto.Marshal` writes for a signed transport. -/
def SignedTransport.fields (transport : SignedTransport) : List Field :=
  bytesField 1 transport.data ++ bytesField 2 transport.signature ++
    bytesField 3 transport.metadata ++ bytesField 4 transport.padding

/-- `proto.Marshal(st)`: only `bytes` fields, so it never fails. -/
def SignedTransport.marshal (transport : SignedTransport) : Bytes :=
  encodeFields transport.fields

/-- `proto.Size(st)`. -/
def SignedTransport.size (transport : SignedTransport) : Nat := transport.marshal.length

/-- `proto.Unmarshal` into a `pb.SignedTransport`. -/
def SignedTransport.unmarshal (bytes : Bytes) : Option SignedTransport :=
  (parseFields bytes).map fun fields =>
    { data := lastBytes 1 fields
      signature := lastBytes 2 fields
      metadata := lastBytes 3 fields
      padding := lastBytes 4 fields }

/-- Each payload of a signed transport has a 64-bit length. -/
def SignedTransport.Small (transport : SignedTransport) : Prop :=
  transport.data.length < 2 ^ 64 ∧ transport.signature.length < 2 ^ 64 ∧
    transport.metadata.length < 2 ^ 64 ∧ transport.padding.length < 2 ^ 64

theorem SignedTransport.fields_wellFormed {transport : SignedTransport} (small : transport.Small) :
    ∀ field ∈ transport.fields, field.WellFormed := by
  obtain ⟨data, signature, metadata, padding⟩ := small
  intro field member
  simp only [SignedTransport.fields, List.mem_append] at member
  rcases member with ((first | second) | third) | fourth
  · exact bytesField_wellFormed (by norm_num) (by norm_num) data field first
  · exact bytesField_wellFormed (by norm_num) (by norm_num) signature field second
  · exact bytesField_wellFormed (by norm_num) (by norm_num) metadata field third
  · exact bytesField_wellFormed (by norm_num) (by norm_num) padding field fourth

/-- **A marshalled signed transport reads back.** -/
theorem SignedTransport.unmarshal_marshal {transport : SignedTransport} (small : transport.Small) :
    SignedTransport.unmarshal transport.marshal = some transport := by
  rw [SignedTransport.unmarshal, SignedTransport.marshal,
    parseFields_encodeFields (SignedTransport.fields_wellFormed small)]
  rcases transport with ⟨data, signature, metadata, padding⟩
  simp [SignedTransport.fields, lastBytes_eq]

/-- The bytes a `bytes` field of number below `16` takes: nothing when empty, else a one-byte
tag, the varint length and the payload. -/
def bytesFieldSize (payload : Bytes) : Nat :=
  if payload = [] then 0 else 1 + (uvarint payload.length).length + payload.length

@[simp] theorem bytesFieldSize_nil : bytesFieldSize [] = 0 := rfl

/-- **`proto.Size` of a signed transport**: the sum over its non-empty fields. -/
theorem SignedTransport.size_eq (transport : SignedTransport) :
    transport.size = bytesFieldSize transport.data + bytesFieldSize transport.signature +
      bytesFieldSize transport.metadata + bytesFieldSize transport.padding := by
  simp only [SignedTransport.size, SignedTransport.marshal, SignedTransport.fields,
    encodeFields_append, List.length_append, bytesFieldSize,
    length_encodeFields_bytesField (by norm_num : 1 < 16),
    length_encodeFields_bytesField (by norm_num : 2 < 16),
    length_encodeFields_bytesField (by norm_num : 3 < 16),
    length_encodeFields_bytesField (by norm_num : 4 < 16)]

/-! ### `pb.Handshake` and `wrapperspb.BytesValue` -/

/-- `pb.Handshake`. -/
structure Handshake where
  key : Bytes
  salt : Bytes
  sessionKey : Bytes
  deriving DecidableEq, Repr

/-- The fields `proto.Marshal` writes for a handshake message. -/
def Handshake.fields (handshake : Handshake) : List Field :=
  bytesField 1 handshake.key ++ bytesField 2 handshake.salt ++ bytesField 3 handshake.sessionKey

/-- `pb.Handshake` as a codec: the `string` field `SessionKey` is checked for UTF-8 both ways. -/
def handshakeCodec : Codec Handshake where
  marshal handshake :=
    if utf8Valid handshake.sessionKey then some (encodeFields handshake.fields) else none
  unmarshal bytes :=
    (parseFields bytes).bind fun fields =>
      if (payloads 3 fields).all utf8Valid then
        some { key := lastBytes 1 fields, salt := lastBytes 2 fields,
               sessionKey := lastBytes 3 fields }
      else none

/-- `wrapperspb.BytesValue`, what `Bytes(b)` builds. -/
structure BytesValue where
  value : Bytes
  deriving DecidableEq, Repr

/-- `wrapperspb.BytesValue` as a codec. -/
def bytesValueCodec : Codec BytesValue where
  marshal message := some (encodeFields (bytesField 1 message.value))
  unmarshal bytes := (parseFields bytes).map fun fields => { value := lastBytes 1 fields }

/-- A payload is no longer than the encoding of its field. -/
theorem length_le_bytesField (number : Nat) (payload : Bytes) :
    payload.length ≤ (encodeFields (bytesField number payload)).length := by
  by_cases empty : payload = []
  · simp [empty]
  · simp only [bytesField, empty, if_false, encodeFields_cons, encodeFields_nil, List.append_nil,
      Field.encode, WireValue.encode, List.length_append]
    omega

/-- **A handshake message reads back** exactly. -/
theorem handshakeCodec_readsBack : handshakeCodec.ReadsBack := by
  intro handshake bytes written short
  simp only [handshakeCodec] at written ⊢
  split at written
  case isFalse => cases written
  case isTrue valid =>
    cases written
    have bound : handshake.key.length < 2 ^ 64 ∧ handshake.salt.length < 2 ^ 64 ∧
        handshake.sessionKey.length < 2 ^ 64 := by
      have key := length_le_bytesField 1 handshake.key
      have salt := length_le_bytesField 2 handshake.salt
      have sessionKey := length_le_bytesField 3 handshake.sessionKey
      simp only [Handshake.fields, encodeFields_append, List.length_append] at short
      refine ⟨by omega, by omega, by omega⟩
    have well : ∀ field ∈ handshake.fields, field.WellFormed := by
      intro field member
      simp only [Handshake.fields, List.mem_append] at member
      rcases member with (first | second) | third
      · exact bytesField_wellFormed (by norm_num) (by norm_num) bound.1 field first
      · exact bytesField_wellFormed (by norm_num) (by norm_num) bound.2.1 field second
      · exact bytesField_wellFormed (by norm_num) (by norm_num) bound.2.2 field third
    rw [parseFields_encodeFields well]
    rcases handshake with ⟨key, salt, sessionKey⟩
    by_cases empty : sessionKey = [] <;> simp_all [Handshake.fields, lastBytes_eq]

theorem handshakeCodec_lawful : handshakeCodec.Lawful := handshakeCodec_readsBack.lawful

/-- **A `BytesValue` reads back** exactly. -/
theorem bytesValueCodec_readsBack : bytesValueCodec.ReadsBack := by
  intro message bytes written short
  simp only [bytesValueCodec, Option.some.injEq] at written ⊢
  subst written
  have bound : message.value.length < 2 ^ 64 := by
    have := length_le_bytesField 1 message.value
    omega
  rw [parseFields_encodeFields (bytesField_wellFormed (by norm_num) (by norm_num) bound)]
  simp [lastBytes_eq]

theorem bytesValueCodec_lawful : bytesValueCodec.Lawful := bytesValueCodec_readsBack.lawful

end Kamune
