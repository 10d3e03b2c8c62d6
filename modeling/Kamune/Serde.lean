/-
**Signed serialization of a session message (`serde.go`).**

`serialize` marshals the message, refuses one longer than `maxTransportSize`, builds the
`pb.Metadata` (a random `rand.Text()` ID, the clock, the sequence and the route), signs
`signingInput(metadata, message)`, and pads the resulting `pb.SignedTransport` towards a bucket.
`deserialize` unmarshals the signed transport, verifies the signature under the remote key, and
unmarshals the metadata and the message. The random and clock inputs of `serialize` are the
fields of `Entropy`.

* `serialize_eq_ok`: what a successful `serialize` wrote — the inversion lemma the others use;
* `serialize_ok`: a message that marshals within `maxTransportSize` always serializes;
* `length_serialize_le`: **every payload is at most `frameTargetSize` bytes** — the unpadded
  transport takes at most `61585` bytes, and padding never goes past the bucket;
* `deserialize_serialize`: **what `serialize` writes, `deserialize` reads back** under the
  matching key, whatever the padding;
* `deserialize_withPadding`: the padding of a signed transport never reaches the result of
  `deserialize`.
-/

import Kamune.Conn

namespace Kamune

open Wire

/-! ### Errors -/

/-- The errors of the session layer, wrapped as the code wraps them. -/
inductive Error where
  /-- `"marshalling message: %w"`. -/
  | marshallingMessage
  /-- `ErrMessageTooLarge`. -/
  | messageTooLarge
  /-- `"marshalling metadata: %w"`. -/
  | marshallingMetadata
  /-- `"unmarshalling data: %w"`. -/
  | unmarshallingData
  /-- `ErrInvalidSignature`. -/
  | invalidSignature
  /-- `"unmarshalling metadata: %w"`. -/
  | unmarshallingMetadata
  /-- `"unmarshalling message: %w"`. -/
  | unmarshallingMessage
  /-- `"%w: %s"` of `ErrInvalidRoute` and the route. -/
  | invalidRoute (route : Route)
  /-- `"serializing: %w"`. -/
  | serializing (inner : Error)
  /-- `"writing: %w"`. -/
  | writing (inner : ConnError)
  /-- `ErrConnClosed`, for a read that met `io.EOF`. -/
  | connClosed
  /-- `"reading payload: %w"`. -/
  | readingPayload (inner : ConnError)
  /-- `"decrypting payload: %w"`. -/
  | decryptingPayload (inner : DecryptError)
  /-- `"deserializing: %w"`. -/
  | deserializing (inner : Error)
  /-- `ErrPeerDisconnected`. -/
  | peerDisconnected
  /-- `"%w: duplicate message seq %d, expected %d"` (`duplicate = true`) or
  `"%w: missing messages, got seq %d, expected %d"` of `ErrOutOfSync`. -/
  | outOfSync (duplicate : Bool) (seq expected : UInt64)
  deriving DecidableEq, Repr

/-! ### The serde -/

/-- `signedSerde`: the local signing key and the remote public key. -/
structure SignedSerde where
  attest : Bytes
  remote : Bytes
  deriving DecidableEq, Repr

/-- What a `Send` reads from its environment: the bytes of `rand.Text()`, the clock of
`timestamppb.Now()`, the draw of `selectBump` and the bytes of the padding (all read by
`serialize`), and the bytes of the nonce `Encrypt` draws. -/
structure Entropy where
  idTape : Nat → UInt8
  now : Timestamp
  draw : Nat
  padTape : Nat → UInt8
  nonceTape : Nat → UInt8

/-- The environment that reads only zero bytes, at time zero, with the draw `0`. -/
def Entropy.zeros : Entropy := ⟨fun _ => 0, ⟨0, 0⟩, 0, fun _ => 0, fun _ => 0⟩

/-- The `pb.Metadata` `serialize` writes. -/
def newMetadata (route : Route) (sequence : UInt64) (entropy : Entropy) : Metadata where
  id := Text entropy.idTape 26
  timestamp := some entropy.now
  sequence := sequence
  route := route.ToProto

variable (crypto : Primitives) (serde : SignedSerde) {M : Type} (codec : Codec M)

/-- `signedSerde.serialize`: the padded payload and the metadata it carries. -/
def serialize (msg : M) (route : Route) (sequence : UInt64) (entropy : Entropy) :
    Except Error (Bytes × Metadata) :=
  match codec.marshal msg with
  | none => .error .marshallingMessage
  | some message =>
    if maxTransportSize < message.length then .error .messageTooLarge
    else
      let md := newMetadata route sequence entropy
      match md.marshal with
      | none => .error .marshallingMetadata
      | some metadataBytes =>
        let sig := crypto.sign serde.attest (signingInput metadataBytes message)
        let st : SignedTransport :=
          { data := message, signature := sig, metadata := metadataBytes, padding := [] }
        .ok (padSignedTransport st entropy.draw entropy.padTape, md)

/-- `signedSerde.deserialize`: the metadata and the message, into a fresh destination. -/
def deserialize (payload : Bytes) : Except Error (Metadata × M) :=
  match SignedTransport.unmarshal payload with
  | none => .error .unmarshallingData
  | some st =>
    if !crypto.verify serde.remote (signingInput st.metadata st.data) st.signature then
      .error .invalidSignature
    else match Metadata.unmarshal st.metadata with
      | none => .error .unmarshallingMetadata
      | some md =>
        match codec.unmarshal st.data with
        | none => .error .unmarshallingMessage
        | some message => .ok (md, message)

/-! ### Sizes -/

/-- The metadata a `serialize` writes always marshals: its ID is random text. -/
theorem newMetadata_marshal (route : Route) (sequence : UInt64) (entropy : Entropy) :
    (newMetadata route sequence entropy).marshal =
      some (encodeFields (newMetadata route sequence entropy).fields) :=
  if_pos (utf8Valid_Text _ _)

/-- A marshalled metadata record with a short ID: at most `48` bytes besides its ID — a field of
two bytes of framing, a timestamp of at most `24`, two varint fields of at most `11`. -/
theorem Metadata.length_encode_le (metadata : Metadata) (short : metadata.id.length < 128) :
    (encodeFields metadata.fields).length ≤ metadata.id.length + 48 := by
  have sequence := length_uvarint_le_ten (UInt64.toNat_lt metadata.sequence)
  have route := length_uvarint_le_ten (UInt64.toNat_lt metadata.route.toInt64.toUInt64)
  have time : (encodeFields (messageField 2 (metadata.timestamp.map Timestamp.fields))).length
      ≤ 24 := by
    cases metadata.timestamp with
    | none => simp [messageField]
    | some time =>
      have small := time.length_encode_le
      rw [Option.map_some, length_encodeFields_messageField (by norm_num),
        length_uvarint_of_lt (by omega)]
      omega
  simp only [Metadata.fields, encodeFields_append, List.length_append,
    length_encodeFields_bytesField (by norm_num : 1 < 16),
    length_encodeFields_varintField (by norm_num : 3 < 16),
    length_encodeFields_varintField (by norm_num : 4 < 16),
    length_uvarint_of_lt short]
  split <;> split <;> split <;> omega

/-- A `bytes` field whose length fits `groups` varint groups: a tag and at most `groups` bytes of
length besides its payload. -/
theorem bytesFieldSize_le {payload : Bytes} {groups : Nat} (positive : 0 < groups)
    (short : payload.length < 2 ^ (7 * groups)) :
    bytesFieldSize payload ≤ payload.length + 1 + groups := by
  have framing : (uvarint payload.length).length ≤ groups := length_uvarint_le positive short
  unfold bytesFieldSize
  split <;> omega

/-! ### Serializing -/

section Serialize

variable {crypto serde codec}

/-- **What a successful `serialize` wrote**: the message marshalled within `maxTransportSize`,
the new metadata, and the padded signed transport of both. -/
theorem serialize_eq_ok {msg : M} {route : Route} {sequence : UInt64} {entropy : Entropy}
    {payload : Bytes} {md : Metadata}
    (serialized : serialize crypto serde codec msg route sequence entropy = .ok (payload, md)) :
    ∃ message, codec.marshal msg = some message ∧ message.length ≤ maxTransportSize ∧
      md = newMetadata route sequence entropy ∧
      payload = padSignedTransport
        { data := message
          signature := crypto.sign serde.attest (signingInput (encodeFields md.fields) message)
          metadata := encodeFields md.fields
          padding := [] } entropy.draw entropy.padTape := by
  unfold serialize at serialized
  split at serialized
  case h_1 => cases serialized
  case h_2 message marshalled =>
    split at serialized
    case isTrue => cases serialized
    case isFalse fits =>
      dsimp only at serialized
      rw [newMetadata_marshal] at serialized
      cases serialized
      exact ⟨message, marshalled, by omega, rfl, rfl⟩

/-- **A message that marshals within `maxTransportSize` always serializes.** -/
theorem serialize_ok {msg : M} {message : Bytes} (marshalled : codec.marshal msg = some message)
    (fits : message.length ≤ maxTransportSize) (route : Route) (sequence : UInt64)
    (entropy : Entropy) :
    ∃ payload, serialize crypto serde codec msg route sequence entropy =
      .ok (payload, newMetadata route sequence entropy) := by
  unfold serialize
  rw [marshalled]
  dsimp only
  rw [if_neg (by omega), newMetadata_marshal]
  exact ⟨_, rfl⟩

/-- A message longer than `maxTransportSize` is refused. -/
theorem serialize_tooLarge {msg : M} {message : Bytes}
    (marshalled : codec.marshal msg = some message) (large : maxTransportSize < message.length)
    (route : Route) (sequence : UInt64) (entropy : Entropy) :
    serialize crypto serde codec msg route sequence entropy = .error .messageTooLarge := by
  unfold serialize
  rw [marshalled]
  exact if_pos large

variable (serde) in
/-- The unpadded signed transport of a message within `maxTransportSize`: at most `61585` bytes,
well below `frameTargetSize`. -/
theorem size_unpadded_le (lawful : crypto.Lawful) {message : Bytes}
    (fits : message.length ≤ maxTransportSize) (md : Metadata) (shortId : md.id.length ≤ 26) :
    ({ data := message
       signature := crypto.sign serde.attest (signingInput (encodeFields md.fields) message)
       metadata := encodeFields md.fields
       padding := [] } : SignedTransport).size ≤ 61585 := by
  have metadataShort := md.length_encode_le (by omega)
  have signature := lawful.length_sign serde.attest (signingInput (encodeFields md.fields) message)
  unfold maxTransportSize maxUint16 reservedProtocolOverhead at fits
  rw [SignedTransport.size_eq]
  dsimp only
  have data : bytesFieldSize message ≤ message.length + 1 + 3 :=
    bytesFieldSize_le (by norm_num) (by omega)
  have sig :
      bytesFieldSize (crypto.sign serde.attest (signingInput (encodeFields md.fields) message)) ≤
        64 + 1 + 1 := by
    rw [← signature]
    exact bytesFieldSize_le (by norm_num) (by omega)
  have metadataField :
      bytesFieldSize (encodeFields md.fields) ≤ (encodeFields md.fields).length + 1 + 1 :=
    bytesFieldSize_le (by norm_num) (by omega)
  rw [bytesFieldSize_nil]
  omega

/-- **Every payload `serialize` produces is at most `frameTargetSize` bytes**, for every message
within `maxTransportSize`, route, sequence, ID, timestamp, bump and padding. -/
theorem length_serialize_le (lawful : crypto.Lawful) {msg : M} {route : Route}
    {sequence : UInt64} {entropy : Entropy} {payload : Bytes} {md : Metadata}
    (serialized : serialize crypto serde codec msg route sequence entropy = .ok (payload, md)) :
    payload.length ≤ frameTargetSize := by
  obtain ⟨message, -, fits, rfl, rfl⟩ := serialize_eq_ok serialized
  have unpadded := size_unpadded_le serde lawful fits
    (newMetadata route sequence entropy) (length_Text _ _).le
  have below : (61585 : Nat) ≤ frameTargetSize := by decide
  -- the padded transport is fixed by the goal before the bound is checked against it
  apply length_padSignedTransport_le
  exact unpadded.trans below

/-- **A message above the fifth bucket pads to the last one**: its payload is within two bytes of
`frameTargetSize`, whatever the bump. -/
theorem frameTargetSize_le_serialize (lawful : crypto.Lawful) {msg : M} {message : Bytes}
    (marshalled : codec.marshal msg = some message) (large : 32 * 1024 < message.length)
    {route : Route} {sequence : UInt64} {entropy : Entropy} {payload : Bytes} {md : Metadata}
    (serialized : serialize crypto serde codec msg route sequence entropy = .ok (payload, md)) :
    frameTargetSize ≤ payload.length + 2 := by
  obtain ⟨written, writtenMarshalled, fits, rfl, rfl⟩ := serialize_eq_ok serialized
  obtain rfl : message = written := Option.some.inj (marshalled.symm.trans writtenMarshalled)
  have unpadded := size_unpadded_le serde lawful fits
    (newMetadata route sequence entropy) (length_Text _ _).le
  have nonempty : message ≠ [] := by
    rintro rfl
    exact absurd large (by simp)
  have dataField : message.length < bytesFieldSize message := by
    simp only [bytesFieldSize, if_neg nonempty]
    omega
  apply frameTargetSize_le_padSignedTransport
  · rw [SignedTransport.size_eq]
    dsimp only
    omega
  · exact lt_of_le_of_lt (Nat.add_le_add_right unpadded 4) (by decide)

end Serialize

/-! ### Deserializing -/

section Deserialize

variable {crypto serde codec}

/-- **Padding never reaches the result of `deserialize`.** -/
theorem deserialize_withPadding {transport : SignedTransport} (small : transport.Small)
    (padding : Bytes) (paddingSmall : padding.length < 2 ^ 64) :
    deserialize crypto serde codec ({ transport with padding := padding } : SignedTransport).marshal
      = deserialize crypto serde codec transport.marshal := by
  have padded : ({ transport with padding := padding } : SignedTransport).Small :=
    ⟨small.1, small.2.1, small.2.2.1, paddingSmall⟩
  unfold deserialize
  rw [SignedTransport.unmarshal_marshal padded, SignedTransport.unmarshal_marshal small]

/-- **What `serialize` writes, `deserialize` reads back**: under the remote key of the signer, the
metadata `serialize` made and a message that marshals to the same bytes. -/
theorem deserialize_serialize (lawful : crypto.Lawful) (codecLawful : codec.Lawful)
    {sender : SignedSerde} (matching : serde.remote = crypto.publicKey sender.attest)
    {msg : M} {route : Route} {sequence : UInt64} {entropy : Entropy} {payload : Bytes}
    {md : Metadata}
    (serialized : serialize crypto sender codec msg route sequence entropy = .ok (payload, md)) :
    ∃ decoded, deserialize crypto serde codec payload = .ok (md, decoded) ∧
      codec.marshal decoded = codec.marshal msg := by
  obtain ⟨message, marshalled, fits, rfl, rfl⟩ := serialize_eq_ok serialized
  unfold maxTransportSize maxUint16 reservedProtocolOverhead at fits
  set md := newMetadata route sequence entropy
  have idLength : md.id.length = 26 := length_Text _ _
  have metadataShort := md.length_encode_le (by omega)
  obtain ⟨decoded, unmarshalled, remarshalled⟩ :=
    codecLawful msg message marshalled (by omega)
  set transport : SignedTransport :=
    { data := message
      signature := crypto.sign sender.attest (signingInput (encodeFields md.fields) message)
      metadata := encodeFields md.fields
      padding := [] }
  obtain ⟨padding, paddingShort, padded⟩ :=
    padSignedTransport_eq transport entropy.draw entropy.padTape
  have small : transport.Small := by
    have signature :=
      lawful.length_sign sender.attest (signingInput (encodeFields md.fields) message)
    refine ⟨?_, ?_, ?_, ?_⟩ <;> simp only [transport, List.length_nil] <;> omega
  have paddingSmall : padding.length < 2 ^ 64 := by
    unfold frameTargetSize maxUint16 encryptionOverhead at paddingShort
    omega
  have metadataBack : Metadata.unmarshal (encodeFields md.fields) = some md :=
    Metadata.unmarshal_marshal (by omega) (newMetadata_marshal route sequence entropy)
  refine ⟨decoded, ?_, by rw [remarshalled, marshalled]⟩
  -- the padding never reaches the result: read the transport as if it were unpadded
  rw [padded, deserialize_withPadding small padding paddingSmall]
  unfold deserialize
  rw [SignedTransport.unmarshal_marshal small]
  dsimp only
  rw [matching, lawful.verify_sign, metadataBack, unmarshalled]
  rfl

/-- With a codec that reads back exactly what it wrote, `deserialize` returns the very message
`serialize` was given. -/
theorem deserialize_serialize_eq (lawful : crypto.Lawful) (readsBack : codec.ReadsBack)
    {sender : SignedSerde} (matching : serde.remote = crypto.publicKey sender.attest)
    {msg : M} {route : Route} {sequence : UInt64} {entropy : Entropy} {payload : Bytes}
    {md : Metadata}
    (serialized : serialize crypto sender codec msg route sequence entropy = .ok (payload, md)) :
    deserialize crypto serde codec payload = .ok (md, msg) := by
  obtain ⟨decoded, deserialized, remarshalled⟩ :=
    deserialize_serialize lawful readsBack.lawful matching serialized
  obtain ⟨message, marshalled, fits, -, -⟩ := serialize_eq_ok serialized
  have short : message.length < 2 ^ 63 := by
    unfold maxTransportSize maxUint16 reservedProtocolOverhead at fits
    omega
  have same : decoded = msg :=
    readsBack.eq_of_marshal (remarshalled.trans marshalled) marshalled short
  rw [deserialized, same]

end Deserialize

end Kamune
