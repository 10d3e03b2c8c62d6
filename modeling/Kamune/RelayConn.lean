/-
**The relay connection's write path (`pkg/relayconn`, `pkg/exchange/channel.go`).**

Over a relay, `Transport.Send` hands its encrypted frame to `RelayConn.WriteBytes`, which wraps it
as `Frame{Msg{Data}}`, seals that with the HPKE context of the `exchange.Channel`, and writes the
result with `Framing.WriteBytes`: a two-byte big-endian length, `uint16(len(data))`, then the data.
The relay reads frames with `Framing.ReadBytes`, bounded by its `max_message_size`.

* `Framing.ReadBytes_eq_ok`: what a successful read took from the stream;
* `Framing.ReadBytes_WriteBytes`: a frame of at most `math.MaxUint16` bytes, within the bound,
  reads back;
* `Framing.ReadBytes_WriteBytes_ne`: a longer one does not, its length being cut modulo `2^16`;
* `length_Seal_messageFrame`: the wrapping and the seal add `24` bytes to a large frame;
* `relay_frame_overflows`: a message above the fifth padding bucket leaves `serialize` in the last
  bucket, and the relay wrapping takes the frame past `math.MaxUint16`.
-/

import Kamune.Serde

namespace Kamune

open Wire

/-! ### `Framing` -/

/-- `DefaultMaxFrameSize`, also the default of the relay's `max_message_size`. -/
def DefaultMaxFrameSize : Nat := 65536

/-- The errors of `Framing.ReadBytes`. -/
inductive FramingError where
  /-- `"read length: %w"`: fewer than two bytes to come. -/
  | readLength
  /-- `"frame size %d exceeds max %d"`. -/
  | frameSize (length maxSize : Nat)
  /-- `"read data: %w"`: fewer bytes to come than the length says. -/
  | readData
  deriving DecidableEq, Repr

/-- `Framing.WriteBytes`: `binary.Write` of `uint16(len(data))`, big-endian, then the data. -/
def Framing.WriteBytes (data : Bytes) : Bytes := bigEndian 2 (data.length % 2 ^ 16) ++ data

/-- `Framing.ReadBytes` with its `maxSize` (`0` for no bound), on the bytes still to come. -/
def Framing.ReadBytes (maxSize : Nat) (stream : Bytes) : Except FramingError (Bytes × Bytes) :=
  if stream.length < 2 then .error .readLength
  else
    let length := ofBigEndian (stream.take 2)
    if 0 < maxSize ∧ maxSize < length then .error (.frameSize length maxSize)
    else if (stream.drop 2).length < length then .error .readData
    else .ok ((stream.drop 2).take length, (stream.drop 2).drop length)

/-- **What a successful read took**: the length its prefix says, within the bound. -/
theorem Framing.ReadBytes_eq_ok {maxSize : Nat} {stream frame rest : Bytes}
    (read : Framing.ReadBytes maxSize stream = .ok (frame, rest)) :
    frame.length = ofBigEndian (stream.take 2) ∧ frame ++ rest = stream.drop 2 ∧
      ¬(0 < maxSize ∧ maxSize < frame.length) := by
  unfold Framing.ReadBytes at read
  split at read
  case isTrue => cases read
  case isFalse long =>
    dsimp only at read
    split at read
    case isTrue => cases read
    case isFalse bounded =>
      split at read
      case isTrue => cases read
      case isFalse enough =>
        cases read
        rw [List.length_take_of_le (by omega)]
        exact ⟨rfl, List.take_append_drop _ _, bounded⟩

/-- The length prefix `Framing.WriteBytes` writes: the length modulo `2^16`. -/
theorem Framing.prefix_WriteBytes (data rest : Bytes) :
    ofBigEndian ((Framing.WriteBytes data ++ rest).take 2) = data.length % 2 ^ 16 := by
  have width : (bigEndian 2 (data.length % 2 ^ 16)).length = 2 := length_bigEndian _ _
  rw [Framing.WriteBytes, List.append_assoc, List.take_left' width, ofBigEndian_bigEndian]
  exact Nat.mod_mod_of_dvd _ (by norm_num)

/-- **A frame that fits its prefix reads back**, within the reader's bound. -/
theorem Framing.ReadBytes_WriteBytes {data : Bytes} (fits : data.length ≤ maxUint16)
    {maxSize : Nat} (bounded : maxSize = 0 ∨ data.length ≤ maxSize) (rest : Bytes) :
    Framing.ReadBytes maxSize (Framing.WriteBytes data ++ rest) = .ok (data, rest) := by
  have width : (bigEndian 2 (data.length % 2 ^ 16)).length = 2 := length_bigEndian _ _
  have prefixValue := Framing.prefix_WriteBytes data rest
  have exact : data.length % 2 ^ 16 = data.length := by
    unfold maxUint16 at fits
    omega
  have body : (Framing.WriteBytes data ++ rest).drop 2 = data ++ rest := by
    rw [Framing.WriteBytes, List.append_assoc, List.drop_left' width]
  unfold Framing.ReadBytes
  rw [if_neg (by simp only [Framing.WriteBytes, List.length_append, width]; omega)]
  dsimp only
  rw [prefixValue, exact, if_neg (by omega), body, if_neg (by simp), List.take_left,
    List.drop_left]

/-- **A frame longer than its prefix can say does not read back**: the reader takes the length
modulo `2^16`, whatever its bound. -/
theorem Framing.ReadBytes_WriteBytes_ne {data : Bytes} (large : maxUint16 < data.length)
    (maxSize : Nat) (rest : Bytes) :
    Framing.ReadBytes maxSize (Framing.WriteBytes data ++ rest) ≠ .ok (data, rest) := by
  intro readBack
  obtain ⟨readLength, -, -⟩ := Framing.ReadBytes_eq_ok readBack
  rw [Framing.prefix_WriteBytes] at readLength
  unfold maxUint16 at large
  omega

/-! ### The channel and the relay conn -/

/-- `proto.Marshal(&pb.Frame{Kind: &pb.Frame_Msg{Msg: &pb.Message{Data: data}}})`: field `3` of
the frame holds the message, whose field `1` holds the data. -/
def messageFrame (data : Bytes) : Bytes :=
  encodeFields (messageField 3 (some (bytesField 1 data)))

/-- The sending half of an `exchange.Channel`: the key, the base nonce and the sequence number of
its HPKE context. -/
structure Channel where
  key : Bytes
  baseNonce : Bytes
  sequence : Nat

/-- The nonce of the context's next message: the base nonce XOR the big-endian sequence number
(`ComputeNonce` of RFC 9180). -/
def Channel.nonce (channel : Channel) : Bytes :=
  List.zipWith (· ^^^ ·) channel.baseNonce (bigEndian channel.baseNonce.length channel.sequence)

variable (crypto : Primitives)

/-- `Sender.Seal(nil, data)`: the AEAD under the context's key and nonce; the sequence moves on. -/
def Channel.Seal (channel : Channel) (data : Bytes) : Channel × Bytes :=
  ({ channel with sequence := channel.sequence + 1 },
    crypto.aeadSeal channel.key channel.nonce data)

/-- `Channel.WriteBytes` over the `Framing` of a TCP or TLS relay connection: seal, then write
one frame. -/
def Channel.WriteBytes (channel : Channel) (data : Bytes) : Channel × Bytes :=
  let (channel, encrypted) := channel.Seal crypto data
  (channel, Framing.WriteBytes encrypted)

/-- `RelayConn.WriteBytes`: the data as a message frame, through the channel. -/
def RelayConn.WriteBytes (channel : Channel) (data : Bytes) : Channel × Bytes :=
  channel.WriteBytes crypto (messageFrame data)

theorem length_messageFrame {data : Bytes} (nonempty : data ≠ []) :
    (messageFrame data).length =
      1 + (uvarint (1 + (uvarint data.length).length + data.length)).length +
        (1 + (uvarint data.length).length + data.length) := by
  unfold messageFrame
  rw [length_encodeFields_messageField (by norm_num), length_encodeFields_bytesField (by norm_num),
    if_neg nonempty]

variable {crypto}

/-- **The relay wrapping adds 24 bytes to a large frame**: a tag and a three-byte length for the
message and for the frame, and the 16-byte tag of the seal. -/
theorem length_Seal_messageFrame (lawful : crypto.Lawful) (channel : Channel) {data : Bytes}
    (large : 2 ^ 14 ≤ data.length) (small : data.length + 4 < 2 ^ 21) :
    (channel.Seal crypto (messageFrame data)).2.length = data.length + 24 := by
  have nonempty : data ≠ [] := by
    rintro rfl
    exact absurd large (by simp)
  have inner := length_uvarint_eq_three large (by omega)
  have outer : (uvarint (1 + (uvarint data.length).length + data.length)).length = 3 := by
    rw [inner]
    exact length_uvarint_eq_three (by omega) (by omega)
  rw [Channel.Seal, lawful.length_aeadSeal, length_messageFrame nonempty, outer, inner]
  omega

/-! ### A frame of the last bucket over a relay -/

variable {M : Type} {codec : Codec M}

/-- **A frame of the last bucket does not fit the relay's framing.** For every message above the
fifth padding bucket and within `maxTransportSize`, `serialize` pads it into the last bucket;
its encryption fits `math.MaxUint16`, as `Transport.Send` checks, but the relay conn's wrapping
and seal take it past `DefaultMaxFrameSize` (and so past `math.MaxUint16`), so the length prefix
`Framing.WriteBytes` writes is cut modulo `2^16` and the relay does not read the frame back. -/
theorem relay_frame_overflows (lawful : crypto.Lawful) (serde : SignedSerde) (enigma : Enigma)
    {msg : M} {message : Bytes} (marshalled : codec.marshal msg = some message)
    (fits : message.length ≤ maxTransportSize) (large : 32 * 1024 < message.length)
    (route : Route) (sequence : UInt64) (entropy : Entropy) :
    ∃ payload, serialize crypto serde codec msg route sequence entropy =
        .ok (payload, newMetadata route sequence entropy) ∧
      (enigma.Encrypt crypto entropy.nonceTape payload).length ≤ maxUint16 ∧
      ∀ (channel : Channel) (rest : Bytes),
        DefaultMaxFrameSize < (channel.Seal crypto
          (messageFrame (enigma.Encrypt crypto entropy.nonceTape payload))).2.length ∧
        Framing.ReadBytes DefaultMaxFrameSize ((RelayConn.WriteBytes crypto channel
            (enigma.Encrypt crypto entropy.nonceTape payload)).2 ++ rest) ≠
          .ok ((channel.Seal crypto
            (messageFrame (enigma.Encrypt crypto entropy.nonceTape payload))).2, rest) := by
  obtain ⟨payload, serialized⟩ : ∃ payload, serialize crypto serde codec msg route sequence
      entropy = .ok (payload, newMetadata route sequence entropy) :=
    serialize_ok marshalled fits route sequence entropy
  have filled := frameTargetSize_le_serialize lawful marshalled large serialized
  have bounded := length_serialize_le lawful serialized
  have encrypted := enigma.length_Encrypt lawful entropy.nonceTape payload
  unfold frameTargetSize maxUint16 encryptionOverhead at filled bounded
  unfold encryptionOverhead at encrypted
  refine ⟨payload, serialized, by unfold maxUint16; omega, fun channel rest => ?_⟩
  have sealed : (channel.Seal crypto
      (messageFrame (enigma.Encrypt crypto entropy.nonceTape payload))).2.length =
      (enigma.Encrypt crypto entropy.nonceTape payload).length + 24 :=
    length_Seal_messageFrame lawful channel (by omega) (by omega)
  have overflow : maxUint16 < (channel.Seal crypto
      (messageFrame (enigma.Encrypt crypto entropy.nonceTape payload))).2.length := by
    unfold maxUint16
    omega
  refine ⟨by unfold DefaultMaxFrameSize; omega, ?_⟩
  exact Framing.ReadBytes_WriteBytes_ne overflow DefaultMaxFrameSize rest

/-- A 40000-byte `wrapperspb.Bytes`, with the plain primitives and zero entropy. -/
theorem relay_frame_overflows_plain :
    ∃ payload, serialize Primitives.plain ⟨[], []⟩ bytesValueCodec
        { value := List.replicate 40000 0 } .exchangeMessages 0 Entropy.zeros =
        .ok (payload, newMetadata .exchangeMessages 0 Entropy.zeros) ∧
      (Enigma.Encrypt Primitives.plain ⟨[]⟩ Entropy.zeros.nonceTape payload).length ≤ maxUint16 ∧
      ∀ (channel : Channel) (rest : Bytes),
        DefaultMaxFrameSize < (channel.Seal Primitives.plain
          (messageFrame (Enigma.Encrypt Primitives.plain ⟨[]⟩ Entropy.zeros.nonceTape
            payload))).2.length ∧
        Framing.ReadBytes DefaultMaxFrameSize ((RelayConn.WriteBytes Primitives.plain channel
            (Enigma.Encrypt Primitives.plain ⟨[]⟩ Entropy.zeros.nonceTape payload)).2 ++ rest) ≠
          .ok ((channel.Seal Primitives.plain
            (messageFrame (Enigma.Encrypt Primitives.plain ⟨[]⟩ Entropy.zeros.nonceTape
              payload))).2, rest) := by
  have marshalledLength :
      (encodeFields (bytesField 1 (List.replicate 40000 (0 : UInt8)))).length = 40004 := by
    rw [length_encodeFields_bytesField (by norm_num),
      if_neg (List.ne_nil_of_length_pos (by rw [List.length_replicate]; norm_num)),
      List.length_replicate]
    decide
  exact relay_frame_overflows Primitives.plain_lawful ⟨[], []⟩ ⟨[]⟩
    (show bytesValueCodec.marshal { value := List.replicate 40000 0 } =
      some (encodeFields (bytesField 1 (List.replicate 40000 0))) from rfl)
    (by rw [marshalledLength]; decide) (by rw [marshalledLength]; decide)
    .exchangeMessages 0 Entropy.zeros

end Kamune
