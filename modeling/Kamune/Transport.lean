/-
**The transport: `Send` and `Receive` over a conn (`transport.go`).**

A `Transport` holds its serde, the two AEADs of its directions, its session ID and resumption
root, and the two sequence counters. `Send` checks the route, increments `sendSequence` (under
`t.mu`), serializes, encrypts and writes one frame; `Receive` reads one frame, decrypts,
deserializes, refuses `RouteCloseTransport`, and accepts the frame only when its sequence is
`recvSequence + 1`, which it then becomes.

* `Transport.Send_ok`, `Transport.Receive_of_deserialize`: one spec lemma for each direction;
* `Transport.Send_fits`: **a message within `maxTransportSize` always leaves as one frame** —
  its payload is at most `frameTargetSize`, its ciphertext at most `math.MaxUint16`, and
  `WriteBytes` accepts it;
* `Transport.Receive_Send`: **the round trip of one message** from a sender to a receiver in
  step with it: the receiver gets the sender's metadata (route, sequence, ID, timestamp) and a
  message that marshals to the same bytes, whatever the padding;
* `Transport.Receive_after_failed_Send`: a `Send` refused before writing still consumes a
  sequence number, so the receiver rejects the next frame as out of sync;
* `Transport.Receive_cases`: `Receive` moves the counter only when it accepts a frame;
* `receive_counter_stalls_on_unparsable_message`: an authentic frame in sequence whose message the
  receiver's type cannot unmarshal is consumed without moving the counter, and the next frame is
  refused as out of sync.
-/

import Kamune.Serde

namespace Kamune

open Wire

/-- `Transport`. The conn is passed beside it; the mutex is the atomicity of each function. -/
structure Transport where
  serde : SignedSerde
  encoder : Enigma
  decoder : Enigma
  sessionID : Bytes
  resumptionRoot : Option Bytes := none
  recvSequence : UInt64 := 0
  sendSequence : UInt64 := 0
  deriving DecidableEq, Repr

/-- `newTransport`: both counters at `0`, no resumption root. -/
def newTransport (serde : SignedSerde) (sessionID : Bytes) (encoder decoder : Enigma) :
    Transport where
  serde := serde
  encoder := encoder
  decoder := decoder
  sessionID := sessionID

variable (crypto : Primitives) {M : Type} (codec : Codec M)

/-- `Transport.Send`. A failure after the sequence was taken keeps the new sequence. -/
def Transport.Send (t : Transport) (conn : Conn) (message : M) (route : Route)
    (entropy : Entropy) : Transport × Conn × Except Error Metadata :=
  if !route.IsValid then (t, conn, .error (.invalidRoute route))
  else
    let t := { t with sendSequence := t.sendSequence + 1 }
    match serialize crypto t.serde codec message route t.sendSequence entropy with
    | .error err => (t, conn, .error (.serializing err))
    | .ok (payload, metadata) =>
      match conn.WriteBytes (t.encoder.Encrypt crypto entropy.nonceTape payload) with
      | .error err => (t, conn, .error (.writing err))
      | .ok conn => (t, conn, .ok metadata)

/-- `Transport.Receive`. A read that meets `io.EOF` is `ErrConnClosed`; the model has no
deadlines, so no read times out. -/
def Transport.Receive (t : Transport) (conn : Conn) :
    Transport × Conn × Except Error (Metadata × M) :=
  match conn.ReadBytes with
  | .error err => (t, conn, .error (if err.isEOF then .connClosed else .readingPayload err))
  | .ok (payload, conn) =>
    match t.decoder.Decrypt crypto payload with
    | .error err => (t, conn, .error (.decryptingPayload err))
    | .ok decrypted =>
      match deserialize crypto t.serde codec decrypted with
      | .error err => (t, conn, .error (.deserializing err))
      | .ok (metadata, message) =>
        if metadata.Route = .closeTransport then (t, conn, .error .peerDisconnected)
        else
          let seq := metadata.sequence
          let expected := t.recvSequence + 1
          if seq ≠ expected then (t, conn, .error (.outOfSync (seq < expected) seq expected))
          else ({ t with recvSequence := seq }, conn, .ok (metadata, message))

/-- `Conn.Close`: a second close is `ErrConnClosed`. -/
def Conn.Close (conn : Conn) : Except ConnError Conn :=
  if conn.closed then .error .closed else .ok { conn with closed := true }

/-- `Transport.Close`: a best-effort `RouteCloseTransport` frame, then the conn is closed. -/
def Transport.Close (t : Transport) (conn : Conn) (entropy : Entropy) :
    Transport × Except ConnError Conn :=
  let (t, conn, _) := t.Send crypto bytesValueCodec conn { value := [] } .closeTransport entropy
  (t, conn.Close)

/-! ### Resumption secrets -/

/-- `resumptionRootInfo`. -/
def resumptionRootInfo : Bytes := stringBytes "kamune/resumption-root/v1"

/-- `resumptionTokenInfo`. -/
def resumptionTokenInfo : Bytes := stringBytes "kamune/resumption/token/v1/"

/-- `resumptionTokenCount`. -/
def resumptionTokenCount : Nat := 20

/-- `resumptionTokenSize`. -/
def resumptionTokenSize : Nat := 32

/-- `Transport.setResumptionRoot`: the root derived from the shared secret, salted with the
session ID; a failed derivation leaves the transport as it was. -/
def Transport.setResumptionRoot (t : Transport) (sharedSecret : Bytes) : Transport :=
  match Derive crypto sharedSecret t.sessionID resumptionRootInfo resumptionTokenSize with
  | some root => { t with resumptionRoot := some root }
  | none => t

/-- `Transport.deriveResumptionTokens`: token `i` is derived from the root with the info
`resumptionTokenInfo || uint32be(i)`; no root, or a failed derivation, gives `nil`. -/
def Transport.deriveResumptionTokens (t : Transport) : List Bytes :=
  match t.resumptionRoot with
  | none => []
  | some root =>
    ((List.range resumptionTokenCount).mapM fun index =>
      Derive crypto root [] (resumptionTokenInfo ++ bigEndian 4 index) resumptionTokenSize).getD []

section Tokens

variable {crypto}

/-- With a root set, `deriveResumptionTokens` is the `resumptionTokenCount` HKDF expansions of the
root, token `index` under the info `resumptionTokenInfo || uint32be(index)`: every derivation is
within `Derive`'s limit, so none fails. -/
theorem Transport.deriveResumptionTokens_of_root {t : Transport} {root : Bytes}
    (rooted : t.resumptionRoot = some root) :
    t.deriveResumptionTokens crypto = (List.range resumptionTokenCount).map fun index =>
      crypto.hkdf root [] (resumptionTokenInfo ++ bigEndian 4 index) resumptionTokenSize := by
  have withinLimit : resumptionTokenSize ≤ 255 * 64 := by decide
  unfold Transport.deriveResumptionTokens
  rw [rooted]
  simp only [Derive, if_pos withinLimit]
  exact congrArg (Option.getD · []) List.mapM_pure

/-- **What a set root gives**: `resumptionTokenCount` tokens, token `index` the derivation from
the root under its own info, each `resumptionTokenSize` bytes. -/
theorem Transport.deriveResumptionTokens_spec (lawful : crypto.Lawful) {t : Transport}
    {root : Bytes} (rooted : t.resumptionRoot = some root) :
    (t.deriveResumptionTokens crypto).length = resumptionTokenCount ∧
      (∀ index < resumptionTokenCount, (t.deriveResumptionTokens crypto)[index]? =
        Derive crypto root [] (resumptionTokenInfo ++ bigEndian 4 index) resumptionTokenSize) ∧
      ∀ token ∈ t.deriveResumptionTokens crypto, token.length = resumptionTokenSize := by
  rw [Transport.deriveResumptionTokens_of_root rooted]
  refine ⟨List.length_map .., fun index small => ?_, fun token member => ?_⟩
  · rw [List.getElem?_map, List.getElem?_range small]
    rfl
  · obtain ⟨index, -, rfl⟩ := List.mem_map.mp member
    exact lawful.length_hkdf _ _ _ _

end Tokens

/-! ### Sending -/

section Send

variable {crypto codec}

/-- **A message within `maxTransportSize` always leaves as one frame**: for every route,
sequence, ID, timestamp, bump and padding, the payload is at most `frameTargetSize`, its
encryption at most `math.MaxUint16`, and `WriteBytes` on an open conn takes it. -/
theorem Transport.Send_fits (lawful : crypto.Lawful) (serde : SignedSerde) (enigma : Enigma)
    {msg : M} {message : Bytes} (marshalled : codec.marshal msg = some message)
    (fits : message.length ≤ maxTransportSize) (route : Route) (sequence : UInt64)
    (entropy : Entropy) :
    ∃ payload, serialize crypto serde codec msg route sequence entropy =
        .ok (payload, newMetadata route sequence entropy) ∧
      payload.length ≤ frameTargetSize ∧
      (enigma.Encrypt crypto entropy.nonceTape payload).length ≤ maxUint16 ∧
      ∀ conn : Conn, conn.closed = false →
        conn.WriteBytes (enigma.Encrypt crypto entropy.nonceTape payload) =
          .ok { conn with outbound :=
            conn.outbound ++ frame (enigma.Encrypt crypto entropy.nonceTape payload) } := by
  obtain ⟨payload, serialized⟩ := serialize_ok marshalled fits route sequence entropy
  have payloadFits := length_serialize_le lawful serialized
  have cipherFits : (enigma.Encrypt crypto entropy.nonceTape payload).length ≤ maxUint16 := by
    rw [enigma.length_Encrypt lawful]
    unfold frameTargetSize at payloadFits
    unfold encryptionOverhead maxUint16 at *
    omega
  exact ⟨payload, serialized, payloadFits, cipherFits,
    fun conn live => Conn.WriteBytes_eq_ok live cipherFits⟩

theorem Send_fits_plain :
    ∃ payload, serialize Primitives.plain ⟨[], []⟩ bytesValueCodec { value := [] }
        .exchangeMessages 0 Entropy.zeros =
        .ok (payload, newMetadata .exchangeMessages 0 Entropy.zeros) ∧
      payload.length ≤ frameTargetSize ∧
      (Enigma.Encrypt Primitives.plain ⟨[]⟩ Entropy.zeros.nonceTape payload).length ≤ maxUint16 ∧
      ∀ conn : Conn, conn.closed = false →
        conn.WriteBytes (Enigma.Encrypt Primitives.plain ⟨[]⟩ Entropy.zeros.nonceTape payload) =
          .ok { conn with
            outbound := conn.outbound ++
              frame (Enigma.Encrypt Primitives.plain ⟨[]⟩ Entropy.zeros.nonceTape payload) } :=
  Transport.Send_fits Primitives.plain_lawful ⟨[], []⟩ ⟨[]⟩
    (show bytesValueCodec.marshal { value := [] } = some [] from rfl) (by decide)
    .exchangeMessages 0 Entropy.zeros

/-- **`Send` of a message within `maxTransportSize` on a valid route**: the sequence goes up by
one, one frame is written, and the new metadata is returned. -/
theorem Transport.Send_ok (lawful : crypto.Lawful) (t : Transport) {conn : Conn}
    (live : conn.closed = false) {msg : M} {message : Bytes}
    (marshalled : codec.marshal msg = some message) (fits : message.length ≤ maxTransportSize)
    {route : Route} (valid : route.IsValid = true) (entropy : Entropy) :
    ∃ payload,
      serialize crypto t.serde codec msg route (t.sendSequence + 1) entropy =
        .ok (payload, newMetadata route (t.sendSequence + 1) entropy) ∧
      (t.encoder.Encrypt crypto entropy.nonceTape payload).length ≤ maxUint16 ∧
      t.Send crypto codec conn msg route entropy =
        ({ t with sendSequence := t.sendSequence + 1 },
          { conn with outbound :=
            conn.outbound ++ frame (t.encoder.Encrypt crypto entropy.nonceTape payload) },
          .ok (newMetadata route (t.sendSequence + 1) entropy)) := by
  obtain ⟨payload, serialized, -, cipherFits, written⟩ :=
    Transport.Send_fits lawful t.serde t.encoder marshalled fits route (t.sendSequence + 1) entropy
  refine ⟨payload, serialized, cipherFits, ?_⟩
  unfold Transport.Send
  rw [if_neg (by simp [valid])]
  dsimp only
  rw [serialized]
  dsimp only
  rw [written conn live]

/-- A message longer than `maxTransportSize` is refused before anything is written, but after
its sequence number was taken. -/
theorem Transport.Send_tooLarge (t : Transport) (conn : Conn) {msg : M} {message : Bytes}
    (marshalled : codec.marshal msg = some message) (large : maxTransportSize < message.length)
    {route : Route} (valid : route.IsValid = true) (entropy : Entropy) :
    t.Send crypto codec conn msg route entropy =
      ({ t with sendSequence := t.sendSequence + 1 }, conn,
        .error (.serializing .messageTooLarge)) := by
  unfold Transport.Send
  rw [if_neg (by simp [valid])]
  dsimp only
  rw [serialize_tooLarge marshalled large]

/-- **What a successful `Send` did**: it took the next sequence, changed nothing else of the
transport, serialized the message and wrote its encryption. -/
theorem Transport.Send_eq_ok {t t' : Transport} {conn conn' : Conn} {msg : M} {route : Route}
    {entropy : Entropy} {md : Metadata}
    (sent : t.Send crypto codec conn msg route entropy = (t', conn', .ok md)) :
    t' = { t with sendSequence := t.sendSequence + 1 } ∧
      ∃ payload, serialize crypto t.serde codec msg route (t.sendSequence + 1) entropy =
          .ok (payload, md) ∧
        conn.WriteBytes (t.encoder.Encrypt crypto entropy.nonceTape payload) = .ok conn' := by
  unfold Transport.Send at sent
  split at sent
  case isTrue => cases sent
  case isFalse =>
    dsimp only at sent
    split at sent
    case h_1 => cases sent
    case h_2 payload metadata serialized =>
      split at sent
      case h_1 => cases sent
      case h_2 written =>
        cases sent
        exact ⟨rfl, payload, serialized, written⟩

end Send

/-! ### Receiving -/

section Receive

variable {crypto codec}

/-- **`Receive` of a frame that decrypts and deserializes**: what is left is the route check and
the sequence check. -/
theorem Transport.Receive_of_deserialize (t : Transport) {conn conn' : Conn}
    {payload decrypted : Bytes} {metadata : Metadata} {message : M}
    (read : conn.ReadBytes = .ok (payload, conn'))
    (decrypt : t.decoder.Decrypt crypto payload = .ok decrypted)
    (decoded : deserialize crypto t.serde codec decrypted = .ok (metadata, message)) :
    t.Receive crypto codec conn =
      if metadata.Route = .closeTransport then (t, conn', .error .peerDisconnected)
      else if metadata.sequence ≠ t.recvSequence + 1 then
        (t, conn', .error (.outOfSync (metadata.sequence < t.recvSequence + 1) metadata.sequence
          (t.recvSequence + 1)))
      else ({ t with recvSequence := metadata.sequence }, conn', .ok (metadata, message)) := by
  unfold Transport.Receive
  rw [read]
  dsimp only
  rw [decrypt]
  dsimp only
  rw [decoded]

/-- **What a successful `Receive` did**: it read one frame, decrypted and deserialized it, found
a route other than `RouteCloseTransport` and the sequence `recvSequence + 1`, and moved to it,
changing nothing else of the transport. -/
theorem Transport.Receive_eq_ok {t t' : Transport} {conn conn' : Conn} {md : Metadata}
    {message : M} (received : t.Receive crypto codec conn = (t', conn', .ok (md, message))) :
    t' = { t with recvSequence := t.recvSequence + 1 } ∧ md.sequence = t.recvSequence + 1 ∧
      md.Route ≠ .closeTransport ∧
      ∃ payload decrypted, conn.ReadBytes = .ok (payload, conn') ∧
        t.decoder.Decrypt crypto payload = .ok decrypted ∧
        deserialize crypto t.serde codec decrypted = .ok (md, message) := by
  unfold Transport.Receive at received
  split at received
  case h_1 => cases received
  case h_2 payload conn₁ read =>
    split at received
    case h_1 => cases received
    case h_2 decrypted decrypt =>
      split at received
      case h_1 => cases received
      case h_2 metadata decoded deserialized =>
        split at received
        case isTrue => cases received
        case isFalse notClose =>
          dsimp only at received
          split at received
          case isTrue => cases received
          case isFalse inSequence =>
            cases received
            have next : md.sequence = t.recvSequence + 1 := not_not.mp inSequence
            exact ⟨by rw [next], next, notClose, payload, decrypted, read, decrypt, deserialized⟩

/-- **What `Receive` can do to the transport**: leave it as it was, or accept a frame. Only the
accepting branch moves the counter. -/
theorem Transport.Receive_cases (t : Transport) (conn : Conn) :
    (t.Receive crypto codec conn).1 = t ∨
      ∃ md message, (t.Receive crypto codec conn).2.2 = .ok (md, message) := by
  unfold Transport.Receive
  split
  case h_1 => exact .inl rfl
  case h_2 =>
    split
    case h_1 => exact .inl rfl
    case h_2 =>
      split
      case h_1 => exact .inl rfl
      case h_2 metadata message _ =>
        split
        case isTrue => exact .inl rfl
        case isFalse =>
          dsimp only
          split
          case isTrue => exact .inl rfl
          case isFalse => exact .inr ⟨metadata, message, rfl⟩

/-- A failed `Receive` leaves the transport, and its counter, as they were. -/
theorem Transport.Receive_error (t : Transport) (conn : Conn) {err : Error}
    (failed : (t.Receive crypto codec conn).2.2 = .error err) :
    (t.Receive crypto codec conn).1 = t := by
  rcases t.Receive_cases conn with unchanged | ⟨md, message, accepted⟩
  · exact unchanged
  · rw [accepted] at failed
    cases failed

/-- **An authentic frame the receiver cannot parse stalls its counter.** A frame that decrypts,
carries a valid signature and metadata with the next sequence, but whose message does not
unmarshal into the receiver's type, is read off the wire and refused with the counter left
where it was — the inner message is unmarshalled inside `deserialize`, before the sequence
check. The next frame, one sequence further, is then refused as out of sync. Every failing
`Receive` leaves the transport as it was. -/
theorem receive_counter_stalls_on_unparsable_message (t : Transport) {conn conn' : Conn}
    {payload decrypted : Bytes} {st : SignedTransport} {md : Metadata}
    (read : conn.ReadBytes = .ok (payload, conn'))
    (decrypt : t.decoder.Decrypt crypto payload = .ok decrypted)
    (envelope : SignedTransport.unmarshal decrypted = some st)
    (verified : crypto.verify t.serde.remote (signingInput st.metadata st.data) st.signature)
    (parsed : Metadata.unmarshal st.metadata = some md)
    (inSequence : md.sequence = t.recvSequence + 1)
    (unparsable : codec.unmarshal st.data = none) :
    t.Receive crypto codec conn = (t, conn', .error (.deserializing .unmarshallingMessage)) ∧
      (∀ (conn'' : Conn) (payload' decrypted' : Bytes) (md' : Metadata) (message : M),
        conn'.ReadBytes = .ok (payload', conn'') →
        t.decoder.Decrypt crypto payload' = .ok decrypted' →
        deserialize crypto t.serde codec decrypted' = .ok (md', message) →
        md'.Route ≠ .closeTransport → md'.sequence = md.sequence + 1 →
        t.Receive crypto codec conn' = (t, conn'', .error (.outOfSync
          (md'.sequence < t.recvSequence + 1) md'.sequence (t.recvSequence + 1)))) ∧
      ∀ (other : Transport) (otherConn : Conn) (err : Error),
        (other.Receive crypto codec otherConn).2.2 = .error err →
          (other.Receive crypto codec otherConn).1 = other := by
  have refused : deserialize crypto t.serde codec decrypted = .error .unmarshallingMessage := by
    simp only [deserialize, envelope, verified, parsed, unparsable, Bool.not_true]
    rfl
  refine ⟨?_, ?_, fun other otherConn err failed => other.Receive_error otherConn failed⟩
  · unfold Transport.Receive
    rw [read]
    dsimp only
    rw [decrypt]
    dsimp only
    rw [refused]
  · intro conn'' payload' decrypted' md' message read' decrypt' decoded' notClose next
    -- the next frame carries `recvSequence + 2`
    have differs : md'.sequence ≠ t.recvSequence + 1 := by
      rw [next, inSequence, add_assoc]
      intro same
      exact absurd (add_left_cancel same) (by decide)
    rw [t.Receive_of_deserialize read' decrypt' decoded', if_neg notClose, if_pos differs]

set_option maxRecDepth 8000 in
/-- A transport at sequence `0` reading, as a handshake, a frame that carries sequence `1` and,
as its message, the field `3` set to the byte `0xff`, which is not UTF-8. -/
theorem receive_counter_stalls_on_unparsable_message_handshake :
    (newTransport ⟨[], []⟩ [] ⟨[]⟩ ⟨[]⟩).Receive Primitives.plain handshakeCodec
        { inbound := frame (Enigma.Encrypt Primitives.plain ⟨[]⟩ (fun _ => 0)
          (SignedTransport.marshal ⟨[26, 1, 255], [], [24, 1], []⟩)) } =
      (newTransport ⟨[], []⟩ [] ⟨[]⟩ ⟨[]⟩, {}, .error (.deserializing .unmarshallingMessage)) :=
  (@receive_counter_stalls_on_unparsable_message Primitives.plain Handshake handshakeCodec
    (newTransport ⟨[], []⟩ [] ⟨[]⟩ ⟨[]⟩) _ {}
    (Enigma.Encrypt Primitives.plain ⟨[]⟩ (fun _ => 0)
      (SignedTransport.marshal ⟨[26, 1, 255], [], [24, 1], []⟩))
    (SignedTransport.marshal ⟨[26, 1, 255], [], [24, 1], []⟩) ⟨[26, 1, 255], [], [24, 1], []⟩
    ⟨[], none, 1, 0⟩ rfl rfl (by decide) rfl (by decide) rfl (by decide)).1

variable (lawful : crypto.Lawful) (codecLawful : codec.Lawful)
include lawful codecLawful

/-- What one frame of a `Send` gives a receiver that shares its key: the sender's metadata and a
message that marshals to the sender's bytes. -/
theorem Transport.deserialize_frame {A B : Transport} (sharedKey : B.decoder = A.encoder)
    (matching : B.serde.remote = crypto.publicKey A.serde.attest) {msg : M} {route : Route}
    {sequence : UInt64} {entropy : Entropy} {payload : Bytes} {md : Metadata}
    (serialized : serialize crypto A.serde codec msg route sequence entropy = .ok (payload, md)) :
    ∃ decoded, B.decoder.Decrypt crypto (A.encoder.Encrypt crypto entropy.nonceTape payload) =
        .ok payload ∧ deserialize crypto B.serde codec payload = .ok (md, decoded) ∧
      codec.marshal decoded = codec.marshal msg := by
  obtain ⟨decoded, deserialized, remarshalled⟩ :=
    deserialize_serialize lawful codecLawful matching serialized
  refine ⟨decoded, ?_, deserialized, remarshalled⟩
  rw [sharedKey]
  exact A.encoder.Decrypt_Encrypt lawful entropy.nonceTape payload

/-- **The round trip of one message.** A sender sends a message within `maxTransportSize` on a
valid route other than `RouteCloseTransport`; a receiver that shares its key, knows its signing
key and is in step with it (`recvSequence = s - 1` for the sequence `s` the sender takes) reads
the frame into the sender's metadata — the route, the sequence `s`, the random ID, the
timestamp — and a message that marshals to the same bytes, and moves to `s`. -/
theorem Transport.Receive_Send {A B : Transport} (sharedKey : B.decoder = A.encoder)
    (matching : B.serde.remote = crypto.publicKey A.serde.attest)
    (inStep : B.recvSequence = A.sendSequence) {connA : Conn} (liveA : connA.closed = false)
    {msg : M} {message : Bytes} (marshalled : codec.marshal msg = some message)
    (fits : message.length ≤ maxTransportSize) {route : Route} (valid : route.IsValid = true)
    (notClose : route ≠ .closeTransport) (entropy : Entropy) :
    ∃ written md, A.Send crypto codec connA msg route entropy =
        ({ A with sendSequence := A.sendSequence + 1 },
          { connA with outbound := connA.outbound ++ written }, .ok md) ∧
      md.Route = route ∧ md.sequence = A.sendSequence + 1 ∧ md.id = Text entropy.idTape 26 ∧
      md.timestamp = some entropy.now ∧
      ∀ (connB : Conn) (rest : Bytes), connB.closed = false → connB.inbound = written ++ rest →
        ∃ decoded, B.Receive crypto codec connB =
            ({ B with recvSequence := A.sendSequence + 1 }, { connB with inbound := rest },
              .ok (md, decoded)) ∧
          codec.marshal decoded = some message := by
  obtain ⟨payload, serialized, cipherFits, sent⟩ :=
    Transport.Send_ok lawful A liveA marshalled fits valid entropy
  refine ⟨_, _, sent, RouteFromProto_ToProto route, rfl, rfl, rfl, ?_⟩
  intro connB rest liveB inbound
  obtain ⟨decoded, decrypt, deserialized, remarshalled⟩ :=
    Transport.deserialize_frame lawful codecLawful sharedKey matching serialized
  have read := Conn.ReadBytes_frame liveB cipherFits inbound
  refine ⟨decoded, ?_, by rw [remarshalled, marshalled]⟩
  rw [B.Receive_of_deserialize read decrypt deserialized,
    if_neg (by rw [newMetadata, Metadata.Route, RouteFromProto_ToProto]; exact notClose),
    if_neg (by rw [newMetadata, inStep]; exact not_not.mpr rfl)]
  rfl

omit lawful codecLawful in
/-- Three bytes sent at sequence `6` by a sender that has sent five come back whole. -/
theorem Receive_Send_plain :
    ∃ written md, ({ newTransport ⟨[], []⟩ [] ⟨[]⟩ ⟨[]⟩ with sendSequence := 5 } : Transport).Send
        Primitives.plain bytesValueCodec {} { value := [1, 2, 3] } .exchangeMessages
        Entropy.zeros =
        ({ newTransport ⟨[], []⟩ [] ⟨[]⟩ ⟨[]⟩ with sendSequence := 5 + 1 },
          { ({} : Conn) with outbound := [] ++ written }, .ok md) ∧
      md.Route = .exchangeMessages ∧ md.sequence = 5 + 1 ∧ md.id = Text Entropy.zeros.idTape 26 ∧
      md.timestamp = some Entropy.zeros.now ∧
      ∀ (connB : Conn) (rest : Bytes), connB.closed = false → connB.inbound = written ++ rest →
        ∃ decoded, ({ newTransport ⟨[], []⟩ [] ⟨[]⟩ ⟨[]⟩ with recvSequence := 5 } :
            Transport).Receive Primitives.plain bytesValueCodec connB =
            ({ newTransport ⟨[], []⟩ [] ⟨[]⟩ ⟨[]⟩ with recvSequence := 5 + 1 },
              { connB with inbound := rest }, .ok (md, decoded)) ∧
          bytesValueCodec.marshal decoded = some [10, 3, 1, 2, 3] :=
  Transport.Receive_Send Primitives.plain_lawful bytesValueCodec_lawful rfl rfl rfl rfl
    (show bytesValueCodec.marshal { value := [1, 2, 3] } = some [10, 3, 1, 2, 3] by decide)
    (by decide) rfl (by decide) Entropy.zeros

omit lawful codecLawful in
/-- Two sends past `sequence`: the number a receiver still expecting `sequence + 1` is shown. -/
theorem sequence_add_one_add_one (sequence : UInt64) : sequence + 1 + 1 = sequence + 2 := by
  rw [add_assoc]
  rfl

omit lawful codecLawful in
theorem sequence_add_two_ne_add_one (sequence : UInt64) : sequence + 2 ≠ sequence + 1 := by
  intro same
  exact absurd (add_left_cancel same) (by decide)

/-- **A refused `Send` desynchronises the session.** Between a sender and a receiver in step, a
message longer than `maxTransportSize` is refused without a frame but takes the sequence `s`;
the next message that fits goes out with `s + 1`, and the receiver, which expects `s`, rejects it
with `ErrOutOfSync`. -/
theorem Transport.Receive_after_failed_Send {A B : Transport} (sharedKey : B.decoder = A.encoder)
    (matching : B.serde.remote = crypto.publicKey A.serde.attest)
    (inStep : B.recvSequence = A.sendSequence) {connA : Conn} (liveA : connA.closed = false)
    {big : M} {bigBytes : Bytes} (bigMarshalled : codec.marshal big = some bigBytes)
    (large : maxTransportSize < bigBytes.length) {msg : M} {message : Bytes}
    (marshalled : codec.marshal msg = some message) (fits : message.length ≤ maxTransportSize)
    {route : Route} (valid : route.IsValid = true) (notClose : route ≠ .closeTransport)
    (first second : Entropy) :
    A.Send crypto codec connA big route first =
        ({ A with sendSequence := A.sendSequence + 1 }, connA,
          .error (.serializing .messageTooLarge)) ∧
      ∃ written, (Transport.Send crypto codec { A with sendSequence := A.sendSequence + 1 } connA
          msg route second).2.1 = { connA with outbound := connA.outbound ++ written } ∧
        ∀ (connB : Conn) (rest : Bytes), connB.closed = false → connB.inbound = written ++ rest →
          B.Receive crypto codec connB =
            (B, { connB with inbound := rest },
              .error (.outOfSync (A.sendSequence + 2 < A.sendSequence + 1) (A.sendSequence + 2)
                (A.sendSequence + 1))) := by
  refine ⟨Transport.Send_tooLarge A connA bigMarshalled large valid first, ?_⟩
  set A₁ : Transport := { A with sendSequence := A.sendSequence + 1 }
  obtain ⟨payload, serialized, cipherFits, sent⟩ :=
    Transport.Send_ok lawful A₁ liveA marshalled fits valid second
  refine ⟨_, by rw [sent], ?_⟩
  intro connB rest liveB inbound
  obtain ⟨decoded, decrypt, deserialized, -⟩ :=
    Transport.deserialize_frame lawful codecLawful sharedKey matching serialized
  have read := Conn.ReadBytes_frame liveB cipherFits inbound
  have skipped : A₁.sendSequence + 1 = A.sendSequence + 2 :=
    sequence_add_one_add_one A.sendSequence
  rw [B.Receive_of_deserialize read decrypt deserialized,
    if_neg (by rw [newMetadata, Metadata.Route, RouteFromProto_ToProto]; exact notClose)]
  simp only [newMetadata, skipped, inStep]
  rw [if_pos (sequence_add_two_ne_add_one A.sendSequence)]

omit lawful codecLawful in
set_option maxRecDepth 8000 in
theorem Receive_after_failed_Send_plain :
    (newTransport ⟨[], []⟩ [] ⟨[]⟩ ⟨[]⟩).Send Primitives.plain bytesValueCodec {}
        { value := List.replicate 61440 0 } .exchangeMessages Entropy.zeros =
        ({ newTransport ⟨[], []⟩ [] ⟨[]⟩ ⟨[]⟩ with sendSequence := 0 + 1 }, {},
          .error (.serializing .messageTooLarge)) ∧
      ∃ written, (Transport.Send Primitives.plain bytesValueCodec
          { newTransport ⟨[], []⟩ [] ⟨[]⟩ ⟨[]⟩ with sendSequence := 0 + 1 } {} { value := [] }
          .exchangeMessages Entropy.zeros).2.1 = { ({} : Conn) with outbound := [] ++ written } ∧
        ∀ (connB : Conn) (rest : Bytes), connB.closed = false → connB.inbound = written ++ rest →
          (newTransport ⟨[], []⟩ [] ⟨[]⟩ ⟨[]⟩).Receive Primitives.plain bytesValueCodec connB =
            (newTransport ⟨[], []⟩ [] ⟨[]⟩ ⟨[]⟩, { connB with inbound := rest },
              .error (.outOfSync ((0 : UInt64) + 2 < 0 + 1) (0 + 2) (0 + 1))) :=
  Transport.Receive_after_failed_Send Primitives.plain_lawful bytesValueCodec_lawful rfl rfl rfl
    rfl (show bytesValueCodec.marshal { value := List.replicate 61440 0 } =
      some (encodeFields (bytesField 1 (List.replicate 61440 0))) from rfl)
    (lt_of_lt_of_le (show maxTransportSize < (List.replicate 61440 (0 : UInt8)).length by
      rw [List.length_replicate]; decide) (length_le_bytesField 1 _))
    (show bytesValueCodec.marshal { value := [] } = some [] from rfl) (by decide) rfl (by decide)
    Entropy.zeros Entropy.zeros

end Receive

end Kamune
