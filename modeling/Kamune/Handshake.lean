/-
**The handshake, as two programs talking over a conn (`handshake.go`).**

`requestHandshake` (the initiator) and `acceptHandshake` (the responder) are sequential programs
that only read and write frames on their conn: each is a `Dialogue.Process` over byte strings,
one message for each frame a `WriteBytes` writes. The initiator sends its ML-KEM key, its salt
and its half of the session ID, unencrypted but signed; the responder answers with the
encapsulated secret, its salt and its half; both derive one AEAD per direction from the shared
secret, then run the challenge exchange over the new transports and set the resumption root.

The steps on the conn reuse the model of the conn and the transport: `writeBytes` and
`readBytes` run `conn.WriteBytes` and `conn.ReadBytes` on the frame, `sendOver` and `receiveOver`
run `Transport.Send` and `Transport.Receive`.

* `writeBytes_runs`, `readBytes_runs`, `sendOver_runs`, `receiveOver_runs`: what a successful
  step read and wrote;
* `sendChallenge_runs`, `acceptChallenge_runs`: each of the two halves of the challenge exchange
  moves the transport's counters by one send and one receive, and changes nothing else of it.
-/

import Kamune.Transport
import Kamune.Lib.Dialogue

namespace Kamune

open Wire Dialogue

/-! ### Constants and checks -/

/-- `sessionIDLength`. -/
def sessionIDLength : Nat := 24

/-- `handshakeSaltSize`. -/
def handshakeSaltSize : Nat := 16

/-- `handshakeChallengeSize`. -/
def handshakeChallengeSize : Nat := 32

/-- `handshakeInfo`. -/
def handshakeInfo : Bytes := stringBytes "kamune/handshake/v1"

/-- `handshakeC2SInfo`. -/
def handshakeC2SInfo : Bytes := stringBytes "kamune/handshake/client-to-server/v1/"

/-- `handshakeS2CInfo`. -/
def handshakeS2CInfo : Bytes := stringBytes "kamune/handshake/server-to-client/v1/"

/-- The errors of `validateHandshakeFields`. -/
inductive FieldError where
  /-- `"invalid salt length: got %d, want %d"`. -/
  | saltLength (length : Nat)
  /-- `"invalid session key length: got %d"`. -/
  | sessionKeyLength (length : Nat)
  deriving DecidableEq, Repr

/-- `validateHandshakeFields`: a salt of `handshakeSaltSize` bytes, a session key of half or all
of `sessionIDLength`. -/
def validateHandshakeFields (salt sessionKey : Bytes) : Except FieldError Unit :=
  if salt.length ≠ handshakeSaltSize then .error (.saltLength salt.length)
  else if sessionKey.length ≠ sessionIDLength / 2 ∧ sessionKey.length ≠ sessionIDLength then
    .error (.sessionKeyLength sessionKey.length)
  else .ok ()

variable (crypto : Primitives)

/-- `handshakeTranscriptHash`: SHA-256 over the label and each field of both messages, each
behind its `uint32` big-endian length, copied into 32 bytes. -/
def handshakeTranscriptHash (req resp : Handshake) : Bytes :=
  let field (value : Bytes) := bigEndian 4 value.length ++ value
  let digest := crypto.sha256 (handshakeInfo ++ field req.key ++ field req.salt ++
    field req.sessionKey ++ field resp.key ++ field resp.salt ++ field resp.sessionKey)
  (digest ++ List.replicate 32 0).take 32

/-- The bytes `handshakeTranscriptHash` writes into SHA-256. -/
def handshakeTranscript (req resp : Handshake) : Bytes :=
  let field (value : Bytes) := bigEndian 4 value.length ++ value
  handshakeInfo ++ field req.key ++ field req.salt ++ field req.sessionKey ++ field resp.key ++
    field resp.salt ++ field resp.sessionKey

theorem handshakeTranscriptHash_eq (req resp : Handshake) :
    handshakeTranscriptHash crypto req resp =
      (crypto.sha256 (handshakeTranscript req resp) ++ List.replicate 32 0).take 32 := rfl

/-- Each field of a handshake message is shorter than `2 ^ 32` bytes. -/
def Handshake.Short (handshake : Handshake) : Prop :=
  handshake.key.length < 2 ^ 32 ∧ handshake.salt.length < 2 ^ 32 ∧
    handshake.sessionKey.length < 2 ^ 32

instance : DecidablePred Handshake.Short := fun _ => inferInstanceAs (Decidable (_ ∧ _ ∧ _))

/-- **The transcript is self-delimiting**: with every field below `2 ^ 32` bytes, each length
prefix fixes where its field ends, so equal transcripts come from equal messages. -/
theorem handshakeTranscript_injective {req resp req' resp' : Handshake} (reqShort : req.Short)
    (respShort : resp.Short) (reqShort' : req'.Short) (respShort' : resp'.Short)
    (same : handshakeTranscript req resp = handshakeTranscript req' resp') :
    req = req' ∧ resp = resp' := by
  rcases req with ⟨key, salt, sessionKey⟩
  rcases resp with ⟨respKey, respSalt, respSessionKey⟩
  rcases req' with ⟨key', salt', sessionKey'⟩
  rcases resp' with ⟨respKey', respSalt', respSessionKey'⟩
  unfold handshakeTranscript at same
  simp only [List.append_assoc] at same
  -- peel the label, then one field at a time
  obtain ⟨rfl, afterKey⟩ :=
    bigEndian_length_append_inj reqShort.1 reqShort'.1 (List.append_cancel_left same)
  obtain ⟨rfl, afterSalt⟩ := bigEndian_length_append_inj reqShort.2.1 reqShort'.2.1 afterKey
  obtain ⟨rfl, afterSessionKey⟩ :=
    bigEndian_length_append_inj reqShort.2.2 reqShort'.2.2 afterSalt
  obtain ⟨rfl, afterRespKey⟩ :=
    bigEndian_length_append_inj respShort.1 respShort'.1 afterSessionKey
  obtain ⟨rfl, afterRespSalt⟩ :=
    bigEndian_length_append_inj respShort.2.1 respShort'.2.1 afterRespKey
  obtain ⟨-, rfl⟩ := List.append_inj afterRespSalt (by simp)
  exact ⟨rfl, rfl⟩

/-- **Signing and transcript inputs are self-delimiting**: equal signing inputs have the same
metadata and the same data; `handshakeTranscriptHash` hashes `handshakeTranscript`; and two pairs of
handshake messages with fields below `2 ^ 32` bytes give the same transcript only if all six fields
agree. -/
theorem signing_and_transcript_self_delimiting :
    (∀ metadataBytes data otherMetadata otherData : Bytes,
      signingInput metadataBytes data = signingInput otherMetadata otherData →
        metadataBytes = otherMetadata ∧ data = otherData) ∧
    (∀ (hashes : Primitives) (req resp : Handshake), handshakeTranscriptHash hashes req resp =
      (hashes.sha256 (handshakeTranscript req resp) ++ List.replicate 32 0).take 32) ∧
    ∀ req resp req' resp' : Handshake, req.Short → resp.Short → req'.Short → resp'.Short →
      handshakeTranscript req resp = handshakeTranscript req' resp' → req = req' ∧ resp = resp' :=
  ⟨fun _ _ _ _ same => signingInput_injective same,
    fun hashes req resp => handshakeTranscriptHash_eq hashes req resp,
    fun _ _ _ _ reqShort respShort reqShort' respShort' same =>
      handshakeTranscript_injective reqShort respShort reqShort' respShort' same⟩

theorem signing_and_transcript_self_delimiting_example :
    ([1] = ([1] : Bytes) ∧ [2] = ([2] : Bytes)) ∧
      ((⟨[3], [4], [5]⟩ : Handshake) = ⟨[3], [4], [5]⟩ ∧
        (⟨[6], [], [7]⟩ : Handshake) = ⟨[6], [], [7]⟩) :=
  ⟨signing_and_transcript_self_delimiting.1 [1] [2] [1] [2] rfl,
    signing_and_transcript_self_delimiting.2.2 ⟨[3], [4], [5]⟩ ⟨[6], [], [7]⟩ ⟨[3], [4], [5]⟩
      ⟨[6], [], [7]⟩ (by decide) (by decide) (by decide) (by decide) rfl⟩

/-- `deriveChallengeInfo`: `sessionID || '|' || direction || '|' || hash`. -/
def deriveChallengeInfo (sessionID direction hash : Bytes) : Bytes :=
  sessionID ++ [124] ++ direction ++ [124] ++ hash

/-! ### The errors -/

/-- The errors of `sendChallenge` and `acceptChallenge`. -/
inductive ChallengeError where
  /-- `"deriving a challenge: %w"`. -/
  | deriving
  /-- `"sending: %w"`. -/
  | sending (inner : Error)
  /-- `"receiving: %w"`. -/
  | receiving (inner : Error)
  /-- `"%w: expected %s, got %s"` of `ErrUnexpectedRoute`. -/
  | unexpectedRoute (expected got : Route)
  /-- `ErrVerificationFailed`. -/
  | verificationFailed
  deriving DecidableEq, Repr

/-- The errors of `requestHandshake` and `acceptHandshake`, by the text that wraps them (the
request or the response, as the role has it). -/
inductive HandshakeError where
  /-- `"serializing handshake request: %w"` (or response). -/
  | serializing (inner : Error)
  /-- `"writing handshake request: %w"` (or response). -/
  | writing (inner : ConnError)
  /-- `"reading handshake response: %w"` (or request). -/
  | reading (inner : ConnError)
  /-- `"deserializing handshake response: %w"` (or request). -/
  | deserializing (inner : Error)
  /-- `"%w: expected %s, got %s"` of `ErrUnexpectedRoute`. -/
  | unexpectedRoute (expected got : Route)
  /-- `"invalid remote handshake fields: %w"`. -/
  | invalidFields (inner : FieldError)
  /-- `"decapsulating secret: %w"`. -/
  | decapsulating
  /-- `"encapsulating key: %w"`. -/
  | encapsulating
  /-- `"creating encrypter: %w"`. -/
  | creatingEncrypter
  /-- `"creating decrypter: %w"`. -/
  | creatingDecrypter
  /-- `"sending challenge: %w"`. -/
  | sendingChallenge (inner : ChallengeError)
  /-- `"accepting challenge: %w"`. -/
  | acceptingChallenge (inner : ChallengeError)
  deriving DecidableEq, Repr

/-! ### Steps on the conn -/

/-- `conn.WriteBytes` in a handshake: what it appends goes out as one message. -/
def writeBytes (data : Bytes) : Process Bytes (Except ConnError Unit) :=
  match ({} : Conn).WriteBytes data with
  | .ok conn => Process.send conn.outbound
  | .error err => .done (.error err)

/-- `conn.ReadBytes` in a handshake: the frame of the next message. -/
def readBytes : Process Bytes (Except ConnError Bytes) :=
  .read fun chunk => .done (({ inbound := chunk } : Conn).ReadBytes.map Prod.fst)

variable {M : Type} (codec : Codec M)

/-- `t.Send` in a handshake: the frame it writes goes out as one message. -/
def sendOver (t : Transport) (message : M) (route : Route) (entropy : Entropy) :
    Process Bytes (Except Error Transport) :=
  match t.Send crypto codec {} message route entropy with
  | (t, conn, .ok _) => .write conn.outbound (.done (.ok t))
  | (_, _, .error err) => .done (.error err)

/-- `t.Receive` in a handshake, on the next message. -/
def receiveOver (t : Transport) : Process Bytes (Except Error (Transport × Metadata × M)) :=
  .read fun chunk =>
    match t.Receive crypto codec { inbound := chunk } with
    | (t, _, .ok (metadata, message)) => .done (.ok (t, metadata, message))
    | (_, _, .error err) => .done (.error err)

/-! ### The challenge exchange -/

/-- `sendChallenge`: send a challenge derived from the secret, expect it echoed back. -/
def sendChallenge (t : Transport) (secret info : Bytes) (entropy : Entropy) :
    Process Bytes (Except ChallengeError Transport) :=
  Process.attemptSome (Derive crypto secret [] info handshakeChallengeSize) .deriving
    fun challenge =>
  Process.seq ((sendOver crypto bytesValueCodec t { value := challenge } .sendChallenge
      entropy).map (Except.mapError .sending)) fun t =>
  Process.seq ((receiveOver crypto bytesValueCodec t).map (Except.mapError .receiving))
    fun (t, md, echoed) =>
  Process.attempt (if md.Route ≠ .verifyChallenge then
      .error (.unexpectedRoute .verifyChallenge md.Route) else .ok ()) fun () =>
  Process.attempt (if echoed.value ≠ challenge then .error .verificationFailed else .ok ())
    fun () => .done (.ok t)

/-- `acceptChallenge`: receive a challenge and echo it back. -/
def acceptChallenge (t : Transport) (expectedRoute : Route) (entropy : Entropy) :
    Process Bytes (Except ChallengeError Transport) :=
  Process.seq ((receiveOver crypto bytesValueCodec t).map (Except.mapError .receiving))
    fun (t, md, challenge) =>
  Process.attempt (if md.Route ≠ expectedRoute then
      .error (.unexpectedRoute expectedRoute md.Route) else .ok ()) fun () =>
  (sendOver crypto bytesValueCodec t { value := challenge.value } .verifyChallenge entropy).map
    (Except.mapError .sending)

/-! ### The two roles -/

/-- The random inputs of one side of a handshake: the seed of the ML-KEM key pair (the initiator)
or the coins of the encapsulation (the responder), the bytes of the salt and of the session key,
and the environment of each of the party's three sends. -/
structure HandshakeEntropy where
  kemSeed : Bytes
  saltTape : Nat → UInt8
  sessionKeyTape : Nat → UInt8
  sends : Nat → Entropy

/-- Every random input zero. -/
def HandshakeEntropy.zeros : HandshakeEntropy :=
  ⟨[], fun _ => 0, fun _ => 0, fun _ => Entropy.zeros⟩

/-- The session key a side offers: a fresh half of the session ID in a cold handshake
(`enigma.Text(sessionIDLength / 2)`), the session ID to resume otherwise. -/
def offeredSessionKey (opts : Bytes) (tape : Nat → UInt8) : Bytes :=
  if opts = [] then Text tape (sessionIDLength / 2) else opts

/-- The session ID both sides compute: the initiator's half then the responder's in a cold
handshake, the session ID to resume otherwise. -/
def joinedSessionID (opts initiatorKey responderKey : Bytes) : Bytes :=
  if opts = [] then initiatorKey ++ responderKey else opts

/-- `requestHandshake`. `opts` is `opts.sessionID`: empty for a cold handshake. -/
def requestHandshake (serde : SignedSerde) (opts : Bytes) (entropy : HandshakeEntropy) :
    Process Bytes (Except HandshakeError Transport) :=
  let localSalt := randomBytes entropy.saltTape handshakeSaltSize
  let sessionKey := offeredSessionKey opts entropy.sessionKeyTape
  let req : Handshake :=
    { key := crypto.kemPublicKey entropy.kemSeed, salt := localSalt, sessionKey := sessionKey }
  Process.attempt ((serialize crypto serde handshakeCodec req .requestHandshake 0
      (entropy.sends 0)).mapError .serializing) fun (reqBytes, _) =>
  Process.seq ((writeBytes reqBytes).map (Except.mapError .writing)) fun () =>
  Process.seq (readBytes.map (Except.mapError .reading)) fun respBytes =>
  Process.attempt ((deserialize crypto serde handshakeCodec respBytes).mapError .deserializing)
    fun (md, resp) =>
  Process.attempt (if md.Route ≠ .acceptHandshake then
      .error (.unexpectedRoute .acceptHandshake md.Route) else .ok ()) fun () =>
  Process.attempt ((validateHandshakeFields resp.salt resp.sessionKey).mapError .invalidFields)
    fun () =>
  let sessionID := joinedSessionID opts sessionKey resp.sessionKey
  let transcriptHash := handshakeTranscriptHash crypto req resp
  Process.attemptSome (crypto.decapsulate entropy.kemSeed resp.key) .decapsulating fun secret =>
  Process.attemptSome (NewEnigma crypto secret localSalt (handshakeC2SInfo ++ sessionID))
    .creatingEncrypter fun encoder =>
  Process.attemptSome (NewEnigma crypto secret resp.salt (handshakeS2CInfo ++ sessionID))
    .creatingDecrypter fun decoder =>
  let t := newTransport serde sessionID encoder decoder
  Process.seq ((sendChallenge crypto t secret
      (deriveChallengeInfo sessionID handshakeC2SInfo transcriptHash) (entropy.sends 1)).map
      (Except.mapError .sendingChallenge)) fun t =>
  Process.seq ((acceptChallenge crypto t .sendChallenge (entropy.sends 2)).map
      (Except.mapError .acceptingChallenge)) fun t =>
  .done (.ok (t.setResumptionRoot crypto secret))

/-- `acceptHandshake`. `opts` is `opts.sessionID`: empty for a cold handshake. -/
def acceptHandshake (serde : SignedSerde) (opts : Bytes) (entropy : HandshakeEntropy) :
    Process Bytes (Except HandshakeError Transport) :=
  Process.seq (readBytes.map (Except.mapError .reading)) fun reqBytes =>
  Process.attempt ((deserialize crypto serde handshakeCodec reqBytes).mapError .deserializing)
    fun (md, req) =>
  Process.attempt (if md.Route ≠ .requestHandshake then
      .error (.unexpectedRoute .requestHandshake md.Route) else .ok ()) fun () =>
  Process.attempt ((validateHandshakeFields req.salt req.sessionKey).mapError .invalidFields)
    fun () =>
  Process.attemptSome (crypto.encapsulate req.key entropy.kemSeed) .encapsulating
    fun (secret, ciphertext) =>
  let remoteSalt := req.salt
  let sessionKey := offeredSessionKey opts entropy.sessionKeyTape
  let sessionID := joinedSessionID opts req.sessionKey sessionKey
  let localSalt := randomBytes entropy.saltTape handshakeSaltSize
  let resp : Handshake := { key := ciphertext, salt := localSalt, sessionKey := sessionKey }
  Process.attempt ((serialize crypto serde handshakeCodec resp .acceptHandshake 0
      (entropy.sends 0)).mapError .serializing) fun (respBytes, _) =>
  Process.seq ((writeBytes respBytes).map (Except.mapError .writing)) fun () =>
  let transcriptHash := handshakeTranscriptHash crypto req resp
  Process.attemptSome (NewEnigma crypto secret localSalt (handshakeS2CInfo ++ sessionID))
    .creatingEncrypter fun encoder =>
  Process.attemptSome (NewEnigma crypto secret remoteSalt (handshakeC2SInfo ++ sessionID))
    .creatingDecrypter fun decoder =>
  let t := newTransport serde sessionID encoder decoder
  Process.seq ((acceptChallenge crypto t .sendChallenge (entropy.sends 1)).map
      (Except.mapError .acceptingChallenge)) fun t =>
  Process.seq ((sendChallenge crypto t secret
      (deriveChallengeInfo sessionID handshakeS2CInfo transcriptHash) (entropy.sends 2)).map
      (Except.mapError .sendingChallenge)) fun t =>
  .done (.ok (t.setResumptionRoot crypto secret))

/-! ### What each step did -/

section Steps

variable {crypto codec}

theorem writeBytes_runs {data : Bytes} {ins outs : List Bytes} {result : Except ConnError Unit}
    (ran : Process.Runs (writeBytes data) ins outs result) (succeeded : result = .ok ()) :
    data.length ≤ maxUint16 ∧ ins = [] ∧ outs = [frame data] := by
  unfold writeBytes at ran
  split at ran
  case h_1 conn written =>
    obtain ⟨-, fits, rfl⟩ := Conn.WriteBytes_cases written
    obtain ⟨rfl, rfl, -⟩ := Process.Runs.of_send ran
    exact ⟨fits, rfl, by simp⟩
  case h_2 =>
    obtain ⟨-, -, rfl⟩ := Process.Runs.of_done ran
    cases succeeded

theorem readBytes_runs {ins outs : List Bytes} {data : Bytes}
    (ran : Process.Runs readBytes ins outs (.ok data)) :
    ∃ chunk rest, ins = [chunk] ∧ outs = [] ∧
      ({ inbound := chunk } : Conn).ReadBytes = .ok (data, rest) := by
  cases ran with
  | read ran =>
    obtain ⟨rfl, rfl, read⟩ := Process.Runs.of_done ran
    cases readResult : ({ inbound := _ } : Conn).ReadBytes with
    | error err => rw [readResult] at read; cases read
    | ok result =>
      rw [readResult] at read
      cases read
      exact ⟨_, result.2, rfl, rfl, by rw [readResult]⟩

theorem sendOver_runs {t t' : Transport} {message : M} {route : Route} {entropy : Entropy}
    {ins outs : List Bytes} (ran : Process.Runs (sendOver crypto codec t message route entropy)
      ins outs (.ok t')) :
    ∃ conn md, t.Send crypto codec {} message route entropy = (t', conn, .ok md) ∧ ins = [] ∧
      outs = [conn.outbound] := by
  unfold sendOver at ran
  split at ran
  case h_1 t₁ conn md sent =>
    cases ran with
    | write ran =>
      obtain ⟨rfl, rfl, finished⟩ := Process.Runs.of_done ran
      cases finished
      exact ⟨conn, md, sent, rfl, rfl⟩
  case h_2 => cases ran

theorem receiveOver_runs {t t' : Transport} {md : Metadata} {message : M} {ins outs : List Bytes}
    (ran : Process.Runs (receiveOver crypto codec t) ins outs (.ok (t', md, message))) :
    ∃ chunk conn, t.Receive crypto codec { inbound := chunk } = (t', conn, .ok (md, message)) ∧
      ins = [chunk] ∧ outs = [] := by
  cases ran with
  | @read _ chunk _ _ _ ran =>
    dsimp only at ran
    split at ran
    case h_1 t₁ conn md₁ message₁ received =>
      obtain ⟨rfl, rfl, finished⟩ := Process.Runs.of_done ran
      cases finished
      exact ⟨chunk, conn, received, rfl, rfl⟩
    case h_2 => cases ran

/-- The transport after one send and one receive. -/
def Transport.afterExchange (t : Transport) : Transport :=
  { t with sendSequence := t.sendSequence + 1, recvSequence := t.recvSequence + 1 }

/-- **`sendChallenge` moves both counters by one**, and changes nothing else of the transport. -/
theorem sendChallenge_runs {t t' : Transport} {secret info : Bytes} {entropy : Entropy}
    {ins outs : List Bytes}
    (ran : Process.Runs (sendChallenge crypto t secret info entropy) ins outs (.ok t')) :
    t' = t.afterExchange ∧ ins.length = 1 ∧ outs.length = 1 := by
  unfold sendChallenge at ran
  obtain ⟨challenge, -, afterDerive⟩ := Process.Runs.of_attemptSome ran
  obtain ⟨t₁, ins₁, ins₂, outs₁, outs₂, sent, afterSend, rfl, rfl⟩ :=
    Process.Runs.of_seq afterDerive
  obtain ⟨conn₁, md₁, sentOk, rfl, rfl⟩ := sendOver_runs (Process.Runs.of_mapError sent)
  obtain ⟨⟨t₂, md, echoed⟩, ins₃, ins₄, outs₃, outs₄, received, afterReceive, rfl, rfl⟩ :=
    Process.Runs.of_seq afterSend
  obtain ⟨chunk, conn₂, receivedOk, rfl, rfl⟩ :=
    receiveOver_runs (Process.Runs.of_mapError received)
  obtain ⟨⟨⟩, -, afterRoute⟩ := Process.Runs.of_attempt afterReceive
  obtain ⟨⟨⟩, -, finished⟩ := Process.Runs.of_attempt afterRoute
  obtain ⟨rfl, rfl, ended⟩ := Process.Runs.of_done finished
  cases ended
  obtain ⟨rfl, -⟩ := Transport.Send_eq_ok sentOk
  obtain ⟨rfl, -⟩ := Transport.Receive_eq_ok receivedOk
  exact ⟨rfl, rfl, rfl⟩

/-- **`acceptChallenge` moves both counters by one**, and changes nothing else of the transport. -/
theorem acceptChallenge_runs {t t' : Transport} {expectedRoute : Route} {entropy : Entropy}
    {ins outs : List Bytes}
    (ran : Process.Runs (acceptChallenge crypto t expectedRoute entropy) ins outs (.ok t')) :
    t' = t.afterExchange ∧ ins.length = 1 ∧ outs.length = 1 := by
  unfold acceptChallenge at ran
  obtain ⟨⟨t₁, md, challenge⟩, ins₁, ins₂, outs₁, outs₂, received, afterReceive, rfl, rfl⟩ :=
    Process.Runs.of_seq ran
  obtain ⟨chunk, conn₁, receivedOk, rfl, rfl⟩ :=
    receiveOver_runs (Process.Runs.of_mapError received)
  obtain ⟨⟨⟩, -, afterRoute⟩ := Process.Runs.of_attempt afterReceive
  obtain ⟨conn₂, md₂, sentOk, rfl, rfl⟩ := sendOver_runs (Process.Runs.of_mapError afterRoute)
  obtain ⟨rfl, -⟩ := Transport.Receive_eq_ok receivedOk
  obtain ⟨rfl, -⟩ := Transport.Send_eq_ok sentOk
  exact ⟨rfl, rfl, rfl⟩

end Steps

/-! ### The transport each side ends with -/

/-- The transport a side holds when its handshake succeeds: both counters moved by the two halves
of the challenge exchange, the resumption root set from the shared secret. -/
def establishedTransport (serde : SignedSerde) (sessionID : Bytes) (encoder decoder : Enigma)
    (secret : Bytes) : Transport :=
  (newTransport serde sessionID encoder decoder).afterExchange.afterExchange.setResumptionRoot
    crypto secret

theorem establishedTransport_eq (serde : SignedSerde) (sessionID : Bytes)
    (encoder decoder : Enigma) (secret : Bytes) :
    establishedTransport crypto serde sessionID encoder decoder secret =
      { serde := serde, encoder := encoder, decoder := decoder, sessionID := sessionID
        resumptionRoot := Derive crypto secret sessionID resumptionRootInfo resumptionTokenSize
        recvSequence := 2, sendSequence := 2 } := by
  unfold establishedTransport Transport.setResumptionRoot
  split
  case h_1 root derived =>
    rw [← derived]
    rfl
  case h_2 failed =>
    rw [show Derive crypto secret sessionID resumptionRootInfo resumptionTokenSize = none
      from failed]
    rfl

/-- The handshake reads back the frame the other side wrote. -/
theorem readBytes_frame {data read : Bytes} {rest : Conn} (fits : data.length ≤ maxUint16)
    (readOk : ({ inbound := frame data } : Conn).ReadBytes = .ok (read, rest)) : read = data := by
  rw [Conn.ReadBytes_frame rfl fits (List.append_nil _).symm] at readOk
  cases readOk
  rfl

theorem joinedSessionID_offered (opts : Bytes) (initiatorTape responderTape : Nat → UInt8) :
    joinedSessionID opts (offeredSessionKey opts initiatorTape)
        (offeredSessionKey opts responderTape) =
      if opts = [] then Text initiatorTape (sessionIDLength / 2) ++
        Text responderTape (sessionIDLength / 2) else opts := by
  unfold joinedSessionID offeredSessionKey
  by_cases cold : opts = []
  · simp only [cold, if_true]
  · simp only [cold, if_false]

/-! ### What each role did -/

section Roles

variable {crypto}

/-- **What a successful initiator did**: it wrote its request first and read the response
first, decapsulated the secret the response carries, and ends with the transport established
on the session ID it joined from the two halves. -/
theorem requestHandshake_runs {serde : SignedSerde} {opts : Bytes} {entropy : HandshakeEntropy}
    {ins outs : List Bytes} {t : Transport}
    (ran : Process.Runs (requestHandshake crypto serde opts entropy) ins outs (.ok t)) :
    ∃ reqBytes md₀ respChunk insRest outsRest respBytes rest md resp secret encoder decoder,
      serialize crypto serde handshakeCodec
          { key := crypto.kemPublicKey entropy.kemSeed
            salt := randomBytes entropy.saltTape handshakeSaltSize
            sessionKey := offeredSessionKey opts entropy.sessionKeyTape }
          .requestHandshake 0 (entropy.sends 0) = .ok (reqBytes, md₀) ∧
      reqBytes.length ≤ maxUint16 ∧ outs = frame reqBytes :: outsRest ∧
      ins = respChunk :: insRest ∧
      ({ inbound := respChunk } : Conn).ReadBytes = .ok (respBytes, rest) ∧
      deserialize crypto serde handshakeCodec respBytes = .ok (md, resp) ∧
      crypto.decapsulate entropy.kemSeed resp.key = some secret ∧
      NewEnigma crypto secret (randomBytes entropy.saltTape handshakeSaltSize)
        (handshakeC2SInfo ++ joinedSessionID opts (offeredSessionKey opts entropy.sessionKeyTape)
          resp.sessionKey) = some encoder ∧
      NewEnigma crypto secret resp.salt
        (handshakeS2CInfo ++ joinedSessionID opts (offeredSessionKey opts entropy.sessionKeyTape)
          resp.sessionKey) = some decoder ∧
      t = establishedTransport crypto serde
        (joinedSessionID opts (offeredSessionKey opts entropy.sessionKeyTape) resp.sessionKey)
        encoder decoder secret := by
  unfold requestHandshake at ran
  obtain ⟨⟨reqBytes, md₀⟩, serialized, afterSerialize⟩ := Process.Runs.of_attempt ran
  obtain ⟨⟨⟩, ins₁, ins₂, outs₁, outs₂, written, afterWrite, rfl, rfl⟩ :=
    Process.Runs.of_seq afterSerialize
  obtain ⟨fits, rfl, rfl⟩ := writeBytes_runs (Process.Runs.of_mapError written) rfl
  obtain ⟨respBytes, ins₃, ins₄, outs₃, outs₄, read, afterRead, rfl, rfl⟩ :=
    Process.Runs.of_seq afterWrite
  obtain ⟨respChunk, rest, rfl, rfl, readOk⟩ := readBytes_runs (Process.Runs.of_mapError read)
  obtain ⟨⟨md, resp⟩, deserialized, afterDeserialize⟩ := Process.Runs.of_attempt afterRead
  obtain ⟨⟨⟩, -, afterRoute⟩ := Process.Runs.of_attempt afterDeserialize
  obtain ⟨⟨⟩, -, afterValidate⟩ := Process.Runs.of_attempt afterRoute
  obtain ⟨secret, decapsulated, afterDecapsulate⟩ := Process.Runs.of_attemptSome afterValidate
  obtain ⟨encoder, encoderMade, afterEncoder⟩ := Process.Runs.of_attemptSome afterDecapsulate
  obtain ⟨decoder, decoderMade, afterDecoder⟩ := Process.Runs.of_attemptSome afterEncoder
  obtain ⟨t₁, ins₅, ins₆, outs₅, outs₆, challenged, afterChallenge, rfl, rfl⟩ :=
    Process.Runs.of_seq afterDecoder
  obtain ⟨rfl, -, -⟩ := sendChallenge_runs (Process.Runs.of_mapError challenged)
  obtain ⟨t₂, ins₇, ins₈, outs₇, outs₈, accepted, finished, rfl, rfl⟩ :=
    Process.Runs.of_seq afterChallenge
  obtain ⟨rfl, -, -⟩ := acceptChallenge_runs (Process.Runs.of_mapError accepted)
  obtain ⟨rfl, rfl, ended⟩ := Process.Runs.of_done finished
  cases ended
  exact ⟨reqBytes, md₀, respChunk, _, _, respBytes, rest, md, resp, secret, encoder, decoder,
    Process.mapError_eq_ok.mp serialized, fits, rfl, rfl, readOk,
    Process.mapError_eq_ok.mp deserialized,
    decapsulated, encoderMade, decoderMade, rfl⟩

/-- **What a successful responder did**: it read the request first, encapsulated a secret to the
key it carries, wrote its response first, and ends with the transport established on the
session ID it joined from the two halves. -/
theorem acceptHandshake_runs {serde : SignedSerde} {opts : Bytes} {entropy : HandshakeEntropy}
    {ins outs : List Bytes} {t : Transport}
    (ran : Process.Runs (acceptHandshake crypto serde opts entropy) ins outs (.ok t)) :
    ∃ reqChunk insRest outsRest reqBytes rest md req secret ciphertext respBytes md₀ encoder
      decoder,
      ins = reqChunk :: insRest ∧
      ({ inbound := reqChunk } : Conn).ReadBytes = .ok (reqBytes, rest) ∧
      deserialize crypto serde handshakeCodec reqBytes = .ok (md, req) ∧
      crypto.encapsulate req.key entropy.kemSeed = some (secret, ciphertext) ∧
      serialize crypto serde handshakeCodec
          { key := ciphertext
            salt := randomBytes entropy.saltTape handshakeSaltSize
            sessionKey := offeredSessionKey opts entropy.sessionKeyTape }
          .acceptHandshake 0 (entropy.sends 0) = .ok (respBytes, md₀) ∧
      respBytes.length ≤ maxUint16 ∧ outs = frame respBytes :: outsRest ∧
      NewEnigma crypto secret (randomBytes entropy.saltTape handshakeSaltSize)
        (handshakeS2CInfo ++ joinedSessionID opts req.sessionKey
          (offeredSessionKey opts entropy.sessionKeyTape)) = some encoder ∧
      NewEnigma crypto secret req.salt
        (handshakeC2SInfo ++ joinedSessionID opts req.sessionKey
          (offeredSessionKey opts entropy.sessionKeyTape)) = some decoder ∧
      t = establishedTransport crypto serde
        (joinedSessionID opts req.sessionKey (offeredSessionKey opts entropy.sessionKeyTape))
        encoder decoder secret := by
  unfold acceptHandshake at ran
  obtain ⟨reqBytes, ins₁, ins₂, outs₁, outs₂, read, afterRead, rfl, rfl⟩ := Process.Runs.of_seq ran
  obtain ⟨reqChunk, rest, rfl, rfl, readOk⟩ := readBytes_runs (Process.Runs.of_mapError read)
  obtain ⟨⟨md, req⟩, deserialized, afterDeserialize⟩ := Process.Runs.of_attempt afterRead
  obtain ⟨⟨⟩, -, afterRoute⟩ := Process.Runs.of_attempt afterDeserialize
  obtain ⟨⟨⟩, -, afterValidate⟩ := Process.Runs.of_attempt afterRoute
  obtain ⟨⟨secret, ciphertext⟩, encapsulated, afterEncapsulate⟩ :=
    Process.Runs.of_attemptSome afterValidate
  obtain ⟨⟨respBytes, md₀⟩, serialized, afterSerialize⟩ := Process.Runs.of_attempt afterEncapsulate
  obtain ⟨⟨⟩, ins₃, ins₄, outs₃, outs₄, written, afterWrite, rfl, rfl⟩ :=
    Process.Runs.of_seq afterSerialize
  obtain ⟨fits, rfl, rfl⟩ := writeBytes_runs (Process.Runs.of_mapError written) rfl
  obtain ⟨encoder, encoderMade, afterEncoder⟩ := Process.Runs.of_attemptSome afterWrite
  obtain ⟨decoder, decoderMade, afterDecoder⟩ := Process.Runs.of_attemptSome afterEncoder
  obtain ⟨t₁, ins₅, ins₆, outs₅, outs₆, accepted, afterAccept, rfl, rfl⟩ :=
    Process.Runs.of_seq afterDecoder
  obtain ⟨rfl, -, -⟩ := acceptChallenge_runs (Process.Runs.of_mapError accepted)
  obtain ⟨t₂, ins₇, ins₈, outs₇, outs₈, challenged, finished, rfl, rfl⟩ :=
    Process.Runs.of_seq afterAccept
  obtain ⟨rfl, -, -⟩ := sendChallenge_runs (Process.Runs.of_mapError challenged)
  obtain ⟨rfl, rfl, ended⟩ := Process.Runs.of_done finished
  cases ended
  exact ⟨reqChunk, _, _, reqBytes, rest, md, req, secret, ciphertext, respBytes, md₀, encoder,
    decoder, rfl, readOk, Process.mapError_eq_ok.mp deserialized, encapsulated,
    Process.mapError_eq_ok.mp serialized, fits, rfl, encoderMade, decoderMade, rfl⟩

end Roles

/-! ### Agreement -/

section Agreement

variable {crypto}

/-- **Handshake agreement.** Whatever the interleaving, when the initiator and the responder of
one handshake between honest parties have both succeeded, they hold the same session ID (the two
halves in a cold handshake, the one to resume otherwise), each direction's encoder is the other
side's decoder, derived from the encapsulated secret with the sending side's salt and label, both
transports have sent and received the two challenge messages, and both hold the resumption root
`Derive` makes of the secret under the session ID, so the same `resumptionTokenCount` tokens, each
derived from the root under its own index. -/
theorem handshake_agreement (lawful : crypto.Lawful) {serdeI serdeR : SignedSerde}
    (responderTrusts : serdeR.remote = crypto.publicKey serdeI.attest)
    (initiatorTrusts : serdeI.remote = crypto.publicKey serdeR.attest)
    {opts : Bytes} {entropyI entropyR : HandshakeEntropy}
    {final : Network Bytes (Except HandshakeError Transport) (Except HandshakeError Transport)}
    (reached : Network.Reaches ⟨requestHandshake crypto serdeI opts entropyI,
      acceptHandshake crypto serdeR opts entropyR, [], []⟩ final)
    {initiator responder : Transport} (initiatorDone : final.left = .done (.ok initiator))
    (responderDone : final.right = .done (.ok responder)) :
    initiator.sessionID = responder.sessionID ∧
      initiator.sessionID = (if opts = [] then Text entropyI.sessionKeyTape (sessionIDLength / 2) ++
        Text entropyR.sessionKeyTape (sessionIDLength / 2) else opts) ∧
      (∃ secret ciphertext root,
        crypto.encapsulate (crypto.kemPublicKey entropyI.kemSeed) entropyR.kemSeed =
          some (secret, ciphertext) ∧
        NewEnigma crypto secret (randomBytes entropyI.saltTape handshakeSaltSize)
          (handshakeC2SInfo ++ initiator.sessionID) = some initiator.encoder ∧
        NewEnigma crypto secret (randomBytes entropyR.saltTape handshakeSaltSize)
          (handshakeS2CInfo ++ initiator.sessionID) = some responder.encoder ∧
        Derive crypto secret initiator.sessionID resumptionRootInfo resumptionTokenSize =
          some root ∧
        initiator.resumptionRoot = some root ∧ responder.resumptionRoot = some root ∧
        initiator.deriveResumptionTokens crypto = (List.range resumptionTokenCount).map
          fun index =>
            crypto.hkdf root [] (resumptionTokenInfo ++ bigEndian 4 index) resumptionTokenSize) ∧
      responder.decoder = initiator.encoder ∧ initiator.decoder = responder.encoder ∧
      initiator.sendSequence = 2 ∧ initiator.recvSequence = 2 ∧
      responder.sendSequence = 2 ∧ responder.recvSequence = 2 ∧
      initiator.deriveResumptionTokens crypto = responder.deriveResumptionTokens crypto := by
  obtain ⟨insI, outsI, insR, outsR, ranI, ranR, toResponder, toInitiator⟩ :=
    Network.runs_of_reaches reached initiatorDone responderDone
  obtain ⟨reqBytes, md₀, respChunk, insI, outsI, respBytes, restI, md, resp, secret, encoder,
    decoder, reqSerialized, reqFits, rfl, rfl, respRead, respDeserialized, decapsulated,
    encoderMade, decoderMade, rfl⟩ := requestHandshake_runs ranI
  obtain ⟨reqChunk, insR, outsR, reqBytes', restR, md', req, secret', ciphertext, respBytes',
    md₀', encoder', decoder', rfl, reqRead, reqDeserialized, encapsulated, respSerialized,
    respFits, rfl, encoderMade', decoderMade', rfl⟩ := acceptHandshake_runs ranR
  -- Each side's first read is the other side's first write, and reads back what was written.
  have reqChunkEq : reqChunk = frame reqBytes := (List.cons.inj toResponder).1.symm
  have respChunkEq : respChunk = frame respBytes' := (List.cons.inj toInitiator).1.symm
  subst reqChunkEq respChunkEq
  obtain rfl := readBytes_frame reqFits reqRead
  obtain rfl := readBytes_frame respFits respRead
  -- What was read deserializes to the very message the other side serialized.
  have reqEq := (deserialize_serialize_eq lawful handshakeCodec_readsBack responderTrusts
    reqSerialized).symm.trans reqDeserialized
  have respEq := (deserialize_serialize_eq lawful handshakeCodec_readsBack initiatorTrusts
    respSerialized).symm.trans respDeserialized
  cases reqEq
  cases respEq
  -- The initiator decapsulates the secret the responder encapsulated.
  obtain ⟨shared, sharedCiphertext, encapsulatedLaw, decapsulatedLaw⟩ :=
    lawful.decapsulate_encapsulate entropyI.kemSeed entropyR.kemSeed
  rw [encapsulated] at encapsulatedLaw
  cases encapsulatedLaw
  rw [decapsulatedLaw] at decapsulated
  cases decapsulated
  have sameEncoder : encoder = decoder' := Option.some.inj (encoderMade.symm.trans decoderMade')
  have sameDecoder : decoder = encoder' := Option.some.inj (decoderMade.symm.trans encoderMade')
  subst sameEncoder sameDecoder
  rw [establishedTransport_eq, establishedTransport_eq]
  -- the root is within HKDF's limit, so both sides set the same one
  have rooted : ∀ salt, Derive crypto secret salt resumptionRootInfo resumptionTokenSize =
      some (crypto.hkdf secret salt resumptionRootInfo resumptionTokenSize) :=
    fun salt => if_pos (by decide)
  refine ⟨rfl, joinedSessionID_offered opts _ _, ⟨secret, ciphertext, _, encapsulated,
    encoderMade, encoderMade', rooted _, rooted _, rooted _,
    Transport.deriveResumptionTokens_of_root (rooted _)⟩, rfl, rfl, rfl, rfl, rfl, rfl, rfl⟩

/-- Two sides with the plain primitives, empty keys and zero entropy complete a cold handshake on
the left-first schedule. -/
theorem handshake_agreement_plain :
    ∃ final initiator responder,
      Network.Reaches ⟨requestHandshake Primitives.plain ⟨[], []⟩ [] HandshakeEntropy.zeros,
        acceptHandshake Primitives.plain ⟨[], []⟩ [] HandshakeEntropy.zeros, [], []⟩ final ∧
      final.left = .done (.ok initiator) ∧ final.right = .done (.ok responder) ∧
      (initiator.sessionID = responder.sessionID ∧
        initiator.sessionID = (if ([] : Bytes) = [] then
          Text HandshakeEntropy.zeros.sessionKeyTape (sessionIDLength / 2) ++
            Text HandshakeEntropy.zeros.sessionKeyTape (sessionIDLength / 2) else []) ∧
        (∃ secret ciphertext root,
          Primitives.plain.encapsulate
              (Primitives.plain.kemPublicKey HandshakeEntropy.zeros.kemSeed)
            HandshakeEntropy.zeros.kemSeed = some (secret, ciphertext) ∧
          NewEnigma Primitives.plain secret
            (randomBytes HandshakeEntropy.zeros.saltTape handshakeSaltSize)
            (handshakeC2SInfo ++ initiator.sessionID) = some initiator.encoder ∧
          NewEnigma Primitives.plain secret
            (randomBytes HandshakeEntropy.zeros.saltTape handshakeSaltSize)
            (handshakeS2CInfo ++ initiator.sessionID) = some responder.encoder ∧
          Derive Primitives.plain secret initiator.sessionID resumptionRootInfo
            resumptionTokenSize = some root ∧
          initiator.resumptionRoot = some root ∧ responder.resumptionRoot = some root ∧
          initiator.deriveResumptionTokens Primitives.plain =
            (List.range resumptionTokenCount).map fun index =>
              Primitives.plain.hkdf root [] (resumptionTokenInfo ++ bigEndian 4 index)
                resumptionTokenSize) ∧
        responder.decoder = initiator.encoder ∧ initiator.decoder = responder.encoder ∧
        initiator.sendSequence = 2 ∧ initiator.recvSequence = 2 ∧
        responder.sendSequence = 2 ∧ responder.recvSequence = 2 ∧
        initiator.deriveResumptionTokens Primitives.plain =
          responder.deriveResumptionTokens Primitives.plain) := by
  -- The run the left-first scheduler takes, evaluated: both sides end established.
  let established := establishedTransport Primitives.plain ⟨[], []⟩
    (Text (fun _ => 0) 12 ++ Text (fun _ => 0) 12) ⟨List.replicate 32 0⟩ ⟨List.replicate 32 0⟩ []
  let final := Network.runFor 12
    ⟨requestHandshake Primitives.plain ⟨[], []⟩ [] HandshakeEntropy.zeros,
      acceptHandshake Primitives.plain ⟨[], []⟩ [] HandshakeEntropy.zeros, [], []⟩
  have initiatorDone : final.left = .done (.ok established) :=
    Process.eq_done_of_outcome (by decide +kernel)
  have responderDone : final.right = .done (.ok established) :=
    Process.eq_done_of_outcome (by decide +kernel)
  have reached := Network.reaches_runFor 12 ⟨requestHandshake Primitives.plain ⟨[], []⟩ []
    HandshakeEntropy.zeros, acceptHandshake Primitives.plain ⟨[], []⟩ [] HandshakeEntropy.zeros,
    [], []⟩
  exact ⟨final, established, established, reached, initiatorDone, responderDone,
    handshake_agreement Primitives.plain_lawful rfl rfl reached initiatorDone responderDone⟩

end Agreement

end Kamune
