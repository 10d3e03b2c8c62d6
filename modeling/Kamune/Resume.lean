/-
**Session resumption (`resume.go`, `Server.handleResume`, `Dialer.attemptResume`).**

A session that ended can be taken up again without a new introduction. The dialer pops one of
the resumption tokens it stored at the end of the last handshake and sends it, signed, in a
`ResumeRequest`; the server removes the token from its own list, reads the session's peer and
establishment time, checks the signature and the 24-hour window, answers with a `ResumeAccept`,
and both run the handshake again under the old session ID. Every handshake, cold or resumed,
ends on both sides with the same statement: the tokens derived from the new transport are
written to the session's record, and an error of that write is discarded.

The exchange is a `Dialogue.Process` over the frames of the tunnel, as the handshake is; the
storage is threaded through it.

* `sendResumeMessage_eq`: a resume message within `maxTransportSize` goes out as one frame;
* `Server.handleResume_unlisted`, `Server.handleResume_unrecorded`: a token that is not listed,
  or a session without tokens, is refused with the store as it was;
* `Server.handleResume_accepted`: an accepted resumption spends the token presented and ends with
  the new handshake's tokens saved;
* `saveResumptionTokens_absent`: without the session's record the tokens are written nowhere.
-/

import Kamune.Handshake
import Kamune.Storage

namespace Kamune

open Wire Dialogue

/-! ### The resume messages -/

/-- `pb.ResumeRequest`. -/
structure ResumeRequest where
  SessionID : Bytes
  Token : Bytes
  deriving DecidableEq, Repr

/-- The fields `proto.Marshal` writes for a resume request. -/
def ResumeRequest.fields (request : ResumeRequest) : List Field :=
  bytesField 1 request.SessionID ++ bytesField 2 request.Token

/-- `pb.ResumeRequest` as a codec: the `string` field `SessionID` is checked for UTF-8 both
ways. -/
def resumeRequestCodec : Codec ResumeRequest where
  marshal request :=
    if utf8Valid request.SessionID then some (encodeFields request.fields) else none
  unmarshal bytes :=
    (parseFields bytes).bind fun fields =>
      if (payloads 1 fields).all utf8Valid then
        some { SessionID := lastBytes 1 fields, Token := lastBytes 2 fields }
      else none

/-- `pb.ResumeAccept`. -/
structure ResumeAccept where
  Accepted : Bool
  Reason : Bytes
  deriving DecidableEq, Repr

/-- The fields `proto.Marshal` writes for a resume answer. -/
def ResumeAccept.fields (accept : ResumeAccept) : List Field :=
  varintField 1 (if accept.Accepted then 1 else 0) ++ bytesField 2 accept.Reason

/-- `pb.ResumeAccept` as a codec: a `bool` reads as any non-zero varint. -/
def resumeAcceptCodec : Codec ResumeAccept where
  marshal accept :=
    if utf8Valid accept.Reason then some (encodeFields accept.fields) else none
  unmarshal bytes :=
    (parseFields bytes).bind fun fields =>
      if (payloads 2 fields).all utf8Valid then
        some { Accepted := lastVarint 1 fields != 0, Reason := lastBytes 2 fields }
      else none

/-- The answer `sendResumeAccept` builds: a refusal carries the reason
`"resumption not available"`. -/
def ResumeAccept.ofVerdict (accepted : Bool) : ResumeAccept where
  Accepted := accepted
  Reason := if accepted then [] else stringBytes "resumption not available"

/-- The `pb.Metadata` of a resume message: its route, and nothing else. -/
def resumeMetadata (route : Route) : Metadata where
  id := []
  timestamp := none
  sequence := 0
  route := route.ToProto

/-! ### Sending and receiving them -/

/-- The errors of `sendResumeRequest` and `sendResumeAccept`. -/
inductive ResumeSendError where
  /-- `"marshalling resume request: %w"` (or accept). -/
  | marshallingMessage
  /-- `"marshalling metadata: %w"`. -/
  | marshallingMetadata
  /-- `"writing: %w"`. -/
  | writing (inner : ConnError)
  deriving DecidableEq, Repr

/-- The errors of `receiveResumeAccept`. -/
inductive ResumeReceiveError where
  /-- `"reading resume accept: %w"` of a failed `ReadBytes`. -/
  | reading (inner : ConnError)
  /-- `"reading resume accept: %w"` of a payload that is no signed transport. -/
  | unmarshallingTransport
  /-- `"extracting route: %w"`. -/
  | extractingRoute
  /-- `"%w: expected %s, got %s"` of `ErrUnexpectedRoute`. -/
  | unexpectedRoute (got : Route)
  /-- `ErrInvalidSignature`. -/
  | invalidSignature
  /-- `"deserializing resume accept: %w"`. -/
  | deserializing
  deriving DecidableEq, Repr

variable (crypto : Primitives)

/-- The padded signed transport a resume message goes out as, signed under `attest`. -/
def resumePayload (attest data metadataBytes : Bytes) (entropy : Entropy) : Bytes :=
  padSignedTransport
    { data := data
      signature := crypto.sign attest (signingInput metadataBytes data)
      metadata := metadataBytes
      padding := [] } entropy.draw entropy.padTape

/-- The body `sendResumeRequest` and `sendResumeAccept` share: marshal the message, sign it under
metadata of its route alone, pad it and write it. -/
def sendResumeMessage {M : Type} (codec : Codec M) (attest : Bytes) (message : M) (route : Route)
    (entropy : Entropy) : Process Bytes (Except ResumeSendError Unit) :=
  Process.attemptSome (codec.marshal message) .marshallingMessage fun data =>
  Process.attemptSome (resumeMetadata route).marshal .marshallingMetadata fun metadataBytes =>
  (writeBytes (resumePayload crypto attest data metadataBytes entropy)).map
    (Except.mapError .writing)

/-- `sendResumeRequest`. -/
def sendResumeRequest (attest sessionID token : Bytes) (entropy : Entropy) :
    Process Bytes (Except ResumeSendError Unit) :=
  sendResumeMessage crypto resumeRequestCodec attest { SessionID := sessionID, Token := token }
    .resumeRequest entropy

/-- `sendResumeAccept`. -/
def sendResumeAccept (attest : Bytes) (accepted : Bool) (entropy : Entropy) :
    Process Bytes (Except ResumeSendError Unit) :=
  sendResumeMessage crypto resumeAcceptCodec attest (ResumeAccept.ofVerdict accepted)
    .resumeAccept entropy

/-- The frame of the answer `sendResumeAccept` writes. -/
def resumeAcceptFrame (attest : Bytes) (accepted : Bool) (entropy : Entropy) : Bytes :=
  frame (resumePayload crypto attest (encodeFields (ResumeAccept.ofVerdict accepted).fields)
    (encodeFields (resumeMetadata .resumeAccept).fields) entropy)

/-- `receiveResumeAccept`: the verdict and the reason of a signed answer on the route
`RouteResumeAccept`. -/
def receiveResumeAccept (remote : Bytes) :
    Process Bytes (Except ResumeReceiveError (Bool × Bytes)) :=
  Process.seq (readBytes.map (Except.mapError .reading)) fun payload =>
  Process.attemptSome (SignedTransport.unmarshal payload) .unmarshallingTransport fun st =>
  Process.attemptSome (Metadata.unmarshal st.metadata) .extractingRoute fun md =>
  Process.attempt (if md.Route ≠ .resumeAccept then .error (.unexpectedRoute md.Route)
      else .ok ()) fun () =>
  Process.attempt (if !crypto.verify remote (signingInput st.metadata st.data) st.signature then
      .error .invalidSignature else .ok ()) fun () =>
  Process.attemptSome (resumeAcceptCodec.unmarshal st.data) .deserializing fun accept =>
  .done (.ok (accept.Accepted, accept.Reason))

/-! ### The two sides -/

/-- `resumptionGracePeriod`, in nanoseconds: a day. -/
def resumptionGracePeriod : Nat := 24 * 3600 * 10 ^ 9

/-- The random inputs of one resumption: those of the resume message, and the handshake's. -/
structure ResumeEntropy where
  message : Entropy
  handshake : HandshakeEntropy

/-- The statement that ends every handshake, cold or resumed, on both sides:
`_ = storage.SetMeta(t.sessionID, NewByteSlicesMeta(ResumptionTokensKey,
t.deriveResumptionTokens()))`, whose error is discarded. -/
def saveResumptionTokens (store : Store) (t : Transport) : Store :=
  (Storage.SetMeta store t.sessionID ResumptionTokensKey
    (serializeList (t.deriveResumptionTokens crypto))).1

/-- The errors of `Server.handleResume`. -/
inductive ResumeError where
  /-- `"deserializing resume request: %w"`. -/
  | deserializing
  /-- `"resume rejected: token invalid"`. -/
  | tokenInvalid
  /-- `"get session peer: %w"`. -/
  | getSessionPeer (inner : StorageError)
  /-- `"get session established_at: %w"`. -/
  | getEstablishedAt (inner : StorageError)
  /-- `"resume rejected: invalid signature"`. -/
  | invalidSignature
  /-- `"resume rejected: session expired"`. -/
  | sessionExpired
  /-- `"sending resume accept: %w"`. -/
  | sendingResumeAccept (inner : ResumeSendError)
  /-- `"accepting handshake after resume: %w"`. -/
  | acceptingHandshake (inner : HandshakeError)
  deriving DecidableEq, Repr

variable (env : StorageEnv)

/-- A refusal: `sendResumeAccept(false)`, then the error. -/
def Server.rejectResume (attest : Bytes) (store : Store) (err : ResumeError)
    (entropy : Entropy) : Process Bytes (Store × Except ResumeError Unit) :=
  (sendResumeAccept crypto attest false entropy).map fun
    | .error sendErr => (store, .error (.sendingResumeAccept sendErr))
    | .ok () => (store, .error err)

/-- `Server.handleResume` at clock time `now`, on the signed transport of a `ResumeRequest`, with
the server's signing key `attest`. The handler the resumed transport is passed to is left out. -/
def Server.handleResume (attest : Bytes) (store : Store) (now : Nat) (st : SignedTransport)
    (entropy : ResumeEntropy) : Process Bytes (Store × Except ResumeError Unit) :=
  match resumeRequestCodec.unmarshal st.data with
  | none => .done (store, .error .deserializing)
  | some req =>
    -- the token is taken off the list before anything about the request is checked
    let (store, removed) :=
      Storage.RemoveListItem store req.SessionID ResumptionTokensKey req.Token
    match removed with
    | .error _ => Server.rejectResume crypto attest store .tokenInvalid entropy.message
    | .ok () =>
      match Storage.GetPeer env store req.SessionID now with
      | .error err => .done (store, .error (.getSessionPeer err))
      | .ok peer =>
        match Storage.GetEstablishedAt store req.SessionID with
        | .error err => .done (store, .error (.getEstablishedAt err))
        | .ok establishedAt =>
          if !crypto.verify peer.PublicKey (signingInput st.metadata st.data) st.signature then
            Server.rejectResume crypto attest store .invalidSignature entropy.message
          else if resumptionGracePeriod < now - establishedAt then
            Server.rejectResume crypto attest store .sessionExpired entropy.message
          else
            (sendResumeAccept crypto attest true entropy.message).bind fun
            | .error err => .done (store, .error (.sendingResumeAccept err))
            | .ok () =>
              (acceptHandshake crypto { attest := attest, remote := peer.PublicKey } req.SessionID
                  entropy.handshake).map fun
              | .error err => (store, .error (.acceptingHandshake err))
              | .ok t => (saveResumptionTokens crypto store t, .ok ())

/-- The errors of `Dialer.attemptResume`. -/
inductive AttemptResumeError where
  /-- `"getting resumption token: %w"`. -/
  | gettingResumptionToken (inner : StorageError)
  /-- `"getting session peer: %w"`. -/
  | gettingSessionPeer (inner : StorageError)
  /-- `"sending resume request: %w"`. -/
  | sendingResumeRequest (inner : ResumeSendError)
  /-- `"receiving resume accept: %w"`. -/
  | receivingResumeAccept (inner : ResumeReceiveError)
  /-- `"%w: %s"` of `ErrResumptionRejected` and the reason. -/
  | rejected (reason : Bytes)
  /-- `"request handshake after resume: %w"`. -/
  | requestHandshake (inner : HandshakeError)
  deriving DecidableEq, Repr

/-- `Dialer.attemptResume` of the session `sessionID` at clock time `now`, with the dialer's
signing key `attest`. -/
def Dialer.attemptResume (attest sessionID : Bytes) (store : Store) (now : Nat)
    (entropy : ResumeEntropy) : Process Bytes (Store × Except AttemptResumeError Transport) :=
  let (store, popped) := Storage.PopList store sessionID ResumptionTokensKey
  match popped with
  | .error err => .done (store, .error (.gettingResumptionToken err))
  | .ok token =>
    match Storage.GetPeer env store sessionID now with
    | .error err => .done (store, .error (.gettingSessionPeer err))
    | .ok peer =>
      (sendResumeRequest crypto attest sessionID token entropy.message).bind fun
      | .error err => .done (store, .error (.sendingResumeRequest err))
      | .ok () =>
        (receiveResumeAccept crypto peer.PublicKey).bind fun
        | .error err => .done (store, .error (.receivingResumeAccept err))
        | .ok (false, reason) => .done (store, .error (.rejected reason))
        | .ok (true, _) =>
          (requestHandshake crypto { attest := attest, remote := peer.PublicKey } sessionID
              entropy.handshake).map fun
          | .error err => (store, .error (.requestHandshake err))
          | .ok t => (saveResumptionTokens crypto store t, .ok t)

/-! ### Sending a resume message -/

theorem writeBytes_eq {data : Bytes} (fits : data.length ≤ maxUint16) :
    writeBytes data = Process.send (frame data) := by
  unfold writeBytes
  rw [Conn.WriteBytes_eq_ok rfl fits]
  rfl

/-- The metadata of a resume message always marshals: its ID is empty. -/
theorem resumeMetadata_marshal (route : Route) :
    (resumeMetadata route).marshal = some (encodeFields (resumeMetadata route).fields) := rfl

section Send

variable {crypto}

/-- A signed payload within `maxTransportSize`, under metadata with a short ID, fits a frame. -/
theorem length_resumePayload_le (lawful : crypto.Lawful) (attest : Bytes) {data : Bytes}
    (fits : data.length ≤ maxTransportSize) (md : Metadata) (shortId : md.id.length ≤ 26)
    (entropy : Entropy) :
    (resumePayload crypto attest data (encodeFields md.fields) entropy).length ≤ maxUint16 := by
  have unpadded := size_unpadded_le ⟨attest, []⟩ lawful fits md shortId
  have below : (61585 : Nat) ≤ frameTargetSize := by decide
  have padded : (resumePayload crypto attest data (encodeFields md.fields) entropy).length ≤
      frameTargetSize := by
    apply length_padSignedTransport_le
    exact unpadded.trans below
  exact padded.trans (by decide)

/-- **A resume message within `maxTransportSize` goes out as one frame.** -/
theorem sendResumeMessage_eq (lawful : crypto.Lawful) {M : Type} {codec : Codec M}
    (attest : Bytes) {message : M} {data : Bytes} (marshalled : codec.marshal message = some data)
    (fits : data.length ≤ maxTransportSize) (route : Route) (entropy : Entropy) :
    sendResumeMessage crypto codec attest message route entropy =
      Process.send (frame (resumePayload crypto attest data
        (encodeFields (resumeMetadata route).fields) entropy)) := by
  unfold sendResumeMessage
  rw [marshalled, resumeMetadata_marshal]
  simp only [Process.attemptSome]
  rw [writeBytes_eq (length_resumePayload_le lawful attest fits (resumeMetadata route)
    (by simp [resumeMetadata]) entropy)]
  rfl

theorem sendResumeAccept_eq (lawful : crypto.Lawful) (attest : Bytes) (accepted : Bool)
    (entropy : Entropy) :
    sendResumeAccept crypto attest accepted entropy =
      Process.send (resumeAcceptFrame crypto attest accepted entropy) := by
  -- both answers are short ASCII: the accepting one is two bytes, the refusing one 25
  have marshalled : resumeAcceptCodec.marshal (ResumeAccept.ofVerdict accepted) =
      some (encodeFields (ResumeAccept.ofVerdict accepted).fields) := by
    cases accepted <;> decide
  have short : (encodeFields (ResumeAccept.ofVerdict accepted).fields).length ≤
      maxTransportSize := by
    cases accepted <;> decide
  exact sendResumeMessage_eq lawful attest marshalled short .resumeAccept entropy

theorem Server.rejectResume_eq (lawful : crypto.Lawful) (attest : Bytes) (store : Store)
    (err : ResumeError) (entropy : Entropy) :
    Server.rejectResume crypto attest store err entropy =
      .write (resumeAcceptFrame crypto attest false entropy) (.done (store, .error err)) := by
  unfold Server.rejectResume
  rw [sendResumeAccept_eq lawful]
  rfl

end Send

/-! ### What the server does with a request -/

section Server

variable {crypto env}

/-- A request whose token cannot be removed is refused, with the store `RemoveListItem` left. -/
theorem Server.handleResume_removal_failed (lawful : crypto.Lawful) {attest : Bytes}
    {store store' : Store} {now : Nat} {st : SignedTransport} {request : ResumeRequest}
    {err : StorageError} (parsed : resumeRequestCodec.unmarshal st.data = some request)
    (failed : Storage.RemoveListItem store request.SessionID ResumptionTokensKey request.Token =
      (store', .error err))
    (entropy : ResumeEntropy) :
    Server.handleResume crypto env attest store now st entropy =
      .write (resumeAcceptFrame crypto attest false entropy.message)
        (.done (store', .error .tokenInvalid)) := by
  unfold Server.handleResume
  rw [parsed]
  simp only
  rw [failed]
  exact Server.rejectResume_eq lawful attest store' .tokenInvalid entropy.message

/-- **A token that is not listed is refused, and the store is left as it was.** -/
theorem Server.handleResume_unlisted (lawful : crypto.Lawful) {attest : Bytes} {store : Store}
    {now : Nat} {st : SignedTransport} {request : ResumeRequest} {data : Bytes}
    {list : List Bytes} (parsed : resumeRequestCodec.unmarshal st.data = some request)
    (present : store.HasSession request.SessionID)
    (stored : store.item (metaPath request.SessionID) ResumptionTokensKey = some data)
    (decoded : deserializeList data = .ok list)
    (unlisted : list.findIdx? (· = request.Token) = none) (entropy : ResumeEntropy) :
    Server.handleResume crypto env attest store now st entropy =
      .write (resumeAcceptFrame crypto attest false entropy.message)
        (.done (store, .error .tokenInvalid)) :=
  Server.handleResume_removal_failed lawful parsed
    (Storage.RemoveListItem_absent present stored decoded unlisted) entropy

/-- **A session without tokens, or without a record, is refused, and the store is left as it
was.** -/
theorem Server.handleResume_unrecorded (lawful : crypto.Lawful) {attest : Bytes} {store : Store}
    {now : Nat} {st : SignedTransport} {request : ResumeRequest}
    (parsed : resumeRequestCodec.unmarshal st.data = some request)
    (absent : store.item (metaPath request.SessionID) ResumptionTokensKey = none)
    (entropy : ResumeEntropy) :
    Server.handleResume crypto env attest store now st entropy =
      .write (resumeAcceptFrame crypto attest false entropy.message)
        (.done (store, .error .tokenInvalid)) :=
  Server.handleResume_removal_failed lawful parsed
    (Storage.RemoveListItem_none absent request.Token) entropy

/-- **A listed token is spent even when the request is then refused**: with a signature that does
not verify under the session's peer, or past the resumption window, the server answers with a
refusal, and the list it keeps has lost the token. -/
theorem handleResume_consumes_refused_token (lawful : crypto.Lawful) {attest : Bytes}
    {store : Store} {now : Nat} {st : SignedTransport} {request : ResumeRequest} {data : Bytes}
    {list : List Bytes} {index : Nat} {peer : Peer} {establishedAt : Nat}
    (parsed : resumeRequestCodec.unmarshal st.data = some request)
    (present : store.HasSession request.SessionID)
    (stored : store.item (metaPath request.SessionID) ResumptionTokensKey = some data)
    (decoded : deserializeList data = .ok list)
    (listed : list.findIdx? (· = request.Token) = some index)
    (known : Storage.GetPeer env store request.SessionID now = .ok peer)
    (established : Storage.GetEstablishedAt store request.SessionID = .ok establishedAt)
    (refused : crypto.verify peer.PublicKey (signingInput st.metadata st.data) st.signature = false ∨
      resumptionGracePeriod < now - establishedAt)
    (entropy : ResumeEntropy) :
    ∃ store', Server.handleResume crypto env attest store now st entropy =
        .write (resumeAcceptFrame crypto attest false entropy.message)
          (.done (store', .error
            (if crypto.verify peer.PublicKey (signingInput st.metadata st.data) st.signature then
              .sessionExpired else .invalidSignature))) ∧
      store'.item (metaPath request.SessionID) ResumptionTokensKey =
        some (serializeList (swapRemove list index)) ∧
      (swapRemove list index).length + 1 = list.length := by
  obtain ⟨store', removed, listed', -, peerKept, timeKept⟩ :=
    Storage.RemoveListItem_tokens env present stored decoded listed
  have inRange : index < list.length := (List.findIdx?_eq_some_iff_getElem.mp listed).1
  refine ⟨store', ?_, listed', by rw [length_swapRemove]; omega⟩
  unfold Server.handleResume
  rw [parsed]
  simp only
  rw [removed]
  simp only
  rw [peerKept, known, timeKept, established]
  simp only
  -- the removal is behind us; the two checks that can still refuse come after it
  cases verified : crypto.verify peer.PublicKey (signingInput st.metadata st.data) st.signature
  case false =>
    rw [if_pos (by decide : (!false) = true), Server.rejectResume_eq lawful]
    rfl
  case true =>
    have late := refused.resolve_left (by rw [verified]; decide)
    rw [if_neg (by decide : ¬(!true) = true), if_pos late, Server.rejectResume_eq lawful]
    rfl

theorem handleResume_consumes_refused_token_plain :
    ∃ store', Server.handleResume Primitives.plain StorageEnv.plain []
        (Storage.SetMeta (Storage.CreateSession StorageEnv.plain
          (Storage.StorePeer StorageEnv.plain Store.initial ⟨List.replicate 44 7, 0⟩ 5).1
          [115] (List.replicate 44 7) 5).1 [115] ResumptionTokensKey
          (serializeList [List.replicate 32 1])).1
        (resumptionGracePeriod + 6)
        { data := encodeFields (ResumeRequest.fields ⟨[115], List.replicate 32 1⟩)
          signature := [], metadata := [], padding := [] }
        ⟨Entropy.zeros, HandshakeEntropy.zeros⟩ =
        .write (resumeAcceptFrame Primitives.plain [] false Entropy.zeros)
          (.done (store', .error (if Primitives.plain.verify (List.replicate 44 7)
              (signingInput [] (encodeFields (ResumeRequest.fields ⟨[115], List.replicate 32 1⟩)))
              [] then .sessionExpired else .invalidSignature))) ∧
      store'.item (metaPath [115]) ResumptionTokensKey =
        some (serializeList (swapRemove [List.replicate 32 1] 0)) ∧
      (swapRemove [List.replicate 32 1] 0).length + 1 = [List.replicate 32 1].length :=
  @handleResume_consumes_refused_token Primitives.plain StorageEnv.plain Primitives.plain_lawful
    [] _ _ _ ⟨[115], List.replicate 32 1⟩ (serializeList [List.replicate 32 1])
    [List.replicate 32 1] 0 ⟨List.replicate 44 7, 5⟩ 5 (by decide) (by decide) (by decide)
    (by decide) (by decide) (by decide) (by decide) (Or.inr (by decide)) _

/-- **An accepted resumption spends exactly the token presented, then runs the handshake**: the
server answers with the acceptance, the list it keeps has lost the token and nothing else, and
what it ends with is that store with the new tokens saved. -/
theorem Server.handleResume_accepted (lawful : crypto.Lawful) {attest : Bytes} {store : Store}
    {now : Nat} {st : SignedTransport} {request : ResumeRequest} {data : Bytes}
    {list : List Bytes} {index : Nat} {peer : Peer} {establishedAt : Nat}
    (parsed : resumeRequestCodec.unmarshal st.data = some request)
    (present : store.HasSession request.SessionID)
    (stored : store.item (metaPath request.SessionID) ResumptionTokensKey = some data)
    (decoded : deserializeList data = .ok list)
    (listed : list.findIdx? (· = request.Token) = some index)
    (known : Storage.GetPeer env store request.SessionID now = .ok peer)
    (established : Storage.GetEstablishedAt store request.SessionID = .ok establishedAt)
    (verified : crypto.verify peer.PublicKey (signingInput st.metadata st.data) st.signature = true)
    (inWindow : now - establishedAt ≤ resumptionGracePeriod) {entropy : ResumeEntropy}
    {ins outs : List Bytes} {final : Store}
    (ran : Process.Runs (Server.handleResume crypto env attest store now st entropy) ins outs
      (final, .ok ())) :
    ∃ store' t outs', outs = resumeAcceptFrame crypto attest true entropy.message :: outs' ∧
      Process.Runs (acceptHandshake crypto { attest := attest, remote := peer.PublicKey }
        request.SessionID entropy.handshake) ins outs' (.ok t) ∧
      store'.item (metaPath request.SessionID) ResumptionTokensKey =
        some (serializeList (swapRemove list index)) ∧
      store'.bucket = store.bucket ∧ final = saveResumptionTokens crypto store' t := by
  obtain ⟨store', removed, listed', sameBuckets, peerKept, timeKept⟩ :=
    Storage.RemoveListItem_tokens env present stored decoded listed
  unfold Server.handleResume at ran
  rw [parsed] at ran
  simp only at ran
  rw [removed] at ran
  simp only at ran
  rw [peerKept, known, timeKept, established] at ran
  simp only at ran
  rw [verified, if_neg (by decide : ¬(!true) = true), if_neg (by omega),
    sendResumeAccept_eq lawful] at ran
  cases ran with
  | write answered =>
    obtain ⟨result, handshaken, ended⟩ := Process.Runs.of_map answered
    cases result with
    | error err => cases ended
    | ok t => exact ⟨store', t, _, rfl, handshaken, listed', sameBuckets, (congrArg Prod.fst ended).symm⟩

end Server

/-! ### Saving the tokens -/

section Save

variable {crypto}

/-- With the session's record in place the tokens are saved under it. -/
theorem saveResumptionTokens_present {store : Store} {t : Transport}
    (present : store.HasSession t.sessionID) :
    (saveResumptionTokens crypto store t).item (metaPath t.sessionID) ResumptionTokensKey =
      some (serializeList (t.deriveResumptionTokens crypto)) := by
  obtain ⟨store', put, saved⟩ := Storage.SetMeta_present present ResumptionTokensKey
    (serializeList (t.deriveResumptionTokens crypto))
  unfold saveResumptionTokens
  rw [saved, Namespace.item_PutEncrypted put, if_pos ⟨rfl, rfl⟩]

/-- Without it, nothing is saved and the store is as it was. -/
theorem saveResumptionTokens_absent {store : Store} {t : Transport}
    (absent : ¬store.HasSession t.sessionID) : saveResumptionTokens crypto store t = store := by
  unfold saveResumptionTokens
  rw [Storage.SetMeta_missing absent]

end Save

section Accepted

variable {crypto env}

/-- **An accepted resumption replaces the list with the new handshake's tokens**: the handshake
run after the acceptance keeps the session ID of the request, and the server's record of that
session ends up holding the tokens derived from the new transport. -/
theorem Server.handleResume_saves_new_tokens (lawful : crypto.Lawful) {attest : Bytes}
    {store : Store} {now : Nat} {st : SignedTransport} {request : ResumeRequest} {data : Bytes}
    {list : List Bytes} {index : Nat} {peer : Peer} {establishedAt : Nat}
    (parsed : resumeRequestCodec.unmarshal st.data = some request)
    (nonempty : request.SessionID ≠ [])
    (present : store.HasSession request.SessionID)
    (stored : store.item (metaPath request.SessionID) ResumptionTokensKey = some data)
    (decoded : deserializeList data = .ok list)
    (listed : list.findIdx? (· = request.Token) = some index)
    (known : Storage.GetPeer env store request.SessionID now = .ok peer)
    (established : Storage.GetEstablishedAt store request.SessionID = .ok establishedAt)
    (verified : crypto.verify peer.PublicKey (signingInput st.metadata st.data) st.signature = true)
    (inWindow : now - establishedAt ≤ resumptionGracePeriod) {entropy : ResumeEntropy}
    {ins outs : List Bytes} {final : Store}
    (ran : Process.Runs (Server.handleResume crypto env attest store now st entropy) ins outs
      (final, .ok ())) :
    ∃ t outs', Process.Runs (acceptHandshake crypto { attest := attest, remote := peer.PublicKey }
        request.SessionID entropy.handshake) ins outs' (.ok t) ∧
      t.sessionID = request.SessionID ∧
      final.item (metaPath request.SessionID) ResumptionTokensKey =
        some (serializeList (t.deriveResumptionTokens crypto)) := by
  obtain ⟨store', t, outs', -, handshaken, -, sameBuckets, rfl⟩ :=
    Server.handleResume_accepted lawful parsed present stored decoded listed known established
      verified inWindow ran
  obtain ⟨-, -, -, -, -, -, req, secret, -, -, -, encoder, decoder, -, -, -, -, -, -, -, -, -,
    built⟩ := acceptHandshake_runs handshaken
  -- a non-empty session ID to resume is the one both sides keep
  have sameID : t.sessionID = request.SessionID := by
    rw [built, establishedTransport_eq, joinedSessionID, if_neg nonempty]
  have stillPresent : store'.HasSession t.sessionID := by
    rw [sameID, Store.HasSession_iff, sameBuckets]
    exact (Store.HasSession_iff store request.SessionID).mp present
  refine ⟨t, outs', handshaken, sameID, ?_⟩
  rw [← sameID]
  exact saveResumptionTokens_present stillPresent

end Accepted

/-! ### Cold sessions -/

section Cold

variable {crypto env}

/-- **The tokens of a cold session are lost**: the handshake's `SetMeta` runs before the
application's `CreateSession`, on a store without the session's record, so it fails with the
missing namespace and changes nothing; once `CreateSession` has run the record holds no tokens,
a later `attemptResume` fails at `PopList` with `ErrNotFound` before it sends anything, and the
server's `RemoveListItem` refuses every token. -/
theorem cold_session_loses_tokens (t : Transport) {store : Store}
    (absent : ¬store.HasSession t.sessionID) (publicKey : Bytes) (created later : Nat)
    (attest : Bytes) (entropy : ResumeEntropy) :
    Storage.SetMeta store t.sessionID ResumptionTokensKey
        (serializeList (t.deriveResumptionTokens crypto)) =
      (store, .error (.setMeta (.engine .missingNamespace))) ∧
    let session := (Storage.CreateSession env (saveResumptionTokens crypto store t) t.sessionID
      publicKey created).1
    session.item (metaPath t.sessionID) ResumptionTokensKey = none ∧
    Dialer.attemptResume crypto env attest t.sessionID session later entropy =
      .done (session, .error (.gettingResumptionToken .notFound)) ∧
    ∀ token, Storage.RemoveListItem session t.sessionID ResumptionTokensKey token =
      (session, .error .notFound) := by
  have noTokens : (Storage.CreateSession env store t.sessionID publicKey created).1.item
      (metaPath t.sessionID) ResumptionTokensKey = none := by
    rw [Storage.item_CreateSession env _ _ _ _ _ (Ne.symm PeerKey_ne_ResumptionTokensKey)
      (Ne.symm EstablishedAtKey_ne_ResumptionTokensKey)]
    exact Store.item_metaPath_of_not_HasSession absent _
  refine ⟨Storage.SetMeta_missing absent _ _, ?_⟩
  rw [saveResumptionTokens_absent absent]
  refine ⟨noTokens, ?_, fun token => Storage.RemoveListItem_none noTokens token⟩
  unfold Dialer.attemptResume
  rw [Storage.PopList_none noTokens]

theorem cold_session_loses_tokens_plain :
    Storage.SetMeta (Storage.StorePeer StorageEnv.plain Store.initial ⟨List.replicate 44 7, 0⟩ 5).1
        (Text (fun _ => 0) 12 ++ Text (fun _ => 0) 12) ResumptionTokensKey
        (serializeList ((establishedTransport Primitives.plain ⟨[], []⟩
          (Text (fun _ => 0) 12 ++ Text (fun _ => 0) 12) ⟨List.replicate 32 0⟩
          ⟨List.replicate 32 0⟩ []).deriveResumptionTokens Primitives.plain)) =
      ((Storage.StorePeer StorageEnv.plain Store.initial ⟨List.replicate 44 7, 0⟩ 5).1,
        .error (.setMeta (.engine .missingNamespace))) ∧
    let session := (Storage.CreateSession StorageEnv.plain
      (saveResumptionTokens Primitives.plain
        (Storage.StorePeer StorageEnv.plain Store.initial ⟨List.replicate 44 7, 0⟩ 5).1
        (establishedTransport Primitives.plain ⟨[], []⟩
          (Text (fun _ => 0) 12 ++ Text (fun _ => 0) 12) ⟨List.replicate 32 0⟩
          ⟨List.replicate 32 0⟩ []))
      (Text (fun _ => 0) 12 ++ Text (fun _ => 0) 12) (List.replicate 44 7) 6).1
    session.item (metaPath (Text (fun _ => 0) 12 ++ Text (fun _ => 0) 12)) ResumptionTokensKey =
      none ∧
    Dialer.attemptResume Primitives.plain StorageEnv.plain []
        (Text (fun _ => 0) 12 ++ Text (fun _ => 0) 12) session 7
        ⟨Entropy.zeros, HandshakeEntropy.zeros⟩ =
      .done (session, .error (.gettingResumptionToken .notFound)) ∧
    ∀ token, Storage.RemoveListItem session (Text (fun _ => 0) 12 ++ Text (fun _ => 0) 12)
        ResumptionTokensKey token = (session, .error .notFound) :=
  cold_session_loses_tokens (establishedTransport Primitives.plain ⟨[], []⟩
      (Text (fun _ => 0) 12 ++ Text (fun _ => 0) 12) ⟨List.replicate 32 0⟩
      ⟨List.replicate 32 0⟩ [])
    (by decide) (List.replicate 44 7) 6 7 [] ⟨Entropy.zeros, HandshakeEntropy.zeros⟩

end Cold

end Kamune
