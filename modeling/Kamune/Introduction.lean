/-
**The introduction and the two entry points (`intro.go`, `version.go`, `Dialer.handshake`,
`Server.serve`).**

Before the handshake proper, the two sides introduce themselves over the tunnel. The dialer sends
a signed `pb.Introduce` (its name, its public key, its `AppVersion`); the server reads it, checks
the route, the signature under the key the introduction carries and the version, asks its remote
verifier, and only then sends its own introduction; the dialer checks that one the same way. Each
side then runs its half of the handshake under the key the other introduced, and saves the new
resumption tokens. The server routes a first message of `RouteResumeRequest` to `handleResume`
instead, when resumption is on.

`checkVersion` parses the remote version with `parseSemver` (`strings.SplitN` and
`strconv.Atoi`) and refuses another major version, or below `1.0` another minor one. The remote
verifier is application code over the storage: a parameter of the model.

* `LocalVersion.accepts_iff`, `LocalVersion.accepts_symm`: the version check accepts exactly the
  compatible versions, so it is symmetric;
* `introductionFrame_readBack`: an introduction reads back, under the key it carries;
* `Server.handleNewConnection_trace`: however far it has got, a server that has written anything
  has accepted the dialer's introduction, and its first write is its own introduction;
* `Dialer.handshake_fails`: a dialer fails at the end of the stream, on the server's frame, in
  its verifier or in the handshake. `serve`'s deferred `cn.Close` is the network's close step.
-/

import Kamune.Resume

namespace Kamune

open Wire Dialogue

/-! ### `strconv.Atoi` -/

/-- The kinds of `*strconv.NumError`: `ErrSyntax` and `ErrRange`. -/
inductive NumError where
  | invalid
  | outOfRange
  deriving DecidableEq, Repr

/-- The sign `strconv.ParseInt` strips: a leading `+` or `-`. -/
def splitSign (text : Bytes) : Bool × Bytes :=
  match text with
  | sign :: rest =>
    if sign = 43 then (false, rest) else if sign = 45 then (true, rest) else (false, text)
  | [] => (false, [])

/-- The digit loop of `strconv.ParseUint(s, 10, 64)` from the value `n` read so far: a byte that is
no decimal digit is `ErrSyntax`, a value past `2 ^ 64 - 1` is `ErrRange` at once. -/
def parseDigits (n : Nat) : Bytes → Except NumError Nat
  | [] => .ok n
  | digit :: rest =>
    if 48 ≤ digit ∧ digit ≤ 57 then
      if 2 ^ 64 ≤ 10 * n + (digit - 48).toNat then .error .outOfRange
      else parseDigits (10 * n + (digit - 48).toNat) rest
    else .error .invalid

/-- `strconv.Atoi` on a 64-bit platform, that is `strconv.ParseInt(s, 10, 0)`: an optional sign,
then decimal digits, within `int64`. Its fast path for strings shorter than `19` bytes gives the
same results. -/
def Atoi (text : Bytes) : Except NumError Int :=
  let (negative, body) := splitSign text
  if body = [] then .error .invalid
  else match parseDigits 0 body with
    | .error err => .error err
    | .ok value =>
      if negative then
        if value ≤ 2 ^ 63 then .ok (-(value : Int)) else .error .outOfRange
      else if value < 2 ^ 63 then .ok value else .error .outOfRange

/-! ### `parseSemver` and `checkVersion` -/

/-- `semver`. -/
structure Semver where
  major : Int
  minor : Int
  patch : Int
  deriving DecidableEq, Repr

/-- The errors of `parseSemver`. -/
inductive SemverError where
  /-- `"empty version string"`. -/
  | empty
  /-- `"invalid semver %q: expected major.minor.patch"`. -/
  | invalid
  /-- `"invalid major version in %q: %w"`. -/
  | invalidMajor (inner : NumError)
  /-- `"invalid minor version in %q: %w"`. -/
  | invalidMinor (inner : NumError)
  /-- `"invalid patch version in %q: %w"`. -/
  | invalidPatch (inner : NumError)
  deriving DecidableEq, Repr

/-- `strings.SplitN(s, sep, n)` for a one-byte separator: at most `n` parts, the last one holding
the rest of the string. -/
def splitN (sep : UInt8) : Nat → Bytes → List Bytes
  | 0, _ => []
  | 1, text => [text]
  | n + 2, text =>
    match text.span (· != sep) with
    | (front, []) => [front]
    | (front, _ :: back) => front :: splitN sep (n + 1) back

/-- `parseSemver`: three parts on `.`, each an `Atoi`. -/
def parseSemver (v : Bytes) : Except SemverError Semver :=
  if v = [] then .error .empty
  else match splitN 46 3 v with
    | [major, minor, patch] => do
      let major ← (Atoi major).mapError .invalidMajor
      let minor ← (Atoi minor).mapError .invalidMinor
      let patch ← (Atoi patch).mapError .invalidPatch
      pure ⟨major, minor, patch⟩
    | _ => .error .invalid

/-- The errors of `checkVersion`, each wrapping `ErrVersionMismatch`. -/
inductive VersionError where
  /-- `"%w: parsing remote version %q: %w"`. -/
  | parsing (inner : SemverError)
  /-- `"%w: major %d != %d"`. -/
  | major (ours theirs : Int)
  /-- `"%w: pre-1.0 minor %d != %d"`. -/
  | preOneMinor (ours theirs : Int)
  deriving DecidableEq, Repr

/-- `checkVersion`, against the `localSemver` of this side. -/
def checkVersion (localSemver : Semver) (remote : Bytes) : Except VersionError Unit :=
  match parseSemver remote with
  | .error err => .error (.parsing err)
  | .ok rv =>
    if localSemver.major ≠ rv.major then .error (.major localSemver.major rv.major)
    else if localSemver.major = 0 ∧ localSemver.minor ≠ rv.minor then
      .error (.preOneMinor localSemver.minor rv.minor)
    -- another minor version above `1.0` is only logged
    else .ok ()

/-- A side's `AppVersion` and the `localSemver` its `init` parsed from it; `init` panics on a
version that does not parse, so a running side has one that does. -/
structure LocalVersion where
  AppVersion : Bytes
  localSemver : Semver
  parsed : parseSemver AppVersion = .ok localSemver

/-- `AppVersion` as the repository sets it, `"0.7.0"`. -/
def AppVersion : LocalVersion := ⟨stringBytes "0.7.0", ⟨0, 7, 0⟩, by decide⟩

/-- Two versions that `checkVersion` lets meet: the same major and, below `1.0`, the same
minor. -/
def Semver.Compatible (ours theirs : Semver) : Prop :=
  ours.major = theirs.major ∧ (ours.major = 0 → ours.minor = theirs.minor)

instance (ours theirs : Semver) : Decidable (ours.Compatible theirs) :=
  inferInstanceAs (Decidable (_ ∧ _))

theorem checkVersion_eq_ok_iff {localSemver : Semver} {remote : Bytes} :
    checkVersion localSemver remote = .ok () ↔
      ∃ rv, parseSemver remote = .ok rv ∧ localSemver.Compatible rv := by
  unfold checkVersion
  cases parsed : parseSemver remote with
  | error err => simp
  | ok rv =>
    -- the two refusals are the two halves of `Compatible`, in the order the code checks them
    by_cases major : localSemver.major = rv.major
    · simp [major, Semver.Compatible]
    · simp [major, Semver.Compatible]

theorem Semver.Compatible.symm {ours theirs : Semver} (compatible : ours.Compatible theirs) :
    theirs.Compatible ours :=
  ⟨compatible.1.symm, fun zero => (compatible.2 (compatible.1.trans zero)).symm⟩

/-- A side accepts another's `AppVersion` exactly when the two versions are compatible. -/
theorem LocalVersion.accepts_iff (ours theirs : LocalVersion) :
    checkVersion ours.localSemver theirs.AppVersion = .ok () ↔
      ours.localSemver.Compatible theirs.localSemver := by
  rw [checkVersion_eq_ok_iff, theirs.parsed]
  simp

/-- **The version check is symmetric**: a side accepts the other's version exactly when the other
accepts its own. -/
theorem LocalVersion.accepts_symm (ours theirs : LocalVersion) :
    checkVersion ours.localSemver theirs.AppVersion = .ok () ↔
      checkVersion theirs.localSemver ours.AppVersion = .ok () := by
  rw [LocalVersion.accepts_iff, LocalVersion.accepts_iff]
  exact ⟨Semver.Compatible.symm, Semver.Compatible.symm⟩

/-! ### The introduction -/

/-- `pb.Introduce`. -/
structure Introduce where
  Name : Bytes
  PublicKey : Bytes
  AppVersion : Bytes
  deriving DecidableEq, Repr

/-- The fields `proto.Marshal` writes for an introduction. -/
def Introduce.fields (introduce : Introduce) : List Field :=
  bytesField 1 introduce.Name ++ bytesField 2 introduce.PublicKey ++
    bytesField 3 introduce.AppVersion

/-- `pb.Introduce` as a codec: the `string` fields `Name` and `AppVersion` are checked for UTF-8
both ways. -/
def introduceCodec : Codec Introduce where
  marshal introduce :=
    if utf8Valid introduce.Name && utf8Valid introduce.AppVersion then
      some (encodeFields introduce.fields)
    else none
  unmarshal bytes :=
    (parseFields bytes).bind fun fields =>
      if (payloads 1 fields).all utf8Valid && (payloads 3 fields).all utf8Valid then
        some { Name := lastBytes 1 fields, PublicKey := lastBytes 2 fields,
               AppVersion := lastBytes 3 fields }
      else none

/-- An introduction `sendIntroduction` can send: both strings valid UTF-8, within
`maxTransportSize` once marshalled (nothing checks the size before the write does). -/
def Introduce.Sendable (introduce : Introduce) : Prop :=
  utf8Valid introduce.Name = true ∧ utf8Valid introduce.AppVersion = true ∧
    (encodeFields introduce.fields).length ≤ maxTransportSize

instance : DecidablePred Introduce.Sendable := fun _ => inferInstanceAs (Decidable (_ ∧ _ ∧ _))

/-- The `storage.Peer` `receiveIntroduction` builds from an introduction; its `FirstSeen` and
`LastSeen` stay zero and nothing modelled reads them. -/
structure RemotePeer where
  Name : Bytes
  PublicKey : Bytes
  AppVersion : Bytes
  deriving DecidableEq, Repr

/-- A `RemoteVerifier`: application code given the storage and the peer. It may read and write
the storage (the daemon's verifiers look the key up and store a new peer) and accepts, or refuses
with an error, here its text. -/
abbrev RemoteVerifier : Type := Store → RemotePeer → Store × Except Bytes Unit

/-- The `pb.Metadata` of an introduction: the clock and `RouteIdentity`, nothing else. -/
def introductionMetadata (now : Timestamp) : Metadata where
  id := []
  timestamp := some now
  sequence := 0
  route := Route.identity.ToProto

/-- The errors of `sendIntroduction`. Signing and marshalling the signed transport cannot fail. -/
inductive IntroSendError where
  /-- `"marshalling intro: %w"`. -/
  | marshallingIntro
  /-- `"marshalling metadata: %w"`. -/
  | marshallingMetadata
  /-- `"writing: %w"`. -/
  | writing (inner : ConnError)
  deriving DecidableEq, Repr

/-- The errors of `receiveIntroduction`. -/
inductive IntroReceiveError where
  /-- `"extracting route: %w"`. -/
  | extractingRoute
  /-- `"%w: expected %s, got %s"` of `ErrUnexpectedRoute`. -/
  | unexpectedRoute (got : Route)
  /-- `"deserializing: %w"`. -/
  | deserializing
  /-- `ErrInvalidSignature`. -/
  | invalidSignature
  deriving DecidableEq, Repr

/-- The errors of `readSignedTransport`. -/
inductive ReadTransportError where
  /-- `"reading payload: %w"`. -/
  | readingPayload (inner : ConnError)
  /-- `"unmarshalling transport: %w"`. -/
  | unmarshallingTransport
  deriving DecidableEq, Repr

variable (crypto : Primitives)

/-- `sendIntroduction`: the introduction, signed under metadata of the clock and the identity
route, padded as every signed transport is (`resumePayload`), and written. -/
def sendIntroduction (attest name version : Bytes) (entropy : Entropy) :
    Process Bytes (Except IntroSendError Unit) :=
  Process.attemptSome (introduceCodec.marshal ⟨name, crypto.publicKey attest, version⟩)
    .marshallingIntro fun message =>
  Process.attemptSome (introductionMetadata entropy.now).marshal .marshallingMetadata
    fun metadataBytes =>
  (writeBytes (resumePayload crypto attest message metadataBytes entropy)).map
    (Except.mapError .writing)

/-- `readSignedTransport`, on the next frame: `ReadBytes`, then `proto.Unmarshal`. -/
def readSignedTransport (chunk : Bytes) : Except ReadTransportError SignedTransport :=
  match ({ inbound := chunk } : Conn).ReadBytes with
  | .error err => .error (.readingPayload err)
  | .ok (payload, _) =>
    match SignedTransport.unmarshal payload with
    | none => .error .unmarshallingTransport
    | some st => .ok st

/-- `routeFromST`: the route of the metadata, when it unmarshals. -/
def routeFromST (st : SignedTransport) : Option Route :=
  (Metadata.unmarshal st.metadata).map Metadata.Route

/-- `receiveIntroduction`: the route must be `RouteIdentity`, and the signature must verify under
the public key the introduction itself carries. -/
def receiveIntroduction (st : SignedTransport) : Except IntroReceiveError RemotePeer :=
  match routeFromST st with
  | none => .error .extractingRoute
  | some route =>
    if route ≠ .identity then .error (.unexpectedRoute route)
    else match introduceCodec.unmarshal st.data with
      | none => .error .deserializing
      | some introduce =>
        if !crypto.verify introduce.PublicKey (signingInput st.metadata st.data) st.signature then
          .error .invalidSignature
        else .ok ⟨introduce.Name, introduce.PublicKey, introduce.AppVersion⟩

/-- The frame `sendIntroduction` writes. -/
def introductionFrame (attest name version : Bytes) (entropy : Entropy) : Bytes :=
  frame (resumePayload crypto attest
    (encodeFields (Introduce.fields ⟨name, crypto.publicKey attest, version⟩))
    (encodeFields (introductionMetadata entropy.now).fields) entropy)

/-! ### The two entry points -/

/-- The errors of `Dialer.handshake`, by the text that wraps them. Those of the HPKE exchange
before it are left out with the exchange. -/
inductive DialError where
  /-- `"attempt resume: %w"`. -/
  | attemptResume (inner : AttemptResumeError)
  /-- `"send introduction: %w"`. -/
  | sendIntroduction (inner : IntroSendError)
  /-- `"read transport: %w"`. -/
  | readTransport (inner : ReadTransportError)
  /-- `"extracting route: %w"`. -/
  | extractingRoute
  /-- `"%w: expected %s, got %s"` of `ErrUnexpectedRoute`. -/
  | unexpectedRoute (got : Route)
  /-- `"receive introduction: %w"`. -/
  | receiveIntroduction (inner : IntroReceiveError)
  /-- `"version check: %w"`. -/
  | versionCheck (inner : VersionError)
  /-- `"verify remote: %w"`. -/
  | verifyRemote (inner : Bytes)
  /-- `"request handshake: %w"`. -/
  | requestHandshake (inner : HandshakeError)
  deriving DecidableEq, Repr

/-- The errors of `Server.serve` and `Server.handleNewConnection`. Those of the HPKE exchange and
of the handler are left out with them; `handleResume`'s come back unwrapped. -/
inductive ServeError where
  /-- `"reading transport: %w"`. -/
  | readingTransport (inner : ReadTransportError)
  /-- `"extracting route: %w"`. -/
  | extractingRoute
  /-- `"%w: expected %s, got %s"` of `ErrUnexpectedRoute`. -/
  | unexpectedRoute (got : Route)
  /-- An error of `handleResume`. -/
  | resume (inner : ResumeError)
  /-- `"receiving introduction: %w"`. -/
  | receivingIntroduction (inner : IntroReceiveError)
  /-- `"version check: %w"`. -/
  | versionCheck (inner : VersionError)
  /-- `"verify remote: %w"`. -/
  | verifyRemote (inner : Bytes)
  /-- `"sending introduction: %w"`. -/
  | sendingIntroduction (inner : IntroSendError)
  /-- `"accepting handshake: %w"`. -/
  | acceptingHandshake (inner : HandshakeError)
  deriving DecidableEq, Repr

/-- Step 2 of `Dialer.handshake`, on the frame the server answered with: `readSignedTransport`,
the route, `receiveIntroduction` and `checkVersion`. -/
def Dialer.readIntroduction (version : LocalVersion) (chunk : Bytes) :
    Except DialError RemotePeer :=
  match readSignedTransport chunk with
  | .error err => .error (.readTransport err)
  | .ok st =>
    match routeFromST st with
    | none => .error .extractingRoute
    | some route =>
      if route ≠ .identity then .error (.unexpectedRoute route)
      else match receiveIntroduction crypto st with
        | .error err => .error (.receiveIntroduction err)
        | .ok peer =>
          match checkVersion version.localSemver peer.AppVersion with
          | .error err => .error (.versionCheck err)
          | .ok () => .ok peer

variable (env : StorageEnv)

/-- `Dialer.handshake` after the HPKE exchange, with the dialer's signing key `attest`, its
`clientName` and version, its remote verifier, and `opts.sessionID`: a resumption when it is set,
otherwise the introduction and a cold handshake under the key the server introduced. -/
def Dialer.handshake (attest clientName : Bytes) (version : LocalVersion)
    (verifier : RemoteVerifier) (sessionID : Bytes) (store : Store) (now : Nat)
    (entropy : ResumeEntropy) : Process Bytes (Store × Except DialError Transport) :=
  if sessionID ≠ [] then
    (Dialer.attemptResume crypto env attest sessionID store now entropy).map
      (Prod.map id (Except.mapError .attemptResume))
  else
    (sendIntroduction crypto attest clientName version.AppVersion entropy.message).bind fun
    | .error err => .done (store, .error (.sendIntroduction err))
    | .ok () =>
      .readOrClosed
        (fun chunk =>
          match Dialer.readIntroduction crypto version chunk with
          | .error err => .done (store, .error err)
          | .ok peer =>
            match verifier store peer with
            | (store, .error err) => .done (store, .error (.verifyRemote err))
            | (store, .ok ()) =>
              (requestHandshake crypto { attest := attest, remote := peer.PublicKey } []
                  entropy.handshake).map fun
              | .error err => (store, .error (.requestHandshake err))
              | .ok t => (saveResumptionTokens crypto store t, .ok t))
        -- the server closed the conn: the stream ends before a length prefix
        (.done (store, .error (.readTransport (.readingPayload (.lengthEOF false)))))

/-- `Server.handleNewConnection` on the introduction the dialer sent, with the server's signing
key, name and version and its remote verifier. The result is the transport the handler is given;
the handler is left out. -/
def Server.handleNewConnection (attest serverName : Bytes) (version : LocalVersion)
    (verifier : RemoteVerifier) (store : Store) (st : SignedTransport) (entropy : ResumeEntropy) :
    Process Bytes (Store × Except ServeError Transport) :=
  match receiveIntroduction crypto st with
  | .error err => .done (store, .error (.receivingIntroduction err))
  | .ok peer =>
    match checkVersion version.localSemver peer.AppVersion with
    | .error err => .done (store, .error (.versionCheck err))
    | .ok () =>
      match verifier store peer with
      | (store, .error err) => .done (store, .error (.verifyRemote err))
      | (store, .ok ()) =>
        (sendIntroduction crypto attest serverName version.AppVersion entropy.message).bind fun
        | .error err => .done (store, .error (.sendingIntroduction err))
        | .ok () =>
          (acceptHandshake crypto { attest := attest, remote := peer.PublicKey } []
              entropy.handshake).map fun
          | .error err => (store, .error (.acceptingHandshake err))
          | .ok t => (saveResumptionTokens crypto store t, .ok t)

/-- `Server.serve` after the HPKE exchange: the first signed transport, dispatched on its route.
Its deferred `cn.Close` is the network's: once `serve` has returned, a dialer still waiting on the
conn reads the end of the stream (`Network.Step.leftClose`). -/
def Server.serve (attest serverName : Bytes) (version : LocalVersion) (verifier : RemoteVerifier)
    (resumeEnabled : Bool) (store : Store) (now : Nat) (entropy : ResumeEntropy) :
    Process Bytes (Store × Except ServeError Unit) :=
  .read fun chunk =>
  match readSignedTransport chunk with
  | .error err => .done (store, .error (.readingTransport err))
  | .ok st =>
    match routeFromST st with
    | none => .done (store, .error .extractingRoute)
    | some .identity =>
      -- the transport goes to the handler, which is left out
      (Server.handleNewConnection crypto attest serverName version verifier store st entropy).map
        (Prod.map id (Except.map fun _ => ()))
    | some .resumeRequest =>
      if resumeEnabled then
        (Server.handleResume crypto env attest store now st entropy).map
          (Prod.map id (Except.mapError .resume))
      else .done (store, .error (.unexpectedRoute .resumeRequest))
    | some route => .done (store, .error (.unexpectedRoute route))

/-! ### An introduction reads back -/

/-- **An introduction reads back** exactly. -/
theorem introduceCodec_readsBack : introduceCodec.ReadsBack := by
  intro introduce bytes written short
  simp only [introduceCodec] at written ⊢
  split at written
  case isFalse => cases written
  case isTrue valid =>
    cases written
    have bound : introduce.Name.length < 2 ^ 64 ∧ introduce.PublicKey.length < 2 ^ 64 ∧
        introduce.AppVersion.length < 2 ^ 64 := by
      have name := length_le_bytesField 1 introduce.Name
      have key := length_le_bytesField 2 introduce.PublicKey
      have version := length_le_bytesField 3 introduce.AppVersion
      simp only [Introduce.fields, encodeFields_append, List.length_append] at short
      refine ⟨by omega, by omega, by omega⟩
    have well : ∀ field ∈ introduce.fields, field.WellFormed := by
      intro field member
      simp only [Introduce.fields, List.mem_append] at member
      rcases member with (name | key) | version
      · exact bytesField_wellFormed (by norm_num) (by norm_num) bound.1 field name
      · exact bytesField_wellFormed (by norm_num) (by norm_num) bound.2.1 field key
      · exact bytesField_wellFormed (by norm_num) (by norm_num) bound.2.2 field version
    rw [parseFields_encodeFields well]
    rcases introduce with ⟨name, key, version⟩
    simp only [Bool.and_eq_true] at valid
    by_cases emptyName : name = [] <;> by_cases emptyVersion : version = [] <;>
      simp_all [Introduce.fields, lastBytes_eq]

theorem introductionMetadata_marshal (now : Timestamp) :
    (introductionMetadata now).marshal = some (encodeFields (introductionMetadata now).fields) :=
  rfl

section ReadBack

variable {crypto}

/-- **An introduction that can be sent goes out as one frame.** -/
theorem sendIntroduction_eq (lawful : crypto.Lawful) {attest name version : Bytes}
    (sendable : (⟨name, crypto.publicKey attest, version⟩ : Introduce).Sendable)
    (entropy : Entropy) :
    sendIntroduction crypto attest name version entropy =
      Process.send (introductionFrame crypto attest name version entropy) := by
  obtain ⟨nameValid, versionValid, fits⟩ := sendable
  have marshalled : introduceCodec.marshal ⟨name, crypto.publicKey attest, version⟩ =
      some (encodeFields (Introduce.fields ⟨name, crypto.publicKey attest, version⟩)) :=
    if_pos (by simp only [nameValid, versionValid, Bool.and_self])
  unfold sendIntroduction
  rw [marshalled, introductionMetadata_marshal]
  simp only [Process.attemptSome]
  rw [writeBytes_eq (length_resumePayload_le lawful attest fits (introductionMetadata entropy.now)
    (by simp [introductionMetadata]) entropy)]
  rfl

/-- **The frame of an introduction reads back** as a signed transport on the identity route, and
`receiveIntroduction` accepts it: the signature verifies under the key it carries. -/
theorem introductionFrame_readBack (lawful : crypto.Lawful) {attest name version : Bytes}
    (sendable : (⟨name, crypto.publicKey attest, version⟩ : Introduce).Sendable)
    (entropy : Entropy) :
    ∃ st, readSignedTransport (introductionFrame crypto attest name version entropy) = .ok st ∧
      routeFromST st = some .identity ∧
      receiveIntroduction crypto st = .ok ⟨name, crypto.publicKey attest, version⟩ := by
  obtain ⟨nameValid, versionValid, fits⟩ := sendable
  have metadataShort := (introductionMetadata entropy.now).length_encode_le (by
    simp [introductionMetadata])
  have message :=
    introduceCodec_readsBack ⟨name, crypto.publicKey attest, version⟩ _
      (if_pos (by simp only [nameValid, versionValid, Bool.and_self])) (by
        unfold maxTransportSize maxUint16 reservedProtocolOverhead at fits
        omega)
  unfold introductionFrame
  generalize encodeFields (Introduce.fields ⟨name, crypto.publicKey attest, version⟩) = data
    at message fits ⊢
  have payloadFits := length_resumePayload_le lawful attest fits
    (introductionMetadata entropy.now) (by simp [introductionMetadata]) entropy
  generalize metadataIs : encodeFields (introductionMetadata entropy.now).fields = metadataBytes
    at metadataShort payloadFits ⊢
  have metadataBack : Metadata.unmarshal metadataBytes = some (introductionMetadata entropy.now) :=
    metadataIs ▸ Metadata.unmarshal_marshal (by simp [introductionMetadata])
      (introductionMetadata_marshal entropy.now)
  set transport : SignedTransport :=
    { data := data
      signature := crypto.sign attest (signingInput metadataBytes data)
      metadata := metadataBytes
      padding := [] }
  obtain ⟨padding, paddingShort, padded⟩ :=
    padSignedTransport_eq transport entropy.draw entropy.padTape
  have small : ({ transport with padding := padding } : SignedTransport).Small := by
    have signature := lawful.length_sign attest (signingInput metadataBytes data)
    unfold frameTargetSize maxUint16 encryptionOverhead at paddingShort
    unfold maxTransportSize maxUint16 reservedProtocolOverhead at fits
    simp only [introductionMetadata, List.length_nil] at metadataShort
    refine ⟨?_, ?_, ?_, ?_⟩ <;> simp only [transport] <;> omega
  have routed : routeFromST { transport with padding := padding } = some .identity := by
    simp [routeFromST, transport, metadataBack, Metadata.Route, introductionMetadata]
  refine ⟨{ transport with padding := padding }, ?_, routed, ?_⟩
  · unfold readSignedTransport
    rw [Conn.ReadBytes_frame rfl payloadFits (List.append_nil _).symm]
    simp only [resumePayload]
    rw [padded, SignedTransport.unmarshal_marshal small]
  · unfold receiveIntroduction
    rw [routed]
    simp [transport, message, lawful.verify_sign]

/-- The dialer takes a server's introduction whose version it accepts. -/
theorem Dialer.readIntroduction_of_accepted (lawful : crypto.Lawful) (version : LocalVersion)
    {attest name remoteVersion : Bytes}
    (sendable : (⟨name, crypto.publicKey attest, remoteVersion⟩ : Introduce).Sendable)
    (entropy : Entropy) (accepted : checkVersion version.localSemver remoteVersion = .ok ()) :
    Dialer.readIntroduction crypto version
        (introductionFrame crypto attest name remoteVersion entropy) =
      .ok ⟨name, crypto.publicKey attest, remoteVersion⟩ := by
  obtain ⟨st, read, routed, received⟩ := introductionFrame_readBack lawful sendable entropy
  unfold Dialer.readIntroduction
  simp [read, routed, received, accepted]

/-- What `receiveIntroduction` accepted: a transport on the identity route whose data is an
introduction, signed under the key it carries. -/
theorem receiveIntroduction_eq_ok {st : SignedTransport} {peer : RemotePeer}
    (received : receiveIntroduction crypto st = .ok peer) :
    routeFromST st = some .identity ∧
      introduceCodec.unmarshal st.data = some ⟨peer.Name, peer.PublicKey, peer.AppVersion⟩ ∧
      crypto.verify peer.PublicKey (signingInput st.metadata st.data) st.signature = true := by
  unfold receiveIntroduction at received
  rcases routed : routeFromST st with _ | route
  · simp [routed] at received
  by_cases identity : route = .identity
  · subst identity
    rcases unmarshalled : introduceCodec.unmarshal st.data with _ | introduce
    · simp [routed, unmarshalled] at received
    rcases verified : crypto.verify introduce.PublicKey (signingInput st.metadata st.data)
      st.signature
    · simp [routed, unmarshalled, verified] at received
    · simp only [routed, unmarshalled, verified, ne_eq, not_true_eq_false, if_false,
        Bool.not_true, Bool.false_eq_true, Except.ok.injEq] at received
      subst received
      exact ⟨rfl, rfl, verified⟩
  · simp [routed, identity] at received

end ReadBack

/-! ### What each side did -/

section Sides

variable {crypto env}

/-- **A server that has written anything has accepted the introduction it read**, and what it
wrote first is its own introduction: `handleNewConnection` checks the introduction, the version
and the remote verifier before its first write. -/
theorem Server.handleNewConnection_trace (lawful : crypto.Lawful) {attest serverName : Bytes}
    {version : LocalVersion} {verifier : RemoteVerifier} {store : Store} {st : SignedTransport}
    {entropy : ResumeEntropy}
    (sendable :
      (⟨serverName, crypto.publicKey attest, version.AppVersion⟩ : Introduce).Sendable)
    {β : Type} {f : Store × Except ServeError Transport → β} {ins outs : List Bytes}
    {current : Process Bytes β}
    (traced : Process.Trace ((Server.handleNewConnection crypto attest serverName version verifier
      store st entropy).map f) ins outs current)
    (wrote : outs ≠ []) :
    ∃ peer storeV outs', receiveIntroduction crypto st = .ok peer ∧
      checkVersion version.localSemver peer.AppVersion = .ok () ∧
      verifier store peer = (storeV, .ok ()) ∧
      outs = introductionFrame crypto attest serverName version.AppVersion entropy.message ::
        outs' := by
  unfold Server.handleNewConnection at traced
  -- each refusal ends the connection before anything is written
  rcases received : receiveIntroduction crypto st with err | peer
  · simp only [received] at traced
    exact absurd (Process.Trace.of_map_done traced) wrote
  rcases accepted : checkVersion version.localSemver peer.AppVersion with err | ⟨⟩
  · simp only [received, accepted] at traced
    exact absurd (Process.Trace.of_map_done traced) wrote
  rcases verified : verifier store peer with ⟨storeV, err | ⟨⟩⟩
  · simp only [received, accepted, verified] at traced
    exact absurd (Process.Trace.of_map_done traced) wrote
  simp only [received, accepted, verified, sendIntroduction_eq lawful sendable] at traced
  rcases Process.Trace.of_map_write traced with quiet | ⟨outs', rfl⟩
  · exact absurd quiet wrote
  · exact ⟨peer, storeV, outs', rfl, accepted, verified, rfl⟩

/-- What a connection that succeeded did: it accepted the introduction, the version and the
verifier, wrote its own introduction, and ran the handshake under the key introduced. -/
theorem Server.handleNewConnection_runs (lawful : crypto.Lawful) {attest serverName : Bytes}
    {version : LocalVersion} {verifier : RemoteVerifier} {store : Store} {st : SignedTransport}
    {entropy : ResumeEntropy} {peer : RemotePeer}
    (sendable :
      (⟨serverName, crypto.publicKey attest, version.AppVersion⟩ : Introduce).Sendable)
    (received : receiveIntroduction crypto st = .ok peer) {ins outs : List Bytes} {store' : Store}
    {t : Transport}
    (ran : Process.Runs (Server.handleNewConnection crypto attest serverName version verifier
      store st entropy) ins outs (store', .ok t)) :
    ∃ storeV outs', checkVersion version.localSemver peer.AppVersion = .ok () ∧
      verifier store peer = (storeV, .ok ()) ∧
      outs = introductionFrame crypto attest serverName version.AppVersion entropy.message ::
        outs' ∧
      Process.Runs (acceptHandshake crypto { attest := attest, remote := peer.PublicKey } []
        entropy.handshake) ins outs' (.ok t) ∧
      store' = saveResumptionTokens crypto storeV t := by
  unfold Server.handleNewConnection at ran
  rcases accepted : checkVersion version.localSemver peer.AppVersion with err | ⟨⟩
  · simp only [received, accepted] at ran
    cases ran
  rcases verified : verifier store peer with ⟨storeV, err | ⟨⟩⟩
  · simp only [received, accepted, verified] at ran
    cases ran
  simp only [received, accepted, verified, sendIntroduction_eq lawful sendable] at ran
  cases ran with
  | write ran =>
    obtain ⟨result, handshaken, mapped⟩ := Process.Runs.of_map ran
    rcases result with err | t'
    · cases mapped
    · cases mapped
      exact ⟨storeV, _, rfl, rfl, rfl, handshaken, rfl⟩

/-- A server whose first frame is an identity transport goes on with `handleNewConnection`. -/
theorem Server.serve_trace_identity {attest serverName : Bytes} {version : LocalVersion}
    {verifier : RemoteVerifier} {resumeEnabled : Bool} {store : Store} {now : Nat}
    {entropy : ResumeEntropy} {chunk : Bytes} {st : SignedTransport}
    (read : readSignedTransport chunk = .ok st) (routed : routeFromST st = some .identity)
    {ins outs : List Bytes} {current : Process Bytes (Store × Except ServeError Unit)}
    (traced : Process.Trace (Server.serve crypto env attest serverName version verifier
      resumeEnabled store now entropy) (chunk :: ins) outs current) :
    Process.Trace ((Server.handleNewConnection crypto attest serverName version verifier store st
      entropy).map (Prod.map id (Except.map fun _ => ()))) ins outs current := by
  unfold Server.serve at traced
  cases traced with
  | read traced =>
    simp only [read, routed] at traced
    exact traced

theorem Server.serve_runs_identity {attest serverName : Bytes} {version : LocalVersion}
    {verifier : RemoteVerifier} {resumeEnabled : Bool} {store : Store} {now : Nat}
    {entropy : ResumeEntropy} {chunk : Bytes} {st : SignedTransport}
    (read : readSignedTransport chunk = .ok st) (routed : routeFromST st = some .identity)
    {ins outs : List Bytes} {store' : Store}
    (ran : Process.Runs (Server.serve crypto env attest serverName version verifier resumeEnabled
      store now entropy) (chunk :: ins) outs (store', .ok ())) :
    ∃ t, Process.Runs (Server.handleNewConnection crypto attest serverName version verifier store
      st entropy) ins outs (store', .ok t) := by
  obtain ⟨⟨store'', result⟩, handled, mapped⟩ :=
    Process.Runs.of_map (Server.serve_trace_identity read routed ran.trace).runs
  rcases result with err | t
  · cases mapped
  · cases mapped
    exact ⟨t, handled⟩

/-- What a dialer whose cold handshake succeeded did: it wrote its introduction first, took the
server's, asked its verifier, and ran the handshake under the key the server introduced. -/
theorem Dialer.handshake_runs (lawful : crypto.Lawful) {attest clientName : Bytes}
    {version : LocalVersion} {verifier : RemoteVerifier} {store : Store} {now : Nat}
    {entropy : ResumeEntropy}
    (sendable :
      (⟨clientName, crypto.publicKey attest, version.AppVersion⟩ : Introduce).Sendable)
    {ins outs : List Bytes} {store' : Store} {t : Transport}
    (ran : Process.Runs (Dialer.handshake crypto env attest clientName version verifier [] store
      now entropy) ins outs (store', .ok t)) :
    ∃ chunk ins' outs' peer storeV, ins = chunk :: ins' ∧
      outs = introductionFrame crypto attest clientName version.AppVersion entropy.message ::
        outs' ∧
      Dialer.readIntroduction crypto version chunk = .ok peer ∧
      verifier store peer = (storeV, .ok ()) ∧
      Process.Runs (requestHandshake crypto { attest := attest, remote := peer.PublicKey } []
        entropy.handshake) ins' outs' (.ok t) ∧
      store' = saveResumptionTokens crypto storeV t := by
  unfold Dialer.handshake at ran
  rw [if_neg (fun set => set rfl), sendIntroduction_eq lawful sendable] at ran
  cases ran with
  | write ran =>
    cases ran with
    | @readOrClosed _ _ chunk ins' _ _ ran =>
      rcases readOk : Dialer.readIntroduction crypto version chunk with err | peer
      · simp only [readOk] at ran
        cases ran
      rcases verified : verifier store peer with ⟨storeV, err | ⟨⟩⟩
      · simp only [readOk, verified] at ran
        cases ran
      simp only [readOk, verified] at ran
      obtain ⟨result, handshaken, mapped⟩ := Process.Runs.of_map ran
      rcases result with err | t'
      · cases mapped
      · cases mapped
        exact ⟨chunk, ins', _, peer, storeV, rfl, rfl, readOk, verified, handshaken, rfl⟩
    | close ran => cases ran

/-- How a dialer's cold handshake can fail once its introduction is out: at the end of the stream
before any frame, on the frame the server answered with, in its verifier, or in the handshake. -/
theorem Dialer.handshake_fails (lawful : crypto.Lawful) {attest clientName : Bytes}
    {version : LocalVersion} {verifier : RemoteVerifier} {store : Store} {now : Nat}
    {entropy : ResumeEntropy}
    (sendable :
      (⟨clientName, crypto.publicKey attest, version.AppVersion⟩ : Introduce).Sendable)
    {ins outs : List Bytes} {store' : Store} {err : DialError}
    (ran : Process.Runs (Dialer.handshake crypto env attest clientName version verifier [] store
      now entropy) ins outs (store', .error err)) :
    ∃ outs', outs = introductionFrame crypto attest clientName version.AppVersion
        entropy.message :: outs' ∧
      ((ins = [] ∧ err = .readTransport (.readingPayload (.lengthEOF false))) ∨
        ∃ chunk ins', ins = chunk :: ins' ∧
          (Dialer.readIntroduction crypto version chunk = .error err ∨
            ∃ peer, Dialer.readIntroduction crypto version chunk = .ok peer ∧
              ((∃ reason, err = .verifyRemote reason) ∨
                ∃ inner, err = .requestHandshake inner))) := by
  unfold Dialer.handshake at ran
  rw [if_neg (fun set => set rfl), sendIntroduction_eq lawful sendable] at ran
  cases ran with
  | write ran =>
    refine ⟨_, rfl, ?_⟩
    cases ran with
    | close ran =>
      cases ran
      exact .inl ⟨rfl, rfl⟩
    | @readOrClosed _ _ chunk ins' _ _ ran =>
      refine .inr ⟨chunk, ins', rfl, ?_⟩
      rcases readOk : Dialer.readIntroduction crypto version chunk with failed | peer
      · simp only [readOk] at ran
        cases ran
        exact .inl rfl
      rcases verified : verifier store peer with ⟨storeV, reason | ⟨⟩⟩
      · simp only [readOk, verified] at ran
        cases ran
        exact .inr ⟨peer, rfl, .inl ⟨reason, rfl⟩⟩
      simp only [readOk, verified] at ran
      obtain ⟨result, -, mapped⟩ := Process.Runs.of_map ran
      rcases result with inner | t
      · cases mapped
        exact .inr ⟨peer, rfl, .inr ⟨inner, rfl⟩⟩
      · cases mapped

end Sides

/-! ### The introduction between the two sides -/

section Session

variable {crypto env}

/-- **A cold session is an introduction, then the handshake between the keys introduced.**
Whatever the interleaving, when a dialer's cold handshake and a server's `serve` have both
succeeded, each side accepted the other's version and its verifier accepted the other's true
identity (its name, the public key of its signing key and its version), and what is left of the
two runs is a run of `requestHandshake` and one of `acceptHandshake` between serdes that trust
each other's real keys, on the same channels. Each side ends with the store its verifier left,
with the new tokens saved only where that store already holds the session's record: on a cold
session, whose record the application creates afterwards, nothing is saved. -/
theorem cold_session_refines_introduction (lawful : crypto.Lawful)
    {attestD nameD attestS nameS : Bytes} {versionD versionS : LocalVersion}
    {verifierD verifierS : RemoteVerifier} {storeD storeS : Store} {nowD nowS : Nat}
    {resumeEnabled : Bool} {entropyD entropyS : ResumeEntropy}
    (sendableD : (⟨nameD, crypto.publicKey attestD, versionD.AppVersion⟩ : Introduce).Sendable)
    (sendableS : (⟨nameS, crypto.publicKey attestS, versionS.AppVersion⟩ : Introduce).Sendable)
    {final : Network Bytes (Store × Except DialError Transport) (Store × Except ServeError Unit)}
    (reached : Network.Reaches
      ⟨Dialer.handshake crypto env attestD nameD versionD verifierD [] storeD nowD entropyD,
        Server.serve crypto env attestS nameS versionS verifierS resumeEnabled storeS nowS
          entropyS, [], []⟩ final)
    {storeD' storeS' : Store} {t : Transport} (dialerDone : final.left = .done (storeD', .ok t))
    (serverDone : final.right = .done (storeS', .ok ())) :
    checkVersion versionD.localSemver versionS.AppVersion = .ok () ∧
      checkVersion versionS.localSemver versionD.AppVersion = .ok () ∧
      ∃ storeDV storeSV insD outsD insS outsS tS,
        verifierD storeD ⟨nameS, crypto.publicKey attestS, versionS.AppVersion⟩ =
          (storeDV, .ok ()) ∧
        verifierS storeS ⟨nameD, crypto.publicKey attestD, versionD.AppVersion⟩ =
          (storeSV, .ok ()) ∧
        Process.Runs (requestHandshake crypto ⟨attestD, crypto.publicKey attestS⟩ []
          entropyD.handshake) insD outsD (.ok t) ∧
        Process.Runs (acceptHandshake crypto ⟨attestS, crypto.publicKey attestD⟩ []
          entropyS.handshake) insS outsS (.ok tS) ∧
        outsD = insS ++ final.toRight ∧ outsS = insD ++ final.toLeft ∧
        (storeDV.HasSession t.sessionID →
          storeD'.item (metaPath t.sessionID) ResumptionTokensKey =
            some (serializeList (t.deriveResumptionTokens crypto))) ∧
        (¬storeDV.HasSession t.sessionID → storeD' = storeDV) ∧
        (storeSV.HasSession tS.sessionID →
          storeS'.item (metaPath tS.sessionID) ResumptionTokensKey =
            some (serializeList (tS.deriveResumptionTokens crypto))) ∧
        (¬storeSV.HasSession tS.sessionID → storeS' = storeSV) := by
  obtain ⟨insL, outsL, insR, outsR, ranD, ranS, toRight, toLeft⟩ :=
    Network.runs_of_reaches reached dialerDone serverDone
  obtain ⟨chunkD, insD, outsD, peerS, storeDV, rfl, rfl, readD, verifiedD, handshakeD, rfl⟩ :=
    Dialer.handshake_runs lawful sendableD ranD
  -- the server read first, and what it read is the dialer's introduction
  rcases Process.Trace.of_read ranS.trace with ⟨-, -, stillReading⟩ | ⟨chunkS, insS, rfl, -⟩
  · cases stillReading
  obtain ⟨rfl, restRight⟩ := List.cons.inj toRight
  obtain ⟨stD, readS, routedS, receivedS⟩ :=
    introductionFrame_readBack lawful sendableD entropyD.message
  obtain ⟨tS, handledS⟩ := Server.serve_runs_identity readS routedS ranS
  obtain ⟨storeSV, outsS, acceptedS, verifiedS, rfl, handshakeS, rfl⟩ :=
    Server.handleNewConnection_runs lawful sendableS receivedS handledS
  -- and what the dialer read is the server's introduction, whose version it accepts in turn
  obtain ⟨rfl, restLeft⟩ := List.cons.inj toLeft
  have acceptedD := (LocalVersion.accepts_symm versionS versionD).mp acceptedS
  rw [Dialer.readIntroduction_of_accepted lawful versionD sendableS entropyS.message acceptedD]
    at readD
  cases readD
  exact ⟨acceptedD, acceptedS, storeDV, storeSV, insD, outsD, insS, outsS, tS, verifiedD,
    verifiedS, handshakeD, handshakeS, restRight, restLeft, saveResumptionTokens_present,
    saveResumptionTokens_absent, saveResumptionTokens_present, saveResumptionTokens_absent⟩

/-- **A server introduces itself only to a peer it has accepted.** However far it has got, a
server whose first frame was an identity transport and that has written anything has taken that
introduction as signed by the key it carries, accepted its version, and had its verifier accept
the peer; and the first thing it wrote is its own introduction. -/
theorem server_introduces_itself_only_to_accepted_peers (lawful : crypto.Lawful)
    {attest serverName : Bytes} {version : LocalVersion} {verifier : RemoteVerifier}
    {resumeEnabled : Bool} {store : Store} {now : Nat} {entropy : ResumeEntropy}
    (sendable : (⟨serverName, crypto.publicKey attest, version.AppVersion⟩ : Introduce).Sendable)
    {chunk : Bytes} {st : SignedTransport} (read : readSignedTransport chunk = .ok st)
    (routed : routeFromST st = some .identity) {ins outs : List Bytes}
    {current : Process Bytes (Store × Except ServeError Unit)}
    (traced : Process.Trace (Server.serve crypto env attest serverName version verifier
      resumeEnabled store now entropy) (chunk :: ins) outs current)
    (wrote : outs ≠ []) :
    ∃ (peer : RemotePeer) (storeV : Store) (outs' : List Bytes),
      introduceCodec.unmarshal st.data = some ⟨peer.Name, peer.PublicKey, peer.AppVersion⟩ ∧
      crypto.verify peer.PublicKey (signingInput st.metadata st.data) st.signature = true ∧
      checkVersion version.localSemver peer.AppVersion = .ok () ∧
      verifier store peer = (storeV, .ok ()) ∧
      outs = introductionFrame crypto attest serverName version.AppVersion entropy.message ::
        outs' := by
  obtain ⟨peer, storeV, outs', received, accepted, verified, rfl⟩ :=
    Server.handleNewConnection_trace lawful sendable
      (Server.serve_trace_identity read routed traced) wrote
  obtain ⟨-, unmarshalled, signed⟩ := receiveIntroduction_eq_ok received
  exact ⟨peer, storeV, outs', unmarshalled, signed, accepted, verified, rfl⟩

end Session

/-- A dialer and a server with the plain primitives, the repository's version, verifiers that
accept everyone and zero entropy complete a cold session on the left-first schedule. -/
theorem cold_session_refines_introduction_plain :
    ∃ final storeD' storeS' t,
      Network.Reaches
        ⟨Dialer.handshake Primitives.plain StorageEnv.plain [] [1] AppVersion
            (fun store _ => (store, .ok ())) [] Store.initial 0
            ⟨Entropy.zeros, HandshakeEntropy.zeros⟩,
          Server.serve Primitives.plain StorageEnv.plain [] [2] AppVersion
            (fun store _ => (store, .ok ())) true Store.initial 0
            ⟨Entropy.zeros, HandshakeEntropy.zeros⟩, [], []⟩ final ∧
      final.left = .done (storeD', .ok t) ∧ final.right = .done (storeS', .ok ()) ∧
      (checkVersion AppVersion.localSemver AppVersion.AppVersion = .ok () ∧
        checkVersion AppVersion.localSemver AppVersion.AppVersion = .ok () ∧
        ∃ storeDV storeSV insD outsD insS outsS tS,
          (Store.initial, (.ok () : Except Bytes Unit)) = (storeDV, .ok ()) ∧
          (Store.initial, (.ok () : Except Bytes Unit)) = (storeSV, .ok ()) ∧
          Process.Runs (requestHandshake Primitives.plain ⟨[], Primitives.plain.publicKey []⟩ []
            HandshakeEntropy.zeros) insD outsD (.ok t) ∧
          Process.Runs (acceptHandshake Primitives.plain ⟨[], Primitives.plain.publicKey []⟩ []
            HandshakeEntropy.zeros) insS outsS (.ok tS) ∧
          outsD = insS ++ final.toRight ∧ outsS = insD ++ final.toLeft ∧
          (storeDV.HasSession t.sessionID →
            storeD'.item (metaPath t.sessionID) ResumptionTokensKey =
              some (serializeList (t.deriveResumptionTokens Primitives.plain))) ∧
          (¬storeDV.HasSession t.sessionID → storeD' = storeDV) ∧
          (storeSV.HasSession tS.sessionID →
            storeS'.item (metaPath tS.sessionID) ResumptionTokensKey =
              some (serializeList (tS.deriveResumptionTokens Primitives.plain))) ∧
          (¬storeSV.HasSession tS.sessionID → storeS' = storeSV)) := by
  have reached := Network.reaches_runFor 20
    ⟨Dialer.handshake Primitives.plain StorageEnv.plain [] [1] AppVersion
        (fun store _ => (store, .ok ())) [] Store.initial 0
        ⟨Entropy.zeros, HandshakeEntropy.zeros⟩,
      Server.serve Primitives.plain StorageEnv.plain [] [2] AppVersion
        (fun store _ => (store, .ok ())) true Store.initial 0
        ⟨Entropy.zeros, HandshakeEntropy.zeros⟩, [], []⟩
  -- only the results are evaluated: the stores are functions
  have dialerEnded : ((Network.runFor 20
      ⟨Dialer.handshake Primitives.plain StorageEnv.plain [] [1] AppVersion
          (fun store _ => (store, .ok ())) [] Store.initial 0
          ⟨Entropy.zeros, HandshakeEntropy.zeros⟩,
        Server.serve Primitives.plain StorageEnv.plain [] [2] AppVersion
          (fun store _ => (store, .ok ())) true Store.initial 0
          ⟨Entropy.zeros, HandshakeEntropy.zeros⟩, [], []⟩).left.outcome.map
      fun result => result.2.isOk) = some true := by
    decide +kernel
  have serverEnded : ((Network.runFor 20
      ⟨Dialer.handshake Primitives.plain StorageEnv.plain [] [1] AppVersion
          (fun store _ => (store, .ok ())) [] Store.initial 0
          ⟨Entropy.zeros, HandshakeEntropy.zeros⟩,
        Server.serve Primitives.plain StorageEnv.plain [] [2] AppVersion
          (fun store _ => (store, .ok ())) true Store.initial 0
          ⟨Entropy.zeros, HandshakeEntropy.zeros⟩, [], []⟩).right.outcome.map Prod.snd) =
      some (.ok ()) := by
    decide +kernel
  obtain ⟨⟨storeD', resultD⟩, succeeded, dialerDone⟩ :=
    Process.exists_done_of_outcome_map dialerEnded
  rcases resultD with err | t
  · cases succeeded
  obtain ⟨⟨storeS', resultS⟩, rfl, serverDone⟩ :=
    Process.exists_done_of_outcome_map serverEnded
  exact ⟨_, storeD', storeS', t, reached, dialerDone, serverDone,
    cold_session_refines_introduction Primitives.plain_lawful (by decide) (by decide) reached
      dialerDone serverDone⟩

/-- A server fed a dialer's introduction answers with its own. -/
theorem server_introduces_itself_only_to_accepted_peers_plain :
    ∃ st ins outs current,
      readSignedTransport (introductionFrame Primitives.plain [] [1] AppVersion.AppVersion
        Entropy.zeros) = .ok st ∧ routeFromST st = some .identity ∧
      Process.Trace (Server.serve Primitives.plain StorageEnv.plain [] [2] AppVersion
          (fun store _ => (store, .ok ())) true Store.initial 0
          ⟨Entropy.zeros, HandshakeEntropy.zeros⟩)
        (introductionFrame Primitives.plain [] [1] AppVersion.AppVersion Entropy.zeros :: ins)
        outs current ∧ outs ≠ [] ∧
      ∃ (peer : RemotePeer) (storeV : Store) (outs' : List Bytes),
        introduceCodec.unmarshal st.data = some ⟨peer.Name, peer.PublicKey, peer.AppVersion⟩ ∧
        Primitives.plain.verify peer.PublicKey (signingInput st.metadata st.data) st.signature =
          true ∧
        checkVersion AppVersion.localSemver peer.AppVersion = .ok () ∧
        (Store.initial, (.ok () : Except Bytes Unit)) = (storeV, .ok ()) ∧
        outs = introductionFrame Primitives.plain [] [2] AppVersion.AppVersion Entropy.zeros ::
          outs' := by
  obtain ⟨st, read, routed, -⟩ :=
    introductionFrame_readBack Primitives.plain_lawful
      (by decide : (⟨[1], Primitives.plain.publicKey [], AppVersion.AppVersion⟩ :
        Introduce).Sendable) Entropy.zeros
  have traced := Process.trace_feed 2 (Server.serve Primitives.plain StorageEnv.plain [] [2]
    AppVersion (fun store _ => (store, .ok ())) true Store.initial 0
    ⟨Entropy.zeros, HandshakeEntropy.zeros⟩)
    [introductionFrame Primitives.plain [] [1] AppVersion.AppVersion Entropy.zeros]
  have taken : (Process.feed 2 (Server.serve Primitives.plain StorageEnv.plain [] [2]
      AppVersion (fun store _ => (store, .ok ())) true Store.initial 0
      ⟨Entropy.zeros, HandshakeEntropy.zeros⟩)
      [introductionFrame Primitives.plain [] [1] AppVersion.AppVersion Entropy.zeros]).1 =
      [introductionFrame Primitives.plain [] [1] AppVersion.AppVersion Entropy.zeros] := by
    decide +kernel
  have wrote : (Process.feed 2 (Server.serve Primitives.plain StorageEnv.plain [] [2]
      AppVersion (fun store _ => (store, .ok ())) true Store.initial 0
      ⟨Entropy.zeros, HandshakeEntropy.zeros⟩)
      [introductionFrame Primitives.plain [] [1] AppVersion.AppVersion Entropy.zeros]).2.1 ≠
        [] := by
    decide +kernel
  rw [taken] at traced
  exact ⟨st, [], _, _, read, routed, traced, wrote,
    server_introduces_itself_only_to_accepted_peers Primitives.plain_lawful (by decide) read
      routed traced wrote⟩

end Kamune
