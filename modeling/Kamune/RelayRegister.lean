/-
**Registration at the relay (`pkg/relayconn/listener.go`, `dial.go`, `auth.go`,
`cmd/relay/internal/handlers/ws_handler.go`).**

After the HPKE exchange, a peer registers on the relay over the new `exchange.Channel`. With a
pre-shared key it first sends `Auth{Psk}` and waits for an `Auth` back. A listener then sends
`Register{MODE_CREATE, token}` (an empty token asks the relay to draw one) and a dialer
`Register{MODE_JOIN, token}`; each waits for `Registered{token, ttl, session_ttl}`. The relay's
`handleRelayConn` reads the first frame, checks the key when it has one, reads the `Register`,
registers the channel with the hub and answers `Registered`.

The messages are those of the channel, whose delivery `exchange_delivers` covers: a `Process`
writes and reads plaintext frames. The hub's answers are a parameter (`HubRegistrar`); the session
table behind them is modelled in `RelaySessions`.

* `unmarshalFrame_registerFrame`, `unmarshalFrame_registeredFrame`: the frames the two sides write
  unmarshal to what they carry;
* `readRegistration_runs`: what the relay accepted, on either side of its key check;
* `relay_registration_agreement`: whatever the interleaving, when a listener and the relay both
  complete, they used the same key, the relay registered the listener's `Register` request, and
  the listener holds the nonempty token the relay sent, its own when it gave one;
* `relay_join_agreement`: the same for a dialer, who always learns a token TTL of `0`.
-/

import Kamune.RelayForward

namespace Kamune

open Wire Dialogue

/-! ### The frames of registration -/

/-- The `Register.Mode` of `MODE_CREATE`. -/
def modeCreate : Nat := 1

/-- The `Register.Mode` of `MODE_JOIN`. -/
def modeJoin : Nat := 2

/-- `proto.Marshal(&pb.Frame{Kind: &pb.Frame_Auth{Auth: &pb.Auth{Psk: psk}}})`. -/
def authFrame (psk : Bytes) : Bytes := encodeFields (messageField 6 (some (bytesField 1 psk)))

/-- `proto.Marshal(&pb.Frame{Kind: &pb.Frame_Register{Register: &pb.Register{Mode, Token}}})`. -/
def registerFrame (mode : Nat) (token : Bytes) : Bytes :=
  encodeFields (messageField 1 (some (bytesField 1 token ++ varintField 2 mode)))

/-- `proto.Marshal` of a `Registered` frame. -/
def registeredFrame (token : Bytes) (ttlSeconds sessionTTLSeconds : UInt32) : Bytes :=
  encodeFields (messageField 2 (some (bytesField 1 token ++ varintField 2 ttlSeconds.toNat ++
    varintField 3 sessionTTLSeconds.toNat)))

/-- The fields of the member `kind` of a frame, when it is `member`; `frame.GetX()` is `nil`
otherwise, and every getter of `nil` gives the zero value. -/
def memberFields (member : FrameKind) : Option (FrameKind × List Field) → List Field
  | some (kind, fields) => if kind = member then fields else []
  | none => []

/-! ### The relay's side -/

/-- Why `handleRelayConn` closes the channel before `ReadPump`, by its log lines. -/
inductive RegistrationError where
  /-- A frame that does not unmarshal. -/
  | unmarshal
  /-- An `Auth` frame on a relay without a password. -/
  | unexpectedAuth
  /-- `"relay: auth failed"`. -/
  | authFailed
  /-- `"relay: missing auth frame"`. -/
  | missingAuth
  /-- A frame that is no `Register`. -/
  | notRegister
  /-- `"relay: register listener"`, `"relay: register listener with token"` or
  `"relay: register dialer"`. -/
  | registering (err : SessionError)
  /-- `"relay: join without token"`. -/
  | joinWithoutToken
  /-- `"relay: unspecified register mode"`. -/
  | unspecifiedMode
  deriving DecidableEq, Repr

/-- The request of a `Register` frame: `GetMode()` as an `int32`, and `GetToken()`. -/
def registerRequest (fields : List Field) : Register :=
  let mode := (UInt64.ofNat (lastVarint 2 fields)).toInt64.toInt32
  if mode = 1 then .create (lastBytes 1 fields)
  else if mode = 2 then .join (lastBytes 1 fields)
  else .unspecified

/-- `frame.GetRegister()`, which must be set. -/
def readRegister (frame : Option (FrameKind × List Field)) :
    Process Bytes (Except RegistrationError Register) :=
  match frame with
  | some (.register, fields) => .done (.ok (registerRequest fields))
  | _ => .done (.error .notRegister)

/-- The frames `handleRelayConn` reads up to its `Register` request. An `Auth` frame comes first
exactly when the relay has a password, whose key it checks and acknowledges; the next frame is
read into the same `pb.Frame`, which `proto.Unmarshal` resets. -/
def readRegistration (password : Bytes) : Process Bytes (Except RegistrationError Register) :=
  Process.seq Process.receive fun frameBytes =>
  Process.attemptSome (unmarshalFrame frameBytes) .unmarshal fun frame =>
  match frame with
  | some (.auth, fields) =>
    if password = [] then .done (.error .unexpectedAuth)
    else if lastBytes 1 fields ≠ password then .done (.error .authFailed)
    else
      Process.seq (Process.send (authFrame [])) fun () =>
      Process.seq Process.receive fun frameBytes =>
      Process.attemptSome (unmarshalFrame frameBytes) .unmarshal readRegister
  | _ => if password ≠ [] then .done (.error .missingAuth) else readRegister frame

/-- What `handleRelayConn` asks of the hub, with the hub's answers: `RegisterListener` draws a
token, `RegisterListenerWith` and `RegisterDialer` take the peer's. -/
structure HubRegistrar where
  RegisterListener : Except SessionError Bytes
  RegisterListenerWith : Bytes → Except SessionError Unit
  RegisterDialer : Bytes → Except SessionError Unit

/-- The registration of `handleRelayConn` up to `ReadPump`: the request it read and the token it
sent back, which `ReadPump` then runs under. A listener learns the hub's token TTL, a dialer `0`. -/
def handleRelayConn (password : Bytes) (hub : HubRegistrar)
    (ttlSeconds sessionTTLSeconds : UInt32) : Process Bytes (Except RegistrationError (Register × Bytes)) :=
  Process.seq (readRegistration password) fun request =>
  let reply (sentToken : Bytes) (ttl : UInt32) :
      Process Bytes (Except RegistrationError (Register × Bytes)) :=
    Process.seq (Process.send (registeredFrame sentToken ttl sessionTTLSeconds)) fun () =>
    .done (.ok (request, sentToken))
  match request with
  | .create token =>
    if token = [] then
      Process.attempt (hub.RegisterListener.mapError .registering) fun sentToken =>
      reply sentToken ttlSeconds
    else
      Process.attempt ((hub.RegisterListenerWith token).mapError .registering) fun () =>
      reply token ttlSeconds
  | .join token =>
    if token = [] then .done (.error .joinWithoutToken)
    else
      Process.attempt ((hub.RegisterDialer token).mapError .registering) fun () =>
      reply token 0
  | .unspecified => .done (.error .unspecifiedMode)

/-! ### The peers' side -/

/-- The errors of `sendAuth`. -/
inductive AuthError where
  /-- `"unmarshal auth response: %w"`. -/
  | unmarshalAuthResponse
  /-- `"unexpected auth response: %T"`. -/
  | unexpectedAuthResponse
  deriving DecidableEq, Repr

/-- `sendAuth`: the key, then an `Auth` frame back. -/
def sendAuth (password : Bytes) : Process Bytes (Except AuthError Unit) :=
  Process.seq (Process.send (authFrame password)) fun () =>
  Process.seq Process.receive fun response =>
  Process.attemptSome (unmarshalFrame response) .unmarshalAuthResponse fun frame =>
  match frame with
  | some (.auth, _) => .done (.ok ())
  | _ => .done (.error .unexpectedAuthResponse)

/-- The errors of `listenHandshake` and `relayHandshake` after the exchange. -/
inductive RelayHandshakeError where
  | auth (err : AuthError)
  /-- `"unmarshal registered: %w"`. -/
  | unmarshalRegistered
  /-- `"relay returned empty token"`. -/
  | emptyToken
  /-- `"unexpected frame: expected registered, got %T"`. -/
  | unexpectedFrame
  deriving DecidableEq, Repr

/-- `ListenResult` without its listener: the token, and the TTLs in seconds. -/
structure ListenResult where
  Token : Bytes
  TTL : UInt32
  SessionTTL : UInt32
  deriving DecidableEq, Repr

/-- The key check of both peers: `sendAuth` when there is a password. -/
def authenticate (password : Bytes) : Process Bytes (Except RelayHandshakeError Unit) :=
  if password = [] then .done (.ok ()) else (sendAuth password).map (Except.mapError .auth)

/-- `listenHandshake` after the exchange: `Register{MODE_CREATE, token}`, then a `Registered`
whose token must not be `nil`. A frame of another kind reads as a `nil` token. -/
def listenHandshake (password token : Bytes) :
    Process Bytes (Except RelayHandshakeError ListenResult) :=
  Process.seq (authenticate password) fun () =>
  Process.seq (Process.send (registerFrame modeCreate token)) fun () =>
  Process.seq Process.receive fun relayBytes =>
  Process.attemptSome (unmarshalFrame relayBytes) .unmarshalRegistered fun frame =>
  let registered := memberFields .registered frame
  if lastBytes 1 registered = [] then .done (.error .emptyToken)
  else
    .done (.ok ⟨lastBytes 1 registered, UInt32.ofNat (lastVarint 2 registered),
      UInt32.ofNat (lastVarint 3 registered)⟩)

/-- `relayHandshake` after the exchange: `Register{MODE_JOIN, token}`, then a frame that must be
a `Registered`, whose TTLs the `RelayConn` keeps. -/
def relayHandshake (password token : Bytes) :
    Process Bytes (Except RelayHandshakeError (UInt32 × UInt32)) :=
  Process.seq (authenticate password) fun () =>
  Process.seq (Process.send (registerFrame modeJoin token)) fun () =>
  Process.seq Process.receive fun relayBytes =>
  Process.attemptSome (unmarshalFrame relayBytes) .unmarshalRegistered fun frame =>
  match frame with
  | some (.registered, registered) =>
    .done (.ok (UInt32.ofNat (lastVarint 2 registered), UInt32.ofNat (lastVarint 3 registered)))
  | _ => .done (.error .unexpectedFrame)

/-! ### The frames read back -/

theorem length_encodeFields_bytesField_le {number : Nat} (low : number < 16) {payload : Bytes}
    (short : payload.length ≤ maxUint16) :
    (encodeFields (bytesField number payload)).length ≤ maxUint16 + 11 := by
  unfold maxUint16 at short ⊢
  have bound : (uvarint payload.length).length ≤ 10 := length_uvarint_le_ten (by omega)
  rw [length_encodeFields_bytesField low]
  split <;> omega

theorem length_encodeFields_varintField_le {number : Nat} (low : number < 16) {value : Nat}
    (small : value < 2 ^ 64) : (encodeFields (varintField number value)).length ≤ 11 := by
  have bound := length_uvarint_le_ten small
  rw [length_encodeFields_varintField low]
  split <;> omega

theorem unmarshalFrame_authFrame {psk : Bytes} (short : psk.length ≤ maxUint16) :
    unmarshalFrame (authFrame psk) = some (some (.auth, bytesField 1 psk)) := by
  have bound := length_encodeFields_bytesField_le (by norm_num : 1 < 16) short
  unfold maxUint16 at short bound
  exact unmarshalFrame_messageField rfl
    (bytesField_wellFormed (by norm_num) (by norm_num) (by omega)) (by omega)

theorem unmarshalFrame_registerFrame {mode : Nat} (small : mode < 2 ^ 64) {token : Bytes}
    (short : token.length ≤ maxUint16) :
    unmarshalFrame (registerFrame mode token) =
      some (some (.register, bytesField 1 token ++ varintField 2 mode)) := by
  have tokenBound := length_encodeFields_bytesField_le (by norm_num : 1 < 16) short
  have modeBound := length_encodeFields_varintField_le (by norm_num : 2 < 16) small
  unfold maxUint16 at short tokenBound
  refine unmarshalFrame_messageField rfl (fun field member => ?_) ?_
  · rcases List.mem_append.mp member with inToken | inMode
    · exact bytesField_wellFormed (by norm_num) (by norm_num) (by omega) field inToken
    · exact varintField_wellFormed (by norm_num) (by norm_num) small field inMode
  · rw [encodeFields_append, List.length_append]
    omega

theorem unmarshalFrame_registeredFrame {token : Bytes} (short : token.length ≤ maxUint16)
    (ttlSeconds sessionTTLSeconds : UInt32) :
    unmarshalFrame (registeredFrame token ttlSeconds sessionTTLSeconds) =
      some (some (.registered, bytesField 1 token ++ varintField 2 ttlSeconds.toNat ++
        varintField 3 sessionTTLSeconds.toNat)) := by
  have ttlSmall : ttlSeconds.toNat < 2 ^ 64 := ttlSeconds.toNat_lt.trans (by norm_num)
  have sessionSmall : sessionTTLSeconds.toNat < 2 ^ 64 :=
    sessionTTLSeconds.toNat_lt.trans (by norm_num)
  have tokenBound := length_encodeFields_bytesField_le (by norm_num : 1 < 16) short
  have ttlBound := length_encodeFields_varintField_le (by norm_num : 2 < 16) ttlSmall
  have sessionBound := length_encodeFields_varintField_le (by norm_num : 3 < 16) sessionSmall
  unfold maxUint16 at short tokenBound
  refine unmarshalFrame_messageField rfl (fun field member => ?_) ?_
  · simp only [List.mem_append] at member
    rcases member with (inToken | inTTL) | inSession
    · exact bytesField_wellFormed (by norm_num) (by norm_num) (by omega) field inToken
    · exact varintField_wellFormed (by norm_num) (by norm_num) ttlSmall field inTTL
    · exact varintField_wellFormed (by norm_num) (by norm_num) sessionSmall field inSession
  · simp only [encodeFields_append, List.length_append]
    omega

@[simp] theorem registerRequest_create (token : Bytes) :
    registerRequest (bytesField 1 token ++ varintField 2 modeCreate) = .create token := by
  simp [registerRequest, lastVarint_eq, lastBytes_eq, modeCreate]

@[simp] theorem registerRequest_join (token : Bytes) :
    registerRequest (bytesField 1 token ++ varintField 2 modeJoin) = .join token := by
  simp [registerRequest, lastVarint_eq, lastBytes_eq, modeJoin]

/-! ### What each side did -/

/-- What the hub answered to the request `handleRelayConn` read, and the token TTL it sent back. -/
def HubRegistrar.Answers (hub : HubRegistrar) (ttlSeconds : UInt32) :
    Register → Bytes → UInt32 → Prop
  | .create token, sentToken, ttl =>
    ttl = ttlSeconds ∧ if token = [] then hub.RegisterListener = .ok sentToken
      else sentToken = token ∧ hub.RegisterListenerWith token = .ok ()
  | .join token, sentToken, ttl =>
    ttl = 0 ∧ token ≠ [] ∧ sentToken = token ∧ hub.RegisterDialer token = .ok ()
  | .unspecified, _, _ => False

section Runs

variable {ins outs : List Bytes}

theorem Process.Runs.of_send_done {ε α : Type} {message : Bytes} {value result : α}
    (ran : Process.Runs (Process.seq (Process.send message) fun () => .done (.ok value) :
      Process Bytes (Except ε α)) ins outs (.ok result)) :
    ins = [] ∧ outs = [message] ∧ result = value := by
  obtain ⟨_, ins₁, ins₂, outs₁, outs₂, sent, finished, rfl, rfl⟩ := Process.Runs.of_seq ran
  obtain ⟨rfl, rfl, -⟩ := Process.Runs.of_send sent
  obtain ⟨rfl, rfl, ended⟩ := Process.Runs.of_done finished
  cases ended
  exact ⟨rfl, rfl, rfl⟩

theorem readRegister_runs {frame : Option (FrameKind × List Field)} {request : Register}
    (ran : Process.Runs (readRegister frame) ins outs (.ok request)) :
    ins = [] ∧ outs = [] ∧ ∃ fields, frame = some (.register, fields) ∧
      request = registerRequest fields := by
  unfold readRegister at ran
  split at ran
  case h_1 fields =>
    obtain ⟨rfl, rfl, ended⟩ := Process.Runs.of_done ran
    cases ended
    exact ⟨rfl, rfl, fields, rfl, rfl⟩
  case h_2 => cases (Process.Runs.of_done ran).2.2

/-- **What the relay accepted.** Without a password it read one frame, a `Register`; with one it
read an `Auth` that carries the password, acknowledged it, and read a `Register`. -/
theorem readRegistration_runs {password : Bytes} {request : Register}
    (ran : Process.Runs (readRegistration password) ins outs (.ok request)) :
    (password = [] ∧ ∃ frameBytes fields, ins = [frameBytes] ∧ outs = [] ∧
      unmarshalFrame frameBytes = some (some (.register, fields)) ∧
      request = registerRequest fields) ∨
    (password ≠ [] ∧ ∃ authBytes authFields frameBytes fields, ins = [authBytes, frameBytes] ∧
      outs = [authFrame []] ∧ unmarshalFrame authBytes = some (some (.auth, authFields)) ∧
      lastBytes 1 authFields = password ∧
      unmarshalFrame frameBytes = some (some (.register, fields)) ∧
      request = registerRequest fields) := by
  unfold readRegistration at ran
  obtain ⟨firstBytes, ins₁, ins₂, outs₁, outs₂, received, afterReceive, rfl, rfl⟩ :=
    Process.Runs.of_seq ran
  obtain ⟨message, rfl, rfl, ended⟩ := Process.Runs.of_receive received
  obtain rfl := Except.ok.inj ended
  obtain ⟨frame, parsed, afterParse⟩ := Process.Runs.of_attemptSome afterReceive
  split at afterParse
  case h_1 authFields =>
    split at afterParse
    case isTrue => cases (Process.Runs.of_done afterParse).2.2
    case isFalse hasPassword =>
      split at afterParse
      case isTrue => cases (Process.Runs.of_done afterParse).2.2
      case isFalse matching =>
        -- the key matched: the relay acknowledges it and reads the `Register`
        obtain ⟨_, ins₃, ins₄, outs₃, outs₄, sent, afterSend, rfl, rfl⟩ :=
          Process.Runs.of_seq afterParse
        obtain ⟨rfl, rfl, -⟩ := Process.Runs.of_send sent
        obtain ⟨secondBytes, ins₅, ins₆, outs₅, outs₆, received', afterReceive', rfl, rfl⟩ :=
          Process.Runs.of_seq afterSend
        obtain ⟨message', rfl, rfl, ended'⟩ := Process.Runs.of_receive received'
        obtain rfl := Except.ok.inj ended'
        obtain ⟨frame', parsed', registered⟩ := Process.Runs.of_attemptSome afterReceive'
        obtain ⟨rfl, rfl, fields, rfl, rfl⟩ := readRegister_runs registered
        exact .inr ⟨hasPassword, firstBytes, authFields, secondBytes, fields, rfl, rfl, parsed,
          not_not.mp matching, parsed', rfl⟩
  case h_2 notAuth =>
    split at afterParse
    case isTrue => cases (Process.Runs.of_done afterParse).2.2
    case isFalse noPassword =>
      obtain ⟨rfl, rfl, fields, rfl, rfl⟩ := readRegister_runs afterParse
      exact .inl ⟨not_not.mp noPassword, firstBytes, fields, rfl, rfl, parsed, rfl⟩

/-- What `handleRelayConn` did when it reached `ReadPump`: it read its request, the hub answered
it, and it wrote one `Registered` frame. -/
theorem handleRelayConn_runs {password : Bytes} {hub : HubRegistrar}
    {ttlSeconds sessionTTLSeconds : UInt32} {request : Register} {sentToken : Bytes}
    (ran : Process.Runs (handleRelayConn password hub ttlSeconds sessionTTLSeconds) ins outs
      (.ok (request, sentToken))) :
    ∃ readOuts ttl, Process.Runs (readRegistration password) ins readOuts (.ok request) ∧
      outs = readOuts ++ [registeredFrame sentToken ttl sessionTTLSeconds] ∧
      hub.Answers ttlSeconds request sentToken ttl := by
  unfold handleRelayConn at ran
  obtain ⟨read, ins₁, ins₂, outs₁, outs₂, readRan, afterRead, rfl, rfl⟩ := Process.Runs.of_seq ran
  cases read with
  | create token =>
    dsimp only at afterRead
    split at afterRead
    case isTrue empty =>
      obtain ⟨drawn, drew, replied⟩ := Process.Runs.of_attempt afterRead
      obtain ⟨rfl, rfl, ended⟩ := Process.Runs.of_send_done replied
      cases ended
      refine ⟨outs₁, ttlSeconds, by simpa using readRan, rfl, rfl, ?_⟩
      simpa [empty] using drew
    case isFalse given =>
      obtain ⟨_, registered, replied⟩ := Process.Runs.of_attempt afterRead
      obtain ⟨rfl, rfl, ended⟩ := Process.Runs.of_send_done replied
      cases ended
      refine ⟨outs₁, ttlSeconds, by simpa using readRan, rfl, rfl, ?_⟩
      simpa [given] using registered
  | join token =>
    dsimp only at afterRead
    split at afterRead
    case isTrue => cases (Process.Runs.of_done afterRead).2.2
    case isFalse given =>
      obtain ⟨_, joined, replied⟩ := Process.Runs.of_attempt afterRead
      obtain ⟨rfl, rfl, ended⟩ := Process.Runs.of_send_done replied
      cases ended
      exact ⟨outs₁, 0, by simpa using readRan, rfl, rfl, given, rfl, by simpa using joined⟩
  | unspecified => cases (Process.Runs.of_done afterRead).2.2

theorem authenticate_runs {password : Bytes}
    (ran : Process.Runs (authenticate password) ins outs (.ok ())) :
    (password = [] ∧ ins = [] ∧ outs = []) ∨
    (password ≠ [] ∧ ∃ response fields, ins = [response] ∧ outs = [authFrame password] ∧
      unmarshalFrame response = some (some (.auth, fields))) := by
  unfold authenticate at ran
  split at ran
  case isTrue empty =>
    obtain ⟨rfl, rfl, -⟩ := Process.Runs.of_done ran
    exact .inl ⟨empty, rfl, rfl⟩
  case isFalse given =>
    have authRan := Process.Runs.of_mapError ran
    unfold sendAuth at authRan
    obtain ⟨_, ins₁, ins₂, outs₁, outs₂, sent, afterSend, rfl, rfl⟩ := Process.Runs.of_seq authRan
    obtain ⟨rfl, rfl, -⟩ := Process.Runs.of_send sent
    obtain ⟨response, ins₃, ins₄, outs₃, outs₄, received, afterReceive, rfl, rfl⟩ :=
      Process.Runs.of_seq afterSend
    obtain ⟨message, rfl, rfl, ended⟩ := Process.Runs.of_receive received
    obtain rfl := Except.ok.inj ended
    obtain ⟨frame, parsed, checked⟩ := Process.Runs.of_attemptSome afterReceive
    split at checked
    case h_1 fields =>
      obtain ⟨rfl, rfl, -⟩ := Process.Runs.of_done checked
      exact .inr ⟨given, response, fields, rfl, rfl, parsed⟩
    case h_2 => cases (Process.Runs.of_done checked).2.2

theorem listenHandshake_runs {password token : Bytes} {result : ListenResult}
    (ran : Process.Runs (listenHandshake password token) ins outs (.ok result)) :
    ∃ authIns authOuts reply frame,
      Process.Runs (authenticate password) authIns authOuts (.ok ()) ∧ ins = authIns ++ [reply] ∧
      outs = authOuts ++ [registerFrame modeCreate token] ∧ unmarshalFrame reply = some frame ∧
      lastBytes 1 (memberFields .registered frame) ≠ [] ∧
      result = ⟨lastBytes 1 (memberFields .registered frame),
        UInt32.ofNat (lastVarint 2 (memberFields .registered frame)),
        UInt32.ofNat (lastVarint 3 (memberFields .registered frame))⟩ := by
  unfold listenHandshake at ran
  obtain ⟨_, authIns, ins₂, authOuts, outs₂, authRan, afterAuth, rfl, rfl⟩ :=
    Process.Runs.of_seq ran
  obtain ⟨_, ins₃, ins₄, outs₃, outs₄, sent, afterSend, rfl, rfl⟩ := Process.Runs.of_seq afterAuth
  obtain ⟨rfl, rfl, -⟩ := Process.Runs.of_send sent
  obtain ⟨reply, ins₅, ins₆, outs₅, outs₆, received, afterReceive, rfl, rfl⟩ :=
    Process.Runs.of_seq afterSend
  obtain ⟨message, rfl, rfl, ended⟩ := Process.Runs.of_receive received
  obtain rfl := Except.ok.inj ended
  obtain ⟨frame, parsed, checked⟩ := Process.Runs.of_attemptSome afterReceive
  dsimp only at checked
  split at checked
  case isTrue => cases (Process.Runs.of_done checked).2.2
  case isFalse nonempty =>
    obtain ⟨rfl, rfl, ended⟩ := Process.Runs.of_done checked
    cases ended
    exact ⟨authIns, authOuts, reply, frame, authRan, by simp, by simp, parsed, nonempty, rfl⟩

theorem relayHandshake_runs {password token : Bytes} {result : UInt32 × UInt32}
    (ran : Process.Runs (relayHandshake password token) ins outs (.ok result)) :
    ∃ authIns authOuts reply registered,
      Process.Runs (authenticate password) authIns authOuts (.ok ()) ∧ ins = authIns ++ [reply] ∧
      outs = authOuts ++ [registerFrame modeJoin token] ∧
      unmarshalFrame reply = some (some (.registered, registered)) ∧
      result = (UInt32.ofNat (lastVarint 2 registered), UInt32.ofNat (lastVarint 3 registered)) := by
  unfold relayHandshake at ran
  obtain ⟨_, authIns, ins₂, authOuts, outs₂, authRan, afterAuth, rfl, rfl⟩ :=
    Process.Runs.of_seq ran
  obtain ⟨_, ins₃, ins₄, outs₃, outs₄, sent, afterSend, rfl, rfl⟩ := Process.Runs.of_seq afterAuth
  obtain ⟨rfl, rfl, -⟩ := Process.Runs.of_send sent
  obtain ⟨reply, ins₅, ins₆, outs₅, outs₆, received, afterReceive, rfl, rfl⟩ :=
    Process.Runs.of_seq afterSend
  obtain ⟨message, rfl, rfl, ended⟩ := Process.Runs.of_receive received
  obtain rfl := Except.ok.inj ended
  obtain ⟨frame, parsed, checked⟩ := Process.Runs.of_attemptSome afterReceive
  split at checked
  case h_1 registered =>
    obtain ⟨rfl, rfl, ended⟩ := Process.Runs.of_done checked
    cases ended
    exact ⟨authIns, authOuts, reply, registered, authRan, by simp, by simp, parsed, rfl⟩
  case h_2 => cases (Process.Runs.of_done checked).2.2

end Runs

/-! ### Agreement -/

/-- **The key check agrees on the wire.** When a peer's frames up to its `Register` are what the
relay read, the relay accepted them only under the peer's password, read the peer's request,
and answered the key check exactly when the peer waited for an answer. -/
theorem registration_wire {password password' : Bytes} (passwordShort : password.length ≤ maxUint16)
    {mode : Nat} (modeSmall : mode < 2 ^ 64) {token : Bytes} (tokenShort : token.length ≤ maxUint16)
    {authIns authOuts relayIns relayOuts toRelay : List Bytes} {request : Register}
    (authRan : Process.Runs (authenticate password) authIns authOuts (.ok ()))
    (readRan : Process.Runs (readRegistration password') relayIns relayOuts (.ok request))
    (wire : authOuts ++ [registerFrame mode token] = relayIns ++ toRelay) :
    password = password' ∧ request = registerRequest (bytesField 1 token ++ varintField 2 mode) ∧
      toRelay = [] ∧ relayOuts.length = authIns.length := by
  have registerParsed := unmarshalFrame_registerFrame modeSmall tokenShort
  rcases authenticate_runs authRan with ⟨noPassword, rfl, rfl⟩ |
      ⟨hasPassword, response, authFields, rfl, rfl, -⟩ <;>
    rcases readRegistration_runs readRan with
      ⟨noPassword', frameBytes, fields, rfl, rfl, parsed, rfl⟩ |
      ⟨hasPassword', authBytes, authFields', frameBytes, fields, rfl, rfl, authParsed, keyMatches,
        parsed, rfl⟩
  case inl.inl =>
    obtain ⟨rfl, rfl⟩ : registerFrame mode token = frameBytes ∧ [] = toRelay := by simpa using wire
    rw [registerParsed, Option.some.injEq, Option.some.injEq, Prod.mk.injEq] at parsed
    exact ⟨noPassword.trans noPassword'.symm, by rw [parsed.2], rfl, rfl⟩
  case inl.inr => simp at wire
  case inr.inl =>
    -- a relay without a password reads the peer's `Auth` as its `Register`
    obtain ⟨rfl, -⟩ : authFrame password = frameBytes ∧ _ := by simpa using wire
    rw [unmarshalFrame_authFrame passwordShort] at parsed
    simp at parsed
  case inr.inr =>
    obtain ⟨rfl, rfl, rfl⟩ : authFrame password = authBytes ∧ registerFrame mode token = frameBytes ∧
        [] = toRelay := by simpa using wire
    rw [unmarshalFrame_authFrame passwordShort, Option.some.injEq, Option.some.injEq,
      Prod.mk.injEq] at authParsed
    rw [registerParsed, Option.some.injEq, Option.some.injEq, Prod.mk.injEq] at parsed
    rw [← authParsed.2, lastBytes_bytesField_self] at keyMatches
    exact ⟨keyMatches, by rw [parsed.2], rfl, rfl⟩

/-- What a peer reads from the relay's `Registered` frame: the token and the two TTLs. -/
theorem registeredFrame_readBack {token : Bytes} (short : token.length ≤ maxUint16)
    {ttlSeconds sessionTTLSeconds : UInt32} {frame : Option (FrameKind × List Field)}
    (parsed : unmarshalFrame (registeredFrame token ttlSeconds sessionTTLSeconds) = some frame) :
    frame = some (.registered, memberFields .registered frame) ∧
      lastBytes 1 (memberFields .registered frame) = token ∧
      UInt32.ofNat (lastVarint 2 (memberFields .registered frame)) = ttlSeconds ∧
      UInt32.ofNat (lastVarint 3 (memberFields .registered frame)) = sessionTTLSeconds := by
  rw [unmarshalFrame_registeredFrame short, Option.some.injEq] at parsed
  subst parsed
  simp [memberFields, lastBytes_eq, lastVarint_eq]

section Agreement

variable {password password' token : Bytes} (passwordShort : password.length ≤ maxUint16)
  (tokenShort : token.length ≤ maxUint16) {hub : HubRegistrar}
  {ttlSeconds sessionTTLSeconds : UInt32}
include passwordShort tokenShort

/-- **A listener and the relay agree on its registration.** Whatever the interleaving, when a
listener's `listenHandshake` and the relay's `handleRelayConn` both complete, they used the same
key, the relay read the listener's `MODE_CREATE` request and registered it with the hub, the
listener holds the token the relay sent with the hub's TTLs, that token is not empty, it is the
listener's own when the listener gave one, and nothing is left in flight. -/
theorem relay_registration_agreement
    (drawnShort : ∀ drawn, hub.RegisterListener = .ok drawn → drawn.length ≤ maxUint16)
    {final : Network Bytes (Except RelayHandshakeError ListenResult)
      (Except RegistrationError (Register × Bytes))}
    (reached : Network.Reaches ⟨listenHandshake password token,
      handleRelayConn password' hub ttlSeconds sessionTTLSeconds, [], []⟩ final)
    {result : ListenResult} {request : Register} {sentToken : Bytes}
    (listenerDone : final.left = .done (.ok result))
    (relayDone : final.right = .done (.ok (request, sentToken))) :
    password = password' ∧ request = .create token ∧
      result = ⟨sentToken, ttlSeconds, sessionTTLSeconds⟩ ∧ sentToken ≠ [] ∧
      (if token = [] then hub.RegisterListener = .ok sentToken
        else sentToken = token ∧ hub.RegisterListenerWith token = .ok ()) ∧
      final.toRight = [] ∧ final.toLeft = [] := by
  obtain ⟨insL, outsL, insR, outsR, ranL, ranR, toRight, toLeft⟩ :=
    Network.runs_of_reaches reached listenerDone relayDone
  obtain ⟨authIns, authOuts, reply, frame, authRan, rfl, rfl, parsed, nonempty, rfl⟩ :=
    listenHandshake_runs ranL
  obtain ⟨readOuts, ttl, readRan, rfl, answers⟩ := handleRelayConn_runs ranR
  obtain ⟨samePassword, rfl, toRightEmpty, sameLength⟩ :=
    registration_wire passwordShort (by decide) tokenShort authRan readRan toRight
  rw [registerRequest_create] at answers
  obtain ⟨rfl, registered⟩ := answers
  -- the relay's `Registered` is the frame the listener read
  rw [List.append_assoc] at toLeft
  obtain ⟨rfl, toLeftEmpty⟩ : registeredFrame sentToken ttl sessionTTLSeconds = reply ∧
      [] = final.toLeft := by simpa using (List.append_inj toLeft sameLength).2
  have sentShort : sentToken.length ≤ maxUint16 := by
    by_cases empty : token = []
    · exact drawnShort sentToken (by simpa [empty] using registered)
    · rw [(by simpa [empty] using registered : sentToken = token ∧ _).1]
      exact tokenShort
  obtain ⟨-, readToken, readTTL, readSessionTTL⟩ := registeredFrame_readBack sentShort parsed
  rw [readToken] at nonempty
  rw [readToken, readTTL, readSessionTTL]
  exact ⟨samePassword, registerRequest_create token, rfl, nonempty, registered, toRightEmpty,
    toLeftEmpty.symm⟩

/-- **A dialer and the relay agree on its registration.** Whatever the interleaving, when a
dialer's `relayHandshake` and the relay's `handleRelayConn` both complete, they used the same key,
the relay read the dialer's `MODE_JOIN` request with its nonempty token and joined it at the hub,
under that token, and the dialer learned a token TTL of `0` and the hub's session TTL. -/
theorem relay_join_agreement
    {final : Network Bytes (Except RelayHandshakeError (UInt32 × UInt32))
      (Except RegistrationError (Register × Bytes))}
    (reached : Network.Reaches ⟨relayHandshake password token,
      handleRelayConn password' hub ttlSeconds sessionTTLSeconds, [], []⟩ final)
    {result : UInt32 × UInt32} {request : Register} {sentToken : Bytes}
    (dialerDone : final.left = .done (.ok result))
    (relayDone : final.right = .done (.ok (request, sentToken))) :
    password = password' ∧ request = .join token ∧ token ≠ [] ∧ sentToken = token ∧
      hub.RegisterDialer token = .ok () ∧ result = (0, sessionTTLSeconds) ∧
      final.toRight = [] ∧ final.toLeft = [] := by
  obtain ⟨insL, outsL, insR, outsR, ranL, ranR, toRight, toLeft⟩ :=
    Network.runs_of_reaches reached dialerDone relayDone
  obtain ⟨authIns, authOuts, reply, registered, authRan, rfl, rfl, parsed, rfl⟩ :=
    relayHandshake_runs ranL
  obtain ⟨readOuts, ttl, readRan, rfl, answers⟩ := handleRelayConn_runs ranR
  obtain ⟨samePassword, rfl, toRightEmpty, sameLength⟩ :=
    registration_wire passwordShort (by decide) tokenShort authRan readRan toRight
  rw [registerRequest_join] at answers
  obtain ⟨rfl, given, rfl, joined⟩ := answers
  rw [List.append_assoc] at toLeft
  obtain ⟨rfl, toLeftEmpty⟩ : registeredFrame sentToken 0 sessionTTLSeconds = reply ∧
      [] = final.toLeft := by simpa using (List.append_inj toLeft sameLength).2
  obtain ⟨-, -, readTTL, readSessionTTL⟩ := registeredFrame_readBack tokenShort parsed
  simp only [memberFields, reduceIte] at readTTL readSessionTTL
  rw [readTTL, readSessionTTL]
  exact ⟨samePassword, registerRequest_join sentToken, given, rfl, joined, rfl, toRightEmpty,
    toLeftEmpty.symm⟩

end Agreement

/-- A listener with key `[5]` that leaves the token to the relay, whose hub draws `[9, 9]`, on the
left-first schedule. -/
theorem relay_registration_agreement_example :
    ∃ final result request sentToken,
      Network.Reaches ⟨listenHandshake [5] [], handleRelayConn [5]
        ⟨.ok [9, 9], fun _ => .ok (), fun _ => .ok ()⟩ 60 600, [], []⟩ final ∧
      final.left = .done (.ok result) ∧ final.right = .done (.ok (request, sentToken)) ∧
      ([5] = ([5] : Bytes) ∧ request = .create [] ∧ result = ⟨sentToken, 60, 600⟩ ∧ sentToken ≠ [] ∧
        (if ([] : Bytes) = [] then (.ok [9, 9] : Except SessionError Bytes) = .ok sentToken
          else sentToken = [] ∧ (.ok () : Except SessionError Unit) = .ok ()) ∧
        final.toRight = [] ∧ final.toLeft = []) := by
  let hub : HubRegistrar := ⟨.ok [9, 9], fun _ => .ok (), fun _ => .ok ()⟩
  let final := Network.runFor 10 ⟨listenHandshake [5] [], handleRelayConn [5] hub 60 600, [], []⟩
  have listenerDone : final.left = .done (.ok ⟨[9, 9], 60, 600⟩) :=
    Process.eq_done_of_outcome (by decide +kernel)
  have relayDone : final.right = .done (.ok (.create [], [9, 9])) :=
    Process.eq_done_of_outcome (by decide +kernel)
  have reached := Network.reaches_runFor 10
    ⟨listenHandshake [5] [], handleRelayConn [5] hub 60 600, [], []⟩
  exact ⟨final, _, _, _, reached, listenerDone, relayDone,
    relay_registration_agreement (by decide) (by decide)
      (fun drawn drew => by cases drew; decide) reached listenerDone relayDone⟩

/-- A dialer without a key joining token `[1, 2, 3]`, on the left-first schedule. -/
theorem relay_join_agreement_example :
    ∃ final result request sentToken,
      Network.Reaches ⟨relayHandshake [] [1, 2, 3], handleRelayConn []
        ⟨.ok [9, 9], fun _ => .ok (), fun _ => .ok ()⟩ 60 600, [], []⟩ final ∧
      final.left = .done (.ok result) ∧ final.right = .done (.ok (request, sentToken)) ∧
      (([] : Bytes) = [] ∧ request = .join [1, 2, 3] ∧ ([1, 2, 3] : Bytes) ≠ [] ∧
        sentToken = [1, 2, 3] ∧ (.ok () : Except SessionError Unit) = .ok () ∧
        result = (0, 600) ∧ final.toRight = [] ∧ final.toLeft = []) := by
  let hub : HubRegistrar := ⟨.ok [9, 9], fun _ => .ok (), fun _ => .ok ()⟩
  let final := Network.runFor 10 ⟨relayHandshake [] [1, 2, 3], handleRelayConn [] hub 60 600, [], []⟩
  have dialerDone : final.left = .done (.ok (0, 600)) :=
    Process.eq_done_of_outcome (by decide +kernel)
  have relayDone : final.right = .done (.ok (.join [1, 2, 3], [1, 2, 3])) :=
    Process.eq_done_of_outcome (by decide +kernel)
  have reached := Network.reaches_runFor 10
    ⟨relayHandshake [] [1, 2, 3], handleRelayConn [] hub 60 600, [], []⟩
  exact ⟨final, _, _, _, reached, dialerDone, relayDone,
    relay_join_agreement (by decide) (by decide) reached dialerDone relayDone⟩

end Kamune
