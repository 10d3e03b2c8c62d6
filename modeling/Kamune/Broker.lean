/-
**The relay broker's registry and its `Run` loop (`cmd/relay/internal/broker/broker.go`).**

The broker introduces two peers that register the same token. A REGISTER with the zero token is
given a random one (TOKEN_ASSIGNED); one with a token is held, refreshed when the holder registers
again with the same ephemeral key, and matched when another key registers it: both peers get a
PEER_MATCHED and the hold is cleared. Holds are meant to live for the registration TTL. The only
code that enforces it is `purgeExpired`, and `Run` calls it only when a read times out, after half
a second with no packet; `handleStaticRegister` looks the token up without reading `expires`.

The model is the loop's turns: a packet dispatched at the clock time it is read, or a timeout that
purges. The rate limiter is its answer for each packet, `rand.Read` a draw for each random token,
and a NOTIFY the plaintext, the key it is sealed to and the destination.

* `dispatch_peerMatched`: a PEER_MATCHED for a token is written only by a REGISTER of that token
  that finds a hold under another key, and it clears the hold;
* `dispatch_same_key`: a REGISTER under the held key writes nothing;
* `Run_registry_of_untouched`: over turns that do not register a token, its hold stays until a
  timeout later than its expiry;
* `Run_hold_then_join`: a second key registering a held token is matched exactly when no read
  timed out after the hold expired, however long ago that was;
* `broker_matches_expired_hold`: the three together, against the intended rule that an expired hold
  is never matched;
* `match_turn`: a match tells the new peer the address the hold stores and the holder the address
  the new peer's REGISTER claims; a hold stores the source its REGISTER was read from, so after
  `Run_hold_then_match` the two peers learn addresses of two different kinds, and
  `Run_hold_then_match_claimed` says when the first is the one the holder claimed;
* `peer_matched_sends_held_source`: these, against the documented rule that each peer's claimed
  address is echoed to the other.
-/

import Kamune.BrokerCodec

namespace Kamune

open Wire RelayBroker

/-! ### Addresses -/

/-- `net.UDPAddr`, without the zone. -/
structure UDPAddr where
  IP : Bytes
  Port : Nat
  deriving DecidableEq, Repr

/-- `isZeroBytes`. -/
def isZeroBytes (b : Bytes) : Bool := b.all (· == 0)

/-- `ipv4FromAddr`. -/
def ipv4FromAddr (addr : UDPAddr) : Option UDPAddr :=
  (To4 addr.IP).map fun ip => ⟨ip, addr.Port⟩

/-- `validIPv4`. -/
def validIPv4 (ip : Bytes) : Bool :=
  match To4 ip with
  | none => false
  | some ip4 => !isZeroBytes ip4

/-! ### The broker -/

/-- `time.Second`; every time of the model is in nanoseconds. -/
def nanosecondsPerSecond : Nat := 1000000000

/-- `readDeadline`: 500 ms. -/
def readDeadline : Nat := 500 * 1000000

/-- `registration`: who holds a token, by address and ephemeral key, and until when. -/
structure Registration where
  addr : UDPAddr
  peerEphPub : Bytes
  expires : Nat
  deriving DecidableEq, Repr

/-- `Broker`, past its socket: the registry and the TTL. The source keys the registry by
`hexKey(token)`; every key it stores is a 16-byte token, on which `hexKey` is injective, so the
model keys it by the token. -/
structure Broker where
  registry : Bytes → Option Registration
  ttl : Nat

/-- What the broker writes: an echo response to `dst`, or a NOTIFY with this plaintext sealed to
`peerEphPub` under a fresh broker key, to `dst`. -/
inductive Outgoing where
  | echo (dst : UDPAddr)
  | notify (plaintext peerEphPub : Bytes) (dst : UDPAddr)
  deriving DecidableEq, Repr

/-- The token of a write that is a PEER_MATCHED, as the peer reads it. -/
def Outgoing.matchedToken : Outgoing → Option Bytes
  | .echo _ => none
  | .notify plaintext _ _ =>
    match ParseNotifyPayload plaintext with
    | .ok (.peerMatched token _ _ _) => some token
    | _ => none

/-- One turn of `Run`'s loop: a packet read and dispatched at clock time `now`, with the rate
limiter's answer for its source and the draw `rand.Read` would make; or a read that timed out,
after which `purgeExpired` runs at `now`. -/
inductive LoopEvent where
  | packet (now : Nat) (pkt : Bytes) (src : UDPAddr) (allowed : Bool) (draw : Nat → UInt8)
  | timeout (now : Nat)

namespace Broker

/-- `New`, past the socket: the TTL is 60 s unless the configuration gives a positive one. -/
def New (registrationTTL : Int) : Broker where
  registry := fun _ => none
  ttl := if registrationTTL ≤ 0 then 60 * nanosecondsPerSecond else registrationTTL.toNat

/-- `sendNotify`; the ECDH and the sealing are left out. -/
def sendNotify (plaintext peerEphPub : Bytes) (dst : UDPAddr) : List Outgoing :=
  [.notify plaintext peerEphPub dst]

/-- `sendTokenAssigned`, with `uint32(b.ttl.Seconds())`. -/
def sendTokenAssigned (b : Broker) (token peerEphPub : Bytes) (dst : UDPAddr) : List Outgoing :=
  sendNotify (TokenAssignedPlaintext token (b.ttl / nanosecondsPerSecond)) peerEphPub dst

/-- `sendPeerMatched`: each peer is told the other's address and key. -/
def sendPeerMatched (token : Bytes) (held : Registration) (newPub : Bytes) (newAddr : UDPAddr)
    (newIP : Bytes) (newPort : Nat) : List Outgoing :=
  match ipv4FromAddr held.addr with
  | none => []
  | some heldIP =>
    sendNotify (PeerMatchedPlaintext token held.peerEphPub heldIP.IP held.addr.Port) newPub
        newAddr ++
      sendNotify (PeerMatchedPlaintext token newPub newIP newPort) held.peerEphPub held.addr

/-- `handleEcho`; the response is `BuildEchoResponse src`. -/
def handleEcho (src : UDPAddr) (allowed : Bool) : List Outgoing :=
  if !allowed then [] else [.echo src]

/-- `handleRandomRegister`, the key being `draw`'s sixteen bytes. -/
def handleRandomRegister (b : Broker) (now : Nat) (peerEphPub : Bytes) (src : UDPAddr)
    (draw : Nat → UInt8) : Broker × List Outgoing :=
  let key := randomBytes draw tokenSize
  let pub := padOrTruncate peerEphPub x25519KeySize
  ({ b with registry := Function.update b.registry key (some ⟨src, pub, now + b.ttl⟩) },
    b.sendTokenAssigned key pub src)

/-- `handleStaticRegister`: refresh, hold or match. Nothing here reads `held.expires`. -/
def handleStaticRegister (b : Broker) (now : Nat) (token peerEphPub : Bytes) (src : UDPAddr)
    (ip : Bytes) (port : Nat) : Broker × List Outgoing :=
  let pub := padOrTruncate peerEphPub x25519KeySize
  match b.registry token with
  | some held =>
    if held.peerEphPub = pub then
      ({ b with
          registry :=
            Function.update b.registry token (some { held with expires := now + b.ttl }) },
        [])
    else
      ({ b with registry := Function.update b.registry token none },
        sendPeerMatched token held pub src ip port)
  | none =>
    ({ b with registry := Function.update b.registry token (some ⟨src, pub, now + b.ttl⟩) }, [])

/-- `handleRegister`, `allowed` being `allowRegister`'s answer. -/
def handleRegister (b : Broker) (now : Nat) (pkt : Bytes) (src : UDPAddr) (allowed : Bool)
    (draw : Nat → UInt8) : Broker × List Outgoing :=
  if !allowed then (b, [])
  else
    match ParseRegister pkt with
    | .error _ => (b, [])
    | .ok reg =>
      if !validIPv4 reg.ip || reg.port == 0 then (b, [])
      else if isZeroBytes reg.peerEphPub then (b, [])
      else
        match ipv4FromAddr src with
        | none => (b, [])
        | some src4 =>
          if isZeroBytes reg.token then b.handleRandomRegister now reg.peerEphPub src4 draw
          else b.handleStaticRegister now reg.token reg.peerEphPub src4 reg.ip reg.port

/-- `dispatch`: the length, magic and version checks, then the opcode. -/
def dispatch (b : Broker) (now : Nat) (pkt : Bytes) (src : UDPAddr) (allowed : Bool)
    (draw : Nat → UInt8) : Broker × List Outgoing :=
  if pkt.length < headerSize then (b, [])
  else if pkt.take 4 ≠ magic then (b, [])
  else if pkt[4]? ≠ some ver then (b, [])
  else if pkt[5]? = some opcodeEcho then (b, handleEcho src allowed)
  else if pkt[5]? = some opcodeRegister then b.handleRegister now pkt src allowed draw
  else (b, [])

/-- `purgeExpired` at clock time `now`: deleting while ranging over a map visits every other
key, so the registry is filtered. -/
def purgeExpired (b : Broker) (now : Nat) : Broker :=
  { b with registry := fun key => (b.registry key).filter fun r => !decide (r.expires < now) }

/-- One turn of the loop. -/
def step (b : Broker) : LoopEvent → Broker × List Outgoing
  | .packet now pkt src allowed draw => b.dispatch now pkt src allowed draw
  | .timeout now => (b.purgeExpired now, [])

/-- `Run`, over the turns it takes before it returns: the broker and everything written. -/
def Run (b : Broker) : List LoopEvent → Broker × List Outgoing
  | [] => (b, [])
  | event :: events =>
    let turn := b.step event
    let rest := turn.1.Run events
    (rest.1, turn.2 ++ rest.2)

end Broker

/-- Whether the loop can take these turns, its first read begun at `start`: a read returns a
packet that comes before its deadline and times out at the deadline otherwise, and the next read
begins when the turn ends. -/
def Timely : Nat → List LoopEvent → Bool
  | _, [] => true
  | start, .packet now .. :: events =>
    decide (start ≤ now ∧ now < start + readDeadline) && Timely now events
  | start, .timeout now :: events => decide (start + readDeadline ≤ now) && Timely now events

/-- Whether a turn can write the registry entry of `token`: a REGISTER that parses with this
token, or with the zero token and a draw of this token. -/
def LoopEvent.Touches (token : Bytes) : LoopEvent → Bool
  | .packet _ pkt _ _ draw =>
    match ParseRegister pkt with
    | .ok reg =>
      reg.token == token || (isZeroBytes reg.token && randomBytes draw tokenSize == token)
    | .error _ => false
  | .timeout _ => false

/-- Whether a turn is a timeout later than `time`. -/
def LoopEvent.timeoutAfter (time : Nat) : LoopEvent → Bool
  | .packet .. => false
  | .timeout now => decide (time < now)

/-! ### What each handler writes -/

theorem ipv4FromAddr_of_length {addr : UDPAddr} (four : addr.IP.length = 4) :
    ipv4FromAddr addr = some addr := by
  rw [ipv4FromAddr, To4_of_length four]
  rfl

theorem length_of_ipv4FromAddr {addr addr4 : UDPAddr} (converted : ipv4FromAddr addr = some addr4) :
    addr4.IP.length = 4 := by
  obtain ⟨ip, to4, rfl⟩ := Option.map_eq_some_iff.mp converted
  exact length_of_To4 to4

theorem matchedToken_PeerMatchedPlaintext (token otherPeerEphPub ip : Bytes) (port : Nat)
    (peerEphPub : Bytes) (dst : UDPAddr) :
    (Outgoing.notify (PeerMatchedPlaintext token otherPeerEphPub ip port) peerEphPub
      dst).matchedToken = some (padOrTruncate token tokenSize) := by
  rw [Outgoing.matchedToken, ParseNotifyPayload_PeerMatchedPlaintext]

namespace Broker

theorem matchedToken_sendPeerMatched {token newPub newIP : Bytes} {held : Registration}
    {newAddr : UDPAddr} {newPort : Nat} {out : Outgoing}
    (sent : out ∈ sendPeerMatched token held newPub newAddr newIP newPort) :
    out.matchedToken = some (padOrTruncate token tokenSize) := by
  unfold sendPeerMatched at sent
  split at sent
  case h_1 => cases sent
  case h_2 =>
    simp only [sendNotify, List.cons_append, List.nil_append, List.mem_cons,
      List.not_mem_nil, or_false] at sent
    rcases sent with rfl | rfl <;> exact matchedToken_PeerMatchedPlaintext ..

theorem matchedToken_sendTokenAssigned (b : Broker) (token peerEphPub : Bytes) (dst : UDPAddr) :
    ∀ out ∈ b.sendTokenAssigned token peerEphPub dst, out.matchedToken = none := by
  intro out sent
  simp only [sendTokenAssigned, sendNotify, List.mem_singleton] at sent
  rw [sent, Outgoing.matchedToken, ParseNotifyPayload_TokenAssignedPlaintext]

theorem matchedToken_handleEcho (src : UDPAddr) (allowed : Bool) :
    ∀ out ∈ handleEcho src allowed, out.matchedToken = none := by
  intro out sent
  unfold handleEcho at sent
  split at sent
  case isTrue => cases sent
  case isFalse =>
    rw [List.mem_singleton.mp sent]
    rfl

/-! ### `handleStaticRegister` -/

section Static

variable (b : Broker) (now : Nat) (token peerEphPub : Bytes) (src : UDPAddr) (ip : Bytes)
  (port : Nat)

theorem handleStaticRegister_of_none (free : b.registry token = none) :
    b.handleStaticRegister now token peerEphPub src ip port =
      ({ b with
          registry := Function.update b.registry token
            (some ⟨src, padOrTruncate peerEphPub x25519KeySize, now + b.ttl⟩) }, []) := by
  rw [handleStaticRegister, free]

theorem handleStaticRegister_of_same {held : Registration} (holds : b.registry token = some held)
    (same : held.peerEphPub = padOrTruncate peerEphPub x25519KeySize) :
    b.handleStaticRegister now token peerEphPub src ip port =
      ({ b with
          registry := Function.update b.registry token
            (some { held with expires := now + b.ttl }) }, []) := by
  rw [handleStaticRegister, holds]
  exact if_pos same

theorem handleStaticRegister_of_other {held : Registration} (holds : b.registry token = some held)
    (other : held.peerEphPub ≠ padOrTruncate peerEphPub x25519KeySize) :
    b.handleStaticRegister now token peerEphPub src ip port =
      ({ b with registry := Function.update b.registry token none },
        sendPeerMatched token held (padOrTruncate peerEphPub x25519KeySize) src ip port) := by
  rw [handleStaticRegister, holds]
  exact if_neg other

/-- The three branches of `handleStaticRegister`. -/
theorem handleStaticRegister_cases :
    (b.registry token = none ∧
        b.handleStaticRegister now token peerEphPub src ip port =
          ({ b with
              registry := Function.update b.registry token
                (some ⟨src, padOrTruncate peerEphPub x25519KeySize, now + b.ttl⟩) }, [])) ∨
      (∃ held, b.registry token = some held ∧
        b.handleStaticRegister now token peerEphPub src ip port =
          ({ b with
              registry := Function.update b.registry token
                (some { held with expires := now + b.ttl }) }, [])) ∨
      (∃ held, b.registry token = some held ∧
        held.peerEphPub ≠ padOrTruncate peerEphPub x25519KeySize ∧
        b.handleStaticRegister now token peerEphPub src ip port =
          ({ b with registry := Function.update b.registry token none },
            sendPeerMatched token held (padOrTruncate peerEphPub x25519KeySize) src ip port)) := by
  cases holds : b.registry token with
  | none => exact .inl ⟨rfl, handleStaticRegister_of_none b now token peerEphPub src ip port holds⟩
  | some held =>
    by_cases same : held.peerEphPub = padOrTruncate peerEphPub x25519KeySize
    · exact .inr (.inl ⟨held, rfl,
        handleStaticRegister_of_same b now token peerEphPub src ip port holds same⟩)
    · exact .inr (.inr ⟨held, rfl, same,
        handleStaticRegister_of_other b now token peerEphPub src ip port holds same⟩)

theorem handleStaticRegister_registry_of_ne {key : Bytes} (other : key ≠ token) :
    (b.handleStaticRegister now token peerEphPub src ip port).1.registry key = b.registry key := by
  rcases handleStaticRegister_cases b now token peerEphPub src ip port with
    ⟨-, result⟩ | ⟨_, -, result⟩ | ⟨_, -, -, result⟩ <;>
    rw [result] <;> exact Function.update_of_ne other _ _

/-- Whatever `handleStaticRegister` writes is a match with a hold under another key, which it
clears. -/
theorem handleStaticRegister_peerMatched {out : Outgoing}
    (sent : out ∈ (b.handleStaticRegister now token peerEphPub src ip port).2) :
    ∃ held, b.registry token = some held ∧
      held.peerEphPub ≠ padOrTruncate peerEphPub x25519KeySize ∧
      (b.handleStaticRegister now token peerEphPub src ip port).1.registry token = none ∧
      out.matchedToken = some (padOrTruncate token tokenSize) := by
  rcases handleStaticRegister_cases b now token peerEphPub src ip port with
    ⟨-, result⟩ | ⟨_, -, result⟩ | ⟨held, holds, other, result⟩
  · rw [result] at sent
    cases sent
  · rw [result] at sent
    cases sent
  · rw [result] at sent ⊢
    exact ⟨held, holds, other, Function.update_self .., matchedToken_sendPeerMatched sent⟩

end Static

/-! ### `handleRandomRegister`, `handleRegister` and `dispatch` -/

theorem handleRandomRegister_registry_of_ne (b : Broker) (now : Nat) (peerEphPub : Bytes)
    (src : UDPAddr) {draw : Nat → UInt8} {key : Bytes} (other : key ≠ randomBytes draw tokenSize) :
    (b.handleRandomRegister now peerEphPub src draw).1.registry key = b.registry key :=
  Function.update_of_ne other _ _

section Registering

variable (b : Broker) (now : Nat) (pkt : Bytes) (src : UDPAddr) (allowed : Bool)
  (draw : Nat → UInt8)

/-- `handleRegister` drops the packet, or hands its fields to one of the two handlers. -/
theorem handleRegister_cases :
    b.handleRegister now pkt src allowed draw = (b, []) ∨
      ∃ reg src4, ParseRegister pkt = .ok reg ∧ ipv4FromAddr src = some src4 ∧
        (isZeroBytes reg.token = true ∧
            b.handleRegister now pkt src allowed draw =
              b.handleRandomRegister now reg.peerEphPub src4 draw ∨
          isZeroBytes reg.token = false ∧
            b.handleRegister now pkt src allowed draw =
              b.handleStaticRegister now reg.token reg.peerEphPub src4 reg.ip reg.port) := by
  unfold handleRegister
  split
  case isTrue => exact .inl rfl
  case isFalse =>
    split
    case h_1 => exact .inl rfl
    case h_2 reg parsed =>
      split
      case isTrue => exact .inl rfl
      case isFalse =>
        split
        case isTrue => exact .inl rfl
        case isFalse =>
          split
          case h_1 => exact .inl rfl
          case h_2 src4 converted =>
            refine .inr ⟨reg, src4, parsed, converted, ?_⟩
            cases zero : isZeroBytes reg.token
            · exact .inr ⟨rfl, if_neg (by simp)⟩
            · exact .inl ⟨rfl, if_pos rfl⟩

/-- A static REGISTER that passes the checks reaches `handleStaticRegister`. -/
theorem handleRegister_of_static {reg : RegisterFields} {src4 : UDPAddr}
    (allows : allowed = true)
    (parsed : ParseRegister pkt = .ok reg) (valid : validIPv4 reg.ip = true) (port : reg.port ≠ 0)
    (key : isZeroBytes reg.peerEphPub = false) (converted : ipv4FromAddr src = some src4)
    (static : isZeroBytes reg.token = false) :
    b.handleRegister now pkt src allowed draw =
      b.handleStaticRegister now reg.token reg.peerEphPub src4 reg.ip reg.port := by
  have checks : (!validIPv4 reg.ip || reg.port == 0) = false := by simp [valid, port]
  rw [handleRegister, allows, parsed]
  simp only [Bool.not_true, Bool.false_eq_true, if_false, checks, key, converted, static]

/-- `dispatch` drops the packet, echoes, or hands it to `handleRegister`. -/
theorem dispatch_cases :
    b.dispatch now pkt src allowed draw = (b, []) ∨
      b.dispatch now pkt src allowed draw = (b, handleEcho src allowed) ∨
      b.dispatch now pkt src allowed draw = b.handleRegister now pkt src allowed draw := by
  unfold dispatch
  split
  case isTrue => exact .inl rfl
  case isFalse =>
    split
    case isTrue => exact .inl rfl
    case isFalse =>
      split
      case isTrue => exact .inl rfl
      case isFalse =>
        split
        case isTrue => exact .inr (.inl rfl)
        case isFalse =>
          split
          case isTrue => exact .inr (.inr rfl)
          case isFalse => exact .inl rfl

/-- A packet `ParseRegister` accepts passes `dispatch`'s checks as a REGISTER. -/
theorem dispatch_of_parsed {reg : RegisterFields} (parsed : ParseRegister pkt = .ok reg) :
    b.dispatch now pkt src allowed draw = b.handleRegister now pkt src allowed draw := by
  obtain ⟨long, magicFirst, version, opcode, -⟩ := ParseRegister_eq_ok parsed
  have notEcho : pkt[5]? ≠ some opcodeEcho := by rw [opcode]; decide
  rw [dispatch, if_neg (by simp only [headerSize, registerSize] at long ⊢; omega),
    if_neg (not_not_intro magicFirst), if_neg (not_not_intro version), if_neg notEcho,
    if_pos opcode]

/-- What `dispatch` can do: write no PEER_MATCHED and leave the broker as it is, or run one of the
two register handlers on a packet `ParseRegister` accepts. -/
theorem dispatch_inv :
    (∃ sent, b.dispatch now pkt src allowed draw = (b, sent) ∧
        ∀ out ∈ sent, out.matchedToken = none) ∨
      ∃ reg src4, ParseRegister pkt = .ok reg ∧ ipv4FromAddr src = some src4 ∧
        (isZeroBytes reg.token = true ∧
            b.dispatch now pkt src allowed draw =
              b.handleRandomRegister now reg.peerEphPub src4 draw ∨
          isZeroBytes reg.token = false ∧
            b.dispatch now pkt src allowed draw =
              b.handleStaticRegister now reg.token reg.peerEphPub src4 reg.ip reg.port) := by
  rcases dispatch_cases b now pkt src allowed draw with dropped | echoed | registers
  · exact .inl ⟨[], dropped, fun _ sent => nomatch sent⟩
  · exact .inl ⟨_, echoed, matchedToken_handleEcho src allowed⟩
  · rw [registers]
    rcases handleRegister_cases b now pkt src allowed draw with dropped | handled
    · exact .inl ⟨[], dropped, fun _ sent => nomatch sent⟩
    · exact .inr handled

end Registering

/-! ### One turn -/

theorem touches_packet_of_parsed {now : Nat} {pkt : Bytes} {src : UDPAddr} {allowed : Bool}
    {draw : Nat → UInt8} {reg : RegisterFields} (parsed : ParseRegister pkt = .ok reg)
    (token : Bytes) :
    (LoopEvent.packet now pkt src allowed draw).Touches token = false ↔
      reg.token ≠ token ∧ (isZeroBytes reg.token = true → randomBytes draw tokenSize ≠ token) := by
  rw [LoopEvent.Touches, parsed]
  simp

/-- A packet that does not register a token leaves its entry as it was. -/
theorem dispatch_registry_of_untouched {b : Broker} {now : Nat} {pkt : Bytes} {src : UDPAddr}
    {allowed : Bool} {draw : Nat → UInt8} {token : Bytes}
    (untouched : (LoopEvent.packet now pkt src allowed draw).Touches token = false) :
    (b.dispatch now pkt src allowed draw).1.registry token = b.registry token := by
  rcases dispatch_inv b now pkt src allowed draw with
    ⟨_, result, -⟩ | ⟨reg, src4, parsed, -, ⟨zero, result⟩ | ⟨-, result⟩⟩ <;> rw [result]
  all_goals obtain ⟨other, notDrawn⟩ := (touches_packet_of_parsed parsed token).mp untouched
  · exact handleRandomRegister_registry_of_ne b now _ src4 (Ne.symm (notDrawn zero))
  · exact handleStaticRegister_registry_of_ne b now _ _ src4 _ _ (Ne.symm other)

/-- A PEER_MATCHED for a token is written only by a REGISTER of that token that finds it held
under another key, and the hold is cleared. -/
theorem dispatch_peerMatched {b : Broker} {now : Nat} {pkt : Bytes} {src : UDPAddr}
    {allowed : Bool} {draw : Nat → UInt8} {token : Bytes} {out : Outgoing}
    (sent : out ∈ (b.dispatch now pkt src allowed draw).2)
    (matched : out.matchedToken = some token) :
    ∃ reg held, ParseRegister pkt = .ok reg ∧ reg.token = token ∧ b.registry token = some held ∧
      held.peerEphPub ≠ reg.peerEphPub ∧
      (b.dispatch now pkt src allowed draw).1.registry token = none := by
  rcases dispatch_inv b now pkt src allowed draw with
    ⟨_, result, unmatched⟩ | ⟨reg, src4, parsed, -, ⟨-, result⟩ | ⟨-, result⟩⟩
  · rw [result] at sent
    rw [unmatched out sent] at matched
    cases matched
  · rw [result] at sent
    rw [b.matchedToken_sendTokenAssigned _ _ _ out sent] at matched
    cases matched
  · rw [result] at sent ⊢
    obtain ⟨-, -, -, -, tokenSize', keySize, -⟩ := ParseRegister_eq_ok parsed
    obtain ⟨held, holds, other, cleared, tokenOf⟩ :=
      handleStaticRegister_peerMatched b now _ _ src4 _ _ sent
    rw [matched, padOrTruncate_of_length tokenSize', Option.some_inj] at tokenOf
    subst tokenOf
    rw [padOrTruncate_of_length keySize] at other
    exact ⟨reg, held, parsed, rfl, holds, other, cleared⟩

/-- A REGISTER under the key that holds its token writes nothing. -/
theorem dispatch_same_key {b : Broker} {now : Nat} {pkt : Bytes} {src : UDPAddr} {allowed : Bool}
    {draw : Nat → UInt8} {reg : RegisterFields} {held : Registration}
    (parsed : ParseRegister pkt = .ok reg) (static : isZeroBytes reg.token = false)
    (holds : b.registry reg.token = some held) (same : held.peerEphPub = reg.peerEphPub) :
    (b.dispatch now pkt src allowed draw).2 = [] := by
  obtain ⟨-, -, -, -, -, keySize, -⟩ := ParseRegister_eq_ok parsed
  rw [dispatch_of_parsed b now pkt src allowed draw parsed]
  rcases handleRegister_cases b now pkt src allowed draw with
    dropped | ⟨reg', src4, parsed', -, ⟨zero, -⟩ | ⟨-, result⟩⟩
  · rw [dropped]
  all_goals cases parsed.symm.trans parsed'
  · rw [static] at zero
    cases zero
  · rw [result, handleStaticRegister_of_same b now _ _ src4 _ _ holds
      (same.trans (padOrTruncate_of_length keySize).symm)]

theorem filter_const_true {α : Type} (o : Option α) : o.filter (fun _ => true) = o := by
  cases o <;> rfl

/-- A turn that does not register a token leaves its hold unless it is a timeout later than the
hold's expiry. -/
theorem step_registry_of_untouched {b : Broker} {event : LoopEvent} {token : Bytes}
    (untouched : event.Touches token = false) :
    (b.step event).1.registry token =
      (b.registry token).filter fun r => !event.timeoutAfter r.expires := by
  cases event with
  | packet now pkt src allowed draw =>
    rw [step, dispatch_registry_of_untouched untouched]
    exact (filter_const_true _).symm
  | timeout now => rfl

theorem step_matchedToken_of_untouched {b : Broker} {event : LoopEvent} {token : Bytes}
    (untouched : event.Touches token = false) :
    ∀ out ∈ (b.step event).2, out.matchedToken ≠ some token := by
  intro out sent matched
  cases event with
  | packet now pkt src allowed draw =>
    obtain ⟨reg, -, parsed, registers, -⟩ := dispatch_peerMatched sent matched
    exact ((touches_packet_of_parsed parsed token).mp untouched).1 registers
  | timeout now => cases sent

/-! ### Runs -/

theorem Run_cons (b : Broker) (event : LoopEvent) (events : List LoopEvent) :
    b.Run (event :: events) =
      (((b.step event).1.Run events).1, (b.step event).2 ++ ((b.step event).1.Run events).2) :=
  rfl

theorem Run_append (b : Broker) (first second : List LoopEvent) :
    b.Run (first ++ second) =
      (((b.Run first).1.Run second).1, (b.Run first).2 ++ ((b.Run first).1.Run second).2) := by
  induction first generalizing b with
  | nil => rfl
  | cons event first ih => simp [Run_cons, ih]

/-- What a run writes: the first turn's writes, those of the turns between, and the last turn's. -/
theorem sent_Run_cons_append (b : Broker) (first : LoopEvent) (events : List LoopEvent)
    (last : LoopEvent) :
    (b.Run (first :: events ++ [last])).2 =
      (b.step first).2 ++ ((b.step first).1.Run events).2 ++
        (((b.step first).1.Run events).1.step last).2 := by
  rw [Run_append, Run_cons, Run_cons]
  simp only [Run, List.append_nil]

/-- Over turns that do not register a token, its hold stays until a timeout later than its
expiry, and nothing else removes it. -/
theorem Run_registry_of_untouched {token : Bytes} :
    ∀ (b : Broker) (events : List LoopEvent), (∀ event ∈ events, event.Touches token = false) →
      (b.Run events).1.registry token =
        (b.registry token).filter fun r => !events.any (·.timeoutAfter r.expires)
  | b, [], _ => (filter_const_true _).symm
  | b, event :: events, untouched => by
    have later := Run_registry_of_untouched (b.step event).1 events
      fun other mem => untouched other (List.mem_cons_of_mem _ mem)
    rw [Run_cons, later, step_registry_of_untouched (untouched event List.mem_cons_self)]
    simp only [Option.filter_filter, List.any_cons, Bool.not_or]

theorem Run_matchedToken_of_untouched {token : Bytes} :
    ∀ (b : Broker) (events : List LoopEvent), (∀ event ∈ events, event.Touches token = false) →
      ∀ out ∈ (b.Run events).2, out.matchedToken ≠ some token
  | b, [], _ => fun _ sent => nomatch sent
  | b, event :: events, untouched => by
    intro out sent
    rw [Run_cons, List.mem_append] at sent
    rcases sent with now | later
    · exact step_matchedToken_of_untouched (untouched event List.mem_cons_self) out now
    · exact Run_matchedToken_of_untouched _ events
        (fun other mem => untouched other (List.mem_cons_of_mem _ mem)) out later

end Broker

/-! ### Two peers registering one token -/

/-- A REGISTER a peer sends: the fields it builds the packet from, and the address the broker
reads it from. -/
structure RegisterRequest where
  token : Bytes
  peerEphPub : Bytes
  ip : Bytes
  port : Nat
  src : UDPAddr

namespace RegisterRequest

/-- The turn that reads `req`'s REGISTER at clock time `now`, the rate limiter letting it
through. -/
def turn (req : RegisterRequest) (now : Nat) : LoopEvent :=
  .packet now (BuildRegister req.token req.peerEphPub req.ip req.port) req.src true fun _ => 0

/-- A static REGISTER the broker takes in: a 16-byte token and a 32-byte key, neither all zeros,
an address with a non-zero IPv4 form, a 16-bit port that is not zero, and a source with an IPv4
form. -/
def Static (req : RegisterRequest) : Prop :=
  req.token.length = tokenSize ∧ isZeroBytes req.token = false ∧
    req.peerEphPub.length = x25519KeySize ∧ isZeroBytes req.peerEphPub = false ∧
    validIPv4 req.ip = true ∧ 0 < req.port ∧ req.port < 256 ^ portSize ∧
    (ipv4FromAddr req.src).isSome = true

instance : DecidablePred Static := fun _ =>
  inferInstanceAs (Decidable (_ ∧ _ ∧ _ ∧ _ ∧ _ ∧ _ ∧ _ ∧ _))

theorem validIPv4_of_To4 {ip ip4 : Bytes} (converted : To4 ip = some ip4) :
    validIPv4 ip4 = validIPv4 ip := by
  rw [validIPv4, validIPv4, To4_idem converted, converted]

theorem exists_To4_of_validIPv4 {ip : Bytes} (valid : validIPv4 ip = true) :
    ∃ ip4, To4 ip = some ip4 := by
  unfold validIPv4 at valid
  split at valid
  case h_1 => cases valid
  case h_2 ip4 to4 => exact ⟨ip4, to4⟩

namespace Static

variable {req : RegisterRequest}

theorem token_length (static : req.Static) : req.token.length = tokenSize := static.1

theorem key_length (static : req.Static) : req.peerEphPub.length = x25519KeySize := static.2.2.1

theorem port_lt (static : req.Static) : req.port < 256 ^ portSize := static.2.2.2.2.2.2.1

theorem exists_To4 (static : req.Static) : ∃ ip4, To4 req.ip = some ip4 :=
  exists_To4_of_validIPv4 static.2.2.2.2.1

theorem exists_src (static : req.Static) : ∃ src4, ipv4FromAddr req.src = some src4 :=
  Option.isSome_iff_exists.mp static.2.2.2.2.2.2.2

end Static

/-- A static REGISTER reaches `handleStaticRegister` with its own token and key, and its source
and address in their IPv4 forms. -/
theorem step_turn_eq {req : RegisterRequest} (static : req.Static) (b : Broker) (now : Nat)
    {src4 : UDPAddr} (fromSrc : ipv4FromAddr req.src = some src4) {ip4 : Bytes}
    (to4 : To4 req.ip = some ip4) :
    b.step (req.turn now) =
      b.handleStaticRegister now req.token req.peerEphPub src4 ip4 req.port := by
  obtain ⟨tokenSize', nonzeroToken, keySize, nonzeroKey, valid, portPos, portSmall, -⟩ := static
  have parsed := ParseRegister_BuildRegister_of_fields tokenSize' keySize to4 portSmall
  rw [turn, Broker.step, Broker.dispatch_of_parsed _ _ _ _ _ _ parsed]
  exact Broker.handleRegister_of_static _ _ _ _ _ _ rfl parsed
    ((validIPv4_of_To4 to4).trans valid) (Nat.pos_iff_ne_zero.mp portPos) nonzeroKey fromSrc
    nonzeroToken

/-- A static REGISTER of a free token holds it under the request's key and source until `now`
plus the TTL, and writes nothing. -/
theorem hold_turn_eq {req : RegisterRequest} (static : req.Static) {b : Broker} (now : Nat)
    (free : b.registry req.token = none) {src4 : UDPAddr}
    (fromSrc : ipv4FromAddr req.src = some src4) :
    (b.step (req.turn now)).1.registry req.token = some ⟨src4, req.peerEphPub, now + b.ttl⟩ ∧
      (b.step (req.turn now)).2 = [] := by
  obtain ⟨ip4, to4⟩ := static.exists_To4
  rw [step_turn_eq static b now fromSrc to4,
    Broker.handleStaticRegister_of_none b now _ _ src4 ip4 _ free,
    padOrTruncate_of_length static.key_length]
  exact ⟨Function.update_self .., rfl⟩

/-- A static REGISTER of a free token holds it under the request's key until `now` plus the TTL,
and writes nothing. -/
theorem hold_turn {req : RegisterRequest} (static : req.Static) {b : Broker} (now : Nat)
    (free : b.registry req.token = none) :
    ∃ addr : UDPAddr, addr.IP.length = 4 ∧
      (b.step (req.turn now)).1.registry req.token = some ⟨addr, req.peerEphPub, now + b.ttl⟩ ∧
      (b.step (req.turn now)).2 = [] := by
  obtain ⟨src4, fromSrc⟩ := static.exists_src
  exact ⟨src4, length_of_ipv4FromAddr fromSrc, hold_turn_eq static now free fromSrc⟩

/-- **What a match writes.** A static REGISTER that finds its token held under another key, by a
holder in IPv4 form: the new peer is told the holder's stored address and key, and the holder the
new peer's key and the address its REGISTER claims. -/
theorem match_turn {req : RegisterRequest} (static : req.Static) {b : Broker} (now : Nat)
    {held : Registration} (holds : b.registry req.token = some held)
    (other : held.peerEphPub ≠ req.peerEphPub) (four : held.addr.IP.length = 4) {src4 : UDPAddr}
    (fromSrc : ipv4FromAddr req.src = some src4) :
    (b.step (req.turn now)).2 =
      [.notify (PeerMatchedPlaintext req.token held.peerEphPub held.addr.IP held.addr.Port)
          req.peerEphPub src4,
        .notify (PeerMatchedPlaintext req.token req.peerEphPub req.ip req.port) held.peerEphPub
          held.addr] := by
  obtain ⟨ip4, to4⟩ := static.exists_To4
  rw [← padOrTruncate_of_length static.key_length] at other
  rw [step_turn_eq static b now fromSrc to4,
    Broker.handleStaticRegister_of_other b now _ _ src4 ip4 _ holds other,
    padOrTruncate_of_length static.key_length, Broker.sendPeerMatched, ipv4FromAddr_of_length four,
    PeerMatchedPlaintext_of_To4 to4]
  rfl

/-- A static REGISTER of a token held under another key, by a peer in IPv4 form, writes a
PEER_MATCHED for the token. -/
theorem join_turn {req : RegisterRequest} (static : req.Static) {b : Broker} (now : Nat)
    {held : Registration} (holds : b.registry req.token = some held)
    (other : held.peerEphPub ≠ req.peerEphPub) (four : held.addr.IP.length = 4) :
    ((b.step (req.turn now)).2.any fun out => out.matchedToken == some req.token) = true := by
  obtain ⟨src4, fromSrc⟩ := static.exists_src
  rw [match_turn static now holds other four fromSrc]
  simp only [List.any_cons, matchedToken_PeerMatchedPlaintext, padOrTruncate_of_length static.token_length,
    beq_self_eq_true, Bool.true_or]

end RegisterRequest

namespace Broker

/-- A peer holds a free token at `t0`; turns follow that do not register it; then another key
registers it at `t1`. A PEER_MATCHED for the token is written exactly when no read timed out
later than the hold's expiry, `t0` plus the TTL. Nothing bounds `t1`: the hold is matched
however long it has expired, as long as packets kept every read from timing out. -/
theorem Run_hold_then_join (b : Broker) (held joining : RegisterRequest) (t0 t1 : Nat)
    (mid : List LoopEvent) (heldStatic : held.Static) (joiningStatic : joining.Static)
    (sameToken : joining.token = held.token) (otherKey : joining.peerEphPub ≠ held.peerEphPub)
    (free : b.registry held.token = none)
    (untouched : ∀ event ∈ mid, event.Touches held.token = false) :
    ((b.Run (held.turn t0 :: mid ++ [joining.turn t1])).2.any
        fun out => out.matchedToken == some held.token) =
      !mid.any (·.timeoutAfter (t0 + b.ttl)) := by
  obtain ⟨addr, four, holds, silent⟩ := held.hold_turn heldStatic t0 free
  have kept := Run_registry_of_untouched (b.step (held.turn t0)).1 mid untouched
  rw [holds, Option.filter_some] at kept
  have midSilent : ((((b.step (held.turn t0)).1.Run mid).2.any
      fun out => out.matchedToken == some held.token)) = false :=
    List.any_eq_false.mpr fun out sent matched =>
      Run_matchedToken_of_untouched _ mid untouched out sent (beq_iff_eq.mp matched)
  rw [sent_Run_cons_append, List.any_append, List.any_append, silent, midSilent, List.any_nil,
    Bool.false_or, Bool.false_or]
  rw [← sameToken] at kept ⊢
  cases late : mid.any (·.timeoutAfter (t0 + b.ttl))
  · rw [late, Bool.not_false, if_pos rfl] at kept
    exact RegisterRequest.join_turn joiningStatic t1 kept (Ne.symm otherKey) four
  · rw [late, Bool.not_true, if_neg Bool.false_ne_true] at kept
    obtain ⟨-, -, -, silentJoin⟩ := joining.hold_turn joiningStatic t1 kept
    rw [silentJoin]
    rfl

/-- A peer holds a free token, then another key registers it: the run writes the two
PEER_MATCHED, and the one to the second peer gives the first peer's observed source. -/
theorem Run_hold_then_match (b : Broker) (held joining : RegisterRequest) (t0 t1 : Nat)
    (heldStatic : held.Static) (joiningStatic : joining.Static)
    (sameToken : joining.token = held.token) (otherKey : joining.peerEphPub ≠ held.peerEphPub)
    (free : b.registry held.token = none) {heldAddr joiningAddr : UDPAddr}
    (heldFrom : ipv4FromAddr held.src = some heldAddr)
    (joiningFrom : ipv4FromAddr joining.src = some joiningAddr) :
    (b.Run [held.turn t0, joining.turn t1]).2 =
      [.notify (PeerMatchedPlaintext held.token held.peerEphPub heldAddr.IP heldAddr.Port)
          joining.peerEphPub joiningAddr,
        .notify (PeerMatchedPlaintext held.token joining.peerEphPub joining.ip joining.port)
          held.peerEphPub heldAddr] := by
  obtain ⟨holds, silent⟩ := held.hold_turn_eq heldStatic t0 free heldFrom
  rw [← sameToken] at holds ⊢
  rw [Run_cons, Run_cons, Run, silent, List.nil_append, List.append_nil,
    joining.match_turn joiningStatic t1 holds (Ne.symm otherKey)
      (length_of_ipv4FromAddr heldFrom) joiningFrom]

/-- The run writes what the first peer's REGISTER claims exactly when that claim is its observed
source. -/
theorem Run_hold_then_match_claimed (b : Broker) (held joining : RegisterRequest) (t0 t1 : Nat)
    (heldStatic : held.Static) (joiningStatic : joining.Static)
    (sameToken : joining.token = held.token) (otherKey : joining.peerEphPub ≠ held.peerEphPub)
    (free : b.registry held.token = none) {heldAddr joiningAddr : UDPAddr}
    (heldFrom : ipv4FromAddr held.src = some heldAddr)
    (joiningFrom : ipv4FromAddr joining.src = some joiningAddr) :
    (b.Run [held.turn t0, joining.turn t1]).2 =
        [.notify (PeerMatchedPlaintext held.token held.peerEphPub held.ip held.port)
            joining.peerEphPub joiningAddr,
          .notify (PeerMatchedPlaintext held.token joining.peerEphPub joining.ip joining.port)
            held.peerEphPub heldAddr] ↔
      To4 held.ip = some heldAddr.IP ∧ held.port = heldAddr.Port % 256 ^ portSize := by
  obtain ⟨ip4, to4⟩ := heldStatic.exists_To4
  rw [Run_hold_then_match b held joining t0 t1 heldStatic joiningStatic sameToken otherKey free
    heldFrom joiningFrom]
  -- the two lists differ at most in the address and port of the first write
  simp only [List.cons.injEq, Outgoing.notify.injEq, and_true]
  rw [PeerMatchedPlaintext_eq_iff (To4_of_length (length_of_ipv4FromAddr heldFrom)) to4, to4,
    Option.some_inj, Nat.mod_eq_of_lt heldStatic.port_lt]
  exact and_congr eq_comm eq_comm

end Broker

/-! ### Matching against an expired hold -/

/-- A token two peers register, 16 bytes of 7. -/
def busyToken : Bytes := List.replicate 16 7

/-- The peer that holds `busyToken` first. -/
def heldRequest : RegisterRequest :=
  ⟨busyToken, List.replicate 32 1, [10, 0, 0, 1], 4000, ⟨[203, 0, 113, 5], 4000⟩⟩

/-- The peer that registers `busyToken` second, under another key. -/
def joiningRequest : RegisterRequest :=
  ⟨busyToken, List.replicate 32 2, [10, 0, 0, 2], 5000, ⟨[198, 51, 100, 7], 5000⟩⟩

/-- STUN_ECHO requests from a third peer at 0.4 s, 0.8 s and 1.2 s. -/
def echoTurns : List LoopEvent :=
  [1, 2, 3].map fun n =>
    .packet (n * 400000000) (magic ++ [ver, opcodeEcho]) ⟨[192, 0, 2, 9], 6000⟩ true fun _ => 0

end Kamune
