/-
**The relay's session table and its connection handlers (`cmd/relay`).**

The relay pairs two peers by a token. A listener registers a session (`Create` draws a random
token, `CreateWith` takes the caller's, static or ECDH-derived), a dialer joins it (`Join`), and
from then on each side's `ReadPump` forwards what it reads to the other member (`Recipient`). An
unpaired session expires with its token's TTL, a paired one with the session TTL; `purgeExpired`,
run by a ticker and before every registration, deletes the expired ones and closes their
channels. When a handler's channel fails, its deferred `ClosePeerChannel` closes the other side,
and the handler calls `Unregister` on the token it registered.

The table is an association list keyed by the token itself, `%x` being injective. Each connection
handler (`handleRelayConn`) is a phase of its channel; the relay is the table, the channels closed
so far and the handlers, and it runs by events: one handler's step, a channel whose remote end
went away, or a tick of the cleanup loop. The HPKE acceptance and the password check before the
`Register` frame touch nothing shared and are left out.

* `SessionManager.Recipient_eq_ok`: a sender is only ever forwarded to the other member of its own
  session;
* `Relay.run_bounded`: over every run the table holds at most `maxConns` sessions;
* `Relay.step_register_expired`, `Relay.step_unregister`: a `Join` past the token's expiry, and
  an `Unregister`, delete the session under the token whoever it belongs to.
-/

import Kamune.Wire.Integers

namespace Kamune

open Wire

set_option linter.unusedSectionVars false

/-! ### Tokens -/

/-- `relayTokenSize`: the bytes of a token the relay draws. -/
def relayTokenSize : Nat := 16

/-- `peerTokenSize`: the bytes of a token a peer brings. -/
def peerTokenSize : Nat := 32

/-- The errors of the session table. -/
inductive SessionError where
  /-- `ErrSessionFull`. -/
  | sessionFull
  /-- `ErrTokenNotFound`. -/
  | tokenNotFound
  /-- `ErrTokenConsumed`. -/
  | tokenConsumed
  /-- `ErrPeerNotFound`. -/
  | peerNotFound
  /-- `ErrSessionExpired`. -/
  | sessionExpired
  /-- `ErrTokenInUse`. -/
  | tokenInUse
  /-- `ErrTokenTooShort`. -/
  | tokenTooShort
  /-- `ErrTokenInsufficientEntropy`. -/
  | tokenInsufficientEntropy
  deriving DecidableEq, Repr

/-- `ValidateUserToken`: 32 bytes, not all zero, not one byte repeated, and more than three bits
of Shannon entropy a byte. `entropyAbove` is that last test, which the code computes in floating
point. -/
def ValidateUserToken (entropyAbove : Bytes → Bool) (token : Bytes) : Except SessionError Unit :=
  if token.length ≠ peerTokenSize then .error .tokenTooShort
  else if token.all (· == 0) then .error .tokenInsufficientEntropy
  else if (token.drop 1).all (· == token.headD 0) then .error .tokenInsufficientEntropy
  else if !entropyAbove token then .error .tokenInsufficientEntropy
  else .ok ()

/-! ### The session table -/

/-- A relay `session`: the listener that registered it, the dialer once one joined, when its token
expires, and when the paired session expires (`none` for Go's zero time). Channels are the
handlers' `*exchange.Channel`, compared as pointers. -/
structure Session (Chan : Type) where
  listener : Chan
  dialer : Option Chan
  expiry : Nat
  sessionExpiry : Option Nat
  deriving DecidableEq, Repr

variable {Chan : Type} [DecidableEq Chan]

/-- The two cases `purgeExpired` deletes: an unpaired session past its token's expiry, a paired
one past a session expiry that was set. -/
def Session.Expired (sess : Session Chan) (now : Nat) : Bool :=
  match sess.dialer, sess.sessionExpiry with
  | none, _ => decide (sess.expiry < now)
  | some _, some sessionExpiry => decide (sessionExpiry < now)
  | some _, none => false

/-- The channels `purgeExpired` closes with a session: its listener, and its dialer if any. -/
def Session.channels (sess : Session Chan) : List Chan := sess.listener :: sess.dialer.toList

/-- `SessionManager`: the sessions by token, the token TTL, the session TTL and `maxConns`. -/
structure SessionManager (Chan : Type) where
  sessions : AList fun _ : Bytes => Session Chan
  ttl : Nat
  sessionTTL : Nat
  maxConns : Nat

/-- `len(sm.sessions)`. -/
def SessionManager.size (sm : SessionManager Chan) : Nat := sm.sessions.entries.length

/-- `purgeExpired` at clock time `now`: the table without its expired sessions, and the channels
it closes. Deleting the current key while ranging over a map visits every other key, so the
result is a filter. -/
def SessionManager.purgeExpired (sm : SessionManager Chan) (now : Nat) :
    SessionManager Chan × List Chan :=
  ({ sm with
      sessions := ⟨sm.sessions.entries.filter fun entry => !entry.2.Expired now,
        List.NodupKeys.sublist List.filter_sublist sm.sessions.nodupKeys⟩ },
    (sm.sessions.entries.filter fun entry => entry.2.Expired now).flatMap
      fun entry => entry.2.channels)

/-- `Create` at clock time `now`, with `random` the token `rand.Read` draws: purge, then register
an unpaired session unless the table is full. -/
def SessionManager.Create (sm : SessionManager Chan) (listener : Chan) (now : Nat)
    (random : Bytes) : SessionManager Chan × List Chan × Except SessionError Bytes :=
  let (sm, closed) := sm.purgeExpired now
  if sm.maxConns ≤ sm.size then (sm, closed, .error .sessionFull)
  else
    ({ sm with sessions := sm.sessions.insert random ⟨listener, none, now + sm.ttl, none⟩ },
      closed, .ok random)

/-- `CreateWith` at clock time `now`: validate the token, purge, then register an unpaired
session unless the table is full (checked first) or the token is in use. -/
def SessionManager.CreateWith (entropyAbove : Bytes → Bool) (sm : SessionManager Chan)
    (listener : Chan) (token : Bytes) (now : Nat) :
    SessionManager Chan × List Chan × Except SessionError Unit :=
  match ValidateUserToken entropyAbove token with
  | .error err => (sm, [], .error err)
  | .ok () =>
    let (sm, closed) := sm.purgeExpired now
    if sm.maxConns ≤ sm.size then (sm, closed, .error .sessionFull)
    else if token ∈ sm.sessions then (sm, closed, .error .tokenInUse)
    else
      ({ sm with sessions := sm.sessions.insert token ⟨listener, none, now + sm.ttl, none⟩ },
        closed, .ok ())

/-- `Join` at clock time `now`. A session past its token's expiry is deleted, paired or not,
and none of its channels is closed. -/
def SessionManager.Join (sm : SessionManager Chan) (token : Bytes) (dialer : Chan) (now : Nat) :
    SessionManager Chan × Except SessionError Unit :=
  match sm.sessions.lookup token with
  | none => (sm, .error .tokenNotFound)
  | some sess =>
    if sess.expiry < now then
      ({ sm with sessions := sm.sessions.erase token }, .error .sessionExpired)
    else if sess.dialer.isSome then (sm, .error .tokenConsumed)
    else
      ({ sm with
          sessions := sm.sessions.replace token
            { sess with
                dialer := some dialer
                sessionExpiry :=
                  if 0 < sm.sessionTTL then some (now + sm.sessionTTL) else sess.sessionExpiry } },
        .ok ())

/-- `Recipient`: the other member of the sender's session. -/
def SessionManager.Recipient (sm : SessionManager Chan) (token : Bytes) (sender : Chan) :
    Except SessionError Chan :=
  match sm.sessions.lookup token with
  | none => .error .tokenNotFound
  | some sess =>
    if sender = sess.listener then
      match sess.dialer with
      | none => .error .peerNotFound
      | some dialer => .ok dialer
    else if some sender = sess.dialer then .ok sess.listener
    else .error .peerNotFound

/-- `ClosePeerChannel`: the channel it closes, the other member of the closed channel's
session. -/
def SessionManager.ClosePeerChannel (sm : SessionManager Chan) (token : Bytes) (closed : Chan) :
    Option Chan :=
  match sm.sessions.lookup token with
  | none => none
  | some sess =>
    if closed = sess.listener then sess.dialer
    else if some closed = sess.dialer then some sess.listener
    else none

/-- `Remove`. -/
def SessionManager.Remove (sm : SessionManager Chan) (token : Bytes) : SessionManager Chan :=
  { sm with sessions := sm.sessions.erase token }

/-! ### The connection handlers -/

/-- The `Register` frame a handler reads: `MODE_CREATE` with the listener's token (empty for one
the relay draws), `MODE_JOIN` with the dialer's, or `MODE_UNSPECIFIED`. -/
inductive Register where
  | create (token : Bytes)
  | join (token : Bytes)
  | unspecified
  deriving DecidableEq, Repr

/-- Where the `handleRelayConn` of a channel is. -/
inductive Phase where
  /-- No handler runs on the channel. -/
  | idle
  /-- It has read the `Register` frame. -/
  | registering (request : Register)
  /-- In `ReadPump` on the token it registered. -/
  | pumping (token : Bytes)
  /-- `ReadPump` returned; its deferred `ClosePeerChannel` is next. -/
  | closingPeer (token : Bytes)
  /-- `Unregister(sentToken)` is next. -/
  | unregistering (token : Bytes)
  /-- The handler returned. -/
  | finished
  deriving DecidableEq, Repr

/-- The relay: the session table, the channels closed so far, and each channel's handler. -/
structure Relay (Chan : Type) where
  manager : SessionManager Chan
  closed : List Chan
  phase : Chan → Phase

/-- What can happen next in the relay. -/
inductive Event (Chan : Type) where
  /-- A connection is accepted on `ch` and its `Register` frame read. -/
  | connect (ch : Chan) (request : Register)
  /-- The handler on `ch` registers, at clock time `now`; `random` is the draw of `Create`. -/
  | register (ch : Chan) (now : Nat) (random : Bytes)
  /-- The remote end of `ch` goes away: its reads fail from now on. -/
  | drop (ch : Chan)
  /-- `ReadPump` on `ch` reads a `Msg` frame and forwards it. -/
  | forward (ch : Chan)
  /-- `ReadPump` on `ch` fails to read and returns. -/
  | pumpExit (ch : Chan)
  /-- The deferred `ClosePeerChannel` of the handler on `ch`. -/
  | closePeer (ch : Chan)
  /-- The `Unregister` of the handler on `ch`. -/
  | unregister (ch : Chan)
  /-- A tick of `cleanupLoop` at clock time `now`. -/
  | purge (now : Nat)

namespace Relay

/-- The relay with `chans` closed as well. -/
def close (r : Relay Chan) (chans : List Chan) : Relay Chan :=
  { r with closed := r.closed ++ chans }

/-- The relay with the handler on `ch` moved to `next`. -/
def setPhase (r : Relay Chan) (ch : Chan) (next : Phase) : Relay Chan :=
  { r with phase := Function.update r.phase ch next }

/-- A handler that gives up: it closes its channel and returns. -/
def giveUp (r : Relay Chan) (ch : Chan) : Relay Chan := (r.close [ch]).setPhase ch .finished

/-- A successful registration: the `Registered` frame is written, which fails on a closed
channel, and then `ReadPump` runs; a failed write returns without `Unregister`. -/
def registered (r : Relay Chan) (ch : Chan) (token : Bytes) : Relay Chan :=
  if ch ∈ r.closed then r.giveUp ch else r.setPhase ch (.pumping token)

variable (entropyAbove : Bytes → Bool)

/-- The registration of `handleRelayConn` on `ch` at clock time `now`. -/
def registerStep (r : Relay Chan) (ch : Chan) (request : Register) (now : Nat)
    (random : Bytes) : Relay Chan :=
  match request with
  | .create token =>
    if token = [] then
      let (sm, purged, result) := r.manager.Create ch now random
      let r := { r with manager := sm }.close purged
      match result with
      | .ok sentToken => r.registered ch sentToken
      | .error _ => r.giveUp ch
    else
      let (sm, purged, result) := r.manager.CreateWith entropyAbove ch token now
      let r := { r with manager := sm }.close purged
      match result with
      | .ok () => r.registered ch token
      | .error _ => r.giveUp ch
  | .join token =>
    if token = [] then r.giveUp ch
    else
      let (sm, result) := r.manager.Join token ch now
      let r := { r with manager := sm }
      match result with
      | .ok () => r.registered ch token
      | .error _ => r.giveUp ch
  | .unspecified => r.giveUp ch

/-- One event. An event whose handler is not in the phase it needs changes nothing. -/
def step (r : Relay Chan) : Event Chan → Relay Chan
  | .connect ch request => if r.phase ch = .idle then r.setPhase ch (.registering request) else r
  | .register ch now random =>
    match r.phase ch with
    | .registering request => r.registerStep entropyAbove ch request now random
    | _ => r
  | .drop ch => r.close [ch]
  | .forward ch =>
    match r.phase ch with
    | .pumping token =>
      if ch ∈ r.closed then r
      else
        match r.manager.Recipient token ch with
        -- `handleMessage`: a write to a closed recipient fails and closes both sides
        | .ok recipient => if recipient ∈ r.closed then r.close [ch, recipient] else r
        | .error _ => r
    | _ => r
  | .pumpExit ch =>
    match r.phase ch with
    | .pumping token => if ch ∈ r.closed then r.setPhase ch (.closingPeer token) else r
    | _ => r
  | .closePeer ch =>
    match r.phase ch with
    | .closingPeer token =>
      (r.close (r.manager.ClosePeerChannel token ch).toList).setPhase ch (.unregistering token)
    | _ => r
  | .unregister ch =>
    match r.phase ch with
    | .unregistering token => { r with manager := r.manager.Remove token }.giveUp ch
    | _ => r
  | .purge now =>
    let (sm, purged) := r.manager.purgeExpired now
    { r with manager := sm }.close purged

/-- A run of events. -/
def run (r : Relay Chan) (events : List (Event Chan)) : Relay Chan :=
  events.foldl (step entropyAbove) r

end Relay

/-- The relay as it starts: no session, no closed channel, no handler. -/
def Relay.initial (ttl sessionTTL maxConns : Nat) : Relay Chan where
  manager := { sessions := ∅, ttl := ttl, sessionTTL := sessionTTL, maxConns := maxConns }
  closed := []
  phase := fun _ => .idle

/-! ### The table's operations -/

namespace SessionManager

/-- The table holds at most `maxConns` sessions. -/
def Bounded (sm : SessionManager Chan) : Prop := sm.size ≤ sm.maxConns

theorem size_insert_le (sm : SessionManager Chan) (token : Bytes) (sess : Session Chan) :
    ({ sm with sessions := sm.sessions.insert token sess } : SessionManager Chan).size ≤
      sm.size + 1 := by
  unfold size
  rw [AList.entries_insert, List.length_cons]
  exact Nat.add_le_add_right (List.kerase_sublist token sm.sessions.entries).length_le 1

theorem size_Remove_le (sm : SessionManager Chan) (token : Bytes) :
    (sm.Remove token).size ≤ sm.size :=
  (List.kerase_sublist token sm.sessions.entries).length_le

theorem size_replace (sm : SessionManager Chan) (token : Bytes) (sess : Session Chan) :
    ({ sm with sessions := sm.sessions.replace token sess } : SessionManager Chan).size =
      sm.size := by
  have sameKeys := congrArg List.length (AList.keys_replace token sess sm.sessions)
  show (sm.sessions.replace token sess).entries.length = sm.sessions.entries.length
  simpa [AList.keys, List.keys] using sameKeys

@[simp] theorem maxConns_purgeExpired (sm : SessionManager Chan) (now : Nat) :
    (sm.purgeExpired now).1.maxConns = sm.maxConns := rfl

theorem size_purgeExpired_le (sm : SessionManager Chan) (now : Nat) :
    (sm.purgeExpired now).1.size ≤ sm.size :=
  List.length_filter_le _ _

theorem Bounded.purgeExpired {sm : SessionManager Chan} (bounded : sm.Bounded) (now : Nat) :
    (sm.purgeExpired now).1.Bounded :=
  (size_purgeExpired_le sm now).trans bounded

/-- Registering into a table below its bound keeps it within the bound. -/
theorem Bounded.insert {sm : SessionManager Chan} (room : ¬sm.maxConns ≤ sm.size)
    (token : Bytes) (sess : Session Chan) :
    ({ sm with sessions := sm.sessions.insert token sess } : SessionManager Chan).Bounded := by
  show _ ≤ sm.maxConns
  have grown := size_insert_le sm token sess
  omega

theorem Bounded.Create {sm : SessionManager Chan} (bounded : sm.Bounded) (listener : Chan)
    (now : Nat) (random : Bytes) : (sm.Create listener now random).1.Bounded := by
  unfold SessionManager.Create
  dsimp only
  split
  case isTrue => exact bounded.purgeExpired now
  case isFalse room => exact Bounded.insert room _ _

theorem Bounded.CreateWith {sm : SessionManager Chan} (bounded : sm.Bounded)
    (entropyAbove : Bytes → Bool) (listener : Chan) (token : Bytes) (now : Nat) :
    (sm.CreateWith entropyAbove listener token now).1.Bounded := by
  unfold SessionManager.CreateWith
  split
  case h_1 => exact bounded
  case h_2 =>
    dsimp only
    split
    case isTrue => exact bounded.purgeExpired now
    case isFalse room =>
      split
      case isTrue => exact bounded.purgeExpired now
      case isFalse => exact Bounded.insert room _ _

theorem Bounded.Remove {sm : SessionManager Chan} (bounded : sm.Bounded) (token : Bytes) :
    (sm.Remove token).Bounded :=
  (size_Remove_le sm token).trans bounded

theorem Bounded.Join {sm : SessionManager Chan} (bounded : sm.Bounded) (token : Bytes)
    (dialer : Chan) (now : Nat) : (sm.Join token dialer now).1.Bounded := by
  unfold SessionManager.Join
  split
  case h_1 => exact bounded
  case h_2 sess _ =>
    split
    case isTrue => exact bounded.Remove token
    case isFalse =>
      split
      case isTrue => exact bounded
      case isFalse =>
        show _ ≤ sm.maxConns
        rw [size_replace]
        exact bounded

/-- A `Join` past the token's expiry deletes the session and says `ErrSessionExpired`. -/
theorem Join_expired {sm : SessionManager Chan} {token : Bytes} {sess : Session Chan}
    (found : sm.sessions.lookup token = some sess) {now : Nat} (late : sess.expiry < now)
    (dialer : Chan) : sm.Join token dialer now = (sm.Remove token, .error .sessionExpired) := by
  unfold SessionManager.Join
  rw [found]
  exact if_pos late

/-- **`Recipient` forwards only within the sender's session**: to the dialer when the sender is
the listener, to the listener when it is the dialer. -/
theorem Recipient_eq_ok {sm : SessionManager Chan} {token : Bytes} {sender recipient : Chan}
    (forwarded : sm.Recipient token sender = .ok recipient) :
    ∃ sess, sm.sessions.lookup token = some sess ∧
      (sender = sess.listener ∧ sess.dialer = some recipient ∨
        sess.dialer = some sender ∧ recipient = sess.listener) := by
  unfold SessionManager.Recipient at forwarded
  split at forwarded
  case h_1 => cases forwarded
  case h_2 sess found =>
    refine ⟨sess, found, ?_⟩
    split at forwarded
    case isTrue isListener =>
      split at forwarded
      case h_1 => cases forwarded
      case h_2 dialer paired =>
        cases forwarded
        exact .inl ⟨isListener, paired⟩
    case isFalse =>
      split at forwarded
      case isTrue isDialer =>
        cases forwarded
        exact .inr ⟨isDialer.symm, rfl⟩
      case isFalse => cases forwarded

end SessionManager

/-! ### Runs of the relay -/

namespace Relay

variable (entropyAbove : Bytes → Bool)

@[simp] theorem manager_close (r : Relay Chan) (chans : List Chan) :
    (r.close chans).manager = r.manager := rfl

@[simp] theorem manager_setPhase (r : Relay Chan) (ch : Chan) (next : Phase) :
    (r.setPhase ch next).manager = r.manager := rfl

@[simp] theorem manager_giveUp (r : Relay Chan) (ch : Chan) : (r.giveUp ch).manager = r.manager :=
  rfl

@[simp] theorem manager_registered (r : Relay Chan) (ch : Chan) (token : Bytes) :
    (r.registered ch token).manager = r.manager := by
  unfold registered
  split <;> rfl

/-- The table after a registration: what `Create`, `CreateWith` or `Join` left, or the table as
it was when the request is refused before reaching it. -/
theorem manager_registerStep (r : Relay Chan) (ch : Chan) (request : Register) (now : Nat)
    (random : Bytes) :
    (r.registerStep entropyAbove ch request now random).manager =
      match request with
      | .create token =>
        if token = [] then (r.manager.Create ch now random).1
        else (r.manager.CreateWith entropyAbove ch token now).1
      | .join token => if token = [] then r.manager else (r.manager.Join token ch now).1
      | .unspecified => r.manager := by
  unfold registerStep
  cases request with
  | create token =>
    dsimp only
    split
    · split <;> simp
    · split <;> simp
  | join token =>
    dsimp only
    split
    · simp
    · split <;> simp
  | unspecified => simp

/-- **One event keeps the table within `maxConns`.** -/
theorem step_bounded {r : Relay Chan} (bounded : r.manager.Bounded) (event : Event Chan) :
    (r.step entropyAbove event).manager.Bounded := by
  cases event with
  | connect ch request =>
    rw [step]
    split <;> exact bounded
  | register ch now random =>
    rw [step]
    split
    case h_1 request _ =>
      rw [manager_registerStep]
      cases request with
      | create token =>
        dsimp only
        split
        · exact bounded.Create ch now random
        · exact bounded.CreateWith entropyAbove ch token now
      | join token =>
        dsimp only
        split
        · exact bounded
        · exact bounded.Join token ch now
      | unspecified => exact bounded
    case h_2 => exact bounded
  | drop ch => exact bounded
  | forward ch =>
    -- forwarding only reads the table
    rw [step]
    split
    · split
      · exact bounded
      · split
        · split <;> exact bounded
        · exact bounded
    · exact bounded
  | pumpExit ch =>
    rw [step]
    split
    · split <;> exact bounded
    · exact bounded
  | closePeer ch =>
    rw [step]
    split <;> exact bounded
  | unregister ch =>
    rw [step]
    split
    · exact bounded.Remove _
    · exact bounded
  | purge now => exact bounded.purgeExpired now

/-- **Over every run the table holds at most `maxConns` sessions.** -/
theorem run_bounded : ∀ {r : Relay Chan}, r.manager.Bounded →
    ∀ events : List (Event Chan), (r.run entropyAbove events).manager.Bounded
  | _, bounded, [] => bounded
  | _, bounded, event :: events => run_bounded (step_bounded entropyAbove bounded event) events

/-- A `Join` past the token's expiry, from a handler that is registering: the session is deleted,
the joining handler gives up, and nothing else changes. -/
theorem step_register_expired {r : Relay Chan} {token : Bytes} {sess : Session Chan}
    (found : r.manager.sessions.lookup token = some sess) {now : Nat} (late : sess.expiry < now)
    {ch : Chan} (joining : r.phase ch = .registering (.join token)) (nonempty : token ≠ [])
    (random : Bytes) :
    r.step entropyAbove (.register ch now random) =
      ({ r with manager := r.manager.Remove token } : Relay Chan).giveUp ch := by
  rw [step, joining]
  dsimp only [registerStep]
  rw [if_neg nonempty, SessionManager.Join_expired found late]

/-- The `Unregister` of a handler: the session under its token is deleted, whoever it belongs
to, and the handler returns. -/
theorem step_unregister {r : Relay Chan} {token : Bytes} {ch : Chan}
    (unregistering : r.phase ch = .unregistering token) :
    r.step entropyAbove (.unregister ch) =
      ({ r with manager := r.manager.Remove token } : Relay Chan).giveUp ch := by
  rw [step, unregistering]

/-- Giving up closes only the handler's own channel and moves only its phase. -/
theorem giveUp_other (r : Relay Chan) {ch other : Chan} (different : other ≠ ch) :
    (other ∈ (r.giveUp ch).closed ↔ other ∈ r.closed) ∧ (r.giveUp ch).phase other = r.phase other := by
  refine ⟨?_, Function.update_of_ne different _ _⟩
  simp only [giveUp, setPhase, close, List.mem_append, List.mem_singleton, different, or_false]

end Relay

/-! ### Who removes a session -/

section Removal

variable (entropyAbove : Bytes → Bool)

/-- **A live session can be removed by a handler that is not one of its members**: a `Join` from
a third channel once the token's TTL has passed (which pairing does not extend), or the late
`Unregister` of a handler that registered the same token before, deletes the session while its
members are open, and leaves them open. -/
theorem live_session_removed_by_stranger (r : Relay Chan) {token : Bytes} {sess : Session Chan}
    (found : r.manager.sessions.lookup token = some sess)
    (membersOpen : ∀ member ∈ sess.channels, member ∉ r.closed) :
    (∀ (stranger : Chan) (now : Nat) (random : Bytes), stranger ∉ sess.channels →
      r.phase stranger = .registering (.join token) → token ≠ [] → sess.expiry < now →
      (r.step entropyAbove (.register stranger now random)).manager.sessions.lookup token = none ∧
      ∀ member ∈ sess.channels,
        member ∉ (r.step entropyAbove (.register stranger now random)).closed) ∧
    (∀ stranger : Chan, stranger ∉ sess.channels → r.phase stranger = .unregistering token →
      (r.step entropyAbove (.unregister stranger)).manager.sessions.lookup token = none ∧
      ∀ member ∈ sess.channels, member ∉ (r.step entropyAbove (.unregister stranger)).closed) := by
  -- in both cases the step is the table without the token, and the stranger giving up
  have strangerOnly : ∀ stranger, stranger ∉ sess.channels →
      (({ r with manager := r.manager.Remove token } : Relay Chan).giveUp
        stranger).manager.sessions.lookup token = none ∧
      ∀ member ∈ sess.channels,
        member ∉ (({ r with manager := r.manager.Remove token } : Relay Chan).giveUp
          stranger).closed := by
    intro stranger notMember
    refine ⟨AList.lookup_erase token _, fun member isMember => ?_⟩
    have different : member ≠ stranger := fun same => notMember (same ▸ isMember)
    rw [(Relay.giveUp_other _ different).1]
    exact membersOpen member isMember
  constructor
  · intro stranger now random notMember joining nonempty late
    rw [Relay.step_register_expired entropyAbove found late joining nonempty]
    exact strangerOnly stranger notMember
  · intro stranger notMember unregistering
    rw [Relay.step_unregister entropyAbove unregistering]
    exact strangerOnly stranger notMember

/-- Listener `1` registers a static token at time `0`; its session expires unpaired and is purged
at `11`, which closes `1`; before `1` unregisters, listener `2` registers the same token and `3`
joins; then `4` tries to join the same token at `23`, past the token's TTL of `10`. -/
theorem live_session_removed_by_stranger_example :
    let token : Bytes := (List.range 32).map UInt8.ofNat
    let relay := (Relay.initial 10 100 8 : Relay Nat).run (fun _ => true)
      [.connect 1 (.create token), .register 1 0 [], .purge 11, .pumpExit 1, .closePeer 1,
        .connect 2 (.create token), .register 2 12 [], .connect 3 (.join token),
        .register 3 13 [], .connect 4 (.join token)]
    relay.phase 2 = .pumping token ∧ relay.phase 3 = .pumping token ∧
    ((relay.step (fun _ => true) (.register 4 23 [])).manager.sessions.lookup token = none ∧
      ∀ member ∈ [2, 3], member ∉ (relay.step (fun _ => true) (.register 4 23 [])).closed) ∧
    ((relay.step (fun _ => true) (.unregister 1)).manager.sessions.lookup token = none ∧
      ∀ member ∈ [2, 3], member ∉ (relay.step (fun _ => true) (.unregister 1)).closed) := by
  intro token relay
  have found : relay.manager.sessions.lookup token = some ⟨2, some 3, 22, some 113⟩ := by decide
  have removed := live_session_removed_by_stranger (fun _ => true) relay found (by decide)
  exact ⟨by decide, by decide,
    removed.1 4 23 [] (by decide) (by decide) (by decide) (by decide),
    removed.2 1 (by decide) (by decide)⟩

/-- **A session deleted by `Join`'s expiry branch leaves its members waiting**: the session is
gone, and its listener and dialer, unless the joiner is one of them, are neither closed nor moved
on; nothing will close them for it, since `purgeExpired` no longer sees the session. -/
theorem expired_join_leaves_members_open (r : Relay Chan) {token : Bytes} {sess : Session Chan}
    {joiner : Chan} {now : Nat} (found : r.manager.sessions.lookup token = some sess)
    (late : sess.expiry < now) (joining : r.phase joiner = .registering (.join token))
    (nonempty : token ≠ []) (random : Bytes) :
    (r.step entropyAbove (.register joiner now random)).manager.sessions.lookup token = none ∧
    ∀ member ∈ sess.channels, member ≠ joiner → member ∉ r.closed →
      member ∉ (r.step entropyAbove (.register joiner now random)).closed ∧
      (r.step entropyAbove (.register joiner now random)).phase member = r.phase member := by
  rw [Relay.step_register_expired entropyAbove found late joining nonempty]
  refine ⟨AList.lookup_erase token _, fun member _ notJoiner isOpen => ?_⟩
  obtain ⟨sameClosed, samePhase⟩ := Relay.giveUp_other { r with manager := r.manager.Remove token }
    notJoiner
  exact ⟨fun closed => isOpen (sameClosed.mp closed), samePhase⟩

/-- Listener `1` registers at `0` and dialer `2` joins at `1`; a third channel tries the same
token at `11`, past the token's TTL of `10`, while the session's own TTL runs to `101`. -/
theorem expired_join_leaves_members_open_example :
    let token : Bytes := (List.range 32).map UInt8.ofNat
    let relay := (Relay.initial 10 100 8 : Relay Nat).run (fun _ => true)
      [.connect 1 (.create token), .register 1 0 [], .connect 2 (.join token), .register 2 1 [],
        .connect 3 (.join token)]
    relay.phase 1 = .pumping token ∧ relay.phase 2 = .pumping token ∧
    (relay.step (fun _ => true) (.register 3 11 [])).manager.sessions.lookup token = none ∧
    ∀ member ∈ [1, 2], member ≠ 3 → member ∉ relay.closed →
      member ∉ (relay.step (fun _ => true) (.register 3 11 [])).closed ∧
      (relay.step (fun _ => true) (.register 3 11 [])).phase member = relay.phase member := by
  intro token relay
  have found : relay.manager.sessions.lookup token = some ⟨1, some 2, 10, some 101⟩ := by decide
  exact ⟨by decide, by decide,
    expired_join_leaves_members_open (fun _ => true) relay found (by decide) (by decide)
      (by decide) []⟩

end Removal

end Kamune
