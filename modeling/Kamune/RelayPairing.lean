/-
**Over every run of the relay, each session pairs two distinct channels, and no channel is in two
sessions.**

A channel joins the table only from its own handler's registration: as the listener of a session
`Create` or `CreateWith` registers, or as the dialer a `Join` adds. A handler registers once, and
before it does, its channel is in no session. Every other change of the table removes sessions
(`purgeExpired`, `Remove`, the expiry branch of `Join`, a drawn token that replaces a session).
So over every run, whatever the timing, the expiries and the strangers' `Unregister`s, the members
of the table's sessions are channels whose handlers have registered, a session's listener is not
its dialer, and no channel is a member of two sessions. Forwarding is then a matching of channels.

* `SessionManager.Paired`: the invariant, over the table and the handlers' phases;
* `Relay.step_paired`, `Relay.run_paired`: every event keeps it;
* `relay_pairing`: it holds over every run from the start;
* `relay_forwarding_matching`: over every run, the channel a message from `ch` is forwarded to is
  not `ch`, forwards back to `ch`, and is the only one any token forwards `ch` to.
-/

import Kamune.RelaySessions
import Kamune.Lib.Table

namespace Kamune

open Wire

set_option linter.unusedSectionVars false

variable {Chan : Type} [DecidableEq Chan]

/-- A handler past its registration: only then can its channel be a member of a session. -/
def Phase.registered : Phase → Bool
  | .idle | .registering _ => false
  | _ => true

namespace SessionManager

/-- The pairing invariant of a table under the phases of the handlers. -/
structure Paired (sm : SessionManager Chan) (phase : Chan → Phase) : Prop where
  registered : ∀ {token sess}, sm.sessions.lookup token = some sess →
    ∀ ch ∈ sess.channels, (phase ch).registered = true
  distinct : ∀ {token sess}, sm.sessions.lookup token = some sess →
    sess.dialer ≠ some sess.listener
  disjoint : ∀ {token token' sess sess'}, sm.sessions.lookup token = some sess →
    sm.sessions.lookup token' = some sess' → token ≠ token' →
    ∀ ch ∈ sess.channels, ch ∉ sess'.channels

@[simp] theorem mem_channels {sess : Session Chan} {ch : Chan} :
    ch ∈ sess.channels ↔ ch = sess.listener ∨ sess.dialer = some ch := by
  simp [Session.channels]

section Paired

variable {sm : SessionManager Chan} {phase : Chan → Phase}

/-- A channel whose handler has not registered is in no session. -/
theorem Paired.not_mem (paired : sm.Paired phase) {ch : Chan}
    (unregistered : (phase ch).registered = false) {token : Bytes} {sess : Session Chan}
    (found : sm.sessions.lookup token = some sess) : ch ∉ sess.channels := fun member => by
  rw [paired.registered found ch member] at unregistered
  cases unregistered

/-- A table that finds only what a paired table finds is paired. -/
theorem Paired.of_lookup (paired : sm.Paired phase) {sm' : SessionManager Chan}
    (within : ∀ {token sess}, sm'.sessions.lookup token = some sess →
      sm.sessions.lookup token = some sess) : sm'.Paired phase where
  registered found := paired.registered (within found)
  distinct found := paired.distinct (within found)
  disjoint found found' := paired.disjoint (within found) (within found')

/-- Moving a handler to a registered phase, or moving one that has not registered, keeps the
table paired. -/
theorem Paired.update (paired : sm.Paired phase) {ch : Chan} {next : Phase}
    (allowed : next.registered = true ∨ (phase ch).registered = false) :
    sm.Paired (Function.update phase ch next) where
  registered found member isMember := by
    by_cases same : member = ch
    · subst same
      rw [Function.update_self]
      rcases allowed with registered | unregistered
      · exact registered
      · exact absurd isMember (paired.not_mem unregistered found)
    · rw [Function.update_of_ne same]
      exact paired.registered found member isMember
  distinct := paired.distinct
  disjoint := paired.disjoint

theorem Paired.purgeExpired (paired : sm.Paired phase) (now : Nat) :
    (sm.purgeExpired now).1.Paired phase :=
  paired.of_lookup (Table.lookup_of_subset fun _ member => List.mem_of_mem_filter member)

theorem Paired.Remove (paired : sm.Paired phase) (token : Bytes) :
    (sm.Remove token).Paired phase :=
  paired.of_lookup (Table.lookup_of_subset (List.kerase_sublist token sm.sessions.entries).subset)

/-- **Registering a listener.** A new unpaired session whose listener had not registered keeps the
table paired, once the listener's handler has registered. -/
theorem Paired.insert (paired : sm.Paired phase) {ch : Chan}
    (unregistered : (phase ch).registered = false) {next : Phase}
    (registered : next.registered = true) (token : Bytes) (expiry : Nat) :
    ({ sm with sessions := sm.sessions.insert token ⟨ch, none, expiry, none⟩ } :
      SessionManager Chan).Paired (Function.update phase ch next) := by
  have lookupInsert : ∀ {key sess}, (sm.sessions.insert token ⟨ch, none, expiry, none⟩).lookup key =
      some sess → key = token ∧ sess = ⟨ch, none, expiry, none⟩ ∨
        key ≠ token ∧ sm.sessions.lookup key = some sess := by
    intro key sess found
    by_cases same : key = token
    · subst same
      rw [AList.lookup_insert, Option.some.injEq] at found
      exact .inl ⟨rfl, found.symm⟩
    · rw [AList.lookup_insert_ne same] at found
      exact .inr ⟨same, found⟩
  -- an old member is not `ch`, so the update leaves its phase
  have oldMember : ∀ {key sess member}, sm.sessions.lookup key = some sess →
      member ∈ sess.channels → member ≠ ch := fun found isMember same =>
    paired.not_mem unregistered found (same ▸ isMember)
  constructor
  · intro key sess found member isMember
    rcases lookupInsert found with ⟨-, rfl⟩ | ⟨-, found⟩
    · obtain rfl : member = ch := by simpa using isMember
      rw [Function.update_self]
      exact registered
    · rw [Function.update_of_ne (oldMember found isMember)]
      exact paired.registered found member isMember
  · intro key sess found
    rcases lookupInsert found with ⟨-, rfl⟩ | ⟨-, found⟩
    · simp
    · exact paired.distinct found
  · intro key key' sess sess' found found' different member isMember
    rcases lookupInsert found with ⟨rfl, rfl⟩ | ⟨-, old⟩
    · rcases lookupInsert found' with ⟨rfl, -⟩ | ⟨-, old'⟩
      · exact absurd rfl different
      · obtain rfl : member = ch := by simpa using isMember
        exact paired.not_mem unregistered old'
    · rcases lookupInsert found' with ⟨-, rfl⟩ | ⟨-, old'⟩
      · simpa using oldMember old isMember
      · exact paired.disjoint old old' different member isMember

/-- **Adding a dialer.** A dialer that had not registered, added to a session, keeps the table
paired once its handler has registered. -/
theorem Paired.replaceDialer (paired : sm.Paired phase) {ch : Chan}
    (unregistered : (phase ch).registered = false) {next : Phase}
    (registered : next.registered = true) {token : Bytes} {sess : Session Chan}
    (found : sm.sessions.lookup token = some sess) (sessionExpiry : Option Nat) :
    ({ sm with
        sessions := sm.sessions.replace token
          { sess with dialer := some ch, sessionExpiry := sessionExpiry } } :
      SessionManager Chan).Paired (Function.update phase ch next) := by
  have present : token ∈ sm.sessions := AList.lookup_isSome.mp (by rw [found]; rfl)
  have lookupReplace : ∀ {key sess'}, (sm.sessions.replace token
      ({ sess with dialer := some ch, sessionExpiry := sessionExpiry })).lookup key = some sess' →
      key = token ∧ sess' = { sess with dialer := some ch, sessionExpiry := sessionExpiry } ∨
        key ≠ token ∧ sm.sessions.lookup key = some sess' := by
    intro key sess' found'
    by_cases same : key = token
    · subst same
      rw [Table.lookup_replace_self present, Option.some.injEq] at found'
      exact .inl ⟨rfl, found'.symm⟩
    · rw [Table.lookup_replace_ne same] at found'
      exact .inr ⟨same, found'⟩
  have oldMember : ∀ {key sess' member}, sm.sessions.lookup key = some sess' →
      member ∈ sess'.channels → member ≠ ch := fun found isMember same =>
    paired.not_mem unregistered found (same ▸ isMember)
  have listenerOld : sess.listener ≠ ch := oldMember found (by simp)
  constructor
  · intro key sess' found' member isMember
    rcases lookupReplace found' with ⟨-, rfl⟩ | ⟨-, found'⟩
    · rcases mem_channels.mp isMember with rfl | joined
      · rw [Function.update_of_ne listenerOld]
        exact paired.registered found _ (by simp)
      · obtain rfl : member = ch := (Option.some.inj joined).symm
        rw [Function.update_self]
        exact registered
    · rw [Function.update_of_ne (oldMember found' isMember)]
      exact paired.registered found' member isMember
  · intro key sess' found'
    rcases lookupReplace found' with ⟨-, rfl⟩ | ⟨-, found'⟩
    · simpa [eq_comm] using listenerOld
    · exact paired.distinct found'
  · intro key key' sess₁ sess₂ found₁ found₂ different member isMember
    rcases lookupReplace found₁ with ⟨rfl, rfl⟩ | ⟨other₁, old₁⟩
    · rcases lookupReplace found₂ with ⟨rfl, -⟩ | ⟨other₂, old₂⟩
      · exact absurd rfl different
      · rcases mem_channels.mp isMember with rfl | joined
        · exact paired.disjoint found old₂ (Ne.symm other₂) _ (by simp)
        · obtain rfl : member = ch := (Option.some.inj joined).symm
          exact paired.not_mem unregistered old₂
    · rcases lookupReplace found₂ with ⟨-, rfl⟩ | ⟨-, old₂⟩
      · have notListener : member ≠ sess.listener := fun same =>
          paired.disjoint old₁ found other₁ member isMember (by simp [same])
        simp [notListener, Ne.symm (oldMember old₁ isMember)]
      · exact paired.disjoint old₁ old₂ different member isMember

/-! ### The registrations -/

variable {ch : Chan} {next : Phase}

theorem Paired.Create (paired : sm.Paired phase) (unregistered : (phase ch).registered = false)
    (registered : next.registered = true) (now : Nat) (random : Bytes) :
    (sm.Create ch now random).1.Paired (Function.update phase ch next) := by
  unfold SessionManager.Create
  dsimp only
  split
  case isTrue => exact (paired.purgeExpired now).update (.inl registered)
  case isFalse =>
    exact (paired.purgeExpired now).insert unregistered registered random _

theorem Paired.CreateWith (paired : sm.Paired phase) (unregistered : (phase ch).registered = false)
    (registered : next.registered = true) (entropyAbove : Bytes → Bool) (token : Bytes)
    (now : Nat) : (sm.CreateWith entropyAbove ch token now).1.Paired
      (Function.update phase ch next) := by
  unfold SessionManager.CreateWith
  split
  case h_1 => exact paired.update (.inl registered)
  case h_2 =>
    dsimp only
    split
    case isTrue => exact (paired.purgeExpired now).update (.inl registered)
    case isFalse =>
      split
      case isTrue => exact (paired.purgeExpired now).update (.inl registered)
      case isFalse => exact (paired.purgeExpired now).insert unregistered registered token _

theorem Paired.Join (paired : sm.Paired phase) (unregistered : (phase ch).registered = false)
    (registered : next.registered = true) (token : Bytes) (now : Nat) :
    (sm.Join token ch now).1.Paired (Function.update phase ch next) := by
  unfold SessionManager.Join
  split
  case h_1 => exact paired.update (.inl registered)
  case h_2 sess found =>
    split
    case isTrue => exact (paired.Remove token).update (.inl registered)
    case isFalse =>
      split
      case isTrue => exact paired.update (.inl registered)
      case isFalse => exact paired.replaceDialer unregistered registered found _

end Paired

end SessionManager

/-! ### The events -/

namespace Relay

variable (entropyAbove : Bytes → Bool)

@[simp] theorem phase_close (r : Relay Chan) (chans : List Chan) :
    (r.close chans).phase = r.phase := rfl

@[simp] theorem phase_setPhase (r : Relay Chan) (ch : Chan) (next : Phase) :
    (r.setPhase ch next).phase = Function.update r.phase ch next := rfl

/-- A handler that has read its `Register` frame ends its registration past it, whichever branch
it takes. -/
theorem phase_registerStep (r : Relay Chan) (ch : Chan) (request : Register) (now : Nat)
    (random : Bytes) : ∃ next : Phase, next.registered = true ∧
      (r.registerStep entropyAbove ch request now random).phase =
        Function.update r.phase ch next := by
  have giveUp : ∀ r' : Relay Chan, (r'.giveUp ch).phase = Function.update r'.phase ch .finished :=
    fun _ => rfl
  have registered : ∀ (r' : Relay Chan) (token : Bytes), ∃ next : Phase, next.registered = true ∧
      (r'.registered ch token).phase = Function.update r'.phase ch next := by
    intro r' token
    unfold Relay.registered
    split
    · exact ⟨.finished, rfl, rfl⟩
    · exact ⟨.pumping token, rfl, rfl⟩
  unfold registerStep
  cases request with
  | create token =>
    dsimp only
    split
    · split
      · exact registered _ _
      · exact ⟨.finished, rfl, giveUp _⟩
    · split
      · exact registered _ _
      · exact ⟨.finished, rfl, giveUp _⟩
  | join token =>
    dsimp only
    split
    · exact ⟨.finished, rfl, giveUp _⟩
    · split
      · exact registered _ _
      · exact ⟨.finished, rfl, giveUp _⟩
  | unspecified => exact ⟨.finished, rfl, giveUp _⟩

/-- Forwarding moves no handler and changes no session: it only closes channels. -/
theorem step_forward (r : Relay Chan) (ch : Chan) :
    (r.step entropyAbove (.forward ch)).manager = r.manager ∧
      (r.step entropyAbove (.forward ch)).phase = r.phase := by
  rw [step]
  split
  · split
    · exact ⟨rfl, rfl⟩
    · split
      · split <;> exact ⟨rfl, rfl⟩
      · exact ⟨rfl, rfl⟩
  · exact ⟨rfl, rfl⟩

/-- **One event keeps the table paired.** -/
theorem step_paired {r : Relay Chan} (paired : r.manager.Paired r.phase) (event : Event Chan) :
    (r.step entropyAbove event).manager.Paired (r.step entropyAbove event).phase := by
  cases event with
  | connect ch request =>
    rw [step]
    split
    case isTrue idle => exact paired.update (.inr (by rw [idle]; rfl))
    case isFalse => exact paired
  | register ch now random =>
    rw [step]
    split
    case h_1 request registering =>
      have unregistered : (r.phase ch).registered = false := by rw [registering]; rfl
      obtain ⟨next, registered, phaseEq⟩ :=
        phase_registerStep entropyAbove r ch request now random
      rw [phaseEq, manager_registerStep]
      cases request with
      | create token =>
        dsimp only
        split
        · exact paired.Create unregistered registered now random
        · exact paired.CreateWith unregistered registered entropyAbove token now
      | join token =>
        dsimp only
        split
        · exact paired.update (.inl registered)
        · exact paired.Join unregistered registered token now
      | unspecified => exact paired.update (.inl registered)
    case h_2 => exact paired
  | drop ch => exact paired
  | forward ch =>
    obtain ⟨sameManager, samePhase⟩ := step_forward entropyAbove r ch
    rw [sameManager, samePhase]
    exact paired
  | pumpExit ch =>
    rw [step]
    split
    · split
      · exact paired.update (.inl rfl)
      · exact paired
    · exact paired
  | closePeer ch =>
    rw [step]
    split
    · exact paired.update (.inl rfl)
    · exact paired
  | unregister ch =>
    rw [step]
    split
    · exact (paired.Remove _).update (.inl rfl)
    · exact paired
  | purge now => exact paired.purgeExpired now

/-- **Every run keeps the table paired.** -/
theorem run_paired : ∀ {r : Relay Chan}, r.manager.Paired r.phase →
    ∀ events : List (Event Chan), (r.run entropyAbove events).manager.Paired
      (r.run entropyAbove events).phase
  | _, paired, [] => paired
  | _, paired, event :: events => run_paired (step_paired entropyAbove paired event) events

theorem initial_paired (ttl sessionTTL maxConns : Nat) :
    (Relay.initial ttl sessionTTL maxConns : Relay Chan).manager.Paired
      (Relay.initial ttl sessionTTL maxConns : Relay Chan).phase where
  registered found := by cases found
  distinct found := by cases found
  disjoint found := by cases found

end Relay

/-! ### Forwarding -/

namespace SessionManager

variable {sm : SessionManager Chan} {phase : Chan → Phase}

/-- In a paired table a message is never forwarded to its sender, and the recipient's messages
go back to the sender. -/
theorem Paired.Recipient_symm (paired : sm.Paired phase) {token : Bytes} {sender recipient : Chan}
    (forwarded : sm.Recipient token sender = .ok recipient) :
    recipient ≠ sender ∧ sm.Recipient token recipient = .ok sender := by
  obtain ⟨sess, found, pairing⟩ := Recipient_eq_ok forwarded
  have distinct := paired.distinct found
  rcases pairing with ⟨rfl, joined⟩ | ⟨joined, rfl⟩
  · have different : recipient ≠ sess.listener := by
      rintro rfl
      exact distinct joined
    refine ⟨different, ?_⟩
    simp [SessionManager.Recipient, found, different, joined]
  · have different : sess.listener ≠ sender := by
      rintro rfl
      exact distinct joined
    refine ⟨different, ?_⟩
    simp [SessionManager.Recipient, found, joined]

/-- In a paired table a sender has one recipient, under one token. -/
theorem Paired.Recipient_unique (paired : sm.Paired phase) {token token' : Bytes}
    {sender recipient other : Chan} (forwarded : sm.Recipient token sender = .ok recipient)
    (forwarded' : sm.Recipient token' sender = .ok other) : token' = token ∧ other = recipient := by
  have member : ∀ {key target}, sm.Recipient key sender = .ok target →
      ∃ sess, sm.sessions.lookup key = some sess ∧ sender ∈ sess.channels := by
    intro key target sent
    obtain ⟨sess, found, pairing⟩ := Recipient_eq_ok sent
    refine ⟨sess, found, ?_⟩
    rcases pairing with ⟨rfl, -⟩ | ⟨joined, -⟩ <;> simp [*]
  obtain ⟨sess, found, isMember⟩ := member forwarded
  obtain ⟨sess', found', isMember'⟩ := member forwarded'
  have sameToken : token' = token := by
    by_contra different
    exact paired.disjoint found found' (Ne.symm different) sender isMember isMember'
  subst sameToken
  rw [forwarded] at forwarded'
  exact ⟨rfl, (Except.ok.inj forwarded').symm⟩

end SessionManager

section Runs

variable (entropyAbove : Bytes → Bool)

/-- **The pairing invariant over every run.** From the start, whatever the events (connections,
registrations at any clock time, drops, forwards, exits, strangers' `Unregister`s, ticks of the
cleanup loop), every member of a session in the table is a channel whose handler has registered,
a session's listener is never its dialer, and no channel is a member of two sessions. -/
theorem relay_pairing (ttl sessionTTL maxConns : Nat) (events : List (Event Chan)) :
    ((Relay.initial ttl sessionTTL maxConns : Relay Chan).run entropyAbove events).manager.Paired
      ((Relay.initial ttl sessionTTL maxConns : Relay Chan).run entropyAbove events).phase :=
  Relay.run_paired entropyAbove (Relay.initial_paired ttl sessionTTL maxConns) events

/-- **Forwarding is a matching over every run.** Whenever the relay, after any run, forwards a
message from `ch` under a token to `recipient`, then `recipient` is not `ch`, the relay forwards
`recipient`'s messages under that token back to `ch`, and no token forwards `ch` anywhere else. -/
theorem relay_forwarding_matching (ttl sessionTTL maxConns : Nat) (events : List (Event Chan))
    {token : Bytes} {ch recipient : Chan}
    (forwarded : ((Relay.initial ttl sessionTTL maxConns : Relay Chan).run entropyAbove
      events).manager.Recipient token ch = .ok recipient) :
    recipient ≠ ch ∧
      ((Relay.initial ttl sessionTTL maxConns : Relay Chan).run entropyAbove
        events).manager.Recipient token recipient = .ok ch ∧
      ∀ token' other, ((Relay.initial ttl sessionTTL maxConns : Relay Chan).run entropyAbove
        events).manager.Recipient token' ch = .ok other → token' = token ∧ other = recipient := by
  have paired := Relay.run_paired entropyAbove (Relay.initial_paired ttl sessionTTL maxConns) events
  obtain ⟨different, back⟩ := paired.Recipient_symm forwarded
  exact ⟨different, back, fun _ _ forwarded' => paired.Recipient_unique forwarded forwarded'⟩

/-- Listener `1` registers a token at time `0` and dialer `2` joins it at `1`. -/
theorem relay_forwarding_matching_example :
    let token : Bytes := (List.range 32).map UInt8.ofNat
    let events : List (Event Nat) :=
      [.connect 1 (.create token), .register 1 0 [], .connect 2 (.join token), .register 2 1 []]
    ((Relay.initial 10 100 8 : Relay Nat).run (fun _ => true) events).manager.Recipient token 1 =
        .ok 2 ∧
      (2 ≠ 1 ∧
        ((Relay.initial 10 100 8 : Relay Nat).run (fun _ => true) events).manager.Recipient
          token 2 = .ok 1 ∧
        ∀ token' other, ((Relay.initial 10 100 8 : Relay Nat).run (fun _ => true)
          events).manager.Recipient token' 1 = .ok other → token' = token ∧ other = 2) := by
  intro token events
  have forwarded : ((Relay.initial 10 100 8 : Relay Nat).run (fun _ => true)
      events).manager.Recipient token 1 = .ok 2 := by decide
  exact ⟨forwarded, relay_forwarding_matching (fun _ => true) 10 100 8 events forwarded⟩

end Runs

end Kamune
