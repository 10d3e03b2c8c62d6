/-
**The relay tokens two peers compute (`pkg/relayconn/token.go`).**

Two peers meet at a relay under a token both compute. A static token is `TokenFromKeys` of the two
peers' identity keys: SHA-256 of the two keys in `bytes.Compare` order, so that each peer may pass
its own key first. Reconnect tokens come from `DeriveRelayTokens`, which both ends of an
established transport run at once: each sends a fresh X25519 public key in a `SessionData` message
under `RouteSessionData`, receives the other's, and expands the ECDH secret with HKDF into a pool
of three tokens.

* `sessionDataCodec_readsBack`: a `SessionData` message reads back exactly;
* `Transport.Receive_Send_eq`: a transport that shares the sender's key and trusts its signing
  key receives, from the frame a `Send` wrote, the message and metadata that were sent;
* `relay_tokens_agree`: whatever the interleaving, when both ends of a transport complete
  `DeriveRelayTokens`, they hold the same three tokens, and each transport moved both counters by
  one.
-/

import Kamune.Handshake

namespace Kamune

open Wire Dialogue

/-! ### `bytes.Compare` and `TokenFromKeys` -/

/-- `bytes.Compare`: `-1`, `0` or `1` as `a` is below, equal to or above `b` in the lexicographic
order of unsigned bytes, a proper prefix being below. -/
def bytesCompare : Bytes → Bytes → Int
  | [], [] => 0
  | [], _ :: _ => -1
  | _ :: _, [] => 1
  | x :: xs, y :: ys => if x < y then -1 else if y < x then 1 else bytesCompare xs ys

/-- `ed25519.PublicKeySize`. -/
def ed25519PublicKeySize : Nat := 32

/-- The errors of `TokenFromKeys` and `DeriveRelayTokens`, by their texts. -/
inductive RelayTokenError where
  /-- `ErrInvalidKeySize`. -/
  | invalidKeySize
  /-- `"sending ecdh pubkey: %w"`. -/
  | sending (err : Error)
  /-- `"receiving ecdh pubkey: %w"`. -/
  | receiving (err : Error)
  /-- `ErrECDHPeerKeyMissing`. -/
  | peerKeyMissing
  /-- `"ecdh exchange: %w"`. -/
  | ecdhExchange
  deriving DecidableEq, Repr

variable (crypto : Primitives)

/-- `TokenFromKeys`: SHA-256 of the two 32-byte keys, the lower one first. -/
def TokenFromKeys (a b : Bytes) : Except RelayTokenError Bytes :=
  if a.length ≠ ed25519PublicKeySize ∨ b.length ≠ ed25519PublicKeySize then .error .invalidKeySize
  else
    let (lo, hi) := if 0 < bytesCompare a b then (b, a) else (a, b)
    .ok (crypto.sha256 (lo ++ hi))

/-! ### `pb.SessionData` -/

theorem mapM_map_eq_some {α β : Type} {read : α → Option β} {write : β → α} :
    ∀ {values : List β}, (∀ value ∈ values, read (write value) = some value) →
      (values.map write).mapM read = some values
  | [], _ => rfl
  | value :: values, readsBack => by
    rw [List.map_cons, List.mapM_cons, readsBack value List.mem_cons_self,
      mapM_map_eq_some fun other member => readsBack other (List.mem_cons_of_mem _ member)]
    rfl

/-- `pb.SessionData`: the entries of its `map<string, bytes> Fields`, in the order they are
written. -/
structure SessionData where
  fields : List (Bytes × Bytes)
  deriving DecidableEq, Repr

/-- `peerSession.Fields[key]`: the map keeps the last entry read under a key. -/
def SessionData.get (data : SessionData) (key : Bytes) : Option Bytes :=
  data.fields.foldl (fun found entry => if entry.1 = key then some entry.2 else found) none

/-- One entry of a map field: a message with the key in field `1` and the value in field `2`,
both written even when empty. -/
def mapEntryField (number : Nat) (key value : Bytes) : Field :=
  ⟨number, .bytes (encodeFields [⟨1, .bytes key⟩, ⟨2, .bytes value⟩])⟩

/-- Reading one map entry: its key and value, the key checked for UTF-8. -/
def readMapEntry (entry : Bytes) : Option (Bytes × Bytes) :=
  (parseFields entry).bind fun inner =>
    if utf8Valid (lastBytes 1 inner) then some (lastBytes 1 inner, lastBytes 2 inner) else none

/-- `pb.SessionData` as a codec: every key is checked for UTF-8 both ways. -/
def sessionDataCodec : Codec SessionData where
  marshal data :=
    if data.fields.all fun entry => utf8Valid entry.1 then
      some (encodeFields (data.fields.map fun entry => mapEntryField 1 entry.1 entry.2))
    else none
  unmarshal bytes :=
    (parseFields bytes).bind fun fields =>
      ((payloads 1 fields).mapM readMapEntry).map SessionData.mk

theorem readMapEntry_encode {key value : Bytes} (valid : utf8Valid key = true)
    (small : (encodeFields [⟨1, .bytes key⟩, ⟨2, .bytes value⟩]).length < 2 ^ 64) :
    readMapEntry (encodeFields [⟨1, .bytes key⟩, ⟨2, .bytes value⟩]) = some (key, value) := by
  have keySmall : key.length < 2 ^ 64 := by
    simp only [encodeFields_cons, encodeFields_nil, Field.encode, WireValue.encode,
      List.length_append] at small
    omega
  have valueSmall : value.length < 2 ^ 64 := by
    simp only [encodeFields_cons, encodeFields_nil, Field.encode, WireValue.encode,
      List.length_append] at small
    omega
  have well : ∀ field ∈ [(⟨1, .bytes key⟩ : Field), ⟨2, .bytes value⟩], field.WellFormed := by
    intro field member
    simp only [List.mem_cons, List.not_mem_nil, or_false] at member
    rcases member with rfl | rfl
    · exact ⟨le_refl 1, by norm_num, keySmall⟩
    · exact ⟨by norm_num, by norm_num, valueSmall⟩
  unfold readMapEntry
  rw [parseFields_encodeFields well]
  simp [lastBytes, valid]

/-- **A `SessionData` message reads back** exactly, its entries in order. -/
theorem sessionDataCodec_readsBack : sessionDataCodec.ReadsBack := by
  intro data bytes written short
  simp only [sessionDataCodec] at written ⊢
  split at written
  case isFalse => cases written
  case isTrue valid =>
    cases written
    set entries := data.fields.map fun entry => mapEntryField 1 entry.1 entry.2
    -- every entry's payload is a part of the message
    have entrySmall : ∀ entry ∈ data.fields,
        (encodeFields [⟨1, .bytes entry.1⟩, ⟨2, .bytes entry.2⟩]).length < 2 ^ 64 := by
      intro entry member
      have within : (mapEntryField 1 entry.1 entry.2).encode.length ≤
          (encodeFields entries).length := by
        rw [encodeFields, List.length_flatMap]
        exact List.le_sum_of_mem (List.mem_map_of_mem (List.mem_map_of_mem member))
      simp only [mapEntryField, Field.encode, WireValue.wireType, WireValue.encode,
        List.length_append] at within
      omega
    have well : ∀ field ∈ entries, field.WellFormed := by
      intro field member
      obtain ⟨entry, isEntry, rfl⟩ := List.mem_map.mp member
      exact ⟨le_refl 1, by simp [mapEntryField], entrySmall entry isEntry⟩
    have picked : payloads 1 entries =
        data.fields.map fun entry => encodeFields [⟨1, .bytes entry.1⟩, ⟨2, .bytes entry.2⟩] := by
      simp [entries, payloads, mapEntryField, List.filterMap_map]
    rw [parseFields_encodeFields well, Option.bind_some, picked]
    have readBack : ∀ entry ∈ data.fields,
        readMapEntry (encodeFields [⟨1, .bytes entry.1⟩, ⟨2, .bytes entry.2⟩]) = some entry :=
      fun entry member => readMapEntry_encode (List.all_eq_true.mp valid entry member)
        (entrySmall entry member)
    rw [mapM_map_eq_some readBack]
    rfl

/-! ### `DeriveRelayTokens` -/

/-- The X25519 and HKDF operations `DeriveRelayTokens` uses. A private key is the seed it is drawn
from. -/
structure EcdhSuite where
  /-- `MarshalPublicKey()`. -/
  publicKey : Bytes → Bytes
  /-- `Exchange(remote)`: parse the remote key, then `privateKey.ECDH`. -/
  exchange : Bytes → Bytes → Option Bytes
  /-- `hkdf.Expand(sha512.New, secret, info, length)`. -/
  expand : Bytes → Bytes → Nat → Bytes

/-- What the code relies on of X25519: the two sides of an exchange compute the same secret. -/
structure EcdhSuite.Lawful (suite : EcdhSuite) : Prop where
  exchange_comm : ∀ a b, suite.exchange a (suite.publicKey b) = suite.exchange b (suite.publicKey a)

/-- A suite whose public key is the seed and whose secret is the XOR of the two seeds. -/
def EcdhSuite.plain : EcdhSuite where
  publicKey seed := seed
  exchange seed remote := some (List.zipWith (· ^^^ ·) seed remote)
  expand secret info length := (secret ++ info ++ List.replicate length 0).take length

theorem EcdhSuite.plain_lawful : EcdhSuite.plain.Lawful where
  exchange_comm a b := by
    simp only [EcdhSuite.plain, Option.some.injEq]
    exact List.zipWith_comm_of_comm fun x y => UInt8.xor_comm x y

/-- `tokenPoolSize`. -/
def tokenPoolSize : Nat := 3

/-- `tokenInfoPrefix`. -/
def tokenInfoPrefix : Bytes := stringBytes "kamune/relay-reconnect/v1/"

/-- The key of the public key in the `SessionData` map. -/
def ecdhPubkeyKey : Bytes := stringBytes "ecdh_pubkey"

variable (suite : EcdhSuite)

/-- The pool: token `i` is the HKDF expansion of the secret under the prefix and `i` as a
big-endian `uint32`. -/
def relayTokens (sharedSecret : Bytes) : List Bytes :=
  (List.range tokenPoolSize).map fun i =>
    suite.expand sharedSecret (tokenInfoPrefix ++ bigEndian 4 i) 32

/-- `DeriveRelayTokens` on an established transport. `seed` draws the ECDH key. -/
def DeriveRelayTokens (t : Transport) (seed : Bytes) (entropy : Entropy) :
    Process Bytes (Except RelayTokenError (Transport × List Bytes)) :=
  Process.seq ((sendOver crypto sessionDataCodec t ⟨[(ecdhPubkeyKey, suite.publicKey seed)]⟩
      .sessionData entropy).map (Except.mapError .sending)) fun t =>
  Process.seq ((receiveOver crypto sessionDataCodec t).map (Except.mapError .receiving))
    fun (t, _, peerSession) =>
  Process.attemptSome (peerSession.get ecdhPubkeyKey) .peerKeyMissing fun peerPub =>
  Process.attemptSome (suite.exchange seed peerPub) .ecdhExchange fun sharedSecret =>
  .done (.ok (t, relayTokens suite sharedSecret))

/-! ### What each end did -/

section Runs

variable {crypto suite}

/-- What a receiver that shares the sender's key and trusts its signing key accepts from the
frame a `Send` wrote is the message and metadata that were sent. -/
theorem Transport.Receive_Send_eq (lawful : crypto.Lawful) {M : Type} {codec : Codec M}
    (readsBack : codec.ReadsBack) {A B : Transport} (sharedKey : B.decoder = A.encoder)
    (matching : B.serde.remote = crypto.publicKey A.serde.attest) {A' B' : Transport}
    {connA connB : Conn} {msg msg' : M} {route : Route} {entropy : Entropy} {sentMd md : Metadata}
    (sent : A.Send crypto codec {} msg route entropy = (A', connA, .ok sentMd))
    (received : B.Receive crypto codec { inbound := connA.outbound } =
      (B', connB, .ok (md, msg'))) : md = sentMd ∧ msg' = msg := by
  obtain ⟨-, payload, serialized, written⟩ := Transport.Send_eq_ok sent
  obtain ⟨-, fits, rfl⟩ := Conn.WriteBytes_cases written
  obtain ⟨-, -, -, payload', decrypted, read, decrypt, deserialized⟩ :=
    Transport.Receive_eq_ok received
  rw [List.nil_append] at read
  obtain rfl := readBytes_frame fits read
  rw [sharedKey, Enigma.Decrypt_Encrypt lawful] at decrypt
  cases decrypt
  rw [deserialize_serialize_eq lawful readsBack matching serialized] at deserialized
  cases deserialized
  exact ⟨rfl, rfl⟩

theorem DeriveRelayTokens_runs {t t' : Transport} {seed : Bytes} {entropy : Entropy}
    {ins outs : List Bytes} {tokens : List Bytes}
    (ran : Process.Runs (DeriveRelayTokens crypto suite t seed entropy) ins outs (.ok (t', tokens))) :
    ∃ t₁ conn sentMd chunk conn' md peerSession peerPub sharedSecret,
      t.Send crypto sessionDataCodec {} ⟨[(ecdhPubkeyKey, suite.publicKey seed)]⟩ .sessionData
        entropy = (t₁, conn, .ok sentMd) ∧
      t₁.Receive crypto sessionDataCodec { inbound := chunk } = (t', conn', .ok (md, peerSession)) ∧
      peerSession.get ecdhPubkeyKey = some peerPub ∧ suite.exchange seed peerPub = some sharedSecret ∧
      tokens = relayTokens suite sharedSecret ∧ ins = [chunk] ∧ outs = [conn.outbound] := by
  unfold DeriveRelayTokens at ran
  obtain ⟨t₁, ins₁, ins₂, outs₁, outs₂, sent, afterSend, rfl, rfl⟩ := Process.Runs.of_seq ran
  obtain ⟨conn, sentMd, sentOk, rfl, rfl⟩ := sendOver_runs (Process.Runs.of_mapError sent)
  obtain ⟨⟨t₂, md, peerSession⟩, ins₃, ins₄, outs₃, outs₄, received, afterReceive, rfl, rfl⟩ :=
    Process.Runs.of_seq afterSend
  obtain ⟨chunk, conn', receivedOk, rfl, rfl⟩ :=
    receiveOver_runs (Process.Runs.of_mapError received)
  obtain ⟨peerPub, found, afterLookup⟩ := Process.Runs.of_attemptSome afterReceive
  obtain ⟨sharedSecret, exchanged, finished⟩ := Process.Runs.of_attemptSome afterLookup
  obtain ⟨rfl, rfl, ended⟩ := Process.Runs.of_done finished
  cases ended
  exact ⟨t₁, conn, sentMd, chunk, conn', md, peerSession, peerPub, sharedSecret, sentOk, receivedOk,
    found, exchanged, rfl, rfl, rfl⟩

end Runs

/-! ### Agreement -/

section Agreement

variable {crypto suite}

theorem SessionData.get_single (key value : Bytes) :
    (⟨[(key, value)]⟩ : SessionData).get key = some value := by
  simp [SessionData.get]

/-- **Both ends derive the same tokens.** Whatever the interleaving, when the two ends of a
transport (each sharing the other's key for its direction and trusting the other's signing key)
both complete `DeriveRelayTokens`, they hold the same pool of three tokens, the expansions of the
secret both ECDH computations give; and each transport has moved both its counters by one, so the
two stay in step as they were. -/
theorem relay_tokens_agree (lawful : crypto.Lawful) (suiteLawful : suite.Lawful) {A B : Transport}
    (keyAB : B.decoder = A.encoder) (keyBA : A.decoder = B.encoder)
    (trustA : B.serde.remote = crypto.publicKey A.serde.attest)
    (trustB : A.serde.remote = crypto.publicKey B.serde.attest) {seedA seedB : Bytes}
    {entropyA entropyB : Entropy}
    {final : Network Bytes (Except RelayTokenError (Transport × List Bytes))
      (Except RelayTokenError (Transport × List Bytes))}
    (reached : Network.Reaches ⟨DeriveRelayTokens crypto suite A seedA entropyA,
      DeriveRelayTokens crypto suite B seedB entropyB, [], []⟩ final)
    {A' B' : Transport} {tokensA tokensB : List Bytes}
    (doneA : final.left = .done (.ok (A', tokensA)))
    (doneB : final.right = .done (.ok (B', tokensB))) :
    tokensA = tokensB ∧ tokensA.length = tokenPoolSize ∧
      (∃ sharedSecret, suite.exchange seedA (suite.publicKey seedB) = some sharedSecret ∧
        tokensA = relayTokens suite sharedSecret) ∧
      A' = A.afterExchange ∧ B' = B.afterExchange := by
  obtain ⟨insA, outsA, insB, outsB, ranA, ranB, toB, toA⟩ :=
    Network.runs_of_reaches reached doneA doneB
  obtain ⟨A₁, connA, sentA, chunkA, connA', mdA, peerA, pubA, secretA, sendA, receiveA, foundA,
    exchangedA, rfl, rfl, rfl⟩ := DeriveRelayTokens_runs ranA
  obtain ⟨B₁, connB, sentB, chunkB, connB', mdB, peerB, pubB, secretB, sendB, receiveB, foundB,
    exchangedB, rfl, rfl, rfl⟩ := DeriveRelayTokens_runs ranB
  -- each end received the one frame the other wrote
  have chunkBEq : chunkB = connA.outbound := (List.cons.inj toB).1.symm
  have chunkAEq : chunkA = connB.outbound := (List.cons.inj toA).1.symm
  subst chunkBEq chunkAEq
  obtain ⟨rfl, -⟩ := Transport.Send_eq_ok sendA
  obtain ⟨rfl, -⟩ := Transport.Send_eq_ok sendB
  obtain ⟨-, rfl⟩ := Transport.Receive_Send_eq lawful sessionDataCodec_readsBack
    (B := { B with sendSequence := B.sendSequence + 1 }) keyAB trustA sendA receiveB
  obtain ⟨-, rfl⟩ := Transport.Receive_Send_eq lawful sessionDataCodec_readsBack
    (B := { A with sendSequence := A.sendSequence + 1 }) keyBA trustB sendB receiveA
  rw [SessionData.get_single, Option.some.injEq] at foundA foundB
  subst foundA foundB
  rw [suiteLawful.exchange_comm, exchangedB, Option.some.injEq] at exchangedA
  subst exchangedA
  obtain ⟨rfl, -⟩ := Transport.Receive_eq_ok receiveA
  obtain ⟨rfl, -⟩ := Transport.Receive_eq_ok receiveB
  refine ⟨rfl, by simp [relayTokens], ⟨_, ?_, rfl⟩, rfl, rfl⟩
  rw [suiteLawful.exchange_comm]
  exact exchangedB

/-- Two ends of a fresh transport with the plain primitives, seeds `[1]` and `[2]`, on the
left-first schedule. -/
theorem relay_tokens_agree_plain :
    ∃ final A' B' tokensA tokensB,
      Network.Reaches ⟨DeriveRelayTokens Primitives.plain EcdhSuite.plain
          (newTransport ⟨[], []⟩ [] ⟨[]⟩ ⟨[]⟩) [1] Entropy.zeros,
        DeriveRelayTokens Primitives.plain EcdhSuite.plain (newTransport ⟨[], []⟩ [] ⟨[]⟩ ⟨[]⟩)
          [2] Entropy.zeros, [], []⟩ final ∧
      final.left = .done (.ok (A', tokensA)) ∧ final.right = .done (.ok (B', tokensB)) ∧
      (tokensA = tokensB ∧ tokensA.length = tokenPoolSize ∧
        (∃ sharedSecret, EcdhSuite.plain.exchange [1] (EcdhSuite.plain.publicKey [2]) =
            some sharedSecret ∧ tokensA = relayTokens EcdhSuite.plain sharedSecret) ∧
        A' = (newTransport ⟨[], []⟩ [] ⟨[]⟩ ⟨[]⟩).afterExchange ∧
        B' = (newTransport ⟨[], []⟩ [] ⟨[]⟩ ⟨[]⟩).afterExchange) := by
  let final := Network.runFor 4
    ⟨DeriveRelayTokens Primitives.plain EcdhSuite.plain (newTransport ⟨[], []⟩ [] ⟨[]⟩ ⟨[]⟩) [1]
      Entropy.zeros, DeriveRelayTokens Primitives.plain EcdhSuite.plain
      (newTransport ⟨[], []⟩ [] ⟨[]⟩ ⟨[]⟩) [2] Entropy.zeros, [], []⟩
  have doneA : final.left = .done (.ok ((newTransport ⟨[], []⟩ [] ⟨[]⟩ ⟨[]⟩).afterExchange,
      relayTokens EcdhSuite.plain [3])) :=
    Process.eq_done_of_outcome (by decide +kernel)
  have doneB : final.right = .done (.ok ((newTransport ⟨[], []⟩ [] ⟨[]⟩ ⟨[]⟩).afterExchange,
      relayTokens EcdhSuite.plain [3])) :=
    Process.eq_done_of_outcome (by decide +kernel)
  have reached := Network.reaches_runFor 4
    ⟨DeriveRelayTokens Primitives.plain EcdhSuite.plain (newTransport ⟨[], []⟩ [] ⟨[]⟩ ⟨[]⟩) [1]
      Entropy.zeros, DeriveRelayTokens Primitives.plain EcdhSuite.plain
      (newTransport ⟨[], []⟩ [] ⟨[]⟩ ⟨[]⟩) [2] Entropy.zeros, [], []⟩
  exact ⟨final, _, _, _, _, reached, doneA, doneB,
    relay_tokens_agree Primitives.plain_lawful EcdhSuite.plain_lawful rfl rfl rfl rfl reached doneA
      doneB⟩

end Agreement

end Kamune
