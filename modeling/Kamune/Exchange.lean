/-
**The HPKE key exchange of a connection (`pkg/exchange/channel.go`).**

Before the handshake, the dialer runs `exchange.Initiate` and the listener `exchange.Accept` on the
raw conn. The initiator sends a fresh MLKEM768-X25519 public key; the acceptor sets up an HPKE
sender to it and answers with one merged message, the two-byte length of the encapsulation, the
encapsulation and its own fresh public key; the initiator splits it, sets up its recipient and a
sender of its own, and sends its encapsulation back, from which the acceptor sets up its
recipient. Each side ends with an `exchange.Channel` holding one HPKE context per direction, which
seals every later message under the context's key and the nonce of its sequence number.

The HPKE suite is abstract: `HpkeSuite.Lawful` states what the code relies on (a recipient built
from an encapsulation gets the context the sender got, and the sizes of keys and encapsulations).

* `splitMerged_eq_ok_iff`: the initiator accepts exactly the merged messages the acceptor writes;
* `exchange_agreement`: in every interleaving in which both sides succeed, each side's sender is
  the other side's recipient and no message is left in flight;
* `exchange_completes`: on the left-first schedule both sides succeed, for every key and coins;
* `exchange_delivers`: after the exchange, every sequence of messages written on one side is read
  back in order on the other, with both contexts advanced alike.
-/

import Kamune.Resume
import Kamune.RelayConn

namespace Kamune

open Wire Dialogue

/-! ### The HPKE suite -/

/-- The size of an MLKEM768-X25519 public key. -/
def kemPublicKeySize : Nat := 1216

/-- The size of an MLKEM768-X25519 encapsulation. -/
def kemEncSize : Nat := 1120

/-- The HPKE operations `Initiate` and `Accept` use. A private key is the seed it is drawn from. -/
structure HpkeSuite where
  /-- `privateKey.PublicKey().Bytes()`. -/
  publicKey : Bytes → Bytes
  /-- `kem.NewPublicKey`. -/
  newPublicKey : Bytes → Option Bytes
  /-- `hpke.NewSender(remote, kdf, aead, nil)` with its random coins: the encapsulation and the
  context it sets up. -/
  newSender : Bytes → Bytes → Option (Bytes × Channel)
  /-- `hpke.NewRecipient(enc, privateKey, kdf, aead, nil)`. -/
  newRecipient : Bytes → Bytes → Option Channel

structure HpkeSuite.Lawful (hpke : HpkeSuite) : Prop where
  length_publicKey : ∀ seed, (hpke.publicKey seed).length = kemPublicKeySize
  newPublicKey_publicKey : ∀ seed, hpke.newPublicKey (hpke.publicKey seed) = some (hpke.publicKey seed)
  newRecipient_newSender : ∀ seed coins, ∃ enc context,
    hpke.newSender (hpke.publicKey seed) coins = some (enc, context) ∧
      hpke.newRecipient enc seed = some context
  length_enc : ∀ remote coins enc context,
    hpke.newSender remote coins = some (enc, context) → enc.length = kemEncSize

/-- A suite whose context is the recipient's public key, with an empty base nonce. -/
def HpkeSuite.plain : HpkeSuite where
  publicKey seed := (seed ++ List.replicate kemPublicKeySize 0).take kemPublicKeySize
  newPublicKey bytes := some bytes
  newSender remote _ := some (List.replicate kemEncSize 0, ⟨remote, [], 0⟩)
  newRecipient _ seed := some ⟨(seed ++ List.replicate kemPublicKeySize 0).take kemPublicKeySize,
    [], 0⟩

theorem HpkeSuite.plain_lawful : HpkeSuite.plain.Lawful where
  length_publicKey seed := by simp [HpkeSuite.plain]
  newPublicKey_publicKey seed := rfl
  newRecipient_newSender seed coins := ⟨_, _, rfl, rfl⟩
  length_enc remote coins enc context made := by
    simp only [HpkeSuite.plain, Option.some.injEq, Prod.mk.injEq] at made
    rw [← made.1, List.length_replicate]

/-! ### Initiate and Accept -/

/-- The errors of `Initiate` and `Accept`, by their texts. -/
inductive ExchangeError where
  /-- `"writing hpke public key: %w"`. -/
  | writingPublicKey (err : ConnError)
  /-- `"reading merged message: %w"`. -/
  | readingMerged (err : ConnError)
  /-- `"truncated exchange: %d bytes"`. -/
  | truncatedExchange (length : Nat)
  /-- `"truncated ciphertext: declared %d, total %d"`. -/
  | truncatedCiphertext (declared total : Nat)
  /-- `"creating recipient: %w"`. -/
  | creatingRecipient
  /-- `"parsing remote public key: %w"`. -/
  | parsingRemoteKey
  /-- `"creating sender: %w"`. -/
  | creatingSender
  /-- `"writing ciphertext: %w"`. -/
  | writingCiphertext (err : ConnError)
  /-- `"reading remote public key: %w"`. -/
  | readingRemoteKey (err : ConnError)
  /-- `"writing merged exchange message: %w"`. -/
  | writingMerged (err : ConnError)
  /-- `"reading remote ciphertext: %w"`. -/
  | readingCiphertext (err : ConnError)
  deriving DecidableEq, Repr

/-- `exchange.Channel` without its conn: the context it seals with and the one it opens with. -/
structure ExchangeChannel where
  sender : Channel
  recipient : Channel

/-- Accept's merged message: `uint16(len(enc))` big-endian, the encapsulation, the public key. -/
def mergeExchange (enc publicKey : Bytes) : Bytes :=
  bigEndian 2 enc.length ++ enc ++ publicKey

/-- Initiate's split of the merged message into the encapsulation and the public key. -/
def splitMerged (merged : Bytes) : Except ExchangeError (Bytes × Bytes) :=
  if merged.length < 2 then .error (.truncatedExchange merged.length)
  else
    let encLen := ofBigEndian (merged.take 2)
    if merged.length - 2 < encLen then .error (.truncatedCiphertext encLen merged.length)
    else .ok ((merged.drop 2).take encLen, merged.drop (2 + encLen))

variable (hpke : HpkeSuite)

/-- `exchange.Initiate`. `seed` draws the private key, `coins` the sender's encapsulation. -/
def Initiate (seed coins : Bytes) : Process Bytes (Except ExchangeError ExchangeChannel) :=
  Process.seq ((writeBytes (hpke.publicKey seed)).map (Except.mapError .writingPublicKey))
    fun () =>
  Process.seq (readBytes.map (Except.mapError .readingMerged)) fun merged =>
  Process.attempt (splitMerged merged) fun (remoteEnc, remotePublicBytes) =>
  Process.attemptSome (hpke.newRecipient remoteEnc seed) .creatingRecipient fun recipient =>
  Process.attemptSome (hpke.newPublicKey remotePublicBytes) .parsingRemoteKey fun remotePublic =>
  Process.attemptSome (hpke.newSender remotePublic coins) .creatingSender fun (enc, sender) =>
  Process.seq ((writeBytes enc).map (Except.mapError .writingCiphertext)) fun () =>
  .done (.ok ⟨sender, recipient⟩)

/-- `exchange.Accept`. -/
def Accept (seed coins : Bytes) : Process Bytes (Except ExchangeError ExchangeChannel) :=
  Process.seq (readBytes.map (Except.mapError .readingRemoteKey)) fun remotePubBytes =>
  Process.attemptSome (hpke.newPublicKey remotePubBytes) .parsingRemoteKey fun remotePub =>
  Process.attemptSome (hpke.newSender remotePub coins) .creatingSender fun (enc, sender) =>
  Process.seq ((writeBytes (mergeExchange enc (hpke.publicKey seed))).map
      (Except.mapError .writingMerged)) fun () =>
  Process.seq (readBytes.map (Except.mapError .readingCiphertext)) fun remoteEnc =>
  Process.attemptSome (hpke.newRecipient remoteEnc seed) .creatingRecipient fun recipient =>
  .done (.ok ⟨sender, recipient⟩)

/-! ### The merged message -/

theorem length_mergeExchange (enc publicKey : Bytes) :
    (mergeExchange enc publicKey).length = 2 + enc.length + publicKey.length := by
  simp [mergeExchange, Nat.add_assoc]

/-- A merged message splits back into its encapsulation and public key. -/
theorem splitMerged_mergeExchange {enc publicKey : Bytes} (short : enc.length < 2 ^ 16) :
    splitMerged (mergeExchange enc publicKey) = .ok (enc, publicKey) := by
  have encLength : ofBigEndian ((mergeExchange enc publicKey).take 2) = enc.length := by
    rw [mergeExchange, List.append_assoc, List.take_left' (length_bigEndian 2 _),
      ofBigEndian_bigEndian]
    exact Nat.mod_eq_of_lt (by simpa using short)
  unfold splitMerged
  rw [length_mergeExchange, if_neg (by omega), encLength, if_neg (by omega)]
  simp [mergeExchange, List.drop_left' (length_bigEndian 2 _), List.take_left',
    ← List.drop_drop]

/-- **The initiator accepts exactly the merged messages**: a merged message splits into its
encapsulation and public key when the encapsulation's length fits its two bytes, and whatever
splits is the merged message of its parts. -/
theorem splitMerged_eq_ok_iff {merged enc publicKey : Bytes} :
    splitMerged merged = .ok (enc, publicKey) ↔
      enc.length < 2 ^ 16 ∧ merged = mergeExchange enc publicKey := by
  constructor
  · intro split
    unfold splitMerged at split
    dsimp only at split
    split at split
    · cases split
    next long =>
    split at split
    · cases split
    next fits =>
      cases split
      have encLength : ((merged.drop 2).take (ofBigEndian (merged.take 2))).length =
          ofBigEndian (merged.take 2) := by
        rw [List.length_take, List.length_drop]
        omega
      have prefixBytes : bigEndian 2 (ofBigEndian (merged.take 2)) = merged.take 2 := by
        simpa [List.length_take, show min 2 merged.length = 2 by omega]
          using bigEndian_ofBigEndian (merged.take 2)
      have declaredSmall : ofBigEndian (merged.take 2) < 2 ^ 16 := by
        have bound := ofBigEndian_lt (merged.take 2)
        rwa [List.length_take, show min 2 merged.length = 2 by omega] at bound
      refine ⟨by rw [encLength]; exact declaredSmall, ?_⟩
      have rest : merged.drop (2 + ofBigEndian (merged.take 2)) =
          (merged.drop 2).drop (ofBigEndian (merged.take 2)) := by
        rw [List.drop_drop]
      rw [mergeExchange, encLength, prefixBytes, List.append_assoc, rest, List.take_append_drop,
        List.take_append_drop]
  · rintro ⟨short, rfl⟩
    exact splitMerged_mergeExchange short

/-! ### What each side did -/

section Runs

variable {hpke}

theorem Initiate_runs {seed coins : Bytes} {ins outs : List Bytes} {channel : ExchangeChannel}
    (ran : Process.Runs (Initiate hpke seed coins) ins outs (.ok channel)) :
    ∃ chunk merged rest remoteEnc remotePublicBytes remotePublic enc,
      (hpke.publicKey seed).length ≤ maxUint16 ∧ enc.length ≤ maxUint16 ∧
      ins = [chunk] ∧ outs = [frame (hpke.publicKey seed), frame enc] ∧
      ({ inbound := chunk } : Conn).ReadBytes = .ok (merged, rest) ∧
      splitMerged merged = .ok (remoteEnc, remotePublicBytes) ∧
      hpke.newRecipient remoteEnc seed = some channel.recipient ∧
      hpke.newPublicKey remotePublicBytes = some remotePublic ∧
      hpke.newSender remotePublic coins = some (enc, channel.sender) := by
  unfold Initiate at ran
  obtain ⟨⟨⟩, ins₁, ins₂, outs₁, outs₂, written, afterKey, rfl, rfl⟩ := Process.Runs.of_seq ran
  obtain ⟨keyFits, rfl, rfl⟩ := writeBytes_runs (Process.Runs.of_mapError written) rfl
  obtain ⟨merged, ins₃, ins₄, outs₃, outs₄, read, afterRead, rfl, rfl⟩ :=
    Process.Runs.of_seq afterKey
  obtain ⟨chunk, rest, rfl, rfl, readOk⟩ := readBytes_runs (Process.Runs.of_mapError read)
  obtain ⟨⟨remoteEnc, remotePublicBytes⟩, split, afterSplit⟩ := Process.Runs.of_attempt afterRead
  obtain ⟨recipient, recipientMade, afterRecipient⟩ := Process.Runs.of_attemptSome afterSplit
  obtain ⟨remotePublic, parsed, afterParse⟩ := Process.Runs.of_attemptSome afterRecipient
  obtain ⟨⟨enc, sender⟩, senderMade, afterSender⟩ := Process.Runs.of_attemptSome afterParse
  obtain ⟨⟨⟩, ins₅, ins₆, outs₅, outs₆, written, finished, rfl, rfl⟩ :=
    Process.Runs.of_seq afterSender
  obtain ⟨encFits, rfl, rfl⟩ := writeBytes_runs (Process.Runs.of_mapError written) rfl
  obtain ⟨rfl, rfl, ended⟩ := Process.Runs.of_done finished
  cases ended
  exact ⟨chunk, merged, rest, remoteEnc, remotePublicBytes, remotePublic, enc, keyFits, encFits,
    rfl, rfl, readOk, split, recipientMade, parsed, senderMade⟩

theorem Accept_runs {seed coins : Bytes} {ins outs : List Bytes} {channel : ExchangeChannel}
    (ran : Process.Runs (Accept hpke seed coins) ins outs (.ok channel)) :
    ∃ keyChunk encChunk remotePubBytes remoteEnc rest rest' remotePub enc,
      (mergeExchange enc (hpke.publicKey seed)).length ≤ maxUint16 ∧
      ins = [keyChunk, encChunk] ∧ outs = [frame (mergeExchange enc (hpke.publicKey seed))] ∧
      ({ inbound := keyChunk } : Conn).ReadBytes = .ok (remotePubBytes, rest) ∧
      hpke.newPublicKey remotePubBytes = some remotePub ∧
      hpke.newSender remotePub coins = some (enc, channel.sender) ∧
      ({ inbound := encChunk } : Conn).ReadBytes = .ok (remoteEnc, rest') ∧
      hpke.newRecipient remoteEnc seed = some channel.recipient := by
  unfold Accept at ran
  obtain ⟨remotePubBytes, ins₁, ins₂, outs₁, outs₂, read, afterKey, rfl, rfl⟩ :=
    Process.Runs.of_seq ran
  obtain ⟨keyChunk, rest, rfl, rfl, keyRead⟩ := readBytes_runs (Process.Runs.of_mapError read)
  obtain ⟨remotePub, parsed, afterParse⟩ := Process.Runs.of_attemptSome afterKey
  obtain ⟨⟨enc, sender⟩, senderMade, afterSender⟩ := Process.Runs.of_attemptSome afterParse
  obtain ⟨⟨⟩, ins₃, ins₄, outs₃, outs₄, written, afterMerged, rfl, rfl⟩ :=
    Process.Runs.of_seq afterSender
  obtain ⟨mergedFits, rfl, rfl⟩ := writeBytes_runs (Process.Runs.of_mapError written) rfl
  obtain ⟨remoteEnc, ins₅, ins₆, outs₅, outs₆, read, afterEnc, rfl, rfl⟩ :=
    Process.Runs.of_seq afterMerged
  obtain ⟨encChunk, rest', rfl, rfl, encRead⟩ := readBytes_runs (Process.Runs.of_mapError read)
  obtain ⟨recipient, recipientMade, finished⟩ := Process.Runs.of_attemptSome afterEnc
  obtain ⟨rfl, rfl, ended⟩ := Process.Runs.of_done finished
  cases ended
  exact ⟨keyChunk, encChunk, remotePubBytes, remoteEnc, rest, rest', remotePub, enc, mergedFits,
    rfl, rfl, keyRead, parsed, senderMade, encRead, recipientMade⟩

end Runs

/-! ### Agreement -/

section Agreement

variable {hpke}

/-- The recipient set up from a sender's encapsulation holds the sender's context. -/
theorem HpkeSuite.Lawful.recipient_eq (lawful : hpke.Lawful) {seed coins enc : Bytes}
    {sender recipient : Channel} (made : hpke.newSender (hpke.publicKey seed) coins = some (enc, sender))
    (opened : hpke.newRecipient enc seed = some recipient) : sender = recipient := by
  obtain ⟨enc', context, made', opened'⟩ := lawful.newRecipient_newSender seed coins
  rw [made] at made'
  cases made'
  exact Option.some.inj (opened'.symm.trans opened)

/-- Whatever the interleaving, when both sides have succeeded, each side's sending context is the
other side's receiving context, set up to the other side's public key, and nothing is in flight. -/
theorem Initiate_Accept_paired (lawful : hpke.Lawful) {seedI coinsI seedA coinsA : Bytes}
    {final : Network Bytes (Except ExchangeError ExchangeChannel)
      (Except ExchangeError ExchangeChannel)}
    (reached : Network.Reaches ⟨Initiate hpke seedI coinsI, Accept hpke seedA coinsA, [], []⟩ final)
    {initiator acceptor : ExchangeChannel} (initiatorDone : final.left = .done (.ok initiator))
    (acceptorDone : final.right = .done (.ok acceptor)) :
    initiator.sender = acceptor.recipient ∧ acceptor.sender = initiator.recipient ∧
      (∃ enc, hpke.newSender (hpke.publicKey seedA) coinsI = some (enc, initiator.sender)) ∧
      (∃ enc, hpke.newSender (hpke.publicKey seedI) coinsA = some (enc, acceptor.sender)) ∧
      final.toRight = [] ∧ final.toLeft = [] := by
  obtain ⟨insI, outsI, insA, outsA, ranI, ranA, toAcceptor, toInitiator⟩ :=
    Network.runs_of_reaches reached initiatorDone acceptorDone
  obtain ⟨chunk, merged, restI, remoteEnc, remotePublicBytes, remotePublic, encI, keyFits, encFits,
    rfl, rfl, mergedRead, split, recipientI, parsedI, senderI⟩ := Initiate_runs ranI
  obtain ⟨keyChunk, encChunk, remotePubBytes, remoteEncA, restA, restA', remotePub, encA,
    mergedFits, rfl, rfl, keyRead, parsedA, senderA, encRead, recipientA⟩ := Accept_runs ranA
  simp only [List.cons_append, List.nil_append, List.cons.injEq] at toAcceptor toInitiator
  obtain ⟨rfl, rfl, toRightNil⟩ := toAcceptor
  obtain ⟨rfl, toLeftNil⟩ := toInitiator
  obtain rfl := readBytes_frame keyFits keyRead
  obtain rfl := readBytes_frame encFits encRead
  obtain rfl := readBytes_frame mergedFits mergedRead
  -- The initiator splits the merged message into the acceptor's encapsulation and key.
  have encShort : encA.length < 2 ^ 16 := by
    rw [length_mergeExchange] at mergedFits
    unfold maxUint16 at mergedFits
    omega
  rw [splitMerged_mergeExchange encShort] at split
  cases split
  rw [lawful.newPublicKey_publicKey] at parsedI parsedA
  cases parsedI
  cases parsedA
  exact ⟨lawful.recipient_eq senderI recipientA, lawful.recipient_eq senderA recipientI,
    ⟨_, senderI⟩, ⟨_, senderA⟩, toRightNil.symm, toLeftNil.symm⟩

/-- A frame read back from the chunk it was written into. -/
theorem readBytes_frame_eq {data : Bytes} (fits : data.length ≤ maxUint16) :
    ({ inbound := frame data } : Conn).ReadBytes.map Prod.fst = .ok data := by
  rw [Conn.ReadBytes_frame rfl fits (List.append_nil _).symm]
  rfl

/-- The left-first schedule runs the exchange in six steps (the key, the merged message and the
encapsulation, each written and then read), both sides ending with the contexts HPKE set up. -/
theorem exchange_runFor (lawful : hpke.Lawful) {seedI coinsI seedA coinsA encA encI : Bytes}
    {contextA contextI : Channel}
    (senderA : hpke.newSender (hpke.publicKey seedI) coinsA = some (encA, contextA))
    (senderI : hpke.newSender (hpke.publicKey seedA) coinsI = some (encI, contextI)) :
    Network.runFor 6 ⟨Initiate hpke seedI coinsI, Accept hpke seedA coinsA, [], []⟩ =
      ⟨.done (.ok ⟨contextI, contextA⟩), .done (.ok ⟨contextA, contextI⟩), [], []⟩ := by
  have recipient : ∀ {seed coins enc context}, hpke.newSender (hpke.publicKey seed) coins =
      some (enc, context) → hpke.newRecipient enc seed = some context := fun made => by
    obtain ⟨enc', context', made', opened⟩ := lawful.newRecipient_newSender _ _
    rw [made] at made'
    cases made'
    exact opened
  have keyFits : ∀ seed, (hpke.publicKey seed).length ≤ maxUint16 := fun seed => by
    rw [lawful.length_publicKey]
    decide
  have encFits : encI.length ≤ maxUint16 := by
    rw [lawful.length_enc _ _ _ _ senderI]
    decide
  have encShort : encA.length < 2 ^ 16 := by
    rw [lawful.length_enc _ _ _ _ senderA]
    decide
  have mergedFits : (mergeExchange encA (hpke.publicKey seedA)).length ≤ maxUint16 := by
    rw [length_mergeExchange, lawful.length_publicKey, lawful.length_enc _ _ _ _ senderA]
    decide
  simp [Network.runFor, Network.next?, Initiate, Accept, Process.seq, Process.map, Process.bind,
    Process.attempt, Process.attemptSome, Process.send, readBytes, Except.mapError,
    writeBytes_eq (keyFits _), writeBytes_eq encFits, writeBytes_eq mergedFits,
    readBytes_frame_eq (keyFits _), readBytes_frame_eq encFits, readBytes_frame_eq mergedFits,
    splitMerged_mergeExchange encShort, lawful.newPublicKey_publicKey, senderA, senderI,
    recipient senderA, recipient senderI]

/-- **Exchange agreement.** For every lawful suite, keys and coins, the exchange completes on the
left-first schedule; and whatever the interleaving, when the initiator and the acceptor have both
succeeded, each side's sending context is the other side's receiving context, each is the context
HPKE sets up to the other side's fresh public key with the sending side's coins, and no message
of the exchange is left in flight. -/
theorem exchange_agreement (lawful : hpke.Lawful) (seedI coinsI seedA coinsA : Bytes) :
    (∃ final initiator acceptor,
      Network.Reaches ⟨Initiate hpke seedI coinsI, Accept hpke seedA coinsA, [], []⟩ final ∧
      final.left = .done (.ok initiator) ∧ final.right = .done (.ok acceptor)) ∧
    ∀ (final : Network Bytes (Except ExchangeError ExchangeChannel)
        (Except ExchangeError ExchangeChannel)),
      Network.Reaches ⟨Initiate hpke seedI coinsI, Accept hpke seedA coinsA, [], []⟩ final →
      ∀ initiator acceptor, final.left = .done (.ok initiator) →
        final.right = .done (.ok acceptor) →
        initiator.sender = acceptor.recipient ∧ acceptor.sender = initiator.recipient ∧
          (∃ enc, hpke.newSender (hpke.publicKey seedA) coinsI = some (enc, initiator.sender)) ∧
          (∃ enc, hpke.newSender (hpke.publicKey seedI) coinsA = some (enc, acceptor.sender)) ∧
          final.toRight = [] ∧ final.toLeft = [] := by
  refine ⟨?_, fun final reached initiator acceptor initiatorDone acceptorDone =>
    Initiate_Accept_paired lawful reached initiatorDone acceptorDone⟩
  obtain ⟨encA, contextA, senderA, -⟩ := lawful.newRecipient_newSender seedI coinsA
  obtain ⟨encI, contextI, senderI, -⟩ := lawful.newRecipient_newSender seedA coinsI
  exact ⟨_, _, _, exchange_runFor lawful senderA senderI ▸ Network.reaches_runFor 6 _, rfl, rfl⟩

/-- The plain suite with empty keys and coins. -/
theorem exchange_agreement_plain :
    (∃ final initiator acceptor,
      Network.Reaches ⟨Initiate HpkeSuite.plain [] [], Accept HpkeSuite.plain [] [], [], []⟩
        final ∧
      final.left = .done (.ok initiator) ∧ final.right = .done (.ok acceptor)) ∧
    ∀ (final : Network Bytes (Except ExchangeError ExchangeChannel)
        (Except ExchangeError ExchangeChannel)),
      Network.Reaches ⟨Initiate HpkeSuite.plain [] [], Accept HpkeSuite.plain [] [], [], []⟩
        final →
      ∀ initiator acceptor, final.left = .done (.ok initiator) →
        final.right = .done (.ok acceptor) →
        initiator.sender = acceptor.recipient ∧ acceptor.sender = initiator.recipient ∧
          (∃ enc, HpkeSuite.plain.newSender (HpkeSuite.plain.publicKey []) [] =
            some (enc, initiator.sender)) ∧
          (∃ enc, HpkeSuite.plain.newSender (HpkeSuite.plain.publicKey []) [] =
            some (enc, acceptor.sender)) ∧
          final.toRight = [] ∧ final.toLeft = [] :=
  exchange_agreement HpkeSuite.plain_lawful [] [] [] []

end Agreement

/-! ### The channel -/

/-- The errors of `Channel.ReadBytes` and `Channel.WriteBytes`, by their texts. -/
inductive ChannelError where
  /-- `"read encrypted: %w"`. -/
  | readEncrypted (err : ConnError)
  /-- `"decrypting: %w"`. -/
  | decrypting
  /-- `"write encrypted: %w"`. -/
  | writeEncrypted (err : ConnError)
  deriving DecidableEq, Repr

variable (crypto : Primitives)

/-- `Recipient.Open(nil, ciphertext)`: the AEAD under the context's key and nonce; the sequence
moves on only when the ciphertext opens. -/
def Channel.Open (channel : Channel) (ciphertext : Bytes) : Option (Channel × Bytes) :=
  (crypto.aeadOpen channel.key channel.nonce ciphertext).map fun data =>
    ({ channel with sequence := channel.sequence + 1 }, data)

/-- `Channel.WriteBytes` on the conn it wraps: seal, then write. The sending context has moved on
even when the write fails. -/
def ExchangeChannel.WriteBytes (channel : ExchangeChannel) (conn : Conn) (data : Bytes) :
    ExchangeChannel × Except ChannelError Conn :=
  let (sender, encrypted) := channel.sender.Seal crypto data
  ({ channel with sender := sender }, (conn.WriteBytes encrypted).mapError .writeEncrypted)

/-- `Channel.ReadBytes` on the conn it wraps: read a frame, then open it. -/
def ExchangeChannel.ReadBytes (channel : ExchangeChannel) (conn : Conn) :
    ExchangeChannel × Conn × Except ChannelError Bytes :=
  match conn.ReadBytes with
  | .error err => (channel, conn, .error (.readEncrypted err))
  | .ok (encrypted, conn) =>
    match channel.recipient.Open crypto encrypted with
    | none => (channel, conn, .error .decrypting)
    | some (recipient, data) => ({ channel with recipient := recipient }, conn, .ok data)

/-- A caller writing each message in turn, stopping at the first error. -/
def ExchangeChannel.writeAll (channel : ExchangeChannel) (conn : Conn) :
    List Bytes → ExchangeChannel × Except ChannelError Conn
  | [] => (channel, .ok conn)
  | data :: rest =>
    match channel.WriteBytes crypto conn data with
    | (channel, .ok conn) => channel.writeAll conn rest
    | (channel, .error err) => (channel, .error err)

/-- A caller reading `count` messages in turn, stopping at the first error. -/
def ExchangeChannel.readAll (channel : ExchangeChannel) (conn : Conn) :
    Nat → ExchangeChannel × Conn × Except ChannelError (List Bytes)
  | 0 => (channel, conn, .ok [])
  | count + 1 =>
    match channel.ReadBytes crypto conn with
    | (channel, conn, .ok data) =>
      match channel.readAll conn count with
      | (channel, conn, .ok rest) => (channel, conn, .ok (data :: rest))
      | (channel, conn, .error err) => (channel, conn, .error err)
    | (channel, conn, .error err) => (channel, conn, .error err)

/-- The context after `count` messages. -/
def Channel.advance (channel : Channel) (count : Nat) : Channel :=
  { channel with sequence := channel.sequence + count }

/-- What `a` writes of `messages` on any open conn is a run of frames that `b`, reading them on
an open conn, reads back as `messages`, in order; both contexts end `messages.length` further. -/
def ExchangeChannel.Delivers (a b : ExchangeChannel) (messages : List Bytes) : Prop :=
  ∀ writer : Conn, writer.closed = false → ∃ sealed : List Bytes,
    a.writeAll crypto writer messages =
      ({ a with sender := a.sender.advance messages.length },
        .ok { writer with outbound := writer.outbound ++ sealed.flatMap frame }) ∧
    ∀ (reader : Conn) (rest : Bytes), reader.closed = false →
      reader.inbound = sealed.flatMap frame ++ rest →
      b.readAll crypto reader messages.length =
        ({ b with recipient := b.recipient.advance messages.length },
          { reader with inbound := rest }, .ok messages)

@[simp] theorem Channel.advance_zero (channel : Channel) : channel.advance 0 = channel := rfl

@[simp] theorem Channel.advance_advance (channel : Channel) (first second : Nat) :
    (channel.advance first).advance second = channel.advance (first + second) := by
  simp [Channel.advance, Nat.add_assoc]

section Stream

variable {crypto} (lawful : crypto.Lawful)
include lawful

theorem Channel.Open_Seal (channel : Channel) (data : Bytes) :
    channel.Open crypto (channel.Seal crypto data).2 = some ((channel.Seal crypto data).1, data) := by
  rw [Channel.Open, Channel.Seal, lawful.aeadOpen_aeadSeal]
  rfl

theorem ExchangeChannel.WriteBytes_eq_ok {channel : ExchangeChannel} {conn : Conn}
    (live : conn.closed = false) {data : Bytes} (fits : data.length + 16 ≤ maxUint16) :
    channel.WriteBytes crypto conn data =
      ({ channel with sender := channel.sender.advance 1 },
        .ok { conn with outbound := conn.outbound ++ frame (channel.sender.Seal crypto data).2 }) := by
  have sealedFits :
      (crypto.aeadSeal channel.sender.key channel.sender.nonce data).length ≤ maxUint16 := by
    rw [lawful.length_aeadSeal]
    exact fits
  unfold ExchangeChannel.WriteBytes Channel.Seal
  simp only
  rw [Conn.WriteBytes_eq_ok live sealedFits]
  rfl

theorem ExchangeChannel.ReadBytes_Seal {channel : ExchangeChannel} {conn : Conn}
    (live : conn.closed = false) {data rest : Bytes} (fits : data.length + 16 ≤ maxUint16)
    (inbound : conn.inbound = frame (channel.recipient.Seal crypto data).2 ++ rest) :
    channel.ReadBytes crypto conn =
      ({ channel with recipient := channel.recipient.advance 1 }, { conn with inbound := rest },
        .ok data) := by
  have sealedFits : (channel.recipient.Seal crypto data).2.length ≤ maxUint16 := by
    rw [Channel.Seal, lawful.length_aeadSeal]
    exact fits
  unfold ExchangeChannel.ReadBytes
  rw [Conn.ReadBytes_frame live sealedFits inbound]
  simp only
  rw [Channel.Open_Seal lawful]
  rfl

/-- Paired contexts deliver: what one writes the other reads back, message by message. The
induction is on the messages, with both channels and both conns generalized. -/
theorem ExchangeChannel.delivers_of_paired : ∀ (messages : List Bytes) {a b : ExchangeChannel},
    a.sender = b.recipient → (∀ data ∈ messages, data.length + 16 ≤ maxUint16) →
      a.Delivers crypto b messages
  | [], a, b, _, _ => fun writer _ =>
    ⟨[], by simp [ExchangeChannel.writeAll], fun reader rest _ inbound => by
      simp only [List.flatMap_nil, List.nil_append] at inbound
      simp [ExchangeChannel.readAll, ← inbound]⟩
  | data :: messages, a, b, paired, fits => fun writer live => by
    have first := fits data List.mem_cons_self
    obtain ⟨sealed, written, readBack⟩ :=
      ExchangeChannel.delivers_of_paired messages (a := { a with sender := a.sender.advance 1 })
        (b := { b with recipient := b.recipient.advance 1 }) (by simp [paired])
        (fun data member => fits data (List.mem_cons_of_mem _ member))
        { writer with outbound := writer.outbound ++ frame (a.sender.Seal crypto data).2 } live
    refine ⟨(a.sender.Seal crypto data).2 :: sealed, ?_, fun reader rest readerLive inbound => ?_⟩
    · rw [ExchangeChannel.writeAll, ExchangeChannel.WriteBytes_eq_ok lawful live first]
      simp only [written, List.length_cons, Channel.advance_advance, List.flatMap_cons,
        List.append_assoc, Nat.add_comm 1]
    · have arrived : reader.inbound =
          frame (b.recipient.Seal crypto data).2 ++ (sealed.flatMap frame ++ rest) := by
        rw [inbound, List.flatMap_cons, List.append_assoc, paired]
      have firstRead := ExchangeChannel.ReadBytes_Seal lawful readerLive first arrived
      rw [List.length_cons, ExchangeChannel.readAll, firstRead]
      simp only
      rw [readBack { reader with inbound := sealed.flatMap frame ++ rest } rest readerLive rfl]
      simp [Nat.add_comm 1]

end Stream

section Delivery

variable {crypto hpke}

/-- **After the exchange, the channel delivers in both directions.** Whatever the interleaving
of the exchange, once both sides have succeeded, every sequence of messages (each with room for
the 16-byte tag in a frame) that either side writes on an open conn is read back by the other,
in order and whole, from the frames it wrote; the writer's sending context and the reader's
receiving context both end as many messages further. -/
theorem exchange_delivers (hpkeLawful : hpke.Lawful) {seedI coinsI seedA coinsA : Bytes}
    {final : Network Bytes (Except ExchangeError ExchangeChannel)
      (Except ExchangeError ExchangeChannel)}
    (reached : Network.Reaches ⟨Initiate hpke seedI coinsI, Accept hpke seedA coinsA, [], []⟩ final)
    {initiator acceptor : ExchangeChannel} (initiatorDone : final.left = .done (.ok initiator))
    (acceptorDone : final.right = .done (.ok acceptor)) (lawful : crypto.Lawful)
    (messages : List Bytes) (fits : ∀ data ∈ messages, data.length + 16 ≤ maxUint16) :
    initiator.Delivers crypto acceptor messages ∧ acceptor.Delivers crypto initiator messages := by
  obtain ⟨forward, backward, -⟩ :=
    Initiate_Accept_paired hpkeLawful reached initiatorDone acceptorDone
  exact ⟨ExchangeChannel.delivers_of_paired lawful messages forward fits,
    ExchangeChannel.delivers_of_paired lawful messages backward fits⟩

/-- The plain suites, empty keys and coins, after the left-first schedule, one message. -/
theorem exchange_delivers_plain :
    let context : Channel := ⟨HpkeSuite.plain.publicKey [], [], 0⟩
    (⟨context, context⟩ : ExchangeChannel).Delivers Primitives.plain ⟨context, context⟩ [[1, 2, 3]] ∧
      (⟨context, context⟩ : ExchangeChannel).Delivers Primitives.plain ⟨context, context⟩
        [[1, 2, 3]] :=
  exchange_delivers HpkeSuite.plain_lawful
    (Network.reaches_runFor 6 ⟨Initiate HpkeSuite.plain [] [], Accept HpkeSuite.plain [] [], [], []⟩)
    (by rw [exchange_runFor HpkeSuite.plain_lawful rfl rfl])
    (by rw [exchange_runFor HpkeSuite.plain_lawful rfl rfl]) Primitives.plain_lawful [[1, 2, 3]]
    (by decide)

end Delivery

end Kamune
