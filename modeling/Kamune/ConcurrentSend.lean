/-
**Concurrent `Send` calls on one transport.**

`Transport.Send` runs in three steps that other calls can interleave with: it takes the next
sequence number under `t.mu`, then serializes and encrypts outside any lock, then writes the
frame under the conn's write lock. `sendSystem` is that split, a thread for each call, over the
shared transport and conn (`Interleaving.System`).

* `sendSystem_run_Send`: one call run alone is `Transport.Send` — the split is faithful;
* `concurrent_sends_out_of_order`: two calls that both take their sequence before either
  writes can put their frames on the wire in the opposite order: the receiver then meets the
  second sequence first and rejects it with `ErrOutOfSync`.
-/

import Kamune.Transport
import Kamune.Lib.Interleaving

namespace Kamune

open Wire Interleaving

/-- Where one `Send` call is. -/
inductive SendThread (M : Type) where
  /-- Called, nothing done yet. -/
  | ready (message : M) (route : Route) (entropy : Entropy)
  /-- Holds the sequence number it took under `t.mu`. -/
  | allocated (message : M) (route : Route) (entropy : Entropy) (seq : UInt64)
  /-- Holds the encrypted frame, waiting for the write lock. -/
  | sealed (ciphertext : Bytes) (metadata : Metadata)
  /-- Returned. -/
  | finished (result : Except Error Metadata)

variable (crypto : Primitives) {M : Type} (codec : Codec M)

/-- One step of a `Send` call on the shared transport and conn. -/
def sendStep : Transport × Conn → SendThread M → Option ((Transport × Conn) × SendThread M)
  | (t, conn), .ready message route entropy =>
    if !route.IsValid then some ((t, conn), .finished (.error (.invalidRoute route)))
    else
      let t := { t with sendSequence := t.sendSequence + 1 }
      some ((t, conn), .allocated message route entropy t.sendSequence)
  | (t, conn), .allocated message route entropy seq =>
    match serialize crypto t.serde codec message route seq entropy with
    | .error err => some ((t, conn), .finished (.error (.serializing err)))
    | .ok (payload, metadata) =>
      some ((t, conn), .sealed (t.encoder.Encrypt crypto entropy.nonceTape payload) metadata)
  | (t, conn), .sealed ciphertext metadata =>
    match conn.WriteBytes ciphertext with
    | .error err => some ((t, conn), .finished (.error (.writing err)))
    | .ok conn => some ((t, conn), .finished (.ok metadata))
  | _, .finished _ => none

/-- Concurrent `Send` calls on one transport and conn. -/
def sendSystem : System (Transport × Conn) (SendThread M) := ⟨sendStep crypto codec⟩

/-! ### One step at a time -/

section Steps

variable {crypto codec}

theorem sendStep_ready (t : Transport) (conn : Conn) (message : M) {route : Route}
    (valid : route.IsValid = true) (entropy : Entropy) :
    sendStep crypto codec (t, conn) (.ready message route entropy) =
      some (({ t with sendSequence := t.sendSequence + 1 }, conn),
        .allocated message route entropy (t.sendSequence + 1)) := by
  simp only [sendStep]
  rw [if_neg (by simp [valid])]

theorem sendStep_allocated {t : Transport} (conn : Conn) {message : M} {route : Route}
    {entropy : Entropy} {seq : UInt64} {payload : Bytes} {metadata : Metadata}
    (serialized : serialize crypto t.serde codec message route seq entropy =
      .ok (payload, metadata)) :
    sendStep crypto codec (t, conn) (.allocated message route entropy seq) =
      some ((t, conn), .sealed (t.encoder.Encrypt crypto entropy.nonceTape payload) metadata) := by
  simp only [sendStep]
  rw [serialized]

theorem sendStep_sealed (t : Transport) {conn conn' : Conn} {ciphertext : Bytes}
    (metadata : Metadata) (written : conn.WriteBytes ciphertext = .ok conn') :
    sendStep crypto codec (t, conn) (.sealed ciphertext metadata) =
      some ((t, conn'), .finished (.ok metadata)) := by
  simp only [sendStep]
  rw [written]

end Steps

section TwoCalls

variable {crypto codec} (lawful : crypto.Lawful) (codecLawful : codec.Lawful)
include lawful codecLawful

/-- **Concurrent sends can reach the wire out of order.** Two `Send` calls on a transport in step
with its peer, each with a message within `maxTransportSize` on a valid route other than
`RouteCloseTransport`: the first takes sequence `s + 1`, the second `s + 2`, the second
serializes and writes, then the first. Both frames are written, the second call's first, and the
peer's `Receive`, which expects `s + 1`, rejects the frame of `s + 2` with `ErrOutOfSync`. -/
theorem concurrent_sends_out_of_order {A B : Transport} (sharedKey : B.decoder = A.encoder)
    (matching : B.serde.remote = crypto.publicKey A.serde.attest)
    (inStep : B.recvSequence = A.sendSequence) {conn : Conn} (live : conn.closed = false)
    {first second : M} {firstBytes secondBytes : Bytes}
    (firstMarshalled : codec.marshal first = some firstBytes)
    (firstFits : firstBytes.length ≤ maxTransportSize)
    (secondMarshalled : codec.marshal second = some secondBytes)
    (secondFits : secondBytes.length ≤ maxTransportSize) {firstRoute secondRoute : Route}
    (firstValid : firstRoute.IsValid = true) (secondValid : secondRoute.IsValid = true)
    (secondNotClose : secondRoute ≠ .closeTransport) (firstEntropy secondEntropy : Entropy) :
    ∃ firstWritten secondWritten,
      ((sendSystem crypto codec).run
          ⟨(A, conn),
            [.ready first firstRoute firstEntropy, .ready second secondRoute secondEntropy]⟩
          [0, 1, 1, 1, 0, 0]).shared.2.outbound =
        conn.outbound ++ secondWritten ++ firstWritten ∧
      ∀ (connB : Conn) (rest : Bytes), connB.closed = false →
        connB.inbound = secondWritten ++ firstWritten ++ rest →
          B.Receive crypto codec connB =
            (B, { connB with inbound := firstWritten ++ rest },
              .error (.outOfSync (A.sendSequence + 2 < A.sendSequence + 1) (A.sendSequence + 2)
                (A.sendSequence + 1))) := by
  -- the shared transport after both calls took their sequence
  let A₁ : Transport := { A with sendSequence := A.sendSequence + 1 }
  let A₂ : Transport := { A₁ with sendSequence := A₁.sendSequence + 1 }
  obtain ⟨secondPayload, secondSerialized, -, secondCipherFits, -⟩ :=
    Transport.Send_fits lawful A₂.serde A₂.encoder secondMarshalled secondFits secondRoute
      (A₁.sendSequence + 1) secondEntropy
  obtain ⟨firstPayload, firstSerialized, -, firstCipherFits, -⟩ :=
    Transport.Send_fits lawful A₂.serde A₂.encoder firstMarshalled firstFits firstRoute
      (A.sendSequence + 1) firstEntropy
  let secondCipher := A₂.encoder.Encrypt crypto secondEntropy.nonceTape secondPayload
  let firstCipher := A₂.encoder.Encrypt crypto firstEntropy.nonceTape firstPayload
  let conn₁ : Conn := { conn with outbound := conn.outbound ++ frame secondCipher }
  let conn₂ : Conn := { conn₁ with outbound := conn₁.outbound ++ frame firstCipher }
  have ran : ((sendSystem crypto codec).run
      ⟨(A, conn), [.ready first firstRoute firstEntropy, .ready second secondRoute secondEntropy]⟩
      [0, 1, 1, 1, 0, 0]).shared = (A₂, conn₂) := by
    -- each call's steps, in the order of the schedule
    simp only [System.run_cons, System.run_nil, sendSystem, System.stepAt_cons_zero,
      System.stepAt_cons_succ, sendStep_ready _ _ _ firstValid, sendStep_ready _ _ _ secondValid,
      Option.map_some, Option.getD_some]
    rw [sendStep_allocated conn secondSerialized]
    simp only [System.stepAt_cons_zero, System.stepAt_cons_succ, Option.map_some,
      Option.getD_some]
    rw [sendStep_sealed _ _ (Conn.WriteBytes_eq_ok live secondCipherFits)]
    simp only [System.stepAt_cons_zero, Option.map_some, Option.getD_some]
    rw [sendStep_allocated conn₁ firstSerialized]
    simp only [System.stepAt_cons_zero, Option.map_some, Option.getD_some]
    have stillLive : conn₁.closed = false := live
    rw [sendStep_sealed _ _ (Conn.WriteBytes_eq_ok stillLive firstCipherFits)]
    rfl
  refine ⟨frame firstCipher, frame secondCipher, by rw [ran], ?_⟩
  intro connB rest liveB inbound
  have keys : B.decoder = A₂.encoder := sharedKey
  have signer : B.serde.remote = crypto.publicKey A₂.serde.attest := matching
  obtain ⟨decoded, decrypt, deserialized, -⟩ :=
    Transport.deserialize_frame (A := A₂) lawful codecLawful keys signer secondSerialized
  have read := Conn.ReadBytes_frame liveB secondCipherFits
    (by rw [inbound, List.append_assoc])
  have skipped : A₁.sendSequence + 1 = A.sendSequence + 2 :=
    sequence_add_one_add_one A.sendSequence
  rw [B.Receive_of_deserialize read decrypt deserialized,
    if_neg (by rw [newMetadata, Metadata.Route, RouteFromProto_ToProto]; exact secondNotClose)]
  simp only [newMetadata, skipped, inStep]
  rw [if_pos (sequence_add_two_ne_add_one A.sendSequence)]

omit lawful codecLawful in
theorem concurrent_sends_out_of_order_plain :
    ∃ firstWritten secondWritten,
      ((sendSystem Primitives.plain bytesValueCodec).run
          ⟨(newTransport ⟨[], []⟩ [] ⟨[]⟩ ⟨[]⟩, {}),
            [.ready { value := [] } .exchangeMessages Entropy.zeros,
              .ready { value := [] } .exchangeMessages Entropy.zeros]⟩
          [0, 1, 1, 1, 0, 0]).shared.2.outbound =
        [] ++ secondWritten ++ firstWritten ∧
      ∀ (connB : Conn) (rest : Bytes), connB.closed = false →
        connB.inbound = secondWritten ++ firstWritten ++ rest →
          (newTransport ⟨[], []⟩ [] ⟨[]⟩ ⟨[]⟩).Receive Primitives.plain bytesValueCodec connB =
            (newTransport ⟨[], []⟩ [] ⟨[]⟩ ⟨[]⟩, { connB with inbound := firstWritten ++ rest },
              .error (.outOfSync ((0 : UInt64) + 2 < 0 + 1) (0 + 2) (0 + 1))) :=
  concurrent_sends_out_of_order Primitives.plain_lawful bytesValueCodec_lawful rfl rfl rfl rfl
    (show bytesValueCodec.marshal { value := [] } = some [] from rfl) (by decide)
    (show bytesValueCodec.marshal { value := [] } = some [] from rfl) (by decide) rfl rfl
    (by decide) Entropy.zeros Entropy.zeros

end TwoCalls

end Kamune
