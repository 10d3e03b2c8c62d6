/-
**The cryptographic layer: `internal/enigma`, `pkg/attest`, `pkg/exchange`'s ML-KEM and the
transport's signing input.**

The code calls primitives it does not implement. They are the fields of `Primitives`:
XChaCha20-Poly1305 `Seal`/`Open`, the HKDF-SHA512 output stream, Ed25519 signing and
`attest.Verify`, ML-KEM-768 encapsulation and decapsulation, SHA-256. `Primitives.Lawful` states
what the code relies on of them: `Open` inverts `Seal` under the same key and nonce and the tag
is `16` bytes, a signature made with a private key verifies under its public key and is `64`
bytes, decapsulation recovers the encapsulated secret, a SHA-256 digest is `32` bytes.

On top of them the code of this repository is modelled as it is written:

* `Derive` — `enigma.Derive`: `size` bytes of HKDF, an error past HKDF-SHA512's `255` blocks;
* `Enigma`, `NewEnigma`, `Enigma.Encrypt`, `Enigma.Decrypt` — a random `24`-byte nonce in front of
  the sealed text;
* `Text` — `enigma.Text` (and `rand.Text`, its 26-character standard case);
* `signingInput` — the domain-separated input of the transport signature (RFC002 §5.1).

Results:

* `Enigma.Decrypt_Encrypt`: decryption under the same key inverts encryption;
* `Enigma.length_Encrypt`: encryption adds exactly `encryptionOverhead` bytes;
* `Text_ascii`, `utf8Valid_Text`: random text is ASCII, hence valid UTF-8.
-/

import Kamune.Padding

namespace Kamune

open Wire

/-- The bytes of a Go string: its UTF-8 encoding. -/
def stringBytes (text : String) : Bytes := text.toUTF8.data.toList

/-! ### The primitives -/

/-- The primitives the code calls, by what it passes them. Keys, nonces, secrets and signatures
are byte strings; a primitive that can fail returns an `Option`. -/
structure Primitives where
  /-- `aead.Seal(nonce, nonce, plaintext, nil)` under a 32-byte key, without the nonce. -/
  aeadSeal : Bytes → Bytes → Bytes → Bytes
  /-- `aead.Open(nil, nonce, ciphertext, nil)`. -/
  aeadOpen : Bytes → Bytes → Bytes → Option Bytes
  /-- The output stream of `hkdf.New(sha512.New, secret, salt, info)`, its first `size` bytes. -/
  hkdf : Bytes → Bytes → Bytes → Nat → Bytes
  /-- `ed25519.Sign` under a private key. -/
  sign : Bytes → Bytes → Bytes
  /-- `MarshalPublicKey`: the PKIX encoding of a private key's public half. -/
  publicKey : Bytes → Bytes
  /-- `attest.Verify(remote, msg, sig)`. -/
  verify : Bytes → Bytes → Bytes → Bool
  /-- The encapsulation key of an ML-KEM-768 key pair, from the pair's seed. -/
  kemPublicKey : Bytes → Bytes
  /-- `EncapsulateMLKEM(remote)` with its random coins: the secret and the ciphertext. -/
  encapsulate : Bytes → Bytes → Option (Bytes × Bytes)
  /-- `Decapsulate(ct)` with the pair's seed. -/
  decapsulate : Bytes → Bytes → Option Bytes
  /-- SHA-256. -/
  sha256 : Bytes → Bytes

/-- What the code relies on of its primitives. -/
structure Primitives.Lawful (crypto : Primitives) : Prop where
  aeadOpen_aeadSeal : ∀ key nonce plaintext,
    crypto.aeadOpen key nonce (crypto.aeadSeal key nonce plaintext) = some plaintext
  length_aeadSeal : ∀ key nonce plaintext,
    (crypto.aeadSeal key nonce plaintext).length = plaintext.length + 16
  length_hkdf : ∀ secret salt info size, (crypto.hkdf secret salt info size).length = size
  verify_sign : ∀ privateKey message,
    crypto.verify (crypto.publicKey privateKey) message (crypto.sign privateKey message) = true
  length_sign : ∀ privateKey message, (crypto.sign privateKey message).length = 64
  decapsulate_encapsulate : ∀ seed coins, ∃ secret ciphertext,
    crypto.encapsulate (crypto.kemPublicKey seed) coins = some (secret, ciphertext) ∧
      crypto.decapsulate seed ciphertext = some secret
  length_sha256 : ∀ data, (crypto.sha256 data).length = 32

/-- Primitives that meet every law and do nothing: sealing appends a zero tag, every signature
verifies, the encapsulated secret is the random coins. They show the laws consistent, and give the
model concrete inputs to run on. -/
def Primitives.plain : Primitives where
  aeadSeal _ _ plaintext := plaintext ++ List.replicate 16 0
  aeadOpen _ _ ciphertext :=
    if 16 ≤ ciphertext.length then some (ciphertext.take (ciphertext.length - 16)) else none
  hkdf _ _ _ size := List.replicate size 0
  sign _ _ := List.replicate 64 0
  publicKey key := key
  verify _ _ _ := true
  kemPublicKey seed := seed
  encapsulate _ coins := some (coins, coins)
  decapsulate _ ciphertext := some ciphertext
  sha256 _ := List.replicate 32 0

theorem Primitives.plain_lawful : Primitives.plain.Lawful where
  aeadOpen_aeadSeal key nonce plaintext := by simp [Primitives.plain]
  length_aeadSeal key nonce plaintext := by simp [Primitives.plain]
  length_hkdf secret salt info size := by simp [Primitives.plain]
  verify_sign privateKey message := rfl
  length_sign privateKey message := by simp [Primitives.plain]
  decapsulate_encapsulate seed coins := ⟨coins, coins, rfl, rfl⟩
  length_sha256 data := by simp [Primitives.plain]

variable (crypto : Primitives)

/-! ### `enigma.Derive` and `Enigma` -/

/-- `enigma.Derive`: `io.ReadFull` of `size` bytes of HKDF-SHA512, which stops with an error after
`255` blocks of `64` bytes. -/
def Derive (secret salt info : Bytes) (size : Nat) : Option Bytes :=
  if size ≤ 255 * 64 then some (crypto.hkdf secret salt info size) else none

/-- `nonceSize`: `chacha20poly1305.NonceSizeX`. -/
def nonceSize : Nat := 24

/-- `Enigma`: an XChaCha20-Poly1305 AEAD, by its key. -/
structure Enigma where
  key : Bytes
  deriving DecidableEq, Repr

/-- `NewEnigma`: a 32-byte key derived from the secret, salt and info. `chacha20poly1305.NewX`
fails only on a key of another length, which `Derive` never returns. -/
def NewEnigma (secret salt info : Bytes) : Option Enigma :=
  (Derive crypto secret salt info 32).map Enigma.mk

/-- `Enigma.Encrypt`: the nonce read off the random tape, then the sealed text. -/
def Enigma.Encrypt (enigma : Enigma) (nonceTape : Nat → UInt8) (plaintext : Bytes) : Bytes :=
  let nonce := randomBytes nonceTape nonceSize
  nonce ++ crypto.aeadSeal enigma.key nonce plaintext

/-- The errors of `Enigma.Decrypt`. -/
inductive DecryptError where
  /-- `ErrInvalidCiphertext`: shorter than a nonce. -/
  | invalidCiphertext
  /-- `"aead.Open: %w"`. -/
  | aeadOpen
  deriving DecidableEq, Repr

/-- `Enigma.Decrypt`: the nonce is the first `nonceSize` bytes. -/
def Enigma.Decrypt (enigma : Enigma) (ciphertext : Bytes) : Except DecryptError Bytes :=
  if ciphertext.length < nonceSize then .error .invalidCiphertext
  else match crypto.aeadOpen enigma.key (ciphertext.take nonceSize)
      (ciphertext.drop nonceSize) with
    | some plaintext => .ok plaintext
    | none => .error .aeadOpen

section Lawful

variable {crypto} (lawful : crypto.Lawful)
include lawful

/-- **Decryption inverts encryption** under the same key, whatever the nonce. -/
theorem Enigma.Decrypt_Encrypt (enigma : Enigma) (nonceTape : Nat → UInt8) (plaintext : Bytes) :
    enigma.Decrypt crypto (enigma.Encrypt crypto nonceTape plaintext) = .ok plaintext := by
  have nonceLength : (randomBytes nonceTape nonceSize).length = nonceSize :=
    length_randomBytes nonceTape nonceSize
  unfold Enigma.Decrypt Enigma.Encrypt
  dsimp only
  rw [if_neg (by simp [nonceLength]), List.take_left' nonceLength,
    List.drop_left' nonceLength, lawful.aeadOpen_aeadSeal]

/-- **Encryption adds `encryptionOverhead` bytes**: the nonce and the tag. -/
theorem Enigma.length_Encrypt (enigma : Enigma) (nonceTape : Nat → UInt8) (plaintext : Bytes) :
    (enigma.Encrypt crypto nonceTape plaintext).length = plaintext.length + encryptionOverhead := by
  simp only [Enigma.Encrypt, List.length_append, length_randomBytes, lawful.length_aeadSeal]
  unfold nonceSize encryptionOverhead
  omega

/-- `Derive` returns exactly the bytes asked for, up to its limit. -/
theorem Derive_eq {secret salt info : Bytes} {size : Nat} (small : size ≤ 255 * 64) :
    ∃ derived, Derive crypto secret salt info size = some derived ∧ derived.length = size :=
  ⟨_, if_pos small, lawful.length_hkdf secret salt info size⟩

end Lawful

/-! ### Random text -/

/-- `base32alphabet`, the alphabet of RFC 4648 base32. -/
def base32alphabet : Bytes := stringBytes "ABCDEFGHIJKLMNOPQRSTUVWXYZ234567"

/-- `enigma.Text(l)`: `l` random bytes, each mapped to `base32alphabet[b % 32]`. Go's
`crypto/rand.Text()` is the same map over `26` bytes. -/
def Text (tape : Nat → UInt8) (length : Nat) : Bytes :=
  (randomBytes tape length).map fun byte => base32alphabet.getD (byte.toNat % 32) 0

@[simp] theorem length_Text (tape : Nat → UInt8) (length : Nat) :
    (Text tape length).length = length := by
  simp [Text]

/-- Every letter of the alphabet is ASCII. -/
theorem base32alphabet_ascii : ∀ byte ∈ base32alphabet, byte < 0x80 := by
  decide +kernel

/-- **Random text is ASCII.** -/
theorem Text_ascii (tape : Nat → UInt8) (length : Nat) :
    ∀ byte ∈ Text tape length, byte < 0x80 := by
  intro byte member
  obtain ⟨drawn, -, rfl⟩ := List.mem_map.mp member
  have inRange : drawn.toNat % 32 < base32alphabet.length := by
    have size : base32alphabet.length = 32 := by decide +kernel
    rw [size]
    exact Nat.mod_lt _ (by norm_num)
  rw [List.getD_eq_getElem _ _ inRange]
  exact base32alphabet_ascii _ (List.getElem_mem inRange)

theorem utf8Valid_Text (tape : Nat → UInt8) (length : Nat) : utf8Valid (Text tape length) = true :=
  utf8Valid_of_ascii (Text_ascii tape length)

/-! ### The signing input -/

/-- `transportSignInfo`. -/
def transportSignInfo : Bytes := stringBytes "kamune/transport-sign/v1"

/-- `signingInput`: `transportSignInfo || uvarint(len(metadata)) || metadata || data`. -/
def signingInput (metadataBytes data : Bytes) : Bytes :=
  transportSignInfo ++ uvarint metadataBytes.length ++ metadataBytes ++ data

/-- **The signing input is self-delimiting**: the varint length fixes where the metadata ends and
the data begins, so no bytes move between them under one signature. -/
theorem signingInput_injective {metadataBytes data otherMetadata otherData : Bytes}
    (same : signingInput metadataBytes data = signingInput otherMetadata otherData) :
    metadataBytes = otherMetadata ∧ data = otherData := by
  unfold signingInput at same
  simp only [List.append_assoc] at same
  obtain ⟨lengths, rest⟩ := uvarint_append_inj _ (List.append_cancel_left same)
  exact List.append_inj rest lengths

end Kamune
