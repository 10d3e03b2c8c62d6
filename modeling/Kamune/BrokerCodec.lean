/-
**The broker's wire format (`pkg/relayconn/broker/codec.go`).**

Every broker packet starts with the magic `KBRK`, the version and an opcode. A REGISTER is 60
bytes: the token, the peer's ephemeral X25519 key, the IPv4 address and the port the peer reports.
The broker answers with a NOTIFY whose plaintext, before `SealNotify`, is a PEER_MATCHED or a
TOKEN_ASSIGNED payload. Every field is written by `padOrTruncate` at its size, so what a builder
puts in reads back as its padded form.

The three packet parsers make the same checks in the same order, with their own minimum length
and opcode: `checkHeader`, of which `ParseEchoRequest` and `ParseNotify` are written and
`ParseRegister` is shown to be (`ParseRegister_eq_map`).

* `checkHeader_rejects`: a packet too short for its kind, then one without the magic, of another
  version or of another opcode, is rejected with that error;
* `ParseRegister_BuildRegister`: a REGISTER a client builds is accepted, and its fields read back
  padded or cut to their sizes, the address in its IPv4 form and the port modulo `2 ^ 16`;
* `BuildRegister_ParseRegister`: an accepted REGISTER is its fields, rebuilt, and trailing bytes;
* `ParseNotify_buildNotify`, `ParseNotifyPayload_PeerMatchedPlaintext`,
  `ParseNotifyPayload_TokenAssignedPlaintext`: a NOTIFY and its two payloads read back as what the
  broker put in them;
* `broker_codec_round_trips`: all of it, for fields of their sizes.
-/

import Kamune.Crypto

namespace Kamune.RelayBroker

open Wire

/-! ### Constants and errors -/

/-- `magic`. -/
def magic : Bytes := stringBytes "KBRK"

def ver : UInt8 := 0x01

def opcodeEcho : UInt8 := 0x01

def opcodeRegister : UInt8 := 0x02

def opcodeNotify : UInt8 := 0x03

def tokenSize : Nat := 16

def x25519KeySize : Nat := 32

def ipv4Size : Nat := 4

def portSize : Nat := 2

def nonceSize : Nat := 24

/-- `headerSize`: magic, version and opcode. -/
def headerSize : Nat := 6

/-- `notifyHeaderSize`: the header and the broker's ephemeral key. -/
def notifyHeaderSize : Nat := 38

def registerSize : Nat := 60

def peerMatchedPayloadSize : Nat := 1 + tokenSize + x25519KeySize + ipv4Size + portSize

def tokenAssignedPayloadSize : Nat := 1 + tokenSize + 4

/-- `NotifyType`, the first byte of a NOTIFY plaintext. -/
inductive NotifyType where
  | peerMatched
  | tokenAssigned
  deriving DecidableEq, Repr

def NotifyType.byte : NotifyType → UInt8
  | .peerMatched => 0x01
  | .tokenAssigned => 0x02

/-- `ErrShortPacket`, `ErrBadMagic`, `ErrBadVersion`, `ErrBadOpcode`. -/
inductive CodecError where
  | shortPacket
  | badMagic
  | badVersion
  | badOpcode
  deriving DecidableEq, Repr

/-! ### Helpers -/

/-- `net.IP.To4`: a 4-byte address, or the last four bytes of an IPv4-mapped 16-byte one. -/
def To4 (ip : Bytes) : Option Bytes :=
  if ip.length = 4 then some ip
  else if ip.length = 16 ∧ ip.take 10 = List.replicate 10 0 ∧ (ip.drop 10).take 2 = [0xff, 0xff]
  then some (ip.drop 12)
  else none

/-- `padOrTruncate`: `copy` into `n` zero bytes. -/
def padOrTruncate (b : Bytes) (n : Nat) : Bytes := b.take n ++ List.replicate (n - b.length) 0

/-- `bytesHasPrefix`: the length check and the loop over the prefix's bytes. -/
def bytesHasPrefix (b start : Bytes) : Bool := start.isPrefixOf b

/-- The checks `ParseEchoRequest`, `ParseRegister` and `ParseNotify` make, in their order, with
the kind's minimum length and its opcode. -/
def checkHeader (pkt : Bytes) (size : Nat) (opcode : UInt8) : Except CodecError Unit :=
  if pkt.length < size then .error .shortPacket
  else if !bytesHasPrefix pkt magic then .error .badMagic
  else if pkt[4]? ≠ some ver then .error .badVersion
  else if pkt[5]? ≠ some opcode then .error .badOpcode
  else .ok ()

/-- `ParseEchoRequest`; trailing bytes are ignored. -/
def ParseEchoRequest (pkt : Bytes) : Except CodecError Unit := checkHeader pkt headerSize opcodeEcho

/-! ### REGISTER -/

/-- The fields `ParseRegister` returns. -/
structure RegisterFields where
  token : Bytes
  peerEphPub : Bytes
  ip : Bytes
  port : Nat
  deriving DecidableEq, Repr

/-- `ParseRegister`: the checks in order, then the four fields at their offsets; trailing bytes
are ignored. -/
def ParseRegister (pkt : Bytes) : Except CodecError RegisterFields :=
  if pkt.length < registerSize then .error .shortPacket
  else if !bytesHasPrefix pkt magic then .error .badMagic
  else if pkt[4]? ≠ some ver then .error .badVersion
  else if pkt[5]? ≠ some opcodeRegister then .error .badOpcode
  else .ok
    { token := (pkt.drop headerSize).take tokenSize
      peerEphPub := (pkt.drop (headerSize + tokenSize)).take x25519KeySize
      ip := (pkt.drop (headerSize + tokenSize + x25519KeySize)).take ipv4Size
      port := ofBigEndian ((pkt.drop (headerSize + tokenSize + x25519KeySize + ipv4Size)).take
        portSize) }

/-- `BuildRegister`; an address with no IPv4 form is sent as zeros, which the broker rejects. -/
def BuildRegister (token peerEphPub ip : Bytes) (port : Nat) : Bytes :=
  let ip4 := (To4 ip).getD (List.replicate ipv4Size 0)
  magic ++ [ver, opcodeRegister] ++ padOrTruncate token tokenSize ++
    padOrTruncate peerEphPub x25519KeySize ++ padOrTruncate ip4 ipv4Size ++ bigEndian portSize port

/-! ### NOTIFY packets -/

/-- `ParseNotify`: the broker's ephemeral key, the nonce and the sealed rest. -/
def ParseNotify (pkt : Bytes) : Except CodecError (Bytes × Bytes × Bytes) :=
  (checkHeader pkt (notifyHeaderSize + nonceSize) opcodeNotify).map fun _ =>
    ((pkt.drop headerSize).take (notifyHeaderSize - headerSize),
      (pkt.drop notifyHeaderSize).take nonceSize, pkt.drop (notifyHeaderSize + nonceSize))

/-- `buildNotify`, without the size argument it ignores. -/
def buildNotify (brokerEphPub nonce sealed : Bytes) : Bytes :=
  magic ++ [ver, opcodeNotify] ++ brokerEphPub ++ nonce ++ sealed

def BuildNotifyPeerMatched (brokerEphPub nonce sealed : Bytes) : Bytes :=
  buildNotify brokerEphPub nonce sealed

def BuildNotifyTokenAssigned (brokerEphPub nonce sealed : Bytes) : Bytes :=
  buildNotify brokerEphPub nonce sealed

/-! ### NOTIFY payloads -/

/-- `NotifyPayload`: the fields the payload's type fills. -/
inductive NotifyPayload where
  | peerMatched (Token OtherPeerEphPub IP : Bytes) (Port : Nat)
  | tokenAssigned (Token : Bytes) (TTLSeconds : Nat)
  deriving DecidableEq, Repr

/-- `PeerMatchedPlaintext`. `padOrTruncate` always returns `ipv4Size` bytes, so the source's
branch for an empty address never runs. -/
def PeerMatchedPlaintext (token otherPeerEphPub ip : Bytes) (port : Nat) : Bytes :=
  [NotifyType.peerMatched.byte] ++ padOrTruncate token tokenSize ++
    padOrTruncate otherPeerEphPub x25519KeySize ++ padOrTruncate ((To4 ip).getD []) ipv4Size ++
    bigEndian portSize port

/-- `TokenAssignedPlaintext`. -/
def TokenAssignedPlaintext (token : Bytes) (ttlSeconds : Nat) : Bytes :=
  [NotifyType.tokenAssigned.byte] ++ padOrTruncate token tokenSize ++ bigEndian 4 ttlSeconds

/-- `ParseNotifyPayload`. -/
def ParseNotifyPayload (plaintext : Bytes) : Except CodecError NotifyPayload :=
  match plaintext with
  | [] => .error .shortPacket
  | kind :: _ =>
    if kind = NotifyType.peerMatched.byte then
      if plaintext.length < peerMatchedPayloadSize then .error .shortPacket
      else .ok (.peerMatched ((plaintext.drop 1).take tokenSize)
        ((plaintext.drop (1 + tokenSize)).take x25519KeySize)
        ((plaintext.drop (1 + tokenSize + x25519KeySize)).take ipv4Size)
        (ofBigEndian ((plaintext.drop (1 + tokenSize + x25519KeySize + ipv4Size)).take portSize)))
    else if kind = NotifyType.tokenAssigned.byte then
      if plaintext.length < tokenAssignedPayloadSize then .error .shortPacket
      else .ok (.tokenAssigned ((plaintext.drop 1).take tokenSize)
        (ofBigEndian ((plaintext.drop (1 + tokenSize)).take 4)))
    else .error .badOpcode

/-! ### What the parsers reject -/

/-- The rejections every parser of a packet kind makes: a packet shorter than `size`, then one
without the magic, then one of another version, then one of another opcode, each with its own
error. -/
def RejectsMalformed {α : Type} (parse : Bytes → Except CodecError α) (size : Nat)
    (opcode : UInt8) : Prop :=
  ∀ pkt : Bytes, (pkt.length < size → parse pkt = .error .shortPacket) ∧
    (size ≤ pkt.length → pkt.take 4 ≠ magic → parse pkt = .error .badMagic) ∧
    (size ≤ pkt.length → pkt.take 4 = magic → pkt[4]? ≠ some ver →
      parse pkt = .error .badVersion) ∧
    (size ≤ pkt.length → pkt.take 4 = magic → pkt[4]? = some ver → pkt[5]? ≠ some opcode →
      parse pkt = .error .badOpcode)

/-! ### Sizes -/

@[simp] theorem length_padOrTruncate (b : Bytes) (n : Nat) : (padOrTruncate b n).length = n := by
  simp only [padOrTruncate, List.length_append, List.length_take, List.length_replicate]
  omega

theorem padOrTruncate_of_length {b : Bytes} {n : Nat} (fits : b.length = n) :
    padOrTruncate b n = b := by
  rw [padOrTruncate, List.take_of_length_le fits.le, fits, Nat.sub_self, List.replicate_zero,
    List.append_nil]

theorem To4_of_length {ip : Bytes} (four : ip.length = 4) : To4 ip = some ip := by
  rw [To4, if_pos four]

theorem length_of_To4 {ip ip4 : Bytes} (converted : To4 ip = some ip4) : ip4.length = 4 := by
  unfold To4 at converted
  split at converted
  case isTrue four => cases converted; exact four
  case isFalse =>
    split at converted
    case isTrue mapped =>
      cases converted
      rw [List.length_drop, mapped.1]
    case isFalse => cases converted

theorem To4_idem {ip ip4 : Bytes} (converted : To4 ip = some ip4) : To4 ip4 = some ip4 :=
  To4_of_length (length_of_To4 converted)

@[simp] theorem length_magic : magic.length = 4 := by decide

/-- The field of a layout that starts at `start` and is `size` long. -/
theorem take_drop_of_append {first middle rest : Bytes} {start size : Nat}
    (starts : first.length = start) (fits : middle.length = size) :
    ((first ++ middle ++ rest).drop start).take size = middle := by
  rw [List.append_assoc, List.drop_left' starts, List.take_left' fits]

/-- A prefix of a packet cut into six fields at their offsets. -/
theorem take_eq_fields (l : Bytes) (a b c d e f : Nat) :
    l.take (a + b + c + d + e + f) = l.take a ++ (l.drop a).take b ++ (l.drop (a + b)).take c ++
      (l.drop (a + b + c)).take d ++ (l.drop (a + b + c + d)).take e ++
        (l.drop (a + b + c + d + e)).take f := by
  simp only [List.take_add, List.append_assoc]

theorem take_drop_pair {l : Bytes} {n : Nat} {x y : UInt8} (first : l[n]? = some x)
    (second : l[n + 1]? = some y) : (l.drop n).take 2 = [x, y] := by
  apply List.ext_getElem?
  intro i
  match i with
  | 0 => simpa using first
  | 1 => simpa using second
  | i + 2 => simp

/-! ### The checks -/

theorem bytesHasPrefix_magic (b : Bytes) : bytesHasPrefix b magic = true ↔ b.take 4 = magic := by
  rw [bytesHasPrefix, List.isPrefixOf_iff_prefix, List.prefix_iff_eq_take, length_magic, eq_comm]

theorem checkHeader_rejects (size : Nat) (opcode : UInt8) :
    RejectsMalformed (checkHeader · size opcode) size opcode := by
  intro pkt
  refine ⟨fun short => if_pos short, fun long other => ?_, fun long starts version => ?_,
    fun long starts version opcode' => ?_⟩
  all_goals
    dsimp only
    rw [checkHeader, if_neg (Nat.not_lt.mpr long)]
  · have missing : bytesHasPrefix pkt magic = false :=
      Bool.eq_false_iff.mpr fun present => other ((bytesHasPrefix_magic pkt).mp present)
    rw [missing]
    rfl
  · rw [(bytesHasPrefix_magic pkt).mpr starts, if_neg (by decide), if_pos version]
  · rw [(bytesHasPrefix_magic pkt).mpr starts, if_neg (by decide), if_neg (not_not_intro version),
      if_pos opcode']

/-- What a packet that passes the checks starts with. -/
theorem checkHeader_eq_ok {pkt : Bytes} {size : Nat} {opcode : UInt8}
    (passed : checkHeader pkt size opcode = .ok ()) :
    size ≤ pkt.length ∧ pkt.take 4 = magic ∧ pkt[4]? = some ver ∧ pkt[5]? = some opcode := by
  unfold checkHeader at passed
  split_ifs at passed with short magicFirst version opcode'
  exact ⟨Nat.not_lt.mp short, by simpa [bytesHasPrefix_magic] using magicFirst,
    not_not.mp version, not_not.mp opcode'⟩

/-- A packet that starts with the header of its kind and is long enough passes the checks. -/
theorem checkHeader_of_header {size : Nat} {opcode : UInt8} (body : Bytes)
    (long : size ≤ headerSize + body.length) :
    checkHeader (magic ++ [ver, opcode] ++ body) size opcode = .ok () := by
  have header : (magic ++ [ver, opcode]).length = headerSize := by simp [headerSize]
  have starts : bytesHasPrefix (magic ++ [ver, opcode] ++ body) magic = true := by
    rw [bytesHasPrefix, List.isPrefixOf_iff_prefix, List.append_assoc]
    exact List.prefix_append _ _
  have version : (magic ++ [ver, opcode] ++ body)[4]? = some ver := by
    rw [List.getElem?_append_left (by simp), List.getElem?_append_right (by simp)]
    simp
  have opcode' : (magic ++ [ver, opcode] ++ body)[5]? = some opcode := by
    rw [List.getElem?_append_left (by simp), List.getElem?_append_right (by simp)]
    simp
  rw [checkHeader, if_neg (by rw [List.length_append, header]; omega), starts,
    if_neg (by simp), if_neg (not_not_intro version), if_neg (not_not_intro opcode')]

/-- A parser that fails as the checks fail rejects what they reject. -/
theorem RejectsMalformed.of_errors {α β : Type} {check : Bytes → Except CodecError α}
    {parse : Bytes → Except CodecError β} {size : Nat} {opcode : UInt8}
    (rejects : RejectsMalformed check size opcode)
    (errors : ∀ pkt err, check pkt = .error err → parse pkt = .error err) :
    RejectsMalformed parse size opcode := by
  intro pkt
  obtain ⟨short, badMagic, badVersion, badOpcode⟩ := rejects pkt
  exact ⟨fun s => errors _ _ (short s), fun l m => errors _ _ (badMagic l m),
    fun l m v => errors _ _ (badVersion l m v), fun l m v o => errors _ _ (badOpcode l m v o)⟩

/-- `ParseRegister` is the checks, then the fields at their offsets. -/
theorem ParseRegister_eq_map (pkt : Bytes) :
    ParseRegister pkt = (checkHeader pkt registerSize opcodeRegister).map fun _ =>
      { token := (pkt.drop headerSize).take tokenSize
        peerEphPub := (pkt.drop (headerSize + tokenSize)).take x25519KeySize
        ip := (pkt.drop (headerSize + tokenSize + x25519KeySize)).take ipv4Size
        port := ofBigEndian ((pkt.drop (headerSize + tokenSize + x25519KeySize + ipv4Size)).take
          portSize) } := by
  unfold ParseRegister checkHeader
  split_ifs <;> rfl

theorem ParseRegister_errors (pkt : Bytes) (err : CodecError)
    (failed : checkHeader pkt registerSize opcodeRegister = .error err) :
    ParseRegister pkt = .error err := by
  rw [ParseRegister_eq_map, failed]
  rfl

/-- What `ParseRegister` accepted: a packet that passes the checks, read at the offsets. -/
theorem ParseRegister_eq_ok_fields {pkt : Bytes} {reg : RegisterFields}
    (parsed : ParseRegister pkt = .ok reg) :
    checkHeader pkt registerSize opcodeRegister = .ok () ∧
      reg = { token := (pkt.drop headerSize).take tokenSize
              peerEphPub := (pkt.drop (headerSize + tokenSize)).take x25519KeySize
              ip := (pkt.drop (headerSize + tokenSize + x25519KeySize)).take ipv4Size
              port := ofBigEndian ((pkt.drop
                (headerSize + tokenSize + x25519KeySize + ipv4Size)).take portSize) } := by
  rw [ParseRegister_eq_map] at parsed
  cases checked : checkHeader pkt registerSize opcodeRegister with
  | error err =>
    rw [checked] at parsed
    cases parsed
  | ok u =>
    rw [checked] at parsed
    exact ⟨rfl, (Except.ok.inj parsed).symm⟩


/-! ### Round trips -/

/-- What a packet `ParseRegister` accepts carries: the header of a REGISTER, and fields of their
sizes. -/
theorem ParseRegister_eq_ok {pkt : Bytes} {reg : RegisterFields}
    (parsed : ParseRegister pkt = .ok reg) :
    registerSize ≤ pkt.length ∧ pkt.take 4 = magic ∧ pkt[4]? = some ver ∧
      pkt[5]? = some opcodeRegister ∧ reg.token.length = tokenSize ∧
      reg.peerEphPub.length = x25519KeySize ∧ reg.ip.length = ipv4Size := by
  obtain ⟨checked, rfl⟩ := ParseRegister_eq_ok_fields parsed
  obtain ⟨long, magicFirst, version, opcode⟩ := checkHeader_eq_ok checked
  refine ⟨long, magicFirst, version, opcode, ?_, ?_, ?_⟩
  all_goals
    simp only [List.length_take, List.length_drop, headerSize, tokenSize, x25519KeySize,
      ipv4Size, registerSize] at long ⊢
    omega

/-- The four fields of a layout `first ++ a ++ b ++ c ++ d ++ rest`, each at its offset. -/
theorem fields_of_layout (first a b c d rest : Bytes) :
    ((first ++ a ++ b ++ c ++ d ++ rest).drop first.length).take a.length = a ∧
      ((first ++ a ++ b ++ c ++ d ++ rest).drop (first.length + a.length)).take b.length = b ∧
      ((first ++ a ++ b ++ c ++ d ++ rest).drop (first.length + a.length + b.length)).take
        c.length = c ∧
      ((first ++ a ++ b ++ c ++ d ++ rest).drop
        (first.length + a.length + b.length + c.length)).take d.length = d := by
  refine ⟨?_, ?_, ?_, ?_⟩
  · rw [show first ++ a ++ b ++ c ++ d ++ rest = first ++ a ++ (b ++ c ++ d ++ rest) by
      simp only [List.append_assoc]]
    exact take_drop_of_append rfl rfl
  · rw [show first ++ a ++ b ++ c ++ d ++ rest = first ++ a ++ b ++ (c ++ d ++ rest) by
      simp only [List.append_assoc]]
    exact take_drop_of_append (List.length_append ..) rfl
  · rw [show first ++ a ++ b ++ c ++ d ++ rest = first ++ a ++ b ++ c ++ (d ++ rest) by
      simp only [List.append_assoc]]
    exact take_drop_of_append (by simp only [List.length_append]) rfl
  · exact take_drop_of_append (by simp only [List.length_append]) rfl

/-- `ParseRegister` on a packet laid out as the wire format says, trailing bytes included. -/
theorem ParseRegister_layout {tk pk ip4 pb rest : Bytes} (tkSize : tk.length = tokenSize)
    (pkSize : pk.length = x25519KeySize) (ipSize : ip4.length = ipv4Size)
    (pbSize : pb.length = portSize) :
    ParseRegister (magic ++ [ver, opcodeRegister] ++ tk ++ pk ++ ip4 ++ pb ++ rest) =
      .ok ⟨tk, pk, ip4, ofBigEndian pb⟩ := by
  have header : (magic ++ [ver, opcodeRegister]).length = headerSize := by simp [headerSize]
  have checked : checkHeader (magic ++ [ver, opcodeRegister] ++ tk ++ pk ++ ip4 ++ pb ++ rest)
      registerSize opcodeRegister = .ok () := by
    rw [List.append_assoc, List.append_assoc, List.append_assoc, List.append_assoc]
    apply checkHeader_of_header
    simp only [List.length_append, tkSize, pkSize, ipSize, pbSize, headerSize, registerSize,
      tokenSize, x25519KeySize, ipv4Size, portSize]
    omega
  obtain ⟨token, key, address, port⟩ :=
    fields_of_layout (magic ++ [ver, opcodeRegister]) tk pk ip4 pb rest
  simp only [header, tkSize, pkSize, ipSize, pbSize] at token key address port
  rw [ParseRegister_eq_map, checked, token, key, address, port]
  rfl

/-- A REGISTER a client builds parses back to its fields in the form the packet carries them. -/
theorem ParseRegister_BuildRegister (token peerEphPub ip : Bytes) (port : Nat) :
    ParseRegister (BuildRegister token peerEphPub ip port) =
      .ok { token := padOrTruncate token tokenSize
            peerEphPub := padOrTruncate peerEphPub x25519KeySize
            ip := padOrTruncate ((To4 ip).getD (List.replicate ipv4Size 0)) ipv4Size
            port := port % 256 ^ portSize } := by
  rw [← List.append_nil (BuildRegister token peerEphPub ip port), BuildRegister,
    ParseRegister_layout (length_padOrTruncate _ _) (length_padOrTruncate _ _)
      (length_padOrTruncate _ _) (length_bigEndian _ _), ofBigEndian_bigEndian]

/-- A REGISTER built from fields of their sizes, a 16-bit port and an address with an IPv4 form,
reads back as those fields, the address in its IPv4 form. -/
theorem ParseRegister_BuildRegister_of_fields {token peerEphPub ip ip4 : Bytes} {port : Nat}
    (tokenFits : token.length = tokenSize) (keyFits : peerEphPub.length = x25519KeySize)
    (converted : To4 ip = some ip4) (portFits : port < 256 ^ portSize) :
    ParseRegister (BuildRegister token peerEphPub ip port) = .ok ⟨token, peerEphPub, ip4, port⟩ := by
  rw [ParseRegister_BuildRegister, padOrTruncate_of_length tokenFits,
    padOrTruncate_of_length keyFits, converted, Option.getD_some,
    padOrTruncate_of_length (n := ipv4Size) (length_of_To4 converted), Nat.mod_eq_of_lt portFits]

/-- **A REGISTER read back is rebuilt**: `BuildRegister` on what `ParseRegister` accepted gives
the packet's first `registerSize` bytes. -/
theorem BuildRegister_ParseRegister {pkt : Bytes} {reg : RegisterFields}
    (parsed : ParseRegister pkt = .ok reg) :
    BuildRegister reg.token reg.peerEphPub reg.ip reg.port = pkt.take registerSize := by
  obtain ⟨checked, rfl⟩ := ParseRegister_eq_ok_fields parsed
  obtain ⟨long, magicFirst, version, opcode⟩ := checkHeader_eq_ok checked
  set tk := (pkt.drop headerSize).take tokenSize
  set pk := (pkt.drop (headerSize + tokenSize)).take x25519KeySize
  set ip := (pkt.drop (headerSize + tokenSize + x25519KeySize)).take ipv4Size
  set pb := (pkt.drop (headerSize + tokenSize + x25519KeySize + ipv4Size)).take portSize
  simp only [registerSize] at long
  have tkSize : tk.length = tokenSize := by simp [tk, headerSize, tokenSize]; omega
  have pkSize : pk.length = x25519KeySize := by
    simp [pk, headerSize, tokenSize, x25519KeySize]; omega
  have ipSize : ip.length = ipv4Size := by
    simp [ip, headerSize, tokenSize, x25519KeySize, ipv4Size]; omega
  have pbSize : pb.length = portSize := by
    simp [pb, headerSize, tokenSize, x25519KeySize, ipv4Size, portSize]; omega
  have port : bigEndian portSize (ofBigEndian pb) = pb := by
    rw [← pbSize]
    exact bigEndian_ofBigEndian pb
  -- the packet's first bytes, cut at the same offsets: header, then the four fields
  have sizes : registerSize = 4 + 2 + 16 + 32 + 4 + 2 := rfl
  rw [BuildRegister, padOrTruncate_of_length tkSize, padOrTruncate_of_length pkSize,
    To4_of_length ipSize, Option.getD_some, padOrTruncate_of_length ipSize, port, sizes,
    take_eq_fields, magicFirst, take_drop_pair version opcode]
  rfl

/-- `ParseNotifyPayload` on a payload laid out as a PEER_MATCHED, trailing bytes included. -/
theorem ParseNotifyPayload_peerMatched_layout {tk pk ip4 pb : Bytes} (rest : Bytes)
    (tkSize : tk.length = tokenSize) (pkSize : pk.length = x25519KeySize)
    (ipSize : ip4.length = ipv4Size) (pbSize : pb.length = portSize) :
    ParseNotifyPayload ([NotifyType.peerMatched.byte] ++ tk ++ pk ++ ip4 ++ pb ++ rest) =
      .ok (.peerMatched tk pk ip4 (ofBigEndian pb)) := by
  set kind := [NotifyType.peerMatched.byte]
  have kindSize : kind.length = 1 := rfl
  have long : ¬(kind ++ tk ++ pk ++ ip4 ++ pb ++ rest).length < peerMatchedPayloadSize := by
    simp only [List.length_append, kindSize, tkSize, pkSize, ipSize, pbSize,
      peerMatchedPayloadSize]
    omega
  obtain ⟨token, key, address, port⟩ := fields_of_layout kind tk pk ip4 pb rest
  simp only [kindSize, tkSize, pkSize, ipSize, pbSize] at token key address port
  unfold ParseNotifyPayload
  split
  case h_1 empty => simp [kind] at empty
  case h_2 first _ starts =>
    have first_eq : first = NotifyType.peerMatched.byte := (List.cons_eq_cons.mp starts).1.symm
    rw [if_pos first_eq, if_neg long, token, key, address, port]

/-- Each field of a PEER_MATCHED payload, at its offset. -/
theorem ParseNotifyPayload_PeerMatchedPlaintext (token otherPeerEphPub ip : Bytes) (port : Nat) :
    ParseNotifyPayload (PeerMatchedPlaintext token otherPeerEphPub ip port) =
      .ok (.peerMatched (padOrTruncate token tokenSize)
        (padOrTruncate otherPeerEphPub x25519KeySize) (padOrTruncate ((To4 ip).getD []) ipv4Size)
        (port % 256 ^ portSize)) := by
  rw [← List.append_nil (PeerMatchedPlaintext token otherPeerEphPub ip port), PeerMatchedPlaintext,
    ParseNotifyPayload_peerMatched_layout [] (length_padOrTruncate _ _) (length_padOrTruncate _ _)
      (length_padOrTruncate _ _) (length_bigEndian _ _), ofBigEndian_bigEndian]

/-- A TOKEN_ASSIGNED payload reads back as the token and the TTL modulo `2 ^ 32`. -/
theorem ParseNotifyPayload_TokenAssignedPlaintext (token : Bytes) (ttlSeconds : Nat) :
    ParseNotifyPayload (TokenAssignedPlaintext token ttlSeconds) =
      .ok (.tokenAssigned (padOrTruncate token tokenSize) (ttlSeconds % 256 ^ 4)) := by
  set kind := [NotifyType.tokenAssigned.byte]
  have kindSize : kind.length = 1 := rfl
  have long : ¬(TokenAssignedPlaintext token ttlSeconds).length < tokenAssignedPayloadSize := by
    simp [TokenAssignedPlaintext, tokenAssignedPayloadSize]
    omega
  have token' : ((TokenAssignedPlaintext token ttlSeconds).drop 1).take tokenSize =
      padOrTruncate token tokenSize :=
    take_drop_of_append kindSize (length_padOrTruncate _ _)
  have ttl : ((TokenAssignedPlaintext token ttlSeconds).drop (1 + tokenSize)).take 4 =
      bigEndian 4 ttlSeconds := by
    rw [← List.append_nil (TokenAssignedPlaintext token ttlSeconds), TokenAssignedPlaintext]
    exact take_drop_of_append
      (by simp only [List.length_append, List.length_singleton, length_padOrTruncate])
      (length_bigEndian _ _)
  unfold ParseNotifyPayload
  split
  case h_1 empty => simp [TokenAssignedPlaintext] at empty
  case h_2 first _ starts =>
    have first_eq : first = NotifyType.tokenAssigned.byte := (List.cons_eq_cons.mp starts).1.symm
    rw [if_neg (by rw [first_eq]; decide), if_pos first_eq, if_neg long, token', ttl,
      ofBigEndian_bigEndian]

/-- **A NOTIFY reads back**: the broker's key and the nonce at their sizes, and the sealed rest. -/
theorem ParseNotify_buildNotify {brokerEphPub nonce : Bytes}
    (keyFits : brokerEphPub.length = x25519KeySize) (nonceFits : nonce.length = nonceSize)
    (sealed : Bytes) :
    ParseNotify (buildNotify brokerEphPub nonce sealed) = .ok (brokerEphPub, nonce, sealed) := by
  have header : (magic ++ [ver, opcodeNotify]).length = headerSize := by simp [headerSize]
  have checked : checkHeader (buildNotify brokerEphPub nonce sealed)
      (notifyHeaderSize + nonceSize) opcodeNotify = .ok () := by
    rw [buildNotify, List.append_assoc _ brokerEphPub, List.append_assoc _ (brokerEphPub ++ nonce)]
    apply checkHeader_of_header
    simp only [List.length_append, keyFits, nonceFits, notifyHeaderSize, headerSize,
      x25519KeySize]
    omega
  have key : ((buildNotify brokerEphPub nonce sealed).drop headerSize).take
      (notifyHeaderSize - headerSize) = brokerEphPub := by
    rw [buildNotify, List.append_assoc _ nonce]
    exact take_drop_of_append header keyFits
  have nonce' : ((buildNotify brokerEphPub nonce sealed).drop notifyHeaderSize).take nonceSize =
      nonce :=
    take_drop_of_append (by rw [List.length_append, header, keyFits]; rfl) nonceFits
  have rest : (buildNotify brokerEphPub nonce sealed).drop (notifyHeaderSize + nonceSize) =
      sealed :=
    List.drop_left' (by rw [List.length_append, List.length_append, header, keyFits, nonceFits]; rfl)
  rw [ParseNotify, checked, key, nonce', rest]
  rfl

theorem ParseNotify_errors (pkt : Bytes) (err : CodecError)
    (failed : checkHeader pkt (notifyHeaderSize + nonceSize) opcodeNotify = .error err) :
    ParseNotify pkt = .error err := by
  rw [ParseNotify, failed]
  rfl

/-- A PEER_MATCHED payload of fields of their sizes, a 16-bit port and an address with an IPv4
form reads back as those fields, the address in its IPv4 form. -/
theorem ParseNotifyPayload_PeerMatchedPlaintext_of_fields {token otherPeerEphPub ip ip4 : Bytes}
    {port : Nat} (tokenFits : token.length = tokenSize)
    (keyFits : otherPeerEphPub.length = x25519KeySize) (converted : To4 ip = some ip4)
    (portFits : port < 256 ^ portSize) :
    ParseNotifyPayload (PeerMatchedPlaintext token otherPeerEphPub ip port) =
      .ok (.peerMatched token otherPeerEphPub ip4 port) := by
  rw [ParseNotifyPayload_PeerMatchedPlaintext, padOrTruncate_of_length tokenFits,
    padOrTruncate_of_length keyFits, converted, Option.getD_some,
    padOrTruncate_of_length (n := ipv4Size) (length_of_To4 converted), Nat.mod_eq_of_lt portFits]

/-- A TOKEN_ASSIGNED payload of a 16-byte token and a TTL of four bytes reads back as them. -/
theorem ParseNotifyPayload_TokenAssignedPlaintext_of_fields {token : Bytes} {ttlSeconds : Nat}
    (tokenFits : token.length = tokenSize) (ttlFits : ttlSeconds < 256 ^ 4) :
    ParseNotifyPayload (TokenAssignedPlaintext token ttlSeconds) =
      .ok (.tokenAssigned token ttlSeconds) := by
  rw [ParseNotifyPayload_TokenAssignedPlaintext, padOrTruncate_of_length tokenFits,
    Nat.mod_eq_of_lt ttlFits]

/-- A PEER_MATCHED plaintext reads its address through `To4`. -/
theorem PeerMatchedPlaintext_of_To4 {ip ip4 : Bytes} (converted : To4 ip = some ip4)
    (token otherPeerEphPub : Bytes) (port : Nat) :
    PeerMatchedPlaintext token otherPeerEphPub ip4 port =
      PeerMatchedPlaintext token otherPeerEphPub ip port := by
  rw [PeerMatchedPlaintext, PeerMatchedPlaintext, To4_idem converted, converted]

/-- Two PEER_MATCHED plaintexts for one token and key are the same exactly when their addresses
have the same IPv4 form and their ports agree modulo `2 ^ 16`. -/
theorem PeerMatchedPlaintext_eq_iff {token otherPeerEphPub ip ip' ip4 ip4' : Bytes}
    {port port' : Nat} (converted : To4 ip = some ip4) (converted' : To4 ip' = some ip4') :
    PeerMatchedPlaintext token otherPeerEphPub ip port =
        PeerMatchedPlaintext token otherPeerEphPub ip' port' ↔
      ip4 = ip4' ∧ port % 256 ^ portSize = port' % 256 ^ portSize := by
  constructor
  · intro same
    -- both read back through `ParseNotifyPayload`
    have reads := congrArg ParseNotifyPayload same
    rw [ParseNotifyPayload_PeerMatchedPlaintext, ParseNotifyPayload_PeerMatchedPlaintext,
      converted, converted', Option.getD_some, Option.getD_some,
      padOrTruncate_of_length (n := ipv4Size) (length_of_To4 converted),
      padOrTruncate_of_length (n := ipv4Size) (length_of_To4 converted')] at reads
    simp only [Except.ok.injEq, NotifyPayload.peerMatched.injEq, true_and] at reads
    exact reads
  · rintro ⟨rfl, ports⟩
    rw [PeerMatchedPlaintext, PeerMatchedPlaintext, converted, converted', ← bigEndian_mod,
      ports, bigEndian_mod]

/-- `ParseNotifyPayload`'s rejections: an empty payload, a payload shorter than its type's size,
and an unknown type. -/
theorem ParseNotifyPayload_rejects :
    ParseNotifyPayload [] = .error .shortPacket ∧
      (∀ rest : Bytes, (NotifyType.peerMatched.byte :: rest).length < peerMatchedPayloadSize →
        ParseNotifyPayload (NotifyType.peerMatched.byte :: rest) = .error .shortPacket) ∧
      (∀ rest : Bytes, (NotifyType.tokenAssigned.byte :: rest).length < tokenAssignedPayloadSize →
        ParseNotifyPayload (NotifyType.tokenAssigned.byte :: rest) = .error .shortPacket) ∧
      (∀ (kind : UInt8) (rest : Bytes), kind ≠ NotifyType.peerMatched.byte →
        kind ≠ NotifyType.tokenAssigned.byte →
        ParseNotifyPayload (kind :: rest) = .error .badOpcode) := by
  refine ⟨rfl, fun rest short => ?_, fun rest short => ?_, fun kind rest other another => ?_⟩
  · simpa [ParseNotifyPayload] using short
  · simpa [ParseNotifyPayload, NotifyType.byte] using short
  · simp [ParseNotifyPayload, other, another]

/-- **The broker's wire format round-trips and rejects what it must.** -/
theorem broker_codec_round_trips :
    (∀ (token peerEphPub ip ip4 : Bytes) (port : Nat), token.length = tokenSize →
        peerEphPub.length = x25519KeySize → To4 ip = some ip4 → port < 256 ^ portSize →
        ParseRegister (BuildRegister token peerEphPub ip port) =
          .ok ⟨token, peerEphPub, ip4, port⟩) ∧
      (∀ (pkt : Bytes) (reg : RegisterFields), ParseRegister pkt = .ok reg →
        BuildRegister reg.token reg.peerEphPub reg.ip reg.port = pkt.take registerSize) ∧
      (∀ brokerEphPub nonce sealed : Bytes, brokerEphPub.length = x25519KeySize →
        nonce.length = nonceSize →
        ParseNotify (BuildNotifyPeerMatched brokerEphPub nonce sealed) =
            .ok (brokerEphPub, nonce, sealed) ∧
          ParseNotify (BuildNotifyTokenAssigned brokerEphPub nonce sealed) =
            .ok (brokerEphPub, nonce, sealed)) ∧
      (∀ (token otherPeerEphPub ip ip4 : Bytes) (port : Nat), token.length = tokenSize →
        otherPeerEphPub.length = x25519KeySize → To4 ip = some ip4 → port < 256 ^ portSize →
        ParseNotifyPayload (PeerMatchedPlaintext token otherPeerEphPub ip port) =
          .ok (.peerMatched token otherPeerEphPub ip4 port)) ∧
      (∀ (token : Bytes) (ttlSeconds : Nat), token.length = tokenSize → ttlSeconds < 256 ^ 4 →
        ParseNotifyPayload (TokenAssignedPlaintext token ttlSeconds) =
          .ok (.tokenAssigned token ttlSeconds)) ∧
      RejectsMalformed ParseEchoRequest headerSize opcodeEcho ∧
      RejectsMalformed ParseRegister registerSize opcodeRegister ∧
      RejectsMalformed ParseNotify (notifyHeaderSize + nonceSize) opcodeNotify ∧
      (ParseNotifyPayload [] = .error .shortPacket ∧
        (∀ rest : Bytes, (NotifyType.peerMatched.byte :: rest).length < peerMatchedPayloadSize →
          ParseNotifyPayload (NotifyType.peerMatched.byte :: rest) = .error .shortPacket) ∧
        (∀ rest : Bytes, (NotifyType.tokenAssigned.byte :: rest).length <
            tokenAssignedPayloadSize →
          ParseNotifyPayload (NotifyType.tokenAssigned.byte :: rest) = .error .shortPacket) ∧
        (∀ (kind : UInt8) (rest : Bytes), kind ≠ NotifyType.peerMatched.byte →
          kind ≠ NotifyType.tokenAssigned.byte →
          ParseNotifyPayload (kind :: rest) = .error .badOpcode)) := by
  refine ⟨fun _ _ _ _ _ => ParseRegister_BuildRegister_of_fields,
    fun _ _ => BuildRegister_ParseRegister,
    fun _ _ sealed keyFits nonceFits =>
      ⟨ParseNotify_buildNotify keyFits nonceFits sealed,
        ParseNotify_buildNotify keyFits nonceFits sealed⟩,
    fun _ _ _ _ _ => ParseNotifyPayload_PeerMatchedPlaintext_of_fields,
    fun _ _ => ParseNotifyPayload_TokenAssignedPlaintext_of_fields, ?_, ?_, ?_,
    ParseNotifyPayload_rejects⟩
  -- the three parsers reject through the checks of `checkHeader`
  · exact checkHeader_rejects headerSize opcodeEcho
  · exact (checkHeader_rejects registerSize opcodeRegister).of_errors ParseRegister_errors
  · exact (checkHeader_rejects _ opcodeNotify).of_errors ParseNotify_errors

theorem broker_codec_round_trips_register :
    (List.replicate 16 7).length = tokenSize ∧ (List.replicate 32 1).length = x25519KeySize ∧
      To4 [10, 0, 0, 1] = some [10, 0, 0, 1] ∧ 4000 < 256 ^ portSize ∧
      ParseRegister (BuildRegister (List.replicate 16 7) (List.replicate 32 1) [10, 0, 0, 1] 4000) =
        .ok ⟨List.replicate 16 7, List.replicate 32 1, [10, 0, 0, 1], 4000⟩ :=
  ⟨rfl, rfl, rfl, by decide,
    broker_codec_round_trips.1 _ _ _ _ _ rfl rfl rfl (by decide)⟩

end Kamune.RelayBroker
