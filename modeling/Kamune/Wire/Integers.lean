/-
**The integer encodings of the wire: base-128 varints and fixed-width big-endian words.**

Every length, tag and counter the protocol puts on the wire is written in one of two ways:

* `uvarint` — the base-128 varint of `encoding/binary.AppendUvarint` and of protobuf's tags and
  length prefixes: seven bits a byte, least significant group first, the high bit set on every
  byte but the last. `consumeVarint` is protobuf's reader (`protowire.ConsumeVarint`): at most ten
  bytes, of which the tenth may carry bit `63` only.
* `bigEndian` — `binary.BigEndian.PutUint16/32/64`: the value modulo `256 ^ width`, most
  significant byte first; `ofBigEndian` reads it back.

* `consumeVarint_uvarint`: the reader inverts the writer on every 64-bit value, whatever follows.
* `length_uvarint_le_iff`: a value takes at most `k` groups exactly when it is below `2 ^ (7 k)`.
* `ofBigEndian_bigEndian`: the big-endian word reads back as the value modulo `256 ^ width`.
-/

import Mathlib

namespace Kamune.Wire

/-- Byte strings: Go's `[]byte`, and Go's `string`, which is a byte string too. -/
abbrev Bytes := List UInt8

/-! ### Base-128 varints -/

/-- The varint writer with a bound on its number of groups; `uvarint` always gives it enough. -/
def uvarintGroups : Nat → Nat → Bytes
  | 0, value => [UInt8.ofNat value]
  | fuel + 1, value =>
    if value < 128 then [UInt8.ofNat value]
    else UInt8.ofNat (value % 128 + 128) :: uvarintGroups fuel (value / 128)

/-- `binary.AppendUvarint` (and `protowire.AppendVarint`): seven bits a byte, least significant
group first, continuation bit `0x80` on every byte but the last. -/
def uvarint (value : Nat) : Bytes := uvarintGroups value value

/-- Any bound at least the value itself gives the same groups. -/
theorem uvarintGroups_congr : ∀ (fuel other value : Nat), value ≤ fuel → value ≤ other →
    uvarintGroups fuel value = uvarintGroups other value
  | 0, other, value, small, _ => by
    obtain rfl : value = 0 := by omega
    cases other <;> simp [uvarintGroups]
  | fuel + 1, 0, value, _, small => by
    obtain rfl : value = 0 := by omega
    simp [uvarintGroups]
  | fuel + 1, other + 1, value, first, second => by
    simp only [uvarintGroups]
    split
    · rfl
    · rw [uvarintGroups_congr fuel other (value / 128) (by omega) (by omega)]

/-- **One step of the writer.** -/
theorem uvarint_eq (value : Nat) :
    uvarint value = if value < 128 then [UInt8.ofNat value]
      else UInt8.ofNat (value % 128 + 128) :: uvarint (value / 128) := by
  cases value with
  | zero => rfl
  | succ previous =>
    rw [uvarint, uvarintGroups]
    split
    · rfl
    · rw [uvarint, uvarintGroups_congr previous _ _ (by omega) le_rfl]

theorem uvarint_of_lt {value : Nat} (small : value < 128) :
    uvarint value = [UInt8.ofNat value] := by
  rw [uvarint_eq, if_pos small]

theorem uvarint_of_le {value : Nat} (large : 128 ≤ value) :
    uvarint value = UInt8.ofNat (value % 128 + 128) :: uvarint (value / 128) := by
  rw [uvarint_eq, if_neg (by omega)]

theorem uvarint_ne_nil (value : Nat) : uvarint value ≠ [] := by
  rw [uvarint_eq]
  split <;> simp

/-- **The varint is prefix-free**: a varint followed by anything fixes the value and what follows,
for every value. -/
theorem uvarint_append_inj (first : Nat) : ∀ {second : Nat} {firstRest secondRest : Bytes},
    uvarint first ++ firstRest = uvarint second ++ secondRest →
      first = second ∧ firstRest = secondRest := by
  induction first using Nat.strong_induction_on with
  | _ first smaller =>
    intro second firstRest secondRest same
    -- the lead byte says whether a group follows, and carries the low seven bits
    have lead : ∀ {a b : Nat} {x y : Bytes}, UInt8.ofNat a :: x = UInt8.ofNat b :: y →
        a % 256 = b % 256 ∧ x = y := by
      intro a b x y cons
      obtain ⟨byte, rest⟩ := List.cons.inj cons
      have bytes := congrArg UInt8.toNat byte
      rw [UInt8.toNat_ofNat', UInt8.toNat_ofNat'] at bytes
      exact ⟨bytes, rest⟩
    by_cases firstLow : first < 128 <;> by_cases secondLow : second < 128
    · rw [uvarint_of_lt firstLow, uvarint_of_lt secondLow] at same
      obtain ⟨low, rest⟩ := lead same
      exact ⟨by omega, rest⟩
    · rw [uvarint_of_lt firstLow, uvarint_of_le (show 128 ≤ second by omega)] at same
      obtain ⟨low, -⟩ := lead same
      omega
    · rw [uvarint_of_le (show 128 ≤ first by omega), uvarint_of_lt secondLow] at same
      obtain ⟨low, -⟩ := lead same
      omega
    · rw [uvarint_of_le (show 128 ≤ first by omega),
        uvarint_of_le (show 128 ≤ second by omega)] at same
      obtain ⟨low, rest⟩ := lead same
      obtain ⟨high, tails⟩ := smaller (first / 128) (by omega) rest
      exact ⟨by omega, tails⟩

/-- `protowire.ConsumeVarint` from some byte on: `remaining` more continuation bytes may follow,
and the last byte a ten-byte varint may have carries bit `63` only. -/
def consumeVarintFrom : Nat → Bytes → Option (Nat × Bytes)
  | _, [] => none
  | 0, byte :: rest => if byte.toNat < 2 then some (byte.toNat, rest) else none
  | remaining + 1, byte :: rest =>
    if byte.toNat < 128 then some (byte.toNat, rest)
    else (consumeVarintFrom remaining rest).map
      fun decoded => (byte.toNat - 128 + 128 * decoded.1, decoded.2)

/-- `protowire.ConsumeVarint`: a varint of at most ten bytes, and the bytes after it. -/
def consumeVarint (bytes : Bytes) : Option (Nat × Bytes) := consumeVarintFrom 9 bytes

theorem consumeVarintFrom_uvarint : ∀ (remaining value : Nat) (rest : Bytes),
    value < 2 ^ (7 * remaining + 1) →
      consumeVarintFrom remaining (uvarint value ++ rest) = some (value, rest)
  | 0, value, rest, small => by
    rw [uvarint_of_lt (by omega)]
    have byte : (UInt8.ofNat value).toNat = value := by
      rw [UInt8.toNat_ofNat']
      omega
    simp only [List.cons_append, List.nil_append, consumeVarintFrom, byte,
      if_pos (by omega : value < 2)]
  | remaining + 1, value, rest, small => by
    by_cases low : value < 128
    · have byte : (UInt8.ofNat value).toNat = value := by
        rw [UInt8.toNat_ofNat']
        omega
      rw [uvarint_of_lt low]
      simp only [List.cons_append, List.nil_append, consumeVarintFrom, byte, if_pos low]
    · have byte : (UInt8.ofNat (value % 128 + 128)).toNat = value % 128 + 128 := by
        rw [UInt8.toNat_ofNat']
        omega
      have bound : value / 128 < 2 ^ (7 * remaining + 1) := by
        rw [Nat.div_lt_iff_lt_mul (by norm_num)]
        calc value < 2 ^ (7 * (remaining + 1) + 1) := small
          _ = 2 ^ (7 * remaining + 1) * 128 := by rw [show 7 * (remaining + 1) + 1 =
                (7 * remaining + 1) + 7 by ring, pow_add]; norm_num
      rw [uvarint_of_le (by omega)]
      simp only [List.cons_append, consumeVarintFrom, byte,
        if_neg (by omega : ¬ value % 128 + 128 < 128),
        consumeVarintFrom_uvarint remaining (value / 128) rest bound, Option.map_some]
      congr 2
      omega

/-- **The reader inverts the writer** on every 64-bit value, whatever bytes follow. -/
theorem consumeVarint_uvarint {value : Nat} (small : value < 2 ^ 64) (rest : Bytes) :
    consumeVarint (uvarint value ++ rest) = some (value, rest) :=
  consumeVarintFrom_uvarint 9 value rest small

/-- What the reader returns is below `2 ^ (7 · remaining + 1)`, and it consumed at least a byte. -/
theorem consumeVarintFrom_spec : ∀ (remaining : Nat) (bytes : Bytes) (value : Nat) (rest : Bytes),
    consumeVarintFrom remaining bytes = some (value, rest) →
      value < 2 ^ (7 * remaining + 1) ∧ rest.length < bytes.length
  | _, [], _, _, read => by simp [consumeVarintFrom] at read
  | 0, byte :: tail, value, rest, read => by
    simp only [consumeVarintFrom] at read
    split at read
    · simp only [Option.some.injEq, Prod.mk.injEq] at read
      obtain ⟨rfl, rfl⟩ := read
      constructor
      · simpa using ‹byte.toNat < 2›
      · simp
    · cases read
  | remaining + 1, byte :: tail, value, rest, read => by
    simp only [consumeVarintFrom] at read
    split at read
    · simp only [Option.some.injEq, Prod.mk.injEq] at read
      obtain ⟨rfl, rfl⟩ := read
      refine ⟨lt_of_lt_of_le ‹byte.toNat < 128› ?_, by simp⟩
      calc (128 : Nat) = 2 ^ 7 := by norm_num
        _ ≤ 2 ^ (7 * (remaining + 1) + 1) := Nat.pow_le_pow_right (by norm_num) (by omega)
    · obtain ⟨⟨high, tail'⟩, inner, equal⟩ := Option.map_eq_some_iff.mp read
      simp only [Prod.mk.injEq] at equal
      obtain ⟨rfl, rfl⟩ := equal
      obtain ⟨bound, shorter⟩ := consumeVarintFrom_spec remaining tail high tail' inner
      have byteBound := byte.toNat_lt
      have power : 2 ^ (7 * (remaining + 1) + 1) = 2 ^ (7 * remaining + 1) * 128 := by
        rw [show 7 * (remaining + 1) + 1 = (7 * remaining + 1) + 7 by ring, pow_add]
        norm_num
      refine ⟨?_, by simp only [List.length_cons]; omega⟩
      rw [power]
      norm_num at byteBound
      generalize 2 ^ (7 * remaining + 1) = limit at bound ⊢
      omega

/-- A varint read by `consumeVarint` is a 64-bit value and takes at least one byte. -/
theorem consumeVarint_spec {bytes : Bytes} {value : Nat} {rest : Bytes}
    (read : consumeVarint bytes = some (value, rest)) :
    value < 2 ^ 64 ∧ rest.length < bytes.length :=
  consumeVarintFrom_spec 9 bytes value rest read

/-! ### The length of a varint -/

@[simp] theorem length_uvarint_pos (value : Nat) : 0 < (uvarint value).length :=
  List.length_pos_of_ne_nil (uvarint_ne_nil value)

theorem length_uvarint_of_lt {value : Nat} (small : value < 128) : (uvarint value).length = 1 := by
  rw [uvarint_of_lt small, List.length_singleton]

theorem length_uvarint_of_le {value : Nat} (large : 128 ≤ value) :
    (uvarint value).length = (uvarint (value / 128)).length + 1 := by
  rw [uvarint_of_le large, List.length_cons]

/-- **A value takes at most `k` groups exactly when it is below `2 ^ (7 k)`.** -/
theorem length_uvarint_le_iff : ∀ (groups value : Nat), 0 < groups →
    ((uvarint value).length ≤ groups ↔ value < 2 ^ (7 * groups))
  | 0, _, positive => absurd positive (lt_irrefl 0)
  | groups + 1, value, _ => by
    by_cases small : value < 128
    · rw [length_uvarint_of_lt small]
      have : (128 : Nat) ≤ 2 ^ (7 * (groups + 1)) := by
        calc (128 : Nat) = 2 ^ 7 := by norm_num
          _ ≤ 2 ^ (7 * (groups + 1)) := Nat.pow_le_pow_right (by norm_num) (by omega)
      constructor
      · intro _
        omega
      · intro _
        omega
    · rw [length_uvarint_of_le (by omega)]
      have power : 2 ^ (7 * (groups + 1)) = 2 ^ (7 * groups) * 128 := by
        rw [show 7 * (groups + 1) = 7 * groups + 7 by ring, pow_add]
        norm_num
      rcases Nat.eq_zero_or_pos groups with rfl | positive
      · have nonempty := length_uvarint_pos (value / 128)
        constructor
        · intro bound
          omega
        · intro bound
          norm_num at bound
          omega
      · rw [Nat.add_le_add_iff_right, length_uvarint_le_iff groups (value / 128) positive, power,
          Nat.div_lt_iff_lt_mul (by norm_num)]

theorem length_uvarint_le {value groups : Nat} (positive : 0 < groups)
    (small : value < 2 ^ (7 * groups)) : (uvarint value).length ≤ groups :=
  (length_uvarint_le_iff groups value positive).mpr small

theorem lt_length_uvarint {value groups : Nat} (positive : 0 < groups)
    (large : 2 ^ (7 * groups) ≤ value) : groups < (uvarint value).length := by
  by_contra within
  exact absurd ((length_uvarint_le_iff groups value positive).mp (by omega)) (by omega)

/-- A larger value never takes fewer groups. -/
theorem length_uvarint_mono {value other : Nat} (le : value ≤ other) :
    (uvarint value).length ≤ (uvarint other).length :=
  length_uvarint_le (length_uvarint_pos other)
    (lt_of_le_of_lt le ((length_uvarint_le_iff _ other (length_uvarint_pos other)).mp le_rfl))

theorem length_uvarint_eq_three {value : Nat} (low : 2 ^ 14 ≤ value) (high : value < 2 ^ 21) :
    (uvarint value).length = 3 :=
  le_antisymm (length_uvarint_le (by norm_num) high) (lt_length_uvarint (by norm_num) low)

/-- Every 64-bit value takes at most ten bytes. -/
theorem length_uvarint_le_ten {value : Nat} (small : value < 2 ^ 64) :
    (uvarint value).length ≤ 10 :=
  length_uvarint_le (by norm_num) (lt_trans small (by norm_num))

/-! ### Big-endian words -/

/-- `binary.BigEndian.PutUintN` for `N = 8 · width`: the value modulo `256 ^ width`, most
significant byte first. -/
def bigEndian : Nat → Nat → Bytes
  | 0, _ => []
  | width + 1, value => UInt8.ofNat (value / 256 ^ width) :: bigEndian width value

/-- `binary.BigEndian.UintN`: the bytes read as a big-endian number. -/
def ofBigEndian (bytes : Bytes) : Nat := bytes.foldl (fun high byte => high * 256 + byte.toNat) 0

@[simp] theorem length_bigEndian (width value : Nat) : (bigEndian width value).length = width := by
  induction width with
  | zero => rfl
  | succ width ih => simp [bigEndian, ih]

theorem foldl_bigEndian (width value high : Nat) :
    (bigEndian width value).foldl (fun high byte => high * 256 + byte.toNat) high =
      high * 256 ^ width + value % 256 ^ width := by
  induction width generalizing high with
  | zero => simp [bigEndian, Nat.mod_one]
  | succ width ih =>
    simp only [bigEndian, List.foldl_cons, UInt8.toNat_ofNat', ih]
    rw [Nat.mod_pow_succ (b := 256)]
    have : (2 : Nat) ^ 8 = 256 := by norm_num
    rw [this, pow_succ]
    ring

/-- **The big-endian word reads back** as the value modulo `256 ^ width`. -/
theorem ofBigEndian_bigEndian (width value : Nat) :
    ofBigEndian (bigEndian width value) = value % 256 ^ width := by
  rw [ofBigEndian, foldl_bigEndian, zero_mul, zero_add]

theorem ofBigEndian_append (front back : Bytes) :
    ofBigEndian (front ++ back) = ofBigEndian front * 256 ^ back.length + ofBigEndian back := by
  have general : ∀ (back : Bytes) (high : Nat),
      back.foldl (fun high byte => high * 256 + byte.toNat) high =
        high * 256 ^ back.length + back.foldl (fun high byte => high * 256 + byte.toNat) 0 := by
    intro back
    induction back with
    | nil => simp
    | cons byte back ih =>
      intro high
      simp only [List.foldl_cons, List.length_cons, zero_mul, zero_add]
      rw [ih (high * 256 + byte.toNat), ih byte.toNat, pow_succ]
      ring
  rw [ofBigEndian, List.foldl_append, general, ofBigEndian, ofBigEndian]

/-- A word of `n` bytes reads as a number below `256 ^ n`. -/
theorem ofBigEndian_lt : ∀ bytes : Bytes, ofBigEndian bytes < 256 ^ bytes.length
  | [] => by simp [ofBigEndian]
  | byte :: rest => by
    have head : ofBigEndian [byte] = byte.toNat := by simp [ofBigEndian]
    have byteSmall : byte.toNat < 256 := byte.toNat_lt
    have restSmall := ofBigEndian_lt rest
    rw [← List.singleton_append, ofBigEndian_append, head, List.length_append,
      List.length_singleton, pow_add, pow_one]
    calc byte.toNat * 256 ^ rest.length + ofBigEndian rest
        < byte.toNat * 256 ^ rest.length + 256 ^ rest.length := by omega
      _ = (byte.toNat + 1) * 256 ^ rest.length := by ring
      _ ≤ 256 * 256 ^ rest.length := Nat.mul_le_mul_right _ byteSmall

/-- Distinct values below `256 ^ width` have distinct words. -/
theorem ofBigEndian_cons (byte : UInt8) (rest : Bytes) :
    ofBigEndian (byte :: rest) = byte.toNat * 256 ^ rest.length + ofBigEndian rest := by
  rw [← List.singleton_append, ofBigEndian_append]
  simp [ofBigEndian]

/-- **Two words of one width with the same value are the same bytes**: the leading byte is the
value's quotient by the weight of the rest. -/
theorem ofBigEndian_injective : ∀ {bytes other : Bytes}, bytes.length = other.length →
    ofBigEndian bytes = ofBigEndian other → bytes = other
  | [], [], _, _ => rfl
  | byte :: rest, otherByte :: otherRest, sameLength, same => by
    have restLength : rest.length = otherRest.length := by simpa using sameLength
    have leading : ∀ (high : UInt8) (low : Bytes), low.length = otherRest.length →
        (high.toNat * 256 ^ otherRest.length + ofBigEndian low) / 256 ^ otherRest.length =
          high.toNat := by
      intro high low lowLength
      have lowSmall := ofBigEndian_lt low
      rw [lowLength] at lowSmall
      rw [Nat.add_comm, Nat.add_mul_div_right _ _ (by positivity), Nat.div_eq_of_lt lowSmall,
        zero_add]
    rw [ofBigEndian_cons, ofBigEndian_cons, restLength] at same
    have heads : byte.toNat = otherByte.toNat := by
      rw [← leading byte rest restLength, same, leading otherByte otherRest rfl]
    rw [heads] at same
    rw [UInt8.toNat_inj.mp heads, ofBigEndian_injective restLength (Nat.add_left_cancel same)]

/-- **A word reads back into its own bytes.** -/
theorem bigEndian_ofBigEndian (bytes : Bytes) : bigEndian bytes.length (ofBigEndian bytes) = bytes :=
  ofBigEndian_injective (length_bigEndian _ _)
    (by rw [ofBigEndian_bigEndian, Nat.mod_eq_of_lt (ofBigEndian_lt bytes)])

theorem bigEndian_injective {width first second : Nat} (firstSmall : first < 256 ^ width)
    (secondSmall : second < 256 ^ width) (same : bigEndian width first = bigEndian width second) :
    first = second := by
  have reads := congrArg ofBigEndian same
  rwa [ofBigEndian_bigEndian, ofBigEndian_bigEndian, Nat.mod_eq_of_lt firstSmall,
    Nat.mod_eq_of_lt secondSmall] at reads

/-- A word is written modulo `256 ^ width`. -/
theorem bigEndian_mod (width value : Nat) :
    bigEndian width (value % 256 ^ width) = bigEndian width value :=
  ofBigEndian_injective (by rw [length_bigEndian, length_bigEndian])
    (by rw [ofBigEndian_bigEndian, ofBigEndian_bigEndian, Nat.mod_mod])

/-- **A byte string behind its `uint32` big-endian length is self-delimiting**: below `2 ^ 32`
bytes, the length fixes where the string ends. -/
theorem bigEndian_length_append_inj {first second firstRest secondRest : Bytes}
    (firstShort : first.length < 2 ^ 32) (secondShort : second.length < 2 ^ 32)
    (same : bigEndian 4 first.length ++ (first ++ firstRest) =
      bigEndian 4 second.length ++ (second ++ secondRest)) :
    first = second ∧ firstRest = secondRest := by
  obtain ⟨lengths, rest⟩ := List.append_inj same (by simp)
  have sameLength : first.length = second.length :=
    bigEndian_injective (by norm_num; omega) (by norm_num; omega) lengths
  exact List.append_inj rest sameLength

end Kamune.Wire
