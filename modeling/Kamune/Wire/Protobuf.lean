/-
**The protobuf wire format: fields, their encoding, and the parser of `proto.Unmarshal`.**

A message on the wire is a sequence of fields, each a tag (`number · 8 + wire type`, a varint)
and a value: a varint (type `0`), eight raw bytes (`1`), a length-delimited payload (`2`), four
raw bytes (`5`), or a group (`3`, closed by an end tag of type `4`). `Field.encode` writes one
field; `parseFields` is the loop of `proto.Unmarshal` that cuts a byte string into fields:

* a tag whose field number is outside `[1, 2 ^ 29)` is malformed, and so is a stray end-group tag;
* a group is an unknown field for every message decoded here and is skipped
  (`protowire.ConsumeFieldValue`, with its nesting limit);
* a truncated varint, fixed-width value or payload is malformed.

The generated decoders then read the fields they know: the last occurrence of a scalar field wins
(`lastBytes`, `lastVarint`), an embedded message merges all its occurrences (`nestedFields`), and a
field of a known number but the wrong wire type is an unknown field.

* `parseFields_encodeFields`: the parser inverts the encoder on every list of well-formed fields.
* `utf8Valid` is `utf8.Valid`, the check proto3 `string` fields get on both marshal and unmarshal;
  `utf8Valid_of_ascii`: ASCII text passes it.
-/

import Kamune.Wire.Integers

namespace Kamune.Wire

/-! ### Fields and their encoding -/

/-- A field value as it stands on the wire. Groups never reach this type: the parser skips them. -/
inductive WireValue where
  /-- Wire type `0`. -/
  | varint (value : Nat)
  /-- Wire type `1`: eight raw bytes. -/
  | fixed64 (raw : Bytes)
  /-- Wire type `2`: a length-delimited payload. -/
  | bytes (payload : Bytes)
  /-- Wire type `5`: four raw bytes. -/
  | fixed32 (raw : Bytes)
  deriving DecidableEq, Repr

/-- The wire type a value is written with. -/
def WireValue.wireType : WireValue → Nat
  | varint _ => 0
  | fixed64 _ => 1
  | bytes _ => 2
  | fixed32 _ => 5

/-- One field of a message. -/
structure Field where
  number : Nat
  value : WireValue
  deriving DecidableEq, Repr

/-- `protowire.AppendTag`. -/
def tag (number wireType : Nat) : Bytes := uvarint (number * 8 + wireType)

/-- The bytes a value is written as, after its tag. -/
def WireValue.encode : WireValue → Bytes
  | varint value => uvarint value
  | fixed64 raw => raw
  | bytes payload => uvarint payload.length ++ payload
  | fixed32 raw => raw

/-- A field: its tag, then its value. -/
def Field.encode (field : Field) : Bytes :=
  tag field.number field.value.wireType ++ field.value.encode

/-- A message: its fields, one after another. -/
def encodeFields (fields : List Field) : Bytes := fields.flatMap Field.encode

@[simp] theorem encodeFields_nil : encodeFields [] = [] := rfl

@[simp] theorem encodeFields_cons (field : Field) (fields : List Field) :
    encodeFields (field :: fields) = field.encode ++ encodeFields fields := rfl

theorem encodeFields_append (front back : List Field) :
    encodeFields (front ++ back) = encodeFields front ++ encodeFields back := by
  simp [encodeFields, List.flatMap_append]

/-- A value the parser reads back: a 64-bit varint, fixed-width raw bytes of their width, a
payload whose length is a 64-bit number. -/
def WireValue.WellFormed : WireValue → Prop
  | varint value => value < 2 ^ 64
  | fixed64 raw => raw.length = 8
  | bytes payload => payload.length < 2 ^ 64
  | fixed32 raw => raw.length = 4

/-- A field the parser reads back: a valid field number and a well-formed value. -/
def Field.WellFormed (field : Field) : Prop :=
  1 ≤ field.number ∧ field.number < 2 ^ 29 ∧ field.value.WellFormed

/-! ### The parser -/

/-- `protowire.ConsumeBytes`: a varint length, then that many bytes. -/
def consumeBytes (bytes : Bytes) : Option (Bytes × Bytes) :=
  (consumeVarint bytes).bind fun (length, rest) =>
    if length ≤ rest.length then some (rest.take length, rest.drop length) else none

/-- `protowire.ConsumeFixed64/32`: `width` raw bytes. -/
def consumeFixed (width : Nat) (bytes : Bytes) : Option (Bytes × Bytes) :=
  if width ≤ bytes.length then some (bytes.take width, bytes.drop width) else none

/-- The value of a known wire type, after its tag. -/
def consumeValue (wireType : Nat) (bytes : Bytes) : Option (WireValue × Bytes) :=
  match wireType with
  | 0 => (consumeVarint bytes).map fun (value, rest) => (.varint value, rest)
  | 1 => (consumeFixed 8 bytes).map fun (raw, rest) => (.fixed64 raw, rest)
  | 2 => (consumeBytes bytes).map fun (payload, rest) => (.bytes payload, rest)
  | 5 => (consumeFixed 4 bytes).map fun (raw, rest) => (.fixed32 raw, rest)
  | _ => none

/-- `protowire.ConsumeFieldValue` on the body of group `number`: the fields up to its end tag,
returning what follows the end tag. `fuel` bounds the number of fields read, `depth` the nesting
(`consumeFieldValueD`'s recursion limit). Field numbers inside a group are checked by
`protowire.ConsumeTag`: at least `1`, at most `2 ^ 31 - 1`. -/
def skipGroup : Nat → Nat → Nat → Bytes → Option Bytes
  | 0, _, _, _ => none
  | fuel + 1, depth, number, bytes =>
    (consumeVarint bytes).bind fun (key, rest) =>
      if key / 8 < 1 ∨ 2 ^ 31 ≤ key / 8 then none
      else if key % 8 = 4 then (if key / 8 = number then some rest else none)
      else if key % 8 = 3 then
        if depth = 0 then none
        else (skipGroup fuel (depth - 1) (key / 8) rest).bind (skipGroup fuel depth number)
      else (consumeValue (key % 8) rest).bind fun (_, after) => skipGroup fuel depth number after

/-- `protobuf`'s default recursion limit. -/
def recursionLimit : Nat := 10000

/-- One step of `proto.Unmarshal`'s loop: the next field, `none` for a skipped group, or failure
on malformed input. -/
def consumeField (bytes : Bytes) : Option (Option Field × Bytes) :=
  (consumeVarint bytes).bind fun (key, rest) =>
    if key / 8 < 1 ∨ 2 ^ 29 ≤ key / 8 then none
    else if key % 8 = 3 then
      (skipGroup rest.length recursionLimit (key / 8) rest).map fun after => (none, after)
    else (consumeValue (key % 8) rest).map fun (value, after) => (some ⟨key / 8, value⟩, after)

/-- The loop of `proto.Unmarshal`, for at most `fuel` fields. -/
def parseFieldsFrom : Nat → Bytes → Option (List Field)
  | _, [] => some []
  | 0, _ :: _ => none
  | fuel + 1, byte :: bytes =>
    (consumeField (byte :: bytes)).bind fun (field, rest) =>
      (parseFieldsFrom fuel rest).map fun fields => field.toList ++ fields

/-- **`proto.Unmarshal`'s view of a byte string**: its fields, or `none` when it is malformed.
Every field takes at least one byte, so the length of the input is fuel enough. -/
def parseFields (bytes : Bytes) : Option (List Field) := parseFieldsFrom bytes.length bytes

/-! ### The parser inverts the encoder -/

theorem consumeBytes_encode {payload : Bytes} (small : payload.length < 2 ^ 64) (rest : Bytes) :
    consumeBytes (uvarint payload.length ++ (payload ++ rest)) = some (payload, rest) := by
  rw [consumeBytes, consumeVarint_uvarint small]
  simp

theorem consumeValue_encode {value : WireValue} (well : value.WellFormed) (rest : Bytes) :
    consumeValue value.wireType (value.encode ++ rest) = some (value, rest) := by
  cases value with
  | varint value =>
    simp [consumeValue, WireValue.wireType, WireValue.encode, consumeVarint_uvarint well]
  | fixed64 raw =>
    simp only [WireValue.WellFormed] at well
    simp [consumeValue, WireValue.wireType, WireValue.encode, consumeFixed, well]
  | bytes payload =>
    simp only [WireValue.WellFormed] at well
    simp [consumeValue, WireValue.wireType, WireValue.encode, consumeBytes_encode well]
  | fixed32 raw =>
    simp only [WireValue.WellFormed] at well
    simp [consumeValue, WireValue.wireType, WireValue.encode, consumeFixed, well]

theorem wireType_lt (value : WireValue) : value.wireType < 8 := by
  cases value <;> simp [WireValue.wireType]

/-- **One field reads back.** -/
theorem consumeField_encode {field : Field} (well : field.WellFormed) (rest : Bytes) :
    consumeField (field.encode ++ rest) = some (some field, rest) := by
  obtain ⟨low, high, wellValue⟩ := well
  have typeBound := wireType_lt field.value
  have key : field.number * 8 + field.value.wireType < 2 ^ 64 := by
    have : field.number * 8 < 2 ^ 32 := by
      calc field.number * 8 < 2 ^ 29 * 8 := by omega
        _ = 2 ^ 32 := by norm_num
    calc field.number * 8 + field.value.wireType < 2 ^ 32 + 8 := by omega
      _ ≤ 2 ^ 64 := by norm_num
  have number : (field.number * 8 + field.value.wireType) / 8 = field.number := by omega
  have wireType : (field.number * 8 + field.value.wireType) % 8 = field.value.wireType := by omega
  have notGroup : field.value.wireType ≠ 3 := by cases field.value <;> simp [WireValue.wireType]
  rw [consumeField, Field.encode, tag, List.append_assoc, consumeVarint_uvarint key]
  simp only [Option.bind_some, number, wireType, if_neg (by omega : ¬ (field.number < 1 ∨
    2 ^ 29 ≤ field.number)), if_neg notGroup, consumeValue_encode wellValue, Option.map_some]

theorem length_encode_pos (field : Field) : 0 < field.encode.length := by
  simp [Field.encode, tag]

theorem parseFieldsFrom_encodeFields : ∀ (fields : List Field) (fuel : Nat),
    (∀ field ∈ fields, field.WellFormed) → fields.length ≤ fuel →
      parseFieldsFrom fuel (encodeFields fields) = some fields
  | [], fuel, _, _ => by cases fuel <;> rfl
  | field :: fields, fuel + 1, well, enough => by
    have nonempty : field.encode ++ encodeFields fields ≠ [] :=
      List.ne_nil_of_length_pos (by rw [List.length_append]; have := length_encode_pos field; omega)
    obtain ⟨byte, tail, split⟩ := List.exists_cons_of_ne_nil nonempty
    rw [encodeFields_cons, split, parseFieldsFrom, ← split,
      consumeField_encode (well field List.mem_cons_self)]
    simp only [Option.bind_some, parseFieldsFrom_encodeFields fields fuel
      (fun other member => well other (List.mem_cons_of_mem _ member))
      (by simp only [List.length_cons] at enough; omega), Option.map_some, Option.toList_some,
      List.singleton_append]

/-- **The parser inverts the encoder** on every list of well-formed fields. -/
theorem parseFields_encodeFields {fields : List Field}
    (well : ∀ field ∈ fields, field.WellFormed) :
    parseFields (encodeFields fields) = some fields := by
  apply parseFieldsFrom_encodeFields fields _ well
  have each : ∀ fields : List Field, fields.length ≤ (encodeFields fields).length := by
    intro fields
    induction fields with
    | nil => simp
    | cons field fields ih =>
      have := length_encode_pos field
      simp only [encodeFields_cons, List.length_append, List.length_cons]
      omega
  exact each fields

/-! ### What the generated decoders read -/

/-- A proto3 `bytes` or `string` field: the payload of its last occurrence with wire type `2`,
empty when there is none. -/
def lastBytes (number : Nat) (fields : List Field) : Bytes :=
  fields.foldl (fun current field =>
    match field.value with
    | .bytes payload => if field.number = number then payload else current
    | _ => current) []

/-- A proto3 varint field (`uint64`, `int64`, `int32`, enums): the value of its last occurrence
with wire type `0`, zero when there is none. -/
def lastVarint (number : Nat) (fields : List Field) : Nat :=
  fields.foldl (fun current field =>
    match field.value with
    | .varint value => if field.number = number then value else current
    | _ => current) 0

/-- The payloads of every occurrence of field `number` with wire type `2`, in order. -/
def payloads (number : Nat) (fields : List Field) : List Bytes :=
  fields.filterMap fun field =>
    match field.value with
    | .bytes payload => if field.number = number then some payload else none
    | _ => none

/-- A singular embedded message: absent when the field never occurs; otherwise each occurrence
is parsed and merged into the one before, which concatenates their fields. -/
def nestedFields (number : Nat) (fields : List Field) : Option (Option (List Field)) :=
  match payloads number fields with
  | [] => some none
  | occurrences => (occurrences.mapM parseFields).map fun parsed => some parsed.flatten

/-! ### Canonical field lists -/

/-- A `bytes` field as the encoder writes it: absent when empty. -/
def bytesField (number : Nat) (payload : Bytes) : List Field :=
  if payload = [] then [] else [⟨number, .bytes payload⟩]

/-- A varint field as the encoder writes it: absent when zero. -/
def varintField (number value : Nat) : List Field :=
  if value = 0 then [] else [⟨number, .varint value⟩]

/-- The varint values of every occurrence of field `number` with wire type `0`, in order. -/
def varints (number : Nat) (fields : List Field) : List Nat :=
  fields.filterMap fun field =>
    match field.value with
    | .varint value => if field.number = number then some value else none
    | _ => none

/-- A fold that keeps the last value `select` picks ends on the last of the picks. -/
theorem foldl_getD_eq_getLast_filterMap {α β : Type} (select : α → Option β) :
    ∀ (start : β) (xs : List α),
      xs.foldl (fun current x => (select x).getD current) start =
        ((xs.filterMap select).getLast?).getD start
  | _, [] => rfl
  | start, x :: xs => by
    rw [List.foldl_cons, foldl_getD_eq_getLast_filterMap select _ xs]
    cases picked : select x with
    | none => rw [List.filterMap_cons_none picked, Option.getD_none]
    | some value =>
      rw [List.filterMap_cons_some picked, List.getLast?_cons, Option.getD_some, Option.getD_some]

theorem lastBytes_eq (number : Nat) (fields : List Field) :
    lastBytes number fields = ((payloads number fields).getLast?).getD [] := by
  rw [lastBytes, payloads, ← foldl_getD_eq_getLast_filterMap]
  -- each step of the fold keeps what `payloads` picks
  congr 1
  funext current field
  rcases field with ⟨fieldNumber, value⟩
  cases value
  case bytes payload =>
    by_cases same : fieldNumber = number
    · simp only [same, if_true, Option.getD_some]
    · simp only [same, if_false, Option.getD_none]
  all_goals rfl

theorem lastVarint_eq (number : Nat) (fields : List Field) :
    lastVarint number fields = ((varints number fields).getLast?).getD 0 := by
  rw [lastVarint, varints, ← foldl_getD_eq_getLast_filterMap]
  congr 1
  funext current field
  rcases field with ⟨fieldNumber, value⟩
  cases value
  case varint value =>
    by_cases same : fieldNumber = number
    · simp only [same, if_true, Option.getD_some]
    · simp only [same, if_false, Option.getD_none]
  all_goals rfl

@[simp] theorem payloads_append (number : Nat) (front back : List Field) :
    payloads number (front ++ back) = payloads number front ++ payloads number back := by
  simp [payloads, List.filterMap_append]

@[simp] theorem varints_append (number : Nat) (front back : List Field) :
    varints number (front ++ back) = varints number front ++ varints number back := by
  simp [varints, List.filterMap_append]

@[simp] theorem payloads_bytesField_self (number : Nat) (payload : Bytes) :
    payloads number (bytesField number payload) = if payload = [] then [] else [payload] := by
  by_cases empty : payload = [] <;> simp [bytesField, payloads, empty]

@[simp] theorem payloads_bytesField_of_ne {number other : Nat} (different : other ≠ number)
    (payload : Bytes) : payloads number (bytesField other payload) = [] := by
  by_cases empty : payload = [] <;> simp [bytesField, payloads, empty, different]

@[simp] theorem payloads_varintField (number other value : Nat) :
    payloads number (varintField other value) = [] := by
  by_cases zero : value = 0 <;> simp [varintField, payloads, zero]

@[simp] theorem varints_varintField_self (number value : Nat) :
    varints number (varintField number value) = if value = 0 then [] else [value] := by
  by_cases zero : value = 0 <;> simp [varintField, varints, zero]

@[simp] theorem varints_varintField_of_ne {number other : Nat} (different : other ≠ number)
    (value : Nat) : varints number (varintField other value) = [] := by
  by_cases zero : value = 0 <;> simp [varintField, varints, zero, different]

@[simp] theorem varints_bytesField (number other : Nat) (payload : Bytes) :
    varints number (bytesField other payload) = [] := by
  by_cases empty : payload = [] <;> simp [bytesField, varints, empty]

/-- The last payload of a field written at most once is its value. -/
@[simp] theorem getLast_payload (payload : Bytes) :
    ((if payload = [] then [] else [payload]).getLast?).getD [] = payload := by
  by_cases empty : payload = [] <;> simp [empty]

/-- The last value of a varint field written at most once is its value. -/
@[simp] theorem getLast_varint (value : Nat) :
    ((if value = 0 then [] else [value]).getLast?).getD 0 = value := by
  by_cases zero : value = 0 <;> simp [zero]

/-- An embedded message field as the encoder writes it: absent when the message is. -/
def messageField (number : Nat) : Option (List Field) → List Field
  | none => []
  | some fields => [⟨number, .bytes (encodeFields fields)⟩]

@[simp] theorem payloads_messageField_self (number : Nat) (nested : Option (List Field)) :
    payloads number (messageField number nested) =
      (nested.map fun fields => [encodeFields fields]).getD [] := by
  cases nested <;> simp [messageField, payloads]

@[simp] theorem payloads_messageField_of_ne {number other : Nat} (different : other ≠ number)
    (nested : Option (List Field)) : payloads number (messageField other nested) = [] := by
  cases nested <;> simp [messageField, payloads, different]

@[simp] theorem varints_messageField (number other : Nat) (nested : Option (List Field)) :
    varints number (messageField other nested) = [] := by
  cases nested <;> simp [messageField, varints]

/-- **An embedded message reads back** from the only field that carries it. -/
theorem nestedFields_messageField {number : Nat} {nested : Option (List Field)}
    (well : ∀ fields ∈ nested, ∀ field ∈ fields, field.WellFormed) {fields : List Field}
    (only : payloads number fields = payloads number (messageField number nested)) :
    nestedFields number fields = some nested := by
  cases nested with
  | none =>
    simp only [payloads_messageField_self, Option.map_none, Option.getD_none] at only
    simp [nestedFields, only]
  | some inner =>
    simp only [payloads_messageField_self, Option.map_some, Option.getD_some] at only
    simp [nestedFields, only, parseFields_encodeFields (well inner rfl)]

theorem messageField_wellFormed {number : Nat} {nested : Option (List Field)} (low : 1 ≤ number)
    (high : number < 2 ^ 29) (small : ∀ fields ∈ nested, (encodeFields fields).length < 2 ^ 64) :
    ∀ field ∈ messageField number nested, field.WellFormed := by
  intro field member
  cases nested with
  | none => simp [messageField] at member
  | some fields =>
    simp only [messageField, List.mem_singleton] at member
    subst member
    exact ⟨low, high, small fields rfl⟩

theorem bytesField_wellFormed {number : Nat} {payload : Bytes} (low : 1 ≤ number)
    (high : number < 2 ^ 29) (small : payload.length < 2 ^ 64) :
    ∀ field ∈ bytesField number payload, field.WellFormed := by
  intro field member
  by_cases empty : payload = []
  · simp [bytesField, empty] at member
  · simp only [bytesField, empty, if_false, List.mem_singleton] at member
    subst member
    exact ⟨low, high, small⟩

theorem varintField_wellFormed {number value : Nat} (low : 1 ≤ number) (high : number < 2 ^ 29)
    (small : value < 2 ^ 64) : ∀ field ∈ varintField number value, field.WellFormed := by
  intro field member
  by_cases zero : value = 0
  · simp [varintField, zero] at member
  · simp only [varintField, zero, if_false, List.mem_singleton] at member
    subst member
    exact ⟨low, high, small⟩

/-- The encoding of a `bytes` field: a one-byte tag for field numbers below `16`. -/
theorem length_encodeFields_bytesField {number : Nat} (low : number < 16) (payload : Bytes) :
    (encodeFields (bytesField number payload)).length =
      if payload = [] then 0 else 1 + (uvarint payload.length).length + payload.length := by
  by_cases empty : payload = []
  · simp [bytesField, empty]
  · simp only [bytesField, empty, if_false, encodeFields_cons, encodeFields_nil, List.append_nil,
      Field.encode, tag, WireValue.wireType, WireValue.encode, List.length_append]
    rw [length_uvarint_of_lt (by omega)]
    omega

/-- The encoding of a varint field: a one-byte tag for field numbers below `16`. -/
theorem length_encodeFields_varintField {number : Nat} (low : number < 16) (value : Nat) :
    (encodeFields (varintField number value)).length =
      if value = 0 then 0 else 1 + (uvarint value).length := by
  by_cases zero : value = 0
  · simp [varintField, zero]
  · simp only [varintField, zero, if_false, encodeFields_cons, encodeFields_nil, List.append_nil,
      Field.encode, tag, WireValue.wireType, WireValue.encode, List.length_append]
    rw [length_uvarint_of_lt (by omega)]

/-- The encoding of an embedded message field: a one-byte tag for field numbers below `16`. -/
theorem length_encodeFields_messageField {number : Nat} (low : number < 16) (fields : List Field) :
    (encodeFields (messageField number (some fields))).length =
      1 + (uvarint (encodeFields fields).length).length + (encodeFields fields).length := by
  simp only [messageField, encodeFields_cons, encodeFields_nil, List.append_nil, Field.encode, tag,
    WireValue.wireType, WireValue.encode, List.length_append]
  rw [length_uvarint_of_lt (by omega)]
  omega

/-! ### UTF-8 -/

/-- A continuation byte, `10xxxxxx`. -/
def isContinuation (byte : UInt8) : Bool := 0x80 ≤ byte && byte ≤ 0xBF

/-- The length of the sequence a leading byte opens, `0` for a byte that opens none
(`utf8.first`): `C2`–`DF` two bytes, `E0`–`EF` three, `F0`–`F4` four. -/
def utf8Width (lead : UInt8) : Nat :=
  if 0xC2 ≤ lead && lead ≤ 0xDF then 2
  else if 0xE0 ≤ lead && lead ≤ 0xEF then 3
  else if 0xF0 ≤ lead && lead ≤ 0xF4 then 4
  else 0

/-- The range of the second byte after a leading byte (`utf8.acceptRanges`): narrowed after `E0`
(no overlong form), `ED` (no surrogate), `F0` (no overlong form) and `F4` (nothing past
`U+10FFFF`). -/
def secondByteOk (lead second : UInt8) : Bool :=
  if lead = 0xE0 then 0xA0 ≤ second && second ≤ 0xBF
  else if lead = 0xED then 0x80 ≤ second && second ≤ 0x9F
  else if lead = 0xF0 then 0x90 ≤ second && second ≤ 0xBF
  else if lead = 0xF4 then 0x80 ≤ second && second ≤ 0x8F
  else isContinuation second

/-- `utf8.Valid`. -/
def utf8Valid : Bytes → Bool
  | [] => true
  | lead :: rest =>
    if lead < 0x80 then utf8Valid rest
    else match rest with
      | [] => false
      | second :: rest =>
        utf8Width lead ≠ 0 && secondByteOk lead second &&
          if utf8Width lead = 2 then utf8Valid rest
          else match rest with
            | [] => false
            | third :: rest =>
              isContinuation third &&
                if utf8Width lead = 3 then utf8Valid rest
                else match rest with
                  | [] => false
                  | fourth :: rest => isContinuation fourth && utf8Valid rest

/-- **ASCII text is valid UTF-8.** -/
theorem utf8Valid_of_ascii :
    ∀ {text : Bytes}, (∀ byte ∈ text, byte < 0x80) → utf8Valid text = true
  | [], _ => rfl
  | lead :: rest, ascii => by
    have low : lead < 0x80 := ascii lead List.mem_cons_self
    rw [utf8Valid.eq_def]
    simp only [low, if_true]
    exact utf8Valid_of_ascii fun byte member => ascii byte (List.mem_cons_of_mem _ member)

end Kamune.Wire
