/-
**Bucketed padding of a signed transport (`serde.go`, §12.7 of the spec).**

Before it is encrypted, a `SignedTransport` is padded towards one of six bucket sizes
(`paddingBuckets`): the smallest bucket that fits its unpadded size (`naturalBucketIndex`), moved up
by a random bump of `0`–`3` buckets (`selectBump`) and capped at the last bucket,
`frameTargetSize = 65535 - 40`. `padSignedTransport` then looks for a padding length `padLen`
whose field (a tag, a varint length and `padLen` bytes) fills the gap to the bucket: it starts
from the gap less a worst-case overhead of `4` and takes four steps of
`padLen ← gap - (1 + varintSize padLen)`, stopping at a fixed point.

* `varintSize_eq`: `varintSize` is the length of the varint.
* `selectBucketSize_le`: every bucket chosen is at most `frameTargetSize`.
* `padLength_fits`: the padding field never overshoots the gap — the four steps alternate around
  the fixed point of an antitone map and end either on it or just below it.
* `size_padSignedTransport`: the padded encoding is no longer than the bucket when the unpadded
  size is below it, and is the unpadded encoding otherwise.
* `padLength_eq`: where the search lands, band by band of the varint length.
* `padSignedTransport_bucket_landing`: below its bucket the padded encoding lands on the bucket
  exactly, unless the gap is `1`, `2`, `130` or `16387` bytes — gaps that no padding field fills,
  since an empty field is left out and a field's varint length grows at `128` and `16384`.
-/

import Kamune.Messages

namespace Kamune

open Wire

/-! ### The constants of `kamune.go` -/

/-- `math.MaxUint16`, the hard bound of the two-byte length prefix. -/
def maxUint16 : Nat := 65535

/-- `reservedProtocolOverhead`: bytes reserved per message for signature, metadata, tag and
minimum padding. -/
def reservedProtocolOverhead : Nat := 4 * 1024

/-- `encryptionOverhead`: the 24-byte nonce and 16-byte tag of XChaCha20-Poly1305. -/
def encryptionOverhead : Nat := 40

/-- `frameTargetSize`: the largest padded `SignedTransport` before encryption. -/
def frameTargetSize : Nat := maxUint16 - encryptionOverhead

/-- `maxTransportSize`: the protocol's cap on a user message. -/
def maxTransportSize : Nat := maxUint16 - reservedProtocolOverhead

/-- `paddingBuckets`. -/
def paddingBuckets : List Nat := [512, 1024, 4 * 1024, 16 * 1024, 32 * 1024, frameTargetSize]

/-- `bumpProbabilities`: the weights of a bump of `0`, `1`, `2` and `3` buckets. -/
def bumpProbabilities : List Nat := [80, 15, 4, 1]

/-- `randomBytes(l)`: `l` bytes off a random tape. -/
def randomBytes (tape : Nat → UInt8) (length : Nat) : Bytes := (List.range length).map tape

@[simp] theorem length_randomBytes (tape : Nat → UInt8) (length : Nat) :
    (randomBytes tape length).length = length := by
  simp [randomBytes]

/-! ### `varintSize` -/

/-- The loop of `varintSize`, for at most `fuel` rounds. -/
def varintSizeLoop : Nat → Nat → Nat → Nat
  | 0, _, size => size
  | fuel + 1, value, size =>
    if 128 ≤ value then varintSizeLoop fuel (value >>> 7) (size + 1) else size

/-- `varintSize`: `size := 1; for n >= 128 { n >>= 7; size++ }`. -/
def varintSize (value : Nat) : Nat := varintSizeLoop value value 1

theorem varintSizeLoop_eq : ∀ (fuel value size : Nat), value ≤ fuel →
    varintSizeLoop fuel value size = size + ((uvarint value).length - 1)
  | 0, value, size, small => by
    obtain rfl : value = 0 := by omega
    rw [length_uvarint_of_lt (by norm_num)]
    rfl
  | fuel + 1, value, size, small => by
    have nonempty := length_uvarint_pos (value / 128)
    unfold varintSizeLoop
    split
    case isTrue large =>
      rw [Nat.shiftRight_eq_div_pow, varintSizeLoop_eq fuel (value / 2 ^ 7) (size + 1)
        (by omega), length_uvarint_of_le large]
      norm_num
      omega
    case isFalse small =>
      rw [length_uvarint_of_lt (by omega)]
      rfl

/-- **`varintSize` is the length of the varint.** -/
theorem varintSize_eq (value : Nat) : varintSize value = (uvarint value).length := by
  have nonempty := length_uvarint_pos value
  rw [varintSize, varintSizeLoop_eq value value 1 le_rfl]
  omega

theorem varintSize_pos (value : Nat) : 0 < varintSize value := by
  rw [varintSize_eq]
  exact length_uvarint_pos value

theorem varintSize_le_three {value : Nat} (small : value < 2 ^ 21) : varintSize value ≤ 3 := by
  rw [varintSize_eq]
  exact length_uvarint_le (by norm_num) small

theorem varintSize_of_lt {value : Nat} (small : value < 128) : varintSize value = 1 := by
  rw [varintSize_eq, length_uvarint_of_lt small]

theorem varintSize_of_two {value : Nat} (low : 128 ≤ value) (high : value < 2 ^ 14) :
    varintSize value = 2 := by
  rw [varintSize_eq]
  exact le_antisymm (length_uvarint_le (by norm_num) high) (lt_length_uvarint (by norm_num) low)

theorem varintSize_of_three {value : Nat} (low : 2 ^ 14 ≤ value) (high : value < 2 ^ 21) :
    varintSize value = 3 := by
  rw [varintSize_eq, length_uvarint_eq_three low high]

theorem varintSize_mono {value other : Nat} (le : value ≤ other) :
    varintSize value ≤ varintSize other := by
  rw [varintSize_eq, varintSize_eq]
  exact length_uvarint_mono le

/-! ### Choosing the bucket -/

/-- The loop of `naturalBucketIndex` from bucket `index` on. -/
def naturalBucketIndexFrom (baseSize : Nat) : List Nat → Nat → Nat
  | [], _ => paddingBuckets.length - 1
  | size :: rest, index =>
    if baseSize ≤ size then index else naturalBucketIndexFrom baseSize rest (index + 1)

/-- `naturalBucketIndex`: the smallest bucket that fits, or the last one. -/
def naturalBucketIndex (baseSize : Nat) : Nat := naturalBucketIndexFrom baseSize paddingBuckets 0

/-- The loop of `selectBump`: the first weight the draw falls under, after subtracting the ones
before it. -/
def selectBumpFrom : List Nat → Nat → Nat → Nat
  | [], _, _ => bumpProbabilities.length - 1
  | weight :: rest, draw, index =>
    if draw < weight then index else selectBumpFrom rest (draw - weight) (index + 1)

/-- `selectBump`, given its draw `mathrand.IntN(total)` (a number below `100`). -/
def selectBump (draw : Nat) : Nat := selectBumpFrom bumpProbabilities draw 0

/-- `selectBucketSize`: the natural bucket, bumped, capped at the last bucket. -/
def selectBucketSize (baseSize draw : Nat) : Nat :=
  let index := naturalBucketIndex baseSize + selectBump draw
  paddingBuckets.getD (if paddingBuckets.length ≤ index then paddingBuckets.length - 1 else index) 0

theorem naturalBucketIndexFrom_lt (baseSize : Nat) : ∀ (buckets : List Nat) (index : Nat),
    index + buckets.length ≤ paddingBuckets.length →
      naturalBucketIndexFrom baseSize buckets index < paddingBuckets.length
  | [], _, _ => by simp [naturalBucketIndexFrom, paddingBuckets]
  | size :: rest, index, fits => by
    simp only [List.length_cons] at fits
    rw [naturalBucketIndexFrom]
    split
    · omega
    · exact naturalBucketIndexFrom_lt baseSize rest (index + 1) (by omega)

theorem naturalBucketIndex_lt (baseSize : Nat) : naturalBucketIndex baseSize < 6 :=
  naturalBucketIndexFrom_lt baseSize paddingBuckets 0 le_rfl

/-- Every bucket is at most `frameTargetSize`. -/
theorem le_frameTargetSize_of_mem {size : Nat} (member : size ∈ paddingBuckets) :
    size ≤ frameTargetSize := by
  simp only [paddingBuckets, List.mem_cons, List.not_mem_nil, or_false] at member
  rcases member with rfl | rfl | rfl | rfl | rfl | rfl <;> decide

/-- **Every bucket `selectBucketSize` chooses is one of `paddingBuckets`.** -/
theorem selectBucketSize_mem (baseSize draw : Nat) :
    selectBucketSize baseSize draw ∈ paddingBuckets := by
  unfold selectBucketSize
  have inRange : ∀ index : Nat, (if paddingBuckets.length ≤ index then paddingBuckets.length - 1
      else index) < paddingBuckets.length := by
    have six : paddingBuckets.length = 6 := rfl
    intro index
    split <;> omega
  rw [List.getD_eq_getElem _ _ (inRange _)]
  exact List.getElem_mem _

theorem selectBucketSize_le (baseSize draw : Nat) :
    selectBucketSize baseSize draw ≤ frameTargetSize :=
  le_frameTargetSize_of_mem (selectBucketSize_mem baseSize draw)

/-- A base size above the fifth bucket is in the last one, whatever the bump. -/
theorem selectBucketSize_of_large {baseSize : Nat} (large : 32 * 1024 < baseSize) (draw : Nat) :
    selectBucketSize baseSize draw = frameTargetSize := by
  have natural : naturalBucketIndex baseSize = 5 := by
    simp only [naturalBucketIndex, paddingBuckets, naturalBucketIndexFrom]
    rw [if_neg (by omega), if_neg (by omega), if_neg (by omega), if_neg (by omega),
      if_neg (by omega)]
    split <;> rfl
  have six : paddingBuckets.length = 6 := rfl
  unfold selectBucketSize
  dsimp only
  rw [natural]
  by_cases bumped : paddingBuckets.length ≤ 5 + selectBump draw
  · rw [if_pos bumped]
    rfl
  · have unbumped : selectBump draw = 0 := by omega
    rw [if_neg bumped, unbumped]
    rfl

/-! ### The padding length -/

/-- One step of the search: the padding that fills `gap` after the overhead of a field of
`padLen` padding bytes. -/
def padStep (gap padLen : Nat) : Nat := gap - (1 + varintSize padLen)

/-- The loop of `padSignedTransport`: at most `rounds` steps, stopping at a fixed point. -/
def padLoop (gap : Nat) : Nat → Nat → Nat
  | 0, padLen => padLen
  | rounds + 1, padLen =>
    if padStep gap padLen = padLen then padLen else padLoop gap rounds (padStep gap padLen)

/-- The padding length `padSignedTransport` settles on for a gap: four steps from the gap less
the worst-case overhead `4`. -/
def padLength (gap : Nat) : Nat := padLoop gap 4 (gap - 4)

section Search

variable {gap : Nat}

/-- More padding never leaves more room: the step is antitone. -/
theorem padStep_antitone : Antitone (padStep gap) := fun _ _ le =>
  Nat.sub_le_sub_left (Nat.add_le_add_left (varintSize_mono le) 1) gap

/-- From a value at or below its step, the step lands at or above its own step. -/
theorem padStep_down_of_up {padLen : Nat} (up : padLen ≤ padStep gap padLen) :
    padStep gap (padStep gap padLen) ≤ padStep gap padLen :=
  padStep_antitone up

theorem padStep_up_of_down {padLen : Nat} (down : padStep gap padLen ≤ padLen) :
    padStep gap padLen ≤ padStep gap (padStep gap padLen) :=
  padStep_antitone down

/-- The start of the search lies below its step: the overhead of a padding field shorter than
`2 ^ 21` bytes is at most `4`. -/
theorem start_up (small : gap < 2 ^ 21) : gap - 4 ≤ padStep gap (gap - 4) := by
  have size : varintSize (gap - 4) ≤ 3 := by
    rw [varintSize_eq]
    exact length_uvarint_le (by norm_num) (by omega)
  unfold padStep
  omega

/-- The search never goes past the gap. -/
theorem padLoop_le : ∀ (rounds padLen : Nat), padLen ≤ gap → padLoop gap rounds padLen ≤ gap
  | 0, _, below => below
  | rounds + 1, padLen, below => by
    unfold padLoop
    split
    · exact below
    · exact padLoop_le rounds _ (Nat.sub_le _ _)

theorem padLength_le : padLength gap ≤ gap := padLoop_le 4 (gap - 4) (Nat.sub_le _ _)

/-- Where the search ends: on a fixed point of the step, or on the step of a value at or above
its own step. -/
def SearchEnd (gap padLen : Nat) : Prop :=
  padStep gap padLen = padLen ∨ ∃ last ≤ gap, padStep gap last ≤ last ∧ padLen = padStep gap last

/-- **The four steps end on a fixed point or just below one.** From the start (below its step)
the values alternate below and above their steps, so the fourth step is taken from above. -/
theorem padLength_end (small : gap < 2 ^ 21) : SearchEnd gap (padLength gap) := by
  have first := start_up small
  have second := padStep_down_of_up first
  have third := padStep_up_of_down second
  have fourth := padStep_down_of_up third
  unfold padLength
  simp only [padLoop]
  split
  case isTrue fixed => exact Or.inl fixed
  split
  case isTrue fixed => exact Or.inl fixed
  split
  case isTrue fixed => exact Or.inl fixed
  split
  case isTrue fixed => exact Or.inl fixed
  exact Or.inr ⟨_, Nat.sub_le _ _, fourth, rfl⟩

/-- **The padding field fits the gap**: either there is no padding, or its tag, its varint
length and its bytes take at most the gap. -/
theorem padLength_fits (small : gap < 2 ^ 21) :
    padLength gap = 0 ∨ 1 + varintSize (padLength gap) + padLength gap ≤ gap := by
  rcases Nat.eq_zero_or_pos (padLength gap) with zero | positive
  · exact Or.inl zero
  · right
    rcases padLength_end small with fixed | ⟨last, -, down, equal⟩
    · have room := fixed
      unfold padStep at room
      omega
    · have sizes : varintSize (padStep gap last) ≤ varintSize last := varintSize_mono down
      rw [equal] at positive ⊢
      unfold padStep at positive sizes ⊢
      omega

/-- **The padding field fills the gap to within two bytes**, once the gap has room for a
field: exactly on a fixed point, and after a step from above short only by the difference of two
varint sizes. -/
theorem gap_le_padField (small : gap < 2 ^ 21) (room : 4 < gap) :
    0 < padLength gap ∧ gap ≤ 1 + varintSize (padLength gap) + padLength gap + 2 := by
  have bounded : padLength gap ≤ gap := padLength_le
  have padSize := varintSize_le_three (lt_of_le_of_lt bounded small)
  rcases padLength_end small with fixed | ⟨last, lastBounded, down, equal⟩
  · unfold padStep at fixed
    omega
  · have lastSize := varintSize_le_three (lt_of_le_of_lt lastBounded small)
    have padSizePos := varintSize_pos (padLength gap)
    rw [equal] at padSize padSizePos ⊢
    unfold padStep at padSize padSizePos ⊢
    omega

theorem padLoop_of_fixed {padLen : Nat} (fixed : padStep gap padLen = padLen) (rounds : Nat) :
    padLoop gap (rounds + 1) padLen = padLen := by
  rw [padLoop, if_pos fixed]

theorem padLoop_of_moved {padLen : Nat} (moved : padStep gap padLen ≠ padLen) (rounds : Nat) :
    padLoop gap (rounds + 1) padLen = padLoop gap rounds (padStep gap padLen) := by
  rw [padLoop, if_neg moved]

theorem padStep_of_lt {padLen : Nat} (small : padLen < 128) : padStep gap padLen = gap - 2 := by
  rw [padStep, varintSize_of_lt small]

theorem padStep_of_two {padLen : Nat} (low : 128 ≤ padLen) (high : padLen < 2 ^ 14) :
    padStep gap padLen = gap - 3 := by
  rw [padStep, varintSize_of_two low high]

theorem padStep_of_three {padLen : Nat} (low : 2 ^ 14 ≤ padLen) (high : padLen < 2 ^ 21) :
    padStep gap padLen = gap - 4 := by
  rw [padStep, varintSize_of_three low high]

/-- **Where the search lands**, band by band: the gap less the overhead of a one-, two- or
three-byte varint length, except at a gap of at most two bytes, where it stays at `0`, and at the
two gaps `130` and `16387` that straddle a varint boundary, where the steps keep alternating and
the fourth ends one byte short. -/
theorem padLength_eq (small : gap < 2 ^ 21) : padLength gap =
    if gap ≤ 2 then 0 else if gap ≤ 129 then gap - 2 else if gap = 130 then 127
    else if gap ≤ 16386 then gap - 3 else if gap = 16387 then 16383 else gap - 4 := by
  unfold padLength
  split_ifs with tiny one straddleOne two straddleTwo
  case pos =>
    rw [padLoop_of_fixed (by rw [padStep_of_lt (by omega)]; omega)]
    omega
  case pos =>
    -- from `gap - 4` one step to the fixed point `gap - 2`
    rw [padLoop_of_moved (by rw [padStep_of_lt (by omega)]; omega), padStep_of_lt (by omega),
      padLoop_of_fixed (padStep_of_lt (by omega))]
  case pos =>
    subst straddleOne
    decide
  case pos =>
    by_cases start : gap = 131
    · subst start
      decide
    · -- from `gap - 4`, above `128`, one step to the fixed point `gap - 3`
      rw [padLoop_of_moved (by rw [padStep_of_two (by omega) (by omega)]; omega),
        padStep_of_two (by omega) (by omega),
        padLoop_of_fixed (padStep_of_two (by omega) (by omega))]
  case pos =>
    subst straddleTwo
    decide
  case neg =>
    rw [padLoop_of_fixed (by rw [padStep_of_three (by omega) (by omega)])]

/-- The bytes a padding field of `padLen` random bytes adds to the encoding. -/
theorem bytesFieldSize_randomBytes (tape : Nat → UInt8) (padLen : Nat) :
    bytesFieldSize (randomBytes tape padLen) =
      if padLen = 0 then 0 else 1 + varintSize padLen + padLen := by
  by_cases zero : padLen = 0
  · subst zero
    rfl
  · have nonempty : randomBytes tape padLen ≠ [] := by
      rw [← List.length_pos_iff, length_randomBytes]
      omega
    rw [bytesFieldSize, if_neg nonempty, if_neg zero, length_randomBytes, varintSize_eq]

/-- **The padding fills the gap exactly unless the gap is `1`, `2`, `130` or `16387`**, the gaps
that no field of a tag, a varint length and its bytes can fill. -/
theorem padField_eq_gap_iff (tape : Nat → UInt8) (positive : 0 < gap) (small : gap < 2 ^ 21) :
    bytesFieldSize (randomBytes tape (padLength gap)) = gap ↔ gap ∉ [1, 2, 130, 16387] := by
  have landing := padLength_eq small
  rw [bytesFieldSize_randomBytes]
  simp only [List.mem_cons, List.not_mem_nil, or_false]
  split_ifs at landing with tiny one straddleOne two straddleTwo <;> rw [landing]
  case pos =>
    rw [if_pos rfl]
    omega
  case pos =>
    rw [if_neg (by omega), varintSize_of_lt (by omega)]
    omega
  case pos =>
    rw [if_neg (by omega), varintSize_of_lt (by omega)]
    omega
  case pos =>
    rw [if_neg (by omega), varintSize_of_two (by omega) (by omega)]
    omega
  case pos =>
    rw [if_neg (by omega), varintSize_of_two (by omega) (by omega)]
    omega
  case neg =>
    rw [if_neg (by omega), varintSize_of_three (by omega) (by omega)]
    omega

end Search

/-! ### `padSignedTransport` -/

/-- `padSignedTransport`: the encoding of `st` with its padding set to `randomBytes(padLen)`,
or with no padding when the bucket chosen does not exceed the unpadded size. `draw` is the draw
of `selectBump`, `tape` the random source of the padding bytes. -/
def padSignedTransport (transport : SignedTransport) (draw : Nat) (tape : Nat → UInt8) :
    Bytes :=
  let unpadded := { transport with padding := [] }
  let baseSize := unpadded.size
  let target := selectBucketSize baseSize draw
  if target ≤ baseSize then unpadded.marshal
  else { unpadded with padding := randomBytes tape (padLength (target - baseSize)) }.marshal

/-- The size of a signed transport with another padding: the unpadded size, plus the padding
field. -/
theorem size_withPadding (transport : SignedTransport) (padding : Bytes) :
    ({ transport with padding := padding } : SignedTransport).size =
      ({ transport with padding := [] } : SignedTransport).size + bytesFieldSize padding := by
  simp only [SignedTransport.size_eq, bytesFieldSize_nil]
  omega

/-- `padSignedTransport` writes the transport with a padding no longer than the last bucket. -/
theorem padSignedTransport_eq (transport : SignedTransport) (draw : Nat) (tape : Nat → UInt8) :
    ∃ padding : Bytes, padding.length ≤ frameTargetSize ∧
      padSignedTransport transport draw tape =
        ({ transport with padding := padding } : SignedTransport).marshal := by
  unfold padSignedTransport
  dsimp only
  split
  · exact ⟨[], by simp, rfl⟩
  · refine ⟨randomBytes tape (padLength _), ?_, rfl⟩
    rw [length_randomBytes]
    exact padLength_le.trans ((Nat.sub_le _ _).trans (selectBucketSize_le _ _))

/-- At or above its bucket, the transport goes out unpadded. -/
theorem padSignedTransport_of_le (transport : SignedTransport) (draw : Nat) (tape : Nat → UInt8)
    (above : selectBucketSize ({ transport with padding := [] } : SignedTransport).size draw ≤
      ({ transport with padding := [] } : SignedTransport).size) :
    padSignedTransport transport draw tape =
      ({ transport with padding := [] } : SignedTransport).marshal := by
  unfold padSignedTransport
  dsimp only
  rw [if_pos above]

/-- Below its bucket, the padded encoding is the unpadded size plus the padding field. -/
theorem length_padSignedTransport_of_lt (transport : SignedTransport) (draw : Nat)
    (tape : Nat → UInt8)
    (below : ({ transport with padding := [] } : SignedTransport).size <
      selectBucketSize ({ transport with padding := [] } : SignedTransport).size draw) :
    (padSignedTransport transport draw tape).length =
      ({ transport with padding := [] } : SignedTransport).size +
        bytesFieldSize (randomBytes tape (padLength
          (selectBucketSize ({ transport with padding := [] } : SignedTransport).size draw -
            ({ transport with padding := [] } : SignedTransport).size))) := by
  unfold padSignedTransport
  dsimp only
  rw [if_neg (by omega)]
  exact size_withPadding { transport with padding := [] } _

/-- Every gap to a bucket is shorter than `2 ^ 21` bytes. -/
theorem bucket_gap_lt (baseSize draw : Nat) : selectBucketSize baseSize draw - baseSize < 2 ^ 21 := by
  have bucket : selectBucketSize baseSize draw ≤ frameTargetSize := selectBucketSize_le baseSize draw
  unfold frameTargetSize maxUint16 encryptionOverhead at bucket
  omega

/-- **The padded encoding fits its bucket**: no longer than the bucket when the unpadded size is
below it, the unpadded encoding otherwise. -/
theorem size_padSignedTransport (transport : SignedTransport) (draw : Nat) (tape : Nat → UInt8) :
    (padSignedTransport transport draw tape).length ≤
      max ({ transport with padding := [] } : SignedTransport).size
        (selectBucketSize ({ transport with padding := [] } : SignedTransport).size draw) := by
  by_cases above : selectBucketSize ({ transport with padding := [] } : SignedTransport).size draw ≤
    ({ transport with padding := [] } : SignedTransport).size
  · rw [padSignedTransport_of_le transport draw tape above]
    exact le_max_left _ _
  · rw [length_padSignedTransport_of_lt transport draw tape (by omega), bytesFieldSize_randomBytes]
    have fits := padLength_fits (bucket_gap_lt ({ transport with padding := [] } : SignedTransport).size draw)
    split_ifs with zero
    · omega
    · have within := fits.resolve_left zero
      omega

/-- **Bucket landing of `padSignedTransport`**: with `base` the unpadded size and `target` the
bucket chosen for it, a transport below its bucket pads to at most the bucket, and to exactly the
bucket unless the gap is `1`, `2`, `130` or `16387` bytes, where it falls short; one at or above
its bucket goes out unpadded. -/
theorem padSignedTransport_bucket_landing (transport : SignedTransport) (draw : Nat)
    (tape : Nat → UInt8) {base target : Nat}
    (baseSize : ({ transport with padding := [] } : SignedTransport).size = base)
    (bucket : selectBucketSize base draw = target) :
    (base < target → (padSignedTransport transport draw tape).length ≤ target ∧
      ((padSignedTransport transport draw tape).length = target ↔
        target - base ∉ [1, 2, 130, 16387])) ∧
    (target ≤ base → padSignedTransport transport draw tape =
      ({ transport with padding := [] } : SignedTransport).marshal) := by
  subst baseSize bucket
  constructor
  · intro below
    have within := size_padSignedTransport transport draw tape
    have exact := padField_eq_gap_iff tape (by omega)
      (bucket_gap_lt ({ transport with padding := [] } : SignedTransport).size draw)
    rw [length_padSignedTransport_of_lt transport draw tape below] at within ⊢
    refine ⟨by omega, ⟨fun landed => exact.mp (by omega), fun unlisted => ?_⟩⟩
    have filled := exact.mpr unlisted
    omega
  · exact padSignedTransport_of_le transport draw tape

set_option maxRecDepth 4096 in
theorem padSignedTransport_bucket_landing_short :
    (padSignedTransport ⟨List.replicate 508 0, [], [], []⟩ 0 (fun _ => 0)).length ≠ 512 :=
  fun landed =>
    ((@padSignedTransport_bucket_landing ⟨List.replicate 508 0, [], [], []⟩ 0 (fun _ => 0) 511 512
      (by decide) (by decide)).1 (by decide)).2.mp landed (by decide)

/-- An unpadded transport within the last bucket pads to at most the last bucket. -/
theorem length_padSignedTransport_le {transport : SignedTransport}
    (small : ({ transport with padding := [] } : SignedTransport).size ≤ frameTargetSize)
    (draw : Nat) (tape : Nat → UInt8) :
    (padSignedTransport transport draw tape).length ≤ frameTargetSize :=
  (size_padSignedTransport transport draw tape).trans (max_le small (selectBucketSize_le _ _))

/-- **In the last bucket the padded encoding fills it to within two bytes**, whenever the
unpadded size is above the fifth bucket and leaves room for a padding field. -/
theorem frameTargetSize_le_padSignedTransport (transport : SignedTransport) (draw : Nat)
    (tape : Nat → UInt8)
    (large : 32 * 1024 < ({ transport with padding := [] } : SignedTransport).size)
    (room : ({ transport with padding := [] } : SignedTransport).size + 4 < frameTargetSize) :
    frameTargetSize ≤ (padSignedTransport transport draw tape).length + 2 := by
  have last := selectBucketSize_of_large large draw
  have gapSmall := bucket_gap_lt ({ transport with padding := [] } : SignedTransport).size draw
  rw [last] at gapSmall
  obtain ⟨positive, filled⟩ := gap_le_padField gapSmall (by omega)
  rw [length_padSignedTransport_of_lt transport draw tape (by omega), last,
    bytesFieldSize_randomBytes, if_neg (by omega)]
  omega

end Kamune
