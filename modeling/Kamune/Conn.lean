/-
**Length-prefixed framing over a stream (`conn.go`).**

A `conn` carries frames over a byte stream: `WriteBytes` writes a two-byte big-endian length
(`writeLenLocked`, which refuses a frame longer than `math.MaxUint16`) and then the frame;
`ReadBytes` reads the two bytes (`readLenLocked`) and then exactly that many bytes
(`io.ReadFull`). Both first check that the conn is not closed (`checkReadDeadlineLocked`,
`checkWriteDeadlineLocked`). Each operation holds its lock for the whole frame, so a frame is
written and read in one step; `Conn` keeps the bytes received and not yet read, and the bytes
written, and one call is one function on it.

* `Conn.ReadBytes_frame`: a frame written by `WriteBytes` reads back, with what follows it left
  in the stream;
* `Conn.readFrames_frames`: a stream of frames reads back frame by frame, in order;
* `Conn.WriteBytes_eq_ok`, `Conn.WriteBytes_tooLarge`: `WriteBytes` appends the frame exactly
  when the conn is open and the frame fits the prefix, and refuses it otherwise.

Under a read deadline the stream arrives in pieces between reads (`ReadEvent`), and
`ReadBytesTimed` fails once the bytes that have arrived run out, having consumed them:

* `Conn.readRun_whole_frames`: reads that come when the next frame has arrived whole return the
  frames in order, however they were split in transit;
* `read_timeout_misaligns_frames`: a deadline inside a frame leaves the next read inside its
  payload, which then succeeds with bytes the peer never wrote as a frame.
-/

import Kamune.Crypto

namespace Kamune

open Wire

/-- The errors of `conn`, with the cause `errors.Is` finds in them. -/
inductive ConnError where
  /-- `ErrConnClosed`, from the deadline check of a closed conn. -/
  | closed
  /-- `"writing length: %w"` of `ErrMessageTooLarge`. -/
  | tooLarge
  /-- `"get message length: reading first two bytes: %w"` of `io.EOF` (`unexpected = false`:
  the stream ended before the prefix) or `io.ErrUnexpectedEOF` (inside it). -/
  | lengthEOF (unexpected : Bool)
  /-- `"reading message: %w"` of `io.EOF` or `io.ErrUnexpectedEOF`. -/
  | messageEOF (unexpected : Bool)
  deriving DecidableEq, Repr

/-- `errors.Is(err, io.EOF)`. -/
def ConnError.isEOF : ConnError → Bool
  | lengthEOF unexpected => !unexpected
  | messageEOF unexpected => !unexpected
  | _ => false

/-- One end of a connection: whether it is closed, the bytes it has received and not yet read,
and the bytes it has written. -/
structure Conn where
  closed : Bool := false
  inbound : Bytes := []
  outbound : Bytes := []
  deriving DecidableEq, Repr

/-- A frame as `WriteBytes` puts it on the wire: the two-byte length, then the data. -/
def frame (data : Bytes) : Bytes := bigEndian 2 data.length ++ data

/-- `conn.WriteBytes`. -/
def Conn.WriteBytes (conn : Conn) (data : Bytes) : Except ConnError Conn :=
  if conn.closed then .error .closed
  else if maxUint16 < data.length then .error .tooLarge
  else .ok { conn with outbound := conn.outbound ++ frame data }

/-- `conn.ReadBytes`: `io.ReadFull` fails with `io.EOF` when it reads nothing, with
`io.ErrUnexpectedEOF` when it reads part of what it needs. -/
def Conn.ReadBytes (conn : Conn) : Except ConnError (Bytes × Conn) :=
  if conn.closed then .error .closed
  else match conn.inbound with
    | [] => .error (.lengthEOF false)
    | [_] => .error (.lengthEOF true)
    | high :: low :: rest =>
      let length := ofBigEndian [high, low]
      if rest.length < length then .error (.messageEOF (rest != []))
      else .ok (rest.take length, { conn with inbound := rest.drop length })

@[simp] theorem length_frame (data : Bytes) : (frame data).length = 2 + data.length := by
  simp [frame]

/-! ### Writing -/

theorem Conn.WriteBytes_eq_ok {conn : Conn} (live : conn.closed = false) {data : Bytes}
    (fits : data.length ≤ maxUint16) :
    conn.WriteBytes data = .ok { conn with outbound := conn.outbound ++ frame data } := by
  unfold Conn.WriteBytes
  rw [if_neg (by simp [live]), if_neg (by omega)]

theorem Conn.WriteBytes_tooLarge {conn : Conn} (live : conn.closed = false) {data : Bytes}
    (large : maxUint16 < data.length) : conn.WriteBytes data = .error .tooLarge := by
  unfold Conn.WriteBytes
  rw [if_neg (by simp [live]), if_pos large]

/-- A successful `WriteBytes` appended one frame to an open conn. -/
theorem Conn.WriteBytes_cases {conn conn' : Conn} {data : Bytes}
    (written : conn.WriteBytes data = .ok conn') :
    conn.closed = false ∧ data.length ≤ maxUint16 ∧
      conn' = { conn with outbound := conn.outbound ++ frame data } := by
  unfold Conn.WriteBytes at written
  split at written
  · cases written
  · split at written
    · cases written
    · cases written
      refine ⟨by simpa using ‹¬conn.closed = true›, by omega, rfl⟩

/-! ### Reading -/

/-- **A frame reads back**, with what follows it left in the stream. -/
theorem Conn.ReadBytes_frame {conn : Conn} (live : conn.closed = false) {data rest : Bytes}
    (fits : data.length ≤ maxUint16) (inbound : conn.inbound = frame data ++ rest) :
    conn.ReadBytes = .ok (data, { conn with inbound := rest }) := by
  have prefixValue : ofBigEndian (bigEndian 2 data.length) = data.length := by
    rw [ofBigEndian_bigEndian]
    exact Nat.mod_eq_of_lt (by unfold maxUint16 at fits; omega)
  obtain ⟨high, low, prefixBytes⟩ := List.length_eq_two.mp (length_bigEndian 2 data.length)
  rw [prefixBytes] at prefixValue
  unfold Conn.ReadBytes
  rw [if_neg (by simp [live]), inbound, frame, prefixBytes]
  simp only [List.cons_append, List.nil_append, prefixValue, List.length_append]
  rw [if_neg (by omega), List.take_left, List.drop_left]

/-- Read `count` frames, in order. -/
def Conn.readFrames (conn : Conn) : Nat → Except ConnError (List Bytes × Conn)
  | 0 => .ok ([], conn)
  | count + 1 => do
    let (data, conn) ← conn.ReadBytes
    let (frames, conn) ← conn.readFrames count
    return (data :: frames, conn)

/-- **A stream of frames reads back in order**: the FIFO property of one direction of a conn. -/
theorem Conn.readFrames_frames : ∀ {conn : Conn} (frames : List Bytes) {rest : Bytes},
    conn.closed = false → (∀ data ∈ frames, data.length ≤ maxUint16) →
      conn.inbound = (frames.flatMap frame) ++ rest →
        conn.readFrames frames.length = .ok (frames, { conn with inbound := rest })
  | conn, [], rest, _, _, inbound => by
    simp only [List.flatMap_nil, List.nil_append] at inbound
    simp only [List.length_nil, Conn.readFrames]
    rw [← inbound]
  | conn, data :: frames, rest, live, fit, inbound => by
    let next : Conn := { conn with inbound := frames.flatMap frame ++ rest }
    have first : conn.ReadBytes = .ok (data, next) :=
      Conn.ReadBytes_frame live (fit data List.mem_cons_self)
        (by rw [inbound, List.flatMap_cons, List.append_assoc])
    have others := @Conn.readFrames_frames next frames rest live
      (fun data member => fit data (List.mem_cons_of_mem _ member)) rfl
    rw [List.length_cons, Conn.readFrames, first]
    simp only [bind, Except.bind]
    rw [others]
    rfl

/-! ### Reading under a deadline -/

/-- The errors of `conn.ReadBytes` when its read deadline fires. -/
inductive ReadTimeout where
  /-- `ErrConnClosed`, from the deadline check of a closed conn. -/
  | closed
  /-- `"get message length: reading first two bytes: %w"` of `os.ErrDeadlineExceeded`. -/
  | lengthTimeout
  /-- `"reading message: %w"` of `os.ErrDeadlineExceeded`. -/
  | messageTimeout
  deriving DecidableEq, Repr

/-- `conn.ReadBytes` with the peer still connected, when the read deadline fires once the bytes
that have arrived run out. `io.ReadFull` keeps what it read before the deadline, so a read that
times out has consumed every byte that had arrived: one byte of the prefix, or the prefix and
part of the payload. -/
def Conn.ReadBytesTimed (conn : Conn) : Conn × Except ReadTimeout Bytes :=
  if conn.closed then (conn, .error .closed)
  else match conn.inbound with
    | high :: low :: rest =>
      let length := ofBigEndian [high, low]
      if rest.length < length then ({ conn with inbound := [] }, .error .messageTimeout)
      else ({ conn with inbound := rest.drop length }, .ok (rest.take length))
    | _ => ({ conn with inbound := [] }, .error .lengthTimeout)

/-- More of the peer's stream arrives. -/
def Conn.arrive (conn : Conn) (bytes : Bytes) : Conn :=
  { conn with inbound := conn.inbound ++ bytes }

/-- What happens at the reading end of a conn: more of the peer's stream arrives before the next
deadline, or the reader calls `ReadBytes`. -/
inductive ReadEvent where
  | arrive (bytes : Bytes)
  | read
  deriving DecidableEq, Repr

/-- A run of events: the conn after it, and the result of each read in order. -/
def Conn.readRun : Conn → List ReadEvent → Conn × List (Except ReadTimeout Bytes)
  | conn, [] => (conn, [])
  | conn, .arrive bytes :: events => (conn.arrive bytes).readRun events
  | conn, .read :: events =>
    let (final, results) := conn.ReadBytesTimed.1.readRun events
    (final, conn.ReadBytesTimed.2 :: results)

/-- **Where `ReadBytes` succeeds, the deadline changes nothing**: it returns what the read without
a deadline returns. -/
theorem Conn.ReadBytesTimed_of_ReadBytes {conn conn' : Conn} {data : Bytes}
    (read : conn.ReadBytes = .ok (data, conn')) : conn.ReadBytesTimed = (conn', .ok data) := by
  unfold Conn.ReadBytes at read
  unfold Conn.ReadBytesTimed
  split at read
  case isTrue => cases read
  case isFalse live =>
    rw [if_neg live]
    split at read
    case h_1 => cases read
    case h_2 => cases read
    case h_3 high low rest arrived =>
      rw [arrived]
      dsimp only at read ⊢
      split at read
      case isTrue => cases read
      case isFalse whole =>
        rw [if_neg whole]
        cases read
        rfl

theorem Conn.ReadBytesTimed_frame {conn : Conn} (live : conn.closed = false) {data rest : Bytes}
    (fits : data.length ≤ maxUint16) (inbound : conn.inbound = frame data ++ rest) :
    conn.ReadBytesTimed = ({ conn with inbound := rest }, .ok data) :=
  Conn.ReadBytesTimed_of_ReadBytes (Conn.ReadBytes_frame live fits inbound)

/-- A read that finds a length prefix and only part of the payload times out, and consumes
them. -/
theorem Conn.ReadBytesTimed_partial {conn : Conn} (live : conn.closed = false) {length : Nat}
    {part : Bytes} (fits : length < 2 ^ 16) (short : part.length < length)
    (inbound : conn.inbound = bigEndian 2 length ++ part) :
    conn.ReadBytesTimed = ({ conn with inbound := [] }, .error .messageTimeout) := by
  have prefixValue : ofBigEndian (bigEndian 2 length) = length := by
    rw [ofBigEndian_bigEndian]
    exact Nat.mod_eq_of_lt fits
  obtain ⟨high, low, prefixBytes⟩ := List.length_eq_two.mp (length_bigEndian 2 length)
  rw [prefixBytes] at prefixValue
  unfold Conn.ReadBytesTimed
  rw [if_neg (by simp [live]), inbound, prefixBytes]
  simp only [List.cons_append, List.nil_append, prefixValue]
  rw [if_pos short]

/-- Arrivals only lengthen what is waiting to be read. -/
theorem Conn.readRun_arrivals (pieces : List Bytes) :
    ∀ (conn : Conn) (events : List ReadEvent),
      conn.readRun (pieces.map .arrive ++ events) =
        ({ conn with inbound := conn.inbound ++ pieces.flatten } : Conn).readRun events := by
  induction pieces with
  | nil =>
    intro conn events
    simp
  | cons piece pieces arrived =>
    intro conn events
    rw [List.map_cons, List.cons_append, Conn.readRun, arrived]
    simp [Conn.arrive, List.append_assoc]

/-- **Frames read back in order however they are split in transit**, as long as every read comes
when the next frame has arrived whole: reads at frame boundaries never time out. -/
theorem Conn.readRun_whole_frames : ∀ {conn : Conn} (deliveries : List (Bytes × List Bytes)),
    conn.closed = false → conn.inbound = [] →
    (∀ delivery ∈ deliveries,
      delivery.1.length ≤ maxUint16 ∧ delivery.2.flatten = frame delivery.1) →
    conn.readRun (deliveries.flatMap fun delivery => delivery.2.map .arrive ++ [.read]) =
      (conn, deliveries.map fun delivery => .ok delivery.1)
  | conn, [], _, _, _ => rfl
  | conn, (data, pieces) :: deliveries, live, empty, delivered => by
    obtain ⟨fits, whole⟩ := delivered (data, pieces) List.mem_cons_self
    have drained : ({ conn with inbound := [] } : Conn) = conn := by
      cases conn
      simp only at empty
      rw [empty]
    have read : ({ conn with inbound := frame data } : Conn).ReadBytesTimed =
        ({ conn with inbound := [] }, .ok data) :=
      Conn.ReadBytesTimed_frame (show ({ conn with inbound := frame data } : Conn).closed = false
        from live) fits (List.append_nil _).symm
    have others := @Conn.readRun_whole_frames conn deliveries live empty
      (fun delivery member => delivered delivery (List.mem_cons_of_mem _ member))
    rw [List.flatMap_cons, List.append_assoc, Conn.readRun_arrivals, empty, List.nil_append,
      whole, List.singleton_append, Conn.readRun, read]
    simp only [drained, others, List.map_cons]

/-- **A read deadline inside a frame misaligns the framing.** The peer writes a frame whose
payload holds, after some bytes `front`, bytes that read as a frame of their own. If the reader's
deadline fires once the prefix and `front` have arrived, `ReadBytes` times out having consumed
them; once the rest arrives, the next `ReadBytes` takes bytes of the payload for a length prefix
and succeeds with `inner`, which is not the frame the peer wrote. -/
theorem read_timeout_misaligns_frames {conn : Conn} (live : conn.closed = false)
    (empty : conn.inbound = []) (front inner back later : Bytes)
    (fits : (front ++ frame inner ++ back).length ≤ maxUint16) :
    conn.readRun [.arrive ((frame (front ++ frame inner ++ back)).take (2 + front.length)), .read,
        .arrive ((frame (front ++ frame inner ++ back)).drop (2 + front.length) ++ later),
        .read] =
      ({ conn with inbound := back ++ later }, [.error .messageTimeout, .ok inner]) ∧
    inner ≠ front ++ frame inner ++ back := by
  set data := front ++ frame inner ++ back with dataIs
  have lengths : data.length = front.length + (2 + inner.length) + back.length := by
    simp only [dataIs, List.length_append, length_frame]
  have split : frame data = (bigEndian 2 data.length ++ front) ++ (frame inner ++ back) := by
    rw [frame, dataIs]
    simp only [List.append_assoc]
  have headerLength : (bigEndian 2 data.length ++ front).length = 2 + front.length := by
    simp
  rw [split, List.take_left' headerLength, List.drop_left' headerLength]
  -- the first read finds the prefix and `front`, and times out inside the payload
  have timedOut : ({ conn with inbound := bigEndian 2 data.length ++ front } : Conn).ReadBytesTimed
      = ({ conn with inbound := [] }, .error .messageTimeout) :=
    Conn.ReadBytesTimed_partial
      (show ({ conn with inbound := bigEndian 2 data.length ++ front } : Conn).closed = false
        from live)
      (by unfold maxUint16 at fits; omega) (by omega) rfl
  -- the second takes the start of `frame inner` for a frame
  have misread : ({ conn with inbound := frame inner ++ back ++ later } : Conn).ReadBytesTimed =
      ({ conn with inbound := back ++ later }, .ok inner) :=
    Conn.ReadBytesTimed_frame
      (show ({ conn with inbound := frame inner ++ back ++ later } : Conn).closed = false from live)
      (by omega) (List.append_assoc _ _ _)
  refine ⟨?_, fun same => ?_⟩
  · simp only [Conn.readRun, Conn.arrive, empty, List.nil_append]
    rw [timedOut]
    dsimp only
    rw [List.nil_append, misread]
  · have sameLength := congrArg List.length same
    rw [lengths] at sameLength
    omega

theorem read_timeout_misaligns_frames_example :
    ({} : Conn).readRun [.arrive [0, 4, 9], .read, .arrive [0, 1, 7], .read] =
      ({ inbound := [] }, [.error .messageTimeout, .ok [7]]) ∧ [7] ≠ ([9, 0, 1, 7] : Bytes) :=
  read_timeout_misaligns_frames rfl rfl [9] [7] [] [] (by decide)

end Kamune
