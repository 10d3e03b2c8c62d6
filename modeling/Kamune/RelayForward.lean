/-
**The relay's data plane (`cmd/relay/internal/services/hub.go`, `pkg/relayconn/conn.go`).**

Once two peers are paired, the relay runs `Hub.ReadPump` on the channel of each: it reads a frame
of the peer's TCP stream under `Framing`, opens it with the receiving HPKE context of its
`exchange.Channel` for that peer, unmarshals a `pb.Frame`, and forwards the data of a `Msg` to the
other member of the session, sealed under its sending context for that member; a `Ping` gets a
`Pong` back. Each peer's `RelayConn.readPump` reads its own stream the same way and pushes the
data of each `Msg` into its read buffer.

What the data plane is for is stated as queues (`Queues`): the messages of each peer wait in a
queue to the relay and, once forwarded, in a queue to the other peer. `DataPlane.Carries` relates
the byte streams and the HPKE contexts to the queues.

* `unmarshalFrame_messageField`, `unmarshalFrame_messageFrame`: a frame of one member unmarshals
  to it, a message frame to its `Msg`;
* `Channel.ReadBytes_WriteBytes`: a sealed frame reads back under the context paired with the
  sealer's;
* `DataPlane.Carries.step`: every write, relay turn and pump turn does to the bytes what the
  queue model's step does to the queues, and no pump meets an error that ends it;
* `Queues.Flow.step`: in the queue model, what a peer wrote is what the other peer's pump pushed,
  then what was forwarded to it, then what was not yet forwarded;
* `relay_delivers_in_order`: over every interleaving of writes and turns on a session of any
  reachable relay, the other peer's pump has pushed a prefix of what a peer wrote, no pump has
  stopped, and enough turns push the rest.
-/

import Kamune.Exchange
import Kamune.RelayPairing
import Kamune.RelayRead

namespace Kamune

open Wire

/-! ### `pb.Frame` -/

/-- The members of the `kind` oneof of `pb.Frame`. -/
inductive FrameKind where
  | register
  | registered
  | msg
  | ping
  | pong
  | auth
  deriving DecidableEq, Repr

/-- The member of each field number of the oneof. -/
def FrameKind.ofNumber : Nat → Option FrameKind
  | 1 => some .register
  | 2 => some .registered
  | 3 => some .msg
  | 4 => some .ping
  | 5 => some .pong
  | 6 => some .auth
  | _ => none

/-- One field of `proto.Unmarshal` into a `pb.Frame`. Every member of the oneof is a message: a
field of one whose payload parses sets `kind` to it, merged into what `kind` holds when it holds
that member already; a payload that does not parse fails; any other field is unknown and
skipped. -/
def frameStep (kind : Option (FrameKind × List Field)) (field : Field) :
    Option (Option (FrameKind × List Field)) :=
  match FrameKind.ofNumber field.number, field.value with
  | some member, .bytes payload =>
    (parseFields payload).map fun parsed =>
      match kind with
      | some (current, fields) =>
        if current = member then some (member, fields ++ parsed) else some (member, parsed)
      | none => some (member, parsed)
  | _, _ => some kind

/-- `proto.Unmarshal(data, &frame)`: the member `frame.Kind` holds with the fields of its
message, `none` for a frame of no kind. -/
def unmarshalFrame (data : Bytes) : Option (Option (FrameKind × List Field)) :=
  (parseFields data).bind fun fields => fields.foldlM frameStep none

/-- `proto.Marshal(&pb.Frame{Kind: &pb.Frame_Pong{Pong: &pb.Pong{}}})`. -/
def pongFrame : Bytes := encodeFields (messageField 5 (some []))

theorem length_le_length_messageFrame (data : Bytes) :
    data.length ≤ (messageFrame data).length := by
  by_cases empty : data = []
  · simp [empty]
  · rw [messageFrame, length_encodeFields_messageField (by norm_num),
      length_encodeFields_bytesField (by norm_num), if_neg empty]
    omega

theorem FrameKind.bounds_of_ofNumber {number : Nat} {member : FrameKind}
    (named : FrameKind.ofNumber number = some member) : 1 ≤ number ∧ number ≤ 6 := by
  unfold FrameKind.ofNumber at named
  split at named <;> first | omega | cases named

/-- **A frame of one member unmarshals to that member**, with the fields of its message. -/
theorem unmarshalFrame_messageField {number : Nat} {member : FrameKind}
    (named : FrameKind.ofNumber number = some member) {fields : List Field}
    (well : ∀ field ∈ fields, field.WellFormed) (small : (encodeFields fields).length < 2 ^ 64) :
    unmarshalFrame (encodeFields (messageField number (some fields))) =
      some (some (member, fields)) := by
  have bounds := FrameKind.bounds_of_ofNumber named
  have outer : parseFields (encodeFields (messageField number (some fields))) =
      some [⟨number, .bytes (encodeFields fields)⟩] :=
    parseFields_encodeFields (messageField_wellFormed bounds.1 (by omega)
      (fun nested member => by cases member; exact small))
  simp [unmarshalFrame, outer, frameStep, named, parseFields_encodeFields well]

/-- **A message frame unmarshals to its `Msg`**, whose data is the data. -/
theorem unmarshalFrame_messageFrame {data : Bytes} (short : data.length ≤ maxUint16) :
    unmarshalFrame (messageFrame data) = some (some (.msg, bytesField 1 data)) := by
  unfold maxUint16 at short
  have small : data.length < 2 ^ 64 := by omega
  have nestedSmall : (encodeFields (bytesField 1 data)).length < 2 ^ 64 := by
    have bound := length_uvarint_le_ten small
    rw [length_encodeFields_bytesField (by norm_num)]
    split <;> omega
  exact unmarshalFrame_messageField rfl (bytesField_wellFormed (by norm_num) (by norm_num) small)
    nestedSmall

@[simp] theorem lastBytes_bytesField_self (number : Nat) (payload : Bytes) :
    lastBytes number (bytesField number payload) = payload := by
  rw [lastBytes_eq, payloads_bytesField_self, getLast_payload]

/-! ### The channel over `Framing` -/

/-- The errors of `Channel.ReadBytes` over `Framing`, by their texts. -/
inductive RelayChannelError where
  /-- `"read encrypted: %w"`. -/
  | readEncrypted (err : FramingError)
  /-- `"decrypting: %w"`. -/
  | decrypting
  deriving DecidableEq, Repr

/-- A read that ran out of bytes. On a live connection `io.ReadFull` waits for more there; any
other error ends the pump. -/
def RelayChannelError.waits : RelayChannelError → Bool
  | .readEncrypted .readLength => true
  | .readEncrypted .readData => true
  | _ => false

variable (crypto : Primitives)

/-- `Channel.ReadBytes` over the `Framing` of a TCP or TLS relay connection bounded by `maxSize`:
a frame of the bytes still to come, opened with the receiving context. -/
def Channel.ReadBytes (maxSize : Nat) (recipient : Channel) (stream : Bytes) :
    Except RelayChannelError (Channel × Bytes × Bytes) :=
  match Framing.ReadBytes maxSize stream with
  | .error err => .error (.readEncrypted err)
  | .ok (encrypted, rest) =>
    match recipient.Open crypto encrypted with
    | none => .error .decrypting
    | some (recipient, data) => .ok (recipient, data, rest)

/-- A message that fits: its message frame, sealed, fits one frame of `Framing` and the relay's
bound. -/
def MessageFits (maxSize : Nat) (data : Bytes) : Prop :=
  (messageFrame data).length + 16 ≤ maxUint16 ∧
    (maxSize = 0 ∨ (messageFrame data).length + 16 ≤ maxSize)

instance (maxSize : Nat) (data : Bytes) : Decidable (MessageFits maxSize data) :=
  inferInstanceAs (Decidable (_ ∧ _))

@[simp] theorem Channel.WriteBytes_fst (context : Channel) (data : Bytes) :
    (context.WriteBytes crypto data).1 = context.advance 1 := rfl

section ReadBack

variable {crypto} (lawful : crypto.Lawful)
include lawful

/-- **A sealed frame reads back** under the context the sealer's is paired with, within the
reader's bound. -/
theorem Channel.ReadBytes_WriteBytes (context : Channel) {data : Bytes}
    (fits : data.length + 16 ≤ maxUint16) {maxSize : Nat}
    (bounded : maxSize = 0 ∨ data.length + 16 ≤ maxSize) (rest : Bytes) :
    Channel.ReadBytes crypto maxSize context ((context.WriteBytes crypto data).2 ++ rest) =
      .ok (context.advance 1, data, rest) := by
  have sealedLength : (context.Seal crypto data).2.length = data.length + 16 :=
    lawful.length_aeadSeal _ _ _
  have read := Framing.ReadBytes_WriteBytes (sealedLength ▸ fits) (sealedLength ▸ bounded) rest
  unfold Channel.ReadBytes Channel.WriteBytes
  simp only
  rw [read]
  simp only
  rw [Channel.Open_Seal lawful]
  rfl

omit lawful in
theorem Channel.ReadBytes_nil (maxSize : Nat) (context : Channel) :
    Channel.ReadBytes crypto maxSize context [] = .error (.readEncrypted .readLength) := rfl

end ReadBack

/-! ### A relay connection and its two pumps -/

/-- A relay connection: the peer's and the relay's `exchange.Channel` on it, and the bytes in
flight each way on its TCP stream. -/
structure Link where
  peer : ExchangeChannel
  relay : ExchangeChannel
  toRelay : Bytes
  toPeer : Bytes

/-- The peer writes `data` to the relay through its channel. -/
def Link.peerWrite (link : Link) (data : Bytes) : Link :=
  let (sender, written) := link.peer.sender.WriteBytes crypto data
  { link with peer := { link.peer with sender := sender }, toRelay := link.toRelay ++ written }

/-- The relay writes `data` to the peer through its channel. -/
def Link.relayWrite (link : Link) (data : Bytes) : Link :=
  let (sender, written) := link.relay.sender.WriteBytes crypto data
  { link with relay := { link.relay with sender := sender }, toPeer := link.toPeer ++ written }

/-- The relay has read a frame: its receiving context is now `recipient`, `rest` still to come. -/
def Link.relayReceived (link : Link) (recipient : Channel) (rest : Bytes) : Link :=
  { link with relay := { link.relay with recipient := recipient }, toRelay := rest }

/-- The peer has read a frame. -/
def Link.peerReceived (link : Link) (recipient : Channel) (rest : Bytes) : Link :=
  { link with peer := { link.peer with recipient := recipient }, toPeer := rest }

variable {Chan : Type} [DecidableEq Chan]

/-- `Hub.handleMessage`: the data as a message frame to the other member of the sender's
session, nothing when `Recipient` fails. -/
def Hub.handleMessage (sm : SessionManager Chan) (token : Bytes) (sender : Chan) (data : Bytes)
    (links : Chan → Link) : Chan → Link :=
  match sm.Recipient token sender with
  | .ok recipient =>
    Function.update links recipient ((links recipient).relayWrite crypto (messageFrame data))
  | .error _ => links

/-- `Hub.handlePing`: a pong back on the channel. -/
def Hub.handlePing (ch : Chan) (links : Chan → Link) : Chan → Link :=
  Function.update links ch ((links ch).relayWrite crypto pongFrame)

/-- One turn of the loop of `Hub.ReadPump` on `ch` under `token`: the links after it, or the
error of `ReadBytes`, on which the pump returns. A frame that does not unmarshal is skipped, as is
one of a kind other than `Msg` and `Ping`. -/
def Hub.ReadPump (maxSize : Nat) (sm : SessionManager Chan) (token : Bytes) (ch : Chan)
    (links : Chan → Link) : Except RelayChannelError (Chan → Link) :=
  match Channel.ReadBytes crypto maxSize (links ch).relay.recipient (links ch).toRelay with
  | .error err => .error err
  | .ok (recipient, data, rest) =>
    let links := Function.update links ch ((links ch).relayReceived recipient rest)
    match unmarshalFrame data with
    | some (some (.msg, fields)) =>
      .ok (Hub.handleMessage crypto sm token ch (lastBytes 1 fields) links)
    | some (some (.ping, _)) => .ok (Hub.handlePing crypto ch links)
    | _ => .ok links

/-- One turn of the loop of `RelayConn.readPump`: the link after it and what it pushes, or the
error of `ReadBytes`, on which the pump returns. The data of a `Msg` is pushed, a `Ping` is
answered with a pong, anything else is skipped. -/
def RelayConn.readPump (link : Link) : Except RelayChannelError (Link × PumpInput) :=
  match Channel.ReadBytes crypto DefaultMaxFrameSize link.peer.recipient link.toPeer with
  | .error err => .error err
  | .ok (recipient, data, rest) =>
    let link := link.peerReceived recipient rest
    match unmarshalFrame data with
    | some (some (.msg, fields)) => .ok (link, .msg (lastBytes 1 fields))
    | some (some (.ping, _)) => .ok (link.peerWrite crypto pongFrame, .other)
    | _ => .ok (link, .other)

/-! ### The data plane -/

/-- What can happen on the data plane of the relay. -/
inductive DataEvent (Chan : Type) where
  /-- The peer on `ch` calls `RelayConn.WriteBytes`. -/
  | send (ch : Chan) (data : Bytes)
  /-- A turn of the relay's `ReadPump` on `ch`. -/
  | forward (ch : Chan)
  /-- A turn of the peer's `readPump` on `ch`. -/
  | pump (ch : Chan)
  deriving DecidableEq, Repr

/-- An event whose write fits. -/
def DataEvent.Fits (maxSize : Nat) : DataEvent Chan → Prop
  | .send _ data => MessageFits maxSize data
  | _ => True

instance (maxSize : Nat) : (event : DataEvent Chan) → Decidable (event.Fits maxSize)
  | .send _ data => inferInstanceAs (Decidable (MessageFits maxSize data))
  | .forward _ => isTrue trivial
  | .pump _ => isTrue trivial

/-- The data plane over a relay whose sessions are set: the link of each connection, what each
peer has written and its pump has pushed, and the relay's and the peers' pumps that have
returned. -/
structure DataPlane (Chan : Type) where
  links : Chan → Link
  written : Chan → List Bytes
  pushed : Chan → List PumpInput
  relayStopped : List Chan
  peerStopped : List Chan

/-- The data plane as the handlers start their pumps: each connection with the two channels of
its exchange and nothing in flight. -/
def DataPlane.initial (peers relays : Chan → ExchangeChannel) : DataPlane Chan where
  links c := ⟨peers c, relays c, [], []⟩
  written _ := []
  pushed _ := []
  relayStopped := []
  peerStopped := []

/-- One event. `RelayConn.WriteBytes` is the data as a message frame through the peer's channel;
a turn of a pump that has returned does nothing, and a read that runs out of bytes waits. -/
def DataPlane.step (maxSize : Nat) (r : Relay Chan) (d : DataPlane Chan) :
    DataEvent Chan → DataPlane Chan
  | .send ch data =>
    { d with links := Function.update d.links ch ((d.links ch).peerWrite crypto (messageFrame data))
             written := Function.update d.written ch (d.written ch ++ [data]) }
  | .forward ch =>
    match r.phase ch with
    | .pumping token =>
      if ch ∈ d.relayStopped then d
      else
        match Hub.ReadPump crypto maxSize r.manager token ch d.links with
        | .ok links => { d with links := links }
        | .error err => if err.waits then d else { d with relayStopped := d.relayStopped ++ [ch] }
    | _ => d
  | .pump ch =>
    if ch ∈ d.peerStopped then d
    else
      match RelayConn.readPump crypto (d.links ch) with
      | .ok (link, input) =>
        { d with links := Function.update d.links ch link
                 pushed := Function.update d.pushed ch (d.pushed ch ++ [input]) }
      | .error err => if err.waits then d else { d with peerStopped := d.peerStopped ++ [ch] }

/-- A run of events. -/
def DataPlane.run (maxSize : Nat) (r : Relay Chan) (d : DataPlane Chan)
    (events : List (DataEvent Chan)) : DataPlane Chan :=
  events.foldl (DataPlane.step crypto maxSize r) d

@[simp] theorem messagePayloads_nil : messagePayloads [] = [] := rfl

/-! ### The queues -/

/-- What the data plane is for: queues of messages. `up c` holds what the peer on `c` wrote and
the relay has not read, `down c` what the relay forwarded to it and its pump has not read. -/
structure Queues (Chan : Type) where
  up : Chan → List Bytes
  down : Chan → List Bytes
  written : Chan → List Bytes
  pushed : Chan → List PumpInput

/-- No message anywhere. -/
def Queues.empty : Queues Chan := ⟨fun _ => [], fun _ => [], fun _ => [], fun _ => []⟩

/-- One event on the queues: a write joins the writer's queue to the relay; a turn of the relay
moves the first message of that queue to the recipient's queue, or drops it when `Recipient`
fails; a turn of a pump pushes the first message of its queue. -/
def Queues.step (r : Relay Chan) (q : Queues Chan) : DataEvent Chan → Queues Chan
  | .send ch data =>
    { q with up := Function.update q.up ch (q.up ch ++ [data])
             written := Function.update q.written ch (q.written ch ++ [data]) }
  | .forward ch =>
    match r.phase ch, q.up ch with
    | .pumping token, data :: rest =>
      let q := { q with up := Function.update q.up ch rest }
      match r.manager.Recipient token ch with
      | .ok recipient =>
        { q with down := Function.update q.down recipient (q.down recipient ++ [data]) }
      | .error _ => q
    | _, _ => q
  | .pump ch =>
    match q.down ch with
    | data :: rest =>
      { q with down := Function.update q.down ch rest
               pushed := Function.update q.pushed ch (q.pushed ch ++ [.msg data]) }
    | [] => q

/-- A run of events on the queues. -/
def Queues.run (r : Relay Chan) (q : Queues Chan) (events : List (DataEvent Chan)) :
    Queues Chan :=
  events.foldl (Queues.step r) q

/-- What the peer on `a` wrote is what the pump on `b` pushed, then what waits for that pump,
then what the relay has not read from `a`. -/
def Queues.Flow (a b : Chan) (q : Queues Chan) : Prop :=
  q.written a = messagePayloads (q.pushed b) ++ q.down b ++ q.up a

namespace Queues

variable {r : Relay Chan} {q : Queues Chan}

@[simp] theorem run_nil : q.run r [] = q := rfl

@[simp] theorem run_cons (event : DataEvent Chan) (events : List (DataEvent Chan)) :
    q.run r (event :: events) = (q.step r event).run r events := rfl

theorem run_append (first second : List (DataEvent Chan)) :
    q.run r (first ++ second) = (q.run r first).run r second :=
  List.foldl_append

@[simp] theorem written_step_forward (ch : Chan) :
    (q.step r (.forward ch)).written = q.written := by
  simp only [Queues.step]
  split
  · split <;> rfl
  · rfl

@[simp] theorem written_step_pump (ch : Chan) : (q.step r (.pump ch)).written = q.written := by
  simp only [Queues.step]
  split <;> rfl

@[simp] theorem up_step_pump (ch : Chan) : (q.step r (.pump ch)).up = q.up := by
  simp only [Queues.step]
  split <;> rfl

theorem up_step_forward {ch : Chan} {token : Bytes} (pumping : r.phase ch = .pumping token) :
    (q.step r (.forward ch)).up ch = (q.up ch).tail := by
  cases waiting : q.up ch with
  | nil => simp [Queues.step, waiting]
  | cons data rest =>
    simp only [Queues.step, pumping, waiting]
    split <;> simp

theorem down_step_pump (ch : Chan) : (q.step r (.pump ch)).down ch = (q.down ch).tail := by
  cases waiting : q.down ch <;> simp [Queues.step, waiting]

/-- `n` turns of the relay on `ch` take the first `n` messages of its queue. -/
theorem run_forwards {ch : Chan} {token : Bytes} (pumping : r.phase ch = .pumping token) :
    ∀ (n : Nat) (q : Queues Chan), (q.run r (List.replicate n (.forward ch))).up ch =
      (q.up ch).drop n ∧ (q.run r (List.replicate n (.forward ch))).written = q.written
  | 0, _ => ⟨rfl, rfl⟩
  | n + 1, q => by
    obtain ⟨up, written⟩ := run_forwards pumping n (q.step r (.forward ch))
    rw [List.replicate_succ, run_cons, up, written, up_step_forward pumping, List.drop_tail,
      Nat.add_comm]
    exact ⟨rfl, written_step_forward ch⟩

/-- `n` turns of the pump on `ch` push the first `n` messages of its queue. -/
theorem run_pumps (ch : Chan) :
    ∀ (n : Nat) (q : Queues Chan), (q.run r (List.replicate n (.pump ch))).down ch =
      (q.down ch).drop n ∧ (q.run r (List.replicate n (.pump ch))).up = q.up ∧
      (q.run r (List.replicate n (.pump ch))).written = q.written
  | 0, _ => ⟨rfl, rfl, rfl⟩
  | n + 1, q => by
    obtain ⟨down, up, written⟩ := run_pumps ch n (q.step r (.pump ch))
    rw [List.replicate_succ, run_cons, down, up, written, down_step_pump, List.drop_tail,
      Nat.add_comm]
    exact ⟨rfl, up_step_pump ch, written_step_pump ch⟩

end Queues

/-! ### The flow of one session -/

section Flow

variable {r : Relay Chan} {a b : Chan} {token : Bytes}
  (pumping : r.phase a = .pumping token) (route : r.manager.Recipient token a = .ok b)
  (only : ∀ c t, r.manager.Recipient t c = .ok b → c = a) (distinct : a ≠ b)
include pumping route only distinct

/-- **Every event keeps the flow** from `a` to `b`, when the relay forwards `a` under its
token to `b` and nothing else to `b`. -/
theorem Queues.Flow.step {q : Queues Chan} (flow : q.Flow a b) (event : DataEvent Chan) :
    (q.step r event).Flow a b := by
  unfold Queues.Flow at flow ⊢
  cases event with
  | send ch data =>
    by_cases same : ch = a
    · subst same
      simp [Queues.step, flow]
    · simp [Queues.step, Function.update_of_ne (Ne.symm same), flow]
  | forward ch =>
    simp only [Queues.step]
    split
    case h_1 t data rest phase waiting =>
      split
      case h_1 recipient forwarded =>
        by_cases same : ch = a
        · subst same
          rw [pumping, Phase.pumping.injEq] at phase
          subst phase
          rw [route, Except.ok.injEq] at forwarded
          subst forwarded
          simp [flow, waiting]
        · have other : recipient ≠ b := fun toB => same (only ch t (toB ▸ forwarded))
          simp [Function.update_of_ne (Ne.symm same), Function.update_of_ne (Ne.symm other), flow]
      case h_2 err failed =>
        by_cases same : ch = a
        · subst same
          rw [pumping, Phase.pumping.injEq] at phase
          subst phase
          rw [route] at failed
          cases failed
        · simp [Function.update_of_ne (Ne.symm same), flow]
    case h_2 => exact flow
  | pump ch =>
    simp only [Queues.step]
    split
    case h_1 data rest waiting =>
      by_cases same : ch = b
      · subst same
        simp [flow, waiting]
      · simp [Function.update_of_ne (Ne.symm same), flow]
    case h_2 => exact flow

theorem Queues.Flow.run {q : Queues Chan} (flow : q.Flow a b) :
    ∀ events : List (DataEvent Chan), (q.run r events).Flow a b
  | [] => flow
  | event :: events =>
    Queues.Flow.run (flow.step pumping route only distinct event) events

/-- **Turns enough push everything**: after as many turns of the relay on `a`, then of the pump
on `b`, as `a` has written messages, the pump on `b` has pushed all of them. -/
theorem Queues.Flow.drain {q : Queues Chan} (flow : q.Flow a b) :
    messagePayloads ((q.run r (List.replicate (q.written a).length (.forward a) ++
      List.replicate (q.written a).length (.pump b))).pushed b) = q.written a := by
  rw [Queues.run_append]
  obtain ⟨upForwarded, writtenForwarded⟩ := Queues.run_forwards pumping (q.written a).length q
  have flowForwarded :=
    flow.run pumping route only distinct (List.replicate (q.written a).length (.forward a))
  generalize q.run r (List.replicate (q.written a).length (.forward a)) = forwarded
    at upForwarded writtenForwarded flowForwarded ⊢
  obtain ⟨downPumped, upPumped, writtenPumped⟩ := Queues.run_pumps b (q.written a).length forwarded
  have flowPumped :=
    flowForwarded.run pumping route only distinct (List.replicate (q.written a).length (.pump b))
  generalize forwarded.run r (List.replicate (q.written a).length (.pump b)) = pumped
    at downPumped upPumped writtenPumped flowPumped ⊢
  unfold Queues.Flow at flow flowForwarded flowPumped
  -- what waits on either side of the relay is never more than what `a` wrote
  have upEmpty : forwarded.up a = [] := by
    rw [upForwarded, List.drop_eq_nil_iff]
    have lengths := congrArg List.length flow
    simp only [List.length_append] at lengths
    omega
  have downEmpty : pumped.down b = [] := by
    rw [downPumped, List.drop_eq_nil_iff]
    have lengths := congrArg List.length flowForwarded
    rw [writtenForwarded] at lengths
    simp only [List.length_append] at lengths
    omega
  rw [writtenPumped, writtenForwarded, downEmpty, upPumped, upEmpty, List.append_nil,
    List.append_nil] at flowPumped
  exact flowPumped.symm

end Flow

/-! ### The bytes carry the queues -/

/-- The bytes a context writes for a run of messages, each as a message frame. -/
def sealedFrames (context : Channel) : List Bytes → Bytes
  | [] => []
  | data :: rest =>
    (context.WriteBytes crypto (messageFrame data)).2 ++ sealedFrames (context.advance 1) rest

/-- A link carries the queues `up` and `down`: each of its streams is the run of sealed message
frames of its queue under the context that opens it, and each sending context is as many
messages ahead. -/
structure Link.Carries (link : Link) (up down : List Bytes) : Prop where
  toRelay : link.toRelay = sealedFrames crypto link.relay.recipient up
  peerSender : link.peer.sender = link.relay.recipient.advance up.length
  toPeer : link.toPeer = sealedFrames crypto link.peer.recipient down
  relaySender : link.relay.sender = link.peer.recipient.advance down.length

/-- The data plane carries the queues: every link carries its two, every message in flight fits,
the histories are the queues', and no pump has returned. -/
structure DataPlane.Carries (maxSize : Nat) (d : DataPlane Chan) (q : Queues Chan) : Prop where
  links : ∀ c, (d.links c).Carries crypto (q.up c) (q.down c)
  fitsUp : ∀ c, ∀ data ∈ q.up c, MessageFits maxSize data
  fitsDown : ∀ c, ∀ data ∈ q.down c, MessageFits maxSize data
  written : d.written = q.written
  pushed : d.pushed = q.pushed
  relayStopped : d.relayStopped = []
  peerStopped : d.peerStopped = []

section Carrying

variable {crypto}

theorem sealedFrames_append (data : Bytes) :
    ∀ (context : Channel) (messages : List Bytes),
      sealedFrames crypto context (messages ++ [data]) =
      sealedFrames crypto context messages ++
        ((context.advance messages.length).WriteBytes crypto (messageFrame data)).2
  | context, [] => by simp [sealedFrames]
  | context, first :: rest => by
    simp [sealedFrames, sealedFrames_append data (context.advance 1) rest, Nat.add_comm]

variable {link : Link} {up down : List Bytes}

@[simp] theorem Link.peerWrite_relay (data : Bytes) :
    (link.peerWrite crypto data).relay = link.relay := rfl

@[simp] theorem Link.peerWrite_toPeer (data : Bytes) :
    (link.peerWrite crypto data).toPeer = link.toPeer := rfl

@[simp] theorem Link.peerWrite_peer_recipient (data : Bytes) :
    (link.peerWrite crypto data).peer.recipient = link.peer.recipient := rfl

@[simp] theorem Link.relayWrite_peer (data : Bytes) :
    (link.relayWrite crypto data).peer = link.peer := rfl

@[simp] theorem Link.relayWrite_toRelay (data : Bytes) :
    (link.relayWrite crypto data).toRelay = link.toRelay := rfl

@[simp] theorem Link.relayWrite_relay_recipient (data : Bytes) :
    (link.relayWrite crypto data).relay.recipient = link.relay.recipient := rfl

theorem Link.Carries.peerWrite (carries : link.Carries crypto up down) (data : Bytes) :
    (link.peerWrite crypto (messageFrame data)).Carries crypto (up ++ [data]) down where
  toRelay := by
    rw [Link.peerWrite_relay, sealedFrames_append, ← carries.peerSender, ← carries.toRelay]
    rfl
  peerSender := by
    show link.peer.sender.advance 1 = _
    rw [carries.peerSender, Channel.advance_advance, Link.peerWrite_relay, List.length_append,
      List.length_singleton]
  toPeer := by simpa using carries.toPeer
  relaySender := by simpa using carries.relaySender

theorem Link.Carries.relayWrite (carries : link.Carries crypto up down) (data : Bytes) :
    (link.relayWrite crypto (messageFrame data)).Carries crypto up (down ++ [data]) where
  toRelay := by simpa using carries.toRelay
  peerSender := by simpa using carries.peerSender
  toPeer := by
    rw [Link.relayWrite_peer, sealedFrames_append, ← carries.relaySender, ← carries.toPeer]
    rfl
  relaySender := by
    show link.relay.sender.advance 1 = _
    rw [carries.relaySender, Channel.advance_advance, Link.relayWrite_peer, List.length_append,
      List.length_singleton]

theorem Link.Carries.relayReceived {data : Bytes} {rest : List Bytes}
    (carries : link.Carries crypto (data :: rest) down) :
    (link.relayReceived (link.relay.recipient.advance 1)
      (sealedFrames crypto (link.relay.recipient.advance 1) rest)).Carries crypto rest down where
  toRelay := rfl
  peerSender := by
    simp [Link.relayReceived, carries.peerSender, Nat.add_comm]
  toPeer := carries.toPeer
  relaySender := carries.relaySender

theorem Link.Carries.peerReceived {data : Bytes} {rest : List Bytes}
    (carries : link.Carries crypto up (data :: rest)) :
    (link.peerReceived (link.peer.recipient.advance 1)
      (sealedFrames crypto (link.peer.recipient.advance 1) rest)).Carries crypto up rest where
  toRelay := carries.toRelay
  peerSender := carries.peerSender
  toPeer := rfl
  relaySender := by
    simp [Link.peerReceived, carries.relaySender, Nat.add_comm]

/-- Links that carry their queues, one of them replaced by a link that carries new ones. -/
theorem Link.Carries.update {links : Chan → Link} {ups downs : Chan → List Bytes}
    (carry : ∀ c, (links c).Carries crypto (ups c) (downs c)) (ch : Chan) {link : Link}
    {up down : List Bytes} (carries : link.Carries crypto up down) :
    ∀ c, (Function.update links ch link c).Carries crypto (Function.update ups ch up c)
      (Function.update downs ch down c) := by
  intro c
  by_cases same : c = ch
  · subst same
    simpa using carries
  · simpa [Function.update_of_ne same] using carry c

end Carrying

/-! ### The turns of the pumps on carried bytes -/

theorem MessageFits.short {maxSize : Nat} {data : Bytes} (fits : MessageFits maxSize data) :
    data.length ≤ maxUint16 :=
  (length_le_length_messageFrame data).trans (by have := fits.1; omega)

section Turns

variable {crypto} (lawful : crypto.Lawful)
include lawful

variable {link : Link} {up down : List Bytes} {data : Bytes} {rest : List Bytes}

omit lawful in
theorem Hub.ReadPump_nil {maxSize : Nat} {sm : SessionManager Chan} {token : Bytes} {ch : Chan}
    {links : Chan → Link} (carries : (links ch).Carries crypto [] down) :
    Hub.ReadPump crypto maxSize sm token ch links = .error (.readEncrypted .readLength) := by
  rw [Hub.ReadPump, carries.toRelay, sealedFrames, Channel.ReadBytes_nil]

/-- A turn of the relay on carried bytes forwards the first message of the queue. -/
theorem Hub.ReadPump_cons {maxSize : Nat} {sm : SessionManager Chan} {token : Bytes} {ch : Chan}
    {links : Chan → Link} (carries : (links ch).Carries crypto (data :: rest) down)
    (fits : MessageFits maxSize data) :
    Hub.ReadPump crypto maxSize sm token ch links =
      .ok (Hub.handleMessage crypto sm token ch data (Function.update links ch
        ((links ch).relayReceived ((links ch).relay.recipient.advance 1)
          (sealedFrames crypto ((links ch).relay.recipient.advance 1) rest)))) := by
  have read : Channel.ReadBytes crypto maxSize (links ch).relay.recipient (links ch).toRelay =
      .ok ((links ch).relay.recipient.advance 1, messageFrame data,
        sealedFrames crypto ((links ch).relay.recipient.advance 1) rest) := by
    rw [carries.toRelay, sealedFrames]
    exact Channel.ReadBytes_WriteBytes lawful _ fits.1 fits.2 _
  rw [Hub.ReadPump, read]
  simp only
  rw [unmarshalFrame_messageFrame fits.short]
  simp only [lastBytes_bytesField_self]

omit lawful in
theorem RelayConn.readPump_nil (carries : link.Carries crypto up []) :
    RelayConn.readPump crypto link = .error (.readEncrypted .readLength) := by
  rw [RelayConn.readPump, carries.toPeer, sealedFrames, Channel.ReadBytes_nil]

/-- A turn of a peer's pump on carried bytes pushes the first message of its queue. -/
theorem RelayConn.readPump_cons {maxSize : Nat} (carries : link.Carries crypto up (data :: rest))
    (fits : MessageFits maxSize data) :
    RelayConn.readPump crypto link =
      .ok (link.peerReceived (link.peer.recipient.advance 1)
        (sealedFrames crypto (link.peer.recipient.advance 1) rest), .msg data) := by
  have read : Channel.ReadBytes crypto DefaultMaxFrameSize link.peer.recipient link.toPeer =
      .ok (link.peer.recipient.advance 1, messageFrame data,
        sealedFrames crypto (link.peer.recipient.advance 1) rest) := by
    rw [carries.toPeer, sealedFrames]
    refine Channel.ReadBytes_WriteBytes lawful _ fits.1 (.inr ?_) _
    have := fits.1
    unfold maxUint16 at this
    unfold DefaultMaxFrameSize
    omega
  rw [RelayConn.readPump, read]
  simp only
  rw [unmarshalFrame_messageFrame fits.short]
  simp only [lastBytes_bytesField_self]

end Turns

/-! ### Every step keeps the queues carried -/

theorem forall_mem_update {α : Type} {P : α → Prop} {lists : Chan → List α}
    (all : ∀ c, ∀ x ∈ lists c, P x) {ch : Chan} {list : List α} (each : ∀ x ∈ list, P x) :
    ∀ c, ∀ x ∈ Function.update lists ch list c, P x := by
  intro c
  by_cases same : c = ch
  · subst same
    simpa using each
  · simpa [Function.update_of_ne same] using all c

section Steps

variable {crypto} (lawful : crypto.Lawful)
include lawful

variable {maxSize : Nat} {r : Relay Chan} {d : DataPlane Chan} {q : Queues Chan}

omit lawful in
theorem DataPlane.Carries.step_send (carries : d.Carries crypto maxSize q) {ch : Chan}
    {data : Bytes} (fits : MessageFits maxSize data) :
    (d.step crypto maxSize r (.send ch data)).Carries crypto maxSize
      (q.step r (.send ch data)) := by
  have wrote := Link.Carries.update carries.links ch ((carries.links ch).peerWrite data)
  rw [Function.update_eq_self] at wrote
  refine ⟨wrote, forall_mem_update carries.fitsUp ?_, carries.fitsDown, ?_, carries.pushed,
    carries.relayStopped, carries.peerStopped⟩
  · intro x member
    rcases List.mem_append.mp member with old | added
    · exact carries.fitsUp ch x old
    · rw [List.mem_singleton.mp added]
      exact fits
  · simp [DataPlane.step, Queues.step, carries.written]

theorem DataPlane.Carries.step_forward (carries : d.Carries crypto maxSize q) (ch : Chan) :
    (d.step crypto maxSize r (.forward ch)).Carries crypto maxSize (q.step r (.forward ch)) := by
  cases phase : r.phase ch
  case pumping token =>
    have running : ch ∉ d.relayStopped := by simp [carries.relayStopped]
    cases waiting : q.up ch with
    | nil =>
      have idle : (d.links ch).Carries crypto [] (q.down ch) := waiting ▸ carries.links ch
      simpa [DataPlane.step, Queues.step, phase, waiting, running, Hub.ReadPump_nil idle,
        RelayChannelError.waits] using carries
    | cons data rest =>
      have busy : (d.links ch).Carries crypto (data :: rest) (q.down ch) :=
        waiting ▸ carries.links ch
      have fits := carries.fitsUp ch data (by simp [waiting])
      have read := Link.Carries.update carries.links ch busy.relayReceived
      rw [Function.update_eq_self] at read
      have fitsRest : ∀ c, ∀ x ∈ Function.update q.up ch rest c, MessageFits maxSize x :=
        forall_mem_update carries.fitsUp fun x member =>
          carries.fitsUp ch x (by simp [waiting, member])
      simp only [DataPlane.step, Queues.step, phase, waiting, if_neg running,
        Hub.ReadPump_cons lawful busy fits]
      -- the frame read, the relay hands the message to `Recipient`
      cases forwarded : r.manager.Recipient token ch with
      | error err =>
        simp only [Hub.handleMessage, forwarded]
        exact ⟨read, fitsRest, carries.fitsDown, carries.written, carries.pushed,
          carries.relayStopped, carries.peerStopped⟩
      | ok recipient =>
        simp only [Hub.handleMessage, forwarded]
        have wrote := Link.Carries.update read recipient ((read recipient).relayWrite data)
        rw [Function.update_eq_self] at wrote
        refine ⟨wrote, fitsRest, forall_mem_update carries.fitsDown ?_, carries.written,
          carries.pushed, carries.relayStopped, carries.peerStopped⟩
        intro x member
        rcases List.mem_append.mp member with old | added
        · exact carries.fitsDown recipient x old
        · rw [List.mem_singleton.mp added]
          exact fits
  all_goals simpa [DataPlane.step, Queues.step, phase] using carries

theorem DataPlane.Carries.step_pump (carries : d.Carries crypto maxSize q) (ch : Chan) :
    (d.step crypto maxSize r (.pump ch)).Carries crypto maxSize (q.step r (.pump ch)) := by
  have running : ch ∉ d.peerStopped := by simp [carries.peerStopped]
  cases waiting : q.down ch with
  | nil =>
    have idle : (d.links ch).Carries crypto (q.up ch) [] := waiting ▸ carries.links ch
    simpa [DataPlane.step, Queues.step, waiting, running, RelayConn.readPump_nil idle,
      RelayChannelError.waits] using carries
  | cons data rest =>
    have busy : (d.links ch).Carries crypto (q.up ch) (data :: rest) := waiting ▸ carries.links ch
    have fits := carries.fitsDown ch data (by simp [waiting])
    have read := Link.Carries.update carries.links ch busy.peerReceived
    rw [Function.update_eq_self] at read
    simp only [DataPlane.step, Queues.step, waiting, if_neg running,
      RelayConn.readPump_cons lawful busy fits]
    refine ⟨read, carries.fitsUp, forall_mem_update carries.fitsDown fun x member =>
      carries.fitsDown ch x (by simp [waiting, member]), carries.written, ?_,
      carries.relayStopped, carries.peerStopped⟩
    simp only [carries.pushed]

/-- **Every step keeps the queues carried**: a write, a turn of the relay and a turn of a pump
each do to the bytes and the contexts what the queue model's step does to the queues, and no
pump meets an error that ends it. -/
theorem DataPlane.Carries.step (carries : d.Carries crypto maxSize q) {event : DataEvent Chan}
    (fits : event.Fits maxSize) :
    (d.step crypto maxSize r event).Carries crypto maxSize (q.step r event) := by
  cases event with
  | send ch data => exact carries.step_send fits
  | forward ch => exact carries.step_forward lawful ch
  | pump ch => exact carries.step_pump lawful ch

theorem DataPlane.Carries.run :
    ∀ {d : DataPlane Chan} {q : Queues Chan}, d.Carries crypto maxSize q →
      ∀ events : List (DataEvent Chan), (∀ event ∈ events, event.Fits maxSize) →
        (d.run crypto maxSize r events).Carries crypto maxSize (q.run r events)
  | _, _, carries, [], _ => carries
  | _, _, carries, event :: events, fits =>
    DataPlane.Carries.run (carries.step lawful (fits event List.mem_cons_self)) events
      fun event member => fits event (List.mem_cons_of_mem _ member)

omit lawful [DecidableEq Chan] in
/-- Before any event, the bytes carry empty queues. -/
theorem DataPlane.carries_initial {peers relays : Chan → ExchangeChannel}
    (exchanged : ∀ c, (peers c).sender = (relays c).recipient ∧
      (relays c).sender = (peers c).recipient) :
    (DataPlane.initial peers relays).Carries crypto maxSize Queues.empty where
  links c :=
    ⟨rfl, (exchanged c).1.trans (Channel.advance_zero _).symm, rfl,
      (exchanged c).2.trans (Channel.advance_zero _).symm⟩
  fitsUp _ _ member := by cases member
  fitsDown _ _ member := by cases member
  written := rfl
  pushed := rfl
  relayStopped := rfl
  peerStopped := rfl

end Steps

/-! ### Delivery -/

section Delivery

variable {crypto} (entropyAbove : Bytes → Bool)

/-- **The relay delivers in order, without loss or duplication.** Take a session of any reachable
relay in which the handler on `a` pumps under `token` and `Recipient` sends its messages to `b`,
connections that start from their HPKE exchanges, and any interleaving of writes that fit a
frame, turns of the relay and turns of the peers' pumps. Then the pump on `b` has pushed a
prefix of what `a` wrote, in order; no pump on either side has stopped; and as many turns of the
relay on `a`, then of the pump on `b`, as `a` has written messages push all of them. -/
theorem relay_delivers_in_order (lawful : crypto.Lawful) (maxSize ttl sessionTTL maxConns : Nat)
    (control : List (Event Chan)) {token : Bytes} {a b : Chan}
    (pumping : ((Relay.initial ttl sessionTTL maxConns : Relay Chan).run entropyAbove
      control).phase a = .pumping token)
    (route : ((Relay.initial ttl sessionTTL maxConns : Relay Chan).run entropyAbove
      control).manager.Recipient token a = .ok b)
    (peers relays : Chan → ExchangeChannel)
    (exchanged : ∀ c, (peers c).sender = (relays c).recipient ∧
      (relays c).sender = (peers c).recipient)
    (events : List (DataEvent Chan)) (fits : ∀ event ∈ events, event.Fits maxSize) :
    let r := (Relay.initial ttl sessionTTL maxConns : Relay Chan).run entropyAbove control
    let d := (DataPlane.initial peers relays).run crypto maxSize r events
    messagePayloads (d.pushed b) <+: d.written a ∧ d.relayStopped = [] ∧ d.peerStopped = [] ∧
      messagePayloads ((d.run crypto maxSize r (List.replicate (d.written a).length (.forward a) ++
        List.replicate (d.written a).length (.pump b))).pushed b) = d.written a := by
  intro r d
  -- the pairing invariant of the control plane: `a` alone sends to `b`
  have paired :=
    Relay.run_paired entropyAbove (Relay.initial_paired ttl sessionTTL maxConns) control
  obtain ⟨distinct, back⟩ := paired.Recipient_symm route
  have only : ∀ c t, r.manager.Recipient t c = .ok b → c = a := fun c t forwarded =>
    (paired.Recipient_unique back (paired.Recipient_symm forwarded).2).2
  have carries : d.Carries crypto maxSize (Queues.empty.run r events) :=
    (DataPlane.carries_initial exchanged).run lawful events fits
  have flow : (Queues.empty.run r events).Flow a b :=
    Queues.Flow.run pumping route only distinct.symm (rfl : (Queues.empty : Queues Chan).Flow a b)
      events
  have drainFits : ∀ event ∈ List.replicate (d.written a).length (DataEvent.forward a) ++
      List.replicate (d.written a).length (.pump b), event.Fits maxSize := by
    intro event member
    rcases List.mem_append.mp member with forward | pump
    · rw [List.eq_of_mem_replicate forward]
      trivial
    · rw [List.eq_of_mem_replicate pump]
      trivial
  have drained := (DataPlane.Carries.run lawful (r := r) carries _ drainFits).pushed
  refine ⟨?_, carries.relayStopped, carries.peerStopped, ?_⟩
  · rw [carries.pushed, carries.written, flow, List.append_assoc]
    exact List.prefix_append _ _
  · rw [drained, carries.written]
    exact flow.drain pumping route only distinct.symm

/-- Listener `1` and dialer `2` paired as in the control plane's example, plain primitives and
contexts, and `1` writing twice around one turn of the relay and one of the pump on `2`. -/
theorem relay_delivers_in_order_example :
    let token : Bytes := (List.range 32).map UInt8.ofNat
    let control : List (Event Nat) :=
      [.connect 1 (.create token), .register 1 0 [], .connect 2 (.join token), .register 2 1 []]
    let link : ExchangeChannel := ⟨⟨[], [], 0⟩, ⟨[], [], 0⟩⟩
    let r := (Relay.initial 10 100 8 : Relay Nat).run (fun _ => true) control
    let d := (DataPlane.initial (fun _ => link) (fun _ => link)).run Primitives.plain 0 r
      [.send 1 [7], .forward 1, .pump 2, .send 1 [8]]
    messagePayloads (d.pushed 2) <+: d.written 1 ∧ d.relayStopped = [] ∧ d.peerStopped = [] ∧
      messagePayloads ((d.run Primitives.plain 0 r
        (List.replicate (d.written 1).length (.forward 1) ++
          List.replicate (d.written 1).length (.pump 2))).pushed 2) = d.written 1 := by
  have pumping : ((Relay.initial 10 100 8 : Relay Nat).run (fun _ => true)
      [.connect 1 (.create ((List.range 32).map UInt8.ofNat)), .register 1 0 [],
        .connect 2 (.join ((List.range 32).map UInt8.ofNat)), .register 2 1 []]).phase 1 =
      .pumping ((List.range 32).map UInt8.ofNat) := by decide
  have route : ((Relay.initial 10 100 8 : Relay Nat).run (fun _ => true)
      [.connect 1 (.create ((List.range 32).map UInt8.ofNat)), .register 1 0 [],
        .connect 2 (.join ((List.range 32).map UInt8.ofNat)), .register 2 1 []]).manager.Recipient
      ((List.range 32).map UInt8.ofNat) 1 = .ok 2 := by decide
  have fits : ∀ event ∈ ([.send 1 [7], .forward 1, .pump 2, .send 1 [8]] : List (DataEvent Nat)),
      event.Fits 0 := by decide
  exact relay_delivers_in_order (fun _ => true) Primitives.plain_lawful 0 10 100 8 _ pumping route
    (fun _ => ⟨⟨[], [], 0⟩, ⟨[], [], 0⟩⟩) (fun _ => ⟨⟨[], [], 0⟩, ⟨[], [], 0⟩⟩)
    (fun _ => ⟨rfl, rfl⟩) _ fits

end Delivery

end Kamune
