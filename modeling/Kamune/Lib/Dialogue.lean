/-
**Two sequential programs talking over a pair of FIFO channels.**

A `Process` is a sequential program that only talks: it ends with a result, writes a message
and goes on, or waits for the next message and goes on with it. `Process.Runs p ins outs r` says
that `p`, given the messages `ins` in order, writes `outs` and ends with `r`. A `Network` is two
processes, each with a FIFO channel towards the other; `Network.Step` lets either of them take
its next step, so `Network.Reaches` covers every interleaving of the two. A process that has ended
has closed its end: a read that watches for the close (`Process.readOrClosed`) sees it once the
other side's channel is drained.

* `Process.Runs.bind`, `Process.Runs.of_bind`: a run of `p >>= f` is a run of `p`, then a run of
  `f` on its result; `Process.Runs.of_attempt`, `Process.Runs.of_seq`, `Process.Runs.of_mapError`:
  the same for programs that stop at their first error;
* `Network.runs_of_reaches`: **whatever the interleaving**, when both processes have ended,
  each ran on exactly the messages the other wrote, in order, less what is still in flight;
* `Network.traced_of_reaches`: the same for every reachable state, of the partial runs so far;
* `Network.reaches_runFor`: the run that lets the left process go first whenever it can is one
  of the interleavings.
-/

import Mathlib

namespace Dialogue

/-- A sequential program that sends and receives messages. -/
inductive Process (Message Result : Type) where
  /-- Ended with a result. -/
  | done (result : Result)
  /-- Writes a message, then goes on. -/
  | write (message : Message) (next : Process Message Result)
  /-- Waits for the next message, then goes on with it. -/
  | read (next : Message → Process Message Result)
  /-- Waits for the next message, or for the other side to close the connection. -/
  | readOrClosed (next : Message → Process Message Result) (closed : Process Message Result)

namespace Process

variable {Message α β ε : Type}

/-- Sequential composition. -/
def bind : Process Message α → (α → Process Message β) → Process Message β
  | done result, next => next result
  | write message rest, next => write message (rest.bind next)
  | read rest, next => read fun message => (rest message).bind next
  | readOrClosed rest closed, next =>
    readOrClosed (fun message => (rest message).bind next) (closed.bind next)

/-- The same program, its result passed through `f`. -/
def map (f : α → β) (program : Process Message α) : Process Message β :=
  program.bind fun result => done (f result)

/-- Go on with `next` after a success, stop at an error. -/
def attempt (result : Except ε α) (next : α → Process Message (Except ε β)) :
    Process Message (Except ε β) :=
  match result with
  | .ok value => next value
  | .error err => done (.error err)

/-- Go on with the value of `option`, stop with `err` where there is none. -/
def attemptSome (option : Option α) (err : ε) (next : α → Process Message (Except ε β)) :
    Process Message (Except ε β) :=
  match option with
  | some value => next value
  | none => done (.error err)

/-- Run `first`, then go on with `next` after its success; stop at the first error. -/
def seq (first : Process Message (Except ε α)) (next : α → Process Message (Except ε β)) :
    Process Message (Except ε β) :=
  first.bind fun result => attempt result next

/-- Write one message, successfully. -/
def send (message : Message) : Process Message (Except ε Unit) := write message (done (.ok ()))

/-- Wait for one message, successfully. -/
def receive : Process Message (Except ε Message) := read fun message => done (.ok message)

/-- The result of a program that has ended, if it has. -/
def outcome : Process Message α → Option α
  | done result => some result
  | _ => none

theorem eq_done_of_outcome {program : Process Message α} {result : α}
    (ended : program.outcome = some result) : program = done result := by
  cases program with
  | done value => cases ended; rfl
  | write => cases ended
  | read => cases ended
  | readOrClosed => cases ended

/-- A program whose result, seen through `f`, is known has ended with some result. -/
theorem exists_done_of_outcome_map {program : Process Message α} {f : α → β} {value : β}
    (ended : program.outcome.map f = some value) :
    ∃ result, f result = value ∧ program = done result := by
  cases program with
  | done result => exact ⟨result, Option.some.inj ended, rfl⟩
  | write => cases ended
  | read => cases ended
  | readOrClosed => cases ended

/-- A program, fed `ins` in order, writes `outs` and ends with `result`. -/
inductive Runs : Process Message α → List Message → List Message → α → Prop
  | done (result : α) : Runs (done result) [] [] result
  | write {message : Message} {rest : Process Message α} {ins outs : List Message} {result : α} :
      Runs rest ins outs result → Runs (write message rest) ins (message :: outs) result
  | read {rest : Message → Process Message α} {message : Message} {ins outs : List Message}
      {result : α} :
      Runs (rest message) ins outs result → Runs (read rest) (message :: ins) outs result
  | readOrClosed {rest : Message → Process Message α} {closed : Process Message α}
      {message : Message} {ins outs : List Message} {result : α} :
      Runs (rest message) ins outs result →
        Runs (readOrClosed rest closed) (message :: ins) outs result
  /-- The other side closes the connection instead. -/
  | close {rest : Message → Process Message α} {closed : Process Message α}
      {ins outs : List Message} {result : α} :
      Runs closed ins outs result → Runs (readOrClosed rest closed) ins outs result

theorem Runs.bind {first : Process Message α} {next : α → Process Message β}
    {ins₁ outs₁ ins₂ outs₂ : List Message} {value : α} {result : β}
    (ranFirst : Runs first ins₁ outs₁ value) (ranNext : Runs (next value) ins₂ outs₂ result) :
    Runs (first.bind next) (ins₁ ++ ins₂) (outs₁ ++ outs₂) result := by
  induction ranFirst with
  | done => exact ranNext
  | write _ ih => exact .write (ih ranNext)
  | read _ ih => exact .read (ih ranNext)
  | readOrClosed _ ih => exact .readOrClosed (ih ranNext)
  | close _ ih => exact .close (ih ranNext)

/-- **A run of a composition splits** into a run of each part. -/
theorem Runs.of_bind {next : α → Process Message β} :
    ∀ {first : Process Message α} {ins outs : List Message} {result : β},
      Runs (first.bind next) ins outs result →
        ∃ value ins₁ ins₂ outs₁ outs₂, Runs first ins₁ outs₁ value ∧
          Runs (next value) ins₂ outs₂ result ∧ ins = ins₁ ++ ins₂ ∧ outs = outs₁ ++ outs₂
  | Process.done value, ins, outs, _, ran => ⟨value, [], ins, [], outs, .done value, ran, rfl, rfl⟩
  | Process.write message rest, ins, _, _, .write ran => by
    obtain ⟨value, ins₁, ins₂, outs₁, outs₂, ranFirst, ranNext, rfl, rfl⟩ := Runs.of_bind ran
    exact ⟨value, ins₁, ins₂, message :: outs₁, outs₂, .write ranFirst, ranNext, rfl, rfl⟩
  | Process.read rest, _, outs, _, .read ran => by
    obtain ⟨value, ins₁, ins₂, outs₁, outs₂, ranFirst, ranNext, rfl, rfl⟩ := Runs.of_bind ran
    exact ⟨value, _ :: ins₁, ins₂, outs₁, outs₂, .read ranFirst, ranNext, rfl, rfl⟩
  | Process.readOrClosed rest closed, _, outs, _, .readOrClosed ran => by
    obtain ⟨value, ins₁, ins₂, outs₁, outs₂, ranFirst, ranNext, rfl, rfl⟩ := Runs.of_bind ran
    exact ⟨value, _ :: ins₁, ins₂, outs₁, outs₂, .readOrClosed ranFirst, ranNext, rfl, rfl⟩
  | Process.readOrClosed rest closed, ins, outs, _, .close ran => by
    obtain ⟨value, ins₁, ins₂, outs₁, outs₂, ranFirst, ranNext, rfl, rfl⟩ := Runs.of_bind ran
    exact ⟨value, ins₁, ins₂, outs₁, outs₂, .close ranFirst, ranNext, rfl, rfl⟩

/-- A run that ends in success went past the step it attempted. -/
theorem Runs.of_attempt {result : Except ε α} {next : α → Process Message (Except ε β)}
    {ins outs : List Message} {final : β} (ran : Runs (attempt result next) ins outs (.ok final)) :
    ∃ value, result = .ok value ∧ Runs (next value) ins outs (.ok final) := by
  cases result with
  | ok value => exact ⟨value, rfl, ran⟩
  | error err => cases ran

theorem Runs.of_attemptSome {option : Option α} {err : ε}
    {next : α → Process Message (Except ε β)} {ins outs : List Message} {final : β}
    (ran : Runs (attemptSome option err next) ins outs (.ok final)) :
    ∃ value, option = some value ∧ Runs (next value) ins outs (.ok final) := by
  cases option with
  | some value => exact ⟨value, rfl, ran⟩
  | none => cases ran

/-- **A successful run of `seq` splits** into a successful run of each part. -/
theorem Runs.of_seq {first : Process Message (Except ε α)}
    {next : α → Process Message (Except ε β)} {ins outs : List Message} {final : β}
    (ran : Runs (seq first next) ins outs (.ok final)) :
    ∃ value ins₁ ins₂ outs₁ outs₂, Runs first ins₁ outs₁ (.ok value) ∧
      Runs (next value) ins₂ outs₂ (.ok final) ∧ ins = ins₁ ++ ins₂ ∧ outs = outs₁ ++ outs₂ := by
  obtain ⟨result, ins₁, ins₂, outs₁, outs₂, ranFirst, ranNext, rfl, rfl⟩ := Runs.of_bind ran
  obtain ⟨value, rfl, ranNext⟩ := Runs.of_attempt ranNext
  exact ⟨value, ins₁, ins₂, outs₁, outs₂, ranFirst, ranNext, rfl, rfl⟩

theorem Runs.of_map {f : α → β} {program : Process Message α} {ins outs : List Message}
    {result : β} (ran : Runs (program.map f) ins outs result) :
    ∃ value, Runs program ins outs value ∧ f value = result := by
  obtain ⟨value, ins₁, ins₂, outs₁, outs₂, ranFirst, ranNext, rfl, rfl⟩ := Runs.of_bind ran
  cases ranNext
  exact ⟨value, by simpa using ranFirst, rfl⟩

/-- A program whose errors are wrapped succeeds exactly as it did unwrapped. -/
theorem Runs.of_mapError {wrap : ε → β} {program : Process Message (Except ε α)}
    {ins outs : List Message} {value : α}
    (ran : Runs (program.map (Except.mapError wrap)) ins outs (.ok value)) :
    Runs program ins outs (.ok value) := by
  obtain ⟨result, ranProgram, wrapped⟩ := Runs.of_map ran
  cases result with
  | ok inner =>
    cases wrapped
    exact ranProgram
  | error err => cases wrapped

@[simp] theorem mapError_eq_ok {ε' : Type} {result : Except ε α} {wrap : ε → ε'} {value : α} :
    result.mapError wrap = .ok value ↔ result = .ok value := by
  cases result <;> simp [Except.mapError]

theorem Runs.of_send {message : Message} {ins outs : List Message} {result : Except ε Unit}
    (ran : Runs (send message) ins outs result) :
    ins = [] ∧ outs = [message] ∧ result = .ok () := by
  cases ran with
  | write ran => cases ran; exact ⟨rfl, rfl, rfl⟩

theorem Runs.of_receive {ins outs : List Message} {result : Except ε Message}
    (ran : Runs receive ins outs result) :
    ∃ message, ins = [message] ∧ outs = [] ∧ result = .ok message := by
  cases ran with
  | read ran => cases ran; exact ⟨_, rfl, rfl, rfl⟩

theorem Runs.of_done {value : α} {ins outs : List Message} {result : α}
    (ran : Runs (Process.done value) ins outs result) : ins = [] ∧ outs = [] ∧ result = value := by
  cases ran
  exact ⟨rfl, rfl, rfl⟩

/-! ### Partial runs -/

/-- A program, fed `ins` in order, has written `outs` and has become `current`. -/
inductive Trace : Process Message α → List Message → List Message → Process Message α → Prop
  | refl (program : Process Message α) : Trace program [] [] program
  | write {message : Message} {rest current : Process Message α} {ins outs : List Message} :
      Trace rest ins outs current → Trace (write message rest) ins (message :: outs) current
  | read {rest : Message → Process Message α} {message : Message} {ins outs : List Message}
      {current : Process Message α} :
      Trace (rest message) ins outs current → Trace (read rest) (message :: ins) outs current
  | readOrClosed {rest : Message → Process Message α} {closed : Process Message α}
      {message : Message} {ins outs : List Message} {current : Process Message α} :
      Trace (rest message) ins outs current →
        Trace (readOrClosed rest closed) (message :: ins) outs current
  | close {rest : Message → Process Message α} {closed : Process Message α}
      {ins outs : List Message} {current : Process Message α} :
      Trace closed ins outs current → Trace (readOrClosed rest closed) ins outs current

/-- **Partial runs compose**: a partial run of what a partial run has left extends it. -/
theorem Trace.trans {program middle current : Process Message α}
    {ins outs ins' outs' : List Message} (first : Trace program ins outs middle)
    (second : Trace middle ins' outs' current) :
    Trace program (ins ++ ins') (outs ++ outs') current := by
  induction first with
  | refl => exact second
  | write _ ih => exact .write (ih second)
  | read _ ih => exact .read (ih second)
  | readOrClosed _ ih => exact .readOrClosed (ih second)
  | close _ ih => exact .close (ih second)

/-- A partial run goes on by the write its program is at. -/
theorem Trace.write_last {program rest : Process Message α} {message : Message}
    {ins outs : List Message} (traced : Trace program ins outs (Process.write message rest)) :
    Trace program ins (outs ++ [message]) rest := by
  simpa using traced.trans (.write (.refl rest))

/-- A partial run goes on by the read its program is at. -/
theorem Trace.read_last {program : Process Message α} {rest : Message → Process Message α}
    {message : Message} {ins outs : List Message}
    (traced : Trace program ins outs (Process.read rest)) :
    Trace program (ins ++ [message]) outs (rest message) := by
  simpa using traced.trans (.read (.refl (rest message)))

/-- A partial run goes on by the message a read that watches for a close takes. -/
theorem Trace.readOrClosed_last {program closed : Process Message α}
    {rest : Message → Process Message α} {message : Message} {ins outs : List Message}
    (traced : Trace program ins outs (Process.readOrClosed rest closed)) :
    Trace program (ins ++ [message]) outs (rest message) := by
  simpa using traced.trans (.readOrClosed (.refl (rest message)))

/-- A partial run goes on by the close a read that watches for one sees. -/
theorem Trace.close_last {program closed : Process Message α}
    {rest : Message → Process Message α} {ins outs : List Message}
    (traced : Trace program ins outs (Process.readOrClosed rest closed)) :
    Trace program ins outs closed := by
  have closes : Trace (Process.readOrClosed rest closed) [] [] closed := .close (.refl closed)
  simpa using traced.trans closes

/-- A partial run that has ended is a run. -/
theorem Trace.runs {program : Process Message α} {ins outs : List Message} {result : α}
    (traced : Trace program ins outs (Process.done result)) : Runs program ins outs result := by
  generalize ended : (Process.done result : Process Message α) = current at traced
  induction traced with
  | refl => subst ended; exact .done result
  | write _ ih => exact .write (ih ended)
  | read _ ih => exact .read (ih ended)
  | readOrClosed _ ih => exact .readOrClosed (ih ended)
  | close _ ih => exact .close (ih ended)

theorem Trace.of_done {value : α} {ins outs : List Message} {current : Process Message α}
    (traced : Trace (Process.done value) ins outs current) :
    ins = [] ∧ outs = [] ∧ current = Process.done value := by
  cases traced
  exact ⟨rfl, rfl, rfl⟩

/-- A partial run of a write has not started, or has made the write. -/
theorem Trace.of_write {message : Message} {rest current : Process Message α}
    {ins outs : List Message} (traced : Trace (Process.write message rest) ins outs current) :
    (ins = [] ∧ outs = [] ∧ current = Process.write message rest) ∨
      ∃ outs', outs = message :: outs' ∧ Trace rest ins outs' current := by
  cases traced with
  | refl => exact .inl ⟨rfl, rfl, rfl⟩
  | write traced => exact .inr ⟨_, rfl, traced⟩

/-- A partial run of a read has not started, or has taken a message. -/
theorem Trace.of_read {rest : Message → Process Message α} {current : Process Message α}
    {ins outs : List Message} (traced : Trace (Process.read rest) ins outs current) :
    (ins = [] ∧ outs = [] ∧ current = Process.read rest) ∨
      ∃ message ins', ins = message :: ins' ∧ Trace (rest message) ins' outs current := by
  cases traced with
  | refl => exact .inl ⟨rfl, rfl, rfl⟩
  | read traced => exact .inr ⟨_, _, rfl, traced⟩

/-- A run is a partial run that has ended. -/
theorem Runs.trace {program : Process Message α} {ins outs : List Message} {result : α}
    (ran : Runs program ins outs result) : Trace program ins outs (Process.done result) := by
  induction ran with
  | done => exact .refl _
  | write _ ih => exact .write ih
  | read _ ih => exact .read ih
  | readOrClosed _ ih => exact .readOrClosed ih
  | close _ ih => exact .close ih

/-- A program that has ended, its result mapped, has written nothing. -/
theorem Trace.of_map_done {value : α} {f : α → β} {ins outs : List Message}
    {current : Process Message β} (traced : Trace ((Process.done value).map f) ins outs current) :
    outs = [] :=
  (Trace.of_done traced).2.1

/-- A program at a write, its result mapped, has written nothing yet or that message first. -/
theorem Trace.of_map_write {message : Message} {rest : Process Message α} {f : α → β}
    {ins outs : List Message} {current : Process Message β}
    (traced : Trace ((Process.write message rest).map f) ins outs current) :
    outs = [] ∨ ∃ outs', outs = message :: outs' := by
  rcases Trace.of_write traced with ⟨-, quiet, -⟩ | ⟨outs', wrote, -⟩
  · exact .inl quiet
  · exact .inr ⟨outs', wrote⟩

/-- Feed a program the messages `ins` for at most `fuel` steps: the messages it took, what it
wrote, and what it has become. -/
def feed : Nat → Process Message α → List Message →
    List Message × List Message × Process Message α
  | 0, program, _ => ([], [], program)
  | _ + 1, Process.done result, _ => ([], [], Process.done result)
  | fuel + 1, Process.write message rest, ins =>
    let (taken, outs, current) := feed fuel rest ins
    (taken, message :: outs, current)
  | fuel + 1, Process.read rest, message :: ins =>
    let (taken, outs, current) := feed fuel (rest message) ins
    (message :: taken, outs, current)
  | _ + 1, Process.read rest, [] => ([], [], Process.read rest)
  | fuel + 1, Process.readOrClosed rest _, message :: ins =>
    let (taken, outs, current) := feed fuel (rest message) ins
    (message :: taken, outs, current)
  | _ + 1, Process.readOrClosed rest closed, [] => ([], [], Process.readOrClosed rest closed)

/-- What `feed` returns is a partial run. -/
theorem trace_feed : ∀ (fuel : Nat) (program : Process Message α) (ins : List Message),
    Trace program (feed fuel program ins).1 (feed fuel program ins).2.1
      (feed fuel program ins).2.2
  | 0, program, _ => .refl program
  | _ + 1, Process.done _, _ => .refl _
  | fuel + 1, Process.write _ rest, ins => .write (trace_feed fuel rest ins)
  | fuel + 1, Process.read rest, message :: ins => .read (trace_feed fuel (rest message) ins)
  | _ + 1, Process.read _, [] => .refl _
  | fuel + 1, Process.readOrClosed rest _, message :: ins =>
    .readOrClosed (trace_feed fuel (rest message) ins)
  | _ + 1, Process.readOrClosed _ _, [] => .refl _

end Process

/-! ### Two processes -/

/-- Two processes and the messages in flight from each to the other. -/
structure Network (Message α β : Type) where
  left : Process Message α
  right : Process Message β
  toRight : List Message
  toLeft : List Message

namespace Network

variable {Message α β : Type}

/-- One step of either process: a write appends to its outgoing channel, a read takes the head of
its incoming channel. A process that has ended has closed its end of the connection: once its
channel is drained, a read of the other side that watches for a close sees it. -/
inductive Step : Network Message α β → Network Message α β → Prop
  | leftWrite {message : Message} {rest : Process Message α} {right : Process Message β}
      {toRight toLeft : List Message} :
      Step ⟨.write message rest, right, toRight, toLeft⟩ ⟨rest, right, toRight ++ [message], toLeft⟩
  | leftRead {rest : Message → Process Message α} {right : Process Message β}
      {message : Message} {toRight toLeft : List Message} :
      Step ⟨.read rest, right, toRight, message :: toLeft⟩ ⟨rest message, right, toRight, toLeft⟩
  | rightWrite {left : Process Message α} {message : Message} {rest : Process Message β}
      {toRight toLeft : List Message} :
      Step ⟨left, .write message rest, toRight, toLeft⟩ ⟨left, rest, toRight, toLeft ++ [message]⟩
  | rightRead {left : Process Message α} {rest : Message → Process Message β}
      {message : Message} {toRight toLeft : List Message} :
      Step ⟨left, .read rest, message :: toRight, toLeft⟩ ⟨left, rest message, toRight, toLeft⟩
  | leftReadOrClosed {rest : Message → Process Message α} {closed : Process Message α}
      {right : Process Message β} {message : Message} {toRight toLeft : List Message} :
      Step ⟨.readOrClosed rest closed, right, toRight, message :: toLeft⟩
        ⟨rest message, right, toRight, toLeft⟩
  | leftClose {rest : Message → Process Message α} {closed : Process Message α} {result : β}
      {toRight : List Message} :
      Step ⟨.readOrClosed rest closed, .done result, toRight, []⟩
        ⟨closed, .done result, toRight, []⟩
  | rightReadOrClosed {left : Process Message α} {rest : Message → Process Message β}
      {closed : Process Message β} {message : Message} {toRight toLeft : List Message} :
      Step ⟨left, .readOrClosed rest closed, message :: toRight, toLeft⟩
        ⟨left, rest message, toRight, toLeft⟩
  | rightClose {result : α} {rest : Message → Process Message β} {closed : Process Message β}
      {toLeft : List Message} :
      Step ⟨.done result, .readOrClosed rest closed, [], toLeft⟩
        ⟨.done result, closed, [], toLeft⟩

/-- Reachable by some interleaving of steps. -/
def Reaches : Network Message α β → Network Message α β → Prop := Relation.ReflTransGen Step

/-- What a state owes to the start `left₀`, `right₀`: each process has read `insL` (`insR`) and
written `outsL` (`outsR`), every run of what remains of it extends to a run of its start, and each
channel holds what one side wrote and the other has not read. -/
def Accounted (left₀ : Process Message α) (right₀ : Process Message β)
    (state : Network Message α β) : Prop :=
  ∃ insL outsL insR outsR : List Message,
    (∀ ins outs result, Process.Runs state.left ins outs result →
      Process.Runs left₀ (insL ++ ins) (outsL ++ outs) result) ∧
    (∀ ins outs result, Process.Runs state.right ins outs result →
      Process.Runs right₀ (insR ++ ins) (outsR ++ outs) result) ∧
    outsL = insR ++ state.toRight ∧ outsR = insL ++ state.toLeft

theorem accounted_start (left₀ : Process Message α) (right₀ : Process Message β) :
    Accounted left₀ right₀ ⟨left₀, right₀, [], []⟩ :=
  ⟨[], [], [], [], fun _ _ _ ran => ran, fun _ _ _ ran => ran, rfl, rfl⟩

/-- Every step keeps the account. -/
theorem Accounted.step {left₀ : Process Message α} {right₀ : Process Message β}
    {state next : Network Message α β} (accounted : Accounted left₀ right₀ state)
    (step : Step state next) : Accounted left₀ right₀ next := by
  obtain ⟨insL, outsL, insR, outsR, leftRuns, rightRuns, toRight, toLeft⟩ := accounted
  cases step with
  | @leftWrite message =>
    refine ⟨insL, outsL ++ [message], insR, outsR, fun ins outs result ran => ?_, rightRuns,
      by simp [toRight], toLeft⟩
    simpa using leftRuns ins (message :: outs) result (.write ran)
  | @leftRead _ _ message =>
    refine ⟨insL ++ [message], outsL, insR, outsR, fun ins outs result ran => ?_, rightRuns,
      toRight, by simp [toLeft]⟩
    simpa using leftRuns (message :: ins) outs result (.read ran)
  | @rightWrite _ message =>
    refine ⟨insL, outsL, insR, outsR ++ [message], leftRuns, fun ins outs result ran => ?_,
      toRight, by simp [toLeft]⟩
    simpa using rightRuns ins (message :: outs) result (.write ran)
  | @rightRead _ _ message =>
    refine ⟨insL, outsL, insR ++ [message], outsR, leftRuns, fun ins outs result ran => ?_,
      by simp [toRight], toLeft⟩
    simpa using rightRuns (message :: ins) outs result (.read ran)
  | @leftReadOrClosed _ _ _ message =>
    refine ⟨insL ++ [message], outsL, insR, outsR, fun ins outs result ran => ?_, rightRuns,
      toRight, by simp [toLeft]⟩
    simpa using leftRuns (message :: ins) outs result (.readOrClosed ran)
  | leftClose =>
    exact ⟨insL, outsL, insR, outsR, fun ins outs result ran => leftRuns ins outs result
      (.close ran), rightRuns, toRight, toLeft⟩
  | @rightReadOrClosed _ _ _ message =>
    refine ⟨insL, outsL, insR ++ [message], outsR, leftRuns, fun ins outs result ran => ?_,
      by simp [toRight], toLeft⟩
    simpa using rightRuns (message :: ins) outs result (.readOrClosed ran)
  | rightClose =>
    exact ⟨insL, outsL, insR, outsR, leftRuns, fun ins outs result ran => rightRuns ins outs
      result (.close ran), toRight, toLeft⟩

/-- Every state an interleaving reaches from the start is accounted for. -/
theorem accounted_of_reaches {left₀ : Process Message α} {right₀ : Process Message β}
    {final : Network Message α β} (reached : Reaches ⟨left₀, right₀, [], []⟩ final) :
    Accounted left₀ right₀ final := by
  induction reached with
  | refl => exact accounted_start left₀ right₀
  | tail _ step accounted => exact accounted.step step

/-- **The trace lemma.** In every interleaving that ends with both processes done, each process
ran on the messages the other wrote, in order, less what is still in flight towards it. -/
theorem runs_of_reaches {left₀ : Process Message α} {right₀ : Process Message β}
    {final : Network Message α β} (reached : Reaches ⟨left₀, right₀, [], []⟩ final)
    {leftResult : α} {rightResult : β} (leftDone : final.left = .done leftResult)
    (rightDone : final.right = .done rightResult) :
    ∃ insL outsL insR outsR, Process.Runs left₀ insL outsL leftResult ∧
      Process.Runs right₀ insR outsR rightResult ∧
      outsL = insR ++ final.toRight ∧ outsR = insL ++ final.toLeft := by
  obtain ⟨insL, outsL, insR, outsR, leftRuns, rightRuns, toRight, toLeft⟩ :=
    accounted_of_reaches reached
  have leftRan := leftRuns [] [] leftResult (leftDone ▸ .done leftResult)
  have rightRan := rightRuns [] [] rightResult (rightDone ▸ .done rightResult)
  rw [List.append_nil, List.append_nil] at leftRan rightRan
  exact ⟨insL, outsL, insR, outsR, leftRan, rightRan, toRight, toLeft⟩

/-- Each process of a state is a partial run of its start, on what it has read of the other's
writes; each channel holds what one side wrote and the other has not read. -/
def Traced (left₀ : Process Message α) (right₀ : Process Message β)
    (state : Network Message α β) : Prop :=
  ∃ insL outsL insR outsR : List Message,
    Process.Trace left₀ insL outsL state.left ∧ Process.Trace right₀ insR outsR state.right ∧
      outsL = insR ++ state.toRight ∧ outsR = insL ++ state.toLeft

/-- Every step keeps both partial runs. -/
theorem Traced.step {left₀ : Process Message α} {right₀ : Process Message β}
    {state next : Network Message α β} (traced : Traced left₀ right₀ state)
    (step : Step state next) : Traced left₀ right₀ next := by
  obtain ⟨insL, outsL, insR, outsR, left, right, toRight, toLeft⟩ := traced
  cases step with
  | @leftWrite message =>
    exact ⟨insL, outsL ++ [message], insR, outsR, left.write_last, right, by simp [toRight],
      toLeft⟩
  | @leftRead _ _ message =>
    exact ⟨insL ++ [message], outsL, insR, outsR, left.read_last, right, toRight,
      by simp [toLeft]⟩
  | @rightWrite _ message =>
    exact ⟨insL, outsL, insR, outsR ++ [message], left, right.write_last, toRight,
      by simp [toLeft]⟩
  | @rightRead _ _ message =>
    exact ⟨insL, outsL, insR ++ [message], outsR, left, right.read_last, by simp [toRight],
      toLeft⟩
  | @leftReadOrClosed _ _ _ message =>
    exact ⟨insL ++ [message], outsL, insR, outsR, left.readOrClosed_last, right, toRight,
      by simp [toLeft]⟩
  | leftClose => exact ⟨insL, outsL, insR, outsR, left.close_last, right, toRight, toLeft⟩
  | @rightReadOrClosed _ _ _ message =>
    exact ⟨insL, outsL, insR ++ [message], outsR, left, right.readOrClosed_last,
      by simp [toRight], toLeft⟩
  | rightClose => exact ⟨insL, outsL, insR, outsR, left, right.close_last, toRight, toLeft⟩

/-- **The partial-trace lemma.** In every state an interleaving reaches, each process has run
so far on the messages the other wrote, in order, less what is still in flight towards it. -/
theorem traced_of_reaches {left₀ : Process Message α} {right₀ : Process Message β}
    {state : Network Message α β} (reached : Reaches ⟨left₀, right₀, [], []⟩ state) :
    Traced left₀ right₀ state := by
  induction reached with
  | refl => exact ⟨[], [], [], [], .refl _, .refl _, rfl, rfl⟩
  | tail _ step traced => exact traced.step step

/-! ### One interleaving -/

/-- The step the left-first scheduler takes, if any. -/
def next? : Network Message α β → Option (Network Message α β)
  | ⟨.write message rest, right, toRight, toLeft⟩ =>
    some ⟨rest, right, toRight ++ [message], toLeft⟩
  | ⟨.read rest, right, toRight, message :: toLeft⟩ => some ⟨rest message, right, toRight, toLeft⟩
  | ⟨.readOrClosed rest _, right, toRight, message :: toLeft⟩ =>
    some ⟨rest message, right, toRight, toLeft⟩
  | ⟨.readOrClosed _ closed, .done result, toRight, []⟩ => some ⟨closed, .done result, toRight, []⟩
  | ⟨left, .write message rest, toRight, toLeft⟩ => some ⟨left, rest, toRight, toLeft ++ [message]⟩
  | ⟨left, .read rest, message :: toRight, toLeft⟩ => some ⟨left, rest message, toRight, toLeft⟩
  | ⟨left, .readOrClosed rest _, message :: toRight, toLeft⟩ =>
    some ⟨left, rest message, toRight, toLeft⟩
  | ⟨.done result, .readOrClosed _ closed, [], toLeft⟩ => some ⟨.done result, closed, [], toLeft⟩
  | _ => none

/-- Run the left-first scheduler for at most `fuel` steps. -/
def runFor : Nat → Network Message α β → Network Message α β
  | 0, state => state
  | fuel + 1, state =>
    match next? state with
    | some state => runFor fuel state
    | none => state

theorem step_of_next {state next : Network Message α β} (scheduled : next? state = some next) :
    Step state next := by
  unfold next? at scheduled
  split at scheduled <;> cases scheduled
  · exact .leftWrite
  · exact .leftRead
  · exact .leftReadOrClosed
  · exact .leftClose
  · exact .rightWrite
  · exact .rightRead
  · exact .rightReadOrClosed
  · exact .rightClose

/-- The left-first scheduler only takes steps of the network. -/
theorem reaches_runFor : ∀ (fuel : Nat) (state : Network Message α β),
    Reaches state (runFor fuel state)
  | 0, _ => Relation.ReflTransGen.refl
  | fuel + 1, state => by
    unfold runFor
    split
    case h_1 next scheduled =>
      exact Relation.ReflTransGen.head (step_of_next scheduled) (reaches_runFor fuel next)
    case h_2 => exact Relation.ReflTransGen.refl

end Network

end Dialogue
