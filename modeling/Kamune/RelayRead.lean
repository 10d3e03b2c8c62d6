/-
**The relay connection's read path (`pkg/relayconn/conn.go`).**

The `readPump` goroutine reads frames from the exchange channel and pushes the data of each
message frame into `rc.buf` (`pushData`: append under `bufMu`, then a non-blocking send on the
one-slot channel `rc.recv`); when the channel read fails it returns, and its deferred `rc.cancel`
closes `rc.ctx.Done()`. `ReadBytes` loops: it takes the first buffered payload if there is one;
otherwise it reads the deadline and waits in a `select` on `rc.recv`, the deadline's timer and
`rc.ctx.Done()`, going round again on a wake-up, returning `os.ErrDeadlineExceeded` on the timer
and `io.EOF` on the cancellation. When several cases are ready, Go picks one at random.

The model is an `Interleaving.System` of three threads over the shared state: a reader calling
`ReadBytes` again and again, the pump, and a clock. The reader's thread holds the results
`ReadBytes` returned, and the picks the runtime makes in its `select`s. The reader's `select` step
polls the cases ready at that moment; a reader preempted between the deadline check and the
`select` polls them only once it runs again.

* `readerStep_cases`: a step of `ReadBytes` is a `ReaderMove`: it stays, returns a result that is
  not a payload (`io.EOF` only on a cancelled context), or takes the first buffered payload;
* `Accounted.reader_step`, `Accounted.pump_step`: each step of the reader and of the pump keeps
  the account of the payloads: those returned, then those buffered, are those pushed, in order;
* `accounted_run`: the account holds in every interleaving, and `io.EOF` comes only after the pump
  stopped;
* `pump_runs`: the pump alone pushes every payload of its input, wakes the reader and cancels;
* `read_bytes_eof_race`: `ReadBytes` returns the pushed payloads once each and in order, but the
  reader can see an empty buffer, reach the `select` once the pump has pushed and cancelled, and
  take the cancellation over the wake-up: it returns `io.EOF` with every payload still buffered.
-/

import Kamune.Wire.Integers
import Kamune.Lib.Interleaving

namespace Kamune

open Wire Interleaving

/-- What a `ReadBytes` call returned. -/
inductive ReadResult where
  | data (payload : Bytes)
  /-- `os.ErrDeadlineExceeded`. -/
  | deadlineExceeded
  /-- `io.EOF`. -/
  | eof
  deriving DecidableEq, Repr

def ReadResult.data? : ReadResult → Option Bytes
  | .data payload => some payload
  | _ => none

/-- A frame the pump reads: a message with its data, or one that pushes nothing (a ping, whose
pong reply is left out, a pong, a frame of no kind, or bytes that do not unmarshal). -/
inductive PumpInput where
  | msg (data : Bytes)
  | other
  deriving DecidableEq, Repr

def PumpInput.data? : PumpInput → Option Bytes
  | .msg data => some data
  | .other => none

/-- The payloads of a list of frames, in order. -/
def messagePayloads (inputs : List PumpInput) : List Bytes := inputs.filterMap PumpInput.data?

/-- The payloads among the results `ReadBytes` returned, in order. -/
def returnedPayloads (returned : List ReadResult) : List Bytes :=
  returned.filterMap ReadResult.data?

/-- What the reader and the pump share: the buffer, whether the wake-up channel holds a token,
whether the context is cancelled, the deadline (`none` for the zero time) and the clock. -/
structure RelayConnState where
  buf : List Bytes
  recv : Bool
  done : Bool
  deadline : Option Nat
  now : Nat
  deriving DecidableEq, Repr

/-- Where the reader is in `ReadBytes`. -/
inductive ReadPhase where
  /-- At the top of the loop, about to look at the buffer under `bufMu`. -/
  | checking
  /-- The buffer was empty: about to read the deadline. -/
  | arming
  /-- Past the deadline check, about to poll the `select`'s cases, with the deadline of its timer
  if there is one. -/
  | selecting (timer : Option Nat)
  deriving DecidableEq, Repr

/-- The cases of the `select`. -/
inductive SelectCase where
  | recv
  | timeout
  | done
  deriving DecidableEq, Repr

/-- A thread: the reader with the results it got and the picks of its `select`s; the pump with
the frames it has still to read, before or after the send on `rc.recv`, or stopped; the clock. -/
inductive RelayThread where
  | reader (phase : ReadPhase) (returned : List ReadResult) (picks : List Nat)
  | pump (incoming : List PumpInput)
  | signalling (incoming : List PumpInput)
  | stopped
  | clock
  deriving DecidableEq, Repr

/-- The `select`'s cases that are ready, in the source's order. -/
def readyCases (s : RelayConnState) (timer : Option Nat) : List SelectCase :=
  (if s.recv then [SelectCase.recv] else []) ++
    (match timer with
      | some deadline => if deadline ≤ s.now then [SelectCase.timeout] else []
      | none => []) ++
    (if s.done then [SelectCase.done] else [])

/-- One step of `ReadBytes`. In the `select` the next pick chooses among the ready cases; with
none ready the reader is blocked. -/
def readerStep (s : RelayConnState) :
    ReadPhase → List ReadResult → List Nat → Option (RelayConnState × RelayThread)
  | .checking, returned, picks =>
    match s.buf with
    | data :: rest =>
      some ({ s with buf := rest }, .reader .checking (returned ++ [.data data]) picks)
    | [] => some (s, .reader .arming returned picks)
  | .arming, returned, picks =>
    match s.deadline with
    | none => some (s, .reader (.selecting none) returned picks)
    | some deadline =>
      -- `time.Until(dl) <= 0`
      if deadline ≤ s.now then some (s, .reader .checking (returned ++ [.deadlineExceeded]) picks)
      else some (s, .reader (.selecting (some deadline)) returned picks)
  | .selecting timer, returned, picks =>
    match (readyCases s timer)[picks.headD 0 % (readyCases s timer).length]? with
    | none => none
    | some .recv => some ({ s with recv := false }, .reader .checking returned picks.tail)
    | some .timeout => some (s, .reader .checking (returned ++ [.deadlineExceeded]) picks.tail)
    | some .done => some (s, .reader .checking (returned ++ [.eof]) picks.tail)

/-- One step of a thread. -/
def relayStep (s : RelayConnState) : RelayThread → Option (RelayConnState × RelayThread)
  | .reader phase returned picks => readerStep s phase returned picks
  -- the channel read fails: `readPump` returns, and its deferred `rc.cancel` runs
  | .pump [] => some ({ s with done := true }, .stopped)
  -- `pushData`'s append under `bufMu`
  | .pump (.msg data :: incoming) => some ({ s with buf := s.buf ++ [data] }, .signalling incoming)
  | .pump (.other :: incoming) => some (s, .pump incoming)
  -- `pushData`'s non-blocking send: a full channel stays full
  | .signalling incoming => some ({ s with recv := true }, .pump incoming)
  | .stopped => none
  | .clock => some ({ s with now := s.now + 1 }, .clock)

def relaySystem : System RelayConnState RelayThread := ⟨relayStep⟩

@[simp] theorem relaySystem_step (s : RelayConnState) (thread : RelayThread) :
    relaySystem.step s thread = relayStep s thread :=
  rfl

/-- A fresh connection: nothing buffered, the reader about to call `ReadBytes`, the pump with the
frames it will read, and the clock at zero. -/
def relayStart (incoming : List PumpInput) (deadline : Option Nat) (picks : List Nat) :
    Config RelayConnState RelayThread :=
  ⟨⟨[], false, false, deadline, 0⟩, [.reader .checking [] picks, .pump incoming, .clock]⟩

/-- The configuration a schedule reaches from a fresh connection. -/
def relayRun (incoming : List PumpInput) (deadline : Option Nat) (picks schedule : List Nat) :
    Config RelayConnState RelayThread :=
  relaySystem.run (relayStart incoming deadline picks) schedule

/-- The results of the reader's `ReadBytes` calls so far. -/
def readResults (config : Config RelayConnState RelayThread) : List ReadResult :=
  match config.threads with
  | .reader _ returned _ :: _ => returned
  | _ => []

/-- The frames the pump has still to read. -/
def RelayThread.remaining : RelayThread → List PumpInput
  | .pump incoming => incoming
  | .signalling incoming => incoming
  | _ => []

/-- The pump's thread. -/
def RelayThread.IsPump : RelayThread → Prop
  | .pump _ | .signalling _ | .stopped => True
  | _ => False

/-! ### The account of the payloads -/

@[simp] theorem messagePayloads_append (first second : List PumpInput) :
    messagePayloads (first ++ second) = messagePayloads first ++ messagePayloads second :=
  List.filterMap_append

@[simp] theorem messagePayloads_msg (data : Bytes) (inputs : List PumpInput) :
    messagePayloads (.msg data :: inputs) = data :: messagePayloads inputs :=
  rfl

@[simp] theorem messagePayloads_other (inputs : List PumpInput) :
    messagePayloads (.other :: inputs) = messagePayloads inputs :=
  rfl

@[simp] theorem returnedPayloads_append (first second : List ReadResult) :
    returnedPayloads (first ++ second) = returnedPayloads first ++ returnedPayloads second :=
  List.filterMap_append

/-- The reader has returned the payloads the pump pushed, but those still buffered, once each and
in order; it returned `io.EOF` only once the pump stopped, and only the pump cancels. -/
structure Accounted (incoming : List PumpInput) (s : RelayConnState) (returned : List ReadResult)
    (pump : RelayThread) : Prop where
  isPump : pump.IsPump
  pushed : ∃ consumed, incoming = consumed ++ pump.remaining ∧
    returnedPayloads returned ++ s.buf = messagePayloads consumed
  eof_stopped : ReadResult.eof ∈ returned → pump = .stopped
  done_stopped : s.done = true → pump = .stopped

/-- **What a reader step can do**: stay, with nothing returned; return a result that is not a
payload, `io.EOF` only on a cancelled context; or take the first buffered payload. It never
cancels. -/
inductive ReaderMove (s : RelayConnState) (returned : List ReadResult) :
    RelayConnState → RelayThread → Prop
  | stay {s' : RelayConnState} (phase : ReadPhase) (picks : List Nat) :
      s'.buf = s.buf → s'.done = s.done →
      ReaderMove s returned s' (.reader phase returned picks)
  | give {s' : RelayConnState} (result : ReadResult) (phase : ReadPhase) (picks : List Nat) :
      s'.buf = s.buf → s'.done = s.done → result.data? = none →
      (result = .eof → s.done = true) →
      ReaderMove s returned s' (.reader phase (returned ++ [result]) picks)
  | take {s' : RelayConnState} (data : Bytes) (phase : ReadPhase) (picks : List Nat) :
      s.buf = data :: s'.buf → s'.done = s.done →
      ReaderMove s returned s' (.reader phase (returned ++ [.data data]) picks)

theorem readerStep_cases {s s' : RelayConnState} {phase : ReadPhase} {returned : List ReadResult}
    {picks : List Nat} {next : RelayThread}
    (stepped : readerStep s phase returned picks = some (s', next)) :
    ReaderMove s returned s' next := by
  cases phase with
  | checking =>
    simp only [readerStep] at stepped
    split at stepped
    case h_1 data rest buffered =>
      cases stepped
      exact .take data _ _ buffered rfl
    case h_2 =>
      cases stepped
      exact .stay _ _ rfl rfl
  | arming =>
    simp only [readerStep] at stepped
    split at stepped
    case h_1 =>
      cases stepped
      exact .stay _ _ rfl rfl
    case h_2 deadline _ =>
      split at stepped
      · cases stepped
        exact .give _ _ _ rfl rfl rfl nofun
      · cases stepped
        exact .stay _ _ rfl rfl
  | selecting timer =>
    simp only [readerStep] at stepped
    split at stepped
    case h_1 => cases stepped
    case h_2 =>
      cases stepped
      exact .stay _ _ rfl rfl
    case h_3 =>
      cases stepped
      exact .give _ _ _ rfl rfl rfl nofun
    case h_4 chosen =>
      -- the `done` case is ready only on a cancelled context
      cases stepped
      have ready := List.mem_of_getElem? chosen
      simp only [readyCases, List.mem_append] at ready
      refine .give _ _ _ rfl rfl rfl fun _ => ?_
      split at ready <;> split at ready <;> simp_all

/-- Whatever the reader does, the payloads returned and then those buffered stay the same, a new
`io.EOF` needs a cancelled context, and the context stays as it was. -/
theorem ReaderMove.keeps {s s' : RelayConnState} {returned : List ReadResult}
    {next : RelayThread} (move : ReaderMove s returned s' next) :
    ∃ phase' returned' picks', next = .reader phase' returned' picks' ∧
      returnedPayloads returned' ++ s'.buf = returnedPayloads returned ++ s.buf ∧
      (ReadResult.eof ∈ returned' → ReadResult.eof ∈ returned ∨ s.done = true) ∧
      s'.done = s.done := by
  cases move with
  | stay phase picks buf done =>
    exact ⟨phase, returned, picks, rfl, by rw [buf], .inl, done⟩
  | give result phase picks buf done noData cancelled =>
    refine ⟨phase, returned ++ [result], picks, rfl, ?_, fun eof => ?_, done⟩
    · rw [returnedPayloads_append, buf]
      simp [returnedPayloads, noData]
    · rcases List.mem_append.mp eof with before | now
      · exact .inl before
      · exact .inr (cancelled (List.mem_singleton.mp now).symm)
  | take data phase picks buffered done =>
    refine ⟨phase, returned ++ [ReadResult.data data], picks, rfl, ?_, fun eof => .inl ?_, done⟩
    · rw [returnedPayloads_append, buffered]
      simp [returnedPayloads, ReadResult.data?]
    · simpa using eof

namespace Accounted

variable {incoming : List PumpInput} {s : RelayConnState} {returned : List ReadResult}
  {pump : RelayThread}

/-- A reader step keeps the account. -/
theorem reader_step (accounted : Accounted incoming s returned pump) {phase : ReadPhase}
    {picks : List Nat} {s' : RelayConnState} {next : RelayThread}
    (stepped : readerStep s phase returned picks = some (s', next)) :
    ∃ phase' returned' picks', next = .reader phase' returned' picks' ∧
      Accounted incoming s' returned' pump := by
  obtain ⟨phase', returned', picks', rfl, kept, eof', done⟩ := (readerStep_cases stepped).keeps
  obtain ⟨consumed, rest, account⟩ := accounted.pushed
  refine ⟨phase', returned', picks', rfl, accounted.isPump,
    ⟨consumed, rest, kept ▸ account⟩, fun eof => ?_,
    fun cancelled => accounted.done_stopped (done ▸ cancelled)⟩
  rcases eof' eof with before | cancelled
  · exact accounted.eof_stopped before
  · exact accounted.done_stopped cancelled

/-- The running pump reading `read` keeps the account when the payloads of `read` go to the end of
the buffer and the context stays live. -/
theorem of_pump (accounted : Accounted incoming s returned pump) {s' : RelayConnState}
    {next : RelayThread} (running : pump ≠ .stopped) (isPump : next.IsPump)
    (read : List PumpInput) (remaining : pump.remaining = read ++ next.remaining)
    (buf : s'.buf = s.buf ++ messagePayloads read) (done : s'.done = s.done) :
    Accounted incoming s' returned next := by
  obtain ⟨consumed, rest, account⟩ := accounted.pushed
  refine ⟨isPump, ⟨consumed ++ read, ?_, ?_⟩,
    fun eof => absurd (accounted.eof_stopped eof) running,
    fun cancelled => absurd (accounted.done_stopped (done ▸ cancelled)) running⟩
  · rw [rest, remaining, List.append_assoc]
  · rw [buf, ← List.append_assoc, account, messagePayloads_append]

/-- A pump step keeps the account: a pushed payload goes to the end of the buffer, and the
cancellation comes when the input is exhausted. -/
theorem pump_step (accounted : Accounted incoming s returned pump) {s' : RelayConnState}
    {next : RelayThread} (stepped : relayStep s pump = some (s', next)) :
    Accounted incoming s' returned next := by
  cases pump with
  | pump incoming' =>
    cases incoming' with
    | nil =>
      cases stepped
      exact ⟨trivial, accounted.pushed, fun _ => rfl, fun _ => rfl⟩
    | cons input inputs =>
      cases input with
      | msg data =>
        cases stepped
        exact accounted.of_pump nofun trivial [.msg data] rfl rfl rfl
      | other =>
        cases stepped
        exact accounted.of_pump nofun trivial [.other] rfl (List.append_nil _).symm rfl
  | signalling incoming' =>
    cases stepped
    exact accounted.of_pump nofun trivial [] rfl (List.append_nil _).symm rfl
  | stopped => cases stepped
  | reader => exact accounted.isPump.elim
  | clock => exact accounted.isPump.elim

/-- A tick of the clock keeps the account. -/
theorem tick (accounted : Accounted incoming s returned pump) :
    Accounted incoming { s with now := s.now + 1 } returned pump :=
  ⟨accounted.isPump, accounted.pushed, accounted.eof_stopped, accounted.done_stopped⟩

/-- Once the reader has returned `io.EOF`, the pump has pushed every payload of its input, and the
reader has returned those not still buffered. -/
theorem after_eof (accounted : Accounted incoming s returned pump)
    (eof : ReadResult.eof ∈ returned) :
    pump = .stopped ∧ returnedPayloads returned ++ s.buf = messagePayloads incoming := by
  have stopped := accounted.eof_stopped eof
  obtain ⟨consumed, rest, account⟩ := accounted.pushed
  simp only [stopped, RelayThread.remaining, List.append_nil] at rest
  exact ⟨stopped, rest ▸ account⟩

end Accounted

/-- A configuration of the reader, the pump and the clock that keeps the account. -/
def Reading (incoming : List PumpInput) (config : Config RelayConnState RelayThread) : Prop :=
  ∃ phase returned picks pump,
    config.threads = [.reader phase returned picks, pump, .clock] ∧
      Accounted incoming config.shared returned pump

theorem reading_relayStart (incoming : List PumpInput) (deadline : Option Nat) (picks : List Nat) :
    Reading incoming (relayStart incoming deadline picks) :=
  ⟨.checking, [], picks, .pump incoming, rfl, trivial, ⟨[], rfl, rfl⟩, nofun, nofun⟩

namespace Reading

variable {incoming : List PumpInput} {config : Config RelayConnState RelayThread}

/-- **Once each and in order**: the payloads `ReadBytes` returned are the first ones pushed. -/
theorem returnedPayloads_prefix (reading : Reading incoming config) :
    returnedPayloads (readResults config) <+: messagePayloads incoming := by
  obtain ⟨phase, returned, picks, pump, threads, accounted⟩ := reading
  obtain ⟨consumed, rest, account⟩ := accounted.pushed
  have results : readResults config = returned := by
    rw [readResults, threads]
  refine ⟨config.shared.buf ++ messagePayloads pump.remaining, ?_⟩
  rw [results, ← List.append_assoc, account, rest, messagePayloads_append]

/-- After an `io.EOF`, the payloads not returned are still in the buffer. -/
theorem buffered_after_eof (reading : Reading incoming config)
    (eof : ReadResult.eof ∈ readResults config) :
    returnedPayloads (readResults config) ++ config.shared.buf = messagePayloads incoming := by
  obtain ⟨phase, returned, picks, pump, threads, accounted⟩ := reading
  have results : readResults config = returned := by
    rw [readResults, threads]
  rw [results] at eof ⊢
  exact (accounted.after_eof eof).2

end Reading

/-- **Every step of every thread keeps the account.** -/
theorem reading_step {incoming : List PumpInput} {config next : Config RelayConnState RelayThread}
    {index : Nat} (reading : Reading incoming config)
    (stepped : relaySystem.stepAt config index = some next) : Reading incoming next := by
  obtain ⟨phase, returned, picks, pump, threads, accounted⟩ := reading
  obtain ⟨thread, result, current, step, rfl⟩ := relaySystem.stepAt_eq_some stepped
  rw [threads] at current ⊢
  match index, current with
  | 0, current =>
    cases current
    obtain ⟨phase', returned', picks', stepping, kept⟩ := accounted.reader_step step
    exact ⟨phase', returned', picks', pump, by rw [← stepping]; rfl, kept⟩
  | 1, current =>
    cases current
    exact ⟨phase, returned, picks, result.2, rfl, accounted.pump_step step⟩
  | 2, current =>
    cases current
    cases step
    exact ⟨phase, returned, picks, pump, rfl, accounted.tick⟩

/-- **The account holds in every interleaving.** -/
theorem accounted_run (incoming : List PumpInput) (deadline : Option Nat) (picks : List Nat)
    (schedule : List Nat) : Reading incoming (relayRun incoming deadline picks schedule) :=
  relaySystem.run_invariant (Reading incoming)
    (fun _ _ _ reading stepped => reading_step reading stepped) schedule _
    (reading_relayStart incoming deadline picks)

/-! ### The race -/

/-- How many steps the pump takes on its input: two for a message, one for another frame, and one
to cancel. -/
def pumpSteps : List PumpInput → Nat
  | [] => 1
  | .msg _ :: inputs => pumpSteps inputs + 2
  | .other :: inputs => pumpSteps inputs + 1

/-- **The pump alone** pushes every payload of its input, leaves a wake-up if it pushed any, and
cancels the context. -/
theorem pump_runs (reader : RelayThread) :
    ∀ (incoming : List PumpInput) (s : RelayConnState),
      relaySystem.run ⟨s, [reader, .pump incoming, .clock]⟩
          (List.replicate (pumpSteps incoming) 1) =
        ⟨{ s with
            buf := s.buf ++ messagePayloads incoming
            recv := s.recv || !(messagePayloads incoming).isEmpty
            done := true },
          [reader, .stopped, .clock]⟩
  | [], s => by
    simp [pumpSteps, relayStep, messagePayloads]
  | .msg data :: inputs, s => by
    rw [pumpSteps, List.replicate_succ, List.replicate_succ]
    simp only [System.run_cons, System.stepAt_cons_succ, System.stepAt_cons_zero, relaySystem_step,
      relayStep, Option.map_some, Option.getD_some]
    rw [pump_runs reader inputs]
    simp
  | .other :: inputs, s => by
    rw [pumpSteps, List.replicate_succ]
    simp only [System.run_cons, System.stepAt_cons_succ, System.stepAt_cons_zero, relaySystem_step,
      relayStep, Option.map_some, Option.getD_some]
    rw [pump_runs reader inputs, messagePayloads_other]

/-- The interleaving of the race: the reader finds the buffer empty and reads the deadline, the
pump reads its whole input and cancels, and the reader polls its `select`. -/
def raceSchedule (incoming : List PumpInput) : List Nat :=
  [0, 0] ++ List.replicate (pumpSteps incoming) 1 ++ [0]

/-- **`io.EOF` before buffered payloads.** The reader finds the buffer empty and goes to the
`select`; before it polls, the pump pushes every payload and cancels; with a wake-up and the
cancellation both ready, the runtime picks the cancellation, and `ReadBytes` returns `io.EOF`
while every payload is still in the buffer. -/
theorem eof_before_buffered_payloads {incoming : List PumpInput}
    (pushes : messagePayloads incoming ≠ []) :
    relayRun incoming none [1] (raceSchedule incoming) =
      ⟨⟨messagePayloads incoming, true, true, none, 0⟩,
        [.reader .checking [.eof] [], .stopped, .clock]⟩ := by
  have waiting : relaySystem.run (relayStart incoming none [1]) [0, 0] =
      ⟨⟨[], false, false, none, 0⟩,
        [.reader (.selecting none) [] [1], .pump incoming, .clock]⟩ :=
    rfl
  have woken : (!(messagePayloads incoming).isEmpty) = true := by
    simpa [List.isEmpty_iff] using pushes
  rw [relayRun, raceSchedule, System.run_append, System.run_append, waiting, pump_runs]
  simp only [List.nil_append, Bool.false_or, woken]
  -- both the wake-up and the cancellation are ready, and the pick takes the second
  rfl

/-- **`ReadBytes` and `io.EOF`.** In every interleaving, the payloads `ReadBytes` returned are the
first ones pushed, once each and in order, and after an `io.EOF` the others are still buffered;
but for every input with a payload, one interleaving returns `io.EOF` before any payload. -/
theorem read_bytes_eof_race (incoming : List PumpInput) :
    (∀ (deadline : Option Nat) (picks schedule : List Nat),
      returnedPayloads (readResults (relayRun incoming deadline picks schedule)) <+:
          messagePayloads incoming ∧
        (ReadResult.eof ∈ readResults (relayRun incoming deadline picks schedule) →
          returnedPayloads (readResults (relayRun incoming deadline picks schedule)) ++
              (relayRun incoming deadline picks schedule).shared.buf =
            messagePayloads incoming)) ∧
    (messagePayloads incoming ≠ [] →
      readResults (relayRun incoming none [1] (raceSchedule incoming)) = [.eof] ∧
        (relayRun incoming none [1] (raceSchedule incoming)).shared.buf =
          messagePayloads incoming) := by
  refine ⟨fun deadline picks schedule => ?_, fun pushes => ?_⟩
  · have reading := accounted_run incoming deadline picks schedule
    exact ⟨reading.returnedPayloads_prefix, reading.buffered_after_eof⟩
  · rw [eof_before_buffered_payloads pushes]
    exact ⟨rfl, rfl⟩

theorem read_bytes_eof_race_message :
    messagePayloads [.msg [1, 2, 3]] ≠ [] ∧
      readResults (relayRun [.msg [1, 2, 3]] none [1] (raceSchedule [.msg [1, 2, 3]])) = [.eof] ∧
        (relayRun [.msg [1, 2, 3]] none [1] (raceSchedule [.msg [1, 2, 3]])).shared.buf =
          [[1, 2, 3]] :=
  ⟨by decide, (read_bytes_eof_race [.msg [1, 2, 3]]).2 (by decide)⟩

end Kamune
