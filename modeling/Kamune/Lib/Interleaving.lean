/-
**Threads interleaved over a shared state.**

A `System` gives one step of a thread: it reads and writes the shared state and the thread's own
local state, or it cannot be taken (the thread is blocked or finished). A `Config` is the shared
state and the local state of every thread; `System.run` runs a schedule, a list of the threads
that step next, one entry per step, skipping an entry whose thread cannot step. Every
interleaving of the threads' steps is the run of some schedule.

* `System.run_append`: a schedule run in two parts;
* `System.run_invariant`: **an invariant every step keeps holds after every schedule**;
* `System.stepAt_eq_some`: what a step of one thread did;
* `System.stepAt_cons_zero`, `System.stepAt_cons_succ`: a step computed down the list of threads.
-/

import Mathlib

namespace Interleaving

/-- One step of a thread, on the shared state and the thread's local state. -/
structure System (Shared Local : Type) where
  step : Shared → Local → Option (Shared × Local)

/-- The shared state and the local state of each thread. -/
structure Config (Shared Local : Type) where
  shared : Shared
  threads : List Local

variable {Shared Local : Type} (system : System Shared Local)

/-- Thread `index` takes one step, when it can. -/
def System.stepAt (config : Config Shared Local) (index : Nat) : Option (Config Shared Local) :=
  match config.threads[index]? with
  | none => none
  | some thread =>
    (system.step config.shared thread).map fun next => ⟨next.1, config.threads.set index next.2⟩

/-- The run of a schedule: each entry names the thread that steps next; an entry whose thread
cannot step changes nothing. -/
def System.run (system : System Shared Local) :
    Config Shared Local → List Nat → Config Shared Local
  | config, [] => config
  | config, index :: schedule => system.run ((system.stepAt config index).getD config) schedule

@[simp] theorem System.run_nil (config : Config Shared Local) : system.run config [] = config :=
  rfl

@[simp] theorem System.run_cons (config : Config Shared Local) (index : Nat)
    (schedule : List Nat) :
    system.run config (index :: schedule) =
      system.run ((system.stepAt config index).getD config) schedule :=
  rfl

theorem System.run_append : ∀ (config : Config Shared Local) (front back : List Nat),
    system.run config (front ++ back) = system.run (system.run config front) back
  | _, [], _ => rfl
  | _, _ :: front, back => System.run_append _ front back

/-- A step of a thread whose local state is known. -/
theorem System.stepAt_of_get {config : Config Shared Local} {index : Nat} {thread : Local}
    (current : config.threads[index]? = some thread) :
    system.stepAt config index =
      (system.step config.shared thread).map fun next =>
        ⟨next.1, config.threads.set index next.2⟩ := by
  unfold System.stepAt
  rw [current]

@[simp] theorem System.stepAt_cons_zero (shared : Shared) (thread : Local) (rest : List Local) :
    system.stepAt ⟨shared, thread :: rest⟩ 0 =
      (system.step shared thread).map fun next => ⟨next.1, next.2 :: rest⟩ :=
  rfl

@[simp] theorem System.stepAt_cons_succ (shared : Shared) (first : Local) (rest : List Local)
    (index : Nat) :
    system.stepAt ⟨shared, first :: rest⟩ (index + 1) =
      (system.stepAt ⟨shared, rest⟩ index).map fun config =>
        ⟨config.shared, first :: config.threads⟩ := by
  unfold System.stepAt
  simp only [List.getElem?_cons_succ]
  cases rest[index]? with
  | none => rfl
  | some thread =>
    simp only [Option.map_map, Function.comp_def, List.set_cons_succ]

/-- **Inversion rule**: a step of thread `index` is a step of the system from that thread's local
state, which replaces it. -/
theorem System.stepAt_eq_some {config next : Config Shared Local} {index : Nat}
    (stepped : system.stepAt config index = some next) :
    ∃ thread result, config.threads[index]? = some thread ∧
      system.step config.shared thread = some result ∧
      next = ⟨result.1, config.threads.set index result.2⟩ := by
  unfold System.stepAt at stepped
  split at stepped
  case h_1 => cases stepped
  case h_2 thread current =>
    obtain ⟨result, step, rfl⟩ := Option.map_eq_some_iff.mp stepped
    exact ⟨thread, result, current, step, rfl⟩

/-- **Invariant rule**: a property of configurations that every step of every thread keeps holds
after every schedule. -/
theorem System.run_invariant (invariant : Config Shared Local → Prop)
    (preserved : ∀ config index next, invariant config → system.stepAt config index = some next →
      invariant next) :
    ∀ (schedule : List Nat) (config : Config Shared Local), invariant config →
      invariant (system.run config schedule)
  | [], _, holds => holds
  | index :: schedule, config, holds => by
    rw [System.run_cons]
    apply System.run_invariant invariant preserved schedule
    cases stepped : system.stepAt config index with
    | none => exact holds
    | some next => exact preserved config index next holds stepped

end Interleaving
