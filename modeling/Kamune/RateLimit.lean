/-
**The relay's rate limiter (`cmd/relay/internal/ratelimit`).**

`Allow(key)` keeps, for each key, the times of the calls it let through, in an expirable LRU cache
whose entries live twice the window. At clock time `now` it takes the key's log, or an empty one,
drops the times at or before `now - window` from its front, and lets the call through when fewer
than `quota` times remain, appending `now` and storing the log again. A denied call stores
nothing.

The cache is a `SlidingWindow.Cache`; which key the LRU evicts when it is full is an event of the
run; `Allow` returns `none` where `make([]time.Time, 0, rl.quota)` panics, on a negative quota.
Against the calls made so far, the limiter `Tracks` a key: the log it stores for the key agrees
with the times the key's calls were let through on every window that can still matter.

* `Tracks.stamps_eq`: **the trimmed log is exactly the key's allowed times in the window**, also
  when the cache entry has expired;
* `Tracks.Allow_iff`: so a call is let through exactly when fewer than `quota` calls of its key
  were let through in the window that ends at it;
* `Tracks.run`: every call, and every eviction of another key, keeps `Tracks`;
* `run_filter_key`: the calls of one key come out as in a run of that key's events alone;
* `rate_limiter_sliding_window`: the law for every call of a run from `New`.
-/

import Kamune.Lib.SlidingWindow

namespace Kamune

open SlidingWindow

/-- `RateLimiter`, past its mutex: the LRU of logs, the quota and the window. Times are
nanoseconds. -/
structure RateLimiter where
  lru : Cache String (List Int) Int
  quota : Int
  window : Int

/-- A call of `Allow`: its key, the clock time and what it returned, `none` for a panic. -/
structure Call where
  key : String
  now : Int
  result : Option Bool
  deriving DecidableEq, Repr

/-- What happens to the limiter: a call of `Allow` at clock time `now`, or the LRU evicting a key
to make room. -/
inductive LimiterEvent where
  | allow (key : String) (now : Int)
  | evict (key : String)
  deriving DecidableEq, Repr

def LimiterEvent.key : LimiterEvent → String
  | .allow key _ => key
  | .evict key => key

def LimiterEvent.time? : LimiterEvent → Option Int
  | .allow _ now => some now
  | .evict _ => none

namespace RateLimiter

/-- `New`. The LRU's capacity `maxEntries` only decides which key it evicts, an event here. -/
def New (quota window : Int) : RateLimiter := ⟨⟨fun _ => none, window * 2⟩, quota, window⟩

/-- The log `Allow` decides on: the cached one, or an empty one, without the times at or before
`now - window` that lead it. -/
def stamps (rl : RateLimiter) (key : String) (now : Int) : List Int :=
  ((rl.lru.get key now).getD []).dropWhile fun stamp => decide (stamp ≤ now - rl.window)

/-- `Allow` at clock time `now`. -/
def Allow (rl : RateLimiter) (key : String) (now : Int) : Option Bool × RateLimiter :=
  -- `make([]time.Time, 0, rl.quota)` panics on a negative capacity, and the deferred `Unlock`
  -- leaves the limiter as it was
  if (rl.lru.get key now).isNone && decide (rl.quota < 0) then (none, rl)
  else if rl.quota ≤ (rl.stamps key now).length then (some false, rl)
  else (some true, { rl with lru := rl.lru.add key (rl.stamps key now ++ [now]) now })

/-- One event, and the call it records. -/
def step (rl : RateLimiter) : LimiterEvent → RateLimiter × List Call
  | .allow key now => ((rl.Allow key now).2, [⟨key, now, (rl.Allow key now).1⟩])
  | .evict key => ({ rl with lru := rl.lru.remove key }, [])

/-- The limiter after the events, and the calls made. -/
def run (rl : RateLimiter) : List LimiterEvent → RateLimiter × List Call
  | [] => (rl, [])
  | event :: events =>
    let turn := rl.step event
    let rest := turn.1.run events
    (rest.1, turn.2 ++ rest.2)

end RateLimiter

/-- The clock never goes back: the calls come at non-decreasing times. -/
def Clock (events : List LimiterEvent) : Prop :=
  (events.filterMap LimiterEvent.time?).Pairwise (· ≤ ·)

instance : DecidablePred Clock := fun events =>
  inferInstanceAs (Decidable (List.Pairwise _ (events.filterMap LimiterEvent.time?)))

/-- The sliding-window count: the calls among `calls` for `key` that returned true at a time in
`(now - window, now]`. -/
def allowedInWindow (window : Int) (key : String) (now : Int) (calls : List Call) : Nat :=
  calls.countP fun call => call.key == key && call.result == some true &&
    decide (now - window < call.now) && decide (call.now ≤ now)

/-- The times of the calls for `key` that returned true. -/
def allowedTimes (key : String) (calls : List Call) : List Int :=
  (calls.filter fun call => call.key == key && call.result == some true).map Call.now

namespace RateLimiter

/-! ### One call -/

section Allow

variable (rl : RateLimiter) (key : String) (now : Int)

/-- `Allow` lets the call through, or leaves the limiter as it was. -/
theorem Allow_cases :
    ((rl.Allow key now).1 ≠ some true ∧ (rl.Allow key now).2 = rl) ∨
      ((rl.Allow key now).1 = some true ∧
        (rl.Allow key now).2 = { rl with lru := rl.lru.add key (rl.stamps key now ++ [now]) now }) := by
  by_cases panics : (rl.lru.get key now).isNone && decide (rl.quota < 0)
  · rw [Allow, if_pos panics]
    exact .inl ⟨by simp, rfl⟩
  · by_cases denied : rl.quota ≤ (rl.stamps key now).length
    · rw [Allow, if_neg panics, if_pos denied]
      exact .inl ⟨by simp, rfl⟩
    · rw [Allow, if_neg panics, if_neg denied]
      exact .inr ⟨rfl, rfl⟩

theorem Allow_eq_some_true_iff :
    (rl.Allow key now).1 = some true ↔ ((rl.stamps key now).length : Int) < rl.quota := by
  by_cases panics : (rl.lru.get key now).isNone && decide (rl.quota < 0)
  · -- with nothing cached the log is empty, and the quota is negative
    rw [Allow, if_pos panics]
    simp only [Bool.and_eq_true, Option.isNone_iff_eq_none, decide_eq_true_eq] at panics
    simp [stamps, panics.1]
    omega
  · by_cases denied : rl.quota ≤ (rl.stamps key now).length
    · rw [Allow, if_neg panics, if_pos denied]
      simpa using denied
    · rw [Allow, if_neg panics, if_neg denied]
      simpa using denied

/-- With a quota of at least zero, `Allow` returns. -/
theorem isSome_Allow (nonneg : 0 ≤ rl.quota) : (rl.Allow key now).1.isSome := by
  unfold Allow
  split_ifs with panics
  · simp only [Bool.and_eq_true, decide_eq_true_eq] at panics
    omega
  all_goals rfl

@[simp] theorem window_Allow : (rl.Allow key now).2.window = rl.window := by
  rcases Allow_cases rl key now with ⟨-, same⟩ | ⟨-, next⟩
  · rw [same]
  · rw [next]

@[simp] theorem quota_Allow : (rl.Allow key now).2.quota = rl.quota := by
  rcases Allow_cases rl key now with ⟨-, same⟩ | ⟨-, next⟩
  · rw [same]
  · rw [next]

@[simp] theorem ttl_Allow : (rl.Allow key now).2.lru.ttl = rl.lru.ttl := by
  rcases Allow_cases rl key now with ⟨-, same⟩ | ⟨-, next⟩
  · rw [same]
  · rw [next, Cache.ttl_add]

theorem entries_Allow_of_ne {other : String} (ne : other ≠ key) :
    (rl.Allow key now).2.lru.entries other = rl.lru.entries other := by
  rcases Allow_cases rl key now with ⟨-, same⟩ | ⟨-, next⟩
  · rw [same]
  · rw [next]
    exact Cache.entries_add_of_ne _ _ _ ne

end Allow

/-! ### Runs -/

theorem run_cons (rl : RateLimiter) (event : LimiterEvent) (events : List LimiterEvent) :
    rl.run (event :: events) =
      (((rl.step event).1.run events).1, (rl.step event).2 ++ ((rl.step event).1.run events).2) :=
  rfl

theorem step_allow (rl : RateLimiter) (key : String) (now : Int) :
    rl.step (.allow key now) = ((rl.Allow key now).2, [⟨key, now, (rl.Allow key now).1⟩]) :=
  rfl

theorem step_evict (rl : RateLimiter) (key : String) :
    rl.step (.evict key) = ({ rl with lru := rl.lru.remove key }, []) :=
  rfl

@[simp] theorem window_step (rl : RateLimiter) (event : LimiterEvent) :
    (rl.step event).1.window = rl.window := by
  cases event <;> simp [step]

@[simp] theorem quota_step (rl : RateLimiter) (event : LimiterEvent) :
    (rl.step event).1.quota = rl.quota := by
  cases event <;> simp [step]

theorem window_run : ∀ (rl : RateLimiter) (events : List LimiterEvent),
    (rl.run events).1.window = rl.window
  | _, [] => rfl
  | rl, event :: events => by rw [run_cons, window_run _ events, window_step]

theorem quota_run : ∀ (rl : RateLimiter) (events : List LimiterEvent),
    (rl.run events).1.quota = rl.quota
  | _, [] => rfl
  | rl, event :: events => by rw [run_cons, quota_run _ events, quota_step]

/-- The calls of a run are made at the times of its events. -/
theorem times_run : ∀ (rl : RateLimiter) (events : List LimiterEvent),
    (rl.run events).2.map Call.now = events.filterMap LimiterEvent.time?
  | _, [] => rfl
  | rl, .allow key now :: events => by
    rw [run_cons, List.map_append, times_run _ events]
    rfl
  | rl, .evict key :: events => by
    rw [run_cons, List.map_append, times_run _ events]
    rfl

end RateLimiter

/-! ### The law at one call -/

/-- A log for a key, stored when the last of its calls was let through at `added`, agrees with the
times its calls were let through: it is sorted, nothing in either is later than `added`, and both
have the same times in every window that ends at or after `added`. -/
structure Agrees (window added : Int) (stamps allowed : List Int) : Prop where
  sorted : stamps.Pairwise (· ≤ ·)
  stamps_le : ∀ s ∈ stamps, s ≤ added
  allowed_le : ∀ s ∈ allowed, s ≤ added
  added_mem : added ∈ allowed
  window_eq : ∀ cutoff, added - window ≤ cutoff →
    stamps.filter (fun s => decide (cutoff < s)) = allowed.filter (fun s => decide (cutoff < s))

/-- The limiter keeps track of `key` against the calls so far: its cache lives twice the window,
holds nothing for `key` while no call of it was let through, and otherwise a log that `Agrees`
with the times they were, stored at the last one. -/
structure Tracks (rl : RateLimiter) (key : String) (calls : List Call) : Prop where
  ttl : rl.lru.ttl = rl.window * 2
  missing : rl.lru.entries key = none → allowedTimes key calls = []
  kept : ∀ stamps expires, rl.lru.entries key = some (stamps, expires) →
    Agrees rl.window (expires - rl.lru.ttl) stamps (allowedTimes key calls)

theorem tracks_New (quota window : Int) (key : String) :
    Tracks (RateLimiter.New quota window) key [] :=
  ⟨rfl, fun _ => rfl, fun _ _ stored => nomatch stored⟩

theorem allowedTimes_append_call (key : String) (calls : List Call) (call : Call) :
    allowedTimes key (calls ++ [call]) =
      allowedTimes key calls ++
        if call.key = key ∧ call.result = some true then [call.now] else [] := by
  by_cases counted : call.key = key ∧ call.result = some true
  · simp [allowedTimes, List.filter_append, counted]
  · have skipped : (call.key == key && call.result == some true) = false := by simpa using counted
    simp [allowedTimes, List.filter_append, counted, skipped]

theorem le_of_mem_allowedTimes (key : String) {calls : List Call} {now : Int}
    (past : ∀ call ∈ calls, call.now ≤ now) : ∀ s ∈ allowedTimes key calls, s ≤ now := by
  intro s mem
  obtain ⟨call, called, rfl⟩ := List.mem_map.mp mem
  exact past call (List.mem_of_mem_filter called)

/-- Over calls made no later than `now`, the sliding-window count is the number of the key's
allowed times after `now - window`. -/
theorem allowedInWindow_eq {key : String} {calls : List Call} {now : Int} (window : Int)
    (past : ∀ call ∈ calls, call.now ≤ now) :
    allowedInWindow window key now calls =
      ((allowedTimes key calls).filter fun s => decide (now - window < s)).length := by
  rw [allowedInWindow, allowedTimes, List.filter_map, List.length_map, List.filter_filter,
    List.countP_eq_length_filter]
  congr 1
  apply List.filter_congr
  intro call called
  simp only [Function.comp_apply, decide_eq_true (past call called), Bool.and_true]
  rw [Bool.and_comm]

namespace Tracks

variable {rl : RateLimiter} {key : String} {calls : List Call}

/-- `Tracks` reads the calls only through the key's allowed times. -/
theorem of_allowedTimes (tracks : Tracks rl key calls) {calls' : List Call}
    (same : allowedTimes key calls' = allowedTimes key calls) : Tracks rl key calls' :=
  ⟨tracks.ttl, fun missing => same ▸ tracks.missing missing,
    fun log expires stored => same ▸ tracks.kept log expires stored⟩

theorem stamps_sorted (tracks : Tracks rl key calls) (now : Int) :
    (rl.stamps key now).Pairwise (· ≤ ·) := by
  apply List.Pairwise.sublist (List.dropWhile_sublist _)
  cases stored : rl.lru.entries key with
  | none =>
    rw [Cache.get_of_none stored]
    exact List.Pairwise.nil
  | some entry =>
    rw [Cache.get_of_some stored]
    split
    · exact List.Pairwise.nil
    · exact (tracks.kept entry.1 entry.2 stored).sorted

/-- **The trimmed log is the window.** At a call no earlier than every call so far, the log
`Allow` decides on is the key's allowed times after `now - window`. When the cache entry has
expired, the last of them is more than twice the window old, and none is left in the window. -/
theorem stamps_eq (tracks : Tracks rl key calls) {now : Int}
    (past : ∀ call ∈ calls, call.now ≤ now) :
    rl.stamps key now = (allowedTimes key calls).filter fun s => decide (now - rl.window < s) := by
  have allowedPast := le_of_mem_allowedTimes key past
  unfold RateLimiter.stamps
  cases stored : rl.lru.entries key with
  | none =>
    rw [Cache.get_of_none stored, Option.getD_none, List.dropWhile_nil, tracks.missing stored,
      List.filter_nil]
  | some entry =>
    obtain ⟨log, expires⟩ := entry
    have agrees := tracks.kept log expires stored
    have ttl := tracks.ttl
    rw [Cache.get_of_some stored]
    split
    case isTrue expired =>
      rw [Option.getD_none, List.dropWhile_nil, eq_comm]
      apply filter_lt_eq_nil
      intro s mem
      have early := agrees.allowed_le s mem
      have late := allowedPast s mem
      omega
    case isFalse =>
      have recent := allowedPast _ agrees.added_mem
      rw [Option.getD_some, dropWhile_le_eq_filter _ agrees.sorted, agrees.window_eq]
      omega

/-- **The law at one call.** A call no earlier than every call so far is let through exactly when
fewer than `quota` calls of its key were let through in `(now - window, now]`. -/
theorem Allow_iff (tracks : Tracks rl key calls) {now : Int}
    (past : ∀ call ∈ calls, call.now ≤ now) :
    (rl.Allow key now).1 = some true ↔ (allowedInWindow rl.window key now calls : Int) < rl.quota := by
  rw [RateLimiter.Allow_eq_some_true_iff, tracks.stamps_eq past, allowedInWindow_eq _ past]

/-- A call of the tracked key keeps `Tracks`: a denied one stores nothing and counts nothing, an
allowed one stores the window and its own time. -/
theorem allow_self (tracks : Tracks rl key calls) {now : Int}
    (past : ∀ call ∈ calls, call.now ≤ now) :
    Tracks (rl.Allow key now).2 key (calls ++ [⟨key, now, (rl.Allow key now).1⟩]) := by
  have times := allowedTimes_append_call key calls ⟨key, now, (rl.Allow key now).1⟩
  rcases RateLimiter.Allow_cases rl key now with ⟨denied, same⟩ | ⟨allowed, next⟩
  case inl =>
    rw [same]
    exact tracks.of_allowedTimes (by simpa [denied] using times)
  case inr =>
    simp only [allowed, and_self, if_true] at times
    rw [allowed, next]
    have window := tracks.stamps_eq past
    have allowedPast := le_of_mem_allowedTimes key past
    refine ⟨tracks.ttl, fun missing => by simp at missing, fun log expires stored => ?_⟩
    rw [times]
    simp only [Cache.entries_add_self, Option.some.injEq, Prod.mk.injEq] at stored
    obtain ⟨rfl, rfl⟩ := stored
    simp only [Cache.ttl_add, add_sub_cancel_right]
    -- the stored log is the window at `now`, then `now`
    have windowPast : ∀ s ∈ rl.stamps key now, s ≤ now := fun s mem =>
      allowedPast s (List.mem_of_mem_filter (window ▸ mem))
    refine ⟨?_, ?_, ?_, by simp, fun cutoff later => ?_⟩
    · exact List.pairwise_append.mpr ⟨tracks.stamps_sorted now, List.pairwise_singleton _ _,
        fun s mem t single => (List.mem_singleton.mp single) ▸ windowPast s mem⟩
    · exact List.forall_mem_append.mpr ⟨windowPast, List.forall_mem_singleton.mpr le_rfl⟩
    · exact List.forall_mem_append.mpr ⟨allowedPast, List.forall_mem_singleton.mpr le_rfl⟩
    · rw [List.filter_append, List.filter_append, window, filter_lt_filter_lt _ later]

/-- A call of another key keeps `Tracks`. -/
theorem allow_other (tracks : Tracks rl key calls) {other : String} (ne : other ≠ key)
    (now : Int) :
    Tracks (rl.Allow other now).2 key (calls ++ [⟨other, now, (rl.Allow other now).1⟩]) := by
  have entry := RateLimiter.entries_Allow_of_ne rl other now (Ne.symm ne)
  have times := allowedTimes_append_call key calls ⟨other, now, (rl.Allow other now).1⟩
  rw [if_neg fun counted => ne counted.1, List.append_nil] at times
  apply Tracks.of_allowedTimes _ times
  refine ⟨?_, fun missing => tracks.missing (entry ▸ missing), fun log expires stored => ?_⟩
  · rw [RateLimiter.ttl_Allow, RateLimiter.window_Allow]
    exact tracks.ttl
  · rw [RateLimiter.ttl_Allow, RateLimiter.window_Allow]
    exact tracks.kept log expires (entry ▸ stored)

/-- The LRU evicting another key keeps `Tracks`. -/
theorem evict_other (tracks : Tracks rl key calls) {other : String} (ne : other ≠ key) :
    Tracks { rl with lru := rl.lru.remove other } key calls := by
  have entry := Cache.entries_remove_of_ne rl.lru (Ne.symm ne)
  exact ⟨tracks.ttl, fun missing => tracks.missing (entry ▸ missing),
    fun log expires stored => tracks.kept log expires (entry ▸ stored)⟩

/-- Every event but the eviction of the tracked key keeps `Tracks`, when its call comes no earlier
than every call so far. -/
theorem step (tracks : Tracks rl key calls) {event : LimiterEvent}
    (kept : event ≠ .evict key)
    (past : ∀ call ∈ calls, ∀ time ∈ event.time?, call.now ≤ time) :
    Tracks (rl.step event).1 key (calls ++ (rl.step event).2) := by
  cases event with
  | allow other now =>
    by_cases same : other = key
    case pos =>
      subst same
      exact tracks.allow_self fun call called => past call called now rfl
    case neg => exact tracks.allow_other same now
  | evict other =>
    have ne : other ≠ key := fun same => kept (same ▸ rfl)
    rw [RateLimiter.step, List.append_nil]
    exact tracks.evict_other ne

end Tracks

theorem mem_step {rl : RateLimiter} {event : LimiterEvent} {call : Call}
    (made : call ∈ (rl.step event).2) : event.time? = some call.now := by
  cases event with
  | allow key now =>
    rw [RateLimiter.step, List.mem_singleton] at made
    rw [made]
    rfl
  | evict key => cases made

theorem Clock.cons {event : LimiterEvent} {events : List LimiterEvent}
    (clock : Clock (event :: events)) :
    Clock events ∧ ∀ time ∈ event.time?, ∀ later ∈ events.filterMap LimiterEvent.time?,
      time ≤ later := by
  unfold Clock at clock ⊢
  cases timed : event.time? with
  | none =>
    rw [List.filterMap_cons_none timed] at clock
    exact ⟨clock, fun _ none => nomatch none⟩
  | some time =>
    rw [List.filterMap_cons_some timed, List.pairwise_cons] at clock
    exact ⟨clock.2, fun first same => Option.some_inj.mp same ▸ clock.1⟩

/-- **`Tracks` over a run**: from calls no later than the run's, with the clock going forward and
the tracked key never evicted. -/
theorem Tracks.run {key : String} : ∀ (events : List LimiterEvent) (rl : RateLimiter)
    (calls : List Call), Tracks rl key calls → Clock events →
    (∀ call ∈ calls, ∀ time ∈ events.filterMap LimiterEvent.time?, call.now ≤ time) →
    LimiterEvent.evict key ∉ events → Tracks (rl.run events).1 key (calls ++ (rl.run events).2)
  | [], rl, calls, tracks, _, _, _ => by
    rw [RateLimiter.run, List.append_nil]
    exact tracks
  | event :: events, rl, calls, tracks, clock, past, kept => by
    obtain ⟨clockRest, ordered⟩ := clock.cons
    -- the event's own call comes no earlier than the calls before it
    have now : ∀ call ∈ calls, ∀ time ∈ event.time?, call.now ≤ time :=
      fun call called time timed =>
        past call called time (List.mem_filterMap.mpr ⟨event, List.mem_cons_self, timed⟩)
    have stepped := tracks.step (fun same => kept (same ▸ List.mem_cons_self)) now
    rw [RateLimiter.run_cons, ← List.append_assoc]
    apply Tracks.run events _ _ stepped clockRest _ fun mem => kept (List.mem_cons_of_mem _ mem)
    intro call called time later
    rcases List.mem_append.mp called with before | made
    · exact past call before time
        (((List.sublist_cons_self event events).filterMap _).subset later)
    · exact ordered call.now (mem_step made) time later

/-! ### Keys do not meet -/

/-- Two limiters that agree on `key`: the same window, quota and TTL, and the same entry for it. -/
def SameFor (key : String) (rl rl' : RateLimiter) : Prop :=
  rl.lru.entries key = rl'.lru.entries key ∧ rl.lru.ttl = rl'.lru.ttl ∧ rl.window = rl'.window ∧
    rl.quota = rl'.quota

theorem SameFor.Allow {key : String} {rl rl' : RateLimiter} (same : SameFor key rl rl')
    (now : Int) :
    (rl.Allow key now).1 = (rl'.Allow key now).1 ∧
      SameFor key (rl.Allow key now).2 (rl'.Allow key now).2 := by
  obtain ⟨entry, ttl, window, quota⟩ := same
  have cached : rl.lru.get key now = rl'.lru.get key now := by
    rw [Cache.get, Cache.get, entry]
  have stamps : rl.stamps key now = rl'.stamps key now := by
    rw [RateLimiter.stamps, RateLimiter.stamps, cached, window]
  unfold RateLimiter.Allow
  rw [cached, stamps, quota]
  by_cases panics : (rl'.lru.get key now).isNone && decide (rl'.quota < 0)
  · rw [if_pos panics, if_pos panics]
    exact ⟨rfl, entry, ttl, window, quota⟩
  · by_cases denied : rl'.quota ≤ (rl'.stamps key now).length
    · rw [if_neg panics, if_pos denied, if_neg panics, if_pos denied]
      exact ⟨rfl, entry, ttl, window, quota⟩
    · rw [if_neg panics, if_neg denied, if_neg panics, if_neg denied]
      exact ⟨rfl, by simp [ttl], ttl, window, rfl⟩

theorem SameFor.Allow_other {key other : String} {rl rl' : RateLimiter}
    (same : SameFor key rl rl') (ne : other ≠ key) (now : Int) :
    SameFor key (rl.Allow other now).2 rl' := by
  obtain ⟨entry, ttl, window, quota⟩ := same
  refine ⟨?_, ?_, ?_, ?_⟩
  · rw [RateLimiter.entries_Allow_of_ne _ _ _ (Ne.symm ne), entry]
  · rw [RateLimiter.ttl_Allow, ttl]
  · rw [RateLimiter.window_Allow, window]
  · rw [RateLimiter.quota_Allow, quota]

/-- **The calls of one key come out as in a run of its events alone.** -/
theorem run_filter_key (key : String) : ∀ (events : List LimiterEvent) (rl rl' : RateLimiter),
    SameFor key rl rl' →
    (rl.run events).2.filter (·.key == key) = (rl'.run (events.filter (·.key == key))).2
  | [], _, _, _ => rfl
  | .allow other now :: events, rl, rl', same => by
    by_cases mine : other = key
    case pos =>
      subst mine
      obtain ⟨result, next⟩ := same.Allow now
      rw [List.filter_cons_of_pos (by simp [LimiterEvent.key]), RateLimiter.run_cons,
        RateLimiter.run_cons, RateLimiter.step_allow, RateLimiter.step_allow]
      dsimp only
      rw [List.filter_append, run_filter_key other events _ _ next, result]
      simp
    case neg =>
      rw [List.filter_cons_of_neg (by simpa [LimiterEvent.key] using mine), RateLimiter.run_cons,
        RateLimiter.step_allow]
      dsimp only
      rw [List.filter_append, run_filter_key key events _ rl' (same.Allow_other mine now)]
      simp [mine]
  | .evict other :: events, rl, rl', same => by
    obtain ⟨entry, ttl, window, quota⟩ := same
    by_cases mine : other = key
    case pos =>
      subst mine
      rw [List.filter_cons_of_pos (by simp [LimiterEvent.key]), RateLimiter.run_cons,
        RateLimiter.run_cons, RateLimiter.step_evict, RateLimiter.step_evict]
      dsimp only
      rw [List.nil_append, List.nil_append,
        run_filter_key other events { rl with lru := rl.lru.remove other }
          { rl' with lru := rl'.lru.remove other } ⟨by simp, ttl, window, quota⟩]
    case neg =>
      -- evicting another key leaves this key's entry
      have kept : (rl.lru.remove other).entries key = rl'.lru.entries key := by
        rw [Cache.entries_remove_of_ne _ (Ne.symm mine), entry]
      rw [List.filter_cons_of_neg (by simpa [LimiterEvent.key] using mine), RateLimiter.run_cons,
        RateLimiter.step_evict]
      dsimp only
      rw [List.nil_append,
        run_filter_key key events { rl with lru := rl.lru.remove other } rl'
          ⟨kept, ttl, window, quota⟩]

/-! ### The law -/

theorem rate_limiter_sliding_window (quota window : Int) :
    (∀ (events : List LimiterEvent) (key : String) (now : Int),
        Clock (events ++ [.allow key now]) → LimiterEvent.evict key ∉ events →
        ((((RateLimiter.New quota window).run events).1.Allow key now).1 = some true ↔
          (allowedInWindow window key now ((RateLimiter.New quota window).run events).2 : Int) <
            quota)) ∧
      (0 ≤ quota → ∀ (events : List LimiterEvent) (key : String) (now : Int),
        (((RateLimiter.New quota window).run events).1.Allow key now).1.isSome) ∧
      (∀ (rl : RateLimiter) (key : String) (now : Int), (rl.Allow key now).1 ≠ some true →
        (rl.Allow key now).2 = rl) ∧
      (∀ (events : List LimiterEvent) (key : String),
        ((RateLimiter.New quota window).run events).2.filter (·.key == key) =
          ((RateLimiter.New quota window).run (events.filter (·.key == key))).2) := by
  refine ⟨fun events key now clock kept => ?_, fun nonneg events key now => ?_,
    fun rl key now denied => ?_, fun events key => ?_⟩
  · -- every time of the run comes before `now`
    have sorted : Clock events ∧ ∀ time ∈ events.filterMap LimiterEvent.time?, time ≤ now := by
      unfold Clock at clock ⊢
      rw [List.filterMap_append, List.pairwise_append] at clock
      exact ⟨clock.1, fun time timed => clock.2.2 time timed now (by simp [LimiterEvent.time?])⟩
    have past : ∀ call ∈ ((RateLimiter.New quota window).run events).2, call.now ≤ now := by
      intro call made
      apply sorted.2
      rw [← RateLimiter.times_run (RateLimiter.New quota window)]
      exact List.mem_map_of_mem made
    have tracks := Tracks.run events _ [] (tracks_New quota window key) sorted.1
      (fun _ none => nomatch none) kept
    rw [List.nil_append] at tracks
    rw [tracks.Allow_iff past, RateLimiter.window_run, RateLimiter.quota_run]
    rfl
  · apply RateLimiter.isSome_Allow
    rw [RateLimiter.quota_run]
    exact nonneg
  · rcases RateLimiter.Allow_cases rl key now with ⟨-, same⟩ | ⟨allowed, -⟩
    · exact same
    · exact absurd allowed denied
  · exact run_filter_key key events _ _ ⟨rfl, rfl, rfl, rfl⟩

/-- `TestResetAfterWindow`: a quota of two in 50 ms, calls at 0, 1 and 2 ms, the third denied. -/
def resetEvents : List LimiterEvent :=
  [.allow "1.2.3.4" 0, .allow "1.2.3.4" 1000000, .allow "1.2.3.4" 2000000]

/-- At 62 ms the two calls let through have left the window, and the call is let through. -/
theorem rate_limiter_sliding_window_reset :
    Clock (resetEvents ++ [.allow "1.2.3.4" 62000000]) ∧
      LimiterEvent.evict "1.2.3.4" ∉ resetEvents ∧
      (((RateLimiter.New 2 50000000).run resetEvents).1.Allow "1.2.3.4" 62000000).1 = some true :=
  ⟨by decide, by decide,
    ((rate_limiter_sliding_window 2 50000000).1 resetEvents "1.2.3.4" 62000000 (by decide)
      (by decide)).mpr (by decide)⟩

end Kamune
