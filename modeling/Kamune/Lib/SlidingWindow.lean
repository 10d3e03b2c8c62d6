/-
**Sliding windows over a log of times, and a cache whose entries expire.**

A sliding-window rate limit keeps, for each key, the times of the requests it let through, and
forgets those that have left the window. Kept in order, the log is trimmed from the front: the
loop that drops the entries at or before a cutoff. The logs live in a cache whose entries expire
a fixed time after they were last added.

* `dropWhile_le_eq_filter`: **on a sorted log, trimming from the front keeps exactly the entries
  after the cutoff**;
* `filter_lt_filter_lt`, `filter_lt_eq_nil`: windows that end later, and a window past every
  entry;
* `Cache.get_add_self`, `Cache.entries_add_of_ne`, `Cache.entries_remove_of_ne`: what the cache
  returns after an `add` or a `remove`.
-/

import Mathlib

namespace SlidingWindow

/-! ### Trimming a sorted log -/

section Trim

variable {α : Type} [LinearOrder α]

/-- **Trimming from the front.** On a sorted log, dropping the entries at or before `cutoff` while
they lead keeps exactly the entries after it. -/
theorem dropWhile_le_eq_filter (cutoff : α) :
    ∀ {log : List α}, log.Pairwise (· ≤ ·) →
      log.dropWhile (fun s => decide (s ≤ cutoff)) = log.filter (fun s => decide (cutoff < s))
  | [], _ => rfl
  | s :: rest, sorted => by
    rw [List.pairwise_cons] at sorted
    by_cases early : s ≤ cutoff
    case pos =>
      rw [List.dropWhile_cons_of_pos (by simpa using early),
        List.filter_cons_of_neg (by simpa using early), dropWhile_le_eq_filter cutoff sorted.2]
    case neg =>
      -- the first entry is after the cutoff, and so is every later one
      have later : ∀ t ∈ rest, decide (cutoff < t) = true := fun t mem =>
        decide_eq_true (lt_of_lt_of_le (not_le.mp early) (sorted.1 t mem))
      rw [List.dropWhile_cons_of_neg (by simpa using early),
        List.filter_cons_of_pos (by simpa using not_le.mp early), List.filter_eq_self.mpr later]

/-- A window that ends later, taken of a window, is the later window. -/
theorem filter_lt_filter_lt (log : List α) {cutoff later : α} (le : cutoff ≤ later) :
    (log.filter fun s => decide (cutoff < s)).filter (fun s => decide (later < s)) =
      log.filter fun s => decide (later < s) := by
  rw [List.filter_filter]
  apply List.filter_congr
  intro s _
  by_cases after : later < s
  · simp [after, lt_of_le_of_lt le after]
  · simp [after]

/-- A window that starts after every entry is empty. -/
theorem filter_lt_eq_nil {log : List α} {cutoff : α} (before : ∀ s ∈ log, s ≤ cutoff) :
    log.filter (fun s => decide (cutoff < s)) = [] :=
  List.filter_eq_nil_iff.mpr fun s mem => by simpa using before s mem

end Trim

/-! ### A cache whose entries expire -/

/-- A cache from `κ` to `ν` with times in `τ`: each entry is stored with the time it expires,
`ttl` after it was added. -/
structure Cache (κ ν τ : Type) where
  entries : κ → Option (ν × τ)
  ttl : τ

namespace Cache

variable {κ ν τ : Type} [DecidableEq κ]

/-- Forget `key`. -/
def remove (cache : Cache κ ν τ) (key : κ) : Cache κ ν τ :=
  { cache with entries := Function.update cache.entries key none }

@[simp] theorem ttl_remove (cache : Cache κ ν τ) (key : κ) : (cache.remove key).ttl = cache.ttl :=
  rfl

@[simp] theorem entries_remove_self (cache : Cache κ ν τ) (key : κ) :
    (cache.remove key).entries key = none :=
  Function.update_self ..

theorem entries_remove_of_ne (cache : Cache κ ν τ) {key other : κ} (ne : other ≠ key) :
    (cache.remove key).entries other = cache.entries other :=
  Function.update_of_ne ne ..

section Add

variable [Add τ]

/-- Store `value` for `key` at `now`, replacing what was there. -/
def add (cache : Cache κ ν τ) (key : κ) (value : ν) (now : τ) : Cache κ ν τ :=
  { cache with entries := Function.update cache.entries key (some (value, now + cache.ttl)) }

@[simp] theorem ttl_add (cache : Cache κ ν τ) (key : κ) (value : ν) (now : τ) :
    (cache.add key value now).ttl = cache.ttl := rfl

@[simp] theorem entries_add_self (cache : Cache κ ν τ) (key : κ) (value : ν) (now : τ) :
    (cache.add key value now).entries key = some (value, now + cache.ttl) :=
  Function.update_self ..

theorem entries_add_of_ne (cache : Cache κ ν τ) {key other : κ} (value : ν) (now : τ)
    (ne : other ≠ key) : (cache.add key value now).entries other = cache.entries other :=
  Function.update_of_ne ne ..

end Add

section Get

variable [LinearOrder τ]

/-- The value stored for `key`, unless it expired before `now`. -/
def get (cache : Cache κ ν τ) (key : κ) (now : τ) : Option ν :=
  (cache.entries key).bind fun entry => if entry.2 < now then none else some entry.1

omit [DecidableEq κ] in
theorem get_of_none {cache : Cache κ ν τ} {key : κ} (missing : cache.entries key = none)
    (now : τ) : cache.get key now = none := by
  rw [get, missing, Option.bind_none]

omit [DecidableEq κ] in
theorem get_of_some {cache : Cache κ ν τ} {key : κ} {value : ν} {expires : τ}
    (stored : cache.entries key = some (value, expires)) (now : τ) :
    cache.get key now = if expires < now then none else some value := by
  rw [get, stored, Option.bind_some]

theorem get_add_self [Add τ] (cache : Cache κ ν τ) (key : κ) (value : ν) (now later : τ) :
    (cache.add key value now).get key later =
      if now + cache.ttl < later then none else some value :=
  get_of_some (entries_add_self cache key value now) later

end Get

end Cache

end SlidingWindow
