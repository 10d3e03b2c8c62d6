/-
**`RotateDataKey` beside other commands (`internal/engine/bolt_store.go`).**

The rotation takes its snapshot in a `View`, writes it back re-encrypted in a later `Update`, and
swaps the store's cipher after that. Each `Command` of another goroutine is one `Update`, run
under the cipher the store has as it begins. bbolt runs one writer at a time and a `View` sees
one commit, so a run of the store is an interleaving of these steps (`Interleaving.System`).

* `BoltStore.Command_sameShape`, `rotationSystem_keeps_buckets`: commands and the rotation change
  values only, so through every schedule the file keeps its buckets;
* `rotate_data_key_restores_stale_snapshot`: whatever commands commit between the two phases,
  once the rotation returns each value of the snapshot reads as it was at the snapshot.
-/

import Kamune.Rotation
import Kamune.Lib.Interleaving

namespace Kamune

open Wire Interleaving

/-! ### Commands of other goroutines -/

/-- `Bucket.Delete` on a bucket's entries: the key's value goes; a key that holds a nested bucket
is refused, an absent key is no error. -/
def deleteValue (entries : List (Bytes × Node)) (key : Bytes) :
    Except BoltError (List (Bytes × Node)) :=
  match entries.lookup key with
  | some (.bucket _) => .error .incompatibleValue
  | some (.value _) => .ok (entries.filter fun entry => entry.1 != key)
  | none => .ok entries

/-- `Delete` through a handle on the bucket at a path. -/
def Bolt.delete (db : Bolt) (path : Path) (key : Bytes) : Except BoltError Bolt :=
  db.modify path (deleteValue · key)

/-- A `BoltStore`: the file, and the data cipher `Query` and `Command` hand to their functions. -/
structure BoltStore where
  db : Bolt
  cipher : Enigma

/-- A `Command` of another goroutine: a `PutEncrypted` or a `Delete` on the bucket at a path. -/
inductive StoreCommand where
  | putEncrypted (path : Path) (key plaintext : Bytes) (tape : Nat → UInt8)
  | delete (path : Path) (key : Bytes)

variable (crypto : Primitives)

/-- `BoltStore.Command` with one command, under the cipher the store has as it begins: committed
when it goes through, rolled back when it fails. -/
def BoltStore.Command (store : BoltStore) : StoreCommand → BoltStore
  | .putEncrypted path key plaintext tape =>
    match store.db.put path key (store.cipher.Encrypt crypto tape plaintext) with
    | .ok db => { store with db }
    | .error _ => store
  | .delete path key =>
    match store.db.delete path key with
    | .ok db => { store with db }
    | .error _ => store

/-- `GetEncrypted` in a `Query`: the value under the store's cipher; `none` where the key holds no
value (`ErrMissingItem`). -/
def BoltStore.GetEncrypted (store : BoltStore) (path : Path) (key : Bytes) :
    Option (Except DecryptError Bytes) :=
  (store.db.value path key).map (store.cipher.Decrypt crypto)

/-! ### The rotation as steps -/

/-- Where a `RotateDataKey` call is: before its read phase; holding the old cipher and its
snapshot; written and about to swap the cipher; returned. -/
inductive RotationStage where
  | reading
  | writing (oldCipher : Enigma) (snapshot : List RotationEntry)
  | swapping
  | returned

/-- A goroutine using the store: the one rotating the key, or one issuing commands. -/
inductive Worker where
  | rotating (stage : RotationStage)
  | commanding (pending : List StoreCommand)

/-- One step of a goroutine. The rotation's old cipher is the store's (`extractCipher` under the
store's passphrase); a write phase that fails returns without the swap, and one that panics
takes no further step. -/
def rotationSystem (newCipher : Enigma) (tapes : Nat → Nat → UInt8) (cipherMeta : CipherMeta) :
    System BoltStore Worker where
  step := fun store worker =>
    match worker with
    | .rotating .reading =>
      some (store, .rotating (.writing store.cipher (readPhase store.db)))
    | .rotating (.writing oldCipher snapshot) =>
      match writePhase crypto oldCipher newCipher tapes cipherMeta snapshot store.db with
      | some (.ok db) => some ({ store with db }, .rotating .swapping)
      | some (.error _) => some (store, .rotating .returned)
      | none => none
    | .rotating .swapping => some ({ store with cipher := newCipher }, .rotating .returned)
    | .rotating .returned => none
    | .commanding [] => none
    | .commanding (command :: rest) => some (store.Command crypto command, .commanding rest)

/-! ### Commands change values only -/

theorem lookup_filter_key {β : Type} (key other : Bytes) : ∀ entries : List (Bytes × β),
    (entries.filter fun entry => entry.1 != key).lookup other =
      if other = key then none else entries.lookup other
  | [] => by simp
  | (first, node) :: rest => by
    have later := lookup_filter_key key other rest
    rw [List.filter_cons]
    by_cases same : first = key
    · subst same
      rw [if_neg (by simp), later, lookup_cons_eq_ite]
      by_cases named : other = first
      · simp only [if_pos named]
      · simp only [if_neg named]
    · rw [if_pos (by simpa using same), lookup_cons_eq_ite, later, lookup_cons_eq_ite]
      by_cases named : other = key
      · subst named
        rw [if_neg (Ne.symm same), if_pos rfl, if_pos rfl]
      · simp only [if_neg named]

theorem deleteValue_keepsBuckets (key : Bytes) : KeepsBuckets (deleteValue · key) := by
  intro entries entries' deleted name
  change deleteValue entries key = .ok entries' at deleted
  unfold deleteValue at deleted
  split at deleted
  case h_1 => cases deleted
  case h_2 found =>
    cases deleted
    unfold childBucket
    rw [lookup_filter_key]
    split_ifs with same
    · subst same
      rw [found]
    · rfl
  case h_3 => cases deleted; rfl

/-- **A command changes values only**, and keeps the store's cipher. -/
theorem BoltStore.Command_sameShape (store : BoltStore) (command : StoreCommand) :
    store.db.SameShape (store.Command crypto command).db ∧
      (store.Command crypto command).cipher = store.cipher := by
  cases command with
  | putEncrypted path key plaintext tape =>
    rw [BoltStore.Command]
    split
    case h_1 db put => exact ⟨Bolt.sameShape_put put, rfl⟩
    case h_2 => exact ⟨fun _ => rfl, rfl⟩
  | delete path key =>
    rw [BoltStore.Command]
    split
    case h_1 db deleted =>
      exact ⟨Bolt.sameShape_modify (deleteValue_keepsBuckets key) deleted, rfl⟩
    case h_2 => exact ⟨fun _ => rfl, rfl⟩

/-! ### Runs of the store -/

section Runs

variable {newCipher : Enigma} {tapes : Nat → Nat → UInt8} {cipherMeta : CipherMeta}

/-- The rotation's write step, by the outcome of the write phase. -/
theorem rotationSystem_step_writing (store : BoltStore) (oldCipher : Enigma)
    (snapshot : List RotationEntry) :
    (rotationSystem crypto newCipher tapes cipherMeta).step store
        (.rotating (.writing oldCipher snapshot)) =
      match writePhase crypto oldCipher newCipher tapes cipherMeta snapshot store.db with
      | some (.ok db) => some ({ store with db }, Worker.rotating .swapping)
      | some (.error _) => some (store, Worker.rotating .returned)
      | none => none :=
  rfl

/-- A step of any goroutine changes values only. -/
theorem rotationSystem_step_sameShape {store store' : BoltStore} {worker worker' : Worker}
    (stepped : (rotationSystem crypto newCipher tapes cipherMeta).step store worker =
      some (store', worker')) :
    store.db.SameShape store'.db := by
  cases worker with
  | rotating stage =>
    cases stage with
    | reading =>
      cases stepped
      exact fun _ => rfl
    | writing oldCipher snapshot =>
      rw [rotationSystem_step_writing] at stepped
      split at stepped
      case h_1 db rotated =>
        cases stepped
        exact writePhase_sameShape crypto rotated
      case h_2 =>
        cases stepped
        exact fun _ => rfl
      case h_3 => cases stepped
    | swapping =>
      cases stepped
      exact fun _ => rfl
    | returned => cases stepped
  | commanding pending =>
    cases pending with
    | nil => cases stepped
    | cons command rest =>
      cases stepped
      exact (store.Command_sameShape crypto command).1

/-- **Through every schedule the file keeps its buckets.** -/
theorem rotationSystem_keeps_buckets (schedule : List Nat) (config : Config BoltStore Worker) :
    config.shared.db.SameShape
      ((rotationSystem crypto newCipher tapes cipherMeta).run config schedule).shared.db := by
  refine System.run_invariant _ (fun current => config.shared.db.SameShape current.shared.db)
    (fun current index next holds stepped => ?_) schedule config fun _ => rfl
  obtain ⟨thread, result, -, step, rfl⟩ := System.stepAt_eq_some _ stepped
  exact holds.trans (rotationSystem_step_sameShape crypto step)

/-- The commands of the other goroutine, each one step, while the rotation waits. -/
theorem run_commands (stage : RotationStage) : ∀ (store : BoltStore) (commands : List StoreCommand),
    (rotationSystem crypto newCipher tapes cipherMeta).run
        ⟨store, [Worker.rotating stage, .commanding commands]⟩
        (List.replicate commands.length 1) =
      ⟨commands.foldl (BoltStore.Command crypto) store, [Worker.rotating stage, .commanding []]⟩
  | store, [] => rfl
  | store, command :: rest => by
    rw [List.length_cons, List.replicate_succ, System.run_cons]
    exact run_commands stage (store.Command crypto command) rest

theorem rotationSystem_write {store : BoltStore} {oldCipher : Enigma}
    {snapshot : List RotationEntry} {db' : Bolt}
    (rotated : writePhase crypto oldCipher newCipher tapes cipherMeta snapshot store.db =
      some (.ok db')) :
    (rotationSystem crypto newCipher tapes cipherMeta).step store
        (.rotating (.writing oldCipher snapshot)) =
      some ({ store with db := db' }, .rotating .swapping) := by
  rw [rotationSystem_step_writing, rotated]

end Runs

/-! ### The snapshot comes back -/

/-- **A rotation puts its stale snapshot back.** Let the rotation read a file bbolt keeps, whose
names hold no `'/'` and whose key metadata `extractCipher` found, then let another goroutine's
commands commit, and then let the rotation write and swap its cipher. It returns, and each value
it read that decrypted under the old cipher (other than the metadata) then reads as it was at the
read: whatever the commands wrote there, or deleted, is gone. -/
theorem rotate_data_key_restores_stale_snapshot :
    ∀ (crypto : Primitives), crypto.Lawful → ∀ (newCipher : Enigma)
      (tapes : Nat → Nat → UInt8) (cipherMeta : CipherMeta) (store : BoltStore)
      (commands : List StoreCommand),
      store.db.KeysUnique → store.db.SlashFree → store.db.HasMetadata →
      ∃ final, (rotationSystem crypto newCipher tapes cipherMeta).run
          ⟨store, [.rotating .reading, .commanding commands]⟩
          (0 :: List.replicate commands.length 1 ++ [0, 0]) = final ∧
        final.threads = [.rotating .returned, .commanding []] ∧ final.shared.cipher = newCipher ∧
        ∀ q key data plaintext, store.db.value q key = some data →
          store.cipher.Decrypt crypto data = .ok plaintext →
          ¬(q = [DefaultNamespace] ∧ key ∈ metadataKeys) →
          final.shared.GetEncrypted crypto q key = some (.ok plaintext) := by
  intro crypto lawful newCipher tapes cipherMeta store commands unique free extracted
  have commanded := @run_commands crypto newCipher tapes cipherMeta
    (.writing store.cipher (readPhase store.db)) store commands
  set written := commands.foldl (BoltStore.Command crypto) store
  -- the commands leave the buckets, so the write phase goes through
  have same : store.db.SameShape written.db := by
    have kept := @rotationSystem_keeps_buckets crypto newCipher tapes cipherMeta
      (List.replicate commands.length 1)
      ⟨store, [Worker.rotating (.writing store.cipher (readPhase store.db)), .commanding commands]⟩
    rw [commanded] at kept
    exact kept
  obtain ⟨db', rotated⟩ := @writePhase_readPhase_ok crypto store.cipher newCipher tapes cipherMeta
    store.db written.db unique free extracted same
  refine ⟨⟨{ written with db := db', cipher := newCipher }, [.rotating .returned, .commanding []]⟩,
    ?_, rfl, rfl, fun q key data plaintext stored decrypted notMetadata => ?_⟩
  · rw [System.run_append, System.run_cons]
    change (rotationSystem crypto newCipher tapes cipherMeta).run
      ((rotationSystem crypto newCipher tapes cipherMeta).run
        ⟨store, [Worker.rotating (.writing store.cipher (readPhase store.db)),
          .commanding commands]⟩
        (List.replicate commands.length 1)) [0, 0] = _
    rw [commanded, System.run_cons, System.stepAt_cons_zero, rotationSystem_write crypto rotated]
    rfl
  · obtain ⟨data', value, reads⟩ := writePhase_restores_snapshot crypto lawful unique free same
      rotated stored decrypted notMetadata
    unfold BoltStore.GetEncrypted
    rw [value, Option.map_some, reads]

/-- A file as `NewBoltDB` leaves it, with one session `[115]` holding `data` under `[7]`. -/
def sessionFile (data : Bytes) : Bolt :=
  [(DefaultNamespace, metadataKeys.map fun key => (key, Node.value [0])),
    (SessionsNamespace, [([115], .bucket [([7], .value data)])])]

theorem rotate_data_key_restores_stale_snapshot_overwrite :
    ((rotationSystem Primitives.plain ⟨[2]⟩ (fun _ _ => 0) ⟨[], [], [], []⟩).run
        ⟨⟨sessionFile (Enigma.Encrypt Primitives.plain ⟨[1]⟩ (fun _ => 0) [5]), ⟨[1]⟩⟩,
          [.rotating .reading,
            .commanding [.putEncrypted [SessionsNamespace, [115]] [7] [6] fun _ => 0]]⟩
        [0, 1]).shared.GetEncrypted Primitives.plain [SessionsNamespace, [115]] [7] =
      some (.ok [6]) ∧
    ((rotationSystem Primitives.plain ⟨[2]⟩ (fun _ _ => 0) ⟨[], [], [], []⟩).run
        ⟨⟨sessionFile (Enigma.Encrypt Primitives.plain ⟨[1]⟩ (fun _ => 0) [5]), ⟨[1]⟩⟩,
          [.rotating .reading,
            .commanding [.putEncrypted [SessionsNamespace, [115]] [7] [6] fun _ => 0]]⟩
        [0, 1, 0, 0]).shared.GetEncrypted Primitives.plain [SessionsNamespace, [115]] [7] =
      some (.ok [5]) := by
  refine ⟨by decide, ?_⟩
  obtain ⟨final, ran, -, -, reads⟩ := rotate_data_key_restores_stale_snapshot Primitives.plain
    Primitives.plain_lawful ⟨[2]⟩ (fun _ _ => 0) ⟨[], [], [], []⟩
    ⟨sessionFile (Enigma.Encrypt Primitives.plain ⟨[1]⟩ (fun _ => 0) [5]), ⟨[1]⟩⟩
    [.putEncrypted [SessionsNamespace, [115]] [7] [6] fun _ => 0] (by decide) (by decide)
    (by decide)
  have restored := reads [SessionsNamespace, [115]] [7]
    (Enigma.Encrypt Primitives.plain ⟨[1]⟩ (fun _ => 0) [5]) [5] (by decide) (by decide)
    (by decide)
  rw [← ran] at restored
  exact restored

end Kamune
