/-
**Rotating the data key (`internal/engine/bolt_store.go`: `RotateDataKey`, `navigateBucket`).**

The rotation reads every value of the file in one `View`, walking the tree of buckets and naming
a bucket by its names joined with `'/'`. In one `Update` it then decrypts each value with the old
data cipher, encrypts it with the new one and puts it back, finding the bucket again from the
joined name: as a top-level bucket, else by splitting the name at `'/'` and walking down. A value
that does not decrypt (the key metadata) or whose bucket is not found is skipped. The new key
metadata goes into `kamune-store`, and the store swaps its cipher.

A file is the tree it is, each bucket's keys in order. The ciphers and the metadata the rotation
writes are its inputs: `extractCipher` and the making and wrapping of the new key are left out.

* `mem_readPhase`, `readPhase_sound`: the read phase lists exactly the values of the file, each
  under its joined path;
* `entryBucket_joinPath`: where no bucket name holds a `'/'`, a joined path leads back to its
  bucket;
* `writeEntries_frame`: after the write phase each value is the re-encryption of an entry put
  back there, or the value it was;
* `writePhase_restores_snapshot`: on a file of the snapshot's shape, the write phase leaves each
  value of the snapshot that decrypted under the old cipher decrypting under the new one to the
  same plaintext;
* `rotate_data_key_skips_slashed_buckets`: where no bucket name holds a `'/'` the rotation keeps
  every value and key, re-encrypted; a bucket below the top level with a `'/'` in a name on its
  path is never written, so its values stay under the old key.
-/

import Kamune.Storage

namespace Kamune

open Wire

/-! ### Joined paths -/

section Join

variable {α : Type}

theorem intercalate_cons_eq_flatMap (x : α) (first : List α) : ∀ rest : List (List α),
    [x].intercalate (first :: rest) = first ++ rest.flatMap (x :: ·)
  | [] => by simp
  | second :: rest => by
    rw [List.intercalate_cons_cons, intercalate_cons_eq_flatMap x second rest]
    simp

/-- A piece of a split never holds the separator. -/
theorem not_mem_of_mem_splitOn [BEq α] [LawfulBEq α] (x : α) :
    ∀ {xs piece : List α}, piece ∈ xs.splitOn x → x ∉ piece
  | [], piece, member => by
    rw [List.splitOn_nil, List.mem_singleton] at member
    rw [member]
    exact List.not_mem_nil
  | y :: ys, piece, member => by
    obtain ⟨head, tail, split⟩ := List.exists_cons_of_ne_nil (List.splitOn_ne_nil x ys)
    rw [List.splitOn_cons_eq_if_modifyHead] at member
    split_ifs at member with separator
    · rcases List.mem_cons.mp member with rfl | later
      · exact List.not_mem_nil
      · exact not_mem_of_mem_splitOn x later
    · rw [split, List.modifyHead_cons] at member
      rcases List.mem_cons.mp member with rfl | later
      · have headFree := not_mem_of_mem_splitOn x (split ▸ List.mem_cons_self :
          head ∈ ys.splitOn x)
        rintro (_ | ⟨_, inHead⟩)
        · exact separator (beq_self_eq_true x)
        · exact headFree inHead
      · exact not_mem_of_mem_splitOn x (split ▸ List.mem_cons_of_mem _ later)

/-- Two or more pieces joined hold the separator. -/
theorem mem_intercalate (x : α) : ∀ {pieces : List (List α)}, 2 ≤ pieces.length →
    x ∈ [x].intercalate pieces
  | first :: second :: rest, _ => by
    rw [List.intercalate_cons_cons]
    simp

end Join

/-! ### The tree of buckets -/

/-- An entry of a bucket: a value, or a nested bucket with its entries in key order. -/
inductive Node where
  | value (data : Bytes)
  | bucket (entries : List (Bytes × Node))
  deriving Repr

/-- A BoltDB file: its top-level buckets by name, each with its entries. The root of a file holds
buckets only. -/
abbrev Bolt := List (Bytes × List (Bytes × Node))

/-- `Bucket.Bucket`: the nested bucket under a key that holds one. -/
def childBucket (entries : List (Bytes × Node)) (name : Bytes) : Option (List (Bytes × Node)) :=
  match entries.lookup name with
  | some (.bucket sub) => some sub
  | _ => none

/-- `Bucket.Get`: the value under a key; a key that holds a bucket reads as nil. -/
def getValue (entries : List (Bytes × Node)) (key : Bytes) : Option Bytes :=
  match entries.lookup key with
  | some (.value data) => some data
  | _ => none

/-- The bucket reached from a bucket's entries down a path of names. -/
def bucketIn : List (Bytes × Node) → Path → Option (List (Bytes × Node))
  | entries, [] => some entries
  | entries, name :: names =>
    match childBucket entries name with
    | some sub => bucketIn sub names
    | none => none

/-- The bucket at a path: `tx.Bucket` for its first name, `Bucket` for each next one. -/
def Bolt.bucketAt (db : Bolt) : Path → Option (List (Bytes × Node))
  | [] => none
  | name :: names =>
    match db.lookup name with
    | some entries => bucketIn entries names
    | none => none

/-- The value under a key of the bucket at a path. -/
def Bolt.value (db : Bolt) (path : Path) (key : Bytes) : Option Bytes :=
  (db.bucketAt path).bind (getValue · key)

/-- The errors of `Bucket.Put` the model meets. -/
inductive BoltError where
  /-- `ErrBucketNotFound`. -/
  | bucketNotFound
  /-- `ErrIncompatibleValue`: the key holds a nested bucket. -/
  | incompatibleValue
  deriving DecidableEq, Repr

/-- The entries with the one under `name` replaced. -/
def setEntry {β : Type} (entries : List (Bytes × β)) (name : Bytes) (node : β) :
    List (Bytes × β) :=
  entries.map fun entry => if entry.1 = name then (name, node) else entry

/-- A new key's value, in at its place in key order. -/
def insertValue : List (Bytes × Node) → Bytes → Bytes → List (Bytes × Node)
  | [], key, data => [(key, .value data)]
  | (other, node) :: rest, key, data =>
    if key < other then (key, .value data) :: (other, node) :: rest
    else (other, node) :: insertValue rest key data

/-- `Bucket.Put` on a bucket's entries: the cursor finds the key; one that holds a nested bucket
is refused, one that holds a value gets the new one, and a new key goes in at its place. -/
def putValue (entries : List (Bytes × Node)) (key data : Bytes) :
    Except BoltError (List (Bytes × Node)) :=
  match entries.lookup key with
  | some (.bucket _) => .error .incompatibleValue
  | some (.value _) => .ok (setEntry entries key (.value data))
  | none => .ok (insertValue entries key data)

/-- A change of the bucket at a path below a bucket, carried up through its parents. -/
def modifyIn (change : List (Bytes × Node) → Except BoltError (List (Bytes × Node))) :
    List (Bytes × Node) → Path → Except BoltError (List (Bytes × Node))
  | entries, [] => change entries
  | entries, name :: names =>
    match childBucket entries name with
    | some sub => (fun sub => setEntry entries name (.bucket sub)) <$> modifyIn change sub names
    | none => .error .bucketNotFound

/-- A change through a handle on the bucket at a path; the root takes no values. -/
def Bolt.modify (db : Bolt) (path : Path)
    (change : List (Bytes × Node) → Except BoltError (List (Bytes × Node))) :
    Except BoltError Bolt :=
  match path with
  | [] => .error .bucketNotFound
  | name :: names =>
    match db.lookup name with
    | some entries => setEntry db name <$> modifyIn change entries names
    | none => .error .bucketNotFound

/-- `Put` through a handle on the bucket at a path. -/
def Bolt.put (db : Bolt) (path : Path) (key data : Bytes) : Except BoltError Bolt :=
  db.modify path (putValue · key data)

/-! ### The read phase -/

/-- The separator of a joined bucket path, `'/'`. -/
def slash : UInt8 := 47

/-- An `entry` of the read phase: a bucket's joined path, a key, and the bytes stored there. -/
structure RotationEntry where
  path : Bytes
  key : Bytes
  value : Bytes
  deriving DecidableEq, Repr

mutual

/-- `collect`: every value below a bucket, in key order. A nested bucket's path is its parent's,
a `'/'` and its name. -/
def collect (path : Bytes) : List (Bytes × Node) → List RotationEntry
  | [] => []
  | (key, node) :: rest => collectNode path key node ++ collect path rest

/-- `collect` at one key of a bucket. -/
def collectNode (path key : Bytes) : Node → List RotationEntry
  | .value data => [⟨path, key, data⟩]
  | .bucket entries => collect (path ++ slash :: key) entries

end

/-- The read phase: `collect` on every top-level bucket, under its name. -/
def readPhase (db : Bolt) : List RotationEntry :=
  db.flatMap fun top => collect top.1 top.2

/-- The joined path of a bucket. -/
def joinPath (path : Path) : Bytes :=
  [slash].intercalate path

mutual

/-- bbolt keeps the keys of a bucket unique: checked here for a bucket and every bucket below. -/
def keysUnique : List (Bytes × Node) → Bool
  | [] => true
  | (key, node) :: rest => decide (key ∉ rest.map Prod.fst) && node.keysUnique && keysUnique rest

/-- `keysUnique` below one key. -/
def Node.keysUnique : Node → Bool
  | .value _ => true
  | .bucket entries => keysUnique entries

end

mutual

/-- No bucket name at or below these entries holds a `'/'`. -/
def slashFree : List (Bytes × Node) → Bool
  | [] => true
  | (key, node) :: rest => node.slashFree key && slashFree rest

/-- `slashFree` at one key: a bucket's name holds no `'/'`, nor does any name below it. -/
def Node.slashFree (name : Bytes) : Node → Bool
  | .value _ => true
  | .bucket entries => decide (slash ∉ name) && slashFree entries

end

/-- The file as bbolt keeps it: the names of its top-level buckets, and the keys of each bucket,
are unique. -/
def Bolt.KeysUnique (db : Bolt) : Prop :=
  (db.map Prod.fst).Nodup ∧ ∀ top ∈ db, keysUnique top.2 = true

instance : DecidablePred Bolt.KeysUnique := fun db =>
  inferInstanceAs (Decidable (_ ∧ ∀ top ∈ db, _))

/-- No bucket name of the file holds a `'/'`. -/
def Bolt.SlashFree (db : Bolt) : Prop :=
  ∀ top ∈ db, slash ∉ top.1 ∧ slashFree top.2 = true

instance : DecidablePred Bolt.SlashFree := fun db =>
  inferInstanceAs (Decidable (∀ top ∈ db, _))

/-! ### The write phase -/

/-- `navigateBucket`: the joined path split at `'/'` and walked from the root. The model names
the bucket it returns by its path. -/
def navigateBucket (db : Bolt) (path : Bytes) : Option Path :=
  let parts := path.splitOn slash
  match db.bucketAt parts with
  | some _ => some parts
  | none => none

/-- The bucket an entry goes back to: `tx.Bucket(e.path)`, else `navigateBucket`. -/
def entryBucket (db : Bolt) (path : Bytes) : Option Path :=
  match db.lookup path with
  | some _ => some [path]
  | none => navigateBucket db path

variable (crypto : Primitives)

/-- One pass of the write phase's loop: a value that does not decrypt under the old cipher, or
whose bucket is not found, is skipped. -/
def writeEntry (oldCipher newCipher : Enigma) (tape : Nat → UInt8) (db : Bolt)
    (e : RotationEntry) : Except BoltError Bolt :=
  match oldCipher.Decrypt crypto e.value with
  | .error _ => .ok db
  | .ok plaintext =>
    let reencrypted := newCipher.Encrypt crypto tape plaintext
    match entryBucket db e.path with
    | some path => db.put path e.key reencrypted
    | none => .ok db

/-- The write phase's loop over the snapshot; the `index`-th encryption draws its nonce from the
`index`-th tape, and the first failing `Put` fails the transaction. -/
def writeEntries (oldCipher newCipher : Enigma) (tapes : Nat → Nat → UInt8) :
    Nat → Bolt → List RotationEntry → Except BoltError Bolt
  | _, db, [] => .ok db
  | index, db, e :: rest =>
    match writeEntry crypto oldCipher newCipher (tapes index) db e with
    | .ok db => writeEntries oldCipher newCipher tapes (index + 1) db rest
    | .error err => .error err

/-- `wrappedSaltKey`. -/
def wrappedSaltKey : Bytes := stringBytes "wrapped-salt"

/-- `wrappedKey`. -/
def wrappedKey : Bytes := stringBytes "wrapped-key"

/-- `deriveSaltKey`. -/
def deriveSaltKey : Bytes := stringBytes "derive-salt"

/-- `secretSaltKey`. -/
def secretSaltKey : Bytes := stringBytes "secret-salt"

/-- The key metadata a rotation writes: the salt of the new data key, the new data key wrapped
under the new passphrase, and the salts of the wrapping. -/
structure CipherMeta where
  secretSalt : Bytes
  wrapped : Bytes
  wrappedSalt : Bytes
  deriveSalt : Bytes
  deriving DecidableEq, Repr

/-- The metadata under its keys, in the order the source writes them. -/
def CipherMeta.pairs (cipherMeta : CipherMeta) : List (Bytes × Bytes) :=
  [(secretSaltKey, cipherMeta.secretSalt), (wrappedKey, cipherMeta.wrapped),
    (wrappedSaltKey, cipherMeta.wrappedSalt), (deriveSaltKey, cipherMeta.deriveSalt)]

/-- The keys `extractCipher` reads from `kamune-store`. -/
def metadataKeys : List Bytes := [secretSaltKey, wrappedKey, wrappedSaltKey, deriveSaltKey]

/-- What `extractCipher` found before the rotation: a value under each metadata key of
`kamune-store`. -/
def Bolt.HasMetadata (db : Bolt) : Prop :=
  ∀ key ∈ metadataKeys, (db.value [DefaultNamespace] key).isSome

instance : DecidablePred Bolt.HasMetadata := fun db =>
  inferInstanceAs (Decidable (∀ key ∈ metadataKeys, (db.value [DefaultNamespace] key).isSome))

/-- `Put`s into one bucket in order; the first that fails fails them all. -/
def Bolt.putAll (db : Bolt) (path : Path) : List (Bytes × Bytes) → Except BoltError Bolt
  | [] => .ok db
  | (key, data) :: rest =>
    match db.put path key data with
    | .ok db => db.putAll path rest
    | .error err => .error err

/-- The write phase, one `Update`: the loop, then the metadata. Without a `kamune-store` bucket
the metadata `Put` goes through a nil bucket and panics (`none`). -/
def writePhase (oldCipher newCipher : Enigma) (tapes : Nat → Nat → UInt8)
    (cipherMeta : CipherMeta) (snapshot : List RotationEntry) (db : Bolt) :
    Option (Except BoltError Bolt) :=
  match writeEntries crypto oldCipher newCipher tapes 0 db snapshot with
  | .error err => some (.error err)
  | .ok db =>
    match db.lookup DefaultNamespace with
    | some _ => some (db.putAll [DefaultNamespace] cipherMeta.pairs)
    | none => none

/-- `RotateDataKey` from its ciphers on, with no other transaction between its two phases. -/
def RotateDataKey (oldCipher newCipher : Enigma) (tapes : Nat → Nat → UInt8)
    (cipherMeta : CipherMeta) (db : Bolt) : Option (Except BoltError Bolt) :=
  writePhase crypto oldCipher newCipher tapes cipherMeta (readPhase db) db

/-! ### Lookups and the tree -/

theorem mem_of_lookup_eq_some {β : Type} {key : Bytes} {node : β} :
    ∀ {entries : List (Bytes × β)}, entries.lookup key = some node → (key, node) ∈ entries
  | [], found => by simp at found
  | (other, old) :: rest, found => by
    rw [lookup_cons_eq_ite] at found
    split_ifs at found with same
    · cases found
      rw [same]
      exact List.mem_cons_self
    · exact List.mem_cons_of_mem _ (mem_of_lookup_eq_some found)

/-- Where the keys are unique, the lookup finds the entry a key has. -/
theorem lookup_of_mem_nodup {β : Type} {key : Bytes} {node : β} :
    ∀ {entries : List (Bytes × β)}, (entries.map Prod.fst).Nodup → (key, node) ∈ entries →
      entries.lookup key = some node
  | (other, old) :: rest, nodup, member => by
    rw [List.map_cons, List.nodup_cons] at nodup
    rw [lookup_cons_eq_ite]
    rcases List.mem_cons.mp member with same | later
    · cases same
      rw [if_pos rfl]
    · have apart : key ≠ other := by
        rintro rfl
        exact nodup.1 (List.mem_map.mpr ⟨(key, node), later, rfl⟩)
      rw [if_neg apart]
      exact lookup_of_mem_nodup nodup.2 later

@[simp] theorem setEntry_cons {β : Type} (key name : Bytes) (old node : β)
    (rest : List (Bytes × β)) :
    setEntry ((key, old) :: rest) name node =
      (if key = name then (name, node) else (key, old)) :: setEntry rest name node := by
  simp only [setEntry, List.map_cons]

theorem lookup_setEntry {β : Type} (name other : Bytes) (node : β) :
    ∀ entries : List (Bytes × β), (setEntry entries name node).lookup other =
      if other = name then (entries.lookup name).map fun _ => node else entries.lookup other
  | [] => by simp [setEntry]
  | (key, old) :: rest => by
    have later := lookup_setEntry name other node rest
    by_cases named : other = name
    · subst named
      by_cases here : key = other
      · subst here
        simp
      · simpa [here, Ne.symm here] using later
    · by_cases same : other = key
      · subst same
        simp [named]
      · by_cases here : key = name <;> simp [here, same, named, later]

theorem childBucket_of_lookup {entries sub : List (Bytes × Node)} {name : Bytes}
    (found : entries.lookup name = some (.bucket sub)) : childBucket entries name = some sub := by
  rw [childBucket, found]

theorem getValue_of_lookup {entries : List (Bytes × Node)} {key data : Bytes}
    (found : entries.lookup key = some (.value data)) : getValue entries key = some data := by
  rw [getValue, found]

/-- A key that holds a value holds no bucket. -/
theorem childBucket_of_getValue {entries : List (Bytes × Node)} {key data : Bytes}
    (stored : getValue entries key = some data) : childBucket entries key = none := by
  unfold getValue at stored
  unfold childBucket
  split at stored
  case h_1 found => rw [found]
  case h_2 => cases stored

/-- Replacing a nested bucket changes what the key leads to, and nothing else. -/
theorem childBucket_setEntry {entries sub sub' : List (Bytes × Node)} {name : Bytes}
    (present : childBucket entries name = some sub) (other : Bytes) :
    childBucket (setEntry entries name (.bucket sub')) other =
      if other = name then some sub' else childBucket entries other := by
  unfold childBucket at present ⊢
  rw [lookup_setEntry]
  split_ifs with same
  · split at present
    case h_1 found => rw [found]; rfl
    case h_2 => cases present
  · rfl

theorem getValue_setEntry {entries sub sub' : List (Bytes × Node)} {name : Bytes}
    (present : childBucket entries name = some sub) (key : Bytes) :
    getValue (setEntry entries name (.bucket sub')) key = getValue entries key := by
  unfold childBucket at present
  unfold getValue
  rw [lookup_setEntry]
  split_ifs with same
  · subst same
    split at present
    case h_1 found => rw [found]; rfl
    case h_2 => cases present
  · rfl

theorem bucketIn_cons (entries : List (Bytes × Node)) (name : Bytes) (names : Path) :
    bucketIn entries (name :: names) = (childBucket entries name).bind (bucketIn · names) := by
  rw [bucketIn]
  split <;> simp_all

theorem bucketIn_append_singleton (key : Bytes) : ∀ (entries : List (Bytes × Node)) (path : Path),
    bucketIn entries (path ++ [key]) = (bucketIn entries path).bind (childBucket · key)
  | entries, [] => by simp [bucketIn_cons, bucketIn]
  | entries, name :: names => by
    rw [List.cons_append, bucketIn_cons, bucketIn_cons]
    cases childBucket entries name with
    | none => rfl
    | some sub => exact bucketIn_append_singleton key sub names

/-! ### `Put` -/

theorem map_eq_ok {ε α β : Type} {f : α → β} {x : Except ε α} {y : β} :
    f <$> x = .ok y ↔ ∃ z, x = .ok z ∧ f z = y := by
  cases x <;> simp [Functor.map, Except.map]

theorem lookup_insertValue (key data other : Bytes) : ∀ {entries : List (Bytes × Node)},
    entries.lookup key = none →
      (insertValue entries key data).lookup other =
        if other = key then some (.value data) else entries.lookup other
  | [], _ => by simp [insertValue]
  | (first, node) :: rest, fresh => by
    rw [lookup_cons_eq_ite] at fresh
    have apart : key ≠ first := fun same => by simp [same] at fresh
    rw [if_neg apart] at fresh
    have later := lookup_insertValue key data other fresh
    unfold insertValue
    by_cases smaller : key < first
    · rw [if_pos smaller, lookup_cons_eq_ite]
    · rw [if_neg smaller, lookup_cons_eq_ite, later, lookup_cons_eq_ite]
      by_cases named : other = key
      · subst named
        simp [apart]
      · simp [named]

/-- After a `Put` the key reads the new value and every other key reads as before. -/
theorem lookup_putValue {entries entries' : List (Bytes × Node)} {key data : Bytes}
    (put : putValue entries key data = .ok entries') (other : Bytes) :
    entries'.lookup other = if other = key then some (.value data) else entries.lookup other := by
  unfold putValue at put
  split at put
  case h_1 => cases put
  case h_2 old found =>
    cases put
    rw [lookup_setEntry, found]
    rfl
  case h_3 fresh =>
    cases put
    exact lookup_insertValue key data other fresh

/-- A `Put` goes through exactly when its key holds no bucket. -/
theorem putValue_ok_iff {entries : List (Bytes × Node)} {key data : Bytes} :
    (∃ entries', putValue entries key data = .ok entries') ↔ childBucket entries key = none := by
  unfold putValue childBucket
  split
  case h_1 found => simp [found]
  case h_2 found => simp [found]
  case h_3 fresh => simp [fresh]

/-- A change that leaves every nested bucket of the bucket it changes as it was. -/
def KeepsBuckets (change : List (Bytes × Node) → Except BoltError (List (Bytes × Node))) : Prop :=
  ∀ entries entries', change entries = .ok entries' →
    ∀ name, childBucket entries' name = childBucket entries name

theorem putValue_keepsBuckets (key data : Bytes) : KeepsBuckets (putValue · key data) := by
  intro entries entries' put name
  have missing := putValue_ok_iff.mp ⟨_, put⟩
  unfold childBucket at missing ⊢
  rw [lookup_putValue put]
  by_cases same : name = key
  · subst same
    rw [if_pos rfl]
    exact missing.symm
  · rw [if_neg same]

/-! ### A change at a path -/

section Change

variable {change : List (Bytes × Node) → Except BoltError (List (Bytes × Node))}

theorem modifyIn_cons {entries entries' : List (Bytes × Node)} {name : Bytes} {names : Path}
    (modified : modifyIn change entries (name :: names) = .ok entries') :
    ∃ sub sub', childBucket entries name = some sub ∧ modifyIn change sub names = .ok sub' ∧
      entries' = setEntry entries name (.bucket sub') := by
  rw [modifyIn] at modified
  split at modified
  case h_1 sub present =>
    obtain ⟨sub', modified', rfl⟩ := map_eq_ok.mp modified
    exact ⟨sub, sub', present, modified', rfl⟩
  case h_2 => cases modified

/-- A change below keeps which paths lead to buckets. -/
theorem bucketIn_modifyIn_isSome (keeps : KeepsBuckets change) :
    ∀ {entries entries' : List (Bytes × Node)} (path : Path),
      modifyIn change entries path = .ok entries' →
      ∀ q, (bucketIn entries' q).isSome = (bucketIn entries q).isSome
  | entries, entries', [], modified, q => by
    rw [modifyIn] at modified
    cases q with
    | nil => rfl
    | cons name names => rw [bucketIn_cons, bucketIn_cons, keeps _ _ modified]
  | entries, entries', name :: names, modified, q => by
    obtain ⟨sub, sub', present, modified', rfl⟩ := modifyIn_cons modified
    cases q with
    | nil => rfl
    | cons other rest =>
      rw [bucketIn_cons, bucketIn_cons, childBucket_setEntry present]
      split_ifs with same
      · subst same
        rw [present, Option.bind_some, Option.bind_some]
        exact bucketIn_modifyIn_isSome keeps names modified' rest
      · rfl

/-- A change below keeps every value off the changed bucket. -/
theorem valueIn_modifyIn_ne (keeps : KeepsBuckets change) :
    ∀ {entries entries' : List (Bytes × Node)} (path : Path),
      modifyIn change entries path = .ok entries' → ∀ q key, q ≠ path →
      (bucketIn entries' q).bind (getValue · key) = (bucketIn entries q).bind (getValue · key)
  | entries, entries', [], modified, q, key, apart => by
    rw [modifyIn] at modified
    cases q with
    | nil => exact absurd rfl apart
    | cons name names => rw [bucketIn_cons, bucketIn_cons, keeps _ _ modified]
  | entries, entries', name :: names, modified, q, key, apart => by
    obtain ⟨sub, sub', present, modified', rfl⟩ := modifyIn_cons modified
    cases q with
    | nil =>
      simp only [bucketIn, Option.bind_some]
      exact getValue_setEntry present key
    | cons other rest =>
      rw [bucketIn_cons, bucketIn_cons, childBucket_setEntry present]
      split_ifs with same
      · subst same
        rw [present, Option.bind_some, Option.bind_some]
        exact valueIn_modifyIn_ne keeps names modified' rest key fun here => apart (here ▸ rfl)
      · rfl

/-- The changed bucket is the change of the bucket that was there. -/
theorem bucketIn_modifyIn_self : ∀ {entries entries' : List (Bytes × Node)} (path : Path),
    modifyIn change entries path = .ok entries' →
    ∃ bucket bucket', bucketIn entries path = some bucket ∧ change bucket = .ok bucket' ∧
      bucketIn entries' path = some bucket'
  | entries, entries', [], modified => by
    rw [modifyIn] at modified
    exact ⟨entries, entries', rfl, modified, rfl⟩
  | entries, entries', name :: names, modified => by
    obtain ⟨sub, sub', present, modified', rfl⟩ := modifyIn_cons modified
    obtain ⟨bucket, bucket', found, changed, found'⟩ := bucketIn_modifyIn_self names modified'
    refine ⟨bucket, bucket', ?_, changed, ?_⟩
    · rw [bucketIn_cons, present, Option.bind_some]
      exact found
    · rw [bucketIn_cons, childBucket_setEntry present, if_pos rfl, Option.bind_some]
      exact found'

/-- A change goes through where its bucket is and the change of it does. -/
theorem modifyIn_ok : ∀ {entries bucket bucket' : List (Bytes × Node)} (path : Path),
    bucketIn entries path = some bucket → change bucket = .ok bucket' →
    ∃ entries', modifyIn change entries path = .ok entries'
  | entries, bucket, bucket', [], found, changed => by
    cases found
    exact ⟨bucket', changed⟩
  | entries, bucket, bucket', name :: names, found, changed => by
    rw [bucketIn_cons] at found
    obtain ⟨sub, present, found'⟩ := Option.bind_eq_some_iff.mp found
    obtain ⟨sub', modified'⟩ := modifyIn_ok names found' changed
    refine ⟨setEntry entries name (.bucket sub'), ?_⟩
    rw [modifyIn, present]
    dsimp only
    rw [modified']
    rfl

end Change

/-! ### Changes of a file -/

/-- Two files with the same buckets, whatever their values. -/
def Bolt.SameShape (db db' : Bolt) : Prop :=
  ∀ path, (db'.bucketAt path).isSome = (db.bucketAt path).isSome

theorem Bolt.SameShape.trans {db db' db'' : Bolt} (first : db.SameShape db')
    (second : db'.SameShape db'') : db.SameShape db'' := fun path =>
  (second path).trans (first path)

theorem Bolt.bucketAt_cons (db : Bolt) (name : Bytes) (names : Path) :
    db.bucketAt (name :: names) = (db.lookup name).bind (bucketIn · names) := by
  rw [Bolt.bucketAt]
  cases db.lookup name <;> rfl

theorem Bolt.bucketAt_append_singleton (db : Bolt) (key : Bytes) :
    ∀ {path : Path}, path ≠ [] →
      db.bucketAt (path ++ [key]) = (db.bucketAt path).bind (childBucket · key)
  | name :: names, _ => by
    rw [List.cons_append, Bolt.bucketAt_cons, Bolt.bucketAt_cons]
    cases db.lookup name with
    | none => rfl
    | some entries => exact bucketIn_append_singleton key entries names

theorem Bolt.bucketAt_setEntry {db : Bolt} {name : Bytes} {entries : List (Bytes × Node)}
    (present : db.lookup name = some entries) (entries' : List (Bytes × Node)) (other : Bytes)
    (rest : Path) :
    Bolt.bucketAt (setEntry db name entries') (other :: rest) =
      if other = name then bucketIn entries' rest else db.bucketAt (other :: rest) := by
  rw [Bolt.bucketAt_cons, Bolt.bucketAt_cons, lookup_setEntry, present]
  split_ifs <;> rfl

section Change

variable {change : List (Bytes × Node) → Except BoltError (List (Bytes × Node))}

theorem Bolt.modify_cons {db db' : Bolt} {name : Bytes} {names : Path}
    (modified : db.modify (name :: names) change = .ok db') :
    ∃ entries entries', db.lookup name = some entries ∧
      modifyIn change entries names = .ok entries' ∧ db' = setEntry db name entries' := by
  unfold Bolt.modify at modified
  dsimp only at modified
  split at modified
  case h_1 entries present =>
    obtain ⟨entries', modified', rfl⟩ := map_eq_ok.mp modified
    exact ⟨entries, entries', present, modified', rfl⟩
  case h_2 => cases modified

theorem Bolt.sameShape_modify (keeps : KeepsBuckets change) {db db' : Bolt} {path : Path}
    (modified : db.modify path change = .ok db') : db.SameShape db' := by
  cases path with
  | nil => cases modified
  | cons name names =>
    obtain ⟨entries, entries', present, modified', rfl⟩ := Bolt.modify_cons modified
    intro q
    cases q with
    | nil => rfl
    | cons other rest =>
      rw [Bolt.bucketAt_setEntry present]
      split_ifs with same
      · subst same
        rw [Bolt.bucketAt_cons, present, Option.bind_some]
        exact bucketIn_modifyIn_isSome keeps names modified' rest
      · rfl

theorem Bolt.value_modify_ne (keeps : KeepsBuckets change) {db db' : Bolt} {path : Path}
    (modified : db.modify path change = .ok db') {q : Path} (apart : q ≠ path) (key : Bytes) :
    db'.value q key = db.value q key := by
  cases path with
  | nil => cases modified
  | cons name names =>
    obtain ⟨entries, entries', present, modified', rfl⟩ := Bolt.modify_cons modified
    cases q with
    | nil => rfl
    | cons other rest =>
      unfold Bolt.value
      rw [Bolt.bucketAt_setEntry present]
      split_ifs with same
      · subst same
        rw [Bolt.bucketAt_cons, present, Option.bind_some]
        exact valueIn_modifyIn_ne keeps names modified' rest key fun here => apart (here ▸ rfl)
      · rfl

theorem Bolt.bucketAt_modify_self {db db' : Bolt} {path : Path}
    (modified : db.modify path change = .ok db') :
    ∃ bucket bucket', db.bucketAt path = some bucket ∧ change bucket = .ok bucket' ∧
      db'.bucketAt path = some bucket' := by
  cases path with
  | nil => cases modified
  | cons name names =>
    obtain ⟨entries, entries', present, modified', rfl⟩ := Bolt.modify_cons modified
    obtain ⟨bucket, bucket', found, changed, found'⟩ := bucketIn_modifyIn_self names modified'
    refine ⟨bucket, bucket', ?_, changed, ?_⟩
    · rw [Bolt.bucketAt_cons, present, Option.bind_some]
      exact found
    · rw [Bolt.bucketAt_setEntry present, if_pos rfl]
      exact found'

theorem Bolt.modify_ok {db : Bolt} {path : Path} {bucket bucket' : List (Bytes × Node)}
    (found : db.bucketAt path = some bucket) (changed : change bucket = .ok bucket') :
    ∃ db', db.modify path change = .ok db' := by
  cases path with
  | nil => cases found
  | cons name names =>
    rw [Bolt.bucketAt_cons] at found
    obtain ⟨entries, present, found'⟩ := Option.bind_eq_some_iff.mp found
    obtain ⟨entries', modified'⟩ := modifyIn_ok names found' changed
    refine ⟨setEntry db name entries', ?_⟩
    unfold Bolt.modify
    dsimp only
    rw [present]
    dsimp only
    rw [modified']
    rfl

end Change

/-- After a `Put` the key of its bucket reads the new value, and every other value is as it
was. -/
theorem Bolt.value_put {db db' : Bolt} {path : Path} {key data : Bytes}
    (put : db.put path key data = .ok db') (q : Path) (other : Bytes) :
    db'.value q other = if q = path ∧ other = key then some data else db.value q other := by
  by_cases here : q = path
  · subst here
    obtain ⟨bucket, bucket', found, changed, found'⟩ := Bolt.bucketAt_modify_self put
    unfold Bolt.value getValue
    rw [found, found', Option.bind_some, Option.bind_some, lookup_putValue changed]
    by_cases same : other = key <;> simp [same]
  · rw [if_neg fun both => here both.1]
    exact Bolt.value_modify_ne (putValue_keepsBuckets key data) put here other

theorem Bolt.sameShape_put {db db' : Bolt} {path : Path} {key data : Bytes}
    (put : db.put path key data = .ok db') : db.SameShape db' :=
  Bolt.sameShape_modify (putValue_keepsBuckets key data) put

/-- A `Put` into a bucket that is there, under a key that holds no bucket, goes through. -/
theorem Bolt.put_ok {db : Bolt} {path : Path} {key : Bytes} (data : Bytes)
    (present : (db.bucketAt path).isSome) (free : db.bucketAt (path ++ [key]) = none) :
    ∃ db', db.put path key data = .ok db' := by
  obtain ⟨bucket, found⟩ := Option.isSome_iff_exists.mp present
  have nonempty : path ≠ [] := by
    rintro rfl
    cases found
  rw [Bolt.bucketAt_append_singleton db key nonempty, found, Option.bind_some] at free
  obtain ⟨bucket', changed⟩ := putValue_ok_iff.mpr free
  exact Bolt.modify_ok found changed

/-! ### What the read phase sees -/

theorem mem_of_getValue {entries : List (Bytes × Node)} {key data : Bytes}
    (stored : getValue entries key = some data) : (key, Node.value data) ∈ entries := by
  unfold getValue at stored
  split at stored
  case h_1 found =>
    cases stored
    exact mem_of_lookup_eq_some found
  case h_2 => cases stored

theorem mem_of_childBucket {entries sub : List (Bytes × Node)} {name : Bytes}
    (present : childBucket entries name = some sub) : (name, Node.bucket sub) ∈ entries := by
  unfold childBucket at present
  split at present
  case h_1 found =>
    cases present
    exact mem_of_lookup_eq_some found
  case h_2 => cases present

theorem nodup_of_keysUnique : ∀ {entries : List (Bytes × Node)}, keysUnique entries →
    (entries.map Prod.fst).Nodup
  | [], _ => List.nodup_nil
  | (key, node) :: rest, unique => by
    simp only [keysUnique, Bool.and_eq_true, decide_eq_true_eq] at unique
    exact List.nodup_cons.mpr ⟨unique.1.1, nodup_of_keysUnique unique.2⟩

theorem keysUnique_of_mem {key : Bytes} {sub : List (Bytes × Node)} :
    ∀ {entries : List (Bytes × Node)}, keysUnique entries → (key, Node.bucket sub) ∈ entries →
      keysUnique sub
  | (other, node) :: rest, unique, member => by
    simp only [keysUnique, Bool.and_eq_true] at unique
    rcases List.mem_cons.mp member with same | later
    · cases same
      exact unique.1.2
    · exact keysUnique_of_mem unique.2 later

theorem slashFree_of_mem {key : Bytes} {sub : List (Bytes × Node)} :
    ∀ {entries : List (Bytes × Node)}, slashFree entries → (key, Node.bucket sub) ∈ entries →
      slash ∉ key ∧ slashFree sub
  | (other, node) :: rest, free, member => by
    simp only [slashFree, Bool.and_eq_true] at free
    rcases List.mem_cons.mp member with same | later
    · cases same
      simp only [Node.slashFree, Bool.and_eq_true, decide_eq_true_eq] at free
      exact free.1
    · exact slashFree_of_mem free.2 later

theorem mem_collect {path : Bytes} {e : RotationEntry} : ∀ {entries : List (Bytes × Node)},
    e ∈ collect path entries ↔ ∃ entry ∈ entries, e ∈ collectNode path entry.1 entry.2
  | [] => by simp [collect]
  | (key, node) :: rest => by
    rw [collect, List.mem_append, mem_collect]
    simp

/-- Every value below a bucket is collected, under its joined path. -/
theorem mem_collect_of_bucketIn {key data : Bytes} :
    ∀ {path : Bytes} {entries bucket : List (Bytes × Node)} (q : Path),
      bucketIn entries q = some bucket → getValue bucket key = some data →
      ⟨path ++ q.flatMap (slash :: ·), key, data⟩ ∈ collect path entries
  | path, entries, bucket, [], found, stored => by
    cases found
    exact mem_collect.mpr ⟨_, mem_of_getValue stored, by simp [collectNode]⟩
  | path, entries, bucket, name :: names, found, stored => by
    rw [bucketIn_cons] at found
    obtain ⟨sub, present, found'⟩ := Option.bind_eq_some_iff.mp found
    have below : ⟨(path ++ slash :: name) ++ names.flatMap (slash :: ·), key, data⟩ ∈
        collect (path ++ slash :: name) sub :=
      mem_collect_of_bucketIn names found' stored
    refine mem_collect.mpr ⟨_, mem_of_childBucket present, ?_⟩
    simpa [collectNode, List.append_assoc] using below

/-- What is collected below a bucket is a value there, under its joined path; the names on the
path hold no `'/'` where the tree's names do not. -/
theorem collect_sound {e : RotationEntry} {path : Bytes} {entries : List (Bytes × Node)}
    (unique : keysUnique entries) (free : slashFree entries) (member : e ∈ collect path entries) :
    ∃ q : Path, e.path = path ++ q.flatMap (slash :: ·) ∧ (∀ name ∈ q, slash ∉ name) ∧
      (bucketIn entries q).bind (getValue · e.key) = some e.value := by
  obtain ⟨⟨key, node⟩, present, inNode⟩ := mem_collect.mp member
  have found := lookup_of_mem_nodup (nodup_of_keysUnique unique) present
  cases node with
  | value data =>
    rw [collectNode, List.mem_singleton] at inNode
    subst inNode
    exact ⟨[], by simp, by simp, by simp [bucketIn, getValue_of_lookup found]⟩
  | bucket sub =>
    rw [collectNode] at inNode
    obtain ⟨nameFree, subFree⟩ := slashFree_of_mem free present
    obtain ⟨q, atPath, names, stored⟩ :=
      collect_sound (keysUnique_of_mem unique present) subFree inNode
    refine ⟨key :: q, by simp [atPath], ?_, ?_⟩
    · intro name member
      rcases List.mem_cons.mp member with rfl | later
      · exact nameFree
      · exact names name later
    · rw [bucketIn_cons, childBucket_of_lookup found, Option.bind_some]
      exact stored
termination_by sizeOf entries
decreasing_by
  have smaller := List.sizeOf_lt_of_mem present
  simp only [Prod.mk.sizeOf_spec, Node.bucket.sizeOf_spec] at smaller
  omega

/-- **The read phase lists every value of the file**, under its joined path. -/
theorem mem_readPhase {db : Bolt} {q : Path} {key data : Bytes}
    (stored : db.value q key = some data) : ⟨joinPath q, key, data⟩ ∈ readPhase db := by
  unfold Bolt.value at stored
  obtain ⟨bucket, found, inBucket⟩ := Option.bind_eq_some_iff.mp stored
  cases q with
  | nil => cases found
  | cons top rest =>
    rw [Bolt.bucketAt_cons] at found
    obtain ⟨entries, present, found'⟩ := Option.bind_eq_some_iff.mp found
    have member := @mem_collect_of_bucketIn _ _ top _ _ rest found' inBucket
    rw [readPhase, List.mem_flatMap]
    refine ⟨(top, entries), mem_of_lookup_eq_some present, ?_⟩
    rw [joinPath, intercalate_cons_eq_flatMap]
    exact member

/-- **The read phase lists only values of the file**, each under the joined path of its bucket,
where keys are unique and no bucket name holds a `'/'`. -/
theorem readPhase_sound {db : Bolt} (unique : db.KeysUnique) (free : db.SlashFree)
    {e : RotationEntry} (member : e ∈ readPhase db) :
    ∃ q : Path, e.path = joinPath q ∧ (∀ name ∈ q, slash ∉ name) ∧
      db.value q e.key = some e.value := by
  rw [readPhase, List.mem_flatMap] at member
  obtain ⟨⟨top, entries⟩, present, collected⟩ := member
  obtain ⟨topFree, entriesFree⟩ := free _ present
  obtain ⟨q, atPath, names, stored⟩ := collect_sound (unique.2 _ present) entriesFree collected
  refine ⟨top :: q, ?_, ?_, ?_⟩
  · rw [joinPath, intercalate_cons_eq_flatMap]
    exact atPath
  · intro name member
    rcases List.mem_cons.mp member with rfl | later
    · exact topFree
    · exact names name later
  · unfold Bolt.value
    rw [Bolt.bucketAt_cons, lookup_of_mem_nodup unique.1 present, Option.bind_some]
    exact stored

/-! ### Where the write phase puts a value back -/

theorem Bolt.bucketAt_singleton (db : Bolt) (name : Bytes) :
    db.bucketAt [name] = db.lookup name := by
  rw [Bolt.bucketAt_cons]
  cases db.lookup name <;> rfl

theorem Bolt.SameShape.bucketAt_eq_none {db db' : Bolt} (same : db.SameShape db') {path : Path}
    (missing : db.bucketAt path = none) : db'.bucketAt path = none := by
  rw [← Option.not_isSome_iff_eq_none, same path, Option.not_isSome_iff_eq_none]
  exact missing

theorem entryBucket_eq (db : Bolt) (path : Bytes) :
    entryBucket db path =
      if (db.bucketAt [path]).isSome then some [path]
      else if (db.bucketAt (path.splitOn slash)).isSome then some (path.splitOn slash)
      else none := by
  unfold entryBucket navigateBucket
  rw [Bolt.bucketAt_singleton]
  dsimp only
  cases db.lookup path <;> cases db.bucketAt (path.splitOn slash) <;> rfl

/-- The write phase finds a bucket by which paths lead to buckets: files of one shape agree. -/
theorem entryBucket_sameShape {db db' : Bolt} (same : db.SameShape db') (path : Bytes) :
    entryBucket db' path = entryBucket db path := by
  rw [entryBucket_eq, entryBucket_eq, same, same]

theorem bucketAt_of_entryBucket {db : Bolt} {path : Bytes} {q : Path}
    (found : entryBucket db path = some q) : (db.bucketAt q).isSome := by
  rw [entryBucket_eq] at found
  split_ifs at found with top parts
  · cases found
    exact top
  · cases found
    exact parts

/-- A value goes back into the top-level bucket named by its whole joined path, or into a bucket
none of whose names holds a `'/'`. -/
theorem entryBucket_cases {db : Bolt} {path : Bytes} {q : Path}
    (found : entryBucket db path = some q) : q = [path] ∨ ∀ name ∈ q, slash ∉ name := by
  rw [entryBucket_eq] at found
  split_ifs at found
  · cases found
    exact .inl rfl
  · cases found
    exact .inr fun name member => not_mem_of_mem_splitOn slash member

/-- **Where no name holds a `'/'`, a joined path leads back to its bucket.** -/
theorem entryBucket_joinPath {db : Bolt} (free : db.SlashFree) {q : Path}
    (present : (db.bucketAt q).isSome) (names : ∀ name ∈ q, slash ∉ name) :
    entryBucket db (joinPath q) = some q := by
  cases q with
  | nil => simp [Bolt.bucketAt] at present
  | cons top rest =>
    cases rest with
    | nil =>
      have single : joinPath [top] = top := by simp [joinPath]
      rw [entryBucket_eq, single, if_pos present]
    | cons next rest =>
      -- a joined path of two names or more holds a `'/'`, which no top-level name does
      have joined : slash ∈ joinPath (top :: next :: rest) := mem_intercalate slash (by simp)
      have notTop : (db.bucketAt [joinPath (top :: next :: rest)]).isSome = false := by
        rw [Bolt.bucketAt_singleton]
        cases found : db.lookup (joinPath (top :: next :: rest)) with
        | none => rfl
        | some entries => exact absurd joined (free _ (mem_of_lookup_eq_some found)).1
      have split : (joinPath (top :: next :: rest)).splitOn slash = top :: next :: rest :=
        List.splitOn_intercalate slash names (List.cons_ne_nil _ _)
      rw [entryBucket_eq, notTop, split, if_pos present]
      rfl

/-- Where the write phase puts an entry back, with its plaintext; `none` where it skips it. -/
def rewriteTarget (oldCipher : Enigma) (db : Bolt) (e : RotationEntry) : Option (Path × Bytes) :=
  match oldCipher.Decrypt crypto e.value with
  | .error _ => none
  | .ok plaintext => (entryBucket db e.path).map fun path => (path, plaintext)

theorem rewriteTarget_sameShape {oldCipher : Enigma} {db db' : Bolt} (same : db.SameShape db')
    (e : RotationEntry) :
    rewriteTarget crypto oldCipher db' e = rewriteTarget crypto oldCipher db e := by
  unfold rewriteTarget
  rw [entryBucket_sameShape same]

theorem rewriteTarget_eq_some {oldCipher : Enigma} {db : Bolt} {e : RotationEntry} {path : Path}
    {plaintext : Bytes} (target : rewriteTarget crypto oldCipher db e = some (path, plaintext)) :
    oldCipher.Decrypt crypto e.value = .ok plaintext ∧ entryBucket db e.path = some path := by
  unfold rewriteTarget at target
  split at target
  case h_1 => cases target
  case h_2 decrypted =>
    obtain ⟨path', found, same⟩ := Option.map_eq_some_iff.mp target
    cases same
    exact ⟨decrypted, found⟩

theorem writeEntry_eq (oldCipher newCipher : Enigma) (tape : Nat → UInt8) (db : Bolt)
    (e : RotationEntry) :
    writeEntry crypto oldCipher newCipher tape db e =
      match rewriteTarget crypto oldCipher db e with
      | some target => db.put target.1 e.key (newCipher.Encrypt crypto tape target.2)
      | none => .ok db := by
  unfold writeEntry rewriteTarget
  cases oldCipher.Decrypt crypto e.value with
  | error => rfl
  | ok plaintext =>
    dsimp only
    cases entryBucket db e.path <;> rfl

/-- **One entry of the write phase**: it keeps the shape of the file, puts the re-encryption
where the entry goes back, and leaves every other value. -/
theorem writeEntry_frame {oldCipher newCipher : Enigma} {tape : Nat → UInt8} {db db' : Bolt}
    {e : RotationEntry} (written : writeEntry crypto oldCipher newCipher tape db e = .ok db') :
    db.SameShape db' ∧
      (∀ q plaintext, rewriteTarget crypto oldCipher db e = some (q, plaintext) →
        db'.value q e.key = some (newCipher.Encrypt crypto tape plaintext)) ∧
      ∀ q key, (e.key = key → ∀ plaintext,
        rewriteTarget crypto oldCipher db e ≠ some (q, plaintext)) →
        db'.value q key = db.value q key := by
  rw [writeEntry_eq] at written
  cases target : rewriteTarget crypto oldCipher db e with
  | none =>
    rw [target] at written
    cases written
    exact ⟨fun _ => rfl, fun _ _ hit => (nomatch hit), fun _ _ _ => rfl⟩
  | some found =>
    obtain ⟨path, plaintext⟩ := found
    rw [target] at written
    refine ⟨Bolt.sameShape_put written, fun q plaintext' hit => ?_, fun q key missed => ?_⟩
    · cases hit
      rw [Bolt.value_put written, if_pos ⟨rfl, rfl⟩]
    · rw [Bolt.value_put written, if_neg]
      rintro ⟨rfl, rfl⟩
      exact missed rfl plaintext rfl

/-- **The write phase over a snapshot** keeps the shape of the file; afterwards each value is
the re-encryption of a snapshot entry that goes back there, or, where none does, the value it
was. -/
theorem writeEntries_frame {oldCipher newCipher : Enigma} {tapes : Nat → Nat → UInt8} :
    ∀ {index : Nat} {db db' : Bolt} (entries : List RotationEntry),
      writeEntries crypto oldCipher newCipher tapes index db entries = .ok db' →
      db.SameShape db' ∧ ∀ q key,
        (db'.value q key = db.value q key ∧ ∀ e ∈ entries, e.key = key → ∀ plaintext,
          rewriteTarget crypto oldCipher db e ≠ some (q, plaintext)) ∨
        ∃ e ∈ entries, e.key = key ∧ ∃ plaintext tape,
          rewriteTarget crypto oldCipher db e = some (q, plaintext) ∧
          db'.value q key = some (newCipher.Encrypt crypto tape plaintext)
  | index, db, db', [], written => by
    cases written
    exact ⟨fun _ => rfl, fun q key => .inl ⟨rfl, by simp⟩⟩
  | index, db, db', e :: rest, written => by
    rw [writeEntries] at written
    split at written
    case h_2 => cases written
    case h_1 db₁ step =>
      obtain ⟨sameStep, hitStep, missStep⟩ := writeEntry_frame crypto step
      obtain ⟨sameRest, valuesRest⟩ := writeEntries_frame rest written
      have targets := @rewriteTarget_sameShape crypto oldCipher _ _ sameStep
      refine ⟨sameStep.trans sameRest, fun q key => ?_⟩
      rcases valuesRest q key with ⟨unchanged, missedRest⟩ | ⟨e', member, keyEq, hitRest⟩
      · by_cases hit : ∃ plaintext, e.key = key ∧
            rewriteTarget crypto oldCipher db e = some (q, plaintext)
        · obtain ⟨plaintext, rfl, target⟩ := hit
          exact .inr ⟨e, List.mem_cons_self, rfl, plaintext, tapes index, target,
            unchanged.trans (hitStep q plaintext target)⟩
        · refine .inl ⟨unchanged.trans (missStep q key fun keyEq plaintext target =>
            hit ⟨plaintext, keyEq, target⟩), fun e' member keyEq plaintext => ?_⟩
          rcases List.mem_cons.mp member with rfl | later
          · exact fun target => hit ⟨plaintext, keyEq, target⟩
          · rw [← targets e']
            exact missedRest e' later keyEq plaintext
      · obtain ⟨plaintext, tape, target, value⟩ := hitRest
        rw [targets e'] at target
        exact .inr ⟨e', List.mem_cons_of_mem _ member, keyEq, plaintext, tape, target, value⟩

/-- The write phase goes through where each entry it puts back lands on a key that holds no
bucket. -/
theorem writeEntries_ok {oldCipher newCipher : Enigma} {tapes : Nat → Nat → UInt8} :
    ∀ {index : Nat} {db : Bolt} (entries : List RotationEntry),
      (∀ e ∈ entries, ∀ path plaintext,
        rewriteTarget crypto oldCipher db e = some (path, plaintext) →
        db.bucketAt (path ++ [e.key]) = none) →
      ∃ db', writeEntries crypto oldCipher newCipher tapes index db entries = .ok db'
  | index, db, [], _ => ⟨db, rfl⟩
  | index, db, e :: rest, free => by
    obtain ⟨db₁, step⟩ :
        ∃ db₁, writeEntry crypto oldCipher newCipher (tapes index) db e = .ok db₁ := by
      rw [writeEntry_eq]
      cases target : rewriteTarget crypto oldCipher db e with
      | none => exact ⟨db, rfl⟩
      | some found =>
        obtain ⟨path, plaintext⟩ := found
        exact Bolt.put_ok _ (bucketAt_of_entryBucket (rewriteTarget_eq_some crypto target).2)
          (free e List.mem_cons_self path plaintext target)
    have same := (writeEntry_frame crypto step).1
    obtain ⟨db', written⟩ :
        ∃ db', writeEntries crypto oldCipher newCipher tapes (index + 1) db₁ rest = .ok db' :=
      writeEntries_ok rest fun e' member path plaintext target => by
        rw [rewriteTarget_sameShape crypto same] at target
        exact same.bucketAt_eq_none (free e' (List.mem_cons_of_mem _ member) path plaintext target)
    refine ⟨db', ?_⟩
    rw [writeEntries, step]
    exact written

/-! ### The metadata and the whole write phase -/

theorem CipherMeta.keys_pairs (cipherMeta : CipherMeta) :
    cipherMeta.pairs.map Prod.fst = metadataKeys := rfl

/-- `Put`s into one bucket keep the shape of the file, give each of their keys a value, and
leave every other value. -/
theorem Bolt.putAll_frame {path : Path} : ∀ {db db' : Bolt} (pairs : List (Bytes × Bytes)),
    db.putAll path pairs = .ok db' →
    db.SameShape db' ∧
      (∀ q key, ¬(q = path ∧ key ∈ pairs.map Prod.fst) → db'.value q key = db.value q key) ∧
      ∀ key ∈ pairs.map Prod.fst, (db'.value path key).isSome
  | db, db', [], done => by
    cases done
    exact ⟨fun _ => rfl, fun _ _ _ => rfl, by simp⟩
  | db, db', (key, data) :: rest, done => by
    rw [Bolt.putAll] at done
    split at done
    case h_2 => cases done
    case h_1 db₁ put =>
      obtain ⟨same, frame, present⟩ := Bolt.putAll_frame rest done
      simp only [List.map_cons, List.mem_cons]
      refine ⟨(Bolt.sameShape_put put).trans same, fun q other outside => ?_,
        fun other member => ?_⟩
      · rw [frame q other fun inside => outside ⟨inside.1, .inr inside.2⟩, Bolt.value_put put,
          if_neg fun inside => outside ⟨inside.1, .inl inside.2⟩]
      · by_cases later : other ∈ rest.map Prod.fst
        · exact present other later
        · rcases member with rfl | inRest
          · rw [frame path other fun inside => later inside.2, Bolt.value_put put,
              if_pos ⟨rfl, rfl⟩]
            rfl
          · exact absurd inRest later

/-- `Put`s into a bucket that is there, under keys that hold no bucket, go through. -/
theorem Bolt.putAll_ok {path : Path} : ∀ {db : Bolt} (pairs : List (Bytes × Bytes)),
    (db.bucketAt path).isSome → (∀ key ∈ pairs.map Prod.fst, db.bucketAt (path ++ [key]) = none) →
    ∃ db', db.putAll path pairs = .ok db'
  | db, [], _, _ => ⟨db, rfl⟩
  | db, (key, data) :: rest, present, free => by
    obtain ⟨db₁, put⟩ := Bolt.put_ok data present (free key (by simp))
    have same := Bolt.sameShape_put put
    obtain ⟨db', done⟩ : ∃ db', db₁.putAll path rest = .ok db' :=
      Bolt.putAll_ok rest (by rw [same]; exact present)
        fun other member => same.bucketAt_eq_none (free other (by simp [member]))
    refine ⟨db', ?_⟩
    rw [Bolt.putAll, put]
    exact done

section Rotation

variable {oldCipher newCipher : Enigma} {tapes : Nat → Nat → UInt8} {cipherMeta : CipherMeta}

theorem writePhase_eq_ok {snapshot : List RotationEntry} {db db' : Bolt}
    (rotated : writePhase crypto oldCipher newCipher tapes cipherMeta snapshot db =
      some (.ok db')) :
    ∃ db₁, writeEntries crypto oldCipher newCipher tapes 0 db snapshot = .ok db₁ ∧
      db₁.putAll [DefaultNamespace] cipherMeta.pairs = .ok db' := by
  unfold writePhase at rotated
  split at rotated
  case h_1 => cases rotated
  case h_2 db₁ written =>
    split at rotated
    case h_1 => exact ⟨db₁, written, Option.some.inj rotated⟩
    case h_2 => cases rotated

theorem writePhase_ok {snapshot : List RotationEntry} {db db₁ : Bolt}
    (written : writeEntries crypto oldCipher newCipher tapes 0 db snapshot = .ok db₁)
    (present : (db₁.bucketAt [DefaultNamespace]).isSome)
    (free : ∀ key ∈ metadataKeys, db₁.bucketAt [DefaultNamespace, key] = none) :
    ∃ db', writePhase crypto oldCipher newCipher tapes cipherMeta snapshot db = some (.ok db') := by
  obtain ⟨db', done⟩ := Bolt.putAll_ok cipherMeta.pairs present
    (by rw [CipherMeta.keys_pairs]; exact free)
  rw [Bolt.bucketAt_singleton] at present
  obtain ⟨entries, found⟩ := Option.isSome_iff_exists.mp present
  refine ⟨db', ?_⟩
  unfold writePhase
  rw [written]
  dsimp only
  rw [found]
  dsimp only
  rw [done]

/-! ### What the rotation does to a value -/

theorem Bolt.bucketAt_of_value {db : Bolt} {q : Path} {key data : Bytes}
    (stored : db.value q key = some data) : (db.bucketAt q).isSome := by
  unfold Bolt.value at stored
  obtain ⟨bucket, found, -⟩ := Option.bind_eq_some_iff.mp stored
  rw [found]
  rfl

/-- A key that holds a value holds no bucket. -/
theorem Bolt.bucketAt_append_of_value {db : Bolt} {q : Path} {key data : Bytes}
    (stored : db.value q key = some data) : db.bucketAt (q ++ [key]) = none := by
  unfold Bolt.value at stored
  obtain ⟨bucket, found, inBucket⟩ := Option.bind_eq_some_iff.mp stored
  have nonempty : q ≠ [] := by
    rintro rfl
    cases found
  rw [Bolt.bucketAt_append_singleton db key nonempty, found, Option.bind_some]
  exact childBucket_of_getValue inBucket

theorem names_of_bucketIn : ∀ {entries : List (Bytes × Node)} (q : Path), slashFree entries →
    (bucketIn entries q).isSome → ∀ name ∈ q, slash ∉ name
  | _, [], _, _ => by simp
  | entries, name :: names, free, present => by
    rw [bucketIn_cons] at present
    obtain ⟨bucket, reached⟩ := Option.isSome_iff_exists.mp present
    obtain ⟨sub, found, below⟩ := Option.bind_eq_some_iff.mp reached
    obtain ⟨nameFree, subFree⟩ := slashFree_of_mem free (mem_of_childBucket found)
    intro other member
    rcases List.mem_cons.mp member with rfl | later
    · exact nameFree
    · exact names_of_bucketIn names subFree (by rw [below]; rfl) other later

/-- Where the tree's names hold no `'/'`, neither does any name on a path to a bucket. -/
theorem Bolt.SlashFree.names {db : Bolt} (free : db.SlashFree) {q : Path}
    (present : (db.bucketAt q).isSome) : ∀ name ∈ q, slash ∉ name := by
  cases q with
  | nil => simp
  | cons top rest =>
    rw [Bolt.bucketAt_cons] at present
    obtain ⟨bucket, reached⟩ := Option.isSome_iff_exists.mp present
    obtain ⟨entries, found, below⟩ := Option.bind_eq_some_iff.mp reached
    obtain ⟨topFree, entriesFree⟩ := free _ (mem_of_lookup_eq_some found)
    intro name member
    rcases List.mem_cons.mp member with rfl | later
    · exact topFree
    · exact names_of_bucketIn rest entriesFree (by rw [below]; rfl) name later

/-- A value that decrypts goes back where it was read. -/
theorem rewriteTarget_of_value {db : Bolt} (free : db.SlashFree) {q : Path}
    {key data plaintext : Bytes} (stored : db.value q key = some data)
    (decrypted : oldCipher.Decrypt crypto data = .ok plaintext) :
    rewriteTarget crypto oldCipher db ⟨joinPath q, key, data⟩ = some (q, plaintext) := by
  have present := Bolt.bucketAt_of_value stored
  unfold rewriteTarget
  dsimp only
  rw [decrypted]
  dsimp only
  rw [entryBucket_joinPath free present (free.names present)]
  rfl

/-- **Where keys are unique and no name holds a `'/'`, a snapshot entry goes back exactly where
it was read.** -/
theorem rewriteTarget_of_mem_readPhase {db : Bolt} (unique : db.KeysUnique) (free : db.SlashFree)
    {e : RotationEntry} (member : e ∈ readPhase db) {q : Path} {plaintext : Bytes}
    (target : rewriteTarget crypto oldCipher db e = some (q, plaintext)) :
    db.value q e.key = some e.value ∧ oldCipher.Decrypt crypto e.value = .ok plaintext := by
  obtain ⟨decrypted, found⟩ := rewriteTarget_eq_some crypto target
  obtain ⟨q', atPath, names, stored⟩ := readPhase_sound unique free member
  rw [atPath, entryBucket_joinPath free (Bolt.bucketAt_of_value stored) names] at found
  cases found
  exact ⟨stored, decrypted⟩

/-- **The write phase goes through** on any file with the buckets of the one the snapshot was
read from, where that file is one bbolt keeps, its names hold no `'/'` and `extractCipher` found
its key metadata. -/
theorem writePhase_readPhase_ok {db db₁ : Bolt} (unique : db.KeysUnique) (free : db.SlashFree)
    (extracted : db.HasMetadata) (same : db.SameShape db₁) :
    ∃ db', writePhase crypto oldCipher newCipher tapes cipherMeta (readPhase db) db₁ =
      some (.ok db') := by
  have targets := @rewriteTarget_sameShape crypto oldCipher _ _ same
  obtain ⟨db₂, written⟩ := @writeEntries_ok crypto oldCipher newCipher tapes 0 db₁
    (readPhase db) fun e member path plaintext target => by
      rw [targets] at target
      exact same.bucketAt_eq_none (Bolt.bucketAt_append_of_value
        (rewriteTarget_of_mem_readPhase crypto unique free member target).1)
  have written_same := same.trans (writeEntries_frame crypto _ written).1
  obtain ⟨data, stored⟩ := Option.isSome_iff_exists.mp
    (extracted secretSaltKey (by simp [metadataKeys]))
  refine writePhase_ok crypto written (by rw [written_same]; exact Bolt.bucketAt_of_value stored)
    fun key member => ?_
  obtain ⟨data, stored⟩ := Option.isSome_iff_exists.mp (extracted key member)
  exact written_same.bucketAt_eq_none (Bolt.bucketAt_append_of_value stored)

/-- **The write phase puts the snapshot back**: each value the read phase saw that decrypted under
the old cipher (other than the metadata) decrypts under the new one to its plaintext at the read,
whatever values changed between the phases. -/
theorem writePhase_restores_snapshot (lawful : crypto.Lawful) {db db₁ db' : Bolt}
    (unique : db.KeysUnique) (free : db.SlashFree) (same : db.SameShape db₁)
    (rotated : writePhase crypto oldCipher newCipher tapes cipherMeta (readPhase db) db₁ =
      some (.ok db'))
    {q : Path} {key data plaintext : Bytes} (stored : db.value q key = some data)
    (decrypted : oldCipher.Decrypt crypto data = .ok plaintext)
    (notMetadata : ¬(q = [DefaultNamespace] ∧ key ∈ metadataKeys)) :
    ∃ data', db'.value q key = some data' ∧ newCipher.Decrypt crypto data' = .ok plaintext := by
  obtain ⟨db₂, written, done⟩ := writePhase_eq_ok crypto rotated
  obtain ⟨-, values⟩ := writeEntries_frame crypto _ written
  obtain ⟨-, metadataFrame, -⟩ := Bolt.putAll_frame _ done
  have targets := @rewriteTarget_sameShape crypto oldCipher _ _ same
  rw [metadataFrame q key (by rwa [CipherMeta.keys_pairs])]
  rcases values q key with ⟨-, missed⟩ | ⟨e, member, rfl, plaintext', tape, target, value⟩
  · exact absurd ((targets _).trans (rewriteTarget_of_value crypto free stored decrypted))
      (missed _ (mem_readPhase stored) rfl plaintext)
  · -- the entry that went back there is the one the read phase saw there
    rw [targets] at target
    obtain ⟨stored', decrypted'⟩ := rewriteTarget_of_mem_readPhase crypto unique free member target
    rw [stored] at stored'
    cases stored'
    rw [decrypted] at decrypted'
    cases decrypted'
    exact ⟨_, value, Enigma.Decrypt_Encrypt lawful newCipher tape plaintext⟩

/-- **The rotation adds and removes no key**: every key holds a value after it exactly when it
did before. -/
theorem RotateDataKey_value_isSome {db db' : Bolt} (unique : db.KeysUnique) (free : db.SlashFree)
    (extracted : db.HasMetadata)
    (rotated : RotateDataKey crypto oldCipher newCipher tapes cipherMeta db = some (.ok db'))
    (q : Path) (key : Bytes) : (db'.value q key).isSome = (db.value q key).isSome := by
  obtain ⟨db₁, written, done⟩ := writePhase_eq_ok crypto rotated
  obtain ⟨-, values⟩ := writeEntries_frame crypto _ written
  obtain ⟨-, metadataFrame, metadataPresent⟩ := Bolt.putAll_frame _ done
  by_cases isMetadata : q = [DefaultNamespace] ∧ key ∈ metadataKeys
  · obtain ⟨rfl, member⟩ := isMetadata
    rw [metadataPresent key (by rwa [CipherMeta.keys_pairs]), extracted key member]
  · rw [metadataFrame q key (by rwa [CipherMeta.keys_pairs])]
    rcases values q key with ⟨unchanged, -⟩ | ⟨e, member, rfl, plaintext, tape, target, value⟩
    · rw [unchanged]
    · rw [value, (rewriteTarget_of_mem_readPhase crypto unique free member target).1]
      rfl

/-- The write phase changes values only. -/
theorem writePhase_sameShape {snapshot : List RotationEntry} {db db' : Bolt}
    (rotated : writePhase crypto oldCipher newCipher tapes cipherMeta snapshot db =
      some (.ok db')) :
    db.SameShape db' := by
  obtain ⟨db₁, written, done⟩ := writePhase_eq_ok crypto rotated
  exact (writeEntries_frame crypto _ written).1.trans (Bolt.putAll_frame _ done).1

/-- **A bucket below the top level with a `'/'` in a name on its path is never written**: the
write phase puts values into top-level buckets and into buckets whose names hold no `'/'`. -/
theorem RotateDataKey_slashed {db db' : Bolt}
    (rotated : RotateDataKey crypto oldCipher newCipher tapes cipherMeta db = some (.ok db'))
    {q : Path} (deep : 2 ≤ q.length) (slashed : ∃ name ∈ q, slash ∈ name) (key : Bytes) :
    db'.value q key = db.value q key := by
  obtain ⟨db₁, written, done⟩ := writePhase_eq_ok crypto rotated
  obtain ⟨-, values⟩ := writeEntries_frame crypto _ written
  obtain ⟨-, metadataFrame, -⟩ := Bolt.putAll_frame _ done
  have notMetadata : ¬(q = [DefaultNamespace] ∧ key ∈ cipherMeta.pairs.map Prod.fst) := by
    rintro ⟨rfl, -⟩
    simp at deep
  rw [metadataFrame q key notMetadata]
  rcases values q key with ⟨unchanged, -⟩ | ⟨e, -, -, plaintext, tape, target, -⟩
  · exact unchanged
  · obtain ⟨name, member, holds⟩ := slashed
    rcases entryBucket_cases (rewriteTarget_eq_some crypto target).2 with single | names
    · rw [single] at deep
      simp at deep
    · exact absurd holds (names name member)

end Rotation

/-! ### The rotation and its paths -/

/-- **Rotating the data key keeps every value only where no bucket name holds a `'/'`.** On a
file bbolt keeps (unique keys), whose names hold no `'/'` and whose key metadata `extractCipher`
found, the rotation goes through, keeps every bucket and every key, and leaves each value that
decrypted under the old cipher (other than the metadata it replaces) decrypting under the new one
to the same plaintext. But the write phase finds a bucket from its joined path, as a top-level
name or split at `'/'`: a bucket below the top level with a `'/'` in a name on its path is never
written, whatever the file, and its values stay sealed under the old key. -/
theorem rotate_data_key_skips_slashed_buckets :
    (∀ (crypto : Primitives), crypto.Lawful → ∀ (oldCipher newCipher : Enigma)
      (tapes : Nat → Nat → UInt8) (cipherMeta : CipherMeta) (db : Bolt),
      db.KeysUnique → db.SlashFree → db.HasMetadata →
      ∃ db', RotateDataKey crypto oldCipher newCipher tapes cipherMeta db = some (.ok db') ∧
        db.SameShape db' ∧ (∀ q key, (db'.value q key).isSome = (db.value q key).isSome) ∧
        ∀ q key data plaintext, db.value q key = some data →
          oldCipher.Decrypt crypto data = .ok plaintext →
          ¬(q = [DefaultNamespace] ∧ key ∈ metadataKeys) →
          ∃ data', db'.value q key = some data' ∧
            newCipher.Decrypt crypto data' = .ok plaintext) ∧
    ∀ (crypto : Primitives) (oldCipher newCipher : Enigma) (tapes : Nat → Nat → UInt8)
      (cipherMeta : CipherMeta) (db db' : Bolt),
      RotateDataKey crypto oldCipher newCipher tapes cipherMeta db = some (.ok db') →
      ∀ q key, 2 ≤ q.length → (∃ name ∈ q, slash ∈ name) → db'.value q key = db.value q key := by
  refine ⟨fun crypto lawful oldCipher newCipher tapes cipherMeta db unique free extracted => ?_,
    fun crypto oldCipher newCipher tapes cipherMeta db db' rotated q key deep slashed =>
      RotateDataKey_slashed crypto rotated deep slashed key⟩
  obtain ⟨db', rotated⟩ := @writePhase_readPhase_ok crypto oldCipher newCipher tapes cipherMeta
    db db unique free extracted fun _ => rfl
  exact ⟨db', rotated, writePhase_sameShape crypto rotated,
    RotateDataKey_value_isSome crypto unique free extracted rotated,
    fun q key data plaintext stored decrypted notMetadata =>
      writePhase_restores_snapshot crypto lawful unique free (fun _ => rfl) rotated stored decrypted
        notMetadata⟩

/-- The tag of `Primitives.tagged`: the key's first sixteen bytes, padded with zeros. -/
def keyTag (key : Bytes) : Bytes :=
  (key ++ List.replicate 16 0).take 16

/-- Primitives like `Primitives.plain` whose tag is the key's: a ciphertext opens under the key
that sealed it only, as with the real AEAD. -/
def Primitives.tagged : Primitives :=
  { Primitives.plain with
    aeadSeal := fun key _ plaintext => plaintext ++ keyTag key
    aeadOpen := fun key _ ciphertext =>
      if 16 ≤ ciphertext.length ∧ ciphertext.drop (ciphertext.length - 16) = keyTag key then
        some (ciphertext.take (ciphertext.length - 16))
      else none }

/-- A file as `NewBoltDB` leaves it, with one session whose id holds a `'/'` (the id is the
peer's session key and a suffix, and the key is checked for its length only), and a value there
sealed under the old key `[1]`. -/
def slashedSessionFile : Bolt :=
  [(DefaultNamespace, metadataKeys.map fun key => (key, Node.value [0])),
    (SessionsNamespace, [([97, 47, 98], .bucket [([7],
      .value (Enigma.Encrypt Primitives.tagged ⟨[1]⟩ (fun _ => 0) [5]))])])]

theorem rotate_data_key_skips_slashed_buckets_session :
    ∃ db', RotateDataKey Primitives.tagged ⟨[1]⟩ ⟨[2]⟩ (fun _ _ => 0) ⟨[], [], [], []⟩
        slashedSessionFile = some (.ok db') ∧
      (slashedSessionFile.value [SessionsNamespace, [97, 47, 98]] [7]).map
        (Enigma.Decrypt Primitives.tagged ⟨[1]⟩) = some (.ok [5]) ∧
      (db'.value [SessionsNamespace, [97, 47, 98]] [7]).map
        (Enigma.Decrypt Primitives.tagged ⟨[2]⟩) = some (.error .aeadOpen) := by
  obtain ⟨db', rotated⟩ : ∃ db', RotateDataKey Primitives.tagged ⟨[1]⟩ ⟨[2]⟩ (fun _ _ => 0)
      ⟨[], [], [], []⟩ slashedSessionFile = some (.ok db') := ⟨_, rfl⟩
  refine ⟨db', rotated, by decide, ?_⟩
  rw [rotate_data_key_skips_slashed_buckets.2 Primitives.tagged ⟨[1]⟩ ⟨[2]⟩ (fun _ _ => 0)
    ⟨[], [], [], []⟩ slashedSessionFile db' rotated [SessionsNamespace, [97, 47, 98]] [7]
    (by decide) ⟨[97, 47, 98], by simp, by decide⟩]
  decide

end Kamune
