/-
**The storage engine and the session records (`internal/engine`, `pkg/storage/session.go`).**

A BoltDB file is a tree of buckets; the engine hands out `Namespace` handles to them. `Sub`
follows a child bucket and never creates one: where the child is missing it returns
`nilNamespace`, on which every read and write fails with `ErrMissingNamespace`. `Ensure` creates
the child. `Command` runs a function in a read-write transaction and rolls everything back when it
fails. The session records live under `sessions/<id>/meta`, reached by a chain of `Sub`, so every
session operation other than `CreateSession` needs the record to exist already.

Values are kept as the engine returns them: the at-rest cipher (`PutEncrypted` encrypts,
`GetEncrypted` decrypts) is left out, its decryption inverting its encryption.

* `Store.Command_error`: a failed command leaves the store as it was;
* `sessionMeta_eq`: the meta handle of a session is its bucket exactly when the record exists;
* `deserializeList_serializeList`, `serializeList_deserializeList`: a packed list of fewer than
  `2 ^ 32` tokens of 32 bytes reads back, and a value that reads as a list is its packing; at
  `2 ^ 32` tokens the `uint32` count wraps (`deserializeList_serializeList_of_le`);
* `swapRemove_perm_erase`: swapping the last token into the place of the first occurrence removes
  exactly that occurrence, in another order;
* `Storage.SetMeta_missing`: without a record, `SetMeta` fails and changes nothing;
* `Storage.RemoveListItem_eq_ok`, `Storage.RemoveListItem_absent`: a present entry is removed by
  swapping in the last one; an absent one leaves the store as it was.
-/

import Kamune.Crypto

namespace Kamune

open Wire

/-! ### Association lists -/

/-- A lookup in a list of named entries (the items of a bucket, a bucket's children) by its
first entry. -/
@[simp] theorem lookup_cons_eq_ite {β : Type} (key other : Bytes) (node : β)
    (rest : List (Bytes × β)) :
    ((key, node) :: rest).lookup other = if other = key then some node else rest.lookup other := by
  by_cases same : other = key
  · subst same
    simp [List.lookup]
  · have unequal : (other == key) = false := beq_false_of_ne same
    simp [List.lookup, unequal, same]

/-! ### The engine -/

/-- A bucket, by the names from the root down. -/
abbrev Path := List Bytes

/-- The state of a BoltDB file: which buckets exist, and the value under each key of each
bucket. Buckets form a tree, and a value is always in a bucket that exists. -/
structure Store where
  bucket : Path → Bool
  item : Path → Bytes → Option Bytes
  bucketsNested : ∀ path name, bucket (path ++ [name]) = true → path ≠ [] → bucket path = true
  itemsInBuckets : ∀ path key, item path key ≠ none → bucket path = true

/-- The engine's sentinel errors. -/
inductive EngineError where
  /-- `ErrMissingItem`. -/
  | missingItem
  /-- `ErrMissingNamespace`. -/
  | missingNamespace
  deriving DecidableEq, Repr

/-- A `Namespace`: the root of a transaction, a bucket, or `nilNamespace`. -/
inductive Namespace where
  | root
  | bucket (path : Path)
  | missing
  deriving DecidableEq, Repr

/-- The path of a child of a handle; `nilNamespace` has none. -/
def Namespace.child : Namespace → Bytes → Option Path
  | .root, name => some [name]
  | .bucket path, name => some (path ++ [name])
  | .missing, _ => none

/-- `boltNamespace.Sub`: the child bucket if it exists, `nilNamespace` otherwise. -/
def Namespace.Sub (store : Store) (ns : Namespace) (name : Bytes) : Namespace :=
  match ns.child name with
  | some path => if store.bucket path then .bucket path else .missing
  | none => .missing

/-- The store with the bucket `parent ++ [name]` added, under a parent that exists. -/
def Store.createBucket (store : Store) (parent : Path) (name : Bytes)
    (present : parent ≠ [] → store.bucket parent = true) : Store where
  bucket := fun other => other = parent ++ [name] || store.bucket other
  item := store.item
  bucketsNested := fun path child created nonempty => by
    rcases Bool.or_eq_true_iff.mp created with made | old
    · obtain ⟨rfl, -⟩ := List.append_inj' (of_decide_eq_true made) rfl
      rw [present nonempty, Bool.or_true]
    · rw [store.bucketsNested path child old nonempty, Bool.or_true]
  itemsInBuckets := fun other key stored => by
    rw [store.itemsInBuckets other key stored, Bool.or_true]

/-- `boltNamespace.Ensure`: the child bucket, created if it is missing. A handle the engine gave
out names a bucket that exists; the check only keeps the store a tree. -/
def Namespace.Ensure (store : Store) : Namespace → Bytes → Store × Namespace
  | .root, name => (store.createBucket [] name (absurd rfl), .bucket [name])
  | .bucket path, name =>
    if present : store.bucket path = true then
      (store.createBucket path name fun _ => present, .bucket (path ++ [name]))
    else (store, .missing)
  | .missing, _ => (store, .missing)

/-- `GetEncrypted`: the value under a key of a bucket. -/
def Namespace.GetEncrypted (store : Store) : Namespace → Bytes → Except EngineError Bytes
  | .bucket path, key =>
    match store.item path key with
    | some value => .ok value
    | none => .error .missingItem
  | _, _ => .error .missingNamespace

/-- `PutEncrypted`: set the value under a key of a bucket. A handle the engine gave out names a
bucket that exists; the check only keeps the store well formed. -/
def Namespace.PutEncrypted (store : Store) : Namespace → Bytes → Bytes → Except EngineError Store
  | .bucket path, key, value =>
    if present : store.bucket path = true then
      .ok { store with
        item := fun other otherKey =>
          if other = path ∧ otherKey = key then some value else store.item other otherKey
        itemsInBuckets := fun other otherKey stored => by
          by_cases here : other = path ∧ otherKey = key
          · rw [here.1]
            exact present
          · rw [if_neg here] at stored
            exact store.itemsInBuckets other otherKey stored }
    else .error .missingNamespace
  | _, _, _ => .error .missingNamespace

/-- `BoltStore.Command`: a read-write transaction, committed when the function succeeds and rolled
back when it fails. -/
def Store.Command {ε α : Type} (store : Store) (f : Store → Except ε (Store × α)) :
    Store × Except ε α :=
  match f store with
  | .ok (store', result) => (store', .ok result)
  | .error err => (store, .error err)

theorem Store.Command_error {ε α : Type} {store : Store} {f : Store → Except ε (Store × α)}
    {err : ε} (failed : f store = .error err) : store.Command f = (store, .error err) := by
  rw [Store.Command, failed]

theorem Store.Command_ok {ε α : Type} {store store' : Store} {f : Store → Except ε (Store × α)}
    {result : α} (succeeded : f store = .ok (store', result)) :
    store.Command f = (store', .ok result) := by
  rw [Store.Command, succeeded]

@[simp] theorem Namespace.GetEncrypted_missing (store : Store) (key : Bytes) :
    Namespace.missing.GetEncrypted store key = .error .missingNamespace := rfl

@[simp] theorem Namespace.PutEncrypted_missing (store : Store) (key value : Bytes) :
    Namespace.missing.PutEncrypted store key value = .error .missingNamespace := rfl

@[simp] theorem Namespace.Sub_missing (store : Store) (name : Bytes) :
    Namespace.missing.Sub store name = .missing := rfl

/-- The value under the key just put, and every other value as it was. -/
theorem Namespace.item_PutEncrypted {store store' : Store} {path : Path} {key value : Bytes}
    (put : (Namespace.bucket path).PutEncrypted store key value = .ok store') (other : Path)
    (otherKey : Bytes) :
    store'.item other otherKey =
      if other = path ∧ otherKey = key then some value else store.item other otherKey := by
  rw [Namespace.PutEncrypted] at put
  split at put
  case isTrue => cases put; rfl
  case isFalse => cases put

theorem Namespace.bucket_PutEncrypted {store store' : Store} {ns : Namespace} {key value : Bytes}
    (put : ns.PutEncrypted store key value = .ok store') : store'.bucket = store.bucket := by
  cases ns with
  | bucket path =>
    rw [Namespace.PutEncrypted] at put
    split at put
    case isTrue => cases put; rfl
    case isFalse => cases put
  | root => cases put
  | missing => cases put

@[simp] theorem Namespace.item_Ensure (store : Store) (ns : Namespace) (name : Bytes) :
    (ns.Ensure store name).1.item = store.item := by
  cases ns with
  | root => rfl
  | bucket path =>
    rw [Namespace.Ensure]
    split <;> rfl
  | missing => rfl

/-- A write changes only the key it writes. -/
theorem Namespace.item_PutEncrypted_ne {store store' : Store} {ns : Namespace} {key value : Bytes}
    (put : ns.PutEncrypted store key value = .ok store') (other : Path) {otherKey : Bytes}
    (different : otherKey ≠ key) : store'.item other otherKey = store.item other otherKey := by
  cases ns with
  | bucket path => rw [Namespace.item_PutEncrypted put, if_neg fun both => different both.2]
  | root => cases put
  | missing => cases put

/-- A bucket that exists takes a value. -/
theorem Namespace.PutEncrypted_bucket {store : Store} {path : Path} (present : store.bucket path)
    (key value : Bytes) :
    ∃ store', (Namespace.bucket path).PutEncrypted store key value = .ok store' := by
  rw [Namespace.PutEncrypted, dif_pos present]
  exact ⟨_, rfl⟩

/-! ### Session records -/

/-- `engine.SessionsNamespace`. -/
def SessionsNamespace : Bytes := stringBytes "sessions"

/-- `engine.PeersNamespace`. -/
def PeersNamespace : Bytes := stringBytes "peers"

def metaNamespace : Bytes := stringBytes "meta"

def chatNamespace : Bytes := stringBytes "chat"

/-- `PeerKey`. -/
def PeerKey : Bytes := stringBytes "peer"

/-- `EstablishedAtKey`. -/
def EstablishedAtKey : Bytes := stringBytes "established_at"

/-- `ResumptionTokensKey`. -/
def ResumptionTokensKey : Bytes := stringBytes "resumption_tokens"

/-- `engine.DefaultNamespace`. -/
def DefaultNamespace : Bytes := stringBytes "kamune-store"

/-- `engine.SettingsNamespace`. -/
def SettingsNamespace : Bytes := stringBytes "settings"

/-- The store `NewBoltDB` opens on a new file: the four top-level buckets, empty. The values of
the at-rest cipher in the default bucket are left out. -/
def Store.initial : Store where
  bucket path :=
    path ∈ [[DefaultNamespace], [SettingsNamespace], [PeersNamespace], [SessionsNamespace]]
  item _ _ := none
  bucketsNested path name created nonempty := by
    have single : (path ++ [name]).length = 1 := by
      simp only [List.mem_cons, List.not_mem_nil, or_false, decide_eq_true_eq] at created
      rcases created with top | top | top | top <;> rw [top] <;> rfl
    rw [List.length_append, List.length_singleton, Nat.add_eq_right,
      List.length_eq_zero_iff] at single
    exact absurd single nonempty
  itemsInBuckets _ _ stored := absurd rfl stored

theorem PeerKey_ne_ResumptionTokensKey : PeerKey ≠ ResumptionTokensKey := by decide

theorem EstablishedAtKey_ne_ResumptionTokensKey : EstablishedAtKey ≠ ResumptionTokensKey := by
  decide

/-- The bucket of a session's metadata, `sessions/<id>/meta`. -/
def metaPath (sessionID : Bytes) : Path := [SessionsNamespace, sessionID, metaNamespace]

/-- A session's record exists: the buckets down to its metadata. -/
def Store.HasSession (store : Store) (sessionID : Bytes) : Prop :=
  store.bucket [SessionsNamespace] = true ∧ store.bucket [SessionsNamespace, sessionID] = true ∧
    store.bucket (metaPath sessionID) = true

instance (store : Store) (sessionID : Bytes) : Decidable (store.HasSession sessionID) :=
  inferInstanceAs (Decidable (_ ∧ _ ∧ _))

/-- In a tree of buckets a session's record exists as soon as its metadata bucket does. -/
theorem Store.HasSession_iff (store : Store) (sessionID : Bytes) :
    store.HasSession sessionID ↔ store.bucket (metaPath sessionID) = true := by
  have session : store.bucket (metaPath sessionID) = true →
      store.bucket [SessionsNamespace, sessionID] = true :=
    fun present => store.bucketsNested [SessionsNamespace, sessionID] metaNamespace present
      (List.cons_ne_nil _ _)
  have sessions : store.bucket [SessionsNamespace, sessionID] = true →
      store.bucket [SessionsNamespace] = true :=
    fun present => store.bucketsNested [SessionsNamespace] sessionID present (List.cons_ne_nil _ _)
  exact ⟨fun present => present.2.2,
    fun present => ⟨sessions (session present), session present, present⟩⟩

/-- Without a record, nothing is stored under the session's metadata. -/
theorem Store.item_metaPath_of_not_HasSession {store : Store} {sessionID : Bytes}
    (absent : ¬store.HasSession sessionID) (key : Bytes) :
    store.item (metaPath sessionID) key = none := by
  by_contra stored
  exact absent ((store.HasSession_iff sessionID).mpr (store.itemsInBuckets _ key stored))

/-- `sessionMeta`: `b.Sub(sessions).Sub(id).Sub("meta")`. -/
def sessionMeta (store : Store) (sessionID : Bytes) : Namespace :=
  ((Namespace.root.Sub store SessionsNamespace).Sub store sessionID).Sub store metaNamespace

/-- **The meta handle is the session's bucket exactly when its record exists**, and
`nilNamespace` otherwise. -/
theorem sessionMeta_eq (store : Store) (sessionID : Bytes) :
    sessionMeta store sessionID =
      if store.HasSession sessionID then .bucket (metaPath sessionID) else .missing := by
  unfold sessionMeta Store.HasSession metaPath
  by_cases sessions : store.bucket [SessionsNamespace] = true
  · by_cases session : store.bucket [SessionsNamespace, sessionID] = true
    · simp [Namespace.Sub, Namespace.child, sessions, session]
    · simp [Namespace.Sub, Namespace.child, sessions, session]
  · simp [Namespace.Sub, Namespace.child, sessions]

/-! ### Packed lists -/

/-- `ElemSize`. -/
def ElemSize : Nat := 32

/-- `copy(dst[offset:], src)`: as many bytes of `src` as fit from `offset` on. -/
def copyAt (dst : Bytes) (offset : Nat) (src : Bytes) : Bytes :=
  dst.take offset ++ src.take (dst.length - offset) ++
    dst.drop (offset + min src.length (dst.length - offset))

/-- The loop of `serializeList`: element `index` copied into its slot, and on. -/
def serializeListFrom (data : Bytes) : Nat → List Bytes → Bytes
  | _, [] => data
  | index, item :: rest => serializeListFrom (copyAt data (4 + index * ElemSize) item) (index + 1) rest

/-- `serializeList`: `uint32(count)`, then each element copied into a slot of `ElemSize`. -/
def serializeList (list : List Bytes) : Bytes :=
  serializeListFrom
    (bigEndian 4 (list.length % 2 ^ 32) ++ List.replicate (list.length * ElemSize) 0) 0 list

/-- Copying over a slot of its own length replaces exactly that slot. -/
theorem copyAt_slot {front middle back item : Bytes} (fits : item.length = middle.length) :
    copyAt (front ++ middle ++ back) front.length item = front ++ item ++ back := by
  have room : item.length ≤ (middle ++ back).length := by
    rw [List.length_append]
    omega
  have dropped : (front ++ (middle ++ back)).drop (front.length + item.length) = back := by
    rw [fits, ← List.length_append, ← List.append_assoc, List.drop_left]
  unfold copyAt
  have rest : (front ++ (middle ++ back)).length - front.length = (middle ++ back).length := by
    rw [List.length_append, Nat.add_sub_cancel_left]
  rw [List.append_assoc front middle back, List.take_left, rest, List.take_of_length_le room,
    Nat.min_eq_left room, dropped]

/-- Elements of `ElemSize` bytes each fill their slots one after another. -/
theorem serializeListFrom_slots (pre : Bytes) (preLength : pre.length = 4) :
    ∀ (done rest : List Bytes), (∀ item ∈ done ++ rest, item.length = ElemSize) →
      serializeListFrom (pre ++ done.flatten ++ List.replicate (rest.length * ElemSize) 0)
        done.length rest = pre ++ (done ++ rest).flatten
  | done, [], _ => by simp [serializeListFrom]
  | done, item :: rest, slots => by
    have doneLength : done.flatten.length = done.length * ElemSize := by
      rw [List.length_flatten, List.map_congr_left (fun item member =>
        slots item (List.mem_append_left _ member)), List.map_const', List.sum_replicate,
        smul_eq_mul]
    have itemLength : item.length = (List.replicate ElemSize (0 : UInt8)).length := by
      rw [List.length_replicate]
      exact slots item (by simp)
    have offset : (pre ++ done.flatten).length = 4 + done.length * ElemSize := by
      rw [List.length_append, preLength, doneLength]
    have filled : copyAt (pre ++ done.flatten ++ List.replicate ElemSize 0 ++
        List.replicate (rest.length * ElemSize) 0) (pre ++ done.flatten).length item =
        pre ++ done.flatten ++ item ++ List.replicate (rest.length * ElemSize) 0 :=
      copyAt_slot itemLength
    rw [offset] at filled
    have split : List.replicate ((item :: rest).length * ElemSize) (0 : UInt8) =
        List.replicate ElemSize 0 ++ List.replicate (rest.length * ElemSize) 0 := by
      rw [List.replicate_append_replicate, List.length_cons, Nat.succ_mul, Nat.add_comm]
    -- the slot of `item` is filled; the rest is the same loop one element further
    have next := serializeListFrom_slots pre preLength (done ++ [item]) rest
      (by simpa [List.append_assoc] using slots)
    rw [serializeListFrom, split, ← List.append_assoc, filled]
    simpa [List.append_assoc] using next

/-- The errors of the session operations. -/
inductive StorageError where
  /-- An engine sentinel: `ErrMissingItem` or `ErrMissingNamespace`. -/
  | engine (err : EngineError)
  /-- `ErrNotFound`. -/
  | notFound
  /-- `ErrSessionNotFound`. -/
  | sessionNotFound
  /-- `ErrPeerExpired`. -/
  | peerExpired
  /-- `"unmarshaling peer: %w"`. -/
  | unmarshalingPeer
  /-- `"%w (expected 44, got %d bytes)"` of `ErrInvalidPublicKey`. -/
  | invalidPublicKey (length : Nat)
  /-- `"adding peer to storage: %w"`. -/
  | addingPeer (inner : StorageError)
  /-- `"getting peer: %w"`. -/
  | gettingPeer (inner : StorageError)
  /-- `"find peer: %w"`. -/
  | findPeer (inner : StorageError)
  /-- `"find peer for session %s: %w"`. -/
  | findSessionPeer (inner : StorageError)
  /-- `"store peer key: %w"`. -/
  | storePeerKey (inner : StorageError)
  /-- `"store established_at: %w"`. -/
  | storeEstablishedAt (inner : StorageError)
  /-- `"set session meta %s/%s: %w"`. -/
  | setMeta (inner : StorageError)
  /-- `"get session meta %s/%s: %w"`. -/
  | getMeta (inner : StorageError)
  /-- `"pop from %s/%s: %w"`. -/
  | popFrom (inner : StorageError)
  /-- `"remove from %s/%s: %w"`. -/
  | removeFrom (inner : StorageError)
  /-- `"create session %s: %w"`. -/
  | createSession (inner : StorageError)
  deriving DecidableEq, Repr

/-- `isMissing`: `errors.Is` an engine sentinel, through every wrapping. -/
def StorageError.isMissing : StorageError → Bool
  | .engine _ => true
  | .addingPeer inner | .gettingPeer inner | .findPeer inner | .findSessionPeer inner
  | .storePeerKey inner | .storeEstablishedAt inner | .setMeta inner | .getMeta inner
  | .popFrom inner | .removeFrom inner | .createSession inner => inner.isMissing
  | _ => false

/-- `deserializeList`: nothing from fewer than four bytes, `ErrNotFound` when the length is not
the packed length of the count, the slots otherwise. -/
def deserializeList (data : Bytes) : Except StorageError (List Bytes) :=
  if data.length < 4 then .ok []
  else
    let count := ofBigEndian (data.take 4)
    if 4 + count * ElemSize ≠ data.length then .error .notFound
    else .ok ((List.range count).map fun index => (data.drop (4 + index * ElemSize)).take ElemSize)

/-- `serializeList` of elements of `ElemSize` bytes: the count, then the elements. -/
theorem serializeList_eq {list : List Bytes} (slots : ∀ item ∈ list, item.length = ElemSize) :
    serializeList list = bigEndian 4 (list.length % 2 ^ 32) ++ list.flatten := by
  have filled := serializeListFrom_slots (bigEndian 4 (list.length % 2 ^ 32))
    (length_bigEndian _ _) [] list (by simpa using slots)
  unfold serializeList
  simpa using filled

/-- Slot `index` of elements of `k` bytes each is element `index`. -/
theorem take_drop_flatten {k : Nat} :
    ∀ (list : List Bytes), (∀ item ∈ list, item.length = k) →
      ∀ (index : Nat) (within : index < list.length),
        (list.flatten.drop (index * k)).take k = list[index]
  | [], _, _, within => absurd within (by simp)
  | item :: rest, slots, 0, _ => by
    rw [Nat.zero_mul, List.drop_zero, List.flatten_cons,
      List.take_left' (slots item List.mem_cons_self), List.getElem_cons_zero]
  | item :: rest, slots, index + 1, within => by
    have shorter : index < rest.length := by simpa using within
    rw [List.flatten_cons, Nat.succ_mul, Nat.add_comm, ← List.drop_drop,
      List.drop_left' (slots item List.mem_cons_self), List.getElem_cons_succ]
    exact take_drop_flatten rest (fun other member => slots other (List.mem_cons_of_mem _ member))
      index shorter

/-- The count a packing of 32-byte elements starts with, and its length. -/
theorem serializeList_header {list : List Bytes} (slots : ∀ item ∈ list, item.length = ElemSize) :
    ofBigEndian ((serializeList list).take 4) = list.length % 2 ^ 32 ∧
      (serializeList list).length = 4 + list.length * ElemSize := by
  have flatLength : list.flatten.length = list.length * ElemSize := by
    rw [List.length_flatten, List.map_congr_left slots, List.map_const', List.sum_replicate,
      smul_eq_mul]
  have width : (bigEndian 4 (list.length % 2 ^ 32)).length = 4 := length_bigEndian _ _
  rw [serializeList_eq slots, List.take_left' width, ofBigEndian_bigEndian,
    Nat.mod_mod_of_dvd _ (by norm_num), List.length_append, width, flatLength]
  exact ⟨by norm_num, rfl⟩

/-- **A packed list of 32-byte elements reads back.** -/
theorem deserializeList_serializeList {list : List Bytes}
    (slots : ∀ item ∈ list, item.length = ElemSize) (short : list.length < 2 ^ 32) :
    deserializeList (serializeList list) = .ok list := by
  obtain ⟨count, total⟩ := serializeList_header slots
  unfold deserializeList
  rw [if_neg (by omega)]
  dsimp only
  rw [count, Nat.mod_eq_of_lt short, if_neg (by omega)]
  congr 1
  -- slot `index` of the packing is entry `index`
  apply List.ext_getElem (by simp)
  intro index within _
  rw [List.getElem_map, List.getElem_range, serializeList_eq slots, ← List.drop_drop,
    List.drop_left' (length_bigEndian _ _)]
  exact take_drop_flatten list slots index (by simpa using within)

/-- A list of `2 ^ 32` elements or more has its count cut to 32 bits by `uint32(len(list))`,
and its packing no longer reads back. -/
theorem deserializeList_serializeList_of_le {list : List Bytes}
    (slots : ∀ item ∈ list, item.length = ElemSize) (long : 2 ^ 32 ≤ list.length) :
    deserializeList (serializeList list) = .error .notFound := by
  obtain ⟨count, total⟩ := serializeList_header slots
  have wrapped : list.length % 2 ^ 32 < list.length :=
    lt_of_lt_of_le (Nat.mod_lt _ (by norm_num)) long
  unfold deserializeList
  rw [if_neg (by omega)]
  dsimp only
  rw [count, if_pos (by unfold ElemSize at total ⊢; omega)]

theorem serializeList_count_wraps :
    deserializeList (serializeList (List.replicate (2 ^ 32) (List.replicate ElemSize 0))) =
      .error .notFound :=
  -- rewrites only: a simplifier would unfold the literal list
  deserializeList_serializeList_of_le
    (fun item member => by rw [List.eq_of_mem_replicate member, List.length_replicate])
    (le_of_eq List.length_replicate.symm)

/-- Cutting `count` slots of `k` bytes out of a list of that length and joining them gives the
list back. -/
theorem flatten_slots {k : Nat} : ∀ (count : Nat) (bytes : Bytes), bytes.length = count * k →
    ((List.range count).map fun index => (bytes.drop (index * k)).take k).flatten = bytes
  | 0, bytes, empty => by
    rw [Nat.zero_mul, List.length_eq_zero_iff] at empty
    simp [empty]
  | count + 1, bytes, full => by
    have rest := flatten_slots count (bytes.drop k)
      (by rw [List.length_drop, full, Nat.succ_mul, Nat.add_sub_cancel])
    -- slot `index + 1` of the list is slot `index` of its tail
    have shifted : (fun index => (bytes.drop (index * k)).take k) ∘ Nat.succ =
        fun index => ((bytes.drop k).drop (index * k)).take k := by
      funext index
      rw [Function.comp_apply, List.drop_drop, Nat.succ_mul, Nat.add_comm]
    rw [List.range_succ_eq_map, List.map_cons, List.map_map, shifted, List.flatten_cons, rest,
      Nat.zero_mul, List.drop_zero, List.take_append_drop]

/-- What `deserializeList` returns is a list of 32-byte elements, fewer than `2 ^ 32`. -/
theorem deserializeList_slots {data : Bytes} {list : List Bytes}
    (decoded : deserializeList data = .ok list) :
    (∀ item ∈ list, item.length = ElemSize) ∧ list.length < 2 ^ 32 := by
  unfold deserializeList at decoded
  split at decoded
  case isTrue =>
    cases decoded
    simp
  case isFalse long =>
    dsimp only at decoded
    split at decoded
    case isTrue => cases decoded
    case isFalse exact =>
      cases decoded
      have countSmall := ofBigEndian_lt (data.take 4)
      rw [List.length_take, Nat.min_eq_left (by omega)] at countSmall
      refine ⟨fun item member => ?_, by simpa using countSmall⟩
      obtain ⟨index, within, rfl⟩ := List.mem_map.mp member
      rw [List.mem_range] at within
      rw [List.length_take, List.length_drop, Nat.min_eq_left]
      unfold ElemSize at exact ⊢
      have : (index + 1) * 32 ≤ ofBigEndian (List.take 4 data) * 32 :=
        Nat.mul_le_mul_right _ within
      omega

/-- **A value that reads as a packed list is that list's packing**, once it holds a count: the
count is its first four bytes and the slots are the rest. -/
theorem serializeList_deserializeList {data : Bytes} {list : List Bytes} (long : 4 ≤ data.length)
    (decoded : deserializeList data = .ok list) : serializeList list = data := by
  obtain ⟨slots, -⟩ := deserializeList_slots decoded
  have headerLength : (data.take 4).length = 4 := by rw [List.length_take, Nat.min_eq_left long]
  have countSmall : ofBigEndian (data.take 4) < 2 ^ 32 := by
    have := ofBigEndian_lt (data.take 4)
    rwa [headerLength] at this
  have header : bigEndian 4 (ofBigEndian (data.take 4)) = data.take 4 := by
    have readBack := bigEndian_ofBigEndian (data.take 4)
    rwa [headerLength] at readBack
  unfold deserializeList at decoded
  rw [if_neg (by omega)] at decoded
  dsimp only at decoded
  split at decoded
  case isTrue => cases decoded
  case isFalse exact =>
    cases decoded
    have body := flatten_slots (k := ElemSize) (ofBigEndian (data.take 4)) (data.drop 4)
      (by rw [List.length_drop]; omega)
    have slices : (fun index => (data.drop (4 + index * ElemSize)).take ElemSize) =
        fun index => ((data.drop 4).drop (index * ElemSize)).take ElemSize := by
      funext index
      rw [List.drop_drop]
    rw [serializeList_eq slots, List.length_map, List.length_range, Nat.mod_eq_of_lt countSmall,
      header, slices, body, List.take_append_drop]

/-- The list less its entry `index`, the last entry moved into its place. -/
def swapRemove (list : List Bytes) (index : Nat) : List Bytes :=
  (list.set index (list.getLastD [])).dropLast

theorem length_swapRemove (list : List Bytes) (index : Nat) :
    (swapRemove list index).length = list.length - 1 := by
  simp [swapRemove]

theorem swapRemove_slots {list : List Bytes} {index : Nat}
    (slots : ∀ item ∈ list, item.length = ElemSize) :
    ∀ item ∈ swapRemove list index, item.length = ElemSize := by
  intro item member
  have kept := List.mem_of_mem_dropLast member
  rcases List.mem_or_eq_of_mem_set kept with original | last
  · exact slots item original
  · rw [last]
    cases list with
    | nil => simp [swapRemove] at member
    | cons head tail =>
      rw [List.getLastD_cons,
        ← List.getLast_eq_getLastD (List.cons_ne_nil head tail)]
      exact slots _ (List.getLast_mem (List.cons_ne_nil head tail))

/-- Swapping the last entry into the place of an occurrence and dropping the last slot leaves
the entries around it, in another order. -/
theorem swapRemove_middle_perm (front back : List Bytes) (entry : Bytes) :
    (swapRemove (front ++ entry :: back) front.length).Perm (front ++ back) := by
  unfold swapRemove
  rcases List.eq_nil_or_concat back with rfl | ⟨middle, last, rfl⟩
  case inl =>
    -- the occurrence is the last entry: it is dropped where it stands
    simp [List.set_append_right]
  case inr =>
    have lastEntry : (front ++ entry :: middle.concat last).getLastD [] = last := by
      rw [List.concat_eq_append, ← List.cons_append, ← List.append_assoc, List.getLastD_concat]
    have moved : (front ++ entry :: middle.concat last).set front.length last =
        front ++ last :: middle ++ [last] := by
      simp [List.set_append_right]
    rw [lastEntry, moved, List.dropLast_concat, List.concat_eq_append]
    exact ((List.perm_append_singleton last middle).symm).append_left front

/-- **Swapping the last entry in removes one occurrence**: at the first index of an entry,
`swapRemove` is the list less that entry, in another order. -/
theorem swapRemove_perm_erase {list : List Bytes} {entry : Bytes} {index : Nat}
    (found : list.findIdx? (· = entry) = some index) :
    (swapRemove list index).Perm (list.erase entry) := by
  obtain ⟨within, atIndex, before⟩ := List.findIdx?_eq_some_iff_getElem.mp found
  have entryAt : list[index] = entry := of_decide_eq_true atIndex
  have fresh : entry ∉ list.take index := by
    intro member
    obtain ⟨earlier, earlierWithin, earlierEntry⟩ := List.mem_iff_getElem.mp member
    rw [List.length_take] at earlierWithin
    rw [List.getElem_take] at earlierEntry
    exact before earlier (by omega) (decide_eq_true earlierEntry)
  have split : list = list.take index ++ entry :: list.drop (index + 1) := by
    rw [← entryAt, List.getElem_cons_drop, List.take_append_drop]
  have frontLength : (list.take index).length = index := by
    rw [List.length_take]
    omega
  have erased : list.erase entry = list.take index ++ list.drop (index + 1) := by
    conv_lhs => rw [split]
    rw [List.erase_append_right _ fresh, List.erase_cons_head]
  have moved := swapRemove_middle_perm (list.take index) (list.drop (index + 1)) entry
  rw [frontLength, ← split] at moved
  rw [erased]
  exact moved

/-! ### The session operations -/

/-- A peer as the operations read it: its public key and when it was first seen. -/
structure Peer where
  PublicKey : Bytes
  FirstSeen : Nat
  deriving DecidableEq, Repr

/-- What the storage relies on besides the engine: `peerKey` (SHA3-512 of the claim), the
encoding of a `pb.Peer` and its decoding, and the peer expiry. -/
structure StorageEnv where
  peerKey : Bytes → Bytes
  encodePeer : Peer → Bytes
  decodePeer : Bytes → Option Peer
  expiryDuration : Nat

/-- `defaultExpiryDuration`, in nanoseconds: a week. -/
def defaultExpiryDuration : Nat := 7 * 24 * 3600 * 10 ^ 9

/-- An environment that keys a peer by its claim itself and stores the first-seen time as eight
bytes before the key; it gives the model concrete stores to run on. -/
def StorageEnv.plain : StorageEnv where
  peerKey claim := claim
  encodePeer peer := bigEndian 8 (peer.FirstSeen % 2 ^ 64) ++ peer.PublicKey
  decodePeer data := some ⟨data.drop 8, ofBigEndian (data.take 8)⟩
  expiryDuration := defaultExpiryDuration

variable (env : StorageEnv)

/-- `findPeer` at clock time `now`. The deletion of an expired peer, which runs as a second
transaction from inside the caller's, is left out. -/
def findPeer (store : Store) (key : Bytes) (now : Nat) : Except StorageError Peer :=
  match (Namespace.root.Sub store PeersNamespace).GetEncrypted store key with
  | .error err => .error (.gettingPeer (.engine err))
  | .ok data =>
    match env.decodePeer data with
    | none => .error .unmarshalingPeer
    | some peer => if peer.FirstSeen + env.expiryDuration < now then .error .peerExpired
      else .ok peer

/-- `Storage.StorePeer` at clock time `now`: the key must be the 44 bytes of a PKIX Ed25519 key,
and a zero `FirstSeen` becomes `now`. The record carries no text here, so marshalling it cannot
fail. -/
def Storage.StorePeer (store : Store) (peer : Peer) (now : Nat) :
    Store × Except StorageError Unit :=
  if peer.PublicKey.length ≠ 44 then (store, .error (.invalidPublicKey peer.PublicKey.length))
  else
    let firstSeen := if peer.FirstSeen = 0 then now else peer.FirstSeen
    let data := env.encodePeer { peer with FirstSeen := firstSeen }
    let (store, result) := store.Command fun store =>
      match (Namespace.root.Sub store PeersNamespace).PutEncrypted store
          (env.peerKey peer.PublicKey) data with
      | .error err => .error (.engine err)
      | .ok store => .ok (store, ())
    (store, result.mapError .addingPeer)

/-- `Storage.CreateSession` at clock time `now`: the peer must be known; the session's buckets
are created and its peer key and establishment time stored. -/
def Storage.CreateSession (store : Store) (sessionID publicKey : Bytes) (now : Nat) :
    Store × Except StorageError Unit :=
  let (store, result) := store.Command fun store =>
    match findPeer env store (env.peerKey publicKey) now with
    | .error err => .error (.findPeer err)
    | .ok peer =>
      let (store, sessions) := Namespace.root.Ensure store SessionsNamespace
      let (store, session) := sessions.Ensure store sessionID
      let (store, metaNs) := session.Ensure store metaNamespace
      let (store, _) := session.Ensure store chatNamespace
      match metaNs.PutEncrypted store PeerKey peer.PublicKey with
      | .error err => .error (.storePeerKey (.engine err))
      | .ok store =>
        match metaNs.PutEncrypted store EstablishedAtKey (bigEndian 8 (now % 2 ^ 64)) with
        | .error err => .error (.storeEstablishedAt (.engine err))
        | .ok store => .ok (store, ())
  (store, result.mapError .createSession)

/-- `Storage.GetMeta`: the value under a key of the session's metadata, `nil` when it or the
record is missing. -/
def Storage.GetMeta (store : Store) (sessionID key : Bytes) :
    Except StorageError (Option Bytes) :=
  match (sessionMeta store sessionID).GetEncrypted store key with
  | .ok value => .ok (some value)
  | .error err =>
    if (StorageError.engine err).isMissing then .ok none else .error (.getMeta (.engine err))

/-- `Storage.SetMeta`: write a value under a key of the session's metadata. -/
def Storage.SetMeta (store : Store) (sessionID key value : Bytes) :
    Store × Except StorageError Unit :=
  let (store, result) := store.Command fun store =>
    match (sessionMeta store sessionID).PutEncrypted store key value with
    | .error err => .error (.engine err)
    | .ok store => .ok (store, ())
  (store, result.mapError .setMeta)

/-- `Storage.GetPeer` at clock time `now`. -/
def Storage.GetPeer (store : Store) (sessionID : Bytes) (now : Nat) :
    Except StorageError Peer :=
  match Storage.GetMeta store sessionID PeerKey with
  | .error err => .error err
  | .ok none => .error .sessionNotFound
  | .ok (some publicKey) =>
    (findPeer env store (env.peerKey publicKey) now).mapError .findSessionPeer

/-- `Storage.GetEstablishedAt`: the first eight bytes, big-endian. -/
def Storage.GetEstablishedAt (store : Store) (sessionID : Bytes) : Except StorageError Nat :=
  match Storage.GetMeta store sessionID EstablishedAtKey with
  | .error err => .error err
  | .ok value =>
    let value := value.getD []
    if value.length < 8 then .error .sessionNotFound else .ok (ofBigEndian (value.take 8))

/-- `Storage.PopList`: take the first entry of the packed list under a key. -/
def Storage.PopList (store : Store) (sessionID key : Bytes) : Store × Except StorageError Bytes :=
  let (store, result) := store.Command fun store =>
    let metaNs := sessionMeta store sessionID
    match metaNs.GetEncrypted store key with
    | .error err => .error (.engine err)
    | .ok data =>
      match deserializeList data with
      | .error err => .error err
      | .ok [] => .error .notFound
      | .ok (entry :: rest) =>
        match metaNs.PutEncrypted store key (serializeList rest) with
        | .error err => .error (.engine err)
        | .ok store => .ok (store, entry)
  (store, result.mapError fun err => if err.isMissing then .notFound else .popFrom err)

/-- `Storage.RemoveListItem`: remove an entry of the packed list under a key, swapping the last
entry into its place. -/
def Storage.RemoveListItem (store : Store) (sessionID key entry : Bytes) :
    Store × Except StorageError Unit :=
  let (store, result) := store.Command fun store =>
    let metaNs := sessionMeta store sessionID
    match metaNs.GetEncrypted store key with
    | .error err => .error (.engine err)
    | .ok data =>
      match deserializeList data with
      | .error err => .error err
      | .ok list =>
        match list.findIdx? (· = entry) with
        | none => .error .notFound
        | some index =>
          match metaNs.PutEncrypted store key (serializeList (swapRemove list index)) with
          | .error err => .error (.engine err)
          | .ok store => .ok (store, ())
  (store, result.mapError fun err => if err.isMissing then .notFound else .removeFrom err)

/-! ### What the operations do -/

/-- **Without a record, `SetMeta` fails with the missing namespace and changes nothing**: the
chain of `Sub` ends on `nilNamespace`. -/
theorem Storage.SetMeta_missing {store : Store} {sessionID : Bytes}
    (absent : ¬store.HasSession sessionID) (key value : Bytes) :
    Storage.SetMeta store sessionID key value =
      (store, .error (.setMeta (.engine .missingNamespace))) := by
  have failed : (match (sessionMeta store sessionID).PutEncrypted store key value with
      | .error err => .error (.engine err)
      | .ok store => .ok (store, ()) : Except StorageError (Store × Unit)) =
      .error (.engine .missingNamespace) := by
    rw [sessionMeta_eq, if_neg absent]
    rfl
  unfold Storage.SetMeta
  rw [Store.Command_error failed]
  rfl

/-- The value under a key of the session's metadata, read through its handle. -/
theorem GetEncrypted_sessionMeta (store : Store) (sessionID key : Bytes) :
    (sessionMeta store sessionID).GetEncrypted store key =
      if store.HasSession sessionID then
        match store.item (metaPath sessionID) key with
        | some value => .ok value
        | none => .error .missingItem
      else .error .missingNamespace := by
  rw [sessionMeta_eq]
  split <;> rfl

/-- With no value under the key, reading it through the meta handle fails. -/
theorem GetEncrypted_sessionMeta_none {store : Store} {sessionID key : Bytes}
    (absent : store.item (metaPath sessionID) key = none) :
    ∃ err, (sessionMeta store sessionID).GetEncrypted store key = .error err := by
  rw [GetEncrypted_sessionMeta]
  split
  · rw [absent]
    exact ⟨_, rfl⟩
  · exact ⟨_, rfl⟩

/-- With no value under the key, `GetMeta` reads `nil`. -/
theorem Storage.GetMeta_none {store : Store} {sessionID key : Bytes}
    (absent : store.item (metaPath sessionID) key = none) :
    Storage.GetMeta store sessionID key = .ok none := by
  obtain ⟨err, failed⟩ := GetEncrypted_sessionMeta_none absent
  unfold Storage.GetMeta
  rw [failed]
  rfl

/-- With no value under the key, `PopList` fails with `ErrNotFound` and changes nothing. -/
theorem Storage.PopList_none {store : Store} {sessionID key : Bytes}
    (absent : store.item (metaPath sessionID) key = none) :
    Storage.PopList store sessionID key = (store, .error .notFound) := by
  obtain ⟨err, failed⟩ := GetEncrypted_sessionMeta_none absent
  unfold Storage.PopList Store.Command
  simp only [failed]
  rfl

/-- With no value under the key, `RemoveListItem` fails with `ErrNotFound` and changes
nothing. -/
theorem Storage.RemoveListItem_none {store : Store} {sessionID key : Bytes}
    (absent : store.item (metaPath sessionID) key = none) (entry : Bytes) :
    Storage.RemoveListItem store sessionID key entry = (store, .error .notFound) := by
  obtain ⟨err, failed⟩ := GetEncrypted_sessionMeta_none absent
  unfold Storage.RemoveListItem Store.Command
  simp only [failed]
  rfl

/-- **A non-empty list gives up its first entry**: the rest is written back. -/
theorem Storage.PopList_eq_ok {store : Store} {sessionID key data entry : Bytes}
    {rest : List Bytes} (present : store.HasSession sessionID)
    (stored : store.item (metaPath sessionID) key = some data)
    (decoded : deserializeList data = .ok (entry :: rest)) :
    ∃ store', (Namespace.bucket (metaPath sessionID)).PutEncrypted store key
        (serializeList rest) = .ok store' ∧
      Storage.PopList store sessionID key = (store', .ok entry) := by
  obtain ⟨store', put⟩ := Namespace.PutEncrypted_bucket present.2.2 key (serializeList rest)
  refine ⟨store', put, ?_⟩
  unfold Storage.PopList Store.Command
  simp only [sessionMeta_eq, if_pos present, Namespace.GetEncrypted, stored, decoded, put]
  rfl

/-- An empty list gives nothing up: `ErrNotFound`, wrapped, and the store as it was. -/
theorem Storage.PopList_empty {store : Store} {sessionID key data : Bytes}
    (present : store.HasSession sessionID)
    (stored : store.item (metaPath sessionID) key = some data)
    (decoded : deserializeList data = .ok []) :
    Storage.PopList store sessionID key = (store, .error (.popFrom .notFound)) := by
  unfold Storage.PopList Store.Command
  simp only [sessionMeta_eq, if_pos present, Namespace.GetEncrypted, stored, decoded]
  rfl

/-- **A present entry is removed**: the list is written back with the last entry moved into its
place. -/
theorem Storage.RemoveListItem_eq_ok {store : Store} {sessionID key entry data : Bytes}
    {list : List Bytes} {index : Nat} (present : store.HasSession sessionID)
    (stored : store.item (metaPath sessionID) key = some data)
    (decoded : deserializeList data = .ok list) (found : list.findIdx? (· = entry) = some index) :
    ∃ store', (Namespace.bucket (metaPath sessionID)).PutEncrypted store key
        (serializeList (swapRemove list index)) = .ok store' ∧
      Storage.RemoveListItem store sessionID key entry = (store', .ok ()) := by
  obtain ⟨store', put⟩ :=
    Namespace.PutEncrypted_bucket present.2.2 key (serializeList (swapRemove list index))
  refine ⟨store', put, ?_⟩
  unfold Storage.RemoveListItem Store.Command
  simp only [sessionMeta_eq, if_pos present, Namespace.GetEncrypted, stored, decoded, found, put]
  rfl

/-- With the record in place, `SetMeta` writes the value under the key of its bucket. -/
theorem Storage.SetMeta_present {store : Store} {sessionID : Bytes}
    (present : store.HasSession sessionID) (key value : Bytes) :
    ∃ store', (Namespace.bucket (metaPath sessionID)).PutEncrypted store key value = .ok store' ∧
      Storage.SetMeta store sessionID key value = (store', .ok ()) := by
  obtain ⟨store', put⟩ := Namespace.PutEncrypted_bucket present.2.2 key value
  refine ⟨store', put, ?_⟩
  unfold Storage.SetMeta Store.Command
  simp only [sessionMeta_eq, if_pos present, put]
  rfl

/-- An absent entry leaves the store as it was. -/
theorem Storage.RemoveListItem_absent {store : Store} {sessionID key entry data : Bytes}
    {list : List Bytes} (present : store.HasSession sessionID)
    (stored : store.item (metaPath sessionID) key = some data)
    (decoded : deserializeList data = .ok list) (notFound : list.findIdx? (· = entry) = none) :
    Storage.RemoveListItem store sessionID key entry = (store, .error (.removeFrom .notFound)) := by
  unfold Storage.RemoveListItem Store.Command
  simp only [sessionMeta_eq, if_pos present, Namespace.GetEncrypted, stored, decoded, notFound]
  rfl

/-! ### Stores that differ in one value -/

/-- `other` has the buckets of `store` and its values, but perhaps the one under `key` in the
bucket `path`. -/
def Store.AgreeExcept (store other : Store) (path : Path) (key : Bytes) : Prop :=
  other.bucket = store.bucket ∧
    ∀ otherPath otherKey, ¬(otherPath = path ∧ otherKey = key) →
      other.item otherPath otherKey = store.item otherPath otherKey

theorem Namespace.PutEncrypted_agree {store store' : Store} {path : Path} {key value : Bytes}
    (put : (Namespace.bucket path).PutEncrypted store key value = .ok store') :
    store.AgreeExcept store' path key := by
  refine ⟨Namespace.bucket_PutEncrypted put, fun otherPath otherKey different => ?_⟩
  rw [Namespace.item_PutEncrypted put, if_neg different]

theorem Namespace.Sub_agree {store other : Store} {path : Path} {key : Bytes}
    (agree : store.AgreeExcept other path key) (ns : Namespace) (name : Bytes) :
    ns.Sub other name = ns.Sub store name := by
  unfold Namespace.Sub
  rw [agree.1]

/-- A handle reads the same value in both stores unless it names the one that differs. -/
theorem Namespace.GetEncrypted_agree {store other : Store} {path : Path} {key : Bytes}
    (agree : store.AgreeExcept other path key) {ns : Namespace} {otherKey : Bytes}
    (different : ∀ nsPath, ns = .bucket nsPath → ¬(nsPath = path ∧ otherKey = key)) :
    ns.GetEncrypted other otherKey = ns.GetEncrypted store otherKey := by
  cases ns with
  | bucket nsPath => simp only [Namespace.GetEncrypted, agree.2 _ _ (different nsPath rfl)]
  | root => rfl
  | missing => rfl

theorem sessionMeta_agree {store other : Store} {path : Path} {key : Bytes}
    (agree : store.AgreeExcept other path key) (sessionID : Bytes) :
    sessionMeta other sessionID = sessionMeta store sessionID := by
  unfold sessionMeta
  rw [Namespace.Sub_agree agree, Namespace.Sub_agree agree, Namespace.Sub_agree agree]

/-- `CreateSession` writes the peer key and the establishment time, and no other value. -/
theorem Storage.item_CreateSession (store : Store) (sessionID publicKey : Bytes) (now : Nat)
    (path : Path) {key : Bytes} (notPeer : key ≠ PeerKey) (notEstablished : key ≠ EstablishedAtKey) :
    (Storage.CreateSession env store sessionID publicKey now).1.item path key =
      store.item path key := by
  unfold Storage.CreateSession Store.Command
  simp only
  split
  case h_1 created _ succeeded =>
    -- the transaction committed: both of its writes went through, under other keys
    split at succeeded
    case h_1 => cases succeeded
    case h_2 peer _ =>
      split at succeeded
      case h_1 => cases succeeded
      case h_2 withPeer storedPeer =>
        split at succeeded
        case h_1 => cases succeeded
        case h_2 withTime storedTime =>
          cases succeeded
          rw [Namespace.item_PutEncrypted_ne storedTime path notEstablished,
            Namespace.item_PutEncrypted_ne storedPeer path notPeer]
          simp only [Namespace.item_Ensure]
  case h_2 => rfl

theorem Storage.GetMeta_agree {store other : Store} {path : Path} {key : Bytes}
    (agree : store.AgreeExcept other path key) {sessionID otherKey : Bytes}
    (different : ¬(metaPath sessionID = path ∧ otherKey = key)) :
    Storage.GetMeta other sessionID otherKey = Storage.GetMeta store sessionID otherKey := by
  have unchanged : (sessionMeta store sessionID).GetEncrypted other otherKey =
      (sessionMeta store sessionID).GetEncrypted store otherKey := by
    refine Namespace.GetEncrypted_agree agree fun nsPath handle => ?_
    rw [sessionMeta_eq] at handle
    split at handle
    case isTrue => cases handle; exact different
    case isFalse => cases handle
  unfold Storage.GetMeta
  rw [sessionMeta_agree agree, unchanged]

/-- `findPeer` reads the peers bucket alone, so a value that differs deeper down does not
change it. -/
theorem findPeer_agree {store other : Store} {path : Path} {key : Bytes}
    (agree : store.AgreeExcept other path key) (deep : 1 < path.length) (peerKey : Bytes)
    (now : Nat) : findPeer env other peerKey now = findPeer env store peerKey now := by
  have unchanged : (Namespace.root.Sub store PeersNamespace).GetEncrypted other peerKey =
      (Namespace.root.Sub store PeersNamespace).GetEncrypted store peerKey := by
    refine Namespace.GetEncrypted_agree agree fun nsPath handle => ?_
    simp only [Namespace.Sub, Namespace.child] at handle
    split at handle
    case isTrue =>
      cases handle
      rintro ⟨rfl, -⟩
      simp at deep
    case isFalse => cases handle
  unfold findPeer
  rw [Namespace.Sub_agree agree, unchanged]

theorem Storage.GetPeer_agree {store other : Store} {path : Path} {key : Bytes}
    (agree : store.AgreeExcept other path key) (deep : 1 < path.length) {sessionID : Bytes}
    (different : ¬(metaPath sessionID = path ∧ PeerKey = key)) (now : Nat) :
    Storage.GetPeer env other sessionID now = Storage.GetPeer env store sessionID now := by
  unfold Storage.GetPeer
  simp only [Storage.GetMeta_agree agree different, findPeer_agree env agree deep]

theorem Storage.GetEstablishedAt_agree {store other : Store} {path : Path} {key : Bytes}
    (agree : store.AgreeExcept other path key) {sessionID : Bytes}
    (different : ¬(metaPath sessionID = path ∧ EstablishedAtKey = key)) :
    Storage.GetEstablishedAt other sessionID = Storage.GetEstablishedAt store sessionID := by
  unfold Storage.GetEstablishedAt
  rw [Storage.GetMeta_agree agree different]

/-- **Removing a resumption token touches nothing else**: the list is written back without the
entry, and the buckets, the session's peer and its establishment time read as before. -/
theorem Storage.RemoveListItem_tokens {store : Store} {sessionID data entry : Bytes}
    {list : List Bytes} {index : Nat} (present : store.HasSession sessionID)
    (stored : store.item (metaPath sessionID) ResumptionTokensKey = some data)
    (decoded : deserializeList data = .ok list) (found : list.findIdx? (· = entry) = some index) :
    ∃ store', Storage.RemoveListItem store sessionID ResumptionTokensKey entry = (store', .ok ()) ∧
      store'.item (metaPath sessionID) ResumptionTokensKey =
        some (serializeList (swapRemove list index)) ∧
      store'.bucket = store.bucket ∧
      (∀ now, Storage.GetPeer env store' sessionID now = Storage.GetPeer env store sessionID now) ∧
      Storage.GetEstablishedAt store' sessionID = Storage.GetEstablishedAt store sessionID := by
  obtain ⟨store', put, removed⟩ := Storage.RemoveListItem_eq_ok present stored decoded found
  have agree := Namespace.PutEncrypted_agree put
  have deep : 1 < (metaPath sessionID).length := by simp [metaPath]
  refine ⟨store', removed, ?_, agree.1, fun now => ?_, ?_⟩
  · rw [Namespace.item_PutEncrypted put, if_pos ⟨rfl, rfl⟩]
  · exact Storage.GetPeer_agree env agree deep
      (fun both => PeerKey_ne_ResumptionTokensKey both.2) now
  · exact Storage.GetEstablishedAt_agree agree
      (fun both => EstablishedAtKey_ne_ResumptionTokensKey both.2)

/-! ### Packed token lists -/

/-- **Packed token lists**: a packing of fewer than `2 ^ 32` entries of 32 bytes reads back, and
a value of at least four bytes that reads as a list is that list's packing. Over a stored list,
`PopList` returns its first entry and writes back the rest, `RemoveListItem` writes back the list
less one occurrence of a present entry (in another order), and nothing else changes; a missing
list, an empty one and an absent entry give `ErrNotFound` (wrapped by the last two) and leave the
store as it was. -/
theorem packed_token_list_semantics :
    (∀ list : List Bytes, (∀ item ∈ list, item.length = ElemSize) → list.length < 2 ^ 32 →
      deserializeList (serializeList list) = .ok list) ∧
    (∀ (data : Bytes) (list : List Bytes), 4 ≤ data.length → deserializeList data = .ok list →
      serializeList list = data) ∧
    (∀ (store : Store) (sessionID key : Bytes), store.item (metaPath sessionID) key = none →
      Storage.PopList store sessionID key = (store, .error .notFound) ∧
        ∀ entry, Storage.RemoveListItem store sessionID key entry = (store, .error .notFound)) ∧
    ∀ (store : Store) (sessionID key data : Bytes) (list : List Bytes),
      store.HasSession sessionID → store.item (metaPath sessionID) key = some data →
      deserializeList data = .ok list →
      (list = [] → Storage.PopList store sessionID key = (store, .error (.popFrom .notFound))) ∧
      (∀ entry rest, list = entry :: rest → ∃ store',
        Storage.PopList store sessionID key = (store', .ok entry) ∧
        store'.item (metaPath sessionID) key = some (serializeList rest) ∧
        deserializeList (serializeList rest) = .ok rest ∧
        store.AgreeExcept store' (metaPath sessionID) key) ∧
      (∀ entry ∈ list, ∃ store' rest,
        Storage.RemoveListItem store sessionID key entry = (store', .ok ()) ∧
        store'.item (metaPath sessionID) key = some (serializeList rest) ∧
        deserializeList (serializeList rest) = .ok rest ∧ rest.Perm (list.erase entry) ∧
        store.AgreeExcept store' (metaPath sessionID) key) ∧
      (∀ entry ∉ list,
        Storage.RemoveListItem store sessionID key entry = (store, .error (.removeFrom .notFound))) := by
  refine ⟨fun list slots short => deserializeList_serializeList slots short,
    fun data list long decoded => serializeList_deserializeList long decoded,
    fun store sessionID key absent =>
      ⟨Storage.PopList_none absent, Storage.RemoveListItem_none absent⟩,
    fun store sessionID key data list present stored decoded => ?_⟩
  obtain ⟨slots, short⟩ := deserializeList_slots decoded
  refine ⟨fun empty => Storage.PopList_empty present stored (empty ▸ decoded), ?_, ?_, ?_⟩
  · rintro entry rest rfl
    obtain ⟨store', put, popped⟩ := Storage.PopList_eq_ok present stored decoded
    have restSlots : ∀ item ∈ rest, item.length = ElemSize :=
      fun item member => slots item (List.mem_cons_of_mem _ member)
    have restShort : rest.length < 2 ^ 32 := by
      rw [List.length_cons] at short
      omega
    refine ⟨store', popped, ?_, deserializeList_serializeList restSlots restShort,
      Namespace.PutEncrypted_agree put⟩
    rw [Namespace.item_PutEncrypted put, if_pos ⟨rfl, rfl⟩]
  · intro entry member
    -- the entry is found at its first index, where the swap removes it
    obtain ⟨index, found⟩ : ∃ index, list.findIdx? (· = entry) = some index :=
      Option.ne_none_iff_exists'.mp fun missed => by
        have unequal := List.findIdx?_eq_none_iff.mp missed entry member
        simp at unequal
    obtain ⟨store', put, removed⟩ := Storage.RemoveListItem_eq_ok present stored decoded found
    have shorter : (swapRemove list index).length < 2 ^ 32 := by
      rw [length_swapRemove]
      omega
    refine ⟨store', swapRemove list index, removed, ?_,
      deserializeList_serializeList (swapRemove_slots slots) shorter, swapRemove_perm_erase found,
      Namespace.PutEncrypted_agree put⟩
    rw [Namespace.item_PutEncrypted put, if_pos ⟨rfl, rfl⟩]
  · intro entry absent
    have notFound : list.findIdx? (· = entry) = none :=
      List.findIdx?_eq_none_iff.mpr fun item member =>
        decide_eq_false fun same => absent (same ▸ member)
    exact Storage.RemoveListItem_absent present stored decoded notFound

/-- A session holding three tokens, stored with `StorePeer`, `CreateSession` and `SetMeta`: the
first pops off, and the middle one is removed with the last swapped into its place. -/
theorem packed_token_list_semantics_stored :
    (∃ store', Storage.PopList (Storage.SetMeta (Storage.CreateSession StorageEnv.plain
          (Storage.StorePeer StorageEnv.plain Store.initial ⟨List.replicate 44 7, 5⟩ 5).1 [115]
          (List.replicate 44 7) 6).1 [115] ResumptionTokensKey
          (serializeList [List.replicate 32 1, List.replicate 32 2, List.replicate 32 3])).1
        [115] ResumptionTokensKey = (store', .ok (List.replicate 32 1)) ∧
      store'.item (metaPath [115]) ResumptionTokensKey =
        some (serializeList [List.replicate 32 2, List.replicate 32 3]) ∧
      deserializeList (serializeList [List.replicate 32 2, List.replicate 32 3]) =
        .ok [List.replicate 32 2, List.replicate 32 3] ∧
      (Storage.SetMeta (Storage.CreateSession StorageEnv.plain
          (Storage.StorePeer StorageEnv.plain Store.initial ⟨List.replicate 44 7, 5⟩ 5).1 [115]
          (List.replicate 44 7) 6).1 [115] ResumptionTokensKey
          (serializeList [List.replicate 32 1, List.replicate 32 2,
            List.replicate 32 3])).1.AgreeExcept store' (metaPath [115]) ResumptionTokensKey) ∧
    ∃ store' rest, Storage.RemoveListItem (Storage.SetMeta (Storage.CreateSession
          StorageEnv.plain (Storage.StorePeer StorageEnv.plain Store.initial
            ⟨List.replicate 44 7, 5⟩ 5).1 [115] (List.replicate 44 7) 6).1 [115]
          ResumptionTokensKey
          (serializeList [List.replicate 32 1, List.replicate 32 2, List.replicate 32 3])).1
        [115] ResumptionTokensKey (List.replicate 32 2) = (store', .ok ()) ∧
      store'.item (metaPath [115]) ResumptionTokensKey = some (serializeList rest) ∧
      deserializeList (serializeList rest) = .ok rest ∧
      rest.Perm ([List.replicate 32 1, List.replicate 32 2, List.replicate 32 3].erase
        (List.replicate 32 2)) ∧
      (Storage.SetMeta (Storage.CreateSession StorageEnv.plain
          (Storage.StorePeer StorageEnv.plain Store.initial ⟨List.replicate 44 7, 5⟩ 5).1 [115]
          (List.replicate 44 7) 6).1 [115] ResumptionTokensKey
          (serializeList [List.replicate 32 1, List.replicate 32 2,
            List.replicate 32 3])).1.AgreeExcept store' (metaPath [115]) ResumptionTokensKey := by
  have stored := packed_token_list_semantics.2.2.2 (Storage.SetMeta (Storage.CreateSession
      StorageEnv.plain (Storage.StorePeer StorageEnv.plain Store.initial
        ⟨List.replicate 44 7, 5⟩ 5).1 [115] (List.replicate 44 7) 6).1 [115] ResumptionTokensKey
      (serializeList [List.replicate 32 1, List.replicate 32 2, List.replicate 32 3])).1
    [115] ResumptionTokensKey
    (serializeList [List.replicate 32 1, List.replicate 32 2, List.replicate 32 3])
    [List.replicate 32 1, List.replicate 32 2, List.replicate 32 3]
    (by decide +kernel) (by decide +kernel) (by decide +kernel)
  exact ⟨stored.2.1 _ _ rfl, stored.2.2.1 _ (by simp)⟩

end Kamune
