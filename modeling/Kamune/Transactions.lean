/-
**Transactions and their locks: the expired-peer cleanup (`internal/engine/bolt_store.go`,
`pkg/storage/peer.go`, `pkg/storage/session.go`).**

`BoltStore.Query` runs its function in `db.View` and `Command` in `db.Update`. bbolt lets one
writer in at a time: `Update` holds `db.rwlock`, a `sync.Mutex`, for its whole transaction, so an
`Update` begun by a goroutine that is still inside another waits for a lock it holds itself and
never returns. A read transaction holds `mmaplock` for reading, and a commit that has to grow the
file takes it for writing: a write begun inside a read returns exactly when its commit does not
grow the file. Whether it does is bbolt's page allocation, not this repository's code, so it is a
parameter `grows` of the model.

`findPeer` deletes an expired peer with a `Command` of its own, from inside the transaction of
its caller. `findPeerCleanup` is that deletion as seen from the caller's transaction; the
operations are the pure ones of `Kamune.Storage` with it around them.

* `findPeer_eq_peerExpired_iff`: `findPeer` finds an expired peer exactly when a stored record
  decodes and its `FirstSeen` plus the expiry is before the clock;
* `create_session_blocks_on_expired_peer`: `CreateSession` returns exactly when the peer has not
  expired, and then as the pure model says, whatever bbolt's file growth;
* `Storage.FindPeer_eq_none_iff`: `FindPeer` blocks exactly on an expired peer whose deletion has
  to grow the file.
-/

import Kamune.Storage

namespace Kamune

open Wire

/-! ### Transactions -/

/-- The kind of a bbolt transaction: `db.View` (under `Query`) or `db.Update` (under `Command`). -/
inductive Txn where
  | view
  | update
  deriving DecidableEq, Repr

/-- Whether a goroutine inside a transaction of this kind gets through `db.Update` on `store`,
given whether that write's commit has to grow the file. -/
def Txn.admitsUpdate (grows : Store → Bool) : Txn → Store → Bool
  -- the commit re-maps the file under `mmaplock.Lock`, which waits for the reader's `RLock`
  | .view, store => !grows store
  -- `db.rwlock` is a `sync.Mutex` the enclosing `Update` holds
  | .update, _ => false

/-- `boltNamespace.Delete`: remove a key of a bucket that exists; an absent key is no error. -/
def Namespace.Delete (store : Store) : Namespace → Bytes → Except EngineError Store
  | .bucket path, key =>
    if store.bucket path = true then
      .ok { store with
        item := fun other otherKey =>
          if other = path ∧ otherKey = key then none else store.item other otherKey
        itemsInBuckets := fun other otherKey stored => by
          by_cases here : other = path ∧ otherKey = key
          · rw [if_pos here] at stored
            exact absurd rfl stored
          · rw [if_neg here] at stored
            exact store.itemsInBuckets other otherKey stored }
    else .error .missingNamespace
  | _, _ => .error .missingNamespace

theorem Namespace.item_Delete {store store' : Store} {path : Path} {key : Bytes}
    (deleted : (Namespace.bucket path).Delete store key = .ok store') (other : Path)
    (otherKey : Bytes) :
    store'.item other otherKey =
      if other = path ∧ otherKey = key then none else store.item other otherKey := by
  rw [Namespace.Delete] at deleted
  split at deleted
  case isTrue => cases deleted; rfl
  case isFalse => cases deleted

/-! ### The cleanup of `findPeer` -/

variable (env : StorageEnv)

/-- The deletion `findPeer` commits for an expired peer, `Command(peers.Delete(key))`; its
failure is only logged. -/
def deleteExpiredPeer (store : Store) (key : Bytes) : Store :=
  (store.Command fun store =>
    match (Namespace.root.Sub store PeersNamespace).Delete store key with
    | .error err => .error (StorageError.engine err)
    | .ok store => .ok (store, ())).1

variable (grows : Store → Bool)

/-- What `findPeer` does for `key` beyond its lookup, from inside a transaction of kind `outer`:
for an expired peer it issues the deletion's `Command`, which returns only where bbolt's locks let
it through (`none`: the goroutine blocks forever). -/
def findPeerCleanup (outer : Txn) (store : Store) (key : Bytes) (now : Nat) : Option Store :=
  match findPeer env store key now with
  | .error .peerExpired =>
    if outer.admitsUpdate grows store then some (deleteExpiredPeer store key) else none
  | _ => some store

/-- `Storage.FindPeer`: `findPeer` inside a `Query`. The store returned is the database after the
call. -/
def Storage.FindPeer (store : Store) (claim : Bytes) (now : Nat) :
    Option (Store × Except StorageError Peer) :=
  (findPeerCleanup env grows .view store (env.peerKey claim) now).map fun store' =>
    (store', findPeer env store (env.peerKey claim) now)

/-- `Storage.GetPeer` as its goroutine runs it: `GetMeta`, then `findPeer` inside a `Query`. -/
def Storage.GetPeer.locked (store : Store) (sessionID : Bytes) (now : Nat) :
    Option (Store × Except StorageError Peer) :=
  match Storage.GetMeta store sessionID PeerKey with
  | .ok (some publicKey) =>
    (findPeerCleanup env grows .view store (env.peerKey publicKey) now).map fun store' =>
      (store', Storage.GetPeer env store sessionID now)
  | _ => some (store, Storage.GetPeer env store sessionID now)

/-- `Storage.CreateSession` as its goroutine runs it: `findPeer` runs inside the `Command`. -/
def Storage.CreateSession.locked (store : Store) (sessionID publicKey : Bytes) (now : Nat) :
    Option (Store × Except StorageError Unit) :=
  (findPeerCleanup env grows .update store (env.peerKey publicKey) now).map fun _ =>
    Storage.CreateSession env store sessionID publicKey now

/-! ### When the cleanup runs -/

/-- **`findPeer` finds an expired peer** exactly when a record is stored under the key, decodes,
and was first seen more than the expiry before the clock. -/
theorem findPeer_eq_peerExpired_iff (store : Store) (key : Bytes) (now : Nat) :
    findPeer env store key now = .error .peerExpired ↔
      ∃ data peer, (Namespace.root.Sub store PeersNamespace).GetEncrypted store key = .ok data ∧
        env.decodePeer data = some peer ∧ peer.FirstSeen + env.expiryDuration < now := by
  unfold findPeer
  constructor
  · intro expired
    split at expired
    case h_1 => cases expired
    case h_2 data stored =>
      split at expired
      case h_1 => cases expired
      case h_2 peer decoded =>
        split at expired
        case isTrue late => exact ⟨data, peer, stored, decoded, late⟩
        case isFalse => cases expired
  · rintro ⟨data, peer, stored, decoded, late⟩
    rw [stored]
    dsimp only
    rw [decoded]
    dsimp only
    rw [if_pos late]

/-- Where the peer has not expired there is nothing to delete: the call goes through, and the
database is as it was. -/
theorem findPeerCleanup_of_ne {outer : Txn} {store : Store} {key : Bytes} {now : Nat}
    (live : findPeer env store key now ≠ .error .peerExpired) :
    findPeerCleanup env grows outer store key now = some store := by
  unfold findPeerCleanup
  split
  case h_1 expired => exact absurd expired live
  case h_2 => rfl

theorem findPeerCleanup_of_eq {outer : Txn} {store : Store} {key : Bytes} {now : Nat}
    (expired : findPeer env store key now = .error .peerExpired) :
    findPeerCleanup env grows outer store key now =
      if outer.admitsUpdate grows store then some (deleteExpiredPeer store key) else none := by
  unfold findPeerCleanup
  rw [expired]

/-- **The cleanup blocks exactly on an expired peer whose deletion bbolt's locks hold up.** -/
theorem findPeerCleanup_eq_none_iff {outer : Txn} {store : Store} {key : Bytes} {now : Nat} :
    findPeerCleanup env grows outer store key now = none ↔
      findPeer env store key now = .error .peerExpired ∧ outer.admitsUpdate grows store = false := by
  by_cases expired : findPeer env store key now = .error .peerExpired
  · rw [findPeerCleanup_of_eq env grows expired]
    cases outer.admitsUpdate grows store <;> simp [expired]
  · rw [findPeerCleanup_of_ne env grows expired]
    simp [expired]

/-- A value read through a handle on a top-level bucket sits in a bucket that exists. -/
theorem bucket_of_root_Sub_GetEncrypted {store : Store} {name key data : Bytes}
    (stored : (Namespace.root.Sub store name).GetEncrypted store key = .ok data) :
    store.bucket [name] = true := by
  by_contra absent
  have missing : Namespace.root.Sub store name = .missing := by
    simp [Namespace.Sub, Namespace.child, absent]
  rw [missing] at stored
  cases stored

/-- The deletion takes the peer's record out of the peers bucket. -/
theorem item_deleteExpiredPeer {store : Store} (present : store.bucket [PeersNamespace])
    (key : Bytes) : (deleteExpiredPeer store key).item [PeersNamespace] key = none := by
  have handle : Namespace.root.Sub store PeersNamespace = .bucket [PeersNamespace] := by
    simp [Namespace.Sub, Namespace.child, present]
  obtain ⟨store', deleted⟩ :
      ∃ store', (Namespace.bucket [PeersNamespace]).Delete store key = .ok store' := by
    rw [Namespace.Delete, if_pos present]
    exact ⟨_, rfl⟩
  have committed : deleteExpiredPeer store key = store' := by
    unfold deleteExpiredPeer Store.Command
    dsimp only
    rw [handle, deleted]
  rw [committed, Namespace.item_Delete deleted, if_pos ⟨rfl, rfl⟩]

/-- **`FindPeer` blocks exactly on an expired peer whose deletion has to grow the file**; when it
returns on an expired peer, the record is gone from the peers bucket. -/
theorem Storage.FindPeer_eq_none_iff (store : Store) (claim : Bytes) (now : Nat) :
    (Storage.FindPeer env grows store claim now = none ↔
      findPeer env store (env.peerKey claim) now = .error .peerExpired ∧ grows store = true) ∧
    (findPeer env store (env.peerKey claim) now = .error .peerExpired → grows store = false →
      Storage.FindPeer env grows store claim now =
        some (deleteExpiredPeer store (env.peerKey claim), .error .peerExpired) ∧
      (deleteExpiredPeer store (env.peerKey claim)).item [PeersNamespace] (env.peerKey claim) =
        none) := by
  refine ⟨?_, fun expired inPlace => ?_⟩
  · unfold Storage.FindPeer
    rw [Option.map_eq_none_iff, findPeerCleanup_eq_none_iff]
    simp [Txn.admitsUpdate]
  · obtain ⟨data, peer, stored, -, -⟩ :=
      (findPeer_eq_peerExpired_iff env store (env.peerKey claim) now).mp expired
    refine ⟨?_, item_deleteExpiredPeer (bucket_of_root_Sub_GetEncrypted stored) _⟩
    unfold Storage.FindPeer
    rw [findPeerCleanup_of_eq env grows expired, expired]
    simp [Txn.admitsUpdate, inPlace]

/-- **`CreateSession` blocks on an expired peer.** It returns exactly when the peer has not
expired, and then as the pure model says; for an expired peer, `findPeer` begins the deletion's
`Command` inside `CreateSession`'s own and waits for the writer lock forever, however bbolt
allocates pages. -/
theorem create_session_blocks_on_expired_peer (store : Store) (sessionID claim : Bytes)
    (now : Nat) :
    ((Storage.CreateSession.locked env grows store sessionID claim now).isNone ↔
      findPeer env store (env.peerKey claim) now = .error .peerExpired) ∧
    (findPeer env store (env.peerKey claim) now ≠ .error .peerExpired →
      Storage.CreateSession.locked env grows store sessionID claim now =
        some (Storage.CreateSession env store sessionID claim now)) := by
  refine ⟨?_, fun live => ?_⟩
  -- a write inside `CreateSession`'s own never gets the writer lock, whatever `grows` says
  · unfold Storage.CreateSession.locked
    rw [Option.isNone_iff_eq_none, Option.map_eq_none_iff, findPeerCleanup_eq_none_iff]
    simp [Txn.admitsUpdate]
  · unfold Storage.CreateSession.locked
    rw [findPeerCleanup_of_ne env grows live]
    rfl

theorem create_session_blocks_on_expired_peer_plain :
    (Storage.CreateSession.locked StorageEnv.plain (fun _ => false)
      (Storage.StorePeer StorageEnv.plain Store.initial ⟨List.replicate 44 7, 5⟩ 5).1 [115]
      (List.replicate 44 7) (defaultExpiryDuration + 6)).isNone :=
  (create_session_blocks_on_expired_peer StorageEnv.plain (fun _ => false)
    (Storage.StorePeer StorageEnv.plain Store.initial ⟨List.replicate 44 7, 5⟩ 5).1 [115]
    (List.replicate 44 7) (defaultExpiryDuration + 6)).1.mpr (by decide)

end Kamune
