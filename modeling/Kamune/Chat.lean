/-
**The chat history of a session (`pkg/storage/storage.go`).**

`AddChatEntry` stores a message under `sessions/<id>/chat/` with a 14-byte key (the local clock
in nanoseconds, the sender and four random bytes, big-endian) and a versioned value: the magic
`KMNE\x01`, the sender's timestamp in nanoseconds and the payload. `GetChatHistory` walks the
bucket in key order, skips keys shorter than 14 bytes, reads the sender from the key and the
timestamp and the payload from the value at fixed offsets, and sorts by timestamp, then sender.
It slices `value[5:13]` whatever the value's length, so a value shorter than 13 bytes panics;
it never looks at the magic.

A bucket is seen as its items in key order (`Items`), as `IterateEncrypted` yields them;
`Store.Holds` ties such a list to the store.

* `Store.Holds_AddChatEntry`: on an existing session `AddChatEntry` puts its key and value;
* `readChatItem_call`: what `AddChatEntry` wrote reads back as its entry;
* `chat_history_round_trip_or_panic`: entries added under distinct clock readings come back as a
  sorted permutation of what was added, and the history panics exactly when a long key holds a
  value shorter than 13 bytes.
-/

import Kamune.Storage

namespace Kamune

open Wire

/-! ### The chat bucket -/

/-- A sub-namespace of a session: `b.Sub(sessions).Sub(id).Sub(name)`. -/
def sessionSub (store : Store) (sessionID name : Bytes) : Namespace :=
  ((Namespace.root.Sub store SessionsNamespace).Sub store sessionID).Sub store name

/-- `sessionChat`. -/
def sessionChat (store : Store) (sessionID : Bytes) : Namespace :=
  sessionSub store sessionID chatNamespace

theorem sessionMeta_eq_sessionSub (store : Store) (sessionID : Bytes) :
    sessionMeta store sessionID = sessionSub store sessionID metaNamespace := rfl

/-- The path of a session's chat bucket. -/
def chatPath (sessionID : Bytes) : Path := [SessionsNamespace, sessionID, chatNamespace]

/-- **A session's sub-namespace is its bucket exactly when that bucket exists**: the buckets
above it then exist too. -/
theorem sessionSub_eq (store : Store) (sessionID name : Bytes) :
    sessionSub store sessionID name =
      if store.bucket [SessionsNamespace, sessionID, name] then
        .bucket [SessionsNamespace, sessionID, name]
      else .missing := by
  have session := store.bucketsNested [SessionsNamespace, sessionID] name
  have sessions := store.bucketsNested [SessionsNamespace] sessionID
  unfold sessionSub
  by_cases leaf : store.bucket [SessionsNamespace, sessionID, name] = true
  · have middle : store.bucket [SessionsNamespace, sessionID] = true := session leaf (by simp)
    have top : store.bucket [SessionsNamespace] = true := sessions middle (by simp)
    simp [Namespace.Sub, Namespace.child, top, middle, leaf]
  · by_cases top : store.bucket [SessionsNamespace] = true
    · by_cases middle : store.bucket [SessionsNamespace, sessionID] = true
      · simp [Namespace.Sub, Namespace.child, top, middle, leaf]
      · simp [Namespace.Sub, Namespace.child, top, middle, leaf]
    · simp [Namespace.Sub, Namespace.child, top, leaf]

/-- The items of a bucket in the order its cursor yields them: ascending keys, each once. -/
abbrev Items := List (Bytes × Bytes)

/-- `bucket.Put` on the items of a bucket: the value replaces that of its key, or goes in at its
place in key order. -/
def Items.put : Items → Bytes → Bytes → Items
  | [], key, value => [(key, value)]
  | (other, old) :: rest, key, value =>
    if key = other then (key, value) :: rest
    else if key < other then (key, value) :: (other, old) :: rest
    else (other, old) :: Items.put rest key value

/-- The items are those of the bucket `path`: what `IterateEncrypted` walks over. -/
def Store.Holds (store : Store) (path : Path) (items : Items) : Prop :=
  ∀ key, store.item path key = items.lookup key

/-- After a put, the key reads the new value and every other key reads as before. -/
theorem Items.lookup_put (key value other : Bytes) : ∀ items : Items,
    (items.put key value).lookup other = if other = key then some value else items.lookup other
  | [] => by simp [Items.put]
  | (first, old) :: rest => by
    unfold Items.put
    by_cases here : key = first
    · subst here
      by_cases same : other = key <;> simp [same]
    · by_cases before : key < first
      · rw [if_neg here, if_pos before]
        by_cases same : other = key <;> simp [same]
      · rw [if_neg here, if_neg before, lookup_cons_eq_ite, lookup_cons_eq_ite,
          Items.lookup_put key value other rest]
        by_cases atFirst : other = first
        · subst atFirst
          simp [Ne.symm here]
        · simp [atFirst]

/-- A put under a new key adds one item. -/
theorem Items.put_perm (key value : Bytes) : ∀ {items : Items}, items.lookup key = none →
    (items.put key value).Perm ((key, value) :: items)
  | [], _ => by simp [Items.put]
  | (first, old) :: rest, fresh => by
    rw [lookup_cons_eq_ite] at fresh
    have notFirst : key ≠ first := by
      intro same
      rw [if_pos same] at fresh
      cases fresh
    rw [if_neg notFirst] at fresh
    unfold Items.put
    rw [if_neg notFirst]
    by_cases before : key < first
    · rw [if_pos before]
    · rw [if_neg before]
      exact ((Items.put_perm key value fresh).cons _).trans (List.Perm.swap _ _ _)

/-! ### `AddChatEntry` -/

/-- `valueMagic`: `"KMNE\x01"`. -/
def valueMagic : Bytes := stringBytes "KMNE" ++ [1]

/-- The key of a chat entry: the local clock in nanoseconds, the sender, and the random suffix,
big-endian. -/
def chatKey (now : Int64) (sender : UInt16) (suffix : Bytes) : Bytes :=
  bigEndian 8 now.toUInt64.toNat ++ bigEndian 2 sender.toNat ++ suffix

/-- The versioned value of a chat entry: the magic, the sender's timestamp, the payload. -/
def chatValue (payload : Bytes) (ts : Int64) : Bytes :=
  valueMagic ++ bigEndian 8 ts.toUInt64.toNat ++ payload

/-- The error of `AddChatEntry`: `"store chat entry: %w"`. -/
inductive ChatError where
  | storeChatEntry (inner : EngineError)
  deriving DecidableEq, Repr

/-- `Storage.AddChatEntry` with the local clock `now` (`UnixNano`) and the random tape that fills
the key's last four bytes; `ts` is the sender's `UnixNano`. -/
def Storage.AddChatEntry (store : Store) (sessionID payload : Bytes) (ts : Int64) (sender : UInt16)
    (now : Int64) (tape : Nat → UInt8) : Store × Except ChatError Unit :=
  let key := chatKey now sender (randomBytes tape 4)
  let (store, result) := store.Command fun store =>
    match (sessionChat store sessionID).PutEncrypted store key (chatValue payload ts) with
    | .error err => .error err
    | .ok store => .ok (store, ())
  (store, result.mapError .storeChatEntry)

/-- **On an existing session `AddChatEntry` puts its key and value**, and keeps the buckets. -/
theorem Store.Holds_AddChatEntry {store : Store} {sessionID : Bytes} {items : Items}
    (present : store.bucket (chatPath sessionID)) (holds : store.Holds (chatPath sessionID) items)
    (payload : Bytes) (ts : Int64) (sender : UInt16) (now : Int64) (tape : Nat → UInt8) :
    let added := Storage.AddChatEntry store sessionID payload ts sender now tape
    added.2 = .ok () ∧ added.1.bucket = store.bucket ∧
      added.1.Holds (chatPath sessionID)
        (items.put (chatKey now sender (randomBytes tape 4)) (chatValue payload ts)) := by
  obtain ⟨store', put⟩ := Namespace.PutEncrypted_bucket present
    (chatKey now sender (randomBytes tape 4)) (chatValue payload ts)
  have handle : sessionChat store sessionID = .bucket (chatPath sessionID) := by
    rw [sessionChat, sessionSub_eq,
      if_pos (show store.bucket [SessionsNamespace, sessionID, chatNamespace] = true from present)]
    rfl
  have added : Storage.AddChatEntry store sessionID payload ts sender now tape =
      (store', .ok ()) := by
    unfold Storage.AddChatEntry Store.Command
    simp only [handle, put]
    rfl
  refine ⟨by rw [added], by rw [added, Namespace.bucket_PutEncrypted put], fun key => ?_⟩
  rw [added, Namespace.item_PutEncrypted put, Items.lookup_put, holds]
  by_cases same : key = chatKey now sender (randomBytes tape 4) <;> simp [same]

/-! ### `GetChatHistory` -/

/-- `ChatEntry`: the sender's timestamp in nanoseconds, the payload and the sender. -/
structure ChatEntry where
  Timestamp : Int64
  Data : Bytes
  Sender : UInt16
  deriving DecidableEq, Repr

/-- The entry `GetChatHistory` reads off a key and a value: the sender from `key[8:10]`, the
timestamp from `value[5:13]` and the data from `value[13:]`. -/
def chatEntryOf (key value : Bytes) : ChatEntry where
  Timestamp := (UInt64.ofNat (ofBigEndian ((value.drop 5).take 8))).toInt64
  Data := value.drop 13
  Sender := UInt16.ofNat (ofBigEndian ((key.drop 8).take 2))

/-- One item as `GetChatHistory` reads it: a key shorter than 14 bytes is skipped; slicing
`value[5:13]` of a value shorter than 13 bytes panics (`none`). -/
def readChatItem (item : Bytes × Bytes) : Option (Option ChatEntry) :=
  if item.1.length < 14 then some none
  else if item.2.length < 13 then none
  else some (some (chatEntryOf item.1 item.2))

/-- The order `GetChatHistory` sorts by: timestamp, then sender. -/
def chatEntryLE (first second : ChatEntry) : Bool :=
  first.Timestamp < second.Timestamp ||
    (first.Timestamp = second.Timestamp && first.Sender ≤ second.Sender)

/-- `Storage.GetChatHistory` over the items of the session's chat bucket; `none` is the panic.
`slices.SortFunc` is not stable: `List.mergeSort` stands for it, and what is proved of the result
holds of any sort by the same order, that it is a sorted permutation. -/
def Storage.GetChatHistory (items : Items) : Option (List ChatEntry) :=
  (items.mapM readChatItem).map fun read => (read.filterMap id).mergeSort chatEntryLE

theorem chatEntryLE_trans (first second third : ChatEntry) :
    chatEntryLE first second → chatEntryLE second third → chatEntryLE first third := by
  simp only [chatEntryLE, Bool.or_eq_true, Bool.and_eq_true, decide_eq_true_eq,
    Int64.lt_iff_toInt_lt, UInt16.le_iff_toNat_le, ← Int64.toInt_inj]
  omega

theorem chatEntryLE_total (first second : ChatEntry) :
    (chatEntryLE first second || chatEntryLE second first) = true := by
  simp only [chatEntryLE, Bool.or_eq_true, Bool.and_eq_true, decide_eq_true_eq,
    Int64.lt_iff_toInt_lt, UInt16.le_iff_toNat_le, ← Int64.toInt_inj]
  omega

/-- Where every key and value is long enough, every item reads as its entry. -/
theorem mapM_readChatItem : ∀ {items : Items},
    (∀ item ∈ items, 14 ≤ item.1.length ∧ 13 ≤ item.2.length) →
      items.mapM readChatItem = some (items.map fun item => some (chatEntryOf item.1 item.2))
  | [], _ => rfl
  | item :: rest, long => by
    obtain ⟨keyLong, valueLong⟩ := long item List.mem_cons_self
    have first : readChatItem item = some (some (chatEntryOf item.1 item.2)) := by
      rw [readChatItem, if_neg (by omega), if_neg (by omega)]
    have others := mapM_readChatItem fun other member => long other (List.mem_cons_of_mem _ member)
    simp [List.mapM_cons, first, others]

/-- A bucket of well-formed items reads in full, sorted. -/
theorem Storage.GetChatHistory_of_long {items : Items}
    (long : ∀ item ∈ items, 14 ≤ item.1.length ∧ 13 ≤ item.2.length) :
    Storage.GetChatHistory items =
      some ((items.map fun item => chatEntryOf item.1 item.2).mergeSort chatEntryLE) := by
  rw [Storage.GetChatHistory, mapM_readChatItem long, Option.map_some, List.filterMap_map]
  simp

/-- Past an element that reads, `mapM` fails exactly when the rest does. -/
theorem mapM_cons_eq_none_of_some {α β : Type} {f : α → Option β} {item : α} {value : β}
    (rest : List α) (first : f item = some value) :
    (item :: rest).mapM f = none ↔ rest.mapM f = none := by
  cases tail : rest.mapM f <;> simp [List.mapM_cons, first, tail]

/-- **The history panics exactly when a long key holds a short value.** -/
theorem mapM_readChatItem_eq_none_iff : ∀ items : Items,
    items.mapM readChatItem = none ↔ ∃ item ∈ items, 14 ≤ item.1.length ∧ item.2.length < 13
  | [] => by simp
  | item :: rest => by
    have others := mapM_readChatItem_eq_none_iff rest
    by_cases panics : 14 ≤ item.1.length ∧ item.2.length < 13
    · have first : readChatItem item = none := by
        rw [readChatItem, if_neg (by omega), if_pos panics.2]
      have whole : (item :: rest).mapM readChatItem = none := by simp [List.mapM_cons, first]
      exact ⟨fun _ => ⟨item, List.mem_cons_self, panics⟩, fun _ => whole⟩
    · have reads : readChatItem item ≠ none := by
        unfold readChatItem
        split_ifs with skipped short
        · simp
        · exact absurd ⟨by omega, short⟩ panics
        · simp
      obtain ⟨read, first⟩ := Option.ne_none_iff_exists'.mp reads
      rw [mapM_cons_eq_none_of_some rest first, others]
      constructor
      · rintro ⟨other, member, bad⟩
        exact ⟨other, List.mem_cons_of_mem _ member, bad⟩
      · rintro ⟨other, member, bad⟩
        rcases List.mem_cons.mp member with rfl | later
        · exact absurd bad panics
        · exact ⟨other, later, bad⟩

/-! ### The round trip -/

/-- One call of `AddChatEntry`: the payload, the sender's timestamp, the sender, the local clock
and the random tape of the key's suffix. -/
structure ChatCall where
  payload : Bytes
  ts : Int64
  sender : UInt16
  now : Int64
  tape : Nat → UInt8

/-- The key and the value a call writes. -/
def ChatCall.item (call : ChatCall) : Bytes × Bytes :=
  (chatKey call.now call.sender (randomBytes call.tape 4), chatValue call.payload call.ts)

/-- The entry a call records. -/
def ChatCall.entry (call : ChatCall) : ChatEntry := ⟨call.ts, call.payload, call.sender⟩

/-- A sequence of calls on one session, each on the store the one before left. -/
def Storage.AddChatEntries (store : Store) (sessionID : Bytes) (calls : List ChatCall) : Store :=
  calls.foldl (fun store call =>
    (Storage.AddChatEntry store sessionID call.payload call.ts call.sender call.now
      call.tape).1) store

theorem length_chatKey (now : Int64) (sender : UInt16) (tape : Nat → UInt8) :
    (chatKey now sender (randomBytes tape 4)).length = 14 := by
  simp [chatKey]

theorem length_valueMagic : valueMagic.length = 5 := by decide

theorem length_chatValue (payload : Bytes) (ts : Int64) :
    (chatValue payload ts).length = 13 + payload.length := by
  simp only [chatValue, List.length_append, length_valueMagic, length_bigEndian]

/-- Keys written at distinct clock readings differ: the clock is their first eight bytes. -/
theorem chatKey_ne {now other : Int64} (different : now ≠ other) (sender sender' : UInt16)
    (suffix suffix' : Bytes) : chatKey now sender suffix ≠ chatKey other sender' suffix' := by
  intro same
  have clocks := congrArg (List.take 8) same
  simp only [chatKey, List.append_assoc] at clocks
  rw [List.take_left' (length_bigEndian 8 _), List.take_left' (length_bigEndian 8 _)] at clocks
  have words := bigEndian_injective (UInt64.toNat_lt _) (UInt64.toNat_lt _) clocks
  apply different
  rw [← Int64.toInt64_toUInt64 now, ← Int64.toInt64_toUInt64 other, UInt64.toNat_inj.mp words]

/-- **What `AddChatEntry` wrote reads back as its entry.** -/
theorem readChatItem_call (call : ChatCall) :
    readChatItem call.item = some (some call.entry) := by
  have keyLength := length_chatKey call.now call.sender call.tape
  have valueLength := length_chatValue call.payload call.ts
  have senderBytes : ((chatKey call.now call.sender (randomBytes call.tape 4)).drop 8).take 2 =
      bigEndian 2 call.sender.toNat := by
    rw [chatKey, List.append_assoc, List.drop_left' (length_bigEndian 8 _),
      List.take_left' (length_bigEndian 2 _)]
  have timeBytes : ((chatValue call.payload call.ts).drop 5).take 8 =
      bigEndian 8 call.ts.toUInt64.toNat := by
    rw [chatValue, List.append_assoc, List.drop_left' length_valueMagic,
      List.take_left' (length_bigEndian 8 _)]
  have dataBytes : (chatValue call.payload call.ts).drop 13 = call.payload := by
    rw [chatValue, List.drop_left' (by simp [length_valueMagic])]
  have sender : UInt16.ofNat (ofBigEndian (bigEndian 2 call.sender.toNat)) = call.sender := by
    rw [ofBigEndian_bigEndian, Nat.mod_eq_of_lt (lt_of_lt_of_eq call.sender.toNat_lt
      (by norm_num)), UInt16.ofNat_toNat]
  have time : (UInt64.ofNat (ofBigEndian (bigEndian 8 call.ts.toUInt64.toNat))).toInt64 =
      call.ts := by
    rw [ofBigEndian_bigEndian, Nat.mod_eq_of_lt (lt_of_lt_of_eq call.ts.toUInt64.toNat_lt
      (by norm_num)), UInt64.ofNat_toNat, Int64.toInt64_toUInt64]
  rw [readChatItem, ChatCall.item]
  dsimp only
  rw [if_neg (by omega), if_neg (by omega)]
  simp only [chatEntryOf, senderBytes, timeBytes, dataBytes, sender, time, ChatCall.entry]

/-- **A run of calls under distinct clock readings**: the bucket holds exactly the items the
calls wrote, up to order, and its buckets stay. -/
theorem Store.Holds_AddChatEntries : ∀ {store : Store} {sessionID : Bytes} {items : Items}
    (calls : List ChatCall), store.bucket (chatPath sessionID) →
    store.Holds (chatPath sessionID) items →
    (∀ item ∈ items, ∀ call ∈ calls, item.1 ≠ call.item.1) → (calls.map ChatCall.now).Nodup →
    ∃ items', (Storage.AddChatEntries store sessionID calls).Holds (chatPath sessionID) items' ∧
      items'.Perm (calls.reverse.map ChatCall.item ++ items)
  | store, sessionID, items, [], _, holds, _, _ => ⟨items, holds, by simp⟩
  | store, sessionID, items, call :: calls, present, holds, fresh, distinct => by
    obtain ⟨-, buckets, added⟩ := Store.Holds_AddChatEntry present holds call.payload call.ts
      call.sender call.now call.tape
    have newKey : items.lookup call.item.1 = none := by
      rw [List.lookup_eq_none_iff]
      intro item member
      exact bne_iff_ne.mpr (fresh item member call List.mem_cons_self).symm
    have put := Items.put_perm call.item.1 call.item.2 newKey
    -- the item just written is new to every later call, whose clock reading differs
    have laterFresh : ∀ item ∈ items.put call.item.1 call.item.2, ∀ later ∈ calls,
        item.1 ≠ later.item.1 := by
      intro item member later laterMember
      rcases List.mem_cons.mp (put.mem_iff.mp member) with rfl | old
      · have apart : call.now ≠ later.now := by
          intro same
          have := (List.nodup_cons.mp distinct).1
          exact this (List.mem_map.mpr ⟨later, laterMember, same.symm⟩)
        exact chatKey_ne apart _ _ _ _
      · exact fresh item old later (List.mem_cons_of_mem _ laterMember)
    obtain ⟨items', holds', perm⟩ := @Store.Holds_AddChatEntries
      (Storage.AddChatEntry store sessionID call.payload call.ts call.sender call.now
        call.tape).1 _ _ calls (by rw [buckets]; exact present) added laterFresh
      (List.nodup_cons.mp distinct).2
    refine ⟨items', holds', perm.trans ?_⟩
    simp only [List.reverse_cons, List.map_append, List.map_cons, List.map_nil, List.append_assoc,
      List.singleton_append]
    exact (put.append_left _)

/-- **Chat history: the round trip, and the panic.** Entries added to an existing session with an
empty chat bucket, under distinct readings of the local clock, come back from `GetChatHistory` as
a permutation of what was added (the sender's timestamp, the payload, the sender), sorted by
timestamp and then sender. And for any contents of the bucket, `GetChatHistory` panics exactly
when some key of at least 14 bytes holds a value shorter than 13 bytes: it slices `value[5:13]`
without checking the length or the magic. -/
theorem chat_history_round_trip_or_panic :
    (∀ (store : Store) (sessionID : Bytes) (calls : List ChatCall),
      store.bucket (chatPath sessionID) → store.Holds (chatPath sessionID) [] →
      (calls.map ChatCall.now).Nodup →
      ∃ items, (Storage.AddChatEntries store sessionID calls).Holds (chatPath sessionID) items ∧
        ∃ history, Storage.GetChatHistory items = some history ∧
          history.Perm (calls.map ChatCall.entry) ∧
          history.Pairwise fun first second => chatEntryLE first second) ∧
    ∀ items : Items, Storage.GetChatHistory items = none ↔
      ∃ item ∈ items, 14 ≤ item.1.length ∧ item.2.length < 13 := by
  refine ⟨fun store sessionID calls present empty distinct => ?_, fun items => ?_⟩
  · obtain ⟨items, holds, perm⟩ := Store.Holds_AddChatEntries calls present empty
      (fun _ member => absurd member List.not_mem_nil) distinct
    rw [List.append_nil] at perm
    have long : ∀ item ∈ items, 14 ≤ item.1.length ∧ 13 ≤ item.2.length := by
      intro item member
      obtain ⟨call, -, rfl⟩ := List.mem_map.mp (perm.mem_iff.mp member)
      rw [ChatCall.item, length_chatKey, length_chatValue]
      omega
    -- every item reads as the entry of the call that wrote it
    have entries : (items.map fun item => chatEntryOf item.1 item.2).Perm
        (calls.map ChatCall.entry) := by
      have read : ∀ call : ChatCall, chatEntryOf call.item.1 call.item.2 = call.entry := by
        intro call
        have := readChatItem_call call
        rw [readChatItem, if_neg (by rw [ChatCall.item, length_chatKey]; omega),
          if_neg (by rw [ChatCall.item, length_chatValue]; omega)] at this
        exact Option.some.inj (Option.some.inj this)
      have mapped := perm.map fun item => chatEntryOf item.1 item.2
      rw [List.map_map, List.map_reverse] at mapped
      simp only [Function.comp_def, read] at mapped
      exact mapped.trans (List.reverse_perm _)
    refine ⟨items, holds, _, Storage.GetChatHistory_of_long long, ?_,
      List.pairwise_mergeSort chatEntryLE_trans chatEntryLE_total _⟩
    exact (List.mergeSort_perm _ _).trans entries
  · rw [Storage.GetChatHistory, Option.map_eq_none_iff]
    exact mapM_readChatItem_eq_none_iff items

/-- Two messages added to a new session under distinct clock readings come back sorted by their
timestamps; a legacy three-byte value under a full-length key panics. -/
theorem chat_history_round_trip_or_panic_two_calls :
    (∃ items, (Storage.AddChatEntries (Storage.CreateSession StorageEnv.plain
          (Storage.StorePeer StorageEnv.plain Store.initial ⟨List.replicate 44 7, 5⟩ 5).1 [115]
          (List.replicate 44 7) 6).1 [115]
        [⟨[1, 2], 30, 1, 10, fun _ => 0⟩, ⟨[3], 20, 2, 11, fun _ => 0⟩]).Holds (chatPath [115])
        items ∧
      ∃ history, Storage.GetChatHistory items = some history ∧
        history.Perm ([⟨[1, 2], 30, 1, 10, fun _ => 0⟩, ⟨[3], 20, 2, 11, fun _ => 0⟩].map
          ChatCall.entry) ∧
        history.Pairwise fun first second => chatEntryLE first second) ∧
    Storage.GetChatHistory [(List.replicate 14 0, [1, 2, 3])] = none := by
  have empty : (Storage.CreateSession StorageEnv.plain
      (Storage.StorePeer StorageEnv.plain Store.initial ⟨List.replicate 44 7, 5⟩ 5).1 [115]
      (List.replicate 44 7) 6).1.Holds (chatPath [115]) [] := fun key => rfl
  exact ⟨chat_history_round_trip_or_panic.1 _ [115] _ (by decide +kernel) empty (by decide),
    (chat_history_round_trip_or_panic.2 [(List.replicate 14 0, [1, 2, 3])]).mpr
      ⟨_, List.mem_singleton_self _, by decide, by decide⟩⟩

end Kamune
