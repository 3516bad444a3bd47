import AnychatSdk.Lib.KeyTable
import AnychatSdk.Lib.OrderBy
import AnychatSdk.Types

/-!
# The message cache

The most recent messages of each conversation, one bucket per conversation id,
sorted by ascending sequence number.  A full bucket drops the entry at its
front.
-/

namespace AnychatSdk

/-- `stdSort` is `std::sort` by sequence number: messages with equal numbers may
come out in any order.  `bucketOrder` is the order in which a loop over the
`std::unordered_map` meets the buckets. -/
structure MessageCache where
  bucketSize : Nat := 100
  stdSort : OrderBy Message (OrderBy.Ascending Message.seq)
  bucketOrder : OrderBy (String × List Message) OrderBy.AllTied := .asGiven
  buckets : KeyTable String (List Message) := ∅

namespace MessageCache

/-- The bucket of a conversation; an unknown conversation has an empty one. -/
def get (cache : MessageCache) (convId : String) : List Message :=
  (cache.buckets.lookup convId).getD []

/-- The sequence number at the back of the bucket, or 0. -/
def maxSeq (cache : MessageCache) (convId : String) : Int64 :=
  ((cache.get convId).getLast?.map Message.seq).getD 0

/-- The message before `seq` is missing: it would stand right behind the back of
the bucket. -/
def hasGapBefore (cache : MessageCache) (convId : String) (seq : Int64) : Bool :=
  match (cache.get convId).getLast? with
  | none => 1 < seq
  | some last => last.seq + 1 < seq

/-- The bucket after a new message has come in: sorted, and without its front
entry when it has grown over capacity. -/
def pushSorted (cache : MessageCache) (bucket : List Message) (message : Message) :
    List Message :=
  let grown := cache.stdSort.sort (bucket ++ [message])
  if cache.bucketSize < grown.length then grown.tail else grown

/-- Add a message to the bucket of its conversation unless its id is there. -/
def insert (message : Message) (cache : MessageCache) : MessageCache :=
  let bucket := cache.get message.convId
  if bucket.any fun old => old.messageId = message.messageId then cache
  else
    { cache with
      buckets := cache.buckets.insert message.convId (cache.pushSorted bucket message) }

/-- The message an update by id acts on, with the key of its bucket: the first
match, the buckets being tried in the order of the map. -/
def find? (cache : MessageCache) (messageId : String) : Option (String × Message) :=
  (cache.bucketOrder.sort cache.buckets.rows).findSome? fun bucket =>
    (bucket.2.find? fun message => message.messageId = messageId).map fun message =>
      (bucket.1, message)

/-- Change the first message with the given id in a bucket. -/
def modifyFirst (messageId : String) (change : Message → Message) :
    List Message → List Message
  | [] => []
  | message :: rest =>
      if message.messageId = messageId then change message :: rest
      else message :: modifyFirst messageId change rest

/-- Update a message in place.  The first component is the updated message, or
`none` when no bucket holds the id. -/
def updateMessageById (messageId : String) (change : Message → Message)
    (cache : MessageCache) : Option Message × MessageCache :=
  match cache.find? messageId with
  | none => (none, cache)
  | some (convId, message) =>
      (some (change message),
        { cache with buckets := cache.buckets.update convId (modifyFirst messageId change) })

/-- The same messages in a map that is iterated in another order. -/
def metIn (bucketOrder : OrderBy (String × List Message) OrderBy.AllTied)
    (cache : MessageCache) : MessageCache :=
  { cache with bucketOrder := bucketOrder }

/-- Some bucket holds the message. -/
def Holds (cache : MessageCache) (message : Message) : Prop :=
  ∃ convId bucket, cache.buckets.lookup convId = some bucket ∧ message ∈ bucket

/-! ## Membership -/

theorem holds_of_mem_get {cache : MessageCache} {convId : String} {message : Message}
    (member : message ∈ cache.get convId) : cache.Holds message := by
  rw [get] at member
  cases found : cache.buckets.lookup convId with
  | none => simp [found] at member
  | some bucket =>
      rw [found] at member
      exact ⟨convId, bucket, found, member⟩

theorem mem_pushSorted {cache : MessageCache} {bucket : List Message} {message other : Message}
    (member : other ∈ cache.pushSorted bucket message) : other = message ∨ other ∈ bucket := by
  have grown : other ∈ cache.stdSort.sort (bucket ++ [message]) := by
    rw [pushSorted] at member
    split at member
    · exact List.mem_of_mem_tail member
    · exact member
  rcases List.mem_append.mp (cache.stdSort.mem_sort.mp grown) with old | new
  · exact .inr old
  · exact .inl (List.mem_singleton.mp new)

theorem mem_modifyFirst {messageId : String} {change : Message → Message}
    {bucket : List Message} {message : Message}
    (member : message ∈ modifyFirst messageId change bucket) :
    (∃ old ∈ bucket, old.messageId = messageId ∧ message = change old) ∨ message ∈ bucket := by
  induction bucket with
  | nil => exact absurd member List.not_mem_nil
  | cons first rest ih =>
      rw [modifyFirst] at member
      split at member
      · next matched =>
          rcases List.mem_cons.mp member with rfl | later
          · exact .inl ⟨first, List.mem_cons_self, matched, rfl⟩
          · exact .inr (List.mem_cons_of_mem first later)
      · rcases List.mem_cons.mp member with rfl | later
        · exact .inr List.mem_cons_self
        · rcases ih later with ⟨old, oldMem, matched, rfl⟩ | unchanged
          · exact .inl ⟨old, List.mem_cons_of_mem first oldMem, matched, rfl⟩
          · exact .inr (List.mem_cons_of_mem first unchanged)

theorem find?_bucket {cache : MessageCache} {messageId convId : String} {message : Message}
    (found : cache.find? messageId = some (convId, message)) :
    ∃ bucket, cache.buckets.lookup convId = some bucket ∧
      (bucket.find? fun message => message.messageId = messageId) = some message := by
  rcases List.exists_of_findSome?_eq_some found with ⟨⟨bucketId, bucket⟩, bucketMem, inBucket⟩
  rcases Option.map_eq_some_iff.mp inBucket with ⟨first, firstFound, pair_eq⟩
  rcases Prod.mk.inj pair_eq with ⟨rfl, rfl⟩
  have inRows := cache.bucketOrder.mem_sort.mp bucketMem
  exact ⟨bucket, KeyTable.lookup_eq_some_iff_mem_rows.mpr inRows, firstFound⟩

theorem find?_spec {cache : MessageCache} {messageId convId : String} {message : Message}
    (found : cache.find? messageId = some (convId, message)) :
    cache.Holds message ∧ message.messageId = messageId := by
  rcases find?_bucket found with ⟨bucket, bucketFound, firstFound⟩
  exact ⟨⟨convId, bucket, bucketFound, List.mem_of_find?_eq_some firstFound⟩,
    by simpa using List.find?_some firstFound⟩

/-- An update by id misses exactly when no bucket holds the id. -/
theorem find?_eq_none_iff {cache : MessageCache} {messageId : String} :
    cache.find? messageId = none ↔
      ∀ message, cache.Holds message → message.messageId ≠ messageId := by
  rw [find?, List.findSome?_eq_none_iff]
  constructor
  · rintro absent message ⟨convId, bucket, found, member⟩
    have inRows := KeyTable.lookup_eq_some_iff_mem_rows.mp found
    have inBucket := absent (convId, bucket) (cache.bucketOrder.mem_sort.mpr inRows)
    rw [Option.map_eq_none_iff, List.find?_eq_none] at inBucket
    simpa using inBucket message member
  · rintro absent ⟨convId, bucket⟩ bucketMem
    rw [Option.map_eq_none_iff, List.find?_eq_none]
    intro message member
    have inRows := cache.bucketOrder.mem_sort.mp bucketMem
    have found := KeyTable.lookup_eq_some_iff_mem_rows.mpr inRows
    simpa using absent message ⟨convId, bucket, found, member⟩

/-- Messages held after an update by id: a changed match or one held before. -/
theorem holds_updateMessageById {cache : MessageCache} {messageId : String}
    {change : Message → Message} {message : Message}
    (holds : (cache.updateMessageById messageId change).2.Holds message) :
    (∃ old, cache.Holds old ∧ old.messageId = messageId ∧ message = change old) ∨
      cache.Holds message := by
  rw [updateMessageById] at holds
  split at holds
  · exact .inr holds
  · next convId first _ =>
      rcases holds with ⟨otherId, bucket, found, member⟩
      simp only [KeyTable.lookup_update] at found
      split at found
      · rcases Option.map_eq_some_iff.mp found with ⟨oldBucket, lookupOld, rfl⟩
        rcases mem_modifyFirst member with ⟨old, oldMem, matched, rfl⟩ | unchanged
        · exact .inl ⟨old, ⟨convId, oldBucket, lookupOld, oldMem⟩, matched, rfl⟩
        · exact .inr ⟨convId, oldBucket, lookupOld, unchanged⟩
      · exact .inr ⟨otherId, bucket, found, member⟩

/-! ## Copies of one message -/

/-- The message would be added: its bucket lacks the id, and it is not dropped at
once. -/
def Takes (cache : MessageCache) (message : Message) : Prop :=
  (∀ old ∈ cache.get message.convId, old.messageId ≠ message.messageId) ∧
    message ∈ cache.pushSorted (cache.get message.convId) message

/-- A copy that an update by id does not reach, because it lies in another bucket
than the first copy. -/
def OtherCopy (cache : MessageCache) (messageId : String) (copy : Message) : Prop :=
  copy.messageId = messageId ∧
    ∃ convId bucket, cache.buckets.lookup convId = some bucket ∧ copy ∈ bucket ∧
      ∀ firstId first, cache.find? messageId = some (firstId, first) → convId ≠ firstId

/-- No bucket has an id twice. -/
def DistinctIds (cache : MessageCache) : Prop :=
  ∀ convId bucket, cache.buckets.lookup convId = some bucket →
    (bucket.map Message.messageId).Nodup

theorem OtherCopy.holds {cache : MessageCache} {messageId : String} {copy : Message}
    (other : cache.OtherCopy messageId copy) : cache.Holds copy := by
  rcases other with ⟨_, convId, bucket, found, member, _⟩
  exact ⟨convId, bucket, found, member⟩

theorem DistinctIds.get {cache : MessageCache} (distinct : cache.DistinctIds) (convId : String) :
    ((cache.get convId).map Message.messageId).Nodup := by
  rw [MessageCache.get]
  cases found : cache.buckets.lookup convId with
  | none => exact List.nodup_nil
  | some bucket => exact distinct convId bucket found

@[simp]
theorem bucketSize_insert (cache : MessageCache) (message : Message) :
    (cache.insert message).bucketSize = cache.bucketSize := by
  rw [insert]
  split <;> rfl

/-- Messages held after an insertion: the new one, if it was taken, or one held
before. -/
theorem holds_insert {cache : MessageCache} {message other : Message}
    (holds : (cache.insert message).Holds other) :
    (other = message ∧ cache.Takes message) ∨ cache.Holds other := by
  rw [insert] at holds
  split at holds
  · exact .inr holds
  · next unknown =>
      rcases holds with ⟨convId, bucket, found, member⟩
      rw [KeyTable.lookup_insert_eq_ite] at found
      split at found
      · obtain rfl := Option.some.inj found
        rcases mem_pushSorted member with rfl | old
        · exact .inl ⟨rfl, by simpa using unknown, member⟩
        · exact .inr (holds_of_mem_get old)
      · exact .inr ⟨convId, bucket, found, member⟩

theorem holds_of_takes {cache : MessageCache} {message : Message}
    (takes : cache.Takes message) : (cache.insert message).Holds message := by
  have unknown : ¬(cache.get message.convId).any
      (fun old => old.messageId = message.messageId) = true := by
    simpa using takes.1
  rw [insert, if_neg unknown]
  refine ⟨message.convId, _, ?_, takes.2⟩
  rw [KeyTable.lookup_insert_eq_ite, if_pos rfl]

theorem nodup_ids_sort_append {cache : MessageCache} {bucket : List Message} {message : Message}
    (distinct : (bucket.map Message.messageId).Nodup)
    (absent : ∀ old ∈ bucket, old.messageId ≠ message.messageId) :
    ((cache.stdSort.sort (bucket ++ [message])).map Message.messageId).Nodup := by
  have perm := (cache.stdSort.perm (bucket ++ [message])).map Message.messageId
  rw [perm.nodup_iff, List.map_append, List.nodup_append]
  refine ⟨distinct, List.nodup_singleton _, fun firstId old secondId new => ?_⟩
  rcases List.mem_map.mp old with ⟨first, firstMem, rfl⟩
  obtain rfl := List.mem_singleton.mp new
  exact absent first firstMem

theorem nodup_ids_pushSorted {cache : MessageCache} {bucket : List Message} {message : Message}
    (distinct : (bucket.map Message.messageId).Nodup)
    (absent : ∀ old ∈ bucket, old.messageId ≠ message.messageId) :
    ((cache.pushSorted bucket message).map Message.messageId).Nodup := by
  have grown : ((cache.stdSort.sort (bucket ++ [message])).map Message.messageId).Nodup :=
    nodup_ids_sort_append distinct absent
  rw [pushSorted]
  split
  · rw [List.map_tail]
    exact grown.tail
  · exact grown

theorem DistinctIds.insert {cache : MessageCache} (distinct : cache.DistinctIds)
    (message : Message) : (cache.insert message).DistinctIds := by
  intro convId bucket found
  rw [MessageCache.insert] at found
  split at found
  · exact distinct convId bucket found
  · next unknown =>
      rw [KeyTable.lookup_insert_eq_ite] at found
      split at found
      · obtain rfl := Option.some.inj found
        exact nodup_ids_pushSorted (distinct.get message.convId) (by simpa using unknown)
      · exact distinct convId bucket found

theorem map_modifyFirst {α : Type} {messageId : String} {change : Message → Message}
    {field : Message → α} (same : ∀ message, field (change message) = field message)
    (bucket : List Message) :
    (modifyFirst messageId change bucket).map field = bucket.map field := by
  induction bucket with
  | nil => rfl
  | cons first rest ih =>
      rw [modifyFirst]
      split
      · rw [List.map_cons, List.map_cons, same]
      · rw [List.map_cons, List.map_cons, ih]

theorem DistinctIds.updateMessageById {cache : MessageCache} (distinct : cache.DistinctIds)
    (messageId : String) {change : Message → Message}
    (sameId : ∀ message, (change message).messageId = message.messageId) :
    (cache.updateMessageById messageId change).2.DistinctIds := by
  intro convId bucket found
  rw [MessageCache.updateMessageById] at found
  split at found
  · exact distinct convId bucket found
  · simp only [KeyTable.lookup_update] at found
    split at found
    · rcases Option.map_eq_some_iff.mp found with ⟨old, oldFound, rfl⟩
      rw [map_modifyFirst sameId]
      exact distinct _ old oldFound
    · exact distinct convId bucket found

/-- The only copy in a bucket after its first copy was changed. -/
theorem eq_change_of_mem_modifyFirst {messageId : String} {change : Message → Message}
    {bucket : List Message} {message : Message} (distinct : (bucket.map Message.messageId).Nodup)
    (member : message ∈ modifyFirst messageId change bucket)
    (sameId : message.messageId = messageId) :
    ∃ first, (bucket.find? fun message => message.messageId = messageId) = some first ∧
      message = change first := by
  induction bucket with
  | nil => exact absurd member List.not_mem_nil
  | cons first rest ih =>
      rw [List.map_cons, List.nodup_cons] at distinct
      rw [modifyFirst] at member
      split at member
      · next matched =>
          refine ⟨first, by simp [matched], ?_⟩
          rcases List.mem_cons.mp member with changed | later
          · exact changed
          · have again : first.messageId ∈ rest.map Message.messageId :=
              List.mem_map.mpr ⟨message, later, sameId.trans matched.symm⟩
            exact absurd again distinct.1
      · next other =>
          rcases List.mem_cons.mp member with rfl | later
          · exact absurd sameId other
          · rcases ih distinct.2 later with ⟨found, foundEq, changed⟩
            exact ⟨found, by simpa [other] using foundEq, changed⟩

/-- Copies after an update by id: the first one, changed, and the others. -/
theorem copy_updateMessageById {cache : MessageCache} (distinct : cache.DistinctIds)
    {change : Message → Message} {message : Message} {messageId : String}
    (holds : (cache.updateMessageById messageId change).2.Holds message)
    (sameId : message.messageId = messageId) :
    (∃ convId first, cache.find? messageId = some (convId, first) ∧ message = change first) ∨
      cache.OtherCopy messageId message := by
  rw [updateMessageById] at holds
  split at holds
  · next missing => exact absurd sameId (find?_eq_none_iff.mp missing message holds)
  · next firstId first found =>
      rcases holds with ⟨convId, bucket, lookupNew, member⟩
      simp only [KeyTable.lookup_update] at lookupNew
      split at lookupNew
      · next sameBucket =>
          obtain rfl := sameBucket
          rcases Option.map_eq_some_iff.mp lookupNew with ⟨old, lookupOld, rfl⟩
          rcases eq_change_of_mem_modifyFirst (distinct _ old lookupOld) member sameId with
            ⟨copy, copyFound, changed⟩
          rcases find?_bucket found with ⟨foundBucket, lookupFound, firstFound⟩
          obtain rfl := Option.some.inj (lookupOld.symm.trans lookupFound)
          obtain rfl := Option.some.inj (copyFound.symm.trans firstFound)
          exact .inl ⟨convId, copy, found, changed⟩
      · next otherBucket =>
          refine .inr ⟨sameId, convId, bucket, lookupNew, member, ?_⟩
          intro otherId otherFirst otherFound
          rcases Prod.mk.inj (Option.some.inj (found.symm.trans otherFound)) with ⟨rfl, _⟩
          exact otherBucket

end MessageCache

end AnychatSdk
