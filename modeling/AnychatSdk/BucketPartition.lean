import AnychatSdk.Cache.NewestMessages
import AnychatSdk.MessageAgreement

/-!
# The partition of the message cache

Each message belongs in the bucket of its own conversation, and nowhere else.  An
insertion puts it there, but looks for its id in that bucket only, and takes the
bucket without a name for a conversation as well.  A recall or a deletion that
is notified writes its conversation into the cached copy, which stays in the
bucket where it is.
-/

namespace AnychatSdk

namespace MessageCache

/-- The cache after a notified change: the copy that is found is changed, or else the
message is inserted, if it names its conversation. -/
def merge (change : Message → Message) (message : Message) (cache : MessageCache) :
    MessageCache :=
  match cache.find? message.messageId with
  | some _ => (cache.updateMessageById message.messageId change).2
  | none => if message.convId ≠ "" then cache.insert message else cache

/-- Every message lies in the bucket of its conversation, which has a name, and
an id occurs in one bucket only, and once in it. -/
structure Partitioned (cache : MessageCache) : Prop where
  keyed : ∀ convId, ∀ message ∈ cache.get convId, message.convId = convId ∧ convId ≠ ""
  apart : ∀ firstId, ∀ first ∈ cache.get firstId, ∀ secondId, ∀ second ∈ cache.get secondId,
    first.messageId = second.messageId → firstId = secondId
  distinct : cache.DistinctIds

/-- If the cache takes the message, then the message names its conversation, and
its id is new in the whole cache. -/
def Admits (cache : MessageCache) (message : Message) : Prop :=
  cache.Takes message → message.convId ≠ "" ∧ cache.find? message.messageId = none

/-- The message names no other conversation than that of the bucket in which an
update by its id finds a copy. -/
def FindsInPlace (cache : MessageCache) (message : Message) : Prop :=
  ∀ convId cached, cache.find? message.messageId = some (convId, cached) →
    message.convId = "" ∨ message.convId = convId

section Buckets

variable {cache : MessageCache} {message other : Message} {convId messageId : String}
  {change : Message → Message}

theorem mem_get_of_lookup {bucket : List Message}
    (found : cache.buckets.lookup convId = some bucket) (member : message ∈ bucket) :
    message ∈ cache.get convId := by
  rw [get, found]
  exact member

theorem mem_get_of_find? (found : cache.find? messageId = some (convId, message)) :
    message ∈ cache.get convId := by
  rcases find?_bucket found with ⟨bucket, bucketFound, firstFound⟩
  exact mem_get_of_lookup bucketFound (List.mem_of_find?_eq_some firstFound)

theorem find?_eq_none_iff_get :
    cache.find? messageId = none ↔
      ∀ convId, ∀ old ∈ cache.get convId, old.messageId ≠ messageId := by
  rw [find?_eq_none_iff]
  constructor
  · intro absent convId old member
    exact absent old (holds_of_mem_get member)
  · rintro absent old ⟨convId, bucket, found, member⟩
    exact absent convId old (mem_get_of_lookup found member)

/-! ## Insertions -/

theorem mem_get_insert (member : other ∈ (cache.insert message).get convId) :
    (other = message ∧ convId = message.convId ∧ cache.Takes message) ∨
      other ∈ cache.get convId := by
  rw [get_insert] at member
  split at member
  · next new =>
      rcases new with ⟨rfl, unknown⟩
      rcases mem_pushSorted member with rfl | old
      · exact .inl ⟨rfl, rfl, unknown, member⟩
      · exact .inr old
  · exact .inr member

theorem mem_get_insert_of_takes (takes : cache.Takes message) :
    message ∈ (cache.insert message).get message.convId := by
  rw [get_insert, if_pos ⟨rfl, takes.1⟩]
  exact takes.2

theorem Partitioned.insert (partitioned : cache.Partitioned) (admits : cache.Admits message) :
    (cache.insert message).Partitioned := by
  constructor
  · intro convId other member
    rcases mem_get_insert member with ⟨rfl, rfl, takes⟩ | old
    · exact ⟨rfl, (admits takes).1⟩
    · exact partitioned.keyed convId other old
  · intro firstId first firstMem secondId second secondMem sameId
    rcases mem_get_insert firstMem with ⟨rfl, rfl, takes⟩ | firstOld
    · rcases mem_get_insert secondMem with ⟨rfl, rfl, _⟩ | secondOld
      · rfl
      · exact absurd sameId.symm
          (find?_eq_none_iff_get.mp (admits takes).2 secondId second secondOld)
    · rcases mem_get_insert secondMem with ⟨rfl, rfl, takes⟩ | secondOld
      · exact absurd sameId (find?_eq_none_iff_get.mp (admits takes).2 firstId first firstOld)
      · exact partitioned.apart firstId first firstOld secondId second secondOld sameId
  · exact partitioned.distinct.insert message

/-- An insertion keeps the partition exactly when the cache admits the message. -/
theorem Partitioned.insert_iff (partitioned : cache.Partitioned) :
    (cache.insert message).Partitioned ↔ cache.Admits message := by
  constructor
  · intro after takes
    have inserted := mem_get_insert_of_takes takes
    have named := (after.keyed message.convId message inserted).2
    refine ⟨named, find?_eq_none_iff_get.mpr fun convId old member sameId => ?_⟩
    by_cases here : convId = message.convId
    · obtain rfl := here
      exact takes.1 old member sameId
    · have kept : old ∈ (cache.insert message).get convId := by
        rw [get_insert, if_neg fun both => here both.1]
        exact member
      exact here (after.apart convId old kept message.convId message inserted sameId)
  · exact partitioned.insert

/-! ## Updates by id -/

theorem change_mem_modifyFirst {bucket : List Message}
    (found : (bucket.find? fun message => message.messageId = messageId) = some message) :
    change message ∈ modifyFirst messageId change bucket := by
  induction bucket with
  | nil => exact absurd found.symm (Option.some_ne_none _)
  | cons first rest ih =>
      rw [modifyFirst]
      by_cases matched : first.messageId = messageId
      · rw [if_pos matched]
        obtain rfl : first = message := by simpa [matched] using found
        exact List.mem_cons_self
      · rw [if_neg matched]
        exact List.mem_cons_of_mem first (ih (by simpa [matched] using found))

theorem get_updateMessageById (found : cache.find? messageId = some (convId, message))
    (otherId : String) :
    (cache.updateMessageById messageId change).2.get otherId =
      if otherId = convId then modifyFirst messageId change (cache.get convId)
      else cache.get otherId := by
  rcases find?_bucket found with ⟨bucket, bucketFound, _⟩
  simp only [updateMessageById, found, get, KeyTable.lookup_update, bucketFound]
  split <;> rfl

/-- The changed copy lies where the first copy was found. -/
theorem change_mem_get_update (found : cache.find? messageId = some (convId, message)) :
    change message ∈ (cache.updateMessageById messageId change).2.get convId := by
  rcases find?_bucket found with ⟨bucket, bucketFound, firstFound⟩
  rw [get_updateMessageById found, if_pos rfl, get, bucketFound]
  exact change_mem_modifyFirst firstFound

/-- A message of a bucket after an update by id: the copy that was found there,
changed, or a message that was there before. -/
theorem DistinctIds.mem_get_update (distinct : cache.DistinctIds)
    (sameId : ∀ message, (change message).messageId = message.messageId)
    (member : other ∈ (cache.updateMessageById messageId change).2.get convId) :
    (∃ cached, cache.find? messageId = some (convId, cached) ∧ other = change cached) ∨
      other ∈ cache.get convId := by
  cases found : cache.find? messageId with
  | none =>
      rw [MessageCache.updateMessageById, found] at member
      exact .inr member
  | some entry =>
      rcases entry with ⟨firstId, first⟩
      rw [get_updateMessageById found] at member
      split at member
      · next here =>
          obtain rfl := here
          rcases mem_modifyFirst member with ⟨old, oldMem, matched, rfl⟩ | before
          · have changedId : (change old).messageId = messageId := (sameId old).trans matched
            rcases eq_change_of_mem_modifyFirst (distinct.get convId) member changedId with
              ⟨copy, copyFound, changed⟩
            rcases find?_bucket found with ⟨bucket, bucketFound, firstFound⟩
            rw [MessageCache.get, bucketFound] at copyFound
            obtain rfl := Option.some.inj (copyFound.symm.trans firstFound)
            exact .inl ⟨copy, rfl, changed⟩
          · exact .inr before
      · exact .inr member

/-- An update by id keeps the partition exactly when the changed copy still names
the conversation of its bucket. -/
theorem Partitioned.update_iff (partitioned : cache.Partitioned)
    (sameId : ∀ message, (change message).messageId = message.messageId) :
    (cache.updateMessageById messageId change).2.Partitioned ↔
      ∀ convId cached, cache.find? messageId = some (convId, cached) →
        (change cached).convId = convId := by
  constructor
  · intro after convId cached found
    exact (after.keyed convId (change cached) (change_mem_get_update found)).1
  · intro stays
    have old_of_mem : ∀ {convId message},
        message ∈ (cache.updateMessageById messageId change).2.get convId →
          ∃ old ∈ cache.get convId, old.messageId = message.messageId := by
      intro convId message member
      rcases partitioned.distinct.mem_get_update sameId member with
        ⟨cached, found, rfl⟩ | before
      · exact ⟨cached, mem_get_of_find? found, (sameId cached).symm⟩
      · exact ⟨message, before, rfl⟩
    constructor
    · intro convId message member
      rcases partitioned.distinct.mem_get_update sameId member with
        ⟨cached, found, rfl⟩ | before
      · exact ⟨stays convId cached found,
          (partitioned.keyed convId cached (mem_get_of_find? found)).2⟩
      · exact partitioned.keyed convId message before
    · intro firstId first firstMem secondId second secondMem same
      rcases old_of_mem firstMem with ⟨firstOld, firstOldMem, firstSame⟩
      rcases old_of_mem secondMem with ⟨secondOld, secondOldMem, secondSame⟩
      exact partitioned.apart firstId firstOld firstOldMem secondId secondOld secondOldMem
        (firstSame.trans (same.trans secondSame.symm))
    · exact partitioned.distinct.updateMessageById messageId sameId

/-- An update that leaves the conversation of the message alone. -/
theorem Partitioned.update (partitioned : cache.Partitioned)
    (sameId : ∀ message, (change message).messageId = message.messageId)
    (sameConv : ∀ message, (change message).convId = message.convId) :
    (cache.updateMessageById messageId change).2.Partitioned :=
  (partitioned.update_iff sameId).mpr fun convId cached found =>
    (sameConv cached).trans (partitioned.keyed convId cached (mem_get_of_find? found)).1

/-- A change that writes the conversation of the notification, if that names one,
leaves the copy that is found in the bucket of its conversation exactly if it is
found there. -/
theorem findsInPlace_iff (keyed : ∀ convId, ∀ cached ∈ cache.get convId, cached.convId = convId)
    (renames : ∀ cached, (change cached).convId =
      if message.convId ≠ "" then message.convId else cached.convId) :
    (∀ convId cached, cache.find? message.messageId = some (convId, cached) →
        (change cached).convId = convId) ↔
      cache.FindsInPlace message := by
  refine forall₂_congr fun convId cached => imp_congr_right fun found => ?_
  have before := keyed convId cached (mem_get_of_find? found)
  rw [renames]
  by_cases unnamed : message.convId = "" <;> simp [unnamed, before]

/-- A notified change that finds no copy inserts the message under the name of its
conversation. -/
theorem Partitioned.merge (partitioned : cache.Partitioned)
    (updated : (cache.updateMessageById message.messageId change).2.Partitioned) :
    (cache.merge change message).Partitioned := by
  rw [MessageCache.merge]
  split
  · exact updated
  · next missing =>
      split
      · next named => exact partitioned.insert fun _ => ⟨named, missing⟩
      · exact partitioned

/-- A notified withdrawal, which may write the conversation. -/
theorem Partitioned.withdraw_iff (partitioned : cache.Partitioned)
    (sameId : ∀ cached, (change cached).messageId = cached.messageId)
    (renames : ∀ cached, (change cached).convId =
      if message.convId ≠ "" then message.convId else cached.convId) :
    (cache.merge change message).Partitioned ↔ cache.FindsInPlace message := by
  have inPlace_iff := findsInPlace_iff
    (fun convId cached member => (partitioned.keyed convId cached member).1) renames
  constructor
  · intro after convId cached found
    have updated : (cache.updateMessageById message.messageId change).2.Partitioned := by
      rw [MessageCache.merge, found] at after
      exact after
    exact inPlace_iff.mp ((partitioned.update_iff sameId).mp updated) convId cached found
  · intro inPlace
    exact partitioned.merge ((partitioned.update_iff sameId).mpr (inPlace_iff.mpr inPlace))

/-- Nothing is cached in a process that has just started. -/
theorem Partitioned.empty (bucketSize : Nat)
    (stdSort : OrderBy Message (OrderBy.Ascending Message.seq))
    (bucketOrder : OrderBy (String × List Message) OrderBy.AllTied) :
    Partitioned { bucketSize := bucketSize, stdSort := stdSort, bucketOrder := bucketOrder } := by
  constructor
  · intro convId message member
    exact absurd member List.not_mem_nil
  · intro firstId first member
    exact absurd member List.not_mem_nil
  · intro convId bucket found
    exact absurd found.symm (Option.some_ne_none _)

end Buckets

end MessageCache

/-! ## The actions -/

namespace Action

/-- The message cache after an action. -/
def nextMsgCache (client : Client) : Action → MessageCache
  | storeSyncedMessage message | storeListedMessage message | receiveMessage message =>
      client.msgCache.insert message
  | markMessageRead messageId =>
      if messageId = "" then client.msgCache
      else
        (client.msgCache.updateMessageById messageId fun message =>
          { message with isRead := true }).2
  | applyMessageStatus messageId status =>
      (client.msgCache.updateMessageById messageId fun message =>
        { message with status := status }).2
  | applyEdit messageId edited =>
      (client.msgCache.updateMessageById messageId fun message =>
        { message with
          content := edited.content
          status := if edited.status ≠ 0 then edited.status else message.status }).2
  | recallNotified message => client.msgCache.merge (Client.recallCached message) message
  | deleteNotified message => client.msgCache.merge (Client.deleteCached message) message
  | editNotified message => client.msgCache.merge (Client.editCached message) message
  | restart => client.platform.messageCache (client.launches + 1)
  | _ => client.msgCache

theorem msgCache_mergeNotified (change : Message → Message) (message : Message)
    (client : Client) :
    (client.mergeNotified change message).2.msgCache = client.msgCache.merge change message := by
  rw [MessageCache.merge]
  cases found : client.msgCache.find? message.messageId with
  | some entry => exact (Client.mergeNotified_of_found found).2
  | none => exact (Client.mergeNotified_of_missing found).2

theorem msgCache_apply (client : Client) (action : Action) :
    (action.apply client).msgCache = action.nextMsgCache client := by
  cases action with
  | storeListedMessage message => exact client.msgCache_storeListedMessage message
  | receiveMessage message => exact client.msgCache_receiveMessage message
  | markMessageRead messageId =>
      simp only [Action.apply, Client.markMessageRead, nextMsgCache]
      split <;> rfl
  | applyMessageStatus messageId status =>
      exact Client.msgCache_updateMessageDbStatusAndContent status none
  | applyEdit messageId edited =>
      exact Client.msgCache_updateMessageDbStatusAndContent edited.status (some edited.content)
  | recallNotified message =>
      rw [Action.apply, Client.recallNotified, Client.msgCache_updateMessageDbStatusAndContent]
      exact msgCache_mergeNotified _ message client
  | deleteNotified message =>
      rw [Action.apply, Client.deleteNotified, Client.msgCache_updateMessageDbStatusAndContent]
      exact msgCache_mergeNotified _ message client
  | editNotified message =>
      rw [Action.apply, Client.editNotified, Client.msgCache_updateMessageDbStatusAndContent]
      exact msgCache_mergeNotified _ message client
  | storeSyncedMessage message => rfl
  | restart => rfl
  | _ => exact (Action.sameMessages client id).msgCache

/-- The inputs on which an action keeps the partition. -/
def KeepsPartition (client : Client) : Action → Prop
  | storeSyncedMessage message | storeListedMessage message | receiveMessage message =>
      client.msgCache.Admits message
  | recallNotified message | deleteNotified message => client.msgCache.FindsInPlace message
  | _ => True

/-- A single action keeps the partition exactly on these inputs. -/
theorem partitioned_apply_iff {client : Client} (partitioned : client.msgCache.Partitioned)
    (action : Action) :
    (action.apply client).msgCache.Partitioned ↔ action.KeepsPartition client := by
  rw [msgCache_apply]
  cases action with
  | storeSyncedMessage message => exact partitioned.insert_iff
  | storeListedMessage message => exact partitioned.insert_iff
  | receiveMessage message => exact partitioned.insert_iff
  | markMessageRead messageId =>
      refine iff_of_true ?_ trivial
      rw [nextMsgCache]
      split
      · exact partitioned
      · exact partitioned.update (fun _ => rfl) fun _ => rfl
  | applyMessageStatus messageId status =>
      exact iff_of_true (partitioned.update (fun _ => rfl) fun _ => rfl) trivial
  | applyEdit messageId edited =>
      exact iff_of_true (partitioned.update (fun _ => rfl) fun _ => rfl) trivial
  | recallNotified message => exact partitioned.withdraw_iff (fun _ => rfl) fun _ => rfl
  | deleteNotified message => exact partitioned.withdraw_iff (fun _ => rfl) fun _ => rfl
  | editNotified message =>
      have edited : (client.msgCache.updateMessageById message.messageId
          (Client.editCached message)).2.Partitioned :=
        partitioned.update (fun _ => rfl) fun _ => rfl
      exact iff_of_true (partitioned.merge edited) trivial
  | restart => exact iff_of_true (.empty _ _ _) trivial
  | _ => exact iff_of_true partitioned trivial

end Action

/-! ## Runs -/

/-- In a process started on any database, the message cache is partitioned by
conversation in every state, between any two actions too, exactly when every
action keeps it so. -/
theorem partitioned_always_iff (platform : Platform) (db : Db) (clockReads : Nat)
    (events : List Event) :
    EventRun.Always Action.apply (fun client => client.msgCache.Partitioned)
        (.start platform db clockReads) (events.flatMap Event.actions) ↔
      EventRun.Guarded Action.apply Action.KeepsPartition (.start platform db clockReads)
        (events.flatMap Event.actions) := by
  have exact_guard : ∀ (client : Client) (action : Action), True →
      client.msgCache.Partitioned →
        ((action.apply client).msgCache.Partitioned ↔ action.KeepsPartition client) :=
    fun client action _ partitioned => action.partitioned_apply_iff partitioned
  exact EventRun.always_iff_guarded (fun _ _ _ _ => trivial) exact_guard trivial (.empty _ _ _) _

/-- A new message that names no conversation lies in the bucket without a name. -/
theorem not_partitioned_always_unnamed :
    ¬EventRun.Always Action.apply (fun client => client.msgCache.Partitioned)
      (.start default {} 0) ([newMessage "" "m1"].flatMap Event.actions) := by
  intro always
  have keyed := always.last.keyed "" { messageId := "m1", contentType := 1 } (by decide)
  exact keyed.2 rfl

/-- A recall that names another conversation than the one of the cached message
leaves the renamed copy in its bucket. -/
example :
    ¬EventRun.Always Action.apply (fun client => client.msgCache.Partitioned)
      (.start default {} 0)
      ([newMessage "c1" "m1",
        .notification
          { notificationType := "message.recalled"
            message := some { messageId := "m1", conversationId := "c2" } }].flatMap
        Event.actions) := by
  intro always
  have keyed := always.last.keyed "c1"
    { messageId := "m1", convId := "c2", contentType := 1, status := 1 } (by decide)
  exact absurd keyed.1 (by decide)

end AnychatSdk
