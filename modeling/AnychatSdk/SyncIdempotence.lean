import AnychatSdk.SyncedTables
import AnychatSdk.SyncedMessageCache
import AnychatSdk.SyncedConversationCache

/-!
# A response applied twice

A response that is handled again leaves tables and caches as they are after the
first time.  The conversation cache does so only for ids it holds once: an upsert
replaces the first of several entries, and the sort then brings forward the next.
-/

namespace AnychatSdk

/-! ## What a response does to the caches -/

namespace SyncResponseDataPayload

/-- The messages that are stored. -/
def messages (data : SyncResponseDataPayload) : List Message :=
  (data.conversations.getD []).flatMap fun payload =>
    if payload.conversationId = "" then [] else Client.syncedMessages payload

/-- The conversations that are put into the cache. -/
def replaces (readings : Nat → Int64) (data : SyncResponseDataPayload) : List CachedMerge :=
  ((data.conversationData.getD []).filter fun payload => payload.conversationId ≠ "").mapIdx
    fun index payload => .replace (Client.sessionConversation payload (readings index))

def raisesOf (payload : ConversationMessagesPayload) : List CachedMerge :=
  if payload.conversationId = "" then []
  else
    let seq := Client.maxSeqSeen (Client.syncedMessages payload)
    if 0 < seq then [.raise payload.conversationId seq] else []

/-- The numbers that are raised in the cache. -/
def raises (data : SyncResponseDataPayload) : List CachedMerge :=
  (data.conversations.getD []).flatMap raisesOf

end SyncResponseDataPayload

namespace Client

open SyncResponseDataPayload

theorem convCache_mergeSessions (sessions : List ConversationDeltaPayload) (client : Client) :
    (client.mergeSessions sessions).convCache =
      Batch.run ConversationCache.merge
        ((sessions.filter fun payload => payload.conversationId ≠ "").mapIdx
          fun index payload => .replace (sessionConversation payload (client.readings index)))
        client.convCache := by
  induction sessions generalizing client with
  | nil => rfl
  | cons payload sessions ih =>
      rw [mergeSessions, List.foldl_cons]
      refine (ih _).trans ?_
      by_cases empty : payload.conversationId = ""
      · rw [mergeSession, if_pos empty, List.filter_cons_of_neg (by simpa using empty)]
      · rw [mergeSession, if_neg empty, List.filter_cons_of_pos (by simpa using empty),
          List.mapIdx_cons, Batch.run_cons]
        exact congrArg (fun readings : Nat → Int64 => Batch.run ConversationCache.merge
          ((sessions.filter fun payload => payload.conversationId ≠ "").mapIdx
            fun index payload => .replace (sessionConversation payload (readings index)))
          (client.convCache.upsert (sessionConversation payload (client.readings 0))))
          client.readings_tick

theorem msgCache_mergeSessions (sessions : List ConversationDeltaPayload) (client : Client) :
    (client.mergeSessions sessions).msgCache = client.msgCache := by
  refine @Batch.run_invariant _ _ (fun client payload => mergeSession payload client)
    (fun reached => reached.msgCache = client.msgCache) sessions
    (fun payload _ reached kept => ?_) client rfl
  rw [mergeSession]
  split <;> exact kept

theorem convCache_storeSyncedMessages (messages : List Message) (client : Client) :
    (messages.foldl (fun client message => client.storeSyncedMessage message) client).convCache =
      client.convCache :=
  @Batch.run_invariant _ _ (fun client message => storeSyncedMessage message client)
    (fun reached => reached.convCache = client.convCache) messages (fun _ _ _ kept => kept) client
    rfl

theorem msgCache_storeSyncedMessages (messages : List Message) (client : Client) :
    (messages.foldl (fun client message => client.storeSyncedMessage message) client).msgCache =
      Batch.run (fun cache message => MessageCache.insert message cache) messages
        client.msgCache := by
  induction messages generalizing client with
  | nil => rfl
  | cons message messages ih =>
      rw [List.foldl_cons]
      exact ih _

theorem convCache_raiseSequence (convId : String) (seq : Int64) (client : Client) :
    (client.raiseSequence convId seq).convCache = client.convCache.merge (.raise convId seq) := by
  simp only [raiseSequence, ConversationCache.merge, convCache_execSync]
  cases client.convCache.get convId with
  | none => rfl
  | some conv =>
      dsimp only
      split <;> rfl

theorem msgCache_raiseSequence (convId : String) (seq : Int64) (client : Client) :
    (client.raiseSequence convId seq).msgCache = client.msgCache := by
  simp only [raiseSequence]
  split
  · rfl
  · split <;> rfl

theorem caches_mergeConversationMessages (payload : ConversationMessagesPayload)
    (client : Client) :
    (client.mergeConversationMessages payload).convCache =
        Batch.run ConversationCache.merge (raisesOf payload) client.convCache ∧
      (client.mergeConversationMessages payload).msgCache =
        Batch.run (fun cache message => MessageCache.insert message cache)
          (if payload.conversationId = "" then [] else syncedMessages payload)
          client.msgCache := by
  rw [mergeConversationMessages, raisesOf]
  split
  · exact ⟨rfl, rfl⟩
  · dsimp only
    split
    · rw [convCache_raiseSequence, convCache_storeSyncedMessages, msgCache_raiseSequence,
        msgCache_storeSyncedMessages]
      exact ⟨rfl, rfl⟩
    · rw [convCache_storeSyncedMessages, msgCache_storeSyncedMessages]
      exact ⟨rfl, rfl⟩

theorem caches_mergeConvMessages (conversations : List ConversationMessagesPayload)
    (client : Client) :
    (client.mergeConvMessages conversations).convCache =
        Batch.run ConversationCache.merge (conversations.flatMap raisesOf) client.convCache ∧
      (client.mergeConvMessages conversations).msgCache =
        Batch.run (fun cache message => MessageCache.insert message cache)
          (conversations.flatMap fun payload =>
            if payload.conversationId = "" then [] else syncedMessages payload)
          client.msgCache := by
  induction conversations generalizing client with
  | nil => exact ⟨rfl, rfl⟩
  | cons payload conversations ih =>
      rcases client.caches_mergeConversationMessages payload with ⟨convs, messages⟩
      rw [mergeConvMessages, List.foldl_cons, List.flatMap_cons, List.flatMap_cons,
        Batch.run_append, Batch.run_append, ← convs, ← messages]
      exact ih _

theorem convCache_setSyncTime (time : Int64) (client : Client) :
    (client.setSyncTime time).convCache = client.convCache := by
  rw [setSyncTime]
  split <;> rfl

theorem msgCache_setSyncTime (time : Int64) (client : Client) :
    (client.setSyncTime time).msgCache = client.msgCache := by
  rw [setSyncTime]
  split <;> rfl

/-- The caches after the handling of a response. -/
theorem caches_syncResponse {response : HttpResponse SyncResponseDataPayload}
    {data : SyncResponseDataPayload} (accepted : acceptedData response = some data)
    (client : Client) :
    (client.syncResponse response).convCache =
        Batch.run ConversationCache.merge (data.replaces client.readings ++ data.raises)
          client.convCache ∧
      (client.syncResponse response).msgCache =
        Batch.run (fun cache message => MessageCache.insert message cache) data.messages
          client.msgCache := by
  rw [syncResponse_of_accepted accepted, convCache_setSyncTime, msgCache_setSyncTime]
  have groups := keepsCaches_mergeGroups (data.groups.getD [])
    (client.mergeFriends (data.friends.getD []))
  have friends := keepsCaches_mergeFriends (data.friends.getD []) client
  rcases caches_mergeConvMessages (data.conversations.getD [])
    (((client.mergeFriends (data.friends.getD [])).mergeGroups (data.groups.getD [])).mergeSessions
      (data.conversationData.getD [])) with ⟨convs, messages⟩
  constructor
  · rw [convs, convCache_mergeSessions, groups.convCache, groups.readings, friends.convCache,
      friends.readings, Batch.run_append]
    rfl
  · rw [messages, msgCache_mergeSessions, groups.msgCache, friends.msgCache]
    rfl

end Client

namespace SyncResponseDataPayload

variable (data : SyncResponseDataPayload)

theorem not_isRaise_of_mem_replaces {readings : Nat → Int64} {item : CachedMerge}
    (member : item ∈ data.replaces readings) : ¬item.IsRaise := by
  rcases List.mem_mapIdx.mp member with ⟨_, _, rfl⟩
  exact id

theorem isRaise_of_mem_raises {item : CachedMerge} (member : item ∈ data.raises) :
    item.IsRaise := by
  rcases List.mem_flatMap.mp member with ⟨payload, _, listed⟩
  rw [raisesOf] at listed
  split at listed
  · exact absurd listed List.not_mem_nil
  · dsimp only at listed
    split at listed
    · obtain rfl := List.mem_singleton.mp listed
      trivial
    · exact absurd listed List.not_mem_nil

theorem map_timeless_replaces (readings : Nat → Int64) :
    (data.replaces readings).map CachedMerge.timeless = data.replaces fun _ => 0 := by
  rw [replaces, replaces, List.mapIdx_eq_zipIdx_map, List.mapIdx_eq_zipIdx_map, List.map_map]
  rfl

/-- The conversations whose cached records the response touches. -/
def cachedIds : List String :=
  (data.replaces (fun _ => 0) ++ data.raises).map CachedMerge.convId

theorem convId_mem_cachedIds {readings : Nat → Int64} {item : CachedMerge}
    (member : item ∈ data.replaces readings ++ data.raises) : item.convId ∈ data.cachedIds := by
  rcases List.mem_append.mp member with replaced | raised
  · have listed : item.timeless ∈ data.replaces fun _ => 0 := by
      rw [← data.map_timeless_replaces readings]
      exact List.mem_map.mpr ⟨item, replaced, rfl⟩
    refine List.mem_map.mpr ⟨item.timeless, List.mem_append_left _ listed, ?_⟩
    cases item <;> rfl
  · exact List.mem_map.mpr ⟨item, List.mem_append_right _ raised, rfl⟩

/-- A message of the response or of the cache, with its conversation. -/
def Carries (cache : MessageCache) (convId : String) (message : Message) : Prop :=
  (message ∈ data.messages ∧ message.convId = convId) ∨
    ∃ bucket, cache.buckets.lookup convId = some bucket ∧ message ∈ bucket

end SyncResponseDataPayload

/-! ## Twice and once -/

namespace Client

/-- The same tables and caches, but for `updated_at_ms` of conversations and the
order of ties. -/
structure SameStores (first second : Client) : Prop where
  rows : Db.SameRows first.table second.table
  convCache : ConversationCache.SameUpToTies first.convCache second.convCache
  msgCache : MessageCache.SameUpToTies first.msgCache second.msgCache

theorem SameStores.refl (client : Client) : SameStores client client where
  rows := ⟨fun _ => rfl, fun _ => rfl, fun _ => rfl, fun _ => rfl, fun _ => rfl⟩
  convCache := ⟨.refl _, rfl⟩
  msgCache := .refl _

/-- Applied to any tables and caches, a response does the second time nothing it
has not done the first time, when ids and numbers of messages go together and no
conversation it touches is cached twice. -/
theorem sameStores_syncResponse (response : HttpResponse SyncResponseDataPayload)
    (client : Client)
    (consistent : ∀ data ∈ acceptedData response,
      MessageCache.Consistent (data.Carries client.msgCache))
    (single : ∀ data ∈ acceptedData response, ∀ convId ∈ data.cachedIds,
      client.convCache.ids.count convId ≤ 1) :
    SameStores (client.syncResponse response)
      ((client.syncResponse response).syncResponse response) := by
  cases accepted : acceptedData response with
  | none =>
      rw [syncResponse_of_refused accepted, syncResponse_of_refused accepted]
      exact .refl client
  | some data =>
      have singles : ∀ item ∈ data.replaces client.readings ++ data.raises,
          client.convCache.Single item.convId := fun item member =>
        ConversationCache.single_iff_count.mpr
          (single data accepted item.convId (data.convId_mem_cachedIds member))
      rcases caches_syncResponse accepted client with ⟨convs, messages⟩
      rcases caches_syncResponse accepted (client.syncResponse response) with
        ⟨convsAgain, messagesAgain⟩
      constructor
      · rw [table_syncResponse accepted (client.syncResponse response),
          table_syncResponse accepted client]
        exact Db.sameRows_applied _ _ data client.table
      · rw [convsAgain, convs]
        exact ConversationCache.sameUpToTies_run
          ((data.map_timeless_replaces _).trans (data.map_timeless_replaces _).symm)
          (fun _ => data.not_isRaise_of_mem_replaces) (fun _ => data.isRaise_of_mem_raises) singles
      · rw [messagesAgain, messages]
        exact MessageCache.sameUpToTies_insertAll (consistent data accepted)
          (fun message member => .inl ⟨member, rfl⟩)
          (fun convId bucket found message member => .inr ⟨bucket, found, member⟩)

/-- One conversation and one message of it. -/
def oneConversationData : SyncResponseDataPayload where
  conversationData := some [{ conversationId := "c" }]
  conversations := some
    [{ conversationId := "c"
       messages := some [{ messageId := "m", sequence := some (.int64 7) }] }]

def oneConversation : HttpResponse SyncResponseDataPayload where
  statusCode := 200
  body := .parsed { code := 0, data := oneConversationData }

/-- A process that holds nothing yet. -/
def blank : Client :=
  start default {} 0

theorem consistent_oneConversation :
    ∀ data ∈ acceptedData oneConversation,
      MessageCache.Consistent (data.Carries blank.msgCache) := by
  intro data accepted
  obtain rfl : data = oneConversationData := (Option.some.inj accepted).symm
  have only (convId : String) (message : Message)
      (carried : oneConversationData.Carries blank.msgCache convId message) :
      convId = "c" ∧
        message = syncedMessage "c" { messageId := "m", sequence := some (.int64 7) } := by
    rcases carried with ⟨member, rfl⟩ | ⟨bucket, found, _⟩
    · have known := List.mem_singleton.mp member
      exact ⟨congrArg Message.convId known, known⟩
    · exact nomatch found
  constructor
  · intro firstId secondId first second carriedFirst carriedSecond _
    exact (only firstId first carriedFirst).1.trans (only secondId second carriedSecond).1.symm
  · intro convId first second carriedFirst carriedSecond
    rw [(only convId first carriedFirst).2, (only convId second carriedSecond).2]
    exact iff_of_true rfl rfl

theorem sameStores_oneConversation :
    SameStores (blank.syncResponse oneConversation)
      ((blank.syncResponse oneConversation).syncResponse oneConversation) :=
  sameStores_syncResponse oneConversation blank consistent_oneConversation
    fun _ _ _ _ => Nat.zero_le 1

/-- A cache that was filled with a list that has a conversation twice. -/
def cachedTwice : Client :=
  { blank with
    convCache := .setAll
      [{ convId := "c", lastMsgTimeMs := 10 }, { convId := "c", lastMsgTimeMs := 5 }] }

/-- The second time the other entry is replaced. -/
theorem not_sameStores_cachedTwice :
    ¬((∀ data ∈ acceptedData oneConversation,
        MessageCache.Consistent (data.Carries cachedTwice.msgCache)) →
      SameStores (cachedTwice.syncResponse oneConversation)
        ((cachedTwice.syncResponse oneConversation).syncResponse oneConversation)) := by
  intro idempotent
  have same := idempotent consistent_oneConversation
  exact absurd same.convCache.keys (by decide)

end Client

end AnychatSdk
