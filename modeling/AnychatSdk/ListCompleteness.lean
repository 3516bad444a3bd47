import AnychatSdk.CacheAgreement
import AnychatSdk.StoreIds

/-!
# Completeness of the conversation list

As soon as the cache has an entry it is taken for the whole list.  Single
conversations that are saved before the first list call therefore hide all
others.
-/

namespace AnychatSdk

/-- A local `getConversationList` returns every stored conversation exactly
once. -/
def ListComplete (client : Client) : Prop :=
  ∀ convId ∈ client.table.conversations,
    (client.localList.map Conversation.convId).count convId = 1

namespace ConversationStores

/-- The same in terms of the stores: an empty cache leaves the answer to the
rows, whose ids have to be read back unchanged. -/
def Complete (stores : ConversationStores) : Prop :=
  if stores.cache.ids = [] then ∀ convId ∈ stores.rows, NulFree convId
  else ∀ convId ∈ stores.rows, stores.cache.ids.count convId = 1

/-- Cached conversations are stored. -/
def CachedStored (stores : ConversationStores) : Prop :=
  ∀ convId ∈ stores.cache.ids, convId ∈ stores.rows

variable {stores : ConversationStores}

theorem complete_iff_of_cold (cold : stores.cache.ids = []) :
    stores.Complete ↔ ∀ convId ∈ stores.rows, NulFree convId := by
  rw [Complete, if_pos cold]

theorem complete_iff_of_warm (warm : stores.cache.ids ≠ []) :
    stores.Complete ↔ ∀ convId ∈ stores.rows, stores.cache.ids.count convId = 1 := by
  rw [Complete, if_neg warm]

end ConversationStores

theorem map_cString_keys {rows : KeyTable String ConversationRow}
    (nulFree : ∀ convId ∈ rows, NulFree convId) : rows.keys.map cString = rows.keys := by
  conv_rhs => rw [← List.map_id rows.keys]
  apply List.map_congr_left
  intro convId member
  exact cString_eq_self (nulFree convId (AList.mem_keys.mpr member))

/-- Ids that are read back unchanged are those without NULs; distinct ids then
stay distinct. -/
theorem count_cString_keys (rows : KeyTable String ConversationRow) :
    (∀ convId ∈ rows, (rows.keys.map cString).count convId = 1) ↔
      ∀ convId ∈ rows, NulFree convId := by
  constructor
  · intro once convId member
    have listed : convId ∈ rows.keys.map cString :=
      List.count_pos_iff.mp (by rw [once convId member]; exact Nat.one_pos)
    rcases List.mem_map.mp listed with ⟨stored, _, rfl⟩
    exact nulFree_cString stored
  · intro nulFree convId member
    rw [map_cString_keys nulFree]
    exact List.count_eq_one_of_mem rows.keys_nodup (AList.mem_keys.mp member)

theorem map_convId_readRows (rows : KeyTable String ConversationRow) :
    (readRows rows).map Conversation.convId = rows.keys.map cString := by
  rw [readRows, List.map_map, ← rows.map_fst_rows, List.map_map]
  exact List.map_congr_left fun row _ => convId_rowToConversation row.1 row.2

theorem listComplete_iff (client : Client) : ListComplete client ↔ client.stores.Complete := by
  by_cases cold : client.convCache.getAll = []
  · have noIds : client.stores.cache.ids = [] := congrArg (List.map Conversation.convId) cold
    rw [ConversationStores.complete_iff_of_cold noIds, ← count_cString_keys, ListComplete]
    have perm := (Client.localList_perm_readRows cold).map Conversation.convId
    rw [map_convId_readRows] at perm
    exact forall₂_congr fun convId _ => by rw [perm.count_eq]; rfl
  · have someIds : client.stores.cache.ids ≠ [] := fun noIds => cold (List.map_eq_nil_iff.mp noIds)
    rw [ConversationStores.complete_iff_of_warm someIds, ListComplete,
      Client.localList_of_cached cold]
    rfl

/-! ## One operation -/

namespace ConversationStores

variable {stores : ConversationStores}

theorem Complete.nulFree (complete : stores.Complete) (cold : stores.cache.ids = []) :
    ∀ convId ∈ stores.rows, NulFree convId :=
  (complete_iff_of_cold cold).mp complete

theorem Complete.count (complete : stores.Complete) (warm : stores.cache.ids ≠ []) :
    ∀ convId ∈ stores.rows, stores.cache.ids.count convId = 1 :=
  (complete_iff_of_warm warm).mp complete

/-- Only the ids matter. -/
theorem complete_congr {first second : ConversationStores}
    (rows : ∀ convId, convId ∈ first.rows ↔ convId ∈ second.rows)
    (ids : first.cache.ids.Perm second.cache.ids) : first.Complete ↔ second.Complete := by
  by_cases cold : second.cache.ids = []
  · rw [complete_iff_of_cold cold, complete_iff_of_cold (cold ▸ ids).eq_nil]
    exact forall_congr' fun convId => by rw [rows]
  · have warm : first.cache.ids ≠ [] := fun none => cold (none ▸ ids.symm).eq_nil
    rw [complete_iff_of_warm cold, complete_iff_of_warm warm]
    exact forall_congr' fun convId => by rw [rows, ids.count_eq]

/-- A record that is saved into an empty cache has to be that of the only
stored conversation. -/
theorem complete_upsert_iff (complete : stores.Complete) (cachedStored : stores.CachedStored)
    {conv : Conversation} {rows : KeyTable String ConversationRow}
    (written : ∀ convId, convId ∈ rows ↔ convId = conv.convId ∨ convId ∈ stores.rows) :
    Complete ⟨rows, stores.cache.upsert conv⟩ ↔
      (stores.cache.ids = [] → ∀ convId ∈ stores.rows, convId = conv.convId) := by
  have ids := stores.cache.ids_upsert_perm conv
  have warmAfter : (stores.cache.upsert conv).ids ≠ [] := by
    intro none
    have member := List.mem_map_of_mem (f := Conversation.convId)
      (ConversationCache.mem_upsert_self conv stores.cache)
    exact absurd (none ▸ member : conv.convId ∈ []) List.not_mem_nil
  rw [complete_iff_of_warm warmAfter]
  by_cases cold : stores.cache.ids = []
  · rw [cold, if_neg List.not_mem_nil, List.nil_append] at ids
    rw [imp_iff_right cold]
    constructor
    · intro once convId stored
      have counted := once convId ((written convId).mpr (.inr stored))
      rw [ids.count_eq] at counted
      by_contra other
      rw [List.count_singleton, if_neg (by simpa using Ne.symm other)] at counted
      exact absurd counted Nat.zero_ne_one
    · intro only convId member
      have same : convId = conv.convId := ((written convId).mp member).elim id (only convId)
      rw [ids.count_eq, same, List.count_singleton_self]
  · refine iff_of_true (fun convId member => ?_) (fun noIds => absurd noIds cold)
    rw [ids.count_eq]
    have once := complete.count cold
    split
    · next cached =>
        rcases (written convId).mp member with rfl | stored
        · exact once conv.convId (cachedStored conv.convId cached)
        · exact once convId stored
    · next notCached =>
        rw [List.count_append]
        by_cases same : convId = conv.convId
        · rw [same, List.count_eq_zero_of_not_mem notCached, List.count_singleton_self]
        · have stored := ((written convId).mp member).resolve_left same
          rw [once convId stored, List.count_singleton, if_neg (by simpa using Ne.symm same)]

theorem mem_rows_remove (convId : String) (referenced : Bool) (id : String) :
    id ∈ (StoreOp.apply stores (.remove convId referenced)).rows ↔
      id ∈ stores.rows ∧ (id = convId → referenced = true) := by
  cases referenced with
  | true => simp [StoreOp.apply]
  | false => simp [StoreOp.apply, and_comm]

theorem ids_cache_remove (convId : String) (referenced : Bool) :
    (StoreOp.apply stores (.remove convId referenced)).cache.ids =
      stores.cache.ids.filter fun id => id ≠ convId :=
  ConversationCache.ids_remove convId stores.cache

/-- A removal that empties the cache: the next list is read from the rows. -/
theorem complete_remove_iff_of_emptied (complete : stores.Complete) {convId : String}
    (emptied : ∀ id ∈ stores.cache.ids, id = convId) (referenced : Bool) :
    (StoreOp.apply stores (.remove convId referenced)).Complete ↔
      (convId ∈ stores.rows → referenced = true → NulFree convId) := by
  have coldAfter : (StoreOp.apply stores (.remove convId referenced)).cache.ids = [] := by
    rw [ids_cache_remove, List.filter_eq_nil_iff]
    intro id member
    simp [emptied id member]
  rw [complete_iff_of_cold coldAfter]
  constructor
  · intro nulFree stored isReferenced
    exact nulFree convId ((mem_rows_remove ..).mpr ⟨stored, fun _ => isReferenced⟩)
  · intro protectedOnly id member
    rcases (mem_rows_remove ..).mp member with ⟨stored, kept⟩
    by_cases cold : stores.cache.ids = []
    · exact complete.nulFree cold id stored
    · have cached : id ∈ stores.cache.ids :=
        List.count_pos_iff.mp (by rw [complete.count cold id stored]; exact Nat.one_pos)
      obtain rfl := emptied id cached
      exact protectedOnly stored (kept rfl)

/-- A removal that leaves other records cached: a row that stays is not listed. -/
theorem complete_remove_iff_of_cached (complete : stores.Complete) {convId id : String}
    (cached : id ∈ stores.cache.ids) (other : id ≠ convId) (referenced : Bool) :
    (StoreOp.apply stores (.remove convId referenced)).Complete ↔
      (convId ∈ stores.rows → referenced = false) := by
  have warm : stores.cache.ids ≠ [] := List.ne_nil_of_mem cached
  have warmAfter : (StoreOp.apply stores (.remove convId referenced)).cache.ids ≠ [] := by
    rw [ids_cache_remove]
    exact List.ne_nil_of_mem (List.mem_filter.mpr ⟨cached, decide_eq_true other⟩)
  rw [complete_iff_of_warm warmAfter, ids_cache_remove]
  constructor
  · intro once stored
    by_contra isReferenced
    have counted := once convId ((mem_rows_remove ..).mpr
      ⟨stored, fun _ => Bool.not_eq_false _ ▸ isReferenced⟩)
    have filtered : convId ∉ stores.cache.ids.filter fun id => id ≠ convId := by simp
    rw [List.count_eq_zero_of_not_mem filtered] at counted
    exact absurd counted Nat.zero_ne_one
  · intro unprotected storedId member
    rcases (mem_rows_remove ..).mp member with ⟨stored, kept⟩
    have different : storedId ≠ convId := by
      rintro rfl
      exact Bool.false_ne_true ((unprotected stored).symm.trans (kept rfl))
    apply (List.count_filter (by simpa using different)).trans
    exact complete.count warm storedId stored

theorem complete_remove_iff (complete : stores.Complete) (convId : String) (referenced : Bool) :
    (StoreOp.apply stores (.remove convId referenced)).Complete ↔
      (convId ∈ stores.rows → referenced = true →
        (∀ id ∈ stores.cache.ids, id = convId) ∧ NulFree convId) := by
  by_cases emptied : ∀ id ∈ stores.cache.ids, id = convId
  · rw [complete_remove_iff_of_emptied complete emptied]
    simp only [eq_true emptied, true_and]
  · have ⟨id, cached, other⟩ : ∃ id ∈ stores.cache.ids, id ≠ convId := by simpa using emptied
    rw [complete_remove_iff_of_cached complete cached other]
    simp only [eq_false emptied, false_and, imp_false, Bool.not_eq_true]

theorem complete_replace_iff (stores : ConversationStores) (convs : List Conversation) :
    (StoreOp.apply stores (.replace convs)).Complete ↔
      if convs.map Conversation.convId = [] then ∀ convId ∈ stores.rows, NulFree convId
      else
        (convs.map Conversation.convId).Nodup ∧
          ∀ convId ∈ stores.rows, convId ∈ convs.map Conversation.convId := by
  have ids := ConversationCache.ids_setAll_perm convs
  by_cases none : convs.map Conversation.convId = []
  · have coldAfter : (StoreOp.apply stores (.replace convs)).cache.ids = [] := (none ▸ ids).eq_nil
    obtain rfl := List.map_eq_nil_iff.mp none
    rw [complete_iff_of_cold coldAfter, if_pos none]
    rfl
  · have warmAfter : (StoreOp.apply stores (.replace convs)).cache.ids ≠ [] :=
      fun empty => none (List.Perm.eq_nil (empty ▸ ids.symm))
    rw [complete_iff_of_warm warmAfter, if_neg none, List.nodup_iff_count_eq_one]
    have member : ∀ convId, convId ∈ (StoreOp.apply stores (.replace convs)).rows ↔
        convId ∈ convs.map Conversation.convId ∨ convId ∈ stores.rows := by
      intro convId
      exact (mem_writeRows convs stores.rows convId).trans (or_congr_left List.mem_map.symm)
    have counts : ∀ convId, (StoreOp.apply stores (.replace convs)).cache.ids.count convId =
        (convs.map Conversation.convId).count convId := fun convId => ids.count_eq convId
    constructor
    · intro once
      refine ⟨fun convId listed => ?_, fun convId stored => ?_⟩
      · rw [← counts]
        exact once convId ((member convId).mpr (.inl listed))
      · have counted := once convId ((member convId).mpr (.inr stored))
        rw [counts] at counted
        exact List.count_pos_iff.mp (by rw [counted]; exact Nat.one_pos)
    · rintro ⟨distinct, covers⟩ convId stored
      rw [counts]
      exact distinct convId (((member convId).mp stored).elim id (covers convId))

theorem Complete.raise (complete : stores.Complete) (convId : String) (seq : Int64) :
    (StoreOp.apply stores (.raise convId seq)).Complete := by
  have rows : ∀ id, id ∈ (StoreOp.apply stores (.raise convId seq)).rows ↔ id ∈ stores.rows :=
    fun _ => KeyTable.mem_update
  exact (complete_congr rows
    (ConversationCache.ids_raise_perm convId seq stores.cache)).mpr complete

theorem Complete.clearUnread (complete : stores.Complete) (convId : String) :
    (StoreOp.apply stores (.clearUnread convId)).Complete := by
  have rows : ∀ id, id ∈ (StoreOp.apply stores (.clearUnread convId)).rows ↔ id ∈ stores.rows :=
    fun _ => KeyTable.mem_update
  exact (complete_congr rows (.of_eq (stores.cache.ids_clearUnread convId))).mpr complete

/-- Loading all rows keeps the list complete. -/
theorem Complete.load (complete : stores.Complete) (cold : stores.cache.ids = [])
    {rows : List (String × ConversationRow)} (perm : rows.Perm stores.rows.rows) :
    (StoreOp.apply stores (.load rows)).Complete := by
  have ids : (StoreOp.apply stores (.load rows)).cache.ids.Perm stores.rows.keys := by
    have listed := ConversationCache.ids_setAll_perm
      (rows.map fun row => rowToConversation (row.2.toRow row.1))
    apply listed.trans
    apply ((perm.map _).map Conversation.convId).trans
    change ((readRows stores.rows).map Conversation.convId).Perm _
    rw [map_convId_readRows, map_cString_keys (complete.nulFree cold)]
  by_cases none : (StoreOp.apply stores (.load rows)).cache.ids = []
  · rw [complete_iff_of_cold none]
    exact complete.nulFree cold
  · rw [complete_iff_of_warm none]
    intro convId stored
    rw [ids.count_eq]
    exact List.count_eq_one_of_mem stores.rows.keys_nodup (AList.mem_keys.mp stored)

end ConversationStores

/-! ## One action -/

namespace Client

/-- A conversation that is saved into an empty cache is the only stored one. -/
def FitsList (convId : String) (client : Client) : Prop :=
  client.convCache.ids = [] → ∀ stored ∈ client.table.conversations, stored = convId

end Client

/-- The condition under which an action keeps the list complete. -/
def Action.KeepsListComplete (client : Client) : Action → Prop
  | mergeSession payload =>
      payload.conversationId ≠ "" → client.FitsList payload.conversationId
  | fetchConversation convId payload =>
      client.FitsList (Client.fetchedConversation convId payload).convId
  | patchConversation _ payload => client.FitsList (notificationConversationId payload)
  | removeConversation convId =>
      convId ∈ client.table.conversations → client.table.hasMessageOf convId = true →
        (∀ cached ∈ client.convCache.ids, cached = convId) ∧ NulFree convId
  | replaceConversations payloads =>
      let ids := (payloads.map ConversationPayload.conversationId).filter fun convId => convId ≠ ""
      if ids = [] then ∀ convId ∈ client.table.conversations, NulFree convId
      else ids.Nodup ∧ ∀ convId ∈ client.table.conversations, convId ∈ ids
  | restart => ∀ convId ∈ client.table.conversations, NulFree convId
  | _ => True

section OneAction

variable {client : Client} (complete : client.stores.Complete)
  (cachedStored : client.stores.CachedStored)

include complete cachedStored

/-- A record that is saved whole. -/
theorem complete_save_iff (conv : Conversation) :
    (StoreOp.apply client.stores (.save conv)).Complete ↔ client.FitsList conv.convId :=
  ConversationStores.complete_upsert_iff complete cachedStored fun _ => KeyTable.mem_write

/-- A copy of a cached record can always be saved. -/
theorem complete_save_cached {convId : String} {conv copy : Conversation}
    (cached : client.convCache.get convId = some conv) :
    (StoreOp.apply client.stores (.save copy)).Complete := by
  rw [complete_save_iff complete cachedStored]
  intro cold
  exact absurd (cold ▸ ConversationCache.mem_ids_of_get cached) List.not_mem_nil

theorem complete_apply_iff (action : Action) :
    (action.apply client).stores.Complete ↔ action.KeepsListComplete client := by
  rw [Action.stores_apply]
  by_cases edits : action.EditsCached
  · have keeps : action.KeepsListComplete client := by
      cases action with
      | applyPinned | setMuted | setBurnAfterReading | setAutoDelete | applyUnreadCount =>
          trivial
      | _ => exact edits.elim
    refine iff_of_true ?_ keeps
    rcases Action.storeOp_of_editsCached client edits with kept | ⟨_, _, _, cached, saved, _, _⟩
    · rw [kept]
      exact complete
    · rw [saved]
      exact complete_save_cached complete cachedStored cached
  cases action with
  | mergeSession payload =>
      rw [Action.storeOp, Action.KeepsListComplete]
      split
      · next empty => exact iff_of_true complete fun hasId => absurd empty hasId
      · next hasId =>
          rw [imp_iff_right hasId]
          exact ConversationStores.complete_upsert_iff complete cachedStored
            fun _ => KeyTable.mem_upsert
  | raiseSequence convId seq => exact iff_of_true (complete.raise convId seq) trivial
  | loadConversations =>
      refine iff_of_true ?_ trivial
      rcases Action.storeOp_loadConversations client with kept | ⟨rows, _, loads⟩
      · rw [kept]
        exact complete
      · rcases Action.storeOp_load loads with ⟨cold, perm⟩
        rw [loads]
        exact complete.load (congrArg (List.map Conversation.convId) cold) perm
  | replaceConversations payloads =>
      rw [Action.storeOp, ConversationStores.complete_replace_iff,
        Client.map_convId_storeListedConversations]
      exact Iff.rfl
  | fetchConversation convId payload =>
      rcases Client.stampUpdated_fst (Client.fetchedConversation convId payload) client with
        ⟨updatedAt, stamped⟩
      rw [Action.storeOp, stamped, complete_save_iff complete cachedStored]
      exact Iff.rfl
  | removeConversation convId => exact ConversationStores.complete_remove_iff complete convId _
  | clearUnread convId => exact iff_of_true (complete.clearUnread convId) trivial
  | applyPinned | setMuted | setBurnAfterReading | setAutoDelete | applyUnreadCount =>
      exact absurd trivial edits
  | applyServerSequence convId seq =>
      refine iff_of_true ?_ trivial
      simp only [Action.storeOp]
      cases cached : client.convCache.get convId with
      | none =>
          dsimp only
          split
          · exact complete.raise convId seq
          · exact complete
      | some conv =>
          dsimp only
          split
          · exact complete_save_cached complete cachedStored cached
          · exact complete
  | patchConversation notificationType payload =>
      rcases client.storeOp_patchConversation notificationType payload with
        ⟨pinTime, updatedAt, saved⟩
      rw [saved, complete_save_iff complete cachedStored]
      simp only [client.convId_patchedConversation payload]
      exact Iff.rfl
  | restart => exact ConversationStores.complete_iff_of_cold rfl
  | _ => exact iff_of_true complete trivial

end OneAction

/-- Cached conversations stay stored. -/
theorem cachedStored_apply {client : Client} (complete : client.stores.Complete)
    (cachedStored : client.stores.CachedStored) (action : Action) :
    (action.apply client).stores.CachedStored := by
  rw [Action.stores_apply]
  intro convId member
  rcases StoreOp.mem_rows_of_mem_ids cachedStored member with
    stored | ⟨rows, loads, stored, loaded, rfl⟩
  · exact stored
  · rcases Action.storeOp_load loads with ⟨cold, perm⟩
    rcases List.mem_map.mp loaded with ⟨row, rowMem, rfl⟩
    have found := KeyTable.lookup_eq_some_iff_mem_rows.mpr (perm.mem_iff.mp rowMem)
    have isStored : row.1 ∈ client.table.conversations :=
      KeyTable.mem_iff_exists_lookup.mpr ⟨row.2, found⟩
    have nulFree := complete.nulFree (congrArg (List.map Conversation.convId) cold) row.1 isStored
    rw [loads, cString_eq_self nulFree]
    exact isStored

/-! ## Runs -/

/-- In a process started on any database, the list is complete in every state,
between any two actions too, exactly when the ids in the database contain no NUL
and every action keeps the list complete. -/
theorem listComplete_always_iff (platform : Platform) (db : Db) (clockReads : Nat)
    (events : List Event) :
    EventRun.Always Action.apply ListComplete (.start platform db clockReads)
        (events.flatMap Event.actions) ↔
      (∀ convId ∈ db.conversations, NulFree convId) ∧
        EventRun.Guarded Action.apply Action.KeepsListComplete (.start platform db clockReads)
          (events.flatMap Event.actions) := by
  have initially : (Client.start platform db clockReads).stores.CachedStored :=
    fun _ absent => absurd absent List.not_mem_nil
  have holds_iff : ListComplete (.start platform db clockReads) ↔
      ∀ convId ∈ db.conversations, NulFree convId :=
    (listComplete_iff _).trans (ConversationStores.complete_iff_of_cold rfl)
  have preserved : ∀ (client : Client) (action : Action), client.stores.CachedStored →
      ListComplete client → (action.apply client).stores.CachedStored :=
    fun client action cachedStored complete =>
      cachedStored_apply ((listComplete_iff client).mp complete) cachedStored action
  have exact_guard : ∀ (client : Client) (action : Action), client.stores.CachedStored →
      ListComplete client → (ListComplete (action.apply client) ↔
        action.KeepsListComplete client) :=
    fun client action cachedStored complete =>
      (listComplete_iff _).trans
        (complete_apply_iff ((listComplete_iff client).mp complete) cachedStored action)
  constructor
  · intro always
    have holds := always.first
    exact ⟨holds_iff.mp holds,
      (EventRun.always_iff_guarded preserved exact_guard initially holds _).mp always⟩
  · rintro ⟨nulFree, guarded⟩
    exact (EventRun.always_iff_guarded preserved exact_guard initially (holds_iff.mpr nulFree)
      _).mpr guarded

/-- Two synced conversations, a restart, and a fetch of the first one: the list
misses the second. -/
theorem not_listComplete_always_fetched :
    ¬EventRun.Always Action.apply ListComplete (.start default {} 0)
      ([syncOf { conversationId := "c1" }, syncOf { conversationId := "c2" }, .restart,
        .getConversationResponse "c1"
          { statusCode := 200
            body := .parsed { code := 0, data := { conversationId := "c1" } } }].flatMap
        Event.actions) := by
  intro always
  have complete := always.last "c2" (by decide)
  exact absurd complete (by decide)

end AnychatSdk
