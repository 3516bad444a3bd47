import AnychatSdk.CacheAgreement

/-!
# Pinned conversations and their pin time

A record says twice whether it is pinned: by its flag, and by a pin time that is
not zero.  Two writers set both together; the others take the two from what the
server sends, or change the flag alone.
-/

namespace AnychatSdk

/-! ## Records and rows -/

/-- The flag and the pin time say the same. -/
def Conversation.PinAgrees (conv : Conversation) : Prop :=
  conv.isPinned = true ↔ conv.pinTimeMs ≠ 0

instance (conv : Conversation) : Decidable conv.PinAgrees :=
  inferInstanceAs (Decidable (_ ↔ _))

def ConversationRow.PinAgrees (row : ConversationRow) : Prop :=
  row.isPinned ≠ 0 ↔ row.pinTimeMs ≠ 0

instance (row : ConversationRow) : Decidable row.PinAgrees :=
  inferInstanceAs (Decidable (_ ↔ _))

/-- The columns of a payload as they are decoded. -/
def ConversationPayload.PinAgrees (payload : ConversationPayload) : Prop :=
  (parseConversationPayload payload).PinAgrees

theorem Conversation.pinAgrees_toRow_iff (conv : Conversation) :
    conv.toRow.PinAgrees ↔ conv.PinAgrees := by
  rw [ConversationRow.PinAgrees, PinAgrees, toRow]
  cases conv.isPinned <;> simp

theorem ConversationRow.pinAgrees_read_iff (convId : String) (row : ConversationRow) :
    (rowToConversation (row.toRow convId)).PinAgrees ↔ row.PinAgrees := by
  rw [rowToConversation_toRow]
  simp [PinAgrees, Conversation.PinAgrees]

/-! ## Operations on the stores -/

/-- Every cached conversation and every row agrees with itself. -/
structure ConversationStores.PinsAgree (stores : ConversationStores) : Prop where
  cached : ∀ conv ∈ stores.cache.convs, conv.PinAgrees
  stored : ∀ convId row, stores.rows.lookup convId = some row → row.PinAgrees

namespace ConversationStores

variable {stores : ConversationStores}

theorem PinsAgree.get (agree : stores.PinsAgree) {convId : String} {conv : Conversation}
    (cached : stores.cache.get convId = some conv) : conv.PinAgrees :=
  agree.cached conv (ConversationCache.get_mem cached)

/-- A row written beside a record that is cached under its id. -/
theorem PinsAgree.upsert (agree : stores.PinsAgree) {conv : Conversation}
    {rows : KeyTable String ConversationRow} {written : ConversationRow}
    (lookup : ∀ convId, rows.lookup convId =
      if convId = conv.convId then some written else stores.rows.lookup convId) :
    PinsAgree ⟨rows, stores.cache.upsert conv⟩ ↔ conv.PinAgrees ∧ written.PinAgrees := by
  constructor
  · intro after
    constructor
    · exact after.cached conv (ConversationCache.mem_upsert_self conv stores.cache)
    · exact after.stored conv.convId written (by rw [lookup, if_pos rfl])
  · rintro ⟨convAgrees, rowAgrees⟩
    constructor
    · intro other member
      rcases ConversationCache.mem_upsert member with rfl | old
      · exact convAgrees
      · exact agree.cached other old
    · intro convId row found
      rw [lookup] at found
      split at found
      · obtain rfl := Option.some.inj found
        exact rowAgrees
      · exact agree.stored convId row found

theorem PinsAgree.save_iff (agree : stores.PinsAgree) (conv : Conversation) :
    (StoreOp.apply stores (.save conv)).PinsAgree ↔ conv.PinAgrees := by
  refine (agree.upsert fun convId => KeyTable.lookup_write _ _ _ _).trans ?_
  rw [conv.pinAgrees_toRow_iff, and_self]

/-- A merge writes the flag alone, so neither the session nor the row it meets may
be pinned. -/
theorem PinsAgree.merge_iff (agree : stores.PinsAgree) {conv : Conversation}
    (noPinTime : conv.pinTimeMs = 0) :
    (StoreOp.apply stores (.merge conv)).PinsAgree ↔
      conv.isPinned = false ∧
        ∀ row, stores.rows.lookup conv.convId = some row → row.pinTimeMs = 0 := by
  refine (agree.upsert fun convId => KeyTable.lookup_upsert _ _ _ _ _).trans ?_
  have flag : conv.PinAgrees ↔ conv.isPinned = false := by
    simp [Conversation.PinAgrees, noPinTime]
  rw [flag]
  refine and_congr_right fun unpinned => ?_
  cases found : stores.rows.lookup conv.convId with
  | none =>
      simp [ConversationRow.PinAgrees, SessionColumns.fresh, Client.sessionColumns, unpinned]
  | some row =>
      simp [ConversationRow.PinAgrees, SessionColumns.overwrite, Client.sessionColumns, unpinned]

theorem PinsAgree.raise (agree : stores.PinsAgree) (convId : String) (seq : Int64) :
    (StoreOp.apply stores (.raise convId seq)).PinsAgree := by
  constructor
  · intro conv member
    simp only [StoreOp.apply, ConversationCache.raise] at member
    split at member
    · exact agree.cached conv member
    · next old cached =>
        have oldAgrees : old.PinAgrees := agree.get cached
        split at member
        · rcases ConversationCache.mem_upsert member with rfl | unchanged
          · exact oldAgrees
          · exact agree.cached conv unchanged
        · exact agree.cached conv member
  · intro otherId row found
    simp only [StoreOp.apply, KeyTable.lookup_update] at found
    split at found
    · rcases Option.map_eq_some_iff.mp found with ⟨old, stored, rfl⟩
      exact agree.stored convId old stored
    · exact agree.stored otherId row found

theorem PinsAgree.clearUnread (agree : stores.PinsAgree) (convId : String) :
    (StoreOp.apply stores (.clearUnread convId)).PinsAgree := by
  constructor
  · intro conv member
    rcases ConversationCache.mem_modifyFirst member with ⟨old, oldMem, _, rfl⟩ | unchanged
    · exact agree.cached old oldMem
    · exact agree.cached conv unchanged
  · intro otherId row found
    simp only [StoreOp.apply, KeyTable.lookup_update] at found
    split at found
    · rcases Option.map_eq_some_iff.mp found with ⟨old, stored, rfl⟩
      exact agree.stored convId old stored
    · exact agree.stored otherId row found

theorem PinsAgree.remove (agree : stores.PinsAgree) (convId : String) (referenced : Bool) :
    (StoreOp.apply stores (.remove convId referenced)).PinsAgree := by
  constructor
  · intro conv member
    exact agree.cached conv (List.mem_of_mem_filter member)
  · intro otherId row found
    simp only [StoreOp.apply] at found
    split at found
    · exact agree.stored otherId row found
    · rw [KeyTable.lookup_erase_eq_ite] at found
      split at found
      · exact absurd found.symm (Option.some_ne_none row)
      · exact agree.stored otherId row found

theorem PinsAgree.load (agree : stores.PinsAgree) {rows : List (String × ConversationRow)}
    (perm : rows.Perm stores.rows.rows) : (StoreOp.apply stores (.load rows)).PinsAgree := by
  constructor
  · intro conv member
    rcases List.mem_map.mp (ConversationCache.mem_setAll.mp member) with ⟨row, rowMem, rfl⟩
    have found := KeyTable.lookup_eq_some_iff_mem_rows.mpr (perm.mem_iff.mp rowMem)
    exact (row.2.pinAgrees_read_iff row.1).mpr (agree.stored row.1 row.2 found)
  · exact agree.stored

theorem pinAgrees_of_writeRows {convs : List Conversation} {rows : KeyTable String ConversationRow}
    (agree : ∀ convId row, rows.lookup convId = some row → row.PinAgrees)
    (convsAgree : ∀ conv ∈ convs, conv.PinAgrees) :
    ∀ convId row, (writeRows convs rows).lookup convId = some row → row.PinAgrees := by
  induction convs generalizing rows with
  | nil => exact agree
  | cons conv convs ih =>
      refine ih (fun convId row found => ?_) fun later member =>
        convsAgree later (List.mem_cons_of_mem conv member)
      rw [KeyTable.lookup_write] at found
      split at found
      · obtain rfl := Option.some.inj found
        exact conv.pinAgrees_toRow_iff.mpr (convsAgree conv List.mem_cons_self)
      · exact agree convId row found

theorem PinsAgree.replace_iff (agree : stores.PinsAgree) (convs : List Conversation) :
    (StoreOp.apply stores (.replace convs)).PinsAgree ↔ ∀ conv ∈ convs, conv.PinAgrees := by
  constructor
  · intro after conv member
    exact after.cached conv (ConversationCache.mem_setAll.mpr member)
  · intro convsAgree
    constructor
    · intro conv member
      exact convsAgree conv (ConversationCache.mem_setAll.mp member)
    · exact pinAgrees_of_writeRows agree.stored convsAgree

theorem PinsAgree.forget (agree : stores.PinsAgree) :
    (StoreOp.apply stores .forget).PinsAgree := by
  constructor
  · intro conv member
    exact absurd member List.not_mem_nil
  · exact agree.stored

end ConversationStores

/-! ## Actions -/

/-- The record a notification leaves agrees: a pin notification finds the clock
above zero when it sets the time, and any other leaves the flag as it was. -/
def Client.PatchKeepsPin (notificationType : String) (payload : NotificationConversationPayload)
    (client : Client) : Prop :=
  let old : Conversation := (client.convCache.get (notificationConversationId payload)).getD {}
  let pinned := payload.isPinned.getD old.isPinned
  if notificationType = "conversation.pin_updated" then
    pinned = true → old.pinTimeMs = 0 → client.nowMs.1 ≠ 0
  else pinned = old.isPinned

namespace Action

/-- The condition under which an action keeps every flag in step with its time. -/
def KeepsPinsAgree (client : Client) : Action → Prop
  | mergeSession payload =>
      payload.conversationId ≠ "" →
        parseBoolValue payload.isPinned false = false ∧
          ∀ row, client.table.conversations.lookup payload.conversationId = some row →
            row.pinTimeMs = 0
  | replaceConversations payloads =>
      ∀ payload ∈ payloads, payload.conversationId ≠ "" → payload.PinAgrees
  | fetchConversation _ payload => payload.PinAgrees
  | applyPinned convId pinned =>
      pinned = true → (client.convCache.get convId).isSome → client.nowMs.1 ≠ 0
  | patchConversation notificationType payload => client.PatchKeepsPin notificationType payload
  | _ => True

end Action

namespace Client

variable {client : Client}

theorem pinAgrees_stampUpdated (conv : Conversation) (client : Client) :
    (client.stampUpdated conv).1.PinAgrees ↔ conv.PinAgrees := by
  obtain ⟨updatedAt, stamped⟩ := stampUpdated_fst conv client
  rw [stamped]
  exact Iff.rfl

theorem pinAgrees_fetchedConversation (convId : String) (payload : ConversationPayload) :
    (fetchedConversation convId payload).PinAgrees ↔ payload.PinAgrees := by
  rw [fetchedConversation]
  split <;> exact Iff.rfl

/-- Every listed payload with an id becomes a record. -/
theorem pinAgrees_storeListedConversations (payloads : List ConversationPayload)
    (client : Client) :
    (∀ conv ∈ (client.storeListedConversations payloads).1, conv.PinAgrees) ↔
      ∀ payload ∈ payloads, payload.conversationId ≠ "" → payload.PinAgrees := by
  induction payloads generalizing client with
  | nil => simp [storeListedConversations]
  | cons payload rest ih =>
      rw [storeListedConversations, List.forall_mem_cons]
      by_cases empty : payload.conversationId = ""
      · have skipped : (parseConversationPayload payload).convId = "" := empty
        rw [if_pos skipped, ih]
        simp [empty]
      · have listed : (parseConversationPayload payload).convId ≠ "" := empty
        rw [if_neg listed, List.forall_mem_cons, pinAgrees_stampUpdated, ih,
          imp_iff_right empty]
        exact Iff.rfl

theorem isPinned_patchedConversation (payload : NotificationConversationPayload)
    (client : Client) :
    (client.patchedConversation payload).isPinned =
      payload.isPinned.getD
        ((client.convCache.get (notificationConversationId payload)).getD {}).isPinned := by
  simp [patchedConversation, applyNotificationPatch]

theorem pinTimeMs_patchedConversation (payload : NotificationConversationPayload)
    (client : Client) :
    (client.patchedConversation payload).pinTimeMs =
      ((client.convCache.get (notificationConversationId payload)).getD {}).pinTimeMs := by
  simp [patchedConversation, applyNotificationPatch]

theorem pinAgrees_patchPinTime_iff (agree : client.stores.PinsAgree) (notificationType : String)
    (payload : NotificationConversationPayload) :
    (client.patchPinTime notificationType payload
        (client.patchedConversation payload)).1.PinAgrees ↔
      client.PatchKeepsPin notificationType payload := by
  have oldAgrees : Conversation.PinAgrees
      ((client.convCache.get (notificationConversationId payload)).getD {}) := by
    cases cached : client.convCache.get (notificationConversationId payload) with
    | none => decide
    | some conv => exact agree.get cached
  have flag := client.isPinned_patchedConversation payload
  have time := client.pinTimeMs_patchedConversation payload
  have reread : payload.isPinned.getD (client.patchedConversation payload).isPinned =
      (client.patchedConversation payload).isPinned := by
    rw [flag]
    cases payload.isPinned <;> rfl
  rw [patchPinTime, PatchKeepsPin, reread, ← flag, ← time]
  rw [Conversation.PinAgrees, ← time] at oldAgrees
  generalize client.patchedConversation payload = patched at *
  by_cases pinUpdated : notificationType = "conversation.pin_updated"
  · rw [if_pos pinUpdated, if_pos pinUpdated]
    cases pinned : patched.isPinned with
    | false => simp [Conversation.PinAgrees]
    | true =>
        by_cases noTime : patched.pinTimeMs = 0 <;> simp [Conversation.PinAgrees, pinned, noTime]
  · rw [if_neg pinUpdated, if_neg pinUpdated, Conversation.PinAgrees, ← oldAgrees,
      Bool.coe_iff_coe]

end Client

/-- From stores that agree, an action leaves stores that agree exactly when its
condition holds. -/
theorem Action.pinsAgree_apply_iff {client : Client} (agree : client.stores.PinsAgree)
    (action : Action) :
    (action.apply client).stores.PinsAgree ↔ action.KeepsPinsAgree client := by
  have changedKeeps : ∀ (convId : String) (change : Conversation → Conversation),
      (∀ conv, (change conv).isPinned = conv.isPinned ∧
        (change conv).pinTimeMs = conv.pinTimeMs) →
        ((changed client convId change).apply client.stores).PinsAgree := by
    intro convId change pins
    rw [changed]
    cases cached : client.convCache.get convId with
    | none => exact agree
    | some conv =>
        have convAgrees : conv.PinAgrees := agree.get cached
        rw [Conversation.PinAgrees, ← (pins conv).1, ← (pins conv).2] at convAgrees
        exact (agree.save_iff _).mpr convAgrees
  rw [stores_apply]
  cases action with
  | mergeSession payload =>
      rw [storeOp, KeepsPinsAgree]
      split
      · next empty => exact iff_of_true agree fun hasId => absurd empty hasId
      · next hasId =>
          rw [imp_iff_right hasId]
          exact agree.merge_iff rfl
  | raiseSequence convId seq => exact iff_of_true (agree.raise convId seq) trivial
  | loadConversations =>
      refine iff_of_true ?_ trivial
      rcases storeOp_loadConversations client with kept | ⟨rows, perm, loads⟩
      · rw [kept]
        exact agree
      · rw [loads]
        exact agree.load perm
  | replaceConversations payloads =>
      exact (agree.replace_iff _).trans (Client.pinAgrees_storeListedConversations payloads client)
  | fetchConversation convId payload =>
      rw [storeOp, agree.save_iff, Client.pinAgrees_stampUpdated,
        Client.pinAgrees_fetchedConversation]
      exact Iff.rfl
  | removeConversation convId => exact iff_of_true (agree.remove convId _) trivial
  | clearUnread convId => exact iff_of_true (agree.clearUnread convId) trivial
  | applyPinned convId pinned =>
      rw [storeOp, KeepsPinsAgree]
      cases cached : client.convCache.get convId with
      | none => exact iff_of_true agree fun _ isCached => absurd isCached Bool.false_ne_true
      | some conv =>
          refine (agree.save_iff _).trans ?_
          cases pinned with
          | false =>
              have unset : (false = true) ↔ (0 : Int64) ≠ 0 := by simp
              exact iff_of_true unset fun set => absurd set Bool.false_ne_true
          | true =>
              change (true = true ↔ client.nowMs.1 ≠ 0) ↔ _
              simp
  | setMuted convId muted => exact iff_of_true (changedKeeps convId _ fun _ => ⟨rfl, rfl⟩) trivial
  | setBurnAfterReading convId duration =>
      exact iff_of_true (changedKeeps convId _ fun _ => ⟨rfl, rfl⟩) trivial
  | setAutoDelete convId duration =>
      exact iff_of_true (changedKeeps convId _ fun _ => ⟨rfl, rfl⟩) trivial
  | applyUnreadCount convId unreadCount =>
      refine iff_of_true ?_ trivial
      rw [storeOp]
      cases cached : client.convCache.get convId with
      | none => exact agree
      | some conv =>
          have convAgrees : conv.PinAgrees := agree.get cached
          exact (agree.save_iff _).mpr convAgrees
  | applyServerSequence convId seq =>
      refine iff_of_true ?_ trivial
      rw [storeOp]
      cases cached : client.convCache.get convId with
      | none =>
          dsimp only
          split
          · exact agree.raise convId seq
          · exact agree
      | some conv =>
          have convAgrees : conv.PinAgrees := agree.get cached
          dsimp only
          split
          · exact (agree.save_iff _).mpr convAgrees
          · exact agree
  | patchConversation notificationType payload =>
      rw [storeOp]
      refine (agree.save_iff _).trans ?_
      rw [Client.pinAgrees_stampUpdated]
      exact Client.pinAgrees_patchPinTime_iff agree notificationType payload
  | restart => exact iff_of_true agree.forget trivial
  | _ => exact iff_of_true agree trivial

/-! ## Runs -/

/-- In a process started on any database, flags and pin times agree in every
state, between any two actions too, exactly when they agree in the database and
every action keeps them in step. -/
theorem pinsAgree_always_iff (platform : Platform) (db : Db) (clockReads : Nat)
    (events : List Event) :
    EventRun.Always Action.apply (fun client => client.stores.PinsAgree)
        (.start platform db clockReads) (events.flatMap Event.actions) ↔
      (∀ convId row, db.conversations.lookup convId = some row → row.PinAgrees) ∧
        EventRun.Guarded Action.apply Action.KeepsPinsAgree (.start platform db clockReads)
          (events.flatMap Event.actions) := by
  have exact_guard : ∀ (client : Client) (action : Action), True → client.stores.PinsAgree →
      ((action.apply client).stores.PinsAgree ↔ action.KeepsPinsAgree client) :=
    fun client action _ agree => action.pinsAgree_apply_iff agree
  constructor
  · intro always
    have initially := always.first
    exact ⟨initially.stored,
      (EventRun.always_iff_guarded (fun _ _ _ _ => trivial) exact_guard trivial initially
        _).mp always⟩
  · rintro ⟨stored, guarded⟩
    have initially : (Client.start platform db clockReads).stores.PinsAgree :=
      ⟨fun conv absent => absurd absent List.not_mem_nil, stored⟩
    exact (EventRun.always_iff_guarded (fun _ _ _ _ => trivial) exact_guard trivial initially
      _).mpr guarded

/-- A session that is pinned on another device is merged without a pin time. -/
theorem not_pinsAgree_always_synced :
    ¬EventRun.Always Action.apply (fun client => client.stores.PinsAgree) (.start default {} 0)
      ([syncOf { conversationId := "c1", isPinned := some (.bool true) }].flatMap
        Event.actions) := by
  intro always
  have agree := always.last.cached
    (Client.sessionConversation { conversationId := "c1", isPinned := some (.bool true) } 0)
    (by decide)
  exact absurd agree (by decide)

end AnychatSdk
