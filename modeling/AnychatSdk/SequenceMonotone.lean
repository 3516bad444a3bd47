import AnychatSdk.CacheAgreement

/-!
# Sequence numbers of conversations do not go back

The payloads of conversations carry no sequence number.  A record built from one
has the number 0, and it replaces what the cache, and for most operations also
the row, knew before.
-/

namespace AnychatSdk

/-- The cached record and the row have the same sequence number. -/
def SameSequence (conv : Conversation) (row : ConversationRow) : Prop :=
  row.localSeq = conv.localSeq

theorem stableLink_sameSequence : StableLink SameSequence where
  clearUnread _ _ same := same
  raise conv row seq same smaller := by
    have equal : row.localSeq = conv.localSeq := same
    rw [SameSequence, equal]
    exact max_eq_right_of_lt smaller
  keep conv row seq same notSmaller := by
    have equal : row.localSeq = conv.localSeq := same
    rw [SameSequence, equal]
    exact max_eq_left_of_not_lt notSmaller
  load convId row _ := by
    rw [SameSequence, rowToConversation_toRow]

/-- The conversation has no row, or one with the number 0. -/
def Unsequenced (client : Client) (convId : String) : Prop :=
  ∀ row, client.table.conversations.lookup convId = some row → row.localSeq = 0

/-- The conversation has no row, or one whose number a record with 0 does not
lower. -/
def NotLoweredByZero (client : Client) (convId : String) : Prop :=
  ∀ row, client.table.conversations.lookup convId = some row → row.localSeq ≤ 0

/-- The inputs on which an action takes no sequence number back. -/
def Action.KeepsSequence (client : Client) : Action → Prop
  | mergeSession payload =>
      payload.conversationId = "" ∨
        NulFree payload.conversationId ∧ Unsequenced client payload.conversationId
  | replaceConversations payloads =>
      ((payloads.map ConversationPayload.conversationId).filter fun convId => convId ≠ "").Nodup ∧
        ∀ payload ∈ payloads, payload.conversationId ≠ "" →
          NulFree payload.conversationId ∧ NotLoweredByZero client payload.conversationId
  | fetchConversation convId payload =>
      NulFree (Client.fetchedConversation convId payload).convId ∧
        NotLoweredByZero client (Client.fetchedConversation convId payload).convId
  | patchConversation _ payload =>
      NulFree (notificationConversationId payload) ∧
        ((client.convCache.get (notificationConversationId payload)).isSome ∨
          NotLoweredByZero client (notificationConversationId payload))
  | _ => True

/-! ## One operation -/

/-- The stored number of the conversation has not gone back. -/
def NumberRises (convId : String) (before after : ConversationStores) : Prop :=
  ∀ row, before.rows.lookup convId = some row →
    ∃ later, after.rows.lookup convId = some later ∧ row.localSeq ≤ later.localSeq

theorem NumberRises.refl (convId : String) (stores : ConversationStores) :
    NumberRises convId stores stores :=
  fun row found => ⟨row, found, Int64.le_refl row.localSeq⟩

theorem NumberRises.trans {convId : String} {first second third : ConversationStores}
    (firstRises : NumberRises convId first second) (secondRises : NumberRises convId second third) :
    NumberRises convId first third := by
  intro row found
  rcases firstRises row found with ⟨middle, middleFound, firstLe⟩
  rcases secondRises middle middleFound with ⟨later, laterFound, secondLe⟩
  exact ⟨later, laterFound, Int64.le_trans firstLe secondLe⟩

/-- The operation writes no number below the one stored. -/
def StoreOp.NotLowering (stores : ConversationStores) : StoreOp → Prop
  | save conv =>
      ∀ row, stores.rows.lookup conv.convId = some row → row.localSeq ≤ conv.localSeq
  | replace convs =>
      (convs.map Conversation.convId).Nodup ∧ ∀ conv ∈ convs, ∀ row,
        stores.rows.lookup conv.convId = some row → row.localSeq ≤ conv.localSeq
  | _ => True

/-- Such an operation lets numbers rise only, unless it removes the
conversation. -/
theorem StoreOp.numberRises {op : StoreOp} {stores : ConversationStores}
    (notLowering : op.NotLowering stores) {convId : String}
    (notRemoved : ∀ referenced, op ≠ .remove convId referenced) :
    NumberRises convId stores (op.apply stores) := by
  intro row found
  cases op with
  | save conv =>
      simp only [StoreOp.apply, KeyTable.lookup_write]
      by_cases same : convId = conv.convId
      · subst same
        exact ⟨conv.toRow, if_pos rfl, notLowering row found⟩
      · exact ⟨row, by rw [if_neg same, found], Int64.le_refl _⟩
  | merge conv =>
      simp only [StoreOp.apply, KeyTable.lookup_upsert]
      by_cases same : convId = conv.convId
      · subst same
        exact ⟨(Client.sessionColumns conv).overwrite row, by simp [found], Int64.le_refl _⟩
      · exact ⟨row, by rw [if_neg same, found], Int64.le_refl _⟩
  | raise raisedId seq =>
      simp only [StoreOp.apply, KeyTable.lookup_update]
      by_cases same : convId = raisedId
      · subst same
        exact ⟨{ row with localSeq := max row.localSeq seq }, by simp [found], le_max_left _ _⟩
      · exact ⟨row, by rw [if_neg same, found], Int64.le_refl _⟩
  | clearUnread clearedId =>
      simp only [StoreOp.apply, KeyTable.lookup_update]
      by_cases same : convId = clearedId
      · subst same
        exact ⟨{ row with unreadCount := 0 }, by simp [found], Int64.le_refl _⟩
      · exact ⟨row, by rw [if_neg same, found], Int64.le_refl _⟩
  | remove removedId referenced =>
      have other : convId ≠ removedId := fun same => notRemoved referenced (by rw [same])
      refine ⟨row, ?_, Int64.le_refl _⟩
      cases referenced with
      | true => exact found
      | false =>
          simp only [StoreOp.apply, Bool.false_eq_true, if_false, KeyTable.lookup_erase_eq_ite,
            if_neg other, found]
  | replace convs =>
      by_cases listed : ∃ conv ∈ convs, conv.convId = convId
      · rcases listed with ⟨conv, member, rfl⟩
        exact ⟨conv.toRow, lookup_writeRows_of_mem _ notLowering.1 member,
          notLowering.2 conv member row found⟩
      · have absent : ∀ conv ∈ convs, conv.convId ≠ convId := by simpa using listed
        exact ⟨row, (lookup_writeRows_of_not_mem _ absent).trans found, Int64.le_refl _⟩
  | keep => exact ⟨row, found, Int64.le_refl _⟩
  | load rows => exact ⟨row, found, Int64.le_refl _⟩
  | forget => exact ⟨row, found, Int64.le_refl _⟩

/-! ## One action -/

section OneAction

variable {client : Client} (linked : Linked SameSequence client.stores)

include linked

/-- A changed copy of a cached record brings the number of its row along. -/
theorem Linked.sequence_of_cached {convId : String} {conv changed : Conversation}
    (cached : client.convCache.get convId = some conv) (sameId : changed.convId = conv.convId)
    (atLeast : conv.localSeq ≤ changed.localSeq) :
    (StoreOp.save changed).Admissible SameSequence client.stores ∧
      (StoreOp.save changed).NotLowering client.stores := by
  rcases linked.linked conv (ConversationCache.get_mem cached) with ⟨row, found, same⟩
  have equal : row.localSeq = conv.localSeq := same
  refine ⟨⟨?_, rfl⟩, fun other otherFound => ?_⟩
  · rw [sameId]
    exact linked.nulFree conv.convId (KeyTable.mem_iff_exists_lookup.mpr ⟨row, found⟩)
  · rw [sameId] at otherFound
    obtain rfl := Option.some.inj (found.symm.trans otherFound)
    exact equal ▸ atLeast

theorem Action.sequence_of_keepsSequence {action : Action}
    (keeps : action.KeepsSequence client) :
    (action.storeOp client).Admissible SameSequence client.stores ∧
      (action.storeOp client).NotLowering client.stores := by
  by_cases edits : action.EditsCached
  · rcases Action.storeOp_of_editsCached client edits with
      kept | ⟨_, _, copy, cached, saved, sameText, sameSeq⟩
    · rw [kept]
      exact ⟨trivial, trivial⟩
    · rw [saved]
      exact linked.sequence_of_cached cached sameText.convId (Int64.le_of_eq sameSeq.symm)
  cases action with
  | mergeSession payload =>
      rw [Action.storeOp]
      split
      · exact ⟨trivial, trivial⟩
      · next hasId =>
          rcases Or.resolve_left keeps hasId with ⟨idNulFree, unsequenced⟩
          refine ⟨⟨idNulFree, ?_⟩, trivial⟩
          cases found : client.stores.rows.lookup payload.conversationId with
          | none =>
              simp only [Client.sessionConversation, found]
              rfl
          | some row =>
              simp only [Client.sessionConversation, found]
              exact unsequenced row found
  | loadConversations =>
      rcases Action.storeOp_loadConversations client with kept | ⟨rows, perm, loaded⟩
      · rw [kept]
        exact ⟨trivial, trivial⟩
      · rw [loaded]
        exact ⟨perm, trivial⟩
  | replaceConversations payloads =>
      have distinct : ((client.storeListedConversations payloads).1.map
          Conversation.convId).Nodup := by
        rw [Client.map_convId_storeListedConversations]
        exact keeps.1
      refine ⟨⟨distinct, fun conv member => ?_⟩, ⟨distinct, fun conv member row found => ?_⟩⟩
      · obtain ⟨payload, payloadMem, listed, updatedAt, rfl⟩ :=
          Client.mem_storeListedConversations member
        exact ⟨(keeps.2 payload payloadMem listed).1, rfl⟩
      · obtain ⟨payload, payloadMem, listed, updatedAt, rfl⟩ :=
          Client.mem_storeListedConversations member
        exact (keeps.2 payload payloadMem listed).2 row found
  | fetchConversation convId payload =>
      obtain ⟨updatedAt, stamped⟩ :=
        Client.stampUpdated_fst (Client.fetchedConversation convId payload) client
      have unnumbered := Client.localSeq_fetchedConversation convId payload
      rw [Action.storeOp, stamped]
      refine ⟨⟨keeps.1, rfl⟩, fun row found => ?_⟩
      exact unnumbered ▸ keeps.2 row found
  | applyPinned | setMuted | setBurnAfterReading | setAutoDelete | applyUnreadCount =>
      exact absurd trivial edits
  | applyServerSequence convId seq =>
      simp only [Action.storeOp]
      cases cached : client.convCache.get convId with
      | none =>
          dsimp only
          split <;> exact ⟨trivial, trivial⟩
      | some conv =>
          dsimp only
          split
          · next smaller => exact linked.sequence_of_cached cached rfl (Int64.le_of_lt smaller)
          · exact ⟨trivial, trivial⟩
  | patchConversation notificationType payload =>
      obtain ⟨pinTime, updatedAt, op_eq⟩ :=
        Client.storeOp_patchConversation notificationType payload client
      rw [op_eq]
      have sameId := client.convId_patchedConversation payload
      have patchedSeq : (client.patchedConversation payload).localSeq =
          ((client.convCache.get (notificationConversationId payload)).getD {}).localSeq := rfl
      cases cached : client.convCache.get (notificationConversationId payload) with
      | some conv =>
          refine linked.sequence_of_cached cached ?_ ?_
          · exact sameId.trans (ConversationCache.get_convId cached).symm
          · rw [cached] at patchedSeq
            exact Int64.le_of_eq patchedSeq.symm
      | none =>
          have notLowered := keeps.2.resolve_left (by simp [cached])
          rw [cached] at patchedSeq
          refine ⟨⟨sameId.symm ▸ keeps.1, rfl⟩, fun row found => ?_⟩
          have numberless : (client.patchedConversation payload).localSeq = 0 := patchedSeq
          change client.table.conversations.lookup (client.patchedConversation payload).convId =
            some row at found
          rw [sameId] at found
          exact numberless ▸ notLowered row found
  | _ => exact ⟨trivial, trivial⟩

end OneAction

theorem linked_sameSequence_apply (client : Client) (action : Action)
    (linked : Linked SameSequence client.stores) (keeps : action.KeepsSequence client) :
    Linked SameSequence (action.apply client).stores := by
  rw [Action.stores_apply]
  exact linked.apply stableLink_sameSequence (Action.sequence_of_keepsSequence linked keeps).1

theorem numberRises_apply {convId : String} (client : Client) (action : Action)
    (linked : Linked SameSequence client.stores)
    (guard : action.KeepsSequence client ∧ action ≠ .removeConversation convId) :
    NumberRises convId client.stores (action.apply client).stores := by
  rw [Action.stores_apply]
  have notLowering := (Action.sequence_of_keepsSequence linked guard.1).2
  apply StoreOp.numberRises notLowering
  intro referenced removes
  exact guard.2 (Action.eq_removeConversation_of_storeOp removes)

/-! ## Runs -/

/-- Between two states the number of a conversation has not gone back: in the
table, in the cache, and in the sync requests built in them. -/
structure SequenceKept (convId : String) (first last : Client) : Prop where
  stored : NumberRises convId first.stores last.stores
  cached : ∀ conv later, first.convCache.get convId = some conv →
    last.convCache.get convId = some later → conv.localSeq ≤ later.localSeq
  requested : ∀ request ∈ first.syncRequest.conversationSeqs,
    ∀ later ∈ last.syncRequest.conversationSeqs,
      request.conversationId = convId → later.conversationId = convId →
        request.lastSeq ≤ later.lastSeq

/-- With linked stores, the cached number is the stored one. -/
theorem Linked.cached_sequence {client : Client} (linked : Linked SameSequence client.stores)
    {convId : String} {conv : Conversation} (cached : client.convCache.get convId = some conv) :
    ∃ row, client.table.conversations.lookup convId = some row ∧
      row.localSeq = conv.localSeq := by
  rcases linked.linked conv (ConversationCache.get_mem cached) with ⟨row, found, same⟩
  rw [ConversationCache.get_convId cached] at found
  exact ⟨row, found, same⟩

/-- A sync request asks from the cached number on, or from the stored one. -/
theorem Client.mem_conversationSeqs {client : Client}
    (idsNulFree : ∀ convId row, client.table.conversations.lookup convId = some row →
      NulFree convId)
    {request : ConversationSeqRequest} (member : request ∈ client.syncRequest.conversationSeqs) :
    ∃ row, client.table.conversations.lookup request.conversationId = some row ∧
      request.lastSeq =
        ((client.convCache.get request.conversationId).map Conversation.localSeq).getD
          row.localSeq := by
  rcases List.mem_filterMap.mp member with ⟨⟨convId, row⟩, rowMem, built⟩
  have found := KeyTable.lookup_eq_some_iff_mem_rows.mpr
    (client.platform.unordered.mem_sort.mp rowMem)
  have idText : (row.toSeqRow convId).text "conv_id" = convId := by
    change cString convId = convId
    exact cString_eq_self (idsNulFree convId row found)
  have seqText : (row.toSeqRow convId).text "local_seq" = toString row.localSeq := rfl
  simp only [Client.conversationSeqRequest, idText, seqText, stoll_toString,
    Option.getD_some] at built
  split at built
  · exact absurd built (by simp)
  · obtain rfl := Option.some.inj built
    refine ⟨row, found, ?_⟩
    dsimp only
    cases client.convCache.get convId <;> rfl

/-- With linked stores, a sync request asks from the stored number on. -/
theorem Linked.requested_sequence {client : Client} (linked : Linked SameSequence client.stores)
    {request : ConversationSeqRequest} (member : request ∈ client.syncRequest.conversationSeqs) :
    ∃ row, client.table.conversations.lookup request.conversationId = some row ∧
      request.lastSeq = row.localSeq := by
  have idsNulFree : ∀ convId row, client.table.conversations.lookup convId = some row →
      NulFree convId :=
    fun convId row found => linked.nulFree convId (KeyTable.mem_iff_exists_lookup.mpr ⟨row, found⟩)
  rcases Client.mem_conversationSeqs idsNulFree member with ⟨row, found, asked⟩
  refine ⟨row, found, asked.trans ?_⟩
  cases cached : client.convCache.get request.conversationId with
  | none => rfl
  | some conv =>
      rcases linked.cached_sequence cached with ⟨cachedRow, cachedFound, same⟩
      obtain rfl := Option.some.inj (found.symm.trans cachedFound)
      exact same.symm

theorem SequenceKept.of_linked {convId : String} {first last : Client}
    (firstLinked : Linked SameSequence first.stores) (lastLinked : Linked SameSequence last.stores)
    (rises : NumberRises convId first.stores last.stores) : SequenceKept convId first last where
  stored := rises
  cached := by
    intro conv later cached laterCached
    rcases firstLinked.cached_sequence cached with ⟨row, found, same⟩
    rcases lastLinked.cached_sequence laterCached with ⟨laterRow, laterFound, laterSame⟩
    rcases rises row found with ⟨_, risenFound, le⟩
    obtain rfl := Option.some.inj (laterFound.symm.trans risenFound)
    rwa [same, laterSame] at le
  requested := by
    intro request member later laterMem sameId laterSameId
    rcases firstLinked.requested_sequence member with ⟨row, found, same⟩
    rcases lastLinked.requested_sequence laterMem with ⟨laterRow, laterFound, laterSame⟩
    rw [sameId] at found
    rw [laterSameId] at laterFound
    rcases rises row found with ⟨_, risenFound, le⟩
    obtain rfl := Option.some.inj (laterFound.symm.trans risenFound)
    rwa [same, laterSame]

/-- In a process started on a database whose conversation ids contain no NUL,
the number of a conversation is kept between any two states of a run whose
actions keep sequences and which does not delete the conversation in between. -/
theorem sequenceKept_of_guarded (platform : Platform) (db : Db) (clockReads : Nat)
    (idsNulFree : ∀ convId ∈ db.conversations, NulFree convId) {before after : List Event}
    (keeps : EventRun.Guarded Action.apply Action.KeepsSequence (.start platform db clockReads)
      ((before ++ after).flatMap Event.actions))
    {convId : String}
    (notDeleted : Action.removeConversation convId ∉ after.flatMap Event.actions) :
    SequenceKept convId
      (EventRun.exec Event.apply (.start platform db clockReads) before)
      (EventRun.exec Event.apply (.start platform db clockReads) (before ++ after)) := by
  rw [List.flatMap_append] at keeps
  rcases EventRun.Guarded.append.mp keeps with ⟨keepsBefore, keepsAfter⟩
  have initially : Linked SameSequence (Client.start platform db clockReads).stores :=
    .start platform db clockReads idsNulFree
  have firstLinked := EventRun.exec_invariant_of_guarded linked_sameSequence_apply initially
    keepsBefore
  have lastLinked := EventRun.exec_invariant_of_guarded linked_sameSequence_apply firstLinked
    keepsAfter
  have rises := EventRun.related_of_guarded
    (fun first last : Client => NumberRises convId first.stores last.stores)
    (fun client => NumberRises.refl convId client.stores)
    (fun _ _ _ => NumberRises.trans)
    (fun client action linked guard => linked_sameSequence_apply client action linked guard.1)
    numberRises_apply firstLinked (keepsAfter.and_forall fun action member => ?_)
  · rw [EventRun.exec_append, exec_events_eq_exec_actions, exec_events_eq_exec_actions]
    exact .of_linked firstLinked lastLinked rises
  · rintro rfl
    exact notDeleted member

/-- A sync response with a message of a conversation. -/
def syncMessage (convId messageId : String) (seq : Int64) : Event :=
  .syncResponse
    { statusCode := 200
      body := .parsed
        { code := 0
          data :=
            { conversations := some
                [{ conversationId := convId
                   messages := some
                     [{ messageId := messageId, sequence := some (.int64 seq) }] }] } } }

/-- A conversation is synced, and so are two messages of it, one after the
other. -/
theorem sequenceKept_two_messages :
    SequenceKept "c1"
      (EventRun.exec Event.apply (.start default {} 0)
        [syncOf { conversationId := "c1" }, syncMessage "c1" "m1" 5])
      (EventRun.exec Event.apply (.start default {} 0)
        ([syncOf { conversationId := "c1" }, syncMessage "c1" "m1" 5] ++
          [syncMessage "c1" "m2" 6])) := by
  have actions : ([syncOf { conversationId := "c1" }, syncMessage "c1" "m1" 5] ++
      [syncMessage "c1" "m2" 6]).flatMap Event.actions =
      [.mergeSession { conversationId := "c1" }, .setSyncTime 0,
        .storeSyncedMessage (Client.syncedMessage "c1"
          { messageId := "m1", sequence := some (.int64 5) }),
        .raiseSequence "c1" 5, .setSyncTime 0,
        .storeSyncedMessage (Client.syncedMessage "c1"
          { messageId := "m2", sequence := some (.int64 6) }),
        .raiseSequence "c1" 6, .setSyncTime 0] := rfl
  refine sequenceKept_of_guarded default {} 0 (fun convId member => absurd member (by simp)) ?_ ?_
  · rw [actions]
    refine ⟨.inr ⟨by decide, fun row found => absurd found (by simp)⟩, ?_⟩
    exact ⟨trivial, trivial, trivial, trivial, trivial, trivial, trivial, trivial⟩
  · have later : [syncMessage "c1" "m2" 6].flatMap Event.actions =
        [.storeSyncedMessage (Client.syncedMessage "c1"
          { messageId := "m2", sequence := some (.int64 6) }),
          .raiseSequence "c1" 6, .setSyncTime 0] := rfl
    rw [later]
    simp

/-- A conversation with a synced message, fetched again: its number goes back
to 0. -/
theorem not_sequenceKept_fetched :
    ¬SequenceKept "c1"
      (EventRun.exec Event.apply (.start default {} 0)
        [syncOf { conversationId := "c1" }, syncMessage "c1" "m1" 5])
      (EventRun.exec Event.apply (.start default {} 0)
        ([syncOf { conversationId := "c1" }, syncMessage "c1" "m1" 5] ++
          [.getConversationResponse "c1"
            { statusCode := 200
              body := .parsed { code := 0, data := { conversationId := "c1" } } }])) := by
  intro kept
  have le := kept.requested
    { conversationId := "c1", conversationType := "single", lastSeq := 5 } (by decide)
    { conversationId := "c1", conversationType := "single", lastSeq := 0 } (by decide) rfl rfl
  exact absurd le (by decide)

end AnychatSdk
