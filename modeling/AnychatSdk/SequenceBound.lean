import AnychatSdk.SequenceMonotone
import AnychatSdk.StoredMessages

/-!
# Sequence numbers of conversations and stored messages

The number of a conversation should not pass the greatest number of a message
stored for it, or else the next sync skips messages.  It can pass it when a
number is raised without a stored message behind it, and when the message that
carries the greatest number is overwritten.
-/

namespace AnychatSdk

/-! ## The greatest stored number -/

/-- The greatest of a list of numbers, 0 if there is none. -/
def greatest : List Int64 → Int64
  | [] => 0
  | [seq] => seq
  | seq :: next :: rest => max seq (greatest (next :: rest))

theorem le_greatest {seq : Int64} {seqs : List Int64} (member : seq ∈ seqs) :
    seq ≤ greatest seqs := by
  induction seqs with
  | nil => exact absurd member List.not_mem_nil
  | cons first rest ih =>
      cases rest with
      | nil =>
          obtain rfl := List.mem_singleton.mp member
          exact Int64.le_refl seq
      | cons next rest =>
          rcases List.mem_cons.mp member with rfl | later
          · exact le_max_left _ _
          · exact Int64.le_trans (ih later) (le_max_right _ _)

theorem greatest_mem {seqs : List Int64} (notEmpty : seqs ≠ []) : greatest seqs ∈ seqs := by
  induction seqs with
  | nil => exact absurd rfl notEmpty
  | cons first rest ih =>
      cases rest with
      | nil => exact List.mem_singleton.mpr rfl
      | cons next rest =>
          rw [greatest]
          by_cases less : first < greatest (next :: rest)
          · rw [max_eq_right_of_lt less]
            exact List.mem_cons_of_mem first (ih (List.cons_ne_nil next rest))
          · rw [max_eq_left_of_not_lt less]
            exact List.mem_cons_self

/-- The numbers of the stored messages of a conversation. -/
def Db.seqsOf (db : Db) (convId : String) : List Int64 :=
  (db.messages.rows.filter fun row => row.2.convId = convId).map fun row => row.2.seq

/-- The greatest number of a stored message of the conversation, 0 if none is
stored. -/
def Db.greatestSeq (db : Db) (convId : String) : Int64 :=
  greatest (db.seqsOf convId)

namespace Db

theorem mem_seqsOf {db : Db} {convId : String} {seq : Int64} :
    seq ∈ db.seqsOf convId ↔
      ∃ messageId row, db.messages.lookup messageId = some row ∧ row.convId = convId ∧
        row.seq = seq := by
  simp only [seqsOf, List.mem_map, List.mem_filter, decide_eq_true_eq, Prod.exists,
    KeyTable.lookup_eq_some_iff_mem_rows]
  constructor
  · rintro ⟨messageId, row, ⟨member, sameConv⟩, sameSeq⟩
    exact ⟨messageId, row, member, sameConv, sameSeq⟩
  · rintro ⟨messageId, row, member, sameConv, sameSeq⟩
    exact ⟨messageId, row, ⟨member, sameConv⟩, sameSeq⟩

/-- No stored message has a negative number. -/
def SeqsNonneg (db : Db) : Prop :=
  ∀ messageId row, db.messages.lookup messageId = some row → 0 ≤ row.seq

theorem SeqsNonneg.greatestSeq {db : Db} (nonneg : db.SeqsNonneg) (convId : String) :
    0 ≤ db.greatestSeq convId := by
  by_cases empty : db.seqsOf convId = []
  · rw [Db.greatestSeq, empty]
    exact Int64.le_refl 0
  · rcases mem_seqsOf.mp (greatest_mem empty) with ⟨messageId, row, found, _, sameSeq⟩
    rw [Db.greatestSeq, ← sameSeq]
    exact nonneg messageId row found

/-- Every stored message of `before` has one of its conversation in `after` with
a number at least as great. -/
def SeqsCovered (before after : Db) : Prop :=
  ∀ messageId row, before.messages.lookup messageId = some row →
    ∃ otherId other, after.messages.lookup otherId = some other ∧ other.convId = row.convId ∧
      row.seq ≤ other.seq

theorem SeqsCovered.refl {before after : Db} (same : after.messages = before.messages) :
    SeqsCovered before after :=
  fun messageId row found => ⟨messageId, row, same ▸ found, rfl, Int64.le_refl row.seq⟩

theorem SeqsCovered.greatestSeq_le {before after : Db} (covered : SeqsCovered before after)
    (nonneg : after.SeqsNonneg) (convId : String) :
    before.greatestSeq convId ≤ after.greatestSeq convId := by
  by_cases empty : before.seqsOf convId = []
  · rw [Db.greatestSeq, empty]
    exact nonneg.greatestSeq convId
  · rcases mem_seqsOf.mp (greatest_mem empty) with ⟨messageId, row, found, sameConv, sameSeq⟩
    rcases covered messageId row found with ⟨otherId, other, otherFound, otherConv, le⟩
    rw [Db.greatestSeq, ← sameSeq]
    refine Int64.le_trans le (le_greatest (mem_seqsOf.mpr ?_))
    exact ⟨otherId, other, otherFound, otherConv.trans sameConv, rfl⟩

end Db

/-! ## Statements on messages -/

/-- An overwriting that keeps its conversation covered: the new row continues
the old one, or another message reaches as far. -/
def Db.KeepsCover (db : Db) (messageId : String) (row : MessageRow) : Prop :=
  ∀ old, db.messages.lookup messageId = some old →
    (old.convId = row.convId ∧ old.seq ≤ row.seq) ∨
      ∃ otherId other, otherId ≠ messageId ∧ db.messages.lookup otherId = some other ∧
        other.convId = old.convId ∧ old.seq ≤ other.seq

/-- What a statement that takes a message row has to bring along. -/
def Stmt.SequencesFit (db : Db) : Stmt → Prop
  | insertOrIgnoreMessage messageId row =>
      db.acceptsMessage messageId row = true → 0 ≤ row.seq
  | upsertMessage messageId row =>
      db.acceptsMessage messageId row = true → 0 ≤ row.seq ∧ db.KeepsCover messageId row
  | _ => True

theorem Stmt.sequences_update {db after : Db} {messageId : String}
    {change : MessageRow → MessageRow}
    (updated : after.messages = db.messages.update messageId change)
    (sameConv : ∀ row, (change row).convId = row.convId)
    (sameSeq : ∀ row, (change row).seq = row.seq) (nonneg : db.SeqsNonneg) :
    db.SeqsCovered after ∧ after.SeqsNonneg := by
  constructor
  · intro otherId row found
    by_cases same : otherId = messageId
    · subst same
      refine ⟨otherId, change row, ?_, sameConv row, Int64.le_of_eq (sameSeq row).symm⟩
      rw [updated, KeyTable.lookup_update, if_pos rfl, found]
      rfl
    · refine ⟨otherId, row, ?_, rfl, Int64.le_refl row.seq⟩
      rw [updated, KeyTable.lookup_update, if_neg same, found]
  · intro otherId row found
    rw [updated, KeyTable.lookup_update] at found
    split at found
    · rcases Option.map_eq_some_iff.mp found with ⟨old, oldFound, rfl⟩
      exact sameSeq old ▸ nonneg messageId old oldFound
    · exact nonneg otherId row found

theorem Stmt.sequences_run {db : Db} {stmt : Stmt} (fit : stmt.SequencesFit db)
    (nonneg : db.SeqsNonneg) :
    db.SeqsCovered (stmt.run db) ∧ (stmt.run db).SeqsNonneg := by
  cases stmt with
  | insertOrIgnoreMessage messageId row =>
      rw [Stmt.run]
      split
      · next accepted =>
          constructor
          · intro otherId other found
            refine ⟨otherId, other, ?_, rfl, Int64.le_refl other.seq⟩
            rw [KeyTable.lookup_insertOrIgnore]
            by_cases same : otherId = messageId
            · subst same
              rw [if_pos rfl, found]
              rfl
            · rw [if_neg same, found]
          · intro otherId other found
            rw [KeyTable.lookup_insertOrIgnore] at found
            split at found
            · cases stored : db.messages.lookup messageId with
              | none =>
                  rw [stored] at found
                  obtain rfl := Option.some.inj found
                  exact fit accepted
              | some old =>
                  rw [stored] at found
                  obtain rfl := Option.some.inj found
                  exact nonneg messageId old stored
            · exact nonneg otherId other found
      · exact ⟨.refl rfl, nonneg⟩
  | upsertMessage messageId row =>
      rw [Stmt.run]
      split
      · next accepted =>
          rcases fit accepted with ⟨rowNonneg, keepsCover⟩
          constructor
          · intro otherId other found
            by_cases same : otherId = messageId
            · subst same
              rcases keepsCover other found with ⟨sameConv, le⟩ | ⟨coverId, cover, different,
                coverFound, sameConv, le⟩
              · exact ⟨otherId, row, (KeyTable.lookup_write _ _ _ _).trans (if_pos rfl),
                  sameConv.symm, le⟩
              · refine ⟨coverId, cover, ?_, sameConv, le⟩
                exact (KeyTable.lookup_write _ _ _ _).trans ((if_neg different).trans coverFound)
            · refine ⟨otherId, other, ?_, rfl, Int64.le_refl other.seq⟩
              exact (KeyTable.lookup_write _ _ _ _).trans ((if_neg same).trans found)
          · intro otherId other found
            have stored := (KeyTable.lookup_write _ _ _ _).symm.trans found
            split at stored
            · obtain rfl := Option.some.inj stored
              exact rowNonneg
            · exact nonneg otherId other stored
      · exact ⟨.refl rfl, nonneg⟩
  | updateMessageStatus messageId status =>
      exact Stmt.sequences_update rfl (fun _ => rfl) (fun _ => rfl) nonneg
  | updateMessageStatusAndContent messageId status content =>
      exact Stmt.sequences_update rfl (fun _ => rfl) (fun _ => rfl) nonneg
  | deleteConversation convId =>
      rw [Stmt.run]
      split <;> exact ⟨.refl rfl, nonneg⟩
  | _ => exact ⟨.refl rfl, nonneg⟩

/-! ## Bounded stores -/

/-- The number is within the bound of the conversation, whose id reads back
unchanged. -/
def Within (bound : String → Int64) (convId : String) (seq : Int64) : Prop :=
  NulFree convId ∧ seq ≤ bound convId

/-- Every number of a conversation, stored or cached, is within the bound. -/
structure Bounded (bound : String → Int64) (stores : ConversationStores) : Prop where
  stored : ∀ convId row, stores.rows.lookup convId = some row → Within bound convId row.localSeq
  cached : ∀ conv ∈ stores.cache.convs, Within bound conv.convId conv.localSeq

/-- The conversation is neither stored nor cached. -/
def ConversationStores.Unknown (stores : ConversationStores) (convId : String) : Prop :=
  stores.rows.lookup convId = none ∧ stores.cache.get convId = none

/-- What an operation has to bring along for the stores to stay bounded. -/
def StoreOp.StaysWithin (bound : String → Int64) (stores : ConversationStores) : StoreOp → Prop
  | save conv | merge conv => Within bound conv.convId conv.localSeq
  | raise convId seq => seq ≤ bound convId ∨ stores.Unknown convId
  | load rows => rows.Perm stores.rows.rows
  | replace convs => ∀ conv ∈ convs, Within bound conv.convId conv.localSeq
  | _ => True

section Bounded

variable {bound : String → Int64} {stores : ConversationStores}

theorem Bounded.mono {wider : String → Int64} (bounded : Bounded bound stores)
    (le : ∀ convId, bound convId ≤ wider convId) : Bounded wider stores where
  stored convId row found :=
    ⟨(bounded.stored convId row found).1,
      Int64.le_trans (bounded.stored convId row found).2 (le convId)⟩
  cached conv member :=
    ⟨(bounded.cached conv member).1,
      Int64.le_trans (bounded.cached conv member).2 (le conv.convId)⟩

theorem Bounded.cached_upsert (bounded : Bounded bound stores) {conv : Conversation}
    (within : Within bound conv.convId conv.localSeq) :
    ∀ cached ∈ (stores.cache.upsert conv).convs, Within bound cached.convId cached.localSeq := by
  intro cached member
  rcases ConversationCache.mem_upsert member with rfl | old
  · exact within
  · exact bounded.cached cached old

/-- A column update leaves the rows bounded if it does so with the row it
changes. -/
theorem Bounded.stored_update (bounded : Bounded bound stores) {convId : String}
    {change : ConversationRow → ConversationRow}
    (within : ∀ row, stores.rows.lookup convId = some row →
      (change row).localSeq ≤ bound convId) :
    ∀ otherId row, (stores.rows.update convId change).lookup otherId = some row →
      Within bound otherId row.localSeq := by
  intro otherId row found
  rw [KeyTable.lookup_update] at found
  split at found
  · next same =>
      subst same
      obtain ⟨old, oldFound, rfl⟩ := Option.map_eq_some_iff.mp found
      exact ⟨(bounded.stored otherId old oldFound).1, within old oldFound⟩
  · exact bounded.stored otherId row found

theorem Bounded.raise (bounded : Bounded bound stores) {convId : String} {seq : Int64}
    (within : seq ≤ bound convId ∨ stores.Unknown convId) :
    Bounded bound ((StoreOp.raise convId seq).apply stores) where
  stored := by
    refine bounded.stored_update fun row found => ?_
    rcases within with le | ⟨absent, _⟩
    · exact max_le (bounded.stored convId row found).2 le
    · exact absurd (absent.symm.trans found).symm (Option.some_ne_none row)
  cached := by
    intro cached member
    simp only [StoreOp.apply, ConversationCache.raise] at member
    cases found : stores.cache.get convId with
    | none =>
        rw [found] at member
        exact bounded.cached cached member
    | some conv =>
        rw [found] at member
        dsimp only at member
        split at member
        · rcases within with le | ⟨_, notCached⟩
          · have same := ConversationCache.get_convId found
            refine bounded.cached_upsert ⟨?_, ?_⟩ cached member
            · exact (bounded.cached conv (ConversationCache.get_mem found)).1
            · exact same ▸ le
          · exact absurd (found.symm.trans notCached) (Option.some_ne_none conv)
        · exact bounded.cached cached member

theorem Bounded.apply (bounded : Bounded bound stores) (nonneg : ∀ convId, 0 ≤ bound convId)
    {op : StoreOp} (within : op.StaysWithin bound stores) : Bounded bound (op.apply stores) := by
  cases op with
  | keep => exact bounded
  | save conv =>
      refine ⟨fun convId row found => ?_, bounded.cached_upsert within⟩
      rw [StoreOp.apply, KeyTable.lookup_write] at found
      split at found
      · next same =>
          subst same
          obtain rfl := Option.some.inj found
          exact within
      · exact bounded.stored convId row found
  | merge conv =>
      refine ⟨fun convId row found => ?_, bounded.cached_upsert within⟩
      rw [StoreOp.apply, KeyTable.lookup_upsert] at found
      split at found
      · next same =>
          subst same
          refine ⟨within.1, ?_⟩
          cases stored : stores.rows.lookup conv.convId with
          | none =>
              rw [stored] at found
              obtain rfl := Option.some.inj found
              exact nonneg conv.convId
          | some old =>
              rw [stored] at found
              obtain rfl := Option.some.inj found
              exact (bounded.stored conv.convId old stored).2
      · exact bounded.stored convId row found
  | raise convId seq => exact bounded.raise within
  | clearUnread convId =>
      refine ⟨bounded.stored_update fun row found => (bounded.stored convId row found).2, ?_⟩
      intro cached member
      rcases ConversationCache.mem_modifyFirst member with ⟨old, oldMem, _, rfl⟩ | old
      · exact bounded.cached old oldMem
      · exact bounded.cached cached old
  | remove convId referenced =>
      refine ⟨fun otherId row found => ?_, fun cached member =>
        bounded.cached cached (ConversationCache.mem_remove.mp member).1⟩
      cases referenced with
      | true => exact bounded.stored otherId row found
      | false =>
          simp only [StoreOp.apply, Bool.false_eq_true, if_false,
            KeyTable.lookup_erase_eq_ite] at found
          split at found
          · exact absurd found.symm (Option.some_ne_none row)
          · exact bounded.stored otherId row found
  | load rows =>
      have perm : rows.Perm stores.rows.rows := within
      refine ⟨bounded.stored, fun cached member => ?_⟩
      obtain ⟨⟨convId, row⟩, rowMem, rfl⟩ :=
        List.mem_map.mp (ConversationCache.mem_setAll.mp member)
      have found := KeyTable.lookup_eq_some_iff_mem_rows.mpr (perm.mem_iff.mp rowMem)
      have rowWithin := bounded.stored convId row found
      rw [rowToConversation_toRow, cString_eq_self rowWithin.1]
      exact rowWithin
  | replace convs =>
      refine ⟨fun convId row found => ?_, fun cached member =>
        within cached (ConversationCache.mem_setAll.mp member)⟩
      rcases lookup_writeRows_cases stores.rows found with ⟨conv, member, rfl, rfl⟩ | old
      · exact within conv member
      · exact bounded.stored convId row old
  | forget => exact ⟨bounded.stored, fun _ member => absurd member List.not_mem_nil⟩

end Bounded

/-! ## Actions that keep the cursor behind -/

/-- The inputs on which an action raises no number past the stored messages. -/
def Action.RaisesWithin (client : Client) : Action → Prop
  | mergeSession payload => payload.conversationId = "" ∨ NulFree payload.conversationId
  | raiseSequence convId seq | applyServerSequence convId seq =>
      seq ≤ client.table.greatestSeq convId ∨ client.stores.Unknown convId
  | replaceConversations payloads =>
      ∀ payload ∈ payloads, payload.conversationId ≠ "" → NulFree payload.conversationId
  | fetchConversation convId payload => NulFree (Client.fetchedConversation convId payload).convId
  | patchConversation _ payload => NulFree (notificationConversationId payload)
  | _ => True

/-- The inputs on which an action keeps the cursors behind the stored messages. -/
def Action.KeepsCursor (client : Client) (action : Action) : Prop :=
  action.RaisesWithin client ∧
    ∀ stmt ∈ action.messageStmt client, stmt.SequencesFit client.table

section OneAction

variable {bound : String → Int64} {client : Client}

/-- Saving a changed copy of a cached record stays within the bound. -/
theorem Bounded.staysWithin_of_cached (bounded : Bounded bound client.stores) {convId : String}
    {conv changed : Conversation} (cached : client.convCache.get convId = some conv)
    (sameId : changed.convId = conv.convId)
    (within : changed.localSeq = conv.localSeq ∨ changed.localSeq ≤ bound convId) :
    (StoreOp.save changed).StaysWithin bound client.stores := by
  rcases bounded.cached conv (ConversationCache.get_mem cached) with ⟨idNulFree, le⟩
  refine ⟨sameId ▸ idNulFree, ?_⟩
  rcases within with same | small
  · rwa [sameId, same]
  · rwa [sameId, ConversationCache.get_convId cached]

theorem Action.staysWithin {action : Action}
    (bounded : Bounded client.table.greatestSeq client.stores)
    (nonneg : client.table.SeqsNonneg) (raises : action.RaisesWithin client) :
    (action.storeOp client).StaysWithin client.table.greatestSeq client.stores := by
  have zero : ∀ convId, 0 ≤ client.table.greatestSeq convId := nonneg.greatestSeq
  by_cases edits : action.EditsCached
  · rcases Action.storeOp_of_editsCached client edits with
      kept | ⟨_, _, copy, cached, saved, sameText, sameSeq⟩
    · rw [kept]
      trivial
    · rw [saved]
      exact bounded.staysWithin_of_cached cached sameText.convId (.inl sameSeq)
  cases action with
  | mergeSession payload =>
      rw [Action.storeOp]
      split
      · trivial
      · next hasId => exact ⟨Or.resolve_left raises hasId, zero _⟩
  | raiseSequence convId seq => exact raises
  | loadConversations =>
      rcases Action.storeOp_loadConversations client with kept | ⟨rows, perm, loaded⟩
      · rw [kept]
        trivial
      · rw [loaded]
        exact perm
  | replaceConversations payloads =>
      intro conv member
      obtain ⟨payload, payloadMem, listed, updatedAt, rfl⟩ :=
        Client.mem_storeListedConversations member
      exact ⟨raises payload payloadMem listed, zero _⟩
  | fetchConversation convId payload =>
      obtain ⟨updatedAt, stamped⟩ :=
        Client.stampUpdated_fst (Client.fetchedConversation convId payload) client
      have unnumbered := Client.localSeq_fetchedConversation convId payload
      rw [Action.storeOp, stamped]
      exact ⟨raises, unnumbered ▸ zero _⟩
  | applyPinned | setMuted | setBurnAfterReading | setAutoDelete | applyUnreadCount =>
      exact absurd trivial edits
  | applyServerSequence convId seq =>
      simp only [Action.storeOp]
      cases cached : client.convCache.get convId with
      | none =>
          dsimp only
          split
          · exact raises
          · trivial
      | some conv =>
          have known : ¬client.stores.Unknown convId := fun unknown =>
            absurd (unknown.2.symm.trans cached).symm (Option.some_ne_none conv)
          dsimp only
          split
          · exact bounded.staysWithin_of_cached cached rfl (.inr (Or.resolve_right raises known))
          · trivial
  | patchConversation notificationType payload =>
      obtain ⟨pinTime, updatedAt, op_eq⟩ :=
        Client.storeOp_patchConversation notificationType payload client
      rw [op_eq]
      have sameId := client.convId_patchedConversation payload
      have patchedSeq : (client.patchedConversation payload).localSeq =
          ((client.convCache.get (notificationConversationId payload)).getD {}).localSeq := rfl
      cases cached : client.convCache.get (notificationConversationId payload) with
      | some conv =>
          refine bounded.staysWithin_of_cached cached ?_ (.inl ?_)
          · exact sameId.trans (ConversationCache.get_convId cached).symm
          · rw [cached] at patchedSeq
            exact patchedSeq
      | none =>
          rw [cached] at patchedSeq
          have numberless : (client.patchedConversation payload).localSeq = 0 := patchedSeq
          exact ⟨sameId.symm ▸ raises, numberless ▸ zero _⟩
  | _ => trivial

end OneAction

/-! ## Runs -/

/-- No cursor is ahead of the stored messages, and none of them has a negative
number. -/
structure CursorInvariant (client : Client) : Prop where
  nonneg : client.table.SeqsNonneg
  bounded : Bounded client.table.greatestSeq client.stores

theorem cursorInvariant_apply (client : Client) (action : Action)
    (invariant : CursorInvariant client) (keeps : action.KeepsCursor client) :
    CursorInvariant (action.apply client) := by
  have messages : client.table.SeqsCovered (action.apply client).table ∧
      (action.apply client).table.SeqsNonneg := by
    have ran : ∀ stmt, action.messageStmt client = stmt →
        client.table.SeqsCovered (client.table.runOption stmt) ∧
          (client.table.runOption stmt).SeqsNonneg := by
      intro stmt executed
      cases stmt with
      | none => exact ⟨.refl rfl, invariant.nonneg⟩
      | some stmt => exact Stmt.sequences_run (keeps.2 stmt executed) invariant.nonneg
    have same := action.messages_apply client
    simp only [Db.SeqsCovered, Db.SeqsNonneg, same]
    exact ran _ rfl
  refine ⟨messages.2, ?_⟩
  rw [Action.stores_apply]
  exact (invariant.bounded.apply invariant.nonneg.greatestSeq
    (Action.staysWithin invariant.bounded invariant.nonneg keeps.1)).mono
      (messages.1.greatestSeq_le messages.2)

/-- The cursors of a client are behind its stored messages: in the table, in the
cache, and in the sync request built now. -/
structure CursorBehind (client : Client) : Prop where
  stored : ∀ convId row, client.table.conversations.lookup convId = some row →
    row.localSeq ≤ client.table.greatestSeq convId
  cached : ∀ conv ∈ client.convCache.convs, conv.localSeq ≤ client.table.greatestSeq conv.convId
  requested : ∀ request ∈ client.syncRequest.conversationSeqs,
    request.lastSeq ≤ client.table.greatestSeq request.conversationId

theorem CursorInvariant.cursorBehind {client : Client} (invariant : CursorInvariant client) :
    CursorBehind client where
  stored convId row found := (invariant.bounded.stored convId row found).2
  cached conv member := (invariant.bounded.cached conv member).2
  requested := by
    intro request member
    obtain ⟨row, found, asked⟩ := Client.mem_conversationSeqs
      (fun convId row found => (invariant.bounded.stored convId row found).1) member
    rw [asked]
    cases cached : client.convCache.get request.conversationId with
    | none => exact (invariant.bounded.stored _ row found).2
    | some conv =>
        have le := (invariant.bounded.cached conv (ConversationCache.get_mem cached)).2
        rwa [ConversationCache.get_convId cached] at le

/-- A client that starts on an empty database keeps its cursors behind the stored
messages in every run whose actions keep them there. -/
theorem cursorBehind_always (platform : Platform) (clockReads : Nat) {events : List Event}
    (keeps : EventRun.Guarded Action.apply Action.KeepsCursor (.start platform {} clockReads)
      (events.flatMap Event.actions)) :
    EventRun.Always Event.apply CursorBehind (.start platform {} clockReads) events := by
  have initially : CursorInvariant (.start platform {} clockReads) := by
    refine ⟨fun messageId row found => absurd found (by simp), ⟨?_, ?_⟩⟩
    · exact fun convId row found => absurd found (by simp [Client.stores])
    · exact fun conv member => absurd member List.not_mem_nil
  have invariant := always_events_of_guarded cursorInvariant_apply initially keeps
  exact invariant.mono fun _ holds => holds.cursorBehind

/-- A conversation is synced, then a message of it. -/
theorem cursorBehind_always_synced :
    EventRun.Always Event.apply CursorBehind (.start default {} 0)
      [syncOf { conversationId := "c1" }, syncMessage "c1" "m1" 5] := by
  have actions : [syncOf { conversationId := "c1" }, syncMessage "c1" "m1" 5].flatMap
      Event.actions =
      [.mergeSession { conversationId := "c1" }, .setSyncTime 0,
        .storeSyncedMessage (Client.syncedMessage "c1"
          { messageId := "m1", sequence := some (.int64 5) }),
        .raiseSequence "c1" 5, .setSyncTime 0] := rfl
  apply cursorBehind_always default 0
  rw [actions]
  refine ⟨⟨.inr (by decide), ?_⟩, ⟨trivial, ?_⟩, ⟨trivial, ?_⟩, ⟨.inl (by decide), ?_⟩,
    ⟨trivial, ?_⟩, trivial⟩
  · exact fun stmt executed => absurd executed (by simp [Action.messageStmt])
  · exact fun stmt executed => absurd executed (by simp [Action.messageStmt])
  · rintro stmt ⟨⟩
    exact fun _ => by decide
  · exact fun stmt executed => absurd executed (by simp [Action.messageStmt])
  · exact fun stmt executed => absurd executed (by simp [Action.messageStmt])

/-- The second of two synced messages is not stored, but raises the number of the
conversation to its own. -/
theorem not_cursorBehind_always_twoMessageSync :
    ¬EventRun.Always Event.apply CursorBehind (.start default {} 0) [twoMessageSync] := by
  intro always
  have le := always.last.requested
    { conversationId := "c1", conversationType := "single", lastSeq := 2 } (by decide)
  exact absurd le (by decide)

end AnychatSdk
