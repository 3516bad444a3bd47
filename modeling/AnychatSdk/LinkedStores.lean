import AnychatSdk.ConversationStores

/-!
# Stores linked by a relation

A relation between cached records and their rows links the stores when ids are
distinct in the cache and every cached record has a row it is related to.  The
operations keep such a link if the relation survives the partial updates, and if
it holds between each record and the row that is written with it.
-/

namespace AnychatSdk

structure Linked (Related : Conversation → ConversationRow → Prop)
    (stores : ConversationStores) : Prop where
  distinct : stores.cache.ids.Nodup
  linked : ∀ conv ∈ stores.cache.convs, ∃ row,
    stores.rows.lookup conv.convId = some row ∧ Related conv row
  nulFree : ∀ convId ∈ stores.rows, NulFree convId

/-- The relation survives what the operations do to a record and its row at the
same time. -/
structure StableLink (Related : Conversation → ConversationRow → Prop) : Prop where
  clearUnread : ∀ conv row, Related conv row →
    Related { conv with unreadCount := 0 } { row with unreadCount := 0 }
  raise : ∀ conv row seq, Related conv row → conv.localSeq < seq →
    Related { conv with localSeq := seq } { row with localSeq := max row.localSeq seq }
  keep : ∀ conv row seq, Related conv row → ¬conv.localSeq < seq →
    Related conv { row with localSeq := max row.localSeq seq }
  load : ∀ convId row, NulFree convId → Related (rowToConversation (row.toRow convId)) row

/-- What an operation has to bring along for the stores to stay linked. -/
def StoreOp.Admissible (Related : Conversation → ConversationRow → Prop)
    (stores : ConversationStores) : StoreOp → Prop
  | save conv => NulFree conv.convId ∧ Related conv conv.toRow
  | merge conv =>
      NulFree conv.convId ∧
        Related conv ((stores.rows.lookup conv.convId).elim (Client.sessionColumns conv).fresh
          (Client.sessionColumns conv).overwrite)
  | load rows => rows.Perm stores.rows.rows
  | replace convs =>
      (convs.map Conversation.convId).Nodup ∧
        ∀ conv ∈ convs, NulFree conv.convId ∧ Related conv conv.toRow
  | _ => True

/-! ## Written rows -/

theorem mem_writeRows (convs : List Conversation) (rows : KeyTable String ConversationRow)
    (convId : String) :
    convId ∈ writeRows convs rows ↔ (∃ conv ∈ convs, conv.convId = convId) ∨ convId ∈ rows := by
  induction convs generalizing rows with
  | nil => simp [writeRows]
  | cons conv rest ih =>
      have rest_iff := ih (rows.write conv.convId conv.toRow)
      rw [KeyTable.mem_write] at rest_iff
      apply rest_iff.trans
      simp only [List.exists_mem_cons_iff]
      constructor
      · rintro (later | same | old)
        · exact .inl (.inr later)
        · exact .inl (.inl same.symm)
        · exact .inr old
      · rintro ((same | later) | old)
        · exact .inr (.inl same.symm)
        · exact .inl later
        · exact .inr (.inr old)

theorem lookup_writeRows_of_not_mem {convs : List Conversation} {convId : String}
    (rows : KeyTable String ConversationRow)
    (absent : ∀ conv ∈ convs, conv.convId ≠ convId) :
    (writeRows convs rows).lookup convId = rows.lookup convId := by
  induction convs generalizing rows with
  | nil => rfl
  | cons conv rest ih =>
      have other : convId ≠ conv.convId := (absent conv List.mem_cons_self).symm
      have unchanged := ih (rows.write conv.convId conv.toRow)
        fun later member => absent later (List.mem_cons_of_mem conv member)
      exact unchanged.trans (by rw [KeyTable.lookup_write, if_neg other])

/-- A row found after the writing is that of a record or was there before. -/
theorem lookup_writeRows_cases {convs : List Conversation} {convId : String}
    {row : ConversationRow} (rows : KeyTable String ConversationRow)
    (found : (writeRows convs rows).lookup convId = some row) :
    (∃ conv ∈ convs, conv.convId = convId ∧ row = conv.toRow) ∨ rows.lookup convId = some row := by
  induction convs generalizing rows with
  | nil => exact .inr found
  | cons conv rest ih =>
      rcases ih (rows.write conv.convId conv.toRow) found with ⟨other, member, isRow⟩ | earlier
      · exact .inl ⟨other, List.mem_cons_of_mem conv member, isRow⟩
      · rw [KeyTable.lookup_write] at earlier
        split at earlier
        · next same =>
            exact .inl ⟨conv, List.mem_cons_self, same.symm, (Option.some.inj earlier).symm⟩
        · exact .inr earlier

/-- Records with distinct ids all find their own row. -/
theorem lookup_writeRows_of_mem {convs : List Conversation}
    (rows : KeyTable String ConversationRow)
    (distinct : (convs.map Conversation.convId).Nodup) {conv : Conversation}
    (member : conv ∈ convs) : (writeRows convs rows).lookup conv.convId = some conv.toRow := by
  induction convs generalizing rows with
  | nil => exact absurd member List.not_mem_nil
  | cons first rest ih =>
      rw [List.map_cons, List.nodup_cons] at distinct
      rcases List.mem_cons.mp member with rfl | later
      · have others : ∀ other ∈ rest, other.convId ≠ conv.convId :=
          fun other otherMem same => distinct.1 (List.mem_map.mpr ⟨other, otherMem, same⟩)
        apply (lookup_writeRows_of_not_mem (rows.write conv.convId conv.toRow) others).trans
        rw [KeyTable.lookup_write, if_pos rfl]
      · exact ih _ distinct.2 later

/-! ## Preservation -/

section Preservation

variable {Related : Conversation → ConversationRow → Prop} {stores : ConversationStores}

/-- A record goes into the cache while its row is written. -/
theorem Linked.upsert (linked : Linked Related stores) {conv : Conversation}
    (idNulFree : NulFree conv.convId) {rows : KeyTable String ConversationRow}
    {row : ConversationRow} (written : rows.lookup conv.convId = some row)
    (related : Related conv row)
    (others : ∀ convId, convId ≠ conv.convId → rows.lookup convId = stores.rows.lookup convId) :
    Linked Related ⟨rows, stores.cache.upsert conv⟩ where
  distinct := ConversationCache.nodup_ids_upsert linked.distinct
  linked := by
    intro cached member
    rcases ConversationCache.mem_upsert_of_nodup linked.distinct member with rfl | ⟨old, other⟩
    · exact ⟨row, written, related⟩
    · rcases linked.linked cached old with ⟨oldRow, found, oldRelated⟩
      exact ⟨oldRow, (others cached.convId other).trans found, oldRelated⟩
  nulFree := by
    intro convId member
    by_cases same : convId = conv.convId
    · exact same ▸ idNulFree
    · apply linked.nulFree convId
      rw [KeyTable.mem_iff_exists_lookup] at member ⊢
      rwa [others convId same] at member

theorem Linked.raise (stable : StableLink Related) (linked : Linked Related stores)
    (convId : String) (seq : Int64) :
    Linked Related ((StoreOp.raise convId seq).apply stores) := by
  let raisedRows := stores.rows.update convId fun row =>
    { row with localSeq := max row.localSeq seq }
  have others : ∀ otherId, otherId ≠ convId →
      raisedRows.lookup otherId = stores.rows.lookup otherId :=
    fun otherId other => by rw [KeyTable.lookup_update, if_neg other]
  have raised : ∀ row, stores.rows.lookup convId = some row →
      raisedRows.lookup convId = some { row with localSeq := max row.localSeq seq } :=
    fun row found => by rw [KeyTable.lookup_update, if_pos rfl, found]; rfl
  have nulFree : ∀ otherId ∈ raisedRows, NulFree otherId :=
    fun otherId member => linked.nulFree otherId (KeyTable.mem_update.mp member)
  change Linked Related ⟨raisedRows, stores.cache.raise convId seq⟩
  rw [ConversationCache.raise]
  cases found : stores.cache.get convId with
  | none =>
      refine ⟨linked.distinct, fun cached member => ?_, nulFree⟩
      have other := ConversationCache.get_eq_none_iff.mp found cached member
      rw [others cached.convId other]
      exact linked.linked cached member
  | some conv =>
      have same := ConversationCache.get_convId found
      rcases linked.linked conv (ConversationCache.get_mem found) with ⟨row, rowFound, related⟩
      rw [same] at rowFound
      by_cases smaller : conv.localSeq < seq
      · simp only [if_pos smaller]
        refine linked.upsert ?_ ?_ (stable.raise conv row seq related smaller) ?_
        · exact same ▸ linked.nulFree convId (KeyTable.mem_iff_exists_lookup.mpr ⟨row, rowFound⟩)
        · exact same ▸ raised row rowFound
        · exact fun otherId other => others otherId (same ▸ other)
      · simp only [if_neg smaller]
        refine ⟨linked.distinct, fun cached member => ?_, nulFree⟩
        by_cases cachedSame : cached.convId = convId
        · have first := (ConversationCache.get_eq_some_iff_of_nodup linked.distinct).mpr
            ⟨member, cachedSame⟩
          obtain rfl := Option.some.inj (found.symm.trans first)
          exact ⟨_, cachedSame ▸ raised row rowFound, stable.keep conv row seq related smaller⟩
        · rw [others cached.convId cachedSame]
          exact linked.linked cached member

theorem Linked.clearUnread (stable : StableLink Related) (linked : Linked Related stores)
    (convId : String) : Linked Related ((StoreOp.clearUnread convId).apply stores) where
  distinct := ConversationCache.nodup_ids_clearUnread linked.distinct
  linked := by
    intro cached member
    rcases ConversationCache.mem_modifyFirst_of_nodup linked.distinct member with
      ⟨old, oldMem, same, rfl⟩ | ⟨oldMem, other⟩
    · rcases linked.linked old oldMem with ⟨row, found, related⟩
      refine ⟨{ row with unreadCount := 0 }, ?_, stable.clearUnread old row related⟩
      simp only [StoreOp.apply, KeyTable.lookup_update, ← same, found]
      rfl
    · rcases linked.linked cached oldMem with ⟨row, found, related⟩
      exact ⟨row, by simp only [StoreOp.apply, KeyTable.lookup_update, if_neg other, found],
        related⟩
  nulFree otherId member := linked.nulFree otherId (KeyTable.mem_update.mp member)

theorem Linked.remove (linked : Linked Related stores) (convId : String) (referenced : Bool) :
    Linked Related ((StoreOp.remove convId referenced).apply stores) where
  distinct := ConversationCache.nodup_ids_remove linked.distinct
  linked := by
    intro cached member
    rcases ConversationCache.mem_remove.mp member with ⟨oldMem, other⟩
    rcases linked.linked cached oldMem with ⟨row, found, related⟩
    refine ⟨row, ?_, related⟩
    cases referenced with
    | true => exact found
    | false =>
        simp only [StoreOp.apply, Bool.false_eq_true, if_false, KeyTable.lookup_erase_eq_ite,
          if_neg other, found]
  nulFree := by
    intro otherId member
    cases referenced with
    | true => exact linked.nulFree otherId member
    | false => exact linked.nulFree otherId (AList.mem_erase.mp member).2

theorem Linked.load (stable : StableLink Related) (linked : Linked Related stores)
    {rows : List (String × ConversationRow)} (perm : rows.Perm stores.rows.rows) :
    Linked Related ((StoreOp.load rows).apply stores) := by
  have idNulFree : ∀ row ∈ rows, NulFree row.1 := by
    intro row member
    refine linked.nulFree row.1 (KeyTable.mem_iff_exists_lookup.mpr ⟨row.2, ?_⟩)
    exact KeyTable.lookup_eq_some_iff_mem_rows.mpr (perm.mem_iff.mp member)
  have convId_eq : ∀ row ∈ rows, (rowToConversation (row.2.toRow row.1)).convId = row.1 := by
    intro row member
    rw [rowToConversation_toRow]
    exact cString_eq_self (idNulFree row member)
  constructor
  · apply ConversationCache.nodup_ids_setAll
    rw [List.map_map]
    change (rows.map fun row => (rowToConversation (row.2.toRow row.1)).convId).Nodup
    rw [List.map_congr_left convId_eq]
    exact (perm.map Prod.fst).nodup_iff.mpr stores.rows.nodup_map_fst_rows
  · intro cached member
    rcases List.mem_map.mp (ConversationCache.mem_setAll.mp member) with ⟨row, rowMem, rfl⟩
    rw [convId_eq row rowMem]
    exact ⟨row.2, KeyTable.lookup_eq_some_iff_mem_rows.mpr (perm.mem_iff.mp rowMem),
      stable.load row.1 row.2 (idNulFree row rowMem)⟩
  · exact linked.nulFree

theorem Linked.replace (linked : Linked Related stores) {convs : List Conversation}
    (distinct : (convs.map Conversation.convId).Nodup)
    (related : ∀ conv ∈ convs, NulFree conv.convId ∧ Related conv conv.toRow) :
    Linked Related ((StoreOp.replace convs).apply stores) where
  distinct := ConversationCache.nodup_ids_setAll distinct
  linked := by
    intro cached member
    have listed := ConversationCache.mem_setAll.mp member
    exact ⟨cached.toRow, lookup_writeRows_of_mem _ distinct listed, (related cached listed).2⟩
  nulFree := by
    intro convId member
    rcases (mem_writeRows _ _ _).mp member with ⟨conv, listed, rfl⟩ | old
    · exact (related conv listed).1
    · exact linked.nulFree convId old

/-- Admissible operations keep the stores linked. -/
theorem Linked.apply (stable : StableLink Related) (linked : Linked Related stores)
    {op : StoreOp} (admissible : op.Admissible Related stores) :
    Linked Related (op.apply stores) := by
  cases op with
  | keep => exact linked
  | save conv =>
      refine linked.upsert admissible.1 ?_ admissible.2 fun convId other => ?_
      · rw [KeyTable.lookup_write, if_pos rfl]
      · rw [KeyTable.lookup_write, if_neg other]
  | merge conv =>
      refine linked.upsert admissible.1 ?_ admissible.2 fun convId other => ?_
      · rw [KeyTable.lookup_upsert, if_pos rfl]
      · rw [KeyTable.lookup_upsert, if_neg other]
  | raise convId seq => exact linked.raise stable convId seq
  | clearUnread convId => exact linked.clearUnread stable convId
  | remove convId referenced => exact linked.remove convId referenced
  | load rows => exact linked.load stable admissible
  | replace convs => exact linked.replace admissible.1 admissible.2
  | forget => exact ⟨List.nodup_nil, fun _ member => absurd member List.not_mem_nil, linked.nulFree⟩

end Preservation

/-- A process that has just started has an empty cache. -/
theorem Linked.start {Related : Conversation → ConversationRow → Prop} (platform : Platform)
    (db : Db) (clockReads : Nat) (nulFree : ∀ convId ∈ db.conversations, NulFree convId) :
    Linked Related (Client.start platform db clockReads).stores :=
  ⟨List.nodup_nil, fun _ member => absurd member List.not_mem_nil, nulFree⟩

end AnychatSdk
