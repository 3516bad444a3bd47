import AnychatSdk.ConversationLists
import AnychatSdk.SyncedConversationCache

/-!
# The order of the conversation list

The SELECT sorts by the pinned flag, the pin time and the time of the last
message; the cache looks at the pin time of pinned conversations only, and at the
flag only as far as it is set or not.  The list read from the database stays as it
is in the cache as long as no two rows make that difference.
-/

namespace AnychatSdk

open ConversationCache (sortKey Precedes sort_eq_self_iff)

/-- The columns of two rows do not tell the two orders apart. -/
structure ConversationRow.SortsAlike (first second : ConversationRow) : Prop where
  unpinned : first.isPinned = 0 → second.isPinned = 0 → second.pinTimeMs < first.pinTimeMs →
    second.lastMsgTimeMs ≤ first.lastMsgTimeMs
  pinned : first.isPinned ≠ 0 → second.isPinned ≠ 0 → second.isPinned < first.isPinned →
    second.pinTimeMs ≤ first.pinTimeMs
  flag : first.isPinned = 0 → second.isPinned ≠ 0 → 0 ≤ second.isPinned

/-- What the cache compares of a row that was read back. -/
def ConversationRow.sortKey (row : ConversationRow) : Bool × Int64 :=
  (row.isPinned ≠ 0, if row.isPinned ≠ 0 then row.pinTimeMs else row.lastMsgTimeMs)

theorem sortKey_rowToConversation (convId : String) (row : ConversationRow) :
    sortKey (rowToConversation (row.toRow convId)) = row.sortKey := by
  rw [rowToConversation_toRow]
  simp [sortKey, ConversationRow.sortKey]

/-- A row that the SELECT puts first stays first in the cache exactly when the
columns agree. -/
theorem ConversationRow.precedes_of_pinnedOrder_iff (first second : String × ConversationRow) :
    (PinnedOrder first second → Precedes first.2.sortKey second.2.sortKey) ↔
      first.2.SortsAlike second.2 := by
  rcases first with ⟨_, first⟩
  rcases second with ⟨_, second⟩
  simp only [PinnedOrder, OrderBy.DescendingThen, OrderBy.AllTied, Precedes, sortKey]
  constructor
  · intro precedes
    constructor
    · intro firstPlain secondPlain later
      simpa [firstPlain, secondPlain] using precedes (.inr ⟨by rw [firstPlain, secondPlain],
        .inl later⟩)
    · intro firstPinned secondPinned greater
      simpa [firstPinned, secondPinned] using precedes (.inl greater)
    · intro firstPlain secondPinned
      by_contra negative
      have less : second.isPinned < first.isPinned := by
        rw [firstPlain]
        exact Int64.not_le.mp negative
      simpa [firstPlain, secondPinned] using precedes (.inl less)
  · intro alike ordered
    by_cases firstPlain : first.isPinned = 0
    · by_cases secondPlain : second.isPinned = 0
      · have times : second.lastMsgTimeMs ≤ first.lastMsgTimeMs := by
          rcases ordered with less | ⟨_, later | ⟨_, later | ⟨same, _⟩⟩⟩
          · rw [firstPlain, secondPlain] at less
            exact absurd less Int64.lt_irrefl
          · exact alike.unpinned firstPlain secondPlain later
          · exact Int64.le_of_lt later
          · exact Int64.le_of_eq same.symm
        simpa [firstPlain, secondPlain] using times
      · have positive := alike.flag firstPlain secondPlain
        rcases ordered with less | ⟨same, _⟩
        · rw [firstPlain] at less
          exact absurd positive (Int64.not_le.mpr less)
        · exact absurd (same.symm.trans firstPlain) secondPlain
    · by_cases secondPlain : second.isPinned = 0
      · simp [firstPlain, secondPlain]
      · have times : second.pinTimeMs ≤ first.pinTimeMs := by
          rcases ordered with less | ⟨_, later | ⟨same, _⟩⟩
          · exact alike.pinned firstPlain secondPlain less
          · exact Int64.le_of_lt later
          · exact Int64.le_of_eq same.symm
        simpa [firstPlain, secondPlain] using times

/-- Rows that the SELECT leaves tied are tied in the cache. -/
theorem ConversationRow.precedes_of_tied {first second : String × ConversationRow}
    (before : PinnedOrder first second) (after : PinnedOrder second first) :
    Precedes first.2.sortKey second.2.sortKey := by
  rcases before.tied after with ⟨sameFlag, before, after⟩
  rcases before.tied after with ⟨samePin, before, after⟩
  rcases before.tied after with ⟨sameTime, _⟩
  have sameKey : first.2.sortKey = second.2.sortKey := by
    rw [ConversationRow.sortKey, ConversationRow.sortKey, sameFlag, samePin, sameTime]
  rw [sameKey]
  exact .inr ⟨rfl, Int64.le_refl _⟩

/-! ## Two calls in a row -/

namespace Client

/-- The list that is read from the database is the list that the next call
returns from the cache, and it is in the documented order. -/
def ListKeepsOrder (client : Client) : Prop :=
  ∀ convs, client.getConversationList.1 = some convs →
    client.getConversationList.2.getConversationList.1 = some convs ∧
      (convs.map sortKey).Pairwise Precedes

/-- The rows of the table in the order of the SELECT, read back. -/
def listedRows (client : Client) : List Conversation :=
  (client.platform.orderByPinned.sort client.table.conversations.rows).map fun row =>
    rowToConversation (row.2.toRow row.1)

theorem pairwise_listedRows_iff (client : Client) :
    (client.listedRows.map sortKey).Pairwise Precedes ↔
      ∀ first ∈ client.table.conversations.rows, ∀ second ∈ client.table.conversations.rows,
        first.2.SortsAlike second.2 := by
  have sorted := client.platform.orderByPinned.pairwise_sort_iff
    fun (first : String × ConversationRow) (_ : first ∈ client.table.conversations.rows)
      (second : String × ConversationRow) (_ : second ∈ client.table.conversations.rows) =>
        ConversationRow.precedes_of_tied
  rw [listedRows, List.map_map, List.pairwise_map]
  simp only [Function.comp_apply, sortKey_rowToConversation]
  rw [sorted]
  constructor
  · intro precedes first firstMem second secondMem
    exact (ConversationRow.precedes_of_pinnedOrder_iff first second).mp
      (precedes first firstMem second secondMem)
  · intro alike first firstMem second secondMem
    exact (ConversationRow.precedes_of_pinnedOrder_iff first second).mpr
      (alike first firstMem second secondMem)

/-- With an empty cache the rows are listed, and cached in the order of the
cache. -/
theorem getConversationList_of_cold {client : Client} (cold : client.convCache.getAll = [])
    (stored : client.listedRows ≠ []) :
    client.getConversationList =
      (some client.listedRows,
        client.querySync.mapConvCache fun _ => .setAll client.listedRows) := by
  have rows : client.platform.orderByPinned.sort client.table.conversations.rows ≠ [] :=
    fun none => stored (by rw [listedRows, none]; rfl)
  rw [getConversationList, if_neg (not_not_intro cold)]
  exact if_pos rows

/-- A warm cache answers for itself. -/
theorem getConversationList_of_warm {client : Client} (warm : client.convCache.getAll ≠ []) :
    client.getConversationList = (some client.convCache.getAll, client) := by
  rw [getConversationList, if_pos warm]

/-- The list keeps its order exactly when no two rows of the table tell the two
orders apart. -/
theorem listKeepsOrder_iff {client : Client} (cold : client.convCache.getAll = []) :
    client.ListKeepsOrder ↔
      ∀ first ∈ client.table.conversations.rows, ∀ second ∈ client.table.conversations.rows,
        first.2.SortsAlike second.2 := by
  rw [← pairwise_listedRows_iff]
  by_cases stored : client.listedRows = []
  · have noAnswer : client.getConversationList.1 = none := by
      rw [getConversationList, if_neg (not_not_intro cold)]
      exact congrArg Prod.fst (if_neg (not_not_intro (List.map_eq_nil_iff.mp stored)))
    refine iff_of_true ?_ (by rw [stored]; exact List.Pairwise.nil)
    intro convs listed
    exact absurd (noAnswer.symm.trans listed) (Option.some_ne_none convs).symm
  · have warm : (ConversationCache.setAll client.listedRows).getAll ≠ [] := by
      intro none
      rcases List.exists_mem_of_ne_nil client.listedRows stored with ⟨conv, member⟩
      have cached : conv ∈ (ConversationCache.setAll client.listedRows).getAll :=
        ConversationCache.mem_setAll.mpr member
      rw [none] at cached
      exact List.not_mem_nil cached
    have next : (client.querySync.mapConvCache fun _ =>
        .setAll client.listedRows).getConversationList.1 =
          some (ConversationCache.sort client.listedRows) := by
      rw [getConversationList_of_warm warm]
      rfl
    rw [ListKeepsOrder, getConversationList_of_cold cold stored, next]
    constructor
    · intro keeps
      exact (keeps client.listedRows rfl).2
    · rintro ordered convs listed
      obtain rfl := Option.some.inj listed
      exact ⟨congrArg some (sort_eq_self_iff.mpr ordered), ordered⟩

/-- A pinned conversation and two others, none of which was unpinned. -/
theorem listKeepsOrder_iff_three_rows :
    let rows : KeyTable String ConversationRow :=
      (((∅ : KeyTable String ConversationRow).insert "c1"
        (Conversation.toRow { isPinned := true, pinTimeMs := 5 })).insert "c2"
          (Conversation.toRow { lastMsgTimeMs := 9 })).insert "c3"
            (Conversation.toRow { lastMsgTimeMs := 7 })
    (Client.start default { conversations := rows } 0).ListKeepsOrder ↔
      ∀ first ∈ rows.rows, ∀ second ∈ rows.rows, first.2.SortsAlike second.2 :=
  listKeepsOrder_iff rfl

/-- A process that finds a conversation which was unpinned but kept its pin time,
and one with a later message. -/
def startUnpinned : Client :=
  .start default
    { conversations := ((∅ : KeyTable String ConversationRow).insert "c1"
        (Conversation.toRow { pinTimeMs := 5, lastMsgTimeMs := 1 })).insert "c2"
          (Conversation.toRow { lastMsgTimeMs := 2 }) } 0

/-- The unpinned conversation comes first until the cache answers. -/
theorem not_listKeepsOrder_unpinned : ¬startUnpinned.ListKeepsOrder := by
  intro keeps
  have stored : startUnpinned.listedRows ≠ [] := fun none =>
    absurd (congrArg List.length none) (by decide)
  have cold : startUnpinned.convCache.getAll = [] := rfl
  have ordered := (keeps _ (congrArg Prod.fst (getConversationList_of_cold cold stored))).2
  rw [pairwise_listedRows_iff] at ordered
  have alike := ordered ("c1", Conversation.toRow { pinTimeMs := 5, lastMsgTimeMs := 1 })
    (by decide) ("c2", Conversation.toRow { lastMsgTimeMs := 2 }) (by decide)
  exact absurd (alike.unpinned rfl rfl (by decide)) (by decide)

end Client

end AnychatSdk
