import AnychatSdk.ConversationStores

/-!
# The local conversation list

`getConversationList` answers from the cache when it has entries, and otherwise
from the table.  A conversation whose id contains a NUL is listed from the table
under a shorter id.
-/

namespace AnychatSdk

/-- The rows of the table, read back. -/
def readRows (rows : KeyTable String ConversationRow) : List Conversation :=
  rows.rows.map fun row => rowToConversation (row.2.toRow row.1)

namespace Client

/-- What the local part of `getConversationList` answers; empty when there is
nothing to answer with. -/
def localList (client : Client) : List Conversation :=
  client.getConversationList.1.getD []

theorem localList_of_cached {client : Client} (cached : client.convCache.getAll ≠ []) :
    client.localList = client.convCache.getAll := by
  rw [localList, getConversationList, if_pos cached]
  rfl

/-- An empty cache leaves the answer to the table. -/
theorem localList_perm_readRows {client : Client} (cold : client.convCache.getAll = []) :
    client.localList.Perm (readRows client.table.conversations) := by
  have sorted := client.platform.orderByPinned.perm client.table.conversations.rows
  have platform : client.querySync.platform = client.platform := rfl
  rw [localList, getConversationList, if_neg (not_not_intro cold)]
  simp only [table_querySync, platform]
  by_cases stored : client.platform.orderByPinned.sort client.table.conversations.rows = []
  · have noRows : client.table.conversations.rows = [] := by
      rw [stored] at sorted
      exact sorted.symm.eq_nil
    rw [if_neg (not_not_intro stored), readRows, noRows]
    rfl
  · rw [if_pos stored]
    exact sorted.map _

theorem convCache_restart (client : Client) : client.restart.convCache.getAll = [] :=
  rfl

end Client

theorem mem_readRows {rows : KeyTable String ConversationRow} {conv : Conversation} :
    conv ∈ readRows rows ↔
      ∃ convId row, rows.lookup convId = some row ∧
        rowToConversation (row.toRow convId) = conv := by
  simp only [readRows, List.mem_map, Prod.exists, KeyTable.lookup_eq_some_iff_mem_rows]

theorem convId_rowToConversation (convId : String) (row : ConversationRow) :
    (rowToConversation (row.toRow convId)).convId = cString convId := by
  rw [rowToConversation_toRow]

/-- After a restart the rows are listed. -/
theorem Client.mem_localList_restart {client : Client} {conv : Conversation} :
    conv ∈ client.restart.localList ↔
      ∃ convId row, client.table.conversations.lookup convId = some row ∧
        rowToConversation (row.toRow convId) = conv := by
  rw [(localList_perm_readRows client.convCache_restart).mem_iff, mem_readRows, table_restart]

end AnychatSdk
