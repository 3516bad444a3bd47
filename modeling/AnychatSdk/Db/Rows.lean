import AnychatSdk.Db.Schema

/-!
# Query results

A query hands every column over as text: the worker reads it with
`sqlite3_column_text` and copies it as a C string.  Integers come out in
decimal, `NULL` as the empty string, and text is cut at its first NUL.
-/

namespace AnychatSdk

/-- A result row: column names and their text. -/
abbrev Row := List (String × String)

/-- What `stepAll` stores for a text column. -/
def columnText (value : Option String) : String :=
  cString (value.getD "")

theorem columnText_some (text : String) : columnText (some text) = cString text :=
  rfl

theorem columnText_none : columnText none = "" := by
  decide

namespace Row

/-- A column by name, or the empty string when the row lacks it. -/
def text (row : Row) (name : String) : String :=
  (row.lookup name).getD ""

/-- A column read as an integer; anything that is not a number counts as 0. -/
def int (row : Row) (name : String) : Int64 :=
  match row.lookup name with
  | none => 0
  | some text => if text = "" then 0 else (stoll text).getD 0

end Row

/-- A row of `SELECT conv_id, conv_type, ..., updated_at_ms FROM conversations`. -/
def ConversationRow.toRow (convId : String) (row : ConversationRow) : Row :=
  [("conv_id", columnText (some convId)),
   ("conv_type", columnText (some row.convType)),
   ("target_id", columnText (some row.targetId)),
   ("last_msg_id", columnText row.lastMsgId),
   ("last_msg_text", columnText (some row.lastMsgText)),
   ("last_msg_time_ms", toString row.lastMsgTimeMs),
   ("unread_count", toString row.unreadCount),
   ("is_pinned", toString row.isPinned),
   ("is_muted", toString row.isMuted),
   ("burn_after_reading", toString row.burnAfterReading),
   ("auto_delete_duration", toString row.autoDeleteDuration),
   ("pin_time_ms", toString row.pinTimeMs),
   ("local_seq", toString row.localSeq),
   ("updated_at_ms", toString row.updatedAtMs)]

/-- A row of `SELECT conv_id, conv_type, local_seq FROM conversations`. -/
def ConversationRow.toSeqRow (convId : String) (row : ConversationRow) : Row :=
  [("conv_id", columnText (some convId)),
   ("conv_type", columnText (some row.convType)),
   ("local_seq", toString row.localSeq)]

/-- A row of `SELECT local_id, conv_id, conv_type, content_type, content FROM
outbound_queue`. -/
def OutboundRow.toRow (localId : String) (row : OutboundRow) : Row :=
  [("local_id", columnText (some localId)),
   ("conv_id", columnText (some row.convId)),
   ("conv_type", columnText (some row.convType)),
   ("content_type", toString row.contentType),
   ("content", columnText (some row.content))]

/-- `Database::getMeta`: the value of a key, or the default when it has no row. -/
def Db.getMeta (db : Db) (key default : String) : String :=
  match db.metadata.lookup key with
  | none => default
  | some value => columnText (some value)

/-- A value that was written reads back as a C string; other keys are untouched. -/
theorem Db.getMeta_setMeta (db : Db) (key value other default : String) :
    ((Stmt.setMeta key value).run db).getMeta other default =
      if other = key then cString value else db.getMeta other default := by
  rw [getMeta, Stmt.run]
  simp only [KeyTable.lookup_upsert]
  by_cases same : other = key
  · rw [if_pos same, if_pos same]
    cases db.metadata.lookup key <;> rfl
  · rw [if_neg same, if_neg same]
    rfl

/-- The decimal text of an integer is never empty. -/
theorem toString_int64_ne_empty (value : Int64) : toString value ≠ "" := by
  intro empty
  have roundTrip := stoll_toString value
  have noNumber : stoll "" = none := by decide
  rw [empty, noNumber] at roundTrip
  exact nomatch roundTrip

/-- An integer column reads back as the integer stored in it. -/
theorem Row.int_of_lookup {row : Row} {name : String} {value : Int64}
    (found : row.lookup name = some (toString value)) : row.int name = value := by
  rw [Row.int, found]
  simp [toString_int64_ne_empty]

end AnychatSdk
