import AnychatSdk.ConversationRace
import AnychatSdk.SyncClock

/-!
# Effects of operations on conversations

What an operation is to change in a record, and what the record shows afterwards
that its handler makes of a copy.
-/

namespace AnychatSdk

/-! ## What a call is to change -/

/-- The parts of a record that calls change one by one, and the rest of it. -/
inductive ConversationField where
  | pin
  | muted
  | burnAfterReading
  | autoDelete
  | unreadCount
  | localSeq
  | rest
  deriving DecidableEq

/-- Two records have the same in a field. -/
def ConversationField.Same (first second : Conversation) : ConversationField → Prop
  | pin => first.isPinned = second.isPinned ∧ first.pinTimeMs = second.pinTimeMs
  | muted => first.isMuted = second.isMuted
  | burnAfterReading => first.burnAfterReading = second.burnAfterReading
  | autoDelete => first.autoDeleteDuration = second.autoDeleteDuration
  | unreadCount => first.unreadCount = second.unreadCount
  | localSeq => first.localSeq = second.localSeq
  | rest =>
      first.convType = second.convType ∧ first.targetId = second.targetId ∧
        first.lastMsgId = second.lastMsgId ∧ first.lastMsgText = second.lastMsgText ∧
          first.lastMsgTimeMs = second.lastMsgTimeMs

def Setting.field : Setting → ConversationField
  | pinned _ => .pin
  | muted _ => .muted
  | burnAfterReading _ => .burnAfterReading
  | autoDelete _ => .autoDelete

/-- The notification sets the field. -/
def NotificationConversationPayload.Sets (payload : NotificationConversationPayload)
    (notificationType : String) : ConversationField → Prop
  | .pin => payload.isPinned ≠ none ∨ notificationType = "conversation.pin_updated"
  | .muted => payload.isMuted ≠ none
  | .burnAfterReading => payload.burnAfterReading ≠ none
  | .autoDelete => payload.autoDeleteDuration ≠ none
  | .unreadCount => payload.unreadCount ≠ none
  | .localSeq | .rest => False

/-- The record shows the setting; a pinned one has a time of the clock. -/
def Setting.Applied (start : Client) (conv : Conversation) : Setting → Prop
  | pinned value =>
      conv.isPinned = value ∧
        if value then ∃ index, conv.pinTimeMs = start.readings index else conv.pinTimeMs = 0
  | muted value => conv.isMuted = value
  | burnAfterReading duration => conv.burnAfterReading = duration
  | autoDelete duration => conv.autoDeleteDuration = duration

/-- The record shows what the notification carries. -/
structure Patched (notificationType : String) (payload : NotificationConversationPayload)
    (start : Client) (conv : Conversation) : Prop where
  unreadCount : ∀ count ∈ payload.unreadCount, conv.unreadCount = count
  isPinned : ∀ value ∈ payload.isPinned, conv.isPinned = value
  isMuted : ∀ value ∈ payload.isMuted, conv.isMuted = value
  burnAfterReading : ∀ duration ∈ payload.burnAfterReading, conv.burnAfterReading = duration
  autoDelete : ∀ duration ∈ payload.autoDeleteDuration, conv.autoDeleteDuration = duration
  /-- A record that is not pinned has no time, and one that is has, unless the
  clock shows 0. -/
  pinTime : notificationType = "conversation.pin_updated" →
    if conv.isPinned then conv.pinTimeMs = 0 → ∃ index, start.readings index = 0
    else conv.pinTimeMs = 0

namespace ConversationCall

/-- The call is to change the field. -/
def Touches (field : ConversationField) : ConversationCall → Prop
  | set _ setting => field = setting.field
  | markAllRead _ | unreadCount _ _ => field = .unreadCount
  | sequence _ _ => field = .localSeq
  | patch notificationType payload => payload.Sets notificationType field
  | delete _ | list | listResponse _ => False

/-- The call is about the whole list. -/
def Lists : ConversationCall → Prop
  | list | listResponse _ => True
  | _ => False

def Deletes : ConversationCall → Prop
  | delete _ => True
  | _ => False

/-- A notification makes a record where there is none. -/
def Creates : ConversationCall → Prop
  | patch _ _ => True
  | _ => False

/-- The calls are about different conversations, or about different fields of
one. -/
def Disjoint (first second : ConversationCall) : Prop :=
  ∀ convId, first.convId = some convId → second.convId = some convId →
    ¬first.Deletes ∧ ¬second.Deletes ∧ ∀ field, ¬(first.Touches field ∧ second.Touches field)

/-- The record shows the effect of the call. -/
def HeldBy (start : Client) (conv : Conversation) : ConversationCall → Prop
  | set _ setting => setting.Applied start conv
  | markAllRead _ => conv.unreadCount = 0
  | unreadCount _ count => conv.unreadCount = count.toInt32
  | sequence _ seq => seq ≤ conv.localSeq
  | patch notificationType payload => Patched notificationType payload start conv
  | delete _ => False
  | list | listResponse _ => True

/-- What a store has under an id shows the effect of the call: every record there,
and there must be one after a notification. -/
def Shows (start : Client) (convId : String) (content : Option Conversation)
    (call : ConversationCall) : Prop :=
  call.convId = some convId →
    (call.Creates → content ≠ none) ∧ ∀ conv ∈ content, call.HeldBy start conv

/-- A store has every record of a list as it is read from there, but for what this
call changes in it. -/
def Leaves (convId : String) (read : Conversation → Conversation) (convs : List Conversation)
    (content : Option Conversation) (call : ConversationCall) : Prop :=
  call ≠ .delete convId → ∀ conv ∈ convs, conv.convId = convId →
    ∃ shown ∈ content, ∀ field,
      (call.convId = some convId → ¬call.Touches field) → field.Same (read conv) shown

end ConversationCall

/-- The row of a record, read back. -/
def Conversation.readBack (conv : Conversation) : Conversation :=
  rowToConversation (conv.toRow.toRow conv.convId)

namespace CallPoint

/-- The records that fill the cache are there. -/
def ListShown (other : ConversationCall) (convId : String) (content : Option Conversation) :
    CallPoint → Prop
  | loaded convs => other.Leaves convId id convs content
  | _ => True

/-- The rows that were posted for a list are there. -/
def RowsShown (call other : ConversationCall) (convId : String)
    (content : Option Conversation) : CallPoint → Prop
  | storing _ convs => other.Leaves convId Conversation.readBack convs content
  | loading convs | loaded convs =>
      call ≠ .list → other.Leaves convId Conversation.readBack convs content
  | _ => True

end CallPoint

/-- The stored row of a conversation, read back. -/
def Client.stored (convId : String) (client : Client) : Option Conversation :=
  (client.table.conversations.lookup convId).map fun row => rowToConversation (row.toRow convId)

/-! ## The record that a call writes -/

namespace ConversationField

theorem Same.refl (conv : Conversation) (field : ConversationField) : field.Same conv conv := by
  cases field <;> simp [Same]

theorem Same.trans {first second third : Conversation} {field : ConversationField}
    (same : field.Same first second) (next : field.Same second third) :
    field.Same first third := by
  cases field with
  | pin => exact ⟨same.1.trans next.1, same.2.trans next.2⟩
  | rest =>
      rcases same with ⟨convType, targetId, lastMsgId, lastMsgText, lastMsgTime⟩
      rcases next with ⟨nextType, nextTarget, nextMsgId, nextMsgText, nextMsgTime⟩
      exact ⟨convType.trans nextType, targetId.trans nextTarget, lastMsgId.trans nextMsgId,
        lastMsgText.trans nextMsgText, lastMsgTime.trans nextMsgTime⟩
  | muted | burnAfterReading | autoDelete | unreadCount | localSeq => exact Eq.trans same next

/-- A row reads back as the record, except for texts that contain a NUL. -/
theorem Same.readBack {field : ConversationField} (notRest : field ≠ .rest)
    (conv : Conversation) (convId : String) :
    field.Same conv (rowToConversation (conv.toRow.toRow convId)) := by
  rw [rowToConversation_toRow]
  cases field with
  | rest => exact absurd rfl notRest
  | pin | muted | burnAfterReading | autoDelete | unreadCount | localSeq =>
      simp [Same, Conversation.toRow]

end ConversationField

/-- The same process, not earlier. -/
structure Client.Since (start client : Client) : Prop where
  platform : client.platform = start.platform
  clockReads : start.clockReads ≤ client.clockReads

namespace Client.Since

theorem trans {first second third : Client} (since : Since first second)
    (next : Since second third) : Since first third :=
  ⟨next.platform.trans since.platform, since.clockReads.trans next.clockReads⟩

theorem nowMs (client : Client) : Since client client.nowMs.2 :=
  ⟨rfl, Nat.le_succ client.clockReads⟩

theorem exists_reading {start client : Client} (since : Since start client) :
    ∃ index, client.nowMs.1 = start.readings index := by
  refine ⟨client.clockReads - start.clockReads, ?_⟩
  rw [readings, Nat.add_sub_cancel' since.clockReads, ← since.platform]
  rfl

end Client.Since

/-- A handler has read the clock, and nothing else has changed. -/
def Client.Ticked (client next : Client) : Prop :=
  ∃ count, next = { client with clockReads := client.clockReads + count }

namespace Client.Ticked

theorem refl (client : Client) : Ticked client client :=
  ⟨0, rfl⟩

theorem nowMs (client : Client) : Ticked client client.nowMs.2 :=
  ⟨1, rfl⟩

theorem trans {first second third : Client} (ticked : Ticked first second)
    (next : Ticked second third) : Ticked first third := by
  rcases ticked with ⟨count, rfl⟩
  rcases next with ⟨further, rfl⟩
  exact ⟨count + further, by rw [Nat.add_assoc]⟩

theorem since {client next : Client} (ticked : Ticked client next) : Since client next := by
  rcases ticked with ⟨count, rfl⟩
  exact ⟨rfl, Nat.le_add_right _ _⟩

theorem convCache {client next : Client} (ticked : Ticked client next) :
    next.convCache = client.convCache := by
  rcases ticked with ⟨count, rfl⟩
  rfl

theorem table {client next : Client} (ticked : Ticked client next) :
    next.table = client.table := by
  rcases ticked with ⟨count, rfl⟩
  rfl

end Client.Ticked

theorem Client.ticked_patchPinTime (notificationType : String)
    (payload : NotificationConversationPayload) (conv : Conversation) (client : Client) :
    Ticked client (client.patchPinTime notificationType payload conv).2 := by
  rw [patchPinTime]
  split
  · split
    · exact .refl client
    · split
      · exact .nowMs client
      · exact .refl client
  · exact .refl client

theorem Client.ticked_stampUpdated (conv : Conversation) (client : Client) :
    Ticked client (client.stampUpdated conv).2 := by
  rw [stampUpdated]
  split
  · exact .nowMs client
  · exact .refl client

/-- A pin notification sets a pin time of the clock, or none. -/
theorem Client.pinTime_patchPinTime {start client : Client} (since : Since start client)
    (payload : NotificationConversationPayload) {conv : Conversation}
    (flag : payload.isPinned.getD conv.isPinned = conv.isPinned) :
    if conv.isPinned then
      (client.patchPinTime "conversation.pin_updated" payload conv).1.pinTimeMs = 0 →
        ∃ index, start.readings index = 0
    else (client.patchPinTime "conversation.pin_updated" payload conv).1.pinTimeMs = 0 := by
  rw [patchPinTime, if_pos rfl, flag]
  cases pinned : conv.isPinned with
  | false => simp
  | true =>
      by_cases unset : conv.pinTimeMs = 0
      · rcases since.exists_reading with ⟨index, reading⟩
        simp only [Bool.true_eq_false, unset, if_true, if_false]
        exact fun zero => ⟨index, reading.symm.trans zero⟩
      · simp [unset]

theorem Client.patchPinTime_of_ne {notificationType : String}
    (other : notificationType ≠ "conversation.pin_updated")
    (payload : NotificationConversationPayload) (conv : Conversation) (client : Client) :
    client.patchPinTime notificationType payload conv = (conv, client) := by
  rw [patchPinTime, if_neg other]

/-- What a handler makes of its copy: the record differs from it in the fields of
the call only, and shows its effect. -/
structure ConversationCall.Changed (start : Client) (copy : Option Conversation) (client : Client)
    (conv : Conversation) (next : Client) (call : ConversationCall) : Prop where
  ticked : client.Ticked next
  convId : (∀ old ∈ copy, call.convId = some old.convId) → call.convId = some conv.convId
  same : ∀ field, ¬call.Touches field → field.Same (copy.getD {}) conv
  held : call.HeldBy start conv

theorem Setting.changed_change {start client : Client} (since : Client.Since start client)
    (convId : String) (conv : Conversation) (setting : Setting) :
    (ConversationCall.set convId setting).Changed start (some conv) client
      (setting.change conv client).1 (setting.change conv client).2 := by
  have untouched (field : ConversationField) (differs : field ≠ setting.field) :
      field.Same conv (setting.change conv client).1 := by
    cases setting with
    | pinned value =>
        cases field with
        | pin => exact absurd rfl differs
        | rest => exact ⟨rfl, rfl, rfl, rfl, rfl⟩
        | muted | burnAfterReading | autoDelete | unreadCount | localSeq => rfl
    | muted | burnAfterReading | autoDelete =>
        cases field <;>
          first
          | exact absurd rfl differs
          | simp [ConversationField.Same, change, Client.stamp]
  constructor
  case same => exact untouched
  case convId =>
    intro same
    rw [same conv rfl]
    cases setting <;> rfl
  case ticked =>
    cases setting with
    | pinned value =>
        cases value with
        | true => exact (Client.Ticked.nowMs client).trans (.nowMs _)
        | false => exact .nowMs client
    | muted | burnAfterReading | autoDelete => exact .nowMs client
  case held =>
    cases setting with
    | pinned value =>
        cases value with
        | true => exact ⟨rfl, since.exists_reading⟩
        | false => exact ⟨rfl, rfl⟩
    | muted | burnAfterReading | autoDelete => rfl

namespace ConversationCall

/-- The record of a notification, up to its times. -/
theorem patched_patchedCopy {start client : Client} (since : Client.Since start client)
    (notificationType : String) (payload : NotificationConversationPayload)
    (copy : Option Conversation) (updatedAt : Int64) :
    Patched notificationType payload start
      { (client.patchPinTime notificationType payload (patchedCopy payload copy)).1 with
        updatedAtMs := updatedAt } := by
  rcases Client.patchPinTime_fst notificationType payload (patchedCopy payload copy) client with
    ⟨pinTime, timed⟩
  rw [timed]
  constructor
  case pinTime =>
    rintro rfl
    have flag : payload.isPinned.getD (patchedCopy payload copy).isPinned =
        (patchedCopy payload copy).isPinned := by
      cases listed : payload.isPinned <;> simp [patchedCopy, applyNotificationPatch, listed]
    have timing := Client.pinTime_patchPinTime since payload flag
    rw [timed] at timing
    exact timing
  all_goals
    intro value listed
    simp [patchedCopy, applyNotificationPatch, Option.mem_def.mp listed]

theorem same_patchedCopy {client : Client} {notificationType : String}
    {payload : NotificationConversationPayload} (copy : Option Conversation) (updatedAt : Int64)
    {field : ConversationField} (unset : ¬payload.Sets notificationType field) :
    field.Same (copy.getD {})
      { (client.patchPinTime notificationType payload (patchedCopy payload copy)).1 with
        updatedAtMs := updatedAt } := by
  rcases Client.patchPinTime_fst notificationType payload (patchedCopy payload copy) client with
    ⟨pinTime, timed⟩
  cases field with
  | pin =>
      rcases not_or.mp unset with ⟨unpinned, other⟩
      rw [Client.patchPinTime_of_ne other]
      simp [ConversationField.Same, patchedCopy, applyNotificationPatch, not_not.mp unpinned]
  | muted | burnAfterReading | autoDelete | unreadCount =>
      rw [timed]
      simp [ConversationField.Same, patchedCopy, applyNotificationPatch, not_not.mp unset]
  | localSeq =>
      rw [timed]
      rfl
  | rest =>
      rw [timed]
      exact ⟨rfl, rfl, rfl, rfl, rfl⟩

theorem changed_patch {start client : Client} (since : Client.Since start client)
    (notificationType : String) (payload : NotificationConversationPayload)
    (copy : Option Conversation) {conv : Conversation} {next : Client}
    (made : (patch notificationType payload).change copy client = some (conv, next)) :
    (patch notificationType payload).Changed start copy client conv next := by
  have stamped := Prod.mk.inj (Option.some.inj made)
  rcases Client.stampUpdated_fst
    (client.patchPinTime notificationType payload (patchedCopy payload copy)).1
    (client.patchPinTime notificationType payload (patchedCopy payload copy)).2 with
    ⟨updatedAt, stamp⟩
  obtain rfl := stamp.symm.trans stamped.1
  constructor
  case ticked =>
    rw [← stamped.2]
    exact (client.ticked_patchPinTime _ _ _).trans (Client.ticked_stampUpdated _ _)
  case convId =>
    intro _
    rcases Client.patchPinTime_fst notificationType payload (patchedCopy payload copy) client with
      ⟨pinTime, timed⟩
    rw [timed]
    by_cases named : notificationConversationId payload = "" <;>
      simp [ConversationCall.convId, patchedCopy, applyNotificationPatch, named]
  case same => exact fun field unset => same_patchedCopy copy updatedAt unset
  case held => exact patched_patchedCopy since notificationType payload copy updatedAt

/-- A call that writes a record. -/
theorem changed_of_change {start client : Client}
    (since : Client.Since start client) (call : ConversationCall) {copy : Option Conversation}
    {conv : Conversation} {next : Client} (made : call.change copy client = some (conv, next)) :
    call.Changed start copy client conv next := by
  cases call with
  | set convId setting =>
      rcases Option.map_eq_some_iff.mp made with ⟨old, rfl, changed⟩
      have spec := setting.changed_change since convId old
      rw [changed] at spec
      exact spec
  | unreadCount convId count =>
      rcases Option.map_eq_some_iff.mp made with ⟨old, rfl, changed⟩
      obtain ⟨rfl, rfl⟩ := Prod.mk.inj changed
      refine ⟨.refl client, fun same => same old rfl, fun field differs => ?_, rfl⟩
      cases field <;> first | exact absurd rfl differs | simp [ConversationField.Same]
  | sequence convId seq =>
      rcases Option.bind_eq_some_iff.mp made with ⟨old, rfl, changed⟩
      split at changed
      · obtain ⟨rfl, rfl⟩ := Prod.mk.inj (Option.some.inj changed)
        refine ⟨.refl client, fun same => same old rfl, fun field differs => ?_,
          Int64.le_refl seq⟩
        cases field <;> first | exact absurd rfl differs | simp [ConversationField.Same]
      · exact absurd changed.symm (Option.some_ne_none _)
  | patch notificationType payload => exact changed_patch since notificationType payload copy made
  | markAllRead | delete | list | listResponse => exact absurd made.symm (Option.some_ne_none _)

end ConversationCall

/-! ## What is left of the other's effect -/

namespace ConversationCall

theorem HeldBy.congr {start : Client} {first second : Conversation} {call : ConversationCall}
    (held : call.HeldBy start first)
    (same : ∀ field, call.Touches field → field.Same first second) :
    call.HeldBy start second := by
  cases call with
  | set convId setting =>
      have agree := same setting.field rfl
      cases setting with
      | pinned value =>
          rcases held with ⟨flag, time⟩
          refine ⟨agree.1.symm.trans flag, ?_⟩
          rw [← agree.2]
          exact time
      | muted | burnAfterReading | autoDelete => exact agree.symm.trans held
  | markAllRead | unreadCount => exact (same .unreadCount rfl).symm.trans held
  | sequence convId seq =>
      have agree : first.localSeq = second.localSeq := same .localSeq rfl
      exact Int64.le_trans held (agree ▸ Int64.le_refl _)
  | patch notificationType payload =>
      have set {α : Type} {value : α} {field : Option α} (listed : value ∈ field) :
          field ≠ none :=
        fun unset => Option.some_ne_none value (listed.symm.trans unset)
      constructor
      case unreadCount =>
        exact fun count listed =>
          (same .unreadCount (set listed)).symm.trans (held.unreadCount count listed)
      case isPinned =>
        exact fun value listed =>
          (same .pin (.inl (set listed))).1.symm.trans (held.isPinned value listed)
      case isMuted =>
        exact fun value listed =>
          (same .muted (set listed)).symm.trans (held.isMuted value listed)
      case burnAfterReading =>
        exact fun duration listed =>
          (same .burnAfterReading (set listed)).symm.trans (held.burnAfterReading duration listed)
      case autoDelete =>
        exact fun duration listed =>
          (same .autoDelete (set listed)).symm.trans (held.autoDelete duration listed)
      case pinTime =>
        intro pins
        have agree := same .pin (.inr pins)
        rw [← agree.1, ← agree.2]
        exact held.pinTime pins
  | delete => exact held.elim
  | list | listResponse => trivial

theorem ne_rest_of_touches {call : ConversationCall} {field : ConversationField}
    (touches : call.Touches field) : field ≠ .rest := by
  rintro rfl
  cases call with
  | set convId setting => cases setting <;> exact ConversationField.noConfusion touches
  | markAllRead | unreadCount | sequence => exact ConversationField.noConfusion touches
  | patch | delete | list | listResponse => exact touches

/-- What a record shows, its row shows. -/
theorem HeldBy.readBack {start : Client} {conv : Conversation} {call : ConversationCall}
    (held : call.HeldBy start conv) (convId : String) :
    call.HeldBy start (rowToConversation (conv.toRow.toRow convId)) :=
  held.congr fun _ touches => .readBack (ne_rest_of_touches touches) conv convId

/-- A list changes no conversation by itself. -/
theorem Lists.shows {call : ConversationCall} (lists : call.Lists) {start : Client}
    (convId : String) (content : Option Conversation) : call.Shows start convId content := by
  cases call with
  | list | listResponse => exact fun about => absurd about.symm (Option.some_ne_none convId)
  | set | markAllRead | unreadCount | sequence | patch | delete => exact lists.elim

/-- The contents differ in fields of the call only. -/
def Untouched (call : ConversationCall) (before after : Option Conversation) : Prop :=
  Option.Rel (fun first second => ∀ field, ¬call.Touches field → field.Same first second)
    before after

theorem Untouched.map {call : ConversationCall} {change : Conversation → Conversation}
    (same : ∀ conv field, ¬call.Touches field → field.Same conv (change conv))
    (content : Option Conversation) : call.Untouched content (content.map change) := by
  cases content with
  | none => exact .none
  | some conv => exact .some (same conv)

theorem Shows.of_untouched {start : Client} {call mover : ConversationCall} {convId : String}
    {before after : Option Conversation} (disjoint : call.Disjoint mover)
    (about : mover.convId = some convId) (untouched : mover.Untouched before after)
    (shows : call.Shows start convId before) : call.Shows start convId after := by
  intro aboutCall
  rcases disjoint convId aboutCall about with ⟨_, _, apart⟩
  rcases shows aboutCall with ⟨present, held⟩
  cases untouched with
  | none => exact ⟨present, held⟩
  | some same =>
      refine ⟨fun _ => Option.some_ne_none _, fun conv listed => ?_⟩
      obtain rfl := Option.some.inj listed
      exact (held _ rfl).congr fun field touches =>
        same field fun moves => apart field ⟨touches, moves⟩

/-- The statement a call posts for its conversation. -/
def Posts (start : Client) (call : ConversationCall) : Stmt → Prop
  | .upsertConversation convId row =>
      call.convId = some convId ∧ call.HeldBy start (rowToConversation (row.toRow convId))
  | .clearUnread convId => call = .markAllRead convId
  | .deleteConversation convId => call = .delete convId
  | .raiseLocalSeq convId seq => call = .sequence convId seq
  | _ => False

theorem Shows.of_held {start : Client} {call : ConversationCall}
    {conv : Conversation} (held : call.HeldBy start conv) (convId : String) :
    call.Shows start convId (some conv) := by
  refine fun _ => ⟨fun _ => Option.some_ne_none conv, fun record listed => ?_⟩
  obtain rfl := Option.some.inj listed
  exact held

theorem write_of_change {call : ConversationCall} {copy : Option Conversation}
    {client next : Client} {conv : Conversation}
    (made : call.change copy client = some (conv, next)) :
    call.write copy client =
      (.posting (.upsertConversation conv.convId conv.toRow),
        next.mapConvCache (·.upsert conv)) := by
  unfold write
  rw [made]

/-- A call without a record to write leaves the cache, and posts at most a number
for the row. -/
theorem write_of_not_change {call : ConversationCall}
    {copy : Option Conversation} {client : Client} (notDeletes : ¬call.Deletes)
    (unmade : call.change copy client = none) :
    call.write copy client = (.returned, client) ∨
      ∃ convId seq, call = .sequence convId seq ∧
        call.write copy client = (.posting (.raiseLocalSeq convId seq), client) := by
  unfold write
  rw [unmade]
  cases call with
  | delete => exact absurd trivial notDeletes
  | sequence convId seq =>
      cases copy with
      | none =>
          by_cases positive : 0 < seq
          · exact .inr ⟨convId, seq, rfl, Prod.ext (if_pos positive) rfl⟩
          · exact .inl (Prod.ext (if_neg positive) rfl)
      | some conv => exact .inl rfl
  | set | markAllRead | unreadCount | patch | list | listResponse => exact .inl rfl

theorem Leaves.of_untouched {mover : ConversationCall} {convId : String}
    {read : Conversation → Conversation} {convs : List Conversation}
    {before after : Option Conversation} (about : mover.convId = some convId)
    (untouched : mover.Untouched before after) (leaves : mover.Leaves convId read convs before) :
    mover.Leaves convId read convs after := by
  intro notDeleted conv member same
  rcases leaves notDeleted conv member same with ⟨shown, listed, agree⟩
  cases untouched with
  | none => exact absurd listed (Option.not_mem_none _)
  | some kept =>
      obtain rfl := Option.some.inj listed
      exact ⟨_, rfl, fun field unset => (agree field unset).trans (kept field (unset about))⟩

/-- Nothing of a list is left where the conversation is deleted. -/
theorem leaves_delete (convId : String) (read : Conversation → Conversation)
    (convs : List Conversation) (content : Option Conversation) :
    (delete convId).Leaves convId read convs content :=
  fun others => absurd rfl others

/-- One more record of the list. -/
theorem Leaves.concat {call : ConversationCall} {convId : String}
    {read : Conversation → Conversation} {convs : List Conversation} {conv : Conversation}
    {content : Option Conversation}
    (earlier : convId ≠ conv.convId → call.Leaves convId read convs content)
    (fresh : conv.convId ∉ convs.map Conversation.convId)
    (here : convId = conv.convId → content = some (read conv)) :
    call.Leaves convId read (convs ++ [conv]) content := by
  intro notDeleted record member same
  rcases List.mem_append.mp member with listed | last
  · have different : convId ≠ conv.convId := by
      rintro rfl
      exact fresh (List.mem_map.mpr ⟨record, listed, same⟩)
    exact earlier different notDeleted record listed same
  · obtain rfl := List.mem_singleton.mp last
    exact ⟨read record, here same.symm, fun field _ => .refl _ field⟩

end ConversationCall

namespace CallPoint

theorem ListShown.of_untouched {point : CallPoint} {mover : ConversationCall}
    {convId : String} {before after : Option Conversation} (about : mover.convId = some convId)
    (untouched : mover.Untouched before after) (shown : point.ListShown mover convId before) :
    point.ListShown mover convId after := by
  cases point with
  | loaded convs => exact ConversationCall.Leaves.of_untouched about untouched shown
  | _ => trivial

theorem RowsShown.of_untouched {point : CallPoint} {call mover : ConversationCall}
    {convId : String} {before after : Option Conversation} (about : mover.convId = some convId)
    (untouched : mover.Untouched before after)
    (shown : point.RowsShown call mover convId before) :
    point.RowsShown call mover convId after := by
  cases point with
  | storing payloads convs => exact ConversationCall.Leaves.of_untouched about untouched shown
  | loading convs | loaded convs =>
      exact fun answered => (shown answered).of_untouched about untouched
  | _ => trivial

theorem listShown_delete (convId : String) (content : Option Conversation) (point : CallPoint) :
    point.ListShown (.delete convId) convId content := by
  cases point with
  | loaded convs => exact ConversationCall.leaves_delete convId _ convs content
  | _ => trivial

theorem rowsShown_delete (call : ConversationCall) (convId : String)
    (content : Option Conversation) (point : CallPoint) :
    point.RowsShown call (.delete convId) convId content := by
  cases point with
  | storing payloads convs => exact ConversationCall.leaves_delete convId _ convs content
  | loading convs | loaded convs =>
      exact fun _ => ConversationCall.leaves_delete convId _ convs content
  | _ => trivial

end CallPoint

/-! ## Stored rows -/

namespace Client

variable (client : Client) (key convId : String)

theorem stored_exec_upsertConversation (row : ConversationRow) :
    (client.exec (.upsertConversation key row)).stored convId =
      if convId = key then some (rowToConversation (row.toRow convId))
      else client.stored convId := by
  have rows : (client.exec (.upsertConversation key row)).table.conversations =
      client.table.conversations.write key row := by rw [table_exec]; rfl
  rw [stored, rows, KeyTable.lookup_write]
  split <;> rfl

theorem stored_exec_clearUnread :
    (client.exec (.clearUnread key)).stored convId =
      if convId = key then (client.stored convId).map fun conv => { conv with unreadCount := 0 }
      else client.stored convId := by
  have rows : (client.exec (.clearUnread key)).table.conversations =
      client.table.conversations.update key fun row => { row with unreadCount := 0 } := by
    rw [table_exec]
    rfl
  rw [stored, rows, KeyTable.lookup_update]
  split
  · next same =>
      rw [stored, same, Option.map_map, Option.map_map]
      congr 1
      funext row
      simp only [Function.comp_apply, rowToConversation_toRow]
      rfl
  · rfl

theorem stored_exec_raiseLocalSeq (seq : Int64) :
    (client.exec (.raiseLocalSeq key seq)).stored convId =
      if convId = key then
        (client.stored convId).map fun conv => { conv with localSeq := max conv.localSeq seq }
      else client.stored convId := by
  have rows : (client.exec (.raiseLocalSeq key seq)).table.conversations =
      client.table.conversations.update key fun row =>
        { row with localSeq := max row.localSeq seq } := by
    rw [table_exec]
    rfl
  rw [stored, rows, KeyTable.lookup_update]
  split
  · next same =>
      rw [stored, same, Option.map_map, Option.map_map]
      congr 1
      funext row
      simp only [Function.comp_apply, rowToConversation_toRow]
  · rfl

theorem stored_exec_deleteConversation :
    (client.exec (.deleteConversation key)).stored convId =
      if client.table.hasMessageOf key = false ∧ convId = key then none
      else client.stored convId := by
  rw [stored, table_exec, Stmt.run]
  cases protects : client.table.hasMessageOf key with
  | true => rfl
  | false =>
      simp only [Bool.false_eq_true, if_false, true_and]
      rw [KeyTable.lookup_erase_eq_ite]
      split <;> rfl

end Client

end AnychatSdk
