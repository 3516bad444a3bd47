import AnychatSdk.PendingMessages

/-!
# The order of a flush

A row carries the second in which its message was enqueued, and a flush sorts by
it.  So a flush follows the order of the enqueues as far as the seconds tell them
apart: messages of one second may change places, and a clock that was set back
makes a later message go first.
-/

namespace AnychatSdk

/-! ## The ledger -/

/-- The waiting messages in the order of their first enqueue, each with the
second the clock showed then, and the number of clock readings so far. -/
structure Ledger where
  reads : Nat
  waiting : List (String × Int64) := []
  deriving DecidableEq

namespace Ledger

/-- The `local_id`s in the order of their first enqueue. -/
def localIds (ledger : Ledger) : List String :=
  ledger.waiting.map Prod.fst

/-- An enqueue adds its message at the end unless it waits already, and an
acknowledgement takes its message away. -/
def step (wallClock : Nat → Int64) (ledger : Ledger) : QueueEvent → Ledger
  | .enqueue _ _ _ _ localId _ =>
      { reads := ledger.reads + 1
        waiting :=
          if localId ∈ ledger.localIds then ledger.waiting
          else ledger.waiting ++ [(localId, wallClock ledger.reads / 1000)] }
  | .messageSentAck localId =>
      { ledger with
        waiting :=
          ledger.waiting.filter fun entry => !(QueueEvent.messageSentAck localId).acks entry.1 }
  | _ => ledger

/-- The seconds of the waiting messages increase in the order of their enqueues. -/
def Ascends (ledger : Ledger) : Prop :=
  ledger.waiting.Pairwise fun earlier later => earlier.2 < later.2

instance (ledger : Ledger) : Decidable ledger.Ascends :=
  inferInstanceAs (Decidable (List.Pairwise _ _))

end Ledger

/-! ## The clock over a run -/

/-- The later state has the platform of the earlier one and has not read the
clock since. -/
def Client.SameClock (before after : Client) : Prop :=
  after.platform = before.platform ∧ after.clockReads = before.clockReads

namespace Client.SameClock

theorem trans {first second third : Client} (firstSame : SameClock first second)
    (secondSame : SameClock second third) : SameClock first third :=
  ⟨secondSame.1.trans firstSame.1, secondSame.2.trans firstSame.2⟩

theorem sendRow (convId convType : String) (contentType : Int32) (content localId : String)
    (client : Client) :
    SameClock client (client.sendRow convId convType contentType content localId) := by
  rw [Client.sendRow]
  split <;> exact ⟨rfl, rfl⟩

theorem registerCallback (localId : String) (callback : AnyChatCallback) (client : Client) :
    SameClock client (client.registerCallback localId callback) := by
  rw [Client.registerCallback]
  split <;> exact ⟨rfl, rfl⟩

theorem resendRows (rows : List Row) (client : Client) :
    SameClock client (rows.foldl (fun client row => client.resendRow row) client) := by
  induction rows generalizing client with
  | nil => exact ⟨rfl, rfl⟩
  | cons row rest ih =>
      have resent : SameClock client (client.resendRow row) := by
        rw [Client.resendRow]
        split
        · split
          · exact sendRow _ _ _ _ _ client
          · exact ⟨rfl, rfl⟩
        · exact ⟨rfl, rfl⟩
      exact resent.trans (ih _)

theorem onMessageSentAck (localId : String) (client : Client) :
    SameClock client (client.onMessageSentAck localId) := by
  rw [Client.onMessageSentAck]
  split
  · exact ⟨rfl, rfl⟩
  · rw [completeCallback]
    split <;> exact ⟨rfl, rfl⟩

/-- An enqueue reads the clock once, before anything else. -/
theorem enqueue (convId convType : String) (contentType : Int32) (content localId : String)
    (callback : AnyChatCallback) (client : Client) :
    SameClock client.nowMs.2
      (client.enqueue convId convType contentType content localId callback) := by
  have registered := registerCallback localId callback
    (client.nowMs.2.exec (.insertOrIgnoreOutbound localId
      (outboundRow convId convType contentType content client.nowMs.1)))
  simp only [Client.enqueue]
  split
  · exact SameClock.trans registered (sendRow _ _ _ _ _ _)
  · exact registered

end Client.SameClock

/-! ## The table and the ledger -/

/-- The ledger is a record of the table: it lists the rows with their creation
times. -/
structure Ledger.Records (ledger : Ledger) (client : Client) : Prop where
  reads : ledger.reads = client.clockReads
  distinct : ledger.localIds.Nodup
  waiting : ∀ localId second, (localId, second) ∈ ledger.waiting ↔
    (client.table.inserted localId).map OutboundRow.createdAt = some second

namespace Ledger

theorem mem_localIds_iff {ledger : Ledger} {client : Client} (records : ledger.Records client)
    {localId : String} : localId ∈ ledger.localIds ↔ (client.table.inserted localId).isSome := by
  rw [localIds, List.mem_map]
  constructor
  · rintro ⟨⟨listed, second⟩, member, rfl⟩
    have found := (records.waiting listed second).mp member
    rcases Option.map_eq_some_iff.mp found with ⟨row, inserted, _⟩
    exact Option.isSome_of_eq_some inserted
  · intro isSome
    rcases Option.isSome_iff_exists.mp isSome with ⟨row, inserted⟩
    refine ⟨(localId, row.createdAt), (records.waiting _ _).mpr ?_, rfl⟩
    rw [inserted]
    rfl

theorem Records.start (platform : Platform) {db : Db} (empty : db.outboundQueue = ∅)
    (clockReads : Nat) :
    Records { reads := clockReads } (Client.start platform db clockReads) where
  reads := rfl
  distinct := List.nodup_nil
  waiting localId second := by
    rw [Client.table_start, Db.inserted, empty]
    simp

theorem Records.of_inserted {ledger : Ledger} {before after : Client}
    (records : ledger.Records before) (clock : before.SameClock after)
    (inserted : ∀ localId, after.table.inserted localId = before.table.inserted localId) :
    ledger.Records after where
  reads := records.reads.trans clock.2.symm
  distinct := records.distinct
  waiting localId second := by
    rw [inserted]
    exact records.waiting localId second

theorem Records.enqueue {ledger : Ledger} {client : Client} (records : ledger.Records client)
    (convId convType : String) (contentType : Int32) (content localId : String)
    (callback : AnyChatCallback) :
    (ledger.step client.platform.wallClock
      (.enqueue convId convType contentType content localId callback)).Records
        (client.enqueue convId convType contentType content localId callback) := by
  have clock := Client.SameClock.enqueue convId convType contentType content localId callback client
  by_cases waits : localId ∈ ledger.localIds
  · have present := (mem_localIds_iff records).mp waits
    rcases Option.isSome_iff_exists.mp present with ⟨row, found⟩
    constructor
    · rw [clock.2]
      exact congrArg (· + 1) records.reads
    · simp only [step, waits, if_true]
      exact records.distinct
    · intro other second
      simp only [step, waits, if_true, Client.inserted_enqueue]
      rw [records.waiting]
      split
      · next same => rw [same, found, Option.some_or]
      · rfl
  · have absent : client.table.inserted localId = none := by
      rw [mem_localIds_iff records, Option.not_isSome_iff_eq_none] at waits
      exact waits
    constructor
    · rw [clock.2]
      exact congrArg (· + 1) records.reads
    · simp only [step, if_neg waits]
      rw [localIds, List.map_append]
      exact records.distinct.append (List.nodup_singleton localId)
        (List.disjoint_singleton.mpr waits)
    · intro other second
      simp only [step, waits, if_false, Client.inserted_enqueue, List.mem_append,
        List.mem_singleton, Prod.mk.injEq]
      rw [records.waiting]
      split
      · next same =>
          rw [same, absent, records.reads]
          simp [Client.outboundRow, Client.nowMs, eq_comm]
      · next different => simp [different]

theorem Records.onMessageSentAck {ledger : Ledger} {client : Client}
    (records : ledger.Records client) (localId : String) :
    (ledger.step client.platform.wallClock (.messageSentAck localId)).Records
      (client.onMessageSentAck localId) := by
  have clock := Client.SameClock.onMessageSentAck localId client
  constructor
  · exact records.reads.trans clock.2.symm
  · exact records.distinct.sublist (List.filter_sublist.map Prod.fst)
  · intro other second
    rw [Client.inserted_onMessageSentAck]
    simp only [step, List.mem_filter, QueueEvent.acks]
    rw [records.waiting]
    by_cases same : other = localId
    · by_cases empty : localId = ""
      · simp [same, empty]
      · simp [same, empty]
    · simp [same, Ne.symm same]

/-- The ledger keeps track of the table over a whole run. -/
theorem Records.apply {ledger : Ledger} {client : Client} (records : ledger.Records client)
    (event : QueueEvent) :
    (ledger.step client.platform.wallClock event).Records (event.apply client) ∧
      (event.apply client).platform = client.platform := by
  cases event with
  | enqueue convId convType contentType content localId callback =>
      exact ⟨records.enqueue convId convType contentType content localId callback,
        (Client.SameClock.enqueue convId convType contentType content localId callback client).1⟩
  | connected sendFn =>
      have clock : client.SameClock (client.onConnected sendFn) :=
        have waited : client.SameClock (client.setSendFn (some sendFn)).querySync := ⟨rfl, rfl⟩
        waited.trans (Client.SameClock.resendRows _ _)
      exact ⟨records.of_inserted clock (client.inserted_onConnected sendFn), clock.1⟩
  | disconnected => exact ⟨records.of_inserted ⟨rfl, rfl⟩ fun _ => rfl, rfl⟩
  | transient frame =>
      simp only [QueueEvent.apply, Client.sendTransient]
      split
      · exact ⟨records, rfl⟩
      · exact ⟨records.of_inserted ⟨rfl, rfl⟩ fun _ => rfl, rfl⟩
  | messageSentAck localId =>
      exact ⟨records.onMessageSentAck localId, (Client.SameClock.onMessageSentAck localId client).1⟩
  | work =>
      refine ⟨records.of_inserted ⟨rfl, rfl⟩ fun localId => ?_, rfl⟩
      rw [QueueEvent.apply, Client.table_work]

theorem records_exec {ledger : Ledger} {client : Client} (records : ledger.Records client)
    (events : List QueueEvent) :
    (EventRun.exec (step client.platform.wallClock) ledger events).Records
        (EventRun.exec QueueEvent.apply client events) ∧
      (EventRun.exec QueueEvent.apply client events).platform = client.platform := by
  induction events generalizing ledger client with
  | nil => exact ⟨records, rfl⟩
  | cons event events ih =>
      rcases records.apply event with ⟨next, samePlatform⟩
      rw [← samePlatform] at next ⊢
      exact ih next

/-- The rows of the table are the entries of the ledger in some order. -/
theorem Records.perm {ledger : Ledger} {client : Client} (records : ledger.Records client) :
    (client.table.outboundQueue.rows.map fun row => (row.1, row.2.createdAt)).Perm
      ledger.waiting := by
  have rowsNodup : (client.table.outboundQueue.rows.map fun row =>
      (row.1, row.2.createdAt)).Nodup := by
    apply List.Nodup.of_map Prod.fst
    rw [List.map_map]
    exact KeyTable.nodup_map_fst_rows _
  refine (List.perm_ext_iff_of_nodup rowsNodup (List.Nodup.of_map Prod.fst records.distinct)).mpr ?_
  rintro ⟨localId, second⟩
  rw [records.waiting, Db.inserted, Option.map_map, Option.map_eq_some_iff, List.mem_map]
  constructor
  · rintro ⟨⟨rowId, row⟩, member, same⟩
    rcases Prod.mk.inj same with ⟨rfl, rfl⟩
    exact ⟨row, KeyTable.lookup_eq_some_iff_mem_rows.mpr member, rfl⟩
  · rintro ⟨row, found, rfl⟩
    exact ⟨(localId, row), KeyTable.lookup_eq_some_iff_mem_rows.mp found, rfl⟩

/-- What a flush reads off the table, in the order of the SELECT. -/
def flushed (client : Client) : List (String × Int64) :=
  client.pendingRows.map fun row => (row.1, row.2.createdAt)

theorem Records.flushed_perm {ledger : Ledger} {client : Client}
    (records : ledger.Records client) : (flushed client).Perm ledger.waiting :=
  ((client.platform.orderByCreatedAt.perm _).map _).trans records.perm

/-- If the seconds ascend, every SELECT returns the rows in the order of the
ledger. -/
theorem Records.flushed_eq {ledger : Ledger} {client : Client} (records : ledger.Records client)
    (ascends : ledger.Ascends) : flushed client = ledger.waiting := by
  have sorted : (flushed client).Pairwise (OrderBy.Ascending Prod.snd) :=
    List.pairwise_map.mpr (client.platform.orderByCreatedAt.sorted _)
  exact OrderBy.eq_of_sorted_of_strict records.flushed_perm sorted ascends

/-- The SELECT that puts the later one of two tied messages first. -/
def latestFirst (ledger : Ledger) : OrderBy (String × OutboundRow) CreatedAtOrder :=
  OrderBy.tiesByRank (fun row : String × OutboundRow => row.2.createdAt)
    fun row => ledger.localIds.idxOf row.1

/-- If that SELECT returns the rows in the order of the ledger, no two messages
were tied or out of order. -/
theorem Records.ascends_of_flushed {ledger : Ledger} {client : Client}
    (records : ledger.Records client)
    (chosen : client.platform.orderByCreatedAt = ledger.latestFirst)
    (sameIds : (flushed client).map Prod.fst = ledger.localIds) : ledger.Ascends := by
  have sameList : flushed client = ledger.waiting := by
    refine List.ext_getElem records.flushed_perm.length_eq fun index first second => ?_
    have inLedger := records.flushed_perm.mem_iff.mp (List.getElem_mem first)
    refine List.inj_on_of_nodup_map records.distinct inLedger (List.getElem_mem second) ?_
    have atIndex := congrArg (fun ids => ids[index]?) sameIds
    simpa [localIds, first, second] using atIndex
  have tied := OrderBy.pairwise_tiesByRank (fun row : String × OutboundRow => row.2.createdAt)
    (fun row => ledger.localIds.idxOf row.1) client.table.outboundQueue.rows
  have sorted : ledger.waiting.Pairwise fun earlier later =>
      earlier.2 < later.2 ∨ earlier.2 = later.2 ∧
        ledger.localIds.idxOf later.1 ≤ ledger.localIds.idxOf earlier.1 := by
    rw [← sameList, flushed, List.pairwise_map, Client.pendingRows, chosen]
    exact tied
  -- The entries stand in the order of their ranks, so no tie is left.
  rw [Ascends, List.pairwise_iff_getElem]
  rw [List.pairwise_iff_getElem] at sorted
  intro earlier later earlierLt laterLt less
  rcases sorted earlier later earlierLt laterLt less with before | ⟨_, ranks⟩
  · exact before
  · have rank : ∀ index (inBounds : index < ledger.waiting.length),
        ledger.localIds.idxOf ledger.waiting[index].1 = index := by
      intro index inBounds
      have inIds : index < ledger.localIds.length := by
        rw [localIds, List.length_map]
        exact inBounds
      have listed : ledger.localIds[index] = ledger.waiting[index].1 := List.getElem_map _
      rw [← listed]
      exact List.Nodup.idxOf_getElem records.distinct index inIds
    rw [rank earlier earlierLt, rank later laterLt] at ranks
    exact absurd less (Nat.not_lt.mpr ranks)

end Ledger

/-! ## Flushes in order -/

/-- The flush hands the send function the frames of exactly these `local_id`s, in
this order. -/
def Client.FlushesInOrder (client : Client) (sendFn : Nat) (localIds : List String) : Prop :=
  ∃ payloads : List SendMessagePayload,
    (client.onConnected sendFn).outbound.sent =
        client.outbound.sent ++ payloads.map (fun payload => (sendFn, Client.sendFrame payload)) ∧
      payloads.map SendMessagePayload.localId = localIds

theorem Client.flushesInOrder_iff (client : Client) (sendFn : Nat) (localIds : List String)
    (idsNulFree : ∀ localId payload, client.table.pending localId = some payload →
      NulFree localId) :
    client.FlushesInOrder sendFn localIds ↔
      (Ledger.flushed client).map Prod.fst = localIds := by
  have readIds : (client.pendingRows.map fun row => (row.2.toPayload row.1).readBack).map
      SendMessagePayload.localId = (Ledger.flushed client).map Prod.fst := by
    rw [Ledger.flushed, List.map_map, List.map_map]
    refine List.map_congr_left fun row member => ?_
    have inTable := client.platform.orderByCreatedAt.mem_sort.mp member
    refine cString_eq_self (idsNulFree row.1 (row.2.toPayload row.1) ?_)
    rw [Db.pending, KeyTable.lookup_eq_some_iff_mem_rows.mpr inTable]
    rfl
  constructor
  · rintro ⟨payloads, sent, rfl⟩
    rw [sent_onConnected] at sent
    have frames := congrArg (List.map Prod.snd) (List.append_cancel_left sent)
    rw [List.map_map, List.map_map] at frames
    have samePayloads : (client.pendingRows.map fun row => (row.2.toPayload row.1).readBack) =
        payloads := by
      have injective : Function.Injective sendFrame := fun first second same =>
        FramePayload.sendMessage.inj (Frame.mk.inj same).2
      refine injective.list_map ?_
      rw [List.map_map]
      exact frames
    rw [← samePayloads, readIds]
  · intro sameIds
    refine ⟨client.pendingRows.map fun row => (row.2.toPayload row.1).readBack, ?_, ?_⟩
    · rw [sent_onConnected, List.map_map]
      rfl
    · rw [readIds, sameIds]

/-- Every flush of the run follows the order of the enqueues. -/
def FlushesFollowEnqueues (client : Client) (events : List QueueEvent) : Prop :=
  ∀ before sendFn after, events = before ++ .connected sendFn :: after →
    (EventRun.exec QueueEvent.apply client before).FlushesInOrder sendFn
      (EventRun.exec (Ledger.step client.platform.wallClock) { reads := client.clockReads }
        before).localIds

/-- The ledger of a process that starts with nothing queued. -/
def Ledger.after (wallClock : Nat → Int64) (clockReads : Nat) (events : List QueueEvent) :
    Ledger :=
  EventRun.exec (step wallClock) { reads := clockReads } events

section Run

variable (platform : Platform) {db : Db} (empty : db.outboundQueue = ∅) (clockReads : Nat)
include empty

theorem Ledger.records_after (events : List QueueEvent) :
    (after platform.wallClock clockReads events).Records
        (EventRun.exec QueueEvent.apply (.start platform db clockReads) events) ∧
      (EventRun.exec QueueEvent.apply (.start platform db clockReads) events).platform =
        platform :=
  records_exec (Records.start platform empty clockReads) events

theorem flushesFollowEnqueues_iff_flushed {events : List QueueEvent}
    (wellFormed : ∀ event ∈ events, event.WellFormed) :
    FlushesFollowEnqueues (.start platform db clockReads) events ↔
      ∀ before sendFn after, events = before ++ .connected sendFn :: after →
        (Ledger.flushed
            (EventRun.exec QueueEvent.apply (.start platform db clockReads) before)).map Prod.fst =
          (Ledger.after platform.wallClock clockReads before).localIds := by
  have idsNulFree : ∀ before after, events = before ++ after → ∀ localId payload,
      (EventRun.exec QueueEvent.apply (.start platform db clockReads) before).table.pending
        localId = some payload → NulFree localId := by
    intro before after split localId payload waiting
    have fresh : (Client.start platform db clockReads).table.outboundQueue = ∅ := empty
    exact nulFree_of_pending fresh
      (fun event member => wellFormed event (split ▸ List.mem_append_left after member)) waiting
  constructor
  · intro follows before sendFn after split
    exact (Client.flushesInOrder_iff _ sendFn _ (idsNulFree before _ split)).mp
      (follows before sendFn after split)
  · intro inOrder before sendFn after split
    exact (Client.flushesInOrder_iff _ sendFn _ (idsNulFree before _ split)).mpr
      (inOrder before sendFn after split)

/-- A process that starts with nothing queued flushes in the order of the
enqueues, whichever way the database arranges tied rows, exactly when at every
flush the waiting messages were enqueued in ascending seconds. -/
theorem flushesFollowEnqueues_iff {events : List QueueEvent}
    (wellFormed : ∀ event ∈ events, event.WellFormed) :
    (∀ order : OrderBy (String × OutboundRow) CreatedAtOrder,
        FlushesFollowEnqueues
          (.start { platform with orderByCreatedAt := order } db clockReads) events) ↔
      ∀ before sendFn after, events = before ++ .connected sendFn :: after →
        (Ledger.after platform.wallClock clockReads before).Ascends := by
  constructor
  · intro follows before sendFn after split
    let adverse := (Ledger.after platform.wallClock clockReads before).latestFirst
    rcases Ledger.records_after { platform with orderByCreatedAt := adverse } empty clockReads
      before with ⟨records, samePlatform⟩
    refine records.ascends_of_flushed (congrArg Platform.orderByCreatedAt samePlatform) ?_
    exact (flushesFollowEnqueues_iff_flushed _ empty clockReads wellFormed).mp
      (follows adverse) before sendFn after split
  · intro ascends order
    apply (flushesFollowEnqueues_iff_flushed _ empty clockReads wellFormed).mpr
    intro before sendFn after split
    have records := (Ledger.records_after { platform with orderByCreatedAt := order } empty
      clockReads before).1
    rw [records.flushed_eq (ascends before sendFn after split)]
    rfl

end Run

/-- Three messages of different seconds, two of them waiting at the flush. -/
theorem flushesFollowEnqueues_iff_three_seconds :
    let platform : Platform :=
      { (default : Platform) with wallClock := fun reading => 1000 * reading.toInt64 }
    let events : List QueueEvent :=
      [.enqueue "c1" "private" 1 "a" "local_1" {}, .enqueue "c1" "private" 1 "b" "local_2" {},
        .enqueue "c1" "private" 1 "c" "local_3" {}, .messageSentAck "local_2", .connected 7]
    (∀ order : OrderBy (String × OutboundRow) CreatedAtOrder,
        FlushesFollowEnqueues
          (.start { platform with orderByCreatedAt := order } {} 0) events) ↔
      ∀ before sendFn after, events = before ++ .connected sendFn :: after →
        (Ledger.after platform.wallClock 0 before).Ascends := by
  refine flushesFollowEnqueues_iff _ rfl 0 fun event member payload enqueued => ?_
  have sameId : payload.localId ∈ ["local_1", "local_2", "local_3"] := by
    simp only [List.mem_cons, List.not_mem_nil, or_false] at member
    rcases member with rfl | rfl | rfl | rfl | rfl <;>
      simp [QueueEvent.enqueued?] at enqueued
    all_goals simp [← enqueued]
  exact (by decide : ∀ localId ∈ ["local_1", "local_2", "local_3"],
    localId ≠ "" ∧ NulFree localId) _ sameId

/-- Two messages of one second may change places in the flush. -/
theorem not_flushesFollowEnqueues_same_second :
    ¬∀ order : OrderBy (String × OutboundRow) CreatedAtOrder,
        FlushesFollowEnqueues
          (.start { (default : Platform) with orderByCreatedAt := order } {} 0)
          [.enqueue "c1" "private" 1 "first" "local_1" {},
            .enqueue "c1" "private" 1 "second" "local_2" {}, .connected 7] := by
  intro follows
  let order := OrderBy.tiesByRank (fun row : String × OutboundRow => row.2.createdAt)
    fun row => if row.1 = "local_2" then 1 else 0
  have wellFormed : ∀ event ∈ ([.enqueue "c1" "private" 1 "first" "local_1" {},
      .enqueue "c1" "private" 1 "second" "local_2" {}, .connected 7] : List QueueEvent),
      event.WellFormed := by
    intro event member payload enqueued
    simp only [List.mem_cons, List.not_mem_nil, or_false] at member
    rcases member with rfl | rfl | rfl <;> simp [QueueEvent.enqueued?] at enqueued
    · rw [← enqueued]
      exact ⟨by decide, by decide⟩
    · rw [← enqueued]
      exact ⟨by decide, by decide⟩
  have flushed := (flushesFollowEnqueues_iff_flushed _ rfl 0 wellFormed).mp (follows order)
    [.enqueue "c1" "private" 1 "first" "local_1" {},
      .enqueue "c1" "private" 1 "second" "local_2" {}] 7 [] rfl
  exact absurd flushed (by decide)

end AnychatSdk
