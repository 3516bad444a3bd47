import AnychatSdk.BucketPartition

/-!
# History from the cache

Asked for the newest page of a conversation, `getHistory` hands over the whole
bucket as soon as there is anything in it.  It looks neither at the limit nor at
what is missing: messages that have not been received, and stored ones that the
bucket does not hold.  The answer is a page the server could have given as long
as the bucket fits the limit and, when it is shorter, grows from the first
message of the conversation on without a gap.
-/

namespace AnychatSdk

/-- A message that the table has for the conversation, and that is not in the
list. -/
def LeavesOut (rows : KeyTable String MessageRow) (convId : String) (messages : List Message)
    (messageId : String) (row : MessageRow) : Prop :=
  rows.lookup messageId = some row ∧ row.convId = convId ∧
    ∀ message ∈ messages, message.messageId ≠ messageId

/-- Each message is the first of its conversation, or comes with the one whose
sequence number precedes its own. -/
def GapFree (messages : List Message) : Prop :=
  ∀ message ∈ messages, 1 < message.seq →
    ∃ previous ∈ messages, previous.seq + 1 = message.seq

namespace Client

/-- The client knows of a message of the conversation with this id and sequence
number: the cache holds it, or the table has its row. -/
def Knows (convId messageId : String) (seq : Int64) (client : Client) : Prop :=
  (∃ message, client.msgCache.Holds message ∧ message.convId = convId ∧
    message.messageId = messageId ∧ message.seq = seq) ∨
  ∃ row, client.table.messages.lookup messageId = some row ∧ row.convId = convId ∧
    row.seq = seq

/-- The server could have given the answer: at most `limit` messages of the
conversation, the newest ones that the client knows; fewer only if the table has
none besides, and if no gap lies before any of them. -/
structure ServerCouldGive (client : Client) (convId : String) (limit : Nat)
    (answer : List Message) : Prop where
  ofConversation : ∀ message ∈ answer, message.convId = convId
  atMost : answer.length ≤ limit
  newest : ∀ messageId seq, client.Knows convId messageId seq →
    (∀ message ∈ answer, message.messageId ≠ messageId) → ∀ message ∈ answer, seq ≤ message.seq
  noOlder : answer.length < limit → ∀ messageId row,
    ¬LeavesOut client.table.messages convId answer messageId row
  gapFree : answer.length < limit → GapFree answer

/-- Whatever `getHistory` answers from the cache, the server could have given. -/
def HistoryValid (limit : Nat) (client : Client) : Prop :=
  ∀ convId answer, client.getHistory convId 0 = some answer →
    client.ServerCouldGive convId limit answer

end Client

/-! ## Pages -/

/-- A bucket that is a page of its conversation beside the rows. -/
structure IsPage (limit : Nat) (rows : KeyTable String MessageRow) (convId : String)
    (bucket : List Message) : Prop where
  keyed : ∀ message ∈ bucket, message.convId = convId
  atMost : bucket.length ≤ limit
  newest : ∀ messageId row, LeavesOut rows convId bucket messageId row →
    ∀ message ∈ bucket, row.seq ≤ message.seq
  noOlder : bucket.length < limit → ∀ messageId row, ¬LeavesOut rows convId bucket messageId row
  gapFree : bucket.length < limit → GapFree bucket

/-- Every bucket with a message in it is a page. -/
def MessageCache.HoldsPages (limit : Nat) (rows : KeyTable String MessageRow)
    (cache : MessageCache) : Prop :=
  ∀ convId, cache.get convId ≠ [] → IsPage limit rows convId (cache.get convId)

section Pages

variable {limit : Nat} {rows before after : KeyTable String MessageRow} {cache : MessageCache}
  {convId : String} {bucket : List Message}

theorem MessageCache.HoldsPages.keyed (pages : cache.HoldsPages limit rows) (convId : String) :
    ∀ message ∈ cache.get convId, message.convId = convId := by
  intro message member
  exact (pages convId (List.ne_nil_of_mem member)).keyed message member

/-- The answers are valid exactly when the buckets are pages. -/
theorem Client.historyValid_iff (client : Client) :
    client.HistoryValid limit ↔ client.msgCache.HoldsPages limit client.table.messages := by
  have answers : ∀ convId, client.msgCache.get convId ≠ [] →
      client.getHistory convId 0 = some (client.msgCache.get convId) :=
    fun convId nonempty => if_pos ⟨rfl, nonempty⟩
  constructor
  · intro valid convId nonempty
    have given := valid convId _ (answers convId nonempty)
    constructor
    · exact given.ofConversation
    · exact given.atMost
    · rintro messageId row ⟨stored, ofConv, absent⟩
      exact given.newest messageId row.seq (.inr ⟨row, stored, ofConv, rfl⟩) absent
    · exact given.noOlder
    · exact given.gapFree
  · intro pages convId answer given
    simp only [getHistory] at given
    split at given
    swap
    · exact absurd given.symm (Option.some_ne_none answer)
    next here =>
      obtain rfl := Option.some.inj given
      have page := pages convId here.2
      constructor
      · exact page.keyed
      · exact page.atMost
      · intro messageId seq known absent
        rcases known with ⟨message, ⟨otherId, bucket, found, member⟩, ofConv, rfl, rfl⟩ |
          ⟨row, stored, ofConv, rfl⟩
        · -- A cached message of the conversation lies in its bucket.
          have cached := MessageCache.mem_get_of_lookup found member
          have sameKey := (pages.keyed otherId message cached).symm.trans ofConv
          obtain rfl := sameKey
          exact absurd rfl (absent message cached)
        · exact page.newest messageId row ⟨stored, ofConv, absent⟩
      · exact page.noOlder
      · exact page.gapFree

/-- Fewer rows to be left out. -/
theorem IsPage.of_rows (page : IsPage limit before convId bucket)
    (fewer : ∀ messageId row, LeavesOut after convId bucket messageId row →
      ∃ old, LeavesOut before convId bucket messageId old ∧ old.seq = row.seq) :
    IsPage limit after convId bucket := by
  constructor
  · exact page.keyed
  · exact page.atMost
  · intro messageId row leaves message member
    rcases fewer messageId row leaves with ⟨old, leavesOld, sameSeq⟩
    exact sameSeq ▸ page.newest messageId old leavesOld message member
  · intro short messageId row leaves
    rcases fewer messageId row leaves with ⟨old, leavesOld, _⟩
    exact page.noOlder short messageId old leavesOld
  · exact page.gapFree

end Pages

/-! ## Rows -/

/-- The place of a stored message. -/
def MessageRow.place (row : MessageRow) : String × Int64 :=
  (row.convId, row.seq)

/-- The stored messages keep their places. -/
def SamePlaces (before after : KeyTable String MessageRow) : Prop :=
  ∀ messageId, (after.lookup messageId).map MessageRow.place =
    (before.lookup messageId).map MessageRow.place

theorem exists_of_map_place {before after : KeyTable String MessageRow} {messageId : String}
    (same : (after.lookup messageId).map MessageRow.place =
      (before.lookup messageId).map MessageRow.place)
    {row : MessageRow} (found : after.lookup messageId = some row) :
    ∃ old, before.lookup messageId = some old ∧ old.convId = row.convId ∧ old.seq = row.seq := by
  rw [found] at same
  rcases Option.map_eq_some_iff.mp same.symm with ⟨old, oldFound, samePlace⟩
  exact ⟨old, oldFound, congrArg Prod.fst samePlace, congrArg Prod.snd samePlace⟩

/-- The rows after a message has been delivered: those of other messages keep their
places, and its own does so too or lies in its conversation. -/
structure Message.Delivers (message : Message) (before after : KeyTable String MessageRow) :
    Prop where
  others : ∀ messageId, messageId ≠ message.messageId →
    (after.lookup messageId).map MessageRow.place =
      (before.lookup messageId).map MessageRow.place
  own : ((after.lookup message.messageId).map MessageRow.place =
      (before.lookup message.messageId).map MessageRow.place) ∨
    ∀ row, after.lookup message.messageId = some row → row.convId = message.convId

/-! ## Insertions -/

namespace MessageCache

/-- The message goes into a bucket with room: it does not exceed the limit; unless
it fills it, it leaves no gap; and if it comes first, the table has no other
message of the conversation (or no newer one, if one is all that is asked
for). -/
def Appends (limit : Nat) (rows : KeyTable String MessageRow) (message : Message)
    (bucket : List Message) : Prop :=
  bucket.length < limit ∧
    (bucket.length + 1 < limit → 1 < message.seq →
      ∃ previous ∈ bucket, previous.seq + 1 = message.seq) ∧
    (bucket = [] → ∀ messageId row, messageId ≠ message.messageId →
      rows.lookup messageId = some row → row.convId = message.convId →
        limit = 1 ∧ row.seq ≤ message.seq)

/-- The message goes into a full bucket: what is kept is without a gap if it falls
short of the limit, and the message that is dropped is not stored, or else the
limit is reached and its row is not newer than what is kept. -/
def Displaces (limit : Nat) (rows : KeyTable String MessageRow) (message : Message)
    (bucket : List Message) (cache : MessageCache) : Prop :=
  ∀ dropped kept, cache.stdSort.sort (bucket ++ [message]) = dropped :: kept →
    (bucket.length < limit → GapFree kept) ∧
      ∀ row, rows.lookup dropped.messageId = some row → row.convId = message.convId →
        limit ≤ bucket.length ∧ ∀ other ∈ kept, row.seq ≤ other.seq

/-- The inputs on which an insertion leaves a page; `before` and `after` are the
rows without and with the message. -/
def TakesInOrder (limit : Nat) (before after : KeyTable String MessageRow) (message : Message)
    (cache : MessageCache) : Prop :=
  (∀ old ∈ cache.get message.convId, old.messageId ≠ message.messageId) →
    if (cache.get message.convId).length < cache.bucketSize then
      Appends limit before message (cache.get message.convId)
    else cache.Displaces limit after message (cache.get message.convId)

section Insertion

variable {limit : Nat} {before after : KeyTable String MessageRow} {message : Message}
  {cache : MessageCache} {bucket : List Message}

theorem pushSorted_of_room (room : bucket.length < cache.bucketSize) :
    cache.pushSorted bucket message = cache.stdSort.sort (bucket ++ [message]) := by
  rw [pushSorted, if_neg]
  rw [cache.stdSort.length_sort_concat]
  omega

/-- A full bucket drops the message at the front. -/
theorem exists_sort_of_full (full : ¬bucket.length < cache.bucketSize) :
    ∃ dropped, cache.stdSort.sort (bucket ++ [message]) =
      dropped :: cache.pushSorted bucket message := by
  have length_eq := cache.stdSort.length_sort_concat bucket message
  rw [pushSorted, if_pos (by omega)]
  cases sorted : cache.stdSort.sort (bucket ++ [message]) with
  | nil => simp [sorted] at length_eq
  | cons dropped kept => exact ⟨dropped, rfl⟩

theorem length_of_sort_eq {dropped : Message} {kept : List Message}
    (sorted : cache.stdSort.sort (bucket ++ [message]) = dropped :: kept) :
    kept.length = bucket.length := by
  have lengths := cache.stdSort.length_sort_concat bucket message
  rw [sorted, List.length_cons] at lengths
  exact Nat.succ.inj lengths

theorem mem_sort_append {other : Message} :
    other ∈ cache.stdSort.sort (bucket ++ [message]) ↔ other ∈ bucket ∨ other = message := by
  rw [cache.stdSort.mem_sort, List.mem_append, List.mem_singleton]

/-- No row is left out but those that were, if the message itself is delivered. -/
theorem leavesOut_before {convId messageId : String} {row : MessageRow}
    (delivers : message.Delivers before after) (different : messageId ≠ message.messageId)
    (leaves : LeavesOut after convId bucket messageId row) :
    ∃ old, LeavesOut before convId bucket messageId old ∧ old.seq = row.seq := by
  rcases leaves with ⟨stored, ofConv, absent⟩
  rcases exists_of_map_place (delivers.others messageId different) stored with
    ⟨old, oldStored, sameConv, sameSeq⟩
  exact ⟨old, ⟨oldStored, sameConv.trans ofConv, absent⟩, sameSeq⟩

/-- A message that is appended to a page, or to an empty bucket. -/
theorem Appends.isPage (appends : Appends limit before message bucket)
    (page : bucket ≠ [] → IsPage limit before message.convId bucket)
    (delivers : message.Delivers before after) :
    IsPage limit after message.convId (cache.stdSort.sort (bucket ++ [message])) := by
  rcases appends with ⟨fits, noGap, alone⟩
  have length_eq := cache.stdSort.length_sort_concat bucket message
  -- A row can only be left out if the message is the first one.
  have first : ∀ messageId row, LeavesOut after message.convId
      (cache.stdSort.sort (bucket ++ [message])) messageId row →
        bucket = [] ∧ limit = 1 ∧ row.seq ≤ message.seq := by
    rintro messageId row ⟨stored, ofConv, absent⟩
    have different : messageId ≠ message.messageId :=
      fun same => absent message (mem_sort_append.mpr (.inr rfl)) same.symm
    have absentBefore : ∀ old ∈ bucket, old.messageId ≠ messageId :=
      fun old member => absent old (mem_sort_append.mpr (.inl member))
    rcases leavesOut_before delivers different ⟨stored, ofConv, absentBefore⟩ with
      ⟨old, leavesOld, sameSeq⟩
    by_cases empty : bucket = []
    · rcases alone empty messageId old different leavesOld.1 leavesOld.2.1 with ⟨one, older⟩
      exact ⟨empty, one, sameSeq ▸ older⟩
    · exact absurd leavesOld ((page empty).noOlder fits messageId old)
  constructor
  · intro other member
    rcases mem_sort_append.mp member with old | rfl
    · exact (page (List.ne_nil_of_mem old)).keyed other old
    · rfl
  · omega
  · intro messageId row leaves other member
    rcases first messageId row leaves with ⟨rfl, _, older⟩
    rcases mem_sort_append.mp member with old | rfl
    · exact absurd old List.not_mem_nil
    · exact older
  · intro short messageId row leaves
    rcases first messageId row leaves with ⟨rfl, rfl, _⟩
    rw [length_eq, List.length_nil] at short
    exact absurd short (Nat.lt_irrefl 1)
  · intro short other member above
    rcases mem_sort_append.mp member with old | rfl
    · rcases (page (List.ne_nil_of_mem old)).gapFree fits other old above with
        ⟨previous, previousMem, next⟩
      exact ⟨previous, mem_sort_append.mpr (.inl previousMem), next⟩
    · rcases noGap (by omega) above with ⟨previous, previousMem, next⟩
      exact ⟨previous, mem_sort_append.mpr (.inl previousMem), next⟩

/-- Conversely, a message is appended if the outcome is a page. -/
theorem appends_of_isPage (delivers : message.Delivers before after)
    (page : IsPage limit after message.convId (cache.stdSort.sort (bucket ++ [message]))) :
    Appends limit before message bucket := by
  have length_eq := cache.stdSort.length_sort_concat bucket message
  have fits := page.atMost
  have messageMem : message ∈ cache.stdSort.sort (bucket ++ [message]) :=
    mem_sort_append.mpr (.inr rfl)
  refine ⟨by omega, fun short above => ?_, ?_⟩
  · rcases page.gapFree (by omega) message messageMem above with ⟨previous, previousMem, next⟩
    rcases mem_sort_append.mp previousMem with old | rfl
    · exact ⟨previous, old, next⟩
    · exact absurd next (by grind)
  · rintro rfl messageId row different stored ofConv
    have samePlace := (delivers.others messageId different).symm
    rcases exists_of_map_place samePlace stored with ⟨new, newStored, sameConv, sameSeq⟩
    have leaves : LeavesOut after message.convId (cache.stdSort.sort ([] ++ [message]))
        messageId new := by
      refine ⟨newStored, sameConv.trans ofConv, fun other member => ?_⟩
      rcases mem_sort_append.mp member with old | rfl
      · exact absurd old List.not_mem_nil
      · exact different.symm
    constructor
    · by_contra other
      rw [List.length_nil] at length_eq
      exact page.noOlder (by omega) messageId new leaves
    · exact sameSeq ▸ page.newest messageId new leaves message messageMem

/-- The page after a full bucket has dropped a message. -/
theorem Displaces.isPage {dropped : Message} {kept : List Message}
    (displaces : cache.Displaces limit after message bucket)
    (sorted : cache.stdSort.sort (bucket ++ [message]) = dropped :: kept)
    (notKept : ∀ other ∈ kept, other.messageId ≠ dropped.messageId)
    (page : IsPage limit before message.convId bucket)
    (delivers : message.Delivers before after) : IsPage limit after message.convId kept := by
  rcases displaces dropped kept sorted with ⟨noGap, outside⟩
  have ascending := List.pairwise_cons.mp (sorted ▸ cache.stdSort.sorted (bucket ++ [message]))
  have mem_iff : ∀ other, other ∈ dropped :: kept ↔ other ∈ bucket ∨ other = message :=
    fun other => sorted ▸ mem_sort_append
  have length_eq := length_of_sort_eq sorted
  -- A row is left out if it was before, or if it is that of the dropped message.
  have left : ∀ messageId row, LeavesOut after message.convId kept messageId row →
      dropped.messageId = messageId ∨
        ∃ old, LeavesOut before message.convId bucket messageId old ∧ old.seq = row.seq := by
    rintro messageId row ⟨stored, ofConv, absent⟩
    by_cases isDropped : dropped.messageId = messageId
    · exact .inl isDropped
    · have absentAll : ∀ other ∈ dropped :: kept, other.messageId ≠ messageId := by
        intro other member
        rcases List.mem_cons.mp member with rfl | later
        · exact isDropped
        · exact absent other later
      have different : messageId ≠ message.messageId :=
        fun same => absentAll message ((mem_iff message).mpr (.inr rfl)) same.symm
      exact .inr (leavesOut_before delivers different
        ⟨stored, ofConv, fun old member => absentAll old ((mem_iff old).mpr (.inl member))⟩)
  constructor
  · intro other member
    rcases (mem_iff other).mp (List.mem_cons_of_mem dropped member) with old | rfl
    · exact page.keyed other old
    · rfl
  · exact length_eq.trans_le page.atMost
  · intro messageId row leaves other member
    rcases left messageId row leaves with rfl | ⟨old, leavesOld, sameSeq⟩
    · exact (outside row leaves.1 leaves.2.1).2 other member
    · rw [← sameSeq]
      rcases (mem_iff other).mp (List.mem_cons_of_mem dropped member) with inBucket | rfl
      · exact page.newest messageId old leavesOld other inBucket
      · -- The message is newer than the dropped one, which was in the bucket.
        rcases (mem_iff dropped).mp List.mem_cons_self with inBucket | isMessage
        · exact Int64.le_trans (page.newest messageId old leavesOld dropped inBucket)
            (ascending.1 other member)
        · exact absurd (congrArg Message.messageId isMessage.symm) (notKept other member)
  · intro short messageId row leaves
    rw [length_eq] at short
    rcases left messageId row leaves with rfl | ⟨old, leavesOld, _⟩
    · exact absurd (outside row leaves.1 leaves.2.1).1 (Nat.not_le.mpr short)
    · exact page.noOlder short messageId old leavesOld
  · intro short
    exact noGap (length_eq ▸ short)

theorem displaces_of_isPage {dropped : Message} {kept : List Message}
    (sorted : cache.stdSort.sort (bucket ++ [message]) = dropped :: kept)
    (notKept : ∀ other ∈ kept, other.messageId ≠ dropped.messageId)
    (page : IsPage limit after message.convId kept) :
    cache.Displaces limit after message bucket := by
  have length_eq := length_of_sort_eq sorted
  intro first rest split
  rcases List.cons_eq_cons.mp (sorted.symm.trans split) with ⟨rfl, rfl⟩
  refine ⟨fun short => page.gapFree (by omega), fun row stored ofConv => ?_⟩
  have leaves : LeavesOut after message.convId kept dropped.messageId row :=
    ⟨stored, ofConv, notKept⟩
  constructor
  · by_contra short
    exact page.noOlder (by omega) dropped.messageId row leaves
  · exact page.newest dropped.messageId row leaves

/-- An insertion leaves pages exactly when it takes the message in order. -/
theorem HoldsPages.insert_iff (pages : cache.HoldsPages limit before)
    (distinct : cache.DistinctIds) (roomy : 0 < cache.bucketSize)
    (delivers : message.Delivers before after) :
    (cache.insert message).HoldsPages limit after ↔
      cache.TakesInOrder limit before after message := by
  -- The buckets that stay as they are stay pages.
  have unchanged : ∀ convId, ¬(convId = message.convId ∧
      ∀ old ∈ cache.get convId, old.messageId ≠ message.messageId) → cache.get convId ≠ [] →
        IsPage limit after convId (cache.get convId) := by
    intro convId not_new nonempty
    refine (pages convId nonempty).of_rows fun messageId row leaves => ?_
    by_cases same : messageId = message.messageId
    swap
    · exact leavesOut_before delivers same leaves
    obtain rfl := same
    rcases leaves with ⟨stored, ofConv, absent⟩
    rcases delivers.own with samePlace | moved
    · rcases exists_of_map_place samePlace stored with ⟨old, oldStored, sameConv, sameSeq⟩
      exact ⟨old, ⟨oldStored, sameConv.trans ofConv, absent⟩, sameSeq⟩
    · exact absurd ⟨ofConv.symm.trans (moved row stored), absent⟩ not_new
  have others : (cache.insert message).HoldsPages limit after ↔
      ((∀ old ∈ cache.get message.convId, old.messageId ≠ message.messageId) →
        cache.pushSorted (cache.get message.convId) message ≠ [] →
          IsPage limit after message.convId
            (cache.pushSorted (cache.get message.convId) message)) := by
    constructor
    · intro after unknown
      have here := after message.convId
      rw [get_insert, if_pos ⟨rfl, unknown⟩] at here
      exact here
    · intro here convId nonempty
      rw [get_insert] at nonempty ⊢
      split at nonempty
      · next new =>
          obtain rfl := new.1
          rw [if_pos new]
          exact here new.2 nonempty
      · next not_new =>
          rw [if_neg not_new]
          exact unchanged convId not_new nonempty
  rw [others, TakesInOrder]
  refine imp_congr_right fun unknown => ?_
  by_cases room : (cache.get message.convId).length < cache.bucketSize
  · rw [if_pos room, pushSorted_of_room room]
    constructor
    · intro page
      exact appends_of_isPage delivers
        (page (List.ne_nil_of_mem (mem_sort_append.mpr (.inr rfl))))
    · intro appends _
      exact appends.isPage (pages message.convId) delivers
  · rw [if_neg room]
    have nodup : ((cache.stdSort.sort (cache.get message.convId ++ [message])).map
        Message.messageId).Nodup := nodup_ids_sort_append (distinct.get _) unknown
    rcases exists_sort_of_full room with ⟨dropped, sorted⟩
    have notKept : ∀ other ∈ cache.pushSorted (cache.get message.convId) message,
        other.messageId ≠ dropped.messageId := by
      intro other member same
      rw [sorted, List.map_cons, List.nodup_cons] at nodup
      exact nodup.1 (List.mem_map.mpr ⟨other, member, same⟩)
    have nonempty : cache.get message.convId ≠ [] := by
      intro empty
      rw [empty] at room
      exact room roomy
    constructor
    · intro page
      refine displaces_of_isPage sorted notKept (page ?_)
      intro none
      rw [none] at sorted
      exact nonempty (List.length_eq_zero_iff.mp (length_of_sort_eq sorted).symm)
    · intro displaces _
      exact displaces.isPage sorted notKept (pages message.convId nonempty) delivers

end Insertion

/-! ## Updates by id -/

section Updates

variable {limit : Nat} {before after : KeyTable String MessageRow} {message : Message}
  {cache : MessageCache} {change : Message → Message} {messageId : String}

theorem HoldsPages.of_samePlaces (pages : cache.HoldsPages limit before)
    (same : SamePlaces before after) : cache.HoldsPages limit after := by
  intro convId nonempty
  refine (pages convId nonempty).of_rows ?_
  rintro messageId row ⟨stored, ofConv, absent⟩
  rcases exists_of_map_place (same messageId) stored with ⟨old, oldStored, sameConv, sameSeq⟩
  exact ⟨old, ⟨oldStored, sameConv.trans ofConv, absent⟩, sameSeq⟩

/-- An update by id leaves a field of the cached messages alone that the change
leaves alone. -/
theorem map_get_updateMessageById {α : Type} (cache : MessageCache) (messageId convId : String)
    {field : Message → α} (same : ∀ message, field (change message) = field message) :
    ((cache.updateMessageById messageId change).2.get convId).map field =
      (cache.get convId).map field := by
  cases found : cache.find? messageId with
  | none => rw [updateMessageById, found]
  | some entry =>
      rw [get_updateMessageById found]
      split
      · next here => rw [here, map_modifyFirst same]
      · rfl

/-- An update by id leaves pages exactly when the changed copy still names the
conversation of its bucket. -/
theorem HoldsPages.update_iff (pages : cache.HoldsPages limit before)
    (distinct : cache.DistinctIds) (same : SamePlaces before after)
    (sameId : ∀ message, (change message).messageId = message.messageId)
    (sameSeq : ∀ message, (change message).seq = message.seq) :
    (cache.updateMessageById messageId change).2.HoldsPages limit after ↔
      ∀ convId cached, cache.find? messageId = some (convId, cached) →
        (change cached).convId = convId := by
  constructor
  · intro changed convId cached found
    exact changed.keyed convId (change cached) (change_mem_get_update found)
  intro inPlace convId nonempty
  have ids := map_get_updateMessageById cache messageId convId sameId
  have seqs := map_get_updateMessageById cache messageId convId sameSeq
  have length_eq : ((cache.updateMessageById messageId change).2.get convId).length =
      (cache.get convId).length := by
    simpa using congrArg List.length ids
  have nonemptyBefore : cache.get convId ≠ [] := by
    intro empty
    rw [empty, List.length_nil] at length_eq
    exact nonempty (List.length_eq_zero_iff.mp length_eq)
  have page := pages.of_samePlaces same convId nonemptyBefore
  have left : ∀ otherId row,
      LeavesOut after convId ((cache.updateMessageById messageId change).2.get convId) otherId
        row → LeavesOut after convId (cache.get convId) otherId row := by
    rintro otherId row ⟨stored, ofConv, absent⟩
    refine ⟨stored, ofConv, fun old member sameAsRow => ?_⟩
    have oldId : old.messageId ∈ (cache.get convId).map Message.messageId :=
      List.mem_map.mpr ⟨old, member, rfl⟩
    rw [← ids] at oldId
    rcases List.mem_map.mp oldId with ⟨new, newMem, newId⟩
    exact absent new newMem (newId.trans sameAsRow)
  have number_mem : ∀ {seq : Int64}, (∃ message ∈ cache.get convId, message.seq = seq) ↔
      ∃ message ∈ (cache.updateMessageById messageId change).2.get convId,
        message.seq = seq := by
    intro seq
    rw [← List.mem_map, ← List.mem_map, seqs]
  constructor
  · intro message member
    rcases distinct.mem_get_update sameId member with ⟨cached, found, rfl⟩ | unchanged
    · exact inPlace convId cached found
    · exact page.keyed message unchanged
  · exact length_eq.trans_le page.atMost
  · intro otherId row leaves message member
    rcases number_mem.mpr ⟨message, member, rfl⟩ with ⟨old, oldMem, sameNumber⟩
    exact sameNumber ▸ page.newest otherId row (left otherId row leaves) old oldMem
  · intro short otherId row leaves
    exact page.noOlder (length_eq ▸ short) otherId row (left otherId row leaves)
  · intro short message member above
    rcases number_mem.mpr ⟨message, member, rfl⟩ with ⟨old, oldMem, sameNumber⟩
    rcases page.gapFree (length_eq ▸ short) old oldMem (sameNumber ▸ above) with
      ⟨previous, previousMem, next⟩
    rcases number_mem.mp ⟨previous, previousMem, rfl⟩ with ⟨new, newMem, newNumber⟩
    exact ⟨new, newMem, by rw [newNumber, next, sameNumber]⟩

/-- An update that leaves the conversation of the message alone. -/
theorem HoldsPages.update (pages : cache.HoldsPages limit before)
    (distinct : cache.DistinctIds) (same : SamePlaces before after)
    (sameId : ∀ message, (change message).messageId = message.messageId)
    (sameSeq : ∀ message, (change message).seq = message.seq)
    (sameConv : ∀ message, (change message).convId = message.convId) :
    (cache.updateMessageById messageId change).2.HoldsPages limit after :=
  (pages.update_iff distinct same sameId sameSeq).mpr fun convId cached found =>
    (sameConv cached).trans (pages.keyed convId cached (mem_get_of_find? found))

/-- A notified change that finds no copy inserts a message that names its
conversation. -/
theorem HoldsPages.merge_iff (pages : cache.HoldsPages limit before)
    (distinct : cache.DistinctIds) (roomy : 0 < cache.bucketSize)
    (same : SamePlaces before after) {Kept : Prop}
    (updated : (cache.updateMessageById message.messageId change).2.HoldsPages limit after ↔
      Kept)
    (missing : cache.find? message.messageId = none → Kept) :
    (cache.merge change message).HoldsPages limit after ↔
      Kept ∧ (cache.find? message.messageId = none → message.convId ≠ "" →
        cache.TakesInOrder limit before after message) := by
  have delivers : message.Delivers before after := ⟨fun otherId _ => same otherId, .inl (same _)⟩
  rw [merge]
  cases found : cache.find? message.messageId with
  | some entry =>
      have notMissing : some entry ≠ none := Option.some_ne_none entry
      simpa [notMissing] using updated
  | none =>
      have kept := missing found
      by_cases unnamed : message.convId = ""
      · simpa [unnamed, kept] using pages.of_samePlaces same
      · simpa [unnamed, kept] using pages.insert_iff distinct roomy delivers

end Updates

end MessageCache

/-! ## The rows after an action -/

theorem SamePlaces.statusStmt (messageId : String) (status : Int32) (content : Option String)
    (db : Db) :
    SamePlaces db.messages
      (db.runOption (Action.messageStmt.statusStmt messageId status content)).messages := by
  intro otherId
  by_cases empty : messageId = ""
  · simp [Action.messageStmt.statusStmt, empty, Db.runOption]
  · rw [Db.lookup_statusStmt empty]
    split
    · next here =>
        rw [here, Option.map_map]
        rfl
    · rfl

/-- A statement that writes the message or leaves the rows as they are. -/
theorem Message.Delivers.of_written {message : Message} {before after : KeyTable String MessageRow}
    {written : Prop}
    (writes : written → ∀ other, after.lookup other =
      if other = message.messageId then some message.toRow else before.lookup other)
    (skips : ¬written → after = before) : message.Delivers before after := by
  by_cases taken : written
  · have rows := writes taken
    constructor
    · intro otherId different
      rw [rows, if_neg different]
    · refine .inr fun row found => ?_
      rw [rows, if_pos rfl] at found
      obtain rfl := Option.some.inj found
      rfl
  · rw [skips taken]
    exact ⟨fun _ _ => rfl, .inl rfl⟩

theorem Message.delivers_synced (message : Message) (db : Db) :
    message.Delivers db.messages
      ((Stmt.insertOrIgnoreMessage message.messageId message.toRow).run db).messages :=
  .of_written Stmt.lookup_insertOrIgnoreMessage Stmt.messages_insertOrIgnoreMessage

theorem Message.delivers_upserted (message : Message) (db : Db) :
    message.Delivers db.messages (db.runOption message.upsertStmt).messages :=
  .of_written Db.lookup_upsertStmt Db.messages_upsertStmt

/-! ## The actions -/

/-- What every action keeps: no bucket has an id twice, and there is room in a
bucket. -/
structure MessageCache.Sound (cache : MessageCache) : Prop where
  distinct : cache.DistinctIds
  roomy : 0 < cache.bucketSize

namespace MessageCache.Sound

variable {cache : MessageCache} (sound : cache.Sound)

include sound

theorem insert (message : Message) : (cache.insert message).Sound := by
  constructor
  · exact sound.distinct.insert message
  · rw [bucketSize_insert]
    exact sound.roomy

theorem update (messageId : String) {change : Message → Message}
    (sameId : ∀ message, (change message).messageId = message.messageId) :
    (cache.updateMessageById messageId change).2.Sound := by
  constructor
  · exact sound.distinct.updateMessageById messageId sameId
  · rw [updateMessageById]
    split <;> exact sound.roomy

theorem merge (message : Message) {change : Message → Message}
    (sameId : ∀ cached, (change cached).messageId = cached.messageId) :
    (cache.merge change message).Sound := by
  rw [MessageCache.merge]
  split
  · exact sound.update message.messageId sameId
  · split
    · exact sound.insert message
    · exact sound

end MessageCache.Sound

theorem MessageCache.Sound.start (platform : Platform) (launches : Nat) :
    (platform.messageCache launches).Sound := by
  constructor
  · intro convId bucket found
    exact absurd found.symm (Option.some_ne_none bucket)
  · exact Nat.zero_lt_succ 99

namespace Action

theorem sound_apply {client : Client} (sound : client.msgCache.Sound) (action : Action) :
    (action.apply client).msgCache.Sound := by
  rw [msgCache_apply]
  cases action with
  | storeSyncedMessage message => exact sound.insert message
  | storeListedMessage message => exact sound.insert message
  | receiveMessage message => exact sound.insert message
  | markMessageRead messageId =>
      rw [nextMsgCache]
      split
      · exact sound
      · exact sound.update messageId fun _ => rfl
  | applyMessageStatus messageId status => exact sound.update messageId fun _ => rfl
  | applyEdit messageId edited => exact sound.update messageId fun _ => rfl
  | recallNotified message => exact sound.merge message fun _ => rfl
  | deleteNotified message => exact sound.merge message fun _ => rfl
  | editNotified message => exact sound.merge message fun _ => rfl
  | restart => exact .start _ _
  | _ => exact sound

/-- The action brings a message in order, beside the rows that it leaves. -/
def InOrder (limit : Nat) (client : Client) (message : Message) (action : Action) : Prop :=
  client.msgCache.TakesInOrder limit client.table.messages
    (client.table.runOption (action.messageStmt client)).messages message

/-- A notified change of a message that is not cached brings it in order. -/
def NotifiesInOrder (limit : Nat) (client : Client) (message : Message) (action : Action) :
    Prop :=
  client.msgCache.find? message.messageId = none → message.convId ≠ "" →
    action.InOrder limit client message

/-- The inputs on which an action leaves a valid answer for every conversation. -/
def KeepsHistoryValid (limit : Nat) (client : Client) : Action → Prop
  | storeSyncedMessage message => (storeSyncedMessage message).InOrder limit client message
  | storeListedMessage message => (storeListedMessage message).InOrder limit client message
  | receiveMessage message => (receiveMessage message).InOrder limit client message
  | recallNotified message =>
      client.msgCache.FindsInPlace message ∧
        (recallNotified message).NotifiesInOrder limit client message
  | deleteNotified message =>
      client.msgCache.FindsInPlace message ∧
        (deleteNotified message).NotifiesInOrder limit client message
  | editNotified message => (editNotified message).NotifiesInOrder limit client message
  | _ => True

section OneAction

variable {limit : Nat} {client : Client} (sound : client.msgCache.Sound)
  (pages : client.msgCache.HoldsPages limit client.table.messages)

include sound pages

/-- A notified withdrawal keeps the pages if the copy that is found stays in place,
and a message that is not found comes in order. -/
theorem withdraw_iff {message : Message} {change : Message → Message} {action : Action}
    (same : SamePlaces client.table.messages
      (client.table.runOption (action.messageStmt client)).messages)
    (sameId : ∀ cached, (change cached).messageId = cached.messageId)
    (sameSeq : ∀ cached, (change cached).seq = cached.seq)
    (renames : ∀ cached, (change cached).convId =
      if message.convId ≠ "" then message.convId else cached.convId) :
    (client.msgCache.merge change message).HoldsPages limit
        (client.table.runOption (action.messageStmt client)).messages ↔
      client.msgCache.FindsInPlace message ∧ action.NotifiesInOrder limit client message :=
  pages.merge_iff sound.distinct sound.roomy same
    ((pages.update_iff sound.distinct same sameId sameSeq).trans
      (MessageCache.findsInPlace_iff pages.keyed renames))
    fun missing _ _ found => absurd (found.symm.trans missing) (Option.some_ne_none _)

theorem holdsPages_apply_iff (action : Action) :
    (action.apply client).msgCache.HoldsPages limit (action.apply client).table.messages ↔
      action.KeepsHistoryValid limit client := by
  rw [msgCache_apply, action.messages_apply client]
  cases action with
  | storeSyncedMessage message =>
      exact pages.insert_iff sound.distinct sound.roomy (message.delivers_synced client.table)
  | storeListedMessage message =>
      exact pages.insert_iff sound.distinct sound.roomy (message.delivers_upserted client.table)
  | receiveMessage message =>
      exact pages.insert_iff sound.distinct sound.roomy (message.delivers_upserted client.table)
  | markMessageRead messageId =>
      refine iff_of_true ?_ trivial
      rw [nextMsgCache]
      split
      · exact pages
      · exact pages.update sound.distinct (fun _ => rfl) (fun _ => rfl) (fun _ => rfl)
          fun _ => rfl
  | applyMessageStatus messageId status =>
      have same := SamePlaces.statusStmt messageId status none client.table
      exact iff_of_true
        (pages.update sound.distinct same (fun _ => rfl) (fun _ => rfl) fun _ => rfl) trivial
  | applyEdit messageId edited =>
      have same := SamePlaces.statusStmt messageId edited.status (some edited.content)
        client.table
      exact iff_of_true
        (pages.update sound.distinct same (fun _ => rfl) (fun _ => rfl) fun _ => rfl) trivial
  | recallNotified message =>
      exact withdraw_iff sound pages (.statusStmt _ _ _ client.table) (fun _ => rfl)
        (fun _ => rfl) fun _ => rfl
  | deleteNotified message =>
      exact withdraw_iff sound pages (.statusStmt _ 2 none client.table) (fun _ => rfl)
        (fun _ => rfl) fun _ => rfl
  | editNotified message =>
      have same : SamePlaces client.table.messages
          (client.table.runOption ((editNotified message).messageStmt client)).messages :=
        .statusStmt _ _ _ client.table
      have edited : (client.msgCache.updateMessageById message.messageId
          (Client.editCached message)).2.HoldsPages limit
            (client.table.runOption ((editNotified message).messageStmt client)).messages :=
        pages.update sound.distinct same (fun _ => rfl) (fun _ => rfl) fun _ => rfl
      exact (pages.merge_iff sound.distinct sound.roomy same (iff_of_true edited trivial)
        fun _ => trivial).trans (Iff.of_eq (true_and _))
  | restart =>
      refine iff_of_true (fun convId nonempty => ?_) trivial
      exact absurd rfl nonempty
  | _ => exact iff_of_true pages trivial

end OneAction

end Action

/-! ## Runs -/

/-- In a process started on any database, whatever `getHistory` would answer from
the cache to a request for the newest `limit` messages is valid in every state,
between any two actions too, exactly when every action keeps it so. -/
theorem historyValid_always_iff (platform : Platform) (db : Db) (clockReads limit : Nat)
    (events : List Event) :
    EventRun.Always Action.apply (Client.HistoryValid limit) (.start platform db clockReads)
        (events.flatMap Event.actions) ↔
      EventRun.Guarded Action.apply (Action.KeepsHistoryValid limit)
        (.start platform db clockReads) (events.flatMap Event.actions) := by
  have exact_guard : ∀ (client : Client) (action : Action), client.msgCache.Sound →
      client.HistoryValid limit →
        ((action.apply client).HistoryValid limit ↔ action.KeepsHistoryValid limit client) := by
    intro client action sound valid
    have pages := client.historyValid_iff.mp valid
    exact (action.apply client).historyValid_iff.trans
      (Action.holdsPages_apply_iff sound pages action)
  have initially : (Client.start platform db clockReads).HistoryValid limit := by
    refine (Client.historyValid_iff _).mpr fun convId nonempty => ?_
    exact absurd rfl nonempty
  exact EventRun.always_iff_guarded (fun _ action sound _ => action.sound_apply sound)
    exact_guard (.start platform 0) initially _

/-- Two messages are cached, and one is asked for. -/
theorem not_historyValid_always_twoMessages :
    ¬EventRun.Always Action.apply (Client.HistoryValid 1) (.start default {} 0)
      ([newMessage "c1" "m1", newMessage "c1" "m2"].flatMap Event.actions) := by
  intro always
  have given := always.last "c1"
    [{ messageId := "m1", convId := "c1", contentType := 1 },
      { messageId := "m2", convId := "c1", contentType := 1 }] (by decide)
  exact absurd given.atMost (by decide)

end AnychatSdk
