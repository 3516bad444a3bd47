import AnychatSdk.Cache.MessageCache
import AnychatSdk.Lib.Greatest

/-!
# The newest messages of a conversation

Whatever the order in which messages are inserted, the bucket of a conversation
holds the ones with the highest sequence numbers, as long as the numbers tell the
messages of the conversation apart.
-/

namespace AnychatSdk

open Greatest

namespace MessageCache

/-- A sequence of insertions. -/
def insertAll (inserted : List Message) (cache : MessageCache) : MessageCache :=
  inserted.foldl (fun cache message => cache.insert message) cache

/-- The messages of a conversation, each in the form in which it came first. -/
def firstForms (convId : String) : List Message → List Message
  | [] => []
  | message :: later =>
      if message.convId = convId then
        message :: (firstForms convId later).filter fun other =>
          other.messageId ≠ message.messageId
      else firstForms convId later

/-- Within a conversation a message id stands for one sequence number, and a
sequence number for one message id. -/
def SequencesMatchIds (inserted : List Message) : Prop :=
  ∀ first ∈ inserted, ∀ second ∈ inserted, first.convId = second.convId →
    (first.messageId = second.messageId ↔ first.seq = second.seq)

/-- The bucket of a conversation holds its newest messages, each once and in the
form of its first insertion, by ascending sequence number. -/
structure KeepsNewest (cache : MessageCache) (inserted : List Message) (convId : String) :
    Prop where
  newest : (cache.get convId).Perm
    (greatest Message.seq cache.bucketSize (firstForms convId inserted))
  ascending : Ascending Message.seq (cache.get convId)

/-! ## First forms -/

section FirstForms

variable {convId : String} {inserted : List Message}

theorem mem_of_mem_firstForms {message : Message}
    (member : message ∈ firstForms convId inserted) :
    message ∈ inserted ∧ message.convId = convId := by
  induction inserted with
  | nil => exact absurd member List.not_mem_nil
  | cons first later ih =>
      rw [firstForms] at member
      split at member
      · next here =>
          rcases List.mem_cons.mp member with rfl | rest
          · exact ⟨List.mem_cons_self, here⟩
          · have found := ih (List.mem_of_mem_filter rest)
            exact ⟨List.mem_cons_of_mem first found.1, found.2⟩
      · have found := ih member
        exact ⟨List.mem_cons_of_mem first found.1, found.2⟩

theorem nodup_ids_firstForms :
    ((firstForms convId inserted).map Message.messageId).Nodup := by
  induction inserted with
  | nil => exact List.nodup_nil
  | cons first later ih =>
      rw [firstForms]
      split
      · rw [List.map_cons, List.nodup_cons]
        refine ⟨fun again => ?_, ih.sublist (List.filter_sublist.map _)⟩
        rcases List.mem_map.mp again with ⟨other, otherMem, same⟩
        exact of_decide_eq_true (List.mem_filter.mp otherMem).2 same
      · exact ih

/-- Every message of the conversation has a first form. -/
theorem exists_firstForm {message : Message} (member : message ∈ inserted)
    (here : message.convId = convId) :
    ∃ first ∈ firstForms convId inserted, first.messageId = message.messageId := by
  induction inserted with
  | nil => exact absurd member List.not_mem_nil
  | cons front later ih =>
      have later_first : message ∈ later →
          ∃ first ∈ firstForms convId later, first.messageId = message.messageId := ih
      rw [firstForms]
      split
      · by_cases same : message.messageId = front.messageId
        · exact ⟨front, List.mem_cons_self, same.symm⟩
        · rcases List.mem_cons.mp member with rfl | rest
          · exact absurd rfl same
          · rcases later_first rest with ⟨first, firstMem, sameId⟩
            refine ⟨first, List.mem_cons_of_mem front (List.mem_filter.mpr ⟨firstMem, ?_⟩), sameId⟩
            exact decide_eq_true fun other => same (sameId.symm.trans other)
      · next elsewhere =>
          rcases List.mem_cons.mp member with rfl | rest
          · exact absurd here elsewhere
          · exact later_first rest

/-- A further message counts unless it belongs elsewhere or its id was there. -/
theorem firstForms_concat (inserted : List Message) (message : Message) :
    firstForms convId (inserted ++ [message]) =
      if message.convId = convId ∧
          ∀ first ∈ firstForms convId inserted, first.messageId ≠ message.messageId then
        firstForms convId inserted ++ [message]
      else firstForms convId inserted := by
  induction inserted with
  | nil => simp [firstForms]
  | cons front later ih =>
      rw [List.cons_append, firstForms, firstForms, ih]
      by_cases here : front.convId = convId
      · rw [if_pos here, if_pos here]
        by_cases new : message.convId = convId ∧
            ∀ first ∈ firstForms convId later, first.messageId ≠ message.messageId
        · rw [if_pos new, List.filter_append]
          by_cases same : message.messageId = front.messageId
          · rw [if_neg fun all => all.2 front List.mem_cons_self same.symm]
            simp [same]
          · rw [if_pos]
            · simp [same]
            · refine ⟨new.1, fun first firstMem => ?_⟩
              rcases List.mem_cons.mp firstMem with rfl | rest
              · exact Ne.symm same
              · exact new.2 first (List.mem_of_mem_filter rest)
        · rw [if_neg new, if_neg]
          rintro ⟨messageHere, absent⟩
          refine new ⟨messageHere, fun first firstMem sameId => ?_⟩
          refine absent first (List.mem_cons_of_mem front (List.mem_filter.mpr ⟨firstMem, ?_⟩))
            sameId
          exact decide_eq_true fun other =>
            absent front List.mem_cons_self (other.symm.trans sameId)
      · rw [if_neg here, if_neg here]

theorem SequencesMatchIds.of_append {more : List Message}
    (matching : SequencesMatchIds (inserted ++ more)) : SequencesMatchIds inserted :=
  fun first firstMem second secondMem =>
    matching first (List.mem_append_left more firstMem) second
      (List.mem_append_left more secondMem)

theorem SequencesMatchIds.nodup_seqs (matching : SequencesMatchIds inserted) (convId : String) :
    ((firstForms convId inserted).map Message.seq).Nodup := by
  refine List.Nodup.map_on ?_ (List.Nodup.of_map _ nodup_ids_firstForms)
  intro first firstMem second secondMem sameSeq
  have firstFound := mem_of_mem_firstForms firstMem
  have secondFound := mem_of_mem_firstForms secondMem
  have sameId := (matching first firstFound.1 second secondFound.1
    (firstFound.2.trans secondFound.2.symm)).mpr sameSeq
  exact List.inj_on_of_nodup_map nodup_ids_firstForms firstMem secondMem sameId

end FirstForms

/-! ## One insertion -/

section Insertion

variable {cache : MessageCache} {inserted : List Message} {convId : String} {message : Message}

theorem get_insert (cache : MessageCache) (message : Message) (convId : String) :
    (cache.insert message).get convId =
      if convId = message.convId ∧
          ∀ old ∈ cache.get convId, old.messageId ≠ message.messageId then
        cache.pushSorted (cache.get convId) message
      else cache.get convId := by
  rw [insert]
  by_cases known : (cache.get message.convId).any
      fun old => old.messageId = message.messageId
  · rw [if_pos known, if_neg]
    rintro ⟨rfl, unknown⟩
    rcases List.any_eq_true.mp known with ⟨old, oldMem, same⟩
    exact unknown old oldMem (of_decide_eq_true same)
  · rw [if_neg known]
    have unknown : ∀ old ∈ cache.get message.convId, old.messageId ≠ message.messageId := by
      simpa using known
    by_cases same : convId = message.convId
    · subst same
      rw [if_pos ⟨rfl, unknown⟩, get, KeyTable.lookup_insert_eq_ite, if_pos rfl]
      rfl
    · rw [if_neg fun both => same both.1, get, KeyTable.lookup_insert_eq_ite, if_neg same]
      rfl

/-- Sorting messages of distinct numbers and dropping one from a bucket that is
too full leaves the newest. -/
theorem pushSorted_newest {bucket : List Message} (bounded : bucket.length ≤ cache.bucketSize)
    (distinct : ((bucket ++ [message]).map Message.seq).Nodup) :
    (cache.pushSorted bucket message).Perm
        (greatest Message.seq cache.bucketSize (bucket ++ [message])) ∧
      Ascending Message.seq (cache.pushSorted bucket message) := by
  have perm := cache.stdSort.perm (bucket ++ [message])
  have ascending : Ascending Message.seq (cache.stdSort.sort (bucket ++ [message])) := by
    have numbers := List.pairwise_map.mp ((perm.map Message.seq).nodup_iff.mpr distinct)
    refine ((cache.stdSort.sorted _).and numbers).imp fun related => ?_
    exact Int64.lt_of_le_of_ne related.1 related.2
  have length_eq := cache.stdSort.length_sort_concat bucket message
  have dropped : cache.pushSorted bucket message =
      (cache.stdSort.sort (bucket ++ [message])).drop
        ((cache.stdSort.sort (bucket ++ [message])).length - cache.bucketSize) := by
    rw [pushSorted]
    split
    · have one : (cache.stdSort.sort (bucket ++ [message])).length - cache.bucketSize = 1 := by
        omega
      rw [one, List.drop_one]
    · have none : (cache.stdSort.sort (bucket ++ [message])).length - cache.bucketSize = 0 := by
        omega
      rw [none, List.drop_zero]
  rw [dropped]
  constructor
  · exact (greatest_of_ascending ascending _).symm.trans
      (greatest_perm Message.seq perm cache.bucketSize)
  · exact ascending.sublist (List.drop_sublist _ _)

theorem KeepsNewest.length_le (keeps : cache.KeepsNewest inserted convId)
    (matching : SequencesMatchIds inserted) :
    (cache.get convId).length ≤ cache.bucketSize := by
  rw [keeps.newest.length_eq, length_greatest (matching.nodup_seqs convId)]
  exact Nat.min_le_left _ _

/-- An insertion keeps the newest messages of every conversation. -/
theorem KeepsNewest.insert (keeps : cache.KeepsNewest inserted convId)
    (matching : SequencesMatchIds (inserted ++ [message])) :
    (cache.insert message).KeepsNewest (inserted ++ [message]) convId := by
  have matchingBefore := matching.of_append
  have distinct := matchingBefore.nodup_seqs convId
  have messageMem : message ∈ inserted ++ [message] :=
    List.mem_append_right inserted (List.mem_singleton.mpr rfl)
  by_cases here : convId = message.convId
  swap
  · -- The message belongs to another conversation.
    have sameForms : firstForms convId (inserted ++ [message]) = firstForms convId inserted := by
      rw [firstForms_concat, if_neg fun both => here both.1.symm]
    have sameBucket : (cache.insert message).get convId = cache.get convId := by
      rw [get_insert, if_neg fun both => here both.1]
    constructor
    · rw [sameBucket, sameForms, bucketSize_insert]
      exact keeps.newest
    · rw [sameBucket]
      exact keeps.ascending
  have sameNumber : ∀ first ∈ firstForms convId inserted,
      (first.messageId = message.messageId ↔ first.seq = message.seq) := by
    intro first firstMem
    have found := mem_of_mem_firstForms firstMem
    exact matching first (List.mem_append_left _ found.1) message messageMem
      (found.2.trans here)
  have inForms : ∀ old ∈ cache.get convId, old ∈ firstForms convId inserted :=
    fun old member => (mem_greatest.mp (keeps.newest.mem_iff.mp member)).1
  by_cases known : ∀ old ∈ cache.get convId, old.messageId ≠ message.messageId
  swap
  · -- A copy of the message is in the bucket.
    simp only [not_forall, not_not] at known
    rcases known with ⟨old, oldMem, same⟩
    have sameForms : firstForms convId (inserted ++ [message]) = firstForms convId inserted := by
      rw [firstForms_concat, if_neg fun both => both.2 old (inForms old oldMem) same]
    have sameBucket : (cache.insert message).get convId = cache.get convId := by
      rw [get_insert, if_neg fun both => both.2 old oldMem same]
    constructor
    · rw [sameBucket, sameForms, bucketSize_insert]
      exact keeps.newest
    · rw [sameBucket]
      exact keeps.ascending
  have pushed : (cache.insert message).get convId =
      cache.pushSorted (cache.get convId) message := by
    rw [get_insert, if_pos ⟨here, known⟩]
  have distinctPushed : ((cache.get convId ++ [message]).map Message.seq).Nodup := by
    rw [List.map_append, List.map_singleton, List.nodup_append]
    refine ⟨(keeps.newest.map Message.seq).nodup_iff.mpr
      (distinct.sublist ((greatest_sublist _ _).map _)), List.nodup_singleton _, ?_⟩
    rintro seq seqMem other otherMem rfl
    rcases List.mem_map.mp seqMem with ⟨old, oldMem, sameSeq⟩
    have sameId := (sameNumber old (inForms old oldMem)).mpr
      (sameSeq.trans (List.mem_singleton.mp otherMem))
    exact known old oldMem sameId
  have newest := pushSorted_newest (keeps.length_le matchingBefore) distinctPushed
  have appended := greatest_perm Message.seq (keeps.newest.append_right [message])
    cache.bucketSize
  constructor
  · rw [pushed, bucketSize_insert]
    refine newest.1.trans (appended.trans ?_)
    by_cases new : ∀ first ∈ firstForms convId inserted, first.messageId ≠ message.messageId
    · rw [greatest_greatest_append distinct, firstForms_concat, if_pos ⟨here.symm, new⟩]
    · -- The message was there before and had to go.
      rw [firstForms_concat, if_neg fun both => new both.2]
      simp only [not_forall, not_not] at new
      rcases new with ⟨first, firstMem, sameId⟩
      have evicted : first ∉ greatest Message.seq cache.bucketSize (firstForms convId inserted) :=
        fun member => known first (keeps.newest.mem_iff.mpr member) sameId
      rw [greatest_greatest_append_dropped distinct firstMem evicted
        ((sameNumber first firstMem).mp sameId).symm]
  · rw [pushed]
    exact newest.2

end Insertion

/-! ## Every sequence of insertions -/

theorem keepsNewest_empty (bucketSize : Nat)
    (stdSort : OrderBy Message (OrderBy.Ascending Message.seq)) (convId : String) :
    KeepsNewest { bucketSize := bucketSize, stdSort := stdSort } [] convId where
  newest := List.Perm.nil
  ascending := List.Pairwise.nil

theorem KeepsNewest.insertAll {cache : MessageCache} {inserted : List Message} {convId : String}
    (keeps : cache.KeepsNewest inserted convId) (more : List Message)
    (matching : SequencesMatchIds (inserted ++ more)) :
    (cache.insertAll more).KeepsNewest (inserted ++ more) convId := by
  induction more generalizing cache inserted with
  | nil =>
      rw [List.append_nil]
      exact keeps
  | cons message later ih =>
      rw [← List.singleton_append, ← List.append_assoc] at matching ⊢
      exact ih (keeps.insert matching.of_append) matching

@[simp]
theorem bucketSize_insertAll (inserted : List Message) (cache : MessageCache) :
    (cache.insertAll inserted).bucketSize = cache.bucketSize := by
  induction inserted generalizing cache with
  | nil => rfl
  | cons message later ih => exact (ih _).trans (bucketSize_insert cache message)

/-- `maxSeq` is the greatest sequence number inserted, if any was. -/
def MaxSeqIsGreatest (cache : MessageCache) (inserted : List Message) (convId : String) : Prop :=
  ∀ message ∈ inserted, message.convId = convId →
    message.seq ≤ cache.maxSeq convId ∧
      ∃ top ∈ inserted, top.convId = convId ∧ top.seq = cache.maxSeq convId

theorem KeepsNewest.maxSeq {cache : MessageCache} {inserted : List Message} {convId : String}
    (keeps : cache.KeepsNewest inserted convId) (matching : SequencesMatchIds inserted)
    (room : 1 ≤ cache.bucketSize) : cache.MaxSeqIsGreatest inserted convId := by
  intro message member here
  have distinct := matching.nodup_seqs convId
  rcases exists_firstForm member here with ⟨first, firstMem, sameId⟩
  have firstFound := mem_of_mem_firstForms firstMem
  have sameSeq := (matching first firstFound.1 message member (firstFound.2.trans here.symm)).mp
    sameId
  have nonempty : cache.get convId ≠ [] := by
    have positive := List.length_pos_of_mem firstMem
    have length_eq := keeps.newest.length_eq
    rw [length_greatest distinct] at length_eq
    exact List.ne_nil_of_length_pos (by omega)
  rcases List.eq_nil_or_concat (cache.get convId) with empty | ⟨front, top, split⟩
  · exact absurd empty nonempty
  rw [List.concat_eq_append] at split
  have topSeq : cache.maxSeq convId = top.seq := by simp [MessageCache.maxSeq, split]
  have topMem : top ∈ cache.get convId := by simp [split]
  have topFirst := (mem_greatest.mp (keeps.newest.mem_iff.mp topMem)).1
  have topFound := mem_of_mem_firstForms topFirst
  refine ⟨?_, top, topFound.1, topFound.2, topSeq.symm⟩
  rw [topSeq, ← sameSeq]
  by_contra higher
  -- Then some message above the back of the bucket is among the newest.
  have topAbove : above Message.seq top.seq (greatest Message.seq cache.bucketSize
      (firstForms convId inserted)) = 0 := by
    rw [← above_perm keeps.newest, split, above, List.countP_eq_zero]
    intro other otherMem
    rw [decide_eq_true_iff]
    have ascending := keeps.ascending
    rw [split] at ascending
    rcases List.mem_append.mp otherMem with inFront | isTop
    · exact Int64.lt_asymm ((List.pairwise_append.mp ascending).2.2 other inFront top
        (List.mem_singleton.mpr rfl))
    · rw [List.mem_singleton.mp isTop]
      exact Int64.lt_irrefl
  have someAbove : 0 < above Message.seq top.seq (firstForms convId inserted) :=
    List.countP_pos_iff.mpr ⟨first, firstMem, decide_eq_true (Int64.not_le.mp higher)⟩
  rw [above_greatest distinct] at topAbove
  omega

/-- After any insertions into an empty cache, the bucket of every conversation
holds its newest messages, as many as it has room for, and `maxSeq` is the
greatest sequence number unless there is no room at all. -/
theorem insertAll_keepsNewest (bucketSize : Nat)
    (stdSort : OrderBy Message (OrderBy.Ascending Message.seq)) (inserted : List Message)
    (matching : SequencesMatchIds inserted) (convId : String) :
    let cache := insertAll inserted { bucketSize := bucketSize, stdSort := stdSort }
    cache.bucketSize = bucketSize ∧ cache.KeepsNewest inserted convId ∧
      (cache.get convId).length = min bucketSize (firstForms convId inserted).length ∧
      (1 ≤ bucketSize → cache.MaxSeqIsGreatest inserted convId) := by
  have keeps := (keepsNewest_empty bucketSize stdSort convId).insertAll inserted matching
  have sameSize := bucketSize_insertAll inserted { bucketSize := bucketSize, stdSort := stdSort }
  rw [List.nil_append] at keeps
  refine ⟨sameSize, keeps, ?_, fun room => ?_⟩
  · rw [keeps.newest.length_eq, length_greatest (matching.nodup_seqs convId), sameSize]
  · exact keeps.maxSeq matching (room.trans_eq sameSize.symm)

/-- A message that comes late, and one that comes again after it had to go. -/
def lateAndAgain : List Message :=
  [{ messageId := "m3", convId := "c1", seq := 3 }, { messageId := "m1", convId := "c1", seq := 1 },
   { messageId := "n1", convId := "c2", seq := 1 }, { messageId := "m2", convId := "c1", seq := 2 },
   { messageId := "m1", convId := "c1", seq := 1, content := "again" }]

theorem insertAll_keepsNewest_lateAndAgain :
    SequencesMatchIds lateAndAgain ∧
      (insertAll lateAndAgain { bucketSize := 2, stdSort := OrderBy.stable _ }).KeepsNewest
        lateAndAgain "c1" ∧
      firstForms "c1" lateAndAgain =
        [{ messageId := "m3", convId := "c1", seq := 3 },
         { messageId := "m1", convId := "c1", seq := 1 },
         { messageId := "m2", convId := "c1", seq := 2 }] := by
  have matching : SequencesMatchIds lateAndAgain := by
    unfold SequencesMatchIds
    decide
  exact ⟨matching, (insertAll_keepsNewest 2 (OrderBy.stable _) lateAndAgain matching "c1").2.1,
    by decide⟩

end MessageCache

end AnychatSdk
