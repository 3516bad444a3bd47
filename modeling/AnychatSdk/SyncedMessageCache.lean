import AnychatSdk.Cache.MessageCache
import AnychatSdk.Lib.Batch

/-!
# The message cache after a repeated response

A message that has been inserted is in its bucket, or the bucket is full of later
ones; inserted again it stays out of it.
-/

namespace AnychatSdk

namespace MessageCache

/-! ## One bucket -/

/-- The same messages, and in the same order but for equal numbers. -/
structure Tied (first second : List Message) : Prop where
  perm : second.Perm first
  seqs : second.map Message.seq = first.map Message.seq

/-- The bucket has the id, or is full of later messages. -/
def Covers (bucketSize : Nat) (bucket : List Message) (message : Message) : Prop :=
  (∃ old ∈ bucket, old.messageId = message.messageId) ∨
    (bucketSize ≤ bucket.length ∧ (bucket.map Message.seq).Pairwise (· ≤ ·) ∧
      ∀ old ∈ bucket, message.seq < old.seq)

/-- Among messages of one conversation the id and the number go together. -/
def Agree (first second : Message) : Prop :=
  first.messageId = second.messageId ↔ first.seq = second.seq

theorem Tied.refl (bucket : List Message) : Tied bucket bucket :=
  ⟨.refl _, rfl⟩

theorem Tied.trans {first second third : List Message} (before : Tied first second)
    (after : Tied second third) : Tied first third :=
  ⟨after.perm.trans before.perm, after.seqs.trans before.seqs⟩

theorem Covers.of_tied {bucketSize : Nat} {first second : List Message} {message : Message}
    (tied : Tied first second) (covers : Covers bucketSize first message) :
    Covers bucketSize second message := by
  rcases covers with ⟨old, member, same⟩ | ⟨full, sorted, later⟩
  · exact .inl ⟨old, tied.perm.mem_iff.mpr member, same⟩
  · refine .inr ⟨full.trans_eq tied.perm.length_eq.symm, ?_, fun old member => ?_⟩
    · rw [tied.seqs]
      exact sorted
    · exact later old (tied.perm.mem_iff.mp member)

section Push

variable {cache : MessageCache} {bucket : List Message} {message : Message}

/-- A bucket that is full after an insertion has dropped the least message. -/
theorem pushSorted_cases (cache : MessageCache) (bucket : List Message) (message : Message) :
    ((cache.pushSorted bucket message).Perm (bucket ++ [message]) ∧
        (bucket ++ [message]).length ≤ cache.bucketSize) ∨
      ∃ front, (front :: cache.pushSorted bucket message).Perm (bucket ++ [message]) ∧
        (∀ old ∈ cache.pushSorted bucket message, front.seq ≤ old.seq) ∧
        ((cache.pushSorted bucket message).map Message.seq).Pairwise (· ≤ ·) ∧
        cache.bucketSize ≤ (cache.pushSorted bucket message).length := by
  have perm := cache.stdSort.perm (bucket ++ [message])
  have sorted := cache.stdSort.sorted (bucket ++ [message])
  rw [pushSorted]
  split
  · next excess =>
      cases grown : cache.stdSort.sort (bucket ++ [message]) with
      | nil =>
          rw [grown] at excess
          exact absurd excess (Nat.not_lt_zero _)
      | cons front rest =>
          rw [grown] at perm sorted excess
          rcases List.pairwise_cons.mp sorted with ⟨least, restSorted⟩
          exact .inr ⟨front, perm, least, List.pairwise_map.mpr restSorted,
            Nat.le_of_lt_succ excess⟩
  · next within => exact .inl ⟨perm, perm.length_eq ▸ Nat.le_of_not_lt within⟩

/-- What is dropped from a bucket stays covered by it. -/
theorem covers_of_dropped {kept : List Message} {bucketSize : Nat} {front : Message}
    (least : ∀ old ∈ kept, front.seq ≤ old.seq)
    (sorted : (kept.map Message.seq).Pairwise (· ≤ ·)) (full : bucketSize ≤ kept.length)
    {dropped : Message} (same : front.seq = dropped.seq)
    (agree : ∀ old ∈ kept, Agree old dropped) : Covers bucketSize kept dropped := by
  by_cases copy : ∃ old ∈ kept, old.messageId = dropped.messageId
  · exact .inl copy
  · refine .inr ⟨full, sorted, fun old member => ?_⟩
    refine Int64.lt_of_le_of_ne (same ▸ least old member) fun equal => copy ⟨old, member, ?_⟩
    exact (agree old member).mpr equal.symm

/-- Another message may drop the copy from the bucket, but never a later message
without it. -/
theorem Covers.pushSorted {message other : Message}
    (covers : Covers cache.bucketSize bucket message)
    (agree : ∀ old ∈ bucket ++ [other], Agree old message) :
    Covers cache.bucketSize (cache.pushSorted bucket other) message := by
  rcases cache.pushSorted_cases bucket other with
    ⟨perm, within⟩ | ⟨front, perm, least, sorted, full⟩
  · rcases covers with ⟨old, member, same⟩ | ⟨full, _⟩
    · exact .inl ⟨old, perm.mem_iff.mpr (List.mem_append_left _ member), same⟩
    · rw [List.length_append] at within
      exact absurd (full.trans_lt (Nat.lt_succ_self _)) (Nat.not_lt.mpr within)
  · have agreeKept : ∀ old ∈ cache.pushSorted bucket other, Agree old message :=
      fun old member => agree old (perm.mem_iff.mp (List.mem_cons_of_mem front member))
    rcases covers with ⟨old, member, same⟩ | ⟨_, _, later⟩
    · rcases List.mem_cons.mp (perm.mem_iff.mpr (List.mem_append_left [other] member)) with
        rfl | kept
      · exact covers_of_dropped least sorted full
          ((agree old (List.mem_append_left _ member)).mp same) agreeKept
      · exact .inl ⟨old, kept, same⟩
    · refine .inr ⟨full, sorted, fun old member => ?_⟩
      rcases List.mem_append.mp (perm.mem_iff.mp List.mem_cons_self) with inBucket | new
      · exact Int64.lt_of_lt_of_le (later front inBucket) (least old member)
      · obtain rfl := List.mem_singleton.mp new
        have rest : (cache.pushSorted bucket front).Perm bucket :=
          (List.perm_cons front).mp (perm.trans (List.perm_append_singleton front bucket))
        exact later old (rest.mem_iff.mp member)

theorem covers_pushSorted (agree : ∀ old ∈ bucket ++ [message], Agree old message) :
    Covers cache.bucketSize (cache.pushSorted bucket message) message := by
  rcases cache.pushSorted_cases bucket message with ⟨perm, _⟩ | ⟨front, perm, least, sorted, full⟩
  · exact .inl ⟨message, perm.mem_iff.mpr (List.mem_append_right _ List.mem_cons_self), rfl⟩
  · rcases List.mem_cons.mp (perm.mem_iff.mpr (List.mem_append_right bucket
        List.mem_cons_self)) with rfl | kept
    · exact covers_of_dropped least sorted full rfl fun old member =>
        agree old (perm.mem_iff.mp (List.mem_cons_of_mem message member))
    · exact .inl ⟨message, kept, rfl⟩

/-- A message that comes before a full bucket leaves it as it is. -/
theorem tied_pushSorted (full : cache.bucketSize ≤ bucket.length)
    (sorted : (bucket.map Message.seq).Pairwise (· ≤ ·))
    (later : ∀ old ∈ bucket, message.seq < old.seq) :
    Tied bucket (cache.pushSorted bucket message) := by
  rcases cache.pushSorted_cases bucket message with ⟨_, within⟩ | ⟨front, perm, least, pushed, _⟩
  · rw [List.length_append] at within
    exact absurd (full.trans_lt (Nat.lt_succ_self _)) (Nat.not_lt.mpr within)
  · have frontNew : front = message := by
      rcases List.mem_cons.mp (perm.mem_iff.mpr (List.mem_append_right bucket
          List.mem_cons_self)) with same | kept
      · exact same.symm
      · rcases List.mem_append.mp (perm.mem_iff.mp List.mem_cons_self) with inBucket | new
        · exact absurd (later front inBucket) (Int64.not_lt.mpr (least message kept))
        · exact List.mem_singleton.mp new
    obtain rfl := frontNew
    have rest : (cache.pushSorted bucket front).Perm bucket :=
      (List.perm_cons front).mp (perm.trans (List.perm_append_singleton front bucket))
    exact ⟨rest, (rest.map Message.seq).eq_of_pairwise
      (fun _ _ _ _ => Int64.le_antisymm) pushed sorted⟩

end Push

/-! ## All buckets -/

/-- Equal up to the order of messages with equal numbers. -/
structure SameUpToTies (first second : MessageCache) : Prop where
  bucketSize : second.bucketSize = first.bucketSize
  absent : ∀ convId, first.buckets.lookup convId = none → second.buckets.lookup convId = none
  tied : ∀ convId bucket, first.buckets.lookup convId = some bucket →
    ∃ other, second.buckets.lookup convId = some other ∧ Tied bucket other

/-- The bucket of the message covers it. -/
def Settled (cache : MessageCache) (message : Message) : Prop :=
  ∃ bucket, cache.buckets.lookup message.convId = some bucket ∧
    Covers cache.bucketSize bucket message

/-- A message id always comes with one conversation and number, and a number of a
conversation with one id. -/
structure Consistent (Carries : String → Message → Prop) : Prop where
  sameConversation : ∀ firstId secondId first second, Carries firstId first →
    Carries secondId second → first.messageId = second.messageId → firstId = secondId
  agree : ∀ convId first second, Carries convId first → Carries convId second →
    Agree first second

/-- All messages of the cache are among the given ones. -/
def Within (Carries : String → Message → Prop) (cache : MessageCache) : Prop :=
  ∀ convId bucket, cache.buckets.lookup convId = some bucket →
    ∀ message ∈ bucket, Carries convId message

theorem SameUpToTies.refl (cache : MessageCache) : SameUpToTies cache cache where
  bucketSize := rfl
  absent _ none := none
  tied _ bucket found := ⟨bucket, found, .refl bucket⟩

theorem SameUpToTies.trans {first second third : MessageCache}
    (before : SameUpToTies first second) (after : SameUpToTies second third) :
    SameUpToTies first third where
  bucketSize := after.bucketSize.trans before.bucketSize
  absent convId none := after.absent convId (before.absent convId none)
  tied convId bucket found := by
    rcases before.tied convId bucket found with ⟨middle, middleFound, tied⟩
    rcases after.tied convId middle middleFound with ⟨last, lastFound, tiedLast⟩
    exact ⟨last, lastFound, tied.trans tiedLast⟩

theorem SameUpToTies.settled {first second : MessageCache} (same : SameUpToTies first second)
    {message : Message} (settled : first.Settled message) : second.Settled message := by
  rcases settled with ⟨bucket, found, covers⟩
  rcases same.tied message.convId bucket found with ⟨other, otherFound, tied⟩
  exact ⟨other, otherFound, same.bucketSize ▸ covers.of_tied tied⟩

/-- An insertion finds the id in its bucket, or puts the message there. -/
theorem insert_cases (cache : MessageCache) (message : Message) :
    (cache.insert message = cache ∧ ∃ bucket, cache.buckets.lookup message.convId = some bucket ∧
      ∃ old ∈ bucket, old.messageId = message.messageId) ∨
    (∀ old ∈ cache.get message.convId, old.messageId ≠ message.messageId) ∧
      ∀ convId, (cache.insert message).buckets.lookup convId =
        if convId = message.convId then
          some (cache.pushSorted (cache.get message.convId) message)
        else cache.buckets.lookup convId := by
  rw [insert]
  split
  · next present =>
      rcases List.any_eq_true.mp present with ⟨old, member, same⟩
      refine .inl ⟨rfl, ?_⟩
      rw [get] at member
      cases found : cache.buckets.lookup message.convId with
      | none =>
          rw [found] at member
          exact absurd member List.not_mem_nil
      | some bucket =>
          rw [found] at member
          exact ⟨bucket, rfl, old, member, of_decide_eq_true same⟩
  · next absent =>
      exact .inr ⟨by simpa using absent, fun convId => KeyTable.lookup_insert_eq_ite _ _ _ _⟩

theorem get_eq_of_lookup {cache : MessageCache} {convId : String} {bucket : List Message}
    (found : cache.buckets.lookup convId = some bucket) : cache.get convId = bucket := by
  rw [get, found]
  rfl

/-- Inserted again, a settled message changes no more than the order of ties. -/
theorem Settled.sameUpToTies_insert {cache : MessageCache} {message : Message}
    (settled : cache.Settled message) : SameUpToTies cache (cache.insert message) := by
  rcases cache.insert_cases message with ⟨unchanged, _⟩ | ⟨unknown, inserted⟩
  · rw [unchanged]
    exact .refl cache
  · rcases settled with ⟨bucket, found, covers⟩
    rw [get_eq_of_lookup found] at unknown inserted
    have pushed : Tied bucket (cache.pushSorted bucket message) := by
      rcases covers with ⟨old, member, same⟩ | ⟨full, sorted, later⟩
      · exact absurd same (unknown old member)
      · exact tied_pushSorted full sorted later
    refine ⟨bucketSize_insert cache message, fun convId none => ?_, fun convId other known => ?_⟩
    · rw [inserted, if_neg]
      · exact none
      · rintro rfl
        exact nomatch none.symm.trans found
    · rw [inserted]
      split
      · next same =>
          obtain rfl := Option.some.inj ((same ▸ known).symm.trans found)
          exact ⟨_, rfl, pushed⟩
      · exact ⟨other, known, .refl other⟩

section Insert

variable {Carries : String → Message → Prop} {cache : MessageCache} {message : Message}

theorem Within.get (within : Within Carries cache) {convId : String} {old : Message}
    (member : old ∈ cache.get convId) : Carries convId old := by
  rw [MessageCache.get] at member
  cases found : cache.buckets.lookup convId with
  | none =>
      rw [found] at member
      exact absurd member List.not_mem_nil
  | some bucket =>
      rw [found] at member
      exact within convId bucket found old member

theorem Within.insert (within : Within Carries cache)
    (carried : Carries message.convId message) : Within Carries (cache.insert message) := by
  rcases cache.insert_cases message with ⟨unchanged, _⟩ | ⟨_, inserted⟩
  · rw [unchanged]
    exact within
  · intro convId bucket found old member
    rw [inserted] at found
    split at found
    · next same =>
        obtain rfl := Option.some.inj found
        subst same
        rcases mem_pushSorted member with rfl | earlier
        · exact carried
        · exact within.get earlier
    · exact within convId bucket found old member

/-- The messages of the bucket and a new one agree with any message of the conversation. -/
theorem Consistent.agree_bucket (consistent : Consistent Carries) (within : Within Carries cache)
    (carried : Carries message.convId message) {other : Message}
    (carriedOther : Carries message.convId other) :
    ∀ old ∈ cache.get message.convId ++ [message], Agree old other := by
  intro old member
  rcases List.mem_append.mp member with earlier | new
  · exact consistent.agree _ _ _ (within.get earlier) carriedOther
  · obtain rfl := List.mem_singleton.mp new
    exact consistent.agree _ _ _ carried carriedOther

theorem Consistent.settled_insert (consistent : Consistent Carries)
    (within : Within Carries cache) (carried : Carries message.convId message) :
    (cache.insert message).Settled message := by
  rcases cache.insert_cases message with
    ⟨unchanged, bucket, found, present⟩ | ⟨_, inserted⟩
  · rw [unchanged]
    exact ⟨bucket, found, .inl present⟩
  · refine ⟨_, (inserted message.convId).trans (if_pos rfl), ?_⟩
    rw [bucketSize_insert]
    exact covers_pushSorted (consistent.agree_bucket within carried carried)

theorem Consistent.settled_insert_other (consistent : Consistent Carries)
    (within : Within Carries cache) (carried : Carries message.convId message) {other : Message}
    (carriedOther : Carries other.convId other) (settled : cache.Settled other) :
    (cache.insert message).Settled other := by
  rcases cache.insert_cases message with ⟨unchanged, _⟩ | ⟨_, inserted⟩
  · rw [unchanged]
    exact settled
  · rcases settled with ⟨bucket, found, covers⟩
    by_cases same : other.convId = message.convId
    · refine ⟨_, (inserted other.convId).trans (if_pos same), ?_⟩
      rw [same] at found carriedOther
      rw [bucketSize_insert]
      rw [← get_eq_of_lookup found] at covers
      exact covers.pushSorted (consistent.agree_bucket within carried carriedOther)
    · refine ⟨bucket, (inserted other.convId).trans ((if_neg same).trans found), ?_⟩
      rw [bucketSize_insert]
      exact covers

end Insert

/-- A batch of messages inserted twice. -/
theorem sameUpToTies_insertAll {Carries : String → Message → Prop}
    (consistent : Consistent Carries) {messages : List Message}
    (carried : ∀ message ∈ messages, Carries message.convId message) {cache : MessageCache}
    (within : Within Carries cache) :
    let insertAll := Batch.run (fun cache message => insert message cache) messages
    SameUpToTies (insertAll cache) (insertAll (insertAll cache)) := by
  intro insertAll
  have settled : ∀ message ∈ messages, (insertAll cache).Settled message :=
    @Batch.settled_run MessageCache Message (fun cache message => cache.insert message) Settled
      (Within Carries) messages
      (fun message member _ within => within.insert (carried message member))
      (fun message member _ within => consistent.settled_insert within (carried message member))
      (fun message member other listed _ within => consistent.settled_insert_other within
        (carried other listed) (carried message member))
      cache within
  exact @Batch.run_invariant MessageCache Message (fun cache message => cache.insert message)
    (SameUpToTies (insertAll cache)) messages
    (fun message member _ same =>
      same.trans (same.settled (settled message member)).sameUpToTies_insert)
    _ (.refl _)

end MessageCache

end AnychatSdk
