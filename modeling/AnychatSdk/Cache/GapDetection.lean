import AnychatSdk.Cache.NewestMessages
import Mathlib.Data.List.Induction

/-!
# Gap detection

`hasGapBefore` compares a sequence number with the successor of the highest one
that is cached.  As long as it finds no gap, every number up to the highest has
been inserted, and the bucket holds the last ones of them.  A gap that it finds
is a real one unless the highest number is the last of its type: that one has no
successor.
-/

namespace AnychatSdk

open Greatest

namespace MessageCache

/-- An empty cache. -/
def empty (bucketSize : Nat) (stdSort : OrderBy Message (OrderBy.Ascending Message.seq)) :
    MessageCache where
  bucketSize := bucketSize
  stdSort := stdSort

/-- The messages belong to one conversation, and they are numbered from 1 on; an id
always comes with the same number, and no other id does. -/
structure Numbered (convId : String) (inserted : List Message) : Prop where
  here : ∀ message ∈ inserted, message.convId = convId
  positive : ∀ message ∈ inserted, 1 ≤ message.seq
  matching : SequencesMatchIds inserted

/-- What the messages up to the highest number leave: each number has come, and the
bucket holds the last ones, as many as it has room for. -/
structure Contiguous (cache : MessageCache) (convId : String) (inserted : List Message) :
    Prop where
  allInserted : ∀ number : Int, 1 ≤ number → number ≤ (cache.maxSeq convId).toInt →
    ∃ message ∈ inserted, message.seq.toInt = number
  interval : (cache.get convId).map (fun message => message.seq.toInt) =
    let top := (cache.maxSeq convId).toInt.toNat
    let length := min cache.bucketSize top
    (List.range' (top - length + 1) length).map Int.ofNat

/-- Gap detection along a run of insertions: if it finds no gap, there is none; and
where it finds one, the message before has not come. -/
structure DetectsGaps (bucketSize : Nat)
    (stdSort : OrderBy Message (OrderBy.Ascending Message.seq)) (convId : String)
    (inserted : List Message) : Prop where
  contiguous :
    (∀ before message after, inserted = before ++ message :: after →
      ((empty bucketSize stdSort).insertAll before).hasGapBefore convId message.seq = false) →
    ((empty bucketSize stdSort).insertAll inserted).Contiguous convId inserted
  missing : ∀ before message after, inserted = before ++ message :: after →
    ((empty bucketSize stdSort).insertAll before).hasGapBefore convId message.seq = true →
      ∀ old ∈ before, old.seq.toInt ≠ message.seq.toInt - 1

/-- Whatever follows a message with the last number of the type, the message before
it has not come. -/
def NothingFollowsLast (inserted : List Message) : Prop :=
  ∀ before message after, inserted = before ++ message :: after →
    (∃ last ∈ before, last.seq = Int64.maxValue) →
      ∀ old ∈ before, old.seq.toInt ≠ message.seq.toInt - 1

/-! ## The highest number -/

/-- An empty bucket counts as one whose highest number is 0. -/
theorem hasGapBefore_eq (cache : MessageCache) (convId : String) (seq : Int64) :
    cache.hasGapBefore convId seq = decide (cache.maxSeq convId + 1 < seq) := by
  rw [hasGapBefore, maxSeq]
  cases (cache.get convId).getLast? with
  | none => rfl
  | some last => rfl

section Highest

variable {bucketSize : Nat} {convId : String} {inserted : List Message}

theorem Numbered.of_append {more : List Message}
    (numbered : Numbered convId (inserted ++ more)) : Numbered convId inserted := by
  constructor
  · exact fun message member => numbered.here message (List.mem_append_left more member)
  · exact fun message member => numbered.positive message (List.mem_append_left more member)
  · exact numbered.matching.of_append

theorem Numbered.keepsNewest (numbered : Numbered convId inserted) (bucketSize : Nat)
    (stdSort : OrderBy Message (OrderBy.Ascending Message.seq)) :
    ((empty bucketSize stdSort).insertAll inserted).KeepsNewest inserted convId := by
  have initially : (empty bucketSize stdSort).KeepsNewest [] convId :=
    keepsNewest_empty bucketSize stdSort convId
  exact initially.insertAll inserted numbered.matching

/-- The highest number is the greatest one inserted. -/
theorem Numbered.maxSeqIsGreatest (numbered : Numbered convId inserted) (room : 1 ≤ bucketSize)
    (stdSort : OrderBy Message (OrderBy.Ascending Message.seq)) :
    ((empty bucketSize stdSort).insertAll inserted).MaxSeqIsGreatest inserted convId :=
  (numbered.keepsNewest bucketSize stdSort).maxSeq numbered.matching
    (room.trans_eq (bucketSize_insertAll inserted (empty bucketSize stdSort)).symm)

theorem Numbered.le_maxSeq (numbered : Numbered convId inserted) (room : 1 ≤ bucketSize)
    (stdSort : OrderBy Message (OrderBy.Ascending Message.seq))
    {message : Message} (member : message ∈ inserted) :
    message.seq ≤ ((empty bucketSize stdSort).insertAll inserted).maxSeq convId :=
  (numbered.maxSeqIsGreatest room stdSort message member (numbered.here message member)).1

theorem Numbered.exists_maxSeq (numbered : Numbered convId inserted) (room : 1 ≤ bucketSize)
    (stdSort : OrderBy Message (OrderBy.Ascending Message.seq)) (nonempty : inserted ≠ []) :
    ∃ top ∈ inserted, top.seq =
      ((empty bucketSize stdSort).insertAll inserted).maxSeq convId := by
  rcases List.exists_mem_of_ne_nil inserted nonempty with ⟨message, member⟩
  rcases (numbered.maxSeqIsGreatest room stdSort message member
    (numbered.here message member)).2 with ⟨top, topMem, _, topSeq⟩
  exact ⟨top, topMem, topSeq⟩

/-- The highest number is the last of its type exactly if a message has it. -/
theorem Numbered.maxSeq_eq_maxValue_iff (numbered : Numbered convId inserted)
    (room : 1 ≤ bucketSize) (stdSort : OrderBy Message (OrderBy.Ascending Message.seq)) :
    ((empty bucketSize stdSort).insertAll inserted).maxSeq convId = Int64.maxValue ↔
      ∃ last ∈ inserted, last.seq = Int64.maxValue := by
  constructor
  · intro highest
    have nonempty : inserted ≠ [] := by
      rintro rfl
      have zero : ((empty bucketSize stdSort).insertAll []).maxSeq convId = 0 := rfl
      exact absurd (zero.symm.trans highest) (by decide)
    rcases numbered.exists_maxSeq room stdSort nonempty with ⟨top, topMem, topSeq⟩
    exact ⟨top, topMem, topSeq.trans highest⟩
  · rintro ⟨last, lastMem, lastSeq⟩
    have le := numbered.le_maxSeq room stdSort lastMem
    rw [lastSeq] at le
    exact Int64.le_antisymm (Int64.le_maxValue _) le

end Highest

theorem toInt_add_one {number : Int64} (notLast : number ≠ Int64.maxValue) :
    (number + 1).toInt = number.toInt + 1 := by
  have lower := number.le_toInt
  have upper := number.toInt_lt
  have below : number.toInt ≠ Int64.maxValue.toInt := fun same => notLast (Int64.toInt_inj.mp same)
  rw [Int64.toInt_maxValue] at below
  rw [Int64.toInt_add]
  exact Int.bmod_eq_of_le (by simp; omega) (by simp; omega)

section Runs

variable {bucketSize : Nat} {stdSort : OrderBy Message (OrderBy.Ascending Message.seq)}
  {convId : String} {before inserted : List Message} {message : Message}

/-- What is found to be a gap: more than the successor of the highest number, or
anything after a message with the last number. -/
theorem Numbered.hasGapBefore_iff (numbered : Numbered convId (before ++ [message]))
    (room : 1 ≤ bucketSize) :
    ((empty bucketSize stdSort).insertAll before).hasGapBefore convId message.seq = true ↔
      (∃ last ∈ before, last.seq = Int64.maxValue) ∨
        (((empty bucketSize stdSort).insertAll before).maxSeq convId).toInt + 1 <
          message.seq.toInt := by
  have positive := numbered.positive message (List.mem_append_right before List.mem_cons_self)
  rw [hasGapBefore_eq, decide_eq_true_iff,
    ← numbered.of_append.maxSeq_eq_maxValue_iff room stdSort]
  by_cases last : ((empty bucketSize stdSort).insertAll before).maxSeq convId = Int64.maxValue
  · rw [last]
    refine iff_of_true (Int64.lt_of_lt_of_le ?_ positive) (.inl rfl)
    decide
  · rw [Int64.lt_iff_toInt_lt, toInt_add_one last]
    exact ⟨.inr, fun gap => gap.resolve_left last⟩

/-- Without a gap at any insertion, every number up to the highest has come. -/
theorem Numbered.allInserted (numbered : Numbered convId inserted) (room : 1 ≤ bucketSize)
    (noGaps : ∀ before message after, inserted = before ++ message :: after →
      ((empty bucketSize stdSort).insertAll before).hasGapBefore convId message.seq = false) :
    ∀ number : Int, 1 ≤ number →
      number ≤ (((empty bucketSize stdSort).insertAll inserted).maxSeq convId).toInt →
        ∃ message ∈ inserted, message.seq.toInt = number := by
  induction inserted using List.reverseRecOn with
  | nil =>
      intro number low high
      have zero : (((empty bucketSize stdSort).insertAll []).maxSeq convId).toInt = 0 := rfl
      omega
  | append_singleton front message ih =>
      intro number low high
      have noGapsBefore := ih numbered.of_append fun before other after split =>
        noGaps before other (after ++ [message]) (by rw [split, List.append_assoc]; rfl)
      have reached : number ≤
          (((empty bucketSize stdSort).insertAll front).maxSeq convId).toInt →
            ∃ other ∈ front ++ [message], other.seq.toInt = number := by
        intro le
        rcases noGapsBefore number low le with ⟨other, otherMem, otherSeq⟩
        exact ⟨other, List.mem_append_left [message] otherMem, otherSeq⟩
      have noGap := noGaps front message [] rfl
      rw [← Bool.not_eq_true, numbered.hasGapBefore_iff room, not_or] at noGap
      rcases numbered.exists_maxSeq room stdSort (by simp) with ⟨top, topMem, topSeq⟩
      rw [← topSeq] at high
      rcases List.mem_append.mp topMem with inFront | isMessage
      · have le := Int64.le_iff_toInt_le.mp
          (numbered.of_append.le_maxSeq room stdSort inFront)
        exact reached (high.trans le)
      · rw [List.mem_singleton.mp isMessage] at high
        by_cases own : message.seq.toInt = number
        · exact ⟨message, List.mem_append_right front List.mem_cons_self, own⟩
        · exact reached (by omega)

/-- Numbers that have all come leave the last ones in the bucket. -/
theorem Numbered.interval (numbered : Numbered convId inserted) (room : 1 ≤ bucketSize)
    (all : ∀ number : Int, 1 ≤ number →
      number ≤ (((empty bucketSize stdSort).insertAll inserted).maxSeq convId).toInt →
        ∃ message ∈ inserted, message.seq.toInt = number) :
    ((empty bucketSize stdSort).insertAll inserted).Contiguous convId inserted := by
  refine ⟨all, ?_⟩
  have keeps := numbered.keepsNewest bucketSize stdSort
  have distinct := numbered.matching.nodup_seqs convId
  let ordered := (descend Message.seq (firstForms convId inserted)).reverse
  have perm : ordered.Perm (firstForms convId inserted) :=
    (List.reverse_perm _).trans (descend_perm Message.seq _)
  have ascending : Ascending Message.seq ordered :=
    List.pairwise_reverse.mpr (descending_descend distinct)
  let top := (((empty bucketSize stdSort).insertAll inserted).maxSeq convId).toInt.toNat
  -- In order, the messages are numbered from 1 to the highest number.
  have numbers : ordered.map (fun message => message.seq.toInt) =
      (List.range' 1 top).map Int.ofNat := by
    refine map_toInt_of_ascending ascending fun number => ?_
    constructor
    · rintro ⟨first, firstMem, rfl⟩
      have found := mem_of_mem_firstForms (perm.mem_iff.mp firstMem)
      have low := Int64.le_iff_toInt_le.mp (numbered.positive first found.1)
      have high := Int64.le_iff_toInt_le.mp (numbered.le_maxSeq room stdSort found.1)
      have one : (1 : Int64).toInt = 1 := rfl
      omega
    · rintro ⟨low, high⟩
      rcases all number low (by omega) with ⟨message, member, sameSeq⟩
      have here := numbered.here message member
      rcases exists_firstForm member here with ⟨first, firstMem, sameId⟩
      have found := mem_of_mem_firstForms firstMem
      have sameNumber := (numbered.matching first found.1 message member
        (found.2.trans here.symm)).mp sameId
      exact ⟨first, perm.mem_iff.mpr firstMem, by rw [sameNumber, sameSeq]⟩
  have length_eq : ordered.length = top := by
    have lengths := congrArg List.length numbers
    rwa [List.length_map, List.length_map, List.length_range'] at lengths
  have bucket : ((empty bucketSize stdSort).insertAll inserted).get convId =
      ordered.drop (top - bucketSize) := by
    have newest := keeps.newest
    rw [bucketSize_insertAll] at newest
    have greatestPerm := (greatest_perm Message.seq perm.symm bucketSize).trans
      (greatest_of_ascending ascending bucketSize)
    rw [length_eq] at greatestPerm
    exact OrderBy.eq_of_sorted_of_strict (newest.trans greatestPerm)
      (keeps.ascending.imp Int64.le_of_lt) (ascending.sublist (List.drop_sublist _ _))
  have sameSize : ((empty bucketSize stdSort).insertAll inserted).bucketSize = bucketSize :=
    bucketSize_insertAll inserted (empty bucketSize stdSort)
  rw [bucket, List.map_drop, numbers, ← List.map_drop, List.drop_range', sameSize]
  congr 2 <;> omega

/-- Gap detection is right along a run of insertions into one conversation exactly
when nothing whose predecessor has come follows a message with the last number of
the type. -/
theorem detectsGaps_iff (bucketSize : Nat)
    (stdSort : OrderBy Message (OrderBy.Ascending Message.seq)) (convId : String)
    (inserted : List Message) (room : 1 ≤ bucketSize) (numbered : Numbered convId inserted) :
    DetectsGaps bucketSize stdSort convId inserted ↔ NothingFollowsLast inserted := by
  have upTo : ∀ {before message after}, inserted = before ++ message :: after →
      Numbered convId (before ++ [message]) := by
    intro before message after split
    have whole : Numbered convId ((before ++ [message]) ++ after) := by
      simpa [← split] using numbered
    exact whole.of_append
  constructor
  · intro detects before message after split last
    exact detects.missing before message after split
      (((upTo split).hasGapBefore_iff room).mpr (.inl last))
  · intro nothing
    constructor
    · intro noGaps
      exact numbered.interval room (numbered.allInserted room noGaps)
    · intro before message after split gap old oldMem
      rcases ((upTo split).hasGapBefore_iff room).mp gap with last | above
      · exact nothing before message after split last old oldMem
      · have le := Int64.le_iff_toInt_le.mp
          ((upTo split).of_append.le_maxSeq room stdSort oldMem)
        omega

end Runs

/-- Two messages, the first one again, and a third. -/
def arrivals : List Message :=
  [{ messageId := "m1", convId := "c1", seq := 1 }, { messageId := "m2", convId := "c1", seq := 2 },
   { messageId := "m1", convId := "c1", seq := 1, content := "again" },
   { messageId := "m3", convId := "c1", seq := 3 }]

theorem detectsGaps_iff_arrivals : DetectsGaps 2 (OrderBy.stable _) "c1" arrivals := by
  have numbered : Numbered "c1" arrivals := by
    constructor
    · decide
    · decide
    · unfold SequencesMatchIds
      decide
  refine (detectsGaps_iff 2 (OrderBy.stable _) "c1" arrivals (by decide) numbered).mpr ?_
  rintro before message after split ⟨last, lastMem, lastSeq⟩
  have none : ∀ other ∈ arrivals, other.seq ≠ Int64.maxValue := by decide
  exact absurd lastSeq (none last (split ▸ List.mem_append_left (message :: after) lastMem))

/-- After the last number of the type, a message that follows directly on one that
has come is taken for one behind a gap. -/
theorem not_detectsGaps_afterLast :
    ¬DetectsGaps 3 (OrderBy.stable _) "c1"
      [{ messageId := "m4", convId := "c1", seq := 4 },
       { messageId := "last", convId := "c1", seq := 9223372036854775807 },
       { messageId := "m5", convId := "c1", seq := 5 }] := by
  intro detects
  exact detects.missing
    [{ messageId := "m4", convId := "c1", seq := 4 },
     { messageId := "last", convId := "c1", seq := 9223372036854775807 }]
    { messageId := "m5", convId := "c1", seq := 5 } [] rfl (by decide)
    { messageId := "m4", convId := "c1", seq := 4 } List.mem_cons_self (by decide)

end MessageCache

end AnychatSdk
