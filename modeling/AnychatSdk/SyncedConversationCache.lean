import AnychatSdk.Cache.ConversationCache
import AnychatSdk.Lib.Batch
import AnychatSdk.Db.Schema

/-!
# The conversation cache after a repeated response

The cached conversations of a response are replaced as a whole, and then get the
numbers of the messages again.  A conversation whose id is cached once keeps a
single entry, and the sort leaves no order but that of its ties.
-/

namespace AnychatSdk

/-! ## Conversations -/

def Conversation.timeless (conv : Conversation) : Conversation :=
  { conv with updatedAtMs := 0 }

namespace ConversationCache

/-- What the sort compares: pinned or not, and the time that counts then. -/
def sortKey (conv : Conversation) : Bool × Int64 :=
  (conv.isPinned, if conv.isPinned then conv.pinTimeMs else conv.lastMsgTimeMs)

def Precedes (first second : Bool × Int64) : Prop :=
  (first.1 = true ∧ second.1 = false) ∨ (first.1 = second.1 ∧ second.2 ≤ first.2)

theorem sortsBefore_eq_false_iff {left right : Conversation} :
    sortsBefore right left = false ↔ Precedes (sortKey left) (sortKey right) := by
  simp only [sortsBefore, Precedes, sortKey]
  cases left.isPinned <;> cases right.isPinned <;> simp

theorem Precedes.total (first second : Bool × Int64) :
    Precedes first second ∨ Precedes second first := by
  rcases first with ⟨firstPinned, firstTime⟩
  rcases second with ⟨secondPinned, secondTime⟩
  have times := Int64.le_total firstTime secondTime
  cases firstPinned <;> cases secondPinned <;> simp [Precedes, times.symm]

theorem Precedes.trans {first second third : Bool × Int64} (before : Precedes first second)
    (after : Precedes second third) : Precedes first third := by
  rcases before with ⟨pinned, unpinned⟩ | ⟨same, earlier⟩
  · rcases after with ⟨again, _⟩ | ⟨sameNext, _⟩
    · exact Bool.noConfusion (again.symm.trans unpinned)
    · exact .inl ⟨pinned, sameNext.symm.trans unpinned⟩
  · rcases after with ⟨pinned, unpinned⟩ | ⟨sameNext, earlierNext⟩
    · exact .inl ⟨same.trans pinned, unpinned⟩
    · exact .inr ⟨same.trans sameNext, Int64.le_trans earlierNext earlier⟩

theorem Precedes.antisymm {first second : Bool × Int64} (before : Precedes first second)
    (after : Precedes second first) : first = second := by
  rcases before with ⟨pinned, unpinned⟩ | ⟨same, earlier⟩
  · rcases after with ⟨again, _⟩ | ⟨equal, _⟩
    · exact Bool.noConfusion (again.symm.trans unpinned)
    · exact Bool.noConfusion (pinned.symm.trans (equal.symm.trans unpinned))
  · rcases after with ⟨pinned, unpinned⟩ | ⟨_, later⟩
    · exact Bool.noConfusion (pinned.symm.trans (same.symm.trans unpinned))
    · exact Prod.ext same (Int64.le_antisymm later earlier)

/-- The entries are in the order of the sort. -/
def Ordered (cache : ConversationCache) : Prop :=
  (cache.convs.map sortKey).Pairwise Precedes

theorem pairwise_sort (convs : List Conversation) :
    ((sort convs).map sortKey).Pairwise Precedes := by
  have total : Std.Total fun left right : Conversation => sortsBefore right left = false :=
    ⟨fun left right => by
      rw [sortsBefore_eq_false_iff, sortsBefore_eq_false_iff]
      exact Precedes.total _ _⟩
  have transitive : IsTrans Conversation fun left right => sortsBefore right left = false :=
    ⟨fun _ _ _ before after => sortsBefore_eq_false_iff.mpr
      ((sortsBefore_eq_false_iff.mp before).trans (sortsBefore_eq_false_iff.mp after))⟩
  refine List.pairwise_map.mpr ((List.pairwise_insertionSort _ convs).imp ?_)
  exact fun ordered => sortsBefore_eq_false_iff.mp ordered

/-- The sort leaves a list as it is exactly when the list is in its order. -/
theorem sort_eq_self_iff {convs : List Conversation} :
    sort convs = convs ↔ (convs.map sortKey).Pairwise Precedes := by
  constructor
  · intro same
    have sorted := pairwise_sort convs
    rw [same] at sorted
    exact sorted
  · intro ordered
    exact ((List.pairwise_map.mp ordered).imp sortsBefore_eq_false_iff.mpr).insertionSort_eq

theorem ordered_upsert (conv : Conversation) (cache : ConversationCache) :
    (cache.upsert conv).Ordered := by
  rw [upsert]
  split <;> exact pairwise_sort _

/-! ## The entries of one id -/

def entries (convId : String) (cache : ConversationCache) : List Conversation :=
  cache.convs.filter fun conv => conv.convId = convId

theorem get_eq_head_entries (convId : String) (cache : ConversationCache) :
    cache.get convId = (cache.entries convId).head? :=
  List.head?_filter.symm

theorem filter_modifyFirst_of_ne {convId other : String} {conv : Conversation}
    (same : conv.convId = convId) (different : convId ≠ other) (convs : List Conversation) :
    (modifyFirst convId (fun _ => conv) convs).filter (fun conv => conv.convId = other) =
      convs.filter fun conv => conv.convId = other := by
  induction convs with
  | nil => rfl
  | cons first rest ih =>
      rw [modifyFirst]
      split
      · next matched =>
          rw [List.filter_cons_of_neg (by simpa [same] using different),
            List.filter_cons_of_neg (by simpa [matched] using different)]
      · simp only [List.filter_cons, ih]

theorem filter_modifyFirst_self {convId : String} {conv : Conversation}
    (same : conv.convId = convId) {convs : List Conversation}
    (present : convs.any fun old => old.convId = convId) :
    (modifyFirst convId (fun _ => conv) convs).filter (fun conv => conv.convId = convId) =
      conv :: (convs.filter fun conv => conv.convId = convId).tail := by
  induction convs with
  | nil => exact Bool.noConfusion present
  | cons first rest ih =>
      rw [modifyFirst]
      by_cases matched : first.convId = convId
      · rw [if_pos matched, List.filter_cons_of_pos (by simpa using same),
          List.filter_cons_of_pos (by simpa using matched), List.tail_cons]
      · rw [if_neg matched, List.filter_cons_of_neg (by simpa using matched),
          List.filter_cons_of_neg (by simpa using matched)]
        exact ih (by simpa [matched] using present)

/-- An upsert leaves the entries of other ids, and replaces the first one of its own. -/
theorem entries_upsert_perm (convId : String) (conv : Conversation) (cache : ConversationCache) :
    ((cache.upsert conv).entries convId).Perm
      (if conv.convId = convId then conv :: (cache.entries convId).tail
      else cache.entries convId) := by
  have sorted (convs : List Conversation) :
      ((sort convs).filter fun conv => conv.convId = convId).Perm
        (convs.filter fun conv => conv.convId = convId) :=
    (List.perm_insertionSort _ convs).filter _
  rw [upsert]
  by_cases same : conv.convId = convId
  · rw [if_pos same]
    split
    · next present =>
        rw [same] at present
        refine (sorted _).trans (.of_eq ?_)
        rw [same]
        exact filter_modifyFirst_self same present
    · next absent =>
        refine (sorted _).trans (.of_eq ?_)
        have none : cache.entries convId = [] := by
          simpa [entries, same] using absent
        rw [List.filter_append, List.filter_cons_of_pos (by simpa using same)]
        rw [entries] at none ⊢
        rw [none]
        rfl
  · rw [if_neg same]
    split
    · exact (sorted _).trans (.of_eq (filter_modifyFirst_of_ne rfl same _))
    · refine (sorted _).trans (.of_eq ?_)
      rw [List.filter_append, List.filter_cons_of_neg (by simpa using same), List.filter_nil,
        List.append_nil]
      rfl

end ConversationCache

/-! ## Merging into the cached conversations -/

/-- What a response does to the cache: put a conversation there, or raise the
number of a cached one. -/
inductive CachedMerge where
  | replace (conv : Conversation)
  | raise (convId : String) (seq : Int64)

namespace CachedMerge

def convId : CachedMerge → String
  | replace conv => conv.convId
  | raise convId _ => convId

def timeless : CachedMerge → CachedMerge
  | replace conv => replace conv.timeless
  | raise convId seq => raise convId seq

def raised (seq : Int64) (conv : Conversation) : Conversation :=
  if conv.localSeq < seq then { conv with localSeq := seq } else conv

/-- What a merge does to the cached record of one conversation. -/
def onCached (convId : String) (cached : Option Conversation) : CachedMerge → Option Conversation
  | replace conv => if conv.convId = convId then some conv else cached
  | raise key seq => if key = convId then cached.map (raised seq) else cached

def IsRaise : CachedMerge → Prop
  | replace _ => False
  | raise _ _ => True

@[simp]
theorem timeless_raised (seq : Int64) (conv : Conversation) :
    (raised seq conv).timeless = raised seq conv.timeless := by
  rw [raised, raised]
  by_cases less : conv.localSeq < seq
  · rw [if_pos less, if_pos (show conv.timeless.localSeq < seq from less)]
    rfl
  · rw [if_neg less, if_neg (show ¬conv.timeless.localSeq < seq from less)]

theorem localSeq_raised (seq : Int64) (conv : Conversation) :
    (raised seq conv).localSeq = max conv.localSeq seq := by
  rw [raised]
  split
  · next less => exact (max_eq_right_of_lt less).symm
  · next notLess => exact (max_eq_left_of_not_lt notLess).symm

/-- A number that is reached is not raised. -/
theorem raised_eq_self {seq : Int64} {conv : Conversation} (reached : seq ≤ conv.localSeq) :
    raised seq conv = conv :=
  if_neg (Int64.not_lt.mpr reached)

theorem timeless_onCached (convId : String) (cached : Option Conversation) (item : CachedMerge) :
    (onCached convId cached item).map Conversation.timeless =
      onCached convId (cached.map Conversation.timeless) item.timeless := by
  cases item with
  | replace conv =>
      rw [onCached, timeless, onCached]
      by_cases same : conv.convId = convId
      · rw [if_pos same, if_pos (show conv.timeless.convId = convId from same)]
        rfl
      · rw [if_neg same, if_neg (show ¬conv.timeless.convId = convId from same)]
  | raise key seq =>
      simp only [onCached, timeless]
      by_cases same : key = convId
      · rw [if_pos same, if_pos same]
        cases cached with
        | none => rfl
        | some conv => exact congrArg some (timeless_raised seq conv)
      · rw [if_neg same, if_neg same]

/-- The record has the number of the merge, when that is about it. -/
def Reached (convId : String) (cached : Option Conversation) : CachedMerge → Prop
  | replace _ => False
  | raise key seq => key = convId → ∀ conv ∈ cached, seq ≤ conv.localSeq

theorem Reached.onCached_eq_self {convId : String} {cached : Option Conversation}
    {item : CachedMerge} (reached : Reached convId cached item) :
    onCached convId cached item = cached := by
  cases item with
  | replace => exact reached.elim
  | raise key seq =>
      rw [onCached]
      split
      · next same =>
          cases cached with
          | none => rfl
          | some conv => exact congrArg some (raised_eq_self (reached same conv rfl))
      · rfl

theorem reached_onCached {item : CachedMerge} (isRaise : item.IsRaise) (convId : String)
    (cached : Option Conversation) : Reached convId (onCached convId cached item) item := by
  cases item with
  | replace => exact isRaise.elim
  | raise key seq =>
      intro same conv listed
      rw [onCached, if_pos same] at listed
      rcases Option.map_eq_some_iff.mp listed with ⟨before, _, rfl⟩
      rw [localSeq_raised]
      exact le_max_right _ _

theorem Reached.onCached {item other : CachedMerge} {convId : String}
    {cached : Option Conversation} (reached : Reached convId cached item)
    (otherRaise : other.IsRaise) : Reached convId (onCached convId cached other) item := by
  cases item with
  | replace => exact reached.elim
  | raise key seq =>
      intro same conv listed
      cases other with
      | replace => exact otherRaise.elim
      | raise otherKey otherSeq =>
          rw [CachedMerge.onCached] at listed
          split at listed
          · rcases Option.map_eq_some_iff.mp listed with ⟨before, known, rfl⟩
            rw [localSeq_raised]
            exact Int64.le_trans (reached same before known) (le_max_left _ _)
          · exact reached same conv listed

/-- After a run of raises every number is reached. -/
theorem reached_run {raises : List CachedMerge} (isRaise : ∀ item ∈ raises, item.IsRaise)
    (convId : String) (cached : Option Conversation) :
    ∀ item ∈ raises, Reached convId (Batch.run (onCached convId) raises cached) item :=
  @Batch.settled_run _ _ (onCached convId) (Reached convId) (fun _ => True) raises
    (fun _ _ _ _ => trivial) (fun item member _ _ => reached_onCached (isRaise item member) _ _)
    (fun _ _ _ listed _ _ reached => reached.onCached (isRaise _ listed)) cached trivial

/-- The record of an id after the conversations of a batch: left, or the last one
put there. -/
theorem run_replaces {replaces : List CachedMerge} (isReplace : ∀ item ∈ replaces, ¬item.IsRaise)
    (convId : String) :
    (∀ cached, Batch.run (onCached convId) replaces cached = cached) ∨
      ∃ conv, ∀ cached, Batch.run (onCached convId) replaces cached = some conv := by
  have each (item : CachedMerge) (member : item ∈ replaces) :
      Batch.Idle (onCached convId) item ∨
        ∃ conv, ∀ cached, onCached convId cached item = some conv := by
    cases item with
    | replace conv =>
        by_cases same : conv.convId = convId
        · exact .inr ⟨conv, fun _ => if_pos same⟩
        · exact .inl fun _ => if_neg same
    | raise => exact absurd trivial (isReplace _ member)
  rcases Batch.run_eq_last fun item member => (each item member).imp_right fun ⟨conv, put⟩ _ _ _ =>
    (put _).trans (put _).symm with idle | ⟨last, member, _, eq_last⟩
  · exact .inl idle
  · rcases each last member with idle | ⟨conv, put⟩
    · exact .inl fun cached => (eq_last cached).trans (idle cached)
    · exact .inr ⟨conv, fun cached => (eq_last cached).trans (put cached)⟩

/-- The record of an id after a second run: put there anew and raised again, or
raised already. -/
theorem run_run_onCached {replaces raises : List CachedMerge}
    (isReplace : ∀ item ∈ replaces, ¬item.IsRaise) (isRaise : ∀ item ∈ raises, item.IsRaise)
    (convId : String) (cached : Option Conversation) :
    Batch.run (onCached convId) (replaces ++ raises)
        (Batch.run (onCached convId) (replaces ++ raises) cached) =
      Batch.run (onCached convId) (replaces ++ raises) cached := by
  rw [Batch.run_append, Batch.run_append]
  rcases run_replaces isReplace convId with idle | ⟨conv, put⟩
  · rw [idle, idle]
    exact Batch.run_eq_self fun item member =>
      (reached_run isRaise convId cached item member).onCached_eq_self
  · rw [put, put]

end CachedMerge

namespace ConversationCache

open CachedMerge

def merge (cache : ConversationCache) : CachedMerge → ConversationCache
  | .replace conv => cache.upsert conv
  | .raise convId seq =>
      match cache.get convId with
      | none => cache
      | some conv =>
          if conv.localSeq < seq then cache.upsert { conv with localSeq := seq } else cache

/-- At most one entry has the id. -/
def Single (cache : ConversationCache) (convId : String) : Prop :=
  (cache.entries convId).length ≤ 1

/-- The same entries but for `updated_at_ms`, and in the same order but for ties
of the sort. -/
structure SameUpToTies (first second : ConversationCache) : Prop where
  perm : (second.convs.map Conversation.timeless).Perm (first.convs.map Conversation.timeless)
  keys : second.convs.map sortKey = first.convs.map sortKey

section Merge

variable {cache : ConversationCache} {convId : String}

theorem single_iff_count : cache.Single convId ↔ cache.ids.count convId ≤ 1 := by
  rw [Single, ids, List.count, List.countP_map, List.countP_eq_length_filter]
  rfl

theorem Single.entries_eq (single : cache.Single convId) :
    cache.entries convId = (cache.get convId).toList := by
  rw [get_eq_head_entries]
  rw [Single] at single
  cases listed : cache.entries convId with
  | nil => rfl
  | cons first rest =>
      rw [listed, List.length_cons] at single
      have none : rest = [] := List.eq_nil_of_length_eq_zero (by omega)
      rw [none]
      rfl

/-- A merge of another conversation leaves the entries of an id. -/
theorem entries_merge_perm {item : CachedMerge} (other : item.convId ≠ convId) :
    ((cache.merge item).entries convId).Perm (cache.entries convId) := by
  cases item with
  | replace conv =>
      have upserted := entries_upsert_perm convId conv cache
      rw [if_neg (show conv.convId ≠ convId from other)] at upserted
      exact upserted
  | raise key seq =>
      rw [merge]
      split
      · exact .refl _
      · next conv found =>
          split
          · have upserted := entries_upsert_perm convId { conv with localSeq := seq } cache
            rw [if_neg (get_convId found ▸ other)] at upserted
            exact upserted
          · exact .refl _

/-- With a single entry, an upsert leaves the new record alone under its id. -/
theorem entries_upsert_self {conv : Conversation} (single : cache.Single conv.convId) :
    (cache.upsert conv).entries conv.convId = [conv] := by
  have upserted := entries_upsert_perm conv.convId conv cache
  have none : (cache.entries conv.convId).tail = [] := by
    apply List.eq_nil_of_length_eq_zero
    rw [List.length_tail]
    have few : (cache.entries conv.convId).length ≤ 1 := single
    omega
  rw [if_pos rfl, none] at upserted
  exact List.perm_singleton.mp upserted

/-- A merge of another conversation leaves the single record of an id. -/
theorem Single.merge_other (single : cache.Single convId) {item : CachedMerge}
    (other : item.convId ≠ convId) :
    (cache.merge item).Single convId ∧ (cache.merge item).get convId = cache.get convId := by
  have perm : ((cache.merge item).entries convId).Perm (cache.entries convId) :=
    entries_merge_perm other
  have still : (cache.merge item).Single convId := perm.length_eq.trans_le single
  refine ⟨still, Option.ext fun conv => ?_⟩
  rw [single.entries_eq, still.entries_eq] at perm
  rw [← Option.mem_toList, ← Option.mem_toList]
  exact perm.mem_iff

/-- The single record of an id after its upsert. -/
theorem Single.upsert_self {conv : Conversation} (single : cache.Single conv.convId) :
    (cache.upsert conv).Single conv.convId ∧ (cache.upsert conv).get conv.convId = some conv := by
  rw [Single, get_eq_head_entries, entries_upsert_self single]
  exact ⟨Nat.le_refl 1, rfl⟩

theorem Single.upsert_other (single : cache.Single convId) {conv : Conversation}
    (other : conv.convId ≠ convId) :
    (cache.upsert conv).Single convId ∧ (cache.upsert conv).get convId = cache.get convId :=
  @Single.merge_other cache convId single (.replace conv) other

theorem Single.upsert (single : cache.Single convId) (conv : Conversation) :
    (cache.upsert conv).Single convId := by
  by_cases same : conv.convId = convId
  · obtain rfl := same
    exact single.upsert_self.1
  · exact (single.upsert_other same).1

theorem Single.clearUnread (single : cache.Single convId) (key : String) :
    (cache.clearUnread key).Single convId := by
  rw [single_iff_count] at single ⊢
  rwa [ids_clearUnread]

theorem Single.remove (single : cache.Single convId) (key : String) :
    (cache.remove key).Single convId := by
  rw [single_iff_count] at single ⊢
  rw [ids_remove]
  exact (List.filter_sublist.count_le convId).trans single

theorem single_setAll {convs : List Conversation}
    (distinct : (convs.map Conversation.convId).Nodup) (convId : String) :
    (setAll convs).Single convId := by
  rw [single_iff_count]
  exact List.nodup_iff_count_le_one.mp (nodup_ids_setAll distinct) convId

theorem Single.merge (single : cache.Single convId) (item : CachedMerge) :
    (cache.merge item).Single convId ∧
      (cache.merge item).get convId = item.onCached convId (cache.get convId) := by
  by_cases same : item.convId = convId
  · cases item with
    | replace conv =>
        obtain rfl : conv.convId = convId := same
        rw [onCached, if_pos rfl]
        exact single.upsert_self
    | raise key seq =>
        obtain rfl : key = convId := same
        rw [onCached, if_pos rfl, ConversationCache.merge]
        cases found : cache.get key with
        | none => exact ⟨single, found⟩
        | some conv =>
            dsimp only
            rw [Option.map_some, raised]
            split
            · obtain rfl := get_convId found
              exact @upsert_self cache { conv with localSeq := seq } single
            · exact ⟨single, found⟩
  · rcases single.merge_other same with ⟨still, kept⟩
    refine ⟨still, kept.trans ?_⟩
    cases item with
    | replace conv => exact (if_neg same).symm
    | raise key seq => exact (if_neg same).symm

/-- The order is kept, and a conversation that is put there brings it about. -/
theorem Ordered.merge (ordered : cache.Ordered) (item : CachedMerge) :
    (cache.merge item).Ordered := by
  cases item with
  | replace conv => exact ordered_upsert conv cache
  | raise key seq =>
      rw [ConversationCache.merge]
      split
      · exact ordered
      · split
        · exact ordered_upsert _ cache
        · exact ordered

/-! ## A batch of merges -/

/-- The single record of an id after a batch. -/
theorem Single.run (single : cache.Single convId) (items : List CachedMerge) :
    (Batch.run ConversationCache.merge items cache).Single convId ∧
      (Batch.run ConversationCache.merge items cache).get convId =
        Batch.run (onCached convId) items (cache.get convId) := by
  induction items generalizing cache with
  | nil => exact ⟨single, rfl⟩
  | cons item items ih =>
      rcases single.merge item with ⟨still, merged⟩
      rcases ih still with ⟨last, run⟩
      exact ⟨last, run.trans (congrArg _ merged)⟩

/-- A batch leaves the entries of ids that it does not name. -/
theorem entries_run_perm {items : List CachedMerge} (unnamed : ∀ item ∈ items, item.convId ≠ convId)
    (cache : ConversationCache) :
    ((Batch.run ConversationCache.merge items cache).entries convId).Perm (cache.entries convId) :=
  @Batch.run_invariant _ _ ConversationCache.merge
    (fun reached => (reached.entries convId).Perm (cache.entries convId)) items
    (fun item member _ same => (entries_merge_perm (unnamed item member)).trans same) cache
    (.refl _)

theorem Ordered.run (ordered : cache.Ordered) (items : List CachedMerge) :
    (Batch.run ConversationCache.merge items cache).Ordered :=
  Batch.run_invariant (fun item _ _ before => before.merge item) ordered

/-- A batch that puts a conversation there leaves the cache in order. -/
theorem ordered_run {items : List CachedMerge} {conv : Conversation}
    (member : .replace conv ∈ items) (cache : ConversationCache) :
    (Batch.run ConversationCache.merge items cache).Ordered := by
  rcases List.append_of_mem member with ⟨before, after, rfl⟩
  rw [Batch.run_append, Batch.run_cons]
  exact Ordered.run (ordered_upsert conv _) after

/-- Lists with the same entries for every id have the same entries. -/
theorem perm_of_entries {first second : ConversationCache}
    (same : ∀ convId, ((second.entries convId).map Conversation.timeless).Perm
      ((first.entries convId).map Conversation.timeless)) :
    (second.convs.map Conversation.timeless).Perm (first.convs.map Conversation.timeless) := by
  rw [List.perm_iff_count]
  intro conv
  have counted (cache : ConversationCache) :
      (cache.convs.map Conversation.timeless).count conv =
        ((cache.entries conv.convId).map Conversation.timeless).count conv := by
    have filtered : (cache.entries conv.convId).map Conversation.timeless =
        (cache.convs.map Conversation.timeless).filter fun old => old.convId = conv.convId := by
      rw [List.filter_map]
      rfl
    rw [filtered]
    exact (List.count_filter (by simp)).symm
  rw [counted first, counted second]
  exact (same conv.convId).count_eq conv

theorem SameUpToTies.of_ordered {first second : ConversationCache} (firstOrdered : first.Ordered)
    (secondOrdered : second.Ordered)
    (perm : (second.convs.map Conversation.timeless).Perm
      (first.convs.map Conversation.timeless)) : SameUpToTies first second where
  perm := perm
  keys := by
    have keys := perm.map sortKey
    rw [List.map_map, List.map_map] at keys
    exact keys.eq_of_pairwise (fun _ _ _ _ => Precedes.antisymm) secondOrdered firstOrdered

/-- A raise of a number that is reached has no effect. -/
theorem merge_eq_self {item : CachedMerge}
    (reached : Reached item.convId (cache.get item.convId) item) : cache.merge item = cache := by
  cases item with
  | replace => exact reached.elim
  | raise key seq =>
      rw [ConversationCache.merge]
      split
      · rfl
      · next conv found => exact if_neg (Int64.not_lt.mpr (reached rfl conv found))

theorem run_raises_again {raises : List CachedMerge} (isRaise : ∀ item ∈ raises, item.IsRaise)
    (single : ∀ item ∈ raises, cache.Single item.convId) :
    Batch.run ConversationCache.merge raises (Batch.run ConversationCache.merge raises cache) =
      Batch.run ConversationCache.merge raises cache := by
  refine Batch.run_eq_self fun item member => merge_eq_self ?_
  rw [((single item member).run raises).2]
  exact reached_run isRaise _ _ item member

/-- The single record of an id after a batch and its repetition. -/
theorem Single.timeless_run_again (single : cache.Single convId)
    {replaces again raises : List CachedMerge} (same : again.map timeless = replaces.map timeless)
    (isReplace : ∀ item ∈ replaces, ¬item.IsRaise) (isRaise : ∀ item ∈ raises, item.IsRaise) :
    let once := Batch.run ConversationCache.merge (replaces ++ raises) cache
    let twice := Batch.run ConversationCache.merge (again ++ raises) once
    (twice.entries convId).map Conversation.timeless =
      (once.entries convId).map Conversation.timeless := by
  intro once twice
  have kind (item : CachedMerge) : item.timeless.IsRaise ↔ item.IsRaise := by
    cases item <;> exact Iff.rfl
  have replaceKind : ∀ item ∈ replaces.map timeless, ¬item.IsRaise := by
    intro item member
    rcases List.mem_map.mp member with ⟨before, listed, rfl⟩
    rw [kind]
    exact isReplace before listed
  have raiseKind : ∀ item ∈ raises.map timeless, item.IsRaise := by
    intro item member
    rcases List.mem_map.mp member with ⟨before, listed, rfl⟩
    rw [kind]
    exact isRaise before listed
  rcases single.run (replaces ++ raises) with ⟨onceSingle, onceGet⟩
  rcases onceSingle.run (again ++ raises) with ⟨twiceSingle, twiceGet⟩
  have viewed (items : List CachedMerge) (cached : Option Conversation) :
      (Batch.run (onCached convId) items cached).map Conversation.timeless =
        Batch.run (onCached convId) (items.map timeless) (cached.map Conversation.timeless) :=
    @Batch.view_run _ _ (onCached convId) _ _ (Option.map Conversation.timeless)
      (onCached convId) timeless items (fun item _ cached => timeless_onCached convId cached item)
      cached
  have gets : (twice.get convId).map Conversation.timeless =
      (once.get convId).map Conversation.timeless := by
    rw [twiceGet, viewed, onceGet, viewed, List.map_append, List.map_append, same]
    exact run_run_onCached replaceKind raiseKind convId _
  rw [twiceSingle.entries_eq, onceSingle.entries_eq, ← Option.toList_map, ← Option.toList_map, gets]

/-- A batch run twice, the second time with other times in the conversations. -/
theorem sameUpToTies_run {replaces again raises : List CachedMerge}
    (same : again.map timeless = replaces.map timeless)
    (isReplace : ∀ item ∈ replaces, ¬item.IsRaise) (isRaise : ∀ item ∈ raises, item.IsRaise)
    (single : ∀ item ∈ replaces ++ raises, cache.Single item.convId) :
    SameUpToTies (Batch.run ConversationCache.merge (replaces ++ raises) cache)
      (Batch.run ConversationCache.merge (again ++ raises)
        (Batch.run ConversationCache.merge (replaces ++ raises) cache)) := by
  have ids (item : CachedMerge) : item.timeless.convId = item.convId := by
    cases item <;> rfl
  have againNamed (item : CachedMerge) (member : item ∈ again ++ raises) :
      ∃ named ∈ replaces ++ raises, named.convId = item.convId := by
    rcases List.mem_append.mp member with replaced | raised
    · have listed : item.timeless ∈ again.map timeless := List.mem_map.mpr ⟨item, replaced, rfl⟩
      rw [same] at listed
      rcases List.mem_map.mp listed with ⟨named, namedMem, equal⟩
      exact ⟨named, List.mem_append_left _ namedMem, by rw [← ids named, equal, ids]⟩
    · exact ⟨item, List.mem_append_right _ raised, rfl⟩
  have perm : ((Batch.run ConversationCache.merge (again ++ raises)
      (Batch.run ConversationCache.merge (replaces ++ raises) cache)).convs.map
        Conversation.timeless).Perm
      ((Batch.run ConversationCache.merge (replaces ++ raises) cache).convs.map
        Conversation.timeless) := by
    refine perm_of_entries fun convId => ?_
    by_cases named : ∃ item ∈ replaces ++ raises, item.convId = convId
    · rcases named with ⟨item, member, rfl⟩
      exact .of_eq ((single item member).timeless_run_again same isReplace isRaise)
    · refine (entries_run_perm (fun item member equal => named ?_) _).map _
      rcases againNamed item member with ⟨known, knownMem, knownId⟩
      exact ⟨known, knownMem, knownId.trans equal⟩
  cases replaces with
  | nil =>
      obtain rfl := List.map_eq_nil_iff.mp same
      rw [List.nil_append] at single ⊢
      rw [run_raises_again isRaise single]
      exact ⟨.refl _, rfl⟩
  | cons first rest =>
      cases first with
      | raise => exact absurd trivial (isReplace _ List.mem_cons_self)
      | replace conv =>
          have ordered : (Batch.run ConversationCache.merge (.replace conv :: rest ++ raises)
              cache).Ordered := ordered_run (List.mem_append_left _ List.mem_cons_self) cache
          exact .of_ordered ordered (ordered.run _) perm

end Merge

end ConversationCache

end AnychatSdk
