import AnychatSdk.Lib.EventRun
import AnychatSdk.SyncedConversationCache

/-!
# The conversation cache as a finite map

As long as no list with a repeated id is set, the cache is a finite map from ids
to conversations, listed in the order of the sort.  The sort is stable: entries
that it does not tell apart stay in the order they were in.
-/

namespace AnychatSdk

open ConversationCache (sortKey Precedes)

/-- The operations that change the cache. -/
inductive CacheCall where
  | setAll (convs : List Conversation)
  | upsert (conv : Conversation)
  | remove (convId : String)
  | incrementUnread (convId : String)
  | clearUnread (convId : String)
  | setLastMessage (convId msgId text : String) (timestampMs : Int64)
  | clear

/-- The map that a cache stands for. -/
abbrev ConversationMap :=
  String → Option Conversation

namespace CacheCall

def apply (cache : ConversationCache) : CacheCall → ConversationCache
  | setAll convs => .setAll convs
  | upsert conv => cache.upsert conv
  | remove convId => cache.remove convId
  | incrementUnread convId => cache.incrementUnread convId
  | clearUnread convId => cache.clearUnread convId
  | setLastMessage convId msgId text timestampMs =>
      cache.setLastMessage convId msgId text timestampMs
  | clear => cache.clear

/-- The update of the map. -/
def update (map : ConversationMap) : CacheCall → ConversationMap
  | setAll convs => fun convId => convs.find? fun conv => conv.convId = convId
  | upsert conv => Function.update map conv.convId (some conv)
  | remove convId => Function.update map convId none
  | incrementUnread convId =>
      Function.update map convId ((map convId).map fun conv =>
        if conv.isMuted then conv else { conv with unreadCount := conv.unreadCount + 1 })
  | clearUnread convId =>
      Function.update map convId ((map convId).map fun conv => { conv with unreadCount := 0 })
  | setLastMessage convId msgId text timestampMs =>
      Function.update map convId ((map convId).map fun conv =>
        { conv with lastMsgId := msgId, lastMsgText := text, lastMsgTimeMs := timestampMs })
  | clear => fun _ => none

/-- A list that is set names no conversation twice. -/
def DistinctIds : CacheCall → Prop
  | setAll convs => (convs.map Conversation.convId).Nodup
  | _ => True

end CacheCall

namespace ConversationCache

/-- The cache agrees with the map on every id, and lists the entries of the map,
each once, in the order of the sort. -/
structure Represents (cache : ConversationCache) (map : ConversationMap) : Prop where
  get_eq : ∀ convId, cache.get convId = map convId
  listed : ∀ conv, conv ∈ cache.getAll ↔ map conv.convId = some conv
  nodup : cache.ids.Nodup
  ordered : cache.Ordered

/-- Entries that the sort does not tell apart, and that occur in both lists, are in
the same order in both. -/
def SameTies (before after : List Conversation) : Prop :=
  ∀ first second, first ∈ before → second ∈ before → first ∈ after → second ∈ after →
    sortKey first = sortKey second → (List.Sublist [first, second] before ↔
      List.Sublist [first, second] after)

end ConversationCache

/-- Ties stay in order: those of the list that is set, or else those of the cache
before. -/
def CacheCall.KeepsTies (cache : ConversationCache) (call : CacheCall) : Prop :=
  match call with
  | .setAll convs => ConversationCache.SameTies convs (call.apply cache).getAll
  | _ => ConversationCache.SameTies cache.getAll (call.apply cache).getAll

namespace ConversationCache

/-! ## Changing one entry -/

theorem modifyFirst_eq_map {convId : String} {change : Conversation → Conversation}
    {convs : List Conversation} (distinct : (convs.map Conversation.convId).Nodup) :
    modifyFirst convId change convs =
      convs.map fun conv => if conv.convId = convId then change conv else conv := by
  induction convs with
  | nil => rfl
  | cons first rest ih =>
      rw [List.map_cons, List.nodup_cons] at distinct
      rw [modifyFirst, List.map_cons]
      by_cases matched : first.convId = convId
      · have others : rest.map (fun conv => if conv.convId = convId then change conv else conv) =
            rest := by
          refine (List.map_congr_left fun conv member => if_neg ?_).trans (List.map_id _)
          intro same
          exact distinct.1 (List.mem_map.mpr ⟨conv, member, same.trans matched.symm⟩)
        rw [if_pos matched, if_pos matched, others]
      · rw [if_neg matched, if_neg matched, ih distinct.2]

theorem find?_modifyFirst {convId : String} {change : Conversation → Conversation}
    (sameId : ∀ conv, conv.convId = convId → (change conv).convId = convId)
    (convs : List Conversation) (other : String) :
    (modifyFirst convId change convs).find? (fun conv => conv.convId = other) =
      if other = convId then (convs.find? fun conv => conv.convId = convId).map change
      else convs.find? fun conv => conv.convId = other := by
  induction convs with
  | nil => simp [modifyFirst]
  | cons first rest ih =>
      rw [modifyFirst]
      by_cases matched : first.convId = convId
      · by_cases same : other = convId
        · subst same
          simp [matched, sameId first matched]
        · simp [matched, sameId first matched, same, Ne.symm same]
      · by_cases found : first.convId = other
        · have different : other ≠ convId := fun same => matched (found.trans same)
          simp [found, different]
        · rw [if_neg matched, List.find?_cons_of_neg (by simpa using found), ih,
            List.find?_cons_of_neg (by simpa using matched),
            List.find?_cons_of_neg (by simpa using found)]

/-- Sorting keeps the entry of every id. -/
theorem get_setAll {convs : List Conversation} (distinct : (convs.map Conversation.convId).Nodup)
    (convId : String) :
    (setAll convs).get convId = convs.find? fun conv => conv.convId = convId := by
  refine Option.ext fun conv => ?_
  have sorted := @get_eq_some_iff_of_nodup _ (nodup_ids_setAll distinct) convId conv
  have unsorted := @get_eq_some_iff_of_nodup ⟨convs⟩ distinct convId conv
  exact sorted.trans ((and_congr_left' mem_setAll).trans unsorted.symm)

/-! ## What the cache represents -/

section Represents

variable {cache : ConversationCache} {map : ConversationMap}

theorem Represents.of_get (nodup : cache.ids.Nodup) (ordered : cache.Ordered)
    (get_eq : ∀ convId, cache.get convId = map convId) : cache.Represents map where
  get_eq := get_eq
  listed conv := by
    rw [← get_eq, get_eq_some_iff_of_nodup nodup, getAll]
    exact (and_iff_left rfl).symm
  nodup := nodup
  ordered := ordered

theorem represents_empty : Represents {} fun _ => none :=
  .of_get List.nodup_nil List.Pairwise.nil fun _ => rfl

theorem represents_setAll {convs : List Conversation}
    (distinct : (convs.map Conversation.convId).Nodup) :
    (setAll convs).Represents fun convId => convs.find? fun conv => conv.convId = convId :=
  .of_get (nodup_ids_setAll distinct) (pairwise_sort convs) (get_setAll distinct)

/-- Changing the entry of an id and sorting. -/
theorem Represents.modify_sort (represents : cache.Represents map) {convId : String}
    {change : Conversation → Conversation}
    (sameId : ∀ conv, conv.convId = convId → (change conv).convId = convId) :
    (setAll (modifyFirst convId change cache.convs)).Represents
      (Function.update map convId ((map convId).map change)) := by
  have distinct : ((modifyFirst convId change cache.convs).map Conversation.convId).Nodup := by
    rw [map_modifyFirst convId sameId]
    exact represents.nodup
  refine .of_get (nodup_ids_setAll distinct) (pairwise_sort _) fun other => ?_
  rw [get_setAll distinct, find?_modifyFirst sameId, Function.update_apply,
    ← represents.get_eq, ← represents.get_eq]
  rfl

/-- Changing what the sort does not look at needs no sorting. -/
theorem Represents.modify (represents : cache.Represents map) {convId : String}
    {change : Conversation → Conversation}
    (sameId : ∀ conv, conv.convId = convId → (change conv).convId = convId)
    (sameKey : ∀ conv, sortKey (change conv) = sortKey conv) :
    Represents ⟨modifyFirst convId change cache.convs⟩
      (Function.update map convId ((map convId).map change)) := by
  have sorted := represents.modify_sort sameId
  have sameKeys : (modifyFirst convId change cache.convs).map sortKey =
      cache.convs.map sortKey := by
    rw [modifyFirst_eq_map represents.nodup, List.map_map]
    refine List.map_congr_left fun conv _ => ?_
    rw [Function.comp_apply]
    split
    · exact sameKey conv
    · rfl
  have already : sort (modifyFirst convId change cache.convs) =
      modifyFirst convId change cache.convs := by
    rw [sort_eq_self_iff, sameKeys]
    exact represents.ordered
  rw [setAll, already] at sorted
  exact sorted

theorem Represents.upsert (represents : cache.Represents map) (record : Conversation) :
    (cache.upsert record).Represents (Function.update map record.convId (some record)) := by
  have ordered : (cache.upsert record).Ordered := ordered_upsert record cache
  refine .of_get (nodup_ids_upsert represents.nodup) ordered fun convId => ?_
  rw [Function.update_apply]
  refine Option.ext fun conv => ?_
  rw [get_eq_some_iff_of_nodup (nodup_ids_upsert represents.nodup)]
  split
  · next same =>
      constructor
      · rintro ⟨member, isId⟩
        rcases mem_upsert_of_nodup represents.nodup member with rfl | ⟨_, other⟩
        · rfl
        · exact absurd (isId.trans same) other
      · intro isRecord
        obtain rfl := Option.some.inj isRecord
        exact ⟨mem_upsert_self record cache, same.symm⟩
  · next different =>
      rw [← represents.get_eq, get_eq_some_iff_of_nodup represents.nodup]
      constructor
      · rintro ⟨member, isId⟩
        rcases mem_upsert_of_nodup represents.nodup member with rfl | ⟨old, _⟩
        · exact absurd isId.symm different
        · exact ⟨old, isId⟩
      · rintro ⟨member, isId⟩
        exact ⟨mem_upsert_of_ne member fun same => different (isId.symm.trans same), isId⟩

theorem Represents.remove (represents : cache.Represents map) (convId : String) :
    (cache.remove convId).Represents (Function.update map convId none) := by
  have ordered : (cache.remove convId).Ordered :=
    represents.ordered.sublist (List.filter_sublist.map sortKey)
  refine .of_get (nodup_ids_remove represents.nodup) ordered fun other => ?_
  rw [get_remove, Function.update_apply, represents.get_eq]
  by_cases same : convId = other
  · rw [if_pos same, if_pos same.symm]
  · rw [if_neg same, if_neg fun equal => same equal.symm]

/-- Every call updates the map as it should. -/
theorem Represents.apply (represents : cache.Represents map) {call : CacheCall}
    (distinct : call.DistinctIds) : (call.apply cache).Represents (call.update map) := by
  cases call with
  | setAll convs => exact represents_setAll distinct
  | upsert conv => exact represents.upsert conv
  | remove convId => exact represents.remove convId
  | incrementUnread convId =>
      have sameId : ∀ conv : Conversation, conv.convId = convId →
          (if conv.isMuted then conv
            else { conv with unreadCount := conv.unreadCount + 1 }).convId = convId := by
        intro conv isId
        split <;> exact isId
      refine represents.modify sameId fun conv => ?_
      split <;> rfl
  | clearUnread convId => exact represents.modify (fun _ => id) fun _ => rfl
  | setLastMessage convId msgId text timestampMs =>
      rw [CacheCall.apply, setLastMessage]
      split
      · exact represents.modify_sort fun _ => id
      · next absent =>
          have missing : map convId = none := by
            rw [← represents.get_eq, get_eq_none_iff]
            simpa using absent
          have unchanged : CacheCall.update map (.setLastMessage convId msgId text timestampMs) =
              map := by
            rw [CacheCall.update, missing, Option.map_none, ← missing, Function.update_eq_self]
          rw [unchanged]
          exact represents
  | clear => exact represents_empty

end Represents

/-! ## Ties -/

/-- One of two entries stands first. -/
theorem pair_sublist_or {convs : List Conversation} {first second : Conversation}
    (firstMem : first ∈ convs) (secondMem : second ∈ convs) (different : first ≠ second) :
    List.Sublist [first, second] convs ∨ List.Sublist [second, first] convs := by
  rcases List.append_of_mem firstMem with ⟨front, back, split⟩
  rw [split] at secondMem
  rcases List.mem_append.mp secondMem with inFront | inRest
  · refine .inr (split ▸ ?_)
    exact (List.singleton_sublist.mpr inFront).append
      (List.singleton_sublist.mpr List.mem_cons_self)
  · rcases List.mem_cons.mp inRest with same | inBack
    · exact absurd same.symm different
    · refine .inl (split ▸ ?_)
      exact ((List.singleton_sublist.mpr inBack).cons_cons first).trans
        (List.sublist_append_right front _)

theorem not_pair_sublist_both {convs : List Conversation}
    (distinct : (convs.map Conversation.convId).Nodup) {first second : Conversation}
    (before : List.Sublist [first, second] convs) :
    ¬List.Sublist [second, first] convs := by
  have nodup := List.Nodup.of_map _ distinct
  induction convs with
  | nil => exact fun after => absurd (after.subset List.mem_cons_self) List.not_mem_nil
  | cons head rest ih =>
      rw [List.map_cons, List.nodup_cons] at distinct
      rw [List.nodup_cons] at nodup
      intro after
      rcases List.cons_sublist_cons'.mp before with inRest | ⟨isHead, later⟩
      · rcases List.cons_sublist_cons'.mp after with inRest' | ⟨isHead, _⟩
        · exact ih distinct.2 inRest nodup.2 inRest'
        · exact nodup.1 (isHead ▸ inRest.subset (List.mem_cons_of_mem _ List.mem_cons_self))
      · rcases List.cons_sublist_cons'.mp after with inRest' | ⟨isHead', _⟩
        · exact nodup.1 (isHead ▸ inRest'.subset (List.mem_cons_of_mem _ List.mem_cons_self))
        · exact nodup.1 (isHead'.symm ▸ List.singleton_sublist.mp later)

/-- Order kept one way is kept both ways. -/
theorem sameTies_of_sublist {before after : List Conversation}
    (distinct : (after.map Conversation.convId).Nodup)
    (kept : ∀ first second, first ∈ after → second ∈ after → sortKey first = sortKey second →
      List.Sublist [first, second] before → List.Sublist [first, second] after) :
    SameTies before after := by
  intro first second firstMem secondMem firstStays secondStays tied
  constructor
  · exact kept first second firstStays secondStays tied
  · intro ordered
    by_cases same : first = second
    · subst same
      exact absurd ordered (not_pair_sublist_both distinct ordered)
    · rcases pair_sublist_or firstMem secondMem same with wanted | reversed
      · exact wanted
      · have contrary := kept second first secondStays firstStays tied.symm reversed
        exact absurd contrary (not_pair_sublist_both distinct ordered)

/-- The sort is stable. -/
theorem sublist_sort {convs : List Conversation} {first second : Conversation}
    (tied : sortKey first = sortKey second) (ordered : List.Sublist [first, second] convs) :
    List.Sublist [first, second] (sort convs) := by
  refine List.pair_sublist_insertionSort ?_ ordered
  rw [sortsBefore_eq_false_iff, tied]
  exact .inr ⟨rfl, Int64.le_refl _⟩

/-- An entry that is still there after a change was not changed. -/
theorem sublist_modifyFirst {convId : String} {change : Conversation → Conversation}
    (sameId : ∀ conv, conv.convId = convId → (change conv).convId = convId)
    {convs : List Conversation} (distinct : (convs.map Conversation.convId).Nodup)
    {first second : Conversation} (firstStays : first ∈ modifyFirst convId change convs)
    (secondStays : second ∈ modifyFirst convId change convs)
    (ordered : List.Sublist [first, second] convs) :
    List.Sublist [first, second] (modifyFirst convId change convs) := by
  have after : ((modifyFirst convId change convs).map Conversation.convId).Nodup := by
    rw [map_modifyFirst convId sameId]
    exact distinct
  rw [modifyFirst_eq_map distinct] at firstStays secondStays after ⊢
  have unchanged : ∀ conv ∈ convs,
      conv ∈ convs.map (fun conv => if conv.convId = convId then change conv else conv) →
        (if conv.convId = convId then change conv else conv) = conv := by
    intro conv member stays
    refine List.inj_on_of_nodup_map after (List.mem_map_of_mem member) stays ?_
    split
    · next isId => rw [sameId conv isId, isId]
    · rfl
  have mapped := ordered.map fun conv => if conv.convId = convId then change conv else conv
  rw [List.map_cons, List.map_cons, List.map_nil,
    unchanged first (ordered.subset List.mem_cons_self) firstStays,
    unchanged second (ordered.subset (List.mem_cons_of_mem _ List.mem_cons_self)) secondStays]
    at mapped
  exact mapped

/-- Every call keeps the ties in order. -/
theorem keepsTies {cache : ConversationCache} {map : ConversationMap}
    (represents : cache.Represents map) {call : CacheCall} (distinct : call.DistinctIds) :
    call.KeepsTies cache := by
  have after := (represents.apply distinct).nodup
  cases call with
  | setAll convs =>
      exact sameTies_of_sublist after fun _ _ _ _ tied ordered => sublist_sort tied ordered
  | upsert record =>
      refine sameTies_of_sublist after fun first second firstStays secondStays tied ordered => ?_
      simp only [CacheCall.apply, getAll, upsert] at firstStays secondStays ⊢
      split
      · next present =>
          rw [if_pos present] at firstStays secondStays
          have kept := sublist_modifyFirst (fun _ _ => rfl) represents.nodup
            (mem_sort.mp firstStays) (mem_sort.mp secondStays) ordered
          exact sublist_sort tied kept
      · exact sublist_sort tied (ordered.trans (List.sublist_append_left _ _))
  | remove convId =>
      refine sameTies_of_sublist after fun first second firstStays secondStays _ ordered => ?_
      have filtered := ordered.filter fun conv => conv.convId ≠ convId
      rw [List.filter_eq_self.mpr] at filtered
      · exact filtered
      · intro conv member
        rcases List.mem_cons.mp member with rfl | last
        · exact (List.mem_filter.mp firstStays).2
        · rw [List.mem_singleton.mp last]
          exact (List.mem_filter.mp secondStays).2
  | incrementUnread convId =>
      refine sameTies_of_sublist after fun first second firstStays secondStays _ ordered => ?_
      refine sublist_modifyFirst (fun conv isId => ?_) represents.nodup firstStays secondStays
        ordered
      split <;> exact isId
  | clearUnread convId =>
      refine sameTies_of_sublist after fun first second firstStays secondStays _ ordered => ?_
      have sameId : ∀ conv : Conversation, conv.convId = convId →
          ({ conv with unreadCount := 0 } : Conversation).convId = convId := fun _ => id
      exact sublist_modifyFirst sameId represents.nodup firstStays secondStays ordered
  | setLastMessage convId msgId text timestampMs =>
      refine sameTies_of_sublist after fun first second firstStays secondStays tied ordered => ?_
      simp only [CacheCall.apply, getAll, setLastMessage] at firstStays secondStays ⊢
      split
      · next present =>
          rw [if_pos present] at firstStays secondStays
          have sameId : ∀ conv : Conversation, conv.convId = convId →
              (withLastMessage msgId text timestampMs conv).convId = convId := fun _ => id
          have kept := sublist_modifyFirst sameId represents.nodup
            (mem_sort.mp firstStays) (mem_sort.mp secondStays) ordered
          exact sublist_sort tied kept
      · exact ordered
  | clear =>
      exact fun first second _ _ firstStays => absurd firstStays List.not_mem_nil

/-! ## Runs -/

/-- After any calls on an empty cache it represents the map after the same calls,
and each call on the way kept the ties in order. -/
theorem represents_map (calls : List CacheCall) (distinct : ∀ call ∈ calls, call.DistinctIds) :
    (EventRun.exec CacheCall.apply {} calls).Represents
        (EventRun.exec CacheCall.update (fun _ => none) calls) ∧
      EventRun.Guarded CacheCall.apply CacheCall.KeepsTies {} calls := by
  have run : ∀ (cache : ConversationCache) (map : ConversationMap), cache.Represents map →
      (EventRun.exec CacheCall.apply cache calls).Represents
          (EventRun.exec CacheCall.update map calls) ∧
        EventRun.Guarded CacheCall.apply CacheCall.KeepsTies cache calls := by
    induction calls with
    | nil => exact fun cache map represents => ⟨represents, trivial⟩
    | cons call later ih =>
        intro cache map represents
        have here := distinct call List.mem_cons_self
        have rest := ih (fun call member => distinct call (List.mem_cons_of_mem _ member)) _ _
          (represents.apply here)
        exact ⟨rest.1, keepsTies represents here, rest.2⟩
  exact run {} (fun _ => none) represents_empty

/-- Two conversations of one time, of which the second gets a message. -/
def tiedCalls : List CacheCall :=
  [.setAll [{ convId := "c1", lastMsgTimeMs := 5 }, { convId := "c2", lastMsgTimeMs := 5 }],
   .setLastMessage "c2" "m1" "hi" 9, .incrementUnread "c1"]

theorem represents_map_tiedCalls :
    (∀ call ∈ tiedCalls, call.DistinctIds) ∧
      (EventRun.exec CacheCall.apply {} tiedCalls).Represents
        (EventRun.exec CacheCall.update (fun _ => none) tiedCalls) ∧
      (EventRun.exec CacheCall.apply {} tiedCalls).getAll =
        [{ convId := "c2", lastMsgId := "m1", lastMsgText := "hi", lastMsgTimeMs := 9 },
         { convId := "c1", lastMsgTimeMs := 5, unreadCount := 1 }] := by
  have distinct : ∀ call ∈ tiedCalls, call.DistinctIds := by
    simp [tiedCalls, CacheCall.DistinctIds]
  exact ⟨distinct, (represents_map tiedCalls distinct).1, by decide⟩

end ConversationCache

end AnychatSdk
