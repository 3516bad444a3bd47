import AnychatSdk.Types
import Mathlib.Data.List.Sort

/-!
# The conversation cache

An in-memory list of conversations, pinned ones first by descending pin time,
then the others by descending time of their last message.  Nothing in the cache
keeps two entries with one id apart: `setAll` stores whatever list it is given,
and the single-entry operations act on the first match.
-/

namespace AnychatSdk

/-- The entries of `ConversationCache`, in list order. -/
structure ConversationCache where
  convs : List Conversation := []
  deriving DecidableEq

namespace ConversationCache

/-- The comparator of the stable sort. -/
def sortsBefore (left right : Conversation) : Bool :=
  if left.isPinned ≠ right.isPinned then left.isPinned
  else if left.isPinned && right.isPinned then right.pinTimeMs < left.pinTimeMs
  else right.lastMsgTimeMs < left.lastMsgTimeMs

/-- `std::stable_sort` with that comparator. -/
def sort (convs : List Conversation) : List Conversation :=
  convs.insertionSort fun left right => sortsBefore right left = false

/-- Change the first entry with the given id. -/
def modifyFirst (convId : String) (change : Conversation → Conversation) :
    List Conversation → List Conversation
  | [] => []
  | conv :: rest =>
      if conv.convId = convId then change conv :: rest
      else conv :: modifyFirst convId change rest

def setAll (convs : List Conversation) : ConversationCache :=
  ⟨sort convs⟩

def getAll (cache : ConversationCache) : List Conversation :=
  cache.convs

def get (cache : ConversationCache) (convId : String) : Option Conversation :=
  cache.convs.find? fun conv => conv.convId = convId

def upsert (conv : Conversation) (cache : ConversationCache) : ConversationCache :=
  if cache.convs.any fun old => old.convId = conv.convId then
    ⟨sort (modifyFirst conv.convId (fun _ => conv) cache.convs)⟩
  else
    ⟨sort (cache.convs ++ [conv])⟩

def remove (convId : String) (cache : ConversationCache) : ConversationCache :=
  ⟨cache.convs.filter fun conv => conv.convId ≠ convId⟩

/-- A muted conversation counts no unread messages. -/
def incrementUnread (convId : String) (cache : ConversationCache) : ConversationCache :=
  ⟨modifyFirst convId
    (fun conv => if conv.isMuted then conv else { conv with unreadCount := conv.unreadCount + 1 })
    cache.convs⟩

def clearUnread (convId : String) (cache : ConversationCache) : ConversationCache :=
  ⟨modifyFirst convId (fun conv => { conv with unreadCount := 0 }) cache.convs⟩

def withLastMessage (msgId text : String) (timestampMs : Int64) (conv : Conversation) :
    Conversation :=
  { conv with lastMsgId := msgId, lastMsgText := text, lastMsgTimeMs := timestampMs }

/-- The entries are sorted again only if one of them changed. -/
def setLastMessage (convId msgId text : String) (timestampMs : Int64)
    (cache : ConversationCache) : ConversationCache :=
  if cache.convs.any fun conv => conv.convId = convId then
    ⟨sort (modifyFirst convId (withLastMessage msgId text timestampMs) cache.convs)⟩
  else cache

def clear (_cache : ConversationCache) : ConversationCache :=
  ⟨[]⟩

/-! ## Membership -/

/-- The ids in the cache, with repetitions. -/
def ids (cache : ConversationCache) : List String :=
  cache.convs.map Conversation.convId

@[simp]
theorem mem_sort {conv : Conversation} {convs : List Conversation} :
    conv ∈ sort convs ↔ conv ∈ convs :=
  List.mem_insertionSort _

theorem map_sort_perm (convs : List Conversation) :
    ((sort convs).map Conversation.convId).Perm (convs.map Conversation.convId) :=
  (List.perm_insertionSort _ convs).map _

@[simp]
theorem mem_setAll {conv : Conversation} {convs : List Conversation} :
    conv ∈ (setAll convs).convs ↔ conv ∈ convs :=
  mem_sort

theorem get_mem {cache : ConversationCache} {convId : String} {conv : Conversation}
    (found : cache.get convId = some conv) : conv ∈ cache.convs :=
  List.mem_of_find?_eq_some found

theorem get_convId {cache : ConversationCache} {convId : String} {conv : Conversation}
    (found : cache.get convId = some conv) : conv.convId = convId := by
  simpa using List.find?_some found

theorem get_eq_none_iff {cache : ConversationCache} {convId : String} :
    cache.get convId = none ↔ ∀ conv ∈ cache.convs, conv.convId ≠ convId := by
  simp [get]

theorem map_modifyFirst (convId : String) {change : Conversation → Conversation}
    (sameId : ∀ conv, conv.convId = convId → (change conv).convId = convId)
    (convs : List Conversation) :
    (modifyFirst convId change convs).map Conversation.convId =
      convs.map Conversation.convId := by
  induction convs with
  | nil => rfl
  | cons conv rest ih =>
      rw [modifyFirst]
      split
      · next matched => simp [matched, sameId conv matched]
      · simp [ih]

theorem mem_modifyFirst {convId : String} {change : Conversation → Conversation}
    {convs : List Conversation} {conv : Conversation}
    (member : conv ∈ modifyFirst convId change convs) :
    (∃ old ∈ convs, old.convId = convId ∧ conv = change old) ∨ conv ∈ convs := by
  induction convs with
  | nil => exact absurd member List.not_mem_nil
  | cons first rest ih =>
      rw [modifyFirst] at member
      split at member
      · next matched =>
          rcases List.mem_cons.mp member with rfl | later
          · exact .inl ⟨first, List.mem_cons_self, matched, rfl⟩
          · exact .inr (List.mem_cons_of_mem first later)
      · rcases List.mem_cons.mp member with rfl | later
        · exact .inr List.mem_cons_self
        · rcases ih later with ⟨old, oldMem, matched, rfl⟩ | unchanged
          · exact .inl ⟨old, List.mem_cons_of_mem first oldMem, matched, rfl⟩
          · exact .inr (List.mem_cons_of_mem first unchanged)

/-- With distinct ids, the entries after a change are the changed match and the
entries with other ids. -/
theorem mem_modifyFirst_of_nodup {convId : String} {change : Conversation → Conversation}
    {convs : List Conversation} (distinct : (convs.map Conversation.convId).Nodup)
    {conv : Conversation} (member : conv ∈ modifyFirst convId change convs) :
    (∃ old ∈ convs, old.convId = convId ∧ conv = change old) ∨
      (conv ∈ convs ∧ conv.convId ≠ convId) := by
  induction convs with
  | nil => exact absurd member List.not_mem_nil
  | cons first rest ih =>
      rw [List.map_cons, List.nodup_cons] at distinct
      rw [modifyFirst] at member
      split at member
      · next matched =>
          rcases List.mem_cons.mp member with rfl | later
          · exact .inl ⟨first, List.mem_cons_self, matched, rfl⟩
          · refine .inr ⟨List.mem_cons_of_mem first later, fun same => distinct.1 ?_⟩
            exact List.mem_map.mpr ⟨conv, later, same.trans matched.symm⟩
      · next unmatched =>
          rcases List.mem_cons.mp member with rfl | later
          · exact .inr ⟨List.mem_cons_self, unmatched⟩
          · rcases ih distinct.2 later with ⟨old, oldMem, matched, rfl⟩ | ⟨unchanged, other⟩
            · exact .inl ⟨old, List.mem_cons_of_mem first oldMem, matched, rfl⟩
            · exact .inr ⟨List.mem_cons_of_mem first unchanged, other⟩

/-- Entries after an upsert: the new record or an entry that was there. -/
theorem mem_upsert {record conv : Conversation} {cache : ConversationCache}
    (member : conv ∈ (cache.upsert record).convs) : conv = record ∨ conv ∈ cache.convs := by
  rw [upsert] at member
  split at member
  · rcases mem_modifyFirst (mem_sort.mp member) with ⟨_, _, _, rfl⟩ | old
    · exact .inl rfl
    · exact .inr old
  · rcases List.mem_append.mp (mem_sort.mp member) with old | new
    · exact .inr old
    · exact .inl (List.mem_singleton.mp new)

/-- With distinct ids, an upsert leaves no other entry under the record's id. -/
theorem mem_upsert_of_nodup {record conv : Conversation} {cache : ConversationCache}
    (distinct : cache.ids.Nodup) (member : conv ∈ (cache.upsert record).convs) :
    conv = record ∨ (conv ∈ cache.convs ∧ conv.convId ≠ record.convId) := by
  rw [upsert] at member
  split at member
  · rcases mem_modifyFirst_of_nodup distinct (mem_sort.mp member) with ⟨_, _, _, rfl⟩ | old
    · exact .inl rfl
    · exact .inr old
  · next absent =>
      rcases List.mem_append.mp (mem_sort.mp member) with old | new
      · refine .inr ⟨old, fun same => absent ?_⟩
        exact List.any_eq_true.mpr ⟨conv, old, decide_eq_true same⟩
      · exact .inl (List.mem_singleton.mp new)

theorem mem_modifyFirst_of_ne {convId : String} {change : Conversation → Conversation}
    {convs : List Conversation} {conv : Conversation} (member : conv ∈ convs)
    (other : conv.convId ≠ convId) : conv ∈ modifyFirst convId change convs := by
  induction convs with
  | nil => exact absurd member List.not_mem_nil
  | cons first rest ih =>
      rw [modifyFirst]
      split
      · next matched =>
          rcases List.mem_cons.mp member with rfl | later
          · exact absurd matched other
          · exact List.mem_cons_of_mem _ later
      · rcases List.mem_cons.mp member with rfl | later
        · exact List.mem_cons_self
        · exact List.mem_cons_of_mem first (ih later)

/-- An upsert keeps the entries with other ids. -/
theorem mem_upsert_of_ne {record conv : Conversation} {cache : ConversationCache}
    (member : conv ∈ cache.convs) (other : conv.convId ≠ record.convId) :
    conv ∈ (cache.upsert record).convs := by
  rw [upsert]
  split
  · exact mem_sort.mpr (mem_modifyFirst_of_ne member other)
  · exact mem_sort.mpr (List.mem_append_left _ member)

theorem mem_upsert_self (record : Conversation) (cache : ConversationCache) :
    record ∈ (cache.upsert record).convs := by
  rw [upsert]
  split
  · next present =>
      rcases List.any_eq_true.mp present with ⟨old, oldMem, same⟩
      apply mem_sort.mpr
      clear present
      generalize cache.convs = convs at oldMem
      induction convs with
      | nil => exact absurd oldMem List.not_mem_nil
      | cons first rest ih =>
          rw [modifyFirst]
          split
          · exact List.mem_cons_self
          · next unmatched =>
              rcases List.mem_cons.mp oldMem with rfl | later
              · exact absurd (of_decide_eq_true same) unmatched
              · exact List.mem_cons_of_mem first (ih later)
  · exact mem_sort.mpr (List.mem_append_right _ (List.mem_singleton.mpr rfl))

theorem nodup_ids_upsert {record : Conversation} {cache : ConversationCache}
    (distinct : cache.ids.Nodup) : (cache.upsert record).ids.Nodup := by
  rw [upsert]
  split
  · apply (map_sort_perm _).nodup_iff.mpr
    rw [map_modifyFirst record.convId (fun _ _ => rfl)]
    exact distinct
  · next absent =>
      apply (map_sort_perm _).nodup_iff.mpr
      rw [List.map_append, List.map_cons, List.map_nil, List.nodup_append_comm]
      refine List.nodup_cons.mpr ⟨fun member => absent ?_, distinct⟩
      rcases List.mem_map.mp member with ⟨old, oldMem, same⟩
      exact List.any_eq_true.mpr ⟨old, oldMem, decide_eq_true same⟩

theorem nodup_ids_setAll {convs : List Conversation}
    (distinct : (convs.map Conversation.convId).Nodup) : (setAll convs).ids.Nodup :=
  (map_sort_perm convs).nodup_iff.mpr distinct

/-- An upsert adds the id of the record unless it is there. -/
theorem ids_upsert_perm (record : Conversation) (cache : ConversationCache) :
    (cache.upsert record).ids.Perm
      (if record.convId ∈ cache.ids then cache.ids else cache.ids ++ [record.convId]) := by
  have present_iff : (cache.convs.any fun old => old.convId = record.convId) = true ↔
      record.convId ∈ cache.ids := by
    simp [ids]
  rw [upsert]
  by_cases present : record.convId ∈ cache.ids
  · rw [if_pos (present_iff.mpr present), if_pos present]
    apply (map_sort_perm _).trans
    rw [map_modifyFirst record.convId (fun _ _ => rfl)]
    exact List.Perm.refl _
  · rw [if_neg fun any => present (present_iff.mp any), if_neg present]
    apply (map_sort_perm _).trans
    rw [List.map_append]
    exact List.Perm.refl _

theorem ids_setAll_perm (convs : List Conversation) :
    (setAll convs).ids.Perm (convs.map Conversation.convId) :=
  map_sort_perm convs

@[simp]
theorem ids_clearUnread (convId : String) (cache : ConversationCache) :
    (cache.clearUnread convId).ids = cache.ids :=
  @map_modifyFirst convId (fun conv => { conv with unreadCount := 0 }) (fun _ matched => matched)
    cache.convs

theorem ids_remove (convId : String) (cache : ConversationCache) :
    (cache.remove convId).ids = cache.ids.filter fun id => id ≠ convId := by
  simp only [remove, ids, List.filter_map]
  rfl

theorem mem_ids_of_get {cache : ConversationCache} {convId : String} {conv : Conversation}
    (found : cache.get convId = some conv) : convId ∈ cache.ids :=
  List.mem_map.mpr ⟨conv, get_mem found, get_convId found⟩

theorem mem_remove {convId : String} {conv : Conversation} {cache : ConversationCache} :
    conv ∈ (cache.remove convId).convs ↔ conv ∈ cache.convs ∧ conv.convId ≠ convId := by
  simp [remove]

theorem nodup_ids_remove {convId : String} {cache : ConversationCache}
    (distinct : cache.ids.Nodup) : (cache.remove convId).ids.Nodup :=
  distinct.sublist (List.filter_sublist.map Conversation.convId)

theorem nodup_ids_clearUnread {convId : String} {cache : ConversationCache}
    (distinct : cache.ids.Nodup) : (cache.clearUnread convId).ids.Nodup := by
  rw [ids_clearUnread]
  exact distinct

theorem get_clearUnread (key convId : String) (cache : ConversationCache) :
    (cache.clearUnread key).get convId =
      if key = convId then (cache.get convId).map fun conv => { conv with unreadCount := 0 }
      else cache.get convId := by
  rcases cache with ⟨convs⟩
  simp only [get, clearUnread]
  induction convs with
  | nil => simp [modifyFirst]
  | cons first rest ih =>
      rw [modifyFirst]
      by_cases matched : first.convId = key
      · rw [if_pos matched]
        by_cases same : key = convId <;> simp [matched, same]
      · rw [if_neg matched]
        by_cases found : first.convId = convId
        · have other : key ≠ convId := fun same => matched (found.trans same.symm)
          simp [found, other]
        · simpa [found] using ih

theorem get_remove (key convId : String) (cache : ConversationCache) :
    (cache.remove key).get convId = if key = convId then none else cache.get convId := by
  split
  · next same => simp [get, remove, same]
  · next other =>
      simp only [get, remove, List.find?_filter]
      congr 1
      funext conv
      by_cases matched : conv.convId = convId
      · simp [matched, Ne.symm other]
      · simp [matched]

/-- Distinct ids make the cache a finite map. -/
theorem get_eq_some_iff_of_nodup {cache : ConversationCache} (distinct : cache.ids.Nodup)
    {convId : String} {conv : Conversation} :
    cache.get convId = some conv ↔ conv ∈ cache.convs ∧ conv.convId = convId := by
  constructor
  · intro found
    exact ⟨get_mem found, get_convId found⟩
  · rintro ⟨member, rfl⟩
    cases found : cache.get conv.convId with
    | none => exact absurd rfl (get_eq_none_iff.mp found conv member)
    | some first =>
        have same := List.inj_on_of_nodup_map distinct (get_mem found) member (get_convId found)
        rw [same]

end ConversationCache

end AnychatSdk
