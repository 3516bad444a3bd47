import AnychatSdk.ConversationEffects

/-!
# Updates that are lost

A handler writes the whole record that it has made of its copy, to the cache and
then as a row.  Whatever another thread has written after the copy was taken is
overwritten with it.
-/

namespace AnychatSdk

/-! ## What two calls leave -/

namespace ConversationRace

variable (calls : Side → ConversationCall) (start : Client) (race : ConversationRace)

/-- What the cache has under an id shows the effect of one of the calls. -/
def CacheShows (side : Side) (convId : String) (content : Option Conversation) : Prop :=
  (calls side).Shows start convId content ∧
    (race.points side).ListShown (calls side.other) convId content

/-- Cache and table show the effect of a call. -/
structure NotLost (side : Side) : Prop where
  cached : ∀ convId, race.CacheShows calls start side convId (race.client.convCache.get convId)
  stored : ∀ convId, (calls side).Shows start convId (race.client.stored convId) ∧
    (race.points side).RowsShown (calls side) (calls side.other) convId
      (race.client.stored convId)

end ConversationRace

namespace CallPoint

/-- The call does not come to the cache any more. -/
def CacheDone : CallPoint → Prop
  | posting _ | loaded _ | returned => True
  | called | found _ | querying | storing _ _ | loading _ => False

/-- The call has posted its statement. -/
def Ended : CallPoint → Prop
  | loaded _ | returned => True
  | called | found _ | posting _ | querying | storing _ _ | loading _ => False

end CallPoint

/-! ## Schedules that lose nothing -/

namespace ConversationRace

variable (calls : Side → ConversationCall) (start : Client) (race : ConversationRace)

/-- What the table has under an id shows what one of the calls has posted so far. -/
def RowShows (side : Side) (convId : String) (content : Option Conversation) : Prop :=
  ((race.points side).Ended → (calls side).Shows start convId content) ∧
    (race.points side).RowsShown (calls side) (calls side.other) convId content

/-- A copy is written only if it shows what the other call has written before, and
so are the records of a list, which have different ids.  A call that has nothing to
write finds its effect in the stores, and messages protect no row that is to be
deleted. -/
def Safe (mover : Side) : Prop :=
  match race.points mover with
  | .found copy =>
      ¬(calls mover).Deletes →
        if ((calls mover).change copy race.client).isSome then
          (race.points mover.other).CacheDone → ∀ convId, (calls mover).convId = some convId →
            race.CacheShows calls start mover.other convId (some (copy.getD {}))
        else
          ∀ convId, (calls mover).Shows start convId (race.client.convCache.get convId) ∧
            (((calls mover).write copy race.client).1.Ended →
              (calls mover).Shows start convId (race.client.stored convId))
  | .posting (.upsertConversation convId row) =>
      race.RowShows calls start mover.other convId
        (some (rowToConversation (row.toRow convId)))
  | .posting (.deleteConversation convId) =>
      race.client.table.hasMessageOf convId = true → race.client.stored convId = none
  | .storing (payload :: _) convs =>
      let conv := (race.client.stampUpdated (parseConversationPayload payload)).1
      conv.convId ≠ "" → conv.convId ∉ convs.map Conversation.convId ∧
        race.RowShows calls start mover.other conv.convId (some conv.readBack)
  | .loading convs =>
      (convs.map Conversation.convId).Nodup ∧
        ((race.points mover.other).CacheDone → ∀ convId,
          race.CacheShows calls start mover.other convId
            ((ConversationCache.setAll convs).get convId))
  | _ => True

end ConversationRace

/-! ## The invariant -/

/-- What a point holds belongs to its call. -/
def CallPoint.Fits (start client : Client) (call : ConversationCall) : CallPoint → Prop
  | found copy => ∀ conv ∈ copy, call.convId = some conv.convId
  | posting stmt => call.Posts start stmt
  | querying => call = .list
  | storing _ _ => ∃ payloads, call = .listResponse payloads
  | loading _ => call.Lists
  | loaded _ => ∀ convId, client.convCache.Single convId
  | called | returned => True

theorem CallPoint.Fits.mono {start client next : Client} {call : ConversationCall}
    {point : CallPoint} (fits : point.Fits start client call)
    (single : ∀ convId, client.convCache.Single convId → next.convCache.Single convId) :
    point.Fits start next call := by
  cases point with
  | loaded convs => exact fun convId => single convId (fits convId)
  | called | found | posting | querying | storing | loading | returned => exact fits

namespace ConversationRace

variable (calls : Side → ConversationCall) (start : Client)

/-- A call that is done with a store has left its effect there, or will still post
it. -/
structure Keeps (race : ConversationRace) : Prop where
  since : Client.Since start race.client
  single : ∀ side convId, (calls side).convId = some convId →
    race.client.convCache.Single convId
  fits : ∀ side, (race.points side).Fits start race.client (calls side)
  cached : ∀ side, (race.points side).CacheDone →
    ∀ convId, race.CacheShows calls start side convId (race.client.convCache.get convId)
  stored : ∀ side convId, race.RowShows calls start side convId (race.client.stored convId)

/-- The race after a step that takes a call to a point. -/
def moved (race : ConversationRace) (mover : Side) (point : CallPoint) (next : Client) :
    ConversationRace :=
  { client := next, points := Function.update race.points mover point }

section Moved

variable {calls : Side → ConversationCall} {start : Client} {race : ConversationRace}
  {mover : Side} {point : CallPoint} {next : Client}

theorem points_moved_self : (race.moved mover point next).points mover = point :=
  Function.update_self _ _ _

theorem points_moved_other :
    (race.moved mover point next).points mover.other = race.points mover.other :=
  Function.update_of_ne mover.other_ne _ _

theorem cacheShows_moved_other {convId : String} {content : Option Conversation} :
    (race.moved mover point next).CacheShows calls start mover.other convId content ↔
      race.CacheShows calls start mover.other convId content := by
  rw [CacheShows, CacheShows, points_moved_other]

theorem rowShows_moved_other {convId : String} {content : Option Conversation} :
    (race.moved mover point next).RowShows calls start mover.other convId content ↔
      race.RowShows calls start mover.other convId content := by
  rw [RowShows, RowShows, points_moved_other]

/-- What a step has to keep of both calls. -/
theorem Keeps.moved (keeps : race.Keeps calls start) (since : Client.Since race.client next)
    (single : ∀ convId, race.client.convCache.Single convId → next.convCache.Single convId)
    (fits : point.Fits start next (calls mover))
    (cached : point.CacheDone → ∀ convId,
      (calls mover).Shows start convId (next.convCache.get convId) ∧
        point.ListShown (calls mover.other) convId (next.convCache.get convId))
    (stored : ∀ convId,
      (point.Ended → (calls mover).Shows start convId (next.stored convId)) ∧
        point.RowsShown (calls mover) (calls mover.other) convId (next.stored convId))
    (otherCached : (race.points mover.other).CacheDone → ∀ convId,
      race.CacheShows calls start mover.other convId (next.convCache.get convId))
    (otherStored : ∀ convId,
      race.RowShows calls start mover.other convId (next.stored convId)) :
    (race.moved mover point next).Keeps calls start where
  since := keeps.since.trans since
  single side convId about := single convId (keeps.single side convId about)
  fits side := by
    rcases side.eq_or_eq_other mover with rfl | rfl
    · rw [points_moved_self]
      exact fits
    · rw [points_moved_other]
      exact (keeps.fits mover.other).mono single
  cached side done := by
    rcases side.eq_or_eq_other mover with rfl | rfl
    · rw [points_moved_self] at done
      intro convId
      rw [CacheShows, points_moved_self]
      exact cached done convId
    · rw [points_moved_other] at done
      exact fun convId => cacheShows_moved_other.mpr (otherCached done convId)
  stored side convId := by
    rcases side.eq_or_eq_other mover with rfl | rfl
    · rw [RowShows, points_moved_self]
      exact stored convId
    · exact rowShows_moved_other.mpr (otherStored convId)

end Moved

end ConversationRace

/-! ## Steps that keep the invariant -/

namespace ConversationRace

variable {calls : Side → ConversationCall} {start : Client} {race : ConversationRace}
  {mover : Side} {point : CallPoint} {next : Client}

theorem disjoint_other (disjoint : (calls .first).Disjoint (calls .second)) (mover : Side) :
    (calls mover.other).Disjoint (calls mover) := by
  cases mover with
  | first =>
      intro convId second first
      rcases disjoint convId first second with ⟨firstKeeps, secondKeeps, apart⟩
      exact ⟨secondKeeps, firstKeeps, fun field both => apart field both.symm⟩
  | second => exact disjoint

/-- A cached record that a step leaves counts only where the cache has it once. -/
theorem Keeps.cacheShows_of_get_eq (keeps : race.Keeps calls start) {side : Side}
    {convId : String} {content : Option Conversation}
    (same : race.client.convCache.Single convId → content = race.client.convCache.get convId)
    (shows : race.CacheShows calls start side convId (race.client.convCache.get convId)) :
    race.CacheShows calls start side convId content := by
  constructor
  · intro about
    rw [same (keeps.single side convId about)]
    exact shows.1 about
  · have listed := shows.2
    cases point : race.points side with
    | loaded convs =>
        have fits := keeps.fits side
        rw [point] at fits
        rw [same (fits convId), ← point]
        exact listed
    | called | found | posting | querying | storing | loading | returned => trivial

theorem untouched_unreadCount {call : ConversationCall} (touches : call.Touches .unreadCount)
    (conv : Conversation) (field : ConversationField) (unset : ¬call.Touches field) :
    field.Same conv { conv with unreadCount := 0 } := by
  cases field with
  | unreadCount => exact absurd touches unset
  | pin => exact ⟨rfl, rfl⟩
  | rest => exact ⟨rfl, rfl, rfl, rfl, rfl⟩
  | muted | burnAfterReading | autoDelete | localSeq => rfl

theorem CacheShows.of_untouched {convId : String} {before after : Option Conversation}
    (disjoint : (calls mover.other).Disjoint (calls mover))
    (about : (calls mover).convId = some convId)
    (untouched : (calls mover).Untouched before after)
    (shows : race.CacheShows calls start mover.other convId before) :
    race.CacheShows calls start mover.other convId after := by
  refine ⟨shows.1.of_untouched disjoint about untouched, ?_⟩
  have listed := shows.2
  rw [Side.other_other] at listed ⊢
  exact listed.of_untouched about untouched

theorem RowShows.of_untouched {convId : String} {before after : Option Conversation}
    (disjoint : (calls mover.other).Disjoint (calls mover))
    (about : (calls mover).convId = some convId)
    (untouched : (calls mover).Untouched before after)
    (shows : race.RowShows calls start mover.other convId before) :
    race.RowShows calls start mover.other convId after := by
  refine ⟨fun ended => (shows.1 ended).of_untouched disjoint about untouched, ?_⟩
  have listed := shows.2
  rw [Side.other_other] at listed ⊢
  exact listed.of_untouched about untouched

/-- A step that leaves cache and table. -/
theorem Keeps.quiet (keeps : race.Keeps calls start) (since : Client.Since race.client next)
    (convCache : next.convCache = race.client.convCache)
    (table : next.table = race.client.table)
    (fits : point.Fits start race.client (calls mover))
    (cached : point.CacheDone → ∀ convId,
      (calls mover).Shows start convId (race.client.convCache.get convId) ∧
        point.ListShown (calls mover.other) convId (race.client.convCache.get convId))
    (stored : ∀ convId,
      (point.Ended → (calls mover).Shows start convId (race.client.stored convId)) ∧
        point.RowsShown (calls mover) (calls mover.other) convId (race.client.stored convId)) :
    (race.moved mover point next).Keeps calls start := by
  have sameRows (convId : String) : next.stored convId = race.client.stored convId := by
    rw [Client.stored, Client.stored, table]
  have single (convId : String) (once : race.client.convCache.Single convId) :
      next.convCache.Single convId := by
    rwa [convCache]
  refine keeps.moved since single (fits.mono single) ?_ ?_ ?_ ?_
  · rwa [convCache]
  · intro convId
    rw [sameRows]
    exact stored convId
  · rw [convCache]
    exact keeps.cached mover.other
  · intro convId
    rw [sameRows]
    exact keeps.stored mover.other convId

/-- A statement is posted. -/
theorem Keeps.post (keeps : race.Keeps calls start) {stmt : Stmt}
    (atPoint : race.points mover = .posting stmt)
    (stored : ∀ convId,
      (calls mover).Shows start convId ((race.client.exec stmt).stored convId))
    (otherStored : ∀ convId,
      race.RowShows calls start mover.other convId ((race.client.exec stmt).stored convId)) :
    (race.moved mover .returned (race.client.exec stmt)).Keeps calls start := by
  have done : (race.points mover).CacheDone := by
    rw [atPoint]
    trivial
  exact keeps.moved ⟨rfl, Nat.le_refl _⟩ (fun _ => id) trivial
    (fun _ convId => ⟨(keeps.cached mover done convId).1, trivial⟩)
    (fun convId => ⟨fun _ => stored convId, trivial⟩) (keeps.cached mover.other) otherStored

/-- A whole row is posted. -/
theorem Keeps.put (keeps : race.Keeps calls start) {key : String} {row : ConversationRow}
    (atPoint : race.points mover = .posting (.upsertConversation key row))
    (about : (calls mover).convId = some key)
    (held : (calls mover).HeldBy start (rowToConversation (row.toRow key)))
    (fresh : race.RowShows calls start mover.other key
      (some (rowToConversation (row.toRow key)))) :
    (race.moved mover .returned (race.client.exec (.upsertConversation key row))).Keeps
      calls start := by
  refine keeps.post atPoint ?_ ?_
  · intro convId own
    obtain rfl := Option.some.inj (about.symm.trans own)
    rw [Client.stored_exec_upsertConversation, if_pos rfl]
    exact ConversationCall.Shows.of_held held key own
  · intro convId
    rw [Client.stored_exec_upsertConversation]
    by_cases same : convId = key
    · subst same
      rw [if_pos rfl]
      exact fresh
    · rw [if_neg same]
      exact keeps.stored mover.other convId

section Writes

variable (disjoint : (calls mover.other).Disjoint (calls mover)) (keeps : race.Keeps calls start)

include disjoint keeps

/-- The copy, changed, goes into the cache. -/
theorem Keeps.save {copy : Option Conversation} {conv : Conversation}
    (atPoint : race.points mover = .found copy)
    (made : (calls mover).change copy race.client = some (conv, next))
    (fresh : (race.points mover.other).CacheDone → ∀ convId,
      (calls mover).convId = some convId →
        race.CacheShows calls start mover.other convId (some (copy.getD {}))) :
    (race.moved mover (.posting (.upsertConversation conv.convId conv.toRow))
      (next.mapConvCache (·.upsert conv))).Keeps calls start := by
  have changed := (calls mover).changed_of_change keeps.since made
  have fits := keeps.fits mover
  rw [atPoint] at fits
  have about : (calls mover).convId = some conv.convId := changed.convId fits
  have single := keeps.single mover conv.convId about
  have cache : (next.mapConvCache (·.upsert conv)).convCache =
      race.client.convCache.upsert conv := by
    rw [Client.convCache_mapConvCache, changed.ticked.convCache]
  have rows (convId : String) :
      (next.mapConvCache (·.upsert conv)).stored convId = race.client.stored convId := by
    rw [Client.stored, Client.stored, Client.table_mapConvCache, changed.ticked.table]
  refine keeps.moved ⟨changed.ticked.since.platform, changed.ticked.since.clockReads⟩ ?_
    ⟨about, changed.held.readBack conv.convId⟩ ?_ (fun _ => ⟨fun ended => ended.elim, trivial⟩)
    ?_ ?_
  · intro convId single
    rw [cache]
    exact single.upsert conv
  · intro _ convId
    refine ⟨fun own => ?_, trivial⟩
    obtain rfl := Option.some.inj (about.symm.trans own)
    rw [cache, single.upsert_self.2]
    exact ConversationCall.Shows.of_held changed.held conv.convId own
  · intro done convId
    rw [cache]
    by_cases same : conv.convId = convId
    · obtain rfl := same
      rw [single.upsert_self.2]
      exact (fresh done _ about).of_untouched disjoint about (.some changed.same)
    · exact keeps.cacheShows_of_get_eq (fun single => (single.upsert_other same).2)
        (keeps.cached mover.other done convId)
  · intro convId
    rw [rows]
    exact keeps.stored mover.other convId

/-- The record is removed from the cache. -/
theorem Keeps.remove {key : String} (call : calls mover = .delete key) :
    (race.moved mover (.posting (.deleteConversation key))
      (race.client.mapConvCache (·.remove key))).Keeps calls start := by
  have about : (calls mover).convId = some key := by
    rw [call]
    rfl
  refine keeps.moved ⟨rfl, Nat.le_refl _⟩ (fun _ single => single.remove key) call ?_
    (fun _ => ⟨fun ended => ended.elim, trivial⟩) ?_ (keeps.stored mover.other)
  · intro _ convId
    refine ⟨fun own => ?_, trivial⟩
    obtain rfl := Option.some.inj (about.symm.trans own)
    rw [Client.convCache_mapConvCache, ConversationCache.get_remove, if_pos rfl, call]
    exact ⟨fun creates => creates.elim, fun _ listed => absurd listed (Option.not_mem_none _)⟩
  · intro done convId
    rw [Client.convCache_mapConvCache, ConversationCache.get_remove]
    by_cases same : key = convId
    · subst same
      constructor
      · intro aboutOther
        refine absurd ?_ (disjoint key aboutOther about).2.1
        rw [call]
        trivial
      · rw [Side.other_other, call]
        exact CallPoint.listShown_delete key _ (race.points mover.other)
    · rw [if_neg same]
      exact keeps.cached mover.other done convId

/-- The count of the cached record is cleared. -/
theorem Keeps.clearUnread {key : String} (call : calls mover = .markAllRead key) :
    (race.moved mover (.posting (.clearUnread key))
      (race.client.mapConvCache (·.clearUnread key))).Keeps calls start := by
  have about : (calls mover).convId = some key := by
    rw [call]
    rfl
  refine keeps.moved ⟨rfl, Nat.le_refl _⟩ (fun _ single => single.clearUnread key) call ?_
    (fun _ => ⟨fun ended => ended.elim, trivial⟩) ?_ (keeps.stored mover.other)
  · intro _ convId
    refine ⟨fun own => ?_, trivial⟩
    obtain rfl := Option.some.inj (about.symm.trans own)
    rw [Client.convCache_mapConvCache, ConversationCache.get_clearUnread, if_pos rfl, call]
    refine ⟨fun creates => creates.elim, fun conv listed => ?_⟩
    rcases Option.map_eq_some_iff.mp listed with ⟨_, _, rfl⟩
    rfl
  · intro done convId
    rw [Client.convCache_mapConvCache, ConversationCache.get_clearUnread]
    by_cases same : key = convId
    · subst same
      rw [if_pos rfl]
      exact (keeps.cached mover.other done key).of_untouched disjoint about
        (.map (untouched_unreadCount (by rw [call]; rfl)) _)
    · rw [if_neg same]
      exact keeps.cached mover.other done convId

/-- A handler comes to the cache with its copy. -/
theorem Keeps.write {copy : Option Conversation} (atPoint : race.points mover = .found copy)
    (safe : race.Safe calls start mover) :
    (race.moved mover ((calls mover).write copy race.client).1
      ((calls mover).write copy race.client).2).Keeps calls start := by
  simp only [Safe, atPoint] at safe
  by_cases deletes : (calls mover).Deletes
  · cases call : calls mover with
    | delete key => exact keeps.remove disjoint call
    | _ =>
        rw [call] at deletes
        exact deletes.elim
  have safe := safe deletes
  cases made : (calls mover).change copy race.client with
  | some record =>
      rcases record with ⟨conv, next⟩
      rw [made, if_pos Option.isSome_some] at safe
      rw [ConversationCall.write_of_change made]
      exact keeps.save disjoint atPoint made safe
  | none =>
      rw [made, if_neg (by simp)] at safe
      rcases ConversationCall.write_of_not_change deletes made with
        written | ⟨convId, seq, call, written⟩
      · rw [written] at safe ⊢
        exact keeps.quiet ⟨rfl, Nat.le_refl _⟩ rfl rfl trivial
          (fun _ convId => ⟨(safe convId).1, trivial⟩)
          fun convId => ⟨fun _ => (safe convId).2 trivial, trivial⟩
      · rw [written] at safe ⊢
        exact keeps.quiet ⟨rfl, Nat.le_refl _⟩ rfl rfl call
          (fun _ convId => ⟨(safe convId).1, trivial⟩) fun _ => ⟨fun ended => ended.elim, trivial⟩

/-- A statement is posted that changes one row in fields of the call. -/
theorem Keeps.edit {stmt : Stmt} {key : String} {change : Conversation → Conversation}
    (atPoint : race.points mover = .posting stmt) (about : (calls mover).convId = some key)
    (creates : ¬(calls mover).Creates)
    (rows : ∀ convId, (race.client.exec stmt).stored convId =
      if convId = key then (race.client.stored convId).map change else race.client.stored convId)
    (held : ∀ conv, (calls mover).HeldBy start (change conv))
    (same : ∀ conv field, ¬(calls mover).Touches field → field.Same conv (change conv)) :
    (race.moved mover .returned (race.client.exec stmt)).Keeps calls start := by
  refine keeps.post atPoint ?_ ?_
  · intro convId own
    obtain rfl := Option.some.inj (about.symm.trans own)
    rw [rows, if_pos rfl]
    refine ⟨fun made => absurd made creates, fun conv listed => ?_⟩
    rcases Option.map_eq_some_iff.mp listed with ⟨old, _, rfl⟩
    exact held old
  · intro convId
    rw [rows]
    by_cases named : convId = key
    · subst named
      rw [if_pos rfl]
      exact (keeps.stored mover.other convId).of_untouched disjoint about (.map same _)
    · rw [if_neg named]
      exact keeps.stored mover.other convId

/-- The deletion of a row is posted. -/
theorem Keeps.erase {key : String}
    (atPoint : race.points mover = .posting (.deleteConversation key))
    (call : calls mover = .delete key)
    (unprotected : race.client.table.hasMessageOf key = true → race.client.stored key = none) :
    (race.moved mover .returned (race.client.exec (.deleteConversation key))).Keeps
      calls start := by
  have about : (calls mover).convId = some key := by
    rw [call]
    rfl
  refine keeps.post atPoint ?_ ?_
  · intro convId own
    obtain rfl := Option.some.inj (about.symm.trans own)
    have gone : (race.client.exec (.deleteConversation key)).stored key = none := by
      rw [Client.stored_exec_deleteConversation]
      cases protects : race.client.table.hasMessageOf key with
      | false => exact if_pos ⟨rfl, rfl⟩
      | true => exact (if_neg fun both => Bool.noConfusion both.1).trans (unprotected protects)
    rw [gone, call]
    exact ⟨fun creates => creates.elim, fun _ listed => absurd listed (Option.not_mem_none _)⟩
  · intro convId
    rw [Client.stored_exec_deleteConversation]
    split
    · next erased =>
        rcases erased with ⟨_, rfl⟩
        constructor
        · intro _ aboutOther
          refine absurd ?_ (disjoint convId aboutOther about).2.1
          rw [call]
          trivial
        · rw [Side.other_other, call]
          exact CallPoint.rowsShown_delete _ convId _ (race.points mover.other)
    · exact keeps.stored mover.other convId

/-- A call posts its statement. -/
theorem Keeps.posting {stmt : Stmt} (atPoint : race.points mover = .posting stmt)
    (safe : race.Safe calls start mover) :
    (race.moved mover .returned (race.client.exec stmt)).Keeps calls start := by
  have posts := keeps.fits mover
  rw [atPoint] at posts
  simp only [Safe, atPoint] at safe
  cases stmt with
  | upsertConversation key row => exact keeps.put atPoint posts.1 posts.2 safe
  | clearUnread key =>
      have call : calls mover = .markAllRead key := posts
      refine keeps.edit disjoint atPoint (by rw [call]; rfl) (by rw [call]; exact id)
        (race.client.stored_exec_clearUnread key) ?_ (untouched_unreadCount (by rw [call]; rfl))
      intro conv
      rw [call]
      rfl
  | raiseLocalSeq key seq =>
      have call : calls mover = .sequence key seq := posts
      refine keeps.edit disjoint atPoint (by rw [call]; rfl) (by rw [call]; exact id)
        (fun convId => race.client.stored_exec_raiseLocalSeq key convId seq) ?_ ?_
      · intro conv
        rw [call]
        exact le_max_right _ _
      · intro conv field unset
        rw [call] at unset
        cases field with
        | localSeq => exact absurd rfl unset
        | pin => exact ⟨rfl, rfl⟩
        | rest => exact ⟨rfl, rfl, rfl, rfl, rfl⟩
        | muted | burnAfterReading | autoDelete | unreadCount => rfl
  | deleteConversation key => exact keeps.erase disjoint atPoint posts safe
  | _ => exact posts.elim

end Writes

/-- A row of a list is posted. -/
theorem Keeps.append {conv : Conversation} {payloads : List ConversationPayload}
    {convs : List Conversation} (keeps : race.Keeps calls start)
    (atPoint : race.points mover = .storing payloads convs) (ticked : race.client.Ticked next)
    (fresh : conv.convId ∉ convs.map Conversation.convId)
    (shown : race.RowShows calls start mover.other conv.convId (some conv.readBack))
    (rest : List ConversationPayload) :
    (race.moved mover (.storing rest (convs ++ [conv])) (next.upsertDb conv)).Keeps
      calls start := by
  have answered := keeps.fits mover
  have listed (convId : String) := (keeps.stored mover convId).2
  simp only [atPoint, CallPoint.RowsShown] at answered listed
  have cache : (next.upsertDb conv).convCache = race.client.convCache := ticked.convCache
  have rows (convId : String) : (next.upsertDb conv).stored convId =
      if convId = conv.convId then some conv.readBack else race.client.stored convId := by
    have same : next.stored convId = race.client.stored convId := by
      rw [Client.stored, Client.stored, ticked.table]
    rw [Client.upsertDb, Client.stored_exec_upsertConversation, same]
    split
    · next named => rw [named, Conversation.readBack]
    · rfl
  refine keeps.moved ⟨ticked.since.platform, ticked.since.clockReads⟩ ?_ answered
    (fun done => done.elim) (fun convId => ⟨fun ended => ended.elim, ?_⟩) ?_ ?_
  · intro convId once
    rwa [cache]
  · rw [rows]
    refine ConversationCall.Leaves.concat (fun different => ?_) fresh fun named => if_pos named
    rw [if_neg different]
    exact listed convId
  · rw [cache]
    exact keeps.cached mover.other
  · intro convId
    rw [rows]
    split
    · next named => exact named ▸ shown
    · exact keeps.stored mover.other convId

/-- The next record of a list: without an id it is skipped. -/
theorem Keeps.store {payload : ConversationPayload} {payloads : List ConversationPayload}
    {convs : List Conversation} (keeps : race.Keeps calls start)
    (atPoint : race.points mover = .storing (payload :: payloads) convs)
    (safe : race.Safe calls start mover) :
    (race.moved mover ((calls mover).step race.client (.storing (payload :: payloads) convs)).1
      ((calls mover).step race.client (.storing (payload :: payloads) convs)).2).Keeps
        calls start := by
  simp only [Safe, atPoint] at safe
  rw [ConversationCall.step]
  by_cases unnamed : (parseConversationPayload payload).convId = ""
  · have answered := keeps.fits mover
    have listed (convId : String) := (keeps.stored mover convId).2
    simp only [atPoint, CallPoint.RowsShown] at answered listed
    simp only [if_pos unnamed]
    exact keeps.quiet ⟨rfl, Nat.le_refl _⟩ rfl rfl answered (fun done => done.elim)
      fun convId => ⟨fun ended => ended.elim, listed convId⟩
  · have named : (race.client.stampUpdated (parseConversationPayload payload)).1.convId ≠ "" := by
      rcases Client.stampUpdated_fst (parseConversationPayload payload) race.client with
        ⟨updatedAt, stamp⟩
      rw [stamp]
      exact unnamed
    rcases safe named with ⟨fresh, shown⟩
    simp only [if_neg unnamed]
    exact keeps.append atPoint (Client.ticked_stampUpdated _ _) fresh shown payloads

/-- The records that were read or that came fill the cache. -/
theorem Keeps.load {convs : List Conversation} (keeps : race.Keeps calls start)
    (lists : (calls mover).Lists) (atPoint : race.points mover = .loading convs)
    (safe : race.Safe calls start mover) :
    (race.moved mover (.loaded convs)
      (race.client.mapConvCache fun _ => .setAll convs)).Keeps calls start := by
  simp only [Safe, atPoint] at safe
  rcases safe with ⟨distinct, shown⟩
  have listed (convId : String) := (keeps.stored mover convId).2
  simp only [atPoint, CallPoint.RowsShown] at listed
  have single := ConversationCache.single_setAll distinct
  refine keeps.moved ⟨rfl, Nat.le_refl _⟩ (fun convId _ => single convId) single ?_
    (fun convId => ⟨fun _ => lists.shows convId _, listed convId⟩) shown
    (keeps.stored mover.other)
  intro _ convId
  refine ⟨lists.shows convId _, fun _ conv member same =>
    ⟨conv, ?_, fun field _ => .refl conv field⟩⟩
  rw [Client.convCache_mapConvCache]
  exact (ConversationCache.get_eq_some_iff_of_nodup
    (ConversationCache.nodup_ids_setAll distinct)).mpr
      ⟨ConversationCache.mem_setAll.mpr member, same⟩

/-- The list is at most looked up. -/
theorem Keeps.lookUp (keeps : race.Keeps calls start) (call : calls mover = .list)
    (since : Client.Since race.client next) (convCache : next.convCache = race.client.convCache)
    (table : next.table = race.client.table)
    (looked : point = .querying ∨ (∃ convs, point = .loading convs) ∨ point = .returned) :
    (race.moved mover point next).Keeps calls start := by
  have lists : (calls mover).Lists := by
    rw [call]
    trivial
  rcases looked with rfl | ⟨convs, rfl⟩ | rfl
  · exact keeps.quiet since convCache table call (fun done => done.elim)
      fun _ => ⟨fun ended => ended.elim, trivial⟩
  · exact keeps.quiet since convCache table lists (fun done => done.elim)
      fun _ => ⟨fun ended => ended.elim, fun answered => absurd call answered⟩
  · exact keeps.quiet since convCache table trivial
      (fun _ convId => ⟨lists.shows convId _, trivial⟩)
      fun convId => ⟨fun _ => lists.shows convId _, trivial⟩

/-- A handler takes its copy. -/
theorem Keeps.copy {key : String} (keeps : race.Keeps calls start)
    (about : (calls mover).convId = some key) :
    (race.moved mover (.found (race.client.convCache.get key)) race.client).Keeps calls start := by
  refine keeps.quiet ⟨rfl, Nat.le_refl _⟩ rfl rfl (fun conv listed => ?_) (fun done => done.elim)
    fun _ => ⟨fun ended => ended.elim, trivial⟩
  rw [about, ConversationCache.get_convId listed]

/-- The first step of a call. -/
theorem Keeps.called (disjoint : (calls mover.other).Disjoint (calls mover))
    (keeps : race.Keeps calls start) :
    (race.moved mover ((calls mover).step race.client .called).1
      ((calls mover).step race.client .called).2).Keeps calls start := by
  cases call : calls mover with
  | markAllRead key => exact keeps.clearUnread disjoint call
  | set key | unreadCount key | sequence key | delete key =>
      have about : (calls mover).convId = some key := by rw [call]; rfl
      exact keeps.copy about
  | patch notificationType payload =>
      have about : (calls mover).convId = some (notificationConversationId payload) := by
        rw [call]
        rfl
      exact keeps.copy about
  | list =>
      refine keeps.lookUp call ⟨rfl, Nat.le_refl _⟩ rfl rfl ?_
      rw [ConversationCall.step]
      dsimp only
      split
      · exact .inr (.inr rfl)
      · exact .inl rfl
  | listResponse payloads =>
      exact keeps.quiet ⟨rfl, Nat.le_refl _⟩ rfl rfl ⟨payloads, call⟩ (fun done => done.elim)
        fun _ => ⟨fun ended => ended.elim, fun _ _ member => absurd member List.not_mem_nil⟩

theorem moved_self : race.moved mover (race.points mover) race.client = race := by
  rw [moved, Function.update_eq_self]

/-- One step of a schedule. -/
theorem Keeps.step (disjoint : (calls .first).Disjoint (calls .second))
    (keeps : race.Keeps calls start) (safe : race.Safe calls start mover) :
    (race.step calls mover).Keeps calls start := by
  have apart := disjoint_other disjoint mover
  change (race.moved mover ((calls mover).step race.client (race.points mover)).1
    ((calls mover).step race.client (race.points mover)).2).Keeps calls start
  cases point : race.points mover with
  | called => exact keeps.called apart
  | found copy => exact keeps.write apart point safe
  | posting stmt => exact keeps.posting apart point safe
  | querying =>
      have call : calls mover = .list := by simpa [point, CallPoint.Fits] using keeps.fits mover
      refine keeps.lookUp call ⟨rfl, Nat.le_refl _⟩ rfl rfl ?_
      rw [ConversationCall.step]
      dsimp only
      split
      · exact .inr (.inl ⟨_, rfl⟩)
      · exact .inr (.inr rfl)
  | storing payloads convs =>
      cases payloads with
      | nil =>
          have answered := keeps.fits mover
          have listed (convId : String) := (keeps.stored mover convId).2
          simp only [point, CallPoint.RowsShown] at listed
          rw [point] at answered
          rcases answered with ⟨payloads, call⟩
          refine keeps.quiet ⟨rfl, Nat.le_refl _⟩ rfl rfl ?_ (fun done => done.elim)
            fun convId => ⟨fun ended => ended.elim, fun _ => listed convId⟩
          change (calls mover).Lists
          rw [call]
          trivial
      | cons payload payloads => exact keeps.store point safe
  | loading convs =>
      have lists : (calls mover).Lists := by
        simpa [point, CallPoint.Fits] using keeps.fits mover
      exact keeps.load lists point safe
  | loaded convs | returned =>
      -- A call that has ended stands still.
      rw [ConversationCall.step, ← point, moved_self]
      exact keeps

/-- At the outset nothing is done. -/
theorem Keeps.outset {client : Client} (single : ∀ side convId, (calls side).convId = some convId →
      client.convCache.ids.count convId ≤ 1) :
    Keeps calls client { client := client } where
  since := ⟨rfl, Nat.le_refl _⟩
  single side convId about := ConversationCache.single_iff_count.mpr (single side convId about)
  fits _ := trivial
  cached _ done := done.elim
  stored _ _ := ⟨fun ended => ended.elim, trivial⟩

/-- A response for a mute, and a notification of unread messages. -/
def muteAndUnread : Side → ConversationCall
  | .first => .set "c1" (.muted true)
  | .second =>
      .patch "conversation.unread_updated" { conversationId := some "c1", unreadCount := some 3 }

/-- A process that has synced one conversation. -/
def synced : Client :=
  EventRun.exec Event.apply (.start default {} 0)
    [syncOf { conversationId := "c1", targetId := "u1" }]

theorem disjoint_muteAndUnread :
    (muteAndUnread .first).Disjoint (muteAndUnread .second) := by
  refine fun convId _ _ => ⟨id, id, fun field both => ?_⟩
  obtain rfl : field = .muted := both.1
  exact both.2 rfl

/-- A response for a pin, and a notification of a mute. -/
def pinAndMute : Side → ConversationCall
  | .first => .set "c1" (.pinned true)
  | .second =>
      .patch "conversation.mute_updated" { conversationId := some "c1", isMuted := some true }

end ConversationRace

end AnychatSdk
