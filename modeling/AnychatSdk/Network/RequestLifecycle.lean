import AnychatSdk.Network.HttpClient

/-!
# Every request is answered once

A request that `enqueue` has built is at one place at a time: with the thread that
enqueues it, in the queue, in libcurl, among the messages of libcurl, or answered.
Its history is that of one exchange: it is issued, receives bytes, finishes, and
its own callback gets these bytes and this result.
-/

namespace AnychatSdk

/-- What has become of a request. -/
inductive RequestLife (κ : Type) where
  | unissued
  | waiting (ctx : RequestCtx κ)
  | transferred (ctx : RequestCtx κ) (result : TransferResult)
  | answered

namespace HttpClient

variable {κ : Type}

def Output.serial : Output κ → Nat
  | issued ctx => ctx.serial
  | received serial _ | finished serial _ | answered serial _ _ => serial

def Output.issued? : Output κ → Option Nat
  | issued ctx => some ctx.serial
  | received .. | finished .. | answered .. => none

def Output.finished? : Output κ → Option Nat
  | finished serial _ => some serial
  | issued .. | received .. | answered .. => none

def Output.answered? : Output κ → Option Nat
  | answered serial _ _ => some serial
  | issued .. | received .. | finished .. => none

/-- The requests that are not finished. -/
def waiting (client : HttpClient κ) : List (RequestCtx κ) :=
  client.building ++ client.pending ++ client.multi

/-- The requests that are not answered. -/
def serials (client : HttpClient κ) : List Nat :=
  client.waiting.map (·.serial) ++ client.done.map (·.1.serial)

/-- Where a request is. -/
def Located (client : HttpClient κ) (serial : Nat) : RequestLife κ → Prop
  | .unissued => client.issued ≤ serial
  | .waiting ctx => ctx ∈ client.waiting ∧ ctx.serial = serial
  | .transferred ctx result => (ctx, result) ∈ client.done ∧ ctx.serial = serial
  | .answered => serial < client.issued ∧ serial ∉ client.serials

end HttpClient

namespace RequestLife

variable {κ : Type}

open HttpClient

/-- The life of one request. -/
inductive Step : RequestLife κ → Output κ → RequestLife κ → Prop
  | issue (ctx : RequestCtx κ) (blank : ctx.responseBody = []) :
      Step unissued (.issued ctx) (waiting ctx)
  | receive (ctx : RequestCtx κ) (bytes : List UInt8) :
      Step (waiting ctx) (.received ctx.serial bytes)
        (waiting { ctx with responseBody := ctx.responseBody ++ bytes })
  | finish (ctx : RequestCtx κ) (result : TransferResult) :
      Step (waiting ctx) (.finished ctx.serial result) (transferred ctx result)
  | answer (ctx : RequestCtx κ) (result : TransferResult) :
      Step (transferred ctx result)
        (.answered ctx.serial ctx.callback (result.response ctx.responseBody)) answered

/-- What was seen of a request, by what has become of it.  An answered one was
issued, received some bytes, finished, and its callback got these bytes. -/
def History : RequestLife κ → List (Output κ) → Prop
  | unissued, history => history = []
  | waiting ctx, history =>
      ∃ chunks : List (List UInt8), ctx.responseBody = chunks.flatten ∧
        history =
          .issued { ctx with responseBody := [] } :: chunks.map (.received ctx.serial)
  | transferred ctx result, history =>
      ∃ chunks : List (List UInt8), ctx.responseBody = chunks.flatten ∧
        history =
          .issued { ctx with responseBody := [] } :: chunks.map (.received ctx.serial) ++
            [.finished ctx.serial result]
  | answered, history =>
      ∃ (ctx : RequestCtx κ) (chunks : List (List UInt8)) (result : TransferResult),
        ctx.responseBody = [] ∧
        history =
          .issued ctx :: chunks.map (.received ctx.serial) ++
            [.finished ctx.serial result,
              .answered ctx.serial ctx.callback (result.response chunks.flatten)]

theorem history_of_run {life : RequestLife κ} {history : List (Output κ)}
    (run : LabelledRun Step unissued history life) : life.History history := by
  induction run with
  | nil => rfl
  | snoc _ last ih =>
      cases last with
      | issue ctx blank =>
          obtain rfl := ih
          refine ⟨[], blank, ?_⟩
          rw [← blank]
          rfl
      | receive ctx bytes =>
          rcases ih with ⟨chunks, received, rfl⟩
          refine ⟨chunks ++ [bytes], ?_, ?_⟩
          · rw [List.flatten_append, ← received, List.flatten_singleton]
          · rw [List.map_append]
            rfl
      | finish ctx result =>
          rcases ih with ⟨chunks, received, rfl⟩
          exact ⟨chunks, received, rfl⟩
      | answer ctx result =>
          rcases ih with ⟨chunks, received, rfl⟩
          refine ⟨{ ctx with responseBody := [] }, chunks, result, rfl, ?_⟩
          rw [List.append_assoc, received]
          rfl

end RequestLife

namespace HttpClient

variable {κ : Type}

/-! ## What a step does -/

/-- The moves of a client and what is seen of them. -/
inductive Move (client : HttpClient κ) : HttpClient κ → List (Output κ) → Prop
  | quiet (next : HttpClient κ) (waiting : next.waiting.Perm client.waiting)
      (done : next.done = client.done) (issued : next.issued = client.issued) :
      Move client next []
  | issue (next : HttpClient κ) (ctx : RequestCtx κ) (fresh : ctx.serial = client.issued)
      (blank : ctx.responseBody = []) (waiting : next.waiting.Perm (ctx :: client.waiting))
      (done : next.done = client.done) (issued : next.issued = client.issued + 1) :
      Move client next [.issued ctx]
  | receive (ctx : RequestCtx κ) (bytes : List UInt8) (member : ctx ∈ client.multi) :
      Move client { client with multi := client.multi.map (writeCb ctx.serial bytes) }
        [.received ctx.serial bytes]
  | finish (next : HttpClient κ) (ctx : RequestCtx κ) (result : TransferResult)
      (waiting : client.waiting.Perm (ctx :: next.waiting))
      (done : next.done = client.done ++ [(ctx, result)]) (issued : next.issued = client.issued) :
      Move client next [.finished ctx.serial result]
  | answer (next : HttpClient κ) (ctx : RequestCtx κ) (result : TransferResult)
      (waiting : next.waiting = client.waiting) (done : client.done = (ctx, result) :: next.done)
      (issued : next.issued = client.issued) :
      Move client next [.answered ctx.serial ctx.callback (result.response ctx.responseBody)]

theorem perm_cons_eraseP_of_find? {α : Type} {keep : α → Bool} {items : List α} {item : α}
    (found : items.find? keep = some item) : items.Perm (item :: items.eraseP keep) := by
  rcases List.find?_eq_some_iff_append.mp found with ⟨kept, first, later, rfl, others⟩
  rw [List.eraseP_append_right _ fun other member => by simpa using others other member,
    List.eraseP_cons_of_pos kept]
  exact List.perm_middle

section Loop

variable {client : HttpClient κ}

theorem loop_top (at' : client.point = .top) :
    client.loop =
      ({ client with point := if client.running then .taking else .returned }, []) := by
  rw [loop, at']

theorem loop_taking (at' : client.point = .taking) :
    client.loop =
      ({ client with
        multi := client.multi ++ client.pending
        pending := []
        point := .performing }, []) := by
  rw [loop, at']

theorem loop_performing (at' : client.point = .performing) :
    client.loop = ({ client with point := .harvesting }, []) := by
  rw [loop, at']

theorem loop_harvesting_nil (at' : client.point = .harvesting) (none : client.done = []) :
    client.loop = ({ client with point := .top }, []) := by
  rw [loop, at', none]

theorem loop_harvesting_cons (at' : client.point = .harvesting)
    {entry : RequestCtx κ × TransferResult} {done : List (RequestCtx κ × TransferResult)}
    (held : client.done = entry :: done) :
    client.loop =
      ({ client with done := done },
        [.answered entry.1.serial entry.1.callback (entry.2.response entry.1.responseBody)]) := by
  rw [loop, at', held]

theorem loop_returned (at' : client.point = .returned) : client.loop = (client, []) := by
  rw [loop, at']

end Loop

theorem move_loop (client : HttpClient κ) : client.Move client.loop.1 client.loop.2 := by
  cases at' : client.point with
  | top =>
      rw [loop_top at']
      exact .quiet _ (.refl _) rfl rfl
  | taking =>
      rw [loop_taking at']
      refine .quiet _ ?_ rfl rfl
      have rotated : (client.multi ++ client.pending).Perm (client.pending ++ client.multi) :=
        List.perm_append_comm
      change (client.building ++ [] ++ (client.multi ++ client.pending)).Perm client.waiting
      rw [waiting, List.append_nil, List.append_assoc client.building]
      exact rotated.append_left client.building
  | performing =>
      rw [loop_performing at']
      exact .quiet _ (.refl _) rfl rfl
  | harvesting =>
      cases held : client.done with
      | nil =>
          rw [loop_harvesting_nil at' held]
          exact .quiet _ (.refl _) rfl rfl
      | cons entry done =>
          rw [loop_harvesting_cons at' held]
          exact .answer _ entry.1 entry.2 rfl held rfl
  | returned =>
      rw [loop_returned at']
      exact .quiet _ (.refl _) rfl rfl

theorem move_react (client : HttpClient κ) (event : Event κ) :
    client.Move (client.react event).1 (client.react event).2 := by
  cases event with
  | setAuthToken token => exact .quiet _ (.refl _) rfl rfl
  | clearAuthToken => exact .quiet _ (.refl _) rfl rfl
  | enqueue request callback =>
      refine .issue _ (client.context request callback) rfl rfl ?_ rfl rfl
      have appended : (client.building ++ [client.context request callback]).Perm
          (client.context request callback :: client.building) := List.perm_append_singleton _ _
      exact (appended.append_right client.pending).append_right client.multi
  | push serial =>
      simp only [react]
      split
      · exact .quiet _ (.refl _) rfl rfl
      · next ctx found =>
          refine .quiet _ ?_ rfl rfl
          have taken := (perm_cons_eraseP_of_find? found).append_right
            (client.pending ++ client.multi)
          have middle : (client.pending ++ ctx :: client.multi).Perm
              (ctx :: (client.pending ++ client.multi)) := List.perm_middle
          have pushed := middle.append_left (client.building.eraseP (·.serial = serial))
          simpa [waiting] using (pushed.trans List.perm_middle).trans taken.symm
  | advance => exact client.move_loop
  | receive serial bytes =>
      simp only [react]
      split
      · next inside =>
          rcases List.any_eq_true.mp inside.2 with ⟨ctx, member, serial_eq⟩
          obtain rfl := of_decide_eq_true serial_eq
          exact .receive ctx bytes member
      · exact .quiet _ (.refl _) rfl rfl
  | finish serial result =>
      simp only [react]
      split
      · exact .quiet _ (.refl _) rfl rfl
      · next ctx found =>
          split
          · obtain rfl : ctx.serial = serial := by simpa using List.find?_some found
            refine .finish _ ctx result ?_ rfl rfl
            have taken := (perm_cons_eraseP_of_find? found).append_left
              (client.building ++ client.pending)
            exact taken.trans List.perm_middle
          · exact .quiet _ (.refl _) rfl rfl
  | stop => exact .quiet _ (.refl _) rfl rfl
  | cleanup => exact .quiet _ (.refl _) rfl rfl

theorem move_step (client : HttpClient κ) (event : Event κ) :
    client.Move (client.step event) (client.emit event) := by
  rw [step, emit, handle]
  split
  · exact .quiet _ (.refl _) rfl rfl
  · exact client.move_react event

section Emit

variable {client : HttpClient κ} {event : Event κ}

/-- Only `enqueue` issues a request. -/
theorem unissued_of_emit (given : ∀ request callback, event ≠ .enqueue request callback)
    (ctx : RequestCtx κ) : .issued ctx ∉ client.emit event := by
  have loops : .issued ctx ∉ client.loop.2 := by
    rw [loop]
    split <;> try exact List.not_mem_nil
    split
    · exact List.not_mem_nil
    · exact fun member => nomatch List.mem_singleton.mp member
  rw [emit, handle]
  split
  · exact List.not_mem_nil
  · cases event with
    | enqueue request callback => exact absurd rfl (given request callback)
    | advance => exact loops
    | push serial =>
        rw [react]
        split <;> exact List.not_mem_nil
    | receive serial bytes =>
        rw [react]
        split
        · exact fun member => nomatch List.mem_singleton.mp member
        · exact List.not_mem_nil
    | finish serial result =>
        rw [react]
        split
        · exact List.not_mem_nil
        · split
          · exact fun member => nomatch List.mem_singleton.mp member
          · exact List.not_mem_nil
    | setAuthToken token => exact List.not_mem_nil
    | clearAuthToken => exact List.not_mem_nil
    | stop => exact List.not_mem_nil
    | cleanup => exact List.not_mem_nil

/-- Only the destructor stops the worker and ends the client. -/
theorem flags_react (client : HttpClient κ) (event : Event κ) :
    (event ≠ .stop → (client.react event).1.running = client.running) ∧
      (event ≠ .cleanup → (client.react event).1.destroyed = client.destroyed) := by
  cases event with
  | stop => exact ⟨(absurd rfl ·), fun _ => rfl⟩
  | cleanup => exact ⟨fun _ => rfl, (absurd rfl ·)⟩
  | advance =>
      rw [react, loop]
      split <;> try exact ⟨fun _ => rfl, fun _ => rfl⟩
      split <;> exact ⟨fun _ => rfl, fun _ => rfl⟩
  | push serial =>
      rw [react]
      split <;> exact ⟨fun _ => rfl, fun _ => rfl⟩
  | receive serial bytes =>
      rw [react]
      split <;> exact ⟨fun _ => rfl, fun _ => rfl⟩
  | finish serial result =>
      rw [react]
      split
      · exact ⟨fun _ => rfl, fun _ => rfl⟩
      · split <;> exact ⟨fun _ => rfl, fun _ => rfl⟩
  | setAuthToken token => exact ⟨fun _ => rfl, fun _ => rfl⟩
  | clearAuthToken => exact ⟨fun _ => rfl, fun _ => rfl⟩
  | enqueue request callback => exact ⟨fun _ => rfl, fun _ => rfl⟩

theorem running_step (given : event ≠ .stop) : (client.step event).running = client.running := by
  rw [step, handle]
  split
  · rfl
  · exact (flags_react client event).1 given

/-- A client of which something is seen still exists. -/
theorem alive_of_emit (seen : client.emit event ≠ []) : (client.step event).destroyed = false := by
  rw [emit, handle] at seen
  rw [step, handle]
  split at seen
  · exact absurd rfl seen
  · next alive =>
      have given : event ≠ .cleanup := by
        rintro rfl
        exact seen rfl
      rw [if_neg alive, (flags_react client event).2 given]
      exact Bool.eq_false_iff.mpr alive

end Emit

/-! ## Where the requests are -/

/-- No request is at two places. -/
structure Distinct (client : HttpClient κ) : Prop where
  nodup : client.serials.Nodup
  lt_issued : ∀ serial ∈ client.serials, serial < client.issued

/-- The requests that are not answered. -/
def openCtxs (client : HttpClient κ) : List (RequestCtx κ) :=
  client.waiting ++ client.done.map Prod.fst

section Read

variable {β : Type} (read : Nat → Option κ → Option β)

/-- What `read` finds in a request. -/
def readCtx (ctx : RequestCtx κ) : Option β :=
  read ctx.serial ctx.callback

/-- What `read` finds in a request that is issued. -/
def Output.issuedAs : Output κ → Option β
  | issued ctx => readCtx read ctx
  | received .. | finished .. | answered .. => none

/-- What `read` finds in a request that is answered. -/
def Output.answeredAs : Output κ → Option β
  | answered serial callback _ => read serial callback
  | issued .. | received .. | finished .. => none

theorem filterMap_openCtxs_writeCb (client : HttpClient κ) (serial : Nat) (bytes : List UInt8) :
    ({ client with multi := client.multi.map (writeCb serial bytes) }).openCtxs.filterMap
        (readCtx read) = client.openCtxs.filterMap (readCtx read) := by
  have kept : readCtx read ∘ writeCb serial bytes = readCtx read := by
    funext ctx
    rw [Function.comp_apply, writeCb]
    split <;> rfl
  simp only [openCtxs, waiting, List.filterMap_append, List.filterMap_map, kept]

/-- What was open or is issued is open still or is answered. -/
theorem Move.balanced {client next : HttpClient κ} {outputs : List (Output κ)}
    (move : client.Move next outputs) :
    (outputs.filterMap (Output.answeredAs read) ++ next.openCtxs.filterMap (readCtx read)).Perm
      (client.openCtxs.filterMap (readCtx read) ++ outputs.filterMap (Output.issuedAs read)) := by
  cases move with
  | quiet _ waiting done _ =>
      have moved := (waiting.append_right (client.done.map Prod.fst)).filterMap (readCtx read)
      rw [openCtxs, done]
      exact moved.trans (.of_eq (List.append_nil _).symm)
  | issue _ ctx _ _ waiting done _ =>
      have moved := (waiting.append_right (client.done.map Prod.fst)).trans
        (List.perm_append_singleton ctx client.openCtxs).symm
      rw [openCtxs, done]
      exact (moved.filterMap (readCtx read)).trans (.of_eq List.filterMap_append)
  | receive ctx bytes member =>
      exact .of_eq
        ((filterMap_openCtxs_writeCb read client ctx.serial bytes).trans (List.append_nil _).symm)
  | finish next ctx result waiting done _ =>
      have moved : next.openCtxs.Perm client.openCtxs := by
        rw [openCtxs, openCtxs, done, List.map_append, ← List.append_assoc]
        exact (List.perm_append_singleton ctx _).trans (waiting.symm.append_right _)
      exact (moved.filterMap (readCtx read)).trans (.of_eq (List.append_nil _).symm)
  | answer next ctx result waiting done _ =>
      have moved : (ctx :: next.openCtxs).Perm client.openCtxs := by
        rw [openCtxs, openCtxs, done, waiting]
        exact (List.perm_middle (a := ctx)).symm
      have split : (ctx :: next.openCtxs).filterMap (readCtx read) =
          [ctx].filterMap (readCtx read) ++ next.openCtxs.filterMap (readCtx read) := by
        rw [← List.filterMap_append]
        rfl
      refine .trans (.of_eq split.symm) ?_
      exact (moved.filterMap (readCtx read)).trans (.of_eq (List.append_nil _).symm)

end Read

theorem serials_eq_filterMap (client : HttpClient κ) :
    client.serials = client.openCtxs.filterMap (readCtx fun serial _ => some serial) := by
  have all : (readCtx fun serial _ => some serial : RequestCtx κ → _) = some ∘ (·.serial) := rfl
  rw [all, List.filterMap_eq_map, openCtxs, List.map_append, List.map_map]
  rfl

/-- Every request is open or answered. -/
theorem Move.accounted {client next : HttpClient κ} {outputs : List (Output κ)}
    (move : client.Move next outputs) :
    (outputs.filterMap Output.answered? ++ next.serials).Perm
      (client.serials ++ outputs.filterMap Output.issued?) := by
  have issued : Output.issued? = (Output.issuedAs fun serial _ => some serial : Output κ → _) := by
    funext output
    cases output <;> rfl
  have answered :
      Output.answered? = (Output.answeredAs fun serial _ => some serial : Output κ → _) := by
    funext output
    cases output <;> rfl
  rw [issued, answered, serials_eq_filterMap, serials_eq_filterMap]
  exact move.balanced fun serial _ => some serial

/-- The serial numbers are given out in turn. -/
theorem Move.range_issued {client next : HttpClient κ} {outputs : List (Output κ)}
    (move : client.Move next outputs) :
    List.range next.issued = List.range client.issued ++ outputs.filterMap Output.issued? := by
  cases move with
  | quiet _ _ _ issued => rw [issued]; exact (List.append_nil _).symm
  | issue _ ctx fresh _ _ _ issued =>
      rw [issued, List.range_succ, ← fresh]
      rfl
  | receive => exact (List.append_nil _).symm
  | finish _ _ _ _ _ issued => rw [issued]; exact (List.append_nil _).symm
  | answer _ _ _ _ _ issued => rw [issued]; exact (List.append_nil _).symm

/-- What libcurl reports goes out in the order in which it came in. -/
theorem Move.ordered {client next : HttpClient κ} {outputs : List (Output κ)}
    (move : client.Move next outputs) :
    outputs.filterMap Output.answered? ++ next.done.map (·.1.serial) =
      client.done.map (·.1.serial) ++ outputs.filterMap Output.finished? := by
  cases move with
  | quiet _ _ done _ => exact done ▸ (List.append_nil _).symm
  | issue _ _ _ _ _ done _ => exact done ▸ (List.append_nil _).symm
  | receive => exact (List.append_nil _).symm
  | finish _ _ _ _ done _ =>
      rw [done, List.map_append]
      rfl
  | answer _ _ _ _ done _ =>
      rw [done, List.map_cons]
      exact (List.append_nil _).symm

theorem Distinct.move {client next : HttpClient κ} {outputs : List (Output κ)}
    (distinct : client.Distinct) (move : client.Move next outputs) : next.Distinct := by
  have accounted := move.accounted
  have range := move.range_issued
  have nodup : (List.range client.issued ++ outputs.filterMap Output.issued?).Nodup :=
    range ▸ List.nodup_range
  have within : client.serials ⊆ List.range client.issued :=
    fun serial member => List.mem_range.mpr (distinct.lt_issued serial member)
  rcases List.nodup_append'.mp nodup with ⟨_, fresh, apart⟩
  have before : (client.serials ++ outputs.filterMap Output.issued?).Nodup :=
    List.nodup_append'.mpr ⟨distinct.nodup, fresh, List.disjoint_of_subset_left within apart⟩
  constructor
  · exact (List.nodup_append'.mp (accounted.nodup_iff.mpr before)).2.1
  · intro serial member
    rw [← List.mem_range, range]
    have known := accounted.mem_iff.mp (List.mem_append_right _ member)
    exact List.mem_append.mpr ((List.mem_append.mp known).imp_left (within ·))

theorem serial_mem_of_waiting {client : HttpClient κ} {ctx : RequestCtx κ}
    (member : ctx ∈ client.waiting) : ctx.serial ∈ client.serials :=
  List.mem_append_left _ (List.mem_map_of_mem member)

theorem serial_mem_of_done {client : HttpClient κ} {ctx : RequestCtx κ} {result : TransferResult}
    (member : (ctx, result) ∈ client.done) : ctx.serial ∈ client.serials :=
  List.mem_append_right _ (List.mem_map.mpr ⟨(ctx, result), member, rfl⟩)

section Distinct

variable {client : HttpClient κ} {ctx : RequestCtx κ} {result : TransferResult}
  {life : RequestLife κ}

theorem Distinct.eq_unissued (distinct : client.Distinct)
    (located : client.Located client.issued life) : life = .unissued := by
  cases life with
  | unissued => rfl
  | waiting ctx =>
      have lt := distinct.lt_issued ctx.serial (serial_mem_of_waiting located.1)
      exact absurd located.2 (Nat.ne_of_lt lt)
  | transferred ctx result =>
      have lt := distinct.lt_issued ctx.serial (serial_mem_of_done located.1)
      exact absurd located.2 (Nat.ne_of_lt lt)
  | answered => exact absurd located.1 (Nat.lt_irrefl _)

theorem Distinct.eq_waiting (distinct : client.Distinct) (member : ctx ∈ client.waiting)
    (located : client.Located ctx.serial life) : life = .waiting ctx := by
  rcases List.nodup_append'.mp distinct.nodup with ⟨waiting, _, apart⟩
  have known := serial_mem_of_waiting member
  cases life with
  | unissued => exact absurd located (Nat.not_le.mpr (distinct.lt_issued _ known))
  | waiting other =>
      rw [List.inj_on_of_nodup_map waiting located.1 member located.2]
  | transferred other result =>
      have there : ctx.serial ∈ client.done.map (·.1.serial) :=
        List.mem_map.mpr ⟨(other, result), located.1, located.2⟩
      exact (apart (List.mem_map_of_mem member) there).elim
  | answered => exact absurd known located.2

theorem Distinct.eq_transferred (distinct : client.Distinct) (member : (ctx, result) ∈ client.done)
    (located : client.Located ctx.serial life) : life = .transferred ctx result := by
  rcases List.nodup_append'.mp distinct.nodup with ⟨_, done, apart⟩
  have known := serial_mem_of_done member
  cases life with
  | unissued => exact absurd located (Nat.not_le.mpr (distinct.lt_issued _ known))
  | waiting other =>
      have there : ctx.serial ∈ client.done.map (·.1.serial) :=
        List.mem_map.mpr ⟨(ctx, result), member, rfl⟩
      have here : ctx.serial ∈ client.waiting.map (·.serial) :=
        List.mem_map.mpr ⟨other, located.1, located.2⟩
      exact (apart here there).elim
  | transferred other given =>
      obtain ⟨rfl, rfl⟩ := Prod.mk.inj
        (List.inj_on_of_nodup_map done located.1 member located.2)
      rfl
  | answered => exact absurd known located.2

end Distinct

section Move

variable {client next : HttpClient κ} {outputs : List (Output κ)} {serial : Nat}
  {life : RequestLife κ}

/-- A request of which nothing is seen stays open or not. -/
theorem Move.same_serials (move : client.Move next outputs)
    (apart : ∀ output ∈ outputs, output.serial ≠ serial) :
    (serial ∈ next.serials ↔ serial ∈ client.serials) ∧
      (serial < next.issued ↔ serial < client.issued) := by
  have accounted := move.accounted
  have range := move.range_issued
  have unanswered : serial ∉ outputs.filterMap Output.answered? := by
    intro member
    rcases List.mem_filterMap.mp member with ⟨output, here, answered⟩
    cases output with
    | answered other callback response => exact apart _ here (Option.some.inj answered)
    | issued ctx => exact nomatch answered
    | received other bytes => exact nomatch answered
    | finished other result => exact nomatch answered
  have unissued : serial ∉ outputs.filterMap Output.issued? := by
    intro member
    rcases List.mem_filterMap.mp member with ⟨output, here, issued⟩
    cases output with
    | issued ctx => exact apart _ here (Option.some.inj issued)
    | answered other callback response => exact nomatch issued
    | received other bytes => exact nomatch issued
    | finished other result => exact nomatch issued
  constructor
  · simpa [unanswered, unissued] using accounted.mem_iff (a := serial)
  · have member := congrArg (serial ∈ ·) range
    simpa [unissued] using member

/-- A request of which nothing is seen stays where it is. -/
theorem Move.located_of_apart (move : client.Move next outputs)
    (apart : ∀ output ∈ outputs, output.serial ≠ serial) (located : client.Located serial life) :
    next.Located serial life := by
  rcases move.same_serials apart with ⟨serials, issued⟩
  cases life with
  | unissued => exact Nat.not_lt.mp (mt issued.mp (Nat.not_lt.mpr located))
  | answered => exact ⟨issued.mpr located.1, mt serials.mp located.2⟩
  | waiting ctx =>
      refine ⟨?_, located.2⟩
      cases move with
      | quiet _ waiting _ _ => exact waiting.mem_iff.mpr located.1
      | issue _ _ _ _ waiting _ _ => exact waiting.mem_iff.mpr (List.mem_cons_of_mem _ located.1)
      | receive other bytes member =>
          have different : ctx.serial ≠ other.serial :=
            fun same => apart _ List.mem_cons_self (same.symm.trans located.2)
          have kept : writeCb other.serial bytes ctx = ctx := if_neg different
          refine (List.mem_append.mp located.1).elim (List.mem_append_left _) fun inside => ?_
          exact List.mem_append_right _ (List.mem_map.mpr ⟨ctx, inside, kept⟩)
      | finish _ other result waiting _ _ =>
          rcases List.mem_cons.mp (waiting.mem_iff.mp located.1) with rfl | kept
          · exact absurd located.2 (apart _ List.mem_cons_self)
          · exact kept
      | answer _ _ _ waiting _ _ => exact waiting ▸ located.1
  | transferred ctx result =>
      refine ⟨?_, located.2⟩
      cases move with
      | quiet _ _ done _ => exact done ▸ located.1
      | issue _ _ _ _ _ done _ => exact done ▸ located.1
      | receive other bytes member => exact located.1
      | finish _ other result _ done _ => exact done ▸ List.mem_append_left _ located.1
      | answer _ other given _ done _ =>
          have member := located.1
          rw [done] at member
          rcases List.mem_cons.mp member with same | kept
          · exact absurd located.2 ((Prod.mk.inj same).1 ▸ apart _ List.mem_cons_self)
          · exact kept

/-- A request goes through its life. -/
theorem Distinct.located_move (distinct : client.Distinct) (move : client.Move next outputs)
    (located : client.Located serial life) :
    ∃ later, next.Located serial later ∧
      LabelledRun RequestLife.Step life (outputs.filter (·.serial = serial)) later := by
  by_cases apart : ∀ output ∈ outputs, output.serial ≠ serial
  · refine ⟨life, move.located_of_apart apart located, ?_⟩
    have none : outputs.filter (·.serial = serial) = [] :=
      List.filter_eq_nil_iff.mpr fun output member => by simpa using apart output member
    rw [none]
    exact .nil
  · have concerned : ∀ {output : Output κ},
        ¬(∀ other ∈ [output], other.serial ≠ serial) → output.serial = serial := by simp
    have accounted := move.accounted
    cases move with
    | quiet => exact absurd (fun _ => (absurd · List.not_mem_nil)) apart
    | issue _ ctx fresh blank waiting _ issued =>
        obtain rfl : ctx.serial = serial := concerned apart
        obtain rfl := distinct.eq_unissued (fresh ▸ located)
        refine ⟨.waiting ctx, ⟨waiting.mem_iff.mpr List.mem_cons_self, rfl⟩, ?_⟩
        simpa [Output.serial] using LabelledRun.single (RequestLife.Step.issue ctx blank)
    | receive ctx bytes member =>
        obtain rfl : ctx.serial = serial := concerned apart
        obtain rfl := distinct.eq_waiting (List.mem_append_right _ member) located
        have written : writeCb ctx.serial bytes ctx =
            { ctx with responseBody := ctx.responseBody ++ bytes } := if_pos rfl
        refine ⟨.waiting { ctx with responseBody := ctx.responseBody ++ bytes }, ⟨?_, rfl⟩, ?_⟩
        · exact List.mem_append_right _ (List.mem_map.mpr ⟨ctx, member, written⟩)
        · simpa [Output.serial] using LabelledRun.single (RequestLife.Step.receive ctx bytes)
    | finish _ ctx result waiting done _ =>
        obtain rfl : ctx.serial = serial := concerned apart
        obtain rfl := distinct.eq_waiting (waiting.mem_iff.mpr List.mem_cons_self) located
        refine ⟨.transferred ctx result, ⟨?_, rfl⟩, ?_⟩
        · exact done ▸ List.mem_append_right _ List.mem_cons_self
        · simpa [Output.serial] using LabelledRun.single (RequestLife.Step.finish ctx result)
    | answer _ ctx result waiting done issued =>
        obtain rfl : ctx.serial = serial := concerned apart
        have member : (ctx, result) ∈ client.done := done ▸ List.mem_cons_self
        obtain rfl := distinct.eq_transferred member located
        refine ⟨.answered, ⟨?_, ?_⟩, ?_⟩
        · exact issued ▸ distinct.lt_issued _ (serial_mem_of_done member)
        · have nodup := accounted.nodup_iff.mpr ((List.append_nil _).symm ▸ distinct.nodup)
          exact (List.nodup_cons.mp nodup).1
        · simpa [Output.serial] using LabelledRun.single (RequestLife.Step.answer ctx result)

end Move

/-! ## Runs -/

section Runs

variable (baseUrl : String) (events : List (Event κ))

/-- A new client. -/
def fresh : HttpClient κ :=
  { baseUrl := baseUrl }

/-- The client after some events. -/
def after : HttpClient κ :=
  EventRun.exec step (fresh baseUrl) events

/-- What was seen of the requests of a new client. -/
def trace : List (Output κ) :=
  EventRun.outputs step emit (fresh baseUrl) events

theorem distinct_fresh : (fresh baseUrl : HttpClient κ).Distinct :=
  ⟨List.nodup_nil, fun _ => (absurd · List.not_mem_nil)⟩

/-- Every request has gone through a part of its life. -/
theorem exists_life (serial : Nat) :
    ∃ life, (after baseUrl events).Located serial life ∧
      life.History ((trace baseUrl events).filter (·.serial = serial)) := by
  have preserved : ∀ (client : HttpClient κ) (event : Event κ), client.Distinct →
      (client.step event).Distinct := fun client event distinct =>
    distinct.move (client.move_step event)
  have follows : ∀ (client : HttpClient κ) (event : Event κ) (life : RequestLife κ),
      client.Distinct → client.Located serial life →
      ∃ later, (client.step event).Located serial later ∧
        LabelledRun RequestLife.Step life
          ((client.emit event).filter (·.serial = serial)) later :=
    fun client event life distinct located =>
      distinct.located_move (client.move_step event) located
  have initially : (fresh baseUrl : HttpClient κ).Located serial .unissued := Nat.zero_le serial
  rcases labelledRun_outputs _ preserved follows (distinct_fresh baseUrl) initially events with
    ⟨life, located, run⟩
  exact ⟨life, located, RequestLife.history_of_run run⟩

/-- Every request is answered or open, and none is both or twice there. -/
theorem accounted_trace :
    ((trace baseUrl events).filterMap Output.answered? ++
        (after baseUrl events).serials).Perm (List.range (after baseUrl events).issued) := by
  have issued := outputs_eq_of_balanced (fun client : HttpClient κ => List.range client.issued)
    Output.issued? (fun _ => none)
    (fun client event => by simpa using (client.move_step event).range_issued)
    (fresh baseUrl) events
  have open' := perm_outputs_of_balanced serials Output.issued? Output.answered?
    (fun client event => (client.move_step event).accounted) (fresh baseUrl) events
  rw [List.filterMap_none] at issued
  exact open'.trans (.of_eq issued.symm)

/-- The callbacks come in the order in which the transfers finish. -/
theorem answered_in_order :
    (trace baseUrl events).filterMap Output.answered? ++
        (after baseUrl events).done.map (·.1.serial) =
      (trace baseUrl events).filterMap Output.finished? :=
  outputs_eq_of_balanced (fun client => client.done.map (·.1.serial)) Output.finished?
    Output.answered? (fun client event => (client.move_step event).ordered) (fresh baseUrl) events

end Runs

/-! ## The worker goes round -/

/-- The worker reads every message before it goes on, and returns only when it is
told to. -/
structure Regular (client : HttpClient κ) : Prop where
  harvested : client.point ≠ .performing → client.point ≠ .harvesting → client.done = []
  stopped : client.point = .returned → client.running = false
  returned : client.destroyed = true → client.point = .returned

theorem regular_fresh (baseUrl : String) : (fresh baseUrl : HttpClient κ).Regular :=
  ⟨fun _ _ => rfl, nofun, nofun⟩

theorem Regular.loop {client : HttpClient κ} (regular : client.Regular)
    (alive : client.destroyed = false) : client.loop.1.Regular := by
  have exists' : ∀ {goal : Prop}, client.destroyed = true → goal :=
    fun gone => (Bool.false_ne_true (alive.symm.trans gone)).elim
  cases at' : client.point with
  | top =>
      have none := regular.harvested (by rw [at']; nofun) (by rw [at']; nofun)
      rw [loop_top at']
      refine ⟨fun _ _ => none, ?_, exists'⟩
      cases client.running with
      | true => nofun
      | false => exact fun _ => rfl
  | taking =>
      rw [loop_taking at']
      exact ⟨fun outside => absurd rfl outside, nofun, exists'⟩
  | performing =>
      rw [loop_performing at']
      exact ⟨fun _ outside => absurd rfl outside, nofun, exists'⟩
  | harvesting =>
      cases held : client.done with
      | nil =>
          rw [loop_harvesting_nil at' held]
          exact ⟨fun _ _ => held, nofun, exists'⟩
      | cons entry done =>
          rw [loop_harvesting_cons at' held]
          exact ⟨fun _ outside => absurd at' outside, regular.stopped, exists'⟩
  | returned =>
      rw [loop_returned at']
      exact regular

theorem Regular.step {client : HttpClient κ} (regular : client.Regular) (event : Event κ) :
    (client.step event).Regular := by
  have same : ∀ {next : HttpClient κ}, next.done = client.done → next.point = client.point →
      next.running = client.running → next.destroyed = client.destroyed → next.Regular := by
    intro next done point running destroyed
    constructor
    · rw [done, point]
      exact regular.harvested
    · rw [point, running]
      exact regular.stopped
    · rw [destroyed, point]
      exact regular.returned
  rw [HttpClient.step, handle]
  split
  · exact regular
  · next alive =>
      cases event with
      | setAuthToken token => exact same rfl rfl rfl rfl
      | clearAuthToken => exact same rfl rfl rfl rfl
      | enqueue request callback => exact same rfl rfl rfl rfl
      | push serial =>
          rw [react]
          split <;> exact same rfl rfl rfl rfl
      | advance => exact regular.loop (Bool.eq_false_iff.mpr alive)
      | receive serial bytes =>
          rw [react]
          split <;> exact same rfl rfl rfl rfl
      | finish serial result =>
          rw [react]
          split
          · exact regular
          · split
            · next inside =>
                exact ⟨fun outside => absurd inside outside, regular.stopped, regular.returned⟩
            · exact regular
      | stop => exact ⟨regular.harvested, fun _ => rfl, regular.returned⟩
      | cleanup =>
          refine ⟨regular.harvested, regular.stopped, fun gone => ?_⟩
          exact of_decide_eq_true (Bool.and_elim_right gone)

theorem Regular.alive {client : HttpClient κ} (regular : client.Regular)
    (running : client.running = true) : client.destroyed = false := by
  refine Bool.eq_false_iff.mpr fun gone => Bool.false_ne_true ?_
  exact (regular.stopped (regular.returned gone)).symm.trans running

/-- Nothing is seen of a client that is gone. -/
theorem outputs_of_destroyed {client : HttpClient κ} (gone : client.destroyed = true)
    (events : List (Event κ)) : EventRun.outputs step emit client events = [] := by
  have idle : ∀ event, client.handle event = (client, []) := fun event => if_pos gone
  induction events with
  | nil => rfl
  | cons event events ih =>
      rw [EventRun.outputs_cons, emit, HttpClient.step, idle]
      exact ih

/-- A call of `enqueue` or the worker goes on, and libcurl lets every transfer end
as given. -/
def Event.GoesOn (results : Nat → TransferResult) : Event κ → Prop
  | advance | push _ => True
  | finish serial result => result = results serial
  | setAuthToken _ | clearAuthToken | enqueue .. | receive .. | stop | cleanup => False

/-- The client can get from one state to another by going on. -/
def Reaches (results : Nat → TransferResult) (client next : HttpClient κ) : Prop :=
  ∃ events : List (Event κ), (∀ event ∈ events, event.GoesOn results) ∧
    EventRun.exec step client events = next

section Reaches

variable {results : Nat → TransferResult} {client middle next : HttpClient κ}

theorem Reaches.refl : client.Reaches results client :=
  ⟨[], fun _ => (absurd · List.not_mem_nil), rfl⟩

theorem Reaches.head (event : Event κ) (goesOn : event.GoesOn results)
    (rest : (client.step event).Reaches results next) : client.Reaches results next := by
  rcases rest with ⟨events, all, reached⟩
  exact ⟨event :: events, List.forall_mem_cons.mpr ⟨goesOn, all⟩, reached⟩

theorem Reaches.trans (first : client.Reaches results middle)
    (second : middle.Reaches results next) : client.Reaches results next := by
  rcases first with ⟨events, all, rfl⟩
  rcases second with ⟨later, allLater, rfl⟩
  exact ⟨events ++ later, List.forall_mem_append.mpr ⟨all, allLater⟩,
    EventRun.exec_append step client events later⟩

theorem step_of_alive (alive : client.destroyed = false) (event : Event κ) :
    client.step event = (client.react event).1 := by
  rw [HttpClient.step, handle, alive]
  rfl

theorem reaches_loop (alive : client.destroyed = false) :
    client.Reaches results client.loop.1 :=
  .head .advance trivial (step_of_alive alive .advance ▸ .refl)

/-- Every message is read. -/
theorem reaches_top_of_harvesting (alive : client.destroyed = false)
    (inside : client.point = .harvesting) :
    client.Reaches results { client with done := [], point := .top } := by
  induction held : client.done generalizing client with
  | nil =>
      have once : client.Reaches results client.loop.1 := reaches_loop alive
      rw [loop_harvesting_nil inside held] at once
      rwa [← held]
  | cons entry done ih =>
      have once : client.Reaches results client.loop.1 := reaches_loop alive
      rw [loop_harvesting_cons inside held] at once
      exact once.trans (ih alive inside rfl)

variable (results) in
/-- Every transfer ends. -/
theorem reaches_harvesting_of_performing (alive : client.destroyed = false)
    (inside : client.point = .performing) :
    ∃ done, client.Reaches results
      { client with multi := [], done := done, point := .harvesting } := by
  induction left : client.multi generalizing client with
  | nil =>
      refine ⟨client.done, ?_⟩
      have once : client.Reaches results client.loop.1 := reaches_loop alive
      rw [loop_performing inside] at once
      rwa [← left]
  | cons ctx rest ih =>
      let ended : HttpClient κ :=
        { client with multi := rest, done := client.done ++ [(ctx, results ctx.serial)] }
      have once : client.step (.finish ctx.serial (results ctx.serial)) = ended := by
        rw [step_of_alive alive]
        simp [react, left, inside, ended]
      rcases @ih ended alive inside rfl with ⟨done, later⟩
      exact ⟨done, .head (.finish ctx.serial (results ctx.serial)) rfl (once ▸ later)⟩

/-- The transfers end and every message is read. -/
theorem reaches_top_of_performing (alive : client.destroyed = false)
    (inside : client.point = .performing) :
    client.Reaches results { client with multi := [], done := [], point := .top } := by
  rcases reaches_harvesting_of_performing results alive inside with ⟨done, ended⟩
  exact ended.trans (reaches_top_of_harvesting alive rfl)

/-- From the top of the loop the worker empties the queue and answers everything. -/
theorem reaches_settled_of_top (alive : client.destroyed = false) (running : client.running = true)
    (at' : client.point = .top) :
    client.Reaches results
      { client with pending := [], multi := [], done := [], point := .top } := by
  have checked : client.Reaches results client.loop.1 := reaches_loop alive
  rw [loop_top at', if_pos running] at checked
  refine checked.trans ?_
  have taken : Reaches results { client with point := .taking } _ := reaches_loop alive
  rw [loop_taking rfl] at taken
  exact taken.trans (reaches_top_of_performing alive rfl)

/-- From everywhere the worker comes back to the top. -/
theorem reaches_top (regular : client.Regular) (running : client.running = true) :
    client.Reaches results
      { client with pending := [], multi := [], done := [], point := .top } := by
  have alive := regular.alive running
  cases at' : client.point with
  | top => exact reaches_settled_of_top alive running at'
  | taking =>
      have taken : client.Reaches results client.loop.1 := reaches_loop alive
      rw [loop_taking at'] at taken
      exact taken.trans (reaches_top_of_performing alive rfl)
  | performing =>
      have ended : client.Reaches results _ := reaches_top_of_performing alive at'
      exact ended.trans (reaches_settled_of_top alive running rfl)
  | harvesting =>
      have read : client.Reaches results _ := reaches_top_of_harvesting alive at'
      exact read.trans (reaches_settled_of_top alive running rfl)
  | returned => exact absurd ((regular.stopped at').symm.trans running) Bool.false_ne_true

/-- Every call of `enqueue` that is under way pushes its request. -/
theorem reaches_pushed (alive : client.destroyed = false) :
    client.Reaches results
      { client with building := [], pending := client.pending ++ client.building } := by
  induction left : client.building generalizing client with
  | nil =>
      rw [List.append_nil, ← left]
      exact .refl
  | cons ctx rest ih =>
      let pushed : HttpClient κ :=
        { client with building := rest, pending := client.pending ++ [ctx] }
      have once : client.step (.push ctx.serial) = pushed := by
        rw [step_of_alive alive]
        simp [react, left, pushed]
      have later := @ih pushed alive rfl
      refine .head (.push ctx.serial) trivial (once ▸ ?_)
      simpa [pushed] using later

variable (results) in
/-- Every request that was issued can be answered. -/
theorem reaches_settled (regular : client.Regular) (running : client.running = true) :
    client.Reaches results
      { client with building := [], pending := [], multi := [], done := [], point := .top } := by
  have alive := regular.alive running
  have pushed : client.Reaches results _ := reaches_pushed alive
  refine pushed.trans (reaches_top ?_ running)
  exact ⟨regular.harvested, regular.stopped, regular.returned⟩

end Reaches

/-! ## Exactly once -/

/-- What becomes of the requests of a client, whatever its threads, its worker and
libcurl do. -/
structure AnswersOnce (baseUrl : String) (events : List (Event κ)) : Prop where
  /-- The history of each request is a part of one exchange. -/
  histories : ∀ serial, ∃ life, (after baseUrl events).Located serial life ∧
    life.History ((trace baseUrl events).filter (·.serial = serial))
  /-- Each request issued so far is answered or open, and only once. -/
  accounted : ((trace baseUrl events).filterMap Output.answered? ++
    (after baseUrl events).serials).Perm (List.range (after baseUrl events).issued)
  /-- The callbacks come in the order in which the transfers have finished. -/
  ordered : (trace baseUrl events).filterMap Output.answered? ++
    (after baseUrl events).done.map (·.1.serial) = (trace baseUrl events).filterMap Output.finished?
  /-- When the destructor has returned, every finished transfer was answered, and
  nothing is ever answered again. -/
  final : (after baseUrl events).destroyed = true → (after baseUrl events).done = [] ∧
    ∀ later, trace baseUrl (events ++ later) = trace baseUrl events
  /-- Until the destructor begins, the client has only to go on to answer every
  request, however the transfers end. -/
  progress : (after baseUrl events).running = true → ∀ results, ∃ later,
    (∀ event ∈ later, event.GoesOn results) ∧ (after baseUrl (events ++ later)).serials = []

theorem answersOnce (baseUrl : String) (events : List (Event κ)) :
    AnswersOnce baseUrl events := by
  have regular : (after baseUrl events).Regular := by
    exact EventRun.exec_invariant (fun _ event regular => regular.step event)
      (regular_fresh baseUrl) events
  constructor
  · exact exists_life baseUrl events
  · exact accounted_trace baseUrl events
  · exact answered_in_order baseUrl events
  · intro gone
    have returned := regular.returned gone
    refine ⟨regular.harvested (returned ▸ nofun) (returned ▸ nofun), fun later => ?_⟩
    rw [trace, EventRun.outputs_append]
    exact (congrArg (_ ++ ·) (outputs_of_destroyed gone later)).trans (List.append_nil _)
  · intro running results
    rcases reaches_settled results regular running with ⟨later, goesOn, reached⟩
    refine ⟨later, goesOn, ?_⟩
    rw [after, EventRun.exec_append]
    exact congrArg serials reached

end HttpClient

end AnychatSdk
