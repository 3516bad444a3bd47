import AnychatSdk.SdkReplay

/-!
# The tables of contacts over whole sessions

The tables of friends and of groups are what the lists and the new groups of the
server make of them, in the order in which the responses are handled, and what
others write in between.  No function of the SDK takes a row away.
-/

namespace AnychatSdk

/-! ## What a response writes -/

section Writes

variable {α σ ρ : Type}

/-- Only the friend list is stored. -/
def FriendCall.write (json : FriendJson) :
    FriendCall ρ → RawResponse → ContactTables → ContactTables
  | .getFriendList, raw, tables =>
      Decoding.write { read := json.readFriendList }
        (fun data tables => tables.storeFriends (data.friends.getD [])) raw tables
  | _, _, tables => tables

/-- A new group is stored if it has an id. -/
def ContactTables.storeNew (data : GroupInfoPayload) (tables : ContactTables) : ContactTables :=
  if (parseGroupInfo data).groupId = "" then tables else tables.storeGroup (parseGroupInfo data)

/-- The group list is stored, and a new group. -/
def GroupCall.write (json : GroupJson) :
    GroupCall ρ → RawResponse → ContactTables → ContactTables
  | .getGroupList, raw, tables =>
      Decoding.write { read := json.readGroupList, fallbackError := "get group list failed" }
        (fun data tables => tables.storeGroups (data.groups.getD [])) raw tables
  | .create _ _, raw, tables =>
      Decoding.write { read := json.readGroupInfo, fallbackError := "create group failed" }
        ContactTables.storeNew raw tables
  | _, _, tables => tables

def SingleCall.write (env : SdkEnvironment) :
    SingleCall ρ → RawResponse → ContactTables → ContactTables
  | .friend call, raw, tables => call.write env.friend raw tables
  | .group call, raw, tables => call.write env.group raw tables
  | _, _, tables => tables

def SdkCall.write (env : SdkEnvironment) :
    SdkCall ρ → RawResponse → ContactTables → ContactTables
  | .single call, raw, tables => call.write env raw tables
  | _, _, tables => tables

end Writes

/-! ## What the handlers do -/

section Handlers

variable {σ τ ε α ρ ω : Type}

theorem FriendCall.handle_eq_write (json : FriendJson) (call : FriendCall ρ) (raw : RawResponse)
    (tables : ContactTables) :
    ((call.call json).handle raw tables).2 = call.write json raw tables := by
  cases call with
  | getFriendList => exact ManagerCall.handle_storing _ _ _ _ raw tables
  | addFriend | deleteFriend | updateRemark | handleFriendRequest | getFriendRequests
  | getBlacklist | addToBlacklist | removeFromBlacklist =>
      exact ManagerCall.handle_fetching _ _ _ raw tables

theorem GroupCall.handle_eq_write (json : GroupJson) (call : GroupCall ρ) (raw : RawResponse)
    (tables : ContactTables) :
    ((call.call json).handle raw tables).2 = call.write json raw tables := by
  cases call with
  | getGroupList | create => exact ManagerCall.handle_storing _ _ _ _ raw tables
  | getInfo | join | invite | quit | disband | update | getMembers | removeMember
  | updateMemberRole | updateNickname | transferOwnership | getJoinRequests | handleJoinRequest
  | getQRCode | refreshQRCode => exact ManagerCall.handle_fetching _ _ _ raw tables

theorem SingleCall.handle_eq_write (env : SdkEnvironment) (call : SingleCall ρ)
    (raw : RawResponse) (state : SdkState) :
    ((call.call env).handle raw state).2.contacts = call.write env raw state.contacts := by
  cases call with
  | friend call => exact call.handle_eq_write env.friend raw state.contacts
  | group call => exact call.handle_eq_write env.group raw state.contacts
  | user | calling | version | chat | account | refreshToken | file => rfl

namespace SdkCall

/-- The client is no part of the tables, nor are the tokens. -/
theorem onClient_does (operation : Operation Client Empty ρ) :
    (onClient operation).Does SdkState.contacts (fun _ => id) id :=
  AsyncCode.does_within_apart (fun client state => show (state.withClient client).contacts = _ from
    rfl) operation

theorem onAuth_does (operation : Operation ListenedAuthManager AuthReport ρ) :
    (onAuth operation).Does SdkState.contacts (fun _ => id) id :=
  AsyncCode.does_within_apart (fun auth state => show (state.withAuth auth).contacts = _ from rfl)
    operation

theorem onNothing_does (operation : Operation Unit UploadProgress ρ) :
    (onNothing operation).Does SdkState.contacts (fun _ => id) id :=
  AsyncCode.does_within_apart (fun _ _ => rfl) operation

/-- No call but the three writes to the tables, and none of them before its response. -/
theorem code_does (env : SdkEnvironment) (call : SdkCall ρ) :
    (call.code env).Does SdkState.contacts (call.write env) id := by
  cases call with
  | single call => exact ManagerCall.code_does (call.handle_eq_write env)
  | getConversationList | getHistory | ackMessages | markAsRead | recallMessage | deleteMessage
  | editMessage => exact onClient_does _
  | getDeviceList | logoutDevice | ensureValidToken => exact onAuth_does _
  | upload | uploadClientLog => exact onNothing_does _

end SdkCall

end Handlers

/-! ## Rows -/

namespace ContactTables

theorem lookup_storeFriend (payload : FriendPayload) (tables : ContactTables) (userId : String) :
    (tables.storeFriend payload).friends.lookup userId =
      if userId = payload.userId then some (toFriend payload).toRow
      else tables.friends.lookup userId :=
  KeyTable.lookup_write _ _ _ _

/-- A stored list has brought a row, or the row was there. -/
theorem lookup_storeFriends {friends : List FriendPayload} {tables : ContactTables}
    {userId : String} {row : FriendRow}
    (found : (tables.storeFriends friends).friends.lookup userId = some row) :
    tables.friends.lookup userId = some row ∨
      ∃ payload ∈ friends, payload.userId = userId ∧ (toFriend payload).toRow = row := by
  induction friends generalizing tables with
  | nil => exact .inl found
  | cons payload rest ih =>
      rcases ih found with before | ⟨later, listed, own, same⟩
      · rw [lookup_storeFriend] at before
        split at before
        · next own => exact .inr ⟨payload, List.mem_cons_self, own.symm, Option.some.inj before⟩
        · exact .inl before
      · exact .inr ⟨later, List.mem_cons_of_mem _ listed, own, same⟩

theorem lookup_storeGroup (group : Group) (tables : ContactTables) (groupId : String) :
    (tables.storeGroup group).groups.lookup groupId =
      if groupId = group.groupId then some group.toRow else tables.groups.lookup groupId :=
  KeyTable.lookup_write _ _ _ _

theorem lookup_storeGroups {groups : List GroupPayload} {tables : ContactTables}
    {groupId : String} {row : GroupRow}
    (found : (tables.storeGroups groups).groups.lookup groupId = some row) :
    tables.groups.lookup groupId = some row ∨
      ∃ payload ∈ groups, payload.groupId = groupId ∧ (parseGroup payload).toRow = row := by
  induction groups generalizing tables with
  | nil => exact .inl found
  | cons payload rest ih =>
      rcases ih found with before | ⟨later, listed, own, same⟩
      · rw [lookup_storeGroup] at before
        split at before
        · next own => exact .inr ⟨payload, List.mem_cons_self, own.symm, Option.some.inj before⟩
        · exact .inl before
      · exact .inr ⟨later, List.mem_cons_of_mem _ listed, own, same⟩

theorem groups_storeFriends (friends : List FriendPayload) (tables : ContactTables) :
    (tables.storeFriends friends).groups = tables.groups := by
  induction friends generalizing tables with
  | nil => rfl
  | cons payload rest ih => exact ih _

theorem friends_storeGroups (groups : List GroupPayload) (tables : ContactTables) :
    (tables.storeGroups groups).friends = tables.friends := by
  induction groups generalizing tables with
  | nil => rfl
  | cons payload rest ih => exact ih _

/-- No row is missing from the later tables. -/
structure Keeps (before after : ContactTables) : Prop where
  friends : ∀ userId ∈ before.friends, userId ∈ after.friends
  groups : ∀ groupId ∈ before.groups, groupId ∈ after.groups

namespace Keeps

theorem refl (tables : ContactTables) : Keeps tables tables :=
  ⟨fun _ => id, fun _ => id⟩

theorem trans {first middle last : ContactTables} (before : Keeps first middle)
    (after : Keeps middle last) : Keeps first last :=
  ⟨fun userId found => after.friends userId (before.friends userId found),
    fun groupId found => after.groups groupId (before.groups groupId found)⟩

theorem storeFriends (friends : List FriendPayload) (tables : ContactTables) :
    Keeps tables (tables.storeFriends friends) := by
  induction friends generalizing tables with
  | nil => exact .refl tables
  | cons payload rest ih =>
      have first : Keeps tables (tables.storeFriend payload) :=
        ⟨fun _ found => KeyTable.mem_write.mpr (.inr found), fun _ => id⟩
      exact first.trans (ih _)

theorem storeGroup (group : Group) (tables : ContactTables) :
    Keeps tables (tables.storeGroup group) :=
  ⟨fun _ => id, fun _ found => KeyTable.mem_write.mpr (.inr found)⟩

theorem storeGroups (groups : List GroupPayload) (tables : ContactTables) :
    Keeps tables (tables.storeGroups groups) := by
  induction groups generalizing tables with
  | nil => exact .refl tables
  | cons payload rest ih => exact (Keeps.storeGroup (parseGroup payload) tables).trans (ih _)

end Keeps

end ContactTables

open ContactTables

section Calls

variable {ρ : Type} (env : SdkEnvironment)

/-- All that a response can do to the tables. -/
inductive SdkCall.Writes (tables : ContactTables) :
    {α : Type} → SdkCall α → RawResponse → ContactTables → Prop
  | nothing {α : Type} (call : SdkCall α) (raw : RawResponse) : Writes tables call raw tables
  | friends {raw : RawResponse} {data : FriendListDataPayload}
      (accepts : Decoding.Accepts { read := env.friend.readFriendList } raw data) :
      Writes tables (.single (.friend .getFriendList)) raw
        (tables.storeFriends (data.friends.getD []))
  | groups {raw : RawResponse} {data : GroupListDataPayload}
      (accepts : Decoding.Accepts
        { read := env.group.readGroupList, fallbackError := "get group list failed" } raw data) :
      Writes tables (.single (.group .getGroupList)) raw (tables.storeGroups (data.groups.getD []))
  | created (name : String) (memberIds : List String) {raw : RawResponse}
      {data : GroupInfoPayload}
      (accepts : Decoding.Accepts
        { read := env.group.readGroupInfo, fallbackError := "create group failed" } raw data)
      (named : data.groupId ≠ "") :
      Writes tables (.single (.group (.create name memberIds))) raw
        (tables.storeGroup (parseGroupInfo data))

theorem SdkCall.Writes.new {tables : ContactTables} (name : String) (memberIds : List String)
    {raw : RawResponse} {data : GroupInfoPayload}
    (accepts : Decoding.Accepts
      { read := env.group.readGroupInfo, fallbackError := "create group failed" } raw data) :
    Writes env tables (.single (.group (.create name memberIds))) raw
      (tables.storeNew data) := by
  rw [storeNew]
  split
  · exact .nothing _ raw
  · next named => exact .created name memberIds accepts named

theorem SdkCall.writes_write (call : SdkCall ρ) (raw : RawResponse) (tables : ContactTables) :
    Writes env tables call raw (call.write env raw tables) := by
  cases call with
  | single call =>
      cases call with
      | friend call =>
          cases call with
          | getFriendList =>
              exact Decoding.holds_write (motive := Writes env tables _ raw) (.nothing _ raw)
                fun data accepts => .friends accepts
          | addFriend | deleteFriend | updateRemark | handleFriendRequest | getFriendRequests
          | getBlacklist | addToBlacklist | removeFromBlacklist => exact .nothing _ raw
      | group call =>
          cases call with
          | getGroupList =>
              exact Decoding.holds_write (motive := Writes env tables _ raw) (.nothing _ raw)
                fun data accepts => .groups accepts
          | create name memberIds =>
              exact Decoding.holds_write (motive := Writes env tables _ raw) (.nothing _ raw)
                fun data accepts => .new env name memberIds accepts
          | getInfo | join | invite | quit | disband | update | getMembers | removeMember
          | updateMemberRole | updateNickname | transferOwnership | getJoinRequests
          | handleJoinRequest | getQRCode | refreshQRCode => exact .nothing _ raw
      | user | calling | version | chat | account | refreshToken | file => exact .nothing _ raw
  | getConversationList | getHistory | ackMessages | markAsRead | recallMessage | deleteMessage
  | editMessage | getDeviceList | logoutDevice | ensureValidToken | upload | uploadClientLog =>
      exact .nothing _ raw

/-- The rows of friends that a response brings. -/
inductive SdkCall.BringsFriend : {α : Type} → SdkCall α → RawResponse → String → FriendRow → Prop
  | listed {raw : RawResponse} {data : FriendListDataPayload} {payload : FriendPayload}
      (accepts : Decoding.Accepts { read := env.friend.readFriendList } raw data)
      (member : payload ∈ data.friends.getD []) :
      BringsFriend (.single (.friend .getFriendList)) raw payload.userId (toFriend payload).toRow

/-- The rows of groups that a response brings. -/
inductive SdkCall.BringsGroup : {α : Type} → SdkCall α → RawResponse → String → GroupRow → Prop
  | listed {raw : RawResponse} {data : GroupListDataPayload} {payload : GroupPayload}
      (accepts : Decoding.Accepts
        { read := env.group.readGroupList, fallbackError := "get group list failed" } raw data)
      (member : payload ∈ data.groups.getD []) :
      BringsGroup (.single (.group .getGroupList)) raw payload.groupId (parseGroup payload).toRow
  | created {name : String} {memberIds : List String} {raw : RawResponse} {data : GroupInfoPayload}
      (accepts : Decoding.Accepts
        { read := env.group.readGroupInfo, fallbackError := "create group failed" } raw data)
      (named : data.groupId ≠ "") :
      BringsGroup (.single (.group (.create name memberIds))) raw data.groupId
        (parseGroupInfo data).toRow

namespace SdkCall.Writes

variable {env : SdkEnvironment} {call : SdkCall ρ} {raw : RawResponse}
  {tables later : ContactTables}

theorem keeps (wrote : Writes env tables call raw later) : Keeps tables later := by
  cases wrote with
  | nothing => exact .refl tables
  | friends => exact .storeFriends _ tables
  | groups => exact .storeGroups _ tables
  | created => exact .storeGroup _ tables

theorem friend (wrote : Writes env tables call raw later) {userId : String} {row : FriendRow}
    (found : later.friends.lookup userId = some row) :
    tables.friends.lookup userId = some row ∨ BringsFriend env call raw userId row := by
  cases wrote with
  | nothing => exact .inl found
  | friends accepts =>
      rcases lookup_storeFriends found with before | ⟨payload, member, rfl, rfl⟩
      · exact .inl before
      · exact .inr (.listed accepts member)
  | groups accepts => exact .inl (friends_storeGroups _ tables ▸ found)
  | created => exact .inl found

theorem group (wrote : Writes env tables call raw later) {groupId : String} {row : GroupRow}
    (found : later.groups.lookup groupId = some row) :
    tables.groups.lookup groupId = some row ∨ BringsGroup env call raw groupId row := by
  cases wrote with
  | nothing => exact .inl found
  | friends accepts => exact .inl (groups_storeFriends _ tables ▸ found)
  | groups accepts =>
      rcases lookup_storeGroups found with before | ⟨payload, member, rfl, rfl⟩
      · exact .inl before
      · exact .inr (.listed accepts member)
  | created name memberIds accepts named =>
      rw [lookup_storeGroup] at found
      split at found
      · next own =>
          cases found
          exact .inr (own ▸ .created accepts named)
      · exact .inl found

end SdkCall.Writes

end Calls

/-- The tables as a part of the state. -/
def SdkPart.contacts (env : SdkEnvironment) : SdkPart env ContactTables where
  view := SdkState.contacts
  write call := call.write env
  does call := call.code_does env

/-! ## Sessions -/

namespace SdkSession

variable {ρ : Type} (env : SdkEnvironment) (text : List UInt8 → String) (baseUrl : String)
  (state : SdkState) (events : List (SdkEvent ρ))

/-- What holds of the tables of contacts after a session. -/
structure ContactsReplayed : Prop where
  /-- They are a replay of the responses in order, and of what others have done. -/
  replayed : (after env text baseUrl state events).state.contacts =
    ((SdkPart.contacts env).happened text baseUrl state events).foldl
      (HttpSession.Happened.apply ((SdkPart.contacts env).writes events)) state.contacts
  /-- No row is lost if the others take none away. -/
  kept : (∀ change, .other change ∈ events →
      ∀ state : SdkState, Keeps state.contacts (change state).contacts) →
    Keeps state.contacts (after env text baseUrl state events).state.contacts
  /-- Each friend was there, or has come in an accepted friend list, or from others. -/
  friend : ∀ userId row,
    (after env text baseUrl state events).state.contacts.friends.lookup userId = some row →
      state.contacts.friends.lookup userId = some row ∨
      (∃ id raw call,
        .answered id raw ∈ (SdkPart.contacts env).happened text baseUrl state events ∧
        (calls events)[id]? = some call ∧ SdkCall.BringsFriend env call.2 raw userId row) ∨
      ∃ tables, .changed tables ∈ (SdkPart.contacts env).happened text baseUrl state events ∧
        tables.friends.lookup userId = some row
  /-- Each group, likewise, and new groups. -/
  group : ∀ groupId row,
    (after env text baseUrl state events).state.contacts.groups.lookup groupId = some row →
      state.contacts.groups.lookup groupId = some row ∨
      (∃ id raw call,
        .answered id raw ∈ (SdkPart.contacts env).happened text baseUrl state events ∧
        (calls events)[id]? = some call ∧ SdkCall.BringsGroup env call.2 raw groupId row) ∨
      ∃ tables, .changed tables ∈ (SdkPart.contacts env).happened text baseUrl state events ∧
        tables.groups.lookup groupId = some row

/-- Any calls on any threads, in any order of steps and with any responses. -/
theorem contactsReplayed : ContactsReplayed env text baseUrl state events := by
  refine ⟨(SdkPart.contacts env).replayed text baseUrl state events, fun keeps => ?_,
    fun userId row found => ?_, fun groupId row found => ?_⟩
  · exact (SdkPart.contacts env).rel_after Keeps Keeps.refl Keeps.trans
      (fun call _ raw tables => (call.2.writes_write env raw tables).keeps) keeps
  · exact (SdkPart.contacts env).origin
      (fun tables : ContactTables => tables.friends.lookup userId = some row)
      (fun call raw tables found => (call.writes_write env raw tables).friend found) found
  · exact (SdkPart.contacts env).origin
      (fun tables : ContactTables => tables.groups.lookup groupId = some row)
      (fun call raw tables found => (call.writes_write env raw tables).group found) found

end SdkSession

end AnychatSdk
