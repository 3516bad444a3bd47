import AnychatSdk.SyncEngine
import AnychatSdk.TimestampText

/-!
# Two ways for a friend or a group to be stored

A friend or a group comes in a list response or in a sync response.  Each way has
a payload, a decoder and a statement of its own.  Here one record of the server is
put into both payloads.
-/

namespace AnychatSdk

/-! ## The friend list -/

structure UserInfo where
  userId : String := ""
  username : String := ""
  avatarUrl : String := ""
  signature : String := ""
  gender : Int32 := 0
  region : String := ""
  isFriend : Bool := false
  isBlocked : Bool := false

structure UserInfoPayload where
  userId : String := ""
  nickname : String := ""
  avatar : String := ""
  signature : String := ""
  gender : Int32 := 0
  region : String := ""
  isFriend : Bool := false
  isBlocked : Bool := false

def toUserInfo (payload : UserInfoPayload) : UserInfo where
  userId := payload.userId
  username := payload.nickname
  avatarUrl := payload.avatar
  signature := payload.signature
  gender := payload.gender
  region := payload.region
  isFriend := payload.isFriend
  isBlocked := payload.isBlocked

structure FriendPayload where
  userId : String := ""
  remark : String := ""
  updatedAt : Option TimestampValue := none
  isDeleted : Bool := false
  userInfo : Option UserInfoPayload := none

structure Friend where
  userId : String
  remark : String
  updatedAtMs : Int64
  isDeleted : Bool
  userInfo : UserInfo

/-- A friend without user information keeps at least the id in it. -/
def toFriend (payload : FriendPayload) : Friend where
  userId := payload.userId
  remark := payload.remark
  updatedAtMs := parseTimestampMs payload.updatedAt
  isDeleted := payload.isDeleted
  userInfo :=
    let userInfo := payload.userInfo.elim {} toUserInfo
    if userInfo.userId = "" then { userInfo with userId := payload.userId } else userInfo

def Friend.toRow (friend : Friend) : FriendRow where
  remark := friend.remark
  updatedAtMs := friend.updatedAtMs
  isDeleted := if friend.isDeleted then 1 else 0
  friendNickname := some friend.userInfo.username
  friendAvatar := some friend.userInfo.avatarUrl

/-- What `getFriendList` writes: `INSERT OR REPLACE` of all columns of every friend
of the response. -/
def Db.storeFriends (friends : List FriendPayload) (db : Db) : Db :=
  friends.foldl
    (fun db payload =>
      let friend := toFriend payload
      { db with friends := db.friends.write friend.userId friend.toRow })
    db

/-! ## The group list -/

inductive GroupRole where
  | unspecified
  | owner
  | admin
  | member
  deriving DecidableEq

def GroupRole.code : GroupRole → Int32
  | unspecified => 0
  | owner => 1
  | admin => 2
  | member => 3

def parseRoleCode (roleCode : Int32) (default : GroupRole) : GroupRole :=
  if roleCode = GroupRole.owner.code then .owner
  else if roleCode = GroupRole.admin.code then .admin
  else if roleCode = GroupRole.member.code then .member
  else default

/-- Text that is no number has the default role, as has the empty text. -/
def parseRoleValue (value : Option IntegerValue) (default : GroupRole) : GroupRole :=
  match value with
  | none => default
  | some (.int64 value) => parseRoleCode value.toInt32 default
  | some (.double value) => parseRoleCode value.toInt32 default
  | some (.string text) =>
      if text = "" then default
      else
        match scanInteger (cString text).toList with
        | none => if cString text = "" then parseRoleCode 0 default else default
        | some (value, rest) =>
            if rest = [] then parseRoleCode (saturateInt64 value).toInt32 default else default

structure GroupPayload where
  groupId : String := ""
  name : String := ""
  displayName : String := ""
  avatar : String := ""
  announcement : String := ""
  description : String := ""
  ownerId : String := ""
  memberCount : Option IntegerValue := none
  maxMembers : Option IntegerValue := none
  myRole : Option IntegerValue := none
  joinVerify : Option BooleanValue := none
  isMuted : Option BooleanValue := none
  createdAt : Option TimestampValue := none
  updatedAt : Option TimestampValue := none

structure Group where
  groupId : String
  name : String
  displayName : String
  avatarUrl : String
  announcement : String
  description : String
  ownerId : String
  memberCount : Int32
  maxMembers : Int32
  myRole : GroupRole
  joinVerify : Bool
  isMuted : Bool
  createdAtMs : Int64
  updatedAtMs : Int64

def parseGroup (payload : GroupPayload) : Group :=
  let name := if payload.name = "" then payload.displayName else payload.name
  { groupId := payload.groupId
    name := name
    displayName := if payload.displayName = "" then name else payload.displayName
    avatarUrl := payload.avatar
    announcement := payload.announcement
    description := payload.description
    ownerId := payload.ownerId
    memberCount := parseInt32Value payload.memberCount 0
    maxMembers := parseInt32Value payload.maxMembers 0
    myRole := parseRoleValue payload.myRole .member
    joinVerify := parseBoolValue payload.joinVerify false
    isMuted := parseBoolValue payload.isMuted false
    createdAtMs := parseTimestampMs payload.createdAt
    updatedAtMs := parseTimestampMs payload.updatedAt }

/-- The role is bound as an integer; its column holds text. -/
def Group.toRow (group : Group) : GroupRow where
  name := group.name
  avatarUrl := group.avatarUrl
  ownerId := some group.ownerId
  memberCount := group.memberCount.toInt64
  myRole := some (toString group.myRole.code)
  updatedAtMs := group.updatedAtMs

/-- What `getGroupList` writes. -/
def Db.storeGroups (groups : List GroupPayload) (db : Db) : Db :=
  groups.foldl
    (fun db payload =>
      let group := parseGroup payload
      { db with groups := db.groups.write group.groupId group.toRow })
    db

/-! ## Times of the server -/

/-- When a record was changed: Unix seconds or milliseconds, read as an integer or
as a double; a timestamp text; or a timestamp object. -/
inductive ServerTime where
  | number (value : Int64)
  | double (value : Float)
  | rfc3339 (text : TimestampText)
  | object (value : TimestampObject)

namespace ServerTime

def timestampValue : ServerTime → TimestampValue
  | number value => .int64 value
  | double value => .double value
  | rfc3339 text => .string text.toText
  | object value => .object value

/-- A field for integers takes no object. -/
def integerValue : ServerTime → Option IntegerValue
  | number value => some (.int64 value)
  | double value => some (.double value)
  | rfc3339 text => some (.string text.toText)
  | object _ => none

/-- An optional field for integers; `none` is a parse error. -/
def integerField : Option ServerTime → Option (Option IntegerValue)
  | none => some none
  | some time => time.integerValue.map some

theorem integerField_eq_none_iff {time : Option ServerTime} :
    integerField time = none ↔ ∃ value, time = some (.object value) := by
  cases time with
  | none => simp [integerField]
  | some time => cases time <;> simp [integerField, integerValue]

/-- Milliseconds, or nothing that counts as a time. -/
def ReadsAlike : ServerTime → Prop
  | number value => value ≤ 0 ∨ 1000000000000 ≤ value
  | double value => value.toInt64 ≤ 0 ∨ 1000000000000 ≤ value.toInt64
  | rfc3339 text => text.instantMs = 0 ∨ text.time = TimestampText.secondBeforeEpoch
  | object _ => False

/-- Only numbers that are milliseconds already stay as they are. -/
theorem normalizeUnixEpochMs_eq_self_iff (raw : Int64) :
    normalizeUnixEpochMs raw = raw ↔ raw ≤ 0 ∨ 1000000000000 ≤ raw := by
  rw [← Int64.toInt_inj, toInt_normalizeUnixEpochMs, Int64.le_iff_toInt_le, Int64.le_iff_toInt_le]
  change _ ↔ raw.toInt ≤ 0 ∨ 1000000000000 ≤ raw.toInt
  split <;> omega

/-- The two parsers agree on exactly these times. -/
theorem parse_eq_parse_iff {time : ServerTime} {value : IntegerValue}
    (accepted : time.integerValue = some value) :
    parseInt64Value (some value) 0 = parseTimestampMs (some time.timestampValue) ↔
      time.ReadsAlike := by
  cases time with
  | number raw =>
      obtain rfl : .int64 raw = value := Option.some.inj accepted
      exact eq_comm.trans (normalizeUnixEpochMs_eq_self_iff raw)
  | double raw =>
      obtain rfl : .double raw = value := Option.some.inj accepted
      exact eq_comm.trans (normalizeUnixEpochMs_eq_self_iff raw.toInt64)
  | rfc3339 text =>
      obtain rfl : .string text.toText = value := Option.some.inj accepted
      have zero : parseInt64Value (some (.string text.toText)) 0 = 0 :=
        text.parseInt64String_toText 0
      rw [zero]
      exact eq_comm.trans text.parseTimestampMs_toText_eq_zero_iff
  | object content => cases accepted

/-- An absent time is 0 for both parsers. -/
theorem parse_field_eq_iff {time : Option ServerTime} {value : Option IntegerValue}
    (accepted : integerField time = some value) :
    parseInt64Value value 0 = parseTimestampMs (time.map timestampValue) ↔
      ∀ present ∈ time, present.ReadsAlike := by
  cases time with
  | none =>
      obtain rfl : none = value := Option.some.inj accepted
      simp [parseInt64Value, parseTimestampMs]
  | some time =>
      obtain ⟨integer, read, rfl⟩ := Option.map_eq_some_iff.mp accepted
      rw [Option.map_some, parse_eq_parse_iff read]
      simp

/-- The sync route refuses a record, or the record has an id and a time. -/
theorem refused_or_accepted (id : String) (time : Option ServerTime) :
    (id = "" ∨ integerField time = none) ∨
      id ≠ "" ∧ ∃ value, integerField time = some value := by
  by_cases refused : id = "" ∨ integerField time = none
  · exact Or.inl refused
  · rw [not_or] at refused
    exact Or.inr ⟨refused.1, Option.ne_none_iff_exists'.mp refused.2⟩

end ServerTime

/-! ## Friends -/

/-- A process on an empty database. -/
def blankClient : Client :=
  .start default {} 0

structure ServerFriend where
  userId : String := ""
  remark : String := ""
  updatedAt : Option ServerTime := none
  isDeleted : Option BooleanValue := none
  userInfo : Option UserInfoPayload := none

/-- The columns that both routes write. -/
structure FriendColumns where
  remark : String
  isDeleted : Int64
  updatedAtMs : Int64

def FriendRow.columns (row : FriendRow) : FriendColumns where
  remark := row.remark
  isDeleted := row.isDeleted
  updatedAtMs := row.updatedAtMs

namespace ServerFriend

/-- A field of type `bool`; `none` is a parse error. -/
def boolField : Option BooleanValue → Option Bool
  | none => some false
  | some (.bool value) => some value
  | some (.int64 _) | some (.double _) | some (.string _) => none

def deltaPayload (friend : ServerFriend) : Option FriendDeltaPayload := do
  let updatedAt ← ServerTime.integerField friend.updatedAt
  pure
    { userId := friend.userId
      remark := friend.remark
      updatedAt := updatedAt
      isDeleted := friend.isDeleted }

def friendPayload (friend : ServerFriend) : Option FriendPayload := do
  let isDeleted ← boolField friend.isDeleted
  pure
    { userId := friend.userId
      remark := friend.remark
      updatedAt := friend.updatedAt.map ServerTime.timestampValue
      isDeleted := isDeleted
      userInfo := friend.userInfo }

/-- The tables after a sync response with the friend, which does not get through
when it has a parse error. -/
def synced (friend : ServerFriend) (client : Client) : Db :=
  friend.deltaPayload.elim client.table fun payload => (client.mergeFriends [payload]).table

/-- The tables after a list response with the friend. -/
def listed (friend : ServerFriend) (client : Client) : Db :=
  friend.friendPayload.elim client.table fun payload => client.table.storeFriends [payload]

/-- Both routes store the same, and a merge keeps what only the list carries. -/
structure StoredAlike (friend : ServerFriend) : Prop where
  columns : ∀ client, ((friend.synced client).friends.lookup friend.userId).map FriendRow.columns =
    ((friend.listed client).friends.lookup friend.userId).map FriendRow.columns
  kept : ∀ client row, client.table.friends.lookup friend.userId = some row →
    ∃ merged, (friend.synced client).friends.lookup friend.userId = some merged ∧
      merged.friendNickname = row.friendNickname ∧ merged.friendAvatar = row.friendAvatar

/-- The deletion mark is left out or a proper boolean. -/
def MarkedPlainly (friend : ServerFriend) : Prop :=
  ∀ value ∈ friend.isDeleted, ∃ mark, value = .bool mark

/-- Both routes take the record, which has an id, a plain mark and a time that
reads alike; or both refuse it. -/
def Unambiguous (friend : ServerFriend) : Prop :=
  (friend.MarkedPlainly ∧ friend.userId ≠ "" ∧ ∀ time ∈ friend.updatedAt, time.ReadsAlike) ∨
    (¬ friend.MarkedPlainly ∧
      (friend.userId = "" ∨ ∃ value, friend.updatedAt = some (.object value)))

theorem markedPlainly_iff (friend : ServerFriend) :
    friend.MarkedPlainly ↔ ∃ mark, boolField friend.isDeleted = some mark := by
  rw [MarkedPlainly]
  cases friend.isDeleted with
  | none => simp [boolField]
  | some value => cases value <;> simp [boolField]

theorem parseBoolValue_of_boolField {value : Option BooleanValue} {mark : Bool}
    (read : boolField value = some mark) : parseBoolValue value false = mark := by
  cases value with
  | none => exact Option.some.inj read
  | some value =>
      cases value with
      | bool value => exact Option.some.inj read
      | int64 _ | double _ | string _ => exact absurd read.symm (Option.some_ne_none _)

section Routes

variable {friend : ServerFriend} (client : Client)

theorem synced_of_refused
    (refused : friend.userId = "" ∨ ServerTime.integerField friend.updatedAt = none) :
    friend.synced client = client.table := by
  rw [synced, deltaPayload]
  rcases refused with noId | noInteger
  · cases ServerTime.integerField friend.updatedAt with
    | none => rfl
    | some updatedAt => simp [Client.mergeFriends, Client.mergeFriend, noId]
  · rw [noInteger]
    rfl

theorem lookup_synced (hasId : friend.userId ≠ "") {updatedAt : Option IntegerValue}
    (accepted : ServerTime.integerField friend.updatedAt = some updatedAt) :
    (friend.synced client).friends.lookup friend.userId =
      some ((client.table.friends.lookup friend.userId).elim
        { remark := friend.remark
          updatedAtMs := parseInt64Value updatedAt 0
          isDeleted := if parseBoolValue friend.isDeleted false then 1 else 0 }
        fun row =>
          { row with
            remark := friend.remark
            updatedAtMs := parseInt64Value updatedAt 0
            isDeleted := if parseBoolValue friend.isDeleted false then 1 else 0 }) := by
  rw [synced, deltaPayload, accepted]
  change ((client.mergeFriends [_]).table).friends.lookup friend.userId = _
  rw [Client.mergeFriends, List.foldl_cons, List.foldl_nil, Client.mergeFriend, if_neg hasId,
    Client.table_execSync]
  exact (KeyTable.lookup_upsert _ _ _ _ _).trans (if_pos rfl)

theorem columns_synced (hasId : friend.userId ≠ "") {updatedAt : Option IntegerValue}
    (accepted : ServerTime.integerField friend.updatedAt = some updatedAt) :
    ((friend.synced client).friends.lookup friend.userId).map FriendRow.columns =
      some ⟨friend.remark, if parseBoolValue friend.isDeleted false then 1 else 0,
        parseInt64Value updatedAt 0⟩ := by
  rw [lookup_synced client hasId accepted]
  cases client.table.friends.lookup friend.userId <;> rfl

theorem listed_of_refused (refused : boolField friend.isDeleted = none) :
    friend.listed client = client.table := by
  rw [listed, friendPayload, refused]
  rfl

theorem columns_listed {mark : Bool} (accepted : boolField friend.isDeleted = some mark) :
    ((friend.listed client).friends.lookup friend.userId).map FriendRow.columns =
      some ⟨friend.remark, if mark then 1 else 0,
        parseTimestampMs (friend.updatedAt.map ServerTime.timestampValue)⟩ := by
  rw [listed, friendPayload, accepted]
  change Option.map _ ((client.table.friends.write friend.userId _).lookup friend.userId) = _
  rw [KeyTable.lookup_write, if_pos rfl]
  rfl

end Routes

/-- A merge keeps the name and the picture from the list, whatever the record. -/
theorem kept_synced (friend : ServerFriend) (client : Client) (row : FriendRow)
    (known : client.table.friends.lookup friend.userId = some row) :
    ∃ merged, (friend.synced client).friends.lookup friend.userId = some merged ∧
      merged.friendNickname = row.friendNickname ∧ merged.friendAvatar = row.friendAvatar := by
  rcases ServerTime.refused_or_accepted friend.userId friend.updatedAt with
    refused | ⟨hasId, updatedAt, accepted⟩
  · rw [synced_of_refused client refused]
    exact ⟨row, known, rfl, rfl⟩
  · rw [lookup_synced client hasId accepted, known]
    exact ⟨_, rfl, rfl, rfl⟩

/-- Both routes store a friend alike exactly when the record is unambiguous. -/
theorem storedAlike_iff (friend : ServerFriend) : friend.StoredAlike ↔ friend.Unambiguous := by
  have nothing : (blankClient.table.friends.lookup friend.userId).map FriendRow.columns = none :=
    rfl
  rw [Unambiguous, markedPlainly_iff]
  cases marked : boolField friend.isDeleted with
  | none =>
      have noMark : ¬ ∃ mark, (none : Option Bool) = some mark := by simp
      rw [← ServerTime.integerField_eq_none_iff, iff_false_intro noMark, false_and, false_or,
        not_false_eq_true, true_and]
      constructor
      · intro alike
        rcases ServerTime.refused_or_accepted friend.userId friend.updatedAt with
          refused | ⟨hasId, updatedAt, accepted⟩
        · exact refused
        · have same := alike.columns blankClient
          rw [columns_synced _ hasId accepted, listed_of_refused _ marked, nothing] at same
          exact absurd same (Option.some_ne_none _)
      · intro refused
        constructor
        · intro client
          rw [synced_of_refused client refused, listed_of_refused client marked]
        · exact kept_synced friend
  | some mark =>
      have isMarked : ∃ other, some mark = some other := ⟨mark, rfl⟩
      rw [iff_true_intro isMarked, true_and, not_true_eq_false, false_and, or_false]
      constructor
      · intro alike
        have same := alike.columns blankClient
        rw [columns_listed _ marked] at same
        rcases ServerTime.refused_or_accepted friend.userId friend.updatedAt with
          refused | ⟨hasId, updatedAt, accepted⟩
        · rw [synced_of_refused _ refused, nothing] at same
          exact absurd same.symm (Option.some_ne_none _)
        · rw [columns_synced _ hasId accepted] at same
          have sameTime := congrArg FriendColumns.updatedAtMs (Option.some.inj same)
          exact ⟨hasId, (ServerTime.parse_field_eq_iff accepted).mp sameTime⟩
      · rintro ⟨hasId, readsAlike⟩
        constructor
        · intro client
          cases accepted : ServerTime.integerField friend.updatedAt with
          | none =>
              obtain ⟨value, isObject⟩ := ServerTime.integerField_eq_none_iff.mp accepted
              exact absurd (readsAlike _ isObject) id
          | some updatedAt =>
              rw [columns_synced client hasId accepted, columns_listed client marked,
                parseBoolValue_of_boolField marked,
                (ServerTime.parse_field_eq_iff accepted).mpr readsAlike]
        · exact kept_synced friend

end ServerFriend

/-! ## Groups -/

structure ServerGroup where
  groupId : String := ""
  name : String := ""
  displayName : String := ""
  avatar : String := ""
  announcement : String := ""
  description : String := ""
  ownerId : String := ""
  memberCount : Option IntegerValue := none
  maxMembers : Option IntegerValue := none
  myRole : Option IntegerValue := none
  joinVerify : Option BooleanValue := none
  isMuted : Option BooleanValue := none
  createdAt : Option ServerTime := none
  updatedAt : Option ServerTime := none

/-- The columns that both routes write. -/
structure GroupColumns where
  name : String
  avatarUrl : String
  memberCount : Int64
  updatedAtMs : Int64

def GroupRow.columns (row : GroupRow) : GroupColumns where
  name := row.name
  avatarUrl := row.avatarUrl
  memberCount := row.memberCount
  updatedAtMs := row.updatedAtMs

namespace ServerGroup

def deltaPayload (group : ServerGroup) : Option GroupDeltaPayload := do
  let updatedAt ← ServerTime.integerField group.updatedAt
  pure
    { groupId := group.groupId
      name := group.name
      avatar := group.avatar
      updatedAt := updatedAt
      memberCount := group.memberCount }

def groupPayload (group : ServerGroup) : GroupPayload where
  groupId := group.groupId
  name := group.name
  displayName := group.displayName
  avatar := group.avatar
  announcement := group.announcement
  description := group.description
  ownerId := group.ownerId
  memberCount := group.memberCount
  maxMembers := group.maxMembers
  myRole := group.myRole
  joinVerify := group.joinVerify
  isMuted := group.isMuted
  createdAt := group.createdAt.map ServerTime.timestampValue
  updatedAt := group.updatedAt.map ServerTime.timestampValue

def synced (group : ServerGroup) (client : Client) : Db :=
  group.deltaPayload.elim client.table fun payload => (client.mergeGroups [payload]).table

def listed (group : ServerGroup) (client : Client) : Db :=
  client.table.storeGroups [group.groupPayload]

/-- Both routes store the same, and a merge keeps what only the list carries. -/
structure StoredAlike (group : ServerGroup) : Prop where
  columns : ∀ client, ((group.synced client).groups.lookup group.groupId).map GroupRow.columns =
    ((group.listed client).groups.lookup group.groupId).map GroupRow.columns
  kept : ∀ client row, client.table.groups.lookup group.groupId = some row →
    ∃ merged, (group.synced client).groups.lookup group.groupId = some merged ∧
      merged.ownerId = row.ownerId ∧ merged.myRole = row.myRole

/-- The group has an id, a name or no name to show instead, a number of members
within 32 bits and a time that reads alike. -/
structure Unambiguous (group : ServerGroup) : Prop where
  hasId : group.groupId ≠ ""
  named : group.name ≠ "" ∨ group.displayName = ""
  counted : Int32.minValue.toInt64 ≤ parseInt64Value group.memberCount 0 ∧
    parseInt64Value group.memberCount 0 ≤ Int32.maxValue.toInt64
  updated : ∀ time ∈ group.updatedAt, time.ReadsAlike

/-- Numbers within 32 bits are not cut. -/
theorem toInt64_toInt32_eq_iff (value : Int64) :
    value.toInt32.toInt64 = value ↔
      Int32.minValue.toInt64 ≤ value ∧ value ≤ Int32.maxValue.toInt64 := by
  rw [← Int64.toInt_inj, Int32.toInt_toInt64, Int64.toInt_toInt32, Int64.le_iff_toInt_le,
    Int64.le_iff_toInt_le]
  change value.toInt.bmod 4294967296 = value.toInt ↔
    -2147483648 ≤ value.toInt ∧ value.toInt ≤ 2147483647
  rw [Int.bmod_def]
  split <;> omega

section Routes

variable {group : ServerGroup} (client : Client)

theorem synced_of_refused
    (refused : group.groupId = "" ∨ ServerTime.integerField group.updatedAt = none) :
    group.synced client = client.table := by
  rw [synced, deltaPayload]
  rcases refused with noId | noInteger
  · cases ServerTime.integerField group.updatedAt with
    | none => rfl
    | some updatedAt => simp [Client.mergeGroups, Client.mergeGroup, noId]
  · rw [noInteger]
    rfl

theorem lookup_synced (hasId : group.groupId ≠ "") {updatedAt : Option IntegerValue}
    (accepted : ServerTime.integerField group.updatedAt = some updatedAt) :
    (group.synced client).groups.lookup group.groupId =
      some ((client.table.groups.lookup group.groupId).elim
        { name := group.name
          avatarUrl := group.avatar
          memberCount := parseInt64Value group.memberCount 0
          updatedAtMs := parseInt64Value updatedAt 0 }
        fun row =>
          { row with
            name := group.name
            avatarUrl := group.avatar
            memberCount := parseInt64Value group.memberCount 0
            updatedAtMs := parseInt64Value updatedAt 0 }) := by
  rw [synced, deltaPayload, accepted]
  change ((client.mergeGroups [_]).table).groups.lookup group.groupId = _
  rw [Client.mergeGroups, List.foldl_cons, List.foldl_nil, Client.mergeGroup, if_neg hasId,
    Client.table_execSync]
  exact (KeyTable.lookup_upsert _ _ _ _ _).trans (if_pos rfl)

theorem columns_synced (hasId : group.groupId ≠ "") {updatedAt : Option IntegerValue}
    (accepted : ServerTime.integerField group.updatedAt = some updatedAt) :
    ((group.synced client).groups.lookup group.groupId).map GroupRow.columns =
      some ⟨group.name, group.avatar, parseInt64Value group.memberCount 0,
        parseInt64Value updatedAt 0⟩ := by
  rw [lookup_synced client hasId accepted]
  cases client.table.groups.lookup group.groupId <;> rfl

theorem columns_listed (group : ServerGroup) :
    ((group.listed client).groups.lookup group.groupId).map GroupRow.columns =
      some ⟨if group.name = "" then group.displayName else group.name, group.avatar,
        (parseInt64Value group.memberCount 0).toInt32.toInt64,
        parseTimestampMs (group.updatedAt.map ServerTime.timestampValue)⟩ := by
  change Option.map _ ((client.table.groups.write group.groupId _).lookup group.groupId) = _
  rw [KeyTable.lookup_write, if_pos rfl]
  rfl

end Routes

/-- A merge keeps the owner and the role from the list, whatever the record. -/
theorem kept_synced (group : ServerGroup) (client : Client) (row : GroupRow)
    (known : client.table.groups.lookup group.groupId = some row) :
    ∃ merged, (group.synced client).groups.lookup group.groupId = some merged ∧
      merged.ownerId = row.ownerId ∧ merged.myRole = row.myRole := by
  rcases ServerTime.refused_or_accepted group.groupId group.updatedAt with
    refused | ⟨hasId, updatedAt, accepted⟩
  · rw [synced_of_refused client refused]
    exact ⟨row, known, rfl, rfl⟩
  · rw [lookup_synced client hasId accepted, known]
    exact ⟨_, rfl, rfl, rfl⟩

/-- The two names are the same unless only the one to show is there. -/
theorem shownName_eq_iff (group : ServerGroup) :
    group.name = (if group.name = "" then group.displayName else group.name) ↔
      group.name ≠ "" ∨ group.displayName = "" := by
  split
  · next noName =>
      rw [noName, ne_self_iff_false, false_or]
      exact eq_comm
  · next hasName => exact iff_of_true rfl (.inl hasName)

/-- Both routes store a group alike exactly when the record is unambiguous. -/
theorem storedAlike_iff (group : ServerGroup) : group.StoredAlike ↔ group.Unambiguous := by
  have nothing : (blankClient.table.groups.lookup group.groupId).map
      GroupRow.columns = none := rfl
  constructor
  · intro alike
    have same := alike.columns blankClient
    rw [columns_listed] at same
    rcases ServerTime.refused_or_accepted group.groupId group.updatedAt with
      refused | ⟨hasId, updatedAt, accepted⟩
    · rw [synced_of_refused _ refused, nothing] at same
      exact absurd same.symm (Option.some_ne_none _)
    · rw [columns_synced _ hasId accepted] at same
      have sameColumns := Option.some.inj same
      constructor
      · exact hasId
      · exact (shownName_eq_iff group).mp (congrArg GroupColumns.name sameColumns)
      · exact (toInt64_toInt32_eq_iff _).mp (congrArg GroupColumns.memberCount sameColumns).symm
      · exact (ServerTime.parse_field_eq_iff accepted).mp
          (congrArg GroupColumns.updatedAtMs sameColumns)
  · intro unambiguous
    constructor
    · intro client
      cases accepted : ServerTime.integerField group.updatedAt with
      | none =>
          obtain ⟨value, isObject⟩ := ServerTime.integerField_eq_none_iff.mp accepted
          exact absurd (unambiguous.updated _ isObject) id
      | some updatedAt =>
          rw [columns_synced client unambiguous.hasId accepted, columns_listed,
            ← (shownName_eq_iff group).mpr unambiguous.named,
            (toInt64_toInt32_eq_iff _).mpr unambiguous.counted,
            (ServerTime.parse_field_eq_iff accepted).mpr unambiguous.updated]
    · exact kept_synced group

end ServerGroup

/-- Exactly the unambiguous records of friends and groups are stored alike. -/
theorem storedAlike_iff_unambiguous (friend : ServerFriend) (group : ServerGroup) :
    (friend.StoredAlike ↔ friend.Unambiguous) ∧ (group.StoredAlike ↔ group.Unambiguous) :=
  ⟨friend.storedAlike_iff, group.storedAlike_iff⟩

/-- A friend changed in November 2023, told in Unix seconds. -/
def novemberFriend : ServerFriend where
  userId := "u1"
  updatedAt := some (.number 1700000000)

theorem not_storedAlike_novemberFriend :
    ((novemberFriend.synced blankClient).friends.lookup "u1").map
        FriendRow.updatedAtMs = some 1700000000 ∧
      ((novemberFriend.listed blankClient).friends.lookup "u1").map
        FriendRow.updatedAtMs = some 1700000000000 ∧
      ¬ novemberFriend.StoredAlike := by
  refine ⟨rfl, rfl, ?_⟩
  intro alike
  have same := alike.columns blankClient
  have sameTime : (1700000000 : Int64) = 1700000000000 :=
    congrArg FriendColumns.updatedAtMs (Option.some.inj same)
  exact absurd sameTime (by decide)

end AnychatSdk
