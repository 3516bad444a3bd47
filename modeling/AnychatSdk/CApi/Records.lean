import AnychatSdk.ContactRoutes
import AnychatSdk.Lib.Utf8

/-!
# Records of the C API

A record goes to a caller of the C API as a struct with arrays of fixed size.  Text
is copied byte by byte until the array is full, wherever that is in a character,
and ids are copied like any other text.
-/

namespace AnychatSdk.CApi

open Utf8

/-! ## Arrays of characters -/

/-- `anychat_strlcpy`, for a source with a NUL behind its last byte. -/
def anychatStrlcpy : List UInt8 → List UInt8 → List UInt8
  | [], _ => []
  | [_], _ => [0]
  | _ :: next :: dst, [] => 0 :: next :: dst
  | _ :: next :: dst, ch :: src =>
      if ch = 0 then 0 :: next :: dst else ch :: anychatStrlcpy (next :: dst) src

theorem length_anychatStrlcpy (dst src : List UInt8) :
    (anychatStrlcpy dst src).length = dst.length := by
  fun_induction anychatStrlcpy dst src with
  | case1 => rfl
  | case2 => rfl
  | case3 => rfl
  | case4 => rfl
  | case5 _ _ _ _ _ _ inductionHypothesis => exact congrArg (· + 1) inductionHypothesis

/-- A member `char name[size]` of a struct. -/
structure CharArray (size : Nat) where
  bytes : List UInt8
  length_eq : bytes.length = size

namespace CharArray

variable {size : Nat}

/-- The array in a struct that is initialised with zeros. -/
def zero (size : Nat) : CharArray size where
  bytes := List.replicate size 0
  length_eq := List.length_replicate

def strlcpy (dst : CharArray size) (src : String) : CharArray size where
  bytes := anychatStrlcpy dst.bytes (encode src)
  length_eq := (length_anychatStrlcpy _ _).trans dst.length_eq

/-- What a reader of the array sees. -/
def text (array : CharArray size) : List UInt8 :=
  array.bytes.takeWhile (· ≠ 0)

def IsTerminated (array : CharArray size) : Prop :=
  0 ∈ array.bytes

end CharArray

/-- The heap copy that `anychat_strdup` makes. -/
def anychatStrdup (src : String) : List UInt8 :=
  (encode src).takeWhile (· ≠ 0)

/-! ## Structs -/

def boolToInt (flag : Bool) : Int32 :=
  if flag then 1 else 0

structure ConversationC where
  convId : CharArray 64
  convType : Int32
  targetId : CharArray 64
  lastMsgId : CharArray 64
  lastMsgText : CharArray 512
  lastMsgTimeMs : Int64
  unreadCount : Int32
  isPinned : Int32
  isMuted : Int32
  burnAfterReading : Int32
  autoDeleteDuration : Int32
  updatedAtMs : Int64

/-- The struct that a listener is called with before it is filled. -/
def ConversationC.zero : ConversationC where
  convId := .zero 64
  convType := 0
  targetId := .zero 64
  lastMsgId := .zero 64
  lastMsgText := .zero 512
  lastMsgTimeMs := 0
  unreadCount := 0
  isPinned := 0
  isMuted := 0
  burnAfterReading := 0
  autoDeleteDuration := 0
  updatedAtMs := 0

def convToCStruct (src : Conversation) (dst : ConversationC) : ConversationC where
  convId := dst.convId.strlcpy src.convId
  targetId := dst.targetId.strlcpy src.targetId
  lastMsgId := dst.lastMsgId.strlcpy src.lastMsgId
  lastMsgText := dst.lastMsgText.strlcpy src.lastMsgText
  convType := if src.convType = .Private then 0 else 1
  lastMsgTimeMs := src.lastMsgTimeMs
  unreadCount := src.unreadCount
  isPinned := boolToInt src.isPinned
  isMuted := boolToInt src.isMuted
  burnAfterReading := src.burnAfterReading
  autoDeleteDuration := src.autoDeleteDuration
  updatedAtMs := src.updatedAtMs

def messageTypeCode : MessageType → Int32
  | .text => 0
  | .image => 1
  | .file => 2
  | .audio => 3
  | .video => 4

structure MessageC where
  messageId : CharArray 64
  localId : CharArray 64
  convId : CharArray 64
  senderId : CharArray 64
  contentType : Int32
  type : Int32
  content : List UInt8
  seq : Int64
  replyTo : CharArray 64
  timestampMs : Int64
  status : Int32
  sendState : Int32
  isRead : Int32

def messageToCStruct (src : Message) (dst : MessageC) : MessageC where
  messageId := dst.messageId.strlcpy src.messageId
  localId := dst.localId.strlcpy src.localId
  convId := dst.convId.strlcpy src.convId
  senderId := dst.senderId.strlcpy src.senderId
  contentType := src.contentType
  replyTo := dst.replyTo.strlcpy src.replyTo
  type := messageTypeCode src.type
  seq := src.seq
  timestampMs := src.timestampMs
  status := src.status
  sendState := src.sendState
  isRead := boolToInt src.isRead
  content := anychatStrdup src.content

structure UserInfoC where
  userId : CharArray 64
  username : CharArray 128
  avatarUrl : CharArray 512
  signature : CharArray 256
  gender : Int32
  region : CharArray 64
  isFriend : Int32
  isBlocked : Int32

def userInfoToC (src : UserInfo) (dst : UserInfoC) : UserInfoC where
  userId := dst.userId.strlcpy src.userId
  username := dst.username.strlcpy src.username
  avatarUrl := dst.avatarUrl.strlcpy src.avatarUrl
  signature := dst.signature.strlcpy src.signature
  gender := src.gender
  region := dst.region.strlcpy src.region
  isFriend := boolToInt src.isFriend
  isBlocked := boolToInt src.isBlocked

structure FriendC where
  userId : CharArray 64
  remark : CharArray 128
  updatedAtMs : Int64
  isDeleted : Int32
  userInfo : UserInfoC

def friendToC (src : Friend) (dst : FriendC) : FriendC where
  userId := dst.userId.strlcpy src.userId
  remark := dst.remark.strlcpy src.remark
  updatedAtMs := src.updatedAtMs
  isDeleted := boolToInt src.isDeleted
  userInfo := userInfoToC src.userInfo dst.userInfo

/-- A group with the remark, which no decoder sets. -/
structure GroupRecord extends Group where
  groupRemark : String

structure GroupC where
  groupId : CharArray 64
  name : CharArray 128
  avatarUrl : CharArray 512
  ownerId : CharArray 64
  memberCount : Int32
  myRole : Int32
  joinVerify : Int32
  updatedAtMs : Int64
  displayName : CharArray 128
  announcement : CharArray 512
  description : CharArray 512
  groupRemark : CharArray 64
  maxMembers : Int32
  isMuted : Int32
  createdAtMs : Int64

def groupToC (src : GroupRecord) (dst : GroupC) : GroupC where
  groupId := dst.groupId.strlcpy src.groupId
  name := dst.name.strlcpy src.name
  avatarUrl := dst.avatarUrl.strlcpy src.avatarUrl
  ownerId := dst.ownerId.strlcpy src.ownerId
  memberCount := src.memberCount
  myRole := src.myRole.code
  joinVerify := boolToInt src.joinVerify
  updatedAtMs := src.updatedAtMs
  displayName := dst.displayName.strlcpy src.displayName
  announcement := dst.announcement.strlcpy src.announcement
  description := dst.description.strlcpy src.description
  groupRemark := dst.groupRemark.strlcpy src.groupRemark
  maxMembers := src.maxMembers
  isMuted := boolToInt src.isMuted
  createdAtMs := src.createdAtMs

/-! ## Fields -/

/-- An array of a struct and the text of the record that is copied into it. -/
structure Field where
  size : Nat
  array : CharArray size
  source : String

namespace Field

/-- The field shows valid UTF-8 from the start of the source. -/
structure ShowsText (field : Field) : Prop where
  terminated : field.array.IsTerminated
  valid : field.array.text.toByteArray.IsValidUTF8
  startsSource : field.array.text <+: encode field.source

/-- The field shows the source, so that it can be passed back. -/
structure ShowsId (field : Field) : Prop where
  terminated : field.array.IsTerminated
  whole : field.array.text = encode field.source

/-- The first byte that no longer fits begins a character, if there is one before a NUL. -/
def CutsBetweenCharacters (field : Field) : Prop :=
  ∀ byte ∈ (encode (cString field.source))[field.size - 1]?, byte.IsUTF8FirstByte

/-- The source leaves room for the terminator and has none of its own. -/
def HoldsWhole (field : Field) : Prop :=
  NulFree field.source ∧ (encode field.source).length < field.size

/-- The field was written by `anychat_strlcpy`. -/
def IsCopied (field : Field) : Prop :=
  0 < field.size ∧ ∃ dst : CharArray field.size, field.array = dst.strlcpy field.source

end Field

/-- One of the records, with what the memory of its struct held before. -/
inductive Record where
  | conversation (src : Conversation) (dst : ConversationC)
  | message (src : Message) (dst : MessageC)
  | friend (src : Friend) (dst : FriendC)
  | group (src : GroupRecord) (dst : GroupC)

namespace Record

/-- The ids in the struct of the record. -/
def ids : Record → List Field
  | conversation src dst =>
      let shown := convToCStruct src dst
      [⟨_, shown.convId, src.convId⟩, ⟨_, shown.targetId, src.targetId⟩,
        ⟨_, shown.lastMsgId, src.lastMsgId⟩]
  | message src dst =>
      let shown := messageToCStruct src dst
      [⟨_, shown.messageId, src.messageId⟩, ⟨_, shown.localId, src.localId⟩,
        ⟨_, shown.convId, src.convId⟩, ⟨_, shown.senderId, src.senderId⟩,
        ⟨_, shown.replyTo, src.replyTo⟩]
  | friend src dst =>
      let shown := friendToC src dst
      [⟨_, shown.userId, src.userId⟩, ⟨_, shown.userInfo.userId, src.userInfo.userId⟩]
  | group src dst =>
      let shown := groupToC src dst
      [⟨_, shown.groupId, src.groupId⟩, ⟨_, shown.ownerId, src.ownerId⟩]

/-- The other texts. -/
def texts : Record → List Field
  | conversation src dst =>
      let shown := convToCStruct src dst
      [⟨_, shown.lastMsgText, src.lastMsgText⟩]
  | message _ _ => []
  | friend src dst =>
      let shown := friendToC src dst
      [⟨_, shown.remark, src.remark⟩, ⟨_, shown.userInfo.username, src.userInfo.username⟩,
        ⟨_, shown.userInfo.avatarUrl, src.userInfo.avatarUrl⟩,
        ⟨_, shown.userInfo.signature, src.userInfo.signature⟩,
        ⟨_, shown.userInfo.region, src.userInfo.region⟩]
  | group src dst =>
      let shown := groupToC src dst
      [⟨_, shown.name, src.name⟩, ⟨_, shown.avatarUrl, src.avatarUrl⟩,
        ⟨_, shown.displayName, src.displayName⟩, ⟨_, shown.announcement, src.announcement⟩,
        ⟨_, shown.description, src.description⟩, ⟨_, shown.groupRemark, src.groupRemark⟩]

/-- Texts are valid and ids can be passed back.  No converter rejects a record. -/
structure IsCarried (record : Record) : Prop where
  texts : ∀ field ∈ record.texts, field.ShowsText
  ids : ∀ field ∈ record.ids, field.ShowsId

structure Fits (record : Record) : Prop where
  texts : ∀ field ∈ record.texts, field.CutsBetweenCharacters
  ids : ∀ field ∈ record.ids, field.HoldsWhole

end Record

/-! ## Copying -/

theorem zero_mem_anychatStrlcpy {dst : List UInt8} (room : dst ≠ []) (src : List UInt8) :
    0 ∈ anychatStrlcpy dst src := by
  fun_induction anychatStrlcpy dst src with
  | case1 => exact absurd rfl room
  | case2 => exact List.mem_cons_self
  | case3 => exact List.mem_cons_self
  | case4 => exact List.mem_cons_self
  | case5 _ _ _ _ _ _ inductionHypothesis =>
      exact List.mem_cons_of_mem _ (inductionHypothesis (List.cons_ne_nil _ _))

/-- A reader sees as much of the source as fits in front of the terminator. -/
theorem takeWhile_anychatStrlcpy (dst src : List UInt8) :
    (anychatStrlcpy dst src).takeWhile (· ≠ 0) =
      (src.takeWhile (· ≠ 0)).take (dst.length - 1) := by
  fun_induction anychatStrlcpy dst src with
  | case1 => simp
  | case2 => simp
  | case3 => simp
  | case4 => simp
  | case5 _ next dst ch src notNul inductionHypothesis =>
      rw [List.takeWhile_cons_of_pos (by simpa using notNul), inductionHypothesis,
        List.takeWhile_cons_of_pos (by simpa using notNul)]
      rfl

theorem encode_cString (text : String) :
    encode (cString text) = (encode text).takeWhile (· ≠ 0) := by
  have nul : Char.ofNat (0 : UInt8).toNat = '\x00' := by decide
  rw [takeWhile_encode (by decide), nul]
  rfl

theorem nulFree_iff_zero_not_mem (text : String) : NulFree text ↔ 0 ∉ encode text := by
  have nul : Char.ofNat (0 : UInt8).toNat = '\x00' := by decide
  rw [mem_encode_iff (by decide), nul]
  constructor
  · exact fun free member => free _ member rfl
  · rintro absent char member rfl
    exact absent member

namespace CharArray

variable {size : Nat}

theorem text_strlcpy (dst : CharArray size) (src : String) :
    (dst.strlcpy src).text = (encode (cString src)).take (size - 1) := by
  rw [text, strlcpy, takeWhile_anychatStrlcpy, dst.length_eq, encode_cString]

theorem isTerminated_strlcpy (dst : CharArray size) (room : 0 < size) (src : String) :
    (dst.strlcpy src).IsTerminated := by
  refine zero_mem_anychatStrlcpy ?_ _
  intro empty
  have noRoom := dst.length_eq
  rw [empty] at noRoom
  exact absurd noRoom (Nat.ne_of_lt room)

end CharArray

namespace Field

theorem isCopied_strlcpy {size : Nat} (room : 0 < size) (dst : CharArray size) (src : String) :
    IsCopied ⟨size, dst.strlcpy src, src⟩ :=
  ⟨room, dst, rfl⟩

theorem showsText_iff {field : Field} (copied : field.IsCopied) :
    field.ShowsText ↔ field.CutsBetweenCharacters := by
  rcases copied with ⟨room, dst, isCopy⟩
  have shown := dst.text_strlcpy field.source
  rw [← isCopy] at shown
  rw [CutsBetweenCharacters, ← isValidUTF8_take_iff, ← shown]
  constructor
  · exact ShowsText.valid
  · intro valid
    constructor
    · rw [isCopy]
      exact dst.isTerminated_strlcpy room _
    · exact valid
    · rw [shown, encode_cString]
      exact (List.take_prefix _ _).trans (List.takeWhile_prefix _)

theorem showsId_iff {field : Field} (copied : field.IsCopied) :
    field.ShowsId ↔ field.HoldsWhole := by
  rcases copied with ⟨room, dst, isCopy⟩
  have shown := dst.text_strlcpy field.source
  rw [← isCopy] at shown
  constructor
  · intro showsId
    have whole := shown.symm.trans showsId.whole
    have noNul : 0 ∉ encode field.source := by
      intro member
      rw [← whole, encode_cString] at member
      simpa using List.mem_takeWhile_imp (List.mem_of_mem_take member)
    constructor
    · exact (nulFree_iff_zero_not_mem _).mpr noNul
    · have cut := congrArg List.length whole
      rw [List.length_take] at cut
      omega
  · intro holds
    constructor
    · rw [isCopy]
      exact dst.isTerminated_strlcpy room _
    · rw [shown, cString_eq_self holds.1]
      exact List.take_of_length_le (Nat.le_sub_one_of_lt holds.2)

end Field

namespace Record

theorem isCopied (record : Record) :
    (∀ field ∈ record.texts, field.IsCopied) ∧ ∀ field ∈ record.ids, field.IsCopied := by
  cases record with
  | conversation src dst => simp [texts, ids, convToCStruct, Field.isCopied_strlcpy]
  | message src dst => simp [texts, ids, messageToCStruct, Field.isCopied_strlcpy]
  | friend src dst => simp [texts, ids, friendToC, userInfoToC, Field.isCopied_strlcpy]
  | group src dst => simp [texts, ids, groupToC, Field.isCopied_strlcpy]

/-- A record is carried over exactly if its texts are cut between characters and its ids fit. -/
theorem isCarried_iff_fits (record : Record) : record.IsCarried ↔ record.Fits := by
  rcases record.isCopied with ⟨texts, ids⟩
  constructor
  · intro carried
    constructor
    · intro field listed
      exact (Field.showsText_iff (texts field listed)).mp (carried.texts field listed)
    · intro field listed
      exact (Field.showsId_iff (ids field listed)).mp (carried.ids field listed)
  · intro fits
    constructor
    · intro field listed
      exact (Field.showsText_iff (texts field listed)).mpr (fits.texts field listed)
    · intro field listed
      exact (Field.showsId_iff (ids field listed)).mpr (fits.ids field listed)

end Record

/-- An id of 64 bytes loses its last one. -/
theorem not_isCarried_longId :
    ¬(Record.conversation { convId := String.ofList (List.replicate 64 'a') } .zero).IsCarried := by
  intro carried
  have shown := carried.ids _ List.mem_cons_self
  have holds := (Field.showsId_iff (Field.isCopied_strlcpy (by decide) _ _)).mp shown
  have length : (encode (String.ofList (List.replicate 64 'a'))).length = 64 := by
    rw [encode_eq, String.toList_ofList]
    decide
  exact absurd holds.2 (by change ¬(encode _).length < 64; rw [length]; decide)

end AnychatSdk.CApi
