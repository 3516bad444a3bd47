import AnychatSdk.CApi.Records
import AnychatSdk.Lib.Heap

/-!
# Memory of the C API

Lists go to a caller as arrays on the C heap, and texts of any length as copies
of their own that the items of an array point to.  Here is what fills such an
array and what frees it, with the blocks that are held in between.
-/

namespace AnychatSdk.CApi

open Heap (KeepsOn)

/-- A struct in an array, with the member that points to a text if it has one. -/
structure CItem (δ : Type) where
  record : δ
  content : Option Nat := none

inductive CBlock (δ : Type) where
  | text (bytes : List UInt8)
  | array (items : List (CItem δ))

namespace CBlock

variable {δ : Type}

def items : CBlock δ → List (CItem δ)
  | text _ => []
  | array items => items

/-- The pointer in one of the items. -/
def content (index : Nat) (block : CBlock δ) : Option Nat :=
  block.items[index]?.bind CItem.content

/-- Write to one of the items. -/
def change (index : Nat) (write : CItem δ → CItem δ) : CBlock δ → CBlock δ
  | text bytes => text bytes
  | array items => array (items.modify index write)

end CBlock

abbrev CHeap (δ : Type) := Heap (CBlock δ)

/-- The members `items` and `count` of a list struct. -/
structure CArray where
  items : Option Nat := none
  count : Int32 := 0

/-- The number of items that the loops over an array visit. -/
def CArray.length (array : CArray) : Nat :=
  array.count.toInt.toNat

/-- How the items of a list are filled, and whether its texts are freed with it. -/
structure CConverter (α δ : Type) where
  /-- The bytes of `calloc` -/
  zero : δ
  convert : α → δ → δ
  /-- The text that a member points to a copy of -/
  text? : α → Option String
  /-- Whether the function that frees the list loops over its items -/
  hasTexts : Bool
  textless : hasTexts = false → ∀ value, text? value = none

/-! ## Filling -/

section Fill

variable {α δ : Type} (allocator : HeapAllocator (CBlock δ)) (converter : CConverter α δ)

/-- `anychat_strdup`. -/
def anychatStrdupOnHeap (text : String) (heap : CHeap δ) : Option Nat × CHeap δ :=
  heap.malloc allocator (.text (anychatStrdup text))

/-- The converter on an item of an array. -/
def fillItem (items : Option Nat) (index : Nat) (value : α) (heap : CHeap δ) :
    Except HeapFault (CHeap δ) := do
  let heap ← heap.store items
    (.change index fun item => { item with record := converter.convert value item.record })
  match converter.text? value with
  | none => .ok heap
  | some text =>
      let (content, heap) := anychatStrdupOnHeap allocator text heap
      heap.store items (.change index fun item => { item with content := content })

def fillItems (items : Option Nat) : Nat → List α → CHeap δ → Except HeapFault (CHeap δ)
  | _, [], heap => .ok heap
  | index, value :: values, heap => do
      let heap ← fillItem allocator converter items index value heap
      fillItems items (index + 1) values heap

/-- `fillMessageArray`, and what the other lists do in its place.  The size of the
vector is cut to an `int`, and an empty list has no array. -/
def fillArray (values : List α) (heap : CHeap δ) : Except HeapFault (CArray × CHeap δ) := do
  let count := Int32.ofNat values.length
  let length := CArray.length { count := count }
  let (items, heap) :=
    if 0 < count then
      heap.malloc allocator (.array (List.replicate length { record := converter.zero }))
    else (none, heap)
  let heap ← fillItems allocator converter items 0 (values.take length) heap
  .ok ({ items := items, count := count }, heap)

/-- All arrays of a result. -/
def fillArrays : List (List α) → CHeap δ → Except HeapFault (List CArray × CHeap δ)
  | [], heap => .ok ([], heap)
  | values :: lists, heap => do
      let (array, heap) ← fillArray allocator converter values heap
      let (arrays, heap) ← fillArrays lists heap
      .ok (array :: arrays, heap)

end Fill

/-! ## Freeing -/

section Free

variable {δ : Type}

/-- The loop over the texts of an array. -/
def freeContents (items : Option Nat) : Nat → Nat → CHeap δ → Except HeapFault (CHeap δ)
  | _, 0, heap => .ok heap
  | index, left + 1, heap => do
      let block ← heap.load items
      let heap ← heap.free (block.content index)
      freeContents items (index + 1) left heap

/-- Only lists whose items have texts loop over them. -/
def freeTexts (hasTexts : Bool) (array : CArray) (heap : CHeap δ) : Except HeapFault (CHeap δ) :=
  if hasTexts then freeContents array.items 0 array.length heap else .ok heap

/-- `anychat_free_message_list` and the other functions for lists. -/
def freeArray (hasTexts : Bool) (array : CArray) (heap : CHeap δ) :
    Except HeapFault (CArray × CHeap δ) := do
  let heap ← freeTexts hasTexts array heap
  let heap ← heap.free array.items
  .ok ({}, heap)

def freeArrays (hasTexts : Bool) :
    List CArray → CHeap δ → Except HeapFault (List CArray × CHeap δ)
  | [], heap => .ok ([], heap)
  | array :: arrays, heap => do
      let (array, heap) ← freeArray hasTexts array heap
      let (arrays, heap) ← freeArrays hasTexts arrays heap
      .ok (array :: arrays, heap)

/-- `anychat_free_message`, on an item of an array. -/
def anychatFreeMessage (items : Option Nat) (index : Nat) (heap : CHeap δ) :
    Except HeapFault (CHeap δ) := do
  let block ← heap.load items
  let heap ← heap.free (block.content index)
  heap.store items (.change index fun item => { item with content := none })

end Free

/-! ## Structs in arrays -/

def MessageC.zero : MessageC where
  messageId := .zero 64
  localId := .zero 64
  convId := .zero 64
  senderId := .zero 64
  contentType := 0
  type := 0
  content := []
  seq := 0
  replyTo := .zero 64
  timestampMs := 0
  status := 0
  sendState := 0
  isRead := 0

def UserInfoC.zero : UserInfoC where
  userId := .zero 64
  username := .zero 128
  avatarUrl := .zero 512
  signature := .zero 256
  gender := 0
  region := .zero 64
  isFriend := 0
  isBlocked := 0

def FriendC.zero : FriendC where
  userId := .zero 64
  remark := .zero 128
  updatedAtMs := 0
  isDeleted := 0
  userInfo := .zero

def GroupC.zero : GroupC where
  groupId := .zero 64
  name := .zero 128
  avatarUrl := .zero 512
  ownerId := .zero 64
  memberCount := 0
  myRole := 0
  joinVerify := 0
  updatedAtMs := 0
  displayName := .zero 128
  announcement := .zero 512
  description := .zero 512
  groupRemark := .zero 64
  maxMembers := 0
  isMuted := 0
  createdAtMs := 0

inductive CStruct where
  | conversation (struct : ConversationC)
  | message (struct : MessageC)
  | friend (struct : FriendC)
  | group (struct : GroupC)
  | user (struct : UserInfoC)
  /-- `char*`, which is all text -/
  | string

/-- The text of a message is in a block of its own. -/
def messageConverter : CConverter Message CStruct where
  zero := .message .zero
  convert src
    | .message dst => .message { messageToCStruct src dst with content := dst.content }
    | other => other
  text? src := some src.content
  hasTexts := true
  textless := nofun

/-- The ids in a `AnyChatConversationMarkReadResult_C`. -/
def idConverter : CConverter String CStruct where
  zero := .string
  convert _ dst := dst
  text? := some
  hasTexts := true
  textless := nofun

/-- A list of structs that point to nothing. -/
def flatConverter {α : Type} (zero : CStruct) (convert : α → CStruct → CStruct) :
    CConverter α CStruct where
  zero := zero
  convert := convert
  text? _ := none
  hasTexts := false
  textless _ _ := rfl

def convConverter : CConverter Conversation CStruct :=
  flatConverter (.conversation .zero) fun src dst =>
    match dst with
    | .conversation dst => .conversation (convToCStruct src dst)
    | other => other

def userConverter : CConverter UserInfo CStruct :=
  flatConverter (.user .zero) fun src dst =>
    match dst with
    | .user dst => .user (userInfoToC src dst)
    | other => other

def friendConverter : CConverter Friend CStruct :=
  flatConverter (.friend .zero) fun src dst =>
    match dst with
    | .friend dst => .friend (friendToC src dst)
    | other => other

def groupConverter : CConverter GroupRecord CStruct :=
  flatConverter (.group .zero) fun src dst =>
    match dst with
    | .group dst => .group (groupToC src dst)
    | other => other

end AnychatSdk.CApi
