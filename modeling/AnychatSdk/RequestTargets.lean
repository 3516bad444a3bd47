import Mathlib.Data.Bool.AllAny
import AnychatSdk.Lib.UrlTarget
import AnychatSdk.Lib.Utf8
import AnychatSdk.ClientImpl
import AnychatSdk.UrlEncoding

/-!
# What a request addresses

Most requests name a conversation, a message or a group in their path.  The id is
put there as it is; only the query of the history request has an encoded id.  Ids
and tokens are byte strings here.
-/

namespace AnychatSdk

open PercentCode UrlTarget

/-- The bytes of a text. -/
def bytesOf (text : String) : List UInt8 :=
  text.toUTF8.data.toList

/-! ## Requests with an id in their path -/

inductive IdRequest where
  | getConversation
  | deleteConversation
  | markAllRead
  | setPinned
  | deleteMessage
  | editMessage
  | getHistoryFallback (limit : Int32) (beforeTimestamp : Int64)
  | getGroupInfo

namespace IdRequest

/-- The path of the request, and its query where it has one. -/
def url (id : List UInt8) : IdRequest → List UInt8
  | getConversation | deleteConversation => bytesOf "/conversations/" ++ id
  | markAllRead => bytesOf "/conversations/" ++ id ++ bytesOf "/read-all"
  | setPinned => bytesOf "/conversations/" ++ id ++ bytesOf "/pin"
  | deleteMessage | editMessage => bytesOf "/messages/" ++ id
  | getHistoryFallback limit beforeTimestamp =>
      bytesOf "/conversations/" ++ id ++ bytesOf "/messages?limit=" ++ bytesOf (toString limit) ++
        if 0 < beforeTimestamp then bytesOf "&before=" ++ bytesOf (toString beforeTimestamp)
        else []
  | getGroupInfo => bytesOf "/groups/" ++ id

/-- The collection in which the id names something. -/
def collection : IdRequest → List UInt8
  | deleteMessage | editMessage => bytesOf "messages"
  | getGroupInfo => bytesOf "groups"
  | _ => bytesOf "conversations"

/-- What follows the id in the path. -/
def subresource : IdRequest → List (List UInt8)
  | markAllRead => [bytesOf "read-all"]
  | setPinned => [bytesOf "pin"]
  | getHistoryFallback _ _ => [bytesOf "messages"]
  | _ => []

def parameters : IdRequest → List (List UInt8 × List UInt8)
  | getHistoryFallback limit beforeTimestamp =>
      (bytesOf "limit", bytesOf (toString limit)) ::
        if 0 < beforeTimestamp then [(bytesOf "before", bytesOf (toString beforeTimestamp))]
        else []
  | _ => []

/-- What the request is meant to say: the id is one segment, and nothing else comes from
it. -/
def target (id : List UInt8) (request : IdRequest) : Parts :=
  ⟨[] :: request.collection :: id :: request.subresource, request.parameters, []⟩

end IdRequest

/-! ## The history of a conversation -/

/-- The first of the two requests of `getHistory`. -/
def historyUrl (limit : Int32) (beforeTimestamp : Int64) (convId : List UInt8) : List UInt8 :=
  bytesOf "/messages/history?conversation_id=" ++ messageUrlEncode convId ++ bytesOf "&limit=" ++
    bytesOf (toString limit) ++
    (if 0 < beforeTimestamp then
      bytesOf "&before=" ++ bytesOf (toString beforeTimestamp) ++ bytesOf "&start_seq=" ++
        bytesOf (toString beforeTimestamp)
    else []) ++
    bytesOf "&direction=backward"

/-- The conversation that a query names. -/
def conversationInQuery (url : List UInt8) : Option (List UInt8) :=
  parameter? (bytesOf "conversation_id") url

/-- The conversation that a path names. -/
def conversationInPath (url : List UInt8) : Option (List UInt8) :=
  (segments? url).bind (·[2]?)

/-! ## The WebSocket -/

/-- A gateway has no query and no fragment. -/
structure GatewayUrl where
  url : List UInt8
  inPath : InPath url

/-- `AnyChatClient::buildWsUrl`. -/
def wsUrl (gatewayUrl token : List UInt8) : List UInt8 :=
  let url :=
    if gatewayUrl ≠ [] ∧ gatewayUrl.getLast? ≠ some slash then gatewayUrl ++ [slash]
    else gatewayUrl
  let url := url ++ bytesOf "api/v1/ws"
  if token ≠ [] then url ++ bytesOf "?token=" ++ token else url

/-! ## All requests -/

/-- A request together with what it is about. -/
inductive AddressedRequest where
  | byId (request : IdRequest) (id : List UInt8)
  | history (limit : Int32) (beforeTimestamp : Int64) (convId : List UInt8)
  | webSocket (gateway : GatewayUrl) (token : List UInt8)

namespace AddressedRequest

/-- The request is read as it was meant: an id in a path is one segment, both requests for
a history name one conversation, and the token is the one given (a missing parameter counts
as empty). -/
def NamesItsEntity : AddressedRequest → Prop
  | byId request id => read? (request.url id) = some (request.target id)
  | history limit beforeTimestamp convId =>
      ∃ named, conversationInQuery (historyUrl limit beforeTimestamp convId) = some named ∧
        conversationInPath ((IdRequest.getHistoryFallback limit beforeTimestamp).url convId) =
          some named
  | webSocket gateway token =>
      (parameter? (bytesOf "token") (wsUrl gateway.url token)).getD [] = token

/-- Ids without separators and percent signs, tokens that end neither a parameter nor the
query and have no percent sign. -/
def NeedsNoEncoding : AddressedRequest → Prop
  | byId _ id | history _ _ id => Plain id
  | webSocket _ token => ampersand ∉ token ∧ hash ∉ token ∧ percent ∉ token

end AddressedRequest

/-! ## Bytes of texts -/

theorem bytesOf_eq_encode (text : String) : bytesOf text = Utf8.encode text := by
  rw [bytesOf, String.toUTF8_eq_toByteArray]
  rfl

theorem bytesOf_append (first second : String) :
    bytesOf (first ++ second) = bytesOf first ++ bytesOf second := by
  simp only [bytesOf_eq_encode, Utf8.encode_append]

theorem bytesOf_eq (text : String) : bytesOf text = text.toList.flatMap String.utf8EncodeChar := by
  rw [bytesOf_eq_encode, Utf8.encode_eq]

theorem bytesOf_injective : Function.Injective bytesOf := by
  intro first second same
  rw [bytesOf_eq_encode, bytesOf_eq_encode] at same
  exact Utf8.encode_injective same

theorem bytesOf_eq_nil_iff {text : String} : bytesOf text = [] ↔ text = "" :=
  bytesOf_injective.eq_iff' rfl

/-- The client's URL, byte by byte. -/
theorem bytesOf_buildWsUrl (gatewayUrl token : String) :
    bytesOf (buildWsUrl gatewayUrl token) = wsUrl (bytesOf gatewayUrl) (bytesOf token) := by
  have last : ∀ text : String,
      (bytesOf text).getLast? = some slash ↔ text.toList.getLast? = some '/' := by
    intro text
    rw [bytesOf_eq_encode]
    exact Utf8.getLast?_encode_iff (by decide) text
  have slashText : bytesOf "/" = [slash] := by decide
  simp only [buildWsUrl, wsUrl, ne_eq, bytesOf_eq_nil_iff, last, apply_ite bytesOf,
    bytesOf_append, slashText]

theorem mem_bytesOf_toString {number : Int} {byte : UInt8}
    (member : byte ∈ bytesOf (toString number)) :
    (48 ≤ byte.toNat ∧ byte.toNat ≤ 57) ∨ byte.toNat = 45 := by
  rw [bytesOf_eq, List.mem_flatMap] at member
  rcases member with ⟨char, inText, encoded⟩
  rcases mem_toString inText with digit | rfl
  · simp only [Char.isDigit, Bool.and_eq_true, decide_eq_true_eq] at digit
    have lower : 48 ≤ char.val.toNat := UInt32.le_iff_toNat_le.mp digit.1
    have upper : char.val.toNat ≤ 57 := UInt32.le_iff_toNat_le.mp digit.2
    rw [String.utf8EncodeChar, if_pos (show char.val.toNat ≤ 127 by omega)] at encoded
    obtain rfl := List.mem_singleton.mp encoded
    left
    rw [UInt8.toNat_ofNat_of_lt' (by change char.val.toNat < 256; omega)]
    exact ⟨lower, upper⟩
  · obtain rfl := List.mem_singleton.mp encoded
    exact Or.inr rfl

/-- None of the bytes that have a meaning in a URL. -/
theorem not_mem_bytesOf_toString {byte : UInt8} (number : Int)
    (special : byte ∈ [slash, question, hash, ampersand, equals, percent]) :
    byte ∉ bytesOf (toString number) := by
  have different : ∀ byte ∈ [slash, question, hash, ampersand, equals, percent],
      ¬((48 ≤ byte.toNat ∧ byte.toNat ≤ 57) ∨ byte.toNat = 45) :=
    List.all_iff_forall_prop.mp (by decide)
  exact fun member => different byte special (mem_bytesOf_toString member)

/-! ## Reading the requests with an id -/

namespace IdRequest

variable (request : IdRequest) (id : List UInt8)

theorem bytesOf_conversations :
    bytesOf "/conversations/" = slash :: (bytesOf "conversations" ++ [slash]) := by
  decide

theorem bytesOf_messages : bytesOf "/messages/" = slash :: (bytesOf "messages" ++ [slash]) := by
  decide

theorem bytesOf_groups : bytesOf "/groups/" = slash :: (bytesOf "groups" ++ [slash]) := by
  decide

theorem url_eq_print :
    request.url id =
      print ([] :: request.collection :: id :: request.subresource) request.parameters := by
  have readAll : bytesOf "/read-all" = slash :: bytesOf "read-all" := by decide
  have pin : bytesOf "/pin" = slash :: bytesOf "pin" := by decide
  have limitText : bytesOf "/messages?limit=" =
      slash :: (bytesOf "messages" ++ question :: (bytesOf "limit" ++ [equals])) := by decide
  have beforeText : bytesOf "&before=" = ampersand :: (bytesOf "before" ++ [equals]) := by decide
  cases request with
  | getConversation | deleteConversation =>
      simp [url, collection, subresource, parameters, print, bytesOf_conversations]
  | markAllRead =>
      simp [url, collection, subresource, parameters, print, bytesOf_conversations, readAll]
  | setPinned =>
      simp [url, collection, subresource, parameters, print, bytesOf_conversations, pin]
  | deleteMessage | editMessage =>
      simp [url, collection, subresource, parameters, print, bytesOf_messages]
  | getHistoryFallback limit beforeTimestamp =>
      by_cases bounded : 0 < beforeTimestamp
      · simp [url, collection, subresource, parameters, print, bytesOf_conversations, limitText,
          beforeText, bounded, printParameter]
      · simp [url, collection, subresource, parameters, print, bytesOf_conversations, limitText,
          bounded, printParameter]
  | getGroupInfo => simp [url, collection, subresource, parameters, print, bytesOf_groups]

theorem collection_plain : Plain request.collection := by
  have conversations : Plain (bytesOf "conversations") := by decide
  have messages : Plain (bytesOf "messages") := by decide
  have groups : Plain (bytesOf "groups") := by decide
  cases request with
  | getConversation | deleteConversation | markAllRead | setPinned => exact conversations
  | getHistoryFallback limit beforeTimestamp => exact conversations
  | deleteMessage | editMessage => exact messages
  | getGroupInfo => exact groups

theorem subresource_plain : ∀ segment ∈ request.subresource, Plain segment := by
  have readAll : Plain (bytesOf "read-all") := by decide
  have pin : Plain (bytesOf "pin") := by decide
  have messages : Plain (bytesOf "messages") := by decide
  cases request with
  | markAllRead => simpa [subresource] using readAll
  | setPinned => simpa [subresource] using pin
  | getHistoryFallback limit beforeTimestamp => simpa [subresource] using messages
  | getConversation | deleteConversation | deleteMessage | editMessage | getGroupInfo =>
      simp [subresource]

/-- A parameter whose value is a number. -/
theorem inQuery_number {name : List UInt8} (nameOk : equals ∉ name ∧ ampersand ∉ name ∧ hash ∉ name)
    (number : Int) : InQuery (name, bytesOf (toString number)) := by
  constructor
  · exact nameOk.1
  · exact nameOk.2.1
  · exact not_mem_bytesOf_toString number (by decide)
  · exact nameOk.2.2
  · exact not_mem_bytesOf_toString number (by decide)

theorem parameters_eq (limit : Int32) (beforeTimestamp : Int64) :
    (getHistoryFallback limit beforeTimestamp).parameters =
      (bytesOf "limit", bytesOf (toString limit.toInt)) ::
        if 0 < beforeTimestamp then
          [(bytesOf "before", bytesOf (toString beforeTimestamp.toInt))]
        else [] :=
  rfl

/-- The parameters are two numbers at most. -/
theorem forall_parameters {Fits : List UInt8 × List UInt8 → Prop}
    (limitFits : ∀ limit : Int, Fits (bytesOf "limit", bytesOf (toString limit)))
    (beforeFits : ∀ before : Int, Fits (bytesOf "before", bytesOf (toString before))) :
    ∀ parameter ∈ request.parameters, Fits parameter := by
  cases request with
  | getHistoryFallback limit beforeTimestamp =>
      rw [parameters_eq]
      by_cases bounded : 0 < beforeTimestamp
      · simpa [bounded] using ⟨limitFits limit.toInt, beforeFits beforeTimestamp.toInt⟩
      · simpa [bounded] using limitFits limit.toInt
  | getConversation | deleteConversation | markAllRead | setPinned | deleteMessage | editMessage
  | getGroupInfo => simp [parameters]

theorem parameters_inQuery : ∀ parameter ∈ request.parameters, InQuery parameter :=
  request.forall_parameters (inQuery_number (by decide)) (inQuery_number (by decide))

theorem parameters_plain :
    ∀ parameter ∈ request.parameters, percent ∉ parameter.1 ∧ percent ∉ parameter.2 := by
  have inLimit : percent ∉ bytesOf "limit" := by decide
  have inBefore : percent ∉ bytesOf "before" := by decide
  exact request.forall_parameters
    (fun limit => ⟨inLimit, not_mem_bytesOf_toString limit (by decide)⟩)
    fun before => ⟨inBefore, not_mem_bytesOf_toString before (by decide)⟩

/-- A plain id is read as it was meant. -/
theorem read?_url (plain : Plain id) : read? (request.url id) = some (request.target id) := by
  have segmentsPlain : ∀ segment ∈ [] :: request.collection :: id :: request.subresource,
      Plain segment := by
    have noBytes : Plain [] := by decide
    simpa using ⟨noBytes, request.collection_plain, plain, request.subresource_plain⟩
  rw [url_eq_print]
  refine read?_print (List.cons_ne_nil _ _) (fun segment listed => (segmentsPlain segment listed).1)
    (fun segment listed => ?_) request.parameters_inQuery ?_ ?_
  · exact ⟨(segmentsPlain segment listed).2.1, (segmentsPlain segment listed).2.2.1⟩
  · exact mapM_decode?_of_plain fun segment listed => (segmentsPlain segment listed).2.2.2
  · exact mapM_decodeParameter?_of_plain request.parameters_plain

/-- The id stands between the collection and something that begins a new part. -/
theorem exists_url_eq : ∃ back, request.url id =
      (slash :: request.collection) ++ slash :: (id ++ back) ∧ percent ∉ back ∧
      (back = [] ∨ back.head? = some slash ∨ back.head? = some question) := by
  cases request with
  | getConversation | deleteConversation =>
      refine ⟨[], ?_, List.not_mem_nil, Or.inl rfl⟩
      simp [url, collection, bytesOf_conversations]
  | markAllRead =>
      refine ⟨bytesOf "/read-all", ?_, by decide, Or.inr (Or.inl (by decide))⟩
      simp [url, collection, bytesOf_conversations]
  | setPinned =>
      refine ⟨bytesOf "/pin", ?_, by decide, Or.inr (Or.inl (by decide))⟩
      simp [url, collection, bytesOf_conversations]
  | deleteMessage | editMessage =>
      refine ⟨[], ?_, List.not_mem_nil, Or.inl rfl⟩
      simp [url, collection, bytesOf_messages]
  | getHistoryFallback limit beforeTimestamp =>
      have limitPlain : percent ∉ bytesOf (toString limit) :=
        not_mem_bytesOf_toString limit.toInt (by decide)
      have beforePlain : percent ∉ bytesOf (toString beforeTimestamp) :=
        not_mem_bytesOf_toString beforeTimestamp.toInt (by decide)
      have limitText : bytesOf "/messages?limit=" = slash :: bytesOf "messages?limit=" := by decide
      have limitTextPlain : percent ∉ bytesOf "/messages?limit=" := by decide
      have beforeTextPlain : percent ∉ bytesOf "&before=" := by decide
      refine ⟨bytesOf "/messages?limit=" ++ bytesOf (toString limit) ++
        if 0 < beforeTimestamp then bytesOf "&before=" ++ bytesOf (toString beforeTimestamp)
        else [], ?_, ?_, ?_⟩
      · simp [url, collection, bytesOf_conversations]
      · by_cases bounded : 0 < beforeTimestamp
        · simp [bounded, limitPlain, beforePlain, limitTextPlain, beforeTextPlain]
        · simp [bounded, limitPlain, limitTextPlain]
      · right
        left
        rw [limitText]
        rfl
  | getGroupInfo =>
      refine ⟨[], ?_, List.not_mem_nil, Or.inl rfl⟩
      simp [url, collection, bytesOf_groups]

/-- An id that is read as a segment of the path is plain. -/
theorem plain_of_segments? {segments : List (List UInt8)}
    (reads : segments? (request.url id) = some segments) (member : id ∈ segments) : Plain id := by
  rcases request.exists_url_eq id with ⟨back, whole, backPlain, backStarts⟩
  rw [whole] at reads
  have collection := request.collection_plain
  have frontInPath : InPath (slash :: request.collection) := by
    constructor
    · simpa [InPath] using ⟨(by decide : question ≠ slash), collection.2.1⟩
    · simpa [InPath] using ⟨(by decide : hash ≠ slash), collection.2.2.1⟩
  have frontPlain : percent ∉ slash :: request.collection := by
    simpa using ⟨(by decide : percent ≠ slash), collection.2.2.2⟩
  exact plain_of_mem_segments frontInPath frontPlain backPlain backStarts reads member

theorem read?_url_iff : read? (request.url id) = some (request.target id) ↔ Plain id := by
  constructor
  · intro reads
    simp only [read?, Option.bind_eq_bind, Option.bind_eq_some_iff] at reads
    rcases reads with ⟨segments, readSegments, parameters, _, fragment, _, whole⟩
    have sameSegments : segments = (request.target id).segments :=
      congrArg Parts.segments (Option.some.inj whole)
    have member : id ∈ segments := by
      rw [sameSegments]
      exact List.mem_cons_of_mem _ (List.mem_cons_of_mem _ List.mem_cons_self)
    exact request.plain_of_segments? id readSegments member
  · exact request.read?_url id

end IdRequest

/-! ## Reading the history requests -/

section History

variable (limit : Int32) (beforeTimestamp : Int64) (convId : List UInt8)

theorem not_mem_messageUrlEncode {byte : UInt8}
    (special : byte ∈ [slash, question, hash, ampersand, equals]) :
    byte ∉ messageUrlEncode convId := by
  have notKept : ∀ byte ∈ [slash, question, hash, ampersand, equals],
      isListedUnreserved byte = false ∧ byte ≠ percent ∧ hexValue? byte = none :=
    List.all_iff_forall_prop.mp (by decide)
  rcases notKept byte special with ⟨reserved, notPercent, notHex⟩
  rw [messageUrlEncode_eq]
  exact (wellFormed_encode convId).not_mem reserved notPercent notHex

def historyParameters : List (List UInt8 × List UInt8) :=
  (bytesOf "conversation_id", messageUrlEncode convId) ::
    (bytesOf "limit", bytesOf (toString limit.toInt)) ::
    ((if 0 < beforeTimestamp then
      [(bytesOf "before", bytesOf (toString beforeTimestamp.toInt)),
        (bytesOf "start_seq", bytesOf (toString beforeTimestamp.toInt))]
    else []) ++ [(bytesOf "direction", bytesOf "backward")])

theorem historyUrl_eq_print :
    historyUrl limit beforeTimestamp convId =
      print [[], bytesOf "messages", bytesOf "history"]
        (historyParameters limit beforeTimestamp convId) := by
  have front : bytesOf "/messages/history?conversation_id=" =
      slash :: (bytesOf "messages" ++ slash :: (bytesOf "history" ++
        question :: (bytesOf "conversation_id" ++ [equals]))) := by decide
  have limitText : bytesOf "&limit=" = ampersand :: (bytesOf "limit" ++ [equals]) := by decide
  have beforeText : bytesOf "&before=" = ampersand :: (bytesOf "before" ++ [equals]) := by decide
  have startText : bytesOf "&start_seq=" = ampersand :: (bytesOf "start_seq" ++ [equals]) := by
    decide
  have directionText : bytesOf "&direction=backward" =
      ampersand :: (bytesOf "direction" ++ equals :: bytesOf "backward") := by decide
  have limitNumber : toString limit = toString limit.toInt := rfl
  have beforeNumber : toString beforeTimestamp = toString beforeTimestamp.toInt := rfl
  rw [historyUrl, limitNumber, beforeNumber]
  by_cases bounded : 0 < beforeTimestamp
  · simp [print, historyParameters, printParameter, bounded, front, limitText, beforeText,
      startText, directionText]
  · simp [print, historyParameters, printParameter, bounded, front, limitText, directionText]

theorem historyParameters_inQuery :
    ∀ parameter ∈ historyParameters limit beforeTimestamp convId, InQuery parameter := by
  have name : equals ∉ bytesOf "conversation_id" ∧ ampersand ∉ bytesOf "conversation_id" ∧
      hash ∉ bytesOf "conversation_id" := by decide
  have conversation : InQuery (bytesOf "conversation_id", messageUrlEncode convId) := by
    constructor
    · exact name.1
    · exact name.2.1
    · exact not_mem_messageUrlEncode convId (by decide)
    · exact name.2.2
    · exact not_mem_messageUrlEncode convId (by decide)
  have limitOk : InQuery (bytesOf "limit", bytesOf (toString limit.toInt)) :=
    IdRequest.inQuery_number (by decide) limit.toInt
  have beforeOk : InQuery (bytesOf "before", bytesOf (toString beforeTimestamp.toInt)) :=
    IdRequest.inQuery_number (by decide) beforeTimestamp.toInt
  have startOk : InQuery (bytesOf "start_seq", bytesOf (toString beforeTimestamp.toInt)) :=
    IdRequest.inQuery_number (by decide) beforeTimestamp.toInt
  have direction : InQuery (bytesOf "direction", bytesOf "backward") := by
    constructor <;> decide
  rw [historyParameters]
  by_cases bounded : 0 < beforeTimestamp
  · simpa [bounded] using ⟨conversation, limitOk, beforeOk, startOk, direction⟩
  · simpa [bounded] using ⟨conversation, limitOk, direction⟩

/-- All values but the id are plain. -/
theorem historyParameters_plain :
    ∀ parameter ∈ (historyParameters limit beforeTimestamp convId).tail,
      percent ∉ parameter.1 ∧ percent ∉ parameter.2 := by
  have limitOk : percent ∉ bytesOf "limit" ∧ percent ∉ bytesOf (toString limit.toInt) :=
    ⟨by decide, not_mem_bytesOf_toString limit.toInt (by decide)⟩
  have beforePlain : percent ∉ bytesOf (toString beforeTimestamp.toInt) :=
    not_mem_bytesOf_toString beforeTimestamp.toInt (by decide)
  have names : percent ∉ bytesOf "before" ∧ percent ∉ bytesOf "start_seq" := by decide
  have direction : percent ∉ bytesOf "direction" ∧ percent ∉ bytesOf "backward" := by decide
  rw [historyParameters]
  by_cases bounded : 0 < beforeTimestamp
  · simpa [bounded] using
      ⟨limitOk, ⟨names.1, beforePlain⟩, ⟨names.2, beforePlain⟩, direction⟩
  · simpa [bounded] using ⟨limitOk, direction⟩

/-- The first request names the conversation that it was asked for. -/
theorem conversationInQuery_historyUrl :
    conversationInQuery (historyUrl limit beforeTimestamp convId) = some convId := by
  have inPath : ∀ segment ∈ [[], bytesOf "messages", bytesOf "history"], InPath segment := by
    have noBytes : InPath [] := ⟨List.not_mem_nil, List.not_mem_nil⟩
    have messages : InPath (bytesOf "messages") := ⟨by decide, by decide⟩
    have history : InPath (bytesOf "history") := ⟨by decide, by decide⟩
    simpa using ⟨noBytes, messages, history⟩
  have namePlain : percent ∉ bytesOf "conversation_id" := by decide
  have named : decodeParameter? (bytesOf "conversation_id", messageUrlEncode convId) =
      some (bytesOf "conversation_id", convId) := by
    rw [decodeParameter?, decode?_eq_self_iff.mpr namePlain, messageUrlEncode_eq,
      decode?_encode isListedUnreserved_percent]
    rfl
  have others := mapM_decodeParameter?_of_plain
    (historyParameters_plain limit beforeTimestamp convId)
  rw [historyParameters, List.tail_cons] at others
  rw [conversationInQuery, parameter?, historyUrl_eq_print,
    parameters?_print inPath (historyParameters_inQuery limit beforeTimestamp convId),
    historyParameters, List.mapM_cons, named, others]
  simp

/-- The second one does if the id needs no encoding, and only then. -/
theorem conversationInPath_fallback_iff :
    conversationInPath ((IdRequest.getHistoryFallback limit beforeTimestamp).url convId) =
      some convId ↔ Plain convId := by
  rw [conversationInPath]
  constructor
  · intro named
    rcases Option.bind_eq_some_iff.mp named with ⟨segments, reads, third⟩
    exact IdRequest.plain_of_segments? _ convId reads (List.mem_of_getElem? third)
  · intro plain
    have reads := (IdRequest.getHistoryFallback limit beforeTimestamp).read?_url convId plain
    simp only [read?, Option.bind_eq_bind, Option.bind_eq_some_iff] at reads
    rcases reads with ⟨segments, readSegments, parameters, _, fragment, _, whole⟩
    have sameSegments := congrArg Parts.segments (Option.some.inj whole)
    rw [readSegments, Option.bind_some]
    exact congrArg (·[2]?) sameSegments

end History

/-! ## Reading the token -/

/-- The part of the URL before the query.  It has a NUL only if the gateway has one. -/
theorem exists_wsUrl_eq (gateway : GatewayUrl) : ∃ front, InPath front ∧
    (0 ∉ gateway.url → 0 ∉ front) ∧ ∀ token, wsUrl gateway.url token =
      if token ≠ [] then front ++ question :: (bytesOf "token" ++ equals :: token) else front := by
  have slashInPath : InPath [slash] := ⟨by decide, by decide⟩
  have endpoint : InPath (bytesOf "api/v1/ws") := ⟨by decide, by decide⟩
  have tokenText : bytesOf "?token=" = question :: (bytesOf "token" ++ [equals]) := by decide
  have join : ∀ {first second : List UInt8}, InPath first → InPath second →
      InPath (first ++ second) := by
    intro first second firstOk secondOk
    constructor
    · simpa using ⟨firstOk.1, secondOk.1⟩
    · simpa using ⟨firstOk.2, secondOk.2⟩
  refine ⟨(if gateway.url ≠ [] ∧ gateway.url.getLast? ≠ some slash then gateway.url ++ [slash]
    else gateway.url) ++ bytesOf "api/v1/ws", ?_, ?_, ?_⟩
  · split
    · exact join (join gateway.inPath slashInPath) endpoint
    · exact join gateway.inPath endpoint
  · intro absent
    have slashIsNoNul : (0 : UInt8) ∉ [slash] := by decide
    have endpointHasNone : 0 ∉ bytesOf "api/v1/ws" := by decide
    split
    · simp only [List.mem_append, not_or]
      exact ⟨⟨absent, slashIsNoNul⟩, endpointHasNone⟩
    · simp only [List.mem_append, not_or]
      exact ⟨absent, endpointHasNone⟩
  · intro token
    simp only [wsUrl, tokenText]
    split
    · simp
    · rfl

theorem parameter?_token_iff (gateway : GatewayUrl) (token : List UInt8) :
    (parameter? (bytesOf "token") (wsUrl gateway.url token)).getD [] = token ↔
      ampersand ∉ token ∧ hash ∉ token ∧ percent ∉ token := by
  rcases exists_wsUrl_eq gateway with ⟨front, inPath, _, url⟩
  rw [url token]
  by_cases given : token ≠ []
  · have isValue : ∀ found : Option (List UInt8), found.getD [] = token ↔ found = some token := by
      intro found
      cases found with
      | none => simp [given.symm]
      | some value => simp
    rw [if_pos given, isValue]
    exact parameter?_eq_value_iff inPath (by decide) (by decide) (by decide) (by decide) token
  · obtain rfl : token = [] := not_not.mp given
    have noQuery : query front = [] := by
      rw [← List.append_nil front, query_append inPath]
      rfl
    rw [if_neg given, parameter?, parameters?, if_pos noQuery]
    decide

/-- A request names what it is about exactly if nothing in it needs an encoding. -/
theorem namesItsEntity_iff_needsNoEncoding (request : AddressedRequest) :
    request.NamesItsEntity ↔ request.NeedsNoEncoding := by
  cases request with
  | byId request id => exact request.read?_url_iff id
  | history limit beforeTimestamp convId =>
      change (∃ named, _ = some named ∧ _ = some named) ↔ Plain convId
      rw [conversationInQuery_historyUrl, ← conversationInPath_fallback_iff limit beforeTimestamp]
      constructor
      · rintro ⟨named, same, inPath⟩
        obtain rfl := Option.some.inj same
        exact inPath
      · exact fun inPath => ⟨convId, rfl, inPath⟩
  | webSocket gateway token => exact parameter?_token_iff gateway token

/-- Deleting the conversation with the id `c1/pin` addresses something within `c1`. -/
theorem not_namesItsEntity_slash :
    ¬(AddressedRequest.byId .deleteConversation (bytesOf "c1/pin")).NamesItsEntity := by
  intro names
  exact absurd ((IdRequest.read?_url_iff _ _).mp names) (by decide)

end AnychatSdk
