import AnychatSdk.Network.HttpRequests

/-!
# Requests of the message manager

The operations that may need more than one request or a frame in its place: an
endpoint that the server does not know is replaced by an older one or by the
WebSocket.
-/

namespace AnychatSdk

/-- The bodies of message requests, and the frames sent in their place. -/
inductive MessageRequestBody where
  | ackMessages (conversationId : String) (messageIds : List String)
  | messageIds (messageIds : List String)
  | recallMessage (messageId : String)
  | editMessage (content : String)
  | frame (frame : Frame)

/-- The JSON library on the types of the message manager. -/
structure MessageJson where
  readUnit : String → ResponseBody Unit
  readMessageList : String → ResponseBody MessageListDataPayload
  readEditMessage : String → ResponseBody EditMessageDataValue
  write : MessageRequestBody → Except String String
  deriving Inhabited

def upperHexDigit (digit : Nat) : Char :=
  if digit < 10 then Char.ofNat ('0'.toNat + digit) else Char.ofNat ('A'.toNat + (digit - 10))

/-- Bytes that `urlEncode` leaves as they are. -/
def isUnreserved (byte : UInt8) : Bool :=
  let char := Char.ofNat byte.toNat
  byte < 128 && (char.isAlphanum || char == '-' || char == '_' || char == '.' || char == '~')

def urlEncode (input : String) : String :=
  .ofList (input.toUTF8.toList.flatMap fun byte =>
    if isUnreserved byte then [Char.ofNat byte.toNat]
    else ['%', upperHexDigit (byte.toNat / 16), upperHexDigit (byte.toNat % 16)])

namespace Client

variable (json : MessageJson)

/-- The handler that both requests of `getHistory` share. -/
def parseHistory (convId : String) (raw : RawResponse) : Operation Client Empty (List Message) :=
  match parseApiEnvelopeResponse (raw.read json.readMessageList) "get history failed" true false
  with
  | .error failure => callBack (.error failure)
  | .ok data =>
      .act (fun client => client.storeListedMessages (listedMessages data convId)) fun _ =>
        callBack (.ok (listedMessages data convId))

def requestHistory (convId : String) (beforeTimestamp : Int64) (limit : Int32) :
    Operation Client Empty (List Message) :=
  .act id fun client =>
    match client.getHistory convId beforeTimestamp with
    | some cached => callBack (.ok cached)
    | none =>
        let before := toString beforeTimestamp
        let primaryPath :=
          "/messages/history?conversation_id=" ++ urlEncode convId ++ "&limit=" ++
            toString limit ++
            (if 0 < beforeTimestamp then "&before=" ++ before ++ "&start_seq=" ++ before else "") ++
            "&direction=backward"
        sendRequest { method := .get, path := primaryPath } fun raw =>
          if raw.statusCode = 404 ∨ raw.statusCode = 405 then
            let fallback :=
              "/conversations/" ++ convId ++ "/messages?limit=" ++ toString limit ++
                (if 0 < beforeTimestamp then "&before=" ++ before else "")
            sendRequest { method := .get, path := fallback } (parseHistory json convId)
          else parseHistory json convId raw

def ackMessages (convId : String) (messageIds : List String) : Operation Client Empty Unit :=
  if convId = "" then callBack (.error (-1, "conv_id must not be empty"))
  else
    match writeJson json.write (.ackMessages convId messageIds) with
    | .error failure => callBack (.error failure)
    | .ok body =>
        sendRequest { method := .post, path := "/messages/ack", body := .text body } fun raw =>
          let response := raw.read json.readUnit
          match parseApiEnvelopeResponse response "ack messages failed" true false with
          | .ok () =>
              .act (fun client => client.markMessageIdsRead messageIds) fun _ => callBack (.ok ())
          | .error failure =>
              if !isUnsupported response then callBack (.error failure)
              else if messageIds = [] then
                sendRequest
                  { method := .post, path := "/conversations/" ++ convId ++ "/read-all" }
                  fun raw =>
                    callBack (parseApiEnvelopeResponse (raw.read json.readUnit)
                      "mark all read failed" true false)
              else
                match writeJson json.write (.messageIds messageIds) with
                | .error failure => callBack (.error failure)
                | .ok body =>
                    sendRequest
                      { method := .post
                        path := "/conversations/" ++ convId ++ "/messages/read"
                        body := .text body }
                      fun raw =>
                        match parseApiEnvelopeResponse (raw.read json.readUnit)
                          "mark messages read failed" true false with
                        | .error failure => callBack (.error failure)
                        | .ok () =>
                            .act (fun client => client.markMessageIdsRead messageIds) fun _ =>
                              callBack (.ok ())

/-- The end of a request that HTTP refused: an unsupported endpoint is replaced
by a frame on the WebSocket. -/
def sendFrameInstead {α : Type} (frame : Frame) (response : HttpResponse α)
    (failure : Int32 × String) : Operation Client Empty Unit :=
  if isUnsupported response then
    match writeJson json.write (.frame frame) with
    | .error failure => callBack (.error failure)
    | .ok _ =>
        .act (fun client => (client.sendTransient frame).2) fun client =>
          callBack (if (client.sendTransient frame).1 then .ok ()
            else .error (-1, "websocket not connected"))
  else
    callBack (.error
      (if failure.1 ≠ 0 then failure.1 else -1,
        if failure.2 = "" then makeHttpError response else failure.2))

def recallMessage (messageId : String) : Operation Client Empty Unit :=
  if messageId = "" then callBack (.error (-1, "message_id must not be empty"))
  else
    match writeJson json.write (.recallMessage messageId) with
    | .error failure => callBack (.error failure)
    | .ok body =>
        sendRequest { method := .post, path := "/messages/recall", body := .text body } fun raw =>
          let response := raw.read json.readUnit
          match parseApiEnvelopeResponse response "recall message failed" true false with
          | .ok () =>
              .act (fun client => client.applyMessageStatus messageId 1) fun _ => callBack (.ok ())
          | .error failure =>
              sendFrameInstead json
                { type := "message.recall", payload := .messageRecall messageId } response failure

def deleteMessage (messageId : String) : Operation Client Empty Unit :=
  if messageId = "" then callBack (.error (-1, "message_id must not be empty"))
  else
    sendRequest { method := .del, path := "/messages/" ++ messageId } fun raw =>
      let response := raw.read json.readUnit
      match parseApiEnvelopeResponse response "delete message failed" true false with
      | .ok () =>
          .act (fun client => client.applyMessageStatus messageId 2) fun _ => callBack (.ok ())
      | .error failure =>
          sendFrameInstead json
            { type := "message.delete", payload := .messageDelete messageId } response failure

def editMessage (messageId content : String) : Operation Client Empty Unit :=
  if messageId = "" then callBack (.error (-1, "message_id must not be empty"))
  else
    match writeJson json.write (.editMessage content) with
    | .error failure => callBack (.error failure)
    | .ok body =>
        sendRequest { method := .patch, path := "/messages/" ++ messageId, body := .text body }
          fun raw =>
            let response := raw.read json.readEditMessage
            match parseApiEnvelopeResponse response "edit message failed" true false with
            | .ok data =>
                .act (fun client =>
                    client.applyEdit messageId (editedMessage messageId content data)) fun _ =>
                  callBack (.ok ())
            | .error failure =>
                sendFrameInstead json
                  { type := "message.edit", payload := .messageEdit messageId content }
                  response failure

/-! ## Completion -/

theorem parseHistory_completes (convId : String) (raw : RawResponse) (bound : Nat) :
    (parseHistory json convId raw).CompletesWithin bound := by
  rw [parseHistory]
  split
  · exact completesWithin_callBack _ bound
  · simp

theorem requestHistory_completes (convId : String) (beforeTimestamp : Int64) (limit : Int32) :
    (requestHistory json convId beforeTimestamp limit).CompletesWithin 2 := by
  rw [requestHistory, AsyncCode.completesWithin_act]
  intro client
  split
  · exact completesWithin_callBack _ 2
  · rw [completesWithin_sendRequest]
    intro raw
    split
    · rw [completesWithin_sendRequest]
      exact fun raw => parseHistory_completes json convId raw 0
    · exact parseHistory_completes json convId raw 1

theorem ackMessages_completes (convId : String) (messageIds : List String) :
    (ackMessages json convId messageIds).CompletesWithin 2 := by
  rw [ackMessages]
  split
  · exact completesWithin_callBack _ 2
  split
  · exact completesWithin_callBack _ 2
  rw [completesWithin_sendRequest]
  intro raw
  dsimp only
  split
  · simp
  split
  · exact completesWithin_callBack _ 1
  split
  · simp
  split
  · exact completesWithin_callBack _ 1
  rw [completesWithin_sendRequest]
  intro raw
  split
  · exact completesWithin_callBack _ 0
  · simp

theorem sendFrameInstead_completes {α : Type} (frame : Frame) (response : HttpResponse α)
    (failure : Int32 × String) (bound : Nat) :
    (sendFrameInstead json frame response failure).CompletesWithin bound := by
  rw [sendFrameInstead]
  split
  · split
    · exact completesWithin_callBack _ bound
    · simp
  · exact completesWithin_callBack _ bound

theorem recallMessage_completes (messageId : String) :
    (recallMessage json messageId).CompletesWithin 1 := by
  rw [recallMessage]
  split
  · exact completesWithin_callBack _ 1
  split
  · exact completesWithin_callBack _ 1
  rw [completesWithin_sendRequest]
  intro raw
  dsimp only
  split
  · simp
  · exact sendFrameInstead_completes json _ _ _ 0

theorem deleteMessage_completes (messageId : String) :
    (deleteMessage json messageId).CompletesWithin 1 := by
  rw [deleteMessage]
  split
  · exact completesWithin_callBack _ 1
  rw [completesWithin_sendRequest]
  intro raw
  dsimp only
  split
  · simp
  · exact sendFrameInstead_completes json _ _ _ 0

theorem editMessage_completes (messageId content : String) :
    (editMessage json messageId content).CompletesWithin 1 := by
  rw [editMessage]
  split
  · exact completesWithin_callBack _ 1
  split
  · exact completesWithin_callBack _ 1
  rw [completesWithin_sendRequest]
  intro raw
  dsimp only
  split
  · simp
  · exact sendFrameInstead_completes json _ _ _ 0

/-! ## The handlers

Where the JSON library can write every body, an operation that is answered leaves
the client as the handler of the response does and completes with its outcome. -/

/-- The operation has ended with a handler's result. -/
def EndsWith {ρ : Type} (operation : AsyncRun Client HttpRequest RawResponse Empty (Outcome ρ))
    (result : Outcome ρ × Client) : Prop :=
  operation.state = result.2 ∧ operation.log.getLast? = some (.completed result.1)

section Handlers

variable {json} (writes : ∀ body, ∃ text, json.write body = .ok text)
include writes

theorem sendFrameInstead_endsWith {α : Type} (frame : Frame) (response : HttpResponse α)
    (failure : Int32 × String)
    (operation : AsyncRun Client HttpRequest RawResponse Empty (Outcome Unit)) :
    EndsWith ((sendFrameInstead json frame response failure).run operation)
      (operation.state.sendInstead frame response failure) := by
  rcases writes (.frame frame) with ⟨text, written⟩
  rw [sendFrameInstead, sendInstead]
  split
  · simp [EndsWith, writeJson, written, callBack, AsyncCode.run]
  · simp [EndsWith, callBack, AsyncCode.run]

theorem recallMessage_endsWith {messageId : String} (named : messageId ≠ "") (raw : RawResponse)
    (client : Client) :
    EndsWith ((AsyncRun.start (recallMessage json messageId) client).step (.answer 0 raw))
      (client.recallMessageResponse messageId (raw.read json.readUnit)) := by
  rcases writes (.recallMessage messageId) with ⟨text, written⟩
  rw [recallMessage, recallMessageResponse, if_neg named, if_neg named, writeJson, written]
  simp only [sendRequest, AsyncRun.start, AsyncCode.run, AsyncRun.step, List.nil_append,
    List.getElem?_cons_zero, List.eraseIdx_cons_zero]
  cases parseApiEnvelopeResponse (raw.read json.readUnit) "recall message failed" true false with
  | ok _ => exact ⟨rfl, rfl⟩
  | error failure => exact sendFrameInstead_endsWith writes _ _ _ _

theorem deleteMessage_endsWith {messageId : String} (named : messageId ≠ "") (raw : RawResponse)
    (client : Client) :
    EndsWith ((AsyncRun.start (deleteMessage json messageId) client).step (.answer 0 raw))
      (client.deleteMessageResponse messageId (raw.read json.readUnit)) := by
  rw [deleteMessage, deleteMessageResponse, if_neg named, if_neg named]
  simp only [sendRequest, AsyncRun.start, AsyncCode.run, AsyncRun.step, List.nil_append,
    List.getElem?_cons_zero, List.eraseIdx_cons_zero]
  cases parseApiEnvelopeResponse (raw.read json.readUnit) "delete message failed" true false with
  | ok _ => exact ⟨rfl, rfl⟩
  | error failure => exact sendFrameInstead_endsWith writes _ _ _ _

theorem editMessage_endsWith {messageId : String} (named : messageId ≠ "") (content : String)
    (raw : RawResponse) (client : Client) :
    EndsWith ((AsyncRun.start (editMessage json messageId content) client).step (.answer 0 raw))
      (client.editMessageResponse messageId content (raw.read json.readEditMessage)) := by
  rcases writes (.editMessage content) with ⟨text, written⟩
  rw [editMessage, editMessageResponse, if_neg named, if_neg named, writeJson, written]
  simp only [sendRequest, AsyncRun.start, AsyncCode.run, AsyncRun.step, List.nil_append,
    List.getElem?_cons_zero, List.eraseIdx_cons_zero]
  cases parseApiEnvelopeResponse (raw.read json.readEditMessage) "edit message failed" true
    false with
  | ok data => exact ⟨rfl, rfl⟩
  | error failure => exact sendFrameInstead_endsWith writes _ _ _ _

/-- Two answers at most: the second one comes only if it was asked for. -/
theorem ackMessages_endsWith {convId : String} (named : convId ≠ "") (messageIds : List String)
    (primary fallback : RawResponse) (client : Client) :
    EndsWith
      (((AsyncRun.start (ackMessages json convId messageIds) client).step
        (.answer 0 primary)).step (.answer 0 fallback))
      (client.ackMessagesResponse convId messageIds (primary.read json.readUnit)
        (fallback.read json.readUnit)) := by
  rcases writes (.ackMessages convId messageIds) with ⟨text, written⟩
  rcases writes (.messageIds messageIds) with ⟨fallbackText, fallbackWritten⟩
  rw [ackMessages, ackMessagesResponse, if_neg named, if_neg named, writeJson, written]
  simp only [sendRequest, AsyncRun.start, AsyncCode.run, AsyncRun.step, List.nil_append,
    List.getElem?_cons_zero, List.eraseIdx_cons_zero]
  cases parseApiEnvelopeResponse (primary.read json.readUnit) "ack messages failed" true false with
  | ok _ => exact ⟨rfl, rfl⟩
  | error failure =>
      by_cases unsupported : isUnsupported (primary.read json.readUnit) = true
      · by_cases all : messageIds = []
        · simp only [unsupported, all, Bool.not_true, Bool.false_eq_true, if_false, if_true]
          exact ⟨rfl, rfl⟩
        · simp only [unsupported, all, Bool.not_true, Bool.false_eq_true, if_false, writeJson,
            fallbackWritten]
          simp only [AsyncCode.run, List.nil_append, List.getElem?_cons_zero,
            List.eraseIdx_cons_zero]
          cases parseApiEnvelopeResponse (fallback.read json.readUnit)
            "mark messages read failed" true false with
          | ok _ => exact ⟨rfl, rfl⟩
          | error failure => exact ⟨rfl, rfl⟩
      · simp only [unsupported, Bool.not_false, if_true]
        exact ⟨rfl, rfl⟩

end Handlers

theorem requestHistory_endsWith {convId : String} {beforeTimestamp : Int64} {client : Client}
    (uncached : client.getHistory convId beforeTimestamp = none) (limit : Int32)
    (primary fallback : RawResponse) :
    EndsWith
      (((AsyncRun.start (requestHistory json convId beforeTimestamp limit) client).step
        (.answer 0 primary)).step (.answer 0 fallback))
      (client.getHistoryResponse convId (primary.read json.readMessageList)
        (fallback.read json.readMessageList)) := by
  rw [requestHistory, getHistoryResponse]
  simp only [sendRequest, AsyncRun.start, AsyncCode.run, AsyncRun.step, uncached, List.nil_append,
    List.getElem?_cons_zero, List.eraseIdx_cons_zero]
  have unsupported : isUnsupported (primary.read json.readMessageList) = true ↔
      primary.statusCode = 404 ∨ primary.statusCode = 405 := by
    rw [isUnsupported, Bool.or_eq_true, decide_eq_true_iff, decide_eq_true_iff]
    exact Iff.rfl
  by_cases status : primary.statusCode = 404 ∨ primary.statusCode = 405
  · rw [if_pos status, if_pos (unsupported.mpr status)]
    simp only [AsyncCode.run, List.nil_append, List.getElem?_cons_zero, List.eraseIdx_cons_zero,
      parseHistory]
    cases parseApiEnvelopeResponse (fallback.read json.readMessageList) "get history failed" true
      false with
    | ok data => exact ⟨rfl, rfl⟩
    | error failure => exact ⟨rfl, rfl⟩
  · rw [if_neg status, if_neg (fun refused => status (unsupported.mp refused)), parseHistory]
    cases parseApiEnvelopeResponse (primary.read json.readMessageList) "get history failed" true
      false with
    | ok data => exact ⟨rfl, rfl⟩
    | error failure => exact ⟨rfl, rfl⟩

end Client

end AnychatSdk
