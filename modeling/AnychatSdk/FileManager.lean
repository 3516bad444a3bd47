import AnychatSdk.Network.HttpRequests

/-!
# The file manager

An upload asks for a token, puts the bytes of the file to the URL that the token
names and reports that the file is complete.  Uploads of client logs take the
same three steps at other endpoints.
-/

namespace AnychatSdk

/-! ## Files -/

structure UploadTokenPayload where
  fileId : String := ""
  uploadUrl : String := ""

structure FileInfoPayload where
  fileId : String := ""
  fileName : String := ""
  fileType : Option IntegerValue := none
  fileSize : Option IntegerValue := none
  mimeType : String := ""
  downloadUrl : String := ""
  createdAt : Option TimestampValue := none

/-- `std::variant<std::monostate, FileInfoPayload>`. -/
inductive FileInfoDataValue where
  | monostate
  | direct (payload : FileInfoPayload)

structure FileInfo where
  fileId : String := ""
  fileName : String := ""
  fileType : Int32 := 0
  fileSizeBytes : Int64 := 0
  mimeType : String := ""
  downloadUrl : String := ""
  createdAtMs : Int64 := 0

/-- `kFileTypeUnspecified`. -/
def fileTypeUnspecified : Int32 := 0

/-- `kFileTypeLog`. -/
def fileTypeLog : Int32 := 5

/-- Types outside the range from `kFileTypeImage` to `kFileTypeLog` become the
fallback. -/
def normalizeFileType (fileType fallback : Int32) : Int32 :=
  if 1 ≤ fileType ∧ fileType ≤ fileTypeLog then fileType else fallback

def parseFileInfoPayload (payload : FileInfoPayload) : FileInfo where
  fileId := payload.fileId
  fileName := payload.fileName
  fileType :=
    normalizeFileType (parseInt32Value payload.fileType fileTypeUnspecified) fileTypeUnspecified
  fileSizeBytes := parseInt64Value payload.fileSize 0
  mimeType := payload.mimeType
  downloadUrl := payload.downloadUrl
  createdAtMs := parseTimestampMs payload.createdAt

def parseFileInfoData : FileInfoDataValue → FileInfo
  | .monostate => {}
  | .direct payload => parseFileInfoPayload payload

/-- What follows the last slash, on platforms without backslashes in paths. -/
def extractFileName (localPath : String) : String :=
  .ofList (localPath.toList.reverse.takeWhile (· ≠ '/')).reverse

/-- What the file system gives for a path.  A directory is opened, but reading it
fails. -/
inductive FileRead where
  | unopened
  | unreadable
  | content (bytes : List UInt8)
  deriving Inhabited

/-- The name and the bytes of a file, or the error that goes to the callback.  `none`
stands for the exception of a read that fails: the iterators go past the state of the
stream, so the test of `bad()` behind them never finds anything. -/
def readFileBytes (files : String → FileRead) (localPath : String) :
    Option (Except (Int32 × String) (String × List UInt8)) :=
  match files localPath with
  | .unopened => some (.error (-1, "cannot open file: " ++ localPath))
  | .unreadable => none
  | .content [] => some (.error (-1, "file is empty: " ++ localPath))
  | .content bytes => some (.ok (extractFileName localPath, bytes))

theorem readFileBytes_eq_none_iff (files : String → FileRead) (localPath : String) :
    readFileBytes files localPath = none ↔ files localPath = .unreadable := by
  rw [readFileBytes]
  split <;> simp [*]

/-- The bodies of the requests of an upload. -/
inductive FileRequestBody where
  | uploadToken (fileName : String) (fileType : Int32) (fileSize : Int64) (mimeType : String)
  | uploadClientLogInit (fileName : String) (fileSize : Int64) (expiresHours : Int32)
  | uploadLogComplete (fileId : String)

/-- The JSON library on the types of the file manager. -/
structure FileJson where
  readUploadToken : String → ResponseBody UploadTokenPayload
  readFileInfo : String → ResponseBody FileInfoDataValue
  write : FileRequestBody → Except String String
  deriving Inhabited

/-- The arguments of the progress callback. -/
structure UploadProgress where
  sent : Int64
  total : Int64
  deriving DecidableEq

/-- Call the progress callback, if there is one. -/
def report {ρ : Type} (onProgress : Bool) (progress : UploadProgress)
    (rest : Operation Unit UploadProgress ρ) : Operation Unit UploadProgress ρ :=
  if onProgress then .emit progress rest else rest

/-! ## Uploads -/

/-- What differs between the kinds of upload: the endpoints, the texts of the
errors and the last touch to the result. -/
structure UploadKind where
  initPath : String
  initFailed : String
  initMissing : String
  putFailed : String
  completeRequest : String → Except (Int32 × String) HttpRequest
  completeFailed : String
  finish : FileInfo → FileInfo

namespace UploadKind

variable (json : FileJson) (kind : UploadKind)

/-- The result of a complete upload; a missing id is that of the token. -/
def result (fileId : String) (data : FileInfoDataValue) : FileInfo :=
  let info := parseFileInfoData data
  kind.finish (if info.fileId = "" then { info with fileId := fileId } else info)

def completeResponse (fileId : String) (raw : RawResponse) :
    Operation Unit UploadProgress FileInfo :=
  match parseApiEnvelopeResponse (raw.read json.readFileInfo) kind.completeFailed false true with
  | .error failure => callBack (.error failure)
  | .ok data => callBack (.ok (kind.result fileId data))

def putResponse (onProgress : Bool) (size : Int64) (fileId : String) (raw : RawResponse) :
    Operation Unit UploadProgress FileInfo :=
  if raw.error ≠ "" then callBack (.error (-1, raw.error))
  else if raw.statusCode < 200 ∨ 300 ≤ raw.statusCode then
    callBack (.error (-1, kind.putFailed ++ raw.body))
  else
    report onProgress ⟨size, size⟩
      (match kind.completeRequest fileId with
      | .error failure => callBack (.error failure)
      | .ok request => sendRequest request (kind.completeResponse json fileId))

def initResponse (onProgress : Bool) (bytes : List UInt8) (raw : RawResponse) :
    Operation Unit UploadProgress FileInfo :=
  match parseApiEnvelopeResponse (raw.read json.readUploadToken) kind.initFailed false true with
  | .error failure => callBack (.error failure)
  | .ok token =>
      if token.fileId = "" ∨ token.uploadUrl = "" then
        callBack (.error (-1, kind.initMissing))
      else
        let size := Int64.ofNat bytes.length
        report onProgress ⟨0, size⟩
          (sendRequest { method := .put, path := token.uploadUrl, body := .bytes bytes }
            (kind.putResponse json onProgress size token.fileId))

/-- The three requests of an upload. -/
def transfer (onProgress : Bool) (bytes : List UInt8) (body : String) :
    Operation Unit UploadProgress FileInfo :=
  sendRequest { method := .post, path := kind.initPath, body := .text body }
    (kind.initResponse json onProgress bytes)

end UploadKind

namespace FileManager

variable (json : FileJson) (files : String → FileRead)

def uploadKind : UploadKind where
  initPath := "/files/upload-token"
  initFailed := "upload-token failed"
  initMissing := "upload-token response missing file id or upload url"
  putFailed := "upload PUT failed: "
  completeRequest fileId :=
    .ok { method := .post, path := "/files/" ++ fileId ++ "/complete", body := .text "{}" }
  completeFailed := "complete failed"
  finish info := info

def clientLogKind : UploadKind where
  initPath := "/logs/upload"
  initFailed := "log upload init failed"
  initMissing := "log upload init response missing file id or upload url"
  putFailed := "log upload PUT failed: "
  completeRequest fileId :=
    (writeJson json.write (.uploadLogComplete fileId)).map fun body =>
      { method := .post, path := "/logs/complete", body := .text body }
  completeFailed := "log upload complete failed"
  finish info :=
    if info.fileType = fileTypeUnspecified then { info with fileType := fileTypeLog } else info

/-- An exception goes to the caller of the function. -/
def upload (localPath : String) (fileType : Int32) (onProgress : Bool) :
    Operation Unit UploadProgress FileInfo :=
  match readFileBytes files localPath with
  | none => .stop
  | some (.error failure) => callBack (.error failure)
  | some (.ok (fileName, bytes)) =>
      match writeJson json.write
        (.uploadToken fileName (normalizeFileType fileType fileTypeUnspecified)
          (Int64.ofNat bytes.length) "application/octet-stream") with
      | .error failure => callBack (.error failure)
      | .ok body => uploadKind.transfer json onProgress bytes body

def uploadClientLog (localPath : String) (onProgress : Bool) (expiresHours : Int32) :
    Operation Unit UploadProgress FileInfo :=
  match readFileBytes files localPath with
  | none => .stop
  | some (.error failure) => callBack (.error failure)
  | some (.ok (fileName, bytes)) =>
      match writeJson json.write
        (.uploadClientLogInit fileName (Int64.ofNat bytes.length)
          (if expiresHours < 0 then 0 else expiresHours)) with
      | .error failure => callBack (.error failure)
      | .ok body => (clientLogKind json).transfer json onProgress bytes body

end FileManager

/-! ## Completion -/

@[simp]
theorem report_completes {ρ : Type} (onProgress : Bool) (progress : UploadProgress)
    (rest : Operation Unit UploadProgress ρ) (bound : Nat) :
    (report onProgress progress rest).CompletesWithin bound ↔ rest.CompletesWithin bound := by
  cases onProgress with
  | false => rfl
  | true => exact AsyncCode.completesWithin_emit progress rest bound

theorem UploadKind.transfer_completes (json : FileJson) (kind : UploadKind) (onProgress : Bool)
    (bytes : List UInt8) (body : String) :
    (kind.transfer json onProgress bytes body).CompletesWithin 3 := by
  rw [transfer, completesWithin_sendRequest]
  intro raw
  rw [initResponse]
  split
  · exact completesWithin_callBack _ 2
  split
  · exact completesWithin_callBack _ 2
  rw [report_completes, completesWithin_sendRequest]
  intro raw
  rw [putResponse]
  split
  · exact completesWithin_callBack _ 1
  split
  · exact completesWithin_callBack _ 1
  rw [report_completes]
  split
  · exact completesWithin_callBack _ 1
  rw [completesWithin_sendRequest]
  intro raw
  rw [completeResponse]
  split <;> exact completesWithin_callBack _ 0

namespace FileManager

variable (json : FileJson) (files : String → FileRead)

variable {files} in
theorem upload_completes {localPath : String} (readable : files localPath ≠ .unreadable)
    (fileType : Int32) (onProgress : Bool) :
    (upload json files localPath fileType onProgress).CompletesWithin 3 := by
  rw [upload]
  split
  · next thrown => exact absurd ((readFileBytes_eq_none_iff files localPath).mp thrown) readable
  · exact completesWithin_callBack _ 3
  split
  · exact completesWithin_callBack _ 3
  · exact UploadKind.transfer_completes json uploadKind onProgress _ _

variable {files} in
theorem uploadClientLog_completes {localPath : String}
    (readable : files localPath ≠ .unreadable) (onProgress : Bool) (expiresHours : Int32) :
    (uploadClientLog json files localPath onProgress expiresHours).CompletesWithin 3 := by
  rw [uploadClientLog]
  split
  · next thrown => exact absurd ((readFileBytes_eq_none_iff files localPath).mp thrown) readable
  · exact completesWithin_callBack _ 3
  split
  · exact completesWithin_callBack _ 3
  · exact UploadKind.transfer_completes json (clientLogKind json) onProgress _ _

end FileManager

/-! ## What an upload shows -/

/-- An entry of the log of an upload. -/
abbrev UploadEntry := AsyncLogEntry HttpRequest RawResponse UploadProgress (Outcome FileInfo)

/-- The PUT of the bytes has succeeded. -/
def PutSucceeded (raw : RawResponse) : Prop :=
  raw.error = "" ∧ 200 ≤ raw.statusCode ∧ raw.statusCode < 300

namespace UploadKind

variable (json : FileJson) (kind : UploadKind) (onProgress : Bool) (bytes : List UInt8)

/-- The token request has succeeded. -/
def TokenReceived (raw : RawResponse) (token : UploadTokenPayload) : Prop :=
  parseApiEnvelopeResponse (raw.read json.readUploadToken) kind.initFailed false true = .ok token ∧
    token.fileId ≠ "" ∧ token.uploadUrl ≠ ""

/-- The complete request has succeeded. -/
def Completed (raw : RawResponse) (data : FileInfoDataValue) : Prop :=
  parseApiEnvelopeResponse (raw.read json.readFileInfo) kind.completeFailed false true = .ok data

/-- What the progress callback shows. -/
def progressEntries (progress : UploadProgress) : List UploadEntry :=
  if onProgress then [.emitted progress] else []

def putRequest (token : UploadTokenPayload) : HttpRequest :=
  { method := .put, path := token.uploadUrl, body := .bytes bytes }

/-- The log until the PUT is issued: just before it the progress is 0. -/
def logToPut (init : HttpRequest) (first : RawResponse) (token : UploadTokenPayload) :
    List UploadEntry :=
  [.asked init, .answered first] ++ progressEntries onProgress ⟨0, Int64.ofNat bytes.length⟩ ++
    [.asked (putRequest bytes token)]

/-- The log until the PUT has succeeded: just after it the progress is the size. -/
def logToPutDone (init : HttpRequest) (first : RawResponse) (token : UploadTokenPayload)
    (second : RawResponse) : List UploadEntry :=
  logToPut onProgress bytes init first token ++ [.answered second] ++
    progressEntries onProgress ⟨Int64.ofNat bytes.length, Int64.ofNat bytes.length⟩

/-- The logs of an upload. -/
inductive UploadLog (init : HttpRequest) : List UploadEntry → Prop
  | tokenAsked : UploadLog init [.asked init]
  | tokenRefused (first : RawResponse) (failure : Int32 × String) :
      UploadLog init [.asked init, .answered first, .completed (.error failure)]
  | putAsked {first : RawResponse} {token : UploadTokenPayload}
      (received : kind.TokenReceived json first token) :
      UploadLog init (logToPut onProgress bytes init first token)
  | putRefused {first second : RawResponse} {token : UploadTokenPayload}
      (received : kind.TokenReceived json first token) (refused : ¬PutSucceeded second)
      (failure : Int32 × String) :
      UploadLog init (logToPut onProgress bytes init first token ++
        [.answered second] ++ [.completed (.error failure)])
  | completeUnwritten {first second : RawResponse} {token : UploadTokenPayload}
      (received : kind.TokenReceived json first token) (put : PutSucceeded second)
      {failure : Int32 × String} (unwritten : kind.completeRequest token.fileId = .error failure) :
      UploadLog init (logToPutDone onProgress bytes init first token second ++
        [.completed (.error failure)])
  | completeAsked {first second : RawResponse} {token : UploadTokenPayload}
      (received : kind.TokenReceived json first token) (put : PutSucceeded second)
      {request : HttpRequest} (written : kind.completeRequest token.fileId = .ok request) :
      UploadLog init (logToPutDone onProgress bytes init first token second ++ [.asked request])
  | completeRefused {first second : RawResponse} {token : UploadTokenPayload}
      (received : kind.TokenReceived json first token) (put : PutSucceeded second)
      {request : HttpRequest} (written : kind.completeRequest token.fileId = .ok request)
      (third : RawResponse) (failure : Int32 × String) :
      UploadLog init (logToPutDone onProgress bytes init first token second ++
        [.asked request] ++ [.answered third] ++ [.completed (.error failure)])
  | succeeded {first second third : RawResponse} {token : UploadTokenPayload}
      (received : kind.TokenReceived json first token) (put : PutSucceeded second)
      {request : HttpRequest} (written : kind.completeRequest token.fileId = .ok request)
      {data : FileInfoDataValue} (completed : kind.Completed json third data) :
      UploadLog init (logToPutDone onProgress bytes init first token second ++
        [.asked request] ++ [.answered third] ++
          [.completed (.ok (kind.result token.fileId data))])

/-- Where an upload stands: the handler that is open, and the log so far. -/
inductive Stage (init : HttpRequest) :
    AsyncRun Unit HttpRequest RawResponse UploadProgress (Outcome FileInfo) → Prop
  | token : Stage init ⟨(), [kind.initResponse json onProgress bytes], [.asked init]⟩
  | put {first : RawResponse} {token : UploadTokenPayload}
      (received : kind.TokenReceived json first token) :
      Stage init ⟨(),
        [kind.putResponse json onProgress (Int64.ofNat bytes.length) token.fileId],
        logToPut onProgress bytes init first token⟩
  | complete {first second : RawResponse} {token : UploadTokenPayload}
      (received : kind.TokenReceived json first token) (put : PutSucceeded second)
      {request : HttpRequest} (written : kind.completeRequest token.fileId = .ok request) :
      Stage init ⟨(), [kind.completeResponse json token.fileId],
        logToPutDone onProgress bytes init first token second ++ [.asked request]⟩
  | ended {log : List UploadEntry} (shown : kind.UploadLog json onProgress bytes init log) :
      Stage init ⟨(), [], log⟩

theorem Stage.uploadLog {init : HttpRequest}
    {operation : AsyncRun Unit HttpRequest RawResponse UploadProgress (Outcome FileInfo)}
    (stage : kind.Stage json onProgress bytes init operation) :
    kind.UploadLog json onProgress bytes init operation.log := by
  cases stage with
  | token => exact .tokenAsked
  | put received => exact .putAsked received
  | complete received put written => exact .completeAsked received put written
  | ended shown => exact shown

theorem run_report (progress : UploadProgress)
    (rest : Operation Unit UploadProgress FileInfo)
    (pending : List (RawResponse → Operation Unit UploadProgress FileInfo))
    (log : List UploadEntry) :
    (report onProgress progress rest).run ⟨(), pending, log⟩ =
      rest.run ⟨(), pending, log ++ progressEntries onProgress progress⟩ := by
  cases onProgress with
  | false =>
      rw [progressEntries, if_neg Bool.false_ne_true, List.append_nil]
      rfl
  | true => rfl

/-- After the response to the token request. -/
theorem stage_initResponse (init : HttpRequest) (raw : RawResponse) :
    kind.Stage json onProgress bytes init
      ((kind.initResponse json onProgress bytes raw).run
        ⟨(), [], [.asked init, .answered raw]⟩) := by
  rw [initResponse]
  split
  · next failure _ => exact .ended (.tokenRefused raw failure)
  · next token parsed =>
      split
      · exact .ended (.tokenRefused raw (-1, kind.initMissing))
      · next named =>
          rw [run_report]
          exact .put ⟨parsed, fun missing => named (.inl missing),
            fun missing => named (.inr missing)⟩

/-- After the response to the PUT. -/
theorem stage_putResponse (init : HttpRequest) {first : RawResponse} {token : UploadTokenPayload}
    (received : kind.TokenReceived json first token) (raw : RawResponse) :
    kind.Stage json onProgress bytes init
      ((kind.putResponse json onProgress (Int64.ofNat bytes.length) token.fileId raw).run
        ⟨(), [], logToPut onProgress bytes init first token ++ [.answered raw]⟩) := by
  rw [putResponse]
  split
  · next failed => exact .ended (.putRefused received (fun put => failed put.1) (-1, raw.error))
  split
  · next status =>
      refine .ended (.putRefused received ?_ (-1, kind.putFailed ++ raw.body))
      rintro ⟨_, low, high⟩
      rcases status with below | above
      · exact absurd low (Int32.not_le.mpr below)
      · exact absurd high (Int32.not_lt.mpr above)
  · next sent status =>
      rcases not_or.mp status with ⟨low, high⟩
      have put : PutSucceeded raw :=
        ⟨Decidable.not_not.mp sent, Int32.not_lt.mp low, Int32.not_le.mp high⟩
      rw [run_report]
      split
      · next failure unwritten => exact .ended (.completeUnwritten received put unwritten)
      · next request written => exact .complete received put written

/-- After the response to the complete request. -/
theorem stage_completeResponse (init : HttpRequest) {first second : RawResponse}
    {token : UploadTokenPayload} (received : kind.TokenReceived json first token)
    (put : PutSucceeded second) {request : HttpRequest}
    (written : kind.completeRequest token.fileId = .ok request) (raw : RawResponse) :
    kind.Stage json onProgress bytes init
      ((kind.completeResponse json token.fileId raw).run
        ⟨(), [], logToPutDone onProgress bytes init first token second ++ [.asked request] ++
          [.answered raw]⟩) := by
  rw [completeResponse]
  split
  · next failure _ => exact .ended (.completeRefused received put written raw failure)
  · next data completed => exact .ended (.succeeded received put written completed)

theorem Stage.step {init : HttpRequest}
    {operation : AsyncRun Unit HttpRequest RawResponse UploadProgress (Outcome FileInfo)}
    (stage : kind.Stage json onProgress bytes init operation)
    (event : AsyncEvent Unit RawResponse) :
    kind.Stage json onProgress bytes init (operation.step event) := by
  cases event with
  | other change =>
      cases stage with
      | token => exact .token
      | put received => exact .put received
      | complete received put written => exact .complete received put written
      | ended shown => exact .ended shown
  | answer index raw =>
      cases stage with
      | ended shown => exact .ended shown
      | token =>
          cases index with
          | succ index => exact .token
          | zero => exact kind.stage_initResponse json onProgress bytes init raw
      | put received =>
          cases index with
          | succ index => exact .put received
          | zero => exact kind.stage_putResponse json onProgress bytes init received raw
      | complete received put written =>
          cases index with
          | succ index => exact .complete received put written
          | zero =>
              exact kind.stage_completeResponse json onProgress bytes init received put written raw

/-- The log of every run of an upload. -/
theorem uploadLog_exec (body : String) (events : List (AsyncEvent Unit RawResponse)) :
    kind.UploadLog json onProgress bytes
      { method := .post, path := kind.initPath, body := .text body }
      (EventRun.exec AsyncRun.step
        (AsyncRun.start (kind.transfer json onProgress bytes body) ()) events).log := by
  have kept : ∀ operation event,
      kind.Stage json onProgress bytes
        { method := .post, path := kind.initPath, body := .text body } operation →
      kind.Stage json onProgress bytes
        { method := .post, path := kind.initPath, body := .text body } (operation.step event) :=
    fun _ event stage => stage.step json kind onProgress bytes event
  have first : kind.Stage json onProgress bytes
      { method := .post, path := kind.initPath, body := .text body }
      (AsyncRun.start (kind.transfer json onProgress bytes body) ()) :=
    .token
  exact (EventRun.exec_invariant kept first events).uploadLog

/-- An upload succeeds only if all three requests have. -/
theorem UploadLog.of_success {init : HttpRequest} {log : List UploadEntry}
    (shown : kind.UploadLog json onProgress bytes init log) {info : FileInfo}
    (success : .completed (.ok info) ∈ log) :
    ∃ first token second third data, log.filterMap AsyncLogEntry.answer? = [first, second, third] ∧
      kind.TokenReceived json first token ∧ PutSucceeded second ∧
      kind.Completed json third data ∧ info = kind.result token.fileId data := by
  cases shown with
  | @succeeded first second third token received put request written data completed =>
      have same : info = kind.result token.fileId data := by
        cases onProgress <;> simpa [logToPutDone, logToPut, progressEntries] using success
      refine ⟨first, token, second, third, data, ?_, received, put, completed, same⟩
      cases onProgress <;> rfl
  | _ => cases onProgress <;> simp [logToPutDone, logToPut, progressEntries] at success

end UploadKind

namespace FileManager

variable (json : FileJson) (files : String → FileRead)

/-- An upload of a file that cannot be read ends at once. -/
theorem start_upload_of_unreadable {localPath : String} (unreadable : files localPath = .unreadable)
    (fileType : Int32) (onProgress : Bool) :
    AsyncRun.start (upload json files localPath fileType onProgress) () = ⟨(), [], []⟩ := by
  rw [upload, (readFileBytes_eq_none_iff files localPath).mpr unreadable]
  rfl

/-- What an upload of a kind shows: it fails before its first request, or else its
log is one of those of the three requests with the bytes of the file. -/
def Shows (kind : UploadKind) (localPath : String) (onProgress : Bool) (log : List UploadEntry) :
    Prop :=
  (∃ failure, log = [.completed (.error failure)]) ∨
    ∃ fileName bytes body, readFileBytes files localPath = some (.ok (fileName, bytes)) ∧
      kind.UploadLog json onProgress bytes
        { method := .post, path := kind.initPath, body := .text body } log

/-- An operation that only fails shows nothing else. -/
theorem log_exec_callBack (failure : Int32 × String)
    (events : List (AsyncEvent Unit RawResponse)) :
    (EventRun.exec AsyncRun.step
      (AsyncRun.start (callBack (.error failure) : Operation Unit UploadProgress FileInfo) ())
        events).log = [.completed (.error failure)] := by
  have kept : ∀ (operation : AsyncRun Unit HttpRequest RawResponse UploadProgress
      (Outcome FileInfo)) event, (operation.pending = [] ∧
        operation.log = [.completed (.error failure)]) →
      (operation.step event).pending = [] ∧
        (operation.step event).log = [.completed (.error failure)] := by
    rintro operation event ⟨idle, log⟩
    cases event with
    | other change => exact ⟨idle, log⟩
    | answer index raw =>
        rw [AsyncRun.step, idle]
        exact ⟨idle, log⟩
  exact (EventRun.exec_invariant kept ⟨rfl, rfl⟩ events).2

variable {files} in
theorem upload_shows {localPath : String} (readable : files localPath ≠ .unreadable)
    (fileType : Int32) (onProgress : Bool) (events : List (AsyncEvent Unit RawResponse)) :
    Shows json files uploadKind localPath onProgress
      (EventRun.exec AsyncRun.step
        (AsyncRun.start (upload json files localPath fileType onProgress) ()) events).log := by
  rw [upload]
  split
  · next thrown => exact absurd ((readFileBytes_eq_none_iff files localPath).mp thrown) readable
  · next failure _ => exact .inl ⟨failure, log_exec_callBack failure events⟩
  · next fileName bytes read =>
      split
      · next failure _ => exact .inl ⟨failure, log_exec_callBack failure events⟩
      · next body _ =>
          exact .inr ⟨fileName, bytes, body, read,
            uploadKind.uploadLog_exec json onProgress bytes body events⟩

variable {files} in
theorem uploadClientLog_shows {localPath : String} (readable : files localPath ≠ .unreadable)
    (onProgress : Bool) (expiresHours : Int32) (events : List (AsyncEvent Unit RawResponse)) :
    Shows json files (clientLogKind json) localPath onProgress
      (EventRun.exec AsyncRun.step
        (AsyncRun.start (uploadClientLog json files localPath onProgress expiresHours) ())
          events).log := by
  rw [uploadClientLog]
  split
  · next thrown => exact absurd ((readFileBytes_eq_none_iff files localPath).mp thrown) readable
  · next failure _ => exact .inl ⟨failure, log_exec_callBack failure events⟩
  · next fileName bytes read =>
      split
      · next failure _ => exact .inl ⟨failure, log_exec_callBack failure events⟩
      · next body _ =>
          exact .inr ⟨fileName, bytes, body, read,
            (clientLogKind json).uploadLog_exec json onProgress bytes body events⟩

end FileManager

end AnychatSdk
