import AnychatSdk.Lib.LabelledRun
import AnychatSdk.Network.HttpRequests

/-!
# The HTTP client and its worker

`HttpClient` owns a queue of requests and a worker thread.  Any thread may append
to the queue; the worker hands everything queued to libcurl, lets the transfers
make progress and harvests those that are done, calling back for each of them.

The threads interleave at every lock: a call of `enqueue` has built its request,
and read the token for it, before it takes the lock of the queue.  What a
transfer receives and how it ends is up to the server and to libcurl, which
reports every finished transfer in one message, in the order in which they
finished.  The callbacks are data of an arbitrary type; what they do is a matter
of later events.
-/

namespace AnychatSdk

/-- The result of a transfer in libcurl; a failure comes with the text of
`curl_easy_strerror`. -/
inductive CurlResult where
  | ok
  | failed (text : String)

/-- How a transfer ends: its `CURLINFO_RESPONSE_CODE` and its result. -/
structure TransferResult where
  responseCode : Int64
  result : CurlResult

/-- `HttpResponse` with the bytes of its body. -/
structure TransferResponse where
  statusCode : Int32
  body : List UInt8
  error : String

/-- The response made from a finished transfer and the bytes it has received. -/
def TransferResult.response (transfer : TransferResult) (responseBody : List UInt8) :
    TransferResponse where
  statusCode := transfer.responseCode.toInt32
  body := responseBody
  error :=
    match transfer.result with
    | .ok => ""
    | .failed text => text

/-- The options of the easy handle that depend on the method. -/
structure MethodOptions where
  post : Bool := false
  customRequest : Option String := none
  postFields : Option RequestBody := none

def HttpMethod.options (method : HttpMethod) (body : RequestBody) : MethodOptions :=
  match method with
  | .post => { post := true, postFields := some body }
  | .put => { customRequest := some "PUT", postFields := some body }
  | .patch => { customRequest := some "PATCH", postFields := some body }
  | .del => { customRequest := some "DELETE" }
  | .get => {}

/-- `RequestCtx` with the options of its easy handle.  The serial number stands
for its address. -/
structure RequestCtx (κ : Type) where
  serial : Nat
  url : String
  headers : List String
  options : MethodOptions
  responseBody : List UInt8 := []
  callback : Option κ

/-- `path.rfind("http://", 0) == 0 || path.rfind("https://", 0) == 0` -/
def isAbsoluteUrl (path : String) : Bool :=
  "http://".toList.isPrefixOf path.toList || "https://".toList.isPrefixOf path.toList

/-- Where the worker is in its loop: before the test of `running`, before it
empties the queue, inside libcurl, before it reads a message, or at the end. -/
inductive WorkerPoint where
  | top
  | taking
  | performing
  | harvesting
  | returned
  deriving DecidableEq

/-- `HttpClient::Impl`.  A context that a call of `enqueue` has built is in
`building` until it is pushed, then in `pending`, then in `multi` while it is
transferred; `done` holds the messages of libcurl. -/
structure HttpClient (κ : Type) where
  baseUrl : String
  authToken : String := ""
  building : List (RequestCtx κ) := []
  pending : List (RequestCtx κ) := []
  multi : List (RequestCtx κ) := []
  done : List (RequestCtx κ × TransferResult) := []
  running : Bool := true
  point : WorkerPoint := .top
  issued : Nat := 0
  destroyed : Bool := false

/-- The body of a request that `get` and `del` pass on. -/
def HttpMethod.body (method : HttpMethod) (body : RequestBody) : RequestBody :=
  match method with
  | .get | .del => .text ""
  | .post | .put | .patch => body

namespace HttpClient

inductive Event (κ : Type) where
  | setAuthToken (token : String)
  | clearAuthToken
  /-- `get`, `post`, `put`, `patch` or `del`, up to the lock of the queue -/
  | enqueue (request : HttpRequest) (callback : Option κ)
  /-- The rest of `enqueue` -/
  | push (serial : Nat)
  /-- The next statement of the worker -/
  | advance
  /-- `write_cb` -/
  | receive (serial : Nat) (bytes : List UInt8)
  /-- A transfer ends -/
  | finish (serial : Nat) (result : TransferResult)
  /-- The destructor begins -/
  | stop
  /-- The destructor has joined the worker and cleaned up -/
  | cleanup

/-- What is seen of the requests: they are issued, receive bytes, finish and are
answered. -/
inductive Output (κ : Type) where
  | issued (ctx : RequestCtx κ)
  | received (serial : Nat) (bytes : List UInt8)
  | finished (serial : Nat) (result : TransferResult)
  | answered (serial : Nat) (callback : Option κ) (response : TransferResponse)

variable {κ : Type}

/-- The headers that `enqueue` sets; libcurl copies them as C strings. -/
def headers (method : HttpMethod) (path authToken : String) : List String :=
  if isAbsoluteUrl path then
    if method = .put then ["Content-Type: application/octet-stream"] else []
  else
    ["Content-Type: application/json", "Accept: application/json"] ++
      if authToken = "" then [] else [cString ("Authorization: Bearer " ++ authToken)]

/-- The context that `enqueue` builds; the URL is handed over by `c_str()`. -/
def context (client : HttpClient κ) (request : HttpRequest) (callback : Option κ) :
    RequestCtx κ where
  serial := client.issued
  url :=
    cString (if isAbsoluteUrl request.path then request.path else client.baseUrl ++ request.path)
  headers := headers request.method request.path client.authToken
  options := request.method.options (request.method.body request.body)
  callback := callback

/-- `write_cb`. -/
def writeCb (serial : Nat) (bytes : List UInt8) (ctx : RequestCtx κ) : RequestCtx κ :=
  if ctx.serial = serial then { ctx with responseBody := ctx.responseBody ++ bytes } else ctx

/-- The next statement of `loop`. -/
def loop (client : HttpClient κ) : HttpClient κ × List (Output κ) :=
  match client.point with
  | .top => ({ client with point := if client.running then .taking else .returned }, [])
  | .taking =>
      ({ client with
        multi := client.multi ++ client.pending
        pending := []
        point := .performing }, [])
  | .performing => ({ client with point := .harvesting }, [])
  | .harvesting =>
      match client.done with
      | [] => ({ client with point := .top }, [])
      | (ctx, result) :: done =>
          ({ client with done := done },
            [.answered ctx.serial ctx.callback (result.response ctx.responseBody)])
  | .returned => (client, [])

/-- One step of a client that still exists.  Libcurl only works while the worker
is inside it. -/
def react (client : HttpClient κ) : Event κ → HttpClient κ × List (Output κ)
  | .setAuthToken token => ({ client with authToken := token }, [])
  | .clearAuthToken => ({ client with authToken := "" }, [])
  | .enqueue request callback =>
      let ctx := client.context request callback
      ({ client with building := client.building ++ [ctx], issued := client.issued + 1 },
        [.issued ctx])
  | .push serial =>
      match client.building.find? (·.serial = serial) with
      | none => (client, [])
      | some ctx =>
          ({ client with
            building := client.building.eraseP (·.serial = serial)
            pending := client.pending ++ [ctx] }, [])
  | .advance => client.loop
  | .receive serial bytes =>
      if client.point = .performing ∧ client.multi.any (·.serial = serial) then
        ({ client with multi := client.multi.map (writeCb serial bytes) },
          [.received serial bytes])
      else (client, [])
  | .finish serial result =>
      match client.multi.find? (·.serial = serial) with
      | none => (client, [])
      | some ctx =>
          if client.point = .performing then
            ({ client with
              multi := client.multi.eraseP (·.serial = serial)
              done := client.done ++ [(ctx, result)] }, [.finished serial result])
          else (client, [])
  | .stop => ({ client with running := false }, [])
  | .cleanup =>
      ({ client with destroyed := !client.running && decide (client.point = .returned) }, [])

/-- Nothing happens to a client that is gone. -/
def handle (client : HttpClient κ) (event : Event κ) : HttpClient κ × List (Output κ) :=
  if client.destroyed then (client, []) else client.react event

def step (client : HttpClient κ) (event : Event κ) : HttpClient κ :=
  (client.handle event).1

def emit (client : HttpClient κ) (event : Event κ) : List (Output κ) :=
  (client.handle event).2

end HttpClient

end AnychatSdk
