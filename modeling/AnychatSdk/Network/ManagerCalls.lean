import AnychatSdk.Lib.AsyncScope
import AnychatSdk.Network.HttpRequests

/-!
# Functions of the managers with one request

Most functions of the managers check their arguments, write a body, send one
request and decode the envelope of its response.  A function is given by the
request, or the error that it calls back with at once, and by what its handler
does with a response.
-/

namespace AnychatSdk

/-- How the envelope of a response is decoded. -/
structure Decoding (α : Type) where
  read : String → ResponseBody α
  fallbackError : String := "server error"
  requireHttp200 : Bool := false
  requireHttp2xx : Bool := false

/-- Decoding with the status 200 required. -/
def Decoding.with200 {α : Type} (read : String → ResponseBody α) (fallbackError : String) :
    Decoding α where
  read := read
  fallbackError := fallbackError
  requireHttp200 := true

def Decoding.parse {α : Type} (decoding : Decoding α) (raw : RawResponse) : Outcome α :=
  parseApiEnvelopeResponse (raw.read decoding.read) decoding.fallbackError
    decoding.requireHttp200 decoding.requireHttp2xx

structure ManagerCall (σ ρ : Type) where
  Data : Type
  request : Except (Int32 × String) HttpRequest
  decoding : Decoding Data
  handle : RawResponse → σ → Outcome ρ × σ

/-- Write the body of a request. -/
def withBody {β : Type} (method : HttpMethod) (path : String) (write : β → Except String String)
    (body : β) : Except (Int32 × String) HttpRequest :=
  (writeJson write body).map fun json => { method := method, path := path, body := .text json }

/-- Refuse an argument. -/
def refuse {α : Type} (message : String) : Except (Int32 × String) α :=
  .error (-1, message)

section

variable {σ ε ρ : Type} {Allowed : HttpRequest → Prop}

@[simp]
theorem asks_callBack (outcome : Outcome ρ) :
    (callBack outcome : Operation σ ε ρ).Asks Allowed :=
  trivial

@[simp]
theorem asks_sendRequest (request : HttpRequest) (handler : RawResponse → Operation σ ε ρ) :
    (sendRequest request handler).Asks Allowed ↔
      Allowed request ∧ ∀ response, (handler response).Asks Allowed := by
  simp [sendRequest, AsyncCode.Asks]

@[simp]
theorem asks_act (change : σ → σ) (next : σ → Operation σ ε ρ) :
    (AsyncCode.act change next).Asks Allowed ↔ ∀ state, (next state).Asks Allowed :=
  Iff.rfl

end

namespace ManagerCall

variable {σ ε α ρ : Type}

/-- Call back with what the data gives, and keep some of it. -/
def storing (request : Except (Int32 × String) HttpRequest) (decoding : Decoding α)
    (store : α → σ → σ) (result : α → Outcome ρ) : ManagerCall σ ρ where
  Data := α
  request := request
  decoding := decoding
  handle raw state :=
    match decoding.parse raw with
    | .error failure => (.error failure, state)
    | .ok data => (result data, store data state)

/-- Only call back. -/
def fetching (request : Except (Int32 × String) HttpRequest) (decoding : Decoding α)
    (result : α → Outcome ρ) : ManagerCall σ ρ :=
  storing request decoding (fun _ state => state) result

/-- `completeRequest` and `completeEmptyRequest`: the response carries nothing. -/
def completing (request : Except (Int32 × String) HttpRequest) (decoding : Decoding Unit) :
    ManagerCall σ Unit :=
  fetching request decoding .ok

/-- The function as code. -/
def code (call : ManagerCall σ ρ) : Operation σ ε ρ :=
  match call.request with
  | .error failure => callBack (.error failure)
  | .ok request =>
      sendRequest request fun raw =>
        .act (fun state => (call.handle raw state).2) fun state =>
          callBack (call.handle raw state).1

theorem code_completes (call : ManagerCall σ ρ) :
    (call.code : Operation σ ε ρ).CompletesWithin 1 := by
  rw [code]
  split
  · exact completesWithin_callBack _ 1
  · simp

theorem code_asks {Allowed : HttpRequest → Prop} {call : ManagerCall σ ρ}
    (allowed : ∀ request, call.request = .ok request → Allowed request) :
    (call.code : Operation σ ε ρ).Asks Allowed := by
  rw [code]
  split
  · trivial
  · next request made => exact ⟨allowed request made, fun _ _ => trivial, trivial⟩

end ManagerCall

/-! ## Paths -/

/-- A path on the server of the API. -/
def RootedPath (path : String) : Prop :=
  path.toList.head? = some '/'

instance (path : String) : Decidable (RootedPath path) :=
  inferInstanceAs (Decidable (path.toList.head? = some '/'))

theorem RootedPath.append {path : String} (rooted : RootedPath path) (rest : String) :
    RootedPath (path ++ rest) := by
  rw [RootedPath] at rooted ⊢
  rw [String.toList_append, List.head?_append, rooted]
  rfl

def HttpRequest.Rooted (request : HttpRequest) : Prop :=
  RootedPath request.path

/-- The bytes of a file go to a URL that the server has named. -/
def HttpRequest.IsUpload (request : HttpRequest) : Prop :=
  request.method = .put ∧ ∃ content, request.body = .bytes content

/-- A request to the API, or an upload. -/
def HttpRequest.OfApi (request : HttpRequest) : Prop :=
  request.Rooted ∨ request.IsUpload

theorem rooted_of_withBody {β : Type} {method : HttpMethod} {path : String}
    {write : β → Except String String} {body : β} (rooted : RootedPath path)
    {request : HttpRequest} (made : withBody method path write body = .ok request) :
    request.Rooted := by
  rw [withBody] at made
  cases written : writeJson write body with
  | error failure => rw [written] at made; cases made
  | ok json =>
      rw [written] at made
      cases made
      exact rooted

/-- A request that is made after a check of the arguments. -/
theorem rooted_of_checked {refused : Prop} [Decidable refused] {message : String}
    {made : Except (Int32 × String) HttpRequest}
    (rooted : ∀ request, made = .ok request → request.Rooted) {request : HttpRequest}
    (checked : (if refused then refuse message else made) = .ok request) : request.Rooted := by
  by_cases fails : refused
  · rw [if_pos fails] at checked
    cases checked
  · rw [if_neg fails] at checked
    exact rooted request checked

theorem HttpRequest.OfApi.rooted {method : HttpMethod} {path : String} {body : RequestBody}
    (rooted : RootedPath path) :
    HttpRequest.OfApi { method := method, path := path, body := body } :=
  .inl rooted

/-- All requests of the function go to the API. -/
def ManagerCall.Rooted {σ ρ : Type} (call : ManagerCall σ ρ) : Prop :=
  ∀ request, call.request = .ok request → request.Rooted

theorem ManagerCall.rooted_of_ok {σ ρ : Type} {call : ManagerCall σ ρ} {request : HttpRequest}
    (made : call.request = .ok request) (rooted : RootedPath request.path) : call.Rooted := by
  intro other same
  rw [made] at same
  cases same
  exact rooted

/-- The function on a part of a larger state. -/
def ManagerCall.within {σ τ ρ : Type} (read : τ → σ) (write : σ → τ → τ)
    (call : ManagerCall σ ρ) : ManagerCall τ ρ where
  Data := call.Data
  request := call.request
  decoding := call.decoding
  handle raw state :=
    ((call.handle raw (read state)).1, write (call.handle raw (read state)).2 state)

end AnychatSdk
