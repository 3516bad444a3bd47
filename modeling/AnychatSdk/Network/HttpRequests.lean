import AnychatSdk.Lib.AsyncCode
import AnychatSdk.MessageManager

/-!
# Requests of the managers

A manager sends HTTP requests, each with a handler for its response, and ends by
calling `on_success` or `on_error`.  Responses come with the body as text; what
the JSON library reads in it, and what it writes for a request, are parameters.
-/

namespace AnychatSdk

inductive HttpMethod where
  | get
  | post
  | put
  | patch
  | del
  deriving DecidableEq

/-- A JSON text or the bytes of a file. -/
inductive RequestBody where
  | text (json : String)
  | bytes (content : List UInt8)
  deriving DecidableEq

structure HttpRequest where
  method : HttpMethod
  path : String
  body : RequestBody := .text ""
  deriving DecidableEq

/-- `network::HttpResponse`. -/
structure RawResponse where
  error : String := ""
  statusCode : Int32 := 0
  body : String := ""

/-- The response with its body as `readJson` reads it. -/
def RawResponse.read {α : Type} (readJson : String → ResponseBody α) (response : RawResponse) :
    HttpResponse α where
  error := response.error
  statusCode := response.statusCode
  body := if response.body = "" then .empty else readJson response.body

/-- `writeJson`: the text, or the error that goes to the callback. -/
def writeJson {β : Type} (write : β → Except String String) (value : β) :
    Except (Int32 × String) String :=
  match write value with
  | .ok json => .ok json
  | .error error => .error (-1, "serialize error: " ++ error)

/-- An operation of a manager with state `σ`, which reports `ε` on the way and
calls back with `ρ`. -/
abbrev Operation (σ ε ρ : Type) :=
  AsyncCode σ HttpRequest RawResponse ε (Outcome ρ)

/-- Call `on_success` or `on_error` and return. -/
def callBack {σ ε ρ : Type} (outcome : Outcome ρ) : Operation σ ε ρ :=
  .complete outcome .stop

/-- Send a request and return. -/
def sendRequest {σ ε ρ : Type} (request : HttpRequest) (handler : RawResponse → Operation σ ε ρ) :
    Operation σ ε ρ :=
  .ask request handler .stop

section

variable {σ ε ρ : Type}

@[simp]
theorem completesWithin_callBack (outcome : Outcome ρ) (bound : Nat) :
    (callBack outcome : Operation σ ε ρ).CompletesWithin bound := by
  simp [callBack]

@[simp]
theorem completesWithin_sendRequest (request : HttpRequest)
    (handler : RawResponse → Operation σ ε ρ) (bound : Nat) :
    (sendRequest request handler).CompletesWithin (bound + 1) ↔
      ∀ response, (handler response).CompletesWithin bound := by
  simp [sendRequest]

end

end AnychatSdk
