import AnychatSdk.Types

/-!
# Asynchronous entry points of the C API

Every asynchronous function of the C API checks its arguments, converts them,
and calls one method of a manager with a C++ callback made of the callback
struct.  The functions are alike but for what they check and convert.
-/

namespace AnychatSdk.CApi

/-! ## Pointers and error codes -/

/-- A `const char*`. -/
abbrev CString := Option String

/-- The text behind a pointer; a null pointer that may be null counts as empty. -/
def CString.text (pointer : CString) : String :=
  pointer.getD ""

def anychatOk : Int32 := 0

def anychatErrorInvalidParam : Int32 := 1

/-! ## Callback structs -/

/-- A callback struct; function pointers and user data are named by numbers. -/
structure CallbackStruct where
  userdata : Nat := 0
  onSuccess : Option Nat := none
  onError : Option Nat := none
  deriving DecidableEq

/-- How a manager completes a request; `V` is the type of its results. -/
inductive Completion (V : Type) where
  | success (value : V)
  | error (code : Int32) (message : String)

/-- What a C function of a callback struct is called with besides the user data.
A result is passed on as its C counterpart. -/
inductive Argument (V : Type) where
  | value (value : V)
  | failure (code : Int32) (message : CString)

/-- One call of a function pointer. -/
structure Invocation (V : Type) where
  function : Nat
  userdata : Nat
  argument : Argument V

/-- `validateCallbackStruct`. -/
def validateCallbackStruct (callback : Option CallbackStruct) : Bool :=
  if callback.isSome then false else true

/-- `copyCallbackStruct`. -/
def copyCallbackStruct (callback : Option CallbackStruct) : CallbackStruct :=
  match callback with
  | none => {}
  | some callback => callback

/-- `invokeMessageError` and its siblings: an empty text becomes a null pointer. -/
def invokeError {V : Type} (callback : CallbackStruct) (code : Int32) (error : String) :
    List (Invocation V) :=
  match callback.onError with
  | none => []
  | some function =>
      [{ function := function
         userdata := callback.userdata
         argument := .failure code (if error = "" then none else some error) }]

/-- The C++ callback made of a callback struct: the calls it makes on a
completion. -/
def invoke {V : Type} (callback : CallbackStruct) : Completion V → List (Invocation V)
  | .success value =>
      match callback.onSuccess with
      | none => []
      | some function =>
          [{ function := function, userdata := callback.userdata, argument := .value value }]
  | .error code message => invokeError callback code message

/-! ## Entry points -/

/-- What sets one asynchronous function apart: its arguments without handle and
callback, the pointers among them that may not be null, the values it takes, and
the request it makes of its manager. -/
structure AsyncEntry where
  Args : Type
  Request : Type
  hasRequired : Args → Bool := fun _ => true
  inRange : Args → Bool := fun _ => true
  request : Args → Request
  refusal : Int32 := anychatErrorInvalidParam

/-- A call of a manager: the request and the copy of the callback struct. -/
structure Dispatch (Request : Type) where
  request : Request
  callback : CallbackStruct

/-- What an entry point returns, and the call it forwards. -/
structure CallResult (Request : Type) where
  code : Int32
  forwarded : Option (Dispatch Request)

namespace AsyncEntry

/-- An asynchronous function.  The order of the checks differs between the
functions, but all refusals are alike. -/
def call (entry : AsyncEntry) (hasHandle : Bool) (args : entry.Args)
    (callback : Option CallbackStruct) : CallResult entry.Request :=
  if !hasHandle || !entry.hasRequired args then { code := entry.refusal, forwarded := none }
  else if !validateCallbackStruct callback then { code := entry.refusal, forwarded := none }
  else if !entry.inRange args then { code := entry.refusal, forwarded := none }
  else
    { code := anychatOk
      forwarded := some
        { request := entry.request args, callback := copyCallbackStruct callback } }

/-! ## Common shapes -/

section Shapes

variable {Request α : Type}

/-- No arguments. -/
def ofNothing (request : Request) : AsyncEntry where
  Args := Unit
  Request := Request
  request := fun () => request

/-- One required text. -/
def ofText (request : String → Request) : AsyncEntry where
  Args := CString
  Request := Request
  hasRequired := Option.isSome
  request := fun first => request first.text

/-- Two required texts. -/
def ofTexts (request : String → String → Request) : AsyncEntry where
  Args := CString × CString
  Request := Request
  hasRequired := fun (first, second) => first.isSome && second.isSome
  request := fun (first, second) => request first.text second.text

/-- Any arguments, none of them required. -/
def ofValue (request : α → Request) : AsyncEntry where
  Args := α
  Request := Request
  request := request

/-- One required text and other arguments. -/
def ofTextAnd (request : String → α → Request) : AsyncEntry where
  Args := CString × α
  Request := Request
  hasRequired := fun (first, _) => first.isSome
  request := fun (first, rest) => request first.text rest

end Shapes

/-! ## Refusals -/

section Refusals

variable (entry : AsyncEntry) {args : entry.Args}

/-- A function that is given a callback struct does nothing. -/
theorem call_some (hasHandle : Bool) (callback : CallbackStruct) :
    entry.call hasHandle args (some callback) =
      { code := entry.refusal, forwarded := none } := by
  rw [call]
  split <;> rfl

theorem call_none (required : entry.hasRequired args = true) :
    entry.call true args none =
      if entry.inRange args then
        { code := anychatOk
          forwarded := some { request := entry.request args, callback := {} } }
      else { code := entry.refusal, forwarded := none } := by
  cases inRange : entry.inRange args with
  | false => simp [call, validateCallbackStruct, required, inRange]
  | true => simp [call, validateCallbackStruct, copyCallbackStruct, required, inRange]

end Refusals

end AsyncEntry

end AnychatSdk.CApi
