import AnychatSdk.CApi.Accounts
import AnychatSdk.CApi.Contacts
import AnychatSdk.CApi.Messaging

/-!
# Callbacks of the C API

A caller who passes a callback struct should get the same request under way as
one who does not, and hear of its completion.  The check of the callback struct
is inverted: it refuses every struct and lets only the null pointer through.
-/

namespace AnychatSdk.CApi

/-- The asynchronous functions that take a callback struct. -/
def asyncEntries : List AsyncEntry :=
  clientEntries ++ authEntries ++ userEntries ++ versionEntries ++ messageEntries ++
    conversationEntries ++ fileEntries ++ friendEntries ++ groupEntries ++ callEntries

/-! ## Completions -/

namespace Completion

variable {V : Type}

/-- The function pointer that matches a completion. -/
def handler (callback : CallbackStruct) : Completion V → Option Nat
  | success _ => callback.onSuccess
  | error _ _ => callback.onError

/-- What the function is to be told. -/
def argument : Completion V → Argument V
  | success value => .value value
  | error code message => .failure code (if message = "" then none else some message)

/-- One call of the matching function, if the struct has it, with the user data of
the struct. -/
def expected (callback : CallbackStruct) (completion : Completion V) : List (Invocation V) :=
  (completion.handler callback).toList.map fun function =>
    { function := function, userdata := callback.userdata, argument := completion.argument }

end Completion

/-- The wrapping of a callback struct loses and repeats nothing. -/
theorem invoke_eq_expected {V : Type} (callback : CallbackStruct) (completion : Completion V) :
    invoke callback completion = completion.expected callback := by
  cases completion with
  | success value =>
      rw [invoke, Completion.expected, Completion.handler]
      cases callback.onSuccess <;> rfl
  | error code message =>
      rw [invoke, invokeError, Completion.expected, Completion.handler]
      cases callback.onError <;> rfl

/-- A call with a callback struct returns the same code and forwards the same
request as one without, and passes on every completion of the manager. -/
structure ReachesCaller (entry : AsyncEntry) (args : entry.Args) (callback : CallbackStruct) :
    Prop where
  sameCode : (entry.call true args (some callback)).code = (entry.call true args none).code
  sameRequest : (entry.call true args (some callback)).forwarded.map Dispatch.request =
    (entry.call true args none).forwarded.map Dispatch.request
  delivered : ∀ dispatch ∈ (entry.call true args (some callback)).forwarded,
    ∀ (V : Type) (completion : Completion V),
      invoke dispatch.callback completion = completion.expected callback

theorem refusal_ne_anychatOk :
    ∀ entry ∈ asyncEntries, entry.refusal ≠ anychatOk := by
  have checked : asyncEntries.all (fun entry => entry.refusal ≠ anychatOk) = true := by decide
  intro entry listed
  exact of_decide_eq_true (List.all_eq_true.mp checked entry listed)

/-- Callbacks reach the caller exactly where the arguments are refused anyway, so
that there is nothing to report. -/
theorem reachesCaller_iff {entry : AsyncEntry} (listed : entry ∈ asyncEntries)
    {args : entry.Args} (required : entry.hasRequired args = true) (callback : CallbackStruct) :
    ReachesCaller entry args callback ↔ entry.inRange args = false := by
  constructor
  · intro reaches
    have sameCode := reaches.sameCode
    rw [entry.call_some, entry.call_none required] at sameCode
    cases inRange : entry.inRange args with
    | false => rfl
    | true =>
        rw [inRange] at sameCode
        exact absurd sameCode (refusal_ne_anychatOk entry listed)
  · intro outOfRange
    have alone : entry.call true args none = { code := entry.refusal, forwarded := none } := by
      rw [entry.call_none required, outOfRange]
      rfl
    constructor
    · rw [entry.call_some, alone]
    · rw [entry.call_some, alone]
    · intro dispatch forwarded
      rw [entry.call_some] at forwarded
      exact nomatch forwarded

/-- A search for an unknown content type is refused with and without a callback. -/
theorem reachesCaller_search_unknown_type :
    ReachesCaller anychatMessageSearch (some "hello", none, 8, 20, 0)
      { userdata := 1, onSuccess := some 2, onError := some 3 } :=
  (reachesCaller_iff (by simp [asyncEntries, messageEntries]) (by decide) _).mpr (by decide)

/-- A text message is sent without a callback and refused with one. -/
theorem not_reachesCaller_send_text :
    ¬ReachesCaller anychatMessageSendText (some "c1", some "hello")
      { userdata := 1, onSuccess := some 2, onError := some 3 } := by
  intro reaches
  exact absurd reaches.sameCode (by decide)

end AnychatSdk.CApi
