import AnychatSdk.Types
import Mathlib.Algebra.Group.Nat.Defs
import Mathlib.Data.List.TakeWhile

/-!
# Decoding of JSON values

The relaxed decoders the SDK applies to values that servers send in several
shapes.  The JSON parser itself is outside the repository, so the model starts
from what it delivers: a variant saying which alternative a value was read as.
Strings are C strings wherever the source goes through `c_str()`: reading stops
at the first NUL.
-/

namespace AnychatSdk

/-! ## Text -/

/-- What a NUL-terminated read of the text yields. -/
def cString (text : String) : String :=
  String.ofList (text.toList.takeWhile (· ≠ '\x00'))

/-- The text contains no NUL, so a NUL-terminated read returns all of it. -/
def NulFree (text : String) : Prop :=
  ∀ char ∈ text.toList, char ≠ '\x00'

instance (text : String) : Decidable (NulFree text) :=
  List.decidableBAll (fun char => char ≠ '\x00') text.toList

theorem nulFree_empty : NulFree "" := by
  decide

theorem cString_eq_self {text : String} (nulFree : NulFree text) : cString text = text := by
  have whole : text.toList.takeWhile (· ≠ '\x00') = text.toList :=
    List.takeWhile_eq_self_iff.mpr fun char member => by simpa using nulFree char member
  rw [cString, whole, String.ofList_toList]

theorem nulFree_cString (text : String) : NulFree (cString text) := by
  intro char member
  rw [cString, String.toList_ofList] at member
  simpa using List.mem_takeWhile_imp member

theorem cString_append_of_nulFree {front : String} (nulFree : NulFree front) (rest : String) :
    cString (front ++ rest) = front ++ cString rest := by
  have kept : ∀ char ∈ front.toList, decide (char ≠ '\x00') = true :=
    fun char member => decide_eq_true (nulFree char member)
  rw [cString, String.toList_append, List.takeWhile_append_of_pos kept, String.ofList_append,
    String.ofList_toList, cString]

/-- What follows a NUL is never read. -/
theorem cString_append_of_not_nulFree {front : String} (nul : ¬NulFree front) (rest : String) :
    cString (front ++ rest) = cString front := by
  have stops : (front.toList.takeWhile (· ≠ '\x00')).length ≠ front.toList.length := by
    intro whole
    refine nul fun char member => ?_
    have all := (List.takeWhile_prefix (· ≠ '\x00')).eq_of_length whole
    rw [← all] at member
    simpa using List.mem_takeWhile_imp member
  rw [cString, String.toList_append, List.takeWhile_append, if_neg stops, cString]

theorem cString_eq_self_iff {text : String} : cString text = text ↔ NulFree text :=
  ⟨fun unchanged => unchanged ▸ nulFree_cString text, cString_eq_self⟩

/-- `toLower` in the C locale: only ASCII letters change. -/
def toLower (text : String) : String :=
  String.ofList (text.toList.map Char.toLower)

/-- `std::isspace` in the C locale. -/
def isSpace (char : Char) : Bool :=
  char = ' ' || ('\t' ≤ char && char ≤ '\r')

/-! ## Decimal integers -/

/-- An optional sign in front of the rest of the text. -/
def takeSign : List Char → Bool × List Char
  | '-' :: rest => (true, rest)
  | '+' :: rest => (false, rest)
  | rest => (false, rest)

/-- Leading white space, an optional sign and a non-empty run of digits; `none`
when there is no digit to convert. -/
def scanInteger (text : List Char) : Option (Int × List Char) :=
  let signed := takeSign (text.dropWhile isSpace)
  let digits := signed.2.takeWhile Char.isDigit
  if digits = [] then
    none
  else
    let magnitude : Int := Nat.ofDigitChars 10 digits 0
    some (if signed.1 then -magnitude else magnitude, signed.2.dropWhile Char.isDigit)

theorem takeSign_dropWhile_cons_of_isDigit {first : Char} (digit : first.isDigit = true)
    (rest : List Char) :
    takeSign ((first :: rest).dropWhile isSpace) = (false, first :: rest) := by
  have notSpace : isSpace first = false := by
    by_contra space
    simp only [isSpace, Bool.not_eq_false, Bool.or_eq_true, decide_eq_true_eq,
      Bool.and_eq_true] at space
    rcases space with blank | ⟨_, control⟩
    · subst blank
      exact absurd digit (by decide)
    · simp only [Char.isDigit, Bool.and_eq_true, decide_eq_true_eq] at digit
      exact absurd (UInt32.le_trans digit.1 control) (by decide)
  have notMinus : first ≠ '-' := by
    rintro rfl
    exact absurd digit (by decide)
  have notPlus : first ≠ '+' := by
    rintro rfl
    exact absurd digit (by decide)
  rw [List.dropWhile_cons, notSpace]
  simp [takeSign, notMinus, notPlus]

theorem takeSign_dropWhile_append {digits : List Char} (nonempty : digits ≠ [])
    (areDigits : ∀ char ∈ digits, char.isDigit = true) (rest : List Char) :
    takeSign ((digits ++ rest).dropWhile isSpace) = (false, digits ++ rest) := by
  cases digits with
  | nil => exact absurd rfl nonempty
  | cons first more =>
      exact takeSign_dropWhile_cons_of_isDigit (areDigits first List.mem_cons_self) _

/-- A run of digits behind the sign scans to its number, with what follows left over. -/
theorem scanInteger_of_takeSign {text digits rest : List Char} {negative : Bool}
    (signed : takeSign (text.dropWhile isSpace) = (negative, digits ++ rest))
    (nonempty : digits ≠ []) (areDigits : ∀ char ∈ digits, char.isDigit = true)
    (stops : ∀ char ∈ rest.head?, char.isDigit = false) :
    scanInteger text =
      some (if negative then -(Nat.ofDigitChars 10 digits 0 : Int)
        else Nat.ofDigitChars 10 digits 0, rest) := by
  have restStops : rest.takeWhile Char.isDigit = [] ∧ rest.dropWhile Char.isDigit = rest := by
    cases rest with
    | nil => exact ⟨rfl, rfl⟩
    | cons first more =>
        have notDigit := stops first rfl
        exact ⟨List.takeWhile_cons_of_neg (by simp [notDigit]),
          List.dropWhile_cons_of_neg (by simp [notDigit])⟩
  have taken : (digits ++ rest).takeWhile Char.isDigit = digits := by
    rw [List.takeWhile_append_of_pos areDigits, restStops.1, List.append_nil]
  have dropped : (digits ++ rest).dropWhile Char.isDigit = rest := by
    rw [List.dropWhile_append_of_pos areDigits, restStops.2]
  simp only [scanInteger, signed, taken, dropped, if_neg nonempty]

/-- Saturation to the range of `int64_t`, as `strtoll` does on overflow. -/
def saturateInt64 (value : Int) : Int64 :=
  if value < Int64.minValue.toInt then Int64.minValue
  else if Int64.maxValue.toInt < value then Int64.maxValue
  else Int64.ofInt value

/-- `std::stoll`; `none` stands for the exceptions it throws on text without a
number and on numbers outside `int64_t`. -/
def stoll (text : String) : Option Int64 :=
  match scanInteger (cString text).toList with
  | none => none
  | some (value, _) =>
      if value < Int64.minValue.toInt ∨ Int64.maxValue.toInt < value then none
      else some (Int64.ofInt value)

/-- `std::strtoll`: text without a number counts as 0. -/
def strtoll (text : String) : Int64 :=
  match scanInteger (cString text).toList with
  | none => 0
  | some (value, _) => saturateInt64 value

/-- `parseInt64String`: the whole C string has to be a number.  Without digits
`strtoll` converts nothing and leaves the end pointer at the start of the text. -/
def parseInt64String (text : String) (default : Int64) : Int64 :=
  if text = "" then
    default
  else
    match scanInteger (cString text).toList with
    | none => if cString text = "" then 0 else default
    | some (value, rest) => if rest = [] then saturateInt64 value else default

theorem areDigits_toDigits (magnitude : Nat) :
    ∀ char ∈ Nat.toDigits 10 magnitude, char.isDigit = true :=
  fun _ member => Nat.isDigit_of_mem_toDigits (by decide) (by decide) member

theorem scanInteger_toDigits (magnitude : Nat) :
    scanInteger (Nat.toDigits 10 magnitude) = some ((magnitude : Int), []) := by
  have digits := areDigits_toDigits magnitude
  have unsigned : takeSign ((Nat.toDigits 10 magnitude).dropWhile isSpace) =
      (false, Nat.toDigits 10 magnitude ++ []) := by
    simpa using takeSign_dropWhile_append Nat.toDigits_ne_nil digits []
  rw [scanInteger_of_takeSign unsigned Nat.toDigits_ne_nil digits (by simp),
    Nat.ofDigitChars_ten_toDigits]
  rfl

theorem scanInteger_minus_toDigits (magnitude : Nat) :
    scanInteger ('-' :: Nat.toDigits 10 magnitude) = some (-(magnitude : Int), []) := by
  have notSpace : isSpace '-' = false := by decide
  have minus : takeSign (('-' :: Nat.toDigits 10 magnitude).dropWhile isSpace) =
      (true, Nat.toDigits 10 magnitude ++ []) := by
    rw [List.dropWhile_cons, notSpace, List.append_nil]
    rfl
  rw [scanInteger_of_takeSign minus Nat.toDigits_ne_nil (areDigits_toDigits magnitude) (by simp),
    Nat.ofDigitChars_ten_toDigits]
  rfl

/-- Decimal text of an integer, as the database and `std::to_string` print it,
reads back as that integer. -/
theorem scanInteger_toString (value : Int) :
    scanInteger (toString value).toList = some (value, []) := by
  cases value with
  | ofNat magnitude =>
      change scanInteger (Nat.repr magnitude).toList = _
      rw [Nat.toList_repr, scanInteger_toDigits]
      rfl
  | negSucc magnitude =>
      change scanInteger ("-" ++ Nat.repr (magnitude + 1)).toList = _
      rw [String.toList_append, Nat.toList_repr]
      change scanInteger ('-' :: Nat.toDigits 10 (magnitude + 1)) = _
      rw [scanInteger_minus_toDigits, Int.negSucc_eq]
      rfl

/-- A printed number consists of digits, perhaps with a minus. -/
theorem mem_toString {value : Int} {char : Char} (member : char ∈ (toString value).toList) :
    char.isDigit = true ∨ char = '-' := by
  cases value with
  | ofNat magnitude =>
      change char ∈ (Nat.repr magnitude).toList at member
      rw [Nat.toList_repr] at member
      exact Or.inl (areDigits_toDigits magnitude char member)
  | negSucc magnitude =>
      change char ∈ ("-" ++ Nat.repr (magnitude + 1)).toList at member
      rw [String.toList_append, Nat.toList_repr] at member
      rcases List.mem_append.mp member with sign | digit
      · exact Or.inr (List.mem_singleton.mp sign)
      · exact Or.inl (areDigits_toDigits (magnitude + 1) char digit)

theorem nulFree_toString (value : Int) : NulFree (toString value) := by
  rintro char member rfl
  rcases mem_toString member with digit | minus
  · exact absurd digit (by decide)
  · exact absurd minus (by decide)

/-- Every 64-bit integer survives being printed and read back. -/
@[simp]
theorem stoll_toString (value : Int64) : stoll (toString value) = some value := by
  have lower := value.le_toInt
  have upper := value.toInt_lt
  have inRange : ¬(value.toInt < Int64.minValue.toInt ∨ Int64.maxValue.toInt < value.toInt) := by
    have minimum : Int64.minValue.toInt = -2 ^ 63 := by decide
    have maximum : Int64.maxValue.toInt = 2 ^ 63 - 1 := by decide
    omega
  change stoll (toString value.toInt) = _
  rw [stoll, cString_eq_self (nulFree_toString _), scanInteger_toString]
  simp only [if_neg inRange, Int64.ofInt_toInt]

@[simp]
theorem strtoll_toString (value : Int64) : strtoll (toString value) = value := by
  have lower := value.le_toInt
  have upper := value.toInt_lt
  have minimum : Int64.minValue.toInt = -2 ^ 63 := by decide
  have maximum : Int64.maxValue.toInt = 2 ^ 63 - 1 := by decide
  have notBelow : ¬value.toInt < Int64.minValue.toInt := by omega
  have notAbove : ¬Int64.maxValue.toInt < value.toInt := by omega
  change strtoll (toString value.toInt) = _
  rw [strtoll, cString_eq_self (nulFree_toString _), scanInteger_toString]
  simp only [saturateInt64, if_neg notBelow, if_neg notAbove, Int64.ofInt_toInt]

/-! ## Relaxed values -/

/-- `std::variant<int64_t, double, std::string>`. -/
inductive IntegerValue where
  | int64 (value : Int64)
  | double (value : Float)
  | string (text : String)

/-- `std::variant<bool, int64_t, double, std::string>`. -/
inductive BooleanValue where
  | bool (value : Bool)
  | int64 (value : Int64)
  | double (value : Float)
  | string (text : String)

/-- Message content: a string, or the raw text of any other JSON value together
with what the JSON library makes of that text when it is read as a string. -/
inductive MessageContentValue where
  | string (text : String)
  | rawJson (raw : String) (asString : Option String)

def parseInt64Value (value : Option IntegerValue) (default : Int64) : Int64 :=
  match value with
  | none => default
  | some (.int64 value) => value
  | some (.double value) => value.toInt64
  | some (.string text) => parseInt64String text default

/-- `parseInt32Value`: the 64-bit value cut to 32 bits. -/
def parseInt32Value (value : Option IntegerValue) (default : Int32) : Int32 :=
  (parseInt64Value value default.toInt64).toInt32

def parseBoolString (text : String) : Option Bool :=
  let lowered := toLower text
  if lowered = "true" ∨ lowered = "1" ∨ lowered = "yes" ∨ lowered = "on" then some true
  else if lowered = "false" ∨ lowered = "0" ∨ lowered = "no" ∨ lowered = "off" then some false
  else none

def parseBoolValue (value : Option BooleanValue) (default : Bool) : Bool :=
  match value with
  | none => default
  | some (.bool value) => value
  | some (.int64 value) => value ≠ 0
  | some (.double value) => value != 0.0
  | some (.string text) => (parseBoolString text).getD default

def parseMessageContent (value : Option MessageContentValue) : String :=
  match value with
  | none => ""
  | some (.string text) => text
  | some (.rawJson raw asString) => if raw = "" then "" else asString.getD raw

/-! ## Timestamps -/

structure TimestampObject where
  seconds : Int64 := 0
  nanos : Int64 := 0

/-- `std::variant<int64_t, double, std::string, TimestampObject>`. -/
inductive TimestampValue where
  | int64 (value : Int64)
  | double (value : Float)
  | string (text : String)
  | object (value : TimestampObject)

/-- Unix seconds become milliseconds; values from 10^12 on are milliseconds
already. -/
def normalizeUnixEpochMs (raw : Int64) : Int64 :=
  if 0 < raw ∧ raw < 1000000000000 then raw * 1000 else raw

theorem toInt_mul_thousand {raw : Int64} (lower : -9223372036854775 ≤ raw.toInt)
    (upper : raw.toInt ≤ 9223372036854775) : (raw * 1000).toInt = raw.toInt * 1000 := by
  rw [Int64.toInt_mul]
  exact Int.bmod_eq_of_le (by change -9223372036854775808 ≤ raw.toInt * 1000; omega)
    (by change raw.toInt * 1000 < 9223372036854775808; omega)

theorem toInt_normalizeUnixEpochMs (raw : Int64) :
    (normalizeUnixEpochMs raw).toInt =
      if 0 < raw.toInt ∧ raw.toInt < 1000000000000 then raw.toInt * 1000 else raw.toInt := by
  have seconds : 0 < raw ∧ raw < 1000000000000 ↔
      0 < raw.toInt ∧ raw.toInt < 1000000000000 :=
    and_congr Int64.lt_iff_toInt_lt Int64.lt_iff_toInt_lt
  rw [normalizeUnixEpochMs]
  by_cases small : 0 < raw ∧ raw < 1000000000000
  · have bounds := seconds.mp small
    rw [if_pos small, if_pos bounds]
    exact toInt_mul_thousand (by omega) (by omega)
  · rw [if_neg small, if_neg (mt seconds.mpr small)]

/-- Days from 1970-01-01 to the first of March of `year`, in the proleptic
Gregorian calendar. -/
def daysToMarch (year : Int) : Int :=
  365 * year + year / 4 - year / 100 + year / 400 - 719468

/-- `timegm`: fields outside their usual range carry over. -/
def timegm (year month day hour minute second : Int) : Int :=
  let monthsFromMarch := month - 3
  let civilYear := year + monthsFromMarch / 12
  let monthInYear := monthsFromMarch % 12
  let days := daysToMarch civilYear + (153 * monthInYear + 2) / 5 + (day - 1)
  days * 86400 + hour * 3600 + minute * 60 + second

/-- One literal character of a `sscanf` format; a blank matches any amount of
white space. -/
def scanLiteral (literal : Char) (text : List Char) : Option (List Char) :=
  if literal = ' ' then some (text.dropWhile isSpace)
  else
    match text with
    | char :: rest => if char = literal then some rest else none
    | [] => none

/-- `sscanf` with the format `%d` followed by `literal %d` for every literal. -/
def scanFields (text : List Char) : List Char → Option (List Int)
  | [] => (scanInteger text).map fun first => [first.1]
  | literal :: literals => do
      let (value, rest) ← scanInteger text
      let afterLiteral ← scanLiteral literal rest
      let values ← scanFields afterLiteral literals
      pure (value :: values)

/-- Milliseconds of a fraction: at most three digits count. -/
def fractionMs : Nat → List Char → Nat
  | 0, _ => 0
  | _ + 1, [] => 0
  | scale + 1, char :: rest =>
      if char.isDigit then
        (char.toNat - '0'.toNat) * 10 ^ scale + fractionMs scale rest
      else 0

/-- Two decimal digits at the front of the text. -/
def parseTwoDigits : List Char → Option Int
  | first :: second :: _ =>
      if first.isDigit ∧ second.isDigit then
        some ((first.toNat - '0'.toNat : Nat) * 10 + (second.toNat - '0'.toNat : Nat))
      else none
  | _ => none

/-- Seconds east of UTC named by the first of `+`, `-`, `Z` in the tail. -/
def timezoneOffsetSeconds (tail : List Char) : Int :=
  match tail.dropWhile (fun char => char ≠ '+' ∧ char ≠ '-' ∧ char ≠ 'Z') with
  | [] => 0
  | sign :: rest =>
      if sign = 'Z' then 0
      else
        match parseTwoDigits rest with
        | none => 0
        | some hours =>
            let minutes :=
              match rest.drop 2 with
              | ':' :: more => (parseTwoDigits more).getD 0
              | char :: more => if char.isDigit then (parseTwoDigits (char :: more)).getD 0 else 0
              | [] => 0
            let offset := hours * 3600 + minutes * 60
            if sign = '-' then -offset else offset

/-- What follows the first `count` bytes.  A character of several bytes that
straddles the boundary is dropped: its last bytes are none that the parser looks
for. -/
def dropBytes : Nat → List Char → List Char
  | _, [] => []
  | count, char :: rest =>
      if count = 0 then char :: rest else dropBytes (count - char.utf8Size) rest

/-- The calendar-text branch of `parseTimestampMs`: a date and time in one of
two formats, then a fraction and a zone looked for from byte 19 on. -/
def parseTimestampText (text : List Char) : Int64 :=
  match scanFields text ['-', '-', 'T', ':', ':'] <|> scanFields text ['-', '-', ' ', ':', ':'] with
  | some [year, month, day, hour, minute, second] =>
      let epochSeconds := timegm year month day hour minute second
      if epochSeconds = -1 then 0
      else
        let tail := dropBytes 19 text
        let ms := fractionMs 3 ((tail.dropWhile (· ≠ '.')).drop 1)
        Int64.ofInt ((epochSeconds - timezoneOffsetSeconds tail) * 1000 + ms)
  | _ => 0

def parseTimestampValue (value : TimestampValue) : Int64 :=
  match value with
  | .int64 value => normalizeUnixEpochMs value
  | .double value => normalizeUnixEpochMs value.toInt64
  | .object value =>
      if value.seconds ≤ 0 ∧ value.nanos ≤ 0 then 0
      else value.seconds * 1000 + value.nanos / 1000000
  | .string text =>
      if text = "" then 0
      else if text.toList.all Char.isDigit then
        match stoll text with
        | some raw => normalizeUnixEpochMs raw
        | none => 0
      else parseTimestampText text.toList

/-- `parseTimestampMs`: an absent timestamp is 0. -/
def parseTimestampMs (value : Option TimestampValue) : Int64 :=
  match value with
  | none => 0
  | some value => parseTimestampValue value

/-! ## Response envelopes -/

structure ApiEnvelope (α : Type) where
  code : Int32 := -1
  message : String := ""
  data : α

/-- A response body as the JSON library reads it. -/
inductive ResponseBody (α : Type) where
  | empty
  | malformed (error : String)
  | parsed (envelope : ApiEnvelope α)
  deriving Inhabited

structure HttpResponse (α : Type) where
  error : String := ""
  statusCode : Int32 := 0
  body : ResponseBody α := .empty

/-- `parseApiEnvelopeResponse`: the data of a successful response, or the code
and message the error callback gets. -/
def parseApiEnvelopeResponse {α : Type} (response : HttpResponse α) (fallbackError : String)
    (requireHttp200 requireHttp2xx : Bool) :
    Except (Int32 × String) α :=
  if response.error ≠ "" then
    .error (-1, response.error)
  else
    let httpError : Int32 × String :=
      (if response.statusCode ≠ 0 then response.statusCode else -1,
        "HTTP " ++ toString response.statusCode)
    let httpRejected : Bool :=
      (requireHttp200 && response.statusCode ≠ 200) ||
        (requireHttp2xx && (response.statusCode < 200 || 300 ≤ response.statusCode))
    match response.body with
    | .parsed envelope =>
        if envelope.code ≠ 0 then
          .error (envelope.code,
            if envelope.message = "" then fallbackError else envelope.message)
        else if httpRejected then .error httpError
        else .ok envelope.data
    | .malformed parseError =>
        if httpRejected then .error httpError
        else .error (-1, if parseError = "" then fallbackError else parseError)
    | .empty =>
        if httpRejected then .error httpError else .error (-1, fallbackError)

end AnychatSdk
