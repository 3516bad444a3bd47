import AnychatSdk.Lib.CheckedInt
import AnychatSdk.EpochMs
import AnychatSdk.TokenLifetime

/-!
# Arithmetic on times

Every computation with the times that a server sends is repeated here with
checked operations.  Where none overflows the result is the one of the program;
the sites differ in how much of the range their guards leave out.
-/

namespace AnychatSdk

open CheckedInt

/-! ## Meeting rooms -/

/-- The status of a call or a meeting has the alternatives of an integer value. -/
structure MeetingRoomPayload where
  roomId : String := ""
  creatorId : String := ""
  title : String := ""
  roomName : String := ""
  token : String := ""
  hasPassword : Option BooleanValue := none
  maxParticipants : Option IntegerValue := none
  startedAt : Option IntegerValue := none
  createdAt : Option IntegerValue := none
  status : Option IntegerValue := none

structure MeetingRoom where
  roomId : String
  creatorId : String
  title : String
  roomName : String
  token : String
  hasPassword : Bool
  maxParticipants : Int32
  isActive : Bool
  startedAt : Int64
  createdAtMs : Int64

def parseMeetingIsActive (status : Option IntegerValue) : Bool :=
  match status with
  | none => true
  | some (.int64 value) => value ≠ 1
  | some (.double value) => value.toInt64 ≠ 1
  | some (.string text) => toLower text ≠ "ended"

def parseMeetingRoomPayload (payload : MeetingRoomPayload) : MeetingRoom where
  roomId := payload.roomId
  creatorId := payload.creatorId
  title := payload.title
  roomName := payload.roomName
  token := payload.token
  hasPassword := parseBoolValue payload.hasPassword false
  maxParticipants := (parseInt64Value payload.maxParticipants 0).toInt32
  startedAt := parseInt64Value payload.startedAt 0
  createdAtMs := parseInt64Value payload.createdAt 0 * 1000
  isActive := parseMeetingIsActive payload.status

/-! ## Checked computations -/

/-- The integer part of a double fits in 64 bits. -/
def FitsInt64 (value : Float) : Prop :=
  -9223372036854775808.0 ≤ value ∧ value < 9223372036854775808.0

instance (value : Float) : Decidable (FitsInt64 value) :=
  inferInstanceAs (Decidable (_ ∧ _))

/-- The conversion of a double, which is undefined where it does not fit. -/
def doubleToInt64? (value : Float) : Option Int64 :=
  if FitsInt64 value then some value.toInt64 else none

def parseInt64Value? : Option IntegerValue → Option Int64
  | some (.double value) => doubleToInt64? value
  | value => some (parseInt64Value value 0)

def normalizeUnixEpochMs? (raw : Int64) : Option Int :=
  if 0 < raw ∧ raw < 1000000000000 then checked 64 (raw.toInt * 1000) else some raw.toInt

/-- The absolute value is a computation of its own. -/
def normalizeEpochMs? (raw : Int64) : Option Int :=
  if raw = 0 then some 0
  else do
    let magnitude ← checked 64 raw.toInt.natAbs
    if 100000000000 ≤ magnitude then some raw.toInt else checked 64 (raw.toInt * 1000)

def parseTimestampObject? (value : TimestampObject) : Option Int :=
  if value.seconds ≤ 0 ∧ value.nanos ≤ 0 then some 0
  else do
    let scaled ← checked 64 (value.seconds.toInt * 1000)
    let ms ← checked 64 (value.nanos.toInt.tdiv 1000000)
    checked 64 (scaled + ms)

/-- The numbers of a date and time, in one of the two formats. -/
def scanCalendar (text : List Char) : Option (List Int) :=
  scanFields text ['-', '-', 'T', ':', ':'] <|> scanFields text ['-', '-', ' ', ':', ':']

/-- The milliseconds of the fraction, looked for from byte 19 on. -/
def calendarMs (text : List Char) : Int :=
  fractionMs 3 (((dropBytes 19 text).dropWhile (· ≠ '.')).drop 1)

def calendarOffset (text : List Char) : Int :=
  timezoneOffsetSeconds (dropBytes 19 text)

section Calendar

-- What `%d` stores for a number; beyond the range of `int` the C library leaves it open.
variable (stored : Int → Int32)

/-- `timegm` on the stored numbers. -/
def epochSeconds (year month day hour minute second : Int) : Int :=
  timegm (stored year).toInt (stored month).toInt (stored day).toInt (stored hour).toInt
    (stored minute).toInt (stored second).toInt

/-- The fields of `std::tm` count years from 1900 and months from 0. -/
def parseTimestampText? (text : List Char) : Option Int :=
  match scanCalendar text with
  | some [year, month, day, hour, minute, second] => do
      let tmYear ← checked 32 ((stored year).toInt - 1900)
      let tmMon ← checked 32 ((stored month).toInt - 1)
      let seconds := timegm (tmYear + 1900) (tmMon + 1) (stored day).toInt (stored hour).toInt
        (stored minute).toInt (stored second).toInt
      if seconds = -1 then some 0
      else do
        let ms ← checked 32 (calendarMs text)
        let offset ← checked 32 (calendarOffset text)
        let utc ← checked 64 (seconds - offset)
        let scaled ← checked 64 (utc * 1000)
        checked 64 (scaled + ms)
  | _ => some 0

def parseTimestampMs? : Option TimestampValue → Option Int
  | none => some 0
  | some (.int64 value) => normalizeUnixEpochMs? value
  | some (.double value) => (doubleToInt64? value).bind normalizeUnixEpochMs?
  | some (.object value) => parseTimestampObject? value
  | some (.string text) =>
      if text = "" then some 0
      else if text.toList.all Char.isDigit then
        match stoll text with
        | some raw => normalizeUnixEpochMs? raw
        | none => some 0
      else parseTimestampText? stored text.toList

/-- The expiry of a token that is received at the time `now`. -/
def expiresAtMs? (now : Int64) (payload : AuthTokenPayload) : Option Int :=
  if 0 < payload.expiresIn then do
    let lifetime ← checked 64 (payload.expiresIn.toInt * 1000)
    checked 64 (now.toInt + lifetime)
  else some 0

/-- Every number of a meeting room is converted, and its time of creation scaled. -/
def createdAtMs? (payload : MeetingRoomPayload) : Option Int := do
  let _ ← parseInt64Value? payload.maxParticipants
  let _ ← parseInt64Value? payload.startedAt
  let _ ← parseInt64Value? payload.status
  let createdAt ← parseInt64Value? payload.createdAt
  checked 64 (createdAt.toInt * 1000)

/-- A time that a server sends, where it is computed with. -/
inductive ServerTimeField where
  | timestamp (value : Option TimestampValue)
  | envelope (raw : Int64)
  | lifetime (manager : AuthManager) (payload : AuthTokenPayload)
  | meeting (payload : MeetingRoomPayload)

namespace ServerTimeField

def compute? : ServerTimeField → Option Int
  | timestamp value => parseTimestampMs? stored value
  | envelope raw => normalizeEpochMs? raw
  | lifetime manager payload => expiresAtMs? manager.reportedAt payload
  | meeting payload => createdAtMs? payload

/-- What the program computes. -/
def value : ServerTimeField → Int64
  | timestamp value => parseTimestampMs value
  | envelope raw => normalizeEpochMs raw
  | lifetime manager payload => (manager.receivedToken payload).1.expiresAtMs
  | meeting payload => (parseMeetingRoomPayload payload).createdAtMs

/-- No operation overflows, and a lifetime does not end before it begins. -/
structure NeverOverflows (field : ServerTimeField) : Prop where
  computes : field.compute? stored ≠ none
  notInPast : ∀ manager payload, field = lifetime manager payload → 0 < payload.expiresIn →
    manager.reportedAt ≤ field.value

end ServerTimeField

/-- The most seconds whose milliseconds fit in 64 bits. -/
def maxSeconds : Int := 9223372036854775

/-- The instant that a date names fits, in milliseconds, and so do the fields of
`std::tm`. -/
def CalendarFits (text : List Char) : Prop :=
  ∀ year month day hour minute second,
    scanCalendar text = some [year, month, day, hour, minute, second] →
      -2147481748 ≤ (stored year).toInt ∧ -2147483647 ≤ (stored month).toInt ∧
      (epochSeconds stored year month day hour minute second = -1 ∨
        -maxSeconds ≤ epochSeconds stored year month day hour minute second -
            calendarOffset text ∧
          (epochSeconds stored year month day hour minute second - calendarOffset text) * 1000 +
            calendarMs text ≤ 9223372036854775807)

/-- A number that was sent as a double fits in 64 bits. -/
def Converts : Option IntegerValue → Prop
  | some (.double value) => FitsInt64 value
  | _ => True

/-- Times that are within the range of their site. -/
def ServerTimeField.Fits : ServerTimeField → Prop
  | timestamp (some (.object value)) =>
      (value.seconds ≤ 0 ∧ value.nanos ≤ 0) ∨
        (-maxSeconds ≤ value.seconds.toInt ∧ value.seconds.toInt ≤ maxSeconds ∧
          value.seconds.toInt * 1000 + value.nanos.toInt.tdiv 1000000 ≤ 9223372036854775807)
  | timestamp (some (.double value)) => FitsInt64 value
  | timestamp (some (.string text)) =>
      text = "" ∨ text.toList.all Char.isDigit = true ∨ CalendarFits stored text.toList
  | timestamp _ => True
  | envelope raw => raw ≠ Int64.minValue
  | lifetime manager payload =>
      payload.expiresIn ≤ 0 ∨
        (payload.expiresIn.toInt ≤ maxSeconds ∧
          manager.reportedAt.toInt + payload.expiresIn.toInt * 1000 ≤ 9223372036854775807)
  | meeting payload =>
      Converts payload.maxParticipants ∧ Converts payload.startedAt ∧ Converts payload.status ∧
        Converts payload.createdAt ∧ -maxSeconds ≤ (parseInt64Value payload.createdAt 0).toInt ∧
          (parseInt64Value payload.createdAt 0).toInt ≤ maxSeconds

end Calendar

/-! ## Small parts -/

theorem digitValue_le {char : Char} (digit : char.isDigit = true) :
    char.toNat - '0'.toNat ≤ 9 := by
  simp only [Char.isDigit, Bool.and_eq_true, decide_eq_true_eq] at digit
  have upper : char.toNat ≤ 57 := UInt32.le_iff_toNat_le.mp digit.2
  change char.toNat - 48 ≤ 9
  omega

/-- Each digit stays below the unit of the one before it. -/
theorem fractionMs_lt (scale : Nat) (text : List Char) : fractionMs scale text < 10 ^ scale := by
  induction scale generalizing text with
  | zero => exact Nat.one_pos
  | succ scale ih =>
      cases text with
      | nil => exact Nat.pow_pos (by decide)
      | cons char rest =>
          rw [fractionMs]
          split
          · next digit =>
              have unit := Nat.mul_le_mul_right (10 ^ scale) (digitValue_le digit)
              have below := ih rest
              rw [Nat.pow_succ]
              omega
          · exact Nat.pow_pos (by decide)

theorem calendarMs_bounds (text : List Char) : 0 ≤ calendarMs text ∧ calendarMs text < 1000 := by
  have below := fractionMs_lt 3 (((dropBytes 19 text).dropWhile (· ≠ '.')).drop 1)
  rw [calendarMs]
  omega

theorem parseTwoDigits_bounds {text : List Char} {number : Int}
    (parsed : parseTwoDigits text = some number) : 0 ≤ number ∧ number ≤ 99 := by
  rcases text with _ | ⟨first, _ | ⟨second, rest⟩⟩
  · cases parsed
  · cases parsed
  · rw [parseTwoDigits] at parsed
    split at parsed
    · next digits =>
        have tens := digitValue_le digits.1
        have units := digitValue_le digits.2
        have value := Option.some.inj parsed
        omega
    · cases parsed

theorem getD_parseTwoDigits_bounds (text : List Char) :
    0 ≤ (parseTwoDigits text).getD 0 ∧ (parseTwoDigits text).getD 0 ≤ 99 := by
  cases parsed : parseTwoDigits text with
  | none => exact ⟨le_rfl, by decide⟩
  | some number => exact parseTwoDigits_bounds parsed

/-- At most 99 hours and 99 minutes. -/
theorem timezoneOffsetSeconds_bounds (tail : List Char) :
    -362340 ≤ timezoneOffsetSeconds tail ∧ timezoneOffsetSeconds tail ≤ 362340 := by
  have signed : ∀ (sign : Char) (hours minutes : Int), (0 ≤ hours ∧ hours ≤ 99) →
      (0 ≤ minutes ∧ minutes ≤ 99) →
      -362340 ≤ (if sign = '-' then -(hours * 3600 + minutes * 60)
        else hours * 3600 + minutes * 60) ∧
      (if sign = '-' then -(hours * 3600 + minutes * 60)
        else hours * 3600 + minutes * 60) ≤ 362340 := by
    intro sign hours minutes hoursBounds minutesBounds
    split
    · omega
    · omega
  rw [timezoneOffsetSeconds]
  split
  · omega
  · next sign rest _ =>
      by_cases zulu : sign = 'Z'
      · rw [if_pos zulu]
        omega
      · rw [if_neg zulu]
        cases parsed : parseTwoDigits rest with
        | none => exact ⟨(by decide : (-362340 : Int) ≤ 0), (by decide : (0 : Int) ≤ 362340)⟩
        | some hours =>
            have hoursBounds := parseTwoDigits_bounds parsed
            refine signed sign hours _ hoursBounds ?_
            split
            · exact getD_parseTwoDigits_bounds _
            · split
              · exact getD_parseTwoDigits_bounds _
              · omega
            · omega

theorem calendarOffset_bounds (text : List Char) :
    -362340 ≤ calendarOffset text ∧ calendarOffset text ≤ 362340 :=
  timezoneOffsetSeconds_bounds (dropBytes 19 text)

/-! ## No overflow -/

theorem doubleToInt64?_of_fits {value : Float} (fits : FitsInt64 value) :
    doubleToInt64? value = some value.toInt64 :=
  if_pos fits

theorem doubleToInt64?_bind_ne_none_iff {α : Type} {next : Int64 → Option α} {value : Float} :
    (doubleToInt64? value).bind next ≠ none ↔ FitsInt64 value ∧ next value.toInt64 ≠ none := by
  by_cases fits : FitsInt64 value
  · rw [doubleToInt64?_of_fits fits, Option.bind_some, and_iff_right fits]
  · rw [doubleToInt64?, if_neg fits, Option.bind_none]
    exact iff_of_false (fun some => some rfl) fun both => fits both.1

theorem parseInt64Value?_eq_some_iff {value : Option IntegerValue} {number : Int64} :
    parseInt64Value? value = some number ↔
      Converts value ∧ parseInt64Value value 0 = number := by
  rcases value with _ | value
  · exact Option.some_inj.trans (and_iff_right trivial).symm
  · cases value with
    | double raw =>
        rw [parseInt64Value?, doubleToInt64?, Option.ite_none_right_eq_some, Option.some_inj]
        rfl
    | int64 | string => exact Option.some_inj.trans (and_iff_right trivial).symm

theorem parseInt64Value?_bind_ne_none_iff {α : Type} {value : Option IntegerValue}
    {next : Int64 → Option α} :
    (parseInt64Value? value).bind next ≠ none ↔
      Converts value ∧ next (parseInt64Value value 0) ≠ none := by
  constructor
  · intro computes
    cases converted : parseInt64Value? value with
    | none => simp [converted] at computes
    | some number =>
        rcases parseInt64Value?_eq_some_iff.mp converted with ⟨converts, rfl⟩
        rw [converted] at computes
        exact ⟨converts, computes⟩
  · rintro ⟨converts, computes⟩
    rwa [parseInt64Value?_eq_some_iff.mpr ⟨converts, rfl⟩]

theorem normalizeUnixEpochMs?_ne_none (raw : Int64) : normalizeUnixEpochMs? raw ≠ none := by
  rw [normalizeUnixEpochMs?]
  split
  · next seconds =>
      have positive : 0 < raw.toInt := Int64.lt_iff_toInt_lt.mp seconds.1
      have small : raw.toInt < 1000000000000 := Int64.lt_iff_toInt_lt.mp seconds.2
      rw [checked_ne_none_iff, inRange_64_iff]
      omega
  · exact Option.some_ne_none _

/-- Only the lowest number has no absolute value; the others are scaled when they are
small. -/
theorem normalizeEpochMs?_ne_none_iff (raw : Int64) :
    normalizeEpochMs? raw ≠ none ↔ raw ≠ Int64.minValue := by
  have lower := raw.le_toInt
  have upper := raw.toInt_lt
  rw [ne_minValue_iff, normalizeEpochMs?]
  split
  · next zero =>
      rw [zero]
      exact iff_of_true (Option.some_ne_none _) (by decide)
  · rw [checked_bind_ne_none_iff, inRange_64_iff]
    split
    · next large =>
        rw [and_iff_left (Option.some_ne_none _)]
        omega
    · next small =>
        rw [checked_ne_none_iff, inRange_64_iff]
        omega

/-- Truncation moves a quotient towards 0. -/
theorem tdiv_million_bounds (number : Int) :
    number / 1000000 ≤ number.tdiv 1000000 ∧
      number.tdiv 1000000 ≤ number / 1000000 + 1 := by
  have sign : Int.sign 1000000 = 1 := rfl
  rw [Int.tdiv_eq_ediv, sign]
  split
  · omega
  · omega

theorem parseTimestampObject?_ne_none_iff (value : TimestampObject) :
    parseTimestampObject? value ≠ none ↔
      (value.seconds ≤ 0 ∧ value.nanos ≤ 0) ∨
        (-maxSeconds ≤ value.seconds.toInt ∧ value.seconds.toInt ≤ maxSeconds ∧
          value.seconds.toInt * 1000 + value.nanos.toInt.tdiv 1000000 ≤
            9223372036854775807) := by
  rw [parseTimestampObject?]
  by_cases before : value.seconds ≤ 0 ∧ value.nanos ≤ 0
  · rw [if_pos before]
    exact iff_of_true (Option.some_ne_none _) (Or.inl before)
  · have lower := value.nanos.le_toInt
    have upper := value.nanos.toInt_lt
    have secondsPositive : value.seconds ≤ 0 ↔ value.seconds.toInt ≤ 0 :=
      Int64.le_iff_toInt_le
    have nanosPositive : value.nanos ≤ 0 ↔ value.nanos.toInt ≤ 0 := Int64.le_iff_toInt_le
    rw [if_neg before, checked_bind_ne_none_iff, checked_bind_ne_none_iff, checked_ne_none_iff,
      inRange_64_iff, inRange_64_iff, inRange_64_iff, maxSeconds]
    have quotient := tdiv_million_bounds value.nanos.toInt
    rw [secondsPositive, nanosPositive] at before ⊢
    omega

section Calendar

variable (stored : Int → Int32)

/-- A text scans to one date at most. -/
theorem calendarFits_iff_of_scan {text : List Char} {year month day hour minute second : Int}
    (scanned : scanCalendar text = some [year, month, day, hour, minute, second]) :
    CalendarFits stored text ↔
      -2147481748 ≤ (stored year).toInt ∧ -2147483647 ≤ (stored month).toInt ∧
      (epochSeconds stored year month day hour minute second = -1 ∨
        -maxSeconds ≤ epochSeconds stored year month day hour minute second -
            calendarOffset text ∧
          (epochSeconds stored year month day hour minute second - calendarOffset text) * 1000 +
            calendarMs text ≤ 9223372036854775807) := by
  constructor
  · intro fits
    exact fits year month day hour minute second scanned
  · intro fits year' month' day' hour' minute' second' scanned'
    obtain ⟨rfl, rfl, rfl, rfl, rfl, rfl⟩ : year = year' ∧ month = month' ∧ day = day' ∧
        hour = hour' ∧ minute = minute' ∧ second = second' := by
      simpa using scanned.symm.trans scanned'
    exact fits

theorem parseTimestampText?_ne_none_iff (text : List Char) :
    parseTimestampText? stored text ≠ none ↔ CalendarFits stored text := by
  have ms := calendarMs_bounds text
  have offset := calendarOffset_bounds text
  rw [parseTimestampText?]
  split
  · next year month day hour minute second scanned =>
      have yearUpper := (stored year).toInt_lt
      have monthUpper := (stored month).toInt_lt
      have years : InRange 32 ((stored year).toInt - 1900) ↔
          -2147481748 ≤ (stored year).toInt := by
        rw [inRange_32_iff]
        omega
      have months : InRange 32 ((stored month).toInt - 1) ↔
          -2147483647 ≤ (stored month).toInt := by
        rw [inRange_32_iff]
        omega
      have seconds : timegm (stored year).toInt (stored month).toInt (stored day).toInt
          (stored hour).toInt (stored minute).toInt (stored second).toInt =
          epochSeconds stored year month day hour minute second := rfl
      rw [calendarFits_iff_of_scan stored scanned, checked_bind_ne_none_iff,
        checked_bind_ne_none_iff, years, months, Int.sub_add_cancel, Int.sub_add_cancel]
      refine and_congr_right fun _ => and_congr_right fun _ => ?_
      change (if epochSeconds stored year month day hour minute second = -1 then some 0
        else _) ≠ none ↔ _
      split
      · next sentinel => exact iff_of_true (Option.some_ne_none _) (Or.inl sentinel)
      · next instant =>
          rw [or_iff_right instant, seconds, checked_bind_ne_none_iff, checked_bind_ne_none_iff,
            checked_bind_ne_none_iff, checked_bind_ne_none_iff, checked_ne_none_iff,
            inRange_32_iff, inRange_32_iff, inRange_64_iff, inRange_64_iff, inRange_64_iff,
            maxSeconds]
          omega
  · next other =>
      refine iff_of_true (Option.some_ne_none _) ?_
      intro year month day hour minute second scanned
      exact absurd scanned (other year month day hour minute second)

theorem expiresAtMs?_ne_none_iff (now : Int64) (payload : AuthTokenPayload) :
    expiresAtMs? now payload ≠ none ↔
      payload.expiresIn ≤ 0 ∨
        (payload.expiresIn.toInt ≤ maxSeconds ∧
          now.toInt + payload.expiresIn.toInt * 1000 ≤ 9223372036854775807) := by
  have lower := now.le_toInt
  have positive : 0 < payload.expiresIn ↔ 0 < payload.expiresIn.toInt := Int64.lt_iff_toInt_lt
  have notPositive : payload.expiresIn ≤ 0 ↔ payload.expiresIn.toInt ≤ 0 :=
    Int64.le_iff_toInt_le
  rw [expiresAtMs?, notPositive]
  split
  · next lasting =>
      have lastingInt := positive.mp lasting
      rw [checked_bind_ne_none_iff, checked_ne_none_iff, inRange_64_iff, inRange_64_iff,
        maxSeconds]
      omega
  · next unset =>
      have unsetInt := mt positive.mpr unset
      exact iff_of_true (Option.some_ne_none _) (Or.inl (by omega))

theorem createdAtMs?_ne_none_iff (payload : MeetingRoomPayload) :
    createdAtMs? payload ≠ none ↔ (ServerTimeField.meeting payload).Fits stored := by
  have scales : ∀ raw : Int64, checked 64 (raw.toInt * 1000) ≠ none ↔
      -maxSeconds ≤ raw.toInt ∧ raw.toInt ≤ maxSeconds := by
    intro raw
    rw [checked_ne_none_iff, inRange_64_iff, maxSeconds]
    omega
  simp only [createdAtMs?, Option.bind_eq_bind, parseInt64Value?_bind_ne_none_iff, scales]
  rfl

theorem parseTimestampMs?_ne_none_iff (value : Option TimestampValue) :
    parseTimestampMs? stored value ≠ none ↔
      (ServerTimeField.timestamp value).Fits stored := by
  rcases value with _ | value
  · exact iff_of_true (Option.some_ne_none _) trivial
  · cases value with
    | int64 raw => exact iff_of_true (normalizeUnixEpochMs?_ne_none raw) trivial
    | double raw =>
        exact doubleToInt64?_bind_ne_none_iff.trans
          (and_iff_left (normalizeUnixEpochMs?_ne_none raw.toInt64))
    | object value => exact parseTimestampObject?_ne_none_iff value
    | string text =>
        rw [parseTimestampMs?]
        change _ ↔ text = "" ∨ text.toList.all Char.isDigit = true ∨
          CalendarFits stored text.toList
        split
        · next empty => exact iff_of_true (Option.some_ne_none _) (Or.inl empty)
        · next nonempty =>
            rw [or_iff_right nonempty]
            split
            · next digits =>
                refine iff_of_true ?_ (Or.inl digits)
                split
                · exact normalizeUnixEpochMs?_ne_none _
                · exact Option.some_ne_none _
            · next calendar =>
                rw [or_iff_right calendar]
                exact parseTimestampText?_ne_none_iff stored text.toList

theorem ServerTimeField.compute?_ne_none_iff (field : ServerTimeField) :
    field.compute? stored ≠ none ↔ field.Fits stored := by
  cases field with
  | timestamp value => exact parseTimestampMs?_ne_none_iff stored value
  | envelope raw => exact normalizeEpochMs?_ne_none_iff raw
  | lifetime manager payload => exact expiresAtMs?_ne_none_iff manager.reportedAt payload
  | meeting payload => exact createdAtMs?_ne_none_iff stored payload

end Calendar

/-! ## The results of the program -/

theorem normalizeUnixEpochMs_eq_ofInt {raw : Int64} {result : Int}
    (computed : normalizeUnixEpochMs? raw = some result) :
    normalizeUnixEpochMs raw = Int64.ofInt result := by
  rw [normalizeUnixEpochMs?] at computed
  rw [normalizeUnixEpochMs]
  split at computed
  · next seconds =>
      obtain ⟨_, rfl⟩ := checked_eq_some_iff.mp computed
      rw [if_pos seconds, Int64.ofInt_mul, Int64.ofInt_toInt]
      rfl
  · next other =>
      obtain rfl := Option.some.inj computed
      rw [if_neg other, Int64.ofInt_toInt]

theorem normalizeEpochMs_eq_ofInt {raw : Int64} {result : Int}
    (computed : normalizeEpochMs? raw = some result) :
    normalizeEpochMs raw = Int64.ofInt result := by
  have notLowest : raw ≠ Int64.minValue := by
    rw [← normalizeEpochMs?_ne_none_iff, computed]
    exact Option.some_ne_none result
  have large : 100000000000 ≤ raw.abs ↔ (100000000000 : Int) ≤ raw.toInt.natAbs := by
    rw [Int64.le_iff_toInt_le, toInt_abs notLowest]
    rfl
  rw [normalizeEpochMs?] at computed
  rw [normalizeEpochMs]
  by_cases zero : raw = 0
  · rw [if_pos zero] at computed
    obtain rfl := Option.some.inj computed
    rw [if_pos zero]
    rfl
  · rw [if_neg zero, checked_bind_eq_some_iff] at computed
    rw [if_neg zero]
    by_cases milliseconds : (100000000000 : Int) ≤ raw.toInt.natAbs
    · rw [if_pos milliseconds] at computed
      rw [if_pos (large.mpr milliseconds), ← Option.some.inj computed.2, Int64.ofInt_toInt]
    · rw [if_neg milliseconds, checked_eq_some_iff] at computed
      rw [if_neg (mt large.mp milliseconds), ← computed.2.2, Int64.ofInt_mul, Int64.ofInt_toInt]
      rfl

theorem parseTimestampObject_eq_ofInt {value : TimestampObject} {result : Int}
    (computed : parseTimestampObject? value = some result) :
    parseTimestampMs (some (.object value)) = Int64.ofInt result := by
  have quotient : Int64.ofInt (value.nanos.toInt.tdiv 1000000) = value.nanos / 1000000 := by
    have divided : (value.nanos / 1000000).toInt = value.nanos.toInt.tdiv 1000000 :=
      Int64.toInt_div_of_ne_right value.nanos 1000000 (by decide)
    rw [← divided, Int64.ofInt_toInt]
  rw [parseTimestampObject?] at computed
  rw [parseTimestampMs, parseTimestampValue]
  by_cases before : value.seconds ≤ 0 ∧ value.nanos ≤ 0
  · rw [if_pos before] at computed
    obtain rfl := Option.some.inj computed
    rw [if_pos before]
    rfl
  · rw [if_neg before, checked_bind_eq_some_iff, checked_bind_eq_some_iff,
      checked_eq_some_iff] at computed
    obtain ⟨_, _, _, rfl⟩ := computed
    rw [if_neg before, Int64.ofInt_add, Int64.ofInt_mul, Int64.ofInt_toInt, quotient]
    rfl

/-- Each number of the text fits in `int`, so that it is stored as it is. -/
def StoresExactly (stored : Int → Int32) (text : List Char) : Prop :=
  ∀ numbers, scanCalendar text = some numbers →
    ∀ number ∈ numbers, (stored number).toInt = number

theorem parseTimestampText_eq_ofInt {stored : Int → Int32} {text : List Char} {result : Int}
    (exact : StoresExactly stored text) (computed : parseTimestampText? stored text = some result) :
    parseTimestampText text = Int64.ofInt result := by
  rw [parseTimestampText?] at computed
  rw [parseTimestampText]
  change (match scanCalendar text with
    | some [year, month, day, hour, minute, second] => _
    | _ => _) = _
  split at computed
  · next year month day hour minute second scanned =>
      have numbers := exact _ scanned
      rw [numbers year (by simp), numbers month (by simp), numbers day (by simp),
        numbers hour (by simp), numbers minute (by simp), numbers second (by simp),
        checked_bind_eq_some_iff, checked_bind_eq_some_iff, Int.sub_add_cancel,
        Int.sub_add_cancel] at computed
      have body := computed.2.2
      change (if timegm year month day hour minute second = -1 then some 0 else _) = _ at body
      change (if timegm year month day hour minute second = -1 then (0 : Int64) else _) = _
      split at body
      · next sentinel =>
          obtain rfl := Option.some.inj body
          rw [if_pos sentinel]
          rfl
      · next instant =>
          rw [checked_bind_eq_some_iff, checked_bind_eq_some_iff, checked_bind_eq_some_iff,
            checked_bind_eq_some_iff, checked_eq_some_iff] at body
          rw [if_neg instant, ← body.2.2.2.2.2]
          rfl
  · obtain rfl := Option.some.inj computed
    rfl

/-- A text is a date, or its numbers do not matter. -/
def ServerTimeField.ReadsExactly (stored : Int → Int32) : ServerTimeField → Prop
  | timestamp (some (.string text)) => StoresExactly stored text.toList
  | _ => True

theorem parseTimestampMs_eq_ofInt {stored : Int → Int32} {value : Option TimestampValue}
    {result : Int} (exact : (ServerTimeField.timestamp value).ReadsExactly stored)
    (computed : parseTimestampMs? stored value = some result) :
    parseTimestampMs value = Int64.ofInt result := by
  rcases value with _ | value
  · obtain rfl := Option.some.inj computed
    rfl
  · cases value with
    | int64 raw => exact normalizeUnixEpochMs_eq_ofInt computed
    | double raw =>
        rcases Option.bind_eq_some_iff.mp computed with ⟨number, converted, scaled⟩
        obtain rfl := Option.some.inj (Option.ite_none_right_eq_some.mp converted).2
        exact normalizeUnixEpochMs_eq_ofInt scaled
    | object value => exact parseTimestampObject_eq_ofInt computed
    | string text =>
        rw [parseTimestampMs?] at computed
        rw [parseTimestampMs, parseTimestampValue]
        by_cases empty : text = ""
        · rw [if_pos empty] at computed
          obtain rfl := Option.some.inj computed
          rw [if_pos empty]
          rfl
        · rw [if_neg empty] at computed
          rw [if_neg empty]
          by_cases digits : text.toList.all Char.isDigit = true
          · rw [if_pos digits] at computed
            rw [if_pos digits]
            cases parsed : stoll text with
            | none =>
                rw [parsed] at computed
                obtain rfl := Option.some.inj computed
                rfl
            | some raw =>
                rw [parsed] at computed
                exact normalizeUnixEpochMs_eq_ofInt computed
          · rw [if_neg digits] at computed
            rw [if_neg digits]
            exact parseTimestampText_eq_ofInt exact computed

theorem expiresAtMs_eq_ofInt {manager : AuthManager} {payload : AuthTokenPayload} {result : Int}
    (computed : expiresAtMs? manager.reportedAt payload = some result) :
    (manager.receivedToken payload).1.expiresAtMs = Int64.ofInt result := by
  rw [expiresAtMs?] at computed
  rw [AuthManager.receivedToken]
  split at computed
  · next lasting =>
      rw [checked_bind_eq_some_iff, checked_eq_some_iff] at computed
      obtain ⟨_, _, rfl⟩ := computed
      rw [if_pos lasting, Int64.ofInt_add, Int64.ofInt_mul, Int64.ofInt_toInt, Int64.ofInt_toInt]
      rfl
  · next unset =>
      obtain rfl := Option.some.inj computed
      rw [if_neg unset]
      rfl

/-- Where nothing overflows, the program computes what the integers give. -/
theorem ServerTimeField.value_eq_ofInt {stored : Int → Int32} {field : ServerTimeField}
    {result : Int} (exact : field.ReadsExactly stored)
    (computed : field.compute? stored = some result) : field.value = Int64.ofInt result := by
  cases field with
  | timestamp value => exact parseTimestampMs_eq_ofInt exact computed
  | envelope raw => exact normalizeEpochMs_eq_ofInt computed
  | lifetime manager payload => exact expiresAtMs_eq_ofInt computed
  | meeting payload =>
      rcases Option.bind_eq_some_iff.mp computed with ⟨_, _, afterParticipants⟩
      rcases Option.bind_eq_some_iff.mp afterParticipants with ⟨_, _, afterStart⟩
      rcases Option.bind_eq_some_iff.mp afterStart with ⟨_, _, afterStatus⟩
      rcases Option.bind_eq_some_iff.mp afterStatus with ⟨createdAt, converted, scaled⟩
      obtain ⟨_, rfl⟩ := parseInt64Value?_eq_some_iff.mp converted
      obtain ⟨_, rfl⟩ := checked_eq_some_iff.mp scaled
      rw [Int64.ofInt_mul, Int64.ofInt_toInt]
      rfl

/-- A lifetime that does not overflow ends after it begins. -/
theorem reportedAt_le_expiresAtMs {manager : AuthManager} {payload : AuthTokenPayload}
    {result : Int} (computed : expiresAtMs? manager.reportedAt payload = some result)
    (lasting : 0 < payload.expiresIn) :
    manager.reportedAt ≤ (manager.receivedToken payload).1.expiresAtMs := by
  have positive : 0 < payload.expiresIn.toInt := Int64.lt_iff_toInt_lt.mp lasting
  rw [expiresAtMs_eq_ofInt computed]
  rw [expiresAtMs?, if_pos lasting, checked_bind_eq_some_iff, checked_eq_some_iff] at computed
  obtain ⟨_, inRange, rfl⟩ := computed
  rw [Int64.le_iff_toInt_le, toInt_ofInt inRange]
  omega

end AnychatSdk
