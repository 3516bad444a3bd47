import AnychatSdk.Json
import AnychatSdk.Lib.Calendar
import Mathlib.Data.Rat.Floor
import Mathlib.Tactic.IntervalCases
import Mathlib.Tactic.Linarith
import Mathlib.Tactic.Ring

/-!
# Timestamps as text

A timestamp text is a civil date and time, perhaps with a fraction of a second,
and an offset from UTC.  It denotes an instant; `parseTimestampMs` finds it but for
one second, which it takes for the failure of `timegm`.
-/

namespace AnychatSdk

open Calendar

/-! ## Digits -/

def twoDigits (number : Nat) : List Char :=
  [(number / 10).digitChar, (number % 10).digitChar]

def fourDigits (number : Nat) : List Char :=
  twoDigits (number / 100) ++ twoDigits (number % 100)

/-- A text that no longer continues a number. -/
def StopsNumber (rest : List Char) : Prop :=
  ∀ char ∈ rest.head?, char.isDigit = false

/-- A run of digits scans to its number, with what follows left over. -/
theorem scanInteger_append {digits rest : List Char} (nonempty : digits ≠ [])
    (areDigits : ∀ char ∈ digits, char.isDigit = true) (stops : StopsNumber rest) :
    scanInteger (digits ++ rest) = some ((Nat.ofDigitChars 10 digits 0 : Int), rest) :=
  scanInteger_of_takeSign (takeSign_dropWhile_append nonempty areDigits rest) nonempty areDigits
    stops

theorem isDigit_twoDigits {number : Nat} (small : number < 100) :
    ∀ char ∈ twoDigits number, char.isDigit = true := by
  intro char member
  simp only [twoDigits, List.mem_cons, List.not_mem_nil, or_false] at member
  rcases member with rfl | rfl
  · exact (Nat.isDigit_digitChar).trans (decide_eq_true (by omega))
  · exact (Nat.isDigit_digitChar).trans (decide_eq_true (by omega))

theorem ofDigitChars_twoDigits {number : Nat} (small : number < 100) (init : Nat) :
    Nat.ofDigitChars 10 (twoDigits number) init = 100 * init + number := by
  rw [twoDigits, Nat.ofDigitChars_cons_digitChar_of_lt_ten (by omega),
    Nat.ofDigitChars_cons_digitChar_of_lt_ten (by omega), Nat.ofDigitChars_nil]
  omega

theorem scanInteger_twoDigits {number : Nat} (small : number < 100) {rest : List Char}
    (stops : StopsNumber rest) :
    scanInteger (twoDigits number ++ rest) = some ((number : Int), rest) := by
  have nonempty : twoDigits number ≠ [] := List.cons_ne_nil _ _
  rw [scanInteger_append nonempty (isDigit_twoDigits small) stops, ofDigitChars_twoDigits small,
    Nat.mul_zero, Nat.zero_add]

theorem isDigit_fourDigits {number : Nat} (small : number < 10000) :
    ∀ char ∈ fourDigits number, char.isDigit = true := by
  intro char member
  rcases List.mem_append.mp member with high | low
  · exact isDigit_twoDigits (by omega) char high
  · exact isDigit_twoDigits (by omega) char low

theorem scanInteger_fourDigits {number : Nat} (small : number < 10000) {rest : List Char}
    (stops : StopsNumber rest) :
    scanInteger (fourDigits number ++ rest) = some ((number : Int), rest) := by
  have nonempty : fourDigits number ≠ [] := List.cons_ne_nil _ _
  have value : Nat.ofDigitChars 10 (fourDigits number) 0 = number := by
    rw [fourDigits, Nat.ofDigitChars_append, ofDigitChars_twoDigits (by omega),
      ofDigitChars_twoDigits (by omega)]
    omega
  rw [scanInteger_append nonempty (isDigit_fourDigits small) stops, value]

theorem stopsNumber_cons {char : Char} (notDigit : char.isDigit = false) (rest : List Char) :
    StopsNumber (char :: rest) := by
  intro first isFirst
  rwa [← Option.some.inj isFirst]

/-! ## Date and time -/

/-- The text `YYYY-MM-DD`. -/
def dateText (date : Date) : List Char :=
  fourDigits date.year.toNat ++ '-' :: (twoDigits date.month ++ '-' :: twoDigits date.day)

/-- The text `HH:MM:SS`. -/
def clockText (time : DateTime) : List Char :=
  twoDigits time.hour ++ ':' :: (twoDigits time.minute ++ ':' :: twoDigits time.second)

def civilText (separator : Char) (time : DateTime) : List Char :=
  dateText time.date ++ separator :: clockText time

/-- The six numbers of a date and time. -/
def civilFields (time : DateTime) : List Int :=
  [time.date.year, time.date.month, time.date.day, time.hour, time.minute, time.second]

theorem day_lt (date : Date) : date.day < 100 := by
  have inMonth := date.day_le
  rw [monthLength] at inMonth
  split at inMonth
  · split at inMonth <;> omega
  · split at inMonth <;> omega

theorem isSpace_of_isDigit {char : Char} (digit : char.isDigit = true) : isSpace char = false := by
  have unsigned := takeSign_dropWhile_cons_of_isDigit digit []
  by_contra space
  rw [Bool.not_eq_false] at space
  rw [List.dropWhile_cons_of_pos space] at unsigned
  simp [takeSign] at unsigned

/-- Scanning a number, a literal and what follows it. -/
theorem scanFields_cons {text rest : List Char} {value : Int} {literal : Char}
    (number : scanInteger text = some (value, rest)) (literals : List Char) :
    scanFields text (literal :: literals) =
      (scanLiteral literal rest).bind fun afterLiteral =>
        (scanFields afterLiteral literals).map (value :: ·) := by
  simp only [scanFields, number, Option.bind_eq_bind, Option.bind_some]
  cases scanLiteral literal rest with
  | none => rfl
  | some afterLiteral =>
      rw [Option.bind_some, Option.bind_some]
      cases scanFields afterLiteral literals <;> rfl

theorem scanLiteral_self {literal : Char} (notBlank : literal ≠ ' ') (rest : List Char) :
    scanLiteral literal (literal :: rest) = some rest := by
  rw [scanLiteral, if_neg notBlank, if_pos rfl]

theorem scanFields_clockText (time : DateTime) {rest : List Char} (stops : StopsNumber rest) :
    scanFields (clockText time ++ rest) [':', ':'] =
      some [(time.hour : Int), (time.minute : Int), (time.second : Int)] := by
  have hour : time.hour < 100 := Nat.lt_trans time.hour_lt (by decide)
  have minute : time.minute < 100 := Nat.lt_trans time.minute_lt (by decide)
  have second : time.second < 100 := Nat.lt_trans time.second_lt (by decide)
  have colon : ∀ more, StopsNumber (':' :: more) := stopsNumber_cons (by decide)
  have literal : ∀ more, scanLiteral ':' (':' :: more) = some more := scanLiteral_self (by decide)
  have last : scanFields (twoDigits time.second ++ rest) [] = some [(time.second : Int)] := by
    rw [scanFields, scanInteger_twoDigits second stops, Option.map_some]
  simp only [clockText, List.append_assoc, List.cons_append]
  rw [scanFields_cons (scanInteger_twoDigits hour (colon _)), literal, Option.bind_some,
    scanFields_cons (scanInteger_twoDigits minute (colon _)), literal, Option.bind_some, last,
    Option.map_some, Option.map_some]

section FourPlaceYears

variable {date : Date} (notNegative : 0 ≤ date.year) (fourPlaces : date.year ≤ 9999)

include notNegative fourPlaces

theorem scanFields_dateText {rest : List Char} (stops : StopsNumber rest) (literal : Char)
    (literals : List Char) :
    scanFields (dateText date ++ rest) ('-' :: '-' :: literal :: literals) =
      (scanLiteral literal rest).bind fun afterLiteral =>
        (scanFields afterLiteral literals).map fun values =>
          date.year :: (date.month : Int) :: (date.day : Int) :: values := by
  have year : date.year.toNat < 10000 := by omega
  have sameYear : (date.year.toNat : Int) = date.year := Int.toNat_of_nonneg notNegative
  have month : date.month < 100 := Nat.lt_of_le_of_lt date.month_le (by decide)
  have hyphen : ∀ more, StopsNumber ('-' :: more) := stopsNumber_cons (by decide)
  have dash : ∀ more, scanLiteral '-' ('-' :: more) = some more := scanLiteral_self (by decide)
  simp only [dateText, List.append_assoc, List.cons_append]
  rw [scanFields_cons (scanInteger_fourDigits year (hyphen _)), dash, Option.bind_some,
    scanFields_cons (scanInteger_twoDigits month (hyphen _)), dash, Option.bind_some,
    scanFields_cons (scanInteger_twoDigits (day_lt date) stops), sameYear]
  cases scanLiteral literal rest with
  | none => rfl
  | some afterLiteral =>
      rw [Option.bind_some, Option.bind_some, Option.map_map, Option.map_map]
      rfl

end FourPlaceYears

section Separators

variable {time : DateTime} (notNegative : 0 ≤ time.date.year) (fourPlaces : time.date.year ≤ 9999)
  {rest : List Char} (stops : StopsNumber rest)

include notNegative fourPlaces stops

theorem scanFields_civilText_T :
    scanFields (civilText 'T' time ++ rest) ['-', '-', 'T', ':', ':'] =
      some (civilFields time) := by
  have separator : ∀ more, StopsNumber ('T' :: more) := stopsNumber_cons (by decide)
  rw [civilText, List.append_assoc, List.cons_append,
    scanFields_dateText notNegative fourPlaces (separator _), scanLiteral_self (by decide),
    Option.bind_some, scanFields_clockText time stops, Option.map_some, civilFields]

theorem scanFields_civilText_blank :
    scanFields (civilText ' ' time ++ rest) ['-', '-', 'T', ':', ':'] = none ∧
      scanFields (civilText ' ' time ++ rest) ['-', '-', ' ', ':', ':'] =
        some (civilFields time) := by
  have separator : ∀ more, StopsNumber (' ' :: more) := stopsNumber_cons (by decide)
  have noT : ∀ more, scanLiteral 'T' (' ' :: more) = none := fun _ => rfl
  have hour : ((time.hour / 10).digitChar).isDigit = true :=
    isDigit_twoDigits (Nat.lt_trans time.hour_lt (by decide)) _ List.mem_cons_self
  have blank : scanLiteral ' ' (' ' :: (clockText time ++ rest)) =
      some (clockText time ++ rest) := by
    rw [scanLiteral, if_pos rfl, List.dropWhile_cons_of_pos (by decide), clockText, twoDigits,
      List.cons_append, List.cons_append,
      List.dropWhile_cons_of_neg (by simp [isSpace_of_isDigit hour])]
  constructor
  · rw [civilText, List.append_assoc, List.cons_append,
      scanFields_dateText notNegative fourPlaces (separator _), noT, Option.bind_none]
  · rw [civilText, List.append_assoc, List.cons_append,
      scanFields_dateText notNegative fourPlaces (separator _), blank, Option.bind_some,
      scanFields_clockText time stops, Option.map_some, civilFields]

end Separators

/-! ## `timegm` -/

theorem daysToMarch_eq (year : Int) :
    daysToMarch year = daysBeforeYear year - daysBeforeYear 1970 + daysBeforeMonth year 3 := by
  have epochDays : daysBeforeYear 1970 = 719162 := by decide
  by_cases leap : IsLeap year
  · have february : daysBeforeMonth year 3 = 60 := by
      simp [daysBeforeMonth, monthLength, leap]
    rw [IsLeap] at leap
    rw [daysToMarch, daysBeforeYear, epochDays, february]
    omega
  · have february : daysBeforeMonth year 3 = 59 := by
      simp [daysBeforeMonth, monthLength, leap]
    rw [IsLeap] at leap
    rw [daysToMarch, daysBeforeYear, epochDays, february]
    omega

/-- From March on, any five months in a row have 153 days. -/
theorem daysBeforeMonth_fromMarch (year : Int) {months : Nat} (inYear : months ≤ 9) :
    daysBeforeMonth year (months + 3) = daysBeforeMonth year 3 + (153 * months + 2) / 5 := by
  induction months with
  | zero => rfl
  | succ months ih =>
      have length : monthLength year (months + 3) + (153 * months + 2) / 5 =
          (153 * (months + 1) + 2) / 5 := by
        have last : months ≤ 8 := Nat.le_of_succ_le_succ inYear
        interval_cases months <;> simp [monthLength]
      rw [Nat.succ_add, daysBeforeMonth_succ year (by omega), ih (by omega)]
      omega

/-- The days `timegm` counts are those of the calendar: January and February come
last in a year that starts in March. -/
theorem daysToMarch_add (year : Int) {month : Nat} (positive : 1 ≤ month) (le : month ≤ 12) :
    daysToMarch (year + ((month : Int) - 3) / 12) + (153 * (((month : Int) - 3) % 12) + 2) / 5 =
      daysBeforeYear year - daysBeforeYear 1970 + daysBeforeMonth year month := by
  by_cases march : 3 ≤ month
  · have months := daysBeforeMonth_fromMarch year (show month - 3 ≤ 9 by omega)
    have back : month - 3 + 3 = month := Nat.sub_add_cancel march
    have thisYear : ((month : Int) - 3) / 12 = 0 := by omega
    rw [back] at months
    rw [thisYear, Int.add_zero, daysToMarch_eq]
    omega
  · have lastYear : ((month : Int) - 3) / 12 = -1 := by omega
    have january : daysBeforeMonth year 1 = 0 := rfl
    have february : daysBeforeMonth year 2 = 31 := by simp [daysBeforeMonth, monthLength]
    have epochDays : daysBeforeYear 1970 = 719162 := by decide
    rw [lastYear, epochDays, daysToMarch, daysBeforeYear]
    rcases (show month = 1 ∨ month = 2 by omega) with rfl | rfl
    · rw [january]
      omega
    · rw [february]
      omega

/-- `timegm` finds the instant of a valid date and time. -/
theorem timegm_eq_instant (time : DateTime) :
    timegm time.date.year time.date.month time.date.day time.hour time.minute time.second =
      time.instant := by
  have days := daysToMarch_add time.date.year time.date.month_pos time.date.month_le
  simp only [timegm, DateTime.instant, Date.dayNumber]
  rw [days]

/-! ## Fractions -/

/-- The part of a second that the digits after the point name. -/
def fractionOfSecond : List (Fin 10) → ℚ
  | [] => 0
  | digit :: digits => ((digit : ℕ) + fractionOfSecond digits) / 10

def digitsText (digits : List (Fin 10)) : List Char :=
  digits.map fun digit : Fin 10 => Nat.digitChar digit

theorem isDigit_digitsText (digits : List (Fin 10)) :
    ∀ char ∈ digitsText digits, char.isDigit = true := by
  rintro char member
  obtain ⟨digit, _, rfl⟩ := List.mem_map.mp member
  exact Nat.isDigit_digitChar.trans (decide_eq_true digit.isLt)

theorem fractionOfSecond_bounds (digits : List (Fin 10)) :
    0 ≤ fractionOfSecond digits ∧ fractionOfSecond digits < 1 := by
  induction digits with
  | nil => norm_num [fractionOfSecond]
  | cons digit digits ih =>
      have positive : (0 : ℚ) ≤ (digit : ℕ) := Nat.cast_nonneg _
      have small : ((digit : ℕ) : ℚ) ≤ 9 := by exact_mod_cast Nat.le_of_lt_succ digit.isLt
      rw [fractionOfSecond]
      constructor
      · linarith
      · linarith

/-- The digits that count make the fraction, cut off after the last of them. -/
theorem fractionMs_digitsText (scale : Nat) (digits : List (Fin 10)) {rest : List Char}
    (stops : StopsNumber rest) :
    (fractionMs scale (digitsText digits ++ rest) : Int) =
      ⌊10 ^ scale * fractionOfSecond digits⌋ := by
  induction scale generalizing digits with
  | zero =>
      have bounds := fractionOfSecond_bounds digits
      rw [fractionMs, pow_zero, one_mul]
      exact (Int.floor_eq_zero_iff.mpr bounds).symm
  | succ scale ih =>
      cases digits with
      | nil =>
          have nothing : fractionMs (scale + 1) rest = 0 := by
            cases rest with
            | nil => rfl
            | cons first more =>
                have notDigit : first.isDigit = false := stops first rfl
                simp [fractionMs, notDigit]
          simp [digitsText, fractionOfSecond, nothing]
      | cons digit digits =>
          have isDigit : (Nat.digitChar digit).isDigit = true :=
            isDigit_digitsText (digit :: digits) _ List.mem_cons_self
          have value : (Nat.digitChar digit).toNat - 48 = digit :=
            Nat.toNat_digitChar_sub_48_of_lt_ten digit.isLt
          have shifted : (10 : ℚ) ^ (scale + 1) * fractionOfSecond (digit :: digits) =
              ((digit * 10 ^ scale : ℕ) : ℚ) + 10 ^ scale * fractionOfSecond digits := by
            rw [fractionOfSecond, pow_succ]
            push_cast
            ring
          have more := ih digits
          rw [shifted, Int.floor_natCast_add, ← more]
          simp [digitsText, fractionMs, isDigit, value]

/-! ## Zones -/

/-- UTC, or two digits of hours and two of minutes east or west of it. -/
inductive Zone where
  | utc
  | east (hours minutes : Fin 100)
  | west (hours minutes : Fin 100)

namespace Zone

def text : Zone → List Char
  | utc => ['Z']
  | east hours minutes => '+' :: (twoDigits hours ++ ':' :: twoDigits minutes)
  | west hours minutes => '-' :: (twoDigits hours ++ ':' :: twoDigits minutes)

def offsetSeconds : Zone → Int
  | utc => 0
  | east hours minutes => (hours : ℕ) * 3600 + (minutes : ℕ) * 60
  | west hours minutes => -((hours : ℕ) * 3600 + (minutes : ℕ) * 60)

theorem stopsNumber_text (zone : Zone) : StopsNumber zone.text := by
  cases zone with
  | utc => exact stopsNumber_cons (by decide) _
  | east hours minutes => exact stopsNumber_cons (by decide) _
  | west hours minutes => exact stopsNumber_cons (by decide) _

theorem mem_text {zone : Zone} {char : Char} (member : char ∈ zone.text) :
    char.isDigit = true ∨ char ∈ ['Z', '+', '-', ':'] := by
  have offset : ∀ sign : Char, ∀ hours minutes : Fin 100, sign ∈ ['Z', '+', '-', ':'] →
      char ∈ sign :: (twoDigits hours ++ ':' :: twoDigits minutes) →
      char.isDigit = true ∨ char ∈ ['Z', '+', '-', ':'] := by
    intro sign hours minutes isSign member
    rw [List.mem_cons, List.mem_append, List.mem_cons] at member
    rcases member with rfl | inHours | rfl | inMinutes
    · exact .inr isSign
    · exact .inl (isDigit_twoDigits hours.isLt char inHours)
    · exact .inr (by decide)
    · exact .inl (isDigit_twoDigits minutes.isLt char inMinutes)
  cases zone with
  | utc =>
      rw [List.mem_singleton.mp member]
      exact .inr (by decide)
  | east hours minutes => exact offset '+' hours minutes (by decide) member
  | west hours minutes => exact offset '-' hours minutes (by decide) member

end Zone

theorem parseTwoDigits_twoDigits {number : Nat} (small : number < 100) (rest : List Char) :
    parseTwoDigits (twoDigits number ++ rest) = some (number : Int) := by
  have high : number / 10 < 10 := by omega
  have low : number % 10 < 10 := by omega
  have digits := isDigit_twoDigits small
  have highDigit := digits _ List.mem_cons_self
  have lowDigit := digits _ (List.mem_cons_of_mem _ List.mem_cons_self)
  have highValue := Nat.toNat_digitChar_sub_48_of_lt_ten high
  have lowValue := Nat.toNat_digitChar_sub_48_of_lt_ten low
  have zero : '0'.toNat = 48 := rfl
  simp only [twoDigits, List.cons_append, List.nil_append, parseTwoDigits, highDigit, lowDigit,
    and_self, if_true, zero, highValue, lowValue]
  congr 1
  omega

/-- What stands in front of the zone holds no sign and no `Z`. -/
theorem timezoneOffsetSeconds_append {front : List Char}
    (noZone : ∀ char ∈ front, char ≠ '+' ∧ char ≠ '-' ∧ char ≠ 'Z') (zone : Zone) :
    timezoneOffsetSeconds (front ++ zone.text) = zone.offsetSeconds := by
  have found : ∀ sign rest, (sign = '+' ∨ sign = '-' ∨ sign = 'Z') →
      (front ++ sign :: rest).dropWhile (fun char => char ≠ '+' ∧ char ≠ '-' ∧ char ≠ 'Z') =
        sign :: rest := by
    intro sign rest isSign
    rw [List.dropWhile_append_of_pos (fun char member => decide_eq_true (noZone char member)),
      List.dropWhile_cons_of_neg]
    rcases isSign with rfl | rfl | rfl <;> decide
  have minutesAfter : ∀ hours minutes : Fin 100,
      (twoDigits hours ++ ':' :: twoDigits minutes).drop 2 = ':' :: twoDigits minutes :=
    fun _ _ => rfl
  have minutesText : ∀ minutes : Fin 100, parseTwoDigits (twoDigits minutes) =
      some ((minutes : ℕ) : Int) := by
    intro minutes
    simpa using parseTwoDigits_twoDigits minutes.isLt []
  cases zone with
  | utc =>
      simp only [timezoneOffsetSeconds, Zone.text, found 'Z' [] (by decide), if_true,
        Zone.offsetSeconds]
  | east hours minutes =>
      simp only [timezoneOffsetSeconds, Zone.text, found '+' _ (by decide),
        parseTwoDigits_twoDigits hours.isLt, minutesAfter, minutesText, Option.getD_some,
        Zone.offsetSeconds]
      rfl
  | west hours minutes =>
      simp only [timezoneOffsetSeconds, Zone.text, found '-' _ (by decide),
        parseTwoDigits_twoDigits hours.isLt, minutesAfter, minutesText, Option.getD_some,
        Zone.offsetSeconds]
      rfl

/-! ## Positions -/

theorem ne_of_isDigit {char other : Char} (digit : char.isDigit = true)
    (notDigit : other.isDigit = false) : char ≠ other := by
  rintro rfl
  exact Bool.false_ne_true (notDigit.symm.trans digit)

theorem utf8Size_of_isDigit {char : Char} (digit : char.isDigit = true) : char.utf8Size = 1 := by
  simp only [Char.isDigit, Bool.and_eq_true, decide_eq_true_eq] at digit
  exact Char.utf8Size_eq_one_iff.mpr (UInt32.le_trans digit.2 (by decide))

/-- Where every character takes one byte, bytes are characters. -/
theorem dropBytes_append {front : List Char} (oneByte : ∀ char ∈ front, char.utf8Size = 1)
    (rest : List Char) : dropBytes front.length (front ++ rest) = rest := by
  induction front with
  | nil => cases rest <;> rfl
  | cons first front ih =>
      have size := oneByte first List.mem_cons_self
      have further := ih fun char member => oneByte char (List.mem_cons_of_mem first member)
      rw [List.cons_append, List.length_cons, dropBytes, if_neg (Nat.succ_ne_zero _), size,
        Nat.add_sub_cancel, further]

theorem mem_civilText {separator : Char} {time : DateTime} {char : Char}
    (fourPlaces : time.date.year ≤ 9999) (member : char ∈ civilText separator time) :
    char.isDigit = true ∨ char = '-' ∨ char = separator ∨ char = ':' := by
  have year : time.date.year.toNat < 10000 := by omega
  have month : time.date.month < 100 := Nat.lt_of_le_of_lt time.date.month_le (by decide)
  have hour : time.hour < 100 := Nat.lt_trans time.hour_lt (by decide)
  have minute : time.minute < 100 := Nat.lt_trans time.minute_lt (by decide)
  have second : time.second < 100 := Nat.lt_trans time.second_lt (by decide)
  simp only [civilText, dateText, clockText, List.mem_append, List.mem_cons] at member
  rcases member with (inYear | rfl | inMonth | rfl | inDay) | rfl | inHour | rfl | inMinute |
    rfl | inSecond
  · exact .inl (isDigit_fourDigits year char inYear)
  · exact .inr (.inl rfl)
  · exact .inl (isDigit_twoDigits month char inMonth)
  · exact .inr (.inl rfl)
  · exact .inl (isDigit_twoDigits (day_lt time.date) char inDay)
  · exact .inr (.inr (.inl rfl))
  · exact .inl (isDigit_twoDigits hour char inHour)
  · exact .inr (.inr (.inr rfl))
  · exact .inl (isDigit_twoDigits minute char inMinute)
  · exact .inr (.inr (.inr rfl))
  · exact .inl (isDigit_twoDigits second char inSecond)

theorem length_civilText (separator : Char) (time : DateTime) :
    (civilText separator time).length = 19 := by
  simp [civilText, dateText, clockText, fourDigits, twoDigits]

/-- The date and time take the first 19 bytes. -/
theorem dropBytes_civilText {separator : Char} {time : DateTime}
    (fourPlaces : time.date.year ≤ 9999) (oneByte : separator.utf8Size = 1) (rest : List Char) :
    dropBytes 19 (civilText separator time ++ rest) = rest := by
  rw [← length_civilText separator time]
  apply dropBytes_append
  intro char member
  rcases mem_civilText fourPlaces member with digit | rfl | rfl | rfl
  · exact utf8Size_of_isDigit digit
  · rfl
  · exact oneByte
  · rfl

/-! ## Timestamp texts -/

/-- A date and time in four-place years, perhaps a fraction of a second, and a
zone. -/
structure TimestampText where
  time : DateTime
  year_nonneg : 0 ≤ time.date.year
  year_le : time.date.year ≤ 9999
  separator : Char
  separator_eq : separator = 'T' ∨ separator = ' '
  fraction : List (Fin 10)
  zone : Zone

namespace TimestampText

variable (text : TimestampText)

def fractionText : List (Fin 10) → List Char
  | [] => []
  | digit :: digits => '.' :: digitsText (digit :: digits)

/-- What follows the date and time. -/
def tail : List Char :=
  fractionText text.fraction ++ text.zone.text

def toText : String :=
  String.ofList (civilText text.separator text.time ++ text.tail)

/-- The instant the text denotes, in milliseconds since the epoch, a last part of
a millisecond cut off. -/
def instantMs : Int :=
  ⌊((text.time.instant - text.zone.offsetSeconds : Int) + fractionOfSecond text.fraction) * 1000⌋

/-- 1969-12-31 23:59:59. -/
def secondBeforeEpoch : DateTime where
  date := ⟨1969, 12, 31, Nat.succ_pos _, Nat.le_refl 12, Nat.succ_pos _, Nat.le_refl 31⟩
  hour := 23
  minute := 59
  second := 59
  hour_lt := Nat.lt_succ_self 23
  minute_lt := Nat.lt_succ_self 59
  second_lt := Nat.lt_succ_self 59

/-! ## Decoding -/

theorem mem_fractionText {digits : List (Fin 10)} {char : Char}
    (member : char ∈ fractionText digits) : char = '.' ∨ char.isDigit = true := by
  cases digits with
  | nil => exact absurd member List.not_mem_nil
  | cons digit digits =>
      rcases List.mem_cons.mp member with point | inDigits
      · exact .inl point
      · exact .inr (isDigit_digitsText _ char inDigits)

theorem stopsNumber_tail : StopsNumber text.tail := by
  rw [tail]
  cases text.fraction with
  | nil => exact text.zone.stopsNumber_text
  | cons digit digits => exact stopsNumber_cons (by decide) _

theorem timezoneOffsetSeconds_tail :
    timezoneOffsetSeconds text.tail = text.zone.offsetSeconds := by
  apply timezoneOffsetSeconds_append
  intro char member
  rcases mem_fractionText member with rfl | digit
  · decide
  · exact ⟨ne_of_isDigit digit (by decide), ne_of_isDigit digit (by decide),
      ne_of_isDigit digit (by decide)⟩

theorem fractionMs_tail :
    (fractionMs 3 ((text.tail.dropWhile (· ≠ '.')).drop 1) : Int) =
      ⌊10 ^ 3 * fractionOfSecond text.fraction⌋ := by
  rw [tail]
  cases text.fraction with
  | nil =>
      have noPoint : text.zone.text.dropWhile (· ≠ '.') = [] := by
        have marks : ∀ char ∈ ['Z', '+', '-', ':'], char ≠ '.' := by simp
        apply List.dropWhile_eq_nil_iff.mpr
        intro char member
        rcases Zone.mem_text member with digit | mark
        · exact decide_eq_true (ne_of_isDigit digit (by decide))
        · exact decide_eq_true (marks char mark)
      have stops : StopsNumber [] := by
        intro char isHead
        exact absurd isHead (Option.not_mem_none char)
      have none := fractionMs_digitsText 3 [] stops
      rw [fractionText, List.nil_append, noPoint]
      exact none
  | cons digit digits =>
      rw [fractionText, List.cons_append, List.dropWhile_cons_of_neg (by decide), List.drop_one,
        List.tail_cons]
      exact fractionMs_digitsText 3 (digit :: digits) text.zone.stopsNumber_text

theorem dropBytes_toText :
    dropBytes 19 (civilText text.separator text.time ++ text.tail) = text.tail := by
  apply dropBytes_civilText text.year_le
  rcases text.separator_eq with isT | isBlank
  · rw [isT]
    rfl
  · rw [isBlank]
    rfl

theorem scanFields_toText :
    (scanFields (civilText text.separator text.time ++ text.tail) ['-', '-', 'T', ':', ':'] <|>
      scanFields (civilText text.separator text.time ++ text.tail) ['-', '-', ' ', ':', ':']) =
        some (civilFields text.time) := by
  rcases text.separator_eq with isT | isBlank
  · rw [isT, scanFields_civilText_T text.year_nonneg text.year_le text.stopsNumber_tail]
    rfl
  · have fields := scanFields_civilText_blank text.year_nonneg text.year_le text.stopsNumber_tail
    rw [isBlank, fields.1, fields.2]
    rfl

/-- The text is not a number: it has a hyphen. -/
theorem not_all_isDigit : (text.toText.toList.all Char.isDigit) = false := by
  have hyphen : '-' ∈ civilText text.separator text.time ++ text.tail := by
    simp [civilText, dateText]
  rw [toText, String.toList_ofList]
  exact List.all_eq_false.mpr ⟨'-', hyphen, by decide⟩

theorem toText_ne_empty : text.toText ≠ "" := by
  intro empty
  have chars := text.not_all_isDigit
  rw [empty] at chars
  exact absurd chars (by decide)

theorem instantMs_eq : text.instantMs = (text.time.instant - text.zone.offsetSeconds) * 1000 +
    ⌊10 ^ 3 * fractionOfSecond text.fraction⌋ := by
  have scaled : (((text.time.instant - text.zone.offsetSeconds : Int) : ℚ) +
      fractionOfSecond text.fraction) * 1000 =
      (((text.time.instant - text.zone.offsetSeconds) * 1000 : Int) : ℚ) +
        10 ^ 3 * fractionOfSecond text.fraction := by
    push_cast
    ring
  rw [instantMs, scaled, Int.floor_intCast_add]

theorem instant_eq_neg_one_iff (time : DateTime) :
    time.instant = -1 ↔ time = secondBeforeEpoch := by
  have sentinel : secondBeforeEpoch.instant = -1 := by decide
  constructor
  · intro isSentinel
    exact DateTime.instant_injective (isSentinel.trans sentinel.symm)
  · rintro rfl
    exact sentinel

/-- What the decoder makes of the text. -/
theorem parseTimestampMs_toText :
    parseTimestampMs (some (.string text.toText)) =
      if text.time.instant = -1 then 0 else Int64.ofInt text.instantMs := by
  rw [parseTimestampMs, parseTimestampValue, if_neg text.toText_ne_empty, text.not_all_isDigit,
    if_neg Bool.false_ne_true, toText, String.toList_ofList, parseTimestampText,
    text.scanFields_toText, instantMs_eq, ← fractionMs_tail]
  simp only [civilFields, timegm_eq_instant, text.dropBytes_toText,
    text.timezoneOffsetSeconds_tail]

theorem instant_bounds :
    -62167219200 ≤ text.time.instant ∧ text.time.instant < 253402300800 := by
  have year := text.year_nonneg
  have yearLe := text.year_le
  have bounds := text.time.date.dayNumber_bounds
  have first := daysBeforeYear_mono year
  have last := daysBeforeYear_mono (show text.time.date.year + 1 ≤ 10000 by omega)
  have epochDays : daysBeforeYear 1970 = 719162 := by decide
  have firstDays : daysBeforeYear 0 = -366 := by decide
  have lastDays : daysBeforeYear 10000 = 3652059 := by decide
  have hour := text.time.hour_lt
  have minute := text.time.minute_lt
  have second := text.time.second_lt
  rw [DateTime.instant]
  omega

/-- The zone moves the instant by whole minutes, less than five days; the fraction
adds less than a second. -/
theorem instantMs_bounds : ∃ minutes ms : Int,
    text.instantMs = (text.time.instant - minutes * 60) * 1000 + ms ∧
      -6039 ≤ minutes ∧ minutes ≤ 6039 ∧ 0 ≤ ms ∧ ms < 1000 := by
  have fraction := fractionOfSecond_bounds text.fraction
  have notNegative : 0 ≤ ⌊10 ^ 3 * fractionOfSecond text.fraction⌋ :=
    Int.floor_nonneg.mpr (by linarith)
  have lessThanSecond : ⌊10 ^ 3 * fractionOfSecond text.fraction⌋ < 1000 :=
    Int.floor_lt.mpr (by push_cast; linarith)
  rw [instantMs_eq]
  cases text.zone with
  | utc => exact ⟨0, _, by rw [Zone.offsetSeconds, Int.zero_mul], by omega⟩
  | east hours minutes =>
      have hours_lt := hours.isLt
      have minutes_lt := minutes.isLt
      exact ⟨(hours : ℕ) * 60 + (minutes : ℕ), _, by rw [Zone.offsetSeconds]; congr 3; omega,
        by omega⟩
  | west hours minutes =>
      have hours_lt := hours.isLt
      have minutes_lt := minutes.isLt
      exact ⟨-((hours : ℕ) * 60 + (minutes : ℕ)), _, by rw [Zone.offsetSeconds]; congr 3; omega,
        by omega⟩

theorem toInt_ofInt_instantMs : (Int64.ofInt text.instantMs).toInt = text.instantMs := by
  obtain ⟨minutes, ms, instantMs, west, east, notNegative, lessThanSecond⟩ := text.instantMs_bounds
  have range := text.instant_bounds
  exact Int64.toInt_ofInt_of_le (by omega) (by omega)

/-- The decoder finds the instant of every text but those that name the last second
before 1970 in their zone: `timegm` answers -1 there, as it does on failure. -/
theorem parseTimestampMs_eq_instantMs_iff :
    (parseTimestampMs (some (.string text.toText))).toInt = text.instantMs ↔
      text.time ≠ secondBeforeEpoch := by
  obtain ⟨minutes, ms, instantMs, west, east, notNegative, lessThanSecond⟩ := text.instantMs_bounds
  rw [parseTimestampMs_toText]
  constructor
  · rintro decoded isSecond
    have sentinel := (instant_eq_neg_one_iff text.time).mpr isSecond
    have zero : (0 : Int64).toInt = 0 := rfl
    rw [if_pos sentinel] at decoded
    rw [sentinel, ← decoded] at instantMs
    omega
  · intro other
    rw [if_neg (mt (instant_eq_neg_one_iff text.time).mp other), toInt_ofInt_instantMs]

/-- The texts that are read as no time at all. -/
theorem parseTimestampMs_toText_eq_zero_iff :
    parseTimestampMs (some (.string text.toText)) = 0 ↔
      text.instantMs = 0 ∨ text.time = secondBeforeEpoch := by
  rw [parseTimestampMs_toText, ← instant_eq_neg_one_iff]
  split
  · next sentinel => exact iff_of_true rfl (.inr sentinel)
  · next other =>
      rw [← Int64.toInt_inj, toInt_ofInt_instantMs]
      exact (or_iff_left other).symm

theorem nulFree_toText : NulFree text.toText := by
  have nulNoDigit : '\x00'.isDigit = false := by decide
  have marks : ∀ char ∈ ['Z', '+', '-', ':'], char ≠ '\x00' := by simp
  intro char member
  rw [toText, String.toList_ofList, tail, List.mem_append, List.mem_append] at member
  rcases member with inCivil | inFraction | inZone
  · rcases mem_civilText text.year_le inCivil with digit | rfl | rfl | rfl
    · exact ne_of_isDigit digit nulNoDigit
    · decide
    · rcases text.separator_eq with isT | isBlank
      · rw [isT]
        decide
      · rw [isBlank]
        decide
    · decide
  · rcases mem_fractionText inFraction with rfl | digit
    · decide
    · exact ne_of_isDigit digit nulNoDigit
  · rcases Zone.mem_text inZone with digit | mark
    · exact ne_of_isDigit digit nulNoDigit
    · exact marks char mark

/-- The text is no number, though it begins with one. -/
theorem parseInt64String_toText (default : Int64) :
    parseInt64String text.toText default = default := by
  have notNegative := text.year_nonneg
  have fourPlaces := text.year_le
  have year : text.time.date.year.toNat < 10000 := by omega
  have hyphen : ∀ more, StopsNumber ('-' :: more) := stopsNumber_cons (by decide)
  have chars : text.toText.toList = fourDigits text.time.date.year.toNat ++ '-' ::
      (twoDigits text.time.date.month ++ '-' :: twoDigits text.time.date.day ++
        text.separator :: clockText text.time ++ text.tail) := by
    simp [toText, civilText, dateText]
  rw [parseInt64String, if_neg text.toText_ne_empty, cString_eq_self text.nulFree_toText, chars,
    scanInteger_fourDigits year (hyphen _)]
  exact if_neg (List.cons_ne_nil _ _)

/-- The last second before 1970, in UTC. -/
def beforeEpoch : TimestampText where
  time := secondBeforeEpoch
  year_nonneg := by decide
  year_le := by decide
  separator := 'T'
  separator_eq := .inl rfl
  fraction := []
  zone := .utc

theorem parseTimestampMs_beforeEpoch : beforeEpoch.toText = "1969-12-31T23:59:59Z" ∧
    beforeEpoch.instantMs = -1000 ∧ parseTimestampMs (some (.string beforeEpoch.toText)) = 0 := by
  have sentinel : beforeEpoch.time.instant = -1 := by decide
  refine ⟨by decide, ?_, ?_⟩
  · rw [instantMs, sentinel]
    norm_num [beforeEpoch, Zone.offsetSeconds, fractionOfSecond]
  · rw [parseTimestampMs_toText, if_pos sentinel]

end TimestampText

/-! ## Formatting -/

/-- `strftime` with the format `%Y-%m-%dT%H:%M:%SZ`. -/
def strftimeIso8601 (time : DateTime) : String :=
  toString time.date.year ++ String.ofList ('-' :: (twoDigits time.date.month ++ '-' ::
    (twoDigits time.date.day ++ 'T' :: (clockText time ++ ['Z']))))

/-- `gmtime_r` and `strftime` into a buffer of 32 bytes, which stays empty when the
text and its NUL do not fit. -/
def formatIso8601Utc (unixMs : Int64) : String :=
  if unixMs ≤ 0 then ""
  else
    let text := strftimeIso8601 (DateTime.afterEpoch (unixMs / 1000).toInt.toNat)
    if 32 ≤ text.length then "" else text

theorem toDigits_eq_fourDigits {number : Nat} (fromThousand : 1000 ≤ number)
    (small : number < 10000) : Nat.toDigits 10 number = fourDigits number := by
  have ten : 1 < 10 := by decide
  rw [Nat.toDigits_of_base_le ten (by omega), Nat.toDigits_of_base_le ten (by omega),
    Nat.toDigits_of_base_le ten (by omega), Nat.toDigits_of_lt_base (by omega)]
  have hundreds : number / 10 / 10 = number / 100 := by omega
  have tens : number / 10 % 10 = number % 100 / 10 := by omega
  have ones : number % 10 = number % 100 % 10 := by omega
  rw [hundreds, tens, ones]
  rfl

theorem toString_year {year : Int} (fromThousand : 1000 ≤ year) (fourPlaces : year ≤ 9999) :
    (toString year).toList = fourDigits year.toNat := by
  obtain ⟨number, rfl⟩ := Int.eq_ofNat_of_zero_le (show 0 ≤ year by omega)
  change (Nat.repr number).toList = _
  rw [Nat.toList_repr, toDigits_eq_fourDigits (by omega) (by omega)]
  rfl

/-- The text of a time with a year of four places, in UTC. -/
def TimestampText.ofDateTime (time : DateTime) (fromThousand : 1000 ≤ time.date.year)
    (fourPlaces : time.date.year ≤ 9999) : TimestampText where
  time := time
  year_nonneg := by omega
  year_le := fourPlaces
  separator := 'T'
  separator_eq := .inl rfl
  fraction := []
  zone := .utc

theorem strftimeIso8601_eq_toText {time : DateTime} (fromThousand : 1000 ≤ time.date.year)
    (fourPlaces : time.date.year ≤ 9999) :
    strftimeIso8601 time = (TimestampText.ofDateTime time fromThousand fourPlaces).toText := by
  apply String.ext
  rw [strftimeIso8601, String.toList_append, toString_year fromThousand fourPlaces,
    String.toList_ofList, TimestampText.toText, String.toList_ofList]
  simp [civilText, dateText, TimestampText.tail, TimestampText.ofDateTime, Zone.text,
    TimestampText.fractionText]

theorem length_strftimeIso8601 {time : DateTime} (fromThousand : 1000 ≤ time.date.year)
    (fourPlaces : time.date.year ≤ 9999) : (strftimeIso8601 time).length = 20 := by
  rw [strftimeIso8601_eq_toText fromThousand fourPlaces, TimestampText.toText,
    String.length_ofList, List.length_append, length_civilText]
  rfl

theorem instantMs_ofDateTime {time : DateTime} (fromThousand : 1000 ≤ time.date.year)
    (fourPlaces : time.date.year ≤ 9999) :
    (TimestampText.ofDateTime time fromThousand fourPlaces).instantMs = time.instant * 1000 := by
  rw [TimestampText.instantMs_eq]
  simp [TimestampText.ofDateTime, fractionOfSecond, Zone.offsetSeconds]

/-- The years of the times that `formatIso8601Utc` is used for have four places. -/
theorem year_bounds_of_instant {time : DateTime} (notNegative : 0 ≤ time.instant)
    (inCalendar : time.instant < 253402300800) :
    1970 ≤ time.date.year ∧ time.date.year ≤ 9999 := by
  have epochDays : daysBeforeYear 1970 = 719162 := by decide
  have lastDays : daysBeforeYear (9999 + 1) = 3652059 := by decide
  have hour := time.hour_lt
  have minute := time.minute_lt
  have second := time.second_lt
  rw [DateTime.instant] at notNegative inCalendar
  constructor
  · apply Date.le_year_of_le_dayNumber
    omega
  · apply Date.year_le_of_dayNumber_lt
    omega

section Formatting

variable {unixMs : Int64} (positive : 0 < unixMs) (inCalendar : unixMs < 253402300800000)

include positive

theorem toInt_seconds : (unixMs / 1000).toInt = unixMs.toInt / 1000 := by
  have positiveInt : 0 < unixMs.toInt := Int64.lt_iff_toInt_lt.mp positive
  rw [Int64.toInt_div_of_ne_right _ _ (by decide)]
  exact Int.tdiv_eq_ediv_of_nonneg (Int.le_of_lt positiveInt)

theorem toInt_wholeSeconds :
    (unixMs - unixMs % 1000).toInt = unixMs.toInt / 1000 * 1000 := by
  have positiveInt : 0 < unixMs.toInt := Int64.lt_iff_toInt_lt.mp positive
  have remainder : (unixMs % 1000).toInt = unixMs.toInt % 1000 := by
    rw [Int64.toInt_mod]
    exact Int.tmod_eq_emod_of_nonneg (Int.le_of_lt positiveInt)
  have notNegative : 0 ≤ unixMs % 1000 := by
    rw [Int64.le_iff_toInt_le, remainder]
    exact Int.emod_nonneg _ (by decide)
  have atMost : unixMs % 1000 ≤ unixMs := by
    rw [Int64.le_iff_toInt_le, remainder]
    omega
  rw [Int64.toInt_sub_of_le _ _ notNegative atMost, remainder]
  omega

include inCalendar

/-- What is formatted is a timestamp text of the second. -/
theorem formatIso8601Utc_eq_toText : ∃ text : TimestampText,
    formatIso8601Utc unixMs = text.toText ∧ text.time.instant = unixMs.toInt / 1000 ∧
      text.instantMs = unixMs.toInt / 1000 * 1000 := by
  have positiveInt : 0 < unixMs.toInt := Int64.lt_iff_toInt_lt.mp positive
  have inCalendarInt : unixMs.toInt < 253402300800000 := Int64.lt_iff_toInt_lt.mp inCalendar
  have seconds := toInt_seconds positive
  generalize timeEq : DateTime.afterEpoch (unixMs / 1000).toInt.toNat = time
  have instant : time.instant = unixMs.toInt / 1000 := by
    rw [← timeEq, DateTime.instant_afterEpoch, seconds]
    omega
  have year := year_bounds_of_instant (show 0 ≤ time.instant by omega) (by omega)
  have fromThousand : 1000 ≤ time.date.year := by omega
  have fits : ¬ 32 ≤ (strftimeIso8601 time).length := by
    rw [length_strftimeIso8601 fromThousand year.2]
    decide
  refine ⟨.ofDateTime time fromThousand year.2, ?_, instant, ?_⟩
  · rw [formatIso8601Utc, if_neg (Int64.not_le.mpr positive), timeEq, if_neg fits,
      strftimeIso8601_eq_toText fromThousand year.2]
  · rw [instantMs_ofDateTime, instant]

theorem formatIso8601Utc_ne_empty : formatIso8601Utc unixMs ≠ "" := by
  obtain ⟨text, formatted, _⟩ := formatIso8601Utc_eq_toText positive inCalendar
  rw [formatted]
  exact text.toText_ne_empty

/-- A time from 1970 on up to the end of the year 9999 reads back to its second. -/
theorem parseTimestampMs_formatIso8601Utc :
    parseTimestampMs (some (.string (formatIso8601Utc unixMs))) = unixMs - unixMs % 1000 := by
  obtain ⟨text, formatted, instant, instantMs⟩ := formatIso8601Utc_eq_toText positive inCalendar
  have positiveInt : 0 < unixMs.toInt := Int64.lt_iff_toInt_lt.mp positive
  have notSentinel : text.time.instant ≠ -1 := by omega
  apply Int64.toInt_inj.mp
  rw [formatted, TimestampText.parseTimestampMs_toText, if_neg notSentinel,
    TimestampText.toInt_ofInt_instantMs, instantMs, toInt_wholeSeconds positive]

end Formatting

end AnychatSdk
