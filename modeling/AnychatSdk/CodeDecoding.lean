import AnychatSdk.Lib.CheckedInt
import AnychatSdk.AuthRequests
import AnychatSdk.ContactRoutes
import AnychatSdk.DecodingRoutes
import AnychatSdk.GroupManager

/-!
# Codes and counts in 32 bits

A server sends a code or a count as a number or as a decimal text.  The decoders
read 64 bits of it and cut them to 32 before they look at the range, so a number
beyond 32 bits is taken for the one that its last bits spell.
-/

namespace AnychatSdk

open CheckedInt

/-! ## Decimal texts -/

inductive DecimalSign where
  | none
  | plus
  | minus

def DecimalSign.text : DecimalSign → List Char
  | none => []
  | plus => ['+']
  | minus => ['-']

def DecimalSign.apply (magnitude : Nat) : DecimalSign → Int
  | minus => -magnitude
  | _ => magnitude

/-- A decimal integer: an optional sign and some digits. -/
structure DecimalText where
  sign : DecimalSign
  digits : List Char
  nonempty : digits ≠ []
  areDigits : ∀ char ∈ digits, char.isDigit = true

namespace DecimalText

variable (text : DecimalText)

def toText : String :=
  String.ofList (text.sign.text ++ text.digits)

def value : Int :=
  text.sign.apply (Nat.ofDigitChars 10 text.digits 0)

theorem scanInteger_toText : scanInteger text.toText.toList = some (text.value, []) := by
  have scans : ∀ {written : List Char} {negative : Bool},
      takeSign (written.dropWhile isSpace) = (negative, text.digits ++ []) →
        scanInteger written = some (if negative then -(Nat.ofDigitChars 10 text.digits 0 : Int)
          else Nat.ofDigitChars 10 text.digits 0, []) :=
    fun signed => scanInteger_of_takeSign signed text.nonempty text.areDigits (by simp)
  rw [toText, String.toList_ofList, value]
  cases text.sign with
  | none =>
      have unsigned := takeSign_dropWhile_append text.nonempty text.areDigits []
      exact scans (by simpa [DecimalSign.text] using unsigned)
  | plus =>
      have notSpace : isSpace '+' = false := by decide
      have signed : takeSign (('+' :: text.digits).dropWhile isSpace) =
          (false, text.digits ++ []) := by
        rw [List.dropWhile_cons, notSpace, List.append_nil]
        rfl
      exact scans signed
  | minus =>
      have notSpace : isSpace '-' = false := by decide
      have signed : takeSign (('-' :: text.digits).dropWhile isSpace) =
          (true, text.digits ++ []) := by
        rw [List.dropWhile_cons, notSpace, List.append_nil]
        rfl
      exact scans signed

theorem mem_toText {char : Char} (member : char ∈ text.toText.toList) :
    char.isDigit = true ∨ char = '+' ∨ char = '-' := by
  rw [toText, String.toList_ofList, List.mem_append] at member
  rcases member with sign | digit
  · cases signed : text.sign with
    | none =>
        rw [signed] at sign
        cases sign
    | plus =>
        rw [signed] at sign
        exact Or.inr (Or.inl (List.mem_singleton.mp sign))
    | minus =>
        rw [signed] at sign
        exact Or.inr (Or.inr (List.mem_singleton.mp sign))
  · exact Or.inl (text.areDigits char digit)

theorem nulFree_toText : NulFree text.toText := by
  rintro char member rfl
  rcases text.mem_toText member with digit | plus | minus
  · exact absurd digit (by decide)
  · exact absurd plus (by decide)
  · exact absurd minus (by decide)

theorem toText_ne_empty : text.toText ≠ "" := by
  intro empty
  have scanned := text.scanInteger_toText
  rw [empty] at scanned
  exact absurd scanned (Option.some_ne_none _).symm

/-- `strtoll` saturates. -/
theorem parseInt64String_toText (default : Int64) :
    parseInt64String text.toText default = saturateInt64 text.value := by
  rw [parseInt64String, if_neg text.toText_ne_empty, cString_eq_self text.nulFree_toText,
    text.scanInteger_toText]
  rfl

/-- A number is not the name of a status: all of these contain an `e`. -/
theorem toLower_toText_ne {name : String} (named : 'e' ∈ name.toList) :
    toLower text.toText ≠ name := by
  rintro rfl
  rw [toLower, String.toList_ofList, List.mem_map] at named
  obtain ⟨char, member, lowered⟩ := named
  rcases text.mem_toText member with digit | rfl | rfl
  · have unchanged : char.toLower = char := by
      simp only [Char.isDigit, Bool.and_eq_true, decide_eq_true_eq] at digit
      have upper : char.toNat ≤ 57 := UInt32.le_iff_toNat_le.mp digit.2
      have notUpper : ¬(65 ≤ char.val ∧ char.val ≤ 90) := by
        rintro ⟨letter, _⟩
        have lower : 65 ≤ char.toNat := UInt32.le_iff_toNat_le.mp letter
        omega
      exact dif_neg notUpper
    rw [unchanged] at lowered
    rw [lowered] at digit
    exact absurd digit (by decide)
  · exact absurd lowered (by decide)
  · exact absurd lowered (by decide)

end DecimalText

/-! ## What is sent -/

inductive SentNumber where
  | number (raw : Int64)
  | text (written : DecimalText)

namespace SentNumber

def value : SentNumber → Int
  | number raw => raw.toInt
  | text written => written.value

def integerValue : SentNumber → IntegerValue
  | number raw => .int64 raw
  | text written => .string written.toText

/-- The same number where a truth value is accepted as well. -/
def enumValue : SentNumber → BooleanValue
  | number raw => .int64 raw
  | text written => .string written.toText

/-- A JSON number of 32 bits. -/
def FitsInt32 : SentNumber → Prop
  | number raw => InRange 32 raw.toInt
  | text _ => False

/-- What a record gets whose field has 32 bits: the parser of the JSON text refuses a wider
number, and text. -/
def toInt32? : SentNumber → Option Int32
  | number raw => if InRange 32 raw.toInt then some raw.toInt32 else none
  | text _ => none

theorem toInt32?_eq_none_iff (sent : SentNumber) : sent.toInt32? = none ↔ ¬sent.FitsInt32 := by
  cases sent with
  | number raw =>
      rw [toInt32?, FitsInt32]
      split
      · next fits => exact iff_of_false (Option.some_ne_none _) (not_not_intro fits)
      · next wide => exact iff_of_true rfl wide
  | text written => exact iff_of_true rfl id

theorem saturateInt64_toInt (raw : Int64) : saturateInt64 raw.toInt = raw := by
  have lower := raw.le_toInt
  have upper := raw.toInt_lt
  have minimum : Int64.minValue.toInt = -2 ^ 63 := by decide
  have maximum : Int64.maxValue.toInt = 2 ^ 63 - 1 := by decide
  rw [saturateInt64, if_neg (by omega), if_neg (by omega), Int64.ofInt_toInt]

theorem parseInt64Value_integerValue (sent : SentNumber) (default : Int64) :
    parseInt64Value (some sent.integerValue) default = saturateInt64 sent.value := by
  cases sent with
  | number raw => exact (saturateInt64_toInt raw).symm
  | text written => exact written.parseInt64String_toText default

theorem parseInt32Value_integerValue (sent : SentNumber) (default : Int32) :
    parseInt32Value (some sent.integerValue) default = (saturateInt64 sent.value).toInt32 := by
  rw [parseInt32Value, parseInt64Value_integerValue]

theorem parseDeviceType_enumValue (sent : SentNumber) (default : Int32) :
    parseDeviceType (some sent.enumValue) default = (saturateInt64 sent.value).toInt32 := by
  cases sent with
  | number raw => exact congrArg Int64.toInt32 (saturateInt64_toInt raw).symm
  | text written => exact congrArg Int64.toInt32 (written.parseInt64String_toText default.toInt64)

theorem parseRoleValue_integerValue (sent : SentNumber) (default : GroupRole) :
    parseRoleValue (some sent.integerValue) default =
      parseRoleCode (saturateInt64 sent.value).toInt32 default := by
  cases sent with
  | number raw => exact congrArg (parseRoleCode ·.toInt32 default) (saturateInt64_toInt raw).symm
  | text written =>
      change (if written.toText = "" then default else _) = _
      rw [if_neg written.toText_ne_empty, cString_eq_self written.nulFree_toText,
        written.scanInteger_toText]
      rfl

theorem parseMessageStatus_integerValue (sent : SentNumber) (default : Int32) :
    parseMessageStatus (some sent.integerValue) default =
      (saturateInt64 sent.value).toInt32 := by
  cases sent with
  | number raw => exact congrArg Int64.toInt32 (saturateInt64_toInt raw).symm
  | text written =>
      have named : ∀ name ∈ ["recalled", "recall", "revoked", "deleted", "delete"],
          toLower written.toText ≠ name :=
        fun name listed => written.toLower_toText_ne (by revert name; decide)
      have notRecalled : ¬(toLower written.toText = "recalled" ∨ toLower written.toText = "recall" ∨
          toLower written.toText = "revoked") := by
        simp [named]
      have notDeleted :
          ¬(toLower written.toText = "deleted" ∨ toLower written.toText = "delete") := by
        simp [named]
      change (if _ ∨ _ ∨ _ then (1 : Int32) else if _ ∨ _ then 2 else _) = _
      rw [if_neg notRecalled, if_neg notDeleted]
      exact parseInt32Value_integerValue (.text written) default

end SentNumber

/-! ## The fields -/

/-- The record that a fetched unread count leaves. -/
def countedConversation (unreadCount : Int64) (conv : Conversation) : Conversation :=
  { conv with unreadCount := unreadCount.toInt32 }

/-- A field that holds a code or a count, with the rest of the record it is sent in. -/
inductive CodeField where
  | groupRole (payload : GroupPayload)
  | groupInfoRole (payload : GroupInfoPayload)
  | memberRole (payload : GroupMemberPayload)
  | historyContentType (payload : MessagePayload) (convId : String)
  | notificationContentType (payload : NotificationMessagePayload)
  | syncContentType (payload : MessageDeltaPayload) (convId : String)
  | historyStatus (payload : MessagePayload) (convId : String)
  | syncStatus (payload : MessageDeltaPayload) (convId : String)
  | unreadStateStatus (payload : UnreadStateMessagePayload) (convId : String)
  | syncUnreadCount (payload : ConversationDeltaPayload) (now : Int64)
  | payloadUnreadCount (payload : ConversationPayload)
  | notifiedUnreadCount (payload : NotificationConversationPayload) (conv : Conversation)
  | fetchedUnreadCount (conv : Conversation)
  | memberCount (payload : GroupPayload)
  | deviceType (payload : AuthDevicePayload)
  | friendRequestStatus

namespace CodeField

/-- What a number becomes; a fetched unread count has to be a JSON number, and some
records have 32 bits for it. -/
def decode? (sent : SentNumber) : CodeField → Option Int32
  | groupRole payload =>
      some (parseGroup { payload with myRole := some sent.integerValue }).myRole.code
  | groupInfoRole payload =>
      sent.toInt32?.map fun myRole =>
        (parseGroupInfo { payload with myRole := myRole }).myRole.code
  | memberRole payload =>
      some (parseGroupMember { payload with role := some sent.integerValue }).role.code
  | historyContentType payload convId =>
      some (parseMessagePayload
        { payload with contentType := some sent.integerValue } convId).contentType
  | notificationContentType payload =>
      some (parseMessageFromNotification
        { payload with contentType := some sent.integerValue }).contentType
  | syncContentType payload convId =>
      some (Client.syncedMessage convId
        { payload with contentType := some sent.integerValue }).contentType
  | historyStatus payload convId =>
      some (parseMessagePayload { payload with status := some sent.integerValue } convId).status
  | syncStatus payload convId =>
      some (Client.syncedMessage convId { payload with status := some sent.integerValue }).status
  | unreadStateStatus payload convId =>
      sent.toInt32?.map fun status =>
        (parseUnreadStateMessage { payload with status := some status } convId).status
  | syncUnreadCount payload now =>
      some (Client.sessionConversation
        { payload with unreadCount := some sent.integerValue } now).unreadCount
  | payloadUnreadCount payload =>
      sent.toInt32?.map fun unreadCount =>
        (parseConversationPayload { payload with unreadCount := some unreadCount }).unreadCount
  | notifiedUnreadCount payload conv =>
      sent.toInt32?.map fun unreadCount =>
        (applyNotificationPatch { payload with unreadCount := some unreadCount } conv).unreadCount
  | fetchedUnreadCount conv =>
      match sent with
      | .number raw => some (countedConversation raw conv).unreadCount
      | .text _ => none
  | memberCount payload =>
      some (parseGroup { payload with memberCount := some sent.integerValue }).memberCount
  | deviceType payload =>
      some ({ payload with deviceType := some sent.enumValue } :
        AuthDevicePayload).toDevice.deviceType
  | friendRequestStatus => some (normalizeStatus (some sent.enumValue))

/-- What stands for anything that is no valid code. -/
def default : CodeField → Int
  | groupRole _ | groupInfoRole _ | memberRole _ => 3
  | historyContentType _ _ | notificationContentType _ | syncContentType _ _ => 1
  | friendRequestStatus => 1
  | _ => 0

/-- The least and the greatest code; a count may be any number of 32 bits. -/
def codes : CodeField → Int × Int
  | groupRole _ | groupInfoRole _ | memberRole _ => (1, 3)
  | historyContentType _ _ | notificationContentType _ | syncContentType _ _ => (1, 7)
  | _ => (-2147483648, 2147483647)

def IsCode (field : CodeField) (number : Int) : Prop :=
  field.codes.1 ≤ number ∧ number ≤ field.codes.2

instance (field : CodeField) (number : Int) : Decidable (field.IsCode number) :=
  inferInstanceAs (Decidable (_ ∧ _))

/-- A code is taken as it is, and any other number as the default. -/
def DecodesExactly (field : CodeField) (sent : SentNumber) : Prop :=
  ∀ decoded, field.decode? sent = some decoded →
    decoded.toInt = if field.IsCode sent.value then sent.value else field.default

end CodeField

/-- The last 32 bits of a number, or of the nearest number of 64 bits. -/
def lastBits (number : Int) : Int :=
  (max (-9223372036854775808) (min number 9223372036854775807)).bmod (2 ^ 32)

/-- Text, where only a number is accepted, or a number wider than the record's field. -/
def CodeField.Refuses : CodeField → SentNumber → Prop
  | fetchedUnreadCount _, .text _ => True
  | groupInfoRole _, sent | unreadStateStatus _ _, sent | payloadUnreadCount _, sent
  | notifiedUnreadCount _ _, sent => ¬sent.FitsInt32
  | _, _ => False

/-- A code, or a number whose last bits are no code or the default. -/
def CodeField.TellsApart (field : CodeField) (sent : SentNumber) : Prop :=
  field.IsCode sent.value ∨ ¬field.IsCode (lastBits sent.value) ∨
    lastBits sent.value = field.default ∨ field.Refuses sent

/-! ## Cutting to 32 bits -/

theorem toInt_toInt32_saturateInt64 (number : Int) :
    (saturateInt64 number).toInt32.toInt = lastBits number := by
  have minimum : Int64.minValue.toInt = -9223372036854775808 := by decide
  have maximum : Int64.maxValue.toInt = 9223372036854775807 := by decide
  have clamped : (saturateInt64 number).toInt =
      max (-9223372036854775808) (min number 9223372036854775807) := by
    rw [saturateInt64]
    split
    · omega
    · split
      · omega
      · rw [toInt_ofInt (inRange_64_iff.mpr (by omega))]
        omega
  rw [Int64.toInt_toInt32, clamped, lastBits]

/-- A number of 32 bits is its own last bits. -/
theorem lastBits_of_inRange {number : Int} (inRange : InRange 32 number) :
    lastBits number = number := by
  rw [inRange_32_iff] at inRange
  rw [lastBits, max_eq_right (by omega), min_eq_left (by omega)]
  exact Int.bmod_eq_of_le (by omega) (by omega)

theorem lastBits_bounds (number : Int) :
    -2147483648 ≤ lastBits number ∧ lastBits number ≤ 2147483647 := by
  rw [← toInt_toInt32_saturateInt64]
  have lower := (saturateInt64 number).toInt32.le_toInt
  have upper := (saturateInt64 number).toInt32.toInt_lt
  omega

namespace CodeField

theorem inRange_of_isCode {field : CodeField} {number : Int} (code : field.IsCode number) :
    InRange 32 number := by
  rw [inRange_32_iff]
  cases field with
  | groupRole | groupInfoRole | memberRole | historyContentType | notificationContentType
  | syncContentType =>
      simp only [IsCode, codes] at code
      omega
  | historyStatus | syncStatus | unreadStateStatus | syncUnreadCount | payloadUnreadCount
  | notifiedUnreadCount | fetchedUnreadCount | memberCount | deviceType
  | friendRequestStatus => exact code

theorem code_parseRoleCode (roleCode : Int32) :
    (parseRoleCode roleCode .member).code.toInt =
      if 1 ≤ roleCode.toInt ∧ roleCode.toInt ≤ 3 then roleCode.toInt else 3 := by
  rw [parseRoleCode]
  by_cases owner : roleCode = GroupRole.owner.code
  · rw [if_pos owner, owner]
    decide
  · by_cases admin : roleCode = GroupRole.admin.code
    · rw [if_neg owner, if_pos admin, admin]
      decide
    · by_cases member : roleCode = GroupRole.member.code
      · rw [if_neg owner, if_neg admin, if_pos member, member]
        decide
      · have notOwner : roleCode.toInt ≠ 1 :=
          fun same => owner (Int32.toInt_inj.mp same)
        have notAdmin : roleCode.toInt ≠ 2 :=
          fun same => admin (Int32.toInt_inj.mp same)
        have notMember : roleCode.toInt ≠ 3 :=
          fun same => member (Int32.toInt_inj.mp same)
        rw [if_neg owner, if_neg admin, if_neg member, if_neg (by omega)]
        rfl

theorem toInt_contentType (contentType : Int32) :
    (if 1 ≤ contentType ∧ contentType ≤ 7 then contentType else 1).toInt =
      if 1 ≤ contentType.toInt ∧ contentType.toInt ≤ 7 then contentType.toInt else 1 := by
  have inRange : 1 ≤ contentType ∧ contentType ≤ 7 ↔
      1 ≤ contentType.toInt ∧ contentType.toInt ≤ 7 :=
    and_congr Int32.le_iff_toInt_le Int32.le_iff_toInt_le
  by_cases known : 1 ≤ contentType ∧ contentType ≤ 7
  · rw [if_pos known, if_pos (inRange.mp known)]
  · rw [if_neg known, if_neg (mt inRange.mpr known)]
    rfl

/-- The last bits of a number are a count. -/
theorem lastBits_eq_count {field : CodeField} (count : field.codes = (-2147483648, 2147483647))
    (number : Int) :
    lastBits number =
      if field.IsCode (lastBits number) then lastBits number else field.default := by
  have code : field.IsCode (lastBits number) := by
    rw [IsCode, count]
    exact lastBits_bounds number
  rw [if_pos code]

/-- What a count becomes. -/
theorem toInt_count {field : CodeField} (count : field.codes = (-2147483648, 2147483647))
    (number : Int) :
    (saturateInt64 number).toInt32.toInt =
      if field.IsCode (lastBits number) then lastBits number else field.default := by
  rw [toInt_toInt32_saturateInt64]
  exact lastBits_eq_count count number

/-- A number that fits is its own last bits. -/
theorem toInt_of_toInt32? {sent : SentNumber} {number : Int32}
    (result : sent.toInt32? = some number) : number.toInt = lastBits sent.value := by
  cases sent with
  | number raw =>
      obtain ⟨_, same⟩ := Option.ite_none_right_eq_some.mp result
      obtain rfl := Option.some.inj same
      rw [SentNumber.value, ← toInt_toInt32_saturateInt64, SentNumber.saturateInt64_toInt]
  | text written => cases result

/-- Every field looks at the last bits only. -/
theorem toInt_of_decode? {field : CodeField} {sent : SentNumber} {decoded : Int32}
    (result : field.decode? sent = some decoded) :
    decoded.toInt =
      if field.IsCode (lastBits sent.value) then lastBits sent.value else field.default := by
  have normalized : (normalizeMessageContentType (some sent.integerValue)).toInt =
      if 1 ≤ lastBits sent.value ∧ lastBits sent.value ≤ 7 then lastBits sent.value else 1 := by
    rw [ServerMessage.normalizeMessageContentType_eq, sent.parseInt64Value_integerValue,
      toInt_contentType, toInt_toInt32_saturateInt64]
  cases field with
  | groupRole payload =>
      obtain rfl := Option.some.inj result
      change (parseRoleValue (some sent.integerValue) .member).code.toInt = _
      rw [sent.parseRoleValue_integerValue, code_parseRoleCode, toInt_toInt32_saturateInt64]
      rfl
  | groupInfoRole payload =>
      obtain ⟨myRole, narrow, rfl⟩ := Option.map_eq_some_iff.mp result
      change (parseRoleCode myRole .member).code.toInt = _
      rw [code_parseRoleCode, toInt_of_toInt32? narrow]
      rfl
  | memberRole payload =>
      obtain rfl := Option.some.inj result
      change (parseRoleValue (some sent.integerValue) .member).code.toInt = _
      rw [sent.parseRoleValue_integerValue, code_parseRoleCode, toInt_toInt32_saturateInt64]
      rfl
  | historyContentType payload convId =>
      obtain rfl := Option.some.inj result
      exact normalized
  | notificationContentType payload =>
      obtain rfl := Option.some.inj result
      exact normalized
  | syncContentType payload convId =>
      obtain rfl := Option.some.inj result
      change (if 1 ≤ (parseInt64Value (some sent.integerValue) 1).toInt32 ∧ _ then _
        else (1 : Int32)).toInt = _
      rw [sent.parseInt64Value_integerValue, toInt_contentType, toInt_toInt32_saturateInt64]
      rfl
  | historyStatus payload convId =>
      obtain rfl := Option.some.inj result
      change (parseMessageStatus (some sent.integerValue) 0).toInt = _
      rw [sent.parseMessageStatus_integerValue]
      exact toInt_count rfl sent.value
  | syncStatus payload convId =>
      obtain rfl := Option.some.inj result
      change (parseInt64Value (some sent.integerValue) 0).toInt32.toInt = _
      rw [sent.parseInt64Value_integerValue]
      exact toInt_count rfl sent.value
  | unreadStateStatus payload convId =>
      obtain ⟨status, narrow, rfl⟩ := Option.map_eq_some_iff.mp result
      exact (toInt_of_toInt32? narrow).trans (lastBits_eq_count rfl sent.value)
  | payloadUnreadCount payload =>
      obtain ⟨unreadCount, narrow, rfl⟩ := Option.map_eq_some_iff.mp result
      exact (toInt_of_toInt32? narrow).trans (lastBits_eq_count rfl sent.value)
  | notifiedUnreadCount payload conv =>
      obtain ⟨unreadCount, narrow, rfl⟩ := Option.map_eq_some_iff.mp result
      exact (toInt_of_toInt32? narrow).trans (lastBits_eq_count rfl sent.value)
  | syncUnreadCount payload now =>
      obtain rfl := Option.some.inj result
      change (parseInt64Value (some sent.integerValue) 0).toInt32.toInt = _
      rw [sent.parseInt64Value_integerValue]
      exact toInt_count rfl sent.value
  | fetchedUnreadCount conv =>
      cases sent with
      | number raw =>
          obtain rfl := Option.some.inj result
          change raw.toInt32.toInt = _
          rw [← toInt_count rfl, SentNumber.value, SentNumber.saturateInt64_toInt]
      | text written => cases result
  | memberCount payload =>
      obtain rfl := Option.some.inj result
      change (parseInt32Value (some sent.integerValue) 0).toInt = _
      rw [sent.parseInt32Value_integerValue]
      exact toInt_count rfl sent.value
  | deviceType payload =>
      obtain rfl := Option.some.inj result
      change (parseDeviceType (some sent.enumValue) 0).toInt = _
      rw [sent.parseDeviceType_enumValue]
      exact toInt_count rfl sent.value
  | friendRequestStatus =>
      obtain rfl := Option.some.inj result
      change (parseDeviceType (some sent.enumValue) 1).toInt = _
      rw [sent.parseDeviceType_enumValue]
      exact toInt_count rfl sent.value

theorem decode?_eq_none_iff (field : CodeField) (sent : SentNumber) :
    field.decode? sent = none ↔ field.Refuses sent := by
  cases field with
  | fetchedUnreadCount conv =>
      cases sent with
      | number raw => exact iff_of_false (Option.some_ne_none _) id
      | text written => exact iff_of_true rfl trivial
  | groupInfoRole | unreadStateStatus | payloadUnreadCount | notifiedUnreadCount =>
      exact Option.map_eq_none_iff.trans sent.toInt32?_eq_none_iff
  | groupRole | memberRole | historyContentType | notificationContentType | syncContentType
  | historyStatus | syncStatus | syncUnreadCount | memberCount | deviceType
  | friendRequestStatus =>
      exact iff_of_false (Option.some_ne_none _) id

/-- A field decodes exactly if the last bits of a number that is no code do not make it
one, other than the default. -/
theorem decodesExactly_iff_tellsApart (field : CodeField) (sent : SentNumber) :
    field.DecodesExactly sent ↔ field.TellsApart sent := by
  rw [TellsApart]
  by_cases code : field.IsCode sent.value
  · refine iff_of_true ?_ (Or.inl code)
    intro decoded result
    rw [toInt_of_decode? result, lastBits_of_inRange (inRange_of_isCode code)]
  · rw [or_iff_right code]
    cases result : field.decode? sent with
    | none =>
        refine iff_of_true ?_ (Or.inr (Or.inr ((decode?_eq_none_iff field sent).mp result)))
        intro decoded decodes
        exact absurd (result.symm.trans decodes) (Option.some_ne_none decoded).symm
    | some decoded =>
        have accepted : ¬field.Refuses sent := by
          rw [← decode?_eq_none_iff, result]
          exact Option.some_ne_none decoded
        have only : field.DecodesExactly sent ↔ decoded.toInt = field.default := by
          constructor
          · intro exact
            rw [exact decoded result, if_neg code]
          · intro isDefault other decodes
            obtain rfl := Option.some.inj (result.symm.trans decodes)
            rw [isDefault, if_neg code]
        rw [only, toInt_of_decode? result, or_iff_left accepted]
        split
        · next lastCode => simp [lastCode]
        · next lastOther => simp [lastOther]

/-- 4294967297 ends in the bits of the owner's code. -/
theorem not_decodesExactly_owner :
    ¬(CodeField.groupRole {}).DecodesExactly (.number 4294967297) := by
  intro exact
  exact absurd (exact 1 (by decide)) (by decide)

end CodeField

end AnychatSdk
