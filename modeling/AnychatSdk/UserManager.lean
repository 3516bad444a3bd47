import AnychatSdk.TimestampText

/-!
# The user's profile

What `updateProfile` writes into its request and what a profile of the server is
reported as.  A birthday goes out as text and comes back as text; it survives to
its second.
-/

namespace AnychatSdk

structure UserProfile where
  userId : String := ""
  nickname : String := ""
  avatarUrl : String := ""
  phone : String := ""
  email : String := ""
  signature : String := ""
  region : String := ""
  gender : Int32 := 0
  birthdayMs : Int64 := 0
  qrcodeUrl : String := ""
  createdAtMs : Int64 := 0

structure UserProfilePayload where
  userId : String := ""
  nickname : String := ""
  avatar : String := ""
  phone : String := ""
  email : String := ""
  signature : String := ""
  region : String := ""
  gender : Int32 := 0
  qrcodeUrl : String := ""
  birthday : Option TimestampValue := none
  createdAt : Option TimestampValue := none

structure UpdateProfileRequestPayload where
  nickname : Option String := none
  avatar : Option String := none
  signature : Option String := none
  region : Option String := none
  gender : Option Int32 := none
  birthday : Option String := none

def toUserProfile (payload : UserProfilePayload) : UserProfile where
  userId := payload.userId
  nickname := payload.nickname
  avatarUrl := payload.avatar
  phone := payload.phone
  email := payload.email
  signature := payload.signature
  region := payload.region
  gender := payload.gender
  qrcodeUrl := payload.qrcodeUrl
  birthdayMs := parseTimestampMs payload.birthday
  createdAtMs := parseTimestampMs payload.createdAt

/-- A text that the request leaves out when it is empty. -/
def filledText (text : String) : Option String :=
  if text = "" then none else some text

/-- The body of `updateProfile`. -/
def updateProfile (profile : UserProfile) : UpdateProfileRequestPayload where
  nickname := filledText profile.nickname
  avatar := filledText profile.avatarUrl
  signature := filledText profile.signature
  region := filledText profile.region
  gender := if profile.gender ≠ 0 then some profile.gender else none
  birthday := if 0 < profile.birthdayMs then filledText (formatIso8601Utc profile.birthdayMs)
    else none

/-- What the callback of `getProfile` and of `updateProfile` gets. -/
def reportedProfile (response : HttpResponse UserProfilePayload) :
    Except (Int32 × String) UserProfile :=
  (parseApiEnvelopeResponse response "server error" false false).map toUserProfile

section Birthday

variable {profile : UserProfile} (positive : 0 < profile.birthdayMs)
  (inCalendar : profile.birthdayMs < 253402300800000)

include positive inCalendar

theorem birthday_updateProfile :
    (updateProfile profile).birthday = some (formatIso8601Utc profile.birthdayMs) := by
  have written : formatIso8601Utc profile.birthdayMs ≠ "" :=
    formatIso8601Utc_ne_empty positive inCalendar
  change (if 0 < profile.birthdayMs then filledText (formatIso8601Utc profile.birthdayMs)
    else none) = _
  rw [if_pos positive, filledText, if_neg written]

/-- A time up to the end of the year 9999 is read back to its second, and so is a
birthday that a successful response returns as `updateProfile` wrote it. -/
theorem birthdayMs_reportedProfile :
    parseTimestampMs (some (.string (formatIso8601Utc profile.birthdayMs))) =
        profile.birthdayMs - profile.birthdayMs % 1000 ∧
      ∀ response payload,
        parseApiEnvelopeResponse response "server error" false false = .ok payload →
        payload.birthday = (updateProfile profile).birthday.map .string →
        ∃ reported, reportedProfile response = .ok reported ∧
          reported.birthdayMs = profile.birthdayMs - profile.birthdayMs % 1000 := by
  have readBack := parseTimestampMs_formatIso8601Utc positive inCalendar
  refine ⟨readBack, ?_⟩
  intro response payload successful returned
  rw [birthday_updateProfile positive inCalendar, Option.map_some] at returned
  refine ⟨toUserProfile payload, ?_, ?_⟩
  · rw [reportedProfile, successful]
    rfl
  · rw [toUserProfile, returned, readBack]

end Birthday

/-- Born on a leap day, at a time with 789 milliseconds. -/
def leapDayProfile : UserProfile where
  birthdayMs := 951827696789

/-- The server returns the birthday as it was written. -/
def leapDayPayload : UserProfilePayload where
  birthday := (updateProfile leapDayProfile).birthday.map .string

theorem birthdayMs_reportedProfile_leapDay :
    ∃ reported,
      reportedProfile ⟨"", 200, .parsed ⟨0, "", leapDayPayload⟩⟩ = .ok reported ∧
        reported.birthdayMs = 951827696000 := by
  have positive : 0 < leapDayProfile.birthdayMs := by decide
  have inCalendar : leapDayProfile.birthdayMs < 253402300800000 := by decide
  have wholeSecond : leapDayProfile.birthdayMs - leapDayProfile.birthdayMs % 1000 =
      951827696000 := by decide
  have successful : parseApiEnvelopeResponse ⟨"", 200, .parsed ⟨0, "", leapDayPayload⟩⟩
      "server error" false false = .ok leapDayPayload := rfl
  have returned : leapDayPayload.birthday =
      (updateProfile leapDayProfile).birthday.map .string := by
    rw [leapDayPayload]
  obtain ⟨reported, ok, birthdayMs⟩ :=
    (birthdayMs_reportedProfile positive inCalendar).2 _ _ successful returned
  exact ⟨reported, ok, birthdayMs.trans wholeSecond⟩

end AnychatSdk
