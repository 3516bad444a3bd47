import AnychatSdk.MessageManager

/-!
# Seconds or milliseconds

A number without a unit is taken for seconds or for milliseconds by its size.
There are two functions for it, one for the time of a notification envelope and
one for the times in a payload.
-/

namespace AnychatSdk

/-- What makes the two functions one notion at `raw`: they agree, a message gets the
same time from the envelope as from its own fields, the order within a unit is kept,
and a result is not scaled once more. -/
structure OneNotion (raw : Int64) : Prop where
  agree : normalizeEpochMs raw = normalizeUnixEpochMs raw
  sentAt : ∀ payload : NotificationMessagePayload, payload.messageId ≠ "" →
    (Client.incomingMessage raw { payload with sentAt := none }).map Message.timestampMs =
      some (parseMessageFromNotification
        { payload with sentAt := some (.int64 raw) }).timestampMs
  createdAt : ∀ (payload : NotificationMessagePayload) (listed : MessagePayload)
      (defaultConvId : String), payload.messageId ≠ "" →
    (Client.incomingMessage raw { payload with sentAt := none }).map Message.timestampMs =
      some (parseMessagePayload
        { listed with createdAt := some (.int64 raw) } defaultConvId).timestampMs
  envelopeMonotone : ∀ later, 0 ≤ raw → raw ≤ later →
    (raw < 100000000000 ↔ later < 100000000000) →
      normalizeEpochMs raw ≤ normalizeEpochMs later
  payloadMonotone : ∀ later, 0 ≤ raw → raw ≤ later →
    (raw < 1000000000000 ↔ later < 1000000000000) →
      normalizeUnixEpochMs raw ≤ normalizeUnixEpochMs later
  envelopeIdempotent : normalizeEpochMs (normalizeEpochMs raw) = normalizeEpochMs raw
  payloadIdempotent :
    normalizeUnixEpochMs (normalizeUnixEpochMs raw) = normalizeUnixEpochMs raw

/-- Seconds whose milliseconds are beyond both thresholds, and numbers that both
functions leave as they are. -/
def UnitIsClear (raw : Int64) : Prop :=
  raw = 0 ∨ (1000000000 ≤ raw ∧ raw < 100000000000) ∨ 1000000000000 ≤ raw ∨
    (raw ≤ -100000000000 ∧ raw ≠ Int64.minValue)

/-! ## The functions on integers -/

/-- The lowest number has no absolute value in its type. -/
theorem toInt_abs {raw : Int64} (notLowest : raw ≠ Int64.minValue) :
    raw.abs.toInt = raw.toInt.natAbs := by
  have notIntMin : raw.toBitVec ≠ BitVec.intMin 64 :=
    fun same => notLowest (Int64.toBitVec_inj.mp same)
  exact BitVec.toInt_abs_eq_natAbs_of_ne_intMin notIntMin

theorem toInt_normalizeEpochMs {raw : Int64} (notLowest : raw ≠ Int64.minValue) :
    (normalizeEpochMs raw).toInt =
      if -100000000000 < raw.toInt ∧ raw.toInt < 100000000000 then raw.toInt * 1000
      else raw.toInt := by
  have large : 100000000000 ≤ raw.abs ↔ (100000000000 : Int) ≤ raw.toInt.natAbs := by
    rw [Int64.le_iff_toInt_le, toInt_abs notLowest]
    rfl
  rw [normalizeEpochMs]
  by_cases zero : raw = 0
  · rw [if_pos zero, zero]
    rfl
  · rw [if_neg zero]
    by_cases milliseconds : 100000000000 ≤ raw.abs
    · have bound := large.mp milliseconds
      rw [if_pos milliseconds, if_neg (by omega)]
    · have bound := mt large.mpr milliseconds
      rw [if_neg milliseconds, if_pos (by omega)]
      exact toInt_mul_thousand (by omega) (by omega)

theorem ne_minValue_iff (raw : Int64) :
    raw ≠ Int64.minValue ↔ raw.toInt ≠ -9223372036854775808 :=
  Int64.toInt_inj.symm.not

/-! ## One unit after the other -/

theorem normalizeEpochMs_le {raw later : Int64} (nonneg : 0 ≤ raw) (order : raw ≤ later)
    (sameUnit : raw < 100000000000 ↔ later < 100000000000) :
    normalizeEpochMs raw ≤ normalizeEpochMs later := by
  have nonnegInt : 0 ≤ raw.toInt := Int64.le_iff_toInt_le.mp nonneg
  have orderInt := Int64.le_iff_toInt_le.mp order
  have sameUnitInt : raw.toInt < 100000000000 ↔ later.toInt < 100000000000 :=
    (Int64.lt_iff_toInt_lt.symm.trans sameUnit).trans Int64.lt_iff_toInt_lt
  have notLowest : ∀ number : Int64, 0 ≤ number.toInt → number ≠ Int64.minValue := by
    rintro number lower rfl
    exact absurd lower (by decide)
  rw [Int64.le_iff_toInt_le, toInt_normalizeEpochMs (notLowest raw nonnegInt),
    toInt_normalizeEpochMs (notLowest later (by omega))]
  by_cases seconds : raw.toInt < 100000000000
  · rw [if_pos (by omega), if_pos (by omega)]
    omega
  · rw [if_neg (by omega), if_neg (by omega)]
    exact orderInt

theorem normalizeUnixEpochMs_le {raw later : Int64} (nonneg : 0 ≤ raw) (order : raw ≤ later)
    (sameUnit : raw < 1000000000000 ↔ later < 1000000000000) :
    normalizeUnixEpochMs raw ≤ normalizeUnixEpochMs later := by
  have nonnegInt : 0 ≤ raw.toInt := Int64.le_iff_toInt_le.mp nonneg
  have orderInt := Int64.le_iff_toInt_le.mp order
  have sameUnitInt : raw.toInt < 1000000000000 ↔ later.toInt < 1000000000000 :=
    (Int64.lt_iff_toInt_lt.symm.trans sameUnit).trans Int64.lt_iff_toInt_lt
  rw [Int64.le_iff_toInt_le, toInt_normalizeUnixEpochMs, toInt_normalizeUnixEpochMs]
  split
  · split
    · omega
    · omega
  · split
    · omega
    · exact orderInt

/-- The thresholds differ, and only one function has one for negative numbers. -/
theorem normalizeEpochMs_eq_normalizeUnixEpochMs_iff (raw : Int64) :
    normalizeEpochMs raw = normalizeUnixEpochMs raw ↔
      (0 ≤ raw.toInt ∧ raw.toInt < 100000000000) ∨ 1000000000000 ≤ raw.toInt ∨
        (raw.toInt ≤ -100000000000 ∧ raw.toInt ≠ -9223372036854775808) := by
  by_cases lowest : raw = Int64.minValue
  · rw [lowest]
    decide
  · have notLowest := (ne_minValue_iff raw).mp lowest
    rw [← Int64.toInt_inj, toInt_normalizeEpochMs lowest, toInt_normalizeUnixEpochMs]
    split
    · split
      · omega
      · omega
    · split
      · omega
      · omega

/-- Seconds before September 2001 give milliseconds that still look like seconds. -/
theorem normalizeUnixEpochMs_idempotent_iff (raw : Int64) :
    normalizeUnixEpochMs (normalizeUnixEpochMs raw) = normalizeUnixEpochMs raw ↔
      raw.toInt ≤ 0 ∨ 1000000000 ≤ raw.toInt := by
  rw [← Int64.toInt_inj, toInt_normalizeUnixEpochMs (normalizeUnixEpochMs raw),
    toInt_normalizeUnixEpochMs raw]
  by_cases seconds : 0 < raw.toInt ∧ raw.toInt < 1000000000000
  · rw [if_pos seconds]
    split
    · omega
    · omega
  · rw [if_neg seconds, if_neg seconds]
    omega

theorem normalizeEpochMs_idempotent {raw : Int64}
    (clear : 100000000 ≤ raw.toInt.natAbs ∨ raw = 0) (notLowest : raw ≠ Int64.minValue) :
    normalizeEpochMs (normalizeEpochMs raw) = normalizeEpochMs raw := by
  have value := toInt_normalizeEpochMs notLowest
  rcases clear with large | rfl
  · have beyond : ¬(-100000000000 < (normalizeEpochMs raw).toInt ∧
        (normalizeEpochMs raw).toInt < 100000000000) := by
      rw [value]
      split
      · omega
      · omega
    have stillNotLowest : normalizeEpochMs raw ≠ Int64.minValue := by
      have lower := raw.le_toInt
      have lowest := (ne_minValue_iff raw).mp notLowest
      rw [ne_minValue_iff, value]
      split
      · omega
      · omega
    rw [← Int64.toInt_inj, toInt_normalizeEpochMs stillNotLowest, if_neg beyond]
  · rfl

/-! ## The time of a message -/

/-- A missing time is taken from the envelope. -/
theorem map_timestampMs_incomingMessage (raw : Int64) {payload : NotificationMessagePayload}
    (named : payload.messageId ≠ "") :
    (Client.incomingMessage raw { payload with sentAt := none }).map Message.timestampMs =
      some (normalizeEpochMs raw) := by
  rw [Client.incomingMessage, if_neg (show (parseMessageFromNotification
    { payload with sentAt := none }).messageId ≠ "" from named)]
  rfl

theorem unitIsClear_iff (raw : Int64) :
    UnitIsClear raw ↔
      raw.toInt = 0 ∨ (1000000000 ≤ raw.toInt ∧ raw.toInt < 100000000000) ∨
        1000000000000 ≤ raw.toInt ∨
          (raw.toInt ≤ -100000000000 ∧ raw.toInt ≠ -9223372036854775808) := by
  have zero : raw = 0 ↔ raw.toInt = 0 := Int64.toInt_inj.symm
  rw [UnitIsClear, zero, ne_minValue_iff, Int64.le_iff_toInt_le, Int64.lt_iff_toInt_lt,
    Int64.le_iff_toInt_le, Int64.le_iff_toInt_le]
  rfl

/-- The two functions are one notion of milliseconds for exactly the numbers whose
unit both see, before and after scaling. -/
theorem oneNotion_iff_unitIsClear (raw : Int64) : OneNotion raw ↔ UnitIsClear raw := by
  rw [unitIsClear_iff]
  constructor
  · rintro notion
    have same := (normalizeEpochMs_eq_normalizeUnixEpochMs_iff raw).mp notion.agree
    have once := (normalizeUnixEpochMs_idempotent_iff raw).mp notion.payloadIdempotent
    omega
  · intro clear
    have agree : normalizeEpochMs raw = normalizeUnixEpochMs raw := by
      rw [normalizeEpochMs_eq_normalizeUnixEpochMs_iff]
      omega
    have notLowest : raw ≠ Int64.minValue := (ne_minValue_iff raw).mpr (by omega)
    constructor
    · exact agree
    · intro payload named
      rw [map_timestampMs_incomingMessage raw named, agree]
      rfl
    · intro payload listed defaultConvId named
      rw [map_timestampMs_incomingMessage raw named, agree]
      rfl
    · exact fun later nonneg order sameUnit => normalizeEpochMs_le nonneg order sameUnit
    · exact fun later nonneg order sameUnit => normalizeUnixEpochMs_le nonneg order sameUnit
    · refine normalizeEpochMs_idempotent ?_ notLowest
      rw [← Int64.toInt_inj]
      change _ ∨ raw.toInt = 0
      omega
    · rw [normalizeUnixEpochMs_idempotent_iff]
      omega

/-- Milliseconds of May 1976: kept when they come in the envelope, scaled once more
when they come in the payload. -/
theorem not_oneNotion_1976 : ¬OneNotion 200000000000 := by
  intro notion
  exact absurd notion.agree (by decide)

end AnychatSdk
