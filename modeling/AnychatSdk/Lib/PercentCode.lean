import Mathlib.Data.List.Basic
import Mathlib.Logic.Function.Basic

/-!
# Percent encoding

Bytes that are not kept as they are become a percent sign with two hexadecimal
digits.  The decoder is strict: a percent sign without two digits after it has
no meaning.
-/

namespace PercentCode

/-- The percent sign. -/
def percent : UInt8 := 37

/-- An upper-case hexadecimal digit. -/
def hexDigit (digit : Nat) : UInt8 :=
  if digit < 10 then UInt8.ofNat (48 + digit) else UInt8.ofNat (55 + digit)

/-- The value of a hexadecimal digit of either case. -/
def hexValue? (byte : UInt8) : Option Nat :=
  if 48 ≤ byte ∧ byte ≤ 57 then some (byte.toNat - 48)
  else if 65 ≤ byte ∧ byte ≤ 70 then some (byte.toNat - 55)
  else if 97 ≤ byte ∧ byte ≤ 102 then some (byte.toNat - 87)
  else none

def triple (byte : UInt8) : List UInt8 :=
  [percent, hexDigit (byte.toNat / 16), hexDigit (byte.toNat % 16)]

section Encode

variable (kept : UInt8 → Bool)

def encodeByte (byte : UInt8) : List UInt8 :=
  if kept byte then [byte] else triple byte

def encode (bytes : List UInt8) : List UInt8 :=
  bytes.flatMap (encodeByte kept)

/-- Bytes that are kept, and triples with upper-case digits. -/
inductive WellFormed : List UInt8 → Prop
  | nil : WellFormed []
  | plain {byte : UInt8} {rest : List UInt8} (isKept : kept byte = true)
      (tail : WellFormed rest) : WellFormed (byte :: rest)
  | triple {high low : Nat} {rest : List UInt8} (highLt : high < 16) (lowLt : low < 16)
      (tail : WellFormed rest) :
      WellFormed (percent :: hexDigit high :: hexDigit low :: rest)

end Encode

def decode? : List UInt8 → Option (List UInt8)
  | [] => some []
  | byte :: rest =>
      if byte = percent then
        match rest with
        | high :: low :: more => do
            let highValue ← hexValue? high
            let lowValue ← hexValue? low
            let decoded ← decode? more
            pure (UInt8.ofNat (highValue * 16 + lowValue) :: decoded)
        | _ => none
      else (decode? rest).map (byte :: ·)

/-! ## Digits -/

theorem hexValue?_hexDigit : ∀ digit < 16, hexValue? (hexDigit digit) = some digit := by
  decide

theorem hexDigit_ne_of_not_hex {byte : UInt8} (notHex : hexValue? byte = none) {digit : Nat}
    (digitLt : digit < 16) : hexDigit digit ≠ byte := by
  rintro rfl
  rw [hexValue?_hexDigit digit digitLt] at notHex
  exact absurd notHex (Option.some_ne_none digit)

/-! ## Round trip -/

section RoundTrip

variable {kept : UInt8 → Bool}

@[simp]
theorem encode_nil : encode kept [] = [] :=
  rfl

@[simp]
theorem encode_cons (byte : UInt8) (rest : List UInt8) :
    encode kept (byte :: rest) = encodeByte kept byte ++ encode kept rest :=
  List.flatMap_cons

@[simp]
theorem encode_append (first second : List UInt8) :
    encode kept (first ++ second) = encode kept first ++ encode kept second :=
  List.flatMap_append

theorem decode?_cons_of_ne {byte : UInt8} (notPercent : byte ≠ percent) (rest : List UInt8) :
    decode? (byte :: rest) = (decode? rest).map (byte :: ·) := by
  rw [decode?.eq_def]
  exact if_neg notPercent

theorem decode?_triple (byte : UInt8) (rest : List UInt8) :
    decode? (triple byte ++ rest) = (decode? rest).map (byte :: ·) := by
  have small := byte.toNat_lt
  have highValue := hexValue?_hexDigit (byte.toNat / 16) (by omega)
  have lowValue := hexValue?_hexDigit (byte.toNat % 16) (by omega)
  have whole : UInt8.ofNat (byte.toNat / 16 * 16 + byte.toNat % 16) = byte := by
    rw [Nat.div_add_mod', UInt8.ofNat_toNat]
  change decode? (percent :: hexDigit _ :: hexDigit _ :: rest) = _
  rw [decode?, if_pos rfl, highValue, lowValue]
  cases decode? rest with
  | none => rfl
  | some decoded =>
      change some (UInt8.ofNat (byte.toNat / 16 * 16 + byte.toNat % 16) :: decoded) = _
      rw [whole]
      rfl

variable (escapes : kept percent = false)

include escapes

theorem decode?_encodeByte (byte : UInt8) (rest : List UInt8) :
    decode? (encodeByte kept byte ++ rest) = (decode? rest).map (byte :: ·) := by
  rw [encodeByte]
  split
  · next isKept =>
      have notPercent : byte ≠ percent := by
        rintro rfl
        rw [escapes] at isKept
        exact absurd isKept Bool.false_ne_true
      exact decode?_cons_of_ne notPercent rest
  · exact decode?_triple byte rest

/-- Decoding gives back what was encoded. -/
theorem decode?_encode (bytes : List UInt8) : decode? (encode kept bytes) = some bytes := by
  induction bytes with
  | nil => rfl
  | cons byte rest ih =>
      rw [encode_cons, decode?_encodeByte escapes, ih]
      rfl

theorem encode_injective : Function.Injective (encode kept) := by
  intro first second same
  have decoded := congrArg decode? same
  rw [decode?_encode escapes, decode?_encode escapes] at decoded
  exact Option.some.inj decoded

omit escapes

theorem wellFormed_encode (bytes : List UInt8) : WellFormed kept (encode kept bytes) := by
  induction bytes with
  | nil => exact WellFormed.nil
  | cons byte rest ih =>
      rw [encode_cons, encodeByte]
      split
      · next isKept => exact WellFormed.plain isKept ih
      · have small := byte.toNat_lt
        exact WellFormed.triple (by omega) (by omega) ih

/-- A byte that is neither kept nor part of a triple does not occur. -/
theorem WellFormed.not_mem {bytes : List UInt8} (wellFormed : WellFormed kept bytes)
    {byte : UInt8} (notKept : kept byte = false) (notPercent : byte ≠ percent)
    (notHex : hexValue? byte = none) : byte ∉ bytes := by
  induction wellFormed with
  | nil => exact List.not_mem_nil
  | plain isKept tail ih =>
      rintro member
      rcases List.mem_cons.mp member with rfl | later
      · rw [notKept] at isKept
        exact absurd isKept Bool.false_ne_true
      · exact ih later
  | triple highLt lowLt tail ih =>
      rintro member
      simp only [List.mem_cons] at member
      rcases member with same | same | same | later
      · exact notPercent same
      · exact hexDigit_ne_of_not_hex notHex highLt same.symm
      · exact hexDigit_ne_of_not_hex notHex lowLt same.symm
      · exact ih later

end RoundTrip

/-! ## Texts that mean themselves -/

/-- Every triple that is decoded makes the text shorter. -/
theorem length_decode? {bytes decoded : List UInt8} (result : decode? bytes = some decoded) :
    decoded.length ≤ bytes.length ∧
      (percent ∈ bytes → decoded.length < bytes.length) := by
  induction bytes using decode?.induct generalizing decoded with
  | case1 =>
      obtain rfl := Option.some.inj result
      exact ⟨Nat.le_refl 0, fun member => absurd member List.not_mem_nil⟩
  | case2 high low more ih =>
      rw [decode?, if_pos rfl] at result
      simp only [Option.bind_eq_bind, Option.bind_eq_some_iff] at result
      rcases result with ⟨highValue, _, lowValue, _, tail, decodedTail, whole⟩
      obtain rfl := Option.some.inj whole
      have shorter := (ih decodedTail).1
      constructor
      · simp only [List.length_cons]
        omega
      · intro _
        simp only [List.length_cons]
        omega
  | case3 rest broken =>
      rw [decode?.eq_def] at result
      simp only [if_true] at result
      exact absurd result (Option.some_ne_none decoded).symm
  | case4 byte rest notPercent ih =>
      rw [decode?_cons_of_ne notPercent] at result
      rcases Option.map_eq_some_iff.mp result with ⟨tail, decodedTail, rfl⟩
      have shorter := ih decodedTail
      constructor
      · exact Nat.succ_le_succ shorter.1
      · intro member
        rcases List.mem_cons.mp member with same | later
        · exact absurd same.symm notPercent
        · exact Nat.succ_lt_succ (shorter.2 later)

/-- A text decodes to itself exactly if it has no percent sign. -/
theorem decode?_eq_self_iff {bytes : List UInt8} :
    decode? bytes = some bytes ↔ percent ∉ bytes := by
  constructor
  · intro same member
    exact absurd ((length_decode? same).2 member) (Nat.lt_irrefl _)
  · intro noPercent
    induction bytes with
    | nil => rfl
    | cons byte rest ih =>
        rw [List.mem_cons, not_or] at noPercent
        rw [decode?_cons_of_ne (Ne.symm noPercent.1), ih noPercent.2]
        rfl

end PercentCode
