import Mathlib.Data.List.Basic
import Mathlib.Data.List.TakeWhile

/-!
# Bytes of a text

A text in UTF-8 as a list of bytes.  ASCII bytes stand for themselves only, so a
search for one can be done in the text or in its bytes; a cut is between two
characters where the next byte begins one.
-/

namespace Utf8

/-- The bytes of a text. -/
def encode (text : String) : List UInt8 :=
  text.toByteArray.data.toList

theorem encode_eq (text : String) :
    encode text = text.toList.flatMap String.utf8EncodeChar := by
  rw [encode, ← String.utf8Encode_toList, List.utf8Encode, List.toList_data_toByteArray]

theorem encode_injective : Function.Injective encode := by
  intro first second same
  exact String.toByteArray_inj.mp (ByteArray.ext (Array.toList_inj.mp same))

/-! ## ASCII -/

/-- An ASCII byte encodes a whole character. -/
theorem eq_of_mem_utf8EncodeChar {char : Char} {byte : UInt8} (ascii : byte.toNat < 128)
    (member : byte ∈ String.utf8EncodeChar char) :
    String.utf8EncodeChar char = [byte] ∧ char = Char.ofNat byte.toNat := by
  by_cases short : char.val.toNat ≤ 127
  · have encoded : String.utf8EncodeChar char = [UInt8.ofNat char.val.toNat] := if_pos short
    rw [encoded, List.mem_singleton] at member
    have number : byte.toNat = char.toNat := by
      rw [member]
      exact UInt8.toNat_ofNat_of_lt' (by change char.val.toNat < 256; omega)
    rw [encoded, ← member, number, Char.ofNat_toNat]
    exact ⟨rfl, rfl⟩
  · exfalso
    have notShort : ¬char.val.toNat ≤ 127 := short
    simp only [String.utf8EncodeChar, if_neg notShort] at member
    split at member
    · simp only [List.mem_cons, List.not_mem_nil, or_false] at member
      rcases member with rfl | rfl
      all_goals
        simp only [UInt8.toNat_ofNat'] at ascii
        omega
    · split at member
      · simp only [List.mem_cons, List.not_mem_nil, or_false] at member
        rcases member with rfl | rfl | rfl
        all_goals
          simp only [UInt8.toNat_ofNat'] at ascii
          omega
      · simp only [List.mem_cons, List.not_mem_nil, or_false] at member
        rcases member with rfl | rfl | rfl | rfl
        all_goals
          simp only [UInt8.toNat_ofNat'] at ascii
          omega

theorem utf8EncodeChar_ofNat {byte : UInt8} (ascii : byte.toNat < 128) :
    String.utf8EncodeChar (Char.ofNat byte.toNat) = [byte] := by
  have isChar : byte.toNat.isValidChar := Or.inl (by omega)
  have number : (Char.ofNat byte.toNat).val.toNat = byte.toNat := by
    change (Char.ofNat byte.toNat).toNat = byte.toNat
    rw [Char.ofNat, dif_pos isChar]
    rfl
  rw [String.utf8EncodeChar, number]
  simp only [show byte.toNat ≤ 127 by omega, if_true, UInt8.ofNat_toNat]

theorem mem_encode_iff {byte : UInt8} (ascii : byte.toNat < 128) (text : String) :
    byte ∈ encode text ↔ Char.ofNat byte.toNat ∈ text.toList := by
  rw [encode_eq, List.mem_flatMap]
  constructor
  · rintro ⟨char, inText, member⟩
    rwa [← (eq_of_mem_utf8EncodeChar ascii member).2]
  · intro inText
    exact ⟨_, inText, by simp [utf8EncodeChar_ofNat ascii]⟩

theorem getLast?_encode_iff {byte : UInt8} (ascii : byte.toNat < 128) (text : String) :
    (encode text).getLast? = some byte ↔
      text.toList.getLast? = some (Char.ofNat byte.toNat) := by
  rw [encode_eq]
  rcases text.toList.eq_nil_or_concat with empty | ⟨front, char, whole⟩
  · simp [empty]
  · rw [whole, List.concat_eq_append, List.flatMap_append, List.flatMap_singleton,
      List.getLast?_append_of_ne_nil _ String.utf8EncodeChar_ne_nil, List.getLast?_concat,
      Option.some_inj]
    constructor
    · intro last
      exact (eq_of_mem_utf8EncodeChar ascii (List.mem_of_getLast? last)).2
    · rintro rfl
      rw [utf8EncodeChar_ofNat ascii]
      rfl

theorem encode_append (first second : String) :
    encode (first ++ second) = encode first ++ encode second := by
  simp [encode_eq]

/-- The bytes before the first occurrence of an ASCII byte are those of the text before
the first occurrence of its character. -/
theorem takeWhile_encode {byte : UInt8} (ascii : byte.toNat < 128) (text : String) :
    (encode text).takeWhile (· ≠ byte) =
      encode (String.ofList (text.toList.takeWhile (· ≠ Char.ofNat byte.toNat))) := by
  rw [encode_eq, encode_eq, String.toList_ofList]
  induction text.toList with
  | nil => rfl
  | cons char rest inductionHypothesis =>
      rw [List.flatMap_cons]
      by_cases same : char = Char.ofNat byte.toNat
      · rw [List.takeWhile_cons_of_neg (by simp [same]), same, utf8EncodeChar_ofNat ascii]
        simp
      · have others : ∀ other ∈ String.utf8EncodeChar char, decide (other ≠ byte) = true := by
          intro other member
          refine decide_eq_true ?_
          rintro rfl
          exact same (eq_of_mem_utf8EncodeChar ascii member).2
        rw [List.takeWhile_append_of_pos others, inductionHypothesis,
          List.takeWhile_cons_of_pos (by simpa using same), List.flatMap_cons]

/-! ## Cutting -/

theorem toByteArray_take_encode (text : String) (length : Nat) :
    ((encode text).take length).toByteArray = text.toByteArray.extract 0 length := by
  refine ByteArray.ext ?_
  rw [List.data_toByteArray, ByteArray.data_extract, encode]
  refine Array.toList_inj.mp ?_
  simp

/-- What is left of a text that is cut is a text if the next byte begins a character. -/
theorem isValidUTF8_take_iff (text : String) (length : Nat) :
    ((encode text).take length).toByteArray.IsValidUTF8 ↔
      ∀ byte ∈ (encode text)[length]?, byte.IsUTF8FirstByte := by
  rcases Nat.lt_or_ge length (encode text).length with inside | beyond
  · have before : (⟨length⟩ : String.Pos.Raw) < text.rawEndPos := inside
    have notEnd : (⟨length⟩ : String.Pos.Raw) ≠ text.rawEndPos := by
      intro same
      rw [same, String.Pos.Raw.lt_iff] at before
      exact absurd before (Nat.lt_irrefl _)
    have byteAt : (encode text)[length]? = some (text.getUTF8Byte ⟨length⟩ before) :=
      List.getElem?_eq_getElem inside
    have valid := String.Pos.Raw.isValid_iff_isValidUTF8_extract_zero (s := text) (p := ⟨length⟩)
    rw [String.Pos.Raw.isValid_iff_isUTF8FirstByte] at valid
    rw [toByteArray_take_encode, byteAt]
    constructor
    · intro isText
      rcases valid.mpr ⟨String.Pos.Raw.le_of_lt before, isText⟩ with same | ⟨_, begins⟩
      · exact absurd same notEnd
      · simpa using begins
    · intro begins
      exact (valid.mp (Or.inr ⟨before, begins _ rfl⟩)).2
  · have noByte : (encode text)[length]? = none := List.getElem?_eq_none beyond
    have whole : (encode text).toByteArray = text.toByteArray := by
      refine ByteArray.ext (Array.toList_inj.mp ?_)
      rw [List.data_toByteArray]
      rfl
    rw [List.take_of_length_le beyond, whole, noByte]
    constructor
    · intro _ byte member
      exact absurd member (by simp)
    · exact fun _ => text.isValidUTF8

end Utf8
