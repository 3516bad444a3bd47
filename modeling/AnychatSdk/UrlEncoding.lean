import AnychatSdk.Lib.OutputStream
import AnychatSdk.Lib.PercentCode
import AnychatSdk.MessageRequests

/-!
# The three URL encoders

Three managers have an encoder of their own.  All write into a stream that is set
to upper-case hexadecimal digits; one sets the fill character once, the others for
each byte.
-/

namespace AnychatSdk

open PercentCode

/-! ## The encoders -/

/-- The characters that `MessageManagerImpl::urlEncode` lists. -/
def isListedUnreserved (ch : UInt8) : Bool :=
  ('A'.toUInt8 ≤ ch && ch ≤ 'Z'.toUInt8) || ('a'.toUInt8 ≤ ch && ch ≤ 'z'.toUInt8) ||
    ('0'.toUInt8 ≤ ch && ch ≤ '9'.toUInt8) || ch == '-'.toUInt8 || ch == '_'.toUInt8 ||
    ch == '.'.toUInt8 || ch == '~'.toUInt8

/-- `std::isalnum` in the C locale: ASCII letters and digits. -/
def isAlnum (ch : UInt8) : Bool :=
  ch < 128 && (Char.ofNat ch.toNat).isAlphanum

/-- One round of the loop of `MessageManagerImpl::urlEncode`. -/
def encodeMessageByte (oss : OutputStream) (ch : UInt8) : OutputStream :=
  if isListedUnreserved ch then oss.insertChar ch
  else ((oss.insertChar '%'.toUInt8).setWidth 2).insertNat ch.toNat

/-- `MessageManagerImpl::urlEncode`. -/
def messageUrlEncode (input : List UInt8) : List UInt8 :=
  (input.foldl encodeMessageByte
    ((({ : OutputStream }).setFill '0'.toUInt8).setHex.setUppercase)).written

/-- One round of the loop that the other two encoders have. -/
def encodeUserByte (out : OutputStream) (ch : UInt8) : OutputStream :=
  if isAlnum ch || ch == '-'.toUInt8 || ch == '_'.toUInt8 || ch == '.'.toUInt8 ||
      ch == '~'.toUInt8 then
    out.insertChar ch
  else (((out.insertChar '%'.toUInt8).setWidth 2).setFill '0'.toUInt8).insertNat ch.toNat

/-- `UserManagerImpl::urlEncode`. -/
def userUrlEncode (input : List UInt8) : List UInt8 :=
  (input.foldl encodeUserByte ({ : OutputStream }).setUppercase.setHex).written

/-- `VersionManagerImpl::urlEncode`. -/
def versionUrlEncode (input : List UInt8) : List UInt8 :=
  (input.foldl encodeUserByte ({ : OutputStream }).setUppercase.setHex).written

/-! ## One byte -/

theorem forall_byte {property : UInt8 → Prop}
    (holds : ∀ number < 256, property (UInt8.ofNat number)) (byte : UInt8) : property byte := by
  have ofNumber := holds byte.toNat byte.toNat_lt
  rwa [UInt8.ofNat_toNat] at ofNumber

/-- Both tests accept the same bytes. -/
theorem isAlnum_or_eq (ch : UInt8) :
    (isAlnum ch || ch == '-'.toUInt8 || ch == '_'.toUInt8 || ch == '.'.toUInt8 ||
      ch == '~'.toUInt8) = isListedUnreserved ch := by
  revert ch
  exact forall_byte (by decide +kernel)

/-- A byte always has two digits: a zero fills the place of a missing one. -/
theorem padded_numeral (ch : UInt8) :
    List.replicate (2 - (OutputStream.numeral 16 true ch.toNat).length) '0'.toUInt8 ++
        OutputStream.numeral 16 true ch.toNat =
      [hexDigit (ch.toNat / 16), hexDigit (ch.toNat % 16)] := by
  revert ch
  exact forall_byte (by decide +kernel)

/-- What a stream for percent signs has to keep between two bytes. -/
structure WritesHex (stream : OutputStream) : Prop where
  noWidth : stream.width = 0
  hex : stream.base = 16
  uppercase : stream.uppercase = true

/-- Between two items the width is 0, so a single character is not padded. -/
theorem WritesHex.insertChar {stream : OutputStream} (hex : WritesHex stream) (ch : UInt8) :
    WritesHex (stream.insertChar ch) ∧
      (stream.insertChar ch).written = stream.written ++ [ch] := by
  have notPadded : stream.width - [ch].length = 0 := by
    rw [hex.noWidth, Nat.zero_sub]
  constructor
  · exact ⟨rfl, hex.hex, hex.uppercase⟩
  · rw [OutputStream.insertChar, OutputStream.insert, notPadded, List.replicate_zero,
      List.append_nil]

/-- A number of one byte, where the fill character is 0. -/
theorem WritesHex.insertByte {stream : OutputStream} (hex : WritesHex stream)
    (fill : stream.fill = '0'.toUInt8) (ch : UInt8) :
    WritesHex ((stream.setWidth 2).insertNat ch.toNat) ∧
      ((stream.setWidth 2).insertNat ch.toNat).written =
        stream.written ++ [hexDigit (ch.toNat / 16), hexDigit (ch.toNat % 16)] := by
  constructor
  · exact ⟨rfl, hex.hex, hex.uppercase⟩
  · change stream.written ++
        List.replicate (2 - (OutputStream.numeral stream.base stream.uppercase
          ch.toNat).length) stream.fill ++
        OutputStream.numeral stream.base stream.uppercase ch.toNat = _
    rw [hex.hex, hex.uppercase, fill, List.append_assoc, padded_numeral]

theorem encodeMessageByte_writes (oss : OutputStream) (ch : UInt8)
    (ready : WritesHex oss ∧ oss.fill = '0'.toUInt8) :
    (WritesHex (encodeMessageByte oss ch) ∧ (encodeMessageByte oss ch).fill = '0'.toUInt8) ∧
      (encodeMessageByte oss ch).written = oss.written ++ encodeByte isListedUnreserved ch := by
  rcases ready with ⟨hex, fill⟩
  rw [encodeMessageByte, encodeByte]
  split
  · rcases hex.insertChar ch with ⟨stillHex, written⟩
    exact ⟨⟨stillHex, fill⟩, written⟩
  · rcases hex.insertChar '%'.toUInt8 with ⟨stillHex, written⟩
    rcases stillHex.insertByte fill ch with ⟨hexAfter, writtenAfter⟩
    constructor
    · exact ⟨hexAfter, fill⟩
    · rw [writtenAfter, written, List.append_assoc]
      rfl

theorem encodeUserByte_writes (out : OutputStream) (ch : UInt8) (hex : WritesHex out) :
    WritesHex (encodeUserByte out ch) ∧
      (encodeUserByte out ch).written = out.written ++ encodeByte isListedUnreserved ch := by
  rw [encodeUserByte, encodeByte, isAlnum_or_eq]
  split
  · exact hex.insertChar ch
  · rcases hex.insertChar '%'.toUInt8 with ⟨stillHex, written⟩
    have filled : WritesHex ((out.insertChar '%'.toUInt8).setFill '0'.toUInt8) :=
      ⟨stillHex.noWidth, stillHex.hex, stillHex.uppercase⟩
    rcases filled.insertByte rfl ch with ⟨hexAfter, writtenAfter⟩
    constructor
    · exact hexAfter
    · refine writtenAfter.trans ?_
      change (out.insertChar '%'.toUInt8).written ++ _ = _
      rw [written, List.append_assoc]
      rfl

/-! ## Whole texts -/

theorem messageUrlEncode_eq (input : List UInt8) :
    messageUrlEncode input = encode isListedUnreserved input := by
  have ready : WritesHex ((({ : OutputStream }).setFill '0'.toUInt8).setHex.setUppercase) ∧
      ((({ : OutputStream }).setFill '0'.toUInt8).setHex.setUppercase).fill = '0'.toUInt8 :=
    ⟨⟨rfl, rfl, rfl⟩, rfl⟩
  exact OutputStream.written_foldl encodeMessageByte_writes ready input

theorem userUrlEncode_eq (input : List UInt8) :
    userUrlEncode input = encode isListedUnreserved input := by
  have ready : WritesHex ({ : OutputStream }).setUppercase.setHex := ⟨rfl, rfl, rfl⟩
  exact OutputStream.written_foldl encodeUserByte_writes ready input

/-- One byte in the requests of the message manager. -/
theorem urlEncode_byte (byte : UInt8) :
    (if isUnreserved byte then [Char.ofNat byte.toNat]
      else ['%', upperHexDigit (byte.toNat / 16), upperHexDigit (byte.toNat % 16)]) =
      (encodeByte isListedUnreserved byte).map fun byte => Char.ofNat byte.toNat := by
  revert byte
  exact forall_byte (by decide +kernel)

/-- The encoder of the requests is the same on the bytes of a text. -/
theorem toList_urlEncode (input : String) :
    (urlEncode input).toList =
      (messageUrlEncode input.toUTF8.toList).map fun byte => Char.ofNat byte.toNat := by
  rw [messageUrlEncode_eq, urlEncode, String.toList_ofList, encode, List.map_flatMap]
  congr 1
  funext byte
  exact urlEncode_byte byte

/-- The percent sign is not among the characters that are kept. -/
theorem isListedUnreserved_percent : isListedUnreserved percent = false := by
  decide

/-- What the encoders write can be decoded, and they all write the same. -/
theorem urlEncoders_decodable (first second : List UInt8) :
    decode? (messageUrlEncode first) = some first ∧
      (messageUrlEncode first = messageUrlEncode second → first = second) ∧
      WellFormed isListedUnreserved (messageUrlEncode first) ∧
      messageUrlEncode (first ++ second) = messageUrlEncode first ++ messageUrlEncode second ∧
      userUrlEncode first = messageUrlEncode first ∧
      versionUrlEncode first = messageUrlEncode first := by
  simp only [messageUrlEncode_eq]
  refine ⟨decode?_encode isListedUnreserved_percent first, ?_, wellFormed_encode first,
    encode_append first second, userUrlEncode_eq first, userUrlEncode_eq first⟩
  exact fun same => encode_injective isListedUnreserved_percent same

end AnychatSdk
