import Mathlib.Data.Nat.Digits.Defs

/-!
# Formatted output

An output stream has a state besides its text: the width of the next item, the
fill character, the base of numbers and the case of their digits.  Only the
width is used up by an item; the rest stays until it is set again.
-/

/-- Text is a sequence of bytes. -/
structure OutputStream where
  written : List UInt8 := []
  width : Nat := 0
  fill : UInt8 := 32
  base : Nat := 10
  uppercase : Bool := false

namespace OutputStream

/-- The digits of a number in some base up to 16. -/
def numeral (base : Nat) (uppercase : Bool) (number : Nat) : List UInt8 :=
  (Nat.toDigits base number).map fun digit =>
    (if uppercase then digit.toUpper else digit).toUInt8

def setWidth (width : Nat) (stream : OutputStream) : OutputStream :=
  { stream with width := width }

def setFill (fill : UInt8) (stream : OutputStream) : OutputStream :=
  { stream with fill := fill }

def setHex (stream : OutputStream) : OutputStream :=
  { stream with base := 16 }

def setUppercase (stream : OutputStream) : OutputStream :=
  { stream with uppercase := true }

/-- An item is padded on the left up to the width, which is 0 again afterwards. -/
def insert (item : List UInt8) (stream : OutputStream) : OutputStream :=
  { stream with
    written := stream.written ++ List.replicate (stream.width - item.length) stream.fill ++ item
    width := 0 }

def insertChar (char : UInt8) (stream : OutputStream) : OutputStream :=
  stream.insert [char]

/-- A number that is not negative. -/
def insertNat (number : Nat) (stream : OutputStream) : OutputStream :=
  stream.insert (numeral stream.base stream.uppercase number)

/-- A loop that writes something for every byte, and keeps the rest of the state as it
needs it. -/
theorem written_foldl {step : OutputStream → UInt8 → OutputStream}
    {ready : OutputStream → Prop} {item : UInt8 → List UInt8}
    (writes : ∀ stream byte, ready stream →
      ready (step stream byte) ∧ (step stream byte).written = stream.written ++ item byte)
    {stream : OutputStream} (isReady : ready stream) (bytes : List UInt8) :
    (bytes.foldl step stream).written = stream.written ++ bytes.flatMap item := by
  induction bytes generalizing stream with
  | nil => simp
  | cons byte rest ih =>
      rcases writes stream byte isReady with ⟨stillReady, written⟩
      rw [List.foldl_cons, ih stillReady, written, List.flatMap_cons, List.append_assoc]

end OutputStream
