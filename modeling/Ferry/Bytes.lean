/-!
# Byte strings and fixed-width words

Everything that crosses a link is a byte string. A word of `width` bytes is
written as its base-256 digits, least significant first; the same digits in the
opposite order are the big-endian form.
-/

namespace Ferry

/-- A byte string, first byte first. -/
abbrev Bytes := List UInt8

/-- No array, packet or batch may be longer than this many bytes (12 MiB). -/
def bufferLimit : Nat := 12 * 1024 * 1024

namespace Bytes

/-- The `width` low base-256 digits of `value`, least significant first. -/
def littleEndian : (width : Nat) → (value : Nat) → Bytes
  | 0, _ => []
  | width + 1, value => UInt8.ofNat value :: littleEndian width (value / 256)

/-- The number whose base-256 digits, least significant first, are the given bytes. -/
def ofLittleEndian (digits : Bytes) : Nat :=
  digits.foldr (fun digit higher => digit.toNat + 256 * higher) 0

/-- The `width` low base-256 digits of `value`, most significant first. -/
def bigEndian (width : Nat) (value : Nat) : Bytes :=
  (littleEndian width value).reverse

/-- The number whose base-256 digits, most significant first, are the given bytes. -/
def ofBigEndian (digits : Bytes) : Nat :=
  digits.foldl (fun higher digit => 256 * higher + digit.toNat) 0

@[simp] theorem length_littleEndian (width value : Nat) :
    (littleEndian width value).length = width := by
  induction width generalizing value with
  | zero => rfl
  | succ width ih => simp [littleEndian, ih]

@[simp] theorem length_bigEndian (width value : Nat) :
    (bigEndian width value).length = width := by
  simp [bigEndian]

/-- Reading the digits of a number back gives it modulo the range of the word. -/
theorem ofLittleEndian_littleEndian (width value : Nat) :
    ofLittleEndian (littleEndian width value) = value % Nat.pow 256 width := by
  induction width generalizing value with
  | zero => simp [littleEndian, ofLittleEndian, Nat.mod_one]
  | succ width ih =>
    have higher := ih (value / 256)
    simp only [ofLittleEndian] at higher
    have lowest : (UInt8.ofNat value).toNat = value % 256 := by simp
    simp only [littleEndian, ofLittleEndian, List.foldr_cons, higher, lowest]
    rw [show Nat.pow 256 (width + 1) = 256 * Nat.pow 256 width from Nat.mul_comm _ _, Nat.mod_mul]

/-- The bytes of a packed byte array. -/
def ofByteArray (bytes : ByteArray) : Bytes :=
  bytes.data.toList

/-- The UTF-8 bytes of a text. -/
def ofString (text : String) : Bytes :=
  ofByteArray text.toByteArray

/-- The same bytes as a packed array. -/
def pack (bytes : Bytes) : ByteArray :=
  ⟨bytes.toArray⟩

@[simp] theorem pack_ofByteArray (bytes : ByteArray) : pack (ofByteArray bytes) = bytes := by
  simp [pack, ofByteArray]

end Bytes

end Ferry
