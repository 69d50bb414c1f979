/-!
# Bytes of a text

A byte string is a list of bytes. Texts are written as UTF-8, and reading accepts
exactly the well-formed byte strings.
-/

namespace SignIn

/-- A string of bytes. -/
abbrev Bytes := List UInt8

namespace Bytes

/-- The UTF-8 form of a text. -/
def ofString (s : String) : Bytes := s.toByteArray.data.toList

/-- The text with this UTF-8 form, if the bytes are well formed. -/
def toString? (bytes : Bytes) : Option String := String.fromUTF8? ⟨bytes.toArray⟩

@[simp] theorem toString?_ofString (s : String) : toString? (ofString s) = some s := by
  have e : (⟨(ofString s).toArray⟩ : ByteArray) = s.toByteArray := by simp [ofString]
  simp only [toString?, e, String.fromUTF8?, dif_pos s.isValidUTF8]
  rfl

theorem length_ofString (s : String) : (ofString s).length = s.utf8ByteSize := by
  rfl

/-- The eight bytes of a word, least significant first. -/
def ofUInt64LE (w : UInt64) : Bytes :=
  (List.range 8).map fun i => (w >>> (8 * UInt64.ofNat i)).toUInt8

@[simp] theorem length_ofUInt64LE (w : UInt64) : (ofUInt64LE w).length = 8 := by
  simp [ofUInt64LE]

/-- The four bytes of a word, least significant first. -/
def ofUInt32LE (w : UInt32) : Bytes :=
  (List.range 4).map fun i => (w >>> (8 * UInt32.ofNat i)).toUInt8

/-- The four bytes of a word, most significant first. -/
def ofUInt32BE (w : UInt32) : Bytes := (ofUInt32LE w).reverse

@[simp] theorem length_ofUInt32BE (w : UInt32) : (ofUInt32BE w).length = 4 := by
  simp [ofUInt32BE, ofUInt32LE]

/-- The number whose digits in base 256 are the bytes, least significant first. -/
def toNatLE : Bytes → Nat
  | [] => 0
  | b :: rest => b.toNat + 256 * toNatLE rest

/-- The number whose digits in base 256 are the bytes, most significant first. -/
def toNatBE (bytes : Bytes) : Nat := toNatLE bytes.reverse

/-- Cut into pieces of `size + 1` bytes; the last piece may be shorter. -/
def pieces (size : Nat) (bytes : Bytes) : List Bytes :=
  match bytes with
  | [] => []
  | b :: rest => (b :: rest.take size) :: pieces size (rest.drop size)
termination_by bytes.length
decreasing_by simp only [List.length_drop, List.length_cons]; omega

end Bytes

end SignIn
