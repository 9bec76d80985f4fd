/-!
# Bytes

File contents, raw lines and report blocks are lists of bytes. Nothing in the search decodes them,
so a line is cut, counted and printed byte by byte.
-/

namespace FileSearch

abbrev Bytes := List UInt8

/-- The byte that ends a line. -/
def lineFeed : UInt8 := 0x0A

/-- The byte that may stand before a line feed and is dropped when a line is reported. -/
def carriageReturn : UInt8 := 0x0D

/-- The bytes of a text in UTF-8. -/
def utf8 (text : String) : Bytes :=
  text.toList.flatMap String.utf8EncodeChar

theorem utf8_append (s t : String) : utf8 (s ++ t) = utf8 s ++ utf8 t := by
  simp [utf8]

/-- Reads each byte as the character of that number, U+0000 to U+00FF. -/
def byteView (bytes : Bytes) : List Char :=
  bytes.map fun b => Char.ofNat b.toNat

@[simp] theorem length_byteView (bytes : Bytes) : (byteView bytes).length = bytes.length := by
  simp [byteView]

end FileSearch
