/-!
# Byte strings

Files are sequences of bytes, and every offset of the library counts bytes. A text is turned into
bytes by its UTF-8 encoding, and bytes are a text only if they are valid UTF-8.
-/

namespace JsxTagger

/-- The contents of a file. -/
abbrev Bytes := List UInt8

namespace Bytes

/-- The UTF-8 encoding of a text. -/
def ofText (s : String) : Bytes := s.toUTF8.data.toList

/-- The text that a byte string encodes, if it is valid UTF-8. -/
def text? (b : Bytes) : Option String := String.fromUTF8? ⟨b.toArray⟩

/-- The bytes from offset `start` up to, but not including, offset `stop`. What lies beyond the end
is cut off. -/
def slice (b : Bytes) (start stop : Nat) : Bytes := (b.drop start).take (stop - start)

/-- The byte that ends a line. -/
def newline : UInt8 := 10

/-- The number of lines that end before an offset. -/
def linesBefore (b : Bytes) (offset : Nat) : Nat := (b.take offset).count newline

/-- The number of bytes between the start of its line and an offset. -/
def columnOf (b : Bytes) (offset : Nat) : Nat :=
  ((b.take offset).reverse.takeWhile (· != newline)).length

end Bytes

end JsxTagger
