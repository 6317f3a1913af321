import JsxTagger.Text.Printable

/-!
# Blanks

The characters that count as blank at the ends of a text, in all scripts.
-/

namespace JsxTagger.Text

/-- Characters that count as blank at the ends of a text. -/
def isSpace (c : Char) : Bool :=
  inRanges [(0x09, 0x0D), (0x1C, 0x20), (0x85, 0x85), (0xA0, 0xA0), (0x1680, 0x1680),
    (0x2000, 0x200A), (0x2028, 0x2029), (0x202F, 0x202F), (0x205F, 0x205F), (0x3000, 0x3000)]
    c.toNat

/-- Characters without the blanks around them. -/
def trimChars (cs : List Char) : List Char :=
  ((cs.dropWhile isSpace).reverse.dropWhile isSpace).reverse

/-- A text without the blanks around it. -/
def trim (s : String) : String := String.ofList (trimChars s.toList)

/-- The words of a text, between which there are blanks. -/
def words (s : String) : List String :=
  ((s.toList.splitBy fun a b => isSpace a == isSpace b).filter (!·.any isSpace)).map String.ofList

end JsxTagger.Text
