/-!
# Halves of surrogate pairs

An escape in a JSON text can name one half of a surrogate pair without the other. A half is no
character, so a text holds a stand-in for it: one of 2048 characters for private use, U+F9A00 to
U+FA1FF, that are set apart here. A stand-in is written, quoted and ordered as the half it stands for,
and `Text.Encoding` sees to it that no text with a stand-in is stored.

A text in which such a character is meant as itself is not among those that are told of here: it would
be taken for one with halves. This restricts every statement about texts, and in particular those that
assume or conclude that a text is plain (`Text.isPlain`).
-/

namespace JsxTagger.Text

/-- The first half of all. -/
def firstHalf : Nat := 0xD800

/-- The number of halves. -/
def halves : Nat := 0x800

/-- Whether a code is that of a half. -/
def isHalf (n : Nat) : Bool := firstHalf ≤ n && n < firstHalf + halves

/-- The first of the characters that stand for halves. -/
def firstStandIn : Nat := 0xF9A00

/-- The character with the given code, or the stand-in if it is the code of a half. -/
def charOfCode (n : Nat) : Char :=
  if isHalf n then Char.ofNat (firstStandIn + (n - firstHalf)) else Char.ofNat n

/-- The code that a character stands for. -/
def code (c : Char) : Nat :=
  if firstStandIn ≤ c.toNat && c.toNat < firstStandIn + halves then
    firstHalf + (c.toNat - firstStandIn)
  else c.toNat

/-- Whether a character stands for a half. -/
def standsForHalf (c : Char) : Bool := isHalf (code c)

/-- The codes of a text. -/
def codes (s : String) : List Nat := s.toList.map code

/-- Whether a text comes before another one, or is the same, in the order of codes. -/
def ordered (a b : String) : Bool := !(codes b).lex (codes a) Nat.blt

/-- Puts a text into a sorted list, before all that it does not come after. -/
def insertSorted (a : String) : List String → List String
  | [] => [a]
  | b :: bs => if ordered a b then a :: b :: bs else b :: insertSorted a bs

/-- The given texts in the order of codes. -/
def sorted (as : List String) : List String := as.foldr insertSorted []

end JsxTagger.Text
