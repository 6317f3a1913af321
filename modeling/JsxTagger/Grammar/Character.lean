/-!
# Character classes of the grammar

Which characters separate tokens, end a line, or may stand in a name. Names are generous: every
character that is neither blank, nor a control character, nor ASCII punctuation may stand in one.

Two kinds of blanks have to be told apart. `isBlank` is the class of characters that separate
tokens. `isLayout` is the smaller class that is passed over where the layout of the lines decides
what comes next: no-break spaces and invisible characters are not in it.
-/

namespace JsxTagger.Grammar

/-- Characters that are passed over where the layout of the lines is looked at: ASCII blanks and
the breaking spaces and separators of Unicode. -/
def isLayout (c : Char) : Bool :=
  let n := c.toNat
  (0x09 ≤ n && n ≤ 0x0D) || n == 0x20 || n == 0x1680 || (0x2000 ≤ n && n ≤ 0x2006) ||
    (0x2008 ≤ n && n ≤ 0x200A) || n == 0x2028 || n == 0x2029 || n == 0x205F || n == 0x3000

/-- Characters that separate tokens: the blanks of Unicode and a few invisible characters, the byte
order mark among them. -/
def isBlank (c : Char) : Bool :=
  let n := c.toNat
  isLayout c || n == 0xA0 || n == 0x2007 || n == 0x200B || n == 0x202F || n == 0x2060 ||
    n == 0xFEFF

/-- Characters that end a line comment. -/
def isLineEnd (c : Char) : Bool :=
  c == '\n' || c == '\r' || c.toNat == 0x2028 || c.toNat == 0x2029

/-- Characters after which a semicolon may be left out. -/
def breaksLine (c : Char) : Bool :=
  c == '\n' || c.toNat == 0x2028 || c.toNat == 0x2029

/-- The character that no token holds. Where the layout is looked at it counts as the end of the
text. -/
def isNul (c : Char) : Bool := c.toNat == 0

/-- Decimal digits. -/
def isDigit (c : Char) : Bool := '0' ≤ c && c ≤ '9'

/-- Octal digits. -/
def isOctalDigit (c : Char) : Bool := '0' ≤ c && c ≤ '7'

/-- Hexadecimal digits. -/
def isHexDigit (c : Char) : Bool :=
  isDigit c || ('a' ≤ c && c ≤ 'f') || ('A' ≤ c && c ≤ 'F')

/-- ASCII letters. -/
def isLetter (c : Char) : Bool := ('a' ≤ c && c ≤ 'z') || ('A' ≤ c && c ≤ 'Z')

/-- The quote of templates. -/
def backquote : Char := Char.ofNat 0x60

/-- The ASCII punctuation that never stands in a name. -/
def punctuation : List Char := ":;`\"'@#.,|^&<=>+-*/\\%?!~()[]\x7b\x7d".toList

/-- Characters a name may continue with. -/
def isNamePart (c : Char) : Bool :=
  isLetter c || isDigit c || c == '_' || c == '$' ||
    (0x20 ≤ c.toNat && !isBlank c && !punctuation.contains c)

/-- Characters that make a word longer where whole words are looked for. -/
def isWordLetter (c : Char) : Bool := isLetter c || (0x80 ≤ c.toNat && isNamePart c)

/-- Characters of the names that may hold hyphens, such as `data-id`. -/
def isTagPart (c : Char) : Bool := isLetter c || isDigit c || c == '_' || c == '$'

end JsxTagger.Grammar
