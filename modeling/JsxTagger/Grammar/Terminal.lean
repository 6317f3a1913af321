/-!
# Terminals

The tokens of the grammar. Punctuation and keywords are `fixed` texts; the other terminals are
classes of tokens. Terminals have codes, so that a set of them is a natural number with one bit
for each member.
-/

namespace JsxTagger.Grammar

/-- A token, or a class of tokens. -/
inductive Terminal where
  /-- The end of the text. -/
  | finish
  /-- A name. -/
  | identifier
  /-- `#name`. -/
  | privateName
  /-- A tag or attribute name with a hyphen in it. -/
  | tagName
  | number
  /-- A line or block comment. -/
  | comment
  /-- `#! …` -/
  | interpreterLine
  /-- The plain text between double quotes. -/
  | doubleText
  /-- The plain text between single quotes. -/
  | singleText
  /-- The plain text of an attribute between double quotes. -/
  | doubleAttributeText
  /-- The plain text of an attribute between single quotes. -/
  | singleAttributeText
  /-- A backslash and what it escapes. -/
  | escape
  /-- A character reference such as `&amp;`. -/
  | reference
  /-- What stands between the slashes of a regular expression. -/
  | regexPattern
  /-- The slash that ends a regular expression. -/
  | regexClose
  /-- The letters after a regular expression. -/
  | regexFlags
  /-- `static get` at the end of a line. -/
  | staticGet
  /-- A semicolon that was left out. -/
  | omittedSemicolon
  /-- The plain text of a template. -/
  | templateText
  /-- The question mark of a conditional expression. -/
  | questionMark
  /-- `<!-- …` or `--> …` up to the end of the line. -/
  | htmlComment
  /-- The text between tags. -/
  | markupText
  /-- Punctuation or a keyword. -/
  | fixed (text : String)
deriving DecidableEq, Hashable, Repr, Inhabited

namespace Terminal

/-- The words with a meaning of their own. Each may be a name wherever the grammar has no use for
the word and does not reserve it. -/
def keywords : List String :=
  ["export", "default", "as", "import", "from", "with", "assert", "var", "let", "const", "using",
   "await", "else", "if", "switch", "for", "of", "while", "do", "try", "break", "continue",
   "debugger", "return", "throw", "case", "catch", "finally", "this", "super", "true", "false",
   "null", "yield", "class", "extends", "async", "function", "new", "typeof", "void", "delete",
   "undefined", "target", "meta", "static", "get", "set"]

/-- The operators that are written as words. They are read like punctuation, so they need no blank
behind them where no name can follow. -/
def wordOperators : List String := ["in", "instanceof"]

/-- Brackets, operators and quotes. -/
def punctuators : List String :=
  ["*", "\x7b", ",", "\x7d", "(", ";", ")", ":", "=", "[", "]", "<", ">", ".", "</", "/>", "\"",
   "'", "=>", "?.", "+=", "-=", "*=", "/=", "%=", "^=", "&=", "|=", ">>=", ">>>=", "<<=", "**=",
   "&&=", "||=", "??=", "...", "&&", "||", ">>", ">>>", "<<", "&", "^", "|", "+", "-", "/", "%",
   "**", "<=", "==", "===", "!=", "!==", ">=", "??", "!", "~", "++", "--", "`", "$\x7b", "@"]

/-- Words that are never names, unless a property is named. -/
def reserved : List String :=
  ["break", "case", "catch", "class", "const", "continue", "debugger", "default", "delete", "do",
   "else", "export", "extends", "false", "finally", "for", "function", "if", "import", "in",
   "instanceof", "new", "null", "return", "super", "switch", "this", "throw", "true", "try",
   "typeof", "var", "void", "while", "with"]

/-- The classes of tokens. -/
def classes : List Terminal :=
  [.finish, .identifier, .privateName, .tagName, .number, .comment, .interpreterLine, .doubleText,
   .singleText, .doubleAttributeText, .singleAttributeText, .escape, .reference, .regexPattern,
   .regexClose, .regexFlags, .staticGet, .omittedSemicolon, .templateText, .questionMark,
   .htmlComment, .markupText]

/-- All terminals; the place of a terminal in this list is its code. -/
def all : List Terminal := classes ++ (punctuators ++ keywords ++ wordOperators).map .fixed

/-- The code of a terminal. -/
def code (t : Terminal) : Nat := all.idxOf t

end Terminal

/-! ## Sets of terminals -/

/-- A set of terminals, as a number whose bits are the codes of the members. -/
abbrev TerminalSet := Nat

namespace TerminalSet

/-- The set of the terminal with a given code. -/
def single (n : Nat) : TerminalSet := 1 <<< n

/-- The members of either set. -/
def union (s t : TerminalSet) : TerminalSet := s ||| t

/-- Whether two sets have a member in common. -/
def meets (s t : TerminalSet) : Bool := s &&& t != 0

/-- The set of the terminals in a list. -/
def ofList (ts : List Terminal) : TerminalSet :=
  ts.foldl (fun s t => s ||| single t.code) 0

end TerminalSet

end JsxTagger.Grammar
