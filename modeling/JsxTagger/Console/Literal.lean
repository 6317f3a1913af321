import JsxTagger.Decimal.Digits
import JsxTagger.Text.Printable

/-!
# Literal values

The arguments of an action in a tag are literal values: numbers, texts, bytes, the words `True`,
`False` and `None`, three dots, tuples, sets and dictionaries. Lists cannot be written inside a tag,
because brackets end it. Only whether a text is a literal is of interest, so a value is kept as far
as that depends on it: its type, and whether it may be a key.
-/

namespace JsxTagger.Console.Literal

open Decimal (isDigit hexValue?)

/-- What is known about a value. -/
inductive Shape where
  /-- A number, which may be an imaginary one. -/
  | number (imaginary : Bool)
  /-- A text, or bytes. -/
  | text (bytes : Bool)
  /-- Any other value. It may be a key or not. -/
  | other (isKey : Bool)
deriving DecidableEq, Repr, Inhabited

/-- Whether a value may be a key or a member of a set. -/
def Shape.isKey : Shape → Bool
  | .other isKey => isKey
  | _ => true

/-- What was read, and the characters after it. -/
abbrev Read := Option (Shape × List Char)

/-- The characters after blanks and line breaks. -/
def skip (cs : List Char) : List Char :=
  cs.dropWhile fun c => [' ', '\t', '\n', Char.ofNat 12].contains c

/-- Whether a character can be part of a word. -/
def isWordChar (c : Char) : Bool :=
  c.isAlphanum || c == '_' || (0x80 ≤ c.toNat && Text.isPrintable c)

/-! ## Numbers -/

/-- Digits between which single underscores may stand, and the characters after them. -/
def digitRun (ok : Char → Bool) : List Char → List Char × List Char
  | '_' :: c :: cs =>
    if ok c then
      let (ds, rest) := digitRun ok cs
      (c :: ds, rest)
    else ([], '_' :: c :: cs)
  | c :: cs =>
    if ok c then
      let (ds, rest) := digitRun ok cs
      (c :: ds, rest)
    else ([], c :: cs)
  | [] => ([], [])

/-- Digits that do not start with an underscore. -/
def digitsAt (cs : List Char) : List Char × List Char :=
  if cs.head?.any isDigit then digitRun isDigit cs else ([], cs)

/-- A whole number to another base, behind the zero and the letter that announce it. -/
def basedNumber (ok : Char → Bool) (cs : List Char) : Read :=
  match digitRun ok cs with
  | ([], _) => none
  | (_, rest) => some (.number false, rest)

/-- The exponent at the start of a text, if there is one, and the characters after it. -/
def exponentAt (cs : List Char) : Bool × List Char :=
  match cs with
  | e :: rest =>
    if e = 'e' || e = 'E' then
      let digits := if rest.head?.any fun c => c = '+' || c = '-' then rest.tail else rest
      match digitsAt digits with
      | ([], _) => (false, cs)
      | (_, rest) => (true, rest)
    else (false, cs)
  | [] => (false, cs)

/-- A decimal number. Only a whole zero may start with a zero. -/
def decimalNumber (cs : List Char) : Read :=
  let (whole, rest) := digitsAt cs
  let (point, fraction, rest) :=
    match rest with
    | '.' :: more => let (ds, rest) := digitsAt more; (true, ds, rest)
    | rest => (false, [], rest)
  let (exponent, rest) := exponentAt rest
  if whole.isEmpty && fraction.isEmpty then none
  else
    match rest with
    | 'j' :: rest | 'J' :: rest => some (.number true, rest)
    | rest =>
      let plain := !point && !exponent
      let padded := whole.head? = some '0' && whole.any (· != '0')
      if plain && (padded || Decimal.maxDigits < whole.length) then none
      else some (.number false, rest)

/-- A number. No word may follow it at once. -/
def number (cs : List Char) : Read := do
  let read ←
    match cs with
    | '0' :: c :: rest =>
      if c = 'x' || c = 'X' then basedNumber (hexValue? · |>.isSome) rest
      else if c = 'o' || c = 'O' then basedNumber (fun d => '0' ≤ d && d ≤ '7') rest
      else if c = 'b' || c = 'B' then basedNumber (fun d => d = '0' || d = '1') rest
      else decimalNumber cs
    | _ => decimalNumber cs
  if read.2.head?.any isWordChar then none else some read

/-! ## Texts -/

/-- The number of hexadecimal digits that a letter behind a backslash asks for. -/
def hexDigitsAfter (bytes : Bool) (c : Char) : Nat :=
  if c = 'x' then 2 else if bytes then 0 else if c = 'u' then 4 else if c = 'U' then 8 else 0

/-- Whether the characters behind a backslash can stand there. -/
def escapeOk (raw bytes : Bool) : List Char → Bool
  | [] => false
  | c :: cs =>
    let count := hexDigitsAfter bytes c
    raw || match Decimal.ofHexDigits? (cs.take count) with
      | some n => (cs.take count).length = count && n < 0x110000
      | none => false

/-- The characters behind a text whose opening mark has been read. -/
def textEnd (mark : List Char) (raw bytes : Bool) : List Char → Option (List Char)
  | [] => none
  | '\\' :: c :: cs =>
    if escapeOk raw bytes (c :: cs) then textEnd mark raw bytes cs else none
  | c :: cs =>
    if mark.isPrefixOf (c :: cs) then some (cs.drop (mark.length - 1))
    else if (c = '\n' && mark.length = 1) || (bytes && 0x80 ≤ c.toNat) then none
    else textEnd mark raw bytes cs

/-- The text at the start of characters, with the letters before its mark. -/
def text? (cs : List Char) : Read :=
  let letters := cs.takeWhile Char.isAlpha
  let marked := cs.drop letters.length
  let kind := String.ofList (letters.map Char.toLower)
  if ["", "r", "u", "b", "br", "rb"].contains kind then
    let raw := kind.contains 'r'
    let bytes := kind.contains 'b'
    match marked with
    | q :: rest =>
      if q != '"' && q != '\'' then none
      else
        let mark := if [q, q].isPrefixOf rest then [q, q, q] else [q]
        (textEnd mark raw bytes (marked.drop mark.length)).map (.text bytes, ·)
    | [] => none
  else none

/-- Texts that follow each other are one text. All of them must be bytes, or none. -/
def moreTexts (bytes : Bool) : Nat → List Char → Read
  | 0, cs => some (.text bytes, cs)
  | fuel + 1, cs =>
    match text? (skip cs) with
    | some (.text b, rest) => if b = bytes then moreTexts bytes fuel rest else none
    | _ => some (.text bytes, cs)

/-! ## Values -/

/-- The words that are values. -/
def word? (cs : List Char) : Read :=
  let word := cs.takeWhile isWordChar
  let rest := cs.drop word.length
  if ["True", "False", "None"].contains (String.ofList word) then some (.other true, rest)
  else if String.ofList word = "set" then
    match skip rest with
    | '(' :: rest =>
      match skip rest with
      | ')' :: rest => some (.other false, rest)
      | _ => none
    | _ => none
  else none

/-- A value without parts. -/
def simple (cs : List Char) : Read :=
  match text? cs with
  | some (.text bytes, rest) => moreTexts bytes rest.length rest
  | some _ => none
  | none =>
    match cs with
    | '.' :: '.' :: '.' :: rest => some (.other true, rest)
    | c :: _ => if isDigit c || c = '.' then number cs else word? cs
    | [] => none

mutual

/-- A value, which may be the sum of a real and an imaginary number. -/
def value : Nat → List Char → Read
  | 0, _ => none
  | fuel + 1, cs => do
    let (left, rest) ← signed fuel (skip cs)
    match skip rest with
    | c :: more =>
      if c = '+' || c = '-' then
        match left, ← atom fuel (skip more) with
        | .number false, (.number true, rest) => some (.other true, rest)
        | _, _ => none
      else some (left, c :: more)
    | [] => some (left, [])

/-- A value, with a sign before it if it is a number. -/
def signed : Nat → List Char → Read
  | 0, _ => none
  | fuel + 1, cs =>
    match cs with
    | c :: rest =>
      if c = '+' || c = '-' then
        match atom fuel (skip rest) with
        | some (.number imaginary, rest) => some (.number imaginary, rest)
        | _ => none
      else atom fuel cs
    | [] => none

/-- A value with neither sign nor sum. -/
def atom : Nat → List Char → Read
  | 0, _ => none
  | fuel + 1, cs =>
    match cs with
    | '(' :: rest =>
      match skip rest with
      | ')' :: rest => some (.other true, rest)
      | rest =>
        match values fuel true rest with
        | some (some shape, ')' :: rest) => some (shape, rest)
        | _ => none
    | '{' :: rest =>
      match skip rest with
      | '}' :: rest => some (.other false, rest)
      | rest => members fuel rest
    | cs => simple cs

/-- Values with commas between them: a single one without a comma is itself, all others make a
tuple. `first` says that no value has been read yet. -/
def values : Nat → Bool → List Char → Option (Option Shape × List Char)
  | 0, _, _ => none
  | fuel + 1, first, cs => do
    let (shape, rest) ← value fuel cs
    match skip rest with
    | ',' :: rest =>
      match skip rest with
      | [] => some (some (.other shape.isKey), [])
      | ')' :: rest => some (some (.other shape.isKey), ')' :: rest)
      | rest =>
        let (others, rest) ← values fuel false rest
        some (some (.other (shape.isKey && (others.map Shape.isKey).getD true)), rest)
    | rest => some (some (if first then shape else .other shape.isKey), rest)

/-- The members of a set or a dictionary up to the brace that ends it. -/
def members : Nat → List Char → Read
  | 0, _ => none
  | fuel + 1, cs => do
    let (key, rest) ← value fuel cs
    if !key.isKey then none
    else
      match skip rest with
      | ':' :: rest =>
        let (_, rest) ← value fuel rest
        moreMembers fuel true (skip rest)
      | rest => moreMembers fuel false rest

/-- The members after the first one. All of them have values, or none. -/
def moreMembers : Nat → Bool → List Char → Read
  | 0, _, _ => none
  | fuel + 1, paired, cs =>
    match cs with
    | '}' :: rest => some (.other false, rest)
    | ',' :: rest =>
      match skip rest with
      | '}' :: rest => some (.other false, rest)
      | rest => do
        let (key, rest) ← value fuel rest
        if !key.isKey then none
        else
          match skip rest, paired with
          | ':' :: rest, true =>
            let (_, rest) ← value fuel rest
            moreMembers fuel paired (skip rest)
          | ':' :: _, false | _, true => none
          | rest, false => moreMembers fuel paired rest
    | _ => none

end

/-- Whether characters are a literal value. -/
def isLiteral (cs : List Char) : Bool :=
  match values (4 * cs.length + 4) true cs with
  | some (_, rest) => (skip rest).isEmpty
  | none => false

end JsxTagger.Console.Literal
