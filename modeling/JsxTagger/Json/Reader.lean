import JsxTagger.Decimal.Digits
import JsxTagger.Failure.Fault
import JsxTagger.Json.Value
import JsxTagger.Text.Half

/-!
# Reading JSON

The reader takes the characters of a document one after another and, where it fails, says what it
expected and at which character. Besides JSON proper it accepts `NaN`, `Infinity` and `-Infinity`.
Of several members with the same key the last value counts. An integer may have `Decimal.maxDigits` digits,
and every list and every object takes a call inside the call of what holds it.

An error keeps the text that was left when it arose; its position is the difference to the length
of the whole.
-/

namespace JsxTagger.Json

open Decimal
open Text (charOfCode)

/-- What holds other values. -/
inductive Container where
  | list
  | object
deriving DecidableEq, Repr, Inhabited

/-- What a message calls a container. -/
def Container.name : Container → String
  | list => "array"
  | object => "object"

/-- What a reader did not find, or what it found too much of. -/
inductive ReadFault where
  | value
  | propertyName
  | colon
  | comma
  | unterminatedString
  | controlCharacter
  | escape
  | unicodeEscape
  | extraData
  | byteOrderMark
  /-- An integer has more digits than can be read. -/
  | longInteger (digits : Nat)
  /-- Containers are nested too deep. -/
  | tooDeep (container : Container)
deriving DecidableEq, Repr, Inhabited

/-- What a message says about a fault. -/
def ReadFault.text : ReadFault → String
  | value => "Expecting value"
  | propertyName => "Expecting property name enclosed in double quotes"
  | colon => "Expecting ':' delimiter"
  | comma => "Expecting ',' delimiter"
  | unterminatedString => "Unterminated string starting at"
  | controlCharacter => "Invalid control character at"
  | escape => "Invalid \\escape"
  | unicodeEscape => "Invalid \\uXXXX escape"
  | extraData => "Extra data"
  | byteOrderMark => "Unexpected UTF-8 BOM (decode using utf-8-sig)"
  | longInteger digits =>
    s!"Exceeds the limit ({maxDigits} digits) for integer string conversion: value has {digits} " ++
      "digits; use sys.set_int_max_str_digits() to increase the limit"
  | tooDeep container =>
    s!"maximum recursion depth exceeded while decoding a JSON {container.name} from a unicode string"

/-- The kind of a fault: going beyond a limit is not the same as not being JSON. -/
def ReadFault.kind : ReadFault → FaultKind
  | longInteger _ => .badValue
  | tooDeep _ => .tooDeep
  | _ => .badJson

/-- A fault with the text that was left where it arose. -/
structure Stuck where
  /-- What went wrong. -/
  fault : ReadFault
  /-- The text from the place of the fault on. -/
  rest : List Char
deriving DecidableEq, Repr, Inhabited

/-- A fault at a character of a document. -/
structure ReadError where
  /-- What went wrong. -/
  fault : ReadFault
  /-- The number of characters before the fault. -/
  position : Nat
  /-- The line, counted from 1. -/
  line : Nat
  /-- The column, counted from 1. -/
  column : Nat
deriving DecidableEq, Repr, Inhabited

/-- The text that reports a fault. Where a limit was passed is not said. -/
def ReadError.message (e : ReadError) : String :=
  if e.fault.kind = .badJson then
    s!"{e.fault.text}: line {e.line} column {e.column} (char {e.position})"
  else e.fault.text

/-- A read error as a fault. -/
def ReadError.asFault (e : ReadError) : Fault := ⟨e.fault.kind, e.message⟩

/-- A text without the blanks at its start. -/
def skipBlanks : List Char → List Char
  | [] => []
  | c :: cs => if c == ' ' || c == '\t' || c == '\n' || c == '\r' then skipBlanks cs else c :: cs

/-! ## Strings -/

/-- The character that a letter after a backslash stands for. -/
def simpleEscape? (c : Char) : Option Char :=
  if c == '"' || c == '\\' || c == '/' then some c
  else if c == 'b' then some (Char.ofNat 0x08)
  else if c == 'f' then some (Char.ofNat 0x0C)
  else if c == 'n' then some '\n'
  else if c == 'r' then some '\r'
  else if c == 't' then some '\t'
  else none

/-- The second half of a pair whose first half has been read: its code, if it is there. -/
def lowHalf? (cs : List Char) : Option Nat :=
  match cs with
  | '\\' :: 'u' :: a :: b :: c :: d :: _ :: _ =>
    match ofHexDigits? [a, b, c, d] with
    | some n => if 0xDC00 ≤ n && n ≤ 0xDFFF then some n else none
    | none => none
  | _ => none

/-- The rest of a string behind its opening mark, and the text after it. `opening` is the text from
the opening mark on; `skip` counts characters of a pair that have already been read. -/
def readString (opening : List Char) (skip : Nat) (taken : List Char) :
    List Char → Except Stuck (String × List Char)
  | [] => .error ⟨.unterminatedString, opening⟩
  | c :: cs =>
    match skip with
    | k + 1 => readString opening k taken cs
    | 0 =>
      if c == '"' then .ok (String.ofList taken.reverse, cs)
      else if c.toNat < 0x20 then .error ⟨.controlCharacter, c :: cs⟩
      else if c == '\\' then
        match cs with
        | [] => .error ⟨.unterminatedString, opening⟩
        | 'u' :: rest =>
          match rest with
          | h1 :: h2 :: h3 :: h4 :: last :: more =>
            match ofHexDigits? [h1, h2, h3, h4] with
            | none => .error ⟨.unicodeEscape, 'u' :: rest⟩
            | some n =>
              if 0xD800 ≤ n && n ≤ 0xDBFF then
                match lowHalf? (last :: more) with
                | some m =>
                  let code := 0x10000 + (n - 0xD800) * 0x400 + (m - 0xDC00)
                  readString opening 11 (charOfCode code :: taken) cs
                | none => readString opening 5 (charOfCode n :: taken) cs
              else readString opening 5 (charOfCode n :: taken) cs
          | _ => .error ⟨.unicodeEscape, 'u' :: rest⟩
        | e :: _ =>
          match simpleEscape? e with
          | some x => readString opening 1 (x :: taken) cs
          | none => .error ⟨.escape, c :: cs⟩
      else readString opening 0 (c :: taken) cs

/-! ## Numbers -/

/-- A number split into the parts it is written in. -/
structure NumberText where
  /-- It starts with a minus sign. -/
  negative : Bool
  /-- The digits before the point. -/
  whole : List Char
  /-- The digits after the point. -/
  fraction : List Char
  /-- The exponent, if it is written. -/
  exponent : Option Int

/-- Whether a number is an integer: neither a point nor an exponent is written. -/
def NumberText.isInteger (t : NumberText) : Bool := t.fraction.isEmpty && t.exponent.isNone

/-- The value of a number. -/
def NumberText.value (t : NumberText) : Json :=
  if t.isInteger then
    let n : Int := ofDigits t.whole
    .int (if t.negative then -n else n)
  else
    let e := t.exponent.getD 0 - (t.fraction.length : Int)
    .float (.ofDecimal t.negative (ofDigits (t.whole ++ t.fraction)) e)

/-- Splits off the digits after a point, if there are any. -/
def readFraction (cs : List Char) : List Char × List Char :=
  match cs with
  | '.' :: rest =>
    match rest.span isDigit with
    | ([], _) => ([], cs)
    | split => split
  | _ => ([], cs)

/-- Splits off a complete exponent, if there is one. -/
def readExponent (cs : List Char) : Option Int × List Char :=
  match cs with
  | e :: rest =>
    if e == 'e' || e == 'E' then
      let (sign, rest) : Int × List Char :=
        match rest with
        | '+' :: r => (1, r)
        | '-' :: r => (-1, r)
        | r => (1, r)
      match rest.span isDigit with
      | ([], _) => (none, cs)
      | (ds, rest) => (some (sign * ofDigits ds), rest)
    else (none, cs)
  | [] => (none, cs)

/-- Splits off the digits before the point: a zero stands alone. -/
def readWhole (cs : List Char) : Option (List Char × List Char) :=
  match cs with
  | '0' :: rest => some (['0'], rest)
  | _ =>
    match cs.span isDigit with
    | ([], _) => none
    | split => some split

/-- A number at the start of a text. -/
def readNumber (cs : List Char) : Except Stuck (Json × List Char) :=
  let (negative, body) :=
    match cs with
    | '-' :: rest => (true, rest)
    | _ => (false, cs)
  match readWhole body with
  | none => .error ⟨.value, cs⟩
  | some (whole, rest) =>
    let (fraction, rest) := readFraction rest
    let (exponent, rest) := readExponent rest
    let number : NumberText := ⟨negative, whole, fraction, exponent⟩
    if number.isInteger && maxDigits < whole.length then .error ⟨.longInteger whole.length, cs⟩
    else .ok (number.value, rest)

/-- The words that stand for values. -/
def words : List (List Char × Json) :=
  [("null".toList, .null), ("true".toList, .bool true), ("false".toList, .bool false),
   ("NaN".toList, .float .nan), ("Infinity".toList, .float (.infinite false)),
   ("-Infinity".toList, .float (.infinite true))]

/-- A value without parts at the start of a text. -/
def readScalar (cs : List Char) : Except Stuck (Json × List Char) :=
  match words.find? (·.1.isPrefixOf cs) with
  | some (w, j) => .ok (j, cs.drop w.length)
  | none => readNumber cs

/-! ## Values -/

mutual

/-- A value at the start of a text, and the text after it. `depth` is the number of containers that
may be opened inside each other, and `fuel` bounds the steps. -/
def readValue (depth : Nat) : Nat → List Char → Except Stuck (Json × List Char)
  | 0, cs => .error ⟨.value, cs⟩
  | fuel + 1, cs =>
    match cs with
    | '"' :: rest => do
      let (s, rest) ← readString cs 0 [] rest
      .ok (.str s, rest)
    | '[' :: rest =>
      if depth = 0 then .error ⟨.tooDeep .list, cs⟩
      else
        match skipBlanks rest with
        | ']' :: rest => .ok (.arr [], rest)
        | rest => do
          let (items, rest) ← readItems (depth - 1) fuel rest
          .ok (.arr items, rest)
    | '{' :: rest =>
      if depth = 0 then .error ⟨.tooDeep .object, cs⟩
      else
        match skipBlanks rest with
        | '}' :: rest => .ok (.obj [], rest)
        | rest => do
          let (members, rest) ← readMembers (depth - 1) fuel [] rest
          .ok (.obj members, rest)
    | _ => readScalar cs

/-- The items of a list up to its end. -/
def readItems (depth : Nat) : Nat → List Char → Except Stuck (List Json × List Char)
  | 0, cs => .error ⟨.value, cs⟩
  | fuel + 1, cs => do
    let (j, rest) ← readValue depth fuel cs
    match skipBlanks rest with
    | ']' :: rest => .ok ([j], rest)
    | ',' :: rest => do
      let (js, rest) ← readItems depth fuel (skipBlanks rest)
      .ok (j :: js, rest)
    | rest => .error ⟨.comma, rest⟩

/-- The members of an object up to its end, after those already read. -/
def readMembers (depth : Nat) : Nat → List (String × Json) → List Char →
    Except Stuck (List (String × Json) × List Char)
  | 0, _, cs => .error ⟨.propertyName, cs⟩
  | fuel + 1, members, cs =>
    match cs with
    | '"' :: rest => do
      let (key, rest) ← readString cs 0 [] rest
      match skipBlanks rest with
      | ':' :: rest => do
        let (j, rest) ← readValue depth fuel (skipBlanks rest)
        let members := setMember members key j
        match skipBlanks rest with
        | '}' :: rest => .ok (members, rest)
        | ',' :: rest => readMembers depth fuel members (skipBlanks rest)
        | rest => .error ⟨.comma, rest⟩
      | rest => .error ⟨.colon, rest⟩
    | _ => .error ⟨.propertyName, cs⟩

end

/-- The place of a fault in a document. -/
def locate (text : List Char) (stuck : Stuck) : ReadError :=
  let position := text.length - stuck.rest.length
  let before := text.take position
  { fault := stuck.fault
    position
    line := before.count '\n' + 1
    column := (before.reverse.takeWhile (· != '\n')).length + 1 }

/-- A whole document with containers nested up to the given depth. -/
def readDocument (depth : Nat) (text : List Char) : Except Stuck Json :=
  if text.head?.any (·.toNat == 0xFEFF) then .error ⟨.byteOrderMark, text⟩
  else do
    let (j, rest) ← readValue depth (text.length + 1) (skipBlanks text)
    match skipBlanks rest with
    | [] => .ok j
    | rest => .error ⟨.extraData, rest⟩

/-- Reads a document, where `room` calls are left. Four of them come before its first character. -/
def read (room : Nat) (s : String) : Except ReadError Json :=
  (readDocument (room - 4) s.toList).mapError (locate s.toList)

end JsxTagger.Json
