import JsxTagger.Decimal.Digits
import JsxTagger.Text.Bytes
import JsxTagger.Text.Half

/-!
# Texts without a byte form

A text with a half of a surrogate pair has no UTF-8 form. It is reported with the place of the first
half and of those that follow it at once.

The system is less strict about the names of files: a name need not be a text, and a byte that
belongs to no character is handed on as one of 128 halves. Only the other halves are errors there.
-/

namespace JsxTagger

namespace Text

/-- A run of halves in a text. -/
structure EncodingError where
  /-- The number of characters before the run. -/
  start : Nat
  /-- The codes of the run. -/
  run : List Nat
deriving DecidableEq, Repr, Inhabited

/-- The text that reports an error. -/
def EncodingError.message (e : EncodingError) : String :=
  let place :=
    match e.run with
    | [n] => s!"character '\\u{String.ofList (Decimal.hexDigits 4 n)}' in position {e.start}"
    | run => s!"characters in position {e.start}-{e.start + run.length - 1}"
  s!"'utf-8' codec can't encode {place}: surrogates not allowed"

/-- The first run of halves among codes that follow `start` others; the codes that `excused` accepts
do not start one. -/
def encodingErrorFrom (excused : Nat → Bool) : Nat → List Nat → Option EncodingError
  | _, [] => none
  | start, n :: ns =>
    if isHalf n && !excused n then some ⟨start, (n :: ns).takeWhile isHalf⟩
    else encodingErrorFrom excused (start + 1) ns

/-- Why a text has no UTF-8 form, if it has none. -/
def encodingError? (s : String) : Option EncodingError :=
  encodingErrorFrom (fun _ => false) 0 (codes s)

/-- Whether a half stands for a byte in the name of a file. -/
def isByteHalf (n : Nat) : Bool := 0xDC80 ≤ n && n ≤ 0xDCFF

/-- Why the system does not take a text as a path, if it does not. -/
def pathEncodingError? (s : String) : Option EncodingError :=
  encodingErrorFrom isByteHalf 0 (codes s)

/-- The number of bytes that the system sees in a path. -/
def pathSize (s : String) : Nat := s.utf8ByteSize - 3 * s.toList.countP standsForHalf

end Text

/-- The UTF-8 encoding of a text, if it has one. -/
def Bytes.ofText? (s : String) : Except Text.EncodingError Bytes :=
  match Text.encodingError? s with
  | some e => .error e
  | none => .ok (Bytes.ofText s)

end JsxTagger
