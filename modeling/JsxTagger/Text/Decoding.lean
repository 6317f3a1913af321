import JsxTagger.Decimal.Digits
import JsxTagger.Text.Bytes

/-!
# Bytes that are not a text

A byte string that is not valid UTF-8 is reported with the place of its first error and the reason.
A character is encoded by a first byte, which says how many bytes follow, and by bytes that carry
on; the first byte also bounds the byte right after it, so that no character has two encodings.
-/

namespace JsxTagger.Text

/-- Why bytes are not a text. -/
inductive DecodingReason where
  /-- No character starts with this byte. -/
  | badStart
  /-- A character does not carry on with this byte. -/
  | badContinuation
  /-- The bytes end inside a character. -/
  | truncated
deriving DecidableEq, Repr, Inhabited

/-- The words for a reason. -/
def DecodingReason.words : DecodingReason → String
  | badStart => "invalid start byte"
  | badContinuation => "invalid continuation byte"
  | truncated => "unexpected end of data"

/-- The first error in a byte string. -/
structure DecodingError where
  /-- Where the faulty character starts. -/
  start : Nat
  /-- The bytes that are at fault. -/
  faulty : Bytes
  /-- What is wrong with them. -/
  reason : DecodingReason
deriving DecidableEq, Repr, Inhabited

/-- How a character carries on after its first byte: the number of bytes that follow, and the bounds
of the one right after it. -/
def continuation? (first : UInt8) : Option (Nat × UInt8 × UInt8) :=
  if first < 0x80 then some (0, 0, 0)
  else if first < 0xC2 then none
  else if first < 0xE0 then some (1, 0x80, 0xBF)
  else if first = 0xE0 then some (2, 0xA0, 0xBF)
  else if first = 0xED then some (2, 0x80, 0x9F)
  else if first < 0xF0 then some (2, 0x80, 0xBF)
  else if first = 0xF0 then some (3, 0x90, 0xBF)
  else if first < 0xF4 then some (3, 0x80, 0xBF)
  else if first = 0xF4 then some (3, 0x80, 0x8F)
  else none

/-- How many of the bytes carry a character on, where `count` of them have to and the first of them
lies between the bounds. -/
def carriedOn : Nat → UInt8 → UInt8 → Bytes → Nat
  | 0, _, _, _ => 0
  | _ + 1, _, _, [] => 0
  | count + 1, lo, hi, b :: bs =>
    if lo ≤ b && b ≤ hi then carriedOn count 0x80 0xBF bs + 1 else 0

/-- The first error in a byte string, whose first byte stands at offset `start`. The number bounds
the characters that are looked at. -/
def decodingErrorFrom : Nat → Nat → Bytes → Option DecodingError
  | 0, _, _ | _, _, [] => none
  | fuel + 1, start, b :: bs =>
    match continuation? b with
    | none => some ⟨start, [b], .badStart⟩
    | some (count, lo, hi) =>
      let carried := carriedOn count lo hi bs
      if carried = count then decodingErrorFrom fuel (start + count + 1) (bs.drop count)
      else if carried = bs.length then some ⟨start, b :: bs, .truncated⟩
      else some ⟨start, b :: bs.take carried, .badContinuation⟩

/-- The first error in a byte string, if it is not a text. -/
def decodingError? (bs : Bytes) : Option DecodingError := decodingErrorFrom bs.length 0 bs

/-- The text that reports an error. -/
def DecodingError.message (e : DecodingError) : String :=
  let place :=
    match e.faulty with
    | [b] => s!"byte 0x{String.ofList (Decimal.hexDigits 2 b.toNat)} in position {e.start}"
    | bs => s!"bytes in position {e.start}-{e.start + bs.length - 1}"
  s!"'utf-8' codec can't decode {place}: {e.reason.words}"

end JsxTagger.Text
