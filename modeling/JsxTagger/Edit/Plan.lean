import JsxTagger.Text.Encoding

/-!
# Edit plans

A file is never changed in place. Insertions and replacements are planned against the bytes of the
file as it stands, and the plan is applied once, at the end. Edits are applied in the order of the
offsets at which they start; edits that start at the same offset keep the order in which they were
planned.

Offsets are integers: a plan can hold a negative offset, and only applying it fails.
-/

namespace JsxTagger

/-- Replaces the bytes from `start` up to `stop` by a text. An insertion has `start = stop`. -/
structure Edit where
  /-- Where the edit begins. -/
  start : Int
  /-- Where the edit ends. -/
  stop : Int
  /-- The new text. -/
  text : String
  /-- How many edits were planned before this one. -/
  seq : Nat
deriving DecidableEq, Repr, Inhabited

namespace Edit

/-- Why an edit cannot be planned, or a plan cannot be applied. -/
inductive Error where
  /-- The edit ends before it begins. -/
  | invalidRange (start stop : Int)
  /-- An edit begins before the end of the edits that come before it. -/
  | overlap (start cursor : Int)
  /-- A new text has no byte form. -/
  | unencodable (cause : Text.EncodingError)
  /-- The edited bytes are not a text. -/
  | notText
deriving DecidableEq, Repr, Inhabited

/-- The text that reports an error. -/
def Error.message : Error → String
  | .invalidRange start stop => s!"Invalid edit range: {start}..{stop}"
  | .overlap start cursor =>
    s!"Overlapping edits at byte {start} (previous edit ends at {cursor})"
  | .unencodable cause => cause.message
  | .notText => "The edited bytes are not valid UTF-8"

/-- The edits planned so far, in planning order. -/
structure Plan where
  /-- The planned edits. -/
  edits : List Edit := []
deriving DecidableEq, Repr, Inhabited

namespace Plan

/-- The plan without edits. -/
def empty : Plan := ⟨[]⟩

/-- The number of planned edits. -/
def length (p : Plan) : Nat := p.edits.length

/-- Plans an edit whose range is known to be in order. -/
def push (p : Plan) (start stop : Int) (text : String) : Plan :=
  ⟨p.edits ++ [⟨start, stop, text, p.edits.length⟩]⟩

/-- Plans a replacement. -/
def replace (p : Plan) (start stop : Int) (text : String) : Except Error Plan :=
  if stop < start then .error (.invalidRange start stop) else .ok (p.push start stop text)

/-- Plans an insertion. -/
def insert (p : Plan) (offset : Int) (text : String) : Plan := p.push offset offset text

/-- The order in which edits are applied: by start, then by planning order. -/
def precedes (a b : Edit) : Bool := a.start < b.start || (a.start == b.start && a.seq ≤ b.seq)

/-- The planned edits in the order in which they are applied. -/
def ordered (p : Plan) : List Edit := p.edits.mergeSort precedes

/-- Joins the stretches of the source between the edits with the new texts. Everything before
`cursor` has been dealt with; an edit that begins there is an error. Offsets beyond the end of the
source count as its end. -/
def join (source : Bytes) : Int → List Edit → Except Error Bytes
  | cursor, [] => .ok (source.drop cursor.toNat)
  | cursor, e :: es =>
    if e.start < cursor then .error (.overlap e.start cursor)
    else do
      let text ← (Bytes.ofText? e.text).mapError .unencodable
      let rest ← join source e.stop es
      .ok (source.slice cursor.toNat e.start.toNat ++ text ++ rest)

/-- The bytes that result from applying every planned edit. -/
def applyBytes (p : Plan) (source : Bytes) : Except Error Bytes := join source 0 p.ordered

/-- The text that results from applying every planned edit. -/
def apply (p : Plan) (source : Bytes) : Except Error String := do
  let bytes ← p.applyBytes source
  match bytes.text? with
  | some text => .ok text
  | none => .error .notText

@[simp]
theorem edits_insert (p : Plan) (offset : Int) (text : String) :
    (p.insert offset text).edits = p.edits ++ [⟨offset, offset, text, p.edits.length⟩] := rfl

@[simp]
theorem length_insert (p : Plan) (offset : Int) (text : String) :
    (p.insert offset text).length = p.length + 1 := by simp [length]

end Plan

end Edit

end JsxTagger
