import JsxTagger.Grammar.Lexeme

/-!
# Tokens that depend on the layout

Where a semicolon was left out, and where the text of markup and templates ends, is not decided by
characters alone: the lines and the comments around the place count as well.
-/

namespace JsxTagger.Grammar.Layout

/-! ## Gaps -/

/-- What a stretch of blanks and comments means for a semicolon that might have been left out. -/
inductive Verdict where
  /-- A slash that starts no comment rules it out. -/
  | refused
  /-- A comment on the same line leaves it open. -/
  | undecided
  /-- The gap speaks for it. -/
  | favoured
deriving DecidableEq

/-- What a gap turned out to be. -/
structure Gap where
  /-- What it means for a semicolon. -/
  verdict : Verdict
  /-- Whether it held a comment. -/
  commented : Bool
  /-- The text behind it. -/
  rest : List Char

/-- The place inside a gap. -/
inductive Place where
  /-- Between comments. -/
  | blank
  /-- Behind the slash that may start a comment. -/
  | slash
  /-- In a line comment. -/
  | line
  /-- In a block comment, perhaps behind a star. -/
  | block (star : Bool)
deriving DecidableEq

/-- Passes over blanks and comments. Unless `all` is set, a block comment with no slash right behind
it ends the gap, and favours a semicolon if a comment of the gap spans lines. -/
def gap (all : Bool) (place : Place) (broken commented : Bool) : List Char → Gap
  | [] => ⟨if place = .slash then .refused else .favoured, commented || place = .line, []⟩
  | c :: cs =>
    match place with
    | .blank =>
      if isLayout c then gap all .blank broken commented cs
      else if c == '/' then gap all .slash broken commented cs
      else ⟨.favoured, commented, c :: cs⟩
    | .slash =>
      if c == '/' then gap all .line broken commented cs
      else if c == '*' then gap all (.block false) broken commented cs
      else ⟨.refused, commented, c :: cs⟩
    | .line =>
      if isNul c then ⟨.favoured, true, c :: cs⟩
      else if breaksLine c then gap all .blank broken true cs
      else gap all .line broken commented cs
    | .block star =>
      if isNul c then ⟨.favoured, commented, c :: cs⟩
      else if star && c == '/' then
        if cs.head? == some '/' || all then gap all .blank broken true cs
        else ⟨if broken then .favoured else .undecided, true, cs⟩
      else gap all (.block (c == '*')) (broken || breaksLine c) commented cs

/-- What is behind a gap is no longer than the text. -/
theorem length_rest_gap_le (all : Bool) (place : Place) (broken commented : Bool)
    (cs : List Char) : (gap all place broken commented cs).rest.length ≤ cs.length := by
  induction cs generalizing place broken commented with
  | nil => simp [gap]
  | cons c cs ih =>
    unfold gap
    have step (p : Place) (b d : Bool) : (gap all p b d cs).rest.length ≤ (c :: cs).length :=
      Nat.le_trans (ih p b d) (Nat.le_succ _)
    repeat' split
    all_goals first | exact step _ _ _ | simp

/-! ## Omitted semicolons -/

/-- Whether a line that starts like this starts a new statement, rather than going on with the one
before. -/
def startsStatement : List Char → Bool
  | '.' :: cs => cs.head?.any isDigit
  | '+' :: cs => cs.head? == some '+'
  | '-' :: cs => cs.head? == some '-'
  | '!' :: cs => cs.head? != some '='
  | 'i' :: 'n' :: cs =>
    cs.head?.any isWordLetter &&
      (!"stanceof".toList.isPrefixOf cs || (cs.drop 8).head?.any isWordLetter)
  | c :: _ => !"`,:;*%><=[(?^|&/".toList.contains c
  | [] => true

/-- The answer to whether a semicolon was left out. -/
structure Answer where
  /-- A semicolon was left out here. -/
  omitted : Bool
  /-- A comment was passed over to find that out. -/
  commented : Bool

/-- What a character that is not a slash means for a semicolon that might have been left out in
front of it; `further` answers the question for the text behind it. -/
def answerAt (commented : Bool) (c : Char) (cs : List Char) (further : Unit → Answer) :
    Answer :=
  if c == '\x7d' then ⟨true, commented⟩
  else if breaksLine c then
    match gap true .blank false commented cs with
    | ⟨.refused, commented, _⟩ => ⟨false, commented⟩
    | ⟨_, commented, rest⟩ => ⟨startsStatement rest, commented⟩
  else if isLayout c then further ()
  else ⟨false, commented⟩

/-- Whether a semicolon was left out at the start of a text: at the end of the text, before a brace,
and before a line that starts a new statement. Where no expression could go on (`complete`), a gap
that favours it is enough, unless a comma or an equals sign comes next. -/
def semicolon (complete commented : Bool) : List Char → Answer
  | [] => ⟨true, commented⟩
  | c :: cs =>
    if isNul c then ⟨true, commented⟩
    else if c == '/' then
      match _hg : gap false .slash false commented cs with
      | ⟨.refused, seen, _⟩ => ⟨false, seen⟩
      | ⟨verdict, seen, []⟩ => ⟨verdict = .favoured && complete, seen⟩
      | ⟨verdict, seen, d :: ds⟩ =>
        if verdict = .favoured && complete && d != ',' && d != '=' then ⟨true, seen⟩
        else answerAt seen d ds fun _ => semicolon complete seen ds
    else answerAt commented c cs fun _ => semicolon complete commented cs
termination_by cs => cs.length
decreasing_by
  · have := length_rest_gap_le false .slash false commented cs
    rw [_hg] at this
    simp at this ⊢
    omega
  · simp

/-! ## Texts -/

/-- The plain text of a template up to a backquote, a backslash or a substitution. It must not be
empty, and something has to end it. -/
def templateFrom (length : Nat) : List Char → Nat
  | [] => 0
  | c :: cs =>
    if isNul c then 0
    else if c == backquote || c == '\\' || (c == '$' && cs.head? == some '\x7b') then length
    else templateFrom (length + 1) cs

/-- The plain text of a template. -/
def templateText : Measure := templateFrom 0

/-- The characters that end the text between tags. -/
def endsMarkupText (c : Char) : Bool := isNul c || "<>\x7b\x7d&".toList.contains c

/-- Whether a stretch between tags shows anything: blanks that contain a line end and come from the
start of the stretch, or come behind a line end, show nothing. -/
def shows (cs : List Char) : Bool :=
  (cs.foldl (fun (found, fresh) c =>
    let fresh := c == '\n' || (fresh && isLayout c)
    (found || !fresh, fresh)) (false, false)).1

/-- The text between tags. -/
def markupText (cs : List Char) : Nat :=
  let stretch := cs.takeWhile (!endsMarkupText ·)
  if shows stretch then stretch.length else 0

/-- Whether a text starts with the question mark of a conditional expression: one that is not part
of `??`, nor of `?.` unless a digit follows. -/
def startsQuestion : List Char → Bool
  | '?' :: '?' :: _ => false
  | '?' :: '.' :: cs => cs.head?.any isDigit
  | '?' :: _ => true
  | _ => false

/-- A comment in the manner of old browsers, up to the end of the line. -/
def htmlComment (cs : List Char) : Nat :=
  let opening := max (Lexeme.literal "<!--".toList cs) (Lexeme.literal "-->".toList cs)
  if opening == 0 then 0
  else opening + Lexeme.run (fun c => !breaksLine c && !isNul c) (cs.drop opening)

end JsxTagger.Grammar.Layout
