import JsxTagger.Grammar.Automaton
import JsxTagger.Grammar.Layout

/-!
# Reading the next token

Which token comes next depends on what the grammar expects. Tokens that depend on the layout are
looked for first. Otherwise blanks are passed over and the longest expected lexeme is taken; among
lexemes of equal length a fixed text comes before a class. A few classes have to start right where
the last token ended, and the plain text between quotes is taken as soon as there is any.

A name that is spelled like a keyword is that keyword where the grammar has a use for it, or where
it is reserved.
-/

namespace JsxTagger.Grammar

/-- A place in a text. -/
structure Cursor where
  /-- The text from there on. -/
  rest : List Char
  /-- The number of bytes before it. -/
  offset : Nat
deriving Inhabited

/-- The place a number of characters further on. -/
def Cursor.advance : Nat → Cursor → Cursor
  | n + 1, ⟨c :: rest, offset⟩ => advance n ⟨rest, offset + c.utf8Size⟩
  | _, c => c

/-- A token in its place. -/
structure Token where
  /-- The code of its terminal. -/
  terminal : Nat
  /-- The offset of its first byte. -/
  start : Nat
  /-- The place behind it. -/
  after : Cursor
deriving Inhabited

namespace Lexer

/-- What the grammar expects at a place. -/
structure Expectation where
  /-- The terminals that may come next. -/
  terminals : TerminalSet
  /-- Whether the reserved words are reserved here. -/
  reserves : Bool

/-- Whether a terminal is expected. -/
@[inline]
def Expectation.has (e : Expectation) (t : Terminal) : Bool :=
  e.terminals.meets (TerminalSet.ofList [t])

/-- A lexeme that might be taken. -/
structure Candidate where
  /-- The code of the terminal. -/
  terminal : Nat
  /-- The number of characters in front of it. -/
  skipped : Nat
  /-- Its length. -/
  length : Nat
  /-- Among lexemes of equal length, the one of highest rank is taken. -/
  rank : Nat

/-- The number of characters up to the end of a candidate. -/
def Candidate.reach (c : Candidate) : Nat := c.skipped + c.length

/-- The better of two candidates; an empty one is none. -/
def Candidate.better (best : Option Candidate) (c : Candidate) : Option Candidate :=
  if c.length == 0 then best
  else
    match best with
    | none => some c
    | some b =>
      if b.reach < c.reach || (b.reach == c.reach && b.rank < c.rank) then some c else best

/-- A token of a given length some characters behind a place. -/
def tokenAt (place : Cursor) (terminal skipped length : Nat) : Token :=
  let start := place.advance skipped
  ⟨terminal, start.offset, start.advance length⟩

/-! ## Tokens that depend on the layout -/

/-- The codes of the terminals that are looked up by class. -/
def codes (ts : List (Terminal × Measure)) : List (Nat × Measure) :=
  ts.map fun (t, m) => (t.code, m)

/-- The question mark of a conditional expression, behind any blanks. -/
def questionMark (place : Cursor) : Option Token :=
  let blanks := Lexeme.run isLayout place.rest
  if Layout.startsQuestion (place.rest.drop blanks) then
    some (tokenAt place Terminal.questionMark.code blanks 1)
  else none

/-- A token that depends on the layout. -/
def layoutToken (e : Expectation) (place : Cursor) : Option Token :=
  let text (t : Terminal) (length : Nat) : Option Token :=
    if length == 0 then none else some (tokenAt place t.code 0 length)
  if e.has .templateText then text .templateText (Layout.templateText place.rest)
  else
    let shown := if e.has .markupText then Layout.markupText place.rest else 0
    if shown != 0 then text .markupText shown
    else if e.has .omittedSemicolon then
      let answer := Layout.semicolon (!e.has (.fixed "||")) false place.rest
      if answer.omitted then some ⟨Terminal.omittedSemicolon.code, place.offset, place⟩
      else if !answer.commented && e.has .questionMark then questionMark place
      else none
    else if e.has .questionMark then questionMark place
    else if e.has (.fixed "||") || e.has .escape || e.has .regexPattern then none
    else
      let blanks := Lexeme.run isLayout place.rest
      let length := Layout.htmlComment (place.rest.drop blanks)
      if length == 0 then none
      else some (tokenAt place Terminal.htmlComment.code blanks length)

/-! ## Other tokens -/

/-- Texts that are taken as soon as there is any. -/
def eager : List (Nat × Measure) :=
  codes [(.doubleText, Lexeme.quotedText '"'), (.singleText, Lexeme.quotedText '\''),
    (.doubleAttributeText, Lexeme.attributeText '"'),
    (.singleAttributeText, Lexeme.attributeText '\''), (.regexClose, Lexeme.literal ['/'])]

/-- Classes that have to start right where the last token ended. -/
def adjacent : List (Nat × Measure) :=
  codes [(.escape, Lexeme.escape), (.regexPattern, Lexeme.regexPattern),
    (.regexFlags, Lexeme.regexFlags)]

/-- Classes that may start behind blanks. -/
def separate : List (Nat × Measure) :=
  codes [(.comment, Lexeme.comment), (.number, Lexeme.number), (.tagName, Lexeme.tagName),
    (.reference, Lexeme.reference), (.privateName, Lexeme.privateName),
    (.interpreterLine, Lexeme.interpreterLine), (.staticGet, Lexeme.staticGet)]

/-- The texts of some fixed terminals, with their codes. -/
def texts (fixed : List String) : List (Nat × List Char) :=
  fixed.map fun text => ((Terminal.fixed text).code, text.toList)

/-- Punctuation with its codes. -/
def punctuators : List (Nat × List Char) := texts Terminal.punctuators

/-- The operators that are words, with their codes. -/
def wordOperators : List (Nat × List Char) := texts Terminal.wordOperators

/-- The keywords with their codes. -/
def keywords : List (Nat × List Char) := texts Terminal.keywords

/-- The set of the reserved words. -/
def reservedWords : TerminalSet := .ofList (Terminal.reserved.map .fixed)

/-- The set of the terminals that are spelled like names. -/
def words : TerminalSet := .ofList (.identifier :: Terminal.keywords.map .fixed)

/-- The words that are reserved where the given things are expected. -/
def Expectation.reserved (e : Expectation) : TerminalSet := if e.reserves then reservedWords else 0

/-- The longest lexeme of some expected classes, if it is better than the best so far. -/
def measure (terminals : TerminalSet) (classes : List (Nat × Measure)) (skipped rank : Nat)
    (cs : List Char) (best : Option Candidate) : Option Candidate :=
  classes.foldl (fun best (code, m) =>
    if terminals.meets (TerminalSet.single code) then
      Candidate.better best ⟨code, skipped, m cs, rank⟩
    else best) best

/-- The longest of some expected fixed texts, if it is better than the best so far. -/
def measureTexts (terminals : TerminalSet) (fixed : List (Nat × List Char)) (skipped : Nat)
    (cs : List Char) (best : Option Candidate) : Option Candidate :=
  fixed.foldl (fun best (code, text) =>
    if text.isPrefixOf cs && terminals.meets (TerminalSet.single code) then
      Candidate.better best ⟨code, skipped, text.length, 2⟩
    else best) best

/-- The keyword with a given spelling. -/
def keyword? (word : List Char) : Option Nat := (keywords.find? (·.2 == word)).map (·.1)

/-- The best lexeme at a place. -/
def candidate (e : Expectation) (place : Cursor) : Option Candidate :=
  match measure e.terminals eager 0 0 place.rest none with
  | some c => some c
  | none =>
    let blanks := Lexeme.run isBlank place.rest
    let cs := place.rest.drop blanks
    let spelled := e.terminals.union e.reserved
    let best := measure e.terminals adjacent 0 1 place.rest none
    let best := measure (e.terminals.union (.ofList [.comment])) separate blanks 0 cs best
    let best := measureTexts e.terminals punctuators blanks cs best
    let best := measureTexts spelled wordOperators blanks cs best
    if spelled.meets words then
      Candidate.better best ⟨Terminal.identifier.code, blanks, Lexeme.name cs, 0⟩
    else best

/-- The terminal of a lexeme, which is a keyword if a name is spelled like one that is expected or
reserved. -/
def terminalOf (e : Expectation) (place : Cursor) (c : Candidate) : Nat :=
  if c.terminal == Terminal.identifier.code then
    match keyword? ((place.rest.drop c.skipped).take c.length) with
    | some k => if (e.terminals.union e.reserved).meets (TerminalSet.single k) then k
      else c.terminal
    | none => c.terminal
  else c.terminal

/-- The next token behind a place, if an expected one is there. -/
def next (e : Expectation) (place : Cursor) : Option Token :=
  match layoutToken e place with
  | some t => some t
  | none =>
    match candidate e place with
    | some c => some (tokenAt place (terminalOf e place c) c.skipped c.length)
    | none =>
      if place.rest.all isBlank then
        let last := place.advance place.rest.length
        some ⟨Terminal.finish.code, last.offset, last⟩
      else none

end Lexer

/-- What a state expects. -/
def State.expectation (g : Table) (s : State) : Lexer.Expectation :=
  ⟨s.expected g, s.reservesWords g⟩

end JsxTagger.Grammar
