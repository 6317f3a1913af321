import JsxTagger.Grammar.Rules

/-!
# The grammar in tabular form

Symbols get codes, terminals first and rules behind them, and the rules are spelled out as
`Production`s. `Table.ofRules` also works out what is needed to follow all readings of a text at
once:

* which terminals a symbol can start with, and
* for a rule `r` and a symbol `x`, the productions that can be under way once `x` has been read
  where `r` was due, together with what may follow them: the `Opening`s of `r` with `x`.
-/

namespace JsxTagger.Grammar

open Syntax

/-- A step of a production. -/
structure CodedStep where
  /-- The code of the symbol that has to be read. -/
  symbol : Nat
  /-- How the node appears, if not under its own name. -/
  shown : Option Shown
  /-- The field of the parent that the node fills. -/
  field : Option Field
  /-- No word is reserved where this step reads a name. -/
  anyWord : Bool
deriving DecidableEq, Inhabited

/-- One way to read a rule. -/
structure Production where
  /-- The code of the rule. -/
  rule : Nat
  /-- What has to be read, in order. -/
  steps : Array CodedStep
  /-- The place in each ranking. -/
  places : List (Option Nat)
  /-- The side on which it groups with its equals. -/
  side : Option Side
  /-- Its weight. -/
  weight : Int
deriving Inhabited

/-- What may come after a reading of a rule. -/
structure Follow where
  /-- The terminals that may come next. -/
  terminals : TerminalSet := 0
  /-- If a name comes next, it may be any word. -/
  anyWord : Bool := false
  /-- What follows the rule that was due may come next too. -/
  inherits : Bool := false
deriving DecidableEq, Inhabited

/-- Whatever either of two may be followed by. -/
def Follow.union (a b : Follow) : Follow :=
  ⟨a.terminals.union b.terminals, a.anyWord || b.anyWord, a.inherits || b.inherits⟩

/-- A production whose first step, if it has any, has been read where some rule was due. -/
structure Opening where
  /-- The index of the production. -/
  production : Nat
  /-- What may come after it. -/
  follow : Follow
deriving Inhabited

/-- A grammar in tabular form. -/
structure Table where
  /-- All productions. The last one reads a whole text. -/
  productions : Array Production
  /-- How the node of each symbol appears, unless it does not. -/
  shown : Array (Option Shown)
  /-- The codes of the repetitions. -/
  repetitions : List Nat
  /-- The terminals that each symbol can start with. -/
  first : Array TerminalSet
  /-- Whether each symbol can start with a name that may be any word. -/
  anyWordFirst : Array Bool
  /-- The openings of each symbol with each symbol, in the order of the productions. -/
  openings : Array (Array (List Opening))
  /-- The productions without steps that can be read where a symbol is due. -/
  empties : Array (List Opening)
deriving Inhabited

/-! ## Codes -/

/-- The number of terminals. -/
def terminalCount : Nat := Terminal.all.length

/-- The code of a symbol in a grammar with the given rules. -/
def symbolCode (names : List String) : Symbol → Nat
  | .terminal t => t.code
  | .rule name => terminalCount + names.idxOf name

/-- How the node of a terminal appears. -/
def Terminal.shown : Terminal → Option Shown
  | .fixed "?." => some ⟨.other "optional_chain", true⟩
  | .fixed text =>
    some ⟨.ofName text, ["this", "super", "true", "false", "null", "undefined"].contains text⟩
  | .finish | .omittedSemicolon | .templateText | .questionMark => none
  | .identifier => some ⟨.identifier, true⟩
  | .privateName => some ⟨.other "private_property_identifier", true⟩
  | .tagName => some ⟨.other "jsx_identifier", true⟩
  | .number => some ⟨.other "number", true⟩
  | .comment => some ⟨.comment, true⟩
  | .interpreterLine => some ⟨.other "hash_bang_line", true⟩
  | .doubleText | .singleText | .doubleAttributeText | .singleAttributeText =>
    some ⟨.other "string_fragment", true⟩
  | .escape => some ⟨.other "escape_sequence", true⟩
  | .reference => some ⟨.other "html_character_reference", true⟩
  | .regexPattern => some ⟨.other "regex_pattern", true⟩
  | .regexClose => some ⟨.other "/", false⟩
  | .regexFlags => some ⟨.other "regex_flags", true⟩
  | .staticGet => some ⟨.other "static get", false⟩
  | .htmlComment => some ⟨.other "html_comment", true⟩
  | .markupText => some ⟨.other "jsx_text", true⟩

/-- How the node of a rule appears. -/
def Rule.shown (r : Rule) : Option Shown :=
  match r.role with
  | .shown => some { kind := .ofName r.name }
  | .hidden | .repetition => none

/-- The place of an alternative of a rule in a ranking. -/
def Ranking.place? (ranking : Ranking) (rule : String) (strength : Option String) : Option Nat :=
  ranking.findIdx? fun
    | .strength s => strength == some s
    | .rule r => r == rule

/-- The productions of a rule. -/
def Rule.productions (names : List String) (rankings : List Ranking) (r : Rule) :
    List Production :=
  (r.alternatives.flatMap fun a => a.body.sequences.map fun steps =>
    (steps, a.strength, a.side, a.weight)).eraseDups.map fun (steps, strength, side, weight) =>
      { rule := symbolCode names (.rule r.name)
        steps := (steps.map fun s =>
          ⟨symbolCode names s.symbol, s.shown, s.field, s.anyWord⟩).toArray
        places := rankings.map (·.place? r.name strength)
        side, weight }

/-! ## First and following terminals -/

/-- Applies a function until nothing changes, at most the given number of times. -/
def settle {α : Type} [BEq α] (f : α → α) : Nat → α → α
  | 0, a => a
  | n + 1, a =>
    let b := f a
    if b == a then a else settle f n b

/-- Adds to the first terminals of each rule those of the first steps of its productions. -/
def growFirst (productions : Array Production) (first : Array TerminalSet) :
    Array TerminalSet :=
  productions.foldl (fun first p =>
    match p.steps[0]? with
    | some s => first.modify p.rule (·.union (first.getD s.symbol 0))
    | none => first) first

/-- Whether a step can start with a name that may be any word. -/
def CodedStep.startsAnyWord (anyWordFirst : Array Bool) (s : CodedStep) : Bool :=
  if s.symbol == Terminal.identifier.code then s.anyWord else anyWordFirst.getD s.symbol false

/-- Marks the rules with a production that can start with a name that may be any word. -/
def growAnyWordFirst (productions : Array Production) (marked : Array Bool) : Array Bool :=
  productions.foldl (fun marked p =>
    match p.steps[0]? with
    | some s => marked.modify p.rule (· || s.startsAnyWord marked)
    | none => marked) marked

/-- What may follow the step at a place of a production, if `outer` may follow the production. -/
def Production.followAt (p : Production) (first : Array TerminalSet) (anyWordFirst : Array Bool)
    (dot : Nat) (outer : Follow) : Follow :=
  match p.steps[dot + 1]? with
  | some s => ⟨first.getD s.symbol 0, s.startsAnyWord anyWordFirst, false⟩
  | none => outer

/-- Passes on what may follow the rules that can start where some rule is due, from each to the
rules that its productions start with. -/
def growFollows (productions : Array Production) (first : Array TerminalSet)
    (anyWordFirst : Array Bool) (follows : Array (Option Follow)) : Array (Option Follow) :=
  productions.foldl (fun follows p =>
    match follows.getD p.rule none, p.steps[0]? with
    | some outer, some s =>
      let inner := p.followAt first anyWordFirst 0 outer
      follows.modify s.symbol fun old => some ((old.getD {}).union inner)
    | _, _ => follows) follows

/-- For every symbol that can start where the given one is due, what may follow it. -/
def followsWithin (symbols : Nat) (chains : Array Production) (first : Array TerminalSet)
    (anyWordFirst : Array Bool) (symbol : Nat) : Array (Option Follow) :=
  settle (growFollows chains first anyWordFirst) symbols
    ((Array.replicate symbols none).modify symbol fun _ => some { inherits := true })

/-- The openings with each symbol, where the rules that can start have the given follows. -/
def openingsWith (symbols : Nat) (productions : Array Production)
    (follows : Array (Option Follow)) : Array (List Opening) :=
  productions.size.fold (fun i _ found =>
    let index := productions.size - 1 - i
    let p := productions.getD index default
    match follows.getD p.rule none, p.steps[0]? with
    | some follow, some s => found.modify s.symbol (⟨index, follow⟩ :: ·)
    | _, _ => found) (Array.replicate symbols [])

/-- The productions without steps, where the rules that can start have the given follows. -/
def emptiesWith (productions : Array Production) (follows : Array (Option Follow)) :
    List Opening :=
  (List.range productions.size).filterMap fun index =>
    let p := productions.getD index default
    match follows.getD p.rule none with
    | some follow => if p.steps.isEmpty then some ⟨index, follow⟩ else none
    | none => none

/-- The table of a grammar. The first rule describes a whole text. -/
def Table.ofRules (rules : List Rule) (rankings : List Ranking) : Table :=
  let names := rules.map (·.name)
  let symbols := terminalCount + rules.length + 1
  let whole : Production :=
    { rule := symbols - 1, steps := #[⟨terminalCount, none, none, false⟩]
      places := rankings.map fun _ => none, side := none, weight := 0 }
  let productions := (rules.flatMap (·.productions names rankings)).toArray.push whole
  let first := settle (growFirst productions) symbols
    ((Array.range symbols).map fun i => if i < terminalCount then TerminalSet.single i else 0)
  let anyWordFirst :=
    settle (growAnyWordFirst productions) symbols (Array.replicate symbols false)
  let chains := productions.filter fun p => p.steps.any (terminalCount ≤ ·.symbol) 0 1
  let follows := (Array.range symbols).map fun i =>
    if i < terminalCount then #[] else followsWithin symbols chains first anyWordFirst i
  { productions
    shown := (Terminal.all.map Terminal.shown ++ rules.map Rule.shown).toArray.push none
    repetitions := (rules.filter (·.role == .repetition)).map fun r =>
      symbolCode names (.rule r.name)
    first, anyWordFirst
    openings := follows.map (openingsWith symbols productions)
    empties := follows.map (emptiesWith productions) }

/-- The table of the grammar. -/
def table : Table := .ofRules rules rankings

end JsxTagger.Grammar
