import JsxTagger.Grammar.Terminal
import JsxTagger.Syntax.Kind

/-!
# Grammar expressions

A grammar is a list of rules, and a rule is a name with alternatives. The body of an alternative is
an expression built from steps by sequence and choice; `Expr.sequences` lists the step sequences
that it stands for. A step names a terminal or a rule, and says how the node it yields is called and
which field of its parent it fills.

Repetition is not an expression: a rule with the role `Role.repetition` stands for one or more
occurrences of its body, and `many` refers to such a rule.
-/

namespace JsxTagger.Grammar

open Syntax

/-- What a step of a rule stands for. -/
inductive Symbol where
  /-- A token. -/
  | terminal (t : Terminal)
  /-- Another rule, by name. -/
  | rule (name : String)
deriving DecidableEq, Hashable, Repr, Inhabited

/-- How a node appears in the tree. -/
structure Shown where
  /-- The kind of the node. -/
  kind : Kind
  /-- Whether the node is named. -/
  named : Bool := true
deriving DecidableEq, Repr, Inhabited

/-- One step of a rule. -/
structure Step where
  /-- What has to be read. -/
  symbol : Symbol
  /-- How the node appears, if not under its own name. -/
  shown : Option Shown := none
  /-- The field of the parent that the node fills. -/
  field : Option Field := none
  /-- No word is reserved where this step reads a name. -/
  anyWord : Bool := false
deriving DecidableEq, Repr, Inhabited

/-- The body of an alternative. -/
inductive Expr where
  /-- Nothing. -/
  | blank
  /-- A single step. -/
  | step (s : Step)
  /-- One expression after another. -/
  | seq (first second : Expr)
  /-- Either of two expressions. -/
  | alt (left right : Expr)
deriving Inhabited

namespace Expr

/-- The sequences of steps that an expression stands for. -/
def sequences : Expr → List (List Step)
  | blank => [[]]
  | step s => [[s]]
  | seq first second =>
    first.sequences.flatMap fun head => second.sequences.map fun tail => head ++ tail
  | alt left right => left.sequences ++ right.sequences

/-- Changes every step of an expression. -/
def mapSteps (f : Step → Step) : Expr → Expr
  | blank => blank
  | step s => step (f s)
  | seq first second => seq (first.mapSteps f) (second.mapSteps f)
  | alt left right => alt (left.mapSteps f) (right.mapSteps f)

/-- The expression fills a field of the node around it. -/
def fills (field : String) (e : Expr) : Expr :=
  e.mapSteps fun s => { s with field := some (.ofName field) }

/-- The nodes of the expression appear as named nodes of another kind. -/
def shownAs (kind : String) (e : Expr) : Expr :=
  e.mapSteps fun s => { s with shown := some { kind := .ofName kind } }

/-- The nodes of the expression appear as anonymous nodes of another kind. -/
def shownAsToken (kind : String) (e : Expr) : Expr :=
  e.mapSteps fun s => { s with shown := some { kind := .ofName kind, named := false } }

/-- Names in the expression may be any word. -/
def withAnyWord (e : Expr) : Expr := e.mapSteps fun s => { s with anyWord := true }

end Expr

/-- Punctuation or a keyword is written as its text. -/
instance : Coe String Expr := ⟨fun text => .step { symbol := .terminal (.fixed text) }⟩

/-- A class of tokens is written as its terminal. -/
instance : Coe Terminal Expr := ⟨fun t => .step { symbol := .terminal t }⟩

/-- A reference to a rule. -/
def ref (name : String) : Expr := .step { symbol := .rule name }

/-- One expression after another. -/
def sequence : List Expr → Expr
  | [] => .blank
  | [e] => e
  | e :: es => .seq e (sequence es)

/-- One of several expressions. -/
def oneOf : List Expr → Expr
  | [] => .blank
  | [e] => e
  | e :: es => .alt e (oneOf es)

/-- One of several rules. -/
def oneOfRules (names : List String) : Expr := oneOf (names.map ref)

/-- An expression that may be left out. -/
def optional (e : Expr) : Expr := .alt e .blank

/-- Any number of occurrences of the body of a repetition. -/
def many (repetition : String) : Expr := optional (ref repetition)

/-! ## Rules -/

/-- The side on which operations of equal strength group. -/
inductive Side where
  | left
  | right
deriving DecidableEq, Repr

/-- One alternative of a rule. -/
structure Alternative where
  /-- What the alternative consists of. -/
  body : Expr
  /-- The name of its strength, see `Ranking`. -/
  strength : Option String := none
  /-- The side on which it groups with its equals. -/
  side : Option Side := none
  /-- Of two readings of the same text the one with the greater total weight is taken. -/
  weight : Int := 0

instance : Coe Expr Alternative := ⟨fun body => { body }⟩

/-- What becomes of the nodes of a rule. -/
inductive Role where
  /-- They appear in the tree. -/
  | shown
  /-- Their children take their place. -/
  | hidden
  /-- The rule stands for one or more occurrences of its body, whose children take its place. -/
  | repetition
deriving DecidableEq, Repr

/-- A rule of a grammar. -/
structure Rule where
  /-- The name of the rule, and of its nodes. -/
  name : String
  /-- What becomes of its nodes. -/
  role : Role
  /-- The alternatives. -/
  alternatives : List Alternative

/-- A rule whose nodes appear in the tree. -/
def rule (name : String) (alternatives : List Alternative) : Rule :=
  ⟨name, .shown, alternatives⟩

/-- A rule whose nodes do not appear in the tree. -/
def hidden (name : String) (alternatives : List Alternative) : Rule :=
  ⟨name, .hidden, alternatives⟩

/-- One or more occurrences of an expression. -/
def repetition (name : String) (body : Expr) : Rule :=
  ⟨name, .repetition, [sequence [ref name, ref name], body]⟩

/-- An entry of a ranking. -/
inductive Ranked where
  /-- The alternatives with a given strength. -/
  | strength (name : String)
  /-- The alternatives of a given rule. -/
  | rule (name : String)
deriving DecidableEq, Repr

/-- Strengths and rules, the strongest first. Where the grammar could go on in two ways, the
stronger one is taken; what no ranking compares is equally strong. -/
abbrev Ranking := List Ranked

end JsxTagger.Grammar
