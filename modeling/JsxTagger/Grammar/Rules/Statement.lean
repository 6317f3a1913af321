import JsxTagger.Grammar.Rules.Name

/-!
# Rules for statements
-/

namespace JsxTagger.Grammar.Rules

/-- Expressions with commas between them. -/
def expressions : Expr := oneOfRules ["expression", "sequence_expression"]

/-- A name or a destructuring pattern. -/
def bindingTarget : Expr := oneOf [Terminal.identifier, ref "_destructuring_pattern"]

/-- The words that open a declaration of resources. -/
def usingWords : Expr := oneOf ["using", sequence ["await", "using"]]

/-- What a declaration with the given words consists of. -/
def declares (words : Expr) : Expr :=
  sequence [words, separated (ref "variable_declarator") "more_declarators", semicolon]

/-- A label in front of a statement. -/
def label : Expr := (anyName.shownAs "statement_identifier").fills "label"

/-- A jump, to a label if it names one. -/
def jump (word : String) : Expr :=
  sequence [word,
    optional (((Terminal.identifier : Expr).shownAs "statement_identifier").fills "label"),
    semicolon]

/-- A condition or a subject between parentheses. -/
def parenthesized (field : String) : Expr := (ref "parenthesized_expression").fills field

/-- The statement that another statement governs. -/
def governed : Expr := (ref "statement").fills "body"

/-- What a loop over the members of something binds. -/
def loopTarget : Expr :=
  oneOf
    [(oneOf [assignable, ref "parenthesized_expression"]).fills "left",
     sequence [("var" : Expr).fills "kind", bindingTarget.fills "left",
       optional (ref "_initializer")],
     sequence [(oneOf ["let", "const"]).fills "kind", bindingTarget.fills "left", lineEnd],
     sequence [usingWords.fills "kind", bindingTarget.fills "left", lineEnd]]

/-- Statements, declarations of variables and the clauses of statements. -/
def statements : List Rule :=
  [hidden "statement"
     [oneOfRules ["export_statement", "import_statement", "debugger_statement",
       "expression_statement", "declaration", "statement_block", "if_statement",
       "switch_statement", "for_statement", "for_in_statement", "while_statement",
       "do_statement", "try_statement", "with_statement", "break_statement",
       "continue_statement", "return_statement", "throw_statement", "empty_statement",
       "labeled_statement"]],
   rule "expression_statement" [sequence [expressions, semicolon]],
   rule "variable_declaration" [declares "var"],
   rule "lexical_declaration" [declares ((oneOf ["let", "const"]).fills "kind")],
   rule "using_declaration" [declares (usingWords.fills "kind")],
   repetition "more_declarators" (sequence [",", ref "variable_declarator"]),
   rule "variable_declarator"
     [sequence [bindingTarget.fills "name", optional (ref "_initializer")]],
   rule "statement_block"
     [{ body := sequence ["\x7b", many "statements", "\x7d", lineEnd], side := some .right }],
   rule "else_clause" [sequence ["else", ref "statement"]],
   rule "if_statement"
     [{ body := sequence ["if", parenthesized "condition", (ref "statement").fills "consequence",
          optional ((ref "else_clause").fills "alternative")]
        side := some .right }],
   rule "switch_statement"
     [sequence ["switch", parenthesized "value", (ref "switch_body").fills "body"]],
   rule "for_statement"
     [sequence ["for", "(",
       oneOf
         [(oneOfRules ["lexical_declaration", "variable_declaration"]).fills "initializer",
          sequence [expressions.fills "initializer", ";"],
          (ref "empty_statement").fills "initializer"],
       (oneOf [sequence [expressions, ";"], ref "empty_statement"]).fills "condition",
       optional (expressions.fills "increment"), ")", governed]],
   rule "for_in_statement" [sequence ["for", optional "await", ref "_for_header", governed]],
   hidden "_for_header"
     [sequence ["(", loopTarget, (oneOf ["in", "of"]).fills "operator",
       expressions.fills "right", ")"]],
   rule "while_statement" [sequence ["while", parenthesized "condition", governed]],
   rule "do_statement"
     [{ body := sequence ["do", governed, "while", parenthesized "condition", optional semicolon]
        side := some .right }],
   rule "try_statement"
     [sequence ["try", (ref "statement_block").fills "body",
       optional ((ref "catch_clause").fills "handler"),
       optional ((ref "finally_clause").fills "finalizer")]],
   rule "with_statement" [sequence ["with", parenthesized "object", governed]],
   rule "break_statement" [jump "break"],
   rule "continue_statement" [jump "continue"],
   rule "debugger_statement" [sequence ["debugger", semicolon]],
   rule "return_statement" [sequence ["return", optional expressions, semicolon]],
   rule "throw_statement" [sequence ["throw", expressions, semicolon]],
   rule "empty_statement" [(";" : Expr)],
   rule "labeled_statement" [{ body := sequence [label, ":", governed], weight := -1 }],
   rule "switch_body" [sequence ["\x7b", many "switch_cases", "\x7d"]],
   repetition "switch_cases" (oneOfRules ["switch_case", "switch_default"]),
   rule "switch_case"
     [sequence ["case", expressions.fills "value", ":", (many "statements").fills "body"]],
   rule "switch_default" [sequence ["default", ":", (many "statements").fills "body"]],
   rule "catch_clause"
     [sequence ["catch", optional (sequence ["(", bindingTarget.fills "parameter", ")"]),
       (ref "statement_block").fills "body"]],
   rule "finally_clause" [sequence ["finally", (ref "statement_block").fills "body"]],
   rule "parenthesized_expression" [sequence ["(", expressions, ")"]]]

end JsxTagger.Grammar.Rules
