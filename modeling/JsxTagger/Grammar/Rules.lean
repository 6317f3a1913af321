import JsxTagger.Grammar.Rules.Callable
import JsxTagger.Grammar.Rules.Expression
import JsxTagger.Grammar.Rules.Markup
import JsxTagger.Grammar.Rules.Module

/-!
# The grammar of JavaScript with markup

All rules, and the rankings that settle which of two ways to go on is taken. The order of the rules
matters in one way only: of two readings of the same text with equal weights, the one whose first
difference is a rule of lower place is taken.
-/

namespace JsxTagger.Grammar

/-- The rules of the grammar; the first one describes a whole file. -/
def rules : List Rule :=
  Rules.modules ++ Rules.statements ++ Rules.expressionRules ++ Rules.markupRules ++
    Rules.patterns ++ Rules.callables ++ Rules.names

/-- What binds more strongly than what. -/
def rankings : List Ranking :=
  [[.strength "member", .strength "template call", .strength "call", .rule "update_expression",
    .strength "unary", .strength "power", .strength "times", .strength "plus", .strength "shift",
    .strength "relation", .strength "equality", .strength "bitwise and", .strength "bitwise xor",
    .strength "bitwise or", .strength "logical and", .strength "logical or",
    .strength "conditional", .rule "sequence_expression", .rule "arrow_function"],
   [.strength "assign", .rule "primary_expression"],
   [.strength "member", .strength "template call", .strength "new", .strength "call",
    .rule "expression"],
   [.strength "declare", .strength "literal"],
   [.rule "primary_expression", .rule "statement_block", .strength "object"],
   [.rule "meta_property", .rule "import"],
   [.rule "import_statement", .rule "import"],
   [.rule "export_statement", .rule "primary_expression"],
   [.rule "lexical_declaration", .rule "primary_expression"]]

end JsxTagger.Grammar
