import JsxTagger.Grammar.Rules.Statement

/-!
# Rules for expressions
-/

namespace JsxTagger.Grammar.Rules

/-- The binary operators with their strengths. -/
def binaryOperators : List (String × String) :=
  [("&&", "logical and"), ("||", "logical or"), (">>", "shift"), (">>>", "shift"), ("<<", "shift"),
   ("&", "bitwise and"), ("^", "bitwise xor"), ("|", "bitwise or"), ("+", "plus"), ("-", "plus"),
   ("*", "times"), ("/", "times"), ("%", "times"), ("**", "power"), ("<", "relation"),
   ("<=", "relation"), ("==", "equality"), ("===", "equality"), ("!=", "equality"),
   ("!==", "equality"), (">=", "relation"), (">", "relation"), ("??", "conditional"),
   ("instanceof", "relation"), ("in", "relation")]

/-- An operation with a binary operator. Only a power groups to the right, and only the left side
of `in` may be a private name. -/
def binary (operator strength : String) : Alternative where
  body :=
    let left := if operator == "in" then oneOf [ref "expression", Terminal.privateName]
      else ref "expression"
    sequence [left.fills "left", (operator : Expr).fills "operator",
      (ref "expression").fills "right"]
  strength := some strength
  side := some (if operator == "**" then .right else .left)

/-- The operators that change what is on their left. -/
def assignmentOperators : Expr :=
  oneOf ["+=", "-=", "*=", "/=", "%=", "^=", "&=", "|=", ">>=", ">>>=", "<<=", "**=", "&&=",
    "||=", "??="]

/-- `++` and `--`. -/
def updateOperators : Expr := (oneOf ["++", "--"]).fills "operator"

/-- A value or `...` and a value. -/
def element : Expr := oneOfRules ["expression", "spread_element"]

/-- What `new` constructs. -/
def constructed : Expr :=
  (oneOfRules ["primary_expression", "new_expression"]).fills "constructor"

/-- Expressions. -/
def expressionRules : List Rule :=
  [hidden "expression"
     [oneOfRules ["primary_expression", "jsx_element", "jsx_self_closing_element",
       "assignment_expression", "augmented_assignment_expression", "await_expression",
       "unary_expression", "binary_expression", "ternary_expression", "update_expression",
       "new_expression", "yield_expression"]],
   hidden "primary_expression"
     [oneOf [oneOfRules ["subscript_expression", "member_expression", "parenthesized_expression"],
       reference, "this", "super", Terminal.number, oneOfRules ["string", "template_string",
       "regex"], "true", "false", "null", oneOfRules ["object", "array", "function_expression",
       "arrow_function", "generator_function", "class", "meta_property", "call_expression"]]],
   rule "yield_expression"
     [{ body := sequence ["yield",
          oneOf [sequence ["*", ref "expression"], optional (ref "expression")]]
        side := some .right }],
   rule "object"
     [{ body := bracketed "\x7b" member "more_members" "\x7d", strength := some "object" }],
   repetition "more_members" (sequence [",", optional member]),
   rule "array" [bracketed "[" element "more_elements" "]"],
   repetition "more_elements" (sequence [",", optional element]),
   rule "call_expression"
     [{ body := sequence [(oneOfRules ["expression", "import"]).fills "function",
          (ref "arguments").fills "arguments"]
        strength := some "call" },
      { body := sequence [(oneOfRules ["primary_expression", "new_expression"]).fills "function",
          (ref "template_string").fills "arguments"]
        strength := some "template call" },
      { body := sequence [(ref "primary_expression").fills "function",
          ("?." : Expr).fills "optional_chain", (ref "arguments").fills "arguments"]
        strength := some "member" }],
   rule "new_expression"
     [{ body := sequence ["new", constructed, (ref "arguments").fills "arguments"]
        strength := some "new", side := some .right, weight := 1 },
      { body := sequence ["new", constructed], strength := some "new", side := some .right }],
   rule "await_expression"
     [{ body := sequence ["await", ref "expression"], strength := some "unary" }],
   rule "member_expression"
     [{ body := sequence
          [(oneOfRules ["expression", "primary_expression", "import"]).fills "object",
           oneOf [".", ("?." : Expr).fills "optional_chain"],
           (oneOf [Terminal.privateName, ((Terminal.identifier : Expr).shownAs
             "property_identifier").withAnyWord]).fills "property"]
        strength := some "member" }],
   rule "subscript_expression"
     [{ body := sequence [(oneOfRules ["expression", "primary_expression"]).fills "object",
          optional (("?." : Expr).fills "optional_chain"), "[", expressions.fills "index", "]"]
        strength := some "member", side := some .right }],
   rule "assignment_expression"
     [{ body := sequence
          [(oneOf [ref "parenthesized_expression", assignable]).fills "left", "=",
           (ref "expression").fills "right"]
        strength := some "assign", side := some .right }],
   hidden "_augmented_assignment_lhs"
     [oneOf [ref "member_expression", ref "subscript_expression",
       contextualWord.shownAs "identifier", Terminal.identifier, ref "parenthesized_expression"]],
   rule "augmented_assignment_expression"
     [{ body := sequence [(ref "_augmented_assignment_lhs").fills "left",
          assignmentOperators.fills "operator", (ref "expression").fills "right"]
        strength := some "assign", side := some .right }],
   hidden "_initializer" [sequence ["=", (ref "expression").fills "value"]],
   rule "spread_element" [sequence ["...", ref "expression"]],
   rule "ternary_expression"
     [{ body := sequence [(ref "expression").fills "condition",
          (Terminal.questionMark : Expr).shownAsToken "?", (ref "expression").fills "consequence",
          ":", (ref "expression").fills "alternative"]
        strength := some "conditional", side := some .right }],
   rule "binary_expression" (binaryOperators.map fun (operator, strength) =>
     binary operator strength),
   rule "unary_expression"
     [{ body := sequence
          [(oneOf ["!", "~", "-", "+", "typeof", "void", "delete"]).fills "operator",
           (ref "expression").fills "argument"]
        strength := some "unary", side := some .left }],
   rule "update_expression"
     [{ body := oneOf
          [sequence [(ref "expression").fills "argument", updateOperators],
           sequence [updateOperators, (ref "expression").fills "argument"]]
        side := some .left }],
   rule "sequence_expression"
     [{ body := separated (ref "expression") "more_expressions", side := some .right }],
   repetition "more_expressions" (sequence [",", ref "expression"]),
   rule "meta_property" [sequence ["new", ".", "target"], sequence ["import", ".", "meta"]],
   rule "arguments" [bracketed "(" element "more_elements" ")"],
   rule "pair"
     [sequence [(ref "_property_name").fills "key", ":", (ref "expression").fills "value"]]]
where
  /-- A member of an object. -/
  member : Expr :=
    oneOf [ref "pair", ref "spread_element", ref "method_definition",
      anyName.shownAs "shorthand_property_identifier"]

end JsxTagger.Grammar.Rules
