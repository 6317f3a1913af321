import JsxTagger.Grammar.Rules.Pattern

/-!
# Rules for functions, classes and decorators
-/

namespace JsxTagger.Grammar.Rules

/-- The parameters of a function. -/
def parameters : Expr := (ref "formal_parameters").fills "parameters"

/-- The body of a function. -/
def functionBody : Expr := (ref "statement_block").fills "body"

/-- A name that a declaration binds. -/
def boundName : Expr := (Terminal.identifier : Expr).fills "name"

/-- A function: its words, its name, its parameters and its body. -/
def function (words name : Expr) : Expr :=
  sequence [optional "async", words, name, parameters, functionBody]

/-- A class from its decorators to its body. -/
def classWith (name : Expr) : Expr :=
  sequence [many "decorators", "class", name, optional (ref "class_heritage"),
    (ref "class_body").fills "body"]

/-- A name of a decorator, with or without dots. -/
def decoratorName : Expr :=
  oneOf [Terminal.identifier, (ref "decorator_member_expression").shownAs "member_expression"]

/-- Functions, classes and decorators. -/
def callables : List Rule :=
  [rule "class" [{ body := classWith (optional boundName), strength := some "literal" }],
   rule "class_declaration"
     [{ body := sequence [classWith boundName, lineEnd], strength := some "declare" }],
   rule "class_heritage" [sequence ["extends", ref "expression"]],
   rule "function_expression"
     [{ body := function "function" (optional boundName), strength := some "literal" }],
   rule "function_declaration"
     [{ body := sequence [function "function" boundName, lineEnd]
        strength := some "declare", side := some .right }],
   rule "generator_function"
     [{ body := function (sequence ["function", "*"]) (optional boundName)
        strength := some "literal" }],
   rule "generator_function_declaration"
     [{ body := sequence [function (sequence ["function", "*"]) boundName, lineEnd]
        strength := some "declare", side := some .right }],
   rule "arrow_function"
     [sequence [optional "async",
       oneOf [(oneOf [contextualWord.shownAs "identifier", Terminal.identifier]).fills "parameter",
         parameters],
       "=>", (oneOfRules ["expression", "statement_block"]).fills "body"]],
   rule "decorator"
     [sequence ["@",
       oneOf [decoratorName, (ref "decorator_call_expression").shownAs "call_expression"]]],
   repetition "decorators" ((ref "decorator").fills "decorator"),
   rule "decorator_member_expression"
     [{ body := sequence [decoratorName.fills "object", ".",
          ((Terminal.identifier : Expr).shownAs "property_identifier").fills "property"]
        strength := some "member" }],
   rule "decorator_call_expression"
     [{ body := sequence [decoratorName.fills "function", (ref "arguments").fills "arguments"]
        strength := some "call" }],
   rule "class_body" [sequence ["\x7b", many "class_members", "\x7d"]],
   repetition "class_members"
     (oneOf
       [sequence [(ref "method_definition").fills "member", optional ";"],
        sequence [(ref "field_definition").fills "member", semicolon],
        (ref "class_static_block").fills "member", ";"]),
   rule "field_definition"
     [sequence [many "decorators", optional "static", (ref "_property_name").fills "property",
       optional (ref "_initializer")]],
   rule "formal_parameters"
     [sequence ["(",
       optional (sequence [separated patternWithDefault "more_parameters", optional ","]), ")"]],
   repetition "more_parameters" (sequence [",", patternWithDefault]),
   rule "class_static_block" [sequence ["static", (ref "statement_block").fills "body"]],
   rule "method_definition"
     [sequence [many "decorators",
       optional (oneOf ["static", (Terminal.staticGet : Expr).shownAsToken "static get"]),
       optional "async", optional (oneOf ["get", "set", "*"]),
       (ref "_property_name").fills "name", parameters, functionBody]]]

end JsxTagger.Grammar.Rules
