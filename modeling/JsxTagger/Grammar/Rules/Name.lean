import JsxTagger.Grammar.Expr

/-!
# Rules for names, lists and literals

What the rules for statements, expressions, patterns and markup share: where names and omitted
semicolons may stand, lists between brackets, and the literals.
-/

namespace JsxTagger.Grammar.Rules

/-- Keywords that may be names in most places. -/
def contextualWord : Expr := oneOf ["get", "set", "async", "await", "static", "export", "let"]

/-- A name, which may be a keyword that is not reserved there. -/
def anyName : Expr := oneOf [Terminal.identifier, contextualWord]

/-- What an expression may refer to by name. -/
def reference : Expr :=
  oneOf ["undefined", Terminal.identifier, contextualWord.shownAs "identifier"]

/-- What an assignment may have on its left. -/
def assignable : Expr :=
  oneOf [ref "member_expression", ref "subscript_expression", reference,
    ref "_destructuring_pattern"]

/-- A semicolon, written or left out. -/
def semicolon : Expr := oneOf [Terminal.omittedSemicolon, ";"]

/-- A semicolon that is left out or not meant at all. -/
def lineEnd : Expr := optional Terminal.omittedSemicolon

/-- One or more items with commas between them; the repetition is `, item`. -/
def separated (item : Expr) (more : String) : Expr := sequence [item, many more]

/-- Items between brackets with commas between them, any of which may be missing. -/
def bracketed (opening : String) (item : Expr) (more closing : String) : Expr :=
  sequence [opening, optional (separated (optional item) more), closing]

/-- Items between braces with commas between them and perhaps one behind them. -/
def braced (item : Expr) (more : String) : Expr :=
  sequence ["\x7b", optional (separated item more), optional ",", "\x7d"]

/-- Literals and the names of properties. -/
def names : List Rule :=
  [rule "string"
     [sequence ["\"", many "double_string_parts", "\""],
      sequence ["'", many "single_string_parts", "'"]],
   repetition "double_string_parts"
     (oneOf [(Terminal.doubleText : Expr).shownAs "string_fragment", Terminal.escape]),
   repetition "single_string_parts"
     (oneOf [(Terminal.singleText : Expr).shownAs "string_fragment", Terminal.escape]),
   rule "template_string" [sequence ["`", many "template_parts", "`"]],
   repetition "template_parts"
     (oneOf [(Terminal.templateText : Expr).shownAs "string_fragment", Terminal.escape,
       ref "template_substitution"]),
   rule "template_substitution"
     [sequence ["$\x7b", oneOfRules ["expression", "sequence_expression"], "\x7d"]],
   rule "regex"
     [sequence ["/", (Terminal.regexPattern : Expr).fills "pattern", Terminal.regexClose,
       optional ((Terminal.regexFlags : Expr).fills "flags")]],
   hidden "_property_name"
     [(oneOf [anyName.shownAs "property_identifier", Terminal.privateName, ref "string",
       Terminal.number, ref "computed_property_name"]).withAnyWord],
   rule "computed_property_name" [sequence ["[", ref "expression", "]"]]]

end JsxTagger.Grammar.Rules
