import JsxTagger.Grammar.Rules.Name

/-!
# Rules for markup

Elements, their tags and their attributes. Opening and closing tags need not bear the same name.
-/

namespace JsxTagger.Grammar.Rules

/-- A name in markup, which may hold hyphens. -/
def markupName : Expr :=
  oneOf [(Terminal.tagName : Expr).shownAs "identifier", Terminal.identifier]

/-- The name of a tag: a name, names with dots between them, or a name in a namespace. -/
def tag : Expr :=
  (oneOf [markupName, (ref "nested_identifier").shownAs "member_expression",
    ref "jsx_namespace_name"]).fills "name"

/-- An element, with content or without. -/
def markup : Expr := oneOfRules ["jsx_element", "jsx_self_closing_element"]

/-- The value of an attribute. -/
def attributeValue : Expr :=
  oneOf [(ref "_jsx_string").shownAs "string", ref "jsx_expression", markup]

/-- Elements, tags and attributes. -/
def markupRules : List Rule :=
  [rule "jsx_element"
     [sequence [(ref "jsx_opening_element").fills "open_tag", many "markup_children",
       (ref "jsx_closing_element").fills "close_tag"]],
   repetition "markup_children"
     (oneOf [Terminal.markupText, Terminal.reference, markup, ref "jsx_expression"]),
   rule "jsx_expression"
     [sequence ["\x7b",
       optional (oneOfRules ["expression", "sequence_expression", "spread_element"]), "\x7d"]],
   rule "jsx_opening_element"
     [{ body := sequence ["<", optional (sequence [tag, many "attributes"]), ">"]
        weight := -1 }],
   repetition "attributes" ((oneOfRules ["jsx_attribute", "jsx_expression"]).fills "attribute"),
   rule "nested_identifier"
     [{ body := sequence
          [(oneOf [Terminal.identifier, (ref "nested_identifier").shownAs
             "member_expression"]).fills "object", ".",
           ((Terminal.identifier : Expr).shownAs "property_identifier").fills "property"]
        strength := some "member" }],
   rule "jsx_namespace_name" [sequence [markupName, ":", markupName]],
   rule "jsx_closing_element" [sequence ["</", optional tag, ">"]],
   rule "jsx_self_closing_element" [sequence ["<", tag, many "attributes", "/>"]],
   rule "jsx_attribute"
     [sequence [oneOf [markupName.shownAs "property_identifier", ref "jsx_namespace_name"],
       optional (sequence ["=", attributeValue])]],
   hidden "_jsx_string"
     [sequence ["\"", many "double_attribute_parts", "\""],
      sequence ["'", many "single_attribute_parts", "'"]],
   repetition "double_attribute_parts"
     (oneOf [(Terminal.doubleAttributeText : Expr).shownAs "string_fragment",
       Terminal.reference]),
   repetition "single_attribute_parts"
     (oneOf [(Terminal.singleAttributeText : Expr).shownAs "string_fragment",
       Terminal.reference])]

end JsxTagger.Grammar.Rules
