import JsxTagger.Grammar.Rules.Statement

/-!
# Rules for patterns

A pattern is what a parameter, a declaration or an assignment binds. Most patterns also read as
expressions; where a text can be both, the expression is taken, because a pattern weighs less.
-/

namespace JsxTagger.Grammar.Rules

/-- A pattern, perhaps with a value to use where there is none. -/
def patternWithDefault : Expr := oneOfRules ["pattern", "assignment_pattern"]

/-- A name that stands for a member of the same name. -/
def shorthandPattern : Expr := anyName.shownAs "shorthand_property_identifier_pattern"

/-- Patterns. -/
def patterns : List Rule :=
  [rule "object_pattern"
     [{ body := bracketed "\x7b" memberPattern "more_member_patterns" "\x7d"
        strength := some "object" }],
   repetition "more_member_patterns" (sequence [",", optional memberPattern]),
   rule "assignment_pattern"
     [sequence [(ref "pattern").fills "left", "=", (ref "expression").fills "right"]],
   rule "object_assignment_pattern"
     [sequence [(oneOf [shorthandPattern, ref "_destructuring_pattern"]).fills "left", "=",
       (ref "expression").fills "right"]],
   rule "array_pattern" [bracketed "[" patternWithDefault "more_element_patterns" "]"],
   repetition "more_element_patterns" (sequence [",", optional patternWithDefault]),
   hidden "_destructuring_pattern" [oneOfRules ["object_pattern", "array_pattern"]],
   hidden "pattern" [{ body := oneOf [assignable, ref "rest_pattern"], weight := -1 }],
   rule "rest_pattern"
     [{ body := sequence ["...", assignable], side := some .right }],
   rule "pair_pattern"
     [sequence [(ref "_property_name").fills "key", ":", patternWithDefault.fills "value"]]]
where
  /-- A member of an object pattern. -/
  memberPattern : Expr :=
    oneOf [ref "pair_pattern", ref "rest_pattern", ref "object_assignment_pattern",
      shorthandPattern]

end JsxTagger.Grammar.Rules
