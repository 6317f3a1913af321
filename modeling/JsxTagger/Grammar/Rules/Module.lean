import JsxTagger.Grammar.Rules.Name

/-!
# Rules for files, imports and exports
-/

namespace JsxTagger.Grammar.Rules

/-- What `export` may stand in front of, `default` aside. -/
def exportSource : Expr :=
  oneOf
    [sequence ["*", ref "_from_clause"],
     sequence [ref "namespace_export", ref "_from_clause"],
     sequence [ref "export_clause", ref "_from_clause"],
     ref "export_clause"]

/-- A declaration that is exported, or a value that is exported as the default. -/
def exportedThing : Expr :=
  oneOf
    [(ref "declaration").fills "declaration",
     sequence ["default",
       oneOf
         [(ref "declaration").fills "declaration",
          sequence [(ref "expression").fills "value", semicolon]]]]

/-- Files, imports and exports. -/
def modules : List Rule :=
  [rule "program" [sequence [optional Terminal.interpreterLine, many "statements"]],
   repetition "statements" (ref "statement"),
   rule "export_statement"
     [sequence ["export", exportSource, semicolon],
      sequence [many "decorators", "export", exportedThing]],
   rule "namespace_export" [sequence ["*", "as", ref "_module_export_name"]],
   rule "export_clause" [braced (ref "export_specifier") "more_export_specifiers"],
   repetition "more_export_specifiers" (sequence [",", ref "export_specifier"]),
   rule "export_specifier"
     [sequence [(ref "_module_export_name").fills "name",
       optional (sequence ["as", (ref "_module_export_name").fills "alias"])]],
   hidden "_module_export_name" [oneOf [Terminal.identifier, ref "string", "default"]],
   hidden "declaration"
     [oneOfRules ["function_declaration", "generator_function_declaration", "class_declaration",
       "lexical_declaration", "variable_declaration", "using_declaration"]],
   rule "import" [("import" : Expr)],
   rule "import_statement"
     [sequence ["import",
       oneOf [sequence [ref "import_clause", ref "_from_clause"], (ref "string").fills "source"],
       optional (ref "import_attribute"), semicolon]],
   rule "import_clause"
     [oneOf [ref "namespace_import", ref "named_imports",
       sequence [Terminal.identifier,
         optional (sequence [",", oneOfRules ["namespace_import", "named_imports"]])]]],
   hidden "_from_clause" [sequence ["from", (ref "string").fills "source"]],
   rule "namespace_import" [sequence ["*", "as", Terminal.identifier]],
   rule "named_imports" [braced (ref "import_specifier") "more_import_specifiers"],
   repetition "more_import_specifiers" (sequence [",", ref "import_specifier"]),
   rule "import_specifier"
     [(Terminal.identifier : Expr).fills "name",
      sequence [(ref "_module_export_name").fills "name", "as",
        (Terminal.identifier : Expr).fills "alias"]],
   rule "import_attribute" [sequence [oneOf ["with", "assert"], ref "object"]]]

end JsxTagger.Grammar.Rules
