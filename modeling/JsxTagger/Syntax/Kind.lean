/-!
# Kinds and fields of syntax nodes

A concrete syntax tree of a JavaScript/JSX file labels every node with a kind and, inside its
parent, possibly with a field. The analysis only tells a few dozen kinds apart; those are
constructors here, and every other kind of the grammar is kept by its name as `Kind.other`.

`Kind.name` and `Kind.ofName` go between a kind and the name under which the grammar and the
structure document know it.
-/

namespace JsxTagger.Syntax

/-- The kind of a syntax node. Keywords and punctuation are nodes too; their kind is their text. -/
inductive Kind where
  /-- The root of a file. -/
  | program
  /-- A line or block comment. -/
  | comment
  /-- A stretch of text the grammar could not make sense of. -/
  | error
  | identifier
  | parenthesizedExpression
  | returnStatement
  /-- `export …` in any of its forms. -/
  | exportStatement
  | exportClause
  | exportSpecifier
  /-- The keyword `default`. -/
  | defaultKeyword
  | classDeclaration
  /-- A class expression. -/
  | classExpression
  | classHeritage
  | classBody
  | methodDefinition
  | functionDeclaration
  | functionExpression
  /-- The name older grammars give to a function expression. -/
  | functionLiteral
  | arrowFunction
  | generatorFunctionDeclaration
  | generatorFunction
  | variableDeclarator
  /-- `let` and `const`. -/
  | lexicalDeclaration
  /-- `var`. -/
  | variableDeclaration
  | callExpression
  | arguments
  | memberExpression
  | objectPattern
  | assignmentPattern
  | restPattern
  /-- `a` in the pattern `{ a }`. -/
  | shorthandPattern
  /-- `a = 1` in the pattern `{ a = 1 }`. -/
  | objectAssignmentPattern
  /-- `a: b` in the pattern `{ a: b }`. -/
  | pairPattern
  | jsxElement
  | jsxSelfClosingElement
  /-- The name older grammars give to `<>…</>`. -/
  | jsxFragment
  | jsxOpeningElement
  | jsxAttribute
  | jsxExpression
  /-- Any other kind, by name. -/
  | other (name : String)
deriving DecidableEq, Repr, Inhabited

namespace Kind

/-- The kinds with a constructor of their own, beside their names. -/
def table : List (String × Kind) :=
  [("program", program), ("comment", comment), ("ERROR", error), ("identifier", identifier),
   ("parenthesized_expression", parenthesizedExpression), ("return_statement", returnStatement),
   ("export_statement", exportStatement), ("export_clause", exportClause),
   ("export_specifier", exportSpecifier), ("default", defaultKeyword),
   ("class_declaration", classDeclaration), ("class", classExpression),
   ("class_heritage", classHeritage), ("class_body", classBody),
   ("method_definition", methodDefinition), ("function_declaration", functionDeclaration),
   ("function_expression", functionExpression), ("function", functionLiteral),
   ("arrow_function", arrowFunction),
   ("generator_function_declaration", generatorFunctionDeclaration),
   ("generator_function", generatorFunction), ("variable_declarator", variableDeclarator),
   ("lexical_declaration", lexicalDeclaration), ("variable_declaration", variableDeclaration),
   ("call_expression", callExpression), ("arguments", arguments),
   ("member_expression", memberExpression), ("object_pattern", objectPattern),
   ("assignment_pattern", assignmentPattern), ("rest_pattern", restPattern),
   ("shorthand_property_identifier_pattern", shorthandPattern),
   ("object_assignment_pattern", objectAssignmentPattern), ("pair_pattern", pairPattern),
   ("jsx_element", jsxElement), ("jsx_self_closing_element", jsxSelfClosingElement),
   ("jsx_fragment", jsxFragment), ("jsx_opening_element", jsxOpeningElement),
   ("jsx_attribute", jsxAttribute), ("jsx_expression", jsxExpression)]

/-- The name of a kind, as the grammar spells it. -/
def name : Kind → String
  | program => "program"
  | comment => "comment"
  | error => "ERROR"
  | identifier => "identifier"
  | parenthesizedExpression => "parenthesized_expression"
  | returnStatement => "return_statement"
  | exportStatement => "export_statement"
  | exportClause => "export_clause"
  | exportSpecifier => "export_specifier"
  | defaultKeyword => "default"
  | classDeclaration => "class_declaration"
  | classExpression => "class"
  | classHeritage => "class_heritage"
  | classBody => "class_body"
  | methodDefinition => "method_definition"
  | functionDeclaration => "function_declaration"
  | functionExpression => "function_expression"
  | functionLiteral => "function"
  | arrowFunction => "arrow_function"
  | generatorFunctionDeclaration => "generator_function_declaration"
  | generatorFunction => "generator_function"
  | variableDeclarator => "variable_declarator"
  | lexicalDeclaration => "lexical_declaration"
  | variableDeclaration => "variable_declaration"
  | callExpression => "call_expression"
  | arguments => "arguments"
  | memberExpression => "member_expression"
  | objectPattern => "object_pattern"
  | assignmentPattern => "assignment_pattern"
  | restPattern => "rest_pattern"
  | shorthandPattern => "shorthand_property_identifier_pattern"
  | objectAssignmentPattern => "object_assignment_pattern"
  | pairPattern => "pair_pattern"
  | jsxElement => "jsx_element"
  | jsxSelfClosingElement => "jsx_self_closing_element"
  | jsxFragment => "jsx_fragment"
  | jsxOpeningElement => "jsx_opening_element"
  | jsxAttribute => "jsx_attribute"
  | jsxExpression => "jsx_expression"
  | other name => name

/-- The kind with a given name: a constructor of its own if it has one, else `Kind.other`. -/
def ofName (name : String) : Kind :=
  ((table.find? (·.1 == name)).map (·.2)).getD (.other name)

/-- Expressions that produce UI elements. -/
def isMarkup : Kind → Bool
  | jsxElement | jsxSelfClosingElement | jsxFragment => true
  | _ => false

/-- Expressions that can be a component function. -/
def isComponentFunction : Kind → Bool
  | functionExpression | functionLiteral | arrowFunction => true
  | _ => false

/-- Scopes in which a `return` belongs to somebody else: every function but an arrow function,
every class and every method. -/
def isClosedScope : Kind → Bool
  | functionDeclaration | generatorFunctionDeclaration | functionExpression | functionLiteral
  | generatorFunction | classDeclaration | classExpression | methodDefinition => true
  | _ => false

/-- Class declarations and class expressions. -/
def isClass : Kind → Bool
  | classDeclaration | classExpression => true
  | _ => false

/-- Scopes whose inner declarations belong to an enclosing declaration: every function and every
class body, though not the class node itself, whose heritage is outside. -/
def isNestedScope (k : Kind) : Bool :=
  (k.isClosedScope && !k.isClass) || k == arrowFunction || k == classBody

/-- Nodes a component can be anchored at. -/
def isAnchor (k : Kind) : Bool :=
  k.isClass || k == functionDeclaration || k == variableDeclarator || k == callExpression ||
    k.isComponentFunction

/-- Anchors that are looked for by name. -/
def isNamedDeclaration : Kind → Bool
  | functionDeclaration | classDeclaration | variableDeclarator => true
  | _ => false

/-- The table lists every kind under its own name. -/
theorem name_eq_of_mem : ∀ p ∈ table, p.2.name = p.1 := by decide +kernel

/-- Reading a name and writing the kind gives the name back. -/
@[simp]
theorem name_ofName (s : String) : (ofName s).name = s := by
  unfold ofName
  cases h : table.find? (·.1 == s) with
  | none => rfl
  | some p =>
    have hs := List.find?_some h
    simpa [name_eq_of_mem p (List.mem_of_find?_eq_some h)] using hs

end Kind

/-- The role a node plays in its parent. -/
inductive Field where
  | name
  | value
  | body
  | function
  | arguments
  | object
  | property
  | declaration
  /-- The name under which something is exported, where it is not its own. -/
  | alternativeName
  | parameters
  | parameter
  | left
  | key
  /-- Any other field, by name. -/
  | other (name : String)
deriving DecidableEq, Repr, Inhabited

/-- The field with a given name: a constructor of its own if it has one, else `Field.other`. -/
def Field.ofName : String → Field
  | "name" => name
  | "value" => value
  | "body" => body
  | "function" => function
  | "arguments" => arguments
  | "object" => object
  | "property" => property
  | "declaration" => declaration
  | "alias" => alternativeName
  | "parameters" => parameters
  | "parameter" => parameter
  | "left" => left
  | "key" => key
  | unlisted => .other unlisted

end JsxTagger.Syntax
