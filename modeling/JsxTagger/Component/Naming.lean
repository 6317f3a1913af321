import JsxTagger.Component.Descriptor

/-!
# What declarations say about themselves

Questions that the classifier and the instrumenter ask about single nodes: which name a declaration
binds, whether a call is a component wrapper, whether a function yields markup, and what a class
extends.
-/

namespace JsxTagger.Classify

open Syntax

/-- Base classes whose subclasses are components. -/
def componentBases : List String := ["Component", "PureComponent"]

/-- Functions that wrap a component. -/
def wrappers : List String := ["forwardRef", "memo"]

/-- Functions that mount an application. -/
def mounters : List String := ["createRoot", "hydrateRoot"]

/-- The name of a class without a name. -/
def unknownClass : String := "UnknownClassComponent"

/-- The name of a function without a name. -/
def unknownFunction : String := "UnknownFunctionComponent"

/-- The name of a function bound to something that is not a name. -/
def unknownFunctional : String := "UnknownFunctionalComponent"

/-- The name of a wrapped component without a name. -/
def unknownWrapped : String := "UnknownHOCComponent"

/-- A text, or something else in place of the empty one. -/
def orElse (s fallback : String) : String := if s.isEmpty then fallback else s

/-- A text without the quotes at its ends. -/
def unquoted (s : String) : String :=
  let isQuote (c : Char) : Bool := c == '\'' || c == '"'
  String.ofList (((s.toList.dropWhile isQuote).reverse.dropWhile isQuote).reverse)

/-- Whether a member expression is `object.property` for a property in a list. -/
def isMemberOf (source : Bytes) (member : Node) (object : String) (properties : List String) :
    Bool :=
  match member.child? .object with
  | some o =>
    o.kind == .identifier && o.text source == object &&
      properties.contains (textOf source (member.child? .property))
  | none => false

/-- Whether a callee is one of the given names, bare or as a member of the given object. -/
def calleeIs (source : Bytes) (callee : Node) (object : String) (names : List String) : Bool :=
  if callee.kind = .identifier then names.contains (callee.text source)
  else if callee.kind = .memberExpression then isMemberOf source callee object names
  else false

/-- The wrapper that a call applies, if it applies one. -/
def wrapperName? (source : Bytes) (call : Node) : Option String :=
  match call.child? .function with
  | none => none
  | some callee =>
    if calleeIs source callee "React" wrappers then
      some (if callee.kind = .identifier then callee.text source
        else textOf source (callee.child? .property))
    else none

/-- The name that a declaration binds, or a placeholder. -/
def componentName (source : Bytes) (anchor : Node) : String :=
  match anchor.kind with
  | .classDeclaration | .classExpression =>
    orElse (textOf source (anchor.child? .name)) unknownClass
  | .functionDeclaration => orElse (textOf source (anchor.child? .name)) unknownFunction
  | .variableDeclarator =>
    match anchor.child? .name with
    | some n => if n.kind = .identifier then n.text source else unbound
    | none => unbound
  | .callExpression => unknownWrapped
  | _ => unknownFunction
where
  /-- The placeholder for a value that is bound to no name. -/
  unbound : String :=
    match (anchor.child? .value).bind Node.unwrapped? with
    | some value => if value.kind = .callExpression then unknownWrapped else unknownFunctional
    | none => unknownFunctional

/-- Whether an expression is markup, parentheses aside. -/
def isMarkupExpression (n : Option Node) : Bool := (n.bind Node.unwrapped?).any Node.isMarkup

/-- Whether a node makes the function around it yield markup: a `return` of markup, or an arrow
function whose body is markup. -/
def deliversMarkup (n : Node) : Bool :=
  if n.kind = .returnStatement then isMarkupExpression n.firstNamedChild?
  else if n.kind = .arrowFunction then isMarkupExpression (n.child? .body)
  else false

/-- Whether a function yields markup: its body is markup, or something inside the body delivers
markup. The search goes into arrow functions, and into no other function, class or method. -/
def returnsMarkup (function : Node) : Bool :=
  match function.child? .body with
  | none => false
  | some body =>
    (function.kind == .arrowFunction && isMarkupExpression (some body)) ||
      (body.walk Kind.isClosedScope).any fun n => !n.kind.isClosedScope && deliversMarkup n

/-- Whether a class extends a component base, bare or as a member of `React`. -/
def extendsComponent (source : Bytes) (cls : Node) : Bool :=
  match cls.namedChildren.find? (·.kind == .classHeritage) with
  | none => false
  | some heritage =>
    match heritage.firstNamedChild?.bind Node.unwrapped? with
    | none => false
    | some base => calleeIs source base "React" componentBases

end JsxTagger.Classify
