import JsxTagger.Component.Naming
import JsxTagger.Log.Record

/-!
# Classification

Which declarations of a file are components, in the order of the text, and what is exported. A
component is

* a class that extends a component base,
* a function that yields markup and is declared, bound to a variable, or the default export,
* a call of a wrapper, unless it is itself the argument of another wrapper.

Export flags are set afterwards by comparing names; neither aliases nor scopes are resolved.
-/

namespace JsxTagger.Classify

open Syntax

/-- The nodes above a site that are not parentheses directly around it. -/
def enclosing (s : Site) : List Node := s.above.dropWhile (·.kind == .parenthesizedExpression)

/-- The declarator whose value a node is, parentheses aside. -/
def bindingDeclarator? (s : Site) : Option Node :=
  match (enclosing s).head? with
  | none => none
  | some parent =>
    if parent.kind = .variableDeclarator then
      match (parent.child? .value).bind Node.unwrapped? with
      | some value =>
        if value.start == s.node.start && value.kind == s.node.kind then some parent else none
      | none => none
    else none

/-- Whether a call is, parentheses aside, an argument of a wrapper. -/
def isWrapped (source : Bytes) (s : Site) : Bool :=
  match enclosing s with
  | arguments :: outer :: _ =>
    arguments.kind == .arguments && outer.kind == .callExpression &&
      (wrapperName? source outer).isSome
  | _ => false

/-- Whether a node is the value of an `export default`. -/
def isExportedValue (s : Site) : Bool :=
  match s.parent? with
  | none => false
  | some parent =>
    parent.kind == .exportStatement && (parent.child? .value).any (·.start == s.node.start)

/-- The component declared at a node. -/
def componentAt (source : Bytes) (anchor : Node) (kind : ComponentKind)
    (wrappedIn : Option String := none) (isDefaultExport : Bool := false) : Component where
  name := .str (componentName source anchor)
  kind
  isDefaultExport
  wrappedIn := (wrappedIn.map Json.str).getD .null
  declarationStart := .int anchor.start
  declarationType := .str anchor.kind.name
  line := .int (anchor.line source)

/-- The component that a node declares, if it declares one, with the node it is anchored at. -/
def describe (source : Bytes) (s : Site) : Option (Node × Component) :=
  let n := s.node
  match n.kind with
  | .classDeclaration =>
    if extendsComponent source n then some (n, componentAt source n .classBased) else none
  | .functionDeclaration =>
    if returnsMarkup n then some (n, componentAt source n .functional) else none
  | .variableDeclarator =>
    match (n.child? .value).bind Node.unwrapped? with
    | some value =>
      if value.kind.isComponentFunction && returnsMarkup value then
        some (n, componentAt source n .functional)
      else none
    | none => none
  | .callExpression =>
    match wrapperName? source n with
    | none => none
    | some wrapper =>
      if isWrapped source s then none
      else
        let anchor := (bindingDeclarator? s).getD n
        some (anchor, componentAt source anchor .functional (some wrapper) (isExportedValue s))
  | _ =>
    if isExportedValue s then
      if n.kind.isComponentFunction && returnsMarkup n then
        some (n, componentAt source n .functional none true)
      else if n.kind = .classExpression && extendsComponent source n then
        some (n, componentAt source n .classBased none true)
      else none
    else none

/-! ## Exports -/

/-- A name that an export statement exports. -/
structure ExportedName where
  /-- The exported name. -/
  name : String
  /-- It is the default export. -/
  isDefault : Bool
deriving DecidableEq, Repr

/-- The names that a declaration declares. -/
def declaredNames (source : Bytes) (declaration : Node) : List String :=
  if declaration.kind = .lexicalDeclaration || declaration.kind = .variableDeclaration then
    declaration.namedChildren.filterMap fun declarator =>
      if declarator.kind = .variableDeclarator then
        match declarator.child? .name with
        | some n => if n.kind = .identifier then some (n.text source) else none
        | none => none
      else none
  else [textOf source (declaration.child? .name)]

/-- The names listed between the braces of an export. -/
def specifiedNames (source : Bytes) (statement : Node) : List String :=
  (statement.namedChildren.filter (·.kind == .exportClause)).flatMap fun clause =>
    (clause.namedChildren.filter (·.kind == .exportSpecifier)).map fun specifier =>
      unquoted (textOf source ((specifier.child? .alternativeName).or (specifier.child? .name)))

/-- The names that an export statement exports, in the order of the text. -/
def exportedNames (source : Bytes) (statement : Node) : List ExportedName :=
  let declaration := statement.child? .declaration
  if statement.children.any (·.kind == .defaultKeyword) then
    let name :=
      match statement.child? .value with
      | some value =>
        if value.kind = .identifier then value.text source else declaredName declaration
      | none => declaredName declaration
    [⟨name, true⟩]
  else
    let inline_ := (declaration.map (declaredNames source)).getD []
    (specifiedNames source statement ++ inline_).map (⟨·, false⟩)
where
  /-- The name of an exported declaration. -/
  declaredName (declaration : Option Node) : String :=
    textOf source (declaration.bind (·.child? .name))

/-- Sets the flag of an exported name on every component that bears it. -/
def markExported (components : List Component) (e : ExportedName) : List Component :=
  if e.name.isEmpty then components
  else components.map fun c =>
    if c.name.isText e.name then
      if e.isDefault then { c with isDefaultExport := true } else { c with isNamedExport := true }
    else c

/-- Sets the export flags from the top-level export statements. -/
def resolveExports (source : Bytes) (root : Node) (components : List Component) :
    List Component :=
  ((root.namedChildren.filter (·.kind == .exportStatement)).flatMap (exportedNames source)).foldl
    markExported components

/-! ## Files -/

/-- The components of a file in the order of the text, with their export flags. -/
def classifyComponents (tree : SourceTree) : List Component :=
  resolveExports tree.source tree.root
    ((tree.root.sites.filterMap (describe tree.source)).map (·.2))

/-- Whether a file holds any markup. -/
def containsMarkup (tree : SourceTree) : Bool := tree.root.walk.any Node.isMarkup

/-- Whether a node is a call that mounts an application. -/
def isMountCall (source : Bytes) (n : Node) : Bool :=
  n.kind == .callExpression &&
    (n.child? .function).any fun callee => calleeIs source callee "ReactDOM" mounters

/-- The number of calls in a file that mount an application. -/
def countMountCalls (tree : SourceTree) : Nat :=
  tree.root.walk.countP (isMountCall tree.source)

/-- What the inventory needs to know about one parsed file. -/
structure FileAnalysis where
  /-- The file holds markup. -/
  containsMarkup : Bool
  /-- The number of calls that mount an application. -/
  mountCalls : Nat
  /-- The components in the order of the text. -/
  components : List Component

/-- Analyses a parsed file. Without markup there is nothing to tag, so no components are listed. -/
def analyzeTree (tree : SourceTree) : FileAnalysis where
  containsMarkup := containsMarkup tree
  mountCalls := countMountCalls tree
  components := if containsMarkup tree then classifyComponents tree else []

end JsxTagger.Classify
