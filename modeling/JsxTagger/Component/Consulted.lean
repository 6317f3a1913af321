import JsxTagger.Component.Classify

/-!
# Which texts are read

A tree can come from anywhere, so the text of a node need not be a text: its offsets may cut through
a character. That matters only for the nodes whose text somebody reads. This module lists, for every
question of `Naming` and `Classify`, the nodes that are read to answer it; a file is legible if all
of them are.

The trees of `Grammar.parseTree` are always legible, because their offsets lie between characters.
-/

namespace JsxTagger.Classify

open Syntax

/-- The nodes that `isMemberOf` reads: the property only if the object is the right one. -/
def memberReads (source : Bytes) (member : Node) (object : String) : List Node :=
  match member.child? .object with
  | some o =>
    if o.kind = .identifier then
      o :: (if o.text source = object then (member.child? .property).toList else [])
    else []
  | none => []

/-- The nodes that `calleeIs` reads. -/
def calleeReads (source : Bytes) (callee : Node) (object : String) : List Node :=
  if callee.kind = .identifier then [callee]
  else if callee.kind = .memberExpression then memberReads source callee object
  else []

/-- The nodes that `wrapperName?` reads. -/
def wrapperReads (source : Bytes) (call : Node) : List Node :=
  match call.child? .function with
  | some callee => calleeReads source callee "React"
  | none => []

/-- The nodes that `componentName` reads. -/
def nameReads (anchor : Node) : List Node :=
  match anchor.kind with
  | .classDeclaration | .classExpression | .functionDeclaration => (anchor.child? .name).toList
  | .variableDeclarator => (anchor.child? .name).toList.filter (·.kind == .identifier)
  | _ => []

/-- The nodes that `extendsComponent` reads. -/
def heritageReads (source : Bytes) (cls : Node) : List Node :=
  match cls.namedChildren.find? (·.kind == .classHeritage) with
  | some heritage =>
    match heritage.firstNamedChild?.bind Node.unwrapped? with
    | some base => calleeReads source base "React"
    | none => []
  | none => []

/-- The nodes that `isWrapped` reads. -/
def wrappedReads (source : Bytes) (s : Site) : List Node :=
  match enclosing s with
  | arguments :: outer :: _ =>
    if arguments.kind = .arguments && outer.kind = .callExpression then wrapperReads source outer
    else []
  | _ => []

/-- The nodes that `describe` reads: those that decide whether there is a component, and, if there
is one, its name. -/
def describeReads (source : Bytes) (s : Site) : List Node :=
  let n := s.node
  let deciding :=
    match n.kind with
    | .classDeclaration => heritageReads source n
    | .callExpression =>
      wrapperReads source n ++
        (if (wrapperName? source n).isSome then wrappedReads source s else [])
    | .classExpression => if isExportedValue s then heritageReads source n else []
    | _ => []
  deciding ++ ((describe source s).map fun found => nameReads found.1).getD []

/-- The nodes that `exportedNames` reads. -/
def exportReads (statement : Node) : List Node :=
  let declaration := statement.child? .declaration
  if statement.children.any (·.kind == .defaultKeyword) then
    match statement.child? .value with
    | some value => if value.kind = .identifier then [value] else nameOf declaration
    | none => nameOf declaration
  else
    let specifiers := (statement.namedChildren.filter (·.kind == .exportClause)).flatMap fun clause =>
      clause.namedChildren.filter (·.kind == .exportSpecifier)
    specifiers.flatMap (fun s => ((s.child? .alternativeName).or (s.child? .name)).toList) ++
      (declaration.map declaredReads).getD []
where
  /-- The name of an exported declaration. -/
  nameOf (declaration : Option Node) : List Node := (declaration.bind (·.child? .name)).toList
  /-- The nodes that `declaredNames` reads. -/
  declaredReads (declaration : Node) : List Node :=
    if declaration.kind = .lexicalDeclaration || declaration.kind = .variableDeclaration then
      (declaration.namedChildren.filter (·.kind == .variableDeclarator)).flatMap nameReads
    else (declaration.child? .name).toList

/-- The nodes that `classifyComponents` reads. -/
def classifyReads (tree : SourceTree) : List Node :=
  tree.root.sites.flatMap (describeReads tree.source) ++
    (tree.root.namedChildren.filter (·.kind == .exportStatement)).flatMap exportReads

/-- The nodes that `countMountCalls` reads. -/
def mountReads (tree : SourceTree) : List Node :=
  (tree.root.walk.filter (·.kind == .callExpression)).flatMap fun call =>
    ((call.child? .function).map (calleeReads tree.source · "ReactDOM")).getD []

/-- Whether all nodes of a list can be read. -/
def allLegible (source : Bytes) (ns : List Node) : Bool := ns.all (·.isLegible source)

end JsxTagger.Classify
