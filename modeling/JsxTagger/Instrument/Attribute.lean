import JsxTagger.Component.Naming

/-!
# Opening tags and their attributes

Where an attribute can be added to an element, and which attributes it already has. Fragments have
no name and cannot carry attributes.
-/

namespace JsxTagger.Instrument

open Syntax

/-- The attribute that holds an element's id. -/
def elementIdAttribute : String := "pc_el_id"

/-- The attribute that names the component an element is the root of. -/
def componentNameAttribute : String := "pc_comp_name"

/-- The attribute that holds the identity passed to the component. -/
def componentRefAttribute : String := "pc_comp_ref_id"

/-- Whether a node is a tag that can carry attributes. -/
def isOpeningElement (n : Node) : Bool :=
  n.kind == .jsxSelfClosingElement ||
    (n.kind == .jsxOpeningElement && (n.child? .name).isSome)

/-- The attributes of a tag, spreads included. -/
def attributes (element : Node) : List Node :=
  element.namedChildren.filter fun c => c.kind == .jsxAttribute || c.kind == .jsxExpression

/-- The nodes that name the attributes of a tag, as far as there are any. -/
def attributeNameNodes (element : Node) : List (Option Node) :=
  ((attributes element).filter (·.kind == .jsxAttribute)).map Node.firstNamedChild?

/-- The names of the attributes of a tag. -/
def attributeNames (source : Bytes) (element : Node) : List String :=
  (attributeNameNodes element).map (textOf source)

/-- Whether the names of the attributes of a tag can be read. -/
def attributesLegible (source : Bytes) (element : Node) : Bool :=
  (attributeNameNodes element).all fun n => n.all (·.isLegible source)

/-- Where a new attribute goes: behind the last attribute, or else behind the name. A tag with
neither has no such place. -/
def insertionOffset? (element : Node) : Option Nat :=
  match (attributes element).getLast? with
  | some a => some a.stop
  | none => (element.child? .name).map Node.stop

end JsxTagger.Instrument
