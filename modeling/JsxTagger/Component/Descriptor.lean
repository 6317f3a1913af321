import JsxTagger.Json.Value
import JsxTagger.Syntax.Tree

/-!
# Components

A `Component` is what is known about one declared UI component. The classifier fills it with texts
and numbers; a structure document may put any JSON value into most of its fields, and what is
absent there is `null`.

The declaration locator, `declarationStart` with `declarationType`, names the node a component was
found at, so that two declarations of the same name can be told apart.
-/

namespace JsxTagger

open Syntax

/-- How a component is declared. -/
inductive ComponentKind where
  | functional
  | classBased
deriving DecidableEq, Repr, Inhabited

namespace ComponentKind

/-- The name of a kind in structure documents. -/
def name : ComponentKind → String
  | functional => "functional"
  | classBased => "class"

/-- The kind with the given name. -/
def ofName? : String → Option ComponentKind
  | "functional" => some functional
  | "class" => some classBased
  | _ => none

@[simp]
theorem ofName?_name (k : ComponentKind) : ofName? k.name = some k := by cases k <;> rfl

end ComponentKind

/-- What is known about one declared component. -/
structure Component where
  /-- The name it is declared under, or a placeholder. -/
  name : Json
  /-- How it is declared. -/
  kind : ComponentKind
  /-- A default export names it. -/
  isDefaultExport : Bool := false
  /-- A named export names it. -/
  isNamedExport : Bool := false
  /-- The wrapper around it, such as `memo`. -/
  wrappedIn : Json := .null
  /-- The offset of the declaring node. -/
  declarationStart : Json := .null
  /-- The kind of the declaring node. -/
  declarationType : Json := .null
  /-- The line of the declaring node, counted from 1. -/
  line : Json := .null
deriving Inhabited

namespace Component

/-- Whether both halves of the locator are known. -/
def hasLocator (c : Component) : Bool := !c.declarationStart.isNull && !c.declarationType.isNull

end Component

end JsxTagger
