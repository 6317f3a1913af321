import Mathlib.Data.List.Forall2
import JsxTagger.Component.Classify

/-!
# The export pass

The export pass goes through the exported names one after another and marks all components of each
name. It looks up every component among these names and changes nothing else (`resolveExports_eq_map`),
so that the components of a file are those found at its sites with other flags
(`classifyComponents_eq_map`). What comes out depends only on which names are exported
(`flagged_congr`).
-/

namespace JsxTagger.Classify

open Syntax

/-- The export statements at the top of a file. -/
def exportStatements (root : Node) : List Node := root.namedChildren.filter (·.kind == .exportStatement)

/-- The names that a file exports, in the order of the text. -/
def fileExports (source : Bytes) (root : Node) : List ExportedName :=
  (exportStatements root).flatMap (exportedNames source)

/-- Whether an exported name sets a flag of a component. -/
def marks (c : Component) (isDefault : Bool) (e : ExportedName) : Bool :=
  e.isDefault == isDefault && !e.name.isEmpty && c.name.isText e.name

/-- A component with the flags that exported names set. -/
def flagged (es : List ExportedName) (c : Component) : Component :=
  { c with
    isDefaultExport := c.isDefaultExport || es.any (marks c true)
    isNamedExport := c.isNamedExport || es.any (marks c false) }

theorem flagged_nil (c : Component) : flagged [] c = c := by
  rw [flagged, List.any_nil, List.any_nil, Bool.or_false, Bool.or_false]

/-- One exported name goes through all components. -/
theorem markExported_eq_map (cs : List Component) (e : ExportedName) :
    markExported cs e = cs.map (flagged [e]) := by
  rw [markExported]
  split
  case isTrue hempty =>
    have hsame : ∀ c : Component, flagged [e] c = c := fun c => by simp [flagged, marks, hempty]
    exact (List.map_id'' hsame cs).symm
  case isFalse hname =>
    refine List.map_congr_left fun c _ => ?_
    cases hmarks : c.name.isText e.name <;> cases hdefault : e.isDefault <;>
      simp [flagged, marks, hmarks, hdefault, hname]

theorem flagged_flagged (es : List ExportedName) (e : ExportedName) (c : Component) :
    flagged es (flagged [e] c) = flagged (e :: es) c := by
  have hmarks : marks (flagged [e] c) = marks c := rfl
  rw [flagged, hmarks]
  simp [flagged, Bool.or_assoc]

/-- The export pass looks up every component among the exported names, and changes nothing else. -/
theorem resolveExports_eq_map (source : Bytes) (root : Node) (cs : List Component) :
    resolveExports source root cs = cs.map (flagged (fileExports source root)) := by
  rw [resolveExports, ← exportStatements, ← fileExports]
  induction fileExports source root generalizing cs with
  | nil => exact (List.map_id'' flagged_nil cs).symm
  | cons e es ih =>
    rw [List.foldl_cons, ih, markExported_eq_map, List.map_map]
    exact List.map_congr_left fun c _ => flagged_flagged es e c

/-- The order and the number of times names are exported in do not matter. -/
theorem flagged_congr {es es' : List ExportedName} (h : ∀ e, e ∈ es ↔ e ∈ es') (c : Component) :
    flagged es c = flagged es' c := by
  have hany : ∀ p : ExportedName → Bool, es.any p = es'.any p := fun p => by
    rw [Bool.eq_iff_iff, List.any_eq_true, List.any_eq_true]
    simp only [h]
  rw [flagged, flagged, hany, hany]

/-- The components that are found at sites stand in the order of these sites. -/
theorem forall₂_found {R : Site → Component → Prop} {source : Bytes} (sites : List Site)
    (h : ∀ s n c, describe source s = some (n, c) → R s c) :
    List.Forall₂ R (sites.filter fun s => (describe source s).isSome)
      ((sites.filterMap (describe source)).map (·.2)) := by
  induction sites with
  | nil => exact .nil
  | cons s sites ih =>
    cases hd : describe source s with
    | none => simpa [hd] using ih
    | some found => simpa [hd] using ⟨h s found.1 found.2 hd, by simpa using ih⟩

/-- The components of a file are those found at its sites, with the flags that are set afterwards. -/
theorem classifyComponents_eq_map (tree : SourceTree) :
    classifyComponents tree = ((tree.root.sites.filterMap (describe tree.source)).map (·.2)).map
      (flagged (fileExports tree.source tree.root)) := by
  rw [classifyComponents, resolveExports_eq_map]

end JsxTagger.Classify
