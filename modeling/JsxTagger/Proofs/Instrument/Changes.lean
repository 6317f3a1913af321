import JsxTagger.Proofs.Edit.Application
import JsxTagger.Proofs.Instrument.Exactness

/-!
# The changes of a run

Every act of a run is about a tag in one of the scopes or about one of the scopes
(`belongs_of_mem_planned`), and every change comes from one act (`mem_changesOf`). The edits of a plan
are apart if the stretches that the acts change are (`pairwise_edits_planOf`, `ranges_changesOf`). The
new texts have a byte form if the texts of the nodes have one (`isPlain_change?`).
-/

namespace JsxTagger.Instrument

open Classify Syntax

/-! ## Which acts there are -/

/-- What an act of a sequence of scopes is about: a tag in one of them, or one of them. -/
def Act.Belongs (source : Bytes) (scopes : List Scope) : Act → Prop
  | .tag element => ∃ s ∈ scopes, element ∈ s.elements
  | .root element name reference =>
    ∃ s ∈ scopes, element ∈ s.elements ∧ name = s.name ∧
      (reference = classReference ∨
        ∃ t ∈ scopes, reference = (passing source t.node).reference)
  | .thread function => ∃ s ∈ scopes, s.node = function ∧ function.kind.isClass = false

theorem Act.Belongs.append {source : Bytes} {scopes : List Scope} {a : Act}
    (h : a.Belongs source scopes) (s : Scope) : a.Belongs source (scopes ++ [s]) := by
  cases a with
  | tag element =>
    obtain ⟨t, ht, he⟩ := h
    exact ⟨t, List.mem_append_left _ ht, he⟩
  | root element name reference =>
    obtain ⟨t, ht, he, hname, hreference⟩ := h
    refine ⟨t, List.mem_append_left _ ht, he, hname, hreference.imp_right ?_⟩
    rintro ⟨u, hu, hreference⟩
    exact ⟨u, List.mem_append_left _ hu, hreference⟩
  | thread function =>
    obtain ⟨t, ht, hf⟩ := h
    exact ⟨t, List.mem_append_left _ ht, hf⟩

theorem mem_addTag {source : Bytes} {acts : List Act} {element : Node} {a : Act}
    (h : a ∈ Act.addTag source acts element) : a ∈ acts ∨ a = .tag element := by
  rw [Act.addTag] at h
  split at h
  · exact Or.inl h
  · simpa using h

theorem mem_addTags {source : Bytes} {acts : List Act} {elements : List Node} {a : Act}
    (h : a ∈ Act.addTags source acts elements) : a ∈ acts ∨ ∃ e ∈ elements, a = .tag e := by
  induction elements generalizing acts with
  | nil => exact Or.inl h
  | cons element elements ih =>
    rcases ih h with h | ⟨e, he, rfl⟩
    · rcases mem_addTag h with h | rfl
      · exact Or.inl h
      · exact Or.inr ⟨element, List.mem_cons_self, rfl⟩
    · exact Or.inr ⟨e, List.mem_cons_of_mem _ he, rfl⟩

theorem mem_addRoot {source : Bytes} {acts : List Act} {element : Node} {name reference : String}
    {a : Act} (h : a ∈ Act.addRoot source acts element name reference) :
    a ∈ acts ∨ a = .root element name reference := by
  rw [Act.addRoot] at h
  split at h
  · exact Or.inl h
  · simpa using h

theorem mem_addElements {source : Bytes} {acts : List Act} {name reference : String}
    {elements : List Node} {a : Act} (h : a ∈ Act.addElements source acts name reference elements) :
    a ∈ acts ∨ ∃ e ∈ elements, a = .tag e ∨ a = .root e name reference := by
  cases elements with
  | nil => exact Or.inl h
  | cons first rest =>
    have hfirst : first ∈ first :: rest := List.mem_cons_self
    rcases mem_addTags h with h | ⟨e, he, rfl⟩
    · rcases mem_addRoot h with h | rfl
      · rcases mem_addTag h with h | rfl
        · exact Or.inl h
        · exact Or.inr ⟨first, hfirst, Or.inl rfl⟩
      · exact Or.inr ⟨first, hfirst, Or.inr rfl⟩
    · exact Or.inr ⟨e, List.mem_cons_of_mem _ he, Or.inl rfl⟩

theorem mem_addThread {acts : List Act} {function : Node} {a : Act}
    (h : a ∈ Act.addThread acts function) : a ∈ acts ∨ a = .thread function := by
  rw [Act.addThread] at h
  split at h
  · exact Or.inl h
  · simpa using h

theorem mem_of_mem_threads {acts : List Act} {f : Node} (h : f ∈ Act.threads acts) :
    .thread f ∈ acts := by
  obtain ⟨a, ha, hf⟩ := List.mem_filterMap.mp h
  cases a with
  | tag element => cases hf
  | root element name reference => cases hf
  | thread function =>
    cases hf
    exact ha

theorem mem_of_mem_roots {acts : List Act} {e : Node} {name reference : String}
    (h : (e, name, reference) ∈ Act.roots acts) : .root e name reference ∈ acts := by
  obtain ⟨a, ha, hroot⟩ := List.mem_filterMap.mp h
  cases a with
  | tag element => cases hroot
  | thread function => cases hroot
  | root element name reference =>
    cases hroot
    exact ha

/-- The expression for the identity inside a function is that of a function looked at before that starts
at the same place, or its own. -/
theorem reference_eq (source : Bytes) (acts : List Act) (function : Node) :
    ∃ f, (f = function ∨ .thread f ∈ acts) ∧ f.start = function.start ∧
      Act.reference source acts function = (passing source f).reference := by
  rw [Act.reference]
  cases hfound : (Act.threads acts).reverse.find? (·.start == function.start) with
  | none => exact ⟨function, Or.inl rfl, rfl, rfl⟩
  | some f =>
    refine ⟨f, Or.inr ?_, by simpa using List.find?_some hfound, rfl⟩
    exact mem_of_mem_threads (List.mem_reverse.mp (List.mem_of_find?_eq_some hfound))

/-- Every act of a sequence of scopes is about one of them. -/
theorem belongs_of_mem_planned {source : Bytes} {scopes : List Scope} {a : Act}
    (h : a ∈ planned source scopes) : a.Belongs source scopes := by
  induction scopes using List.reverseRecOn generalizing a with
  | nil => cases h
  | append_singleton scopes s ih =>
    have hs : s ∈ scopes ++ [s] := List.mem_append_right _ List.mem_cons_self
    rw [planned, List.foldl_append, List.foldl_cons, List.foldl_nil, ← planned, Act.addScope] at h
    split at h
    · rcases mem_addElements h with h | ⟨e, he, rfl | rfl⟩
      · exact (ih h).append s
      · exact ⟨s, hs, he⟩
      · exact ⟨s, hs, he, rfl, Or.inl rfl⟩
    · rename_i hclass
      rcases mem_addElements h with h | ⟨e, he, rfl | rfl⟩
      · rcases mem_addThread h with h | rfl
        · exact (ih h).append s
        · exact ⟨s, hs, rfl, by simpa using hclass⟩
      · exact ⟨s, hs, he⟩
      · refine ⟨s, hs, he, rfl, Or.inr ?_⟩
        obtain ⟨f, hf, -, hreference⟩ := reference_eq source (planned source scopes) s.node
        rcases hf with rfl | hf
        · exact ⟨s, hs, hreference⟩
        · obtain ⟨t, ht, rfl, -⟩ := ih hf
          exact ⟨t, List.mem_append_left _ ht, hreference⟩

/-! ## Changes that are apart -/

/-- The stretch of the source that an act changes, if it changes one. -/
def Act.range? (source : Bytes) : Act → Option (Nat × Nat)
  | .tag element => some (attributePlace element, attributePlace element)
  | .root element _ _ => some (attributePlace element, attributePlace element)
  | .thread function => ((passing source function).change? source function).map fun c => (c.start, c.stop)

/-- Two stretches that can be changed in any order: both are empty, or one starts before the other and
ends no later than the other starts. -/
def RangesApart (r s : Nat × Nat) : Prop :=
  (r.1 = r.2 ∧ s.1 = s.2) ∨ (r.1 < s.1 ∧ r.2 ≤ s.1) ∨ (s.1 < r.1 ∧ s.2 ≤ r.1)

theorem RangesApart.symm {r s : Nat × Nat} (h : RangesApart r s) : RangesApart s r := by
  unfold RangesApart at h ⊢
  omega

theorem ranges_changesOf (source : Bytes) (ids : IdStream) (drawn : Nat) (acts : List Act) :
    (changesOf source ids drawn acts).map (fun c => (c.start, c.stop)) =
      acts.filterMap (Act.range? source) := by
  induction acts generalizing drawn with
  | nil => rfl
  | cons a acts ih =>
    cases a with
    | tag element => rw [changesOf, List.map_cons, ih]; rfl
    | root element name reference => rw [changesOf, List.map_cons, ih]; rfl
    | thread function =>
      rw [changesOf, List.map_append, ih, List.filterMap_cons]
      cases hc : (passing source function).change? source function with
      | none => simp [Act.range?, hc]
      | some c => simp [Act.range?, hc]

/-- The edits of a plan are apart if the stretches that they change are. -/
theorem pairwise_edits_planOf {changes : List Change}
    (h : (changes.map fun c => (c.start, c.stop)).Pairwise RangesApart) :
    (planOf changes).edits.Pairwise Edit.Apart := by
  have hzip : (changes.zipIdx.map Prod.fst).Pairwise fun c d =>
      RangesApart (c.start, c.stop) (d.start, d.stop) := by
    rw [List.zipIdx_map_fst]
    exact List.pairwise_map.mp h
  rw [edits_planOf, List.pairwise_map]
  refine (List.pairwise_map.mp hzip).imp fun {c d} hcd => ?_
  unfold RangesApart at hcd
  unfold Edit.Apart
  dsimp only at hcd ⊢
  omega

/-! ## New texts -/

/-- Every change is the change of one of the acts. -/
theorem mem_changesOf {source : Bytes} {ids : IdStream} {drawn : Nat} {acts : List Act} {c : Change}
    (h : c ∈ changesOf source ids drawn acts) : ∃ a ∈ acts, ∃ n, c ∈ changesOf source ids n [a] := by
  induction acts generalizing drawn with
  | nil => cases h
  | cons a acts ih =>
    rw [← List.singleton_append, changesOf_append, List.mem_append] at h
    rcases h with h | h
    · exact ⟨a, List.mem_cons_self, drawn, h⟩
    · obtain ⟨b, hb, n, hc⟩ := ih h
      exact ⟨b, List.mem_cons_of_mem a hb, n, hc⟩

section Plain

variable {source : Bytes} {n : Node}
  (h : ∀ m ∈ n.nodes, Text.isPlain (m.text source) = true)

include h

theorem isPlain_textOf {f : Field} : Text.isPlain (textOf source (n.child? f)) = true := by
  cases hc : n.child? f with
  | none =>
    show Text.isPlain "" = true
    decide
  | some c => exact h c (Node.mem_nodes_of_child? hc)

theorem isPlain_orElse {f : Field} {fallback : String} (hfallback : Text.isPlain fallback = true) :
    Text.isPlain (orElse (textOf source (n.child? f)) fallback) = true := by
  rw [orElse]
  split
  · exact hfallback
  · exact isPlain_textOf h

theorem isPlain_componentName : Text.isPlain (componentName source n) = true := by
  have hunbound : Text.isPlain (componentName.unbound n) = true := by
    rw [componentName.unbound]
    split
    · split <;> decide
    · decide
  rw [componentName]
  split
  · exact isPlain_orElse h (by decide)
  · exact isPlain_orElse h (by decide)
  · exact isPlain_orElse h (by decide)
  · split
    · rename_i name hname
      split
      · exact h name (Node.mem_nodes_of_child? hname)
      · exact hunbound
    · exact hunbound
  · decide
  · decide

theorem isPlain_identityBinding? {name : String} (hname : identityBinding? source n = some name) :
    Text.isPlain name = true := by
  have hfield : Text.isPlain identityField = true := by decide
  rw [identityBinding?] at hname
  split at hname
  · split at hname
    · cases hname
      exact hfield
    · cases hname
  · split at hname
    · cases hname
      exact hfield
    · cases hname
  · split at hname
    · split at hname
      · rename_i target htarget
        cases hname
        split
        · exact h target (mem_nodes_of_pairTarget? htarget)
        · exact hfield
      · cases hname
        exact hfield
    · cases hname
  · cases hname

theorem isPlain_reference : Text.isPlain (passing source n).reference = true := by
  rw [passing]
  split
  · rename_i pattern hpattern
    obtain ⟨q, hq, hqp⟩ := List.exists_of_findSome?_eq_some hpattern
    have hin := Node.mem_nodes_trans (mem_nodes_of_mem_parameters hq)
      (objectPattern?_eq_some hqp).1
    split
    · rename_i name hname
      obtain ⟨entry, hentry, hname⟩ := List.exists_of_findSome?_eq_some hname
      have hentry := Node.mem_nodes_trans hin (mem_entries hentry)
      exact isPlain_identityBinding? (fun m hm => h m (Node.mem_nodes_trans hentry hm)) hname
    · show Text.isPlain identityField = true
      decide
  · rw [namedPassing]
    split
    · decide
    · split
      · decide
      · split
        · decide
        · split <;> decide

theorem isPlain_change? {c : Change} (hc : (passing source n).change? source n = some c) :
    Text.isPlain c.text = true := by
  have hname {name : String} (hpassing : passing source n = .parameter name) :
      Text.isPlain name = true := by
    rcases eq_of_passing_parameter hpassing with rfl | rfl <;> decide
  cases ThreadChange.of_change? hc with
  | field =>
    rw [fieldChange]
    split <;> dsimp only <;> decide
  | list hpassing _ hseparator =>
    simp only [toString, Text.isPlain_append, hname hpassing, Bool.true_and]
    rcases hseparator with rfl | rfl <;> decide
  | bare hpassing _ hbare =>
    have hbare := h _ (Node.mem_nodes_of_child? hbare)
    simp only [toString, Text.isPlain_append, hname hpassing, hbare, Bool.and_true]
    decide

end Plain

end JsxTagger.Instrument
