import JsxTagger.Proofs.Component.Growth
import JsxTagger.Proofs.Instrument.Locators

/-!
# Instrumentation of a tree that has grown

In a tree that nodes were added to, the components that classification finds are looked up at the same
declarations, with the same functions and classes as their scopes, and the same tags inside those
(`boundScopes_graft`, `elements_graft`).
-/

namespace JsxTagger.Instrument

open Classify Syntax

variable {room : Nat}

section

variable {g : Graft} {source source' : Bytes} {root n : Node}

/-! ## Anchors -/

theorem key_graft_eq_iff (hstart : Function.Injective g.start) {a b : Node} :
    key (g.graft a) = key (g.graft b) ↔ key a = key b := by
  rw [key, key, key, key, Prod.mk.injEq, Prod.mk.injEq, Graft.start_graft, Graft.start_graft,
    Graft.kind_graft, Graft.kind_graft, hstart.eq_iff]

theorem key_graft_beq (hstart : Function.Injective g.start) (a b : Node) :
    (key (g.graft a) == key (g.graft b)) = (key a == key b) := by
  rw [Bool.eq_iff_iff, beq_iff_eq, beq_iff_eq]
  exact key_graft_eq_iff hstart

theorem recordAnchor_graft (hstart : Function.Injective g.start) (as : List Node) (n : Node) :
    recordAnchor (as.map g.graft) (g.graft n) = (recordAnchor as n).map g.graft := by
  rw [recordAnchor, recordAnchor, List.any_map]
  simp only [Function.comp_def, key_graft_beq hstart]
  split
  · rw [List.map_map, List.map_map]
    refine List.map_congr_left fun a _ => ?_
    simp only [Function.comp_apply, key_graft_beq hstart]
    split <;> rfl
  · simp

/-- The anchors are the old ones. -/
theorem anchors_graft (h : g.Sound root) :
    anchors (g.graft root) = (anchors root).map g.graft := by
  have hwalk := h.filter_walk_graft (p := fun n => n.kind.isAnchor)
    (fun m hm => Kind.isAnchor_of_isInert hm) fun m _ => by rw [Graft.kind_graft]
  rw [anchors, anchors, hwalk]
  induction root.walk.filter (·.kind.isAnchor) using List.reverseRecOn with
  | nil => rfl
  | append_singleton ns n ih =>
    rw [List.map_append, List.foldl_append, List.foldl_append, ih]
    exact recordAnchor_graft h.start _ n

/-- An anchor counts as top level exactly if it did before. -/
theorem isTopLevel_graft {tree tree' : SourceTree} (h : g.Sound tree.root)
    (hroot : tree'.root = g.graft tree.root) (a : Node) :
    isTopLevel tree' (g.graft a) = isTopLevel tree a := by
  have hwalk := h.filter_walk_skip_graft Kind.isNestedScope (p := fun n => n.kind.isAnchor)
    (fun m hm => Kind.isAnchor_of_isInert hm) fun m _ => by rw [Graft.kind_graft]
  rw [isTopLevel, isTopLevel, hroot, topLevel, topLevel, hwalk, List.map_map, Bool.eq_iff_iff,
    List.contains_iff_mem, List.contains_iff_mem, List.mem_map, List.mem_map]
  simp only [Function.comp_apply, key_graft_eq_iff h.start]

/-! ## Component functions -/

/-- The first argument of a call is the old one. -/
theorem firstArgument?_graft (h : Grows g source source' n) :
    firstArgument? (g.graft n) = (firstArgument? n).map g.graft := by
  rw [firstArgument?, firstArgument?, h.child?_graft rfl (by simp) (by simp)]
  cases hlist : n.child? .arguments with
  | none => rfl
  | some list =>
    have hl := h.of_child? hlist
    have hfield : list.label.field = some .arguments := by simpa using List.find?_some hlist
    simp only [Option.map_some, Option.bind_some, (hl.leaves_of_arguments hfield).firstNamedChild?]
    cases hfirst : list.firstNamedChild? with
    | none => rfl
    | some first =>
      have hf := hl.of_mem
        (Node.mem_nodes_of_mem_children (Node.mem_children_of_firstNamedChild? hfirst))
      exact hf.unwrapped?_graft

/-- The function inside wrappers is the old one. The budgets are larger than the trees, and those have
different sizes. -/
theorem wrappedFunction?_graft (h : Grows g source source' n) {fuel fuel' : Nat}
    (hfuel : n.size ≤ fuel) (hfuel' : (g.graft n).size ≤ fuel') :
    wrappedFunction? source' fuel' (g.graft n) = (wrappedFunction? source fuel n).map g.graft := by
  induction fuel generalizing n fuel' with
  | zero =>
    have := Node.size_eq n
    omega
  | succ fuel ih =>
    cases fuel' with
    | zero =>
      have := Node.size_eq (g.graft n)
      omega
    | succ fuel' =>
      have hargument := firstArgument?_graft h
      rw [wrappedFunction?, wrappedFunction?, ← firstArgument?, ← firstArgument?, hargument]
      cases htarget : firstArgument? n with
      | none => rfl
      | some target =>
        rw [htarget] at hargument
        have ht := h.of_mem (mem_nodes_of_firstArgument? htarget)
        have hlt := size_lt_of_firstArgument? htarget
        have hlt' := size_lt_of_firstArgument? hargument
        simp only [Option.map_some, Graft.kind_graft, ht.wrapperName?_graft]
        split
        · rfl
        · split
          · exact ih ht (by omega) (by omega)
          · rfl

theorem wrapperDepth_graft (h : Grows g source source' n) (fuel : Nat) :
    wrapperDepth source' fuel (g.graft n) = wrapperDepth source fuel n := by
  induction fuel generalizing n with
  | zero => rfl
  | succ fuel ih =>
    rw [wrapperDepth, wrapperDepth, ← firstArgument?, ← firstArgument?, firstArgument?_graft h]
    cases htarget : firstArgument? n with
    | none => rfl
    | some target =>
      have ht := h.of_mem (mem_nodes_of_firstArgument? htarget)
      simp only [Option.map_some, Graft.kind_graft, ht.wrapperName?_graft, ih ht]

/-- The function of a declaration is the old one. -/
theorem componentFunction?_graft (h : Grows g source source' n) :
    componentFunction? source' (g.graft n) = (componentFunction? source n).map g.graft := by
  rw [componentFunction?, componentFunction?, Graft.kind_graft]
  split
  · rfl
  · split
    · rw [h.child?_graft rfl (by simp) (by simp)]
      cases hv : n.child? .value with
      | none => rfl
      | some v =>
        have hvg := h.of_child? hv
        simp only [Option.map_some, Option.bind_some, hvg.unwrapped?_graft]
        cases hu : v.unwrapped? with
        | none => rfl
        | some value =>
          have hvalue := hvg.of_mem (Node.mem_nodes_of_unwrapped? hu)
          simp only [Option.map_some, Graft.kind_graft]
          split
          · rfl
          · split
            · exact wrappedFunction?_graft hvalue (Nat.le_refl _) (Nat.le_refl _)
            · rfl
    · split
      · exact wrappedFunction?_graft h (Nat.le_refl _) (Nat.le_refl _)
      · rfl

/-- Wrappers are too deep exactly if they were before. -/
theorem tooDeep_of_graft (h : Grows g source source' n)
    (hdeep : functionObstacle? room source' (g.graft n) = some .tooDeep) :
    functionObstacle? room source n = some .tooDeep := by
  have hcall : outerCall? (g.graft n) = (outerCall? n).map g.graft := by
    rw [outerCall?, outerCall?, Graft.kind_graft]
    split
    · rw [h.child?_graft rfl (by simp) (by simp)]
      cases hv : n.child? .value with
      | none => rfl
      | some v =>
        simp only [Option.map_some, Option.bind_some, (h.of_child? hv).unwrapped?_graft]
        cases v.unwrapped? with
        | none => rfl
        | some value => simp [Option.filter, apply_ite]
    · simp [Option.filter, apply_ite]
  rw [functionObstacle?, hcall] at hdeep
  rw [functionObstacle?]
  cases hc : outerCall? n with
  | none =>
    rw [hc] at hdeep
    cases hdeep
  | some call =>
    have hg := h.of_mem (mem_nodes_of_outerCall? hc)
    rw [hc] at hdeep
    simp only [Option.map_some, wrapperDepth_graft hg] at hdeep ⊢
    split at hdeep
    · rename_i hlt
      rw [if_pos hlt]
    · have := (unlessLegible_eq_some.mp hdeep).2
      cases this

/-! ## Scopes -/

/-- A scope in the new tree. -/
def graftScope (g : Graft) (s : Scope) : Scope := ⟨g.graft s.node, s.name⟩

theorem scopeAt?_graft (h : Grows g source source' n) (hanchor : n.kind.isAnchor = true) :
    scopeAt? source' (g.graft n) = (scopeAt? source n).map (graftScope g) := by
  rw [scopeAt?, scopeAt?, Graft.kind_graft, h.componentName_graft hanchor, componentFunction?_graft h]
  split
  · rfl
  · cases componentFunction? source n <;> rfl

theorem isOpeningElement_graft (h : g.Sound n) :
    isOpeningElement (g.graft n) = isOpeningElement n := by
  rw [isOpeningElement, isOpeningElement, Graft.kind_graft, h.child?_graft rfl (by simp) (by simp),
    Option.isSome_map]

/-- The tags inside a scope are the old ones. -/
theorem elements_graft {s : Scope} (h : g.Sound s.node) :
    (graftScope g s).elements = s.elements.map g.graft := by
  refine h.filter_walk_graft (fun m hm => ?_) fun m hm => ?_
  · rw [isOpeningElement, beq_eq_false_iff_ne.mpr (Kind.ne_of_isInert hm rfl),
      beq_eq_false_iff_ne.mpr (Kind.ne_of_isInert hm rfl)]
    rfl
  · exact isOpeningElement_graft (h.of_mem (Node.mem_nodes_of_mem_walk hm))

/-- Every component of a list can be looked up, be it with success or not. -/
def LooksUp (room : Nat) (tree : SourceTree) (cs : List Component) : Prop :=
  ∀ c ∈ cs, ∃ found, locate room tree.source (anchors tree.root) (topLevel tree.root) c = .ok found

/-- The declaration at the top level that a component with the given anchor is found at. -/
def topAnchor? (tree : SourceTree) (anchor : Node) : Option Node :=
  ((anchors tree.root).find? (key · == key anchor)).filter fun n =>
    componentName tree.source anchor == componentName tree.source n && isTopLevel tree n

theorem topAnchor?_of_describes {tree : SourceTree} {anchor : Node} {c : Component}
    (hc : Describes tree.source anchor c) (hanchor : anchor.kind.isAnchor = true)
    (hok : ∃ found, locate room tree.source (anchors tree.root) (topLevel tree.root) c = .ok found) :
    (anchorOf? room tree c).filter (isTopLevel tree) = topAnchor? tree anchor := by
  obtain ⟨found, hfound⟩ := hok
  have hanchorOf : anchorOf? room tree c = found := by rw [anchorOf?, hfound]
  rw [locate_of_describes hc hanchor] at hfound
  have hsearch := search_eq_ok hfound
  rw [hanchorOf, ← hsearch, topAnchor?]
  cases (anchors tree.root).find? (key · == key anchor) with
  | none => rfl
  | some n =>
    by_cases hname : componentName tree.source anchor = componentName tree.source n <;>
      simp [Option.filter, hname]

/-- A component is found at the old declaration. -/
theorem topAnchor?_graft {tree tree' : SourceTree} (h : Grows g tree.source tree'.source tree.root)
    (hroot : tree'.root = g.graft tree.root) (hn : n ∈ tree.root.nodes)
    (hanchor : n.kind.isAnchor = true) :
    topAnchor? tree' (g.graft n) = (topAnchor? tree n).map g.graft := by
  have hfind : (anchors tree'.root).find? (key · == key (g.graft n)) =
      ((anchors tree.root).find? (key · == key n)).map g.graft := by
    rw [hroot, anchors_graft h.toSound, List.find?_map]
    simp only [Function.comp_def, key_graft_beq h.start]
  rw [topAnchor?, topAnchor?, hfind]
  cases hfound : (anchors tree.root).find? (key · == key n) with
  | none => rfl
  | some a =>
    obtain ⟨hwalk, haanchor⟩ := mem_walk_of_mem_anchors (List.mem_of_find?_eq_some hfound)
    have ha := h.of_mem (Node.mem_nodes_of_mem_walk hwalk)
    have hkeep : (componentName tree'.source (g.graft n) ==
          componentName tree'.source (g.graft a) && isTopLevel tree' (g.graft a)) =
        (componentName tree.source n == componentName tree.source a && isTopLevel tree a) := by
      rw [(h.of_mem hn).componentName_graft hanchor, ha.componentName_graft haanchor,
        isTopLevel_graft h.toSound hroot a]
    simp only [Option.map_some, Option.filter, hkeep]
    split <;> rfl

/-- The declaration that a component is found at is an anchor of the tree. -/
theorem topAnchor?_eq_some {tree : SourceTree} {anchor a : Node}
    (h : topAnchor? tree anchor = some a) : a ∈ tree.root.nodes ∧ a.kind.isAnchor = true := by
  obtain ⟨hwalk, hanchor⟩ := mem_walk_of_mem_anchors
    (List.mem_of_find?_eq_some (Option.filter_eq_some_iff.mp h).1)
  exact ⟨Node.mem_nodes_of_mem_walk hwalk, hanchor⟩

/-- The scopes that are instrumented for the components of a file, by their anchors. -/
theorem boundScopes_eq {tree : SourceTree} (hok : LooksUp room tree (classifyComponents tree)) :
    boundScopes room tree (classifyComponents tree) =
      (anchorSites tree).filterMap fun s => (topAnchor? tree s.node).bind (scopeAt? tree.source) := by
  refine (filterMap_of_forall₂ (classifyComponents_describes tree) ?_).symm
  intro s hs c hc hdescribes
  rw [scopeOf?, topAnchor?_of_describes hdescribes (Locatable.mem_anchorSites hs).2.1 (hok c hc)]

/-- The scopes that are instrumented for the components of a file are the old ones. -/
theorem boundScopes_graft {tree tree' : SourceTree} (h : Grows g tree.source tree'.source tree.root)
    (hroot : tree'.root = g.graft tree.root) (hok : LooksUp room tree (classifyComponents tree))
    (hok' : LooksUp room tree' (classifyComponents tree')) :
    boundScopes room tree' (classifyComponents tree') =
      (boundScopes room tree (classifyComponents tree)).map (graftScope g) := by
  rw [boundScopes_eq hok', boundScopes_eq hok, h.anchorSites_graft hroot, List.filterMap_map,
    List.map_filterMap]
  refine List.filterMap_congr fun s hs => ?_
  obtain ⟨hsite, hanchor, -⟩ := Locatable.mem_anchorSites hs
  rw [Function.comp_apply, Graft.site_node,
    topAnchor?_graft h hroot (Node.mem_nodes_of_mem_sites hsite) hanchor]
  cases ha : topAnchor? tree s.node with
  | none => rfl
  | some a =>
    obtain ⟨hin, haanchor⟩ := topAnchor?_eq_some ha
    exact scopeAt?_graft (h.of_mem hin) haanchor

end

end JsxTagger.Instrument
