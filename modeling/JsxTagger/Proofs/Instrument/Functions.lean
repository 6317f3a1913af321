import JsxTagger.Proofs.Instrument.Exactness
import JsxTagger.Proofs.Syntax.Enclosure

/-!
# Functions that are instrumented do not nest

Only declarations at the top level of a file are instrumented, and the way from a declaration to its
function leads through parentheses, calls and their arguments. No function stands on that way
(`Separated.eq_of_componentFunction?`) and none around the declaration (`Separated.functionDepth_eq`),
so that no function that is instrumented lies inside another one (`Separated.eq_of_mem_nodes`).
-/

namespace JsxTagger.Instrument

open Classify Syntax

variable {room : Nat}

/-- Whether a node is a function or a method. -/
def isFunction (n : Node) : Bool := n.kind.isNestedScope && n.kind != .classBody

/-- How many functions stand around a site. -/
def functionDepth (s : Site) : Nat := s.above.countP isFunction

/-- What keeps the functions of declarations apart: the root is a file, the tree is well nested,
anchors of one kind that start at the same place are calls without a function between them, and the
arguments of a call are no function themselves. -/
structure Separated (root : Node) : Prop where
  file : root.kind.isNestedScope = false
  nested : root.WellNested
  keys : (root.sites.filter (·.node.kind.isAnchor)).Pairwise fun s t =>
    key s.node = key t.node → s.node.kind = .callExpression ∧ functionDepth s = functionDepth t
  arguments : ∀ n ∈ root.nodes, ∀ list ∈ n.child? .arguments, isFunction list = false

instance (root : Node) : Decidable (Separated root) :=
  decidable_of_iff
    (root.kind.isNestedScope = false ∧ root.WellNested ∧
      ((root.sites.filter (·.node.kind.isAnchor)).Pairwise fun s t =>
        key s.node = key t.node →
          s.node.kind = .callExpression ∧ functionDepth s = functionDepth t) ∧
      ∀ n ∈ root.nodes, ∀ list ∈ n.child? .arguments, isFunction list = false)
    ⟨fun ⟨a, b, c, d⟩ => ⟨a, b, c, d⟩, fun ⟨a, b, c, d⟩ => ⟨a, b, c, d⟩⟩

theorem isFunction_of_kind {n : Node}
    (h : n.kind = .functionDeclaration ∨ n.kind.isComponentFunction = true) :
    isFunction n = true := by
  rw [isFunction]
  rcases h with h | h
  · rw [h]
    rfl
  · revert h
    cases n.kind <;> first | exact fun _ => rfl | exact fun h => nomatch h

/-! ## On the way from a declaration to its function -/

/-- What stands around something inside parentheses is a pair of parentheses, or lies inside them. -/
theorem paren_or_mem_unwrapped? {n m f x : Node} (h : n.WellNested) (hm : n.unwrapped? = some m)
    (hf : f ∈ m.nodes) (hwide : f.start < f.stop) (hx : x ∈ n.nodes) (hfx : f ∈ x.nodes) :
    x.kind = .parenthesizedExpression ∨ x ∈ m.nodes := by
  induction n using Node.childInduction with
  | step n ih =>
    rw [Node.unwrapped?] at hm
    split at hm
    · rename_i hparen
      split at hm
      · cases hm
      · rename_i c hc
        have hcn := Node.mem_children_of_firstNamedChild? hc
        have hfc := Node.mem_nodes_trans (Node.mem_nodes_of_unwrapped? hm) hf
        rcases h.eq_or_mem_nodes_child hcn hfc hwide hx hfx with rfl | hxc
        · exact Or.inl hparen
        · exact ih c hcn (h.of_mem (Node.mem_nodes_of_mem_children hcn)) hm hxc
    · cases hm
      exact Or.inr hx

namespace Separated

variable {root : Node} (h : Separated root)

include h

/-- No function stands between a call and its first argument. -/
theorem mem_nodes_of_firstArgument? {call target f x : Node} (hcall : call ∈ root.nodes)
    (hkind : call.kind = .callExpression) (htarget : firstArgument? call = some target)
    (hf : f ∈ target.nodes) (hwide : f.start < f.stop) (hx : x ∈ call.nodes) (hfx : f ∈ x.nodes)
    (hfunction : isFunction x = true) : x ∈ target.nodes := by
  obtain ⟨list, hlist, htarget⟩ := Option.bind_eq_some_iff.mp htarget
  obtain ⟨first, hfirst, htarget⟩ := Option.bind_eq_some_iff.mp htarget
  have hlistc := Node.mem_children_of_child? hlist
  have hfirstc := Node.mem_children_of_firstNamedChild? hfirst
  have hnested := h.nested.of_mem hcall
  have hlistn := hnested.of_mem (Node.mem_nodes_of_mem_children hlistc)
  have hffirst := Node.mem_nodes_trans (Node.mem_nodes_of_unwrapped? htarget) hf
  have hflist := Node.mem_nodes_trans (Node.mem_nodes_of_mem_children hfirstc) hffirst
  rcases hnested.eq_or_mem_nodes_child hlistc hflist hwide hx hfx with rfl | hx
  · rw [isFunction, hkind] at hfunction
    cases hfunction
  · rcases hlistn.eq_or_mem_nodes_child hfirstc hffirst hwide hx hfx with rfl | hx
    · rw [h.arguments call hcall x hlist] at hfunction
      cases hfunction
    · have hfirstn := hlistn.of_mem (Node.mem_nodes_of_mem_children hfirstc)
      rcases paren_or_mem_unwrapped? hfirstn htarget hf hwide hx hfx with hparen | hx
      · rw [isFunction, hparen] at hfunction
        cases hfunction
      · exact hx

/-- No function stands between a call and the function that it wraps. -/
theorem eq_of_wrappedFunction? {source : Bytes} {fuel : Nat} {call f x : Node}
    (hcall : call ∈ root.nodes) (hkind : call.kind = .callExpression)
    (hf : wrappedFunction? source fuel call = some f) (hwide : f.start < f.stop)
    (hx : x ∈ call.nodes) (hfx : f ∈ x.nodes) (hfunction : isFunction x = true) : x = f := by
  induction fuel generalizing call with
  | zero => cases hf
  | succ fuel ih =>
    rw [wrappedFunction?] at hf
    split at hf
    · cases hf
    · rename_i target htarget
      have hin := Node.mem_nodes_trans hcall (Instrument.mem_nodes_of_firstArgument? htarget)
      split at hf
      · cases hf
        have hx := h.mem_nodes_of_firstArgument? hcall hkind htarget (Node.mem_nodes_self f) hwide
          hx hfx hfunction
        exact Node.eq_of_mem_nodes hx hfx
      · split at hf
        · rename_i hwrapper
          have htcall : target.kind = .callExpression := by
            simpa using (Bool.and_eq_true_iff.mp hwrapper).1
          have hx := h.mem_nodes_of_firstArgument? hcall hkind htarget
            (wrappedFunction?_eq_some hf).1 hwide hx hfx hfunction
          exact ih hin htcall hf hx
        · cases hf

/-- No function stands between a declaration and its function. -/
theorem eq_of_componentFunction? {source : Bytes} {anchor f x : Node} (hanchor : anchor ∈ root.nodes)
    (hf : componentFunction? source anchor = some f) (hwide : f.start < f.stop)
    (hx : x ∈ anchor.nodes) (hfx : f ∈ x.nodes) (hfunction : isFunction x = true) : x = f := by
  rw [componentFunction?] at hf
  split at hf
  · cases hf
    exact Node.eq_of_mem_nodes hx hfx
  · split at hf
    · rename_i hdeclarator
      split at hf
      · cases hf
      · rename_i value hvalue
        obtain ⟨v, hv, hvalue⟩ := Option.bind_eq_some_iff.mp hvalue
        have hvc := Node.mem_children_of_child? hv
        have hnested := h.nested.of_mem hanchor
        have hvn := hnested.of_mem (Node.mem_nodes_of_mem_children hvc)
        have hvaluev := Node.mem_nodes_of_unwrapped? hvalue
        -- whatever the value is, the function lies inside, and so does everything around it
        have hinside : f ∈ value.nodes → x ∈ value.nodes := by
          intro hfvalue
          rcases hnested.eq_or_mem_nodes_child hvc (Node.mem_nodes_trans hvaluev hfvalue) hwide hx
            hfx with rfl | hx
          · rw [isFunction, hdeclarator] at hfunction
            cases hfunction
          · rcases paren_or_mem_unwrapped? hvn hvalue hfvalue hwide hx hfx with hparen | hx
            · rw [isFunction, hparen] at hfunction
              cases hfunction
            · exact hx
        split at hf
        · cases hf
          exact Node.eq_of_mem_nodes (hinside (Node.mem_nodes_self f)) hfx
        · split at hf
          · rename_i hcall
            have hroot := Node.mem_nodes_trans hanchor
              (Node.mem_nodes_trans (Node.mem_nodes_of_mem_children hvc) hvaluev)
            exact h.eq_of_wrappedFunction? hroot hcall hf hwide
              (hinside (wrappedFunction?_eq_some hf).1) hfx hfunction
          · cases hf
    · split at hf
      · rename_i hcall
        exact h.eq_of_wrappedFunction? hanchor hcall hf hwide hx hfx hfunction
      · cases hf

end Separated

/-! ## Around a declaration -/

theorem exists_anchor_of_mem_boundScopes {tree : SourceTree} {cs : List Component} {s : Scope}
    (h : s ∈ boundScopes room tree cs) :
    ∃ anchor ∈ tree.root.walk, anchor.kind.isAnchor = true ∧ isTopLevel tree anchor = true ∧
      scopeAt? tree.source anchor = some s := by
  obtain ⟨c, -, h⟩ := List.mem_filterMap.mp h
  obtain ⟨anchor, hanchor, hs⟩ := Option.bind_eq_some_iff.mp h
  obtain ⟨hanchor, htop⟩ := Option.filter_eq_some_iff.mp hanchor
  obtain ⟨hwalk, hkind⟩ :=
    mem_walk_of_mem_anchors (locate_eq_some (anchorOf?_eq_some.mp hanchor)).1
  exact ⟨anchor, hwalk, hkind, htop, hs⟩

/-- A scope that is no class is the function of its declaration. -/
theorem componentFunction?_of_scopeAt? {source : Bytes} {anchor : Node} {s : Scope}
    (h : scopeAt? source anchor = some s) (hclass : s.node.kind.isClass = false) :
    componentFunction? source anchor = some s.node := by
  rw [scopeAt?] at h
  split at h
  · rename_i hanchor
    cases h
    rw [hanchor] at hclass
    cases hclass
  · obtain ⟨f, hf, rfl⟩ := Option.map_eq_some_iff.mp h
    exact hf

theorem isFunction_of_mem_boundScopes {tree : SourceTree} {cs : List Component} {s : Scope}
    (h : s ∈ boundScopes room tree cs) (hclass : s.node.kind.isClass = false) :
    isFunction s.node = true := by
  obtain ⟨anchor, -, -, -, hscope⟩ := exists_anchor_of_mem_boundScopes h
  have hf := componentFunction?_of_scopeAt? hscope hclass
  exact isFunction_of_kind (componentFunction?_eq_some hf).2

namespace Separated

variable {tree : SourceTree} (h : Separated tree.root)

include h

/-- No function stands around a declaration that counts as top level, although it may be another
declaration with the same key that does. -/
theorem functionDepth_eq {s : Site} (hs : s ∈ tree.root.sites) (hanchor : s.node.kind.isAnchor = true)
    (htop : isTopLevel tree s.node = true) : functionDepth s = 0 := by
  rw [isTopLevel, List.contains_iff_mem, topLevel, List.mem_map] at htop
  obtain ⟨m, hm, hkey⟩ := htop
  obtain ⟨hm, hmanchor⟩ := List.mem_filter.mp hm
  obtain ⟨t, ht, rfl⟩ := List.mem_map.mp hm
  rw [Node.walk_skip_eq_filter] at ht
  obtain ⟨ht, hopen⟩ := List.mem_filter.mp ht
  have hdepth : functionDepth t = 0 := by
    rw [functionDepth, List.countP_eq_zero]
    intro n hn
    have hopenn : n.kind.isNestedScope = false := by
      rcases Node.eq_or_mem_dropLast_above ht hn with rfl | hn
      · exact h.file
      · simpa using List.all_eq_true.mp hopen n hn
    simp [isFunction, hopenn]
  have : Std.Symm fun s t : Site => key s.node = key t.node → functionDepth s = functionDepth t :=
    ⟨fun _ _ hst hkey => (hst hkey.symm).symm⟩
  by_cases hst : s = t
  · rw [hst]
    exact hdepth
  · have hkeys := (h.keys.imp fun {s t} hst hkey => (hst hkey).2).forall
      (List.mem_filter.mpr ⟨hs, hanchor⟩) (List.mem_filter.mpr ⟨ht, hmanchor⟩) hst
    rw [hkeys hkey.symm]
    exact hdepth

/-- A function that is instrumented lies inside no other one. -/
theorem eq_of_mem_nodes {cs : List Component} {s t : Scope} (hs : s ∈ boundScopes room tree cs)
    (ht : t ∈ boundScopes room tree cs) (hsclass : s.node.kind.isClass = false)
    (htclass : t.node.kind.isClass = false) (hwide : s.node.start < s.node.stop)
    (hin : s.node ∈ t.node.nodes) : s.node = t.node := by
  obtain ⟨anchor, hwalk, hanchor, htop, hscope⟩ := exists_anchor_of_mem_boundScopes hs
  have hf := componentFunction?_of_scopeAt? hscope hsclass
  have hsin := (componentFunction?_eq_some hf).1
  have hroot := Node.mem_nodes_of_mem_walk hwalk
  have htroot := mem_nodes_of_mem_boundScopes ht
  have hfunction := isFunction_of_mem_boundScopes ht htclass
  -- the other function encloses this one, hence it lies inside the declaration or around it
  rcases h.nested.inside_of_common htroot hroot hin hsin hwide with hinside | haround
  · exact (h.eq_of_componentFunction? hroot hf hwide hinside hin hfunction).symm
  · obtain ⟨⟨node, above⟩, hsite, rfl⟩ := List.mem_map.mp hwalk
    have hrange := (h.nested.of_mem hroot).range hsin
    rcases h.nested.mem_above_of_mem_nodes hsite htroot (by dsimp only at hrange ⊢; omega)
      haround with hsame | habove
    · have hinside : t.node ∈ node.nodes := hsame ▸ Node.mem_nodes_self t.node
      exact (h.eq_of_componentFunction? hroot hf hwide hinside hin hfunction).symm
    · have hdepth := h.functionDepth_eq hsite hanchor htop
      rw [functionDepth, List.countP_eq_zero] at hdepth
      exact absurd hfunction (hdepth t.node habove)

end Separated

end JsxTagger.Instrument
