import JsxTagger.Proofs.Syntax.Nesting

/-!
# Nodes around a node

In a well-nested tree two nodes lie one inside the other or side by side (`inside_or_apart`). The nodes
that enclose a node which is not empty therefore form a chain: they are the nodes above it
(`mem_above_of_mem_nodes`), and going down from one of them the chain leads through the child that
holds the node (`eq_or_mem_nodes_child`).
-/

namespace JsxTagger.Syntax.Node

/-- Two nodes that lie inside each other are the same. -/
theorem eq_of_mem_nodes {m n : Node} (hmn : m ∈ n.nodes) (hnm : n ∈ m.nodes) : m = n := by
  rcases mem_nodes_iff.mp hmn with rfl | ⟨c, hc, hmc⟩
  · rfl
  · have hm := size_le_of_mem_nodes hmc
    have hn := size_le_of_mem_nodes hnm
    have hlt := size_lt_of_mem_children hc
    omega

theorem eq_of_children_eq_nil {m n : Node} (hleaf : n.children = []) (h : m ∈ n.nodes) : m = n := by
  rcases mem_nodes_iff.mp h with rfl | ⟨c, hc, -⟩
  · rfl
  · rw [hleaf] at hc
    cases hc

/-- Two children of a node are the same, or one ends before the other starts. -/
theorem WellNested.eq_or_apart {n c d : Node} (h : n.WellNested) (hc : c ∈ n.children)
    (hd : d ∈ n.children) : c = d ∨ c.stop ≤ d.start ∨ d.stop ≤ c.start := by
  have : Std.Symm fun a b : Node => a.stop ≤ b.start ∨ b.stop ≤ a.start := ⟨fun _ _ => Or.symm⟩
  by_cases hcd : c = d
  · exact Or.inl hcd
  · have hchildren : n.children.Pairwise fun a b => a.stop ≤ b.start ∨ b.stop ≤ a.start :=
      h.children.imp Or.inl
    exact Or.inr (hchildren.forall hc hd hcd)

/-- Two nodes of a well-nested tree lie one inside the other, or one ends before the other starts. -/
theorem WellNested.inside_or_apart {root m n : Node} (h : root.WellNested) (hm : m ∈ root.nodes)
    (hn : n ∈ root.nodes) :
    m ∈ n.nodes ∨ n ∈ m.nodes ∨ m.stop ≤ n.start ∨ n.stop ≤ m.start := by
  induction root using childInduction with
  | step root ih =>
    rcases mem_nodes_iff.mp hm with rfl | ⟨c, hc, hmc⟩
    · exact Or.inr (Or.inl hn)
    · rcases mem_nodes_iff.mp hn with rfl | ⟨d, hd, hnd⟩
      · exact Or.inl hm
      · have hcn := h.of_mem (mem_nodes_of_mem_children hc)
        have hdn := h.of_mem (mem_nodes_of_mem_children hd)
        rcases h.eq_or_apart hc hd with rfl | hapart
        · exact ih c hc hcn hmc hnd
        · -- below different children nodes are as far apart as the children
          have hmrange := hcn.range hmc
          have hnrange := hdn.range hnd
          omega

/-- A node that is not empty lies inside two nodes only if one of these lies inside the other. -/
theorem WellNested.inside_of_common {root m n c : Node} (h : root.WellNested) (hm : m ∈ root.nodes)
    (hn : n ∈ root.nodes) (hcm : c ∈ m.nodes) (hcn : c ∈ n.nodes) (hwide : c.start < c.stop) :
    m ∈ n.nodes ∨ n ∈ m.nodes := by
  have hmrange := (h.of_mem hm).range hcm
  have hnrange := (h.of_mem hn).range hcn
  rcases h.inside_or_apart hm hn with hin | hin | hapart | hapart
  · exact Or.inl hin
  · exact Or.inr hin
  · omega
  · omega

/-- What encloses a node `c` below a child `d` of `n`, and lies inside `n`, is `n` or lies inside that
child. -/
theorem WellNested.eq_or_mem_nodes_child {n d c m : Node} (h : n.WellNested) (hd : d ∈ n.children)
    (hcd : c ∈ d.nodes) (hwide : c.start < c.stop) (hm : m ∈ n.nodes) (hcm : c ∈ m.nodes) :
    m = n ∨ m ∈ d.nodes := by
  rcases mem_nodes_iff.mp hm with rfl | ⟨e, he, hme⟩
  · exact Or.inl rfl
  · have hdrange := (h.of_mem (mem_nodes_of_mem_children hd)).range hcd
    have herange := (h.of_mem (mem_nodes_of_mem_children he)).range (mem_nodes_trans hme hcm)
    rcases h.eq_or_apart hd he with rfl | hapart
    · exact Or.inr hme
    · omega

/-- What encloses a child of `n` is the child or encloses `n`. -/
theorem WellNested.eq_or_mem_nodes_parent {root n c m : Node} (h : root.WellNested)
    (hn : n ∈ root.nodes) (hm : m ∈ root.nodes) (hc : c ∈ n.children) (hwide : c.start < c.stop)
    (hcm : c ∈ m.nodes) : m = c ∨ n ∈ m.nodes := by
  have hcn := mem_nodes_of_mem_children hc
  rcases h.inside_of_common hm hn hcm hcn hwide with hin | hin
  · rcases (h.of_mem hn).eq_or_mem_nodes_child hc (mem_nodes_self c) hwide hin hcm with rfl | hmc
    · exact Or.inr (mem_nodes_self m)
    · exact Or.inl (eq_of_mem_nodes hmc hcm)
  · exact Or.inr hin

/-- The nodes that enclose the node of a site are the nodes above it. -/
theorem WellNested.mem_above_of_mem_nodes {root c m : Node} {above : List Node}
    (h : root.WellNested) (hs : (⟨c, above⟩ : Site) ∈ root.sites) (hm : m ∈ root.nodes)
    (hwide : c.start < c.stop) (hcm : c ∈ m.nodes) : m = c ∨ m ∈ above := by
  induction above generalizing c with
  | nil =>
    rw [mem_sites_nil.mp hs] at hcm ⊢
    exact Or.inl (eq_of_mem_nodes hm hcm)
  | cons p above ih =>
    obtain ⟨hp, hc⟩ := mem_sites_cons.mp hs
    have hc := (mem_namedChildren.mp hc).1
    have hproot := mem_nodes_of_mem_sites hp
    rcases h.eq_or_mem_nodes_parent hproot hm hc hwide hcm with rfl | hpm
    · exact Or.inl rfl
    · have hrange := (h.of_mem hproot).range (mem_nodes_of_mem_children hc)
      rcases ih hp (by dsimp only at hrange; omega) hpm with rfl | hmem
      · exact Or.inr List.mem_cons_self
      · exact Or.inr (List.mem_cons_of_mem p hmem)

end JsxTagger.Syntax.Node
