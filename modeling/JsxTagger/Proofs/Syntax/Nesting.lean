import Mathlib.Data.List.Pairwise
import JsxTagger.Proofs.Syntax.Preorder

/-!
# Well-nested trees

In the tree of a text every node spans a stretch of the text, the stretches of its children lie inside
in the order of the children, and they do not overlap. The main statement, `pairwise_sites`, says what
this makes of the pre-order: of two nodes, the later one lies below the earlier one or starts where
the earlier one has already ended.

`walk_skip_eq_filter` describes the walk that leaves out what lies inside certain kinds of nodes.
-/

namespace JsxTagger.Syntax

namespace Node

/-! ## All nodes of a tree -/

/-- The nodes of a tree in pre-order, anonymous ones included. -/
def nodes (n : Node) : List Node :=
  (Site.visit (fun _ => true) (fun _ => true) ⟨n, []⟩).map (·.node)

theorem nodes_eq (n : Node) : n.nodes = n :: n.children.flatMap nodes := by
  have hchild : ∀ c, (Site.visit (fun _ => true) (fun _ => true) ⟨c, [n]⟩).map (·.node) = c.nodes := by
    intro c
    have h := Site.visit_lift (fun _ => true) (fun _ => true) [n] c []
    rw [show (⟨c, [n]⟩ : Site) = Site.lift [n] ⟨c, []⟩ from rfl, h, List.map_map]
    rfl
  rw [nodes, Site.visit_eq]
  simp [Site.below, List.map_flatMap, List.flatMap_map, hchild]

theorem mem_nodes_iff {n m : Node} : m ∈ n.nodes ↔ m = n ∨ ∃ c ∈ n.children, m ∈ c.nodes := by
  rw [nodes_eq, List.mem_cons, List.mem_flatMap]

theorem mem_nodes_self (n : Node) : n ∈ n.nodes := mem_nodes_iff.mpr (Or.inl rfl)

theorem mem_nodes_leaf {label : Label} {m : Node} : m ∈ (Node.mk label []).nodes ↔ m = .mk label [] := by
  rw [mem_nodes_iff]
  simp [Node.children]

theorem mem_nodes_trans {n m k : Node} (hm : m ∈ n.nodes) (hk : k ∈ m.nodes) : k ∈ n.nodes := by
  induction n using childInduction with
  | step n ih =>
    rcases mem_nodes_iff.mp hm with rfl | ⟨c, hc, hmc⟩
    · exact hk
    · exact mem_nodes_iff.mpr (Or.inr ⟨c, hc, ih c hc hmc⟩)

theorem mem_nodes_of_mem_children {n c : Node} (h : c ∈ n.children) : c ∈ n.nodes :=
  mem_nodes_iff.mpr (Or.inr ⟨c, h, mem_nodes_self c⟩)

/-- A node is no larger than the tree it lies in. -/
theorem size_le_of_mem_nodes {n m : Node} (h : m ∈ n.nodes) : m.size ≤ n.size := by
  induction n using childInduction with
  | step n ih =>
    rcases mem_nodes_iff.mp h with rfl | ⟨c, hc, hm⟩
    · exact Nat.le_refl _
    · have := ih c hc hm
      have := size_lt_of_mem_children hc
      omega

theorem mem_nodes_of_mem_walk {n m : Node} (h : m ∈ n.walk) : m ∈ n.nodes := by
  induction n using childInduction with
  | step n ih =>
    rcases mem_walk_iff.mp h with rfl | ⟨c, hc, hm⟩
    · exact mem_nodes_self m
    · have hcn := (mem_namedChildren.mp hc).1
      exact mem_nodes_iff.mpr (Or.inr ⟨c, hcn, ih c hcn hm⟩)

theorem mem_children_of_child? {n c : Node} {f : Field} (h : n.child? f = some c) :
    c ∈ n.children :=
  List.mem_of_find?_eq_some h

theorem field_of_child? {n c : Node} {f : Field} (h : n.child? f = some c) : c.label.field = some f := by
  simpa using List.find?_some h

theorem mem_nodes_of_child? {n c : Node} {f : Field} (h : n.child? f = some c) : c ∈ n.nodes :=
  mem_nodes_of_mem_children (mem_children_of_child? h)

theorem mem_nodes_of_mem_sites {root : Node} {s : Site} (h : s ∈ root.sites) :
    s.node ∈ root.nodes :=
  mem_nodes_of_mem_walk (mem_walk_of_mem_sites h)

theorem mem_nodes_of_mem_above {root n : Node} {s : Site} (hs : s ∈ root.sites)
    (hn : n ∈ s.above) : n ∈ root.nodes := by
  obtain ⟨inner, outer, habove⟩ := List.append_of_mem hn
  obtain ⟨m, above⟩ := s
  change above = inner ++ n :: outer at habove
  subst habove
  exact mem_nodes_of_mem_sites (mem_sites_ancestor hs).1

/-- Every node above a site but the root is among those in front of the last one. -/
theorem eq_or_mem_dropLast_above {root n : Node} {s : Site} (hs : s ∈ root.sites)
    (hn : n ∈ s.above) : n = root ∨ n ∈ s.above.dropLast := by
  obtain ⟨inner, outer, habove⟩ := List.append_of_mem hn
  obtain ⟨c, above⟩ := s
  change above = inner ++ n :: outer at habove
  subst habove
  obtain ⟨hsite, -⟩ := mem_sites_ancestor hs
  rcases List.eq_nil_or_concat' outer with rfl | ⟨outer, last, rfl⟩
  · exact Or.inl (mem_sites_nil.mp hsite)
  · right
    rw [← List.cons_append, ← List.append_assoc, List.dropLast_concat]
    simp

/-- The expression inside parentheses is a node of the parenthesised one. -/
theorem mem_nodes_of_unwrapped? {n m : Node} (h : n.unwrapped? = some m) : m ∈ n.nodes := by
  induction n using childInduction with
  | step n ih =>
    rw [unwrapped?] at h
    split at h
    · split at h
      · cases h
      · rename_i c hc
        have hcn := mem_children_of_firstNamedChild? hc
        exact mem_nodes_iff.mpr (Or.inr ⟨c, hcn, ih c hcn h⟩)
    · cases h
      exact mem_nodes_self _

/-! ## Nesting -/

/-- Whether a node ends after it starts and holds its children in order and without overlap. -/
def isWellPlaced (n : Node) : Bool :=
  decide (n.start ≤ n.stop) &&
    n.children.all (fun c => decide (n.start ≤ c.start) && decide (c.stop ≤ n.stop)) &&
    decide (n.children.Pairwise fun a b => a.stop ≤ b.start)

/-- Every node of the tree is well placed. -/
def WellNested (n : Node) : Prop := ∀ m ∈ n.nodes, m.isWellPlaced = true

instance (n : Node) : Decidable n.WellNested := inferInstanceAs (Decidable (∀ m ∈ n.nodes, _))

theorem isWellPlaced_iff {n : Node} :
    n.isWellPlaced = true ↔
      n.start ≤ n.stop ∧ (∀ c ∈ n.children, n.start ≤ c.start ∧ c.stop ≤ n.stop) ∧
        n.children.Pairwise fun a b => a.stop ≤ b.start := by
  simp [isWellPlaced, and_assoc]

theorem WellNested.of_mem {n m : Node} (h : n.WellNested) (hm : m ∈ n.nodes) : m.WellNested :=
  fun k hk => h k (mem_nodes_trans hm hk)

theorem WellNested.start_le_stop {n : Node} (h : n.WellNested) : n.start ≤ n.stop :=
  (isWellPlaced_iff.mp (h n (mem_nodes_self n))).1

theorem WellNested.children {n : Node} (h : n.WellNested) :
    n.children.Pairwise fun a b => a.stop ≤ b.start :=
  (isWellPlaced_iff.mp (h n (mem_nodes_self n))).2.2

/-- A tree is well nested if its root is well placed and its subtrees are well nested. -/
theorem wellNested_iff {n : Node} :
    n.WellNested ↔ n.isWellPlaced = true ∧ ∀ c ∈ n.children, c.WellNested := by
  constructor
  · intro h
    exact ⟨h _ (mem_nodes_self _), fun c hc => h.of_mem (mem_nodes_of_mem_children hc)⟩
  · rintro ⟨hself, hchildren⟩ m hm
    rcases mem_nodes_iff.mp hm with rfl | ⟨c, hc, hmc⟩
    · exact hself
    · exact hchildren c hc m hmc

theorem wellNested_leaf {label : Label} (h : label.start ≤ label.stop) : (Node.mk label []).WellNested :=
  wellNested_iff.mpr ⟨isWellPlaced_iff.mpr ⟨h, nofun, .nil⟩, nofun⟩

/-- A node of a well-nested tree lies within the stretch of the tree. -/
theorem WellNested.range {n m : Node} (h : n.WellNested) (hm : m ∈ n.nodes) :
    n.start ≤ m.start ∧ m.stop ≤ n.stop := by
  induction n using childInduction with
  | step n ih =>
    rcases mem_nodes_iff.mp hm with rfl | ⟨c, hc, hmc⟩
    · exact ⟨Nat.le_refl _, Nat.le_refl _⟩
    · obtain ⟨hlo, hhi⟩ := (isWellPlaced_iff.mp (h n (mem_nodes_self n))).2.1 c hc
      obtain ⟨hmlo, hmhi⟩ := ih c hc (h.of_mem (mem_nodes_of_mem_children hc)) hmc
      exact ⟨Nat.le_trans hlo hmlo, Nat.le_trans hmhi hhi⟩

theorem mem_walk_of_mem_visit {n : Node} {above : List Node} {t : Site}
    (h : t ∈ Site.visit Node.named (fun _ => true) ⟨n, above⟩) : t.node ∈ n.walk := by
  rw [visit_named_eq] at h
  obtain ⟨u, hu, rfl⟩ := List.mem_map.mp h
  exact mem_walk_of_mem_sites (s := u) hu

end Node

namespace Site

/-- The relation of a site to one that comes later in pre-order: the later one lies below it, or
starts after its end. -/
def Before (s t : Site) : Prop :=
  (t.node ∈ s.node.walk.tail ∧ ∃ inner, t.above = inner ++ s.node :: s.above) ∨
    s.node.stop ≤ t.node.start

end Site

namespace Node

theorem pairwise_visit (n : Node) (above : List Node) (h : n.WellNested) :
    (Site.visit named (fun _ => true) ⟨n, above⟩).Pairwise Site.Before := by
  induction n using childInduction generalizing above with
  | step n ih =>
    rw [Site.visit_eq]
    simp only [if_true, List.pairwise_cons, List.pairwise_flatMap]
    refine ⟨?_, ?_, ?_⟩
    · -- everything else lies below the first site
      intro t ht
      obtain ⟨⟨c, cabove⟩, hc, ht⟩ := List.mem_flatMap.mp ht
      obtain ⟨hcn, hk, rfl⟩ := Site.mem_below.mp hc
      refine Or.inl ⟨mem_tail_walk_iff.mpr ⟨c, mem_namedChildren.mpr ⟨hcn, hk⟩,
        mem_walk_of_mem_visit ht⟩, ?_⟩
      rw [visit_named_eq] at ht
      obtain ⟨u, -, rfl⟩ := List.mem_map.mp ht
      exact ⟨u.above, rfl⟩
    · rintro ⟨c, cabove⟩ hc
      obtain ⟨hcn, -, rfl⟩ := Site.mem_below.mp hc
      exact ih c hcn _ (h.of_mem (mem_nodes_of_mem_children hcn))
    · -- sites below different children are as far apart as the children
      rw [Site.below, List.pairwise_map]
      refine (h.children.sublist List.filter_sublist).imp_of_mem ?_
      intro c d hc hd hcd s hs t ht
      have hcn := (List.mem_filter.mp hc).1
      have hdn := (List.mem_filter.mp hd).1
      have hsc := (h.of_mem (mem_nodes_of_mem_children hcn)).range
        (mem_nodes_of_mem_walk (mem_walk_of_mem_visit hs))
      have htd := (h.of_mem (mem_nodes_of_mem_children hdn)).range
        (mem_nodes_of_mem_walk (mem_walk_of_mem_visit ht))
      right
      omega

/-- In a well-nested tree, of two sites the later one lies below the earlier one or starts after its
end. -/
theorem pairwise_sites {n : Node} (h : n.WellNested) : n.sites.Pairwise Site.Before := by
  rw [sites, Site.walk_none]
  exact pairwise_visit n [] h

/-- Of two sites of a well-nested tree, one comes before the other. -/
theorem before_or_before {n : Node} (h : n.WellNested) {s t : Site} (hs : s ∈ n.sites)
    (ht : t ∈ n.sites) : s = t ∨ s.Before t ∨ t.Before s := by
  have : Std.Symm fun s t : Site => s.Before t ∨ t.Before s := ⟨fun _ _ => Or.symm⟩
  by_cases heq : s = t
  · exact Or.inl heq
  · have hpairwise : n.sites.Pairwise fun s t => s.Before t ∨ t.Before s :=
      (pairwise_sites h).imp Or.inl
    exact Or.inr (hpairwise.forall hs ht heq)

/-! ## Walks that leave something out -/

theorem visit_skip_eq_filter (skip : Kind → Bool) (n : Node) :
    Site.visit named (fun m => !skip m.kind) ⟨n, []⟩ =
      n.sites.filter fun t => t.above.all fun m => !skip m.kind := by
  induction n using childInduction with
  | step n ih =>
    rw [Site.visit_eq, sites_eq, List.filter_cons_of_pos (by simp), List.filter_flatMap]
    congr 1
    have hchild : ∀ c ∈ n.namedChildren,
        (c.sites.map (Site.lift [n])).filter (fun t => t.above.all fun m => !skip m.kind) =
          if skip n.kind then [] else Site.visit named (fun m => !skip m.kind) ⟨c, [n]⟩ := by
      intro c hc
      have hlift := Site.visit_lift named (fun m => !skip m.kind) [n] c []
      rw [show (⟨c, [n]⟩ : Site) = Site.lift [n] ⟨c, []⟩ from rfl, hlift,
        ih c (mem_namedChildren.mp hc).1, List.filter_map]
      cases hk : skip n.kind <;> simp [hk, Function.comp_def]
    rw [List.flatMap_congr hchild]
    cases skip n.kind <;> simp [Site.below, namedChildren, List.flatMap_map]

/-- A walk that leaves out what lies inside certain kinds of nodes reports the sites that have no such
node above them, the root aside. -/
theorem walk_skip_eq_filter (skip : Kind → Bool) (root : Node) :
    Site.walk skip ⟨root, []⟩ =
      root.sites.filter fun t => t.above.dropLast.all fun m => !skip m.kind := by
  rw [Site.walk_eq, sites_eq, List.filter_cons_of_pos (by simp), List.filter_flatMap]
  congr 1
  simp only [Site.below, List.flatMap_map, namedChildren]
  refine List.flatMap_congr fun c hc => ?_
  have hlift := Site.visit_lift named (fun m => !skip m.kind) [root] c []
  rw [show (⟨c, [root]⟩ : Site) = Site.lift [root] ⟨c, []⟩ from rfl, hlift, visit_skip_eq_filter,
    List.filter_map]
  simp [Function.comp_def]

end Node

end JsxTagger.Syntax
