import Mathlib.Data.List.Basic
import JsxTagger.Syntax.Node

/-!
# Pre-order traversals

`Site.drain` is a loop over a stack. This file opens it up once: what the loop reports for a stack is
what it reports for the sites on it one after another (`drain_eq_flatMap`), so that a traversal is a
recursion over the tree (`Site.walk_eq`, `Node.walk_eq`). The membership lemmas say which nodes are
reached and that a site carries its true ancestors (`Node.mem_sites_cons`).
-/

namespace JsxTagger.Syntax

/-- Induction over a tree: a property holds of every node if it passes from the children of a node to
the node. -/
@[elab_as_elim]
theorem Node.childInduction {P : Node → Prop} (step : ∀ n, (∀ c ∈ n.children, P c) → P n)
    (n : Node) : P n :=
  step n fun c _hc => Node.childInduction step c
termination_by n.size
decreasing_by exact Node.size_lt_of_mem_children _hc

namespace Site

variable {keep enter : Node → Bool}

/-! ## The loop as a recursion over the tree -/

@[simp]
theorem drain_nil : drain keep enter [] = [] := by rw [drain]

theorem drain_cons (s : Site) (rest : List Site) :
    drain keep enter (s :: rest) =
      s :: drain keep enter ((if enter s.node then s.below keep else []) ++ rest) := by
  rw [drain]

/-- The loop deals with the front of the stack before it looks at the rest. -/
theorem drain_append (front rest : List Site) :
    drain keep enter (front ++ rest) = drain keep enter front ++ drain keep enter rest := by
  induction front using drain.induct keep enter with
  | case1 => simp
  | case2 s front ih =>
    simp only [dite_eq_ite] at ih
    rw [List.cons_append, drain_cons, ← List.append_assoc, ih, drain_cons, List.cons_append]

/-- What the loop reports for a stack that holds a single site. -/
def visit (keep enter : Node → Bool) (s : Site) : List Site := drain keep enter [s]

theorem drain_eq_flatMap (stack : List Site) :
    drain keep enter stack = stack.flatMap (visit keep enter) := by
  induction stack with
  | nil => simp
  | cons s rest ih => rw [← List.singleton_append, drain_append, ih]; rfl

/-- A site is reported first, and then what lies below its children, child by child. -/
theorem visit_eq (s : Site) :
    visit keep enter s =
      s :: (if enter s.node then (s.below keep).flatMap (visit keep enter) else []) := by
  rw [visit, drain_cons, List.append_nil, drain_eq_flatMap]
  split <;> rfl

theorem walk_eq (skip : Kind → Bool) (s : Site) :
    walk skip s =
      s :: (s.below Node.named).flatMap (visit Node.named fun n => !skip n.kind) := by
  rw [walk, drain_eq_flatMap]

/-- Without kinds to skip, the site at which a walk starts is a site like the others. -/
theorem walk_none (s : Site) :
    walk (fun _ => false) s = visit Node.named (fun _ => true) s := by
  rw [walk_eq, visit_eq]
  simp

theorem mem_below {s t : Site} :
    t ∈ s.below keep ↔
      t.node ∈ s.node.children ∧ keep t.node = true ∧ t.above = s.node :: s.above := by
  obtain ⟨n, above⟩ := t
  simp only [below, List.mem_map, List.mem_filter, Site.mk.injEq]
  constructor
  · rintro ⟨c, ⟨hc, hk⟩, rfl, rfl⟩
    exact ⟨hc, hk, rfl⟩
  · rintro ⟨hc, hk, rfl⟩
    exact ⟨n, ⟨hc, hk⟩, rfl, rfl⟩

/-! ## Ancestors further up do not matter -/

/-- A site seen from further up, with more ancestors. -/
def lift (further : List Node) (s : Site) : Site := ⟨s.node, s.above ++ further⟩

@[simp]
theorem lift_node (further : List Node) (s : Site) : (s.lift further).node = s.node := rfl

@[simp]
theorem lift_above (further : List Node) (s : Site) :
    (s.lift further).above = s.above ++ further := rfl

theorem below_lift (further : List Node) (s : Site) :
    (s.lift further).below keep = (s.below keep).map (lift further) := by
  simp [below, lift, Function.comp_def]

theorem visit_lift (keep enter : Node → Bool) (further : List Node) (n : Node) :
    ∀ above, visit keep enter (lift further ⟨n, above⟩) =
      (visit keep enter ⟨n, above⟩).map (lift further) := by
  induction n using Node.childInduction with
  | step n ih =>
    intro above
    rw [visit_eq, visit_eq, lift_node, List.map_cons, below_lift]
    split
    · congr 1
      rw [List.flatMap_map, List.map_flatMap]
      refine List.flatMap_congr fun t ht => ?_
      obtain ⟨c, tabove⟩ := t
      exact ih c (mem_below.mp ht).1 tabove
    · rfl

end Site

namespace Node

/-- The sites of a subtree inside a larger tree are its own sites seen from further up. -/
theorem visit_named_eq (n : Node) (above : List Node) :
    Site.visit Node.named (fun _ => true) ⟨n, above⟩ = n.sites.map (Site.lift above) := by
  have h := Site.visit_lift Node.named (fun _ => true) above n []
  rw [sites, Site.walk_none, ← h]
  simp [Site.lift]

theorem sites_eq (n : Node) :
    n.sites = ⟨n, []⟩ :: n.namedChildren.flatMap fun c => c.sites.map (Site.lift [n]) := by
  rw [sites, Site.walk_none, Site.visit_eq]
  simp only [if_true, Site.below, List.flatMap_map, visit_named_eq, namedChildren]

theorem map_node_sites (n : Node) : n.sites.map (·.node) = n.walk := rfl

theorem walk_eq (n : Node) : n.walk = n :: n.namedChildren.flatMap fun c => c.walk := by
  rw [← map_node_sites, sites_eq, List.map_cons, List.map_flatMap]
  simp only [List.map_map, Function.comp_def, Site.lift_node, ← map_node_sites]

theorem sites_leaf (label : Label) : (Node.mk label []).sites = [⟨.mk label [], []⟩] := by
  rw [sites_eq]
  rfl

theorem walk_of_namedChildren {n : Node} (h : n.namedChildren = []) : n.walk = [n] := by
  rw [walk_eq, h]
  rfl

theorem mem_namedChildren {n c : Node} : c ∈ n.namedChildren ↔ c ∈ n.children ∧ c.named = true := by
  simp [namedChildren]

theorem mem_walk_self (n : Node) : n ∈ n.walk := by
  rw [walk_eq]
  exact List.mem_cons_self

theorem mem_walk_iff {n m : Node} :
    m ∈ n.walk ↔ m = n ∨ ∃ c ∈ n.namedChildren, m ∈ c.walk := by
  rw [walk_eq, List.mem_cons, List.mem_flatMap]

/-- The nodes properly below a node. -/
theorem mem_tail_walk_iff {n m : Node} : m ∈ n.walk.tail ↔ ∃ c ∈ n.namedChildren, m ∈ c.walk := by
  rw [walk_eq, List.tail_cons, List.mem_flatMap]

theorem mem_walk_trans {n m k : Node} (hm : m ∈ n.walk) (hk : k ∈ m.walk) : k ∈ n.walk := by
  induction n using childInduction with
  | step n ih =>
    rcases mem_walk_iff.mp hm with rfl | ⟨c, hc, hmc⟩
    · exact hk
    · exact mem_walk_iff.mpr (Or.inr ⟨c, hc, ih c (mem_namedChildren.mp hc).1 hmc⟩)

/-! ## Sites and their ancestors -/

theorem mem_sites_iff {n : Node} {t : Site} :
    t ∈ n.sites ↔
      t = ⟨n, []⟩ ∨ ∃ c ∈ n.namedChildren, ∃ u ∈ c.sites, t = u.lift [n] := by
  rw [sites_eq, List.mem_cons, List.mem_flatMap]
  simp only [List.mem_map, eq_comm]

theorem mem_sites_nil {n c : Node} : (⟨c, []⟩ : Site) ∈ n.sites ↔ c = n := by
  rw [mem_sites_iff]
  constructor
  · rintro (h | ⟨d, _, u, _, h⟩)
    · exact (Site.mk.inj h).1
    · have := (Site.mk.inj h).2
      simp at this
  · rintro rfl
    exact Or.inl rfl

/-- A site is a site of the tree exactly if its parent's is and it is a named child there. -/
theorem mem_sites_cons {n c p : Node} {above : List Node} :
    (⟨c, p :: above⟩ : Site) ∈ n.sites ↔ (⟨p, above⟩ : Site) ∈ n.sites ∧ c ∈ p.namedChildren := by
  induction n using childInduction generalizing above with
  | step n ih =>
    constructor
    · intro h
      rcases mem_sites_iff.mp h with h | ⟨d, hd, ⟨u, uabove⟩, hu, h⟩
      · exact absurd (Site.mk.inj h).2 (by simp)
      · obtain ⟨rfl, h⟩ := Site.mk.inj h
        -- either the site is a child of `n` itself, or the root of the subtree is further up
        rcases uabove with - | ⟨q, rest⟩
        · obtain ⟨rfl, rfl⟩ := List.cons.inj h
          have huc := mem_sites_nil.mp hu
          rw [huc]
          exact ⟨mem_sites_nil.mpr rfl, hd⟩
        · obtain ⟨rfl, rfl⟩ := List.cons.inj h
          obtain ⟨hp, hcp⟩ := (ih d (mem_namedChildren.mp hd).1).mp hu
          exact ⟨mem_sites_iff.mpr (Or.inr ⟨d, hd, _, hp, rfl⟩), hcp⟩
    · rintro ⟨hp, hcp⟩
      rcases mem_sites_iff.mp hp with h | ⟨d, hd, ⟨u, uabove⟩, hu, h⟩
      · obtain ⟨rfl, rfl⟩ := Site.mk.inj h
        exact mem_sites_iff.mpr (Or.inr ⟨c, hcp, ⟨c, []⟩, mem_sites_nil.mpr rfl, rfl⟩)
      · obtain ⟨rfl, rfl⟩ := Site.mk.inj h
        have hcd := (ih d (mem_namedChildren.mp hd).1).mpr ⟨hu, hcp⟩
        exact mem_sites_iff.mpr (Or.inr ⟨d, hd, _, hcd, rfl⟩)

/-- An ancestor of a site is a site of the tree, and the site's node lies below it. -/
theorem mem_sites_ancestor {root c m : Node} {inner outer : List Node}
    (h : (⟨c, inner ++ m :: outer⟩ : Site) ∈ root.sites) :
    (⟨m, outer⟩ : Site) ∈ root.sites ∧ c ∈ m.walk.tail := by
  induction inner generalizing c with
  | nil =>
    obtain ⟨hm, hc⟩ := mem_sites_cons.mp h
    exact ⟨hm, mem_tail_walk_iff.mpr ⟨c, hc, mem_walk_self c⟩⟩
  | cons p inner ih =>
    obtain ⟨hp, hc⟩ := mem_sites_cons.mp h
    obtain ⟨hm, hpm⟩ := ih hp
    obtain ⟨d, hd, hpd⟩ := mem_tail_walk_iff.mp hpm
    have hcp : c ∈ p.walk := mem_walk_iff.mpr (Or.inr ⟨c, hc, mem_walk_self c⟩)
    exact ⟨hm, mem_tail_walk_iff.mpr ⟨d, hd, mem_walk_trans hpd hcp⟩⟩

theorem mem_walk_of_mem_sites {root : Node} {s : Site} (h : s ∈ root.sites) :
    s.node ∈ root.walk := by
  rw [← map_node_sites]
  exact List.mem_map_of_mem h

end Node

end JsxTagger.Syntax
