import JsxTagger.Proofs.Component.Declared

/-!
# What classification reads

Classification reads the texts of some nodes, and all of them lie in the tree. A tree whose nodes can
be read is therefore classified (`allLegible_classifyReads`).
-/

namespace JsxTagger.Classify

open Syntax

/-- Some node of a tree cannot be read. -/
def HasIllegible (source : Bytes) (n : Node) : Prop := ∃ m ∈ n.nodes, m.isLegible source = false

theorem HasIllegible.of_mem {source : Bytes} {n m : Node} (h : HasIllegible source m)
    (hm : m ∈ n.nodes) : HasIllegible source n := by
  obtain ⟨k, hk, hl⟩ := h
  exact ⟨k, Node.mem_nodes_trans hm hk, hl⟩

/-- If not all nodes of a list can be read and they all lie inside a tree, something in the tree
cannot be read. -/
theorem HasIllegible.of_reads {source : Bytes} {n : Node} {reads : List Node}
    (hreads : ∀ m ∈ reads, m ∈ n.nodes) (h : allLegible source reads = false) :
    HasIllegible source n := by
  rw [allLegible, List.all_eq_false] at h
  obtain ⟨m, hm, hl⟩ := h
  exact ⟨m, hreads m hm, by simpa using hl⟩

/-! ## What is read lies where one would expect it -/

theorem mem_nodes_of_mem_calleeReads {source : Bytes} {callee m : Node} {object : String}
    (h : m ∈ calleeReads source callee object) : m ∈ callee.nodes := by
  rw [calleeReads] at h
  split at h
  · rw [List.mem_singleton.mp h]
    exact Node.mem_nodes_self callee
  · split at h
    · rw [memberReads] at h
      split at h
      · rename_i o ho
        split at h
        · rcases List.mem_cons.mp h with rfl | h
          · exact Node.mem_nodes_of_child? ho
          · split at h
            · exact Node.mem_nodes_of_child? (Option.mem_toList.mp h)
            · cases h
        · cases h
      · cases h
    · cases h

theorem mem_nodes_of_mem_wrapperReads {source : Bytes} {call m : Node}
    (h : m ∈ wrapperReads source call) : m ∈ call.nodes := by
  rw [wrapperReads] at h
  split at h
  · rename_i callee hcallee
    exact Node.mem_nodes_trans (Node.mem_nodes_of_child? hcallee) (mem_nodes_of_mem_calleeReads h)
  · cases h

theorem mem_nodes_of_mem_nameReads {anchor m : Node} (h : m ∈ nameReads anchor) :
    m ∈ anchor.nodes := by
  rw [nameReads] at h
  split at h
  · exact Node.mem_nodes_of_child? (Option.mem_toList.mp h)
  · exact Node.mem_nodes_of_child? (Option.mem_toList.mp h)
  · exact Node.mem_nodes_of_child? (Option.mem_toList.mp h)
  · exact Node.mem_nodes_of_child? (Option.mem_toList.mp (List.mem_filter.mp h).1)
  · cases h

theorem mem_nodes_of_mem_heritageReads {source : Bytes} {cls m : Node}
    (h : m ∈ heritageReads source cls) : m ∈ cls.nodes := by
  rw [heritageReads] at h
  split at h
  · rename_i heritage hheritage
    split at h
    · rename_i base hbase
      obtain ⟨first, hfirst, hbase⟩ := Option.bind_eq_some_iff.mp hbase
      have hheritage := (Node.mem_namedChildren.mp (List.mem_of_find?_eq_some hheritage)).1
      have hfirst := Node.mem_children_of_firstNamedChild? hfirst
      have hin := Node.mem_nodes_trans (Node.mem_nodes_of_mem_children hheritage)
        (Node.mem_nodes_of_mem_children hfirst)
      exact Node.mem_nodes_trans (Node.mem_nodes_trans hin (Node.mem_nodes_of_unwrapped? hbase))
        (mem_nodes_of_mem_calleeReads h)
    · cases h
  · cases h

theorem mem_nodes_of_mem_wrappedReads {source : Bytes} {root m : Node} {s : Site}
    (hs : s ∈ root.sites) (h : m ∈ wrappedReads source s) : m ∈ root.nodes := by
  rw [wrappedReads] at h
  split at h
  · rename_i list outer above henclosing
    split at h
    · have houter : outer ∈ s.above := mem_above_of_mem_enclosing (by simp [henclosing])
      exact Node.mem_nodes_trans (Node.mem_nodes_of_mem_above hs houter)
        (mem_nodes_of_mem_wrapperReads h)
    · cases h
  · cases h

theorem mem_nodes_of_mem_describeReads {source : Bytes} {root m : Node} {s : Site}
    (hs : s ∈ root.sites) (h : m ∈ describeReads source s) : m ∈ root.nodes := by
  have hin := Node.mem_nodes_of_mem_sites hs
  rcases List.mem_append.mp h with h | h
  · split at h
    · exact Node.mem_nodes_trans hin (mem_nodes_of_mem_heritageReads h)
    · rcases List.mem_append.mp h with h | h
      · exact Node.mem_nodes_trans hin (mem_nodes_of_mem_wrapperReads h)
      · split at h
        · exact mem_nodes_of_mem_wrappedReads hs h
        · cases h
    · split at h
      · exact Node.mem_nodes_trans hin (mem_nodes_of_mem_heritageReads h)
      · cases h
    · cases h
  · cases hd : describe source s with
    | none =>
      rw [hd] at h
      cases h
    | some found =>
      rw [hd] at h
      have hanchor := (describe_eq_some (n := found.1) (c := found.2) hd).1
      have hsite := Node.mem_nodes_of_mem_sites (mem_sites_anchorSite hs)
      exact Node.mem_nodes_trans (hanchor ▸ hsite) (mem_nodes_of_mem_nameReads h)

theorem mem_nodes_of_mem_exportReads {statement m : Node} (h : m ∈ exportReads statement) :
    m ∈ statement.nodes := by
  have hchildren : ∀ {n c : Node}, c ∈ n.namedChildren → c ∈ n.nodes := fun hc =>
    Node.mem_nodes_of_mem_children (Node.mem_namedChildren.mp hc).1
  have hname : m ∈ exportReads.nameOf (statement.child? .declaration) → m ∈ statement.nodes := by
    intro h
    obtain ⟨declaration, hd, hm⟩ := Option.bind_eq_some_iff.mp (Option.mem_toList.mp h)
    exact Node.mem_nodes_trans (Node.mem_nodes_of_child? hd) (Node.mem_nodes_of_child? hm)
  rw [exportReads] at h
  split at h
  · split at h
    · rename_i value hvalue
      split at h
      · rw [List.mem_singleton.mp h]
        exact Node.mem_nodes_of_child? hvalue
      · exact hname h
    · exact hname h
  · rcases List.mem_append.mp h with h | h
    · obtain ⟨specifier, hs, hm⟩ := List.mem_flatMap.mp h
      obtain ⟨clause, hc, hs⟩ := List.mem_flatMap.mp hs
      have hin := Node.mem_nodes_trans (hchildren (List.mem_filter.mp hc).1)
        (hchildren (List.mem_filter.mp hs).1)
      rcases Option.or_eq_some_iff.mp (Option.mem_toList.mp hm) with hm | ⟨-, hm⟩ <;>
        exact Node.mem_nodes_trans hin (Node.mem_nodes_of_child? hm)
    · cases hd : statement.child? .declaration with
      | none =>
        rw [hd] at h
        cases h
      | some declaration =>
        rw [hd] at h
        refine Node.mem_nodes_trans (Node.mem_nodes_of_child? hd) ?_
        rw [Option.map_some, Option.getD_some, exportReads.declaredReads] at h
        split at h
        · obtain ⟨declarator, hdeclarator, hm⟩ := List.mem_flatMap.mp h
          exact Node.mem_nodes_trans (hchildren (List.mem_filter.mp hdeclarator).1)
            (mem_nodes_of_mem_nameReads hm)
        · exact Node.mem_nodes_of_child? (Option.mem_toList.mp h)

/-- A tree whose nodes can be read is classified. -/
theorem allLegible_classifyReads {tree : SourceTree}
    (h : ¬ HasIllegible tree.source tree.root) :
    allLegible tree.source (classifyReads tree) = true := by
  rw [← Bool.not_eq_false]
  intro hfalse
  refine h (HasIllegible.of_reads (fun m hm => ?_) hfalse)
  rcases List.mem_append.mp hm with hm | hm
  · obtain ⟨s, hs, hm⟩ := List.mem_flatMap.mp hm
    exact mem_nodes_of_mem_describeReads hs hm
  · obtain ⟨statement, hs, hm⟩ := List.mem_flatMap.mp hm
    have hmem := (Node.mem_namedChildren.mp (List.mem_filter.mp hs).1).1
    exact Node.mem_nodes_trans (Node.mem_nodes_of_mem_children hmem)
      (mem_nodes_of_mem_exportReads hm)

end JsxTagger.Classify
