import JsxTagger.Proofs.Syntax.Nesting

/-!
# Places of nodes

Two nodes of a tree can be alike, so that a list of nodes does not tell whether one of them comes twice.
What tells them apart is their place, which says which child to take in turn on the way down from the
root (`Node.at?`). Places in dictionary order are in document order: a node comes before what is below
it, and that comes before the next child. In a well-nested tree later places start no earlier
(`WellNested.start_le_start`).

`Node.placed` is the recursion that the loop of the traversals stands for, with the places it comes to.
The loop reports the same nodes (`map_visit_eq_map_placed`), in the order of their places
(`pairwise_placed`).
-/

namespace JsxTagger.Syntax.Node

/-- The node at a place, which says which child to take in turn. -/
def at? : Node → List Nat → Option Node
  | n, [] => some n
  | n, i :: place => n.children[i]?.bind fun c => c.at? place

section At

variable {n m : Node} {i : Nat} {place : List Nat}

theorem at?_cons_eq_some :
    n.at? (i :: place) = some m ↔ ∃ c, n.children[i]? = some c ∧ c.at? place = some m := by
  rw [at?, Option.bind_eq_some_iff]

theorem mem_nodes_of_at? (h : n.at? place = some m) : m ∈ n.nodes := by
  induction place generalizing n with
  | nil =>
    cases h
    exact mem_nodes_self _
  | cons i place ih =>
    obtain ⟨c, hc, h⟩ := at?_cons_eq_some.mp h
    exact mem_nodes_iff.mpr (Or.inr ⟨c, List.mem_of_getElem? hc, ih h⟩)

/-- Of two children of a well-nested node, what is in the one with the smaller number starts no later than
what is in the other. -/
theorem WellNested.start_le_start_of_lt {c d a b : Node} {i j : Nat} (h : n.WellNested) (hij : i < j)
    (hc : n.children[i]? = some c) (hd : n.children[j]? = some d) (ha : a ∈ c.nodes) (hb : b ∈ d.nodes) :
    a.start ≤ b.start := by
  have hcn := h.of_mem (mem_nodes_of_mem_children (List.mem_of_getElem? hc))
  have hdn := h.of_mem (mem_nodes_of_mem_children (List.mem_of_getElem? hd))
  obtain ⟨hi, rfl⟩ := List.getElem?_eq_some_iff.mp hc
  obtain ⟨hj, rfl⟩ := List.getElem?_eq_some_iff.mp hd
  have hapart := List.pairwise_iff_getElem.mp h.children i j hi hj hij
  calc a.start ≤ a.stop := (hcn.of_mem ha).start_le_stop
    _ ≤ n.children[i].stop := (hcn.range ha).2
    _ ≤ n.children[j].start := hapart
    _ ≤ b.start := (hdn.range hb).1

/-- In a well-nested tree a node starts no later than one whose place is not earlier. -/
theorem WellNested.start_le_start {a b : Node} {p q : List Nat} (h : n.WellNested)
    (ha : n.at? p = some a) (hb : n.at? q = some b) (horder : ¬ q < p) : a.start ≤ b.start := by
  induction p generalizing n q with
  | nil =>
    cases ha
    exact (h.range (mem_nodes_of_at? hb)).1
  | cons i p ih =>
    cases q with
    | nil => exact absurd (List.nil_lt_cons i p) horder
    | cons j q =>
      obtain ⟨c, hc, ha⟩ := at?_cons_eq_some.mp ha
      obtain ⟨d, hd, hb⟩ := at?_cons_eq_some.mp hb
      obtain ⟨hji, hinner⟩ := not_or.mp (mt List.cons_lt_cons_iff.mpr horder)
      rcases Nat.lt_or_eq_of_le (Nat.le_of_not_lt hji) with hij | rfl
      · exact h.start_le_start_of_lt hij hc hd (mem_nodes_of_at? ha) (mem_nodes_of_at? hb)
      · rw [hc] at hd
        cases hd
        have hcn := h.of_mem (mem_nodes_of_mem_children (List.mem_of_getElem? hc))
        exact ih hcn ha hb fun hlt => hinner ⟨rfl, hlt⟩

end At

/-! ## The recursion behind the loop -/

mutual

/-- The nodes at and below a node in pre-order with their places, where `keep` says which children count
and `enter` which nodes are gone into. -/
def placed (keep enter : Node → Bool) : Node → List (List Nat × Node)
  | .mk label children =>
    ([], .mk label children) ::
      (if enter (.mk label children) then placedAll keep enter 0 children else [])

/-- The same for a list of children, which are numbered from `i` on. -/
def placedAll (keep enter : Node → Bool) (i : Nat) : List Node → List (List Nat × Node)
  | [] => []
  | c :: cs =>
    (if keep c then (placed keep enter c).map (Prod.map (i :: ·) id) else []) ++
      placedAll keep enter (i + 1) cs

end

section Placed

variable {keep enter : Node → Bool} {n m : Node} {cs : List Node} {i : Nat} {place : List Nat}

theorem placed_eq (n : Node) :
    n.placed keep enter = ([], n) :: (if enter n then placedAll keep enter 0 n.children else []) := by
  cases n
  rw [placed]
  rfl

theorem map_placedAll (i : Nat) (cs : List Node) :
    (placedAll keep enter i cs).map (·.2) =
      (cs.filter keep).flatMap fun c => (c.placed keep enter).map (·.2) := by
  induction cs generalizing i with
  | nil => simp [placedAll]
  | cons c cs ih => cases hc : keep c <;> simp [placedAll, hc, ih, Function.comp_def]

/-- The loop reports the nodes of the recursion. -/
theorem map_visit_eq_map_placed (n : Node) (above : List Node) :
    (Site.visit keep enter ⟨n, above⟩).map (·.node) = (n.placed keep enter).map (·.2) := by
  induction n using childInduction generalizing above with
  | step n ih =>
    rw [Site.visit_eq, placed_eq, List.map_cons, List.map_cons]
    split
    · rw [map_placedAll, Site.below, List.flatMap_map, List.map_flatMap]
      congr 1
      exact List.flatMap_congr fun c hc => ih c (List.mem_filter.mp hc).1 _
    · rfl

theorem mem_placedAll : (place, m) ∈ placedAll keep enter i cs ↔
    ∃ j c inner, place = (i + j) :: inner ∧ cs[j]? = some c ∧ keep c = true ∧
      (inner, m) ∈ c.placed keep enter := by
  induction cs generalizing i with
  | nil => simp [placedAll]
  | cons c cs ih =>
    rw [placedAll, List.mem_append, ih]
    constructor
    · rintro (hfirst | ⟨j, d, inner, rfl, hd, hkeep, hm⟩)
      · split at hfirst
        · rename_i hkeep
          obtain ⟨⟨inner, k⟩, hk, heq⟩ := List.mem_map.mp hfirst
          cases heq
          exact ⟨0, c, inner, rfl, rfl, hkeep, hk⟩
        · cases hfirst
      · exact ⟨j + 1, d, inner, by rw [Nat.add_right_comm, Nat.add_assoc], hd, hkeep, hm⟩
    · rintro ⟨_ | j, d, inner, rfl, hd, hkeep, hm⟩
      · cases hd
        rw [if_pos hkeep]
        exact Or.inl (List.mem_map.mpr ⟨(inner, m), hm, rfl⟩)
      · exact Or.inr ⟨j, d, inner, by rw [Nat.add_right_comm, Nat.add_assoc], hd, hkeep, hm⟩

theorem mem_placed : (place, m) ∈ n.placed keep enter ↔
    (place, m) = ([], n) ∨ enter n = true ∧ (place, m) ∈ placedAll keep enter 0 n.children := by
  rw [placed_eq, List.mem_cons]
  cases enter n <;> simp

theorem mem_placed_nil : ([], m) ∈ n.placed keep enter ↔ m = n := by
  rw [mem_placed, mem_placedAll]
  simp

theorem mem_placed_cons : (i :: place, m) ∈ n.placed keep enter ↔
    enter n = true ∧
      ∃ c, n.children[i]? = some c ∧ keep c = true ∧ (place, m) ∈ c.placed keep enter := by
  rw [mem_placed, mem_placedAll]
  simp

/-- Where nothing is left out, the recursion comes to every place. -/
theorem mem_placed_iff_at? :
    (place, m) ∈ n.placed (fun _ => true) (fun _ => true) ↔ n.at? place = some m := by
  induction place generalizing n with
  | nil => rw [mem_placed_nil, at?, Option.some.injEq, eq_comm]
  | cons i place ih => simp [mem_placed_cons, at?_cons_eq_some, ih]

theorem pairwise_placedAll (h : ∀ c ∈ cs, (c.placed keep enter).Pairwise fun a b => a.1 < b.1) (i : Nat) :
    (placedAll keep enter i cs).Pairwise fun a b => a.1 < b.1 := by
  induction cs generalizing i with
  | nil => simp [placedAll]
  | cons c cs ih =>
    rw [placedAll, List.pairwise_append]
    refine ⟨?_, ih (fun d hd => h d (List.mem_cons_of_mem c hd)) (i + 1), ?_⟩
    · split
      · exact List.pairwise_map.mpr
          ((h c List.mem_cons_self).imp fun hlt => List.cons_lt_cons_self.mpr hlt)
      · exact .nil
    · -- the numbers of the other children are greater
      rintro ⟨p, a⟩ ha ⟨q, b⟩ hb
      obtain ⟨j, d, inner, rfl, -⟩ := mem_placedAll.mp hb
      split at ha
      · obtain ⟨⟨p, a⟩, -, heq⟩ := List.mem_map.mp ha
        cases heq
        exact List.cons_lt_cons_iff.mpr (Or.inl (by omega))
      · cases ha

theorem nil_lt_of_mem_placedAll {a : List Nat × Node} (h : a ∈ placedAll keep enter i cs) : [] < a.1 := by
  obtain ⟨place, m⟩ := a
  obtain ⟨j, c, inner, rfl, -⟩ := mem_placedAll.mp h
  exact List.nil_lt_cons _ _

/-- The recursion comes to the places in dictionary order. -/
theorem pairwise_placed (n : Node) : (n.placed keep enter).Pairwise fun a b => a.1 < b.1 := by
  induction n using childInduction with
  | step n ih =>
    rw [placed_eq]
    split
    · exact List.pairwise_cons.mpr ⟨fun a ha => nil_lt_of_mem_placedAll ha, pairwise_placedAll ih 0⟩
    · exact List.pairwise_singleton _ _

end Placed

end JsxTagger.Syntax.Node
