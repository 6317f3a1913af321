import Mathlib.Data.List.Find
import JsxTagger.Proofs.Syntax.Nesting

/-!
# Trees that parentheses are added to

`Parentheses` says around which nodes of a tree parentheses are put and where all nodes stand
afterwards, and `Parentheses.kept` is the tree that results. A node in parentheses gives its role to
them, so that roles are filled as before (`child?_kept`), and what is inside parentheses stays the same
(`unwrapped?_kept`), provided parentheses are put around expressions only (`Placed`). Apart from
parentheses the sites of the new tree are those of the old one (`sites_kept`).
-/

namespace JsxTagger.Syntax

/-- Parentheses that are put around nodes of a tree. -/
structure Parentheses where
  /-- The nodes that they are put around. -/
  encloses : Node → Bool
  /-- Where a node starts afterwards. -/
  start : Node → Nat
  /-- Where a node ends afterwards. -/
  stop : Node → Nat
  /-- Where the parentheses around a node start. -/
  opening : Node → Nat
  /-- Where the parentheses around a node end. -/
  closing : Node → Nat

namespace Parentheses

/-- The parentheses around a node, which take over its role. -/
def pair (b : Parentheses) (n inside : Node) : Node :=
  .mk { kind := .parenthesizedExpression, start := b.opening n, stop := b.closing n,
        field := n.label.field } [
    .mk { kind := .other "(", start := b.opening n, stop := b.opening n + 1, named := false } [],
    inside,
    .mk { kind := .other ")", start := b.closing n - 1, stop := b.closing n, named := false } []]

/-- What stands at the place of a node afterwards. -/
def enclose (b : Parentheses) (n kept : Node) : Node := if b.encloses n then b.pair n kept else kept

mutual

/-- A node with the parentheses added inside it. -/
def kept (b : Parentheses) : Node → Node
  | .mk label children =>
    .mk { label with
          start := b.start (.mk label children)
          stop := b.stop (.mk label children)
          field := if b.encloses (.mk label children) then none else label.field }
      (b.keptAll children)

/-- The children of a node, each with the parentheses added around it and inside it. -/
def keptAll (b : Parentheses) : List Node → List Node
  | [] => []
  | c :: cs => b.enclose c (b.kept c) :: b.keptAll cs

end

/-- A node with the parentheses added around it and inside it. -/
def put (b : Parentheses) (n : Node) : Node := b.enclose n (b.kept n)

/-- The parentheses around a node, if there are any. -/
def around (b : Parentheses) (n : Node) : List Node := if b.encloses n then [b.pair n (b.kept n)] else []

/-- What is above a node afterwards. -/
def above (b : Parentheses) : Node → List Node → List Node
  | _, [] => []
  | n, p :: further => b.around n ++ b.kept p :: b.above p further

/-- The site of a node in the new tree. -/
def site (b : Parentheses) (s : Site) : Site := ⟨b.kept s.node, b.above s.node s.above⟩

section

variable {b : Parentheses} {n c : Node}

theorem keptAll_eq (cs : List Node) : b.keptAll cs = cs.map b.put := by
  induction cs with
  | nil => rw [keptAll, List.map_nil]
  | cons c cs ih => rw [keptAll, ih, List.map_cons, put]

theorem children_kept : (b.kept n).children = n.children.map b.put := by
  cases n with
  | mk label children => rw [kept, Node.children, keptAll_eq, Node.children]

@[simp]
theorem kind_kept : (b.kept n).kind = n.kind := by
  cases n
  rw [kept]
  rfl

@[simp]
theorem start_kept : (b.kept n).start = b.start n := by
  cases n
  rw [kept]
  rfl

@[simp]
theorem named_kept : (b.kept n).named = n.named := by
  cases n
  rw [kept]
  rfl

theorem put_of_encloses (h : b.encloses n = true) : b.put n = b.pair n (b.kept n) := by
  rw [put, enclose, if_pos h]

theorem put_of_not_encloses (h : b.encloses n = false) : b.put n = b.kept n := by
  rw [put, enclose, if_neg (by simp [h])]

@[simp]
theorem kind_pair {inside : Node} : (b.pair n inside).kind = .parenthesizedExpression := rfl

theorem namedChildren_pair {inside : Node} (h : inside.named = true) :
    (b.pair n inside).namedChildren = [inside] := by
  rw [Node.namedChildren, pair, Node.children, List.filter_cons_of_neg (by simp [Node.named, Node.label]),
    List.filter_cons_of_pos h, List.filter_cons_of_neg (by simp [Node.named, Node.label]), List.filter_nil]

/-- The role of a node is filled by what stands at its place. -/
@[simp]
theorem field_put : (b.put n).label.field = n.label.field := by
  cases h : b.encloses n with
  | true =>
    rw [put_of_encloses h]
    rfl
  | false =>
    rw [put_of_not_encloses h]
    cases n
    rw [kept]
    simp [Node.label, h]

/-- The same roles are filled by the same nodes. -/
theorem child?_kept (f : Field) : (b.kept n).child? f = (n.child? f).map b.put := by
  rw [Node.child?, children_kept, List.find?_map, Node.child?]
  simp

/-- What stands at the place of a node holds the node. -/
theorem kept_mem_nodes_put : b.kept n ∈ (b.put n).nodes := by
  cases h : b.encloses n with
  | true =>
    rw [put_of_encloses h]
    exact Node.mem_nodes_of_mem_children (List.mem_cons_of_mem _ List.mem_cons_self)
  | false =>
    rw [put_of_not_encloses h]
    exact Node.mem_nodes_self _

theorem put_mem_children (h : c ∈ n.children) : b.put c ∈ (b.kept n).children := by
  rw [children_kept]
  exact List.mem_map_of_mem h

theorem kept_mem_nodes (h : c ∈ n.nodes) : b.kept c ∈ (b.kept n).nodes := by
  induction n using Node.childInduction with
  | step n ih =>
    rcases Node.mem_nodes_iff.mp h with rfl | ⟨d, hd, hc⟩
    · exact Node.mem_nodes_self _
    · have hput : b.put d ∈ (b.kept n).nodes := Node.mem_nodes_of_mem_children (put_mem_children hd)
      exact Node.mem_nodes_trans hput (Node.mem_nodes_trans kept_mem_nodes_put (ih d hd hc))

end

/-! ## Where parentheses are put -/

/-- Parentheses can be put around the node: it is no comment, no keyword, no part of an export statement
and not the name of something. -/
structure Enclosable (n : Node) : Prop where
  named : n.named = true
  role : n.label.field ≠ some .name
  kind : n.kind ∉ [.comment, .defaultKeyword, .exportStatement, .exportClause]

/-- The places of expressions that classification looks at. -/
inductive Place (n c : Node) : Prop
  /-- The value of a declarator. -/
  | value (hkind : n.kind = .variableDeclarator) (hchild : n.child? .value = some c)
  /-- An argument of a call. -/
  | argument (hkind : n.kind = .arguments)
  /-- What a `return` returns. -/
  | returned (hkind : n.kind = .returnStatement)
  /-- The body of an arrow function. -/
  | body (hkind : n.kind = .arrowFunction) (hchild : n.child? .body = some c)
  /-- The base of a class. -/
  | base (hkind : n.kind = .classHeritage)
  /-- What an export statement exports. -/
  | exported (hkind : n.kind = .exportStatement) (hchild : n.child? .value = some c)

/-- Nodes that have such a place. -/
def hosts : List Kind :=
  [.variableDeclarator, .arguments, .returnStatement, .arrowFunction, .classHeritage, .exportStatement]

theorem Place.mem_hosts {n c : Node} (h : Place n c) : n.kind ∈ hosts := by
  cases h <;> simp [*, hosts]

/-- All parentheses are put around expressions at these places. -/
def Placed (b : Parentheses) (root : Node) : Prop :=
  ∀ n ∈ root.nodes, ∀ c ∈ n.children, b.encloses c = true → Enclosable c ∧ Place n c

namespace Placed

variable {b : Parentheses} {root n c : Node}

theorem of_mem (h : b.Placed root) (hn : n ∈ root.nodes) : b.Placed n :=
  fun m hm => h m (Node.mem_nodes_trans hn hm)

theorem of_mem_children (h : b.Placed n) (hc : c ∈ n.children) : b.Placed c :=
  h.of_mem (Node.mem_nodes_of_mem_children hc)

theorem enclosable (h : b.Placed n) (hc : c ∈ n.children) (hb : b.encloses c = true) : Enclosable c :=
  (h n (Node.mem_nodes_self n) c hc hb).1

theorem place (h : b.Placed n) (hc : c ∈ n.children) (hb : b.encloses c = true) : Place n c :=
  (h n (Node.mem_nodes_self n) c hc hb).2

/-- The children of any other node are kept as they are. -/
theorem put_eq (h : b.Placed n) (hkind : n.kind ∉ hosts) (hc : c ∈ n.children) : b.put c = b.kept c :=
  put_of_not_encloses (Bool.eq_false_iff.mpr fun hb => hkind (h.place hc hb).mem_hosts)

theorem child?_kept_eq (h : b.Placed n) (hkind : n.kind ∉ hosts) (f : Field) :
    (b.kept n).child? f = (n.child? f).map b.kept := by
  rw [child?_kept]
  cases hc : n.child? f with
  | none => rfl
  | some c => rw [Option.map_some, Option.map_some, h.put_eq hkind (Node.mem_children_of_child? hc)]

/-- The name of a node is kept as it is. -/
theorem put_name_eq (h : b.Placed n) (hc : n.child? .name = some c) : b.put c = b.kept c := by
  refine put_of_not_encloses (Bool.eq_false_iff.mpr fun hb => ?_)
  exact (h.enclosable (Node.mem_children_of_child? hc) hb).role (Node.field_of_child? hc)

/-- The declaration in an export statement is kept as it is. -/
theorem put_declaration_eq (h : b.Placed n) (hkind : n.kind = .exportStatement)
    (hc : n.child? .declaration = some c) : b.put c = b.kept c := by
  refine put_of_not_encloses (Bool.eq_false_iff.mpr fun hb => ?_)
  have hrole := Node.field_of_child? hc
  cases h.place (Node.mem_children_of_child? hc) hb with
  | exported _ hchild =>
    rw [Node.field_of_child? hchild] at hrole
    cases hrole
  | _ hhost => rw [hkind] at hhost; cases hhost

theorem named_put (h : b.Placed n) (hc : c ∈ n.children) : (b.put c).named = c.named := by
  cases hb : b.encloses c with
  | true =>
    rw [put_of_encloses hb, (h.enclosable hc hb).named]
    rfl
  | false => rw [put_of_not_encloses hb, named_kept]

theorem namedChildren_kept (h : b.Placed n) : (b.kept n).namedChildren = n.namedChildren.map b.put := by
  rw [Node.namedChildren, children_kept, List.filter_map, Node.namedChildren]
  exact congrArg (List.map b.put) (List.filter_congr fun c hc => h.named_put hc)

theorem namedChildren_kept_eq (h : b.Placed n) (hkind : n.kind ∉ hosts) :
    (b.kept n).namedChildren = n.namedChildren.map b.kept := by
  rw [h.namedChildren_kept]
  exact List.map_congr_left fun c hc => h.put_eq hkind (Node.mem_namedChildren.mp hc).1

/-- Parentheses do not hide nodes of a kind that is looked for. -/
theorem kind_put_eq_iff (h : b.Placed n) (hc : c ∈ n.children) {k : Kind}
    (hk : k ∈ [.comment, .defaultKeyword, .exportStatement, .exportClause]) :
    (b.put c).kind = k ↔ c.kind = k := by
  cases hb : b.encloses c with
  | true =>
    have hkind := (h.enclosable hc hb).kind
    rw [put_of_encloses hb, kind_pair]
    constructor
    · rintro rfl
      simp at hk
    · rintro rfl
      exact absurd hk hkind
  | false => rw [put_of_not_encloses hb, kind_kept]

theorem filter_namedChildren_kept (h : b.Placed n) {k : Kind}
    (hk : k ∈ [.comment, .defaultKeyword, .exportStatement, .exportClause]) :
    (b.kept n).namedChildren.filter (·.kind == k) = (n.namedChildren.filter (·.kind == k)).map b.kept := by
  have hkind : ∀ c ∈ n.namedChildren, ((b.put c).kind == k) = (c.kind == k) := fun c hc => by
    rw [Bool.eq_iff_iff, beq_iff_eq, beq_iff_eq, h.kind_put_eq_iff (Node.mem_namedChildren.mp hc).1 hk]
  rw [h.namedChildren_kept, List.filter_map, Function.comp_def, List.filter_congr hkind]
  refine List.map_congr_left fun c hc => put_of_not_encloses (Bool.eq_false_iff.mpr fun hb => ?_)
  obtain ⟨hmem, hck⟩ := List.mem_filter.mp hc
  rw [← beq_iff_eq.mp hck] at hk
  exact (h.enclosable (Node.mem_namedChildren.mp hmem).1 hb).kind hk

theorem firstNamedChild?_kept (h : b.Placed n) :
    (b.kept n).firstNamedChild? = n.firstNamedChild?.map b.put := by
  rw [Node.firstNamedChild?, h.namedChildren_kept, List.find?_map, Node.firstNamedChild?]
  refine congrArg (Option.map b.put) (List.find?_congr fun c hc => ?_)
  have hkind := h.kind_put_eq_iff (Node.mem_namedChildren.mp hc).1 (k := .comment) (by simp)
  rw [Bool.eq_iff_iff, Function.comp_apply, bne_iff_ne, bne_iff_ne, not_iff_not, hkind]

/-! ## Inside parentheses -/

theorem unwrapped?_pair {inside : Node} (hnamed : inside.named = true) (hkind : inside.kind ≠ .comment) :
    (b.pair n inside).unwrapped? = inside.unwrapped? := by
  have hfirst : (b.pair n inside).firstNamedChild? = some inside := by
    rw [Node.firstNamedChild?, namedChildren_pair hnamed, List.find?_cons_of_pos (by simpa using hkind)]
  rw [Node.unwrapped?, if_pos kind_pair]
  split
  · rename_i hnone
    rw [hfirst] at hnone
    cases hnone
  · rename_i c hc
    rw [hfirst] at hc
    cases hc
    rfl

theorem unwrapped?_put_of_kept (hc : b.encloses c = true → Enclosable c) :
    (b.put c).unwrapped? = (b.kept c).unwrapped? := by
  cases hb : b.encloses c with
  | true =>
    have hkind : c.kind ≠ .comment := fun hk => (hc hb).kind (by simp [hk])
    rw [put_of_encloses hb, unwrapped?_pair (by rw [named_kept]; exact (hc hb).named) (by rwa [kind_kept])]
  | false => rw [put_of_not_encloses hb]

/-- The expression inside parentheses stays the same. -/
theorem unwrapped?_kept (h : b.Placed n) : (b.kept n).unwrapped? = n.unwrapped?.map b.kept := by
  induction n using Node.childInduction with
  | step n ih =>
    rw [Node.unwrapped?, Node.unwrapped?, kind_kept]
    by_cases hk : n.kind = .parenthesizedExpression
    · rw [if_pos hk, if_pos hk]
      have hfirst := h.firstNamedChild?_kept
      cases hc : n.firstNamedChild? with
      | none =>
        rw [hc] at hfirst
        split
        · rfl
        · rename_i c hsome
          rw [hfirst] at hsome
          cases hsome
      | some c =>
        rw [hc] at hfirst
        have hmem := Node.mem_children_of_firstNamedChild? hc
        split
        · rename_i hnone
          rw [hfirst] at hnone
          cases hnone
        · rename_i d hsome
          rw [hfirst] at hsome
          cases hsome
          rw [unwrapped?_put_of_kept (h.enclosable hmem)]
          exact ih c hmem (h.of_mem_children hmem)
    · rw [if_neg hk, if_neg hk]
      rfl

theorem unwrapped?_put (h : b.Placed n) (hc : c ∈ n.children) :
    (b.put c).unwrapped? = c.unwrapped?.map b.kept := by
  rw [unwrapped?_put_of_kept (h.enclosable hc), (h.of_mem_children hc).unwrapped?_kept]

/-! ## Sites -/

/-- Further up, the parentheses around the top of a subtree come into view. -/
theorem site_lift {s : Site} (hs : s ∈ c.sites) (p : Node) :
    b.site (s.lift [p]) = (b.site s).lift (b.around c ++ [b.kept p]) := by
  obtain ⟨m, above⟩ := s
  simp only [site, Site.lift, Site.mk.injEq, true_and]
  induction above generalizing m with
  | nil =>
    rw [Node.mem_sites_nil.mp hs]
    simp [Parentheses.above]
  | cons q further ih =>
    have hq := (Node.mem_sites_cons.mp hs).1
    simp [Parentheses.above, ih q hq]

/-- The sites of a node in parentheses, apart from parentheses, are those of the node. -/
theorem filter_sites_put (hc : b.encloses c = true → Enclosable c) :
    (b.put c).sites.filter (·.node.kind != .parenthesizedExpression) =
      ((b.kept c).sites.filter (·.node.kind != .parenthesizedExpression)).map (Site.lift (b.around c)) := by
  cases hb : b.encloses c with
  | false =>
    have hlift : Site.lift (b.around c) = id := by
      funext s
      simp [Site.lift, around, hb]
    rw [put_of_not_encloses hb, hlift, List.map_id]
  | true =>
    have hnamed : (b.kept c).named = true := by
      rw [named_kept]
      exact (hc hb).named
    rw [put_of_encloses hb, Node.sites_eq, namedChildren_pair hnamed, List.flatMap_singleton,
      List.filter_cons_of_neg (by simp), List.filter_map, around, if_pos hb]
    rfl

/-- Apart from parentheses the sites are the old ones, in the old order. -/
theorem sites_kept (h : b.Placed n) :
    (b.kept n).sites.filter (·.node.kind != .parenthesizedExpression) =
      (n.sites.filter (·.node.kind != .parenthesizedExpression)).map b.site := by
  induction n using Node.childInduction with
  | step n ih =>
    have hbelow : ∀ c ∈ n.namedChildren,
        ((b.put c).sites.map (Site.lift [b.kept n])).filter (·.node.kind != .parenthesizedExpression) =
          ((c.sites.map (Site.lift [n])).filter (·.node.kind != .parenthesizedExpression)).map b.site := by
      intro c hc
      have hmem := (Node.mem_namedChildren.mp hc).1
      rw [List.filter_map, List.filter_map]
      simp only [Function.comp_def, Site.lift_node]
      rw [filter_sites_put (h.enclosable hmem), ih c hmem (h.of_mem_children hmem), List.map_map,
        List.map_map, List.map_map]
      refine List.map_congr_left fun s hs => ?_
      change Site.lift [b.kept n] (Site.lift (b.around c) (b.site s)) = b.site (s.lift [n])
      rw [site_lift (List.mem_filter.mp hs).1]
      simp [Site.lift]
    rw [Node.sites_eq, Node.sites_eq, h.namedChildren_kept, List.flatMap_map]
    rw [List.filter_cons, List.filter_cons, List.filter_flatMap, List.filter_flatMap,
      List.flatMap_congr hbelow, kind_kept]
    split
    · rw [List.map_cons, List.map_flatMap]
      rfl
    · rw [List.map_flatMap]

end Placed

end Parentheses

end JsxTagger.Syntax
