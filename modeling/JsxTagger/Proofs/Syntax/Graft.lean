import Mathlib.Data.List.Find
import Mathlib.Logic.Function.Defs
import JsxTagger.Proofs.Syntax.Nesting

/-!
# Trees that nodes are added to

When text is inserted into a file, its tree grows: some nodes get further children, and the offsets
behind the insertion are shifted. A `Graft` says what is added where, and `Graft.graft` is the tree
that results. The nodes that are added are small, and no analysis looks for them (`Node.Inert`), so
that questions about the new tree have the answers that the old tree gives: the same roles are filled
(`child?_graft`), the same expressions stand inside parentheses (`unwrapped?_graft`), and the sites
that matter are the old ones in the old order (`sites_graft`).
-/

namespace JsxTagger.Syntax

/-! ## What can be added -/

/-- Kinds that no traversal looks for. -/
def Kind.isInert : Kind → Bool
  | identifier | memberExpression | shorthandPattern | jsxAttribute | jsxExpression | other _ => true
  | _ => false

/-- Kinds of nodes that further children can be added to: tags, object patterns and lists of
parameters. -/
def Kind.takesAdditions : Kind → Bool
  | jsxOpeningElement | jsxSelfClosingElement | objectPattern => true
  | other name => name == "formal_parameters"
  | _ => false

/-- Kinds of functions that can be a component. -/
def Kind.isFunction (k : Kind) : Bool := k == functionDeclaration || k.isComponentFunction

/-- A kind that is looked for is no inert one. -/
theorem Kind.ne_of_isInert {k k' : Kind} (h : k.isInert = true) (h' : k'.isInert = false) :
    k ≠ k' := by
  rintro rfl
  rw [h] at h'
  cases h'

theorem Kind.isAnchor_of_isInert {k : Kind} (h : k.isInert = true) : k.isAnchor = false := by
  cases k <;> first | rfl | cases h

theorem Kind.eq_of_isClass {k : Kind} (h : k.isClass = true) :
    k = classDeclaration ∨ k = classExpression := by
  cases k <;> first | exact Or.inl rfl | exact Or.inr rfl | cases h

/-- Whether a role is one that analyses ask for. -/
def Field.isAskedFor : Field → Bool
  | other _ => false
  | _ => true

/-- Nothing inside a tree is looked for by a traversal. -/
def Node.Inert (n : Node) : Prop := ∀ m ∈ n.nodes, m.kind.isInert = true

instance (n : Node) : Decidable n.Inert := inferInstanceAs (Decidable (∀ m ∈ n.nodes, _))

/-- Nodes that are added to a tree. -/
structure Graft where
  /-- Where a node starts afterwards, by where it started. -/
  start : Nat → Nat
  /-- Where a node ends afterwards, by where it ended. -/
  stop : Nat → Nat
  /-- The children that a node gets. -/
  added : Node → List Node
  /-- How many of its children stand in front of them. -/
  place : Node → Nat
  /-- The list that takes the place of the single bare parameter of a function. -/
  wrapped : Node → Option Node

namespace Graft

/-- Puts the children that a node gets at their place. -/
def splice (g : Graft) (n : Node) (children : List Node) : List Node :=
  children.take (g.place n) ++ g.added n ++ children.drop (g.place n)

/-- A child that is kept, or the list that takes its place. -/
def orList (list : Option Node) (c kept : Node) : Node :=
  match list with
  | some l => if c.label.field = some .parameter then l else kept
  | none => kept

mutual

/-- The tree with the nodes added to it. -/
def graft (g : Graft) : Node → Node
  | .mk label children =>
    .mk { label with start := g.start label.start, stop := g.stop label.stop }
      (g.splice (.mk label children) (g.graftAll (g.wrapped (.mk label children)) children))

/-- The children of a node, each with the nodes added to it. -/
def graftAll (g : Graft) (list : Option Node) : List Node → List Node
  | [] => []
  | c :: cs => orList list c (g.graft c) :: g.graftAll list cs

end

/-- What becomes of a child of a function. -/
def child (g : Graft) (list : Option Node) (c : Node) : Node := orList list c (g.graft c)

/-- The site of a node in the new tree. -/
def site (g : Graft) (s : Site) : Site := ⟨g.graft s.node, s.above.map g.graft⟩

section

variable (g : Graft)

theorem graftAll_eq (list : Option Node) (cs : List Node) :
    g.graftAll list cs = cs.map (g.child list) := by
  induction cs with
  | nil => rw [graftAll, List.map_nil]
  | cons c cs ih => rw [graftAll, ih, List.map_cons, child]

theorem children_graft (n : Node) :
    (g.graft n).children = g.splice n (n.children.map (g.child (g.wrapped n))) := by
  cases n with
  | mk label children => rw [graft, Node.children, graftAll_eq, Node.children]

theorem label_graft (n : Node) :
    (g.graft n).label = { n.label with start := g.start n.start, stop := g.stop n.stop } := by
  cases n with
  | mk label children => rw [graft]; rfl

@[simp]
theorem kind_graft (n : Node) : (g.graft n).kind = n.kind := by rw [Node.kind, label_graft]; rfl

@[simp]
theorem start_graft (n : Node) : (g.graft n).start = g.start n.start := by
  rw [Node.start, label_graft]

@[simp]
theorem stop_graft (n : Node) : (g.graft n).stop = g.stop n.stop := by
  rw [Node.stop, label_graft]

@[simp]
theorem named_graft (n : Node) : (g.graft n).named = n.named := by rw [Node.named, label_graft]; rfl

@[simp]
theorem field_graft (n : Node) : (g.graft n).label.field = n.label.field := by rw [label_graft]

@[simp]
theorem site_node (s : Site) : (g.site s).node = g.graft s.node := rfl

@[simp]
theorem site_above (s : Site) : (g.site s).above = s.above.map g.graft := rfl

end

/-- A node stays without further children of its own. -/
def Leaves (g : Graft) (n : Node) : Prop := g.added n = [] ∧ g.wrapped n = none

instance (g : Graft) (n : Node) : Decidable (g.Leaves n) := inferInstanceAs (Decidable (_ ∧ _))

theorem Leaves.children {g : Graft} {n : Node} (h : g.Leaves n) :
    (g.graft n).children = n.children.map g.graft := by
  have hchild : g.child none = g.graft := rfl
  rw [children_graft, splice, h.1, h.2, hchild, List.append_nil, List.take_append_drop]

theorem Leaves.namedChildren {g : Graft} {n : Node} (h : g.Leaves n) :
    (g.graft n).namedChildren = n.namedChildren.map g.graft := by
  rw [Node.namedChildren, h.children, List.filter_map, Node.namedChildren]
  simp [Function.comp_def]

theorem Leaves.firstNamedChild? {g : Graft} {n : Node} (h : g.Leaves n) :
    (g.graft n).firstNamedChild? = n.firstNamedChild?.map g.graft := by
  rw [Node.firstNamedChild?, h.namedChildren, List.find?_map, Node.firstNamedChild?]
  simp

/-! ## Sound grafts -/

/-- A list takes the place of the bare parameter of a function that has no list. -/
structure Wraps (n l : Node) : Prop where
  kind : n.kind.isFunction = true
  field : n.label.field ≠ some .arguments
  bare : n.child? .parameters = none
  role : l.label.field = some .parameters
  inert : l.Inert
  parameter : ∀ c ∈ n.children, c.label.field = some .parameter → c.Inert

/-- What is added to a tree does not get in the way of what is there. -/
structure Sound (g : Graft) (root : Node) : Prop where
  /-- Nodes that start at different offsets still do. -/
  start : Function.Injective g.start
  /-- Children are added to tags, patterns and parameter lists, and those are no arguments. -/
  added : ∀ n ∈ root.nodes, g.added n ≠ [] →
    n.kind.takesAdditions = true ∧ n.label.field ≠ some .arguments
  /-- What is added is not looked for, and has no role that is asked for. -/
  inert : ∀ n ∈ root.nodes, ∀ a ∈ g.added n,
    a.Inert ∧ a.label.field.all (!Field.isAskedFor ·) = true
  /-- A list takes the place of a bare parameter. -/
  wrapped : ∀ n ∈ root.nodes, ∀ l, g.wrapped n = some l → Wraps n l

namespace Sound

variable {g : Graft} {root n : Node}

theorem of_mem (h : g.Sound root) (hn : n ∈ root.nodes) : g.Sound n where
  start := h.start
  added m hm := h.added m (Node.mem_nodes_trans hn hm)
  inert m hm := h.inert m (Node.mem_nodes_trans hn hm)
  wrapped m hm := h.wrapped m (Node.mem_nodes_trans hn hm)

theorem of_mem_children (h : g.Sound root) (hn : n ∈ root.children) : g.Sound n :=
  h.of_mem (Node.mem_nodes_of_mem_children hn)

/-- No list is put into a node that is no function. -/
theorem wrapped_eq_none (h : g.Sound n) (hfunction : n.kind.isFunction = false) :
    g.wrapped n = none := by
  rw [Option.eq_none_iff_forall_ne_some]
  intro l hl
  have hkind := (h.wrapped n (Node.mem_nodes_self n) l hl).kind
  rw [hfunction] at hkind
  cases hkind

/-- No list is put into a function that has one. -/
theorem wrapped_eq_none_of_list (h : g.Sound n) {list : Node}
    (hlist : n.child? .parameters = some list) : g.wrapped n = none := by
  rw [Option.eq_none_iff_forall_ne_some]
  intro l hl
  have hbare := (h.wrapped n (Node.mem_nodes_self n) l hl).bare
  rw [hlist] at hbare
  cases hbare

/-- A node of any other kind stays without further children. -/
theorem leaves (h : g.Sound n) (hadditions : n.kind.takesAdditions = false)
    (hfunction : n.kind.isFunction = false) : g.Leaves n := by
  refine ⟨?_, h.wrapped_eq_none hfunction⟩
  by_contra hne
  have hkind := (h.added n (Node.mem_nodes_self n) hne).1
  rw [hadditions] at hkind
  cases hkind

/-- Arguments stay without further children. -/
theorem leaves_of_arguments (h : g.Sound n) (hfield : n.label.field = some .arguments) :
    g.Leaves n := by
  refine ⟨?_, ?_⟩
  · by_contra hne
    exact (h.added n (Node.mem_nodes_self n) hne).2 hfield
  · rw [Option.eq_none_iff_forall_ne_some]
    intro l hl
    exact (h.wrapped n (Node.mem_nodes_self n) l hl).field hfield

/-! ### Roles -/

/-- Looking for a child is not disturbed by children that are not looked for. -/
theorem find?_splice (p : Node → Bool) (hp : ∀ a ∈ g.added n, p a = false) (cs : List Node) :
    (g.splice n cs).find? p = cs.find? p := by
  have hnone : (g.added n).find? p = none := by
    rw [List.find?_eq_none]
    exact fun a ha => by simp [hp a ha]
  rw [splice, List.find?_append, List.find?_append, hnone, Option.or_none, ← List.find?_append,
    List.take_append_drop]

theorem field_of_mem_added (h : g.Sound n) {f : Field} (hf : f.isAskedFor = true) {a : Node}
    (ha : a ∈ g.added n) : (a.label.field == some f) = false := by
  have hrole := (h.inert n (Node.mem_nodes_self n) a ha).2
  rw [beq_eq_false_iff_ne]
  intro heq
  rw [heq, Option.all_some, hf] at hrole
  cases hrole

/-- The same roles are filled by the same nodes, the parameters of a function aside. -/
theorem child?_graft (h : g.Sound n) {f : Field} (hf : f.isAskedFor = true)
    (hlist : f ≠ .parameters) (hbare : f ≠ .parameter) :
    (g.graft n).child? f = (n.child? f).map g.graft := by
  rw [Node.child?, children_graft, find?_splice _ (fun a => h.field_of_mem_added hf), List.find?_map]
  have hsame : ∀ c, ((g.child (g.wrapped n) c).label.field == some f) = (c.label.field == some f) ∧
      (c.label.field = some f → g.child (g.wrapped n) c = g.graft c) := by
    intro c
    cases hw : g.wrapped n with
    | none => simp [child, orList]
    | some l =>
      have hrole := (h.wrapped n (Node.mem_nodes_self n) l hw).role
      rw [child, orList]
      by_cases hc : c.label.field = some .parameter
      · simp [hc, hrole, hlist.symm, hbare.symm]
      · simp [hc]
  rw [Node.child?, show ((fun m : Node => m.label.field == some f) ∘ g.child (g.wrapped n)) =
    fun m => m.label.field == some f from funext fun c => (hsame c).1]
  cases hfind : n.children.find? (·.label.field == some f) with
  | none => rfl
  | some c =>
    have hc : c.label.field = some f := by simpa using List.find?_some hfind
    rw [Option.map_some, Option.map_some, (hsame c).2 hc]

/-- Without a list in place of its bare parameter a node keeps all its roles. -/
theorem child?_graft_of_wrapped (h : g.Sound n) (hw : g.wrapped n = none) {f : Field}
    (hf : f.isAskedFor = true) : (g.graft n).child? f = (n.child? f).map g.graft := by
  have hchild : g.child none = g.graft := rfl
  rw [Node.child?, children_graft, find?_splice _ (fun a => h.field_of_mem_added hf), hw, hchild,
    List.find?_map, Node.child?]
  simp

/-- A list that takes the place of a bare parameter is the list of parameters. -/
theorem child?_parameters_of_wrapped (h : g.Sound n) {l bare : Node} (hl : g.wrapped n = some l)
    (hbare : n.child? .parameter = some bare) : (g.graft n).child? .parameters = some l := by
  have hwraps := h.wrapped n (Node.mem_nodes_self n) l hl
  have hnone := List.find?_eq_none.mp hwraps.bare
  rw [Node.child?, children_graft, find?_splice _ (fun a => h.field_of_mem_added rfl), hl,
    List.find?_map, Function.comp_def]
  -- only what stands for a bare parameter is a list
  have hchild : ∀ c ∈ n.children, ((g.child (some l) c).label.field == some .parameters) =
      (c.label.field == some .parameter) := by
    intro c hc
    rw [child, orList]
    split
    · rename_i hfield
      simp [hwraps.role, hfield]
    · rename_i hfield
      rw [field_graft, beq_eq_false_iff_ne.mpr hfield]
      simpa using hnone c hc
  rw [List.find?_congr hchild]
  rw [Node.child?] at hbare
  rw [hbare, Option.map_some, child, orList, if_pos (by simpa using List.find?_some hbare)]

/-- The expression inside parentheses stays the same. -/
theorem unwrapped?_graft (h : g.Sound n) :
    (g.graft n).unwrapped? = n.unwrapped?.map g.graft := by
  induction n using Node.childInduction with
  | step n ih =>
    rw [Node.unwrapped?, Node.unwrapped?, kind_graft]
    by_cases hk : n.kind = .parenthesizedExpression
    · have hleaves := h.leaves (by rw [hk]; rfl) (by rw [hk]; rfl)
      rw [if_pos hk, if_pos hk]
      cases hc : n.firstNamedChild? with
      | none =>
        have hc' : (g.graft n).firstNamedChild? = none := by rw [hleaves.firstNamedChild?, hc]; rfl
        split
        · rfl
        · rename_i c hsome
          rw [hc'] at hsome
          cases hsome
      | some c =>
        have hc' : (g.graft n).firstNamedChild? = some (g.graft c) := by
          rw [hleaves.firstNamedChild?, hc]
          rfl
        have hmem := Node.mem_children_of_firstNamedChild? hc
        split
        · rename_i hnone
          rw [hc'] at hnone
          cases hnone
        · rename_i d hsome
          rw [hc'] at hsome
          cases hsome
          exact ih c hmem (h.of_mem_children hmem)
    · rw [if_neg hk, if_neg hk]
      rfl

/-! ### Sites -/

/-- Nothing in an inert tree is looked for. -/
theorem filter_sites_of_inert {c : Node} (hc : c.Inert) :
    c.sites.filter (!·.node.kind.isInert) = [] := by
  rw [List.filter_eq_nil_iff]
  intro s hs
  simp [hc s.node (Node.mem_nodes_of_mem_walk (Node.mem_walk_of_mem_sites hs))]

/-- The sites at and below a child that are looked for, seen from its parent. -/
def sitesUnder (p c : Node) : List Site :=
  if c.named then (c.sites.filter (!·.node.kind.isInert)).map (Site.lift [p]) else []

theorem filter_sites_eq (n : Node) :
    n.sites.filter (!·.node.kind.isInert) =
      (if n.kind.isInert then [] else [⟨n, []⟩]) ++ n.children.flatMap (sitesUnder n) := by
  have hunder : ∀ cs : List Node,
      ((cs.filter Node.named).flatMap fun c => c.sites.map (Site.lift [n])).filter
        (!·.node.kind.isInert) = cs.flatMap (sitesUnder n) := by
    intro cs
    induction cs with
    | nil => rfl
    | cons c cs ih =>
      rw [List.flatMap_cons, ← ih, sitesUnder, List.filter_cons]
      split
      · rw [List.flatMap_cons, List.filter_append, List.filter_map]
        rfl
      · rfl
  rw [Node.sites_eq, List.filter_cons, Node.namedChildren, hunder]
  cases n.kind.isInert <;> rfl

theorem site_lift (s : Site) (p : Node) :
    g.site (s.lift [p]) = (g.site s).lift [g.graft p] := by
  simp [site, Site.lift]

/-- The sites that are looked for are the old ones, in the old order. -/
theorem sites_graft (h : g.Sound n) :
    (g.graft n).sites.filter (!·.node.kind.isInert) =
      (n.sites.filter (!·.node.kind.isInert)).map g.site := by
  induction n using Node.childInduction with
  | step n ih =>
    have hadded : (g.added n).flatMap (sitesUnder (g.graft n)) = [] := by
      rw [List.flatMap_eq_nil_iff]
      intro a ha
      rw [sitesUnder, filter_sites_of_inert (h.inert n (Node.mem_nodes_self n) a ha).1]
      exact ite_self _
    have hkept : ∀ c ∈ n.children, sitesUnder (g.graft n) (g.graft c) =
        (sitesUnder n c).map g.site := by
      intro c hc
      rw [sitesUnder, sitesUnder, named_graft, ih c hc (h.of_mem_children hc)]
      split
      · simp [site_lift]
      · rfl
    have hchild : ∀ c ∈ n.children, sitesUnder (g.graft n) (g.child (g.wrapped n) c) =
        (sitesUnder n c).map g.site := by
      intro c hc
      cases hw : g.wrapped n with
      | none => exact hkept c hc
      | some l =>
        have hwraps := h.wrapped n (Node.mem_nodes_self n) l hw
        rw [child, orList]
        split
        · -- neither the bare parameter nor the list in its place is looked for
          rename_i hfield
          rw [sitesUnder, sitesUnder, filter_sites_of_inert hwraps.inert,
            filter_sites_of_inert (hwraps.parameter c hc hfield)]
          simp
        · exact hkept c hc
    have hbelow : (g.graft n).children.flatMap (sitesUnder (g.graft n)) =
        (n.children.flatMap (sitesUnder n)).map g.site := by
      rw [children_graft, splice, List.flatMap_append, List.flatMap_append, hadded, List.append_nil,
        ← List.flatMap_append, List.take_append_drop, List.flatMap_map, List.map_flatMap]
      exact List.flatMap_congr hchild
    rw [filter_sites_eq, filter_sites_eq, hbelow, kind_graft, List.map_append]
    split <;> rfl

/-- A selection among the sites that are looked for is the old one. -/
theorem filter_sites_graft (h : g.Sound n) {p q : Site → Bool}
    (hp : ∀ s : Site, s.node.kind.isInert = true → p s = false)
    (hq : ∀ s : Site, s.node.kind.isInert = true → q s = false)
    (hpq : ∀ s ∈ n.sites, q (g.site s) = p s) :
    (g.graft n).sites.filter q = (n.sites.filter p).map g.site := by
  have hmatters : ∀ {p : Site → Bool}, (∀ s : Site, s.node.kind.isInert = true → p s = false) →
      ∀ sites : List Site, sites.filter p = (sites.filter (!·.node.kind.isInert)).filter p := by
    intro p hp sites
    rw [List.filter_filter]
    refine List.filter_congr fun s _ => ?_
    cases hs : s.node.kind.isInert with
    | true => simp [hp s hs]
    | false => simp
  rw [hmatters hq, h.sites_graft, List.filter_map, hmatters hp n.sites]
  refine congrArg (List.map g.site) (List.filter_congr fun s hs => ?_)
  exact hpq s (List.mem_filter.mp hs).1

/-- A selection among the nodes that are looked for is the old one. -/
theorem filter_walk_graft (h : g.Sound n) {p : Node → Bool}
    (hinert : ∀ m : Node, m.kind.isInert = true → p m = false)
    (hp : ∀ m ∈ n.walk, p (g.graft m) = p m) :
    (g.graft n).walk.filter p = (n.walk.filter p).map g.graft := by
  have hsites := h.filter_sites_graft (p := fun s => p s.node) (q := fun s => p s.node)
    (fun s => hinert s.node) (fun s => hinert s.node)
    fun s hs => hp s.node (Node.mem_walk_of_mem_sites hs)
  rw [← Node.map_node_sites, List.filter_map, Function.comp_def, hsites, List.map_map,
    ← Node.map_node_sites, List.filter_map, List.map_map]
  rfl

/-- A walk that leaves out what lies inside certain kinds of nodes makes the old selection. -/
theorem filter_walk_skip_graft (h : g.Sound n) (skip : Kind → Bool) {p : Node → Bool}
    (hinert : ∀ m : Node, m.kind.isInert = true → p m = false)
    (hp : ∀ m ∈ n.walk, p (g.graft m) = p m) :
    ((g.graft n).walk skip).filter p = ((n.walk skip).filter p).map g.graft := by
  have hsites := h.filter_sites_graft
    (p := fun s => (s.above.dropLast.all fun m => !skip m.kind) && p s.node)
    (q := fun s => (s.above.dropLast.all fun m => !skip m.kind) && p s.node)
    (fun s hs => by simp [hinert s.node hs]) (fun s hs => by simp [hinert s.node hs]) fun s hs => by
      rw [site_node, hp s.node (Node.mem_walk_of_mem_sites hs), site_above, ← List.map_dropLast,
        List.all_map]
      simp [Function.comp_def]
  have hwalk : ∀ m : Node, (m.walk skip).filter p = (m.sites.filter fun s =>
      (s.above.dropLast.all fun m => !skip m.kind) && p s.node).map (·.node) := by
    intro m
    rw [Node.walk, List.filter_map, Node.walk_skip_eq_filter, List.filter_filter]
    simp only [Function.comp_def, Bool.and_comm]
  rw [hwalk, hwalk, hsites, List.map_map, List.map_map]
  rfl

end Sound

end Graft

end JsxTagger.Syntax
