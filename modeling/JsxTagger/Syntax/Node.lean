import JsxTagger.Syntax.Kind

/-!
# Concrete syntax trees

A node is its label together with its children, punctuation and comments included. Offsets count
bytes of the file's UTF-8 text.

A node does not know its parent. Where an analysis looks upwards it works on a `Site`, a node with
the list of nodes above it. All traversals of the library are one loop over a stack of sites,
`Site.drain`: the next site is reported and its children take its place on the stack, so that a node
comes before its descendants and those come before its next sibling.
-/

namespace JsxTagger.Syntax

/-- What is known about a node apart from its children. -/
structure Label where
  /-- The kind of the node. -/
  kind : Kind
  /-- The offset of the first byte. -/
  start : Nat
  /-- The offset after the last byte. -/
  stop : Nat
  /-- Punctuation and keywords are anonymous, everything else is named. -/
  named : Bool := true
  /-- The role in the parent, if it has one. -/
  field : Option Field := none
  /-- The node was supplied by the parser and is not in the text. -/
  missing : Bool := false
  /-- The node is reported as faulty although neither it nor a child shows why. -/
  flagged : Bool := false
deriving DecidableEq, Repr, Inhabited

/-- A node of a concrete syntax tree. -/
inductive Node where
  /-- A node is a label over a list of children. -/
  | mk (label : Label) (children : List Node)
deriving Inhabited

namespace Node

/-- The label of a node. -/
def label : Node → Label
  | .mk label _ => label

/-- The children of a node, anonymous ones included. -/
def children : Node → List Node
  | .mk _ children => children

/-- The kind of a node. -/
def kind (n : Node) : Kind := n.label.kind

/-- The offset of a node's first byte. -/
def start (n : Node) : Nat := n.label.start

/-- The offset after a node's last byte. -/
def stop (n : Node) : Nat := n.label.stop

/-- Whether a node is named. -/
def named (n : Node) : Bool := n.label.named

/-- The children that are named. -/
def namedChildren (n : Node) : List Node := n.children.filter named

/-- The first child that has the given role. -/
def child? (n : Node) (f : Field) : Option Node := n.children.find? (·.label.field == some f)

/-- The first named child that is not a comment. -/
def firstNamedChild? (n : Node) : Option Node := n.namedChildren.find? (·.kind != .comment)

/-- Whether a node is a markup expression. -/
def isMarkup (n : Node) : Bool := n.kind.isMarkup

mutual

/-- The number of nodes of a tree. -/
def size : Node → Nat
  | .mk _ children => sizeAll children + 1

/-- The number of nodes of a list of trees. -/
def sizeAll : List Node → Nat
  | [] => 0
  | n :: ns => n.size + sizeAll ns

end

@[simp]
theorem sizeAll_nil : sizeAll [] = 0 := by rw [sizeAll]

@[simp]
theorem sizeAll_cons (n : Node) (ns : List Node) : sizeAll (n :: ns) = n.size + sizeAll ns := by
  rw [sizeAll]

theorem size_eq (n : Node) : n.size = sizeAll n.children + 1 := by
  cases n with
  | mk label children => rw [size, Node.children]

@[simp]
theorem sizeAll_append (ms ns : List Node) : sizeAll (ms ++ ns) = sizeAll ms + sizeAll ns := by
  induction ms with
  | nil => simp
  | cons m ms ih => simp [ih, Nat.add_assoc]

/-- Leaving nodes out makes a list of trees no larger. -/
theorem sizeAll_filter_le (p : Node → Bool) (ns : List Node) :
    sizeAll (ns.filter p) ≤ sizeAll ns := by
  induction ns with
  | nil => simp
  | cons n ns ih => cases h : p n <;> simp [h] <;> omega

theorem size_le_sizeAll_of_mem {c : Node} {ns : List Node} (h : c ∈ ns) :
    c.size ≤ sizeAll ns := by
  induction ns with
  | nil => cases h
  | cons m ns ih =>
    rcases List.mem_cons.mp h with rfl | h
    · simp
    · have := ih h
      simp
      omega

/-- A child is smaller than its parent. -/
theorem size_lt_of_mem_children {n c : Node} (h : c ∈ n.children) : c.size < n.size := by
  have := size_le_sizeAll_of_mem h
  rw [size_eq n]
  omega

theorem mem_children_of_firstNamedChild? {n c : Node} (h : n.firstNamedChild? = some c) :
    c ∈ n.children :=
  (List.mem_filter.mp (List.mem_of_find?_eq_some h)).1

/-- The expression inside any number of parentheses. Empty parentheses hold none. -/
def unwrapped? (n : Node) : Option Node :=
  if n.kind = .parenthesizedExpression then
    match _hc : n.firstNamedChild? with
    | none => none
    | some c => c.unwrapped?
  else some n
termination_by n.size
decreasing_by exact size_lt_of_mem_children (mem_children_of_firstNamedChild? _hc)

mutual

/-- Whether a tree holds an error: an error node, a missing node or a flagged one. -/
def hasError : Node → Bool
  | .mk label children =>
    label.kind == .error || label.missing || label.flagged || anyHasError children

/-- Whether one of several trees holds an error. -/
def anyHasError : List Node → Bool
  | [] => false
  | n :: ns => n.hasError || anyHasError ns

end

/-- The nodes that mark the place of an error. -/
def marksError (n : Node) : Bool := n.kind == .error || n.label.missing

end Node

/-- A node together with the nodes above it, the parent first. -/
structure Site where
  /-- The node itself. -/
  node : Node
  /-- Its ancestors, the parent first. -/
  above : List Node := []
deriving Inhabited

namespace Site

/-- The parent of a site's node. -/
def parent? (s : Site) : Option Node := s.above.head?

/-- The sites of those children of a site's node that `keep` accepts. -/
def below (keep : Node → Bool) (s : Site) : List Site :=
  (s.node.children.filter keep).map fun c => ⟨c, s.node :: s.above⟩

/-- The number of nodes at and below a list of sites. -/
def weight (stack : List Site) : Nat := Node.sizeAll (stack.map (·.node))

theorem weight_cons (s : Site) (ss : List Site) : weight (s :: ss) = s.node.size + weight ss := by
  simp [weight]

theorem weight_append (ss ts : List Site) : weight (ss ++ ts) = weight ss + weight ts := by
  simp [weight]

theorem weight_below_lt (keep : Node → Bool) (s : Site) :
    weight (s.below keep) < s.node.size := by
  have hle := Node.sizeAll_filter_le keep s.node.children
  have hmap : (s.below keep).map (·.node) = s.node.children.filter keep := by
    simp [below, Function.comp_def]
  rw [weight, hmap, Node.size_eq]
  omega

/-- Reports the sites on a stack and everything below them in pre-order: a site is taken off the
stack, reported, and, if `enter` says so, replaced by the children that `keep` accepts. -/
def drain (keep enter : Node → Bool) : List Site → List Site
  | [] => []
  | s :: rest =>
    s :: drain keep enter ((if enter s.node then s.below keep else []) ++ rest)
termination_by stack => weight stack
decreasing_by
  have hlt := weight_below_lt keep s
  rw [weight_append, weight_cons]
  split
  · omega
  · simp [weight] at hlt ⊢
    omega

/-- The named nodes at and below a site, in pre-order. The site itself is always entered; below it,
a node whose kind is in `skip` is reported and not entered. -/
def walk (skip : Kind → Bool) (s : Site) : List Site :=
  s :: drain Node.named (fun n => !skip n.kind) (s.below Node.named)

end Site

namespace Node

/-- The named nodes of a tree in pre-order, with the nodes above each. -/
def sites (root : Node) : List Site := Site.walk (fun _ => false) ⟨root, []⟩

/-- The named nodes of a tree in pre-order. A node whose kind is in `skip` is reported and not
entered, unless the walk starts there. -/
def walk (n : Node) (skip : Kind → Bool := fun _ => false) : List Node :=
  (Site.walk skip ⟨n, []⟩).map (·.node)

/-- The first node in document order that marks an error, anonymous nodes included. -/
def firstError? (root : Node) : Option Node :=
  ((Site.drain (fun _ => true) (fun _ => true) [⟨root, []⟩]).map (·.node)).find? marksError

end Node

end JsxTagger.Syntax
