import JsxTagger.Proofs.Instrument.Changes
import JsxTagger.Proofs.Instrument.Functions

/-!
# Every plan can be applied

A plan mixes insertions of attributes, fields and parameters with replacements of bare parameters, and
its edits are applied in an order that is not the order of planning. In a tree of the grammar's shape
(`Grammatical`) no two of them get in each other's way (`Grammatical.pairwise_ranges`), whatever the
components are and in whatever order they come. Every edit stands at a boundary between characters, so
that what a plan makes of a file is a text again (`plan_applies`).

What single nodes look like (`Shaped`) is not enough for that. It also matters which nodes stand where
(`Arranged`), and none of the four conditions on that can be left out (`shaped_overlaps`).
-/

namespace JsxTagger.Instrument

open Classify Syntax

variable {room : Nat}

/-! ## Trees of the grammar -/

/-- Whether the text of a node starts with a token. -/
def opensWith (source : Bytes) (token : String) (n : Node) : Bool :=
  (Bytes.ofText token).isPrefixOf (source.slice n.start n.stop)

/-- The part of a function that holds its parameters: the list, or the single name of an arrow
function. -/
def parameterNode? (function : Node) : Option Node :=
  (function.child? .parameters).or (function.child? .parameter)

/-- A file whose nodes look like those of the grammar. -/
structure Shaped (tree : SourceTree) : Prop where
  /-- The file is a text. -/
  source : (Bytes.text? tree.source).any Text.isPlain = true
  /-- Nodes hold their children in order and without overlap. -/
  nested : tree.root.WellNested
  /-- Nodes start and end between characters. -/
  boundaries : ∀ n ∈ tree.root.nodes,
    tree.source.isBoundary n.start = true ∧ tree.source.isBoundary n.stop = true
  /-- A parameter list opens with a parenthesis. -/
  lists : ∀ n ∈ tree.root.nodes, ∀ list ∈ n.child? .parameters,
    opensWith tree.source "(" list = true
  /-- An object pattern opens with a brace. -/
  patterns : ∀ n ∈ tree.root.nodes, n.kind = .objectPattern →
    opensWith tree.source "\x7b" n = true
  /-- A rest element opens with dots. -/
  rests : ∀ n ∈ tree.root.nodes, n.kind = .restPattern → opensWith tree.source "..." n = true
  /-- The bare parameter of a function is a leaf that is not empty. -/
  bare : ∀ n ∈ tree.root.nodes, isFunction n = true → ∀ name ∈ n.child? .parameter,
    name.start < name.stop ∧ name.children.isEmpty = true
  /-- Anchors of one kind that start at the same place are calls without a function between them. -/
  keys : (tree.root.sites.filter (·.node.kind.isAnchor)).Pairwise fun s t =>
    key s.node = key t.node → s.node.kind = .callExpression ∧ functionDepth s = functionDepth t
  /-- A tag without a closing one has a name. -/
  named : ∀ n ∈ tree.root.nodes, n.kind = .jsxSelfClosingElement → (n.child? .name).isSome = true
  /-- A tag ends behind its name and its attributes. -/
  tags : ∀ n ∈ tree.root.nodes, isTag n = true →
    (∀ name ∈ n.child? .name, name.stop < n.stop) ∧ ∀ a ∈ attributes n, a.stop < n.stop

instance (tree : SourceTree) : Decidable (Shaped tree) :=
  decidable_of_iff
    ((Bytes.text? tree.source).any Text.isPlain = true ∧ tree.root.WellNested ∧
      (∀ n ∈ tree.root.nodes,
        tree.source.isBoundary n.start = true ∧ tree.source.isBoundary n.stop = true) ∧
      (∀ n ∈ tree.root.nodes, ∀ list ∈ n.child? .parameters,
        opensWith tree.source "(" list = true) ∧
      (∀ n ∈ tree.root.nodes, n.kind = .objectPattern → opensWith tree.source "\x7b" n = true) ∧
      (∀ n ∈ tree.root.nodes, n.kind = .restPattern → opensWith tree.source "..." n = true) ∧
      (∀ n ∈ tree.root.nodes, isFunction n = true → ∀ name ∈ n.child? .parameter,
        name.start < name.stop ∧ name.children.isEmpty = true) ∧
      ((tree.root.sites.filter (·.node.kind.isAnchor)).Pairwise fun s t =>
        key s.node = key t.node →
          s.node.kind = .callExpression ∧ functionDepth s = functionDepth t) ∧
      (∀ n ∈ tree.root.nodes, n.kind = .jsxSelfClosingElement → (n.child? .name).isSome = true) ∧
      ∀ n ∈ tree.root.nodes, isTag n = true →
        (∀ name ∈ n.child? .name, name.stop < n.stop) ∧ ∀ a ∈ attributes n, a.stop < n.stop)
    ⟨fun ⟨a, b, c, d, e, f, g, h, i, j⟩ => ⟨a, b, c, d, e, f, g, h, i, j⟩,
      fun ⟨a, b, c, d, e, f, g, h, i, j⟩ => ⟨a, b, c, d, e, f, g, h, i, j⟩⟩

/-- The arguments of a call are no function themselves. -/
def ArgumentsAreLists (root : Node) : Prop :=
  ∀ n ∈ root.nodes, ∀ list ∈ n.child? .arguments, isFunction list = false

/-- A function ends behind its parameters. -/
def FunctionsHaveBodies (root : Node) : Prop :=
  ∀ n ∈ root.nodes, isFunction n = true → ∀ p ∈ parameterNode? n, p.stop < n.stop

/-- Behind the name and the attributes of a tag there are only leaves. -/
def TagsEndInLeaves (root : Node) : Prop :=
  ∀ n ∈ root.nodes, isTag n = true →
    ∀ c ∈ n.children, c.stop ≤ attributePlace n ∨ c.children.isEmpty = true

instance (root : Node) : Decidable (ArgumentsAreLists root) :=
  inferInstanceAs (Decidable (∀ n ∈ root.nodes, ∀ list ∈ n.child? .arguments, _))

instance (root : Node) : Decidable (FunctionsHaveBodies root) :=
  inferInstanceAs (Decidable (∀ n ∈ root.nodes, isFunction n = true → ∀ p ∈ parameterNode? n, _))

instance (root : Node) : Decidable (TagsEndInLeaves root) :=
  inferInstanceAs (Decidable (∀ n ∈ root.nodes, isTag n = true → ∀ c ∈ n.children, _))

/-- What the grammar says about which nodes stand where, as far as applying a plan relies on it. The
root is a file and no function. -/
structure Arranged (root : Node) : Prop where
  file : root.kind.isNestedScope = false
  arguments : ArgumentsAreLists root
  bodies : FunctionsHaveBodies root
  trailing : TagsEndInLeaves root

instance (root : Node) : Decidable (Arranged root) :=
  decidable_of_iff
    (root.kind.isNestedScope = false ∧ ArgumentsAreLists root ∧ FunctionsHaveBodies root ∧
      TagsEndInLeaves root)
    ⟨fun ⟨a, b, c, d⟩ => ⟨a, b, c, d⟩, fun ⟨a, b, c, d⟩ => ⟨a, b, c, d⟩⟩

/-- What planning and applying rely on in a file. -/
structure Grammatical (tree : SourceTree) : Prop extends Shaped tree, Arranged tree.root

instance (tree : SourceTree) : Decidable (Grammatical tree) :=
  decidable_of_iff (Shaped tree ∧ Arranged tree.root) ⟨fun ⟨a, b⟩ => ⟨a, b⟩, fun ⟨a, b⟩ => ⟨a, b⟩⟩

/-- Attributes are put behind the last attribute of a tag that has a name, or else behind the name. -/
theorem attributePlace_cases {e : Node} (hname : ∃ name, e.child? .name = some name) :
    insertionOffset? e = some (attributePlace e) ∧
      ∃ c ∈ e.children, attributePlace e = c.stop ∧ (c ∈ attributes e ∨ e.child? .name = some c) := by
  obtain ⟨name, hname⟩ := hname
  cases hlast : (attributes e).getLast? with
  | some a =>
    have ha := List.mem_of_getLast? hlast
    have hchild := (Node.mem_namedChildren.mp (List.mem_filter.mp ha).1).1
    have hplace : insertionOffset? e = some a.stop := by rw [insertionOffset?, hlast]
    rw [attributePlace, hplace, Option.getD_some]
    exact ⟨rfl, a, hchild, rfl, .inl ha⟩
  | none =>
    have hplace : insertionOffset? e = some name.stop := by
      rw [insertionOffset?, hlast, hname, Option.map_some]
    rw [attributePlace, hplace, Option.getD_some]
    exact ⟨rfl, name, Node.mem_children_of_child? hname, rfl, .inr hname⟩

namespace Grammatical

variable {tree : SourceTree} (h : Grammatical tree)

include h

theorem separated : Separated tree.root := ⟨h.file, h.nested, h.keys, h.arguments⟩

/-- The file is the byte form of a text. -/
theorem exists_text : ∃ text, tree.source = Bytes.ofText text ∧ Text.isPlain text = true := by
  obtain ⟨text, htext, hplain⟩ := (Option.any_eq_true _ _).mp h.source
  exact ⟨text, Bytes.text?_eq_some.mp htext, hplain⟩

theorem nested_of_mem {n : Node} (hn : n ∈ tree.root.nodes) : n.WellNested := h.nested.of_mem hn

theorem text?_eq_some {n : Node} (hn : n ∈ tree.root.nodes) :
    ∃ piece, Bytes.text? (tree.source.slice n.start n.stop) = some piece ∧
      Text.isPlain piece = true := by
  obtain ⟨text, hsource, hplain⟩ := h.exists_text
  obtain ⟨hstart, hstop⟩ := h.boundaries n hn
  rw [hsource] at hstart hstop ⊢
  have hle := (h.nested_of_mem hn).start_le_stop
  obtain ⟨-, piece, -, -, -, hpiece⟩ := Bytes.exists_slice hstart hstop hle
  have htext : Bytes.text? ((Bytes.ofText text).slice n.start n.stop) = some piece :=
    Bytes.text?_eq_some.mpr hpiece
  exact ⟨piece, htext, Bytes.isPlain_of_slice hplain hstart hstop hle htext⟩

theorem isPlain_text {n : Node} (hn : n ∈ tree.root.nodes) :
    Text.isPlain (n.text tree.source) = true := by
  obtain ⟨piece, hpiece, hplain⟩ := h.text?_eq_some hn
  rw [Node.text, hpiece, Option.getD_some]
  exact hplain

/-- Every node can be read. -/
theorem not_hasIllegible : ¬ HasIllegible tree.source tree.root := by
  rintro ⟨n, hn, hlegible⟩
  obtain ⟨piece, hpiece, -⟩ := h.text?_eq_some hn
  rw [Node.isLegible, hpiece] at hlegible
  cases hlegible

/-- A node that opens with a token of one byte is not empty, and there is a boundary behind the
token. -/
theorem isBoundary_succ {n : Node} {token : String} (hn : n ∈ tree.root.nodes)
    (htoken : (Bytes.ofText token).length = 1) (hopens : opensWith tree.source token n = true) :
    n.start + 1 ≤ n.stop ∧ tree.source.isBoundary (n.start + 1) = true := by
  obtain ⟨text, hsource, -⟩ := h.exists_text
  obtain ⟨hstart, hstop⟩ := h.boundaries n hn
  have hopens := List.isPrefixOf_iff_prefix.mp hopens
  have hne : Bytes.ofText token ≠ [] := List.ne_nil_of_length_eq_add_one htoken
  have hle := Bytes.add_length_le hopens hne
  rw [htoken] at hle
  refine ⟨hle, ?_⟩
  rw [hsource] at hstart hstop hopens ⊢
  have hboundary := Bytes.isBoundary_add hstart hstop (by omega) hopens
  rwa [htoken] at hboundary

/-! ## Where attributes go -/

theorem exists_name {e : Node} (he : e ∈ tree.root.nodes) (hopening : isOpeningElement e = true) :
    ∃ name, e.child? .name = some name := by
  apply Option.isSome_iff_exists.mp
  rw [isOpeningElement, Bool.or_eq_true, Bool.and_eq_true, beq_iff_eq, beq_iff_eq] at hopening
  rcases hopening with hkind | ⟨-, hname⟩
  · exact h.named e he hkind
  · exact hname

/-- Attributes are put behind a child of the tag that ends before the tag does. -/
theorem exists_child_of_attributePlace {e : Node} (he : e ∈ tree.root.nodes)
    (hopening : isOpeningElement e = true) :
    insertionOffset? e = some (attributePlace e) ∧
      ∃ c ∈ e.children, attributePlace e = c.stop ∧ c.stop < e.stop := by
  obtain ⟨hnames, hattributes⟩ := h.tags e he (isTag_of_isOpeningElement hopening)
  obtain ⟨hplace, c, hc, hstop, hcase⟩ := attributePlace_cases (h.exists_name he hopening)
  refine ⟨hplace, c, hc, hstop, ?_⟩
  rcases hcase with hattribute | hname
  · exact hattributes c hattribute
  · exact hnames c hname

theorem attributePlace_range {e : Node} (he : e ∈ tree.root.nodes)
    (hopening : isOpeningElement e = true) :
    e.start ≤ attributePlace e ∧ attributePlace e < e.stop ∧
      tree.source.isBoundary (attributePlace e) = true := by
  obtain ⟨-, c, hc, hplace, hlt⟩ := h.exists_child_of_attributePlace he hopening
  have hin := Node.mem_nodes_of_mem_children hc
  have hrange := (h.nested_of_mem he).range hin
  have hle := ((h.nested_of_mem he).of_mem hin).start_le_stop
  rw [hplace]
  exact ⟨by omega, hlt, (h.boundaries c (Node.mem_nodes_trans he hin)).2⟩

end Grammatical

/-! ## Where parameters go -/

theorem mem_children_of_parameterNode? {f p : Node} (hp : parameterNode? f = some p) :
    p ∈ f.children := by
  rcases Option.or_eq_some_iff.mp hp with hp | ⟨-, hp⟩
  · exact Node.mem_children_of_child? hp
  · exact Node.mem_children_of_child? hp

/-- The parameters of a function lie in the part that holds them. -/
theorem exists_parameterNode {f q : Node} (hq : q ∈ parameters f) :
    ∃ p, parameterNode? f = some p ∧ q ∈ p.nodes := by
  rw [parameters] at hq
  rw [parameterNode?]
  split at hq
  · rename_i _ list hlist
    exact ⟨list, by rw [hlist]; rfl, mem_entries hq⟩
  · rename_i name hnone hname
    refine ⟨name, by rw [hnone, hname]; rfl, ?_⟩
    rw [List.mem_singleton.mp hq]
    exact Node.mem_nodes_self name
  · cases hq

theorem exists_parameterNode_of_field {source : Bytes} {f pattern : Node}
    (h : passing source f = .field pattern) :
    ∃ p, parameterNode? f = some p ∧ pattern ∈ p.nodes ∧ pattern.kind = .objectPattern := by
  rw [passing] at h
  split at h
  · rename_i found hfound
    split at h
    · cases h
    · cases h
      obtain ⟨q, hq, hpattern⟩ := List.exists_of_findSome?_eq_some hfound
      obtain ⟨hin, hkind⟩ := objectPattern?_eq_some hpattern
      obtain ⟨p, hp, hqp⟩ := exists_parameterNode hq
      exact ⟨p, hp, Node.mem_nodes_trans hqp hin, hkind⟩
  · rcases namedPassing_cases source (parameters f) with ⟨reference, hcase⟩ | hcase | hcase <;>
      rw [hcase] at h <;> cases h

/-- What a change to the parameters of a function can be: an insertion where a boundary is, inside the
part `p` that holds the parameters, or a replacement of that part, which is a leaf. -/
structure ParameterChange (source : Bytes) (p : Node) (c : Change) : Prop where
  start : p.start ≤ c.start
  order : c.start ≤ c.stop
  stop : c.stop ≤ p.stop
  boundary_start : source.isBoundary c.start = true
  boundary_stop : source.isBoundary c.stop = true
  kind : c.start = c.stop ∨
    (p.children = [] ∧ p.start < p.stop ∧ c.start = p.start ∧ c.stop = p.stop)

theorem ParameterChange.of_insertion {source : Bytes} {p : Node} {offset : Nat} {text : String}
    (hstart : p.start ≤ offset) (hstop : offset ≤ p.stop)
    (hboundary : source.isBoundary offset = true) :
    ParameterChange source p ⟨offset, offset, text⟩ :=
  ⟨hstart, Nat.le_refl _, hstop, hboundary, hboundary, Or.inl rfl⟩

namespace Grammatical

variable {tree : SourceTree} (h : Grammatical tree)

include h

theorem fieldChange_range {p pattern : Node} (hp : p ∈ tree.root.nodes) (hpattern : pattern ∈ p.nodes)
    (hkind : pattern.kind = .objectPattern) :
    ParameterChange tree.source p (fieldChange pattern) := by
  have hroot := Node.mem_nodes_trans hp hpattern
  have hinside : ∀ {n}, n ∈ pattern.nodes →
      p.start ≤ n.start ∧ n.start ≤ n.stop ∧ n.stop ≤ p.stop := by
    intro n hn
    have hrange := (h.nested_of_mem hp).range (Node.mem_nodes_trans hpattern hn)
    have hle := ((h.nested_of_mem hroot).of_mem hn).start_le_stop
    omega
  rw [fieldChange]
  split
  · rename_i _ rest hrest
    have hin := mem_entries (List.mem_of_find?_eq_some hrest)
    have hrange := hinside hin
    exact .of_insertion (by omega) (by omega) (h.boundaries rest (Node.mem_nodes_trans hroot hin)).1
  · rename_i last _ hlast
    have hin := mem_entries (List.mem_of_getLast? hlast)
    have hrange := hinside hin
    exact .of_insertion (by omega) (by omega) (h.boundaries last (Node.mem_nodes_trans hroot hin)).2
  · have hrange := hinside (Node.mem_nodes_self pattern)
    obtain ⟨hle, hboundary⟩ := h.isBoundary_succ hroot (by decide) (h.patterns pattern hroot hkind)
    exact .of_insertion (by omega) (by omega) hboundary

theorem change?_range {f : Node} {c : Change} (hf : f ∈ tree.root.nodes)
    (hfunction : isFunction f = true)
    (hc : (passing tree.source f).change? tree.source f = some c) :
    ∃ p, parameterNode? f = some p ∧ ParameterChange tree.source p c := by
  cases ThreadChange.of_change? hc with
  | field hpassing =>
    obtain ⟨p, hp, hpattern, hkind⟩ := exists_parameterNode_of_field hpassing
    have hproot := Node.mem_nodes_trans hf
      (Node.mem_nodes_of_mem_children (mem_children_of_parameterNode? hp))
    exact ⟨p, hp, h.fieldChange_range hproot hpattern hkind⟩
  | @list list _ _ _ hlist _ =>
    have hroot := Node.mem_nodes_trans hf (Node.mem_nodes_of_child? hlist)
    obtain ⟨hle, hboundary⟩ := h.isBoundary_succ hroot (by decide) (h.lists f hf list hlist)
    exact ⟨list, by rw [parameterNode?, hlist]; rfl, .of_insertion (by omega) hle hboundary⟩
  | @bare bare _ _ hlist hbare =>
    have hroot := Node.mem_nodes_trans hf (Node.mem_nodes_of_child? hbare)
    obtain ⟨hwide, hleaf⟩ := h.bare f hf hfunction bare hbare
    obtain ⟨hstart, hstop⟩ := h.boundaries bare hroot
    refine ⟨bare, by rw [parameterNode?, hlist, hbare]; rfl, ?_⟩
    exact ⟨Nat.le_refl _, by dsimp only; omega, Nat.le_refl _, hstart, hstop,
      Or.inr ⟨List.isEmpty_iff.mp hleaf, hwide, rfl, rfl⟩⟩

end Grammatical

/-! ## Bare parameters are apart from everything else -/

namespace Grammatical

variable {tree : SourceTree} (h : Grammatical tree)

include h

/-- A bare parameter and the attributes of a tag. The tag lies in front of the parameter, behind it, or
around its function, and then the function is part of an attribute. -/
theorem rangesApart_tag {f p e : Node} (hf : f ∈ tree.root.nodes) (hfunction : isFunction f = true)
    (hp : p ∈ f.children) (hleaf : p.children = []) (hwide : p.start < p.stop)
    (he : e ∈ tree.root.nodes) (hopening : isOpeningElement e = true) :
    RangesApart (p.start, p.stop) (attributePlace e, attributePlace e) := by
  have hpf := Node.mem_nodes_of_mem_children hp
  have hproot := Node.mem_nodes_trans hf hpf
  have hplace := h.attributePlace_range he hopening
  obtain ⟨name, hname⟩ := h.exists_name he hopening
  have htag := isTag_of_isOpeningElement hopening
  unfold RangesApart
  rcases h.nested.inside_or_apart hproot he with hin | hin | hapart | hapart
  · -- the parameter lies inside the tag
    rcases h.nested.eq_or_mem_nodes_parent hf he hp hwide hin with rfl | hfe
    · have hchild := Node.mem_children_of_child? hname
      rw [hleaf] at hchild
      cases hchild
    · rcases Node.mem_nodes_iff.mp hfe with rfl | ⟨c, hc, hfc⟩
      · -- a function is no tag
        rw [isTag, Bool.or_eq_true, beq_iff_eq, beq_iff_eq] at htag
        rcases htag with hkind | hkind <;> rw [isFunction, hkind] at hfunction <;> cases hfunction
      · rcases h.trailing e he htag c hc with hle | hempty
        · have hrange := ((h.nested_of_mem he).of_mem
            (Node.mem_nodes_of_mem_children hc)).range (Node.mem_nodes_trans hfc hpf)
          omega
        · rw [Node.eq_of_children_eq_nil (List.isEmpty_iff.mp hempty) hfc] at hp
          rw [List.isEmpty_iff.mp hempty] at hp
          cases hp
  · rw [Node.eq_of_children_eq_nil hleaf hin] at hname
    have hchild := Node.mem_children_of_child? hname
    rw [hleaf] at hchild
    cases hchild
  · omega
  · omega

/-- A bare parameter and the parameters of another function that is instrumented. -/
theorem rangesApart_thread {cs : List Component} {s t : Scope} {p : Node} {c : Change}
    (hs : s ∈ boundScopes room tree cs) (ht : t ∈ boundScopes room tree cs)
    (hsclass : s.node.kind.isClass = false) (htclass : t.node.kind.isClass = false)
    (hne : s.node ≠ t.node) (hp : p ∈ s.node.children) (hleaf : p.children = [])
    (hwide : p.start < p.stop)
    (hc : (passing tree.source t.node).change? tree.source t.node = some c) :
    RangesApart (p.start, p.stop) (c.start, c.stop) := by
  have hsroot := mem_nodes_of_mem_boundScopes hs
  have htroot := mem_nodes_of_mem_boundScopes ht
  have hps := Node.mem_nodes_of_mem_children hp
  have htfunction := isFunction_of_mem_boundScopes ht htclass
  obtain ⟨q, hq, hchange⟩ := h.change?_range htroot htfunction hc
  have hqt := mem_children_of_parameterNode? hq
  have hqrange := (h.nested_of_mem htroot).range (Node.mem_nodes_of_mem_children hqt)
  have hbody := h.bodies t.node htroot htfunction q hq
  have hstart := hchange.start
  have hstop := hchange.stop
  have horder := hchange.order
  -- a leaf has no parameters
  have hnot : t.node ≠ p := by
    intro heq
    rw [heq, hleaf] at hqt
    cases hqt
  unfold RangesApart
  rcases h.nested.inside_or_apart (Node.mem_nodes_trans hsroot hps) htroot with
    hin | hin | hapart | hapart
  · rcases h.nested.eq_or_mem_nodes_parent hsroot htroot hp hwide hin with heq | hst
    · exact absurd heq hnot
    · have hsrange := (h.nested_of_mem hsroot).range hps
      exact absurd (h.separated.eq_of_mem_nodes hs ht hsclass htclass (by omega) hst) hne
  · exact absurd (Node.eq_of_children_eq_nil hleaf hin) hnot
  · omega
  · omega

/-- What an act changes: nothing in place, or the bare parameter of its function. -/
theorem range?_cases {cs : List Component} {a : Act} {r : Nat × Nat}
    (ha : a.Belongs tree.source (boundScopes room tree cs)) (hr : a.range? tree.source = some r) :
    r.1 = r.2 ∨ ∃ s ∈ boundScopes room tree cs, a = .thread s.node ∧ s.node.kind.isClass = false ∧
      ∃ p ∈ s.node.children, p.children = [] ∧ p.start < p.stop ∧ r = (p.start, p.stop) := by
  cases a with
  | tag element =>
    cases hr
    exact Or.inl rfl
  | root element name reference =>
    cases hr
    exact Or.inl rfl
  | thread function =>
    obtain ⟨s, hs, rfl, hclass⟩ := ha
    obtain ⟨c, hc, rfl⟩ := Option.map_eq_some_iff.mp hr
    obtain ⟨p, hp, hchange⟩ := h.change?_range (mem_nodes_of_mem_boundScopes hs)
      (isFunction_of_mem_boundScopes hs hclass) hc
    rcases hchange.kind with hinsertion | ⟨hleaf, hwide, hstart, hstop⟩
    · exact Or.inl hinsertion
    · exact Or.inr ⟨s, hs, rfl, hclass, p, mem_children_of_parameterNode? hp, hleaf, hwide,
        by rw [hstart, hstop]⟩

/-- A bare parameter is apart from what any other act changes. -/
theorem rangesApart_of_bare {cs : List Component} {s : Scope} {p : Node} {a : Act} {r : Nat × Nat}
    (hs : s ∈ boundScopes room tree cs) (hclass : s.node.kind.isClass = false)
    (hp : p ∈ s.node.children) (hleaf : p.children = []) (hwide : p.start < p.stop)
    (ha : a.Belongs tree.source (boundScopes room tree cs)) (hr : a.range? tree.source = some r)
    (hother : ∀ f, a = .thread f → s.node ≠ f) : RangesApart (p.start, p.stop) r := by
  have htag : ∀ {t e}, t ∈ boundScopes room tree cs → e ∈ t.elements →
      RangesApart (p.start, p.stop) (attributePlace e, attributePlace e) := by
    intro t e ht he
    have heroot := Node.mem_nodes_trans (mem_nodes_of_mem_boundScopes ht)
      (mem_nodes_of_mem_elements he)
    exact h.rangesApart_tag (mem_nodes_of_mem_boundScopes hs)
      (isFunction_of_mem_boundScopes hs hclass) hp hleaf hwide heroot (List.mem_filter.mp he).2
  cases a with
  | tag element =>
    obtain ⟨t, ht, he⟩ := ha
    cases hr
    exact htag ht he
  | root element name reference =>
    obtain ⟨t, ht, he, -⟩ := ha
    cases hr
    exact htag ht he
  | thread function =>
    obtain ⟨t, ht, rfl, htclass⟩ := ha
    obtain ⟨c, hc, rfl⟩ := Option.map_eq_some_iff.mp hr
    exact h.rangesApart_thread hs ht hclass htclass (hother t.node rfl) hp hleaf hwide hc

/-- What the acts of a run change is apart. -/
theorem pairwise_ranges (cs : List Component) :
    ((planned tree.source (boundScopes room tree cs)).filterMap (Act.range? tree.source)).Pairwise
      RangesApart := by
  -- no two of the functions looked at start at the same place
  have hthreads : (Act.threads (planned tree.source (boundScopes room tree cs))).Pairwise
      fun f g => f.start ≠ g.start := by
    rw [threads_planned]
    exact List.pairwise_map.mp (nodup_firsts Node.start _)
  rw [Act.threads, List.pairwise_filterMap] at hthreads
  rw [List.pairwise_filterMap]
  refine hthreads.imp_of_mem ?_
  intro a b ha hb hstarts r hr s hs
  have ha := belongs_of_mem_planned ha
  have hb := belongs_of_mem_planned hb
  have hne : ∀ f g, a = .thread f → b = .thread g → f ≠ g := by
    rintro f g rfl rfl hfg
    exact hstarts f rfl g rfl (by rw [hfg])
  rcases h.range?_cases ha hr with hrempty | ⟨t, ht, hta, hclass, p, hp, hleaf, hwide, rfl⟩
  · rcases h.range?_cases hb hs with hsempty | ⟨t, ht, htb, hclass, p, hp, hleaf, hwide, rfl⟩
    · exact Or.inl ⟨hrempty, hsempty⟩
    · exact (h.rangesApart_of_bare ht hclass hp hleaf hwide ha hr
        fun f hf => (hne f t.node hf htb).symm).symm
  · exact h.rangesApart_of_bare ht hclass hp hleaf hwide hb hs fun f hf => hne t.node f hta hf

theorem attributePlace_of_mem_elements {cs : List Component} {s : Scope} {e : Node}
    (hs : s ∈ boundScopes room tree cs) (he : e ∈ s.elements) :
    tree.source.isBoundary (attributePlace e) = true := by
  have hroot := Node.mem_nodes_trans (mem_nodes_of_mem_boundScopes hs) (mem_nodes_of_mem_elements he)
  exact (h.attributePlace_range hroot (List.mem_filter.mp he).2).2.2

/-- Every change starts and ends at a boundary. -/
theorem change_bounds {cs : List Component} {ids : IdStream} {drawn : Nat} {c : Change}
    (hc : c ∈ changesOf tree.source ids drawn (planned tree.source (boundScopes room tree cs))) :
    c.start ≤ c.stop ∧ tree.source.isBoundary c.start = true ∧
      tree.source.isBoundary c.stop = true := by
  obtain ⟨a, ha, n, hc⟩ := mem_changesOf hc
  have ha := belongs_of_mem_planned ha
  cases a with
  | tag element =>
    obtain ⟨s, hs, he⟩ := ha
    have hboundary := h.attributePlace_of_mem_elements hs he
    cases List.mem_singleton.mp hc
    exact ⟨Nat.le_refl _, hboundary, hboundary⟩
  | root element name reference =>
    obtain ⟨s, hs, he, -⟩ := ha
    have hboundary := h.attributePlace_of_mem_elements hs he
    cases List.mem_singleton.mp hc
    exact ⟨Nat.le_refl _, hboundary, hboundary⟩
  | thread function =>
    obtain ⟨s, hs, rfl, hclass⟩ := ha
    have hc : (passing tree.source s.node).change? tree.source s.node = some c := by
      simpa [changesOf] using hc
    obtain ⟨p, -, hchange⟩ := h.change?_range (mem_nodes_of_mem_boundScopes hs)
      (isFunction_of_mem_boundScopes hs hclass) hc
    exact ⟨hchange.order, hchange.boundary_start, hchange.boundary_stop⟩

/-- Every new text has a byte form, if the ids have one. -/
theorem isPlain_change {cs : List Component} {ids : IdStream} {drawn : Nat} {c : Change}
    (hids : ∀ n, Text.isPlain (ids n) = true)
    (hc : c ∈ changesOf tree.source ids drawn (planned tree.source (boundScopes room tree cs))) :
    Text.isPlain c.text = true := by
  have hplain : ∀ {m}, m ∈ tree.root.nodes →
      ∀ k ∈ m.nodes, Text.isPlain (k.text tree.source) = true := fun hm k hk =>
    h.isPlain_text (Node.mem_nodes_trans hm hk)
  obtain ⟨a, ha, n, hc⟩ := mem_changesOf hc
  have ha := belongs_of_mem_planned ha
  cases a with
  | tag element =>
    cases List.mem_singleton.mp hc
    simp only [idText, toString, Text.isPlain_append, hids, Bool.and_true]
    decide
  | root element name reference =>
    obtain ⟨s, hs, -, rfl, hreference⟩ := ha
    cases List.mem_singleton.mp hc
    have hname : Text.isPlain s.name = true := by
      obtain ⟨anchor, hwalk, -, -, hscope⟩ := exists_anchor_of_mem_boundScopes hs
      rw [(scopeAt?_eq_some hscope).2]
      exact isPlain_componentName (hplain (Node.mem_nodes_of_mem_walk hwalk))
    have hreference : Text.isPlain reference = true := by
      rcases hreference with rfl | ⟨t, ht, rfl⟩
      · decide
      · exact isPlain_reference (hplain (mem_nodes_of_mem_boundScopes ht))
    simp only [rootText, toString, Text.isPlain_append, hname, hreference, Bool.and_true]
    decide
  | thread function =>
    obtain ⟨s, hs, rfl, -⟩ := ha
    have hc : (passing tree.source s.node).change? tree.source s.node = some c := by
      simpa [changesOf] using hc
    exact isPlain_change? (hplain (mem_nodes_of_mem_boundScopes hs)) hc

/-- In a tree of the grammar no scope stands in the way of a run. -/
theorem not_scopeObstacle {cs : List Component} {s : Scope} {e : InstrumentError}
    (hs : s ∈ boundScopes room tree cs) : ¬ ScopeObstacle s e := by
  have hroot := mem_nodes_of_mem_boundScopes hs
  rintro (⟨-, element, hmem, hplace⟩ | ⟨bare, -, -, hbare, hlt⟩)
  · have hin := Node.mem_nodes_trans hroot (mem_nodes_of_mem_elements hmem)
    rw [(h.exists_child_of_attributePlace hin (List.mem_filter.mp hmem).2).1] at hplace
    cases hplace
  · have hin := Node.mem_nodes_trans hroot (Node.mem_nodes_of_child? hbare)
    exact absurd (h.nested_of_mem hin).start_le_stop (by omega)

end Grammatical

/-- In a tree of the grammar's shape the plan of a run can be applied, whatever the components are: no
edit ends before it starts, no two edits overlap, and the edited bytes are a text. Only an id without a
byte form could prevent that. A run that yields no plan has met a locator that is no locator, or too
many wrappers inside each other; planning an edit is not what stops it. -/
theorem plan_applies (room : Nat) (tree : SourceTree) (ids : IdStream) (cs : List Component) (drawn : Nat)
    (h : Grammatical tree) :
    match planAll room tree ids cs drawn with
    | .ok g =>
      (∀ e ∈ g.planner.plan.edits, e.start ≤ e.stop) ∧
        (g.planner.plan.ordered.Pairwise fun d e => d.stop ≤ e.start) ∧
        (∀ error, g.planner.plan.apply tree.source = .error error →
          ∃ cause, error = .unencodable cause) ∧
        ((∀ n, Text.isPlain (ids n) = true) →
          ∃ text, g.planner.plan.apply tree.source = .ok text)
    | .error e =>
      (e = .tooDeep ∧ ∃ n ∈ tree.root.walk, functionObstacle? room tree.source n = some .tooDeep) ∨
        ∃ c ∈ cs, ∃ half, (half = c.declarationStart ∨ half = c.declarationType) ∧
          half.isKey = false ∧ e = .unusableLocator half.typeName := by
  split
  · rename_i g hg
    have hplan : g.planner.plan =
        planOf (changesOf tree.source ids drawn (planned tree.source (boundScopes room tree cs))) := by
      rw [(planAll_eq_ok hg).1]
      rfl
    obtain ⟨text, hsource, -⟩ := h.exists_text
    have hmem : ∀ e ∈ g.planner.plan.edits, ∃ c ∈ changesOf tree.source ids drawn
        (planned tree.source (boundScopes room tree cs)),
        e.start = c.start ∧ e.stop = c.stop ∧ e.text = c.text := by
      intro e he
      rw [hplan, edits_planOf] at he
      obtain ⟨q, hq, rfl⟩ := List.mem_map.mp he
      exact ⟨q.1, List.fst_mem_of_mem_zipIdx hq, rfl, rfl, rfl⟩
    have hapart : g.planner.plan.edits.Pairwise Edit.Apart := by
      rw [hplan]
      refine pairwise_edits_planOf ?_
      rw [ranges_changesOf]
      exact h.pairwise_ranges cs
    have hbounds : ∀ e ∈ g.planner.plan.edits, ∃ start stop : Nat, e.start = start ∧
        e.stop = stop ∧ Bytes.isBoundary (Bytes.ofText text) start = true ∧
        Bytes.isBoundary (Bytes.ofText text) stop = true := by
      intro e he
      obtain ⟨c, hc, hstart, hstop, -⟩ := hmem e he
      rw [← hsource]
      exact ⟨c.start, c.stop, hstart, hstop, (h.change_bounds hc).2⟩
    rw [hsource]
    refine ⟨?_, Edit.Plan.pairwise_ordered hapart, fun error => Edit.Plan.apply_eq_error hapart hbounds,
      fun hids => Edit.Plan.exists_apply hapart hbounds ?_⟩
    · intro e he
      obtain ⟨c, hc, hstart, hstop, -⟩ := hmem e he
      have hle := (h.change_bounds hc).1
      omega
    · intro e he
      obtain ⟨c, hc, -, -, htext⟩ := hmem e he
      rw [htext]
      exact h.isPlain_change hids hc
  · rename_i e he
    cases planAll_eq_error he with
    | illegible hl => exact absurd hl h.not_hasIllegible
    | locator hc _ hhalf hkey => exact Or.inr ⟨_, hc, _, hhalf, hkey, rfl⟩
    | tooDeep _ hanchor _ hdeep => exact Or.inl ⟨rfl, _, hanchor, hdeep⟩
    | scope hs ho => exact absurd ho (h.not_scopeObstacle hs)

/-- An arrow function with a bare parameter and a name that takes more bytes than characters. -/
def bareText : String := "const Ä = x => <b />"

/-- The file with the text `bareText`. -/
def bareArrow : SourceTree where
  source := Bytes.ofText bareText
  root :=
    .mk { kind := .program, start := 0, stop := 21 } [
      .mk { kind := .lexicalDeclaration, start := 0, stop := 21 } [
        .mk { kind := .other "const", start := 0, stop := 5, named := false,
              field := some (.other "kind") } [],
        .mk { kind := .variableDeclarator, start := 6, stop := 21 } [
          .mk { kind := .identifier, start := 6, stop := 8, field := some .name } [],
          .mk { kind := .other "=", start := 9, stop := 10, named := false } [],
          .mk { kind := .arrowFunction, start := 11, stop := 21, field := some .value } [
            .mk { kind := .identifier, start := 11, stop := 12, field := some .parameter } [],
            .mk { kind := .other "=>", start := 13, stop := 15, named := false } [],
            .mk { kind := .jsxSelfClosingElement, start := 16, stop := 21, field := some .body } [
              .mk { kind := .other "<", start := 16, stop := 17, named := false } [],
              .mk { kind := .identifier, start := 17, stop := 18, field := some .name } [],
              .mk { kind := .other "/>", start := 19, stop := 21, named := false } []]]]]]

/-- The parameter is replaced and two attributes are added. -/
theorem plan_applies_bareArrow :
    Grammatical bareArrow ∧
      ∃ g, planAll 100 bareArrow (fun _ => "id") (classifyComponents bareArrow) 0 = .ok g ∧
        g.planner.plan.length = 3 ∧ ∃ text, g.planner.plan.apply bareArrow.source = .ok text := by
  have hgrammatical : Grammatical bareArrow := by decide +kernel
  have happlies := plan_applies 100 bareArrow (fun _ => "id") (classifyComponents bareArrow) 0 hgrammatical
  have hlength : ((planAll 100 bareArrow (fun _ => "id") (classifyComponents bareArrow) 0).toOption.map
      fun g => g.planner.plan.length) = some 3 := by decide +kernel
  refine ⟨hgrammatical, ?_⟩
  cases hg : planAll 100 bareArrow (fun _ => "id") (classifyComponents bareArrow) 0 with
  | error e =>
    rw [hg] at hlength
    cases hlength
  | ok g =>
    rw [hg] at happlies hlength
    obtain ⟨-, -, -, happly⟩ := happlies
    exact ⟨g, rfl, Option.some.inj hlength, happly fun _ => by decide +kernel⟩

/-! ## Shape alone is not enough -/

/-- The arrow function `x=>1` at an offset. -/
def shortArrow (start : Nat) : Node :=
  .mk { kind := .arrowFunction, start, stop := start + 4 } [
    .mk { kind := .identifier, start, stop := start + 1, field := some .parameter } [],
    .mk { kind := .other "=>", start := start + 1, stop := start + 3, named := false } [],
    .mk { kind := .other "number", start := start + 3, stop := start + 4, field := some .body } []]

/-- An arrow function whose parameter list, of the given kind, holds the one above. -/
def outerArrow (kind : Kind) (field : Option Field) : Node :=
  .mk { kind := .arrowFunction, start := 0, stop := 9, field } [
    .mk { kind, start := 0, stop := 6, field := some .parameters } [
      .mk { kind := .other "(", start := 0, stop := 1, named := false } [],
      shortArrow 1,
      .mk { kind := .other ")", start := 5, stop := 6, named := false } []],
    .mk { kind := .other "=>", start := 6, stop := 8, named := false } [],
    .mk { kind := .other "number", start := 8, stop := 9, field := some .body } []]

/-- A function without a body, and another one right behind it. -/
def bodiless : SourceTree where
  source := Bytes.ofText "(x=>1"
  root :=
    .mk { kind := .program, start := 0, stop := 5 } [
      .mk { kind := .arrowFunction, start := 0, stop := 1 } [
        .mk { kind := .other "formal_parameters", start := 0, stop := 1,
              field := some .parameters } [
          .mk { kind := .other "(", start := 0, stop := 1, named := false } []]],
      shortArrow 1]

/-- A class that holds a tag with a function behind the name. -/
def crowdedTag : SourceTree where
  source := Bytes.ofText "<bx=>1/>"
  root :=
    .mk { kind := .program, start := 0, stop := 8 } [
      .mk { kind := .classDeclaration, start := 0, stop := 8 } [
        .mk { kind := .jsxSelfClosingElement, start := 0, stop := 8 } [
          .mk { kind := .other "<", start := 0, stop := 1, named := false } [],
          .mk { kind := .identifier, start := 1, stop := 2, field := some .name } [],
          shortArrow 2,
          .mk { kind := .other "/>", start := 6, stop := 8, named := false } []]]]

/-- A call whose arguments are a function. -/
def functionArguments : SourceTree where
  source := Bytes.ofText "(x=>1)=>2"
  root :=
    .mk { kind := .program, start := 0, stop := 9 } [
      .mk { kind := .callExpression, start := 0, stop := 9 } [
        outerArrow .parenthesizedExpression (some .arguments)]]

/-- A function in place of a file. -/
def functionFile : SourceTree where
  source := Bytes.ofText "(x=>1)=>2"
  root := outerArrow (.other "formal_parameters") none

/-- A component with a locator. -/
def located (name : String) (start : Nat) (kind : Kind) : Component where
  name := .str name
  kind := .functional
  declarationStart := .int start
  declarationType := .str kind.name

/-- Edits planned in the order of their starts are applied as they were planned. -/
theorem exists_ordered {tree : SourceTree} {ids : IdStream} {cs : List Component} (es : List Edit)
    (hplan : ((planAll room tree ids cs).toOption.map fun g => g.planner.plan.edits) = some es)
    (hsorted : es.Pairwise fun a b => Edit.Plan.precedes a b = true) :
    ∃ g, planAll room tree ids cs = .ok g ∧ g.planner.plan.edits = es ∧ g.planner.plan.ordered = es := by
  cases hg : planAll room tree ids cs with
  | error e =>
    rw [hg] at hplan
    cases hplan
  | ok g =>
    rw [hg] at hplan
    have hedits : g.planner.plan.edits = es := Option.some.inj hplan
    refine ⟨g, rfl, hedits, ?_⟩
    rw [Edit.Plan.ordered, hedits]
    exact List.mergeSort_of_pairwise hsorted

/-- A run fails if its edits, planned in the order of their starts, overlap. -/
theorem run_eq_overlap {tree : SourceTree} {ids : IdStream} {cs : List Component}
    {start cursor : Int} (es : List Edit)
    (hplan : ((planAll room tree ids cs).toOption.map fun g => g.planner.plan.edits) = some es)
    (hsorted : es.Pairwise fun a b => Edit.Plan.precedes a b = true)
    (hjoin : Edit.Plan.join tree.source 0 es = .error (.overlap start cursor)) :
    run room tree ids cs = .error (.edit (.overlap start cursor)) := by
  obtain ⟨g, hg, -, hordered⟩ := exists_ordered es hplan hsorted
  have happly : g.planner.plan.apply tree.source = .error (.overlap start cursor) := by
    rw [Edit.Plan.apply, Edit.Plan.applyBytes, hordered, hjoin]
    rfl
  rw [run, hg]
  simp only [bind, Except.bind, happly]

theorem bodiless_overlaps :
    Shaped bodiless ∧ bodiless.root.kind.isNestedScope = false ∧
      ArgumentsAreLists bodiless.root ∧ TagsEndInLeaves bodiless.root ∧
      run 100 bodiless (fun _ => "id")
          [located unknownFunction 1 .arrowFunction, located unknownFunction 0 .arrowFunction] =
        .error (.edit (.overlap 1 2)) := by
  refine ⟨by decide +kernel, rfl, by decide +kernel, by decide +kernel, ?_⟩
  exact run_eq_overlap [⟨1, 2, "(props, x)", 0⟩, ⟨1, 1, "props", 1⟩] (by decide +kernel)
    (by decide +kernel) (by decide +kernel)

theorem crowdedTag_overlaps :
    Shaped crowdedTag ∧ crowdedTag.root.kind.isNestedScope = false ∧
      ArgumentsAreLists crowdedTag.root ∧ FunctionsHaveBodies crowdedTag.root ∧
      run 100 crowdedTag (fun _ => "id")
          [located unknownFunction 2 .arrowFunction, located unknownClass 0 .classDeclaration] =
        .error (.edit (.overlap 2 3)) := by
  refine ⟨by decide +kernel, rfl, by decide +kernel, by decide +kernel, ?_⟩
  exact run_eq_overlap [⟨2, 3, "(props, x)", 0⟩, ⟨2, 2, idText "id", 1⟩,
    ⟨2, 2, rootText unknownClass classReference, 2⟩] (by decide +kernel) (by decide +kernel)
    (by decide +kernel)

theorem functionArguments_overlaps :
    Shaped functionArguments ∧ functionArguments.root.kind.isNestedScope = false ∧
      FunctionsHaveBodies functionArguments.root ∧ TagsEndInLeaves functionArguments.root ∧
      run 100 functionArguments (fun _ => "id")
          [located unknownWrapped 0 .callExpression, located unknownFunction 0 .arrowFunction] =
        .error (.edit (.overlap 1 2)) := by
  refine ⟨by decide +kernel, rfl, by decide +kernel, by decide +kernel, ?_⟩
  exact run_eq_overlap [⟨1, 2, "(props, x)", 0⟩, ⟨1, 1, "props, ", 1⟩] (by decide +kernel)
    (by decide +kernel) (by decide +kernel)

theorem functionFile_overlaps :
    Shaped functionFile ∧ ArgumentsAreLists functionFile.root ∧
      FunctionsHaveBodies functionFile.root ∧ TagsEndInLeaves functionFile.root ∧
      run 100 functionFile (fun _ => "id")
          [located unknownFunction 1 .arrowFunction, located unknownFunction 0 .arrowFunction] =
        .error (.edit (.overlap 1 2)) := by
  refine ⟨by decide +kernel, by decide +kernel, by decide +kernel, by decide +kernel, ?_⟩
  exact run_eq_overlap [⟨1, 2, "(props, x)", 0⟩, ⟨1, 1, "props, ", 1⟩] (by decide +kernel)
    (by decide +kernel) (by decide +kernel)

/-- None of the conditions on which nodes stand where can be left out: there are files of the right
shape that meet the other ones and have overlapping edits. -/
theorem shaped_overlaps :
    (Shaped bodiless ∧ bodiless.root.kind.isNestedScope = false ∧
      ArgumentsAreLists bodiless.root ∧ TagsEndInLeaves bodiless.root ∧
      run 100 bodiless (fun _ => "id")
          [located unknownFunction 1 .arrowFunction, located unknownFunction 0 .arrowFunction] =
        .error (.edit (.overlap 1 2))) ∧
    (Shaped crowdedTag ∧ crowdedTag.root.kind.isNestedScope = false ∧
      ArgumentsAreLists crowdedTag.root ∧ FunctionsHaveBodies crowdedTag.root ∧
      run 100 crowdedTag (fun _ => "id")
          [located unknownFunction 2 .arrowFunction, located unknownClass 0 .classDeclaration] =
        .error (.edit (.overlap 2 3))) ∧
    (Shaped functionArguments ∧ functionArguments.root.kind.isNestedScope = false ∧
      FunctionsHaveBodies functionArguments.root ∧ TagsEndInLeaves functionArguments.root ∧
      run 100 functionArguments (fun _ => "id")
          [located unknownWrapped 0 .callExpression, located unknownFunction 0 .arrowFunction] =
        .error (.edit (.overlap 1 2))) ∧
    (Shaped functionFile ∧ ArgumentsAreLists functionFile.root ∧
      FunctionsHaveBodies functionFile.root ∧ TagsEndInLeaves functionFile.root ∧
      run 100 functionFile (fun _ => "id")
          [located unknownFunction 1 .arrowFunction, located unknownFunction 0 .arrowFunction] =
        .error (.edit (.overlap 1 2))) :=
  ⟨bodiless_overlaps, crowdedTag_overlaps, functionArguments_overlaps, functionFile_overlaps⟩

end JsxTagger.Instrument
