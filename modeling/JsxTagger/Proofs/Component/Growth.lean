import JsxTagger.Proofs.Component.Declared
import JsxTagger.Proofs.Syntax.Graft

/-!
# Classification of a tree that has grown

When nodes are added to a tree (`Syntax.Graft`), classification finds the same components at the same
places. Texts matter here: a node that nothing was added to keeps its text, and one that something was
added to is written with brackets before and after, so that it is never one of the names that are
looked for (`Keeps`). The main statement is `anchorSites_graft`.
-/

namespace JsxTagger.Classify

open Syntax

/-! ## Texts -/

/-- Whether a character is one of the brackets that tags, patterns and functions are written with. -/
def isBracket (c : Char) : Bool := c == '<' || c == '(' || c == '>' || c == '\x7b'

/-- Whether a text holds a bracket. -/
def isBracketed (s : String) : Bool := s.toList.any isBracket

theorem isBracketed_ofList (cs : List Char) : isBracketed (String.ofList cs) = cs.any isBracket := by
  rw [isBracketed, String.toList_ofList]

/-- A node keeps its text, or something was added inside it. In that case it is written with brackets,
before and after. -/
def Keeps (g : Graft) (source source' : Bytes) (n : Node) : Prop :=
  (g.graft n).text source' = n.text source ∨
    isBracketed (n.text source) = true ∧ isBracketed ((g.graft n).text source') = true

instance (g : Graft) (source source' : Bytes) (n : Node) : Decidable (Keeps g source source' n) :=
  inferInstanceAs (Decidable (_ ∨ _))

/-- A tree has grown: something was added to it that does not get in the way, and the nodes that were
there keep their texts. -/
structure Grows (g : Graft) (source source' : Bytes) (root : Node) : Prop extends g.Sound root where
  /-- Nodes keep their texts, a bare parameter that a list has taken the place of aside. -/
  texts : ∀ n ∈ root.nodes, ∀ c ∈ n.children,
    (g.wrapped n = none ∨ c.label.field ≠ some .parameter) → Keeps g source source' c
  /-- The names of declarations stay the same. -/
  names : ∀ n ∈ root.nodes, n.kind.isAnchor = true → ∀ m ∈ nameReads n,
    (g.graft m).text source' = m.text source

/-- Quotes are no brackets. -/
theorem isBracketed_unquoted (s : String) : isBracketed (unquoted s) = isBracketed s := by
  have hdrop : ∀ cs : List Char,
      (cs.dropWhile fun c => c == '\'' || c == '"').any isBracket = cs.any isBracket := by
    intro cs
    induction cs with
    | nil => rfl
    | cons c cs ih =>
      rw [List.dropWhile_cons]
      split
      · rename_i hquote
        rw [ih, List.any_cons]
        rcases Bool.or_eq_true_iff.mp hquote with hc | hc <;>
          · rw [beq_iff_eq.mp hc]
            rfl
      · rfl
  simp only [isBracketed, unquoted, String.toList_ofList, List.any_reverse, hdrop]

section

variable {g : Graft} {source source' : Bytes} {n c : Node}

/-- A text without brackets is the text of a node before exactly if it is afterwards. -/
theorem Keeps.text_eq_iff (h : Keeps g source source' c) {k : String} (hk : isBracketed k = false) :
    (g.graft c).text source' = k ↔ c.text source = k := by
  rcases h with heq | ⟨hold, hnew⟩
  · rw [heq]
  · constructor
    · rintro rfl
      rw [hk] at hnew
      cases hnew
    · rintro rfl
      rw [hk] at hold
      cases hold

theorem Keeps.unquoted_eq_iff (h : Keeps g source source' c) {k : String}
    (hk : isBracketed k = false) :
    unquoted ((g.graft c).text source') = k ↔ unquoted (c.text source) = k := by
  rcases h with heq | ⟨hold, hnew⟩
  · rw [heq]
  · rw [← isBracketed_unquoted] at hold hnew
    constructor
    · rintro rfl
      rw [hk] at hnew
      cases hnew
    · rintro rfl
      rw [hk] at hold
      cases hold

theorem Keeps.contains_eq (h : Keeps g source source' c) {names : List String}
    (hnames : ∀ k ∈ names, isBracketed k = false) :
    names.contains ((g.graft c).text source') = names.contains (c.text source) := by
  rw [Bool.eq_iff_iff, List.contains_iff_mem, List.contains_iff_mem]
  constructor
  · intro hmem
    rw [(h.text_eq_iff (hnames _ hmem)).mp rfl]
    exact hmem
  · intro hmem
    rw [(h.text_eq_iff (hnames _ hmem)).mpr rfl]
    exact hmem

/-- A name that is looked for is written as before. -/
theorem Keeps.text_eq_of_contains (h : Keeps g source source' c) {names : List String}
    (hnames : ∀ k ∈ names, isBracketed k = false) (hc : names.contains (c.text source) = true) :
    (g.graft c).text source' = c.text source :=
  (h.text_eq_iff (hnames _ (List.contains_iff_mem.mp hc))).mpr rfl

end

theorem isSome_ite {α : Type} (p : Prop) [Decidable p] (a : α) :
    (if p then some a else none).isSome = decide p := by
  split <;> simp_all

namespace Grows

variable {g : Graft} {source source' : Bytes} {root n c : Node}

theorem of_mem (h : Grows g source source' root) (hn : n ∈ root.nodes) :
    Grows g source source' n where
  toSound := h.toSound.of_mem hn
  texts m hm := h.texts m (Node.mem_nodes_trans hn hm)
  names m hm := h.names m (Node.mem_nodes_trans hn hm)

theorem of_child? (h : Grows g source source' n) {f : Field} (hc : n.child? f = some c) :
    Grows g source source' c :=
  h.of_mem (Node.mem_nodes_of_mem_children (Node.mem_children_of_child? hc))

theorem keeps_of_leaves (h : Grows g source source' n) (hleaves : g.Leaves n)
    (hc : c ∈ n.children) : Keeps g source source' c :=
  h.texts n (Node.mem_nodes_self n) c hc (Or.inl hleaves.2)

/-- A child with a role keeps its text, a bare parameter aside. -/
theorem keeps_child? (h : Grows g source source' n) {f : Field} (hf : f ≠ .parameter)
    (hc : n.child? f = some c) : Keeps g source source' c := by
  refine h.texts n (Node.mem_nodes_self n) c (Node.mem_children_of_child? hc) (Or.inr ?_)
  have hfield : c.label.field = some f := by simpa using List.find?_some hc
  rw [hfield]
  simpa using hf

/-- What stands inside parentheses keeps its text. -/
theorem keeps_unwrapped? (h : Grows g source source' n) (hn : Keeps g source source' n)
    (hc : n.unwrapped? = some c) : Keeps g source source' c := by
  induction n using Node.childInduction with
  | step n ih =>
    rw [Node.unwrapped?] at hc
    split at hc
    · rename_i hk
      split at hc
      · cases hc
      · rename_i d hd
        have hmem := Node.mem_children_of_firstNamedChild? hd
        have hleaves := h.leaves (by rw [hk]; rfl) (by rw [hk]; rfl)
        exact ih d hmem (h.of_mem (Node.mem_nodes_of_mem_children hmem))
          (h.keeps_of_leaves hleaves hmem) hc
    · cases hc
      exact hn

/-! ## Callees -/

theorem isMemberOf_graft (h : Grows g source source' n) {object : String} {names : List String}
    (hobject : isBracketed object = false) (hnames : ∀ k ∈ names, isBracketed k = false) :
    isMemberOf source' (g.graft n) object names = isMemberOf source n object names := by
  rw [isMemberOf, isMemberOf, h.child?_graft rfl (by simp) (by simp),
    h.child?_graft rfl (by simp) (by simp)]
  cases ho : n.child? .object with
  | none => rfl
  | some o =>
    have hotext := (h.keeps_child? (by simp) ho).text_eq_iff hobject
    have hproperty : names.contains (textOf source' ((n.child? .property).map g.graft)) =
        names.contains (textOf source (n.child? .property)) := by
      cases hp : n.child? .property with
      | none => rfl
      | some p => exact (h.keeps_child? (by simp) hp).contains_eq hnames
    simp only [Option.map_some, Graft.kind_graft, hproperty]
    rw [Bool.eq_iff_iff]
    simp [hotext]

/-- Whether a callee is one of some names does not change. -/
theorem calleeIs_graft (h : Grows g source source' n) (hn : Keeps g source source' n)
    (object : String) (names : List String) (hobject : isBracketed object = false)
    (hnames : ∀ k ∈ names, isBracketed k = false) :
    calleeIs source' (g.graft n) object names = calleeIs source n object names := by
  rw [calleeIs, calleeIs, Graft.kind_graft, hn.contains_eq hnames, h.isMemberOf_graft hobject hnames]

/-- A call applies the same wrapper. -/
theorem wrapperName?_graft (h : Grows g source source' n) :
    wrapperName? source' (g.graft n) = wrapperName? source n := by
  rw [wrapperName?, wrapperName?, h.child?_graft rfl (by simp) (by simp)]
  cases hf : n.child? .function with
  | none => rfl
  | some callee =>
    have hg := h.of_child? hf
    have hkeeps := h.keeps_child? (by simp) hf
    have hcallee := hg.calleeIs_graft hkeeps "React" wrappers (by decide) (by decide)
    simp only [Option.map_some, hcallee]
    split
    case isFalse => rfl
    case isTrue hwrapper =>
      -- the name of a wrapper has no bracket in it, so it is written as before
      rw [calleeIs] at hwrapper
      rw [Graft.kind_graft]
      split at hwrapper
      case isTrue hkind =>
        rw [if_pos hkind, if_pos hkind, hkeeps.text_eq_of_contains (by decide) hwrapper]
      case isFalse hkind =>
        rw [if_neg hkind, if_neg hkind, hg.child?_graft rfl (by simp) (by simp)]
        cases hp : callee.child? .property with
        | none => rfl
        | some p =>
          split at hwrapper
          case isFalse => cases hwrapper
          case isTrue =>
            rw [isMemberOf] at hwrapper
            split at hwrapper
            case h_2 => cases hwrapper
            case h_1 =>
              have hcontains := (Bool.and_eq_true_iff.mp hwrapper).2
              rw [hp] at hcontains
              rw [Option.map_some, textOf, textOf,
                (hg.keeps_child? (by simp) hp).text_eq_of_contains (by decide) hcontains]

/-! ## Markup -/

theorem isMarkupExpression_graft {e : Option Node} (h : ∀ m, e = some m → Grows g source source' m) :
    isMarkupExpression (e.map g.graft) = isMarkupExpression e := by
  cases e with
  | none => rfl
  | some m =>
    rw [isMarkupExpression, isMarkupExpression, Option.map_some, Option.bind_some,
      Option.bind_some, (h m rfl).unwrapped?_graft, Option.any_map]
    refine congrArg (Option.any · m.unwrapped?) (funext fun k => ?_)
    rw [Node.isMarkup, Node.isMarkup, Graft.kind_graft]

theorem deliversMarkup_graft (h : Grows g source source' n) :
    deliversMarkup (g.graft n) = deliversMarkup n := by
  rw [deliversMarkup, deliversMarkup, Graft.kind_graft]
  split
  · rename_i hk
    have hleaves := h.leaves (by rw [hk]; rfl) (by rw [hk]; rfl)
    rw [hleaves.firstNamedChild?]
    refine isMarkupExpression_graft fun m hm => h.of_mem ?_
    exact Node.mem_nodes_of_mem_children (Node.mem_children_of_firstNamedChild? hm)
  · split
    · rw [h.child?_graft rfl (by simp) (by simp)]
      exact isMarkupExpression_graft fun m hm => h.of_child? hm
    · rfl

/-- Whether a function yields markup does not change. -/
theorem returnsMarkup_graft (h : Grows g source source' n) :
    returnsMarkup (g.graft n) = returnsMarkup n := by
  rw [returnsMarkup, returnsMarkup, h.child?_graft rfl (by simp) (by simp)]
  cases hbody : n.child? .body with
  | none => rfl
  | some body =>
    have hb := h.of_child? hbody
    have hexpr := isMarkupExpression_graft (e := some body) (fun m hm => Option.some.inj hm ▸ hb)
    have hany : ∀ (ns : List Node) (p : Node → Bool), ns.any p = !(ns.filter p).isEmpty := by
      intro ns p
      rw [Bool.eq_iff_iff]
      simp
    have hwalk := hb.filter_walk_skip_graft Kind.isClosedScope
      (p := fun m => !m.kind.isClosedScope && deliversMarkup m)
      (fun m hm => by
        rw [deliversMarkup, if_neg (Kind.ne_of_isInert hm rfl), if_neg (Kind.ne_of_isInert hm rfl),
          Bool.and_false])
      (fun m hm => by
        rw [Graft.kind_graft, (hb.of_mem (Node.mem_nodes_of_mem_walk hm)).deliversMarkup_graft])
    simp only [Option.map_some] at hexpr ⊢
    rw [hexpr, Graft.kind_graft, hany, hany (body.walk _), hwalk, List.isEmpty_map]

/-- Whether a class extends a component base does not change. -/
theorem extendsComponent_graft (h : Grows g source source' n) (hclass : n.kind.isClass = true) :
    extendsComponent source' (g.graft n) = extendsComponent source n := by
  have hleaves : g.Leaves n := by
    rcases Kind.eq_of_isClass hclass with hk | hk <;>
      exact h.leaves (by rw [hk]; rfl) (by rw [hk]; rfl)
  rw [extendsComponent, extendsComponent, hleaves.namedChildren, List.find?_map]
  simp only [Function.comp_def, Graft.kind_graft]
  cases hheritage : n.namedChildren.find? (·.kind == .classHeritage) with
  | none => rfl
  | some heritage =>
    have hk : heritage.kind = .classHeritage := by simpa using List.find?_some hheritage
    have hmem := (Node.mem_namedChildren.mp (List.mem_of_find?_eq_some hheritage)).1
    have hh := h.of_mem (Node.mem_nodes_of_mem_children hmem)
    have hhleaves := hh.leaves (by rw [hk]; rfl) (by rw [hk]; rfl)
    simp only [Option.map_some, hhleaves.firstNamedChild?]
    cases hfirst : heritage.firstNamedChild? with
    | none => rfl
    | some first =>
      have hfmem := Node.mem_children_of_firstNamedChild? hfirst
      have hf := hh.of_mem (Node.mem_nodes_of_mem_children hfmem)
      simp only [Option.map_some, Option.bind_some, hf.unwrapped?_graft]
      cases hbase : first.unwrapped? with
      | none => rfl
      | some base =>
        have hb := hf.of_mem (Node.mem_nodes_of_unwrapped? hbase)
        have hkeeps := hf.keeps_unwrapped? (hh.keeps_of_leaves hhleaves hfmem) hbase
        exact hb.calleeIs_graft hkeeps "React" componentBases (by decide) (by decide)

/-- A declaration binds the same name. -/
theorem componentName_graft (h : Grows g source source' n) (hanchor : n.kind.isAnchor = true) :
    componentName source' (g.graft n) = componentName source n := by
  have hnames := h.names n (Node.mem_nodes_self n) hanchor
  have hname : ∀ {f : Field}, f.isAskedFor = true → f ≠ .parameters → f ≠ .parameter →
      (g.graft n).child? f = (n.child? f).map g.graft := fun hf hl hb => h.child?_graft hf hl hb
  have htext : (∀ m ∈ (n.child? .name).toList, (g.graft m).text source' = m.text source) →
      textOf source' ((g.graft n).child? .name) = textOf source (n.child? .name) := by
    intro hm
    rw [hname rfl (by simp) (by simp)]
    cases hc : n.child? .name with
    | none => rfl
    | some m => exact hm m (by simp [hc])
  have hunbound : componentName.unbound (g.graft n) = componentName.unbound n := by
    rw [componentName.unbound, componentName.unbound, hname rfl (by simp) (by simp)]
    cases hv : n.child? .value with
    | none => rfl
    | some v =>
      simp only [Option.map_some, Option.bind_some, (h.of_child? hv).unwrapped?_graft]
      cases v.unwrapped? with
      | none => rfl
      | some value => simp
  rw [componentName, componentName, Graft.kind_graft]
  cases hk : n.kind <;> simp only [nameReads, hk] at hnames ⊢
  case classDeclaration => rw [htext hnames]
  case classExpression => rw [htext hnames]
  case functionDeclaration => rw [htext hnames]
  case variableDeclarator =>
    rw [hname rfl (by simp) (by simp)]
    cases hc : n.child? .name with
    | none => simpa using hunbound
    | some m =>
      simp only [Option.map_some, Graft.kind_graft, hunbound]
      split
      · rename_i hkind
        exact hnames m (by simp [hc, hkind])
      · rfl

/-! ## Sites -/

theorem enclosing_site (s : Site) : enclosing (g.site s) = (enclosing s).map g.graft := by
  rw [enclosing, enclosing, Graft.site_above, List.dropWhile_map]
  simp [Function.comp_def]

/-- A declarator binds the same node. -/
theorem bindingDeclarator?_site (h : Grows g source source' root) {s : Site}
    (hs : s ∈ root.sites) :
    bindingDeclarator? (g.site s) = (bindingDeclarator? s).map g.graft := by
  rw [bindingDeclarator?, bindingDeclarator?, enclosing_site]
  cases henclosing : enclosing s with
  | nil => rfl
  | cons parent above =>
    have hmem : parent ∈ s.above := mem_above_of_mem_enclosing (by simp [henclosing])
    have hp := h.of_mem (Node.mem_nodes_of_mem_above hs hmem)
    simp only [List.map_cons, List.head?_cons, Graft.kind_graft,
      hp.child?_graft (f := .value) rfl (by simp) (by simp)]
    split
    · cases hv : parent.child? .value with
      | none => rfl
      | some v =>
        simp only [Option.map_some, Option.bind_some, (hp.of_child? hv).unwrapped?_graft]
        cases v.unwrapped? with
        | none => rfl
        | some value =>
          simp only [Option.map_some, Graft.site_node, Graft.start_graft, Graft.kind_graft]
          have hstart : (g.start value.start == g.start s.node.start) =
              (value.start == s.node.start) := by
            rw [Bool.eq_iff_iff, beq_iff_eq, beq_iff_eq]
            exact h.start.eq_iff
          rw [hstart]
          split <;> rfl
    · rfl

theorem isWrapped_site (h : Grows g source source' root) {s : Site} (hs : s ∈ root.sites) :
    isWrapped source' (g.site s) = isWrapped source s := by
  rw [isWrapped, isWrapped, enclosing_site]
  cases henclosing : enclosing s with
  | nil => rfl
  | cons list above =>
    cases above with
    | nil => rfl
    | cons outer above =>
      have hmem : outer ∈ s.above := mem_above_of_mem_enclosing (by simp [henclosing])
      have ho := h.of_mem (Node.mem_nodes_of_mem_above hs hmem)
      simp only [List.map_cons, Graft.kind_graft, ho.wrapperName?_graft]

theorem isExportedValue_site (h : Grows g source source' root) {s : Site} (hs : s ∈ root.sites) :
    isExportedValue (g.site s) = isExportedValue s := by
  rw [isExportedValue, isExportedValue, Site.parent?, Site.parent?, Graft.site_above]
  cases habove : s.above with
  | nil => rfl
  | cons parent above =>
    have hp := h.of_mem (Node.mem_nodes_of_mem_above (n := parent) hs (by simp [habove]))
    simp only [List.map_cons, List.head?_cons, Graft.kind_graft, Graft.site_node,
      Graft.start_graft, hp.child?_graft (f := .value) rfl (by simp) (by simp), Option.any_map]
    congr 1
    refine congrArg (Option.any · (parent.child? .value)) (funext fun v => ?_)
    rw [Bool.eq_iff_iff, beq_iff_eq, beq_iff_eq]
    exact h.start.eq_iff

/-- A declarator binds a function that yields markup exactly if it did. -/
theorem bindsMarkup_graft (h : Grows g source source' n) : bindsMarkup (g.graft n) = bindsMarkup n := by
  rw [bindsMarkup, bindsMarkup, boundValue?, boundValue?, h.child?_graft rfl (by simp) (by simp)]
  cases hv : n.child? .value with
  | none => rfl
  | some v =>
    have hvg := h.of_child? hv
    rw [Option.map_some, Option.bind_some, Option.bind_some, hvg.unwrapped?_graft, Option.any_map]
    cases hu : v.unwrapped? with
    | none => rfl
    | some value =>
      have hvalue := hvg.of_mem (Node.mem_nodes_of_unwrapped? hu)
      simp only [Option.any_some, Graft.kind_graft, hvalue.returnsMarkup_graft]

/-- Classification finds the same at a site as before. -/
theorem alike_site (h : Grows g source source' root) {s : Site} (hs : s ∈ root.sites) :
    Alike source source' s (g.site s) := by
  have hn := h.of_mem (Node.mem_nodes_of_mem_sites hs)
  refine
    { kind := Graft.kind_graft g s.node
      name := hn.componentName_graft
      extends_ := hn.extendsComponent_graft
      markup := fun _ => hn.returnsMarkup_graft
      bound := fun _ => hn.bindsMarkup_graft
      wrapper := fun _ => hn.wrapperName?_graft
      wrapped := fun _ => h.isWrapped_site hs
      anchor := fun hkind => ?_
      exported := fun _ => h.isExportedValue_site hs }
  rw [h.bindingDeclarator?_site hs, Graft.site_node]
  cases hb : bindingDeclarator? s with
  | none => exact ⟨by simp, hn.componentName_graft (by rw [hkind]; rfl)⟩
  | some p =>
    obtain ⟨above, value, houter, hdeclarator, -⟩ := bindingDeclarator?_eq_some hb
    have hp := h.of_mem (Node.mem_nodes_of_mem_sites (mem_sites_of_outer? hs houter).1)
    exact ⟨by simp, hp.componentName_graft (by rw [hdeclarator]; rfl)⟩

/-- A component is found at a site exactly if one was found there before. -/
theorem isSome_describe_site (h : Grows g source source' root) {s : Site} (hs : s ∈ root.sites) :
    (describe source' (g.site s)).isSome = (describe source s).isSome := by
  have hfound := congrArg Option.isSome (h.alike_site hs).describe_eq
  rwa [Option.isSome_map, Option.isSome_map] at hfound

theorem anchorSite_site (h : Grows g source source' root) {s : Site} (hs : s ∈ root.sites) :
    anchorSite (g.site s) = g.site (anchorSite s) := by
  have houter : outer? (g.site s) = (outer? s).map g.site := by
    rw [outer?, outer?, enclosing_site]
    cases enclosing s <;> rfl
  rw [anchorSite, anchorSite, Graft.site_node, Graft.kind_graft, h.bindingDeclarator?_site hs,
    Option.isSome_map, houter]
  split
  · cases outer? s <;> rfl
  · rfl

/-- No component is found at a node that no traversal looks for. -/
theorem isSome_describe_of_isInert {s : Site} (hs : s.node.kind.isInert = true) :
    (describe source s).isSome = false := by
  cases hd : describe source s with
  | none => rfl
  | some found =>
    cases (describe_eq_some hd).2.2 with
    | own _ hanchor _ =>
      rw [Kind.isAnchor_of_isInert hs] at hanchor
      cases hanchor
    | wrapper hkind _ =>
      rw [hkind] at hs
      cases hs

/-- The components of a tree that has grown are anchored where they were. -/
theorem anchorSites_graft {tree tree' : SourceTree} (h : Grows g tree.source tree'.source tree.root)
    (hroot : tree'.root = g.graft tree.root) :
    anchorSites tree' = (anchorSites tree).map g.site := by
  have hdeclaring := h.filter_sites_graft (p := fun s => (describe tree.source s).isSome)
    (q := fun s => (describe tree'.source s).isSome) (fun s => isSome_describe_of_isInert)
    (fun s => isSome_describe_of_isInert) fun s hs => h.isSome_describe_site hs
  rw [anchorSites, declaringSites, hroot, hdeclaring, anchorSites, declaringSites, List.map_map,
    List.map_map]
  refine List.map_congr_left fun s hs => ?_
  exact h.anchorSite_site (List.mem_filter.mp hs).1

end Grows

end JsxTagger.Classify
