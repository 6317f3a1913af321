import Mathlib.Data.List.Forall2
import Mathlib.Data.List.TakeWhile
import JsxTagger.Component.Consulted
import JsxTagger.Proofs.Component.Flags
import JsxTagger.Proofs.Syntax.Nesting

/-!
# Where components are anchored

A component is found at one site and anchored at another: a wrapped component that is bound to a
variable is anchored at the declarator. `anchorSite` is that other site, and `describe_eq_some` says
what a component that is found knows about it. Export flags are set afterwards and change nothing of
this (`classifyComponents_describes`).
-/

namespace JsxTagger.Classify

open Syntax

/-- A component carries the name and the locator of a node. -/
def Describes (source : Bytes) (anchor : Node) (c : Component) : Prop :=
  c.name = .str (componentName source anchor) ∧ c.declarationStart = .int anchor.start ∧
    c.declarationType = .str anchor.kind.name

/-- A component that describes a node has a locator. -/
theorem Describes.hasLocator {source : Bytes} {anchor : Node} {c : Component}
    (h : Describes source anchor c) : c.hasLocator = true := by
  simp [Component.hasLocator, h.2.1, h.2.2, Json.isNull]

/-- Both halves of the locator can be looked up. -/
theorem Describes.isKey {source : Bytes} {anchor : Node} {c : Component} {half : Json}
    (h : Describes source anchor c) (hhalf : half = c.declarationStart ∨ half = c.declarationType) :
    half.isKey = true := by
  rcases hhalf with rfl | rfl
  · rw [h.2.1]
    rfl
  · rw [h.2.2]
    rfl

/-! ## Binding declarators -/

/-- The site of the first node around a site that is not a parenthesis directly around it. -/
def outer? (s : Site) : Option Site :=
  match enclosing s with
  | [] => none
  | n :: above => some ⟨n, above⟩

/-- The expression that a declarator binds, parentheses aside. -/
def boundValue? (declarator : Node) : Option Node :=
  (declarator.child? .value).bind Node.unwrapped?

theorem mem_above_of_mem_enclosing {s : Site} {n : Node} (hn : n ∈ enclosing s) : n ∈ s.above :=
  (List.dropWhile_suffix _).subset hn

theorem outer?_eq_some {s t : Site} (h : outer? s = some t) :
    ∃ parentheses, s.above = parentheses ++ t.node :: t.above ∧
      ∀ n ∈ parentheses, n.kind = .parenthesizedExpression := by
  rw [outer?] at h
  split at h
  · cases h
  · rename_i n above henclosing
    cases h
    refine ⟨s.above.takeWhile (·.kind == .parenthesizedExpression), ?_, fun n hn => ?_⟩
    · rw [← henclosing, enclosing, List.takeWhile_append_dropWhile]
    · simpa using List.mem_takeWhile_imp hn

/-- The node outside is a site of the same tree, and the site lies below it. -/
theorem mem_sites_of_outer? {root : Node} {s t : Site} (hs : s ∈ root.sites)
    (h : outer? s = some t) : t ∈ root.sites ∧ s.node ∈ t.node.walk.tail := by
  obtain ⟨parentheses, habove, -⟩ := outer?_eq_some h
  obtain ⟨n, above⟩ := s
  cases habove
  exact Node.mem_sites_ancestor hs

/-- A declarator binds what stands at a site if it is the next node outside and its value starts
there. -/
theorem bindingDeclarator?_eq_some {s : Site} {p : Node} (h : bindingDeclarator? s = some p) :
    ∃ above value, outer? s = some ⟨p, above⟩ ∧ p.kind = .variableDeclarator ∧
      boundValue? p = some value ∧ value.start = s.node.start ∧ value.kind = s.node.kind := by
  rw [bindingDeclarator?] at h
  cases henclosing : enclosing s with
  | nil =>
    rw [henclosing] at h
    cases h
  | cons parent above =>
    rw [henclosing] at h
    simp only [List.head?_cons] at h
    split at h
    · rename_i hkind
      split at h
      · rename_i value hvalue
        split at h
        · rename_i hsame
          cases h
          rw [Bool.and_eq_true, beq_iff_eq, beq_iff_eq] at hsame
          exact ⟨above, value, by rw [outer?, henclosing], hkind, hvalue, hsame.1, hsame.2⟩
        · cases h
      · cases h
    · cases h

/-! ## Anchors -/

/-- The site at which the component found at a site is anchored. -/
def anchorSite (s : Site) : Site :=
  if s.node.kind = .callExpression && (bindingDeclarator? s).isSome then (outer? s).getD s else s

/-- What is known about a site at which a component is found: it is a declaration of its own, or a
call of a wrapper. -/
inductive Declares (source : Bytes) (s : Site) : Prop where
  /-- The node itself is the declaration. A declarator has a function as its value. -/
  | own (hkind : s.node.kind ≠ .callExpression) (hanchor : s.node.kind.isAnchor = true)
      (hvalue : s.node.kind = .variableDeclarator →
        ∃ value, boundValue? s.node = some value ∧ value.kind.isComponentFunction = true)
  /-- The node is a call of a wrapper. -/
  | wrapper (hkind : s.node.kind = .callExpression)
      (hwrapper : (wrapperName? source s.node).isSome = true)

theorem anchorSite_of_ne {s : Site} (h : s.node.kind ≠ .callExpression) : anchorSite s = s := by
  rw [anchorSite, if_neg (by simp [h])]

/-- A call is anchored at the declarator that binds it, or else where it stands. -/
theorem anchorSite_of_call {s : Site} (h : s.node.kind = .callExpression) :
    (bindingDeclarator? s = none ∧ anchorSite s = s) ∨
      ∃ value, outer? s = some (anchorSite s) ∧
        bindingDeclarator? s = some (anchorSite s).node ∧
        (anchorSite s).node.kind = .variableDeclarator ∧
        boundValue? (anchorSite s).node = some value ∧ value.start = s.node.start ∧
        value.kind = .callExpression := by
  cases hb : bindingDeclarator? s with
  | none => exact Or.inl ⟨rfl, by simp [anchorSite, hb]⟩
  | some p =>
    obtain ⟨above, value, houter, hkind, hvalue, hstart, hsame⟩ := bindingDeclarator?_eq_some hb
    have hsite : anchorSite s = ⟨p, above⟩ := by simp [anchorSite, h, hb, houter]
    rw [hsite]
    exact Or.inr ⟨value, houter, rfl, hkind, hvalue, hstart, hsame.trans h⟩

theorem mem_sites_anchorSite {root : Node} {s : Site} (h : s ∈ root.sites) :
    anchorSite s ∈ root.sites := by
  by_cases hkind : s.node.kind = .callExpression
  · rcases anchorSite_of_call hkind with ⟨-, hsite⟩ | ⟨value, houter, -⟩
    · rwa [hsite]
    · exact (mem_sites_of_outer? h houter).1
  · rwa [anchorSite_of_ne hkind]

theorem componentAt_describes (source : Bytes) (anchor : Node) (kind : ComponentKind)
    (wrappedIn : Option String) (isDefaultExport : Bool) :
    Describes source anchor (componentAt source anchor kind wrappedIn isDefaultExport) :=
  ⟨rfl, rfl, rfl⟩

/-- What is found at a site, case by case: the node that the component is anchored at, and the component. -/
inductive Finds (source : Bytes) (s : Site) : Node → Component → Prop
  /-- A class that extends a component base. -/
  | classDeclaration (hkind : s.node.kind = .classDeclaration)
      (hextends : extendsComponent source s.node = true) :
      Finds source s s.node (componentAt source s.node .classBased)
  /-- A function that yields markup. -/
  | functionDeclaration (hkind : s.node.kind = .functionDeclaration)
      (hmarkup : returnsMarkup s.node = true) :
      Finds source s s.node (componentAt source s.node .functional)
  /-- A declarator that binds a function that yields markup. -/
  | boundFunction {value : Node} (hkind : s.node.kind = .variableDeclarator)
      (hvalue : boundValue? s.node = some value) (hfunction : value.kind.isComponentFunction = true)
      (hmarkup : returnsMarkup value = true) :
      Finds source s s.node (componentAt source s.node .functional)
  /-- A call of a wrapper that is not the argument of another wrapper. -/
  | wrapperCall {wrapper : String} (hkind : s.node.kind = .callExpression)
      (hwrapper : wrapperName? source s.node = some wrapper) (houter : isWrapped source s = false) :
      Finds source s ((bindingDeclarator? s).getD s.node)
        (componentAt source ((bindingDeclarator? s).getD s.node) .functional (some wrapper)
          (isExportedValue s))
  /-- A function that is exported where it stands and yields markup. -/
  | exportedFunction (hfunction : s.node.kind.isComponentFunction = true)
      (hexported : isExportedValue s = true) (hmarkup : returnsMarkup s.node = true) :
      Finds source s s.node (componentAt source s.node .functional none true)
  /-- A class expression that is exported where it stands and extends a component base. -/
  | exportedClass (hkind : s.node.kind = .classExpression) (hexported : isExportedValue s = true)
      (hextends : extendsComponent source s.node = true) :
      Finds source s s.node (componentAt source s.node .classBased none true)

/-- What is found at a site has one of these reasons. -/
theorem Finds.of_describe {source : Bytes} {s : Site} {n : Node} {c : Component}
    (h : describe source s = some (n, c)) : Finds source s n c := by
  rw [describe] at h
  split at h
  case h_1 hkind =>
    split at h
    case isTrue hextends => cases h; exact .classDeclaration hkind hextends
    case isFalse => cases h
  case h_2 hkind =>
    split at h
    case isTrue hmarkup => cases h; exact .functionDeclaration hkind hmarkup
    case isFalse => cases h
  case h_3 hkind =>
    split at h
    case h_1 value hvalue =>
      split at h
      case isTrue hboth =>
        cases h
        obtain ⟨hfunction, hmarkup⟩ := Bool.and_eq_true_iff.mp hboth
        exact .boundFunction hkind hvalue hfunction hmarkup
      case isFalse => cases h
    case h_2 => cases h
  case h_4 hkind =>
    split at h
    case h_1 => cases h
    case h_2 wrapper hwrapper =>
      split at h
      case isTrue => cases h
      case isFalse houter => cases h; exact .wrapperCall hkind hwrapper (by simpa using houter)
  case h_5 =>
    split at h
    case isFalse => cases h
    case isTrue hexported =>
      split at h
      case isTrue hboth =>
        cases h
        obtain ⟨hfunction, hmarkup⟩ := Bool.and_eq_true_iff.mp hboth
        exact .exportedFunction hfunction hexported hmarkup
      case isFalse =>
        split at h
        case isTrue hboth =>
          cases h
          obtain ⟨hkind, hextends⟩ := Bool.and_eq_true_iff.mp hboth
          exact .exportedClass (of_decide_eq_true hkind) hexported hextends
        case isFalse => cases h

/-- Each of these reasons is enough. -/
theorem Finds.describe_eq {source : Bytes} {s : Site} {n : Node} {c : Component}
    (h : Finds source s n c) : describe source s = some (n, c) := by
  rw [describe]
  cases h with
  | classDeclaration hkind hextends => simp [hkind, hextends]
  | functionDeclaration hkind hmarkup => simp [hkind, hmarkup]
  | boundFunction hkind hvalue hfunction hmarkup =>
    rw [boundValue?] at hvalue
    simp [hkind, hvalue, hfunction, hmarkup]
  | wrapperCall hkind hwrapper houter => simp [hkind, hwrapper, houter]
  | exportedFunction hfunction hexported hmarkup =>
    have hboth : (s.node.kind.isComponentFunction && returnsMarkup s.node) = true := by
      rw [hfunction, hmarkup]; rfl
    split
    case h_1 hkind => rw [hkind] at hfunction; cases hfunction
    case h_2 hkind => rw [hkind] at hfunction; cases hfunction
    case h_3 hkind => rw [hkind] at hfunction; cases hfunction
    case h_4 hkind => rw [hkind] at hfunction; cases hfunction
    case h_5 => rw [if_pos hexported, if_pos hboth]
  | exportedClass hkind hexported hextends => simp [hkind, hexported, hextends, Kind.isComponentFunction]

theorem describe_eq_some_iff {source : Bytes} {s : Site} {n : Node} {c : Component} :
    describe source s = some (n, c) ↔ Finds source s n c :=
  ⟨Finds.of_describe, Finds.describe_eq⟩

/-- A component that is found describes the node it is anchored at. -/
theorem describe_eq_some {source : Bytes} {s : Site} {n : Node} {c : Component}
    (h : describe source s = some (n, c)) :
    n = (anchorSite s).node ∧ Describes source n c ∧ Declares source s := by
  have hown : s.node.kind ≠ .callExpression → s.node = (anchorSite s).node := fun hkind => by
    rw [anchorSite_of_ne hkind]
  cases describe_eq_some_iff.mp h with
  | classDeclaration hkind =>
    refine ⟨hown (by simp [hkind]), componentAt_describes _ _ _ _ _, ?_⟩
    exact .own (by simp [hkind]) (by rw [hkind]; rfl) (by simp [hkind])
  | functionDeclaration hkind =>
    refine ⟨hown (by simp [hkind]), componentAt_describes _ _ _ _ _, ?_⟩
    exact .own (by simp [hkind]) (by rw [hkind]; rfl) (by simp [hkind])
  | boundFunction hkind hvalue hfunction =>
    refine ⟨hown (by simp [hkind]), componentAt_describes _ _ _ _ _, ?_⟩
    exact .own (by simp [hkind]) (by rw [hkind]; rfl) fun _ => ⟨_, hvalue, hfunction⟩
  | wrapperCall hkind hwrapper =>
    refine ⟨?_, componentAt_describes _ _ _ _ _, .wrapper hkind (by simp [hwrapper])⟩
    rcases anchorSite_of_call hkind with ⟨hb, hsite⟩ | ⟨value, -, hb, -⟩
    · rw [hb, hsite, Option.getD_none]
    · rw [hb, Option.getD_some]
  | exportedFunction hfunction =>
    have hcall : s.node.kind ≠ .callExpression := fun hk => by rw [hk] at hfunction; cases hfunction
    refine ⟨hown hcall, componentAt_describes _ _ _ _ _, ?_⟩
    exact .own hcall (by simp [Kind.isAnchor, hfunction]) fun hk => by rw [hk] at hfunction; cases hfunction
  | exportedClass hkind =>
    refine ⟨hown (by simp [hkind]), componentAt_describes _ _ _ _ _, ?_⟩
    exact .own (by simp [hkind]) (by rw [hkind]; rfl) (by simp [hkind])

/-! ## Sites that look alike -/

/-- A component without the place at which it was found. -/
def unplaced (c : Component) : Component := { c with declarationStart := .null, line := .null }

/-- The declarator binds a function that yields markup. -/
def bindsMarkup (declarator : Node) : Bool :=
  (boundValue? declarator).any fun value => value.kind.isComponentFunction && returnsMarkup value

/-- Expressions that become components, or other components, if they are exported where they stand. -/
inductive Exportable (source : Bytes) (n : Node) : Prop
  | call (hkind : n.kind = .callExpression) (hwrapper : (wrapperName? source n).isSome = true)
  | function (hfunction : n.kind.isComponentFunction = true) (hmarkup : returnsMarkup n = true)
  | classExpression (hkind : n.kind = .classExpression) (hextends : extendsComponent source n = true)

/-- All that classification asks about two sites of two trees has the same answer. -/
structure Alike (source source' : Bytes) (s s' : Site) : Prop where
  kind : s'.node.kind = s.node.kind
  name : s.node.kind.isAnchor = true → componentName source' s'.node = componentName source s.node
  extends_ : s.node.kind.isClass = true → extendsComponent source' s'.node = extendsComponent source s.node
  markup : s.node.kind = .functionDeclaration ∨ s.node.kind.isComponentFunction = true →
    returnsMarkup s'.node = returnsMarkup s.node
  bound : s.node.kind = .variableDeclarator → bindsMarkup s'.node = bindsMarkup s.node
  wrapper : s.node.kind = .callExpression → wrapperName? source' s'.node = wrapperName? source s.node
  wrapped : s.node.kind = .callExpression → isWrapped source' s' = isWrapped source s
  /-- A call is bound by declarators of the same name, or by none. -/
  anchor : s.node.kind = .callExpression →
    ((bindingDeclarator? s').getD s'.node).kind = ((bindingDeclarator? s).getD s.node).kind ∧
      componentName source' ((bindingDeclarator? s').getD s'.node) =
        componentName source ((bindingDeclarator? s).getD s.node)
  exported : Exportable source s.node → isExportedValue s' = isExportedValue s

theorem componentAt_unplaced {source source' : Bytes} {n n' : Node} (hkind : n'.kind = n.kind)
    (hname : componentName source' n' = componentName source n) (kind : ComponentKind)
    (wrappedIn : Option String) (isDefaultExport : Bool) :
    unplaced (componentAt source' n' kind wrappedIn isDefaultExport) =
      unplaced (componentAt source n kind wrappedIn isDefaultExport) := by
  simp only [unplaced, componentAt, hkind, hname]

theorem describe_declarator {source : Bytes} {s : Site} (hkind : s.node.kind = .variableDeclarator) :
    describe source s =
      if bindsMarkup s.node then some (s.node, componentAt source s.node .functional) else none := by
  rw [describe, bindsMarkup, boundValue?]
  simp only [hkind]
  cases (s.node.child? .value).bind Node.unwrapped? with
  | none => rfl
  | some value => rw [Option.any_some]

/-- At sites that look alike the same component is found, at a place of its own. -/
theorem Alike.describe_eq {source source' : Bytes} {s s' : Site} (h : Alike source source' s s') :
    (describe source' s').map (unplaced ·.2) = (describe source s).map (unplaced ·.2) := by
  have hown := fun hanchor => componentAt_unplaced h.kind (h.name hanchor)
  -- a declarator is described by what it binds, all else by itself
  by_cases hdeclarator : s.node.kind = .variableDeclarator
  · rw [describe_declarator hdeclarator, describe_declarator (h.kind.trans hdeclarator), h.bound hdeclarator]
    split <;> simp [hown (by rw [hdeclarator]; rfl)]
  rw [describe, describe]
  simp only [h.kind]
  split
  case h_1 hkind =>
    rw [h.extends_ (by rw [hkind]; rfl)]
    split <;> simp [hown (by rw [hkind]; rfl)]
  case h_2 hkind =>
    rw [h.markup (.inl hkind)]
    split <;> simp [hown (by rw [hkind]; rfl)]
  case h_3 hkind => exact absurd hkind hdeclarator
  case h_4 hkind =>
    rw [h.wrapper hkind, h.wrapped hkind]
    obtain ⟨hk, hn⟩ := h.anchor hkind
    split
    case h_1 => rfl
    case h_2 hwrapper =>
      rw [h.exported (.call hkind (by rw [hwrapper]; rfl))]
      split
      case isTrue => rfl
      case isFalse => simp [componentAt_unplaced hk hn]
  case h_5 =>
    by_cases hfunction : s.node.kind.isComponentFunction = true
    · have hclass : s.node.kind ≠ .classExpression := fun hk => by rw [hk] at hfunction; cases hfunction
      rw [h.markup (.inr hfunction)]
      by_cases hmarkup : returnsMarkup s.node = true
      · rw [h.exported (.function hfunction hmarkup)]
        split <;> simp [hfunction, hmarkup, hown (by simp [Kind.isAnchor, hfunction])]
      · simp [hmarkup, hclass]
    · by_cases hkind : s.node.kind = .classExpression
      · rw [h.extends_ (by rw [hkind]; rfl)]
        by_cases hextends : extendsComponent source s.node = true
        · rw [h.exported (.classExpression hkind hextends)]
          split <;> simp [hkind, hextends, Kind.isComponentFunction, hown (by rw [hkind]; rfl)]
        · simp [hextends, hfunction]
      · simp [hfunction, hkind]

/-! ## All components of a file -/

/-- The sites at which components are found. -/
def declaringSites (tree : SourceTree) : List Site :=
  tree.root.sites.filter fun s => (describe tree.source s).isSome

/-- The sites at which the components of a file are anchored, in the order of the components. -/
def anchorSites (tree : SourceTree) : List Site := (declaringSites tree).map anchorSite

theorem mem_declaringSites {tree : SourceTree} {s : Site} :
    s ∈ declaringSites tree ↔
      s ∈ tree.root.sites ∧ ∃ n c, describe tree.source s = some (n, c) := by
  simp [declaringSites, Option.isSome_iff_exists]

/-- The components of a file are those that are found at its sites, export flags aside. -/
theorem classifyComponents_found (tree : SourceTree) :
    List.Forall₂ (fun s c => ∃ found, describe tree.source s = some ((anchorSite s).node, found) ∧
        Describes tree.source (anchorSite s).node c ∧ c.wrappedIn = found.wrappedIn)
      (declaringSites tree) (classifyComponents tree) := by
  rw [classifyComponents_eq_map, declaringSites]
  refine List.forall₂_map_right_iff.mpr (forall₂_found tree.root.sites fun s n found h => ?_)
  obtain ⟨rfl, hdescribes, -⟩ := describe_eq_some h
  exact ⟨found, h, hdescribes, rfl⟩

/-- The components of a file describe the nodes they are anchored at, in order. -/
theorem classifyComponents_describes (tree : SourceTree) :
    List.Forall₂ (fun s c => Describes tree.source s.node c) (anchorSites tree)
      (classifyComponents tree) := by
  rw [anchorSites]
  exact List.forall₂_map_left_iff.mpr ((classifyComponents_found tree).imp fun s c hc => hc.choose_spec.2.1)

/-- The locators of components can be looked up, and their names are texts. -/
structure Bindable (components : List Component) : Prop where
  keys : ∀ c ∈ components, c.declarationStart.isKey = true ∧ c.declarationType.isKey = true
  names : ∀ c ∈ components, ∃ name, c.name = .str name

theorem Bindable.nil : Bindable [] := ⟨nofun, nofun⟩

/-- The components that are found in a file can be bound. -/
theorem analyzeTree_bindable (tree : SourceTree) : Bindable (analyzeTree tree).components := by
  have hdescribes : ∀ c ∈ classifyComponents tree, ∃ s : Site, Describes tree.source s.node c := by
    have hall := classifyComponents_describes tree
    generalize anchorSites tree = sites at hall
    generalize classifyComponents tree = components at hall
    induction hall with
    | nil => nofun
    | cons hfirst _ ih => exact List.forall_mem_cons.mpr ⟨⟨_, hfirst⟩, ih⟩
  rw [analyzeTree]
  dsimp only
  split
  · refine ⟨fun c hc => ?_, fun c hc => ?_⟩
    · obtain ⟨s, hs⟩ := hdescribes c hc
      exact ⟨hs.isKey (.inl rfl), hs.isKey (.inr rfl)⟩
    · obtain ⟨s, hs⟩ := hdescribes c hc
      exact ⟨_, hs.1⟩
  · exact .nil

end JsxTagger.Classify
