import JsxTagger.Proofs.Instrument.Acts

/-!
# The scopes that are instrumented

The *scope* of a declaration is the class, or the component function. `boundScopes` lists the scopes
that instrumentation works on for a list of components: those of the components that are found at the
top level of the file. `planAll_eq_ok` says that a run carries out the acts of these scopes, one after
another, and reports their components as bound.
-/

namespace JsxTagger

theorem Json.isText_eq_true {j : Json} {s : String} : j.isText s = true ↔ j = .str s := by
  cases j <;> simp [Json.isText]

namespace Instrument

open Classify Syntax

variable {room : Nat}

/-- A class or a component function, with the name of its declaration. -/
structure Scope where
  /-- The class or the function. -/
  node : Node
  /-- The name under which it is declared. -/
  name : String

/-- The tags inside a scope that can carry attributes. -/
def Scope.elements (s : Scope) : List Node := s.node.walk.filter isOpeningElement

/-- The class or component function of a declaration. -/
def scopeAt? (source : Bytes) (anchor : Node) : Option Scope :=
  if anchor.kind.isClass then some ⟨anchor, componentName source anchor⟩
  else (componentFunction? source anchor).map (⟨·, componentName source anchor⟩)

/-- The declaration that a component is found at. -/
def anchorOf? (room : Nat) (tree : SourceTree) (c : Component) : Option Node :=
  match locate room tree.source (anchors tree.root) (topLevel tree.root) c with
  | .ok found => found
  | .error _ => none

/-- Whether a declaration is at the top level of a file. -/
def isTopLevel (tree : SourceTree) (anchor : Node) : Bool :=
  (topLevel tree.root).contains (key anchor)

/-- The scope that is instrumented for a component. -/
def scopeOf? (room : Nat) (tree : SourceTree) (c : Component) : Option Scope :=
  ((anchorOf? room tree c).filter (isTopLevel tree)).bind (scopeAt? tree.source)

/-- The scopes that are instrumented, in the order of the components. -/
def boundScopes (room : Nat) (tree : SourceTree) (components : List Component) : List Scope :=
  components.filterMap (scopeOf? room tree)

/-! ## Acts of a scope -/

/-- The expression for the identity inside a class. -/
def classReference : String := s!"this.{propsParameter}.{identityField}"

/-- What instrumenting a scope adds to the acts. -/
def Act.addScope (source : Bytes) (acts : List Act) (s : Scope) : List Act :=
  if s.node.kind.isClass then Act.addElements source acts s.name classReference s.elements
  else
    Act.addElements source (Act.addThread acts s.node) s.name (Act.reference source acts s.node)
      s.elements

/-- The acts of a sequence of scopes. -/
def planned (source : Bytes) (scopes : List Scope) : List Act :=
  scopes.foldl (Act.addScope source) []

/-! ## Component functions -/

/-- The first argument of a call, parentheses aside. -/
def firstArgument? (call : Node) : Option Node :=
  (call.child? .arguments).bind fun a => a.firstNamedChild?.bind Node.unwrapped?

theorem mem_nodes_of_firstArgument? {call target : Node} (h : firstArgument? call = some target) :
    target ∈ call.nodes := by
  obtain ⟨list, hlist, h⟩ := Option.bind_eq_some_iff.mp h
  obtain ⟨first, hfirst, h⟩ := Option.bind_eq_some_iff.mp h
  have hlist := Node.mem_nodes_of_child? hlist
  have hfirst := Node.mem_nodes_of_mem_children (Node.mem_children_of_firstNamedChild? hfirst)
  exact Node.mem_nodes_trans (Node.mem_nodes_trans hlist hfirst) (Node.mem_nodes_of_unwrapped? h)

theorem size_lt_of_firstArgument? {call target : Node} (h : firstArgument? call = some target) :
    target.size < call.size := by
  obtain ⟨list, hlist, h⟩ := Option.bind_eq_some_iff.mp h
  obtain ⟨first, hfirst, h⟩ := Option.bind_eq_some_iff.mp h
  have hl := Node.size_lt_of_mem_children (Node.mem_children_of_child? hlist)
  have hf := Node.size_lt_of_mem_children (Node.mem_children_of_firstNamedChild? hfirst)
  have ht := Node.size_le_of_mem_nodes (Node.mem_nodes_of_unwrapped? h)
  omega

theorem wrappedFunction?_eq_some {source : Bytes} {fuel : Nat} {call f : Node}
    (h : wrappedFunction? source fuel call = some f) :
    f ∈ call.nodes ∧ f.kind.isComponentFunction = true := by
  induction fuel generalizing call with
  | zero => cases h
  | succ fuel ih =>
    rw [wrappedFunction?] at h
    split at h
    · cases h
    · rename_i target htarget
      have hin := mem_nodes_of_firstArgument? htarget
      split at h
      · rename_i hk
        cases h
        exact ⟨hin, hk⟩
      · split at h
        · obtain ⟨hf, hk⟩ := ih h
          exact ⟨Node.mem_nodes_trans hin hf, hk⟩
        · cases h

/-- The function of a declaration lies inside the declaration. -/
theorem componentFunction?_eq_some {source : Bytes} {anchor f : Node}
    (h : componentFunction? source anchor = some f) :
    f ∈ anchor.nodes ∧ (f.kind = .functionDeclaration ∨ f.kind.isComponentFunction = true) := by
  rw [componentFunction?] at h
  split at h
  · rename_i hk
    cases h
    exact ⟨Node.mem_nodes_self _, by simpa using hk⟩
  · split at h
    · split at h
      · cases h
      · rename_i value hvalue
        obtain ⟨v, hv, hvalue⟩ := Option.bind_eq_some_iff.mp hvalue
        have hin := Node.mem_nodes_trans (Node.mem_nodes_of_child? hv) (Node.mem_nodes_of_unwrapped? hvalue)
        split at h
        · rename_i hk
          cases h
          exact ⟨hin, Or.inr hk⟩
        · split at h
          · obtain ⟨hf, hk⟩ := wrappedFunction?_eq_some h
            exact ⟨Node.mem_nodes_trans hin hf, Or.inr hk⟩
          · cases h
    · split at h
      · obtain ⟨hf, hk⟩ := wrappedFunction?_eq_some h
        exact ⟨hf, Or.inr hk⟩
      · cases h

/-- A function scope is no class. -/
theorem isClass_of_componentFunction? {source : Bytes} {anchor f : Node}
    (h : componentFunction? source anchor = some f) : f.kind.isClass = false := by
  rcases (componentFunction?_eq_some h).2 with hk | hk
  · rw [hk]
    rfl
  · revert hk
    cases f.kind <;> first | exact fun _ => rfl | exact fun hk => nomatch hk

theorem scopeAt?_eq_some {source : Bytes} {anchor : Node} {s : Scope}
    (h : scopeAt? source anchor = some s) :
    s.node ∈ anchor.nodes ∧ s.name = componentName source anchor := by
  rw [scopeAt?] at h
  split at h
  · cases h
    exact ⟨Node.mem_nodes_self _, rfl⟩
  · obtain ⟨f, hf, rfl⟩ := Option.map_eq_some_iff.mp h
    exact ⟨(componentFunction?_eq_some hf).1, rfl⟩

section Run

variable {tree : SourceTree} {ids : IdStream} {drawn : Nat} {acts : List Act}

/-- Instrumenting a declaration, where it succeeds, carries out the acts of its scope. -/
theorem instrumentDeclaration_eq_ok {anchor : Node} {source : Bytes} {r : Option Planner}
    (h : instrumentDeclaration room source ids (.ofActs source ids drawn acts) anchor
      (componentName source anchor) = .ok r) :
    r = (scopeAt? source anchor).map fun s =>
      .ofActs source ids drawn (Act.addScope source acts s) := by
  rw [instrumentDeclaration] at h
  rw [scopeAt?]
  split at h
  · rename_i hclass
    obtain ⟨p, hp, h⟩ := Except.bind_eq_ok.mp h
    cases h
    rw [if_pos hclass, annotate_eq_ok hp, Option.map_some, Act.addScope, if_pos hclass]
    rfl
  · rename_i hclass
    rw [if_neg hclass]
    split at h
    · cases h
    · rename_i hf
      cases h
      rw [hf]
      rfl
    · rename_i f _ hf
      obtain ⟨⟨reference, p⟩, hp, h⟩ := Except.bind_eq_ok.mp h
      obtain ⟨q, hq, h⟩ := Except.bind_eq_ok.mp h
      cases h
      obtain ⟨rfl, rfl⟩ := thread_eq_ok hp
      have hfc := isClass_of_componentFunction? hf
      rw [hf, annotate_eq_ok hq]
      simp [Act.addScope, hfc, Scope.elements]

/-! ## Finding a declaration -/

theorem mem_sorted {α : Type} {top : α → Bool} {as : List α} {a : α} :
    a ∈ (as.filter top ++ as.filter fun a => !top a) ↔ a ∈ as := by
  rw [List.mem_append, List.mem_filter, List.mem_filter, ← and_or_left]
  cases top a <;> simp

/-- A component is found at an anchor that bears its name. -/
theorem locate_eq_some {source : Bytes} {as : List Node} {top : List (Nat × Kind)} {c : Component}
    {anchor : Node} (h : locate room source as top c = .ok (some anchor)) :
    anchor ∈ as ∧ c.name = .str (componentName source anchor) := by
  rw [locate] at h
  split at h
  · split at h
    · cases h
    · split at h
      · cases h
      · obtain ⟨n, hn, hname⟩ := List.exists_of_findSome?_eq_some (search_eq_ok h)
        split at hname
        · rename_i htext
          cases hname
          exact ⟨List.mem_of_find?_eq_some (Option.mem_toList.mp hn), Json.isText_eq_true.mp htext⟩
        · cases hname
  · obtain ⟨n, hn, hname⟩ := List.exists_of_findSome?_eq_some (search_eq_ok h)
    split at hname
    · rename_i hanswers
      cases hname
      rw [answersTo, Bool.and_eq_true, Bool.and_eq_true] at hanswers
      exact ⟨mem_sorted.mp hn, Json.isText_eq_true.mp hanswers.1.2⟩
    · cases hname

theorem anchorOf?_eq_some {c : Component} {anchor : Node} :
    anchorOf? room tree c = some anchor ↔
      locate room tree.source (anchors tree.root) (topLevel tree.root) c = .ok (some anchor) := by
  rw [anchorOf?]
  split
  · rename_i found hfound
    rw [hfound, Except.ok.injEq]
  · rename_i e he
    simp [he]

/-! ## Runs -/

/-- What dealing with one component does: the component is missing, or nested in another declaration,
or its declaration is instrumented. -/
theorem step_eq_ok {g g' : Progress} {c : Component}
    (h : g.step room tree ids (anchors tree.root) (topLevel tree.root) c = .ok g') :
    (locate room tree.source (anchors tree.root) (topLevel tree.root) c = .ok none ∧
        ∃ log, g' = { g with missing := g.missing ++ [c.name], log }) ∨
      ∃ anchor, locate room tree.source (anchors tree.root) (topLevel tree.root) c = .ok (some anchor) ∧
        ((isTopLevel tree anchor = false ∧ ∃ log, g' = { g with nested := g.nested ++ [c.name], log }) ∨
          isTopLevel tree anchor = true ∧
            ∃ r, instrumentDeclaration room tree.source ids g.planner anchor c.name.plain = .ok r ∧
              ((r = none ∧ ∃ log, g' = { g with log }) ∨
                ∃ planner, r = some planner ∧
                  g' = { g with planner, bound := g.bound ++ [c.name] })) := by
  obtain ⟨found, hfound, h⟩ := Except.bind_eq_ok.mp h
  cases found with
  | none =>
    cases h
    exact Or.inl ⟨hfound, _, rfl⟩
  | some anchor =>
    refine Or.inr ⟨anchor, hfound, ?_⟩
    simp only at h
    split at h
    · rename_i htop
      cases h
      exact Or.inl ⟨by simpa [isTopLevel] using htop, _, rfl⟩
    · rename_i htop
      refine Or.inr ⟨by simpa [isTopLevel] using htop, ?_⟩
      obtain ⟨r, hr, h⟩ := Except.bind_eq_ok.mp h
      refine ⟨r, hr, ?_⟩
      cases r with
      | none =>
        cases h
        exact Or.inl ⟨rfl, _, rfl⟩
      | some planner =>
        cases h
        exact Or.inr ⟨planner, rfl, rfl⟩

/-- Whether a component is declared inside another declaration. -/
def isNestedIn (room : Nat) (tree : SourceTree) (c : Component) : Bool :=
  (anchorOf? room tree c).any fun anchor => !isTopLevel tree anchor

/-- One component adds the acts of its scope, if it has one that is instrumented, and one entry to the
report. -/
theorem step_acts {g g' : Progress} {c : Component}
    (hg : g.planner = .ofActs tree.source ids drawn acts)
    (h : g.step room tree ids (anchors tree.root) (topLevel tree.root) c = .ok g') :
    g'.planner = .ofActs tree.source ids drawn
        ((scopeOf? room tree c).toList.foldl (Act.addScope tree.source) acts) ∧
      g'.bound = g.bound ++ (scopeOf? room tree c).toList.map (fun s => .str s.name) ∧
      g'.missing = g.missing ++ (if (anchorOf? room tree c).isNone then [c.name] else []) ∧
      g'.nested = g.nested ++ (if isNestedIn room tree c then [c.name] else []) := by
  rcases step_eq_ok h with ⟨hfound, log, rfl⟩ | ⟨anchor, hfound, hcases⟩
  · have hanchor : anchorOf? room tree c = none := by simp [anchorOf?, hfound]
    simp [scopeOf?, isNestedIn, hanchor, hg]
  · have hanchor := anchorOf?_eq_some.mpr hfound
    rcases hcases with ⟨htop, log, rfl⟩ | ⟨htop, r, hr, hcases⟩
    · simp [scopeOf?, isNestedIn, hanchor, Option.filter, htop, hg]
    · -- the declaration is instrumented, if it has a scope
      have hscope : scopeOf? room tree c = scopeAt? tree.source anchor := by
        simp [scopeOf?, hanchor, Option.filter, htop]
      have hname := (locate_eq_some hfound).2
      rw [hname, hg] at hr
      have hr := instrumentDeclaration_eq_ok hr
      rcases hcases with ⟨rfl, log, rfl⟩ | ⟨planner, rfl, rfl⟩
      · have hnone : scopeOf? room tree c = none := hscope.trans (Option.map_eq_none_iff.mp hr.symm)
        simp [hnone, isNestedIn, hanchor, htop, hg]
      · obtain ⟨s, hs, hplanner⟩ := Option.map_eq_some_iff.mp hr.symm
        have hsome : scopeOf? room tree c = some s := hscope.trans hs
        simp [hsome, isNestedIn, hanchor, htop, hplanner, hname, (scopeAt?_eq_some hs).2]

theorem boundScopes_cons (c : Component) (cs : List Component) :
    boundScopes room tree (c :: cs) = (scopeOf? room tree c).toList ++ boundScopes room tree cs := by
  rw [boundScopes, List.filterMap_cons]
  cases scopeOf? room tree c <;> rfl

/-- What a run has done and reported, from a state of planning that acts stand for. -/
theorem foldlM_step_acts {cs : List Component} {g g' : Progress}
    (hg : g.planner = .ofActs tree.source ids drawn acts)
    (h : cs.foldlM (Progress.step room tree ids (anchors tree.root) (topLevel tree.root)) g = .ok g') :
    g'.planner = .ofActs tree.source ids drawn
        ((boundScopes room tree cs).foldl (Act.addScope tree.source) acts) ∧
      g'.bound = g.bound ++ (boundScopes room tree cs).map (fun s => .str s.name) ∧
      g'.missing = g.missing ++ (cs.filter fun c => (anchorOf? room tree c).isNone).map (·.name) ∧
      g'.nested = g.nested ++ (cs.filter (isNestedIn room tree)).map (·.name) := by
  induction cs generalizing g acts with
  | nil =>
    cases h
    simp [boundScopes, hg]
  | cons c cs ih =>
    rw [List.foldlM_cons] at h
    obtain ⟨g₁, hstep, h⟩ := Except.bind_eq_ok.mp h
    obtain ⟨hp₁, hb₁, hm₁, hn₁⟩ := step_acts hg hstep
    obtain ⟨hp, hb, hm, hn⟩ := ih hp₁ h
    refine ⟨?_, ?_, ?_, ?_⟩
    · rw [hp, boundScopes_cons, List.foldl_append]
    · rw [hb, hb₁, boundScopes_cons, List.map_append, List.append_assoc]
    · rw [hm, hm₁, List.filter_cons, List.append_assoc]
      split <;> simp
    · rw [hn, hn₁, List.filter_cons, List.append_assoc]
      split <;> simp

/-- A run carries out the acts of the scopes it works on, and reports every component as bound,
missing or nested. -/
theorem planAll_eq_ok {cs : List Component} {g : Progress} (h : planAll room tree ids cs drawn = .ok g) :
    g.planner = .ofActs tree.source ids drawn (planned tree.source (boundScopes room tree cs)) ∧
      g.bound = (boundScopes room tree cs).map (fun s => .str s.name) ∧
      g.missing = (cs.filter fun c => (anchorOf? room tree c).isNone).map (·.name) ∧
      g.nested = (cs.filter (isNestedIn room tree)).map (·.name) := by
  have hstart : ({ drawn } : Planner) = .ofActs tree.source ids drawn [] := rfl
  simpa [planned] using foldlM_step_acts hstart h

end Run

end Instrument

end JsxTagger
