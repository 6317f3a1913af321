import JsxTagger.Proofs.Instrument.Candidates
import JsxTagger.Proofs.Instrument.Repetition

/-!
# Components without a locator

A component that is listed without its locator is looked for by its name. If no other declaration of
a class or of a function bears the name (`Sole`), the text comes out the same as with the locator
(`fallback_agrees`). What may differ is the report on a declaration that holds neither a class nor a
function: the locator finds it and there is nothing to do, and by its name it is missing.

The name is read from every declaration of the file, and wrappers are followed in each that bears it.
With the locator neither is done for a component inside another one, so that a component can be passed
over with its locator and stop the run without it; `Searchable` excludes this. `fallback_disagrees` has
a file for each of the two, and one in which two declarations share a key.
-/

namespace JsxTagger

/-- A component without its locator. -/
def Component.withoutLocator (c : Component) : Component :=
  { c with declarationStart := .null, declarationType := .null }

namespace Instrument

open Classify Syntax

variable {room : Nat}

/-- A component whose name leads to the declaration it is anchored at, or to none. -/
structure Sole (tree : SourceTree) (c : Component) (anchor : Node) : Prop where
  /-- The declaration is one of a function, a class or a variable. -/
  named : anchor.kind.isNamedDeclaration = true
  /-- No other declaration of a class or of a function bears the name. -/
  sole : ∀ m ∈ tree.root.walk, answersTo tree.source c.name m = true → m = anchor

/-- Components from a file that are anchored at declarations which alone bear their names. -/
def Anchored (tree : SourceTree) (cs : List Component) : Prop :=
  ∀ c ∈ cs, ∃ s, (s, c) ∈ foundAt tree ∧ Sole tree c (anchorSite s).node

/-- The components of a file are anchored at one declaration if there is a property that only this
declaration has, which is found where components are found and where their name is borne. -/
theorem anchored_of_unique {tree : SourceTree} {anchor : Node} {p : Node → Bool}
    (hunique : ∀ n ∈ tree.root.nodes, p n = true → n = anchor)
    (hnamed : anchor.kind.isNamedDeclaration = true)
    (hsites : ∀ s ∈ tree.root.sites, (describe tree.source s).isSome = true →
      s.node.kind ≠ .callExpression ∧ p s.node = true)
    (hsole : ∀ m ∈ tree.root.walk,
      answersTo tree.source (.str (componentName tree.source anchor)) m = true → p m = true) :
    Anchored tree (classifyComponents tree) := by
  intro c hc
  rw [← map_snd_foundAt] at hc
  obtain ⟨⟨s, c⟩, hfound, rfl⟩ := List.mem_map.mp hc
  obtain ⟨found, -, hdescribes, -⟩ := List.forall₂_zip (classifyComponents_found tree) hfound
  obtain ⟨hs, hsome⟩ := List.mem_filter.mp (mem_declaringSites_of_foundAt hfound)
  obtain ⟨hkind, hp⟩ := hsites s hs hsome
  have hnode : (anchorSite s).node = anchor := by
    rw [anchorSite_of_ne hkind]
    exact hunique _ (Node.mem_nodes_of_mem_sites hs) hp
  rw [hnode] at hdescribes
  have hname : c.name = .str (componentName tree.source anchor) := hdescribes.1
  refine ⟨s, hfound, ?_⟩
  rw [hnode]
  exact ⟨hnamed, fun m hm hanswers =>
    hunique m (Node.mem_nodes_of_mem_walk hm) (hsole m hm (hname ▸ hanswers))⟩

/-! ## Declarations that bear the name -/

section Declarations

variable {source : Bytes} {name : Json} {n : Node}

/-- A declaration that bears the name answers to it if there is something to instrument. -/
theorem answersTo_eq_isSome (hnamed : n.kind.isNamedDeclaration = true)
    (hname : name = .str (componentName source n)) :
    answersTo source name n = (scopeAt? source n).isSome := by
  have htext : name.isText (componentName source n) = true := Json.isText_eq_true.mpr hname
  unfold answersTo scopeAt?
  rw [hnamed, htext]
  by_cases hclass : n.kind.isClass = true
  · have hkind : n.kind = .classDeclaration := by
      revert hclass hnamed
      cases n.kind <;> simp [Kind.isNamedDeclaration, Kind.isClass]
    rw [if_pos hclass, hkind]
    rfl
  · have hkind : n.kind ≠ .classDeclaration := by
      intro hkind
      rw [hkind] at hclass
      exact hclass rfl
    rw [if_neg hclass, Option.isSome_map, beq_eq_false_iff_ne.mpr hkind]
    rfl

/-- If nothing stops the search at a declaration, its name can be read, and its function can be looked
for if it bears the name. -/
theorem of_answerObstacle?_eq_none (hnamed : n.kind.isNamedDeclaration = true)
    (h : answerObstacle? room source name n = none) :
    allLegible source (nameReads n) = true ∧
      (name = .str (componentName source n) → functionObstacle? room source n = none) := by
  rw [answerObstacle?, hnamed, if_neg (by simp)] at h
  split at h
  · cases h
  · rename_i hlegible
    refine ⟨by simpa using hlegible, fun hname => ?_⟩
    rwa [if_pos (Json.isText_eq_true.mpr hname)] at h

theorem instrumentDeclaration_of_no_scope {ids : IdStream} {p : Planner} {shown : String}
    (hscope : scopeAt? source n = none) (hobstacle : functionObstacle? room source n = none) :
    instrumentDeclaration room source ids p n shown = .ok none := by
  unfold scopeAt? at hscope
  split at hscope
  · cases hscope
  · rename_i hclass
    unfold instrumentDeclaration
    rw [if_neg hclass, hobstacle, Option.map_eq_none_iff.mp hscope]

end Declarations

/-! ## With and without the locator -/

section Locate

variable {tree : SourceTree} {c : Component} {anchor : Node}

/-- With the locator the declaration with the same key is found, if it bears the name. -/
theorem Sole.locate_eq (h : Sole tree c anchor) (hsearch : Searchable room tree c)
    (hdescribes : Describes tree.source anchor c) :
    locate room tree.source (anchors tree.root) (topLevel tree.root) c =
      .ok (((anchors tree.root).find? (key · == key anchor)).filter fun m =>
        componentName tree.source anchor == componentName tree.source m) := by
  rw [locate_of_describes hdescribes (isAnchor_of_isNamedDeclaration h.named)]
  cases hfound : (anchors tree.root).find? (key · == key anchor) with
  | none => rfl
  | some m =>
    have hkey : key m = key anchor := beq_iff_eq.mp (List.find?_some (p := (key · == key anchor)) hfound)
    have hnamed : m.kind.isNamedDeclaration = true := by
      rw [(Prod.mk.inj hkey).2]
      exact h.named
    have hmem := (mem_walk_of_mem_anchors (List.mem_of_find?_eq_some hfound)).1
    have hlegible := (of_answerObstacle?_eq_none hnamed (hsearch m hmem)).1
    rw [Option.toList_some, search_of_no_obstacle, Option.filter_some]
    · rw [List.findSome?_singleton]
    · intro a ha
      rw [List.mem_singleton.mp ha, hlegible]
      rfl

/-- By the name the same declaration is found as by the locator, or none where there is nothing to
instrument. -/
theorem Sole.locate_cases (h : Sole tree c anchor) (hsearch : Searchable room tree c)
    (hdescribes : Describes tree.source anchor c) :
    ∃ found, locate room tree.source (anchors tree.root) (topLevel tree.root) c = .ok found ∧
      (locate room tree.source (anchors tree.root) (topLevel tree.root) c.withoutLocator = .ok found ∨
        locate room tree.source (anchors tree.root) (topLevel tree.root) c.withoutLocator = .ok none ∧
          ∃ m, found = some m ∧ scopeAt? tree.source m = none ∧
            functionObstacle? room tree.source m = none) := by
  refine ⟨_, h.locate_eq hsearch hdescribes, ?_⟩
  have hwithout : c.withoutLocator.hasLocator = false := rfl
  rw [locate_without_locator hwithout hsearch]
  show Except.ok ((((anchors tree.root).filter (answersTo tree.source c.name)).find?
    (isTopLevel tree)).or ((anchors tree.root).filter (answersTo tree.source c.name)).head?) = _ ∨ _
  cases hname : (((anchors tree.root).filter (answersTo tree.source c.name)).find?
    (isTopLevel tree)).or ((anchors tree.root).filter (answersTo tree.source c.name)).head? with
  | some m =>
    -- only the declaration of the component can be found, and the locator finds what is in the table
    have hmem : m ∈ (anchors tree.root).filter (answersTo tree.source c.name) := by
      rcases Option.or_eq_some_iff.mp hname with hfound | ⟨-, hfound⟩
      · exact List.mem_of_find?_eq_some hfound
      · exact List.mem_of_mem_head? hfound
    obtain ⟨hmem, hanswers⟩ := List.mem_filter.mp hmem
    have hsame : m = anchor := h.sole m (mem_walk_of_mem_anchors hmem).1 hanswers
    rw [hsame] at hmem ⊢
    rw [find?_key_of_mem (nodup_key_anchors tree.root) hmem, Option.filter_some, if_pos (by simp)]
    exact Or.inl rfl
  | none =>
    have hnone : (anchors tree.root).filter (answersTo tree.source c.name) = [] :=
      List.head?_eq_none_iff.mp (Option.or_eq_none_iff.mp hname).2
    cases hfound : (anchors tree.root).find? (key · == key anchor) with
    | none => exact Or.inl rfl
    | some m =>
      by_cases hbears : componentName tree.source anchor = componentName tree.source m
      · rw [Option.filter_some, if_pos (by simpa using hbears)]
        refine Or.inr ⟨congrArg Except.ok hname, m, rfl, ?_⟩
        have hkey : key m = key anchor :=
          beq_iff_eq.mp (List.find?_some (p := (key · == key anchor)) hfound)
        have hnamed : m.kind.isNamedDeclaration = true := by
          rw [(Prod.mk.inj hkey).2]
          exact h.named
        have hmem := List.mem_of_find?_eq_some hfound
        have hcname : c.name = .str (componentName tree.source m) := by
          rw [hdescribes.1, hbears]
        refine ⟨?_, (of_answerObstacle?_eq_none hnamed
          (hsearch m (mem_walk_of_mem_anchors hmem).1)).2 hcname⟩
        have hanswers : answersTo tree.source c.name m = false :=
          Bool.eq_false_iff.mpr (List.filter_eq_nil_iff.mp hnone m hmem)
        rwa [answersTo_eq_isSome hnamed hcname, Option.isSome_eq_false_iff,
          Option.isNone_iff_eq_none] at hanswers
      · rw [Option.filter_some, if_neg (by simpa using hbears)]
        exact Or.inl rfl

end Locate

/-! ## Runs -/

/-- What counts in the end: the state of planning and the names of the components that were
instrumented. -/
def Progress.outcome (g : Progress) : Planner × List Json := (g.planner, g.bound)

section Runs

variable {tree : SourceTree} {ids : IdStream}

/-- A component is dealt with in the same way by its name as by its locator. -/
theorem step_fallback {c : Component} {anchor : Node} {g k : Progress} (h : Sole tree c anchor)
    (hsearch : Searchable room tree c) (hdescribes : Describes tree.source anchor c)
    (hgk : k.outcome = g.outcome) :
    (k.step room tree ids (anchors tree.root) (topLevel tree.root) c.withoutLocator).map
        Progress.outcome =
      (g.step room tree ids (anchors tree.root) (topLevel tree.root) c).map Progress.outcome := by
  obtain ⟨planner, bound, missing, nested, log⟩ := k
  obtain ⟨rfl, rfl⟩ := Prod.mk.inj hgk
  have hshown : c.withoutLocator.name = c.name := rfl
  obtain ⟨found, hlocator, hname | ⟨hname, m, rfl, hscope, hobstacle⟩⟩ :=
    h.locate_cases hsearch hdescribes
  · unfold Progress.step
    rw [hlocator, hname]
    cases found with
    | none => rfl
    | some m =>
      simp only [bind, Except.bind, hshown]
      by_cases htop : (!(topLevel tree.root).contains (key m)) = true
      · rw [if_pos htop, if_pos htop]
        rfl
      · rw [if_neg htop, if_neg htop]
        cases instrumentDeclaration room tree.source ids g.planner m c.name.plain with
        | error e => rfl
        | ok r => cases r <;> rfl
  · have hdeclaration : instrumentDeclaration room tree.source ids g.planner m c.name.plain = .ok none :=
      instrumentDeclaration_of_no_scope hscope hobstacle
    unfold Progress.step
    rw [hlocator, hname]
    simp only [bind, Except.bind, hdeclaration]
    by_cases htop : (!(topLevel tree.root).contains (key m)) = true
    · rw [if_pos htop]
      rfl
    · rw [if_neg htop]
      rfl

theorem foldlM_fallback {cs : List Component} {g k : Progress}
    (hcs : ∀ c ∈ cs, Searchable room tree c ∧ ∃ anchor, Sole tree c anchor ∧
      Describes tree.source anchor c)
    (hgk : k.outcome = g.outcome) :
    ((cs.map Component.withoutLocator).foldlM
        (Progress.step room tree ids (anchors tree.root) (topLevel tree.root)) k).map Progress.outcome =
      (cs.foldlM (Progress.step room tree ids (anchors tree.root) (topLevel tree.root)) g).map
        Progress.outcome := by
  induction cs generalizing g k with
  | nil => exact congrArg Except.ok hgk
  | cons c cs ih =>
    rw [List.forall_mem_cons] at hcs
    obtain ⟨⟨hsearch, anchor, hsole, hdescribes⟩, hrest⟩ := hcs
    have hstep : (k.step room tree ids (anchors tree.root) (topLevel tree.root) c.withoutLocator).map
        Progress.outcome = (g.step room tree ids (anchors tree.root) (topLevel tree.root) c).map
          Progress.outcome := step_fallback hsole hsearch hdescribes hgk
    rw [List.map_cons, List.foldlM_cons, List.foldlM_cons]
    cases hg : g.step room tree ids (anchors tree.root) (topLevel tree.root) c with
    | error e =>
      rw [hg] at hstep
      cases hk : k.step room tree ids (anchors tree.root) (topLevel tree.root) c.withoutLocator with
      | error e' =>
        rw [hk] at hstep
        exact congrArg Except.error (Except.error.inj hstep)
      | ok k' =>
        rw [hk] at hstep
        cases hstep
    | ok g' =>
      rw [hg] at hstep
      cases hk : k.step room tree ids (anchors tree.root) (topLevel tree.root) c.withoutLocator with
      | error e' =>
        rw [hk] at hstep
        cases hstep
      | ok k' =>
        rw [hk] at hstep
        exact ih hrest (Except.ok.inj hstep)

theorem planAll_fallback {cs : List Component} (drawn : Nat) (hcs : Anchored tree cs)
    (hsearch : ∀ c ∈ cs, Searchable room tree c) :
    (planAll room tree ids (cs.map Component.withoutLocator) drawn).map Progress.outcome =
      (planAll room tree ids cs drawn).map Progress.outcome := by
  refine foldlM_fallback (fun c hc => ?_) rfl
  obtain ⟨s, hfound, hsole⟩ := hcs c hc
  obtain ⟨found, -, hdescribes, -⟩ := List.forall₂_zip (classifyComponents_found tree) hfound
  exact ⟨hsearch c hc, _, hsole, hdescribes⟩

/-- What counts in the end decides what is written and which components were instrumented. -/
theorem run_of_outcome {cs ds : List Component} {drawn : Nat}
    (h : (planAll room tree ids ds drawn).map Progress.outcome =
      (planAll room tree ids cs drawn).map Progress.outcome) :
    (run room tree ids ds drawn).map (fun r => (written r, r.1.bound)) =
      (run room tree ids cs drawn).map fun r => (written r, r.1.bound) := by
  unfold run
  cases hg : planAll room tree ids cs drawn with
  | error e =>
    cases hk : planAll room tree ids ds drawn with
    | error e' =>
      rw [hg, hk] at h
      exact congrArg Except.error (Except.error.inj h)
    | ok k =>
      rw [hg, hk] at h
      cases h
  | ok g =>
    cases hk : planAll room tree ids ds drawn with
    | error e' =>
      rw [hg, hk] at h
      cases h
    | ok k =>
      rw [hg, hk] at h
      obtain ⟨hplanner, hbound⟩ := Prod.mk.inj (Except.ok.inj h)
      simp only [bind, Except.bind, hplanner]
      cases g.planner.plan.apply tree.source with
      | error e => rfl
      | ok text => exact congrArg (fun b => Except.ok (_, b)) hbound

end Runs

/-! ## Wrappers around something that is no function -/

/-- Whether a component is a wrapper in whose declaration no function is found. -/
def wrapsNoFunction (room : Nat) (tree : SourceTree) (c : Component) : Bool :=
  !c.wrappedIn.isNull && (anchorOf? room tree c).all fun m => (componentFunction? tree.source m).isNone

/-- A component that is a declaration of its own is in no wrapper. -/
theorem wrappedIn_of_describe_own {source : Bytes} {s : Site} {n : Node} {c : Component}
    (hkind : s.node.kind ≠ .callExpression) (h : describe source s = some (n, c)) :
    c.wrappedIn.isNull = true := by
  have hown : ∀ {anchor : Node} {kind : ComponentKind} {isDefaultExport : Bool},
      some (anchor, componentAt source anchor kind none isDefaultExport) = some (n, c) →
      c.wrappedIn.isNull = true := by
    intro anchor kind isDefaultExport heq
    obtain ⟨rfl, rfl⟩ := Prod.mk.inj (Option.some.inj heq)
    rfl
  rw [describe] at h
  split at h
  · split at h
    · exact hown h
    · cases h
  · split at h
    · exact hown h
    · cases h
  · split at h
    · split at h
      · exact hown h
      · cases h
    · cases h
  · rename_i hcall
    exact absurd hcall hkind
  · split at h
    · split at h
      · exact hown h
      · split at h
        · exact hown h
        · cases h
    · cases h

/-- A declaration of its own holds a class or a function. -/
theorem isSome_scopeAt?_of_own {source : Bytes} {n : Node}
    (hnamed : n.kind.isNamedDeclaration = true) (hvalue : n.kind = .variableDeclarator →
      ∃ value, boundValue? n = some value ∧ value.kind.isComponentFunction = true) :
    (scopeAt? source n).isSome = true := by
  unfold scopeAt?
  by_cases hclass : n.kind.isClass = true
  · rw [if_pos hclass]
    rfl
  · rw [if_neg hclass, Option.isSome_map, componentFunction?]
    by_cases hfunction : n.kind = .functionDeclaration
    · rw [if_pos (by simp [hfunction])]
      rfl
    · have hdeclarator : n.kind = .variableDeclarator := by
        revert hnamed hclass hfunction
        cases n.kind <;> simp [Kind.isNamedDeclaration, Kind.isClass]
      obtain ⟨value, hbound, hcomponent⟩ := hvalue hdeclarator
      rw [boundValue?] at hbound
      rw [if_neg (by simp [hdeclarator, Kind.isComponentFunction]), if_pos (by simp [hdeclarator]),
        hbound]
      show (if value.kind.isComponentFunction = true then some value else _).isSome = true
      rw [if_pos hcomponent]
      rfl

/-- A component whose declaration holds neither a class nor a function is a wrapper around something
that is no function. -/
theorem wrapsNoFunction_eq {tree : SourceTree} {s : Site} {c : Component}
    (hfound : (s, c) ∈ foundAt tree) (hnamed : (anchorSite s).node.kind.isNamedDeclaration = true)
    (hanchor : anchorOf? room tree c = some (anchorSite s).node) :
    wrapsNoFunction room tree c = (scopeAt? tree.source (anchorSite s).node).isNone := by
  obtain ⟨found, hd, -, hwrapped⟩ := List.forall₂_zip (classifyComponents_found tree) hfound
  unfold wrapsNoFunction
  rw [hwrapped, hanchor, Option.all_some]
  cases (describe_eq_some hd).2.2 with
  | own hkind _ hvalue =>
    rw [wrappedIn_of_describe_own hkind hd]
    rw [anchorSite_of_ne hkind] at hnamed ⊢
    have hnone : (scopeAt? tree.source s.node).isNone = false := by
      rw [← Option.not_isSome, isSome_scopeAt?_of_own hnamed hvalue]
      rfl
    rw [hnone]
    rfl
  | wrapper hkind hwrapper =>
    obtain ⟨wrapper, hname⟩ := Option.isSome_iff_exists.mp hwrapper
    have hdescribes : Describes tree.source (anchorSite s).node found := (describe_eq_some hd).2.1
    rw [wrappedIn_of_describe hkind hname ⟨found, hd, hdescribes, rfl⟩]
    rcases anchorSite_of_call hkind with ⟨-, hsite⟩ | ⟨_, -, -, hdeclarator, -⟩
    · rw [hsite, hkind] at hnamed
      cases hnamed
    · rw [scopeAt?, hdeclarator, if_neg (by simp [Kind.isClass]), Option.isNone_map]
      rfl

section Reports

variable {tree : SourceTree} {s : Site} {c : Component}

/-- Where keys are not shared, a component is found where it is anchored, and by its name unless it
wraps no function. -/
theorem Distinct.anchorOf?_eq (h : Distinct tree) (hfound : (s, c) ∈ foundAt tree)
    (hsole : Sole tree c (anchorSite s).node) (hsearch : Searchable room tree c) :
    anchorOf? room tree c = some (anchorSite s).node ∧
      anchorOf? room tree c.withoutLocator =
        if wrapsNoFunction room tree c then none else some (anchorSite s).node := by
  obtain ⟨found, -, hdescribes, -⟩ := List.forall₂_zip (classifyComponents_found tree) hfound
  have hsite := (mem_declaringSites.mp (mem_declaringSites_of_foundAt hfound)).1
  have hmem := Node.mem_walk_of_mem_sites (mem_sites_anchorSite hsite)
  have hlocator := h.locate_of_describes room hmem hsole.named hdescribes
    (of_answerObstacle?_eq_none hsole.named (hsearch _ hmem)).1
  have hanchor := anchorOf?_eq_some.mpr hlocator
  refine ⟨hanchor, ?_⟩
  rw [wrapsNoFunction_eq hfound hsole.named hanchor]
  have hanswers := answersTo_eq_isSome hsole.named hdescribes.1
  obtain ⟨found, hsame, hname | ⟨hname, m, hm, hscope, -⟩⟩ := hsole.locate_cases hsearch hdescribes
  · -- what is found by the name answers to it
    rw [hlocator] at hsame
    rw [← Except.ok.inj hsame] at hname
    obtain ⟨hin, -⟩ := locate_eq_some hname
    have hsome : answersTo tree.source c.name (anchorSite s).node = true := by
      rw [locate, if_neg (by simp [Component.withoutLocator, Component.hasLocator, Json.isNull])] at hname
      obtain ⟨n, -, hn⟩ := List.exists_of_findSome?_eq_some (search_eq_ok hname)
      split at hn
      · rename_i hanswers
        cases hn
        exact hanswers
      · cases hn
    rw [hanswers] at hsome
    rw [anchorOf?_eq_some.mpr hname, ← Option.not_isSome, hsome]
    rfl
  · rw [hlocator] at hsame
    have hm : m = (anchorSite s).node := (Option.some.inj ((Except.ok.inj hsame).trans hm)).symm
    rw [hm] at hscope
    rw [anchorOf?, hname, hscope]
    rfl

/-- The reports differ in wrappers around something that is no function: by their names they are
missing. -/
theorem Distinct.reports_eq (h : Distinct tree) {ids : IdStream} {cs : List Component} {drawn : Nat}
    {g g' : Progress} (hcs : Anchored tree cs) (hsearch : ∀ c ∈ cs, Searchable room tree c)
    (hg : planAll room tree ids cs drawn = .ok g)
    (hg' : planAll room tree ids (cs.map Component.withoutLocator) drawn = .ok g') :
    g.missing = [] ∧ g'.missing = (cs.filter (wrapsNoFunction room tree)).map (·.name) ∧
      g.nested = (cs.filter (isNestedIn room tree)).map (·.name) ∧
      g'.nested =
        (cs.filter fun c => isNestedIn room tree c && !wrapsNoFunction room tree c).map (·.name) := by
  obtain ⟨-, -, hmissing, hnested⟩ := planAll_eq_ok hg
  obtain ⟨-, -, hmissing', hnested'⟩ := planAll_eq_ok hg'
  have hanchor : ∀ c ∈ cs, ∃ n, anchorOf? room tree c = some n ∧
      anchorOf? room tree c.withoutLocator = if wrapsNoFunction room tree c then none else some n := by
    intro c hc
    obtain ⟨s, hfound, hsole⟩ := hcs c hc
    exact ⟨_, h.anchorOf?_eq hfound hsole (hsearch c hc)⟩
  refine ⟨?_, ?_, hnested, ?_⟩
  · rw [hmissing, List.filter_eq_nil_iff.mpr fun c hc => ?_, List.map_nil]
    obtain ⟨n, hn, -⟩ := hanchor c hc
    simp [hn]
  · rw [hmissing', List.filter_map, List.map_map]
    refine congrArg (List.map fun c : Component => c.name) (List.filter_congr fun c hc => ?_)
    obtain ⟨n, -, hn⟩ := hanchor c hc
    show (anchorOf? room tree c.withoutLocator).isNone = _
    rw [hn]
    cases wrapsNoFunction room tree c <;> rfl
  · rw [hnested', List.filter_map, List.map_map]
    refine congrArg (List.map fun c : Component => c.name) (List.filter_congr fun c hc => ?_)
    obtain ⟨n, hn, hn'⟩ := hanchor c hc
    show isNestedIn room tree c.withoutLocator = _
    rw [isNestedIn, isNestedIn, hn, hn']
    cases wrapsNoFunction room tree c <;> simp

end Reports

/-! ## What the locator is good for -/

/-- Components from a file that are anchored at declarations and whose names are not borne by others
are instrumented in the same way without their locators: the same edits are planned, with the same ids,
for the same components, and the text is the same, or the run fails with the same error. The reports on
missing and nested components differ in wrappers around something that is no function, which are not
found by their names. If names do repeat, a declaration that no function or class body encloses wins,
and of several the first one in the text. -/
theorem fallback_agrees (room : Nat) (tree : SourceTree) (ids : IdStream) (cs : List Component) (drawn : Nat)
    (hcs : Anchored tree cs) (hsearch : ∀ c ∈ cs, Searchable room tree c) :
    (planAll room tree ids (cs.map Component.withoutLocator) drawn).map Progress.outcome =
        (planAll room tree ids cs drawn).map Progress.outcome ∧
      (run room tree ids (cs.map Component.withoutLocator) drawn).map
          (fun r => (written r, r.1.bound)) =
        (run room tree ids cs drawn).map (fun r => (written r, r.1.bound)) ∧
      (Distinct tree →
        (∀ g g', planAll room tree ids cs drawn = .ok g →
          planAll room tree ids (cs.map Component.withoutLocator) drawn = .ok g' →
          g.missing = [] ∧ g'.missing = (cs.filter (wrapsNoFunction room tree)).map (·.name) ∧
          g.nested = (cs.filter (isNestedIn room tree)).map (·.name) ∧
          g'.nested =
            (cs.filter fun c => isNestedIn room tree c && !wrapsNoFunction room tree c).map (·.name)) ∧
        ∀ c, c.hasLocator = false → Searchable room tree c →
          locate room tree.source (anchors tree.root) (topLevel tree.root) c =
            .ok ((((answering tree c).find? isOpen).or (answering tree c).head?).map (·.node))) := by
  have hplan : (planAll room tree ids (cs.map Component.withoutLocator) drawn).map Progress.outcome =
      (planAll room tree ids cs drawn).map Progress.outcome := planAll_fallback drawn hcs hsearch
  refine ⟨hplan, run_of_outcome hplan, fun hdistinct => ⟨fun g g' hg hg' => ?_,
    fun c hlocator hsearch => ?_⟩⟩
  · exact hdistinct.reports_eq hcs hsearch hg hg'
  · exact hdistinct.locate_by_name hlocator hsearch

/-- The declaration in `nestedTags`. -/
def nestedDeclarator : Node :=
  (nestedTags.root.children.headD nestedTags.root).namedChildren.headD nestedTags.root

theorem eq_nestedDeclarator :
    ∀ n ∈ nestedTags.root.nodes, n.kind.isNamedDeclaration = true → n = nestedDeclarator := by
  simp [nestedTags, Node.nodes_eq, Node.children, Node.kind, Node.label, Kind.isNamedDeclaration]
  rfl

/-- The one component of `nestedTags` is found by its name. -/
theorem fallback_agrees_nestedTags :
    Anchored nestedTags (classifyComponents nestedTags) ∧
      (∀ c ∈ classifyComponents nestedTags, Searchable 100 nestedTags c) ∧ Distinct nestedTags ∧
      ∃ r g', run 100 nestedTags numberedIds
          ((classifyComponents nestedTags).map Component.withoutLocator) = .ok r ∧
        written r = (taggedText, 4, 2) ∧
        planAll 100 nestedTags numberedIds
          ((classifyComponents nestedTags).map Component.withoutLocator) = .ok g' ∧
        g'.missing = [] := by
  have hcs := anchored_of_unique eq_nestedDeclarator rfl (by decide +kernel) (by decide +kernel)
  have hsearch : ∀ c ∈ classifyComponents nestedTags, Searchable 100 nestedTags c := by decide +kernel
  have hdistinct : Distinct nestedTags := by decide +kernel
  obtain ⟨hplan, hrun, hreports⟩ :=
    fallback_agrees 100 nestedTags numberedIds (classifyComponents nestedTags) 0 hcs hsearch
  obtain ⟨first, log, hfirst, hedits, htext⟩ := run_nestedTags
  obtain ⟨g, hg, -⟩ := Except.bind_eq_ok.mp hfirst
  rw [hfirst] at hrun
  rw [hg] at hplan
  cases hr : run 100 nestedTags numberedIds
      ((classifyComponents nestedTags).map Component.withoutLocator) with
  | error e =>
    rw [hr] at hrun
    cases hrun
  | ok r =>
    rw [hr] at hrun
    have hwritten : written r = (taggedText, 4, 2) := by
      rw [(Prod.mk.inj (Except.ok.inj hrun)).1, ← hedits, ← htext]
      rfl
    obtain ⟨g', hg', -⟩ := Except.bind_eq_ok.mp hr
    obtain ⟨-, hmissing, -⟩ := (hreports hdistinct).1 g g' hg hg'
    have hwraps : (classifyComponents nestedTags).filter (wrapsNoFunction 100 nestedTags) = [] :=
      List.filter_eq_nil_iff.mpr (by decide +kernel)
    refine ⟨hcs, hsearch, hdistinct, r, g', rfl, hwritten, hg', ?_⟩
    rw [hmissing, hwraps]
    rfl

/-! ## Where the search is stopped or led astray -/

/-- A component inside a function is passed over with its locator. By its name it is looked for, and if
it is in too many wrappers the run fails. -/
theorem fallback_too_deep {n : Nat} (hdeep : room ≤ n) :
    ∃ c, Anchored (memoInside (n + 1)) [c] ∧ Distinct (memoInside (n + 1)) ∧
      (∃ r, run room (memoInside (n + 1)) numberedIds [c] = .ok r ∧ r.1.edits = 0 ∧
        r.1.nested = [c.name]) ∧
      run room (memoInside (n + 1)) numberedIds [c.withoutLocator] = .error .tooDeep := by
  obtain ⟨c, hfound⟩ := exists_foundAt (memoInsideSite_mem (n + 1)) (wrapperChain_memoInside n) rfl
  obtain ⟨found, -, hdescribes, -⟩ := List.forall₂_zip (classifyComponents_found _) hfound
  -- the bound name is the only declaration with a name in the file
  have honly : ∀ m ∈ (memoInside (n + 1)).root.walk, m.kind.isNamedDeclaration = true →
      m = memoBinding (n + 1) := by
    intro m hm hnamed
    have hmem : m ∈ (memoInside (n + 1)).root.walk.filter (·.kind.isNamedDeclaration) :=
      List.mem_filter.mpr ⟨hm, hnamed⟩
    rwa [filter_walk_memoInside, List.mem_singleton] at hmem
  have hdistinct : Distinct (memoInside (n + 1)) := by
    rw [Distinct, filter_walk_memoInside]
    exact List.nodup_singleton _
  have hlegible : allLegible (memoInside (n + 1)).source (nameReads (memoBinding (n + 1))) = true :=
    List.all_eq_true.mpr fun m _ => Node.isLegible_of_isAscii (isAscii_memoInside (n + 1)) m
  have hmem := Node.mem_walk_of_mem_sites (memoBinding_mem (n + 1))
  rw [anchorSite_memoInsideSite] at hdescribes
  refine ⟨c, List.forall_mem_singleton.mpr ⟨memoInsideSite (n + 1), hfound, ?_⟩, hdistinct, ?_, ?_⟩
  · rw [anchorSite_memoInsideSite]
    exact ⟨rfl, fun m hm hanswers => honly m hm (isNamedDeclaration_of_answersTo hanswers)⟩
  · have hnested : isTopLevel (memoInside (n + 1)) (memoBinding (n + 1)) = false :=
      hdistinct.isTopLevel_eq (memoBinding_mem (n + 1)) rfl
    rw [isTopLevel] at hnested
    have hsource := Bytes.ofText_characters (isAscii_memoInside (n + 1))
    rw [run, planAll, List.foldlM_cons, Progress.step,
      hdistinct.locate_of_describes room hmem rfl hdescribes hlegible]
    simp only [bind, Except.bind]
    rw [if_pos (by rw [hnested]; rfl)]
    simp only [List.foldlM_nil, pure, Except.pure]
    rw [← hsource, Edit.Plan.apply_empty]
    exact ⟨_, rfl, rfl, rfl⟩
  · have hobstacle : answerObstacle? room (memoInside (n + 1)).source c.name (memoBinding (n + 1)) =
        some .tooDeep := by
      have hkind : (memoBinding (n + 1)).kind.isNamedDeclaration = true := rfl
      rw [answerObstacle?, hkind, if_neg (by decide), hlegible, if_neg (by decide),
        if_pos (Json.isText_eq_true.mpr hdescribes.1), functionObstacle?_memoBinding hdeep]
    have hanchor := List.mem_of_find?_eq_some (hdistinct.find?_anchors_key hmem rfl)
    have hwithout : c.withoutLocator.hasLocator = false := rfl
    rw [run, planAll, List.foldlM_cons, Progress.step,
      locate_eq_error_of_only hwithout hanchor honly hobstacle]
    rfl

/-- A variable that is bound to `() => <b />`, with what comes before its name. -/
def arrowVariable (start : Nat) (before : List Node) : Node :=
  .mk { kind := .variableDeclarator, start, stop := 17 } (before ++ [
    .mk { kind := .identifier, start := 2, stop := 3, field := some .name } [],
    .mk { kind := .other "=", start := 4, stop := 5, named := false } [],
    .mk { kind := .arrowFunction, start := 6, stop := 17, field := some .value } [
      noParametersAt 6,
      .mk { kind := .other "=>", start := 9, stop := 11, named := false } [],
      markupAt 12 (some .body)]])

/-- A variable without a value, whose name is the first byte of a file. -/
def emptyVariable : Node :=
  .mk { kind := .variableDeclarator, start := 0, stop := 1 } [
    .mk { kind := .identifier, start := 0, stop := 1, field := some .name } []]

/-- A file in which the name of a variable is half a letter. -/
def cutName : SourceTree where
  source := Bytes.ofText "éA = () => <b />"
  root := .mk { kind := .program, start := 0, stop := 17 } [emptyVariable, arrowVariable 2 []]

/-- A file in which two variables of one name are declared at one place. -/
def sharedStart : SourceTree where
  source := Bytes.ofText "A A = () => <b />"
  root := .mk { kind := .program, start := 0, stop := 17 } [arrowVariable 0 [emptyVariable]]

/-- Whether a declaration is the one that ends with the file. -/
def isLastVariable (n : Node) : Bool := n.kind == .variableDeclarator && n.stop == 17

theorem eq_arrowVariable_cutName :
    ∀ n ∈ cutName.root.nodes, isLastVariable n = true → n = arrowVariable 2 [] := by
  simp [cutName, emptyVariable, arrowVariable, noParametersAt, markupAt, isLastVariable,
    Node.nodes_eq, Node.children, Node.kind, Node.stop, Node.label]

theorem eq_arrowVariable_sharedStart :
    ∀ n ∈ sharedStart.root.nodes, isLastVariable n = true → n = arrowVariable 0 [emptyVariable] := by
  simp [sharedStart, emptyVariable, arrowVariable, noParametersAt, markupAt, isLastVariable,
    Node.nodes_eq, Node.children, Node.kind, Node.stop, Node.label]

/-- Three files in which components are not treated in the same way without their locators. In the first
one the component is in too many wrappers for 1000 calls, in the second one the name of another variable is read, which
cannot be done, and in the third one a variable without a value has taken the place of the component in
the table of anchors, so that nothing is found by the name although a declaration qualifies. -/
theorem fallback_disagrees :
    (∃ c, Anchored (memoInside 1200) [c] ∧ Distinct (memoInside 1200) ∧
      (∃ r, run 1000 (memoInside 1200) numberedIds [c] = .ok r ∧ r.1.edits = 0 ∧
        r.1.nested = [c.name]) ∧
      run 1000 (memoInside 1200) numberedIds [c.withoutLocator] = .error .tooDeep) ∧
    (Anchored cutName (classifyComponents cutName) ∧ Distinct cutName ∧
      (planAll 100 cutName numberedIds (classifyComponents cutName)).map (·.bound.length) = .ok 1 ∧
      (run 100 cutName numberedIds
        ((classifyComponents cutName).map Component.withoutLocator)).map (·.1.bound.length) =
          .error .illegible) ∧
    (Anchored sharedStart (classifyComponents sharedStart) ∧
      (∀ c ∈ classifyComponents sharedStart, Searchable 100 sharedStart c ∧
        c.wrappedIn.isNull = true ∧ ((answering sharedStart c).find? isOpen).isSome = true) ∧
      (run 100 sharedStart numberedIds (classifyComponents sharedStart)).map (·.1.missing.length) =
        .ok 0 ∧
      (run 100 sharedStart numberedIds
        ((classifyComponents sharedStart).map Component.withoutLocator)).map
          (·.1.missing.length) = .ok 1) := by
  refine ⟨fallback_too_deep (by decide), ⟨?_, ?_, ?_, ?_⟩, ?_, ?_, ?_, ?_⟩
  · exact anchored_of_unique eq_arrowVariable_cutName rfl (by decide +kernel) (by decide +kernel)
  · decide +kernel
  · decide +kernel
  · decide +kernel
  · exact anchored_of_unique eq_arrowVariable_sharedStart rfl (by decide +kernel) (by decide +kernel)
  · decide +kernel
  · decide +kernel
  · decide +kernel

end Instrument

end JsxTagger
