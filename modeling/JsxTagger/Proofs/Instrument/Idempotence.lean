import JsxTagger.Component.Analysis
import JsxTagger.Proofs.Instrument.Exactness
import JsxTagger.Proofs.Instrument.Present
import JsxTagger.Proofs.Text.Bytes

/-!
# Instrumenting twice

A file that was instrumented is instrumented again. The second run classifies the same declarations,
finds the same scopes with the same tags, and every guard sees what the first run has added, so that
nothing is planned and the text stays as it is (`instrumentSource_idempotent`).

The parser is a parameter. What is asked of it is `Reparses`: the text that the first run yields has
the tree of the first text, with the planned attributes, fields and parameters added to it as nodes.
-/

namespace JsxTagger

/-- A plan without edits leaves a text as it is. -/
theorem Edit.Plan.apply_empty (text : String) :
    Edit.Plan.empty.apply (Bytes.ofText text) = .ok text := by
  have hbytes : Edit.Plan.empty.applyBytes (Bytes.ofText text) = .ok (Bytes.ofText text) := by
    simp [Edit.Plan.applyBytes, Edit.Plan.ordered, Edit.Plan.empty, Edit.Plan.join]
  simp only [Edit.Plan.apply, hbytes, bind, Except.bind, Bytes.text?_ofText]

namespace Instrument

open Classify Syntax

variable {room : Nat}

/-! ## What is asked of the parser -/

/-- What was planned is there as nodes. -/
structure Shows (g : Graft) (source source' : Bytes) (root : Node) (acts : List Act) : Prop where
  /-- The tags that got an id have an attribute for it. -/
  tags : ∀ e ∈ root.nodes, isOpeningElement e = true →
    (Act.tags acts).any (·.start == e.start) = true → ShowsAttribute g source' e elementIdAttribute
  /-- The tags that were bound have an attribute with the name of the component. -/
  roots : ∀ e ∈ root.nodes, isOpeningElement e = true →
    (Act.roots acts).any (·.1.start == e.start) = true →
      ShowsAttribute g source' e componentNameAttribute
  /-- The functions that were looked at have the field or the parameter that was decided on. -/
  threads : ∀ f ∈ Act.threads acts, ShowsPassing g source source' f

/-- Every node of a tree is a stretch of text. -/
def Readable (tree : SourceTree) : Prop :=
  ∀ n ∈ tree.root.nodes, n.start ≤ n.stop ∧ n.isLegible tree.source = true

instance (tree : SourceTree) : Decidable (Readable tree) :=
  inferInstanceAs (Decidable (∀ n ∈ tree.root.nodes, _))

/-- A new text has the tree of the old one, with what was planned added to it. -/
structure Reparses (g : Graft) (tree : SourceTree) (acts : List Act) (text : String)
    (tree' : SourceTree) : Prop where
  /-- It is the tree of the new text. -/
  source : tree'.source = Bytes.ofText text
  /-- It is the old tree with further nodes, and the offsets are shifted. -/
  root : tree'.root = g.graft tree.root
  /-- The further nodes are small, and the others still cover their texts. -/
  grows : Grows g tree.source tree'.source tree.root
  /-- What was planned is among the further nodes. -/
  shows : Shows g tree.source tree'.source tree.root acts
  /-- The nodes are stretches of the new text. -/
  readable : Readable tree'

theorem Readable.not_hasIllegible {tree : SourceTree} (h : Readable tree) :
    ¬ HasIllegible tree.source tree.root := by
  rintro ⟨m, hm, hl⟩
  rw [(h m hm).2] at hl
  cases hl

/-! ## Acts without effect -/

/-- Acts that add no attribute and only look at functions that need nothing change nothing. -/
theorem changesOf_eq_nil {source : Bytes} {ids : IdStream} {drawn : Nat} {acts : List Act}
    (htags : Act.tags acts = []) (hroots : Act.roots acts = [])
    (hthreads : ∀ f ∈ Act.threads acts, (passing source f).change? source f = none) :
    changesOf source ids drawn acts = [] := by
  induction acts with
  | nil => rfl
  | cons a acts ih =>
    cases a with
    | tag element => cases htags
    | root element name reference => cases hroots
    | thread f =>
      rw [Act.threads_thread] at hthreads
      rw [changesOf, hthreads f List.mem_cons_self, Option.toList_none, List.nil_append]
      exact ih htags hroots fun f' hf' => hthreads f' (List.mem_cons_of_mem f hf')

/-- Keys that are changed without being confused do not change what is kept. -/
theorem firsts_map {α β : Type} {k : α → Nat} {k' : β → Nat} {f : α → β}
    (hk : ∀ a b, k' (f a) = k' (f b) ↔ k a = k b) (xs : List α) :
    firsts k' (xs.map f) = (firsts k xs).map f := by
  induction xs using List.reverseRecOn with
  | nil => rfl
  | append_singleton xs x ih =>
    rw [List.map_append, List.map_singleton, firsts_append_singleton, firsts_append_singleton, ih,
      addFirst, addFirst, List.any_map]
    have hany : (fun a => k' a == k' (f x)) ∘ f = fun a => k a == k x := by
      funext a
      rw [Function.comp_apply, Bool.eq_iff_iff, beq_iff_eq, beq_iff_eq]
      exact hk a x
    rw [hany]
    split
    · rfl
    · rw [List.map_append, List.map_singleton]

section Scopes

variable {g : Graft} {source source' : Bytes} {root : Node} {scopes : List Scope}

/-- A tag of a scope has an id afterwards. -/
theorem hasAttribute_elementId (h : Grows g source source' root)
    (hshows : Shows g source source' root (planned source scopes))
    (hscopes : ∀ s ∈ scopes, s.node ∈ root.nodes) {s : Scope} {e : Node} (hs : s ∈ scopes)
    (he : e ∈ s.elements) : hasAttribute source' (g.graft e) elementIdAttribute = true := by
  have hin := Node.mem_nodes_trans (hscopes s hs) (mem_nodes_of_mem_elements he)
  have hopening := (List.mem_filter.mp he).2
  cases hhas : hasAttribute source e elementIdAttribute with
  | true => exact hasAttribute_graft (h.of_mem hin) hopening (by decide) (by decide) hhas
  | false =>
    refine hasAttribute_of_shows (hshows.tags e hin hopening ?_)
    rw [tags_planned, any_firsts, List.any_eq_true]
    have hmem : e ∈ scopes.flatMap Scope.elements := List.mem_flatMap.mpr ⟨s, hs, he⟩
    exact ⟨e, List.mem_filter.mpr ⟨hmem, by simp [lacks, hhas]⟩, by simp⟩

/-- The first tag of a scope is bound afterwards. -/
theorem hasAttribute_componentName (h : Grows g source source' root)
    (hshows : Shows g source source' root (planned source scopes))
    (hscopes : ∀ s ∈ scopes, s.node ∈ root.nodes) {s : Scope} {e : Node} (hs : s ∈ scopes)
    (he : s.elements.head? = some e) :
    hasAttribute source' (g.graft e) componentNameAttribute = true := by
  have hmem := List.mem_of_head? he
  have hin := Node.mem_nodes_trans (hscopes s hs) (mem_nodes_of_mem_elements hmem)
  have hopening := (List.mem_filter.mp hmem).2
  cases hhas : hasAttribute source e componentNameAttribute with
  | true => exact hasAttribute_graft (h.of_mem hin) hopening (by decide) (by decide) hhas
  | false =>
    refine hasAttribute_of_shows (hshows.roots e hin hopening ?_)
    have hany : (Act.roots (planned source scopes)).any (·.1.start == e.start) =
        ((Act.roots (planned source scopes)).map rootName).any (·.1.start == e.start) := by
      rw [List.any_map]
      rfl
    rw [hany, roots_planned, any_firsts, List.any_eq_true]
    have hroot : (e, s.name) ∈ scopes.filterMap Scope.root? :=
      List.mem_filterMap.mpr ⟨s, hs, by simp [Scope.root?, he]⟩
    exact ⟨(e, s.name), List.mem_filter.mpr ⟨hroot, by simp [lacks, hhas]⟩, by simp⟩

/-- No tag of the new tree gets an id. -/
theorem tags_planned_graft (h : Grows g source source' root)
    (hshows : Shows g source source' root (planned source scopes))
    (hscopes : ∀ s ∈ scopes, s.node ∈ root.nodes) :
    Act.tags (planned source' (scopes.map (graftScope g))) = [] := by
  have hnone : ((scopes.map (graftScope g)).flatMap Scope.elements).filter
      (lacks source' elementIdAttribute) = [] := by
    rw [List.filter_eq_nil_iff]
    intro e' he'
    obtain ⟨s', hs', he'⟩ := List.mem_flatMap.mp he'
    obtain ⟨s, hs, rfl⟩ := List.mem_map.mp hs'
    rw [elements_graft (h.toSound.of_mem (hscopes s hs))] at he'
    obtain ⟨e, he, rfl⟩ := List.mem_map.mp he'
    simp [lacks, hasAttribute_elementId h hshows hscopes hs he]
  rw [tags_planned, hnone]
  rfl

/-- No tag of the new tree is bound. -/
theorem roots_planned_graft (h : Grows g source source' root)
    (hshows : Shows g source source' root (planned source scopes))
    (hscopes : ∀ s ∈ scopes, s.node ∈ root.nodes) :
    Act.roots (planned source' (scopes.map (graftScope g))) = [] := by
  have hnone : ((scopes.map (graftScope g)).filterMap Scope.root?).filter
      (fun r => lacks source' componentNameAttribute r.1) = [] := by
    rw [List.filter_eq_nil_iff]
    rintro ⟨e', name⟩ hr
    obtain ⟨s', hs', hroot⟩ := List.mem_filterMap.mp hr
    obtain ⟨s, hs, rfl⟩ := List.mem_map.mp hs'
    rw [Scope.root?, elements_graft (h.toSound.of_mem (hscopes s hs)), List.head?_map] at hroot
    obtain ⟨e'', he'', heq⟩ := Option.map_eq_some_iff.mp hroot
    obtain ⟨e, he, rfl⟩ := Option.map_eq_some_iff.mp he''
    cases heq
    simp [lacks, hasAttribute_componentName h hshows hscopes hs he]
  rw [← List.map_eq_nil_iff (f := rootName), roots_planned, hnone]
  rfl

/-- The functions that are looked at are the old ones. -/
theorem threads_planned_graft (hstart : Function.Injective g.start) (scopes : List Scope) :
    Act.threads (planned source' (scopes.map (graftScope g))) =
      (Act.threads (planned source scopes)).map g.graft := by
  have hkey : ∀ a b : Node, (g.graft a).start = (g.graft b).start ↔ a.start = b.start := by
    intro a b
    rw [Graft.start_graft, Graft.start_graft, hstart.eq_iff]
  rw [threads_planned, threads_planned, ← firsts_map hkey, List.filter_map, List.filter_map,
    List.filter_map, List.map_map, List.map_map]
  simp [Function.comp_def, graftScope]

/-- In the new tree nothing is left to do for the scopes. -/
theorem changesOf_planned_graft (h : Grows g source source' root)
    (hshows : Shows g source source' root (planned source scopes))
    (hscopes : ∀ s ∈ scopes, s.node ∈ root.nodes) (ids : IdStream) (drawn : Nat) :
    changesOf source' ids drawn (planned source' (scopes.map (graftScope g))) = [] := by
  refine changesOf_eq_nil (tags_planned_graft h hshows hscopes)
    (roots_planned_graft h hshows hscopes) fun f' hf' => ?_
  rw [threads_planned_graft h.start scopes] at hf'
  obtain ⟨f, hf, rfl⟩ := List.mem_map.mp hf'
  have hin : f ∈ root.nodes := by
    rw [threads_planned] at hf
    obtain ⟨s, hs, rfl⟩ := List.mem_map.mp (List.mem_filter.mp (mem_of_mem_firsts hf)).1
    exact hscopes s hs
  exact change?_of_shows (h.of_mem hin) (hshows.threads f hf)

end Scopes

/-! ## The first run -/

/-- In a run that comes to an end, every component was dealt with. -/
theorem exists_step_of_planAll {tree : SourceTree} {ids : IdStream} {cs : List Component}
    {drawn : Nat} {p : Progress} (h : planAll room tree ids cs drawn = .ok p) {c : Component}
    (hc : c ∈ cs) :
    ∃ p₁ p₂ : Progress, p₁.step room tree ids (anchors tree.root) (topLevel tree.root) c = .ok p₂ := by
  rw [planAll] at h
  generalize ({ planner := { drawn } } : Progress) = start at h
  induction cs generalizing start with
  | nil => cases hc
  | cons d cs ih =>
    rw [List.foldlM_cons] at h
    obtain ⟨p₁, hstep, h⟩ := Except.bind_eq_ok.mp h
    rcases List.mem_cons.mp hc with rfl | hc
    · exact ⟨start, p₁, hstep⟩
    · exact ih hc p₁ h

theorem looksUp_of_planAll {tree : SourceTree} {ids : IdStream} {cs : List Component}
    {drawn : Nat} {p : Progress} (h : planAll room tree ids cs drawn = .ok p) : LooksUp room tree cs := by
  intro c hc
  obtain ⟨p₁, p₂, hstep⟩ := exists_step_of_planAll h hc
  rcases step_eq_ok hstep with ⟨hfound, -⟩ | ⟨anchor, hfound, -⟩
  · exact ⟨none, hfound⟩
  · exact ⟨some anchor, hfound⟩

theorem functionObstacle?_of_isClass {source : Bytes} {n : Node} (h : n.kind.isClass = true) :
    functionObstacle? room source n = none := by
  have hcall : outerCall? n = none := by
    rcases Kind.eq_of_isClass h with hk | hk <;> simp [outerCall?, Option.filter, hk]
  rw [functionObstacle?, hcall]

/-- In a run that comes to an end, nothing was in the way of a declaration that was instrumented. -/
theorem functionObstacle?_of_planAll {tree : SourceTree} {ids : IdStream} {cs : List Component}
    {drawn : Nat} {p : Progress} (h : planAll room tree ids cs drawn = .ok p) {c : Component}
    (hc : c ∈ cs) {anchor : Node}
    (hanchor : (anchorOf? room tree c).filter (isTopLevel tree) = some anchor) :
    functionObstacle? room tree.source anchor = none := by
  obtain ⟨hfound, htop⟩ := Option.filter_eq_some_iff.mp hanchor
  rw [anchorOf?_eq_some] at hfound
  obtain ⟨p₁, p₂, hstep⟩ := exists_step_of_planAll h hc
  rcases step_eq_ok hstep with ⟨hnone, -⟩ | ⟨anchor', hfound', hcases⟩
  · rw [hnone] at hfound
    cases hfound
  · obtain rfl : anchor' = anchor := Option.some.inj (Except.ok.inj (hfound'.symm.trans hfound))
    rcases hcases with ⟨hnested, -⟩ | ⟨-, r, hr, -⟩
    · rw [hnested] at htop
      cases htop
    · rw [instrumentDeclaration] at hr
      split at hr
      · rename_i hclass
        exact functionObstacle?_of_isClass hclass
      · split at hr
        · cases hr
        · assumption
        · assumption

/-! ## The second run -/

section Second

variable {g : Graft} {tree tree' : SourceTree} {text : String} {ids : IdStream} {drawn : Nat}
  {p : Progress}

/-- The components of a tree that can be read can be looked up. -/
theorem Readable.looksUp (h : Readable tree) : LooksUp room tree (classifyComponents tree) := by
  intro c hc
  obtain ⟨s, -, hdescribes⟩ := exists_of_forall₂ (classifyComponents_describes tree) hc
  cases hlocate : locate room tree.source (anchors tree.root) (topLevel tree.root) c with
  | ok found => exact ⟨found, rfl⟩
  | error e =>
    rcases locate_eq_error hlocate with ⟨-, hl⟩ | ⟨-, half, hkey, hhalf, -⟩ | ⟨hlocator, -⟩
    · exact absurd hl h.not_hasIllegible
    · rw [hdescribes.isKey hhalf] at hkey
      cases hkey
    · rw [hdescribes.hasLocator] at hlocator
      cases hlocator

/-- A tag with an attribute has a place for another one. -/
theorem isSome_insertionOffset? {source : Bytes} {e : Node} {name : String}
    (h : hasAttribute source e name = true) : (insertionOffset? e).isSome = true := by
  obtain ⟨a, ha, hnamed, hkind, -⟩ := hasAttribute_iff.mp h
  have hmem : a ∈ attributes e :=
    List.mem_filter.mpr ⟨Node.mem_namedChildren.mpr ⟨ha, hnamed⟩, by simp [hkind]⟩
  obtain ⟨last, hlast⟩ := Option.isSome_iff_exists.mp
    (List.getLast?_isSome.mpr (List.ne_nil_of_mem hmem))
  rw [insertionOffset?, hlast]
  rfl

namespace Reparses

variable (h : Reparses g tree (planned tree.source (boundScopes room tree (classifyComponents tree))) text
  tree') (hp : planAll room tree ids (classifyComponents tree) drawn = .ok p)

include h hp

/-- The second run works on the scopes that the first one worked on. -/
theorem boundScopes_eq_map :
    boundScopes room tree' (classifyComponents tree') =
      (boundScopes room tree (classifyComponents tree)).map (graftScope g) :=
  boundScopes_graft h.grows h.root (looksUp_of_planAll hp) h.readable.looksUp

/-- Wrappers that were not too deep in the first run are not too deep in the second one. -/
theorem not_tooDeep {c : Component} (hc : c ∈ classifyComponents tree') {anchor : Node}
    (hanchor : (anchorOf? room tree' c).filter (isTopLevel tree') = some anchor) :
    functionObstacle? room tree'.source anchor ≠ some .tooDeep := by
  intro hdeep
  obtain ⟨s', hs', hdescribes'⟩ := exists_of_forall₂ (classifyComponents_describes tree') hc
  rw [topAnchor?_of_describes hdescribes' (Locatable.mem_anchorSites hs').2.1
    (h.readable.looksUp c hc)] at hanchor
  rw [h.grows.anchorSites_graft h.root] at hs'
  obtain ⟨s, hs, rfl⟩ := List.mem_map.mp hs'
  obtain ⟨hsite, hsanchor, -⟩ := Locatable.mem_anchorSites hs
  rw [Graft.site_node, topAnchor?_graft h.grows h.root (Node.mem_nodes_of_mem_sites hsite)
    hsanchor] at hanchor
  -- the declaration and the component of the first run
  obtain ⟨a, ha, rfl⟩ := Option.map_eq_some_iff.mp hanchor
  obtain ⟨d, hd, hdescribes⟩ := exists_of_forall₂ (classifyComponents_describes tree).flip hs
  have hfound := topAnchor?_of_describes hdescribes hsanchor (looksUp_of_planAll hp d hd)
  have hnone := functionObstacle?_of_planAll hp hd (hfound.trans ha)
  have hgrows := h.grows.of_mem (topAnchor?_eq_some ha).1
  rw [tooDeep_of_graft hgrows hdeep] at hnone
  cases hnone

/-- Nothing is in the way of the second run. -/
theorem exists_planAll (ids' : IdStream) (drawn' : Nat) :
    ∃ p', planAll room tree' ids' (classifyComponents tree') drawn' = .ok p' := by
  cases hp' : planAll room tree' ids' (classifyComponents tree') drawn' with
  | ok p' => exact ⟨p', rfl⟩
  | error e =>
    exfalso
    cases planAll_eq_error hp' with
    | illegible hl => exact h.readable.not_hasIllegible hl
    | locator hc _ hhalf hkey =>
      obtain ⟨s, -, hdescribes⟩ := exists_of_forall₂ (classifyComponents_describes tree') hc
      rw [hdescribes.isKey hhalf] at hkey
      cases hkey
    | tooDeep hc _ hfound hdeep =>
      obtain ⟨s, -, hdescribes⟩ := exists_of_forall₂ (classifyComponents_describes tree') hc
      obtain ⟨hanchor, htop⟩ := hfound (hdescribes.hasLocator)
      exact h.not_tooDeep hp hc (Option.filter_eq_some_iff.mpr ⟨hanchor, htop⟩) hdeep
    | scope hs hobstacle =>
      rcases hobstacle with ⟨-, element, hmem, hplace⟩ | ⟨bare, -, -, hbare, hlt⟩
      · rw [h.boundScopes_eq_map hp] at hs
        obtain ⟨s₀, hs₀, rfl⟩ := List.mem_map.mp hs
        have hin := mem_nodes_of_mem_boundScopes hs₀
        rw [elements_graft (h.grows.toSound.of_mem hin)] at hmem
        obtain ⟨e, he, rfl⟩ := List.mem_map.mp hmem
        have hsome := isSome_insertionOffset? (hasAttribute_elementId h.grows h.shows
          (fun s => mem_nodes_of_mem_boundScopes) hs₀ he)
        rw [hplace] at hsome
        cases hsome
      · have hin := Node.mem_nodes_trans (mem_nodes_of_mem_boundScopes hs)
          (Node.mem_nodes_of_child? hbare)
        have := (h.readable bare hin).1
        omega

/-- The second run plans nothing, and the text stays as it is. -/
theorem run_eq (ids' : IdStream) (drawn' : Nat) :
    ∃ r log, run room tree' ids' (classifyComponents tree') drawn' = .ok (r, drawn', log) ∧
      r.text = text ∧ r.edits = 0 := by
  obtain ⟨p', hp'⟩ := h.exists_planAll hp ids' drawn'
  obtain ⟨hplanner, -⟩ := planAll_eq_ok hp'
  have hscopes : ∀ s ∈ boundScopes room tree (classifyComponents tree), s.node ∈ tree.root.nodes :=
    fun s => mem_nodes_of_mem_boundScopes
  rw [h.boundScopes_eq_map hp] at hplanner
  have hplan : p'.planner.plan = .empty := by
    rw [hplanner, Planner.ofActs, changesOf_planned_graft h.grows h.shows hscopes]
    rfl
  have hdrawn : p'.planner.drawn = drawn' := by
    rw [hplanner, Planner.ofActs, tags_planned_graft h.grows h.shows hscopes]
    rfl
  have happly : Edit.Plan.empty.apply tree'.source = .ok text := by
    rw [h.source, Edit.Plan.apply_empty]
  refine ⟨⟨text, 0, p'.bound, p'.missing, p'.nested⟩, p'.log, ?_, rfl, rfl⟩
  simp only [run, hp', bind, Except.bind, hdrawn, hplan, happly]
  rfl

end Reparses

end Second

/-! ## Instrumenting twice -/

theorem parseText_eq_ok {parse : Parser} {text : String} {path : Option String} {tree : SourceTree}
    (h : parseText parse text path = .ok (.ok tree)) :
    Text.encodingError? text = none ∧ parse text path = .ok tree := by
  rw [parseText] at h
  split at h
  · cases h
  · rename_i hencoding
    exact ⟨hencoding, Except.ok.inj h⟩

/-- The components of a file that can be parsed are those of its tree. -/
theorem eq_classifyComponents {parse : Parser} {text : String} {path : Option String}
    {tree : SourceTree} {cs : List Component} {log : List Log.Record}
    (hparse : parseText parse text path = .ok (.ok tree))
    (h : componentsOf parse text path = .ok (cs, log)) : cs = classifyComponents tree := by
  simp only [componentsOf, hparse, bind, Except.bind] at h
  split at h
  · exact (Prod.mk.inj (Except.ok.inj h)).1.symm
  · cases h

/-- A file that was instrumented had a plan. -/
theorem exists_planAll_of_instrumentSource {parse : Parser} {ids : IdStream} {text : String}
    {path : Option String} {tree : SourceTree} {cs : List Component} {drawn : Nat}
    {r : Instrumented × Nat × List Log.Record}
    (hparse : parseText parse text path = .ok (.ok tree))
    (h : instrumentSource room parse ids text cs path drawn = .ok r) :
    ∃ p, planAll room tree ids cs drawn = .ok p := by
  obtain ⟨hencoding, htree⟩ := parseText_eq_ok hparse
  cases cs with
  | nil => exact ⟨_, rfl⟩
  | cons c cs =>
    simp only [instrumentSource, List.isEmpty_cons, hencoding, htree, run] at h
    cases hp : planAll room tree ids (c :: cs) drawn with
    | ok p => exact ⟨p, rfl⟩
    | error e =>
      rw [hp] at h
      cases h

/-- Instrumenting a file a second time plans no edit, draws no id and yields the same text, whatever
ids the two runs are given. -/
theorem instrumentSource_idempotent (room : Nat) (parse : Parser) (ids ids' : IdStream) (drawn drawn' : Nat)
    (path : Option String) {text : String} {tree tree' : SourceTree} {cs : List Component}
    {log log₁ : List Log.Record} {first : Instrumented} {d : Nat} {g : Graft}
    (hparse : parseText parse text path = .ok (.ok tree))
    (hcs : componentsOf parse text path = .ok (cs, log))
    (hfirst : instrumentSource room parse ids text cs path drawn = .ok (first, d, log₁))
    (hparse' : parseText parse first.text path = .ok (.ok tree'))
    (htree' : Reparses g tree (planned tree.source (boundScopes room tree cs)) first.text tree') :
    ∃ cs' second log₂, componentsOf parse first.text path = .ok (cs', []) ∧
      instrumentSource room parse ids' first.text cs' path drawn' = .ok (second, drawn', log₂) ∧
      second.edits = 0 ∧ second.text = first.text := by
  obtain rfl := eq_classifyComponents hparse hcs
  obtain ⟨p, hp⟩ := exists_planAll_of_instrumentSource hparse hfirst
  obtain ⟨hencoding, hparsed⟩ := parseText_eq_ok hparse'
  have hlegible := allLegible_classifyReads htree'.readable.not_hasIllegible
  have hcs' : componentsOf parse first.text path = .ok (classifyComponents tree', []) := by
    simp only [componentsOf, hparse', bind, Except.bind, hlegible, if_true]
  by_cases hempty : (classifyComponents tree').isEmpty = true
  · refine ⟨_, { text := first.text }, [], hcs', ?_, rfl, rfl⟩
    rw [instrumentSource, if_pos hempty]
  · obtain ⟨second, log₂, hrun, htext, hedits⟩ := htree'.run_eq hp ids' drawn'
    refine ⟨_, second, log₂, hcs', ?_, hedits, htext⟩
    rw [instrumentSource, if_neg hempty, hencoding, hparsed]
    simp only [hrun]
    rfl

/-- The text that the file `nestedTags` becomes. -/
def taggedText : String :=
  "const A = (\x7b x, pc_el_id \x7d) => <b pc_el_id=\"unique_id_0000000000000001\" " ++
    "pc_comp_name=\"A\" pc_comp_ref_id=\x7bpc_el_id\x7d>" ++
    "<i pc_el_id=\"unique_id_0000000000000002\" /></b>"

/-- The node of an attribute with a value. -/
def attributeNode (start width stop : Nat) (value : Node) : Node :=
  .mk { kind := .jsxAttribute, start, stop, field := some (.other "attribute") } [
    .mk { kind := .other "property_identifier", start, stop := start + width } [],
    .mk { kind := .other "=", start := start + width, stop := start + width + 1, named := false } [],
    value]

/-- The node of a text between quotes. -/
def quotedNode (start stop : Nat) : Node :=
  .mk { kind := .other "string", start, stop } [
    .mk { kind := .other "\"", start, stop := start + 1, named := false } [],
    .mk { kind := .other "string_fragment", start := start + 1, stop := stop - 1 } [],
    .mk { kind := .other "\"", start := stop - 1, stop, named := false } []]

/-- What is added to the tree of `nestedTags`: a field, three attributes and one. -/
def taggedGraft : Graft where
  start o := if 26 ≤ o then o + 129 else if 23 ≤ o then o + 91 else if 14 ≤ o then o + 10 else o
  stop o := if 26 < o then o + 129 else if 23 < o then o + 91 else if 14 < o then o + 10 else o
  added n :=
    match n.kind with
    | .objectPattern => [
        .mk { kind := .other ",", start := 14, stop := 15, named := false } [],
        .mk { kind := .shorthandPattern, start := 16, stop := 24 } []]
    | .jsxOpeningElement => [
        attributeNode 34 8 71 (quotedNode 43 71),
        attributeNode 72 12 88 (quotedNode 85 88),
        attributeNode 89 14 114 (.mk { kind := .jsxExpression, start := 104, stop := 114 } [
          .mk { kind := .other "\x7b", start := 104, stop := 105, named := false } [],
          .mk { kind := .identifier, start := 105, stop := 113 } [],
          .mk { kind := .other "\x7d", start := 113, stop := 114, named := false } []])]
    | .jsxSelfClosingElement => [attributeNode 118 8 155 (quotedNode 127 155)]
    | _ => []
  place _ := 2
  wrapped _ := none

/-- The file that `nestedTags` becomes. -/
def taggedTags : SourceTree := ⟨Bytes.ofText taggedText, taggedGraft.graft nestedTags.root, none⟩

/-- A parser that knows the two texts. -/
def taggedParser : Parser := fun text path =>
  if text = nestedText then .ok nestedTags
  else if text = taggedText then .ok taggedTags
  else .error { path }

/-- What is there keeps its text, or has brackets before and after. -/
theorem taggedTags_grows :
    Grows taggedGraft nestedTags.source taggedTags.source nestedTags.root where
  start := by
    intro a b hab
    simp only [taggedGraft] at hab
    split_ifs at hab <;> omega
  added := by decide +kernel
  inert := by decide +kernel
  wrapped := fun _ _ _ hl => nomatch hl
  texts := by
    have hascii : nestedTags.source.isAscii = true := by decide +kernel
    have hascii' : taggedTags.source.isAscii = true := by decide +kernel
    have hslices : ∀ n ∈ nestedTags.root.nodes, ∀ c ∈ n.children,
        let old := (nestedTags.source.slice c.start c.stop).characters
        let new := (taggedTags.source.slice (taggedGraft.graft c).start
          (taggedGraft.graft c).stop).characters
        new = old ∨ old.any isBracket = true ∧ new.any isBracket = true := by decide +kernel
    intro n hn c hc _
    rw [Keeps, Node.text_of_isAscii hascii, Node.text_of_isAscii hascii', isBracketed_ofList,
      isBracketed_ofList]
    exact (hslices n hn c hc).imp_left (congrArg String.ofList)
  names := by decide +kernel

theorem taggedTags_reparses :
    Reparses taggedGraft nestedTags
      (planned nestedTags.source (boundScopes 100 nestedTags (classifyComponents nestedTags)))
      taggedText taggedTags where
  source := rfl
  root := rfl
  grows := taggedTags_grows
  shows := {
    tags := by decide +kernel
    roots := by decide +kernel
    threads := by decide +kernel }
  readable := by
    have hascii : taggedTags.source.isAscii = true := by decide +kernel
    have hranges : ∀ n ∈ taggedTags.root.nodes, n.start ≤ n.stop := by decide +kernel
    exact fun n hn => ⟨hranges n hn, Node.isLegible_of_isAscii hascii n⟩

/-- The first run over `nestedTags` makes four edits, and they are planned in the order of the text. -/
theorem run_nestedTags :
    ∃ first log, run 100 nestedTags numberedIds (classifyComponents nestedTags) = .ok (first, 2, log) ∧
      first.edits = 4 ∧ first.text = taggedText := by
  have hplan : ((planAll 100 nestedTags numberedIds (classifyComponents nestedTags)).toOption.map
      fun p => (decide (p.planner.plan.edits.Pairwise fun a b => Edit.Plan.precedes a b = true),
        (Edit.Plan.join nestedTags.source 0 p.planner.plan.edits).toOption,
        p.planner.plan.length, p.planner.drawn)) =
      some (true, some (Bytes.ofText taggedText), 4, 2) := by decide +kernel
  cases hp : planAll 100 nestedTags numberedIds (classifyComponents nestedTags) with
  | error e =>
    rw [hp] at hplan
    cases hplan
  | ok p =>
    rw [hp] at hplan
    simp only [Except.toOption, Option.map_some, Option.some.injEq, Prod.mk.injEq,
      decide_eq_true_eq] at hplan
    obtain ⟨hsorted, hbytes, hlength, hdrawn⟩ := hplan
    have happly : p.planner.plan.apply nestedTags.source = .ok taggedText := by
      rw [Edit.Plan.apply, Edit.Plan.applyBytes, Edit.Plan.ordered,
        List.mergeSort_of_pairwise hsorted]
      cases hjoin : Edit.Plan.join nestedTags.source 0 p.planner.plan.edits with
      | error e =>
        rw [hjoin] at hbytes
        cases hbytes
      | ok bytes =>
        rw [hjoin] at hbytes
        simp only [bind, Except.bind, Option.some.inj hbytes, Bytes.text?_ofText]
    refine ⟨⟨taggedText, 4, p.bound, p.missing, p.nested⟩, p.log, ?_, rfl, rfl⟩
    simp only [run, hp, bind, Except.bind, happly, hlength, hdrawn]

/-- The file `nestedTags` becomes `taggedTags`, and that one stays as it is. -/
theorem instrumentSource_idempotent_nestedTags :
    parseText taggedParser nestedText none = .ok (.ok nestedTags) ∧
      ∃ cs first log, componentsOf taggedParser nestedText none = .ok (cs, []) ∧
        instrumentSource 100 taggedParser numberedIds nestedText cs none = .ok (first, 2, log) ∧
        first.edits = 4 ∧ first.text = taggedText ∧
        ∃ cs' second log', componentsOf taggedParser taggedText none = .ok (cs', []) ∧
          instrumentSource 100 taggedParser numberedIds taggedText cs' none 2 = .ok (second, 2, log') ∧
          second.edits = 0 ∧ second.text = taggedText := by
  have hencoding : Text.encodingError? nestedText = none := by decide +kernel
  have hparse : parseText taggedParser nestedText none = .ok (.ok nestedTags) := by
    rw [parseText, hencoding, taggedParser, if_pos rfl]
  have hparse' : parseText taggedParser taggedText none = .ok (.ok taggedTags) := by
    rw [parseText, show Text.encodingError? taggedText = none by decide +kernel, taggedParser,
      if_neg (by decide +kernel), if_pos rfl]
  have hcs : componentsOf taggedParser nestedText none = .ok (classifyComponents nestedTags, []) := by
    have hlegible : allLegible nestedTags.source (classifyReads nestedTags) = true := by
      decide +kernel
    simp only [componentsOf, hparse, bind, Except.bind, hlegible, if_true]
  obtain ⟨first, log, hrun, hedits, htext⟩ := run_nestedTags
  have hfirst : instrumentSource 100 taggedParser numberedIds nestedText
      (classifyComponents nestedTags) none = .ok (first, 2, log) := by
    rw [instrumentSource, if_neg (by decide +kernel), hencoding, taggedParser, if_pos rfl]
    simp only [hrun]
    rfl
  refine ⟨hparse, classifyComponents nestedTags, first, log, hcs, hfirst, hedits, htext, ?_⟩
  have hsecond := instrumentSource_idempotent 100 taggedParser numberedIds numberedIds 0 2 none
    (g := taggedGraft) hparse hcs hfirst (htext ▸ hparse') (htext ▸ taggedTags_reparses)
  rwa [htext] at hsecond

end Instrument

end JsxTagger
