import JsxTagger.Proofs.Component.Reads
import JsxTagger.Proofs.Instrument.Scopes

/-!
# What can stop a run

A run reads the texts of some nodes, follows wrappers, and asks tags for a place to put an attribute.
`Blocked` lists what can go wrong there, each cause with the place in the tree it comes from, and
`planAll_eq_error` says that nothing else stops a run.
-/

namespace JsxTagger.Instrument

open Classify Syntax

variable {room : Nat}

/-! ## What is read lies where one would expect it -/

theorem mem_nodes_of_mem_wrappedFunctionReads {source : Bytes} {fuel : Nat} {call m : Node}
    (h : m ∈ wrappedFunctionReads source fuel call) : m ∈ call.nodes := by
  induction fuel generalizing call with
  | zero => cases h
  | succ fuel ih =>
    rw [wrappedFunctionReads] at h
    split at h
    · cases h
    · rename_i target htarget
      have hin := mem_nodes_of_firstArgument? htarget
      split at h
      · rcases List.mem_append.mp h with h | h
        · exact Node.mem_nodes_trans hin (mem_nodes_of_mem_wrapperReads h)
        · split at h
          · exact Node.mem_nodes_trans hin (ih h)
          · cases h
      · cases h

theorem mem_nodes_of_outerCall? {anchor call : Node} (h : outerCall? anchor = some call) :
    call ∈ anchor.nodes := by
  obtain ⟨h, -⟩ := Option.filter_eq_some_iff.mp h
  split at h
  · obtain ⟨value, hvalue, h⟩ := Option.bind_eq_some_iff.mp h
    exact Node.mem_nodes_trans (Node.mem_nodes_of_child? hvalue) (Node.mem_nodes_of_unwrapped? h)
  · cases h
    exact Node.mem_nodes_self _

theorem mem_of_mem_foldl_recordAnchor {ns as : List Node} {n : Node}
    (h : n ∈ ns.foldl recordAnchor as) : n ∈ as ∨ n ∈ ns := by
  induction ns generalizing as with
  | nil => exact Or.inl h
  | cons m ns ih =>
    rcases ih h with h | h
    · rw [recordAnchor] at h
      split at h
      · obtain ⟨a, ha, h⟩ := List.mem_map.mp h
        split at h
        · exact Or.inr (h ▸ List.mem_cons_self)
        · exact Or.inl (h ▸ ha)
      · rcases List.mem_append.mp h with h | h
        · exact Or.inl h
        · exact Or.inr (List.mem_singleton.mp h ▸ List.mem_cons_self)
    · exact Or.inr (List.mem_cons_of_mem _ h)

theorem mem_walk_of_mem_anchors {root n : Node} (h : n ∈ anchors root) :
    n ∈ root.walk ∧ n.kind.isAnchor = true := by
  rcases mem_of_mem_foldl_recordAnchor h with h | h
  · cases h
  · exact List.mem_filter.mp h

/-! ## Obstacles of the single steps -/

theorem functionObstacle?_eq_some {source : Bytes} {anchor : Node} {e : InstrumentError}
    (h : functionObstacle? room source anchor = some e) :
    e = .tooDeep ∨ e = .illegible ∧ HasIllegible source anchor := by
  rw [functionObstacle?] at h
  split at h
  · cases h
  · rename_i call hcall
    split at h
    · cases h
      exact Or.inl rfl
    · obtain ⟨hl, rfl⟩ := unlessLegible_eq_some.mp h
      have hillegible := HasIllegible.of_reads (fun m => mem_nodes_of_mem_wrappedFunctionReads) hl
      exact Or.inr ⟨rfl, hillegible.of_mem (mem_nodes_of_outerCall? hcall)⟩

theorem answerObstacle?_eq_some {source : Bytes} {name : Json} {n : Node} {e : InstrumentError}
    (h : answerObstacle? room source name n = some e) :
    e = .illegible ∧ HasIllegible source n ∨ functionObstacle? room source n = some e := by
  rw [answerObstacle?] at h
  split at h
  · cases h
  · split at h
    · rename_i hl
      cases h
      exact Or.inl ⟨rfl, .of_reads (fun m => mem_nodes_of_mem_nameReads) (by simpa using hl)⟩
    · split at h
      · exact Or.inr h
      · cases h

/-- Why a component cannot be looked up: its locator is no locator, or something in the tree cannot
be read, or, without a locator, wrappers are too deep. -/
theorem locate_eq_error {tree : SourceTree} {c : Component} {e : InstrumentError}
    (h : locate room tree.source (anchors tree.root) (topLevel tree.root) c = .error e) :
    (e = .illegible ∧ HasIllegible tree.source tree.root) ∨
      (c.hasLocator = true ∧ ∃ half, half.isKey = false ∧
        (half = c.declarationStart ∨ half = c.declarationType) ∧
        e = .unusableLocator half.typeName) ∨
      (c.hasLocator = false ∧ e = .tooDeep ∧ ∃ anchor ∈ tree.root.walk,
        functionObstacle? room tree.source anchor = some .tooDeep) := by
  have hroot : ∀ {n}, n ∈ anchors tree.root → n ∈ tree.root.nodes := fun hn =>
    Node.mem_nodes_of_mem_walk (mem_walk_of_mem_anchors hn).1
  rw [locate] at h
  split at h
  · rename_i hlocator
    split at h
    · rename_i hkey
      cases h
      exact Or.inr (Or.inl ⟨hlocator, _, by simpa using hkey, Or.inl rfl, rfl⟩)
    · split at h
      · rename_i hkey
        cases h
        exact Or.inr (Or.inl ⟨hlocator, _, by simpa using hkey, Or.inr rfl, rfl⟩)
      · obtain ⟨n, hn, ho⟩ := search_eq_error h
        obtain ⟨hl, rfl⟩ := unlessLegible_eq_some.mp ho
        have hn := List.mem_of_find?_eq_some (Option.mem_toList.mp hn)
        have hillegible := HasIllegible.of_reads (fun m => mem_nodes_of_mem_nameReads) hl
        exact Or.inl ⟨rfl, hillegible.of_mem (hroot hn)⟩
  · rename_i hlocator
    obtain ⟨n, hn, ho⟩ := search_eq_error h
    have hn : n ∈ anchors tree.root := mem_sorted.mp hn
    rcases answerObstacle?_eq_some ho with ⟨rfl, hl⟩ | ho
    · exact Or.inl ⟨rfl, hl.of_mem (hroot hn)⟩
    · rcases functionObstacle?_eq_some ho with rfl | ⟨rfl, hl⟩
      · exact Or.inr (Or.inr ⟨by simpa using hlocator, rfl, n, (mem_walk_of_mem_anchors hn).1, ho⟩)
      · exact Or.inl ⟨rfl, hl.of_mem (hroot hn)⟩

/-- What can stop the instrumentation of a scope, apart from nodes that cannot be read: a tag without
a place for an attribute, or a bare parameter that ends before it begins. -/
def ScopeObstacle (s : Scope) (e : InstrumentError) : Prop :=
  (e = .unnamedElement ∧ ∃ element ∈ s.elements, insertionOffset? element = none) ∨
    ∃ bare cause, e = .edit cause ∧ s.node.child? .parameter = some bare ∧ bare.stop < bare.start

theorem annotate_scope_eq_error {source : Bytes} {ids : IdStream} {p : Planner} {s : Scope}
    {name reference : String} {e : InstrumentError}
    (h : annotate source ids name reference false p s.node.walk = .error e) :
    e = .illegible ∧ HasIllegible source s.node ∨ ScopeObstacle s e := by
  obtain ⟨element, hmem, ⟨rfl, n, hn, hl⟩ | ⟨rfl, hplace⟩⟩ := annotate_eq_error h
  · have hin := Node.mem_nodes_of_mem_walk (List.mem_filter.mp hmem).1
    exact Or.inl ⟨rfl, n, Node.mem_nodes_trans hin hn, hl⟩
  · exact Or.inr (Or.inl ⟨rfl, element, hmem, hplace⟩)

theorem thread_eq_error {source : Bytes} {p : Planner} {s : Scope} {e : InstrumentError}
    (h : p.thread source s.node = .error e) :
    e = .illegible ∧ HasIllegible source s.node ∨ ScopeObstacle s e := by
  rw [Planner.thread] at h
  split at h
  · cases h
  · rcases Except.bind_eq_error.mp h with h | ⟨q, -, h⟩
    · rcases addIdentity_eq_error h with hl | ⟨bare, _, cause, he, -, hbare, hlt, -⟩
      · exact Or.inl hl
      · exact Or.inr (Or.inr ⟨bare, cause, he, hbare, hlt⟩)
    · cases h

theorem instrumentDeclaration_eq_error {source : Bytes} {ids : IdStream} {p : Planner}
    {anchor : Node} {name : String} {e : InstrumentError}
    (h : instrumentDeclaration room source ids p anchor name = .error e) :
    (e = .illegible ∧ HasIllegible source anchor) ∨
      (e = .tooDeep ∧ functionObstacle? room source anchor = some .tooDeep) ∨
      ∃ s, scopeAt? source anchor = some s ∧ ScopeObstacle s e := by
  have hscope : ∀ {s}, scopeAt? source anchor = some s →
      e = .illegible ∧ HasIllegible source s.node ∨ ScopeObstacle s e →
      e = .illegible ∧ HasIllegible source anchor ∨
        (e = .tooDeep ∧ functionObstacle? room source anchor = some .tooDeep) ∨
        ∃ s, scopeAt? source anchor = some s ∧ ScopeObstacle s e := by
    rintro s hs (⟨he, hl⟩ | ho)
    · exact Or.inl ⟨he, hl.of_mem (scopeAt?_eq_some hs).1⟩
    · exact Or.inr (Or.inr ⟨s, hs, ho⟩)
  rw [instrumentDeclaration] at h
  split at h
  · rename_i hclass
    rcases Except.bind_eq_error.mp h with h | ⟨q, -, h⟩
    · exact hscope (by rw [scopeAt?, if_pos hclass]) (annotate_scope_eq_error h)
    · cases h
  · rename_i hclass
    split at h
    · rename_i error ho
      cases h
      rcases functionObstacle?_eq_some ho with rfl | hl
      · exact Or.inr (Or.inl ⟨rfl, ho⟩)
      · exact Or.inl hl
    · cases h
    · rename_i f _ hf
      have hs : scopeAt? source anchor = some ⟨f, componentName source anchor⟩ := by
        rw [scopeAt?, if_neg hclass, hf, Option.map_some]
      rcases Except.bind_eq_error.mp h with h | ⟨q, -, h⟩
      · exact hscope hs (thread_eq_error h)
      · rcases Except.bind_eq_error.mp h with h | ⟨q', -, h⟩
        · exact hscope hs (annotate_scope_eq_error (s := ⟨f, componentName source anchor⟩) h)
        · cases h

/-! ## Obstacles of a run -/

/-- What stops a run over the components `cs`. -/
inductive Blocked (room : Nat) (tree : SourceTree) (cs : List Component) : InstrumentError → Prop where
  /-- Something in the tree cannot be read. -/
  | illegible (h : HasIllegible tree.source tree.root) : Blocked room tree cs .illegible
  /-- Half of a locator is a list or an object. -/
  | locator {c : Component} {half : Json} (hc : c ∈ cs) (hlocator : c.hasLocator = true)
      (hhalf : half = c.declarationStart ∨ half = c.declarationType) (h : half.isKey = false) :
      Blocked room tree cs (.unusableLocator half.typeName)
  /-- Wrappers are too deep in a declaration that is instrumented or, for a component without a
  locator, in any declaration. -/
  | tooDeep {c : Component} {anchor : Node} (hc : c ∈ cs) (hanchor : anchor ∈ tree.root.walk)
      (hfound : c.hasLocator = true →
        anchorOf? room tree c = some anchor ∧ isTopLevel tree anchor = true)
      (h : functionObstacle? room tree.source anchor = some .tooDeep) : Blocked room tree cs .tooDeep
  /-- A scope cannot be instrumented. -/
  | scope {s : Scope} {e : InstrumentError} (hs : s ∈ boundScopes room tree cs) (h : ScopeObstacle s e) :
      Blocked room tree cs e

theorem Blocked.mono {tree : SourceTree} {cs ds : List Component} {e : InstrumentError}
    (h : Blocked room tree cs e) (hsub : ∀ c ∈ cs, c ∈ ds) : Blocked room tree ds e := by
  cases h with
  | illegible h => exact .illegible h
  | locator hc hlocator hhalf h => exact .locator (hsub _ hc) hlocator hhalf h
  | tooDeep hc hanchor hfound h => exact .tooDeep (hsub _ hc) hanchor hfound h
  | scope hs h =>
    obtain ⟨c, hc, hs⟩ := List.mem_filterMap.mp hs
    exact .scope (List.mem_filterMap.mpr ⟨c, hsub c hc, hs⟩) h

theorem mem_walk_of_locate {tree : SourceTree} {c : Component} {anchor : Node}
    (h : locate room tree.source (anchors tree.root) (topLevel tree.root) c = .ok (some anchor)) :
    anchor ∈ tree.root.walk :=
  (mem_walk_of_mem_anchors (locate_eq_some h).1).1

theorem step_eq_error {tree : SourceTree} {ids : IdStream} {g : Progress} {c : Component}
    {e : InstrumentError}
    (h : g.step room tree ids (anchors tree.root) (topLevel tree.root) c = .error e) :
    Blocked room tree [c] e := by
  have hmem : c ∈ [c] := List.mem_singleton_self c
  rcases Except.bind_eq_error.mp h with h | ⟨found, hfound, h⟩
  · rcases locate_eq_error h with ⟨rfl, hl⟩ | ⟨hlocator, half, hkey, hhalf, rfl⟩ |
      ⟨hlocator, rfl, anchor, hanchor, hdeep⟩
    · exact .illegible hl
    · exact .locator hmem hlocator hhalf hkey
    · exact .tooDeep hmem hanchor (fun hc => absurd hc (by simp [hlocator])) hdeep
  · cases found with
    | none => cases h
    | some anchor =>
      simp only at h
      split at h
      · cases h
      · rename_i htop
        have htop : isTopLevel tree anchor = true := by simpa [isTopLevel] using htop
        have hanchor := anchorOf?_eq_some.mpr hfound
        have hwalk := mem_walk_of_locate hfound
        rcases Except.bind_eq_error.mp h with h | ⟨r, -, h⟩
        · rcases instrumentDeclaration_eq_error h with ⟨rfl, hl⟩ | ⟨rfl, hdeep⟩ | ⟨s, hs, ho⟩
          · exact .illegible (hl.of_mem (Node.mem_nodes_of_mem_walk hwalk))
          · exact .tooDeep hmem hwalk (fun _ => ⟨hanchor, htop⟩) hdeep
          · refine .scope (List.mem_filterMap.mpr ⟨c, hmem, ?_⟩) ho
            rw [scopeOf?, hanchor, Option.filter_some_pos htop, Option.bind_some, hs]
        · cases r <;> cases h

/-- A run is stopped only by one of the listed obstacles. -/
theorem planAll_eq_error {tree : SourceTree} {ids : IdStream} {cs : List Component} {drawn : Nat}
    {e : InstrumentError} (h : planAll room tree ids cs drawn = .error e) : Blocked room tree cs e := by
  rw [planAll] at h
  generalize ({ planner := { drawn } } : Progress) = g at h
  induction cs generalizing g with
  | nil => cases h
  | cons c cs ih =>
    rw [List.foldlM_cons] at h
    rcases Except.bind_eq_error.mp h with h | ⟨g', -, h⟩
    · exact (step_eq_error h).mono fun d hd => List.mem_singleton.mp hd ▸ List.mem_cons_self
    · exact (ih g' h).mono fun d hd => List.mem_cons_of_mem c hd

end JsxTagger.Instrument
