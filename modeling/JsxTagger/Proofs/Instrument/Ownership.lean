import JsxTagger.Proofs.Instrument.MemoChain

/-!
# Functions that belong to components

Classification finds a wrapped component at the outermost of the calls around its function, and decides
so from above each call; instrumentation goes from there down to the function. `Owns` lists how a component
comes by its function, and a function belongs to one component only (`Owns.unique`). The main statement,
`wrapped_function_owned`, says for chains of wrappers of any length which component is found and that it
has the function, as long as the interpreter goes that deep.
-/

namespace JsxTagger.Instrument

open Classify Syntax

variable {room : Nat}

/-! ## How a component comes by its function -/

section Owns

variable {source : Bytes} {s s' t : Site}

/-- How the component that is found at a site comes by the function at another. -/
inductive Owns (source : Bytes) (s t : Site) : Prop where
  /-- The component is a function declaration. -/
  | declared (hsame : s = t) (hkind : t.node.kind = .functionDeclaration)
  /-- The component is a function that is exported as it stands. -/
  | exported (hsame : s = t) (hkind : t.node.kind.isComponentFunction = true)
      (hexport : isExportedValue t = true)
  /-- The component is a declarator that binds the function. -/
  | bound (hkind : t.node.kind.isComponentFunction = true) (hdeclarator : s.node.kind = .variableDeclarator)
      (henclosing : enclosing t = s.node :: s.above)
  /-- The component is the outermost of the wrappers around the function. -/
  | wrapped (hkind : t.node.kind.isComponentFunction = true) (houtermost : isWrapped source s = false)
      (hup : Relation.TransGen (IsWrappedBy source) t s)

/-- What is exported stands directly in the export statement. -/
theorem exists_enclosing_of_isExportedValue (h : isExportedValue t = true) :
    ∃ statement above, enclosing t = statement :: above ∧ statement.kind = .exportStatement := by
  obtain ⟨n, above⟩ := t
  cases above with
  | nil => cases h
  | cons statement above =>
    have hkind : statement.kind = .exportStatement := by
      simpa using (Bool.and_eq_true_iff.mp h).1
    exact ⟨statement, above, by rw [enclosing, List.dropWhile_cons_of_neg (by simp [hkind])], hkind⟩

/-- A function belongs to the component found at one site at most. -/
theorem Owns.unique (h : Owns source s t) (h' : Owns source s' t) : s = s' := by
  have hno {p : Prop} (hkind : t.node.kind = .functionDeclaration)
      (hkind' : t.node.kind.isComponentFunction = true) : p := by
    rw [hkind] at hkind'
    cases hkind'
  have hhead {p : Prop} {n n' : Node} {above above' : List Node} (hn : enclosing t = n :: above)
      (hn' : enclosing t = n' :: above') (hkind : n.kind ≠ n'.kind) : p := by
    rw [hn] at hn'
    exact absurd (congrArg Node.kind (List.cons.inj hn').1) hkind
  -- for different reasons the node further up, or the function itself, is of different kinds
  cases h with
  | declared hsame hkind =>
    cases h' with
    | declared hsame' _ => exact hsame.trans hsame'.symm
    | exported _ hkind' _ => exact hno hkind hkind'
    | bound hkind' _ _ => exact hno hkind hkind'
    | wrapped hkind' _ _ => exact hno hkind hkind'
  | exported hsame hkind hexport =>
    obtain ⟨statement, above, hstatement, hexports⟩ := exists_enclosing_of_isExportedValue hexport
    cases h' with
    | declared _ hkind' => exact hno hkind' hkind
    | exported hsame' _ _ => exact hsame.trans hsame'.symm
    | bound _ hdeclarator henclosing =>
      exact hhead hstatement henclosing (by rw [hexports, hdeclarator]; simp)
    | wrapped _ _ hup =>
      obtain ⟨list, _, hlist, hlistkind⟩ := exists_enclosing_of_transGen hup
      exact hhead hstatement hlist (by rw [hexports, hlistkind]; simp)
  | bound hkind hdeclarator henclosing =>
    cases h' with
    | declared _ hkind' => exact hno hkind' hkind
    | exported _ _ hexport =>
      obtain ⟨statement, above, hstatement, hexports⟩ := exists_enclosing_of_isExportedValue hexport
      exact hhead henclosing hstatement (by rw [hexports, hdeclarator]; simp)
    | bound _ _ henclosing' =>
      obtain ⟨n, above⟩ := s
      obtain ⟨n', above'⟩ := s'
      rw [henclosing] at henclosing'
      rw [Site.mk.injEq]
      exact List.cons.inj henclosing'
    | wrapped _ _ hup =>
      obtain ⟨list, _, hlist, hlistkind⟩ := exists_enclosing_of_transGen hup
      exact hhead henclosing hlist (by rw [hdeclarator, hlistkind]; simp)
  | wrapped hkind houtermost hup =>
    obtain ⟨list, _, hlist, hlistkind⟩ := exists_enclosing_of_transGen hup
    cases h' with
    | declared _ hkind' => exact hno hkind' hkind
    | exported _ _ hexport =>
      obtain ⟨statement, above, hstatement, hexports⟩ := exists_enclosing_of_isExportedValue hexport
      exact hhead hlist hstatement (by rw [hexports, hlistkind]; simp)
    | bound _ hdeclarator henclosing =>
      exact hhead hlist henclosing (by rw [hdeclarator, hlistkind]; simp)
    | wrapped _ houtermost' hup' => exact eq_of_transGen hup hup' houtermost houtermost'

end Owns

/-! ## Declarations and their calls -/

/-- A call is a component of its own exactly if it calls a wrapper and no other wrapper has it among its
arguments. -/
theorem isSome_describe_call {source : Bytes} {s : Site} (hkind : s.node.kind = .callExpression) :
    (describe source s).isSome = true ↔
      (wrapperName? source s.node).isSome = true ∧ isWrapped source s = false := by
  rw [describe]
  simp only [hkind]
  cases wrapperName? source s.node with
  | none => simp
  | some wrapper => cases isWrapped source s <;> simp

/-- A component that is found at a call names the wrapper. -/
theorem wrappedIn_of_describe {source : Bytes} {s : Site} {c : Component} {n : Node} {wrapper : String}
    (hkind : s.node.kind = .callExpression) (hname : wrapperName? source s.node = some wrapper)
    (h : ∃ found, describe source s = some (n, found) ∧ Describes source n c ∧
      c.wrappedIn = found.wrappedIn) : c.wrappedIn = .str wrapper := by
  obtain ⟨found, hd, -, hwrapped⟩ := h
  rw [describe] at hd
  simp only [hkind, hname] at hd
  split at hd
  · cases hd
  · cases hd
    exact hwrapped

/-- A function that is a component where it stands is exported there. -/
theorem isExportedValue_of_describe {source : Bytes} {s : Site} (h : (describe source s).isSome = true)
    (hkind : s.node.kind.isComponentFunction = true) : isExportedValue s = true := by
  rw [describe] at h
  split at h
  case h_5 =>
    split at h
    · assumption
    · cases h
  all_goals
    rename_i hother
    rw [hother] at hkind
    cases hkind

/-- What a declaration with a call holds is the function inside the call. -/
theorem componentFunction?_of_outerCall? {source : Bytes} {anchor call : Node}
    (h : outerCall? anchor = some call) :
    componentFunction? source anchor = wrappedFunction? source call.size call := by
  obtain ⟨h, hkind⟩ := Option.filter_eq_some_iff.mp h
  rw [beq_iff_eq] at hkind
  rw [componentFunction?]
  split at h
  case isTrue hdeclarator =>
    rw [if_neg (by simp [hdeclarator, Kind.isComponentFunction]), if_pos hdeclarator, h]
    simp [hkind, Kind.isComponentFunction]
  case isFalse hdeclarator =>
    cases h
    simp [hkind, Kind.isComponentFunction]

/-- A node that is not empty does not come before itself. -/
theorem not_before_of_node_eq {s t : Site} (hnode : s.node = t.node) (hwide : s.node.start < s.node.stop) :
    ¬ s.Before t := by
  rintro (⟨hbelow, -⟩ | hafter)
  · obtain ⟨c, hc, hmem⟩ := Node.mem_tail_walk_iff.mp hbelow
    have hsmaller := Node.size_lt_of_mem_children (Node.mem_namedChildren.mp hc).1
    have hsize := Node.size_le_of_mem_nodes (Node.mem_nodes_of_mem_walk hmem)
    rw [← hnode] at hsize
    omega
  · rw [← hnode] at hafter
    omega

namespace Traceable

variable {tree : SourceTree} (h : Traceable tree)

include h

/-- A wrapped component has the outermost call in its declaration. -/
theorem outerCall?_anchorSite {s : Site} (hs : s ∈ tree.root.sites)
    (hcall : IsWrapperCall tree.source s.node) : outerCall? (anchorSite s).node = some s.node := by
  rw [outerCall?]
  rcases anchorSite_of_call hcall.1 with ⟨-, hsite⟩ | ⟨value, -, hbinds, hdeclarator, -⟩
  · simp [hsite, hcall.1]
  · have hvalue := h.boundValue?_of_bindingDeclarator? hs hcall hbinds
    rw [boundValue?] at hvalue
    simp [hdeclarator, hvalue, hcall.1]

/-- The function that a component holds stands at a site, and belongs to the component. -/
theorem exists_owns {s : Site} {f : Node} (hs : s ∈ declaringSites tree)
    (hf : componentFunction? tree.source (anchorSite s).node = some f) :
    ∃ t ∈ tree.root.sites, t.node = f ∧ Owns tree.source s t := by
  obtain ⟨hs, n, c, hd⟩ := mem_declaringSites.mp hs
  have hsome : (describe tree.source s).isSome = true := by rw [hd]; rfl
  cases (describe_eq_some hd).2.2 with
  | own hkind hanchor hvalue =>
    rw [anchorSite_of_ne hkind, componentFunction?] at hf
    split at hf
    · rename_i hfunction
      cases hf
      rw [Bool.or_eq_true, decide_eq_true_eq] at hfunction
      rcases hfunction with hfunction | hfunction
      · exact ⟨s, hs, rfl, .declared rfl hfunction⟩
      · exact ⟨s, hs, rfl, .exported rfl hfunction (isExportedValue_of_describe hsome hfunction)⟩
    · split at hf
      · rename_i hdeclarator
        obtain ⟨value, hbound, hfunction⟩ := hvalue hdeclarator
        obtain ⟨v, hv, hunwrapped⟩ := Option.bind_eq_some_iff.mp hbound
        rw [boundValue?] at hbound
        rw [hbound] at hf
        simp only [hfunction, if_true, Option.some.injEq] at hf
        subst hf
        have hnamed := h.values s.node (Node.mem_nodes_of_mem_sites hs) hdeclarator v hv
        have hvsite : (⟨v, s.node :: s.above⟩ : Site) ∈ tree.root.sites :=
          Node.mem_sites_cons.mpr ⟨hs, Node.mem_namedChildren.mpr
            ⟨Node.mem_children_of_child? hv, hnamed⟩⟩
        have houtside : enclosing ⟨v, s.node :: s.above⟩ = s.node :: s.above := by
          rw [enclosing, List.dropWhile_cons_of_neg (by simp [hdeclarator])]
        obtain ⟨t, ht, rfl, henclosing⟩ := exists_site_of_unwrapped? hvsite hunwrapped houtside
        exact ⟨t, ht, rfl, .bound hfunction hdeclarator henclosing⟩
      · cases hf
  | wrapper hkind hwrapper =>
    have hcall : IsWrapperCall tree.source s.node := ⟨hkind, hwrapper⟩
    have houtermost := ((isSome_describe_call hkind).mp hsome).2
    rw [componentFunction?_of_outerCall? (h.outerCall?_anchorSite hs hcall)] at hf
    obtain ⟨t, ht, rfl, hup⟩ := h.exists_site_of_wrappedFunction? hs hcall hf
    exact ⟨t, ht, rfl, .wrapped (wrappedFunction?_eq_some hf).2 houtermost hup⟩

/-- An anchor stands at one site only. -/
theorem eq_of_node_eq {t t' : Site} (ht : t ∈ tree.root.sites) (ht' : t' ∈ tree.root.sites)
    (hnode : t.node = t'.node) (hanchor : t.node.kind.isAnchor = true) : t = t' := by
  by_cases hcall : t.node.kind = .callExpression
  · have hwide := h.wide t.node (Node.mem_nodes_of_mem_sites ht) hcall
    rcases Node.before_or_before h.nested ht ht' with hsame | hbefore | hbefore
    · exact hsame
    · exact absurd hbefore (not_before_of_node_eq hnode hwide)
    · exact absurd hbefore (not_before_of_node_eq hnode.symm (hnode ▸ hwide))
  · exact h.eq_of_key ⟨ht, hanchor, .inl hcall⟩ ⟨ht', hnode ▸ hanchor, .inl (hnode ▸ hcall)⟩ hcall
      (by rw [hnode])

/-- Two components that hold the same function are found at the same site. -/
theorem eq_of_componentFunction? {s s' : Site} {f : Node} (hs : s ∈ declaringSites tree)
    (hs' : s' ∈ declaringSites tree)
    (hf : componentFunction? tree.source (anchorSite s).node = some f)
    (hf' : componentFunction? tree.source (anchorSite s').node = some f) : s = s' := by
  obtain ⟨t, ht, hnode, howns⟩ := h.exists_owns hs hf
  obtain ⟨t', ht', hnode', howns'⟩ := h.exists_owns hs' hf'
  have hanchor : t.node.kind.isAnchor = true := by
    rw [hnode]
    rcases (componentFunction?_eq_some hf).2 with hkind | hkind
    · rw [hkind]
      rfl
    · simp [Kind.isAnchor, hkind]
  have hsame := h.eq_of_node_eq ht ht' (hnode.trans hnode'.symm) hanchor
  exact howns.unique (hsame ▸ howns')

end Traceable

/-! ## The components of a chain -/

namespace Traceable

variable {tree : SourceTree} (h : Traceable tree)

include h

/-- No component is found at the calls inside the outermost one, nor at the function. -/
theorem not_mem_declaringSites {s t : Site} {rest : List Node} {f : Node} (hs : s ∈ tree.root.sites)
    (hchain : WrapperChain tree.source s.node rest f) (hmem : t.node ∈ rest ++ [f]) :
    t ∉ declaringSites tree := by
  intro ht
  obtain ⟨u, hu, hnode, hup⟩ := h.exists_site_of_mem_chain hs hchain hmem
  obtain ⟨ht, n, c, hd⟩ := mem_declaringSites.mp ht
  have hsome : (describe tree.source t).isSome = true := by rw [hd]; rfl
  have hkind := hchain.kind_of_mem hmem
  have hanchor : t.node.kind.isAnchor = true := by
    rcases hkind with hkind | hkind
    · rw [hkind]
      rfl
    · simp [Kind.isAnchor, hkind]
  obtain rfl := h.eq_of_node_eq ht hu hnode.symm hanchor
  rcases hkind with hkind | hkind
  · obtain ⟨x, hx, -⟩ := Relation.TransGen.head'_iff.mp hup
    have houtermost := ((isSome_describe_call hkind).mp hsome).2
    rw [isWrapped_iff.mpr ⟨x, hx⟩] at houtermost
    cases houtermost
  · obtain ⟨statement, _, hstatement, hexports⟩ :=
      exists_enclosing_of_isExportedValue (isExportedValue_of_describe hsome hkind)
    obtain ⟨list, _, hlist, hlistkind⟩ := exists_enclosing_of_transGen hup
    rw [hstatement] at hlist
    rw [(List.cons.inj hlist).1, hlistkind] at hexports
    cases hexports

end Traceable

/-! ## The components of a file -/

/-- The components of a file, each with the site at which it was found. -/
def foundAt (tree : SourceTree) : List (Site × Component) :=
  (declaringSites tree).zip (classifyComponents tree)

/-- The function that is found for a component, or what keeps it from being found. -/
def resolve (room : Nat) (tree : SourceTree) (c : Component) : Except InstrumentError (Option Node) :=
  match anchorOf? room tree c with
  | none => .ok none
  | some anchor =>
    match functionObstacle? room tree.source anchor with
    | some e => .error e
    | none => .ok (componentFunction? tree.source anchor)

theorem map_fst_foundAt (tree : SourceTree) : (foundAt tree).map (·.1) = declaringSites tree :=
  List.map_fst_zip (classifyComponents_found tree).length_eq.le

theorem map_snd_foundAt (tree : SourceTree) : (foundAt tree).map (·.2) = classifyComponents tree :=
  List.map_snd_zip (classifyComponents_found tree).length_eq.ge

theorem mem_declaringSites_of_foundAt {tree : SourceTree} {d : Site × Component} (hd : d ∈ foundAt tree) :
    d.1 ∈ declaringSites tree := by
  rw [← map_fst_foundAt]
  exact List.mem_map_of_mem hd

/-- A component is found at the outermost call of a chain. -/
theorem exists_foundAt {tree : SourceTree} {s : Site} {inner : List Node} {f : Node}
    (hs : s ∈ tree.root.sites) (hchain : WrapperChain tree.source s.node inner f)
    (houtermost : isWrapped tree.source s = false) : ∃ c, (s, c) ∈ foundAt tree := by
  obtain ⟨hkind, hwrapper⟩ := hchain.isWrapperCall
  have hdeclares : s ∈ declaringSites tree :=
    List.mem_filter.mpr ⟨hs, (isSome_describe_call hkind).mpr ⟨hwrapper, houtermost⟩⟩
  rw [← map_fst_foundAt] at hdeclares
  obtain ⟨⟨s, c⟩, hmem, rfl⟩ := List.mem_map.mp hdeclares
  exact ⟨c, hmem⟩

namespace Traceable

variable {tree : SourceTree} (h : Traceable tree)

include h

/-- A component is found at its anchor. -/
theorem anchorOf?_of_foundAt {d : Site × Component} (hd : d ∈ foundAt tree) :
    anchorOf? room tree d.2 = some (anchorSite d.1).node := by
  obtain ⟨found, -, hdescribes, -⟩ := List.forall₂_zip (classifyComponents_found tree) hd
  have hsite : anchorSite d.1 ∈ anchorSites tree :=
    List.mem_map_of_mem (mem_declaringSites_of_foundAt hd)
  exact anchorOf?_eq_some.mpr
    (h.locate_anchorSite room (allLegible_classifyReads h.legible) hsite hdescribes).2.2

/-- A component that has a function holds it in its declaration. -/
theorem componentFunction?_of_resolve {d : Site × Component} {f : Node} (hd : d ∈ foundAt tree)
    (hf : resolve room tree d.2 = .ok (some f)) :
    componentFunction? tree.source (anchorSite d.1).node = some f := by
  rw [resolve, h.anchorOf?_of_foundAt hd] at hf
  dsimp only at hf
  split at hf
  · cases hf
  · exact Except.ok.inj hf

/-- Components that have the same function are found at the same site. -/
theorem eq_of_resolve {d d' : Site × Component} {f : Node} (hd : d ∈ foundAt tree)
    (hd' : d' ∈ foundAt tree) (hf : resolve room tree d.2 = .ok (some f))
    (hf' : resolve room tree d'.2 = .ok (some f)) : d.1 = d'.1 :=
  h.eq_of_componentFunction? (mem_declaringSites_of_foundAt hd) (mem_declaringSites_of_foundAt hd')
    (h.componentFunction?_of_resolve hd hf) (h.componentFunction?_of_resolve hd' hf')

/-- No two components are found at the same site. -/
theorem pairwise_foundAt : (foundAt tree).Pairwise fun d d' => d.1 ≠ d'.1 := by
  have hsites : (declaringSites tree).Pairwise (· ≠ ·) := by
    have hkeys := h.pairwise_anchorSites
    rw [anchorSites, List.pairwise_map] at hkeys
    exact hkeys.imp fun hne hsame => hne (by rw [hsame])
  rw [← map_fst_foundAt, List.pairwise_map] at hsites
  exact hsites

/-- Where every node can be read, only the depth of the wrappers keeps a function from being found. -/
theorem functionObstacle?_eq {anchor call : Node} (hanchor : anchor ∈ tree.root.nodes)
    (hcall : outerCall? anchor = some call) :
    functionObstacle? room tree.source anchor =
      if room ≤ wrapperDepth tree.source room call then some .tooDeep else none := by
  have hreads : allLegible tree.source (wrappedFunctionReads tree.source call.size call) = true := by
    rw [← Bool.not_eq_false]
    intro hfalse
    have hillegible := HasIllegible.of_reads (fun m => mem_nodes_of_mem_wrappedFunctionReads) hfalse
    exact h.legible ((hillegible.of_mem (mem_nodes_of_outerCall? hcall)).of_mem hanchor)
  rw [functionObstacle?, hcall]
  simp only [hreads, unlessLegible, if_true]

/-- The component found at the outermost call of a chain holds the function at its end. -/
theorem componentFunction?_of_chain {s : Site} {inner : List Node} {f : Node} (hs : s ∈ tree.root.sites)
    (hchain : WrapperChain tree.source s.node inner f) :
    componentFunction? tree.source (anchorSite s).node = some f := by
  rw [componentFunction?_of_outerCall? (h.outerCall?_anchorSite hs hchain.isWrapperCall)]
  exact hchain.wrappedFunction?_eq (Nat.le_refl _)

/-- The other components are found at other sites. -/
theorem fst_ne_of_foundAt {d e : Site × Component} {front back : List (Site × Component)}
    (hsplit : foundAt tree = front ++ e :: back) (hd : d ∈ front ++ back) : d.1 ≠ e.1 := by
  have hpairwise := h.pairwise_foundAt
  rw [hsplit, List.pairwise_append, List.pairwise_cons] at hpairwise
  obtain ⟨-, ⟨hback, -⟩, hfront⟩ := hpairwise
  rcases List.mem_append.mp hd with hd | hd
  · exact hfront d hd e List.mem_cons_self
  · exact (hback d hd).symm

/-- What is found for the outermost call of a chain: the function, unless there are too few calls left to
look through the chain. -/
theorem resolve_of_chain (room : Nat) {s : Site} {c : Component} {inner : List Node} {f : Node}
    (hd : (s, c) ∈ foundAt tree) (hchain : WrapperChain tree.source s.node inner f) :
    resolve room tree c = if inner.length < room then .ok (some f) else .error .tooDeep := by
  have hs := (mem_declaringSites.mp (mem_declaringSites_of_foundAt hd)).1
  have hcall := h.outerCall?_anchorSite hs hchain.isWrapperCall
  have hanchor := Node.mem_nodes_of_mem_sites (mem_sites_anchorSite hs)
  rw [resolve, h.anchorOf?_of_foundAt hd]
  dsimp only
  rw [h.functionObstacle?_eq hanchor hcall, hchain.wrapperDepth_eq, h.componentFunction?_of_chain hs hchain]
  by_cases hdepth : inner.length < room
  · rw [if_pos hdepth, if_neg (by omega)]
  · rw [if_neg hdepth, if_pos (by omega)]

end Traceable

/-- No two components of a file have the same function. Around a function that is wrapped, one or more
times, exactly one component is found: at the outermost call, whose wrapper it names, and with that
function as its own, unless there are too few calls left to look through the calls inside the outermost
one. -/
theorem wrapped_function_owned (room : Nat) {tree : SourceTree} (h : Traceable tree) :
    ((classifyComponents tree).Pairwise fun c c' =>
      ∀ f, resolve room tree c = .ok (some f) → resolve room tree c' ≠ .ok (some f)) ∧
    ∀ s ∈ tree.root.sites, ∀ inner f, WrapperChain tree.source s.node inner f →
      isWrapped tree.source s = false →
      ∃ front c back wrapper, foundAt tree = front ++ (s, c) :: back ∧
        (∀ d ∈ front ++ back, d.1.node ∉ s.node :: inner ++ [f] ∧
          resolve room tree d.2 ≠ .ok (some f)) ∧
        wrapperName? tree.source s.node = some wrapper ∧ c.wrappedIn = .str wrapper ∧
        resolve room tree c =
          if inner.length < room then .ok (some f) else .error .tooDeep := by
  constructor
  · rw [← map_snd_foundAt, List.pairwise_map]
    exact h.pairwise_foundAt.imp_of_mem fun hd hd' hne f hf hf' => hne (h.eq_of_resolve hd hd' hf hf')
  · intro s hs inner f hchain houtermost
    obtain ⟨hkind, hwrapper⟩ := hchain.isWrapperCall
    obtain ⟨wrapper, hname⟩ := Option.isSome_iff_exists.mp hwrapper
    obtain ⟨c, hmem⟩ := exists_foundAt hs hchain houtermost
    obtain ⟨front, back, hsplit⟩ := List.append_of_mem hmem
    have hfound := List.forall₂_zip (classifyComponents_found tree) hmem
    refine ⟨front, c, back, wrapper, hsplit, fun d hd => ?_, hname,
      wrappedIn_of_describe hkind hname hfound, h.resolve_of_chain room hmem hchain⟩
    have hdmem : d ∈ foundAt tree := by
      rw [hsplit, List.mem_append, List.mem_cons]
      exact (List.mem_append.mp hd).imp_right .inr
    have hddeclares := mem_declaringSites_of_foundAt hdmem
    have hother : d.1 ≠ s := h.fst_ne_of_foundAt hsplit hd
    refine ⟨fun hin => ?_, fun hf => ?_⟩
    · rcases List.mem_cons.mp hin with hnode | hin
      · exact hother (h.eq_of_node_eq (mem_declaringSites.mp hddeclares).1 hs hnode
          (by rw [hnode, hkind]; rfl))
      · exact h.not_mem_declaringSites hs hchain hin hddeclares
    · exact hother (h.eq_of_componentFunction? hddeclares (mem_declaringSites_of_foundAt hmem)
        (h.componentFunction?_of_resolve hdmem hf) (h.componentFunction?_of_chain hs hchain))

/-- In `memo(memo(memo(() => <b />)))` one component is found, at the outermost call, and it has the
function. -/
theorem wrapped_function_owned_thrice :
    Traceable (memoFile 3) ∧
      ((classifyComponents (memoFile 3)).Pairwise fun c c' =>
        ∀ f, resolve 1000 (memoFile 3) c = .ok (some f) → resolve 1000 (memoFile 3) c' ≠ .ok (some f)) ∧
      ∃ front c back wrapper, foundAt (memoFile 3) = front ++ (memoSite 3, c) :: back ∧
        c.wrappedIn = .str wrapper ∧ resolve 1000 (memoFile 3) c = .ok (some (arrowAt 15)) := by
  obtain ⟨hpairwise, howned⟩ := wrapped_function_owned 1000 (traceable_memoFile 3)
  obtain ⟨hchain, houtermost⟩ := wrapperChain_memoFile 2
  obtain ⟨front, c, back, wrapper, hsplit, -, -, hwrapper, hresolve⟩ :=
    howned (memoSite 3) (memoSite_mem 3) (memoInner 2 5) (arrowAt 15) hchain houtermost
  rw [length_memoInner, if_pos (by decide)] at hresolve
  exact ⟨traceable_memoFile 3, hpairwise, front, c, back, wrapper, hsplit, hwrapper, hresolve⟩

/-- In the file with 1200 calls of `memo` around a function a component is found at the outermost call,
and its function is not found where 1000 calls are left: the wrappers are too deep. -/
theorem wrapped_function_too_deep :
    Traceable (memoFile 1200) ∧
      WrapperChain (memoFile 1200).source (memoSite 1200).node (memoInner 1199 5) (arrowAt 6000) ∧
      isWrapped (memoFile 1200).source (memoSite 1200) = false ∧
      ∃ c, (memoSite 1200, c) ∈ foundAt (memoFile 1200) ∧
        resolve 1000 (memoFile 1200) c = .error .tooDeep := by
  have htraceable := traceable_memoFile 1200
  obtain ⟨hchain, houtermost⟩ := wrapperChain_memoFile 1199
  obtain ⟨c, hc⟩ := exists_foundAt (memoSite_mem 1200) hchain houtermost
  have hresolve := htraceable.resolve_of_chain 1000 hc hchain
  rw [length_memoInner, if_neg (by decide)] at hresolve
  exact ⟨htraceable, hchain, houtermost, c, hc, hresolve⟩

end JsxTagger.Instrument
