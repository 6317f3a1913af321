import JsxTagger.Proofs.Component.Exports
import JsxTagger.Proofs.Component.Markup

/-!
# Which components are listed, and in which order

A file without markup is not classified. What is left out that way is no function that yields markup,
because the markup that such a function yields is part of the file (`analyzeTree_components`).

Components are listed in the order in which a traversal comes to them, which need not be the order in
which they start: a wrapper call that a declarator binds is found at the call and starts at the
declarator. `inSourceOrder_iff` says when the two orders differ. That is only if some other component is
found in the declarator in front of the call, as in `patternDefault`.
-/

namespace JsxTagger.Classify

open Syntax

/-! ## Markup of a function is markup of the file -/

section

variable {n m : Node}

/-- The tree holds markup. -/
def HoldsMarkup (n : Node) : Prop := ∃ m ∈ n.nodes, m.isMarkup = true

theorem HoldsMarkup.of_mem (h : HoldsMarkup m) (hm : m ∈ n.nodes) : HoldsMarkup n := by
  obtain ⟨k, hk, hmarkup⟩ := h
  exact ⟨k, Node.mem_nodes_trans hm hk, hmarkup⟩

theorem Wraps.holdsMarkup (h : Wraps n) : HoldsMarkup n := by
  obtain ⟨m, hm, hmarkup⟩ := h
  exact ⟨m, Node.mem_nodes_of_unwrapped? (unwrapped?_eq_some_iff.mpr hm), hmarkup⟩

theorem Delivers.holdsMarkup (h : Delivers n) : HoldsMarkup n := by
  cases h with
  | returned _ hchild h =>
    exact h.holdsMarkup.of_mem (Node.mem_nodes_of_mem_children (Node.mem_children_of_firstNamedChild? hchild))
  | arrow _ hchild h => exact h.holdsMarkup.of_mem (Node.mem_nodes_of_child? hchild)

theorem InOpen.mem_nodes (h : InOpen n m) : m ∈ n.nodes := by
  induction h with
  | here => exact Node.mem_nodes_self _
  | within _ hc _ ih =>
    exact Node.mem_nodes_trans (Node.mem_nodes_of_mem_children (Node.mem_namedChildren.mp hc).1) ih

/-- A function that yields markup holds markup. -/
theorem holdsMarkup_of_returnsMarkup (h : returnsMarkup n = true) : HoldsMarkup n := by
  cases hbody : n.child? .body with
  | none => simp [returnsMarkup, hbody] at h
  | some body =>
    refine HoldsMarkup.of_mem ?_ (Node.mem_nodes_of_child? hbody)
    rcases (returnsMarkup_eq_true hbody).mp h with ⟨-, h⟩ | h | ⟨c, hc, m, hm, h⟩
    · exact h.holdsMarkup
    · exact h.holdsMarkup
    · exact h.holdsMarkup.of_mem (Node.mem_nodes_trans
        (Node.mem_nodes_of_mem_children (Node.mem_namedChildren.mp hc).1) hm.mem_nodes)

/-- A walk comes to every node that is named and whose ancestors are. -/
theorem mem_walk_of_named (hm : m ∈ n.nodes) (hnamed : ∀ k ∈ n.nodes, m ∈ k.nodes → k.named = true) :
    m ∈ n.walk := by
  induction n using Node.childInduction with
  | step n ih =>
    rcases Node.mem_nodes_iff.mp hm with rfl | ⟨c, hc, hmc⟩
    · exact Node.mem_walk_self m
    · have hcn := Node.mem_nodes_of_mem_children hc
      refine Node.mem_walk_iff.mpr (.inr ⟨c, Node.mem_namedChildren.mpr ⟨hc, hnamed c hcn hmc⟩, ?_⟩)
      exact ih c hc hmc fun k hk => hnamed k (Node.mem_nodes_trans hcn hk)

/-- Where markup and what is around it are named nodes, a walk finds markup if there is any. -/
theorem containsMarkup_iff {tree : SourceTree}
    (hnamed : ∀ n ∈ tree.root.nodes, HoldsMarkup n → n.named = true) :
    containsMarkup tree = true ↔ HoldsMarkup tree.root := by
  rw [containsMarkup, List.any_eq_true]
  constructor
  · rintro ⟨m, hm, hmarkup⟩
    exact ⟨m, Node.mem_nodes_of_mem_walk hm, hmarkup⟩
  · rintro ⟨m, hm, hmarkup⟩
    exact ⟨m, mem_walk_of_named hm fun k hk hmk => hnamed k hk ⟨m, hmk, hmarkup⟩, hmarkup⟩

end

/-- In a tree without markup a component is a class or wrapped. -/
theorem kind_of_describe {source : Bytes} {s : Site} {n : Node} {c : Component}
    (h : describe source s = some (n, c)) (hnone : ¬ HoldsMarkup s.node) :
    c.kind = .classBased ∨ ∃ w ∈ wrappers, c.wrappedIn = .str w := by
  cases describe_eq_some_iff.mp h with
  | classDeclaration => exact .inl rfl
  | exportedClass => exact .inl rfl
  | wrapperCall _ hwrapper => exact .inr ⟨_, wrapperName?_mem hwrapper, rfl⟩
  | functionDeclaration _ hmarkup => exact absurd (holdsMarkup_of_returnsMarkup hmarkup) hnone
  | exportedFunction _ _ hmarkup => exact absurd (holdsMarkup_of_returnsMarkup hmarkup) hnone
  | boundFunction _ hvalue _ hmarkup =>
    obtain ⟨v, hv, hu⟩ := Option.bind_eq_some_iff.mp hvalue
    exact absurd ((holdsMarkup_of_returnsMarkup hmarkup).of_mem
      (Node.mem_nodes_trans (Node.mem_nodes_of_child? hv) (Node.mem_nodes_of_unwrapped? hu))) hnone

/-- A file with markup is classified. One without markup is not, and all that could have been listed are
classes and wrapped components. -/
theorem analyzeTree_components (tree : SourceTree)
    (hnamed : ∀ n ∈ tree.root.nodes, HoldsMarkup n → n.named = true) :
    (HoldsMarkup tree.root → (analyzeTree tree).components = classifyComponents tree) ∧
      (¬ HoldsMarkup tree.root → (analyzeTree tree).components = [] ∧
        ∀ c ∈ classifyComponents tree,
          c.kind = .classBased ∨ ∃ w ∈ wrappers, c.wrappedIn = .str w) := by
  have hcontains := containsMarkup_iff hnamed
  refine ⟨fun h => if_pos (hcontains.mpr h), fun hnone => ⟨if_neg (hnone ∘ hcontains.mp), fun c hc => ?_⟩⟩
  rw [classifyComponents_eq_map] at hc
  obtain ⟨found, hfound, rfl⟩ := List.mem_map.mp hc
  obtain ⟨⟨n, found⟩, hsite, rfl⟩ := List.mem_map.mp hfound
  obtain ⟨s, hs, hd⟩ := List.mem_filterMap.mp hsite
  have hkind := kind_of_describe hd fun h => hnone (h.of_mem (Node.mem_nodes_of_mem_sites hs))
  exact hkind

/-! ## The order of the list -/

/-- The components start one after the other, or at the same place. -/
def InSourceOrder (cs : List Component) : Prop :=
  ∃ starts : List Nat, cs.map (·.declarationStart) = starts.map (fun start => .int start) ∧
    starts.Pairwise (· ≤ ·)

/-- A wrapper call that is bound by a declarator is listed behind a component that is found in the
declarator and starts behind the start of the declarator. -/
structure Overtakes (tree : SourceTree) (s t : Site) : Prop where
  listed : [s, t].Sublist (declaringSites tree)
  call : t.node.kind = .callExpression
  bound : ∃ p, bindingDeclarator? t = some p ∧ s.node ∈ p.walk.tail ∧ p.start < (anchorSite s).node.start

theorem text_eq_empty {n : Node} {source : Bytes} (h : n.stop ≤ n.start) : n.text source = "" := by
  have hslice : source.slice n.start n.stop = [] := by
    rw [Bytes.slice, Nat.sub_eq_zero_of_le h, List.take_zero]
  rw [Node.text, hslice]
  decide

/-- A call of a wrapper is not empty. -/
theorem start_lt_stop_of_wrapperName? {source : Bytes} {call : Node} (h : call.WellNested)
    (hwrapper : (wrapperName? source call).isSome = true) : call.start < call.stop := by
  have hinside : ∀ {n : Node} {names : List String}, n ∈ call.nodes → "" ∉ names →
      names.contains (n.text source) = true → call.start < call.stop := by
    intro n names hn hempty hname
    by_contra hle
    have hrange := h.range hn
    rw [text_eq_empty (by omega)] at hname
    exact hempty (List.contains_iff_mem.mp hname)
  rw [wrapperName?] at hwrapper
  split at hwrapper
  case h_1 => cases hwrapper
  case h_2 callee hcallee =>
    have hin := Node.mem_nodes_of_child? hcallee
    split at hwrapper
    case isFalse => cases hwrapper
    case isTrue his =>
      rw [calleeIs] at his
      split at his
      case isTrue => exact hinside hin (by decide) his
      case isFalse =>
        split at his
        case isFalse => cases his
        case isTrue =>
          rw [isMemberOf] at his
          split at his
          case h_2 => cases his
          case h_1 o ho =>
            have htext := (Bool.and_eq_true_iff.mp (Bool.and_eq_true_iff.mp his).1).2
            have hreact : ["React"].contains (o.text source) = true := by
              rw [beq_iff_eq.mp htext]
              decide
            exact hinside (Node.mem_nodes_trans hin (Node.mem_nodes_of_child? ho)) (by decide) hreact

/-- The components start where their sites are anchored. -/
theorem declarationStart_classifyComponents (tree : SourceTree) :
    (classifyComponents tree).map (·.declarationStart) =
      ((declaringSites tree).map fun s => (anchorSite s).node.start).map fun start => .int start := by
  have h := classifyComponents_describes tree
  rw [anchorSites, List.forall₂_map_left_iff] at h
  generalize declaringSites tree = sites at h
  generalize classifyComponents tree = cs at h
  induction h with
  | nil => rfl
  | cons hc _ ih => rw [List.map_cons, List.map_cons, List.map_cons, hc.2.1, ih]

theorem inSourceOrder_iff_pairwise (tree : SourceTree) :
    InSourceOrder (classifyComponents tree) ↔
      (declaringSites tree).Pairwise fun s t => (anchorSite s).node.start ≤ (anchorSite t).node.start := by
  have hinjective : Function.Injective fun start : Nat => Json.int start := fun a b hab =>
    Int.ofNat_inj.mp (Json.int.inj hab)
  rw [InSourceOrder, declarationStart_classifyComponents, ← List.pairwise_map (R := (· ≤ ·))]
  constructor
  · rintro ⟨starts, heq, hpairwise⟩
    rwa [hinjective.list_map heq]
  · exact fun h => ⟨_, rfl, h⟩

/-- A component is anchored at its site or at a declarator around it that binds the call there. -/
theorem anchorSite_cases {root : Node} {s : Site} (hs : s ∈ root.sites) :
    anchorSite s = s ∨ s.node.kind = .callExpression ∧
      bindingDeclarator? s = some (anchorSite s).node ∧ anchorSite s ∈ root.sites ∧
        s.node ∈ (anchorSite s).node.walk.tail := by
  by_cases hkind : s.node.kind = .callExpression
  · rcases anchorSite_of_call hkind with ⟨-, hsite⟩ | ⟨value, houter, hbound, -⟩
    · exact .inl hsite
    · obtain ⟨hmem, hbelow⟩ := mem_sites_of_outer? hs houter
      exact .inr ⟨hkind, hbound, hmem, hbelow⟩
  · exact .inl (anchorSite_of_ne hkind)

/-- What lies below a site starts and ends within it. -/
theorem range_of_mem_tail {root n m : Node} (h : root.WellNested) (hn : n ∈ root.nodes)
    (hm : m ∈ n.walk.tail) : n.start ≤ m.start ∧ m.stop ≤ n.stop :=
  (h.of_mem hn).range (Node.mem_nodes_of_mem_walk (List.mem_of_mem_tail hm))

/-- In a well-nested tree the components are listed in the order in which they start, unless one is found
in the declarator of a wrapper call that is listed behind it. -/
theorem inSourceOrder_iff (tree : SourceTree) (h : tree.root.WellNested) :
    InSourceOrder (classifyComponents tree) ↔ ∀ s t, ¬ Overtakes tree s t := by
  have hrange : ∀ {s : Site} {m : Node}, s ∈ tree.root.sites → m ∈ s.node.walk.tail →
      s.node.start ≤ m.start ∧ m.stop ≤ s.node.stop := fun hs hm =>
    range_of_mem_tail h (Node.mem_nodes_of_mem_sites hs) hm
  rw [inSourceOrder_iff_pairwise, List.pairwise_iff_forall_sublist]
  constructor
  · rintro hordered s t ⟨hlisted, hcall, p, hbound, -, hlt⟩
    have hle := hordered hlisted
    rcases anchorSite_of_call hcall with ⟨hnone, -⟩ | ⟨_, -, hanchor, -⟩
    · rw [hbound] at hnone
      cases hnone
    · rw [hbound] at hanchor
      cases hanchor
      omega
  · intro hnone s t hlisted
    by_contra hlt
    have hs := mem_declaringSites.mp (hlisted.subset List.mem_cons_self)
    have ht := mem_declaringSites.mp (hlisted.subset (List.mem_cons_of_mem _ (List.mem_singleton_self t)))
    have hstart : (anchorSite s).node.start ≤ s.node.start := by
      rcases anchorSite_cases hs.1 with hsite | ⟨-, -, hmem, hbelow⟩
      · rw [hsite]
      · exact (hrange hmem hbelow).1
    have hbefore : s.node.start ≤ t.node.start := by
      have hpair := List.pairwise_iff_forall_sublist.mp (Node.pairwise_sites h)
        (hlisted.trans List.filter_sublist)
      rcases hpair with ⟨hbelow, -⟩ | hafter
      · exact (hrange hs.1 hbelow).1
      · exact Nat.le_trans (h.of_mem (Node.mem_nodes_of_mem_sites hs.1)).start_le_stop hafter
    rcases anchorSite_cases ht.1 with hsite | ⟨hcall, hbound, hmem, hbelow⟩
    · rw [hsite] at hlt
      omega
    · -- the first component lies in the declarator, since it starts between its start and the call
      refine hnone s t ⟨hlisted, hcall, _, hbound, ?_, by omega⟩
      have ht' := hrange hmem hbelow
      rcases Node.before_or_before h hmem hs.1 with heq | (⟨hin, -⟩ | hafter) | ⟨hin, -⟩ | hafter
      · rw [heq] at hlt
        omega
      · exact hin
      · -- only an empty call would fit in between
        obtain ⟨n, c, hd⟩ := ht.2
        have hwrapper : (wrapperName? tree.source t.node).isSome = true := by
          rcases (describe_eq_some hd).2.2 with ⟨hkind, -⟩ | ⟨-, hwrapper⟩
          · exact absurd hcall hkind
          · exact hwrapper
        have hnonempty := start_lt_stop_of_wrapperName?
          (h.of_mem (Node.mem_nodes_of_mem_sites ht.1)) hwrapper
        omega
      · have := (hrange hs.1 hin).1
        omega
      · have := (h.of_mem (Node.mem_nodes_of_mem_sites hs.1)).start_le_stop
        omega

/-! ## Wrapper calls that are bound -/

/-- The call `memo(f)` at an offset. -/
def memoCallAt (o : Nat) (field : Field) : Node :=
  .mk { kind := .callExpression, start := o, stop := o + 7, field := some field } [
    .mk { kind := .identifier, start := o, stop := o + 4, field := some .function } [],
    .mk { kind := .arguments, start := o + 4, stop := o + 7, field := some .arguments } [
      .mk { kind := .other "(", start := o + 4, stop := o + 5, named := false } [],
      .mk { kind := .identifier, start := o + 5, stop := o + 6 } [],
      .mk { kind := .other ")", start := o + 6, stop := o + 7, named := false } []]]

/-- The file `const A = memo(f), B = memo(f);`. -/
def boundCalls : SourceTree where
  source := Bytes.ofText "const A = memo(f), B = memo(f);"
  root :=
    .mk { kind := .program, start := 0, stop := 31 } [
      .mk { kind := .lexicalDeclaration, start := 0, stop := 31 } [
        .mk { kind := .other "const", start := 0, stop := 5, named := false, field := some (.other "kind") } [],
        .mk { kind := .variableDeclarator, start := 6, stop := 17 } [
          .mk { kind := .identifier, start := 6, stop := 7, field := some .name } [],
          .mk { kind := .other "=", start := 8, stop := 9, named := false } [],
          memoCallAt 10 .value],
        .mk { kind := .other ",", start := 17, stop := 18, named := false } [],
        .mk { kind := .variableDeclarator, start := 19, stop := 30 } [
          .mk { kind := .identifier, start := 19, stop := 20, field := some .name } [],
          .mk { kind := .other "=", start := 21, stop := 22, named := false } [],
          memoCallAt 23 .value],
        .mk { kind := .other ";", start := 30, stop := 31, named := false } []]]

/-- The file `const { a = memo(f) } = memo(f);`. -/
def patternDefault : SourceTree where
  source := Bytes.ofText "const \x7b a = memo(f) \x7d = memo(f);"
  root :=
    .mk { kind := .program, start := 0, stop := 32 } [
      .mk { kind := .lexicalDeclaration, start := 0, stop := 32 } [
        .mk { kind := .other "const", start := 0, stop := 5, named := false, field := some (.other "kind") } [],
        .mk { kind := .variableDeclarator, start := 6, stop := 31 } [
          .mk { kind := .objectPattern, start := 6, stop := 21, field := some .name } [
            .mk { kind := .other "\x7b", start := 6, stop := 7, named := false } [],
            .mk { kind := .objectAssignmentPattern, start := 8, stop := 19 } [
              .mk { kind := .shorthandPattern, start := 8, stop := 9, field := some .left } [],
              .mk { kind := .other "=", start := 10, stop := 11, named := false } [],
              memoCallAt 12 (.other "right")],
            .mk { kind := .other "\x7d", start := 20, stop := 21, named := false } []],
          .mk { kind := .other "=", start := 22, stop := 23, named := false } [],
          memoCallAt 24 .value],
        .mk { kind := .other ";", start := 31, stop := 32, named := false } []]]

instance (n : Node) : Decidable (HoldsMarkup n) := inferInstanceAs (Decidable (∃ m ∈ n.nodes, _))

/-- The file `boundCalls` holds no markup, so that its two wrapped components are not listed. -/
theorem analyzeTree_components_boundCalls :
    (∀ n ∈ boundCalls.root.nodes, HoldsMarkup n → n.named = true) ∧
      (analyzeTree boundCalls).components = [] ∧ (classifyComponents boundCalls).length = 2 ∧
      ∀ c ∈ classifyComponents boundCalls, c.kind = .classBased ∨ ∃ w ∈ wrappers, c.wrappedIn = .str w := by
  have hnone : ¬ HoldsMarkup boundCalls.root := by decide +kernel
  have hnamed : ∀ n ∈ boundCalls.root.nodes, HoldsMarkup n → n.named = true := fun n hn h =>
    absurd (h.of_mem hn) hnone
  obtain ⟨hempty, hkinds⟩ := (analyzeTree_components boundCalls hnamed).2 hnone
  exact ⟨hnamed, hempty, by decide +kernel, hkinds⟩

/-- The components of `boundCalls` are in order. -/
theorem inSourceOrder_boundCalls :
    boundCalls.root.WellNested ∧ InSourceOrder (classifyComponents boundCalls) := by
  have hnested : boundCalls.root.WellNested := by decide +kernel
  refine ⟨hnested, (inSourceOrder_iff boundCalls hnested).mpr ?_⟩
  rintro s t ⟨hlisted, -, p, hbound, hin, hlt⟩
  -- nothing in a declarator starts where the other component does
  have hapart : ∀ t ∈ declaringSites boundCalls, ∀ p ∈ bindingDeclarator? t,
      ∀ s ∈ declaringSites boundCalls, p.start < (anchorSite s).node.start →
        ∀ m ∈ p.walk.tail, m.start ≠ s.node.start := by decide +kernel
  have hs := hlisted.subset List.mem_cons_self
  have ht := hlisted.subset (List.mem_cons_of_mem _ (List.mem_singleton_self t))
  exact hapart t ht p hbound s hs hlt s.node hin rfl

/-- The call in the pattern is listed in front of the declarator that it lies in. -/
theorem not_inSourceOrder_patternDefault :
    patternDefault.root.WellNested ∧
      (classifyComponents patternDefault).map (·.declarationStart) = [.int 12, .int 6] ∧
      ¬ InSourceOrder (classifyComponents patternDefault) := by
  have hstarts : (declaringSites patternDefault).map (fun s => (anchorSite s).node.start) = [12, 6] := by
    decide +kernel
  refine ⟨by decide +kernel, by rw [declarationStart_classifyComponents, hstarts]; rfl, ?_⟩
  rw [inSourceOrder_iff_pairwise, ← List.pairwise_map (R := (· ≤ ·)), hstarts]
  decide

end JsxTagger.Classify
