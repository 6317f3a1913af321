import JsxTagger.Proofs.Instrument.Completion

/-!
# Scopes that lie apart

Scopes that do not overlap and start at different places are instrumented independently of each other. In
a tree where it can be told where the changes of a scope lie (`Delimited`), every change starts inside its
scope (`Delimited.change_within`), so nothing that was dealt with for other scopes is met again
(`Delimited.clear_planned`). A further scope adds its own acts to those of scopes it lies apart from
(`planned_concat_of_clear`), and none if it was among them (`planned_concat_of_mem`).

So what is planned at one offset depends on the scope there, and not on where it stands among the scopes
(`Delimited.changesAt_eq_of_perm`).
-/

namespace JsxTagger.Instrument

open Classify Syntax

variable {room : Nat}

/-! ## Where changes lie -/

/-- Whether a node has room for two brackets, with what it holds between them. -/
def hasBrackets (n : Node) : Bool :=
  decide (n.start + 1 < n.stop) &&
    n.namedChildren.all fun c => decide (n.start < c.start) && decide (c.stop < n.stop)

theorem hasBrackets_iff {n : Node} :
    hasBrackets n = true ↔
      n.start + 1 < n.stop ∧ ∀ c ∈ n.namedChildren, n.start < c.start ∧ c.stop < n.stop := by
  simp [hasBrackets]

/-- What tells where the changes of a scope lie. -/
structure Delimited (root : Node) : Prop where
  /-- Nodes hold their children in order and without overlap. -/
  nested : root.WellNested
  /-- A tag without a closing one has a name. -/
  named : ∀ n ∈ root.nodes, n.kind = .jsxSelfClosingElement → (n.child? .name).isSome = true
  /-- A tag ends behind its name and its attributes. -/
  tags : ∀ n ∈ root.nodes, isOpeningElement n = true →
    (∀ name ∈ n.child? .name, name.stop < n.stop) ∧ ∀ a ∈ attributes n, a.stop < n.stop
  /-- The bare parameter of a function is not empty. -/
  bare : ∀ n ∈ root.nodes, isFunction n = true → ∀ name ∈ n.child? .parameter, name.start < name.stop
  /-- Parameter lists include their brackets. -/
  lists : ∀ n ∈ root.nodes, ∀ list ∈ n.child? .parameters, hasBrackets list = true
  /-- Object patterns include their brackets. -/
  patterns : ∀ n ∈ root.nodes, n.kind = .objectPattern → hasBrackets n = true

instance (root : Node) : Decidable (Delimited root) :=
  decidable_of_iff
    (root.WellNested ∧
      (∀ n ∈ root.nodes, n.kind = .jsxSelfClosingElement → (n.child? .name).isSome = true) ∧
      (∀ n ∈ root.nodes, isOpeningElement n = true →
        (∀ name ∈ n.child? .name, name.stop < n.stop) ∧ ∀ a ∈ attributes n, a.stop < n.stop) ∧
      (∀ n ∈ root.nodes, isFunction n = true → ∀ name ∈ n.child? .parameter, name.start < name.stop) ∧
      (∀ n ∈ root.nodes, ∀ list ∈ n.child? .parameters, hasBrackets list = true) ∧
      ∀ n ∈ root.nodes, n.kind = .objectPattern → hasBrackets n = true)
    ⟨fun ⟨a, b, c, d, e, f⟩ => ⟨a, b, c, d, e, f⟩, fun ⟨a, b, c, d, e, f⟩ => ⟨a, b, c, d, e, f⟩⟩

/-- A scope of a tree is a class or a function in it. -/
structure Scope.IsIn (root : Node) (s : Scope) : Prop where
  mem : s.node ∈ root.nodes
  function : s.node.kind.isClass = false → isFunction s.node = true

theorem isIn_of_mem_boundScopes {tree : SourceTree} {cs : List Component} {s : Scope}
    (h : s ∈ boundScopes room tree cs) : s.IsIn tree.root :=
  ⟨mem_nodes_of_mem_boundScopes h, isFunction_of_mem_boundScopes h⟩

theorem mem_namedChildren_of_mem_entries {n c : Node} (h : c ∈ entries n) : c ∈ n.namedChildren :=
  (List.mem_filter.mp h).1

namespace Delimited

variable {root : Node} {source : Bytes} {ids : IdStream} {drawn : Nat} (h : Delimited root)

include h

/-- Attributes are put inside their tag. -/
theorem attributePlace_within {e : Node} (he : e ∈ root.nodes) (hopening : isOpeningElement e = true) :
    e.start ≤ attributePlace e ∧ attributePlace e < e.stop := by
  have hname : ∃ name, e.child? .name = some name := by
    apply Option.isSome_iff_exists.mp
    rw [isOpeningElement, Bool.or_eq_true, Bool.and_eq_true, beq_iff_eq, beq_iff_eq] at hopening
    rcases hopening with hkind | ⟨-, hname⟩
    · exact h.named e he hkind
    · exact hname
  obtain ⟨-, c, hc, hplace, hcase⟩ := attributePlace_cases hname
  have hstop : c.stop < e.stop := by
    obtain ⟨hnames, hattributes⟩ := h.tags e he hopening
    rcases hcase with hattribute | hname
    · exact hattributes c hattribute
    · exact hnames c hname
  have hin := Node.mem_nodes_of_mem_children hc
  have hrange := (h.nested.of_mem he).range hin
  have hle := ((h.nested.of_mem he).of_mem hin).start_le_stop
  omega

/-- A field is added between the braces of its pattern. -/
theorem fieldChange_within {pattern : Node} (hpattern : pattern ∈ root.nodes)
    (hkind : pattern.kind = .objectPattern) :
    pattern.start ≤ (fieldChange pattern).start ∧ (fieldChange pattern).start < pattern.stop ∧
      (fieldChange pattern).start = (fieldChange pattern).stop := by
  obtain ⟨hroom, hbetween⟩ := hasBrackets_iff.mp (h.patterns pattern hpattern hkind)
  have hinside {n : Node} (hn : n ∈ entries pattern) :
      pattern.start < n.start ∧ n.start ≤ n.stop ∧ n.stop < pattern.stop := by
    have hle := (h.nested.of_mem (Node.mem_nodes_trans hpattern (mem_entries hn))).start_le_stop
    obtain ⟨hlo, hhi⟩ := hbetween n (mem_namedChildren_of_mem_entries hn)
    exact ⟨hlo, hle, hhi⟩
  rw [fieldChange]
  split
  · rename_i rest _ hrest
    have hrange := hinside (List.mem_of_find?_eq_some hrest)
    exact ⟨by dsimp only; omega, by dsimp only; omega, rfl⟩
  · rename_i last _ hlast
    have hrange := hinside (List.mem_of_getLast? hlast)
    exact ⟨by dsimp only; omega, by dsimp only; omega, rfl⟩
  · exact ⟨by dsimp only; omega, by dsimp only; omega, rfl⟩

/-- The change to the parameters of a function starts inside the function. -/
theorem change?_within {f : Node} {c : Change} (hf : f ∈ root.nodes) (hfunction : isFunction f = true)
    (hc : (passing source f).change? source f = some c) :
    f.start ≤ c.start ∧ c.start < f.stop ∧ c.start ≤ c.stop := by
  have hin {n : Node} (hn : n ∈ f.nodes) : f.start ≤ n.start ∧ n.stop ≤ f.stop :=
    (h.nested.of_mem hf).range hn
  cases ThreadChange.of_change? hc with
  | field hpassing =>
    obtain ⟨hpattern, hkind⟩ := passing_eq_field hpassing
    have hrange := h.fieldChange_within (Node.mem_nodes_trans hf hpattern) hkind
    have hpin := hin hpattern
    omega
  | @list list _ _ _ hlist _ =>
    obtain ⟨hroom, -⟩ := hasBrackets_iff.mp (h.lists f hf list hlist)
    have hlin := hin (Node.mem_nodes_of_child? hlist)
    dsimp only
    omega
  | @bare bare _ _ _ hbare =>
    have hwide := h.bare f hf hfunction bare hbare
    have hbin := hin (Node.mem_nodes_of_child? hbare)
    dsimp only
    omega

/-- The tags of a scope start inside it. -/
theorem start_within {s : Scope} {e : Node} (hs : s.IsIn root) (he : e ∈ s.elements) :
    s.node.start ≤ e.start ∧ e.start ≤ attributePlace e ∧ attributePlace e < s.node.stop := by
  have hin := mem_nodes_of_mem_elements he
  have hplace := h.attributePlace_within (Node.mem_nodes_trans hs.mem hin) (List.mem_filter.mp he).2
  have hrange := (h.nested.of_mem hs.mem).range hin
  omega

/-- Every change starts inside one of the scopes. -/
theorem change_within {scopes : List Scope} {c : Change} (hscopes : ∀ s ∈ scopes, s.IsIn root)
    (hc : c ∈ changesOf source ids drawn (planned source scopes)) :
    ∃ s ∈ scopes, s.node.start ≤ c.start ∧ c.start < s.node.stop ∧ c.start ≤ c.stop := by
  obtain ⟨a, ha, n, hc⟩ := mem_changesOf hc
  have hbelongs := belongs_of_mem_planned ha
  have hplaced {s : Scope} {e : Node} {text : String} (hs : s ∈ scopes) (he : e ∈ s.elements)
      (hc : c = ⟨attributePlace e, attributePlace e, text⟩) :
      ∃ s ∈ scopes, s.node.start ≤ c.start ∧ c.start < s.node.stop ∧ c.start ≤ c.stop := by
    have hrange := h.start_within (hscopes s hs) he
    subst hc
    exact ⟨s, hs, by dsimp only; omega, by dsimp only; omega, le_refl _⟩
  cases a with
  | tag e =>
    obtain ⟨s, hs, he⟩ := hbelongs
    exact hplaced hs he (List.mem_singleton.mp hc)
  | root e name reference =>
    obtain ⟨s, hs, he, -⟩ := hbelongs
    exact hplaced hs he (List.mem_singleton.mp hc)
  | thread f =>
    obtain ⟨s, hs, rfl, hclass⟩ := hbelongs
    rw [changesOf, changesOf, List.append_nil, Option.mem_toList] at hc
    exact ⟨s, hs, h.change?_within (hscopes s hs).mem ((hscopes s hs).function hclass) hc⟩

end Delimited

/-! ## Acts that do not meet a scope -/

/-- Two scopes do not overlap and start at different places. -/
def Scope.Apart (s t : Scope) : Prop :=
  (s.node.stop ≤ t.node.start ∨ t.node.stop ≤ s.node.start) ∧ s.node.start ≠ t.node.start

/-- None of the acts is about something that starts where the scope or one of its tags does. -/
structure Act.Clear (acts : List Act) (s : Scope) : Prop where
  tags : ∀ e ∈ s.elements, ∀ d ∈ Act.tags acts, d.start ≠ e.start
  roots : ∀ e ∈ s.elements, ∀ r ∈ Act.roots acts, r.1.start ≠ e.start
  threads : ∀ f ∈ Act.threads acts, f.start ≠ s.node.start

/-- The acts of scopes do not meet a scope that lies apart from them. -/
theorem Delimited.clear_planned {root : Node} (h : Delimited root) {source : Bytes} {scopes : List Scope}
    {s : Scope} (hscopes : ∀ t ∈ scopes, t.IsIn root) (hs : s.IsIn root)
    (hapart : ∀ t ∈ scopes, s.Apart t) : Act.Clear (planned source scopes) s := by
  have hne {t : Scope} {d e : Node} (ht : t ∈ scopes) (hd : d ∈ t.elements) (he : e ∈ s.elements) :
      d.start ≠ e.start := by
    have hdrange := h.start_within (hscopes t ht) hd
    have herange := h.start_within hs he
    have hlies := (hapart t ht).1
    omega
  refine ⟨fun e he d hd => ?_, fun e he ⟨d, name, reference⟩ hr => ?_, fun f hf => ?_⟩
  · rw [tags_planned] at hd
    obtain ⟨t, ht, hdt⟩ := List.mem_flatMap.mp (List.mem_filter.mp (mem_of_mem_firsts hd)).1
    exact hne ht hdt he
  · obtain ⟨t, ht, hdt, -⟩ := belongs_of_mem_planned (mem_of_mem_roots hr)
    exact hne ht hdt he
  · obtain ⟨t, ht, rfl, -⟩ := belongs_of_mem_planned (mem_of_mem_threads hf)
    exact (hapart t ht).2.symm

section Acts

variable {source : Bytes} {acts bs : List Act} {s : Scope}

theorem addTag_append {e : Node} (h : ∀ d ∈ Act.tags acts, d.start ≠ e.start) :
    Act.addTag source (acts ++ bs) e = acts ++ Act.addTag source bs e := by
  have hnone : (Act.tags acts).any (·.start == e.start) = false := by simpa using h
  rw [Act.addTag, Act.addTag, Act.tags_append, List.any_append, hnone, Bool.false_or]
  split
  · rfl
  · rw [List.append_assoc]

theorem addTags_append {es : List Node} (h : ∀ e ∈ es, ∀ d ∈ Act.tags acts, d.start ≠ e.start) :
    Act.addTags source (acts ++ bs) es = acts ++ Act.addTags source bs es := by
  induction es generalizing bs with
  | nil => rfl
  | cons e es ih =>
    obtain ⟨he, hes⟩ := List.forall_mem_cons.mp h
    rw [Act.addTags, List.foldl_cons, ← Act.addTags, addTag_append he, ih hes]
    rfl

theorem addRoot_append {e : Node} {name reference : String}
    (h : ∀ r ∈ Act.roots acts, r.1.start ≠ e.start) :
    Act.addRoot source (acts ++ bs) e name reference = acts ++ Act.addRoot source bs e name reference := by
  have hnone : (Act.roots acts).any (·.1.start == e.start) = false := by simpa using h
  rw [Act.addRoot, Act.addRoot, Act.roots_append, List.any_append, hnone, Bool.false_or]
  split
  · rfl
  · rw [List.append_assoc]

theorem addElements_append {name reference : String} {es : List Node}
    (htags : ∀ e ∈ es, ∀ d ∈ Act.tags acts, d.start ≠ e.start)
    (hroots : ∀ e ∈ es, ∀ r ∈ Act.roots acts, r.1.start ≠ e.start) :
    Act.addElements source (acts ++ bs) name reference es =
      acts ++ Act.addElements source bs name reference es := by
  cases es with
  | nil => rfl
  | cons first rest =>
    obtain ⟨hfirst, hrest⟩ := List.forall_mem_cons.mp htags
    rw [Act.addElements, addTag_append hfirst, addRoot_append (hroots first List.mem_cons_self),
      addTags_append hrest, Act.addElements]

theorem addThread_append {f : Node} (h : ∀ g ∈ Act.threads acts, g.start ≠ f.start) :
    Act.addThread (acts ++ bs) f = acts ++ Act.addThread bs f := by
  have hnone : (Act.threads acts).any (·.start == f.start) = false := by simpa using h
  rw [Act.addThread, Act.addThread, Act.threads_append, List.any_append, hnone, Bool.false_or]
  split
  · rfl
  · rw [List.append_assoc]

theorem reference_append {f : Node} (h : ∀ g ∈ Act.threads acts, g.start ≠ f.start) :
    Act.reference source (acts ++ bs) f = Act.reference source bs f := by
  have hnone : (Act.threads acts).reverse.find? (·.start == f.start) = none := by simpa using h
  rw [Act.reference, Act.reference, Act.threads_append, List.reverse_append, List.find?_append, hnone,
    Option.or_none]

/-- A scope adds the same acts behind acts that do not meet it. -/
theorem addScope_append (h : Act.Clear acts s) :
    Act.addScope source (acts ++ bs) s = acts ++ Act.addScope source bs s := by
  rw [Act.addScope, Act.addScope]
  split
  · exact addElements_append h.tags h.roots
  · rw [addThread_append h.threads, reference_append h.threads, addElements_append h.tags h.roots]

theorem planned_concat_of_clear {scopes : List Scope} (h : Act.Clear (planned source scopes) s) :
    planned source (scopes ++ [s]) = planned source scopes ++ planned source [s] := by
  have happend : Act.addScope source (planned source scopes ++ []) s =
      planned source scopes ++ Act.addScope source [] s := addScope_append h
  rw [List.append_nil] at happend
  rw [planned, List.foldl_append, ← planned]
  exact happend

/-! ## Acts that were carried out -/

theorem addTags_eq_self {es : List Node} (h : ∀ e ∈ es, Act.addTag source acts e = acts) :
    Act.addTags source acts es = acts := by
  induction es with
  | nil => rfl
  | cons e es ih =>
    obtain ⟨he, hes⟩ := List.forall_mem_cons.mp h
    rw [Act.addTags, List.foldl_cons, he]
    exact ih hes

/-- A scope adds nothing behind its own acts. -/
theorem planned_concat_of_mem {scopes : List Scope} (h : s ∈ scopes) :
    planned source (scopes ++ [s]) = planned source scopes := by
  -- all tags of the scope were dealt with when it was first planned
  have htag : ∀ e ∈ s.elements, Act.addTag source (planned source scopes) e = planned source scopes := by
    intro e he
    rw [Act.addTag, if_pos]
    rw [Bool.or_eq_true, tags_planned, any_firsts, List.any_eq_true]
    cases hhas : hasAttribute source e elementIdAttribute with
    | true => exact .inr rfl
    | false =>
      refine .inl ⟨e, List.mem_filter.mpr ⟨List.mem_flatMap.mpr ⟨s, h, he⟩, ?_⟩, by simp⟩
      rw [lacks, hhas]
      rfl
  have hroot (reference : String) : ∀ e ∈ s.elements.head?,
      Act.addRoot source (planned source scopes) e s.name reference = planned source scopes := by
    intro e he
    have hbound : (Act.roots (planned source scopes)).any (·.1.start == e.start) =
        ((Act.roots (planned source scopes)).map rootName).any (·.1.start == e.start) := by
      rw [List.any_map]
      rfl
    rw [Act.addRoot, if_pos]
    rw [Bool.or_eq_true, hbound, roots_planned, any_firsts, List.any_eq_true]
    cases hhas : hasAttribute source e componentNameAttribute with
    | true => exact .inr rfl
    | false =>
      refine .inl ⟨(e, s.name), List.mem_filter.mpr ⟨List.mem_filterMap.mpr ⟨s, h, ?_⟩, ?_⟩, by simp⟩
      · rw [Scope.root?, Option.mem_def.mp he]
        rfl
      · rw [lacks, hhas]
        rfl
  have helements (reference : String) :
      Act.addElements source (planned source scopes) s.name reference s.elements = planned source scopes := by
    cases hes : s.elements with
    | nil => rfl
    | cons first rest =>
      rw [hes] at htag hroot
      rw [Act.addElements, htag first List.mem_cons_self, hroot reference first rfl]
      exact addTags_eq_self fun e he => htag e (List.mem_cons_of_mem first he)
  rw [planned, List.foldl_append, ← planned, List.foldl_cons, List.foldl_nil, Act.addScope]
  split
  · exact helements _
  · rename_i hclass
    have hthread : Act.addThread (planned source scopes) s.node = planned source scopes := by
      rw [Act.addThread, if_pos]
      rw [threads_planned, any_firsts, List.any_eq_true]
      exact ⟨s.node, List.mem_filter.mpr ⟨List.mem_map_of_mem h, by simpa using hclass⟩, by simp⟩
    rw [hthread]
    exact helements _

end Acts

/-! ## What is planned at one offset -/

theorem Scope.Apart.symm {s t : Scope} (h : s.Apart t) : t.Apart s := ⟨h.1.symm, h.2.symm⟩

/-- Whether an offset lies inside a scope. -/
def Scope.Covers (s : Scope) (offset : Int) : Prop := s.node.start ≤ offset ∧ offset < s.node.stop

theorem Scope.Apart.not_covers {s t : Scope} {offset : Int} (h : s.Apart t) (hs : s.Covers offset) :
    ¬ t.Covers offset := by
  have hlies := h.1
  unfold Scope.Covers at hs ⊢
  omega

/-- Where every id is the same, it does not matter how many were drawn. -/
theorem changesOf_sameId (source : Bytes) (id : String) (drawn : Nat) (acts : List Act) :
    changesOf source (fun _ => id) drawn acts = changesOf source (fun _ => id) 0 acts :=
  changesOf_congr fun _ _ => rfl

/-- The changes of scopes that start at an offset, where every id is the same. -/
def changesAt (source : Bytes) (id : String) (scopes : List Scope) (offset : Int) : List Change :=
  (changesOf source (fun _ => id) 0 (planned source scopes)).filter fun c => (c.start : Int) = offset

namespace Delimited

variable {root : Node} {source : Bytes} {id : String} {scopes : List Scope} (h : Delimited root)

include h

/-- Nothing is planned where there is no scope. -/
theorem changesAt_eq_nil (hscopes : ∀ s ∈ scopes, s.IsIn root) {offset : Int}
    (hnone : ∀ s ∈ scopes, ¬ s.Covers offset) : changesAt source id scopes offset = [] := by
  refine List.filter_eq_nil_iff.mpr fun c hc hstart => ?_
  obtain ⟨s, hs, hrange⟩ := h.change_within hscopes hc
  refine hnone s hs ?_
  unfold Scope.Covers
  have hstart := of_decide_eq_true hstart
  omega

/-- What is planned where there is a scope is what the scope plans by itself. -/
theorem changesAt_eq_of_covers (hscopes : ∀ s ∈ scopes, s.IsIn root)
    (hapart : scopes.Pairwise fun s t => s = t ∨ s.Apart t) {s : Scope} (hs : s ∈ scopes) {offset : Int}
    (hcovers : s.Covers offset) :
    changesAt source id scopes offset = changesAt source id [s] offset := by
  induction scopes using List.reverseRecOn with
  | nil => cases hs
  | append_singleton scopes t ih =>
    obtain ⟨hinit, ht⟩ := List.forall_mem_append.mp hscopes
    obtain ⟨hrest, -, hlast⟩ := List.pairwise_append.mp hapart
    -- the last scope plans nothing if it is one of the others, and else it lies apart from all of them
    by_cases hmem : t ∈ scopes
    · have hs : s ∈ scopes := by
        rcases List.mem_append.mp hs with hs | hs
        · exact hs
        · exact List.mem_singleton.mp hs ▸ hmem
      rw [changesAt, planned_concat_of_mem hmem]
      exact ih hinit hrest hs
    · have hlast : ∀ u ∈ scopes, u.Apart t := fun u hu =>
        (hlast u hu t (List.mem_singleton_self t)).resolve_left fun heq => hmem (heq ▸ hu)
      have hclear : Act.Clear (planned source scopes) t :=
        h.clear_planned hinit (ht t (List.mem_singleton_self t)) fun u hu => (hlast u hu).symm
      have hsplit : changesAt source id (scopes ++ [t]) offset =
          changesAt source id scopes offset ++ changesAt source id [t] offset := by
        rw [changesAt, planned_concat_of_clear hclear, changesOf_append, List.filter_append,
          changesOf_sameId source id (0 + _)]
        rfl
      rw [hsplit]
      rcases List.mem_append.mp hs with hs | hs
      · have hnone : ∀ u ∈ [t], ¬ u.Covers offset :=
          List.forall_mem_singleton.mpr ((hlast s hs).not_covers hcovers)
        rw [h.changesAt_eq_nil ht hnone, List.append_nil]
        exact ih hinit hrest hs
      · obtain rfl := List.mem_singleton.mp hs
        rw [h.changesAt_eq_nil hinit fun u hu => (hlast u hu).symm.not_covers hcovers,
          List.nil_append]

/-- What is planned at an offset does not depend on the order of the scopes. -/
theorem changesAt_eq_of_perm {scopes' : List Scope} (hscopes : ∀ s ∈ scopes, s.IsIn root)
    (hapart : scopes.Pairwise fun s t => s = t ∨ s.Apart t) (hperm : scopes.Perm scopes')
    (offset : Int) : changesAt source id scopes offset = changesAt source id scopes' offset := by
  have hscopes' : ∀ s ∈ scopes', s.IsIn root := fun s hs => hscopes s (hperm.mem_iff.mpr hs)
  have hapart' := hperm.pairwise hapart fun h => h.imp Eq.symm Scope.Apart.symm
  by_cases hsome : ∃ s ∈ scopes, s.Covers offset
  · obtain ⟨s, hs, hcovers⟩ := hsome
    rw [h.changesAt_eq_of_covers hscopes hapart hs hcovers,
      h.changesAt_eq_of_covers hscopes' hapart' (hperm.mem_iff.mp hs) hcovers]
  · have hnone : ∀ s ∈ scopes, ¬ s.Covers offset := fun s hs hcovers => hsome ⟨s, hs, hcovers⟩
    rw [h.changesAt_eq_nil hscopes hnone,
      h.changesAt_eq_nil hscopes' fun s hs => hnone s (hperm.mem_iff.mpr hs)]

end Delimited

end JsxTagger.Instrument
