import Mathlib.Data.List.Induction
import Mathlib.Data.List.Nodup
import JsxTagger.Proofs.Instrument.Obstacles

/-!
# What exactly is planned

Scopes may overlap or repeat, and a planner only remembers starts. `firsts` is the list operation
behind that: of the members with one key, the first is kept. The acts of a sequence of scopes are
computed by it (`tags_planned`, `roots_planned`, `threads_planned`), and in a tree whose tags have
starts of their own nothing is lost and nothing is planned twice (`plan_exact`).
-/

namespace JsxTagger.Instrument

open Classify Syntax

variable {room : Nat}

/-! ## Keeping the first of a kind -/

section Firsts

variable {α : Type} {key : α → Nat}

/-- Appends a member, unless one with the same key is there. -/
def addFirst (key : α → Nat) (kept : List α) (x : α) : List α :=
  if kept.any (key · == key x) then kept else kept ++ [x]

/-- The members of a list whose key has not come up before them. -/
def firsts (key : α → Nat) (xs : List α) : List α := xs.foldl (addFirst key) []

theorem firsts_append_singleton (xs : List α) (x : α) :
    firsts key (xs ++ [x]) = addFirst key (firsts key xs) x := by
  rw [firsts, List.foldl_append]
  rfl

/-- Every key that comes up is kept. -/
theorem any_firsts (xs : List α) (k : Nat) :
    (firsts key xs).any (key · == k) = xs.any (key · == k) := by
  induction xs using List.reverseRecOn with
  | nil => rfl
  | append_singleton xs x ih =>
    rw [firsts_append_singleton, addFirst, List.any_append, ← ih]
    split
    · rename_i hseen
      by_cases hk : key x = k
      · rw [hk] at hseen
        simp [hseen]
      · simp [hk]
    · simp

theorem nodup_firsts (key : α → Nat) (xs : List α) : ((firsts key xs).map key).Nodup := by
  induction xs using List.reverseRecOn with
  | nil => exact List.nodup_nil
  | append_singleton xs x ih =>
    rw [firsts_append_singleton, addFirst]
    split
    · exact ih
    · rename_i hfresh
      rw [List.map_append, List.map_singleton, List.nodup_append]
      refine ⟨ih, List.pairwise_singleton _ _, ?_⟩
      intro k hk k' hk' heq
      obtain ⟨y, hy, rfl⟩ := List.mem_map.mp hk
      rw [List.mem_singleton.mp hk'] at heq
      exact hfresh (List.any_eq_true.mpr ⟨y, hy, by simp [heq]⟩)

/-- A member is kept exactly if no member in front of it has its key. -/
theorem mem_firsts {xs : List α} {x : α} :
    x ∈ firsts key xs ↔ ∃ ys zs, xs = ys ++ x :: zs ∧ ∀ y ∈ ys, key y ≠ key x := by
  induction xs using List.reverseRecOn with
  | nil => simp [firsts]
  | append_singleton xs a ih =>
    have hkept : x ∈ firsts key xs →
        ∃ ys zs, xs ++ [a] = ys ++ x :: zs ∧ ∀ y ∈ ys, key y ≠ key x := by
      intro h
      obtain ⟨ys, zs, rfl, hys⟩ := ih.mp h
      exact ⟨ys, zs ++ [a], by simp, hys⟩
    rw [firsts_append_singleton, addFirst, any_firsts]
    constructor
    · intro h
      split at h
      · exact hkept h
      · rename_i hfresh
        rcases List.mem_append.mp h with h | h
        · exact hkept h
        · cases List.mem_singleton.mp h
          refine ⟨xs, [], rfl, fun y hy hkey => hfresh ?_⟩
          exact List.any_eq_true.mpr ⟨y, hy, by simp [hkey]⟩
    · rintro ⟨ys, zs, heq, hys⟩
      -- the member is the last one, or it was there before
      rcases List.eq_nil_or_concat' zs with rfl | ⟨zs, b, rfl⟩
      · obtain ⟨rfl, hlast⟩ := List.append_inj' heq rfl
        cases hlast
        rw [if_neg]
        · simp
        · simpa using hys
      · rw [← List.cons_append, ← List.append_assoc] at heq
        obtain ⟨hfront, -⟩ := List.append_inj' heq rfl
        have hx := ih.mpr ⟨ys, zs, hfront, hys⟩
        split
        · exact hx
        · exact List.mem_append_left _ hx

theorem mem_of_mem_firsts {xs : List α} {x : α} (h : x ∈ firsts key xs) : x ∈ xs := by
  obtain ⟨ys, zs, rfl, -⟩ := mem_firsts.mp h
  simp

/-- If no two members share a key, none is lost. -/
theorem mem_firsts_of_injective {xs : List α} {x : α} (hx : x ∈ xs)
    (hkey : ∀ y ∈ xs, key y = key x → y = x) : x ∈ firsts key xs := by
  have hany : (firsts key xs).any (key · == key x) = true := by
    rw [any_firsts]
    exact List.any_eq_true.mpr ⟨x, hx, by simp⟩
  obtain ⟨y, hy, hyx⟩ := List.any_eq_true.mp hany
  rw [← hkey y (mem_of_mem_firsts hy) (by simpa using hyx)]
  exact hy

/-- A value that a partial function gives is kept exactly if it is given at some place and no value
given in front of it has its key. -/
theorem mem_firsts_filterMap {β : Type} {f : β → Option α} {bs : List β} {x : α} :
    x ∈ firsts key (bs.filterMap f) ↔
      ∃ before b after, bs = before ++ b :: after ∧ f b = some x ∧
        ∀ c ∈ before, ∀ y, f c = some y → key y ≠ key x := by
  rw [mem_firsts]
  constructor
  · rintro ⟨ys, zs, heq, hys⟩
    obtain ⟨front, back, rfl, rfl, hback⟩ := List.filterMap_eq_append_iff.mp heq
    obtain ⟨skipped, b, after, rfl, hskipped, hb, -⟩ := List.filterMap_eq_cons_iff.mp hback
    refine ⟨front ++ skipped, b, after, by simp, hb, ?_⟩
    intro c hc y hy
    rcases List.mem_append.mp hc with hc | hc
    · exact hys y (List.mem_filterMap.mpr ⟨c, hc, hy⟩)
    · rw [hskipped c hc] at hy
      cases hy
  · rintro ⟨before, b, after, rfl, hb, hbefore⟩
    refine ⟨before.filterMap f, after.filterMap f, ?_, ?_⟩
    · rw [List.filterMap_append, List.filterMap_cons_some hb]
    · intro y hy
      obtain ⟨c, hc, hcy⟩ := List.mem_filterMap.mp hy
      exact hbefore c hc y hcy

end Firsts

/-! ## The acts of a sequence of scopes -/

section Planned

variable {source : Bytes}

/-- Whether a tag lacks an attribute. -/
def lacks (source : Bytes) (name : String) (element : Node) : Bool :=
  !hasAttribute source element name

/-- The tag that a scope binds, with the name it is bound to. -/
def Scope.root? (s : Scope) : Option (Node × String) := s.elements.head?.map (·, s.name)

/-- A bound tag without the expression for the identity. -/
def rootName (r : Node × String × String) : Node × String := (r.1, r.2.1)

theorem tags_addTag (acts : List Act) (element : Node) :
    Act.tags (Act.addTag source acts element) =
      if lacks source elementIdAttribute element then addFirst Node.start (Act.tags acts) element
      else Act.tags acts := by
  rw [Act.addTag, lacks, addFirst]
  cases (Act.tags acts).any (·.start == element.start) <;>
    cases hasAttribute source element elementIdAttribute <;> simp

theorem tags_addRoot (acts : List Act) (element : Node) (name reference : String) :
    Act.tags (Act.addRoot source acts element name reference) = Act.tags acts := by
  rw [Act.addRoot]
  split <;> simp

theorem tags_addThread (acts : List Act) (function : Node) :
    Act.tags (Act.addThread acts function) = Act.tags acts := by
  rw [Act.addThread]
  split <;> simp

theorem tags_addTags (acts : List Act) (elements : List Node) :
    Act.tags (Act.addTags source acts elements) =
      (elements.filter (lacks source elementIdAttribute)).foldl (addFirst Node.start)
        (Act.tags acts) := by
  induction elements generalizing acts with
  | nil => rfl
  | cons element elements ih =>
    rw [Act.addTags, List.foldl_cons, ← Act.addTags, ih, tags_addTag, List.filter_cons]
    split <;> rfl

theorem tags_addElements (acts : List Act) (name reference : String) (elements : List Node) :
    Act.tags (Act.addElements source acts name reference elements) =
      (elements.filter (lacks source elementIdAttribute)).foldl (addFirst Node.start)
        (Act.tags acts) := by
  cases elements with
  | nil => rfl
  | cons first rest =>
    rw [Act.addElements, tags_addTags, tags_addRoot, tags_addTag, List.filter_cons]
    split <;> rfl

/-- The tags that get an id: of those in the scopes that lack one, the first with each start. -/
theorem tags_planned (scopes : List Scope) :
    Act.tags (planned source scopes) =
      firsts Node.start
        ((scopes.flatMap Scope.elements).filter (lacks source elementIdAttribute)) := by
  induction scopes using List.reverseRecOn with
  | nil => rfl
  | append_singleton scopes s ih =>
    have hscope : ∀ acts, Act.tags (Act.addScope source acts s) =
        (s.elements.filter (lacks source elementIdAttribute)).foldl (addFirst Node.start)
          (Act.tags acts) := by
      intro acts
      rw [Act.addScope]
      split
      · exact tags_addElements acts _ _ _
      · rw [tags_addElements, tags_addThread]
    rw [planned, List.foldl_append, List.foldl_cons, List.foldl_nil, hscope, ← planned, ih]
    simp [firsts]

theorem roots_addTag (acts : List Act) (element : Node) :
    Act.roots (Act.addTag source acts element) = Act.roots acts := by
  rw [Act.addTag]
  split <;> simp

theorem roots_addThread (acts : List Act) (function : Node) :
    Act.roots (Act.addThread acts function) = Act.roots acts := by
  rw [Act.addThread]
  split <;> simp

theorem roots_addTags (acts : List Act) (elements : List Node) :
    Act.roots (Act.addTags source acts elements) = Act.roots acts := by
  induction elements generalizing acts with
  | nil => rfl
  | cons element elements ih =>
    rw [Act.addTags, List.foldl_cons, ← Act.addTags, ih, roots_addTag]

theorem roots_addRoot (acts : List Act) (element : Node) (name reference : String) :
    (Act.roots (Act.addRoot source acts element name reference)).map rootName =
      if lacks source componentNameAttribute element then
        addFirst (·.1.start) ((Act.roots acts).map rootName) (element, name)
      else (Act.roots acts).map rootName := by
  rw [Act.addRoot, lacks, addFirst, List.any_map]
  by_cases hseen : (Act.roots acts).any (·.1.start == element.start) = true <;>
    by_cases hhas : hasAttribute source element componentNameAttribute = true <;>
    simp [hseen, hhas, Function.comp_def, rootName]

theorem roots_addElements (acts : List Act) (name reference : String) (elements : List Node) :
    (Act.roots (Act.addElements source acts name reference elements)).map rootName =
      ((elements.head?.map (·, name)).toList.filter
        (fun r => lacks source componentNameAttribute r.1)).foldl (addFirst (·.1.start))
        ((Act.roots acts).map rootName) := by
  cases elements with
  | nil => rfl
  | cons first rest =>
    rw [Act.addElements, roots_addTags, roots_addRoot, roots_addTag]
    simp only [List.head?_cons, Option.map_some, Option.toList_some, List.filter_cons,
      List.filter_nil]
    split <;> rfl

/-- The tags that are bound: of the first tags of the scopes that lack a binding, the first with each
start. -/
theorem roots_planned (scopes : List Scope) :
    (Act.roots (planned source scopes)).map rootName =
      firsts (·.1.start)
        ((scopes.filterMap Scope.root?).filter
          fun r => lacks source componentNameAttribute r.1) := by
  induction scopes using List.reverseRecOn with
  | nil => rfl
  | append_singleton scopes s ih =>
    have hscope : ∀ acts, (Act.roots (Act.addScope source acts s)).map rootName =
        (s.root?.toList.filter fun r => lacks source componentNameAttribute r.1).foldl
          (addFirst (·.1.start)) ((Act.roots acts).map rootName) := by
      intro acts
      rw [Act.addScope]
      split
      · exact roots_addElements acts _ _ _
      · rw [roots_addElements, roots_addThread]
        rfl
    rw [planned, List.foldl_append, List.foldl_cons, List.foldl_nil, hscope, ← planned, ih]
    cases hroot : s.root? <;> simp [firsts, hroot]

theorem threads_addTag (acts : List Act) (element : Node) :
    Act.threads (Act.addTag source acts element) = Act.threads acts := by
  rw [Act.addTag]
  split <;> simp

theorem threads_addTags (acts : List Act) (elements : List Node) :
    Act.threads (Act.addTags source acts elements) = Act.threads acts := by
  induction elements generalizing acts with
  | nil => rfl
  | cons element elements ih =>
    rw [Act.addTags, List.foldl_cons, ← Act.addTags, ih, threads_addTag]

theorem threads_addRoot (acts : List Act) (element : Node) (name reference : String) :
    Act.threads (Act.addRoot source acts element name reference) = Act.threads acts := by
  rw [Act.addRoot]
  split <;> simp

theorem threads_addElements (acts : List Act) (name reference : String) (elements : List Node) :
    Act.threads (Act.addElements source acts name reference elements) = Act.threads acts := by
  cases elements with
  | nil => rfl
  | cons first rest =>
    rw [Act.addElements, threads_addTags, threads_addRoot, threads_addTag]

theorem threads_addThread (acts : List Act) (function : Node) :
    Act.threads (Act.addThread acts function) =
      addFirst Node.start (Act.threads acts) function := by
  rw [Act.addThread, addFirst]
  split <;> simp

/-- The functions that are looked at: of the functions among the scopes, the first with each start. -/
theorem threads_planned (scopes : List Scope) :
    Act.threads (planned source scopes) =
      firsts Node.start ((scopes.map Scope.node).filter fun n => !n.kind.isClass) := by
  induction scopes using List.reverseRecOn with
  | nil => rfl
  | append_singleton scopes s ih =>
    have hscope : ∀ acts, Act.threads (Act.addScope source acts s) =
        ([s.node].filter fun n => !n.kind.isClass).foldl (addFirst Node.start)
          (Act.threads acts) := by
      intro acts
      rw [Act.addScope]
      split
      · rename_i hclass
        rw [threads_addElements]
        simp [hclass]
      · rename_i hclass
        rw [threads_addElements, threads_addThread]
        simp [hclass]
    rw [planned, List.foldl_append, List.foldl_cons, List.foldl_nil, hscope, ← planned, ih, firsts,
      ← List.foldl_append, firsts, List.map_append, List.filter_append]
    rfl

end Planned

/-! ## Trees of the grammar -/

/-- Whether a node is the opening or the only tag of an element, fragments included. -/
def isTag (n : Node) : Bool := n.kind == .jsxOpeningElement || n.kind == .jsxSelfClosingElement

/-- What planning relies on in a tree: it is well nested, tags have starts of their own, tags without
a closing one have a name, and parameter lists and object patterns hold their brackets. -/
structure Tidy (root : Node) : Prop where
  nested : root.WellNested
  starts : ((root.nodes.filter isTag).map Node.start).Nodup
  named : ∀ n ∈ root.nodes, n.kind = .jsxSelfClosingElement → (n.child? .name).isSome = true
  lists : ∀ n ∈ root.nodes, ∀ list ∈ n.child? .parameters, list.start < list.stop
  patterns : ∀ n ∈ root.nodes, n.kind = .objectPattern → n.start < n.stop

instance (root : Node) : Decidable (Tidy root) :=
  decidable_of_iff
    (root.WellNested ∧ ((root.nodes.filter isTag).map Node.start).Nodup ∧
      (∀ n ∈ root.nodes, n.kind = .jsxSelfClosingElement → (n.child? .name).isSome = true) ∧
      (∀ n ∈ root.nodes, ∀ list ∈ n.child? .parameters, list.start < list.stop) ∧
      ∀ n ∈ root.nodes, n.kind = .objectPattern → n.start < n.stop)
    ⟨fun ⟨a, b, c, d, e⟩ => ⟨a, b, c, d, e⟩, fun ⟨a, b, c, d, e⟩ => ⟨a, b, c, d, e⟩⟩

theorem isTag_of_isOpeningElement {n : Node} (h : isOpeningElement n = true) : isTag n = true := by
  rw [isOpeningElement, Bool.or_eq_true, Bool.and_eq_true] at h
  rw [isTag, Bool.or_eq_true]
  exact h.symm.imp_left And.left

theorem mem_nodes_of_mem_boundScopes {tree : SourceTree} {cs : List Component} {s : Scope}
    (h : s ∈ boundScopes room tree cs) : s.node ∈ tree.root.nodes := by
  obtain ⟨c, -, h⟩ := List.mem_filterMap.mp h
  obtain ⟨anchor, hanchor, hs⟩ := Option.bind_eq_some_iff.mp h
  have hfound := anchorOf?_eq_some.mp (Option.filter_eq_some_iff.mp hanchor).1
  exact Node.mem_nodes_trans (Node.mem_nodes_of_mem_walk (mem_walk_of_locate hfound))
    (scopeAt?_eq_some hs).1

theorem mem_nodes_of_mem_elements {s : Scope} {e : Node} (h : e ∈ s.elements) : e ∈ s.node.nodes :=
  Node.mem_nodes_of_mem_walk (List.mem_filter.mp h).1

/-- Every tag that can carry attributes has a place for one. -/
theorem Tidy.insertionOffset?_eq {root e : Node} (h : Tidy root) (he : e ∈ root.nodes)
    (hopening : isOpeningElement e = true) : insertionOffset? e = some (attributePlace e) := by
  have hname : (e.child? .name).isSome = true := by
    rw [isOpeningElement, Bool.or_eq_true, Bool.and_eq_true, beq_iff_eq, beq_iff_eq] at hopening
    rcases hopening with hk | ⟨-, hname⟩
    · exact h.named e he hk
    · exact hname
  obtain ⟨name, hname⟩ := Option.isSome_iff_exists.mp hname
  rw [attributePlace, insertionOffset?, hname]
  split <;> rfl

/-! ## Where a parameter edit lies -/

/-- The change of a decision lies inside the function. -/
theorem Tidy.change_range {root f : Node} {source : Bytes} {c : Change} (h : Tidy root)
    (hf : f ∈ root.nodes) (hc : (passing source f).change? source f = some c) :
    f.start ≤ c.start ∧ c.start ≤ c.stop ∧ c.stop ≤ f.stop := by
  have hnested := h.nested.of_mem hf
  have hinside : ∀ {n}, n ∈ f.nodes → f.start ≤ n.start ∧ n.start ≤ n.stop ∧ n.stop ≤ f.stop :=
    fun hn => ⟨(hnested.range hn).1, (hnested.of_mem hn).start_le_stop, (hnested.range hn).2⟩
  cases ThreadChange.of_change? hc with
  | @field pattern hpassing =>
    obtain ⟨hpattern, hkind⟩ := passing_eq_field hpassing
    have hin := hinside hpattern
    have hwide := h.patterns pattern (Node.mem_nodes_trans hf hpattern) hkind
    rw [fieldChange]
    split
    · rename_i rest _ hrest
      have hentry := hinside (Node.mem_nodes_trans hpattern
        (mem_entries (List.mem_of_find?_eq_some hrest)))
      dsimp only
      omega
    · rename_i last _ hlast
      have hentry := hinside (Node.mem_nodes_trans hpattern
        (mem_entries (List.mem_of_getLast? hlast)))
      dsimp only
      omega
    · dsimp only
      omega
  | @list list _ _ _ hlist _ =>
    have hin := hinside (Node.mem_nodes_of_child? hlist)
    have hwide := h.lists f hf list hlist
    dsimp only
    omega
  | bare _ _ hbare => exact hinside (Node.mem_nodes_of_child? hbare)

/-! ## Exact plans -/

/-- Which acts belong to a sequence of scopes. -/
structure ExactActs (source : Bytes) (scopes : List Scope) (acts : List Act) : Prop where
  /-- The tags that get an id are those in the scopes that have none. -/
  tags : ∀ e, e ∈ Act.tags acts ↔
    (∃ s ∈ scopes, e ∈ s.elements) ∧ hasAttribute source e elementIdAttribute = false
  /-- No tag gets two ids. -/
  tags_once : ((Act.tags acts).map Node.start).Nodup
  /-- A tag is bound exactly if it lacks a binding and is the first one of some scope, and then it
  gets the name of the first such scope. -/
  roots : ∀ e name, (∃ reference, (e, name, reference) ∈ Act.roots acts) ↔
    hasAttribute source e componentNameAttribute = false ∧
      ∃ before s after, scopes = before ++ s :: after ∧ s.elements.head? = some e ∧
        s.name = name ∧ ∀ t ∈ before, t.elements.head? ≠ some e
  /-- No tag is bound twice. -/
  roots_once : ((Act.roots acts).map (·.1.start)).Nodup
  /-- Attributes are put behind the last attribute, or else behind the name. -/
  places : ∀ s ∈ scopes, ∀ e ∈ s.elements, insertionOffset? e = some (attributePlace e)
  /-- The functions that are looked at are scopes. -/
  threads : ∀ f ∈ Act.threads acts, ∃ s ∈ scopes, s.node = f ∧ f.kind.isClass = false
  /-- No function is looked at twice, so that its parameters are changed at most once. -/
  threads_once : ((Act.threads acts).map Node.start).Nodup
  /-- The change to the parameters of a function lies inside the function. -/
  changes : ∀ f ∈ Act.threads acts, ∀ c ∈ (passing source f).change? source f,
    f.start ≤ c.start ∧ c.start ≤ c.stop ∧ c.stop ≤ f.stop

/-- Tags in the scopes with the same start are the same tag. -/
def DistinctTags (scopes : List Scope) : Prop :=
  ∀ s ∈ scopes, ∀ t ∈ scopes, ∀ e ∈ s.elements, ∀ e' ∈ t.elements, e.start = e'.start → e = e'

/-- A tag gets an id exactly if it lies in a scope and has none. -/
theorem mem_tags_planned {source : Bytes} {scopes : List Scope} {e : Node}
    (hstart : DistinctTags scopes) :
    e ∈ Act.tags (planned source scopes) ↔
      (∃ s ∈ scopes, e ∈ s.elements) ∧ hasAttribute source e elementIdAttribute = false := by
  have hlacking : e ∈ (scopes.flatMap Scope.elements).filter (lacks source elementIdAttribute) ↔
      (∃ s ∈ scopes, e ∈ s.elements) ∧ hasAttribute source e elementIdAttribute = false := by
    simp [lacks]
  rw [tags_planned, ← hlacking]
  refine ⟨mem_of_mem_firsts, fun he => mem_firsts_of_injective he fun d hd hkey => ?_⟩
  obtain ⟨s, hs, hds⟩ := List.mem_flatMap.mp (List.mem_filter.mp hd).1
  obtain ⟨t, ht, het⟩ := List.mem_flatMap.mp (List.mem_filter.mp he).1
  exact hstart s hs t ht d hds e het hkey

/-- A tag is among the bound ones exactly if it lacks a binding and is the first one of a scope that
comes before all others it is the first one of. -/
theorem mem_roots_planned {source : Bytes} {scopes : List Scope} {e : Node} {name : String}
    (hstart : DistinctTags scopes) :
    (∃ reference, (e, name, reference) ∈ Act.roots (planned source scopes)) ↔
      hasAttribute source e componentNameAttribute = false ∧
        ∃ before s after, scopes = before ++ s :: after ∧ s.elements.head? = some e ∧
          s.name = name ∧ ∀ t ∈ before, t.elements.head? ≠ some e := by
  have hproject : (∃ reference, (e, name, reference) ∈ Act.roots (planned source scopes)) ↔
      (e, name) ∈ (Act.roots (planned source scopes)).map rootName := by
    constructor
    · rintro ⟨reference, h⟩
      exact List.mem_map.mpr ⟨_, h, rfl⟩
    · intro h
      obtain ⟨⟨e', name', reference⟩, hr, heq⟩ := List.mem_map.mp h
      cases heq
      exact ⟨reference, hr⟩
  have hroot : ∀ {s : Scope} {d : Node} {n : String}, s.root? = some (d, n) ↔
      s.elements.head? = some d ∧ s.name = n := by
    intro s d n
    simp [Scope.root?, Option.map_eq_some_iff]
  -- a scope binds its first tag under its name, if the tag lacks a binding
  have hbound : ∀ {s : Scope} {d : Node} {n : String},
      s.root?.filter (fun r => lacks source componentNameAttribute r.1) = some (d, n) ↔
        hasAttribute source d componentNameAttribute = false ∧ s.elements.head? = some d ∧
          s.name = n := by
    intro s d n
    simp [Option.filter_eq_some_iff, hroot, lacks, and_comm]
  rw [hproject, roots_planned, List.filter_filterMap, mem_firsts_filterMap]
  constructor
  · rintro ⟨before, s, after, heq, hs, hbefore⟩
    obtain ⟨hlacks, hhead, hname⟩ := hbound.mp hs
    refine ⟨hlacks, before, s, after, heq, hhead, hname, fun t ht hsame => ?_⟩
    exact hbefore t ht (e, t.name) (hbound.mpr ⟨hlacks, hsame, rfl⟩) rfl
  · rintro ⟨hlacks, before, s, after, rfl, hhead, hname, hbefore⟩
    refine ⟨before, s, after, rfl, hbound.mpr ⟨hlacks, hhead, hname⟩, ?_⟩
    rintro t ht ⟨d, n⟩ hd hkey
    have hdhead := (hbound.mp hd).2.1
    have heq := hstart t (by simp [ht]) s (by simp) d (List.mem_of_head? hdhead) e
      (List.mem_of_head? hhead) hkey
    exact hbefore t ht (heq ▸ hdhead)

theorem distinctTags_boundScopes {tree : SourceTree}
    (h : ((tree.root.nodes.filter isTag).map Node.start).Nodup) (cs : List Component) :
    DistinctTags (boundScopes room tree cs) := by
  have hin : ∀ s ∈ boundScopes room tree cs, ∀ e ∈ s.elements, e ∈ tree.root.nodes.filter isTag := by
    intro s hs e he
    exact List.mem_filter.mpr ⟨Node.mem_nodes_trans (mem_nodes_of_mem_boundScopes hs)
      (mem_nodes_of_mem_elements he), isTag_of_isOpeningElement (List.mem_filter.mp he).2⟩
  exact fun s hs t ht e he e' he' => List.inj_on_of_nodup_map h (hin s hs e he) (hin t ht e' he')

/-- In a tidy tree the acts of the bound scopes are exact. -/
theorem Tidy.exactActs {tree : SourceTree} (h : Tidy tree.root) (cs : List Component) :
    ExactActs tree.source (boundScopes room tree cs) (planned tree.source (boundScopes room tree cs)) := by
  have hin : ∀ s ∈ boundScopes room tree cs, ∀ e ∈ s.elements,
      e ∈ tree.root.nodes ∧ isOpeningElement e = true := fun s hs e he =>
    ⟨Node.mem_nodes_trans (mem_nodes_of_mem_boundScopes hs) (mem_nodes_of_mem_elements he),
      (List.mem_filter.mp he).2⟩
  have hstart : DistinctTags (boundScopes room tree cs) := distinctTags_boundScopes h.starts cs
  have hthreads : ∀ f ∈ Act.threads (planned tree.source (boundScopes room tree cs)),
      ∃ s ∈ boundScopes room tree cs, s.node = f ∧ f.kind.isClass = false := by
    intro f hf
    rw [threads_planned] at hf
    obtain ⟨hf, hclass⟩ := List.mem_filter.mp (mem_of_mem_firsts hf)
    obtain ⟨s, hs, rfl⟩ := List.mem_map.mp hf
    exact ⟨s, hs, rfl, by simpa using hclass⟩
  constructor
  · exact fun e => mem_tags_planned hstart
  · rw [tags_planned]
    exact nodup_firsts _ _
  · exact fun e name => mem_roots_planned hstart
  · have hnodup := nodup_firsts (fun r : Node × String => r.1.start)
      (((boundScopes room tree cs).filterMap Scope.root?).filter fun r =>
        lacks tree.source componentNameAttribute r.1)
    rw [← roots_planned, List.map_map] at hnodup
    exact hnodup
  · exact fun s hs e he => h.insertionOffset?_eq (hin s hs e he).1 (hin s hs e he).2
  · exact hthreads
  · rw [threads_planned]
    exact nodup_firsts _ _
  · intro f hf c hc
    obtain ⟨s, hs, rfl, -⟩ := hthreads f hf
    exact h.change_range (mem_nodes_of_mem_boundScopes hs) hc

/-- In a tidy tree no scope stands in the way of a run. -/
theorem Tidy.not_scopeObstacle {tree : SourceTree} (h : Tidy tree.root) {cs : List Component}
    {s : Scope} {e : InstrumentError} (hs : s ∈ boundScopes room tree cs) : ¬ ScopeObstacle s e := by
  have hroot := mem_nodes_of_mem_boundScopes hs
  rintro (⟨-, element, hmem, hplace⟩ | ⟨bare, -, -, hbare, hlt⟩)
  · have hin := Node.mem_nodes_trans hroot (mem_nodes_of_mem_elements hmem)
    rw [h.insertionOffset?_eq hin (List.mem_filter.mp hmem).2] at hplace
    cases hplace
  · have hin := Node.mem_nodes_trans hroot (Node.mem_nodes_of_child? hbare)
    exact absurd (h.nested.of_mem hin).start_le_stop (by omega)

/-- An arrow function with an object pattern and two tags, one inside the other. -/
def nestedText : String := "const A = (\x7b x \x7d) => <b><i /></b>"

/-- The file with the text `nestedText`. -/
def nestedTags : SourceTree where
  source := Bytes.ofText nestedText
  root :=
    .mk { kind := .program, start := 0, stop := 33 } [
      .mk { kind := .lexicalDeclaration, start := 0, stop := 33 } [
        .mk { kind := .other "const", start := 0, stop := 5, named := false,
              field := some (.other "kind") } [],
        .mk { kind := .variableDeclarator, start := 6, stop := 33 } [
          .mk { kind := .identifier, start := 6, stop := 7, field := some .name } [],
          .mk { kind := .other "=", start := 8, stop := 9, named := false } [],
          .mk { kind := .arrowFunction, start := 10, stop := 33, field := some .value } [
            .mk { kind := .other "formal_parameters", start := 10, stop := 17,
                  field := some .parameters } [
              .mk { kind := .other "(", start := 10, stop := 11, named := false } [],
              .mk { kind := .objectPattern, start := 11, stop := 16 } [
                .mk { kind := .other "\x7b", start := 11, stop := 12, named := false } [],
                .mk { kind := .shorthandPattern, start := 13, stop := 14 } [],
                .mk { kind := .other "\x7d", start := 15, stop := 16, named := false } []],
              .mk { kind := .other ")", start := 16, stop := 17, named := false } []],
            .mk { kind := .other "=>", start := 18, stop := 20, named := false } [],
            .mk { kind := .jsxElement, start := 21, stop := 33, field := some .body } [
              .mk { kind := .jsxOpeningElement, start := 21, stop := 24,
                    field := some (.other "open_tag") } [
                .mk { kind := .other "<", start := 21, stop := 22, named := false } [],
                .mk { kind := .identifier, start := 22, stop := 23, field := some .name } [],
                .mk { kind := .other ">", start := 23, stop := 24, named := false } []],
              .mk { kind := .jsxSelfClosingElement, start := 24, stop := 29 } [
                .mk { kind := .other "<", start := 24, stop := 25, named := false } [],
                .mk { kind := .identifier, start := 25, stop := 26, field := some .name } [],
                .mk { kind := .other "/>", start := 27, stop := 29, named := false } []],
              .mk { kind := .other "jsx_closing_element", start := 29, stop := 33,
                    field := some (.other "close_tag") } [
                .mk { kind := .other "</", start := 29, stop := 31, named := false } [],
                .mk { kind := .identifier, start := 31, stop := 32, field := some .name } [],
                .mk { kind := .other ">", start := 32, stop := 33, named := false } []]]]]]]

end JsxTagger.Instrument
