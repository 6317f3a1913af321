import JsxTagger.Proofs.Edit.Calls
import JsxTagger.Proofs.Instrument.Disjoint
import JsxTagger.Proofs.Instrument.Repetition

/-!
# Components in another order

The components of a file can be listed in any order, if their scopes lie apart or are the same
(`run_perm`): with one id for all tags the new text and the number of edits are the same, and the reports
differ in their order.

Two things are shown. A run comes to an end in every order or in none (`exists_planAll_iff`), because
what is read of a scope depends on what was dealt with inside it (`Planner.AgreeOn`), and scopes that lie
apart do not meet. And the edits of two orders are the same calls rearranged (`planOf_perm`), because the
changes at one offset belong to the one scope there.

Scopes that start at one place count as one for the planner, so that disjoint scopes are not enough where
one of them is empty (`empty_scope_order`).
-/

namespace JsxTagger.Instrument

open Classify Syntax

variable {room : Nat}

/-! ## Visits of a scope -/

/-- Instruments a scope. -/
def Planner.visit (source : Bytes) (ids : IdStream) (p : Planner) (s : Scope) :
    Except InstrumentError Planner :=
  if s.node.kind.isClass then annotate source ids s.name classReference false p s.node.walk
  else do
    let (reference, p) ← p.thread source s.node
    annotate source ids s.name reference false p s.node.walk

section Visits

variable {source : Bytes} {ids : IdStream} {p p' q : Planner} {s : Scope}

/-- A declaration is instrumented by a visit of its scope, unless something is in the way. -/
theorem instrumentDeclaration_eq_visit (anchor : Node) :
    instrumentDeclaration room source ids p anchor (componentName source anchor) =
      match functionObstacle? room source anchor, scopeAt? source anchor with
      | some error, _ => .error error
      | none, none => .ok none
      | none, some s => (p.visit source ids s).map some := by
  rw [instrumentDeclaration, scopeAt?]
  by_cases hclass : anchor.kind.isClass = true
  · rw [if_pos hclass, if_pos hclass, functionObstacle?_of_isClass hclass]
    simp only [Planner.visit, if_pos hclass]
    rfl
  · rw [if_neg hclass, if_neg hclass]
    cases functionObstacle? room source anchor with
    | some error => rfl
    | none =>
      cases hf : componentFunction? source anchor with
      | none => rfl
      | some f =>
        simp only [Option.map_some, Planner.visit, isClass_of_componentFunction? hf]
        cases p.thread source f with
        | error e => rfl
        | ok r => rfl

theorem visit_again (h : p.visit source ids s = .ok p') (hq : p'.Extends q) :
    q.visit source ids s = .ok q := by
  unfold Planner.visit at h ⊢
  split at h
  · rename_i hclass
    rw [if_pos hclass]
    exact annotate_again h hq
  · rename_i hclass
    rw [if_neg hclass]
    obtain ⟨⟨reference, p₁⟩, hthread, hannotate⟩ := Except.bind_eq_ok.mp h
    have hp₁ : p₁.Extends q := (annotate_extends hannotate).trans hq
    exact Except.bind_eq_ok.mpr ⟨(reference, q), thread_again hthread hp₁, annotate_again hannotate hq⟩

/-! ## Planners that agree -/

/-- Adding a parameter does not look at what was planned. -/
theorem addParameter_anywhere {f : Node} {name : String} (h : p.addParameter source f name = .ok p')
    (q : Planner) : ∃ q', q.addParameter source f name = .ok q' := by
  unfold Planner.addParameter Edit.Plan.replace at h ⊢
  cases hlist : f.child? .parameters with
  | some list => exact ⟨_, rfl⟩
  | none =>
    cases hbare : f.child? .parameter with
    | none => exact ⟨_, rfl⟩
    | some bare =>
      simp only [hlist, hbare] at h ⊢
      split at h
      · cases h
      · rename_i hlegible
        rw [if_neg hlegible]
        split at h
        · rename_i hreplace
          split at hreplace
          · cases hreplace
          · rename_i horder
            rw [if_neg horder]
            exact ⟨_, rfl⟩
        · cases h

/-- Making the identity reachable does not look at what was planned. -/
theorem addIdentity_anywhere {f : Node} {reference : String}
    (h : p.addIdentity source f = .ok (reference, p')) (q : Planner) :
    ∃ q', q.addIdentity source f = .ok (reference, q') := by
  rcases addIdentity_eq source f with ⟨-, herror⟩ | heq
  · rw [herror] at h
    cases h
  · rw [heq] at h
    rw [heq]
    cases hpassing : passing source f with
    | present name =>
      rw [hpassing] at h
      cases h
      exact ⟨q, rfl⟩
    | field pattern =>
      rw [hpassing] at h
      cases h
      exact ⟨_, rfl⟩
    | parameter name =>
      rw [hpassing] at h
      obtain ⟨p₁, hp₁, h⟩ := Except.bind_eq_ok.mp h
      obtain ⟨q₁, hq₁⟩ := addParameter_anywhere hp₁ q
      cases h
      exact ⟨q₁, Except.bind_eq_ok.mpr ⟨q₁, hq₁, rfl⟩⟩

/-- Adding an attribute asks nothing of a planner but whether the tag was dealt with. -/
theorem addAttribute_anywhere {element : Node} {seen : Bool} {name : String} {added added' : Nat → Planner}
    (h : addAttribute source p element seen name added = .ok p') :
    ∃ q', addAttribute source q element seen name added' = .ok q' := by
  unfold addAttribute at h ⊢
  split at h
  · rename_i hseen
    exact ⟨q, if_pos hseen⟩
  · rename_i hseen
    rw [if_neg hseen]
    split at h
    · cases h
    · rename_i hlegible
      rw [if_neg hlegible]
      split at h
      · rename_i hname
        exact ⟨q, if_pos hname⟩
      · rename_i hname
        rw [if_neg hname]
        cases hplace : insertionOffset? element with
        | none =>
          rw [hplace] at h
          cases h
        | some offset => exact ⟨_, rfl⟩

/-- Two states of planning that have dealt with the same tags among the given ones. -/
structure Planner.AgreeOn (elements : List Node) (p q : Planner) : Prop where
  /-- The tags that got an id. -/
  tagged : ∀ e ∈ elements, p.tagged.contains e.start = q.tagged.contains e.start
  /-- The tags that were bound. -/
  bound : ∀ e ∈ elements, p.bound.contains e.start = q.bound.contains e.start

namespace Planner.AgreeOn

variable {elements : List Node} (h : p.AgreeOn elements q)

include h

theorem symm : q.AgreeOn elements p :=
  ⟨fun e he => (h.tagged e he).symm, fun e he => (h.bound e he).symm⟩

theorem tag {e : Node} (he : e ∈ elements) (htag : p.tag source ids e = .ok p') :
    ∃ q', q.tag source ids e = .ok q' ∧ p'.AgreeOn elements q' := by
  rw [tag_eq, h.tagged e he] at htag
  obtain ⟨q', hq'⟩ := addAttribute_anywhere (q := q) htag
  refine ⟨q', hq', ?_⟩
  rw [addAttribute_eq_ok htag, addAttribute_eq_ok hq']
  split
  · exact h
  · refine ⟨fun d hd => ?_, h.bound⟩
    show (e.start :: p.tagged).contains d.start = (e.start :: q.tagged).contains d.start
    rw [List.contains_cons, List.contains_cons, h.tagged d hd]

theorem bindRoot {e : Node} {name reference : String} (he : e ∈ elements)
    (hbind : p.bindRoot source e name reference = .ok p') :
    ∃ q', q.bindRoot source e name reference = .ok q' ∧ p'.AgreeOn elements q' := by
  rw [bindRoot_eq, h.bound e he] at hbind
  obtain ⟨q', hq'⟩ := addAttribute_anywhere (q := q) hbind
  refine ⟨q', hq', ?_⟩
  rw [addAttribute_eq_ok hbind, addAttribute_eq_ok hq']
  split
  · exact h
  · refine ⟨h.tagged, fun d hd => ?_⟩
    show (e.start :: p.bound).contains d.start = (e.start :: q.bound).contains d.start
    rw [List.contains_cons, List.contains_cons, h.bound d hd]

theorem annotate {name reference : String} {rootSeen : Bool} {ns : List Node}
    (hns : ∀ n ∈ ns, isOpeningElement n = true → n ∈ elements)
    (hannotate : Instrument.annotate source ids name reference rootSeen p ns = .ok p') :
    ∃ q', Instrument.annotate source ids name reference rootSeen q ns = .ok q' := by
  induction ns generalizing p q rootSeen with
  | nil => exact ⟨q, rfl⟩
  | cons n ns ih =>
    obtain ⟨hn, hns⟩ := List.forall_mem_cons.mp hns
    by_cases hopening : isOpeningElement n = true
    · rw [annotate_tag hopening] at hannotate ⊢
      obtain ⟨p₁, htag, hannotate⟩ := Except.bind_eq_ok.mp hannotate
      obtain ⟨p₂, hroot, hannotate⟩ := Except.bind_eq_ok.mp hannotate
      obtain ⟨q₁, hq₁, h₁⟩ := h.tag (hn hopening) htag
      obtain ⟨q₂, hq₂, h₂⟩ : ∃ q₂, (if rootSeen then Except.ok q₁
          else q₁.bindRoot source n name reference) = .ok q₂ ∧ p₂.AgreeOn elements q₂ := by
        cases rootSeen with
        | true =>
          cases hroot
          exact ⟨q₁, rfl, h₁⟩
        | false => exact h₁.bindRoot (hn hopening) hroot
      obtain ⟨q', hq'⟩ := ih h₂ hns hannotate
      exact ⟨q', Except.bind_eq_ok.mpr ⟨q₁, hq₁, Except.bind_eq_ok.mpr ⟨q₂, hq₂, hq'⟩⟩⟩
    · rw [Instrument.annotate, if_neg hopening] at hannotate ⊢
      exact ih h hns hannotate

theorem thread {f : Node} {reference : String}
    (hlookup : p.references.lookup f.start = q.references.lookup f.start)
    (hthread : p.thread source f = .ok (reference, p')) :
    ∃ q', q.thread source f = .ok (reference, q') ∧ p'.AgreeOn elements q' := by
  unfold Planner.thread at hthread ⊢
  rw [← hlookup]
  cases hfound : p.references.lookup f.start with
  | some found =>
    rw [hfound] at hthread
    cases hthread
    exact ⟨q, rfl, h⟩
  | none =>
    rw [hfound] at hthread
    obtain ⟨⟨r, p₁⟩, hadd, hthread⟩ := Except.bind_eq_ok.mp hthread
    cases hthread
    obtain ⟨q₁, hq₁⟩ := addIdentity_anywhere hadd q
    refine ⟨_, Except.bind_eq_ok.mpr ⟨_, hq₁, rfl⟩, ?_⟩
    obtain ⟨-, rfl⟩ := addIdentity_eq_ok hadd
    obtain ⟨-, rfl⟩ := addIdentity_eq_ok hq₁
    exact ⟨h.tagged, h.bound⟩

end Planner.AgreeOn

/-- A scope can be visited, or not, in states that have dealt with the same things inside it. -/
theorem visit_of_agreeOn (h : p.AgreeOn s.elements q)
    (hlookup : p.references.lookup s.node.start = q.references.lookup s.node.start)
    (hvisit : p.visit source ids s = .ok p') : ∃ q', q.visit source ids s = .ok q' := by
  have hwalk : ∀ n ∈ s.node.walk, isOpeningElement n = true → n ∈ s.elements := fun n hn hopening =>
    List.mem_filter.mpr ⟨hn, hopening⟩
  unfold Planner.visit at hvisit ⊢
  split at hvisit
  · rename_i hclass
    rw [if_pos hclass]
    exact h.annotate hwalk hvisit
  · rename_i hclass
    rw [if_neg hclass]
    obtain ⟨⟨reference, p₁⟩, hthread, hvisit⟩ := Except.bind_eq_ok.mp hvisit
    obtain ⟨q₁, hq₁, h₁⟩ := h.thread hlookup hthread
    obtain ⟨q', hq'⟩ := h₁.annotate hwalk hvisit
    exact ⟨q', Except.bind_eq_ok.mpr ⟨_, hq₁, hq'⟩⟩

/-- Whether a scope can be visited does not depend on acts that do not meet it. -/
theorem exists_visit_iff_of_clear {drawn : Nat} {acts : List Act} (h : Act.Clear acts s) :
    (∃ p, (Planner.ofActs source ids drawn acts).visit source ids s = .ok p) ↔
      ∃ p, ({} : Planner).visit source ids s = .ok p := by
  have hagree : (Planner.ofActs source ids drawn acts).AgreeOn s.elements {} := by
    constructor
    · intro e he
      show (((Act.tags acts).map Node.start).reverse).contains e.start = false
      rw [contains_reverse_map]
      simpa using h.tags e he
    · intro e he
      show (((Act.roots acts).map fun r => r.1.start).reverse).contains e.start = false
      rw [contains_reverse_map]
      simpa using h.roots e he
  have hlookup : (Planner.ofActs source ids drawn acts).references.lookup s.node.start =
      ({} : Planner).references.lookup s.node.start := by
    show ((Act.threads acts).map fun f => (f.start, (passing source f).reference)).reverse.lookup
      s.node.start = none
    rw [← List.map_reverse, lookup_map_start]
    simpa using h.threads
  exact ⟨fun ⟨p, hp⟩ => visit_of_agreeOn hagree hlookup hp,
    fun ⟨p, hp⟩ => visit_of_agreeOn hagree.symm hlookup.symm hp⟩

theorem exists_instrumentDeclaration_iff {anchor : Node} :
    (∃ r, instrumentDeclaration room source ids p anchor (componentName source anchor) = .ok r) ↔
      functionObstacle? room source anchor = none ∧
        ∀ s ∈ scopeAt? source anchor, ∃ q, p.visit source ids s = .ok q := by
  rw [instrumentDeclaration_eq_visit]
  cases functionObstacle? room source anchor with
  | some error => simp
  | none =>
    cases scopeAt? source anchor with
    | none => simp
    | some s => cases hvisit : p.visit source ids s <;> simp [Except.map, hvisit]

end Visits

/-! ## Runs that come to an end -/

section Runs

variable {tree : SourceTree} {ids : IdStream} {cs : List Component} {drawn : Nat}

theorem scopeOf?_eq {c : Component} {anchor : Node}
    (h : locate room tree.source (anchors tree.root) (topLevel tree.root) c = .ok (some anchor)) :
    scopeOf? room tree c = if isTopLevel tree anchor then scopeAt? tree.source anchor else none := by
  rw [scopeOf?, anchorOf?_eq_some.mpr h]
  cases htop : isTopLevel tree anchor <;> simp [Option.filter, htop]

/-- Whether a component can be looked up and, where its declaration is instrumented, the function in it. -/
def Accessible (room : Nat) (tree : SourceTree) (c : Component) : Prop :=
  ∃ found, locate room tree.source (anchors tree.root) (topLevel tree.root) c = .ok found ∧
    ∀ anchor ∈ found, isTopLevel tree anchor = true → functionObstacle? room tree.source anchor = none

/-- Dealing with a component visits its scope. -/
theorem visit_of_step {g g' : Progress} {c : Component} {s : Scope}
    (h : g.step room tree ids (anchors tree.root) (topLevel tree.root) c = .ok g')
    (hs : scopeOf? room tree c = some s) : g.planner.visit tree.source ids s = .ok g'.planner := by
  rcases step_eq_ok h with ⟨hfound, -⟩ | ⟨anchor, hfound, ⟨htop, -⟩ | ⟨htop, r, hr, hcases⟩⟩
  · rw [scopeOf?, anchorOf?, hfound] at hs
    cases hs
  · rw [scopeOf?_eq hfound, htop] at hs
    cases hs
  · rw [scopeOf?_eq hfound, if_pos htop] at hs
    rw [(locate_eq_some hfound).2, Json.plain, instrumentDeclaration_eq_visit, hs] at hr
    split at hr
    · cases hr
    · rename_i heq
      cases heq
    · rename_i heq
      cases heq
      cases hvisit : g.planner.visit tree.source ids s with
      | error e =>
        rw [hvisit] at hr
        cases hr
      | ok p =>
        rw [hvisit] at hr
        cases hr
        rcases hcases with ⟨hnone, -⟩ | ⟨planner, hsome, rfl⟩
        · cases hnone
        · cases hsome
          rfl

/-- A component is dealt with if it can be looked up and its scope can be visited. -/
theorem exists_step_iff {g : Progress} {c : Component} :
    (∃ g', g.step room tree ids (anchors tree.root) (topLevel tree.root) c = .ok g') ↔
      Accessible room tree c ∧ ∀ s ∈ scopeOf? room tree c, ∃ p, g.planner.visit tree.source ids s = .ok p := by
  cases hfound : locate room tree.source (anchors tree.root) (topLevel tree.root) c with
  | error e => simp [Progress.step, Accessible, hfound, bind, Except.bind]
  | ok found =>
    cases found with
    | none =>
      simp [Progress.step, Accessible, scopeOf?, anchorOf?, hfound, bind, Except.bind]
    | some anchor =>
      rw [scopeOf?_eq hfound]
      by_cases htop : isTopLevel tree anchor = true
      · have haccessible : Accessible room tree c ↔ functionObstacle? room tree.source anchor = none := by
          simp [Accessible, hfound, htop]
        have hcontains : (topLevel tree.root).contains (key anchor) = true := htop
        rw [haccessible, if_pos htop, ← exists_instrumentDeclaration_iff]
        simp only [Progress.step, hfound, hcontains, (locate_eq_some hfound).2, Json.plain, bind, Except.bind]
        cases instrumentDeclaration room tree.source ids g.planner anchor (componentName tree.source anchor) with
        | error e => simp
        | ok r => cases r <;> simp
      · have hmem : key anchor ∉ topLevel tree.root := by simpa [isTopLevel] using htop
        rw [if_neg htop]
        simp [Progress.step, Accessible, hfound, htop, hmem, bind, Except.bind]

theorem planAll_concat (c : Component) :
    planAll room tree ids (cs ++ [c]) drawn =
      planAll room tree ids cs drawn >>= fun g => g.step room tree ids (anchors tree.root) (topLevel tree.root) c := by
  simp [planAll, List.foldlM_append]

theorem boundScopes_concat (c : Component) :
    boundScopes room tree (cs ++ [c]) = boundScopes room tree cs ++ (scopeOf? room tree c).toList := by
  rw [boundScopes, List.filterMap_append, ← boundScopes, ← boundScopes, boundScopes_cons]
  exact congrArg _ (List.append_nil _)

/-- A scope that was visited in a run can be visited again. -/
theorem exists_visit_of_mem {g : Progress} {s : Scope} (hg : planAll room tree ids cs drawn = .ok g)
    (hs : s ∈ boundScopes room tree cs) : ∃ p, g.planner.visit tree.source ids s = .ok p := by
  obtain ⟨c, hc, hscope⟩ := List.mem_filterMap.mp hs
  obtain ⟨g₁, g₂, hstep, hextends⟩ := (exists_step_of_mem hg).2 c hc
  exact ⟨g.planner, visit_again (visit_of_step hstep hscope) hextends⟩

/-- A run over scopes that lie apart comes to an end if every component can be looked up and each scope can
be visited by itself. -/
theorem exists_planAll_iff (hshape : Delimited tree.root)
    (hapart : (boundScopes room tree cs).Pairwise fun s t => s = t ∨ s.Apart t) :
    (∃ g, planAll room tree ids cs drawn = .ok g) ↔
      (∀ c ∈ cs, Accessible room tree c) ∧
        ∀ s ∈ boundScopes room tree cs, ∃ p, ({} : Planner).visit tree.source ids s = .ok p := by
  induction cs using List.reverseRecOn with
  | nil => exact iff_of_true ⟨_, rfl⟩ ⟨nofun, nofun⟩
  | append_singleton cs c ih =>
    rw [boundScopes_concat] at hapart
    obtain ⟨hrest, -, hlast⟩ := List.pairwise_append.mp hapart
    have hvisit {g : Progress} (hg : planAll room tree ids cs drawn = .ok g) :
        ∀ s ∈ scopeOf? room tree c, (∃ p, g.planner.visit tree.source ids s = .ok p) ↔
          ∃ p, ({} : Planner).visit tree.source ids s = .ok p := by
      intro s hs
      -- a scope among the earlier ones was visited; another one does not meet them
      by_cases hmem : s ∈ boundScopes room tree cs
      · exact iff_of_true (exists_visit_of_mem hg hmem) (((ih hrest).mp ⟨g, hg⟩).2 s hmem)
      · have hlies : ∀ t ∈ boundScopes room tree cs, s.Apart t := fun t ht =>
          ((hlast t ht s (Option.mem_toList.mpr hs)).resolve_left fun heq => hmem (heq ▸ ht)).symm
        have hin : s ∈ boundScopes room tree [c] := List.mem_filterMap.mpr ⟨c, List.mem_singleton_self c, hs⟩
        rw [(planAll_eq_ok hg).1]
        exact exists_visit_iff_of_clear
          (hshape.clear_planned (fun t => isIn_of_mem_boundScopes) (isIn_of_mem_boundScopes hin) hlies)
    rw [boundScopes_concat, List.forall_mem_append, List.forall_mem_append, List.forall_mem_singleton]
    simp only [planAll_concat, Except.bind_eq_ok, Option.mem_toList]
    constructor
    · rintro ⟨g', g, hg, hstep⟩
      obtain ⟨haccessible, hvisits⟩ := (ih hrest).mp ⟨g, hg⟩
      obtain ⟨hlookup, hown⟩ := exists_step_iff.mp ⟨g', hstep⟩
      exact ⟨⟨haccessible, hlookup⟩, hvisits, fun s hs => (hvisit hg s hs).mp (hown s hs)⟩
    · rintro ⟨⟨haccessible, hlookup⟩, hvisits, hown⟩
      obtain ⟨g, hg⟩ := (ih hrest).mpr ⟨haccessible, hvisits⟩
      obtain ⟨g', hstep⟩ := exists_step_iff.mpr ⟨hlookup, fun s hs => (hvisit hg s hs).mpr (hown s hs)⟩
      exact ⟨g', g, hg, hstep⟩

end Runs

/-! ## Plans that are rearranged -/

/-- A change as a call that plans it. -/
def Change.call (c : Change) : Edit.Call := .replace c.start c.stop c.text

/-- A plan of changes that do not end before they begin is built by calls. -/
theorem planOf_eq_ofCalls {changes : List Change} (h : ∀ c ∈ changes, c.start ≤ c.stop) :
    planOf changes = Edit.Plan.ofCalls (changes.map Change.call) := by
  rw [planOf, Edit.Plan.ofCalls, List.foldl_map]
  refine List.foldl_ext _ _ _ fun p c hc => ?_
  have haccepted : c.call.isAccepted = true := decide_eq_true (Int.ofNat_le.mpr (h c hc))
  exact (Edit.Plan.perform_of_accepted haccepted).symm

/-- The edits for scopes in two orders yield the same text, and there are as many. -/
theorem Delimited.planOf_perm {root : Node} (h : Delimited root) {source : Bytes} (id : String)
    (drawn : Nat) {scopes scopes' : List Scope} (hscopes : ∀ s ∈ scopes, s.IsIn root)
    (hapart : scopes.Pairwise fun s t => s = t ∨ s.Apart t) (hperm : scopes.Perm scopes') :
    let plan (scopes : List Scope) := planOf (changesOf source (fun _ => id) drawn (planned source scopes))
    (plan scopes).apply source = (plan scopes').apply source ∧
      (plan scopes).length = (plan scopes').length := by
  have hcalls {scopes : List Scope} (hscopes : ∀ s ∈ scopes, s.IsIn root) :
      planOf (changesOf source (fun _ => id) drawn (planned source scopes)) =
        Edit.Plan.ofCalls ((changesOf source (fun _ => id) 0 (planned source scopes)).map Change.call) := by
    rw [changesOf_sameId]
    refine planOf_eq_ofCalls fun c hc => ?_
    obtain ⟨s, -, -, -, hle⟩ := h.change_within hscopes hc
    exact hle
  have hrearranged : Edit.Call.Rearranged
      ((changesOf source (fun _ => id) 0 (planned source scopes)).map Change.call)
      ((changesOf source (fun _ => id) 0 (planned source scopes')).map Change.call) := by
    intro offset
    rw [List.filter_map, List.filter_map]
    exact congrArg _ (h.changesAt_eq_of_perm hscopes hapart hperm offset)
  constructor
  · dsimp only
    rw [hcalls hscopes, hcalls fun s hs => hscopes s (hperm.mem_iff.mpr hs)]
    exact Edit.Plan.apply_of_rearranged hrearranged source
  · have hlength := hrearranged.perm.length_eq
    rw [List.length_map, List.length_map] at hlength
    dsimp only [Edit.Plan.length]
    rw [length_edits_planOf, length_edits_planOf, changesOf_sameId, hlength, changesOf_sameId _ _ drawn]

/-- Two outcomes that differ in nothing but the order of what they report. -/
structure Instrumented.Reordered (r r' : Instrumented) : Prop where
  /-- The new text is the same. -/
  text : r.text = r'.text
  /-- There are as many edits. -/
  edits : r.edits = r'.edits
  /-- The same components were instrumented. -/
  bound : r.bound.Perm r'.bound
  /-- The declarations of the same components were not found. -/
  missing : r.missing.Perm r'.missing
  /-- The same components are declared inside other declarations. -/
  nested : r.nested.Perm r'.nested

/-- Components can be listed in another order, if their scopes lie apart or are the same. Runs in two orders
yield the same but for the order of the reports, or both are stopped: by one of the obstacles of planning,
or by the same error when the plan is applied. -/
theorem run_perm (room : Nat) (tree : SourceTree) (cs ds : List Component) (id : String) (drawn : Nat)
    (hshape : Delimited tree.root)
    (hapart : (boundScopes room tree cs).Pairwise fun s t => s = t ∨ s.Apart t) (hperm : cs.Perm ds) :
    match run room tree (fun _ => id) cs drawn, run room tree (fun _ => id) ds drawn with
    | .ok (r, _, _), .ok (r', _, _) => r.Reordered r'
    | .error e, .error e' => (Blocked room tree cs e ∧ Blocked room tree cs e') ∨ e = e'
    | _, _ => False := by
  have hscopes : (boundScopes room tree cs).Perm (boundScopes room tree ds) := hperm.filterMap _
  have hapart' := hscopes.pairwise hapart fun h => h.imp Eq.symm Scope.Apart.symm
  have hiff : (∃ g, planAll room tree (fun _ => id) cs drawn = .ok g) ↔
      ∃ g, planAll room tree (fun _ => id) ds drawn = .ok g := by
    rw [exists_planAll_iff hshape hapart, exists_planAll_iff hshape hapart']
    simp only [hperm.mem_iff, hscopes.mem_iff]
  -- a plan exists in both orders or in none
  cases hcs : planAll room tree (fun _ => id) cs drawn with
  | error e =>
    cases hds : planAll room tree (fun _ => id) ds drawn with
    | error e' =>
      simp only [run, hcs, hds, bind, Except.bind]
      exact .inl ⟨planAll_eq_error hcs, (planAll_eq_error hds).mono fun _ => hperm.mem_iff.mpr⟩
    | ok g' =>
      obtain ⟨g, hg⟩ := hiff.mpr ⟨g', hds⟩
      rw [hcs] at hg
      cases hg
  | ok g =>
    obtain ⟨g', hds⟩ := hiff.mp ⟨g, hcs⟩
    obtain ⟨hplanner, hbound, hmissing, hnested⟩ := planAll_eq_ok hcs
    obtain ⟨hplanner', hbound', hmissing', hnested'⟩ := planAll_eq_ok hds
    obtain ⟨happly, hlength⟩ := hshape.planOf_perm id drawn (fun s => isIn_of_mem_boundScopes) hapart hscopes
    have happly : g.planner.plan.apply tree.source = g'.planner.plan.apply tree.source := by
      rw [hplanner, hplanner']
      exact happly
    have hlength : g.planner.plan.length = g'.planner.plan.length := by
      rw [hplanner, hplanner']
      exact hlength
    simp only [run, hcs, hds, bind, Except.bind, happly]
    cases g'.planner.plan.apply tree.source with
    | error e => exact .inr rfl
    | ok text =>
      refine ⟨rfl, hlength, ?_, ?_, ?_⟩
      · show g.bound.Perm g'.bound
        rw [hbound, hbound']
        exact hscopes.map _
      · show g.missing.Perm g'.missing
        rw [hmissing, hmissing']
        exact (hperm.filter _).map _
      · show g.nested.Perm g'.nested
        rw [hnested, hnested']
        exact (hperm.filter _).map _

/-! ## Files of two functions -/

/-- The arrow function `x=><b/>` at an offset. -/
def taggedArrow (start : Nat) : Node :=
  .mk { kind := .arrowFunction, start, stop := start + 7 } [
    .mk { kind := .identifier, start, stop := start + 1, field := some .parameter } [],
    .mk { kind := .other "=>", start := start + 1, stop := start + 3, named := false } [],
    .mk { kind := .jsxSelfClosingElement, start := start + 3, stop := start + 7, field := some .body } [
      .mk { kind := .other "<", start := start + 3, stop := start + 4, named := false } [],
      .mk { kind := .identifier, start := start + 4, stop := start + 5, field := some .name } [],
      .mk { kind := .other "/>", start := start + 5, stop := start + 7, named := false } []]]

/-- The component that such a function is. -/
def arrowComponent (start : Nat) : Component := located unknownFunction start .arrowFunction

/-- Edits planned in the order of their starts yield what joining them yields. -/
theorem exists_run_of_join {tree : SourceTree} {ids : IdStream} {cs : List Component} (es : List Edit)
    {text : String}
    (hplan : ((planAll room tree ids cs).toOption.map fun g => g.planner.plan.edits) = some es)
    (hsorted : es.Pairwise fun a b => Edit.Plan.precedes a b = true)
    (hjoin : Edit.Plan.join tree.source 0 es = .ok (Bytes.ofText text)) :
    ∃ r n log, run room tree ids cs = .ok (r, n, log) ∧ r.text = text ∧ r.edits = es.length := by
  obtain ⟨g, hg, hedits, hordered⟩ := exists_ordered es hplan hsorted
  have happly : g.planner.plan.apply tree.source = .ok text := by
    rw [Edit.Plan.apply, Edit.Plan.applyBytes, hordered, hjoin]
    simp only [bind, Except.bind, Bytes.text?_ofText]
  refine ⟨⟨text, g.planner.plan.length, g.bound, g.missing, g.nested⟩, g.planner.drawn, g.log, ?_, rfl,
    congrArg List.length hedits⟩
  rw [run, hg]
  simp only [bind, Except.bind, happly]

/-- Where a scope begins and ends. -/
def Scope.range (s : Scope) : Nat × Nat := (s.node.start, s.node.stop)

/-- The text that binds a tag in a function that finds its properties under the usual name. -/
def boundText : String := rootText unknownFunction "props.pc_el_id"

/-- Two arrow functions, one behind the other. -/
def twoArrows : SourceTree where
  source := Bytes.ofText "x=><b/>;y=><b/>"
  root := .mk { kind := .program, start := 0, stop := 15 } [taggedArrow 0, taggedArrow 8]

/-- The two functions of `twoArrows` yield the same text in both orders. -/
theorem run_perm_twoArrows :
    (Delimited twoArrows.root ∧
      ((boundScopes 100 twoArrows [arrowComponent 0, arrowComponent 8]).Pairwise
        fun s t => s = t ∨ s.Apart t) ∧
      [arrowComponent 0, arrowComponent 8].Perm [arrowComponent 8, arrowComponent 0]) ∧
    ∃ r n log r' n' log',
      run 100 twoArrows (fun _ => "id") [arrowComponent 0, arrowComponent 8] 0 = .ok (r, n, log) ∧
        run 100 twoArrows (fun _ => "id") [arrowComponent 8, arrowComponent 0] 0 = .ok (r', n', log') ∧
        r.edits = 6 ∧ r.Reordered r' := by
  have hshape : Delimited twoArrows.root := by decide +kernel
  have hranges : (boundScopes 100 twoArrows [arrowComponent 0, arrowComponent 8]).map Scope.range =
      [(0, 7), (8, 15)] := by decide +kernel
  have hpairs : ((boundScopes 100 twoArrows [arrowComponent 0, arrowComponent 8]).map Scope.range).Pairwise
      fun a b => (a.2 ≤ b.1 ∨ b.2 ≤ a.1) ∧ a.1 ≠ b.1 := by
    rw [hranges]
    decide
  have hapart : (boundScopes 100 twoArrows [arrowComponent 0, arrowComponent 8]).Pairwise
      fun s t => s = t ∨ s.Apart t := (List.pairwise_map.mp hpairs).imp Or.inr
  have hperm : [arrowComponent 0, arrowComponent 8].Perm [arrowComponent 8, arrowComponent 0] := .swap _ _ _
  have hruns := run_perm 100 twoArrows [arrowComponent 0, arrowComponent 8]
    [arrowComponent 8, arrowComponent 0] "id" 0 hshape hapart hperm
  obtain ⟨r, n, log, hrun, -, hedits⟩ : ∃ r n log,
      run 100 twoArrows (fun _ => "id") [arrowComponent 0, arrowComponent 8] = .ok (r, n, log) ∧
        r.text = "(props, x)=><b" ++ idText "id" ++ boundText ++ "/>;(props, y)=><b" ++ idText "id" ++
          boundText ++ "/>" ∧ r.edits = 6 :=
    exists_run_of_join
      [⟨0, 1, "(props, x)", 0⟩, ⟨5, 5, idText "id", 1⟩, ⟨5, 5, boundText, 2⟩,
        ⟨8, 9, "(props, y)", 3⟩, ⟨13, 13, idText "id", 4⟩, ⟨13, 13, boundText, 5⟩]
      (by decide +kernel) (by decide +kernel) (by decide +kernel)
  refine ⟨⟨hshape, hapart, hperm⟩, ?_⟩
  rw [hrun] at hruns
  cases hrun' : run 100 twoArrows (fun _ => "id") [arrowComponent 8, arrowComponent 0] 0 with
  | error e =>
    rw [hrun'] at hruns
    exact hruns.elim
  | ok result =>
    rw [hrun'] at hruns
    exact ⟨r, n, log, result.1, result.2.1, result.2.2, hrun, rfl, hedits, hruns⟩

/-- An arrow function, and a function without any text at the same place. -/
def emptyFunction : SourceTree where
  source := Bytes.ofText "x=><b/>"
  root :=
    .mk { kind := .program, start := 0, stop := 7 } [
      .mk { kind := .functionDeclaration, start := 0, stop := 0 } [], taggedArrow 0]

/-- The component that a function declaration without a name is. -/
def emptyComponent : Component := located unknownFunction 0 .functionDeclaration

/-- Disjoint scopes are not enough. An empty function counts as the one that starts where it does, so that
the parameter of the other one is only added if that one comes first. -/
theorem empty_scope_order :
    (Delimited emptyFunction.root ∧
      ((emptyFunction.root.nodes.filter isOpeningElement).map Node.start).Nodup ∧
      ((boundScopes 100 emptyFunction [emptyComponent, arrowComponent 0]).Pairwise fun s t =>
        s.node.stop ≤ t.node.start ∨ t.node.stop ≤ s.node.start) ∧
      [emptyComponent, arrowComponent 0].Perm [arrowComponent 0, emptyComponent]) ∧
    (∃ r n log, run 100 emptyFunction (fun _ => "id") [emptyComponent, arrowComponent 0] = .ok (r, n, log) ∧
      r.text = "x=><b" ++ idText "id" ++ boundText ++ "/>" ∧ r.edits = 2) ∧
    ∃ r n log, run 100 emptyFunction (fun _ => "id") [arrowComponent 0, emptyComponent] = .ok (r, n, log) ∧
      r.text = "(props, x)=><b" ++ idText "id" ++ boundText ++ "/>" ∧ r.edits = 3 := by
  have hranges : (boundScopes 100 emptyFunction [emptyComponent, arrowComponent 0]).map Scope.range =
      [(0, 0), (0, 7)] := by decide +kernel
  have hdisjoint : ((boundScopes 100 emptyFunction [emptyComponent, arrowComponent 0]).map Scope.range).Pairwise
      fun a b => a.2 ≤ b.1 ∨ b.2 ≤ a.1 := by
    rw [hranges]
    decide
  refine ⟨⟨by decide +kernel, by decide +kernel, List.pairwise_map.mp hdisjoint, .swap _ _ _⟩, ?_, ?_⟩
  · exact exists_run_of_join [⟨5, 5, idText "id", 0⟩, ⟨5, 5, boundText, 1⟩] (by decide +kernel)
      (by decide +kernel) (by decide +kernel)
  · exact exists_run_of_join [⟨0, 1, "(props, x)", 0⟩, ⟨5, 5, idText "id", 1⟩, ⟨5, 5, boundText, 2⟩]
      (by decide +kernel) (by decide +kernel) (by decide +kernel)

end JsxTagger.Instrument
