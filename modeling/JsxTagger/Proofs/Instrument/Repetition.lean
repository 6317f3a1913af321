import JsxTagger.Proofs.Instrument.Idempotence

/-!
# Components that are listed again

A component that was dealt with has nothing left to plan, whatever was dealt with in between: a later
visit finds its tags among those that got an id or were bound, and its function among those that were
looked at. The state of planning only grows (`Planner.Extends`), and a visit that succeeded once
changes nothing in a state that comes after it (`tag_again`, `bindRoot_again`, `thread_again`,
`annotate_again`, `instrumentDeclaration_again`, `step_again`).

So components that are listed again do not change what a run plans (`run_repeated`).
-/

namespace JsxTagger.Instrument

open Classify Syntax

variable {room : Nat}

/-- A state of planning that comes after another one: what was dealt with still counts. -/
structure Planner.Extends (p q : Planner) : Prop where
  /-- Elements that got an id. -/
  tagged : ∀ start ∈ p.tagged, start ∈ q.tagged
  /-- Elements that were bound. -/
  bound : ∀ start ∈ p.bound, start ∈ q.bound
  /-- Functions that were looked at. -/
  references : ∀ start reference, p.references.lookup start = some reference →
    q.references.lookup start = some reference

namespace Planner.Extends

variable {p q r : Planner}

theorem refl (p : Planner) : p.Extends p where
  tagged := fun _ h => h
  bound := fun _ h => h
  references := fun _ _ h => h

theorem trans (hpq : p.Extends q) (hqr : q.Extends r) : p.Extends r where
  tagged := fun start h => hqr.tagged start (hpq.tagged start h)
  bound := fun start h => hqr.bound start (hpq.bound start h)
  references := fun start reference h => hqr.references start reference (hpq.references start reference h)

end Planner.Extends

section Visits

variable {source : Bytes} {ids : IdStream} {p p' q : Planner}

/-! ## Tags -/

/-- Where an attribute was added, or was found to be there, none is added to a tag that counts as seen
if it did then or got the attribute then. -/
theorem addAttribute_again {element : Node} {seen seen' : Bool} {name : String}
    {added added' : Nat → Planner} (h : addAttribute source p element seen name added = .ok p')
    (hseen : seen = true → seen' = true) (hadded : ∀ offset, p' = added offset → seen' = true) :
    addAttribute source q element seen' name added' = .ok q := by
  by_cases hseen' : seen' = true
  · unfold addAttribute
    rw [if_pos hseen']
  have hnot : ¬ seen = true := fun h => hseen' (hseen h)
  unfold addAttribute at h ⊢
  rw [if_neg hnot] at h
  rw [if_neg hseen']
  split at h
  · cases h
  · rename_i hlegible
    rw [if_neg hlegible]
    split at h
    · rename_i hname
      rw [if_pos hname]
    · split at h
      · cases h
      · rename_i offset _
        exact absurd (hadded offset (Except.ok.inj h).symm) hseen'

theorem tag_extends {element : Node} (h : p.tag source ids element = .ok p') : p.Extends p' := by
  rw [tag_eq] at h
  rw [addAttribute_eq_ok h]
  split
  · exact .refl p
  · exact ⟨fun _ => List.mem_cons_of_mem _, fun _ h => h, fun _ _ h => h⟩

theorem tag_again {element : Node} (h : p.tag source ids element = .ok p') (hq : p'.Extends q) :
    q.tag source ids element = .ok q := by
  have hpq := (tag_extends h).trans hq
  rw [tag_eq] at h ⊢
  refine addAttribute_again h ?_ ?_
  · intro hseen
    rw [List.contains_iff_mem] at hseen ⊢
    exact hpq.tagged _ hseen
  · intro offset hp'
    rw [List.contains_iff_mem]
    apply hq.tagged
    rw [hp']
    exact List.mem_cons_self

theorem bindRoot_extends {element : Node} {name reference : String}
    (h : p.bindRoot source element name reference = .ok p') : p.Extends p' := by
  rw [bindRoot_eq] at h
  rw [addAttribute_eq_ok h]
  split
  · exact .refl p
  · exact ⟨fun _ h => h, fun _ => List.mem_cons_of_mem _, fun _ _ h => h⟩

theorem bindRoot_again {element : Node} {name reference : String}
    (h : p.bindRoot source element name reference = .ok p') (hq : p'.Extends q) :
    q.bindRoot source element name reference = .ok q := by
  have hpq := (bindRoot_extends h).trans hq
  rw [bindRoot_eq] at h ⊢
  refine addAttribute_again h ?_ ?_
  · intro hseen
    rw [List.contains_iff_mem] at hseen ⊢
    exact hpq.bound _ hseen
  · intro offset hp'
    rw [List.contains_iff_mem]
    apply hq.bound
    rw [hp']
    exact List.mem_cons_self

/-! ## Functions -/

/-- A function that was looked at is on record with the expression that was found. -/
theorem thread_extends {function : Node} {reference : String}
    (h : p.thread source function = .ok (reference, p')) :
    p.Extends p' ∧ p'.references.lookup function.start = some reference := by
  unfold Planner.thread at h
  cases hlookup : p.references.lookup function.start with
  | some found =>
    rw [hlookup] at h
    cases h
    exact ⟨.refl p, hlookup⟩
  | none =>
    rw [hlookup] at h
    obtain ⟨⟨found, p₁⟩, hadd, h⟩ := Except.bind_eq_ok.mp h
    obtain ⟨-, rfl⟩ := addIdentity_eq_ok hadd
    cases h
    refine ⟨⟨fun _ h => h, fun _ h => h, fun start r hr => ?_⟩, List.lookup_cons_self⟩
    -- the new entry stands for a function that had none
    have hne : (start == function.start) = false := by
      rw [beq_eq_false_iff_ne]
      rintro rfl
      rw [hlookup] at hr
      cases hr
    show List.lookup start ((function.start, reference) :: p.references) = some r
    rw [List.lookup_cons, hne]
    exact hr

theorem thread_again {function : Node} {reference : String}
    (h : p.thread source function = .ok (reference, p')) (hq : p'.Extends q) :
    q.thread source function = .ok (reference, q) := by
  unfold Planner.thread
  rw [hq.references _ _ (thread_extends h).2]

/-! ## Declarations -/

theorem annotate_tag {name reference : String} {rootSeen : Bool} {n : Node} {ns : List Node}
    (hn : isOpeningElement n = true) :
    annotate source ids name reference rootSeen p (n :: ns) = (do
      let p₁ ← p.tag source ids n
      (if rootSeen then .ok p₁ else p₁.bindRoot source n name reference) >>= fun p₂ =>
        annotate source ids name reference true p₂ ns) := by
  rw [annotate, if_pos hn]
  cases rootSeen <;> rfl

theorem annotate_extends {name reference : String} {rootSeen : Bool} {ns : List Node}
    (h : annotate source ids name reference rootSeen p ns = .ok p') : p.Extends p' := by
  induction ns generalizing p rootSeen with
  | nil =>
    cases h
    exact .refl _
  | cons n ns ih =>
    by_cases hn : isOpeningElement n = true
    · rw [annotate_tag hn] at h
      obtain ⟨p₁, htag, h⟩ := Except.bind_eq_ok.mp h
      obtain ⟨p₂, hroot, h⟩ := Except.bind_eq_ok.mp h
      refine (tag_extends htag).trans (Planner.Extends.trans ?_ (ih h))
      split at hroot
      · cases hroot
        exact .refl p₁
      · exact bindRoot_extends hroot
    · rw [annotate, if_neg hn] at h
      exact ih h

theorem annotate_again {name reference : String} {rootSeen : Bool} {ns : List Node}
    (h : annotate source ids name reference rootSeen p ns = .ok p') (hq : p'.Extends q) :
    annotate source ids name reference rootSeen q ns = .ok q := by
  induction ns generalizing p rootSeen with
  | nil => rfl
  | cons n ns ih =>
    by_cases hn : isOpeningElement n = true
    · rw [annotate_tag hn] at h ⊢
      obtain ⟨p₁, htag, h⟩ := Except.bind_eq_ok.mp h
      obtain ⟨p₂, hroot, h⟩ := Except.bind_eq_ok.mp h
      have hp₂ : p₂.Extends q := (annotate_extends h).trans hq
      have hagain : p₁.Extends q ∧
          (if rootSeen then Except.ok q else q.bindRoot source n name reference) = .ok q := by
        cases rootSeen with
        | true =>
          cases hroot
          exact ⟨hp₂, rfl⟩
        | false => exact ⟨(bindRoot_extends hroot).trans hp₂, bindRoot_again hroot hp₂⟩
      exact Except.bind_eq_ok.mpr
        ⟨q, tag_again htag hagain.1, Except.bind_eq_ok.mpr ⟨q, hagain.2, ih h⟩⟩
    · rw [annotate, if_neg hn] at h ⊢
      exact ih h

theorem instrumentDeclaration_extends {anchor : Node} {name : String} {r : Option Planner}
    (h : instrumentDeclaration room source ids p anchor name = .ok r) : p.Extends (r.getD p) := by
  unfold instrumentDeclaration at h
  split at h
  · obtain ⟨p₁, hannotate, h⟩ := Except.bind_eq_ok.mp h
    cases h
    exact annotate_extends hannotate
  · split at h
    · cases h
    · cases h
      exact .refl p
    · obtain ⟨⟨reference, p₁⟩, hthread, h⟩ := Except.bind_eq_ok.mp h
      obtain ⟨p₂, hannotate, h⟩ := Except.bind_eq_ok.mp h
      cases h
      exact (thread_extends hthread).1.trans (annotate_extends hannotate)

theorem instrumentDeclaration_again {anchor : Node} {name : String} {r : Option Planner}
    (h : instrumentDeclaration room source ids p anchor name = .ok r) (hq : (r.getD p).Extends q) :
    instrumentDeclaration room source ids q anchor name = .ok (r.map fun _ => q) := by
  unfold instrumentDeclaration at h ⊢
  split at h
  · rename_i hclass
    rw [if_pos hclass]
    obtain ⟨p₁, hannotate, h⟩ := Except.bind_eq_ok.mp h
    cases h
    exact Except.bind_eq_ok.mpr ⟨q, annotate_again hannotate hq, rfl⟩
  · rename_i hclass
    rw [if_neg hclass]
    split at h
    · cases h
    · cases h
      rfl
    · obtain ⟨⟨reference, p₁⟩, hthread, h⟩ := Except.bind_eq_ok.mp h
      obtain ⟨p₂, hannotate, h⟩ := Except.bind_eq_ok.mp h
      cases h
      have hp₁ : p₁.Extends q := (annotate_extends hannotate).trans hq
      exact Except.bind_eq_ok.mpr ⟨(reference, q), thread_again hthread hp₁,
        Except.bind_eq_ok.mpr ⟨q, annotate_again hannotate hq, rfl⟩⟩

end Visits

/-! ## Runs -/

section Runs

variable {tree : SourceTree} {ids : IdStream} {as : List Node} {top : List (Nat × Kind)}

theorem step_extends {g g' : Progress} {c : Component} (h : g.step room tree ids as top c = .ok g') :
    g.planner.Extends g'.planner := by
  obtain ⟨found, -, h⟩ := Except.bind_eq_ok.mp h
  cases found with
  | none =>
    cases h
    exact .refl _
  | some anchor =>
    simp only at h
    split at h
    · cases h
      exact .refl _
    · obtain ⟨r, hr, h⟩ := Except.bind_eq_ok.mp h
      have hextends := instrumentDeclaration_extends hr
      cases r <;>
      · cases h
        exact hextends

/-- A component that was dealt with is dealt with again without a change to the state of planning. -/
theorem step_again {g g' k : Progress} {c : Component} (h : g.step room tree ids as top c = .ok g')
    (hk : g'.planner.Extends k.planner) :
    ∃ k', k.step room tree ids as top c = .ok k' ∧ k'.planner = k.planner := by
  obtain ⟨found, hfound, h⟩ := Except.bind_eq_ok.mp h
  unfold Progress.step
  rw [hfound]
  cases found with
  | none => exact ⟨_, rfl, rfl⟩
  | some anchor =>
    simp only [bind, Except.bind] at h ⊢
    split at h
    · rename_i htop
      rw [if_pos htop]
      exact ⟨_, rfl, rfl⟩
    · rename_i htop
      rw [if_neg htop]
      cases hr : instrumentDeclaration room tree.source ids g.planner anchor c.name.plain with
      | error e =>
        rw [hr] at h
        cases h
      | ok r =>
        rw [hr] at h
        have hextends : (r.getD g.planner).Extends k.planner := by
          cases r <;>
          · cases h
            exact hk
        rw [instrumentDeclaration_again hr hextends]
        cases r <;> exact ⟨_, rfl, rfl⟩

/-- Every component of a run was dealt with in a state that the run has gone through. -/
theorem exists_step_of_mem {cs : List Component} {g g' : Progress}
    (h : cs.foldlM (Progress.step room tree ids as top) g = .ok g') :
    g.planner.Extends g'.planner ∧ ∀ c ∈ cs, ∃ g₁ g₂ : Progress,
      g₁.step room tree ids as top c = .ok g₂ ∧ g₂.planner.Extends g'.planner := by
  induction cs generalizing g with
  | nil =>
    cases h
    exact ⟨.refl _, fun c hc => absurd hc List.not_mem_nil⟩
  | cons c cs ih =>
    rw [List.foldlM_cons] at h
    obtain ⟨g₁, hstep, h⟩ := Except.bind_eq_ok.mp h
    obtain ⟨hextends, hall⟩ := ih h
    exact ⟨(step_extends hstep).trans hextends,
      List.forall_mem_cons.mpr ⟨⟨g, g₁, hstep, hextends⟩, hall⟩⟩

/-- Components that were dealt with are dealt with again without a change. -/
theorem exists_foldlM_again {ds : List Component} {g : Progress}
    (hds : ∀ d ∈ ds, ∃ g₁ g₂ : Progress,
      g₁.step room tree ids as top d = .ok g₂ ∧ g₂.planner.Extends g.planner) :
    ∃ g', ds.foldlM (Progress.step room tree ids as top) g = .ok g' ∧ g'.planner = g.planner := by
  induction ds generalizing g with
  | nil => exact ⟨g, rfl, rfl⟩
  | cons d ds ih =>
    rw [List.forall_mem_cons] at hds
    obtain ⟨⟨g₁, g₂, hstep, hextends⟩, hrest⟩ := hds
    obtain ⟨k, hk, hplanner⟩ := step_again hstep hextends
    rw [← hplanner] at hrest ⊢
    obtain ⟨g', hg', heq⟩ := ih hrest
    refine ⟨g', ?_, heq⟩
    rw [List.foldlM_cons]
    exact Except.bind_eq_ok.mpr ⟨k, hk, hg'⟩

/-- A run over further components that are listed already ends in the same state of planning. -/
theorem planAll_repeated {cs ds : List Component} {drawn : Nat} {g : Progress}
    (h : ∀ d ∈ ds, d ∈ cs) (hg : planAll room tree ids cs drawn = .ok g) :
    ∃ g', planAll room tree ids (cs ++ ds) drawn = .ok g' ∧ g'.planner = g.planner := by
  obtain ⟨g', hg', hplanner⟩ := exists_foldlM_again fun d hd => (exists_step_of_mem hg).2 d (h d hd)
  refine ⟨g', ?_, hplanner⟩
  unfold planAll
  rw [List.foldlM_append]
  exact Except.bind_eq_ok.mpr ⟨g, hg, hg'⟩

theorem planAll_append_eq_error {cs : List Component} (ds : List Component) {drawn : Nat}
    {e : InstrumentError} (h : planAll room tree ids cs drawn = .error e) :
    planAll room tree ids (cs ++ ds) drawn = .error e := by
  unfold planAll
  rw [List.foldlM_append]
  exact Except.bind_eq_error.mpr (Or.inl h)

end Runs

/-- What a run writes: the new text, the number of edits and the number of ids drawn. -/
def written (result : Instrumented × Nat × List Log.Record) : String × Nat × Nat :=
  (result.1.text, result.1.edits, result.2.1)

/-- Components that are listed again add nothing: the run plans the same edits, draws the same ids and
yields the same text, or fails with the same error. -/
theorem run_repeated (room : Nat) (tree : SourceTree) (ids : IdStream) (cs ds : List Component) (drawn : Nat)
    (h : ∀ d ∈ ds, d ∈ cs) :
    (planAll room tree ids (cs ++ ds) drawn).map (·.planner) =
        (planAll room tree ids cs drawn).map (·.planner) ∧
      (run room tree ids (cs ++ ds) drawn).map written = (run room tree ids cs drawn).map written := by
  cases hplan : planAll room tree ids cs drawn with
  | error e =>
    have hagain := planAll_append_eq_error ds hplan
    unfold run
    rw [hplan, hagain]
    exact ⟨rfl, rfl⟩
  | ok g =>
    obtain ⟨g', hagain, hplanner⟩ := planAll_repeated h hplan
    unfold run
    rw [hplan, hagain]
    refine ⟨congrArg Except.ok hplanner, ?_⟩
    simp only [bind, Except.bind, hplanner]
    cases g.planner.plan.apply tree.source <;> rfl

/-- The one component of `nestedTags`, listed three times. -/
theorem run_repeated_nestedTags :
    (∀ d ∈ classifyComponents nestedTags ++ classifyComponents nestedTags,
        d ∈ classifyComponents nestedTags) ∧
      (run 100 nestedTags numberedIds (classifyComponents nestedTags ++
        (classifyComponents nestedTags ++ classifyComponents nestedTags))).map written =
          .ok (taggedText, 4, 2) := by
  have h : ∀ d ∈ classifyComponents nestedTags ++ classifyComponents nestedTags,
      d ∈ classifyComponents nestedTags := by
    intro d hd
    rcases List.mem_append.mp hd with hd | hd <;> exact hd
  refine ⟨h, ?_⟩
  rw [(run_repeated 100 nestedTags numberedIds _ _ 0 h).2]
  obtain ⟨first, log, hrun, hedits, htext⟩ := run_nestedTags
  rw [hrun, ← hedits, ← htext]
  rfl

end JsxTagger.Instrument
