import JsxTagger.Instrument.Run

/-!
# Where the ids come from

A run draws its ids one after another, and looks at nothing but what it draws. So a run that starts further on
in a stream of ids is a run that starts at the front of the rest of that stream (`instrumentSource_shift`), and
two runs whose streams go on with the same ids yield the same (`instrumentSource_streams`). The lemmas below
follow the planner: each operation commutes with counting the ids from elsewhere (`Planner.shift`).
-/

namespace JsxTagger.Instrument

open Classify Syntax

variable {room : Nat}

/-! ## Results that are counted from elsewhere -/

/-- Results of which one is a change of the other stay so if they are used in ways that agree. -/
theorem bind_map_of {ε α β γ δ : Type} {x : Except ε α} {x' : Except ε β} {f : α → Except ε γ}
    {f' : β → Except ε δ} {g : α → β} {h : γ → δ} (hx : x' = x.map g)
    (hf : ∀ a, f' (g a) = (f a).map h) : x' >>= f' = (x >>= f).map h := by
  subst hx
  cases x with
  | error e => rfl
  | ok a => exact hf a

/-- The stream of ids that is left after some were drawn. -/
def IdStream.after (ids : IdStream) (k : Nat) : IdStream := fun n => ids (k + n)

/-- The state of planning, had `k` more ids been drawn before. -/
def Planner.shift (k : Nat) (p : Planner) : Planner := { p with drawn := k + p.drawn }

/-- What has become of the components, had `k` more ids been drawn before. -/
def Progress.shift (k : Nat) (g : Progress) : Progress := { g with planner := g.planner.shift k }

variable {source : Bytes} {ids : IdStream} {k : Nat}

/-! ## The planner -/

namespace Planner

theorem tag_shift (p : Planner) (element : Node) :
    (p.shift k).tag source ids element = (p.tag source (ids.after k) element).map (shift k) := by
  rw [tag, tag]
  simp only [show (p.shift k).tagged = p.tagged from rfl]
  split
  · rfl
  · split
    · rfl
    · split
      · rfl
      · split
        · rfl
        · rfl

theorem bindRoot_shift (p : Planner) (element : Node) (name reference : String) :
    (p.shift k).bindRoot source element name reference =
      (p.bindRoot source element name reference).map (shift k) := by
  rw [bindRoot, bindRoot]
  simp only [show (p.shift k).bound = p.bound from rfl]
  split
  · rfl
  · split
    · rfl
    · split
      · rfl
      · split
        · rfl
        · rfl

theorem addField_shift (p : Planner) (pattern : Node) :
    (p.shift k).addField source pattern = (p.addField source pattern).map (Prod.map id (shift k)) := by
  rw [addField, addField]
  refine bind_map_of (g := id) (by cases search _ _ (entries pattern) <;> rfl) fun found => ?_
  cases found with
  | some name => rfl
  | none =>
    dsimp only [id]
    cases (entries pattern).find? (·.kind == .restPattern) with
    | some rest => rfl
    | none => cases (entries pattern).getLast? <;> rfl

theorem addParameter_shift (p : Planner) (function : Node) (name : String) :
    (p.shift k).addParameter source function name = (p.addParameter source function name).map (shift k) := by
  rw [addParameter, addParameter]
  simp only [show (p.shift k).plan = p.plan from rfl]
  split
  · rfl
  · split
    · rfl
    · split
      · rfl
      · rfl
  · rfl

theorem addIdentity_shift (p : Planner) (function : Node) :
    (p.shift k).addIdentity source function =
      (p.addIdentity source function).map (Prod.map id (shift k)) := by
  have hadded (name : String) :
      (do let p ← (p.shift k).addParameter source function name
          .ok (s!"{name}.{identityField}", p) : Except InstrumentError (String × Planner)) =
        (do let p ← p.addParameter source function name
            .ok (s!"{name}.{identityField}", p) : Except InstrumentError (String × Planner)).map
          (Prod.map id (shift k)) :=
    bind_map_of (addParameter_shift p function name) fun _ => rfl
  rw [addIdentity, addIdentity]
  dsimp only
  split
  · exact addField_shift p _
  · refine bind_map_of (g := id) (by cases search _ _ (parameters function).zipIdx <;> rfl) fun found => ?_
    dsimp only [id]
    split
    · exact hadded propsParameter
    · split
      · rfl
      · split
        · rfl
        · split
          · rfl
          · exact hadded fallbackParameter

theorem thread_shift (p : Planner) (function : Node) :
    (p.shift k).thread source function = (p.thread source function).map (Prod.map id (shift k)) := by
  rw [thread, thread]
  simp only [show (p.shift k).references = p.references from rfl]
  split
  · rfl
  · exact bind_map_of (addIdentity_shift p function) fun _ => rfl

end Planner

/-! ## Whole files -/

theorem annotate_shift (name reference : String) (rootSeen : Bool) (p : Planner) (ns : List Node) :
    annotate source ids name reference rootSeen (p.shift k) ns =
      (annotate source (ids.after k) name reference rootSeen p ns).map (Planner.shift k) := by
  induction ns generalizing rootSeen p with
  | nil => rfl
  | cons n ns ih =>
    rw [annotate, annotate]
    split
    · refine bind_map_of (Planner.tag_shift p n) fun p => ?_
      cases rootSeen with
      | true => exact bind_map_of (g := Planner.shift k) rfl fun p => ih true p
      | false => exact bind_map_of (Planner.bindRoot_shift p n name reference) fun p => ih true p
    · exact ih rootSeen p

theorem instrumentDeclaration_shift (p : Planner) (anchor : Node) (name : String) :
    instrumentDeclaration room source ids (p.shift k) anchor name =
      (instrumentDeclaration room source (ids.after k) p anchor name).map (Option.map (Planner.shift k)) := by
  rw [instrumentDeclaration, instrumentDeclaration]
  split
  · exact bind_map_of (annotate_shift name _ false p anchor.walk) fun _ => rfl
  · split
    · rfl
    · rfl
    · rename_i scope _ _
      refine bind_map_of (Planner.thread_shift p scope) fun ⟨reference, p⟩ => ?_
      exact bind_map_of (annotate_shift name reference false p scope.walk) fun _ => rfl

theorem Progress.step_shift (tree : SourceTree) (anchors : List Node) (top : List (Nat × Kind)) (g : Progress)
    (c : Component) :
    (g.shift k).step room tree ids anchors top c = (g.step room tree (ids.after k) anchors top c).map (shift k) := by
  rw [step, step]
  refine bind_map_of (g := id) (by cases locate room tree.source anchors top c <;> rfl) fun found => ?_
  cases found with
  | none => rfl
  | some anchor =>
    dsimp only [id]
    split
    · rfl
    · refine bind_map_of (instrumentDeclaration_shift g.planner anchor c.name.plain) fun planned => ?_
      cases planned <;> rfl

theorem planAll_shift (tree : SourceTree) (cs : List Component) (drawn : Nat) :
    planAll room tree ids cs (k + drawn) = (planAll room tree (ids.after k) cs drawn).map (Progress.shift k) := by
  have hfold (g : Progress) :
      cs.foldlM (Progress.step room tree ids (anchors tree.root) (topLevel tree.root)) (g.shift k) =
        (cs.foldlM (Progress.step room tree (ids.after k) (anchors tree.root) (topLevel tree.root)) g).map
          (Progress.shift k) := by
    induction cs generalizing g with
    | nil => rfl
    | cons c cs ih =>
      rw [List.foldlM_cons, List.foldlM_cons]
      exact bind_map_of (Progress.step_shift tree _ _ g c) ih
  exact hfold { planner := { drawn } }

/-- What a run yields, had `k` more ids been drawn before. -/
def countedFrom (k : Nat) (result : Instrumented × Nat × List Log.Record) :
    Instrumented × Nat × List Log.Record :=
  (result.1, k + result.2.1, result.2.2)

theorem run_shift (tree : SourceTree) (cs : List Component) (drawn : Nat) :
    run room tree ids cs (k + drawn) = (run room tree (ids.after k) cs drawn).map (countedFrom k) := by
  refine bind_map_of (planAll_shift tree cs drawn) fun g => ?_
  simp only [show (g.shift k).planner.plan = g.planner.plan from rfl]
  split
  · rfl
  · rfl

/-- A run that starts further on in a stream of ids starts at the front of what is left of the stream. -/
theorem instrumentSource_shift (parse : Parser) (ids : IdStream) (text : String) (cs : List Component)
    (path : Option String) (k drawn : Nat) :
    instrumentSource room parse ids text cs path (k + drawn) =
      (instrumentSource room parse (ids.after k) text cs path drawn).map (countedFrom k) := by
  rw [instrumentSource, instrumentSource]
  split
  · rfl
  · split
    · rfl
    · split
      · rfl
      · rw [run_shift]
        cases run room _ (ids.after k) cs drawn <;> rfl

/-- Two runs that draw the same ids from then on yield the same. -/
theorem instrumentSource_streams {ids ids' : IdStream} {start start' : Nat}
    (h : ids'.after start' = ids.after start) (parse : Parser) (text : String) (cs : List Component)
    (path : Option String) (n : Nat) :
    ∃ result : Except SourceError (Instrumented × Nat × List Log.Record),
      instrumentSource room parse ids text cs path (start + n) = result.map (countedFrom start) ∧
      instrumentSource room parse ids' text cs path (start' + n) = result.map (countedFrom start') :=
  ⟨instrumentSource room parse (ids.after start) text cs path n, instrumentSource_shift .., by
    rw [← h]
    exact instrumentSource_shift ..⟩

end JsxTagger.Instrument
