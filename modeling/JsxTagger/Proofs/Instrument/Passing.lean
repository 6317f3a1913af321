import Mathlib.Data.List.Induction
import JsxTagger.Instrument.Identity
import JsxTagger.Proofs.Syntax.Nesting

/-!
# How a function comes by the identity

`Planner.addIdentity` looks at the parameters of a function, decides what has to be added and plans
it. Here the decision is a function of its own, `passing`, and `addIdentity_eq` says that nothing but the
decision is carried out, if the nodes can be read that it depends on. So the plan grows by exactly the
changes that belong to the decision (`addIdentity_eq_ok`). `addIdentity_eq_error` lists what can stop it.
-/

namespace JsxTagger

theorem Except.bind_eq_ok {ε α β : Type} {x : Except ε α} {f : α → Except ε β} {b : β} :
    (x >>= f) = .ok b ↔ ∃ a, x = .ok a ∧ f a = .ok b := by
  cases x with
  | error e => simp [bind, Except.bind]
  | ok a => simp [bind, Except.bind]

theorem Except.bind_eq_error {ε α β : Type} {x : Except ε α} {f : α → Except ε β} {e : ε} :
    (x >>= f) = .error e ↔ x = .error e ∨ ∃ a, x = .ok a ∧ f a = .error e := by
  cases x with
  | error e' => simp [bind, Except.bind]
  | ok a => simp [bind, Except.bind]

namespace Instrument

open Classify Syntax

/-! ## Questions put to a list -/

section Search

variable {α β : Type} {obstacle : α → Option InstrumentError} {ask : α → Option β}

/-- A search that comes to an end has found the first answer. -/
theorem search_eq_ok {as : List α} {r : Option β} (h : search obstacle ask as = .ok r) :
    as.findSome? ask = r := by
  induction as with
  | nil => simpa [search] using h
  | cons a as ih =>
    rw [search] at h
    split at h
    · cases h
    · rename_i b _ hb
      cases h
      rw [List.findSome?_cons, hb]
    · rename_i _ hb
      rw [List.findSome?_cons, hb]
      exact ih h

/-- A search is stopped by one of the members. -/
theorem search_eq_error {as : List α} {e : InstrumentError}
    (h : search obstacle ask as = .error e) : ∃ a ∈ as, obstacle a = some e := by
  induction as with
  | nil => simp [search] at h
  | cons a as ih =>
    rw [search] at h
    split at h
    · rename_i error _ ho
      cases h
      exact ⟨a, List.mem_cons_self, ho⟩
    · cases h
    · obtain ⟨b, hb, ho⟩ := ih h
      exact ⟨b, List.mem_cons_of_mem _ hb, ho⟩

end Search

theorem unlessLegible_eq_some {legible : Bool} {e : InstrumentError} :
    unlessLegible legible = some e ↔ legible = false ∧ e = .illegible := by
  cases legible <;> simp [unlessLegible, eq_comm]

/-! ## Changes to the text -/

/-- A stretch of the source and the text that takes its place. -/
structure Change where
  /-- Where the stretch begins. -/
  start : Nat
  /-- Where the stretch ends. -/
  stop : Nat
  /-- The new text. -/
  text : String
deriving DecidableEq, Repr

/-- The plan that makes changes in the given order. -/
def planOf (changes : List Change) : Edit.Plan :=
  changes.foldl (fun p c => p.push c.start c.stop c.text) .empty

/-- A planner that has planned further changes. -/
def Planner.record (p : Planner) (changes : List Change) : Planner :=
  { p with plan := changes.foldl (fun q c => q.push c.start c.stop c.text) p.plan }

@[simp]
theorem Planner.record_nil (p : Planner) : p.record [] = p := rfl

theorem planOf_append (cs ds : List Change) :
    planOf (cs ++ ds) = ds.foldl (fun p c => p.push c.start c.stop c.text) (planOf cs) := by
  rw [planOf, List.foldl_append]
  rfl

theorem length_edits_planOf (changes : List Change) :
    (planOf changes).edits.length = changes.length := by
  induction changes using List.reverseRecOn with
  | nil => rfl
  | append_singleton cs c ih => simp [planOf_append, Edit.Plan.push, ih]

/-- The edits of a plan are the changes, numbered in their order. -/
theorem edits_planOf (changes : List Change) :
    (planOf changes).edits =
      changes.zipIdx.map fun p => ⟨p.1.start, p.1.stop, p.1.text, p.2⟩ := by
  induction changes using List.reverseRecOn with
  | nil => rfl
  | append_singleton cs c ih =>
    rw [planOf_append, List.zipIdx_append, List.map_append, ← ih]
    simp [Edit.Plan.push, length_edits_planOf]

/-! ## The decision -/

/-- How a function comes by the identity. -/
inductive Passing where
  /-- It is there, and this expression stands for it. -/
  | present (reference : String)
  /-- A field has to be added to an object pattern. -/
  | field (pattern : Node)
  /-- A parameter has to be added in front of the others. -/
  | parameter (name : String)

/-- The decision by the names of parameters that hold no object pattern. A rest parameter collects the
arguments, and the properties are the first of them. -/
def namedPassing (source : Bytes) (params : List Node) : Passing :=
  match params.zipIdx.find? fun q => boundName? source q.1 == some propsParameter with
  | none => .parameter propsParameter
  | some (parameter, i) =>
    if parameter.kind ≠ .restPattern then .present s!"{propsParameter}.{identityField}"
    else if i = 0 then .present s!"{propsParameter}[0].{identityField}"
    else if params.head?.bind (boundName? source) == some fallbackParameter then
      .present s!"{fallbackParameter}.{identityField}"
    else .parameter fallbackParameter

/-- The decision by names adds no field. It adds a parameter of the usual name, unless a rest parameter
has taken it. -/
theorem namedPassing_cases (source : Bytes) (params : List Node) :
    (∃ reference, namedPassing source params = .present reference) ∨
      namedPassing source params = .parameter propsParameter ∨
      namedPassing source params = .parameter fallbackParameter := by
  rw [namedPassing]
  split
  · exact Or.inr (Or.inl rfl)
  · split
    · exact Or.inl ⟨_, rfl⟩
    · split
      · exact Or.inl ⟨_, rfl⟩
      · split
        · exact Or.inl ⟨_, rfl⟩
        · exact Or.inr (Or.inr rfl)

/-- The decision for a function, read off its parameters. -/
def passing (source : Bytes) (function : Node) : Passing :=
  match (parameters function).findSome? objectPattern? with
  | some pattern =>
    match (entries pattern).findSome? (identityBinding? source) with
    | some name => .present name
    | none => .field pattern
  | none => namedPassing source (parameters function)

/-- A parameter that is added has one of two names. -/
theorem eq_of_passing_parameter {source : Bytes} {function : Node} {name : String}
    (h : passing source function = .parameter name) : name = propsParameter ∨ name = fallbackParameter := by
  rw [passing] at h
  split at h
  · split at h <;> cases h
  · rcases namedPassing_cases source (parameters function) with ⟨r, hr⟩ | hr | hr
    · rw [hr] at h
      cases h
    · rw [hr] at h
      cases h
      exact .inl rfl
    · rw [hr] at h
      cases h
      exact .inr rfl

/-- The expression for the identity once the decision is carried out. -/
def Passing.reference : Passing → String
  | .present reference => reference
  | .field _ => identityField
  | .parameter name => s!"{name}.{identityField}"

/-- How a field is added to an object pattern: in front of a rest element, else behind the last
entry, else between the braces. -/
def fieldChange (pattern : Node) : Change :=
  match (entries pattern).find? (·.kind == .restPattern), (entries pattern).getLast? with
  | some rest, _ => ⟨rest.start, rest.start, s!"{identityField}, "⟩
  | none, some last => ⟨last.stop, last.stop, s!", {identityField}"⟩
  | none, none => ⟨pattern.start + 1, pattern.start + 1, s!" {identityField} "⟩

/-- How a parameter is added to a function: to its list, or around its single bare parameter. -/
def parameterChange? (source : Bytes) (function : Node) (name : String) : Option Change :=
  match function.child? .parameters, function.child? .parameter with
  | some list, _ =>
    let separator := if (parameters function).isEmpty then "" else ", "
    some ⟨list.start + 1, list.start + 1, s!"{name}{separator}"⟩
  | none, some bare => some ⟨bare.start, bare.stop, s!"({name}, {bare.text source})"⟩
  | none, none => none

/-- The change that a decision makes to a function, if it makes one. -/
def Passing.change? (source : Bytes) (function : Node) : Passing → Option Change
  | .present _ => none
  | .field pattern => some (fieldChange pattern)
  | .parameter name => parameterChange? source function name

/-! ## What the decision depends on -/

theorem mem_entries {n c : Node} (h : c ∈ entries n) : c ∈ n.nodes := by
  rw [entries, List.mem_filter, Node.mem_namedChildren] at h
  exact Node.mem_nodes_of_mem_children h.1.1

theorem mem_nodes_of_mem_parameters {function q : Node} (h : q ∈ parameters function) :
    q ∈ function.nodes := by
  rw [parameters] at h
  split at h
  · rename_i list _ hlist
    exact Node.mem_nodes_trans
      (Node.mem_nodes_of_mem_children (Node.mem_children_of_child? hlist)) (mem_entries h)
  · rename_i name _ hname
    rw [List.mem_singleton.mp h]
    exact Node.mem_nodes_of_mem_children (Node.mem_children_of_child? hname)
  · cases h

theorem objectPattern?_eq_some {q pattern : Node} (h : objectPattern? q = some pattern) :
    pattern ∈ q.nodes ∧ pattern.kind = .objectPattern := by
  rw [objectPattern?] at h
  split at h
  · rename_i hkind
    cases h
    exact ⟨Node.mem_nodes_self q, hkind⟩
  · split at h
    · split at h
      · rename_i left hleft
        split at h
        · rename_i hkind
          cases h
          exact ⟨Node.mem_nodes_of_mem_children (Node.mem_children_of_child? hleft), hkind⟩
        · cases h
      · cases h
    · cases h

theorem mem_nodes_of_boundNode? {q n : Node} (h : boundNode? q = some n) : n ∈ q.nodes := by
  obtain ⟨htarget, -⟩ := Option.filter_eq_some_iff.mp h
  split at htarget
  · exact Node.mem_nodes_of_mem_children (Node.mem_children_of_child? htarget)
  · split at htarget
    · exact Node.mem_nodes_of_mem_children (Node.mem_children_of_firstNamedChild? htarget)
    · cases htarget
      exact Node.mem_nodes_self q

theorem mem_nodes_of_pairTarget? {entry n : Node} (h : pairTarget? entry = some n) :
    n ∈ entry.nodes := by
  rw [pairTarget?] at h
  split at h
  · cases h
  · rename_i value hvalue
    have hv := Node.mem_nodes_of_mem_children (Node.mem_children_of_child? hvalue)
    split at h
    · exact Node.mem_nodes_trans hv
        (Node.mem_nodes_of_mem_children (Node.mem_children_of_child? h))
    · cases h
      exact hv

theorem exists_of_all_eq_false {o : Option Node} {p : Node → Bool} (h : o.all p = false) :
    ∃ n, o = some n ∧ p n = false := by
  cases o with
  | none => simp at h
  | some n => exact ⟨n, rfl, by simpa using h⟩

theorem exists_of_entryLegible_eq_false {source : Bytes} {entry : Node}
    (h : entryLegible source entry = false) : ∃ n ∈ entry.nodes, n.isLegible source = false := by
  have hchild : ∀ {f : Field}, (entry.child? f).all (·.isLegible source) = false →
      ∃ n ∈ entry.nodes, n.isLegible source = false := by
    intro f hf
    obtain ⟨n, hn, hl⟩ := exists_of_all_eq_false hf
    exact ⟨n, Node.mem_nodes_of_mem_children (Node.mem_children_of_child? hn), hl⟩
  rw [entryLegible] at h
  split at h
  · exact ⟨entry, Node.mem_nodes_self entry, h⟩
  · exact hchild h
  · rcases Bool.and_eq_false_iff.mp h with h | h
    · exact hchild h
    · obtain ⟨-, h⟩ := Bool.or_eq_false_iff.mp h
      obtain ⟨n, hn, hl⟩ := exists_of_all_eq_false h
      exact ⟨n, mem_nodes_of_pairTarget? (Option.filter_eq_some_iff.mp hn).1, hl⟩
  · cases h

/-- A pattern that gets an entry stands in the function. -/
theorem passing_eq_field {source : Bytes} {f pattern : Node}
    (h : passing source f = .field pattern) :
    pattern ∈ f.nodes ∧ pattern.kind = .objectPattern := by
  rw [passing] at h
  split at h
  · rename_i q hq
    split at h
    · cases h
    · cases h
      obtain ⟨parameter, hmem, hpattern⟩ := List.exists_of_findSome?_eq_some hq
      obtain ⟨hin, hkind⟩ := objectPattern?_eq_some hpattern
      exact ⟨Node.mem_nodes_trans (mem_nodes_of_mem_parameters hmem) hin, hkind⟩
  · rcases namedPassing_cases source (parameters f) with ⟨reference, hcase⟩ | hcase | hcase <;>
      rw [hcase] at h <;> cases h

/-- What can be planned for the parameters of a function: an entry of an object pattern, a new head of the list,
or a list in place of the single name. -/
inductive ThreadChange (source : Bytes) (f : Node) : Change → Prop where
  | field {pattern : Node} (hpassing : passing source f = .field pattern) :
      ThreadChange source f (fieldChange pattern)
  | list {list : Node} {name separator : String} (hpassing : passing source f = .parameter name)
      (hlist : f.child? .parameters = some list) (hseparator : separator = "" ∨ separator = ", ") :
      ThreadChange source f ⟨list.start + 1, list.start + 1, s!"{name}{separator}"⟩
  | bare {bare : Node} {name : String} (hpassing : passing source f = .parameter name)
      (hlist : f.child? .parameters = none) (hbare : f.child? .parameter = some bare) :
      ThreadChange source f ⟨bare.start, bare.stop, s!"({name}, {bare.text source})"⟩

/-- The change of a decision is one of these. -/
theorem ThreadChange.of_change? {source : Bytes} {f : Node} {c : Change}
    (hc : (passing source f).change? source f = some c) : ThreadChange source f c := by
  cases hpassing : passing source f with
  | present reference =>
    rw [hpassing] at hc
    cases hc
  | field pattern =>
    rw [hpassing] at hc
    cases hc
    exact .field hpassing
  | parameter name =>
    rw [hpassing, Passing.change?, parameterChange?] at hc
    split at hc
    · rename_i list hlist
      cases hc
      refine .list hpassing hlist ?_
      split
      · exact .inl rfl
      · exact .inr rfl
    · rename_i bare hlist hbare
      cases hc
      exact .bare hpassing hlist hbare
    · cases hc

/-! ## The decision is what gets planned -/

/-- Plans what belongs to a decision. -/
def Planner.carryOut (source : Bytes) (p : Planner) (function : Node) :
    Passing → Except InstrumentError (String × Planner)
  | .present reference => .ok (reference, p)
  | .field pattern => .ok (identityField, p.record [fieldChange pattern])
  | .parameter name => do
    let q ← p.addParameter source function name
    .ok (s!"{name}.{identityField}", q)

/-- A node below the function cannot be read, and the identity is made reachable in no plan. -/
def Obstructed (source : Bytes) (function : Node) : Prop :=
  (∃ n ∈ function.nodes, n.isLegible source = false) ∧
    ∀ p : Planner, p.addIdentity source function = .error .illegible

/-- An object pattern has the identity, or gets a field for it. -/
theorem addField_eq (source : Bytes) (pattern : Node) :
    (∃ entry ∈ entries pattern, entryLegible source entry = false ∧
        ∀ p : Planner, p.addField source pattern = .error .illegible) ∨
      ∀ p : Planner, p.addField source pattern =
        match (entries pattern).findSome? (identityBinding? source) with
        | some name => .ok (name, p)
        | none => .ok (identityField, p.record [fieldChange pattern]) := by
  simp only [Planner.addField]
  cases hfound : search (unlessLegible <| entryLegible source ·) (identityBinding? source)
      (entries pattern) with
  | error e =>
    obtain ⟨entry, hentry, ho⟩ := search_eq_error hfound
    obtain ⟨hl, rfl⟩ := unlessLegible_eq_some.mp ho
    exact .inl ⟨entry, hentry, hl, fun p => rfl⟩
  | ok found =>
    refine .inr fun p => ?_
    rw [search_eq_ok hfound]
    cases found with
    | some name => rfl
    | none =>
      show Except.ok _ = Except.ok _
      rw [fieldChange]
      cases (entries pattern).find? (·.kind == .restPattern) with
      | some rest => rfl
      | none => cases (entries pattern).getLast? <;> rfl

/-- The first parameter that takes the properties, with its place. -/
theorem findSome?_takesProps (source : Bytes) (qs : List (Node × Nat)) :
    (qs.findSome? fun q => if boundName? source q.1 = some propsParameter then some q else none) =
      qs.find? fun q => boundName? source q.1 == some propsParameter := by
  induction qs with
  | nil => rfl
  | cons q qs ih =>
    rw [List.findSome?_cons, List.find?_cons]
    by_cases hq : boundName? source q.1 = some propsParameter
    · simp [hq]
    · have hb : (boundName? source q.1 == some propsParameter) = false :=
        beq_eq_false_iff_ne.mpr hq
      simp [hq, hb, ih]

/-- The identity is made reachable as was decided, whatever is planned already, unless a node cannot be read
that the decision depends on. -/
theorem addIdentity_eq (source : Bytes) (function : Node) :
    Obstructed source function ∨
      ∀ p : Planner, p.addIdentity source function =
        p.carryOut source function (passing source function) := by
  cases hpattern : (parameters function).findSome? objectPattern? with
  | some pattern =>
    obtain ⟨q, hq, hqp⟩ := List.exists_of_findSome?_eq_some hpattern
    simp only [Obstructed, Planner.addIdentity, passing, hpattern]
    rcases addField_eq source pattern with ⟨entry, hentry, hl, herror⟩ | hfield
    · obtain ⟨n, hn, hl⟩ := exists_of_entryLegible_eq_false hl
      have hin := Node.mem_nodes_trans (mem_nodes_of_mem_parameters hq) (objectPattern?_eq_some hqp).1
      exact .inl ⟨⟨n, Node.mem_nodes_trans (Node.mem_nodes_trans hin (mem_entries hentry)) hn, hl⟩, herror⟩
    · refine .inr fun p => ?_
      rw [hfield]
      cases (entries pattern).findSome? (identityBinding? source) <;> rfl
  | none =>
    simp only [Obstructed, Planner.addIdentity, passing, hpattern]
    cases hfound : search
        (fun q : Node × Nat => unlessLegible ((boundNode? q.1).all (·.isLegible source)))
        (fun q => if boundName? source q.1 = some propsParameter then some q else none)
        (parameters function).zipIdx with
    | error e =>
      obtain ⟨⟨q, i⟩, hq, ho⟩ := search_eq_error hfound
      obtain ⟨hl, rfl⟩ := unlessLegible_eq_some.mp ho
      obtain ⟨n, hn, hl⟩ := exists_of_all_eq_false hl
      have hqf := mem_nodes_of_mem_parameters (List.fst_mem_of_mem_zipIdx hq)
      exact .inl ⟨⟨n, Node.mem_nodes_trans hqf (mem_nodes_of_boundNode? hn), hl⟩, fun p => rfl⟩
    | ok found =>
      refine .inr fun p => ?_
      rw [namedPassing, ← findSome?_takesProps, search_eq_ok hfound]
      cases found with
      | none => rfl
      | some q => simp only [apply_ite (p.carryOut source function)]; rfl

theorem addParameter_eq_ok {source : Bytes} {p p' : Planner} {function : Node} {name : String}
    (h : p.addParameter source function name = .ok p') :
    p' = p.record (parameterChange? source function name).toList := by
  cases hlist : function.child? .parameters with
  | some list =>
    simp only [Planner.addParameter, hlist, Except.ok.injEq] at h
    simp only [parameterChange?, hlist, ← h]
    rfl
  | none =>
    cases hbare : function.child? .parameter with
    | none =>
      simp only [Planner.addParameter, hlist, hbare, Except.ok.injEq] at h
      simp [parameterChange?, hlist, hbare, ← h]
    | some bare =>
      simp only [Planner.addParameter, hlist, hbare, Edit.Plan.replace] at h
      simp only [parameterChange?, hlist, hbare]
      split at h
      · cases h
      · split at h
        · rename_i plan hplan
          split at hplan
          · cases hplan
          · cases hplan
            cases h
            rfl
        · cases h

/-- Making the identity reachable plans the change that belongs to the decision, and nothing else. -/
theorem addIdentity_eq_ok {source : Bytes} {p p' : Planner} {function : Node} {reference : String}
    (h : p.addIdentity source function = .ok (reference, p')) :
    reference = (passing source function).reference ∧
      p' = p.record ((passing source function).change? source function).toList := by
  rcases addIdentity_eq source function with ⟨-, herror⟩ | heq
  · rw [herror] at h
    cases h
  · rw [heq] at h
    cases hpassing : passing source function with
    | present name =>
      rw [hpassing] at h
      cases h
      exact ⟨rfl, rfl⟩
    | field pattern =>
      rw [hpassing] at h
      cases h
      exact ⟨rfl, rfl⟩
    | parameter name =>
      rw [hpassing] at h
      obtain ⟨q, hq, h⟩ := Except.bind_eq_ok.mp h
      cases h
      exact ⟨rfl, addParameter_eq_ok hq⟩

/-! ## What can stop it -/

/-- Adding a parameter is stopped by a bare parameter that cannot be read or ends before it begins. -/
theorem addParameter_eq_error {source : Bytes} {p : Planner} {function : Node} {name : String}
    {e : InstrumentError} (h : p.addParameter source function name = .error e) :
    ∃ bare, function.child? .parameters = none ∧ function.child? .parameter = some bare ∧
      ((e = .illegible ∧ bare.isLegible source = false) ∨
        (bare.stop < bare.start ∧ ∃ cause, e = .edit cause)) := by
  cases hlist : function.child? .parameters with
  | some list => simp [Planner.addParameter, hlist] at h
  | none =>
    cases hbare : function.child? .parameter with
    | none => simp [Planner.addParameter, hlist, hbare] at h
    | some bare =>
      refine ⟨bare, rfl, rfl, ?_⟩
      simp only [Planner.addParameter, hlist, hbare, Edit.Plan.replace] at h
      split at h
      · rename_i hl
        cases h
        exact Or.inl ⟨rfl, by simpa using hl⟩
      · split at h
        · cases h
        · rename_i hplan
          split at hplan
          · rename_i hlt
            cases h
            exact Or.inr ⟨by exact_mod_cast hlt, _, rfl⟩
          · cases hplan

/-- Making the identity reachable is stopped by a node that cannot be read, or by a bare parameter
that ends before it begins. -/
theorem addIdentity_eq_error {source : Bytes} {p : Planner} {function : Node} {e : InstrumentError}
    (h : p.addIdentity source function = .error e) :
    (e = .illegible ∧ ∃ n ∈ function.nodes, n.isLegible source = false) ∨
      ∃ bare name cause, e = .edit cause ∧ function.child? .parameters = none ∧
        function.child? .parameter = some bare ∧ bare.stop < bare.start ∧
        passing source function = .parameter name := by
  rcases addIdentity_eq source function with ⟨hillegible, herror⟩ | heq
  · rw [herror] at h
    cases h
    exact .inl ⟨rfl, hillegible⟩
  · rw [heq] at h
    cases hpassing : passing source function with
    | present name =>
      rw [hpassing] at h
      cases h
    | field pattern =>
      rw [hpassing] at h
      cases h
    | parameter name =>
      rw [hpassing] at h
      rcases Except.bind_eq_error.mp h with h | ⟨q, -, h⟩
      · obtain ⟨bare, hlist, hbare, ⟨rfl, hl⟩ | ⟨hlt, cause, he⟩⟩ := addParameter_eq_error h
        · exact .inl ⟨rfl, bare, Node.mem_nodes_of_mem_children (Node.mem_children_of_child? hbare), hl⟩
        · exact .inr ⟨bare, name, cause, he, hlist, hbare, hlt, rfl⟩
      · cases h

end Instrument

end JsxTagger
