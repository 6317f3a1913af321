import JsxTagger.Instrument.Run
import JsxTagger.Proofs.Instrument.Passing

/-!
# What planning does

A `Planner` holds a plan next to three lists of what has been dealt with. All of it is determined by
the sequence of *acts* that were carried out: tags that got an id, tags that were bound to a component,
and functions whose parameters were looked at. `Planner.ofActs` computes the planner from the acts, and
each operation of the planner, where it succeeds, is one step on the acts (`tag_eq_ok`,
`bindRoot_eq_ok`, `thread_eq_ok`, `annotate_eq_ok`).

The steps on acts cannot fail and do not mention offsets, so that everything about a plan can be read
off them.
-/

namespace JsxTagger.Instrument

open Classify Syntax

/-- One thing that planning does. -/
inductive Act where
  /-- A tag gets an id. -/
  | tag (element : Node)
  /-- A tag is bound to the component it is the root of. -/
  | root (element : Node) (name reference : String)
  /-- The identity is made reachable inside a function. -/
  | thread (function : Node)

namespace Act

/-- The tags that get an id, in the order of planning. -/
def tags (acts : List Act) : List Node :=
  acts.filterMap fun
    | .tag element => some element
    | _ => none

/-- The tags that are bound, with the name and the expression for the identity. -/
def roots (acts : List Act) : List (Node × String × String) :=
  acts.filterMap fun
    | .root element name reference => some (element, name, reference)
    | _ => none

/-- The functions that are looked at. -/
def threads (acts : List Act) : List Node :=
  acts.filterMap fun
    | .thread function => some function
    | _ => none

@[simp]
theorem tags_append (as bs : List Act) : tags (as ++ bs) = tags as ++ tags bs :=
  List.filterMap_append

@[simp]
theorem roots_append (as bs : List Act) : roots (as ++ bs) = roots as ++ roots bs :=
  List.filterMap_append

@[simp]
theorem threads_append (as bs : List Act) : threads (as ++ bs) = threads as ++ threads bs :=
  List.filterMap_append

variable (element function : Node) (name reference : String) (acts : List Act)

@[simp] theorem tags_nil : tags [] = [] := rfl
@[simp] theorem tags_tag : tags (.tag element :: acts) = element :: tags acts := rfl
@[simp] theorem tags_root : tags (.root element name reference :: acts) = tags acts := rfl
@[simp] theorem tags_thread : tags (.thread function :: acts) = tags acts := rfl

@[simp] theorem roots_nil : roots [] = [] := rfl
@[simp] theorem roots_tag : roots (.tag element :: acts) = roots acts := rfl
@[simp] theorem roots_root :
    roots (.root element name reference :: acts) = (element, name, reference) :: roots acts := rfl
@[simp] theorem roots_thread : roots (.thread function :: acts) = roots acts := rfl

@[simp] theorem threads_nil : threads [] = [] := rfl
@[simp] theorem threads_tag : threads (.tag element :: acts) = threads acts := rfl
@[simp] theorem threads_root :
    threads (.root element name reference :: acts) = threads acts := rfl
@[simp] theorem threads_thread : threads (.thread function :: acts) = function :: threads acts := rfl

end Act

/-! ## The changes that acts stand for -/

/-- Whether a tag has an attribute of the given name. -/
def hasAttribute (source : Bytes) (element : Node) (name : String) : Bool :=
  (attributeNames source element).contains name

/-- Where attributes are added to a tag. -/
def attributePlace (element : Node) : Nat := (insertionOffset? element).getD element.stop

/-- The text that gives a tag an id. -/
def idText (id : String) : String := s!" {elementIdAttribute}=\"{id}\""

/-- The text that binds a tag to a component. -/
def rootText (name reference : String) : String :=
  s!" {componentNameAttribute}=\"{name}\" {componentRefAttribute}=\x7b{reference}\x7d"

/-- The changes that acts stand for. Each id is the next one of the stream. -/
def changesOf (source : Bytes) (ids : IdStream) : Nat → List Act → List Change
  | _, [] => []
  | drawn, .tag element :: acts =>
    ⟨attributePlace element, attributePlace element, idText (ids drawn)⟩ ::
      changesOf source ids (drawn + 1) acts
  | drawn, .root element name reference :: acts =>
    ⟨attributePlace element, attributePlace element, rootText name reference⟩ ::
      changesOf source ids drawn acts
  | drawn, .thread function :: acts =>
    ((passing source function).change? source function).toList ++ changesOf source ids drawn acts

theorem changesOf_append (source : Bytes) (ids : IdStream) (drawn : Nat) (as bs : List Act) :
    changesOf source ids drawn (as ++ bs) =
      changesOf source ids drawn as ++ changesOf source ids (drawn + (Act.tags as).length) bs := by
  induction as generalizing drawn with
  | nil => rfl
  | cons a as ih =>
    cases a with
    | tag element =>
      rw [List.cons_append, changesOf, changesOf, ih, List.cons_append, Act.tags_tag,
        List.length_cons, Nat.add_assoc, Nat.add_comm 1]
    | root element name reference =>
      rw [List.cons_append, changesOf, changesOf, ih, List.cons_append, Act.tags_root]
    | thread function =>
      rw [List.cons_append, changesOf, changesOf, ih, List.append_assoc, Act.tags_thread]

/-- The state of planning after some acts, if `drawn` ids were drawn before. -/
def Planner.ofActs (source : Bytes) (ids : IdStream) (drawn : Nat) (acts : List Act) : Planner where
  plan := planOf (changesOf source ids drawn acts)
  drawn := drawn + (Act.tags acts).length
  tagged := ((Act.tags acts).map Node.start).reverse
  bound := ((Act.roots acts).map fun r => r.1.start).reverse
  references :=
    ((Act.threads acts).map fun f => (f.start, (passing source f).reference)).reverse

/-! ## Steps on acts -/

/-- A tag gets an id, unless it has one or a tag with the same start got one. -/
def Act.addTag (source : Bytes) (acts : List Act) (element : Node) : List Act :=
  if (Act.tags acts).any (·.start == element.start) || hasAttribute source element elementIdAttribute
  then acts
  else acts ++ [.tag element]

/-- A tag is bound, unless it is bound or a tag with the same start was bound. -/
def Act.addRoot (source : Bytes) (acts : List Act) (element : Node) (name reference : String) :
    List Act :=
  if (Act.roots acts).any (·.1.start == element.start) ||
      hasAttribute source element componentNameAttribute
  then acts
  else acts ++ [.root element name reference]

/-- A function is looked at, unless one with the same start was looked at. -/
def Act.addThread (acts : List Act) (function : Node) : List Act :=
  if (Act.threads acts).any (·.start == function.start) then acts else acts ++ [.thread function]

section Steps

variable {source : Bytes} {ids : IdStream} {drawn : Nat} {acts : List Act} {p : Planner}

/-- Whether a start is among those of a list, looked up in the list of starts kept by a planner. -/
theorem contains_reverse_map {α : Type} (starts : α → Nat) (xs : List α) (start : Nat) :
    (xs.map starts).reverse.contains start = xs.any (starts · == start) := by
  rw [List.contains_reverse, List.contains_eq_any_beq, List.any_map]
  refine congrArg xs.any (funext fun x => ?_)
  exact Bool.beq_comm

/-- The two operations that add an attribute, `tag` and `bindRoot`, ask the same questions in the same
order; `added` is the planner once the attribute is there. -/
def addAttribute (source : Bytes) (p : Planner) (element : Node) (seen : Bool) (name : String)
    (added : Nat → Planner) : Except InstrumentError Planner :=
  if seen then .ok p
  else if !attributesLegible source element then .error .illegible
  else if hasAttribute source element name then .ok p
  else
    match insertionOffset? element with
    | none => .error .unnamedElement
    | some offset => .ok (added offset)

theorem tag_eq (element : Node) :
    p.tag source ids element =
      addAttribute source p element (p.tagged.contains element.start) elementIdAttribute
        fun offset =>
          { p.insert offset (idText (ids p.drawn)) with
            drawn := p.drawn + 1, tagged := element.start :: p.tagged } := rfl

theorem bindRoot_eq (element : Node) (name reference : String) :
    p.bindRoot source element name reference =
      addAttribute source p element (p.bound.contains element.start) componentNameAttribute
        fun offset =>
          { p.insert offset (rootText name reference) with
            bound := element.start :: p.bound } := rfl

/-- Adding an attribute, where it succeeds, adds it exactly if the tag was not dealt with and lacks
it. -/
theorem addAttribute_eq_ok {q : Planner} {element : Node} {seen : Bool} {name : String}
    {added : Nat → Planner} (h : addAttribute source p element seen name added = .ok q) :
    q = if seen || hasAttribute source element name then p else added (attributePlace element) := by
  rw [addAttribute] at h
  split at h
  · rename_i hseen
    cases h
    rw [if_pos (Bool.or_eq_true_iff.mpr (Or.inl hseen))]
  · rename_i hseen
    split at h
    · cases h
    · split at h
      · rename_i hname
        cases h
        rw [if_pos (Bool.or_eq_true_iff.mpr (Or.inr hname))]
      · rename_i hname
        rw [if_neg (by rw [Bool.or_eq_true_iff]; exact not_or.mpr ⟨hseen, hname⟩), attributePlace]
        split at h
        · cases h
        · rename_i offset hoffset
          cases h
          rw [hoffset, Option.getD_some]

/-- What can keep a tag from getting an attribute: a name that cannot be read, or no place for the
attribute. -/
def TagObstacle (source : Bytes) (element : Node) (e : InstrumentError) : Prop :=
  (e = .illegible ∧ ∃ n ∈ element.nodes, n.isLegible source = false) ∨
    (e = .unnamedElement ∧ insertionOffset? element = none)

theorem addAttribute_eq_error {element : Node} {seen : Bool} {name : String}
    {added : Nat → Planner} {e : InstrumentError}
    (h : addAttribute source p element seen name added = .error e) :
    TagObstacle source element e := by
  rw [addAttribute] at h
  split at h
  · cases h
  · split at h
    · rename_i hl
      cases h
      refine Or.inl ⟨rfl, ?_⟩
      rw [Bool.not_eq_true', attributesLegible, List.all_eq_false] at hl
      obtain ⟨o, ho, hl⟩ := hl
      obtain ⟨a, ha, rfl⟩ := List.mem_map.mp ho
      obtain ⟨n, hn, hl⟩ := exists_of_all_eq_false (Bool.not_eq_true _ ▸ hl)
      rw [List.mem_filter, attributes, List.mem_filter, Node.mem_namedChildren] at ha
      exact ⟨n, Node.mem_nodes_trans (Node.mem_nodes_of_mem_children ha.1.1.1)
        (Node.mem_nodes_of_mem_children (Node.mem_children_of_firstNamedChild? hn)), hl⟩
    · split at h
      · cases h
      · split at h
        · rename_i hoffset
          cases h
          exact Or.inr ⟨rfl, hoffset⟩
        · cases h

/-- Giving a tag an id, where it succeeds, is a step on the acts. -/
theorem tag_eq_ok {element : Node}
    (h : (Planner.ofActs source ids drawn acts).tag source ids element = .ok p) :
    p = .ofActs source ids drawn (Act.addTag source acts element) := by
  rw [tag_eq, show (Planner.ofActs source ids drawn acts).tagged =
    ((Act.tags acts).map Node.start).reverse from rfl, contains_reverse_map] at h
  rw [addAttribute_eq_ok h, Act.addTag]
  split
  · rfl
  · simp [Planner.ofActs, Planner.insert, changesOf_append, planOf_append, changesOf,
      Edit.Plan.insert, Nat.add_assoc]

/-- Binding a tag, where it succeeds, is a step on the acts. -/
theorem bindRoot_eq_ok {element : Node} {name reference : String}
    (h : (Planner.ofActs source ids drawn acts).bindRoot source element name reference = .ok p) :
    p = .ofActs source ids drawn (Act.addRoot source acts element name reference) := by
  rw [bindRoot_eq, show (Planner.ofActs source ids drawn acts).bound =
    ((Act.roots acts).map fun r => r.1.start).reverse from rfl, contains_reverse_map] at h
  rw [addAttribute_eq_ok h, Act.addRoot]
  split
  · rfl
  · simp [Planner.ofActs, Planner.insert, changesOf_append, planOf_append, changesOf,
      Edit.Plan.insert]

/-- The expression for the identity inside a function: that of the function looked at that starts
where this one does. -/
def Act.reference (source : Bytes) (acts : List Act) (function : Node) : String :=
  (passing source
    (((Act.threads acts).reverse.find? (·.start == function.start)).getD function)).reference

theorem lookup_map_start (f : Node → String) (ns : List Node) (start : Nat) :
    (ns.map fun n => (n.start, f n)).lookup start = (ns.find? (·.start == start)).map f := by
  induction ns with
  | nil => rfl
  | cons n ns ih =>
    rw [List.map_cons, List.lookup_cons, List.find?_cons, Bool.beq_comm]
    cases n.start == start
    · exact ih
    · rfl

theorem any_eq_isSome_find?_reverse (ns : List Node) (start : Nat) :
    ns.any (·.start == start) = (ns.reverse.find? (·.start == start)).isSome := by
  rw [List.isSome_find?, List.any_reverse]

/-- Looking at a function, where it succeeds, is a step on the acts. -/
theorem thread_eq_ok {function : Node} {reference : String}
    (h : (Planner.ofActs source ids drawn acts).thread source function = .ok (reference, p)) :
    reference = Act.reference source acts function ∧
      p = .ofActs source ids drawn (Act.addThread acts function) := by
  rw [Planner.thread, show (Planner.ofActs source ids drawn acts).references =
    ((Act.threads acts).map fun f => (f.start, (passing source f).reference)).reverse from rfl,
    ← List.map_reverse, lookup_map_start] at h
  rw [Act.reference, Act.addThread, any_eq_isSome_find?_reverse]
  cases hfound : (Act.threads acts).reverse.find? (·.start == function.start) with
  | some f =>
    rw [hfound] at h
    cases h
    exact ⟨rfl, rfl⟩
  | none =>
    rw [hfound] at h
    obtain ⟨⟨r, q⟩, hadd, h⟩ := Except.bind_eq_ok.mp h
    obtain ⟨rfl, rfl⟩ := addIdentity_eq_ok hadd
    cases h
    refine ⟨rfl, ?_⟩
    simp [Planner.ofActs, Planner.record, changesOf_append, changesOf, planOf_append]

/-! ## Whole scopes -/

/-- The tags of a scope get ids. -/
def Act.addTags (source : Bytes) (acts : List Act) (elements : List Node) : List Act :=
  elements.foldl (Act.addTag source) acts

/-- The tags of a scope get ids, and the first one is bound. -/
def Act.addElements (source : Bytes) (acts : List Act) (name reference : String) :
    List Node → List Act
  | [] => acts
  | first :: rest =>
    Act.addTags source (Act.addRoot source (Act.addTag source acts first) first name reference) rest

theorem annotate_seen_eq_ok {name reference : String} {ns : List Node}
    (h : annotate source ids name reference true (.ofActs source ids drawn acts) ns = .ok p) :
    p = .ofActs source ids drawn (Act.addTags source acts (ns.filter isOpeningElement)) := by
  induction ns generalizing acts with
  | nil =>
    cases h
    rfl
  | cons n ns ih =>
    rw [annotate] at h
    split at h
    · rename_i hn
      obtain ⟨q, hq, h⟩ := Except.bind_eq_ok.mp h
      rw [tag_eq_ok hq] at h
      rw [List.filter_cons_of_pos hn]
      exact ih h
    · rename_i hn
      rw [List.filter_cons_of_neg hn]
      exact ih h

/-- Annotating the nodes of a scope, where it succeeds, is a step on the acts. -/
theorem annotate_eq_ok {name reference : String} {ns : List Node}
    (h : annotate source ids name reference false (.ofActs source ids drawn acts) ns = .ok p) :
    p = .ofActs source ids drawn
      (Act.addElements source acts name reference (ns.filter isOpeningElement)) := by
  induction ns with
  | nil =>
    cases h
    rfl
  | cons n ns ih =>
    rw [annotate] at h
    split at h
    · rename_i hn
      obtain ⟨q, hq, h⟩ := Except.bind_eq_ok.mp h
      obtain ⟨q', hq', h⟩ := Except.bind_eq_ok.mp h
      rw [tag_eq_ok hq] at hq'
      rw [bindRoot_eq_ok hq'] at h
      rw [List.filter_cons_of_pos hn]
      exact annotate_seen_eq_ok h
    · rename_i hn
      rw [List.filter_cons_of_neg hn]
      exact ih h

/-- Annotating the nodes of a scope is stopped at one of its tags. -/
theorem annotate_eq_error {name reference : String} {rootSeen : Bool} {ns : List Node}
    {e : InstrumentError} (h : annotate source ids name reference rootSeen p ns = .error e) :
    ∃ element ∈ ns.filter isOpeningElement, TagObstacle source element e := by
  induction ns generalizing p rootSeen with
  | nil => cases h
  | cons n ns ih =>
    rw [annotate] at h
    split at h
    · rename_i hn
      rw [List.filter_cons_of_pos hn]
      rcases Except.bind_eq_error.mp h with h | ⟨q, -, h⟩
      · rw [tag_eq] at h
        exact ⟨n, List.mem_cons_self, addAttribute_eq_error h⟩
      · have hbind : ∃ q' : Planner, q.bindRoot source n name reference = .error e ∨
            annotate source ids name reference true q' ns = .error e := by
          split at h
          · exact ⟨q, Or.inr h⟩
          · rcases Except.bind_eq_error.mp h with h | ⟨q', -, h⟩
            · exact ⟨q, Or.inl h⟩
            · exact ⟨q', Or.inr h⟩
        obtain ⟨q', h | h⟩ := hbind
        · rw [bindRoot_eq] at h
          exact ⟨n, List.mem_cons_self, addAttribute_eq_error h⟩
        · obtain ⟨element, hmem, hcause⟩ := ih h
          exact ⟨element, List.mem_cons_of_mem _ hmem, hcause⟩
    · rename_i hn
      rw [List.filter_cons_of_neg hn]
      exact ih h

end Steps

end JsxTagger.Instrument
