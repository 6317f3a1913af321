import JsxTagger.Proofs.Component.Markup
import JsxTagger.Proofs.Instrument.Applicable
import JsxTagger.Proofs.Instrument.Idempotence

/-!
# The names that parameters bind

A pattern binds names at any depth: as entries of objects and arrays, behind keys, in front of defaults
and in rest elements (`boundNodes`). Making the identity reachable adds at most one name to those that
the parameters of a function bind, and the list that results binds the old names and that one
(`AddsOnly.perm_parameterNames`).

The decision to add a name looks for it only where a parameter or an entry is nothing but a name.
`Overlooks` lists the places where it does not look, and the main statement, `parameters_bind_once_iff`,
says that these are what can go wrong: the parameters bind a name twice afterwards exactly if the new name
was bound at one of those places.
-/

namespace JsxTagger.Instrument

open Classify Syntax

/-! ## Names in patterns -/

/-- The parts of a pattern that bind: the entries of an object or an array, what stands behind the dots
of a rest element, what a default is for, and what a key is renamed to. -/
def bindingParts (n : Node) : List Node :=
  match n.kind with
  | .objectPattern | .other "array_pattern" => entries n
  | .restPattern => n.firstNamedChild?.toList
  | .assignmentPattern | .objectAssignmentPattern => (n.child? .left).toList
  | .pairPattern => (n.child? .value).toList
  | _ => []

theorem mem_children_of_mem_entries {n c : Node} (h : c ∈ entries n) : c ∈ n.children := by
  rw [entries_eq] at h
  exact (List.mem_filter.mp h).1

theorem mem_children_of_mem_bindingParts {n c : Node} (h : c ∈ bindingParts n) :
    c ∈ n.children := by
  rw [bindingParts] at h
  split at h
  · exact mem_children_of_mem_entries h
  · exact mem_children_of_mem_entries h
  · exact Node.mem_children_of_firstNamedChild? (Option.mem_toList.mp h)
  · exact Node.mem_children_of_child? (Option.mem_toList.mp h)
  · exact Node.mem_children_of_child? (Option.mem_toList.mp h)
  · exact Node.mem_children_of_child? (Option.mem_toList.mp h)
  · cases h

/-- Whether a node is a name that a pattern binds as it stands. -/
def isBoundName (n : Node) : Bool := n.kind == .identifier || n.kind == .shorthandPattern

/-- The nodes that a pattern binds, at any depth. -/
def boundNodes (n : Node) : List Node :=
  if isBoundName n then [n] else (bindingParts n).attach.flatMap fun c => boundNodes c.1
termination_by n.size
decreasing_by exact Node.size_lt_of_mem_children (mem_children_of_mem_bindingParts c.2)

/-- The names that a pattern binds, at any depth. -/
def boundNames (source : Bytes) (n : Node) : List String := (boundNodes n).map (·.text source)

/-- The names that the parameters of a function bind. -/
def parameterNames (source : Bytes) (f : Node) : List String :=
  (parameters f).flatMap (boundNames source)

section Patterns

variable {source : Bytes} {n m q e pattern : Node} {x : String}

theorem boundNodes_of_isBoundName (h : isBoundName n = true) : boundNodes n = [n] := by
  rw [boundNodes, if_pos h]

theorem boundNodes_eq_flatMap (h : isBoundName n = false) :
    boundNodes n = (bindingParts n).flatMap boundNodes := by
  rw [boundNodes, if_neg (by simp [h]), List.flatMap_subtype fun _ _ => rfl, List.unattach_attach]

/-- A pattern with a single part binds what that part binds. -/
theorem boundNodes_of_bindingParts (h : isBoundName n = false) (hparts : bindingParts n = [m]) :
    boundNodes n = boundNodes m := by
  rw [boundNodes_eq_flatMap h, hparts, List.flatMap_singleton]

theorem boundNodes_of_child? {f : Field} (hbound : isBoundName n = false)
    (hparts : bindingParts n = (n.child? f).toList) (hm : n.child? f = some m) :
    boundNodes n = boundNodes m :=
  boundNodes_of_bindingParts hbound (by rw [hparts, hm]; rfl)

theorem boundNodes_assignmentPattern (hkind : n.kind = .assignmentPattern)
    (hm : n.child? .left = some m) : boundNodes n = boundNodes m :=
  boundNodes_of_child? (by simp [isBoundName, hkind]) (by rw [bindingParts, hkind]) hm

theorem boundNodes_objectAssignmentPattern (hkind : n.kind = .objectAssignmentPattern)
    (hm : n.child? .left = some m) : boundNodes n = boundNodes m :=
  boundNodes_of_child? (by simp [isBoundName, hkind]) (by rw [bindingParts, hkind]) hm

theorem boundNodes_pairPattern (hkind : n.kind = .pairPattern) (hm : n.child? .value = some m) :
    boundNodes n = boundNodes m :=
  boundNodes_of_child? (by simp [isBoundName, hkind]) (by rw [bindingParts, hkind]) hm

theorem boundNodes_restPattern (hkind : n.kind = .restPattern) (hm : n.firstNamedChild? = some m) :
    boundNodes n = boundNodes m :=
  boundNodes_of_bindingParts (by simp [isBoundName, hkind]) (by rw [bindingParts, hkind, hm]; rfl)

theorem boundNodes_objectPattern (hkind : n.kind = .objectPattern) :
    boundNodes n = (entries n).flatMap boundNodes := by
  rw [boundNodes_eq_flatMap (by simp [isBoundName, hkind]), bindingParts, hkind]

/-- A parameter that is nothing but a name, perhaps with a default or with dots, binds that name. -/
theorem boundNodes_of_boundNode? (h : boundNode? q = some m) : boundNodes q = [m] := by
  obtain ⟨htarget, hkind⟩ := Option.filter_eq_some_iff.mp h
  have hname : boundNodes m = [m] := boundNodes_of_isBoundName (by simp [isBoundName, beq_iff_eq.mp hkind])
  split at htarget
  case isTrue hassignment => rw [boundNodes_assignmentPattern hassignment htarget, hname]
  case isFalse =>
    split at htarget
    case isTrue hrest => rw [boundNodes_restPattern hrest htarget, hname]
    case isFalse =>
      cases htarget
      exact hname

theorem mem_boundNames_of_boundName? (h : boundName? source q = some x) : x ∈ boundNames source q := by
  obtain ⟨m, hm, rfl⟩ := Option.map_eq_some_iff.mp h
  rw [boundNames, boundNodes_of_boundNode? hm]
  exact List.mem_singleton_self _

/-- A parameter that is an object pattern, perhaps with a default, binds what the pattern binds. -/
theorem boundNodes_of_objectPattern? (h : objectPattern? q = some pattern) :
    boundNodes q = boundNodes pattern := by
  rw [objectPattern?] at h
  split at h
  · cases h
    rfl
  · split at h
    · rename_i hassignment
      split at h
      · rename_i left hleft
        split at h
        · cases h
          exact boundNodes_assignmentPattern hassignment hleft
        · cases h
      · cases h
    · cases h

theorem mem_boundNames_iff : x ∈ boundNames source n ↔ ∃ m ∈ boundNodes n, m.text source = x :=
  List.mem_map

theorem mem_parameterNames_iff :
    x ∈ parameterNames source n ↔ ∃ q ∈ parameters n, x ∈ boundNames source q :=
  List.mem_flatMap

theorem mem_boundNames_of_entry (hkind : n.kind = .objectPattern) (he : e ∈ entries n)
    (hx : x ∈ boundNames source e) : x ∈ boundNames source n := by
  obtain ⟨m, hm, rfl⟩ := mem_boundNames_iff.mp hx
  rw [mem_boundNames_iff, boundNodes_objectPattern hkind]
  exact ⟨m, List.mem_flatMap.mpr ⟨e, he, hm⟩, rfl⟩

end Patterns

/-! ## The name that is added -/

/-- The name that a decision adds to the parameters of a function, if there is a place for it. -/
def Passing.added? (f : Node) : Passing → Option String
  | .present _ => none
  | .field _ => some identityField
  | .parameter name => (parameterNode? f).map fun _ => name

/-- A change puts a name into the parameters of a function: the name is inserted with what sets it apart
from its neighbours, or a list of it and the bare parameter takes the place of that one. -/
def Change.Inserts (c : Change) (source : Bytes) (f : Node) (x : String) : Prop :=
  (c.start = c.stop ∧ ∃ before ∈ ["", " ", ", "], ∃ after ∈ ["", " ", ", "],
      c.text = before ++ x ++ after) ∨
    ∃ bare, f.child? .parameter = some bare ∧ c.start = bare.start ∧ c.stop = bare.stop ∧
      c.text = s!"({x}, {bare.text source})"

/-- A change to the parameters of a function puts the new name into them, and a new name makes for a
change. -/
theorem change?_added? (source : Bytes) (f : Node) :
    ((passing source f).change? source f = none ∧ (passing source f).added? f = none) ∨
      ∃ c x, (passing source f).change? source f = some c ∧ (passing source f).added? f = some x ∧
        c.Inserts source f x := by
  cases passing source f with
  | present reference => exact .inl ⟨rfl, rfl⟩
  | field pattern =>
    refine .inr ⟨fieldChange pattern, identityField, rfl, rfl, .inl ?_⟩
    rw [fieldChange]
    split
    · exact ⟨rfl, "", by simp, ", ", by simp, rfl⟩
    · exact ⟨rfl, ", ", by simp, "", by simp, rfl⟩
    · exact ⟨rfl, " ", by simp, " ", by simp, rfl⟩
  | parameter name =>
    simp only [Passing.change?, parameterChange?, Passing.added?, parameterNode?]
    cases hlist : f.child? .parameters with
    | some list =>
      refine .inr ⟨_, name, rfl, rfl, .inl ⟨rfl, "", by simp, _, ?_, rfl⟩⟩
      split <;> simp [toString]
    | none =>
      cases hbare : f.child? .parameter with
      | some bare => exact .inr ⟨_, name, rfl, rfl, .inr ⟨bare, hbare, rfl, rfl, rfl⟩⟩
      | none => exact .inl ⟨rfl, rfl⟩

/-! ## Patterns that something is added to -/

section Graft

variable {g : Graft} {source source' : Bytes} {n q f pattern : Node}

/-- No object pattern in a tree gets an entry. -/
def KeepsPatterns (g : Graft) (n : Node) : Prop :=
  ∀ m ∈ n.nodes, m.kind = .objectPattern → g.added m = []

theorem KeepsPatterns.of_mem_children {c : Node} (h : KeepsPatterns g n) (hc : c ∈ n.children) :
    KeepsPatterns g c :=
  fun m hm => h m (Node.mem_nodes_trans (Node.mem_nodes_of_mem_children hc) hm)

theorem bindingParts_graft (h : g.Sound n) (hadded : n.kind = .objectPattern → g.added n = []) :
    bindingParts (g.graft n) = (bindingParts n).map g.graft := by
  have hchild {f : Field} (hasked : f.isAskedFor = true) (hlist : f ≠ .parameters)
      (hbare : f ≠ .parameter) : ((g.graft n).child? f).toList = (n.child? f).toList.map g.graft := by
    rw [h.child?_graft hasked hlist hbare]
    cases n.child? f <;> rfl
  rw [bindingParts, bindingParts, Graft.kind_graft]
  split
  case h_1 hkind => exact entries_graft ⟨hadded hkind, h.wrapped_eq_none (by rw [hkind]; rfl)⟩
  case h_2 hkind => exact entries_graft (h.leaves (by rw [hkind]; rfl) (by rw [hkind]; rfl))
  case h_3 hkind =>
    rw [(h.leaves (by rw [hkind]; rfl) (by rw [hkind]; rfl)).firstNamedChild?]
    cases n.firstNamedChild? <;> rfl
  case h_4 => exact hchild rfl (by simp) (by simp)
  case h_5 => exact hchild rfl (by simp) (by simp)
  case h_6 => exact hchild rfl (by simp) (by simp)
  case h_7 => rfl

/-- A pattern that gets no entry binds the same nodes. -/
theorem boundNodes_graft (h : g.Sound n) (hkeeps : KeepsPatterns g n) :
    boundNodes (g.graft n) = (boundNodes n).map g.graft := by
  induction n using Node.childInduction with
  | step n ih =>
    cases hbound : isBoundName n with
    | true =>
      have hbound' : isBoundName (g.graft n) = true := by rwa [isBoundName, Graft.kind_graft]
      rw [boundNodes_of_isBoundName hbound, boundNodes_of_isBoundName hbound', List.map_singleton]
    | false =>
      have hbound' : isBoundName (g.graft n) = false := by rwa [isBoundName, Graft.kind_graft]
      rw [boundNodes_eq_flatMap hbound, boundNodes_eq_flatMap hbound',
        bindingParts_graft h (hkeeps n (Node.mem_nodes_self n)), List.flatMap_map, List.map_flatMap]
      refine List.flatMap_congr fun c hc => ?_
      have hchild := mem_children_of_mem_bindingParts hc
      exact ih c hchild (h.of_mem_children hchild) (hkeeps.of_mem_children hchild)

/-- The bound nodes of a tree keep their texts. -/
def KeepsNames (g : Graft) (source source' : Bytes) (n : Node) : Prop :=
  ∀ m ∈ boundNodes n, (g.graft m).text source' = m.text source

theorem boundNames_graft (h : g.Sound n) (hkeeps : KeepsPatterns g n)
    (hnames : KeepsNames g source source' n) :
    boundNames source' (g.graft n) = boundNames source n := by
  rw [boundNames, boundNodes_graft h hkeeps, List.map_map, boundNames]
  exact List.map_congr_left hnames

theorem flatMap_boundNames_graft {qs : List Node} (h : ∀ q ∈ qs, g.Sound q)
    (hkeeps : ∀ q ∈ qs, KeepsPatterns g q) (hnames : ∀ q ∈ qs, KeepsNames g source source' q) :
    (qs.map g.graft).flatMap (boundNames source') = qs.flatMap (boundNames source) := by
  rw [List.flatMap_map]
  exact List.flatMap_congr fun q hq => boundNames_graft (h q hq) (hkeeps q hq) (hnames q hq)

/-- The entries of a node are those that it had and those that it got. -/
theorem perm_entries_graft (hw : g.wrapped n = none) :
    (entries (g.graft n)).Perm ((g.added n).filter isEntry ++ (entries n).map g.graft) := by
  have hchild : g.child none = g.graft := rfl
  have hfilter : ((n.children.map g.graft).filter isEntry) = (entries n).map g.graft := by
    rw [entries_eq, List.filter_map]
    simp only [Function.comp_def, isEntry_graft]
  rw [entries_eq, Graft.children_graft, Graft.splice, hw, hchild, List.filter_append,
    List.filter_append, ← hfilter, ← List.take_append_drop (g.place n) (n.children.map g.graft),
    List.filter_append, List.take_append_drop, List.append_assoc]
  exact List.perm_append_comm_assoc _ _ _

/-- An object pattern that gets a field binds one name more. -/
theorem perm_boundNames_of_field (h : g.Sound pattern) (hkind : pattern.kind = .objectPattern)
    (hfield : ShowsField g source' pattern) (hlength : ((g.added pattern).filter isEntry).length = 1)
    (hkeeps : ∀ e ∈ entries pattern, KeepsPatterns g e) (hnames : KeepsNames g source source' pattern) :
    (boundNames source' (g.graft pattern)).Perm (identityField :: boundNames source pattern) := by
  obtain ⟨a, ha, hnamed, hakind, htext⟩ := hfield
  have hadded : (g.added pattern).filter isEntry = [a] := by
    obtain ⟨b, hb⟩ := List.length_eq_one_iff.mp hlength
    have hmem : a ∈ (g.added pattern).filter isEntry :=
      List.mem_filter.mpr ⟨ha, by simp [isEntry, hnamed, hakind]⟩
    rw [hb] at hmem ⊢
    rw [List.mem_singleton.mp hmem]
  have hentries : ((entries pattern).map g.graft).flatMap boundNodes =
      (boundNodes pattern).map g.graft := by
    rw [boundNodes_objectPattern hkind, List.flatMap_map, List.map_flatMap]
    refine List.flatMap_congr fun e he => boundNodes_graft ?_ (hkeeps e he)
    exact h.of_mem_children (mem_children_of_mem_entries he)
  have hperm := (perm_entries_graft (h.wrapped_eq_none (by rw [hkind]; rfl))).flatMap_right boundNodes
  rw [hadded, List.flatMap_append, List.flatMap_singleton, hentries,
    boundNodes_of_isBoundName (by simp [isBoundName, hakind]), List.singleton_append] at hperm
  rw [boundNames, boundNodes_objectPattern (by rwa [Graft.kind_graft])]
  refine (hperm.map _).trans (.of_eq ?_)
  rw [List.map_cons, htext, List.map_map, boundNames]
  exact congrArg _ (List.map_congr_left hnames)

/-! ## Parameters that something is added to -/

/-- Nothing but what was decided is added to the parameters of a function, and they keep their names. -/
structure AddsOnly (g : Graft) (source source' : Bytes) (f : Node) : Prop where
  /-- What was decided is there. -/
  shows : ShowsPassing g source source' f
  /-- The pattern that takes the field gets one entry. -/
  once : ∀ pattern, passing source f = .field pattern → ((g.added pattern).filter isEntry).length = 1
  /-- No other pattern gets one. -/
  others : ∀ q ∈ parameters f, ∀ m ∈ q.nodes, m.kind = .objectPattern → g.added m ≠ [] →
    passing source f = .field m
  /-- A list that takes the place of a bare parameter holds the new one and that one. -/
  bare : ∀ l ∈ g.wrapped f, ∀ b ∈ f.child? .parameter, b.kind = .identifier ∧
    (entries l).tail.map (fun p => (p.kind, p.text source')) = [(b.kind, b.text source)]
  /-- The parameters keep the names that they bind. -/
  names : g.wrapped f = none → ∀ q ∈ parameters f, KeepsNames g source source' q

theorem sound_of_mem_parameters (h : g.Sound f) (hq : q ∈ parameters f) : g.Sound q :=
  h.of_mem (mem_nodes_of_mem_parameters hq)

theorem mem_of_mem_rest {qs front back : List Node} {p : Node} (hsplit : qs = front ++ q :: back)
    (hp : p ∈ front ++ back) : p ∈ qs := by
  rw [hsplit]
  exact ((List.sublist_cons_self q back).append_left front).mem hp

/-- The parameters of a function stand one after another. -/
theorem pairwise_parameters (h : f.WellNested) :
    (parameters f).Pairwise fun p q => p.stop ≤ q.start := by
  rw [parameters]
  split
  · rename_i list _ hlist
    have hnested := h.of_mem (Node.mem_nodes_of_child? hlist)
    rw [entries_eq]
    exact hnested.children.filter _
  · exact List.pairwise_singleton _ _
  · exact .nil

/-- A field is added to the first object pattern among the parameters, if no entry of it binds the
identity. -/
theorem passing_field (h : passing source f = .field pattern) :
    (parameters f).findSome? objectPattern? = some pattern ∧
      (entries pattern).findSome? (identityBinding? source) = none := by
  cases hpattern : (parameters f).findSome? objectPattern? with
  | some found =>
    cases hr : (entries found).findSome? (identityBinding? source) with
    | some r =>
      rw [passing_of_pattern hpattern hr] at h
      cases h
    | none =>
      simp only [passing, hpattern, hr, Passing.field.injEq] at h
      subst h
      exact ⟨rfl, hr⟩
  | none =>
    rw [passing_of_no_pattern hpattern] at h
    rcases namedPassing_cases source (parameters f) with ⟨r, hr⟩ | hr | hr <;>
      · rw [hr] at h
        cases h

/-- A parameter is added if there is no object pattern among the parameters, by their names. -/
theorem passing_parameter {name : String} (h : passing source f = .parameter name) :
    (parameters f).findSome? objectPattern? = none ∧
      namedPassing source (parameters f) = .parameter name := by
  cases hpattern : (parameters f).findSome? objectPattern? with
  | some found =>
    cases hr : (entries found).findSome? (identityBinding? source) with
    | some r =>
      rw [passing_of_pattern hpattern hr] at h
      cases h
    | none =>
      simp only [passing, hpattern, hr] at h
      cases h
  | none => exact ⟨rfl, (passing_of_no_pattern hpattern).symm.trans h⟩

/-- Parameters that stay as they are bind the same names. -/
theorem parameterNames_graft (h : Grows g source source' f) (hu : Untouched g f)
    (hkeeps : ∀ q ∈ parameters f, KeepsPatterns g q)
    (hnames : ∀ q ∈ parameters f, KeepsNames g source source' q) :
    parameterNames source' (g.graft f) = parameterNames source f := by
  rw [parameterNames, parameters_graft h hu]
  exact flatMap_boundNames_graft (fun q => sound_of_mem_parameters h.toSound) hkeeps hnames

namespace AddsOnly

variable (honly : AddsOnly g source source' f)

include honly

theorem keepsPatterns (hno : ∀ pattern, passing source f ≠ .field pattern)
    (hq : q ∈ parameters f) : KeepsPatterns g q := by
  intro m hm hkind
  by_contra hadded
  exact hno m (honly.others q hq m hm hkind hadded)

/-- A pattern that takes the field lies in one parameter only, so that the others keep theirs. -/
theorem keepsPatterns_of_split (hnested : f.WellNested)
    (hfield : passing source f = .field pattern) (hwide : pattern.start < pattern.stop)
    {front back : List Node} (hsplit : parameters f = front ++ q :: back)
    (hin : pattern ∈ q.nodes) {p : Node} (hp : p ∈ front ++ back) : KeepsPatterns g p := by
  have hmem := mem_of_mem_rest hsplit hp
  intro m hm hkind
  by_contra hadded
  have hsame := honly.others p hmem m hm hkind hadded
  rw [hfield, Passing.field.injEq] at hsame
  subst hsame
  have hpair := pairwise_parameters hnested
  rw [hsplit, List.pairwise_append, List.pairwise_cons] at hpair
  obtain ⟨-, ⟨hback, -⟩, hfront⟩ := hpair
  have hqmem : q ∈ parameters f := hsplit ▸ List.mem_append_right _ List.mem_cons_self
  have hpq := (hnested.of_mem (mem_nodes_of_mem_parameters hmem)).range hm
  have hqq := (hnested.of_mem (mem_nodes_of_mem_parameters hqmem)).range hin
  rcases List.mem_append.mp hp with hp | hp
  · have := hfront p hp q List.mem_cons_self
    omega
  · have := hback p hp
    omega

variable (h : Grows g source source' f)

include h

/-- A function whose pattern takes the field binds the field and what it bound. -/
theorem perm_parameterNames_of_field (hnested : f.WellNested)
    (hfield : passing source f = .field pattern) (hwide : pattern.start < pattern.stop) :
    (parameterNames source' (g.graft f)).Perm (identityField :: parameterNames source f) := by
  have hsound {p : Node} (hp : p ∈ parameters f) := sound_of_mem_parameters h.toSound hp
  obtain ⟨hu, hshows⟩ : Untouched g f ∧ ShowsField g source' pattern := by
    simpa only [ShowsPassing, hfield] using honly.shows
  obtain ⟨front, q, back, hsplit, hpattern, -⟩ :=
    List.findSome?_eq_some_iff.mp (passing_field hfield).1
  obtain ⟨hin, hkind⟩ := objectPattern?_eq_some hpattern
  have hq : q ∈ parameters f := hsplit ▸ List.mem_append_right _ List.mem_cons_self
  have hothers {p : Node} (hp : p ∈ front ++ back) : p ∈ parameters f := mem_of_mem_rest hsplit hp
  -- what the parameter with the pattern binds is what the pattern binds, before and after
  have hsame := boundNodes_of_objectPattern? hpattern
  have hsame' : boundNames source' (g.graft q) = boundNames source' (g.graft pattern) := by
    have hgraft := objectPattern?_graft (h.of_mem (mem_nodes_of_mem_parameters hq))
    rw [hpattern, Option.map_some] at hgraft
    rw [boundNames, boundNodes_of_objectPattern? hgraft, boundNames]
  have hentries : ∀ e ∈ entries pattern, KeepsPatterns g e := by
    intro e he m hm hmkind
    by_contra hadded
    have hchild := mem_children_of_mem_entries he
    have hmq := Node.mem_nodes_trans hin
      (Node.mem_nodes_trans (Node.mem_nodes_of_mem_children hchild) hm)
    have hpassing := honly.others q hq m hmq hmkind hadded
    rw [hfield, Passing.field.injEq] at hpassing
    have hle := Node.size_le_of_mem_nodes hm
    have hlt := Node.size_lt_of_mem_children hchild
    rw [hpassing] at hlt
    omega
  have hnames := honly.names hu.1
  have hperm := perm_boundNames_of_field ((hsound hq).of_mem hin) hkind hshows
    (honly.once pattern hfield) hentries fun m hm => hnames q hq m (hsame ▸ hm)
  have hkept (ps : List Node) (hps : ∀ p ∈ ps, p ∈ front ++ back) :
      (ps.map g.graft).flatMap (boundNames source') = ps.flatMap (boundNames source) :=
    flatMap_boundNames_graft (fun p hp => hsound (hothers (hps p hp)))
      (fun p hp => honly.keepsPatterns_of_split hnested hfield hwide hsplit hin (hps p hp))
      fun p hp => hnames p (hothers (hps p hp))
  rw [parameterNames, parameterNames, parameters_graft h hu, hsplit, List.map_append, List.map_cons,
    List.flatMap_append, List.flatMap_append, List.flatMap_cons, List.flatMap_cons, hsame',
    hkept front fun p => List.mem_append_left _, hkept back fun p => List.mem_append_right _]
  refine ((hperm.append_right _).append_left _).trans ?_
  rw [boundNames, ← hsame, ← boundNames]
  exact List.perm_middle

/-- A function that gets a parameter binds its name and what it bound. -/
theorem perm_parameterNames_of_parameter {name : String}
    (hparameter : passing source f = .parameter name) :
    (parameterNames source' (g.graft f)).Perm
      (((Passing.parameter name).added? f).toList ++ parameterNames source f) := by
  have hkeeps {p : Node} (hp : p ∈ parameters f) : KeepsPatterns g p :=
    honly.keepsPatterns (by simp [hparameter]) hp
  have hshows := honly.shows
  simp only [ShowsPassing, hparameter] at hshows
  cases hlist : f.child? .parameters with
  | some list =>
    rw [hlist] at hshows
    have hparameters : parameters f = entries list := by rw [parameters, hlist]
    have hw := h.wrapped_eq_none_of_list hlist
    obtain ⟨p, hentries, hkind, rfl⟩ := entries_of_showsParameter hshows
    have hnew : parameters (g.graft f) = p :: (parameters f).map g.graft := by
      rw [parameters, h.child?_graft_of_wrapped hw rfl, hlist, Option.map_some, hparameters]
      exact hentries
    have hname : boundNames source' p = [p.text source'] := by
      rw [boundNames, boundNodes_of_isBoundName (by simp [isBoundName, hkind]), List.map_singleton]
    rw [parameterNames, hnew, List.flatMap_cons, hname,
      flatMap_boundNames_graft (fun q => sound_of_mem_parameters h.toSound) (fun q => hkeeps)
        (honly.names hw), Passing.added?, parameterNode?, hlist]
    exact .refl _
  | none =>
    cases hbare : f.child? .parameter with
    | some bare =>
      rw [hlist, hbare] at hshows
      obtain ⟨l, hl, p, hhead, hkind, rfl⟩ := hshows
      obtain ⟨hbarekind, htail⟩ := honly.bare l hl bare hbare
      obtain ⟨rest, hentries⟩ := List.head?_eq_some_iff.mp hhead
      rw [hentries, List.tail_cons] at htail
      obtain ⟨r, hr, hrest⟩ : ∃ r, rest = [r] ∧
          (r.kind, r.text source') = (bare.kind, bare.text source) := by
        obtain ⟨r, hr⟩ := List.length_eq_one_iff.mp ((List.length_map _).symm.trans (congrArg _ htail))
        rw [hr] at htail
        exact ⟨r, hr, List.singleton_inj.mp htail⟩
      obtain ⟨hrkind, hrtext⟩ := Prod.mk.inj hrest
      have hnew : parameters (g.graft f) = [p, r] := by
        rw [parameters, h.child?_parameters_of_wrapped hl hbare]
        simpa [hr] using hentries
      have hname (n : Node) (source : Bytes) (hn : n.kind = .identifier) :
          boundNames source n = [n.text source] := by
        rw [boundNames, boundNodes_of_isBoundName (by simp [isBoundName, hn]), List.map_singleton]
      rw [parameterNames, parameterNames, hnew, parameters, hlist, hbare, Passing.added?,
        parameterNode?, hlist, hbare]
      simp [hname p source' hkind, hname r source' (hrkind.trans hbarekind), hrtext,
        hname bare source hbarekind]
    | none =>
      rw [hlist, hbare] at hshows
      have hnew : parameters (g.graft f) = [] := by
        rw [parameters, h.child?_graft_of_wrapped hshows rfl, h.child?_graft_of_wrapped hshows rfl,
          hlist, hbare]
        rfl
      rw [parameterNames, parameterNames, hnew, parameters, hlist, hbare, Passing.added?,
        parameterNode?, hlist, hbare]
      exact .refl _

/-- What the parameters of a function bind afterwards is what they bound and the new name. -/
theorem perm_parameterNames (hnested : f.WellNested)
    (hwide : ∀ m ∈ f.nodes, m.kind = .objectPattern → m.start < m.stop) :
    (parameterNames source' (g.graft f)).Perm
      (((passing source f).added? f).toList ++ parameterNames source f) := by
  cases hpassing : passing source f with
  | present reference =>
    have hu : Untouched g f := by simpa only [ShowsPassing, hpassing] using honly.shows
    exact .of_eq (parameterNames_graft h hu
      (fun q => honly.keepsPatterns (by simp [hpassing])) (honly.names hu.1))
  | field pattern =>
    obtain ⟨q, hq, hpattern⟩ := List.exists_of_findSome?_eq_some (passing_field hpassing).1
    obtain ⟨hin, hkind⟩ := objectPattern?_eq_some hpattern
    exact honly.perm_parameterNames_of_field h hnested hpassing
      (hwide pattern (Node.mem_nodes_trans (mem_nodes_of_mem_parameters hq) hin) hkind)
  | parameter name => exact honly.perm_parameterNames_of_parameter h hpassing

end AddsOnly

end Graft

/-! ## Where the decision does not look -/

/-- The name that an entry of an object pattern is, perhaps with a default. -/
def plainName? (source : Bytes) (entry : Node) : Option String :=
  match entry.kind with
  | .shorthandPattern => some (entry.text source)
  | .objectAssignmentPattern => (entry.child? .left).map (·.text source)
  | _ => none

/-- A name is bound by the parameters of a function at a place where the decision about the function
does not look for it. -/
inductive Overlooks (source : Bytes) (f : Node) (x : String) : Prop where
  /-- Another parameter binds the name than the one with the first object pattern. -/
  | beside {front back : List Node} {q p : Node} (hsplit : parameters f = front ++ q :: back)
      (hfirst : ∀ p ∈ front, objectPattern? p = none) (hpattern : (objectPattern? q).isSome = true)
      (hp : p ∈ front ++ back) (hbinds : x ∈ boundNames source p)
  /-- An entry of the first object pattern binds the name behind a key, in a rest element or further
  inside. -/
  | inside {pattern e : Node} (hpattern : (parameters f).findSome? objectPattern? = some pattern)
      (he : e ∈ entries pattern) (hplain : plainName? source e ≠ some x)
      (hbinds : x ∈ boundNames source e)
  /-- A parameter that is taken apart binds the name, and there is no object pattern. -/
  | apart {q : Node} (hpattern : (parameters f).findSome? objectPattern? = none)
      (hq : q ∈ parameters f) (hplain : boundName? source q ≠ some x)
      (hbinds : x ∈ boundNames source q)
  /-- A parameter behind the first one has the name that is used where the usual one is taken. -/
  | later {q : Node} (hpattern : (parameters f).findSome? objectPattern? = none)
      (hx : x = fallbackParameter) (hq : q ∈ (parameters f).tail)
      (hplain : boundName? source q = some x)

section Overlooks

variable {source : Bytes} {f pattern e : Node} {x : String}

/-- What is overlooked is bound. -/
theorem Overlooks.mem_parameterNames (h : Overlooks source f x) : x ∈ parameterNames source f := by
  rw [mem_parameterNames_iff]
  cases h with
  | beside hsplit _ _ hp hbinds => exact ⟨_, mem_of_mem_rest hsplit hp, hbinds⟩
  | inside hpattern he _ hbinds =>
    obtain ⟨q, hq, hqpattern⟩ := List.exists_of_findSome?_eq_some hpattern
    refine ⟨q, hq, ?_⟩
    rw [boundNames, boundNodes_of_objectPattern? hqpattern, ← boundNames]
    exact mem_boundNames_of_entry (objectPattern?_eq_some hqpattern).2 he hbinds
  | apart _ hq _ hbinds => exact ⟨_, hq, hbinds⟩
  | later _ _ hq hplain =>
    exact ⟨_, List.mem_of_mem_tail hq, mem_boundNames_of_boundName? hplain⟩

/-- An entry that is the name of the identity binds the identity. -/
theorem isSome_identityBinding? (h : plainName? source e = some identityField) :
    (identityBinding? source e).isSome = true := by
  rw [plainName?] at h
  split at h
  case h_1 hkind => simp [identityBinding?, hkind, Option.some.inj h]
  case h_2 hkind =>
    obtain ⟨left, hleft, htext⟩ := Option.map_eq_some_iff.mp h
    simp [identityBinding?, hkind, hleft, textOf, htext]
  case h_3 => cases h

/-- A parameter is added under the usual name if no parameter has it, and under the other one if the
first parameter does not have that. -/
theorem namedPassing_parameter {params : List Node} (h : namedPassing source params = .parameter x) :
    (x = propsParameter ∧ ∀ q ∈ params, boundName? source q ≠ some propsParameter) ∨
      (x = fallbackParameter ∧ params.head?.bind (boundName? source) ≠ some fallbackParameter) := by
  rw [namedPassing] at h
  split at h
  · rename_i hnone
    refine .inl ⟨(Passing.parameter.inj h).symm, fun q hq => ?_⟩
    rw [← List.zipIdx_map_fst 0 params] at hq
    obtain ⟨⟨q, i⟩, hqi, rfl⟩ := List.mem_map.mp hq
    simpa using List.find?_eq_none.mp hnone _ hqi
  · split at h
    · cases h
    · split at h
      · cases h
      · split at h
        · cases h
        · rename_i hhead
          exact .inr ⟨(Passing.parameter.inj h).symm, by simpa using hhead⟩

/-- The new name is bound by the parameters already exactly if it is overlooked. -/
theorem mem_parameterNames_iff_overlooks (h : (passing source f).added? f = some x) :
    x ∈ parameterNames source f ↔ Overlooks source f x := by
  refine ⟨fun hx => ?_, Overlooks.mem_parameterNames⟩
  obtain ⟨p, hp, hbinds⟩ := mem_parameterNames_iff.mp hx
  cases hpassing : passing source f with
  | present reference =>
    rw [hpassing] at h
    cases h
  | field pattern =>
    obtain ⟨hpattern, hnone⟩ := passing_field hpassing
    rw [hpassing] at h
    cases h
    obtain ⟨front, q, back, hsplit, hq, hfirst⟩ := List.findSome?_eq_some_iff.mp hpattern
    rw [hsplit, List.mem_append, List.mem_cons] at hp
    -- the name is bound beside the pattern that takes the field, or by an entry of it
    by_cases hbeside : p ∈ front ++ back
    · exact .beside hsplit hfirst (by rw [hq]; rfl) hbeside hbinds
    · have hpq : p = q := by
        rw [List.mem_append, not_or] at hbeside
        exact (hp.resolve_left hbeside.1).resolve_right hbeside.2
      rw [hpq, boundNames, boundNodes_of_objectPattern? hq,
        boundNodes_objectPattern (objectPattern?_eq_some hq).2] at hbinds
      obtain ⟨m, hm, htext⟩ := List.mem_map.mp hbinds
      obtain ⟨e, he, hme⟩ := List.mem_flatMap.mp hm
      refine .inside hpattern he (fun hplain => ?_) (mem_boundNames_iff.mpr ⟨m, hme, htext⟩)
      have hsome := isSome_identityBinding? hplain
      rw [List.findSome?_eq_none_iff.mp hnone e he] at hsome
      cases hsome
  | parameter name =>
    obtain ⟨hpattern, hnamed⟩ := passing_parameter hpassing
    obtain rfl : name = x := by
      rw [hpassing] at h
      obtain ⟨-, -, hname⟩ := Option.map_eq_some_iff.mp h
      exact hname
    by_cases hplain : boundName? source p = some name
    · rcases namedPassing_parameter hnamed with ⟨rfl, hno⟩ | ⟨hname, hhead⟩
      · exact absurd hplain (hno p hp)
      · refine .later hpattern hname ?_ hplain
        cases hparameters : parameters f with
        | nil =>
          rw [hparameters] at hp
          cases hp
        | cons first rest =>
          rw [hparameters] at hp hhead
          rcases List.mem_cons.mp hp with rfl | hp
          · rw [hname] at hplain
            exact absurd hplain hhead
          · exact hp
    · exact .apart hpattern hp hplain hbinds

end Overlooks

/-- Making the identity reachable inside a function inserts one name into the parameters, or changes
nothing. If the parameters bind no name twice, they bind none twice afterwards, exactly if the new name
is not bound where the decision overlooks it. -/
theorem parameters_bind_once_iff {g : Graft} {source source' : Bytes} {f : Node} {p p' : Planner}
    {reference : String} (hplan : p.addIdentity source f = .ok (reference, p'))
    (hgrows : Grows g source source' f) (honly : AddsOnly g source source' f)
    (hnested : f.WellNested) (hwide : ∀ m ∈ f.nodes, m.kind = .objectPattern → m.start < m.stop)
    (hnodup : (parameterNames source f).Nodup) :
    (∃ c, p' = p.record c.toList ∧
        Option.Rel (fun c x => Change.Inserts c source f x) c ((passing source f).added? f)) ∧
      ((parameterNames source' (g.graft f)).Nodup ↔
        ∀ x, (passing source f).added? f = some x → ¬ Overlooks source f x) := by
  refine ⟨⟨_, (addIdentity_eq_ok hplan).2, ?_⟩, ?_⟩
  · rcases change?_added? source f with ⟨hchange, hadded⟩ | ⟨c, x, hchange, hadded, hinserts⟩
    · rw [hchange, hadded]
      exact .none
    · rw [hchange, hadded]
      exact .some hinserts
  · rw [(honly.perm_parameterNames hgrows hnested hwide).nodup_iff]
    cases hadded : (passing source f).added? f with
    | none => simpa using hnodup
    | some x =>
      have hoverlooks := mem_parameterNames_iff_overlooks hadded
      simp [hnodup, hoverlooks]

/-- The arrow function in `nestedTags`. -/
def nestedArrow : Node :=
  match nestedTags.root with
  | .mk _ [.mk _ [_, .mk _ [_, _, arrow]]] => arrow
  | root => root

/-- The object pattern of that function. -/
def nestedPattern : Node := ((nestedArrow.child? .parameters).bind Node.firstNamedChild?).getD nestedArrow

theorem text_of_slice {source : Bytes} {n : Node} {x : String}
    (h : source.slice n.start n.stop = Bytes.ofText x) : n.text source = x := by
  rw [Node.text, h, Bytes.text?_ofText, Option.getD_some]

/-- The one entry of that pattern. -/
def nestedEntry : Node := .mk { kind := .shorthandPattern, start := 13, stop := 14 } []

theorem text_nestedEntry : nestedEntry.text nestedTags.source = "x" := text_of_slice rfl

theorem parameterNames_nestedArrow : parameterNames nestedTags.source nestedArrow = ["x"] := by
  have hparameters : parameters nestedArrow = [nestedPattern] := rfl
  have hentries : entries nestedPattern = [nestedEntry] := rfl
  rw [parameterNames, hparameters, List.flatMap_singleton, boundNames, boundNodes_objectPattern rfl,
    hentries, List.flatMap_singleton, boundNodes_of_isBoundName rfl, List.map_singleton,
    text_nestedEntry]

theorem identityBinding?_nestedEntry : identityBinding? nestedTags.source nestedEntry = none := by
  have hkind : nestedEntry.kind = .shorthandPattern := rfl
  rw [identityBinding?, hkind, text_nestedEntry]
  rfl

theorem passing_nestedArrow : passing nestedTags.source nestedArrow = .field nestedPattern := by
  have hpattern : (parameters nestedArrow).findSome? objectPattern? = some nestedPattern := rfl
  have hentries : entries nestedPattern = [nestedEntry] := rfl
  rw [passing, hpattern]
  simp only [hentries, List.findSome?_cons, identityBinding?_nestedEntry, List.findSome?_nil]

theorem addIdentity_nestedArrow :
    ∃ p, ({} : Planner).addIdentity nestedTags.source nestedArrow = .ok (identityField, p) := by
  have hpattern : (parameters nestedArrow).findSome? objectPattern? = some nestedPattern := rfl
  have hentries : entries nestedPattern = [nestedEntry] := rfl
  have hlegible : entryLegible nestedTags.source nestedEntry = true := by
    show nestedEntry.isLegible nestedTags.source = true
    exact Node.isLegible_of_isAscii (by decide) _
  have hsearch : search (unlessLegible <| entryLegible nestedTags.source ·)
      (identityBinding? nestedTags.source) [nestedEntry] = .ok none := by
    simp [search, hlegible, unlessLegible, identityBinding?_nestedEntry]
  rw [Planner.addIdentity, hpattern]
  simp only [Planner.addField, hentries, hsearch]
  exact ⟨_, rfl⟩

theorem nestedTags_addsOnly :
    AddsOnly taggedGraft nestedTags.source taggedTags.source nestedArrow where
  shows := by
    rw [ShowsPassing, passing_nestedArrow]
    refine ⟨⟨rfl, fun list hlist => ?_⟩,
      .mk { kind := .shorthandPattern, start := 16, stop := 24 } [], ?_, rfl, rfl, text_of_slice rfl⟩
    · cases hlist
      exact ⟨rfl, rfl⟩
    · exact List.mem_cons_of_mem _ List.mem_cons_self
  once := by
    intro pattern hpattern
    rw [passing_nestedArrow] at hpattern
    cases hpattern
    rfl
  others := by
    intro q hq m hm hkind _
    have hparameters : parameters nestedArrow = [nestedPattern] := rfl
    rw [hparameters, List.mem_singleton] at hq
    subst hq
    rcases Node.mem_nodes_iff.mp hm with rfl | ⟨c, hc, hm⟩
    · exact passing_nestedArrow
    · have hchildren : nestedPattern.children =
          [.mk { kind := .other "\x7b", start := 11, stop := 12, named := false } [], nestedEntry,
            .mk { kind := .other "\x7d", start := 15, stop := 16, named := false } []] := rfl
      simp only [hchildren, List.mem_cons, List.not_mem_nil, or_false] at hc
      rcases hc with rfl | rfl | rfl <;>
        · rw [Node.mem_nodes_leaf.mp hm] at hkind
          cases hkind
  bare := fun l hl => nomatch hl
  names := by
    intro _ q hq m hm
    have hparameters : parameters nestedArrow = [nestedPattern] := rfl
    have hentries : entries nestedPattern = [nestedEntry] := rfl
    rw [hparameters, List.mem_singleton] at hq
    subst hq
    rw [boundNodes_objectPattern rfl, hentries, List.flatMap_singleton,
      boundNodes_of_isBoundName rfl, List.mem_singleton] at hm
    subst hm
    rw [text_nestedEntry]
    exact text_of_slice rfl

theorem nestedArrow_mem : nestedArrow ∈ nestedTags.root.nodes := by
  have hstatement := Node.mem_nodes_of_mem_children (n := nestedTags.root) List.mem_cons_self
  have hdeclarator := Node.mem_nodes_of_mem_children
    (n := nestedTags.root.children.head (by decide)) (List.mem_cons_of_mem _ List.mem_cons_self)
  have harrow := Node.mem_nodes_of_mem_children (c := nestedArrow)
    (n := (nestedTags.root.children.head (by decide)).children.getLast (by decide))
    (List.mem_cons_of_mem _ (List.mem_cons_of_mem _ List.mem_cons_self))
  exact Node.mem_nodes_trans (Node.mem_nodes_trans hstatement hdeclarator) harrow

/-- The new field is a name of its own: the function binds `x` and the field afterwards. -/
theorem parameters_bind_once_nestedTags :
    (parameterNames nestedTags.source nestedArrow).Nodup ∧
      (∃ p c, ({} : Planner).addIdentity nestedTags.source nestedArrow = .ok (identityField, p) ∧
        p = ({} : Planner).record [c] ∧ c.Inserts nestedTags.source nestedArrow identityField) ∧
      (parameterNames taggedTags.source (taggedGraft.graft nestedArrow)).Nodup := by
  have hnodup : (parameterNames nestedTags.source nestedArrow).Nodup := by
    rw [parameterNames_nestedArrow]
    exact List.nodup_singleton _
  have hlaidOut : nestedArrow.WellNested ∧
      ∀ m ∈ nestedArrow.nodes, m.kind = .objectPattern → m.start < m.stop := by decide +kernel
  obtain ⟨p, hplan⟩ := addIdentity_nestedArrow
  obtain ⟨⟨c, hrecord, hinserts⟩, hiff⟩ := parameters_bind_once_iff hplan
    (taggedTags_grows.of_mem nestedArrow_mem) nestedTags_addsOnly hlaidOut.1 hlaidOut.2 hnodup
  refine ⟨hnodup, ?_, hiff.mpr fun x hx hoverlooks => ?_⟩
  · rw [passing_nestedArrow] at hinserts
    cases hinserts with
    | some hinserts => exact ⟨p, _, hplan, hrecord, hinserts⟩
  · have hmem := hoverlooks.mem_parameterNames
    rw [passing_nestedArrow] at hx
    cases hx
    rw [parameterNames_nestedArrow] at hmem
    exact absurd hmem (by decide)

/-- The file with a function that takes its properties apart as an array. -/
def arrayText : String := "const A = ([props]) => <b />"

/-- The function in that file. -/
def arrayArrow : Node :=
  .mk { kind := .arrowFunction, start := 10, stop := 28, field := some .value } [
    .mk { kind := .other "formal_parameters", start := 10, stop := 19, field := some .parameters } [
      .mk { kind := .other "(", start := 10, stop := 11, named := false } [],
      .mk { kind := .other "array_pattern", start := 11, stop := 18 } [
        .mk { kind := .other "[", start := 11, stop := 12, named := false } [],
        .mk { kind := .identifier, start := 12, stop := 17 } [],
        .mk { kind := .other "]", start := 17, stop := 18, named := false } []],
      .mk { kind := .other ")", start := 18, stop := 19, named := false } []],
    .mk { kind := .other "=>", start := 20, stop := 22, named := false } [],
    markupAt 23 (some .body)]

/-- The parameter `props` is added to `([props])`, which binds that name. -/
theorem parameters_bind_twice :
    (parameterNames (Bytes.ofText arrayText) arrayArrow).Nodup ∧
      ({} : Planner).addIdentity (Bytes.ofText arrayText) arrayArrow =
        .ok ("props.pc_el_id", ({} : Planner).insert 11 "props, ") ∧
      "props" ∈ parameterNames (Bytes.ofText arrayText) arrayArrow := by
  have hnames : parameterNames (Bytes.ofText arrayText) arrayArrow = ["props"] := by
    have hparameters : ∃ q, parameters arrayArrow = [q] ∧ isBoundName q = false ∧
        bindingParts q = [.mk { kind := .identifier, start := 12, stop := 17 } []] :=
      ⟨_, rfl, rfl, rfl⟩
    obtain ⟨q, hq, hbound, hparts⟩ := hparameters
    rw [parameterNames, hq, List.flatMap_singleton, boundNames,
      boundNodes_of_bindingParts hbound hparts, boundNodes_of_isBoundName rfl, List.map_singleton,
      text_of_slice (x := "props") rfl]
  rw [hnames]
  exact ⟨List.nodup_singleton _, rfl, List.mem_singleton_self _⟩

end JsxTagger.Instrument
