import JsxTagger.Proofs.Instrument.Growth

/-!
# What was added is found again

Each insertion has a guard that asks whether it was made before. Here the guards are asked about the
tree that the insertions result in: a tag that got an attribute has it (`hasAttribute_of_shows`), and a
function whose parameters were dealt with has nothing left to add (`change?_of_shows`). The five cases
of the latter are those of `ShowsPassing`.
-/

namespace JsxTagger.Instrument

open Classify Syntax

/-! ## What a tree shows -/

/-- A tag got an attribute of the given name. -/
def ShowsAttribute (g : Graft) (source : Bytes) (e : Node) (name : String) : Prop :=
  ∃ a ∈ g.added e, a.named = true ∧ a.kind = .jsxAttribute ∧ textOf source a.firstNamedChild? = name

instance (g : Graft) (source : Bytes) (e : Node) (name : String) :
    Decidable (ShowsAttribute g source e name) := inferInstanceAs (Decidable (∃ a ∈ g.added e, _))

/-- An object pattern got a field for the identity. -/
def ShowsField (g : Graft) (source : Bytes) (pattern : Node) : Prop :=
  ∃ a ∈ g.added pattern, a.named = true ∧ a.kind = .shorthandPattern ∧ a.text source = identityField

instance (g : Graft) (source : Bytes) (pattern : Node) : Decidable (ShowsField g source pattern) :=
  inferInstanceAs (Decidable (∃ a ∈ g.added pattern, _))

/-- The parameters of a function stay as they are. -/
def Untouched (g : Graft) (f : Node) : Prop :=
  g.wrapped f = none ∧ ∀ list ∈ f.child? .parameters, g.Leaves list

instance (g : Graft) (f : Node) : Decidable (Untouched g f) := inferInstanceAs (Decidable (_ ∧ _))

/-- Whether a child counts as an entry of a list or a pattern. -/
def isEntry (c : Node) : Bool := c.named && c.kind != .comment

/-- The first of some entries is a parameter of the given name. -/
def StartsWith (source : Bytes) (name : String) (entries : List Node) : Prop :=
  ∃ p ∈ entries.head?, p.kind = .identifier ∧ p.text source = name

instance (source : Bytes) (name : String) (ns : List Node) : Decidable (StartsWith source name ns) :=
  inferInstanceAs (Decidable (∃ p ∈ ns.head?, _))

/-- A parameter of the given name was added in front of a list of parameters. -/
def ShowsParameter (g : Graft) (source : Bytes) (list : Node) (name : String) : Prop :=
  g.wrapped list = none ∧ (list.children.take (g.place list)).filter isEntry = [] ∧
    ((g.added list).filter isEntry).length = 1 ∧
    StartsWith source name ((g.added list).filter isEntry)

instance (g : Graft) (source : Bytes) (list : Node) (name : String) :
    Decidable (ShowsParameter g source list name) := inferInstanceAs (Decidable (_ ∧ _ ∧ _ ∧ _))

/-- What was decided for a function is there: nothing changes if the identity was there, else the
pattern got a field, the list got a parameter, or a list with the parameter takes the place of the bare
one. A function without any parameter to start from stays as it is. -/
def ShowsPassing (g : Graft) (source source' : Bytes) (f : Node) : Prop :=
  match passing source f with
  | .present _ => Untouched g f
  | .field pattern => Untouched g f ∧ ShowsField g source' pattern
  | .parameter name =>
    match f.child? .parameters, f.child? .parameter with
    | some list, _ => ShowsParameter g source' list name
    | none, some _ => ∃ l ∈ g.wrapped f, StartsWith source' name (entries l)
    | none, none => g.wrapped f = none

instance (g : Graft) (source source' : Bytes) (f : Node) :
    Decidable (ShowsPassing g source source' f) :=
  match h : passing source f with
  | .present _ => decidable_of_iff (Untouched g f) (by rw [ShowsPassing, h])
  | .field pattern =>
    decidable_of_iff (Untouched g f ∧ ShowsField g source' pattern) (by rw [ShowsPassing, h])
  | .parameter name =>
    match hlist : f.child? .parameters, hbare : f.child? .parameter with
    | some list, _ =>
      decidable_of_iff (ShowsParameter g source' list name) (by simp only [ShowsPassing, h, hlist])
    | none, some _ =>
      decidable_of_iff (∃ l ∈ g.wrapped f, StartsWith source' name (entries l))
        (by simp only [ShowsPassing, h, hlist, hbare])
    | none, none =>
      decidable_of_iff (g.wrapped f = none) (by simp only [ShowsPassing, h, hlist, hbare])

section

variable {g : Graft} {source source' : Bytes} {n c f : Node}

/-! ## Attributes -/

/-- A child that was added is a child. -/
theorem mem_children_graft_of_mem_added {a : Node} (ha : a ∈ g.added n) :
    a ∈ (g.graft n).children := by
  rw [Graft.children_graft, Graft.splice]
  exact List.mem_append_left _ (List.mem_append_right _ ha)

/-- A child that was there is a child, unless a list takes its place. -/
theorem mem_children_graft (hw : g.wrapped n = none) (hc : c ∈ n.children) :
    g.graft c ∈ (g.graft n).children := by
  have hmem : g.graft c ∈ n.children.map (g.child (g.wrapped n)) := by
    rw [hw]
    exact List.mem_map_of_mem hc
  rw [← List.take_append_drop (g.place n) (n.children.map _)] at hmem
  rw [Graft.children_graft, Graft.splice, List.append_assoc]
  rcases List.mem_append.mp hmem with hmem | hmem
  · exact List.mem_append_left _ hmem
  · exact List.mem_append_right _ (List.mem_append_right _ hmem)

theorem hasAttribute_iff {e : Node} {name : String} :
    hasAttribute source e name = true ↔
      ∃ a ∈ e.children, a.named = true ∧ a.kind = .jsxAttribute ∧
        textOf source a.firstNamedChild? = name := by
  rw [hasAttribute, List.contains_iff_mem, attributeNames, attributeNameNodes, List.map_map,
    List.mem_map]
  constructor
  · rintro ⟨a, ha, hname⟩
    obtain ⟨ha, hkind⟩ := List.mem_filter.mp ha
    obtain ⟨hmem, hnamed⟩ := Node.mem_namedChildren.mp (List.mem_filter.mp ha).1
    exact ⟨a, hmem, hnamed, by simpa using hkind, hname⟩
  · rintro ⟨a, hmem, hnamed, hkind, hname⟩
    refine ⟨a, List.mem_filter.mpr ⟨List.mem_filter.mpr
      ⟨Node.mem_namedChildren.mpr ⟨hmem, hnamed⟩, ?_⟩, ?_⟩, hname⟩ <;> simp [hkind]

/-- A tag that got an attribute has it. -/
theorem hasAttribute_of_shows {e : Node} {name : String} (h : ShowsAttribute g source' e name) :
    hasAttribute source' (g.graft e) name = true := by
  obtain ⟨a, ha, hnamed, hkind, hname⟩ := h
  exact hasAttribute_iff.mpr ⟨a, mem_children_graft_of_mem_added ha, hnamed, hkind, hname⟩

/-- A tag that had an attribute has it. -/
theorem hasAttribute_graft {e : Node} {name : String} (h : Grows g source source' e)
    (hopening : isOpeningElement e = true) (hname : isBracketed name = false) (hne : name ≠ "")
    (hhas : hasAttribute source e name = true) : hasAttribute source' (g.graft e) name = true := by
  obtain ⟨a, ha, hnamed, hkind, htext⟩ := hasAttribute_iff.mp hhas
  have hw : g.wrapped e = none := by
    rw [isOpeningElement, Bool.or_eq_true, Bool.and_eq_true, beq_iff_eq, beq_iff_eq] at hopening
    rcases hopening with hk | ⟨hk, -⟩ <;> exact h.wrapped_eq_none (by rw [hk]; rfl)
  have hag := h.of_mem (Node.mem_nodes_of_mem_children ha)
  have hleaves := hag.leaves (by rw [hkind]; rfl) (by rw [hkind]; rfl)
  refine hasAttribute_iff.mpr ⟨g.graft a, mem_children_graft hw ha, ?_, ?_, ?_⟩
  · rwa [Graft.named_graft]
  · rwa [Graft.kind_graft]
  · rw [hleaves.firstNamedChild?]
    cases hfirst : a.firstNamedChild? with
    | none =>
      rw [hfirst] at htext
      exact absurd htext.symm hne
    | some first =>
      rw [hfirst] at htext
      have hkeeps := hag.keeps_of_leaves hleaves (Node.mem_children_of_firstNamedChild? hfirst)
      exact (hkeeps.text_eq_iff hname).mpr htext

/-! ## Parameters -/

theorem entries_eq (n : Node) : entries n = n.children.filter isEntry := by
  rw [entries, Node.namedChildren, List.filter_filter]
  refine List.filter_congr fun c _ => ?_
  rw [isEntry, Bool.and_comm]

theorem isEntry_graft (c : Node) : isEntry (g.graft c) = isEntry c := by
  rw [isEntry, isEntry, Graft.named_graft, Graft.kind_graft]

theorem entries_graft (h : g.Leaves n) : entries (g.graft n) = (entries n).map g.graft := by
  rw [entries_eq, entries_eq, h.children, List.filter_map]
  simp only [Function.comp_def, isEntry_graft]

/-- A list that a parameter was added to has it in front of the others. -/
theorem entries_of_showsParameter {name : String} (h : ShowsParameter g source' n name) :
    ∃ p, entries (g.graft n) = p :: (entries n).map g.graft ∧ p.kind = .identifier ∧
      p.text source' = name := by
  obtain ⟨hw, hfront, hlength, p, hhead, hkind, htext⟩ := h
  have hadded : (g.added n).filter isEntry = [p] := by
    obtain ⟨q, hq⟩ := List.length_eq_one_iff.mp hlength
    rw [hq] at hhead
    rw [hq, Option.some.inj hhead]
  have hchild : g.child none = g.graft := rfl
  have hfilter : ∀ cs : List Node, (cs.map g.graft).filter isEntry =
      (cs.filter isEntry).map g.graft := by
    intro cs
    rw [List.filter_map]
    simp only [Function.comp_def, isEntry_graft]
  refine ⟨p, ?_, hkind, htext⟩
  have hsplit : n.children.filter isEntry = (n.children.drop (g.place n)).filter isEntry := by
    rw [← List.take_append_drop (g.place n) n.children, List.filter_append, hfront,
      List.take_append_drop, List.nil_append]
  rw [entries_eq, Graft.children_graft, Graft.splice, hw, hchild, ← List.map_take, ← List.map_drop,
    List.filter_append, List.filter_append, hadded, hfilter, hfilter, hfront, entries_eq, hsplit]
  rfl

theorem objectPattern?_graft (h : Grows g source source' n) :
    objectPattern? (g.graft n) = (objectPattern? n).map g.graft := by
  rw [objectPattern?, objectPattern?, Graft.kind_graft]
  split
  · rfl
  · split
    · rw [h.child?_graft rfl (by simp) (by simp)]
      cases n.child? .left with
      | none => rfl
      | some left =>
        simp only [Option.map_some, Graft.kind_graft]
        split <;> rfl
    · rfl

theorem findSome?_objectPattern?_graft {qs : List Node} (h : ∀ q ∈ qs, Grows g source source' q) :
    (qs.map g.graft).findSome? objectPattern? = (qs.findSome? objectPattern?).map g.graft := by
  induction qs with
  | nil => rfl
  | cons q qs ih =>
    rw [List.map_cons, List.findSome?_cons, List.findSome?_cons,
      objectPattern?_graft (h q List.mem_cons_self),
      ih fun q' hq' => h q' (List.mem_cons_of_mem q hq')]
    cases objectPattern? q <;> rfl

/-- Whether a parameter binds a name does not change. -/
theorem boundName?_graft (h : Grows g source source' n) (hn : Keeps g source source' n) {k : String}
    (hk : isBracketed k = false) :
    boundName? source' (g.graft n) = some k ↔ boundName? source n = some k := by
  have hbound : boundNode? (g.graft n) = (boundNode? n).map g.graft ∧
      ∀ m, boundNode? n = some m → Keeps g source source' m := by
    rw [boundNode?, boundNode?, Graft.kind_graft]
    by_cases ha : n.kind = .assignmentPattern
    · simp only [ha, if_true, h.child?_graft (f := .left) rfl (by simp) (by simp)]
      refine ⟨?_, fun m hm => h.keeps_child? (by simp) (Option.filter_eq_some_iff.mp hm).1⟩
      cases n.child? .left <;> simp [Option.filter, apply_ite]
    · by_cases hr : n.kind = .restPattern
      · have hleaves := h.leaves (by rw [hr]; rfl) (by rw [hr]; rfl)
        simp only [hr, if_true, hleaves.firstNamedChild?, reduceCtorEq, if_false]
        refine ⟨?_, fun m hm => h.keeps_of_leaves hleaves (Node.mem_children_of_firstNamedChild?
          (Option.filter_eq_some_iff.mp hm).1)⟩
        cases n.firstNamedChild? <;> simp [Option.filter, apply_ite]
      · simp only [ha, hr, if_false]
        refine ⟨by simp [Option.filter, apply_ite], fun m hm => ?_⟩
        rw [← Option.some.inj (Option.filter_eq_some_iff.mp hm).1]
        exact hn
  rw [boundName?, boundName?, hbound.1]
  cases hb : boundNode? n with
  | none => simp
  | some m => simpa using (hbound.2 m hb).text_eq_iff hk

/-- Whether an entry of a pattern binds the identity does not change. -/
theorem isSome_identityBinding?_graft (h : Grows g source source' n)
    (hn : Keeps g source source' n) :
    (identityBinding? source' (g.graft n)).isSome = (identityBinding? source n).isSome := by
  have hfield : isBracketed identityField = false := by decide
  rw [identityBinding?, identityBinding?, Graft.kind_graft]
  cases n.kind
  case shorthandPattern =>
    simp only [isSome_ite, hn.text_eq_iff hfield]
  case objectAssignmentPattern =>
    simp only [h.child?_graft (f := .left) rfl (by simp) (by simp), isSome_ite,
      decide_eq_decide]
    cases hleft : n.child? .left with
    | none => rfl
    | some left => exact (h.keeps_child? (by simp) hleft).text_eq_iff hfield
  case pairPattern =>
    have hkey : unquoted (textOf source' ((g.graft n).child? .key)) = identityField ↔
        unquoted (textOf source (n.child? .key)) = identityField := by
      rw [h.child?_graft rfl (by simp) (by simp)]
      cases hkey : n.child? .key with
      | none => rfl
      | some key => exact (h.keeps_child? (by simp) hkey).unquoted_eq_iff hfield
    simp only [hkey]
    split
    · -- the target decides about the name, and not about whether there is one
      cases pairTarget? (g.graft n) <;> cases pairTarget? n <;> rfl
    · rfl
  all_goals rfl

/-! ## Functions -/

theorem parameters_graft (h : Grows g source source' f) (hu : Untouched g f) :
    parameters (g.graft f) = (parameters f).map g.graft := by
  rw [parameters, parameters, h.child?_graft_of_wrapped hu.1 rfl, h.child?_graft_of_wrapped hu.1 rfl]
  cases hlist : f.child? .parameters with
  | some list => exact entries_graft (hu.2 list hlist)
  | none => cases f.child? .parameter <;> rfl

/-- The parameters of a function that stays as it is keep their texts. -/
theorem keeps_of_mem_parameters (h : Grows g source source' f) (hu : Untouched g f)
    (hc : c ∈ parameters f) : Keeps g source source' c := by
  rw [parameters] at hc
  split at hc
  · rename_i list hlist
    have hl := h.of_child? hlist
    rw [entries_eq] at hc
    exact hl.keeps_of_leaves (hu.2 list hlist) (List.mem_filter.mp hc).1
  · rename_i bare _ hbare
    rw [List.mem_singleton.mp hc]
    exact h.texts f (Node.mem_nodes_self f) bare (Node.mem_children_of_child? hbare) (Or.inl hu.1)
  · cases hc

theorem grows_of_mem_parameters (h : Grows g source source' f) (hc : c ∈ parameters f) :
    Grows g source source' c :=
  h.of_mem (mem_nodes_of_mem_parameters hc)

/-- A pattern that binds the identity, or got a field for it, binds the identity. -/
theorem isSome_findSome?_identityBinding? {pattern : Node} (h : Grows g source source' pattern)
    (hkind : pattern.kind = .objectPattern)
    (hbinds : (∃ r, (entries pattern).findSome? (identityBinding? source) = some r) ∨
      ShowsField g source' pattern) :
    ∃ r, (entries (g.graft pattern)).findSome? (identityBinding? source') = some r := by
  rw [← Option.isSome_iff_exists, List.findSome?_isSome_iff, entries_eq]
  have hw : g.wrapped pattern = none := h.wrapped_eq_none (by rw [hkind]; rfl)
  rcases hbinds with ⟨r, hr⟩ | ⟨a, ha, hnamed, hakind, htext⟩
  · obtain ⟨entry, hentry, hbinding⟩ := List.exists_of_findSome?_eq_some hr
    rw [entries_eq] at hentry
    obtain ⟨hmem, hentry⟩ := List.mem_filter.mp hentry
    have he := h.of_mem (Node.mem_nodes_of_mem_children hmem)
    have hkeeps := h.texts pattern (Node.mem_nodes_self pattern) entry hmem (Or.inl hw)
    refine ⟨g.graft entry, List.mem_filter.mpr ⟨mem_children_graft hw hmem, ?_⟩, ?_⟩
    · rwa [isEntry_graft]
    · rw [isSome_identityBinding?_graft he hkeeps, hbinding]
      rfl
  · refine ⟨a, List.mem_filter.mpr ⟨mem_children_graft_of_mem_added ha, ?_⟩, ?_⟩
    · simp [isEntry, hnamed, hakind]
    · simp [identityBinding?, hakind, htext]

/-- The first parameter that takes the properties stays the first one. -/
theorem find?_props_graft {qs : List Node} (h : ∀ q ∈ qs, Grows g source source' q)
    (hkeeps : ∀ q ∈ qs, Keeps g source source' q) (i : Nat) :
    ((qs.map g.graft).zipIdx i).find? (fun q => boundName? source' q.1 == some propsParameter) =
      ((qs.zipIdx i).find? fun q => boundName? source q.1 == some propsParameter).map
        fun q => (g.graft q.1, q.2) := by
  induction qs generalizing i with
  | nil => rfl
  | cons q qs ih =>
    have hq : (boundName? source' (g.graft q) == some propsParameter) =
        (boundName? source q == some propsParameter) := by
      rw [Bool.eq_iff_iff, beq_iff_eq, beq_iff_eq]
      exact boundName?_graft (h q List.mem_cons_self) (hkeeps q List.mem_cons_self) (by decide)
    rw [List.map_cons, List.zipIdx_cons, List.zipIdx_cons, List.find?_cons, List.find?_cons]
    simp only [hq]
    rw [ih (fun q' hq' => h q' (List.mem_cons_of_mem q hq'))
      (fun q' hq' => hkeeps q' (List.mem_cons_of_mem q hq')) (i + 1)]
    cases boundName? source q == some propsParameter <;> rfl

/-- The decision by names depends on nothing that changes. -/
theorem namedPassing_graft {qs : List Node} (h : ∀ q ∈ qs, Grows g source source' q)
    (hkeeps : ∀ q ∈ qs, Keeps g source source' q) :
    namedPassing source' (qs.map g.graft) = namedPassing source qs := by
  have hhead : ((qs.map g.graft).head?.bind (boundName? source') == some fallbackParameter) =
      (qs.head?.bind (boundName? source) == some fallbackParameter) := by
    cases qs with
    | nil => rfl
    | cons q qs =>
      rw [Bool.eq_iff_iff, beq_iff_eq, beq_iff_eq]
      exact boundName?_graft (h q List.mem_cons_self) (hkeeps q List.mem_cons_self) (by decide)
  rw [namedPassing, namedPassing, find?_props_graft h hkeeps, hhead]
  cases qs.zipIdx.find? fun q => boundName? source q.1 == some propsParameter with
  | none => rfl
  | some q => simp only [Option.map_some, Graft.kind_graft]

theorem boundName?_of_identifier (source : Bytes) {p : Node} (hkind : p.kind = .identifier) :
    boundName? source p = some (p.text source) := by
  simp [boundName?, boundNode?, hkind, Option.filter]

/-- A parameter of the usual name in front takes the properties. -/
theorem namedPassing_props {p : Node} (rest : List Node) (hkind : p.kind = .identifier)
    (htext : p.text source = propsParameter) :
    ∃ r, namedPassing source (p :: rest) = .present r := by
  rw [namedPassing, List.zipIdx_cons, List.find?_cons]
  simp [boundName?_of_identifier source hkind, htext, hkind]

/-- A parameter of the other name in front takes the properties, if a rest parameter has taken the
usual name. -/
theorem namedPassing_fallback {p : Node} {qs : List Node} (h : ∀ q ∈ qs, Grows g source source' q)
    (hkeeps : ∀ q ∈ qs, Keeps g source source' q) (hkind : p.kind = .identifier)
    (htext : p.text source' = fallbackParameter)
    (hqs : namedPassing source qs = .parameter fallbackParameter) :
    ∃ r, namedPassing source' (p :: qs.map g.graft) = .present r := by
  have hne : (fallbackParameter == propsParameter) = false := by decide
  have hbound := boundName?_of_identifier source' hkind
  rw [htext] at hbound
  -- the rest parameter is found again, one place further back
  have hshift : ∀ (ns : List Node) (i : Nat), (ns.zipIdx (i + 1)).find?
        (fun q => boundName? source' q.1 == some propsParameter) =
      ((ns.zipIdx i).find? fun q => boundName? source' q.1 == some propsParameter).map
        fun q => (q.1, q.2 + 1) := by
    intro ns i
    rw [List.zipIdx_succ, List.find?_map]
    rfl
  rw [namedPassing] at hqs
  split at hqs
  · have hname : propsParameter = fallbackParameter := Passing.parameter.inj hqs
    exact absurd hname (by decide)
  · rename_i parameter i hfind
    split at hqs
    · cases hqs
    · rename_i hrest
      split at hqs
      · cases hqs
      · have hfound := find?_props_graft h hkeeps 0
        rw [hfind, Option.map_some] at hfound
        rw [namedPassing, List.zipIdx_cons, List.find?_cons, hshift, hfound]
        simp [hbound, hne, hrest]

/-! ## Nothing is left to add -/

theorem change?_present {r : String} (h : passing source f = .present r) :
    (passing source f).change? source f = none := by
  rw [h]
  rfl

/-- Parameters that hold an object pattern which binds the identity leave nothing to add. -/
theorem passing_of_pattern {pattern : Node} {r : String}
    (hpattern : (parameters f).findSome? objectPattern? = some pattern)
    (hr : (entries pattern).findSome? (identityBinding? source) = some r) :
    passing source f = .present r := by
  simp only [passing, hpattern, hr]

/-- Parameters that hold no object pattern are decided about by their names. -/
theorem passing_of_no_pattern (hpattern : (parameters f).findSome? objectPattern? = none) :
    passing source f = namedPassing source (parameters f) := by
  rw [passing, hpattern]

/-- A pattern that takes the properties has the identity afterwards. -/
theorem change?_of_shows_pattern (h : Grows g source source' f)
    (hshows : ShowsPassing g source source' f) {pattern : Node}
    (hpattern : (parameters f).findSome? objectPattern? = some pattern) :
    (passing source' (g.graft f)).change? source' (g.graft f) = none := by
  have hq : ∀ q ∈ parameters f, Grows g source source' q := fun q => grows_of_mem_parameters h
  obtain ⟨q, hqmem, hqpattern⟩ := List.exists_of_findSome?_eq_some hpattern
  obtain ⟨hmem, hkind⟩ := objectPattern?_eq_some hqpattern
  have hgrows : Grows g source source' pattern := (hq q hqmem).of_mem hmem
  have hbinds : Untouched g f ∧
      ((∃ r, (entries pattern).findSome? (identityBinding? source) = some r) ∨
        ShowsField g source' pattern) := by
    simp only [ShowsPassing, passing, hpattern] at hshows
    cases hr : (entries pattern).findSome? (identityBinding? source) with
    | some r =>
      rw [hr] at hshows
      exact ⟨hshows, Or.inl ⟨r, rfl⟩⟩
    | none =>
      rw [hr] at hshows
      exact ⟨hshows.1, Or.inr hshows.2⟩
  obtain ⟨r, hr⟩ := isSome_findSome?_identityBinding? hgrows hkind hbinds.2
  refine change?_present (passing_of_pattern ?_ hr)
  rw [parameters_graft h hbinds.1, findSome?_objectPattern?_graft hq, hpattern]
  rfl

theorem objectPattern?_of_identifier {p : Node} (hkind : p.kind = .identifier) :
    objectPattern? p = none := by
  simp [objectPattern?, hkind]

/-- A list that a parameter was added to leaves nothing to add. -/
theorem change?_of_showsParameter (h : Grows g source source' f) {list : Node} {name : String}
    (hlist : f.child? .parameters = some list)
    (hpattern : (parameters f).findSome? objectPattern? = none)
    (hnamed : namedPassing source (parameters f) = .parameter name)
    (hshows : ShowsParameter g source' list name) :
    (passing source' (g.graft f)).change? source' (g.graft f) = none := by
  have hq : ∀ q ∈ parameters f, Grows g source source' q := fun q => grows_of_mem_parameters h
  have hentries : parameters f = entries list := by rw [parameters, hlist]
  have hkeeps : ∀ q ∈ parameters f, Keeps g source source' q := by
    intro q hmem
    rw [hentries, entries_eq] at hmem
    exact (h.of_child? hlist).texts list (Node.mem_nodes_self list) q (List.mem_filter.mp hmem).1
      (Or.inl hshows.1)
  have hw := h.wrapped_eq_none_of_list hlist
  obtain ⟨p, hparams, hkind, htext⟩ := entries_of_showsParameter hshows
  have hparams' : parameters (g.graft f) = p :: (parameters f).map g.graft := by
    rw [parameters, h.child?_graft_of_wrapped hw rfl, hlist, Option.map_some, hentries]
    exact hparams
  have hpassing : passing source' (g.graft f) =
      namedPassing source' (p :: (parameters f).map g.graft) := by
    rw [← hparams']
    refine passing_of_no_pattern ?_
    rw [hparams', List.findSome?_cons, objectPattern?_of_identifier hkind,
      findSome?_objectPattern?_graft hq, hpattern]
    rfl
  -- the name tells why the parameter was added
  obtain ⟨r, hr⟩ : ∃ r, namedPassing source' (p :: (parameters f).map g.graft) = .present r := by
    rcases namedPassing_cases source (parameters f) with ⟨r, hr⟩ | hprops | hfallback
    · rw [hr] at hnamed
      cases hnamed
    · rw [hprops, Passing.parameter.injEq] at hnamed
      exact namedPassing_props _ hkind (htext.trans hnamed.symm)
    · rw [hfallback, Passing.parameter.injEq] at hnamed
      exact namedPassing_fallback hq hkeeps hkind (htext.trans hnamed.symm) hfallback
  exact change?_present (hpassing.trans hr)

/-- A single parameter never asks for the other name. -/
theorem namedPassing_singleton {p : Node} {name : String}
    (h : namedPassing source [p] = .parameter name) : name = propsParameter := by
  rw [namedPassing] at h
  split at h
  · exact (Passing.parameter.inj h).symm
  · rename_i parameter i hfind
    have hzero : i = 0 := by
      have := List.mem_of_find?_eq_some hfind
      simp at this
      exact this.2
    rw [if_pos hzero] at h
    split at h <;> cases h

/-- A list around a bare parameter leaves nothing to add. -/
theorem change?_of_shows_bare (h : Grows g source source' f) {bare l : Node} {name : String}
    (hlist : f.child? .parameters = none) (hbare : f.child? .parameter = some bare)
    (hnamed : namedPassing source (parameters f) = .parameter name) (hl : g.wrapped f = some l)
    (hstarts : StartsWith source' name (entries l)) :
    (passing source' (g.graft f)).change? source' (g.graft f) = none := by
  obtain ⟨p, hhead, hkind, htext⟩ := hstarts
  obtain ⟨rest, hentries⟩ := List.head?_eq_some_iff.mp hhead
  have hwraps := h.wrapped f (Node.mem_nodes_self f) l hl
  have hparams : parameters (g.graft f) = entries l := by
    rw [parameters, h.child?_parameters_of_wrapped hl hbare]
  have hpattern : (parameters (g.graft f)).findSome? objectPattern? = none := by
    rw [hparams, List.findSome?_eq_none_iff]
    intro q hq
    have hinert := hwraps.inert q (Node.mem_nodes_of_mem_children (by
      rw [entries_eq] at hq
      exact (List.mem_filter.mp hq).1))
    rw [objectPattern?]
    split
    · rename_i hk
      rw [hk] at hinert
      cases hinert
    · split
      · rename_i hk
        rw [hk] at hinert
        cases hinert
      · rfl
  have hprops : name = propsParameter := by
    simp only [parameters, hlist, hbare] at hnamed
    exact namedPassing_singleton hnamed
  obtain ⟨r, hr⟩ := namedPassing_props rest hkind (htext.trans hprops)
  refine change?_present (r := r) ?_
  rw [passing_of_no_pattern hpattern, hparams, hentries, hr]

/-- A function for which what was decided is there has nothing left to add. -/
theorem change?_of_shows (h : Grows g source source' f) (hshows : ShowsPassing g source source' f) :
    (passing source' (g.graft f)).change? source' (g.graft f) = none := by
  cases hpattern : (parameters f).findSome? objectPattern? with
  | some pattern => exact change?_of_shows_pattern h hshows hpattern
  | none =>
    have hq : ∀ q ∈ parameters f, Grows g source source' q := fun q => grows_of_mem_parameters h
    rw [ShowsPassing, passing_of_no_pattern hpattern] at hshows
    cases hnamed : namedPassing source (parameters f) with
    | field pattern =>
      rcases namedPassing_cases source (parameters f) with ⟨r, hr⟩ | hr | hr <;>
        · rw [hr] at hnamed
          cases hnamed
    | present r =>
      rw [hnamed] at hshows
      have hparams := parameters_graft h hshows
      refine change?_present (r := r) ?_
      rw [passing_of_no_pattern, hparams,
        namedPassing_graft hq fun q => keeps_of_mem_parameters h hshows, hnamed]
      rw [hparams, findSome?_objectPattern?_graft hq, hpattern]
      rfl
    | parameter name =>
      rw [hnamed] at hshows
      cases hlist : f.child? .parameters with
      | some list =>
        simp only [hlist] at hshows
        exact change?_of_showsParameter h hlist hpattern hnamed hshows
      | none =>
        cases hbare : f.child? .parameter with
        | some bare =>
          simp only [hlist, hbare] at hshows
          obtain ⟨l, hl, hstarts⟩ := hshows
          exact change?_of_shows_bare h hlist hbare hnamed hl hstarts
        | none =>
          simp only [hlist, hbare] at hshows
          -- a function without a place for parameters is decided on again, to no effect
          have hparams : parameters (g.graft f) = [] := by
            rw [parameters, h.child?_graft_of_wrapped hshows rfl,
              h.child?_graft_of_wrapped hshows rfl, hlist, hbare]
            rfl
          have hpassing : passing source' (g.graft f) = .parameter propsParameter := by
            rw [passing_of_no_pattern (by rw [hparams]; rfl), hparams]
            rfl
          have hnone : parameterChange? source' (g.graft f) propsParameter = none := by
            rw [parameterChange?, h.child?_graft_of_wrapped hshows rfl,
              h.child?_graft_of_wrapped hshows rfl, hlist, hbare]
            rfl
          rw [hpassing]
          exact hnone

end

end JsxTagger.Instrument
