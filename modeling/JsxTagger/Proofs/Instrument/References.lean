import JsxTagger.Proofs.Instrument.Bindings

/-!
# What the expression for the identity refers to

The expression that is written into a tag begins with a name (`headName`). For a function that name is
to be one of its parameters: it is, unless the entry that is taken for the identity takes it apart
instead of naming it (`mem_headName_iff`). The tag may stand inside further functions, and those are
left as they are (`Referable.not_thread`), so that the name means the parameter there if and only if
none of them bound it before. The main statement, `reference_resolves_iff`, puts the two together for
all tags that a run binds.
-/

namespace JsxTagger.Instrument

open Classify Syntax

variable {room : Nat}

/-! ## The name at the head -/

/-- Whether a character can stand in a name, as far as telling a name from what follows it goes. -/
def isNameChar (c : Char) : Bool := c != '.' && c != '['

/-- The name that an expression for the identity begins with. -/
def headName (reference : String) : String :=
  String.ofList (reference.toList.takeWhile isNameChar)

/-- A text in which no character ends a name. -/
def isWord (s : String) : Bool := s.toList.all isNameChar

theorem headName_of_isWord {s : String} (h : isWord s = true) : headName s = s := by
  rw [headName, List.takeWhile_eq_self_iff.mpr (List.all_eq_true.mp h), String.ofList_toList]

/-- Names can be read as they are meant, and a name in front of a default is one. -/
structure WellNamed (source : Bytes) (n : Node) : Prop where
  /-- A name holds no dot and no bracket. -/
  words : ∀ m ∈ n.nodes, m.kind = .identifier → isWord (m.text source) = true
  /-- What is written like the identity in front of a default is a name. -/
  defaults : ∀ m ∈ n.nodes, m.kind = .objectAssignmentPattern → ∀ left, m.child? .left = some left →
    left.text source = identityField → isBoundName left = true

theorem WellNamed.of_mem {source : Bytes} {n m : Node} (h : WellNamed source n) (hm : m ∈ n.nodes) :
    WellNamed source m where
  words k hk := h.words k (Node.mem_nodes_trans hm hk)
  defaults k hk := h.defaults k (Node.mem_nodes_trans hm hk)

/-- An entry of an object pattern takes its property apart, and gives it no name. -/
def NamesNothing (entry : Node) : Prop :=
  entry.kind = .pairPattern ∧ ∀ target, pairTarget? entry = some target → target.kind ≠ .identifier

/-- The entry that is taken for the identity gives it no name. -/
def TakesApart (source : Bytes) (f : Node) : Prop :=
  ∃ pattern entry, (parameters f).findSome? objectPattern? = some pattern ∧
    (entries pattern).find? (fun e => (identityBinding? source e).isSome) = some entry ∧
    NamesNothing entry

/-- The first answer is the answer of the first one that has one. -/
theorem find?_of_findSome? {α β : Type} {ask : α → Option β} {as : List α} {b : β}
    (h : as.findSome? ask = some b) :
    ∃ a, as.find? (fun a => (ask a).isSome) = some a ∧ ask a = some b := by
  obtain ⟨front, a, back, rfl, ha, hfront⟩ := List.findSome?_eq_some_iff.mp h
  refine ⟨a, List.find?_eq_some_iff_append.mpr ⟨by rw [ha]; rfl, front, back, rfl, ?_⟩, ha⟩
  intro x hx
  rw [hfront x hx]
  rfl

section Head

variable {source : Bytes} {f e : Node} {r : String}

theorem isWord_identityField : isWord identityField = true := by decide

/-- A pair pattern whose target is a plain name binds that name. -/
theorem mem_boundNodes_of_pairTarget? {target : Node} (hkind : e.kind = .pairPattern)
    (htarget : pairTarget? e = some target) (hname : target.kind = .identifier) : target ∈ boundNodes e := by
  have hself : boundNodes target = [target] :=
    boundNodes_of_isBoundName (by simp [isBoundName, hname])
  -- the target is the value behind the key, or stands in front of the default there
  rw [pairTarget?] at htarget
  split at htarget
  · cases htarget
  · rename_i value hvalue
    rw [boundNodes_pairPattern hkind hvalue]
    split at htarget
    · rename_i hassignment
      rw [boundNodes_assignmentPattern hassignment htarget, hself]
      exact List.mem_singleton_self target
    · cases htarget
      rw [hself]
      exact List.mem_singleton_self target

/-- An entry with a default that is taken for the identity binds its name. -/
theorem mem_boundNames_of_default (h : WellNamed source e) (hkind : e.kind = .objectAssignmentPattern)
    (htext : textOf source (e.child? .left) = identityField) : identityField ∈ boundNames source e := by
  cases hleft : e.child? .left with
  | none =>
    rw [hleft] at htext
    exact absurd htext (show ¬ "" = identityField by decide)
  | some left =>
    rw [hleft] at htext
    have hbound := h.defaults e (Node.mem_nodes_self e) hkind left hleft htext
    refine mem_boundNames_iff.mpr ⟨left, ?_, htext⟩
    rw [boundNodes_objectAssignmentPattern hkind hleft, boundNodes_of_isBoundName hbound]
    exact List.mem_singleton_self left

/-- An entry that is taken for the identity binds the name that stands for it, or gives it none. -/
theorem identityBinding?_eq_some (h : WellNamed source e) (hr : identityBinding? source e = some r) :
    (isWord r = true ∧ r ∈ boundNames source e ∧ ¬ NamesNothing e) ∨
      (r = identityField ∧ NamesNothing e) := by
  rw [identityBinding?] at hr
  split at hr
  case h_1 hkind =>
    split at hr
    · rename_i htext
      cases hr
      refine .inl ⟨isWord_identityField, mem_boundNames_iff.mpr ⟨e, ?_, htext⟩, ?_⟩
      · rw [boundNodes_of_isBoundName (by simp [isBoundName, hkind])]
        exact List.mem_singleton_self e
      · simp [NamesNothing, hkind]
    · cases hr
  case h_2 hkind =>
    split at hr
    · rename_i htext
      cases hr
      exact .inl ⟨isWord_identityField, mem_boundNames_of_default h hkind htext, by simp [NamesNothing, hkind]⟩
    · cases hr
  case h_3 hkind =>
    split at hr
    · split at hr
      · rename_i target htarget
        cases hr
        by_cases hname : target.kind = .identifier
        · rw [if_pos hname]
          exact .inl ⟨h.words target (mem_nodes_of_pairTarget? htarget) hname,
            mem_boundNames_iff.mpr ⟨target, mem_boundNodes_of_pairTarget? hkind htarget hname, rfl⟩,
            fun hnothing => hnothing.2 target htarget hname⟩
        · rw [if_neg hname]
          refine .inr ⟨rfl, hkind, fun other hother => ?_⟩
          rw [htarget] at hother
          cases hother
          exact hname
      · rename_i hnone
        cases hr
        refine .inr ⟨rfl, hkind, fun other hother => ?_⟩
        rw [hnone] at hother
        cases hother
    · cases hr
  case h_4 => cases hr

/-- An expression that is decided on by the names of the parameters begins with one of those. -/
theorem headName_of_namedPassing {params : List Node}
    (h : namedPassing source params = .present r) :
    ∃ q ∈ params, boundName? source q = some (headName r) := by
  rw [namedPassing] at h
  split at h
  · cases h
  · rename_i parameter i hfind
    have hmem : parameter ∈ params := by
      have := List.mem_map_of_mem (f := Prod.fst) (List.mem_of_find?_eq_some hfind)
      rwa [List.zipIdx_map_fst] at this
    have hprops : boundName? source parameter = some propsParameter := by
      simpa using List.find?_some hfind
    split at h
    · cases h
      exact ⟨parameter, hmem, hprops.trans (by decide)⟩
    · split at h
      · cases h
        exact ⟨parameter, hmem, hprops.trans (by decide)⟩
      · split at h
        · rename_i hhead
          cases h
          obtain ⟨first, hfirst, hname⟩ := Option.bind_eq_some_iff.mp (beq_iff_eq.mp hhead)
          exact ⟨first, List.mem_of_head? hfirst, hname.trans (by decide)⟩
        · cases h

theorem not_takesApart_of_no_pattern (h : (parameters f).findSome? objectPattern? = none) :
    ¬ TakesApart source f := by
  rintro ⟨pattern, _, hpattern, -⟩
  rw [h] at hpattern
  cases hpattern

/-- A pattern that gets an entry for the identity has none that could be taken for it. -/
theorem not_takesApart_of_field {pattern : Node} (h : passing source f = .field pattern) :
    ¬ TakesApart source f := by
  obtain ⟨hpattern, hnone⟩ := passing_field h
  rintro ⟨found, entry, hfound, hentry, -⟩
  rw [hpattern, Option.some.injEq] at hfound
  subst hfound
  have hsome := List.find?_some hentry
  rw [List.findSome?_eq_none_iff.mp hnone entry (List.mem_of_find?_eq_some hentry)] at hsome
  cases hsome

/-- With a pattern in the place of the props, its first entry for the identity decides. -/
theorem takesApart_iff {pattern : Node} (hpattern : (parameters f).findSome? objectPattern? = some pattern)
    (he : (entries pattern).find? (fun e => (identityBinding? source e).isSome) = some e) :
    TakesApart source f ↔ NamesNothing e := by
  refine ⟨?_, fun hnothing => ⟨pattern, e, hpattern, he, hnothing⟩⟩
  rintro ⟨pattern', e', hpattern', he', hnothing⟩
  rw [hpattern, Option.some.injEq] at hpattern'
  subst hpattern'
  rw [he, Option.some.injEq] at he'
  exact he' ▸ hnothing

/-- The name at the head of the expression for the identity is among the parameters, the new one
included, exactly if the entry that is taken for the identity gives it a name or another one has the name
of the identity. -/
theorem mem_headName_iff (h : WellNamed source f) (hplace : (parameterNode? f).isSome = true) :
    headName (passing source f).reference ∈
        ((passing source f).added? f).toList ++ parameterNames source f ↔
      ¬ TakesApart source f ∨ identityField ∈ parameterNames source f := by
  cases hpassing : passing source f with
  | field pattern =>
    have hnot := not_takesApart_of_field hpassing
    have hhead : headName identityField = identityField := headName_of_isWord isWord_identityField
    simp [Passing.reference, Passing.added?, hhead, hnot]
  | parameter name =>
    obtain ⟨hpattern, hnamed⟩ := passing_parameter hpassing
    have hhead : headName (Passing.parameter name).reference = name := by
      rcases namedPassing_parameter hnamed with ⟨rfl, -⟩ | ⟨rfl, -⟩ <;> decide
    obtain ⟨place, hplace⟩ := Option.isSome_iff_exists.mp hplace
    rw [hhead, Passing.added?, hplace]
    simp [not_takesApart_of_no_pattern hpattern]
  | present reference =>
    rw [Passing.reference, Passing.added?, Option.toList_none, List.nil_append]
    cases hpattern : (parameters f).findSome? objectPattern? with
    | none =>
      rw [passing_of_no_pattern hpattern] at hpassing
      obtain ⟨q, hq, hname⟩ := headName_of_namedPassing hpassing
      have hmem : headName reference ∈ parameterNames source f :=
        mem_parameterNames_iff.mpr ⟨q, hq, mem_boundNames_of_boundName? hname⟩
      simp [hmem, not_takesApart_of_no_pattern hpattern]
    | some pattern =>
      obtain ⟨q, hq, hqpattern⟩ := List.exists_of_findSome?_eq_some hpattern
      obtain ⟨hin, hkind⟩ := objectPattern?_eq_some hqpattern
      have hr : (entries pattern).findSome? (identityBinding? source) = some reference := by
        cases hr : (entries pattern).findSome? (identityBinding? source) with
        | none =>
          simp only [passing, hpattern, hr] at hpassing
          cases hpassing
        | some r =>
          rw [passing_of_pattern hpattern hr, Passing.present.injEq] at hpassing
          rw [hpassing]
      obtain ⟨e, he, hbinding⟩ := find?_of_findSome? hr
      have hentry := List.mem_of_find?_eq_some he
      have happart := takesApart_iff hpattern he
      have hnamed := h.of_mem (Node.mem_nodes_trans
        (Node.mem_nodes_trans (mem_nodes_of_mem_parameters hq) hin) (mem_entries hentry))
      rcases identityBinding?_eq_some hnamed hbinding with ⟨hword, hmem, hnot⟩ | ⟨rfl, hnothing⟩
      · have hmem : headName reference ∈ parameterNames source f := by
          rw [headName_of_isWord hword, mem_parameterNames_iff]
          refine ⟨q, hq, ?_⟩
          rw [boundNames, boundNodes_of_objectPattern? hqpattern, ← boundNames]
          exact mem_boundNames_of_entry hkind hentry hmem
        simp [hmem, happart, hnot]
      · simp [headName_of_isWord isWord_identityField, happart, hnothing]

end Head

/-! ## The tags that are bound -/

section Roots

variable {source : Bytes} {acts : List Act} {e : Node} {name reference : String}

/-- The tag of a scope that is bound is the first one. -/
theorem mem_addElements_root {name' reference' : String} {elements : List Node}
    (h : .root e name reference ∈ Act.addElements source acts name' reference' elements) :
    .root e name reference ∈ acts ∨
      (elements.head? = some e ∧ name = name' ∧ reference = reference') := by
  cases elements with
  | nil => exact .inl h
  | cons first rest =>
    rcases mem_addTags h with h | ⟨_, _, h⟩
    · rcases mem_addRoot h with h | h
      · rcases mem_addTag h with h | h
        · exact .inl h
        · cases h
      · cases h
        exact .inr ⟨rfl, rfl, rfl⟩
    · cases h

/-- Every tag that is bound is the first one of a scope and has the name of the scope. The expression
for the identity is that of classes, or was decided on for a function that starts where this one does. -/
theorem exists_scope_of_root {scopes : List Scope}
    (h : .root e name reference ∈ planned source scopes) :
    ∃ s ∈ scopes, s.elements.head? = some e ∧ name = s.name ∧
      ((s.node.kind.isClass = true ∧ reference = classReference) ∨
        (s.node.kind.isClass = false ∧ ∃ t ∈ scopes, t.node.kind.isClass = false ∧
          t.node.start = s.node.start ∧ reference = (passing source t.node).reference)) := by
  induction scopes using List.reverseRecOn with
  | nil => cases h
  | append_singleton scopes s ih =>
    have hs : s ∈ scopes ++ [s] := List.mem_append_right _ List.mem_cons_self
    have hbefore (h : .root e name reference ∈ planned source scopes) :
        ∃ s' ∈ scopes ++ [s], s'.elements.head? = some e ∧ name = s'.name ∧
          ((s'.node.kind.isClass = true ∧ reference = classReference) ∨
            (s'.node.kind.isClass = false ∧ ∃ t ∈ scopes ++ [s], t.node.kind.isClass = false ∧
              t.node.start = s'.node.start ∧ reference = (passing source t.node).reference)) := by
      obtain ⟨s', hs', hhead, hname, hcases⟩ := ih h
      refine ⟨s', List.mem_append_left _ hs', hhead, hname, hcases.imp_right ?_⟩
      exact fun ⟨hclass, t, ht, hrest⟩ => ⟨hclass, t, List.mem_append_left _ ht, hrest⟩
    rw [planned, List.foldl_append, List.foldl_cons, List.foldl_nil, ← planned, Act.addScope] at h
    split at h
    · rename_i hclass
      rcases mem_addElements_root h with h | ⟨hhead, hname, hreference⟩
      · exact hbefore h
      · exact ⟨s, hs, hhead, hname, .inl ⟨hclass, hreference⟩⟩
    · rename_i hclass
      have hclass : s.node.kind.isClass = false := by simpa using hclass
      rcases mem_addElements_root h with h | ⟨hhead, hname, hreference⟩
      · rcases mem_addThread h with h | h
        · exact hbefore h
        · cases h
      -- the expression may have been decided on for an earlier scope that starts at the same place
      · obtain ⟨f, hf, hstart, hfreference⟩ := reference_eq source (planned source scopes) s.node
        refine ⟨s, hs, hhead, hname, .inr ⟨hclass, ?_⟩⟩
        rcases hf with rfl | hf
        · exact ⟨s, hs, hclass, rfl, hreference.trans hfreference⟩
        · obtain ⟨t, ht, rfl, htclass⟩ := belongs_of_mem_planned hf
          exact ⟨t, List.mem_append_left _ ht, htclass, hstart, hreference.trans hfreference⟩

end Roots

/-- What the expression for the identity relies on in a file: the functions of declarations are kept
apart, functions and object patterns are not empty, and names can be read as they are meant. -/
structure Referable (tree : SourceTree) : Prop extends Separated tree.root where
  functions : ∀ n ∈ tree.root.nodes, isFunction n = true → n.start < n.stop
  patterns : ∀ n ∈ tree.root.nodes, n.kind = .objectPattern → n.start < n.stop
  named : WellNamed tree.source tree.root

/-- The tree of the new text: what was decided is added to the parameters of the functions that were
looked at, and the parameters of the others stay as they are. -/
structure Rewritten (g : Graft) (tree tree' : SourceTree) (acts : List Act) : Prop where
  /-- It is the old tree with further nodes. -/
  root : tree'.root = g.graft tree.root
  /-- The further nodes are small, and the others still cover their texts. -/
  grows : Grows g tree.source tree'.source tree.root
  /-- The functions that were looked at have what was decided on, and nothing else. -/
  threads : ∀ f, .thread f ∈ acts → AddsOnly g tree.source tree'.source f
  /-- Other functions keep their parameters. -/
  others : ∀ f ∈ tree.root.nodes, isFunction f = true → .thread f ∉ acts → Untouched g f ∧
    ∀ q ∈ parameters f, KeepsPatterns g q ∧ KeepsNames g tree.source tree'.source q

namespace Referable

variable {tree : SourceTree} (h : Referable tree) {cs : List Component} {s t : Scope}

include h

/-- Functions that are instrumented and start at the same place are the same. -/
theorem eq_of_start (hs : s ∈ boundScopes room tree cs) (ht : t ∈ boundScopes room tree cs)
    (hsclass : s.node.kind.isClass = false) (htclass : t.node.kind.isClass = false)
    (hstart : s.node.start = t.node.start) : s.node = t.node := by
  have hsroot := mem_nodes_of_mem_boundScopes hs
  have htroot := mem_nodes_of_mem_boundScopes ht
  have hswide := h.functions s.node hsroot (isFunction_of_mem_boundScopes hs hsclass)
  have htwide := h.functions t.node htroot (isFunction_of_mem_boundScopes ht htclass)
  rcases h.nested.inside_or_apart hsroot htroot with hin | hin | hapart | hapart
  · exact h.eq_of_mem_nodes hs ht hsclass htclass hswide hin
  · exact (h.eq_of_mem_nodes ht hs htclass hsclass htwide hin).symm
  · omega
  · omega

/-- Every function that is instrumented is looked at. -/
theorem mem_thread (hs : s ∈ boundScopes room tree cs) (hclass : s.node.kind.isClass = false) :
    .thread s.node ∈ planned tree.source (boundScopes room tree cs) := by
  have hmem : s.node ∈ Act.threads (planned tree.source (boundScopes room tree cs)) := by
    rw [threads_planned]
    refine mem_firsts_of_injective (List.mem_filter.mpr ⟨List.mem_map_of_mem hs, by simp [hclass]⟩) ?_
    intro f hf hstart
    obtain ⟨hf, hfclass⟩ := List.mem_filter.mp hf
    obtain ⟨t, ht, rfl⟩ := List.mem_map.mp hf
    exact h.eq_of_start ht hs (by simpa using hfclass) hclass hstart
  exact mem_of_mem_threads hmem

/-- A function inside one that is instrumented is not looked at. -/
theorem not_thread {m : Node} (hs : s ∈ boundScopes room tree cs) (hclass : s.node.kind.isClass = false)
    (hm : ∃ c ∈ s.node.children, m ∈ c.nodes) (hfunction : isFunction m = true) :
    .thread m ∉ planned tree.source (boundScopes room tree cs) := by
  intro hthread
  obtain ⟨t, ht, rfl, htclass⟩ := belongs_of_mem_planned hthread
  obtain ⟨c, hc, hin⟩ := hm
  have hinside := Node.mem_nodes_trans (Node.mem_nodes_of_mem_children hc) hin
  have hwide := h.functions t.node (mem_nodes_of_mem_boundScopes ht) hfunction
  have hsame := h.eq_of_mem_nodes ht hs htclass hclass hwide hinside
  have hle := Node.size_le_of_mem_nodes hin
  have hlt := Node.size_lt_of_mem_children hc
  rw [hsame] at hle
  omega

end Referable

/-- A node above a site, the topmost one aside, lies below a child of that one. -/
theorem exists_child_of_mem_dropLast {n m : Node} {t : Site} (ht : t ∈ n.sites)
    (hm : m ∈ t.above.dropLast) : ∃ c ∈ n.children, m ∈ c.nodes := by
  obtain ⟨inner, outer, hsplit⟩ := List.append_of_mem hm
  obtain ⟨node, above⟩ := t
  obtain ⟨last, habove⟩ : ∃ last, above = inner ++ m :: (outer ++ [last]) := by
    have hne : above ≠ [] := by
      rintro rfl
      cases hm
    refine ⟨above.getLast hne, ?_⟩
    rw [← List.cons_append, ← List.append_assoc, ← hsplit, List.dropLast_append_getLast]
  subst habove
  obtain ⟨hsite, -⟩ := Node.mem_sites_ancestor ht
  rcases Node.mem_sites_iff.mp hsite with hroot | ⟨c, hc, u, hu, hlift⟩
  · cases outer <;> cases hroot
  · have hnode : m = u.node := congrArg Site.node hlift
    rw [hnode]
    exact ⟨c, (Node.mem_namedChildren.mp hc).1,
      Node.mem_nodes_of_mem_walk (Node.mem_walk_of_mem_sites hu)⟩

/-- At a site inside a function, a name means a parameter of the function: the function has it among its
parameters, and no function in between has. -/
structure Resolves (source : Bytes) (x : String) (f : Node) (t : Site) : Prop where
  site : t ∈ f.sites
  bound : x ∈ parameterNames source f
  clear : ∀ m ∈ t.above.dropLast, isFunction m = true → x ∉ parameterNames source m

/-- In the new tree a name means a parameter of a function that was looked at exactly if the function
binds it, or gets it, and no function in between bound it. -/
theorem resolves_graft_iff {tree tree' : SourceTree} {cs : List Component} {g : Graft}
    (h : Referable tree) (hnew : Rewritten g tree tree' (planned tree.source (boundScopes room tree cs)))
    {s : Scope} (hs : s ∈ boundScopes room tree cs) (hclass : s.node.kind.isClass = false) {t : Site}
    (ht : t ∈ s.node.sites) (hinert : t.node.kind.isInert = false) {x : String} :
    Resolves tree'.source x (g.graft s.node) (g.site t) ↔
      x ∈ ((passing tree.source s.node).added? s.node).toList ++ parameterNames tree.source s.node ∧
        ∀ m ∈ t.above.dropLast, isFunction m = true → x ∉ parameterNames tree.source m := by
  have hroot := mem_nodes_of_mem_boundScopes hs
  have hgrows := hnew.grows.of_mem hroot
  have hsite : g.site t ∈ (g.graft s.node).sites := by
    have hmem : g.site t ∈ (s.node.sites.filter (!·.node.kind.isInert)).map g.site :=
      List.mem_map_of_mem (List.mem_filter.mpr ⟨ht, by simp [hinert]⟩)
    rw [← hgrows.sites_graft] at hmem
    exact (List.mem_filter.mp hmem).1
  have hperm := (hnew.threads s.node (h.mem_thread hs hclass)).perm_parameterNames hgrows
    (h.nested.of_mem hroot) fun m hm => h.patterns m (Node.mem_nodes_trans hroot hm)
  -- a function in between gets no parameter, so it binds what it bound
  have hkept : ∀ m ∈ t.above.dropLast, isFunction m = true →
      parameterNames tree'.source (g.graft m) = parameterNames tree.source m := by
    intro m hm hfunction
    have hinside := exists_child_of_mem_dropLast ht hm
    obtain ⟨c, hc, hin⟩ := hinside
    have hmroot := Node.mem_nodes_trans hroot
      (Node.mem_nodes_trans (Node.mem_nodes_of_mem_children hc) hin)
    obtain ⟨hu, hq⟩ := hnew.others m hmroot hfunction (h.not_thread hs hclass ⟨c, hc, hin⟩ hfunction)
    exact parameterNames_graft (hnew.grows.of_mem hmroot) hu (fun q hmem => (hq q hmem).1)
      fun q hmem => (hq q hmem).2
  have hfunction (m : Node) : isFunction (g.graft m) = isFunction m := by
    rw [isFunction, isFunction, Graft.kind_graft]
  constructor
  · rintro ⟨-, hbound, hclear⟩
    refine ⟨hperm.mem_iff.mp hbound, fun m hm hmfunction => ?_⟩
    rw [← hkept m hm hmfunction]
    refine hclear (g.graft m) ?_ (by rwa [hfunction])
    rw [Graft.site_above, ← List.map_dropLast]
    exact List.mem_map_of_mem hm
  · rintro ⟨hbound, hclear⟩
    refine ⟨hsite, hperm.mem_iff.mpr hbound, fun m' hm' hmfunction => ?_⟩
    rw [Graft.site_above, ← List.map_dropLast] at hm'
    obtain ⟨m, hm, rfl⟩ := List.mem_map.mp hm'
    rw [hfunction] at hmfunction
    rw [hkept m hm hmfunction]
    exact hclear m hm hmfunction

/-- A run binds first tags of scopes. In a class the expression for the identity is the one for classes.
In a function with parameters it begins with a name, and in the new tree that name means a parameter of
the function where the tag stands exactly if the entry that is taken for the identity gives it a name, or
another one has the name of the identity, and no function between the function and the tag has the name
among its own parameters. -/
theorem reference_resolves_iff (room : Nat) {tree tree' : SourceTree} {ids : IdStream} {drawn : Nat}
    {cs : List Component} {p : Progress} {g : Graft} (h : Referable tree)
    (hplan : planAll room tree ids cs drawn = .ok p)
    (hnew : Rewritten g tree tree' (planned tree.source (boundScopes room tree cs))) :
    p.planner.plan =
        planOf (changesOf tree.source ids drawn (planned tree.source (boundScopes room tree cs))) ∧
      ∀ e name reference, .root e name reference ∈ planned tree.source (boundScopes room tree cs) →
        ∃ s ∈ boundScopes room tree cs, s.elements.head? = some e ∧ name = s.name ∧
          ((s.node.kind.isClass = true ∧ reference = classReference) ∨
            (s.node.kind.isClass = false ∧ reference = (passing tree.source s.node).reference ∧
              (∃ t ∈ s.node.sites, t.node = e) ∧
              ((parameterNode? s.node).isSome = true → ∀ t ∈ s.node.sites, t.node = e →
                (Resolves tree'.source (headName reference) (g.graft s.node) (g.site t) ↔
                  (¬ TakesApart tree.source s.node ∨
                      identityField ∈ parameterNames tree.source s.node) ∧
                    ∀ m ∈ t.above.dropLast, isFunction m = true →
                      headName reference ∉ parameterNames tree.source m)))) := by
  refine ⟨by rw [(planAll_eq_ok hplan).1]; rfl, fun e name reference hroot => ?_⟩
  obtain ⟨s, hs, hhead, hname, hcases⟩ := exists_scope_of_root hroot
  refine ⟨s, hs, hhead, hname, hcases.imp_right ?_⟩
  rintro ⟨hclass, u, hu, huclass, hstart, hreference⟩
  rw [h.eq_of_start hu hs huclass hclass hstart] at hreference
  obtain ⟨hwalk, hopening⟩ := List.mem_filter.mp (List.mem_of_head? hhead)
  refine ⟨hclass, hreference, List.mem_map.mp hwalk, fun hplace t ht htag => ?_⟩
  have hinert : t.node.kind.isInert = false := by
    rw [isOpeningElement, Bool.or_eq_true, Bool.and_eq_true, beq_iff_eq, beq_iff_eq] at hopening
    rw [htag]
    rcases hopening with hkind | ⟨hkind, -⟩ <;> rw [hkind] <;> rfl
  have hnamed := h.named.of_mem (mem_nodes_of_mem_boundScopes hs)
  rw [resolves_graft_iff h hnew hs hclass ht hinert, hreference, mem_headName_iff hnamed hplace]

/-- The body of the function in `nestedTags`. -/
def nestedBody : Node := (nestedArrow.child? .body).getD nestedArrow

/-- The first tag in that body. -/
def nestedOpening : Node := nestedBody.children.headD nestedBody

/-- A node that is no tag, and whose named children hold none, holds none. -/
theorem filter_walk_eq_nil {n : Node} (hn : isOpeningElement n = false)
    (h : ∀ c ∈ n.namedChildren, c.walk.filter isOpeningElement = []) :
    n.walk.filter isOpeningElement = [] := by
  rw [Node.walk_eq, List.filter_cons_of_neg (by simp [hn]), List.filter_flatMap,
    List.flatMap_eq_nil_iff]
  exact h

theorem filter_walk_leaf {n : Node} (hn : isOpeningElement n = false) (h : n.namedChildren = []) :
    n.walk.filter isOpeningElement = [] :=
  filter_walk_eq_nil hn (by rw [h]; exact nofun)

/-- The first tag of a node that is none is the first tag of the first named child that holds any. -/
theorem head?_filter_walk {n c e : Node} {front back : List Node} (hn : isOpeningElement n = false)
    (hchildren : n.namedChildren = front ++ c :: back)
    (hfront : ∀ d ∈ front, d.walk.filter isOpeningElement = [])
    (hc : (c.walk.filter isOpeningElement).head? = some e) :
    (n.walk.filter isOpeningElement).head? = some e := by
  obtain ⟨rest, hrest⟩ := List.head?_eq_some_iff.mp hc
  rw [Node.walk_eq, List.filter_cons_of_neg (by simp [hn]), hchildren, List.filter_flatMap,
    List.flatMap_append, List.flatMap_eq_nil_iff.mpr hfront, List.nil_append, List.flatMap_cons, hrest]
  rfl

/-- The first tag of a tag is that tag. -/
theorem head?_filter_walk_self {n : Node} (hn : isOpeningElement n = true) :
    (n.walk.filter isOpeningElement).head? = some n := by
  rw [Node.walk_eq, List.filter_cons_of_pos hn]
  rfl

theorem head?_elements_nestedArrow :
    (nestedArrow.walk.filter isOpeningElement).head? = some nestedOpening := by
  have hone {n c : Node} (hn : isOpeningElement n = false) (hchildren : n.namedChildren = [c])
      (hc : c.walk.filter isOpeningElement = []) : n.walk.filter isOpeningElement = [] :=
    filter_walk_eq_nil hn (by rw [hchildren]; exact List.forall_mem_singleton.mpr hc)
  have hpattern : nestedPattern.walk.filter isOpeningElement = [] :=
    hone rfl rfl (filter_walk_leaf (n := nestedEntry) rfl rfl)
  obtain ⟨list, hchildren, hlist, htag⟩ : ∃ list, nestedArrow.namedChildren = [list] ++ [nestedBody] ∧
      list.namedChildren = [nestedPattern] ∧ isOpeningElement list = false := ⟨_, rfl, rfl, rfl⟩
  refine head?_filter_walk rfl hchildren (List.forall_mem_singleton.mpr (hone htag hlist hpattern)) ?_
  obtain ⟨back, hbody⟩ : ∃ back, nestedBody.namedChildren = [] ++ nestedOpening :: back := ⟨_, rfl⟩
  exact head?_filter_walk rfl hbody nofun (head?_filter_walk_self rfl)

theorem eq_nestedArrow : ∀ n ∈ nestedTags.root.nodes, isFunction n = true → n = nestedArrow := by
  simp [nestedTags, Node.nodes_eq, Node.children, isFunction, Node.kind, Node.label,
    Kind.isNestedScope, Kind.isClosedScope, Kind.isClass]
  rfl

theorem referable_nestedTags : Referable nestedTags := by
  have hascii : nestedTags.source.isAscii = true := by decide
  have hfacts : Separated nestedTags.root ∧
      (∀ n ∈ nestedTags.root.nodes, n.kind = .objectPattern → n.start < n.stop) ∧
      (∀ n ∈ nestedTags.root.nodes, n.kind ≠ .objectAssignmentPattern) ∧
      ∀ n ∈ nestedTags.root.nodes, n.kind = .identifier →
        (nestedTags.source.slice n.start n.stop).characters.all isNameChar = true := by
    decide +kernel
  obtain ⟨hseparated, hpatterns, hdefaults, hwords⟩ := hfacts
  refine ⟨hseparated, fun n hn hfunction => ?_, hpatterns, fun n hn hkind => ?_, fun n hn hkind => ?_⟩
  · rw [eq_nestedArrow n hn hfunction]
    decide
  · rw [Node.text_of_isAscii hascii, isWord, String.toList_ofList]
    exact hwords n hn hkind
  · exact absurd hkind (hdefaults n hn)

theorem boundScopes_nestedTags :
    boundScopes 100 nestedTags (classifyComponents nestedTags) = [⟨nestedArrow, "A"⟩] := by
  have hshape : (boundScopes 100 nestedTags (classifyComponents nestedTags)).map
      (fun s => (s.node.kind, s.name)) = [(.arrowFunction, "A")] := by decide +kernel
  obtain ⟨⟨node, name⟩, hs⟩ := List.length_eq_one_iff.mp
    ((List.length_map _).symm.trans (congrArg List.length hshape))
  rw [hs, List.map_singleton, List.cons.injEq, Prod.mk.injEq] at hshape
  obtain ⟨⟨hkind, rfl⟩, -⟩ := hshape
  have hmem : (⟨node, "A"⟩ : Scope) ∈ boundScopes 100 nestedTags (classifyComponents nestedTags) := by
    rw [hs]
    exact List.mem_singleton_self _
  dsimp only at hkind
  have hnode := eq_nestedArrow node (mem_nodes_of_mem_boundScopes hmem) (by rw [isFunction, hkind]; rfl)
  rw [hs, hnode]

theorem rewritten_nestedTags :
    Rewritten taggedGraft nestedTags taggedTags
      (planned nestedTags.source (boundScopes 100 nestedTags (classifyComponents nestedTags))) where
  root := rfl
  grows := taggedTags_grows
  threads := by
    intro f hthread
    obtain ⟨s, hs, rfl, hclass⟩ := belongs_of_mem_planned hthread
    rw [eq_nestedArrow s.node (mem_nodes_of_mem_boundScopes hs)
      (isFunction_of_mem_boundScopes hs hclass)]
    exact nestedTags_addsOnly
  others := by
    intro f hf hfunction hnot
    rw [eq_nestedArrow f hf hfunction] at hnot
    refine absurd (referable_nestedTags.mem_thread (s := ⟨nestedArrow, "A"⟩) ?_ rfl) hnot
    rw [boundScopes_nestedTags]
    exact List.mem_singleton_self _

/-- In `nestedTags` the outer tag is bound, and the name in its expression means the field that the
function gets. -/
theorem reference_resolves_nestedTags :
    Referable nestedTags ∧
      Rewritten taggedGraft nestedTags taggedTags
        (planned nestedTags.source (boundScopes 100 nestedTags (classifyComponents nestedTags))) ∧
      (∃ p, planAll 100 nestedTags numberedIds (classifyComponents nestedTags) = .ok p) ∧
      .root nestedOpening "A" identityField ∈
        planned nestedTags.source (boundScopes 100 nestedTags (classifyComponents nestedTags)) ∧
      Resolves taggedTags.source identityField (taggedGraft.graft nestedArrow)
        (taggedGraft.site ⟨nestedOpening, [nestedBody, nestedArrow]⟩) := by
  obtain ⟨first, log, hrun, -⟩ := run_nestedTags
  obtain ⟨p, hplan, -⟩ := Except.bind_eq_ok.mp hrun
  obtain ⟨reference, hroot⟩ : ∃ reference, .root nestedOpening "A" reference ∈
      planned nestedTags.source (boundScopes 100 nestedTags (classifyComponents nestedTags)) := by
    have hroots : (Act.roots (planned nestedTags.source [⟨nestedArrow, "A"⟩])).map rootName =
        [(nestedOpening, "A")] := by
      rw [roots_planned, List.filterMap_cons, Scope.root?, Scope.elements, head?_elements_nestedArrow]
      rfl
    rw [boundScopes_nestedTags]
    have hmem : (nestedOpening, "A") ∈ [(nestedOpening, "A")] := List.mem_singleton_self _
    rw [← hroots] at hmem
    obtain ⟨⟨e, name, reference⟩, hmem, hsame⟩ := List.mem_map.mp hmem
    cases hsame
    exact ⟨reference, mem_of_mem_roots hmem⟩
  obtain ⟨s, hs, -, -, hcases⟩ :=
    (reference_resolves_iff 100 referable_nestedTags hplan rewritten_nestedTags).2 _ _ _ hroot
  have hscope : s = ⟨nestedArrow, "A"⟩ := by
    rw [boundScopes_nestedTags] at hs
    exact List.mem_singleton.mp hs
  subst hscope
  obtain ⟨-, rfl, -, hresolves⟩ := hcases.resolve_left fun hclass => Bool.noConfusion hclass.1
  have hreference : (passing nestedTags.source nestedArrow).reference = identityField := by
    rw [passing_nestedArrow]
    rfl
  have hsite : (⟨nestedOpening, [nestedBody, nestedArrow]⟩ : Site) ∈ nestedArrow.sites :=
    Node.mem_sites_cons.mpr ⟨Node.mem_sites_cons.mpr ⟨Node.mem_sites_nil.mpr rfl,
      List.mem_cons_of_mem _ List.mem_cons_self⟩, List.mem_cons_self⟩
  have hnamed : ¬ TakesApart nestedTags.source nestedArrow := by
    rintro ⟨pattern, entry, hpattern, hentry, -⟩
    cases hpattern
    have hmem : entry ∈ [nestedEntry] := List.mem_of_find?_eq_some hentry
    have hsome := List.find?_some hentry
    rw [List.mem_singleton.mp hmem, identityBinding?_nestedEntry] at hsome
    cases hsome
  have hclear : ∀ m ∈ [nestedBody], isFunction m = true →
      headName (passing nestedTags.source nestedArrow).reference ∉
        parameterNames nestedTags.source m := by
    intro m hm hfunction
    rw [List.mem_singleton.mp hm] at hfunction
    cases hfunction
  have hresolved := (hresolves rfl _ hsite rfl).mpr ⟨.inl hnamed, hclear⟩
  dsimp only at hresolved hroot
  rw [hreference, headName_of_isWord isWord_identityField] at hresolved
  rw [hreference] at hroot
  exact ⟨referable_nestedTags, rewritten_nestedTags, ⟨p, hplan⟩, hroot, hresolved⟩

/-- A file with a function that takes the identity apart. -/
def apartText : String := "const A = (\x7b pc_el_id: \x7b x \x7d \x7d) => <b />"

/-- The pattern that stands for the identity in `apartText`. -/
def apartValue : Node :=
  .mk { kind := .objectPattern, start := 23, stop := 28, field := some .value } [
    .mk { kind := .other "\x7b", start := 23, stop := 24, named := false } [],
    .mk { kind := .shorthandPattern, start := 25, stop := 26 } [],
    .mk { kind := .other "\x7d", start := 27, stop := 28, named := false } []]

/-- The entry with that pattern. -/
def apartEntry : Node :=
  .mk { kind := .pairPattern, start := 13, stop := 28 } [
    .mk { kind := .other "property_identifier", start := 13, stop := 21, field := some .key } [],
    .mk { kind := .other ":", start := 21, stop := 22, named := false } [],
    apartValue]

/-- The parameter with that entry. -/
def apartPattern : Node :=
  .mk { kind := .objectPattern, start := 11, stop := 30 } [
    .mk { kind := .other "\x7b", start := 11, stop := 12, named := false } [],
    apartEntry,
    .mk { kind := .other "\x7d", start := 29, stop := 30, named := false } []]

/-- The function with that parameter. -/
def apartArrow : Node :=
  .mk { kind := .arrowFunction, start := 10, stop := 40, field := some .value } [
    .mk { kind := .other "formal_parameters", start := 10, stop := 31, field := some .parameters } [
      .mk { kind := .other "(", start := 10, stop := 11, named := false } [],
      apartPattern,
      .mk { kind := .other ")", start := 30, stop := 31, named := false } []],
    .mk { kind := .other "=>", start := 32, stop := 34, named := false } [],
    markupAt 35 (some .body)]

/-- Nothing is added, and the expression is the name of the identity. -/
theorem addIdentity_apartArrow :
    ({} : Planner).addIdentity (Bytes.ofText apartText) apartArrow = .ok (identityField, {}) := by
  have hascii : (Bytes.ofText apartText).isAscii = true := by decide
  have hkind : apartEntry.kind = .pairPattern := rfl
  have hpattern : (parameters apartArrow).findSome? objectPattern? = some apartPattern := rfl
  have hentries : entries apartPattern = [apartEntry] := rfl
  have hkey : textOf (Bytes.ofText apartText) (apartEntry.child? .key) = identityField :=
    text_of_slice rfl
  have hbinding : identityBinding? (Bytes.ofText apartText) apartEntry = some identityField := by
    rw [identityBinding?, hkind]
    simp only [hkey, show unquoted identityField = identityField by decide, if_true]
    rfl
  have hlegible : entryLegible (Bytes.ofText apartText) apartEntry = true := by
    obtain ⟨key, hkey, htarget⟩ : ∃ key, apartEntry.child? .key = some key ∧
        (pairTarget? apartEntry).filter (·.kind == .identifier) = none := ⟨_, rfl, rfl⟩
    rw [entryLegible, hkind]
    simp [hkey, Node.isLegible_of_isAscii hascii, htarget]
  have hsearch : search (unlessLegible <| entryLegible (Bytes.ofText apartText) ·)
      (identityBinding? (Bytes.ofText apartText)) [apartEntry] = .ok (some identityField) := by
    simp [search, hlegible, unlessLegible, hbinding]
  rw [Planner.addIdentity, hpattern]
  simp only [Planner.addField, hentries, hsearch]
  rfl

theorem parameterNames_apartArrow : parameterNames (Bytes.ofText apartText) apartArrow = ["x"] := by
  have hparameters : parameters apartArrow = [apartPattern] := rfl
  have hentries : entries apartPattern = [apartEntry] := rfl
  have hvalue : entries apartValue = [.mk { kind := .shorthandPattern, start := 25, stop := 26 } []] := rfl
  rw [parameterNames, hparameters, List.flatMap_singleton, boundNames, boundNodes_objectPattern rfl,
    hentries, List.flatMap_singleton, boundNodes_pairPattern (m := apartValue) rfl rfl,
    boundNodes_objectPattern rfl, hvalue, List.flatMap_singleton, boundNodes_of_isBoundName rfl,
    List.map_singleton, text_of_slice (x := "x") rfl]

/-- A file with a function that has a callback with a parameter of the same name. -/
def callbackText : String := "const A = props => xs.map(props => <b />)"

/-- The callback in `callbackText`. -/
def callbackArrow : Node :=
  .mk { kind := .arrowFunction, start := 26, stop := 40 } [
    .mk { kind := .identifier, start := 26, stop := 31, field := some .parameter } [],
    .mk { kind := .other "=>", start := 32, stop := 34, named := false } [],
    markupAt 35 (some .body)]

/-- The arguments with that callback. -/
def callbackList : Node :=
  .mk { kind := .arguments, start := 25, stop := 41, field := some .arguments } [
    .mk { kind := .other "(", start := 25, stop := 26, named := false } [],
    callbackArrow,
    .mk { kind := .other ")", start := 40, stop := 41, named := false } []]

/-- The call with those arguments. -/
def callbackCall : Node :=
  .mk { kind := .callExpression, start := 19, stop := 41, field := some .body } [
    .mk { kind := .memberExpression, start := 19, stop := 25, field := some .function } [
      .mk { kind := .identifier, start := 19, stop := 21, field := some .object } [],
      .mk { kind := .other ".", start := 21, stop := 22, named := false } [],
      .mk { kind := .other "property_identifier", start := 22, stop := 25,
            field := some .property } []],
    callbackList]

/-- The function with that call. -/
def callbackFunction : Node :=
  .mk { kind := .arrowFunction, start := 10, stop := 41, field := some .value } [
    .mk { kind := .identifier, start := 10, stop := 15, field := some .parameter } [],
    .mk { kind := .other "=>", start := 16, stop := 18, named := false } [],
    callbackCall]

/-- Nothing is added, and the expression begins with the parameter of the function. -/
theorem addIdentity_callbackFunction :
    ({} : Planner).addIdentity (Bytes.ofText callbackText) callbackFunction =
      .ok ("props.pc_el_id", {}) := by
  have hascii : (Bytes.ofText callbackText).isAscii = true := by decide
  obtain ⟨q, hq, hpattern, hbound, hrest, hname⟩ : ∃ q, parameters callbackFunction = [q] ∧
      objectPattern? q = none ∧ boundNode? q = some q ∧ q.kind ≠ .restPattern ∧
        q.text (Bytes.ofText callbackText) = propsParameter :=
    ⟨_, rfl, rfl, rfl, by decide, text_of_slice rfl⟩
  have hprops : boundName? (Bytes.ofText callbackText) q = some propsParameter := by
    rw [boundName?, hbound, Option.map_some, hname]
  have hsearch : search
      (fun p : Node × Nat =>
        unlessLegible ((boundNode? p.1).all (·.isLegible (Bytes.ofText callbackText))))
      (fun p =>
        if boundName? (Bytes.ofText callbackText) p.1 = some propsParameter then some p else none)
      [(q, 0)] = .ok (some (q, 0)) := by
    simp [search, unlessLegible, hbound, Node.isLegible_of_isAscii hascii, hprops]
  rw [Planner.addIdentity, hq]
  simp only [List.findSome?_cons, hpattern, List.findSome?_nil, List.zipIdx_singleton, hsearch]
  show (if q.kind ≠ .restPattern then _ else _) = _
  rw [if_pos hrest]
  rfl

/-- The first tag of that function stands in the callback. -/
theorem head?_elements_callbackFunction :
    (callbackFunction.walk.filter isOpeningElement).head? = some (markupAt 35 (some .body)) := by
  have harrow : (callbackArrow.walk.filter isOpeningElement).head? = some (markupAt 35 (some .body)) := by
    obtain ⟨parameter, hchildren, htag, hleaf⟩ : ∃ parameter,
        callbackArrow.namedChildren = [parameter] ++ [markupAt 35 (some .body)] ∧
          isOpeningElement parameter = false ∧ parameter.namedChildren = [] := ⟨_, rfl, rfl, rfl⟩
    exact head?_filter_walk rfl hchildren (List.forall_mem_singleton.mpr (filter_walk_leaf htag hleaf))
      (head?_filter_walk_self rfl)
  have harguments : callbackList.namedChildren = [] ++ [callbackArrow] := rfl
  have hlist : (callbackList.walk.filter isOpeningElement).head? = some (markupAt 35 (some .body)) :=
    head?_filter_walk rfl harguments nofun harrow
  have hcall : (callbackCall.walk.filter isOpeningElement).head? = some (markupAt 35 (some .body)) := by
    obtain ⟨callee, object, property, hchildren, hcallee, hnames, hobject, hproperty⟩ :
        ∃ callee object property, callbackCall.namedChildren = [callee] ++ [callbackList] ∧
          isOpeningElement callee = false ∧ callee.namedChildren = [object, property] ∧
          (isOpeningElement object = false ∧ object.namedChildren = []) ∧
          (isOpeningElement property = false ∧ property.namedChildren = []) :=
      ⟨_, _, _, rfl, rfl, rfl, ⟨rfl, rfl⟩, rfl, rfl⟩
    have hnone : callee.walk.filter isOpeningElement = [] := by
      refine filter_walk_eq_nil hcallee ?_
      rw [hnames, List.forall_mem_cons, List.forall_mem_singleton]
      exact ⟨filter_walk_leaf hobject.1 hobject.2, filter_walk_leaf hproperty.1 hproperty.2⟩
    exact head?_filter_walk rfl hchildren (List.forall_mem_singleton.mpr hnone) hlist
  obtain ⟨parameter, hchildren, htag, hleaf⟩ : ∃ parameter,
      callbackFunction.namedChildren = [parameter] ++ [callbackCall] ∧
        isOpeningElement parameter = false ∧ parameter.namedChildren = [] := ⟨_, rfl, rfl, rfl⟩
  exact head?_filter_walk rfl hchildren (List.forall_mem_singleton.mpr (filter_walk_leaf htag hleaf)) hcall

/-- In `apartText` the name of the identity stands for it, and the function does not bind that name. In
`callbackText` the parameter of the function stands for it, and the tag that is bound stands in a callback
that binds the same name. -/
theorem reference_unresolved :
    (({} : Planner).addIdentity (Bytes.ofText apartText) apartArrow = .ok (identityField, {}) ∧
        headName identityField ∉ parameterNames (Bytes.ofText apartText) apartArrow) ∧
      (({} : Planner).addIdentity (Bytes.ofText callbackText) callbackFunction =
          .ok ("props.pc_el_id", {}) ∧
        ∃ t ∈ callbackFunction.sites,
          (callbackFunction.walk.filter isOpeningElement).head? = some t.node ∧
          ∃ m ∈ t.above.dropLast, isFunction m = true ∧
            headName "props.pc_el_id" ∈ parameterNames (Bytes.ofText callbackText) m) := by
  refine ⟨⟨addIdentity_apartArrow, ?_⟩, addIdentity_callbackFunction,
    ⟨markupAt 35 (some .body), [callbackArrow, callbackList, callbackCall, callbackFunction]⟩, ?_,
    head?_elements_callbackFunction, callbackArrow, List.mem_cons_self, rfl, ?_⟩
  · rw [parameterNames_apartArrow]
    decide
  · -- down from the function: the call, its arguments, the callback, the tag
    exact Node.mem_sites_cons.mpr ⟨Node.mem_sites_cons.mpr ⟨Node.mem_sites_cons.mpr
      ⟨Node.mem_sites_cons.mpr ⟨Node.mem_sites_nil.mpr rfl,
        List.mem_cons_of_mem _ List.mem_cons_self⟩, List.mem_cons_of_mem _ List.mem_cons_self⟩,
          List.mem_cons_self⟩, List.mem_cons_of_mem _ List.mem_cons_self⟩
  · have hparameters : parameters callbackArrow =
        [.mk { kind := .identifier, start := 26, stop := 31, field := some .parameter } []] := rfl
    rw [parameterNames, hparameters, List.flatMap_singleton, boundNames, boundNodes_of_isBoundName rfl,
      List.map_singleton, text_of_slice (x := "props") rfl]
    decide

end JsxTagger.Instrument
