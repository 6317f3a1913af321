import Mathlib.Logic.Relation
import JsxTagger.Proofs.Instrument.Functions
import JsxTagger.Proofs.Instrument.Locators

/-!
# Functions inside wrappers

A call of a wrapper may be the first argument of another one, and so on. Classification goes up such a
chain: a call is a component of its own unless it is an argument of a wrapper. Instrumentation goes down
to the function at the end. `IsWrappedBy` is one step up, and a call has one next step at most, so that
going up from a function leads to one outermost call only (`eq_of_transGen`). What instrumentation finds
below a call is a site from which one gets up to the call again (`Traceable.exists_site_of_wrappedFunction?`).
-/

namespace JsxTagger.Instrument

open Classify Syntax

/-! ## One step up -/

/-- What stands at a site is, parentheses aside, an argument of the call of a wrapper at another. -/
def IsWrappedBy (source : Bytes) (t s : Site) : Prop :=
  ∃ list, enclosing t = list :: s.node :: s.above ∧ list.kind = .arguments ∧ IsWrapperCall source s.node

variable {source : Bytes} {s t : Site}

theorem isWrapped_iff : isWrapped source t = true ↔ ∃ s, IsWrappedBy source t s := by
  rw [isWrapped]
  constructor
  · intro h
    split at h
    · rename_i list outer above henclosing
      simp only [Bool.and_eq_true, beq_iff_eq] at h
      exact ⟨⟨outer, above⟩, list, henclosing, h.1.1, h.1.2, h.2⟩
    · cases h
  · rintro ⟨s, list, henclosing, hlist, hcall, hwrapper⟩
    rw [henclosing]
    simp [hlist, hcall, hwrapper]

theorem isWrappedBy_rightUnique (source : Bytes) : Relator.RightUnique (IsWrappedBy source) := by
  rintro t ⟨call, above⟩ ⟨call', above'⟩ ⟨list, h, -⟩ ⟨list', h', -⟩
  rw [h] at h'
  obtain ⟨-, hsite⟩ := List.cons.inj h'
  obtain ⟨hcall, habove⟩ := List.cons.inj hsite
  rw [Site.mk.injEq]
  exact ⟨hcall, habove⟩

/-- Going up from a site leads to one call only that is not wrapped itself. -/
theorem eq_of_transGen {s' : Site} (h : Relation.TransGen (IsWrappedBy source) t s)
    (h' : Relation.TransGen (IsWrappedBy source) t s') (hs : isWrapped source s = false)
    (hs' : isWrapped source s' = false) : s = s' := by
  have htop {a b : Site} (ha : isWrapped source a = false)
      (hab : Relation.ReflTransGen (IsWrappedBy source) a b) : a = b := by
    cases hab using Relation.ReflTransGen.head_induction_on with
    | refl => rfl
    | head hstep _ =>
      rw [isWrapped_iff.mpr ⟨_, hstep⟩] at ha
      cases ha
  rcases Relation.ReflTransGen.total_of_right_unique (isWrappedBy_rightUnique source) h.to_reflTransGen
    h'.to_reflTransGen with hup | hup
  · exact htop hs hup
  · exact (htop hs' hup).symm

/-- What is wrapped, however often, stands among the arguments of a call. -/
theorem exists_enclosing_of_transGen (h : Relation.TransGen (IsWrappedBy source) t s) :
    ∃ list above, enclosing t = list :: above ∧ list.kind = .arguments := by
  obtain ⟨u, ⟨list, henclosing, hlist, -⟩, -⟩ := Relation.TransGen.head'_iff.mp h
  exact ⟨list, _, henclosing, hlist⟩

/-! ## Further in -/

/-- An expression inside parentheses has the same surroundings, parentheses aside. -/
theorem exists_site_of_unwrapped? {root n m : Node} {above outside : List Node}
    (hs : (⟨n, above⟩ : Site) ∈ root.sites) (hm : n.unwrapped? = some m)
    (hout : enclosing ⟨n, above⟩ = outside) :
    ∃ t ∈ root.sites, t.node = m ∧ enclosing t = outside := by
  induction n using Node.childInduction generalizing above with
  | step n ih =>
    rw [Node.unwrapped?] at hm
    split at hm
    · rename_i hparen
      split at hm
      · cases hm
      · rename_i c hc
        have hsite : (⟨c, n :: above⟩ : Site) ∈ root.sites :=
          Node.mem_sites_cons.mpr ⟨hs, List.mem_of_find?_eq_some hc⟩
        refine ih c (Node.mem_children_of_firstNamedChild? hc) hsite hm ?_
        rw [← hout, enclosing, enclosing, List.dropWhile_cons_of_pos (by simp [hparen])]
    · cases hm
      exact ⟨_, hs, rfl, hout⟩

/-- What holds a node, within the next node outside that is no parenthesis, is the node, a parenthesis or
that node outside. -/
theorem eq_or_paren_of_outer? {root p m : Node} {above : List Node} (hnested : root.WellNested)
    (hs : s ∈ root.sites) (houter : outer? s = some ⟨p, above⟩) (hwide : s.node.start < s.node.stop)
    (hm : m ∈ p.nodes) (hsm : s.node ∈ m.nodes) :
    m = s.node ∨ m.kind = .parenthesizedExpression ∨ m = p := by
  obtain ⟨parentheses, habove, hparentheses⟩ := outer?_eq_some houter
  have hp := (mem_sites_of_outer? hs houter).1
  have hmroot := Node.mem_nodes_trans (Node.mem_nodes_of_mem_sites hp) hm
  have hsite : (⟨s.node, s.above⟩ : Site) ∈ root.sites := hs
  rcases hnested.mem_above_of_mem_nodes hsite hmroot hwide hsm with hsame | hmem
  · exact .inl hsame
  · rw [habove, List.mem_append, List.mem_cons] at hmem
    rcases hmem with hmem | hmem | hmem
    · exact .inr (.inl (hparentheses m hmem))
    · exact .inr (.inr hmem)
    · obtain ⟨inner, outer, hsplit⟩ := List.append_of_mem hmem
      dsimp only at hsplit
      rw [hsplit] at hp
      exact .inr (.inr (Node.eq_of_mem_nodes hm
        (Node.mem_nodes_of_mem_walk (List.mem_of_mem_tail (Node.mem_sites_ancestor hp).2))))

theorem mem_nodes_of_boundValue? {p value : Node} (h : boundValue? p = some value) :
    value ∈ p.nodes := by
  obtain ⟨v, hv, hunwrapped⟩ := Option.bind_eq_some_iff.mp h
  exact Node.mem_nodes_trans (Node.mem_nodes_of_child? hv) (Node.mem_nodes_of_unwrapped? hunwrapped)

/-- What holds the value of a declarator, within the declarator, is the value, a parenthesis or the
declarator. -/
theorem eq_or_paren_of_boundValue? {p value m : Node} (hnested : p.WellNested)
    (hvalue : boundValue? p = some value) (hwide : value.start < value.stop) (hm : m ∈ p.nodes)
    (hvm : value ∈ m.nodes) : m = value ∨ m.kind = .parenthesizedExpression ∨ m = p := by
  obtain ⟨v, hv, hunwrapped⟩ := Option.bind_eq_some_iff.mp hvalue
  have hvchild := Node.mem_children_of_child? hv
  rcases hnested.eq_or_mem_nodes_child hvchild (Node.mem_nodes_of_unwrapped? hunwrapped) hwide hm hvm
    with hsame | hmv
  · exact .inr (.inr hsame)
  · have hvnested := hnested.of_mem (Node.mem_nodes_of_mem_children hvchild)
    rcases paren_or_mem_unwrapped? hvnested hunwrapped (Node.mem_nodes_self value) hwide hmv hvm with
      hparen | hmvalue
    · exact .inr (.inl hparen)
    · exact .inl (Node.eq_of_mem_nodes hmvalue hvm)

/-- What going from declarations to their functions relies on in a tree. -/
structure Traceable (tree : SourceTree) : Prop extends Locatable tree where
  /-- Every node can be read. -/
  legible : ¬ HasIllegible tree.source tree.root
  /-- What a declarator binds is no punctuation. -/
  values : ∀ n ∈ tree.root.nodes, n.kind = .variableDeclarator → ∀ value ∈ n.child? .value,
    value.named = true
  /-- A call has a list of arguments, or something in its place that starts with no function and with
  no call. -/
  lists : ∀ n ∈ tree.root.nodes, n.kind = .callExpression → ∀ list ∈ n.child? .arguments,
    list.named = true ∧ (list.kind = .arguments ∨ ∀ target ∈ firstArgument? n,
      target.kind.isComponentFunction = false ∧ target.kind ≠ .callExpression)
  /-- A call is not empty. -/
  wide : ∀ n ∈ tree.root.nodes, n.kind = .callExpression → n.start < n.stop

namespace Traceable

variable {tree : SourceTree} (h : Traceable tree)

include h

/-- The first argument of a wrapper is wrapped by it, if it is a function or a call. -/
theorem exists_site_of_firstArgument? {target : Node} (hs : s ∈ tree.root.sites)
    (hcall : IsWrapperCall tree.source s.node) (htarget : firstArgument? s.node = some target)
    (hkind : target.kind.isComponentFunction = true ∨ target.kind = .callExpression) :
    ∃ t ∈ tree.root.sites, t.node = target ∧ IsWrappedBy tree.source t s := by
  obtain ⟨list, hlist, hbind⟩ := Option.bind_eq_some_iff.mp htarget
  obtain ⟨first, hfirst, hunwrapped⟩ := Option.bind_eq_some_iff.mp hbind
  obtain ⟨hnamed, hlistkind⟩ := h.lists s.node (Node.mem_nodes_of_mem_sites hs) hcall.1 list hlist
  have hlistkind : list.kind = .arguments := by
    refine hlistkind.resolve_right fun hother => ?_
    obtain ⟨hfunction, hnocall⟩ := hother target htarget
    rcases hkind with hkind | hkind
    · rw [hkind] at hfunction
      cases hfunction
    · exact hnocall hkind
  have hlistsite : (⟨list, s.node :: s.above⟩ : Site) ∈ tree.root.sites :=
    Node.mem_sites_cons.mpr ⟨hs, Node.mem_namedChildren.mpr
      ⟨Node.mem_children_of_child? hlist, hnamed⟩⟩
  have hfirstsite : (⟨first, list :: s.node :: s.above⟩ : Site) ∈ tree.root.sites :=
    Node.mem_sites_cons.mpr ⟨hlistsite, List.mem_of_find?_eq_some hfirst⟩
  have houtside : enclosing ⟨first, list :: s.node :: s.above⟩ = list :: s.node :: s.above := by
    rw [enclosing, List.dropWhile_cons_of_neg (by simp [hlistkind])]
  obtain ⟨t, ht, hnode, henclosing⟩ := exists_site_of_unwrapped? hfirstsite hunwrapped houtside
  exact ⟨t, ht, hnode, list, henclosing, hlistkind, hcall⟩

/-- The function inside a wrapper is wrapped by it, possibly with further wrappers between. -/
theorem exists_site_of_wrappedFunction? {fuel : Nat} {f : Node} (hs : s ∈ tree.root.sites)
    (hcall : IsWrapperCall tree.source s.node)
    (hf : wrappedFunction? tree.source fuel s.node = some f) :
    ∃ t ∈ tree.root.sites, t.node = f ∧ Relation.TransGen (IsWrappedBy tree.source) t s := by
  induction fuel generalizing s with
  | zero => cases hf
  | succ fuel ih =>
    rw [wrappedFunction?, ← firstArgument?] at hf
    split at hf
    · cases hf
    · rename_i target htarget
      split at hf
      · rename_i hfunction
        cases hf
        obtain ⟨t, ht, hnode, hstep⟩ := h.exists_site_of_firstArgument? hs hcall htarget (.inl hfunction)
        exact ⟨t, ht, hnode, .single hstep⟩
      · split at hf
        · rename_i hwrapper
          rw [Bool.and_eq_true, decide_eq_true_eq] at hwrapper
          obtain ⟨u, hu, rfl, hstep⟩ :=
            h.exists_site_of_firstArgument? hs hcall htarget (.inr hwrapper.1)
          obtain ⟨t, ht, hnode, hup⟩ := ih hu hwrapper hf
          exact ⟨t, ht, hnode, hup.tail hstep⟩
        · cases hf

/-- A declarator that binds a call of a wrapper has this call as its value. -/
theorem boundValue?_of_bindingDeclarator? {p : Node} (hs : s ∈ tree.root.sites)
    (hcall : IsWrapperCall tree.source s.node) (hbinds : bindingDeclarator? s = some p) :
    boundValue? p = some s.node := by
  obtain ⟨above, value, houter, hp, hvalue, hstart, hkind⟩ := bindingDeclarator?_eq_some hbinds
  obtain ⟨hpsite, hsp⟩ := mem_sites_of_outer? hs houter
  have hproot : p ∈ tree.root.nodes := Node.mem_nodes_of_mem_sites hpsite
  have hsp : s.node ∈ p.nodes := Node.mem_nodes_of_mem_walk (List.mem_of_mem_tail hsp)
  have hvp := mem_nodes_of_boundValue? hvalue
  have hsroot := Node.mem_nodes_of_mem_sites hs
  have hvroot := Node.mem_nodes_trans hproot hvp
  have hvcall : value.kind = .callExpression := hkind.trans hcall.1
  have hswide := h.wide s.node hsroot hcall.1
  have hvwide := h.wide value hvroot hvcall
  -- both start at the same place and neither is empty, so that one lies inside the other
  rcases h.nested.inside_or_apart hsroot hvroot with hin | hin | hapart | hapart
  · rcases eq_or_paren_of_outer? h.nested hs houter hswide hvp hin with hv | hv | hv
    · rw [hvalue, hv]
    · rw [hvcall] at hv
      cases hv
    · rw [← hv, hvcall] at hp
      cases hp
  · rcases eq_or_paren_of_boundValue? (h.nested.of_mem hproot) hvalue hvwide hsp hin with hv | hv | hv
    · rw [hvalue, hv]
    · rw [hcall.1] at hv
      cases hv
    · rw [← hv, hcall.1] at hp
      cases hp
  · omega
  · omega

end Traceable

/-! ## Chains of wrappers -/

/-- Calls of wrappers, each with the next one as its first argument, around a function: the outermost
call, the calls inside it, and the function. -/
inductive WrapperChain (source : Bytes) : Node → List Node → Node → Prop
  | last {call f : Node} (hcall : IsWrapperCall source call) (hfirst : firstArgument? call = some f)
      (hkind : f.kind.isComponentFunction = true) : WrapperChain source call [] f
  | next {call inner f : Node} {rest : List Node} (hcall : IsWrapperCall source call)
      (hfirst : firstArgument? call = some inner) (h : WrapperChain source inner rest f) :
      WrapperChain source call (inner :: rest) f

namespace WrapperChain

variable {source : Bytes} {call f : Node} {rest : List Node}

theorem isWrapperCall (h : WrapperChain source call rest f) : IsWrapperCall source call := by
  cases h <;> assumption

/-- What is inside the outermost call is a call or the function. -/
theorem kind_of_mem {n : Node} (h : WrapperChain source call rest f) (hn : n ∈ rest ++ [f]) :
    n.kind = .callExpression ∨ n.kind.isComponentFunction = true := by
  induction h with
  | last _ _ hkind =>
    obtain rfl := List.mem_singleton.mp hn
    exact .inr hkind
  | next _ _ hrest ih =>
    rcases List.mem_cons.mp hn with rfl | hn
    · exact .inl hrest.isWrapperCall.1
    · exact ih hn

/-- Instrumentation gets to the end of a chain. -/
theorem wrappedFunction?_eq {fuel : Nat} (h : WrapperChain source call rest f)
    (hfuel : call.size ≤ fuel) : wrappedFunction? source fuel call = some f := by
  induction h generalizing fuel with
  | @last call f hcall hfirst hkind =>
    obtain ⟨fuel, rfl⟩ : ∃ k, fuel = k + 1 :=
      Nat.exists_eq_add_one.mpr (by rw [Node.size_eq] at hfuel; omega)
    rw [wrappedFunction?, ← firstArgument?, hfirst]
    simp [hkind]
  | @next call inner f rest hcall hfirst h ih =>
    have hsmaller := size_lt_of_firstArgument? hfirst
    obtain ⟨fuel, rfl⟩ : ∃ k, fuel = k + 1 := Nat.exists_eq_add_one.mpr (by omega)
    obtain ⟨hkind, hwrapper⟩ := h.isWrapperCall
    rw [wrappedFunction?, ← firstArgument?, hfirst]
    simp only [hkind, hwrapper, Kind.isComponentFunction, decide_true, Bool.and_true, if_true]
    exact ih (by omega)

/-- The depth of a chain is the number of calls inside the outermost one. -/
theorem wrapperDepth_eq {fuel : Nat} (h : WrapperChain source call rest f) :
    wrapperDepth source fuel call = min fuel rest.length := by
  induction h generalizing fuel with
  | @last call f hcall hfirst hkind =>
    cases fuel with
    | zero => rfl
    | succ fuel =>
      have hno : f.kind ≠ .callExpression := fun hcall => by
        rw [hcall] at hkind
        cases hkind
      rw [wrapperDepth, ← firstArgument?, hfirst]
      simp [hno]
  | @next call inner f rest hcall hfirst h ih =>
    cases fuel with
    | zero => simp [wrapperDepth]
    | succ fuel =>
      obtain ⟨hkind, hwrapper⟩ := h.isWrapperCall
      rw [wrapperDepth, ← firstArgument?, hfirst]
      simp [hkind, hwrapper, ih]

end WrapperChain

namespace Traceable

variable {tree : SourceTree} (h : Traceable tree)

include h

/-- The calls inside the outermost one, and the function, are wrapped. -/
theorem exists_site_of_mem_chain {s : Site} {rest : List Node} {f n : Node} (hs : s ∈ tree.root.sites)
    (hchain : WrapperChain tree.source s.node rest f) (hn : n ∈ rest ++ [f]) :
    ∃ t ∈ tree.root.sites, t.node = n ∧ Relation.TransGen (IsWrappedBy tree.source) t s := by
  generalize hcall : s.node = call at hchain
  induction hchain generalizing s with
  | @last call f hwrapper hfirst hkind =>
    subst hcall
    obtain rfl := List.mem_singleton.mp hn
    obtain ⟨t, ht, hnode, hup⟩ := h.exists_site_of_firstArgument? hs hwrapper hfirst (.inl hkind)
    exact ⟨t, ht, hnode, .single hup⟩
  | @next call inner f rest hwrapper hfirst hrest ih =>
    subst hcall
    obtain ⟨u, hu, hnode, hup⟩ :=
      h.exists_site_of_firstArgument? hs hwrapper hfirst (.inr hrest.isWrapperCall.1)
    rcases List.mem_cons.mp hn with rfl | hn
    · exact ⟨u, hu, hnode, .single hup⟩
    · obtain ⟨t, ht, htn, htop⟩ := ih hu hn hnode
      exact ⟨t, ht, htn, htop.tail hup⟩

end Traceable

end JsxTagger.Instrument
