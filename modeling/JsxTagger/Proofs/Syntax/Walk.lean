import Mathlib.Logic.Function.Iterate
import JsxTagger.Proofs.Syntax.Places

/-!
# Walks

A walk goes through the named nodes at and below its start. It is a loop over a stack, and the start is
the one node that is entered whatever its kind. `Site.round` is one round of this loop; by
`Site.head?_iterate_round` each round reports the next site of the walk, and when these are used up the
stack is empty.

What the loop amounts to is said in terms of places, because alike nodes can stand at several of them: the
walk reports the nodes at the places that it reaches (`Node.Reaches`), each place once, and it reports them
in pre-order (`Node.InPreorder`). Both are read off the recursion `Node.preorder`.
-/

namespace JsxTagger.Syntax

/-! ## The loop, round by round -/

namespace Site

/-- One round of a walk: the site on top of the stack is reported, and its named children come to lie on
the stack in its place, the first one on top. There are none for a node of a kind to skip, unless the walk
started there, which its depth shows. -/
def round (skip : Kind → Bool) (start : Site) : List Site → List Site
  | [] => []
  | s :: rest =>
    if s.above.length ≠ start.above.length ∧ skip s.node.kind = true then rest
    else s.below Node.named ++ rest

theorem length_above_lt_of_mem_below {keep : Node → Bool} {s t : Site} (h : t ∈ s.below keep) :
    s.above.length < t.above.length := by
  rw [(mem_below.mp h).2.2, List.length_cons]
  exact Nat.lt_succ_self _

/-- On a stack of sites below the start, the rounds are those of the loop that skips kinds of nodes. -/
theorem head?_iterate_round_of_below (skip : Kind → Bool) {start : Site} {stack : List Site}
    (h : ∀ s ∈ stack, start.above.length < s.above.length) (i : Nat) :
    ((round skip start)^[i] stack).head? =
      (drain Node.named (fun n => !skip n.kind) stack)[i]? := by
  induction i generalizing stack with
  | zero => cases stack <;> simp [drain_cons]
  | succ i ih =>
    rw [Function.iterate_succ_apply]
    cases stack with
    | nil => simpa [round] using ih h
    | cons s rest =>
      obtain ⟨hs, hrest⟩ := List.forall_mem_cons.mp h
      rw [drain_cons, List.getElem?_cons_succ]
      by_cases hskip : skip s.node.kind = true
      · rw [round, if_pos ⟨Nat.ne_of_gt hs, hskip⟩, ih hrest]
        simp [hskip]
      · -- what comes to lie on the stack is deeper still, so the start is not met again
        have hstack : ∀ t ∈ s.below Node.named ++ rest, start.above.length < t.above.length := by
          intro t ht
          rcases List.mem_append.mp ht with ht | ht
          · exact Nat.lt_trans hs (length_above_lt_of_mem_below ht)
          · exact hrest t ht
        rw [round, if_neg fun hboth => hskip hboth.2, ih hstack]
        simp [hskip]

/-- The rounds report the sites of the walk one after another. -/
theorem head?_iterate_round (skip : Kind → Bool) (start : Site) (i : Nat) :
    ((round skip start)^[i] [start]).head? = (walk skip start)[i]? := by
  cases i with
  | zero => rfl
  | succ i =>
    have hbelow : ∀ s ∈ start.below Node.named, start.above.length < s.above.length := fun s hs =>
      length_above_lt_of_mem_below hs
    rw [Function.iterate_succ_apply, round, if_neg fun h => h.1 rfl, List.append_nil,
      head?_iterate_round_of_below skip hbelow, walk, List.getElem?_cons_succ]

/-- A walk takes as many rounds as it reports sites. -/
theorem iterate_round_length (skip : Kind → Bool) (start : Site) :
    (round skip start)^[(walk skip start).length] [start] = [] := by
  rw [← List.head?_eq_none_iff, head?_iterate_round, List.getElem?_length]

end Site

namespace Node

/-! ## Places in pre-order -/

/-- The places are listed in pre-order. -/
structure InPreorder (places : List (List Nat)) : Prop where
  /-- No place comes twice. -/
  once : places.Nodup
  /-- A place comes before all that is below it. -/
  outerFirst : ∀ way inner, inner ≠ [] → way ∈ places → way ++ inner ∈ places →
    [way, way ++ inner].Sublist places
  /-- All that is at or below a child comes before all that is at or below a later child. -/
  childByChild : ∀ way i j first second, i < j → way ++ i :: first ∈ places →
    way ++ j :: second ∈ places → [way ++ i :: first, way ++ j :: second].Sublist places

/-- In a list in dictionary order the smaller one of two places comes first. -/
theorem pair_sublist_of_lt {places : List (List Nat)} (h : places.Pairwise (· < ·)) {p q : List Nat}
    (hp : p ∈ places) (hq : q ∈ places) (hlt : p < q) : [p, q].Sublist places := by
  obtain ⟨front, back, rfl⟩ := List.append_of_mem hp
  obtain ⟨-, -, hfront⟩ := List.pairwise_append.mp h
  rcases List.mem_append.mp hq with hq | hq
  · exact absurd (hfront q hq p List.mem_cons_self) (List.lt_asymm hlt)
  · rcases List.mem_cons.mp hq with rfl | hq
    · exact absurd hlt (List.lt_irrefl q)
    · have hback : [p, q].Sublist (p :: back) := List.cons_sublist_cons.mpr (List.singleton_sublist.mpr hq)
      exact hback.trans (List.sublist_append_right front _)

theorem append_lt_append_iff {way p q : List Nat} : way ++ p < way ++ q ↔ p < q := by
  induction way with
  | nil => rfl
  | cons i way ih => rw [List.cons_append, List.cons_append, List.cons_lt_cons_self, ih]

/-- Dictionary order of places is pre-order. -/
theorem inPreorder_of_pairwise {places : List (List Nat)} (h : places.Pairwise (· < ·)) :
    InPreorder places where
  once := by
    refine h.imp fun {p q} hlt heq => ?_
    rw [heq] at hlt
    exact List.lt_irrefl q hlt
  outerFirst way inner hinner hway hin := by
    obtain ⟨i, inner, rfl⟩ := List.exists_cons_of_ne_nil hinner
    have hlt : way ++ [] < way ++ i :: inner := append_lt_append_iff.mpr (List.nil_lt_cons i inner)
    rw [List.append_nil] at hlt
    exact pair_sublist_of_lt h hway hin hlt
  childByChild way i j first second hij hfirst hsecond := by
    have hlt : i :: first < j :: second := List.cons_lt_cons_iff.mpr (Or.inl hij)
    exact pair_sublist_of_lt h hfirst hsecond (append_lt_append_iff.mpr hlt)

/-! ## The places that a walk reaches -/

/-- A walk from `n` that skips kinds of nodes comes to the node `m` at a place. -/
structure Reaches (skip : Kind → Bool) (n : Node) (place : List Nat) (m : Node) : Prop where
  /-- The node is at the place. -/
  there : n.at? place = some m
  /-- Below the start, the node and all nodes on the way to it are named. -/
  named : ∀ way k, way <+: place → way ≠ [] → n.at? way = some k → k.named = true
  /-- No node between the start and the node is of a kind to skip. -/
  entered : ∀ way k, way <+: place → way ≠ [] → way ≠ place → n.at? way = some k → skip k.kind = false

section Reaches

variable {skip : Kind → Bool} {n m : Node} {i : Nat} {place : List Nat}

theorem reaches_nil : Reaches skip n [] m ↔ m = n := by
  constructor
  · rintro ⟨hthere, -, -⟩
    exact (Option.some.inj hthere).symm
  · rintro rfl
    exact ⟨rfl, fun way k hway hne => absurd (List.prefix_nil.mp hway) hne,
      fun way k hway hne => absurd (List.prefix_nil.mp hway) hne⟩

/-- What a walk reaches below a child is what a walk from the child reaches, if the child is named and, to
get below it, not of a kind to skip. -/
theorem reaches_cons : Reaches skip n (i :: place) m ↔
    ∃ c, n.children[i]? = some c ∧ c.named = true ∧ (place ≠ [] → skip c.kind = false) ∧
      Reaches skip c place m := by
  constructor
  · rintro ⟨hthere, hnamed, hentered⟩
    obtain ⟨c, hc, hm⟩ := at?_cons_eq_some.mp hthere
    have hlift {way : List Nat} {k : Node} (hk : c.at? way = some k) : n.at? (i :: way) = some k :=
      at?_cons_eq_some.mpr ⟨c, hc, hk⟩
    have hextend {way : List Nat} (hway : way <+: place) : i :: way <+: i :: place :=
      (List.prefix_cons_inj i).mpr hway
    refine ⟨c, hc, hnamed [i] c (hextend List.nil_prefix) (by simp) (hlift rfl), fun hne => ?_, hm,
      fun way k hway _ hk => ?_, fun way k hway _ hlast hk => ?_⟩
    · exact hentered [i] c (hextend List.nil_prefix) (by simp) (by simpa using hne.symm) (hlift rfl)
    · exact hnamed (i :: way) k (hextend hway) (by simp) (hlift hk)
    · exact hentered (i :: way) k (hextend hway) (by simp) (by simpa using hlast) (hlift hk)
  · rintro ⟨c, hc, hcnamed, hcentered, hthere, hnamed, hentered⟩
    -- every way but the empty one goes through the child
    have hinside {way : List Nat} {k : Node} (hway : way <+: i :: place) (hne : way ≠ [])
        (hk : n.at? way = some k) :
        ∃ inner, way = i :: inner ∧ inner <+: place ∧ c.at? inner = some k := by
      rcases List.prefix_cons_iff.mp hway with rfl | ⟨inner, rfl, hinner⟩
      · exact absurd rfl hne
      · obtain ⟨d, hd, hk⟩ := at?_cons_eq_some.mp hk
        rw [hc] at hd
        cases hd
        exact ⟨inner, rfl, hinner, hk⟩
    refine ⟨at?_cons_eq_some.mpr ⟨c, hc, hthere⟩, fun way k hway hne hk => ?_,
      fun way k hway hne hlast hk => ?_⟩
    · obtain ⟨inner, rfl, hinner, hk⟩ := hinside hway hne hk
      rcases eq_or_ne inner [] with rfl | hinner'
      · cases hk
        exact hcnamed
      · exact hnamed inner k hinner hinner' hk
    · obtain ⟨inner, rfl, hinner, hk⟩ := hinside hway hne hk
      rcases eq_or_ne inner [] with rfl | hinner'
      · cases hk
        exact hcentered fun hnil => hlast (by rw [hnil])
      · exact hentered inner k hinner hinner' (fun heq => hlast (by rw [heq])) hk

/-- Below the start of a walk, a node of a kind to skip is reached and nothing below it is. -/
theorem mem_placed_iff_reaches : (place, m) ∈ n.placed Node.named (fun k => !skip k.kind) ↔
    (place ≠ [] → skip n.kind = false) ∧ Reaches skip n place m := by
  induction place generalizing n with
  | nil => simp [mem_placed_nil, reaches_nil]
  | cons i place ih => simp [mem_placed_cons, reaches_cons, ih]

/-! ## Walks in pre-order -/

/-- The recursive pre-order of the named nodes at and below a node, with their places. A node of a kind to
skip is not gone into, unless it is the first one. -/
def preorder (skip : Kind → Bool) (n : Node) : List (List Nat × Node) :=
  ([], n) :: placedAll Node.named (fun m => !skip m.kind) 0 n.children

theorem mem_preorder_iff : (place, m) ∈ n.preorder skip ↔ Reaches skip n place m := by
  rw [preorder, List.mem_cons, mem_placedAll]
  cases place with
  | nil => simp [reaches_nil]
  | cons i place => simp [reaches_cons, mem_placed_iff_reaches]

end Reaches

/-- A walk reports the nodes of the recursive pre-order. -/
theorem walk_eq_map_preorder (skip : Kind → Bool) (n : Node) :
    n.walk skip = (n.preorder skip).map (·.2) := by
  rw [walk, Site.walk_eq, preorder, List.map_cons, List.map_cons, map_placedAll, Site.below,
    List.flatMap_map, List.map_flatMap]
  congr 1
  exact List.flatMap_congr fun c _ => map_visit_eq_map_placed c _

theorem pairwise_preorder (skip : Kind → Bool) (n : Node) :
    (n.preorder skip).Pairwise fun a b => a.1 < b.1 := by
  rw [preorder, List.pairwise_cons]
  exact ⟨fun a ha => nil_lt_of_mem_placedAll ha, pairwise_placedAll (fun c _ => pairwise_placed c) 0⟩

/-- A walk is the recursive pre-order. Each round of the loop reports the next node, and behind the last one
the stack is empty; the nodes are those at the places that the walk reaches, each place once, every node
before what is below it and all of that before the next child; and in a well-nested tree the starts of the
nodes never decrease. -/
theorem walk_in_preorder (skip : Kind → Bool) (n : Node) :
    (∀ i, ((Site.round skip ⟨n, []⟩)^[i] [⟨n, []⟩]).head?.map (·.node) = (n.walk skip)[i]?) ∧
    (Site.round skip ⟨n, []⟩)^[(n.walk skip).length] [⟨n, []⟩] = [] ∧
    n.walk skip = (n.preorder skip).map (·.2) ∧
    (∀ place m, (place, m) ∈ n.preorder skip ↔ Reaches skip n place m) ∧
    InPreorder ((n.preorder skip).map (·.1)) ∧
    (n.WellNested → (n.walk skip).Pairwise fun a b => a.start ≤ b.start) := by
  refine ⟨fun i => ?_, ?_, walk_eq_map_preorder skip n, fun place m => mem_preorder_iff, ?_, fun h => ?_⟩
  · rw [Site.head?_iterate_round, walk, List.getElem?_map]
  · rw [walk, List.length_map, Site.iterate_round_length]
  · exact inPreorder_of_pairwise (List.pairwise_map.mpr (pairwise_preorder skip n))
  · rw [walk_eq_map_preorder, List.pairwise_map]
    refine (pairwise_preorder skip n).imp_of_mem fun {a b} ha hb hlt => ?_
    exact h.start_le_start (mem_preorder_iff.mp ha).there (mem_preorder_iff.mp hb).there
      (List.lt_asymm hlt)

/-- The declaration `function f() { function g() { x; } y; }`. -/
def nestedFunctions : Node :=
  .mk { kind := .functionDeclaration, start := 0, stop := 39 } [
    .mk { kind := .other "function", start := 0, stop := 8, named := false } [],
    .mk { kind := .identifier, start := 9, stop := 10, field := some .name } [],
    .mk { kind := .other "formal_parameters", start := 10, stop := 12, field := some .parameters } [
      .mk { kind := .other "(", start := 10, stop := 11, named := false } [],
      .mk { kind := .other ")", start := 11, stop := 12, named := false } []],
    .mk { kind := .other "statement_block", start := 13, stop := 39, field := some .body } [
      .mk { kind := .other "\x7b", start := 13, stop := 14, named := false } [],
      .mk { kind := .functionDeclaration, start := 15, stop := 34 } [
        .mk { kind := .other "function", start := 15, stop := 23, named := false } [],
        .mk { kind := .identifier, start := 24, stop := 25, field := some .name } [],
        .mk { kind := .other "formal_parameters", start := 25, stop := 27, field := some .parameters } [
          .mk { kind := .other "(", start := 25, stop := 26, named := false } [],
          .mk { kind := .other ")", start := 26, stop := 27, named := false } []],
        .mk { kind := .other "statement_block", start := 28, stop := 34, field := some .body } [
          .mk { kind := .other "\x7b", start := 28, stop := 29, named := false } [],
          .mk { kind := .other "expression_statement", start := 30, stop := 32 } [
            .mk { kind := .identifier, start := 30, stop := 31 } [],
            .mk { kind := .other ";", start := 31, stop := 32, named := false } []],
          .mk { kind := .other "\x7d", start := 33, stop := 34, named := false } []]],
      .mk { kind := .other "expression_statement", start := 35, stop := 37 } [
        .mk { kind := .identifier, start := 35, stop := 36 } [],
        .mk { kind := .other ";", start := 36, stop := 37, named := false } []],
      .mk { kind := .other "\x7d", start := 38, stop := 39, named := false } []]]

/-- A walk of the outer function that skips functions goes into it, and comes to the inner function without
going into that one. -/
theorem walk_in_preorder_nestedFunctions :
    nestedFunctions.WellNested ∧
    (nestedFunctions.walk (· == .functionDeclaration)).map (·.start) = [0, 9, 10, 13, 15, 35, 35] ∧
    InPreorder [[], [1], [2], [3], [3, 1], [3, 2], [3, 2, 0]] ∧
    (¬ ∃ m, Reaches (· == .functionDeclaration) nestedFunctions [3, 1, 1] m) ∧
    (nestedFunctions.walk (· == .functionDeclaration)).Pairwise fun a b => a.start ≤ b.start := by
  have hnested : nestedFunctions.WellNested := by decide +kernel
  have hplaces : (nestedFunctions.preorder (· == .functionDeclaration)).map (·.1) =
      [[], [1], [2], [3], [3, 1], [3, 2], [3, 2, 0]] := by decide +kernel
  obtain ⟨-, -, -, hreaches, horder, hstarts⟩ :=
    walk_in_preorder (· == .functionDeclaration) nestedFunctions
  refine ⟨hnested, by decide +kernel, hplaces ▸ horder, ?_, hstarts hnested⟩
  rintro ⟨m, hm⟩
  have hmem : [3, 1, 1] ∈ (nestedFunctions.preorder (· == .functionDeclaration)).map (·.1) :=
    List.mem_map_of_mem ((hreaches [3, 1, 1] m).mpr hm)
  rw [hplaces] at hmem
  exact absurd hmem (by decide)

end Node

end JsxTagger.Syntax
