import Mathlib.Data.List.Nodup
import JsxTagger.Proofs.Component.Declared
import JsxTagger.Proofs.Instrument.Obstacles

/-!
# Classification and instrumentation agree on locators

Anchors are looked up by their start and kind, and of several anchors with one key the last one in
pre-order is found. Calls do share keys: in `memo(f)(x)` two calls start at the same offset. The
components of a file are found nevertheless where classification has anchored them, because a call of
a wrapper is the last one of its key (`Locatable.key_ne_of_after`), and they count as nested exactly
if a function or class body other than the root encloses their anchor (`Locatable.isTopLevel_iff`).
-/

namespace JsxTagger.Instrument

open Classify Syntax

variable {room : Nat}

/-! ## Looking up an anchor -/

theorem key_recordAnchor (as : List Node) (n : Node) (k : Nat × Kind) :
    (recordAnchor as n).find? (key · == k) =
      if key n = k then some n else as.find? (key · == k) := by
  rw [recordAnchor]
  split
  · rename_i hseen
    obtain ⟨a, ha, hkey⟩ := List.any_eq_true.mp hseen
    -- taking the place of an anchor does not change its key
    have hsame : ∀ a : Node, key (if (key a == key n) = true then n else a) = key a := by
      intro a
      split
      · rename_i h
        exact (beq_iff_eq.mp h).symm
      · rfl
    rw [List.find?_map, show ((key · == k) ∘ fun a => if (key a == key n) = true then n else a) =
      (key · == k) from funext fun a => by rw [Function.comp_apply, hsame]]
    by_cases hk : key n = k
    · subst hk
      rw [if_pos rfl]
      cases hfind : as.find? (key · == key n) with
      | none => exact absurd hkey (by simpa using List.find?_eq_none.mp hfind a ha)
      | some b => rw [Option.map_some, if_pos (List.find?_some hfind)]
    · rw [if_neg hk]
      cases hfind : as.find? (key · == k) with
      | none => rfl
      | some b =>
        have hb : key b = k := by simpa using List.find?_some hfind
        rw [Option.map_some, if_neg (by simpa [hb] using fun h => hk h.symm)]
  · rename_i hfresh
    rw [List.find?_append]
    by_cases hk : key n = k
    · subst hk
      have hnone : as.find? (key · == key n) = none := by
        simpa [List.find?_eq_none] using hfresh
      simp [hnone]
    · simp [hk]

/-- Of the anchors with one key, the last one in pre-order is found. -/
theorem find?_anchors (root : Node) (k : Nat × Kind) :
    (anchors root).find? (key · == k) =
      (root.walk.filter (·.kind.isAnchor)).reverse.find? (key · == k) := by
  rw [anchors]
  induction root.walk.filter (·.kind.isAnchor) using List.reverseRecOn with
  | nil => rfl
  | append_singleton ns n ih =>
    rw [List.foldl_append, List.foldl_cons, List.foldl_nil, key_recordAnchor, ih]
    by_cases hk : key n = k <;> simp [hk]

theorem find?_reverse_eq_some {α : Type} {p : α → Bool} {front back : List α} {a : α}
    (ha : p a = true) (hback : ∀ b ∈ back, p b = false) :
    (front ++ a :: back).reverse.find? p = some a := by
  have hnone : back.reverse.find? p = none := by
    rw [List.find?_eq_none]
    intro b hb
    simp [hback b (List.mem_reverse.mp hb)]
  rw [List.reverse_append, List.reverse_cons, List.append_assoc, List.find?_append, hnone]
  simp [ha]

/-- Kinds of anchors have different names. -/
theorem kind_eq_of_name {k k' : Kind} (hk : k.isAnchor = true) (hk' : k'.isAnchor = true)
    (h : k.name = k'.name) : k = k' := by
  have hname : ∀ {k : Kind}, k.isAnchor = true → Kind.ofName k.name = k := by
    intro k hk
    cases k <;> first | decide | cases hk
  rw [← hname hk, h, hname hk']

/-- A component is looked up by the key of its anchor, and has to bear the name that is found. -/
theorem locate_of_describes {source : Bytes} {root anchor : Node} {top : List (Nat × Kind)}
    {c : Component} (hc : Describes source anchor c) (hanchor : anchor.kind.isAnchor = true) :
    locate room source (anchors root) top c =
      search (unlessLegible <| allLegible source <| nameReads ·)
        (fun n => if componentName source anchor == componentName source n then some n else none)
        ((anchors root).find? (key · == key anchor)).toList := by
  have hlocator := hc.hasLocator
  have hfirst := hc.isKey (Or.inl rfl)
  have hsecond := hc.isKey (Or.inr rfl)
  obtain ⟨hname, hstart, htype⟩ := hc
  have hmatch : (anchors root).find? (fun n =>
      c.declarationStart.isNat n.start && c.declarationType.isText n.kind.name) =
      (anchors root).find? (key · == key anchor) := by
    rw [← List.head?_filter, ← List.head?_filter]
    refine congrArg List.head? (List.filter_congr fun n hn => ?_)
    have hn := (mem_walk_of_mem_anchors hn).2
    rw [hstart, htype, Bool.eq_iff_iff, Bool.and_eq_true, beq_iff_eq, key, key, Prod.mk.injEq]
    simp only [Json.isNat, Json.isText, beq_iff_eq, Int.natCast_inj]
    constructor
    · rintro ⟨hs, hk⟩
      exact ⟨hs.symm, kind_eq_of_name hn hanchor hk.symm⟩
    · rintro ⟨hs, hk⟩
      exact ⟨hs.symm, by rw [hk]⟩
  rw [locate, if_pos hlocator, if_neg (by simp [hfirst]), if_neg (by simp [hsecond])]
  simp only [hmatch]
  simp only [hname, Json.isText]

/-! ## The top level -/

/-- What counts as top level is what has the key of an anchor that no function and no class body
encloses, the root aside. -/
theorem isTopLevel_eq_true {tree : SourceTree} {n : Node} : isTopLevel tree n = true ↔
    ∃ t ∈ tree.root.sites, (∀ m ∈ t.above.dropLast, m.kind.isNestedScope = false) ∧
      t.node.kind.isAnchor = true ∧ key t.node = key n := by
  have hwalk : ∀ t : Site, t ∈ Site.walk Kind.isNestedScope ⟨tree.root, []⟩ ↔
      t ∈ tree.root.sites ∧ ∀ m ∈ t.above.dropLast, m.kind.isNestedScope = false := by
    intro t
    rw [Node.walk_skip_eq_filter, List.mem_filter]
    simp
  rw [isTopLevel, topLevel, List.contains_iff_mem, List.mem_map]
  constructor
  · rintro ⟨n, hn, hkey⟩
    obtain ⟨hn, hanchor⟩ := List.mem_filter.mp hn
    obtain ⟨t, ht, rfl⟩ := List.mem_map.mp hn
    obtain ⟨ht, hopen⟩ := (hwalk t).mp ht
    exact ⟨t, ht, hopen, hanchor, hkey⟩
  · rintro ⟨t, ht, hopen, hanchor, hkey⟩
    exact ⟨t.node, List.mem_filter.mpr ⟨List.mem_map_of_mem ((hwalk t).mpr ⟨ht, hopen⟩), hanchor⟩,
      hkey⟩

/-! ## Trees in which locators work -/

/-- A call of a wrapper. -/
def IsWrapperCall (source : Bytes) (n : Node) : Prop :=
  n.kind = .callExpression ∧ (wrapperName? source n).isSome = true

instance (source : Bytes) (n : Node) : Decidable (IsWrapperCall source n) :=
  inferInstanceAs (Decidable (_ ∧ _))

/-- What looking up an anchor relies on in a tree. -/
structure Locatable (tree : SourceTree) : Prop where
  /-- The tree is well nested. -/
  nested : tree.root.WellNested
  /-- Anchors of one kind have starts of their own, calls aside. -/
  keys : ((tree.root.walk.filter fun n => n.kind.isAnchor && n.kind != .callExpression).map
    key).Nodup
  /-- Where a call of a wrapper starts, no call inside it starts. -/
  inside : ∀ s ∈ tree.root.sites, IsWrapperCall tree.source s.node →
    ∀ n ∈ s.node.walk.tail, n.kind = .callExpression → n.start ≠ s.node.start
  /-- Where a call of a wrapper starts, no function or class body around it starts. -/
  around : ∀ s ∈ tree.root.sites, IsWrapperCall tree.source s.node →
    ∀ n ∈ s.above, n.kind.isNestedScope = true → n.start ≠ s.node.start

instance (tree : SourceTree) : Decidable (Locatable tree) :=
  decidable_of_iff
    (tree.root.WellNested ∧
      ((tree.root.walk.filter fun n => n.kind.isAnchor && n.kind != .callExpression).map
        key).Nodup ∧
      (∀ s ∈ tree.root.sites, IsWrapperCall tree.source s.node →
        ∀ n ∈ s.node.walk.tail, n.kind = .callExpression → n.start ≠ s.node.start) ∧
      ∀ s ∈ tree.root.sites, IsWrapperCall tree.source s.node →
        ∀ n ∈ s.above, n.kind.isNestedScope = true → n.start ≠ s.node.start)
    ⟨fun ⟨a, b, c, d⟩ => ⟨a, b, c, d⟩, fun ⟨a, b, c, d⟩ => ⟨a, b, c, d⟩⟩

/-- The sites that components can be anchored at: anchors that are no call, and calls of a wrapper. -/
def IsAnchorSite (tree : SourceTree) (s : Site) : Prop :=
  s ∈ tree.root.sites ∧ s.node.kind.isAnchor = true ∧
    (s.node.kind ≠ .callExpression ∨ IsWrapperCall tree.source s.node)

/-- A call of a wrapper is not empty, because the name of the wrapper stands in it. -/
theorem start_lt_stop_of_isWrapperCall {source : Bytes} {n : Node} (hnested : n.WellNested)
    (h : IsWrapperCall source n) : n.start < n.stop := by
  -- no wrapper has an empty name
  have hwide : ∀ {m : Node}, m ∈ n.nodes → m.text source ∈ wrappers → n.start < n.stop := by
    intro m hm htext
    have hne : m.start < m.stop := by
      by_contra hle
      have hempty : m.text source = "" := by
        rw [Node.text, Bytes.slice, show m.stop - m.start = 0 by omega, List.take_zero]
        decide
      rw [hempty] at htext
      exact absurd htext (by decide)
    have := hnested.range hm
    omega
  obtain ⟨-, h⟩ := h
  rw [wrapperName?] at h
  split at h
  · cases h
  · rename_i callee hcallee
    have hin := Node.mem_nodes_of_child? hcallee
    split at h
    · rename_i hname
      rw [calleeIs] at hname
      split at hname
      · exact hwide hin (List.contains_iff_mem.mp hname)
      · split at hname
        · rw [isMemberOf] at hname
          split at hname
          · have hmem := List.contains_iff_mem.mp (Bool.and_eq_true_iff.mp hname).2
            cases hproperty : callee.child? .property with
            | none =>
              rw [hproperty, textOf] at hmem
              exact absurd hmem (by decide)
            | some property =>
              rw [hproperty] at hmem
              exact hwide (Node.mem_nodes_trans hin (Node.mem_nodes_of_child? hproperty)) hmem
          · cases hname
        · cases hname
    · cases h

namespace Locatable

variable {tree : SourceTree} (h : Locatable tree)

include h

/-- Anchors with the same key that are no calls are the same. -/
theorem eq_of_key {s t : Site} (hs : IsAnchorSite tree s) (ht : IsAnchorSite tree t)
    (hkind : s.node.kind ≠ .callExpression) (hkey : key s.node = key t.node) : s = t := by
  have hkind' : t.node.kind ≠ .callExpression := by
    rw [← (Prod.mk.inj hkey).2]
    exact hkind
  have hnodup : ((tree.root.sites.filter fun s =>
      s.node.kind.isAnchor && s.node.kind != .callExpression).map fun s => key s.node).Nodup := by
    have hkeys := h.keys
    rw [← Node.map_node_sites, List.filter_map, List.map_map] at hkeys
    exact hkeys
  refine List.inj_on_of_nodup_map hnodup (List.mem_filter.mpr ⟨hs.1, ?_⟩)
    (List.mem_filter.mpr ⟨ht.1, ?_⟩) hkey
  · simp [hs.2.1, hkind]
  · simp [ht.2.1, hkind']

/-- The sites, with what sets apart two of them: the later one lies below the earlier one or starts
after its end, and anchors that are no calls have different keys. -/
theorem pairwise : tree.root.sites.Pairwise fun s t =>
    s.Before t ∧ (s.node.kind.isAnchor = true → s.node.kind ≠ .callExpression →
      t.node.kind.isAnchor = true → key s.node ≠ key t.node) := by
  refine (Node.pairwise_sites h.nested).and ?_
  have hkeys := h.keys
  rw [← Node.map_node_sites, List.filter_map, List.map_map, List.Nodup, List.pairwise_map,
    List.pairwise_filter] at hkeys
  refine hkeys.imp fun {s t} hne hs hcall ht hkey => hne ?_ ?_ hkey
  · simp [hs, hcall]
  · have hsame : t.node.kind = s.node.kind := (Prod.mk.inj hkey).2.symm
    simp [hs, hsame, hcall]

/-- No anchor that comes after an anchor site has its key. -/
theorem key_ne_of_after {s t : Site} (hs : IsAnchorSite tree s) (ht : t.node.kind.isAnchor = true)
    (hst : s.Before t)
    (hkeys : s.node.kind.isAnchor = true → s.node.kind ≠ .callExpression →
      t.node.kind.isAnchor = true → key s.node ≠ key t.node) : key t.node ≠ key s.node := by
  intro hkey
  obtain ⟨hmem, hanchor, hkind | hcall⟩ := hs
  · exact hkeys hanchor hkind ht hkey.symm
  · obtain ⟨hstart, hsame⟩ := Prod.mk.inj hkey
    rcases hst with ⟨hbelow, -⟩ | hafter
    · exact h.inside s hmem hcall t.node hbelow (hsame.trans hcall.1) hstart
    · have hnested := h.nested.of_mem (Node.mem_nodes_of_mem_walk (Node.mem_walk_of_mem_sites hmem))
      have := start_lt_stop_of_isWrapperCall hnested hcall
      omega

/-- An anchor site is the last one of its key among the anchors. -/
theorem exists_last {s : Site} (hs : IsAnchorSite tree s) :
    ∃ front back, tree.root.walk.filter (·.kind.isAnchor) = front ++ s.node :: back ∧
      ∀ n ∈ back, key n ≠ key s.node := by
  obtain ⟨front, back, hsplit⟩ := List.append_of_mem hs.1
  have hpairwise := h.pairwise
  rw [hsplit, List.pairwise_append, List.pairwise_cons] at hpairwise
  refine ⟨(front.filter (·.node.kind.isAnchor)).map (·.node),
    (back.filter (·.node.kind.isAnchor)).map (·.node), ?_, ?_⟩
  · rw [← Node.map_node_sites, hsplit, List.filter_map, Function.comp_def, List.filter_append,
      List.filter_cons_of_pos (p := fun t : Site => t.node.kind.isAnchor) hs.2.1, List.map_append,
      List.map_cons]
  · intro n hn
    obtain ⟨t, ht, rfl⟩ := List.mem_map.mp hn
    obtain ⟨ht, htanchor⟩ := List.mem_filter.mp ht
    obtain ⟨hst, hkeys⟩ := hpairwise.2.1.1 t ht
    exact h.key_ne_of_after hs htanchor hst hkeys

/-- A site with the key of a call of a wrapper that no function or class body below the root
encloses: none encloses the call either. -/
theorem not_nested_of_key {s t : Site} {m : Node} (hs : s ∈ tree.root.sites)
    (hcall : IsWrapperCall tree.source s.node) (ht : t ∈ tree.root.sites)
    (hkey : key t.node = key s.node) (hopen : ∀ n ∈ t.above.dropLast, n.kind.isNestedScope = false)
    (hm : m ∈ s.above.dropLast) : m.kind.isNestedScope = false := by
  by_contra hnested
  have hnested : m.kind.isNestedScope = true := by simpa using hnested
  obtain ⟨c, above⟩ := s
  obtain ⟨inner, outer, hinner⟩ := List.append_of_mem hm
  obtain ⟨root, habove⟩ : ∃ root, above = inner ++ m :: (outer ++ [root]) :=
    ⟨above.getLast (List.ne_nil_of_mem (List.dropLast_subset _ hm)), by
      rw [← List.cons_append, ← List.append_assoc, ← hinner, List.dropLast_append_getLast]⟩
  subst habove
  obtain ⟨hmsite, hcm⟩ := Node.mem_sites_ancestor hs
  obtain ⟨hstart, hkind⟩ := Prod.mk.inj hkey
  have hin : ∀ {u : Site}, u ∈ tree.root.sites → u.node.WellNested := fun hu =>
    h.nested.of_mem (Node.mem_nodes_of_mem_walk (Node.mem_walk_of_mem_sites hu))
  have hcmrange := (hin hmsite).range (Node.mem_nodes_of_mem_walk (List.mem_of_mem_tail hcm))
  have hne := h.around _ hs hcall m (List.dropLast_subset _ hm) hnested
  have hwide := start_lt_stop_of_isWrapperCall (hin hs) hcall
  dsimp only at hstart hwide hne
  -- the other call is compared with the enclosing node
  rcases Node.before_or_before h.nested ht hmsite with rfl | (⟨hbelow, -⟩ | hafter) |
    (⟨-, middle, habove⟩ | hafter)
  · rw [show m.kind = .callExpression from hkind.trans hcall.1] at hnested
    cases hnested
  · have hle : t.node.start ≤ m.start :=
      ((hin ht).range (Node.mem_nodes_of_mem_walk (List.mem_of_mem_tail hbelow))).1
    have hge : m.start ≤ c.start := hcmrange.1
    exact hne (by omega)
  · have hle : t.node.start ≤ m.start := Nat.le_trans (hin ht).start_le_stop hafter
    have hge : m.start ≤ c.start := hcmrange.1
    exact hne (by omega)
  · have hdrop : t.above.dropLast = middle ++ m :: outer := by
      rw [habove, ← List.cons_append, ← List.append_assoc, List.dropLast_concat]
    have := hopen m (by simp [hdrop])
    rw [hnested] at this
    cases this
  · have hle : m.stop ≤ t.node.start := hafter
    have hge : c.stop ≤ m.stop := hcmrange.2
    omega

/-- An anchor counts as top level exactly if no function or class body below the root encloses it. -/
theorem isTopLevel_iff {s : Site} (hs : IsAnchorSite tree s) :
    isTopLevel tree s.node = true ↔ ∀ n ∈ s.above.dropLast, n.kind.isNestedScope = false := by
  rw [isTopLevel_eq_true]
  refine ⟨?_, fun hopen => ⟨s, hs.1, hopen, hs.2.1, rfl⟩⟩
  rintro ⟨t, ht, hopen, hanchor, hkey⟩ m hm
  rcases hs.2.2 with hkind | hcall
  · have hkind' : t.node.kind ≠ .callExpression := by
      rw [(Prod.mk.inj hkey).2]
      exact hkind
    rw [← h.eq_of_key ⟨ht, hanchor, Or.inl hkind'⟩ hs hkind' hkey] at hm
    exact hopen m hm
  · exact h.not_nested_of_key hs.1 hcall ht hkey hopen hm

/-! ## The anchors of components -/

omit h in
theorem isAnchorSite_anchorSite {s : Site} (hs : s ∈ tree.root.sites)
    (hd : Declares tree.source s) : IsAnchorSite tree (anchorSite s) := by
  refine ⟨mem_sites_anchorSite hs, ?_⟩
  cases hd with
  | own hkind hanchor _ =>
    rw [anchorSite_of_ne hkind]
    exact ⟨hanchor, Or.inl hkind⟩
  | wrapper hkind hwrapper =>
    rcases anchorSite_of_call hkind with ⟨-, hsite⟩ | ⟨value, -, -, hdeclarator, -⟩
    · rw [hsite]
      exact ⟨by rw [hkind]; rfl, Or.inr ⟨hkind, hwrapper⟩⟩
    · rw [hdeclarator]
      exact ⟨rfl, Or.inl (by simp)⟩

/-- A declaration of its own and a wrapped component are anchored at different places: a declarator
has one value. -/
theorem key_ne_of_own_of_wrapper {s t : Site} (hs : s ∈ tree.root.sites) (ht : t ∈ tree.root.sites)
    (hkind : s.node.kind ≠ .callExpression) (hanchor : s.node.kind.isAnchor = true)
    (hvalue : s.node.kind = .variableDeclarator →
      ∃ value, boundValue? s.node = some value ∧ value.kind.isComponentFunction = true)
    (hcall : t.node.kind = .callExpression) : key s.node ≠ key (anchorSite t).node := by
  intro hkey
  rcases anchorSite_of_call hcall with ⟨-, hsite⟩ | ⟨value, -, -, hdeclarator, hbound, -, hvcall⟩
  · rw [hsite] at hkey
    exact hkind ((Prod.mk.inj hkey).2.trans hcall)
  · have hsame : s = anchorSite t :=
      h.eq_of_key ⟨hs, hanchor, Or.inl hkind⟩
        ⟨mem_sites_anchorSite ht, by rw [hdeclarator]; rfl, Or.inl (by simp [hdeclarator])⟩ hkind hkey
    obtain ⟨value', hbound', hfunction⟩ := hvalue (by rw [hsame, hdeclarator])
    rw [hsame, hbound] at hbound'
    cases hbound'
    rw [hvcall] at hfunction
    cases hfunction

/-- Two calls of wrappers that are anchored at the same place start at the same place. -/
theorem start_eq_of_key {s t : Site} (hs : s ∈ tree.root.sites) (ht : t ∈ tree.root.sites)
    (hscall : s.node.kind = .callExpression) (htcall : t.node.kind = .callExpression)
    (hkey : key (anchorSite s).node = key (anchorSite t).node) : s.node.start = t.node.start := by
  have hsame := (Prod.mk.inj hkey).2
  rcases anchorSite_of_call hscall with ⟨-, hsite⟩ | ⟨value, -, -, hdeclarator, hbound, hstart, -⟩ <;>
    rcases anchorSite_of_call htcall with
      ⟨-, hsite'⟩ | ⟨value', -, -, hdeclarator', hbound', hstart', -⟩
  · rw [hsite, hsite'] at hkey
    exact (Prod.mk.inj hkey).1
  · rw [hsite, hscall, hdeclarator'] at hsame
    cases hsame
  · rw [hsite', htcall, hdeclarator] at hsame
    cases hsame
  · have heq : anchorSite s = anchorSite t :=
      h.eq_of_key
        ⟨mem_sites_anchorSite hs, by rw [hdeclarator]; rfl, Or.inl (by simp [hdeclarator])⟩
        ⟨mem_sites_anchorSite ht, by rw [hdeclarator']; rfl, Or.inl (by simp [hdeclarator'])⟩
        (by simp [hdeclarator]) hkey
    rw [heq, hbound'] at hbound
    cases hbound
    rw [← hstart, hstart']

/-- No two components are anchored at the same place. -/
theorem pairwise_anchorSites :
    (anchorSites tree).Pairwise fun s t => key s.node ≠ key t.node := by
  rw [anchorSites, List.pairwise_map]
  refine (h.pairwise.filter _).imp_of_mem ?_
  rintro s t hs ht ⟨hst, hkeys⟩ hkey
  obtain ⟨hs, n, c, hsd⟩ := mem_declaringSites.mp hs
  obtain ⟨ht, n', c', htd⟩ := mem_declaringSites.mp ht
  cases (describe_eq_some hsd).2.2 with
  | own hkind hanchor hvalue =>
    rw [anchorSite_of_ne hkind] at hkey
    cases (describe_eq_some htd).2.2 with
    | own hkind' hanchor' _ =>
      rw [anchorSite_of_ne hkind'] at hkey
      exact hkeys hanchor hkind hanchor' hkey
    | wrapper hcall' _ => exact h.key_ne_of_own_of_wrapper hs ht hkind hanchor hvalue hcall' hkey
  | wrapper hcall hwrapper =>
    cases (describe_eq_some htd).2.2 with
    | own hkind' hanchor' hvalue' =>
      rw [anchorSite_of_ne hkind'] at hkey
      exact h.key_ne_of_own_of_wrapper ht hs hkind' hanchor' hvalue' hcall hkey.symm
    | wrapper hcall' _ =>
      have hstart := h.start_eq_of_key hs ht hcall hcall' hkey
      have hanchor : s.node.kind.isAnchor = true := by rw [hcall]; rfl
      have hanchor' : t.node.kind.isAnchor = true := by rw [hcall']; rfl
      refine h.key_ne_of_after ⟨hs, hanchor, Or.inr ⟨hcall, hwrapper⟩⟩ hanchor' hst hkeys ?_
      rw [key, key, hstart, hcall, hcall']

omit h in
theorem mem_anchorSites {s : Site} (hs : s ∈ anchorSites tree) : IsAnchorSite tree s := by
  obtain ⟨t, ht, rfl⟩ := List.mem_map.mp hs
  obtain ⟨ht, n, c, hd⟩ := mem_declaringSites.mp ht
  exact isAnchorSite_anchorSite ht (describe_eq_some hd).2.2

omit h in
theorem nameReads_legible (hlegible : allLegible tree.source (classifyReads tree) = true) {s : Site}
    (hs : s ∈ anchorSites tree) : allLegible tree.source (nameReads s.node) = true := by
  obtain ⟨t, ht, rfl⟩ := List.mem_map.mp hs
  obtain ⟨ht, n, c, hd⟩ := mem_declaringSites.mp ht
  obtain ⟨rfl, -, -⟩ := describe_eq_some hd
  rw [allLegible, List.all_eq_true] at hlegible ⊢
  intro m hm
  refine hlegible m (List.mem_append_left _ (List.mem_flatMap.mpr ⟨t, ht, ?_⟩))
  rw [describeReads, hd]
  exact List.mem_append_right _ hm

/-- A component is found at its anchor. -/
theorem locate_anchorSite (room : Nat) (hlegible : allLegible tree.source (classifyReads tree) = true) {s : Site}
    {c : Component} (hs : s ∈ anchorSites tree) (hc : Describes tree.source s.node c) :
    s ∈ anchorSites tree ∧ Describes tree.source s.node c ∧
      locate room tree.source (anchors tree.root) (topLevel tree.root) c = .ok (some s.node) := by
  obtain ⟨front, back, hwalk, hback⟩ := h.exists_last (mem_anchorSites hs)
  have hfound : (anchors tree.root).find? (key · == key s.node) = some s.node := by
    rw [find?_anchors, hwalk]
    exact find?_reverse_eq_some (by simp) fun n hn => by simpa using hback n hn
  refine ⟨hs, hc, ?_⟩
  rw [locate_of_describes hc (mem_anchorSites hs).2.1, hfound]
  simp [search, nameReads_legible hlegible hs, unlessLegible]

theorem any_above_eq {s : Site} (hs : s ∈ anchorSites tree) :
    s.above.dropLast.any (·.kind.isNestedScope) = !isTopLevel tree s.node := by
  have hiff := h.isTopLevel_iff (mem_anchorSites hs)
  cases htop : isTopLevel tree s.node with
  | true => simpa [htop] using hiff.mp htop
  | false =>
    rw [htop] at hiff
    simpa using hiff

end Locatable

/-- The anchor sites are those that classification gives. -/
theorem map_node_anchorSites (tree : SourceTree) :
    (anchorSites tree).map (·.node) =
      (tree.root.sites.filterMap (describe tree.source)).map (·.1) := by
  rw [anchorSites, declaringSites]
  induction tree.root.sites with
  | nil => rfl
  | cons s sites ih =>
    cases hd : describe tree.source s with
    | none => simpa [hd] using ih
    | some found =>
      obtain ⟨n, c⟩ := found
      have hn := (describe_eq_some hd).1
      simpa [hd, hn] using ih

theorem filterMap_of_forall₂ {α β γ : Type} {R : α → β → Prop} {f : α → Option γ}
    {g : β → Option γ} {as : List α} {bs : List β} (h : List.Forall₂ R as bs)
    (hfg : ∀ a ∈ as, ∀ b ∈ bs, R a b → f a = g b) : as.filterMap f = bs.filterMap g := by
  induction h with
  | nil => rfl
  | cons hab _ ih =>
    rw [List.filterMap_cons, List.filterMap_cons,
      hfg _ List.mem_cons_self _ List.mem_cons_self hab,
      ih fun a ha b hb => hfg a (List.mem_cons_of_mem _ ha) b (List.mem_cons_of_mem _ hb)]

/-- What is selected and read off in the same way on both sides is the same. -/
theorem filter_map_of_forall₂ {α β γ : Type} {R : α → β → Prop} {p : α → Bool} {q : β → Bool}
    {f : α → γ} {g : β → γ} {as : List α} {bs : List β} (h : List.Forall₂ R as bs)
    (hpq : ∀ a b, R a b → p a = q b ∧ f a = g b) :
    (as.filter p).map f = (bs.filter q).map g := by
  rw [← List.filterMap_eq_filter, ← List.filterMap_eq_filter, List.map_filterMap,
    List.map_filterMap]
  refine filterMap_of_forall₂ h fun a _ b _ hab => ?_
  obtain ⟨hp, hf⟩ := hpq a b hab
  simp only [Option.guard, hp]
  split <;> simp [hf]

theorem exists_of_forall₂ {α β : Type} {R : α → β → Prop} {as : List α} {bs : List β} {b : β}
    (h : List.Forall₂ R as bs) (hb : b ∈ bs) : ∃ a ∈ as, R a b := by
  induction h with
  | nil => cases hb
  | cons hab _ ih =>
    rcases List.mem_cons.mp hb with rfl | hb
    · exact ⟨_, List.mem_cons_self, hab⟩
    · obtain ⟨a, ha, hR⟩ := ih hb
      exact ⟨a, List.mem_cons_of_mem _ ha, hR⟩

/-- Below a root that is no function, it makes no difference whether the root counts as enclosing. -/
theorem any_above_dropLast {root : Node} (hroot : root.kind.isNestedScope = false) {s : Site}
    (hs : s ∈ root.sites) :
    s.above.dropLast.any (·.kind.isNestedScope) = s.above.any (·.kind.isNestedScope) := by
  rw [Bool.eq_iff_iff, List.any_eq_true, List.any_eq_true]
  constructor
  · rintro ⟨n, hn, hscope⟩
    exact ⟨n, List.dropLast_subset _ hn, hscope⟩
  · rintro ⟨n, hn, hscope⟩
    rcases Node.eq_or_mem_dropLast_above hs hn with rfl | hn
    · rw [hroot] at hscope
      cases hscope
    · exact ⟨n, hn, hscope⟩

/-- Every component of a file is found at the node it is anchored at, no two have the same locator,
and a run reports no component as missing, and as nested those whose anchor a function or class body
encloses. The root does not count as enclosing, which matters only if it is itself a function. A run
that does not come to its end is not stopped by a locator. -/
theorem locators_agree (room : Nat) (tree : SourceTree) (ids : IdStream) (drawn : Nat) (h : Locatable tree)
    (hlegible : allLegible tree.source (classifyReads tree) = true) :
    (∀ s ∈ anchorSites tree, s ∈ tree.root.sites) ∧
      (anchorSites tree).map (·.node) =
        (tree.root.sites.filterMap (describe tree.source)).map (·.1) ∧
      List.Forall₂ (fun s c =>
          locate room tree.source (anchors tree.root) (topLevel tree.root) c = .ok (some s.node))
        (anchorSites tree) (classifyComponents tree) ∧
      ((classifyComponents tree).map fun c => (c.declarationStart, c.declarationType)).Nodup ∧
      match planAll room tree ids (classifyComponents tree) drawn with
      | .ok g =>
        g.missing = [] ∧
          g.nested = ((anchorSites tree).filter fun s =>
            s.above.dropLast.any (·.kind.isNestedScope)).map
              (fun s => .str (componentName tree.source s.node)) ∧
          (tree.root.kind.isNestedScope = false →
            g.nested = ((anchorSites tree).filter fun s => s.above.any (·.kind.isNestedScope)).map
              fun s => .str (componentName tree.source s.node))
      | .error e =>
        (e = .illegible ∧ HasIllegible tree.source tree.root) ∨
          (e = .tooDeep ∧ ∃ n ∈ tree.root.walk, functionObstacle? room tree.source n = some .tooDeep) ∨
          ∃ s ∈ boundScopes room tree (classifyComponents tree), ScopeObstacle s e := by
  have hdescribes := classifyComponents_describes tree
  have hfound := List.Forall₂.imp (fun s c hc => h.locate_anchorSite room hlegible hc.1 hc.2)
    ((List.forall₂_and_left _ _).mpr ⟨fun _ hs => hs, hdescribes⟩)
  refine ⟨fun s hs => (Locatable.mem_anchorSites hs).1, map_node_anchorSites tree,
    hfound.imp fun s c hc => hc.2.2, ?_, ?_⟩
  · have hmap := filter_map_of_forall₂ (p := fun _ => true) (q := fun _ => true)
      (f := fun s : Site => (Json.int s.node.start, Json.str s.node.kind.name))
      (g := fun c : Component => (c.declarationStart, c.declarationType)) hdescribes
      fun s c hc => ⟨rfl, by rw [hc.2.1, hc.2.2]⟩
    rw [List.filter_true, List.filter_true] at hmap
    rw [← hmap, List.Nodup, List.pairwise_map]
    refine h.pairwise_anchorSites.imp_of_mem fun {s t} hs ht hne heq => hne ?_
    have hstart : s.node.start = t.node.start := by
      exact_mod_cast Json.int.inj (Prod.mk.inj heq).1
    have hkind := kind_eq_of_name (Locatable.mem_anchorSites hs).2.1
      (Locatable.mem_anchorSites ht).2.1 (Json.str.inj (Prod.mk.inj heq).2)
    rw [key, key, hstart, hkind]
  · split
    · rename_i g hg
      obtain ⟨-, -, hmissing, hnested⟩ := planAll_eq_ok hg
      have hopen : g.nested = ((anchorSites tree).filter fun s =>
          s.above.dropLast.any (·.kind.isNestedScope)).map
            (fun s => .str (componentName tree.source s.node)) := by
        rw [hnested]
        refine (filter_map_of_forall₂ hfound fun s c hc => ⟨?_, hc.2.1.1.symm⟩).symm
        rw [isNestedIn, anchorOf?_eq_some.mpr hc.2.2, Option.any_some]
        exact h.any_above_eq hc.1
      refine ⟨?_, hopen, fun hroot => ?_⟩
      · rw [hmissing, ← filter_map_of_forall₂ (p := fun _ => false)
          (f := fun s : Site => Json.str (componentName tree.source s.node)) hfound]
        · simp
        · intro s c hc
          exact ⟨by simp [anchorOf?_eq_some.mpr hc.2.2], hc.2.1.1.symm⟩
      · rw [hopen]
        refine congrArg _ (List.filter_congr fun s hs => ?_)
        exact any_above_dropLast hroot (Locatable.mem_anchorSites hs).1
    · rename_i e he
      cases planAll_eq_error he with
      | illegible hl => exact Or.inl ⟨rfl, hl⟩
      | locator hc _ hhalf hkey =>
        obtain ⟨s, -, hs⟩ := exists_of_forall₂ hdescribes hc
        rw [hs.isKey hhalf] at hkey
        cases hkey
      | tooDeep _ hanchor _ hdeep => exact Or.inr (Or.inl ⟨rfl, _, hanchor, hdeep⟩)
      | scope hs ho => exact Or.inr (Or.inr ⟨_, hs, ho⟩)

/-- The file `memo(() => <b />)(x)`, in which two calls have the same start. -/
def chainedCalls : SourceTree where
  source := Bytes.ofText "memo(() => <b />)(x)"
  root :=
    .mk { kind := .program, start := 0, stop := 20 } [
      .mk { kind := .other "expression_statement", start := 0, stop := 20 } [
        .mk { kind := .callExpression, start := 0, stop := 20 } [
          .mk { kind := .callExpression, start := 0, stop := 17, field := some .function } [
            .mk { kind := .identifier, start := 0, stop := 4, field := some .function } [],
            .mk { kind := .arguments, start := 4, stop := 17, field := some .arguments } [
              .mk { kind := .other "(", start := 4, stop := 5, named := false } [],
              .mk { kind := .arrowFunction, start := 5, stop := 16 } [
                .mk { kind := .other "formal_parameters", start := 5, stop := 7,
                      field := some .parameters } [
                  .mk { kind := .other "(", start := 5, stop := 6, named := false } [],
                  .mk { kind := .other ")", start := 6, stop := 7, named := false } []],
                .mk { kind := .other "=>", start := 8, stop := 10, named := false } [],
                .mk { kind := .jsxSelfClosingElement, start := 11, stop := 16,
                      field := some .body } [
                  .mk { kind := .other "<", start := 11, stop := 12, named := false } [],
                  .mk { kind := .identifier, start := 12, stop := 13, field := some .name } [],
                  .mk { kind := .other "/>", start := 14, stop := 16, named := false } []]],
              .mk { kind := .other ")", start := 16, stop := 17, named := false } []]],
          .mk { kind := .arguments, start := 17, stop := 20, field := some .arguments } [
            .mk { kind := .other "(", start := 17, stop := 18, named := false } [],
            .mk { kind := .identifier, start := 18, stop := 19 } [],
            .mk { kind := .other ")", start := 19, stop := 20, named := false } []]]]]

/-- The inner call is found although the outer one has the same key. -/
theorem locators_agree_chainedCalls :
    Locatable chainedCalls ∧ (anchorSites chainedCalls).map (·.node.stop) = [17] ∧
      List.Forall₂ (fun s c => locate 100 chainedCalls.source (anchors chainedCalls.root)
          (topLevel chainedCalls.root) c = .ok (some s.node))
        (anchorSites chainedCalls) (classifyComponents chainedCalls) := by
  have hlocatable : Locatable chainedCalls := by decide +kernel
  have hlegible : allLegible chainedCalls.source (classifyReads chainedCalls) = true := by
    decide +kernel
  have hagree := locators_agree 100 chainedCalls numberedIds 0 hlocatable hlegible
  exact ⟨hlocatable, by decide +kernel, hagree.2.2.1⟩

/-- The text `() => { function A() { return <b />; } }`, with the outer function as the root. -/
def functionRoot : SourceTree where
  source := Bytes.ofText "() => \x7b function A() \x7b return <b />; \x7d \x7d"
  root :=
    .mk { kind := .arrowFunction, start := 0, stop := 40 } [
      .mk { kind := .other "formal_parameters", start := 0, stop := 2,
            field := some .parameters } [
        .mk { kind := .other "(", start := 0, stop := 1, named := false } [],
        .mk { kind := .other ")", start := 1, stop := 2, named := false } []],
      .mk { kind := .other "=>", start := 3, stop := 5, named := false } [],
      .mk { kind := .other "statement_block", start := 6, stop := 40,
            field := some .body } [
        .mk { kind := .functionDeclaration, start := 8, stop := 38 } [
          .mk { kind := .identifier, start := 17, stop := 18, field := some .name } [],
          .mk { kind := .other "formal_parameters", start := 18, stop := 20,
                field := some .parameters } [
            .mk { kind := .other "(", start := 18, stop := 19, named := false } [],
            .mk { kind := .other ")", start := 19, stop := 20, named := false } []],
          .mk { kind := .other "statement_block", start := 21, stop := 38,
                field := some .body } [
            .mk { kind := .returnStatement, start := 23, stop := 36 } [
              .mk { kind := .jsxSelfClosingElement, start := 30, stop := 35 } [
                .mk { kind := .other "<", start := 30, stop := 31, named := false } [],
                .mk { kind := .identifier, start := 31, stop := 32, field := some .name } [],
                .mk { kind := .other "/>", start := 33, stop := 35, named := false } []]]]]]]

/-- The file `A = () => </>`, whose element has no name. -/
def namelessElement : SourceTree where
  source := Bytes.ofText "A = () => </>"
  root :=
    .mk { kind := .program, start := 0, stop := 13 } [
      .mk { kind := .variableDeclarator, start := 0, stop := 13 } [
        .mk { kind := .identifier, start := 0, stop := 1, field := some .name } [],
        .mk { kind := .other "=", start := 2, stop := 3, named := false } [],
        .mk { kind := .arrowFunction, start := 4, stop := 13, field := some .value } [
          .mk { kind := .other "formal_parameters", start := 4, stop := 6,
                field := some .parameters } [
            .mk { kind := .other "(", start := 4, stop := 5, named := false } [],
            .mk { kind := .other ")", start := 5, stop := 6, named := false } []],
          .mk { kind := .other "=>", start := 7, stop := 9, named := false } [],
          .mk { kind := .jsxSelfClosingElement, start := 10, stop := 13, field := some .body } [
            .mk { kind := .other "<", start := 10, stop := 11, named := false } [],
            .mk { kind := .other "/>", start := 11, stop := 13, named := false } []]]]]

/-- A function that is the root does not make what is declared in it nested, and a run can be stopped
by something that is no locator. -/
theorem functionRoot_not_nested :
    (Locatable functionRoot ∧ allLegible functionRoot.source (classifyReads functionRoot) = true ∧
      ((anchorSites functionRoot).filter fun s => s.above.any (·.kind.isNestedScope)).map
        (fun s => componentName functionRoot.source s.node) = ["A"] ∧
      (planAll 100 functionRoot numberedIds (classifyComponents functionRoot)).map
        (fun g => (g.bound.length, g.nested.length)) = .ok (1, 0)) ∧
    Locatable namelessElement ∧
      allLegible namelessElement.source (classifyReads namelessElement) = true ∧
      (planAll 100 namelessElement numberedIds (classifyComponents namelessElement)).map
        (fun g => (g.bound.length, g.nested.length)) = .error .unnamedElement := by
  refine ⟨⟨?_, ?_, ?_, ?_⟩, ?_, ?_, ?_⟩ <;> decide +kernel

end JsxTagger.Instrument
