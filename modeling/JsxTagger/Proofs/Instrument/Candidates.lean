import JsxTagger.Proofs.Instrument.Ownership

/-!
# Declarations that are looked for by name

Without a locator a component is looked for among all anchors, those at the top level first. Anchors
are held in a table, one for each key, and an anchor with the key of an earlier one takes its place. So
the order of the table is that of the text only where keys are not shared.

Functions, classes and variables that are declared at different places have different keys
(`Distinct`). Then the table lists them in the order of the text (`filter_anchors`), they count as top
level exactly if no function or class body encloses them (`Distinct.isTopLevel_eq`), and the search
comes down to two rules (`Distinct.locate_by_name`): a declaration at the top level wins, and among
equals the first one in the text.
-/

namespace JsxTagger.Instrument

open Classify Syntax

variable {room : Nat}

/-! ## Searches that nothing stops -/

theorem search_of_no_obstacle {α β : Type} {obstacle : α → Option InstrumentError}
    {ask : α → Option β} {as : List α} (h : ∀ a ∈ as, obstacle a = none) :
    search obstacle ask as = .ok (as.findSome? ask) := by
  induction as with
  | nil => rfl
  | cons a as ih =>
    rw [List.forall_mem_cons] at h
    rw [search, List.findSome?_cons, h.1, ih h.2]
    cases ask a <;> rfl

theorem search_eq_error_of_mem {α β : Type} {obstacle : α → Option InstrumentError}
    {ask : α → Option β} {as : List α} {a : α} {e : InstrumentError} (ha : a ∈ as)
    (he : obstacle a = some e) (h : ∀ b ∈ as, b = a ∨ obstacle b = none ∧ ask b = none) :
    search obstacle ask as = .error e := by
  induction as with
  | nil => cases ha
  | cons b as ih =>
    rw [List.forall_mem_cons] at h
    rw [search]
    rcases h.1 with hsame | ⟨hobstacle, hask⟩
    · rw [hsame, he]
    · rw [hobstacle, hask]
      refine ih ((List.mem_cons.mp ha).resolve_left fun hsame => ?_) h.2
      rw [← hsame, he] at hobstacle
      cases hobstacle

theorem findSome?_ite {α : Type} (p : α → Bool) (as : List α) :
    as.findSome? (fun a => if p a then some a else none) = as.find? p := by
  induction as with
  | nil => rfl
  | cons a as ih =>
    rw [List.findSome?_cons, List.find?_cons, ih]
    cases p a <;> rfl

/-- The first of the elements that satisfy `p` in a list sorted by `top`, those that satisfy it first. -/
theorem find?_sorted {α : Type} (p top : α → Bool) (as : List α) :
    (as.filter top ++ as.filter fun a => !top a).find? p =
      ((as.filter p).find? top).or (as.filter p).head? := by
  have hswap : ∀ q : α → Bool, (as.filter q).find? p = ((as.filter p).filter q).head? := by
    intro q
    rw [← List.head?_filter, List.filter_comm]
  rw [List.find?_append, hswap, hswap, ← List.head?_filter]
  cases hfound : ((as.filter p).filter top).head? with
  | some a => rfl
  | none =>
    -- none of them is at the top level, so the others are all of them
    have hnone : ∀ a ∈ as.filter p, top a = false := by
      intro a ha
      by_contra htop
      have hmem : a ∈ (as.filter p).filter top :=
        List.mem_filter.mpr ⟨ha, Bool.not_eq_false _ ▸ htop⟩
      rw [List.head?_eq_none_iff.mp hfound] at hmem
      cases hmem
    rw [List.filter_eq_self.mpr fun a ha => by rw [hnone a ha]; rfl]

/-! ## The table of anchors -/

theorem nodup_key_recordAnchor {as : List Node} (n : Node) (h : (as.map key).Nodup) :
    ((recordAnchor as n).map key).Nodup := by
  unfold recordAnchor
  split
  · have hsame : (as.map fun a => if key a == key n then n else a).map key = as.map key := by
      rw [List.map_map]
      refine List.map_congr_left fun a _ => ?_
      show key (if key a == key n then n else a) = key a
      split
      · rename_i heq
        exact (beq_iff_eq.mp heq).symm
      · rfl
    rw [hsame]
    exact h
  · rename_i hfresh
    rw [List.map_append, List.nodup_append]
    refine ⟨h, List.nodup_singleton _, ?_⟩
    rintro k hk k' hk' rfl
    obtain ⟨a, ha, rfl⟩ := List.mem_map.mp hk
    rw [List.map_singleton, List.mem_singleton] at hk'
    exact hfresh (List.any_eq_true.mpr ⟨a, ha, beq_iff_eq.mpr hk'⟩)

/-- No two anchors of the table have the same key. -/
theorem nodup_key_anchors (root : Node) : ((anchors root).map key).Nodup := by
  unfold anchors
  induction root.walk.filter (·.kind.isAnchor) using List.reverseRecOn with
  | nil => exact List.nodup_nil
  | append_singleton ns n ih =>
    rw [List.foldl_append]
    exact nodup_key_recordAnchor n ih

theorem find?_key_of_mem {as : List Node} {n : Node} (h : (as.map key).Nodup) (hn : n ∈ as) :
    as.find? (key · == key n) = some n := by
  cases hfound : as.find? (key · == key n) with
  | none => exact absurd (List.find?_eq_none.mp hfound n hn) (by simp)
  | some m =>
    have hkey : key m = key n := beq_iff_eq.mp (List.find?_some (p := (key · == key n)) hfound)
    rw [List.inj_on_of_nodup_map h (List.mem_of_find?_eq_some hfound) hn hkey]

theorem filter_map_of_unselected {α : Type} {p : α → Bool} {f : α → α} {as : List α}
    (h : ∀ a ∈ as, f a = a ∨ p a = false ∧ p (f a) = false) :
    (as.map f).filter p = as.filter p := by
  induction as with
  | nil => rfl
  | cons a as ih =>
    rw [List.forall_mem_cons] at h
    rw [List.map_cons, List.filter_cons, List.filter_cons, ih h.2]
    rcases h.1 with hsame | ⟨hno, hno'⟩
    · rw [hsame]
    · rw [hno, hno', if_neg Bool.false_ne_true, if_neg Bool.false_ne_true]

/-- Anchors of kinds whose keys are not shared stand in the table in the order of the text. -/
theorem filter_foldl_recordAnchor {q p : Node → Bool} {ns : List Node}
    (hkind : ∀ a b : Node, key a = key b → q a = q b) (hp : ∀ n, p n = true → q n = true)
    (hkeys : ((ns.filter q).map key).Nodup) :
    (ns.foldl recordAnchor []).filter p = ns.filter p := by
  induction ns using List.reverseRecOn with
  | nil => rfl
  | append_singleton ns n ih =>
    rw [List.filter_append, List.map_append, List.nodup_append] at hkeys
    obtain ⟨hkeys, -, hnew⟩ := hkeys
    rw [List.foldl_append, List.filter_append, ← ih hkeys, List.foldl_cons, List.foldl_nil]
    unfold recordAnchor
    split
    · rename_i hseen
      obtain ⟨a, ha, hkey⟩ := List.any_eq_true.mp hseen
      rw [beq_iff_eq] at hkey
      -- a shared key belongs to a kind that is not selected
      have hno : ∀ b, key b = key n → p b = false := by
        intro b hb
        by_contra hpb
        have hqn : q n = true := (hkind b n hb).symm.trans (hp b (Bool.not_eq_false _ ▸ hpb))
        have ha : a ∈ ns := (mem_of_mem_foldl_recordAnchor ha).resolve_left List.not_mem_nil
        have hqa : a ∈ ns.filter q := List.mem_filter.mpr ⟨ha, (hkind a n hkey).trans hqn⟩
        refine hnew _ (List.mem_map_of_mem hqa) (key n) ?_ hkey
        rw [List.filter_cons_of_pos hqn]
        exact List.mem_cons_self
      rw [filter_map_of_unselected, List.filter_cons_of_neg (by rw [hno n rfl]; exact Bool.false_ne_true),
        List.filter_nil, List.append_nil]
      intro a _
      by_cases ha : key a = key n
      · refine Or.inr ⟨hno a ha, ?_⟩
        rw [if_pos (beq_iff_eq.mpr ha)]
        exact hno n rfl
      · refine Or.inl ?_
        rw [if_neg (by rw [beq_iff_eq]; exact ha)]
    · rw [List.filter_append]

/-! ## Trees without shared keys -/

/-- Functions, classes and variables are declared at places of their own: no two declarations of one kind
start together. -/
def Distinct (tree : SourceTree) : Prop :=
  ((tree.root.walk.filter (·.kind.isNamedDeclaration)).map key).Nodup

instance (tree : SourceTree) : Decidable (Distinct tree) :=
  inferInstanceAs (Decidable (List.Nodup _))

theorem isAnchor_of_isNamedDeclaration {k : Kind} (h : k.isNamedDeclaration = true) :
    k.isAnchor = true := by
  cases k <;> first | rfl | cases h

/-- Whether no function and no class body encloses a site, the root aside. -/
def isOpen (s : Site) : Bool := s.above.dropLast.all fun n => !n.kind.isNestedScope

namespace Distinct

variable {tree : SourceTree} (h : Distinct tree)

include h

/-- Declarations stand in the table of anchors in the order of the text. -/
theorem filter_anchors {p : Node → Bool} (hp : ∀ n, p n = true → n.kind.isNamedDeclaration = true) :
    (anchors tree.root).filter p = tree.root.walk.filter p := by
  have hkind : ∀ a b : Node, key a = key b → a.kind.isNamedDeclaration = b.kind.isNamedDeclaration := by
    intro a b hkey
    rw [(Prod.mk.inj hkey).2]
  have hanchor : ∀ q : Node → Bool, (∀ n, q n = true → n.kind.isNamedDeclaration = true) →
      (tree.root.walk.filter (·.kind.isAnchor)).filter q = tree.root.walk.filter q := by
    intro q hq
    rw [List.filter_filter]
    refine List.filter_congr fun n _ => ?_
    cases hqn : q n with
    | false => rfl
    | true => rw [isAnchor_of_isNamedDeclaration (hq n hqn)]; rfl
  rw [anchors, filter_foldl_recordAnchor hkind hp, hanchor p hp]
  rw [hanchor _ fun n hn => hn]
  exact h

/-- A declaration is found by its key. -/
theorem find?_anchors_key {n : Node} (hn : n ∈ tree.root.walk)
    (hnamed : n.kind.isNamedDeclaration = true) :
    (anchors tree.root).find? (key · == key n) = some n := by
  refine find?_key_of_mem (nodup_key_anchors tree.root) ?_
  have hmem : n ∈ tree.root.walk.filter (·.kind.isNamedDeclaration) := List.mem_filter.mpr ⟨hn, hnamed⟩
  rw [← h.filter_anchors fun n hn => hn] at hmem
  exact (List.mem_filter.mp hmem).1

/-- A declaration is found by the locator of a component anchored at it. -/
theorem locate_of_describes (room : Nat) {n : Node} {c : Component} (hn : n ∈ tree.root.walk)
    (hnamed : n.kind.isNamedDeclaration = true) (hdescribes : Describes tree.source n c)
    (hlegible : allLegible tree.source (nameReads n) = true) :
    locate room tree.source (anchors tree.root) (topLevel tree.root) c = .ok (some n) := by
  rw [Instrument.locate_of_describes hdescribes (isAnchor_of_isNamedDeclaration hnamed),
    h.find?_anchors_key hn hnamed, Option.toList_some, search_of_no_obstacle]
  · rw [List.findSome?_singleton, if_pos (by simp)]
  · intro a ha
    rw [List.mem_singleton.mp ha, hlegible]
    rfl

/-- A declaration counts as top level exactly if no function or class body encloses it. -/
theorem isTopLevel_eq {s : Site} (hs : s ∈ tree.root.sites)
    (hnamed : s.node.kind.isNamedDeclaration = true) : isTopLevel tree s.node = isOpen s := by
  have hiff : isTopLevel tree s.node = true ↔
      ∀ n ∈ s.above.dropLast, n.kind.isNestedScope = false := by
    rw [isTopLevel_eq_true]
    constructor
    · rintro ⟨t, ht, hopen, -, hkey⟩
      rw [Distinct, ← Node.map_node_sites, List.filter_map, List.map_map] at h
      have hsame : t = s := by
        refine List.inj_on_of_nodup_map h (List.mem_filter.mpr ⟨ht, ?_⟩)
          (List.mem_filter.mpr ⟨hs, hnamed⟩) hkey
        show t.node.kind.isNamedDeclaration = true
        rw [(Prod.mk.inj hkey).2]
        exact hnamed
      rw [← hsame]
      exact hopen
    · intro hopen
      exact ⟨s, hs, hopen, isAnchor_of_isNamedDeclaration hnamed, rfl⟩
  rw [Bool.eq_iff_iff, hiff, isOpen, List.all_eq_true]
  simp

end Distinct

/-! ## The rules of the search -/

/-- What answers to a name is a declaration. -/
theorem isNamedDeclaration_of_answersTo {source : Bytes} {name : Json} {n : Node}
    (h : answersTo source name n = true) : n.kind.isNamedDeclaration = true :=
  (Bool.and_eq_true_iff.mp (Bool.and_eq_true_iff.mp h).1).1

/-- Nothing stops the search for the name of a component: the names of all declarations can be read, and
so can the wrappers of those that bear the name. -/
def Searchable (room : Nat) (tree : SourceTree) (c : Component) : Prop :=
  ∀ m ∈ tree.root.walk, answerObstacle? room tree.source c.name m = none

instance (tree : SourceTree) (c : Component) : Decidable (Searchable room tree c) :=
  inferInstanceAs (Decidable (∀ m ∈ tree.root.walk, _))

/-- Without a locator the first declaration that answers is found, those at the top level first. -/
theorem locate_without_locator {tree : SourceTree} {c : Component} (hlocator : c.hasLocator = false)
    (hsearch : Searchable room tree c) :
    locate room tree.source (anchors tree.root) (topLevel tree.root) c =
      .ok ((((anchors tree.root).filter (answersTo tree.source c.name)).find? (isTopLevel tree)).or
        ((anchors tree.root).filter (answersTo tree.source c.name)).head?) := by
  rw [locate, if_neg (by rw [hlocator]; exact Bool.false_ne_true)]
  rw [search_of_no_obstacle, findSome?_ite]
  · exact congrArg Except.ok (find?_sorted _ (isTopLevel tree) _)
  · intro n hn
    exact hsearch n (mem_walk_of_mem_anchors (mem_sorted.mp hn)).1

/-- What stops the search at the one declaration of a file stops it for good. -/
theorem locate_eq_error_of_only {tree : SourceTree} {c : Component} {n : Node} {e : InstrumentError}
    (hlocator : c.hasLocator = false) (hn : n ∈ anchors tree.root)
    (honly : ∀ m ∈ tree.root.walk, m.kind.isNamedDeclaration = true → m = n)
    (he : answerObstacle? room tree.source c.name n = some e) :
    locate room tree.source (anchors tree.root) (topLevel tree.root) c = .error e := by
  rw [locate, if_neg (by rw [hlocator]; exact Bool.false_ne_true)]
  refine search_eq_error_of_mem (mem_sorted.mpr hn) he fun m hm => ?_
  by_cases hnamed : m.kind.isNamedDeclaration = true
  · exact Or.inl (honly m (mem_walk_of_mem_anchors (mem_sorted.mp hm)).1 hnamed)
  · refine Or.inr ⟨?_, ?_⟩
    · rw [answerObstacle?, if_pos (by simpa using hnamed)]
    · rw [if_neg fun hanswers => hnamed (isNamedDeclaration_of_answersTo hanswers)]

/-- The sites of the declarations that answer to the name of a component, in the order of the text. -/
def answering (tree : SourceTree) (c : Component) : List Site :=
  tree.root.sites.filter fun s => answersTo tree.source c.name s.node

/-- Without a locator a declaration that no function or class body encloses is found if one answers,
and else any one that answers. Of several the first one in the text is found. -/
theorem Distinct.locate_by_name {tree : SourceTree} (h : Distinct tree) {c : Component}
    (hlocator : c.hasLocator = false) (hsearch : Searchable room tree c) :
    locate room tree.source (anchors tree.root) (topLevel tree.root) c =
      .ok ((((answering tree c).find? isOpen).or (answering tree c).head?).map (·.node)) := by
  have hanchors : (anchors tree.root).filter (answersTo tree.source c.name) =
      (answering tree c).map (·.node) := by
    rw [h.filter_anchors fun n => isNamedDeclaration_of_answersTo, ← Node.map_node_sites,
      List.filter_map]
    rfl
  have hopen : (answering tree c).find? (isTopLevel tree ∘ Site.node) =
      (answering tree c).find? isOpen := by
    rw [← List.head?_filter, ← List.head?_filter]
    refine congrArg List.head? (List.filter_congr fun s hs => ?_)
    obtain ⟨hs, hanswers⟩ := List.mem_filter.mp hs
    exact h.isTopLevel_eq hs (isNamedDeclaration_of_answersTo hanswers)
  rw [locate_without_locator hlocator hsearch, hanchors, List.find?_map, List.head?_map,
    ← Option.map_or, hopen]

end JsxTagger.Instrument
