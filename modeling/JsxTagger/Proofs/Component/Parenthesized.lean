import JsxTagger.Proofs.Component.Exports
import JsxTagger.Proofs.Component.Markup
import JsxTagger.Proofs.Syntax.Parentheses

/-!
# Parentheses and single nodes

`Encloses` says that parentheses are added to a tree and to its text. In trees of texts its conditions on
offsets are met (`Encloses.of_wellNested`). Questions about a single node have the same answers then: what
it is called, which wrapper it calls, what it extends and what it binds. Whether a function yields markup
has the same answer unless its body is a function that is put in parentheses (`Unnoticed`).
-/

namespace JsxTagger.Classify

open Syntax

/-! ## Parentheses that are added to a file -/

/-- A node stands directly in another one, parentheses aside. -/
inductive Directly (n : Node) : Node → Prop
  | child {c : Node} (hc : c ∈ n.children) : Directly n c
  | inside {p c : Node} (h : Directly n p) (hp : p.kind = .parenthesizedExpression)
      (hc : c ∈ p.children) : Directly n c

/-- The roles of names that classification reads. -/
def namingRoles : List (Kind × Field) :=
  [(.classDeclaration, .name), (.classExpression, .name), (.functionDeclaration, .name),
    (.exportSpecifier, .name), (.exportSpecifier, .alternativeName), (.memberExpression, .property)]

/-- The nodes whose text classification reads when it looks at a node: an identifier, the name of
something, and the name of an exported declaration. -/
inductive IsRead (n : Node) : Node → Prop
  | identifier (hkind : n.kind = .identifier) : IsRead n n
  | role {f : Field} {m : Node} (hrole : (n.kind, f) ∈ namingRoles) (hchild : n.child? f = some m) :
      IsRead n m
  | declared {d m : Node} (hkind : n.kind = .exportStatement) (hchild : n.child? .declaration = some d)
      (hname : d.child? .name = some m) : IsRead n m

/-- Parentheses are added to a tree and to its text. Names are written as before. The expressions in a
declarator start at the same place exactly if they did, and so do the parts of an export statement. -/
structure Encloses (b : Parentheses) (source source' : Bytes) (root : Node) : Prop where
  placed : b.Placed root
  texts : ∀ n ∈ root.nodes, ∀ m, IsRead n m → (b.kept m).text source' = m.text source
  starts : ∀ n ∈ root.nodes, n.kind = .variableDeclarator → ∀ m k, Directly n m → Directly n k →
    m.kind ≠ .parenthesizedExpression → k.kind ≠ .parenthesizedExpression →
      ((b.kept m).start = (b.kept k).start ↔ m.start = k.start)
  openings : ∀ n ∈ root.nodes, n.kind = .exportStatement → ∀ m ∈ n.children, ∀ k ∈ n.children,
    ((b.put m).start = (b.put k).start ↔ m.start = k.start)

/-- Something in the open in the node delivers markup. -/
def DeliversInOpen (n : Node) : Prop := ∃ m, InOpen n m ∧ Delivers m

/-- No parentheses are added where classification does not look through them: around the value of an
export statement that is a name or a component, and around the body of an arrow function that is itself a
function or a class with a `return` of markup inside. -/
structure Unnoticed (b : Parentheses) (source : Bytes) (root : Node) : Prop where
  values : ∀ n ∈ root.nodes, n.kind = .exportStatement → ∀ c, n.child? .value = some c →
    b.encloses c = true → c.kind ≠ .identifier ∧ ¬ Exportable source c
  bodies : ∀ n ∈ root.nodes, n.kind = .arrowFunction → ∀ c, n.child? .body = some c →
    b.encloses c = true → c.kind ∈ closedScopes → ¬ ∃ k ∈ c.namedChildren, DeliversInOpen k

theorem Directly.of_unwraps {n c m : Node} (h : Unwraps c m) (hc : Directly n c) : Directly n m := by
  induction h with
  | bare => exact hc
  | inside hkind hchild _ ih => exact ih (.inside hc hkind (Node.mem_children_of_firstNamedChild? hchild))

theorem Unwraps.kind_ne {n m : Node} (h : Unwraps n m) : m.kind ≠ .parenthesizedExpression := by
  induction h with
  | bare hkind => exact hkind
  | inside _ _ _ ih => exact ih

theorem Directly.of_mem_sites {root n m : Node} {parentheses above : List Node}
    (hs : (⟨m, parentheses ++ n :: above⟩ : Site) ∈ root.sites)
    (hparentheses : ∀ p ∈ parentheses, p.kind = .parenthesizedExpression) : Directly n m := by
  induction parentheses generalizing m with
  | nil => exact .child (Node.mem_namedChildren.mp (Node.mem_sites_cons.mp hs).2).1
  | cons p parentheses ih =>
    obtain ⟨hp, hm⟩ := Node.mem_sites_cons.mp hs
    obtain ⟨hkind, hrest⟩ := List.forall_mem_cons.mp hparentheses
    exact .inside (ih hp hrest) hkind (Node.mem_namedChildren.mp hm).1

/-! ## Trees of texts -/

section

variable {b : Parentheses} {source source' : Bytes} {root n m k : Node}

/-- What stands directly in a node is a child of it, or stands directly in a child that is parentheses. -/
theorem Directly.exists_child (h : Directly n m) :
    ∃ c ∈ n.children, m = c ∨ c.kind = .parenthesizedExpression ∧ Directly c m := by
  induction h with
  | child hc => exact ⟨_, hc, .inl rfl⟩
  | inside _ hp hm ih =>
    obtain ⟨c, hc, rfl | ⟨hkind, h⟩⟩ := ih
    · exact ⟨_, hc, .inr ⟨hp, .child hm⟩⟩
    · exact ⟨c, hc, .inr ⟨hkind, .inside h hp hm⟩⟩

theorem Directly.mem_nodes (h : Directly n m) : m ∈ n.nodes := by
  induction h with
  | child hc => exact Node.mem_nodes_of_mem_children hc
  | inside _ _ hm ih => exact Node.mem_nodes_trans ih (Node.mem_nodes_of_mem_children hm)

/-- Of two children of a node, one ends before the other starts, before and afterwards. -/
theorem children_apart {c d : Node} (h : n.WellNested) (h' : (b.kept n).WellNested) (hc : c ∈ n.children)
    (hd : d ∈ n.children) (hne : c ≠ d) :
    (c.stop ≤ d.start ∧ (b.put c).stop ≤ (b.put d).start) ∨
      (d.stop ≤ c.start ∧ (b.put d).stop ≤ (b.put c).start) := by
  let Apart (c d : Node) : Prop := (c.stop ≤ d.start ∧ (b.put c).stop ≤ (b.put d).start) ∨
    (d.stop ≤ c.start ∧ (b.put d).stop ≤ (b.put c).start)
  have hkept := h'.children
  rw [Parentheses.children_kept, List.pairwise_map] at hkept
  have hpairwise : n.children.Pairwise Apart := (h.children.and hkept).imp Or.inl
  have : Std.Symm Apart := ⟨fun _ _ => Or.symm⟩
  exact hpairwise.forall hc hd hne

/-- Of two expressions directly in a node, one ends before the other starts, before and afterwards. -/
theorem Directly.eq_or_apart (h : n.WellNested) (h' : (b.kept n).WellNested) (hm : Directly n m)
    (hk : Directly n k) (hmkind : m.kind ≠ .parenthesizedExpression)
    (hkkind : k.kind ≠ .parenthesizedExpression) :
    m = k ∨ (m.stop ≤ k.start ∧ (b.kept m).stop ≤ (b.kept k).start) ∨
      (k.stop ≤ m.start ∧ (b.kept k).stop ≤ (b.kept m).start) := by
  induction n using Node.childInduction with
  | step n ih =>
    obtain ⟨c, hc, hmc⟩ := hm.exists_child
    obtain ⟨d, hd, hkd⟩ := hk.exists_child
    have hcw := h.of_mem (Node.mem_nodes_of_mem_children hc)
    have hdw := h.of_mem (Node.mem_nodes_of_mem_children hd)
    have hput : ∀ e ∈ n.children, (b.put e).WellNested := fun e he =>
      h'.of_mem (Node.mem_nodes_of_mem_children (Parentheses.put_mem_children he))
    by_cases heq : c = d
    · subst heq
      rcases hmc with rfl | ⟨hkind, hmc⟩
      · rcases hkd with rfl | ⟨hkind, -⟩
        · exact .inl rfl
        · exact absurd hkind hmkind
      · rcases hkd with rfl | ⟨-, hkd⟩
        · exact absurd hkind hkkind
        · exact ih c hc hcw ((hput c hc).of_mem Parentheses.kept_mem_nodes_put) hmc hkd
    · -- what lies in different children is as far apart as they are
      have hin : ∀ {e x : Node}, x = e ∨ e.kind = .parenthesizedExpression ∧ Directly e x → x ∈ e.nodes := by
        rintro e x (rfl | ⟨-, hx⟩)
        · exact Node.mem_nodes_self _
        · exact hx.mem_nodes
      have hkeptin : ∀ {e x : Node}, x ∈ e.nodes → b.kept x ∈ (b.put e).nodes := fun hx =>
        Node.mem_nodes_trans Parentheses.kept_mem_nodes_put (Parentheses.kept_mem_nodes hx)
      have hmr := hcw.range (hin hmc)
      have hkr := hdw.range (hin hkd)
      have hmr' := (hput c hc).range (hkeptin (hin hmc))
      have hkr' := (hput d hd).range (hkeptin (hin hkd))
      rcases children_apart h h' hc hd heq with hapart | hapart
      · exact .inr (.inl (by omega))
      · exact .inr (.inr (by omega))

/-- In the trees of texts nodes are nested and not empty. There the conditions on offsets are met. -/
theorem Encloses.of_wellNested (hplaced : b.Placed root)
    (htexts : ∀ m ∈ root.nodes, m.kind = .identifier ∨
      m.label.field ∈ [some .name, some .alternativeName, some .property] →
        (b.kept m).text source' = m.text source)
    (h : root.WellNested) (h' : (b.kept root).WellNested)
    (hnonempty : ∀ m ∈ root.nodes, m.start < m.stop ∧ (b.kept m).start < (b.kept m).stop) :
    Encloses b source source' root where
  placed := hplaced
  texts n hn m hread := by
    have hrole : ∀ {f : Field} {d : Node}, d ∈ root.nodes → d.child? f = some m →
        some f ∈ [some Field.name, some Field.alternativeName, some Field.property] →
          (b.kept m).text source' = m.text source := by
      intro f d hd hchild hf
      have hfield := Node.field_of_child? hchild
      exact htexts m (Node.mem_nodes_trans hd (Node.mem_nodes_of_child? hchild)) (.inr (hfield ▸ hf))
    cases hread with
    | identifier hkind => exact htexts n hn (.inl hkind)
    | role hmem hchild =>
      have hroles : ∀ r ∈ namingRoles,
          some r.2 ∈ [some Field.name, some Field.alternativeName, some Field.property] := by decide
      exact hrole hn hchild (hroles _ hmem)
    | declared _ hchild hname =>
      exact hrole (Node.mem_nodes_trans hn (Node.mem_nodes_of_child? hchild)) hname (by simp)
  starts n hn _ m k hm hk hmkind hkkind := by
    have hmn := hnonempty m (Node.mem_nodes_trans hn hm.mem_nodes)
    have hkn := hnonempty k (Node.mem_nodes_trans hn hk.mem_nodes)
    rcases hm.eq_or_apart (h.of_mem hn) (h'.of_mem (Parentheses.kept_mem_nodes hn)) hk hmkind hkkind with
      rfl | hapart | hapart
    · simp
    · omega
    · omega
  openings n hn _ m hm k hk := by
    by_cases heq : m = k
    · simp [heq]
    · have hput : ∀ c ∈ n.children, (b.put c).start < (b.put c).stop := by
        intro c hc
        have hrange := ((h'.of_mem (Parentheses.kept_mem_nodes hn)).of_mem
          (Node.mem_nodes_of_mem_children (Parentheses.put_mem_children hc))).range
            Parentheses.kept_mem_nodes_put
        have := (hnonempty c (Node.mem_nodes_trans hn (Node.mem_nodes_of_mem_children hc))).2
        omega
      have hmn := (hnonempty m (Node.mem_nodes_trans hn (Node.mem_nodes_of_mem_children hm))).1
      have hkn := (hnonempty k (Node.mem_nodes_trans hn (Node.mem_nodes_of_mem_children hk))).1
      have hmp := hput m hm
      have hkp := hput k hk
      rcases children_apart (h.of_mem hn) (h'.of_mem (Parentheses.kept_mem_nodes hn)) hm hk heq with
        hapart | hapart <;> omega

end

/-! ## Markup -/

section

variable {b : Parentheses} {n c : Node}

theorem wraps_put (h : b.Placed n) (hc : c ∈ n.children) : Wraps (b.put c) ↔ Wraps c := by
  simp only [Wraps, ← unwrapped?_eq_some_iff, h.unwrapped?_put hc, Option.map_eq_some_iff]
  constructor
  · rintro ⟨_, ⟨m, hm, rfl⟩, hmarkup⟩
    exact ⟨m, hm, by rwa [Node.isMarkup, Parentheses.kind_kept] at hmarkup⟩
  · rintro ⟨m, hm, hmarkup⟩
    exact ⟨_, ⟨m, hm, rfl⟩, by rwa [Node.isMarkup, Parentheses.kind_kept]⟩

theorem delivers_kept (h : b.Placed n) : Delivers (b.kept n) ↔ Delivers n := by
  constructor
  · intro hd
    cases hd with
    | returned hkind hchild hw =>
      rw [h.firstNamedChild?_kept, Option.map_eq_some_iff] at hchild
      obtain ⟨e, he, rfl⟩ := hchild
      rw [Parentheses.kind_kept] at hkind
      exact .returned hkind he ((wraps_put h (Node.mem_children_of_firstNamedChild? he)).mp hw)
    | arrow hkind hchild hw =>
      rw [Parentheses.child?_kept, Option.map_eq_some_iff] at hchild
      obtain ⟨e, he, rfl⟩ := hchild
      rw [Parentheses.kind_kept] at hkind
      exact .arrow hkind he ((wraps_put h (Node.mem_children_of_child? he)).mp hw)
  · intro hd
    cases hd with
    | returned hkind hchild hw =>
      refine .returned (by rwa [Parentheses.kind_kept]) (by rw [h.firstNamedChild?_kept, hchild]; rfl) ?_
      exact (wraps_put h (Node.mem_children_of_firstNamedChild? hchild)).mpr hw
    | arrow hkind hchild hw =>
      refine .arrow (by rwa [Parentheses.kind_kept]) (by rw [Parentheses.child?_kept, hchild]; rfl) ?_
      exact (wraps_put h (Node.mem_children_of_child? hchild)).mpr hw

theorem deliversInOpen_put_of_kept (hc : b.encloses c = true → Parentheses.Enclosable c) :
    DeliversInOpen (b.put c) ↔ DeliversInOpen (b.kept c) := by
  cases hb : b.encloses c with
  | false => rw [Parentheses.put_of_not_encloses hb]
  | true =>
    have hnamed : (b.kept c).named = true := by
      rw [Parentheses.named_kept]
      exact (hc hb).named
    have hopen : (b.pair c (b.kept c)).kind ∉ closedScopes := by simp [closedScopes]
    have hpair : ¬ Delivers (b.pair c (b.kept c)) := by
      rintro (⟨hkind, -, -⟩ | ⟨hkind, -, -⟩) <;> cases hkind
    rw [Parentheses.put_of_encloses hb, DeliversInOpen, exists_inOpen_iff hopen,
      Parentheses.namedChildren_pair hnamed]
    simp [hpair, DeliversInOpen]

/-- A search that starts at a node finds what delivers markup. It goes into the node even if this is a
closed scope. -/
def Searched (n : Node) : Prop := Delivers n ∨ ∃ c ∈ n.namedChildren, DeliversInOpen c

theorem searched_iff_deliversInOpen (hkind : n.kind ∉ closedScopes) : Searched n ↔ DeliversInOpen n :=
  (exists_inOpen_iff hkind).symm

theorem searched_kept_of_put (h : b.Placed n)
    (hput : ∀ c ∈ n.children, DeliversInOpen (b.put c) ↔ DeliversInOpen c) :
    Searched (b.kept n) ↔ Searched n := by
  rw [Searched, Searched, delivers_kept h, h.namedChildren_kept]
  simp only [List.mem_map, exists_exists_and_eq_and]
  exact or_congr_right (exists_congr fun c => and_congr_right fun hc =>
    hput c (Node.mem_namedChildren.mp hc).1)

theorem deliversInOpen_kept (h : b.Placed n) : DeliversInOpen (b.kept n) ↔ DeliversInOpen n := by
  induction n using Node.childInduction with
  | step n ih =>
    have hkept : (b.kept n).kind = n.kind := Parentheses.kind_kept
    by_cases hkind : n.kind ∈ closedScopes
    · simp [DeliversInOpen, not_inOpen hkind, not_inOpen (hkept.symm ▸ hkind)]
    · rw [← searched_iff_deliversInOpen (hkept.symm ▸ hkind), ← searched_iff_deliversInOpen hkind]
      exact searched_kept_of_put h fun c hc =>
        (deliversInOpen_put_of_kept (h.enclosable hc)).trans (ih c hc (h.of_mem_children hc))

theorem deliversInOpen_put (h : b.Placed n) (hc : c ∈ n.children) :
    DeliversInOpen (b.put c) ↔ DeliversInOpen c :=
  (deliversInOpen_put_of_kept (h.enclosable hc)).trans (deliversInOpen_kept (h.of_mem_children hc))

theorem searched_kept (h : b.Placed n) : Searched (b.kept n) ↔ Searched n :=
  searched_kept_of_put h fun _ hc => deliversInOpen_put h hc

end

/-! ## Questions about one node -/

namespace Encloses

variable {b : Parentheses} {source source' : Bytes} {root n c : Node}

theorem of_mem (h : Encloses b source source' root) (hn : n ∈ root.nodes) :
    Encloses b source source' n where
  placed := h.placed.of_mem hn
  texts m hm := h.texts m (Node.mem_nodes_trans hn hm)
  starts m hm := h.starts m (Node.mem_nodes_trans hn hm)
  openings m hm := h.openings m (Node.mem_nodes_trans hn hm)

theorem of_mem_children (h : Encloses b source source' n) (hc : c ∈ n.children) :
    Encloses b source source' c :=
  h.of_mem (Node.mem_nodes_of_mem_children hc)

theorem text_identifier (h : Encloses b source source' n) (hkind : n.kind = .identifier) :
    (b.kept n).text source' = n.text source :=
  h.texts n (Node.mem_nodes_self n) n (.identifier hkind)

theorem not_mem_hosts_of_role {f : Field} (hrole : (n.kind, f) ∈ namingRoles) :
    n.kind ∉ Parentheses.hosts := by
  have hroles : ∀ r ∈ namingRoles, r.1 ∉ Parentheses.hosts := by decide
  exact hroles _ hrole

/-- A name is written as before. -/
theorem textOf_child? (h : Encloses b source source' n) {f : Field} (hrole : (n.kind, f) ∈ namingRoles) :
    textOf source' ((b.kept n).child? f) = textOf source (n.child? f) := by
  rw [h.placed.child?_kept_eq (not_mem_hosts_of_role hrole)]
  cases hc : n.child? f with
  | none => rfl
  | some c => exact h.texts n (Node.mem_nodes_self n) c (.role hrole hc)

/-- The name of something is the same identifier, or still none. -/
theorem identifierText?_name (h : Encloses b source source' n) :
    identifierText? source' ((b.kept n).child? .name) = identifierText? source (n.child? .name) := by
  rw [Parentheses.child?_kept]
  cases hc : n.child? .name with
  | none => rfl
  | some c =>
    simp only [identifierText?, Option.map_some, Option.bind_some, h.placed.put_name_eq hc,
      Parentheses.kind_kept]
    split
    · rename_i hkind
      rw [(h.of_mem_children (Node.mem_children_of_child? hc)).text_identifier hkind]
    · rfl

theorem calleeIs_kept (h : Encloses b source source' n) (object : String) (names : List String) :
    calleeIs source' (b.kept n) object names = calleeIs source n object names := by
  rw [calleeIs, calleeIs, Parentheses.kind_kept]
  by_cases hidentifier : n.kind = .identifier
  · rw [if_pos hidentifier, if_pos hidentifier, h.text_identifier hidentifier]
  · rw [if_neg hidentifier, if_neg hidentifier]
    by_cases hmember : n.kind = .memberExpression
    · have hrole : (n.kind, Field.property) ∈ namingRoles := by simp [hmember, namingRoles]
      rw [if_pos hmember, if_pos hmember, isMemberOf, isMemberOf, h.textOf_child? hrole,
        h.placed.child?_kept_eq (not_mem_hosts_of_role hrole)]
      cases ho : n.child? .object with
      | none => rfl
      | some o =>
        simp only [Option.map_some, Parentheses.kind_kept]
        by_cases hok : o.kind = .identifier
        · rw [(h.of_mem_children (Node.mem_children_of_child? ho)).text_identifier hok]
        · simp only [beq_eq_false_iff_ne.mpr hok, Bool.false_and]
    · rw [if_neg hmember, if_neg hmember]

/-- A call applies the same wrapper. -/
theorem wrapperName?_kept (h : Encloses b source source' n) (hcall : n.kind = .callExpression) :
    wrapperName? source' (b.kept n) = wrapperName? source n := by
  rw [wrapperName?, wrapperName?, h.placed.child?_kept_eq (by simp [hcall, Parentheses.hosts])]
  cases hc : n.child? .function with
  | none => rfl
  | some callee =>
    have hcallee := h.of_mem_children (Node.mem_children_of_child? hc)
    simp only [Option.map_some, hcallee.calleeIs_kept, Parentheses.kind_kept]
    split
    case isFalse => rfl
    case isTrue his =>
      by_cases hidentifier : callee.kind = .identifier
      · rw [if_pos hidentifier, if_pos hidentifier, hcallee.text_identifier hidentifier]
      · -- a callee that is no identifier is a member expression
        have hmember : callee.kind = .memberExpression := by
          rw [calleeIs, if_neg hidentifier] at his
          split at his
          · assumption
          · cases his
        rw [if_neg hidentifier, if_neg hidentifier,
          hcallee.textOf_child? (by simp [hmember, namingRoles])]

theorem extendsComponent_kept (h : Encloses b source source' n) (hclass : n.kind.isClass = true) :
    extendsComponent source' (b.kept n) = extendsComponent source n := by
  have hkind : n.kind ∉ Parentheses.hosts := fun hmem => by
    simp only [Parentheses.hosts, List.mem_cons, List.not_mem_nil, or_false] at hmem
    rcases hmem with hk | hk | hk | hk | hk | hk <;> rw [hk] at hclass <;> cases hclass
  rw [extendsComponent, extendsComponent, h.placed.namedChildren_kept_eq hkind, List.find?_map]
  simp only [Function.comp_def, Parentheses.kind_kept]
  cases hheritage : n.namedChildren.find? (·.kind == .classHeritage) with
  | none => rfl
  | some heritage =>
    have hmem := (Node.mem_namedChildren.mp (List.mem_of_find?_eq_some hheritage)).1
    have hh := h.of_mem_children hmem
    simp only [Option.map_some, hh.placed.firstNamedChild?_kept]
    cases hfirst : heritage.firstNamedChild? with
    | none => rfl
    | some first =>
      have hfmem := Node.mem_children_of_firstNamedChild? hfirst
      simp only [Option.map_some, Option.bind_some, hh.placed.unwrapped?_put hfmem]
      cases hbase : first.unwrapped? with
      | none => rfl
      | some base =>
        have hb := (hh.of_mem_children hfmem).of_mem (Node.mem_nodes_of_unwrapped? hbase)
        exact hb.calleeIs_kept _ _

theorem boundValue?_kept (h : Encloses b source source' n) :
    boundValue? (b.kept n) = (boundValue? n).map b.kept := by
  rw [boundValue?, boundValue?, Parentheses.child?_kept]
  cases hv : n.child? .value with
  | none => rfl
  | some v => exact h.placed.unwrapped?_put (Node.mem_children_of_child? hv)

/-- A declaration binds the same name. -/
theorem componentName_kept (h : Encloses b source source' n) :
    componentName source' (b.kept n) = componentName source n := by
  have hunbound : componentName.unbound (b.kept n) = componentName.unbound n := by
    have hvalue := h.boundValue?_kept
    rw [boundValue?, boundValue?] at hvalue
    rw [componentName.unbound, componentName.unbound, hvalue]
    cases (n.child? .value).bind Node.unwrapped? with
    | none => rfl
    | some value => simp
  rw [componentName, componentName, Parentheses.kind_kept, hunbound]
  cases hk : n.kind <;> try rfl
  case classDeclaration => rw [h.textOf_child? (by simp [hk, namingRoles])]
  case classExpression => rw [h.textOf_child? (by simp [hk, namingRoles])]
  case functionDeclaration => rw [h.textOf_child? (by simp [hk, namingRoles])]
  case variableDeclarator =>
    rw [Parentheses.child?_kept]
    cases hm : n.child? .name with
    | none => rfl
    | some m =>
      simp only [Option.map_some, h.placed.put_name_eq hm, Parentheses.kind_kept]
      split
      · rename_i hkind
        exact (h.of_mem_children (Node.mem_children_of_child? hm)).text_identifier hkind
      · rfl

end Encloses

/-! ## Questions about functions -/

namespace Unnoticed

variable {b : Parentheses} {source : Bytes} {root n : Node}

theorem of_mem (h : Unnoticed b source root) (hn : n ∈ root.nodes) : Unnoticed b source n where
  values m hm := h.values m (Node.mem_nodes_trans hn hm)
  bodies m hm := h.bodies m (Node.mem_nodes_trans hn hm)

/-- A function yields markup exactly if it did. -/
theorem returnsMarkup_kept (h : Unnoticed b source n) (hplaced : b.Placed n)
    (hfunction : n.kind = .functionDeclaration ∨ n.kind.isComponentFunction = true) :
    returnsMarkup (b.kept n) = returnsMarkup n := by
  cases hbody : n.child? .body with
  | none => simp [returnsMarkup, Parentheses.child?_kept, hbody]
  | some body =>
    have hmem := Node.mem_children_of_child? hbody
    have hbody' : (b.kept n).child? .body = some (b.put body) := by rw [Parentheses.child?_kept, hbody]; rfl
    have hsearch : Searched (b.put body) ↔ Searched body := by
      cases hb : b.encloses body with
      | false =>
        rw [Parentheses.put_of_not_encloses hb]
        exact searched_kept (hplaced.of_mem_children hmem)
      | true =>
        have hopen : (b.put body).kind ∉ closedScopes := by
          rw [Parentheses.put_of_encloses hb]
          simp [closedScopes]
        rw [searched_iff_deliversInOpen hopen, deliversInOpen_put hplaced hmem]
        by_cases hkind : body.kind ∈ closedScopes
        · -- parentheses around a closed scope keep the search out of it
          have harrow : n.kind = .arrowFunction := by
            cases hplaced.place hmem hb with
            | body hkind => exact hkind
            | _ hkind => rcases hfunction with hf | hf <;> rw [hkind] at hf <;> cases hf
          have hnone := h.bodies n (Node.mem_nodes_self n) harrow body hbody hb hkind
          have hclosed : ¬ DeliversInOpen body := by
            rintro ⟨m, hm, -⟩
            exact not_inOpen hkind hm
          have hdelivers : ¬ Delivers body := fun hd => by
            rw [← isClosedScope_iff, hd.isClosedScope] at hkind
            cases hkind
          simp [Searched, hclosed, hdelivers, hnone]
        · exact (searched_iff_deliversInOpen hkind).symm
    rw [Bool.eq_iff_iff, returnsMarkup_eq_true hbody', returnsMarkup_eq_true hbody, Parentheses.kind_kept,
      wraps_put hplaced hmem]
    exact or_congr_right hsearch

/-- A declarator binds a function that yields markup exactly if it did. -/
theorem bindsMarkup_kept (h : Unnoticed b source n) {source' : Bytes}
    (hencloses : Encloses b source source' n) : bindsMarkup (b.kept n) = bindsMarkup n := by
  rw [bindsMarkup, bindsMarkup, hencloses.boundValue?_kept]
  cases hv : boundValue? n with
  | none => rfl
  | some value =>
    obtain ⟨v, hchild, hu⟩ := Option.bind_eq_some_iff.mp hv
    have hmem := Node.mem_nodes_trans (Node.mem_nodes_of_child? hchild) (Node.mem_nodes_of_unwrapped? hu)
    rw [Option.map_some, Option.any_some, Option.any_some, Parentheses.kind_kept]
    by_cases hfunction : value.kind.isComponentFunction = true
    · rw [(h.of_mem hmem).returnsMarkup_kept (hencloses.of_mem hmem).placed (.inr hfunction)]
    · rw [Bool.eq_false_iff.mpr hfunction, Bool.false_and, Bool.false_and]

end Unnoticed

end JsxTagger.Classify
