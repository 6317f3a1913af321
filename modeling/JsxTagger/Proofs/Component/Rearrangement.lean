import Mathlib.Algebra.Order.BigOperators.Group.List
import Mathlib.Algebra.Order.Group.Nat
import JsxTagger.Proofs.Component.Exports
import JsxTagger.Proofs.Component.Growth
import JsxTagger.Proofs.Component.Markup
import JsxTagger.Proofs.Component.Reads

/-!
# Files with the same statements

The statements at the top of a file are classified one by one (`found_program`), and a copy of a
statement elsewhere in the text, or in another text, says the same as the statement (`found_copy`,
`exportedNames_copy`). Statements in which no component is found can therefore be moved and repeated:
what is exported stays the same set of names, and only that set matters. The main statement is
`export_flags`.
-/

namespace JsxTagger.Classify

open Syntax

/-! ## Copies -/

/-- Nodes stand elsewhere in the text, and nothing is added to them. -/
def moving (start stop : Nat → Nat) : Graft where
  start := start
  stop := stop
  added _ := []
  place _ := 0
  wrapped _ := none

/-- A node is a copy of another one, elsewhere in the text or in another text: what starts at different
offsets still does, and every node in it has the text that it had. -/
def IsCopy (source source' : Bytes) (n n' : Node) : Prop :=
  ∃ start stop : Nat → Nat, n' = (moving start stop).graft n ∧
    (∀ m ∈ n.nodes, ∀ k ∈ n.nodes, start m.start = start k.start → m.start = k.start) ∧
    ∀ m ∈ n.nodes, ((moving start stop).graft m).text source' = m.text source

section

variable {source source' : Bytes} {n n' : Node} {start start' stop : Nat → Nat}

theorem leaves_moving : (moving start stop).Leaves n := ⟨rfl, rfl⟩

theorem child?_moving (f : Field) :
    ((moving start stop).graft n).child? f = (n.child? f).map (moving start stop).graft := by
  rw [Node.child?, leaves_moving.children, List.find?_map, Node.child?]
  simp

theorem mk_label_children (n : Node) : Node.mk n.label n.children = n := by
  cases n
  rfl

/-- Only the offsets at which nodes start matter. -/
theorem graft_moving_congr (h : ∀ m ∈ n.nodes, start m.start = start' m.start) :
    (moving start stop).graft n = (moving start' stop).graft n := by
  induction n using Node.childInduction with
  | step n ih =>
    have hchildren : n.children.map (moving start stop).graft = n.children.map (moving start' stop).graft :=
      List.map_congr_left fun c hc =>
        ih c hc fun m hm => h m (Node.mem_nodes_trans (Node.mem_nodes_of_mem_children hc) hm)
    have hlabel : ((moving start stop).graft n).label = ((moving start' stop).graft n).label := by
      rw [Graft.label_graft, Graft.label_graft]
      simp only [moving, h n (Node.mem_nodes_self n)]
    rw [← leaves_moving.children, ← leaves_moving.children] at hchildren
    calc (moving start stop).graft n
        = .mk ((moving start stop).graft n).label ((moving start stop).graft n).children :=
          (mk_label_children _).symm
      _ = .mk ((moving start' stop).graft n).label ((moving start' stop).graft n).children := by
          rw [hlabel, hchildren]
      _ = (moving start' stop).graft n := mk_label_children _

/-- A map that keeps some offsets apart does so on all offsets once it is changed elsewhere. -/
theorem exists_injective_of_apart {offsets : List Nat}
    (h : ∀ a ∈ offsets, ∀ b ∈ offsets, start a = start b → a = b) :
    ∃ start' : Nat → Nat, Function.Injective start' ∧ ∀ a ∈ offsets, start' a = start a := by
  -- everything else goes behind the images of the offsets
  let bound := (offsets.map start).sum + 1
  have hbound : ∀ a ∈ offsets, start a < bound := fun a ha =>
    Nat.lt_succ_of_le (List.le_sum_of_mem (List.mem_map_of_mem ha))
  refine ⟨fun a => if a ∈ offsets then start a else bound + a, fun a b hab => ?_, fun a ha => if_pos ha⟩
  by_cases ha : a ∈ offsets <;> by_cases hb : b ∈ offsets <;> simp only [ha, hb, if_true, if_false] at hab
  · exact h a ha b hb hab
  · have := hbound a ha
    omega
  · have := hbound b hb
    omega
  · omega

/-- A copy is a tree that has grown by nothing. -/
theorem grows_moving (hstart : Function.Injective start)
    (htext : ∀ m ∈ n.nodes, ((moving start stop).graft m).text source' = m.text source) :
    Grows (moving start stop) source source' n where
  start := hstart
  added _ _ h := absurd rfl h
  inert _ _ _ h := absurd h List.not_mem_nil
  wrapped _ _ _ h := by cases h
  texts m hm c hc _ := .inl (htext c (Node.mem_nodes_trans hm (Node.mem_nodes_of_mem_children hc)))
  names m hm _ k hk := htext k (Node.mem_nodes_trans hm (mem_nodes_of_mem_nameReads hk))

theorem IsCopy.exists_grows (h : IsCopy source source' n n') :
    ∃ start stop : Nat → Nat, n' = (moving start stop).graft n ∧
      Grows (moving start stop) source source' n ∧
      ∀ m ∈ n.nodes, ((moving start stop).graft m).text source' = m.text source := by
  obtain ⟨start, stop, rfl, hstart, htext⟩ := h
  have hapart : ∀ a ∈ n.nodes.map (·.start), ∀ b ∈ n.nodes.map (·.start), start a = start b → a = b := by
    simpa only [List.forall_mem_map] using hstart
  obtain ⟨start', hinjective, hsame⟩ := exists_injective_of_apart hapart
  have hgraft : ∀ m ∈ n.nodes, (moving start stop).graft m = (moving start' stop).graft m := fun m hm =>
    graft_moving_congr fun k hk => (hsame _ (List.mem_map_of_mem (Node.mem_nodes_trans hm hk))).symm
  have htext' : ∀ m ∈ n.nodes, ((moving start' stop).graft m).text source' = m.text source := fun m hm => by
    rw [← hgraft m hm, htext m hm]
  exact ⟨start', stop, hgraft n (Node.mem_nodes_self n), grows_moving hinjective htext', htext'⟩

theorem textOf_moving (htext : ∀ m ∈ n.nodes, ((moving start stop).graft m).text source' = m.text source)
    (f : Field) :
    textOf source' (((moving start stop).graft n).child? f) = textOf source (n.child? f) := by
  rw [child?_moving]
  cases hc : n.child? f with
  | none => rfl
  | some c => exact htext c (Node.mem_nodes_of_child? hc)

end

/-! ## What a copy says -/

section

variable {source source' : Bytes} {n n' : Node}

/-- In a copy the same components are found. -/
theorem found_copy (h : IsCopy source source' n n') : found source' n' = found source n := by
  obtain ⟨start, stop, rfl, hgrows, -⟩ := h.exists_grows
  refine found_congr (fun source s hs => ?_) hgrows.sites_graft fun s hs => hgrows.alike_site hs
  simpa using Grows.isSome_describe_of_isInert (by simpa using hs)

/-- A copy exports the same names. -/
theorem exportedNames_copy (h : IsCopy source source' n n') :
    exportedNames source' n' = exportedNames source n := by
  obtain ⟨start, stop, rfl, -, htext⟩ := h.exists_grows
  have hnested : ∀ m ∈ n.nodes, ∀ k ∈ m.nodes,
      ((moving start stop).graft k).text source' = k.text source :=
    fun m hm k hk => htext k (Node.mem_nodes_trans hm hk)
  have hchild : ∀ m ∈ n.nodes, ∀ c ∈ m.namedChildren, c ∈ n.nodes := fun m hm c hc =>
    Node.mem_nodes_trans hm (Node.mem_nodes_of_mem_children (Node.mem_namedChildren.mp hc).1)
  have hidentifier : ∀ m ∈ n.nodes, ∀ f, identifierText? source' (((moving start stop).graft m).child? f) =
      identifierText? source (m.child? f) := by
    intro m hm f
    rw [child?_moving]
    cases hc : m.child? f with
    | none => rfl
    | some c =>
      simp only [identifierText?, Option.map_some, Option.bind_some, Graft.kind_graft,
        hnested m hm c (Node.mem_nodes_of_child? hc)]
  refine exportedNames_congr ?_ (hidentifier n (Node.mem_nodes_self n) .value) ?_ ?_ ?_
  · rw [leaves_moving.children, List.any_map]
    simp only [Function.comp_def, Graft.kind_graft]
  · refine specifiedNames_congr (Graft.kind_graft (moving start stop)) ?_ (fun _ _ _ => leaves_moving.namedChildren) ?_
    · rw [leaves_moving.namedChildren, List.filter_map]
      simp only [Function.comp_def, Graft.kind_graft]
    · intro clause hclause c hc _
      have hmem := hchild clause (hchild n (Node.mem_nodes_self n) clause hclause) c hc
      rw [child?_moving, child?_moving, ← Option.map_or]
      cases hn : (c.child? .alternativeName).or (c.child? .name) with
      | none => rfl
      | some m =>
        have hm : m ∈ c.nodes := by
          rcases Option.or_eq_some_iff.mp hn with h | ⟨-, h⟩ <;> exact Node.mem_nodes_of_child? h
        exact hnested c hmem m hm
  · rw [child?_moving]
    cases hd : n.child? .declaration with
    | none => rfl
    | some declaration =>
      have hmem := Node.mem_nodes_of_child? hd
      refine congrArg some (declaredNames_congr (Graft.kind_graft _) (fun _ => leaves_moving.namedChildren)
        (fun _ _ => textOf_moving (hnested declaration hmem) .name) fun c hc _ => ?_)
      exact hidentifier c (hchild declaration hmem c hc) .name
  · rw [child?_moving, exportedNames.declaredName, exportedNames.declaredName]
    cases hd : n.child? .declaration with
    | none => rfl
    | some declaration => exact textOf_moving (hnested declaration (Node.mem_nodes_of_child? hd)) .name

end

/-! ## Statements one by one -/

section

variable {source : Bytes} {root : Node}

/-- The file around a statement does not matter. -/
theorem describe_lift (hroot : root.kind = .program) (s : Site) :
    describe source (s.lift [root]) = describe source s := by
  have henclosing : enclosing (s.lift [root]) = enclosing s ++ [root] := by
    rw [enclosing, Site.lift_above, List.dropWhile_append, ← enclosing]
    split
    · rename_i hempty
      rw [List.isEmpty_iff.mp hempty, List.nil_append, List.dropWhile_cons_of_neg (by simp [hroot])]
    · rfl
  have hdeclarator : bindingDeclarator? (s.lift [root]) = bindingDeclarator? s := by
    rw [bindingDeclarator?, bindingDeclarator?, henclosing, Site.lift_node]
    cases enclosing s with
    | nil => simp [hroot]
    | cons => rfl
  have hwrapped : isWrapped source (s.lift [root]) = isWrapped source s := by
    rw [isWrapped, isWrapped, henclosing]
    cases enclosing s with
    | nil => rfl
    | cons list above =>
      cases above with
      | nil => simp [hroot]
      | cons => rfl
  have hexported : isExportedValue (s.lift [root]) = isExportedValue s := by
    rw [isExportedValue, isExportedValue, Site.parent?, Site.parent?, Site.lift_above, Site.lift_node]
    cases s.above with
    | nil => simp [hroot]
    | cons => rfl
  rw [describe, describe, hdeclarator, hwrapped, hexported, Site.lift_node]

/-- The components of a file are those of its statements, one statement after the other. -/
theorem found_program (hroot : root.kind = .program) :
    found source root = root.namedChildren.flatMap (found source) := by
  have hself : describe source ⟨root, []⟩ = none := by simp [describe, hroot, isExportedValue, Site.parent?]
  rw [found, Node.sites_eq, List.filterMap_cons_none (by rw [hself]; rfl), List.filterMap_flatMap]
  refine List.flatMap_congr fun statement _ => ?_
  rw [List.filterMap_map, found]
  exact List.filterMap_congr fun s _ => by rw [Function.comp_apply, describe_lift hroot]

end

/-! ## Statements that are moved -/

/-- Every node of the one list has a copy in the other, and nothing else is in the other. -/
def SameUpToCopy (source source' : Bytes) (ns ns' : List Node) : Prop :=
  (∀ n ∈ ns, ∃ n' ∈ ns', IsCopy source source' n n') ∧ ∀ n' ∈ ns', ∃ n ∈ ns, IsCopy source source' n n'

/-- Some component is found in the statement. -/
def declaresComponent (source : Bytes) (statement : Node) : Bool := !(found source statement).isEmpty

/-- Two files have the same statements, in whatever order and however often. -/
structure SameStatements (tree tree' : SourceTree) : Prop where
  root : tree.root.kind = .program
  root' : tree'.root.kind = .program
  statements : SameUpToCopy tree.source tree'.source tree.root.namedChildren tree'.root.namedChildren

/-- Two files have the same export statements, in whatever order and however often, and their statements
in which components are found correspond to each other one by one. -/
structure Rearranged (tree tree' : SourceTree) : Prop where
  root : tree.root.kind = .program
  root' : tree'.root.kind = .program
  exports : SameUpToCopy tree.source tree'.source (exportStatements tree.root) (exportStatements tree'.root)
  declaring : List.Forall₂ (IsCopy tree.source tree'.source)
    (tree.root.namedChildren.filter (declaresComponent tree.source))
    (tree'.root.namedChildren.filter (declaresComponent tree'.source))

section

variable {source source' : Bytes} {ns ns' : List Node}

/-- What is made of lists that are the same up to copies is made of the same elements. -/
theorem SameUpToCopy.mem_flatMap_iff {α : Type} (h : SameUpToCopy source source' ns ns')
    {f : Bytes → Node → List α} (hf : ∀ {n n'}, IsCopy source source' n n' → f source' n' = f source n)
    (a : α) : a ∈ ns'.flatMap (f source') ↔ a ∈ ns.flatMap (f source) := by
  rw [List.mem_flatMap, List.mem_flatMap]
  constructor
  · rintro ⟨n', hn', ha⟩
    obtain ⟨n, hn, hcopy⟩ := h.2 n' hn'
    exact ⟨n, hn, hf hcopy ▸ ha⟩
  · rintro ⟨n, hn, ha⟩
    obtain ⟨n', hn', hcopy⟩ := h.1 n hn
    exact ⟨n', hn', (hf hcopy).symm ▸ ha⟩

theorem flatMap_found_copies (h : List.Forall₂ (IsCopy source source') ns ns') :
    ns'.flatMap (found source') = ns.flatMap (found source) := by
  induction h with
  | nil => rfl
  | cons hcopy _ ih => rw [List.flatMap_cons, List.flatMap_cons, found_copy hcopy, ih]

/-- Statements in which no component is found can be left out. -/
theorem flatMap_found_filter (ns : List Node) :
    (ns.filter (declaresComponent source)).flatMap (found source) = ns.flatMap (found source) := by
  induction ns with
  | nil => rfl
  | cons n ns ih =>
    rw [List.filter_cons, List.flatMap_cons, ← ih]
    split
    · rw [List.flatMap_cons]
    · rename_i hnone
      have hempty : found source n = [] := by simpa [declaresComponent] using hnone
      rw [hempty, List.nil_append]

end

section

variable {tree tree' : SourceTree}

theorem SameStatements.exports (h : SameStatements tree tree') :
    SameUpToCopy tree.source tree'.source (exportStatements tree.root) (exportStatements tree'.root) := by
  have hkind : ∀ {n n'}, IsCopy tree.source tree'.source n n' → n'.kind = n.kind := by
    rintro n _ ⟨start, stop, rfl, -⟩
    exact Graft.kind_graft _ n
  simp only [SameUpToCopy, exportStatements, List.mem_filter]
  constructor
  · rintro n ⟨hn, hexport⟩
    obtain ⟨n', hn', hcopy⟩ := h.statements.1 n hn
    exact ⟨n', ⟨hn', by rwa [hkind hcopy]⟩, hcopy⟩
  · rintro n' ⟨hn', hexport⟩
    obtain ⟨n, hn, hcopy⟩ := h.statements.2 n' hn'
    exact ⟨n, ⟨hn, by rwa [← hkind hcopy]⟩, hcopy⟩

/-- Files with the same export statements export the same names. -/
theorem flagged_exports (h : SameUpToCopy tree.source tree'.source (exportStatements tree.root)
    (exportStatements tree'.root)) :
    flagged (fileExports tree'.source tree'.root) = flagged (fileExports tree.source tree.root) :=
  funext fun c => flagged_congr (h.mem_flatMap_iff (f := exportedNames) exportedNames_copy) c

/-- Export statements that declare nothing can be moved and repeated. -/
theorem Rearranged.classifyComponents_eq (h : Rearranged tree tree') :
    (classifyComponents tree').map unplaced = (classifyComponents tree).map unplaced := by
  rw [classifyComponents_unplaced, classifyComponents_unplaced, flagged_exports h.exports,
    found_program h.root', found_program h.root, ← flatMap_found_filter tree'.root.namedChildren, flatMap_found_copies h.declaring, flatMap_found_filter]

/-- When any statements are moved and repeated, the components with their flags remain the same. -/
theorem SameStatements.mem_classifyComponents (h : SameStatements tree tree') (c : Component) :
    c ∈ (classifyComponents tree').map unplaced ↔ c ∈ (classifyComponents tree).map unplaced := by
  rw [classifyComponents_unplaced, classifyComponents_unplaced, flagged_exports h.exports,
    found_program h.root', found_program h.root, List.mem_map, List.mem_map]
  simp only [h.statements.mem_flatMap_iff (f := found) found_copy]

end

/-- Export flags are what the export statements at the top of a file say (`ExportedAs`), and nothing else
about a component depends on them. Where these statements stand does not matter: moving and repeating
those in which no component is found changes no component, and moving and repeating any statements
leaves the same components with the same flags. -/
theorem export_flags (tree tree' : SourceTree) :
    List.Forall₂ (ExportedAs tree) (declaringSites tree) (classifyComponents tree) ∧
      (Rearranged tree tree' →
        (classifyComponents tree').map unplaced = (classifyComponents tree).map unplaced) ∧
      (SameStatements tree tree' → ∀ c,
        c ∈ (classifyComponents tree').map unplaced ↔ c ∈ (classifyComponents tree).map unplaced) :=
  ⟨classifyComponents_exportedAs tree, Rearranged.classifyComponents_eq,
    SameStatements.mem_classifyComponents⟩

/-! ## Three files -/

/-- `function A() { return <b />; }` at an offset. -/
def functionAt (o : Nat) : Node :=
  .mk { kind := .functionDeclaration, start := o, stop := o + 30 } [
    .mk { kind := .functionLiteral, start := o, stop := o + 8, named := false } [],
    .mk { kind := .identifier, start := o + 9, stop := o + 10, field := some .name } [],
    .mk { kind := .other "formal_parameters", start := o + 10, stop := o + 12,
          field := some .parameters } [
      .mk { kind := .other "(", start := o + 10, stop := o + 11, named := false } [],
      .mk { kind := .other ")", start := o + 11, stop := o + 12, named := false } []],
    .mk { kind := .other "statement_block", start := o + 13, stop := o + 30, field := some .body } [
      .mk { kind := .other "\x7b", start := o + 13, stop := o + 14, named := false } [],
      .mk { kind := .returnStatement, start := o + 15, stop := o + 28 } [
        .mk { kind := .other "return", start := o + 15, stop := o + 21, named := false } [],
        markupAt (o + 22),
        .mk { kind := .other ";", start := o + 27, stop := o + 28, named := false } []],
      .mk { kind := .other "\x7d", start := o + 29, stop := o + 30, named := false } []]]

/-- `export { A };` at an offset. -/
def listAt (o : Nat) : Node :=
  .mk { kind := .exportStatement, start := o, stop := o + 13 } [
    .mk { kind := .other "export", start := o, stop := o + 6, named := false } [],
    .mk { kind := .exportClause, start := o + 7, stop := o + 12 } [
      .mk { kind := .other "\x7b", start := o + 7, stop := o + 8, named := false } [],
      .mk { kind := .exportSpecifier, start := o + 9, stop := o + 10 } [
        .mk { kind := .identifier, start := o + 9, stop := o + 10, field := some .name } []],
      .mk { kind := .other "\x7d", start := o + 11, stop := o + 12, named := false } []],
    .mk { kind := .other ";", start := o + 12, stop := o + 13, named := false } []]

/-- The file `export { A }; function A() { return <b />; }`. -/
def listedFirst : SourceTree where
  source := Bytes.ofText "export \x7b A \x7d; function A() \x7b return <b />; \x7d"
  root := .mk { kind := .program, start := 0, stop := 44 } [listAt 0, functionAt 14]

/-- The file `function A() { return <b />; } export { A }; export { A };`. -/
def listedTwice : SourceTree where
  source := Bytes.ofText "function A() \x7b return <b />; \x7d export \x7b A \x7d; export \x7b A \x7d;"
  root := .mk { kind := .program, start := 0, stop := 58 } [functionAt 0, listAt 31, listAt 45]

/-- The list of exports is moved behind the function, and repeated. -/
theorem rearranged_listed : Rearranged listedFirst listedTwice where
  root := rfl
  root' := rfl
  exports := by
    have hcopy : IsCopy listedFirst.source listedTwice.source (listAt 0) (listAt 31) :=
      ⟨(· + 31), (· + 31), rfl, by decide +kernel, by decide +kernel⟩
    have hcopy' : IsCopy listedFirst.source listedTwice.source (listAt 0) (listAt 45) :=
      ⟨(· + 45), (· + 45), rfl, by decide +kernel, by decide +kernel⟩
    change SameUpToCopy _ _ [listAt 0] [listAt 31, listAt 45]
    simp [SameUpToCopy, hcopy, hcopy']
  declaring := by
    have hcopy : IsCopy listedFirst.source listedTwice.source (functionAt 14) (functionAt 0) :=
      ⟨(· - 14), (· - 14), rfl, by decide +kernel, by decide +kernel⟩
    have hfirst : [listAt 0, functionAt 14].filter (declaresComponent listedFirst.source) =
        [functionAt 14] := by
      have h : [listAt 0, functionAt 14].map (declaresComponent listedFirst.source) = [false, true] := by
        decide +kernel
      simp_all
    have htwice : [functionAt 0, listAt 31, listAt 45].filter (declaresComponent listedTwice.source) =
        [functionAt 0] := by
      have h : [functionAt 0, listAt 31, listAt 45].map (declaresComponent listedTwice.source) =
          [true, false, false] := by decide +kernel
      simp_all
    change List.Forall₂ _ ([listAt 0, functionAt 14].filter _)
      ([functionAt 0, listAt 31, listAt 45].filter _)
    rw [hfirst, htwice]
    exact .cons hcopy .nil

/-- Both files hold the same component, and it is a named export. -/
theorem export_flags_listed :
    Rearranged listedFirst listedTwice ∧
      (classifyComponents listedTwice).map unplaced = (classifyComponents listedFirst).map unplaced ∧
      (classifyComponents listedFirst).map (fun c =>
        (c.name.isText "A", c.isNamedExport, c.isDefaultExport)) = [(true, true, false)] :=
  ⟨rearranged_listed, (export_flags listedFirst listedTwice).2.1 rearranged_listed, by decide +kernel⟩

/-- The statement `export default A function B() { return <b />; }`, which no parser makes: it has a value
and a declaration. -/
def besideValue : SourceTree where
  source := Bytes.ofText "export default A function B() \x7b return <b />; \x7d"
  root :=
    .mk { kind := .program, start := 0, stop := 47 } [
      .mk { kind := .exportStatement, start := 0, stop := 47 } [
        .mk { kind := .other "export", start := 0, stop := 6, named := false } [],
        .mk { kind := .defaultKeyword, start := 7, stop := 14, named := false } [],
        .mk { kind := .identifier, start := 15, stop := 16, field := some .value } [],
        .mk { kind := .functionDeclaration, start := 17, stop := 47, field := some .declaration } [
          .mk { kind := .functionLiteral, start := 17, stop := 25, named := false } [],
          .mk { kind := .identifier, start := 26, stop := 27, field := some .name } [],
          .mk { kind := .other "formal_parameters", start := 27, stop := 29,
                field := some .parameters } [
            .mk { kind := .other "(", start := 27, stop := 28, named := false } [],
            .mk { kind := .other ")", start := 28, stop := 29, named := false } []],
          .mk { kind := .other "statement_block", start := 30, stop := 47, field := some .body } [
            .mk { kind := .other "\x7b", start := 30, stop := 31, named := false } [],
            .mk { kind := .returnStatement, start := 32, stop := 45 } [
              .mk { kind := .other "return", start := 32, stop := 38, named := false } [],
              markupAt 39,
              .mk { kind := .other ";", start := 44, stop := 45, named := false } []],
            .mk { kind := .other "\x7d", start := 46, stop := 47, named := false } []]]]]

/-- The statement `export memo(A)`, which no parser makes: its value is an empty node in front of the call. -/
def emptyValue : SourceTree where
  source := Bytes.ofText "export memo(A)"
  root :=
    .mk { kind := .program, start := 0, stop := 14 } [
      .mk { kind := .exportStatement, start := 0, stop := 14 } [
        .mk { kind := .other "export", start := 0, stop := 6, named := false } [],
        .mk { kind := .other "empty", start := 7, stop := 7, field := some .value } [],
        .mk { kind := .callExpression, start := 7, stop := 14 } [
          .mk { kind := .identifier, start := 7, stop := 11, field := some .function } [],
          .mk { kind := .arguments, start := 11, stop := 14, field := some .arguments } [
            .mk { kind := .other "(", start := 11, stop := 12, named := false } [],
            .mk { kind := .identifier, start := 12, stop := 13 } [],
            .mk { kind := .other ")", start := 13, stop := 14, named := false } []]]]]

/-- The declaration of an `export default` is no default export if a name is the value of the statement,
and an expression that starts where the value starts is one although it is not the value. -/
theorem export_flags_beside_value :
    (∃ statement ∈ exportStatements besideValue.root, IsDefault statement ∧
        ∃ declaration n, statement.child? .declaration = some declaration ∧
          declaration.child? .name = some n ∧ n.text besideValue.source = "B" ∧
          ∃ c ∈ classifyComponents besideValue, c.name.isText "B" = true ∧ c.isDefaultExport = false) ∧
      (∃ c ∈ classifyComponents emptyValue, c.isDefaultExport = true) ∧
      (∀ statement ∈ exportStatements emptyValue.root, ¬ IsDefault statement) ∧
      ∀ s ∈ declaringSites emptyValue, ∀ statement ∈ s.above, ∀ value,
        statement.child? .value = some value → value ≠ s.node := by
  refine ⟨⟨_, .head _, ?_, _, _, rfl, rfl, ?_⟩, by decide +kernel, fun statement hstatement hdefault => ?_,
    fun s hs statement hstatement value hvalue heq => ?_⟩
  · exact any_defaultKeyword_iff.mp (by decide +kernel)
  · decide +kernel
  · have hnone : ∀ statement ∈ exportStatements emptyValue.root,
        statement.children.any (·.kind == .defaultKeyword) = false := by decide +kernel
    exact absurd (any_defaultKeyword_iff.mpr hdefault) (by simp [hnone statement hstatement])
  · have hkinds : ∀ s ∈ declaringSites emptyValue, ∀ statement ∈ s.above,
        ∀ value ∈ statement.child? .value, value.kind ≠ s.node.kind := by decide +kernel
    exact hkinds s hs statement hstatement value hvalue (congrArg Node.kind heq)

end JsxTagger.Classify
