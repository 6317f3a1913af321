import JsxTagger.Proofs.Component.Parenthesized

/-!
# Parentheses and classification

Parentheses around an expression say nothing, and classification finds the same components when they are
added (`classifyComponents_kept`), with two exceptions that `Unnoticed` rules out. The value of an
export statement is not looked for inside parentheses, so that `export default (() => <b />)` exports
nothing. And an arrow function whose body is another function is taken for one that yields markup if that
function does, unless parentheses stand in between.
-/

namespace JsxTagger.Classify

open Syntax

/-! ## Sites -/

/-- What was further up from a site without the parentheses directly around it, and what is above it now. -/
def furtherUp (b : Parentheses) : List Node → List Node
  | [] => []
  | p :: further => b.kept p :: b.above p further

theorem enclosing_kept (b : Parentheses) (s : Site) : enclosing (b.site s) = furtherUp b (enclosing s) := by
  obtain ⟨m, above⟩ := s
  simp only [enclosing, Parentheses.site]
  induction above generalizing m with
  | nil => rfl
  | cons p further ih =>
    have haround : ∀ q ∈ b.around m, (q.kind == .parenthesizedExpression) = true := by
      intro q hq
      rw [Parentheses.around] at hq
      split at hq
      · rw [List.mem_singleton.mp hq]
        rfl
      · cases hq
    rw [Parentheses.above, List.dropWhile_append_of_pos haround]
    by_cases hp : p.kind = .parenthesizedExpression
    · rw [List.dropWhile_cons_of_pos (by simp [hp]), List.dropWhile_cons_of_pos (by simp [hp])]
      exact ih p
    · rw [List.dropWhile_cons_of_neg (by simp [hp]), List.dropWhile_cons_of_neg (by simp [hp])]
      rfl

namespace Encloses

variable {b : Parentheses} {source source' : Bytes} {root : Node} {s : Site}

/-- A declarator binds the same node. -/
theorem bindingDeclarator?_site (h : Encloses b source source' root) (hs : s ∈ root.sites) :
    bindingDeclarator? (b.site s) = (bindingDeclarator? s).map b.kept := by
  rw [bindingDeclarator?, bindingDeclarator?, enclosing_kept]
  cases henclosing : enclosing s with
  | nil => rfl
  | cons p further =>
    have hmem : p ∈ root.nodes :=
      Node.mem_nodes_of_mem_above hs (mem_above_of_mem_enclosing (by simp [henclosing]))
    have hvalue := (h.of_mem hmem).boundValue?_kept
    rw [boundValue?, boundValue?] at hvalue
    simp only [furtherUp, List.head?_cons, Parentheses.kind_kept, hvalue]
    split
    case isFalse => rfl
    case isTrue hdeclarator =>
      cases hv : (p.child? .value).bind Node.unwrapped? with
      | none => rfl
      | some value =>
        have hdirectly : Directly p s.node := by
          obtain ⟨parentheses, habove, hkinds⟩ := outer?_eq_some (by rw [outer?, henclosing])
          obtain ⟨m, above⟩ := s
          cases habove
          exact .of_mem_sites hs hkinds
        obtain ⟨v, hchild, hu⟩ := Option.bind_eq_some_iff.mp hv
        have hunwraps := unwrapped?_eq_some_iff.mp hu
        have hbound : Directly p value :=
          .of_unwraps hunwraps (.child (Node.mem_children_of_child? hchild))
        have hkind : (b.site s).node.kind = s.node.kind := Parentheses.kind_kept
        have hsame : ((b.kept value).start == (b.site s).node.start && value.kind == s.node.kind) =
            (value.start == s.node.start && value.kind == s.node.kind) := by
          rw [Bool.eq_iff_iff]
          simp only [Bool.and_eq_true, beq_iff_eq]
          refine and_congr_left fun heq => ?_
          exact h.starts p hmem hdeclarator value s.node hbound hdirectly hunwraps.kind_ne
            (heq ▸ hunwraps.kind_ne)
        simp only [Option.map_some, Parentheses.kind_kept, hkind, hsame]
        split <;> rfl

/-- A call is an argument of a wrapper exactly if it was. -/
theorem isWrapped_site (h : Encloses b source source' root) (hs : s ∈ root.sites) :
    isWrapped source' (b.site s) = isWrapped source s := by
  rw [isWrapped, isWrapped, enclosing_kept]
  cases henclosing : enclosing s with
  | nil => rfl
  | cons list further =>
    cases further with
    | nil => rfl
    | cons outer further =>
      have hlist : (⟨list, outer :: further⟩ : Site) ∈ root.sites :=
        (mem_sites_of_outer? hs (by rw [outer?, henclosing])).1
      obtain ⟨houter, hchild⟩ := Node.mem_sites_cons.mp hlist
      have hmem := Node.mem_nodes_of_mem_sites houter
      rw [furtherUp, Parentheses.above]
      by_cases hcall : outer.kind = .callExpression
      · -- no parentheses are put around the arguments of a call
        have hbare : b.around list = [] := by
          have hput := (h.of_mem hmem).placed.place (Node.mem_namedChildren.mp hchild).1
          rw [Parentheses.around, if_neg fun hb => ?_]
          have hhost := (hput hb).mem_hosts
          simp [hcall, Parentheses.hosts] at hhost
        simp only [hbare, List.nil_append, Parentheses.kind_kept, (h.of_mem hmem).wrapperName?_kept hcall]
      · have hold : (outer.kind == Kind.callExpression) = false := beq_eq_false_iff_ne.mpr hcall
        cases hb : b.encloses list with
        | false => simp [Parentheses.around, hb, hold]
        | true => simp [Parentheses.around, hb, hold]

/-- What matters where it is exported is exported exactly if it was. -/
theorem isExportedValue_site (h : Encloses b source source' root) (hunnoticed : Unnoticed b source root)
    (hs : s ∈ root.sites) (hexportable : Exportable source s.node) :
    isExportedValue (b.site s) = isExportedValue s := by
  obtain ⟨m, above⟩ := s
  cases above with
  | nil => rfl
  | cons p further =>
    obtain ⟨hp, hchild⟩ := Node.mem_sites_cons.mp hs
    have hmem := Node.mem_nodes_of_mem_sites hp
    have hm := (Node.mem_namedChildren.mp hchild).1
    rw [isExportedValue, isExportedValue, Parentheses.site, Site.parent?, Site.parent?, Parentheses.above,
      Parentheses.around]
    by_cases hexport : p.kind = .exportStatement
    · have hbare : b.encloses m = false := by
        rw [Bool.eq_false_iff]
        intro hb
        cases h.placed p hmem m hm hb |>.2 with
        | exported _ hvalue => exact (hunnoticed.values p hmem hexport m hvalue hb).2 hexportable
        | _ hkind => rw [hexport] at hkind; cases hkind
      simp only [hbare, Bool.false_eq_true, if_false, List.nil_append, List.head?_cons,
        Parentheses.kind_kept, Parentheses.child?_kept, Option.any_map]
      cases hv : p.child? .value with
      | none => rfl
      | some value =>
        have hopening := h.openings p hmem hexport value (Node.mem_children_of_child? hv) m hm
        rw [Parentheses.put_of_not_encloses hbare] at hopening
        simp only [Option.any_some]
        congr 1
        rw [Bool.eq_iff_iff, beq_iff_eq, beq_iff_eq]
        exact hopening
    · have hold : (p.kind == Kind.exportStatement) = false := beq_eq_false_iff_ne.mpr hexport
      cases b.encloses m <;> simp [hold]

/-- Classification finds the same at a site as before. -/
theorem alike_site (h : Encloses b source source' root) (hunnoticed : Unnoticed b source root)
    (hs : s ∈ root.sites) : Alike source source' s (b.site s) := by
  have hmem := Node.mem_nodes_of_mem_sites hs
  have hn := h.of_mem hmem
  refine
    { kind := Parentheses.kind_kept
      name := fun _ => hn.componentName_kept
      extends_ := hn.extendsComponent_kept
      markup := (hunnoticed.of_mem hmem).returnsMarkup_kept hn.placed
      bound := fun _ => (hunnoticed.of_mem hmem).bindsMarkup_kept hn
      wrapper := hn.wrapperName?_kept
      wrapped := fun _ => h.isWrapped_site hs
      anchor := fun _ => ?_
      exported := h.isExportedValue_site hunnoticed hs }
  rw [h.bindingDeclarator?_site hs, Parentheses.site]
  cases hb : bindingDeclarator? s with
  | none => exact ⟨Parentheses.kind_kept, hn.componentName_kept⟩
  | some p =>
    obtain ⟨above, value, houter, -⟩ := bindingDeclarator?_eq_some hb
    have hp := h.of_mem (Node.mem_nodes_of_mem_sites (mem_sites_of_outer? hs houter).1)
    exact ⟨Parentheses.kind_kept, hp.componentName_kept⟩

/-- The same components are found. -/
theorem found_kept (h : Encloses b source source' root) (hunnoticed : Unnoticed b source root) :
    found source' (b.kept root) = found source root := by
  refine found_congr (fun source s hs => ?_) h.placed.sites_kept fun s hs => h.alike_site hunnoticed hs
  have hkind : s.node.kind = .parenthesizedExpression := by simpa using hs
  simp [describe, hkind, Kind.isComponentFunction]

/-! ## Exports -/

section Statement

variable {n : Node} (h : Encloses b source source' n)

include h

/-- The specifiers of a statement say the same names. -/
theorem specifiedNames_kept : specifiedNames source' (b.kept n) = specifiedNames source n := by
  refine specifiedNames_congr (fun _ => Parentheses.kind_kept)
    (h.placed.filter_namedChildren_kept (by simp)) ?_ ?_
  · intro clause hclause hkind
    have hc := h.of_mem_children (Node.mem_namedChildren.mp hclause).1
    exact hc.placed.namedChildren_kept_eq (by simp [hkind, Parentheses.hosts])
  · intro clause hclause c hmem hkind
    have hc := (h.of_mem_children (Node.mem_namedChildren.mp hclause).1).of_mem_children
      (Node.mem_namedChildren.mp hmem).1
    have hname := hc.textOf_child? (f := .name) (by simp [hkind, namingRoles])
    have halternative := hc.textOf_child? (f := .alternativeName) (by simp [hkind, namingRoles])
    rw [Parentheses.child?_kept] at halternative ⊢
    cases ha : c.child? .alternativeName with
    | none => simpa using hname
    | some a =>
      rw [ha] at halternative
      exact halternative

/-- The value of a statement is the same name, unless parentheses come around it. -/
theorem identifierText?_value (hunnoticed : Unnoticed b source n) (hexport : n.kind = .exportStatement) :
    identifierText? source' ((b.kept n).child? .value) = identifierText? source (n.child? .value) := by
  rw [Parentheses.child?_kept]
  cases hv : n.child? .value with
  | none => rfl
  | some v =>
    cases hb : b.encloses v with
    | true =>
      -- a value that gets parentheses was no name before
      have hkind := (hunnoticed.values n (Node.mem_nodes_self n) hexport v hv hb).1
      simp [identifierText?, Parentheses.put_of_encloses hb, hkind]
    | false =>
      simp only [identifierText?, Option.map_some, Option.bind_some, Parentheses.put_of_not_encloses hb,
        Parentheses.kind_kept]
      split
      · rename_i hkind
        rw [(h.of_mem_children (Node.mem_children_of_child? hv)).text_identifier hkind]
      · rfl

/-- A declaration that is exported bears the same name. -/
theorem textOf_declaration_name (hexport : n.kind = .exportStatement) {d : Node}
    (hd : n.child? .declaration = some d) :
    textOf source' ((b.kept d).child? .name) = textOf source (d.child? .name) := by
  have hplaced := (h.of_mem_children (Node.mem_children_of_child? hd)).placed
  rw [Parentheses.child?_kept]
  cases hm : d.child? .name with
  | none => rfl
  | some m =>
    rw [Option.map_some, hplaced.put_name_eq hm]
    exact h.texts n (Node.mem_nodes_self n) m (.declared hexport hd hm)

/-- A declaration that is exported declares the same names. -/
theorem declaredNames_kept (hexport : n.kind = .exportStatement) {d : Node}
    (hd : n.child? .declaration = some d) : declaredNames source' (b.kept d) = declaredNames source d := by
  have hplaced := h.of_mem_children (Node.mem_children_of_child? hd)
  refine declaredNames_congr (fun _ => Parentheses.kind_kept) (fun hkind => ?_)
    (fun _ _ => h.textOf_declaration_name hexport hd) fun c hc _ => ?_
  · refine hplaced.placed.namedChildren_kept_eq ?_
    rcases hkind with hk | hk <;> simp [hk, Parentheses.hosts]
  · exact (hplaced.of_mem_children (Node.mem_namedChildren.mp hc).1).identifierText?_name

/-- A statement exports the same names. -/
theorem exportedNames_kept (hunnoticed : Unnoticed b source n) (hexport : n.kind = .exportStatement) :
    exportedNames source' (b.kept n) = exportedNames source n := by
  have hdeclaration : (b.kept n).child? .declaration = (n.child? .declaration).map b.kept := by
    rw [Parentheses.child?_kept]
    cases hd : n.child? .declaration with
    | none => rfl
    | some d => rw [Option.map_some, Option.map_some, h.placed.put_declaration_eq hexport hd]
  refine exportedNames_congr ?_ (h.identifierText?_value hunnoticed hexport) h.specifiedNames_kept ?_ ?_
  · rw [Parentheses.children_kept, List.any_map, Bool.eq_iff_iff, List.any_eq_true, List.any_eq_true]
    refine exists_congr fun c => and_congr_right fun hc => ?_
    rw [Function.comp_apply, beq_iff_eq, beq_iff_eq, h.placed.kind_put_eq_iff hc (by simp)]
  · rw [hdeclaration]
    cases hd : n.child? .declaration with
    | none => rfl
    | some d => exact congrArg some (h.declaredNames_kept hexport hd)
  · rw [hdeclaration, exportedNames.declaredName, exportedNames.declaredName]
    cases hd : n.child? .declaration with
    | none => rfl
    | some d => exact h.textOf_declaration_name hexport hd

end Statement

/-- The file exports the same names. -/
theorem fileExports_kept (h : Encloses b source source' root) (hunnoticed : Unnoticed b source root) :
    fileExports source' (b.kept root) = fileExports source root := by
  rw [fileExports, exportStatements, h.placed.filter_namedChildren_kept (by simp), List.flatMap_map,
    fileExports, exportStatements]
  refine List.flatMap_congr fun statement hs => ?_
  obtain ⟨hmem, hkind⟩ := List.mem_filter.mp hs
  have hin := Node.mem_nodes_of_mem_children (Node.mem_namedChildren.mp hmem).1
  exact (h.of_mem hin).exportedNames_kept (hunnoticed.of_mem hin) (by simpa using hkind)

end Encloses

/-- Classification does not notice parentheses that are added at places where it looks through them: it
finds the same components, in the same order, with the same names, wrappers and export flags. -/
theorem classifyComponents_kept {b : Parentheses} {tree tree' : SourceTree}
    (hroot : tree'.root = b.kept tree.root) (h : Encloses b tree.source tree'.source tree.root)
    (hunnoticed : Unnoticed b tree.source tree.root) :
    (classifyComponents tree').map unplaced = (classifyComponents tree).map unplaced := by
  rw [classifyComponents_unplaced, classifyComponents_unplaced, hroot, h.found_kept hunnoticed,
    h.fileExports_kept hunnoticed]

/-! ## Three files -/

/-- Parentheses around the node of a kind at a stretch of the text. -/
def spanning (kind : Kind) (start stop : Nat) : Parentheses where
  encloses n := n.kind == kind && n.start == start && n.stop == stop
  start n := if n.start < start then n.start else if n.start < stop then n.start + 1 else n.start + 2
  stop n :=
    if n.stop ≤ start then n.stop
    else if n.stop < stop || n.stop == stop && start ≤ n.start then n.stop + 1
    else n.stop + 2
  opening n := n.start
  closing n := n.stop + 2

/-- The function `() => <b />` at an offset. -/
def markupArrowAt (o : Nat) (field : Option Field) : Node :=
  .mk { kind := .arrowFunction, start := o, stop := o + 11, field := field } [
    .mk { kind := .other "formal_parameters", start := o, stop := o + 2, field := some .parameters } [
      .mk { kind := .other "(", start := o, stop := o + 1, named := false } [],
      .mk { kind := .other ")", start := o + 1, stop := o + 2, named := false } []],
    .mk { kind := .other "=>", start := o + 3, stop := o + 5, named := false } [],
    markupAt (o + 6) (some .body)]

/-- The file `const A = memo(() => <b />);`. -/
def memoArrow : SourceTree where
  source := Bytes.ofText "const A = memo(() => <b />);"
  root :=
    .mk { kind := .program, start := 0, stop := 28 } [
      .mk { kind := .lexicalDeclaration, start := 0, stop := 28 } [
        .mk { kind := .other "const", start := 0, stop := 5, named := false, field := some (.other "kind") } [],
        .mk { kind := .variableDeclarator, start := 6, stop := 27 } [
          .mk { kind := .identifier, start := 6, stop := 7, field := some .name } [],
          .mk { kind := .other "=", start := 8, stop := 9, named := false } [],
          .mk { kind := .callExpression, start := 10, stop := 27, field := some .value } [
            .mk { kind := .identifier, start := 10, stop := 14, field := some .function } [],
            .mk { kind := .arguments, start := 14, stop := 27, field := some .arguments } [
              .mk { kind := .other "(", start := 14, stop := 15, named := false } [],
              markupArrowAt 15 none,
              .mk { kind := .other ")", start := 26, stop := 27, named := false } []]]],
        .mk { kind := .other ";", start := 27, stop := 28, named := false } []]]

/-- The file `const A = memo((() => <b />));`. -/
def memoArrowInside : SourceTree where
  source := Bytes.ofText "const A = memo((() => <b />));"
  root := (spanning .arrowFunction 15 26).kept memoArrow.root

/-- The file `export default () => <b />;`. -/
def exportedArrow : SourceTree where
  source := Bytes.ofText "export default () => <b />;"
  root :=
    .mk { kind := .program, start := 0, stop := 27 } [
      .mk { kind := .exportStatement, start := 0, stop := 27 } [
        .mk { kind := .other "export", start := 0, stop := 6, named := false } [],
        .mk { kind := .defaultKeyword, start := 7, stop := 14, named := false } [],
        markupArrowAt 15 (some .value),
        .mk { kind := .other ";", start := 26, stop := 27, named := false } []]]

/-- The file `export default (() => <b />);`. -/
def exportedArrowInside : SourceTree where
  source := Bytes.ofText "export default (() => <b />);"
  root := (spanning .arrowFunction 15 26).kept exportedArrow.root

/-- The file `const A = () => function () { return <b />; };`. -/
def curriedFile : SourceTree where
  source := Bytes.ofText "const A = () => function () \x7b return <b />; \x7d;"
  root :=
    .mk { kind := .program, start := 0, stop := 46 } [
      .mk { kind := .lexicalDeclaration, start := 0, stop := 46 } [
        .mk { kind := .other "const", start := 0, stop := 5, named := false, field := some (.other "kind") } [],
        .mk { kind := .variableDeclarator, start := 6, stop := 45 } [
          .mk { kind := .identifier, start := 6, stop := 7, field := some .name } [],
          .mk { kind := .other "=", start := 8, stop := 9, named := false } [],
          curriedMarkup],
        .mk { kind := .other ";", start := 45, stop := 46, named := false } []]]

/-- The file `const A = () => (function () { return <b />; });`. -/
def curriedFileInside : SourceTree where
  source := Bytes.ofText "const A = () => (function () \x7b return <b />; \x7d);"
  root := (spanning .functionExpression 16 45).kept curriedFile.root

/-- The only child with a role is the one that is looked for. -/
theorem child?_eq_some_of_unique {n c : Node} {f : Field} (hc : c ∈ n.children)
    (hf : c.label.field = some f) (hunique : (n.children.filter (·.label.field == some f)).length = 1) :
    n.child? f = some c := by
  obtain ⟨d, hd⟩ := List.length_eq_one_iff.mp hunique
  have hmem : c ∈ n.children.filter (·.label.field == some f) := List.mem_filter.mpr ⟨hc, by simp [hf]⟩
  rw [hd, List.mem_singleton] at hmem
  rw [Node.child?, ← List.head?_filter, hd, hmem]
  rfl

/-- A check of places that can be computed. -/
theorem placed_of_check {b : Parentheses} {root : Node}
    (h : ∀ n ∈ root.nodes, ∀ c ∈ n.children, b.encloses c = true →
      (c.named = true ∧ c.label.field ≠ some .name ∧
        c.kind ∉ [.comment, .defaultKeyword, .exportStatement, .exportClause]) ∧
      (n.kind = .arguments ∨
        (n.kind = .arrowFunction ∧ c.label.field = some .body ∨
          n.kind = .exportStatement ∧ c.label.field = some .value) ∧
        (n.children.filter (·.label.field == c.label.field)).length = 1)) : b.Placed root := by
  intro n hn c hc hb
  obtain ⟨⟨hnamed, hrole, hkind⟩, hplace⟩ := h n hn c hc hb
  refine ⟨⟨hnamed, hrole, hkind⟩, ?_⟩
  rcases hplace with hargument | ⟨⟨hhost, hfield⟩ | ⟨hhost, hfield⟩, hunique⟩
  · exact .argument hargument
  · exact .body hhost (child?_eq_some_of_unique hc hfield (hfield ▸ hunique))
  · exact .exported hhost (child?_eq_some_of_unique hc hfield (hfield ▸ hunique))

theorem encloses_memoArrow :
    Encloses (spanning .arrowFunction 15 26) memoArrow.source memoArrowInside.source memoArrow.root :=
  .of_wellNested (placed_of_check (by decide +kernel)) (by decide +kernel) (by decide +kernel)
    (by decide +kernel) (by decide +kernel)

/-- Parentheses around the function that is wrapped are not noticed. -/
theorem classifyComponents_kept_memoArrow :
    Encloses (spanning .arrowFunction 15 26) memoArrow.source memoArrowInside.source memoArrow.root ∧
      Unnoticed (spanning .arrowFunction 15 26) memoArrow.source memoArrow.root ∧
      (classifyComponents memoArrowInside).map unplaced = (classifyComponents memoArrow).map unplaced ∧
      (classifyComponents memoArrow).length = 1 := by
  have hkinds : ∀ n ∈ memoArrow.root.nodes, n.kind ≠ .exportStatement ∧
      ∀ c ∈ n.child? .body, c.kind ∉ closedScopes := by decide +kernel
  have hunnoticed : Unnoticed (spanning .arrowFunction 15 26) memoArrow.source memoArrow.root :=
    ⟨fun n hn hexport => absurd hexport (hkinds n hn).1,
      fun n hn _ c hbody _ hclosed => absurd hclosed ((hkinds n hn).2 c hbody)⟩
  exact ⟨encloses_memoArrow, hunnoticed, classifyComponents_kept rfl encloses_memoArrow hunnoticed,
    by decide +kernel⟩

/-- Parentheses around the value of an `export default`, or around a function that an arrow function
returns, make a component disappear. -/
theorem classifyComponents_kept_noticed :
    (Encloses (spanning .arrowFunction 15 26) exportedArrow.source exportedArrowInside.source
        exportedArrow.root ∧
      (classifyComponents exportedArrow).length = 1 ∧ (classifyComponents exportedArrowInside).length = 0) ∧
    Encloses (spanning .functionExpression 16 45) curriedFile.source curriedFileInside.source
        curriedFile.root ∧
      (classifyComponents curriedFile).length = 1 ∧ (classifyComponents curriedFileInside).length = 0 := by
  refine ⟨⟨.of_wellNested (placed_of_check ?_) ?_ ?_ ?_ ?_, ?_⟩,
    .of_wellNested (placed_of_check ?_) ?_ ?_ ?_ ?_, ?_⟩ <;> decide +kernel

end JsxTagger.Classify
