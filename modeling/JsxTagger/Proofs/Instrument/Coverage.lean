import JsxTagger.Proofs.Instrument.Exactness

/-!
# Which tags carry an id afterwards

A component that is reported as bound is instrumented itself, so all its tags carry an id afterwards.
A component that is reported as nested is left to the declarations around it, and those need not be
components: its tags carry an id exactly if they had one or lie in the scope of a bound component
(`isCovered_iff`). In `helperFile` a component is declared inside a helper function, and its tag
carries none.
-/

namespace JsxTagger.Instrument

open Classify Syntax

variable {room : Nat}

/-- How many ids a run gives to a tag. -/
def idsFor (room : Nat) (tree : SourceTree) (cs : List Component) (e : Node) : Nat :=
  (Act.tags (planned tree.source (boundScopes room tree cs))).countP (·.start == e.start)

/-- Whether a tag had an id or gets exactly one. -/
def isCovered (room : Nat) (tree : SourceTree) (cs : List Component) (e : Node) : Bool :=
  hasAttribute tree.source e elementIdAttribute || idsFor room tree cs e == 1

section

variable {tree : SourceTree} {cs : List Component}

/-- The ids for a tag are the insertions that the plan holds for it. -/
theorem plan_eq_of_planAll {ids : IdStream} {drawn : Nat} {g : Progress}
    (h : planAll room tree ids cs drawn = .ok g) :
    g.planner.plan =
      planOf (changesOf tree.source ids drawn (planned tree.source (boundScopes room tree cs))) := by
  rw [(planAll_eq_ok h).1]
  rfl

theorem countP_start_eq_one {ns : List Node} {n : Node} (hnodup : (ns.map Node.start).Nodup)
    (hn : n ∈ ns) : ns.countP (·.start == n.start) = 1 := by
  have hcount : (ns.map Node.start).count n.start = 1 :=
    List.count_eq_one_of_mem hnodup (List.mem_map_of_mem hn)
  rwa [List.count, List.countP_map] at hcount

/-- A tag of the tree without an id gets one exactly if it lies in the scope of a bound component. -/
theorem idsFor_eq_one_iff (hstarts : ((tree.root.nodes.filter isTag).map Node.start).Nodup)
    {e : Node} (he : e ∈ tree.root.nodes) (hopening : isOpeningElement e = true)
    (hlacks : hasAttribute tree.source e elementIdAttribute = false) :
    idsFor room tree cs e = 1 ↔ ∃ t ∈ boundScopes room tree cs, e ∈ t.elements := by
  have hdistinct : DistinctTags (boundScopes room tree cs) := distinctTags_boundScopes hstarts cs
  constructor
  · intro hone
    have hpos : 0 < idsFor room tree cs e := by omega
    obtain ⟨d, hd, hstart⟩ := List.countP_pos_iff.mp hpos
    obtain ⟨⟨t, ht, hdt⟩, -⟩ := (mem_tags_planned hdistinct).mp hd
    have hdin : d ∈ tree.root.nodes :=
      Node.mem_nodes_trans (mem_nodes_of_mem_boundScopes ht) (mem_nodes_of_mem_elements hdt)
    have heq : d = e := List.inj_on_of_nodup_map hstarts
      (List.mem_filter.mpr ⟨hdin, isTag_of_isOpeningElement (List.mem_filter.mp hdt).2⟩)
      (List.mem_filter.mpr ⟨he, isTag_of_isOpeningElement hopening⟩) (by simpa using hstart)
    exact ⟨t, ht, heq ▸ hdt⟩
  · intro hin
    refine countP_start_eq_one ?_ ((mem_tags_planned hdistinct).mpr ⟨hin, hlacks⟩)
    rw [tags_planned]
    exact nodup_firsts _ _

/-- The tags of a bound component are covered. Those of a nested component are covered exactly if they
had an id or lie in the scope of some bound component. -/
theorem isCovered_iff (room : Nat) (tree : SourceTree) (ids : IdStream) (drawn : Nat) {g : Progress}
    (hstarts : ((tree.root.nodes.filter isTag).map Node.start).Nodup)
    (hg : planAll room tree ids (classifyComponents tree) drawn = .ok g)
    {c : Component} (hc : c ∈ classifyComponents tree) {anchor : Node} {s : Scope}
    (hanchor : anchorOf? room tree c = some anchor) (hs : scopeAt? tree.source anchor = some s)
    {e : Node} (he : e ∈ s.elements) :
    g.planner.plan = planOf (changesOf tree.source ids drawn
        (planned tree.source (boundScopes room tree (classifyComponents tree)))) ∧
      (isTopLevel tree anchor = true → isCovered room tree (classifyComponents tree) e = true) ∧
      (isTopLevel tree anchor = false →
        (isCovered room tree (classifyComponents tree) e = true ↔
          hasAttribute tree.source e elementIdAttribute = true ∨
            ∃ t ∈ boundScopes room tree (classifyComponents tree), e ∈ t.elements)) := by
  have hroot : e ∈ tree.root.nodes := by
    have hwalk := mem_walk_of_locate (anchorOf?_eq_some.mp hanchor)
    exact Node.mem_nodes_trans (Node.mem_nodes_of_mem_walk hwalk)
      (Node.mem_nodes_trans (scopeAt?_eq_some hs).1 (mem_nodes_of_mem_elements he))
  have hcovered : isCovered room tree (classifyComponents tree) e = true ↔
      hasAttribute tree.source e elementIdAttribute = true ∨
        ∃ t ∈ boundScopes room tree (classifyComponents tree), e ∈ t.elements := by
    rw [isCovered, Bool.or_eq_true, beq_iff_eq]
    cases hhas : hasAttribute tree.source e elementIdAttribute with
    | true => simp
    | false => simp [idsFor_eq_one_iff hstarts hroot (List.mem_filter.mp he).2 hhas]
  refine ⟨plan_eq_of_planAll hg, fun htop => hcovered.mpr (Or.inr ⟨s, ?_, he⟩), fun _ => hcovered⟩
  refine List.mem_filterMap.mpr ⟨c, hc, ?_⟩
  rw [scopeOf?, hanchor, Option.filter_some_pos htop, Option.bind_some, hs]

end

/-- The file `function make() { function Inner() { return <b />; } return Inner; }`. -/
def helperFile : SourceTree where
  source := Bytes.ofText "function make() \x7b function Inner() \x7b return <b />; \x7d return Inner; \x7d"
  root :=
    .mk { kind := .program, start := 0, stop := 68 } [
      .mk { kind := .functionDeclaration, start := 0, stop := 68 } [
        .mk { kind := .functionLiteral, start := 0, stop := 8, named := false } [],
        .mk { kind := .identifier, start := 9, stop := 13, field := some .name } [],
        .mk { kind := .other "formal_parameters", start := 13, stop := 15,
              field := some .parameters } [
          .mk { kind := .other "(", start := 13, stop := 14, named := false } [],
          .mk { kind := .other ")", start := 14, stop := 15, named := false } []],
        .mk { kind := .other "statement_block", start := 16, stop := 68, field := some .body } [
          .mk { kind := .other "\x7b", start := 16, stop := 17, named := false } [],
          .mk { kind := .functionDeclaration, start := 18, stop := 52 } [
            .mk { kind := .functionLiteral, start := 18, stop := 26, named := false } [],
            .mk { kind := .identifier, start := 27, stop := 32, field := some .name } [],
            .mk { kind := .other "formal_parameters", start := 32, stop := 34,
                  field := some .parameters } [
              .mk { kind := .other "(", start := 32, stop := 33, named := false } [],
              .mk { kind := .other ")", start := 33, stop := 34, named := false } []],
            .mk { kind := .other "statement_block", start := 35, stop := 52, field := some .body } [
              .mk { kind := .other "\x7b", start := 35, stop := 36, named := false } [],
              .mk { kind := .returnStatement, start := 37, stop := 50 } [
                .mk { kind := .other "return", start := 37, stop := 43, named := false } [],
                .mk { kind := .jsxSelfClosingElement, start := 44, stop := 49 } [
                  .mk { kind := .other "<", start := 44, stop := 45, named := false } [],
                  .mk { kind := .identifier, start := 45, stop := 46, field := some .name } [],
                  .mk { kind := .other "/>", start := 47, stop := 49, named := false } []],
                .mk { kind := .other ";", start := 49, stop := 50, named := false } []],
              .mk { kind := .other "\x7d", start := 51, stop := 52, named := false } []]],
          .mk { kind := .returnStatement, start := 53, stop := 66 } [
            .mk { kind := .other "return", start := 53, stop := 59, named := false } [],
            .mk { kind := .identifier, start := 60, stop := 65 } [],
            .mk { kind := .other ";", start := 65, stop := 66, named := false } []],
          .mk { kind := .other "\x7d", start := 67, stop := 68, named := false } []]]]

/-- The one component of the file is nested in a function that is none, and its one tag is not
covered. -/
theorem exists_nested_helperFile :
    ∃ c anchor s e, classifyComponents helperFile = [c] ∧ anchorOf? 100 helperFile c = some anchor ∧
      scopeAt? helperFile.source anchor = some s ∧ s.elements = [e] ∧
      isTopLevel helperFile anchor = false ∧ isCovered 100 helperFile [c] e = false := by
  have hprobe : ((classifyComponents helperFile).map fun c =>
      (anchorOf? 100 helperFile c).bind fun anchor => (scopeAt? helperFile.source anchor).map fun s =>
        (isTopLevel helperFile anchor, s.elements.map (isCovered 100 helperFile [c]))) =
      [some (false, [false])] := by decide +kernel
  obtain ⟨c, rest, hcs, hc, hrest⟩ := List.map_eq_cons_iff.mp hprobe
  cases List.map_eq_nil_iff.mp hrest
  obtain ⟨anchor, hanchor, hscope⟩ := Option.bind_eq_some_iff.mp hc
  obtain ⟨s, hs, hfacts⟩ := Option.map_eq_some_iff.mp hscope
  obtain ⟨htop, helements⟩ := Prod.mk.inj hfacts
  obtain ⟨e, rest, he, hcovered, hrest⟩ := List.map_eq_cons_iff.mp helements
  cases List.map_eq_nil_iff.mp hrest
  exact ⟨c, anchor, s, e, hcs, hanchor, hs, he, htop, hcovered⟩

theorem exists_planAll_helperFile :
    ∃ g, planAll 100 helperFile numberedIds (classifyComponents helperFile) 0 = .ok g ∧
      g.nested.map Json.plain = ["Inner"] ∧ g.planner.plan.edits = [] := by
  have hprobe : ((planAll 100 helperFile numberedIds (classifyComponents helperFile) 0).toOption.map
      fun g => (g.nested.map Json.plain, g.planner.plan.edits)) = some (["Inner"], []) := by
    decide +kernel
  cases hg : planAll 100 helperFile numberedIds (classifyComponents helperFile) 0 with
  | error e =>
    rw [hg] at hprobe
    cases hprobe
  | ok g =>
    rw [hg] at hprobe
    obtain ⟨hnested, hplan⟩ := Prod.mk.inj (Option.some.inj hprobe)
    exact ⟨g, rfl, hnested, hplan⟩

/-- The tag of the nested component lies in the scope of no bound component. -/
theorem isCovered_iff_helperFile :
    ∃ c ∈ classifyComponents helperFile, ∃ anchor s e, anchorOf? 100 helperFile c = some anchor ∧
      scopeAt? helperFile.source anchor = some s ∧ e ∈ s.elements ∧
      ¬ ∃ t ∈ boundScopes 100 helperFile (classifyComponents helperFile), e ∈ t.elements := by
  obtain ⟨c, anchor, s, e, hcs, hanchor, hs, helements, htop, hcovered⟩ := exists_nested_helperFile
  obtain ⟨g, hg, -, -⟩ := exists_planAll_helperFile
  have hc : c ∈ classifyComponents helperFile := by simp [hcs]
  have he : e ∈ s.elements := by simp [helements]
  have hstarts : ((helperFile.root.nodes.filter isTag).map Node.start).Nodup := by decide +kernel
  have hiff := (isCovered_iff 100 helperFile numberedIds 0 hstarts hg hc hanchor hs he).2.2 htop
  refine ⟨c, hc, anchor, s, e, hanchor, hs, he, fun hbound => ?_⟩
  have hyes := hiff.mpr (Or.inr hbound)
  rw [hcs, hcovered] at hyes
  cases hyes

/-- Not every tag inside a reported component is covered: the run over the file reports a nested
component, gives its tag no id, and plans nothing at all. -/
theorem not_isCovered_helperFile :
    ∃ c ∈ classifyComponents helperFile, ∃ anchor s e g, anchorOf? 100 helperFile c = some anchor ∧
      scopeAt? helperFile.source anchor = some s ∧ e ∈ s.elements ∧
      planAll 100 helperFile numberedIds (classifyComponents helperFile) 0 = .ok g ∧
      g.nested.map Json.plain = ["Inner"] ∧ g.planner.plan.edits = [] ∧
      isCovered 100 helperFile (classifyComponents helperFile) e = false := by
  obtain ⟨c, anchor, s, e, hcs, hanchor, hs, helements, -, hcovered⟩ := exists_nested_helperFile
  obtain ⟨g, hg, hnested, hplan⟩ := exists_planAll_helperFile
  refine ⟨c, by simp [hcs], anchor, s, e, g, hanchor, hs, by simp [helements], hg, hnested, hplan, ?_⟩
  rw [hcs]
  exact hcovered

end JsxTagger.Instrument
