import JsxTagger.Component.Classify
import JsxTagger.Proofs.Syntax.Nesting

/-!
# Functions that yield markup

`Classify.returnsMarkup` walks over the body of a function. `YieldsMarkup` says without a walk when a
function yields markup: it is an arrow function whose body is markup, or a node that delivers markup
is in the open in its body, that is, neither it nor anything around it within the body is a function
other than an arrow function, a class or a method.

The two agree unless the body is such a function or class itself (`returnsMarkup_iff`). A walk always
enters the node at which it starts, so such a body is searched as well (`returnsMarkup_curried`).
-/

namespace JsxTagger.Classify

open Syntax

/-! ## What yields markup -/

/-- Functions other than arrow functions, classes and methods. -/
def closedScopes : List Kind :=
  [.functionDeclaration, .functionExpression, .functionLiteral, .generatorFunctionDeclaration,
    .generatorFunction, .classDeclaration, .classExpression, .methodDefinition]

/-- An expression and what it is without the parentheses around it and the comments in them. -/
inductive Unwraps : Node → Node → Prop
  | bare {n : Node} (hkind : n.kind ≠ .parenthesizedExpression) : Unwraps n n
  | inside {n c m : Node} (hkind : n.kind = .parenthesizedExpression)
      (hchild : n.firstNamedChild? = some c) (h : Unwraps c m) : Unwraps n m

/-- The expression is markup once it is unwrapped. -/
def Wraps (n : Node) : Prop := ∃ m, Unwraps n m ∧ m.isMarkup = true

/-- A `return` of markup, or an arrow function whose body is markup. -/
inductive Delivers : Node → Prop
  | returned {n e : Node} (hkind : n.kind = .returnStatement) (hchild : n.firstNamedChild? = some e)
      (h : Wraps e) : Delivers n
  | arrow {n e : Node} (hkind : n.kind = .arrowFunction) (hchild : n.child? .body = some e)
      (h : Wraps e) : Delivers n

/-- The second node is the first one or lies in it, and no node on the way from the one to the other
is a closed scope, the two included. -/
inductive InOpen : Node → Node → Prop
  | here {n : Node} (hopen : n.kind ∉ closedScopes) : InOpen n n
  | within {n c m : Node} (hopen : n.kind ∉ closedScopes) (hchild : c ∈ n.namedChildren)
      (h : InOpen c m) : InOpen n m

/-- The function yields markup: its body is markup, or something in the open in its body delivers
markup. -/
def YieldsMarkup (f : Node) : Prop :=
  ∃ body, f.child? .body = some body ∧
    (f.kind = .arrowFunction ∧ Wraps body ∨ ∃ m, InOpen body m ∧ Delivers m)

/-! ## The questions of the classifier -/

theorem isClosedScope_iff {k : Kind} : k.isClosedScope = true ↔ k ∈ closedScopes := by
  cases k <;> simp [Kind.isClosedScope, closedScopes]

theorem unwrapped?_eq_some_iff {n m : Node} : n.unwrapped? = some m ↔ Unwraps n m := by
  constructor
  · intro h
    induction n using Node.childInduction with
    | step n ih =>
      rw [Node.unwrapped?] at h
      split at h
      case isTrue hkind =>
        split at h
        case h_1 => cases h
        case h_2 c hc => exact .inside hkind hc (ih c (Node.mem_children_of_firstNamedChild? hc) h)
      case isFalse hkind =>
        cases h
        exact .bare hkind
  · intro h
    induction h with
    | bare hkind => rw [Node.unwrapped?, if_neg hkind]
    | inside hkind hchild h ih =>
      rw [Node.unwrapped?, if_pos hkind]
      split
      case h_1 hc => rw [hchild] at hc; cases hc
      case h_2 c hc =>
        rw [hchild] at hc
        cases hc
        exact ih

theorem isMarkupExpression_iff {e : Option Node} :
    isMarkupExpression e = true ↔ ∃ n, e = some n ∧ Wraps n := by
  cases e with
  | none => simp [isMarkupExpression]
  | some n => simp [isMarkupExpression, Option.any_eq_true, unwrapped?_eq_some_iff, Wraps]

theorem deliversMarkup_iff {n : Node} : deliversMarkup n = true ↔ Delivers n := by
  rw [deliversMarkup]
  constructor
  · intro h
    split_ifs at h with hreturn harrow
    · obtain ⟨e, he, hm⟩ := isMarkupExpression_iff.mp h
      exact .returned hreturn he hm
    · obtain ⟨e, he, hm⟩ := isMarkupExpression_iff.mp h
      exact .arrow harrow he hm
  · intro h
    cases h with
    | returned hkind hchild h =>
      rw [if_pos hkind]
      exact isMarkupExpression_iff.mpr ⟨_, hchild, h⟩
    | arrow hkind hchild h =>
      rw [if_neg (by simp [hkind]), if_pos hkind]
      exact isMarkupExpression_iff.mpr ⟨_, hchild, h⟩

/-- What delivers markup is no closed scope. -/
theorem Delivers.isClosedScope {n : Node} (h : Delivers n) : n.kind.isClosedScope = false := by
  cases h with
  | returned hkind => rw [hkind]; rfl
  | arrow hkind => rw [hkind]; rfl

/-! ## The walk -/

/-- What is in the open in a node is a site of it without a closed scope at or above it. -/
theorem inOpen_iff {n m : Node} :
    InOpen n m ↔ ∃ t ∈ n.sites, t.node = m ∧ ∀ a ∈ m :: t.above, a.kind ∉ closedScopes := by
  constructor
  · intro h
    induction h with
    | @here n hopen => exact ⟨⟨n, []⟩, Node.mem_sites_nil.mpr rfl, rfl, by simpa using hopen⟩
    | @within n c m hopen hchild h ih =>
      obtain ⟨t, ht, hnode, habove⟩ := ih
      refine ⟨t.lift [n], Node.mem_sites_iff.mpr (.inr ⟨c, hchild, t, ht, rfl⟩), hnode, ?_⟩
      intro a ha
      rw [Site.lift_above, ← List.cons_append, List.mem_append, List.mem_singleton] at ha
      rcases ha with ha | rfl
      · exact habove a ha
      · exact hopen
  · induction n using Node.childInduction with
    | step n ih =>
      rintro ⟨t, ht, hnode, habove⟩
      rcases Node.mem_sites_iff.mp ht with rfl | ⟨c, hc, u, hu, rfl⟩
      · subst hnode
        exact .here (habove _ List.mem_cons_self)
      · refine .within (habove n (by simp)) hc (ih c (Node.mem_namedChildren.mp hc).1 ⟨u, hu, hnode, ?_⟩)
        intro a ha
        rcases List.mem_cons.mp ha with rfl | ha
        · exact habove _ List.mem_cons_self
        · exact habove a (by simp [ha])

/-- A walk that does not enter closed scopes comes to the node at which it starts and to what is in the
open in one of its children. -/
theorem mem_walk_isClosedScope_iff {n m : Node} (hm : m.kind.isClosedScope = false) :
    m ∈ n.walk Kind.isClosedScope ↔ m = n ∨ ∃ c ∈ n.namedChildren, InOpen c m := by
  have hopen (a : Node) : (!a.kind.isClosedScope) = true ↔ a.kind ∉ closedScopes := by
    rw [← isClosedScope_iff, Bool.not_eq_true', Bool.not_eq_true]
  rw [Node.walk, Node.walk_skip_eq_filter]
  simp only [List.mem_map, List.mem_filter, List.all_eq_true, hopen]
  constructor
  · rintro ⟨t, ⟨ht, habove⟩, rfl⟩
    rcases Node.mem_sites_iff.mp ht with rfl | ⟨c, hc, u, hu, rfl⟩
    · exact .inl rfl
    · refine .inr ⟨c, hc, inOpen_iff.mpr ⟨u, hu, rfl, ?_⟩⟩
      intro a ha
      rcases List.mem_cons.mp ha with rfl | ha
      · rwa [← hopen, Bool.not_eq_true']
      · exact habove a (by simpa using ha)
  · rintro (rfl | ⟨c, hc, h⟩)
    · exact ⟨⟨m, []⟩, ⟨Node.mem_sites_nil.mpr rfl, by simp⟩, rfl⟩
    · obtain ⟨u, hu, rfl, habove⟩ := inOpen_iff.mp h
      refine ⟨u.lift [n], ⟨Node.mem_sites_iff.mpr (.inr ⟨c, hc, u, hu, rfl⟩), fun a ha => ?_⟩, rfl⟩
      exact habove a (List.mem_cons_of_mem _ (by simpa using ha))

/-- What the classifier finds: the body is markup, or markup is delivered by the body itself or by
something in the open in one of its children. -/
theorem returnsMarkup_eq_true {f body : Node} (hbody : f.child? .body = some body) :
    returnsMarkup f = true ↔
      f.kind = .arrowFunction ∧ Wraps body ∨ Delivers body ∨
        ∃ c ∈ body.namedChildren, ∃ m, InOpen c m ∧ Delivers m := by
  have hwalk : ((body.walk Kind.isClosedScope).any fun n => !n.kind.isClosedScope && deliversMarkup n) =
      true ↔ Delivers body ∨ ∃ c ∈ body.namedChildren, ∃ m, InOpen c m ∧ Delivers m := by
    simp only [List.any_eq_true, Bool.and_eq_true, deliversMarkup_iff]
    constructor
    · rintro ⟨m, hm, -, hdelivers⟩
      rcases (mem_walk_isClosedScope_iff hdelivers.isClosedScope).mp hm with rfl | ⟨c, hc, h⟩
      · exact .inl hdelivers
      · exact .inr ⟨c, hc, m, h, hdelivers⟩
    · rintro (hdelivers | ⟨c, hc, m, h, hdelivers⟩)
      · exact ⟨body, (mem_walk_isClosedScope_iff hdelivers.isClosedScope).mpr (.inl rfl),
          by simp [hdelivers.isClosedScope], hdelivers⟩
      · exact ⟨m, (mem_walk_isClosedScope_iff hdelivers.isClosedScope).mpr (.inr ⟨c, hc, h⟩),
          by simp [hdelivers.isClosedScope], hdelivers⟩
  simp only [returnsMarkup, hbody, Bool.or_eq_true, Bool.and_eq_true, beq_iff_eq, hwalk,
    isMarkupExpression_iff, Option.some.injEq, exists_eq_left']

/-- Nothing is in the open in a closed scope. -/
theorem not_inOpen {n m : Node} (hkind : n.kind ∈ closedScopes) : ¬ InOpen n m := by
  intro h
  cases h with
  | here hopen => exact hopen hkind
  | within hopen => exact hopen hkind

/-- What is in the open in an open node is the node or is in the open in one of its children. -/
theorem exists_inOpen_iff {n : Node} {P : Node → Prop} (hopen : n.kind ∉ closedScopes) :
    (∃ m, InOpen n m ∧ P m) ↔ P n ∨ ∃ c ∈ n.namedChildren, ∃ m, InOpen c m ∧ P m := by
  constructor
  · rintro ⟨m, h, hm⟩
    cases h with
    | here => exact .inl hm
    | within _ hc h => exact .inr ⟨_, hc, m, h, hm⟩
  · rintro (hn | ⟨c, hc, m, h, hm⟩)
    · exact ⟨n, .here hopen, hn⟩
    · exact ⟨m, .within hopen hc h, hm⟩

/-- The classifier takes a function for one that yields markup if it does, and, if its body is itself
a closed scope, also if something in the open in a child of that body delivers markup. A function whose
body is no closed scope is therefore judged as `YieldsMarkup` has it, and one without a body as well. -/
theorem returnsMarkup_iff (f : Node) :
    (returnsMarkup f = true ↔
      YieldsMarkup f ∨ ∃ body, f.child? .body = some body ∧ body.kind ∈ closedScopes ∧
        ∃ c ∈ body.namedChildren, ∃ m, InOpen c m ∧ Delivers m) ∧
      ((∀ body, f.child? .body = some body → body.kind ∉ closedScopes) →
        (returnsMarkup f = true ↔ YieldsMarkup f)) := by
  have hiff : returnsMarkup f = true ↔
      YieldsMarkup f ∨ ∃ body, f.child? .body = some body ∧ body.kind ∈ closedScopes ∧
        ∃ c ∈ body.namedChildren, ∃ m, InOpen c m ∧ Delivers m := by
    cases hbody : f.child? .body with
    | none => simp [returnsMarkup, YieldsMarkup, hbody]
    | some body =>
      rw [returnsMarkup_eq_true hbody]
      simp only [YieldsMarkup, hbody, Option.some.injEq, exists_eq_left']
      by_cases hkind : body.kind ∈ closedScopes
      · have hdelivers : ¬ Delivers body := fun h => by
          rw [← isClosedScope_iff, h.isClosedScope] at hkind
          cases hkind
        have hclosed : ¬ ∃ m, InOpen body m ∧ Delivers m := by
          rintro ⟨m, h, -⟩
          exact not_inOpen hkind h
        simp only [hdelivers, hclosed, hkind, false_or, or_false, true_and]
      · simp only [exists_inOpen_iff hkind, hkind, false_and, or_false]
  refine ⟨hiff, fun hopen => hiff.trans (or_iff_left ?_)⟩
  rintro ⟨body, hbody, hkind, -⟩
  exact hopen body hbody hkind

/-! ## Two functions -/

/-- The tag `<b />` at an offset, in a role. -/
def markupAt (start : Nat) (field : Option Field := none) : Node :=
  .mk { kind := .jsxSelfClosingElement, start := start, stop := start + 5, field := field } [
    .mk { kind := .other "<", start, stop := start + 1, named := false } [],
    .mk { kind := .identifier, start := start + 1, stop := start + 2, field := some .name } [],
    .mk { kind := .other "/>", start := start + 3, stop := start + 5, named := false } []]

theorem wraps_markupAt (start : Nat) (field : Option Field) : Wraps (markupAt start field) :=
  ⟨_, .bare (by simp [markupAt, Node.kind, Node.label]), rfl⟩

/-- The function in `xs.map((x) => <b />)`, in the place it has in `mappedMarkup`. -/
def mappedItem : Node :=
  .mk { kind := .arrowFunction, start := 34, stop := 46 } [
    .mk { kind := .other "formal_parameters", start := 34, stop := 37, field := some .parameters } [
      .mk { kind := .other "(", start := 34, stop := 35, named := false } [],
      .mk { kind := .identifier, start := 35, stop := 36 } [],
      .mk { kind := .other ")", start := 36, stop := 37, named := false } []],
    .mk { kind := .other "=>", start := 38, stop := 40, named := false } [],
    markupAt 41 (some .body)]

/-- The function in `const L = (xs) => { return xs.map((x) => <b />); };`. -/
def mappedMarkup : Node :=
  .mk { kind := .arrowFunction, start := 10, stop := 50, field := some .value } [
    .mk { kind := .other "formal_parameters", start := 10, stop := 14, field := some .parameters } [
      .mk { kind := .other "(", start := 10, stop := 11, named := false } [],
      .mk { kind := .identifier, start := 11, stop := 13 } [],
      .mk { kind := .other ")", start := 13, stop := 14, named := false } []],
    .mk { kind := .other "=>", start := 15, stop := 17, named := false } [],
    .mk { kind := .other "statement_block", start := 18, stop := 50, field := some .body } [
      .mk { kind := .other "\x7b", start := 18, stop := 19, named := false } [],
      .mk { kind := .returnStatement, start := 20, stop := 48 } [
        .mk { kind := .other "return", start := 20, stop := 26, named := false } [],
        .mk { kind := .callExpression, start := 27, stop := 47 } [
          .mk { kind := .memberExpression, start := 27, stop := 33, field := some .function } [
            .mk { kind := .identifier, start := 27, stop := 29, field := some .object } [],
            .mk { kind := .other ".", start := 29, stop := 30, named := false } [],
            .mk { kind := .other "property_identifier", start := 30, stop := 33,
                  field := some .property } []],
          .mk { kind := .arguments, start := 33, stop := 47, field := some .arguments } [
            .mk { kind := .other "(", start := 33, stop := 34, named := false } [],
            mappedItem,
            .mk { kind := .other ")", start := 46, stop := 47, named := false } []]],
        .mk { kind := .other ";", start := 47, stop := 48, named := false } []],
      .mk { kind := .other "\x7d", start := 49, stop := 50, named := false } []]]

/-- The function of `mappedMarkup` yields markup, and the classifier says so. -/
theorem returnsMarkup_mapped :
    (∀ body, mappedMarkup.child? .body = some body → body.kind ∉ closedScopes) ∧
      (returnsMarkup mappedMarkup = true ↔ YieldsMarkup mappedMarkup) ∧
      YieldsMarkup mappedMarkup := by
  have hopen : ∀ body, mappedMarkup.child? .body = some body → body.kind ∉ closedScopes := by
    rintro _ ⟨⟩
    decide
  refine ⟨hopen, (returnsMarkup_iff mappedMarkup).2 hopen, _, rfl, .inr ⟨mappedItem, ?_, ?_⟩⟩
  · -- from the block through the `return`, the call and its arguments
    apply InOpen.within (by decide) (.head _)
    apply InOpen.within (by decide) (.head _)
    apply InOpen.within (by decide) (.tail _ (.head _))
    apply InOpen.within (by decide) (.head _)
    exact .here (by decide)
  · exact .arrow rfl rfl (wraps_markupAt 41 (some .body))

/-- The function in `const A = () => function () { return <b />; };`. -/
def curriedMarkup : Node :=
  .mk { kind := .arrowFunction, start := 10, stop := 45, field := some .value } [
    .mk { kind := .other "formal_parameters", start := 10, stop := 12, field := some .parameters } [
      .mk { kind := .other "(", start := 10, stop := 11, named := false } [],
      .mk { kind := .other ")", start := 11, stop := 12, named := false } []],
    .mk { kind := .other "=>", start := 13, stop := 15, named := false } [],
    .mk { kind := .functionExpression, start := 16, stop := 45, field := some .body } [
      .mk { kind := .other "function", start := 16, stop := 24, named := false } [],
      .mk { kind := .other "formal_parameters", start := 25, stop := 27,
            field := some .parameters } [
        .mk { kind := .other "(", start := 25, stop := 26, named := false } [],
        .mk { kind := .other ")", start := 26, stop := 27, named := false } []],
      .mk { kind := .other "statement_block", start := 28, stop := 45, field := some .body } [
        .mk { kind := .other "\x7b", start := 28, stop := 29, named := false } [],
        .mk { kind := .returnStatement, start := 30, stop := 43 } [
          .mk { kind := .other "return", start := 30, stop := 36, named := false } [],
          markupAt 37,
          .mk { kind := .other ";", start := 42, stop := 43, named := false } []],
        .mk { kind := .other "\x7d", start := 44, stop := 45, named := false } []]]]

/-- The function of `curriedMarkup` makes another function and no markup, and the classifier takes it
for one that yields markup. -/
theorem returnsMarkup_curried :
    returnsMarkup curriedMarkup = true ∧ ¬ YieldsMarkup curriedMarkup := by
  constructor
  · refine (returnsMarkup_eq_true rfl).mpr (.inr (.inr ⟨_, .tail _ (.head _), ?_⟩))
    exact ⟨_, .within (by decide) (.head _) (.here (by decide)),
      .returned rfl rfl (wraps_markupAt 37 none)⟩
  · rintro ⟨body, hbody, h⟩
    cases hbody
    rcases h with ⟨-, m, hunwraps, hmarkup⟩ | ⟨m, hopen, -⟩
    · cases hunwraps with
      | bare => cases hmarkup
      | inside hkind => cases hkind
    · exact not_inOpen (by decide) hopen

end JsxTagger.Classify
