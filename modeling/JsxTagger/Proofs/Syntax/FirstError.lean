import JsxTagger.Proofs.Syntax.Places
import JsxTagger.Syntax.Tree

/-!
# The first error of a tree

A tree with an error is turned into the position of its first error. The search goes through all nodes in
document order and ends at the first one that marks an error; by `firstError?_cases` there is none at an
earlier place. In a well-nested tree earlier places start no later, and what starts no later is on no later
line and column (`noLater_of_le`), so that no error has a position in front of the one that is reported
(`ofRoot_reports_first`).
-/

namespace JsxTagger

namespace Bytes

/-! ## Positions -/

/-- A line and a column are no later than others: the line is an earlier one, or it is the same and the
column is no later. -/
def NoLater (p q : Nat × Nat) : Prop := p.1 < q.1 ∨ p.1 = q.1 ∧ p.2 ≤ q.2

/-- Bytes without a line end move the column on by their number. -/
theorem column_append_of_not_mem {front middle : Bytes} (h : newline ∉ middle) :
    ((front ++ middle).reverse.takeWhile (· != newline)).length =
      middle.length + (front.reverse.takeWhile (· != newline)).length := by
  have hall : ∀ u ∈ middle.reverse, (u != newline) = true := fun u hu => by
    rw [bne_iff_ne]
    rintro rfl
    exact h (List.mem_reverse.mp hu)
  rw [List.reverse_append, List.takeWhile_append_of_pos hall, List.length_append, List.length_reverse]

/-- An earlier offset has no later line and column. -/
theorem noLater_of_le (b : Bytes) {i j : Nat} (h : i ≤ j) :
    NoLater (b.linesBefore i, b.columnOf i) (b.linesBefore j, b.columnOf j) := by
  have htake : b.take j = b.take i ++ (b.drop i).take (j - i) := by
    rw [← List.take_add, Nat.add_sub_cancel' h]
  rw [NoLater, linesBefore, linesBefore, columnOf, columnOf, htake, List.count_append]
  by_cases hline : newline ∈ (b.drop i).take (j - i)
  · have := List.count_pos_iff.mpr hline
    exact Or.inl (by omega)
  · rw [List.count_eq_zero_of_not_mem hline, column_append_of_not_mem hline]
    exact Or.inr ⟨rfl, Nat.le_add_left _ _⟩

end Bytes

namespace Syntax

namespace Node

/-! ## Trees with an error -/

theorem anyHasError_eq_any (ns : List Node) : anyHasError ns = ns.any hasError := by
  induction ns with
  | nil => rw [anyHasError, List.any_nil]
  | cons n ns ih => rw [anyHasError, List.any_cons, ih]

theorem hasError_of_marksError {n : Node} (h : n.marksError = true) : n.hasError = true := by
  obtain ⟨label, children⟩ := n
  rw [marksError, Bool.or_eq_true] at h
  rw [hasError]
  rcases h with h | h
  · rw [show (label.kind == .error) = true from h, Bool.true_or, Bool.true_or, Bool.true_or]
  · rw [show label.missing = true from h, Bool.or_true, Bool.true_or, Bool.true_or]

/-- A tree has an error if one of its nodes does. -/
theorem hasError_of_at? {n m : Node} {place : List Nat} (h : n.at? place = some m)
    (herror : m.hasError = true) : n.hasError = true := by
  induction place generalizing n with
  | nil =>
    cases h
    exact herror
  | cons i place ih =>
    obtain ⟨c, hc, hinner⟩ := at?_cons_eq_some.mp h
    obtain ⟨label, children⟩ := n
    rw [hasError, anyHasError_eq_any, Bool.or_eq_true]
    exact Or.inr (List.any_eq_true.mpr ⟨c, List.mem_of_getElem? hc, ih hinner⟩)

/-! ## The first node that marks an error -/

/-- The node at a place is the first one that marks an error. -/
structure FirstMark (root : Node) (place : List Nat) (n : Node) : Prop where
  /-- The node is at the place. -/
  there : root.at? place = some n
  /-- It marks an error. -/
  marks : n.marksError = true
  /-- No node at an earlier place marks one. -/
  first : ∀ other m, root.at? other = some m → m.marksError = true → ¬ other < place

/-- The search finds nothing if no node marks an error, and else the first one that does. -/
theorem firstError?_cases (root : Node) :
    (root.firstError? = none ∧ ∀ place n, root.at? place = some n → n.marksError = false) ∨
      ∃ place n, root.firstError? = some n ∧ FirstMark root place n := by
  have hsearch : root.firstError? =
      ((root.placed (fun _ => true) (fun _ => true)).map (·.2)).find? marksError := by
    rw [← map_visit_eq_map_placed root []]
    rfl
  rw [hsearch, List.find?_map]
  cases hfound : (root.placed (fun _ => true) (fun _ => true)).find? (marksError ∘ (·.2)) with
  | none =>
    refine Or.inl ⟨rfl, fun place n hn => ?_⟩
    exact Bool.eq_false_iff.mpr (List.find?_eq_none.mp hfound (place, n) (mem_placed_iff_at?.mpr hn))
  | some found =>
    obtain ⟨place, n⟩ := found
    obtain ⟨hmarks, front, back, hsplit, hfront⟩ := List.find?_eq_some_iff_append.mp hfound
    have hordered : (root.placed (fun _ => true) (fun _ => true)).Pairwise fun a b => a.1 < b.1 :=
      pairwise_placed root
    rw [hsplit, List.pairwise_append, List.pairwise_cons] at hordered
    obtain ⟨-, ⟨hback, -⟩, -⟩ := hordered
    refine Or.inr ⟨place, n, rfl, mem_placed_iff_at?.mp (List.mem_of_find?_eq_some hfound), hmarks,
      fun other m hm hother hlt => ?_⟩
    have hmem := mem_placed_iff_at?.mpr hm
    rw [hsplit, List.mem_append, List.mem_cons] at hmem
    rcases hmem with hin | heq | hin
    · exact absurd hother (by simpa using hfront (other, m) hin)
    · cases heq
      exact List.lt_irrefl _ hlt
    · exact List.lt_asymm hlt (hback (other, m) hin)

/-- A node that starts no later than another has no later line and column. -/
theorem noLater_of_start_le (source : Bytes) {n m : Node} (h : n.start ≤ m.start) :
    Bytes.NoLater (n.line source, n.column source) (m.line source, m.column source) := by
  rcases source.noLater_of_le h with hline | ⟨hline, hcolumn⟩
  · exact Or.inl (Nat.succ_lt_succ hline)
  · exact Or.inr ⟨congrArg Nat.succ hline, Nat.succ_le_succ hcolumn⟩

end Node

namespace SourceTree

/-- A tree without an error is accepted, and a tree with an error is not. If some node marks an error, the
line and the column of the first such node are reported, and in a well-nested tree those of no other such
node are in front of them; if no node does, no position is reported. A tree with a node that marks an error
has an error. -/
theorem ofRoot_reports_first (source : Bytes) (root : Node) (path : Option String) :
    (root.hasError = false → ofRoot source root path = .ok ⟨source, root, path⟩) ∧
    (root.hasError = true → ∃ position, ofRoot source root path = .error ⟨path, position⟩ ∧
      (position = none ↔ ∀ place n, root.at? place = some n → n.marksError = false) ∧
      ∀ reported, position = some reported → ∃ place n, root.FirstMark place n ∧
        reported = (n.line source, n.column source) ∧
        (root.WellNested → ∀ other m, root.at? other = some m → m.marksError = true →
          Bytes.NoLater reported (m.line source, m.column source))) ∧
    (∀ place n, root.at? place = some n → n.marksError = true → root.hasError = true) := by
  refine ⟨fun hnone => ?_, fun herror => ?_, fun place n hn hmarks =>
    Node.hasError_of_at? hn (Node.hasError_of_marksError hmarks)⟩
  · rw [ofRoot, hnone]
    rfl
  · refine ⟨root.firstError?.map fun n => (n.line source, n.column source), by rw [ofRoot, herror]; rfl, ?_⟩
    rcases root.firstError?_cases with ⟨hsearch, hall⟩ | ⟨place, n, hsearch, hfirst⟩
    · rw [hsearch]
      exact ⟨⟨fun _ => hall, fun _ => rfl⟩, fun _ h => by cases h⟩
    · rw [hsearch]
      refine ⟨⟨fun h => (by cases h), fun hall => ?_⟩, fun reported hreported => ⟨place, n, hfirst, ?_, ?_⟩⟩
      · exact absurd hfirst.marks (Bool.eq_false_iff.mp (hall place n hfirst.there))
      · exact (Option.some.inj hreported).symm
      · intro hnested other m hm hmarks
        cases hreported
        have hstart := hnested.start_le_start hfirst.there hm (hfirst.first other m hm hmarks)
        exact Node.noLater_of_start_le source hstart

/-- The bytes of a file of two lines. -/
def unclosedSource : Bytes := Bytes.ofText "a\nb ((c"

/-- The tree of that file. On the first line a semicolon is missing, and on the second an error lies inside
another one. -/
def unclosedRoot : Node :=
  .mk { kind := .program, start := 0, stop := 7 } [
    .mk { kind := .other "expression_statement", start := 0, stop := 1 } [
      .mk { kind := .identifier, start := 0, stop := 1 } [],
      .mk { kind := .other ";", start := 1, stop := 1, named := false, missing := true } []],
    .mk { kind := .error, start := 2, stop := 7 } [
      .mk { kind := .identifier, start := 2, stop := 3 } [],
      .mk { kind := .error, start := 4, stop := 7 } [
        .mk { kind := .other "(", start := 4, stop := 5, named := false } [],
        .mk { kind := .other "(", start := 5, stop := 6, named := false } [],
        .mk { kind := .identifier, start := 6, stop := 7 } []]]]

/-- The missing semicolon, an anonymous node, is reported. -/
theorem ofRoot_reports_first_unclosedRoot :
    unclosedRoot.hasError = true ∧ unclosedRoot.WellNested ∧
    ofRoot unclosedSource unclosedRoot none = .error ⟨none, some (1, 2)⟩ ∧
    ∀ other m, unclosedRoot.at? other = some m → m.marksError = true →
      Bytes.NoLater (1, 2) (m.line unclosedSource, m.column unclosedSource) := by
  have herror : unclosedRoot.hasError = true := by decide +kernel
  have hnested : unclosedRoot.WellNested := by decide +kernel
  have hfound : (unclosedRoot.firstError?.map fun n => (n.line unclosedSource, n.column unclosedSource)) =
      some (1, 2) := by decide +kernel
  have hreported : ofRoot unclosedSource unclosedRoot none = .error ⟨none, some (1, 2)⟩ := by
    rw [ofRoot, if_pos herror, hfound]
  obtain ⟨-, hreports, -⟩ := ofRoot_reports_first unclosedSource unclosedRoot none
  obtain ⟨position, hposition, -, hfirst⟩ := hreports herror
  rw [hreported] at hposition
  cases hposition
  obtain ⟨place, n, -, -, hmin⟩ := hfirst (1, 2) rfl
  exact ⟨herror, hnested, hreported, hmin hnested⟩

end SourceTree

end Syntax

end JsxTagger
