import JsxTagger.Proofs.Component.Markup
import JsxTagger.Proofs.Instrument.Wrapping
import JsxTagger.Proofs.Text.Bytes

/-!
# Chains of any length

`memoFile n` is the file with `() => <b />` in `n` calls of `memo`. Whatever `n` is, its tree can be
traced (`traceable_memoFile`), and its calls are a chain around the function
(`wrapperChain_memoFile`). In `memoInside n` the calls are the value of a variable inside a function.
-/

namespace JsxTagger.Instrument

open Classify Syntax

variable {room : Nat}

/-- The parameters of a function without any, at an offset. -/
def noParametersAt (start : Nat) : Node :=
  .mk { kind := .other "formal_parameters", start, stop := start + 2, field := some .parameters } [
    .mk { kind := .other "(", start, stop := start + 1, named := false } [],
    .mk { kind := .other ")", start := start + 1, stop := start + 2, named := false } []]

/-- The function `() => <b />` at an offset. -/
def arrowAt (start : Nat) : Node :=
  .mk { kind := .arrowFunction, start, stop := start + 11 } [
    noParametersAt start,
    .mk { kind := .other "=>", start := start + 3, stop := start + 5, named := false } [],
    markupAt (start + 6) (some .body)]

/-- The callee of a call of `memo` at an offset. -/
def memoName (start : Nat) : Node :=
  .mk { kind := .identifier, start, stop := start + 4, field := some .function } []

/-- The arguments of a call of `memo` at an offset, around something with a number of bytes. -/
def memoList (start width : Nat) (inside : Node) : Node :=
  .mk { kind := .arguments, start := start + 4, stop := start + width + 6, field := some .arguments } [
    .mk { kind := .other "(", start := start + 4, stop := start + 5, named := false } [],
    inside,
    .mk { kind := .other ")", start := start + width + 5, stop := start + width + 6, named := false } []]

/-- The call `memo(…)` at an offset, around something with a number of bytes. -/
def memoCall (start width : Nat) (inside : Node) : Node :=
  .mk { kind := .callExpression, start, stop := start + width + 6 }
    [memoName start, memoList start width inside]

/-- The function `() => <b />` in a number of calls of `memo`, at an offset. -/
def memoAt : Nat → Nat → Node
  | 0, start => arrowAt start
  | n + 1, start => memoCall start (6 * n + 11) (memoAt n (start + 5))

/-- The statement in the file. -/
def memoStatement (n : Nat) : Node :=
  .mk { kind := .other "expression_statement", start := 0, stop := 6 * n + 11 } [memoAt n 0]

/-- The file with nothing but `() => <b />` in a number of calls of `memo`. -/
def memoFile (n : Nat) : SourceTree where
  source := (List.replicate n (Bytes.ofText "memo(")).flatten ++ Bytes.ofText "() => <b />" ++
    (List.replicate n (Bytes.ofText ")")).flatten
  root := .mk { kind := .program, start := 0, stop := 6 * n + 11 } [memoStatement n]

theorem label_memoAt (n start : Nat) : (memoAt n start).start = start ∧
    (memoAt n start).stop = start + 6 * n + 11 ∧ (memoAt n start).named = true := by
  cases n with
  | zero => exact ⟨rfl, rfl, rfl⟩
  | succ n => exact ⟨rfl, by show start + (6 * n + 11) + 6 = _; omega, rfl⟩

/-- The nodes of a call of `memo` are the call, those inside and some that are no calls. -/
theorem mem_nodes_memoCall {start width : Nat} {inside m : Node}
    (h : m ∈ (memoCall start width inside).nodes) :
    m = memoCall start width inside ∨ m ∈ inside.nodes ∨
      m.kind ≠ .callExpression ∧ m.kind ≠ .variableDeclarator := by
  rcases Node.mem_nodes_iff.mp h with h | ⟨c, hc, h⟩
  · exact .inl h
  · simp only [memoCall, Node.children, List.mem_cons, List.not_mem_nil, or_false] at hc
    rcases hc with rfl | rfl
    · rw [Node.mem_nodes_leaf.mp h]
      exact .inr (.inr (by simp [Node.kind, Node.label]))
    · rcases Node.mem_nodes_iff.mp h with rfl | ⟨c, hc, hm⟩
      · exact .inr (.inr (by simp [memoList, Node.kind, Node.label]))
      · simp only [memoList, Node.children, List.mem_cons, List.not_mem_nil, or_false] at hc
        rcases hc with rfl | rfl | rfl
        · rw [Node.mem_nodes_leaf.mp hm]
          exact .inr (.inr (by simp [Node.kind, Node.label]))
        · exact .inr (.inl hm)
        · rw [Node.mem_nodes_leaf.mp hm]
          exact .inr (.inr (by simp [Node.kind, Node.label]))

theorem mem_nodes_arrowAt {start : Nat} {m : Node} (h : m ∈ (arrowAt start).nodes) :
    m.kind ≠ .callExpression ∧ m.kind ≠ .variableDeclarator := by
  simp only [arrowAt, noParametersAt, markupAt, Node.nodes_eq, Node.children, List.flatMap_cons,
    List.flatMap_nil, List.append_nil, List.cons_append, List.nil_append, List.mem_cons,
    List.not_mem_nil, or_false] at h
  rcases h with rfl | rfl | rfl | rfl | rfl | rfl | rfl | rfl | rfl <;> simp [Node.kind, Node.label]

/-- A call among such nodes is one of the calls of `memo`, and no declarator is among them. -/
theorem mem_nodes_memoAt {n start : Nat} {m : Node} (h : m ∈ (memoAt n start).nodes) :
    (∃ k st, m = memoAt (k + 1) st) ∨ m.kind ≠ .callExpression ∧ m.kind ≠ .variableDeclarator := by
  induction n generalizing start with
  | zero => exact .inr (mem_nodes_arrowAt h)
  | succ n ih =>
    rcases mem_nodes_memoCall h with hm | hm | hm
    · exact .inl ⟨n, start, hm⟩
    · exact ih hm
    · exact .inr hm

theorem wellNested_memoCall {start width : Nat} {inside : Node} (h : inside.WellNested)
    (hstart : inside.start = start + 5) (hstop : inside.stop = start + width + 5) :
    (memoCall start width inside).WellNested := by
  obtain ⟨label, children⟩ := inside
  simp only [Node.start, Node.stop, Node.label] at hstart hstop
  have hlist : (memoList start width (.mk label children)).WellNested := by
    refine Node.wellNested_iff.mpr ⟨Node.isWellPlaced_iff.mpr ?_, ?_⟩
    · simp [memoList, Node.children, Node.start, Node.stop, Node.label, hstart, hstop]
      omega
    · simp only [memoList, Node.children, List.forall_mem_cons, h, true_and]
      exact ⟨Node.wellNested_leaf (by simp), Node.wellNested_leaf (by simp), List.forall_mem_nil _⟩
  refine Node.wellNested_iff.mpr ⟨Node.isWellPlaced_iff.mpr ?_, ?_⟩
  · simp [memoCall, memoName, memoList, Node.start, Node.stop, Node.label, Node.children]
    omega
  · simp only [memoCall, Node.children, List.forall_mem_cons, hlist, true_and]
    exact ⟨Node.wellNested_leaf (by simp), List.forall_mem_nil _⟩

theorem wellNested_arrowAt (start : Nat) : (arrowAt start).WellNested := by
  intro m hm
  simp only [arrowAt, noParametersAt, markupAt, Node.nodes_eq, Node.children, List.flatMap_cons,
    List.flatMap_nil, List.append_nil, List.cons_append, List.nil_append, List.mem_cons,
    List.not_mem_nil, or_false] at hm
  rcases hm with rfl | rfl | rfl | rfl | rfl | rfl | rfl | rfl | rfl <;>
    simp [Node.isWellPlaced_iff, Node.start, Node.stop, Node.label, Node.children]

theorem wellNested_memoAt (n start : Nat) : (memoAt n start).WellNested := by
  induction n generalizing start with
  | zero => exact wellNested_arrowAt start
  | succ n ih =>
    obtain ⟨hstart, hstop, -⟩ := label_memoAt n (start + 5)
    exact wellNested_memoCall (ih _) hstart (by omega)

theorem namedChildren_memoList {start width : Nat} {inside : Node} (hnamed : inside.named = true) :
    (memoList start width inside).namedChildren = [inside] := by
  rw [memoList, Node.namedChildren, Node.children,
    List.filter_cons_of_neg (by simp [Node.named, Node.label]), List.filter_cons_of_pos hnamed]
  rfl

theorem sites_memoCall {start width : Nat} {inside : Node} (hnamed : inside.named = true) :
    (memoCall start width inside).sites = ⟨memoCall start width inside, []⟩ ::
      ⟨memoName start, [memoCall start width inside]⟩ ::
      ⟨memoList start width inside, [memoCall start width inside]⟩ ::
      inside.sites.map (Site.lift [memoList start width inside, memoCall start width inside]) := by
  have hchildren : (memoCall start width inside).namedChildren =
      [memoName start, memoList start width inside] := rfl
  rw [Node.sites_eq, hchildren, List.flatMap_cons, List.flatMap_singleton, memoName, Node.sites_leaf,
    Node.sites_eq (memoList start width inside), namedChildren_memoList hnamed,
    List.flatMap_singleton]
  simp [Site.lift]

/-- The calls in such nodes are calls of `memo`, and nothing but calls and lists of arguments is above
them. -/
theorem mem_sites_memoAt {n start : Nat} {t : Site} (h : t ∈ (memoAt n start).sites)
    (hcall : t.node.kind = .callExpression) :
    (∃ k st, t.node = memoAt (k + 1) st) ∧
      ∀ a ∈ t.above, a.kind = .callExpression ∨ a.kind = .arguments := by
  induction n generalizing start t with
  | zero => exact absurd hcall (mem_nodes_arrowAt (Node.mem_nodes_of_mem_sites h)).1
  | succ n ih =>
    rw [memoAt, sites_memoCall (label_memoAt n (start + 5)).2.2] at h
    simp only [List.mem_cons, List.mem_map] at h
    rcases h with rfl | rfl | rfl | ⟨u, hu, rfl⟩
    · exact ⟨⟨n, start, rfl⟩, nofun⟩
    · cases hcall
    · cases hcall
    · obtain ⟨hnode, habove⟩ := ih hu hcall
      refine ⟨hnode, fun a ha => ?_⟩
      rw [Site.lift_above, List.mem_append, List.mem_cons, List.mem_singleton] at ha
      rcases ha with ha | rfl | rfl
      · exact habove a ha
      · exact .inr rfl
      · exact .inl rfl

theorem filter_walk_arrowAt (start : Nat) :
    ((arrowAt start).walk.filter fun m => m.kind.isAnchor && m.kind != .callExpression) =
      [arrowAt start] := by
  have hchildren : (arrowAt start).namedChildren =
      [noParametersAt start, markupAt (start + 6) (some .body)] := rfl
  have hname : (markupAt (start + 6) (some .body)).namedChildren =
      [.mk { kind := .identifier, start := start + 6 + 1, stop := start + 6 + 2,
             field := some .name } []] := rfl
  rw [Node.walk_eq, hchildren, List.flatMap_cons, List.flatMap_singleton,
    Node.walk_of_namedChildren (n := noParametersAt start) rfl, Node.walk_eq (markupAt _ _), hname,
    List.flatMap_singleton, Node.walk_of_namedChildren (n := .mk _ []) rfl]
  rfl

/-- The one anchor that is no call is the function. -/
theorem filter_walk_memoAt (n start : Nat) :
    ((memoAt n start).walk.filter fun m => m.kind.isAnchor && m.kind != .callExpression) =
      [arrowAt (start + 5 * n)] := by
  induction n generalizing start with
  | zero => exact filter_walk_arrowAt start
  | succ n ih =>
    rw [memoAt, ← Node.map_node_sites, sites_memoCall (label_memoAt n (start + 5)).2.2]
    simp only [List.map_cons, List.map_map, Function.comp_def, Site.lift_node, Node.map_node_sites]
    rw [List.filter_cons_of_neg Bool.false_ne_true, List.filter_cons_of_neg Bool.false_ne_true,
      List.filter_cons_of_neg Bool.false_ne_true, ih, show start + 5 + 5 * n = start + 5 * (n + 1) by omega]

/-- The calls inside the outermost one. -/
def memoInner : Nat → Nat → List Node
  | 0, _ => []
  | n + 1, start => memoAt (n + 1) start :: memoInner n (start + 5)

theorem length_memoInner (n start : Nat) : (memoInner n start).length = n := by
  induction n generalizing start with
  | zero => rfl
  | succ n ih => rw [memoInner, List.length_cons, ih]

theorem isWrapperCall_memoCall {source : Bytes} {start width : Nat} {inside : Node}
    (h : source.slice start (start + 4) = Bytes.ofText "memo") :
    IsWrapperCall source (memoCall start width inside) := by
  have htext : (memoName start).text source = "memo" := by
    rw [Node.text, show (memoName start).start = start from rfl,
      show (memoName start).stop = start + 4 from rfl, h, Bytes.text?_ofText, Option.getD_some]
  refine ⟨rfl, ?_⟩
  rw [wrapperName?, show (memoCall start width inside).child? .function = some (memoName start) from rfl]
  have hkind : (memoName start).kind = .identifier := rfl
  simp only [calleeIs, hkind, htext, if_true]
  decide

theorem firstArgument?_memoAt (n start : Nat) :
    firstArgument? (memoAt (n + 1) start) = some (memoAt n (start + 5)) := by
  have hkind : (memoAt n (start + 5)).kind ≠ .comment ∧
      (memoAt n (start + 5)).kind ≠ .parenthesizedExpression := by
    cases n <;> exact ⟨nofun, nofun⟩
  rw [firstArgument?, show (memoAt (n + 1) start).child? .arguments =
    some (memoList start (6 * n + 11) (memoAt n (start + 5))) from rfl, Option.bind_some,
    Node.firstNamedChild?, namedChildren_memoList (label_memoAt n (start + 5)).2.2,
    List.find?_cons_of_pos (by simp [hkind.1]), Option.bind_some, Node.unwrapped?, if_neg hkind.2]

/-- The calls of `memo` are a chain around the function, if they read so. -/
theorem wrapperChain_memoAt {source : Bytes} {n start : Nat}
    (h : ∀ j ≤ n, source.slice (start + 5 * j) (start + 5 * j + 4) = Bytes.ofText "memo") :
    WrapperChain source (memoAt (n + 1) start) (memoInner n (start + 5))
      (arrowAt (start + 5 * (n + 1))) := by
  have hcall : IsWrapperCall source (memoAt (n + 1) start) := isWrapperCall_memoCall (h 0 (by omega))
  induction n generalizing start with
  | zero => exact .last hcall (firstArgument?_memoAt 0 start) rfl
  | succ n ih =>
    refine .next hcall (firstArgument?_memoAt (n + 1) start) ?_
    have hrest : ∀ j ≤ n,
        source.slice (start + 5 + 5 * j) (start + 5 + 5 * j + 4) = Bytes.ofText "memo" := by
      intro j hj
      rw [show start + 5 + 5 * j = start + 5 * (j + 1) by omega]
      exact h (j + 1) (by omega)
    have hinner := ih hrest (isWrapperCall_memoCall (h 1 (by omega)))
    rwa [show start + 5 + 5 * (n + 1) = start + 5 * (n + 1 + 1) by omega] at hinner

/-- A text in which a number of calls of `memo` are opened one after another has the callees where one
expects them. -/
theorem slice_openings (front back : Bytes) {n j : Nat} (hj : j < n) :
    (front ++ (List.replicate n (Bytes.ofText "memo(")).flatten ++ back).slice (front.length + 5 * j)
      (front.length + 5 * j + 4) = Bytes.ofText "memo" := by
  obtain ⟨k, rfl⟩ : ∃ k, n = j + (k + 1) := ⟨n - j - 1, by omega⟩
  have hlength : (front ++ (List.replicate j (Bytes.ofText "memo(")).flatten).length =
      front.length + 5 * j := by
    simp [List.length_flatten, show (Bytes.ofText "memo(").length = 5 from rfl, Nat.mul_comm]
  rw [Bytes.slice, List.replicate_add, List.flatten_append, ← List.append_assoc, List.append_assoc,
    List.drop_left' hlength, List.replicate_succ, List.flatten_cons, Nat.add_sub_cancel_left]
  rfl

theorem slice_memoFile {n j : Nat} (hj : j < n) :
    (memoFile n).source.slice (5 * j) (5 * j + 4) = Bytes.ofText "memo" := by
  have hslice := slice_openings []
    (Bytes.ofText "() => <b />" ++ (List.replicate n (Bytes.ofText ")")).flatten) hj
  rwa [List.nil_append, ← List.append_assoc, List.length_nil, Nat.zero_add] at hslice

/-- The site of the outermost call in the file. -/
def memoSite (n : Nat) : Site := ⟨memoAt n 0, [memoStatement n, (memoFile n).root]⟩

theorem mem_nodes_memoFile {n : Nat} {m : Node} (h : m ∈ (memoFile n).root.nodes) :
    (∃ k st, m = memoAt (k + 1) st) ∨ m.kind ≠ .callExpression ∧ m.kind ≠ .variableDeclarator := by
  rcases Node.mem_nodes_iff.mp h with rfl | ⟨statement, hstatement, h⟩
  · exact .inr ⟨nofun, nofun⟩
  · obtain rfl := List.mem_singleton.mp hstatement
    rcases Node.mem_nodes_iff.mp h with rfl | ⟨c, hc, h⟩
    · exact .inr ⟨nofun, nofun⟩
    · obtain rfl := List.mem_singleton.mp hc
      exact mem_nodes_memoAt h

theorem wellNested_memoFile (n : Nat) : (memoFile n).root.WellNested := by
  have houter {label : Label} {c : Node} (hc : c.WellNested) (hstart : label.start = c.start)
      (hstop : c.stop = label.stop) : (Node.mk label [c]).WellNested := by
    refine Node.wellNested_iff.mpr ⟨Node.isWellPlaced_iff.mpr ⟨?_, ?_, List.pairwise_singleton _ _⟩, ?_⟩
    · show label.start ≤ label.stop
      have := hc.start_le_stop
      omega
    · rintro c' hc'
      obtain rfl := List.mem_singleton.mp hc'
      exact ⟨hstart.le, hstop.le⟩
    · rintro c' hc'
      obtain rfl := List.mem_singleton.mp hc'
      exact hc
  obtain ⟨hstart, hstop, -⟩ := label_memoAt n 0
  have hstatement : (memoStatement n).WellNested :=
    houter (wellNested_memoAt n 0) hstart.symm (hstop.trans (congrArg (· + 11) (Nat.zero_add _)))
  exact houter hstatement rfl rfl

theorem sites_memoFile (n : Nat) :
    (memoFile n).root.sites = ⟨(memoFile n).root, []⟩ :: ⟨memoStatement n, [(memoFile n).root]⟩ ::
      (memoAt n 0).sites.map (Site.lift (memoSite n).above) := by
  have hone {n c : Node} (hc : n.namedChildren = [c]) :
      n.sites = ⟨n, []⟩ :: c.sites.map (Site.lift [n]) := by
    rw [Node.sites_eq, hc, List.flatMap_singleton]
  have hstatement : (memoStatement n).namedChildren = [memoAt n 0] := by
    rw [memoStatement, Node.namedChildren, Node.children,
      List.filter_cons_of_pos (label_memoAt n 0).2.2]
    rfl
  rw [hone (c := memoStatement n) rfl, hone hstatement]
  simp [Site.lift, Function.comp_def, memoSite]

/-- Below a call of `memo` no call starts where it starts. -/
theorem start_ne_of_mem_walk_memoAt {k st : Nat} {m : Node} (h : m ∈ (memoAt (k + 1) st).walk.tail)
    (hcall : m.kind = .callExpression) : m.start ≠ st := by
  rw [memoAt, ← Node.map_node_sites, sites_memoCall (label_memoAt k (st + 5)).2.2] at h
  simp only [List.map_cons, List.map_map, Function.comp_def, Site.lift_node, Node.map_node_sites,
    List.tail_cons, List.mem_cons] at h
  rcases h with rfl | rfl | h
  · cases hcall
  · cases hcall
  · have hrange := (wellNested_memoAt k (st + 5)).range (Node.mem_nodes_of_mem_walk h)
    rw [(label_memoAt k (st + 5)).1] at hrange
    omega

theorem isAscii_memoFile (n : Nat) : (memoFile n).source.isAscii = true := by
  have hpart (b : Bytes) (hb : b.isAscii = true) :
      Bytes.isAscii (List.replicate n b).flatten = true := by
    rw [Bytes.isAscii] at hb
    rw [Bytes.isAscii, List.all_flatten, List.all_replicate, hb]
    simp
  rw [memoFile, Bytes.isAscii, List.all_append, List.all_append, ← Bytes.isAscii, ← Bytes.isAscii,
    ← Bytes.isAscii, hpart _ (by decide), hpart _ (by decide)]
  decide

/-- The calls in the file are calls of `memo`, and neither a function nor a class body is above them. -/
theorem mem_sites_memoFile {n : Nat} {t : Site} (h : t ∈ (memoFile n).root.sites)
    (hcall : t.node.kind = .callExpression) :
    (∃ k st, t.node = memoAt (k + 1) st) ∧ ∀ a ∈ t.above, a.kind.isNestedScope = false := by
  rw [sites_memoFile, List.mem_cons, List.mem_cons, List.mem_map] at h
  rcases h with rfl | rfl | ⟨u, hu, rfl⟩
  · cases hcall
  · cases hcall
  · obtain ⟨hnode, habove⟩ := mem_sites_memoAt hu hcall
    refine ⟨hnode, fun a ha => ?_⟩
    rcases List.mem_append.mp ha with ha | ha
    · rcases habove a ha with hkind | hkind
      · rw [hkind]
        rfl
      · rw [hkind]
        rfl
    · simp only [memoSite, List.mem_cons, List.not_mem_nil, or_false] at ha
      rcases ha with rfl | rfl <;> rfl

/-- The file can be traced, however many calls there are. -/
theorem traceable_memoFile (n : Nat) : Traceable (memoFile n) where
  nested := wellNested_memoFile n
  keys := by
    rw [← Node.map_node_sites, sites_memoFile]
    simp only [List.map_cons, List.map_map, Function.comp_def, Site.lift_node, Node.map_node_sites]
    rw [List.filter_cons_of_neg Bool.false_ne_true, List.filter_cons_of_neg Bool.false_ne_true,
      filter_walk_memoAt]
    exact List.nodup_singleton _
  inside s hs hcall m hm hkind := by
    obtain ⟨⟨k, st, hnode⟩, -⟩ := mem_sites_memoFile hs hcall.1
    rw [hnode] at hm ⊢
    exact start_ne_of_mem_walk_memoAt hm hkind
  around s hs hcall m hm hkind := by
    rw [(mem_sites_memoFile hs hcall.1).2 m hm] at hkind
    cases hkind
  legible := by
    rintro ⟨m, -, hm⟩
    rw [Node.isLegible_of_isAscii (isAscii_memoFile n)] at hm
    cases hm
  values m hm hkind := by
    rcases mem_nodes_memoFile hm with ⟨k, st, rfl⟩ | ⟨-, hno⟩
    · cases hkind
    · exact absurd hkind hno
  lists m hm hkind := by
    rcases mem_nodes_memoFile hm with ⟨k, st, rfl⟩ | ⟨hno, -⟩
    · rintro list ⟨⟩
      exact ⟨rfl, .inl rfl⟩
    · exact absurd hkind hno
  wide m hm hkind := by
    rcases mem_nodes_memoFile hm with ⟨k, st, rfl⟩ | ⟨hno, -⟩
    · obtain ⟨hstart, hstop, -⟩ := label_memoAt (k + 1) st
      omega
    · exact absurd hkind hno

theorem memoSite_mem (n : Nat) : memoSite n ∈ (memoFile n).root.sites := by
  rw [sites_memoFile]
  refine List.mem_cons_of_mem _ (List.mem_cons_of_mem _ (List.mem_map.mpr ⟨⟨memoAt n 0, []⟩, ?_, rfl⟩))
  exact Node.mem_sites_nil.mpr rfl

/-- The calls in the file are a chain around the function, and the outermost one is not wrapped. -/
theorem wrapperChain_memoFile (n : Nat) :
    WrapperChain (memoFile (n + 1)).source (memoSite (n + 1)).node (memoInner n 5)
        (arrowAt (5 * (n + 1))) ∧
      isWrapped (memoFile (n + 1)).source (memoSite (n + 1)) = false := by
  refine ⟨?_, rfl⟩
  have hmemo : ∀ j ≤ n,
      (memoFile (n + 1)).source.slice (0 + 5 * j) (0 + 5 * j + 4) = Bytes.ofText "memo" := by
    intro j hj
    rw [Nat.zero_add]
    exact slice_memoFile (Nat.lt_succ_of_le hj)
  have hchain := wrapperChain_memoAt hmemo
  rwa [Nat.zero_add, Nat.zero_add] at hchain

/-! ## Chains inside a function -/

/-- The value of the variable in `memoInside`. -/
def memoValue (n : Nat) : Node :=
  .mk { kind := .parenthesizedExpression, start := 18, stop := 6 * n + 31, field := some .value } [
    .mk { kind := .other "(", start := 18, stop := 19, named := false } [],
    memoAt n 19,
    .mk { kind := .other ")", start := 6 * n + 30, stop := 6 * n + 31, named := false } []]

/-- The declaration of the variable in `memoInside`. -/
def memoBinding (n : Nat) : Node :=
  .mk { kind := .variableDeclarator, start := 14, stop := 6 * n + 31 } [
    .mk { kind := .identifier, start := 14, stop := 15, field := some .name } [],
    .mk { kind := .other "=", start := 16, stop := 17, named := false } [],
    memoValue n]

/-- The statement with the declaration in `memoInside`. -/
def memoDeclaration (n : Nat) : Node :=
  .mk { kind := .lexicalDeclaration, start := 8, stop := 6 * n + 31 } [
    .mk { kind := .other "const", start := 8, stop := 13, named := false,
          field := some (.other "kind") } [],
    memoBinding n]

/-- The body of the function in `memoInside`. -/
def memoBlock (n : Nat) : Node :=
  .mk { kind := .other "statement_block", start := 6, stop := 6 * n + 33, field := some .body } [
    .mk { kind := .other "\x7b", start := 6, stop := 7, named := false } [],
    memoDeclaration n,
    .mk { kind := .other "\x7d", start := 6 * n + 32, stop := 6 * n + 33, named := false } []]

/-- The function in `memoInside`. -/
def memoFunction (n : Nat) : Node :=
  .mk { kind := .arrowFunction, start := 0, stop := 6 * n + 33 } [
    noParametersAt 0,
    .mk { kind := .other "=>", start := 3, stop := 5, named := false } [],
    memoBlock n]

/-- The statement in `memoInside`. -/
def memoExpression (n : Nat) : Node :=
  .mk { kind := .other "expression_statement", start := 0, stop := 6 * n + 33 } [memoFunction n]

/-- The file in which a function binds `() => <b />` in a number of calls of `memo` to a variable. -/
def memoInside (n : Nat) : SourceTree where
  source := Bytes.ofText "() => \x7b const A = (" ++ (memoFile n).source ++ Bytes.ofText ") \x7d"
  root := .mk { kind := .program, start := 0, stop := 6 * n + 33 } [memoExpression n]

/-- The nodes around the declaration in `memoInside`, from the inside to the outside. -/
def memoAround (n : Nat) : List Node :=
  [memoDeclaration n, memoBlock n, memoFunction n, memoExpression n, (memoInside n).root]

theorem isAscii_memoInside (n : Nat) : (memoInside n).source.isAscii = true := by
  rw [memoInside, Bytes.isAscii, List.all_append, List.all_append, ← Bytes.isAscii, ← Bytes.isAscii,
    ← Bytes.isAscii, isAscii_memoFile]
  decide

theorem memoBinding_mem (n : Nat) : ⟨memoBinding n, memoAround n⟩ ∈ (memoInside n).root.sites := by
  simp only [memoAround, Node.mem_sites_cons, Node.mem_sites_nil, Node.mem_namedChildren]
  simp [Node.children, Node.named, Node.label, memoBinding, memoInside, memoExpression, memoFunction,
    memoBlock, memoDeclaration]

/-- The site of the outermost call in `memoInside`. -/
def memoInsideSite (n : Nat) : Site := ⟨memoAt n 19, memoValue n :: memoBinding n :: memoAround n⟩

theorem memoInsideSite_mem (n : Nat) : memoInsideSite n ∈ (memoInside n).root.sites := by
  refine Node.mem_sites_cons.mpr ⟨Node.mem_sites_cons.mpr ⟨memoBinding_mem n, ?_⟩, ?_⟩
  · exact Node.mem_namedChildren.mpr ⟨by simp [memoBinding, Node.children], rfl⟩
  · exact Node.mem_namedChildren.mpr ⟨by simp [memoValue, Node.children], (label_memoAt n 19).2.2⟩

theorem filter_walk_singleton {p : Node → Bool} {n c : Node} (h : n.namedChildren = [c]) :
    n.walk.filter p = [n].filter p ++ c.walk.filter p := by
  rw [Node.walk_eq, h, List.flatMap_singleton, ← List.singleton_append, List.filter_append]

theorem filter_walk_pair {p : Node → Bool} {n leaf c : Node} (h : n.namedChildren = [leaf, c])
    (hleaf : leaf.namedChildren = []) (hp : p leaf = false) :
    n.walk.filter p = [n].filter p ++ c.walk.filter p := by
  have hnone : [leaf].filter p = [] := by
    rw [List.filter_singleton, hp]
    rfl
  rw [Node.walk_eq, h, List.flatMap_cons, List.flatMap_singleton, Node.walk_of_namedChildren hleaf,
    ← List.singleton_append, List.filter_append, List.filter_append, hnone, List.nil_append]

/-- The variable is the only declaration. -/
theorem filter_walk_memoInside (n : Nat) :
    (memoInside n).root.walk.filter (·.kind.isNamedDeclaration) = [memoBinding n] := by
  have hinner : (memoAt n 19).walk.filter (·.kind.isNamedDeclaration) = [] := by
    have hanchor : ∀ m : Node, m.kind.isNamedDeclaration = true →
        (m.kind.isAnchor && m.kind != .callExpression) = true := by
      intro m
      cases m.kind <;> simp [Kind.isNamedDeclaration, Kind.isAnchor, Kind.isClass]
    rw [List.filter_eq_nil_iff]
    intro m hm hnamed
    have hfilter : m ∈ (memoAt n 19).walk.filter fun m =>
        m.kind.isAnchor && m.kind != .callExpression :=
      List.mem_filter.mpr ⟨hm, hanchor m hnamed⟩
    rw [filter_walk_memoAt, List.mem_singleton] at hfilter
    rw [hfilter] at hnamed
    cases hnamed
  have hvalue : (memoValue n).namedChildren = [memoAt n 19] := by
    rw [memoValue, Node.namedChildren, Node.children, List.filter_cons_of_neg Bool.false_ne_true,
      List.filter_cons_of_pos (label_memoAt n 19).2.2]
    rfl
  have hvalue : (memoValue n).namedChildren = [memoAt n 19] := by
    rw [memoValue, Node.namedChildren, Node.children, List.filter_cons_of_neg Bool.false_ne_true,
      List.filter_cons_of_pos (label_memoAt n 19).2.2]
    rfl
  have hbinding : (memoBinding n).walk.filter (·.kind.isNamedDeclaration) = [memoBinding n] := by
    rw [filter_walk_pair rfl rfl rfl, filter_walk_singleton hvalue, hinner]
    rfl
  have hfunction : (memoFunction n).walk.filter (·.kind.isNamedDeclaration) = [memoBinding n] := by
    rw [filter_walk_pair rfl rfl rfl, filter_walk_singleton rfl, filter_walk_singleton rfl, hbinding]
    rfl
  rw [filter_walk_singleton rfl, filter_walk_singleton rfl, hfunction]
  rfl

theorem wrapperChain_memoInside (n : Nat) :
    WrapperChain (memoInside (n + 1)).source (memoAt (n + 1) 19) (memoInner n 24)
      (arrowAt (19 + 5 * (n + 1))) := by
  refine wrapperChain_memoAt fun j hj => ?_
  have hslice := slice_openings (Bytes.ofText "() => \x7b const A = (")
    (Bytes.ofText "() => <b />" ++ ((List.replicate (n + 1) (Bytes.ofText ")")).flatten ++
      Bytes.ofText ") \x7d")) (Nat.lt_succ_of_le hj)
  have hlength : (Bytes.ofText "() => \x7b const A = (").length = 19 := rfl
  rw [hlength] at hslice
  rw [memoInside, memoFile]
  simpa only [List.append_assoc] using hslice

theorem boundValue?_memoBinding (n : Nat) :
    boundValue? (memoBinding (n + 1)) = some (memoAt (n + 1) 19) := by
  have hvalue : (memoBinding (n + 1)).child? .value = some (memoValue (n + 1)) := rfl
  have hfirst : (memoValue (n + 1)).firstNamedChild? = some (memoAt (n + 1) 19) := rfl
  have hkind : (memoAt (n + 1) 19).kind ≠ .parenthesizedExpression := by
    show Kind.callExpression ≠ _
    decide
  rw [boundValue?, hvalue, Option.bind_some, unwrapped?_eq_some_iff]
  exact .inside rfl hfirst (.bare hkind)

theorem anchorSite_memoInsideSite (n : Nat) :
    anchorSite (memoInsideSite (n + 1)) = ⟨memoBinding (n + 1), memoAround (n + 1)⟩ := by
  have houter : outer? (memoInsideSite (n + 1)) =
      some ⟨memoBinding (n + 1), memoAround (n + 1)⟩ := rfl
  have hbinding : bindingDeclarator? (memoInsideSite (n + 1)) = some (memoBinding (n + 1)) := by
    have hhead : (enclosing (memoInsideSite (n + 1))).head? = some (memoBinding (n + 1)) := rfl
    have hvalue := boundValue?_memoBinding n
    rw [boundValue?] at hvalue
    rw [bindingDeclarator?, hhead]
    dsimp only
    rw [if_pos (show (memoBinding (n + 1)).kind = .variableDeclarator from rfl), hvalue]
    simp [memoInsideSite]
  rw [anchorSite, hbinding, houter]
  rfl

/-- If fewer calls are left than wrappers stand inside each other, the function in them is not found. -/
theorem functionObstacle?_memoBinding {n : Nat} (hdeep : room ≤ n) :
    functionObstacle? room (memoInside (n + 1)).source (memoBinding (n + 1)) = some .tooDeep := by
  have hcall : outerCall? (memoBinding (n + 1)) = some (memoAt (n + 1) 19) := by
    have hvalue := boundValue?_memoBinding n
    rw [boundValue?] at hvalue
    rw [outerCall?, if_pos (show (memoBinding (n + 1)).kind = .variableDeclarator from rfl), hvalue]
    rfl
  rw [functionObstacle?, hcall]
  dsimp only
  rw [(wrapperChain_memoInside n).wrapperDepth_eq, length_memoInner, if_pos (by omega)]

end JsxTagger.Instrument
