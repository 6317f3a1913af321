import JsxTagger.Proofs.Instrument.Applicable

/-!
# Runs that come to an end

A run over a tree of the grammar yields a text that has a byte form, provided that the ids have one, the
locators can be looked up and wrappers are not nested too deep (`Grammatical.exists_run`). A file that is
instrumented in this way either has no tree or becomes such a text (`instrumentSource_cases`).

How many ids a run draws does not depend on the ids, and two runs that draw the same ids yield the same
(`instrumentSource_congr`).
-/

namespace JsxTagger.Instrument

open Classify Syntax

variable {room : Nat}

variable {tree : SourceTree} {ids : IdStream} {cs : List Component} {drawn : Nat}

/-- Nowhere in a tree are wrappers nested too deep. -/
def Shallow (room : Nat) (tree : SourceTree) : Prop :=
  ∀ n ∈ tree.root.walk, functionObstacle? room tree.source n ≠ some .tooDeep

/-- A plan for a tree of the grammar is applied and yields a text with a byte form. -/
theorem Grammatical.exists_apply (h : Grammatical tree) (hids : ∀ n, Text.isPlain (ids n) = true)
    {g : Progress} (hg : planAll room tree ids cs drawn = .ok g) :
    ∃ text, g.planner.plan.apply tree.source = .ok text ∧ Text.isPlain text = true := by
  obtain ⟨text, hsource, hplain⟩ := h.exists_text
  have hplan : g.planner.plan =
      planOf (changesOf tree.source ids drawn (planned tree.source (boundScopes room tree cs))) := by
    rw [(planAll_eq_ok hg).1]
    rfl
  have hmem : ∀ e ∈ g.planner.plan.edits, ∃ c ∈ changesOf tree.source ids drawn
      (planned tree.source (boundScopes room tree cs)),
      e.start = c.start ∧ e.stop = c.stop ∧ e.text = c.text := by
    intro e he
    rw [hplan, edits_planOf] at he
    obtain ⟨q, hq, rfl⟩ := List.mem_map.mp he
    exact ⟨q.1, List.fst_mem_of_mem_zipIdx hq, rfl, rfl, rfl⟩
  have hapart : g.planner.plan.edits.Pairwise Edit.Apart := by
    rw [hplan]
    refine pairwise_edits_planOf ?_
    rw [ranges_changesOf]
    exact h.pairwise_ranges cs
  have hbounds : ∀ e ∈ g.planner.plan.edits, ∃ start stop : Nat, e.start = start ∧
      e.stop = stop ∧ Bytes.isBoundary (Bytes.ofText text) start = true ∧
      Bytes.isBoundary (Bytes.ofText text) stop = true := by
    intro e he
    obtain ⟨c, hc, hstart, hstop, -⟩ := hmem e he
    rw [← hsource]
    exact ⟨c.start, c.stop, hstart, hstop, (h.change_bounds hc).2⟩
  obtain ⟨result, hresult⟩ := Edit.Plan.exists_apply hapart hbounds fun e he => by
    obtain ⟨c, hc, -, -, htext⟩ := hmem e he
    rw [htext]
    exact h.isPlain_change hids hc
  rw [hsource]
  refine ⟨result, hresult, ?_⟩
  exact Edit.Plan.isPlain_of_join hplain (Bytes.isBoundary_zero _)
    (fun e he => hbounds e (Edit.Plan.mem_ordered.mp he)) (Edit.Plan.join_of_apply hresult)

/-- A run over a tree of the grammar comes to an end. -/
theorem Grammatical.exists_run (h : Grammatical tree) (hids : ∀ n, Text.isPlain (ids n) = true)
    (hbindable : Bindable cs) (hshallow : Shallow room tree) (drawn : Nat) :
    ∃ r n log, run room tree ids cs drawn = .ok (r, n, log) ∧ Text.isPlain r.text = true ∧
      ∀ name ∈ r.missing, ∃ text, name = .str text := by
  cases hg : planAll room tree ids cs drawn with
  | error e =>
    cases planAll_eq_error hg with
    | illegible hl => exact absurd hl h.not_hasIllegible
    | locator hc _ hhalf hkey =>
      obtain ⟨hstart, htype⟩ := hbindable.keys _ hc
      rcases hhalf with rfl | rfl
      · rw [hstart] at hkey
        cases hkey
      · rw [htype] at hkey
        cases hkey
    | tooDeep _ hanchor _ hdeep => exact absurd hdeep (hshallow _ hanchor)
    | scope hs ho => exact absurd ho (h.not_scopeObstacle hs)
  | ok g =>
    obtain ⟨text, happly, hplain⟩ := h.exists_apply hids hg
    refine ⟨⟨text, g.planner.plan.length, g.bound, g.missing, g.nested⟩, g.planner.drawn, g.log, ?_,
      hplain, fun name hname => ?_⟩
    · rw [run, hg]
      simp only [bind, Except.bind, happly]
    · rw [(planAll_eq_ok hg).2.2.1] at hname
      obtain ⟨c, hc, rfl⟩ := List.mem_map.mp hname
      exact hbindable.names c (List.mem_filter.mp hc).1

/-- A file with a text that has a byte form has no tree, or it is instrumented. -/
theorem instrumentSource_cases {parse : Parser} {text : String} {path : Option String}
    (hplain : Text.isPlain text = true) (hids : ∀ n, Text.isPlain (ids n) = true)
    (hbindable : Bindable cs)
    (htree : ∀ tree, parse text path = .ok tree → Grammatical tree ∧ Shallow room tree) (drawn : Nat) :
    (∃ fault, instrumentSource room parse ids text cs path drawn = .error (.unparsed fault)) ∨
    ∃ r n log, instrumentSource room parse ids text cs path drawn = .ok (r, n, log) ∧
      Text.isPlain r.text = true ∧ ∀ name ∈ r.missing, ∃ text, name = .str text := by
  rw [instrumentSource]
  split
  · exact .inr ⟨_, _, _, rfl, hplain, nofun⟩
  · rw [Text.encodingError?_eq_none.mpr hplain]
    dsimp only
    split
    · rename_i fault _
      exact .inl ⟨fault, rfl⟩
    · rename_i tree hparse
      obtain ⟨hgrammatical, hshallow⟩ := htree tree hparse
      obtain ⟨r, n, log, hrun, hresult⟩ := hgrammatical.exists_run hids hbindable hshallow drawn
      exact .inr ⟨r, n, log, by rw [hrun]; rfl, hresult⟩

/-- Whether a file has a tree does not depend on the ids. -/
theorem instrumentSource_unparsed {parse : Parser} {text : String} {path : Option String}
    {fault : SyntaxFault}
    (h : instrumentSource room parse ids text cs path drawn = .error (.unparsed fault)) (ids' : IdStream)
    (drawn' : Nat) : instrumentSource room parse ids' text cs path drawn' = .error (.unparsed fault) := by
  rw [instrumentSource] at h ⊢
  split at h
  · cases h
  · rename_i hsome
    rw [if_neg hsome]
    split at h
    · cases h
    · split at h
      · exact h
      · rename_i tree _
        cases hrun : run room tree ids cs drawn <;> rw [hrun] at h <;> cases h

/-! ## The ids that a run draws -/

theorem changesOf_congr {source : Bytes} {ids' : IdStream} {acts : List Act} {drawn' : Nat}
    (h : ∀ k < (Act.tags acts).length, ids' (drawn' + k) = ids (drawn + k)) :
    changesOf source ids' drawn' acts = changesOf source ids drawn acts := by
  induction acts generalizing drawn drawn' with
  | nil => rfl
  | cons act acts ih =>
    cases act with
    | tag element =>
      rw [Act.tags_tag, List.length_cons] at h
      have hfirst : ids' drawn' = ids drawn := h 0 (Nat.succ_pos _)
      have hrest : changesOf source ids' (drawn' + 1) acts =
          changesOf source ids (drawn + 1) acts := ih fun k hk => by
        have hnext := h (k + 1) (Nat.succ_lt_succ hk)
        rwa [Nat.add_comm k 1, ← Nat.add_assoc, ← Nat.add_assoc] at hnext
      rw [changesOf, changesOf, hfirst, hrest]
    | root element name reference =>
      rw [Act.tags_root] at h
      rw [changesOf, changesOf, ih h]
    | thread function =>
      rw [Act.tags_thread] at h
      rw [changesOf, changesOf, ih h]

/-- What a run draws and yields depends on the tree and on the ids that it draws. -/
theorem run_congr {ids' : IdStream} {drawn' n n' : Nat} {r r' : Instrumented} {log log' : List Log.Record}
    (hrun : run room tree ids cs drawn = .ok (r, n, log)) (hrun' : run room tree ids' cs drawn' = .ok (r', n', log')) :
    ∃ k, n = drawn + k ∧ n' = drawn' + k ∧
      ((∀ j < k, ids' (drawn' + j) = ids (drawn + j)) → r' = r) := by
  obtain ⟨g, hg, hrun⟩ := Except.bind_eq_ok.mp hrun
  obtain ⟨g', hg', hrun'⟩ := Except.bind_eq_ok.mp hrun'
  obtain ⟨hplanner, hbound, hmissing, hnested⟩ := planAll_eq_ok hg
  obtain ⟨hplanner', hbound', hmissing', hnested'⟩ := planAll_eq_ok hg'
  cases happly : g.planner.plan.apply tree.source with
  | error e =>
    rw [happly] at hrun
    cases hrun
  | ok text =>
    cases happly' : g'.planner.plan.apply tree.source with
    | error e =>
      rw [happly'] at hrun'
      cases hrun'
    | ok text' =>
      rw [happly] at hrun
      rw [happly'] at hrun'
      cases hrun
      cases hrun'
      refine ⟨(Act.tags (planned tree.source (boundScopes room tree cs))).length, by rw [hplanner]; rfl,
        by rw [hplanner']; rfl, fun hids => ?_⟩
      have hplan : g'.planner.plan = g.planner.plan := by
        rw [hplanner, hplanner', Planner.ofActs, Planner.ofActs, changesOf_congr hids]
      rw [hplan, happly] at happly'
      rw [← Except.ok.inj happly', hplan, hbound, hbound', hmissing, hmissing', hnested, hnested']

theorem instrumentSource_congr {parse : Parser} {text : String} {path : Option String}
    {ids' : IdStream} {drawn' n n' : Nat} {r r' : Instrumented} {log log' : List Log.Record}
    (hrun : instrumentSource room parse ids text cs path drawn = .ok (r, n, log))
    (hrun' : instrumentSource room parse ids' text cs path drawn' = .ok (r', n', log')) :
    ∃ k, n = drawn + k ∧ n' = drawn' + k ∧
      ((∀ j < k, ids' (drawn' + j) = ids (drawn + j)) → r' = r) := by
  rw [instrumentSource] at hrun hrun'
  split at hrun
  · rename_i hempty
    rw [if_pos hempty] at hrun'
    cases hrun
    cases hrun'
    exact ⟨0, rfl, rfl, fun _ => rfl⟩
  · rename_i hsome
    rw [if_neg hsome] at hrun'
    cases hplain : Text.encodingError? text with
    | some cause =>
      rw [hplain] at hrun
      cases hrun
    | none =>
      rw [hplain] at hrun hrun'
      dsimp only at hrun hrun'
      cases hparse : parse text path with
      | error fault =>
        rw [hparse] at hrun
        cases hrun
      | ok tree =>
        rw [hparse] at hrun hrun'
        dsimp only at hrun hrun'
        cases hfirst : run room tree ids cs drawn with
        | error e =>
          rw [hfirst] at hrun
          cases hrun
        | ok found =>
          cases hsecond : run room tree ids' cs drawn' with
          | error e =>
            rw [hsecond] at hrun'
            cases hrun'
          | ok found' =>
            rw [hfirst] at hrun
            rw [hsecond] at hrun'
            cases hrun
            cases hrun'
            exact run_congr hfirst hsecond

end JsxTagger.Instrument
