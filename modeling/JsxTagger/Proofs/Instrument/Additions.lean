import JsxTagger.Proofs.Edit.Application
import JsxTagger.Proofs.Instrument.Obstacles

/-!
# Instrumentation only adds

Every edit that is planned is an insertion, or it puts text around the single bare parameter of a
function of the tree (`Addition`). Each operation of the planner keeps this (`OnlyAdds`), and so does a
whole run, whether or not the nodes of the tree are in order. The source is therefore a subsequence of
the instrumented text, and the two are equal only if nothing was planned.
-/

namespace JsxTagger.Instrument

open Syntax

variable {room : Nat}

/-- What an edit of a run does: it inserts some text, or it puts text around the single bare parameter
of a function. -/
inductive Addition (source : Bytes) (root : Node) : Edit → Prop where
  | insertion {offset seq : Nat} {text : String} (htext : text ≠ "") :
      Addition source root ⟨offset, offset, text, seq⟩
  | around {function bare : Node} {seq : Nat} (before after : String)
      (hfunction : function ∈ root.nodes) (hlist : function.child? .parameters = none)
      (hbare : function.child? .parameter = some bare) (hrange : bare.start ≤ bare.stop)
      (hlegible : bare.isLegible source = true) (hbefore : before ≠ "") :
      Addition source root ⟨bare.start, bare.stop, before ++ bare.text source ++ after, seq⟩

/-- The bytes of a node are those of its text, if they are a text. -/
theorem ofText_text_of_isLegible {source : Bytes} {n : Node} (h : n.isLegible source = true) :
    Bytes.ofText (n.text source) = source.slice n.start n.stop := by
  rw [Node.isLegible, Option.isSome_iff_exists] at h
  obtain ⟨text, htext⟩ := h
  rw [Node.text, htext, Option.getD_some]
  exact (Bytes.text?_eq_some.mp htext).symm

theorem Addition.adds {source : Bytes} {root : Node} {e : Edit} (h : Addition source root e) :
    Edit.Plan.Adds source e := by
  cases h with
  | @insertion offset seq text htext =>
    refine ⟨Int.le_refl _, Bytes.ofText text, [], ?_, ?_⟩
    · simp [Bytes.slice]
    · rw [List.append_nil]
      exact fun hnil => htext (Bytes.ofText_eq_nil.mp hnil)
  | @around function bare seq before after hfunction hlist hbare hrange hlegible hbefore =>
    refine ⟨Int.ofNat_le.mpr hrange, Bytes.ofText before, Bytes.ofText after, ?_, ?_⟩
    · dsimp only
      rw [Bytes.ofText_append, Bytes.ofText_append, ofText_text_of_isLegible hlegible,
        Int.toNat_natCast, Int.toNat_natCast]
    · intro hnil
      exact hbefore (Bytes.ofText_eq_nil.mp (List.append_eq_nil_iff.mp hnil).1)

/-- A planner whose edits only add. -/
def OnlyAdds (source : Bytes) (root : Node) (p : Planner) : Prop :=
  ∀ e ∈ p.plan.edits, Addition source root e

namespace OnlyAdds

variable {source : Bytes} {ids : IdStream} {root : Node} {p q : Planner} {name reference : String}

theorem push {start stop : Nat} {text : String} (hp : OnlyAdds source root p)
    (h : ∀ seq, Addition source root ⟨start, stop, text, seq⟩)
    (hq : q.plan = p.plan.push start stop text) : OnlyAdds source root q := by
  intro e he
  rw [hq, Edit.Plan.push, List.mem_append, List.mem_singleton] at he
  rcases he with he | rfl
  · exact hp e he
  · exact h _

theorem addAttribute {element : Node} {seen : Bool} {key text : String} {added : Nat → Planner}
    (hp : OnlyAdds source root p) (htext : text ≠ "")
    (hadded : ∀ offset, (added offset).plan = p.plan.insert offset text)
    (h : Instrument.addAttribute source p element seen key added = .ok q) :
    OnlyAdds source root q := by
  rw [addAttribute_eq_ok h]
  split
  · exact hp
  · exact hp.push (fun seq => .insertion htext) (hadded _)

theorem tag {element : Node} (hp : OnlyAdds source root p) (h : p.tag source ids element = .ok q) :
    OnlyAdds source root q := by
  rw [tag_eq] at h
  have htext : idText (ids p.drawn) ≠ "" := by simp [idText, toString]
  exact hp.addAttribute htext (fun _ => rfl) h

theorem bindRoot {element : Node} (hp : OnlyAdds source root p)
    (h : p.bindRoot source element name reference = .ok q) : OnlyAdds source root q := by
  rw [bindRoot_eq] at h
  have htext : rootText name reference ≠ "" := by simp [rootText, toString]
  exact hp.addAttribute htext (fun _ => rfl) h

theorem annotate {rootSeen : Bool} {ns : List Node} (hp : OnlyAdds source root p)
    (h : Instrument.annotate source ids name reference rootSeen p ns = .ok q) :
    OnlyAdds source root q := by
  induction ns generalizing p rootSeen with
  | nil =>
    cases h
    exact hp
  | cons n ns ih =>
    rw [Instrument.annotate] at h
    split at h
    · obtain ⟨p₁, htag, h⟩ := Except.bind_eq_ok.mp h
      split at h
      · exact ih (hp.tag htag) h
      · obtain ⟨p₂, hbind, h⟩ := Except.bind_eq_ok.mp h
        exact ih ((hp.tag htag).bindRoot hbind) h
    · exact ih hp h

theorem addParameter {function : Node} (hp : OnlyAdds source root p)
    (hfunction : function ∈ root.nodes) (hname : name ≠ "")
    (h : p.addParameter source function name = .ok q) : OnlyAdds source root q := by
  rw [Planner.addParameter] at h
  split at h
  · cases h
    exact hp.push (fun seq => .insertion (by simp [toString, hname])) rfl
  · rename_i bare hlist hbare
    split at h
    · cases h
    · rename_i hlegible
      split at h
      · rename_i plan hplan
        rw [Edit.Plan.replace] at hplan
        split at hplan
        · cases hplan
        · rename_i hrange
          cases hplan
          cases h
          refine hp.push (fun seq => ?_) rfl
          have hbefore : "(" ++ name ++ ", " ≠ "" := by simp
          exact .around _ ")" hfunction hlist hbare (by omega) (by simpa using hlegible) hbefore
      · cases h
  · cases h
    exact hp

theorem record_fieldChange (hp : OnlyAdds source root p) (pattern : Node) :
    OnlyAdds source root (p.record [fieldChange pattern]) := by
  rw [fieldChange]
  split
  · exact hp.push (fun seq => .insertion (by simp [toString])) rfl
  · exact hp.push (fun seq => .insertion (by simp [toString])) rfl
  · exact hp.push (fun seq => .insertion (by simp [toString])) rfl

theorem addIdentity {function : Node} (hp : OnlyAdds source root p)
    (hfunction : function ∈ root.nodes) (h : p.addIdentity source function = .ok (reference, q)) :
    OnlyAdds source root q := by
  rcases addIdentity_eq source function with ⟨-, herror⟩ | heq
  · rw [herror] at h
    cases h
  · rw [heq] at h
    cases hpassing : passing source function with
    | present name =>
      rw [hpassing] at h
      cases h
      exact hp
    | field pattern =>
      rw [hpassing] at h
      cases h
      exact hp.record_fieldChange pattern
    | parameter name =>
      rw [hpassing] at h
      obtain ⟨p₁, hadd, h⟩ := Except.bind_eq_ok.mp h
      cases h
      refine hp.addParameter hfunction ?_ hadd
      rcases eq_of_passing_parameter hpassing with rfl | rfl <;> decide

theorem thread {function : Node} (hp : OnlyAdds source root p) (hfunction : function ∈ root.nodes)
    (h : p.thread source function = .ok (reference, q)) : OnlyAdds source root q := by
  rw [Planner.thread] at h
  split at h
  · cases h
    exact hp
  · obtain ⟨⟨found, p₁⟩, hadd, h⟩ := Except.bind_eq_ok.mp h
    cases h
    have hadded : OnlyAdds source root p₁ := hp.addIdentity hfunction hadd
    exact hadded

theorem instrumentDeclaration {anchor : Node} (hp : OnlyAdds source root p)
    (hanchor : anchor ∈ root.nodes)
    (h : Instrument.instrumentDeclaration room source ids p anchor name = .ok (some q)) :
    OnlyAdds source root q := by
  rw [Instrument.instrumentDeclaration] at h
  split at h
  · obtain ⟨p₁, hannotate, h⟩ := Except.bind_eq_ok.mp h
    cases h
    exact hp.annotate hannotate
  · split at h
    · cases h
    · cases h
    · rename_i scope _ hscope
      obtain ⟨⟨found, p₁⟩, hthread, h⟩ := Except.bind_eq_ok.mp h
      obtain ⟨p₂, hannotate, h⟩ := Except.bind_eq_ok.mp h
      cases h
      have hin := Node.mem_nodes_trans hanchor (componentFunction?_eq_some hscope).1
      exact (hp.thread hin hthread).annotate hannotate

end OnlyAdds

/-! ## Runs -/

variable {tree : SourceTree} {ids : IdStream} {drawn : Nat} {cs : List Component}

theorem step_onlyAdds {g g' : Progress} {c : Component}
    (hg : OnlyAdds tree.source tree.root g.planner)
    (h : g.step room tree ids (anchors tree.root) (topLevel tree.root) c = .ok g') :
    OnlyAdds tree.source tree.root g'.planner := by
  rcases step_eq_ok h with ⟨-, log, rfl⟩ | ⟨anchor, hfound, ⟨-, log, rfl⟩ | ⟨-, r, hr, hcases⟩⟩
  · exact hg
  · exact hg
  · rcases hcases with ⟨-, log, rfl⟩ | ⟨planner, rfl, rfl⟩
    · exact hg
    · have hanchor := Node.mem_nodes_of_mem_walk (mem_walk_of_mem_anchors (locate_eq_some hfound).1).1
      exact hg.instrumentDeclaration hanchor hr

theorem planAll_onlyAdds {g : Progress} (h : planAll room tree ids cs drawn = .ok g) :
    OnlyAdds tree.source tree.root g.planner := by
  have hrun : ∀ (cs : List Component) (g₀ : Progress), OnlyAdds tree.source tree.root g₀.planner →
      cs.foldlM (Progress.step room tree ids (anchors tree.root) (topLevel tree.root)) g₀ = .ok g →
      OnlyAdds tree.source tree.root g.planner := by
    intro cs
    induction cs with
    | nil =>
      intro g₀ hg₀ h
      cases h
      exact hg₀
    | cons c cs ih =>
      intro g₀ hg₀ h
      rw [List.foldlM_cons] at h
      obtain ⟨g₁, hstep, h⟩ := Except.bind_eq_ok.mp h
      exact ih g₁ (step_onlyAdds hg₀ hstep) h
  exact hrun cs _ (fun e he => (List.not_mem_nil he).elim) h

/-- The source is a subsequence of the result of a run, which is the source only if nothing was
planned. -/
theorem sublist_of_run {r : Instrumented} {n : Nat} {log : List Log.Record}
    (h : run room tree ids cs drawn = .ok (r, n, log)) :
    tree.source.Sublist (Bytes.ofText r.text) ∧
      (Bytes.ofText r.text = tree.source ↔ r.edits = 0) := by
  obtain ⟨g, hplan, h⟩ := Except.bind_eq_ok.mp h
  split at h
  · cases h
  · rename_i text happly
    cases h
    exact Edit.Plan.sublist_of_apply (fun e he => (planAll_onlyAdds hplan e he).adds) happly

/-- The text of a file is a subsequence of its instrumented text, which is the text itself only if
nothing was planned. -/
theorem sublist_of_instrumentSource {parse : Parser} {text : String} {path : Option String}
    {r : Instrumented} {n : Nat} {log : List Log.Record}
    (hparse : ∀ tree, parse text path = .ok tree → tree.source = Bytes.ofText text)
    (h : instrumentSource room parse ids text cs path drawn = .ok (r, n, log)) :
    (Bytes.ofText text).Sublist (Bytes.ofText r.text) ∧ (r.text = text ↔ r.edits = 0) := by
  rw [instrumentSource] at h
  split at h
  · cases h
    exact ⟨List.Sublist.refl _, fun _ => rfl, fun _ => rfl⟩
  · split at h
    · cases h
    · split at h
      · cases h
      · rename_i tree htree
        cases hrun : run room tree ids cs drawn with
        | error e =>
          rw [hrun] at h
          cases h
        | ok found =>
          rw [hrun] at h
          cases h
          obtain ⟨hsub, hsame⟩ := sublist_of_run hrun
          rw [hparse tree htree] at hsub hsame
          refine ⟨hsub, Iff.trans ⟨fun heq => by rw [heq], Bytes.ofText_injective⟩ hsame⟩

end JsxTagger.Instrument
