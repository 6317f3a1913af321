import JsxTagger.Proofs.Component.Declared

/-!
# What is known about components that are found

The classifier makes every component in one way (`exists_componentAt`), so all that it knows of one is its
name, the wrapper if there is one, where it is declared and on which line (`IsFound`). Export flags change
nothing about that (`classifyComponents_isFound`).
-/

namespace JsxTagger.Classify

open Syntax

/-- A wrapper has a name. -/
theorem wrapperName?_mem {source : Bytes} {call : Node} {w : String}
    (h : wrapperName? source call = some w) : w ∈ wrappers := by
  rw [wrapperName?] at h
  split at h
  · cases h
  · rename_i callee _
    split at h
    · rename_i hcallee
      rw [calleeIs] at hcallee
      split at hcallee
      · rename_i hkind
        rw [if_pos hkind] at h
        cases h
        exact List.contains_iff_mem.mp hcallee
      · rename_i hkind
        rw [if_neg hkind] at h
        cases h
        split at hcallee
        · rw [isMemberOf] at hcallee
          split at hcallee
          · exact List.contains_iff_mem.mp (Bool.and_eq_true_iff.mp hcallee).2
          · cases hcallee
        · cases hcallee
    · cases h

/-- A component that is found is the one at its anchor. -/
theorem exists_componentAt {source : Bytes} {s : Site} {n : Node} {c : Component}
    (h : describe source s = some (n, c)) :
    n.kind.isAnchor = true ∧ ∃ kind wrappedIn isDefaultExport,
      c = componentAt source n kind wrappedIn isDefaultExport ∧ ∀ w ∈ wrappedIn, w ∈ wrappers := by
  refine ⟨?_, ?_⟩
  · obtain ⟨rfl, -, hdeclares⟩ := describe_eq_some h
    rcases hdeclares with ⟨hkind, hanchor, -⟩ | ⟨hkind, -⟩
    · rwa [anchorSite_of_ne hkind]
    · rcases anchorSite_of_call hkind with ⟨-, hsite⟩ | ⟨_, -, -, hdeclarator, -⟩
      · rw [hsite, hkind]
        rfl
      · rw [hdeclarator]
        rfl
  · cases describe_eq_some_iff.mp h with
    | wrapperCall _ hwrapper =>
      refine ⟨_, some _, _, rfl, ?_⟩
      rintro w ⟨⟩
      exact wrapperName?_mem hwrapper
    | _ => exact ⟨_, none, _, rfl, nofun⟩

/-- What is known about a component that is found: its name, its wrapper if there is one, where it is
declared and on which line. -/
structure IsFound (source : Bytes) (c : Component) : Prop where
  name : ∃ anchor, c.name = .str (componentName source anchor)
  wrapper : c.wrappedIn = .null ∨ ∃ w ∈ wrappers, c.wrappedIn = .str w
  locator : ∃ (start : Nat) (kind : Kind), kind.isAnchor = true ∧ c.declarationStart = .int start ∧
    c.declarationType = .str kind.name
  line : ∃ line : Nat, c.line = .int line

variable {source : Bytes}

theorem componentAt_isFound {anchor : Node} {kind : ComponentKind} {wrappedIn : Option String}
    {isDefaultExport : Bool} (hanchor : anchor.kind.isAnchor = true) (h : ∀ w ∈ wrappedIn, w ∈ wrappers) :
    IsFound source (componentAt source anchor kind wrappedIn isDefaultExport) where
  name := ⟨anchor, rfl⟩
  wrapper := by
    cases wrappedIn with
    | none => exact .inl rfl
    | some w => exact .inr ⟨w, h w rfl, rfl⟩
  locator := ⟨anchor.start, anchor.kind, hanchor, rfl, rfl⟩
  line := ⟨anchor.line source, rfl⟩

/-- The components of a file are found. -/
theorem classifyComponents_isFound (tree : SourceTree) :
    ∀ c ∈ classifyComponents tree, IsFound tree.source c := by
  rw [classifyComponents_eq_map]
  simp only [List.forall_mem_map]
  intro found hmem
  obtain ⟨site, -, hsite⟩ := List.mem_filterMap.mp hmem
  obtain ⟨hanchor, kind, wrappedIn, isDefaultExport, heq, hwrapper⟩ := exists_componentAt hsite
  obtain ⟨hname, hwrapped, hlocator, hline⟩ : IsFound tree.source found.2 :=
    heq ▸ componentAt_isFound hanchor hwrapper
  exact ⟨hname, hwrapped, hlocator, hline⟩

/-- So are those that are listed. -/
theorem analyzeTree_isFound (tree : SourceTree) :
    ∀ c ∈ (analyzeTree tree).components, IsFound tree.source c := by
  rw [analyzeTree]
  dsimp only
  split
  · exact classifyComponents_isFound tree
  · exact List.forall_mem_nil _

end JsxTagger.Classify
