import JsxTagger.Json.Limits
import JsxTagger.Proofs.Json.RoundTrip

/-!
# What can be gone through

A value can be gone through exactly if it is not too deep for the calls that are left and none of its
integers is too long (`Json.obstacle?_eq_none_iff`). Otherwise the fault says which of the two it was
(`Json.obstacle?_eq_some`).
-/

namespace JsxTagger.Json

open Decimal

variable {room : Nat} {j value : Json}

/-! ## Parts -/

theorem depth_pos (j : Json) : 0 < j.depth := by cases j <;> simp [depth]

/-- An item of a list is not as deep as the list. -/
theorem depth_le_depthItems {items : List Json} (h : j ∈ items) : j.depth ≤ depthItems items := by
  induction items with
  | nil => cases h
  | cons i items ih =>
    rw [depthItems]
    rcases List.mem_cons.mp h with rfl | h
    · exact Nat.le_max_left ..
    · exact (ih h).trans (Nat.le_max_right ..)

theorem depth_le_depthMembers {key : String} {members : List (String × Json)}
    (h : members.lookup key = some value) : value.depth ≤ depthMembers members := by
  induction members with
  | nil => cases h
  | cons m members ih =>
    rw [List.lookup_cons] at h
    rw [depthMembers]
    split at h
    · cases h
      exact Nat.le_max_left ..
    · exact (ih h).trans (Nat.le_max_right ..)

/-- A member is not as deep as the object. -/
theorem depth_lt_of_get? {key : String} (h : j.get? key = some value) : value.depth < j.depth := by
  cases j with
  | obj members =>
    rw [depth]
    exact Nat.lt_succ_of_le (depth_le_depthMembers h)
  | _ => cases h

mutual

/-- Going through a value takes a call for every list and every object. -/
theorem nesting_le_depth : (j : Json) → j.nesting ≤ j.depth
  | .arr items => Nat.succ_le_succ (nestingItems_le_depthItems items)
  | .obj members => Nat.succ_le_succ (nestingMembers_le_depthMembers members)
  | .null | .bool _ | .int _ | .float _ | .str _ => Nat.zero_le _

theorem nestingItems_le_depthItems : (items : List Json) → nestingItems items ≤ depthItems items
  | [] => Nat.le_refl 0
  | j :: js => by
    have hj := nesting_le_depth j
    have hjs := nestingItems_le_depthItems js
    rw [nestingItems, depthItems]
    omega

theorem nestingMembers_le_depthMembers : (members : List (String × Json)) →
    nestingMembers members ≤ depthMembers members
  | [] => Nat.le_refl 0
  | (_, j) :: ms => by
    have hj := nesting_le_depth j
    have hms := nestingMembers_le_depthMembers ms
    rw [nestingMembers, depthMembers]
    omega

end

theorem areWritable_eq_all (items : List Json) : areWritable items = items.all isWritable := by
  induction items with
  | nil => rfl
  | cons i items ih => rw [areWritable, List.all_cons, ih]

theorem membersWritable_eq_all (members : List (String × Json)) :
    membersWritable members = members.all (·.2.isWritable) := by
  induction members with
  | nil => rfl
  | cons m members ih => rw [membersWritable, List.all_cons, ih]

/-- The members of an object are as short as the object. -/
theorem isWritable_of_get? {key : String} (h : j.get? key = some value) (hj : j.isWritable = true) :
    value.isWritable = true := by
  cases j with
  | obj members =>
    rw [isWritable, membersWritable_eq_all, List.all_eq_true] at hj
    obtain ⟨front, back, rfl, -⟩ := List.lookup_eq_some_iff.mp h
    exact hj (key, value) (by simp)
  | _ => cases h

mutual

/-- The digits of what can be stored can be written. -/
theorem isWritable_of_isStorable : (j : Json) → j.isStorable = true → j.isWritable = true
  | .null, _ => rfl
  | .bool _, _ => rfl
  | .int _, h => h
  | .float _, _ => rfl
  | .str _, _ => rfl
  | .arr items, h => areWritable_of_areStorable items h
  | .obj members, h => membersWritable_of_membersStorable members (Bool.and_eq_true_iff.mp h).2

theorem areWritable_of_areStorable : (items : List Json) → areStorable items = true →
    areWritable items = true
  | [], _ => rfl
  | j :: js, h => by
    rw [areStorable, Bool.and_eq_true] at h
    rw [areWritable, isWritable_of_isStorable j h.1, areWritable_of_areStorable js h.2, Bool.and_true]

theorem membersWritable_of_membersStorable : (members : List (String × Json)) →
    membersStorable members = true → membersWritable members = true
  | [], _ => rfl
  | (_, j) :: ms, h => by
    rw [membersStorable, Bool.and_eq_true, Bool.and_eq_true] at h
    rw [membersWritable, isWritable_of_isStorable j h.1.2, membersWritable_of_membersStorable ms h.2,
      Bool.and_true]

end

/-! ## Obstacles -/

mutual

/-- A value can be gone through if there are calls enough for its depth and its integers are short. -/
theorem obstacle?_eq_none_iff : (room : Nat) → (j : Json) →
    (j.obstacle? room = none ↔ j.depth ≤ room ∧ j.isWritable = true)
  | 0, j => by
    have hdepth := j.depth_pos
    rw [obstacle?]
    exact iff_of_false (Option.some_ne_none _) fun h => by omega
  | room + 1, .int n => by
    have hdepth : (int n).depth = 1 := rfl
    rw [obstacle?, hdepth, isWritable, decide_eq_true_eq, ite_eq_right_iff]
    constructor
    · exact fun h => ⟨by omega, Nat.le_of_not_lt fun hlong => nomatch h hlong⟩
    · exact fun h hlong => absurd h.2 (Nat.not_le.mpr hlong)
  | room + 1, .arr items => by
    rw [obstacle?, obstacleItems?_eq_none_iff room items, depth, isWritable, Nat.add_le_add_iff_right]
  | room + 1, .obj members => by
    rw [obstacle?, obstacleMembers?_eq_none_iff room members, depth, isWritable, Nat.add_le_add_iff_right]
  | room + 1, .null => by simp [obstacle?, depth, isWritable]
  | room + 1, .bool _ => by simp [obstacle?, depth, isWritable]
  | room + 1, .float _ => by simp [obstacle?, depth, isWritable]
  | room + 1, .str _ => by simp [obstacle?, depth, isWritable]

theorem obstacleItems?_eq_none_iff : (room : Nat) → (items : List Json) →
    (obstacleItems? room items = none ↔ depthItems items ≤ room ∧ areWritable items = true)
  | room, [] => by simp [obstacleItems?, depthItems, areWritable]
  | room, j :: js => by
    rw [obstacleItems?, Option.or_eq_none_iff, obstacle?_eq_none_iff room j,
      obstacleItems?_eq_none_iff room js, depthItems, areWritable, Bool.and_eq_true, Nat.max_le]
    exact and_and_and_comm

theorem obstacleMembers?_eq_none_iff : (room : Nat) → (members : List (String × Json)) →
    (obstacleMembers? room members = none ↔ depthMembers members ≤ room ∧ membersWritable members = true)
  | room, [] => by simp [obstacleMembers?, depthMembers, membersWritable]
  | room, (_, j) :: ms => by
    rw [obstacleMembers?, Option.or_eq_none_iff, obstacle?_eq_none_iff room j,
      obstacleMembers?_eq_none_iff room ms, depthMembers, membersWritable, Bool.and_eq_true, Nat.max_le]
    exact and_and_and_comm

end

/-- The fault of a value that cannot be gone through. -/
def Hinders (room : Nat) (j : Json) (fault : Fault) : Prop :=
  fault = .tooDeep ∧ room < j.depth ∨ fault = longInteger ∧ j.isWritable = false

/-- What hinders an item hinders the list, which takes one call more. -/
theorem Hinders.arr {fault : Fault} {items : List Json} (h : j.Hinders room fault) (hj : j ∈ items) :
    (arr items).Hinders (room + 1) fault := by
  refine h.imp (And.imp_right fun hdeep => ?_) (And.imp_right fun hlong => ?_)
  · exact Nat.succ_lt_succ (hdeep.trans_le (depth_le_depthItems hj))
  · rw [isWritable, areWritable_eq_all, List.all_eq_false]
    exact ⟨j, hj, Bool.eq_false_iff.mp hlong⟩

mutual

/-- What keeps a value from being gone through is its depth or one of its integers. -/
theorem obstacle?_eq_some : (room : Nat) → (j : Json) → {fault : Fault} →
    j.obstacle? room = some fault → j.Hinders room fault
  | 0, j, _, h => by
    rw [obstacle?, Option.some.injEq] at h
    exact .inl ⟨h.symm, j.depth_pos⟩
  | room + 1, .int n, _, h => by
    rw [obstacle?] at h
    split at h
    · rename_i hlong
      rw [Option.some.injEq] at h
      exact .inr ⟨h.symm, decide_eq_false (Nat.not_le.mpr hlong)⟩
    · cases h
  | room + 1, .arr items, _, h => by
    rcases obstacleItems?_eq_some room items h with ⟨hfault, hdeep⟩ | ⟨hfault, hlong⟩
    · exact .inl ⟨hfault, Nat.succ_lt_succ hdeep⟩
    · exact .inr ⟨hfault, hlong⟩
  | room + 1, .obj members, _, h => by
    rcases obstacleMembers?_eq_some room members h with ⟨hfault, hdeep⟩ | ⟨hfault, hlong⟩
    · exact .inl ⟨hfault, Nat.succ_lt_succ hdeep⟩
    · exact .inr ⟨hfault, hlong⟩
  | _ + 1, .null, _, h | _ + 1, .bool _, _, h | _ + 1, .float _, _, h | _ + 1, .str _, _, h => by
    cases h

theorem obstacleItems?_eq_some : (room : Nat) → (items : List Json) → {fault : Fault} →
    obstacleItems? room items = some fault →
      fault = .tooDeep ∧ room < depthItems items ∨ fault = longInteger ∧ areWritable items = false
  | room, j :: js, _, h => by
    rw [obstacleItems?, Option.or_eq_some_iff] at h
    rw [depthItems, areWritable, Bool.and_eq_false_iff]
    rcases h with h | ⟨-, h⟩
    · rcases obstacle?_eq_some room j h with ⟨hfault, hdeep⟩ | ⟨hfault, hlong⟩
      · exact .inl ⟨hfault, hdeep.trans_le (Nat.le_max_left ..)⟩
      · exact .inr ⟨hfault, .inl hlong⟩
    · rcases obstacleItems?_eq_some room js h with ⟨hfault, hdeep⟩ | ⟨hfault, hlong⟩
      · exact .inl ⟨hfault, hdeep.trans_le (Nat.le_max_right ..)⟩
      · exact .inr ⟨hfault, .inr hlong⟩

theorem obstacleMembers?_eq_some : (room : Nat) → (members : List (String × Json)) → {fault : Fault} →
    obstacleMembers? room members = some fault →
      fault = .tooDeep ∧ room < depthMembers members ∨ fault = longInteger ∧ membersWritable members = false
  | room, (_, j) :: ms, _, h => by
    rw [obstacleMembers?, Option.or_eq_some_iff] at h
    rw [depthMembers, membersWritable, Bool.and_eq_false_iff]
    rcases h with h | ⟨-, h⟩
    · rcases obstacle?_eq_some room j h with ⟨hfault, hdeep⟩ | ⟨hfault, hlong⟩
      · exact .inl ⟨hfault, hdeep.trans_le (Nat.le_max_left ..)⟩
      · exact .inr ⟨hfault, .inl hlong⟩
    · rcases obstacleMembers?_eq_some room ms h with ⟨hfault, hdeep⟩ | ⟨hfault, hlong⟩
      · exact .inl ⟨hfault, hdeep.trans_le (Nat.le_max_right ..)⟩
      · exact .inr ⟨hfault, .inr hlong⟩

end

end JsxTagger.Json
