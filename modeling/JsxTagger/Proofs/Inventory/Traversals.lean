import JsxTagger.Proofs.Inventory.Exact
import JsxTagger.Proofs.Inventory.Foreign

/-!
# The traversals of an inventory

An inventory is gone through three times, each in another way: files are listed by a loop over a stack,
directories and files are laid out by recursion, and files are counted by a recursion of its own. What all
three have to agree with is where things are. The place of a node says which entry to take in each list on
the way down (`At`), and places in dictionary order are in tree order, so that a directory comes before all
that is in it.

`traversals_agree` compares the traversals with the places, and says of an inventory that was scanned that
the files lie in directories that are laid out.
-/

namespace JsxTagger.Inventory

open Files
open Emit (layout layoutIn joinValue)

/-! ## Places in dictionary order -/

/-- A place that comes later is not on the way to an earlier one. -/
theorem not_prefix_of_lt {first second : List Nat} (h : first < second) : ¬ second <+: first := by
  rintro ⟨more, rfl⟩
  induction second with
  | nil => exact List.not_lt_nil _ h
  | cons i second ih =>
    rw [List.cons_append, List.cons_lt_cons_iff] at h
    exact ih (h.resolve_left (Nat.lt_irrefl i)).2

/-! ## Nodes and their places -/

/-- The numbers say which entry to take in turn, from the contents of the root down to a node, on a way
through directories with the given names. -/
inductive At : List ProjectNode → List Nat → List Json → ProjectNode → Prop where
  | here {ns : List ProjectNode} {i : Nat} {n : ProjectNode} (hentry : ns[i]? = some n) : At ns [i] [] n
  | inside {ns children : List ProjectNode} {i : Nat} {place : List Nat} {name : Json} {names : List Json}
      {n : ProjectNode} (hentry : ns[i]? = some (.directory name children)) (hnode : At children place names n) :
      At ns (i :: place) (name :: names) n

/-- A node with its place and the names of the directories on the way to it. -/
structure Placed where
  /-- The numbers of the entries to take. -/
  place : List Nat
  /-- The names of the directories on the way. -/
  names : List Json
  /-- What is there. -/
  node : ProjectNode

namespace Placed

/-- A node in a directory is further down. -/
def below (i : Nat) (name : Json) (p : Placed) : Placed := ⟨i :: p.place, name :: p.names, p.node⟩

/-- The file, if it is one. -/
def file? (p : Placed) : Option FileNode :=
  match p.node with
  | .file f => some f
  | .directory _ _ => none

/-- The names of the directories up to and with this one, if it is one. -/
def way? (p : Placed) : Option (List Json) :=
  match p.node with
  | .file _ => none
  | .directory name _ => some (p.names ++ [name])

@[simp]
theorem file?_below (i : Nat) (name : Json) (p : Placed) : (p.below i name).file? = p.file? := rfl

@[simp]
theorem way?_below (i : Nat) (name : Json) (p : Placed) :
    (p.below i name).way? = p.way?.map (name :: ·) := by
  obtain ⟨place, names, n⟩ := p
  cases n <;> rfl

end Placed

/-- The nodes of contents in tree order, the entries of which are numbered from `i` on. -/
def placed (i : Nat) : List ProjectNode → List Placed
  | [] => []
  | .file f :: ns => ⟨[i], [], .file f⟩ :: placed (i + 1) ns
  | .directory name children :: ns =>
    ⟨[i], [], .directory name children⟩ :: (placed 0 children).map (.below i name) ++ placed (i + 1) ns
termination_by ns => ProjectNode.sizeAll ns
decreasing_by
  all_goals simp only [ProjectNode.sizeAll, ProjectNode.size]
  all_goals omega

section Nodes

variable {i j : Nat} {place : List Nat} {names : List Json} {n m : ProjectNode} {ns : List ProjectNode}

theorem not_at_nil : ¬ At [] place names n := by
  rintro (hentry | ⟨hentry, -⟩) <;> cases hentry

theorem at_first : At (n :: ns) (0 :: place) names m ↔
    (place = [] ∧ names = [] ∧ m = n) ∨
      ∃ name children inner, n = .directory name children ∧ names = name :: inner ∧
        At children place inner m := by
  constructor
  · rintro (hentry | ⟨hentry, hnode⟩)
    · exact .inl ⟨rfl, rfl, (Option.some.inj hentry).symm⟩
    · exact .inr ⟨_, _, _, Option.some.inj hentry, rfl, hnode⟩
  · rintro (⟨rfl, rfl, rfl⟩ | ⟨name, children, inner, rfl, rfl, hnode⟩)
    · exact .here rfl
    · exact .inside rfl hnode

theorem at_later : At (n :: ns) ((i + 1) :: place) names m ↔ At ns (i :: place) names m := by
  constructor
  · rintro (hentry | ⟨hentry, hnode⟩)
    · exact .here hentry
    · exact .inside hentry hnode
  · rintro (hentry | ⟨hentry, hnode⟩)
    · exact .here hentry
    · exact .inside hentry hnode

/-- A node of contents lies at its place, of which the first number is counted from `i` on. -/
def Lies (i : Nat) (ns : List ProjectNode) (p : Placed) : Prop :=
  ∃ j place, p.place = (i + j) :: place ∧ At ns (j :: place) p.names p.node

theorem not_lies_nil (i : Nat) (p : Placed) : ¬ Lies i [] p := by
  rintro ⟨j, place, -, h⟩
  exact not_at_nil h

/-- What lies in contents lies at or below the first entry, or in the rest. -/
theorem lies_cons {p : Placed} : Lies i (n :: ns) p ↔
    p = ⟨[i], [], n⟩ ∨
      (∃ name children q, n = .directory name children ∧ Lies 0 children q ∧ p = q.below i name) ∨
      Lies (i + 1) ns p := by
  obtain ⟨place, names, m⟩ := p
  constructor
  · rintro ⟨_ | j, rest, rfl, h⟩
    · rcases at_first.mp h with ⟨rfl, rfl, rfl⟩ | ⟨name, children, inner, rfl, rfl, hnode⟩
      · exact .inl rfl
      · refine .inr (.inl ⟨name, children, ⟨rest, inner, m⟩, rfl, ?_, rfl⟩)
        cases hnode with
        | @here _ k _ hentry => exact ⟨k, [], by simp, .here hentry⟩
        | @inside _ _ k rest _ _ _ hentry hin => exact ⟨k, rest, by simp, .inside hentry hin⟩
    · exact .inr (.inr ⟨j, rest, by simp [Nat.add_comm, Nat.add_left_comm], at_later.mp h⟩)
  · rintro (heq | ⟨name, children, ⟨inner, innerNames, m'⟩, rfl, ⟨k, rest, rfl, hnode⟩, heq⟩ | ⟨j, rest, rfl, h⟩)
    · cases heq
      exact ⟨0, [], rfl, .here rfl⟩
    · cases heq
      refine ⟨0, _, rfl, at_first.mpr (.inr ⟨_, _, _, rfl, rfl, ?_⟩)⟩
      simpa using hnode
    · exact ⟨j + 1, rest, by simp [Nat.add_comm, Nat.add_left_comm], at_later.mpr h⟩

end Nodes

/-- The nodes in tree order are those that lie somewhere. -/
theorem mem_placed_iff {i : Nat} {ns : List ProjectNode} {p : Placed} : p ∈ placed i ns ↔ Lies i ns p := by
  induction i, ns using placed.induct generalizing p with
  | case1 i => simp [placed, not_lies_nil]
  | case2 i f ns ih => simp [placed, lies_cons, ih]
  | case3 i name children ns ihChildren ih =>
    simp only [placed, List.cons_append, List.mem_cons, List.mem_append, List.mem_map, lies_cons, ih, ihChildren,
      ProjectNode.directory.injEq]
    refine or_congr_right (or_congr_left ?_)
    constructor
    · rintro ⟨q, hq, rfl⟩
      exact ⟨name, children, q, ⟨rfl, rfl⟩, hq, rfl⟩
    · rintro ⟨_, _, q, ⟨rfl, rfl⟩, hq, rfl⟩
      exact ⟨q, hq, rfl⟩

/-- The nodes in tree order are in the order of their places. -/
theorem placed_ordered (i : Nat) (ns : List ProjectNode) :
    (placed i ns).Pairwise fun p q => p.place < q.place := by
  have hlater {i : Nat} {ns : List ProjectNode} {place : List Nat} {p : Placed} (hp : p ∈ placed (i + 1) ns) :
      i :: place < p.place := by
    obtain ⟨j, rest, hplace, -⟩ := mem_placed_iff.mp hp
    rw [hplace, List.cons_lt_cons_iff]
    exact .inl (by omega)
  induction i, ns using placed.induct with
  | case1 i => simp [placed]
  | case2 i f ns ih =>
    rw [placed, List.pairwise_cons]
    exact ⟨fun p hp => hlater hp, ih⟩
  | case3 i name children ns ihChildren ih =>
    rw [placed, List.cons_append, List.pairwise_cons, List.pairwise_append, List.pairwise_map]
    refine ⟨fun p hp => ?_, ?_, ih, fun p hp q hq => ?_⟩
    · rcases List.mem_append.mp hp with hin | hbehind
      · obtain ⟨q, hq, rfl⟩ := List.mem_map.mp hin
        obtain ⟨j, rest, hplace, -⟩ := mem_placed_iff.mp hq
        rw [Placed.below, hplace, List.cons_lt_cons_iff]
        exact .inr ⟨rfl, List.nil_lt_cons _ _⟩
      · exact hlater hbehind
    · refine ihChildren.imp fun hlt => ?_
      rw [Placed.below, Placed.below, List.cons_lt_cons_iff]
      exact .inr ⟨rfl, hlt⟩
    · obtain ⟨inner, -, rfl⟩ := List.mem_map.mp hp
      exact hlater hq

/-! ## Files and directories of the nodes -/

section Listed

variable (i : Nat) (f : FileNode) (name : Json) (children ns : List ProjectNode)

theorem files_file : (placed i (.file f :: ns)).filterMap Placed.file? =
    f :: (placed (i + 1) ns).filterMap Placed.file? := by
  rw [placed]
  rfl

theorem files_directory : (placed i (.directory name children :: ns)).filterMap Placed.file? =
    (placed 0 children).filterMap Placed.file? ++ (placed (i + 1) ns).filterMap Placed.file? := by
  rw [placed, List.cons_append, List.filterMap_cons_none rfl, List.filterMap_append, List.filterMap_map]
  rfl

theorem ways_file : (placed i (.file f :: ns)).filterMap Placed.way? =
    (placed (i + 1) ns).filterMap Placed.way? := by
  rw [placed]
  rfl

theorem ways_directory : (placed i (.directory name children :: ns)).filterMap Placed.way? =
    [name] :: (((placed 0 children).filterMap Placed.way?).map (name :: ·) ++
      (placed (i + 1) ns).filterMap Placed.way?) := by
  have hinner : ((placed 0 children).map (.below i name)).filterMap Placed.way? =
      ((placed 0 children).filterMap Placed.way?).map (name :: ·) := by
    rw [List.filterMap_map, List.map_filterMap]
    exact List.filterMap_congr fun p _ => p.way?_below i name
  rw [placed, List.cons_append, ← hinner, ← List.filterMap_append]
  rfl

end Listed

/-- The loop over a stack lists the files of the nodes in tree order. -/
theorem drain_append_eq (i : Nat) (ns rest : List ProjectNode) :
    drain (ns ++ rest) = (placed i ns).filterMap Placed.file? ++ drain rest := by
  induction i, ns using placed.induct generalizing rest with
  | case1 i => simp [placed]
  | case2 i f ns ih =>
    rw [List.cons_append, drain, ih, files_file, List.cons_append]
  | case3 i name children ns ihChildren ih =>
    rw [List.cons_append, drain, ihChildren, ih, files_directory, List.append_assoc]

theorem files_eq_placed (i : Nat) (inv : Inventory) : inv.files = (placed i inv).filterMap Placed.file? := by
  have hdrain := drain_append_eq i inv []
  rwa [List.append_nil, drain, List.append_nil] at hdrain

/-- The path that directories of the given names lead to. -/
def pathTo (start : Path) (names : List Json) : Except Fault Path := names.foldlM joinValue start

/-- The path that directories of the given names lead to, where `room` calls are left to enter them. -/
def wayTo (room : Nat) (start : Path) (names : List Json) : Except Fault Path :=
  match pathTo start names with
  | .error fault => .error fault
  | .ok dir => if room < names.length then .error .tooDeep else .ok dir

theorem wayTo_cons {start dir : Path} {name : Json} (hdir : joinValue start name = .ok dir) (room : Nat) :
    wayTo (room + 1) start ∘ (name :: ·) = wayTo room dir := by
  funext names
  have hpath : pathTo start (name :: names) = pathTo dir names := by
    rw [pathTo, List.foldlM_cons, hdir]
    rfl
  simp only [Function.comp_apply, wayTo, hpath, List.length_cons, Nat.add_lt_add_iff_right]

/-- The recursion lays out the directories of the nodes in tree order, and the files that the loop lists. -/
theorem layoutIn_eq_placed (i room : Nat) (start : Path) (ns : List ProjectNode) :
    layoutIn room start ns = do
      let dirs ← ((placed i ns).filterMap Placed.way?).mapM (wayTo room start)
      return (dirs, (placed i ns).filterMap Placed.file?) := by
  induction i, ns using placed.induct generalizing room start with
  | case1 i =>
    rw [layoutIn, placed]
    rfl
  | case2 i f ns ih =>
    rw [layoutIn, ih, files_file, ways_file]
    cases ((placed (i + 1) ns).filterMap Placed.way?).mapM (wayTo room start) <;> rfl
  | case3 i name children ns ihChildren ih =>
    rw [layoutIn, files_directory, ways_directory, List.mapM_cons, List.mapM_append, List.mapM_map]
    cases hdir : joinValue start name with
    | error fault =>
      have hself : wayTo room start [name] = .error fault := by
        rw [wayTo, pathTo, List.foldlM_cons, hdir]
        rfl
      rw [hself]
      rfl
    | ok dir =>
      have hpath : pathTo start [name] = .ok dir := by
        rw [pathTo, List.foldlM_cons, hdir]
        rfl
      cases room with
      | zero =>
        have hself : wayTo 0 start [name] = .error .tooDeep := by
          rw [wayTo, hpath]
          rfl
        rw [hself]
        rfl
      | succ room =>
        have hself : wayTo (room + 1) start [name] = .ok dir := by
          rw [wayTo, hpath]
          exact if_neg (by simp)
        rw [hself, wayTo_cons hdir]
        simp only [bind, Except.bind, if_neg (Nat.succ_ne_zero room), Nat.add_sub_cancel, ihChildren, ih]
        cases ((placed 0 children).filterMap Placed.way?).mapM (wayTo room dir) with
        | error fault => rfl
        | ok inner => cases ((placed (i + 1) ns).filterMap Placed.way?).mapM (wayTo (room + 1) start) <;> rfl

/-- There are no more directories inside each other than names on the longest way. -/
theorem levels_le_iff_ways (i : Nat) {ns : List ProjectNode} {room : Nat} :
    levels ns ≤ room ↔ ∀ way ∈ (placed i ns).filterMap Placed.way?, way.length ≤ room := by
  induction i, ns using placed.induct generalizing room with
  | case1 i => simp [placed, levels]
  | case2 i f ns ih => rw [ways_file, levels, levelsAt, Nat.zero_max, ih]
  | case3 i name children ns ihChildren ih =>
    rw [ways_directory, List.forall_mem_cons, List.forall_mem_append, List.forall_mem_map, levels, levelsAt,
      Nat.max_le, ih, ← and_assoc]
    refine and_congr_left' ?_
    cases room with
    | zero => simp
    | succ room => simp [ihChildren]

/-! ## Listings -/

theorem lies_zero {ns : List ProjectNode} {p : Placed} : Lies 0 ns p ↔ At ns p.place p.names p.node := by
  constructor
  · rintro ⟨j, rest, hplace, h⟩
    rwa [hplace, Nat.zero_add]
  · obtain ⟨place, names, n⟩ := p
    intro h
    cases h with
    | @here _ j _ hentry => exact ⟨j, [], by simp, .here hentry⟩
    | @inside _ _ j rest _ _ _ hentry hnode => exact ⟨j, rest, by simp, .inside hentry hnode⟩

/-- Something is listed for every node of a kind. -/
structure Listing {α : Type} (inv : Inventory) (kind : Placed → Option α) (places : List (List Nat)) (xs : List α) :
    Prop where
  /-- The places are those of the nodes of the kind. -/
  complete : ∀ place, place ∈ places ↔ ∃ names n, At inv place names n ∧ (kind ⟨place, names, n⟩).isSome
  /-- No place comes twice. -/
  once : places.Nodup
  /-- What a node lies in comes before the node. -/
  outerFirst : places.Pairwise fun first second => ¬ second <+: first
  /-- The places are in tree order. -/
  inOrder : places.Pairwise (· < ·)
  /-- What is listed is what is at the places. -/
  listed : places.Forall₂ (fun place x => ∃ names n, At inv place names n ∧ kind ⟨place, names, n⟩ = some x) xs

theorem forall₂_filterMap {α β : Type} {P : α → Prop} (f : α → Option β) {xs : List α} (h : ∀ x ∈ xs, P x) :
    (xs.filter fun x => (f x).isSome).Forall₂ (fun x y => P x ∧ f x = some y) (xs.filterMap f) := by
  induction xs with
  | nil => exact .nil
  | cons x xs ih =>
    rw [List.forall_mem_cons] at h
    cases hx : f x with
    | none => simpa [hx] using ih h.2
    | some y => simpa [hx, h.1] using ih h.2

/-- What is found at the nodes in tree order is listed for every node where something is found. -/
theorem exists_listing {α : Type} (inv : Inventory) (kind : Placed → Option α) :
    ∃ places, Listing inv kind places ((placed 0 inv).filterMap kind) := by
  have hlies {p : Placed} (hp : p ∈ placed 0 inv) : At inv p.place p.names p.node :=
    lies_zero.mp (mem_placed_iff.mp hp)
  have hordered : ((placed 0 inv).filter fun p => (kind p).isSome).Pairwise fun p q => p.place < q.place :=
    (placed_ordered 0 inv).filter _
  refine ⟨((placed 0 inv).filter fun p => (kind p).isSome).map (·.place), fun place => ?_, ?_, ?_, ?_, ?_⟩
  · simp only [List.mem_map, List.mem_filter]
    constructor
    · rintro ⟨p, ⟨hp, hkind⟩, rfl⟩
      exact ⟨p.names, p.node, hlies hp, hkind⟩
    · rintro ⟨names, n, hat, hkind⟩
      exact ⟨⟨place, names, n⟩, ⟨mem_placed_iff.mpr (lies_zero.mpr hat), hkind⟩, rfl⟩
  · refine List.pairwise_map.mpr (hordered.imp fun {p q} hlt heq => ?_)
    rw [heq] at hlt
    exact List.lt_irrefl _ hlt
  · exact List.pairwise_map.mpr (hordered.imp not_prefix_of_lt)
  · exact List.pairwise_map.mpr hordered
  · rw [List.forall₂_map_left_iff]
    refine (forall₂_filterMap kind fun p hp => hlies hp).imp fun p x h => ?_
    exact ⟨p.names, p.node, h.1, h.2⟩

/-! ## Names of directories -/

/-- Every directory has a text as its name. -/
def NamedByTexts (inv : Inventory) : Prop :=
  ∀ place names name children, At inv place names (.directory name children) → ∃ text, name = .str text

/-- The names on the way to a node are names of directories. -/
theorem At.exists_directory {inv : List ProjectNode} {place : List Nat} {names : List Json} {n : ProjectNode}
    (h : At inv place names n) {name : Json} (hname : name ∈ names) :
    ∃ outer outerNames children, At inv outer outerNames (.directory name children) := by
  induction h with
  | here hentry => cases hname
  | @inside ns children i place first names n hentry hnode ih =>
    rcases List.mem_cons.mp hname with rfl | hname
    · exact ⟨[i], [], children, .here hentry⟩
    · obtain ⟨outer, outerNames, inner, hat⟩ := ih hname
      exact ⟨i :: outer, first :: outerNames, inner, .inside hentry hat⟩

theorem joinValue_cases (start : Path) (name : Json) :
    (∃ text dir, name = .str text ∧ joinValue start name = .ok dir) ∨
      (∀ text, name ≠ .str text) ∧ ∃ fault, joinValue start name = .error fault ∧ fault.kind = .wrongType := by
  cases name with
  | str text => exact .inl ⟨text, _, rfl, rfl⟩
  | _ => exact .inr ⟨fun text h => (nomatch h), _, rfl, rfl⟩

/-- Names lead to a path exactly if they are texts; else the fault is that of a value of the wrong type. -/
theorem pathTo_cases (start : Path) (names : List Json) :
    ((∀ name ∈ names, ∃ text, name = .str text) ∧ ∃ dir, pathTo start names = .ok dir) ∨
      (∃ name ∈ names, ∀ text, name ≠ .str text) ∧
        ∃ fault, pathTo start names = .error fault ∧ fault.kind = .wrongType := by
  induction names generalizing start with
  | nil => exact .inl ⟨fun name h => (nomatch h), start, rfl⟩
  | cons name names ih =>
    have hstep : pathTo start (name :: names) = joinValue start name >>= (pathTo · names) := List.foldlM_cons
    rcases joinValue_cases start name with ⟨text, dir, rfl, hdir⟩ | ⟨hname, fault, hfault, hkind⟩
    · rw [hdir] at hstep
      rcases ih dir with ⟨hall, hok⟩ | ⟨⟨other, hother, hbad⟩, herror⟩
      · exact .inl ⟨List.forall_mem_cons.mpr ⟨⟨text, rfl⟩, hall⟩, hstep ▸ hok⟩
      · exact .inr ⟨⟨other, List.mem_cons_of_mem _ hother, hbad⟩, hstep ▸ herror⟩
    · rw [hfault] at hstep
      exact .inr ⟨⟨name, List.mem_cons_self, hname⟩, fault, hstep, hkind⟩

/-- Where names lead somewhere they are texts and calls enough are left to enter the directories; else the fault
says which of the two is missing. -/
theorem wayTo_cases (room : Nat) (start : Path) (names : List Json) :
    ((∀ name ∈ names, ∃ text, name = .str text) ∧ names.length ≤ room ∧
        ∃ dir, pathTo start names = .ok dir ∧ wayTo room start names = .ok dir) ∨
      ∃ fault, wayTo room start names = .error fault ∧
        (fault.kind = .wrongType ∧ (∃ name ∈ names, ∀ text, name ≠ .str text) ∨
          fault = .tooDeep ∧ room < names.length) := by
  rw [wayTo]
  rcases pathTo_cases start names with ⟨hall, dir, hdir⟩ | ⟨hbad, fault, hfault, hkind⟩
  · rw [hdir]
    by_cases hlength : room < names.length
    · exact .inr ⟨.tooDeep, if_pos hlength, .inr ⟨rfl, hlength⟩⟩
    · exact .inl ⟨hall, Nat.le_of_not_lt hlength, dir, rfl, if_neg hlength⟩
  · rw [hfault]
    exact .inr ⟨fault, rfl, .inl ⟨hkind, hbad⟩⟩

theorem exists_of_mem_ways {inv : Inventory} {way : List Json}
    (h : way ∈ (placed 0 inv).filterMap Placed.way?) :
    ∃ place names name children, At inv place names (.directory name children) ∧ way = names ++ [name] := by
  obtain ⟨⟨place, names, n⟩, hp, hway⟩ := List.mem_filterMap.mp h
  cases n with
  | file f => cases hway
  | directory name children =>
    cases hway
    exact ⟨place, names, name, children, lies_zero.mp (mem_placed_iff.mp hp), rfl⟩

/-- The directories of an inventory are named by texts exactly if all names on the ways to them are texts. -/
theorem namedByTexts_iff {inv : Inventory} :
    NamedByTexts inv ↔
      ∀ way ∈ (placed 0 inv).filterMap Placed.way?, ∀ name ∈ way, ∃ text, name = .str text := by
  constructor
  · intro h way hway name hname
    obtain ⟨place, names, last, children, hat, rfl⟩ := exists_of_mem_ways hway
    rcases List.mem_append.mp hname with hname | hname
    · obtain ⟨outer, outerNames, inner, houter⟩ := hat.exists_directory hname
      exact h _ _ _ _ houter
    · rw [List.mem_singleton.mp hname]
      exact h _ _ _ _ hat
  · intro h place names name children hat
    refine h (names ++ [name]) ?_ name (List.mem_append_right _ List.mem_cons_self)
    exact List.mem_filterMap.mpr ⟨⟨place, names, _⟩, mem_placed_iff.mpr (lies_zero.mpr hat), rfl⟩

theorem forall₂_of_mapM {ε α β : Type} {f : α → Except ε β} {xs : List α} {ys : List β} (h : xs.mapM f = .ok ys) :
    xs.Forall₂ (fun x y => f x = .ok y) ys := by
  induction xs generalizing ys with
  | nil =>
    cases h
    exact .nil
  | cons x xs ih =>
    rw [List.mapM_cons, Except.bind_eq_ok] at h
    obtain ⟨y, hy, h⟩ := h
    obtain ⟨rest, hrest, h⟩ := Except.bind_eq_ok.mp h
    cases h
    exact .cons hy (ih hrest)

/-- Directories that are named by texts are laid out where their names lead to, if calls enough are left to
enter them. -/
theorem layout_of_namedByTexts {inv : Inventory} (h : NamedByTexts inv) {room : Nat} (hroom : levels inv < room)
    (start : Path) :
    ∃ dirs, layout room start inv = .ok (dirs, inv.files) ∧
      ((placed 0 inv).filterMap Placed.way?).Forall₂ (fun way dir => pathTo start way = .ok dir) dirs := by
  obtain ⟨room, rfl⟩ := Nat.exists_eq_add_one_of_ne_zero (Nat.ne_zero_of_lt hroom)
  have hlengths := (levels_le_iff_ways 0).mp (Nat.le_of_lt_succ hroom)
  have hways (way : List Json) (hway : way ∈ (placed 0 inv).filterMap Placed.way?) :
      ∃ dir, pathTo start way = .ok dir ∧ wayTo room start way = .ok dir := by
    rcases wayTo_cases room start way with ⟨-, -, hdir⟩ | ⟨-, -, ⟨-, name, hname, hbad⟩ | ⟨-, hlength⟩⟩
    · exact hdir
    · obtain ⟨text, htext⟩ := namedByTexts_iff.mp h way hway name hname
      exact absurd htext (hbad text)
    · exact absurd (hlengths way hway) (Nat.not_le.mpr hlength)
  obtain ⟨dirs, hdirs⟩ := exists_mapM_eq_ok_iff.mpr fun way hway => (hways way hway).imp fun _ => And.right
  refine ⟨dirs, ?_, ?_⟩
  · rw [layout, if_neg (Nat.succ_ne_zero room), Nat.add_sub_cancel, layoutIn_eq_placed 0, hdirs, files_eq_placed 0]
    rfl
  · refine ((List.forall₂_and_left _ _).mpr ⟨hways, forall₂_of_mapM hdirs⟩).imp ?_
    rintro way dir ⟨⟨dir', hpath, hdir'⟩, hdir⟩
    rw [hdir'] at hdir
    cases hdir
    exact hpath

/-- Otherwise nothing is laid out, because a name is no text or because a directory lies too deep. -/
theorem layout_eq_error {inv : Inventory} {room : Nat} (h : ¬ (NamedByTexts inv ∧ levels inv < room))
    (start : Path) :
    ∃ fault, layout room start inv = .error fault ∧
      (fault.kind = .wrongType ∧ ¬ NamedByTexts inv ∨ fault = .tooDeep ∧ room ≤ levels inv) := by
  cases room with
  | zero => exact ⟨.tooDeep, rfl, .inr ⟨rfl, Nat.zero_le _⟩⟩
  | succ room =>
    rw [layout, if_neg (Nat.succ_ne_zero room), Nat.add_sub_cancel, layoutIn_eq_placed 0]
    cases hways : ((placed 0 inv).filterMap Placed.way?).mapM (wayTo room start) with
    | ok dirs =>
      -- all ways lead somewhere, so that all names are texts and no way is too long
      have hall (way : List Json) (hway : way ∈ (placed 0 inv).filterMap Placed.way?) :
          (∀ name ∈ way, ∃ text, name = .str text) ∧ way.length ≤ room := by
        obtain ⟨dir, hdir⟩ := exists_mapM_eq_ok_iff.mp ⟨dirs, hways⟩ way hway
        rcases wayTo_cases room start way with ⟨htexts, hlength, -⟩ | ⟨fault, hfault, -⟩
        · exact ⟨htexts, hlength⟩
        · rw [hfault] at hdir
          cases hdir
      exact absurd ⟨namedByTexts_iff.mpr fun way hway => (hall way hway).1,
        Nat.lt_succ_of_le ((levels_le_iff_ways 0).mpr fun way hway => (hall way hway).2)⟩ h
    | error fault =>
      -- the first way that leads nowhere says why
      obtain ⟨front, way, back, hsplit, -, hway⟩ := mapM_eq_error hways
      have hmem : way ∈ (placed 0 inv).filterMap Placed.way? := by rw [hsplit]; simp
      refine ⟨fault, rfl, ?_⟩
      rcases wayTo_cases room start way with ⟨-, -, dir, -, hdir⟩ | ⟨other, hother, hwhy⟩
      · rw [hway] at hdir
        cases hdir
      · rw [hway] at hother
        cases hother
        rcases hwhy with ⟨hkind, name, hname, hbad⟩ | ⟨rfl, hlength⟩
        · refine .inl ⟨hkind, fun hnamed => ?_⟩
          obtain ⟨text, htext⟩ := namedByTexts_iff.mp hnamed way hmem name hname
          exact hbad text htext
        · refine .inr ⟨rfl, Nat.succ_le_of_lt (Nat.lt_of_not_le fun hle => ?_)⟩
          exact Nat.not_lt.mpr ((levels_le_iff_ways 0).mp hle way hmem) hlength

/-! ## Inventories of a scan -/

/-- In an inventory that was scanned, what a file lies in is the root or is laid out. -/
theorem Scanned.parent_laid_out {base : FileSystem} {root : Path} {inv : Inventory} (h : Scanned base root [] inv)
    {room : Nat} {dirs : List Path} {files : List FileNode} (hlayout : layout room {} inv = .ok (dirs, files))
    {f : FileNode} (hf : f ∈ files) :
    ∃ rel, f.fullPath = .str rel ∧ ((Path.ofText rel).parent = {} ∨ (Path.ofText rel).parent ∈ dirs) := by
  obtain ⟨-, rfl, rfl⟩ := h.of_layout_eq_ok hlayout
  obtain ⟨place, hplace, rfl⟩ := List.mem_map.mp hf
  obtain ⟨hpath, -⟩ := h.of_mem_filesAt hplace
  refine ⟨_, hpath, ?_⟩
  rw [Path.ofText_intercalate (h.isProper hplace), Path.parent]
  rcases h.dropLast_mem (mem_placesAt hplace) with hroot | hdir
  · exact .inl (by rw [hroot])
  · exact .inr (List.mem_map_of_mem hdir)

theorem Scanned.namedByTexts {base : FileSystem} {root : Path} {inv : Inventory} (h : Scanned base root [] inv) :
    NamedByTexts inv := by
  by_contra hnot
  obtain ⟨fault, hfault, -⟩ :=
    layout_eq_error (fun hboth : _ ∧ levels inv < levels inv + 1 => hnot hboth.1) ⟨.relative, []⟩
  rw [h.layout_eq, if_pos (Nat.lt_succ_self _)] at hfault
  cases hfault

/-! ## All traversals -/

/-- The traversals of an inventory agree. The loop lists every file once, in tree order. The count is the length
of the list, if calls enough are left, two for every directory inside another. If the directories are named by
texts and enough calls are left, one for every directory inside another, the layout has the same files, and every
directory once, where its names lead to, behind all that it lies in; else there is no layout. After a scan, for
which there were calls enough, the files lie in the root or in directories of the layout. -/
theorem traversals_agree :
    (∀ inv : Inventory, ∃ places, Listing inv Placed.file? places inv.files) ∧
    (∀ (room : Nat) (inv : Inventory), countFiles room inv =
      if 2 * (levels inv + 1) ≤ room then .ok inv.files.length else .error .tooDeep) ∧
    (∀ (room : Nat) (inv : Inventory) (start : Path), NamedByTexts inv → levels inv < room →
      ∃ dirs places ways, layout room start inv = .ok (dirs, inv.files) ∧ Listing inv Placed.way? places ways ∧
        ways.Forall₂ (fun way dir => pathTo start way = .ok dir) dirs) ∧
    (∀ (room : Nat) (inv : Inventory) (start : Path), ¬ (NamedByTexts inv ∧ levels inv < room) →
      ∃ fault, layout room start inv = .error fault ∧
        (fault.kind = .wrongType ∧ ¬ NamedByTexts inv ∨ fault = .tooDeep ∧ room ≤ levels inv)) ∧
    ∀ (env : Environment) (settings : Settings) (s s' : RunState), s.files.WellFormed → s.LogsTo s.files →
      (survey env settings).run.run s = (.ok (), s') →
      let inv := s'.context.inventory
      NamedByTexts inv ∧ 2 * levels inv + 3 ≤ env.room ∧
        ∀ room dirs, layout room {} inv = .ok (dirs, inv.files) → ∀ f ∈ inv.files,
          ∃ rel, f.fullPath = .str rel ∧ ((Path.ofText rel).parent = {} ∨ (Path.ofText rel).parent ∈ dirs) := by
  refine ⟨fun inv => ?_, countFiles_eq, fun room inv start h hroom => ?_, fun room inv start h => ?_,
    fun env settings s s' hwell hlog hrun => ?_⟩
  · obtain ⟨places, hfiles⟩ := exists_listing inv Placed.file?
    exact ⟨places, files_eq_placed 0 inv ▸ hfiles⟩
  · obtain ⟨dirs, hlayout, hdirs⟩ := layout_of_namedByTexts h hroom start
    obtain ⟨places, hways⟩ := exists_listing inv Placed.way?
    exact ⟨dirs, places, _, hlayout, hways, hdirs⟩
  · exact layout_eq_error h start
  · obtain ⟨-, hscanned, -⟩ := scan_scanned hlog env settings hwell
    rw [← survey_eq_scan hwell hlog hrun] at hscanned
    obtain ⟨_, _, _, -, -, -, hlevels, rfl⟩ := survey_eq_ok hrun
    exact ⟨hscanned.namedByTexts, hlevels, fun room dirs hlayout f hf => hscanned.parent_laid_out hlayout hf⟩

/-- A directory with a number for its name, as a structure document can give it. -/
def numbered : Inventory := [.directory (.int 5) []]

theorem not_namedByTexts_numbered : ¬ NamedByTexts numbered := by
  intro h
  obtain ⟨text, htext⟩ := h [0] [] (.int 5) [] (.here rfl)
  cases htext

theorem traversals_agree_linkedProject :
    (¬ NamedByTexts numbered ∧ ∃ fault, layout 100 {} numbered = .error fault ∧ fault.kind = .wrongType) ∧
    linkedProject.files.WellFormed ∧ linkedProject.LogsTo linkedProject.files ∧
    ∃ s', (survey bareEnvironment appSettings).run.run linkedProject = (.ok (), s') ∧
      let inv := s'.context.inventory
      NamedByTexts inv ∧ countFiles bareEnvironment.room inv = .ok inv.files.length ∧
        ∃ dirs places ways, layout bareEnvironment.room {} inv = .ok (dirs, inv.files) ∧
          Listing inv Placed.way? places ways ∧ ways.Forall₂ (fun way dir => pathTo {} way = .ok dir) dirs ∧
          ∀ f ∈ inv.files, ∃ rel, f.fullPath = .str rel ∧
            ((Path.ofText rel).parent = {} ∨ (Path.ofText rel).parent ∈ dirs) := by
  have hwell : linkedProject.files.WellFormed := by decide +kernel
  have hlog : linkedProject.LogsTo linkedProject.files := fun place hplace => nomatch hplace
  have hok : ((survey bareEnvironment appSettings).run.run linkedProject).1 = .ok () := by decide +kernel
  obtain ⟨-, hcount, hlaid, hfault, hscanned⟩ := traversals_agree
  have hnumbered : ∃ fault, layout 100 {} numbered = .error fault ∧ fault.kind = .wrongType := by
    obtain ⟨fault, herror, ⟨hkind, -⟩ | ⟨-, hroom⟩⟩ :=
      hfault 100 numbered {} fun hboth => not_namedByTexts_numbered hboth.1
    · exact ⟨fault, herror, hkind⟩
    · exact absurd hroom (by decide)
  refine ⟨⟨not_namedByTexts_numbered, hnumbered⟩, hwell, hlog, ?_⟩
  have hrun : (survey bareEnvironment appSettings).run.run linkedProject =
      (.ok (), ((survey bareEnvironment appSettings).run.run linkedProject).2) := Prod.ext hok rfl
  obtain ⟨hnamed, hlevels, hparents⟩ := hscanned _ _ _ _ hwell hlog hrun
  obtain ⟨dirs, places, ways, hlayout, hways, hdirs⟩ := hlaid bareEnvironment.room _ {} hnamed (by omega)
  refine ⟨_, hrun, hnamed, (hcount _ _).trans (if_pos (by omega)), dirs, places, ways, hlayout, hways, hdirs, ?_⟩
  exact hparents _ dirs hlayout

theorem namedByTexts_nested (n : Nat) : NamedByTexts (nested n) := by
  induction n with
  | zero => exact fun _ _ _ _ hat => absurd hat not_at_nil
  | succ n ih =>
    rintro (_ | ⟨_ | i, place⟩) names name children hat
    · cases hat
    · rcases at_first.mp hat with ⟨-, -, heq⟩ | ⟨_, _, _, heq, -, hinner⟩
      · cases heq
        exact ⟨"d", rfl⟩
      · cases heq
        exact ih _ _ _ _ hinner
    · exact absurd (at_later.mp hat) not_at_nil

/-- Where a directory has a number for its name, the files that the loop lists are not laid out. Where directories
lie deeper in each other than there are calls left for it, they are neither laid out nor counted. -/
theorem numbered_not_laid_out :
    (¬ ∃ dirs, layout 1000 {} numbered = .ok (dirs, numbered.files)) ∧
    layout 1000 {} (nested 1000) = .error .tooDeep ∧ countFiles 1000 (nested 1000) = .error .tooDeep := by
  refine ⟨?_, ?_, ?_⟩
  · rintro ⟨dirs, hlayout⟩
    obtain ⟨fault, hfault, -⟩ :=
      layout_eq_error (fun hboth : _ ∧ levels numbered < 1000 => not_namedByTexts_numbered hboth.1) {}
    rw [hlayout] at hfault
    cases hfault
  · obtain ⟨fault, hfault, ⟨-, hnot⟩ | ⟨rfl, -⟩⟩ :=
      layout_eq_error (fun hboth : _ ∧ levels (nested 1000) < 1000 => absurd hboth.2 (by rw [levels_nested]; decide)) {}
    · exact absurd (namedByTexts_nested 1000) hnot
    · exact hfault
  · rw [countFiles_eq, levels_nested, if_neg (by decide)]

end JsxTagger.Inventory
