import Mathlib.Data.List.Basic
import JsxTagger.Proofs.Files.Refusals

/-!
# File systems that agree

Two file systems agree up to some hidden locations if they have the same directories and links, and the
same files everywhere else. Paths lead to the same locations in both. A file that is written to a directory
that is there is written in both in the same way, as long as nothing that is looked at is hidden
(`echoes_copyFile`, `echoes_writeFile`), and nothing but the destination changes
(`copyFile_stored`, `writeFile_stored`). Only the reasons for a refusal may differ: a hidden file may stand
where a path needs a directory. Where nothing stands yet, writing a text succeeds (`exists_writeFile_of_new`).
-/

namespace JsxTagger.Files

open FileSystem (pathFault? maxName maxPath)

namespace FileSystem

/-- Nothing or a file. -/
def Plain (e : Option Entry) : Prop := e ≠ some .directory ∧ ∀ target, e ≠ some (.link target)

theorem plain_file (mode : Nat) (content : Bytes) : Plain (some (.file mode content)) :=
  ⟨by simp, by simp⟩

theorem plain_none : Plain none := ⟨by simp, by simp⟩

/-- Two file systems differ at most at hidden locations, in the files that stand there. -/
structure Agree (hidden : Location → Prop) (fs fs' : FileSystem) : Prop where
  workDir : fs'.workDir = fs.workDir
  entries : ∀ loc, fs'.get? loc = fs.get? loc ∨
    (hidden loc ∧ Plain (fs.get? loc) ∧ Plain (fs'.get? loc))

namespace Agree

variable {hidden : Location → Prop} {fs fs' : FileSystem}

theorem symm (h : Agree hidden fs fs') : Agree hidden fs' fs :=
  ⟨h.workDir.symm, fun loc => (h.entries loc).imp Eq.symm fun ⟨hloc, hold, hnew⟩ => ⟨hloc, hnew, hold⟩⟩

theorem visible (h : Agree hidden fs fs') {loc : Location} (hloc : ¬ hidden loc) :
    fs'.get? loc = fs.get? loc :=
  (h.entries loc).resolve_right fun hhidden => hloc hhidden.1

theorem directory (h : Agree hidden fs fs') {loc : Location} (hdir : fs.get? loc = some .directory) :
    fs'.get? loc = some .directory := by
  rcases h.entries loc with heq | ⟨-, hold, -⟩
  · exact heq.trans hdir
  · exact absurd hdir hold.1

theorem link_iff (h : Agree hidden fs fs') (loc : Location) (target : String) :
    fs'.get? loc = some (.link target) ↔ fs.get? loc = some (.link target) := by
  rcases h.entries loc with heq | ⟨-, hold, hnew⟩
  · rw [heq]
  · exact ⟨fun hlink => absurd hlink (hnew.2 target), fun hlink => absurd hlink (hold.2 target)⟩

theorem locate (h : Agree hidden fs fs') {p : Path} {follow : Bool} {at_ : Location}
    (hat : fs.locate p follow = .ok at_) : fs'.locate p follow = .ok at_ := by
  obtain ⟨hsize, hleads⟩ := locate_eq_ok.mp hat
  have hstart : fs'.startOf p = fs.startOf p := by rw [startOf, startOf, h.workDir]
  refine locate_eq_ok.mpr ⟨hsize, ?_⟩
  rw [hstart]
  exact hleads.congr (fun _ => h.directory) h.link_iff

theorem fits (h : Agree hidden fs fs') {p : Path} (hfits : fs.Fits p) : fs'.Fits p :=
  hfits.congr h.workDir (fun _ => h.symm.directory) h.link_iff

/-- What a path leads to is the same unless it is hidden. -/
theorem stat (h : Agree hidden fs fs') {p : Path} {at_ : Location} (hat : fs.locate p = .ok at_)
    (hvisible : ¬ hidden at_) : fs'.stat p = fs.stat p := by
  rw [FileSystem.stat, FileSystem.stat, h.locate hat, hat]
  simp only [bind, Except.bind, h.visible hvisible]

theorem leadsTo (h : Agree hidden fs fs') {p : Path} {at_ : Location} (hat : fs.locate p = .ok at_)
    (hvisible : ¬ hidden at_) (test : Entry → Bool) : fs'.leadsTo p test = fs.leadsTo p test := by
  rw [FileSystem.leadsTo, FileSystem.leadsTo, h.stat hat hvisible]

theorem readText (h : Agree hidden fs fs') {p : Path} {at_ : Location} (hat : fs.locate p = .ok at_)
    (hvisible : ¬ hidden at_) : readText fs' p = readText fs p := by
  rw [Files.readText, Files.readText, isFile, isFile, h.leadsTo hat hvisible, h.stat hat hvisible]

theorem put (h : Agree hidden fs fs') {at_ : Location} (hne : at_ ≠ []) (e : Entry) :
    Agree hidden (fs.put at_ e) (fs'.put at_ e) := by
  refine ⟨h.workDir, fun loc => ?_⟩
  rw [get?_put _ hne, get?_put _ hne]
  split
  · exact .inl rfl
  · exact h.entries loc

theorem remove (h : Agree hidden fs fs') {at_ : Location} (hne : at_ ≠ []) :
    Agree hidden (fs.remove at_) (fs'.remove at_) := by
  refine ⟨h.workDir, fun loc => ?_⟩
  rw [get?_remove _ hne, get?_remove _ hne]
  split
  · exact .inl rfl
  · exact h.entries loc

end Agree

/-- A file is put where nothing or a file stood. -/
theorem agree_put {fs : FileSystem} {at_ : Location} (hne : at_ ≠ []) (hplain : Plain (fs.get? at_))
    (mode : Nat) (content : Bytes) : Agree (· = at_) fs (fs.put at_ (.file mode content)) := by
  refine ⟨rfl, fun loc => ?_⟩
  rw [get?_put _ hne]
  split
  · rename_i hloc
    rw [hloc]
    exact .inr ⟨rfl, hplain, plain_file mode content⟩
  · exact .inl rfl

/-- A file that is put where nothing stood, filled and removed leaves nothing behind. -/
theorem agree_removed {fs : FileSystem} {at_ : Location} (hfree : fs.get? at_ = none) (e e' : Entry) :
    Agree (fun _ => False) fs (((fs.put at_ e).put at_ e').remove at_) := by
  have hne := ne_nil_of_get?_eq_none hfree
  refine ⟨rfl, fun loc => .inl ?_⟩
  rw [get?_remove _ hne, get?_put _ hne, get?_put _ hne]
  by_cases hloc : loc = at_
  · rw [if_pos hloc, hloc, hfree]
  · simp only [if_neg hloc]

/-! ## Destinations in a directory that is there -/

/-- The directory of a destination is there. -/
structure Beside (fs : FileSystem) (destination : Path) (dir : Location) : Prop where
  parts : destination.parts ≠ []
  name : destination.name ≠ ".."
  locate : fs.locate destination.parent = .ok dir
  directory : fs.get? dir = some .directory

namespace Beside

variable {fs fs' : FileSystem} {destination : Path} {dir : Location}

theorem congr {hidden : Location → Prop} (h : Beside fs destination dir) (hagree : Agree hidden fs fs') :
    Beside fs' destination dir :=
  ⟨h.parts, h.name, hagree.locate h.locate, hagree.directory h.directory⟩

theorem eq_concat (h : Beside fs destination dir) :
    destination = ⟨destination.anchor, destination.parts.dropLast ++ [destination.name]⟩ := by
  have hlast : destination.parts.dropLast ++ [destination.name] = destination.parts := by
    rw [Path.name, List.getLast?_eq_some_getLast h.parts]
    exact List.dropLast_append_getLast h.parts
  rw [hlast]

/-- Such a destination is found in its directory, whatever stands there, unless it is too long. A link
that stands there is not followed. -/
theorem locate_destination (h : Beside fs destination dir) (follow : Bool)
    (hlink : follow = true → ∀ target, fs.get? (dir ++ [destination.name]) ≠ some (.link target)) :
    fs.locate destination follow =
      if maxPath < Text.pathSize destination.text ∨ maxName < Text.pathSize destination.name then
        .error .nameTooLong
      else .ok (dir ++ [destination.name]) := by
  obtain ⟨-, hfront⟩ := locate_eq_ok.mp h.locate
  obtain ⟨left, hwalk⟩ := hfront.walk_append follow (List.cons_ne_nil destination.name [])
  have hparts : destination.parts = destination.parent.parts ++ [destination.name] :=
    congrArg Path.parts h.eq_concat
  rw [FileSystem.locate]
  by_cases hlong : maxPath < Text.pathSize destination.text
  · rw [if_pos hlong, if_pos (.inl hlong)]
  · rw [if_neg hlong, hparts]
    refine hwalk.trans ?_
    by_cases hname : maxName < Text.pathSize destination.name
    · rw [if_pos (.inr hname), walk_tooLong h.directory h.name hname]
    · have hsize : Text.pathSize destination.name ≤ maxName := Nat.le_of_not_lt hname
      rw [if_neg (not_or.mpr ⟨hlong, hname⟩)]
      by_cases hplain : ∀ target, fs.get? (dir ++ [destination.name]) ≠ some (.link target)
      · rw [walk_down h.directory h.name hsize hplain, walk_nil]
      · have hstay : follow = false := Bool.eq_false_iff.mpr fun htrue => hplain (hlink htrue)
        simp only [ne_eq, not_forall, not_not] at hplain
        obtain ⟨target, htarget⟩ := hplain
        exact walk_final h.directory h.name hsize htarget (by rw [hstay]; rfl)

end Beside

end FileSystem

open FileSystem (Agree Beside Plain agree_put)

/-! ## Operations on file systems that agree -/

/-- An operation does the same to two file systems, up to what is hidden. -/
def Follows {ε α : Type} (hidden : Location → Prop) (m : ExceptT ε (StateM FileSystem) α)
    (fs fs' : FileSystem) : Prop :=
  (m.run.run fs').1 = (m.run.run fs).1 ∧ Agree hidden (m.run.run fs).2 (m.run.run fs').2

namespace FileM

variable {α β : Type} {hidden : Location → Prop} {fs fs' : FileSystem}

theorem follows_bind {m : FileM α} {f : α → FileM β} (hm : Follows hidden m fs fs')
    (hf : ∀ a g g', m.run.run fs = (.ok a, g) → Agree hidden g g' → m.run.run fs' = (.ok a, g') →
      Follows hidden (f a) g g') : Follows hidden (m >>= f) fs fs' := by
  obtain ⟨hresult, hagree⟩ := hm
  rw [Follows, run_bind, run_bind]
  rcases hrun : m.run.run fs with ⟨fault | a, g⟩ <;> rcases hrun' : m.run.run fs' with ⟨fault' | a', g'⟩
  · rw [hrun, hrun'] at hresult hagree
    cases hresult
    exact ⟨rfl, hagree⟩
  · rw [hrun, hrun'] at hresult
    cases hresult
  · rw [hrun, hrun'] at hresult
    cases hresult
  · rw [hrun, hrun'] at hresult hagree
    cases hresult
    exact hf a g g' hrun hagree hrun'

theorem follows_stat (h : Agree hidden fs fs') {p : Path} {at_ : Location} (hat : fs.locate p = .ok at_)
    (hvisible : ¬ hidden at_) : Follows hidden (stat p) fs fs' := by
  rw [Follows, run_stat, run_stat, h.stat hat hvisible]
  exact ⟨rfl, h⟩

theorem follows_readBytes (h : Agree hidden fs fs') {p : Path} {at_ : Location}
    (hat : fs.locate p = .ok at_) (hvisible : ¬ hidden at_) : Follows hidden (readBytes p) fs fs' := by
  refine follows_bind (follows_stat h hat hvisible) fun e g g' _ hagree _ => ?_
  cases e with
  | directory => exact ⟨rfl, hagree⟩
  | file mode content => exact ⟨rfl, hagree⟩
  | link target => exact ⟨rfl, hagree⟩

/-- Making a directory that is there changes nothing. -/
theorem run_makeDirs_there {p : Path} (hfault : pathFault? p = none)
    (hdir : fs.stat p = .ok .directory) : (makeDirs p).run.run fs = (.ok (), fs) := by
  have hlook : (look (·.isDir p)).run.run fs = (.ok true, fs) := by
    rw [run_look, FileSystem.isDir, FileSystem.leadsTo, hfault, hdir]
    rfl
  have hrecover (fault : Fault) :
      (do unless ← look (·.isDir p) do throw fault : FileM Unit).run.run fs = (.ok (), fs) := by
    rw [run_bind, hlook]
    rfl
  -- the system refuses what exists, and that is no reason to make the parents first
  have hmake : ∃ fault, (makeDirectory p).run.run fs = (.error fault, fs) ∧
      fault ≠ Refusal.notFound.fault p.text := by
    obtain ⟨at_, hat, hget⟩ := FileSystem.stat_eq_ok.mp hdir
    obtain ⟨hsize, hleads⟩ := FileSystem.locate_eq_ok.mp hat
    obtain ⟨at', e, hleads', hget'⟩ := hleads.exists_unfollowed hget
    have hat' : fs.locate p false = .ok at' := FileSystem.locate_eq_ok.mpr ⟨hsize, hleads'⟩
    rcases makeDirectory_cases fs p with ⟨at'', hat'', hnone, -⟩ | ⟨fault, hrun, hmissing⟩
    · rw [hat'] at hat''
      cases hat''
      rw [hget'] at hnone
      cases hnone
    · refine ⟨fault, hrun, fun heq => ?_⟩
      rw [hmissing heq] at hat'
      cases hat'
  obtain ⟨fault, hrun, hother⟩ := hmake
  have hpath : (⟨p.anchor, p.parts.reverse.reverse⟩ : Path) = p := by rw [List.reverse_reverse]
  rw [makeDirs]
  cases hparts : p.parts.reverse with
  | nil =>
    rw [hparts] at hpath
    rw [makeDirsFrom, ensureDirectory]
    rw [show (⟨p.anchor, []⟩ : Path) = p from hpath, run_tryCatch, hrun]
    exact hrecover fault
  | cons name above =>
    rw [hparts] at hpath
    rw [makeDirsFrom, hpath, run_tryCatch, hrun]
    dsimp only
    rw [if_neg hother]
    exact hrecover fault

end FileM

section Writing

variable {hidden : Location → Prop} {fs fs' : FileSystem} {destination : Path} {dir : Location}

variable {fill : FileM Bytes} {source : Path} {src : Location} {message : String}

/-- What is looked at while a file is written is not hidden: the names of temporary files, the
destination and the source. -/
structure Visible (hidden : Location → Prop) (destination : Path) (dir src : Location) : Prop where
  temporary : ∀ home n, ¬ hidden (home ++ [temporaryName destination.name n])
  destination : ¬ hidden (dir ++ [destination.name])
  source : ¬ hidden src

/-! ### Temporary files -/

theorem temporaryName_ne_up (name : String) (n : Nat) : temporaryName name n ≠ ".." := by
  intro heq
  have hlength := congrArg String.length heq
  have hend : ".tmp".length = 4 := rfl
  have hup : "..".length = 2 := rfl
  simp only [temporaryName, toString, String.length_append] at hlength
  omega

/-- A temporary file is made in some directory under its name. -/
theorem exists_concat_of_temporary {n : Nat} {at_ : Location}
    (h : fs.locate (temporaryPath fs destination n) false = .ok at_) :
    ∃ home, at_ = home ++ [temporaryName destination.name n] := by
  obtain ⟨home, -, heq⟩ := FileSystem.exists_concat_of_locate (temporaryName_ne_up _ _) h
  exact ⟨home, heq⟩

theorem temporaryPath_congr (h : Agree hidden fs fs') (destination : Path) (n : Nat) :
    temporaryPath fs' destination n = temporaryPath fs destination n := by
  rw [temporaryPath, temporaryPath, FileSystem.absolute, FileSystem.absolute, FileSystem.place,
    FileSystem.place, h.workDir]

/-- Both choose the same temporary name, since both find the same names taken. -/
theorem freeNumber_congr (h : Agree hidden fs fs') (hvisible : Visible hidden destination dir src) :
    freeNumber fs' destination = freeNumber fs destination := by
  -- only whether something is found matters, not how the search for it fails
  have hstat (n : Nat) {e : Entry} {g g' : FileSystem} (hagree : Agree hidden g g')
      (hfound : g.stat (temporaryPath fs destination n) false = .ok e)
      (hpath : temporaryPath fs destination n = temporaryPath g destination n) :
      g'.stat (temporaryPath fs destination n) false = .ok e := by
    obtain ⟨at_, hat, hget⟩ := FileSystem.stat_eq_ok.mp hfound
    obtain ⟨home, rfl⟩ := exists_concat_of_temporary (hpath ▸ hat)
    refine FileSystem.stat_eq_ok.mpr ⟨_, hagree.locate hat, ?_⟩
    rw [hagree.visible (hvisible.temporary home n), hget]
  have hfrom (tries n : Nat) :
      freeNumberFrom fs' destination tries n = freeNumberFrom fs destination tries n := by
    induction tries generalizing n with
    | zero => rfl
    | succ tries ih =>
      have hpath := temporaryPath_congr h destination n
      rw [freeNumberFrom, freeNumberFrom, hpath]
      cases hold : fs.stat (temporaryPath fs destination n) false with
      | ok e =>
        rw [hstat n h hold rfl]
        exact ih (n + 1)
      | error r =>
        cases hnew : fs'.stat (temporaryPath fs destination n) false with
        | ok e =>
          rw [hstat n h.symm hnew hpath.symm] at hold
          cases hold
        | error r' => rfl
  exact hfrom _ _

/-- A temporary file is made in both, at the same location, or it is refused in both. -/
inductive Twofold (destination : Path) (fs fs' : FileSystem) : Prop where
  | refused {fault fault' : Fault} (hfault : IsRefusal fault) (hfault' : IsRefusal fault')
      (hrun : (makeTemporary destination).run.run fs = (.error fault, fs))
      (hrun' : (makeTemporary destination).run.run fs' = (.error fault', fs'))
  | made {at_ : Location} (hfree : fs.get? at_ = none)
      (hrun : (makeTemporary destination).run.run fs = (.ok at_, fs.put at_ (.file temporaryMode [])))
      (hrun' : (makeTemporary destination).run.run fs' = (.ok at_, fs'.put at_ (.file temporaryMode [])))

theorem twofold (h : Agree hidden fs fs') (hfault : pathFault? destination = none)
    (hvisible : Visible hidden destination dir src) : Twofold destination fs fs' := by
  have hrun := run_makeTemporary fs destination
  have hrun' := run_makeTemporary fs' destination
  rw [hfault] at hrun hrun'
  rw [temporaryPath_congr h, freeNumber_congr h hvisible] at hrun'
  dsimp only at hrun hrun'
  cases hat : fs.locate (temporaryPath fs destination (freeNumber fs destination)) false with
  | ok at_ =>
    obtain ⟨home, heq⟩ := exists_concat_of_temporary hat
    rw [h.locate hat] at hrun'
    rw [hat] at hrun
    dsimp only at hrun hrun'
    rw [heq, h.visible (hvisible.temporary home _), ← heq] at hrun'
    cases hget : fs.get? at_ with
    | some e =>
      rw [hget] at hrun hrun'
      exact .refused ⟨_, rfl⟩ ⟨_, rfl⟩ hrun hrun'
    | none =>
      rw [hget] at hrun hrun'
      exact .made hget hrun hrun'
  | error r =>
    rw [hat] at hrun
    cases hat' : fs'.locate (temporaryPath fs destination (freeNumber fs destination)) false with
    | ok at_ =>
      rw [h.symm.locate hat'] at hat
      cases hat
    | error r' =>
      rw [hat'] at hrun'
      exact .refused ⟨_, rfl⟩ ⟨_, rfl⟩ hrun hrun'

/-! ### Taking the place of the destination -/

theorem run_takePlace (hfault : pathFault? destination = none) (h : Beside fs destination dir)
    (temporary : Location) (mode : Nat) (content : Bytes) :
    (takePlace temporary mode content destination).run.run fs =
      if maxPath < Text.pathSize destination.text ∨ maxName < Text.pathSize destination.name then
        (.error (Refusal.nameTooLong.fault destination.text), fs)
      else if fs.get? (dir ++ [destination.name]) = some .directory then
        (.error (Refusal.isDirectory.fault destination.text), fs)
      else (.ok (), (fs.remove temporary).put (dir ++ [destination.name]) (.file mode content)) := by
  have hplace : ¬ (destination.parts.isEmpty || decide (destination.name = "..")) = true := by
    simp [h.parts, h.name]
  rw [takePlace, if_neg hplace]
  refine (run_bind _ _ fs).trans ?_
  rw [FileM.run_locate, hfault, h.locate_destination false (absurd · Bool.false_ne_true)]
  by_cases hlong : maxPath < Text.pathSize destination.text ∨ maxName < Text.pathSize destination.name
  · rw [if_pos hlong, if_pos hlong]
    rfl
  · rw [if_neg hlong, if_neg hlong]
    refine (run_get_bind _ fs).trans ?_
    cases hget : fs.get? (dir ++ [destination.name]) with
    | none => rfl
    | some e => cases e <;> rfl

theorem follows_takePlace (h : Agree hidden fs fs') (hfault : pathFault? destination = none)
    (hbeside : Beside fs destination dir) (hvisible : Visible hidden destination dir src)
    {temporary : Location} (hne : temporary ≠ []) (mode : Nat) (content : Bytes) :
    Follows hidden (takePlace temporary mode content destination) fs fs' := by
  rw [Follows, run_takePlace hfault hbeside, run_takePlace hfault (hbeside.congr h),
    h.visible hvisible.destination]
  split
  · exact ⟨rfl, h⟩
  · split
    · exact ⟨rfl, h⟩
    · exact ⟨rfl, (h.remove hne).put (by simp) _⟩

theorem follows_finish (h : Agree hidden fs fs') (hfault : pathFault? destination = none)
    (hbeside : Beside fs destination dir) (hvisible : Visible hidden destination dir src)
    (hsource : fs.locate source = .ok src)
    (hfill : ∀ g g', Agree hidden g g' → g.locate source = .ok src → Follows hidden fill g g')
    (hquiet : ∀ g, (fill.run.run g).2 = g) {temporary : Location} (hne : temporary ≠ [])
    (hplain : Plain (fs.get? temporary)) :
    Follows hidden (finish destination fill (some source) temporary) fs fs' := by
  refine FileM.follows_bind (hfill fs fs' h hsource) fun content g g' hrun hagree hrun' => ?_
  obtain rfl : g = fs := by simpa [hrun] using hquiet fs
  have hput := agree_put hne hplain temporaryMode content
  have hmodify : Follows hidden
      (modify (·.put temporary (.file temporaryMode content)) : FileM Unit) g g' :=
    ⟨rfl, hagree.put hne _⟩
  refine FileM.follows_bind hmodify fun _ k k' hk hagree' _ => ?_
  obtain rfl : g.put temporary (.file temporaryMode content) = k := congrArg Prod.snd hk
  refine FileM.follows_bind (FileM.follows_stat hagree' (hput.locate hsource) hvisible.source)
    fun e l l' hl hagree'' _ => ?_
  obtain ⟨-, -, rfl⟩ := FileM.stat_eq_ok.mp hl
  exact follows_takePlace hagree'' hfault (hbeside.congr hput) hvisible hne e.mode content

theorem run_makeDirs_beside (hfault : pathFault? destination = none)
    (h : Beside fs destination dir) :
    (makeDirs destination.parent).run.run fs = (.ok (), fs) := by
  have hdir : fs.stat destination.parent = .ok .directory :=
    FileSystem.stat_eq_ok.mpr ⟨dir, h.locate, h.directory⟩
  rw [makeDirs, run_reporting, FileM.run_makeDirs_there (pathFault?_parent hfault) hdir]
  rfl

theorem eq_of_landing?_beside (hfault : pathFault? destination = none) (h : Beside fs destination dir)
    {at_ : Location} (hat : landing? fs destination = some at_) : at_ = dir ++ [destination.name] := by
  have hdir : fs.stat destination.parent = .ok .directory :=
    FileSystem.stat_eq_ok.mpr ⟨dir, h.locate, h.directory⟩
  rw [landing?, FileM.run_makeDirs_there (pathFault?_parent hfault) hdir,
    h.locate_destination false (absurd · Bool.false_ne_true)] at hat
  split at hat
  · cases hat
  · exact (Option.some.inj hat).symm

/-! ### Whole files -/

/-- Two results are the same, or both are refusals that are reported in the same words. -/
def SameReport (r r' : Except Trouble Unit) : Prop :=
  r' = r ∨ ∃ f f' : Failure, r = .error (.failure f) ∧ r' = .error (.failure f') ∧ f'.message = f.message

/-- An operation does the same to two file systems, up to what is hidden and up to the reasons that the system
gives for a refusal. -/
def Echoes (hidden : Location → Prop) (m : AccessM Unit) (fs fs' : FileSystem) : Prop :=
  SameReport (m.run.run fs).1 (m.run.run fs').1 ∧ Agree hidden (m.run.run fs).2 (m.run.run fs').2

theorem echoes_of_run {m : AccessM Unit} {r r' : Except Trouble Unit} {g g' : FileSystem}
    (hrun : m.run.run fs = (r, g)) (hrun' : m.run.run fs' = (r', g')) (hsame : SameReport r r')
    (hagree : Agree hidden g g') : Echoes hidden m fs fs' := by
  rw [Echoes, hrun, hrun']
  exact ⟨hsame, hagree⟩

/-- A file is written in the same way to file systems that agree. -/
theorem echoes_replaceAtomically (h : Agree hidden fs fs') (hfault : pathFault? destination = none)
    (hbeside : Beside fs destination dir) (hvisible : Visible hidden destination dir src)
    (hsource : fs.locate source = .ok src)
    (hfill : ∀ g g', Agree hidden g g' → g.locate source = .ok src → Follows hidden fill g g')
    (hquiet : ∀ g, (fill.run.run g).2 = g) :
    Echoes hidden (replaceAtomically destination fill (some source) message) fs fs' := by
  have hruns (g : FileSystem) : (replaceAtomically destination fill (some source) message).run.run g = _ :=
    run_replaceAtomically fill (some source) message
  have hrun := hruns fs
  have hrun' := hruns fs'
  rw [run_makeDirs_beside hfault hbeside] at hrun
  rw [run_makeDirs_beside hfault (hbeside.congr h)] at hrun'
  dsimp only at hrun hrun'
  cases twofold h hfault hvisible with
  | @refused fault fault' hrefusal hrefusal' hmake hmake' =>
    rw [hmake] at hrun
    rw [hmake'] at hrun'
    obtain ⟨number, hkind⟩ := hrefusal
    obtain ⟨number', hkind'⟩ := hrefusal'
    refine echoes_of_run hrun hrun' (.inr ⟨writeFailure destination message fault,
      writeFailure destination message fault', ?_, ?_, rfl⟩) h
    · rw [reported, hkind]
    · rw [reported, hkind']
  | @made at_ hfree hmake hmake' =>
    rw [hmake] at hrun
    rw [hmake'] at hrun'
    dsimp only at hrun hrun'
    have hne := FileSystem.ne_nil_of_get?_eq_none hfree
    have hput : Agree (· = at_) fs (fs.put at_ (.file temporaryMode [])) :=
      agree_put hne (hfree ▸ FileSystem.plain_none) temporaryMode []
    have hplain : Plain ((fs.put at_ (.file temporaryMode [])).get? at_) := by
      rw [FileSystem.get?_put _ hne, if_pos rfl]
      exact FileSystem.plain_file _ _
    obtain ⟨hresult, hagree⟩ := follows_finish (h.put hne _) hfault (hbeside.congr hput) hvisible
      (hput.locate hsource) hfill hquiet hne hplain
    -- with the temporary file in place, both still agree, and end in the same way
    rcases hfinish : (finish destination fill (some source) at_).run.run
      (fs.put at_ (.file temporaryMode [])) with ⟨fault | ⟨⟨⟩⟩, g⟩ <;>
    rcases hfinish' : (finish destination fill (some source) at_).run.run
      (fs'.put at_ (.file temporaryMode [])) with ⟨fault' | ⟨⟨⟩⟩, g'⟩
    · rw [hfinish] at hrun hresult hagree
      rw [hfinish'] at hrun' hresult hagree
      cases hresult
      refine echoes_of_run hrun hrun' (.inl rfl) ?_
      split
      · exact hagree.remove hne
      · exact hagree
    · rw [hfinish, hfinish'] at hresult
      cases hresult
    · rw [hfinish, hfinish'] at hresult
      cases hresult
    · rw [hfinish] at hrun hagree
      rw [hfinish'] at hrun' hagree
      exact echoes_of_run hrun hrun' (.inl rfl) hagree

/-- What becomes of a file system when a file is written to a location: the file stands there, or the
system refused and nothing has changed, or there was a fault. -/
inductive Stored (fs : FileSystem) (at_ : Location) (fs' : FileSystem) : Except Trouble Unit → Prop where
  | written {mode : Nat} {content : Bytes} (hentry : fs.get? at_ ≠ some .directory)
      (hfiles : ∀ loc, fs'.get? loc = if loc = at_ then some (.file mode content) else fs.get? loc) :
      Stored fs at_ fs' (.ok ())
  | refused (f : Failure) (hfiles : ∀ loc, fs'.get? loc = fs.get? loc) :
      Stored fs at_ fs' (.error (.failure f))
  | faulted (fault : Fault) : Stored fs at_ fs' (.error (.fault fault))

theorem stored_of_reported {report : Fault → Failure} {fault : Fault} {at_ : Location}
    (h : ∀ number, fault.kind = .system number → ∀ loc, fs'.get? loc = fs.get? loc) :
    Stored fs at_ fs' (.error (reported report fault)) := by
  rw [reported]
  split
  · rename_i number hkind
    exact .refused _ (h number hkind)
  · exact .faulted fault

theorem replaceAtomically_stored (hfault : pathFault? destination = none)
    (hbeside : Beside fs destination dir) (hquiet : ∀ g, (fill.run.run g).2 = g) :
    Stored fs (dir ++ [destination.name])
      ((replaceAtomically destination fill (some source) message).run.run fs).2
      ((replaceAtomically destination fill (some source) message).run.run fs).1 := by
  rcases hrun : (replaceAtomically destination fill (some source) message).run.run fs with
    ⟨t | ⟨⟨⟩⟩, g⟩
  · rw [run_replaceAtomically, run_makeDirs_beside hfault hbeside] at hrun
    dsimp only at hrun
    split at hrun
    · rename_i fault k htemporary
      obtain rfl := makeTemporary_eq_error htemporary
      cases hrun
      exact stored_of_reported fun _ _ _ => rfl
    · rename_i temporary k htemporary
      obtain ⟨-, -, hfree, rfl⟩ := makeTemporary_eq_ok htemporary
      have hne := FileSystem.ne_nil_of_get?_eq_none hfree
      split at hrun
      · cases hrun
      · rename_i fault k' hfinish
        obtain ⟨hreported, rfl⟩ := Prod.mk.inj hrun
        rw [← hreported]
        -- the temporary file is gone, and nothing stood in its place
        refine stored_of_reported fun number hkind loc => ?_
        rw [hkind]
        refine (FileSystem.get?_remove k' hne loc).trans ?_
        split
        · rename_i hloc
          rw [hloc, hfree]
        · rename_i hloc
          rcases finish_eq_error hquiet hfinish with rfl | ⟨content, rfl⟩
          · rw [FileSystem.get?_put _ hne, if_neg hloc]
          · rw [FileSystem.get?_put _ hne, if_neg hloc, FileSystem.get?_put _ hne, if_neg hloc]
  · obtain ⟨made, temporary, at_, mode, content, hreplaced, -, rfl⟩ :=
      replaceAtomically_eq_ok (fun g a g' hfill => by simpa [hfill] using hquiet g) hrun
    have hdir : fs.stat destination.parent = .ok .directory :=
      FileSystem.stat_eq_ok.mpr ⟨dir, hbeside.locate, hbeside.directory⟩
    obtain rfl := FileM.eq_of_makeDirs hdir hreplaced.dirs
    have hat : at_ = dir ++ [destination.name] := by
      have hlocate := hreplaced.locate_made
      rw [hbeside.locate_destination false nofun] at hlocate
      split at hlocate
      · cases hlocate
      · exact (Except.ok.inj hlocate).symm
    subst hat
    refine .written (fun hget => ?_) hreplaced.get?_final
    refine hreplaced.entry ?_
    rw [hreplaced.get?_filled, if_neg, hget]
    rintro rfl
    rw [hreplaced.free] at hget
    cases hget

/-! ## Copying and writing -/

theorem echoes_copyFile (h : Agree hidden fs fs') (hfault : pathFault? destination = none)
    (hbeside : Beside fs destination dir) (hvisible : Visible hidden destination dir src)
    (hsource : fs.locate source = .ok src) : Echoes hidden (copyFile source destination) fs fs' :=
  echoes_replaceAtomically h hfault hbeside hvisible hsource
    (fun _ _ hagree hat => FileM.follows_readBytes hagree hat hvisible.source)
    (FileM.run_readBytes_state source)

theorem copyFile_stored (hfault : pathFault? destination = none) (hbeside : Beside fs destination dir) :
    Stored fs (dir ++ [destination.name]) ((copyFile source destination).run.run fs).2
      ((copyFile source destination).run.run fs).1 :=
  replaceAtomically_stored hfault hbeside (FileM.run_readBytes_state source)

/-- Whether a directory stands in the way of a destination is the same, unless it is hidden. -/
theorem isDir_congr (h : Agree hidden fs fs') (hbeside : Beside fs destination dir)
    (hvisible : ¬ hidden (dir ++ [destination.name]))
    (hlink : ∀ target, fs.get? (dir ++ [destination.name]) ≠ some (.link target)) :
    fs'.isDir destination = fs.isDir destination := by
  have hsame := h.visible hvisible
  have hlink' : ∀ target, fs'.get? (dir ++ [destination.name]) ≠ some (.link target) :=
    fun target => hsame ▸ hlink target
  rw [FileSystem.isDir, FileSystem.isDir, FileSystem.leadsTo, FileSystem.leadsTo, FileSystem.stat,
    FileSystem.stat, hbeside.locate_destination true fun _ => hlink,
    (hbeside.congr h).locate_destination true fun _ => hlink']
  split
  · rfl
  · by_cases hlong : maxPath < Text.pathSize destination.text ∨ maxName < Text.pathSize destination.name
    · rw [if_pos hlong]
      rfl
    · rw [if_neg hlong]
      simp only [bind, Except.bind, hsame]

theorem echoes_writeFile (h : Agree hidden fs fs') (hfault : pathFault? destination = none)
    (hbeside : Beside fs destination dir) (hvisible : Visible hidden destination dir src)
    (hsource : fs.locate source = .ok src)
    (hlink : ∀ target, fs.get? (dir ++ [destination.name]) ≠ some (.link target)) (data : String) :
    Echoes hidden (writeFile destination data (some source)) fs fs' := by
  rw [Echoes, writeFile, run_get_bind, run_get_bind,
    isDir_congr h hbeside hvisible.destination hlink]
  cases fs.isDir destination with
  | error fault => exact ⟨.inl rfl, h⟩
  | ok there =>
    cases there with
    | true => exact ⟨.inl rfl, h⟩
    | false =>
      refine echoes_replaceAtomically h hfault hbeside hvisible hsource (fun g g' hagree _ => ?_)
        fun g => ?_
      · split <;> exact ⟨rfl, hagree⟩
      · split <;> rfl

theorem writeFile_stored (hfault : pathFault? destination = none) (hbeside : Beside fs destination dir)
    (data : String) :
    Stored fs (dir ++ [destination.name]) ((writeFile destination data (some source)).run.run fs).2
      ((writeFile destination data (some source)).run.run fs).1 := by
  rw [writeFile, run_get_bind]
  cases fs.isDir destination with
  | error fault => exact .faulted fault
  | ok there =>
    cases there with
    | true => exact .refused _ fun _ => rfl
    | false =>
      refine replaceAtomically_stored hfault hbeside fun g => ?_
      split <;> rfl

/-! ### New files -/

section New

variable {temporary : Location} {data : String} (hfault : pathFault? destination = none)
  (hbeside : Beside fs destination dir)
  (hshort : ¬ (maxPath < Text.pathSize destination.text ∨ maxName < Text.pathSize destination.name))
  (hnew : fs.get? (dir ++ [destination.name]) = none)
  (htemporary : fs.locate (temporaryPath fs destination (freeNumber fs destination)) false = .ok temporary)
  (hfree : fs.get? temporary = none)

include hfault hbeside hshort hnew in
theorem isDir_of_new : fs.isDir destination = .ok false := by
  have hstat : fs.stat destination = .error .notFound := by
    rw [FileSystem.stat, hbeside.locate_destination true fun _ target => by simp [hnew], if_neg hshort]
    simp only [bind, Except.bind, hnew]
  rw [FileSystem.isDir, FileSystem.leadsTo, hfault, hstat]
  rfl

include hfault htemporary hfree in
theorem run_makeTemporary_of_free :
    (makeTemporary destination).run.run fs = (.ok temporary, fs.put temporary (.file temporaryMode [])) := by
  rw [run_makeTemporary, hfault]
  dsimp only
  rw [htemporary]
  dsimp only
  rw [hfree]
  rfl

include hfault hbeside hshort hnew htemporary hfree

/-- A text is written where nothing stands, if its destination is not too long and the temporary file can be
made. -/
theorem run_writeFile_of_new (hdata : Bytes.ofText? data = .ok (Bytes.ofText data)) :
    (writeFile destination data).run.run fs =
      (.ok (), (((fs.put temporary (.file temporaryMode [])).put temporary
        (.file temporaryMode (Bytes.ofText data))).remove temporary).put
          (dir ++ [destination.name]) (.file defaultMode (Bytes.ofText data))) := by
  have hne := FileSystem.ne_nil_of_get?_eq_none hfree
  have hmake := run_makeTemporary_of_free hfault htemporary hfree
  generalize hmade : fs.put temporary (.file temporaryMode []) = made at hmake ⊢
  generalize hfilled : made.put temporary (.file temporaryMode (Bytes.ofText data)) = filled
  -- what is in the directory otherwise stays as it is
  have hthere : Beside filled destination dir := by
    rw [← hfilled, ← hmade]
    refine (hbeside.congr (agree_put hne (hfree ▸ FileSystem.plain_none) _ _)).congr (agree_put hne ?_ _ _)
    rw [FileSystem.get?_put _ hne, if_pos rfl]
    exact FileSystem.plain_file _ _
  have hnothing : filled.get? (dir ++ [destination.name]) ≠ some .directory := by
    rw [← hfilled, ← hmade, FileSystem.get?_put _ hne, FileSystem.get?_put _ hne, hnew]
    split <;> simp
  have hfinish : (finish destination (pure (Bytes.ofText data)) none temporary).run.run made = (.ok (),
      (filled.remove temporary).put (dir ++ [destination.name]) (.file defaultMode (Bytes.ofText data))) := by
    rw [← hfilled] at hthere hnothing ⊢
    refine (run_takePlace hfault hthere temporary defaultMode (Bytes.ofText data)).trans ?_
    rw [if_neg hshort, if_neg hnothing]
  rw [writeFile, run_get_bind, isDir_of_new hfault hbeside hshort hnew]
  dsimp only
  rw [hdata, run_replaceAtomically, run_makeDirs_beside hfault hbeside]
  dsimp only
  rw [hmake]
  dsimp only
  rw [hfinish]

/-- A text that is written where nothing stood is what the destination leads to. -/
theorem exists_writeFile_of_new (hdata : Bytes.ofText? data = .ok (Bytes.ofText data)) :
    ∃ files, (writeFile destination data).run.run fs = (.ok (), files) ∧
      files.stat destination = .ok (.file defaultMode (Bytes.ofText data)) := by
  refine ⟨_, run_writeFile_of_new hfault hbeside hshort hnew htemporary hfree hdata, ?_⟩
  have hsame := FileSystem.agree_removed hfree (.file temporaryMode []) (.file temporaryMode (Bytes.ofText data))
  generalize ((fs.put temporary _).put temporary _).remove temporary = left at hsame ⊢
  have hne : dir ++ [destination.name] ≠ [] := by simp
  have hplain : left.get? (dir ++ [destination.name]) = none := (hsame.visible not_false).trans hnew
  have hget := (FileSystem.get?_put left hne (.file defaultMode (Bytes.ofText data)) _).trans (if_pos rfl)
  have hput := (hbeside.congr hsame).congr
    (agree_put hne (hplain ▸ FileSystem.plain_none) defaultMode (Bytes.ofText data))
  rw [FileSystem.stat, hput.locate_destination true fun _ target => by simp [hget], if_neg hshort]
  simp only [bind, Except.bind, hget]

end New

end Writing

end JsxTagger.Files
