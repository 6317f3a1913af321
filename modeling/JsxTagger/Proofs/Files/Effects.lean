import JsxTagger.Proofs.Files.Access

/-!
# Operations that may fail

What an operation on files leaves alone, whether it succeeds or not. `Spares` says that everything is
still there: the log file may have grown, and at some locations a file may stand in the place of what was
no directory. No operation makes a link, so paths lead where they led (`Spares.locate`).

Making directories only adds directories on the way (`makeDirs_onlyMakes`). Writing a file that is refused
leaves no more than these, unless the refusal is not the system's: then the temporary file is still there
(`Aborted`). Writing a file that succeeds changes one location, the one that the destination leads to
(`Lands`).
-/

namespace JsxTagger.Files

namespace FileSystem

/-! ## What is spared -/

/-- Everything of a file system is still there in a later one. The file at `log`, if there is one, may
have grown, and at the locations in `touched` a file may have taken the place of a file or a link. There
are no new links. -/
structure Spares (log : Option Location) (touched : Location → Prop) (fs fs' : FileSystem) : Prop where
  workDir : fs'.workDir = fs.workDir
  entries : ∀ loc e, fs.get? loc = some e → fs'.get? loc = some e ∨
    (log = some loc ∧ ∃ mode old added, e = .file mode old ∧
      fs'.get? loc = some (.file mode (old ++ added))) ∨
    (touched loc ∧ e ≠ .directory ∧ ∃ mode content, fs'.get? loc = some (.file mode content))
  links : ∀ loc target, fs'.get? loc = some (.link target) → fs.get? loc = some (.link target)

/-- A later file system only has more directories and files. -/
abbrev Grows (fs fs' : FileSystem) : Prop := Spares none (fun _ => False) fs fs'

namespace Spares

variable {log : Option Location} {touched : Location → Prop} {fs fs' fs'' : FileSystem}

theorem refl (log : Option Location) (touched : Location → Prop) (fs : FileSystem) :
    Spares log touched fs fs :=
  ⟨rfl, fun _ _ h => .inl h, fun _ _ h => h⟩

theorem mono {log' : Option Location} {touched' : Location → Prop} (h : Spares log touched fs fs')
    (hlog : log = none ∨ log = log') (htouched : ∀ loc, touched loc → touched' loc) :
    Spares log' touched' fs fs' := by
  refine ⟨h.workDir, fun loc e he => ?_, h.links⟩
  rcases h.entries loc e he with hsame | ⟨hplace, hgrown⟩ | ⟨hloc, hnew⟩
  · exact .inl hsame
  · rcases hlog with rfl | rfl
    · cases hplace
    · exact .inr (.inl ⟨hplace, hgrown⟩)
  · exact .inr (.inr ⟨htouched loc hloc, hnew⟩)

theorem trans (h : Spares log touched fs fs') (h' : Spares log touched fs' fs'') :
    Spares log touched fs fs'' := by
  refine ⟨h'.workDir.trans h.workDir, fun loc e he => ?_,
    fun loc target hlink => h.links loc target (h'.links loc target hlink)⟩
  rcases h.entries loc e he with hsame | ⟨hplace, mode, old, added, rfl, hgrown⟩ |
    ⟨hloc, hne, mode, content, hnew⟩
  · exact h'.entries loc e hsame
  · rcases h'.entries loc _ hgrown with hsame | ⟨-, _, _, added', heq, hmore⟩ | ⟨hloc, -, hnew⟩
    · exact .inr (.inl ⟨hplace, mode, old, added, rfl, hsame⟩)
    · cases heq
      refine .inr (.inl ⟨hplace, mode, old, added ++ added', rfl, ?_⟩)
      rw [hmore, List.append_assoc]
    · exact .inr (.inr ⟨hloc, nofun, hnew⟩)
  · rcases h'.entries loc _ hnew with hsame | ⟨-, _, _, added, heq, hmore⟩ | ⟨-, -, hnew'⟩
    · exact .inr (.inr ⟨hloc, hne, mode, content, hsame⟩)
    · cases heq
      exact .inr (.inr ⟨hloc, hne, mode, content ++ added, hmore⟩)
    · exact .inr (.inr ⟨hloc, hne, hnew'⟩)

theorem directory (h : Spares log touched fs fs') {loc : Location}
    (hdir : fs.get? loc = some .directory) : fs'.get? loc = some .directory := by
  rcases h.entries loc _ hdir with hsame | ⟨-, _, _, _, heq, -⟩ | ⟨-, hne, -⟩
  · exact hsame
  · cases heq
  · exact absurd rfl hne

/-- Where something stood something stands. -/
theorem isSome (h : Spares log touched fs fs') {loc : Location} (hnone : fs'.get? loc = none) :
    fs.get? loc = none := by
  cases hget : fs.get? loc with
  | none => rfl
  | some e =>
    rcases h.entries loc e hget with hsame | ⟨-, _, _, _, -, hgrown⟩ | ⟨-, -, _, _, hnew⟩
    · rw [hnone] at hsame
      cases hsame
    · rw [hnone] at hgrown
      cases hgrown
    · rw [hnone] at hnew
      cases hnew

/-- Something that is no link is put where nothing stood. -/
theorem put (h : Spares log touched fs fs') {at_ : Location} {e : Entry}
    (hnone : fs.get? at_ = none) (hplain : ∀ target, e ≠ .link target) :
    Spares log touched fs (fs'.put at_ e) := by
  have hne := ne_nil_of_get?_eq_none hnone
  refine ⟨h.workDir, fun loc d hd => ?_, fun loc target hlink => ?_⟩
  · have hother : loc ≠ at_ := by
      rintro rfl
      rw [hnone] at hd
      cases hd
    rw [get?_put _ hne, if_neg hother]
    exact h.entries loc d hd
  · rw [get?_put _ hne] at hlink
    split at hlink
    · exact absurd (Option.some.inj hlink) (hplain target)
    · exact h.links loc target hlink

/-- Links are still there if none of them is touched. -/
theorem link_iff (h : Spares log touched fs fs')
    (hplain : ∀ loc, touched loc → ∀ target, fs.get? loc ≠ some (.link target)) (loc : Location)
    (target : String) : fs'.get? loc = some (.link target) ↔ fs.get? loc = some (.link target) := by
  refine ⟨h.links loc target, fun hlink => ?_⟩
  rcases h.entries loc _ hlink with hsame | ⟨-, _, _, _, heq, -⟩ | ⟨hloc, -⟩
  · exact hsame
  · cases heq
  · exact absurd hlink (hplain loc hloc target)

/-- Paths lead where they led if no link is touched. -/
theorem locate (h : Spares log touched fs fs')
    (hplain : ∀ loc, touched loc → ∀ target, fs.get? loc ≠ some (.link target)) {p : Path}
    {follow : Bool} {at_ : Location} (hat : fs.locate p follow = .ok at_) :
    fs'.locate p follow = .ok at_ := by
  obtain ⟨hsize, hleads⟩ := locate_eq_ok.mp hat
  have hstart : fs'.startOf p = fs.startOf p := by rw [startOf, startOf, h.workDir]
  refine locate_eq_ok.mpr ⟨hsize, ?_⟩
  rw [hstart]
  exact hleads.congr (fun loc => h.directory) fun loc target => h.link_iff hplain loc target

/-- A file that was not touched holds what it held. Only the log file holds more. -/
theorem stat_file (h : Spares log touched fs fs')
    (hplain : ∀ loc, touched loc → ∀ target, fs.get? loc ≠ some (.link target)) {p : Path}
    {at_ : Location} {mode : Nat} {old : Bytes} (hat : fs.locate p = .ok at_)
    (hget : fs.get? at_ = some (.file mode old)) (huntouched : ¬ touched at_) :
    ∃ added, fs'.stat p = .ok (.file mode (old ++ added)) ∧ (added = [] ∨ log = some at_) := by
  have hat' := h.locate hplain hat
  rcases h.entries at_ _ hget with hsame | ⟨hplace, _, _, added, heq, hgrown⟩ | ⟨hloc, -⟩
  · exact ⟨[], stat_eq_ok.mpr ⟨at_, hat', by rw [hsame, List.append_nil]⟩, .inl rfl⟩
  · cases heq
    exact ⟨added, stat_eq_ok.mpr ⟨at_, hat', hgrown⟩, .inr hplace⟩
  · exact absurd hloc huntouched

end Spares

/-- Nothing is touched, no link in particular. -/
theorem Grows.locate {fs fs' : FileSystem} (h : fs.Grows fs') {p : Path} {follow : Bool}
    {at_ : Location} (hat : fs.locate p follow = .ok at_) : fs'.locate p follow = .ok at_ :=
  Spares.locate h (fun _ hfalse => hfalse.elim) hat

/-! ## New directories -/

/-- Nothing is new in a later file system but directories to which the beginnings of a path lead. -/
structure OnlyDirectories (p : Path) (fs fs' : FileSystem) : Prop where
  workDir : fs'.workDir = fs.workDir
  kept : ∀ loc e, fs.get? loc = some e → fs'.get? loc = some e
  added : ∀ loc e, fs'.get? loc = some e → fs.get? loc = some e ∨
    (e = .directory ∧ ∃ front, front <+: p.parts ∧ fs'.locate ⟨p.anchor, front⟩ = .ok loc)

namespace OnlyDirectories

variable {p : Path} {fs fs' fs'' : FileSystem}

theorem refl (p : Path) (fs : FileSystem) : OnlyDirectories p fs fs :=
  ⟨rfl, fun _ _ h => h, fun _ _ h => .inl h⟩

theorem grows (h : OnlyDirectories p fs fs') : fs.Grows fs' := by
  refine ⟨h.workDir, fun loc e he => .inl (h.kept loc e he), fun loc target hlink => ?_⟩
  rcases h.added loc _ hlink with hold | ⟨hdir, -⟩
  · exact hold
  · cases hdir

theorem trans (h : OnlyDirectories p fs fs') (h' : OnlyDirectories p fs' fs'') :
    OnlyDirectories p fs fs'' := by
  refine ⟨h'.workDir.trans h.workDir, fun loc e he => h'.kept loc e (h.kept loc e he), fun loc e he => ?_⟩
  rcases h'.added loc e he with hold | hnew
  · exact (h.added loc e hold).imp_right fun ⟨hdir, front, hfront, hat⟩ =>
      ⟨hdir, front, hfront, h'.grows.locate hat⟩
  · exact .inr hnew

/-- What a path leads through, a longer one leads through as well. -/
theorem mono {anchor : Anchor} {front parts : List String} (h : OnlyDirectories ⟨anchor, front⟩ fs fs')
    (hfront : front <+: parts) : OnlyDirectories ⟨anchor, parts⟩ fs fs' :=
  ⟨h.workDir, h.kept, fun loc e he => (h.added loc e he).imp_right fun ⟨hdir, way, hway, hat⟩ =>
    ⟨hdir, way, hway.trans hfront, hat⟩⟩

/-- What stands where matters, not how it is listed. -/
theorem congr (h : OnlyDirectories p fs fs') (hworkDir : fs''.workDir = fs'.workDir)
    (hget : ∀ loc, fs''.get? loc = fs'.get? loc) : OnlyDirectories p fs fs'' := by
  have hsame : OnlyDirectories p fs' fs'' :=
    ⟨hworkDir, fun loc e he => (hget loc).trans he, fun loc e he => .inl ((hget loc).symm.trans he)⟩
  exact h.trans hsame

end OnlyDirectories

end FileSystem

open FileSystem (Spares Grows OnlyDirectories)

/-! ## Making directories -/

namespace FileM

/-- An operation makes nothing but directories on the way of a path, whether it succeeds or not. -/
def OnlyMakes {α : Type} (p : Path) (m : FileM α) : Prop :=
  ∀ fs : FileSystem, OnlyDirectories p fs (m.run.run fs).2

variable {α β : Type} {p : Path}

theorem onlyMakes_of_look {m : FileM α} (h : ∀ fs, (m.run.run fs).2 = fs) : OnlyMakes p m := by
  intro fs
  rw [h fs]
  exact .refl p fs

theorem OnlyMakes.bind {m : FileM α} {f : α → FileM β} (hm : OnlyMakes p m) (hf : ∀ a, OnlyMakes p (f a)) :
    OnlyMakes p (m >>= f) := by
  intro fs
  have hfirst := hm fs
  rw [run_bind]
  rcases hrun : m.run.run fs with ⟨fault | a, fs'⟩
  · rw [hrun] at hfirst
    exact hfirst
  · rw [hrun] at hfirst
    exact hfirst.trans (hf a fs')

theorem OnlyMakes.tryCatch {m : FileM α} {f : Fault → FileM α} (hm : OnlyMakes p m)
    (hf : ∀ fault, OnlyMakes p (f fault)) : OnlyMakes p (tryCatch m f) := by
  intro fs
  have hfirst := hm fs
  rw [run_tryCatch]
  rcases hrun : m.run.run fs with ⟨fault | a, fs'⟩
  · rw [hrun] at hfirst
    exact hfirst.trans (hf fault fs')
  · rw [hrun] at hfirst
    exact hfirst

theorem makeDirectory_onlyMakes (p : Path) : OnlyMakes p (makeDirectory p) := by
  intro fs
  rcases makeDirectory_cases fs p with ⟨at_, hat, hnone, hrun⟩ | ⟨fault, hrun, -⟩
  · rw [hrun]
    have hmade := Made.put hat hnone
    refine ⟨hmade.keeps.workDir, fun loc e he => ?_, fun loc e he => ?_⟩
    · rcases hmade.keeps.entries loc e he with hsame | ⟨hlog, -⟩
      · exact hsame
      · cases hlog
    · by_cases hloc : loc = at_
      · subst hloc
        exact .inr ⟨(Option.some.inj (hmade.directory.symm.trans he)).symm, p.parts, List.prefix_rfl, hmade.locate⟩
      · rw [FileSystem.get?_put fs (FileSystem.ne_nil_of_get?_eq_none hnone), if_neg hloc] at he
        exact .inl he
  · rw [hrun]
    exact .refl p fs

theorem recover_onlyMakes (p : Path) (fault : Fault) :
    OnlyMakes p (do unless ← look (·.isDir p) do throw fault) := by
  refine OnlyMakes.bind (onlyMakes_of_look fun fs => by rw [run_look]) fun there => ?_
  cases there with
  | false => exact onlyMakes_of_look fun _ => rfl
  | true => exact onlyMakes_of_look fun _ => rfl

theorem ensureDirectory_onlyMakes (p : Path) : OnlyMakes p (ensureDirectory p) :=
  (makeDirectory_onlyMakes p).tryCatch (recover_onlyMakes p)

theorem makeDirsFrom_onlyMakes (anchor : Anchor) (names : List String) :
    OnlyMakes ⟨anchor, names.reverse⟩ (makeDirsFrom anchor names) := by
  induction names with
  | nil => exact ensureDirectory_onlyMakes _
  | cons name above ih =>
    refine (makeDirectory_onlyMakes _).tryCatch fun fault => ?_
    split
    · refine OnlyMakes.bind (fun fs => (ih fs).mono ?_) fun _ => ensureDirectory_onlyMakes _
      rw [List.reverse_cons]
      exact List.prefix_append _ _
    · exact recover_onlyMakes _ fault

/-- Making directories makes nothing but directories on the way. -/
theorem makeDirs_onlyMakes (p : Path) : OnlyMakes p (makeDirs p) := by
  have hfrom := makeDirsFrom_onlyMakes p.anchor p.parts.reverse
  rwa [List.reverse_reverse] at hfrom

/-- Making directories only adds to a file system. -/
theorem makeDirs_grows (p : Path) (fs : FileSystem) : fs.Grows ((makeDirs p).run.run fs).2 :=
  (makeDirs_onlyMakes p fs).grows

/-- A directory that was made is there. -/
theorem stat_of_makeDirs {fs fs' : FileSystem} {p : Path}
    (h : (makeDirs p).run.run fs = (.ok (), fs')) : fs'.stat p = .ok .directory := by
  have hensured {g g' : FileSystem} {q : Path} (hq : Ensured g q g') :
      g'.stat q = .ok .directory := by
    cases hq with
    | made hat hnone =>
      have hmade := Made.put hat hnone
      exact FileSystem.stat_eq_ok.mpr ⟨_, hmade.locate, hmade.directory⟩
    | there hdir => exact hdir
  have hpath : (⟨p.anchor, p.parts.reverse.reverse⟩ : Path) = p := by rw [List.reverse_reverse]
  rcases makeDirsFrom_eq_ok h with hmade | ⟨name, above, g, hparts, -, -, hmade⟩
  · rw [hpath] at hmade
    exact hensured hmade
  · rw [← List.reverse_cons, ← hparts, hpath] at hmade
    exact hensured hmade

/-! ## Looking -/

theorem run_stat (p : Path) (fs : FileSystem) :
    (stat p).run.run fs =
      (match FileSystem.pathFault? p with
        | some fault => .error fault
        | none => (fs.stat p).mapError (·.fault p.text), fs) := by
  rw [stat, run_bind, run_locate, FileSystem.stat]
  cases FileSystem.pathFault? p with
  | some fault => rfl
  | none =>
    cases fs.locate p with
    | error r => rfl
    | ok at_ =>
      refine (run_get_bind _ fs).trans ?_
      simp only [bind, Except.bind]
      cases fs.get? at_ with
      | none => rfl
      | some e => rfl

theorem run_readBytes_state (p : Path) (fs : FileSystem) : ((readBytes p).run.run fs).2 = fs := by
  rw [readBytes, run_bind, run_stat]
  split
  · rename_i e g hstat
    obtain ⟨-, rfl⟩ := Prod.mk.inj hstat
    cases e <;> rfl
  · rename_i fault g hstat
    exact (Prod.mk.inj hstat).2.symm

end FileM

/-! ## Writing files -/

variable {fs fs' : FileSystem} {destination : Path}

/-- What becomes of a fault that is reported: a refusal by the system is a failure. -/
def reported (report : Fault → Failure) (fault : Fault) : Trouble :=
  match fault.kind with
  | .system _ => .failure (report fault)
  | _ => .fault fault

theorem run_reporting {α : Type} (m : FileM α) (report : Fault → Failure) (fs : FileSystem) :
    (AccessM.reporting m report).run.run fs =
      ((m.run.run fs).1.mapError (reported report), (m.run.run fs).2) := by
  rw [AccessM.reporting, run_lift_bind]
  rcases m.run.run fs with ⟨fault | a, g⟩
  · obtain ⟨kind, text⟩ := fault
    cases kind <;> rfl
  · rfl

/-- Fills a temporary file and puts it in the place of the destination. -/
def finish (destination : Path) (fill : FileM Bytes) (modeFrom : Option Path)
    (temporary : Location) : FileM Unit := do
  let content ← fill
  modify (·.put temporary (.file temporaryMode content))
  let mode ←
    match modeFrom with
    | some p => do pure (← FileM.stat p).mode
    | none => pure defaultMode
  takePlace temporary mode content destination

/-- The failure to write a file. -/
def writeFailure (destination : Path) (message : String) (fault : Fault) : Failure where
  category := .fileWrite
  path := destination.text
  message := message
  cause := some fault.asCause

/-- The steps of writing a file: its directory is made, then a temporary file, which is filled and takes
the place of the destination. After a refusal the temporary file is removed. -/
theorem run_replaceAtomically (fill : FileM Bytes) (modeFrom : Option Path) (message : String) :
    (replaceAtomically destination fill modeFrom message).run.run fs =
      match (makeDirs destination.parent).run.run fs with
      | (.error t, made) => (.error t, made)
      | (.ok (), made) =>
        match (makeTemporary destination).run.run made with
        | (.error fault, g) => (.error (reported (writeFailure destination message) fault), g)
        | (.ok temporary, g) =>
          match (finish destination fill modeFrom temporary).run.run g with
          | (.ok (), g') => (.ok (), g')
          | (.error fault, g') =>
            (.error (reported (writeFailure destination message) fault),
              if fault.kind matches .system _ then g'.remove temporary else g') := by
  rw [replaceAtomically, run_bind]
  rcases (makeDirs destination.parent).run.run fs with ⟨t | ⟨⟨⟩⟩, made⟩
  · rfl
  · dsimp only
    rw [run_bind, run_reporting]
    rcases (makeTemporary destination).run.run made with ⟨fault | temporary, g⟩
    · rfl
    · have hcleaned := run_tryCatch (finish destination fill modeFrom temporary)
        (fun fault => do
          if fault.kind matches .system _ then modify (·.remove temporary)
          throw fault) g
      refine (run_reporting _ (writeFailure destination message) g).trans ?_
      refine (congrArg (fun r : Except Fault Unit × FileSystem =>
        (r.1.mapError (reported (writeFailure destination message)), r.2)) hcleaned).trans ?_
      rcases hfinish : (finish destination fill modeFrom temporary).run.run g with
        ⟨fault | ⟨⟨⟩⟩, g'⟩
      · dsimp only
        rw [hfinish]
        cases hkind : fault.kind <;> simp only [hkind] <;> rfl
      · dsimp only
        rw [hfinish]
        rfl

/-- Where a temporary file cannot be made, nothing changes. -/
theorem makeTemporary_eq_error {fault : Fault}
    (h : (makeTemporary destination).run.run fs = (.error fault, fs')) : fs' = fs := by
  rw [run_makeTemporary] at h
  split at h
  · cases h
    rfl
  · dsimp only at h
    split at h
    · cases h
      rfl
    · split at h
      · cases h
        rfl
      · cases h

/-- Where the temporary file cannot take the place of the destination, nothing changes. -/
theorem takePlace_eq_error {temporary : Location} {mode : Nat} {content : Bytes} {fault : Fault}
    (h : (takePlace temporary mode content destination).run.run fs = (.error fault, fs')) :
    fs' = fs := by
  rw [takePlace] at h
  split at h
  · cases h
    rfl
  · have hrun := h
    rw [run_bind, FileM.run_locate] at hrun
    split at hrun
    · rename_i at_ g hlocate
      obtain ⟨-, rfl⟩ := Prod.mk.inj hlocate
      rw [run_get_bind] at hrun
      split at hrun
      · cases hrun
        rfl
      · cases hrun
    · rename_i fault' g hlocate
      obtain ⟨-, rfl⟩ := Prod.mk.inj hlocate
      cases hrun
      rfl

/-- A temporary file that does not take its place was filled at most. -/
theorem finish_eq_error {fill : FileM Bytes} {modeFrom : Option Path} {temporary : Location}
    {fault : Fault} (hfill : ∀ g, (fill.run.run g).2 = g)
    (h : (finish destination fill modeFrom temporary).run.run fs = (.error fault, fs')) :
    fs' = fs ∨ ∃ content, fs' = fs.put temporary (.file temporaryMode content) := by
  rw [finish, run_bind] at h
  have hsame := hfill fs
  rcases hcontent : fill.run.run fs with ⟨fault' | content, g⟩
  · rw [hcontent] at h hsame
    cases h
    exact .inl hsame
  · rw [hcontent] at h hsame
    cases hsame
    refine .inr ⟨content, ?_⟩
    cases modeFrom with
    | none => exact takePlace_eq_error h
    | some p =>
      have hlook := FileM.run_stat p (g.put temporary (.file temporaryMode content))
      change (FileM.stat p >>= fun e => takePlace temporary e.mode content destination).run.run
        (g.put temporary (.file temporaryMode content)) = (.error fault, fs') at h
      rw [run_bind, hlook] at h
      split at h
      · rename_i e g' hstat
        obtain ⟨-, rfl⟩ := Prod.mk.inj hstat
        exact takePlace_eq_error h
      · rename_i fault' g' hstat
        obtain ⟨-, rfl⟩ := Prod.mk.inj hstat
        cases h
        rfl

/-- Whether a fault is a refusal by the system. -/
def IsRefusal (fault : Fault) : Prop := ∃ number, fault.kind = .system number

/-- What is no refusal is not reported and not cleaned up after. -/
theorem reported_of_not_isRefusal {fault : Fault} (h : ¬ IsRefusal fault) (report : Fault → Failure) :
    reported report fault = .fault fault ∧ (fault.kind matches .system _) = false := by
  rw [reported]
  split
  · rename_i number hkind
    exact absurd ⟨number, hkind⟩ h
  · exact ⟨rfl, rfl⟩

/-- What is left of a file that was not written: directories on the way to it, and a temporary file for it if
a fault that is not cleaned up after is in `left`. -/
inductive Aborted (fs : FileSystem) (destination : Path) (left : Fault → Prop) (t : Trouble)
    (fs' : FileSystem) : Prop where
  | clean (hdirs : OnlyDirectories destination.parent fs fs')
  | littered {fault : Fault} {made : FileSystem} {n : Nat} {temporary : Location} {content : Bytes}
      (hleft : left fault) (htrouble : t = .fault fault) (hdirs : OnlyDirectories destination.parent fs made)
      (htemporary : made.locate (temporaryPath made destination n) false = .ok temporary)
      (hfree : made.get? temporary = none) (hworkDir : fs'.workDir = made.workDir)
      (hfiles : ∀ loc, fs'.get? loc =
        if loc = temporary then some (.file temporaryMode content) else made.get? loc)

theorem Aborted.mono {left left' : Fault → Prop} {t : Trouble} (h : Aborted fs destination left t fs')
    (hleft : ∀ fault, left fault → left' fault) : Aborted fs destination left' t fs' := by
  cases h with
  | clean hdirs => exact .clean hdirs
  | littered hfault htrouble hdirs htemporary hfree hworkDir hfiles =>
    exact .littered (hleft _ hfault) htrouble hdirs htemporary hfree hworkDir hfiles

/-- A file that was not written only adds to a file system. -/
theorem Aborted.grows {left : Fault → Prop} {t : Trouble} (h : Aborted fs destination left t fs') :
    fs.Grows fs' := by
  cases h with
  | clean hdirs => exact hdirs.grows
  | @littered _ made n temporary content _ _ hdirs _ hfree hworkDir hfiles =>
    have hput := hdirs.grows.put (e := .file temporaryMode content) (hdirs.grows.isSome hfree) nofun
    have hget (loc : Location) :
        fs'.get? loc = (made.put temporary (.file temporaryMode content)).get? loc := by
      rw [hfiles, FileSystem.get?_put _ (FileSystem.ne_nil_of_get?_eq_none hfree)]
    refine ⟨hworkDir.trans hput.workDir, fun loc e he => ?_, fun loc target hlink => ?_⟩
    · rw [hget]
      exact hput.entries loc e he
    · rw [hget] at hlink
      exact hput.links loc target hlink

/-- A file that was not written left its temporary file only if the fault, one of filling it or taking its
place, is not cleaned up after. -/
theorem replaceAtomically_aborted {fill : FileM Bytes} {modeFrom : Option Path} {message : String}
    {t : Trouble} (hfill : ∀ g, (fill.run.run g).2 = g)
    (h : (replaceAtomically destination fill modeFrom message).run.run fs = (.error t, fs')) :
    Aborted fs destination (fun fault => ¬ IsRefusal fault ∧ FileSystem.pathFault? destination = none ∧
      ∃ temporary g, ((finish destination fill modeFrom temporary).run.run g).1 = .error fault) t fs' := by
  have hdirs : OnlyDirectories destination.parent fs ((makeDirs destination.parent).run.run fs).2 := by
    rw [makeDirs, run_reporting]
    exact FileM.makeDirs_onlyMakes _ fs
  rw [run_replaceAtomically] at h
  split at h
  · rename_i t' made hmade
    rw [hmade] at hdirs
    cases h
    exact .clean hdirs
  · rename_i made hmade
    rw [hmade] at hdirs
    split at h
    · rename_i fault g htemporary
      obtain rfl := makeTemporary_eq_error htemporary
      cases h
      exact .clean hdirs
    · rename_i temporary g htemporary
      obtain ⟨htaken, ⟨n, hlocate⟩, hfree, rfl⟩ := makeTemporary_eq_ok htemporary
      split at h
      · cases h
      · rename_i fault g' hfinish
        have hne := FileSystem.ne_nil_of_get?_eq_none hfree
        obtain ⟨content, hget, hworkDir⟩ : ∃ content, (∀ loc, g'.get? loc =
            if loc = temporary then some (.file temporaryMode content) else made.get? loc) ∧
            g'.workDir = made.workDir := by
          rcases finish_eq_error hfill hfinish with rfl | ⟨content, rfl⟩
          · exact ⟨[], FileSystem.get?_put _ hne _, rfl⟩
          · refine ⟨content, fun loc => ?_, rfl⟩
            rw [FileSystem.get?_put _ hne, FileSystem.get?_put _ hne]
            split <;> rfl
        obtain ⟨htrouble, rfl⟩ := Prod.mk.inj h
        by_cases hrefusal : IsRefusal fault
        · obtain ⟨number, hnumber⟩ := hrefusal
          rw [hnumber]
          -- the temporary file is gone, and nothing stood in its place
          have hclean (loc : Location) : (g'.remove temporary).get? loc = made.get? loc := by
            rw [FileSystem.get?_remove _ hne, hget]
            split
            · rename_i hloc
              rw [hloc, hfree]
            · rfl
          exact .clean (hdirs.congr hworkDir hclean)
        · obtain ⟨hreported, hkept⟩ := reported_of_not_isRefusal hrefusal (writeFailure destination message)
          rw [hreported] at htrouble
          rw [if_neg (Bool.eq_false_iff.mp hkept)]
          exact .littered ⟨hrefusal, htaken, _, _, congrArg Prod.fst hfinish⟩
            (Except.error.inj htrouble).symm hdirs hlocate hfree hworkDir hget

/-- What writing a file does, whether it succeeds or not: nothing but additions, or a file at the location
that the destination leads to. -/
inductive Lands (fs : FileSystem) (destination : Path) (fs' : FileSystem) : Prop where
  | refused (hgrows : fs.Grows fs')
  | written {made : FileSystem} {at_ : Location} {mode : Nat} {content : Bytes}
      (hgrows : fs.Grows made) (hat : made.locate destination false = .ok at_)
      (hentry : made.get? at_ ≠ some .directory) (hworkDir : fs'.workDir = made.workDir)
      (hfiles : ∀ loc, fs'.get? loc =
        if loc = at_ then some (.file mode content) else made.get? loc)

theorem Replaced.lands {modeFrom : Option Path} {made : FileSystem} {temporary at_ : Location}
    {mode : Nat} {content : Bytes}
    (h : Replaced fs destination modeFrom made temporary at_ mode content) :
    Lands fs destination
      (((filled made temporary content).remove temporary).put at_ (.file mode content)) := by
  have hgrows := FileM.makeDirs_grows destination.parent fs
  rw [h.dirs] at hgrows
  refine .written hgrows h.locate_made ?_ rfl h.get?_final
  intro hdir
  refine h.entry ?_
  rw [h.get?_filled, if_neg, hdir]
  rintro rfl
  rw [h.free] at hdir
  cases hdir

theorem copyFile_lands (source destination : Path) (fs : FileSystem) :
    Lands fs destination ((copyFile source destination).run.run fs).2 := by
  rcases hrun : (copyFile source destination).run.run fs with ⟨t | ⟨⟨⟩⟩, fs'⟩
  · exact .refused (replaceAtomically_aborted (FileM.run_readBytes_state source) hrun).grows
  · obtain ⟨made, temporary, at_, mode, content, hreplaced, -, rfl⟩ := copyFile_eq_ok hrun
    exact hreplaced.lands

theorem writeFile_lands (destination : Path) (data : String) (modeFrom : Option Path)
    (fs : FileSystem) : Lands fs destination ((writeFile destination data modeFrom).run.run fs).2 := by
  rcases hrun : (writeFile destination data modeFrom).run.run fs with ⟨t | ⟨⟨⟩⟩, fs'⟩
  · rw [writeFile, run_get_bind] at hrun
    split at hrun
    · cases hrun
      exact .refused (.refl _ _ _)
    · cases hrun
      exact .refused (.refl _ _ _)
    · refine .refused (replaceAtomically_aborted (fun g => ?_) hrun).grows
      split <;> rfl
  · obtain ⟨made, temporary, at_, mode, hreplaced, rfl⟩ := writeFile_eq_ok hrun
    exact hreplaced.lands

end JsxTagger.Files
