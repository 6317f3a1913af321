import JsxTagger.Files.Access
import JsxTagger.Proofs.Files.System

/-!
# Operations that succeed

An operation on files that succeeds is described by the file system it leaves behind. Making a
directory that is there changes nothing (`eq_of_makeDirs`); making one that is absent adds it and
those it lies in, and nothing else (`exists_made`). Writing a file goes through a temporary file, and
in the end only the file itself is new (`Replaced`). Where its path still leads anywhere, it leads to what was
written (`stat_of_writeFile`).
-/

namespace JsxTagger.Files

/-! ## Runs of operations -/

section Runs

variable {ε σ α β : Type}

theorem run_bind (m : ExceptT ε (StateM σ) α) (f : α → ExceptT ε (StateM σ) β) (s : σ) :
    (m >>= f).run.run s =
      match m.run.run s with
      | (.ok a, s') => (f a).run.run s'
      | (.error e, s') => (.error e, s') := by
  simp only [ExceptT.run_bind, StateT.run_bind]
  rcases m.run.run s with ⟨_ | a, s'⟩
  · rfl
  · rfl

theorem run_tryCatch (m : ExceptT ε (StateM σ) α) (f : ε → ExceptT ε (StateM σ) α) (s : σ) :
    (tryCatch m f).run.run s =
      match m.run.run s with
      | (.ok a, s') => (.ok a, s')
      | (.error e, s') => (f e).run.run s' := by
  have hcatch : (tryCatch m f).run.run s =
      (match (m.run.run s).1 with
        | .ok a => pure (.ok a)
        | .error e => (f e).run : StateM σ (Except ε α)).run (m.run.run s).2 := rfl
  rw [hcatch]
  rcases m.run.run s with ⟨_ | a, s'⟩
  · rfl
  · rfl

theorem run_get_bind (f : σ → ExceptT ε (StateM σ) β) (s : σ) :
    (get >>= f).run.run s = (f s).run.run s := rfl

theorem bind_eq_ok {m : ExceptT ε (StateM σ) α} {f : α → ExceptT ε (StateM σ) β} {s s' : σ} {b : β} :
    (m >>= f).run.run s = (.ok b, s') ↔
      ∃ a s₁, m.run.run s = (.ok a, s₁) ∧ (f a).run.run s₁ = (.ok b, s') := by
  rw [run_bind]
  rcases m.run.run s with ⟨e | a, s₁⟩
  · constructor
    · intro h
      cases h
    · rintro ⟨_, _, heq, _⟩
      cases heq
  · constructor
    · intro h
      exact ⟨a, s₁, rfl, h⟩
    · rintro ⟨a', s₁', heq, h⟩
      cases heq
      exact h

end Runs

namespace FileM

open FileSystem (pathFault?)

variable {fs fs' : FileSystem} {p : Path}

/-! ## Looking -/

theorem run_look {α : Type} (f : FileSystem → Except Fault α) (fs : FileSystem) :
    (look f).run.run fs = (f fs, fs) := by
  rw [look, run_get_bind]
  cases f fs with
  | ok a => rfl
  | error fault => rfl

theorem run_locate (p : Path) (follow : Bool) (fs : FileSystem) :
    (locate p follow).run.run fs =
      (match pathFault? p with
        | some fault => .error fault
        | none => (fs.locate p follow).mapError (·.fault p.text), fs) := by
  rw [locate]
  cases pathFault? p with
  | some fault => rfl
  | none =>
    refine (run_get_bind _ fs).trans ?_
    cases fs.locate p follow with
    | error r => rfl
    | ok at_ => rfl

theorem locate_eq_ok {follow : Bool} {at_ : Location} :
    (locate p follow).run.run fs = (.ok at_, fs') ↔
      pathFault? p = none ∧ fs.locate p follow = .ok at_ ∧ fs' = fs := by
  rw [run_locate]
  constructor
  · intro h
    obtain ⟨hresult, rfl⟩ := Prod.mk.inj h
    cases hfault : pathFault? p with
    | some fault => simp [hfault] at hresult
    | none =>
      cases hat : fs.locate p follow with
      | error r => simp [hfault, hat, Except.mapError] at hresult
      | ok there => simpa [hfault, hat, Except.mapError] using hresult
  · rintro ⟨hfault, hat, rfl⟩
    rw [hfault, hat]
    rfl

theorem stat_eq_ok {e : Entry} :
    (stat p).run.run fs = (.ok e, fs') ↔ pathFault? p = none ∧ fs.stat p = .ok e ∧ fs' = fs := by
  rw [stat, bind_eq_ok, FileSystem.stat_eq_ok]
  simp only [locate_eq_ok]
  constructor
  · rintro ⟨at_, g, ⟨hfault, hat, rfl⟩, h⟩
    rw [run_get_bind] at h
    cases hentry : g.get? at_ with
    | none =>
      rw [hentry] at h
      cases h
    | some d =>
      rw [hentry] at h
      cases h
      exact ⟨hfault, ⟨at_, hat, hentry⟩, rfl⟩
  · rintro ⟨hfault, ⟨at_, hat, hentry⟩, rfl⟩
    refine ⟨at_, fs', ⟨hfault, hat, rfl⟩, ?_⟩
    rw [run_get_bind, hentry]
    rfl

/-- The contents of a file are read without changing anything. -/
theorem readBytes_eq_ok {content : Bytes} :
    (readBytes p).run.run fs = (.ok content, fs') ↔
      pathFault? p = none ∧ (∃ mode, fs.stat p = .ok (.file mode content)) ∧ fs' = fs := by
  rw [readBytes, bind_eq_ok]
  simp only [stat_eq_ok]
  constructor
  · rintro ⟨e, g, ⟨hfault, hstat, rfl⟩, h⟩
    cases e with
    | file mode content' =>
      cases h
      exact ⟨hfault, ⟨mode, hstat⟩, rfl⟩
    | directory => cases h
    | link target => cases h
  · rintro ⟨hfault, ⟨mode, hstat⟩, rfl⟩
    exact ⟨_, fs', ⟨hfault, hstat, rfl⟩, rfl⟩

/-! ## Making directories -/

/-- A directory was made, or it was there. -/
inductive Ensured (fs : FileSystem) (p : Path) : FileSystem → Prop where
  | made {at_ : Location} (hat : fs.locate p false = .ok at_) (hnone : fs.get? at_ = none) :
      Ensured fs p (fs.put at_ .directory)
  | there (hdir : fs.stat p = .ok .directory) : Ensured fs p fs

/-- A directory is made, or the refusal says why not. -/
theorem makeDirectory_cases (fs : FileSystem) (p : Path) :
    (∃ at_, fs.locate p false = .ok at_ ∧ fs.get? at_ = none ∧
      (makeDirectory p).run.run fs = (.ok (), fs.put at_ .directory)) ∨
    ∃ fault, (makeDirectory p).run.run fs = (.error fault, fs) ∧
      (fault = Refusal.notFound.fault p.text → fs.locate p false = .error .notFound) := by
  -- no two refusals have the same number
  have hsystem (r : Refusal) (h : r.fault p.text = Refusal.notFound.fault p.text) :
      r = .notFound := by
    have hnumber : r.number = Refusal.notFound.number := by
      simpa [Refusal.fault] using congrArg Fault.kind h
    cases r <;> first | rfl | cases hnumber
  rw [makeDirectory, run_bind, run_locate]
  cases hfault : pathFault? p with
  | some fault =>
    refine .inr ⟨fault, rfl, fun heq => ?_⟩
    rw [pathFault?] at hfault
    split at hfault
    · cases hfault
      simp [Refusal.fault] at heq
    · split at hfault
      · cases hfault
        simp [Refusal.fault] at heq
      · cases hfault
  | none =>
    cases hat : fs.locate p false with
    | error r => exact .inr ⟨r.fault p.text, rfl, fun heq => by rw [hsystem r heq]⟩
    | ok at_ =>
      cases hget : fs.get? at_ with
      | some e =>
        refine .inr ⟨Refusal.taken.fault p.text, ?_, fun heq => nomatch hsystem .taken heq⟩
        refine (run_get_bind _ fs).trans ?_
        rw [hget]
        rfl
      | none =>
        refine .inl ⟨at_, rfl, hget, ?_⟩
        refine (run_get_bind _ fs).trans ?_
        rw [hget]
        rfl

theorem isDir_eq_true (h : fs.isDir p = .ok true) : fs.stat p = .ok .directory := by
  rw [FileSystem.isDir, FileSystem.leadsTo] at h
  split at h
  · cases h
  · split at h
    · rename_i e hstat
      cases e with
      | directory => exact hstat
      | file mode content => cases h
      | link target => cases h
    · cases h
    · cases h

/-- After a fault, a directory counts as made if it is there. -/
theorem recover_eq_ok {fault : Fault}
    (h : (do unless ← look (·.isDir p) do throw fault : FileM Unit).run.run fs = (.ok (), fs')) :
    fs' = fs ∧ fs.stat p = .ok .directory := by
  rw [run_bind, run_look] at h
  cases hdir : fs.isDir p with
  | error f =>
    rw [hdir] at h
    cases h
  | ok there =>
    rw [hdir] at h
    cases there with
    | false => cases h
    | true =>
      cases h
      exact ⟨rfl, isDir_eq_true hdir⟩

theorem ensureDirectory_eq_ok (h : (ensureDirectory p).run.run fs = (.ok (), fs')) :
    Ensured fs p fs' := by
  rw [ensureDirectory, run_tryCatch] at h
  rcases makeDirectory_cases fs p with ⟨at_, hat, hnone, hrun⟩ | ⟨fault, hrun, -⟩
  · rw [hrun] at h
    cases h
    exact .made hat hnone
  · rw [hrun] at h
    obtain ⟨rfl, hdir⟩ := recover_eq_ok h
    exact .there hdir

/-- A directory was made or was there at once, or those it lies in were made first. -/
theorem makeDirsFrom_eq_ok {anchor : Anchor} {names : List String}
    (h : (makeDirsFrom anchor names).run.run fs = (.ok (), fs')) :
    Ensured fs ⟨anchor, names.reverse⟩ fs' ∨
    ∃ name above g, names = name :: above ∧
      fs.locate ⟨anchor, above.reverse ++ [name]⟩ false = .error .notFound ∧
      (makeDirsFrom anchor above).run.run fs = (.ok (), g) ∧
      Ensured g ⟨anchor, above.reverse ++ [name]⟩ fs' := by
  cases names with
  | nil => exact .inl (ensureDirectory_eq_ok h)
  | cons name above =>
    rw [makeDirsFrom, run_tryCatch] at h
    rw [List.reverse_cons] at h ⊢
    rcases makeDirectory_cases fs ⟨anchor, above.reverse ++ [name]⟩ with
      ⟨at_, hat, hnone, hrun⟩ | ⟨fault, hrun, hmissing⟩
    · rw [hrun] at h
      cases h
      exact .inl (.made hat hnone)
    · rw [hrun] at h
      dsimp only at h
      split at h
      · rename_i heq
        obtain ⟨⟨⟩, g, habove, hensure⟩ := bind_eq_ok.mp h
        exact .inr ⟨name, above, g, rfl, hmissing heq, habove, ensureDirectory_eq_ok hensure⟩
      · obtain ⟨rfl, hdir⟩ := recover_eq_ok h
        exact .inl (.there hdir)

/-- Making a directory that is there changes nothing. -/
theorem eq_of_makeDirs (hdir : fs.stat p = .ok .directory)
    (h : (makeDirs p).run.run fs = (.ok (), fs')) : fs' = fs := by
  obtain ⟨at_, hat, hget⟩ := FileSystem.stat_eq_ok.mp hdir
  obtain ⟨hsize, hleads⟩ := FileSystem.locate_eq_ok.mp hat
  obtain ⟨at', e, hleads', hget'⟩ := hleads.exists_unfollowed hget
  have hat' : fs.locate p false = .ok at' := FileSystem.locate_eq_ok.mpr ⟨hsize, hleads'⟩
  rcases makeDirsFrom_eq_ok h with hensured | ⟨name, above, g, hparts, hmissing, -, -⟩
  · rw [List.reverse_reverse] at hensured
    cases hensured with
    | there => rfl
    | made hat'' hnone =>
      rw [hat'] at hat''
      cases hat''
      rw [hget'] at hnone
      cases hnone
  · rw [← List.reverse_cons, ← hparts, List.reverse_reverse, hat'] at hmissing
    cases hmissing

/-- Making a directory that is absent in one that is there adds nothing else. -/
theorem put_of_makeDirs {anchor : Anchor} {front : List String} {name : String} {e : Entry}
    (hparent : fs.stat ⟨anchor, front⟩ = .ok e)
    (habsent : fs.stat ⟨anchor, front ++ [name]⟩ ≠ .ok .directory)
    (h : (makeDirs ⟨anchor, front ++ [name]⟩).run.run fs = (.ok (), fs')) :
    ∃ at_, fs.locate ⟨anchor, front ++ [name]⟩ false = .ok at_ ∧ fs.get? at_ = none ∧
      fs' = fs.put at_ .directory := by
  rcases makeDirsFrom_eq_ok h with hensured | ⟨last, above, g, hparts, hmissing, -, -⟩
  · rw [List.reverse_reverse] at hensured
    cases hensured with
    | made hat hnone => exact ⟨_, hat, hnone, rfl⟩
    | there hdir => exact absurd hdir habsent
  · rw [← List.reverse_cons, ← hparts, List.reverse_reverse] at hmissing
    exact absurd hmissing (FileSystem.locate_ne_notFound hparent)

/-- A directory was made at a location where nothing was, with those it lies in and nothing else. -/
structure Made (fs : FileSystem) (p : Path) (out : Location) (fs' : FileSystem) : Prop where
  keeps : fs.Keeps none fs'
  locate : fs'.locate p = .ok out
  directory : fs'.get? out = some .directory
  absent : fs.get? out = none
  only : ∀ loc, fs'.get? loc = fs.get? loc ∨ loc <+: out

theorem Made.put {at_ : Location} (hat : fs.locate p false = .ok at_) (hnone : fs.get? at_ = none) :
    Made fs p at_ (fs.put at_ .directory) := by
  have hne := FileSystem.ne_nil_of_get?_eq_none hnone
  have hkeeps : fs.Keeps none (fs.put at_ .directory) := (FileSystem.Keeps.refl none fs).put hnone _
  have hdir : (fs.put at_ .directory).get? at_ = some .directory := by
    rw [FileSystem.get?_put fs hne, if_pos rfl]
  have hplain (target : String) : (fs.put at_ .directory).get? at_ ≠ some (.link target) := by
    rw [hdir]
    simp
  refine ⟨hkeeps, ?_, hdir, hnone, fun loc => ?_⟩
  · obtain ⟨hsize, hleads⟩ := FileSystem.locate_eq_ok.mp (hkeeps.locate hat fun _ => hplain)
    exact FileSystem.locate_eq_ok.mpr ⟨hsize, hleads.follow hplain⟩
  · by_cases hloc : loc = at_
    · exact .inr (hloc ▸ List.prefix_rfl)
    · rw [FileSystem.get?_put fs hne, if_neg hloc]
      exact .inl rfl

/-- Making an absent directory, on a path that goes up only from what is there. -/
theorem exists_made (hwell : fs.WellFormed) (habsent : ∀ e, fs.stat p ≠ .ok e)
    (hup : ∀ front back, p.parts = front ++ ".." :: back → ∃ e, fs.stat ⟨p.anchor, front⟩ = .ok e)
    (h : (makeDirs p).run.run fs = (.ok (), fs')) : ∃ out, Made fs p out fs' := by
  obtain ⟨anchor, parts⟩ := p
  generalize hnames : parts.reverse = names
  obtain rfl : parts = names.reverse := by rw [← hnames, List.reverse_reverse]
  rw [makeDirs, List.reverse_reverse] at h
  induction names generalizing fs' with
  | nil =>
    rcases makeDirsFrom_eq_ok h with hensured | ⟨_, _, _, heq, _⟩
    · cases hensured with
      | made hat hnone => exact ⟨_, Made.put hat hnone⟩
      | there hdir => exact absurd hdir (habsent _)
    · cases heq
  | cons name above ih =>
    rcases makeDirsFrom_eq_ok h with hensured | ⟨_, _, g, heq, hmissing, habove, hensured⟩
    · cases hensured with
      | made hat hnone => exact ⟨_, Made.put hat hnone⟩
      | there hdir => exact absurd hdir (habsent _)
    · cases heq
      rw [List.reverse_cons] at hup habsent ⊢
      -- the directory it lies in is absent too, and is made first
      have hparent (e : Entry) : fs.stat ⟨anchor, above.reverse⟩ ≠ .ok e := fun hstat =>
        FileSystem.locate_ne_notFound hstat hmissing
      have hname : name ≠ ".." := by
        rintro rfl
        obtain ⟨e, he⟩ := hup above.reverse [] rfl
        exact hparent e he
      have hupper (front back : List String) (hparts : above.reverse = front ++ ".." :: back) :
          ∃ e, fs.stat ⟨anchor, front⟩ = .ok e :=
        hup front (back ++ [name]) (by simp [hparts])
      obtain ⟨out, hmade⟩ := ih hparent hupper habove (List.reverse_reverse above)
      have hfree : g.get? (out ++ [name]) = none := by
        rcases hmade.only (out ++ [name]) with hget | hprefix
        · rw [hget]
          exact hwell.get?_append hmade.absent [name]
        · have hlength := hprefix.length_le
          rw [List.length_append, List.length_singleton] at hlength
          omega
      cases hensured with
      | there hdir =>
        obtain ⟨at_, hat, hget⟩ := FileSystem.stat_eq_ok.mp hdir
        obtain ⟨hsize, hleads⟩ := FileSystem.locate_eq_ok.mp hat
        obtain ⟨at', e, hleads', hget'⟩ := hleads.exists_unfollowed hget
        have hat' := FileSystem.locate_eq_ok.mpr ⟨hsize, hleads'⟩
        rw [FileSystem.eq_concat_of_locate hmade.locate hname hat', hfree] at hget'
        cases hget'
      | made hat hnone =>
        obtain rfl := FileSystem.eq_concat_of_locate hmade.locate hname hat
        have hlast := Made.put hat hnone
        refine ⟨_, hmade.keeps.trans hlast.keeps, hlast.locate, hlast.directory,
          hwell.get?_append hmade.absent [name], fun loc => ?_⟩
        rcases hlast.only loc with hget | hprefix
        · rw [hget]
          exact (hmade.only loc).imp_right fun hp => hp.trans (List.prefix_append _ _)
        · exact .inr hprefix

end FileM

/-! ## Writing files -/

open FileSystem (pathFault?)

variable {fs fs' : FileSystem} {destination : Path}

/-- What is made of an operation that is reported depends on what the operation yields. -/
theorem run_lift_bind {α β : Type} (m : FileM α) (next : Except Fault α → AccessM β) (fs : FileSystem) :
    ((liftM (m.run : StateM FileSystem _) : AccessM _) >>= next).run.run fs =
      (next (m.run.run fs).1).run.run (m.run.run fs).2 := rfl

theorem reporting_eq_ok {α : Type} {m : FileM α} {report : Fault → Failure} {a : α} :
    (AccessM.reporting m report).run.run fs = (.ok a, fs') ↔ m.run.run fs = (.ok a, fs') := by
  rw [AccessM.reporting, run_lift_bind]
  rcases m.run.run fs with ⟨fault | b, g⟩
  · constructor
    · intro h
      dsimp only at h
      split at h <;> cases h
    · intro h
      cases h
  · constructor
    · intro h
      cases h
      rfl
    · intro h
      cases h
      rfl

/-- A temporary file is made where its path leads, if nothing is there. -/
theorem run_makeTemporary (fs : FileSystem) (destination : Path) :
    (makeTemporary destination).run.run fs =
      match pathFault? destination with
      | some fault => (.error fault, fs)
      | none =>
        let p := temporaryPath fs destination (freeNumber fs destination)
        match fs.locate p false with
        | .error r => (.error (r.fault p.text), fs)
        | .ok at_ =>
          if (fs.get? at_).isSome then (.error (Refusal.taken.fault p.text), fs)
          else (.ok at_, fs.put at_ (.file temporaryMode [])) := by
  rw [makeTemporary]
  cases pathFault? destination with
  | some fault => rfl
  | none =>
    refine (run_get_bind _ fs).trans ?_
    dsimp only
    generalize temporaryPath fs destination (freeNumber fs destination) = p
    cases fs.locate p false with
    | error r => rfl
    | ok at_ =>
      dsimp only
      cases (fs.get? at_).isSome <;> rfl

theorem makeTemporary_eq_ok {at_ : Location}
    (h : (makeTemporary destination).run.run fs = (.ok at_, fs')) :
    pathFault? destination = none ∧
      (∃ n, fs.locate (temporaryPath fs destination n) false = .ok at_) ∧ fs.get? at_ = none ∧
      fs' = fs.put at_ (.file temporaryMode []) := by
  rw [run_makeTemporary] at h
  split at h
  · cases h
  · rename_i hfault
    dsimp only at h
    split at h
    · cases h
    · rename_i hlocate
      split at h
      · cases h
      · rename_i hfree
        cases h
        exact ⟨hfault, ⟨_, hlocate⟩, by simpa using hfree, rfl⟩

/-- The temporary file takes the place of what the destination leads to. -/
theorem takePlace_eq_ok {temporary : Location} {mode : Nat} {content : Bytes}
    (h : (takePlace temporary mode content destination).run.run fs = (.ok (), fs')) :
    destination.parts ≠ [] ∧ destination.name ≠ ".." ∧ pathFault? destination = none ∧
      ∃ at_, fs.locate destination false = .ok at_ ∧ fs.get? at_ ≠ some .directory ∧
        fs' = (fs.remove temporary).put at_ (.file mode content) := by
  rw [takePlace] at h
  split at h
  · cases h
  · rename_i hplace
    rw [Bool.or_eq_true, not_or] at hplace
    refine ⟨by simpa using hplace.1, by simpa using hplace.2, ?_⟩
    obtain ⟨at_, g, hlocate, hput⟩ := bind_eq_ok.mp h
    obtain ⟨hfault, hat, rfl⟩ := FileM.locate_eq_ok.mp hlocate
    refine ⟨hfault, at_, hat, ?_⟩
    rw [run_get_bind] at hput
    split at hput
    · cases hput
    · rename_i hentry
      cases hput
      exact ⟨hentry, rfl⟩

/-- A file system in which a temporary file was made and filled. -/
def filled (fs : FileSystem) (temporary : Location) (content : Bytes) : FileSystem :=
  (fs.put temporary (.file temporaryMode [])).put temporary (.file temporaryMode content)

/-- A file was written: its directory was made, a temporary file was filled where nothing stood, and
it took the place of what the destination led to. -/
structure Replaced (fs : FileSystem) (destination : Path) (modeFrom : Option Path)
    (made : FileSystem) (temporary at_ : Location) (mode : Nat) (content : Bytes) : Prop where
  dirs : (FileM.makeDirs destination.parent).run.run fs = (.ok (), made)
  beside : ∃ n, made.locate (temporaryPath made destination n) false = .ok temporary
  free : made.get? temporary = none
  mode_eq : ∀ p, modeFrom = some p → ∃ e, (filled made temporary content).stat p = .ok e ∧ e.mode = mode
  parts_ne : destination.parts ≠ []
  name_ne : destination.name ≠ ".."
  taken : pathFault? destination = none
  locate : (filled made temporary content).locate destination false = .ok at_
  entry : (filled made temporary content).get? at_ ≠ some .directory

theorem replaceAtomically_eq_ok {fill : FileM Bytes} {modeFrom : Option Path} {message : String}
    (hfill : ∀ g a g', fill.run.run g = (.ok a, g') → g' = g)
    (h : (replaceAtomically destination fill modeFrom message).run.run fs = (.ok (), fs')) :
    ∃ made temporary at_ mode content,
      Replaced fs destination modeFrom made temporary at_ mode content ∧
      (fill.run.run (made.put temporary (.file temporaryMode []))).1 = .ok content ∧
      fs' = ((filled made temporary content).remove temporary).put at_ (.file mode content) := by
  rw [replaceAtomically] at h
  obtain ⟨⟨⟩, made, hdirs, h⟩ := bind_eq_ok.mp h
  obtain ⟨temporary, g, htemporary, h⟩ := bind_eq_ok.mp h
  obtain ⟨-, hbeside, hfree, rfl⟩ := makeTemporary_eq_ok (reporting_eq_ok.mp htemporary)
  have hcleaned := reporting_eq_ok.mp h
  rw [run_tryCatch] at hcleaned
  split at hcleaned
  · rename_i u g hfinish
    cases hcleaned
    obtain ⟨content, g, hcontent, hfinish⟩ := bind_eq_ok.mp hfinish
    obtain rfl := hfill _ _ _ hcontent
    obtain ⟨⟨⟩, g, hput, hfinish⟩ := bind_eq_ok.mp hfinish
    cases hput
    have hlook : ∃ mode,
        (∀ p, modeFrom = some p →
          ∃ e, (filled made temporary content).stat p = .ok e ∧ e.mode = mode) ∧
        (takePlace temporary mode content destination).run.run (filled made temporary content) =
          (.ok (), fs') := by
      cases modeFrom with
      | none => exact ⟨defaultMode, fun p hp => (nomatch hp), hfinish⟩
      | some p =>
        obtain ⟨e, g, hstat, hplace⟩ := bind_eq_ok.mp hfinish
        obtain ⟨-, hentry, rfl⟩ := FileM.stat_eq_ok.mp hstat
        refine ⟨e.mode, fun q hq => ?_, hplace⟩
        cases hq
        exact ⟨e, hentry, rfl⟩
    obtain ⟨mode, hmode, hplace⟩ := hlook
    obtain ⟨hparts, hname, htaken, at_, hlocate, hentry, rfl⟩ := takePlace_eq_ok hplace
    exact ⟨made, temporary, at_, mode, content,
      ⟨reporting_eq_ok.mp hdirs, hbeside, hfree, hmode, hparts, hname, htaken, hlocate, hentry⟩,
      by rw [hcontent], rfl⟩
  · -- whatever is cleaned up, the fault is thrown again
    dsimp only at hcleaned
    split at hcleaned <;> cases hcleaned

namespace Replaced

variable {modeFrom : Option Path} {made : FileSystem} {temporary at_ : Location}
  {mode : Nat} {content : Bytes}

theorem temporary_ne (h : Replaced fs destination modeFrom made temporary at_ mode content) :
    temporary ≠ [] :=
  FileSystem.ne_nil_of_get?_eq_none h.free

/-- The temporary file stands where nothing stood. -/
theorem ne_temporary (h : Replaced fs destination modeFrom made temporary at_ mode content)
    {loc : Location} (hloc : made.get? loc ≠ none) : loc ≠ temporary := by
  rintro rfl
  exact hloc h.free

theorem at_ne (h : Replaced fs destination modeFrom made temporary at_ mode content) :
    at_ ≠ [] := by
  rintro rfl
  exact h.entry rfl

theorem get?_filled (h : Replaced fs destination modeFrom made temporary at_ mode content)
    (loc : Location) :
    (filled made temporary content).get? loc =
      if loc = temporary then some (.file temporaryMode content) else made.get? loc := by
  rw [filled, FileSystem.get?_put _ h.temporary_ne, FileSystem.get?_put _ h.temporary_ne]
  split <;> rfl

/-- Only the file that was written is new. -/
theorem get?_final (h : Replaced fs destination modeFrom made temporary at_ mode content)
    (loc : Location) :
    (((filled made temporary content).remove temporary).put at_ (.file mode content)).get? loc =
      if loc = at_ then some (.file mode content) else made.get? loc := by
  rw [FileSystem.get?_put _ h.at_ne, FileSystem.get?_remove _ h.temporary_ne, h.get?_filled]
  by_cases hloc : loc = temporary
  · rw [if_pos hloc, hloc, h.free]
  · rw [if_neg hloc, if_neg hloc]

/-- The temporary file does not stand in the way of the destination. -/
theorem locate_made (h : Replaced fs destination modeFrom made temporary at_ mode content) :
    made.locate destination false = .ok at_ := by
  obtain ⟨hsize, hleads⟩ := FileSystem.locate_eq_ok.mp h.locate
  refine FileSystem.locate_eq_ok.mpr ⟨hsize, hleads.congr (fun loc hdir => ?_) fun loc target => ?_⟩
  · rw [h.get?_filled] at hdir
    split at hdir
    · cases hdir
    · exact hdir
  · rw [h.get?_filled]
    split
    · rename_i heq
      rw [heq, h.free]
      simp
    · rfl

theorem landing (h : Replaced fs destination modeFrom made temporary at_ mode content) :
    landing? fs destination = some at_ := by
  rw [landing?, h.dirs, h.locate_made]
  rfl

end Replaced

/-- A text that was written is what the file holds. -/
theorem writeFile_eq_ok {data : String} {modeFrom : Option Path}
    (h : (writeFile destination data modeFrom).run.run fs = (.ok (), fs')) :
    ∃ made temporary at_ mode,
      Replaced fs destination modeFrom made temporary at_ mode (Bytes.ofText data) ∧
      fs' = ((filled made temporary (Bytes.ofText data)).remove temporary).put at_
        (.file mode (Bytes.ofText data)) := by
  rw [writeFile, run_get_bind] at h
  split at h
  · cases h
  · cases h
  · rw [Bytes.ofText?] at h
    cases herror : Text.encodingError? data with
    | some e =>
      rw [herror] at h
      obtain ⟨_, _, _, _, _, -, hcontent, -⟩ :=
        replaceAtomically_eq_ok (fun g a g' hrun => by cases hrun) h
      cases hcontent
    | none =>
      rw [herror] at h
      obtain ⟨made, temporary, at_, mode, content, hreplaced, hcontent, rfl⟩ :=
        replaceAtomically_eq_ok (fun g a g' hrun => by cases hrun; rfl) h
      cases hcontent
      exact ⟨made, temporary, at_, mode, hreplaced, rfl⟩

/-- A file that was copied is what the source led to. -/
theorem copyFile_eq_ok {source : Path}
    (h : (copyFile source destination).run.run fs = (.ok (), fs')) :
    ∃ made temporary at_ mode content,
      Replaced fs destination (some source) made temporary at_ mode content ∧
      (∃ m, (made.put temporary (.file temporaryMode [])).stat source = .ok (.file m content)) ∧
      fs' = ((filled made temporary content).remove temporary).put at_ (.file mode content) := by
  obtain ⟨made, temporary, at_, mode, content, hreplaced, hcontent, rfl⟩ :=
    replaceAtomically_eq_ok (fun g a g' hrun => (FileM.readBytes_eq_ok.mp hrun).2.2) h
  have hread : (FileM.readBytes source).run.run (made.put temporary (.file temporaryMode [])) =
      (.ok content, ((FileM.readBytes source).run.run (made.put temporary (.file temporaryMode []))).2) :=
    Prod.ext hcontent rfl
  exact ⟨made, temporary, at_, mode, content, hreplaced, (FileM.readBytes_eq_ok.mp hread).2.1, rfl⟩

/-! ## Reading what was written -/

/-- Where the destination of a text that was written leads to anything, it leads to the text. -/
theorem stat_of_writeFile {data : String} {modeFrom : Option Path} {e : Entry}
    (h : (writeFile destination data modeFrom).run.run fs = (.ok (), fs')) (hstat : fs'.stat destination = .ok e) :
    pathFault? destination = none ∧ ∃ mode, e = .file mode (Bytes.ofText data) := by
  obtain ⟨made, temporary, at_, mode, hreplaced, rfl⟩ := writeFile_eq_ok h
  obtain ⟨there, hthere, hget⟩ := FileSystem.stat_eq_ok.mp hstat
  have hfinal := hreplaced.get?_final
  have heq : there = at_ :=
    (FileSystem.locate_eq_ok.mp hreplaced.locate_made).2.eq_of_replaced ((hfinal at_).trans (if_pos rfl))
      (fun loc hloc => (hfinal loc).trans (if_neg hloc)) (FileSystem.locate_eq_ok.mp hthere).2
  rw [heq, hfinal, if_pos rfl] at hget
  exact ⟨hreplaced.taken, mode, (Option.some.inj hget).symm⟩

end JsxTagger.Files
