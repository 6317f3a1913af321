import JsxTagger.Proofs.Files.Effects
import JsxTagger.Proofs.Text.Boundaries

/-!
# Refusals by the system

An operation on a path that the system takes goes wrong only if the system refuses it. So copying a file
fails with a failure, never with a fault (`copyFile_onlyFails`); writing a text does so as well, provided
that the destination is not too long to be looked at and that the text has a byte form
(`writeFile_onlyFails`).
-/

namespace JsxTagger

namespace Text

/-- What the system does not take in a path: a half that stands for no byte. -/
theorem pathEncodingError?_eq_none {s : String} :
    pathEncodingError? s = none ↔ ∀ c ∈ s.toList, isHalf (code c) = true → isByteHalf (code c) = true := by
  have hfrom (start : Nat) (ns : List Nat) : encodingErrorFrom isByteHalf start ns = none ↔
      ∀ n ∈ ns, isHalf n = true → isByteHalf n = true := by
    induction ns generalizing start with
    | nil => simp [encodingErrorFrom]
    | cons n ns ih =>
      rw [encodingErrorFrom, List.forall_mem_cons]
      cases hhalf : isHalf n <;> cases hbyte : isByteHalf n <;> simp [ih]
  rw [pathEncodingError?, hfrom, codes, List.forall_mem_map]

end Text

namespace Files

/-! ## Paths that are too long -/

namespace FileSystem

variable {fs fs' : FileSystem}

/-- Whether a walk meets a name that is too long depends on the directories and the links only. -/
theorem walk_eq_tooLong
    (hdirs : ∀ loc, fs.get? loc = some .directory → fs'.get? loc = some .directory)
    (hlinks : ∀ loc target, fs'.get? loc = some (.link target) ↔ fs.get? loc = some (.link target))
    {follow : Bool} {links : Nat} {here : Location} {names : List String}
    (h : fs.walk follow links here names = .error .nameTooLong) :
    fs'.walk follow links here names = .error .nameTooLong := by
  -- the walk goes on behind the next name with as many links, or through a link with fewer
  induction links using Nat.strongRecOn generalizing here names with
  | ind links ihlinks =>
    induction names generalizing here with
    | nil =>
      rw [walk_nil] at h
      cases h
    | cons name rest ih =>
      by_cases hdir : fs.get? here = some .directory
      · have hdir' := hdirs here hdir
        by_cases hname : name = ".."
        · subst hname
          rw [walk_up hdir] at h
          rw [walk_up hdir']
          exact ih h
        · by_cases hsize : Text.pathSize name ≤ maxName
          · by_cases hplain : ∀ target, fs.get? (here ++ [name]) ≠ some (.link target)
            · rw [walk_down hdir hname hsize hplain] at h
              rw [walk_down hdir' hname hsize fun target => mt (hlinks _ target).mp (hplain target)]
              exact ih h
            · simp only [ne_eq, not_forall, not_not] at hplain
              obtain ⟨target, hlink⟩ := hplain
              have hlink' := (hlinks _ target).mpr hlink
              cases hend : rest.isEmpty && !follow with
              | true =>
                rw [walk_final hdir hname hsize hlink hend] at h
                cases h
              | false =>
                cases links with
                | zero =>
                  rw [walk_loop hdir hname hsize hlink hend] at h
                  cases h
                | succ links =>
                  rw [walk_through hdir hname hsize hlink hend] at h
                  rw [walk_through hdir' hname hsize hlink' hend]
                  exact ihlinks links (Nat.lt_succ_self _) h
          · exact walk_tooLong hdir' hname (Nat.lt_of_not_le hsize)
      · obtain ⟨r, hr, hfile⟩ := walk_of_not_directory name rest hdir
        rw [hr] at h
        cases h
        cases hget : fs.get? here with
        | none =>
          have hmissing : fs.walk follow links here (name :: rest) = .error .notFound :=
            walk_of_none name rest hget
          rw [hmissing] at hr
          cases hr
        | some e => exact nomatch hfile (by simp [hget])

/-- A path is not too long to be followed. -/
def Fits (fs : FileSystem) (p : Path) : Prop := fs.stat p ≠ .error .nameTooLong

theorem stat_eq_tooLong {p : Path} :
    fs.stat p = .error .nameTooLong ↔ fs.locate p = .error .nameTooLong := by
  rw [stat]
  cases fs.locate p with
  | error r => simp [bind, Except.bind]
  | ok at_ => cases hget : fs.get? at_ <;> simp [bind, Except.bind, hget]

/-- Whether a path is too long depends on the directories and the links only. -/
theorem Fits.congr {p : Path} (h : fs.Fits p) (hworkDir : fs'.workDir = fs.workDir)
    (hdirs : ∀ loc, fs'.get? loc = some .directory → fs.get? loc = some .directory)
    (hlinks : ∀ loc target, fs'.get? loc = some (.link target) ↔ fs.get? loc = some (.link target)) :
    fs'.Fits p := by
  intro hlong
  refine h ?_
  rw [stat_eq_tooLong, locate] at hlong ⊢
  split at hlong
  · rename_i hsize
    rw [if_pos hsize]
  · rename_i hsize
    rw [if_neg hsize, ← hworkDir]
    exact walk_eq_tooLong hdirs (fun loc target => (hlinks loc target).symm) hlong

/-- A path that is not too long can be looked at. -/
theorem Fits.leadsTo {p : Path} (h : fs.Fits p) (test : Entry → Bool) (fault : Fault) :
    fs.leadsTo p test ≠ .error fault := by
  rw [FileSystem.leadsTo]
  split
  · simp
  · split
    · simp
    · rename_i hlong
      exact absurd hlong h
    · simp

end FileSystem

/-- Reading a path that is not too long yields a text or a failure. -/
theorem readText_cases {fs : FileSystem} {p : Path} (h : fs.Fits p) :
    (∃ f, readText fs p = .error (.failure f)) ∨ ∃ text, readText fs p = .ok text := by
  rw [readText]
  split
  · rename_i fault hfile
    exact absurd hfile (h.leadsTo _ fault)
  · exact .inl ⟨_, rfl⟩
  · split
    · rename_i content _
      cases decodeFile p content with
      | error f => exact .inl ⟨f, rfl⟩
      | ok text => exact .inr ⟨text, rfl⟩
    · exact .inl ⟨_, rfl⟩

/-- The text that is read is what the path leads to. -/
theorem readText_eq_ok {fs : FileSystem} {p : Path} {text : String} (h : readText fs p = .ok text) :
    ∃ mode, fs.stat p = .ok (.file mode (Bytes.ofText text)) := by
  rw [readText] at h
  split at h
  · cases h
  · cases h
  · split at h
    · rename_i mode content hstat
      refine ⟨mode, hstat.trans ?_⟩
      rw [decodeFile] at h
      split at h
      · cases h
      · split at h
        · rename_i found hfound
          cases h
          rw [Bytes.text?_eq_some.mp hfound]
        · cases h
    · cases h

/-- A file with a text is read as the text, unless it looks binary. -/
theorem readText_of_stat {p : Path} {data : String} {mode : Nat} (hfault : FileSystem.pathFault? p = none)
    (hstat : fs.stat p = .ok (.file mode (Bytes.ofText data))) (hbinary : looksBinary (Bytes.ofText data) = false) :
    readText fs p = .ok data := by
  rw [readText, FileSystem.isFile, FileSystem.leadsTo, hfault, hstat]
  simp [decodeFile, hbinary, Bytes.text?_ofText, Except.mapError]

/-! ## Paths that the system takes -/

open FileSystem (pathFault?)

/-- The characters of a shorter path are among those of a longer one, a dot apart. -/
theorem Path.mem_text_prefix {anchor : Anchor} {front back : List String} {c : Char}
    (h : c ∈ (Path.text ⟨anchor, front⟩).toList) :
    c = '.' ∨ c ∈ (Path.text ⟨anchor, front ++ back⟩).toList := by
  have hlists : ∀ names : List (List Char), ∀ more, c ∈ ['/'].intercalate names →
      c ∈ ['/'].intercalate (names ++ more) := by
    intro names more hmem
    induction names with
    | nil => cases hmem
    | cons first rest ih =>
      cases rest with
      | nil =>
        have hfirst : c ∈ first := by simpa [List.intercalate] using hmem
        cases more <;> simp [List.intercalate, hfirst]
      | cons second rest =>
        rw [List.intercalate_cons_cons] at hmem
        rw [List.cons_append, List.cons_append, List.intercalate_cons_cons]
        simp only [List.mem_append] at hmem ⊢
        exact hmem.imp_right ih
  rw [Path.text] at h
  split at h
  · exact .inl (by simpa using h)
  · rename_i hdot
    right
    have hlong : ¬ ((decide (anchor = .relative) && (front ++ back).isEmpty) = true) := by
      intro hempty
      rw [Bool.and_eq_true, List.isEmpty_iff, List.append_eq_nil_iff] at hempty
      refine hdot ?_
      rw [Bool.and_eq_true, List.isEmpty_iff]
      exact ⟨hempty.1, hempty.2.1⟩
    rw [Path.text, if_neg hlong, String.toList_append, List.mem_append]
    rw [String.toList_append, List.mem_append] at h
    refine h.imp_right fun hnames => ?_
    rw [String.toList_intercalate] at hnames ⊢
    rw [List.map_append]
    exact hlists _ _ hnames

/-- The system takes the paths that a path goes through. -/
theorem pathFault?_prefix {anchor : Anchor} {front back : List String}
    (h : pathFault? ⟨anchor, front ++ back⟩ = none) : pathFault? ⟨anchor, front⟩ = none := by
  rw [pathFault?] at h
  split at h
  · cases h
  · rename_i hcodes
    rw [Text.pathEncodingError?_eq_none] at hcodes
    have hfront : Text.pathEncodingError? (Path.text ⟨anchor, front⟩) = none := by
      refine Text.pathEncodingError?_eq_none.mpr fun c hc hhalf => ?_
      rcases Path.mem_text_prefix hc with rfl | hmem
      · cases hhalf
      · exact hcodes c hmem hhalf
    have hnull : Path.hasNull ⟨anchor, front⟩ = false := by
      split at h
      · cases h
      · rename_i hlong
        rw [Path.hasNull, List.any_append, Bool.or_eq_true, not_or] at hlong
        exact Bool.eq_false_iff.mpr hlong.1
    rw [pathFault?, hfront]
    dsimp only
    rw [hnull]
    rfl

theorem pathFault?_parent {p : Path} (h : pathFault? p = none) : pathFault? p.parent = none := by
  have hparts : p.parts.dropLast ++ p.parts.drop (p.parts.length - 1) = p.parts := by
    rw [List.dropLast_eq_take, List.take_append_drop]
  have hwhole : pathFault? ⟨p.anchor, p.parts.dropLast ++ p.parts.drop (p.parts.length - 1)⟩ = none := by
    rwa [hparts]
  exact pathFault?_prefix hwhole

/-! ## Operations that only the system refuses -/

namespace FileM

variable {α β : Type} {p : Path}

/-- Whatever goes wrong with an operation, it is a refusal by the system. -/
def OnlyRefused (m : FileM α) : Prop :=
  ∀ (fs : FileSystem) (fault : Fault), (m.run.run fs).1 = .error fault →
    ∃ number, fault.kind = .system number

theorem onlyRefused_throw {fault : Fault} {number : Option Int} (h : fault.kind = .system number) :
    OnlyRefused (throw fault : FileM α) := by
  intro fs fault' hthrow
  cases hthrow
  exact ⟨number, h⟩

theorem onlyRefused_pure (a : α) : OnlyRefused (pure a : FileM α) := nofun

theorem OnlyRefused.bind {m : FileM α} {f : α → FileM β} (hm : OnlyRefused m)
    (hf : ∀ a, OnlyRefused (f a)) : OnlyRefused (m >>= f) := by
  intro fs fault h
  rw [run_bind] at h
  rcases hrun : m.run.run fs with ⟨fault' | a, fs'⟩
  · rw [hrun] at h
    cases h
    exact hm fs fault (by rw [hrun])
  · rw [hrun] at h
    exact hf a fs' fault h

theorem OnlyRefused.tryCatch {m : FileM α} {f : Fault → FileM α} (hm : OnlyRefused m)
    (hf : ∀ fault number, fault.kind = .system number → OnlyRefused (f fault)) :
    OnlyRefused (tryCatch m f) := by
  intro fs fault h
  rw [run_tryCatch] at h
  rcases hrun : m.run.run fs with ⟨fault' | a, fs'⟩
  · rw [hrun] at h
    obtain ⟨number, hnumber⟩ := hm fs fault' (by rw [hrun])
    exact hf fault' number hnumber fs' fault h
  · rw [hrun] at h
    cases h

theorem onlyRefused_get_bind {f : FileSystem → FileM β} (hf : ∀ fs, OnlyRefused (f fs)) :
    OnlyRefused (get >>= f) :=
  OnlyRefused.bind nofun hf

theorem locate_onlyRefused (h : pathFault? p = none) (follow : Bool) :
    OnlyRefused (locate p follow) := by
  intro fs fault hlocate
  rw [run_locate, h] at hlocate
  cases hwalk : fs.locate p follow with
  | ok at_ =>
    rw [hwalk] at hlocate
    cases hlocate
  | error r =>
    rw [hwalk] at hlocate
    cases hlocate
    exact ⟨_, rfl⟩

theorem stat_onlyRefused (h : pathFault? p = none) : OnlyRefused (stat p) := by
  refine (locate_onlyRefused h true).bind fun at_ => onlyRefused_get_bind fun fs => ?_
  split
  · exact onlyRefused_pure _
  · exact onlyRefused_throw rfl

theorem readBytes_onlyRefused (h : pathFault? p = none) : OnlyRefused (readBytes p) := by
  refine (stat_onlyRefused h).bind fun e => ?_
  split
  · exact onlyRefused_pure _
  · exact onlyRefused_throw rfl

theorem makeDirectory_onlyRefused (h : pathFault? p = none) : OnlyRefused (makeDirectory p) := by
  refine (locate_onlyRefused h false).bind fun at_ => onlyRefused_get_bind fun fs => ?_
  split
  · exact onlyRefused_throw rfl
  · exact nofun

theorem isDir_onlyRefused (p : Path) : OnlyRefused (look (·.isDir p)) := by
  intro fs fault hlook
  rw [run_look] at hlook
  change fs.isDir p = .error fault at hlook
  rw [FileSystem.isDir, FileSystem.leadsTo] at hlook
  split at hlook
  · cases hlook
  · split at hlook
    · cases hlook
    · cases hlook
      exact ⟨_, rfl⟩
    · cases hlook

theorem recover_onlyRefused {fault : Fault} {number : Option Int} (p : Path)
    (h : fault.kind = .system number) :
    OnlyRefused (do unless ← look (·.isDir p) do throw fault) := by
  refine (isDir_onlyRefused p).bind fun there => ?_
  cases there with
  | false => exact onlyRefused_throw h
  | true => exact onlyRefused_pure _

theorem ensureDirectory_onlyRefused (h : pathFault? p = none) : OnlyRefused (ensureDirectory p) :=
  (makeDirectory_onlyRefused h).tryCatch fun _ _ hsystem => recover_onlyRefused p hsystem

theorem makeDirsFrom_onlyRefused {anchor : Anchor} {names : List String}
    (h : pathFault? ⟨anchor, names.reverse⟩ = none) : OnlyRefused (makeDirsFrom anchor names) := by
  induction names with
  | nil => exact ensureDirectory_onlyRefused h
  | cons name above ih =>
    refine (makeDirectory_onlyRefused h).tryCatch fun fault number hsystem => ?_
    split
    · refine (ih ?_).bind fun _ => ensureDirectory_onlyRefused h
      rw [List.reverse_cons] at h
      exact pathFault?_prefix h
    · exact recover_onlyRefused _ hsystem

theorem makeDirs_onlyRefused (h : pathFault? p = none) : OnlyRefused (makeDirs p) := by
  refine makeDirsFrom_onlyRefused ?_
  rw [List.reverse_reverse]
  exact h

end FileM

open FileM (OnlyRefused)

/-! ## Writing files -/

variable {destination : Path}

theorem makeTemporary_onlyRefused (h : pathFault? destination = none) :
    OnlyRefused (makeTemporary destination) := by
  intro fs fault hfails
  rw [run_makeTemporary, h] at hfails
  dsimp only at hfails
  split at hfails
  · cases hfails
    exact ⟨_, rfl⟩
  · split at hfails
    · cases hfails
      exact ⟨_, rfl⟩
    · cases hfails

theorem takePlace_onlyRefused (h : pathFault? destination = none) (temporary : Location) (mode : Nat)
    (content : Bytes) : OnlyRefused (takePlace temporary mode content destination) := by
  rw [takePlace]
  split
  · exact FileM.onlyRefused_throw rfl
  · refine (FileM.locate_onlyRefused h false).bind fun at_ => FileM.onlyRefused_get_bind fun fs => ?_
    split
    · exact FileM.onlyRefused_throw rfl
    · intro fs' fault hfails
      cases hfails

theorem finish_onlyRefused (h : pathFault? destination = none) {fill : FileM Bytes}
    (hfill : OnlyRefused fill) {source : Path} (hsource : pathFault? source = none)
    (temporary : Location) : OnlyRefused (finish destination fill (some source) temporary) := by
  refine hfill.bind fun content => OnlyRefused.bind nofun fun _ => ?_
  exact (FileM.stat_onlyRefused hsource).bind fun e => takePlace_onlyRefused h _ e.mode _

/-- An operation does not end with a fault. -/
def OnlyFails {α : Type} (m : AccessM α) : Prop :=
  ∀ (fs : FileSystem) (t : Trouble), (m.run.run fs).1 = .error t → ∃ f, t = .failure f

theorem OnlyRefused.reporting {α : Type} {m : FileM α} (h : OnlyRefused m)
    (report : Fault → Failure) : OnlyFails (AccessM.reporting m report) := by
  intro fs t hrun
  rw [run_reporting] at hrun
  rcases hm : (m.run.run fs).1 with fault | a
  · rw [hm] at hrun
    obtain ⟨number, hnumber⟩ := h fs fault hm
    cases hrun
    exact ⟨report fault, by rw [reported, hnumber]⟩
  · rw [hm] at hrun
    cases hrun

theorem replaceAtomically_onlyFails (h : pathFault? destination = none) {fill : FileM Bytes}
    (hfill : OnlyRefused fill) {source : Path} (hsource : pathFault? source = none)
    (message : String) : OnlyFails (replaceAtomically destination fill (some source) message) := by
  intro fs t hrun
  have hreport (fault : Fault) (number : Option Int) (hnumber : fault.kind = .system number) :
      reported (writeFailure destination message) fault =
        .failure (writeFailure destination message fault) := by
    rw [reported, hnumber]
  rw [run_replaceAtomically] at hrun
  split at hrun
  · rename_i t' made hmake
    cases hrun
    exact OnlyRefused.reporting (FileM.makeDirs_onlyRefused (pathFault?_parent h)) _ fs t
      (congrArg Prod.fst hmake)
  · rename_i made _
    split at hrun
    · rename_i fault g htemporary
      obtain ⟨number, hnumber⟩ := makeTemporary_onlyRefused h made fault (by rw [htemporary])
      cases hrun
      exact ⟨_, hreport fault number hnumber⟩
    · rename_i temporary g _
      split at hrun
      · cases hrun
      · rename_i fault g' hfinish
        obtain ⟨number, hnumber⟩ := finish_onlyRefused h hfill hsource temporary g fault
          (by rw [hfinish])
        cases hrun
        exact ⟨_, hreport fault number hnumber⟩

/-- Copying a file goes wrong only with a failure. -/
theorem copyFile_onlyFails {source : Path} (hsource : pathFault? source = none)
    (h : pathFault? destination = none) : OnlyFails (copyFile source destination) :=
  replaceAtomically_onlyFails h (FileM.readBytes_onlyRefused hsource) hsource _

/-- Writing a text that has a byte form goes wrong only with a failure, unless the destination is too long
to be looked at. -/
theorem writeFile_onlyFails {source : Path} {data : String} {fs : FileSystem} {t : Trouble}
    (hsource : pathFault? source = none) (h : pathFault? destination = none)
    (hlook : ∀ fault, fs.isDir destination ≠ .error fault) (hplain : Text.isPlain data = true)
    (hrun : ((writeFile destination data (some source)).run.run fs).1 = .error t) :
    ∃ f, t = .failure f := by
  rw [writeFile, run_get_bind] at hrun
  split at hrun
  · rename_i fault hdir
    exact absurd hdir (hlook fault)
  · cases hrun
    exact ⟨_, rfl⟩
  · refine replaceAtomically_onlyFails h ?_ hsource _ fs t hrun
    rw [Bytes.ofText?_eq_ok hplain]
    exact FileM.onlyRefused_pure _

end Files

end JsxTagger
