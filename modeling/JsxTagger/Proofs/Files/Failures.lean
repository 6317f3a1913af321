import JsxTagger.Proofs.Files.Refusals

/-!
# Files that could not be written

A file that could not be written or copied leaves everything that was there as it was, and nothing is new
but directories on the way to it, as long as the system takes the path of the file that the permission bits
or the contents are taken from and the text has a byte form. The faults of what is left, a path that no
operation takes and a text that cannot be encoded, are not cleaned up after: the temporary file beside the
destination stays (`failed_write_spares_files`).
-/

namespace JsxTagger.Files

open FileSystem (pathFault? OnlyDirectories)

variable {fs fs' : FileSystem} {destination p : Path} {fault : Fault}

/-! ## Faults that are no refusals -/

/-- What goes wrong with one operation after another goes wrong with the first or with the second. -/
theorem bind_eq_error {ε σ α β : Type} {m : ExceptT ε (StateM σ) α} {f : α → ExceptT ε (StateM σ) β}
    {s : σ} {e : ε} (h : ((m >>= f).run.run s).1 = .error e) :
    (m.run.run s).1 = .error e ∨ ∃ a s', ((f a).run.run s').1 = .error e := by
  rw [run_bind] at h
  rcases hrun : m.run.run s with ⟨e' | a, s'⟩
  · rw [hrun] at h
    cases h
    exact .inl rfl
  · rw [hrun] at h
    exact .inr ⟨a, s', h⟩

namespace FileM

/-- A path is looked at unless the system refuses it or no operation takes it. -/
theorem stat_eq_error (h : ((stat p).run.run fs).1 = .error fault) :
    IsRefusal fault ∨ pathFault? p = some fault := by
  cases hpath : pathFault? p with
  | none => exact .inl (stat_onlyRefused hpath fs fault h)
  | some fault' =>
    rw [run_stat, hpath] at h
    exact .inr (congrArg some (Except.error.inj h))

theorem readBytes_eq_error (h : ((readBytes p).run.run fs).1 = .error fault) :
    IsRefusal fault ∨ pathFault? p = some fault := by
  cases hpath : pathFault? p with
  | none => exact .inl (readBytes_onlyRefused hpath fs fault h)
  | some fault' =>
    rw [readBytes, run_bind, run_stat, hpath] at h
    exact .inr (congrArg some (Except.error.inj h))

end FileM

/-- A temporary file is filled and takes its place unless its contents cannot be had, the system refuses
something, or no operation takes the path of the file whose permission bits it gets. -/
theorem finish_fault {fill : FileM Bytes} {modeFrom : Option Path} {temporary : Location}
    (hdestination : pathFault? destination = none)
    (h : ((finish destination fill modeFrom temporary).run.run fs).1 = .error fault) :
    (∃ g, (fill.run.run g).1 = .error fault) ∨ IsRefusal fault ∨
      ∃ source, modeFrom = some source ∧ pathFault? source = some fault := by
  have hplace {mode : Nat} {content : Bytes} {g : FileSystem}
      (hfails : ((takePlace temporary mode content destination).run.run g).1 = .error fault) :
      IsRefusal fault :=
    takePlace_onlyRefused hdestination temporary mode content g fault hfails
  rcases bind_eq_error h with hfails | ⟨content, g, hfails⟩
  · exact .inl ⟨fs, hfails⟩
  · right
    cases modeFrom with
    | none => exact .inl (hplace hfails)
    | some source =>
      have hthen : ((FileM.stat source >>= fun e => takePlace temporary e.mode content destination).run.run
          (g.put temporary (.file temporaryMode content))).1 = .error fault := hfails
      rcases bind_eq_error hthen with hstat | ⟨e, k, hfails⟩
      · exact (FileM.stat_eq_error hstat).imp_right fun hpath => ⟨source, rfl, hpath⟩
      · exact .inl (hplace hfails)

/-! ## What is left -/

/-- Whatever was there is still there after a file was not written. -/
theorem Aborted.kept {left : Fault → Prop} {t : Trouble} (h : Aborted fs destination left t fs')
    {loc : Location} {e : Entry} (he : fs.get? loc = some e) : fs'.get? loc = some e := by
  rcases h.grows.entries loc e he with hsame | ⟨hlog, -⟩ | ⟨hfalse, -⟩
  · exact hsame
  · cases hlog
  · exact hfalse.elim

/-- A file that could not be written or copied leaves what was there as it was and makes nothing but
directories on the way to it. Only if the text has no byte form, or if the path of the file that the
permission bits or the contents are taken from is one that no operation takes, a temporary file may stay
beside the destination. The system refuses nothing for want of permission or space, and no device fails. -/
theorem failed_write_spares_files (fs fs' : FileSystem) (destination : Path) (t : Trouble) :
    (∀ (data : String) (modeFrom : Option Path),
      (writeFile destination data modeFrom).run.run fs = (.error t, fs') →
      (∀ loc e, fs.get? loc = some e → fs'.get? loc = some e) ∧
        Aborted fs destination (fun fault => (Text.isPlain data = false ∧ fault.kind = .unencodable) ∨
          ∃ source, modeFrom = some source ∧ pathFault? source = some fault) t fs') ∧
    ∀ source : Path, (copyFile source destination).run.run fs = (.error t, fs') →
      (∀ loc e, fs.get? loc = some e → fs'.get? loc = some e) ∧
        Aborted fs destination (fun fault => pathFault? source = some fault) t fs' := by
  constructor
  · intro data modeFrom h
    suffices haborted : Aborted fs destination _ t fs' from ⟨fun _ _ he => haborted.kept he, haborted⟩
    rw [writeFile, run_get_bind] at h
    split at h
    · cases h
      exact .clean (.refl _ _)
    · cases h
      exact .clean (.refl _ _)
    · refine (replaceAtomically_aborted (fun g => by split <;> rfl) h).mono ?_
      rintro fault ⟨hrefusal, hdestination, temporary, g, hfinish⟩
      rcases finish_fault hdestination hfinish with ⟨k, hfill⟩ | hrefused | hsource
      · left
        split at hfill
        · cases hfill
        · rename_i e hunencodable
          cases hfill
          refine ⟨Bool.eq_false_iff.mpr fun hplain => ?_, rfl⟩
          rw [Bytes.ofText?_eq_ok hplain] at hunencodable
          cases hunencodable
      · exact absurd hrefused hrefusal
      · exact .inr hsource
  · intro source h
    suffices haborted : Aborted fs destination _ t fs' from ⟨fun _ _ he => haborted.kept he, haborted⟩
    refine (replaceAtomically_aborted (FileM.run_readBytes_state source) h).mono ?_
    rintro fault ⟨hrefusal, hdestination, temporary, g, hfinish⟩
    rcases finish_fault hdestination hfinish with ⟨k, hfill⟩ | hrefused | ⟨source', heq, hsource⟩
    · exact (FileM.readBytes_eq_error hfill).resolve_left hrefusal
    · exact absurd hrefused hrefusal
    · cases heq
      exact hsource

/-- A file in the working directory. -/
def plainFile : Path := ⟨.relative, ["a"]⟩

/-- A file in a directory `out`. -/
def nestedFile : Path := ⟨.relative, ["out", "a"]⟩

/-- Where the file for the permission bits is not there, only the directory is made. -/
theorem failed_write_spares_files_unmodelled :
    ∃ t fs', (writeFile nestedFile "x" (some plainFile)).run.run {} = (.error t, fs') ∧
      OnlyDirectories ⟨.relative, ["out"]⟩ {} fs' := by
  have hfails : ((writeFile nestedFile "x" (some plainFile)).run.run {}).1.isOk = false := by decide +kernel
  rcases hrun : (writeFile nestedFile "x" (some plainFile)).run.run {} with ⟨t | u, fs'⟩
  · refine ⟨t, fs', rfl, ?_⟩
    obtain ⟨-, haborted⟩ := (failed_write_spares_files {} fs' nestedFile t).1 "x" (some plainFile) hrun
    cases haborted with
    | clean hdirs => exact hdirs
    | littered hleft =>
      have hplain : Text.isPlain "x" = true := by decide +kernel
      have hsource : pathFault? plainFile = none := by decide +kernel
      rcases hleft with ⟨hhalf, -⟩ | ⟨_, heq, hfault⟩
      · rw [hplain] at hhalf
        cases hhalf
      · cases heq
        rw [hsource] at hfault
        cases hfault
  · rw [hrun] at hfails
    cases hfails

/-- A half of a surrogate pair cannot be written, and the temporary file stays where there was nothing. -/
theorem failed_write_leaves_temporary :
    ∃ (data : String) (t : Trouble) (fs' : FileSystem) (loc : Location) (mode : Nat) (content : Bytes),
      (writeFile plainFile data).run.run {} = (.error t, fs') ∧
        FileSystem.get? {} loc = none ∧ fs'.get? loc = some (.file mode content) := by
  let half := String.ofList [Text.charOfCode 0xD800]
  have hfails : ((writeFile plainFile half).run.run {}).1.isOk = false := by decide +kernel
  have hleft : ((writeFile plainFile half).run.run {}).2.get? [".a.00000000.tmp"] =
      some (.file temporaryMode []) := by decide +kernel
  generalize hrun : (writeFile plainFile half).run.run {} = outcome at hfails hleft
  obtain ⟨t | u, fs'⟩ := outcome
  · exact ⟨half, t, fs', _, _, _, hrun, rfl, hleft⟩
  · cases hfails

end JsxTagger.Files
