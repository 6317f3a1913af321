import JsxTagger.Proofs.Files.Agreement
import JsxTagger.Run.State

/-!
# What a run does to files

Most steps of a run touch no file but the log file (`OnlyLogs`). What was there when the run started is
therefore still there (`OnlyLogs.keeps`), as long as the log file is not in the place of something else
(`LogsTo`).
-/

namespace JsxTagger

open Files

/-! ## The log file -/

namespace Log

theorem append_get?_of_ne (fs : FileSystem) {place loc : Location} (h : loc ≠ place) (bytes : Bytes) :
    (append fs place bytes).get? loc = fs.get? loc := by
  rw [append]
  split
  · exact fs.get?_put_of_ne h _
  · exact fs.get?_put_of_ne h _

theorem append_get?_self {fs : FileSystem} {place : Location} {mode : Nat} {old : Bytes}
    (h : fs.get? place = some (.file mode old)) (bytes : Bytes) :
    (append fs place bytes).get? place = some (.file mode (old ++ bytes)) := by
  have hne : place ≠ [] := by
    rintro rfl
    cases h
  rw [append, h]
  exact (fs.get?_put hne _ _).trans (if_pos rfl)

theorem workDir_append (fs : FileSystem) (place : Location) (bytes : Bytes) :
    (append fs place bytes).workDir = fs.workDir := by
  rw [append]
  split <;> rfl

/-- A record changes nothing, or it is appended to the log file. -/
theorem Logging.write_cases (l : Logging) (stamp : String) (r : Record) (fs : FileSystem) :
    l.write stamp r fs = fs ∨
      ∃ f bytes, l.file = some f ∧ l.write stamp r fs = append fs f.place bytes := by
  rw [Logging.write]
  split
  · rename_i f line hfile _
    split
    · exact .inr ⟨f, line, hfile, rfl⟩
    · exact .inl rfl
  · exact .inl rfl

/-- A file that is put somewhere cuts off the log, or changes nothing about it. -/
theorem Logging.withoutFileAt_cases (l : Logging) (place : Option Location) :
    (l.withoutFileAt place).file = none ∨ l.withoutFileAt place = l := by
  rw [Logging.withoutFileAt]
  split
  · exact .inl rfl
  · exact .inr rfl

end Log

namespace RunState

/-- Where the log file of a run is. -/
def logPlace (s : RunState) : Option Location := s.logging.file.map (·.place)

/-- A run leaves all files alone except for the log file. -/
structure OnlyLogs (s s' : RunState) : Prop where
  logging : s'.logging = s.logging
  sink : s'.sink = s.sink
  workDir : s'.files.workDir = s.files.workDir
  elsewhere : ∀ loc, s.logPlace ≠ some loc → s'.files.get? loc = s.files.get? loc
  appended : ∀ loc mode old, s.files.get? loc = some (.file mode old) →
    ∃ added, s'.files.get? loc = some (.file mode (old ++ added))

namespace OnlyLogs

variable {s s' s'' : RunState}

theorem of_files_eq (hlogging : s'.logging = s.logging) (hsink : s'.sink = s.sink)
    (hfiles : s'.files = s.files) : OnlyLogs s s' :=
  ⟨hlogging, hsink, by rw [hfiles], fun _ _ => by rw [hfiles],
    fun _ _ old h => ⟨[], by rw [hfiles, h, List.append_nil]⟩⟩

theorem refl (s : RunState) : OnlyLogs s s := of_files_eq rfl rfl rfl

theorem trans (h : OnlyLogs s s') (h' : OnlyLogs s' s'') : OnlyLogs s s'' := by
  have hplace : s'.logPlace = s.logPlace := by rw [logPlace, h.logging, logPlace]
  refine ⟨h'.logging.trans h.logging, h'.sink.trans h.sink, h'.workDir.trans h.workDir,
    fun loc hloc => ?_, fun loc mode old hold => ?_⟩
  · rw [h'.elsewhere loc (by rwa [hplace]), h.elsewhere loc hloc]
  · obtain ⟨added, hmid⟩ := h.appended loc mode old hold
    obtain ⟨added', hnew⟩ := h'.appended loc mode _ hmid
    exact ⟨added ++ added', by rw [hnew, List.append_assoc]⟩

theorem note (s : RunState) (env : Environment) (r : Log.Record) : OnlyLogs s (s.note env r) := by
  have hfiles : (s.note env r).files = s.logging.write env.stamp r s.files := rfl
  rcases s.logging.write_cases env.stamp r s.files with hsame | ⟨f, bytes, hfile, happend⟩
  · exact of_files_eq rfl rfl (hfiles.trans hsame)
  · rw [happend] at hfiles
    refine ⟨rfl, rfl, ?_, fun loc hloc => ?_, fun loc mode old hold => ?_⟩
    · rw [hfiles, Log.workDir_append]
    · have hne : loc ≠ f.place := by
        rintro rfl
        exact hloc (by rw [logPlace, hfile, Option.map_some])
      rw [hfiles, Log.append_get?_of_ne _ hne]
    · rw [hfiles]
      by_cases hloc : loc = f.place
      · rw [hloc] at hold ⊢
        exact ⟨bytes, Log.append_get?_self hold bytes⟩
      · exact ⟨[], by rw [Log.append_get?_of_ne _ hloc, hold, List.append_nil]⟩

theorem noteAll (s : RunState) (env : Environment) (rs : List Log.Record) :
    OnlyLogs s (s.noteAll env rs) := by
  induction rs generalizing s with
  | nil => exact refl s
  | cons r rs ih => exact (note s env r).trans (ih _)

theorem report (s : RunState) (e : Progress.Event) : OnlyLogs s (s.report e) :=
  of_files_eq rfl rfl rfl

theorem inContext (s : RunState) (f : RunContext → RunContext) : OnlyLogs s (s.inContext f) :=
  of_files_eq rfl rfl rfl

end OnlyLogs

/-- The log file of a run, if there is one, was a file among others before. -/
def LogsTo (s : RunState) (base : FileSystem) : Prop :=
  ∀ place, s.logPlace = some place → ∃ mode old, base.get? place = some (.file mode old)

theorem OnlyLogs.logPlace_eq {s s' : RunState} (h : OnlyLogs s s') : s'.logPlace = s.logPlace := by
  rw [logPlace, h.logging, logPlace]

/-- What was there before is still there. -/
theorem OnlyLogs.keeps {base : FileSystem} {s s' : RunState} (h : OnlyLogs s s')
    (hlog : s.LogsTo base) (hkeeps : base.Keeps s.logPlace s.files) :
    base.Keeps s.logPlace s'.files := by
  refine ⟨h.workDir.trans hkeeps.workDir, fun loc e he => ?_⟩
  by_cases hloc : s.logPlace = some loc
  · obtain ⟨mode, old, hold⟩ := hlog loc hloc
    rw [hold] at he
    cases he
    obtain ⟨added, hnow⟩ : ∃ added, s.files.get? loc = some (.file mode (old ++ added)) := by
      rcases hkeeps.entries loc _ hold with hsame | ⟨-, _, _, added, heq, hnow⟩
      · exact ⟨[], by rw [hsame, List.append_nil]⟩
      · cases heq
        exact ⟨added, hnow⟩
    obtain ⟨added', hnew⟩ := h.appended loc mode _ hnow
    exact .inr ⟨hloc, mode, old, added ++ added', rfl, by rw [hnew, List.append_assoc]⟩
  · rw [h.elsewhere loc hloc]
    exact hkeeps.entries loc e he

/-- What stands somewhere is what stood there, or it is the log file. -/
theorem OnlyLogs.get?_cases {s s' : RunState} (h : OnlyLogs s s') (hlog : s.LogsTo s.files)
    (loc : Location) :
    s'.files.get? loc = s.files.get? loc ∨
      ∃ mode old new, s.files.get? loc = some (.file mode old) ∧
        s'.files.get? loc = some (.file mode new) := by
  by_cases hloc : s.logPlace = some loc
  · obtain ⟨mode, old, hold⟩ := hlog loc hloc
    obtain ⟨added, hnew⟩ := h.appended loc mode old hold
    exact .inr ⟨mode, old, old ++ added, hold, hnew⟩
  · exact .inl (h.elsewhere loc hloc)

/-- Only the log file can differ. -/
theorem OnlyLogs.agree {s s' : RunState} (h : OnlyLogs s s') (hlog : s.LogsTo s.files) :
    FileSystem.Agree (fun loc => s.logPlace = some loc) s.files s'.files := by
  refine ⟨h.workDir, fun loc => ?_⟩
  by_cases hloc : s.logPlace = some loc
  · obtain ⟨mode, old, hold⟩ := hlog loc hloc
    obtain ⟨added, hnew⟩ := h.appended loc mode old hold
    exact .inr ⟨hloc, hold ▸ FileSystem.plain_file mode old, hnew ▸ FileSystem.plain_file mode _⟩
  · exact .inl (h.elsewhere loc hloc)

theorem OnlyLogs.get?_directory_iff {s s' : RunState} (h : OnlyLogs s s') (hlog : s.LogsTo s.files)
    (loc : Location) : s'.files.get? loc = some .directory ↔ s.files.get? loc = some .directory :=
  ⟨(h.agree hlog).symm.directory, (h.agree hlog).directory⟩

/-- Paths lead where they led before. -/
theorem OnlyLogs.locate_iff {s s' : RunState} (h : OnlyLogs s s') (hlog : s.LogsTo s.files) {p : Path}
    {follow : Bool} {at_ : Location} :
    s'.files.locate p follow = .ok at_ ↔ s.files.locate p follow = .ok at_ :=
  ⟨(h.agree hlog).symm.locate, (h.agree hlog).locate⟩

/-- A path leads to something if it did before. -/
theorem OnlyLogs.exists_stat_iff {s s' : RunState} (h : OnlyLogs s s') (hlog : s.LogsTo s.files)
    {p : Path} : (∃ e, s'.files.stat p = .ok e) ↔ ∃ e, s.files.stat p = .ok e := by
  simp only [FileSystem.stat_eq_ok, h.locate_iff hlog]
  constructor
  · rintro ⟨e, at_, hat, he⟩
    rcases h.get?_cases hlog at_ with heq | ⟨mode, old, new, hold, hnew⟩
    · exact ⟨e, at_, hat, heq ▸ he⟩
    · exact ⟨_, at_, hat, hold⟩
  · rintro ⟨e, at_, hat, he⟩
    rcases h.get?_cases hlog at_ with heq | ⟨mode, old, new, hold, hnew⟩
    · exact ⟨e, at_, hat, heq ▸ he⟩
    · exact ⟨_, at_, hat, hnew⟩

/-- A path that leads to a file led to a file before. -/
theorem OnlyLogs.stat_file {s s' : RunState} (h : OnlyLogs s s') (hlog : s.LogsTo s.files) {p : Path}
    {mode : Nat} {new : Bytes} (hstat : s'.files.stat p = .ok (.file mode new)) :
    ∃ at_ old, s.files.locate p = .ok at_ ∧ s.files.get? at_ = some (.file mode old) := by
  obtain ⟨at_, hat, hget⟩ := FileSystem.stat_eq_ok.mp hstat
  refine ⟨at_, ?_⟩
  rcases h.get?_cases hlog at_ with heq | ⟨mode', old, new', hold, hnew⟩
  · exact ⟨new, (h.locate_iff hlog).mp hat, heq ▸ hget⟩
  · rw [hnew] at hget
    cases hget
    exact ⟨old, (h.locate_iff hlog).mp hat, hold⟩

/-- A path leads to a directory if it did before. -/
theorem OnlyLogs.stat_directory_iff {s s' : RunState} (h : OnlyLogs s s') (hlog : s.LogsTo s.files)
    {p : Path} : s'.files.stat p = .ok .directory ↔ s.files.stat p = .ok .directory := by
  simp only [FileSystem.stat_eq_ok, h.locate_iff hlog, h.get?_directory_iff hlog]

/-- A path leads to a file if it did before. -/
theorem OnlyLogs.stat_file_iff {s s' : RunState} (h : OnlyLogs s s') (hlog : s.LogsTo s.files) {p : Path} :
    (∃ mode content, s'.files.stat p = .ok (.file mode content)) ↔
      ∃ mode content, s.files.stat p = .ok (.file mode content) := by
  constructor
  · rintro ⟨mode, new, hstat⟩
    obtain ⟨at_, old, hat, hget⟩ := h.stat_file hlog hstat
    exact ⟨mode, old, FileSystem.stat_eq_ok.mpr ⟨at_, hat, hget⟩⟩
  · rintro ⟨mode, old, hstat⟩
    obtain ⟨at_, hat, hget⟩ := FileSystem.stat_eq_ok.mp hstat
    obtain ⟨added, hnow⟩ := h.appended at_ mode old hget
    exact ⟨mode, old ++ added, FileSystem.stat_eq_ok.mpr ⟨at_, (h.locate_iff hlog).mpr hat, hnow⟩⟩

/-- Logging does not make paths too long, or short enough. -/
theorem OnlyLogs.fits_iff {s s' : RunState} (h : OnlyLogs s s') (hlog : s.LogsTo s.files) {p : Path} :
    s'.files.Fits p ↔ s.files.Fits p :=
  ⟨(h.agree hlog).symm.fits, (h.agree hlog).fits⟩

/-- A run that only logs keeps the file system well-formed. -/
structure Steady (s s' : RunState) : Prop where
  quiet : s.OnlyLogs s'
  wellFormed : s'.files.WellFormed

namespace Steady

variable {s s' : RunState}

theorem note (h : Steady s s') (hlog : s.LogsTo s.files) (env : Environment) (r : Log.Record) :
    Steady s (s'.note env r) := by
  refine ⟨h.quiet.trans (.note s' env r), ?_⟩
  have hfiles : (s'.note env r).files = s'.logging.write env.stamp r s'.files := rfl
  rcases s'.logging.write_cases env.stamp r s'.files with hsame | ⟨f, bytes, hfile, happend⟩
  · rw [hfiles, hsame]
    exact h.wellFormed
  · have hplace : s.logPlace = some f.place := by
      rw [← h.quiet.logPlace_eq, logPlace, hfile, Option.map_some]
    obtain ⟨mode, old, hold⟩ := hlog f.place hplace
    obtain ⟨now, hnow⟩ := h.quiet.appended f.place mode old hold
    rw [hfiles, happend, Log.append, hnow]
    exact h.wellFormed.put_file hnow

theorem of_files_eq {s'' : RunState} (h : Steady s s') (hlogging : s''.logging = s'.logging)
    (hsink : s''.sink = s'.sink) (hfiles : s''.files = s'.files) : Steady s s'' :=
  ⟨h.quiet.trans (.of_files_eq hlogging hsink hfiles), hfiles ▸ h.wellFormed⟩

end Steady

/-! ## Files that land in the place of the log file -/

section Landed

variable (s : RunState) (destination : Path) (files : FileSystem)

@[simp]
theorem landed_files : (s.landed destination files).files = files := rfl

@[simp]
theorem landed_sink : (s.landed destination files).sink = s.sink := rfl

@[simp]
theorem landed_context : (s.landed destination files).context = s.context := rfl

/-- After a file was put somewhere the log goes nowhere, or where it went. -/
theorem logPlace_landed : (s.landed destination files).logPlace = none ∨
    (s.landed destination files).logPlace = s.logPlace := by
  rw [logPlace, logPlace, landed]
  rcases s.logging.withoutFileAt_cases (landing? s.files destination) with hnone | hsame
  · exact .inl (by rw [hnone, Option.map_none])
  · exact .inr (by rw [hsame])

variable {s destination}

theorem putFile_eq_ok {m : AccessM Unit} {s' : RunState} (h : s.putFile destination m = (.ok (), s')) :
    ∃ files, m.run.run s.files = (.ok (), files) ∧ s' = s.landed destination files := by
  rw [putFile] at h
  split at h
  · rename_i files hrun
    exact ⟨files, hrun, (Prod.mk.inj h).2.symm⟩
  · cases h

/-- The log does not go to a file that was put somewhere. -/
theorem logPlace_landed_ne {at_ : Location} (hat : landing? s.files destination = some at_) :
    (s.landed destination files).logPlace ≠ some at_ := by
  rw [logPlace, landed, hat, Log.Logging.withoutFileAt]
  split
  · simp
  · assumption

/-- A file that is put somewhere else leaves the log alone. -/
theorem landed_of_ne (h : ∀ at_, s.logPlace = some at_ → landing? s.files destination ≠ some at_) :
    s.landed destination files = { s with files } := by
  rw [landed, Log.Logging.withoutFileAt]
  split
  · rename_i hplace
    cases hfile : s.logging.file with
    | none => rw [← hfile]
    | some log =>
      rw [hfile, Option.map_some] at hplace
      exact absurd hplace.symm (h _ (by rw [logPlace, hfile, Option.map_some]))
  · rfl

end Landed

/-! ## The sink -/

theorem intoSink_of_disk {s : RunState} (hsink : s.sink = .disk)
    (onDisk : RunState → Except Trouble Unit × RunState)
    (inMemory : MemoryWriter → Except Failure MemoryWriter) : s.intoSink onDisk inMemory = onDisk s := by
  rw [intoSink]
  split
  · rfl
  · rename_i writer hmemory
    rw [hsink] at hmemory
    cases hmemory

theorem intoSink_of_memory {s : RunState} {writer : MemoryWriter} (hsink : s.sink = .memory writer)
    (onDisk : RunState → Except Trouble Unit × RunState)
    (inMemory : MemoryWriter → Except Failure MemoryWriter) :
    s.intoSink onDisk inMemory =
      match inMemory writer with
      | .ok writer => (.ok (), { s with sink := .memory writer })
      | .error f => (.error (.failure f), s) := by
  rw [intoSink]
  split
  · rename_i hdisk
    rw [hsink] at hdisk
    cases hdisk
  · rename_i hmemory
    rw [hsink] at hmemory
    cases hmemory
    rfl

theorem makeDirs_of_disk {s : RunState} (hsink : s.sink = .disk) (p : Path) :
    s.makeDirs p = (((Files.makeDirs p).run.run s.files).1,
      { s with files := ((Files.makeDirs p).run.run s.files).2 }) :=
  intoSink_of_disk hsink _ _

theorem noteAll_context (s : RunState) (env : Environment) (rs : List Log.Record) :
    (s.noteAll env rs).context = s.context := by
  induction rs generalizing s with
  | nil => rfl
  | cons r rs ih => exact ih _

theorem noteAll_drawn (s : RunState) (env : Environment) (rs : List Log.Record) :
    (s.noteAll env rs).drawn = s.drawn := by
  induction rs generalizing s with
  | nil => rfl
  | cons r rs ih => exact ih _

theorem noteAll_events (s : RunState) (env : Environment) (rs : List Log.Record) :
    (s.noteAll env rs).events = s.events := by
  induction rs generalizing s with
  | nil => rfl
  | cons r rs ih => exact ih _

end RunState

/-- The surroundings of a run on a machine without home directories and programs, with a parser that finds
nothing in any text. -/
def bareEnvironment : Environment where
  today := "2024-01-01"
  stamp := ""
  home := fun _ => none
  ids := fun _ => "id"
  rootOf := fun _ => default
  room := 1000
  workerRoom := 1000

end JsxTagger
