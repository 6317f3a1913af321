import JsxTagger.Proofs.Emit.Sources
import JsxTagger.Proofs.Settings.Build
import JsxTagger.Proofs.Text.Letters

/-!
# Settings that were built

What the stages of a run rely on without looking again (`Usable`) holds of all settings that are built,
whatever the values are and whichever are left out: every value that is taken keeps what the default values
fulfil (`Draft.Sound`), and the roots are looked at last.

A value of the command line is the one that counts: the setting of its name is what that value comes to
(`Holds`), whatever the configuration file says.
-/

namespace JsxTagger

theorem Except.bind_pure_eq_ok {ε α β : Type} {x : Except ε α} {f : α → β} {b : β} :
    (x >>= fun a => pure (f a)) = .ok b ↔ ∃ a, x = .ok a ∧ f a = b := by
  cases x <;> simp [bind, Except.bind, pure, Except.pure]

namespace Settings

open Files

/-- A normal extension starts with a dot and has no capital letters. -/
def IsExtension (s : String) : Prop := s.toList.head? = some '.' ∧ ∀ c ∈ s.toList, c.isUpper = false

theorem isExtension_normalExtension (s : String) : IsExtension (normalExtension s) := by
  obtain ⟨rest, hdotted⟩ : ∃ rest, (if s.startsWith "." then s else "." ++ s).toList = '.' :: rest := by
    split
    · rename_i hstart
      obtain ⟨rest, hrest⟩ := String.startsWith_string_iff.mp hstart
      exact ⟨rest, hrest.symm⟩
    · exact ⟨s.toList, by rw [String.toList_append]; rfl⟩
  rw [IsExtension, normalExtension, Text.lower, String.toList_ofList, hdotted]
  exact ⟨rfl, fun c hc => Text.isUpper_of_mem_lowerChars hc⟩

theorem mem_asSet {xs : List String} {x : String} : x ∈ asSet xs ↔ x ∈ xs := by
  rw [asSet, List.mem_mergeSort, List.mem_eraseDups]

/-! ## Taking a value -/

/-- What taking a value changes. -/
inductive Sets (env : Environment) (d : Draft) : String → Json → Draft → Prop where
  | inputRoot {value : Json} {p : Path} (h : pathValue env "input_root" value = .ok p) :
      Sets env d "input_root" value { d with settings.inputRoot := p }
  | outputRoot {value : Json} {p : Path} (h : pathValue env "output_root" value = .ok p) :
      Sets env d "output_root" value { d with output := some p }
  | formatConfig {value : Json} {p : Path} (h : pathValue env "format_config_path" value = .ok p) :
      Sets env d "format_config_path" value { d with settings.formatConfig := p }
  | structurePath {value : Json} {p : Path} (h : pathValue env "structure_path" value = .ok p) :
      Sets env d "structure_path" value { d with settings.structurePath := p }
  | logDir {value : Json} {p : Path} (h : pathValue env "log_dir" value = .ok p) :
      Sets env d "log_dir" value { d with settings.logDir := p }
  | extensions {value : Json} {texts : List String} (h : listValue "extensions" value = .ok texts) :
      Sets env d "extensions" value { d with settings.extensions := asSet (texts.map normalExtension) }
  | ignoreDirs {value : Json} {texts : List String} (h : listValue "ignore_dirs" value = .ok texts) :
      Sets env d "ignore_dirs" value { d with settings.ignoreDirs := asSet texts }
  | formatOutput {value : Json} {b : Bool} (h : boolValue "format_output" value = .ok b) :
      Sets env d "format_output" value { d with settings.formatOutput := b }
  | failFast {value : Json} {b : Bool} (h : boolValue "fail_fast" value = .ok b) :
      Sets env d "fail_fast" value { d with settings.failFast := b }
  | maxWorkers {value : Json} {n : Nat} (h : workersValue value = .ok n) :
      Sets env d "max_workers" value { d with settings.maxWorkers := some n }
  | logLevel {value : Json} {level : Log.Level} (h : levelValue value = .ok level) :
      Sets env d "log_level" value { d with settings.logLevel := level }
  | formatCommand {value : Json} {command : String} (h : commandValue value = .ok command) :
      Sets env d "prettier_command" value { d with settings.formatCommand := command }
  | unknown {key : String} {value : Json} (h : key ∉ names) : Sets env d key value d

theorem set_eq_ok {env : Environment} {d d' : Draft} {key : String} {value : Json}
    (h : d.set env key value = .ok d') : Sets env d key value d' := by
  unfold Draft.set at h
  split at h
  case h_13 =>
    cases h
    refine .unknown fun hmem => ?_
    simp only [names, List.mem_cons, List.not_mem_nil, or_false] at hmem
    tauto
  all_goals obtain ⟨a, ha, rfl⟩ := Except.bind_pure_eq_ok.mp h
  · exact .inputRoot ha
  · exact .outputRoot ha
  · exact .formatConfig ha
  · exact .structurePath ha
  · exact .logDir ha
  · exact .extensions ha
  · exact .ignoreDirs ha
  · exact .formatOutput ha
  · exact .failFast ha
  · exact .maxWorkers ha
  · exact .logLevel ha
  · exact .formatCommand ha

/-! ## What every value keeps -/

/-- What holds of all settings that are being built, the roots aside. -/
structure Draft.Sound (d : Draft) : Prop where
  extensions : ∀ e ∈ d.settings.extensions, IsExtension e
  workers : ∀ n, d.settings.maxWorkers = some n → 1 ≤ n
  command : ∃ c ∈ d.settings.formatCommand.toList, Text.isSpace c = false

theorem workersValue_eq_ok {value : Json} {n : Nat} (h : workersValue value = .ok n) : 1 ≤ n := by
  cases value with
  | int m =>
    rw [workersValue] at h
    split at h
    · cases h
      omega
    · cases h
  | _ => cases h

theorem commandValue_eq_ok {value : Json} {command : String} (h : commandValue value = .ok command) :
    ∃ c ∈ command.toList, Text.isSpace c = false := by
  cases value with
  | str s =>
    rw [commandValue] at h
    split at h
    · cases h
    · rename_i hblank
      cases h
      simpa using hblank
  | _ => cases h

theorem Sets.sound {env : Environment} {d d' : Draft} {key : String} {value : Json} (h : Sets env d key value d')
    (hsound : d.Sound) : d'.Sound := by
  obtain ⟨hextensions, hworkers, hcommand⟩ := hsound
  cases h with
  | @extensions _ texts h =>
    refine ⟨fun e he => ?_, hworkers, hcommand⟩
    obtain ⟨text, -, rfl⟩ := List.mem_map.mp (mem_asSet.mp he)
    exact isExtension_normalExtension text
  | maxWorkers h =>
    refine ⟨hextensions, fun n hn => ?_, hcommand⟩
    cases hn
    exact workersValue_eq_ok h
  | formatCommand h => exact ⟨hextensions, hworkers, commandValue_eq_ok h⟩
  | _ => exact ⟨hextensions, hworkers, hcommand⟩

/-! ## What the values come to -/

/-- The setting of a name is what a value comes to. -/
def Holds (env : Environment) (s : Settings) (key : String) (value : Json) : Prop :=
  match key with
  | "input_root" => pathValue env key value = .ok s.inputRoot
  | "output_root" => pathValue env key value = .ok s.outputRoot
  | "format_config_path" => pathValue env key value = .ok s.formatConfig
  | "structure_path" => pathValue env key value = .ok s.structurePath
  | "log_dir" => pathValue env key value = .ok s.logDir
  | "extensions" => ∃ texts, listValue key value = .ok texts ∧ s.extensions = asSet (texts.map normalExtension)
  | "ignore_dirs" => ∃ texts, listValue key value = .ok texts ∧ s.ignoreDirs = asSet texts
  | "format_output" => boolValue key value = .ok s.formatOutput
  | "fail_fast" => boolValue key value = .ok s.failFast
  | "max_workers" => ∃ n, workersValue value = .ok n ∧ s.maxWorkers = some n
  | "log_level" => levelValue value = .ok s.logLevel
  | "prettier_command" => commandValue value = .ok s.formatCommand
  | _ => False

/-- What a value comes to in settings that are being built, whose output root stands apart. -/
def Draft.Holds (env : Environment) (d : Draft) (key : String) (value : Json) : Prop :=
  if key = "output_root" then ∃ p, d.output = some p ∧ pathValue env key value = .ok p
  else Settings.Holds env d.settings key value

theorem Sets.holds {env : Environment} {d d' : Draft} {key : String} {value : Json} (h : Sets env d key value d')
    (hkey : key ∈ names) : d'.Holds env key value := by
  cases h with
  | outputRoot h => exact ⟨_, rfl, h⟩
  | extensions h => exact ⟨_, h, rfl⟩
  | ignoreDirs h => exact ⟨_, h, rfl⟩
  | maxWorkers h => exact ⟨_, h, rfl⟩
  | unknown h => exact absurd hkey h
  | _ h => exact h

/-- Taking the value of another name changes nothing about a name. -/
theorem Sets.keeps {env : Environment} {d d' : Draft} {key other : String} {value otherValue : Json}
    (h : Sets env d key value d') (hne : key ≠ other) (hholds : d.Holds env other otherValue) :
    d'.Holds env other otherValue := by
  rw [Draft.Holds] at hholds ⊢
  split
  · rename_i houtput
    rw [if_pos houtput] at hholds
    cases h with
    | outputRoot h => exact absurd houtput.symm hne
    | _ h => exact hholds
  · rename_i houtput
    rw [if_neg houtput] at hholds
    unfold Settings.Holds at hholds
    -- One case for every name: a value of that very name is excluded, and all others leave its setting alone.
    split at hholds
    case h_13 => exact hholds.elim
    all_goals cases h <;> first | exact absurd rfl hne | exact hholds

/-! ## All values -/

theorem isExtension_of_all {s : String} (hdot : s.toList.head? = some '.')
    (hsmall : (s.toList.all fun c => !c.isUpper) = true) : IsExtension s :=
  ⟨hdot, fun c hc => by simpa using List.all_eq_true.mp hsmall c hc⟩

theorem start_sound : Draft.Sound { settings := { inputRoot := {}, outputRoot := {} } } where
  extensions e he := by
    simp only [List.mem_cons, List.not_mem_nil, or_false] at he
    rcases he with rfl | rfl
    · exact isExtension_of_all rfl (by decide)
    · exact isExtension_of_all rfl (by decide)
  workers n h := by cases h
  command := ⟨'p', by decide, by decide⟩

theorem foldlM_sound {env : Environment} {values : List (String × Json)} {d d' : Draft}
    (h : values.foldlM (fun d v => d.set env v.1 v.2) d = .ok d') (hsound : d.Sound) : d'.Sound := by
  induction values generalizing d with
  | nil =>
    cases h
    exact hsound
  | cons v values ih =>
    rw [List.foldlM_cons, Except.bind_eq_ok] at h
    obtain ⟨next, hnext, h⟩ := h
    exact ih h ((set_eq_ok hnext).sound hsound)

/-- A setting is what its value comes to, where only one value stands under its name. -/
theorem foldlM_holds {env : Environment} {values : List (String × Json)} {d d' : Draft} {key : String} {value : Json}
    (h : values.foldlM (fun d v => d.set env v.1 v.2) d = .ok d') (hkey : key ∈ names)
    (hone : ∀ v ∈ values, v.1 = key → v.2 = value)
    (hgiven : (key, value) ∈ values ∨ d.Holds env key value) : d'.Holds env key value := by
  induction values generalizing d with
  | nil =>
    cases h
    exact hgiven.resolve_left List.not_mem_nil
  | cons v values ih =>
    rw [List.foldlM_cons, Except.bind_eq_ok] at h
    obtain ⟨next, hnext, h⟩ := h
    refine ih h (fun w hw => hone w (List.mem_cons_of_mem _ hw)) ?_
    by_cases hv : v.1 = key
    · have hsets := set_eq_ok hnext
      rw [hv, hone v List.mem_cons_self hv] at hsets
      exact .inr (hsets.holds hkey)
    · rcases hgiven with hgiven | hgiven
      · refine .inl ((List.mem_cons.mp hgiven).resolve_left fun heq => hv ?_)
        rw [← heq]
      · exact .inr ((set_eq_ok hnext).keeps hv hgiven)

/-- Every value that stands in the list was taken. -/
theorem foldlM_takes {env : Environment} {values : List (String × Json)} {d d' : Draft} {v : String × Json}
    (h : values.foldlM (fun d v => d.set env v.1 v.2) d = .ok d') (hv : v ∈ values) :
    ∃ before after, Sets env before v.1 v.2 after := by
  induction values generalizing d with
  | nil => cases hv
  | cons w values ih =>
    rw [List.foldlM_cons, Except.bind_eq_ok] at h
    obtain ⟨next, hnext, h⟩ := h
    rcases List.mem_cons.mp hv with rfl | hv
    · exact ⟨d, next, set_eq_ok hnext⟩
    · exact ih h hv

/-- A switch is given as true or false: no number and no text counts as one. -/
theorem Sets.isBool {env : Environment} {d d' : Draft} {key : String} {value : Json} (h : Sets env d key value d')
    (hkey : key = "format_output" ∨ key = "fail_fast") : ∃ b, value = .bool b := by
  have hbool {b : Bool} (h : boolValue key value = .ok b) : ∃ b, value = .bool b := by
    cases value with
    | bool b => exact ⟨b, rfl⟩
    | _ => cases h
  cases h with
  | formatOutput h => exact hbool h
  | failFast h => exact hbool h
  | unknown h => rcases hkey with rfl | rfl <;> exact absurd (by decide) h
  | _ => exact absurd hkey (by decide)

/-- The value of the command line under a name. `null` is none. -/
def overriding (overrides : List (String × Json)) (key : String) : Option Json :=
  (overrides.filter fun v => !v.2.isNull).reverse.lookup key

theorem mem_setMember {members : List (String × Json)} {key : String} {value : Json} {v : String × Json}
    (h : v ∈ Json.setMember members key value) : v = (key, value) ∨ v ∈ members ∧ v.1 ≠ key := by
  rw [Json.setMember] at h
  split at h
  · obtain ⟨w, hw, heq⟩ := List.mem_map.mp h
    split at heq
    · exact .inl heq.symm
    · rename_i hne
      exact .inr ⟨heq ▸ hw, by simpa [← heq] using hne⟩
  · rename_i hnew
    rcases List.mem_append.mp h with h | h
    · refine .inr ⟨h, fun hkey => hnew (List.any_eq_true.mpr ⟨v, h, by simp [hkey]⟩)⟩
    · exact .inl (List.mem_singleton.mp h)

theorem setMember_mem (members : List (String × Json)) (key : String) (value : Json) :
    (key, value) ∈ Json.setMember members key value := by
  rw [Json.setMember]
  split
  · rename_i hany
    obtain ⟨m, hm, hkey⟩ := List.any_eq_true.mp hany
    exact List.mem_map.mpr ⟨m, hm, if_pos hkey⟩
  · exact List.mem_append_right _ List.mem_cons_self

theorem mem_setMember_of_ne {members : List (String × Json)} {key : String} {value : Json} {v : String × Json}
    (h : v ∈ members) (hne : v.1 ≠ key) : v ∈ Json.setMember members key value := by
  rw [Json.setMember]
  split
  · exact List.mem_map.mpr ⟨v, h, if_neg (by simpa using hne)⟩
  · exact List.mem_append_left _ h

/-- A value of the command line takes the place of the one of the configuration file: it stands under its
name, and no other does. -/
theorem merge_overriding {fileValues overrides : List (String × Json)} {key : String} {value : Json}
    (h : overriding overrides key = some value) :
    (key, value) ∈ merge fileValues overrides ∧ ∀ v ∈ merge fileValues overrides, v.1 = key → v.2 = value := by
  rw [overriding] at h
  rw [merge]
  generalize overrides.filter (fun v => !v.2.isNull) = given at h ⊢
  -- The last value under the name is the one that stays, so the induction takes the values from the back.
  induction given using List.reverseRecOn with
  | nil => cases h
  | append_singleton given last ih =>
    rw [List.reverse_append, List.reverse_singleton, List.singleton_append, List.lookup_cons] at h
    rw [List.foldl_append, List.foldl_cons, List.foldl_nil]
    by_cases hlast : last.1 = key
    · rw [hlast, BEq.rfl] at h
      cases h
      rw [← hlast]
      refine ⟨setMember_mem _ _ _, fun v hv hkey => ?_⟩
      rcases mem_setMember hv with rfl | ⟨-, hne⟩
      · rfl
      · exact absurd hkey hne
    · rw [show (key == last.1) = false by simpa using Ne.symm hlast] at h
      obtain ⟨hmem, hone⟩ := ih h
      refine ⟨mem_setMember_of_ne hmem (Ne.symm hlast), fun v hv hkey => ?_⟩
      rcases mem_setMember hv with rfl | ⟨hv, -⟩
      · exact absurd hkey hlast
      · exact hone v hv hkey

/-! ## Building -/

/-- What later stages rely on. -/
structure Usable (fs : FileSystem) (s : Settings) : Prop where
  /-- The sources are in a directory. -/
  input : fs.isDir s.inputRoot = .ok true
  /-- The copy is not written over the sources. -/
  output : ∃ input output, fs.resolve s.inputRoot = .ok input ∧ fs.resolve s.outputRoot = .ok output ∧ output ≠ input
  /-- A suffix in small letters can be one of the extensions. -/
  extensions : ∀ e ∈ s.extensions, IsExtension e
  /-- The number of workers, if it is given, is one or more. -/
  maxWorkers : ∀ n, s.maxWorkers = some n → 1 ≤ n
  /-- There is a worker, on every machine. -/
  workers : ∀ processors, 1 ≤ s.workerCount processors
  /-- The level has one of the five names. -/
  level : s.logLevel.name ∈ ["CRITICAL", "ERROR", "WARNING", "INFO", "DEBUG"]
  /-- There is a command to call. -/
  command : ∃ c ∈ s.formatCommand.toList, Text.isSpace c = false

theorem mapError_eq_ok {ε ε' α : Type} {f : ε → ε'} {x : Except ε α} {a : α} :
    x.mapError f = .ok a ↔ x = .ok a := by
  cases x <;> simp [Except.mapError]

/-- Settings are finished only if the input root is a directory and the roots stand for two paths. -/
theorem finish_eq_ok {fs : FileSystem} {d : Draft} {s : Settings} (h : d.finish fs = .ok s) :
    s = { d.settings with outputRoot := d.outputRoot } ∧ fs.isDir d.settings.inputRoot = .ok true ∧
      ∃ input output, fs.resolve d.settings.inputRoot = .ok input ∧ fs.resolve d.outputRoot = .ok output ∧
        output ≠ input := by
  cases hdir : fs.isDir d.settings.inputRoot with
  | error fault =>
    simp only [Draft.finish, hdir] at h
    cases h
  | ok isDirectory =>
    cases isDirectory with
    | false =>
      simp only [Draft.finish, hdir] at h
      cases h
    | true =>
      have hname : d.settings.inputRoot.name ≠ "" := fun hname => by
        rw [(Unfinished.nameless hdir hname).finish] at h
        cases h
      rw [finish_of_dir hdir hname, Except.bind_eq_ok] at h
      obtain ⟨output, houtput, h⟩ := h
      obtain ⟨input, hinput, h⟩ := Except.bind_eq_ok.mp h
      split at h
      · cases h
      · rename_i hne
        cases h
        exact ⟨rfl, rfl, input, output, mapError_eq_ok.mp hinput, mapError_eq_ok.mp houtput, hne⟩

/-- Settings are built only from values that are admitted and taken, and then looked at. -/
theorem exists_draft_of_build {env : Environment} {fs : FileSystem} {fileValues overrides : List (String × Json)} {s : Settings}
    (h : build env fs fileValues overrides = .ok s) :
    Admitted (merge fileValues overrides) ∧
      ∃ d, drafted env (merge fileValues overrides) = .ok d ∧ d.finish fs = .ok s := by
  by_cases hadmitted : Admitted (merge fileValues overrides)
  · rw [build_of_admitted hadmitted, Except.bind_eq_ok] at h
    exact ⟨hadmitted, h⟩
  · obtain ⟨message, herror⟩ : ∃ message, build env fs fileValues overrides = .error (invalid message) :=
      build_of_not_admitted hadmitted
    rw [herror] at h
    cases h

theorem Draft.Sound.usable {fs : FileSystem} {d : Draft} {s : Settings} (hsound : d.Sound)
    (h : d.finish fs = .ok s) : Usable fs s := by
  obtain ⟨rfl, hdir, hroots⟩ := finish_eq_ok h
  refine ⟨hdir, hroots, hsound.extensions, hsound.workers, fun processors => ?_, ?_, hsound.command⟩
  · rw [workerCount]
    split
    · exact hsound.workers _ ‹_›
    · split <;> omega
  · cases d.settings.logLevel <;> decide

/-- What a value comes to in a draft stays in the settings. -/
theorem Draft.Holds.settings {env : Environment} {fs : FileSystem} {d : Draft} {s : Settings} {key : String}
    {value : Json} (hholds : d.Holds env key value) (h : d.finish fs = .ok s) : s.Holds env key value := by
  obtain ⟨rfl, -, -⟩ := finish_eq_ok h
  rw [Draft.Holds] at hholds
  split at hholds
  · rename_i hkey
    obtain ⟨p, houtput, hvalue⟩ := hholds
    subst hkey
    rw [Settings.Holds, Draft.outputRoot, houtput]
    exact hvalue
  · rename_i hkey
    unfold Settings.Holds at hholds ⊢
    split at hholds
    case h_2 => exact absurd rfl hkey
    case h_13 => exact hholds.elim
    all_goals exact hholds

/-- Whatever the values are: settings that are built are usable, a switch is on or off because a truth value
says so, and a setting that the command line gives is what its value comes to. -/
theorem build_usable {env : Environment} {fs : FileSystem} {fileValues overrides : List (String × Json)}
    {s : Settings} (h : build env fs fileValues overrides = .ok s) :
    Usable fs s ∧
      (∀ key value, (key, value) ∈ merge fileValues overrides → key = "format_output" ∨ key = "fail_fast" →
        ∃ b, value = .bool b) ∧
      ∀ key value, overriding overrides key = some value → s.Holds env key value := by
  obtain ⟨hadmitted, d, hdraft, hfinish⟩ := exists_draft_of_build h
  refine ⟨(foldlM_sound hdraft start_sound).usable hfinish, fun key value hmem hkey => ?_, fun key value hvalue => ?_⟩
  · obtain ⟨before, after, hsets⟩ := foldlM_takes hdraft hmem
    exact hsets.isBool hkey
  · obtain ⟨hmem, hone⟩ : (key, value) ∈ merge fileValues overrides ∧
        ∀ v ∈ merge fileValues overrides, v.1 = key → v.2 = value := merge_overriding hvalue
    have hkey : key ∈ names := hadmitted.1 key (List.mem_map.mpr ⟨_, hmem, rfl⟩)
    exact (foldlM_holds hdraft hkey hone (.inl hmem)).settings hfinish

/-- Four workers on the command line against two in the file, and a level in small letters. -/
theorem build_usable_fourWorkers :
    let fs : FileSystem := { entries := [(["app"], .directory), (["copy"], .directory)] }
    let fileValues : List (String × Json) :=
      [("input_root", .str "/app"), ("fail_fast", .bool true), ("max_workers", .int 2)]
    let overrides : List (String × Json) :=
      [("output_root", .str "/copy"), ("max_workers", .int 4), ("fail_fast", .null), ("log_level", .str "debug")]
    ∃ s, build loneUser fs fileValues overrides = .ok s ∧ Usable fs s ∧ s.maxWorkers = some 4 ∧
      s.logLevel = .debug := by
  intro fs fileValues overrides
  have hplain := Emit.not_link_of_entries fs (by simp [fs])
  have hinput : fs.resolve ⟨.root, ["app"]⟩ = .ok ⟨.root, ["app"]⟩ :=
    FileSystem.resolve_of_unlinked hplain (e := .directory) (by decide +kernel) (by decide +kernel)
      (by decide +kernel) (by decide +kernel) (by decide +kernel)
  have houtput : fs.resolve ⟨.root, ["copy"]⟩ = .ok ⟨.root, ["copy"]⟩ :=
    FileSystem.resolve_of_unlinked hplain (e := .directory) (by decide +kernel) (by decide +kernel)
      (by decide +kernel) (by decide +kernel) (by decide +kernel)
  have hdraft : (merge fileValues overrides).foldlM (fun d v => Draft.set loneUser d v.1 v.2)
      { settings := { inputRoot := {}, outputRoot := {} } } =
        .ok { settings := { inputRoot := ⟨.root, ["app"]⟩, outputRoot := {}, failFast := true,
                            maxWorkers := some 4, logLevel := .debug },
              output := some ⟨.root, ["copy"]⟩ } := rfl
  have hbuild : build loneUser fs fileValues overrides = .ok _ :=
    build_eq_ok (by decide +kernel) (by decide +kernel) hdraft (by decide +kernel) rfl houtput hinput (by decide)
  obtain ⟨husable, -, hholds⟩ := build_usable hbuild
  obtain ⟨n, hn, hworkers⟩ := hholds "max_workers" (.int 4) (by rfl)
  cases hn
  exact ⟨_, hbuild, husable, hworkers, rfl⟩

end Settings

end JsxTagger
