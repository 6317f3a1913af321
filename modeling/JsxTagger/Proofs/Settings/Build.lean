import JsxTagger.Proofs.Files.Refusals
import JsxTagger.Proofs.Instrument.Passing
import JsxTagger.Settings.Build

/-!
# How building settings fails

Every check of a value that is refused is reported as a settings failure. What is not reported are the
questions that are put to the system and to a path without a check before: the home directory of a user
nobody knows, an input root that is too long or has no name, and a root that stands for no path. `Escapes`
lists them, and `build_reports` says that nothing else escapes.
-/

namespace JsxTagger

theorem Except.bind_pure_eq_error {ε α β : Type} {x : Except ε α} {f : α → β} {e : ε} :
    (x >>= fun a => pure (f a)) = .error e ↔ x = .error e := by
  cases x <;> simp [bind, Except.bind, pure, Except.pure]

namespace Files.FileSystem

/-- The only fault of a question about a path is that it is too long. -/
theorem leadsTo_eq_error {fs : FileSystem} {p : Path} {test : Entry → Bool} {fault : Fault} :
    fs.leadsTo p test = .error fault ↔
      pathFault? p = none ∧ ¬ fs.Fits p ∧ fault = Refusal.nameTooLong.fault p.text := by
  rw [leadsTo, Fits]
  cases hfault : pathFault? p with
  | some e => simp
  | none =>
    cases hstat : fs.stat p with
    | ok e => simp
    | error r => cases r <;> simp [eq_comm]

end Files.FileSystem

namespace Settings

open Files

/-! ## Single values -/

/-- The user whose home directory a path starts with. -/
def homeUser? (p : Path) : Option String :=
  match p.anchor, p.parts with
  | .relative, first :: _ =>
    match first.toList with
    | '~' :: user => some (String.ofList user)
    | _ => none
  | _, _ => none

theorem expandHome_eq_error {env : Environment} {p : Path} {t : Trouble} :
    expandHome env p = .error t ↔
      ∃ user, homeUser? p = some user ∧ env.home user = none ∧ t = .fault (unknownHome user) := by
  obtain ⟨anchor, parts⟩ := p
  cases anchor with
  | relative =>
    cases parts with
    | nil => simp [expandHome, homeUser?]
    | cons first rest =>
      by_cases htilde : ∃ user, first.toList = '~' :: user
      · obtain ⟨user, huser⟩ := htilde
        cases hhome : env.home (String.ofList user) with
        | none => simp [expandHome, homeUser?, huser, hhome, eq_comm]
        | some home => simp [expandHome, homeUser?, huser, hhome]
      · cases hchars : first.toList with
        | nil => simp [expandHome, homeUser?, hchars]
        | cons c cs =>
          have hc : c ≠ '~' := fun hc => htilde ⟨cs, by rw [hchars, hc]⟩
          simp [expandHome, homeUser?, hchars, hc]
  | root => simp [expandHome, homeUser?]
  | doubleRoot => simp [expandHome, homeUser?]

/-- The names of the settings that are paths. -/
def pathNames : List String :=
  ["input_root", "output_root", "format_config_path", "structure_path", "log_dir"]

/-- A value is a path that starts with the home directory of a user nobody knows. -/
def Homeless (env : Environment) (key : String) (value : Json) (user : String) : Prop :=
  ∃ text, key ∈ pathNames ∧ value = .str text ∧ homeUser? (Path.ofText text) = some user ∧
    env.home user = none

/-- A trouble is reported as a settings failure. -/
def Reported (t : Trouble) : Prop := ∃ message, t = invalid message

theorem pathValue_eq_error {env : Environment} {key : String} {value : Json} {t : Trouble}
    (h : pathValue env key value = .error t) (hkey : key ∈ pathNames) :
    Reported t ∨ ∃ user, Homeless env key value user ∧ t = .fault (unknownHome user) := by
  cases value with
  | str text =>
    obtain ⟨user, huser, hhome, ht⟩ := expandHome_eq_error.mp h
    exact .inr ⟨user, ⟨text, hkey, rfl, huser, hhome⟩, ht⟩
  | _ =>
    cases h
    exact .inl ⟨_, rfl⟩

theorem listValue_eq_error {key : String} {value : Json} {t : Trouble}
    (h : listValue key value = .error t) : Reported t := by
  cases value with
  | arr items => cases h
  | _ =>
    cases h
    exact ⟨_, rfl⟩

theorem boolValue_eq_error {key : String} {value : Json} {t : Trouble}
    (h : boolValue key value = .error t) : Reported t := by
  cases value with
  | bool b => cases h
  | _ =>
    cases h
    exact ⟨_, rfl⟩

theorem workersValue_eq_error {value : Json} {t : Trouble} (h : workersValue value = .error t) :
    Reported t := by
  cases value with
  | int n =>
    rw [workersValue] at h
    split at h
    · cases h
    · cases h
      exact ⟨_, rfl⟩
  | _ =>
    cases h
    exact ⟨_, rfl⟩

theorem levelValue_eq_error {value : Json} {t : Trouble} (h : levelValue value = .error t) :
    Reported t := by
  rw [levelValue] at h
  split at h
  · cases h
  · cases h
    exact ⟨_, rfl⟩

theorem commandValue_eq_error {value : Json} {t : Trouble} (h : commandValue value = .error t) :
    Reported t := by
  cases value with
  | str s =>
    rw [commandValue] at h
    split at h
    · cases h
      exact ⟨_, rfl⟩
    · cases h
  | _ =>
    cases h
    exact ⟨_, rfl⟩

/-- A value that is not taken is reported, unless it is a path in an unknown home. -/
theorem set_eq_error {env : Environment} {d : Draft} {key : String} {value : Json} {t : Trouble}
    (h : d.set env key value = .error t) :
    Reported t ∨ ∃ user, Homeless env key value user ∧ t = .fault (unknownHome user) := by
  unfold Draft.set at h
  split at h
  · exact pathValue_eq_error (Except.bind_pure_eq_error.mp h) (by decide)
  · exact pathValue_eq_error (Except.bind_pure_eq_error.mp h) (by decide)
  · exact pathValue_eq_error (Except.bind_pure_eq_error.mp h) (by decide)
  · exact pathValue_eq_error (Except.bind_pure_eq_error.mp h) (by decide)
  · exact pathValue_eq_error (Except.bind_pure_eq_error.mp h) (by decide)
  · exact .inl (listValue_eq_error (Except.bind_pure_eq_error.mp h))
  · exact .inl (listValue_eq_error (Except.bind_pure_eq_error.mp h))
  · exact .inl (boolValue_eq_error (Except.bind_pure_eq_error.mp h))
  · exact .inl (boolValue_eq_error (Except.bind_pure_eq_error.mp h))
  · exact .inl (workersValue_eq_error (Except.bind_pure_eq_error.mp h))
  · exact .inl (levelValue_eq_error (Except.bind_pure_eq_error.mp h))
  · exact .inl (commandValue_eq_error (Except.bind_pure_eq_error.mp h))
  · cases h

/-- A path in an unknown home is not taken, and that is not reported. -/
theorem Homeless.set {env : Environment} {key user : String} {value : Json}
    (h : Homeless env key value user) (d : Draft) :
    d.set env key value = .error (.fault (unknownHome user)) := by
  obtain ⟨text, hkey, rfl, huser, hhome⟩ := h
  have hvalue : pathValue env key (.str text) = .error (.fault (unknownHome user)) :=
    expandHome_eq_error.mpr ⟨user, huser, hhome, rfl⟩
  simp only [pathNames, List.mem_cons, List.not_mem_nil, or_false] at hkey
  rcases hkey with rfl | rfl | rfl | rfl | rfl <;>
    exact Except.bind_pure_eq_error.mpr hvalue

/-! ## All values -/

/-- The settings with the values in their order, before the roots are looked at. -/
def drafted (env : Environment) (values : List (String × Json)) : Except Trouble Draft :=
  values.foldlM (fun d v => d.set env v.1 v.2) { settings := { inputRoot := {}, outputRoot := {} } }

/-- Taking values ends with the first one that is not taken. -/
theorem foldlM_eq_error {α β ε : Type} {f : β → α → Except ε β} {xs : List α} {b : β} {e : ε} :
    xs.foldlM f b = .error e ↔
      ∃ front x back b', xs = front ++ x :: back ∧ front.foldlM f b = .ok b' ∧ f b' x = .error e := by
  induction xs generalizing b with
  | nil => simp [pure, Except.pure]
  | cons x xs ih =>
    rw [List.foldlM_cons, Except.bind_eq_error]
    constructor
    · rintro (hx | ⟨b', hx, hxs⟩)
      · exact ⟨[], x, xs, b, rfl, rfl, hx⟩
      · obtain ⟨front, y, back, b'', rfl, hfront, hy⟩ := ih.mp hxs
        refine ⟨x :: front, y, back, b'', rfl, ?_, hy⟩
        rw [List.foldlM_cons, hx]
        exact hfront
    · rintro ⟨front, y, back, b', hxs, hfront, hy⟩
      cases front with
      | nil =>
        cases hfront
        cases hxs
        exact .inl hy
      | cons z front =>
        obtain ⟨rfl, rfl⟩ := List.cons.inj hxs
        rw [List.foldlM_cons, Except.bind_eq_ok] at hfront
        obtain ⟨b'', hz, hfront⟩ := hfront
        exact .inr ⟨b'', hz, ih.mpr ⟨front, y, back, b', rfl, hfront, hy⟩⟩

/-- The settings of a draft, once the roots are looked at. -/
def Draft.finish (fs : FileSystem) (d : Draft) : Except Trouble Settings := do
  let inputRoot := d.settings.inputRoot
  if !(← (fs.isDir inputRoot).mapError .fault) then
    throw (invalid s!"Input root is not a directory: {inputRoot.text}")
  let outputRoot := d.output.getD (← defaultOutputRoot inputRoot)
  if (← (fs.resolve outputRoot).mapError .fault) = (← (fs.resolve inputRoot).mapError .fault) then
    throw (invalid "Output root must differ from the input root")
  return { d.settings with outputRoot }

/-- The output root of a draft: the one that is given, else the directory beside the input root. -/
def Draft.outputRoot (d : Draft) : Path :=
  d.output.getD (d.settings.inputRoot.withName (d.settings.inputRoot.name ++ "_new"))

/-- Why the roots cannot be looked at. -/
inductive Unfinished (fs : FileSystem) (d : Draft) : Fault → Prop where
  /-- The input root is too long to be followed. -/
  | tooLong (hpath : FileSystem.pathFault? d.settings.inputRoot = none)
      (hlong : ¬ fs.Fits d.settings.inputRoot) :
      Unfinished fs d (Refusal.nameTooLong.fault d.settings.inputRoot.text)
  /-- The input root has no name, so that no directory beside it can be named, needed or not. -/
  | nameless (hdir : fs.isDir d.settings.inputRoot = .ok true) (hname : d.settings.inputRoot.name = "") :
      Unfinished fs d ⟨.badValue, s!"{d.settings.inputRoot.shown} has an empty name"⟩
  /-- The output root stands for no path. -/
  | output {fault : Fault} (hdir : fs.isDir d.settings.inputRoot = .ok true)
      (hname : d.settings.inputRoot.name ≠ "") (houtput : fs.resolve d.outputRoot = .error fault) :
      Unfinished fs d fault
  /-- The input root stands for no path. -/
  | input {resolved : Path} {fault : Fault} (hdir : fs.isDir d.settings.inputRoot = .ok true)
      (hname : d.settings.inputRoot.name ≠ "") (houtput : fs.resolve d.outputRoot = .ok resolved)
      (hinput : fs.resolve d.settings.inputRoot = .error fault) : Unfinished fs d fault

theorem defaultOutputRoot_of_named {p : Path} (h : p.name ≠ "") :
    defaultOutputRoot p = .ok (p.withName (p.name ++ "_new")) := by
  rw [defaultOutputRoot, if_neg (by simpa using h)]

theorem defaultOutputRoot_of_nameless {p : Path} (h : p.name = "") :
    defaultOutputRoot p = .error (.fault ⟨.badValue, s!"{p.shown} has an empty name"⟩) := by
  rw [defaultOutputRoot, if_pos (by simp [h])]

/-- An input root that is a directory with a name: what is left is that the roots stand for two paths. -/
theorem finish_of_dir {fs : FileSystem} {d : Draft} (hdir : fs.isDir d.settings.inputRoot = .ok true)
    (hname : d.settings.inputRoot.name ≠ "") :
    d.finish fs = (fs.resolve d.outputRoot).mapError .fault >>= fun output =>
      (fs.resolve d.settings.inputRoot).mapError .fault >>= fun input =>
        if output = input then .error (invalid "Output root must differ from the input root")
        else .ok { d.settings with outputRoot := d.outputRoot } := by
  simp only [Draft.finish, hdir, defaultOutputRoot_of_named hname]
  rfl

theorem Unfinished.finish {fs : FileSystem} {d : Draft} {fault : Fault} (h : Unfinished fs d fault) :
    d.finish fs = .error (.fault fault) := by
  cases h with
  | tooLong hpath hlong =>
    have hdir : fs.isDir d.settings.inputRoot =
        .error (Refusal.nameTooLong.fault d.settings.inputRoot.text) :=
      FileSystem.leadsTo_eq_error.mpr ⟨hpath, hlong, rfl⟩
    simp only [Draft.finish, hdir]
    rfl
  | nameless hdir hname =>
    simp only [Draft.finish, hdir, defaultOutputRoot_of_nameless hname]
    rfl
  | output hdir hname houtput =>
    rw [finish_of_dir hdir hname, houtput]
    rfl
  | input hdir hname houtput hinput =>
    rw [finish_of_dir hdir hname, houtput, hinput]
    rfl

/-- Looking at the roots yields settings or a failure that is reported, unless they cannot be looked at. -/
theorem finish_cases (fs : FileSystem) (d : Draft) :
    (∃ settings, d.finish fs = .ok settings) ∨ (∃ t, d.finish fs = .error t ∧ Reported t) ∨
      ∃ fault, d.finish fs = .error (.fault fault) ∧ Unfinished fs d fault := by
  have escape {fault : Fault} (h : Unfinished fs d fault) :
      ∃ fault, d.finish fs = .error (.fault fault) ∧ Unfinished fs d fault := ⟨fault, h.finish, h⟩
  cases hdir : fs.isDir d.settings.inputRoot with
  | error fault =>
    obtain ⟨hpath, hlong, -⟩ := FileSystem.leadsTo_eq_error.mp hdir
    exact .inr (.inr (escape (.tooLong hpath hlong)))
  | ok isDirectory =>
    cases isDirectory with
    | false =>
      have hfinish : d.finish fs =
          .error (invalid s!"Input root is not a directory: {d.settings.inputRoot.text}") := by
        simp only [Draft.finish, hdir]
        rfl
      exact .inr (.inl ⟨_, hfinish, _, rfl⟩)
    | true =>
      by_cases hname : d.settings.inputRoot.name = ""
      · exact .inr (.inr (escape (.nameless hdir hname)))
      · cases houtput : fs.resolve d.outputRoot with
        | error fault => exact .inr (.inr (escape (.output hdir hname houtput)))
        | ok output =>
          cases hinput : fs.resolve d.settings.inputRoot with
          | error fault => exact .inr (.inr (escape (.input hdir hname houtput hinput)))
          | ok input =>
            have hfinish : d.finish fs =
                if output = input then .error (invalid "Output root must differ from the input root")
                else .ok { d.settings with outputRoot := d.outputRoot } := by
              rw [finish_of_dir hdir hname, houtput, hinput]
              rfl
            by_cases hsame : output = input
            · rw [if_pos hsame] at hfinish
              exact .inr (.inl ⟨_, hfinish, _, rfl⟩)
            · rw [if_neg hsame] at hfinish
              exact .inl ⟨_, hfinish⟩

/-! ## Building -/

/-- The values are those of settings, and one of them is an input root. -/
def Admitted (values : List (String × Json)) : Prop :=
  (∀ key ∈ values.map (·.1), key ∈ names) ∧ ((values.lookup "input_root").getD .null).isNull = false

theorem build_of_admitted {env : Environment} {fs : FileSystem} {fileValues overrides : List (String × Json)}
    (h : Admitted (merge fileValues overrides)) :
    build env fs fileValues overrides =
      (drafted env (merge fileValues overrides) >>= Draft.finish fs) := by
  obtain ⟨hnames, hinput⟩ := h
  have hunknown : ((merge fileValues overrides).map (·.1)).filter (fun key => !names.contains key) = [] := by
    rw [List.filter_eq_nil_iff]
    intro key hkey
    simp [hnames key hkey]
  rw [build]
  simp only [hunknown, hinput]
  rfl

theorem build_of_not_admitted {env : Environment} {fs : FileSystem}
    {fileValues overrides : List (String × Json)} (h : ¬ Admitted (merge fileValues overrides)) :
    ∃ message, build env fs fileValues overrides = .error (invalid message) := by
  rw [build]
  dsimp only
  split
  · exact ⟨_, rfl⟩
  · rename_i hunknown
    split
    · exact ⟨_, rfl⟩
    · rename_i hinput
      refine absurd ⟨fun key hkey => ?_, Bool.eq_false_iff.mpr hinput⟩ h
      simp only [Bool.not_eq_true', Bool.not_eq_false, List.isEmpty_iff] at hunknown
      simpa using List.filter_eq_nil_iff.mp hunknown key hkey

/-- What building admitted values lets escape. -/
inductive Escapes (env : Environment) (fs : FileSystem) (values : List (String × Json)) : Fault → Prop where
  /-- A path starts with the home directory of a user nobody knows, and the values before it are taken. -/
  | homeless {front back : List (String × Json)} {key : String} {value : Json} {user : String} {d : Draft}
      (hvalues : values = front ++ (key, value) :: back) (hfront : drafted env front = .ok d)
      (hvalue : Homeless env key value user) : Escapes env fs values (unknownHome user)
  /-- All values are taken, and the roots cannot be looked at. -/
  | unfinished {d : Draft} {fault : Fault} (hdraft : drafted env values = .ok d)
      (hroots : Unfinished fs d fault) : Escapes env fs values fault

theorem drafted_eq_error {env : Environment} {fs : FileSystem} {values : List (String × Json)} {t : Trouble}
    (h : drafted env values = .error t) :
    Reported t ∨ ∃ fault, t = .fault fault ∧ Escapes env fs values fault := by
  obtain ⟨front, ⟨key, value⟩, back, d, hvalues, hfront, hset⟩ := foldlM_eq_error.mp h
  rcases set_eq_error hset with hreported | ⟨user, hvalue, rfl⟩
  · exact .inl hreported
  · exact .inr ⟨_, rfl, .homeless hvalues hfront hvalue⟩

theorem Escapes.bind {env : Environment} {fs : FileSystem} {values : List (String × Json)} {fault : Fault}
    (h : Escapes env fs values fault) : (drafted env values >>= Draft.finish fs) = .error (.fault fault) := by
  rw [Except.bind_eq_error]
  cases h with
  | homeless hvalues hfront hvalue =>
    exact .inl (foldlM_eq_error.mpr ⟨_, _, _, _, hvalues, hfront, hvalue.set _⟩)
  | unfinished hdraft hroots => exact .inr ⟨_, hdraft, hroots.finish⟩

/-- Building settings yields settings or a failure that is reported, unless admitted values let a fault
escape; and then it does escape. -/
theorem build_reports (env : Environment) (fs : FileSystem) (fileValues overrides : List (String × Json)) :
    let values := merge fileValues overrides
    ((∃ settings, build env fs fileValues overrides = .ok settings) ∨
      (∃ message, build env fs fileValues overrides = .error (invalid message)) ∨
      ∃ fault, Admitted values ∧ Escapes env fs values fault) ∧
    ∀ fault, Admitted values → Escapes env fs values fault →
      build env fs fileValues overrides = .error (.fault fault) := by
  intro values
  constructor
  · by_cases hadmitted : Admitted values
    · rw [build_of_admitted hadmitted]
      cases hdraft : drafted env values with
      | error t =>
        rcases drafted_eq_error hdraft with ⟨message, rfl⟩ | ⟨fault, -, hescapes⟩
        · exact .inr (.inl ⟨message, rfl⟩)
        · exact .inr (.inr ⟨fault, hadmitted, hescapes⟩)
      | ok d =>
        rcases finish_cases fs d with hok | ⟨t, ht, message, rfl⟩ | ⟨fault, -, hroots⟩
        · exact .inl hok
        · exact .inr (.inl ⟨message, ht⟩)
        · exact .inr (.inr ⟨fault, hadmitted, .unfinished hdraft hroots⟩)
    · exact .inr (.inl (build_of_not_admitted hadmitted))
  · intro fault hadmitted hescapes
    rw [build_of_admitted hadmitted]
    exact hescapes.bind

/-- The surroundings of a run on a machine where only the user who runs the program has a home. -/
def loneUser : Environment where
  today := "2024-01-01"
  stamp := ""
  home := fun user => if user.isEmpty then some "/root" else none
  ids := fun _ => "id"
  rootOf := fun _ => default
  room := 1000
  workerRoom := 1000

/-- A directory of logs in the home of a user nobody knows: the fault escapes. -/
theorem build_reports_unknownUser :
    let values := [("input_root", .str "/app"), ("log_dir", .str "~nobody/logs")]
    let fs : FileSystem := { entries := [(["app"], .directory)] }
    Admitted values ∧ Escapes loneUser fs values (unknownHome "nobody") ∧
      build loneUser fs values [] = .error (.fault ⟨.badState, "Could not determine home directory."⟩) := by
  intro values fs
  have hadmitted : Admitted values := by
    refine ⟨?_, rfl⟩
    decide
  have hescapes : Escapes loneUser fs values (unknownHome "nobody") := by
    refine .homeless (show values = [("input_root", .str "/app")] ++ ("log_dir", .str "~nobody/logs") :: [] from rfl)
      rfl ⟨_, by decide, rfl, ?_, ?_⟩
    · decide +kernel
    · decide +kernel
  have hbuild := (build_reports loneUser fs values []).2 (unknownHome "nobody") hadmitted hescapes
  have hfault : unknownHome "nobody" = ⟨.badState, "Could not determine home directory."⟩ := by
    decide +kernel
  exact ⟨hadmitted, hescapes, hfault ▸ hbuild⟩

/-- The working directory as the input root has no name, so the settings are neither built nor reported as
wrong. -/
theorem build_nameless :
    build loneUser { entries := [(["app"], .directory)], workDir := ["app"] } [("input_root", .str ".")] [] =
      .error (.fault ⟨.badValue, "PosixPath('.') has an empty name"⟩) := by
  have hfault {p : Path} (hp : p.shown = "PosixPath('.')") :
      s!"{p.shown} has an empty name" = "PosixPath('.') has an empty name" := by
    rw [hp]
    decide +kernel
  have hshown : (Path.ofText ".").shown = "PosixPath('.')" := by decide +kernel
  have hadmitted : Admitted (merge [("input_root", .str ".")] []) := by
    refine ⟨?_, rfl⟩
    decide
  rw [build_of_admitted hadmitted, ← hfault hshown]
  refine Escapes.bind (.unfinished (d := { settings := { inputRoot := {}, outputRoot := {} } }) rfl ?_)
  exact .nameless (by decide +kernel) (by decide +kernel)

end Settings

end JsxTagger
