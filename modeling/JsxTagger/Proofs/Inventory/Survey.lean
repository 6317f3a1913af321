import JsxTagger.Proofs.Instrument.Passing
import JsxTagger.Proofs.Inventory.Entered
import JsxTagger.Proofs.Text.Order

/-!
# What a survey makes

A survey visits files (`Visit`), and what it makes of a directory is said by `Surveyed`: the files are those
of its visits, they and the directories are exactly those that are to be found below it, and the context and
the display are told of each visit in turn. Each kind of entry has its lemma (`surveyed_nothing`,
`surveyed_file`, `surveyed_directory`), and `Surveyed.append` puts them together. A survey that ends early is
blocked by an entry that is too long or by a directory that lies too deep (`Blocked`).

A survey that gets to its end does what the scan does (`scanDirectory_of_survey`).
-/

namespace JsxTagger.Inventory

open Files

/-! ## Files that the scan comes to -/

/-- A file that the scan comes to: the names on the way to it, and the files as they were then. Only the log
file can have changed since the scan started. -/
structure Visit where
  names : List String
  seen : FileSystem

namespace Visit

variable (env : Environment) (settings : Settings) (v : Visit)

/-- The name of the file. -/
def name : String := v.names.getLast?.getD ""

/-- The path of the file. -/
def path : Path := settings.inputRoot.join ⟨.relative, v.names⟩

/-- The path of the file from the input root. -/
def rel : String := "/".intercalate v.names

/-- What comes of reading and parsing the file, if it is to be looked into. -/
def source? : Option (Except Trouble Syntax.SourceTree) :=
  if isEligible settings v.name then some (readSource env v.seen (v.path settings) v.rel) else none

/-- The file in the inventory. It holds nothing to instrument unless it could be read and parsed. -/
def node : FileNode :=
  let file : FileNode := { name := .str v.name, fullPath := .str v.rel, process := isEligible settings v.name }
  match v.source? env settings with
  | some (.ok tree) =>
    let analysis := Classify.analyzeTree tree
    { file with
      containsJsx := analysis.containsMarkup
      components := analysis.components
      containsRoot := analysis.mountCalls != 0 }
  | _ => file

/-- The path of the file, if it mounts an application. -/
def root? : Option String := if (v.node env settings).containsRoot then some v.rel else none

/-- The failure of a file that is to be looked into and cannot be read or parsed. -/
def failure? : Option (String × String) :=
  match v.source? env settings with
  | some (.error t) => some (v.rel, t.text)
  | _ => none

/-- What the display is told about the file. -/
def event : Progress.Event := .update (some 1) (some s!"Scanning {v.name}")

@[simp]
theorem node_name : (v.node env settings).name = .str v.name := by
  rw [node]
  split <;> rfl

@[simp]
theorem node_fullPath : (v.node env settings).fullPath = .str v.rel := by
  rw [node]
  split <;> rfl

end Visit

/-- Reading and parsing a path that is not too long yields a tree or a failure. -/
theorem readSource_cases (env : Environment) {fs : FileSystem} {p : Path} (h : fs.Fits p) (rel : String) :
    (∃ f, readSource env fs p rel = .error (.failure f)) ∨
      ∃ tree, readSource env fs p rel = .ok tree := by
  rcases readText_cases h with ⟨f, hread⟩ | ⟨text, hread⟩
  · exact .inl ⟨f, Except.bind_eq_error.mpr (.inl hread)⟩
  · cases hparse : env.parse text (some rel) with
    | error fault =>
      refine .inl ⟨.ofSyntaxFault fault, Except.bind_eq_error.mpr (.inr ⟨text, hread, ?_⟩)⟩
      rw [hparse]
      rfl
    | ok tree =>
      refine .inr ⟨tree, Except.bind_eq_ok.mpr ⟨text, hread, ?_⟩⟩
      rw [hparse]
      rfl

/-- Making the inventory's file only logs. -/
theorem scanFile_onlyLogs (env : Environment) (settings : Settings) (s : RunState) (p : Path) (rel : String) :
    s.OnlyLogs (scanFile env settings p rel s).2 := by
  rw [scanFile]
  dsimp only
  split
  · exact .refl s
  · split
    · exact (RunState.OnlyLogs.note s env _).trans (.of_files_eq rfl rfl rfl)
    · exact .refl s
    · refine RunState.OnlyLogs.trans ?_ (.note _ env _)
      split
      · exact .inContext s _
      · exact .refl s

/-- Making the inventory's file is visiting it. -/
theorem scanFile_eq (env : Environment) (settings : Settings) {s : RunState} {front : List String}
    {name : String} (hfits : s.files.Fits (settings.inputRoot.join ⟨.relative, front ++ [name]⟩)) :
    let v : Visit := ⟨front ++ [name], s.files⟩
    let scanned := scanFile env settings (v.path settings) v.rel s
    scanned.1 = v.node env settings ∧
      scanned.2.context = { s.context with
        rootFiles := s.context.rootFiles ++ (v.root? env settings).toList
        scanFailures := s.context.scanFailures ++ (v.failure? env settings).toList } ∧
      scanned.2.events = s.events := by
  intro v scanned
  have hname : (v.path settings).name = v.name := by
    simp [v, Visit.path, Visit.name, Path.join, Path.isAbsolute, Path.name]
  cases heligible : isEligible settings v.name with
  | false =>
    have hsource : v.source? env settings = none := by
      rw [Visit.source?, heligible]
      rfl
    have hscanned : scanned = ({ name := .str v.name, fullPath := .str v.rel }, s) := by
      simp only [scanned, scanFile, hname, heligible]
      rfl
    simp [hscanned, Visit.node, Visit.root?, Visit.failure?, hsource, heligible]
  | true =>
    rcases readSource_cases env hfits v.rel with ⟨f, hread⟩ | ⟨tree, hread⟩
    · have hsource : v.source? env settings = some (.error (.failure f)) := by
        rw [Visit.source?, heligible, ← hread]
        rfl
      have hscanned : scanned = ({ name := .str v.name, fullPath := .str v.rel, process := true },
          (s.note env (failureRecord v.rel f)).inContext (·.recordScanFailure v.rel f.message)) := by
        simp only [scanned, scanFile, hname, heligible]
        rw [show readSource env s.files (v.path settings) v.rel = .error (.failure f) from hread]
        rfl
      rw [hscanned]
      simp [Visit.node, Visit.root?, Visit.failure?, hsource, heligible, RunState.inContext, RunState.note,
        RunContext.recordScanFailure, Trouble.text]
    · have hsource : v.source? env settings = some (.ok tree) := by
        rw [Visit.source?, heligible, ← hread]
        rfl
      have hscanned : scanned = (v.node env settings,
          (if (v.node env settings).containsRoot then s.inContext (·.addRootFile v.rel) else s).note env
            (scannedRecord v.rel (v.node env settings))) := by
        simp only [scanned, scanFile, hname, heligible, Visit.node, hsource]
        rw [show readSource env s.files (v.path settings) v.rel = .ok tree from hread]
        rfl
      rw [hscanned, Visit.root?]
      cases (v.node env settings).containsRoot <;>
        simp [Visit.failure?, hsource, RunState.inContext, RunState.note, RunContext.addRootFile]

/-! ## Steps of a survey -/

section Steps

variable {env : Environment} {settings : Settings}
  {enter : Path → Location → List String → SurveyM (List ProjectNode)} {dir : Path} {place : Location}
  {rel : List String} {name : String} {names : List String} {s : RunState}

theorem surveyEntries_refused {fault : Fault} (hshown : isHidden name = false)
    (hrefusal : refusal? s.files (dir.join ⟨.relative, [name]⟩) = some fault) :
    (surveyEntries env settings enter dir place rel (name :: names)).run.run s = (.error fault, s) := by
  rw [surveyEntries, hshown]
  refine (run_get_bind _ s).trans ?_
  rw [hrefusal]
  rfl

/-- An entry that is not refused is dealt with by what it means. -/
theorem surveyEntries_cons
    (hlook : isHidden name = false → refusal? s.files (dir.join ⟨.relative, [name]⟩) = none) :
    let path := dir.join ⟨.relative, [name]⟩
    let scanned := scanFile env settings path ("/".intercalate (rel ++ [name])) s
    let rest := (surveyEntries env settings enter dir place rel names).run.run
    (surveyEntries env settings enter dir place rel (name :: names)).run.run s =
      match classify settings s.files dir place name with
      | .nothing => rest s
      | .directory =>
        match (enter path (place ++ [name]) (rel ++ [name])).run.run s with
        | (.error fault, s) => (.error fault, s)
        | (.ok children, s) => ((rest s).1.map (.directory (.str name) children :: ·), (rest s).2)
      | .file =>
        let s := scanned.2.report (.update (some 1) (some s!"Scanning {name}"))
        ((rest s).1.map (.file scanned.1 :: ·), (rest s).2) := by
  intro path scanned rest
  -- a hidden entry means nothing, and one that is shown is not refused
  have hgo : (surveyEntries env settings enter dir place rel (name :: names)).run.run s =
      (match classify settings s.files dir place name with
      | .nothing => surveyEntries env settings enter dir place rel names
      | .directory => do
        let children ← enter path (place ++ [name]) (rel ++ [name])
        let nodes ← surveyEntries env settings enter dir place rel names
        return .directory (.str name) children :: nodes
      | .file => do
        let file ← modifyGet (scanFile env settings path ("/".intercalate (rel ++ [name])))
        modify (·.report (.update (some 1) (some s!"Scanning {name}")))
        let nodes ← surveyEntries env settings enter dir place rel names
        return .file file :: nodes : SurveyM _).run.run s := by
    rw [surveyEntries]
    cases hshown : isHidden name with
    | true => rfl
    | false =>
      refine (run_get_bind _ s).trans ?_
      rw [hlook hshown]
      rfl
  have hmap (f : List ProjectNode → List ProjectNode) (s : RunState) :
      (do
        let nodes ← surveyEntries env settings enter dir place rel names
        return f nodes : SurveyM _).run.run s = ((rest s).1.map f, (rest s).2) := by
    rw [run_bind]
    dsimp only [rest]
    rcases (surveyEntries env settings enter dir place rel names).run.run s with ⟨_ | nodes, after⟩
    · rfl
    · rfl
  rw [hgo]
  cases classify settings s.files dir place name with
  | nothing => rfl
  | directory =>
    dsimp only
    rw [run_bind]
    rcases (enter path (place ++ [name]) (rel ++ [name])).run.run s with ⟨_ | children, after⟩
    · rfl
    · exact hmap _ after
  | file => exact hmap _ _

end Steps

/-! ## What a survey comes to -/

/-- What lies below names, under one of some others. -/
def Below (rel names full : List String) : Prop := ∃ name ∈ names, ∃ more, full = rel ++ name :: more

section Below

variable {rel names full : List String} {name : String}

theorem below_nil : ¬ Below rel [] full := by
  rintro ⟨_, hmem, -⟩
  cases hmem

theorem below_cons : Below rel (name :: names) full ↔ Below rel [name] full ∨ Below rel names full := by
  simp [Below]

theorem below_singleton : Below rel [name] full ↔ ∃ more, full = rel ++ name :: more := by
  simp [Below]

end Below

/-- The nodes of one level of an inventory: those at its top, or those in one of its directories. -/
inductive Level (inv : List ProjectNode) : List ProjectNode → Prop where
  | top : Level inv inv
  | inside {ns children : List ProjectNode} {name : Json} (h : Level inv ns)
      (hmem : .directory name children ∈ ns) : Level inv children

/-- Nodes are in the order of their names. -/
def InOrder (ns : List ProjectNode) : Prop :=
  (ns.map nameOf).Pairwise fun a b => Text.ordered a b = true

/-- A level is the top or lies in a directory at the top. -/
theorem Level.cases_top {inv ns : List ProjectNode} (h : Level inv ns) :
    ns = inv ∨ ∃ name children, .directory name children ∈ inv ∧ Level children ns := by
  induction h with
  | top => exact .inl rfl
  | inside _ hmem ih =>
    rcases ih with rfl | ⟨name, children, htop, hlevel⟩
    · exact .inr ⟨_, _, hmem, .top⟩
    · exact .inr ⟨name, children, htop, .inside hlevel hmem⟩

/-- Why a survey ends early, where `bound` calls can be made inside each other. -/
inductive Blocked (settings : Settings) (fs : FileSystem) (place : Location) (bound : Nat) : Fault → Prop where
  /-- An entry that is not hidden, in a directory that is entered, is too long to be looked at. -/
  | tooLong {names : List String} {name : String} (hnames : Entered settings fs place names)
      (hmem : name ∈ fs.namesIn (place ++ names)) (hshown : isHidden name = false)
      (hlong : ¬ fs.Fits (settings.inputRoot.join ⟨.relative, names ++ [name]⟩)) :
      Blocked settings fs place bound
        (Refusal.nameTooLong.fault (settings.inputRoot.join ⟨.relative, names ++ [name]⟩).text)
  /-- A directory that is entered lies too deep. -/
  | tooDeep {names : List String} (hnames : Entered settings fs place names) (hdeep : bound ≤ names.length) :
      Blocked settings fs place bound .tooDeep

/-- What a survey of the entries with the given names makes, in the directory at `rel`. -/
structure Surveyed (env : Environment) (settings : Settings) (s : RunState) (place : Location) (bound : Nat)
    (rel names : List String) (before : RunState) (nodes : List ProjectNode) (visits : List Visit) (after : RunState) : Prop where
  steady : s.Steady after
  onward : before.OnlyLogs after
  context : after.context = { before.context with
    rootFiles := before.context.rootFiles ++ visits.filterMap (·.root? env settings)
    scanFailures := before.context.scanFailures ++ visits.filterMap (·.failure? env settings) }
  events : after.events = before.events ++ visits.map Visit.event
  seen : ∀ v ∈ visits, ∃ now : RunState, s.OnlyLogs now ∧ now.OnlyLogs after ∧ v.seen = now.files
  files : filesAt rel nodes = visits.map fun v => (v.names, v.node env settings)
  directories : ∀ full, full ∈ directoriesAt rel nodes ↔
    Below rel names full ∧ Entered settings s.files place full
  listed : ∀ full, full ∈ visits.map Visit.names ↔ Below rel names full ∧ Listed settings s.files place full
  top : (nodes.map nameOf).Sublist names
  inside : ∀ name children, .directory name children ∈ nodes → ∀ level, Level children level → InOrder level
  fits : ∀ front name, Below rel names (front ++ [name]) → Entered settings s.files place front →
    name ∈ s.files.namesIn (place ++ front) → isHidden name = false →
    s.files.Fits (settings.inputRoot.join ⟨.relative, front ++ [name]⟩)
  shallow : ∀ full, Below rel names full → Entered settings s.files place full → full.length < bound

/-- How a survey of entries with the given names ends. -/
def Outcome (env : Environment) (settings : Settings) (s : RunState) (place : Location) (bound : Nat)
    (rel names : List String) (before : RunState) : Except Fault (List ProjectNode) × RunState → Prop
  | (.ok nodes, after) => ∃ visits, Surveyed env settings s place bound rel names before nodes visits after
  | (.error fault, _) => Blocked settings s.files place bound fault

/-- How a survey of the directory at `rel` ends. -/
def DirectoryOutcome (env : Environment) (settings : Settings) (s : RunState) (place : Location) (bound : Nat)
    (rel : List String) (before : RunState) : Except Fault (List ProjectNode) × RunState → Prop
  | (.ok nodes, after) => rel.length < bound ∧ ∃ names visits,
    (∀ name, name ∈ names ↔ name ∈ s.files.namesIn (place ++ rel)) ∧
      names.Pairwise (fun a b => Text.ordered a b = true) ∧
      Surveyed env settings s place bound rel names before nodes visits after
  | (.error fault, _) => Blocked settings s.files place bound fault

section Surveying

variable {env : Environment} {settings : Settings} {s before mid after : RunState} {place : Location}
  {bound : Nat} {rel names : List String} {name : String}

namespace Surveyed

theorem nil (hbefore : s.Steady before) : Surveyed env settings s place bound rel [] before [] [] before where
  steady := hbefore
  onward := .refl before
  context := by simp
  events := by simp
  seen := by simp
  files := by simp [filesAt]
  directories full := by simp [directoriesAt, below_nil]
  listed full := by simp [below_nil]
  top := .slnil
  inside := by simp
  fits front name hbelow := absurd hbelow below_nil
  shallow full hbelow := absurd hbelow below_nil

/-- The entries after the first are surveyed where the first one left off. -/
theorem append {ms ns : List ProjectNode} {vs ws : List Visit}
    (h : Surveyed env settings s place bound rel [name] before ms vs mid)
    (h' : Surveyed env settings s place bound rel names mid ns ws after) :
    Surveyed env settings s place bound rel (name :: names) before (ms ++ ns) (vs ++ ws) after where
  steady := h'.steady
  onward := h.onward.trans h'.onward
  context := by simp [h'.context, h.context]
  events := by simp [h'.events, h.events]
  seen := List.forall_mem_append.mpr ⟨fun v hv =>
    (h.seen v hv).imp fun _ ⟨hnow, honward, hseen⟩ => ⟨hnow, honward.trans h'.onward, hseen⟩, h'.seen⟩
  files := by rw [filesAt_append, h.files, h'.files, List.map_append]
  directories full := by
    rw [directoriesAt_append, List.mem_append, h.directories, h'.directories, ← or_and_right, ← below_cons]
  listed full := by
    rw [List.map_append, List.mem_append, h.listed, h'.listed, ← or_and_right, ← below_cons]
  top := by
    rw [List.map_append]
    exact h.top.append h'.top
  inside other children hmem :=
    (List.mem_append.mp hmem).elim (h.inside other children) (h'.inside other children)
  fits front last hbelow :=
    (below_cons.mp hbelow).elim (h.fits front last) (h'.fits front last)
  shallow full hbelow := (below_cons.mp hbelow).elim (h.shallow full) (h'.shallow full)

end Surveyed

/-- A survey that gets past its first entry ends like that of the rest. -/
theorem Outcome.cons {ms : List ProjectNode} {vs : List Visit}
    {result : Except Fault (List ProjectNode) × RunState}
    (h : Surveyed env settings s place bound rel [name] before ms vs mid)
    (h' : Outcome env settings s place bound rel names mid result) :
    Outcome env settings s place bound rel (name :: names) before (result.1.map (ms ++ ·), result.2) := by
  obtain ⟨_ | ns, after⟩ := result
  · exact h'
  · obtain ⟨ws, hrest⟩ := h'
    exact ⟨vs ++ ws, h.append hrest⟩

/-! ### Single entries -/

section Entry

variable (hrel : Entered settings s.files place rel)
  (hdir : s.files.locate (settings.inputRoot.join ⟨.relative, rel⟩) = .ok (place ++ rel))

theorem below_singleton_cases {full : List String} (h : Below rel [name] full) :
    full = rel ++ [name] ∨ ∃ next more, full = rel ++ [name] ++ next :: more := by
  obtain ⟨more, rfl⟩ := below_singleton.mp h
  cases more with
  | nil => exact .inl rfl
  | cons next more => exact .inr ⟨next, more, by simp⟩

/-- Only below a directory that is entered is anything entered. -/
theorem entered_of_below {full : List String} (hbelow : Below rel [name] full)
    (hfull : Entered settings s.files place full) : Entered settings s.files place (rel ++ [name]) := by
  obtain ⟨more, rfl⟩ := below_singleton.mp hbelow
  exact hfull.of_prefix (by simp)

/-- Only below a directory that is entered is anything listed. -/
theorem listed_of_below {full : List String} (hbelow : Below rel [name] full)
    (hfull : Listed settings s.files place full) :
    full = rel ++ [name] ∨ Entered settings s.files place (rel ++ [name]) := by
  obtain ⟨more, rfl⟩ := below_singleton.mp hbelow
  cases more with
  | nil => exact .inl rfl
  | cons next more => exact .inr (hfull.of_cons (List.cons_ne_nil next more))

/-- An entry that is no directory to be entered can be looked at. -/
theorem fits_of_not_entered (hnot : ¬ Entered settings s.files place (rel ++ [name]))
    (hfits : isHidden name = false → s.files.Fits (settings.inputRoot.join ⟨.relative, rel ++ [name]⟩))
    {front : List String} {last : String} (hbelow : Below rel [name] (front ++ [last]))
    (hfront : Entered settings s.files place front) (hshown : isHidden last = false) :
    s.files.Fits (settings.inputRoot.join ⟨.relative, front ++ [last]⟩) := by
  rcases below_singleton_cases hbelow with heq | ⟨next, more, heq⟩
  · obtain ⟨rfl, hlast⟩ := List.append_inj' heq rfl
    cases hlast
    exact hfits hshown
  · refine absurd (hfront.of_prefix ?_) hnot
    obtain ⟨inner, end_, hmore⟩ := (List.eq_nil_or_concat (next :: more)).resolve_left (List.cons_ne_nil next more)
    rw [hmore, List.concat_eq_append, ← List.append_assoc] at heq
    rw [(List.append_inj' heq rfl).1]
    exact List.prefix_append _ _

include hrel hdir

/-- An entry that is left out leaves no trace. -/
theorem surveyed_nothing (hroot : s.files.get? place = some .directory) (hbefore : s.Steady before)
    (hfits : isHidden name = false → s.files.Fits (settings.inputRoot.join ⟨.relative, rel ++ [name]⟩))
    (hfound : classify settings s.files (settings.inputRoot.join ⟨.relative, rel⟩) (place ++ rel) name = .nothing) :
    Surveyed env settings s place bound rel [name] before [] [] before := by
  have hdirectory : ¬ Entered settings s.files place (rel ++ [name]) := by
    rw [← classify_iff_entered hrel hdir (hrel.get? hroot) hfits, hfound]
    nofun
  have hlisted : ¬ Listed settings s.files place (rel ++ [name]) := by
    rw [← classify_iff_listed hrel, hfound]
    nofun
  refine ⟨hbefore, .refl before, by simp, by simp, by simp, by simp [filesAt], fun full => ?_, fun full => ?_,
    .cons name .slnil,
    by simp, fun front last hbelow hfront _ hshown => fits_of_not_entered hdirectory hfits hbelow hfront hshown,
    fun full hbelow hfull => absurd (entered_of_below hbelow hfull) hdirectory⟩
  · rw [directoriesAt, iff_false_left List.not_mem_nil]
    rintro ⟨hbelow, hfull⟩
    exact hdirectory (entered_of_below hbelow hfull)
  · rw [List.map_nil, iff_false_left List.not_mem_nil]
    rintro ⟨hbelow, hfull⟩
    rcases listed_of_below hbelow hfull with rfl | hentered
    · exact hlisted hfull
    · exact hdirectory hentered

/-- A file is visited. -/
theorem surveyed_file (hlog : s.LogsTo s.files) (hroot : s.files.get? place = some .directory)
    (hbefore : s.Steady before)
    (hfits : isHidden name = false → s.files.Fits (settings.inputRoot.join ⟨.relative, rel ++ [name]⟩))
    (hfound : classify settings s.files (settings.inputRoot.join ⟨.relative, rel⟩) (place ++ rel) name = .file) :
    let v : Visit := ⟨rel ++ [name], before.files⟩
    let scanned := scanFile env settings (v.path settings) v.rel before
    Surveyed env settings s place bound rel [name] before [.file scanned.1] [v] (scanned.2.report v.event) := by
  intro v scanned
  have hdirectory : ¬ Entered settings s.files place (rel ++ [name]) := by
    rw [← classify_iff_entered hrel hdir (hrel.get? hroot) hfits, hfound]
    nofun
  have hlisted : Listed settings s.files place (rel ++ [name]) := (classify_iff_listed hrel).mp hfound
  have hshown : isHidden name = false := (listed_concat.mp hlisted).2.1
  obtain ⟨hnode, hcontext, hevents⟩ := scanFile_eq env settings ((hbefore.quiet.fits_iff hlog).mpr (hfits hshown))
  have hsteady : s.Steady (scanned.2.report v.event) :=
    (scanFile_steady hlog env settings hbefore (v.path settings) v.rel).1.of_files_eq rfl rfl rfl
  have honward : before.OnlyLogs (scanned.2.report v.event) :=
    (scanFile_onlyLogs env settings before (v.path settings) v.rel).trans (.report _ _)
  have hname : v.name = name := by simp [v, Visit.name]
  have hnameOf : nameOf (.file scanned.1) = name := by
    rw [nameOf, hnode, Visit.node_name, hname]
    rfl
  refine ⟨hsteady, honward, ?_, ?_, ?_, ?_, fun full => ?_, fun full => ?_, ?_, by simp,
    fun front last hbelow hfront _ hshown => fits_of_not_entered hdirectory hfits hbelow hfront hshown,
    fun full hbelow hfull => absurd (entered_of_below hbelow hfull) hdirectory⟩
  · rw [RunState.report, hcontext]
    cases hroot : v.root? env settings <;> cases hfailure : v.failure? env settings <;> simp [hroot, hfailure]
  · rw [RunState.report, hevents]
    rfl
  · exact List.forall_mem_singleton.mpr ⟨before, hbefore.quiet, honward, rfl⟩
  · rw [filesAt, filesAt, hnode, Visit.node_name, hname]
    rfl
  · rw [directoriesAt, directoriesAt, iff_false_left List.not_mem_nil]
    rintro ⟨hbelow, hfull⟩
    exact hdirectory (entered_of_below hbelow hfull)
  · rw [List.map_singleton, List.mem_singleton]
    constructor
    · rintro rfl
      exact ⟨below_singleton.mpr ⟨[], rfl⟩, hlisted⟩
    · rintro ⟨hbelow, hfull⟩
      exact (listed_of_below hbelow hfull).resolve_right hdirectory
  · rw [List.map_singleton, hnameOf]

/-- A directory is entered. -/
theorem surveyed_directory (hroot : s.files.get? place = some .directory)
    (hfits : isHidden name = false → s.files.Fits (settings.inputRoot.join ⟨.relative, rel ++ [name]⟩))
    (hfound : classify settings s.files (settings.inputRoot.join ⟨.relative, rel⟩) (place ++ rel) name = .directory)
    {children : List ProjectNode} {visits : List Visit} (hbound : (rel ++ [name]).length < bound)
    (hnames : ∀ name', name' ∈ names ↔ name' ∈ s.files.namesIn (place ++ (rel ++ [name])))
    (hsorted : names.Pairwise fun a b => Text.ordered a b = true)
    (hinside : s.files.locate (settings.inputRoot.join ⟨.relative, rel ++ [name]⟩) = .ok (place ++ (rel ++ [name])))
    (h : Surveyed env settings s place bound (rel ++ [name]) names before children visits after) :
    Surveyed env settings s place bound rel [name] before [.directory (.str name) children] visits after := by
  have hentered : Entered settings s.files place (rel ++ [name]) :=
    (classify_iff_entered hrel hdir (hrel.get? hroot) hfits).mp hfound
  have hlisted : ¬ Listed settings s.files place (rel ++ [name]) := by
    rw [← classify_iff_listed hrel, hfound]
    nofun
  -- what is entered or listed below the directory is below one of the names in it
  have hbelow {next : String} {more : List String} (hnext : next ∈ s.files.namesIn (place ++ (rel ++ [name]))) :
      Below (rel ++ [name]) names (rel ++ [name] ++ next :: more) := ⟨next, (hnames next).mpr hnext, more, rfl⟩
  have habove {full : List String} (hfull : Below (rel ++ [name]) names full) : Below rel [name] full := by
    obtain ⟨next, -, more, rfl⟩ := hfull
    exact below_singleton.mpr ⟨next :: more, by simp⟩
  refine ⟨h.steady, h.onward, h.context, h.events, h.seen, ?_, fun full => ?_, fun full => ?_, ?_, ?_, ?_, ?_⟩
  · rw [filesAt, filesAt, List.append_nil]
    exact h.files
  · rw [directoriesAt, directoriesAt, List.append_nil, List.mem_cons]
    rw [show Json.plain (.str name) = name from rfl, h.directories]
    constructor
    · rintro (rfl | ⟨hfull, hin⟩)
      · exact ⟨below_singleton.mpr ⟨[], rfl⟩, hentered⟩
      · exact ⟨habove hfull, hin⟩
    · rintro ⟨hfull, hin⟩
      rcases below_singleton_cases hfull with rfl | ⟨next, more, rfl⟩
      · exact .inl rfl
      · exact .inr ⟨hbelow hin.mem_namesIn, hin⟩
  · rw [h.listed]
    constructor
    · rintro ⟨hfull, hin⟩
      exact ⟨habove hfull, hin⟩
    · rintro ⟨hfull, hin⟩
      rcases below_singleton_cases hfull with rfl | ⟨next, more, rfl⟩
      · exact absurd hin hlisted
      · exact ⟨hbelow (hin.mem_namesIn hinside), hin⟩
  · exact List.Sublist.refl _
  · intro other inner hmem level hlevel
    obtain ⟨-, rfl⟩ := ProjectNode.directory.inj (List.mem_singleton.mp hmem)
    rcases hlevel.cases_top with rfl | ⟨name', children', htop, hlevel⟩
    · exact hsorted.sublist h.top
    · exact h.inside name' children' htop level hlevel
  · intro front last hfull hfront hlast hshown
    rcases below_singleton_cases hfull with heq | ⟨next, more, heq⟩
    · obtain ⟨rfl, hname⟩ := List.append_inj' heq rfl
      cases hname
      exact hfits hshown
    · refine h.fits front last ?_ hfront hlast hshown
      rw [heq]
      refine hbelow ?_
      rcases List.eq_nil_or_concat more with rfl | ⟨inner, end_, rfl⟩
      · obtain ⟨rfl, hname⟩ := List.append_inj' heq rfl
        cases hname
        exact hlast
      · rw [List.concat_eq_append, ← List.cons_append, ← List.append_assoc] at heq
        obtain ⟨rfl, -⟩ := List.append_inj' heq rfl
        exact hfront.mem_namesIn
  · intro full hfull hin
    rcases below_singleton_cases hfull with rfl | ⟨next, more, rfl⟩
    · exact hbound
    · exact h.shallow _ (hbelow hin.mem_namesIn) hin

/-- A directory that is entered is where its names say. -/
theorem locate_of_entered (hroot : s.files.get? place = some .directory)
    (hfits : isHidden name = false → s.files.Fits (settings.inputRoot.join ⟨.relative, rel ++ [name]⟩))
    (hentered : Entered settings s.files place (rel ++ [name])) :
    s.files.locate (settings.inputRoot.join ⟨.relative, rel ++ [name]⟩) = .ok (place ++ (rel ++ [name])) := by
  obtain ⟨-, hentry, hshown, -⟩ := entered_concat.mp hentered
  rw [← join_entry] at hfits ⊢
  rw [← List.append_assoc]
  refine FileSystem.locate_entry hdir (hrel.get? hroot) (ne_up_of_isHidden hshown) (fun target => ?_) (hfits hshown)
  rw [hentry]
  nofun

end Entry

/-! ### Whole directories -/

section Directory

variable (hlog : s.LogsTo s.files) (hroot : s.files.get? place = some .directory)

include hlog hroot

/-- Entries are surveyed one after the other, up to the first that blocks the survey. -/
theorem surveyEntries_outcome {enter : Path → Location → List String → SurveyM (List ProjectNode)}
    (hrel : Entered settings s.files place rel)
    (hdir : s.files.locate (settings.inputRoot.join ⟨.relative, rel⟩) = .ok (place ++ rel))
    (henter : ∀ name before, s.Steady before → Entered settings s.files place (rel ++ [name]) →
      s.files.locate (settings.inputRoot.join ⟨.relative, rel ++ [name]⟩) = .ok (place ++ (rel ++ [name])) →
      DirectoryOutcome env settings s place bound (rel ++ [name]) before
        ((enter (settings.inputRoot.join ⟨.relative, rel ++ [name]⟩) (place ++ (rel ++ [name]))
          (rel ++ [name])).run.run before))
    (hnames : ∀ name ∈ names, name ∈ s.files.namesIn (place ++ rel)) (hbefore : s.Steady before) :
    Outcome env settings s place bound rel names before
      ((surveyEntries env settings enter (settings.inputRoot.join ⟨.relative, rel⟩) (place ++ rel) rel
        names).run.run before) := by
  induction names generalizing before with
  | nil => exact ⟨[], .nil hbefore⟩
  | cons name names ih =>
    obtain ⟨hname, hrest⟩ := List.forall_mem_cons.mp hnames
    -- an entry that is shown and too long for the system ends the survey
    by_cases hlong : isHidden name = false ∧
        ¬ s.files.Fits (settings.inputRoot.join ⟨.relative, rel ++ [name]⟩)
    · have hrefusal := refusal?_eq_some.mpr ⟨hlong.2, rfl⟩
      rw [← hbefore.quiet.refusal?_eq hlog, ← join_entry] at hrefusal
      rw [surveyEntries_refused hlong.1 hrefusal, join_entry]
      exact .tooLong hrel hname hlong.1 hlong.2
    · have hfits : isHidden name = false →
          s.files.Fits (settings.inputRoot.join ⟨.relative, rel ++ [name]⟩) := by
        intro hshown
        by_contra hnot
        exact hlong ⟨hshown, hnot⟩
      have hlook (hshown : isHidden name = false) : refusal? before.files
          ((settings.inputRoot.join ⟨.relative, rel⟩).join ⟨.relative, [name]⟩) = none := by
        rw [hbefore.quiet.refusal?_eq hlog, join_entry]
        exact refusal?_eq_none.mpr (hfits hshown)
      rw [surveyEntries_cons hlook, hbefore.quiet.classify_eq hlog]
      cases hfound : classify settings s.files (settings.inputRoot.join ⟨.relative, rel⟩) (place ++ rel) name with
      | nothing =>
        have hnothing := Outcome.cons (surveyed_nothing hrel hdir hroot hbefore hfits hfound) (ih hrest hbefore)
        dsimp only
        generalize (surveyEntries env settings enter (settings.inputRoot.join ⟨.relative, rel⟩) (place ++ rel) rel
          names).run.run before = result at hnothing
        rcases result with ⟨_ | nodes, after⟩
        · exact hnothing
        · exact hnothing
      | directory =>
        have hentered := (classify_iff_entered hrel hdir (hrel.get? hroot) hfits).mp hfound
        have hlocate := locate_of_entered hrel hdir hroot hfits hentered
        -- and so does what is in a directory, if it cannot be surveyed
        have hinner := henter name before hbefore hentered hlocate
        dsimp only
        rw [join_entry, List.append_assoc]
        generalize (enter (settings.inputRoot.join ⟨.relative, rel ++ [name]⟩) (place ++ (rel ++ [name]))
          (rel ++ [name])).run.run before = result at hinner
        rcases result with ⟨_ | children, mid⟩
        · exact hinner
        · obtain ⟨hbound, inside, visits, hinside, hsorted, hsurveyed⟩ := hinner
          exact Outcome.cons (surveyed_directory hrel hdir hroot hfits hfound hbound hinside hsorted hlocate hsurveyed)
            (ih hrest hsurveyed.steady)
      | file =>
        have hfile : Surveyed env settings s place bound rel [name] before _ _ _ :=
          surveyed_file hrel hdir hlog hroot hbefore hfits hfound
        have hevent : (Visit.mk (rel ++ [name]) before.files).event =
            .update (some 1) (some s!"Scanning {name}") := by
          simp [Visit.event, Visit.name]
        rw [hevent] at hfile
        dsimp only
        rw [join_entry]
        exact Outcome.cons hfile (ih hrest hfile.steady)

/-- A survey of a directory goes through all its entries, unless it lies too deep. -/
theorem surveyDirectory_outcome (depth : Nat) (hdepth : rel.length + depth = bound)
    (hrel : Entered settings s.files place rel)
    (hdir : s.files.locate (settings.inputRoot.join ⟨.relative, rel⟩) = .ok (place ++ rel))
    (hbefore : s.Steady before) :
    DirectoryOutcome env settings s place bound rel before
      ((surveyDirectory env settings depth (settings.inputRoot.join ⟨.relative, rel⟩) (place ++ rel)
        rel).run.run before) := by
  induction depth generalizing rel before with
  | zero => exact .tooDeep hrel (by omega)
  | succ depth ih =>
    have hmem := hbefore.quiet.mem_namesIn_iff hlog (place ++ rel)
    have houtcome : Outcome env settings s place bound rel (before.files.namesIn (place ++ rel)) before
        ((surveyDirectory env settings (depth + 1) (settings.inputRoot.join ⟨.relative, rel⟩) (place ++ rel)
          rel).run.run before) := by
      rw [surveyDirectory, run_get_bind]
      refine surveyEntries_outcome hlog hroot hrel hdir ?_ (fun name hname => (hmem name).mp hname) hbefore
      intro name before hbefore hentered hlocate
      exact ih (by simp; omega) hentered hlocate hbefore
    generalize (surveyDirectory env settings (depth + 1) (settings.inputRoot.join ⟨.relative, rel⟩)
      (place ++ rel) rel).run.run before = result at houtcome
    rcases result with ⟨_ | nodes, after⟩
    · exact houtcome
    · obtain ⟨visits, hsurveyed⟩ := houtcome
      exact ⟨by omega, _, visits, hmem, Text.pairwise_sorted _, hsurveyed⟩

end Directory

end Surveying

/-! ## Surveys and scans -/

/-- Directories lie inside each other at most so many times if their names from the root are so many. -/
theorem levels_le_iff (rel : List String) {ns : List ProjectNode} {n : Nat} :
    levels ns ≤ n ↔ ∀ full ∈ directoriesAt rel ns, full.length ≤ rel.length + n := by
  induction rel, ns using directoriesAt.induct generalizing n with
  | case1 rel => simp [levels, directoriesAt]
  | case2 rel f ns ih => rw [levels, levelsAt, Nat.zero_max, directoriesAt, ih]
  | case3 rel name children ns ihChildren ih =>
    rw [levels, levelsAt, directoriesAt, List.cons_append, List.forall_mem_cons, List.forall_mem_append, ← ih, Nat.max_le,
      ← and_assoc]
    refine and_congr_left' ?_
    cases n with
    | zero => simp
    | succ n =>
      rw [Nat.add_le_add_iff_right, ihChildren]
      simp only [List.length_append, List.length_singleton]
      constructor
      · exact fun h => ⟨by omega, fun full hfull => by have := h full hfull; omega⟩
      · exact fun h full hfull => by have := h.2 full hfull; omega

section Scanning

variable {env : Environment} {settings : Settings} {dir : Path} {place : Location} {rel : List String}
  {s s' : RunState} {nodes : List ProjectNode}

/-- A result in which something is put in front comes from a result. -/
theorem exists_of_map_eq_ok {f : List ProjectNode → List ProjectNode}
    {outcome : Except Fault (List ProjectNode) × RunState}
    (h : (outcome.1.map f, outcome.2) = (.ok nodes, s')) : ∃ ns, outcome = (.ok ns, s') ∧ f ns = nodes := by
  rcases outcome with ⟨_ | ns, after⟩
  · cases h
  · cases h
    exact ⟨ns, rfl, rfl⟩

/-- A survey of entries that gets to its end does what the scan does. -/
theorem scanEntries_of_survey {enter : Path → Location → List String → SurveyM (List ProjectNode)}
    {enter' : Path → Location → List String → RunState → List ProjectNode × RunState} {depth : Nat}
    (henter : ∀ dir place rel s nodes s', (enter dir place rel).run.run s = (.ok nodes, s') →
      levels nodes < depth → enter' dir place rel s = (nodes, s'))
    {names : List String}
    (h : (surveyEntries env settings enter dir place rel names).run.run s = (.ok nodes, s'))
    (hlevels : levels nodes ≤ depth) :
    scanEntries env settings enter' dir place rel names s = (nodes, s') := by
  induction names generalizing s nodes with
  | nil =>
    cases h
    rfl
  | cons name names ih =>
    -- an entry whose path the system refuses would have ended the survey
    have hlook (hshown : isHidden name = false) : refusal? s.files (dir.join ⟨.relative, [name]⟩) = none := by
      cases hrefusal : refusal? s.files (dir.join ⟨.relative, [name]⟩) with
      | none => rfl
      | some fault =>
        rw [surveyEntries_refused hshown hrefusal] at h
        cases h
    rw [surveyEntries_cons hlook] at h
    rw [scanEntries]
    dsimp only at h ⊢
    cases hfound : classify settings s.files dir place name with
    | nothing =>
      rw [hfound] at h
      exact ih h hlevels
    | directory =>
      rw [hfound] at h
      dsimp only at h ⊢
      rcases hinner : (enter (dir.join ⟨.relative, [name]⟩) (place ++ [name]) (rel ++ [name])).run.run s with
        ⟨_ | children, mid⟩
      · rw [hinner] at h
        cases h
      · rw [hinner] at h
        obtain ⟨ns, hrest, rfl⟩ := exists_of_map_eq_ok h
        rw [levels, Nat.max_le] at hlevels
        rw [henter _ _ _ _ _ _ hinner hlevels.1]
        dsimp only
        rw [ih hrest hlevels.2]
    | file =>
      rw [hfound] at h
      dsimp only at h ⊢
      obtain ⟨ns, hrest, rfl⟩ := exists_of_map_eq_ok h
      rw [ih hrest (by simpa only [levels, levelsAt, Nat.zero_max] using hlevels)]

/-- A survey of a directory that gets to its end does what the scan does, which goes down far enough. -/
theorem scanDirectory_of_survey {depth depth' : Nat}
    (h : (surveyDirectory env settings depth dir place rel).run.run s = (.ok nodes, s'))
    (hlevels : levels nodes < depth') : scanDirectory env settings depth' dir place rel s = (nodes, s') := by
  induction depth generalizing depth' dir place rel s nodes s' with
  | zero => cases h
  | succ depth ih =>
    cases depth' with
    | zero => omega
    | succ depth' =>
      rw [surveyDirectory, run_get_bind] at h
      refine scanEntries_of_survey ?_ h (Nat.lt_succ_iff.mp hlevels)
      exact fun dir place rel s nodes s' hrun hbelow => ih hrun hbelow

end Scanning

end JsxTagger.Inventory
