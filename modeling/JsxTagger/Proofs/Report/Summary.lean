import JsxTagger.Proofs.Console.Verbatim
import JsxTagger.Proofs.Files.Access
import JsxTagger.Report.Print

/-!
# What the summary names

The summary of a run names the files with which something is the matter, and those in which an application is mounted.
Their paths and the messages are put into marked-up text as they are. So a line names its file exactly if there is no
mark in what it says (`names_files_iff`): a path such as `pages/[id].js` loses its brackets and what is between them
(`bracketed_not_named`), and one that looks like a closing tag ends the program.
-/

namespace JsxTagger.Report

open Console

/-! ## Printing line by line -/

theorem forIn_eq_forM {α : Type} (f : α → PrintM Unit) (xs : List α) :
    (forIn xs PUnit.unit fun x _ => do
      f x
      pure (ForInStep.yield PUnit.unit)) = forM xs f := by
  induction xs with
  | nil => rfl
  | cons x xs ih => simp only [List.forIn_cons, List.forM_cons, bind_assoc, pure_bind, ih]

theorem forIn_if_eq_forM {α : Type} (p : α → Bool) (f : α → PrintM Unit) (xs : List α) :
    (forIn xs PUnit.unit fun x _ =>
      if p x = true then do
        f x
        pure (ForInStep.yield PUnit.unit)
      else pure (ForInStep.yield PUnit.unit)) = forM (xs.filter p) f := by
  induction xs with
  | nil => rfl
  | cons x xs ih =>
    rw [List.forIn_cons, List.filter_cons]
    split
    · simp only [List.forM_cons, bind_assoc, pure_bind, ih]
    · rw [pure_bind]
      exact ih

/-- The marked-up lines that name files. -/
def fileTexts (r : RunReport) : List String :=
  (if r.rootFiles.isEmpty then []
    else "\n[bold]Application root mounted in:[/bold]" :: r.rootFiles.map fun path => s!"  [green]{path}[/green]") ++
  r.scanFailures.map (fun (path, message) => s!"[red]Scan failed:[/red] {path}: {message}") ++
  r.failed.map fun o => s!"[red]Emit failed:[/red] {o.path}: {o.message}"

/-- The marked-up lines with warnings. -/
def warningTexts (r : RunReport) : List String :=
  (r.outcomes.filter fun o => o.status = .instrumented && !o.message.isEmpty).map fun o =>
    s!"[yellow]Warning:[/yellow] {o.path}: {o.message}"

/-- The summary is the table and marked-up lines. -/
theorem printSummary_eq (r : RunReport) (fileCount : Nat) :
    printSummary r fileCount =
      (forM (table r fileCount).lines printPlain >>= fun _ => forM (fileTexts r ++ warningTexts r) print) := by
  have hwarnings := forIn_if_eq_forM (fun o : FileOutcome => o.status = .instrumented && !o.message.isEmpty)
    (fun o => print s!"[yellow]Warning:[/yellow] {o.path}: {o.message}") r.outcomes
  have hdone (m : PrintM Unit) : (m >>= fun _ => pure ()) = m := bind_pure m
  simp only [printSummary, fileTexts, warningTexts, forIn_eq_forM, hwarnings, List.forM_append, bind_assoc, hdone]
  cases r.rootFiles with
  | nil => simp [List.forM_map]
  | cons path paths => simp [List.forM_cons, List.forM_map]

/-! ## What is printed -/

/-- Plain lines are printed as they are. -/
theorem run_forM_printPlain (lines printed : List String) :
    (forM lines printPlain).run.run printed = (.ok (), printed ++ lines.map (· ++ "\n")) := by
  induction lines generalizing printed with
  | nil =>
    show (Except.ok (), printed) = _
    simp
  | cons line lines ih =>
    refine (ih (printed ++ [line ++ "\n"])).trans ?_
    rw [List.append_assoc]
    rfl

theorem run_print_eq_ok {text : String} {printed printed' : List String} :
    (print text).run.run printed = (.ok (), printed') ↔
      ∃ shown, plainText text = .ok shown ∧ printed' = printed ++ [shown ++ "\n"] := by
  rw [print]
  cases plainText text with
  | ok shown =>
    show (Except.ok (), printed ++ [shown ++ "\n"]) = _ ↔ _
    simp [eq_comm]
  | error fault =>
    show (Except.error fault, printed) = _ ↔ _
    simp

/-- Marked-up lines are printed if each of them can be, and then each is what is left of it. -/
theorem run_forM_print_eq_ok {texts printed printed' : List String} :
    (forM texts print).run.run printed = (.ok (), printed') ↔
      ∃ lines, texts.Forall₂ (fun text line => plainText text = .ok line) lines ∧
        printed' = printed ++ lines.map (· ++ "\n") := by
  induction texts generalizing printed with
  | nil =>
    show (Except.ok (), printed) = _ ↔ _
    simp [eq_comm]
  | cons text texts ih =>
    rw [List.forM_cons, Files.bind_eq_ok]
    constructor
    · rintro ⟨_, between, hfirst, hrest⟩
      obtain ⟨line, hline, rfl⟩ := run_print_eq_ok.mp hfirst
      obtain ⟨lines, hlines, rfl⟩ := ih.mp hrest
      exact ⟨line :: lines, .cons hline hlines, by simp⟩
    · rintro ⟨_, hall, rfl⟩
      cases hall with
      | @cons _ line _ lines hline hlines =>
        exact ⟨(), _, run_print_eq_ok.mpr ⟨line, hline, rfl⟩, ih.mpr ⟨lines, hlines, by simp⟩⟩

/-! ## Lines that name files -/

theorem eq_ok_of_toOption {ε α : Type} {x : Except ε α} {a : α} (h : x.toOption = some a) : x = .ok a := by
  cases x with
  | error e => cases h
  | ok b =>
    cases h
    rfl

theorem red_paints : Paints "red".toList ⟨"red", []⟩ where
  isTag := by decide +kernel
  opens := eq_ok_of_toOption (by decide +kernel)
  closes := eq_ok_of_toOption (by decide +kernel)
  weightless := by decide +kernel

theorem green_paints : Paints "green".toList ⟨"green", []⟩ where
  isTag := by decide +kernel
  opens := eq_ok_of_toOption (by decide +kernel)
  closes := eq_ok_of_toOption (by decide +kernel)
  weightless := by decide +kernel

theorem literal_of_not_mem {cs : List Char} (hbracket : '[' ∉ cs) (hemoji : Emoji.replace cs = cs) : Literal cs where
  noTag := by
    rintro ⟨before, contents, after, -, rfl⟩
    exact hbracket (by simp)
  noEscape := by
    rintro ⟨before, after, rfl⟩
    exact hbracket (by simp)
  noEmoji := by
    rcases Emoji.replace_cases cs with ⟨hnone, -⟩ | ⟨-, hlighter⟩
    · exact hnone
    · rw [hemoji] at hlighter
      exact absurd hlighter (Nat.lt_irrefl _)

/-- A path is printed verbatim on a line of its own. -/
structure PathShown (path : String) : Prop where
  /-- No mark is in it. -/
  literal : Literal path.toList
  /-- No backslash at its end takes the meaning of the tag behind it away. -/
  closed : path.toList.getLast? ≠ some '\\'
  /-- The console shows the line as it is. -/
  shown : Shown s!"  {path}".toList

/-- A path and a message are printed verbatim behind a label. -/
structure ProblemShown (label path message : String) : Prop where
  /-- No mark is in them. -/
  literal : Literal s!" {path}: {message}".toList
  /-- The console shows the line as it is. -/
  shown : Shown s!"{label} {path}: {message}".toList

theorem plainText_path_iff (path : String) :
    plainText s!"  [green]{path}[/green]" = .ok s!"  {path}" ↔ PathShown path := by
  have hmarked : s!"  [green]{path}[/green]".toList = enclosed "  ".toList "green".toList path.toList := by
    have hopen : "  [green]".toList = "  ".toList ++ '[' :: ("green".toList ++ [']']) := by decide +kernel
    have hclose : "[/green]".toList = '[' :: ('/' :: "green".toList ++ [']']) := by decide +kernel
    show ("  [green]" ++ path ++ "[/green]").toList = _
    rw [String.toList_append, String.toList_append, hopen, hclose, enclosed]
    simp
  have hline : s!"  {path}".toList = "  ".toList ++ path.toList := String.toList_append ..
  have hblank : Literal "  ".toList := literal_of_not_mem (by decide +kernel) (by decide +kernel)
  rw [plainText_enclosed_iff green_paints hblank (by decide +kernel) hmarked hline, ← hline]
  constructor
  · rintro ⟨hliteral, hclosed, hshown⟩
    exact ⟨hliteral, hclosed, hshown⟩
  · intro h
    exact ⟨h.literal, h.closed, h.shown⟩

theorem plainText_problem_iff {label marked plain : String} (hlabel : Literal label.toList)
    (hlast : label.toList.getLast? ≠ some '\\')
    (hmarked : marked.toList = labelled "red".toList label.toList " ".toList)
    (hplain : plain.toList = label.toList ++ " ".toList) (path message : String) :
    plainText s!"{marked}{path}: {message}" = .ok s!"{plain}{path}: {message}" ↔ ProblemShown label path message := by
  have htext : s!"{marked}{path}: {message}".toList =
      labelled "red".toList label.toList s!" {path}: {message}".toList := by
    show (marked ++ path ++ ": " ++ message).toList = labelled _ _ (" " ++ path ++ ": " ++ message).toList
    simp only [String.toList_append, hmarked, labelled, List.cons_append, List.append_assoc]
  have hline : s!"{plain}{path}: {message}".toList = label.toList ++ s!" {path}: {message}".toList := by
    show (plain ++ path ++ ": " ++ message).toList = _ ++ (" " ++ path ++ ": " ++ message).toList
    simp only [String.toList_append, hplain, List.append_assoc]
  have hwhole : s!"{label} {path}: {message}".toList = label.toList ++ s!" {path}: {message}".toList := by
    show (label ++ " " ++ path ++ ": " ++ message).toList = _ ++ (" " ++ path ++ ": " ++ message).toList
    simp only [String.toList_append, List.append_assoc]
  rw [plainText_labelled_iff red_paints hlabel hlast htext hline, ← hwhole]
  constructor
  · rintro ⟨hliteral, hshown⟩
    exact ⟨hliteral, hshown⟩
  · intro h
    exact ⟨h.literal, h.shown⟩

theorem plainText_scanFailed_iff (path message : String) :
    plainText s!"[red]Scan failed:[/red] {path}: {message}" = .ok s!"Scan failed: {path}: {message}" ↔
      ProblemShown "Scan failed:" path message :=
  plainText_problem_iff (literal_of_not_mem (by decide +kernel) (by decide +kernel)) (by decide +kernel)
    (by decide +kernel) (by decide +kernel) path message

theorem plainText_emitFailed_iff (path message : String) :
    plainText s!"[red]Emit failed:[/red] {path}: {message}" = .ok s!"Emit failed: {path}: {message}" ↔
      ProblemShown "Emit failed:" path message :=
  plainText_problem_iff (literal_of_not_mem (by decide +kernel) (by decide +kernel)) (by decide +kernel)
    (by decide +kernel) (by decide +kernel) path message

/-! ## The summary -/

/-- The lines in which files are named: their paths and the messages as they are. -/
def fileLines (r : RunReport) : List String :=
  (if r.rootFiles.isEmpty then []
    else "\nApplication root mounted in:" :: r.rootFiles.map fun path => s!"  {path}") ++
  r.scanFailures.map (fun (path, message) => s!"Scan failed: {path}: {message}") ++
  r.failed.map fun o => s!"Emit failed: {o.path}: {o.message}"

/-- Every line that names a file is printed verbatim. -/
structure NamesFiles (r : RunReport) : Prop where
  /-- So are the files in which an application is mounted. -/
  roots : ∀ path ∈ r.rootFiles, PathShown path
  /-- So are the files that could not be scanned. -/
  scan : ∀ f ∈ r.scanFailures, ProblemShown "Scan failed:" f.1 f.2
  /-- So are the files that could not be written. -/
  emit : ∀ o ∈ r.failed, ProblemShown "Emit failed:" o.path o.message

theorem forall₂_append_iff {α β : Type} {R : α → β → Prop} {as as' : List α} {bs bs' : List β}
    (h : as.length = bs.length) : (as ++ as').Forall₂ R (bs ++ bs') ↔ as.Forall₂ R bs ∧ as'.Forall₂ R bs' := by
  induction as generalizing bs with
  | nil =>
    rw [List.length_eq_zero_iff.mp h.symm]
    simp
  | cons a as ih =>
    cases bs with
    | nil => cases h
    | cons b bs =>
      rw [List.length_cons, List.length_cons, Nat.add_right_cancel_iff] at h
      simp only [List.cons_append, List.forall₂_cons, ih h, and_assoc]

theorem length_fileTexts (r : RunReport) : (fileTexts r).length = (fileLines r).length := by
  rw [fileTexts, fileLines]
  split <;> simp

/-- Each line comes out as it should exactly if the line is printed verbatim. -/
theorem forall₂_fileTexts_iff (r : RunReport) :
    (fileTexts r).Forall₂ (fun text line => plainText text = .ok line) (fileLines r) ↔ NamesFiles r := by
  have hheading : plainText "\n[bold]Application root mounted in:[/bold]" = .ok "\nApplication root mounted in:" :=
    eq_ok_of_toOption (by decide +kernel)
  have hroots :
      (if r.rootFiles.isEmpty then []
        else "\n[bold]Application root mounted in:[/bold]" :: r.rootFiles.map fun path => s!"  [green]{path}[/green]").Forall₂
          (fun text line => plainText text = .ok line)
        (if r.rootFiles.isEmpty then []
          else "\nApplication root mounted in:" :: r.rootFiles.map fun path => s!"  {path}") ↔
      ∀ path ∈ r.rootFiles, PathShown path := by
    cases r.rootFiles with
    | nil => simp
    | cons path paths =>
      rw [List.isEmpty_cons, if_neg Bool.false_ne_true, if_neg Bool.false_ne_true, List.forall₂_cons,
        and_iff_right hheading, List.forall₂_map_left_iff, List.forall₂_map_right_iff, List.forall₂_same]
      exact forall₂_congr fun path _ => plainText_path_iff path
  have hscan : (r.scanFailures.map fun (path, message) => s!"[red]Scan failed:[/red] {path}: {message}").Forall₂
      (fun text line => plainText text = .ok line)
        (r.scanFailures.map fun (path, message) => s!"Scan failed: {path}: {message}") ↔
      ∀ f ∈ r.scanFailures, ProblemShown "Scan failed:" f.1 f.2 := by
    rw [List.forall₂_map_left_iff, List.forall₂_map_right_iff, List.forall₂_same]
    exact forall₂_congr fun f _ => plainText_scanFailed_iff f.1 f.2
  have hemit : (r.failed.map fun o => s!"[red]Emit failed:[/red] {o.path}: {o.message}").Forall₂
      (fun text line => plainText text = .ok line) (r.failed.map fun o => s!"Emit failed: {o.path}: {o.message}") ↔
      ∀ o ∈ r.failed, ProblemShown "Emit failed:" o.path o.message := by
    rw [List.forall₂_map_left_iff, List.forall₂_map_right_iff, List.forall₂_same]
    exact forall₂_congr fun o _ => plainText_emitFailed_iff o.path o.message
  rw [fileTexts, fileLines, forall₂_append_iff (by split <;> simp), forall₂_append_iff (by split <;> simp), hroots,
    hscan, hemit]
  constructor
  · rintro ⟨⟨hroots, hscan⟩, hemit⟩
    exact ⟨hroots, hscan, hemit⟩
  · intro h
    exact ⟨⟨h.roots, h.scan⟩, h.emit⟩

/-- Lines end in a line break, so what is printed tells them apart. -/
theorem map_lineBreak_inj {lines lines' : List String} :
    lines.map (· ++ "\n") = lines'.map (· ++ "\n") ↔ lines = lines' := by
  refine (List.map_injective_iff.mpr fun line line' h => ?_).eq_iff
  have hchars := congrArg String.toList h
  rw [String.toList_append, String.toList_append] at hchars
  exact String.toList_inj.mp (List.append_cancel_right hchars)

theorem forall₂_exists_iff {α β : Type} {R : α → β → Prop} {xs : List α} :
    (∃ ys, xs.Forall₂ R ys) ↔ ∀ x ∈ xs, ∃ y, R x y := by
  induction xs with
  | nil => simp
  | cons x xs ih =>
    rw [List.forall_mem_cons, ← ih]
    constructor
    · rintro ⟨_, hall⟩
      cases hall with
      | cons hx hxs => exact ⟨⟨_, hx⟩, _, hxs⟩
    · rintro ⟨⟨y, hx⟩, ys, hxs⟩
      exact ⟨y :: ys, .cons hx hxs⟩

/-- The summary is printed to its end, with every path and message in it verbatim, exactly if no mark is in them and
the lines fit, and every warning can be printed. -/
theorem names_files_iff (r : RunReport) (fileCount : Nat) :
    (∃ warnings, (printSummary r fileCount).run.run [] =
      (.ok (), ((table r fileCount).lines ++ fileLines r ++ warnings).map (· ++ "\n"))) ↔
    NamesFiles r ∧ ∀ text ∈ warningTexts r, ∃ line, plainText text = .ok line := by
  have hrun (printed : List String) : (printSummary r fileCount).run.run [] = (.ok (), printed) ↔
      ∃ lines, (fileTexts r ++ warningTexts r).Forall₂ (fun text line => plainText text = .ok line) lines ∧
        printed = ((table r fileCount).lines ++ lines).map (· ++ "\n") := by
    rw [printSummary_eq, Files.run_bind, run_forM_printPlain]
    show (forM (fileTexts r ++ warningTexts r) print).run.run _ = _ ↔ _
    rw [run_forM_print_eq_ok]
    simp only [List.nil_append, List.map_append]
  rw [← forall₂_fileTexts_iff, ← forall₂_exists_iff, ← exists_and_left]
  refine exists_congr fun warnings => ?_
  rw [hrun, ← forall₂_append_iff (length_fileTexts r), List.append_assoc]
  constructor
  · rintro ⟨lines, hlines, hprinted⟩
    rwa [List.append_cancel_left (map_lineBreak_inj.mp hprinted)]
  · intro h
    exact ⟨_, h, rfl⟩

/-- The report of a run in which one file could not be scanned and another one mounts an application. -/
def unmarked : RunReport := { scanFailures := [("src/a.js", "boom")], rootFiles := ["src/index.js"] }

theorem names_files_iff_unmarked :
    NamesFiles unmarked ∧ ∃ warnings, (printSummary unmarked 2).run.run [] =
      (.ok (), ((table unmarked 2).lines ++
        ["\nApplication root mounted in:", "  src/index.js", "Scan failed: src/a.js: boom"] ++ warnings).map (· ++ "\n")) := by
  have hpath : PathShown "src/index.js" :=
    ⟨literal_of_not_mem (by decide +kernel) (by decide +kernel), by decide +kernel,
      (layOut_filter_eq_self_iff _).mp (by decide +kernel)⟩
  have hproblem : ProblemShown "Scan failed:" "src/a.js" "boom" :=
    ⟨literal_of_not_mem (by decide +kernel) (by decide +kernel), (layOut_filter_eq_self_iff _).mp (by decide +kernel)⟩
  have hnames : NamesFiles unmarked :=
    ⟨by simpa [unmarked] using hpath, by simpa [unmarked] using hproblem, by simp [unmarked, RunReport.failed]⟩
  have hprinted := (names_files_iff unmarked 2).mpr ⟨hnames, by simp [warningTexts, unmarked]⟩
  have hlines : fileLines unmarked =
      ["\nApplication root mounted in:", "  src/index.js", "Scan failed: src/a.js: boom"] := by decide +kernel
  rw [hlines] at hprinted
  exact ⟨hnames, hprinted⟩

/-- The report of a run in which one file could not be scanned, which is on a route with a parameter. -/
def bracketed : RunReport := { scanFailures := [("pages/[id].js", "boom")] }

/-- The parameter is taken for a tag, and nothing that is printed names the file. -/
theorem bracketed_not_named : ¬ ∃ printed, (printSummary bracketed 0).run.run [] = (.ok (), printed) ∧
    "Scan failed: pages/[id].js: boom\n" ∈ printed := by
  have hprinted : ((printSummary bracketed 0).run.run []).2.contains "Scan failed: pages/[id].js: boom\n" = false := by
    decide +kernel
  rintro ⟨printed, hrun, hmem⟩
  rw [hrun] at hprinted
  simp [hmem] at hprinted

end JsxTagger.Report
