import Manuscript.Proofs.Compile.Blocks
import Manuscript.Proofs.Project.Story

/-!
# How a build fails

A build that has loaded what it needs is a row of steps, one for each format and one for the data
report (`BuildStep`). Every step is carried out on the disk that the steps before it leave, whatever
became of them (`stepPass`), and the end of the build can be read off the outcomes of the steps
(`build_of_loadBuild`): it ends well exactly if every step does.

The error of a build that has loaded is *not* always that of its first step that fails. An error in
writing the data report comes before all errors of formats, and only otherwise the first of these is
the result (`build_contract`, `build_error_ne_firstError`).
-/

namespace Manuscript

/-! ### Steps -/

/-- A step of a build: a file of the output folder, and the text for it unless it cannot be made. -/
structure BuildStep where
  file : String
  text : Except Error String

namespace Disk

/-- Carries out a step. Its outcome says where the text was written, or why it was not. -/
def attempt (d : Disk) (folder : String) (s : BuildStep) : Except Error String × Disk :=
  match s.text with
  | .error e => (.error e, d)
  | .ok text =>
    match d.writeOutput folder s.file text with
    | .error e => (.error e, d.afterAttempt folder)
    | .ok (path, written) => (.ok path, written)

/-- A step that has a text and a file for it writes. -/
theorem attempt_of_writeOutput {d written : Disk} {folder text path : String} {s : BuildStep}
    (htext : s.text = .ok text)
    (hwritten : d.writeOutput folder s.file text = .ok (path, written)) :
    d.attempt folder s = (.ok path, written) := by
  rw [attempt, htext]
  simp only [hwritten]

/-- A step takes nothing from the disk. -/
theorem keeps_attempt (d : Disk) (folder : String) (s : BuildStep) :
    d.Keeps (d.attempt folder s).2 := by
  rw [attempt]
  split
  · exact .refl d
  · split
    · exact (d.extends_afterAttempt folder).keeps
    · rename_i hwritten
      obtain ⟨-, q, hq⟩ := exists_wrote_of_writeOutput hwritten
      exact hq.keeps

/-- Only a step that has a text and a file for it writes. -/
theorem exists_wrote_of_attempt {d : Disk} {folder path : String} {s : BuildStep}
    (h : (d.attempt folder s).1 = .ok path) :
    ∃ text q, s.text = .ok text ∧ path = Path.join folder s.file ∧
      d.Wrote path text q (d.attempt folder s).2 := by
  rw [attempt] at h ⊢
  split at h
  · cases h
  · rename_i text htext
    split at h
    · cases h
    · rename_i hwritten
      obtain rfl := Except.ok.inj h
      obtain ⟨hpath, q, hq⟩ := exists_wrote_of_writeOutput hwritten
      exact ⟨text, q, htext, hpath, by simpa only [htext, hwritten] using hq⟩

end Disk

/-- Steps to their outcomes. The state is the disk. -/
def stepPass (folder : String) : Pass Disk BuildStep (Except Error String) where
  next d s := (d.attempt folder s).2
  out d s := [(d.attempt folder s).1]

/-- Steps take nothing from the disk. -/
theorem keeps_after_stepPass (folder : String) (d : Disk) (steps : List BuildStep) :
    d.Keeps ((stepPass folder).after d steps) := by
  induction steps generalizing d with
  | nil => exact .refl d
  | cons s steps ih => exact (d.keeps_attempt folder s).trans (ih _)

/-! ### Outcomes -/

/-- The error of an outcome, if it is one. -/
def errorOf? {α : Type} : Except Error α → Option Error
  | .error e => some e
  | .ok _ => none

/-- The first error among outcomes. -/
def firstError (outcomes : List (Except Error String)) : Option Error :=
  outcomes.findSome? errorOf?

theorem errorOf?_eq_none_iff {α : Type} {x : Except Error α} :
    errorOf? x = none ↔ ∃ a, x = .ok a := by
  cases x <;> simp [errorOf?]

theorem firstError_eq_none_iff {outcomes : List (Except Error String)} :
    firstError outcomes = none ↔ ∀ o ∈ outcomes, ∃ path, o = .ok path := by
  rw [firstError, List.findSome?_eq_none_iff]
  exact forall₂_congr fun _ _ ↦ errorOf?_eq_none_iff

namespace Project

variable {p : Project} {settings : Settings} {sources : Sources} {formats : List Format}

/-! ### The steps of a build -/

/-- The step that writes a format. -/
def formatStep (settings : Settings) (sources : Sources) (f : Format) : BuildStep :=
  ⟨settings.build.fileFor f, (sources.render f).map Rendered.text⟩

/-- The step that writes the data report, which shows the given counts. -/
def reportStep (settings : Settings) (sources : Sources) (counts : List (Format × CountResult)) :
    BuildStep :=
  ⟨settings.build.dataFile, .ok (dataReport sources counts)⟩

/-- The count of a format that has a body, unless the format was not written. -/
def countOf? (settings : Settings) (sources : Sources) :
    Format × Except Error String → Option (Format × CountResult)
  | (_, .error _) => none
  | (f, .ok _) =>
    match sources.render f with
    | .error _ => none
    | .ok page => page.body.map fun body ↦ (f, .ofText settings.count body)

/-- The counts of the formats that were written. -/
def countsOf (settings : Settings) (sources : Sources) (formats : List Format)
    (outcomes : List (Except Error String)) : List (Format × CountResult) :=
  (formats.zip outcomes).filterMap (countOf? settings sources)

/-- **One format**: the disk is moved on by its step, and the outcome is noted. -/
theorem writeFormat_eq (b : BuildProgress) (f : Format) :
    p.writeFormat settings sources b f =
      let attempted := b.disk.attempt (p.outputFolder settings) (formatStep settings sources f)
      { disk := attempted.2
        summary :=
          { written := b.summary.written ++ attempted.1.toOption.toList
            counts := b.summary.counts ++ (countOf? settings sources (f, attempted.1)).toList }
        firstError := b.firstError.or (errorOf? attempted.1) } := by
  cases hpage : sources.render f with
  | error e =>
    simp [writeFormat, Disk.attempt, formatStep, hpage, Except.map, Except.toOption, countOf?,
      errorOf?]
  | ok page =>
    cases hwritten : b.disk.writeOutput (p.outputFolder settings) (settings.build.fileFor f)
        page.text with
    | error e =>
      simp [writeFormat, Disk.attempt, formatStep, hpage, hwritten, Except.map, Except.toOption,
        countOf?, errorOf?]
    | ok written =>
      simp [writeFormat, Disk.attempt, formatStep, hpage, hwritten, Except.map, Except.toOption,
        countOf?, errorOf?]

variable (p settings sources)

/-- The outcomes of formats that are made and written one after the other. -/
def outcomes (d : Disk) (formats : List Format) : List (Except Error String) :=
  (stepPass (p.outputFolder settings)).run d (formats.map (formatStep settings sources))

/-- The disk that formats leave. -/
def diskAfter (d : Disk) (formats : List Format) : Disk :=
  (stepPass (p.outputFolder settings)).after d (formats.map (formatStep settings sources))

/-- The outcome of the data report behind formats, and the disk that it leaves. -/
def attemptReport (d : Disk) (formats : List Format) : Except Error String × Disk :=
  (p.diskAfter settings sources d formats).attempt (p.outputFolder settings)
    (reportStep settings sources
      (countsOf settings sources formats (p.outcomes settings sources d formats)))

theorem outcomes_cons (d : Disk) (f : Format) (fs : List Format) :
    p.outcomes settings sources d (f :: fs) =
      (d.attempt (p.outputFolder settings) (formatStep settings sources f)).1 ::
        p.outcomes settings sources
          (d.attempt (p.outputFolder settings) (formatStep settings sources f)).2 fs := rfl

theorem diskAfter_cons (d : Disk) (f : Format) (fs : List Format) :
    p.diskAfter settings sources d (f :: fs) =
      p.diskAfter settings sources
        (d.attempt (p.outputFolder settings) (formatStep settings sources f)).2 fs := rfl

theorem diskAfter_append (d : Disk) (fs gs : List Format) :
    p.diskAfter settings sources d (fs ++ gs) =
      p.diskAfter settings sources (p.diskAfter settings sources d fs) gs := by
  rw [diskAfter, List.map_append, Pass.after_append]
  rfl

/-- **The formats of a build**: the disk is moved on by their steps, and the outcomes are noted. -/
theorem foldl_writeFormat_eq (b : BuildProgress) (formats : List Format) :
    formats.foldl (p.writeFormat settings sources) b =
      { disk := p.diskAfter settings sources b.disk formats
        summary :=
          { written := b.summary.written ++
              (p.outcomes settings sources b.disk formats).filterMap Except.toOption
            counts := b.summary.counts ++
              countsOf settings sources formats (p.outcomes settings sources b.disk formats) }
        firstError :=
          b.firstError.or (firstError (p.outcomes settings sources b.disk formats)) } := by
  induction formats generalizing b with
  | nil => simp [outcomes, diskAfter, countsOf, firstError]
  | cons f formats ih =>
    rw [List.foldl_cons, ih, writeFormat_eq, outcomes_cons, diskAfter_cons]
    generalize b.disk.attempt (p.outputFolder settings) (formatStep settings sources f) = attempted
    obtain ⟨outcome, disk⟩ := attempted
    simp only [countsOf, List.zip_cons_cons, firstError, List.findSome?_cons, List.filterMap_cons]
    cases outcome with
    | error e => simp [Except.toOption, countOf?, errorOf?]
    | ok path => cases countOf? settings sources (f, .ok path) <;> simp [Except.toOption, errorOf?]

variable {p settings sources}

/-! ### Loading -/

/-- What ends a build before anything is written: the story cannot be loaded, or the names cannot,
or the story that a format needs cannot be compiled. -/
inductive LoadFails (p : Project) (formats : List Format) (d : Disk) (e : Error) : Prop
  | story (h : p.loadStory d = .error e)
  | names {story : Story} (hstory : p.loadStory d = .ok story) (h : p.loadSources d = .error e)
  | compile {story : Story} {names : NameSources} (hstory : p.loadStory d = .ok story)
    (hnames : p.loadSources d = .ok names) (hneeds : formats.any Format.needsActions)
    (h : compileActions story = .error e)

theorem loadBuild_eq (p : Project) (d : Disk) (settings : Settings) (formats : List Format) :
    p.loadBuild d settings formats =
      p.loadStory d >>= fun story ↦ p.loadSources d >>= fun names ↦
        (if formats.any Format.needsActions then cleanedActions story else .ok []).map
          fun actions ↦ ⟨story, .build names settings.tags, actions⟩ := by
  rw [loadBuild]
  refine bind_congr fun story ↦ ?_
  rw [loadResolver]
  cases p.loadSources d with
  | error e => rfl
  | ok names => cases formats.any Format.needsActions <;> rfl

/-- What is loaded for a build. The stream is made if a format needs it. -/
theorem loadBuild_eq_ok_iff {d : Disk} :
    p.loadBuild d settings formats = .ok sources ↔ ∃ story names actions,
      p.loadStory d = .ok story ∧ p.loadSources d = .ok names ∧
      (if formats.any Format.needsActions then cleanedActions story else .ok []) = .ok actions ∧
      ⟨story, .build names settings.tags, actions⟩ = sources := by
  simp only [loadBuild_eq, bind_eq_ok_iff, map_eq_ok_iff, exists_and_left]

theorem loadBuild_eq_error_iff {d : Disk} {e : Error} :
    p.loadBuild d settings formats = .error e ↔ p.LoadFails formats d e := by
  have hactions : ∀ story,
      (if formats.any Format.needsActions then cleanedActions story else .ok []) = .error e ↔
        formats.any Format.needsActions ∧ compileActions story = .error e := by
    intro story
    split
    · rename_i hneeds
      rw [cleanedActions, map_eq_error_iff]
      exact (and_iff_right hneeds).symm
    · rename_i hneeds
      refine iff_of_false (fun h ↦ ?_) fun h ↦ hneeds h.1
      cases h
  simp only [loadBuild_eq, bind_eq_error_iff, map_eq_error_iff, hactions]
  constructor
  · rintro (hstory | ⟨story, hstory, hnames | ⟨names, hnames, hneeds, hcompile⟩⟩)
    · exact .story hstory
    · exact .names hstory hnames
    · exact .compile hstory hnames hneeds hcompile
  · rintro (hstory | ⟨hstory, hnames⟩ | ⟨hstory, hnames, hneeds, hcompile⟩)
    · exact .inl hstory
    · exact .inr ⟨_, hstory, .inl hnames⟩
    · exact .inr ⟨_, hstory, .inr ⟨_, hnames, hneeds, hcompile⟩⟩

/-! ### The end of a build -/

/-- How a build ends whose formats are summed up, given their first error and the outcome of the
data report. -/
def resultOf (summary : BuildSummary) (error : Option Error) :
    Except Error String → Except Error BuildSummary
  | .error e => .error e
  | .ok path =>
    match error with
    | some e => .error e
    | none => .ok { summary with written := summary.written ++ [path] }

theorem finishBuild_eq (b : BuildProgress) :
    p.finishBuild settings sources b =
      let attempted := b.disk.attempt (p.outputFolder settings)
        (reportStep settings sources b.summary.counts)
      (resultOf b.summary b.firstError attempted.1, attempted.2) := by
  cases hwritten : b.disk.writeOutput (p.outputFolder settings) settings.build.dataFile
      (dataReport sources b.summary.counts) with
  | error e =>
    unfold finishBuild
    simp [Disk.attempt, reportStep, hwritten, resultOf]
  | ok written =>
    unfold finishBuild
    cases b.firstError <;> simp [Disk.attempt, reportStep, hwritten, resultOf]

/-- A build that does not load leaves the disk as it was. -/
theorem build_of_loadBuild_eq_error {d : Disk} {e : Error}
    (h : p.loadBuild d settings formats = .error e) :
    p.build settings formats d = (.error e, d) := by
  unfold build
  rw [h]

/-- **The end of a build that has loaded** is read off the outcomes of its steps. -/
theorem build_of_loadBuild {d : Disk} (h : p.loadBuild d settings formats = .ok sources) :
    p.build settings formats d =
      (resultOf
          ⟨(p.outcomes settings sources d formats).filterMap Except.toOption,
            countsOf settings sources formats (p.outcomes settings sources d formats)⟩
          (firstError (p.outcomes settings sources d formats))
          (p.attemptReport settings sources d formats).1,
        (p.attemptReport settings sources d formats).2) := by
  unfold build
  rw [h]
  dsimp only
  rw [foldl_writeFormat_eq, finishBuild_eq]
  rfl

theorem resultOf_eq_ok_iff {summary built : BuildSummary} {error : Option Error}
    {report : Except Error String} :
    resultOf summary error report = .ok built ↔
      error = none ∧ ∃ path, report = .ok path ∧
        { summary with written := summary.written ++ [path] } = built := by
  cases report <;> cases error <;> simp [resultOf]

theorem exists_resultOf_eq_ok_iff {summary : BuildSummary} {error : Option Error}
    {report : Except Error String} :
    (∃ built, resultOf summary error report = .ok built) ↔
      error = none ∧ ∃ path, report = .ok path := by
  cases report <;> cases error <;> simp [resultOf]

theorem resultOf_eq_error_iff {summary : BuildSummary} {error : Option Error}
    {report : Except Error String} {e : Error} :
    resultOf summary error report = .error e ↔
      report = .error e ∨ (∃ path, report = .ok path) ∧ error = some e := by
  cases report <;> cases error <;> simp [resultOf]

/-- **A format that has a text and a file for it is written**, whatever becomes of the formats
before and behind it, and its file stays. -/
theorem diskAfter_of_writeOutput {d written : Disk} {before after : List Format} {f : Format}
    {page : Rendered} {path : String} (hpage : sources.render f = .ok page)
    (hwritten : (p.diskAfter settings sources d before).writeOutput (p.outputFolder settings)
      (settings.build.fileFor f) page.text = .ok (path, written)) :
    p.diskAfter settings sources d (before ++ [f]) = written ∧
      written.read? path = some page.text.toUTF8 ∧
      (p.attemptReport settings sources d (before ++ f :: after)).2.isFile path := by
  obtain ⟨-, q, hq⟩ := Disk.exists_wrote_of_writeOutput hwritten
  have hdisk : p.diskAfter settings sources d (before ++ [f]) = written := by
    have htext : (formatStep settings sources f).text = .ok page.text := by
      rw [formatStep, hpage]
      rfl
    rw [diskAfter_append, diskAfter_cons, Disk.attempt_of_writeOutput htext hwritten]
    rfl
  refine ⟨hdisk, hq.read?_eq, ?_⟩
  have hfile : written.isFile path := by
    rw [Disk.isFile, hq.read?_eq]
    rfl
  have hkeeps : written.Keeps (p.diskAfter settings sources d (before ++ f :: after)) := by
    rw [← List.singleton_append, ← List.append_assoc, diskAfter_append, hdisk]
    exact keeps_after_stepPass _ _ _
  exact (hkeeps.trans (Disk.keeps_attempt _ _ _)).isFile hfile

/-- **How a build ends.** What cannot be loaded or compiled ends it, and the disk is as it was.
Otherwise every format is tried, in order, on the disk that those before it leave: one that can be
made and written is written, whatever becomes of the others, and its file stays. The build ends well
exactly if every format and the data report are written. If not, the error is that of the data
report, if that fails, and else that of the first format that fails. -/
theorem build_contract (p : Project) (settings : Settings) (formats : List Format) (d : Disk) :
    (∀ e, p.LoadFails formats d e → p.build settings formats d = (.error e, d)) ∧
    ((∀ e, ¬ p.LoadFails formats d e) → ∃ story names actions,
      p.loadStory d = .ok story ∧ p.loadSources d = .ok names ∧
      (if formats.any Format.needsActions then cleanedActions story else .ok []) = .ok actions ∧
      let sources : Sources := ⟨story, .build names settings.tags, actions⟩
      let outcomes := p.outcomes settings sources d formats
      let report := p.attemptReport settings sources d formats
      let result := p.build settings formats d
      result.2 = report.2 ∧
      (∀ before f after page path written, formats = before ++ f :: after →
        sources.render f = .ok page →
        (p.diskAfter settings sources d before).writeOutput (p.outputFolder settings)
          (settings.build.fileFor f) page.text = .ok (path, written) →
        p.diskAfter settings sources d (before ++ [f]) = written ∧
          written.read? path = some page.text.toUTF8 ∧ result.2.isFile path) ∧
      ((∃ summary, result.1 = .ok summary) ↔
        (∀ o ∈ outcomes, ∃ path, o = .ok path) ∧ ∃ path, report.1 = .ok path) ∧
      ∀ e, result.1 = .error e ↔
        report.1 = .error e ∨ (∃ path, report.1 = .ok path) ∧ firstError outcomes = some e) := by
  refine ⟨fun e h ↦ build_of_loadBuild_eq_error (loadBuild_eq_error_iff.2 h), fun h ↦ ?_⟩
  obtain ⟨loaded, hload⟩ : ∃ loaded, p.loadBuild d settings formats = .ok loaded := by
    cases hload : p.loadBuild d settings formats with
    | error e => exact absurd (loadBuild_eq_error_iff.1 hload) (h e)
    | ok loaded => exact ⟨loaded, rfl⟩
  obtain ⟨story, names, actions, hstory, hnames, hactions, rfl⟩ := loadBuild_eq_ok_iff.1 hload
  have hbuild := build_of_loadBuild hload
  refine ⟨story, names, actions, hstory, hnames, hactions, ?_⟩
  intro sources outcomes report result
  have hresult : result = _ := hbuild
  rw [hresult]
  refine ⟨rfl, ?_, ?_, fun e ↦ resultOf_eq_error_iff⟩
  · rintro before f after page path written rfl hpage hwritten
    exact diskAfter_of_writeOutput hpage hwritten
  · rw [← firstError_eq_none_iff]
    exact exists_resultOf_eq_ok_iff

/-! ### Builds of a bare project -/

/-- The disk of a project that has nothing but a book that says nothing. -/
def bareDisk : Disk :=
  ⟨[(["order.yml"], .file "book:\n".toUTF8), (["book.md"], .file "".toUTF8)], []⟩

theorem loadStory_bareDisk : (mk "").loadStory bareDisk = .ok [⟨.book, "book", .empty⟩] := by
  have htext : bareDisk.readText? (Path.join (mk "").root orderFile) = some "book:\n" :=
    Disk.readText?_eq_some rfl
  have hcollect : (Manifest.tree? "book:\n").map Manifest.collect = some [] := by decide +kernel
  obtain ⟨tree, htree, hrefs⟩ := Option.map_eq_some_iff.1 hcollect
  have horder := loadOrder_of_tree? htext htree
  rw [hrefs] at horder
  rw [loadStory_of_loadOrder horder, mapM_eq_ok_iff]
  exact .cons (loadElement_eq_ok_iff.2 (elementReads_of_empty rfl)) .nil

theorem loadSources_bareDisk : (mk "").loadSources bareDisk = .ok ⟨[], .empty, .empty⟩ := rfl

/-- What is loaded for a build of the bare project. -/
def bareSources (settings : Settings) (formats : List Format) : Sources :=
  ⟨[⟨.book, "book", .empty⟩], .build ⟨[], .empty, .empty⟩ settings.tags,
    if formats.any Format.needsActions then [.marker (.title .book "")] else []⟩

theorem cleanedActions_bareDisk :
    cleanedActions [⟨.book, "book", .empty⟩] = .ok [.marker (.title .book "")] := rfl

theorem loadBuild_bareDisk (settings : Settings) (formats : List Format) :
    (mk "").loadBuild bareDisk settings formats = .ok (bareSources settings formats) := by
  refine loadBuild_eq_ok_iff.2 ⟨_, _, _, loadStory_bareDisk, loadSources_bareDisk, ?_, rfl⟩
  rw [cleanedActions_bareDisk]
  split <;> rfl

theorem not_loadFails_bareDisk (formats : List Format) (e : Error) :
    ¬ (mk "").LoadFails formats bareDisk e := by
  intro h
  have herror : (mk "").loadBuild bareDisk .default formats = .error e :=
    loadBuild_eq_error_iff.2 h
  rw [loadBuild_bareDisk] at herror
  cases herror

/-- Without a manifest nothing is written. A plot for which there is no folder keeps neither the
novel nor the data report from being written. -/
theorem build_contract_plot_without_folder :
    let settings : Settings := { Settings.default with
      build := { BuildSettings.default with plotFile := "drafts/plot.md" } }
    let formats : List Format := [.plot, .novel]
    (mk "").LoadFails formats ⟨[], []⟩ (.missingOrder "order.yml") ∧
      (mk "").build settings formats ⟨[], []⟩ = (.error (.missingOrder "order.yml"), ⟨[], []⟩) ∧
      (∀ e, ¬ (mk "").LoadFails formats bareDisk e) ∧
      ((mk "").build settings formats bareDisk).1 =
        .error (.fileWrite "build/drafts/plot.md") ∧
      ((mk "").build settings formats bareDisk).2.isFile "build/novel.md" := by
  intro settings formats
  have hmissing : (mk "").LoadFails formats ⟨[], []⟩ (.missingOrder "order.yml") := .story rfl
  have hloads := not_loadFails_bareDisk formats
  obtain ⟨hfails, hwrites⟩ := build_contract (mk "") settings formats bareDisk
  obtain ⟨story, names, actions, hstory, hnames, hactions, -, hwritten, -, herror⟩ :=
    hwrites hloads
  obtain rfl := Except.ok.inj (hstory.symm.trans loadStory_bareDisk)
  obtain rfl := Except.ok.inj (hnames.symm.trans loadSources_bareDisk)
  obtain rfl := Except.ok.inj (hactions.symm.trans cleanedActions_bareDisk)
  let sources := bareSources settings formats
  have hplot : firstError ((mk "").outcomes settings sources bareDisk formats) =
      some (.fileWrite "build/drafts/plot.md") := by decide
  have hreport : ((mk "").attemptReport settings sources bareDisk formats).1 =
      .ok "build/data.md" := by decide
  have hnovel : sources.render .novel = .ok ⟨"# \n\n", some ""⟩ := by decide
  have hpath : (((mk "").diskAfter settings sources bareDisk [.plot]).writeOutput
      ((mk "").outputFolder settings) (settings.build.fileFor .novel) "# \n\n").map Prod.fst =
      .ok "build/novel.md" := by decide
  refine ⟨hmissing, (build_contract (mk "") settings formats ⟨[], []⟩).1 _ hmissing, hloads,
    (herror _).2 (.inr ⟨⟨_, hreport⟩, hplot⟩), ?_⟩
  cases houtput : ((mk "").diskAfter settings sources bareDisk [.plot]).writeOutput
      ((mk "").outputFolder settings) (settings.build.fileFor .novel) "# \n\n" with
  | error e =>
    rw [houtput] at hpath
    cases hpath
  | ok output =>
    obtain ⟨path, written⟩ := output
    rw [houtput] at hpath
    obtain rfl : path = "build/novel.md" := Except.ok.inj hpath
    exact (hwritten [.plot] .novel [] _ _ _ rfl hnovel houtput).2.2

/-- The error of a build need not be that of its first step that fails: where neither the plot nor
the data report has a folder, it is that of the data report. -/
theorem build_error_ne_firstError :
    let settings : Settings := { Settings.default with
      build := { BuildSettings.default with
        plotFile := "drafts/plot.md", dataFile := "reports/data.md" } }
    settings.validate = .ok () ∧ (∀ e, ¬ (mk "").LoadFails [.plot] bareDisk e) ∧
      ∃ sources, (mk "").loadBuild bareDisk settings [.plot] = .ok sources ∧
        firstError ((mk "").outcomes settings sources bareDisk [.plot] ++
            [((mk "").attemptReport settings sources bareDisk [.plot]).1]) =
          some (.fileWrite "build/drafts/plot.md") ∧
        ((mk "").build settings [.plot] bareDisk).1 =
          .error (.fileWrite "build/reports/data.md") := by
  intro settings
  have hload := loadBuild_bareDisk settings [.plot]
  refine ⟨by decide, not_loadFails_bareDisk [.plot], _, hload, by decide, ?_⟩
  rw [build_of_loadBuild hload]
  have hreport : ((mk "").attemptReport settings (bareSources settings [.plot]) bareDisk
      [.plot]).1 = .error (.fileWrite "build/reports/data.md") := by decide
  rw [hreport]
  rfl

end Project

end Manuscript
