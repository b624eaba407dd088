import Manuscript.Proofs.Project.Build
import Mathlib.Data.List.TakeWhile

/-!
# What a build leaves on the disk

The files of a build are written one after the other, at paths that come from the settings, and
nothing keeps two of these from leading to one file. So the last step that leads to a file decides
what the file holds in the end (`read?_after_stepPass`). For a build that ends well this says what
is in every file (`files_of_build_eq_ok`): the text of the format, unless a later format or the data
report is written over it, as can happen (`read?_ne_plot_of_one_file`).

The texts do not depend on what else is built. A format that does not need the stream is the same
with and without it (`Sources.render_congr`).
-/

namespace Manuscript

/-! ### The last step decides -/

/-- A step changes nothing at a place to which its file does not lead. -/
theorem Disk.get?_attempt {d : Disk} {folder : String} {s : BuildStep} {q : Place} {e : Entry}
    (hq : (d.attempt folder s).2.locate? (Path.join folder s.file) ≠ some q)
    (he : d.get? q = some e) : (d.attempt folder s).2.get? q = some e := by
  rw [attempt] at hq ⊢
  split at hq
  · exact he
  · split at hq
    · exact (d.extends_afterAttempt folder).get?_eq he
    · rename_i path written hwritten
      obtain ⟨rfl, q', hq'⟩ := exists_wrote_of_writeOutput hwritten
      have hne : q ≠ q' := by
        rintro rfl
        exact hq hq'.locate?_eq
      exact hq'.others hne he

/-- Steps change nothing at a place to which, on the disk that they leave, none of their files
leads. -/
theorem get?_after_stepPass {folder : String} {d : Disk} {steps : List BuildStep} {q : Place}
    {e : Entry} (hq : ∀ s ∈ steps,
      ((stepPass folder).after d steps).locate? (Path.join folder s.file) ≠ some q)
    (he : d.get? q = some e) : ((stepPass folder).after d steps).get? q = some e := by
  induction steps generalizing d with
  | nil => exact he
  | cons s steps ih =>
    have hkeeps : (d.attempt folder s).2.Keeps ((stepPass folder).after d (s :: steps)) :=
      keeps_after_stepPass folder _ steps
    have hs : (d.attempt folder s).2.locate? (Path.join folder s.file) ≠ some q := fun hlocate ↦
      hq s List.mem_cons_self (hkeeps.locate?_eq hlocate)
    exact ih (fun t ht ↦ hq t (List.mem_cons_of_mem s ht)) (Disk.get?_attempt hs he)

/-- **The last step that leads to a file decides what it holds.** -/
theorem read?_after_stepPass {folder path : String} {d : Disk} {before after : List BuildStep}
    {s : BuildStep}
    (hok : (((stepPass folder).after d before).attempt folder s).1 = .ok path)
    (hlast : ∀ t ∈ after,
      ((stepPass folder).after d (before ++ s :: after)).locate? (Path.join folder t.file) ≠
        ((stepPass folder).after d (before ++ s :: after)).locate? (Path.join folder s.file)) :
    ∃ text, s.text = .ok text ∧
      ((stepPass folder).after d (before ++ s :: after)).read? (Path.join folder s.file) =
        some text.toUTF8 := by
  obtain ⟨text, q, htext, rfl, hwrote⟩ := Disk.exists_wrote_of_attempt hok
  have hfinal : (stepPass folder).after d (before ++ s :: after) =
      (stepPass folder).after (((stepPass folder).after d before).attempt folder s).2 after := by
    rw [Pass.after_append, Pass.after_cons]
    rfl
  rw [hfinal] at hlast ⊢
  -- the path goes on to lead to the place where the text was written, and no later step does
  have hlocate := (keeps_after_stepPass folder _ after).locate?_eq hwrote.locate?_eq
  rw [hlocate] at hlast
  have hget := get?_after_stepPass hlast hwrote.get?_eq
  exact ⟨text, htext, Disk.read?_eq_of_locate? hlocate hget⟩

/-- The outcome of a step is among those of the row it stands in. -/
theorem mem_run_stepPass (folder : String) (d : Disk) (before : List BuildStep) (s : BuildStep)
    (after : List BuildStep) :
    (((stepPass folder).after d before).attempt folder s).1 ∈
      (stepPass folder).run d (before ++ s :: after) := by
  rw [Pass.run_append, Pass.run_cons]
  exact List.mem_append_right _ (List.mem_append_left _ (List.mem_singleton_self _))

/-- The characters of a fragment are on the page, but for line feeds. -/
theorem Markdown.mem_page {fragments : List String} {s : String} {c : Char} (hc : c ≠ '\n')
    (hs : s ∈ fragments) (hcs : c ∈ s.toList) : c ∈ (page fragments).toList := by
  have hconcat : c ∈ (concat fragments).toList := by
    rw [concat, String.toList_join]
    exact List.mem_flatMap_of_mem hs hcs
  have hdrop : c ∈ (concat fragments).toList.dropWhile (· = '\n') := by
    rw [← (concat fragments).toList.takeWhile_append_dropWhile (p := (· = '\n')),
      List.mem_append] at hconcat
    refine hconcat.resolve_left fun h ↦ hc ?_
    simpa using List.mem_takeWhile_imp h
  rw [page, String.toList_ofList, endLine]
  split
  · exact hdrop
  · exact List.mem_append_left _ hdrop

/-! ### What formats are made from -/

/-- A format that does not need the stream is the same with and without it. -/
theorem Sources.render_congr {story : Story} {resolver : Resolver} {actions : List Action}
    {f : Format} (h : f.needsActions = false) (actions' : List Action) :
    Sources.render ⟨story, resolver, actions⟩ f = Sources.render ⟨story, resolver, actions'⟩ f := by
  cases f with
  | outline => rfl
  | plot => rfl
  | script => cases h
  | novel => cases h
  | info => cases h

/-- With the stream that is loaded for some formats, these are the same as with the story's. -/
theorem Sources.render_of_mem {story : Story} {resolver : Resolver} {formats : List Format}
    {f : Format} (hf : f ∈ formats) (actions : List Action) :
    Sources.render ⟨story, resolver, if formats.any Format.needsActions then actions else []⟩ f =
      Sources.render ⟨story, resolver, actions⟩ f := by
  by_cases hneeds : formats.any Format.needsActions
  · rw [if_pos hneeds]
  · have hfree : f.needsActions = false := by
      rw [List.any_eq_true] at hneeds
      exact Bool.eq_false_iff.2 fun h ↦ hneeds ⟨f, hf, h⟩
    exact render_congr hfree actions

namespace Project

variable {p : Project} {settings : Settings} {formats : List Format} {d : Disk}

/-- The count of a format that has a body. -/
def bodyCount? (settings : Settings) (sources : Sources) (f : Format) :
    Option (Format × CountResult) :=
  (sources.render f).toOption.bind fun page ↦
    page.body.map fun body ↦ (f, .ofText settings.count body)

theorem countOf?_ok (settings : Settings) (sources : Sources) (f : Format) (path : String) :
    countOf? settings sources (f, .ok path) = bodyCount? settings sources f := by
  rw [countOf?, bodyCount?]
  cases sources.render f <;> rfl

/-- Where all formats are written, all that have a body are counted. -/
theorem countsOf_outcomes {sources : Sources} (hok : ∀ o ∈ p.outcomes settings sources d formats,
    ∃ path, o = .ok path) :
    countsOf settings sources formats (p.outcomes settings sources d formats) =
      formats.filterMap (bodyCount? settings sources) := by
  induction formats generalizing d with
  | nil => rfl
  | cons f formats ih =>
    rw [outcomes_cons] at hok ⊢
    obtain ⟨path, hpath⟩ := hok _ List.mem_cons_self
    have hrest := ih fun o ho ↦ hok o (List.mem_cons_of_mem _ ho)
    rw [countsOf] at hrest ⊢
    rw [List.zip_cons_cons, List.filterMap_cons, hpath, countOf?_ok, hrest, List.filterMap_cons]

/-! ### The files of a build -/

/-- Where all formats are written, each is written behind those before it. -/
theorem exists_path_of_outcomes {sources : Sources} {before after : List Format} {f : Format}
    (hok : ∀ o ∈ p.outcomes settings sources d (before ++ f :: after), ∃ path, o = .ok path) :
    ∃ path, ((p.diskAfter settings sources d before).attempt (p.outputFolder settings)
      (formatStep settings sources f)).1 = .ok path := by
  refine hok _ ?_
  rw [outcomes, List.map_append, List.map_cons]
  exact mem_run_stepPass _ _ _ _ _

/-- A format that is written has been made. -/
theorem exists_render_of_outcomes {sources : Sources} {f : Format} (hf : f ∈ formats)
    (hok : ∀ o ∈ p.outcomes settings sources d formats, ∃ path, o = .ok path) :
    ∃ page, sources.render f = .ok page := by
  obtain ⟨before, after, rfl⟩ := List.append_of_mem hf
  obtain ⟨path, hpath⟩ := exists_path_of_outcomes hok
  obtain ⟨text, -, htext, -, -⟩ := Disk.exists_wrote_of_attempt hpath
  cases hpage : sources.render f with
  | error e =>
    rw [formatStep, hpage] at htext
    cases htext
  | ok page => exact ⟨page, rfl⟩

/-- The file of a format holds its text, unless a later step leads to the same place. -/
theorem read?_fileFor_of_outcomes {sources : Sources} {before after : List Format} {f : Format}
    {page : Rendered} (hpage : sources.render f = .ok page)
    (hok : ∀ o ∈ p.outcomes settings sources d (before ++ f :: after), ∃ path, o = .ok path) :
    let final := (p.attemptReport settings sources d (before ++ f :: after)).2
    let fileOf := fun g ↦ Path.join (p.outputFolder settings) (settings.build.fileFor g)
    (∀ g ∈ after, final.locate? (fileOf g) ≠ final.locate? (fileOf f)) →
      final.locate? (Path.join (p.outputFolder settings) settings.build.dataFile) ≠
        final.locate? (fileOf f) →
      final.read? (fileOf f) = some page.text.toUTF8 := by
  intro final fileOf hformats hreport
  obtain ⟨path, hpath⟩ := exists_path_of_outcomes hok
  let step := formatStep settings sources
  let report := reportStep settings sources
    (countsOf settings sources (before ++ f :: after)
      (p.outcomes settings sources d (before ++ f :: after)))
  -- the data report is one more step behind the formats
  have hfinal : final = (stepPass (p.outputFolder settings)).after d
      (before.map step ++ step f :: (after.map step ++ [report])) := by
    rw [← List.cons_append, ← List.append_assoc, ← List.map_cons, ← List.map_append,
      Pass.after_append]
    rfl
  have hlast : ∀ t ∈ after.map step ++ [report],
      final.locate? (Path.join (p.outputFolder settings) t.file) ≠ final.locate? (fileOf f) := by
    intro t ht
    rcases List.mem_append.1 ht with ht | ht
    · obtain ⟨g, hg, rfl⟩ := List.mem_map.1 ht
      exact hformats g hg
    · rw [List.mem_singleton.1 ht]
      exact hreport
  rw [hfinal] at hlast ⊢
  obtain ⟨text, htext, hread⟩ := read?_after_stepPass hpath hlast
  rw [formatStep, hpage] at htext
  obtain rfl : page.text = text := Except.ok.inj htext
  exact hread

/-- A build ends well only if every format was written. Then all that have a body are counted, and
the data report is in its file. -/
theorem outcomes_of_build_eq_ok {loaded : Sources} {summary : BuildSummary} {final : Disk}
    (hload : p.loadBuild d settings formats = .ok loaded)
    (h : p.build settings formats d = (.ok summary, final)) :
    final = (p.attemptReport settings loaded d formats).2 ∧
      (∀ o ∈ p.outcomes settings loaded d formats, ∃ path, o = .ok path) ∧
      summary.counts = formats.filterMap (bodyCount? settings loaded) ∧
      final.read? (Path.join (p.outputFolder settings) settings.build.dataFile) =
        some (dataReport loaded summary.counts).toUTF8 := by
  rw [build_of_loadBuild hload] at h
  obtain ⟨hresult, rfl⟩ := Prod.mk.inj h
  obtain ⟨herror, path, hpath, rfl⟩ := resultOf_eq_ok_iff.1 hresult
  have hok := firstError_eq_none_iff.1 herror
  obtain ⟨text, q, htext, rfl, hwrote⟩ := Disk.exists_wrote_of_attempt hpath
  obtain rfl := Except.ok.inj htext
  exact ⟨rfl, hok, countsOf_outcomes hok, hwrote.read?_eq⟩

/-- A build ends well if every format and the data report are written. -/
theorem exists_build_eq_ok {loaded : Sources} {path : String}
    (hload : p.loadBuild d settings formats = .ok loaded)
    (hformats : firstError (p.outcomes settings loaded d formats) = none)
    (hreport : (p.attemptReport settings loaded d formats).1 = .ok path) :
    ∃ summary, p.build settings formats d =
      (.ok summary, (p.attemptReport settings loaded d formats).2) := by
  rw [build_of_loadBuild hload, hformats, hreport]
  exact ⟨_, rfl⟩

/-- What is loaded for a build can be compiled, whether or not a format needs it. -/
theorem exists_sources_of_loadBuild {loaded : Sources}
    (h : p.loadBuild d settings formats = .ok loaded) :
    ∃ story names actions, p.loadStory d = .ok story ∧ p.loadSources d = .ok names ∧
      cleanedActions story = .ok actions ∧
      loaded = ⟨story, .build names settings.tags,
        if formats.any Format.needsActions then actions else []⟩ := by
  obtain ⟨story, names, used, hstory, hnames, hused, rfl⟩ := loadBuild_eq_ok_iff.1 h
  have hactions := cleanedActions_of_ne_nil (ne_nil_of_loadStory hstory)
  refine ⟨story, names, _, hstory, hnames, hactions, ?_⟩
  split at hused
  · rename_i hneeds
    rw [if_pos hneeds, Except.ok.inj (hactions.symm.trans hused)]
  · rename_i hneeds
    rw [if_neg hneeds, ← Except.ok.inj hused]

/-- **A build that ends well.** Every format has been made, and its file holds the text of the
format, from the story and all of its stream, unless the file of a later format or that of the data
report leads to the same place. The data report is in its file, with the counts of all formats that
have a body. -/
theorem files_of_build_eq_ok {summary : BuildSummary} {final : Disk}
    (h : p.build settings formats d = (.ok summary, final)) :
    ∃ story names actions, p.loadStory d = .ok story ∧ p.loadSources d = .ok names ∧
      cleanedActions story = .ok actions ∧
      let sources : Sources := ⟨story, .build names settings.tags, actions⟩
      let fileOf := fun f ↦ Path.join (p.outputFolder settings) (settings.build.fileFor f)
      let reportFile := Path.join (p.outputFolder settings) settings.build.dataFile
      (∀ f ∈ formats, ∃ page, sources.render f = .ok page ∧
        ∀ before after, formats = before ++ f :: after →
          (∀ g ∈ after, final.locate? (fileOf g) ≠ final.locate? (fileOf f)) →
          final.locate? reportFile ≠ final.locate? (fileOf f) →
          final.read? (fileOf f) = some page.text.toUTF8) ∧
      summary.counts = formats.filterMap (bodyCount? settings sources) ∧
      final.read? reportFile = some (dataReport
        { sources with actions := if formats.any Format.needsActions then actions else [] }
        summary.counts).toUTF8 := by
  cases hload : p.loadBuild d settings formats with
  | error e =>
    rw [build_of_loadBuild_eq_error hload] at h
    cases h
  | ok loaded =>
    obtain ⟨story, names, actions, hstory, hnames, hactions, rfl⟩ :=
      exists_sources_of_loadBuild hload
    refine ⟨story, names, actions, hstory, hnames, hactions, ?_⟩
    obtain ⟨rfl, hok, hcounts, hreport⟩ := outcomes_of_build_eq_ok hload h
    intro sources fileOf reportFile
    refine ⟨fun f hf ↦ ?_, ?_, hreport⟩
    · obtain ⟨page, hpage⟩ := exists_render_of_outcomes hf hok
      refine ⟨page, ?_, ?_⟩
      · rw [← hpage, Sources.render_of_mem hf]
      · rintro before after rfl
        exact read?_fileFor_of_outcomes hpage hok
    · rw [hcounts]
      refine List.filterMap_congr fun f hf ↦ ?_
      rw [bodyCount?, Sources.render_of_mem hf, bodyCount?]

/-- The plot and the novel of a book that says nothing, beside the data report. -/
theorem files_of_build_plot_and_novel :
    ∃ summary final,
      (mk "").build Settings.default [.plot, .novel] bareDisk = (.ok summary, final) ∧
      final.read? "build/plot.md" = some "# \n\n".toUTF8 ∧
      final.read? "build/novel.md" = some "# \n\n".toUTF8 := by
  let sources := bareSources .default [.plot, .novel]
  have hfirst : firstError ((mk "").outcomes .default sources bareDisk [.plot, .novel]) = none := by
    decide
  have hreport : ((mk "").attemptReport .default sources bareDisk [.plot, .novel]).1 =
      .ok "build/data.md" := by decide +kernel
  obtain ⟨summary, hbuild⟩ := exists_build_eq_ok (loadBuild_bareDisk _ _) hfirst hreport
  obtain ⟨story, names, actions, hstory, hnames, hactions, hpages, -, -⟩ :=
    files_of_build_eq_ok hbuild
  obtain rfl := Except.ok.inj (hstory.symm.trans loadStory_bareDisk)
  obtain rfl := Except.ok.inj (hnames.symm.trans loadSources_bareDisk)
  obtain rfl := Except.ok.inj (hactions.symm.trans cleanedActions_bareDisk)
  let final := ((mk "").attemptReport .default sources bareDisk [.plot, .novel]).2
  have hnovelPlot : final.locate? "build/novel.md" ≠ final.locate? "build/plot.md" := by
    decide +kernel
  have hdataPlot : final.locate? "build/data.md" ≠ final.locate? "build/plot.md" := by
    decide +kernel
  have hdataNovel : final.locate? "build/data.md" ≠ final.locate? "build/novel.md" := by
    decide +kernel
  refine ⟨summary, final, hbuild, ?_, ?_⟩
  · have hplot : sources.render .plot = .ok ⟨"# \n\n", none⟩ := by decide
    obtain ⟨page, hpage, hread⟩ := hpages .plot (by decide)
    obtain rfl := Except.ok.inj (hplot.symm.trans hpage)
    refine hread [] [.novel] rfl (fun g hg ↦ ?_) hdataPlot
    obtain rfl := List.mem_singleton.1 hg
    exact hnovelPlot
  · have hnovel : sources.render .novel = .ok ⟨"# \n\n", some ""⟩ := by decide
    obtain ⟨page, hpage, hread⟩ := hpages .novel (by decide)
    obtain rfl := Except.ok.inj (hnovel.symm.trans hpage)
    exact hread [.plot] [] rfl nofun hdataNovel

/-- One file may be set for the plot and for the data report. A build with these settings ends well,
and the plot is lost. -/
theorem read?_ne_plot_of_one_file :
    let settings : Settings := { Settings.default with
      build := { BuildSettings.default with plotFile := "same.md", dataFile := "same.md" } }
    settings.validate = .ok () ∧ ∃ sources summary final page,
      (mk "").loadBuild bareDisk settings [.plot] = .ok sources ∧
      (mk "").build settings [.plot] bareDisk = (.ok summary, final) ∧
      sources.render .plot = .ok page ∧
      final.read? (Path.join ((mk "").outputFolder settings) (settings.build.fileFor .plot)) ≠
        some page.text.toUTF8 := by
  intro settings
  have hload := loadBuild_bareDisk settings [.plot]
  have hreport : ((mk "").attemptReport settings (bareSources settings [.plot]) bareDisk
      [.plot]).1 = .ok "build/same.md" := by decide
  obtain ⟨summary, hbuild⟩ := exists_build_eq_ok hload (by decide) hreport
  obtain ⟨-, -, hcounts, hread⟩ := outcomes_of_build_eq_ok hload hbuild
  have hpage : (bareSources settings [.plot]).render .plot = .ok ⟨"# \n\n", none⟩ := by decide
  have hother : dataReport (bareSources settings [.plot]) [] ≠ "# \n\n" := by
    -- the report has a line of dashes
    intro hplot
    have hdash : '-' ∈ (dataReport (bareSources settings [.plot]) []).toList :=
      Markdown.mem_page (s := DataReport.divider) (by decide)
        (List.mem_cons_of_mem _ List.mem_cons_self) (by decide)
    rw [hplot] at hdash
    exact absurd hdash (by decide)
  refine ⟨by decide, _, summary, _, _, hload, hbuild, hpage, ?_⟩
  intro hplot
  have hcounted : summary.counts = [] := hcounts
  rw [hcounted] at hread
  have htexts := (Disk.readText?_eq_some hread).symm.trans (Disk.readText?_eq_some hplot)
  exact hother (Option.some.inj htexts)

end Project

end Manuscript
