import TemplateTree.CommandLine.Run
import TemplateTree.Proofs.Build.Exits
import TemplateTree.Proofs.Settings.Loading
import TemplateTree.Proofs.Settings.Sketch

/-!
# Runs that fail before they render

The program reads the override and the settings, makes the directories of the settings,
loads the templates and applies the extensions, all before the first template is rendered.
A run that fails on the way has made some of these directories at most.
-/

namespace TemplateTree

open FileTree Session Job

namespace Session

def Counts (s s' : Session) : Prop :=
  s.reporter.stats.templatesProcessed ≤ s'.reporter.stats.templatesProcessed

variable {s s' : Session}

theorem Counts.refl (s : Session) : Counts s s :=
  Nat.le_refl _

theorem Counts.trans (s₁ s₂ s₃ : Session) (h : Counts s₁ s₂) (h' : Counts s₂ s₃) :
    Counts s₁ s₃ :=
  Nat.le_trans h h'

theorem Talked.counts (h : Talked s s') : Counts s s' := by
  rw [Counts, h.reporter_eq]

end Session

/-! ## Counting templates -/

namespace Job

variable {α : Type} {x : Job α}

theorem counts_of_talked (h : Within Talked x) : Within Counts x :=
  fun s => (h s).counts

theorem counts_fileSaved (p : Path) : Within Counts (fileSaved p) :=
  fun _ => Nat.le_refl _

theorem counts_outlook : Within Counts outlook :=
  fun _ => Nat.le_refl _

theorem counts_writeSections (settings : Settings) (sections : List Section) :
    Within Counts (writeSections settings sections) := by
  apply within_writeSections Counts.refl Counts.trans
  · apply within_prepareParents Counts.refl Counts.trans
    intro _ _ dir _
    apply within_prepareDirectory Counts.refl Counts.trans
    · exact fun _ => Nat.le_refl _
    · exact (within_get Counts.refl).bind Counts.trans fun _ => counts_of_talked (talked_report _)
  · intro r _
    apply within_writeSection Counts.refl Counts.trans
    · exact fun _ _ _ _ => Nat.le_refl _
    · exact fun _ _ _ => Nat.le_refl _
    · exact counts_fileSaved _

end Job

namespace Generator

variable (g : Generator) (overrides : Option Namespace)

theorem counted_templateStarted (name : Text) (s : Session) :
    ((templateStarted name).after s).reporter.stats.templatesProcessed =
      s.reporter.stats.templatesProcessed + 1 := by
  obtain ⟨dots, hstarted⟩ := s.reporter.templateStarted_fst name
  change (s.reporter.templateStarted name).1.stats.templatesProcessed = _
  rw [hstarted]

/-- A template that is started is counted, whatever becomes of it. -/
theorem lt_after_renderTemplate (name : Text) (s : Session) :
    s.reporter.stats.templatesProcessed <
      ((g.environment.renderTemplate g.settings name overrides).after s
        ).reporter.stats.templatesProcessed := by
  have hrest : Counts ((templateStarted name).after s)
      ((g.environment.renderTemplate g.settings name overrides).after s) := by
    refine rel_after_bind Counts.refl fun _ => ?_
    refine counts_outlook.bind Counts.trans fun _ => ?_
    refine (within_ofExcept Counts.refl _).bind Counts.trans fun _ => ?_
    refine (within_ofExcept Counts.refl _).bind Counts.trans fun _ => ?_
    exact (counts_writeSections _ _).bind Counts.trans fun _ => within_pure Counts.refl
  rw [Counts, counted_templateStarted] at hrest
  exact hrest

theorem counts_renderEach (templates : List TemplateFile) :
    Within Counts (g.renderEach overrides templates) :=
  within_renderEach Counts.refl Counts.trans fun f _ s =>
    (g.lt_after_renderTemplate overrides f.name s).le

theorem counts_runPostCommands : Within Counts g.runPostCommands := by
  apply within_runPostCommands Counts.refl Counts.trans
  · exact fun _ => counts_of_talked (talked_report _)
  · exact fun _ _ => within_runChecked Counts.refl fun _ _ _ _ _ => Nat.le_refl _
  · exact fun _ => within_modify fun _ => Nat.le_refl _

/-- A run that selects some template counts it. -/
theorem lt_after_renderAll {onlyModified : Bool} {s : Session} {f : TemplateFile}
    {rest : List TemplateFile} (hselected : g.selected s.files onlyModified = .ok (f :: rest)) :
    0 < ((g.renderAll onlyModified overrides).after s).reporter.stats.templatesProcessed := by
  obtain ⟨s₁, -, hrun⟩ := renderAll_apply g overrides onlyModified s
  have hafter : (g.renderAll onlyModified overrides).after s =
      (g.renderSelected overrides s.now (f :: rest)).after s₁ := by
    rw [after, hrun, hselected]
    rfl
  have hstart : Job.start s₁ = .ok () (Job.start.after s₁) := rfl
  rw [hafter, renderSelected, after_bind_of_ok hstart]
  generalize Job.start.after s₁ = s₂
  -- the first template is counted, and nothing is taken back after it
  have hfirst := g.lt_after_renderTemplate overrides f.name s₂
  have heach : Counts ((g.environment.renderTemplate g.settings f.name overrides).after s₂)
      ((g.renderEach overrides (f :: rest)).after s₂) := by
    refine rel_after_bind Counts.refl fun _ => ?_
    exact (g.counts_renderEach overrides rest).bind Counts.trans fun _ => within_pure Counts.refl
  refine Nat.lt_of_lt_of_le (Nat.zero_lt_of_lt hfirst) (Nat.le_trans heach ?_)
  refine rel_after_bind Counts.refl fun _ => ?_
  refine g.counts_runPostCommands.bind Counts.trans fun _ => ?_
  have hwrite : Within Counts (g.watermark.write (Instant.floorSeconds s.now)) :=
    within_changeFiles Counts.refl fun _ _ _ => Nat.le_refl _
  refine hwrite.bind Counts.trans fun _ => ?_
  exact (within_modify fun _ => Nat.le_refl _).bind Counts.trans fun _ => within_pure Counts.refl

end Generator

/-! ## The program -/

namespace Arguments

def override (a : Arguments) (files : FileTree) : Except Failure (Option GlobalOverride) :=
  match a.globals with
  | some t => some <$> GlobalOverride.parse files t
  | none => .ok none

/-- A run comes to its first template: the settings are loaded, a generator is made, and
some templates are selected. -/
def StartsRendering (a : Arguments) (path : Path) (s : Session) : Prop :=
  ∃ s₀ settings s₁ g s₂ f rest, Unchanged s s₀ ∧ Settings.load path s₀ = .ok settings s₁ ∧
    Generator.new settings s₁ = .ok g s₂ ∧ g.selected s₂.files a.onlyModified = .ok (f :: rest)

variable {a : Arguments} {printer : Printer} {path : Path} {s s' : Session} {e : Failure}
  {settings : Settings}

def opened (a : Arguments) (printer : Printer) (path : Path) (s : Session) : Session :=
  let reporter := Reporter.new printer a.verbosity s.now
  let shown := Path.shown (placeText s.files.current) path
  let line := reporter.whenever .normal (printer.status "Loading" shown)
  { s with reporter := reporter, console := s.console.printError line }

theorem unchanged_opened (a : Arguments) (printer : Printer) (path : Path) (s : Session) :
    Unchanged s (a.opened printer path s) :=
  ⟨rfl, rfl, rfl⟩

theorem run_apply (hpath : a.settings = some path) (printer : Printer) (s : Session) :
    a.run printer s = (Job.ofExcept (a.override s.files) >>= renderProject path a.onlyModified)
      (a.opened printer path s) := by
  obtain ⟨settings, flags, globals, completions⟩ := a
  obtain rfl : settings = some path := hpath
  cases globals with
  | none => rfl
  | some t =>
      change (some <$> Job.ofExcept (GlobalOverride.parse s.files t) >>=
        renderProject path _) (opened _ printer path s) = _
      unfold override
      dsimp only
      cases GlobalOverride.parse s.files t <;> rfl

theorem makes_of_renderProject {onlyModified : Bool} {overrides : Option GlobalOverride}
    (hread : Settings.read s.files path = .ok settings)
    (h : renderProject path onlyModified overrides s = .error e s') :
    Makes settings.Names s s' ∨ (∃ s₁ g s₂ f rest, Settings.load path s = .ok settings s₁ ∧
      Generator.new settings s₁ = .ok g s₂ ∧ g.selected s₂.files onlyModified = .ok (f :: rest) ∧
      0 < s'.reporter.stats.templatesProcessed) := by
  have hdirectories := Settings.load_of_read_ok hread
  -- up to the selection, only the directories are made, and the rest is talk
  rcases bind_eq_error h with hload | ⟨loaded, s₁, hload, h⟩
  · exact .inl (settings.makes_makeDirectories.of_error (hdirectories.symm.trans hload))
  · obtain rfl := Settings.eq_of_load hread hload
    have hmakes := loaded.makes_makeDirectories.of_ok (hdirectories.symm.trans hload)
    rcases bind_eq_error h with hnew | ⟨g, s₂, hnew, h⟩
    · have htalked := (Generator.talked_new loaded).of_error hnew
      exact .inl (hmakes.trans _ _ _ htalked.makes)
    · have htalked := (Generator.talked_new loaded).of_ok hnew
      have hmakes₂ := hmakes.trans _ _ _ htalked.makes
      obtain ⟨s₃, hs₃, hrun⟩ :=
        g.renderAll_apply (overrides.map GlobalOverride.values) onlyModified s₂
      cases hselected : g.selected s₂.files onlyModified with
      | error refusal =>
          rw [hrun, hselected] at h
          cases h
          exact .inl (hmakes₂.trans _ _ _ hs₃.makes)
      | ok templates =>
          cases templates with
          | nil =>
              -- there is nothing to render, and the run ends well
              rw [hrun, hselected] at h
              cases h
          | cons f rest =>
              have hcounted := g.lt_after_renderAll (overrides.map GlobalOverride.values) hselected
              rw [after_of_error h] at hcounted
              exact .inr ⟨s₁, g, s₂, f, rest, hload, hnew, hselected, hcounted⟩

/-- A run that fails before it renders a template writes no file.  If the override or the
settings are refused, nothing changes.  If it fails later but has counted no template, the
directories of the settings and those above them are all that can be new, and everything
that was there is as it was.  Otherwise it has come to its first template. -/
theorem run_failing (a : Arguments) (printer : Printer) (s : Session) (hs : s.files.Sound) :
    (a.settings = none → ∃ e s', a.run printer s = .error e s' ∧ Unchanged s s') ∧
    ∀ path, a.settings = some path →
      (∀ e, a.override s.files = .error e →
        ∃ s', a.run printer s = .error e s' ∧ Unchanged s s') ∧
      ∀ overrides, a.override s.files = .ok overrides →
        (∀ e, Settings.read s.files path = .error e →
          ∃ s', a.run printer s = .error e s' ∧ Unchanged s s') ∧
        ∀ settings, Settings.read s.files path = .ok settings →
          ∀ e s', a.run printer s = .error e s' →
            (s'.reporter.stats.templatesProcessed = 0 ∧ s'.now = s.now ∧
              OnlyMakes settings.Names s.files s'.files) ∨
            (0 < s'.reporter.stats.templatesProcessed ∧ a.StartsRendering path s) := by
  refine ⟨fun hnone => ?_, fun path hpath => ?_⟩
  · obtain ⟨settings, flags, globals, completions⟩ := a
    obtain rfl : settings = none := hnone
    exact ⟨_, s, rfl, .refl s⟩
  have hrun := run_apply hpath printer s
  have hs₀ := a.unchanged_opened printer path s
  have hstats : (a.opened printer path s).reporter.stats = .zero := rfl
  -- from here on it only matters that nothing has changed or been counted so far
  generalize a.opened printer path s = s₀ at hrun hs₀ hstats
  refine ⟨fun e hoverride => ?_, fun overrides hoverride => ?_⟩
  · refine ⟨s₀, ?_, hs₀⟩
    rw [hrun, hoverride]
    rfl
  replace hrun : a.run printer s = renderProject path a.onlyModified overrides s₀ := by
    rw [hrun, hoverride]
    rfl
  rw [← hs₀.1]
  refine ⟨fun e hread => ⟨s₀, ?_, hs₀⟩, fun settings hread e s' h => ?_⟩
  · rw [hrun]
    exact bind_of_error (Settings.load_of_read_error hread)
  · rw [hrun] at h
    rcases makes_of_renderProject hread h with hmakes |
      ⟨s₁, g, s₂, f, rest, hload, hnew, hselected, hcounted⟩
    · obtain ⟨hmade, hnow, -, hsame⟩ := hmakes (hs₀.1 ▸ hs)
      refine .inl ⟨?_, hnow.trans hs₀.2.1, hmade⟩
      rw [hsame, hstats]
      rfl
    · exact .inr ⟨hcounted, s₀, settings, s₁, g, s₂, f, rest, hs₀, hload, hnew, hselected⟩

end Arguments

namespace Sketch

def bare : FileTree :=
  ⟨.dir [(['d'], file ("\x7b\"root_dir\": \".\", \"template_dir\": \"t\", ".toList ++
    "\"output_dir\": \"a/out\", \"included_suffixes\": [\"*\"]\x7d".toList))], []⟩

def asking (path : String) (globals : Option Text) : Arguments :=
  ⟨some path.toList, [], globals, none⟩

def findsNothing : Bool :=
  match (asking "/d" none).run ⟨false⟩ (start bare) with
  | .ok _ _ => false
  | .error _ s => s.reporter.stats = .zero &&
      s.files.root.item? ["a".toList, "out".toList] = some .dir

theorem sound_bare : bare.Sound := by
  refine ⟨Node.Sound.of_names [['d']] rfl (by decide) (by decide) ?_, rfl⟩
  exact List.forall_mem_singleton.mpr .file

theorem exists_findsNothing : ∃ e s, (asking "/d" none).run ⟨false⟩ (start bare) = .error e s ∧
    s.reporter.stats = .zero ∧
    s.files.root.item? ["a".toList, "out".toList] = some .dir := by
  have hcheck : findsNothing = true := by decide +kernel
  unfold findsNothing at hcheck
  split at hcheck
  case h_1 => cases hcheck
  case h_2 e s hrun =>
    obtain ⟨hstats, hitem⟩ := Bool.and_eq_true_iff.mp hcheck
    exact ⟨e, s, hrun, of_decide_eq_true hstats, of_decide_eq_true hitem⟩

theorem exists_read_bare : ∃ settings, Settings.read bare "/d".toList = .ok settings := by
  have hread : (Settings.read bare "/d".toList).toOption.isSome = true := by decide +kernel
  obtain ⟨settings, hsome⟩ := Option.isSome_iff_exists.mp hread
  exact ⟨settings, toOption_eq_some_iff.mp hsome⟩

theorem exists_error {ε α : Type} {x : Except ε α} (h : x.toOption.isNone = true) :
    ∃ e, x = .error e := by
  cases x with
  | error e => exact ⟨e, rfl⟩
  | ok a => cases h

end Sketch

namespace Arguments

open Sketch in
/-- A project with nothing but a document: an override that is no document, a document that
is not there, and a run that finds no template in the directory that it makes. -/
theorem run_failing_bare :
    (∃ e s', (asking "/d" (some ['x'])).run ⟨false⟩ (start bare) = .error e s' ∧
      Unchanged (start bare) s') ∧
    (∃ e s', (asking "/e" none).run ⟨false⟩ (start bare) = .error e s' ∧
      Unchanged (start bare) s') ∧
    ∃ settings e s', Settings.read bare "/d".toList = .ok settings ∧
      (asking "/d" none).run ⟨false⟩ (start bare) = .error e s' ∧
      OnlyMakes settings.Names bare s'.files ∧
      s'.files.root.item? ["a".toList, "out".toList] = some .dir := by
  refine ⟨?_, ?_, ?_⟩
  · obtain ⟨-, hpath⟩ := run_failing (asking "/d" (some ['x'])) ⟨false⟩ (start bare) sound_bare
    obtain ⟨e, he⟩ : ∃ e, (asking "/d" (some ['x'])).override bare = .error e :=
      exists_error (by decide +kernel)
    exact ⟨e, (hpath _ rfl).1 e he⟩
  · obtain ⟨-, hpath⟩ := run_failing (asking "/e" none) ⟨false⟩ (start bare) sound_bare
    obtain ⟨e, he⟩ : ∃ e, Settings.read bare "/e".toList = .error e :=
      exists_error (by decide +kernel)
    exact ⟨e, ((hpath _ rfl).2 none rfl).1 e he⟩
  · obtain ⟨-, hpath⟩ := run_failing (asking "/d" none) ⟨false⟩ (start bare) sound_bare
    obtain ⟨settings, hread⟩ := exists_read_bare
    obtain ⟨e, s', hrun, hstats, hitem⟩ := exists_findsNothing
    rcases ((hpath _ rfl).2 none rfl).2 settings hread e s' hrun with ⟨-, -, hmade⟩ | ⟨hcounted, -⟩
    · exact ⟨settings, e, s', hread, hrun, hmade, hitem⟩
    · rw [hstats] at hcounted
      cases hcounted

end Arguments

end TemplateTree
