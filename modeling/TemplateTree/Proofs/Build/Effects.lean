import TemplateTree.Proofs.Build.Within

/-!
# What a run does to files

Making a generator leaves files as they are.  Everything else that a run does, in
success and in failure, is a row of operations at the time of the run; only the
commands of the settings may take time.
-/

namespace TemplateTree

namespace Session

/-- Only the stream of errors goes on. -/
def Talked (s s' : Session) : Prop :=
  ∃ err, s' = { s with console := { s.console with err := err } }

/-- Files and time stay, and the machine is not turned to. -/
def Unchanged (s s' : Session) : Prop :=
  s'.files = s.files ∧ s'.now = s.now ∧ s'.host = s.host

/-- Operations on files at one time. -/
def Touched (s s' : Session) : Prop :=
  s.host.Later s'.host ∧
    (s.files.Sound → FileTree.Touches s.now s.files s'.files ∧ s'.now = s.now)

/-- Operations on files as time goes on. -/
def Passed (s s' : Session) : Prop :=
  s.host.Later s'.host ∧ (s.files.Sound → FileTree.Passes (s.files, s.now) (s'.files, s'.now))

theorem Talked.refl (s : Session) : Talked s s :=
  ⟨s.console.err, rfl⟩

theorem Talked.trans (s₁ s₂ s₃ : Session) (h : Talked s₁ s₂) (h' : Talked s₂ s₃) :
    Talked s₁ s₃ := by
  obtain ⟨_, rfl⟩ := h
  obtain ⟨err, rfl⟩ := h'
  exact ⟨err, rfl⟩

theorem Unchanged.refl (s : Session) : Unchanged s s :=
  ⟨rfl, rfl, rfl⟩

theorem Unchanged.trans (s₁ s₂ s₃ : Session) (h : Unchanged s₁ s₂) (h' : Unchanged s₂ s₃) :
    Unchanged s₁ s₃ :=
  ⟨h'.1.trans h.1, h'.2.1.trans h.2.1, h'.2.2.trans h.2.2⟩

theorem Touched.refl (s : Session) : Touched s s :=
  ⟨.refl, fun _ => ⟨.refl, rfl⟩⟩

theorem Touched.trans (s₁ s₂ s₃ : Session) (h : Touched s₁ s₂) (h' : Touched s₂ s₃) :
    Touched s₁ s₃ := by
  refine ⟨h.1.trans h'.1, fun hs => ?_⟩
  obtain ⟨hfirst, hnow⟩ := h.2 hs
  obtain ⟨hrest, hnow'⟩ := h'.2 (hfirst.sound hs)
  rw [hnow] at hrest
  exact ⟨hfirst.trans hrest, hnow'.trans hnow⟩

theorem Touched.turned (s : Session) : Touched s s.turned :=
  ⟨s.host.later_next, fun _ => ⟨.refl, rfl⟩⟩

theorem Passed.refl (s : Session) : Passed s s :=
  ⟨.refl, fun _ => .refl⟩

theorem Passed.trans (s₁ s₂ s₃ : Session) (h : Passed s₁ s₂) (h' : Passed s₂ s₃) :
    Passed s₁ s₃ := by
  refine ⟨h.1.trans h'.1, fun hs => ?_⟩
  have hfirst := h.2 hs
  exact hfirst.trans (h'.2 (hfirst.sound hs))

theorem Unchanged.symm {s s' : Session} (h : Unchanged s s') : Unchanged s' s :=
  ⟨h.1.symm, h.2.1.symm, h.2.2.symm⟩

theorem Talked.unchanged {s s' : Session} (h : Talked s s') : Unchanged s s' := by
  obtain ⟨_, rfl⟩ := h
  exact .refl s

theorem Talked.reporter_eq {s s' : Session} (h : Talked s s') : s'.reporter = s.reporter := by
  obtain ⟨_, rfl⟩ := h
  rfl

theorem Unchanged.touched {s s' : Session} (h : Unchanged s s') : Touched s s' := by
  obtain ⟨hfiles, hnow, hhost⟩ := h
  exact ⟨hhost ▸ .refl, fun _ => ⟨hfiles ▸ .refl, hnow⟩⟩

theorem Touched.passed {s s' : Session} (h : Touched s s') : Passed s s' := by
  refine ⟨h.1, fun hs => ?_⟩
  obtain ⟨htouches, hnow⟩ := h.2 hs
  rw [hnow]
  exact htouches.passes

end Session

theorem Reporter.templateStarted_fst (r : Reporter) (name : Text) : ∃ dots,
    (r.templateStarted name).1 =
      { r with
        stats := { r.stats with templatesProcessed := r.stats.templatesProcessed + 1 }
        dots := dots } := by
  unfold templateStarted
  dsimp only
  split
  · exact ⟨r.dots, rfl⟩
  · split
    · exact ⟨r.dots + 1, rfl⟩
    · exact ⟨r.dots, rfl⟩

open Session

namespace Job

variable {α : Type} {x : Job α}

/-! ## Jobs that only talk -/

theorem talked_report (line : Reporter → Text) : Within Talked (report line) :=
  within_modify fun _ => ⟨_, rfl⟩

theorem talked_logAdded (e : Extension) (noun : String) (before after : List Text) :
    Within Talked (e.logAdded noun before after) := by
  unfold Extension.logAdded
  split
  · exact within_pure Talked.refl
  · exact talked_report _

theorem talked_remark (e : Extension) (env : Environment) : Within Talked (e.remark env) := by
  unfold Extension.remark
  split
  · exact talked_report _
  · split
    · exact within_pure Talked.refl
    · exact talked_report _
  · exact within_pure Talked.refl

theorem talked_applyNamed (settings : Settings) (env : Environment) (kind : ExtensionKind)
    (id : Text) : Within Talked (Extension.applyNamed settings env kind id) := by
  unfold Extension.applyNamed
  split
  case h_2 => exact within_throw Talked.refl
  case h_1 e _ =>
    refine (talked_report _).bind Talked.trans fun _ => ?_
    refine Within.bind Talked.trans ?_ fun env' => ?_
    · refine Within.tryCatch Talked.trans ?_ fun _ => within_throw Talked.refl
      exact (talked_remark e env).bind Talked.trans fun _ => within_ofExcept Talked.refl _
    · refine (talked_logAdded _ _ _ _).bind Talked.trans fun _ => ?_
      refine (talked_logAdded _ _ _ _).bind Talked.trans fun _ => ?_
      exact (talked_logAdded _ _ _ _).bind Talked.trans fun _ => within_pure Talked.refl

theorem talked_applyAll (settings : Settings) (env : Environment) :
    Within Talked (Extension.applyAll settings env) := by
  refine Within.bind Talked.trans ?_ fun _ => ?_
  · exact within_foldlM Talked.refl Talked.trans fun _ _ _ => talked_applyNamed _ _ _ _
  · exact within_foldlM Talked.refl Talked.trans fun _ _ _ => talked_applyNamed _ _ _ _

/-! ## Jobs that leave files alone -/

theorem unchanged_of_talked (h : Within Talked x) : Within Unchanged x :=
  fun s => (h s).unchanged

theorem unchanged_report (line : Reporter → Text) : Within Unchanged (report line) :=
  unchanged_of_talked (talked_report line)

theorem unchanged_count (step : Reporter → Reporter × Text) : Within Unchanged (count step) :=
  within_modify fun _ => ⟨rfl, rfl, rfl⟩

theorem unchanged_shown (p : Path) : Within Unchanged (shown p) :=
  (within_get Unchanged.refl).bind Unchanged.trans fun _ => within_pure Unchanged.refl

theorem unchanged_fileSaved (p : Path) : Within Unchanged (fileSaved p) :=
  (unchanged_shown p).bind Unchanged.trans fun _ => unchanged_count _

theorem unchanged_directoryCreated (p : Path) : Within Unchanged (directoryCreated p) :=
  (unchanged_shown p).bind Unchanged.trans fun _ => unchanged_report _

theorem unchanged_start : Within Unchanged start :=
  within_modify fun _ => ⟨rfl, rfl, rfl⟩

theorem unchanged_finish : Within Unchanged finish :=
  within_modify fun _ => ⟨rfl, rfl, rfl⟩

theorem unchanged_commandOutput (t : Text) : Within Unchanged (commandOutput t) :=
  within_modify fun _ => ⟨rfl, rfl, rfl⟩

theorem touched_of_unchanged (h : Within Unchanged x) : Within Touched x :=
  fun s => (h s).touched

/-! ## Jobs that write -/

theorem touched_prepareDirectory (dir : Path) (create : Bool) :
    Within Touched (prepareDirectory dir create) :=
  within_prepareDirectory Touched.refl Touched.trans
    (fun _ => ⟨.refl, fun hs => ⟨.makeAllDirs hs, rfl⟩⟩)
    (touched_of_unchanged (unchanged_directoryCreated dir))

theorem touched_writeSections (settings : Settings) (sections : List Section) :
    Within Touched (writeSections settings sections) := by
  apply within_writeSections Touched.refl Touched.trans
  · exact within_prepareParents Touched.refl Touched.trans fun _ _ dir _ =>
      touched_prepareDirectory dir _
  · intro r _
    apply within_writeSection Touched.refl Touched.trans
    · exact fun s bytes files hwrite => ⟨.refl, fun hs => ⟨.single (.of_write hs hwrite), rfl⟩⟩
    · exact fun s files hmark => ⟨.refl, fun hs => ⟨.of_markExecutable hs hmark, rfl⟩⟩
    · exact touched_of_unchanged (unchanged_fileSaved _)

end Job

open Job

theorem Environment.touched_renderTemplate (env : Environment) (settings : Settings) (name : Text)
    (overrides : Option Namespace) :
    Within Touched (env.renderTemplate settings name overrides) :=
  env.within_renderTemplate Touched.refl Touched.trans (touched_of_unchanged (unchanged_count _))
    Touched.turned (touched_writeSections settings)

namespace Generator

theorem talked_new (settings : Settings) : Within Talked (new settings) := by
  refine (within_get Talked.refl).bind Talked.trans fun s => ?_
  refine (within_ofExcept Talked.refl _).bind Talked.trans fun env => ?_
  refine (talked_report _).bind Talked.trans fun _ => ?_
  exact (talked_applyAll _ _).bind Talked.trans fun _ => within_pure Talked.refl

theorem unchanged_new (settings : Settings) : Within Unchanged (new settings) :=
  unchanged_of_talked (talked_new settings)

variable (g : Generator) (overrides : Option Namespace)

theorem touched_renderEach (templates : List TemplateFile) :
    Within Touched (g.renderEach overrides templates) :=
  within_renderEach Touched.refl Touched.trans fun f _ =>
    g.environment.touched_renderTemplate g.settings f.name overrides

theorem talked_cutoff (onlyModified : Bool) : Within Talked (g.cutoff onlyModified) := by
  unfold cutoff
  split
  · exact within_pure Talked.refl
  · refine (within_get Talked.refl).bind Talked.trans fun s => ?_
    split
    · exact within_pure Talked.refl
    · exact (talked_report _).bind Talked.trans fun _ => within_pure Talked.refl

theorem unchanged_cutoff (onlyModified : Bool) : Within Unchanged (g.cutoff onlyModified) :=
  unchanged_of_talked (talked_cutoff g onlyModified)

theorem touched_write_watermark (w : Watermark) (seconds : Nat) :
    Within Touched (w.write seconds) :=
  within_changeFiles Touched.refl fun _ _ h => ⟨.refl, fun hs => ⟨.single (.of_write hs h), rfl⟩⟩

end Generator

/-- The commands of settings only do operations on files, each at its time, whenever a
machine runs them. -/
def Settings.CommandsPass (settings : Settings) (h : Host) : Prop :=
  ∀ n, ∀ line ∈ settings.postCommands, ∀ files now outcome files' now', files.Sound →
    (h.moment n).run files now settings.rootDir line = .ok (outcome, files', now') →
    FileTree.Passes (files, now) (files', now')

theorem Settings.CommandsPass.later {settings : Settings} {h h' : Host}
    (hpass : settings.CommandsPass h) (hlater : h.Later h') : settings.CommandsPass h' :=
  hlater.keeps (fun _ hpass n => hpass (n + 1)) hpass

/-- What is kept where commands only do operations on files. -/
def Session.PassedOn (settings : Settings) (s s' : Session) : Prop :=
  settings.CommandsPass s.host → Passed s s'

theorem Session.PassedOn.refl {settings : Settings} (s : Session) : PassedOn settings s s :=
  fun _ => .refl s

theorem Session.PassedOn.trans {settings : Settings} (s₁ s₂ s₃ : Session)
    (h : PassedOn settings s₁ s₂) (h' : PassedOn settings s₂ s₃) : PassedOn settings s₁ s₃ :=
  fun hpass => .trans _ _ _ (h hpass) (h' (hpass.later (h hpass).1))

namespace Job

variable {settings : Settings} {α : Type} {x : Job α}

theorem passedOn_of_touched (h : Within Touched x) : Within (PassedOn settings) x :=
  fun s _ => (h s).passed

theorem passedOn_of_unchanged (h : Within Unchanged x) : Within (PassedOn settings) x :=
  passedOn_of_touched (touched_of_unchanged h)

end Job

namespace Generator

variable {g : Generator}

theorem passedOn_runPostCommands : Within (PassedOn g.settings) g.runPostCommands := by
  apply within_runPostCommands PassedOn.refl PassedOn.trans
  · exact fun _ => passedOn_of_unchanged (unchanged_report _)
  · intro line hline
    apply within_runChecked
    · exact fun s _ => (Touched.turned s).passed
    · exact fun s outcome files now hshell hpass =>
        ⟨s.host.later_next, fun hs => hpass 0 line hline _ _ _ _ _ hs hshell⟩
  · exact fun text => passedOn_of_unchanged (unchanged_commandOutput text)

theorem passedOn_renderAll (onlyModified : Bool) (overrides : Option Namespace) :
    Within (PassedOn g.settings) (g.renderAll onlyModified overrides) := by
  refine (within_get PassedOn.refl).bind PassedOn.trans fun s => ?_
  refine (passedOn_of_unchanged (unchanged_cutoff g onlyModified)).bind PassedOn.trans
    fun cutoff => ?_
  refine (within_get PassedOn.refl).bind PassedOn.trans fun s' => ?_
  refine (within_ofExcept PassedOn.refl _).bind PassedOn.trans fun templates => ?_
  refine (passedOn_of_unchanged unchanged_start).bind PassedOn.trans fun _ => ?_
  refine (passedOn_of_touched (touched_renderEach g overrides templates)).bind PassedOn.trans
    fun total => ?_
  split
  · exact (passedOn_of_unchanged (unchanged_report _)).bind PassedOn.trans fun _ =>
      within_pure PassedOn.refl
  · refine passedOn_runPostCommands.bind PassedOn.trans fun _ => ?_
    refine (passedOn_of_touched (touched_write_watermark _ _)).bind PassedOn.trans fun _ => ?_
    exact (passedOn_of_unchanged unchanged_finish).bind PassedOn.trans fun _ =>
      within_pure PassedOn.refl

end Generator

end TemplateTree
