import TemplateTree.Proofs.Build.Counting
import TemplateTree.Proofs.Run.Progress

/-!
# What a quiet run prints

At very low verbosity only templates that begin and the end of a run are seen.  Directories
that are made, files, commands and their output, and all remarks leave the console as it is,
so a run prints its dots and its summary, and a run that fails no more than dots.
-/

namespace TemplateTree

namespace Session

/-- At very low verbosity, nothing is printed or counted. -/
def Silent (s s' : Session) : Prop :=
  s.reporter.verbosity = .veryLow → s'.console = s.console ∧ s'.reporter = s.reporter

/-- At very low verbosity, nothing is printed but dots for the templates that are counted. -/
def KeepsDots (s s' : Session) : Prop :=
  ∀ s₀ stats, s₀.reporter.verbosity = .veryLow → Dotted s₀ stats s →
    ∃ stats', Dotted s₀ stats' s'

theorem Silent.refl (s : Session) : Silent s s :=
  fun _ => ⟨rfl, rfl⟩

theorem Silent.trans (s₁ s₂ s₃ : Session) (h : Silent s₁ s₂) (h' : Silent s₂ s₃) :
    Silent s₁ s₃ := by
  intro hlow
  obtain ⟨hconsole, hreporter⟩ := h hlow
  obtain ⟨hconsole', hreporter'⟩ := h' (hreporter ▸ hlow)
  exact ⟨hconsole'.trans hconsole, hreporter'.trans hreporter⟩

theorem KeepsDots.refl (s : Session) : KeepsDots s s :=
  fun _ stats _ h => ⟨stats, h⟩

theorem KeepsDots.trans (s₁ s₂ s₃ : Session) (h : KeepsDots s₁ s₂) (h' : KeepsDots s₂ s₃) :
    KeepsDots s₁ s₃ := by
  intro s₀ stats hlow hs₁
  obtain ⟨stats', hs₂⟩ := h s₀ stats hlow hs₁
  exact h' s₀ stats' hlow hs₂

variable {s₀ s s' : Session} {stats : RunStats}

theorem Dotted.verbosity_eq (h : Dotted s₀ stats s) :
    s.reporter.verbosity = s₀.reporter.verbosity := by
  rw [h.reporter_eq, Reporter.having]

theorem Dotted.stats_eq (h : Dotted s₀ stats s) : s.reporter.stats = stats := by
  rw [h.reporter_eq, Reporter.having]

theorem Dotted.silent (h : Dotted s₀ stats s) (hlow : s₀.reporter.verbosity = .veryLow)
    (hs : Silent s s') : Dotted s₀ stats s' := by
  obtain ⟨hconsole, hreporter⟩ := hs (h.verbosity_eq.trans hlow)
  exact ⟨hreporter.trans h.reporter_eq, hconsole.trans h.console_eq⟩

theorem Silent.keepsDots (h : Silent s s') : KeepsDots s s' :=
  fun _ stats hlow hs => ⟨stats, hs.silent hlow h⟩

end Session

open Session

namespace Job

variable {α : Type} {x : Job α}

/-! ## Jobs that print nothing -/

theorem silent_report {line : Reporter → Text}
    (h : ∀ r, r.verbosity = .veryLow → line r = []) : Within Silent (report line) := by
  refine within_modify fun s hlow => ⟨?_, rfl⟩
  dsimp only
  rw [h s.reporter hlow, printError_nil]

theorem silent_debug (message : Text) : Within Silent (debug message) :=
  silent_report fun _ hlow => Reporter.whenever_of_veryLow hlow (by decide) _

theorem silent_note (verb message : Text) : Within Silent (note verb message) :=
  silent_report fun _ hlow => Reporter.whenever_of_veryLow hlow (by decide) _

theorem silent_directoryCreated (path : Path) : Within Silent (directoryCreated path) :=
  (within_get Silent.refl).bind Silent.trans fun _ =>
    silent_report fun _ hlow => Reporter.whenever_of_veryLow hlow (by decide) _

theorem silent_commandOutput (text : Text) : Within Silent (commandOutput text) := by
  refine within_modify fun s hlow => ⟨?_, rfl⟩
  dsimp only
  rw [Reporter.commandOutput, Reporter.whenever_of_veryLow hlow (by decide), Console.print,
    List.append_nil]

theorem silent_changeFiles (path : Path) (attempt : Text)
    (change : Session → Except FileError FileTree) :
    Within Silent (changeFiles path attempt change) :=
  within_changeFiles Silent.refl fun _ _ _ _ => ⟨rfl, rfl⟩

theorem silent_prepareParents (create : Bool) (targets : List Path) :
    Within Silent (prepareParents create targets) := by
  apply within_prepareParents Silent.refl Silent.trans
  intro _ _ dir _
  exact within_prepareDirectory Silent.refl Silent.trans (fun _ _ => ⟨rfl, rfl⟩)
    (silent_directoryCreated dir)

theorem keepsDots_of_silent (h : Within Silent x) : Within KeepsDots x :=
  fun s => (h s).keepsDots

/-! ## Jobs that print dots -/

theorem keepsDots_templateStarted (name : Text) : Within KeepsDots (templateStarted name) :=
  fun _ _ stats hlow h => ⟨stats.add ⟨1, 0⟩, h.templateStarted hlow name⟩

theorem keepsDots_fileSaved (path : Path) : Within KeepsDots (fileSaved path) :=
  fun _ _ stats hlow h => ⟨stats.add ⟨0, 1⟩, h.fileSaved hlow path⟩

theorem keepsDots_writeSections (settings : Settings) (sections : List Section) :
    Within KeepsDots (writeSections settings sections) := by
  apply within_writeSections KeepsDots.refl KeepsDots.trans
  · exact keepsDots_of_silent (silent_prepareParents _ _)
  · intro r _
    exact within_writeSection KeepsDots.refl KeepsDots.trans
      (fun _ _ _ _ => Silent.keepsDots fun _ => ⟨rfl, rfl⟩)
      (fun _ _ _ => Silent.keepsDots fun _ => ⟨rfl, rfl⟩) (keepsDots_fileSaved _)

end Job

open Job

namespace Generator

variable {g : Generator} {onlyModified : Bool} {overrides : Option Namespace}
  {templates : List TemplateFile} {s s' : Session} {stats : RunStats} {e : Failure}

theorem keepsDots_renderEach (g : Generator) (overrides : Option Namespace)
    (templates : List TemplateFile) : Within KeepsDots (g.renderEach overrides templates) :=
  within_renderEach KeepsDots.refl KeepsDots.trans fun _ _ =>
    g.environment.within_renderTemplate KeepsDots.refl KeepsDots.trans
      (keepsDots_templateStarted _) (fun _ => Silent.keepsDots fun _ => ⟨rfl, rfl⟩)
      (keepsDots_writeSections _)

theorem silent_cutoff (g : Generator) (onlyModified : Bool) :
    Within Silent (g.cutoff onlyModified) := by
  unfold cutoff
  split
  · exact within_pure Silent.refl
  · refine (within_get Silent.refl).bind Silent.trans fun s => ?_
    split
    · exact within_pure Silent.refl
    · exact (silent_debug _).bind Silent.trans fun _ => within_pure Silent.refl

theorem silent_runPostCommands (g : Generator) : Within Silent g.runPostCommands :=
  within_runPostCommands Silent.refl Silent.trans (fun line => silent_note "Running" line)
    (fun _ _ => within_runChecked (fun _ _ => ⟨rfl, rfl⟩) fun _ _ _ _ _ _ => ⟨rfl, rfl⟩)
    silent_commandOutput

theorem silent_write_watermark (w : Watermark) (seconds : Nat) :
    Within Silent (w.write seconds) :=
  silent_changeFiles _ _ _

theorem begins_of_veryLow (g : Generator) (onlyModified : Bool)
    (hlow : s.reporter.verbosity = .veryLow) :
    (g.begins onlyModified s).console = s.console ∧
    (g.begins onlyModified s).reporter = s.reporter.start s.now := by
  obtain ⟨hconsole, hreporter⟩ := silent_cutoff g onlyModified s hlow
  obtain ⟨-, hnow, -⟩ := unchanged_cutoff g onlyModified s
  refine ⟨hconsole, ?_⟩
  change ((g.cutoff onlyModified).after s).reporter.start ((g.cutoff onlyModified).after s).now = _
  rw [hreporter, hnow]

theorem verbosity_begins (g : Generator) (onlyModified : Bool)
    (hlow : s.reporter.verbosity = .veryLow) :
    (g.begins onlyModified s).reporter.verbosity = .veryLow := by
  rw [(begins_of_veryLow g onlyModified hlow).2]
  exact hlow

theorem dotted_of_renderEach (hlow : s.reporter.verbosity = .veryLow)
    (h : g.renderEach overrides templates (g.begins onlyModified s) = .ok stats s') :
    Dotted (g.begins onlyModified s) stats s' := by
  obtain ⟨stats', hdotted⟩ := (keepsDots_renderEach g overrides templates).of_ok h _ .zero
    (verbosity_begins g onlyModified hlow) (dotted_start _)
  obtain ⟨hstats, -⟩ := renderEach_eq_ok h
  have hzero : (g.begins onlyModified s).reporter.stats.add stats = stats := by
    change RunStats.zero.add stats = stats
    simp only [RunStats.add, RunStats.zero, Nat.zero_add]
  rw [hzero, hdotted.stats_eq] at hstats
  exact hstats ▸ hdotted

/-- Once its templates are rendered, only a command or the watermark can fail a run. -/
theorem silent_of_conclude_error {started : Instant} {total : RunStats}
    (h : g.conclude started templates total s = .error e s') : Silent s s' := by
  unfold conclude at h
  split at h
  case isTrue =>
    rcases bind_eq_error h with hnote | ⟨_, s₁, -, h⟩
    · cases hnote
    · cases h
  case isFalse =>
    rcases bind_eq_error h with hcommands | ⟨_, s₁, hcommands, h⟩
    · exact (silent_runPostCommands g).of_error hcommands
    · have hran := (silent_runPostCommands g).of_ok hcommands
      rcases bind_eq_error h with hwrite | ⟨_, s₂, -, h⟩
      · exact Silent.trans _ _ _ hran ((silent_write_watermark _ _).of_error hwrite)
      · rcases bind_eq_error h with hfinish | ⟨_, s₃, -, h⟩
        · cases hfinish
        · cases h

/-- A run at very low verbosity that ends well prints a dot for every ten templates, closes the
line, and prints its summary.  It prints nothing if it had no template to render. -/
theorem console_of_renderAll (hlow : s.reporter.verbosity = .veryLow)
    (h : g.renderAll onlyModified overrides s = .ok stats s') :
    s'.console = s.console.printError (if stats.templatesProcessed = 0 then [] else
      (Reporter.dotLines (stats.templatesProcessed / 10)).flatten ++
        s.reporter.summaryLine stats (s'.now - s.now).toNat) := by
  obtain ⟨templates, hselected, hlength, -⟩ := renderAll_eq_ok h
  obtain ⟨hconsole, hreporter⟩ := begins_of_veryLow g onlyModified hlow
  rw [renderAll_of_selected hselected] at h
  obtain ⟨total, s₁, heach, hend⟩ := bind_eq_ok h
  obtain rfl := conclude_eq_ok hend
  have hdotted := dotted_of_renderEach hlow heach
  have hlow' := verbosity_begins g onlyModified hlow
  unfold conclude at hend
  split at hend
  case isTrue hempty =>
    obtain ⟨_, s₂, hnote, hend⟩ := bind_eq_ok hend
    cases hend
    have hzero : stats.templatesProcessed = 0 := by
      rw [hlength, List.isEmpty_iff.mp hempty, List.length_nil]
    have hnoted := hdotted.silent hlow' ((silent_note _ _).of_ok hnote)
    rw [if_pos hzero, hnoted.console_eq, hzero, hconsole]
    rfl
  case isFalse hne =>
    obtain ⟨_, s₂, hcommands, hend⟩ := bind_eq_ok hend
    obtain ⟨_, s₃, hwrite, hend⟩ := bind_eq_ok hend
    cases hend
    have hran := hdotted.silent hlow' ((silent_runPostCommands g).of_ok hcommands)
    have hwrote := hran.silent hlow' ((silent_write_watermark _ _).of_ok hwrite)
    have hpos : stats.templatesProcessed ≠ 0 := by
      rw [hlength]
      simpa using hne
    have hfinish := Told.finish hwrote
    rw [Reporter.closing_of_veryLow hlow', ← Reporter.flatten_dotLines, hconsole, hreporter]
      at hfinish
    rw [if_neg hpos]
    exact hfinish

/-- A run at very low verbosity that fails has printed dots and no summary. -/
theorem console_of_renderAll_error (hlow : s.reporter.verbosity = .veryLow)
    (h : g.renderAll onlyModified overrides s = .error e s') :
    ∃ d, s'.console = s.console.printError (Reporter.dotted d) := by
  obtain ⟨hconsole, -⟩ := begins_of_veryLow g onlyModified hlow
  have hlow' := verbosity_begins g onlyModified hlow
  cases hselected : g.selected s.files onlyModified with
  | error e' =>
      rw [renderAll_eq, hselected] at h
      cases h
      exact ⟨0, hconsole.trans (printError_nil _).symm⟩
  | ok templates =>
      suffices hdotted : ∃ stats, Dotted (g.begins onlyModified s) stats s' by
        obtain ⟨stats, hdotted⟩ := hdotted
        exact ⟨_, hconsole ▸ hdotted.console_eq⟩
      rw [renderAll_of_selected hselected] at h
      rcases bind_eq_error h with heach | ⟨total, s₁, heach, hend⟩
      · exact (keepsDots_renderEach g overrides templates).of_error heach _ .zero hlow'
          (dotted_start _)
      · have hdotted := dotted_of_renderEach hlow heach
        exact ⟨total, hdotted.silent hlow' (silent_of_conclude_error hend)⟩

end Generator

end TemplateTree
