import TemplateTree.Proofs.Build.Outcomes

/-!
# How runs end

A run that selects some templates renders them in order, then runs the commands in order,
and at last writes the watermark.  The first of these steps that fails is the last one
that is taken.
-/

namespace TemplateTree.Generator

open FileTree Session Job

/-- Templates that are rendered one after the other. -/
inductive Renders (g : Generator) (overrides : Option Namespace) :
    List TemplateFile → Session → Session → Prop
  | nil {s : Session} : Renders g overrides [] s s
  | cons {f : TemplateFile} {rest : List TemplateFile} {s s₁ s₂ : Session} {stats : RunStats}
      (hfirst : g.environment.renderTemplate g.settings f.name overrides s = .ok stats s₁)
      (hrest : Renders g overrides rest s₁ s₂) : Renders g overrides (f :: rest) s s₂

/-- What a machine does that runs a command. -/
def Executes (g : Generator) (line : Text) (s : Session) (outcome : Shell.Outcome)
    (s' : Session) : Prop :=
  s.execute g.settings.rootDir line = .ok (outcome, s'.files, s'.now) ∧ s'.host = s.host.next

/-- A command that ends with status zero. -/
def Succeeds (g : Generator) (line : Text) (s s' : Session) : Prop :=
  ∃ outcome, g.Executes line s outcome s' ∧ outcome.status = some 0

/-- A command that cannot be run, or does not end with status zero. -/
def Fails (g : Generator) (line : Text) (s : Session) (e : Failure) (s' : Session) : Prop :=
  (∃ refusal, s.execute g.settings.rootDir line = .error refusal ∧
    Unchanged s.turned s' ∧ e = .command line none refusal.message) ∨
  ∃ outcome, g.Executes line s outcome s' ∧ outcome.status ≠ some 0 ∧
    e = .command line (outcome.status.map Int.ofNat) (Text.trimEnd outcome.err)

/-- Commands that succeed one after the other. -/
inductive RunsCommands (g : Generator) : List Text → Session → Session → Prop
  | nil {s s' : Session} (h : Unchanged s s') : RunsCommands g [] s s'
  | cons {line : Text} {rest : List Text} {s s₁ s₂ : Session} (hfirst : g.Succeeds line s s₁)
      (hrest : RunsCommands g rest s₁ s₂) : RunsCommands g (line :: rest) s s₂

/-- A run that renders everything it selects, runs every command, and then writes the
second in which it started. -/
def Completes (g : Generator) (onlyModified : Bool) (overrides : Option Namespace)
    (s s' : Session) : Prop :=
  ∃ templates s₁ s₂ s₃, g.selected s.files onlyModified = .ok templates ∧ templates ≠ [] ∧
    Unchanged s s₁ ∧ g.Renders overrides templates s₁ s₂ ∧
    g.RunsCommands g.settings.postCommands s₂ s₃ ∧
    s₃.files.write s₃.now g.watermark.path (Watermark.toBytes (Instant.floorSeconds s.now)) =
      .ok s'.files ∧ s'.now = s₃.now ∧ s'.host = s₃.host

/-- The ways in which a run ends. -/
inductive Ends (g : Generator) (onlyModified : Bool) (overrides : Option Namespace)
    (s : Session) : EStateM.Result Failure Session RunStats → Prop
  | unread {e : Failure} {s' : Session} (hselected : g.selected s.files onlyModified = .error e)
      (hs : Unchanged s s') : Ends g onlyModified overrides s (.error e s')
  | idle {s' : Session} (hselected : g.selected s.files onlyModified = .ok [])
      (hs : Unchanged s s') : Ends g onlyModified overrides s (.ok .zero s')
  | unrendered {before rest : List TemplateFile} {f : TemplateFile} {s₁ s₂ s' : Session}
      {e : Failure} (hselected : g.selected s.files onlyModified = .ok (before ++ f :: rest))
      (hs : Unchanged s s₁) (hbefore : g.Renders overrides before s₁ s₂)
      (hfailed : g.environment.renderTemplate g.settings f.name overrides s₂ = .error e s') :
      Ends g onlyModified overrides s (.error e s')
  | stopped {templates : List TemplateFile} {before rest : List Text} {line : Text}
      {s₁ s₂ s₃ s' : Session} {e : Failure}
      (hselected : g.selected s.files onlyModified = .ok templates) (hne : templates ≠ [])
      (hs : Unchanged s s₁) (hall : g.Renders overrides templates s₁ s₂)
      (hcommands : g.settings.postCommands = before ++ line :: rest)
      (hbefore : g.RunsCommands before s₂ s₃) (hfailed : g.Fails line s₃ e s') :
      Ends g onlyModified overrides s (.error e s')
  | unwritten {templates : List TemplateFile} {s₁ s₂ s₃ s' : Session} {refusal : FileError}
      (hselected : g.selected s.files onlyModified = .ok templates) (hne : templates ≠ [])
      (hs : Unchanged s s₁) (hall : g.Renders overrides templates s₁ s₂)
      (hcommands : g.RunsCommands g.settings.postCommands s₂ s₃)
      (hfailed : s₃.files.write s₃.now g.watermark.path
        (Watermark.toBytes (Instant.floorSeconds s.now)) = .error refusal)
      (hs' : Unchanged s₃ s') : Ends g onlyModified overrides s
        (.error (.io g.watermark.path ("Failed to write watermark: " ++ refusal.message)) s')
  | completed {stats : RunStats} {s' : Session}
      (hcompletes : g.Completes onlyModified overrides s s')
      (hstats : stats.templatesProcessed ≠ 0) : Ends g onlyModified overrides s (.ok stats s')

variable {g : Generator} {onlyModified : Bool} {overrides : Option Namespace}
  {s s' u : Session} {stats : RunStats} {e : Failure} {templates : List TemplateFile}
  {line : Text} {lines : List Text}

/-! ## Rendering in order -/

theorem renders_of_renderEach (h : g.renderEach overrides templates s = .ok stats s') :
    g.Renders overrides templates s s' := by
  induction templates generalizing s stats with
  | nil =>
      cases h
      exact .nil
  | cons f rest ih =>
      obtain ⟨here, s₁, hfirst, h⟩ := bind_eq_ok h
      obtain ⟨there, s₂, hrest, h⟩ := bind_eq_ok h
      cases h
      exact .cons hfirst (ih hrest)

theorem exists_of_renderEach (h : g.renderEach overrides templates s = .error e s') :
    ∃ before f rest s₁, templates = before ++ f :: rest ∧ g.Renders overrides before s s₁ ∧
      g.environment.renderTemplate g.settings f.name overrides s₁ = .error e s' := by
  induction templates generalizing s with
  | nil => cases h
  | cons f rest ih =>
      rcases bind_eq_error h with hfirst | ⟨here, s₁, hfirst, h⟩
      · exact ⟨[], f, rest, s, rfl, .nil, hfirst⟩
      · rcases bind_eq_error h with hrest | ⟨there, s₂, -, h⟩
        · obtain ⟨before, f', rest', s₂, rfl, hbefore, hfailed⟩ := ih hrest
          exact ⟨f :: before, f', rest', s₂, rfl, .cons hfirst hbefore, hfailed⟩
        · cases h

/-- What can be rendered in a session can be in any other one with the same files. -/
theorem Renders.renderEach (h : g.Renders overrides templates s s') (hu : Unchanged s u) :
    ∃ stats u', g.renderEach overrides templates u = .ok stats u' ∧ Unchanged s' u' := by
  induction h generalizing u with
  | nil => exact ⟨.zero, u, rfl, hu⟩
  | @cons f rest s s₁ s₂ stats hfirst _ ih =>
      -- what a rendering does to files depends on them, on the time and on the machine only
      have hdoes := g.does_renderTemplate_at overrides f s
      obtain ⟨hufiles, hunow, huhost⟩ := hu
      obtain ⟨hfiles, hnow, hhost⟩ := hdoes.eq_some ⟨rfl, rfl⟩ hfirst
      rw [← hufiles, ← hunow] at hfiles
      obtain ⟨here, u₁, hfirst', hfiles', hnow', hhost'⟩ :=
        hdoes.exists_ok ⟨huhost, hunow⟩ hfiles
      obtain ⟨there, u', hrest, hu'⟩ :=
        ih ⟨hfiles', hnow'.trans (hunow.trans hnow.symm), hhost'.trans hhost.symm⟩
      refine ⟨here.add there, u', ?_, hu'⟩
      rw [Generator.renderEach, bind_of_ok hfirst', bind_of_ok hrest]
      rfl

/-! ## Commands in order -/

/-- Say that a command is run, run it, and pass on what it prints. -/
def runLine (g : Generator) (line : Text) : Job PUnit := do
  Job.note "Running" line
  Job.commandOutput (← Job.runChecked line g.settings.rootDir).out

theorem runPostCommands_eq : g.runPostCommands = g.settings.postCommands.forM g.runLine := rfl

theorem execute_of_unchanged (h : Unchanged s u) (dir : Path) (line : Text) :
    u.execute dir line = s.execute dir line := by
  obtain ⟨hfiles, hnow, hhost⟩ := h
  rw [execute, execute, hfiles, hnow, hhost]

theorem succeeds_of_runLine (h : g.runLine line s = .ok ⟨⟩ s') : g.Succeeds line s s' := by
  obtain ⟨_, s₁, hnote, h⟩ := bind_eq_ok h
  obtain ⟨outcome, s₂, hrun, h⟩ := bind_eq_ok h
  have hs₁ : Unchanged s s₁ := (unchanged_report _).of_ok hnote
  obtain ⟨hfiles', hnow', hhost'⟩ := (unchanged_commandOutput outcome.out).of_ok h
  obtain ⟨files, now, hshell, hsuccess, rfl⟩ := runChecked_eq_ok hrun
  rw [execute_of_unchanged hs₁] at hshell
  refine ⟨outcome, ⟨?_, ?_⟩, of_decide_eq_true hsuccess⟩
  · rw [hfiles', hnow']
    exact hshell
  · rw [hhost', ← hs₁.2.2]
    rfl

theorem fails_of_runLine (h : g.runLine line s = .error e s') : g.Fails line s e s' := by
  rcases bind_eq_error h with hnote | ⟨_, s₁, hnote, h⟩
  · cases hnote
  · have hs₁ : Unchanged s s₁ := (unchanged_report _).of_ok hnote
    have hhost : s₁.host.next = s.host.next := by rw [hs₁.2.2]
    rcases bind_eq_error h with hrun | ⟨outcome, s₂, -, h⟩
    · rw [runChecked_apply, execute_of_unchanged hs₁] at hrun
      split at hrun
      case h_1 refusal hshell =>
        cases hrun
        exact .inl ⟨refusal, hshell, ⟨hs₁.1, hs₁.2.1, hhost⟩, rfl⟩
      case h_2 outcome files now hshell =>
        split at hrun
        case isTrue => cases hrun
        case isFalse hstatus =>
          cases hrun
          exact .inr ⟨outcome, ⟨hshell, hhost⟩, fun h => hstatus (decide_eq_true h), rfl⟩
    · cases h

theorem Succeeds.runLine (h : g.Succeeds line s s') (hu : Unchanged s u) :
    ∃ u', g.runLine line u = .ok ⟨⟩ u' ∧ Unchanged s' u' := by
  obtain ⟨outcome, ⟨hshell, hhost⟩, hstatus⟩ := h
  have hsuccess : outcome.isSuccess = true := decide_eq_true hstatus
  obtain ⟨u₁, hnote, hu₁⟩ : ∃ u₁, Job.note "Running" line u = .ok () u₁ ∧ Unchanged u u₁ :=
    ⟨_, rfl, rfl, rfl, rfl⟩
  have hsame := Unchanged.trans _ _ _ hu hu₁
  have hrun : runChecked line g.settings.rootDir u₁ =
      .ok outcome { u₁.turned with files := s'.files, now := s'.now } := by
    rw [runChecked_apply, execute_of_unchanged hsame, hshell]
    exact if_pos hsuccess
  refine ⟨_, (bind_of_ok hnote).trans (bind_of_ok hrun), rfl, rfl, ?_⟩
  rw [hhost, ← hsame.2.2]
  rfl

theorem runsCommands_of_forM (h : lines.forM g.runLine s = .ok ⟨⟩ s') :
    g.RunsCommands lines s s' := by
  induction lines generalizing s with
  | nil =>
      cases h
      exact .nil (.refl _)
  | cons line rest ih =>
      obtain ⟨_, s₁, hfirst, hrest⟩ := bind_eq_ok h
      exact .cons (succeeds_of_runLine hfirst) (ih hrest)

theorem RunsCommands.forM (h : g.RunsCommands lines s s') (hu : Unchanged s u) :
    ∃ u', lines.forM g.runLine u = .ok ⟨⟩ u' ∧ Unchanged s' u' := by
  induction h generalizing u with
  | @nil s s' h => exact ⟨u, rfl, .trans _ _ _ h.symm hu⟩
  | cons hfirst _ ih =>
      obtain ⟨u₁, hfirst', hu₁⟩ := hfirst.runLine hu
      obtain ⟨u', hrest, hu'⟩ := ih hu₁
      exact ⟨u', (bind_of_ok hfirst').trans hrest, hu'⟩

/-! ## Whole runs -/

theorem ends_of_renderEach {s₁ s₂ : Session}
    (hselected : g.selected s.files onlyModified = .ok templates) (hne : templates ≠ [])
    (hs : Unchanged s s₁) (heach : g.renderEach overrides templates s₁ = .ok stats s₂) :
    g.Ends onlyModified overrides s ((do
      g.runPostCommands
      g.watermark.write (Instant.floorSeconds s.now)
      Job.finish
      return stats : Job RunStats) s₂) := by
  have hall := renders_of_renderEach heach
  have hlength := templatesProcessed_of_renderEach heach
  rw [runPostCommands_eq]
  cases hcommands : g.settings.postCommands.forM g.runLine s₂ with
  | error e s₃ =>
      obtain ⟨before, line, after, s', hlines, hbefore, hline⟩ := forM_eq_error hcommands
      rw [bind_of_error hcommands]
      exact .stopped hselected hne hs hall hlines (runsCommands_of_forM hbefore)
        (fails_of_runLine hline)
  | ok _ s₃ =>
      have hran := runsCommands_of_forM hcommands
      have hwrite : g.watermark.write (Instant.floorSeconds s.now) s₃ = _ := Watermark.write_apply
      rw [bind_of_ok hcommands]
      cases hfiles : s₃.files.write s₃.now g.watermark.path
          (Watermark.toBytes (Instant.floorSeconds s.now)) with
      | error refusal =>
          rw [hfiles] at hwrite
          rw [bind_of_error hwrite]
          exact .unwritten hselected hne hs hall hran hfiles (.refl s₃)
      | ok files =>
          rw [hfiles] at hwrite
          rw [bind_of_ok hwrite]
          refine .completed ⟨_, s₁, s₂, s₃, hselected, hne, hs, hall, hran, hfiles, rfl, rfl⟩ ?_
          rw [hlength]
          exact fun hzero => hne (List.length_eq_zero_iff.mp hzero)

/-- Every run ends in one of the ways. -/
theorem ends_renderAll (g : Generator) (onlyModified : Bool) (overrides : Option Namespace)
    (s : Session) : g.Ends onlyModified overrides s (g.renderAll onlyModified overrides s) := by
  obtain ⟨s₁, htalked, hrun⟩ := renderAll_apply g overrides onlyModified s
  have hs₁ := htalked.unchanged
  rw [hrun]
  cases hselected : g.selected s.files onlyModified with
  | error e => exact .unread hselected hs₁
  | ok templates =>
      have hselect : (Job.ofExcept (.ok templates) : Job _) s₁ = .ok templates s₁ := rfl
      obtain ⟨s₂, hstart, hs₂⟩ : ∃ s₂, Job.start s₁ = .ok () s₂ ∧ Unchanged s₁ s₂ :=
        ⟨_, rfl, rfl, rfl, rfl⟩
      have hs := Unchanged.trans _ _ _ hs₁ hs₂
      rw [bind_of_ok hselect, renderSelected, bind_of_ok hstart]
      cases heach : g.renderEach overrides templates s₂ with
      | error e s₃ =>
          obtain ⟨before, f, rest, s', rfl, hbefore, hfailed⟩ := exists_of_renderEach heach
          rw [bind_of_error heach]
          exact .unrendered hselected hs hbefore hfailed
      | ok stats s₃ =>
          rw [bind_of_ok heach]
          cases templates with
          | nil =>
              cases heach
              exact .idle hselected hs
          | cons f rest => exact ends_of_renderEach hselected (List.cons_ne_nil f rest) hs heach

/-- A run that can be completed is. -/
theorem Completes.renderAll (h : g.Completes onlyModified overrides s s') :
    ∃ stats u, g.renderAll onlyModified overrides s = .ok stats u ∧ Unchanged s' u ∧
      stats.templatesProcessed ≠ 0 := by
  obtain ⟨templates, s₁, s₂, s₃, hselected, hne, hs, hall, hcommands, hwrite, hnow, hhost⟩ := h
  obtain ⟨u₁, htalked, hrun⟩ := renderAll_apply g overrides onlyModified s
  have hu₁ := htalked.unchanged
  obtain ⟨u₂, hstart, hu₂⟩ : ∃ u₂, Job.start u₁ = .ok () u₂ ∧ Unchanged u₁ u₂ :=
    ⟨_, rfl, rfl, rfl, rfl⟩
  have hu : Unchanged s₁ u₂ := .trans _ _ _ (.trans _ _ _ hs.symm hu₁) hu₂
  obtain ⟨stats, u₃, heach, hu₃⟩ := hall.renderEach hu
  obtain ⟨u₄, hran, hu₄⟩ := hcommands.forM hu₃
  have hwritten : g.watermark.write (Instant.floorSeconds s.now) u₄ =
      .ok () { u₄ with files := s'.files } := by
    rw [Watermark.write_apply, hu₄.1, hu₄.2.1, hwrite]
  obtain ⟨u₅, hfinish, hu₅⟩ : ∃ u₅, Job.finish { u₄ with files := s'.files } = .ok () u₅ ∧
      Unchanged { u₄ with files := s'.files } u₅ := ⟨_, rfl, rfl, rfl, rfl⟩
  have hselect : (Job.ofExcept (.ok templates) : Job _) u₁ = .ok templates u₁ := rfl
  have hempty : templates.isEmpty = false := by simpa using hne
  refine ⟨stats, u₅, ?_, ⟨hu₅.1, ?_, ?_⟩, ?_⟩
  · rw [hrun, hselected, bind_of_ok hselect, renderSelected, bind_of_ok hstart,
      bind_of_ok heach, hempty, if_neg Bool.false_ne_true, runPostCommands_eq, bind_of_ok hran,
      bind_of_ok hwritten, bind_of_ok hfinish]
    rfl
  · rw [hu₅.2.1, hnow]
    exact hu₄.2.1
  · rw [hu₅.2.2, hhost]
    exact hu₄.2.2
  · rw [templatesProcessed_of_renderEach heach]
    exact fun hzero => hne (List.length_eq_zero_iff.mp hzero)

theorem completes_iff : (∃ stats s', g.renderAll onlyModified overrides s = .ok stats s' ∧
      stats.templatesProcessed ≠ 0) ↔ ∃ s', g.Completes onlyModified overrides s s' := by
  constructor
  · rintro ⟨stats, s', hrun, hstats⟩
    have hends := g.ends_renderAll onlyModified overrides s
    rw [hrun] at hends
    cases hends with
    | idle => exact absurd rfl hstats
    | completed hcompletes => exact ⟨s', hcompletes⟩
  · rintro ⟨s', hcompletes⟩
    obtain ⟨stats, u, hrun, -, hstats⟩ := hcompletes.renderAll
    exact ⟨stats, u, hrun, hstats⟩

end TemplateTree.Generator
