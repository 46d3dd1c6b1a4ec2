import TemplateTree.Proofs.Build.Completion
import TemplateTree.Proofs.Output.Counting

/-!
# What a run counts

A run starts its counters anew, counts each template that it begins to render, and each file
that it has written.  With success it returns what was counted.
-/

namespace TemplateTree

open Session Job

/-! ## Fragments that describe files -/

namespace Section

variable {m : Markers} {text : Text} {index : Nat} {fragments : List Text} {ss : List Section}

/-- The fragments of a text after the markers of new files, but for blank ones. -/
def described (m : Markers) (text : Text) : List Text :=
  ((Text.splitBy m.newFile text).drop 1).filter fun fragment => !Text.isBlank fragment

theorem length_of_ofFragments (h : ofFragments m index fragments = .ok ss) :
    ss.length = (fragments.filter fun fragment => !Text.isBlank fragment).length := by
  induction fragments generalizing index ss with
  | nil =>
      cases h
      rfl
  | cons fragment rest ih =>
      rw [ofFragments] at h
      split at h
      case isTrue hblank => rw [List.filter_cons_of_neg (by simp [hblank]), ih h]
      case isFalse hblank =>
        obtain ⟨first, -, h⟩ := except_bind_eq_ok h
        obtain ⟨more, hmore, h⟩ := except_bind_eq_ok h
        cases h
        rw [List.filter_cons_of_pos (by simp [hblank]), List.length_cons, List.length_cons,
          ih hmore]

theorem length_of_split (h : split m text = .ok ss) : ss.length = (described m text).length := by
  unfold split at h
  unfold described
  split at h
  case h_1 hnil =>
    cases h
    rw [hnil]
    rfl
  case h_2 leading fragments hcons =>
    split at h
    case isTrue =>
      rw [hcons]
      exact length_of_ofFragments h
    case isFalse => cases h

end Section

namespace Generator

variable {g : Generator} {onlyModified : Bool} {overrides : Option Namespace}
  {templates before rest : List TemplateFile} {f : TemplateFile} {s s₁ s' : Session}
  {stats : RunStats} {e : Failure} {sections : List Section}

/-! ## One template -/

/-- The session in which the sections of a template are written. -/
def writing (f : TemplateFile) (s : Session) : Session :=
  ((templateStarted f.name).after s).turned

/-- How many files are written when a template is rendered, with success or not. -/
def filesOf (g : Generator) (overrides : Option Namespace) (f : TemplateFile) (s : Session) :
    Nat :=
  match g.sections? overrides (fun _ => s.outlook) f with
  | some sections => filesSaved g.settings sections (writing f s)
  | none => 0

theorem stats_writing (f : TemplateFile) (s : Session) :
    (writing f s).reporter.stats = s.reporter.stats.add ⟨1, 0⟩ := by
  obtain ⟨dots, hstarted⟩ := s.reporter.templateStarted_fst f.name
  change (s.reporter.templateStarted f.name).1.stats = _
  rw [hstarted]
  rfl

theorem renderTemplate_of_some
    (h : g.sections? overrides (fun _ => s.outlook) f = some sections) :
    g.environment.renderTemplate g.settings f.name overrides s =
      (writeSections g.settings sections >>= fun saved => pure ⟨1, saved⟩) (writing f s) := by
  obtain ⟨text, hrender, hsections⟩ := Environment.sections?_eq_some_iff.mp h
  rw [Environment.renderTemplate_apply, Settings.writeText, hrender, bind_of_ok ofExcept_apply,
    hsections, bind_of_ok ofExcept_apply]
  rfl

theorem renderTemplate_of_none (h : g.sections? overrides (fun _ => s.outlook) f = none) :
    ∃ e, g.environment.renderTemplate g.settings f.name overrides s = .error e (writing f s) := by
  rw [Environment.renderTemplate_apply, Settings.writeText]
  cases hrender : g.environment.render f.name (g.settings.namespaceWith overrides) s.outlook with
  | error e => exact ⟨e, bind_of_error ofExcept_apply⟩
  | ok text =>
      rw [bind_of_ok ofExcept_apply]
      cases hsections : g.settings.sectionsOf f.name text with
      | error e => exact ⟨e, bind_of_error ofExcept_apply⟩
      | ok sections =>
          have hsome := Environment.sections?_eq_some_iff.mpr ⟨text, hrender, hsections⟩
          rw [sections?, hsome] at h
          cases h

/-- Whatever becomes of it, one template is counted, and the files that were written. -/
theorem stats_after_renderTemplate (g : Generator) (overrides : Option Namespace)
    (f : TemplateFile) (s : Session) :
    ((g.environment.renderTemplate g.settings f.name overrides).after s).reporter.stats =
      s.reporter.stats.add ⟨1, g.filesOf overrides f s⟩ := by
  rw [filesOf]
  cases hsections : g.sections? overrides (fun _ => s.outlook) f with
  | none =>
      obtain ⟨e, he⟩ := renderTemplate_of_none hsections
      rw [after_of_error he, stats_writing]
  | some sections =>
      have hafter : (g.environment.renderTemplate g.settings f.name overrides).after s =
          (writeSections g.settings sections).after (writing f s) := by
        rw [after, renderTemplate_of_some hsections, ← after]
        exact after_bind_pure
      rw [hafter, stats_after_writeSections, stats_writing, RunStats.add_assoc]
      simp only [RunStats.add, Nat.zero_add, Nat.add_zero]

theorem renderTemplate_eq_ok
    (h : g.environment.renderTemplate g.settings f.name overrides s = .ok stats s') :
    stats = ⟨1, g.filesOf overrides f s⟩ ∧ ∃ text,
      g.environment.render f.name (g.settings.namespaceWith overrides) s.outlook = .ok text ∧
        g.filesOf overrides f s = (Section.described g.settings.markers text).length := by
  rw [filesOf]
  cases hsections : g.sections? overrides (fun _ => s.outlook) f with
  | none =>
      obtain ⟨e, he⟩ := renderTemplate_of_none hsections
      rw [he] at h
      cases h
  | some sections =>
      rw [renderTemplate_of_some hsections] at h
      obtain ⟨n, _, hwrite, h⟩ := bind_eq_ok h
      cases h
      obtain ⟨hn, hsaved⟩ := filesSaved_of_ok hwrite
      obtain ⟨text, hrender, hsplit⟩ := Environment.sections?_eq_some_iff.mp hsections
      dsimp only
      refine ⟨by rw [hn, hsaved], text, hrender, ?_⟩
      rw [hsaved]
      unfold Settings.sectionsOf at hsplit
      split at hsplit
      case h_1 hsections =>
        cases hsplit
        exact Section.length_of_split hsections
      case h_2 => cases hsplit

theorem moves_of_renderTemplate
    (h : g.environment.renderTemplate g.settings f.name overrides s = .ok stats s') :
    s'.now = s.now ∧ s'.host = s.host.next :=
  ((g.does_renderTemplate_at overrides f s).eq_some ⟨rfl, rfl⟩ h).2

/-! ## Templates in order -/

/-- How many files are written when templates are rendered in order, up to the first that
fails. -/
def filesOfEach (g : Generator) (overrides : Option Namespace) :
    List TemplateFile → Session → Nat
  | [], _ => 0
  | f :: rest, s =>
    match g.environment.renderTemplate g.settings f.name overrides s with
    | .ok _ s₁ => g.filesOf overrides f s + g.filesOfEach overrides rest s₁
    | .error _ _ => g.filesOf overrides f s

/-- Texts to which templates render in a session, one after the other. -/
structure RenderTo (g : Generator) (overrides : Option Namespace) (templates : List TemplateFile)
    (s : Session) (texts : List Text) : Prop where
  length : texts.length = templates.length
  text : ∀ k f text, templates[k]? = some f → texts[k]? = some text →
    g.environment.render f.name (g.settings.namespaceWith overrides)
      ((s.host.moment k).answer s.now) = .ok text

theorem RenderTo.cons {texts : List Text} {text : Text} (hnow : s₁.now = s.now)
    (hhost : s₁.host = s.host.next)
    (htext : g.environment.render f.name (g.settings.namespaceWith overrides) s.outlook = .ok text)
    (h : g.RenderTo overrides rest s₁ texts) :
    g.RenderTo overrides (f :: rest) s (text :: texts) := by
  refine ⟨congrArg (· + 1) h.length, fun k f' text' hf' htext' => ?_⟩
  cases k with
  | zero =>
      cases hf'
      cases htext'
      exact htext
  | succ k =>
      have hrest := h.text k f' text' hf' htext'
      rwa [hnow, hhost] at hrest

theorem RenderTo.of_unchanged {texts : List Text} (h : g.RenderTo overrides templates s₁ texts)
    (hs : Unchanged s s₁) : g.RenderTo overrides templates s texts := by
  refine ⟨h.length, fun k f text hf htext => ?_⟩
  rw [← hs.2.1, ← hs.2.2]
  exact h.text k f text hf htext

theorem renderEach_eq_ok (h : g.renderEach overrides templates s = .ok stats s') :
    s'.reporter.stats = s.reporter.stats.add stats ∧
      stats = ⟨templates.length, g.filesOfEach overrides templates s⟩ ∧
      ∃ texts, g.RenderTo overrides templates s texts ∧
        stats.filesSaved =
          (texts.map fun text => (Section.described g.settings.markers text).length).sum := by
  induction templates generalizing s stats with
  | nil =>
      cases h
      exact ⟨rfl, rfl, [], ⟨rfl, fun k f text hf => by cases hf⟩, rfl⟩
  | cons f rest ih =>
      obtain ⟨here, s₁, hhere, h⟩ := bind_eq_ok h
      obtain ⟨there, s₂, hrest, h⟩ := bind_eq_ok h
      cases h
      obtain ⟨hstats, hthere, texts, htexts, hsum⟩ := ih hrest
      obtain ⟨hcounted, text, htext, hfiles⟩ := renderTemplate_eq_ok hhere
      obtain ⟨hnow, hhost⟩ := moves_of_renderTemplate hhere
      have hafter := g.stats_after_renderTemplate overrides f s
      rw [after_of_ok hhere, ← hcounted] at hafter
      refine ⟨by rw [hstats, hafter, RunStats.add_assoc], ?_, text :: texts,
        htexts.cons hnow hhost htext, ?_⟩
      · rw [filesOfEach, hhere, hcounted, hthere]
        simp only [RunStats.add, List.length_cons, Nat.add_comm]
      · rw [List.map_cons, List.sum_cons, ← hsum, ← hfiles, hcounted]
        rfl

/-- If a template fails, it is counted as well as those before it, and so are all files that
were written. -/
theorem stats_of_renders (hbefore : g.Renders overrides before s s₁)
    (hfailed : g.environment.renderTemplate g.settings f.name overrides s₁ = .error e s') :
    s'.reporter.stats = s.reporter.stats.add
      ⟨before.length + 1, g.filesOfEach overrides (before ++ f :: rest) s⟩ := by
  induction hbefore with
  | @nil s =>
      have hafter := g.stats_after_renderTemplate overrides f s
      rw [after_of_error hfailed] at hafter
      rw [hafter, List.nil_append, filesOfEach, hfailed]
      rfl
  | @cons f' before s s₁ s₂ stats hfirst _ ih =>
      have hafter := g.stats_after_renderTemplate overrides f' s
      rw [after_of_ok hfirst] at hafter
      rw [ih hfailed, hafter, RunStats.add_assoc, List.cons_append, filesOfEach, hfirst]
      simp only [RunStats.add, List.length_cons, Nat.add_comm, Nat.add_left_comm]

theorem renderEach_of_renders (hbefore : g.Renders overrides before s s₁)
    (hfailed : g.environment.renderTemplate g.settings f.name overrides s₁ = .error e s') :
    g.renderEach overrides (before ++ f :: rest) s = .error e s' := by
  induction hbefore with
  | nil => exact bind_of_error hfailed
  | cons hfirst _ ih => exact (bind_of_ok hfirst).trans (bind_of_error (ih hfailed))

/-! ## Whole runs -/

/-- The session in which a run begins to render. -/
def begins (g : Generator) (onlyModified : Bool) (s : Session) : Session :=
  Job.start.after ((g.cutoff onlyModified).after s)

theorem unchanged_begins (g : Generator) (onlyModified : Bool) (s : Session) :
    Unchanged s (g.begins onlyModified s) :=
  .trans _ _ _ (unchanged_cutoff g onlyModified s) (unchanged_start _)

/-- How many files are written in a run. -/
def filesOfRun (g : Generator) (onlyModified : Bool) (overrides : Option Namespace) (s : Session) :
    Nat :=
  match g.selected s.files onlyModified with
  | .ok templates => g.filesOfEach overrides templates (g.begins onlyModified s)
  | .error _ => 0

/-- A run that fails while it renders one of the templates that it selected, counted from
one. -/
def FailsAt (g : Generator) (onlyModified : Bool) (overrides : Option Namespace) (s : Session)
    (k : Nat) (e : Failure) (s' : Session) : Prop :=
  ∃ before f rest s₁, g.selected s.files onlyModified = .ok (before ++ f :: rest) ∧
    k = before.length + 1 ∧ g.Renders overrides before (g.begins onlyModified s) s₁ ∧
    g.environment.renderTemplate g.settings f.name overrides s₁ = .error e s'

/-- What is done in a run once its templates are rendered. -/
def conclude (g : Generator) (started : Instant) (templates : List TemplateFile)
    (total : RunStats) : Job RunStats :=
  if templates.isEmpty then do
    Job.note "Skipped" "no templates changed"
    return total
  else do
    g.runPostCommands
    g.watermark.write (Instant.floorSeconds started)
    Job.finish
    return total

theorem countsNothing_conclude (started : Instant) (templates : List TemplateFile)
    (total : RunStats) : Within CountsNothing (g.conclude started templates total) := by
  have hrefl := CountsNothing.refl
  have htrans := CountsNothing.trans
  have hcommands : Within CountsNothing g.runPostCommands :=
    within_runPostCommands hrefl htrans (fun _ => countsNothing_report _)
      (fun _ _ => within_runChecked (fun _ => rfl) fun _ _ _ _ _ => rfl)
      fun _ => within_modify fun _ => rfl
  have hwrite : Within CountsNothing (g.watermark.write (Instant.floorSeconds started)) :=
    within_changeFiles hrefl fun _ _ _ => rfl
  have hfinish : Within CountsNothing Job.finish := within_modify fun _ => rfl
  unfold conclude
  split
  · exact (countsNothing_report _).bind htrans fun _ => within_pure hrefl
  · refine hcommands.bind htrans fun _ => hwrite.bind htrans fun _ => ?_
    exact hfinish.bind htrans fun _ => within_pure hrefl

theorem conclude_eq_ok {started : Instant} {total : RunStats}
    (h : g.conclude started templates total s = .ok stats s') : stats = total := by
  unfold conclude at h
  split at h
  · obtain ⟨_, _, -, h⟩ := bind_eq_ok h
    cases h
    rfl
  · obtain ⟨_, _, -, h⟩ := bind_eq_ok h
    obtain ⟨_, _, -, h⟩ := bind_eq_ok h
    obtain ⟨_, _, -, h⟩ := bind_eq_ok h
    cases h
    rfl

theorem renderAll_of_selected (h : g.selected s.files onlyModified = .ok templates) :
    g.renderAll onlyModified overrides s =
      (g.renderEach overrides templates >>= g.conclude s.now templates)
        (g.begins onlyModified s) := by
  rw [renderAll_eq, h]
  rfl

/-- Whatever was counted before, a run that ends well returns what was counted in it: the
templates that it selected, and the files that their texts describe.  One that fails while it
renders a template has counted the templates up to that one, and the files that were written.
It can also fail before it renders, and then nothing is counted anew, or after it has rendered
all. -/
theorem stats_of_renderAll (g : Generator) (onlyModified : Bool) (overrides : Option Namespace)
    (s : Session) :
    (∀ stats s', g.renderAll onlyModified overrides s = .ok stats s' →
      s'.reporter.stats = stats ∧ stats.filesSaved = g.filesOfRun onlyModified overrides s ∧
      ∃ templates texts, g.selected s.files onlyModified = .ok templates ∧
        stats.templatesProcessed = templates.length ∧
        g.RenderTo overrides templates s texts ∧
        stats.filesSaved =
          (texts.map fun text => (Section.described g.settings.markers text).length).sum) ∧
    (∀ k e s', g.FailsAt onlyModified overrides s k e s' →
      g.renderAll onlyModified overrides s = .error e s' ∧
      s'.reporter.stats = ⟨k, g.filesOfRun onlyModified overrides s⟩) ∧
    (∀ e s', g.renderAll onlyModified overrides s = .error e s' →
      (g.selected s.files onlyModified = .error e ∧ s'.reporter = s.reporter) ∨
      (∃ k, g.FailsAt onlyModified overrides s k e s') ∨
      ∃ templates stats s₁, g.selected s.files onlyModified = .ok templates ∧
        g.renderEach overrides templates (g.begins onlyModified s) = .ok stats s₁ ∧
        s'.reporter.stats = stats) := by
  have hzero (stats : RunStats) : (g.begins onlyModified s).reporter.stats.add stats = stats := by
    change RunStats.zero.add stats = stats
    simp only [RunStats.add, RunStats.zero, Nat.zero_add]
  have hcutoff : ((g.cutoff onlyModified).after s).reporter = s.reporter := by
    obtain ⟨s₁, hs₁, htalked⟩ := cutoff_apply g onlyModified s
    rw [after_of_ok hs₁, htalked.reporter_eq]
  cases hselected : g.selected s.files onlyModified with
  | error e =>
      have hrun : g.renderAll onlyModified overrides s =
          .error e ((g.cutoff onlyModified).after s) := by
        rw [renderAll_eq, hselected]
        rfl
      refine ⟨fun stats s' h => ?_, fun k e' s' h => ?_, fun e' s' h => ?_⟩
      · rw [hrun] at h
        cases h
      · obtain ⟨_, _, _, _, h, -⟩ := h
        rw [hselected] at h
        cases h
      · rw [hrun] at h
        cases h
        exact .inl ⟨rfl, hcutoff⟩
  | ok templates =>
      have hrun : g.renderAll onlyModified overrides s = _ := renderAll_of_selected hselected
      have hfiles : g.filesOfRun onlyModified overrides s =
          g.filesOfEach overrides templates (g.begins onlyModified s) := by
        rw [filesOfRun, hselected]
      refine ⟨fun stats s' h => ?_, fun k e s' h => ?_, fun e s' h => ?_⟩
      · rw [hrun] at h
        obtain ⟨total, s₁, heach, hend⟩ := bind_eq_ok h
        obtain rfl := conclude_eq_ok hend
        obtain ⟨hcounted, htotal, texts, htexts, hsum⟩ := renderEach_eq_ok heach
        refine ⟨?_, ?_, templates, texts, rfl, congrArg RunStats.templatesProcessed htotal,
          htexts.of_unchanged (g.unchanged_begins onlyModified s), hsum⟩
        · rw [(countsNothing_conclude _ _ _).of_ok hend, hcounted, hzero]
        · rw [htotal, hfiles]
      · obtain ⟨before, f, rest, s₁, hsplit, rfl, hbefore, hfailed⟩ := h
        obtain rfl : templates = before ++ f :: rest :=
          Except.ok.inj (hselected.symm.trans hsplit)
        refine ⟨?_, ?_⟩
        · rw [hrun]
          exact bind_of_error (renderEach_of_renders hbefore hfailed)
        · rw [stats_of_renders hbefore hfailed, hzero, hfiles]
      · rw [hrun] at h
        rcases bind_eq_error h with heach | ⟨total, s₁, heach, hend⟩
        · obtain ⟨before, f, rest, s₁, rfl, hbefore, hfailed⟩ := exists_of_renderEach heach
          exact .inr (.inl ⟨_, before, f, rest, s₁, hselected, rfl, hbefore, hfailed⟩)
        · obtain ⟨hcounted, -⟩ := renderEach_eq_ok heach
          refine .inr (.inr ⟨templates, total, s₁, rfl, heach, ?_⟩)
          rw [(countsNothing_conclude _ _ _).of_error hend, hcounted, hzero]

end Generator

namespace Sketch

/-- Whether the second template of a pair fails, and one file was written by then. -/
def tearsSecond (g : Generator) : Bool :=
  g.filesOfRun true none (start torn) = 1 &&
  match g.selected torn true with
  | .ok [f, f'] =>
    match g.environment.renderTemplate g.settings f.name none (g.begins true (start torn)) with
    | .error _ _ => false
    | .ok _ s =>
      match g.environment.renderTemplate g.settings f'.name none s with
      | .error _ _ => true
      | .ok _ _ => false
  | _ => false

theorem exists_failsAt : ∃ (g : Generator) (e : Failure) (s' : Session),
    g.FailsAt true none (start torn) 2 e s' ∧ g.filesOfRun true none (start torn) = 1 := by
  have hends : ends pairSettings torn (fun g _ => tearsSecond g) = true := by decide +kernel
  obtain ⟨g, -, -, hcheck⟩ := exists_of_ends hends
  obtain ⟨hfiles, hcheck⟩ := Bool.and_eq_true_iff.mp hcheck
  split at hcheck
  case h_2 => cases hcheck
  case h_1 f f' hselected =>
    split at hcheck
    case h_1 => cases hcheck
    case h_2 stats s hfirst =>
      split at hcheck
      case h_2 => cases hcheck
      case h_1 e s' hsecond =>
        exact ⟨g, e, s', ⟨[f], f', [], s, hselected, rfl, .cons hfirst .nil, hsecond⟩,
          of_decide_eq_true hfiles⟩

end Sketch

/-- A run of a pair, and one of a pair whose second template is malformed: both templates are
counted there, and the file of the first. -/
theorem Generator.stats_of_renderAll_pair :
    (∃ (g : Generator) (stats : RunStats) (s' : Session),
      g.renderAll true none (Sketch.start Sketch.whole) = .ok stats s' ∧
      s'.reporter.stats = stats ∧ stats.templatesProcessed = 2) ∧
    ∃ (g : Generator) (e : Failure) (s' : Session),
      g.renderAll true none (Sketch.start Sketch.torn) = .error e s' ∧
      s'.reporter.stats = ⟨2, 1⟩ := by
  constructor
  · obtain ⟨g, stats, s', -, -, -, -, hrun, hprocessed⟩ := Sketch.exists_whole
    obtain ⟨hok, -⟩ := stats_of_renderAll g true none (Sketch.start Sketch.whole)
    exact ⟨g, stats, s', hrun, (hok stats s' hrun).1, hprocessed⟩
  · obtain ⟨g, e, s', hfails, hfiles⟩ := Sketch.exists_failsAt
    obtain ⟨-, hfailed, -⟩ := stats_of_renderAll g true none (Sketch.start Sketch.torn)
    obtain ⟨hrun, hstats⟩ := hfailed 2 e s' hfails
    exact ⟨g, e, s', hrun, hfiles ▸ hstats⟩

end TemplateTree
