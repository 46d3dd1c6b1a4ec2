import TemplateTree.Proofs.Build.Runs
import TemplateTree.Proofs.Environment.Rendering
import TemplateTree.Proofs.Output.Saving

/-!
# What rendering templates leaves on disk

Where different templates describe different files, rendering some of them leaves the
files of the others as they are, and what one of them described is not lost if a later
one fails.  Rendering a template whose files are on disk changes no content.
-/

namespace TemplateTree.Generator

open FileTree Session Job Settings

variable {g : Generator} {overrides : Option Namespace} {answers : Text → Template.Outlook}
  {out : Place} {host : Host} {s s' : Session} {stats : RunStats}
  {templates : List TemplateFile} {f : TemplateFile} {sections : List Section}
  {t t' u : FileTree} {now later : Instant}

/-- The sections that a template describes, if it is told certain answers. -/
def sections? (g : Generator) (overrides : Option Namespace) (answers : Text → Template.Outlook)
    (f : TemplateFile) : Option (List Section) :=
  g.environment.sections? g.settings overrides (answers f.name) f.name

/-- A tree in which a template was rendered. -/
def rendered? (g : Generator) (overrides : Option Namespace) (answers : Text → Template.Outlook)
    (now : Instant) (t : FileTree) (f : TemplateFile) : Option FileTree :=
  (g.sections? overrides answers f).bind fun sections => g.settings.saved? now sections t

/-- A place that a template describes. -/
def Targets (g : Generator) (overrides : Option Namespace) (answers : Text → Template.Outlook)
    (out : Place) (f : TemplateFile) : Place → Prop :=
  g.environment.Targets g.settings overrides (answers f.name) out f.name

/-- Different templates describe different files. -/
def Apart (g : Generator) (overrides : Option Namespace) (answers : Text → Template.Outlook)
    (out : Place) : Prop :=
  ∀ f ∈ g.environment.templates, ∀ f' ∈ g.environment.templates, f ≠ f' →
    ∀ q, g.Targets overrides answers out f q → ¬ g.Targets overrides answers out f' q

/-- Whether different templates describe different files. -/
def isApart (g : Generator) (overrides : Option Namespace) (answers : Text → Template.Outlook)
    (out : Place) : Bool :=
  g.environment.templates.all fun f => g.environment.templates.all fun f' =>
    f = f' || ((g.sections? overrides answers f).getD []).all fun r =>
      ((g.sections? overrides answers f').getD []).all fun r' => r.place out ≠ r'.place out

theorem apart_of_isApart (h : g.isApart overrides answers out = true) :
    g.Apart overrides answers out := by
  rintro f hf f' hf' hne q ⟨sections, hsections, r, hr, rfl⟩ ⟨sections', hsections', r', hr', heq⟩
  have hcheck := List.all_eq_true.mp (List.all_eq_true.mp h f hf) f' hf'
  rw [decide_eq_false hne, Bool.false_or,
    show g.sections? overrides answers f = some sections from hsections,
    show g.sections? overrides answers f' = some sections' from hsections'] at hcheck
  have hplaces := List.all_eq_true.mp (List.all_eq_true.mp hcheck r hr) r' hr'
  exact of_decide_eq_true hplaces heq

theorem rendered?_eq_some_iff : g.rendered? overrides answers now t f = some t' ↔
    ∃ sections, g.sections? overrides answers f = some sections ∧
      g.settings.saved? now sections t = some t' :=
  Option.bind_eq_some_iff

theorem rendered?_spec (ht : g.settings.OutputAt out t)
    (h : g.rendered? overrides answers now t f = some t') :
    ChangesOnly (g.Targets overrides answers out f) t t' ∧
      ∃ sections, g.sections? overrides answers f = some sections ∧
        g.settings.OnDisk out t' sections := by
  obtain ⟨sections, hsections, hsaved⟩ := rendered?_eq_some_iff.mp h
  obtain ⟨hc, hdisk⟩ :=
    saved?_spec ht (Environment.contained_of_sections? hsections) hsaved
  exact ⟨hc.mono fun q hq => ⟨sections, hsections, hq⟩, sections, hsections, hdisk⟩

/-! ## What a machine answers -/

/-- When templates are rendered one after the other, the machine answers all that they ask as
they are told. -/
def Answered (g : Generator) (overrides : Option Namespace) (answers : Text → Template.Outlook)
    (templates : List TemplateFile) (host : Host) (now : Instant) : Prop :=
  ∀ k f, templates[k]? = some f → (answers f.name).Alike ((host.moment k).answer now)
    (g.environment.questions f.name (g.settings.namespaceWith overrides) (answers f.name))

/-- On a machine templates describe what they do with certain answers, when they are rendered
one after the other. -/
def Describe (g : Generator) (overrides : Option Namespace) (answers : Text → Template.Outlook)
    (templates : List TemplateFile) (host : Host) (now : Instant) : Prop :=
  ∀ k f, templates[k]? = some f →
    g.sections? overrides (fun _ => (host.moment k).answer now) f = g.sections? overrides answers f

theorem sections?_of_alike {o o' : Template.Outlook}
    (hmade : g.environment.MadeFrom t g.settings) (ht : t.Sound)
    (h : o.Alike o' (g.environment.questions f.name (g.settings.namespaceWith overrides) o)) :
    g.sections? overrides (fun _ => o') f = g.sections? overrides (fun _ => o) f := by
  unfold sections? Environment.sections?
  rw [hmade.toOption_render_of_alike ht h]

/-- Whether a template asks nothing. -/
def asksNothing (g : Generator) (overrides : Option Namespace) (f : TemplateFile) : Bool :=
  (g.environment.questions f.name (g.settings.namespaceWith overrides) .none).isEmpty

theorem alike_of_asksNothing (h : g.asksNothing overrides f = true) (o : Template.Outlook) :
    Template.Outlook.none.Alike o
      (g.environment.questions f.name (g.settings.namespaceWith overrides) .none) := by
  rw [List.isEmpty_iff.mp h]
  intro k q hq
  cases hq

/-- Templates that ask nothing are answered by any machine. -/
theorem answered_of_asksNothing (h : ∀ f ∈ templates, g.asksNothing overrides f = true)
    (host : Host) (now : Instant) :
    g.Answered overrides (fun _ => .none) templates host now :=
  fun _ f hf => alike_of_asksNothing (h f (List.mem_of_getElem? hf)) _

theorem Answered.describe (hmade : g.environment.MadeFrom t g.settings) (ht : t.Sound)
    (h : g.Answered overrides answers templates host now) :
    g.Describe overrides answers templates host now := by
  intro k f hf
  exact sections?_of_alike hmade ht (h k f hf)

theorem Describe.head (h : g.Describe overrides answers (f :: templates) host now) :
    g.environment.sections? g.settings overrides ((host.moment 0).answer now) f.name =
      g.environment.sections? g.settings overrides (answers f.name) f.name :=
  h 0 f rfl

theorem Describe.tail (h : g.Describe overrides answers (f :: templates) host now) :
    g.Describe overrides answers templates host.next now :=
  fun k f' hf' => h (k + 1) f' hf'

/-- A machine on which one template describes what it does with certain answers. -/
theorem does_renderTemplate (g : Generator) (overrides : Option Namespace)
    (answers : Text → Template.Outlook) (f : TemplateFile) (templates : List TemplateFile) :
    Does (g.Describe overrides answers (f :: templates)) (g.Describe overrides answers templates)
      (fun now t => g.rendered? overrides answers now t f)
      (g.environment.renderTemplate g.settings f.name overrides) :=
  g.environment.does_renderTemplate g.settings f.name overrides (fun _ _ h => h.head)
    fun _ _ h => h.tail

/-- In a session one template describes what it does with the answers that come next. -/
theorem does_renderTemplate_at (g : Generator) (overrides : Option Namespace) (f : TemplateFile)
    (s : Session) :
    Does (fun host now => host = s.host ∧ now = s.now) (fun host _ => host = s.host.next)
      (fun now t => g.rendered? overrides (fun _ => s.outlook) now t f)
      (g.environment.renderTemplate g.settings f.name overrides) :=
  g.environment.does_renderTemplate g.settings f.name overrides
    (fun _ _ ⟨hhost, hnow⟩ => by rw [hhost, hnow]; rfl) fun _ _ h => congrArg Host.next h.1

theorem does_renderEach (g : Generator) (overrides : Option Namespace)
    (answers : Text → Template.Outlook) (templates : List TemplateFile) :
    Does (g.Describe overrides answers templates) (fun _ _ => True)
      (fun now t => templates.foldlM (g.rendered? overrides answers now) t)
      (g.renderEach overrides templates) := by
  induction templates with
  | nil => exact does_pure.mono (fun _ _ _ => trivial) fun _ _ => id
  | cons f rest ih =>
      exact (g.does_renderTemplate overrides answers f rest).bind fun _ =>
        ih.before_idle fun _ => does_pure

theorem wrote_renderTemplate (f : TemplateFile)
    (h : g.Describe overrides answers (f :: templates) s.host s.now) :
    Wrote g.settings out (g.Targets overrides answers out f) s
      ((g.environment.renderTemplate g.settings f.name overrides).after s) := by
  refine (Environment.wrote_renderTemplate _ _ _ _ _ s).mono ?_
  rintro q ⟨sections, hsections, hq⟩
  exact ⟨sections, h.head.symm.trans hsections, hq⟩

theorem after_renderEach_of_ok {rest : List TemplateFile}
    (h : g.environment.renderTemplate g.settings f.name overrides s = .ok stats s') :
    (g.renderEach overrides (f :: rest)).after s = (g.renderEach overrides rest).after s' := by
  rw [renderEach, after_bind_of_ok h, after_bind_pure]

theorem wrote_renderEach (h : g.Describe overrides answers templates s.host s.now) :
    Wrote g.settings out (fun q => ∃ f ∈ templates, g.Targets overrides answers out f q) s
      ((g.renderEach overrides templates).after s) := by
  induction templates generalizing s with
  | nil => exact .refl s
  | cons f rest ih =>
      have hfirst : Wrote g.settings out
          (fun q => ∃ f' ∈ f :: rest, g.Targets overrides answers out f' q) s _ :=
        (wrote_renderTemplate f h).mono fun _ hq => ⟨f, List.mem_cons_self, hq⟩
      cases hrun : g.environment.renderTemplate g.settings f.name overrides s with
      | error e s' =>
          rw [after_of_error hrun] at hfirst
          rwa [renderEach, after_bind_of_error hrun]
      | ok here s₁ =>
          obtain ⟨-, hnow, hrest⟩ := (g.does_renderTemplate overrides answers f rest).eq_some h hrun
          rw [after_of_ok hrun] at hfirst
          rw [after_renderEach_of_ok hrun]
          refine hfirst.trans _ _ _ ((ih (hnow.symm ▸ hrest)).mono ?_)
          rintro q ⟨f', hf', hq⟩
          exact ⟨f', List.mem_cons_of_mem f hf', hq⟩

/-! ## Files that stay on disk -/

section

variable (hapart : g.Apart overrides answers out) (hf : f ∈ g.environment.templates)
  (hsections : g.sections? overrides answers f = some sections)
include hapart hf hsections

/-- Rendering another template leaves the files of a template. -/
theorem onDisk_of_ne {f' : TemplateFile} {P : Place → Prop}
    (hf' : f' ∈ g.environment.templates) (hne : f' ≠ f) (ht : t.Sound)
    (hc : ChangesOnly P t t') (hP : ∀ q, P q → g.Targets overrides answers out f' q)
    (hdisk : g.settings.OnDisk out t sections) : g.settings.OnDisk out t' sections :=
  hdisk.changesOnly ht hc fun q hq hPq =>
    hapart f hf f' hf' hne.symm q ⟨sections, hsections, hq⟩ (hP q hPq)

/-- Whatever becomes of rendering some template, files that are on disk stay there. -/
theorem onDisk_renderTemplate {f' : TemplateFile} (hf' : f' ∈ g.environment.templates)
    (hs : g.settings.OutputAt out s.files)
    (hdescribe : g.Describe overrides answers (f' :: templates) s.host s.now)
    (hdisk : g.settings.OnDisk out s.files sections) :
    g.settings.OnDisk out
      ((g.environment.renderTemplate g.settings f'.name overrides).after s).files sections := by
  by_cases hsame : f' = f
  · subst hsame
    have hdoes := g.does_renderTemplate overrides answers f' templates
    cases hrun : g.environment.renderTemplate g.settings f'.name overrides s with
    | ok stats s' =>
        rw [after_of_ok hrun]
        obtain ⟨-, sections', hsections', hdisk'⟩ :=
          rendered?_spec hs (hdoes.eq_some hdescribe hrun).1
        rwa [Option.some.inj (hsections.symm.trans hsections')]
    | error e s' =>
        -- the files could be written again, so this did not fail
        obtain ⟨t', hsaved, -⟩ :=
          hdisk.saved?_again s.now (Environment.contained_of_sections? hsections) hs
        have hsome := rendered?_eq_some_iff.mpr ⟨sections, hsections, hsaved⟩
        rw [hdoes.eq_none hdescribe hrun] at hsome
        cases hsome
  · have hwrote := wrote_renderTemplate f' hdescribe hs
    exact onDisk_of_ne hapart hf hsections hf' hsame hs.sound hwrote.1 (fun q hq => hq) hdisk

theorem onDisk_renderEach (hsub : ∀ f' ∈ templates, f' ∈ g.environment.templates)
    (hs : g.settings.OutputAt out s.files)
    (hdescribe : g.Describe overrides answers templates s.host s.now)
    (hdisk : g.settings.OnDisk out s.files sections) :
    g.settings.OnDisk out ((g.renderEach overrides templates).after s).files sections := by
  induction templates generalizing s with
  | nil => exact hdisk
  | cons f' rest ih =>
      have hf' := hsub f' List.mem_cons_self
      have hstep := onDisk_renderTemplate hapart hf hsections hf' hs hdescribe hdisk
      cases hrun : g.environment.renderTemplate g.settings f'.name overrides s with
      | error e s' =>
          rw [after_of_error hrun] at hstep
          rwa [renderEach, after_bind_of_error hrun]
      | ok here s₁ =>
          have hwrote := wrote_renderTemplate f' hdescribe hs
          obtain ⟨-, hnow, hrest⟩ :=
            (g.does_renderTemplate overrides answers f' rest).eq_some hdescribe hrun
          rw [after_of_ok hrun] at hstep hwrote
          rw [after_renderEach_of_ok hrun]
          exact ih (fun f₂ hf₂ => hsub f₂ (List.mem_cons_of_mem _ hf₂)) (hs.changesOnly hwrote.1)
            (hnow.symm ▸ hrest) hstep

end

/-- What a run rendered is on disk when it ends well. -/
theorem onDisk_of_renderEach (hapart : g.Apart overrides answers out)
    (hsub : ∀ f ∈ templates, f ∈ g.environment.templates)
    (hs : g.settings.OutputAt out s.files)
    (hdescribe : g.Describe overrides answers templates s.host s.now)
    (h : g.renderEach overrides templates s = .ok stats s') (hf : f ∈ templates) :
    ∃ sections, g.sections? overrides answers f = some sections ∧
      g.settings.OnDisk out s'.files sections := by
  induction templates generalizing s stats with
  | nil => simp at hf
  | cons f' rest ih =>
      obtain ⟨here, s₁, hhere, h⟩ := bind_eq_ok h
      obtain ⟨there, s₂, hrest, h⟩ := bind_eq_ok h
      cases h
      have hsub' : ∀ f₂ ∈ rest, f₂ ∈ g.environment.templates := fun f₂ hf₂ =>
        hsub f₂ (List.mem_cons_of_mem _ hf₂)
      obtain ⟨hfirst, hnow, hdescribe'⟩ :=
        (g.does_renderTemplate overrides answers f' rest).eq_some hdescribe hhere
      rw [← hnow] at hdescribe'
      obtain ⟨hc, sections, hsections, hdisk⟩ := rendered?_spec hs hfirst
      have hs₁ := hs.changesOnly hc
      obtain rfl | hf := List.mem_cons.mp hf
      · have hkept := onDisk_renderEach hapart (hsub f List.mem_cons_self) hsections hsub' hs₁
          hdescribe' hdisk
        rw [after_of_ok hrest] at hkept
        exact ⟨sections, hsections, hkept⟩
      · exact ih hsub' hs₁ hdescribe' hrest hf

/-! ## All templates, or some of them -/

theorem exists_rendered_twin (htu : Twins t u) (later : Instant)
    (h : g.rendered? overrides answers now t f = some t') :
    ∃ u', g.rendered? overrides answers later u f = some u' ∧ Twins t' u' := by
  obtain ⟨sections, hsections, hsaved⟩ := rendered?_eq_some_iff.mp h
  obtain ⟨u', hsaved', htu'⟩ := htu.saved? later hsaved
  exact ⟨u', rendered?_eq_some_iff.mpr ⟨sections, hsections, hsaved'⟩, htu'⟩

theorem exists_rendered_of_onDisk (htu : Twins t u) (hu : g.settings.OutputAt out u)
    (later : Instant) (hsections : g.sections? overrides answers f = some sections)
    (hdisk : g.settings.OnDisk out u sections) :
    ∃ u', g.rendered? overrides answers later u f = some u' ∧ Twins t u' := by
  obtain ⟨u', hsaved, halike⟩ :=
    hdisk.saved?_again later (Environment.contained_of_sections? hsections) hu
  have hone := rendered?_eq_some_iff.mpr ⟨sections, hsections, hsaved⟩
  exact ⟨u', hone, htu.1, (rendered?_spec hu hone).1.sound, htu.2.2.trans halike⟩

/-- Files on disk stay there when any template is rendered. -/
theorem onDisk_of_rendered {f' : TemplateFile} (hapart : g.Apart overrides answers out)
    (hf : f ∈ g.environment.templates) (hf' : f' ∈ g.environment.templates)
    (hu : g.settings.OutputAt out u)
    (h : g.rendered? overrides answers now u f' = some t')
    (hsections : g.sections? overrides answers f = some sections)
    (hdisk : g.settings.OnDisk out u sections) : g.settings.OnDisk out t' sections := by
  obtain ⟨hc, sections', hsections', hdisk'⟩ := rendered?_spec hu h
  by_cases hsame : f' = f
  · subst hsame
    rwa [Option.some.inj (hsections.symm.trans hsections')]
  · exact onDisk_of_ne hapart hf hsections hf' hsame hu.sound hc (fun q hq => hq) hdisk

/-- Where the files of templates that are passed over are on disk, they stay there when a
template is rendered. -/
theorem onDisk_rest_of_rendered {selected : TemplateFile → Bool} {rest : List TemplateFile}
    (hapart : g.Apart overrides answers out)
    (hsub : ∀ f' ∈ f :: rest, f' ∈ g.environment.templates) (hu : g.settings.OutputAt out u)
    (h : g.rendered? overrides answers now u f = some t')
    (hdisk : ∀ f' ∈ f :: rest, selected f' = false → ∃ sections,
      g.sections? overrides answers f' = some sections ∧ g.settings.OnDisk out u sections) :
    ∀ f' ∈ rest, selected f' = false → ∃ sections,
      g.sections? overrides answers f' = some sections ∧ g.settings.OnDisk out t' sections := by
  intro f' hf' hsel
  have hmem := List.mem_cons_of_mem f hf'
  obtain ⟨sections, hsections, hsaved⟩ := hdisk f' hmem hsel
  exact ⟨sections, hsections, onDisk_of_rendered hapart (hsub f' hmem)
    (hsub f List.mem_cons_self) hu h hsections hsaved⟩

/-- Rendering only some templates comes to the same as rendering them all, if the files of
the others are on disk. -/
theorem exists_rendered_all (hapart : g.Apart overrides answers out)
    {selected : TemplateFile → Bool}
    (hsub : ∀ f ∈ templates, f ∈ g.environment.templates) (htu : Twins t u)
    (ht : g.settings.OutputAt out t) (hu : g.settings.OutputAt out u)
    (hdisk : ∀ f ∈ templates, selected f = false → ∃ sections,
      g.sections? overrides answers f = some sections ∧ g.settings.OnDisk out u sections)
    (h : (templates.filter selected).foldlM (g.rendered? overrides answers now) t = some t') :
    ∃ u', templates.foldlM (g.rendered? overrides answers later) u = some u' ∧ Twins t' u' := by
  induction templates generalizing t u with
  | nil =>
      cases h
      exact ⟨u, rfl, htu⟩
  | cons f rest ih =>
      have hgo : ∀ t₁ u₁, Twins t₁ u₁ → g.settings.OutputAt out t₁ →
          g.rendered? overrides answers later u f = some u₁ →
          (rest.filter selected).foldlM (g.rendered? overrides answers now) t₁ = some t' →
          ∃ u', (f :: rest).foldlM (g.rendered? overrides answers later) u = some u' ∧
            Twins t' u' := by
        intro t₁ u₁ htu₁ ht₁ hone hrest
        have hdisk₁ := onDisk_rest_of_rendered hapart hsub hu hone hdisk
        have hu₁ := hu.changesOnly (rendered?_spec hu hone).1
        obtain ⟨u', hall, hdone⟩ :=
          ih (fun f' hf' => hsub f' (List.mem_cons_of_mem f hf')) htu₁ ht₁ hu₁ hdisk₁ hrest
        rw [List.foldlM_cons, hone]
        exact ⟨u', hall, hdone⟩
      cases hsel : selected f with
      | true =>
          rw [List.filter_cons_of_pos hsel, List.foldlM_cons] at h
          obtain ⟨t₁, hone, hrest⟩ := Option.bind_eq_some_iff.mp h
          obtain ⟨u₁, hone', htu₁⟩ := exists_rendered_twin htu later hone
          exact hgo t₁ u₁ htu₁ (ht.changesOnly (rendered?_spec ht hone).1) hone' hrest
      | false =>
          -- the template is passed over in the one tree and rendered again in the other
          rw [List.filter_cons_of_neg (by simp [hsel])] at h
          obtain ⟨sections, hsections, hsaved⟩ := hdisk f List.mem_cons_self hsel
          obtain ⟨u₁, hone, htu₁⟩ := exists_rendered_of_onDisk htu hu later hsections hsaved
          exact hgo t u₁ htu₁ ht hone h

/-! ## Whole runs -/

/-- A run of the templates that it selected, without commands to run. -/
def renderSelected (g : Generator) (overrides : Option Namespace) (started : Instant)
    (templates : List TemplateFile) : Job RunStats := do
  Job.start
  let total ← g.renderEach overrides templates
  if templates.isEmpty then
    Job.note "Skipped" "no templates changed"
    return total
  else
    g.runPostCommands
    g.watermark.write (Instant.floorSeconds started)
    Job.finish
    return total

theorem renderAll_eq (g : Generator) (onlyModified : Bool) (overrides : Option Namespace)
    (s : Session) : g.renderAll onlyModified overrides s =
      (Job.ofExcept (g.selected s.files onlyModified) >>= g.renderSelected overrides s.now)
        ((g.cutoff onlyModified).after s) := by
  obtain ⟨s₁, hcutoff, hs₁⟩ := cutoff_apply g onlyModified s
  rw [renderAll, bind_of_ok get_apply, bind_of_ok hcutoff, bind_of_ok get_apply, hs₁.unchanged.1,
    after_of_ok hcutoff]
  rfl

theorem renderAll_apply (g : Generator) (overrides : Option Namespace) (onlyModified : Bool)
    (s : Session) : ∃ s₁, Talked s s₁ ∧
    g.renderAll onlyModified overrides s =
      (Job.ofExcept (g.selected s.files onlyModified) >>= g.renderSelected overrides s.now) s₁ := by
  obtain ⟨s₁, hcutoff, hs₁⟩ := cutoff_apply g onlyModified s
  refine ⟨s₁, hs₁, ?_⟩
  rw [renderAll_eq, after_of_ok hcutoff]

/-- A tree in which a run rendered what it selected and moved the watermark. -/
def ran? (g : Generator) (onlyModified : Bool) (overrides : Option Namespace)
    (answers : Text → Template.Outlook) (now : Instant) (t : FileTree) : Option FileTree :=
  (g.selected t onlyModified).toOption.bind fun templates =>
    (templates.foldlM (g.rendered? overrides answers now) t).bind fun t =>
      if templates.isEmpty then some t
      else (t.write now g.watermark.path (Watermark.toBytes (Instant.floorSeconds now))).toOption

theorem does_runPostCommands (hcommands : g.settings.postCommands = []) :
    Does (fun _ _ => True) (fun _ _ => True) (fun _ t => some t) g.runPostCommands := by
  unfold runPostCommands
  rw [hcommands]
  exact does_pure

theorem does_renderSelected (hcommands : g.settings.postCommands = [])
    (overrides : Option Namespace) (answers : Text → Template.Outlook) (started : Instant)
    (templates : List TemplateFile) :
    Does (g.Describe overrides answers templates) (fun _ _ => True)
      (fun now t => (templates.foldlM (g.rendered? overrides answers now) t).bind fun t =>
        if templates.isEmpty then some t
        else (t.write now g.watermark.path
          (Watermark.toBytes (Instant.floorSeconds started))).toOption)
      (g.renderSelected overrides started templates) := by
  have hend : ∀ total, Does (fun _ _ => True) (fun _ _ => True)
      (fun now t => if templates.isEmpty then some t
        else (t.write now g.watermark.path
          (Watermark.toBytes (Instant.floorSeconds started))).toOption)
      (if templates.isEmpty then do
        Job.note "Skipped" "no templates changed"
        return total
      else do
        g.runPostCommands
        g.watermark.write (Instant.floorSeconds started)
        Job.finish
        return total : Job RunStats) := by
    intro total
    cases templates.isEmpty with
    | true => exact (does_report _).before_idle fun _ => does_pure
    | false =>
        refine (does_runPostCommands hcommands).after_idle fun _ => ?_
        refine Does.before_idle ?_ fun _ => does_finish.before_idle fun _ => does_pure
        exact does_changeFiles _ _ fun now t => t.write now g.watermark.path
          (Watermark.toBytes (Instant.floorSeconds started))
  exact does_start.after_idle fun _ => (g.does_renderEach overrides answers templates).bind hend

/-- A run without commands ends where rendering ends, or with a new watermark. -/
theorem after_renderSelected (hcommands : g.settings.postCommands = [])
    (overrides : Option Namespace) (started : Instant) (templates : List TemplateFile)
    (s : Session) :
    ∃ s₀, Unchanged s s₀ ∧
      (Unchanged ((g.renderEach overrides templates).after s₀)
        ((g.renderSelected overrides started templates).after s) ∨
      ∃ stats s₁, g.renderEach overrides templates s₀ = .ok stats s₁ ∧
        s₁.files.write s₁.now g.watermark.path
          (Watermark.toBytes (Instant.floorSeconds started)) =
            .ok ((g.renderSelected overrides started templates).after s).files ∧
        ((g.renderSelected overrides started templates).after s).now = s₁.now) := by
  have hstart : Job.start s = .ok () { s with reporter := s.reporter.start s.now } := rfl
  refine ⟨{ s with reporter := s.reporter.start s.now }, ⟨rfl, rfl, rfl⟩, ?_⟩
  rw [renderSelected, after_bind_of_ok hstart]
  cases hrun : g.renderEach overrides templates { s with reporter := s.reporter.start s.now } with
  | error e s₁ =>
      rw [after_bind_of_error hrun, after_of_error hrun]
      exact .inl ⟨rfl, rfl, rfl⟩
  | ok stats s₁ =>
      rw [after_bind_of_ok hrun, after_of_ok hrun]
      split
      case isTrue =>
        refine .inl ?_
        rw [after_bind_pure]
        exact ⟨rfl, rfl, rfl⟩
      case isFalse =>
        have hpost : g.runPostCommands s₁ = .ok () s₁ := by
          rw [runPostCommands, hcommands]
          rfl
        rw [after_bind_of_ok hpost]
        have hwrite : g.watermark.write (Instant.floorSeconds started) s₁ = _ := changeFiles_apply
        split at hwrite
        case h_1 files hfiles =>
          rw [after_bind_of_ok hwrite]
          exact .inr ⟨stats, s₁, rfl, hfiles, rfl⟩
        case h_2 =>
          rw [after_bind_of_error hwrite]
          exact .inl ⟨rfl, rfl, rfl⟩

section

variable (hcommands : g.settings.postCommands = []) {onlyModified : Bool}
  (hselected : g.selected s.files onlyModified = .ok templates)
  (hdescribe : g.Describe overrides answers templates s.host s.now)
include hcommands hselected hdescribe

/-- What a run without commands does to files is what its templates describe. -/
theorem ran?_of_renderAll (h : g.renderAll onlyModified overrides s = .ok stats s') :
    g.ran? onlyModified overrides answers s.now s.files = some s'.files := by
  obtain ⟨s₁, hs₁, hrun⟩ := renderAll_apply g overrides onlyModified s
  obtain ⟨hfiles, hnow, hhost⟩ := hs₁.unchanged
  rw [hrun, hselected] at h
  rw [← hnow, ← hhost] at hdescribe
  have hdoes := does_renderSelected hcommands overrides answers s.now templates
  obtain ⟨hran, -⟩ := hdoes.eq_some hdescribe h
  rw [hfiles, hnow] at hran
  rw [ran?, hselected]
  exact hran

theorem exists_renderAll_of_ran?
    (h : g.ran? onlyModified overrides answers s.now s.files = some t) :
    ∃ stats s', g.renderAll onlyModified overrides s = .ok stats s' ∧ s'.files = t := by
  obtain ⟨s₁, hs₁, hrun⟩ := renderAll_apply g overrides onlyModified s
  obtain ⟨hfiles, hnow, hhost⟩ := hs₁.unchanged
  rw [ran?, hselected, ← hfiles, ← hnow] at h
  rw [← hnow, ← hhost] at hdescribe
  have hdoes := does_renderSelected hcommands overrides answers s₁.now templates
  obtain ⟨stats, s', hselects, hfiles', -⟩ := hdoes.exists_ok hdescribe h
  refine ⟨stats, s', ?_, hfiles'⟩
  rw [hrun, hselected, ← hnow]
  exact hselects

end

end TemplateTree.Generator
