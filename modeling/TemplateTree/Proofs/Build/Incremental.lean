import TemplateTree.Proofs.Build.Histories

/-!
# Rendering what was modified

A run that renders only the templates modified since the watermark leaves the same files
as one that renders them all.
-/

namespace TemplateTree.Project

open FileTree Session Job

variable {p : Project} {s s' : Session} {t t' t₀ : FileTree} {f : TemplateFile}
  {env : Environment} {sections : List Section} {g : Generator} {edited : Instant}
  {templates : List TemplateFile} {stats : RunStats} {onlyModified : Bool} {q : Place}

/-! ## Rendering some templates -/

/-- A place that one of some templates describes. -/
def AnyTarget (p : Project) (g : Generator) (templates : List TemplateFile) (q : Place) : Prop :=
  ∃ f ∈ templates, g.Targets p.values p.answers p.out f q

theorem AnyTarget.below (h : p.AnyTarget g templates q) : ∃ names, q = p.out ++ names := by
  obtain ⟨f, -, sections, -, r, -, rfl⟩ := h
  exact ⟨_, rfl⟩

theorem not_anyTarget_template (names : List Text) :
    ¬ p.AnyTarget g templates (p.templates ++ names) := by
  intro h
  obtain ⟨names', heq⟩ := h.below
  exact p.below_templates_ne_below_out names names' heq

theorem not_anyTarget_mark : ¬ p.AnyTarget g templates p.mark := by
  intro h
  obtain ⟨names, heq⟩ := h.below
  exact p.below_out_ne_mark names heq.symm

section

variable (hruns : p.Runs g s) (hs : s.files.Sound)
  (hsub : ∀ f ∈ templates, f ∈ g.environment.templates)
include hruns hs hsub

theorem Runs.renderEach : ChangesOnly (p.AnyTarget g templates) s.files
      ((g.renderEach p.values templates).after s).files ∧
    ((g.renderEach p.values templates).after s).now = s.now :=
  Generator.wrote_renderEach (hruns.describe hs hsub) (hruns.settings ▸ hruns.output)

theorem editedAt_renderEach (hedited : p.settings.EditedAt
      ((g.renderEach p.values templates).after s).files f edited) :
    p.settings.EditedAt s.files f edited ∧
      ((g.renderEach p.values templates).after s).files.readText f.path =
        s.files.readText f.path := by
  obtain ⟨hc, -⟩ := hruns.renderEach hs hsub
  obtain ⟨names, bytes, hP, -⟩ | hsame :=
    editedAt_of_changesOnly hs hc hruns.place hruns.dir hedited
  · exact absurd hP (not_anyTarget_template names)
  · exact hsame

/-- Rendering templates keeps the settled ones settled, also if it fails. -/
theorem Settled.renderEach (h : p.Settled s.files f t₀ env sections)
    (hedited : p.settings.EditedAt s.files f edited)
    (htext : ((g.renderEach p.values templates).after s).files.readText f.path =
      s.files.readText f.path) :
    p.Settled ((g.renderEach p.values templates).after s).files f t₀ env sections := by
  obtain ⟨hc, -⟩ := hruns.renderEach hs hsub
  have hf := hruns.mem_templates hs hedited
  have hdisk := Generator.onDisk_renderEach hruns.orderly.apart hf (h.sections?_eq hruns hs hf)
    hsub (hruns.settings ▸ hruns.output) (hruns.describe hs hsub) (hruns.settings ▸ h.onDisk)
  exact h.changesOnly hc (fun names _ => not_anyTarget_template names) htext
    (hruns.settings ▸ hdisk)

/-- A template that was rendered is settled when the rendering ends well. -/
theorem Runs.exists_settled (hrun : g.renderEach p.values templates s = .ok stats s')
    (hf : f ∈ templates) (hedited : p.settings.EditedAt s'.files f edited) :
    ∃ sections, p.Settled s'.files f s.files g.environment sections := by
  obtain ⟨hc, -⟩ := hruns.renderEach hs hsub
  rw [after_of_ok hrun] at hc
  have htext : s'.files.readText f.path = s.files.readText f.path := by
    have hsame := editedAt_renderEach hruns hs hsub (after_of_ok hrun ▸ hedited)
    rw [after_of_ok hrun] at hsame
    exact hsame.2
  obtain ⟨sections, hsections, hdisk⟩ := Generator.onDisk_of_renderEach hruns.orderly.apart hsub
    (hruns.settings ▸ hruns.output) (hruns.describe hs hsub) hrun hf
  rw [hruns.settings] at hdisk
  rw [Generator.sections?, hruns.settings] at hsections
  exact ⟨sections, hs, hruns.made, hruns.place,
    (Settings.KeepsStencils.refl _ _ _).changesOnly hc fun names _ => not_anyTarget_template names,
    hruns.orderly.steady, hsub f hf, htext, hsections, hdisk⟩

end

/-- Rendering may fail at any template; no settled one is lost. -/
theorem Consistent.renderEach (h : p.Consistent s) (hruns : p.Runs g s)
    (hsub : ∀ f ∈ templates, f ∈ g.environment.templates) :
    p.Consistent ((g.renderEach p.values templates).after s) := by
  obtain ⟨hc, hnow⟩ := hruns.renderEach h.sound hsub
  refine ⟨hc.sound, fun q target hlink => h.links q target ((hc.keeps.links _ _).mp hlink),
    h.templates.changesOnly hc, h.out.changesOnly hc, h.mark.changesOnly hc,
    fun bytes hbytes => h.form bytes ((hc.hasBytes_iff not_anyTarget_mark).mp hbytes),
    fun bytes seconds hbytes hseconds => ?_⟩
  obtain ⟨hpast, hplace, hdir, hsettled⟩ :=
    h.upToDate bytes seconds ((hc.hasBytes_iff not_anyTarget_mark).mp hbytes) hseconds
  refine ⟨hnow ▸ hpast, h.sound.place_of_keeps hplace hdir hc.keeps hc.current,
    hc.keeps.dirs _ hdir, fun f edited hedited hbefore => ?_⟩
  obtain ⟨hedited, htext⟩ := editedAt_renderEach hruns h.sound hsub hedited
  obtain ⟨t₀, env, sections, hf⟩ := hsettled f edited hedited hbefore
  exact ⟨t₀, env, sections, hf.renderEach hruns h.sound hsub hedited htext⟩

/-! ## What a run selects -/

theorem Runs.mem_of_selected (h : p.Runs g s) (hs : s.files.Sound)
    (hselected : g.selected s.files onlyModified = .ok templates) :
    ∀ f ∈ templates, f ∈ g.environment.templates := by
  intro f hf
  rw [Generator.selected, h.settings] at hselected
  obtain ⟨time, hedited, -⟩ := Settings.exists_editedAt hs hselected hf
  exact h.mem_templates hs hedited

/-- A template that is passed over was edited before the second of the watermark. -/
theorem Runs.exists_read (h : p.Runs g s) (hs : s.files.Sound)
    (hselected : g.selected s.files onlyModified = .ok templates)
    (hedited : p.settings.EditedAt s.files f edited) (hf : f ∉ templates) :
    ∃ seconds, g.watermark.read s.files = some seconds ∧ Instant.ceilSeconds edited < seconds := by
  rw [Generator.selected, h.settings] at hselected
  rw [hedited.mem_candidates_iff hs hselected, Settings.NotBefore] at hf
  obtain ⟨seconds, hcutoff, hbefore⟩ := not_forall₂.mp hf
  refine ⟨seconds, ?_, Nat.lt_of_not_le hbefore⟩
  split at hcutoff
  · exact hcutoff
  · cases hcutoff

theorem Consistent.upToDate_of_read (h : p.Consistent s) (hsettings : g.settings = p.settings)
    {seconds : Nat} (hread : g.watermark.read s.files = some seconds) :
    p.UpToDate seconds s ∧ namesDir p.settings.lastRunFile = false ∧
      s.files.spot p.settings.lastRunFile = .ok (.found p.mark) ∧
      ∃ bytes, s.files.HasBytes p.mark bytes := by
  obtain ⟨q, bytes, hspot, hbytes, hseconds⟩ := Watermark.exists_of_read hread
  rw [Generator.watermark, hsettings] at hspot
  obtain rfl : q = p.mark := h.mark.place_eq hspot
  exact ⟨h.upToDate bytes seconds hbytes hseconds, h.form bytes hbytes, hspot, bytes, hbytes⟩

/-- A template that a run passes over is settled. -/
theorem Consistent.settled_of_not_mem (h : p.Consistent s) (hruns : p.Runs g s)
    (hselected : g.selected s.files onlyModified = .ok templates)
    (hedited : p.settings.EditedAt s.files f edited) (hf : f ∉ templates) :
    ∃ t₀ env sections, p.Settled s.files f t₀ env sections := by
  obtain ⟨seconds, hread, hbefore⟩ := hruns.exists_read h.sound hselected hedited hf
  exact (h.upToDate_of_read hruns.settings hread).1.settled f edited hedited hbefore

/-- A run that ends well leaves every template settled: it was rendered by the run, or it was
settled before. -/
theorem Consistent.exists_settled_after (h : p.Consistent s) (hruns : p.Runs g s)
    (hselected : g.selected s.files onlyModified = .ok templates)
    (hrun : g.renderEach p.values templates s = .ok stats s')
    (hedited : p.settings.EditedAt s'.files f edited) :
    ∃ t₀ env sections, p.Settled s'.files f t₀ env sections := by
  have hsub := hruns.mem_of_selected h.sound hselected
  by_cases hmem : f ∈ templates
  · exact ⟨_, _, hruns.exists_settled h.sound hsub hrun hmem hedited⟩
  · have hafter := after_of_ok hrun
    obtain ⟨hbefore, hsame⟩ := editedAt_renderEach hruns h.sound hsub (hafter ▸ hedited)
    obtain ⟨t₀, env, sections, hf⟩ := h.settled_of_not_mem hruns hselected hbefore hmem
    exact ⟨t₀, env, sections, hafter ▸ hf.renderEach hruns h.sound hsub hbefore hsame⟩

/-! ## Whole runs -/

/-- A run that rendered what it selected moves the watermark; then every template of an
earlier second is settled. -/
theorem Consistent.write_mark (h : p.Consistent s) (hruns : p.Runs g s)
    (hselected : g.selected s.files onlyModified = .ok templates)
    (hrun : g.renderEach p.values templates s = .ok stats s') {s'' : Session}
    {started : Instant} (hstarted : started = s.now)
    (hwrite : s'.files.write s'.now p.settings.lastRunFile
      (Watermark.toBytes (Instant.floorSeconds started)) = .ok s''.files)
    (hnow : s''.now = s'.now) : p.Consistent s'' := by
  subst hstarted
  have hsub := hruns.mem_of_selected h.sound hselected
  have hafter := after_of_ok hrun
  have h' : p.Consistent s' := hafter ▸ h.renderEach hruns hsub
  obtain ⟨hrendered, hnow'⟩ := hruns.renderEach h.sound hsub
  rw [hafter] at hrendered hnow'
  have hplace := h.sound.place_of_keeps hruns.place hruns.dir hrendered.keeps hrendered.current
  have hdir := hrendered.keeps.dirs _ hruns.dir
  obtain ⟨hform, spot, mode, hspot, -, hitem⟩ := item?_of_write h'.sound hwrite
  have hc := changesOnly_of_write h'.sound hwrite hspot
  rw [h'.mark.place_eq hspot] at hc hitem
  have hmark : s''.files.HasBytes p.mark (Watermark.toBytes (Instant.floorSeconds s.now)) :=
    ⟨s'.now, mode, by rw [hitem, if_pos rfl]⟩
  refine ⟨hc.sound, fun q target hlink => h'.links q target ((hc.keeps.links _ _).mp hlink),
    h'.templates.changesOnly hc, h'.out.changesOnly hc, h'.mark.changesOnly hc,
    fun _ _ => hform, fun bytes seconds hbytes hseconds => ?_⟩
  -- what is stored now is the second in which the run started
  obtain rfl : seconds = Instant.floorSeconds s.now := by
    rw [hbytes.inj hmark, Watermark.ofBytes?_toBytes] at hseconds
    split at hseconds
    · exact (Option.some.inj hseconds).symm
    · cases hseconds
  refine ⟨?_, h'.sound.place_of_keeps hplace hdir hc.keeps hc.current, hc.keeps.dirs _ hdir,
    fun f edited hedited hbefore => ?_⟩
  · exact Nat.le_of_eq (by rw [hnow, hnow'])
  · obtain ⟨names, _, heq, -⟩ | ⟨hedited, htext⟩ :=
      editedAt_of_changesOnly h'.sound hc hplace hdir hedited
    · exact absurd heq (p.below_templates_ne_mark names)
    · obtain ⟨t₀, env, sections, hf⟩ := h.exists_settled_after hruns hselected hrun hedited
      have hdisk := hf.onDisk.changesOnly h'.sound hc fun q ⟨r, _, hq⟩ heq =>
        p.below_out_ne_mark _ (hq.symm.trans heq)
      exact ⟨t₀, env, sections,
        hf.changesOnly hc (fun names _ => p.below_templates_ne_mark names) htext hdisk⟩

theorem Consistent.renderAll (h : p.Consistent s) (hruns : p.Runs g s)
    (onlyModified : Bool) : p.Consistent ((g.renderAll onlyModified p.values).after s) := by
  have hcommands : g.settings.postCommands = [] := hruns.settings ▸ p.commands
  obtain ⟨s₁, htalked, hrun⟩ := Generator.renderAll_apply g p.values onlyModified s
  have hs₁ := htalked.unchanged
  have h₁ := h.unchanged hs₁
  have hafter : (g.renderAll onlyModified p.values).after s =
      (Job.ofExcept (g.selected s.files onlyModified) >>=
        g.renderSelected p.values s.now).after s₁ := by
    rw [after, hrun, after]
  rw [hafter]
  cases hselected : g.selected s.files onlyModified with
  | error e => exact h₁
  | ok templates =>
      rw [after_bind_of_ok (x := Job.ofExcept (.ok templates)) rfl]
      obtain ⟨s₀, hs₀, hend⟩ :=
        Generator.after_renderSelected hcommands p.values s.now templates s₁
      have hunchanged := Unchanged.trans _ _ _ hs₁ hs₀
      have h₀ := h₁.unchanged hs₀
      have hruns₀ := hruns.unchanged hunchanged
      have hselected₀ : g.selected s₀.files onlyModified = .ok templates := by
        rw [hunchanged.1, hselected]
      obtain hend | ⟨stats, s₂, heach, hwrite, hnow⟩ := hend
      · have hsub := hruns₀.mem_of_selected h₀.sound hselected₀
        exact (h₀.renderEach hruns₀ hsub).unchanged hend
      · rw [Generator.watermark, hruns.settings] at hwrite
        exact h₀.write_mark hruns₀ hselected₀ heach hunchanged.2.1.symm hwrite hnow

/-- A run of a project, well or not. -/
theorem Consistent.renderProject (h : p.Consistent s) (hfinds : p.Finds p.Orderly s)
    (onlyModified : Bool) :
    p.Consistent ((renderProject p.document onlyModified p.overrides).after s) := by
  have hloaded := h.load
  unfold TemplateTree.renderProject
  cases hload : Settings.load p.document s with
  | error e s₁ =>
      rw [after_of_error hload] at hloaded
      rwa [after_bind_of_error hload]
  | ok settings s₁ =>
      rw [after_of_ok hload] at hloaded
      rw [after_bind_of_ok hload]
      have hnewed := Generator.unchanged_new settings s₁
      cases hnew : Generator.new settings s₁ with
      | error e s₂ =>
          rw [after_of_error hnew] at hnewed
          rw [after_bind_of_error hnew]
          exact hloaded.unchanged hnewed
      | ok g s₂ =>
          obtain ⟨rfl, hmade, hruns⟩ := h.runs hfinds hload hnew
          rw [after_bind_of_ok hnew]
          exact hmade.renderAll hruns onlyModified

theorem Consistent.step (h : p.Consistent s) (hstep : p.Step p.Orderly s s') : p.Consistent s' := by
  cases hstep with
  | wait hfiles hnow =>
      have hc : ChangesOnly (fun _ => False) s.files s'.files := by
        rw [hfiles]
        exact .refl h.sound
      exact h.changesOnly hc hnow id (fun _ => id) (fun _ _ => id) fun _ => False.elim
  | edit hedit => exact h.edit hedit
  | run hfinds onlyModified => exact h.renderProject hfinds onlyModified

theorem Reachable.consistent (h : p.Reachable p.Orderly s) : p.Consistent s := by
  obtain ⟨start, hstart, hsteps⟩ := h
  induction hsteps with
  | refl =>
      exact ⟨hstart.sound, hstart.links, hstart.templates, hstart.out, hstart.mark,
        fun bytes hbytes => absurd hbytes (hstart.fresh bytes),
        fun bytes _ hbytes => absurd hbytes (hstart.fresh bytes)⟩
  | tail _ hstep ih => exact ih.step hstep

end TemplateTree.Project
