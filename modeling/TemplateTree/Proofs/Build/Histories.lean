import TemplateTree.CommandLine.Run
import TemplateTree.Proofs.Build.Outcomes
import TemplateTree.Proofs.Environment.Stencils
import TemplateTree.Proofs.Settings.Loading

/-!
# Histories of a project

Templates of a project are edited, added and deleted, and now and then the project is
rendered, in full or as far as it was modified.  Every template that the next run passes
over has what it renders to on disk.
-/

namespace TemplateTree

open FileTree Session Job

/-- A project without commands whose settings and override stay, and with them the
variables that the extension adds which describes the run, and the answers to what its
templates ask.  The places of its template directory, output directory and watermark are
disjoint. -/
structure Project where
  document : Path
  overrides : Option GlobalOverride
  settings : Settings
  globals : Namespace
  /-- What a template of a name is answered. -/
  answers : Text → Template.Outlook
  templates : Place
  out : Place
  mark : Place
  commands : settings.postCommands = []
  apart : ¬ templates <+: out ∧ ¬ out <+: templates
  markApart : ¬ templates <+: mark ∧ ¬ out <+: mark

namespace Project

def values (p : Project) : Option Namespace :=
  p.overrides.map GlobalOverride.values

/-- Files with which a history starts: there is no watermark, and no link in the output
directory. -/
structure Starts (p : Project) (t : FileTree) : Prop where
  sound : t.Sound
  fresh : ∀ bytes, ¬ t.HasBytes p.mark bytes
  links : ∀ q target, t.root.item? (p.out ++ q) ≠ some (.link target)
  templates : t.LeadsOnlyTo p.settings.templateDir p.templates
  out : t.LeadsOnlyTo p.settings.outputDir p.out
  mark : t.LeadsOnlyTo p.settings.lastRunFile p.mark

/-- Work on the templates at a time: a file that is no stencil is written or deleted, or
a directory is made. -/
inductive Edit (p : Project) (now : Instant) (t : FileTree) : FileTree → Prop
  | write {names : List Text} {bytes : Bytes} {mode : Nat} (hne : names ≠ [])
      (hkind : (p.settings.templateAt names).isStencil = false)
      (hopen : t.Open (p.templates ++ names))
      (hold : ∀ i, t.root.item? (p.templates ++ names) = some i →
        ∃ old mode time, i = .file old mode time) :
      Edit p now t (t.putAt (p.templates ++ names) (.file bytes mode now))
  | makeDir {names : List Text} (hopen : t.Open (p.templates ++ names))
      (hnone : t.root.item? (p.templates ++ names) = none) :
      Edit p now t (t.putAt (p.templates ++ names) (.dir []))
  | delete {names : List Text} {bytes : Bytes} {mode : Nat} {time : Instant}
      (hkind : (p.settings.templateAt names).isStencil = false)
      (hfile : t.root.item? (p.templates ++ names) = some (.file bytes mode time)) :
      Edit p now t { t with root := t.root.erase (p.templates ++ names) }

/-- An environment whose templates refer to loaded stencils only, and where extensions
add the same variables as ever. -/
structure Steady (p : Project) (env : Environment) : Prop where
  independent : env.Independent
  globals : "debug".toList ∈ p.settings.engineExtensions → env.globals = p.globals

/-- Whatever templates are rendered, and in whatever order, the machine answers what they ask
as it always does. -/
def Answered (p : Project) (g : Generator) (s : Session) : Prop :=
  ∀ f ∈ g.environment.templates, ∀ n,
    (p.answers f.name).Alike ((s.host.moment n).answer s.now)
      (g.environment.questions f.name (p.settings.namespaceWith p.values) (p.answers f.name))

/-- What a run relies on; above all, different templates describe different files. -/
structure Orderly (p : Project) (g : Generator) (s : Session) : Prop where
  steady : p.Steady g.environment
  apart : g.Apart p.values p.answers p.out
  answered : p.Answered g s

/-- A run that starts in a session finds the settings of the project, as far as it gets,
and then makes a generator of a kind. -/
def Finds (p : Project) (kind : Generator → Session → Prop) (s : Session) : Prop :=
  ∀ settings s₁, Settings.load p.document s = .ok settings s₁ → settings = p.settings ∧
    ∀ g s₂, Generator.new settings s₁ = .ok g s₂ → kind g s

/-- What can happen: time goes on, templates are edited, or the project is rendered,
well or not, with a generator of a kind. -/
inductive Step (p : Project) (kind : Generator → Session → Prop) : Session → Session → Prop
  | wait {s s' : Session} (hfiles : s'.files = s.files) (hnow : s.now ≤ s'.now) :
      Step p kind s s'
  | edit {s : Session} {files : FileTree} (h : p.Edit s.now s.files files) :
      Step p kind s { s with files := files }
  | run {s : Session} (h : p.Finds kind s) (onlyModified : Bool) :
      Step p kind s ((renderProject p.document onlyModified p.overrides).after s)

/-- A session that a history leads to, with generators of a kind. -/
def Reachable (p : Project) (kind : Generator → Session → Prop) (s : Session) : Prop :=
  ∃ start : Session, p.Starts start.files ∧ Relation.ReflTransGen (p.Step kind) start s

/-! ## Templates that are settled -/

/-- A template whose present text was rendered, with its files on disk. -/
structure Settled (p : Project) (t : FileTree) (f : TemplateFile) (t₀ : FileTree)
    (env : Environment) (sections : List Section) : Prop where
  sound : t₀.Sound
  made : env.MadeFrom t₀ p.settings
  place : t₀.place p.settings.templateDir = .ok p.templates
  stencils : p.settings.KeepsStencils p.templates t₀ t
  steady : p.Steady env
  mem : f ∈ env.templates
  text : t.readText f.path = t₀.readText f.path
  describes : env.sections? p.settings p.values (p.answers f.name) f.name = some sections
  onDisk : p.settings.OnDisk p.out t sections

/-- Every template that is passed over with a cutoff is settled. -/
structure UpToDate (p : Project) (seconds : Nat) (s : Session) : Prop where
  past : seconds ≤ Instant.floorSeconds s.now
  place : s.files.place p.settings.templateDir = .ok p.templates
  dir : s.files.root.item? p.templates = some .dir
  settled : ∀ f edited, p.settings.EditedAt s.files f edited →
    Instant.ceilSeconds edited < seconds →
      ∃ t₀ env sections, p.Settled s.files f t₀ env sections

/-- What holds throughout a history. -/
structure Consistent (p : Project) (s : Session) : Prop where
  sound : s.files.Sound
  links : ∀ q target, s.files.root.item? (p.out ++ q) ≠ some (.link target)
  templates : s.files.LeadsOnlyTo p.settings.templateDir p.templates
  out : s.files.LeadsOnlyTo p.settings.outputDir p.out
  mark : s.files.LeadsOnlyTo p.settings.lastRunFile p.mark
  form : ∀ bytes, s.files.HasBytes p.mark bytes → namesDir p.settings.lastRunFile = false
  upToDate : ∀ bytes seconds, s.files.HasBytes p.mark bytes →
    Watermark.ofBytes? bytes = some seconds → p.UpToDate seconds s

variable {p : Project} {s s' : Session} {t t' t₀ : FileTree} {f : TemplateFile}
  {env : Environment} {sections : List Section} {P : Place → Prop} {g : Generator}
  {edited now : Instant} {names : List Text} {seconds : Nat}

theorem below_templates_ne_mark (p : Project) (names : List Text) :
    p.templates ++ names ≠ p.mark :=
  fun h => p.markApart.1 (h ▸ List.prefix_append _ _)

theorem below_out_ne_mark (p : Project) (names : List Text) : p.out ++ names ≠ p.mark :=
  fun h => p.markApart.2 (h ▸ List.prefix_append _ _)

theorem below_templates_ne_below_out (p : Project) (names names' : List Text) :
    p.templates ++ names ≠ p.out ++ names' := by
  intro h
  have htemplates : p.templates <+: p.out ++ names' := h ▸ List.prefix_append _ _
  have hout : p.out <+: p.out ++ names' := List.prefix_append _ _
  obtain hpre | hpre := List.prefix_or_prefix_of_prefix htemplates hout
  · exact p.apart.1 hpre
  · exact p.apart.2 hpre

/-- A template that is as it was keeps its text. -/
theorem readText_eq (ht : t.Sound) (hc : ChangesOnly P t t')
    (hplace : t.place p.settings.templateDir = .ok p.templates)
    (hplace' : t'.place p.settings.templateDir = .ok p.templates)
    (hholds : p.settings.Holds t p.templates names edited) (hP : ¬ P (p.templates ++ names)) :
    t'.readText (p.settings.templateAt names).path =
      t.readText (p.settings.templateAt names).path := by
  obtain ⟨bytes, mode, hfile⟩ := hholds.file
  have hbytes : t.HasBytes (p.templates ++ names) bytes := ⟨edited, mode, hfile⟩
  exact Settings.readText_templateAt ht hc.sound hplace hplace' hholds.ne_nil hbytes
    ((hc.hasBytes_iff hP).mpr hbytes)

/-- A template after some changes: its file was changed, or it is as it was. -/
theorem editedAt_of_changesOnly (ht : t.Sound) (hc : ChangesOnly P t t')
    (hplace : t.place p.settings.templateDir = .ok p.templates)
    (hdir : t.root.item? p.templates = some .dir)
    (h : p.settings.EditedAt t' f edited) :
    (∃ names bytes, P (p.templates ++ names) ∧
      t'.HasFile (p.templates ++ names) bytes edited) ∨
    p.settings.EditedAt t f edited ∧ t'.readText f.path = t.readText f.path := by
  obtain ⟨root, names, hroot, hholds, rfl⟩ := h
  have hplace' := ht.place_of_keeps hplace hdir hc.keeps hc.current
  obtain rfl : p.templates = root := Except.ok.inj (hplace'.symm.trans hroot)
  obtain ⟨bytes, mode, hfile⟩ := hholds.file
  by_cases hP : P (p.templates ++ names)
  · exact .inl ⟨names, bytes, hP, mode, hfile⟩
  · obtain ⟨mode', hfile'⟩ := (hc.file _ hP bytes edited).mp ⟨mode, hfile⟩
    have hholds' : p.settings.Holds t p.templates names edited :=
      ⟨hholds.ne_nil, ⟨bytes, mode', hfile'⟩, hholds.entered, hholds.name, hholds.time⟩
    exact .inr ⟨⟨_, names, hplace, hholds', rfl⟩, readText_eq ht hc hplace hplace' hholds' hP⟩

theorem Settled.changesOnly (h : p.Settled t f t₀ env sections) (hc : ChangesOnly P t t')
    (hstencils : ∀ names,
      (p.settings.templateAt names).isStencil = true → ¬ P (p.templates ++ names))
    (htext : t'.readText f.path = t.readText f.path)
    (hdisk : p.settings.OnDisk p.out t' sections) : p.Settled t' f t₀ env sections where
  sound := h.sound
  made := h.made
  place := h.place
  stencils := h.stencils.changesOnly hc hstencils
  steady := h.steady
  mem := h.mem
  text := htext.trans h.text
  describes := h.describes
  onDisk := hdisk

/-! ## Changes outside the output directory -/

theorem Consistent.changesOnly (h : p.Consistent s) (hc : ChangesOnly P s.files s'.files)
    (hnow : s.now ≤ s'.now) (hmark : ¬ P p.mark) (hout : ∀ names, ¬ P (p.out ++ names))
    (hstencils : ∀ names,
      (p.settings.templateAt names).isStencil = true → ¬ P (p.templates ++ names))
    (hfresh : ∀ q, P q → ∀ bytes time, s'.files.HasFile q bytes time → s.now ≤ time) :
    p.Consistent s' := by
  refine ⟨hc.sound, fun q target hlink => h.links q target ((hc.keeps.links _ _).mp hlink),
    h.templates.changesOnly hc, h.out.changesOnly hc, h.mark.changesOnly hc,
    fun bytes hbytes => h.form bytes ((hc.hasBytes_iff hmark).mp hbytes),
    fun bytes seconds hbytes hseconds => ?_⟩
  obtain ⟨hpast, hplace, hdir, hsettled⟩ :=
    h.upToDate bytes seconds ((hc.hasBytes_iff hmark).mp hbytes) hseconds
  refine ⟨Nat.le_trans hpast (Instant.floorSeconds_mono hnow),
    h.sound.place_of_keeps hplace hdir hc.keeps hc.current, hc.keeps.dirs _ hdir,
    fun f edited hedited hbefore => ?_⟩
  obtain ⟨names, bytes, hP, hfile⟩ | ⟨hedited, htext⟩ :=
    editedAt_of_changesOnly h.sound hc hplace hdir hedited
  · -- what was changed has a time that is not passed over
    have hlate := Instant.floorSeconds_le_ceilSeconds (hfresh _ hP _ _ hfile)
    omega
  · obtain ⟨t₀, env, sections, hf⟩ := hsettled f edited hedited hbefore
    have hdisk := hf.onDisk.changesOnly h.sound hc fun _ ⟨_, _, hq⟩ => hq ▸ hout _
    exact ⟨t₀, env, sections, hf.changesOnly hc hstencils htext hdisk⟩

theorem Consistent.unchanged (h : p.Consistent s) (hs : Unchanged s s') : p.Consistent s' := by
  obtain ⟨hfiles, hnow, -⟩ := hs
  have hc : ChangesOnly (fun _ => False) s.files s'.files := by
    rw [hfiles]
    exact .refl h.sound
  exact h.changesOnly hc (Int.le_of_eq hnow.symm) id (fun _ => id) (fun _ _ => id)
    fun _ => False.elim

/-- An edit changes one file, which is no stencil and has the time of the edit then. -/
theorem Edit.exists_changesOnly (h : p.Edit now t t') (ht : t.Sound) :
    ∃ P : Place → Prop, ChangesOnly P t t' ∧
      (∀ q, P q → ∃ names, q = p.templates ++ names ∧
        (p.settings.templateAt names).isStencil = false) ∧
      ∀ q, P q → ∀ bytes time, t'.HasFile q bytes time → time = now := by
  cases h with
  | @write names bytes mode hne hkind hopen hold =>
      refine ⟨_, changesOnly_of_putFile ht hopen hold, fun q hq => ⟨names, hq, hkind⟩, ?_⟩
      rintro q rfl bytes' time ⟨mode', hfile⟩
      have hdir : t.root.item? (p.templates ++ names) ≠ some .dir := fun hitem => by
        obtain ⟨_, _, _, hfile⟩ := hold _ hitem
        cases hfile
      rw [item?_putAt_file hopen hdir, if_pos rfl] at hfile
      exact (Item.file.inj (Option.some.inj hfile)).2.2.symm
  | makeDir hopen hnone =>
      exact ⟨fun _ => False, changesOnly_of_putDir ht hopen hnone, fun _ => False.elim,
        fun _ => False.elim⟩
  | @delete names bytes mode time hkind hfile =>
      refine ⟨_, changesOnly_of_erase ht hfile, fun q hq => ⟨names, hq, hkind⟩, ?_⟩
      rintro q rfl bytes' time' ⟨mode', hfile'⟩
      have hslot := (ht.open_of_item? hfile (by simp)).slot
      rw [Node.item?_erase hslot, if_pos List.prefix_rfl] at hfile'
      cases hfile'

theorem Consistent.edit {files : FileTree} (h : p.Consistent s)
    (hedit : p.Edit s.now s.files files) : p.Consistent { s with files := files } := by
  obtain ⟨P, hc, hP, htime⟩ := hedit.exists_changesOnly h.sound
  have hc : ChangesOnly P s.files { s with files := files }.files := hc
  refine h.changesOnly hc (Int.le_refl _) (fun hmark => ?_)
    (fun names hout => ?_) (fun names hkind hstencil => ?_) fun q hq bytes time hfile => ?_
  · obtain ⟨names, hq, -⟩ := hP _ hmark
    exact p.below_templates_ne_mark names hq.symm
  · obtain ⟨names', hq, -⟩ := hP _ hout
    exact p.below_templates_ne_below_out names' names hq.symm
  · obtain ⟨names', hq, hkind'⟩ := hP _ hstencil
    obtain rfl := List.append_cancel_left hq
    rw [hkind] at hkind'
    cases hkind'
  · exact Int.le_of_eq (htime q hq bytes time hfile).symm

theorem Consistent.load (h : p.Consistent s) :
    p.Consistent ((Settings.load p.document).after s) := by
  obtain ⟨hc, hnow⟩ := Settings.madeDirs_load p.document s h.sound
  exact h.changesOnly hc (Int.le_of_eq hnow.symm) id (fun _ => id) (fun _ _ => id)
    fun _ => False.elim

/-! ## What a run finds -/

/-- A generator that was made in a session from files as a project has them. -/
structure Runs (p : Project) (g : Generator) (s : Session) : Prop where
  settings : g.settings = p.settings
  made : g.environment.MadeFrom s.files p.settings
  place : s.files.place p.settings.templateDir = .ok p.templates
  dir : s.files.root.item? p.templates = some .dir
  output : p.settings.OutputAt p.out s.files
  orderly : p.Orderly g s

theorem Orderly.congr (h : p.Orderly g s) (hnow : s'.now = s.now) (hhost : s'.host = s.host) :
    p.Orderly g s' := by
  refine ⟨h.steady, h.apart, ?_⟩
  rw [Answered, hhost, hnow]
  exact h.answered

theorem Runs.unchanged (h : p.Runs g s) (hs : Unchanged s s') : p.Runs g s' := by
  obtain ⟨hfiles, hnow, hhost⟩ := hs
  exact ⟨h.settings, hfiles ▸ h.made, hfiles ▸ h.place, hfiles ▸ h.dir, hfiles ▸ h.output,
    h.orderly.congr hnow hhost⟩

theorem Consistent.runs {s₁ s₂ : Session} {settings : Settings} (h : p.Consistent s)
    (hfinds : p.Finds p.Orderly s) (hload : Settings.load p.document s = .ok settings s₁)
    (hnew : Generator.new settings s₁ = .ok g s₂) :
    settings = p.settings ∧ p.Consistent s₂ ∧ p.Runs g s₂ := by
  obtain ⟨rfl, horderly⟩ := hfinds settings s₁ hload
  have h₁ := h.load
  rw [after_of_ok hload] at h₁
  have hunchanged := (Generator.unchanged_new p.settings).of_ok hnew
  have h₂ := h₁.unchanged hunchanged
  obtain ⟨hsettings, hmade⟩ := Generator.new_eq_ok hnew
  rw [← hunchanged.1] at hmade
  have hplace : s₂.files.place p.settings.templateDir = .ok p.templates := by
    obtain ⟨root, hroot⟩ := Settings.place_of_candidates hmade.templates
    obtain rfl : root = p.templates := h₂.templates.place_eq (place_eq_ok_iff.mp hroot)
    exact hroot
  have houtput : p.settings.OutputAt p.out s₂.files := by
    have hthere := Settings.hasDir_of_load h.sound hload
    rw [← hunchanged.1] at hthere
    obtain ⟨q, hspot, hdir⟩ := hasDir_iff.mp hthere
    obtain rfl : q = p.out := h₂.out.place_eq hspot
    exact ⟨h₂.sound, place_eq_ok_iff.mpr hspot, hdir, h₂.links⟩
  obtain ⟨hnow, hhost⟩ := Settings.same_machine_of_load h.sound hload
  exact ⟨rfl, h₂, hsettings, hmade, hplace, hmade.dir_of_place h₂.sound hplace, houtput,
    (horderly g s₂ hnew).congr (hunchanged.2.1.trans hnow) (hunchanged.2.2.trans hhost)⟩

section

variable (hruns : p.Runs g s) (hs : s.files.Sound)
include hruns hs

/-- On the machine of a session templates describe what they always do. -/
theorem Runs.describe {templates : List TemplateFile}
    (hsub : ∀ f ∈ templates, f ∈ g.environment.templates) :
    g.Describe p.values p.answers templates s.host s.now := by
  refine Generator.Answered.describe (hruns.settings ▸ hruns.made) hs fun k f hf => ?_
  rw [hruns.settings]
  exact hruns.orderly.answered f (hsub f (List.mem_of_getElem? hf)) k

theorem Runs.mem_templates (hedited : p.settings.EditedAt s.files f edited) :
    f ∈ g.environment.templates :=
  (hedited.mem_candidates_iff hs hruns.made.templates).mpr (by simp [Settings.NotBefore])

/-- A settled template still renders to what it has on disk. -/
theorem Settled.sections?_eq (h : p.Settled s.files f t₀ env sections)
    (hf : f ∈ g.environment.templates) :
    g.sections? p.values p.answers f = some sections := by
  obtain ⟨text, hrender, hsections⟩ := Environment.sections?_eq_some_iff.mp h.describes
  have hsource : g.environment.sources.lookup f.name = env.sources.lookup f.name := by
    obtain ⟨source, hsource⟩ := h.made.exists_source h.mem
    obtain ⟨source', hsource'⟩ := hruns.made.exists_source hf
    obtain ⟨old, hold, rfl⟩ := h.made.source_eq h.sound (.inl h.mem) hsource
    obtain ⟨new, hnew, rfl⟩ := hruns.made.source_eq hs (.inl hf) hsource'
    rw [h.text, hold] at hnew
    obtain rfl := Except.ok.inj hnew
    rw [hsource, hsource']
  have hglobals : g.environment.globals = env.globals := by
    by_cases hdebug : "debug".toList ∈ p.settings.engineExtensions
    · rw [hruns.orderly.steady.globals hdebug, h.steady.globals hdebug]
    · exact h.made.globals_eq hruns.made fun hchosen => absurd hchosen hdebug
  have hstencils := h.made.sameStencils hruns.made h.sound hs h.place hruns.place h.stencils
  have hrender' := Environment.render_eq_ok h.made hruns.made h.sound hs hstencils
    h.steady.independent hruns.orderly.steady.independent h.mem hf hsource hglobals hrender
  rw [Generator.sections?, hruns.settings]
  exact Environment.sections?_eq_some_iff.mpr ⟨text, hrender', hsections⟩

end

end Project

end TemplateTree
