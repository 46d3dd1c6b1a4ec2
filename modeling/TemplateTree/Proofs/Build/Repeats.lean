import TemplateTree.Proofs.Build.Outcomes
import TemplateTree.Proofs.Environment.Remaking
import TemplateTree.Proofs.Output.Confined
import TemplateTree.Proofs.Output.Rewriting
import TemplateTree.Proofs.Settings.Loading
import TemplateTree.Proofs.Settings.Sketch

/-!
# Full runs that are repeated

A run that ends well leaves the sections of all its templates at rest, those of a later
template after those of an earlier one.  A second run finds the same templates, renders
them to the same sections, and writes them once more.
-/

namespace TemplateTree.Generator

open FileTree Session Job Settings

variable {g : Generator} {overrides : Option Namespace} {answers : Text → Template.Outlook}
  {out root : Place} {s s' u : Session} {stats : RunStats} {templates : List TemplateFile}
  {f : TemplateFile} {sections rest : List Section} {t t' v : FileTree} {now : Instant}

/-- The sections of templates, in the order in which they are written. -/
def allSections (g : Generator) (overrides : Option Namespace)
    (answers : Text → Template.Outlook) (templates : List TemplateFile) : List Section :=
  templates.flatMap fun f => (g.sections? overrides answers f).getD []

def tally (g : Generator) (overrides : Option Namespace) (answers : Text → Template.Outlook) :
    List TemplateFile → RunStats
  | [] => .zero
  | f :: rest => RunStats.add ⟨1, ((g.sections? overrides answers f).getD []).length⟩
      (g.tally overrides answers rest)

theorem allSections_cons (hsections : g.sections? overrides answers f = some sections) :
    g.allSections overrides answers (f :: templates) =
      sections ++ g.allSections overrides answers templates := by
  rw [allSections, List.flatMap_cons, hsections]
  rfl

/-! ## What is counted -/

theorem stats_of_renderTemplate
    (h : g.environment.renderTemplate g.settings f.name overrides s = .ok stats s') :
    ∃ sections, g.sections? overrides (fun _ => s.outlook) f = some sections ∧
      stats = ⟨1, sections.length⟩ := by
  rw [Environment.renderTemplate_apply] at h
  obtain ⟨text, s₁, hrender, h⟩ := bind_eq_ok h
  obtain ⟨sections, s₂, hsections, h⟩ := bind_eq_ok h
  obtain ⟨saved, s₃, hwrite, h⟩ := bind_eq_ok h
  obtain ⟨_, s₄, -, hwrite⟩ := bind_eq_ok hwrite
  obtain ⟨_, s₅, -, hwrite⟩ := bind_eq_ok hwrite
  cases hwrite
  cases h
  exact ⟨sections, Environment.sections?_eq_some_iff.mpr
    ⟨text, (ofExcept_eq_ok hrender).1, (ofExcept_eq_ok hsections).1⟩, rfl⟩

theorem stats_of_renderEach (hdescribe : g.Describe overrides answers templates s.host s.now)
    (h : g.renderEach overrides templates s = .ok stats s') :
    stats = g.tally overrides answers templates := by
  induction templates generalizing s stats with
  | nil =>
      cases h
      rfl
  | cons f rest ih =>
      obtain ⟨here, s₁, hhere, h⟩ := bind_eq_ok h
      obtain ⟨there, s₂, hrest, h⟩ := bind_eq_ok h
      cases h
      obtain ⟨-, hnow, hdescribe'⟩ :=
        (g.does_renderTemplate overrides answers f rest).eq_some hdescribe hhere
      obtain ⟨sections, hsections, rfl⟩ := stats_of_renderTemplate hhere
      have hsame : g.sections? overrides answers f = some sections :=
        hdescribe.head.symm.trans hsections
      rw [ih (hnow.symm ▸ hdescribe') hrest, tally, hsame]
      rfl

/-! ## What rendering leaves -/

/-- The files of all templates are as the last sections of each place leave them. -/
theorem atRest_of_rendered (ht : g.settings.OutputAt out t)
    (h : templates.foldlM (g.rendered? overrides answers now) t = some t') :
    (∀ f ∈ templates, ∃ sections, g.sections? overrides answers f = some sections) ∧
    ChangesOnly (IsTarget out (g.allSections overrides answers templates)) t t' ∧
    g.settings.AtRest out t' (g.allSections overrides answers templates) ∧
    ∀ q, t.Executable q → t'.Executable q := by
  induction templates generalizing t with
  | nil =>
      cases h
      exact ⟨by simp, .refl ht.sound, ⟨trivial, by simp [allSections]⟩, fun _ => id⟩
  | cons f rest ih =>
      rw [List.foldlM_cons] at h
      obtain ⟨t₁, hfirst, h⟩ := Option.bind_eq_some_iff.mp h
      obtain ⟨sections, hsections, hsaved⟩ := rendered?_eq_some_iff.mp hfirst
      have hcontained := Environment.contained_of_sections? hsections
      obtain ⟨hc, -⟩ := saved?_spec ht hcontained hsaved
      obtain ⟨hrest, hkeeps⟩ := atRest_of_saved? ht hcontained hsaved
      obtain ⟨hall, hc', hmore, hkeeps'⟩ := ih (ht.changesOnly hc) h
      rw [allSections_cons hsections]
      refine ⟨?_, ?_, hrest.append hc.sound hc' hkeeps' hmore,
        fun q hq => hkeeps' q (hkeeps q hq)⟩
      · exact List.forall_mem_cons.mpr ⟨⟨sections, hsections⟩, hall⟩
      · refine (hc.mono ?_).trans (hc'.mono ?_)
        · rintro q ⟨r, hr, hq⟩
          exact ⟨r, List.mem_append_left _ hr, hq⟩
        · rintro q ⟨r, hr, hq⟩
          exact ⟨r, List.mem_append_right _ hr, hq⟩

/-- Templates whose sections are at rest are rendered once more. -/
theorem exists_rendered_again
    (hrest : g.settings.AtRest out t (g.allSections overrides answers templates)) (later : Instant)
    (hall : ∀ f ∈ templates, ∃ sections, g.sections? overrides answers f = some sections)
    (hv : g.settings.OutputAt out v)
    (hsame : SameOff (IsTarget out (g.allSections overrides answers templates)) t v) :
    ∃ v', templates.foldlM (g.rendered? overrides answers later) v = some v' ∧
      g.settings.OutputAt out v' ∧ SameOff (fun _ => False) t v' := by
  induction templates generalizing v with
  | nil =>
      refine ⟨v, rfl, hv, hsame.current, hsame.rights, fun q _ => hsame.untimed q ?_⟩
      simp [allSections, IsTarget]
  | cons f rest ih =>
      obtain ⟨sections, hsections⟩ := hall f List.mem_cons_self
      rw [allSections_cons hsections] at hrest hsame
      obtain ⟨v₁, hsaved, hv₁, hsame₁⟩ := hrest.saved?_again later
        (Environment.contained_of_sections? hsections) hv hsame
      have hdone : g.settings.AtRest out t (g.allSections overrides answers rest) := hrest.of_append
      obtain ⟨v', hmore, hv', hsame'⟩ :=
        ih hdone (fun f' hf' => hall f' (List.mem_cons_of_mem _ hf')) hv₁ hsame₁
      refine ⟨v', ?_, hv', hsame'⟩
      rw [List.foldlM_cons, rendered?_eq_some_iff.mpr ⟨sections, hsections, hsaved⟩]
      exact hmore

/-- Rendering stays inside the output directory. -/
theorem confined_renderEach (hs : g.settings.OutputAt out s.files)
    (h : g.renderEach overrides templates s = .ok stats s') :
    ConfinedTo out s.files s'.files := by
  have hfilled : Within (Filled g.settings out (fun q => ∃ names, q = out ++ names) (IsInside out))
      (g.renderEach overrides templates) := by
    apply within_renderEach Filled.refl Filled.trans
    intro f _ s
    apply (g.environment.filled_renderTemplate g.settings f.name overrides out s).mono
    · rintro q ⟨sections, -, r, -, hq⟩
      exact ⟨_, hq⟩
    · rintro q ⟨sections, -, r, -, names, hne, -, hq⟩
      exact ⟨names, hne, hq⟩
  have hafter := (hfilled.of_ok h hs).2
  exact hafter.confinedTo hs.dir (fun _ => id) fun _ => id

/-! ## What a full run leaves -/

/-- What a full run leaves: the sections of its templates at rest and a new watermark. -/
structure Leaves (g : Generator) (overrides : Option Namespace)
    (answers : Text → Template.Outlook) (out : Place) (templates : List TemplateFile)
    (t t' : FileTree) : Prop where
  sections : ∀ f ∈ templates, ∃ sections, g.sections? overrides answers f = some sections
  output : g.settings.OutputAt out t'
  rest : g.settings.AtRest out t' (g.allSections overrides answers templates)
  mark : ∃ mark, t'.spot g.watermark.path = .ok (.found mark) ∧
    (∃ bytes, t'.HasBytes mark bytes) ∧ namesDir g.watermark.path = false ∧
    t.MayLeadTo g.watermark.path mark ∧
    ∀ q, ¬ IsInside out q → q ≠ mark → t'.root.item? q = t.root.item? q
  keeps : Keeps t.root t'.root
  current : t'.current = t.current

theorem leaves_of_renderAll (hs : g.settings.OutputAt out s.files)
    (hcommands : g.settings.postCommands = [])
    (hmark : ∀ q, s.files.MayLeadTo g.watermark.path q → ¬ out <+: q)
    (hselected : g.settings.candidates s.files none = .ok templates) (hne : templates ≠ [])
    (hdescribe : g.Describe overrides answers templates s.host s.now)
    (h : g.renderAll false overrides s = .ok stats s') :
    stats = g.tally overrides answers templates ∧
      g.Leaves overrides answers out templates s.files s'.files := by
  obtain ⟨templates', hselected', -, hrun⟩ := renderAll_eq_ok h
  obtain rfl : templates' = templates := Except.ok.inj (hselected'.symm.trans hselected)
  obtain ⟨s₁, s₂, s₃, hs₁, heach, hpost, hwrite⟩ := hrun hne
  obtain rfl : s₂ = s₃ := by
    rw [runPostCommands, hcommands] at hpost
    cases hpost
    rfl
  rw [← hs₁.1] at hs hmark
  rw [← hs₁.2.1, ← hs₁.2.2] at hdescribe
  obtain ⟨hrendered, -⟩ :=
    (g.does_renderEach overrides answers templates').eq_some hdescribe heach
  obtain ⟨hall, hc, hrest, -⟩ := atRest_of_rendered hs hrendered
  have hconfined := confined_renderEach hs heach
  have hs₂ := hs.changesOnly hc
  obtain ⟨hform, spot, mode, hspot, -, hitem⟩ := item?_of_write hs₂.sound hwrite
  have hlast := changesOnly_of_write hs₂.sound hwrite hspot
  have hmay : s₁.files.MayLeadTo g.watermark.path spot.place :=
    (mayLeadTo_iff_of_keeps hc.keeps hc.current).mp (.of_spot hspot)
  have hout : ∀ names, out ++ names ≠ spot.place := fun names heq =>
    hmark _ hmay ⟨names, heq⟩
  obtain ⟨mode', hfound, hfile⟩ := spot_after_write hs₂.sound hwrite hspot
  refine ⟨stats_of_renderEach hdescribe heach, hall, hs₂.changesOnly hlast, ⟨?_, ?_⟩, ?_, ?_, ?_⟩
  · apply hrest.disk.changesOnly hs₂.sound hlast
    rintro q ⟨r, -, rfl⟩
    exact hout _
  · exact fun r hr hscript =>
      executable_of_write hs₂.sound hwrite (hrest.scripts r hr hscript)
  · rw [← hs₁.1]
    refine ⟨spot.place, hfound, ⟨_, _, _, hfile⟩, hform, hmay, fun q hq hne => ?_⟩
    rw [hitem, if_neg hne, hconfined.2 q hq]
  · rw [← hs₁.1]
    exact hc.keeps.trans hlast.keeps
  · rw [← hs₁.1, hlast.current, hc.current]

/-! ## The second run -/

/-- After a full run, a second one selects the same templates and ends in the same way. -/
theorem Leaves.renderAll_again (h : g.Leaves overrides answers out templates t u.files)
    (hcommands : g.settings.postCommands = [])
    (hmark : ∀ q, t.MayLeadTo g.watermark.path q → ¬ out <+: q)
    (hselected : g.settings.candidates u.files none = .ok templates) (hne : templates ≠ [])
    (hdescribe : g.Describe overrides answers templates u.host u.now) :
    ∃ u', g.renderAll false overrides u = .ok (g.tally overrides answers templates) u' ∧
      ∀ names, (u'.files.root.item? (out ++ names)).map Item.untimed =
        (u.files.root.item? (out ++ names)).map Item.untimed := by
  obtain ⟨mark, hfound, hfile, hform, hmay, -⟩ := h.mark
  obtain ⟨v, hrendered, hv, hsame⟩ :=
    exists_rendered_again h.rest u.now h.sections h.output (.refl _ _)
  have hspot : v.spot g.watermark.path = .ok (.found mark) :=
    hsame.sameShape.spot_eq.trans hfound
  obtain ⟨v', hwrite⟩ : ∃ v', v.write u.now g.watermark.path
      (Watermark.toBytes (Instant.floorSeconds u.now)) = .ok v' := by
    refine exists_write hform hspot fun q hq => ?_
    obtain rfl := Spot.found.inj hq
    obtain ⟨bytes, time, mode, hitem⟩ := hfile
    exact hsame.sameShape.exists_file ⟨bytes, mode, time, hitem⟩
  have hselected' : g.selected u.files false = .ok templates := hselected
  have hran : g.ran? false overrides answers u.now u.files = some v' := by
    rw [ran?, hselected']
    simp [Except.toOption, hrendered, hne, hwrite]
  obtain ⟨stats, u', hrun, rfl⟩ := exists_renderAll_of_ran? hcommands hselected' hdescribe hran
  refine ⟨u', ?_, fun names => ?_⟩
  · obtain ⟨templates', hselected', -, heach⟩ := renderAll_eq_ok hrun
    obtain rfl : templates' = templates := Except.ok.inj (hselected'.symm.trans hselected)
    obtain ⟨s₁, s₂, s₃, hs₁, heach, -⟩ := heach hne
    rw [← hs₁.2.1, ← hs₁.2.2] at hdescribe
    exact stats_of_renderEach hdescribe heach ▸ hrun
  · obtain ⟨-, spot, mode, hspot', -, hitem⟩ := item?_of_write hv.sound hwrite
    obtain rfl : spot = .found mark := Except.ok.inj (hspot'.symm.trans hspot)
    have houtside : out ++ names ≠ mark := fun heq => hmark mark hmay ⟨names, heq⟩
    rw [hitem, Spot.place, if_neg houtside]
    exact hsame.untimed _ fun hfalse => hfalse

/-- What is below the template directory is as it was. -/
theorem Leaves.sameBelow (h : g.Leaves overrides answers out templates t t') (ht : t.Sound)
    (hplace : t.place g.settings.templateDir = .ok root)
    (hdir : t.root.item? root = some .dir)
    (hapart : ¬ root <+: out ∧ ¬ out <+: root)
    (hmark : ∀ q, t.MayLeadTo g.watermark.path q → ¬ root <+: q) :
    g.settings.SameBelow root t t' := by
  obtain ⟨mark, -, -, -, hmay, hitem⟩ := h.mark
  refine ⟨hplace, ht.place_of_keeps hplace hdir h.keeps h.current, fun names => hitem _ ?_ ?_⟩
  · rintro ⟨names', -, heq⟩
    have hpre : out <+: root ++ names := ⟨names', heq.symm⟩
    exact (List.prefix_or_prefix_of_prefix hpre (List.prefix_append root names)).elim
      hapart.2 hapart.1
  · intro heq
    exact hmark mark hmay ⟨names, heq⟩

/-- A full run is idempotent as long as the machine answers what templates ask as it did:
after one that ended well, a generator that is made once more of the same settings renders all
templates once more, with the same counts, at any later time and with any reporter.  Below the
output directory everything is then as it was, with the same contents and rights, also where
sections or templates share a file. -/
theorem full_run_idempotent {document : Path} {settings : Settings} {s₀ s s₁ s' u : Session}
    (hs₀ : s₀.files.Sound) (hload : Settings.load document s₀ = .ok settings s)
    (htemplates : s.files.place settings.templateDir = .ok root)
    (hout : s.files.place settings.outputDir = .ok out)
    (hapart : ¬ root <+: out ∧ ¬ out <+: root)
    (hmark : ∀ q, s.files.MayLeadTo settings.lastRunFile q → ¬ root <+: q ∧ ¬ out <+: q)
    (hlinks : ∀ q target, s.files.root.item? (out ++ q) ≠ some (.link target))
    (hcommands : settings.postCommands = [])
    (hnew : Generator.new settings s = .ok g s₁)
    (hfirst : g.Answered overrides answers g.environment.templates s₁.host s₁.now)
    (hrun : g.renderAll false overrides s₁ = .ok stats s') (hu : u.files = s'.files)
    (hsecond : g.Answered overrides answers g.environment.templates u.host u.now) :
    ∃ g' u₁ u', Generator.new settings u = .ok g' u₁ ∧
      g'.renderAll false overrides u₁ = .ok stats u' ∧
      ∀ names, (u'.files.root.item? (out ++ names)).map Item.untimed =
        (s'.files.root.item? (out ++ names)).map Item.untimed := by
  have hs : s.files.Sound := by
    have hmade := (Settings.madeDirs_load document).of_ok hload hs₀
    exact hmade.1.sound
  obtain ⟨rfl, hmade⟩ := Generator.new_eq_ok hnew
  have hunchanged := (unchanged_new g.settings).of_ok hnew
  have houtput : g.settings.OutputAt out s.files := by
    obtain ⟨q, hspot, hdir⟩ := hasDir_iff.mp (Settings.hasDir_of_load hs₀ hload)
    obtain rfl : q = out := Except.ok.inj ((place_eq_ok_iff.mpr hspot).symm.trans hout)
    exact ⟨hs, hout, hdir, hlinks⟩
  rw [← hunchanged.1] at hs houtput hmade htemplates hmark
  obtain ⟨rfl, hleaves⟩ := leaves_of_renderAll houtput hcommands (fun q hq => (hmark q hq).2)
    hmade.templates hmade.templates_ne_nil (hfirst.describe hmade hs) hrun
  have hbelow := hleaves.sameBelow hs htemplates (hmade.dir_of_place hs htemplates) hapart
    fun q hq => (hmark q hq).1
  have hselected : g.settings.candidates u.files none = .ok g.environment.templates := by
    rw [hu, hbelow.candidates_eq hs hleaves.output.sound]
    exact hmade.templates
  rw [← hu] at hleaves hbelow
  obtain ⟨u₁, hagain, hu₁⟩ := exists_new_again (hunchanged.1 ▸ hbelow) (hunchanged.1 ▸ hs)
    hleaves.output.sound hnew
  rw [← hu₁.1] at hleaves hselected
  rw [← hu₁.2.1, ← hu₁.2.2] at hsecond
  obtain ⟨u', hrun', hitem⟩ := hleaves.renderAll_again hcommands (fun q hq => (hmark q hq).2)
    hselected hmade.templates_ne_nil (hsecond.describe hmade hs)
  refine ⟨g, u₁, u', hagain, hrun', fun names => ?_⟩
  rw [hitem, hu₁.1, hu]

end TemplateTree.Generator

/-! ## Templates that share a script -/

namespace TemplateTree.Sketch

open FileTree

/-- A project with a document, whose two templates describe one script, the first of them
twice. -/
def shared : FileTree :=
  ⟨.dir [(['d'], file ("\x7b\"root_dir\": \".\", \"template_dir\": \"t\", ".toList ++
      "\"output_dir\": \"out\", \"included_suffixes\": [\"*\"], \"newline\": \"lf\", ".toList ++
      "\"last_run_file\": \"last\"\x7d".toList)),
    (['t'], .dir [(['a'], file (describing "x.sh".toList ['A'] ++ describing "x.sh".toList ['B'])),
      (['b'], file (describing "x.sh".toList ['C']))])], []⟩

theorem sound_shared : shared.Sound := by
  refine ⟨Node.Sound.of_names [['d'], ['t']] rfl (by decide) (by decide) ?_, rfl⟩
  refine List.forall_mem_cons.mpr ⟨.file, List.forall_mem_singleton.mpr ?_⟩
  refine Node.Sound.of_names [['a'], ['b']] rfl (by decide) (by decide) ?_
  exact List.forall_mem_cons.mpr ⟨.file, List.forall_mem_singleton.mpr .file⟩

/-- Whether loaded settings are those of a project in the root directory without commands,
with an empty output directory and no watermark. -/
def isBlank (settings : Settings) (t : FileTree) : Bool :=
  settings.postCommands.isEmpty &&
  match t.place settings.templateDir, t.place settings.outputDir, t.spot settings.lastRunFile,
    t.root.get? ["out".toList] with
  | .ok root, .ok out, .ok (.free mark), some (.dir []) =>
    root = [['t']] && out = ["out".toList] && mark = ["last".toList]
  | _, _, _, _ => false

/-- Whether no template of the project asks the machine for anything, and a full run of it
leaves the last body of the script, which may be executed. -/
def leavesScript : Bool :=
  match Settings.load "/d".toList (start shared) with
  | .error _ _ => false
  | .ok settings s => isBlank settings s.files &&
    match Generator.new settings s with
    | .error _ _ => false
    | .ok g s₁ => g.environment.templates.all (g.asksNothing none) &&
      match g.renderAll false none s₁ with
      | .error _ _ => false
      | .ok stats s' => stats = ⟨2, 3⟩ &&
        match s'.files.root.item? ["out".toList, "x.sh".toList] with
        | some (.file bytes mode _) => bytes = Text.toBytes "C\n".toList && mode = 0o744
        | _ => false

theorem exists_leavesScript : ∃ settings s g s₁ s' time,
    Settings.load "/d".toList (start shared) = .ok settings s ∧ isBlank settings s.files = true ∧
    Generator.new settings s = .ok g s₁ ∧
    (∀ f ∈ g.environment.templates, g.asksNothing none f = true) ∧
    g.renderAll false none s₁ = .ok ⟨2, 3⟩ s' ∧
    s'.files.root.item? ["out".toList, "x.sh".toList] =
      some (.file (Text.toBytes "C\n".toList) 0o744 time) := by
  have hcheck : leavesScript = true := by decide +kernel
  unfold leavesScript at hcheck
  split at hcheck
  case h_1 => cases hcheck
  case h_2 settings s hload =>
    obtain ⟨hblank, hcheck⟩ := Bool.and_eq_true_iff.mp hcheck
    split at hcheck
    case h_1 => cases hcheck
    case h_2 g s₁ hnew =>
      obtain ⟨hasks, hcheck⟩ := Bool.and_eq_true_iff.mp hcheck
      split at hcheck
      case h_1 => cases hcheck
      case h_2 stats s' hrun =>
        obtain ⟨hstats, hcheck⟩ := Bool.and_eq_true_iff.mp hcheck
        split at hcheck
        case h_1 bytes mode time hfile =>
          simp only [Bool.and_eq_true, decide_eq_true_eq] at hcheck hstats
          obtain ⟨rfl, rfl⟩ := hcheck
          exact ⟨settings, s, g, s₁, s', time, hload, hblank, hnew, List.all_eq_true.mp hasks,
            hstats ▸ hrun, hfile⟩
        case h_2 => cases hcheck

end TemplateTree.Sketch

namespace TemplateTree.Generator

open FileTree

/-- The script that both templates describe stays as the last of its sections left it. -/
theorem full_run_idempotent_shared : ∃ settings s g s₁ s',
    Settings.load "/d".toList (Sketch.start Sketch.shared) = .ok settings s ∧
    Generator.new settings s = .ok g s₁ ∧ g.renderAll false none s₁ = .ok ⟨2, 3⟩ s' ∧
    ∀ u : Session, u.files = s'.files → ∃ g' u₁ u' time,
      Generator.new settings u = .ok g' u₁ ∧ g'.renderAll false none u₁ = .ok ⟨2, 3⟩ u' ∧
      u'.files.root.item? ["out".toList, "x.sh".toList] =
        some (.file (Text.toBytes "C\n".toList) 0o744 time) := by
  obtain ⟨settings, s, g, s₁, s', time, hload, hblank, hnew, hasks, hrun, hfile⟩ :=
    Sketch.exists_leavesScript
  refine ⟨settings, s, g, s₁, s', hload, hnew, hrun, fun u hu => ?_⟩
  obtain ⟨hcommands, hblank⟩ := Bool.and_eq_true_iff.mp hblank
  split at hblank
  case h_2 => cases hblank
  case h_1 root out mark hroot hout hmark hget =>
    simp only [Bool.and_eq_true, decide_eq_true_eq] at hblank
    obtain ⟨⟨rfl, rfl⟩, rfl⟩ := hblank
    have hlinks : ∀ q target, s.files.root.item? (["out".toList] ++ q) ≠ some (.link target) := by
      intro q target
      rw [Node.item?_append, hget]
      cases q <;> simp [Node.item, Node.item?_dir_cons]
    have honly : ∀ q, s.files.MayLeadTo settings.lastRunFile q →
        ¬ [['t']] <+: q ∧ ¬ ["out".toList] <+: q := by
      intro q hq
      obtain rfl : q = ["last".toList] := (LeadsOnlyTo.of_spot hmark).eq hq
      decide
    obtain ⟨g', u₁, u', hagain, hrun', hitem⟩ := full_run_idempotent Sketch.sound_shared hload hroot
      hout (by decide) honly hlinks (List.isEmpty_iff.mp hcommands) hnew
      (answered_of_asksNothing hasks _ _) hrun hu (answered_of_asksNothing hasks _ _)
    have hsame := hitem ["x.sh".toList]
    rw [List.singleton_append, hfile] at hsame
    obtain ⟨later, hafter⟩ := Item.exists_of_untimed hsame
    exact ⟨g', u₁, u', later, hagain, hrun', hafter⟩

end TemplateTree.Generator
