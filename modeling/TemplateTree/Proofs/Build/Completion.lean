import TemplateTree.Proofs.Build.Watermarks
import TemplateTree.Proofs.Output.Confined

/-!
# Runs that complete

The watermark tells when the last complete run started.  It is moved by a run that
completes and by nothing else, so that what a failed run did is done again.
-/

namespace TemplateTree

open FileTree Session Job

namespace Generator

variable {g : Generator} {onlyModified : Bool} {overrides : Option Namespace} {t u : FileTree}
  {host : Host} {s : Session} {templates : List TemplateFile} {line : Text}

/-- Whether templates ask nothing, and their sections lead elsewhere than the watermark. -/
def leadElsewhere (g : Generator) (overrides : Option Namespace) (t : FileTree)
    (templates : List TemplateFile) : Bool :=
  match t.spot g.watermark.path with
  | .error _ => false
  | .ok mark => templates.all fun f => g.asksNothing overrides f &&
      ((g.sections? overrides (fun _ => .none) f).getD []).all fun r =>
        match t.spot (g.settings.target r) with
        | .error _ => false
        | .ok spot => spot.place ≠ mark.place

theorem apart_of_leadElsewhere (hmade : g.environment.MadeFrom u g.settings) (hu : u.Sound)
    (h : g.leadElsewhere overrides t templates = true) :
    g.watermark.Followed t ∧ ∀ f ∈ templates, ∀ o,
      g.watermark.Apart t (g.environment.WritesTo g.settings overrides o f.name) := by
  unfold leadElsewhere at h
  split at h
  case h_1 => cases h
  case h_2 mark hmark =>
    refine ⟨⟨mark, hmark⟩, fun f hf o => Watermark.apart_of_spot hmark ?_⟩
    rintro p ⟨sections, hsections, r, hr, rfl⟩
    obtain ⟨hasks, hall⟩ := Bool.and_eq_true_iff.mp (List.all_eq_true.mp h f hf)
    have hsame := sections?_of_alike hmade hu (alike_of_asksNothing hasks o)
    rw [← hsame, show g.sections? overrides (fun _ => o) f = some sections from hsections] at hall
    have hcheck := List.all_eq_true.mp hall r hr
    split at hcheck
    case h_1 => cases hcheck
    case h_2 spot hspot => exact ⟨spot, hspot, of_decide_eq_true hcheck⟩

/-- A command that changes no file, whenever a machine runs it. -/
def Idle (g : Generator) (host : Host) (line : Text) : Prop :=
  ∀ n t now outcome t' now',
    (host.moment n).run t now g.settings.rootDir line = .ok (outcome, t', now') → t' = t

theorem Idle.later {host' : Host} (h : g.Idle host line) (hlater : host.Later host') :
    g.Idle host' line :=
  hlater.keeps (Q := fun host => g.Idle host line) (fun _ h n => h (n + 1)) h

theorem files_of_runsCommands {lines : List Text} {s' : Session}
    (hlines : ∀ line ∈ lines, g.Idle s.host line) (h : g.RunsCommands lines s s') :
    s'.files = s.files := by
  induction h with
  | nil h => exact h.1
  | @cons line rest s s₁ s₂ hfirst _ ih =>
      obtain ⟨outcome, ⟨hshell, hhost⟩, -⟩ := hfirst
      have hfiles := hlines _ List.mem_cons_self _ _ _ _ _ _ hshell
      refine (ih fun line hline => ?_).trans hfiles
      exact hhost ▸ (hlines line (List.mem_cons_of_mem _ hline)).later s.host.later_next

theorem spares_of_leadElsewhere (hs : s.files.Sound) (hlawful : s.host.Lawful)
    (hmade : g.environment.MadeFrom u g.settings) (hu : u.Sound)
    (hcommands : ∀ line ∈ g.settings.postCommands, g.Idle s.host line)
    (hselected : g.selected s.files onlyModified = .ok templates)
    (h : g.leadElsewhere overrides s.files templates = true) :
    g.Spares onlyModified overrides s := by
  obtain ⟨hfollowed, hall⟩ := apart_of_leadElsewhere hmade hu h
  refine ⟨hs, hlawful, hfollowed, ?_, ?_⟩
  · rintro p ⟨f, s', ⟨before, rest, s₁, hselected', -, -⟩, hp⟩
    obtain rfl := Except.ok.inj (hselected.symm.trans hselected')
    exact hall f (by simp) _ p hp
  · rintro line s' ⟨_, s₁, s₂, before, rest, -, hsame, hrendered, hlines, hran⟩
    have hs₂ : s₂.files.Sound := (wroteTo_of_renders hrendered (hsame.1.symm ▸ hs)).1.sound
    have hlater : s.host.Later s₂.host := hsame.2.2 ▸ later_of_renders hrendered
    have hs' : s'.files = s₂.files := files_of_runsCommands (fun line hline =>
      (hcommands line (hlines ▸ List.mem_append_left _ hline)).later hlater) hran
    have hidle := (hcommands line (hlines ▸ by simp)).later
      (hlater.trans (later_of_runsCommands hran))
    intro outcome t now hshell
    obtain rfl := hidle _ _ _ _ _ _ hshell
    exact ⟨hs'.symm ▸ hs₂.current, rfl⟩

end Generator

namespace Sketch

/-- A project with two templates and a watermark. -/
def pair (first second mark : Text) : FileTree :=
  ⟨.dir [("last".toList, file mark), ("out".toList, .dir []),
    (['t'], .dir [(['a'], file first), (['b'], file second)])], []⟩

theorem sound_pair (first second mark : Text) : (pair first second mark).Sound := by
  refine ⟨Node.Sound.of_names ["last".toList, "out".toList, ['t']] rfl (by decide) (by decide) ?_,
    rfl⟩
  refine List.forall_mem_cons.mpr ⟨.file, List.forall_mem_cons.mpr ⟨.dir .nil (by simp) (by simp),
    List.forall_mem_singleton.mpr ?_⟩⟩
  refine Node.Sound.of_names [['a'], ['b']] rfl (by decide) (by decide) ?_
  exact List.forall_mem_cons.mpr ⟨.file, List.forall_mem_singleton.mpr .file⟩

/-- Whether the templates of a pair are listed as they were at the epoch. -/
def listsPair (t : FileTree) : Bool :=
  match t.place "/t".toList, t.root.get? [['t']] with
  | .ok root, some (.dir [(a, .file _ _ first), (b, .file _ _ second)]) =>
    root = [['t']] && a = ['a'] && first = 0 && b = ['b'] && second = 0
  | _, _ => false

theorem sameTemplates_of_listsPair {settings : Settings} {t u : FileTree}
    (hdir : settings.templateDir = "/t".toList) (h : listsPair t = true)
    (h' : listsPair u = true) : settings.SameTemplates t u := by
  have hlisted : ∀ {t}, listsPair t = true → t.place "/t".toList = .ok [['t']] ∧
      ∃ bytes mode bytes' mode', t.root.get? [['t']] =
        some (.dir [(['a'], .file bytes mode 0), (['b'], .file bytes' mode' 0)]) := by
    intro t h
    unfold listsPair at h
    split at h
    case h_2 => cases h
    case h_1 root a bytes mode first b bytes' mode' second hplace hget =>
      simp only [Bool.and_eq_true, decide_eq_true_eq] at h
      obtain ⟨⟨⟨⟨rfl, rfl⟩, rfl⟩, rfl⟩, rfl⟩ := h
      exact ⟨hplace, _, _, _, _, hget⟩
  obtain ⟨hplace, _, _, _, _, hget⟩ := hlisted h
  obtain ⟨hplace', _, _, _, _, hget'⟩ := hlisted h'
  refine ⟨by rw [hdir, hplace, hplace'], fun root hroot names => ?_⟩
  rw [hdir, hplace] at hroot
  obtain rfl := Except.ok.inj hroot
  rw [Node.item?_append, Node.item?_append, hget, hget']
  -- of what is listed only the bytes and the rights of the two files may differ
  cases names with
  | nil => rfl
  | cons x names =>
      rw [Option.bind_some, Option.bind_some, Node.item?_dir_cons, Node.item?_dir_cons,
        ByName.lookup_cons, ByName.lookup_cons, ByName.lookup_cons, ByName.lookup_cons]
      by_cases ha : x = ['a']
      · rw [if_pos ha, if_pos ha]
        cases names <;> rfl
      · rw [if_neg ha, if_neg ha]
        by_cases hb : x = ['b']
        · rw [if_pos hb, if_pos hb]
          cases names <;> rfl
        · rw [if_neg hb, if_neg hb]

/-- Whether the first run of modified templates ends in a way that passes a check. -/
def ends (settings : Settings) (t : FileTree)
    (check : Generator → EStateM.Result Failure Session RunStats → Bool) : Bool :=
  match Environment.create t settings with
  | .error _ => false
  | .ok env => check ⟨settings, env⟩ (Generator.renderAll ⟨settings, env⟩ true none (start t))

theorem exists_of_ends {settings : Settings} {t : FileTree}
    {check : Generator → EStateM.Result Failure Session RunStats → Bool}
    (h : ends settings t check = true) : ∃ g : Generator, g.settings = settings ∧
      Environment.create t settings = .ok g.environment ∧
      check g (g.renderAll true none (start t)) = true := by
  unfold ends at h
  split at h
  case h_1 => cases h
  case h_2 env henv => exact ⟨⟨settings, env⟩, rfl, henv, h⟩

/-- Whether a run fails, with the templates as they were, and the watermark is found only
when it has ended. -/
def uncovers (t : FileTree) (g : Generator) :
    EStateM.Result Failure Session RunStats → Bool
  | .ok _ _ => false
  | .error _ s' =>
    listsPair s'.files && g.leadElsewhere none s'.files g.environment.templates &&
      (g.watermark.content t).isNone && (g.watermark.content s'.files).isSome &&
      match g.selected t true, g.selected s'.files true with
      | .ok (_ :: _), .ok [] => true
      | _, _ => false

def whole : FileTree :=
  pair (describing "x".toList ['A']) (describing "y".toList ['B']) ['0']

/-- A pair of which the second template is malformed. -/
def torn : FileTree :=
  pair (describing "x".toList ['A']) ['B'] ['0']

def pairSettings : Settings :=
  settings true ["true".toList] "/last".toList

theorem files_of_run_true {t t' : FileTree} {now now' : Instant} {dir : Path}
    {outcome : Shell.Outcome}
    (h : Shell.run t now dir "true".toList = .ok (outcome, t', now')) : t' = t := by
  have hidle : ∀ s : Shell.ShellState,
      Shell.runText Shell.depthLimit ⟨.stream 1, .stream 2⟩ "true".toList s =
        .ok () { s with status := 0 } := fun _ => rfl
  obtain ⟨place, -, h⟩ := except_bind_eq_ok h
  split at h
  case isTrue => cases h
  case isFalse =>
    simp only [EStateM.run, hidle] at h
    cases h
    rfl

theorem idle_of_pairSettings {g : Generator} (hsettings : g.settings = pairSettings)
    (seed : Nat) : ∀ line ∈ g.settings.postCommands, g.Idle (.plain seed) line := by
  rw [hsettings]
  exact List.forall_mem_singleton.mpr fun _ _ _ _ _ _ => files_of_run_true

def renders (g : Generator) : EStateM.Result Failure Session RunStats → Bool
  | .error _ _ => false
  | .ok stats _ => stats.templatesProcessed = 2 &&
    g.watermark.content whole = some (Watermark.toBytes 0) &&
    match g.selected whole true with
    | .error _ => false
    | .ok templates => g.leadElsewhere none whole templates &&
      templates.any fun f => f.name = ['a']

def tears (g : Generator) : EStateM.Result Failure Session RunStats → Bool
  | .ok _ _ => false
  | .error _ s' => listsPair s'.files &&
    match g.selected torn true with
    | .error _ => false
    | .ok templates => g.leadElsewhere none torn templates

theorem exists_whole : ∃ (g : Generator) (stats : RunStats) (s' : Session),
    Environment.create whole g.settings = .ok g.environment ∧
    g.Spares true none (start whole) ∧
    g.watermark.content whole = some (Watermark.toBytes 0) ∧
    (∀ o, g.watermark.Apart whole (g.environment.WritesTo g.settings none o ['a'])) ∧
    g.renderAll true none (start whole) = .ok stats s' ∧ stats.templatesProcessed = 2 := by
  have hends : ends pairSettings whole renders = true := by decide +kernel
  obtain ⟨g, hsettings, hcreate, hcheck⟩ := exists_of_ends hends
  have hcommands := idle_of_pairSettings hsettings 0
  have hmade : g.environment.MadeFrom _ g.settings :=
    .of_create (hsettings ▸ hcreate) (by rw [hsettings]; rfl) (by rw [hsettings]; rfl)
  unfold renders at hcheck
  split at hcheck
  case h_1 => cases hcheck
  case h_2 stats s' hrun =>
    simp only [Bool.and_eq_true, decide_eq_true_eq] at hcheck
    obtain ⟨⟨hstats, hcontent⟩, hselects⟩ := hcheck
    split at hselects
    case h_1 => cases hselects
    case h_2 templates hselected =>
      obtain ⟨helsewhere, hany⟩ := Bool.and_eq_true_iff.mp hselects
      obtain ⟨f, hf, hname⟩ := List.any_eq_true.mp hany
      have hapart := (Generator.apart_of_leadElsewhere hmade (sound_pair _ _ _) helsewhere).2 f hf
      rw [of_decide_eq_true hname] at hapart
      have hspares : g.Spares true none (start whole) :=
        Generator.spares_of_leadElsewhere (sound_pair _ _ _) (Host.lawful_plain 0) hmade
          (sound_pair _ _ _) hcommands hselected helsewhere
      exact ⟨g, stats, s', hsettings ▸ hcreate, hspares, hcontent, hapart, hrun, hstats⟩

theorem exists_torn : ∃ (g : Generator) (e : Failure) (s' : Session),
    Environment.create torn g.settings = .ok g.environment ∧ g.Spares true none (start torn) ∧
    g.renderAll true none (start torn) = .error e s' ∧
    g.settings.SameTemplates torn s'.files := by
  have hends : ends pairSettings torn tears = true := by decide +kernel
  obtain ⟨g, hsettings, hcreate, hcheck⟩ := exists_of_ends hends
  have hcommands := idle_of_pairSettings hsettings 0
  have hmade : g.environment.MadeFrom _ g.settings :=
    .of_create (hsettings ▸ hcreate) (by rw [hsettings]; rfl) (by rw [hsettings]; rfl)
  unfold tears at hcheck
  split at hcheck
  case h_1 => cases hcheck
  case h_2 e s' hrun =>
    obtain ⟨hlists, hselects⟩ := Bool.and_eq_true_iff.mp hcheck
    split at hselects
    case h_1 => cases hselects
    case h_2 templates hselected =>
      have hspares : g.Spares true none (start torn) :=
        Generator.spares_of_leadElsewhere (sound_pair _ _ _) (Host.lawful_plain 0) hmade
          (sound_pair _ _ _) hcommands hselected hselects
      exact ⟨g, e, s', hsettings ▸ hcreate, hspares, hrun,
        sameTemplates_of_listsPair (by rw [hsettings]; rfl) rfl hlists⟩

end Sketch

/-! ## Runs that complete -/

namespace Generator

/-- The watermark moves just when a run completes, and then to the second in which the run
started.  A run that fails or selects nothing leaves it, and so does the rendering of one
template: a failed run that is repeated selects the same again, and what is stored never
becomes less. -/
theorem watermark_moves_on_completed_runs (g : Generator) (overrides : Option Namespace) :
    (∀ onlyModified s, g.Spares onlyModified overrides s →
      g.Ends onlyModified overrides s (g.renderAll onlyModified overrides s) ∧
      ((∃ stats s', g.renderAll onlyModified overrides s = .ok stats s' ∧
        stats.templatesProcessed ≠ 0) ↔ ∃ s', g.Completes onlyModified overrides s s') ∧
      ((∃ s', g.Completes onlyModified overrides s s') →
        g.watermark.content ((g.renderAll onlyModified overrides).after s).files =
          some (Watermark.toBytes (Instant.floorSeconds s.now))) ∧
      ((¬ ∃ s', g.Completes onlyModified overrides s s') →
        g.watermark.content ((g.renderAll onlyModified overrides).after s).files =
          g.watermark.content s.files)) ∧
    (∀ name s, s.files.Sound → g.watermark.Followed s.files →
      g.watermark.Apart s.files (g.environment.WritesTo g.settings overrides s.outlook name) →
      g.watermark.content ((g.render name overrides).after s).files =
        g.watermark.content s.files) ∧
    (∀ s e s', g.Spares true overrides s → g.renderAll true overrides s = .error e s' →
      g.settings.SameTemplates s.files s'.files →
      g.selected s'.files true = g.selected s.files true) ∧
    ∀ s s', g.watermark.Stored s → Relation.ReflTransGen g.watermark.Step s s' →
      g.watermark.Stored s' ∧ ∀ n, g.watermark.content s.files = some (Watermark.toBytes n) →
        ∃ n', n ≤ n' ∧ g.watermark.content s'.files = some (Watermark.toBytes n') := by
  refine ⟨fun onlyModified s hspares => ⟨g.ends_renderAll onlyModified overrides s, completes_iff,
    fun hdone => (hspares.content_renderAll hdone).2,
    fun hnot => (hspares.kept_renderAll hnot).content⟩,
    fun name s hs hfollowed hname => (kept_render hs hfollowed hname).content,
    fun s e s' hspares hrun hsame => ?_, fun s s' hstored hsteps => ?_⟩
  · have hnot : ¬ ∃ s', g.Completes true overrides s s' := by
      intro hcompletes
      obtain ⟨stats, u, hrun', -⟩ := completes_iff.mpr hcompletes
      rw [hrun] at hrun'
      cases hrun'
    have hkept := hspares.kept_renderAll hnot
    rw [after_of_error hrun] at hkept
    exact selected_eq hsame hspares.sound hkept.sound hkept.content true
  · exact ⟨hstored.steps hsteps, fun n => Watermark.exists_of_steps hstored hsteps⟩

/-- A run at ten seconds of a project whose watermark is at zero, and a run of one with a
malformed template. -/
theorem watermark_moves_on_completed_runs_pair :
    (∃ (g : Generator) (stats : RunStats) (s' : Session),
      g.renderAll true none (Sketch.start Sketch.whole) = .ok stats s' ∧
      g.watermark.content Sketch.whole = some (Watermark.toBytes 0) ∧
      g.watermark.content s'.files = some (Watermark.toBytes 10) ∧
      g.watermark.content ((g.render ['a'] none).after (Sketch.start Sketch.whole)).files =
        some (Watermark.toBytes 0) ∧
      ∃ n, 0 ≤ n ∧ g.watermark.content s'.files = some (Watermark.toBytes n)) ∧
    ∃ (g : Generator) (e : Failure) (s' : Session),
      g.renderAll true none (Sketch.start Sketch.torn) = .error e s' ∧
      g.watermark.content s'.files = g.watermark.content Sketch.torn ∧
      g.selected s'.files true = g.selected Sketch.torn true := by
  constructor
  · obtain ⟨g, stats, s', -, hspares, hcontent, hapart, hrun, hstats⟩ := Sketch.exists_whole
    obtain ⟨hruns, hrender, -, hsteps⟩ := watermark_moves_on_completed_runs g none
    obtain ⟨-, hcompletes, hmoved, -⟩ := hruns true _ hspares
    have hmoved := hmoved (hcompletes.mp ⟨stats, s', hrun, by rw [hstats]; decide⟩)
    have hkept := hrender ['a'] _ hspares.sound hspares.followed (hapart _)
    have hstored : g.watermark.Stored (Sketch.start Sketch.whole) := fun bytes hbytes =>
      ⟨0, Nat.zero_le _, Option.some.inj (hbytes.symm.trans hcontent)⟩
    have hstep := Relation.ReflTransGen.single (Watermark.Step.run rfl hspares)
    have hlater := (hsteps _ _ hstored hstep).2 0 hcontent
    rw [after_of_ok hrun] at hmoved hlater
    exact ⟨g, stats, s', hrun, hcontent, hmoved, hkept.trans hcontent, hlater⟩
  · obtain ⟨g, e, s', -, hspares, hrun, hsame⟩ := Sketch.exists_torn
    obtain ⟨hruns, -, hagain, -⟩ := watermark_moves_on_completed_runs g none
    obtain ⟨-, hcompletes, -, hkept⟩ := hruns true _ hspares
    have hkept := hkept fun hcompleted => by
      obtain ⟨stats, u, hrun', -⟩ := hcompletes.mpr hcompleted
      rw [hrun] at hrun'
      cases hrun'
    rw [after_of_error hrun, Sketch.start_files] at hkept
    have hagain := hagain _ e s' hspares hrun
    rw [Sketch.start_files] at hagain
    exact ⟨g, e, s', hrun, hkept, hagain hsame⟩

/-- A watermark behind a missing directory is not seen by the first run.  That run makes
the directory and then fails; the next one finds the watermark, and selects nothing. -/
theorem failed_run_uncovers_watermark : ∃ (g : Generator) (e : Failure) (s s' : Session),
    s.files.Sound ∧ Environment.create s.files g.settings = .ok g.environment ∧
    g.settings.postCommands = [] ∧
    (∀ f ∈ g.environment.templates, ∀ o,
      g.watermark.Apart s.files (g.environment.WritesTo g.settings none o f.name)) ∧
    g.renderAll true none s = .error e s' ∧ g.settings.SameTemplates s.files s'.files ∧
    g.watermark.content s.files = none ∧ g.watermark.content s'.files ≠ none ∧
    g.selected s'.files true ≠ g.selected s.files true := by
  -- the first template makes the directory, and the second one is malformed
  let t := Sketch.pair (Sketch.describing "sub/x".toList ['A']) ['B'] "99999999999".toList
  have ht : t.Sound := Sketch.sound_pair _ _ _
  have hends : Sketch.ends (Sketch.settings true [] "/out/sub/../../last".toList) t
      (Sketch.uncovers t) = true := by decide +kernel
  obtain ⟨g, hsettings, hcreate, hcheck⟩ := Sketch.exists_of_ends hends
  unfold Sketch.uncovers at hcheck
  split at hcheck
  case h_1 => cases hcheck
  case h_2 e s' hrun =>
    simp only [Bool.and_eq_true] at hcheck
    obtain ⟨⟨⟨⟨hlists, helsewhere⟩, hbefore⟩, hafter⟩, hselected⟩ := hcheck
    have hcommands : g.settings.postCommands = [] := by rw [hsettings]; rfl
    have hmade : g.environment.MadeFrom t g.settings :=
      .of_create (hsettings ▸ hcreate) (by rw [hsettings]; rfl) (by rw [hsettings]; rfl)
    have hpass : g.settings.CommandsPass (Sketch.start t).host := by
      intro n line hline
      rw [hcommands] at hline
      cases hline
    have hpassed := (passedOn_renderAll true none (Sketch.start t) hpass).2 ht
    rw [after_of_error hrun] at hpassed
    refine ⟨g, e, Sketch.start t, s', ht, hsettings ▸ hcreate, hcommands, fun f hf o => ?_, hrun,
      Sketch.sameTemplates_of_listsPair (by rw [hsettings]; rfl) rfl hlists,
      Option.isNone_iff_eq_none.mp hbefore, Option.isSome_iff_ne_none.mp hafter, fun heq => ?_⟩
    · have hapart := (apart_of_leadElsewhere hmade ht helsewhere).2 f hf o
      exact (Watermark.apart_iff_of_keeps hpassed.keeps hpassed.current_eq).mp hapart
    · have hstart : g.selected (Sketch.start t).files true = g.selected t true := rfl
      rw [heq, hstart] at hselected
      split at hselected
      case h_1 hsome hnone => cases hsome.symm.trans hnone
      case h_2 => cases hselected

end Generator

end TemplateTree
