import TemplateTree.Proofs.Build.Incremental
import TemplateTree.Proofs.Settings.Sketch

/-!
# Full runs and others

A run that renders what was modified comes to the same as a full run, as long as every
template depends on its own text and on stencils that are loaded at every run.
-/

namespace TemplateTree

namespace Project

open FileTree Session Job

variable {p : Project} {s : Session} {t u : FileTree} {g : Generator} {stats : RunStats}
  {templates : List TemplateFile}

/-- What a full run renders comes to the same, as what it renders besides is on disk. -/
theorem Consistent.exists_rendered (h : p.Consistent s) (hruns : p.Runs g s)
    {now : Instant} (later : Instant) (hselected : g.selected s.files true = .ok templates)
    (hrendered : templates.foldlM (g.rendered? p.values p.answers now) s.files = some t) :
    ∃ u, g.environment.templates.foldlM (g.rendered? p.values p.answers later) s.files = some u ∧
      Settings.Twins t u := by
  have hcandidates := hselected
  rw [Generator.selected, hruns.settings] at hcandidates
  have hfilter := Settings.candidates_eq_filter h.sound hruns.made.templates hcandidates
  have houtput : g.settings.OutputAt p.out s.files := hruns.settings ▸ hruns.output
  rw [hfilter] at hrendered
  refine Generator.exists_rendered_all hruns.orderly.apart (fun f hf => hf)
    ⟨h.sound, h.sound, .refl _ _⟩ houtput houtput (fun f hf hnot => ?_) hrendered
  obtain ⟨edited, hedited, -⟩ := Settings.exists_editedAt h.sound hruns.made.templates hf
  obtain ⟨t₀, env, sections, hsettled⟩ :=
    h.settled_of_not_mem hruns hselected hedited (by simpa using hnot)
  exact ⟨sections, hsettled.sections?_eq hruns h.sound hf, hruns.settings ▸ hsettled.onDisk⟩

/-- Where nothing was modified there is a watermark, which can be written over. -/
theorem Consistent.exists_mark_again (h : p.Consistent s) (hruns : p.Runs g s)
    (hselected : g.selected s.files true = .ok []) (hu : u.Sound) (halike : Alike s.files u)
    (now : Instant) (bytes : Bytes) :
    ∃ u', u.write now p.settings.lastRunFile bytes = .ok u' ∧
      AlikeOff (· = p.mark) s.files u' := by
  obtain ⟨f, hf⟩ := List.exists_mem_of_ne_nil _ hruns.made.templates_ne_nil
  obtain ⟨edited, hedited, -⟩ := Settings.exists_editedAt h.sound hruns.made.templates hf
  obtain ⟨seconds, hread, -⟩ := hruns.exists_read h.sound hselected hedited (by simp)
  obtain ⟨-, hform, hspot, old, time, mode, hfile⟩ := h.upToDate_of_read hruns.settings hread
  obtain ⟨old', mode', time', hfile'⟩ := halike.shape.exists_file ⟨_, _, _, hfile⟩
  have hspot' := halike.shape.spot_eq.trans hspot
  obtain ⟨u', hwrite⟩ : ∃ u', u.write now p.settings.lastRunFile bytes = .ok u' :=
    exists_write hform hspot' fun q hq => Spot.found.inj hq ▸ ⟨old', mode', time', hfile'⟩
  exact ⟨u', hwrite, (halike.mono fun _ => False.elim).trans
    (alikeOff_of_write hu hspot' ⟨time', mode', hfile'⟩ hwrite)⟩

theorem Runs.selected_all (h : p.Runs g s) :
    g.selected s.files false = .ok g.environment.templates := by
  rw [Generator.selected, h.settings]
  exact h.made.templates

/-- Where a run of what was modified succeeds, a full run does, and all contents are the
same but that of the watermark. -/
theorem Consistent.exists_full (h : p.Consistent s) (hruns : p.Runs g s) {now : Instant}
    (hran : g.ran? true p.values p.answers now s.files = some t) :
    ∃ u, g.ran? false p.values p.answers now s.files = some u ∧ AlikeOff (· = p.mark) t u := by
  obtain ⟨templates, hselected, hran⟩ := Option.bind_eq_some_iff.mp hran
  have hselected := toOption_eq_some_iff.mp hselected
  obtain ⟨t₁, hrendered, hmarked⟩ := Option.bind_eq_some_iff.mp hran
  obtain ⟨u₁, hall, ht₁, hu₁, halike⟩ := h.exists_rendered hruns now hselected hrendered
  have hne : g.environment.templates.isEmpty = false := by
    simpa using hruns.made.templates_ne_nil
  have hfull := hruns.selected_all
  obtain ⟨u, hwrite, hsame⟩ : ∃ u, u₁.write now p.settings.lastRunFile
      (Watermark.toBytes (Instant.floorSeconds now)) = .ok u ∧ AlikeOff (· = p.mark) t u := by
    split at hmarked
    case isTrue hnone =>
      obtain rfl := List.isEmpty_iff.mp hnone
      cases hrendered
      obtain rfl := Option.some.inj hmarked
      exact h.exists_mark_again hruns hselected hu₁ halike now _
    case isFalse =>
      have hmarked := toOption_eq_some_iff.mp hmarked
      rw [Generator.watermark, hruns.settings] at hmarked
      obtain ⟨u, hwrite, hsame⟩ := halike.write ht₁ hu₁ now hmarked
      exact ⟨u, hwrite, hsame.mono fun _ => False.elim⟩
  refine ⟨u, ?_, hsame⟩
  rw [Generator.ran?, hfull, Except.toOption, Option.bind_some, hall, Option.bind_some, hne,
    Generator.watermark, hruns.settings, hwrite]
  rfl

/-- No template refers to another one by itself, and different templates describe different
files whenever they are rendered. -/
structure Separate (p : Project) (g : Generator) (s : Session) : Prop where
  unrelated : ∀ f ∈ g.environment.templates, ∀ u,
    g.environment.library.find? f.name = some u → ∀ n ∈ u.names,
      ∀ f' ∈ g.environment.templates, f'.name = n → n = f.name
  apart : ∀ answers, (∀ name, ∃ n, answers name = (s.host.moment n).answer s.now) →
    g.Apart p.values answers p.out

/-- In a session that a history leads to, both kinds of runs go well, but leave different
contents below the output directory. -/
def Disagrees (p : Project) (kind : Generator → Session → Prop) : Prop :=
  ∃ s stats s' stats' s'' names bytes, p.Reachable kind s ∧ p.Finds kind s ∧
    renderProject p.document true p.overrides s = .ok stats s' ∧
    renderProject p.document false p.overrides s = .ok stats' s'' ∧
    s''.files.HasBytes (p.out ++ names) bytes ∧ ¬ s'.files.HasBytes (p.out ++ names) bytes

end Project

/-! ## Projects that are rendered twice -/

/-- A project with two templates and a stencil, by what varies: extensions, texts, a template
that is written between the runs, and what the machine says in both of them. -/
structure Sample where
  extensions : List Text
  first : Text
  second : Text
  stencil : Text
  name : Text
  text : Text
  before : Template.Outlook := .none
  after : Template.Outlook := .none

namespace Sample

open Sketch (saying)

def settings (c : Sample) : Settings :=
  { rootDir := ['/']
    templateDir := "/t".toList
    outputDir := "/out".toList
    includedSuffixes := [['*']]
    includedPatterns := [⟨['*'], [.anySequence]⟩]
    stencilDirName := ['s']
    createDirectories := false
    globalNamespace := []
    engineOptions := ⟨false, false, false⟩
    engineExtensions := c.extensions
    customModules := []
    lastRunFile := "/last".toList
    markers := .standard
    newline := .lf
    postCommands := [] }

def document (c : Sample) : Text :=
  "\x7b\"root_dir\": \".\", \"template_dir\": \"t\", \"output_dir\": \"out\", ".toList ++
    "\"included_suffixes\": [\"*\"], \"stencil_dir_name\": \"s\", \"newline\": \"lf\", ".toList ++
    "\"last_run_file\": \"last\", \"engine_extensions\": [".toList ++
    Text.joinWith ", ".toList (c.extensions.map fun e => ['"'] ++ e ++ ['"']) ++ "]\x7d".toList

def project (c : Sample) : Project where
  document := "/d".toList
  overrides := none
  settings := c.settings
  globals := []
  answers := fun _ => c.before
  templates := [['t']]
  out := ["out".toList]
  mark := ["last".toList]
  commands := rfl
  apart := by decide
  markApart := by decide

def file (text : Text) : Node :=
  .file (Text.toBytes text) FileTree.defaultMode 0

def files (c : Sample) : FileTree :=
  ⟨.dir [(['d'], file c.document),
    (['t'], .dir [(['a'], file c.first), (['b'], file c.second),
      (['s'], .dir [(['x'], file c.stencil)])])], []⟩

def start (c : Sample) : Session where
  files := c.files
  now := 10 * Instant.second
  console := .empty
  reporter := .new ⟨false⟩ .veryLow 0
  host := saying c.before

def run (c : Sample) (onlyModified : Bool) : Job RunStats :=
  renderProject c.project.document onlyModified c.project.overrides

def rendered (c : Sample) : Session :=
  (c.run true).after c.start

def later (c : Sample) : Session :=
  { c.rendered with now := 20 * Instant.second, host := saying c.after }

def edited (c : Sample) : Session :=
  { c.later with
    files := c.later.files.putAt (c.project.templates ++ [c.name])
      (.file (Text.toBytes c.text) FileTree.defaultMode c.later.now) }

def isOwn (c : Sample) (s : Settings) : Bool :=
  (s.rootDir = c.settings.rootDir && s.templateDir = c.settings.templateDir &&
    s.outputDir = c.settings.outputDir && s.includedSuffixes = c.settings.includedSuffixes &&
    s.includedPatterns = c.settings.includedPatterns) &&
  (s.stencilDirName = c.settings.stencilDirName && s.globalNamespace.isEmpty &&
    s.createDirectories = c.settings.createDirectories &&
    s.engineOptions = c.settings.engineOptions &&
    s.engineExtensions = c.settings.engineExtensions) &&
  (s.customModules = c.settings.customModules && s.lastRunFile = c.settings.lastRunFile &&
    s.markers = c.settings.markers && s.newline = c.settings.newline &&
    s.postCommands = c.settings.postCommands)

/-- Whether a run that starts in a session finds the settings, and makes a generator that
passes a check. -/
def finds (c : Sample) (check : Generator → Bool) (s : Session) : Bool :=
  match Settings.load c.project.document s with
  | .error _ _ => true
  | .ok settings s₁ =>
    c.isOwn settings &&
      match Generator.new settings s₁ with
      | .error _ _ => true
      | .ok g _ => check g

/-- Whether the template can be written after the first run, and both runs find what
passes a check. -/
def passes (c : Sample) (check : Template.Outlook → Generator → Bool) : Bool :=
  c.finds (check c.before) c.start && c.finds (check c.after) c.edited &&
    decide (c.rendered.now ≤ c.later.now) &&
    decide (c.later.files.root.item? c.project.templates = some .dir) &&
    decide (c.name.IsName) && !(c.project.settings.templateAt [c.name]).isStencil &&
    match c.later.files.root.item? (c.project.templates ++ [c.name]) with
    | none | some (.file _ _ _) => true
    | _ => false

theorem sound_files (c : Sample) : c.files.Sound := by
  refine ⟨Node.Sound.of_names [['d'], ['t']] rfl (by decide) (by decide) ?_, rfl⟩
  refine List.forall_mem_cons.mpr ⟨.file, List.forall_mem_cons.mpr ⟨?_, by simp⟩⟩
  refine Node.Sound.of_names [['a'], ['b'], ['s']] rfl (by decide) (by decide) ?_
  refine List.forall_mem_cons.mpr ⟨.file, List.forall_mem_cons.mpr ⟨.file,
    List.forall_mem_cons.mpr ⟨?_, by simp⟩⟩⟩
  refine Node.Sound.of_names [['x']] rfl (by decide) (by decide) ?_
  exact List.forall_mem_cons.mpr ⟨.file, by simp⟩

theorem starts (c : Sample) : c.project.Starts c.start.files := by
  refine ⟨c.sound_files, ?_, ?_, ?_, ?_, ?_⟩
  · rintro bytes ⟨time, mode, hfile⟩
    cases hfile
  · intro q target hlink
    cases hlink
  · exact .of_spot (show _ = Except.ok (.found [['t']]) from rfl)
  · exact .of_spot (show _ = Except.ok (.free ["out".toList]) from rfl)
  · exact .of_spot (show _ = Except.ok (.free ["last".toList]) from rfl)

variable {c : Sample} {check : Template.Outlook → Generator → Bool}
  {kind : Generator → Session → Prop} {o : Template.Outlook} {s : Session} {g : Generator}

theorem eq_of_isOwn {settings : Settings} (h : c.isOwn settings = true) :
    settings = c.settings := by
  simp only [isOwn, Bool.and_eq_true, decide_eq_true_eq, List.isEmpty_iff] at h
  cases settings
  simp_all [Sample.settings]

theorem finds_of_finds (hkind : ∀ g s, s.host = saying o → check o g = true → kind g s)
    (hs : s.host = saying o) (h : c.finds (check o) s = true) : c.project.Finds kind s := by
  intro settings s₁ hload
  unfold finds at h
  rw [hload] at h
  obtain ⟨hown, hcheck⟩ := Bool.and_eq_true_iff.mp h
  refine ⟨eq_of_isOwn hown, fun g s₂ hnew => hkind g s hs ?_⟩
  rwa [hnew] at hcheck

theorem edit (hdir : c.later.files.root.item? c.project.templates = some .dir)
    (hname : c.name.IsName) (hkind : (c.project.settings.templateAt [c.name]).isStencil = false)
    (hold : ∀ i, c.later.files.root.item? (c.project.templates ++ [c.name]) = some i →
      ∃ bytes mode time, i = .file bytes mode time) :
    c.project.Edit c.later.now c.later.files c.edited.files := by
  have hopen : c.later.files.Open (c.project.templates ++ [c.name]) := by
    refine ⟨⟨by simp, ?_⟩, by simpa using hname⟩
    simpa only [List.dropLast_concat] using hdir
  exact .write (by simp) hkind hopen hold

theorem reachable_of_passes
    (hbefore : ∀ g s, s.host = saying c.before → check c.before g = true → kind g s)
    (hafter : ∀ g s, s.host = saying c.after → check c.after g = true → kind g s)
    (h : c.passes check = true) : c.project.Reachable kind c.edited ∧
      c.project.Finds kind c.edited := by
  simp only [passes, Bool.and_eq_true, decide_eq_true_eq, Bool.not_eq_true'] at h
  obtain ⟨⟨⟨⟨⟨⟨hstart, hedited⟩, hnow⟩, hdir⟩, hname⟩, hstencil⟩, hold⟩ := h
  have hrun : c.project.Step kind c.start c.rendered :=
    .run (finds_of_finds hbefore rfl hstart) true
  have hwait : c.project.Step kind c.rendered c.later :=
    .wait (by simp only [later]) hnow
  have hwrite : c.project.Step kind c.later c.edited := by
    refine .edit (edit hdir hname hstencil fun i hi => ?_)
    rw [hi] at hold
    cases i with
    | file bytes mode time => exact ⟨bytes, mode, time, rfl⟩
    | link => cases hold
    | dir => cases hold
  exact ⟨⟨c.start, c.starts, ((Relation.ReflTransGen.single hrun).tail hwait).tail hwrite⟩,
    finds_of_finds hafter rfl hedited⟩

theorem answer_eq (hs : s.host = saying o) (n : Nat) : (s.host.moment n).answer s.now = o := by
  rw [hs]
  rfl

/-- Whether a generator without debugging is orderly, on a machine that says what it did. -/
def isOrderly (c : Sample) (g : Generator) : Bool :=
  (c.project.settings.engineExtensions.all fun e => e ≠ "debug".toList) &&
    g.environment.isIndependent && g.isApart c.project.values c.project.answers c.project.out

theorem orderly_of_isOrderly (hs : s.host = saying c.before) (h : c.isOrderly g = true) :
    c.project.Orderly g s := by
  simp only [isOrderly, Bool.and_eq_true, List.all_eq_true, decide_eq_true_eq] at h
  obtain ⟨⟨hother, hindependent⟩, hapart⟩ := h
  have hdebug : "debug".toList ∉ c.project.settings.engineExtensions :=
    fun hmem => hother _ hmem rfl
  refine ⟨⟨Environment.independent_of_isIndependent hindependent, fun hmem => absurd hmem hdebug⟩,
    Generator.apart_of_isApart hapart, fun f _ n k q _ => ?_⟩
  rw [answer_eq hs]
  rfl

/-- Whether no template refers to another one by itself, and all describe different files when
they are told something. -/
def isSeparate (c : Sample) (o : Template.Outlook) (g : Generator) : Bool :=
  (g.environment.templates.all fun f => (g.environment.referred f.name).all fun n =>
    n = f.name || !g.environment.isTemplate n) &&
  g.isApart c.project.values (fun _ => o) c.project.out

theorem separate_of_isSeparate (hs : s.host = saying o) (h : c.isSeparate o g = true) :
    c.project.Separate g s := by
  obtain ⟨hall, hapart⟩ := Bool.and_eq_true_iff.mp h
  refine ⟨fun f hf u hu n hn f' hf' hname => ?_, fun answers hanswers => ?_⟩
  · have hmem : n ∈ g.environment.referred f.name := by
      simp [Environment.referred, hu, hn]
    have hcheck := List.all_eq_true.mp (List.all_eq_true.mp hall f hf) n hmem
    have hyes : g.environment.isTemplate n = true :=
      List.any_eq_true.mpr ⟨f', hf', by simp [hname]⟩
    simpa [hyes] using hcheck
  · obtain rfl : answers = fun _ => o := by
      funext name
      obtain ⟨n, hn⟩ := hanswers name
      rw [hn, answer_eq hs]
    exact Generator.apart_of_isApart hapart

/-- Whether both kinds of runs go well after the edit, and leave different texts. -/
def differs (c : Sample) : Bool :=
  match c.run true c.edited, c.run false c.edited with
  | .ok _ s, .ok _ s' =>
    match s.files.root.item? (c.project.out ++ [['a']]),
      s'.files.root.item? (c.project.out ++ [['a']]) with
    | some (.file bytes _ _), some (.file bytes' _ _) => bytes ≠ bytes'
    | _, _ => false
  | _, _ => false

theorem disagrees (hpasses : c.passes c.isSeparate = true) (hdiffers : c.differs = true) :
    c.project.Disagrees c.project.Separate := by
  obtain ⟨hreachable, hfinds⟩ := reachable_of_passes (fun _ _ => separate_of_isSeparate)
    (fun _ _ => separate_of_isSeparate) hpasses
  unfold differs at hdiffers
  split at hdiffers
  case h_2 => cases hdiffers
  case h_1 stats s stats' s' hrun hrun' =>
    split at hdiffers
    case h_2 => cases hdiffers
    case h_1 bytes mode time bytes' mode' time' hfile hfile' =>
      refine ⟨c.edited, stats, s, stats', s', [['a']], bytes', hreachable, hfinds, hrun, hrun',
        ⟨time', mode', hfile'⟩, fun hbytes => ?_⟩
      exact of_decide_eq_true hdiffers (FileTree.HasBytes.inj ⟨time, mode, hfile⟩ hbytes)

/-- A template that describes one file. -/
def template (name : Char) (body : Text) : Text :=
  "### New file: ".toList ++ [name] ++ "\n### Content:\n".toList ++ body

/-- The first template includes the stencil, which shows a variable of the process, and the
second one is edited. -/
def plain : Sample where
  extensions := []
  first := template 'a' "A \x7b% include \"s/x\" %\x7d".toList
  second := template 'b' ['B']
  stencil := "\x7b\x7b get_env(name=\"X\") \x7d\x7d".toList
  name := ['b']
  text := template 'b' ['C']
  before := fun _ _ => .ok (.string ['E'])
  after := fun _ _ => .ok (.string ['E'])

/-- The first template shows the names of all templates. -/
def listing : Sample where
  extensions := ["debug".toList]
  first := template 'a' "\x7b\x7b debug_context.templates \x7d\x7d".toList
  second := template 'b' ['B']
  stencil := ['X']
  name := ['c']
  text := template 'c' ['C']

/-- The first template includes the stencil in a way that is overlooked when stencils are
selected, and a new template includes it plainly. -/
def hidden : Sample where
  extensions := []
  first := template 'a' ("\x7b\x7b \"\x7b% include\" \x7d\x7d".toList ++
    "\x7b% include \"s/x\" ignore missing %\x7d".toList)
  second := template 'b' ['B']
  stencil := ['X']
  name := ['c']
  text := template 'c' "\x7b% include \"s/x\" %\x7d".toList

/-- The first template includes the second one by way of the stencil. -/
def detour : Sample where
  extensions := []
  first := template 'a' "\x7b% include \"s/x\" %\x7d".toList
  second := "\x7b% if part is defined %\x7dB\x7b% endif %\x7d".toList
  stencil := "\x7b% set part = 1 %\x7d\x7b% include \"b\" %\x7d".toList
  name := ['b']
  text := "\x7b% if part is defined %\x7dC\x7b% endif %\x7d".toList

/-- The first template shows a number that is drawn anew each time. -/
def drawing : Sample where
  extensions := []
  first := template 'a' "\x7b\x7b get_random(end=9) \x7d\x7d".toList
  second := template 'b' ['B']
  stencil := ['X']
  name := ['b']
  text := template 'b' ['C']
  before := fun _ _ => .ok (.ofNat 1)
  after := fun _ _ => .ok (.ofNat 2)

/-- How many templates the run of what was modified renders after the edit. -/
def processed (c : Sample) : Nat :=
  match c.run true c.edited with
  | .ok stats _ => stats.templatesProcessed
  | .error _ _ => 0

theorem exists_again : plain.passes (fun _ => plain.isOrderly) = true ∧ ∃ stats s,
    plain.run true plain.edited = .ok stats s ∧ stats.templatesProcessed = 1 := by
  refine ⟨by decide +kernel, ?_⟩
  have hcount : plain.processed = 1 := by decide +kernel
  unfold processed at hcount
  split at hcount
  case h_1 stats s hrun => exact ⟨stats, s, hrun, hcount⟩
  case h_2 => cases hcount

end Sample

/-! ## Both kinds of runs -/

namespace Project

open Job

variable {p : Project} {s : Session} {stats : RunStats}

/-- Incremental runs agree with full ones: in any session that a history leads to, if a
run of what was modified succeeds, then so does a full run in its place, and it leaves
the same files with the same contents below the output directory. -/
theorem incremental_agrees_with_full {s' : Session} (p : Project) (hs : p.Reachable p.Orderly s)
    (hfinds : p.Finds p.Orderly s)
    (hrun : renderProject p.document true p.overrides s = .ok stats s') :
    ∃ stats' s'', renderProject p.document false p.overrides s = .ok stats' s'' ∧
      ∀ names bytes, s''.files.HasBytes (p.out ++ names) bytes ↔
        s'.files.HasBytes (p.out ++ names) bytes := by
  obtain ⟨settings, s₁, hload, hrest⟩ := bind_eq_ok hrun
  obtain ⟨g, s₂, hnew, hlast⟩ := bind_eq_ok hrest
  obtain ⟨rfl, h₂, hruns⟩ := hs.consistent.runs hfinds hload hnew
  have hcommands : g.settings.postCommands = [] := hruns.settings ▸ p.commands
  obtain ⟨templates, hselected, -, -⟩ := Generator.renderAll_eq_ok hlast
  have hdescribe := hruns.describe h₂.sound (hruns.mem_of_selected h₂.sound hselected)
  have hran := Generator.ran?_of_renderAll hcommands hselected hdescribe hlast
  obtain ⟨u, hfull, hsame⟩ := h₂.exists_full hruns hran
  obtain ⟨stats', s'', hrun', rfl⟩ := Generator.exists_renderAll_of_ran? hcommands
    hruns.selected_all (hruns.describe h₂.sound fun _ hf => hf) hfull
  refine ⟨stats', s'', ?_, fun names bytes => hsame.content _ (p.below_out_ne_mark names) bytes⟩
  rw [renderProject, bind_of_ok hload, bind_of_ok hnew]
  exact hrun'

/-- Of two templates the edited one is rendered again. -/
theorem incremental_agrees_with_full_plain : ∃ stats s' stats' s'',
    Sample.plain.run true Sample.plain.edited = .ok stats s' ∧ stats.templatesProcessed = 1 ∧
    Sample.plain.run false Sample.plain.edited = .ok stats' s'' ∧
    ∀ names bytes, s''.files.HasBytes (Sample.plain.project.out ++ names) bytes ↔
      s'.files.HasBytes (Sample.plain.project.out ++ names) bytes := by
  obtain ⟨hpasses, stats, s', hrun, hcount⟩ := Sample.exists_again
  obtain ⟨hreachable, hfinds⟩ := Sample.reachable_of_passes
    (fun _ _ => Sample.orderly_of_isOrderly)
    (fun _ _ => Sample.orderly_of_isOrderly (c := Sample.plain)) hpasses
  obtain ⟨stats', s'', hrun', hsame⟩ :=
    incremental_agrees_with_full Sample.plain.project hreachable hfinds hrun
  exact ⟨stats, s', stats', s'', hrun, hcount, hrun', hsame⟩

/-- It is not enough that no template refers to another one by itself: templates may show
what extensions say about the run, stencils that a template includes may or may not be
loaded, and they may include other templates; and the machine may say something else to a
template than it did. -/
theorem incremental_differs_from_full :
    Sample.listing.project.Disagrees Sample.listing.project.Separate ∧
    Sample.hidden.project.Disagrees Sample.hidden.project.Separate ∧
    Sample.detour.project.Disagrees Sample.detour.project.Separate ∧
    Sample.drawing.project.Disagrees Sample.drawing.project.Separate :=
  ⟨Sample.disagrees (by decide +kernel) (by decide +kernel),
    Sample.disagrees (by decide +kernel) (by decide +kernel),
    Sample.disagrees (by decide +kernel) (by decide +kernel),
    Sample.disagrees (by decide +kernel) (by decide +kernel)⟩

end Project

end TemplateTree
