import TemplateTree.Proofs.Build.Runs

/-!
# Which edits the next run takes up

Files are edited, generators are made and generators run, in any order.  A generator
holds the texts of the time at which it was made, and its runs render these.  The
watermark that a run leaves is the second in which the run started, which may be long
after the generator was made.  An edit in between is overlooked if it is of an earlier
second.
-/

namespace TemplateTree

/-- A session, and the generators made so far with the times at which they were made. -/
structure World where
  session : Session
  made : List (Generator × Instant)

namespace World

/-- A world in which a generator was made, if it can be. -/
def make (w : World) (settings : Settings) : World :=
  match Generator.new settings w.session with
  | .ok g s => ⟨s, (g, w.session.now) :: w.made⟩
  | .error _ s => ⟨s, w.made⟩

/-- What can happen: time goes on, something is edited, a generator is made, or one of
those made runs, well or not. -/
inductive Step : World → World → Prop
  | wait {w : World} {later : Instant} (h : w.session.now ≤ later) :
      Step w { w with session := { w.session with now := later } }
  | edit {w : World} {files : FileTree} (h : FileTree.Touch w.session.now w.session.files files) :
      Step w { w with session := { w.session with files := files } }
  | make {w : World} (settings : Settings) : Step w (w.make settings)
  | run {w : World} {g : Generator} {time : Instant} (hg : (g, time) ∈ w.made)
      (h : g.settings.CommandsPass w.session.host) (onlyModified : Bool)
      (overrides : Option Namespace) :
      Step w ⟨(g.renderAll onlyModified overrides).after w.session, w.made⟩

/-- A world that comes of one without generators. -/
def Reachable (w : World) : Prop :=
  ∃ s : Session, s.files.Sound ∧ Relation.ReflTransGen Step ⟨s, []⟩ w

end World

namespace Generator

/-- Whether a template has another text than the one that a generator holds. -/
def Differs (g : Generator) (files : FileTree) (f : TemplateFile) : Prop :=
  ¬ ∃ source, g.environment.sources.lookup f.name = some source ∧
    files.readText f.path = .ok source.text

end Generator

/-! ## The generators of a world -/

/-- Files are well formed, and those from which a generator was made became the present
ones since then. -/
structure World.Consistent (w : World) : Prop where
  sound : w.session.files.Sound
  made : ∀ g time, (g, time) ∈ w.made → ∃ t : FileTree, t.Sound ∧
    g.environment.MadeFrom t g.settings ∧ FileTree.Passes (t, time) (w.session.files, w.session.now)

namespace World

variable {w w' : World} {s : Session}

theorem Consistent.of_passed (h : w.Consistent) (hpass : Session.Passed w.session s) :
    Consistent ⟨s, w.made⟩ := by
  have hpasses := hpass.2 h.sound
  refine ⟨hpasses.sound h.sound, fun g time hg => ?_⟩
  obtain ⟨t, ht, hmade, hsince⟩ := h.made g time hg
  exact ⟨t, ht, hmade, hsince.trans hpasses⟩

theorem unchanged_make (w : World) (settings : Settings) :
    Session.Unchanged w.session (w.make settings).session := by
  have hunchanged := Generator.unchanged_new settings w.session
  unfold make
  split
  case h_1 hnew => rwa [Job.after_of_ok hnew] at hunchanged
  case h_2 hnew => rwa [Job.after_of_error hnew] at hunchanged

theorem Consistent.make (h : w.Consistent) (settings : Settings) :
    (w.make settings).Consistent := by
  have hpassed := (unchanged_make w settings).touched.passed.2 h.sound
  refine ⟨hpassed.sound h.sound, fun g time hg => ?_⟩
  have hold : ∀ g time, (g, time) ∈ w.made → ∃ t : FileTree, t.Sound ∧
      g.environment.MadeFrom t g.settings ∧ FileTree.Passes (t, time)
        ((w.make settings).session.files, (w.make settings).session.now) := fun g time hg => by
    obtain ⟨t, ht, hmade, hsince⟩ := h.made g time hg
    exact ⟨t, ht, hmade, hsince.trans hpassed⟩
  unfold World.make at hg
  split at hg
  case h_2 => exact hold g time hg
  case h_1 g' s hnew =>
    obtain heq | hg := List.mem_cons.mp hg
    · obtain ⟨rfl, rfl⟩ := Prod.mk.inj heq
      obtain ⟨rfl, hmade⟩ := Generator.new_eq_ok hnew
      exact ⟨w.session.files, h.sound, hmade, hpassed⟩
    · exact hold g time hg

theorem Consistent.step (h : w.Consistent) (hstep : Step w w') : w'.Consistent := by
  cases hstep with
  | wait hlater => exact h.of_passed ⟨.refl, fun _ => .single (.wait hlater)⟩
  | edit htouch => exact h.of_passed ⟨.refl, fun _ => .single (.touch htouch)⟩
  | run _ hcommands onlyModified overrides =>
      exact h.of_passed (Generator.passedOn_renderAll onlyModified overrides _ hcommands)
  | make settings => exact h.make settings

theorem Reachable.consistent (h : w.Reachable) : w.Consistent := by
  obtain ⟨s, hs, hsteps⟩ := h
  induction hsteps with
  | refl => exact ⟨hs, by simp⟩
  | tail _ hstep ih => exact ih.step hstep

end World

/-! ## Templates that a generator does not know as they are -/

namespace Generator

variable {g : Generator} {t t' : FileTree} {f : TemplateFile}
  {made now edited : Instant}

/-- The template directory stays where it was when an environment was made. -/
theorem place_of_passes {env : Environment} {settings : Settings} (hmade : env.MadeFrom t settings)
    (ht : t.Sound) (hpass : FileTree.Passes (t, made) (t', now)) : ∃ root,
      t.place settings.templateDir = .ok root ∧ t'.place settings.templateDir = .ok root := by
  obtain ⟨root, hplace⟩ := Settings.place_of_candidates hmade.templates
  have hdir := hmade.dir_of_place ht hplace
  exact ⟨root, hplace, ht.place_of_keeps hplace hdir hpass.keeps hpass.current_eq⟩

/-- A template that differs from what a generator holds is not older than the generator. -/
theorem le_of_differs (hmade : g.environment.MadeFrom t g.settings) (ht : t.Sound)
    (hpass : FileTree.Passes (t, made) (t', now))
    (hedited : g.settings.EditedAt t' f edited) (hdiffers : g.Differs t' f) : made ≤ edited := by
  by_contra hbefore
  obtain ⟨root, names, hplace, hholds, rfl⟩ := hedited
  obtain ⟨root', hplace', hsame⟩ := place_of_passes hmade ht hpass
  obtain rfl : root' = root := Except.ok.inj (hsame.symm.trans hplace)
  -- the file is as it was when the generator was made
  obtain ⟨bytes, mode, hfile⟩ := hholds.file
  obtain ⟨mode', hfile'⟩ := (hpass.file_of_file hfile).resolve_right hbefore
  have hholds' : g.settings.Holds t root' names edited :=
    ⟨hholds.ne_nil, ⟨bytes, mode', hfile'⟩, hholds.entered, hholds.name, hholds.time⟩
  have hmem : g.settings.templateAt names ∈ g.environment.templates :=
    (Settings.mem_candidates_iff ht hplace' hmade.templates).mpr
      ⟨names, edited, hholds', by simp [Settings.NotBefore], rfl⟩
  obtain ⟨source, hsource⟩ := hmade.exists_source hmem
  obtain ⟨text, htext, rfl⟩ := hmade.source_eq ht (.inl hmem) hsource
  -- so its text is the one that was read then
  obtain ⟨bytes', hbytes', hdecode⟩ := FileTree.exists_of_readText htext
  obtain ⟨_, _, _, hspot, -⟩ := FileTree.exists_of_readBytes hbytes'
  have hcheck := (FileTree.spotOf_eq_ok_iff.mp hspot).1
  have hread' := FileTree.readBytes_of_item? (hholds'.spot_eq ht hplace' hcheck) hfile'
  have hread := FileTree.readBytes_of_item? (hholds.spot_eq (hpass.sound ht) hplace hcheck) hfile
  obtain rfl : bytes = bytes' := Except.ok.inj (hread'.symm.trans hbytes')
  refine hdiffers ⟨_, hsource, ?_⟩
  rw [FileTree.readText_of_readBytes hread, hdecode]
  rfl

end Generator

/-! ## An edit that is overlooked -/

namespace Overlooked

def settings : Settings :=
  { rootDir := ['/']
    templateDir := "/t".toList
    outputDir := "/out".toList
    includedSuffixes := [['*']]
    includedPatterns := [⟨['*'], [.anySequence]⟩]
    stencilDirName := []
    createDirectories := true
    globalNamespace := []
    engineOptions := ⟨true, true, false⟩
    engineExtensions := []
    customModules := []
    lastRunFile := "/last".toList
    markers := .standard
    newline := .lf
    postCommands := [] }

/-- A template that renders one file. -/
def template (body : Text) : Text :=
  "### New file: a\n### Content:\n".toList ++ body

def files (body : Text) (edited : Instant) : FileTree :=
  ⟨.dir [(['t'], .dir [(['a'], .file (Text.toBytes (template body)) 420 edited)])], []⟩

def start : World :=
  ⟨⟨files ['A'] 0, 500000000, .empty, .new ⟨false⟩ .veryLow 0⟩, []⟩

def loaded : World :=
  start.make settings

def edited : World :=
  { loaded with session := { loaded.session with files := files ['B'] 500000000 } }

def late : World :=
  { edited with session := { edited.session with now := 3000000000 } }

theorem sound_files (body : Text) (edited : Instant) : (files body edited).Sound := by
  have htop : Text.IsName ['t'] := by decide
  have hname : Text.IsName ['a'] := by decide
  refine ⟨.dir (by simp) (by simpa using htop) fun e he => ?_, rfl⟩
  obtain rfl := List.mem_singleton.mp he
  exact .dir (by simp) (by simpa using hname) (by simpa using Node.Sound.file)

theorem now_late : late.session.now = 3000000000 := rfl

theorem touch_template : FileTree.Touch 500000000 (files ['A'] 0) (files ['B'] 500000000) := by
  have hname : Text.IsName ['a'] := by decide
  have hopen : (files ['A'] 0).Open [['t'], ['a']] := ⟨⟨by simp, rfl⟩, by simpa using hname⟩
  have hput : files ['B'] 500000000 = (files ['A'] 0).putAt [['t'], ['a']]
      (.file (Text.toBytes (template ['B'])) 420 500000000) := rfl
  rw [hput]
  exact .overwrite hopen rfl

theorem reachable_late : late.Reachable := by
  obtain ⟨hfiles, hnow, -⟩ : Session.Unchanged start.session loaded.session :=
    World.unchanged_make start settings
  have hmake : World.Step start loaded := .make settings
  have hedit : World.Step loaded edited := by
    refine .edit ?_
    rw [hfiles, hnow]
    exact touch_template
  have hwait : World.Step edited late := by
    refine .wait ?_
    rw [edited, hnow]
    decide
  exact ⟨start.session, sound_files ['A'] 0,
    ((Relation.ReflTransGen.single hmake).tail hedit).tail hwait⟩

/-- Whether the only generator runs well, and then the template is not the one that the
generator holds and is not selected. -/
def isLost : Bool :=
  match late.made with
  | [(g, 500000000)] =>
    match g.renderAll false none late.session with
    | .ok stats s =>
      match g.settings.candidates s.files none, g.selected s.files true with
      | .ok [f], .ok [] =>
        decide (g.settings.postCommands = [] ∧ 0 < stats.templatesProcessed ∧
          (s.files.readText f.path).toOption ≠
            (g.environment.sources.lookup f.name).map Source.text)
      | _, _ => false
    | .error _ _ => false
  | _ => false

theorem exists_lost : ∃ (g : Generator) (stats : RunStats) (s : Session) (f : TemplateFile),
    (g, 500000000) ∈ late.made ∧ g.settings.postCommands = [] ∧
    g.renderAll false none late.session = .ok stats s ∧
    0 < stats.templatesProcessed ∧ g.settings.candidates s.files none = .ok [f] ∧
    g.Differs s.files f ∧ g.selected s.files true = .ok [] := by
  have hlost : isLost = true := by decide +kernel
  unfold isLost at hlost
  split at hlost
  case h_2 => cases hlost
  case h_1 g hmade =>
    split at hlost
    case h_2 => cases hlost
    case h_1 stats s hrun =>
      split at hlost
      case h_2 => cases hlost
      case h_1 f hall hnext =>
        obtain ⟨hcommands, hsome, htext⟩ := of_decide_eq_true hlost
        refine ⟨g, stats, s, f, by simp [hmade], hcommands, hrun, hsome, hall, ?_, hnext⟩
        rintro ⟨source, hsource, hread⟩
        simp [hsource, hread, Except.toOption] at htext

end Overlooked

/-! ## What the next run selects -/

namespace World

variable {w : World} {g : Generator} {made : Instant} {onlyModified : Bool}
  {overrides : Option Namespace} {stats : RunStats} {s : Session}

/-- After a run that left a watermark, the next run that is to render modified templates
takes up a template that differs from what was rendered just if its last edit, rounded up
to seconds, is not before the second in which the run started.  The edit came after the
generator was made; nothing keeps it from coming before the run started. -/
theorem selected_next_iff (hw : w.Reachable) (hg : (g, made) ∈ w.made)
    (hcommands : g.settings.CommandsPass w.session.host)
    (hclock : Instant.floorSeconds w.session.now < 2 ^ 64)
    (hrun : g.renderAll onlyModified overrides w.session = .ok stats s)
    (hsome : 0 < stats.templatesProcessed) :
    g.watermark.read s.files = some (Instant.floorSeconds w.session.now) ∧
      ∃ all next, g.settings.candidates s.files none = .ok all ∧
        g.selected s.files true = .ok next ∧
        (∀ g' s', Generator.new g.settings s = .ok g' s' →
          g'.selected s'.files true = .ok next) ∧
        ∀ f ∈ all, g.Differs s.files f → ∃ edited, g.settings.EditedAt s.files f edited ∧
          made ≤ edited ∧
          (f ∈ next ↔ Instant.floorSeconds w.session.now ≤ Instant.ceilSeconds edited) := by
  obtain ⟨hsound, hmade⟩ := hw.consistent
  obtain ⟨t, ht, hfrom, hsince⟩ := hmade g made hg
  have hpass :=
    ((Generator.passedOn_renderAll onlyModified overrides).of_ok hrun hcommands).2 hsound
  have hs : s.files.Sound := hpass.sound hsound
  have hread : g.watermark.read s.files = some (Instant.floorSeconds w.session.now) := by
    obtain ⟨templates, -, hlen, hwritten⟩ := Generator.renderAll_eq_ok hrun
    have hne : templates ≠ [] := by
      rintro rfl
      simp [hlen] at hsome
    obtain ⟨s₁, s₂, s₃, hunchanged, heach, hpost, hwrite⟩ := hwritten hne
    obtain ⟨hlater, htouched⟩ := (Generator.touched_renderEach g overrides templates).of_ok heach
    have htouched := htouched (hunchanged.1 ▸ hsound)
    have hs₂ := htouched.1.sound (hunchanged.1 ▸ hsound)
    have hcommands₂ := (hunchanged.2.2 ▸ hcommands).later hlater
    have hpost' := (Generator.passedOn_runPostCommands.of_ok hpost hcommands₂).2 hs₂
    exact Watermark.read_of_write (hpost'.sound hs₂) hclock hwrite
  obtain ⟨root, -, hplace⟩ := Generator.place_of_passes hfrom ht (hsince.trans hpass)
  obtain ⟨all, hall, hmemAll⟩ := Settings.candidates_of_place none hs hplace
  obtain ⟨next, hnext, -⟩ := Settings.candidates_of_place
    (g.watermark.read s.files) hs hplace
  refine ⟨hread, all, next, hall, hnext, fun g' s' hnew => ?_, fun f hf hdiffers => ?_⟩
  · have hunchanged := (Generator.unchanged_new g.settings).of_ok hnew
    rw [Generator.selected, if_pos rfl, Generator.watermark, (Generator.new_eq_ok hnew).1,
      hunchanged.1]
    exact hnext
  · obtain ⟨names, edited, hholds, -, rfl⟩ := (hmemAll f).mp hf
    have hedited : g.settings.EditedAt s.files (g.settings.templateAt names) edited :=
      ⟨root, names, hplace, hholds, rfl⟩
    refine ⟨edited, hedited,
      Generator.le_of_differs hfrom ht (hsince.trans hpass) hedited hdiffers, ?_⟩
    rw [hedited.mem_candidates_iff hs hnext, hread]
    simp [Settings.NotBefore]

/-- The only template was edited after it was loaded, and the next run passes over it. -/
theorem selected_next_overlooked : ∃ (g : Generator) (stats : RunStats) (s : Session)
    (f : TemplateFile) (edited : Instant),
    g.renderAll false none Overlooked.late.session = .ok stats s ∧
    g.settings.candidates s.files none = .ok [f] ∧ g.Differs s.files f ∧
    g.settings.EditedAt s.files f edited ∧ 500000000 ≤ edited ∧
    Instant.ceilSeconds edited < 3 ∧ g.selected s.files true = .ok [] := by
  obtain ⟨g, stats, s, f, hg, hnone, hrun, hsome, hall, hdiffers, hlost⟩ :=
    Overlooked.exists_lost
  have hcommands : g.settings.CommandsPass Overlooked.late.session.host := by
    simp [Settings.CommandsPass, hnone]
  have hclock : Instant.floorSeconds Overlooked.late.session.now < 2 ^ 64 := by
    rw [Overlooked.now_late]
    decide
  obtain ⟨-, all, next, hall', hnext, -, hdiff⟩ :=
    selected_next_iff Overlooked.reachable_late hg hcommands hclock hrun hsome
  obtain rfl : all = [f] := Except.ok.inj (hall'.symm.trans hall)
  obtain rfl : next = [] := Except.ok.inj (hnext.symm.trans hlost)
  obtain ⟨edited, hedited, hmade, hiff⟩ := hdiff f (by simp) hdiffers
  rw [Overlooked.now_late] at hiff
  have hearly : Instant.ceilSeconds edited < 3 := by
    by_contra hnot
    exact absurd (hiff.mpr (Nat.not_lt.mp hnot)) (by simp)
  exact ⟨g, stats, s, f, edited, hrun, hall, hdiffers, hedited, hmade, hearly, hlost⟩

end World

end TemplateTree
