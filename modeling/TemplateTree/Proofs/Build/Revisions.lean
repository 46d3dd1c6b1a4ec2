import TemplateTree.Proofs.Build.Watermarks
import TemplateTree.Proofs.Environment.Rendering
import TemplateTree.Proofs.Environment.Unreached
import TemplateTree.Proofs.Settings.Sketch

/-!
# Templates edited after a run

A revision of one template leaves the others and the stencils as they are.  The next run of
modified templates takes up the template that was edited.  It compares each template with the
watermark, and not those that the template is made of: a template that leads to the edited one
may render to another text and be passed over, and so may one that asks the machine something.
-/

namespace TemplateTree

namespace Settings

variable {s : Settings} {t u : FileTree}

/-- An edit of one renderable template: its file gets a content and the time of the edit. -/
structure Revision (s : Settings) (t : FileTree) where
  root : Place
  names : List Text
  bytes : Bytes
  mode : Nat
  time : Instant
  place_eq : t.place s.templateDir = .ok root
  held : ∃ before, s.Holds t root names before

namespace Revision

def template (r : s.Revision t) : TemplateFile :=
  s.templateAt r.names

def file (r : s.Revision t) : Place :=
  r.root ++ r.names

def result (r : s.Revision t) : FileTree :=
  t.putAt r.file (.file r.bytes r.mode r.time)

variable (r : s.Revision t)

theorem exists_file : ∃ bytes mode time, t.root.item? r.file = some (.file bytes mode time) := by
  obtain ⟨time, hholds⟩ := r.held
  obtain ⟨bytes, mode, hfile⟩ := hholds.file
  exact ⟨bytes, mode, time, hfile⟩

variable (ht : t.Sound)
include ht

theorem item?_result (p : Place) : r.result.root.item? p =
    if p = r.file then some (.file r.bytes r.mode r.time) else t.root.item? p := by
  obtain ⟨bytes, mode, time, hfile⟩ := r.exists_file
  exact FileTree.item?_putAt_file (ht.open_of_item? hfile (by simp)) (by simp [hfile]) p

theorem changesOnly : FileTree.ChangesOnly (· = r.file) t r.result := by
  obtain ⟨bytes, mode, time, hfile⟩ := r.exists_file
  refine FileTree.changesOnly_of_putFile ht (ht.open_of_item? hfile (by simp)) fun i hi => ?_
  exact ⟨bytes, mode, time, Option.some.inj (hi.symm.trans hfile)⟩

theorem sound_result : r.result.Sound :=
  (r.changesOnly ht).sound

theorem sameShape : FileTree.SameShape t r.result := by
  refine ⟨(r.changesOnly ht).current, fun p => ?_⟩
  obtain ⟨bytes, mode, time, hfile⟩ := r.exists_file
  rw [r.item?_result ht]
  split
  case isTrue heq =>
    rw [heq, hfile]
    rfl
  case isFalse => rfl

theorem discover_result : s.discover r.result = s.discover t :=
  discover_of_sameShape ht (r.sound_result ht) (r.sameShape ht)

theorem editedAt : s.EditedAt r.result r.template r.time := by
  obtain ⟨before, hholds⟩ := r.held
  refine ⟨r.root, r.names, (r.sameShape ht).place_eq.trans r.place_eq, ?_, rfl⟩
  refine ⟨hholds.ne_nil, ⟨r.bytes, r.mode, ?_⟩, hholds.entered, hholds.name, rfl⟩
  exact (r.item?_result ht _).trans (if_pos rfl)

/-- The other files of the project are read as before. -/
theorem readText_result {set : TemplateSet} {f : TemplateFile} (h : s.discover t = .ok set)
    (hf : f ∈ set.templates ++ set.stencils) (hother : f ≠ r.template) :
    r.result.readText f.path = t.readText f.path := by
  obtain ⟨names, bytes, hne, rfl, hbytes⟩ := exists_hasBytes_of_discover ht r.place_eq h hf
  have hplace := (r.sameShape ht).place_eq.trans r.place_eq
  refine readText_templateAt ht (r.sound_result ht) r.place_eq hplace hne hbytes ?_
  refine ((r.changesOnly ht).hasBytes_iff fun heq => hother ?_).mpr hbytes
  rw [List.append_cancel_left heq]
  rfl

end Revision

end Settings

/-! ## The next run -/

open FileTree Session

/-- Trees with the same project: the same files, with the same texts. -/
structure Settings.SameProject (s : Settings) (t t' : FileTree) : Prop where
  discovered : s.discover t' = s.discover t
  texts : ∀ set, s.discover t = .ok set → ∀ f ∈ set.templates ++ set.stencils,
    t'.readText f.path = t.readText f.path

namespace Settings.Revision

variable {s : Settings} {t u : FileTree} {env env' : Environment} {r : s.Revision u}

theorem sameProject_discover (ht : u.Sound) (hsame : s.SameProject t u) :
    s.discover r.result = s.discover t :=
  (r.discover_result ht).trans hsame.discovered

theorem lookup_eq (ht : t.Sound) (hu : u.Sound) (hsame : s.SameProject t u)
    (h : env.MadeFrom t s) (h' : env'.MadeFrom r.result s) {n : Text}
    (hn : n ≠ r.template.name)
    (hloaded : ∀ f ∈ env.stencils, f.name = n → env'.isLoaded n = env.isLoaded n) :
    env'.sources.lookup n = env.sources.lookup n := by
  have hset := h.discover
  have hset' := h'.discover
  rw [sameProject_discover hu hsame, hset] at hset'
  obtain ⟨htemplates, hstencils⟩ := TemplateSet.mk.inj (Except.ok.inj hset')
  by_cases hfile : ∃ f, (f ∈ env.templates ∨ f ∈ env.stencils) ∧ f.name = n
  · obtain ⟨f, hf, rfl⟩ := hfile
    have hmem := List.mem_append.mpr hf
    have htext : r.result.readText f.path = t.readText f.path := by
      refine (r.readText_result hu (hsame.discovered.trans hset) hmem ?_).trans
        (hsame.texts _ hset f hmem)
      exact fun heq => hn (congrArg TemplateFile.name heq)
    refine h.lookup_eq_of_file h' ht (r.sound_result hu) hf ?_ htext ?_
    · rwa [← htemplates, ← hstencils]
    · rcases hf with hf | hf
      · -- a template is always loaded
        have hyes : env.isLoaded f.name = true := ByName.has_iff.mpr (h.exists_source hf)
        have hyes' : env'.isLoaded f.name = true :=
          ByName.has_iff.mpr (h'.exists_source (htemplates ▸ hf))
        rw [hyes, hyes']
      · exact hloaded f hf rfl
  · rw [h.lookup_eq_none hfile, h'.lookup_eq_none]
    rwa [← htemplates, ← hstencils]

/-- A template that does not lead to the edited one renders as before, if the stencils to
which it leads are loaded as before and the machine answers its questions as before. -/
theorem toOption_render_eq (ht : t.Sound) (hu : u.Sound) (hsame : s.SameProject t u)
    (h : env.MadeFrom t s) (h' : env'.MadeFrom r.result s) {name : Text}
    (hname : ¬ env.library.Reaches name r.template.name)
    (hloaded : ∀ f ∈ env.stencils, env.library.Reaches name f.name →
      env'.isLoaded f.name = env.isLoaded f.name) {ns : Namespace} {o o' : Template.Outlook}
    (ho : o.Alike o' (env.questions name ns o)) :
    (env'.render name ns o').toOption = (env.render name ns o).toOption := by
  refine h.toOption_render_eq h' ht (r.sound_result hu) ?_ (fun n hn => ?_) ho
  · refine h.globals_eq h' fun _ => ?_
    have hset' := h'.discover
    rw [sameProject_discover hu hsame, h.discover] at hset'
    obtain ⟨htemplates, hstencils⟩ := TemplateSet.mk.inj (Except.ok.inj hset')
    exact ⟨htemplates.symm, hstencils.symm⟩
  · refine lookup_eq ht hu hsame h h' (fun heq => hname (heq ▸ hn)) ?_
    rintro f hf rfl
    exact hloaded f hf hn

end Settings.Revision

namespace Generator

variable {g : Generator} {onlyModified : Bool} {overrides : Option Namespace}
  {s s' start stop : Session} {lines : List Text} {stats : RunStats} {t : FileTree}

theorem tidy_of_runsCommands (hs : s.files.Tidy) (hlawful : s.host.Lawful)
    (h : g.RunsCommands lines s s') : s'.files.Tidy := by
  induction h with
  | nil h => exact h.1.symm ▸ hs
  | cons hfirst _ ih =>
      obtain ⟨outcome, ⟨hshell, hhost⟩, -⟩ := hfirst
      obtain ⟨htidy, -⟩ := hlawful _ _ _ _ _ _ _ _ hs hshell
      exact ih htidy (hhost ▸ hlawful.later (Host.later_next _))

theorem content_of_renderAll (hs : s.files.Sound) (hlawful : s.host.Lawful) (hs' : s'.files.Sound)
    (hrun : g.renderAll onlyModified overrides s = .ok stats s')
    (hsome : 0 < stats.templatesProcessed) : g.watermark.content s'.files =
      some (Watermark.toBytes (Instant.floorSeconds s.now)) := by
  obtain ⟨templates, -, hlen, hwritten⟩ := renderAll_eq_ok hrun
  have hne : templates ≠ [] := by
    rintro rfl
    simp [hlen] at hsome
  obtain ⟨s₁, s₂, s₃, hunchanged, heach, hpost, hwrite⟩ := hwritten hne
  have hs₁ : s₁.files.Sound := hunchanged.1.symm ▸ hs
  obtain ⟨hlater, htouched⟩ := (touched_renderEach g overrides templates).of_ok heach
  have hs₂ : s₂.files.Sound := (htouched hs₁).1.sound hs₁
  have hlawful₂ : s₂.host.Lawful := (hunchanged.2.2 ▸ hlawful).later hlater
  -- commands may remove the current directory, but it was there in the end
  have hs₃ : s₃.files.Tidy := tidy_of_runsCommands hs₂.tidy hlawful₂ (runsCommands_of_forM hpost)
  exact Watermark.content_of_write (hs₃.sound_of_write hwrite hs') hwrite

/-- A project is loaded and run, and then one of its templates is edited, and nothing
else. -/
structure RevisedAfter (g : Generator) (t : FileTree) (start stop : Session)
    (r : g.settings.Revision stop.files) : Prop where
  sound : t.Sound
  soundStart : start.files.Sound
  lawful : start.host.Lawful
  soundStop : stop.files.Sound
  made : g.environment.MadeFrom t g.settings
  run : ∃ onlyModified overrides stats,
    g.renderAll onlyModified overrides start = .ok stats stop ∧ 0 < stats.templatesProcessed
  same : g.settings.SameProject t stop.files
  time : start.now ≤ r.time

namespace RevisedAfter

variable {r : g.settings.Revision stop.files} (h : g.RevisedAfter t start stop r)
include h

theorem content : g.watermark.content stop.files =
    some (Watermark.toBytes (Instant.floorSeconds start.now)) := by
  obtain ⟨onlyModified, overrides, stats, hrun, hsome⟩ := h.run
  exact content_of_renderAll h.soundStart h.lawful h.soundStop hrun hsome

theorem notBefore : Settings.NotBefore (g.watermark.read stop.files) r.time := by
  intro seconds hseconds
  rw [Watermark.read_eq, h.content, Option.bind_some, Watermark.ofBytes?_toBytes] at hseconds
  split at hseconds
  case isTrue =>
    rw [← Option.some.inj hseconds]
    exact Instant.floorSeconds_le_ceilSeconds h.time
  case isFalse => cases hseconds

theorem read_result (hmark : stop.files.spot g.watermark.path ≠ .ok (.found r.file)) :
    g.watermark.read r.result = g.watermark.read stop.files := by
  obtain ⟨q, mode, time, hspot, -⟩ := exists_of_readBytes (toOption_eq_some_iff.mp h.content)
  rw [Watermark.read_eq, Watermark.read_eq, Watermark.content_of_changesOnly h.soundStop
    ⟨_, hspot⟩ (r.changesOnly h.soundStop)]
  intro p hp heq
  have hplace : p = q := (LeadsOnlyTo.of_spot hspot).eq hp
  rw [hspot, ← hplace, heq] at hmark
  exact hmark rfl

end RevisedAfter

/-- A template that renders to another text after an edit, by what the machine answered before
and answers then, and is not selected. -/
def Misses (g : Generator) (r : g.settings.Revision stop.files) (o o' : Template.Outlook)
    (f : TemplateFile) : Prop :=
  f ∈ g.environment.templates ∧ ∃ (env : Environment) (next : List TemplateFile)
    (text text' : Text), env.MadeFrom r.result g.settings ∧
    g.selected r.result true = .ok next ∧ f ∉ next ∧
    g.environment.render f.name [] o = .ok text ∧ env.render f.name [] o' = .ok text' ∧
    text' ≠ text

/-- By the watermark that a run left, a template that is edited afterwards is selected.  So
is every other template that renders to another text, unless it leads to the edited one
or to a stencil that is loaded only before the edit or only after it, or asks the machine
something that is not answered as before. -/
theorem revision_is_selected {r : g.settings.Revision stop.files}
    (h : g.RevisedAfter t start stop r) :
    ∃ next, g.settings.candidates r.result (g.watermark.read stop.files) = .ok next ∧
      (stop.files.spot g.watermark.path ≠ .ok (.found r.file) →
        g.selected r.result true = .ok next) ∧
      r.template ∈ next ∧
      ∀ env : Environment, env.MadeFrom r.result g.settings →
        ∀ f ∈ g.environment.templates, ∀ ns o o',
        (env.render f.name ns o').toOption ≠ (g.environment.render f.name ns o).toOption →
          f ∈ next ∨
            (f ≠ r.template ∧ g.environment.library.Reaches f.name r.template.name) ∨
            (∃ st ∈ g.environment.stencils, g.environment.library.Reaches f.name st.name ∧
              env.isLoaded st.name ≠ g.environment.isLoaded st.name) ∨
            ¬ o.Alike o' (g.environment.questions f.name ns o) := by
  have hsound := r.sound_result h.soundStop
  have hplace := (r.sameShape h.soundStop).place_eq.trans r.place_eq
  obtain ⟨next, hnext, -⟩ :=
    Settings.candidates_of_place (g.watermark.read stop.files) hsound hplace
  have hself : r.template ∈ next :=
    ((r.editedAt h.soundStop).mem_candidates_iff hsound hnext).mpr h.notBefore
  refine ⟨next, hnext, fun hmark => ?_, hself, fun env henv f hf ns o o' hdiffers => ?_⟩
  · rw [selected, if_pos rfl, h.read_result hmark]
    exact hnext
  · -- the edited template is selected whatever it leads to
    by_cases hf : f = r.template
    · exact .inl (hf ▸ hself)
    · refine .inr ?_
      by_contra hnone
      obtain ⟨hreach, hnone⟩ := not_or.mp hnone
      obtain ⟨hloaded, hanswers⟩ := not_or.mp hnone
      refine hdiffers (r.toOption_render_eq h.sound h.soundStop h.same h.made henv ?_ ?_
        (not_not.mp hanswers))
      · exact fun hleads => hreach ⟨hf, hleads⟩
      · intro st hst hleads
        by_contra hne
        exact hloaded ⟨st, hst, hleads, hne⟩

end Generator

/-! ## A project with two templates -/

namespace Sketch

/-- A project with two templates and a stencil, of which the second template is edited, and
what the machine says before and after the edit. -/
structure Pair where
  first : Text
  second : Text
  edited : Text
  before : Template.Outlook := .none
  after : Template.Outlook := .none

namespace Pair

variable {p : Pair}

def other : TemplateFile :=
  withStencils.templateAt [['a']]

def files (p : Pair) : FileTree :=
  ⟨.dir [("out".toList, .dir []), (['t'], .dir [(['a'], file p.first), (['b'], file p.second),
    (['s'], .dir [(['x'], file ['X'])])])], []⟩

def session (p : Pair) : Session :=
  { start p.files with host := saying p.before }

def result (p : Pair) (t : FileTree) : FileTree :=
  t.putAt [['t'], ['b']] (.file (Text.toBytes p.edited) FileTree.defaultMode (20 * Instant.second))

def isSame (t t' : FileTree) : Bool :=
  match withStencils.discover t, withStencils.discover t' with
  | .ok set, .ok set' => decide (set' = set) && (set.templates ++ set.stencils).all fun f =>
      match t.readText f.path, t'.readText f.path with
      | .ok text, .ok text' => text = text'
      | _, _ => false
  | _, _ => false

def isHeld (t : FileTree) : Bool :=
  match t.place withStencils.templateDir, t.root.item? [['t'], ['b']] with
  | .ok root, some (.file _ _ _) => root = [['t']]
  | _, _ => false

/-- Whether the first template renders to another text after the edit, by what the machine
answered before and answers then, and is not selected. -/
def isMissed (env : Environment) (t : FileTree) (o o' : Template.Outlook) : Bool :=
  match Environment.create t withStencils, (Generator.mk withStencils env).selected t true with
  | .ok env', .ok next =>
    match env.render other.name [] o, env'.render other.name [] o' with
    | .ok text, .ok text' =>
      decide (other ∈ env.templates ∧ other ∉ next ∧ text' ≠ text)
    | _, _ => false
  | _, _ => false

/-- Whether the project is loaded and run, and the first template is missed after the edit. -/
def checks (p : Pair) (also : Environment → Bool) : Bool :=
  match Environment.create p.files withStencils with
  | .error _ => false
  | .ok env =>
    match (Generator.mk withStencils env).renderAll false none p.session with
    | .error _ _ => false
    | .ok stats stop => 0 < stats.templatesProcessed && isSame p.files stop.files &&
        isHeld stop.files && isMissed env (p.result stop.files) p.before p.after && also env

theorem sound_files (p : Pair) : p.files.Sound := by
  refine ⟨Node.Sound.of_names ["out".toList, ['t']] rfl (by decide) (by decide) ?_, rfl⟩
  refine List.forall_mem_cons.mpr ⟨.dir .nil (by simp) (by simp), List.forall_mem_singleton.mpr ?_⟩
  refine Node.Sound.of_names [['a'], ['b'], ['s']] rfl (by decide) (by decide) ?_
  refine List.forall_mem_cons.mpr ⟨.file, List.forall_mem_cons.mpr ⟨.file, ?_⟩⟩
  refine List.forall_mem_singleton.mpr ?_
  refine Node.Sound.of_names [['x']] rfl (by decide) (by decide) ?_
  exact List.forall_mem_singleton.mpr .file

theorem sameProject_of_isSame {t t' : FileTree} (h : isSame t t' = true) :
    withStencils.SameProject t t' := by
  unfold isSame at h
  split at h
  case h_2 => cases h
  case h_1 set set' hset hset' =>
    obtain ⟨hsame, htexts⟩ := Bool.and_eq_true_iff.mp h
    obtain rfl : set' = set := of_decide_eq_true hsame
    refine ⟨hset'.trans hset.symm, fun set₁ hset₁ f hf => ?_⟩
    obtain rfl := Except.ok.inj (hset.symm.trans hset₁)
    have htext := List.all_eq_true.mp htexts f hf
    split at htext
    case h_1 text text' hread hread' => rw [hread, hread', of_decide_eq_true htext]
    case h_2 => cases htext

theorem exists_revision {t : FileTree} (h : isHeld t = true) (p : Pair) :
    ∃ r : withStencils.Revision t, r.result = p.result t ∧ r.time = 20 * Instant.second ∧
      r.template = withStencils.templateAt [['b']] := by
  unfold isHeld at h
  split at h
  case h_2 => cases h
  case h_1 root bytes mode time hplace hfile =>
    obtain rfl : root = [['t']] := of_decide_eq_true h
    refine ⟨⟨[['t']], [['b']], Text.toBytes p.edited, FileTree.defaultMode, 20 * Instant.second,
      hplace, time, ?_⟩, rfl, rfl, rfl⟩
    exact ⟨by decide, ⟨bytes, mode, hfile⟩, by decide, by decide, rfl⟩

theorem misses_of_isMissed {env : Environment} {stop : Session}
    {r : withStencils.Revision stop.files} {o o' : Template.Outlook}
    (h : isMissed env r.result o o' = true) :
    (Generator.mk withStencils env).Misses r o o' other := by
  unfold isMissed at h
  split at h
  case h_2 => cases h
  case h_1 env' next henv hnext =>
    split at h
    case h_2 => cases h
    case h_1 text text' hrender hrender' =>
      obtain ⟨hmem, hnot, hdiffers⟩ := of_decide_eq_true h
      exact ⟨hmem, env', next, text, text', .of_create henv rfl rfl, hnext, hnot, hrender,
        hrender', hdiffers⟩

theorem exists_of_checks {also : Environment → Bool} (h : p.checks also = true) :
    ∃ (env : Environment) (stop : Session) (r : withStencils.Revision stop.files),
      (Generator.mk withStencils env).RevisedAfter p.files p.session stop r ∧
      r.template = withStencils.templateAt [['b']] ∧
      (Generator.mk withStencils env).Misses r p.before p.after other ∧ also env = true := by
  unfold checks at h
  split at h
  case h_1 => cases h
  case h_2 env henv =>
    split at h
    case h_1 => cases h
    case h_2 stats stop hrun =>
      simp only [Bool.and_eq_true] at h
      obtain ⟨⟨⟨⟨hsome, hsame⟩, hheld⟩, hmissed⟩, halso⟩ := h
      obtain ⟨r, hresult, htime, htemplate⟩ := exists_revision hheld p
      have hcommands : withStencils.CommandsPass p.session.host := by
        intro n line hline
        simp [withStencils, settings] at hline
      have hpass := (Generator.passedOn_renderAll false none).of_ok hrun hcommands
      refine ⟨env, stop, r, ?_, htemplate, misses_of_isMissed (hresult ▸ hmissed), halso⟩
      refine ⟨p.sound_files, p.sound_files, fun _ _ _ _ _ _ _ _ => Shell.tidy_of_run,
        (hpass.2 p.sound_files).sound p.sound_files, .of_create henv rfl rfl,
        ⟨false, none, stats, hrun, of_decide_eq_true hsome⟩, sameProject_of_isSame hsame, ?_⟩
      have hlater : 10 * Instant.second ≤ 20 * Instant.second := by decide
      rwa [htime]

/-- The first template includes the second one. -/
def including : Pair where
  first := "### New file: f\n### Content:\n\x7b% set p = 1 %\x7d".toList ++ Sketch.including ['b']
  second := "\x7b% if p is defined %\x7dB\x7b% endif %\x7d".toList
  edited := "\x7b% if p is defined %\x7dC\x7b% endif %\x7d".toList

/-- The second template names the stencil, and what the first one says of it is not seen by
a scan. -/
def naming : Pair where
  first := "### New file: f\n### Content:\n\x7b\x7b \"\x7b% include\" \x7d\x7d".toList ++
    "\x7b% include \"s/x\" ignore missing %\x7d".toList
  second := "\x7b% if false %\x7d".toList ++ Sketch.including "s/x".toList ++
    "\x7b% endif %\x7d".toList
  edited := []

/-- The first template shows a number that is drawn anew each time. -/
def drawing : Pair where
  first := "### New file: f\n### Content:\n\x7b\x7b get_random(end=9) \x7d\x7d".toList
  second := "### New file: g\n### Content:\nB".toList
  edited := "### New file: g\n### Content:\nC".toList
  before := fun _ _ => .ok (.ofNat 1)
  after := fun _ _ => .ok (.ofNat 2)

/-- Whether the first template does not lead to the second one. -/
def isApart (env : Environment) : Bool :=
  !(env.referred ['a']).contains ['b'] &&
    (env.referred ['a']).all fun n => (env.referred n).all (env.referred ['a']).contains

theorem not_reaches_of_isApart {env : Environment} (h : isApart env = true) :
    ¬ env.library.Reaches ['a'] ['b'] := by
  simp only [isApart, Bool.and_eq_true, Bool.not_eq_true', List.contains_eq_mem,
    decide_eq_false_iff_not, List.all_eq_true, decide_eq_true_eq] at h
  exact fun hreach => h.1 (Environment.mem_referred_of_reaches h.2 hreach)

/-- Whether the first template refers to nothing but itself. -/
def isAlone (env : Environment) : Bool :=
  (env.referred other.name).all (· = other.name)

theorem eq_of_reaches_of_isAlone {env : Environment} {n : Text} (h : isAlone env = true)
    (hreach : env.library.Reaches other.name n) : n = other.name := by
  have hall : ∀ m ∈ env.referred other.name, m = other.name := fun m hm =>
    of_decide_eq_true (List.all_eq_true.mp h m hm)
  refine hall n (Environment.mem_referred_of_reaches (fun m hm k hk => ?_) hreach)
  rwa [hall m hm] at hk

theorem checks_including : including.checks (fun _ => true) = true := by
  decide +kernel

theorem checks_naming : naming.checks isApart = true := by
  decide +kernel

theorem checks_drawing : drawing.checks isAlone = true := by
  decide +kernel

end Pair

end Sketch

namespace Generator

open Sketch

/-- The included template is selected after an edit. -/
theorem revision_is_selected_included : ∃ (env : Environment) (stop : Session)
    (r : withStencils.Revision stop.files) (next : List TemplateFile),
    (Generator.mk withStencils env).RevisedAfter Pair.including.files Pair.including.session
      stop r ∧
    withStencils.candidates r.result ((Generator.mk withStencils env).watermark.read stop.files) =
      .ok next ∧ r.template ∈ next := by
  obtain ⟨env, stop, r, h, -, -, -⟩ := Pair.exists_of_checks Pair.checks_including
  obtain ⟨next, hnext, -, hself, -⟩ := revision_is_selected h
  exact ⟨env, stop, r, next, h, hnext, hself⟩

/-- A template that includes the edited one is missed, and so is one that includes a stencil
which no other template names after the edit, and one that leads to nothing but itself and
shows a number that is drawn anew for each run. -/
theorem revision_misses_others : (∃ (env : Environment) (stop : Session)
    (r : withStencils.Revision stop.files), (Generator.mk withStencils env).RevisedAfter
      Pair.including.files Pair.including.session stop r ∧
    (Generator.mk withStencils env).Misses r .none .none Pair.other) ∧
    (∃ (env : Environment) (stop : Session) (r : withStencils.Revision stop.files),
      (Generator.mk withStencils env).RevisedAfter Pair.naming.files Pair.naming.session
        stop r ∧
      (Generator.mk withStencils env).Misses r .none .none Pair.other ∧
      ¬ env.library.Reaches Pair.other.name r.template.name) ∧
    ∃ (env : Environment) (stop : Session) (r : withStencils.Revision stop.files),
      (Generator.mk withStencils env).RevisedAfter Pair.drawing.files Pair.drawing.session
        stop r ∧
      (Generator.mk withStencils env).Misses r Pair.drawing.session.outlook Pair.drawing.after
        Pair.other ∧
      ∀ n, env.library.Reaches Pair.other.name n → n = Pair.other.name := by
  refine ⟨?_, ?_, ?_⟩
  · obtain ⟨env, stop, r, h, -, hmisses, -⟩ := Pair.exists_of_checks Pair.checks_including
    exact ⟨env, stop, r, h, hmisses⟩
  · obtain ⟨env, stop, r, h, htemplate, hmisses, hapart⟩ :=
      Pair.exists_of_checks Pair.checks_naming
    refine ⟨env, stop, r, h, hmisses, ?_⟩
    rw [htemplate]
    exact Pair.not_reaches_of_isApart hapart
  · -- what the first template of a run is told is what the machine says next
    obtain ⟨env, stop, r, h, -, hmisses, halone⟩ := Pair.exists_of_checks Pair.checks_drawing
    exact ⟨env, stop, r, h, hmisses, fun n => Pair.eq_of_reaches_of_isAlone halone⟩

end Generator

end TemplateTree
