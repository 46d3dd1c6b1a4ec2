import TemplateTree.Proofs.Build.Watermarks
import TemplateTree.Proofs.Discovery.Times

/-!
# Selection by time

To select templates by a time is to leave out those that are older.  What a run selects is
therefore a part of what its environment has loaded, in the same order, and a file that is
edited once a run has started is not passed over by the watermark of that run.
-/

namespace TemplateTree

open FileTree

variable {t u : FileTree} {s : Settings} {g : Generator} {o : WalkOptions}

namespace Settings

variable {cutoff cutoff' : Option Nat} {files : List TemplateFile}

/-- A later cutoff leaves fewer templates, in their order. -/
theorem candidates_sublist (hlater : ∀ time, NotBefore cutoff' time → NotBefore cutoff time)
    (h : s.candidates t cutoff = .ok files) :
    ∃ files', s.candidates t cutoff' = .ok files' ∧ files'.Sublist files := by
  unfold candidates filesBelow at h ⊢
  cases hwalk : walk t s.templateDir (s.walkOptions cutoff) with
  | error e => simp [hwalk] at h
  | ok paths =>
      have htimes : ∀ time, (s.walkOptions cutoff').selectsTime time = true →
          (s.walkOptions cutoff).selectsTime time = true := by
        intro time
        rw [Walk.selectsTime_iff, Walk.selectsTime_iff]
        exact hlater time
      obtain ⟨paths', hwalk', hsub⟩ := walk_sublist (o := s.walkOptions none) htimes hwalk
      rw [hwalk] at h
      obtain rfl := Except.ok.inj h
      have hrun : walk t s.templateDir (s.walkOptions cutoff') = .ok paths' := hwalk'
      rw [hrun]
      exact ⟨_, rfl, hsub.map _⟩

theorem candidates_none (ht : t.Sound) :
    s.candidates t none = (s.discover t).map TemplateSet.templates := by
  unfold discover
  cases hfiles : s.candidates t none with
  | error e => rfl
  | ok files =>
      cases hname : s.stencilName? with
      | none => rfl
      | some name =>
          obtain ⟨root, hplace⟩ := place_of_candidates hfiles
          obtain ⟨paths, hwalk, -⟩ := walk_of_place
            (o := .matching [⟨['*'], [.anySequence]⟩]) ht hplace rfl rfl
          simp only [bind, Except.bind, filesBelow, hwalk]
          rfl

theorem nodup_names_of_candidates (ht : t.Sound) (h : s.candidates t cutoff = .ok files) :
    (files.map TemplateFile.name).Nodup := by
  obtain ⟨root, hplace⟩ := place_of_candidates h
  obtain ⟨found, rfl, hordered, hmem⟩ := exists_ordered_of_candidates ht hplace h
  rw [List.map_map]
  refine (Contents.nodup_of_pairwise hordered).map_on fun names hnames names' hnames' heq => ?_
  obtain ⟨time, hholds, -⟩ := (hmem names).mp hnames
  obtain ⟨time', hholds', -⟩ := (hmem names').mp hnames'
  exact names_eq_of_name_eq hplace hholds.ne_nil hholds'.ne_nil (hholds.isName ht)
    (hholds'.isName ht) heq

end Settings

namespace Generator

/-- Templates that an environment has loaded, each of them once and in its order. -/
structure PicksLoaded (g : Generator) (files : List TemplateFile) : Prop where
  ordered : files.Sublist g.environment.templates
  nodup : (files.map TemplateFile.name).Nodup
  loaded : ∀ f ∈ files, g.environment.isLoaded f.name = true

/-- As long as the templates are the same, a run selects from what is loaded. -/
theorem selected_of_sameTemplates (hmade : g.environment.MadeFrom t g.settings) (ht : t.Sound)
    (hu : u.Sound) (hsame : g.settings.SameTemplates t u) (onlyModified : Bool) :
    ∃ files, g.selected u onlyModified = .ok files ∧ g.PicksLoaded files := by
  have hlater : ∀ time,
      Settings.NotBefore (if onlyModified then g.watermark.read u else none) time →
      Settings.NotBefore none time := by
    intro time _ seconds hnone
    cases hnone
  obtain ⟨files, hfiles, hsub⟩ := Settings.candidates_sublist hlater hmade.templates
  refine ⟨files, (hsame.candidates_eq ht hu _).trans hfiles, hsub,
    Settings.nodup_names_of_candidates ht hfiles, fun f hf => ?_⟩
  obtain ⟨source, hsource⟩ := hmade.exists_source (hsub.subset hf)
  rw [Environment.isLoaded, ByName.has, hsource]
  rfl

end Generator

/-! ## A link to a file -/

namespace Sketch

/-- Options of a walk that follows links. -/
def following : WalkOptions :=
  { WalkOptions.matching [⟨['*'], [.anySequence]⟩] with followLinks := true }

/-- A project with a template of the epoch, one of the eleventh second, and a link to that. -/
def dated : FileTree :=
  ⟨.dir [("last".toList, file "10".toList),
    (['t'], .dir [(['a'], file ['A']),
      (['b'], .file (Text.toBytes ['B']) FileTree.defaultMode (10 * Instant.second + 1)),
      (['l'], .link ['b'])])], []⟩

theorem sound_dated : dated.Sound := by
  refine ⟨Node.Sound.of_names ["last".toList, ['t']] rfl (by decide) (by decide) ?_, rfl⟩
  refine List.forall_mem_cons.mpr ⟨.file, List.forall_mem_singleton.mpr ?_⟩
  refine Node.Sound.of_names [['a'], ['b'], ['l']] rfl (by decide) (by decide) ?_
  exact List.forall_mem_cons.mpr ⟨.file, List.forall_mem_cons.mpr ⟨.file,
    List.forall_mem_singleton.mpr .link⟩⟩

/-- Whether an environment is made, and its run has the template of the eleventh second to
render. -/
def selectsDated : Bool :=
  match Environment.create dated (settings false [] "/last".toList) with
  | .error _ => false
  | .ok env => (Generator.mk (settings false [] "/last".toList) env).selected dated true =
    .ok [(settings false [] "/last".toList).templateAt [['b']]]

theorem exists_dated : ∃ env,
    Environment.create dated (settings false [] "/last".toList) = .ok env ∧
    (Generator.mk (settings false [] "/last".toList) env).selected dated true =
      .ok [(settings false [] "/last".toList).templateAt [['b']]] := by
  have hcheck : selectsDated = true := by decide +kernel
  unfold selectsDated at hcheck
  split at hcheck
  case h_1 => cases hcheck
  case h_2 env henv => exact ⟨env, henv, of_decide_eq_true hcheck⟩

end Sketch

namespace Generator

/-- A cutoff takes the older files from a walk and a later one leaves fewer templates; none at
all leaves those that are discovered.  What a run selects is loaded as long as the templates
are the same, and no file that is edited once a run has started is older than its watermark. -/
theorem selects_by_time (ht : t.Sound) :
    (∀ (dir : Path) (o : WalkOptions) (cutoff : Nat),
      (∀ paths, walk t dir { o with modifiedAfter := none } = .ok paths →
        ∀ p ∈ paths, t.holds p = true) →
      walk t dir { o with modifiedAfter := some cutoff } =
        (walk t dir { o with modifiedAfter := none }).map fun paths =>
          paths.filter fun p => !t.olderThan cutoff p) ∧
    (∀ (s : Settings) (c c' : Nat) (files : List TemplateFile), c ≤ c' →
      s.candidates t (some c) = .ok files →
      ∃ files', s.candidates t (some c') = .ok files' ∧ files'.Sublist files) ∧
    (∀ s : Settings, s.candidates t none = (s.discover t).map TemplateSet.templates) ∧
    (∀ (g : Generator) (u : FileTree) (onlyModified : Bool), u.Sound →
      g.environment.MadeFrom t g.settings → g.settings.SameTemplates t u →
      ∃ files, g.selected u onlyModified = .ok files ∧ g.PicksLoaded files) ∧
    ∀ (o : WalkOptions) (start time : Instant), start ≤ time →
      { o with modifiedAfter := some (Instant.floorSeconds start) }.selectsTime time = true := by
  refine ⟨fun dir o cutoff => walk_modifiedAfter ht.root.wellNamed cutoff, ?_,
    fun s => Settings.candidates_none ht, ?_, ?_⟩
  · intro s c c' files hle hfiles
    apply Settings.candidates_sublist _ hfiles
    intro time hnot seconds hseconds
    obtain rfl := Option.some.inj hseconds
    exact Nat.le_trans hle (hnot c' rfl)
  · intro g u onlyModified hu hmade hsame
    exact selected_of_sameTemplates hmade ht hu hsame onlyModified
  · intro o start time hle
    exact decide_eq_true (Instant.floorSeconds_le_ceilSeconds hle)

/-- A link to a file has the time of the file, and the run has one template to render. -/
theorem selects_by_time_linked : Sketch.dated.Sound ∧
    walk Sketch.dated "/t" { Sketch.following with modifiedAfter := some 11 } =
      .ok ["/t/b".toList, "/t/l".toList] ∧
    ∃ env, (Generator.mk (Sketch.settings false [] "/last".toList) env).PicksLoaded
      [(Sketch.settings false [] "/last".toList).templateAt [['b']]] := by
  obtain ⟨hwalk, -, -, hruns, -⟩ := selects_by_time Sketch.sound_dated
  have hall : walk Sketch.dated "/t" { Sketch.following with modifiedAfter := none } =
      .ok ["/t/a".toList, "/t/b".toList, "/t/l".toList] := by decide +kernel
  have hread : ∀ p ∈ ["/t/a".toList, "/t/b".toList, "/t/l".toList],
      Sketch.dated.holds p = true := by decide +kernel
  have hlate := hwalk "/t" Sketch.following 11 fun paths hpaths =>
    Except.ok.inj (hall.symm.trans hpaths) ▸ hread
  obtain ⟨env, henv, hselected⟩ := Sketch.exists_dated
  obtain ⟨files, hfiles, hpicks⟩ := hruns ⟨Sketch.settings false [] "/last".toList, env⟩
    Sketch.dated true Sketch.sound_dated ⟨env, henv, rfl⟩ ⟨rfl, fun _ _ _ => rfl⟩
  obtain rfl := Except.ok.inj (hselected.symm.trans hfiles)
  refine ⟨Sketch.sound_dated, ?_, env, hpicks⟩
  rw [hlate, hall]
  decide +kernel

end Generator

end TemplateTree
