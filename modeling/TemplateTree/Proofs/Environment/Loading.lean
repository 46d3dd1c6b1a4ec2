import TemplateTree.Environment.Basic
import TemplateTree.Proofs.Discovery.Candidates
import TemplateTree.Proofs.Files.Touching
import TemplateTree.Proofs.Run.Jobs
import TemplateTree.Proofs.Text.Entries

/-!
# What is loaded

Sources are read once each.  Every renderable template is among the sources with the
text of its file, and every other source is a stencil that was read.
-/

namespace TemplateTree

variable {files t : FileTree} {o : EngineOptions} {sources sources' : Sources}
  {templates stencils : List TemplateFile} {names pending : List Text} {name : Text}
  {source : Source} {f : TemplateFile} {fuel : Nat}

namespace Sources

/-- Sources that go on holding what they held, and hold more only from files. -/
structure Extends (files : FileTree) (o : EngineOptions) (from_ : List TemplateFile)
    (sources sources' : Sources) : Prop where
  kept : ∀ name source, sources.lookup name = some source → sources'.lookup name = some source
  read : ∀ name source, sources'.lookup name = some source →
    sources.lookup name = some source ∨ ∃ f ∈ from_, f.name = name ∧ read files o f = .ok source

theorem Extends.refl : Extends files o templates sources sources :=
  ⟨fun _ _ h => h, fun _ _ h => .inl h⟩

theorem Extends.trans {sources'' : Sources} (h : Extends files o templates sources sources')
    (h' : Extends files o templates sources' sources'') :
    Extends files o templates sources sources'' := by
  refine ⟨fun name source hs => h'.kept _ _ (h.kept _ _ hs), fun name source hs => ?_⟩
  obtain hs | hread := h'.read _ _ hs
  · exact h.read _ _ hs
  · exact .inr hread

theorem Extends.mono {more : List TemplateFile} (h : Extends files o templates sources sources')
    (hsub : ∀ f ∈ templates, f ∈ more) : Extends files o more sources sources' := by
  refine ⟨h.kept, fun name source hs => (h.read name source hs).imp_right ?_⟩
  rintro ⟨f, hf, hname, hread⟩
  exact ⟨f, hsub f hf, hname, hread⟩

/-- Reading begins with a file that is known, or else with one that is read. -/
theorem readNew_cons_eq_ok (h : readNew files o sources (f :: templates) = .ok (sources', names)) :
    (sources.has f.name = true ∧ readNew files o sources templates = .ok (sources', names)) ∨
    ∃ source more, sources.has f.name = false ∧ read files o f = .ok source ∧
      readNew files o (sources.put f.name source) templates = .ok (sources', more) ∧
      more ++ [f.name] = names := by
  rw [readNew] at h
  split at h
  case isTrue hhas => exact .inl ⟨hhas, h⟩
  case isFalse hhas =>
    obtain ⟨source, hread, h⟩ := except_bind_eq_ok h
    obtain ⟨⟨all, more⟩, hrest, h⟩ := except_bind_eq_ok h
    obtain ⟨rfl, rfl⟩ : all = sources' ∧ more ++ [f.name] = names := by
      simpa [pure, Except.pure] using h
    exact .inr ⟨source, more, Bool.eq_false_iff.mpr hhas, hread, hrest, rfl⟩

theorem readNew_spec (h : readNew files o sources templates = .ok (sources', names)) :
    Extends files o templates sources sources' ∧
      ∀ f ∈ templates, ∃ source, sources'.lookup f.name = some source := by
  induction templates generalizing sources names with
  | nil =>
      obtain ⟨rfl, -⟩ : sources = sources' ∧ [] = names := by simpa [readNew] using h
      exact ⟨.refl, by simp⟩
  | cons f rest ih =>
      have hsub : ∀ g ∈ rest, g ∈ f :: rest := fun g hg => List.mem_cons_of_mem _ hg
      rcases readNew_cons_eq_ok h with ⟨hhas, hrest⟩ | ⟨source, more, hhas, hread, hrest, -⟩
      · obtain ⟨hext, hall⟩ := ih hrest
        obtain ⟨source, hsource⟩ := ByName.has_iff.mp hhas
        refine ⟨hext.mono hsub, fun g hg => ?_⟩
        obtain rfl | hg := List.mem_cons.mp hg
        · exact ⟨source, hext.kept _ _ hsource⟩
        · exact hall g hg
      · have hnone : sources.lookup f.name = none := by
          rw [Option.eq_none_iff_forall_ne_some]
          exact fun source hs => by simp [ByName.has_iff.mpr ⟨source, hs⟩] at hhas
        obtain ⟨hext, hall⟩ := ih hrest
        have hself : sources'.lookup f.name = some source :=
          hext.kept _ _ (by rw [ByName.lookup_put, if_pos rfl])
        have hput : Extends files o (f :: rest) sources (sources.put f.name source) := by
          refine ⟨fun name source' hs => ?_, fun name source' hs => ?_⟩
          · have hne : name ≠ f.name := fun heq => by simp [heq, hnone] at hs
            rwa [ByName.lookup_put, if_neg hne]
          · rw [ByName.lookup_put] at hs
            split at hs
            case isTrue heq =>
              obtain rfl : source = source' := by simpa using hs
              exact .inr ⟨f, List.mem_cons_self, heq.symm, hread⟩
            case isFalse => exact .inl hs
        refine ⟨hput.trans (hext.mono hsub), fun g hg => ?_⟩
        obtain rfl | hg := List.mem_cons.mp hg
        · exact ⟨source, hself⟩
        · exact hall g hg

theorem mem_of_mem_stencilsNamed {text : Text} (h : f ∈ stencilsNamed stencils text) :
    f ∈ stencils := by
  obtain ⟨name, -, hfind⟩ := List.mem_filterMap.mp h
  exact List.mem_of_find?_eq_some hfind

theorem close_spec (h : close files o stencils fuel sources pending = .ok sources') :
    Extends files o stencils sources sources' := by
  induction fuel generalizing sources pending with
  | zero =>
      obtain rfl : sources = sources' := by simpa [close] using h
      exact .refl
  | succ fuel ih =>
      cases pending with
      | nil =>
          obtain rfl : sources = sources' := by simpa [close] using h
          exact .refl
      | cons name pending =>
          rw [close] at h
          split at h
          case h_1 => exact ih h
          case h_2 source _ =>
            simp only [bind, Except.bind] at h
            split at h
            case h_1 => cases h
            case h_2 result hnew =>
              obtain ⟨all, names⟩ := result
              have hext := (readNew_spec hnew).1.mono fun g => mem_of_mem_stencilsNamed
              exact hext.trans (ih h)

variable {set : TemplateSet}

theorem load_spec (h : load files o set = .ok sources) :
    (∀ f ∈ set.templates, ∃ source, sources.lookup f.name = some source) ∧
    ∀ name source, sources.lookup name = some source →
      ∃ f, (f ∈ set.templates ∨ f ∈ set.stencils) ∧ f.name = name ∧
        read files o f = .ok source := by
  unfold load at h
  simp only [bind, Except.bind] at h
  split at h
  case h_1 => cases h
  case h_2 result hnew =>
    obtain ⟨first, names⟩ := result
    obtain ⟨hext, hall⟩ := readNew_spec hnew
    have hclose := close_spec h
    refine ⟨fun f hf => ?_, fun name source hs => ?_⟩
    · obtain ⟨source, hsource⟩ := hall f hf
      exact ⟨source, hclose.kept _ _ hsource⟩
    · obtain hs | ⟨f, hf, hname, hread⟩ := hclose.read _ _ hs
      · obtain hs | ⟨f, hf, hname, hread⟩ := hext.read _ _ hs
        · simp at hs
        · exact ⟨f, .inl hf, hname, hread⟩
      · exact ⟨f, .inr hf, hname, hread⟩

theorem read_eq_ok (h : read files o f = .ok source) :
    ∃ text, files.readText f.path = .ok text ∧ source = Source.ofText o text := by
  unfold read at h
  cases htext : files.readText f.path with
  | error e => simp [htext] at h
  | ok text => exact ⟨text, rfl, by simpa [htext, eq_comm] using h⟩

end Sources

namespace Settings

variable {s : Settings} {root : Place} {set : TemplateSet}

/-- Which files are looked at for stencils: all. -/
def stencilOptions : WalkOptions :=
  .matching [⟨['*'], [.anySequence]⟩]

/-- A stencil below a place, by its names and time. -/
def HoldsStencil (s : Settings) (t : FileTree) (root : Place) (names : List Text)
    (time : Instant) : Prop :=
  s.stencilName? ≠ none ∧ stencilOptions.Selects t root names time ∧
    (s.templateAt names).isStencil = true

/-- The files of a project: the renderable templates and the stencils. -/
theorem discover_spec (ht : t.Sound) (hplace : t.place s.templateDir = .ok root)
    (h : s.discover t = .ok set) : s.candidates t none = .ok set.templates ∧
      ∀ f, f ∈ set.stencils ↔ ∃ names time, s.HoldsStencil t root names time ∧
        f = s.templateAt names := by
  unfold discover at h
  obtain ⟨candidates, hcandidates, h⟩ := except_bind_eq_ok h
  unfold HoldsStencil
  cases hstencil : s.stencilName? with
  | none =>
      obtain rfl : (⟨candidates, []⟩ : TemplateSet) = set := by
        simpa [hstencil, pure, Except.pure] using h
      exact ⟨hcandidates, by simp⟩
  | some name =>
      simp only [hstencil] at h
      obtain ⟨all, hall, h⟩ := except_bind_eq_ok h
      obtain rfl : (⟨candidates, all.filter TemplateFile.isStencil⟩ : TemplateSet) = set := by
        simpa [pure, Except.pure] using h
      refine ⟨hcandidates, fun f => ?_⟩
      obtain ⟨paths, hwalk, hmem⟩ := walk_of_place (o := stencilOptions) ht hplace rfl rfl
      rw [filesBelow, ← stencilOptions, hwalk] at hall
      obtain rfl : paths.map (TemplateFile.ofPath s.templateDir s.stencilDirName) = all := by
        simpa using hall
      rw [List.mem_filter, List.mem_map]
      constructor
      · rintro ⟨⟨p, hp, rfl⟩, hkind⟩
        obtain ⟨names, time, hsel, rfl⟩ := (hmem p).mp hp
        exact ⟨names, time, ⟨by simp, hsel, hkind⟩, rfl⟩
      · rintro ⟨names, time, ⟨-, hsel, hkind⟩, rfl⟩
        exact ⟨⟨_, (hmem _).mpr ⟨names, time, hsel, rfl⟩, rfl⟩, hkind⟩

/-- Every file of a project is at the end of names below the template directory. -/
theorem exists_names_of_discover (ht : t.Sound) (hplace : t.place s.templateDir = .ok root)
    (h : s.discover t = .ok set) (hf : f ∈ set.templates ∨ f ∈ set.stencils) :
    ∃ names, names ≠ [] ∧ (∀ x ∈ names, x.IsName) ∧ f = s.templateAt names := by
  obtain ⟨hcandidates, hstencils⟩ := discover_spec ht hplace h
  obtain hf | hf := hf
  · obtain ⟨names, time, hholds, -, rfl⟩ := (mem_candidates_iff ht hplace hcandidates).mp hf
    exact ⟨names, hholds.ne_nil, hholds.isName ht, rfl⟩
  · obtain ⟨names, time, ⟨-, hsel, -⟩, rfl⟩ := (hstencils f).mp hf
    obtain ⟨bytes, mode, hfile⟩ := hsel.file
    exact ⟨names, hsel.ne_nil, fun x hx => ht.root.isName_of_mem
      (Option.isSome_of_eq_some hfile) (List.mem_append_right _ hx), rfl⟩

end Settings

namespace Environment

variable {s : Settings} {env : Environment} {root : Place}

def ofSources (s : Settings) (set : TemplateSet) (sources : Sources) :
    Except Failure Environment :=
  match Library.ofTexts (sources.map fun (name, source) => (name, source.processed)) with
  | .error e => throw (sources.loadFailure e)
  | .ok library => return ⟨library, sources, set.templates, set.stencils,
      s.engineOptions.autoescape, [], .empty⟩

/-- The parts of an environment that was made. -/
theorem create_spec (h : create t s = .ok env) : ∃ set, s.discover t = .ok set ∧
    Sources.load t s.engineOptions set = .ok env.sources ∧
    Library.ofTexts (env.sources.map fun (name, source) => (name, source.processed)) =
      .ok env.library ∧
    env.templates = set.templates ∧ env.stencils = set.stencils ∧ set.templates ≠ [] ∧
    env.escape = s.engineOptions.autoescape ∧ env.globals = [] ∧ env.registry = .empty := by
  unfold create at h
  obtain ⟨set, hset, h⟩ := except_bind_eq_ok h
  dsimp only at h
  split at h
  case isTrue => cases h
  case isFalse hsome =>
    have hne : set.templates ≠ [] := by simpa using hsome
    have hrest : (Sources.load t s.engineOptions set >>= ofSources s set) = .ok env := by
      split at h
      case h_1 =>
        split at h
        case isTrue => cases h
        case isFalse => exact h
      case h_2 => exact h
    obtain ⟨sources, hsources, hrest⟩ := except_bind_eq_ok hrest
    unfold ofSources at hrest
    split at hrest
    case h_1 => cases hrest
    case h_2 library hlibrary =>
      cases hrest
      exact ⟨set, hset, hsources, hlibrary, rfl, rfl, hne, rfl, rfl, rfl⟩

theorem templates_of_create (h : create t s = .ok env) :
    s.candidates t none = .ok env.templates := by
  obtain ⟨set, hset, -, -, htemplates, -⟩ := create_spec h
  rw [htemplates]
  unfold Settings.discover at hset
  simp only [bind, Except.bind] at hset
  split at hset
  case h_1 => cases hset
  case h_2 candidates hcandidates =>
    rw [hcandidates]
    split at hset
    case h_1 =>
      obtain rfl : (⟨candidates, []⟩ : TemplateSet) = set := by
        simpa [pure, Except.pure] using hset
      rfl
    case h_2 =>
      split at hset
      case h_1 => cases hset
      case h_2 =>
        cases hset
        rfl

/-- What is loaded under a name is the text of the file of that name. -/
theorem source_of_create (ht : t.Sound) (h : create t s = .ok env) {f : TemplateFile}
    (hf : f ∈ env.templates ∨ f ∈ env.stencils) {source : Source}
    (hsource : env.sources.lookup f.name = some source) :
    ∃ text, t.readText f.path = .ok text ∧ source = Source.ofText s.engineOptions text := by
  obtain ⟨root, hplace⟩ := Settings.place_of_candidates (templates_of_create h)
  obtain ⟨set, hset, hload, -, htemplates, hstencils, -⟩ := create_spec h
  rw [htemplates, hstencils] at hf
  obtain ⟨g, hg, hname, hread⟩ := (Sources.load_spec hload).2 _ _ hsource
  obtain ⟨names, hne, hvalid, rfl⟩ := Settings.exists_names_of_discover ht hplace hset hf
  obtain ⟨names', hne', hvalid', rfl⟩ := Settings.exists_names_of_discover ht hplace hset hg
  obtain rfl := Settings.names_eq_of_name_eq hplace hne hne' hvalid hvalid' hname.symm
  exact Sources.read_eq_ok hread

theorem exists_source_of_create (h : create t s = .ok env) {f : TemplateFile}
    (hf : f ∈ env.templates) : ∃ source, env.sources.lookup f.name = some source := by
  obtain ⟨set, -, hload, -, htemplates, -⟩ := create_spec h
  exact (Sources.load_spec hload).1 f (htemplates ▸ hf)

end Environment

end TemplateTree
