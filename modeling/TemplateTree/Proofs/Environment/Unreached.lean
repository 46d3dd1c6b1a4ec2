import TemplateTree.Proofs.Discovery.Listing
import TemplateTree.Proofs.Environment.Closure
import TemplateTree.Proofs.Environment.Stencils
import TemplateTree.Proofs.Settings.Sketch

/-!
# Stencils that are not reached

An environment holds the files that the templates reach.  What is in the other stencils
does not matter: it need not parse, and need not be text.
-/

namespace TemplateTree

open FileTree

/-- Trees that differ at most in the bytes of files, and only at some places. -/
structure FileTree.DifferInBytes (P : Place → Prop) (t u : FileTree) : Prop where
  current : u.current = t.current
  item : ∀ p, u.root.item? p = t.root.item? p ∨ P p ∧ ∃ bytes bytes' mode time,
    t.root.item? p = some (.file bytes mode time) ∧ u.root.item? p = some (.file bytes' mode time)

namespace Sources

variable {t u : FileTree} {o : EngineOptions} {set : TemplateSet} {sources : Sources}
  {fs : List TemplateFile} {pending : List Text} {fuel : Nat}

/-- Loading that goes the same way, whichever name is taken next. -/
structure LoadsOnce (files : FileTree) (o : EngineOptions) (set : TemplateSet) : Prop where
  ends : Acc (fun l' l => Loading.Turn files o set.stencils l l') (Loading.start set)
  goesOn : ∀ l, Loading.Turns files o set.stencils (Loading.start set) l →
    l.Done ∨ (∃ l', Loading.Turn files o set.stencils l l') ∨ ∃ f e, Loading.StuckAt files o l f e
  once : ∀ l, Loading.Turns files o set.stencils (Loading.start set) l →
    (l.log.map TemplateFile.path).Nodup ∧ ∀ f e, Loading.StuckAt files o l f e →
      f.path ∉ l.log.map TemplateFile.path
  loaded : ∀ all, load files o set = .ok all ↔
    ∃ l, Loading.Turns files o set.stencils (Loading.start set) l ∧ l.Done ∧ l.sources = all
  refused : ∀ e, load files o set = .error e →
    ∃ l f, Loading.Turns files o set.stencils (Loading.start set) l ∧ Loading.StuckAt files o l f e

theorem readNew_congr (h : ∀ f ∈ fs, read u o f = read t o f) :
    readNew u o sources fs = readNew t o sources fs := by
  induction fs generalizing sources with
  | nil => rfl
  | cons f fs ih =>
      have hrest : ∀ sources, readNew u o sources fs = readNew t o sources fs := fun sources =>
        ih fun g hg => h g (List.mem_cons_of_mem _ hg)
      rw [readNew, readNew, h f List.mem_cons_self]
      simp only [hrest]

/-- Sources that are those of files that are reached. -/
def FromReached (files : FileTree) (o : EngineOptions) (set : TemplateSet) (sources : Sources) :
    Prop :=
  ∀ name source, sources.lookup name = some source →
    ∃ f, Reached files o set f ∧ read files o f = .ok source

theorem FromReached.extends {all : Sources} (h : FromReached t o set sources)
    (hextends : Extends t o fs sources all) (hfs : ∀ f ∈ fs, Reached t o set f) :
    FromReached t o set all := by
  intro name source hsource
  rcases hextends.read name source hsource with hold | ⟨f, hf, -, hread⟩
  · exact h name source hold
  · exact ⟨f, hfs f hf, hread⟩

theorem close_congr (h : ∀ f, Reached t o set f → read u o f = read t o f)
    (hsources : FromReached t o set sources) :
    close u o set.stencils fuel sources pending = close t o set.stencils fuel sources pending := by
  induction fuel generalizing sources pending with
  | zero => rfl
  | succ fuel ih =>
      cases pending with
      | nil => rfl
      | cons name pending =>
          rw [close, close]
          cases hsource : sources.lookup name with
          | none => exact ih hsources
          | some source =>
              obtain ⟨f, hf, hread⟩ := hsources name source hsource
              have hnamed : ∀ g ∈ stencilsNamed set.stencils source.processed,
                  Reached t o set g := fun g hg =>
                .stencil hf hread (mem_of_mem_stencilsNamed hg) (Loading.mem_references_of_mem hg)
              dsimp only
              rw [readNew_congr fun g hg => h g (hnamed g hg)]
              cases hnew : readNew t o sources (stencilsNamed set.stencils source.processed) with
              | error e => rfl
              | ok result =>
                  have hall := hsources.extends (readNew_spec hnew).1 hnamed
                  exact ih hall

/-- Loading depends on the files that are reached, and on no others. -/
theorem load_congr (h : ∀ f, Reached t o set f → read u o f = read t o f) :
    load u o set = load t o set := by
  unfold load
  rw [readNew_congr fun f hf => h f (.template hf)]
  cases hnew : readNew t o [] set.templates with
  | error e => rfl
  | ok result =>
      have hnone : FromReached t o set [] := fun name source hsource => by simp at hsource
      have hall := hnone.extends (readNew_spec hnew).1 fun f hf => .template hf
      exact close_congr h hall

end Sources

namespace FileTree.DifferInBytes

variable {P : Place → Prop} {t u : FileTree}

theorem sameShape (h : DifferInBytes P t u) : SameShape t u := by
  refine ⟨h.current, fun p => ?_⟩
  rcases h.item p with hsame | ⟨-, bytes, bytes', mode, time, ht, hu⟩
  · rw [hsame]
  · rw [ht, hu]
    rfl

theorem hasBytes {q : Place} {bytes : Bytes} (h : DifferInBytes P t u) (hq : ¬ P q)
    (hbytes : t.HasBytes q bytes) : u.HasBytes q bytes := by
  rcases h.item q with hsame | ⟨hP, -⟩
  · obtain ⟨time, mode, hfile⟩ := hbytes
    exact ⟨time, mode, hsame.trans hfile⟩
  · exact absurd hP hq

end FileTree.DifferInBytes

namespace Settings

variable {s : Settings} {t u : FileTree} {root : Place} {set : TemplateSet} {f : TemplateFile}

/-- A place of a stencil that the templates do not reach. -/
def Unreached (s : Settings) (t : FileTree) (p : Place) : Prop :=
  ∃ root set names, t.place s.templateDir = .ok root ∧ s.discover t = .ok set ∧
    s.templateAt names ∈ set.stencils ∧
    ¬ Sources.Reached t s.engineOptions set (s.templateAt names) ∧ p = root ++ names

theorem place_of_discover (h : s.discover t = .ok set) :
    ∃ root, t.place s.templateDir = .ok root := by
  unfold discover at h
  obtain ⟨candidates, hcandidates, -⟩ := except_bind_eq_ok h
  exact place_of_candidates hcandidates

theorem exists_hasBytes_of_discover (ht : t.Sound) (hplace : t.place s.templateDir = .ok root)
    (h : s.discover t = .ok set) (hf : f ∈ set.templates ++ set.stencils) :
    ∃ names bytes, names ≠ [] ∧ f = s.templateAt names ∧ t.HasBytes (root ++ names) bytes := by
  obtain ⟨hcandidates, hstencils⟩ := discover_spec ht hplace h
  rcases List.mem_append.mp hf with hf | hf
  · obtain ⟨names, time, hholds, -, rfl⟩ := (mem_candidates_iff ht hplace hcandidates).mp hf
    obtain ⟨bytes, mode, hfile⟩ := hholds.file
    exact ⟨names, bytes, hholds.ne_nil, rfl, time, mode, hfile⟩
  · obtain ⟨names, time, ⟨-, hsel, -⟩, rfl⟩ := (hstencils f).mp hf
    obtain ⟨bytes, mode, hfile⟩ := hsel.file
    exact ⟨names, bytes, hsel.ne_nil, rfl, time, mode, hfile⟩

theorem toldByName_of_discover (ht : t.Sound) (h : s.discover t = .ok set) :
    Sources.Loading.ToldByName set := by
  intro f hf g hg hname
  obtain ⟨root, hplace⟩ := place_of_discover h
  obtain ⟨names, hne, hvalid, rfl⟩ := exists_names_of_discover ht hplace h (List.mem_append.mp hf)
  obtain ⟨names', hne', hvalid', rfl⟩ :=
    exists_names_of_discover ht hplace h (List.mem_append.mp hg)
  rw [names_eq_of_name_eq hplace hne hne' hvalid hvalid' hname]

theorem eq_of_path_eq (ht : t.Sound) (h : s.discover t = .ok set) {g : TemplateFile}
    (hf : f ∈ set.templates ++ set.stencils) (hg : g ∈ set.templates ++ set.stencils)
    (hpath : f.path = g.path) : f = g := by
  obtain ⟨root, hplace⟩ := place_of_discover h
  obtain ⟨names, -, -, rfl⟩ := exists_names_of_discover ht hplace h (List.mem_append.mp hf)
  obtain ⟨names', -, -, rfl⟩ := exists_names_of_discover ht hplace h (List.mem_append.mp hg)
  exact congrArg (TemplateFile.ofPath s.templateDir s.stencilDirName) hpath

theorem loadsOnce (ht : t.Sound) (h : s.discover t = .ok set) :
    Sources.LoadsOnce t s.engineOptions set := by
  have hconsistent : ∀ {l}, Sources.Loading.Turns t s.engineOptions set.stencils (.start set) l →
      l.Consistent t s.engineOptions set :=
    (Sources.Loading.consistent_start t s.engineOptions set).turns
  constructor
  · exact (Sources.Loading.consistent_start t s.engineOptions set).acc
  · exact fun l _ => Sources.Loading.done_or_turn t s.engineOptions set.stencils l
  · intro l hturns
    have hlog := (hconsistent hturns).logged
    constructor
    · refine List.Nodup.map_on (fun f hf g hg hpath => ?_) (hconsistent hturns).once
      exact eq_of_path_eq ht h (hlog f hf).1.mem (hlog g hg).1.mem hpath
    · intro f e hstuck hmem
      obtain ⟨g, hg, hpath⟩ := List.mem_map.mp hmem
      obtain rfl := eq_of_path_eq ht h (hlog g hg).1.mem
        ((hconsistent hturns).reached_of_stuck hstuck).mem hpath
      exact (hconsistent hturns).not_mem_log hstuck hg
  · exact fun all => Sources.Loading.load_eq_ok_iff (toldByName_of_discover ht h)
  · exact fun e => Sources.Loading.stuck_of_load

/-- What is reached is read as it was. -/
theorem read_of_differInBytes (ht : t.Sound) (hu : u.Sound) (h : s.discover t = .ok set)
    (hdiffer : DifferInBytes (s.Unreached t) t u) (hf : Sources.Reached t s.engineOptions set f) :
    Sources.read u s.engineOptions f = Sources.read t s.engineOptions f := by
  obtain ⟨root, hplace⟩ := place_of_discover h
  obtain ⟨names, bytes, hne, rfl, hbytes⟩ := exists_hasBytes_of_discover ht hplace h hf.mem
  have hplace' : u.place s.templateDir = .ok root := hdiffer.sameShape.place_eq.trans hplace
  have hreached : ¬ s.Unreached t (root ++ names) := by
    rintro ⟨root', set', names', hplace', hset', -, hnot, heq⟩
    obtain rfl : root = root' := Except.ok.inj (hplace.symm.trans hplace')
    obtain rfl : set = set' := Except.ok.inj (h.symm.trans hset')
    obtain rfl := List.append_cancel_left heq
    exact hnot hf
  have htext := readText_templateAt ht hu hplace hplace' hne hbytes
    (hdiffer.hasBytes hreached hbytes)
  rw [Sources.read, Sources.read, htext]

end Settings

/-! ## A stencil that names itself -/

namespace Sketch

def withStencils : Settings :=
  { settings false [] "/last".toList with stencilDirName := ['s'] }

def including (name : Text) : Text :=
  "\x7b% include \"".toList ++ name ++ "\" %\x7d".toList

/-- A project whose template names a stencil that names itself.  No one names the other
stencil. -/
def cyclic : FileTree :=
  ⟨.dir [(['t'], .dir [(['a'], file (including "s/x".toList)),
    (['s'], .dir [(['x'], file (including "s/x".toList)), (['y'], file ['B'])])])], []⟩

def garbled : FileTree :=
  cyclic.putAt [['t'], ['s'], ['y']] (.file [255] FileTree.defaultMode 0)

theorem hasSlot_other : cyclic.root.HasSlot [['t'], ['s'], ['y']] :=
  ⟨by simp, rfl⟩

theorem sound_cyclic : cyclic.Sound := by
  refine ⟨Node.Sound.of_names [['t']] rfl (by decide) (by decide) ?_, rfl⟩
  refine List.forall_mem_singleton.mpr
    (Node.Sound.of_names [['a'], ['s']] rfl (by decide) (by decide) ?_)
  refine List.forall_mem_cons.mpr ⟨.file, List.forall_mem_singleton.mpr ?_⟩
  refine Node.Sound.of_names [['x'], ['y']] rfl (by decide) (by decide) ?_
  exact List.forall_mem_cons.mpr ⟨.file, List.forall_mem_singleton.mpr .file⟩

theorem sound_garbled : garbled.Sound :=
  ⟨sound_cyclic.root.put (by decide) .file, rfl⟩

theorem differInBytes_garbled {P : Place → Prop} (hP : P [['t'], ['s'], ['y']]) :
    DifferInBytes P cyclic garbled := by
  refine ⟨rfl, fun p => ?_⟩
  have hitem : garbled.root.item? p = if p = [['t'], ['s'], ['y']] then
      some (.file [255] FileTree.defaultMode 0) else cyclic.root.item? p :=
    Node.item?_put_leaf hasSlot_other (by decide) fun _ => Node.item?_file_of_ne_nil
  by_cases hp : p = [['t'], ['s'], ['y']]
  · rw [if_pos hp] at hitem
    subst hp
    exact .inr ⟨hP, _, _, _, _, rfl, hitem⟩
  · rw [if_neg hp] at hitem
    exact .inl hitem

def passesOther : Bool :=
  match Environment.create cyclic withStencils with
  | .error _ => false
  | .ok env => env.isLoaded "s/x".toList && !env.isLoaded "s/y".toList &&
    decide (withStencils.templateAt [['s'], ['y']] ∈ env.stencils)

theorem exists_cyclic : ∃ env, Environment.create cyclic withStencils = .ok env ∧
    env.isLoaded "s/x".toList = true ∧ env.isLoaded "s/y".toList = false ∧
    withStencils.templateAt [['s'], ['y']] ∈ env.stencils := by
  have hcheck : passesOther = true := by decide +kernel
  unfold passesOther at hcheck
  split at hcheck
  case h_1 => cases hcheck
  case h_2 env henv =>
    simp only [Bool.and_eq_true, Bool.not_eq_true', decide_eq_true_eq] at hcheck
    exact ⟨env, henv, hcheck.1.1, hcheck.1.2, hcheck.2⟩

end Sketch

namespace Environment

variable {s : Settings} {t : FileTree}

/-- Loading ends and reads no file twice, in whatever order the names are taken; what is
loaded are the files that the templates reach; and an environment is made in the same
way, or refused for the same reason, whatever is in the other stencils. -/
theorem loads_what_templates_reach (s : Settings) (ht : t.Sound) :
    (∀ set, s.discover t = .ok set → Sources.LoadsOnce t s.engineOptions set) ∧
    (∀ env, create t s = .ok env → s.discover t = .ok ⟨env.templates, env.stencils⟩ ∧
      ∀ name, env.isLoaded name = true ↔
        ∃ f, Sources.Reached t s.engineOptions ⟨env.templates, env.stencils⟩ f ∧ f.name = name) ∧
    ∀ u, u.Sound → DifferInBytes (s.Unreached t) t u → create u s = create t s := by
  refine ⟨fun set => s.loadsOnce ht, fun env henv => ?_, fun u hu hdiffer => ?_⟩
  · obtain ⟨⟨templates, stencils⟩, hset, hload, -, htemplates, hstencils, -⟩ := create_spec henv
    obtain rfl : env.templates = templates := htemplates
    obtain rfl : env.stencils = stencils := hstencils
    obtain ⟨l, hturns, hdone, hsources⟩ := ((s.loadsOnce ht hset).loaded _).mp hload
    have hconsistent := (Sources.Loading.consistent_start t s.engineOptions _).turns hturns
    refine ⟨hset, fun name => ?_⟩
    rw [isLoaded, ← hsources]
    exact hconsistent.has_iff hdone (s.toldByName_of_discover ht hset)
  · have hdiscover := s.discover_of_sameShape ht hu hdiffer.sameShape
    unfold create
    rw [hdiscover]
    cases hset : s.discover t with
    | error e => rfl
    | ok set =>
        have hload : Sources.load u s.engineOptions set = Sources.load t s.engineOptions set :=
          Sources.load_congr fun f hf => s.read_of_differInBytes ht hu hset hdiffer hf
        simp only [bind, Except.bind, hload]

/-- A stencil that names itself is loaded; another one can be anything. -/
theorem loads_what_templates_reach_cycle : Sketch.cyclic.Sound ∧ Sketch.garbled.Sound ∧
    DifferInBytes (Sketch.withStencils.Unreached Sketch.cyclic) Sketch.cyclic Sketch.garbled ∧
    ∃ env, create Sketch.cyclic Sketch.withStencils = .ok env ∧
      create Sketch.garbled Sketch.withStencils = .ok env ∧
      (∃ f, Sources.Reached Sketch.cyclic Sketch.withStencils.engineOptions
        ⟨env.templates, env.stencils⟩ f ∧ f.name = "s/x".toList) := by
  obtain ⟨env, henv, hself, hother, hmem⟩ := Sketch.exists_cyclic
  obtain ⟨-, hloaded, hinert⟩ :=
    loads_what_templates_reach Sketch.withStencils Sketch.sound_cyclic
  obtain ⟨hset, hreached⟩ := hloaded env henv
  have hunreached : Sketch.withStencils.Unreached Sketch.cyclic [['t'], ['s'], ['y']] := by
    refine ⟨[['t']], _, [['s'], ['y']], rfl, hset, hmem, fun hstencil => ?_, rfl⟩
    have hyes := (hreached "s/y".toList).mpr ⟨_, hstencil, rfl⟩
    rw [hother] at hyes
    cases hyes
  have hdiffer := Sketch.differInBytes_garbled hunreached
  exact ⟨Sketch.sound_cyclic, Sketch.sound_garbled, hdiffer, env, henv,
    (hinert _ Sketch.sound_garbled hdiffer).trans henv, (hreached _).mp hself⟩

end Environment

end TemplateTree
