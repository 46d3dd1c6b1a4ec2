import TemplateTree.Proofs.Build.Runs
import TemplateTree.Proofs.Discovery.Kinds
import TemplateTree.Proofs.Environment.Unreached

/-!
# Templates and stencils apart

The files below the template directory are parted into templates and stencils, but for a
file that bears the name of the stencil directories and lies in none of them.  Such a file
is a stencil by its name; if a pattern takes it, it is rendered on its own as well.
-/

namespace TemplateTree

open Settings

namespace Settings

variable {s : Settings} {t : FileTree} {root : Place} {names names' : List Text}
  {files : List TemplateFile} {f : TemplateFile} {cutoff : Option Nat} {set : TemplateSet}

/-- A file that is a stencil by its own name only. -/
def Misplaced (s : Settings) (t : FileTree) (root : Place) (f : TemplateFile) : Prop :=
  ∃ names, HasFileAt t root names ∧ s.IsNamesake names ∧ f = s.templateAt names

/-- Templates and stencils are apart but for misplaced files: in what is discovered, in what
a run selects, and in what is accepted by name. -/
structure Partition (s : Settings) (t : FileTree) (root : Place) (set : TemplateSet) : Prop where
  discovered : s.discover t = .ok set
  overlap : ∀ f, f ∈ set.templates ∧ f ∈ set.stencils ↔ ∃ names, HasFileAt t root names ∧
    s.IsNamesake names ∧ s.Matches names ∧ f = s.templateAt names
  kind_of_templates : ∀ f ∈ set.templates, (f.isStencil = true ↔ s.Misplaced t root f)
  kind_of_candidates : ∀ cutoff files, s.candidates t cutoff = .ok files → ∀ f ∈ files,
    (f.isStencil = true ↔ s.Misplaced t root f)
  stencil : ∀ names, HasFileAt t root names → s.stencilDirName ∈ names →
    set.stencils.count (s.templateAt names) = 1
  template : ∀ names, HasFileAt t root names → s.stencilDirName ∉ names → s.Matches names →
    set.templates.count (s.templateAt names) = 1
  rendered : ∀ (g : Generator) (onlyModified : Bool) (overrides : Option Namespace)
    (start : Session) (stats : RunStats) (stop : Session), g.settings = s → start.files = t →
      g.renderAll onlyModified overrides start = .ok stats stop →
        ∃ files, g.selected t onlyModified = .ok files ∧
          stats.templatesProcessed = files.length ∧
          ∀ f ∈ files, f.isStencil = true → s.Misplaced t root f
  refused : ∀ g : Generator, g.environment.MadeFrom t s → ∀ names, HasFileAt t root names →
    s.stencilDirName ∈ names → ¬ (s.IsNamesake names ∧ s.Matches names) →
      ∀ overrides start, g.render (s.templateAt names).name overrides start =
        .error (.config ("\"" ++ (s.templateAt names).name ++ "\" is not a renderable template"))
          start

theorem mem_candidates_none_iff (ht : t.Sound) (hplace : t.place s.templateDir = .ok root)
    (henabled : s.stencilDirName ≠ []) (h : s.candidates t none = .ok files) : f ∈ files ↔
      ∃ names, HasFileAt t root names ∧ s.stencilDirName ∉ names.dropLast ∧ s.Matches names ∧
        f = s.templateAt names := by
  rw [mem_candidates_iff ht hplace h]
  constructor
  · rintro ⟨names, time, hholds, -, rfl⟩
    obtain ⟨hfile, houtside, hmatches⟩ := (holds_iff henabled).mp ⟨time, hholds⟩
    exact ⟨names, hfile, houtside, hmatches, rfl⟩
  · rintro ⟨names, hfile, houtside, hmatches, rfl⟩
    obtain ⟨time, hholds⟩ := (holds_iff henabled).mpr ⟨hfile, houtside, hmatches⟩
    exact ⟨names, time, hholds, by simp [NotBefore], rfl⟩

theorem mem_stencils_iff (ht : t.Sound) (hplace : t.place s.templateDir = .ok root)
    (henabled : s.stencilDirName ≠ []) (h : s.discover t = .ok set) : f ∈ set.stencils ↔
      ∃ names, HasFileAt t root names ∧ s.stencilDirName ∈ names ∧ f = s.templateAt names := by
  rw [(discover_spec ht hplace h).2]
  constructor
  · rintro ⟨names, time, hholds, rfl⟩
    obtain ⟨hfile, hmem⟩ := (holdsStencil_iff ht hplace henabled).mp ⟨time, hholds⟩
    exact ⟨names, hfile, hmem, rfl⟩
  · rintro ⟨names, hfile, hmem, rfl⟩
    obtain ⟨time, hholds⟩ := (holdsStencil_iff ht hplace henabled).mpr ⟨hfile, hmem⟩
    exact ⟨names, time, hholds, rfl⟩

theorem HasFileAt.names_eq (ht : t.Sound) (hplace : t.place s.templateDir = .ok root)
    (h : HasFileAt t root names) (h' : HasFileAt t root names')
    (heq : s.templateAt names = s.templateAt names') : names = names' :=
  names_eq_of_name_eq hplace h.1 h'.1 (h.isName ht) (h'.isName ht) (congrArg TemplateFile.name heq)

/-- What a run selects is a stencil just when it is misplaced. -/
theorem isStencil_iff_misplaced (ht : t.Sound) (hplace : t.place s.templateDir = .ok root)
    (henabled : s.stencilDirName ≠ []) (h : s.candidates t cutoff = .ok files) (hf : f ∈ files) :
    f.isStencil = true ↔ s.Misplaced t root f := by
  obtain ⟨names, time, hholds, -, rfl⟩ := (mem_candidates_iff ht hplace h).mp hf
  obtain ⟨hfile, houtside, -⟩ := (holds_iff henabled).mp ⟨time, hholds⟩
  rw [isStencil_templateAt_iff hplace henabled hfile.1 (hfile.isName ht)]
  constructor
  · intro hmem
    exact ⟨names, hfile, (isNamesake_iff hfile.1).mpr ⟨hmem, houtside⟩, rfl⟩
  · rintro ⟨names', hfile', hnamesake, heq⟩
    obtain rfl := hfile.names_eq ht hplace hfile' heq
    exact ((isNamesake_iff hfile.1).mp hnamesake).1

theorem isTemplate_iff {env : Environment} (ht : t.Sound)
    (hplace : t.place s.templateDir = .ok root) (henabled : s.stencilDirName ≠ [])
    (hmade : env.MadeFrom t s) (hfile : HasFileAt t root names) :
    env.isTemplate (s.templateAt names).name = true ↔
      s.stencilDirName ∉ names.dropLast ∧ s.Matches names := by
  rw [Environment.isTemplate, List.any_eq_true]
  constructor
  · rintro ⟨f, hf, hname⟩
    obtain ⟨names', hfile', houtside, hmatches, rfl⟩ :=
      (mem_candidates_none_iff ht hplace henabled hmade.templates).mp hf
    obtain rfl : names' = names := names_eq_of_name_eq hplace hfile'.1 hfile.1 (hfile'.isName ht)
      (hfile.isName ht) (of_decide_eq_true hname)
    exact ⟨houtside, hmatches⟩
  · rintro ⟨houtside, hmatches⟩
    refine ⟨s.templateAt names, ?_, decide_eq_true rfl⟩
    exact (mem_candidates_none_iff ht hplace henabled hmade.templates).mpr
      ⟨names, hfile, houtside, hmatches, rfl⟩

theorem exists_discover (ht : t.Sound) (hplace : t.place s.templateDir = .ok root) :
    ∃ set, s.discover t = .ok set := by
  obtain ⟨templates, htemplates, -⟩ := candidates_of_place none ht hplace
  obtain ⟨paths, hwalk, -⟩ := walk_of_place (o := stencilOptions) ht hplace rfl rfl
  unfold discover
  rw [htemplates]
  cases s.stencilName? with
  | none => exact ⟨_, rfl⟩
  | some name =>
      rw [stencilOptions] at hwalk
      simp [filesBelow, hwalk, bind, Except.bind, pure, Except.pure]

theorem nodup_of_discover (ht : t.Sound) (hplace : t.place s.templateDir = .ok root)
    (h : s.discover t = .ok set) : set.templates.Nodup ∧ set.stencils.Nodup := by
  refine ⟨nodup_of_filesBelow ht hplace rfl (discover_spec ht hplace h).1, ?_⟩
  unfold discover at h
  obtain ⟨templates, -, h⟩ := except_bind_eq_ok h
  split at h
  case h_1 =>
    cases h
    exact List.nodup_nil
  case h_2 =>
    obtain ⟨all, hall, h⟩ := except_bind_eq_ok h
    cases h
    exact (nodup_of_filesBelow ht hplace rfl hall).filter _

theorem misplaced_of_renderAll {g : Generator} {onlyModified : Bool}
    {overrides : Option Namespace} {start stop : Session} {stats : RunStats} (ht : t.Sound)
    (hplace : t.place s.templateDir = .ok root) (henabled : s.stencilDirName ≠ [])
    (hsettings : g.settings = s) (hfiles : start.files = t)
    (h : g.renderAll onlyModified overrides start = .ok stats stop) :
    ∃ files, g.selected t onlyModified = .ok files ∧ stats.templatesProcessed = files.length ∧
      ∀ f ∈ files, f.isStencil = true → s.Misplaced t root f := by
  subst hsettings hfiles
  obtain ⟨files, hselected, hcount, -⟩ := Generator.renderAll_eq_ok h
  refine ⟨files, hselected, hcount, fun f hf hkind => ?_⟩
  exact (isStencil_iff_misplaced ht hplace henabled hselected hf).mp hkind

theorem render_of_not_isTemplate {g : Generator} {name : Text} {overrides : Option Namespace}
    {start : Session} (h : g.environment.isTemplate name = false) :
    g.render name overrides start =
      .error (.config ("\"" ++ name ++ "\" is not a renderable template")) start := by
  rw [Generator.render, if_neg (by simp [h])]
  rfl

/-- Every file of a project is told to be a template or a stencil, and to be but one of
them unless it is misplaced. -/
theorem exists_partition (ht : t.Sound) (hplace : t.place s.templateDir = .ok root)
    (henabled : s.stencilDirName ≠ []) : ∃ set, s.Partition t root set := by
  obtain ⟨set, hset⟩ := exists_discover ht hplace
  have htemplates := (discover_spec ht hplace hset).1
  obtain ⟨honce, honce'⟩ := nodup_of_discover ht hplace hset
  refine ⟨set, ?_⟩
  constructor
  case discovered => exact hset
  case overlap =>
    intro f
    rw [mem_candidates_none_iff ht hplace henabled htemplates,
      mem_stencils_iff ht hplace henabled hset]
    constructor
    · -- a name stands for one place only
      rintro ⟨⟨names, hfile, houtside, hmatches, rfl⟩, names', hfile', hmem, heq⟩
      obtain rfl := hfile.names_eq ht hplace hfile' heq
      exact ⟨names, hfile, (isNamesake_iff hfile.1).mpr ⟨hmem, houtside⟩, hmatches, rfl⟩
    · rintro ⟨names, hfile, hnamesake, hmatches, rfl⟩
      obtain ⟨hmem, houtside⟩ := (isNamesake_iff hfile.1).mp hnamesake
      exact ⟨⟨names, hfile, houtside, hmatches, rfl⟩, names, hfile, hmem, rfl⟩
  case kind_of_templates =>
    exact fun f hf => isStencil_iff_misplaced ht hplace henabled htemplates hf
  case kind_of_candidates =>
    exact fun cutoff files h f hf => isStencil_iff_misplaced ht hplace henabled h hf
  case stencil =>
    intro names hfile hmem
    apply List.count_eq_one_of_mem honce'
    exact (mem_stencils_iff ht hplace henabled hset).mpr ⟨names, hfile, hmem, rfl⟩
  case template =>
    intro names hfile houtside hmatches
    apply List.count_eq_one_of_mem honce
    refine (mem_candidates_none_iff ht hplace henabled htemplates).mpr
      ⟨names, hfile, fun hmem => ?_, hmatches, rfl⟩
    exact houtside (List.mem_of_mem_dropLast hmem)
  case rendered =>
    intro g onlyModified overrides start stats stop hsettings hfiles h
    exact misplaced_of_renderAll ht hplace henabled hsettings hfiles h
  case refused =>
    intro g hmade names hfile hmem hnot overrides start
    apply render_of_not_isTemplate
    rw [Bool.eq_false_iff]
    intro haccepted
    obtain ⟨houtside, hmatches⟩ := (isTemplate_iff ht hplace henabled hmade hfile).mp haccepted
    exact hnot ⟨(isNamesake_iff hfile.1).mpr ⟨hmem, houtside⟩, hmatches⟩

end Settings

namespace Sketch

/-- A project with a file that is named as its stencil directory is. -/
def withNamesake : FileTree :=
  ⟨.dir [(['t'], .dir [(['a'], file ['A']), (['d'], .dir [(['s'], file ['B'])]),
    (['s'], .dir [(['x'], file ['C'])])])], []⟩

theorem sound_withNamesake : withNamesake.Sound := by
  refine ⟨Node.Sound.of_names [['t']] rfl (by decide) (by decide) ?_, rfl⟩
  refine List.forall_mem_singleton.mpr
    (Node.Sound.of_names [['a'], ['d'], ['s']] rfl (by decide) (by decide) ?_)
  refine List.forall_mem_cons.mpr ⟨.file, List.forall_mem_cons.mpr ⟨?_, ?_⟩⟩
  · refine Node.Sound.of_names [['s']] rfl (by decide) (by decide) ?_
    exact List.forall_mem_singleton.mpr .file
  · refine List.forall_mem_singleton.mpr ?_
    refine Node.Sound.of_names [['x']] rfl (by decide) (by decide) ?_
    exact List.forall_mem_singleton.mpr .file

theorem place_withNamesake : withNamesake.place withStencils.templateDir = .ok [['t']] := by
  decide

theorem exists_partition_namesake : withNamesake.Sound ∧
    withNamesake.place withStencils.templateDir = .ok [['t']] ∧
    withStencils.stencilDirName ≠ [] ∧
    ∃ set, withStencils.Partition withNamesake [['t']] set ∧
      ∃ f, f ∈ set.templates ∧ f ∈ set.stencils := by
  refine ⟨sound_withNamesake, place_withNamesake, by decide, ?_⟩
  obtain ⟨set, h⟩ := exists_partition sound_withNamesake place_withNamesake (by decide)
  refine ⟨set, h, withStencils.templateAt [['d'], ['s']], (h.overlap _).mpr ?_⟩
  exact ⟨[['d'], ['s']], ⟨by decide, Text.toBytes ['B'], FileTree.defaultMode, 0, rfl⟩,
    ⟨[['d']], rfl, by decide⟩, ⟨⟨['*'], [.anySequence]⟩, by decide, by decide⟩, rfl⟩

end Sketch

end TemplateTree
