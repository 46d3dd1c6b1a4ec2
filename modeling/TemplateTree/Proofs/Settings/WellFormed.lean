import TemplateTree.Proofs.Settings.Loading
import TemplateTree.Proofs.Settings.Sketch

/-!
# What loaded settings hold

Settings that are loaded say what their document says: each path is read below the directory
to which it belongs, every pattern is compiled, and what is refused is not there.  The
directories are made that are missing, and nothing else is done to the files.
-/

namespace TemplateTree

open FileTree

namespace Settings

variable {path : Path} {s s' : Session} {settings : Settings}

/-- Whatever the document and the files, settings that are loaded are well formed. -/
theorem wellFormed_of_load (hs : s.files.Sound) (h : load path s = .ok settings s') :
    ∃ r anchor, HoldsRecord s.files path r anchor ∧
      Path.ResolvesTo anchor r.rootDir settings.rootDir ∧
      Path.ResolvesTo settings.rootDir r.templateDir settings.templateDir ∧
      Path.ResolvesTo settings.rootDir r.outputDir settings.outputDir ∧
      Path.ResolvesTo settings.rootDir r.lastRunFile settings.lastRunFile ∧
      settings.includedSuffixes = r.includedSuffixes ∧ settings.includedPatterns ≠ [] ∧
      List.Forall₂ (fun text glob => Glob.compile text = .ok glob)
        settings.includedSuffixes settings.includedPatterns ∧
      settings.markers.validate = .ok () ∧
      '/' ∉ settings.stencilDirName ∧ '\\' ∉ settings.stencilDirName ∧
      (∀ dir ∈ settings.directories, s'.files.hasDir dir = true) ∧
      OnlyMakes settings.Names s.files s'.files := by
  obtain ⟨settings', hread⟩ : ∃ settings', read s.files path = .ok settings' := by
    cases hread : read s.files path with
    | ok settings' => exact ⟨settings', rfl⟩
    | error e =>
        rw [load_of_read_error hread] at h
        cases h
  obtain rfl := eq_of_load hread h
  obtain ⟨r, anchor, hholds, hrealizes⟩ := read_eq_ok_iff.mp hread
  have hanchor := hholds.isAbsolute
  have hroot : Path.ResolvesTo anchor r.rootDir settings.rootDir :=
    (Path.resolvesTo_iff hanchor).mpr hrealizes.rootDir.symm
  have hbelow : ∀ {p q}, q = Path.resolve settings.rootDir p →
      Path.ResolvesTo settings.rootDir p q :=
    fun heq => (Path.resolvesTo_iff hroot.absolute).mpr heq.symm
  have hmade : OnlyMakes settings.Names s.files s'.files := by
    rw [load_of_read_ok hread] at h
    exact ((makes_makeDirectories settings).of_ok h hs).1
  exact ⟨r, anchor, hholds, hroot, hbelow hrealizes.templateDir, hbelow hrealizes.outputDir,
    hbelow hrealizes.lastRunFile, hrealizes.includedSuffixes, hrealizes.patterns_ne_nil,
    hrealizes.patterns, hrealizes.validate, hrealizes.single.1, hrealizes.single.2,
    fun dir hdir => hasDir_of_mem_directories hs h hdir, hmade⟩

end Settings

namespace Sketch

def dotted : FileTree :=
  let document :=
    "\x7b\"root_dir\": \"./p/.\", \"template_dir\": \"\", ".toList ++
    "\"output_dir\": \"/c/./p/a/../out\", \"included_suffixes\": [\"*.c\", \"?\"]\x7d".toList
  ⟨.dir [(['c'], .dir [(['d'], file document)])], []⟩

theorem sound_dotted : dotted.Sound := by
  refine ⟨Node.Sound.of_names [['c']] rfl (by decide) (by decide) ?_, rfl⟩
  refine List.forall_mem_singleton.mpr (Node.Sound.of_names [['d']] rfl (by decide) (by decide) ?_)
  exact List.forall_mem_singleton.mpr .file

def loadsDotted : Bool :=
  match Settings.load "/c/d".toList (start dotted) with
  | .ok settings s => settings.paths = ["/c/p".toList, "/c/p".toList, "/c/p/a/../out".toList,
      "/c/p/.last_run".toList] &&
      s.files.root.item? [['c'], ['p'], ['a']] = some .dir
  | .error _ _ => false

theorem exists_loadsDotted : ∃ settings s,
    Settings.load "/c/d".toList (start dotted) = .ok settings s ∧
    settings.paths = ["/c/p".toList, "/c/p".toList, "/c/p/a/../out".toList,
      "/c/p/.last_run".toList] ∧
    s.files.root.item? [['c'], ['p'], ['a']] = some .dir := by
  have hcheck : loadsDotted = true := by decide +kernel
  unfold loadsDotted at hcheck
  split at hcheck
  case h_1 settings s hload =>
    simp only [Bool.and_eq_true, decide_eq_true_eq] at hcheck
    exact ⟨settings, s, hload, hcheck⟩
  case h_2 => cases hcheck

end Sketch

open Sketch in
/-- The directory on the way to the output directory is made as well. -/
theorem Settings.wellFormed_of_load_dotted : dotted.Sound ∧ ∃ settings s,
    Settings.load "/c/d".toList (start dotted) = .ok settings s ∧
    settings.paths = ["/c/p".toList, "/c/p".toList, "/c/p/a/../out".toList,
      "/c/p/.last_run".toList] ∧
    settings.includedPatterns.length = settings.includedSuffixes.length ∧
    (∀ dir ∈ settings.directories, s.files.hasDir dir = true) ∧
    s.files.root.item? [['c'], ['p'], ['a']] = some .dir ∧
    OnlyMakes settings.Names dotted s.files := by
  obtain ⟨settings, s, hload, hpaths, hbetween⟩ := exists_loadsDotted
  have hsound : (start dotted).files.Sound := sound_dotted
  obtain ⟨_, _, _, _, _, _, _, _, _, hpatterns, _, _, _, hdirs, hmade⟩ :=
    wellFormed_of_load hsound hload
  exact ⟨sound_dotted, settings, s, hload, hpaths, hpatterns.length_eq.symm, hdirs, hbetween,
    hmade⟩

end TemplateTree
