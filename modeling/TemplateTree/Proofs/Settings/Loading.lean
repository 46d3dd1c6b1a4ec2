import TemplateTree.Proofs.Build.Effects
import TemplateTree.Proofs.Files.Making
import TemplateTree.Proofs.Settings.Reading

/-!
# Loading settings

Settings are read from the files as they are.  The directories that they name are made
then if they are not there, and no file is changed.
-/

namespace TemplateTree

open FileTree Session Job

/-- Directories are made and no time passes. -/
def Session.MadeDirs (s s' : Session) : Prop :=
  s.files.Sound → ChangesOnly (fun _ => False) s.files s'.files ∧ s'.now = s.now

theorem Session.MadeDirs.refl (s : Session) : MadeDirs s s :=
  fun hs => ⟨.refl hs, rfl⟩

theorem Session.MadeDirs.trans (s₁ s₂ s₃ : Session) (h : MadeDirs s₁ s₂) (h' : MadeDirs s₂ s₃) :
    MadeDirs s₁ s₃ := by
  intro hs
  obtain ⟨hfirst, hnow⟩ := h hs
  obtain ⟨hrest, hnow'⟩ := h' hfirst.sound
  exact ⟨hfirst.trans hrest, hnow'.trans hnow⟩

namespace Session

/-- Directories are made to which certain paths lead, the machine is not turned to, and nothing
is counted. -/
def Makes (P : Path → Prop) (s s' : Session) : Prop :=
  s.files.Sound → OnlyMakes P s.files s'.files ∧ s'.now = s.now ∧ s'.host = s.host ∧
    s'.reporter.stats = s.reporter.stats

variable {P Q : Path → Prop} {s s' : Session}

theorem Makes.refl (s : Session) : Makes P s s :=
  fun hs => ⟨.refl hs, rfl, rfl, rfl⟩

theorem Makes.trans (s₁ s₂ s₃ : Session) (h : Makes P s₁ s₂) (h' : Makes P s₂ s₃) :
    Makes P s₁ s₃ := by
  intro hs
  obtain ⟨hfirst, hnow, hhost, hstats⟩ := h hs
  obtain ⟨hrest, hnow', hhost', hstats'⟩ := h' hfirst.sound
  exact ⟨hfirst.trans hrest, hnow'.trans hnow, hhost'.trans hhost, hstats'.trans hstats⟩

theorem Makes.mono (h : Makes P s s') (hPQ : ∀ p, P p → Q p) : Makes Q s s' :=
  fun hs => ⟨(h hs).1.mono hPQ, (h hs).2⟩

theorem Makes.madeDirs (h : Makes P s s') : MadeDirs s s' :=
  fun hs => ⟨(h hs).1.changesOnly, (h hs).2.1⟩

theorem Talked.makes (h : Talked s s') : Makes P s s' := by
  obtain ⟨_, rfl⟩ := h
  exact .refl s

end Session

namespace Settings

variable {dir path : Path} {label : Text} {s s' : Session} {settings : Settings} {u : Unit}
  {e : Failure}

def directories (settings : Settings) : List Path :=
  [settings.rootDir, settings.templateDir, settings.outputDir]

/-- A path is a directory of settings, or lies above one. -/
def Names (settings : Settings) (p : Path) : Prop :=
  ∃ dir ∈ settings.directories, Path.Upwards dir p

/-! ## Making the directories -/

theorem makes_ensureDirectory (dir : Path) (label : Text) :
    Within (Makes (Path.Upwards dir)) (ensureDirectory dir label) := by
  apply (within_get Makes.refl).bind Makes.trans
  intro s
  dsimp only
  split
  · exact within_pure Makes.refl
  · split
    · exact within_throw Makes.refl
    · intro s hs
      rw [after_changeFilesInPart]
      exact ⟨onlyMakes_makeAllDirs hs, rfl, rfl, rfl⟩

theorem madeDirs_ensureDirectory (dir : Path) (label : Text) :
    Within MadeDirs (ensureDirectory dir label) :=
  fun s => (makes_ensureDirectory dir label s).madeDirs

theorem hasDir_of_ensureDirectory (hs : s.files.Sound) (hne : dir ≠ [])
    (h : ensureDirectory dir label s = .ok u s') : s'.files.hasDir dir = true := by
  obtain ⟨_, _, hget, h⟩ := bind_eq_ok h
  cases hget
  dsimp only at h
  split at h
  case isTrue hdir =>
    cases h
    exact hdir
  case isFalse =>
    split at h
    case isTrue => cases h
    case isFalse =>
      rw [changeFilesInPart_apply] at h
      split at h
      case h_1 files hmake =>
        cases h
        exact hasDir_of_makeAllDirs hs hmake hne
      case h_2 => cases h

/-- What is done once settings are read. -/
def makeDirectories (settings : Settings) : Job Settings := do
  ensureDirectory settings.rootDir "Root"
  ensureDirectory settings.templateDir "Template"
  ensureDirectory settings.outputDir "Output"
  return settings

theorem load_of_read_error (h : read s.files path = .error e) : load path s = .error e s := by
  change (Job.ofExcept (read s.files path) >>= makeDirectories) s = _
  rw [h]
  rfl

theorem load_of_read_ok (h : read s.files path = .ok settings) :
    load path s = settings.makeDirectories s := by
  change (Job.ofExcept (read s.files path) >>= makeDirectories) s = _
  rw [h]
  rfl

theorem makes_makeDirectories (settings : Settings) :
    Within (Makes settings.Names) settings.makeDirectories := by
  have hensure : ∀ dir ∈ settings.directories, ∀ label,
      Within (Makes settings.Names) (ensureDirectory dir label) := fun dir hdir label s =>
    (makes_ensureDirectory dir label s).mono fun p hp => ⟨dir, hdir, hp⟩
  apply (hensure settings.rootDir (by simp [directories]) _).bind Makes.trans
  intro _
  apply (hensure settings.templateDir (by simp [directories]) _).bind Makes.trans
  intro _
  apply (hensure settings.outputDir (by simp [directories]) _).bind Makes.trans
  exact fun _ => within_pure Makes.refl

theorem eq_of_load (hread : read s.files path = .ok settings) {loaded : Settings}
    (h : load path s = .ok loaded s') : loaded = settings := by
  rw [load_of_read_ok hread] at h
  obtain ⟨_, _, -, h⟩ := bind_eq_ok h
  obtain ⟨_, _, -, h⟩ := bind_eq_ok h
  obtain ⟨_, _, -, h⟩ := bind_eq_ok h
  cases h
  rfl

theorem madeDirs_load (path : Path) : Within MadeDirs (load path) := by
  intro s
  cases hread : read s.files path with
  | error e =>
      rw [after_of_error (load_of_read_error hread)]
      exact .refl s
  | ok settings =>
      rw [after, load_of_read_ok hread]
      exact (makes_makeDirectories settings s).madeDirs

theorem same_machine_of_load (hs : s.files.Sound) (h : load path s = .ok settings s') :
    s'.now = s.now ∧ s'.host = s.host := by
  cases hread : read s.files path with
  | error e =>
      rw [load_of_read_error hread] at h
      cases h
  | ok loaded =>
      rw [load_of_read_ok hread] at h
      obtain ⟨-, hnow, hhost, -⟩ := (makes_makeDirectories loaded).of_ok h hs
      exact ⟨hnow, hhost⟩

theorem ne_nil_of_read (h : read s.files path = .ok settings) (hdir : dir ∈ settings.directories) :
    dir ≠ [] := by
  have hpath : dir ∈ settings.paths :=
    (List.prefix_append settings.directories [settings.lastRunFile]).subset hdir
  have habsolute := (isResolved_of_read h dir hpath).absolute
  rintro rfl
  cases habsolute

/-- Once settings are loaded, all their directories are there. -/
theorem hasDir_of_mem_directories (hs : s.files.Sound) (h : load path s = .ok settings s')
    (hdir : dir ∈ settings.directories) : s'.files.hasDir dir = true := by
  obtain ⟨_, _, hget, h⟩ := bind_eq_ok h
  cases hget
  obtain ⟨_, s₁, hread, h⟩ := bind_eq_ok h
  obtain ⟨_, s₂, hroot, h⟩ := bind_eq_ok h
  obtain ⟨_, s₃, htemplate, h⟩ := bind_eq_ok h
  obtain ⟨_, s₄, houtput, h⟩ := bind_eq_ok h
  cases h
  obtain ⟨hread, rfl⟩ := ofExcept_eq_ok hread
  have hmade : ∀ {dir label s s'}, ensureDirectory dir label s = .ok () s' → MadeDirs s s' :=
    fun hensure => (madeDirs_ensureDirectory _ _).of_ok hensure
  have hs₂ := (hmade hroot hs).1.sound
  have hs₃ := (hmade htemplate hs₂).1.sound
  have hne := ne_nil_of_read hread hdir
  simp only [directories, List.mem_cons, List.not_mem_nil, or_false] at hdir
  -- a directory stays while the ones after it are made
  obtain rfl | rfl | rfl := hdir
  · have hthere := hasDir_of_ensureDirectory hs hne hroot
    exact (hmade houtput hs₃).1.hasDir hs₃ ((hmade htemplate hs₂).1.hasDir hs₂ hthere)
  · exact (hmade houtput hs₃).1.hasDir hs₃ (hasDir_of_ensureDirectory hs₂ hne htemplate)
  · exact hasDir_of_ensureDirectory hs₃ hne houtput

/-- Once settings are loaded, their output directory is there. -/
theorem hasDir_of_load (hs : s.files.Sound) (h : load path s = .ok settings s') :
    s'.files.hasDir settings.outputDir = true :=
  hasDir_of_mem_directories hs h (by simp [directories])

end Settings

end TemplateTree
