import TemplateTree.Proofs.Discovery.Canonical

/-!
# Renderable templates

A walk that passes over links and takes no directories selects every file below its
directory for which no directory on the way is excluded, if the name and the time of the
file are right, and nothing else.  So the renderable templates of a project are the files
below the template directory that match a pattern and lie outside the stencil directories.
A cutoff leaves those whose time, rounded up to seconds, is not less.
-/

namespace TemplateTree

/-- A file below a place that options select, by the names on the way there. -/
structure WalkOptions.Selects (o : WalkOptions) (t : FileTree) (root : Place)
    (names : List Text) (time : Instant) : Prop where
  ne_nil : names ≠ []
  file : ∃ bytes mode, t.root.item? (root ++ names) = some (.file bytes mode time)
  entered : ∀ x ∈ names.dropLast, x ∉ o.excludedDirs
  name : o.selectsName (names.getLastD []) = true
  time : o.selectsTime time = true

section

variable {t : FileTree} {o : WalkOptions} {dir : Path} {root : Place} {names : List Text}

theorem WalkOptions.picks_iff_selects (hdirs : o.includeDirectories = false) :
    o.Picks (t.below root) names ↔ ∃ time, o.Selects t root names time := by
  constructor
  · rintro ⟨above, name, rfl, habove, hitem⟩
    split at hitem
    case h_1 bytes mode time hfile =>
      obtain ⟨hname, hpattern, htime⟩ := hitem
      refine ⟨time, by simp, ⟨bytes, mode, hfile⟩, by simpa using habove, ?_,
        Walk.selectsTime_iff.mpr htime⟩
      simpa [WalkOptions.selectsName] using ⟨hname, hpattern⟩
    case h_2 =>
      rw [hdirs] at hitem
      cases hitem.2
    case h_3 => cases hitem
  · rintro ⟨time, hne, ⟨bytes, mode, hfile⟩, hentered, hname, htime⟩
    obtain ⟨above, name, rfl⟩ := (List.eq_nil_or_concat' names).resolve_left hne
    have hbelow : t.below root (above ++ [name]) = some (.file bytes mode time) := hfile
    refine ⟨above, name, rfl, by simpa using hentered, ?_⟩
    rw [hbelow]
    have hselected : name ∉ o.excludedFiles ∧ ∃ g ∈ o.patterns, g.takes name = true := by
      simpa [WalkOptions.selectsName] using hname
    exact ⟨hselected.1, hselected.2, Walk.selectsTime_iff.mp htime⟩

/-- What a walk finds are just the files that its options select. -/
theorem walk_of_place (ht : t.Sound) (hplace : t.place dir = .ok root)
    (hlinks : o.followLinks = false) (hdirs : o.includeDirectories = false) :
    ∃ paths, walk t dir o = .ok paths ∧ ∀ p, p ∈ paths ↔
      ∃ names time, o.Selects t root names time ∧ p = names.foldl Path.join dir := by
  obtain ⟨found, hwalk, -, hmem, -⟩ := Walk.exists_ordered (o := o) ht.root.wellNamed hplace hlinks
  refine ⟨_, hwalk, fun p => ?_⟩
  rw [List.mem_map]
  constructor
  · rintro ⟨names, hnames, rfl⟩
    obtain ⟨time, hsel⟩ := (WalkOptions.picks_iff_selects hdirs).mp ((hmem names).mp hnames)
    exact ⟨names, time, hsel, rfl⟩
  · rintro ⟨names, time, hsel, rfl⟩
    exact ⟨names, (hmem names).mpr ((WalkOptions.picks_iff_selects hdirs).mpr ⟨time, hsel⟩), rfl⟩

end

/-! ## Files that match -/

namespace Settings

variable {s : Settings} {t : FileTree} {root : Place} {names names' : List Text}
  {time time' : Instant} {cutoff : Option Nat} {files : List TemplateFile} {f : TemplateFile}

def templateAt (s : Settings) (names : List Text) : TemplateFile :=
  .ofPath s.templateDir s.stencilDirName (names.foldl Path.join s.templateDir)

/-- A renderable template below a place, by its names and time. -/
def Holds (s : Settings) (t : FileTree) (root : Place) (names : List Text) (time : Instant) :
    Prop :=
  (s.walkOptions none).Selects t root names time

def NotBefore (cutoff : Option Nat) (time : Instant) : Prop :=
  ∀ seconds, cutoff = some seconds → seconds ≤ Instant.ceilSeconds time

theorem selects_iff :
    (s.walkOptions cutoff).Selects t root names time ↔
      s.Holds t root names time ∧ NotBefore cutoff time := by
  have htime : (s.walkOptions cutoff).selectsTime time = true ↔ NotBefore cutoff time := by
    cases cutoff <;> simp [WalkOptions.selectsTime, walkOptions, NotBefore]
  constructor
  · rintro ⟨hne, hfile, hentered, hname, hsel⟩
    exact ⟨⟨hne, hfile, hentered, hname, rfl⟩, htime.mp hsel⟩
  · rintro ⟨⟨hne, hfile, hentered, hname, -⟩, hsel⟩
    exact ⟨hne, hfile, hentered, hname, htime.mpr hsel⟩

theorem Holds.isName (h : s.Holds t root names time) (ht : t.Sound) : ∀ x ∈ names, x.IsName := by
  intro x hx
  obtain ⟨bytes, mode, hfile⟩ := h.file
  exact ht.root.isName_of_mem (Option.isSome_of_eq_some hfile) (List.mem_append_right _ hx)

theorem candidates_of_place (cutoff : Option Nat) (ht : t.Sound)
    (hplace : t.place s.templateDir = .ok root) :
    ∃ files, s.candidates t cutoff = .ok files ∧ ∀ f, f ∈ files ↔
      ∃ names time, s.Holds t root names time ∧ NotBefore cutoff time ∧
        f = s.templateAt names := by
  obtain ⟨paths, hwalk, hmem⟩ :=
    walk_of_place (o := s.walkOptions cutoff) ht hplace rfl rfl
  refine ⟨paths.map (TemplateFile.ofPath s.templateDir s.stencilDirName),
    by rw [candidates, filesBelow, hwalk], fun f => ?_⟩
  rw [List.mem_map]
  constructor
  · rintro ⟨p, hp, rfl⟩
    obtain ⟨names, time, hsel, rfl⟩ := (hmem p).mp hp
    obtain ⟨hholds, htime⟩ := selects_iff.mp hsel
    exact ⟨names, time, hholds, htime, rfl⟩
  · rintro ⟨names, time, hholds, htime, rfl⟩
    exact ⟨_, (hmem _).mpr ⟨names, time, selects_iff.mpr ⟨hholds, htime⟩, rfl⟩, rfl⟩

theorem place_of_candidates (h : s.candidates t cutoff = .ok files) :
    ∃ root, t.place s.templateDir = .ok root := by
  cases hplace : t.place s.templateDir with
  | ok root => exact ⟨root, rfl⟩
  | error e =>
      have hwalk : walk t s.templateDir (s.walkOptions cutoff) =
          .error (.unreadable s.templateDir e) := by
        simp [walk, Walk.all, hplace, bind, Except.bind]
      simp [candidates, filesBelow, hwalk] at h

theorem mem_candidates_iff (ht : t.Sound) (hplace : t.place s.templateDir = .ok root)
    (h : s.candidates t cutoff = .ok files) : f ∈ files ↔
      ∃ names time, s.Holds t root names time ∧ NotBefore cutoff time ∧
        f = s.templateAt names := by
  obtain ⟨files', hfiles, hmem⟩ := candidates_of_place cutoff ht hplace
  obtain rfl : files' = files := Except.ok.inj (hfiles.symm.trans h)
  exact hmem f

theorem templateDir_ne_nil (hplace : t.place s.templateDir = .ok root) : s.templateDir ≠ [] :=
  FileTree.ne_nil_of_checkPath
    (FileTree.spotOf_eq_ok_iff.mp (FileTree.place_eq_ok_iff.mp hplace)).1

theorem name_templateAt (hplace : t.place s.templateDir = .ok root) (hne : names ≠ [])
    (h : ∀ x ∈ names, x.IsName) : (s.templateAt names).name = Text.joinWith ['/'] names :=
  TemplateFile.name_ofPath (templateDir_ne_nil hplace) hne h _

theorem names_eq_of_name_eq (hplace : t.place s.templateDir = .ok root) (hne : names ≠ [])
    (hne' : names' ≠ []) (h : ∀ x ∈ names, x.IsName) (h' : ∀ x ∈ names', x.IsName)
    (heq : (s.templateAt names).name = (s.templateAt names').name) : names = names' :=
  TemplateFile.eq_of_name_eq (templateDir_ne_nil hplace) hne hne' h h' heq

/-- The path of a template leads to its file, if it is not too long to be followed. -/
theorem Holds.spot_eq (h : s.Holds t root names time) (ht : t.Sound)
    (hplace : t.place s.templateDir = .ok root)
    (hcheck : FileTree.checkPath (s.templateAt names).path = .ok ()) :
    t.spot (s.templateAt names).path = .ok (.found (root ++ names)) := by
  obtain ⟨bytes, mode, hfile⟩ := h.file
  exact FileTree.spot_foldl_join hplace
    (Node.item?_dir_of_append (Option.isSome_of_eq_some hfile) h.ne_nil) h.ne_nil (h.isName ht)
    hcheck hfile (by simp)

/-- A renderable template that was last edited at a time. -/
def EditedAt (s : Settings) (t : FileTree) (f : TemplateFile) (time : Instant) : Prop :=
  ∃ root names, t.place s.templateDir = .ok root ∧ s.Holds t root names time ∧
    f = s.templateAt names

/-- A cutoff selects a template by the time of its last edit. -/
theorem EditedAt.mem_candidates_iff {edited : Instant} (ht : t.Sound)
    (hedited : s.EditedAt t f edited) (h : s.candidates t cutoff = .ok files) :
    f ∈ files ↔ NotBefore cutoff edited := by
  obtain ⟨root, names, hplace, hholds, rfl⟩ := hedited
  rw [Settings.mem_candidates_iff ht hplace h]
  constructor
  · rintro ⟨names', time, hholds', hnotBefore, heq⟩
    obtain rfl : names = names' := names_eq_of_name_eq hplace hholds.ne_nil hholds'.ne_nil
      (hholds.isName ht) (hholds'.isName ht) (congrArg TemplateFile.name heq)
    obtain ⟨_, _, hfile⟩ := hholds.file
    obtain ⟨_, _, hfile'⟩ := hholds'.file
    obtain ⟨-, -, rfl⟩ := Item.file.inj (Option.some.inj (hfile.symm.trans hfile'))
    exact hnotBefore
  · exact fun hnotBefore => ⟨names, edited, hholds, hnotBefore, rfl⟩

theorem exists_editedAt (ht : t.Sound) (h : s.candidates t cutoff = .ok files) (hf : f ∈ files) :
    ∃ time, s.EditedAt t f time ∧ NotBefore cutoff time := by
  obtain ⟨root, hplace⟩ := place_of_candidates h
  obtain ⟨names, time, hholds, hnotBefore, rfl⟩ := (mem_candidates_iff ht hplace h).mp hf
  exact ⟨time, ⟨root, names, hplace, hholds, rfl⟩, hnotBefore⟩

/-- The renderable templates come in the order of a walk. -/
theorem exists_ordered_of_candidates (ht : t.Sound) (hplace : t.place s.templateDir = .ok root)
    (h : s.candidates t cutoff = .ok files) : ∃ found : List (List Text),
      files = found.map s.templateAt ∧
      found.Pairwise ((t.below root).Before (s.walkOptions none).directoriesFirst) ∧
      ∀ names, names ∈ found ↔ ∃ time, s.Holds t root names time ∧ NotBefore cutoff time := by
  obtain ⟨found, hwalk, -, hmem, hordered⟩ :=
    Walk.exists_ordered (o := s.walkOptions cutoff) ht.root.wellNamed hplace rfl
  refine ⟨found, ?_, hordered, fun names => ?_⟩
  · rw [candidates, filesBelow, hwalk] at h
    rw [← Except.ok.inj h, List.map_map]
    rfl
  · rw [hmem, WalkOptions.picks_iff_selects rfl]
    exact exists_congr fun time => selects_iff

/-- A cutoff leaves the templates in their order. -/
theorem candidates_eq_filter {all : List TemplateFile} (ht : t.Sound)
    (hall : s.candidates t none = .ok all) (h : s.candidates t cutoff = .ok files) :
    files = all.filter fun f => f ∈ files := by
  obtain ⟨root, hplace⟩ := place_of_candidates hall
  obtain ⟨found, hfiles, hordered, hmem⟩ := exists_ordered_of_candidates ht hplace h
  obtain ⟨foundAll, rfl, hordered', hmem'⟩ := exists_ordered_of_candidates ht hplace hall
  have hfilter : found = foundAll.filter fun names => s.templateAt names ∈ files := by
    refine Contents.eq_of_pairwise_before hordered (hordered'.filter _) fun names => ?_
    rw [List.mem_filter, decide_eq_true_iff, hfiles, List.mem_map]
    constructor
    · intro hnames
      obtain ⟨time, hholds, -⟩ := (hmem names).mp hnames
      exact ⟨(hmem' names).mpr ⟨time, hholds, by simp [NotBefore]⟩, names, hnames, rfl⟩
    · rintro ⟨hnames, names', hnames', heq⟩
      obtain ⟨time, hholds, -⟩ := (hmem' names).mp hnames
      obtain ⟨time', hholds', -⟩ := (hmem names').mp hnames'
      obtain rfl : names' = names := names_eq_of_name_eq hplace hholds'.ne_nil hholds.ne_nil
        (hholds'.isName ht) (hholds.isName ht) (congrArg TemplateFile.name heq)
      exact hnames'
  rw [List.filter_map]
  exact hfiles.trans (congrArg _ hfilter)

end Settings

end TemplateTree
