import TemplateTree.Proofs.Files.Resolving
import TemplateTree.Proofs.Run.Jobs
import TemplateTree.Settings.Basic
import Mathlib.Data.List.Forall2

/-!
# Reading settings

Settings are read if and only if their document holds a record in which nothing is refused.
They say then what the record says, with each path resolved.
-/

namespace TemplateTree.Settings

variable {settings : Settings} {r : SettingsRecord} {anchor path p : Path} {files : FileTree}
  {patterns : List Text} {globs : List Glob}

/-! ## Patterns -/

theorem compileEach_eq_ok_iff : compileEach patterns = .ok globs ↔
    List.Forall₂ (fun text glob => Glob.compile text = .ok glob) patterns globs := by
  induction patterns generalizing globs with
  | nil =>
      rw [compileEach, List.forall₂_nil_left_iff, Except.ok.injEq, eq_comm]
  | cons text patterns ih =>
      rw [compileEach]
      constructor
      · intro h
        split at h
        case h_1 => cases h
        case h_2 glob hglob =>
          obtain ⟨rest, hrest, h⟩ := except_bind_eq_ok h
          cases h
          exact .cons hglob (ih.mp hrest)
      · intro h
        cases h with
        | cons hglob hrest =>
            rw [hglob]
            dsimp only
            rw [ih.mpr hrest]
            rfl

theorem compilePatterns_eq_ok_iff : compilePatterns patterns = .ok globs ↔
    globs ≠ [] ∧ List.Forall₂ (fun text glob => Glob.compile text = .ok glob) patterns globs := by
  rw [compilePatterns]
  by_cases hnil : patterns = []
  · subst hnil
    simp [List.forall₂_nil_left_iff]
  · rw [if_neg hnil, compileEach_eq_ok_iff]
    refine ⟨fun h => ⟨?_, h⟩, And.right⟩
    rintro rfl
    exact hnil (List.forall₂_nil_right_iff.mp h)

/-! ## Records -/

/-- Settings that say what a record says in which nothing is refused, with each path
resolved. -/
structure Realizes (settings : Settings) (r : SettingsRecord) (anchor : Path) : Prop where
  rootDir : settings.rootDir = Path.resolve anchor r.rootDir
  templateDir : settings.templateDir = Path.resolve settings.rootDir r.templateDir
  outputDir : settings.outputDir = Path.resolve settings.rootDir r.outputDir
  lastRunFile : settings.lastRunFile = Path.resolve settings.rootDir r.lastRunFile
  includedSuffixes : settings.includedSuffixes = r.includedSuffixes
  patterns_ne_nil : settings.includedPatterns ≠ []
  patterns : List.Forall₂ (fun text glob => Glob.compile text = .ok glob)
    settings.includedSuffixes settings.includedPatterns
  newline : Newline.parse? r.newline = some settings.newline
  markers : settings.markers = ⟨r.markerNewFile, r.markerContent⟩
  validate : settings.markers.validate = .ok ()
  stencilDirName : settings.stencilDirName = r.stencilDirName
  single : '/' ∉ settings.stencilDirName ∧ '\\' ∉ settings.stencilDirName
  createDirectories : settings.createDirectories = r.createDirectories
  globalNamespace : settings.globalNamespace = r.globalNamespace
  engineOptions : settings.engineOptions = r.engineOptions
  engineExtensions : settings.engineExtensions = r.engineExtensions
  customModules : settings.customModules = r.customModules
  postCommands : settings.postCommands = r.postCommands

theorem any_separator_eq_false_iff {name : Text} :
    name.any (fun c => c = '/' || c = '\\') = false ↔ '/' ∉ name ∧ '\\' ∉ name := by
  simp only [List.any_eq_false, Bool.or_eq_true, decide_eq_true_eq, not_or]
  constructor
  · exact fun h => ⟨fun hmem => (h _ hmem).1 rfl, fun hmem => (h _ hmem).2 rfl⟩
  · rintro ⟨hslash, hback⟩ c hc
    exact ⟨fun heq => hslash (heq ▸ hc), fun heq => hback (heq ▸ hc)⟩

theorem ofRecord_eq_ok_iff : ofRecord r anchor = .ok settings ↔ settings.Realizes r anchor := by
  constructor
  · intro h
    unfold ofRecord at h
    obtain ⟨globs, hglobs, h⟩ := except_bind_eq_ok h
    cases hnewline : Newline.parse? r.newline with
    | none => simp [hnewline, bind, Except.bind] at h
    | some newline =>
        cases hmarkers : Markers.validate ⟨r.markerNewFile, r.markerContent⟩ with
        | error e => simp [hnewline, hmarkers, bind, Except.bind] at h
        | ok _ =>
            simp only [hnewline, hmarkers, bind, Except.bind, pure, Except.pure] at h
            split at h
            case isTrue => cases h
            case isFalse hsingle =>
              obtain ⟨hne, hcompiled⟩ := compilePatterns_eq_ok_iff.mp hglobs
              cases h
              exact {
                rootDir := rfl, templateDir := rfl, outputDir := rfl, lastRunFile := rfl
                includedSuffixes := rfl, patterns_ne_nil := hne, patterns := hcompiled
                newline := hnewline, markers := rfl, validate := hmarkers
                stencilDirName := rfl
                single := any_separator_eq_false_iff.mp (by simpa using hsingle)
                createDirectories := rfl, globalNamespace := rfl, engineOptions := rfl
                engineExtensions := rfl, customModules := rfl, postCommands := rfl }
  · intro h
    have hglobs : compilePatterns r.includedSuffixes = .ok settings.includedPatterns :=
      compilePatterns_eq_ok_iff.mpr ⟨h.patterns_ne_nil, h.includedSuffixes ▸ h.patterns⟩
    have hmarkers : Markers.validate ⟨r.markerNewFile, r.markerContent⟩ = .ok () :=
      h.markers ▸ h.validate
    have hsingle := any_separator_eq_false_iff.mpr (h.stencilDirName ▸ h.single)
    unfold ofRecord
    simp only [hglobs, h.newline, hmarkers, hsingle, bind, Except.bind, pure, Except.pure,
      Bool.false_eq_true, if_false]
    rw [← h.rootDir, ← h.templateDir, ← h.outputDir, ← h.lastRunFile, ← h.includedSuffixes,
      ← h.stencilDirName, ← h.createDirectories, ← h.globalNamespace, ← h.engineOptions,
      ← h.engineExtensions, ← h.customModules, ← h.postCommands, ← h.markers]

/-- The paths of settings. -/
def paths (settings : Settings) : List Path :=
  [settings.rootDir, settings.templateDir, settings.outputDir, settings.lastRunFile]

theorem Realizes.isResolved (h : settings.Realizes r anchor)
    (hanchor : Path.isAbsolute anchor = true) : ∀ p ∈ settings.paths, Path.IsResolved p := by
  have hroot : Path.IsResolved settings.rootDir := h.rootDir ▸ Path.isResolved_resolve hanchor
  have hbelow (p : Path) : Path.IsResolved (Path.resolve settings.rootDir p) :=
    Path.isResolved_resolve hroot.absolute
  simp only [paths, List.forall_mem_cons, List.not_mem_nil, false_imp_iff, implies_true, and_true]
  rw [h.templateDir, h.outputDir, h.lastRunFile]
  exact ⟨hroot, hbelow _, hbelow _, hbelow _⟩

/-! ## Documents -/

/-- A file holds a record, and lies in a directory against which the record is resolved. -/
structure HoldsRecord (files : FileTree) (path : Path) (r : SettingsRecord) (anchor : Path) :
    Prop where
  hasFile : files.hasFile path = true
  record : ∃ content, files.readText path = .ok content ∧
    (DocumentFormat.forPath path).load path content
      (SettingsRecord.ofOutline (DocumentFormat.forPath path).allowsPositional) = .ok r
  anchor : ∃ p, files.canonical path = .ok p ∧ anchor = (Path.parent? p).getD ['/']

theorem read_eq_ok_iff : read files path = .ok settings ↔
    ∃ r anchor, HoldsRecord files path r anchor ∧ settings.Realizes r anchor := by
  simp only [← ofRecord_eq_ok_iff]
  unfold read
  constructor
  · intro h
    cases hfile : files.hasFile path with
    | false => simp [hfile, bind, Except.bind] at h
    | true =>
        cases htext : files.readText path with
        | error e => simp [hfile, htext, bind, Except.bind] at h
        | ok content =>
            cases hrecord : (DocumentFormat.forPath path).load path content
                (SettingsRecord.ofOutline (DocumentFormat.forPath path).allowsPositional) with
            | error e => simp [hfile, htext, hrecord, bind, Except.bind] at h
            | ok r =>
                cases hplace : files.canonical path with
                | error e => simp [hfile, htext, hrecord, hplace, bind, Except.bind] at h
                | ok p =>
                    refine ⟨r, _, ⟨hfile, ⟨content, htext, hrecord⟩, p, hplace, rfl⟩, ?_⟩
                    simpa [hfile, htext, hrecord, hplace, bind, Except.bind] using h
  · rintro ⟨r, _, ⟨hfile, ⟨content, htext, hrecord⟩, p, hplace, rfl⟩, h⟩
    simpa [hfile, htext, hrecord, hplace, bind, Except.bind] using h

theorem HoldsRecord.isAbsolute (h : HoldsRecord files path r anchor) :
    Path.isAbsolute anchor = true := by
  obtain ⟨p, hp, rfl⟩ := h.anchor
  obtain ⟨place, -, hplace⟩ := except_bind_eq_ok hp
  obtain rfl : FileTree.placeText place = p := by
    injection hplace
  cases hparent : Path.parent? (FileTree.placeText place) with
  | none => rfl
  | some dir =>
      rw [Option.getD_some, (Path.names_of_parent? hparent).2]
      rfl

theorem isResolved_of_read (h : read files path = .ok settings) :
    ∀ p ∈ settings.paths, Path.IsResolved p := by
  obtain ⟨r, anchor, hholds, hrealizes⟩ := read_eq_ok_iff.mp h
  exact hrealizes.isResolved hholds.isAbsolute

end TemplateTree.Settings
