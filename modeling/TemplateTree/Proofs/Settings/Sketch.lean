import TemplateTree.Proofs.Files.Alike
import TemplateTree.Run.Plain
import TemplateTree.Settings.Basic

/-!
# Small projects

A project in the root directory, with its templates in one directory and its output in
another.  The files are as they were at the epoch, and ten seconds have passed.
-/

namespace TemplateTree.Sketch

def settings (createDirectories : Bool) (postCommands : List Text) (lastRunFile : Path) :
    Settings :=
  { rootDir := ['/']
    templateDir := "/t".toList
    outputDir := "/out".toList
    includedSuffixes := [['*']]
    includedPatterns := [⟨['*'], [.anySequence]⟩]
    stencilDirName := []
    createDirectories := createDirectories
    globalNamespace := []
    engineOptions := ⟨false, false, false⟩
    engineExtensions := []
    customModules := []
    lastRunFile := lastRunFile
    markers := .standard
    newline := .lf
    postCommands := postCommands }

def file (text : Text) : Node :=
  .file (Text.toBytes text) FileTree.defaultMode 0

def start (files : FileTree) : Session :=
  ⟨files, 10 * Instant.second, .empty, .new ⟨false⟩ .veryLow 0⟩

/-- A machine that always says the same. -/
abbrev saying (o : Template.Outlook) : Host :=
  ⟨fun _ => ⟨fun _ => o, Shell.run⟩⟩

@[simp] theorem start_files (t : FileTree) : (start t).files = t := rfl

def blank : FileTree :=
  ⟨.dir [], []⟩

theorem sound_blank : blank.Sound :=
  ⟨.dir .nil (by simp) (by simp), rfl⟩

def holds (t : FileTree) (q : Place) (bytes : Bytes) : Bool :=
  match t.root.item? q with
  | some (.file b _ _) => b = bytes
  | _ => false

theorem hasBytes_of_holds {t : FileTree} {q : Place} {bytes : Bytes}
    (h : holds t q bytes = true) : t.HasBytes q bytes := by
  unfold holds at h
  split at h
  case h_1 b mode time hfile =>
    obtain rfl : b = bytes := of_decide_eq_true h
    exact ⟨time, mode, hfile⟩
  case h_2 => cases h

end TemplateTree.Sketch
