import TemplateTree.Document.Format
import TemplateTree.Source.Basic

/-!
# Settings records

The settings as a document gives them, before paths are resolved and values
checked.
-/

namespace TemplateTree

structure SettingsRecord where
  rootDir : Path
  templateDir : Path
  outputDir : Path
  includedSuffixes : List Text
  stencilDirName : Text
  createDirectories : Bool
  globalNamespace : Namespace
  engineOptions : EngineOptions
  engineExtensions : List Text
  customModules : List Text
  lastRunFile : Path
  markerNewFile : Text
  markerContent : Text
  newline : Text
  postCommands : List Text

namespace SettingsRecord

/-- What holds for the fields that a document leaves out. -/
def initial : SettingsRecord where
  rootDir := []
  templateDir := []
  outputDir := []
  includedSuffixes := []
  stencilDirName := []
  createDirectories := false
  globalNamespace := []
  engineOptions := ⟨false, false, false⟩
  engineExtensions := []
  customModules := []
  lastRunFile := ".last_run"
  markerNewFile := "### New file:"
  markerContent := "### Content:"
  newline := "native"
  postCommands := []

def engineFields : List (Field EngineOptions) :=
  [⟨"trim_blocks", false, fun n o => do return { o with trimBlocks := ← n.truth }⟩,
   ⟨"lstrip_blocks", false, fun n o => do return { o with stripIndent := ← n.truth }⟩,
   ⟨"autoescape", false, fun n o => do return { o with autoescape := ← n.truth }⟩]

def engineOptionsOf (positional : Bool) : Outline → Except DecodeError EngineOptions :=
  Field.decodeRecord engineFields positional "struct EngineOptions" ⟨false, false, false⟩

def path (n : Outline) : Except DecodeError Path :=
  n.text "path string"

def string (n : Outline) : Except DecodeError Text :=
  n.text "a string"

def fields (positional : Bool) : List (Field SettingsRecord) :=
  [⟨"root_dir", true, fun n s => do return { s with rootDir := ← path n }⟩,
   ⟨"template_dir", true, fun n s => do return { s with templateDir := ← path n }⟩,
   ⟨"output_dir", true, fun n s => do return { s with outputDir := ← path n }⟩,
   ⟨"included_suffixes", true, fun n s => do return { s with includedSuffixes := ← n.texts }⟩,
   ⟨"stencil_dir_name", false, fun n s => do return { s with stencilDirName := ← string n }⟩,
   ⟨"create_directories", false, fun n s => do return { s with createDirectories := ← n.truth }⟩,
   ⟨"global_namespace", false, fun n s => do
     return { s with globalNamespace := ← n.namedValues }⟩,
   ⟨"engine_options", false, fun n s => do
     return { s with engineOptions := ← engineOptionsOf positional n }⟩,
   ⟨"engine_extensions", false, fun n s => do return { s with engineExtensions := ← n.texts }⟩,
   ⟨"custom_modules", false, fun n s => do return { s with customModules := ← n.texts }⟩,
   ⟨"last_run_file", false, fun n s => do return { s with lastRunFile := ← path n }⟩,
   ⟨"marker_new_file", false, fun n s => do return { s with markerNewFile := ← string n }⟩,
   ⟨"marker_content", false, fun n s => do return { s with markerContent := ← string n }⟩,
   ⟨"newline", false, fun n s => do return { s with newline := ← string n }⟩,
   ⟨"post_commands", false, fun n s => do return { s with postCommands := ← n.texts }⟩]

def ofOutline (positional : Bool) : Outline → Except DecodeError SettingsRecord :=
  Field.decodeRecord (fields positional) positional "struct SettingsDocument" initial

end SettingsRecord

end TemplateTree
