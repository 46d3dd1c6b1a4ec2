import TemplateTree.Settings.Record
import TemplateTree.Discovery.Glob
import TemplateTree.Output.Newline
import TemplateTree.Output.Section
import TemplateTree.Run.Session

/-!
# Settings

Settings are read from a document, checked, and made to hold absolute paths.
The directories they name exist once they are loaded.
-/

namespace TemplateTree

/-- Checked settings; every path is absolute. -/
structure Settings where
  rootDir : Path
  templateDir : Path
  outputDir : Path
  includedSuffixes : List Text
  includedPatterns : List Glob
  /-- The name of stencil directories; empty if there are none. -/
  stencilDirName : Text
  createDirectories : Bool
  globalNamespace : Namespace
  engineOptions : EngineOptions
  engineExtensions : List Text
  customModules : List Text
  lastRunFile : Path
  markers : Markers
  newline : Newline
  postCommands : List Text

namespace Settings

def stencilName? (s : Settings) : Option Text :=
  if s.stencilDirName = [] then none else some s.stencilDirName

def compileEach : List Text → Except Failure (List Glob)
  | [] => .ok []
  | p :: ps =>
    match Glob.compile p with
    | .error e =>
      .error (.config
        ("Invalid pattern \"" ++ p ++ "\" in `included_suffixes`: " ++ e.message))
    | .ok g => do return g :: (← compileEach ps)

def compilePatterns (patterns : List Text) : Except Failure (List Glob) :=
  if patterns = [] then
    .error (.configuration "`included_suffixes` is empty, so no template would ever match"
      (some "Add a glob pattern such as \"*.tmpl\""))
  else compileEach patterns

/-- Check the values of a record and resolve its paths against the directory of
the document. -/
def ofRecord (r : SettingsRecord) (anchor : Path) : Except Failure Settings := do
  let rootDir := Path.resolve anchor r.rootDir
  let patterns ← compilePatterns r.includedSuffixes
  let newline ← match Newline.parse? r.newline with
    | some n => .ok n
    | none =>
      .error (.configuration ("Unknown newline style \"" ++ r.newline ++ "\"")
        (some "Use \"lf\", \"crlf\" or \"native\""))
  let markers : Markers := ⟨r.markerNewFile, r.markerContent⟩
  match markers.validate with
    | .ok () => pure ()
    | .error e => .error (.config e.message)
  if r.stencilDirName.any (fun c => c = '/' || c = '\\') then
    .error (.config
      ("Stencil directory name \"" ++ r.stencilDirName ++ "\" must be a single path segment"))
  return {
    rootDir := rootDir
    templateDir := Path.resolve rootDir r.templateDir
    outputDir := Path.resolve rootDir r.outputDir
    includedSuffixes := r.includedSuffixes
    includedPatterns := patterns
    stencilDirName := r.stencilDirName
    createDirectories := r.createDirectories
    globalNamespace := r.globalNamespace
    engineOptions := r.engineOptions
    engineExtensions := r.engineExtensions
    customModules := r.customModules
    lastRunFile := Path.resolve rootDir r.lastRunFile
    markers := markers
    newline := newline
    postCommands := r.postCommands }

/-- Make a directory unless it exists; `label` says what it is for. -/
def ensureDirectory (dir : Path) (label : Text) : Job Unit := do
  let files := (← get).files
  if files.hasDir dir then return ()
  else if files.holds dir then throw (.config (label ++ " directory " ++ dir ++ " is a file"))
  else
    Job.changeFilesInPart dir ("Failed to create " ++ Text.lowerAscii label ++ " directory: ")
      fun s => s.files.makeAllDirs dir

/-- Read the settings document at a path and check it; no file is touched. -/
def read (files : FileTree) (path : Path) : Except Failure Settings := do
  if !files.hasFile path then
    .error (.configuration ("Configuration file " ++ path ++ " not found")
      (some "Pass the path to a JSON or YAML settings document"))
  let content ← match files.readText path with
    | .ok t => .ok t
    | .error e => .error (.config ("Failed to read " ++ path ++ ": " ++ e.message))
  let format := DocumentFormat.forPath path
  let record ← format.load path content (SettingsRecord.ofOutline format.allowsPositional)
  -- Relative paths start where the document really is, links followed.
  let absolute ← match files.canonical path with
    | .ok p => .ok p
    | .error e => .error (.config ("Failed to resolve " ++ path ++ ": " ++ e.message))
  ofRecord record ((Path.parent? absolute).getD ['/'])

/-- Load the settings document at a path and make the directories it names. -/
def load (path : Path) : Job Settings := do
  let s ← Job.ofExcept (read (← get).files path)
  ensureDirectory s.rootDir "Root"
  ensureDirectory s.templateDir "Template"
  ensureDirectory s.outputDir "Output"
  return s

end Settings

structure GlobalOverride where
  values : Namespace

namespace GlobalOverride

def load (files : FileTree) (path : Path) : Except Failure GlobalOverride := do
  let content ← match files.readText path with
    | .ok t => .ok t
    | .error e => .error (.config ("Failed to read " ++ path ++ ": " ++ e.message))
  return ⟨← (DocumentFormat.forPath path).load path content Outline.namedValues⟩

/-- An override given as a JSON object or as the path of a document. -/
def parse (files : FileTree) (text : Text) : Except Failure GlobalOverride :=
  let trimmed := Text.trim text
  -- What begins with a brace is never taken for a path.
  if trimmed.head? = some '\x7b' then
    match (Json.read trimmed).decode Outline.namedValues with
    | .ok values => .ok ⟨values⟩
    | .error e =>
      .error (.configuration ("Invalid global namespace literal: " ++ e.message)
        (some "Pass a JSON object such as '\x7b\"name\": \"value\"\x7d'"))
  else if files.hasFile trimmed then load files trimmed
  else
    .error (.config
      ("Global namespace override \"" ++ trimmed ++ "\" is neither a JSON object nor a file"))

end GlobalOverride

end TemplateTree
