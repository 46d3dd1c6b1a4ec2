import TemplateTree.Environment.Basic

/-!
# Writing sections

The files that sections describe are written below the output directory.  All
directories are there, or are made, before the first file is written.
-/

namespace TemplateTree

namespace Job

/-- See to it that a directory exists; it is made only if `create` is set. -/
def prepareDirectory (dir : Path) (create : Bool) : Job Unit := do
  if (← get).files.hasDir dir then return ()
  else if !create then throw (.missingDirectory dir)
  else
    changeFilesInPart dir "Failed to create directory: " fun s => s.files.makeAllDirs dir
    directoryCreated dir

/-- Write a text with the line endings that its path calls for; a script may be
executed by its owner. -/
def writeFile (path : Path) (body : Text) (newline : Newline) : Job Unit := do
  let bytes := Text.toBytes ((newline.forPath path).apply body)
  changeFiles path "Failed to write file: " fun s => s.files.write s.now path bytes
  if Path.hasExtension path "sh" then
    changeFiles path "Failed to set permissions: " fun s => s.files.markExecutable path
  else return ()

def prepareParents (create : Bool) (targets : List Path) : Job Unit :=
  targets.forM fun target =>
    match Path.parent? target with
    | some dir => prepareDirectory dir create
    | none => pure ()

def writeSection (settings : Settings) (s : Section) : Job Unit := do
  let target := Path.join settings.outputDir s.destination
  writeFile target s.body settings.newline
  fileSaved target

/-- Write sections below the output directory; the number of files is
returned. -/
def writeSections (settings : Settings) (sections : List Section) : Job Nat := do
  prepareParents settings.createDirectories
    (sections.map fun s => Path.join settings.outputDir s.destination)
  sections.forM (writeSection settings)
  return sections.length

end Job

def Settings.namespaceWith (settings : Settings) (overrides : Option Namespace) : Namespace :=
  match overrides with
  | some o => Namespace.merge settings.globalNamespace o
  | none => settings.globalNamespace

def Settings.sectionsOf (settings : Settings) (name text : Text) :
    Except Failure (List Section) :=
  match Section.split settings.markers text with
  | .ok sections => .ok sections
  | .error e => .error (.malformed name e.message)

/-- Render a template and write the files that its text describes; nothing is
written unless the whole text is well formed. -/
def Environment.renderTemplate (env : Environment) (settings : Settings) (name : Text)
    (overrides : Option Namespace) : Job RunStats := do
  Job.templateStarted name
  let outlook ← Job.outlook
  let text ← Job.ofExcept (env.render name (settings.namespaceWith overrides) outlook)
  let sections ← Job.ofExcept (settings.sectionsOf name text)
  let saved ← Job.writeSections settings sections
  return ⟨1, saved⟩

end TemplateTree
