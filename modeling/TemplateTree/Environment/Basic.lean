import TemplateTree.Discovery.Basic
import TemplateTree.Environment.Location
import TemplateTree.Source.References
import TemplateTree.Template.Render

/-!
# Environments

An environment holds every renderable template and the stencils that these name,
directly or through others, all parsed; and what extensions added.  It is a
value that is made once and then only read.
-/

namespace TemplateTree

/-- Sources by the names of their templates, in the order of the names. -/
abbrev Sources := ByName Source

/-- Loaded templates and what extensions added. -/
structure Environment where
  library : Library
  sources : Sources
  /-- The renderable templates in walk order. -/
  templates : List TemplateFile
  /-- The stencils in walk order, loaded or not. -/
  stencils : List TemplateFile
  escape : Bool
  globals : Namespace
  registry : Registry

namespace Sources

def read (files : FileTree) (o : EngineOptions) (f : TemplateFile) : Except Failure Source :=
  match files.readText f.path with
  | .ok t => .ok (Source.ofText o t)
  | .error e => .error (.io f.path ("Failed to read template: " ++ e.message))

/-- Read files that are not among the sources yet; the names of those read come
with the last one first. -/
def readNew (files : FileTree) (o : EngineOptions) :
    Sources → List TemplateFile → Except Failure (Sources × List Text)
  | sources, [] => .ok (sources, [])
  | sources, f :: rest =>
    if sources.has f.name then readNew files o sources rest
    else do
      let source ← read files o f
      let (all, names) ← readNew files o (sources.put f.name source) rest
      return (all, names ++ [f.name])

def stencilsNamed (stencils : List TemplateFile) (t : Text) : List TemplateFile :=
  (Source.references t).filterMap fun name => stencils.find? (fun f => f.name = name)

/-- Read the stencils that pending sources name, and those that these name, and
so on; `fuel` bounds the number of sources. -/
def close (files : FileTree) (o : EngineOptions) (stencils : List TemplateFile) :
    Nat → Sources → List Text → Except Failure Sources
  | 0, sources, _ => .ok sources
  | _ + 1, sources, [] => .ok sources
  | fuel + 1, sources, name :: pending =>
    match sources.lookup name with
    | none => close files o stencils fuel sources pending
    | some source => do
      let (all, names) ← readNew files o sources (stencilsNamed stencils source.processed)
      close files o stencils fuel all (names ++ pending)

def load (files : FileTree) (o : EngineOptions) (set : TemplateSet) : Except Failure Sources := do
  let (sources, _) ← readNew files o [] set.templates
  -- Every turn takes up one source, and there are no more of these than files.
  close files o set.stencils (set.templates.length + set.stencils.length + 1) sources
    sources.names.reverse

/-- The source line of a processed line of a source; where there is no such
source a line stands for itself. -/
def sourceLine (sources : Sources) (name : Text) (line : Nat) : Nat :=
  match sources.lookup name with
  | some source => source.sourceLine line
  | none => line

/-- An error met while loading, with the file that its message names and the
line there. -/
def loadFailure (sources : Sources) (e : TemplateError) : Failure :=
  let message := e.chain
  let file := (Location.template? message).getD "<templates>"
  .template file ((Location.line? message).map (sourceLine sources file)) message

end Sources

namespace Environment

def namespaceName : Text := "globals"

/-- Load every template below the template directory. -/
def create (files : FileTree) (settings : Settings) : Except Failure Environment := do
  let set ← settings.discover files
  if set.templates.isEmpty then throw (.noTemplates settings.templateDir)
  match settings.stencilName? with
  | some name => if set.stencils.isEmpty then throw (.noStencils name settings.templateDir)
  | none => pure ()
  let sources ← Sources.load files settings.engineOptions set
  match Library.ofTexts (sources.map fun (name, source) => (name, source.processed)) with
  | .error e => throw (sources.loadFailure e)
  | .ok library =>
    return {
      library := library
      sources := sources
      templates := set.templates
      stencils := set.stencils
      escape := settings.engineOptions.autoescape
      globals := []
      registry := .empty }

def isLoaded (env : Environment) (name : Text) : Bool :=
  env.sources.has name

def loadedStencils (env : Environment) : List TemplateFile :=
  env.stencils.filter fun f => env.isLoaded f.name

def isTemplate (env : Environment) (name : Text) : Bool :=
  env.templates.any fun f => f.name = name

def hasFilter (env : Environment) (name : Text) : Bool :=
  env.registry.filters.has name

def withFilter (env : Environment) (name : Text) (f : Template.Filter) : Environment :=
  { env with registry := { env.registry with filters := env.registry.filters.put name f } }

def withFunction (env : Environment) (name : Text) (f : Template.Function) : Environment :=
  { env with registry := { env.registry with functions := env.registry.functions.put name f } }

def withTest (env : Environment) (name : Text) (f : Template.Test) : Environment :=
  { env with registry := { env.registry with tests := env.registry.tests.put name f } }

/-- Add a variable; the name of the namespace is refused. -/
def withGlobal (env : Environment) (name : Text) (v : Value) : Except Failure Environment :=
  if name = namespaceName then
    .error (.config ("`" ++ namespaceName ++ "` is reserved for the global namespace"))
  else .ok { env with globals := Namespace.insert name v env.globals }

def context (env : Environment) (ns : Namespace) : Namespace :=
  Namespace.insert namespaceName (.object ns) env.globals

/-- Where an identifier occurs: in a template, or else in the first loaded
stencil that has it. -/
def placeOf? (env : Environment) (name identifier : Text) : Option (Text × Nat) :=
  (name :: env.stencils.map TemplateFile.name).findSome? fun file =>
    ((env.sources.lookup file).bind fun s => s.findLine identifier).map fun line => (file, line)

/-- An error met while rendering a template, with the file and line it is laid
to. -/
def renderFailure (env : Environment) (name : Text) (e : TemplateError) : Failure :=
  let message := e.chain
  -- The message is all there is to go by: an arrow in it is taken for a place,
  -- whoever wrote it.
  match Location.line? message with
  | some line => .template name (some (env.sources.sourceLine name line)) message
  | none =>
    match (Location.identifier? message).bind (env.placeOf? name) with
    | some (file, line) => .template file (some line) message
    | none => .template name none message

def render (env : Environment) (name : Text) (ns : Namespace)
    (outlook : Template.Outlook := .none) : Except Failure Text :=
  match env.library.render env.registry env.escape (env.context ns) outlook name with
  | .ok t => .ok t
  | .error e => .error (env.renderFailure name e)

end Environment

end TemplateTree
