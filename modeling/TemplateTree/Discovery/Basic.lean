import TemplateTree.Discovery.Walk
import TemplateTree.Settings.Basic

/-!
# Discovery

The files below the template directory are renderable templates, which match a
pattern and lie outside every stencil directory, and stencils, which lie inside
one.
-/

namespace TemplateTree

/-- Whether a template is rendered on its own or only included. -/
inductive TemplateKind where
  | template | stencil
  deriving DecidableEq, Repr

/-- A file below the template directory. -/
structure TemplateFile where
  /-- The path from the template directory, by which templates refer to it. -/
  name : Text
  path : Path
  kind : TemplateKind
  deriving DecidableEq, Repr

namespace TemplateFile

/-- The names of a path relative to a directory, with slashes between. -/
def nameBelow (dir path : Path) : Text :=
  let relative := (Path.dropBase? dir path).getD path
  Text.joinWith ['/'] ((Path.steps relative).filterMap fun s => match s with
    | .name n => some n
    | _ => none)

/-- Whether a segment of a name is the name of stencil directories; the empty
name stands for none. -/
def isStencilName (name stencil : Text) : Bool :=
  stencil ≠ [] && (Text.splitBy ['/'] name).contains stencil

def ofPath (dir : Path) (stencil : Text) (path : Path) : TemplateFile :=
  let name := nameBelow dir path
  ⟨name, path, if isStencilName name stencil then .stencil else .template⟩

def isStencil (f : TemplateFile) : Bool :=
  f.kind = .stencil

end TemplateFile

/-- What a pass over the template directory finds, each list in walk order. -/
structure TemplateSet where
  templates : List TemplateFile
  stencils : List TemplateFile
  deriving DecidableEq, Repr

def WalkError.toFailure (e : WalkError) : Failure :=
  .io e.path e.message

namespace Settings

/-- How renderable templates are selected, with a cutoff for modification
times. -/
def walkOptions (s : Settings) (modifiedAfter : Option Nat) : WalkOptions :=
  { WalkOptions.matching s.includedPatterns with
    modifiedAfter := modifiedAfter
    excludedDirs := s.stencilName?.toList }

def filesBelow (s : Settings) (files : FileTree) (o : WalkOptions) :
    Except Failure (List TemplateFile) :=
  match walk files s.templateDir o with
  | .ok paths => .ok (paths.map (TemplateFile.ofPath s.templateDir s.stencilDirName))
  | .error e => .error e.toFailure

/-- The renderable templates modified at or after a cutoff. -/
def candidates (s : Settings) (files : FileTree) (modifiedAfter : Option Nat) :
    Except Failure (List TemplateFile) :=
  s.filesBelow files (s.walkOptions modifiedAfter)

/-- All templates and stencils.  Stencils are taken whatever their names are. -/
def discover (s : Settings) (files : FileTree) : Except Failure TemplateSet := do
  let templates ← s.candidates files none
  match s.stencilName? with
  | none => return ⟨templates, []⟩
  | some _ =>
    -- Here no directory is left out, and every name is taken.
    let all ← s.filesBelow files (.matching [⟨['*'], [.anySequence]⟩])
    return ⟨templates, all.filter TemplateFile.isStencil⟩

end Settings

end TemplateTree
