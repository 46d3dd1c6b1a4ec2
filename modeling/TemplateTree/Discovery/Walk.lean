import TemplateTree.Discovery.Glob
import TemplateTree.Files.Tree

/-!
# Walking a directory

A walk lists what lies below a directory in one order: depth first, each level
sorted by name with its directories before or after the rest.  Symbolic links
are passed over, or followed unless they lead back to a directory on the way.
-/

namespace TemplateTree

/-- What a walk selects and in which order. -/
structure WalkOptions where
  directoriesFirst : Bool
  includeDirectories : Bool
  followLinks : Bool
  /-- Patterns for file names, of which one must take the name. -/
  patterns : List Glob
  excludedDirs : List Text
  excludedFiles : List Text
  /-- The least modification time, in whole seconds rounded up. -/
  modifiedAfter : Option Nat
  deriving DecidableEq, Repr

inductive WalkError where
  | unreadable (path : Path) (reason : FileError)
  | loop (path ancestor : Path)
  deriving DecidableEq, Repr

namespace WalkError

def path : WalkError → Path
  | unreadable p _ => p
  | loop p _ => p

def message : WalkError → Text
  | unreadable p reason =>
    "failed to read " ++ p ++ ": IO error for operation on " ++ p ++ ": " ++ reason.message
  | loop p ancestor =>
    "failed to read " ++ p ++ ": File system loop found: " ++ p ++ " points to an ancestor "
      ++ ancestor

end WalkError

/-- Something that a walk comes by. -/
structure Found where
  path : Path
  name : Text
  /-- The modification time of a regular file; a directory has none. -/
  modified : Option Instant
  deriving DecidableEq, Repr

/-- What a walk finds at and below one entry of a directory. -/
structure Branch where
  name : Text
  isDir : Bool
  found : Except WalkError (List Found)

namespace Branch

/-- Whether a branch comes before another one on its level. -/
def comesFirst (directoriesFirst : Bool) (a b : Branch) : Bool :=
  if a.isDir = b.isDir then !Text.precedes b.name a.name
  else if directoriesFirst then a.isDir else b.isDir

def insertSorted (directoriesFirst : Bool) (a : Branch) : List Branch → List Branch
  | [] => [a]
  | b :: bs =>
    if comesFirst directoriesFirst a b then a :: b :: bs
    else b :: insertSorted directoriesFirst a bs

def sorted (directoriesFirst : Bool) : List Branch → List Branch
  | [] => []
  | b :: bs => insertSorted directoriesFirst b (sorted directoriesFirst bs)

/-- What the branches of a level hold, in order, up to the first failure. -/
def gather : List Branch → Except WalkError (List Found)
  | [] => .ok []
  | b :: bs => do
    let here ← b.found
    let rest ← gather bs
    return here ++ rest

end Branch

namespace WalkOptions

def matching (patterns : List Glob) : WalkOptions :=
  ⟨false, false, false, patterns, [], [], none⟩

def selectsName (o : WalkOptions) (name : Text) : Bool :=
  !o.excludedFiles.contains name && o.patterns.any (·.takes name)

def selectsTime (o : WalkOptions) (modified : Instant) : Bool :=
  match o.modifiedAfter with
  | none => true
  | some cutoff => cutoff ≤ Instant.ceilSeconds modified

def selects (o : WalkOptions) (f : Found) : Bool :=
  match f.modified with
  | none => o.includeDirectories
  | some time => o.selectsName f.name && o.selectsTime time

end WalkOptions

namespace Walk

/-- How a walk goes on at a symbolic link, given the directories on the way
there, the link's path and name, and the place of its directory. -/
abbrev Jump := List (Place × Path) → Path → Text → Place → Text → Except WalkError (List Found)

mutual

def visit (o : WalkOptions) (jump : Jump) (above : List (Place × Path)) (path : Path)
    (place : Place) (name : Text) : Node → Except WalkError (List Found)
  | .file _ _ time => .ok [⟨Path.join path name, name, some time⟩]
  | .link target => jump above path name place target
  | .dir entries =>
    if o.excludedDirs.contains name then .ok []
    else do
      let here := Path.join path name
      let inside ← Branch.gather (Branch.sorted o.directoriesFirst
        (visitAll o jump ((place ++ [name], here) :: above) here (place ++ [name]) entries))
      return ⟨here, name, none⟩ :: inside

def visitAll (o : WalkOptions) (jump : Jump) (above : List (Place × Path)) (path : Path)
    (place : Place) : List (Text × Node) → List Branch
  | [] => []
  | (name, node) :: rest =>
    ⟨name, node.isDir, visit o jump above path place name node⟩
      :: visitAll o jump above path place rest

end

def below (o : WalkOptions) (jump : Jump) (above : List (Place × Path)) (path : Path)
    (place : Place) (entries : List (Text × Node)) : Except WalkError (List Found) :=
  Branch.gather (Branch.sorted o.directoriesFirst
    (visitAll o jump ((place, path) :: above) path place entries))

def passOver : Jump := fun _ _ _ _ _ => .ok []

/-- Follow a symbolic link, and at most `fuel` more on the way down. -/
def followLink (t : FileTree) (o : WalkOptions) : Nat → Jump
  | 0, _, _, _, _, _ => .ok []
  | fuel + 1, above, path, name, place, target =>
    let here := Path.join path name
    let start : Place := if Path.isAbsolute target then [] else place
    -- The link at hand is one of those that a path may go through.
    match FileTree.follow t.root true (FileTree.maxLinks - 1) start (FileTree.wayOf target) with
    | .error e => .error (.unreadable here e)
    | .ok spot =>
      match t.nodeAt spot with
      | .error e => .error (.unreadable here e)
      | .ok (.file _ _ time) => .ok [⟨here, name, some time⟩]
      | .ok (.link _) => .ok []
      | .ok (.dir entries) =>
        -- A link to a directory on the way here would be followed without end.
        match above.find? (fun a => a.1 = spot.place) with
        | some a => .error (.loop here a.2)
        | none =>
          if o.excludedDirs.contains name then .ok []
          else do
            let inside ← below o (followLink t o fuel) above here spot.place entries
            return ⟨here, name, none⟩ :: inside

mutual

def countDirs : Node → Nat
  | .dir entries => countDirsIn entries + 1
  | _ => 0

def countDirsIn : List (Text × Node) → Nat
  | [] => 0
  | (_, n) :: rest => countDirs n + countDirsIn rest

end

def all (t : FileTree) (root : Path) (o : WalkOptions) : Except WalkError (List Found) :=
  match t.place root with
  | .error e => .error (.unreadable root e)
  | .ok place =>
    match t.root.get? place with
    | some (.dir entries) =>
      -- The directories that the links on one way lead to are all different, so
      -- their number bounds the links.
      let jump := if o.followLinks then followLink t o (countDirs t.root + 1) else passOver
      below o jump [] root place entries
    | _ => .ok []

end Walk

def walk (t : FileTree) (root : Path) (o : WalkOptions) : Except WalkError (List Path) := do
  return ((← Walk.all t root o).filter o.selects).map Found.path

end TemplateTree
