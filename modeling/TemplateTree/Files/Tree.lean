import TemplateTree.Files.Path
import TemplateTree.Text.Utf8
import TemplateTree.Text.Decimal

/-!
# File trees

A file tree is a value.  Reading looks into it, writing returns a new one, and
each refusal is one of a few errors.  Paths are followed name by name; symbolic
links are followed up to a fixed number, so that loops end.
-/

namespace TemplateTree

/-- A point in time, in nanoseconds from the epoch. -/
abbrev Instant := Int

namespace Instant

def second : Int := 1000000000

/-- Whole seconds, rounded down; zero before the epoch. -/
def floorSeconds (t : Instant) : Nat :=
  (t / second).toNat

/-- Whole seconds, rounded up; zero before the epoch. -/
def ceilSeconds (t : Instant) : Nat :=
  if t < 0 then 0 else (t / second).toNat + (if t % second = 0 then 0 else 1)

end Instant

/-- A node of a file tree; the entries of a directory are in the order of their
names. -/
inductive Node where
  | file (bytes : Bytes) (mode : Nat) (modified : Instant)
  | link (target : Path)
  | dir (entries : List (Text × Node))
  deriving Inhabited

/-- A place in a file tree: the names on the way from the root. -/
abbrev Place := List Text

/-- Why an operation on files is refused. -/
inductive FileError where
  | notFound | alreadyExists | notDirectory | isDirectory | notEmpty | nameTooLong | tooManyLinks
  | nulInName | notText
  deriving DecidableEq, Repr

def FileError.message : FileError → Text
  | notFound => "No such file or directory (os error 2)"
  | alreadyExists => "File exists (os error 17)"
  | notDirectory => "Not a directory (os error 20)"
  | isDirectory => "Is a directory (os error 21)"
  | notEmpty => "Directory not empty (os error 39)"
  | nameTooLong => "File name too long (os error 36)"
  | tooManyLinks => "Too many levels of symbolic links (os error 40)"
  | nulInName => "file name contained an unexpected NUL byte"
  | notText => "stream did not contain valid UTF-8"

namespace Node

/-- Put an entry among entries in order, in place of the one of its name. -/
def putEntry (name : Text) (node : Node) : List (Text × Node) → List (Text × Node)
  | [] => [(name, node)]
  | (n, m) :: rest =>
    match Text.order name n with
    | .lt => (name, node) :: (n, m) :: rest
    | .eq => (name, node) :: rest
    | .gt => (n, m) :: putEntry name node rest

def get? : Node → Place → Option Node
  | n, [] => some n
  | .dir es, x :: xs =>
    match es.lookup x with
    | some n => get? n xs
    | none => none
  | _, _ :: _ => none

/-- A tree with a node put at a place whose directory exists. -/
def put (new : Node) : Place → Node → Node
  | [], _ => new
  | [x], .dir es => .dir (putEntry x new es)
  | x :: y :: xs, .dir es =>
    match es.lookup x with
    | some n => .dir (putEntry x (put new (y :: xs) n) es)
    | none => .dir es
  | _ :: _, n => n

def erase : Place → Node → Node
  | [], n => n
  | [x], .dir es => .dir (es.filter (fun e => e.1 ≠ x))
  | x :: y :: xs, .dir es =>
    match es.lookup x with
    | some n => .dir (putEntry x (erase (y :: xs) n) es)
    | none => .dir es
  | _ :: _, n => n

def isDir : Node → Bool
  | .dir _ => true
  | _ => false

def isFile : Node → Bool
  | .file .. => true
  | _ => false

def isLink : Node → Bool
  | .link _ => true
  | _ => false

end Node

/-- A file tree and the current directory. -/
structure FileTree where
  root : Node
  current : Place

namespace FileTree

/-- The segments by which a path is followed; a slash at the end demands a
directory. -/
def wayOf (p : Path) : List Text :=
  let names := (Text.splitWhere (· = '/') p).filter (· ≠ [])
  if p.getLast? = some '/' && names ≠ [] then names ++ [['.']] else names

def placeText (p : Place) : Path :=
  '/' :: Text.joinWith ['/'] p

def maxLinks : Nat := 40

def maxNameBytes : Nat := 255

def maxPathBytes : Nat := 4095

/-- Where a path leads: to a node, or to a free name in a directory. -/
inductive Spot where
  | found (place : Place)
  | free (place : Place)
  deriving DecidableEq, Repr

def Spot.place : Spot → Place
  | .found p => p
  | .free p => p

/-- Follow a way from a directory; `jump` follows the way on from a symbolic
link, and `last` tells whether a link in last place is followed. -/
def followWith (jump : Place → List Text → Except FileError Spot) (root : Node) (last : Bool)
    (place : Place) : List Text → Except FileError Spot
  | [] => .ok (.found place)
  | s :: rest =>
    if s = ['.'] then followWith jump root last place rest
    else if s = ['.', '.'] then followWith jump root last place.dropLast rest
    else if (Text.toBytes s).length > maxNameBytes then .error .nameTooLong
    else
      match root.get? (place ++ [s]) with
      | none => if rest = [] then .ok (.free (place ++ [s])) else .error .notFound
      | some (.dir _) => followWith jump root last (place ++ [s]) rest
      | some (.file ..) =>
        if rest = [] then .ok (.found (place ++ [s])) else .error .notDirectory
      | some (.link target) =>
        if rest = [] && !last then .ok (.found (place ++ [s]))
        else if target = [] then .error .notFound
        -- The target takes the place of the link; what was left of the way follows.
        else jump (if Path.isAbsolute target then [] else place) (wayOf target ++ rest)

/-- Follow a way with at most `links` symbolic links. -/
def follow (root : Node) (last : Bool) : Nat → Place → List Text → Except FileError Spot
  | 0 => followWith (fun _ _ => .error .tooManyLinks) root last
  | links + 1 => followWith (follow root last links) root last

def checkPath (p : Path) : Except FileError Unit :=
  if p.contains (Char.ofNat 0) then .error .nulInName
  else if p = [] then .error .notFound
  else if (Text.toBytes p).length > maxPathBytes then .error .nameTooLong
  else .ok ()

def spotOf (t : FileTree) (last : Bool) (p : Path) (way : List Text) : Except FileError Spot := do
  checkPath p
  follow t.root last maxLinks (if Path.isAbsolute p then [] else t.current) way

def spot (t : FileTree) (p : Path) : Except FileError Spot :=
  t.spotOf true p (wayOf p)

def nodeAt (t : FileTree) : Spot → Except FileError Node
  | .found place => ((t.root.get? place).map Except.ok).getD (.error .notFound)
  | .free _ => .error .notFound

/-- The place of the existing node that a path leads to. -/
def place (t : FileTree) (p : Path) : Except FileError Place := do
  match ← t.spot p with
  | .found place => return place
  | .free _ => throw .notFound

def node (t : FileTree) (p : Path) : Except FileError Node := do
  t.nodeAt (← t.spot p)

/-- The node that a path names, links in last place not followed. -/
def nodeItself (t : FileTree) (p : Path) : Except FileError Node := do
  t.nodeAt (← t.spotOf false p (wayOf p))

def holds (t : FileTree) (p : Path) : Bool :=
  (t.node p).toOption.isSome

def hasDir (t : FileTree) (p : Path) : Bool :=
  (t.node p).toOption.any Node.isDir

def hasFile (t : FileTree) (p : Path) : Bool :=
  (t.node p).toOption.any Node.isFile

def readBytes (t : FileTree) (p : Path) : Except FileError Bytes := do
  match ← t.node p with
  | .file bytes _ _ => return bytes
  | _ => throw .isDirectory

def readText (t : FileTree) (p : Path) : Except FileError Text := do
  match Text.ofBytes? (← t.readBytes p) with
  | some text => return text
  | none => throw .notText

/-- The time a file was modified.  A directory counts as just modified. -/
def modified (t : FileTree) (now : Instant) (p : Path) : Except FileError Instant := do
  match ← t.node p with
  | .file _ _ time => return time
  | _ => return now

/-- The path of a file without links, dots and relative parts. -/
def canonical (t : FileTree) (p : Path) : Except FileError Path := do
  return placeText (← t.place p)

def putAt (t : FileTree) (place : Place) (n : Node) : FileTree :=
  { t with root := n.put place t.root }

def defaultMode : Nat := 0o644

/-- Whether a path names a directory by its form: it ends in a slash or in a
dot segment. -/
def namesDir (p : Path) : Bool :=
  p.getLast? = some '/' ||
    (match (wayOf p).getLast? with
    | some s => s = ['.'] || s = ['.', '.']
    | none => true)

def wayToParent (p : Path) : List Text :=
  ((Text.splitWhere (· = '/') p).filter (· ≠ [])).dropLast

def write (t : FileTree) (now : Instant) (p : Path) (bytes : Bytes) :
    Except FileError FileTree := do
  if namesDir p && p ≠ [] then
    -- No file has such a path, but the errors on the way to it come first.
    let above ← t.nodeAt (← t.spotOf true p (wayToParent p))
    throw (if above.isDir then .isDirectory else .notDirectory)
  else
    match ← t.spot p with
    | .free place => return t.putAt place (.file bytes defaultMode now)
    | .found place =>
      match t.root.get? place with
      | some (.file _ mode _) => return t.putAt place (.file bytes mode now)
      | _ => throw .isDirectory

def makeDir (t : FileTree) (p : Path) : Except FileError FileTree := do
  checkPath p
  match ((Text.splitWhere (· = '/') p).filter (· ≠ [])).getLast? with
  | none => throw .alreadyExists
  | some name =>
    let above ← t.spotOf true p (wayToParent p)
    let dir ← t.nodeAt above
    if !dir.isDir then throw .notDirectory
    else if name = ['.'] || name = ['.', '.'] then throw .alreadyExists
    else
      match ← t.spotOf false p (wayToParent p ++ [name]) with
      | .found _ => throw .alreadyExists
      | .free place => return t.putAt place (.dir [])

/-- Make a directory and the missing ones above it; `fuel` bounds the number of
directories.  A refusal comes with the tree that it leaves. -/
def makeDirs (t : FileTree) : Nat → Path → Except (FileError × FileTree) FileTree
  | 0, _ => .error (.notFound, t)
  | fuel + 1, p =>
    if p = [] then .ok t
    else
      match t.makeDir p with
      | .ok t' => .ok t'
      | .error .notFound =>
        match Path.parent? p with
        | none => .error (.notFound, t)
        | some above =>
          match t.makeDirs fuel above with
          | .error e => .error e
          | .ok t' =>
            match t'.makeDir p with
            | .ok t'' => .ok t''
            -- A path that ends in two dots is there as soon as those above it are.
            | .error e => if t'.hasDir p then .ok t' else .error (e, t')
      | .error e => if t.hasDir p then .ok t else .error (e, t)

def makeAllDirs (t : FileTree) (p : Path) : Except (FileError × FileTree) FileTree :=
  t.makeDirs (p.length + 1) p

def ownerExecute : Nat := 0o100

def markExecutable (t : FileTree) (p : Path) : Except FileError FileTree := do
  match t.root.get? (← t.place p) with
  | some (.file bytes mode time) =>
    return t.putAt (← t.place p) (.file bytes (mode ||| ownerExecute) time)
  | _ => return t

end FileTree

end TemplateTree
