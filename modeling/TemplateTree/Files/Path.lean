import TemplateTree.Text.Basic

/-!
# Paths

A path is the text that names a file.  It is read as a lead, which is a slash,
a dot or nothing, and the segments after it.  Empty segments and dots name
nothing; they are kept where a path is only cut and go where it is resolved.
-/

namespace TemplateTree

abbrev Path := Text

inductive PathStep where
  | root | here | up
  | name (t : Text)
  deriving DecidableEq, Repr

namespace Path

def isAbsolute (p : Path) : Bool :=
  p.head? = some '/'

def startsHere (p : Path) : Bool :=
  match p with
  | ['.'] => true
  | '.' :: '/' :: _ => true
  | _ => false

/-- The slash or dot that a path starts with. -/
def lead (p : Path) : Text :=
  if isAbsolute p then ['/'] else if startsHere p then ['.'] else []

/-- The segments after the lead. -/
def segments (p : Path) : List Text :=
  Text.splitWhere (· = '/') (p.drop (lead p).length)

/-- A segment that names nothing. -/
def isIdle (s : Text) : Bool :=
  s = [] || s = ['.']

def trimSegments (ss : List Text) : List Text :=
  (ss.reverse.dropWhile isIdle).reverse

def assemble (start : Text) (ss : List Text) : Path :=
  start ++ Text.joinWith ['/'] ss

def trimmed (p : Path) : Path :=
  assemble (lead p) (trimSegments (segments p))

/-- The path of the directory that holds a path, `none` for the root and for
the empty path. -/
def parent? (p : Path) : Option Path :=
  match trimSegments (segments p) with
  | [] => if lead p = ['.'] then some [] else none
  | s :: ss => some (assemble (lead p) (trimSegments (s :: ss).dropLast))

def segmentStep (s : Text) : PathStep :=
  if s = ['.', '.'] then .up else .name s

def steps (p : Path) : List PathStep :=
  let first := if isAbsolute p then [PathStep.root] else if startsHere p then [.here] else []
  first ++ ((segments p).filter (fun s => !isIdle s)).map segmentStep

def stepText : PathStep → Text
  | .root => ['/']
  | .here => ['.']
  | .up => ['.', '.']
  | .name t => t

/-- A path below another; an absolute path stands for itself. -/
def join (base p : Path) : Path :=
  if isAbsolute p then p
  else if base = [] || base.getLast? = some '/' then base ++ p
  else base ++ '/' :: p

def normalized (p : Path) : Path :=
  (steps p).foldl (fun base s => join base (stepText s)) []

/-- A path resolved against a base directory, without dots. -/
def resolve (base p : Path) : Path :=
  normalized (join base p)

/-- The segments of a path after its first `k` segments that name something. -/
def afterNames : Nat → List Text → List Text
  | 0, ss => ss
  | _ + 1, [] => []
  | k + 1, s :: ss => if isIdle s then afterNames (k + 1) ss else afterNames k ss

/-- What a path adds to another that it starts with, step by step. -/
def dropBase? (base p : Path) : Option Path :=
  let b := steps base
  if b = [] then some (trimmed p)
  else if b.isPrefixOf (steps p) then
    -- Cut off segment by segment, so that dots inside what is left stay.
    let named := b.filter (fun s => s ≠ .root && s ≠ .here)
    some (assemble [] (trimSegments ((afterNames named.length (segments p)).dropWhile isIdle)))
  else none

def fileName? (p : Path) : Option Text :=
  match (steps p).getLast? with
  | some (.name t) => some t
  | _ => none

/-- The text after the last dot of a name, unless the name has no other dot and
starts with it. -/
def nameExtension? (name : Text) : Option Text :=
  let back := name.reverse
  let ext := back.takeWhile (· ≠ '.')
  match back.dropWhile (· ≠ '.') with
  | [] => none
  | [_] => none
  | _ :: _ :: _ => some ext.reverse

def extension? (p : Path) : Option Text :=
  (fileName? p).bind nameExtension?

/-- Whether a path has an extension, letter case apart. -/
def hasExtension (p : Path) (ext : Text) : Bool :=
  (extension? p).any (Text.sameIgnoringCase ext)

def isContained (p : Path) : Bool :=
  (steps p).all fun s => match s with
    | .name _ => true
    | .here => true
    | _ => false

/-- A path as shown to a reader who works in a directory: relative to it where
possible. -/
def shown (current p : Path) : Text :=
  match dropBase? current p with
  | some [] => ['.']
  | some r => r
  | none => p

end Path

end TemplateTree
