import TemplateTree.Template.Names

/-!
# Frames of variables

While a template renders, each loop, each included template and each call of a
macro opens a frame with variables of its own.  A name is looked up from the
innermost frame outwards; a call hides the frames around it.
-/

namespace TemplateTree.Template

/-- What the body of a loop asked for: nothing, the next item, or the end. -/
inductive LoopSignal where
  | none | next | leave
  deriving DecidableEq, Repr

/-- Where a loop is. -/
structure LoopState where
  /-- The name of the key, for a loop over an object. -/
  keyName : Option Text
  itemName : Text
  key : Text
  item : Value
  index : Nat
  count : Nat
  signal : LoopSignal

namespace LoopState

def find? (l : LoopState) (name : Text) : Option Value :=
  if name = "loop.index".toList then some (.ofNat (l.index + 1))
  else if name = "loop.index0".toList then some (.ofNat l.index)
  else if name = "loop.first".toList then some (.bool (l.index = 0))
  else if name = "loop.last".toList then some (.bool (l.index + 1 = l.count))
  else
    let (root, way) := splitName name
    if root = l.itemName then valueAt? l.item way
    else if l.keyName = some name then some (.string l.key)
    else none

def names (l : LoopState) : List (Text × Value) :=
  (l.itemName, l.item) :: (l.keyName.map fun k => (k, Value.string l.key)).toList

end LoopState

inductive FrameKind where
  | origin
  | included
  /-- A call of a macro by the name of its file and its own name. -/
  | called (scope name : Text)
  | loop (state : LoopState)

structure Frame where
  kind : FrameKind
  template : Text
  vars : Namespace

namespace Frame

def loop? (f : Frame) : Option LoopState :=
  match f.kind with
  | .loop s => some s
  | _ => none

def isOpaque (f : Frame) : Bool :=
  match f.kind with
  | .origin => true
  | .called _ _ => true
  | _ => false

def find? (f : Frame) (name : Text) : Option Value :=
  (named? f.vars name).orElse fun _ => f.loop?.bind fun l => l.find? name

def assign (f : Frame) (name : Text) (v : Value) : Frame :=
  { f with vars := Namespace.insert name v f.vars }

def isInterrupted (f : Frame) : Bool :=
  f.loop?.any fun l => l.signal ≠ .none

def signalled? (f : Frame) (signal : LoopSignal) : Option Frame :=
  f.loop?.map fun l => { f with kind := .loop { l with signal := signal } }

end Frame

/-- Frames, the innermost first. -/
abbrev Frames := List Frame

namespace Frames

/-- The value of a name in the frames that are not hidden. -/
def find? (name : Text) : Frames → Option Value
  | [] => none
  | f :: rest =>
    match f.find? name with
    | some v => some v
    | none => if f.isOpaque then none else find? name rest

def lookup? (globals : Namespace) (frames : Frames) (name : Text) : Option Value :=
  (find? name frames).orElse fun _ => named? globals name

def template (frames : Frames) : Text :=
  ((frames.head?).map Frame.template).getD []

/-- Give a variable of the innermost frame a value. -/
def assign (name : Text) (v : Value) : Frames → Frames
  | [] => []
  | f :: rest => f.assign name v :: rest

/-- Give a variable of the innermost frame that is no loop a value. -/
def assignOutside (name : Text) (v : Value) : Frames → Frames
  | [] => []
  | f :: rest =>
    if f.loop?.isSome then f :: assignOutside name v rest else f.assign name v :: rest

def isInterrupted (frames : Frames) : Bool :=
  (frames.head?).any Frame.isInterrupted

/-- All variables in reach, also those that a call hides on the outside. -/
def allVars (globals : Namespace) : Frames → Namespace
  | [] => globals
  | frames =>
    let names (f : Frame) : List (Text × Value) :=
      f.vars ++ (f.loop?.map LoopState.names).getD []
    let isCall (f : Frame) : Bool := match f.kind with
      | .called _ _ => true
      | _ => false
    let reach := frames.takeWhile (fun f => !isCall f)
    match frames.drop reach.length with
    | call :: _ => Namespace.ofList ((reach ++ [call]).flatMap names)
    | [] => Namespace.merge globals (Namespace.ofList (reach.flatMap names))

end Frames

end TemplateTree.Template
