import TemplateTree.Template.Frame
import TemplateTree.Template.Library
import TemplateTree.Template.Registry

/-!
# Surroundings of a rendering

What the evaluation of a template can see and change: the library, the registry
and the variables, and the frames and blocks under way.
-/

namespace TemplateTree

namespace Template

structure Surroundings where
  library : Library
  registry : Registry
  /-- The variables that are there from the start. -/
  globals : Namespace
  template : Template
  escape : Bool
  outlook : Outlook

namespace Surroundings

def unescaped (s : Surroundings) : Surroundings :=
  { s with escape := false }

/-- The templates above the one that was asked for, nearest first. -/
def parents (s : Surroundings) : List Text :=
  s.library.parents s.template

/-- The template whose text is rendered: the topmost one. -/
def root (s : Surroundings) : Template :=
  ((s.parents.getLast?).bind s.library.find?).getD s.template

end Surroundings

/-- A block under way: its name, the template whose version is rendered, and how
many templates above the one asked for that is. -/
structure OpenBlock where
  name : Text
  template : Text
  level : Nat

/-- The state of a rendering: the frames and the blocks, innermost first, and the
questions that were asked, the last one first. -/
structure RenderState where
  frames : Frames
  blocks : List OpenBlock
  asked : List Question

/-- The variable that holds all variables. -/
def contextName : Text := "__tera_context"

abbrev Rendering := EStateM TemplateError RenderState

namespace Rendering

def fail (message : Text) : Rendering α :=
  throw (.plain message)

def ofExcept : Except Text α → Rendering α
  | .ok a => pure a
  | .error m => fail m

/-- Do something that, if it fails, is the cause of another failure. -/
def within (message : Text) (r : Rendering α) : Rendering α :=
  tryCatch r fun e => throw (.causedBy message e)

/-- Put a question to the machine. -/
def ask (s : Surroundings) (q : Question) : Rendering Value := do
  let asked := (← get).asked
  modify fun st => { st with asked := q :: st.asked }
  ofExcept (s.outlook asked.length q)

def changeFrames (change : Frames → Frames) : Rendering Unit :=
  modify fun st => { st with frames := change st.frames }

def inFrame (f : Frame) (r : Rendering α) : Rendering α := do
  changeFrames (f :: ·)
  let a ← r
  changeFrames (·.drop 1)
  return a

def openBlock (b : OpenBlock) : Rendering Unit :=
  modify fun st => { st with blocks := b :: st.blocks }

def valueNamed (s : Surroundings) (name : Text) : Rendering Value := do
  let frames := (← get).frames
  if name = contextName then
    return .string ((Value.object (frames.allVars s.globals)).toPrettyJson 0)
  else ofExcept (valueOf (frames.lookup? s.globals) frames.template name)

/-- Ask the loop around to go on or to end; `tag` is the name of the request. -/
def interrupt (signal : LoopSignal) (tag : String) : Rendering Unit := do
  match (← get).frames with
  | f :: rest =>
    match f.signalled? signal with
    | some g => changeFrames fun _ => g :: rest
    | none => fail ("Attempted " ++ tag ++ " while not in `for loop`")
  | [] => return

end Rendering

end Template

end TemplateTree
