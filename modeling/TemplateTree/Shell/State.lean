import TemplateTree.Discovery.Glob
import TemplateTree.Files.Tree
import TemplateTree.Shell.Arithmetic
import TemplateTree.Shell.Command

/-!
# The state of a shell

What commands see and change: files, variables, the outcome of the last command,
and the streams they read from and write to.
-/

namespace TemplateTree.Shell

inductive Sink where
  | stream (n : Nat)
  | file (place : Place)
  deriving DecidableEq, Repr

/-- What the two streams that a command writes to stand for. -/
structure Channels where
  out : Sink
  err : Sink
  deriving DecidableEq, Repr

structure ShellState where
  files : FileTree
  now : Instant
  vars : List (Text × Text)
  /-- The names of the variables that other shells see. -/
  exported : List Text
  status : Nat
  input : Bytes
  /-- What was written to streams, last first. -/
  written : List (Nat × Bytes)
  /-- The number of the next stream. -/
  nextStream : Nat

/-- Why a shell stops in the middle of a line. -/
inductive Stop where
  | exited (status : Nat)
  | killed
  | left
  | continued
  deriving DecidableEq, Repr

abbrev Step := EStateM Stop ShellState

namespace Step

def setStatus (n : Nat) : Step Unit :=
  modify fun s => { s with status := n }

def writeBytes (sink : Sink) (bytes : Bytes) : Step Unit :=
  modify fun s =>
    match sink with
    | .stream n => { s with written := (n, bytes) :: s.written }
    | .file place =>
      match s.files.root.get? place with
      | some (.file old mode _) =>
        { s with files := s.files.putAt place (.file (old ++ bytes) mode s.now) }
      | _ => s

def write (sink : Sink) (t : Text) : Step Unit :=
  writeBytes sink (Text.toBytes t)

def complain (channels : Channels) (message : Text) : Step Unit :=
  write channels.err (message ++ ['\n'])

def complainInLine (channels : Channels) (message : Text) : Step Unit :=
  complain channels ("sh: 1: " ++ message)

def takeInput : Step Bytes := do
  let bytes := (← get).input
  modify fun s => { s with input := [] }
  return bytes

def newStream : Step Nat := do
  let n := (← get).nextStream
  modify fun s => { s with nextStream := n + 1 }
  return n

def streamBytes (n : Nat) : Step Bytes := do
  return ((← get).written.reverse.filterMap fun (k, bytes) =>
    if k = n then some bytes else none).flatten

end Step

/-- The wording of a refused operation without its number. -/
def reasonText (e : FileError) : Text :=
  ((Text.splitOnce? " (os error" e.message).map Prod.fst).getD e.message

namespace ShellState

def ownNumber : Text := "4242"

def valueOf (s : ShellState) (name : Text) : Text :=
  if name = ['?'] then Text.decimal s.status
  else if name = ['$'] then ownNumber
  else if name = ['#'] then ['0']
  else if name = ['0'] then "sh"
  else if name = "PWD".toList then FileTree.placeText s.files.current
  else (s.vars.lookup name).getD []

def isSet (s : ShellState) (name : Text) : Bool :=
  (s.vars.lookup name).isSome || s.valueOf name ≠ []

def assign (s : ShellState) (name value : Text) : ShellState :=
  { s with vars := (name, value) :: s.vars.filter (fun v => v.1 ≠ name) }

def unset (s : ShellState) (name : Text) : ShellState :=
  { s with
    vars := s.vars.filter fun v => v.1 ≠ name
    exported := s.exported.filter (· ≠ name) }

def isWild (c : Char) : Bool :=
  c = '*' || c = '?' || c = '['

def patternTakes (pattern t : Text) : Bool :=
  match Glob.compile pattern with
  | .ok g => g.takes t
  | .error _ => pattern = t

/-- The paths that segments with wild characters stand for below a path. -/
def matchesBelow (files : FileTree) : Path → List Text → List Path
  | base, [] => if (files.nodeItself base).toOption.isSome then [base] else []
  | base, seg :: rest =>
    if seg.any isWild then
      let dir : Path := if base = [] then ['.'] else base
      match files.node dir, Glob.compile seg with
      | .ok (.dir entries), .ok g =>
        entries.flatMap fun (name, _) =>
          if g.takes name && (name.head? ≠ some '.' || seg.head? = some '.') then
            matchesBelow files (Path.join base name) rest
          else []
      | _, _ => []
    else matchesBelow files (Path.join base seg) rest

/-- The paths that a word stands for, or the word itself. -/
def pathsFor (s : ShellState) (t : Text) : List Text :=
  let (base, segments) : Path × List Text := match t with
    | '/' :: r => (['/'], Text.splitBy ['/'] r)
    | _ => ([], Text.splitBy ['/'] t)
  match matchesBelow s.files base (segments.filter (· ≠ [])) with
  | [] => [t]
  | ps => ps

end ShellState

end TemplateTree.Shell
