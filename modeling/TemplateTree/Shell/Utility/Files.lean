import TemplateTree.Shell.Utility.Basic

/-!
# Utilities for files

Files and directories are made, removed, copied and moved.
-/

namespace TemplateTree.Shell.Utility

/-- Change the files as far as that is possible, and say what is not. -/
def changeInPart (channels : Channels) (label : Text)
    (f : ShellState → Except (FileError × FileTree) FileTree) : Step Nat := do
  let s ← get
  match f s with
  | .ok files =>
    set { s with files := files }
    return 0
  | .error (e, files) =>
    set { s with files := files }
    Step.complain channels (label ++ ": " ++ reasonText e)
    return 1

def change (channels : Channels) (label : Text) (f : ShellState → Except FileError FileTree) :
    Step Nat :=
  changeInPart channels label fun s => (f s).mapError fun e => (e, s.files)

/-- Do something with every name; one failure makes the whole fail. -/
def forNames (names : List Text) (f : Text → Step Nat) : Step Nat :=
  names.foldlM (fun status n => do return max status (← f n)) 0

def operands (args : List Text) : List Text :=
  args.filter fun a => a.head? ≠ some '-'

def hasOption (args : List Text) (letter : Char) : Bool :=
  args.any fun a => a.head? = some '-' && a.contains letter

def makeDirectory : Utility := fun channels args =>
  forNames (operands args) fun dir =>
    let label := "mkdir: cannot create directory '" ++ dir ++ ['\'']
    if hasOption args 'p' then changeInPart channels label fun s => s.files.makeAllDirs dir
    else change channels label fun s => s.files.makeDir dir

/-- Make files, or mark them as just modified. -/
def touch : Utility := fun channels args =>
  forNames (operands args) fun file =>
    change channels ("touch: cannot touch '" ++ file ++ ['\'']) fun s =>
      match s.files.node file with
      | .ok (.file bytes _ _) => s.files.write s.now file bytes
      | .ok _ => .ok s.files
      | .error _ => s.files.write s.now file []

def remove : Utility := fun channels args =>
  forNames (operands args) fun name => do
    let s ← get
    match s.files.spotOf false name (FileTree.wayOf name), s.files.nodeItself name with
    | .ok spot, .ok node =>
      if node.isDir && !(hasOption args 'r' || hasOption args 'R') then
        Step.complain channels ("rm: cannot remove '" ++ name ++ "': Is a directory")
        return 1
      else
        set { s with files := { s.files with root := s.files.root.erase spot.place } }
        return 0
    | _, _ =>
      if hasOption args 'f' then return 0
      else
        Step.complain channels ("rm: cannot remove '" ++ name ++ "': No such file or directory")
        return 1

def destinationOf (files : FileTree) (source target : Path) : Path :=
  if files.hasDir target then Path.join target ((Path.fileName? source).getD source) else target

def copy : Utility := fun channels args => do
  match operands args with
  | [source, target] =>
    change channels ("cp: cannot stat '" ++ source ++ ['\'']) fun s => do
      s.files.write s.now (destinationOf s.files source target) (← s.files.readBytes source)
  | _ =>
    Step.complain channels "cp: missing file operand"
    return 1

def move : Utility := fun channels args => do
  match operands args with
  | [source, target] =>
    change channels ("mv: cannot stat '" ++ source ++ ['\'']) fun s => do
      let node ← s.files.nodeItself source
      let here ← s.files.spotOf false source (FileTree.wayOf source)
      let there ← s.files.spot (destinationOf s.files source target)
      let without := { s.files with root := s.files.root.erase here.place }
      return without.putAt there.place node
  | _ =>
    Step.complain channels "mv: missing file operand"
    return 1

def removeDirectory : Utility := fun channels args =>
  forNames (operands args) fun name =>
    change channels ("rmdir: failed to remove '" ++ name ++ ['\'']) fun s => do
      match ← s.files.nodeItself name with
      | .dir [] =>
        let spot ← s.files.spotOf false name (FileTree.wayOf name)
        return { s.files with root := s.files.root.erase spot.place }
      | .dir _ => throw .notEmpty
      | _ => throw .notDirectory

def link : Utility := fun channels args => do
  match operands args with
  | [target, name] =>
    change channels ("ln: failed to create symbolic link '" ++ name ++ ['\'']) fun s => do
      match ← s.files.spotOf false name (FileTree.wayOf name) with
      | .free place => return s.files.putAt place (.link target)
      | .found _ => throw .alreadyExists
  | _ =>
    Step.complain channels "ln: missing file operand"
    return 1

/-- The rights that letters of a mode stand for, for everyone. -/
def rightsOf (letters : Text) : Nat :=
  (if letters.contains 'r' then 0o444 else 0) ||| (if letters.contains 'w' then 0o222 else 0) |||
    (if letters.contains 'x' then 0o111 else 0)

/-- The rights of those that letters of a mode name; none named means everyone,
without the right of others to write. -/
def holdersOf (letters : Text) : Nat :=
  if letters = [] then 0o755
  else if letters.contains 'a' then 0o777
  else
    (if letters.contains 'u' then 0o700 else 0) ||| (if letters.contains 'g' then 0o070 else 0) |||
      (if letters.contains 'o' then 0o007 else 0)

def amendMode (t : Text) (mode : Nat) : Option Nat :=
  match Text.readBase? 8 t with
  | some m => some m
  | none =>
    let holders := t.takeWhile fun c => "ugoa".toList.contains c
    match t.drop holders.length with
    | op :: letters =>
      let rights := holdersOf holders &&& rightsOf letters
      if op = '+' then some (mode ||| rights)
      else if op = '-' then some (mode &&& (0o7777 ^^^ rights))
      else if op = '=' then some ((mode &&& (0o7777 ^^^ holdersOf holders)) ||| rights)
      else none
    | [] => none

def changeMode : Utility := fun channels args => do
  match args with
  | mode :: names@(_ :: _) =>
    forNames names fun name =>
      change channels ("chmod: cannot access '" ++ name ++ ['\'']) fun s => do
        let place ← s.files.place name
        match s.files.root.get? place, amendMode mode 0 with
        | some (.file bytes old time), some _ =>
          return s.files.putAt place (.file bytes ((amendMode mode old).getD old) time)
        | _, _ => return s.files
  | _ =>
    Step.complain channels "chmod: missing operand"
    return 1

end TemplateTree.Shell.Utility
