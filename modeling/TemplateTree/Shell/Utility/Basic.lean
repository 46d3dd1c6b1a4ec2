import TemplateTree.Shell.Format
import TemplateTree.Shell.State

/-!
# Utilities

A utility takes its arguments and gives an exit status.  Here are those that
print, test, and speak to the shell itself.
-/

namespace TemplateTree.Shell

abbrev Utility := Channels → List Text → Step Nat

namespace Utility

def idle (status : Nat) : Utility := fun _ _ => pure status

/-- The nanoseconds of a unit of time; no unit means seconds. -/
def unitOfTime? : Text → Option Int
  | [] => some Instant.second
  | ['s'] => some Instant.second
  | ['m'] => some (60 * Instant.second)
  | ['h'] => some (3600 * Instant.second)
  | ['d'] => some (86400 * Instant.second)
  | _ => none

/-- The nanoseconds that an operand names: digits, with a fraction after a point,
and a unit. -/
def duration? (t : Text) : Option Int := do
  let whole := t.takeWhile Char.isDigit
  let (fraction, unit) := match t.drop whole.length with
    | '.' :: r => (r.takeWhile Char.isDigit, r.dropWhile Char.isDigit)
    | r => ([], r)
  let digits ← Text.readDigits? (whole ++ fraction)
  return digits * (← unitOfTime? unit) / Nat.pow 10 fraction.length

def pause : Utility := fun channels args => do
  let refused (message : Text) : Step Nat := do
    Step.complain channels ("sleep: " ++ message)
    Step.complain channels "Try 'sleep --help' for more information."
    return 1
  if args = [] then refused "missing operand"
  else
    match args.find? fun a => (duration? a).isNone with
    | some a => refused ("invalid time interval '" ++ a ++ "'")
    | none =>
      modify fun s => { s with now := s.now + (args.filterMap duration?).foldl (· + ·) 0 }
      return 0

def echo : Utility := fun channels args => do
  let (args, ending) : List Text × Bytes := match args with
    | ['-', 'n'] :: rest => (rest, [])
    | _ => (args, [10])
  let e := echoed (Text.joinWith [' '] args)
  Step.writeBytes channels.out (if e.ends then e.bytes else e.bytes ++ ending)
  return 0

def printf : Utility := fun channels args => do
  match args with
  | [] =>
    Step.complainInLine channels "printf: usage: printf format [arg ...]"
    return 2
  | format :: rest =>
    let f := formatAll format (rest.length + 1) rest
    Step.writeBytes channels.out f.bytes
    f.faults.forM fun t =>
      Step.complainInLine channels ("printf: " ++ t ++ ": expected numeric value")
    return if f.faults = [] then 0 else 1

def printDirectory : Utility := fun channels _ => do
  Step.write channels.out (FileTree.placeText (← get).files.current ++ ['\n'])
  return 0

def changeDirectory : Utility := fun channels args => do
  let s ← get
  let dir := args.headD ['/']
  match s.files.place dir with
  | .ok place =>
    if s.files.hasDir dir then
      set { s with files := { s.files with current := place } }
      return 0
    else
      Step.complainInLine channels ("cd: can't cd to " ++ dir)
      return 2
  | .error _ =>
    Step.complainInLine channels ("cd: can't cd to " ++ dir)
    return 2

def concatenate : Utility := fun channels args => do
  let files := args.filter fun a => a.head? ≠ some '-' || a = ['-']
  if files = [] then
    Step.writeBytes channels.out (← Step.takeInput)
    return 0
  else
    files.foldlM (fun status file => do
      if file = ['-'] then
        Step.writeBytes channels.out (← Step.takeInput)
        return status
      else
        match (← get).files.readBytes file with
        | .ok bytes =>
          Step.writeBytes channels.out bytes
          return status
        | .error e =>
          Step.complain channels ("cat: " ++ file ++ ": " ++ reasonText e)
          return 1) 0

def list : Utility := fun channels args => do
  let options := (args.filter fun a => a.head? = some '-' && a ≠ ['-']).flatten
  let named := args.filter fun a => a.head? ≠ some '-' || a = ['-']
  let targets := if named = [] then [['.']] else named
  let files := (← get).files
  let shows (name : Text) : Bool :=
    options.contains 'a' || options.contains 'A' || name.head? ≠ some '.'
  let extra : List Text := if options.contains 'a' then [['.'], ['.', '.']] else []
  let missing := targets.filter fun t => !files.holds t
  let dirs := targets.filter files.hasDir
  let plain := targets.filter fun t => files.holds t && !files.hasDir t
  missing.forM fun t =>
    Step.complain channels ("ls: cannot access '" ++ t ++ "': No such file or directory")
  let sort (ts : List Text) : List Text := ts.mergeSort fun a b => !Text.precedes b a
  let shownLines (ts : List Text) : Text := ts.flatMap fun t => t ++ ['\n']
  Step.write channels.out (shownLines (sort plain))
  let several := 1 < targets.length
  let sections := (sort dirs).map fun d =>
    let names := match files.node d with
      | .ok (.dir entries) => extra ++ (entries.map Prod.fst).filter shows
      | _ => []
    (if several then d ++ ":\n" else []) ++ shownLines names
  let gap : Text := if plain = [] || dirs = [] then [] else ['\n']
  Step.write channels.out (gap ++ Text.joinWith ['\n'] sections)
  return if missing = [] then 0 else 2

def testNumber (t : Text) : Int :=
  ((argumentNumber (Text.trim t)).getD 0)

def holdsAlone (files : FileTree) (letter : Text) (t : Text) : Option Bool :=
  let present := files.holds t
  match letter with
  | ['-', 'f'] => some (files.hasFile t)
  | ['-', 'd'] => some (files.hasDir t)
  | ['-', 'e'] => some present
  | ['-', 'r'] => some present
  | ['-', 'w'] => some present
  | ['-', 's'] => some (match files.node t with
    | .ok (.file bytes _ _) => !bytes.isEmpty
    | .ok _ => true
    | .error _ => false)
  | ['-', 'x'] => some (match files.node t with
    | .ok (.file _ mode _) => mode &&& 0o111 ≠ 0
    | .ok _ => true
    | .error _ => false)
  | ['-', 'h'] => some ((files.nodeItself t).toOption.any Node.isLink)
  | ['-', 'L'] => some ((files.nodeItself t).toOption.any Node.isLink)
  | ['-', 'n'] => some (t ≠ [])
  | ['-', 'z'] => some (t = [])
  | _ => none

def holdsBetween (a op b : Text) : Option Bool :=
  let m := testNumber a
  let n := testNumber b
  if op = ['='] then some (a = b)
  else if op = ['!', '='] then some (a ≠ b)
  else if op = "-eq".toList then some (m = n)
  else if op = "-ne".toList then some (m ≠ n)
  else if op = "-lt".toList then some (m < n)
  else if op = "-le".toList then some (m ≤ n)
  else if op = "-gt".toList then some (n < m)
  else if op = "-ge".toList then some (n ≤ m)
  else none

def holds (files : FileTree) : List Text → Option Bool
  | [] => some false
  | [t] => some (t ≠ [])
  | ['!'] :: rest => (holds files rest).map (!·)
  | [letter, t] => holdsAlone files letter t
  | [a, op, b] =>
    if op = "-a".toList then some (a ≠ [] && b ≠ [])
    else if op = "-o".toList then some (a ≠ [] || b ≠ [])
    else holdsBetween a op b
  | letter :: t :: op :: rest =>
    if op = "-a".toList then
      (holdsAlone files letter t).bind fun x => (holds files rest).map (x && ·)
    else if op = "-o".toList then
      (holdsAlone files letter t).bind fun x => (holds files rest).map (x || ·)
    else
      match rest with
      | joint :: more =>
        if joint = "-a".toList then
          (holdsBetween letter t op).bind fun x => (holds files more).map (x && ·)
        else if joint = "-o".toList then
          (holdsBetween letter t op).bind fun x => (holds files more).map (x || ·)
        else none
      | [] => none

def test : Utility := fun channels args => do
  match holds (← get).files args with
  | some true => return 0
  | some false => return 1
  | none =>
    Step.complainInLine channels "test: unexpected operator"
    return 2

def bracketTest : Utility := fun channels args => do
  if args.getLast? = some [']'] then test channels args.dropLast
  else
    Step.complainInLine channels "[: missing ]"
    return 2

def exit : Utility := fun channels args => do
  match args with
  | [] => throw (.exited (← get).status)
  | t :: _ =>
    match Text.readDigits? t with
    | some n => throw (.exited (n % 256))
    | none =>
      Step.complainInLine channels ("exit: Illegal number: " ++ t)
      throw (.exited 2)

/-- Send a signal; only the shell itself can be reached. -/
def kill : Utility := fun channels args => do
  let targets := args.filter fun a => a.head? ≠ some '-'
  let harmless := args.any fun a => a = "-0".toList
  if targets.contains ShellState.ownNumber then
    if harmless then return 0 else throw .killed
  else
    match targets.head? with
    | some t =>
      Step.complainInLine channels ("kill: No such process")
      return if t = [] then 2 else 1
    | none =>
      Step.complainInLine channels
        "kill: Usage: kill [-s sigspec | -signum | -sigspec] [pid | job]..."
      return 2

def setVariables : Utility := fun _ args => do
  args.forM fun a => do
    let (name, value?) : Text × Option Text := match Text.splitOnce? ['='] a with
      | some (name, value) => (name, some value)
      | none => (a, none)
    modify fun s => value?.elim s fun v => s.assign name v
    modify fun s => { s with exported := name :: s.exported }
  return 0

def unsetVariables : Utility := fun _ args => do
  args.forM fun name => modify fun s => s.unset name
  return 0

end Utility

end TemplateTree.Shell
