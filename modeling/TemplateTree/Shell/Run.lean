import TemplateTree.Shell.Reading
import TemplateTree.Shell.Utility.Table

/-!
# Running command lines

Words are expanded, streams redirected and commands run on a file tree.  A line
may run forever, so its commands are counted, and a line that takes too many is
ended like one that was killed.
-/

namespace TemplateTree.Shell

/-- A field under construction: its text, and whether it has wild characters. -/
structure Field where
  text : Text
  wild : Bool

/-- Fields of a word, the last one first; the last one is still open if there is
one. -/
structure Fields where
  closed : List Field
  current : Option Field

namespace Fields

def none : Fields := ⟨[], .none⟩

def close (f : Fields) : Fields :=
  match f.current with
  | some c => ⟨c :: f.closed, .none⟩
  | .none => f

def add (f : Fields) (t : Text) (wild : Bool) : Fields :=
  match f.current with
  | some c => { f with current := some ⟨c.text ++ t, c.wild || wild⟩ }
  | .none => { f with current := some ⟨t, wild⟩ }

def addSplit (f : Fields) (t : Text) : Fields :=
  t.foldl (fun f c =>
    if Text.isIndent c || c = '\n' then f.close else f.add [c] (ShellState.isWild c)) f

def all (f : Fields) : List Field :=
  f.close.closed.reverse

end Fields

/-- A text without the shortest or longest start that a pattern takes. -/
def withoutStart (longest : Bool) (pattern t : Text) : Text :=
  let cuts := (List.range (t.length + 1)).filter fun n =>
    ShellState.patternTakes pattern (t.take n)
  t.drop (((if longest then cuts.getLast? else cuts.head?)).getD 0)

/-- A text without the shortest or longest end that a pattern takes. -/
def withoutEnd (longest : Bool) (pattern t : Text) : Text :=
  let cuts := (List.range (t.length + 1)).filter fun n =>
    ShellState.patternTakes pattern (t.drop n)
  t.take ((if longest then cuts.head? else cuts.getLast?).getD t.length)

/-- The most commands that one may be inside of another. -/
def depthLimit : Nat := 2000

def roundLimit : Nat := 100000

/-- Find out where a redirection goes: the channel it is about, changed. -/
def redirectChannel (channels : Channels) (stream : Nat) (sink : Sink) : Channels :=
  if stream = 1 then { channels with out := sink }
  else if stream = 2 then { channels with err := sink }
  else channels

/-- Run a command in a shell of its own: what it does to variables and the
current directory is lost. -/
def inOwnShell (c : Step Unit) : Step Unit := do
  let before ← get
  let stop : Option Stop ← tryCatch (do c; pure none) fun e => pure (some e)
  match stop with
  | some .killed => throw .killed
  | some (.exited n) => Step.setStatus n
  -- A loop around this shell is neither left nor continued from inside.
  | _ => pure ()
  modify fun s =>
    { s with
      vars := before.vars
      exported := before.exported
      files := { s.files with current := before.files.current } }

def openFile (mode : RedirectMode) (target : Text) : Step (Except FileError Sink) := do
  let s ← get
  let opened : Except FileError FileTree :=
    match mode, s.files.hasFile target with
    -- A file that is appended to keeps its text, and any other one starts empty.
    | .append, true => .ok s.files
    | _, _ => if target = "/dev/null".toList then .ok s.files else s.files.write s.now target []
  match opened with
  | .error e => return .error e
  | .ok files =>
    set { s with files := files }
    if target = "/dev/null".toList then return .ok (.file [])
    else return (files.place target).map Sink.file

mutual

def expandPart : Nat → Channels → Fields → Part → Step Fields
  | 0, _, _, _ => throw .killed
  | fuel + 1, channels, f, p => do
    match p with
    | .text t quoted => return f.add t (!quoted && t.any ShellState.isWild)
    | .value name quoted =>
      let v := (← get).valueOf name
      return if quoted then f.add v false else f.addSplit v
    | .amended name rule word quoted =>
      let s ← get
      let v := s.valueOf name
      let present := if rule.head? = some ':' then v ≠ [] else s.isSet name
      let add (t : Text) : Fields := if quoted then f.add t false else f.addSplit t
      if rule = "length".toList then return add (Text.decimal v.length)
      else
        let (w, _) := ((readWord (word.length + 2) true (word ++ ['"'])).toOption).getD ([], [])
        let other ← expandWhole fuel channels w
        match rule.getLast? with
        | some '-' => return add (if present then v else other)
        | some '+' => return add (if present then other else [])
        | some '=' =>
          if !present then modify fun s => s.assign name other
          return add (if present then v else other)
        | some '?' =>
          if present then return add v
          else
            Step.complainInLine channels
              (name ++ ": " ++ if other = [] then "parameter not set".toList else other)
            throw (.exited 2)
        | some '#' => return add (withoutStart (rule = "##".toList) other v)
        | some '%' => return add (withoutEnd (rule = "%%".toList) other v)
        | _ =>
          Step.complainInLine channels "Bad substitution"
          throw (.exited 2)
    | .arithmetic t =>
      match Arithmetic.evaluate (← get).valueOf t with
      | .ok n => return f.add (Text.signedDecimal n) false
      | .error e =>
        Step.complainInLine channels (e.message t)
        throw (.exited 2)
    | .output line quoted =>
      let n ← Step.newStream
      inOwnShell (runText fuel { channels with out := .stream n } line)
      let bytes ← Step.streamBytes n
      let t := ((Text.ofBytesLossy bytes).reverse.dropWhile (· = '\n')).reverse
      return if quoted then f.add t false else f.addSplit t

def expandWords : Nat → Channels → List Word → Step (List Text)
  | 0, _, _ => throw .killed
  | fuel + 1, channels, words => do
    let perWord ← words.mapM fun w => do
      let f ← w.foldlM (expandPart fuel channels) Fields.none
      let s ← get
      return f.all.flatMap fun field =>
        if field.wild then s.pathsFor field.text else [field.text]
    return perWord.flatten

/-- The text that a word stands for, not split. -/
def expandWhole : Nat → Channels → Word → Step Text
  | 0, _, _ => throw .killed
  | fuel + 1, channels, w => do
    let f ← w.foldlM (fun f p =>
      expandPart fuel channels f (match p with
        | .value name _ => .value name true
        | .amended name rule word _ => .amended name rule word true
        | .output line _ => .output line true
        | p => p)) Fields.none
    return (f.all.map Field.text).flatten

/-- Run a command with its redirections in place; one that cannot be done keeps
it from running. -/
def withRedirects : Nat → Channels → List Redirect → (Channels → Step Unit) → Step Unit
  | 0, _, _, _ => throw .killed
  | _ + 1, channels, [], run => run channels
  | fuel + 1, channels, r :: rest, run => do
    let target ← expandWhole fuel channels r.target
    let refused (e : FileError) (what : Text) : Step Unit := do
      Step.complainInLine channels (what ++ target ++ ": " ++ reasonText e)
      Step.setStatus 2
    match r.mode with
    | .read =>
      match (← get).files.readBytes target with
      -- A directory can be opened, though nothing is read from it.
      | .error .isDirectory => withRedirects fuel channels rest run
      | .error _ =>
        Step.complainInLine channels ("cannot open " ++ target ++ ": No such file")
        Step.setStatus 2
      | .ok bytes =>
        let before := (← get).input
        modify fun s => { s with input := bytes }
        withRedirects fuel channels rest run
        modify fun s => { s with input := before }
    | .copy =>
      match target with
      | ['1'] => withRedirects fuel (redirectChannel channels r.stream channels.out) rest run
      | ['2'] => withRedirects fuel (redirectChannel channels r.stream channels.err) rest run
      | ['-'] => withRedirects fuel (redirectChannel channels r.stream (.file [])) rest run
      | _ =>
        Step.complainInLine channels (target ++ ": Bad file descriptor")
        Step.setStatus 2
    | mode =>
      match ← openFile mode target with
      | .ok sink => withRedirects fuel (redirectChannel channels r.stream sink) rest run
      | .error .notFound =>
        Step.complainInLine channels ("cannot create " ++ target ++ ": Directory nonexistent")
        Step.setStatus 2
      | .error e => refused e "cannot create "

def runCommand : Nat → Channels → Command → Step Unit
  | 0, _, _ => throw .killed
  | fuel + 1, channels, c => do
    match c with
    | .nothing => pure ()
    | .simple assignments words redirects =>
      let before ← get
      let args ← expandWords fuel channels words
      let values ← assignments.mapM fun (name, w) => do
        return (name, ← expandWhole fuel channels w)
      match args with
      | [] =>
        let after ← get
        -- A new stream tells of a command in a word, whose status then counts.
        Step.setStatus (if after.nextStream = before.nextStream then 0 else after.status)
        values.forM fun (name, v) => modify fun s => s.assign name v
        withRedirects fuel channels redirects fun _ => pure ()
      | name :: rest =>
        withRedirects fuel channels redirects fun channels =>
          runNamed fuel channels values name rest
    | .pipe left right =>
      let n ← Step.newStream
      let before := (← get).input
      -- The left command runs to its end before the right one starts.
      inOwnShell (runCommand fuel { channels with out := .stream n } left)
      let bytes ← Step.streamBytes n
      modify fun s => { s with input := bytes }
      inOwnShell (runCommand fuel channels right)
      modify fun s => { s with input := before }
    | .negate c =>
      runCommand fuel channels c
      Step.setStatus (if (← get).status = 0 then 1 else 0)
    | .andThen a b =>
      runCommand fuel channels a
      if (← get).status = 0 then runCommand fuel channels b
    | .orElse a b =>
      runCommand fuel channels a
      if (← get).status ≠ 0 then runCommand fuel channels b
    | .seq a b =>
      runCommand fuel channels a
      runCommand fuel channels b
    | .group own c redirects =>
      withRedirects fuel channels redirects fun channels =>
        if own then inOwnShell (runCommand fuel channels c) else runCommand fuel channels c
    | .forEach name words body redirects =>
      let values ← expandWords fuel channels words
      withRedirects fuel channels redirects fun channels => do
        Step.setStatus 0
        let _ ← values.foldlM (fun left v => do
          if left then return true
          else
            modify fun s => s.assign name v
            runBody fuel channels body) false
    | .choose condition yes no redirects =>
      withRedirects fuel channels redirects fun channels => do
        runCommand fuel channels condition
        if (← get).status = 0 then runCommand fuel channels yes
        else
          Step.setStatus 0
          runCommand fuel channels no
    | .loop whileTrue condition body redirects =>
      withRedirects fuel channels redirects fun channels => do
        let last ← (List.range roundLimit).foldlM (fun (left, status) _ => do
          if left then return (true, status)
          else
            runCommand fuel channels condition
            if ((← get).status = 0) = whileTrue then
              let left ← runBody fuel channels body
              return (left, (← get).status)
            else return (true, status)) (false, 0)
        Step.setStatus last.2
    | .branch subject cases redirects =>
      let t ← expandWhole fuel channels subject
      withRedirects fuel channels redirects fun channels => runCases fuel channels t cases

/-- Run a command by its name; the assignments before it reach other shells
only. -/
def runNamed : Nat → Channels → List (Text × Text) → Text → List Text → Step Unit
  | 0, _, _, _, _ => throw .killed
  | fuel + 1, channels, assigned, name, args => do
    match Utility.find? name with
    | some u => Step.setStatus (← u channels args)
    | none =>
      if name = "eval".toList then runText fuel channels (Text.joinWith [' '] args)
      else if name = "exec".toList then
        match args with
        | [] => pure ()
        | other :: rest =>
          runNamed fuel channels assigned other rest
          throw (.exited (← get).status)
      else if name = "sh".toList && args.head? = some ['-', 'c'] then
        let before ← get
        let seen := before.vars.filter fun v => before.exported.contains v.1
        inOwnShell (do
          set { before with vars := assigned ++ seen, status := 0 }
          runText fuel channels ((args.drop 1).headD []))
      else
        Step.complainInLine channels (name ++ ": not found")
        Step.setStatus 127

def runCases : Nat → Channels → Text → List (List Word × Command) → Step Unit
  | 0, _, _, _ => throw .killed
  | _ + 1, _, _, [] => Step.setStatus 0
  | fuel + 1, channels, subject, (patterns, body) :: rest => do
    let texts ← patterns.mapM (expandWhole fuel channels)
    if texts.any fun p => ShellState.patternTakes p subject then
      Step.setStatus 0
      runCommand fuel channels body
    else runCases fuel channels subject rest

/-- Run the body of a loop once; the result tells whether the loop was left. -/
def runBody : Nat → Channels → Command → Step Bool
  | 0, _, _ => throw .killed
  | fuel + 1, channels, body =>
    tryCatch (do
      runCommand fuel channels body
      return false) fun stop =>
      match stop with
      | .left => pure true
      | .continued => pure false
      | other => throw other

def runText : Nat → Channels → Text → Step Unit
  | 0, _, _ => throw .killed
  | fuel + 1, channels, line =>
    match readLine line with
    | .ok c => runCommand fuel channels c
    | .error message => do
      Step.complainInLine channels message
      throw (.exited 2)

end

/-- Run a command line in a directory, which has to exist; the files and the time
at its end come with its outcome. -/
def run (files : FileTree) (now : Instant) (dir : Path) (line : Text) :
    Except FileError (Outcome × FileTree × Instant) := do
  let place ← files.place dir
  if !files.hasDir dir then throw .notDirectory
  let start : ShellState :=
    ⟨{ files with current := place }, now, [], [], 0, [], [], 3⟩
  let (status, s) : Option Nat × ShellState :=
    match (runText depthLimit ⟨.stream 1, .stream 2⟩ line).run start with
    | .ok _ s => (some s.status, s)
    | .error (.exited n) s => (some n, s)
    | .error .killed s => (none, s)
    | .error _ s => (some s.status, s)
  let textOf (n : Nat) : Text :=
    Text.ofBytesLossy (s.written.reverse.filterMap fun (k, bytes) =>
      if k = n then some bytes else none).flatten
  return (⟨textOf 1, textOf 2, status⟩, { s.files with current := files.current }, s.now)

end TemplateTree.Shell
