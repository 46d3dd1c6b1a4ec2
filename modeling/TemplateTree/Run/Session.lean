import TemplateTree.Run.Failure
import TemplateTree.Run.Reporter
import TemplateTree.Shell.Command
import TemplateTree.Template.Argument

/-!
# Sessions

What a run works on: the files, the clock, what was printed, the reporter, and the
machine, which is asked by templates and runs commands.  A job is a step that changes
a session and may fail; a failure keeps what the job did before it.
-/

namespace TemplateTree

/-- What the machine does when it is turned to. -/
structure Moment where
  /-- What it says to a rendering that begins at a time. -/
  answer : Instant → Template.Outlook
  /-- What a command line does to files, from a time on and in a directory. -/
  run : FileTree → Instant → Path → Text → Except FileError (Shell.Outcome × FileTree × Instant)

/-- The machine that a run is on.  It may do something else each time: its moments are
those of the renderings and commands to come. -/
class Host where
  moment : Nat → Moment

abbrev Host.next (h : Host) : Host :=
  ⟨fun n => h.moment (n + 1)⟩

/-- The files, clock, console, reporter and machine of a run. -/
structure Session where
  files : FileTree
  now : Instant
  console : Console
  reporter : Reporter
  [host : Host]

/-- A session in which the machine was turned to. -/
def Session.turned (s : Session) : Session :=
  { s with host := s.host.next }

/-- A step that changes a session and may fail. -/
abbrev Job := EStateM Failure Session

namespace Job

def ofExcept : Except Failure α → Job α
  | .ok a => pure a
  | .error e => throw e

def printError (t : Text) : Job Unit :=
  modify fun s => { s with console := s.console.printError t }

def print (t : Text) : Job Unit :=
  modify fun s => { s with console := s.console.print t }

def report (line : Reporter → Text) : Job Unit :=
  modify fun s => { s with console := s.console.printError (line s.reporter) }

def count (step : Reporter → Reporter × Text) : Job Unit :=
  modify fun s =>
    let (r, line) := step s.reporter
    { s with reporter := r, console := s.console.printError line }

def shown (p : Path) : Job Text := do
  return Path.shown (FileTree.placeText (← get).files.current) p

/-- Turn to the machine. -/
def moment : Job Moment :=
  modifyGet fun s => (s.host.moment 0, s.turned)

def outlook : Job Template.Outlook := do
  return (← moment).answer (← get).now

def templateStarted (name : Text) : Job Unit :=
  count (·.templateStarted name)

def fileSaved (p : Path) : Job Unit := do
  let t ← shown p
  count (·.fileSaved t)

def directoryCreated (p : Path) : Job Unit := do
  let t ← shown p
  report (·.directoryCreated t)

def start : Job Unit :=
  modify fun s => { s with reporter := s.reporter.start s.now }

def finish : Job Unit :=
  modify fun s => { s with console := s.console.printError (s.reporter.finish s.now) }

def commandOutput (text : Text) : Job Unit :=
  modify fun s => { s with console := s.console.print (s.reporter.commandOutput text) }

/-- Change the files as far as that is possible; a refusal tells the path and what was
tried. -/
def changeFilesInPart (path : Path) (attempt : Text)
    (change : Session → Except (FileError × FileTree) FileTree) : Job Unit := do
  match change (← get) with
  | .ok files => modify fun s => { s with files := files }
  | .error (e, files) =>
    modify fun s => { s with files := files }
    throw (.io path (attempt ++ e.message))

/-- Change the files, or fail with the path and what was tried. -/
def changeFiles (path : Path) (attempt : Text)
    (change : Session → Except FileError FileTree) : Job Unit :=
  changeFilesInPart path attempt fun s => (change s).mapError fun e => (e, s.files)

end Job

end TemplateTree
