import TemplateTree.Build.Watermark
import TemplateTree.Extension.Basic
import TemplateTree.Output.Writer
import TemplateTree.Run.Plain

/-!
# Generators

A generator has settings and an environment with all extensions applied.  A run
renders the templates that it selects, then the commands of the settings, and at
last moves the watermark to the second in which it started.  Stencils are not
compared with the watermark.
-/

namespace TemplateTree

namespace Job

def runCommand (line : Text) (dir : Path) : Job (Except FileError Shell.Outcome) := do
  let moment ← Job.moment
  let s ← get
  match moment.run s.files s.now dir line with
  | .error e => return .error e
  | .ok (outcome, files, now) =>
    set { s with files := files, now := now }
    return .ok outcome

def runChecked (line : Text) (dir : Path) : Job Shell.Outcome := do
  match ← runCommand line dir with
  | .error e => throw (.command line none e.message)
  | .ok outcome =>
    if outcome.isSuccess then return outcome
    else throw (.command line (outcome.status.map Int.ofNat) (Text.trimEnd outcome.err))

def debug (message : Text) : Job Unit :=
  report (·.debug message)

def note (verb message : Text) : Job Unit :=
  report (·.note verb message)

end Job

/-- Settings and an environment made from them. -/
structure Generator where
  settings : Settings
  environment : Environment

namespace Generator

def new (settings : Settings) : Job Generator := do
  let env ← Job.ofExcept (Environment.create (← get).files settings)
  Job.debug ("loaded " ++ Text.decimal env.templates.length ++ " templates and "
    ++ Text.decimal env.loadedStencils.length ++ " of " ++ Text.decimal env.stencils.length
    ++ " stencils")
  return ⟨settings, ← Extension.applyAll settings env⟩

def watermark (g : Generator) : Watermark :=
  ⟨g.settings.lastRunFile⟩

/-- Render one template; the watermark stays. -/
def render (g : Generator) (name : Text) (overrides : Option Namespace) : Job RunStats :=
  if g.environment.isTemplate name then g.environment.renderTemplate g.settings name overrides
  else throw (.config ("\"" ++ name ++ "\" is not a renderable template"))

/-- The cutoff of a run; a run that is to render modified templates only renders
all if there is no usable watermark. -/
def cutoff (g : Generator) (onlyModified : Bool) : Job (Option Nat) := do
  if !onlyModified then return none
  else
    match g.watermark.read (← get).files with
    | some seconds => return some seconds
    | none =>
      Job.debug "no usable watermark, rendering all templates"
      return none

def renderEach (g : Generator) (overrides : Option Namespace) :
    List TemplateFile → Job RunStats
  | [] => pure .zero
  | f :: rest => do
    let here ← g.environment.renderTemplate g.settings f.name overrides
    return here.add (← g.renderEach overrides rest)

/-- Run the commands of the settings in order, up to the first that fails. -/
def runPostCommands (g : Generator) : Job Unit :=
  g.settings.postCommands.forM fun line => do
    Job.note "Running" line
    Job.commandOutput (← Job.runChecked line g.settings.rootDir).out

/-- Render every template, or those modified since the last run.  The watermark
moves only if something was rendered and every command succeeded. -/
def renderAll (g : Generator) (onlyModified : Bool) (overrides : Option Namespace) :
    Job RunStats := do
  -- Taken first: what is edited while the run goes on belongs to the next one.
  let started := (← get).now
  let cutoff ← g.cutoff onlyModified
  let templates ← Job.ofExcept (g.settings.candidates (← get).files cutoff)
  Job.start
  let total ← g.renderEach overrides templates
  if templates.isEmpty then
    Job.note "Skipped" "no templates changed"
    return total
  else
    g.runPostCommands
    g.watermark.write (Instant.floorSeconds started)
    Job.finish
    return total

end Generator

end TemplateTree
