import TemplateTree.Build.Generator
import TemplateTree.CommandLine.Arguments

/-!
# The command line

What the program does with its arguments: it reads the override, loads the
settings, makes a generator and renders.
-/

namespace TemplateTree

def renderProject (path : Path) (onlyModified : Bool) (overrides : Option GlobalOverride) :
    Job RunStats := do
  let settings ← Settings.load path
  let generator ← Generator.new settings
  generator.renderAll onlyModified (overrides.map GlobalOverride.values)

def Arguments.run (a : Arguments) (printer : Printer) : Job RunStats := do
  match a.settings with
  | none =>
    throw (.configuration "No settings document given"
      (some "Pass the path to a JSON or YAML settings document"))
  | some path =>
    let reporter := Reporter.new printer a.verbosity (← get).now
    modify fun s => { s with reporter := reporter }
    let shown ← Job.shown path
    Job.report (·.whenever .normal (printer.status "Loading" shown))
    let overrides ← match a.globals with
      | some t => some <$> Job.ofExcept (GlobalOverride.parse (← get).files t)
      | none => pure none
    renderProject path a.onlyModified overrides

end TemplateTree
