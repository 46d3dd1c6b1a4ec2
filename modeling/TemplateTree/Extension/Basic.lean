import TemplateTree.Environment.Basic
import TemplateTree.Extension.Identifier

/-!
# Extensions

Extensions are chosen by name in the settings, engine extensions first, then
custom modules.  Each one adds filters, functions, tests or variables to an
environment; the first that fails ends it.
-/

namespace TemplateTree

/-- Where an extension is listed. -/
inductive ExtensionKind where
  | engine | custom
  deriving DecidableEq, Repr

inductive Extension where
  | case
  /-- A filter that shows a value, and a variable that describes the run. -/
  | debug
  | buildInfo
  | identifierTests
  | includeGuard
  deriving DecidableEq, Repr

namespace ExtensionKind

def noun : ExtensionKind → Text
  | engine => "engine extension"
  | custom => "custom module"

/-- The extensions of a kind, in the order of their names. -/
def members : ExtensionKind → List Extension
  | engine => [.case, .debug]
  | custom => [.buildInfo, .identifierTests, .includeGuard]

end ExtensionKind

namespace Extension

def name : Extension → Text
  | case => "case"
  | debug => "debug"
  | buildInfo => "build_info"
  | identifierTests => "identifier_tests"
  | includeGuard => "include_guard"

def find? (kind : ExtensionKind) (id : Text) : Option Extension :=
  kind.members.find? fun e => e.name = id

def failure (e : Extension) (message : Text) : Failure :=
  .extension e.name message

def unknown (kind : ExtensionKind) (id : Text) : Failure :=
  .extension id ("unknown " ++ kind.noun ++ " (known: "
    ++ Text.joinWith ", " (kind.members.map name) ++ ")")

def labelled (name message : Text) : Text :=
  '[' :: name ++ [']', ' '] ++ message

def logDebug (name message : Text) : Job Unit :=
  Job.report (·.debug (labelled name message))

def logError (name message : Text) : Job Unit :=
  Job.report (·.error (labelled name message))

def caseFilters : List (String × (Text → Text)) :=
  [("snake_case", Text.snakeCase), ("pascal_case", Text.pascalCase),
    ("camel_case", Text.camelCase), ("kebab_case", Text.kebabCase),
    ("shouty_snake_case", Text.shoutySnakeCase)]

def namesOf (files : List TemplateFile) : Value :=
  .array (files.map fun f => .string f.name)

def debugContext (env : Environment) (settings : Settings) : Value :=
  .object (Namespace.ofList [("templates", namesOf env.templates),
    ("stencils", namesOf env.stencils),
    ("namespace_keys", .array (settings.globalNamespace.keys.map Value.string))])

def programInfo : Value :=
  .object (Namespace.ofList [("name", .string "tgen"), ("version", .string "0.4.1")])

def added (e : Extension) (settings : Settings) (env : Environment) :
    Except Failure Environment :=
  match e with
  | case =>
    .ok (caseFilters.foldl (fun env (name, change) =>
      env.withFilter name (Identifier.caseFilter name change)) env)
  | debug =>
    (env.withFilter "debug" fun v _ => .ok (.string (v.toPrettyJson 0))).withGlobal
      "debug_context" (debugContext env settings)
  | buildInfo => env.withGlobal "generator" programInfo
  | identifierTests =>
    .ok ((env.withTest "identifier" (Identifier.test Identifier.isIdentifier)).withTest "keyword"
      (Identifier.test Identifier.isReserved))
  | includeGuard =>
    if env.hasFilter "shouty_snake_case" then
      .ok (env.withFunction "include_guard" Identifier.includeGuard)
    else .error (includeGuard.failure "requires the `case` engine extension")

def remark (e : Extension) (env : Environment) : Job Unit :=
  match e with
  | debug =>
    logDebug e.name (Text.decimal env.templates.length ++ " templates, "
      ++ Text.decimal env.stencils.length ++ " stencils")
  | includeGuard =>
    if env.hasFilter "shouty_snake_case" then pure ()
    else logError e.name "the `case` engine extension is not loaded"
  | _ => pure ()

def update (e : Extension) (settings : Settings) (env : Environment) : Job Environment := do
  e.remark env
  Job.ofExcept (e.added settings env)

def logAdded (e : Extension) (noun : String) (before after : List Text) : Job Unit :=
  match after.filter (fun n => !before.contains n) with
  | [] => pure ()
  | new =>
    logDebug e.name ("added " ++ plural new.length noun (noun ++ "s") ++ ": "
      ++ Text.joinWith ", " (new.map fun n => '"' :: n ++ ['"']))

def owned (e : Extension) : Failure → Failure
  | .extension name message => .extension name message
  | other => e.failure other.message

def apply (e : Extension) (settings : Settings) (env : Environment) : Job Environment := do
  logDebug e.name "updating environment"
  -- Whatever fails in an extension is laid to it.
  let env' ← tryCatch (e.update settings env) fun f => throw (e.owned f)
  e.logAdded "filter" env.registry.filters.names env'.registry.filters.names
  e.logAdded "function" env.registry.functions.names env'.registry.functions.names
  e.logAdded "test" env.registry.tests.names env'.registry.tests.names
  return env'

def applyNamed (settings : Settings) (env : Environment) (kind : ExtensionKind) (id : Text) :
    Job Environment :=
  match find? kind id with
  | some e => e.apply settings env
  | none => throw (unknown kind id)

def applyAll (settings : Settings) (env : Environment) : Job Environment := do
  let extended ← settings.engineExtensions.foldlM (fun env id =>
    applyNamed settings env .engine id) env
  settings.customModules.foldlM (fun env id => applyNamed settings env .custom id) extended

end Extension

end TemplateTree
