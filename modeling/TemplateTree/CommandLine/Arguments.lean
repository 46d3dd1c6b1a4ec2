import TemplateTree.Files.Path
import TemplateTree.Run.Reporter

/-!
# Arguments

The arguments of the command line: one settings document, flags and options.
Arguments are read from left to right; a value is looked at when the next
argument begins, and what excludes what is checked at the end.
-/

namespace TemplateTree

inductive CompletionShell where
  | bash | elvish | fish | powershell | zsh
  deriving DecidableEq, Repr

namespace CompletionShell

def name : CompletionShell → Text
  | bash => "bash"
  | elvish => "elvish"
  | fish => "fish"
  | powershell => "powershell"
  | zsh => "zsh"

def find? (t : Text) : Option CompletionShell :=
  [bash, elvish, fish, powershell, zsh].find? fun s => s.name = t

end CompletionShell

/-- Why arguments are not accepted; asking for help or the version also ends
their reading. -/
inductive UsageError where
  | missingArgument
  | conflict
  | unknownArgument
  | invalidValue
  | unneededValue
  | helpRequested
  | versionRequested
  deriving DecidableEq, Repr

inductive Flag where
  | onlyModified | silent | quiet | normal | verbose
  deriving DecidableEq, Repr

inductive Slot where
  | settings | globals | completions
  deriving DecidableEq, Repr

structure Arguments where
  settings : Option Path
  flags : List Flag
  globals : Option Text
  completions : Option CompletionShell
  deriving DecidableEq, Repr

namespace Arguments

def empty : Arguments := ⟨none, [], none, none⟩

def onlyModified (a : Arguments) : Bool :=
  a.flags.contains .onlyModified

def verbosityFlags (a : Arguments) : List Flag :=
  a.flags.filter (· ≠ .onlyModified)

def verbosity (a : Arguments) : Verbosity :=
  if a.flags.contains .silent then .veryLow
  else if a.flags.contains .quiet then .low
  else if a.flags.contains .verbose then .high
  else .normal

def fill (a : Arguments) (slot : Slot) (value : Text) : Except UsageError Arguments :=
  match slot with
  | .settings => if value = [] then .error .invalidValue else .ok { a with settings := some value }
  | .globals => if a.globals.isSome then .error .conflict else .ok { a with globals := some value }
  | .completions =>
    if a.completions.isSome then .error .conflict
    else
      match CompletionShell.find? value with
      | some s => .ok { a with completions := some s }
      | none => .error .invalidValue

/-- Set a flag, which must not be set yet. -/
def raise (a : Arguments) (f : Flag) : Except UsageError Arguments :=
  if a.flags.contains f then .error .conflict else .ok { a with flags := a.flags ++ [f] }

/-- Check what excludes what, and that nothing is missing. -/
def check (a : Arguments) : Except UsageError Arguments :=
  if a.completions.isSome then
    if a.settings.isSome || a.globals.isSome || a.flags ≠ [] then .error .conflict else .ok a
  else if 1 < a.verbosityFlags.length then .error .conflict
  else if a.settings.isNone then .error .missingArgument
  else .ok a

end Arguments

inductive Switch where
  | flag (f : Flag)
  | option (s : Slot)
  | help
  | version
  deriving DecidableEq, Repr

namespace Switch

def long? (name : Text) : Option Switch :=
  let named : List (String × Switch) := [("only-modified", .flag .onlyModified),
    ("globals", .option .globals), ("silent", .flag .silent), ("quiet", .flag .quiet),
    ("normal", .flag .normal), ("verbose", .flag .verbose),
    ("completions", .option .completions), ("help", .help), ("version", .version)]
  (named.find? fun p => p.1.toList = name).map Prod.snd

def short? (c : Char) : Option Switch :=
  [('m', .flag .onlyModified), ('g', .option .globals), ('q', .flag .quiet),
    ('v', .flag .verbose), ('h', .help), ('V', .version)].lookup c

end Switch

/-- Arguments while they are read. -/
structure ArgumentReader where
  found : Arguments
  /-- A slot whose value was not looked at yet, or is still to come. -/
  pending : Option (Slot × Option Text)
  named : Bool

namespace ArgumentReader

def settle (r : ArgumentReader) : Except UsageError ArgumentReader :=
  match r.pending with
  | none => .ok r
  | some (_, none) => .error .invalidValue
  | some (slot, some value) => do
    return { r with found := ← r.found.fill slot value, pending := none }

def takeFlag (r : ArgumentReader) (f : Flag) : Except UsageError ArgumentReader := do
  let s ← r.settle
  return { s with found := ← s.found.raise f }

/-- Take an option with its value, or with the value still to come. -/
def takeOption (r : ArgumentReader) (slot : Slot) (value : Option Text) :
    Except UsageError ArgumentReader := do
  let s ← r.settle
  match value with
  | some v => return { s with found := ← s.found.fill slot v }
  | none => return { s with pending := some (slot, none) }

def takePath (r : ArgumentReader) (path : Text) : Except UsageError ArgumentReader := do
  if r.named then throw .unknownArgument
  let s ← r.settle
  return { s with pending := some (.settings, some path), named := true }

def takeLong (r : ArgumentReader) (t : Text) : Except UsageError ArgumentReader :=
  let (name, value) : Text × Option Text := match Text.splitOnce? ['='] t with
    | some (name, value) => (name, some value)
    | none => (t, none)
  match Switch.long? name, value with
  | none, _ => .error .unknownArgument
  | some (.option slot), v => r.takeOption slot v
  | some _, some _ => .error .unneededValue
  | some (.flag f), none => r.takeFlag f
  | some .help, none => do
    let _ ← r.settle
    throw .helpRequested
  | some .version, none => do
    let _ ← r.settle
    throw .versionRequested

def takeShorts (r : ArgumentReader) : Text → Except UsageError ArgumentReader
  | [] => .ok r
  | c :: rest =>
    match Switch.short? c with
    | none => .error .unknownArgument
    | some (.flag f) => do takeShorts (← r.takeFlag f) rest
    | some (.option slot) =>
      r.takeOption slot (match rest with
        | [] => none
        | '=' :: value => some value
        | value => some value)
    | some .help => do
      let _ ← r.settle
      throw .helpRequested
    | some .version => do
      let _ ← r.settle
      throw .versionRequested

/-- Take all arguments; after two hyphens everything is a path. -/
def takeAll (r : ArgumentReader) : Bool → List Text → Except UsageError ArgumentReader
  | _, [] => .ok r
  | true, t :: rest => do takeAll (← r.takePath t) true rest
  | false, t :: rest =>
    match t with
    | ['-', '-'] => takeAll r true rest
    | '-' :: '-' :: name => do takeAll (← r.takeLong name) false rest
    | '-' :: c :: more => do takeAll (← r.takeShorts (c :: more)) false rest
    | _ =>
      match r.pending with
      | some (slot, none) => takeAll { r with pending := some (slot, some t) } false rest
      | _ => do takeAll (← r.takePath t) false rest

end ArgumentReader

def Arguments.parse (args : List Text) : Except UsageError Arguments := do
  let r ← ArgumentReader.takeAll ⟨.empty, none, false⟩ false args
  (← r.settle).found.check

end TemplateTree
