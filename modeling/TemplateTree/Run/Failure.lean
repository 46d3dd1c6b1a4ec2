import TemplateTree.Files.Path
import TemplateTree.Text.Decimal

/-!
# Failures

The ways in which a run can fail, with the code, the wording and the advice that
go with each.
-/

namespace TemplateTree

/-- Why a run failed. -/
inductive Failure where
  /-- A file could not be read or written. -/
  | io (path : Path) (message : Text)
  /-- The settings or an override are not as they should be. -/
  | configuration (message : Text) (help : Option Text)
  | noTemplates (dir : Path)
  | noStencils (name : Text) (dir : Path)
  /-- A template does not parse or does not render. -/
  | template (file : Text) (line : Option Nat) (message : Text)
  /-- Rendered text does not describe files. -/
  | malformed (name : Text) (message : Text)
  | missingDirectory (dir : Path)
  | extension (name message : Text)
  /-- A command ended with a status other than zero, or with none. -/
  | command (line : Text) (status : Option Int) (stderr : Text)
  deriving DecidableEq, Repr

namespace Failure

def config (message : Text) : Failure :=
  .configuration message none

def code : Failure → Text
  | io .. => "tgen::io"
  | configuration .. => "tgen::config"
  | noTemplates .. => "tgen::no_templates"
  | noStencils .. => "tgen::no_stencils"
  | template .. => "tgen::template"
  | malformed .. => "tgen::output_structure"
  | missingDirectory .. => "tgen::missing_directory"
  | extension .. => "tgen::extension"
  | command .. => "tgen::command"

def help : Failure → Option Text
  | configuration _ h => h
  | noTemplates .. =>
    some "Check `included_suffixes` and that templates live outside the stencil directory"
  | noStencils .. => some "Set `stencil_dir_name` to \"\" if the project has no stencils"
  | malformed .. =>
    some "Every file section needs one new-file marker line and exactly one content marker"
  | missingDirectory .. => some "Create it, or set `create_directories` to true"
  | _ => none

def statusText : Option Int → Text
  | some n => "status " ++ Text.signedDecimal n
  | none => "no status (terminated by signal)"

def lineText : Option Nat → Text
  | some n => " (line " ++ Text.decimal n ++ ")"
  | none => []

def message : Failure → Text
  | io path m => "IO error with " ++ path ++ ": " ++ m
  | configuration m _ => "Configuration error: " ++ m
  | noTemplates dir => "No templates found in " ++ dir
  | noStencils name dir =>
    "No stencils found in directories named \"" ++ name ++ "\" under " ++ dir
  | template file line m => "Template error in " ++ file ++ lineText line ++ ": " ++ m
  | malformed name m => "Malformed output from " ++ name ++ ": " ++ m
  | missingDirectory dir => "Output directory " ++ dir ++ " does not exist"
  | extension name m => "Extension \"" ++ name ++ "\" failed: " ++ m
  | command line status stderr =>
    "Command `" ++ line ++ "` exited with " ++ statusText status ++ ": " ++ stderr

end Failure

end TemplateTree
