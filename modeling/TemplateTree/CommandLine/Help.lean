import TemplateTree.CommandLine.Arguments
import TemplateTree.Run.Failure

/-!
# Help

The texts that the command line prints about itself: how it is used, why
arguments were not accepted, how a run failed, and completions for shells.
-/

namespace TemplateTree

def programName : Text := "tgen"

def versionLine : Text := programName ++ " 0.4.1\n"

def usageText : Text :=
  Text.joinWith ['\n'] (([
    "Usage: tgen [OPTIONS] [SETTINGS]",
    "",
    "  SETTINGS                      Settings document",
    "  -m, --only-modified           Only render templates modified since the last run",
    "  -g, --globals <LITERAL|PATH>  Override global namespace values",
    "      --silent                  Print progress dots and a short summary",
    "  -q, --quiet                   Print a line per template and the summary",
    "      --normal                  Also print a line per saved file",
    "  -v, --verbose                 Also print extension debug output and timing",
    "      --completions <SHELL>     Print shell completions and exit",
    "  -h, --help                    Print help",
    "  -V, --version                 Print version",
    ""] : List String).map String.toList)

def UsageError.message : UsageError → Text
  | missingArgument => "a settings document is required"
  | conflict => "an argument cannot be used together with another or twice"
  | unknownArgument => "unexpected argument"
  | invalidValue => "a value is missing or not one of the possible values"
  | unneededValue => "a flag takes no value"
  | helpRequested => usageText
  | versionRequested => versionLine

/-- Whether the reading of arguments ended because a text was asked for. -/
def UsageError.isRequest : UsageError → Bool
  | helpRequested => true
  | versionRequested => true
  | _ => false

def Failure.report (f : Failure) : Text :=
  "Error: " ++ f.code ++ "\n\n  " ++ f.message ++ ['\n']
    ++ (match f.help with
      | some advice => "  help: " ++ advice ++ ['\n']
      | none => [])

namespace CompletionShell

def words : List Text :=
  (["--only-modified", "--globals", "--silent", "--quiet", "--normal", "--verbose",
    "--completions", "--help", "--version"] : List String).map String.toList

def wrapped (before after : Text) : List Text :=
  words.map fun w => before ++ w ++ after

def script : CompletionShell → Text
  | bash => "complete -f -W '" ++ Text.joinWith [' '] words ++ "' tgen\n"
  | zsh =>
    "autoload -U +X bashcompinit && bashcompinit\ncomplete -f -W '"
      ++ Text.joinWith [' '] words ++ "' tgen\n"
  | fish => Text.concat ((words.map (·.drop 2)).map fun w => "complete -c tgen -l " ++ w ++ ['\n'])
  | elvish =>
    "set edit:completion:arg-completer[tgen] = \x7b|@words| put "
      ++ Text.joinWith [' '] words ++ " \x7d\n"
  | powershell =>
    "Register-ArgumentCompleter -Native -CommandName tgen -ScriptBlock \x7b param($word) @("
      ++ Text.joinWith [','] (wrapped ['\''] ['\'']) ++ ") -like \"$word*\" \x7d\n"

end CompletionShell

end TemplateTree
