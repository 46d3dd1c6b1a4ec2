import TemplateTree.Template.Argument
import TemplateTree.Text.Blank
import TemplateTree.Text.Case
import TemplateTree.Text.Clusters
import TemplateTree.Text.Letters

/-!
# Filters of texts

Filters that take a text and give a text or a list of texts.
-/

namespace TemplateTree.Template

def escapedMarkup (c : Char) : Text :=
  if c = '&' then "&amp;"
  else if c = '<' then "&lt;"
  else if c = '>' then "&gt;"
  else if c = '"' then "&quot;"
  else if c = '\'' then "&#x27;"
  else if c = '/' then "&#x2F;"
  else [c]

def escapeMarkup (t : Text) : Text :=
  t.flatMap escapedMarkup

def escapedStrictly (c : Char) : Text :=
  if c = '\'' then "&apos;" else if c = '/' then [c] else escapedMarkup c

/-- The first character in upper case, the others in lower case. -/
def capitalized : Text → Text
  | [] => []
  | c :: r => Text.upperOf c ++ Text.toLower r

/-- A run of word characters and apostrophes with its first letter in upper case
and the others in lower case. -/
def titledRun (run : Text) : Text :=
  let word := run.dropWhile (· = '\'')
  match word with
  | [] => run
  | c :: r => run.take (run.length - word.length) ++ Text.upperOf c ++ Text.toLower r

/-- Every run of word characters and apostrophes titled; `run` is the one under
way, last character first. -/
def titledFrom (run : Text) : Text → Text
  | [] => titledRun run.reverse
  | c :: r =>
    if Text.isWordChar c || c = '\'' then titledFrom (c :: run) r
    else titledRun run.reverse ++ c :: titledFrom [] r

/-- The lines of a text behind `lead`, except blank ones unless `blank` is set;
the first line is not moved unless `first` is set. -/
def indented (lead : Text) (first blank : Bool) (t : Text) : Text :=
  match Text.lines t with
  | [] => []
  | l :: ls =>
    (if first then lead ++ l else l)
      ++ ls.flatMap fun m => '\n' :: (if blank || !Text.isBlank m then lead ++ m else m)

/-- The rest of a text after a comment that it begins with, which ends on the
same line. -/
def afterComment? (t : Text) : Option Text := do
  let rest ← Text.dropStart? "<!--" t
  let (body, after) ← Text.splitOnce? "-->" rest
  if body.contains '\n' then none else some after

def afterTag? (t : Text) : Option Text := do
  let rest ← Text.dropStart? "<" t
  let (_, after) ← Text.splitOnce? ">" rest
  return after

/-- A text without tags and comments; `skip` characters are still to be passed
over. -/
def withoutTags : Nat → Text → Text
  | _, [] => []
  | skip + 1, _ :: r => withoutTags skip r
  | 0, c :: r =>
    match (afterComment? (c :: r)).orElse fun _ => afterTag? (c :: r) with
    | some rest => withoutTags (r.length - rest.length) r
    | none => c :: withoutTags 0 r

/-- A text without the white space between tags; `skip` characters are still to
be passed over. -/
def withoutGaps : Nat → Text → Text
  | _, [] => []
  | skip + 1, _ :: r => withoutGaps skip r
  | 0, c :: r =>
    let rest := Text.trimStart r
    if c = '>' && rest.length < r.length && rest.head? = some '<' then
      '>' :: withoutGaps (r.length - rest.length) r
    else c :: withoutGaps 0 r

/-- A text cut after a number of clusters, with an ending put in place of what is
lost. -/
def truncated (length : Nat) (ending t : Text) : Text :=
  let parts := Text.clusters t
  if parts.length ≤ length then t else (parts.take length).flatten ++ ending

/-- All copies of `pat` taken off the start of a text; a text has no more copies
than `fuel` characters. -/
def dropCopies (pat : Text) : Nat → Text → Text
  | 0, t => t
  | fuel + 1, t =>
    if pat = [] then t
    else
      match Text.dropStart? pat t with
      | some rest => dropCopies pat fuel rest
      | none => t

def textFilter (name : String) (change : Text → Text) : Filter := fun v _ => do
  return .string (change (← subject name .text v))

/-- A filter that changes a text by another one named `pat`. -/
def patternFilter (name : String) (change : Text → Text → Value) : Filter := fun v args => do
  let t ← subject name .text v
  let pat ← argument name .text args "pat" (missing name "pat")
  return change (unescaped pat) t

def replaceFilter : Filter := fun v args => do
  let t ← subject "replace" .text v
  let old ← argument "replace" .text args "from" (missing "replace" "from")
  let new ← argument "replace" .text args "to" (missing "replace" "to")
  return .string (Text.replace old new t)

def truncateFilter : Filter := fun v args => do
  let t ← subject "truncate" .text v
  let length ← argumentOr "truncate" .count args "length" 255
  let ending ← argumentOr "truncate" .text args "end" ['…']
  return .string (truncated length ending t)

def indentFilter : Filter := fun v args => do
  let t ← subject "indent" .text v
  let lead ← argumentOr "indent" .text args "prefix" "    "
  let first ← argumentOr "indent" .truth args "first" false
  let blank ← argumentOr "indent" .truth args "blank" false
  return .string (indented lead first blank t)

def textFilters : List (String × Filter) := [
  ("upper", textFilter "upper" Text.toUpper),
  ("lower", textFilter "lower" Text.toLower),
  ("capitalize", textFilter "capitalize" capitalized),
  ("title", textFilter "title" (titledFrom [])),
  ("trim", textFilter "trim" Text.trim),
  ("trim_start", textFilter "trim_start" Text.trimStart),
  ("trim_end", textFilter "trim_end" Text.trimEnd),
  ("trim_start_matches", patternFilter "trim_start_matches" fun pat t =>
    .string (dropCopies pat t.length t)),
  ("trim_end_matches", patternFilter "trim_end_matches" fun pat t =>
    .string (dropCopies pat.reverse t.length t.reverse).reverse),
  ("split", patternFilter "split" fun pat t => .array ((Text.splitBy pat t).map Value.string)),
  ("replace", replaceFilter),
  ("truncate", truncateFilter),
  ("indent", indentFilter),
  ("wordcount", fun v _ => do
    return .ofNat (Text.words (← subject "wordcount" .text v)).length),
  ("striptags", textFilter "striptags" (withoutTags 0)),
  ("spaceless", textFilter "spaceless" (withoutGaps 0)),
  ("linebreaksbr", textFilter "linebreaksbr" fun t =>
    Text.replace "\n" "<br>" (Text.replace "\r\n" "<br>" t)),
  ("escape", textFilter "escape" escapeMarkup),
  ("escape_xml", textFilter "escape_xml" (·.flatMap escapedStrictly)),
  ("addslashes", textFilter "addslashes" (·.flatMap fun c =>
    if c = '\\' || c = '"' || c = '\'' then ['\\', c] else [c]))]

end TemplateTree.Template
