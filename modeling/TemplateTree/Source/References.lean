import TemplateTree.Text.Blank
import TemplateTree.Text.Letters

/-!
# References between templates

The names that a template text quotes in its tags for including, extending and
importing.  The scan is of the text alone; it also finds names in comments.
-/

namespace TemplateTree.Source

/-- The quoted parts of a text, where a quote ends at the next one of its kind;
`skip` characters are still to be passed over. -/
def literals : Nat → Text → List Text
  | _, [] => []
  | skip + 1, _ :: r => literals skip r
  | 0, c :: r =>
    if c = '"' || c = '\'' || c = '`' then
      match Text.splitOnce? [c] r with
      | some (inside, _) => inside :: literals (inside.length + 1) r
      -- A quote without a counterpart is passed over alone.
      | none => literals 0 r
    else literals 0 r

/-- What follows one of the words that begin a reference. -/
def afterKeyword? (t : Text) : Option Text :=
  let rest := ["include", "extends", "import"].findSome? fun (word : String) =>
    Text.dropStart? word t
  rest.filter fun r => !(r.head?).any Text.isWordChar

/-- The inside of a tag that refers to templates, at the start of a text, and
what follows the tag. -/
def referringTag? (t : Text) : Option (Text × Text) := do
  let opened ← Text.dropStart? ['\x7b', '%'] t
  let inner := (Text.dropStart? ['-'] opened).getD opened
  let arguments ← afterKeyword? (Text.trimStart inner)
  -- The first end of a tag counts, also one between quotes.
  let (inside, rest) ← Text.splitOnce? ['%', '\x7d'] arguments
  return ((Text.dropStop? ['-'] inside).getD inside, rest)

/-- The names quoted in the tags of a text that refer to templates; `skip`
characters are still to be passed over. -/
def referencesFrom : Nat → Text → List Text
  | _, [] => []
  | skip + 1, _ :: r => referencesFrom skip r
  | 0, c :: r =>
    match referringTag? (c :: r) with
    | some (inside, rest) => literals 0 inside ++ referencesFrom (r.length - rest.length) r
    | none => referencesFrom 0 r

/-- The names quoted in the tags of a text that refer to templates. -/
def references (t : Text) : List Text :=
  referencesFrom 0 t

end TemplateTree.Source
