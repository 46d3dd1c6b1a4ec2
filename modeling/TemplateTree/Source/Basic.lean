import TemplateTree.Text.Blank

/-!
# Template sources

A source is processed before it is parsed: the line ending after a tag and the
indentation before one may be dropped.  The source remembers which line of the
template text each processed line begins in.
-/

namespace TemplateTree

/-- How the template engine treats white space and markup. -/
structure EngineOptions where
  /-- Drop the line ending after a block or comment tag. -/
  trimBlocks : Bool
  /-- Drop the spaces and tabs between the start of a line and a block or
  comment tag. -/
  stripIndent : Bool
  /-- Escape every expression for markup. -/
  autoescape : Bool
  deriving DecidableEq, Repr, Inhabited

/-- A template text after processing. -/
structure Source where
  text : Text
  processed : Text
  /-- The source line in which each processed line begins. -/
  lineMap : List Nat
  deriving DecidableEq, Repr

namespace Source

def beginsWithTag (t : Text) : Bool :=
  Text.startsWith t ['\x7b', '%'] || Text.startsWith t ['\x7b', '#']

def endsWithTag (t : Text) : Bool :=
  Text.endsWith t ['%', '\x7d'] || Text.endsWith t ['#', '\x7d']

def lineContent (o : EngineOptions) (content : Text) : Text :=
  let stripped := Text.dropLeading Text.isIndent content
  if o.stripIndent && beginsWithTag stripped then stripped else content

/-- Whether a line keeps its ending, which must not be empty. -/
def keepsEnding (o : EngineOptions) (content ending : Text) : Bool :=
  ending != [] && !(o.trimBlocks && endsWithTag content)

/-- The processed text of lines, and for each kept ending the number of the
line after it; `number` is the number of the first line. -/
def processLines (o : EngineOptions) : Nat → List Text → Text × List Nat
  | _, [] => ([], [])
  | number, line :: rest =>
    let (content, ending) := Text.splitEnding line
    let kept := lineContent o content
    let (text, map) := processLines o (number + 1) rest
    if keepsEnding o kept ending then (kept ++ ending ++ text, (number + 1) :: map)
    else (kept ++ text, map)

def ofText (o : EngineOptions) (t : Text) : Source :=
  let (processed, map) := processLines o 1 (Text.linesWithEnds t)
  ⟨t, processed, 1 :: map⟩

/-- The source line of a processed line; lines count from one, and a line
outside the text stands for itself. -/
def sourceLine (s : Source) (n : Nat) : Nat :=
  if n = 0 then n else (s.lineMap[n - 1]?).getD n

/-- The first source line that contains a text. -/
def findLine (s : Source) (needle : Text) : Option Nat :=
  ((Text.lines s.text).findIdx? (fun l => Text.includes l needle)).map (· + 1)

end Source

end TemplateTree
