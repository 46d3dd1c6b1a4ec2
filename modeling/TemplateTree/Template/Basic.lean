import TemplateTree.Template.Reading
import TemplateTree.Template.Trim

/-!
# Parsed templates

A template is its pieces together with what others may use of it: its blocks,
its macros, the files it imports macros from, and the template it extends.
-/

namespace TemplateTree

/-- Why a template does not parse or render: what went wrong, and below it the
cause, and so on. -/
structure TemplateError where
  message : Text
  causes : List Text
  deriving DecidableEq, Repr

namespace TemplateError

def plain (message : Text) : TemplateError := ⟨message, []⟩

def causedBy (message : Text) (e : TemplateError) : TemplateError :=
  ⟨message, e.message :: e.causes⟩

/-- The error and its causes, one a line. -/
def chain (e : TemplateError) : Text :=
  e.message ++ e.causes.flatMap fun c => '\n' :: Text.trimEnd c

end TemplateError

namespace Template

structure MacroDef where
  name : Text
  params : List MacroParam
  body : List Piece

end Template

open Template in
structure Template where
  name : Text
  pieces : List Piece
  parent : Option Text
  /-- Its blocks, also those inside blocks, with their bodies. -/
  blocks : List (Text × List Piece)
  macros : List MacroDef
  /-- The files it imports macros from, with the names they are called under. -/
  imports : List (Text × Text)

namespace Template

mutual

/-- The blocks of a piece, the outermost first. -/
def blocksOf : Piece → List (Text × List Piece)
  | .block _ name body _ => (name, body) :: blocksIn body
  | _ => []

/-- The blocks of a list of pieces that stand there or in another block. -/
def blocksIn : List Piece → List (Text × List Piece)
  | [] => []
  | p :: rest => blocksOf p ++ blocksIn rest

end

/-- The first name that comes twice. -/
def firstDuplicate? : List Text → List Text → Option Text
  | _, [] => none
  | seen, n :: rest => if seen.contains n then some n else firstDuplicate? (n :: seen) rest

def macrosIn (pieces : List Piece) : List MacroDef :=
  pieces.filterMap fun p => match p with
    | .macroDef _ name params body _ => some ⟨name, params, body⟩
    | _ => none

def importsIn (pieces : List Piece) : List (Text × Text) :=
  pieces.filterMap fun p => match p with
    | .importMacros _ file scope => some (file, scope)
    | _ => none

def parentIn (pieces : List Piece) : Option Text :=
  (pieces.filterMap fun p => match p with
    | .extends _ parent => some parent
    | _ => none).getLast?

/-- A template from its pieces; names of blocks and macros may not come twice. -/
def ofPieces (name : Text) (pieces : List Piece) : Except Text Template :=
  let blocks := blocksIn pieces
  let macros := macrosIn pieces
  match firstDuplicate? [] (blocks.map Prod.fst) with
  | some n => .error ("Block `" ++ n ++ "` is duplicated")
  | none =>
    match firstDuplicate? [] (macros.map MacroDef.name) with
    | some n => .error ("Macro `" ++ n ++ "` is duplicated")
    | none => .ok ⟨name, pieces, parentIn pieces, blocks, macros, importsIn pieces⟩

/-- The line and column of a place in a text, both from one. -/
def lineAndColumn (t : Text) (place : Nat) : Nat × Nat :=
  let before := t.take place
  (before.count '\n' + 1, (before.reverse.takeWhile (· ≠ '\n')).length + 1)

/-- The report of a text that does not parse: the place and the line there. -/
def parseReport (t : Text) (place : Nat) : Text :=
  let (line, column) := lineAndColumn t place
  let number := Text.decimal line
  let shown := ((Text.splitWhere (· = '\n') t)[line - 1]?).getD []
  let margin := Text.filled number.length ' '
  margin ++ "--> " ++ number ++ ":" ++ Text.decimal column ++ "\n" ++ margin ++ " |\n" ++ number
    ++ " | " ++ shown ++ "\n" ++ margin ++ " | " ++ Text.filled (column - 1) ' ' ++ "^---"

def parse (name : Text) (t : Text) : Except TemplateError Template :=
  let failed (cause : Text) : TemplateError :=
    ⟨"Failed to parse '" ++ name ++ "'", [cause]⟩
  match Peg.parse grammar .template t with
  | .error place => .error (failed (parseReport t place))
  | .ok tree =>
    match readTemplate (Peg.depthFor t) tree with
    | .error e => .error (failed ("Integer out of bounds: `" ++ e.digits ++ "`"))
    | .ok pieces =>
      match ofPieces name (trimPieces false false pieces) with
      | .error m => .error (failed m)
      | .ok template => .ok template

def block? (t : Template) (name : Text) : Option (List Piece) :=
  t.blocks.lookup name

def macro? (t : Template) (name : Text) : Option MacroDef :=
  t.macros.find? (fun m => m.name = name)

end Template

end TemplateTree
