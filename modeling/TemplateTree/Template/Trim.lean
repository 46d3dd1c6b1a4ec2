import TemplateTree.Template.Ast
import TemplateTree.Text.Blank

/-!
# White space around tags

A hyphen in a tag takes the white space off the text beside it, also across the
first and last tag of a construct.  Texts of which nothing is left go.
-/

namespace TemplateTree.Template

def Piece.trimsBefore : Piece → Bool
  | .text _ => false
  | .output t _ => t.before
  | .overridden => false
  | .macroDef t _ _ _ _ => t.before
  | .extends t _ => t.before
  | .include t _ _ => t.before
  | .importMacros t _ _ => t.before
  | .assign t _ _ _ => t.before
  | .raw t _ _ => t.before
  | .filtered t _ _ _ => t.before
  | .loop t _ _ _ _ _ _ => t.before
  | .leave t => t.before
  | .next t => t.before
  | .block t _ _ _ => t.before
  | .branch cases _ => (cases.head?).any (fun c => c.trim.before)
  | .comment t => t.before

/-- Whether a piece takes white space off the text after it, where `already`
tells whether that is so at the piece. -/
def Piece.trimsAfter (already : Bool) : Piece → Bool
  | .text _ => false
  | .output t _ => t.after
  -- This tag has no trims of its own, and one before it reaches across.
  | .overridden => already
  | .macroDef _ _ _ _ t => t.after
  | .extends t _ => t.after
  | .include t _ _ => t.after
  | .importMacros t _ _ => t.after
  | .assign t _ _ _ => t.after
  | .raw _ _ t => t.after
  | .filtered _ _ _ t => t.after
  | .loop _ _ _ _ _ _ t => t.after
  | .leave t => t.after
  | .next t => t.after
  | .block _ _ _ t => t.after
  | .branch _ t => t.after
  | .comment t => t.after

def trimText (before after : Bool) (t : Text) : Text :=
  let start := if before then Text.trimStart t else t
  if after then Text.trimEnd start else start

mutual

/-- Pieces with white space taken off their texts; `before` and `after` tell
whether that is so at the ends of the list. -/
def trimPieces (before after : Bool) : List Piece → List Piece
  | [] => []
  | .text t :: rest =>
    let atEnd := match rest with
      | [] => after
      | p :: _ => p.trimsBefore
    let kept := trimText before atEnd t
    -- A text of which nothing is left still ends what the tag before it trims.
    if kept = [] then trimPieces false after rest
    else .text kept :: trimPieces false after rest
  | p :: rest => trimPiece p :: trimPieces (p.trimsAfter before) after rest

def trimPiece : Piece → Piece
  | .macroDef first name params body last =>
    .macroDef first name params (trimPieces first.after last.before body) last
  | .raw first t last => .raw first (trimText first.after last.before t) last
  | .filtered first filter body last =>
    .filtered first filter (trimPieces first.after last.before body) last
  | .loop first key item container body alternative last =>
    .loop first key item container (trimPieces first.after last.before body) alternative last
  | .block first name body last => .block first name (trimPieces first.after last.before body) last
  | .branch cases last => .branch (trimCases last cases) last
  | p => p

/-- The cases of a conditional trimmed, where `last` is the trim of the tag that
ends it. -/
def trimCases (last : Trim) : List Case → List Case
  | [] => []
  | .mk trim condition body :: rest =>
    let atEnd := match rest with
      | [] => last.before
      | c :: _ => c.trim.before
    .mk trim condition (trimPieces trim.after atEnd body) :: trimCases last rest

end

end TemplateTree.Template
