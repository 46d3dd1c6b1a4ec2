import TemplateTree.Document.Outline
import TemplateTree.Text.Blank

/-!
# Tokens of indented documents

A document in indentation style is cut into tokens.  Indentation becomes
explicit: a block opens when the column grows and closes when it falls back.
A mapping key is recognised only at the colon after it, so the place of every
possible key is remembered and its token put in later.
-/

namespace TemplateTree.Yaml

inductive Token where
  | versionDirective (major minor : Nat)
  | tagDirective (handle lead : Text)
  | documentStart | documentEnd | streamEnd
  | blockSequence | blockMapping | blockEnd
  | flowSequence | flowSequenceEnd | flowMapping | flowMappingEnd
  | blockEntry | flowEntry | key | value
  | alias (name : Text)
  | anchor (name : Text)
  | tag (handle suffix : Text)
  | scalar (style : ScalarStyle) (text : Text)
  deriving DecidableEq, Repr

/-- A place in a document and the text from there on. -/
structure Cursor where
  rest : Text
  line : Nat
  column : Nat
  index : Nat

def isBreak (c : Char) : Bool :=
  c = '\n' || c = '\r' || c.toNat = 0x85 || c.toNat = 0x2028 || c.toNat = 0x2029

/-- A space or tab, a line break, or the end of the document. -/
def isGap : Option Char → Bool
  | none => true
  | some c => Text.isIndent c || isBreak c

namespace Cursor

def peek (p : Cursor) (k : Nat) : Option Char :=
  p.rest[k]?

def skip (p : Cursor) (k : Nat) : Cursor :=
  ⟨p.rest.drop k, p.line, p.column + k, p.index + k⟩

/-- Pass over a line break, which may have two characters; the text is what
the break contributes to a scalar. -/
def skipBreak (p : Cursor) : Text × Cursor :=
  match p.rest with
  | '\r' :: '\n' :: r => (['\n'], ⟨r, p.line + 1, 0, p.index + 2⟩)
  | c :: r =>
    let kept := if c.toNat = 0x2028 || c.toNat = 0x2029 then [c] else ['\n']
    if isBreak c then (kept, ⟨r, p.line + 1, 0, p.index + 1⟩) else ([], p)
  | [] => ([], p)

def atLineEnd (p : Cursor) : Bool :=
  match p.rest with
  | [] => true
  | c :: _ => isBreak c

def skipLine (p : Cursor) : Cursor :=
  p.skip (p.rest.takeWhile (fun c => !isBreak c)).length

def skipIndent (p : Cursor) : Cursor :=
  p.skip (p.rest.takeWhile Text.isIndent).length

/-- Whether a document marker of three equal characters stands here. -/
def atMarker (p : Cursor) (c : Char) : Bool :=
  p.column == 0 && p.rest.take 3 == [c, c, c] && isGap (p.peek 3)

def atBoundary (p : Cursor) : Bool :=
  p.atMarker '-' || p.atMarker '.'

end Cursor

end TemplateTree.Yaml
