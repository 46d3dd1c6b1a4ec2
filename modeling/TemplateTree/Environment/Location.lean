import TemplateTree.Text.Blank
import TemplateTree.Text.Decimal
import TemplateTree.Text.Letters

/-!
# Places in error messages

Error messages of templates tell in their text where the error is: by a line
and column, by the name of a template, or by what is not known there.
-/

namespace TemplateTree.Location

/-- The first result at a suffix of a text. -/
def firstAt (find? : Text → Option α) : Text → Option α
  | [] => find? []
  | c :: r => (find? (c :: r)).orElse fun _ => firstAt find? r

/-- The line of an arrow with a line and column at the start of a text. -/
def arrowLine? (t : Text) : Option Text := do
  let rest ← Text.dropStart? "-->" t
  let numbers := Text.trimStart rest
  let line := numbers.takeWhile Text.isDecimalDigit
  let column ← Text.dropStart? [':'] (numbers.drop line.length)
  if line ≠ [] && column.head?.any Text.isDecimalDigit then some line else none

/-- The line that a message gives; the first arrow counts. -/
def line? (message : Text) : Option Nat :=
  (firstAt arrowLine? message).bind (Text.readBelow? (Nat.pow 2 64))

def markedAfter? (words : List String) (isMark : Char → Bool) (t : Text) : Option Text := do
  let rest ← words.findSome? fun (w : String) => Text.dropStart? (w ++ [' ']) t
  match rest with
  | [] => none
  | c :: r =>
    -- Any mark closes the part, but the end of the text does not.
    let part := r.takeWhile (fun d => !isMark d)
    if isMark c && part ≠ [] && part.length < r.length then some part else none

def template? (message : Text) : Option Text :=
  firstAt (markedAfter? ["parse", "Template"] fun c => c = '\'' || c = '"') message

def identifier? (message : Text) : Option Text :=
  firstAt (markedAfter? ["Variable", "Filter", "Function", "Test"] (· = '`')) message

end TemplateTree.Location
