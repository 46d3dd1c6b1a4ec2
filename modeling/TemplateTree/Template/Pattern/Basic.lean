import TemplateTree.Text.Blank
import TemplateTree.Text.Letters
import TemplateTree.Text.Case

/-!
# Patterns

Regular expressions that a text is tested against.  A pattern relates a place in
a text to the places where a match that begins there can end; a text matches if
a match begins anywhere in it.
-/

namespace TemplateTree.Template

inductive CharClass where
  | range (low high : Char)
  | digit
  | word
  | space
  | none
  | union (a b : CharClass)
  | complement (a : CharClass)
  /-- The characters of a class in either case. -/
  | caseless (a : CharClass)

/-- A character in another case, where that is a single character. -/
def otherCases (c : Char) : Text :=
  match Text.upperOf c, Text.toLower [c] with
  | [u], [l] => [u, l]
  | [u], _ => [u]
  | _, [l] => [l]
  | _, _ => []

def CharClass.holds (c : Char) : CharClass → Bool
  | range low high => low ≤ c && c ≤ high
  | digit => Text.isDecimalDigit c
  | word => Text.isWordChar c
  | space => Text.isSpace c
  | none => false
  | union a b => a.holds c || b.holds c
  | complement a => !a.holds c
  | caseless a => a.holds c || (otherCases c).any fun d => a.holds d

inductive Pattern where
  | empty
  | one (k : CharClass)
  /-- The start of the text, or of any line. -/
  | start (ofLine : Bool)
  /-- The end of the text, or of any line. -/
  | stop (ofLine : Bool)
  /-- A place between a word character and none, or no such place. -/
  | boundary (negated : Bool)
  | seq (a b : Pattern)
  | either (a b : Pattern)
  | star (a : Pattern)

namespace Pattern

/-- A place in a text: the character before it and what follows. -/
structure Place where
  before : Option Char
  after : Text
  deriving DecidableEq

/-- Whether a place lies between a word character and none. -/
def Place.isBoundary (p : Place) : Bool :=
  p.before.any Text.isWordChar != p.after.head?.any Text.isWordChar

def distinct (ps : List Place) : List Place :=
  ps.foldl (fun seen p => if seen.any (fun q => q.after.length = p.after.length) then seen
    else seen ++ [p]) []

/-- The places in `seen` and all that are reached by repeating a step from the
pending ones. -/
def closure (step : Place → List Place) : Nat → List Place → List Place → List Place
  | 0, seen, _ => seen
  | _ + 1, seen, [] => seen
  | fuel + 1, seen, pending =>
    let fresh := (distinct (pending.flatMap step)).filter fun p =>
      !seen.any (fun q => q.after.length = p.after.length)
    closure step fuel (seen ++ fresh) fresh

/-- Where a match can end that begins at a place. -/
def ends : Pattern → Place → List Place
  | empty, p => [p]
  | one k, p =>
    match p.after with
    | c :: r => if k.holds c then [⟨some c, r⟩] else []
    | [] => []
  | start ofLine, p => if p.before.all (fun c => ofLine && c = '\n') then [p] else []
  | stop ofLine, p => if p.after.head?.all (fun c => ofLine && c = '\n') then [p] else []
  | boundary negated, p => if p.isBoundary != negated then [p] else []
  | seq a b, p => distinct ((a.ends p).flatMap b.ends)
  | either a b, p => distinct (a.ends p ++ b.ends p)
  | star a, p => closure a.ends (p.after.length + 1) [p] [p]

def occursFrom (r : Pattern) (before : Option Char) : Text → Bool
  | [] => r.ends ⟨before, []⟩ ≠ []
  | c :: t => r.ends ⟨before, c :: t⟩ ≠ [] || occursFrom r (some c) t

def occursIn (r : Pattern) (t : Text) : Bool :=
  r.occursFrom none t

/-- A pattern at least `low` and at most `high` times. -/
def repeated (a : Pattern) (low : Nat) (high : Option Nat) : Pattern :=
  let tail := match high with
    | none => star a
    | some h => (List.range (h - low)).foldl (fun r _ => either (seq a r) empty) empty
  (List.range low).foldl (fun r _ => seq a r) tail

end Pattern

end TemplateTree.Template
