/-!
# Texts

A text is a list of characters, so that cutting, searching and replacing are
plain recursions on it.  This module holds the operations that only compare
characters: prefixes and suffixes, cutting at a separator, replacing, lines.
-/

namespace TemplateTree

/-- A text, as the list of its characters. -/
abbrev Text := List Char

instance : Coe String Text := ⟨String.toList⟩

namespace Text

def dropStart? : (start t : Text) → Option Text
  | [], t => some t
  | _ :: _, [] => none
  | a :: s, c :: t => if a = c then dropStart? s t else none

def startsWith (t start : Text) : Bool :=
  (dropStart? start t).isSome

def dropStop? (stop t : Text) : Option Text :=
  (dropStart? stop.reverse t.reverse).map List.reverse

def endsWith (t stop : Text) : Bool :=
  (dropStop? stop t).isSome

/-- The fragments between the leftmost, non-overlapping occurrences of a
separator, first fragment apart; `skip` characters of an occurrence are still to
be passed over. -/
def cutFrom (sep : Text) : Nat → Text → Text × List Text
  | _, [] => ([], [])
  | skip + 1, _ :: r => cutFrom sep skip r
  | 0, c :: r =>
    if startsWith (c :: r) sep then
      let (head, rest) := cutFrom sep (sep.length - 1) r
      ([], head :: rest)
    else
      let (head, rest) := cutFrom sep 0 r
      (c :: head, rest)

/-- The fragments between the leftmost, non-overlapping occurrences of a
separator.  The empty separator occurs around every character. -/
def splitBy (sep t : Text) : List Text :=
  if sep = [] then [] :: t.map ([·]) ++ [[]]
  else
    let (head, rest) := cutFrom sep 0 t
    head :: rest

/-- The number of leftmost, non-overlapping occurrences of a text. -/
def occurrences (sep t : Text) : Nat :=
  (splitBy sep t).length - 1

def splitOnce? (sep : Text) : Text → Option (Text × Text)
  | [] => if sep = [] then some ([], []) else none
  | c :: r =>
    match dropStart? sep (c :: r) with
    | some rest => some ([], rest)
    | none => (splitOnce? sep r).map fun (a, b) => (c :: a, b)

def includes (t part : Text) : Bool :=
  (splitOnce? part t).isSome

def joinWith (sep : Text) : List Text → Text
  | [] => []
  | [t] => t
  | t :: ts => t ++ sep ++ joinWith sep ts

/-- Every leftmost, non-overlapping occurrence of `old` replaced. -/
def replace (old new t : Text) : Text :=
  joinWith new (splitBy old t)

/-- The fragments of a text between the characters of a class. -/
def splitWhere (p : Char → Bool) : Text → List Text
  | [] => [[]]
  | c :: r =>
    if p c then [] :: splitWhere p r
    else (splitWhere p r).modifyHead (c :: ·)

def concat (ts : List Text) : Text :=
  ts.flatten

/-- Cut after every line feed; the last piece is left out when empty. -/
def linesWithEnds : Text → List Text
  | [] => []
  | c :: r =>
    if c = '\n' then [c] :: linesWithEnds r
    else
      match linesWithEnds r with
      | [] => [[c]]
      | l :: ls => (c :: l) :: ls

/-- A line without its ending, and the ending: a line feed, with a carriage
return before it if there is one. -/
def splitEnding : Text → Text × Text
  | [] => ([], [])
  | ['\r', '\n'] => ([], ['\r', '\n'])
  | ['\n'] => ([], ['\n'])
  | c :: r => ((c :: (splitEnding r).1), (splitEnding r).2)

def lines (t : Text) : List Text :=
  (linesWithEnds t).map fun l => (splitEnding l).1

def lowerAscii (t : Text) : Text :=
  t.map Char.toLower

def upperAscii (t : Text) : Text :=
  t.map Char.toUpper

def sameIgnoringCase (a b : Text) : Bool :=
  lowerAscii a = lowerAscii b

/-- The order of texts by code points, which is also the byte order of their
encodings. -/
def order : Text → Text → Ordering
  | [], [] => .eq
  | [], _ :: _ => .lt
  | _ :: _, [] => .gt
  | a :: s, b :: t =>
    if a.toNat < b.toNat then .lt
    else if b.toNat < a.toNat then .gt
    else order s t

def precedes (a b : Text) : Bool :=
  order a b == .lt

def filled (n : Nat) (c : Char) : Text :=
  List.replicate n c

def alignRight (width : Nat) (t : Text) : Text :=
  filled (width - t.length) ' ' ++ t

@[simp] theorem dropStart?_nil (t : Text) : dropStart? [] t = some t := by
  cases t <;> rfl

theorem dropStart?_eq_some_iff {start t rest : Text} :
    dropStart? start t = some rest ↔ t = start ++ rest := by
  induction start generalizing t with
  | nil => simp [eq_comm]
  | cons a s ih =>
    cases t with
    | nil => simp [dropStart?]
    | cons c t =>
      by_cases h : a = c
      · subst h; simp [dropStart?, ih]
      · have h' : ¬ c = a := fun e => h e.symm
        simp [dropStart?, h, h']

theorem startsWith_iff {t start : Text} : startsWith t start = true ↔ ∃ r, t = start ++ r := by
  simp [startsWith, Option.isSome_iff_exists, dropStart?_eq_some_iff]

theorem linesWithEnds_flatten (t : Text) : (linesWithEnds t).flatten = t := by
  induction t with
  | nil => rfl
  | cons c r ih =>
    by_cases h : c = '\n'
    · simp [linesWithEnds, h, ih]
    · cases hl : linesWithEnds r with
      | nil => simp_all [linesWithEnds]
      | cons l ls => simp_all [linesWithEnds]

end Text

end TemplateTree
