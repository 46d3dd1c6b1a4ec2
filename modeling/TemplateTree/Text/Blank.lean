import TemplateTree.Text.Basic

/-!
# White space

The characters that count as white space, and trimming, which takes them off
the ends of a text.
-/

namespace TemplateTree.Text

/-- A white-space character of any script. -/
def isSpace (c : Char) : Bool :=
  let n := c.toNat
  (9 ≤ n && n ≤ 13) || n == 32 || n == 0x85 || n == 0xA0 || n == 0x1680
    || (0x2000 ≤ n && n ≤ 0x200A) || n == 0x2028 || n == 0x2029 || n == 0x202F
    || n == 0x205F || n == 0x3000

/-- A space or a tab. -/
def isIndent (c : Char) : Bool :=
  c = ' ' || c = '\t'

/-- The text from its first character outside a class. -/
def dropLeading (p : Char → Bool) (t : Text) : Text :=
  t.dropWhile p

/-- The text up to its last character outside a class. -/
def dropTrailing (p : Char → Bool) (t : Text) : Text :=
  t.foldr (fun c r => if r = [] && p c then [] else c :: r) []

def trimStart (t : Text) : Text :=
  dropLeading isSpace t

def trimEnd (t : Text) : Text :=
  dropTrailing isSpace t

def trim (t : Text) : Text :=
  trimEnd (trimStart t)

def isBlank (t : Text) : Bool :=
  t.all isSpace

/-- The maximal runs of characters outside a class. -/
def fieldsWhere (p : Char → Bool) (t : Text) : List Text :=
  (splitWhere p t).filter (· ≠ [])

def words (t : Text) : List Text :=
  fieldsWhere isSpace t

theorem trimStart_eq_nil_iff {t : Text} : trimStart t = [] ↔ isBlank t = true := by
  induction t with
  | nil => simp [trimStart, dropLeading, isBlank]
  | cons c r ih =>
    by_cases h : isSpace c = true
    · simp_all [trimStart, dropLeading, isBlank]
    · simp [trimStart, dropLeading, isBlank, h]

@[simp] theorem dropTrailing_nil (p : Char → Bool) : dropTrailing p [] = [] := rfl

theorem dropTrailing_cons (p : Char → Bool) (c : Char) (t : Text) :
    dropTrailing p (c :: t) =
      if dropTrailing p t = [] && p c then [] else c :: dropTrailing p t := rfl

end TemplateTree.Text
