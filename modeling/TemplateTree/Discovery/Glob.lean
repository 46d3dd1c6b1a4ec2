import TemplateTree.Text.Decimal

/-!
# Name patterns

Patterns for file names: `*` stands for any characters, `?` for one, brackets
for one of a set, and `**` as a whole path component for any number of
components.
-/

namespace TemplateTree

/-- One item of a bracketed set. -/
inductive CharSpan where
  | single (c : Char)
  | range (low high : Char)
  deriving DecidableEq, Repr

inductive GlobToken where
  | char (c : Char)
  | anyChar
  | anySequence
  | anyComponents
  | within (spans : List CharSpan)
  | except (spans : List CharSpan)
  deriving DecidableEq, Repr

structure Glob where
  text : Text
  tokens : List GlobToken
  deriving DecidableEq, Repr

/-- Why a pattern is refused, and where. -/
inductive GlobError where
  | wildcards (position : Nat)
  | components (position : Nat)
  | range (position : Nat)
  deriving DecidableEq, Repr

def GlobError.message (e : GlobError) : Text :=
  let (position, reason) : Nat × Text := match e with
    | .wildcards n => (n, "wildcards are either regular `*` or recursive `**`")
    | .components n => (n, "recursive wildcards must form a single path component")
    | .range n => (n, "invalid range pattern")
  "Pattern syntax error near position " ++ Text.decimal position ++ ": " ++ reason

namespace Glob

def spans : Text → List CharSpan
  | a :: '-' :: b :: r => .range a b :: spans r
  | a :: r => .single a :: spans r
  | [] => []

/-- The text up to the first closing bracket after the first character, and the
text after that bracket. -/
def bracketBody? : Text → Option (Text × Text)
  | [] => none
  | c :: r =>
    match r.dropWhile (· ≠ ']') with
    | [] => none
    | _ :: rest => some (c :: r.takeWhile (· ≠ ']'), rest)

/-- Put a token for any components behind others; two in a row become one. -/
def pushComponents (back : List GlobToken) : List GlobToken :=
  match back with
  | .anyComponents :: _ :: _ => back
  | _ => .anyComponents :: back

/-- Compile the rest of a pattern; `back` holds the tokens so far, last one
first, `position` counts the characters read and `before` is the last of
them. -/
def compileFrom : Nat → List GlobToken → Nat → Option Char → Text →
    Except GlobError (List GlobToken)
  | 0, back, _, _, _ => .ok back.reverse
  | _, back, _, _, [] => .ok back.reverse
  | fuel + 1, back, position, before, c :: r =>
    if c = '?' then compileFrom fuel (.anyChar :: back) (position + 1) (some c) r
    else if c = '*' then
      let stars := (r.takeWhile (· = '*')).length + 1
      let rest := r.dropWhile (· = '*')
      if stars > 2 then .error (.wildcards (position + 2))
      else if stars = 1 then compileFrom fuel (.anySequence :: back) (position + 1) (some c) rest
      -- Two stars are a whole component: a slash or an end is on either side.
      else if before.any (· ≠ '/') then .error (.components (position - 1))
      else
        match rest with
        | [] => .ok (pushComponents back).reverse
        | d :: rest' =>
          if d = '/' then compileFrom fuel (pushComponents back) (position + 3) (some d) rest'
          else .error (.components (position + 2))
    else if c = '[' then
      let (negated, body) := match r with
        | '!' :: r' => (true, r')
        | r' => (false, r')
      match bracketBody? body with
      | none => .error (.range position)
      | some (set, rest) =>
        let token := if negated then GlobToken.except (spans set) else .within (spans set)
        let width := set.length + (if negated then 3 else 2)
        compileFrom fuel (token :: back) (position + width) (some ']') rest
    else compileFrom fuel (.char c :: back) (position + 1) (some c) r

def compile (t : Text) : Except GlobError Glob := do
  return ⟨t, ← compileFrom (t.length + 1) [] 0 none t⟩

def inSpan (c : Char) : CharSpan → Bool
  | .single a => c = a
  | .range a b => a ≤ c && c ≤ b

def takesChar (c : Char) : GlobToken → Bool
  | .char a => c = a
  | .anyChar => true
  | .within s => s.any (inSpan c)
  | .except s => !s.any (inSpan c)
  | .anySequence => false
  | .anyComponents => false

/-- Whether `rest` takes some end of a text. -/
def someSuffix (rest : Text → Bool) : Text → Bool
  | [] => rest []
  | c :: r => rest (c :: r) || someSuffix rest r

/-- Whether `rest` takes the end of a text after one of its slashes, or the
empty end. -/
def someComponentSuffix (rest : Text → Bool) : Text → Bool
  | [] => rest []
  | c :: r => (c = '/' && rest r) || someComponentSuffix rest r

def takesText : List GlobToken → Text → Bool
  | [], t => t = []
  | .anySequence :: ts, t => someSuffix (takesText ts) t
  | .anyComponents :: ts, t => takesText ts t || someComponentSuffix (takesText ts) t
  | k :: ts, t =>
    match t with
    | [] => false
    | c :: r => takesChar c k && takesText ts r

def takes (g : Glob) (name : Text) : Bool :=
  takesText g.tokens name

end Glob

end TemplateTree
