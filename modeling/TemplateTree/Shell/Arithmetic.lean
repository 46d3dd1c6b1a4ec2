import TemplateTree.Text.Blank
import TemplateTree.Text.Decimal

/-!
# Arithmetic of the shell

Expressions over signed 64-bit integers that wrap around, with the operators of
the shell from loosest to tightest.
-/

namespace TemplateTree.Shell.Arithmetic

inductive Fault where
  | primary
  | divisionByZero
  deriving DecidableEq, Repr

def Fault.message (f : Fault) (t : Text) : Text :=
  let reason : Text := match f with
    | primary => "expecting primary"
    | divisionByZero => "division by zero"
  "arithmetic expression: " ++ reason ++ ": \"" ++ t ++ "\""

/-- An integer wrapped around to 64 bits. -/
def wrapped (n : Int) : Int :=
  Int.bmod n (Nat.pow 2 64)

def ofBool (b : Bool) : Int :=
  if b then 1 else 0

/-- The two's complement of an integer. -/
def toWord (n : Int) : Nat :=
  (n % Nat.pow 2 64).toNat

/-- The operators by rank, from loosest to tightest; within a rank longer ones
come first. -/
def ranks : List (List (String × (Int → Int → Except Fault Int))) :=
  let pure2 (f : Int → Int → Int) : Int → Int → Except Fault Int := fun a b => .ok (wrapped (f a b))
  let words (f : Nat → Nat → Nat) : Int → Int → Except Fault Int := fun a b =>
    .ok (wrapped (f (toWord a) (toWord b)))
  let divided (f : Int → Int → Int) : Int → Int → Except Fault Int := fun a b =>
    if b = 0 then .error .divisionByZero else .ok (wrapped (f a b))
  [[("||", pure2 fun a b => ofBool (a ≠ 0 || b ≠ 0))],
   [("&&", pure2 fun a b => ofBool (a ≠ 0 && b ≠ 0))],
   [("|", words (· ||| ·))],
   [("^", words (· ^^^ ·))],
   [("&", words (· &&& ·))],
   [("==", pure2 fun a b => ofBool (a = b)), ("!=", pure2 fun a b => ofBool (a ≠ b))],
   [("<=", pure2 fun a b => ofBool (a ≤ b)), (">=", pure2 fun a b => ofBool (b ≤ a)),
     ("<", pure2 fun a b => ofBool (a < b)), (">", pure2 fun a b => ofBool (b < a))],
   [("<<", pure2 fun a b => a * Nat.pow 2 (toWord b % 64)),
     (">>", pure2 fun a b => a / Nat.pow 2 (toWord b % 64))],
   [("+", pure2 (· + ·)), ("-", pure2 (· - ·))],
   [("*", pure2 (· * ·)), ("/", divided Int.tdiv), ("%", divided Int.tmod)]]

/-- The operator of a rank at the start of a text; one that only begins a longer
operator of another rank does not count. -/
def operator? (rank : List (String × (Int → Int → Except Fault Int))) (t : Text) :
    Option ((Int → Int → Except Fault Int) × Text) :=
  let longest := (ranks.flatten.map fun p => p.1.toList).foldl (fun (best : Text) mark =>
    if Text.startsWith t mark && best.length < mark.length then mark else best) []
  (rank.find? fun p => p.1.toList = longest).map fun p => (p.2, t.drop longest.length)

/-- The value of a numeral: decimal, octal after a zero, or hexadecimal. -/
def numeral? (t : Text) : Option Int :=
  (match t with
    | '0' :: 'x' :: r => Text.readBase? 16 r
    | '0' :: 'X' :: r => Text.readBase? 16 r
    | '0' :: d :: r => Text.readBase? 8 (d :: r)
    | t => Text.readDigits? t).map fun n => wrapped n

mutual

/-- The value of an expression of the given ranks at the start of a text. -/
def readRanks (valueOf : Text → Text) :
    Nat → List (List (String × (Int → Int → Except Fault Int))) → Text → Except Fault (Int × Text)
  | 0, _, _ => .error .primary
  | fuel + 1, [], t => readUnary valueOf fuel t
  | fuel + 1, rank :: tighter, t => do
    let (a, rest) ← readRanks valueOf fuel tighter t
    readMore valueOf fuel rank tighter a rest

def readMore (valueOf : Text → Text) :
    Nat → List (String × (Int → Int → Except Fault Int)) →
      List (List (String × (Int → Int → Except Fault Int))) → Int → Text →
      Except Fault (Int × Text)
  | 0, _, _, _, _ => .error .primary
  | fuel + 1, rank, tighter, a, t =>
    match operator? rank (Text.trimStart t) with
    | none => .ok (a, t)
    | some (op, rest) => do
      let (b, after) ← readRanks valueOf fuel tighter rest
      readMore valueOf fuel rank tighter (← op a b) after

def readUnary (valueOf : Text → Text) : Nat → Text → Except Fault (Int × Text)
  | 0, _ => .error .primary
  | fuel + 1, t =>
    match Text.trimStart t with
    | '-' :: r => do
      let (a, rest) ← readUnary valueOf fuel r
      return (wrapped (-a), rest)
    | '+' :: r => readUnary valueOf fuel r
    | '!' :: r => do
      let (a, rest) ← readUnary valueOf fuel r
      return (ofBool (a = 0), rest)
    | '~' :: r => do
      let (a, rest) ← readUnary valueOf fuel r
      return (-a - 1, rest)
    | '(' :: r => do
      let (a, rest) ← readRanks valueOf fuel ranks r
      match Text.trimStart rest with
      | ')' :: after => return (a, after)
      | _ => throw .primary
    | r =>
      let word := r.takeWhile fun c => c.isAlphanum || c = '_'
      let after := r.drop word.length
      if word.head?.any Char.isDigit then
        match numeral? word with
        | some n => .ok (n, after)
        | none => .error .primary
      else if word = [] then .error .primary
      else
        match Text.trim (valueOf word) with
        | [] => .ok (0, after)
        | '-' :: v => ((numeral? v).map fun n => (-n, after)).elim (.error .primary) .ok
        | v => ((numeral? v).map fun n => (n, after)).elim (.error .primary) .ok

end

def evaluate (valueOf : Text → Text) (t : Text) : Except Fault Int := do
  let (n, rest) ← readRanks valueOf (16 * t.length + 32) ranks t
  if Text.isBlank rest then return n else throw .primary

end TemplateTree.Shell.Arithmetic
