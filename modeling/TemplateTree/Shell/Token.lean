import TemplateTree.Shell.Command
import TemplateTree.Text.Decimal

/-!
# Tokens of command lines

A command line is cut into words, operators, redirections and line ends.  Quotes
and expansions are read as parts of the word they stand in.
-/

namespace TemplateTree.Shell

inductive Token where
  | word (w : Word)
  | operator (t : Text)
  | redirect (stream : Nat) (mode : RedirectMode)
  | lineEnd
  deriving DecidableEq, Repr

def endsWord (c : Char) : Bool :=
  Text.isIndent c || "\n;&|<>()".toList.contains c

def isNameChar (c : Char) : Bool :=
  c.isAlphanum || c = '_'

/-- The text up to the character that closes `depth` open ones, and what follows
it. -/
def untilClosed (opening closing : Char) : Nat → Text → Option (Text × Text)
  | _, [] => none
  | depth, c :: r =>
    if c = closing && depth ≤ 1 then some ([], r)
    else
      let depth' := if c = opening then depth + 1 else if c = closing then depth - 1 else depth
      (untilClosed opening closing depth' r).map fun (inside, rest) => (c :: inside, rest)

def unterminated : Text :=
  "Syntax error: Unterminated quoted string"

def endUnexpected : Text :=
  "Syntax error: end of file unexpected"

def parenExpected : Text :=
  endUnexpected ++ " (expecting \")\")"

/-- The rules that amend a value, longer ones first. -/
def amendments : List String :=
  [":-", ":=", ":+", ":?", "##", "%%", "-", "=", "+", "?", "#", "%"]

def readBraced (quoted : Bool) (t : Text) : Part :=
  let named := t.takeWhile isNameChar
  let name := if named = [] then t.take 1 else named
  let rest := t.drop name.length
  let chosen? := amendments.findSome? fun (rule : String) =>
    (Text.dropStart? rule rest).map fun word => Part.amended name rule word quoted
  if rest = [] && name ≠ [] then .value name quoted
  else if t.head? = some '#' then .amended (t.drop 1) "length" [] quoted
  else chosen?.getD (.amended t [] [] quoted)

/-- The expansion that follows a dollar sign, and the rest of the text. -/
def readDollar (quoted : Bool) (t : Text) : Except Text (Part × Text) :=
  match t with
  | '(' :: '(' :: r =>
    match untilClosed '(' ')' 2 r with
    | some (inside, rest) => .ok (.arithmetic inside.dropLast, rest)
    | none => .error "Syntax error: Missing '))'"
  | '(' :: r =>
    match untilClosed '(' ')' 1 r with
    | some (inside, rest) => .ok (.output inside quoted, rest)
    | none => .error parenExpected
  | '\x7b' :: r =>
    match untilClosed '\x7b' '\x7d' 1 r with
    | some (inside, rest) => .ok (readBraced quoted inside, rest)
    | none => .error "Syntax error: Missing '\x7d'"
  | c :: r =>
    if c.isAlpha || c = '_' then
      let name := (c :: r).takeWhile isNameChar
      .ok (.value name quoted, (c :: r).drop name.length)
    else if c.isDigit || "?$#!@*-".toList.contains c then .ok (.value [c] quoted, r)
    else .ok (.text ['$'] quoted, t)
  | [] => .ok (.text ['$'] quoted, [])

/-- The parts of a word, and the rest of the text; `double` tells whether double
quotes are open. -/
def readWord : Nat → Bool → Text → Except Text (Word × Text)
  | 0, _, _ => .error endUnexpected
  | _ + 1, double, [] => if double then .error unterminated else .ok ([], [])
  | fuel + 1, double, c :: r =>
    let more (p : Part) (inside : Bool) (rest : Text) : Except Text (Word × Text) := do
      let (w, after) ← readWord fuel inside rest
      return (p :: w, after)
    if c = '"' then more (.text [] true) (!double) r
    else if c = '$' then do
      let (p, rest) ← readDollar double r
      more p double rest
    else if c = '`' then
      match Text.splitOnce? ['`'] r with
      | some (line, rest) => more (.output line double) double rest
      | none => .error "Syntax error: EOF in backquote substitution"
    else if c = '\\' then
      match r with
      | [] => more (.text ['\\'] true) double []
      | d :: rest =>
        if d = '\n' then readWord fuel double rest
        else if double && !("$`\"\\".toList.contains d) then more (.text ['\\', d] true) double rest
        else more (.text [d] true) double rest
    else if double then more (.text [c] true) true r
    else if c = '\'' then
      match Text.splitOnce? ['\''] r with
      | some (inside, rest) => more (.text inside true) false rest
      | none => .error unterminated
    else if endsWord c then .ok ([], c :: r)
    else more (.text [c] false) false r

/-- The operators, longer ones first. -/
def operators : List String :=
  ["&&", "||", ";;", ";", "&", "|", "(", ")"]

/-- The redirections, longer ones first, with the stream they are about. -/
def redirections : List (String × Nat × RedirectMode) :=
  [(">>", 1, .append), (">&", 1, .copy), (">|", 1, .write), (">", 1, .write), ("<&", 0, .copy),
    ("<", 0, .read)]

/-- A redirection at the start of a text, after the number of its stream. -/
def redirection? (t : Text) : Option (Token × Text) :=
  let digits := t.takeWhile Char.isDigit
  redirections.findSome? fun (mark, stream, mode) =>
    (Text.dropStart? mark (t.drop digits.length)).map fun rest =>
      (.redirect (if digits = [] then stream else Text.valueFrom 10 0 digits) mode, rest)

def operator? (t : Text) : Option (Token × Text) :=
  operators.findSome? fun (mark : String) =>
    (Text.dropStart? mark t).map fun rest => (.operator mark, rest)

def tokens : Nat → Text → Except Text (List Token)
  | 0, _ => .error endUnexpected
  | _ + 1, [] => .ok []
  | fuel + 1, c :: r =>
    if Text.isIndent c then tokens fuel r
    else if c = '\n' then do return .lineEnd :: (← tokens fuel r)
    else if c = '#' then tokens fuel (r.dropWhile (· ≠ '\n'))
    else if c = '\\' && r.head? = some '\n' then tokens fuel (r.drop 1)
    else
      match (redirection? (c :: r)).orElse fun _ => operator? (c :: r) with
      | some (k, rest) => do return k :: (← tokens fuel rest)
      | none => do
        let (w, rest) ← readWord ((c :: r).length + 1) false (c :: r)
        return .word w :: (← tokens fuel rest)

end TemplateTree.Shell
