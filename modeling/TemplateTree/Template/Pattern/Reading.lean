import TemplateTree.Template.Pattern.Basic
import TemplateTree.Text.Decimal

/-!
# Reading patterns

Patterns as they are written.  A text that is no pattern has a fault, which is
reported with the place where it is.
-/

namespace TemplateTree.Template

inductive PatternFault where
  | groupUnclosed | groupUnopened
  | flagUnknown | lookAround
  | classUnclosed | rangeInverted | rangeEscape
  | escapeUnknown | escapeUnfinished | backreference
  | repetitionMissing | countUnclosed | countEmpty | countInverted
  deriving DecidableEq, Repr

def PatternFault.message : PatternFault → Text
  | groupUnclosed => "unclosed group"
  | groupUnopened => "unopened group"
  | flagUnknown => "unrecognized flag"
  | lookAround => "look-around, including look-ahead and look-behind, is not supported"
  | classUnclosed => "unclosed character class"
  | rangeInverted => "invalid character class range, the start must be <= the end"
  | rangeEscape => "invalid range boundary, must be a literal"
  | escapeUnknown => "unrecognized escape sequence"
  | escapeUnfinished => "incomplete escape sequence, reached end of pattern prematurely"
  | backreference => "backreferences are not supported"
  | repetitionMissing => "repetition operator missing expression"
  | countUnclosed => "unclosed counted repetition"
  | countEmpty => "repetition quantifier expects a valid decimal"
  | countInverted => "invalid repetition count range, the start must be <= the end"

/-- A fault and what is left of the text where it begins and where it ends. -/
structure PatternError where
  fault : PatternFault
  fromHere : Nat
  toHere : Nat
  deriving DecidableEq, Repr

/-- The report of a fault: the text with a mark below the fault. -/
def PatternError.report (e : PatternError) (t : Text) : Text :=
  "regex parse error:\n    " ++ t ++ "\n    " ++ Text.filled (t.length - e.fromHere) ' '
    ++ Text.filled (max 1 (e.fromHere - e.toHere)) '^' ++ "\nerror: " ++ e.fault.message

namespace Pattern

abbrev Reading := Except PatternError

/-- A fault that reaches from one rest of the text to another. -/
def fault (f : PatternFault) (here there : Text) : Reading α :=
  .error ⟨f, here.length, there.length⟩

/-- What changes the meaning of a pattern. -/
structure Flags where
  caseless : Bool
  /-- Starts and ends are those of lines. -/
  lines : Bool
  /-- A dot stands for a line feed as well. -/
  dotAll : Bool
  deriving DecidableEq, Repr

def Flags.none : Flags := ⟨false, false, false⟩

def Flags.fold (f : Flags) (k : CharClass) : CharClass :=
  if f.caseless then .caseless k else k

def escapeClass? (c : Char) : Option CharClass :=
  match c with
  | 'd' => some .digit
  | 'D' => some (.complement .digit)
  | 'w' => some .word
  | 'W' => some (.complement .word)
  | 's' => some .space
  | 'S' => some (.complement .space)
  | _ => none

def escapeChar? (c : Char) : Option Char :=
  match c with
  | 'n' => some '\n'
  | 't' => some '\t'
  | 'r' => some '\r'
  | 'f' => some '\x0c'
  | 'v' => some '\x0b'
  | 'a' => some '\x07'
  | _ => if c.isAlphanum || 127 < c.toNat then none else some c

def single (c : Char) : CharClass :=
  .range c c

def namedClass? (name : Text) : Option CharClass :=
  let lower := CharClass.range 'a' 'z'
  let upper := CharClass.range 'A' 'Z'
  let decimal := CharClass.range '0' '9'
  if name = "alpha".toList then some (.union lower upper)
  else if name = "digit".toList then some decimal
  else if name = "alnum".toList then some (.union decimal (.union lower upper))
  else if name = "lower".toList then some lower
  else if name = "upper".toList then some upper
  else if name = "space".toList then some (.union (single ' ') (.range '\t' '\r'))
  else if name = "word".toList then
    some (.union (single '_') (.union decimal (.union lower upper)))
  else if name = "punct".toList then
    some (.union (.range '!' '/') (.union (.range ':' '@') (.union (.range '[' '\x60')
      (.range '\x7b' '~'))))
  else none

inductive Item where
  | group (k : CharClass)
  | char (c : Char)

def Item.toClass : Item → CharClass
  | group k => k
  | char c => single c

/-- A character by its number in hexadecimal digits: two of them, or any number
in braces. -/
def readHex? (t : Text) : Option (Char × Text) := do
  let (digits, rest) ← match t with
    | '\x7b' :: r => Text.splitOnce? ['\x7d'] r
    | a :: b :: r => some ([a, b], r)
    | _ => none
  let isHex (c : Char) : Bool := c.isDigit || ('a' ≤ c.toLower && c.toLower ≤ 'f')
  if digits ≠ [] && digits.all isHex then
    return (Char.ofNat (Text.valueFrom 16 0 digits), rest)
  else none

/-- What follows a backslash at `here`. -/
def readEscape (here : Text) : Text → Reading (Item × Text)
  | [] => fault .escapeUnfinished here []
  | c :: r =>
    match escapeClass? c with
    | some k => .ok (.group k, r)
    | none =>
      match (if c = 'x' then readHex? r else none) with
      | some (d, rest) => .ok (.char d, rest)
      | none =>
        match escapeChar? c with
        | some d => .ok (.char d, r)
        | none =>
          if c.isDigit then fault .backreference here r else fault .escapeUnknown here r

/-- A class that is written by name, after its opening bracket and colon. -/
def readNamed? (t : Text) : Option (CharClass × Text) := do
  let (name, rest) ← Text.splitOnce? ":]" t
  match name with
  | '^' :: n => return (.complement (← namedClass? n), rest)
  | n => return (← namedClass? n, rest)

def readItem (t : Text) : Reading (Item × Text) :=
  match t with
  | '\\' :: r => readEscape t r
  | '[' :: ':' :: r =>
    match readNamed? r with
    | some (k, rest) => .ok (.group k, rest)
    | none => .ok (.char '[', ':' :: r)
  | c :: r => .ok (.char c, r)
  | [] => fault .classUnclosed t []

/-- The members of a class in brackets up to the closing one; `unclosed` is the
fault if there is none. -/
def readMembers (unclosed : PatternError) : Nat → CharClass → Text → Reading (CharClass × Text)
  | 0, _, _ => .error unclosed
  | _ + 1, _, [] => .error unclosed
  | _ + 1, k, ']' :: r => .ok (k, r)
  | fuel + 1, k, t => do
    let (low, rest) ← readItem t
    match rest with
    | '-' :: ']' :: r => return (.union (.union k low.toClass) (single '-'), r)
    | '-' :: '-' :: _ => readMembers unclosed fuel (.union k low.toClass) rest
    | '-' :: [] => throw unclosed
    | '-' :: after =>
      let (high, more) ← readItem after
      match low, high with
      | .char a, .char b =>
        if a ≤ b then readMembers unclosed fuel (.union k (.range a b)) more
        else fault .rangeInverted t more
      | .group _, _ => fault .rangeEscape t rest
      | _, .group _ => fault .rangeEscape after more
    | _ => readMembers unclosed fuel (.union k low.toClass) rest

/-- A class in brackets, after the bracket that opens it at `here`. -/
def readClass (flags : Flags) (here t : Text) : Reading (CharClass × Text) := do
  let (negated, body) : Bool × Text := match t with
    | '^' :: r => (true, r)
    | r => (false, r)
  let hyphens := (body.takeWhile (· = '-')).length
  let afterHyphens := body.drop hyphens
  let lead : CharClass := if hyphens = 0 then .none else single '-'
  let (first, members) : CharClass × Text := match afterHyphens with
    | ']' :: r => if hyphens = 0 then (single ']', r) else (lead, ']' :: r)
    | r => (lead, r)
  let unclosed : PatternError := ⟨.classUnclosed, here.length, body.length⟩
  let (k, rest) ← readMembers unclosed (t.length + 1) first members
  let whole := flags.fold k
  return (if negated then .complement whole else whole, rest)

/-- The bounds of a repetition, after the brace that opens it at `here`. -/
def readBounds (here t : Text) : Reading ((Nat × Option Nat) × Text) := do
  let number (t : Text) : Reading (Nat × Text) :=
    let digits := t.takeWhile Char.isDigit
    if digits = [] then fault .countEmpty t t
    else .ok (Text.valueFrom 10 0 digits, t.drop digits.length)
  if t = [] then fault .countUnclosed here []
  let (low, rest) ← number t
  match rest with
  | '\x7d' :: r => return ((low, some low), r)
  | ',' :: '\x7d' :: r => return ((low, none), r)
  | ',' :: [] => fault .countUnclosed here []
  | ',' :: r =>
    let (high, after) ← number r
    match after with
    | '\x7d' :: more =>
      if low ≤ high then return ((low, some high), more) else fault .countInverted here more
    | _ => fault .countUnclosed here after
  | _ => fault .countUnclosed here rest

/-- The repetitions after a pattern, with the marks of laziness passed over. -/
def readRepetition (a : Pattern) : Nat → Text → Reading (Pattern × Text)
  | 0, t => .ok (a, t)
  | fuel + 1, t =>
    let eager (r : Text) : Text := if r.head? = some '?' then r.drop 1 else r
    match t with
    | '*' :: r => readRepetition (star a) fuel (eager r)
    | '+' :: r => readRepetition (seq a (star a)) fuel (eager r)
    | '?' :: r => readRepetition (either a empty) fuel (eager r)
    | '\x7b' :: r => do
      let ((low, high), rest) ← readBounds t r
      readRepetition (a.repeated low high) fuel (eager rest)
    | r => .ok (a, r)

/-- Flags up to a colon or a closing parenthesis, which is left in place; a
hyphen turns the ones after it off. -/
def readFlags : Bool → Flags → Text → Reading (Flags × Text)
  | _, f, [] => .ok (f, [])
  | on, f, c :: r =>
    match c with
    | ':' => .ok (f, c :: r)
    | ')' => .ok (f, c :: r)
    | '-' => readFlags false f r
    | 'i' => readFlags on { f with caseless := on } r
    | 'm' => readFlags on { f with lines := on } r
    | 's' => readFlags on { f with dotAll := on } r
    | 'U' => readFlags on f r
    | 'u' => readFlags on f r
    | _ => fault .flagUnknown (c :: r) r

/-- A pattern without parentheses at the front of a text that is not empty. -/
def readSimple (flags : Flags) (t : Text) : Reading (Pattern × Text) := do
  match t with
  | '[' :: r =>
    let (k, rest) ← readClass flags t r
    return (one k, rest)
  | '.' :: r => return (one (.complement (if flags.dotAll then .none else single '\n')), r)
  | '^' :: r => return (start flags.lines, r)
  | '$' :: r => return (stop flags.lines, r)
  | '\\' :: 'b' :: r => return (boundary false, r)
  | '\\' :: 'B' :: r => return (boundary true, r)
  | '\\' :: 'A' :: r => return (start false, r)
  | '\\' :: 'z' :: r => return (stop false, r)
  | '\\' :: r =>
    let (item, rest) ← readEscape t r
    return (one (flags.fold item.toClass), rest)
  | c :: r => return (one (flags.fold (single c)), r)
  | [] => return (empty, [])

def isRepetition (c : Char) : Bool :=
  c = '*' || c = '+' || c = '?' || c = '\x7b'

mutual

def readEither : Nat → Flags → Text → Reading (Pattern × Text)
  | 0, _, t => .ok (empty, t)
  | fuel + 1, flags, t => do
    let ((a, flags), rest) ← readSeq fuel flags t
    match rest with
    | '|' :: r =>
      let (b, after) ← readEither fuel flags r
      return (either a b, after)
    | r => return (a, r)

/-- Patterns one after the other, and the flags after them. -/
def readSeq : Nat → Flags → Text → Reading ((Pattern × Flags) × Text)
  | 0, flags, t => .ok ((empty, flags), t)
  | fuel + 1, flags, t =>
    match t with
    | [] => .ok ((empty, flags), [])
    | ')' :: _ => .ok ((empty, flags), t)
    | '|' :: _ => .ok ((empty, flags), t)
    | c :: _ => do
      if isRepetition c then fault .repetitionMissing t t
      let ((atom, flags'), afterAtom) ← readAtom fuel flags t
      let (a, rest) ← match atom with
        | some a => readRepetition a (t.length + 1) afterAtom
        | none => pure (empty, afterAtom)
      let ((b, last), after) ← readSeq fuel flags' rest
      return ((seq a b, last), after)

def readAtom : Nat → Flags → Text → Reading ((Option Pattern × Flags) × Text)
  | 0, flags, t => .ok ((none, flags), t)
  | fuel + 1, flags, t => do
    match t with
    | '(' :: r =>
      let opened (flags' : Flags) (body : Text) : Reading ((Option Pattern × Flags) × Text) := do
        let (a, rest) ← readEither fuel flags' body
        match rest with
        | ')' :: after => return ((some a, flags), after)
        | _ => fault .groupUnclosed t r
      match r with
      | '?' :: 'P' :: '<' :: s => opened flags (((Text.splitOnce? ['>'] s).map Prod.snd).getD [])
      | '?' :: '=' :: s => fault .lookAround t s
      | '?' :: '!' :: s => fault .lookAround t s
      | '?' :: '<' :: '=' :: s => fault .lookAround t s
      | '?' :: '<' :: '!' :: s => fault .lookAround t s
      | '?' :: '<' :: s => opened flags (((Text.splitOnce? ['>'] s).map Prod.snd).getD [])
      | '?' :: [] => fault .groupUnclosed t r
      | '?' :: s =>
        match ← readFlags true flags s with
        | (f, ':' :: body) => opened f body
        | (f, ')' :: after) => return ((none, f), after)
        | _ => fault .groupUnclosed t r
      | s => opened flags s
    | _ =>
      let (a, rest) ← readSimple flags t
      return ((some a, flags), rest)

end

def read (t : Text) : Except PatternError Pattern := do
  match ← readEither (4 * t.length + 4) .none t with
  | (r, []) => return r
  | (_, rest) => fault .groupUnopened rest (rest.drop 1)

end Pattern

end TemplateTree.Template
