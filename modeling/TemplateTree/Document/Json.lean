import TemplateTree.Document.Outline
import TemplateTree.Text.Blank

/-!
# JSON documents

Outlines of JSON documents.  A container may hold containers down to a fixed
depth.  Numbers are 64-bit integers where they fit and doubles otherwise; a
double is made from its first nineteen or twenty digits and one power of ten.
-/

namespace TemplateTree.Json

def isGap (c : Char) : Bool :=
  c = ' ' || c = '\n' || c = '\t' || c = '\r'

def skipGap (t : Text) : Text :=
  t.dropWhile isGap

/-- An outline and the text after it, which is absent once the syntax has
failed. -/
abbrev Reader := Text → Outline × Option Text

def failed : Outline × Option Text :=
  (.broken, none)

/-- The number that four hexadecimal digits write, and the text after them. -/
def readUnit? : Text → Option (Nat × Text)
  | a :: b :: c :: d :: r =>
    (Text.readBase? 16 [a, b, c, d]).map fun n => (n, r)
  | _ => none

/-- The character that an escape stands for, and the text after it; the
backslash is already read.  Two escapes together write one character outside
the basic plane. -/
def readEscape? : Text → Option (Char × Text)
  | '"' :: r => some ('"', r)
  | '\\' :: r => some ('\\', r)
  | '/' :: r => some ('/', r)
  | 'b' :: r => some (Char.ofNat 8, r)
  | 'f' :: r => some (Char.ofNat 12, r)
  | 'n' :: r => some ('\n', r)
  | 'r' :: r => some ('\r', r)
  | 't' :: r => some ('\t', r)
  | 'u' :: r =>
    match readUnit? r with
    | none => none
    | some (hi, rest) =>
      if 0xDC00 ≤ hi ∧ hi ≤ 0xDFFF then none
      else if 0xD800 ≤ hi ∧ hi ≤ 0xDBFF then
        match rest with
        | '\\' :: 'u' :: r' =>
          match readUnit? r' with
          | some (lo, rest') =>
            if 0xDC00 ≤ lo ∧ lo ≤ 0xDFFF then
              some (Char.ofNat (0x10000 + (hi - 0xD800) * 0x400 + (lo - 0xDC00)), rest')
            else none
          | none => none
        | _ => none
      else some (Char.ofNat hi, rest)
  | _ => none

/-- The text of a string and what follows its closing quote; the opening quote
is already read. -/
def readString? : Nat → Text → Option (Text × Text)
  | 0, _ => none
  | _, [] => none
  | fuel + 1, c :: r =>
    if c = '"' then some ([], r)
    else if c = '\\' then
      match readEscape? r with
      | some (e, rest) => (readString? fuel rest).map fun (s, rest') => (e :: s, rest')
      | none => none
    else if c.toNat < 32 then none
    else (readString? fuel r).map fun (s, rest) => (c :: s, rest)

/-- The significand of a number read so far and the power of ten that it is to
be scaled by. -/
structure Significand where
  digits : Nat
  scale : Int

/-- One more digit before the point; digits that no longer fit only scale. -/
def Significand.pushWhole (s : Significand) (c : Char) : Significand :=
  if s.scale = 0 ∧ s.digits * 10 + Text.digitValue c < Nat.pow 2 64 then
    ⟨s.digits * 10 + Text.digitValue c, 0⟩
  else ⟨s.digits, s.scale + 1⟩

/-- One more digit after the point, unless an earlier one no longer fitted. -/
def fractionFrom (s : Significand) : Text → Significand
  | [] => s
  | c :: r =>
    if s.digits * 10 + Text.digitValue c < Nat.pow 2 64 then
      fractionFrom ⟨s.digits * 10 + Text.digitValue c, s.scale - 1⟩ r
    else s

/-- The double `digits * 10 ^ scale` by one multiplication or division, `none`
if it is too large. -/
def Significand.toFloat? (s : Significand) : Option Float :=
  let x := Float.ofScientific s.digits false 0
  if s.digits = 0 then some 0.0
  else if s.scale > 308 then none
  else if s.scale ≥ 0 then
    let y := x * Float.ofScientific 1 false s.scale.toNat
    if y.isFinite then some y else none
  else if s.scale ≥ -308 then some (x / Float.ofScientific 1 false (-s.scale).toNat)
  else if s.scale ≥ -616 then
    some (x / Float.ofScientific 1 false 308 / Float.ofScientific 1 false (-s.scale - 308).toNat)
  else some 0.0

def readExponent? (t : Text) : Option (Int × Text) :=
  let (negative, r) := match t with
    | '+' :: r => (false, r)
    | '-' :: r => (true, r)
    | r => (false, r)
  let digits := r.takeWhile Char.isDigit
  if digits = [] then none
  else
    let n : Int := Text.valueFrom 10 0 digits
    some (if negative then -n else n, r.dropWhile Char.isDigit)

def signedFloat (negative : Bool) (s : Significand) (rest : Text) : Outline × Option Text :=
  match s.toFloat? with
  | some x => (.number (.float (if negative then -x else x)), some rest)
  | none => failed

def readNumberTail (negative : Bool) (s : Significand) (t : Text) : Outline × Option Text :=
  let withExponent (s : Significand) (r : Text) : Outline × Option Text :=
    match readExponent? r with
    | some (e, rest) => signedFloat negative ⟨s.digits, s.scale + e⟩ rest
    | none => failed
  match t with
  | '.' :: r =>
    let fraction := r.takeWhile Char.isDigit
    if fraction = [] then failed
    else
      let s' := fractionFrom s fraction
      match r.dropWhile Char.isDigit with
      | 'e' :: r' => withExponent s' r'
      | 'E' :: r' => withExponent s' r'
      | rest => signedFloat negative s' rest
  | 'e' :: r => withExponent s r
  | 'E' :: r => withExponent s r
  | rest =>
    if s.scale ≠ 0 then signedFloat negative s rest
    else if !negative then (.number (.int s.digits), some rest)
    -- No integer is minus zero.
    else if s.digits = 0 || s.digits > Nat.pow 2 63 then
      (.number (.float (-(Float.ofScientific s.digits false 0))), some rest)
    else (.number (.int (-s.digits)), some rest)

def readNumber (negative : Bool) (t : Text) : Outline × Option Text :=
  match t with
  | '0' :: r =>
    match r with
    | c :: _ => if c.isDigit then failed else readNumberTail negative ⟨0, 0⟩ r
    | [] => readNumberTail negative ⟨0, 0⟩ r
  | c :: _ =>
    if c.isDigit then
      let whole := t.takeWhile Char.isDigit
      readNumberTail negative (whole.foldl Significand.pushWhole ⟨0, 0⟩) (t.dropWhile Char.isDigit)
    else failed
  | [] => failed

def readWord (word : Text) (value : Outline) (t : Text) : Outline × Option Text :=
  match Text.dropStart? word t with
  | some rest => (value, some rest)
  | none => failed

/-- The items of an array after the first, each with the comma before it. -/
def readItems (item : Reader) : Nat → Text → List Outline × Option Text
  | 0, _ => ([.broken], none)
  | fuel + 1, t =>
    match skipGap t with
    | ']' :: rest => ([], some rest)
    | ',' :: r =>
      match skipGap r with
      | ']' :: _ => ([.broken], none)
      | r' =>
        match item r' with
        | (v, none) => ([v], none)
        | (v, some rest) =>
          let (vs, rest') := readItems item fuel rest
          (v :: vs, rest')
    | _ => ([.broken], none)

def readEntry (item : Reader) (t : Text) : (Outline × Outline) × Option Text :=
  match t with
  | '"' :: r =>
    match readString? (r.length + 1) r with
    | none => ((.broken, .broken), none)
    | some (key, rest) =>
      match skipGap rest with
      | ':' :: r' =>
        let (v, rest') := item (skipGap r')
        ((.string key, v), rest')
      | _ => ((.string key, .broken), none)
  | _ => ((.broken, .broken), none)

def readEntries (item : Reader) : Nat → Text → List (Outline × Outline) × Option Text
  | 0, _ => ([(.broken, .broken)], none)
  | fuel + 1, t =>
    match skipGap t with
    | '\x7d' :: rest => ([], some rest)
    | ',' :: r =>
      match readEntry item (skipGap r) with
      | (e, none) => ([e], none)
      | (e, some rest) =>
        let (es, rest') := readEntries item fuel rest
        (e :: es, rest')
    | _ => ([(.broken, .broken)], none)

/-- An array; its opening bracket is already read. -/
def readArray (item : Reader) (t : Text) : Outline × Option Text :=
  match skipGap t with
  | ']' :: rest => (.list [], some rest)
  | t' =>
    match item t' with
    | (v, none) => (.list [v, .broken], none)
    | (v, some rest) =>
      let (vs, rest') := readItems item (rest.length + 1) rest
      (.list (v :: vs), rest')

/-- An object; its opening brace is already read. -/
def readObject (item : Reader) (t : Text) : Outline × Option Text :=
  match skipGap t with
  | '\x7d' :: rest => (.table [], some rest)
  | t' =>
    match readEntry item t' with
    | (e, none) => (.table [e, (.broken, .broken)], none)
    | (e, some rest) =>
      let (es, rest') := readEntries item (rest.length + 1) rest
      (.table (e :: es), rest')

def readScalar (t : Text) : Outline × Option Text :=
  match t with
  | '"' :: r =>
    match readString? (r.length + 1) r with
    | some (s, rest) => (.string s, some rest)
    | none => failed
  | '-' :: r => readNumber true r
  | 'n' :: _ => readWord "null" .null t
  | 't' :: _ => readWord "true" (.bool true) t
  | 'f' :: _ => readWord "false" (.bool false) t
  | c :: _ => if c.isDigit then readNumber false t else failed
  | [] => failed

/-- A value with containers at most `depth` deep. -/
def readValue : Nat → Reader
  | 0, t => readScalar (skipGap t)
  | depth + 1, t =>
    match skipGap t with
    | '[' :: r => readArray (readValue depth) r
    | '\x7b' :: r => readObject (readValue depth) r
    | t' => readScalar t'

def maxDepth : Nat := 127

def read (t : Text) : Reading :=
  match readValue maxDepth t with
  | (root, none) => ⟨root, true⟩
  | (root, some rest) => ⟨root, skipGap rest != []⟩

end TemplateTree.Json
