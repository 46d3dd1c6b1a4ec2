import TemplateTree.Template.Argument
import TemplateTree.Template.Arithmetic
import TemplateTree.Number.Reading
import TemplateTree.Text.Blank

/-!
# Filters of numbers and of values of any kind

Filters that compute with numbers, read numbers from texts, or take values of
several kinds.
-/

namespace TemplateTree.Template

/-- A double as a value; what is not finite is null. -/
def ofDouble (x : Float) : Value :=
  if x.isFinite then .number (.float x) else .null

def powerOfTen (n : Int) : Float :=
  let size := (List.replicate (min n.natAbs 400) (10.0 : Float)).foldl (· * ·) 1.0
  if n < 0 then 1.0 / size else size

/-- The number that a text of digits in a base writes, with an optional sign. -/
def readInBase? (base : Nat) (t : Text) : Option Int :=
  let digit? (c : Char) : Option Nat :=
    let n := if c.isDigit then some (Text.digitValue c)
      else if c.isAlpha then some (c.toLower.toNat - 'a'.toNat + 10) else none
    n.filter (· < base)
  let read? (digits : Text) : Option Nat := do
    if digits = [] then none else
    digits.foldlM (fun n c => (digit? c).map (n * base + ·)) 0
  let n : Option Int := match t with
    | '-' :: r => (read? r).map fun n => -(n : Int)
    | '+' :: r => (read? r).map Int.ofNat
    | r => (read? r).map Int.ofNat
  n.filter Number.isSigned

/-- All copies of the mark of a base taken off a numeral. -/
def withoutBaseMark (base : Nat) (t : Text) : Text :=
  let rec go : Text → Char → Text
    | '0' :: c :: r, mark => if c = mark then go r mark else '0' :: c :: r
    | t, _ => t
  match base with
  | 2 => go t 'b'
  | 8 => go t 'o'
  | 16 => go t 'x'
  | _ => t

def intFilter : Filter := fun v args => do
  let default ← argumentOr "int" (.int 64) args "default" 0
  let base ← argumentOr "int" .base args "base" 10
  match v with
  | .string t =>
    let numeral := withoutBaseMark base (Text.trim t)
    let n := (readInBase? base numeral).getD
      (if numeral.contains '.' then ((readFloat? numeral).map clampedInt).getD default else default)
    return .ofInt n
  | .number n => return .ofInt (clampedInt n.toFloat)
  | _ => throw ("Filter `int` received an unexpected type" : Text)

def floatFilter : Filter := fun v args => do
  let default ← argumentOr "float" .double args "default" 0.0
  match v with
  | .string t => return ofDouble ((readFloat? (Text.trim t)).getD default)
  | .number n => return ofDouble n.toFloat
  | _ => throw ("Filter `float` received an unexpected type" : Text)

def absFilter : Filter := fun v _ =>
  match v with
  | .number (.int n) => .ok (.ofInt n.natAbs)
  | .number (.float x) => .ok (ofDouble x.abs)
  | _ => .error "Filter `abs` was used on a value that isn't a number."

def roundFilter : Filter := fun v args => do
  let x ← subject "round" .double v
  let method ← argumentOr "round" .text args "method" "common"
  let places ← argumentOr "round" (.int 32) args "precision" 0
  let scale := powerOfTen places
  if method = "common".toList then return ofDouble ((scale * x).round / scale)
  else if method = "ceil".toList then return ofDouble ((scale * x).ceil / scale)
  else if method = "floor".toList then return ofDouble ((scale * x).floor / scale)
  else
    throw ("Filter `round` received an incorrect value for arg `method`: got `"
      ++ Text.quoted method ++ "`, only common, ceil and floor are allowed")

def pluralizeFilter : Filter := fun v args => do
  let x ← subject "pluralize" .double v
  let plural ← argumentOr "pluralize" .text args "plural" ['s']
  let singular ← argumentOr "pluralize" .text args "singular" []
  let tolerance : Float := Float.scaleB 1.0 (-52)
  return .string (if (x.abs - 1.0).abs > tolerance then plural else singular)

def lengthFilter : Filter := fun v _ =>
  match v with
  | .array items => .ok (.ofNat items.length)
  | .object entries => .ok (.ofNat entries.length)
  | .string t => .ok (.ofNat t.length)
  | _ =>
    .error "Filter `length` was used on a value that isn't an array, an object, or a string."

def reverseFilter : Filter := fun v _ =>
  match v with
  | .array items => .ok (.array items.reverse)
  | .string t => .ok (.string t.reverse)
  | _ =>
    .error ("Filter `reverse` received an incorrect type for arg `value`: got `" ++ v.toJson
      ++ "` but expected Array|String")

def getFilter : Filter := fun v args => do
  let key ← argument "get" .text args "key" (required "get" "an" "key")
  match v with
  | .object entries =>
    match (Namespace.get? entries key).orElse fun _ => Namespace.get? args "default" with
    | some w => return w
    | none => throw ("Filter `get` tried to get key `" ++ key ++ "` but it wasn't found")
  | _ => throw ("Filter `get` was used on a value that isn't an object" : Text)

def jsonFilter : Filter := fun v args =>
  let pretty := match Namespace.get? args "pretty" with
    | some (.bool b) => b
    | _ => false
  .ok (.string (if pretty then v.toPrettyJson 0 else v.toJson))

def valueFilters : List (String × Filter) := [
  ("int", intFilter),
  ("float", floatFilter),
  ("abs", absFilter),
  ("round", roundFilter),
  ("pluralize", pluralizeFilter),
  ("length", lengthFilter),
  ("reverse", reverseFilter),
  ("get", getFilter),
  ("json_encode", jsonFilter),
  ("as_str", fun v _ => .ok (.string v.display))]

end TemplateTree.Template
