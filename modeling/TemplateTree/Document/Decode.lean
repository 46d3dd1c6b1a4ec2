import TemplateTree.Document.Bare
import TemplateTree.Value.Print

/-!
# Decoding outlines

Reading typed data out of an outline, in the order of the document: the first
fault met is the one reported, be it data of the wrong type or broken syntax.
-/

namespace TemplateTree

/-- Why a document does not hold what is expected of it. -/
inductive DecodeError where
  | syntaxError
  | invalidType (found expected : Text)
  | missingField (name : Text)
  | duplicateField (name : Text)
  | unknownField (name : Text) (known : List Text)
  deriving DecidableEq, Repr

namespace DecodeError

def ticked (t : Text) : Text :=
  "`" ++ t ++ "`"

def message : DecodeError → Text
  | syntaxError => "malformed document"
  | invalidType found expected => "invalid type: " ++ found ++ ", expected " ++ expected
  | missingField name => "missing field " ++ ticked name
  | duplicateField name => "duplicate field " ++ ticked name
  | unknownField name known =>
    "unknown field " ++ ticked name ++ ", expected one of "
      ++ Text.joinWith ", " (known.map ticked)

end DecodeError

namespace Outline

def intFound (n : Int) : Text :=
  "integer `" ++ Text.signedDecimal n ++ "`"

def floatFound (x : Float) : Text :=
  "floating point `" ++ showFloat .document x ++ "`"

def bareFound (t : Text) : Text :=
  match Bare.meaning t with
  | .null => "unit value"
  | .bool b => "boolean `" ++ Value.boolText b ++ "`"
  | .int n => intFound n
  | .float (some x) => floatFound x
  | .float none => "floating point"
  | .text => "string " ++ Text.quoted t

def unexpected (expected : Text) : Outline → DecodeError
  | .broken => .syntaxError
  | .missing => .syntaxError
  | .null => .invalidType "null" expected
  | .bool b => .invalidType ("boolean `" ++ Value.boolText b ++ "`") expected
  | .number (.int n) => .invalidType (intFound n) expected
  | .number (.float x) => .invalidType (floatFound x) expected
  | .string t => .invalidType ("string " ++ Text.quoted t) expected
  | .scalar .bare .untagged t => .invalidType (bareFound t) expected
  | .scalar .bare .own t => .invalidType (bareFound t) expected
  | .scalar _ _ t => .invalidType ("string " ++ Text.quoted t) expected
  | .list _ => .invalidType "sequence" expected
  | .table _ => .invalidType "map" expected
  | .tagged body => unexpected expected body

def untagged : Outline → Outline
  | .tagged body => untagged body
  | node => node

/-- A text; a scalar of any type serves, as it is spelled. -/
def text (expected : Text) (node : Outline) : Except DecodeError Text :=
  match node with
  | .string t => .ok t
  | .scalar _ _ t => .ok t
  | node => .error (node.unexpected expected)

def truth (node : Outline) : Except DecodeError Bool :=
  let bare (t : Text) : Except DecodeError Bool :=
    match Bare.bool? t with
    | some b => .ok b
    | none => .error (node.unexpected "a boolean")
  match node with
  | .bool b => .ok b
  | .scalar .bare _ t => bare t
  | .scalar .block .bool t => bare t
  | node => .error (node.unexpected "a boolean")

def eachItem (decode : Outline → Except DecodeError α) :
    List Outline → Except DecodeError (List α)
  | [] => .ok []
  | n :: ns => do
    let a ← decode n
    let as ← eachItem decode ns
    return a :: as

/-- A list of texts; an absent node is an empty list. -/
def texts (node : Outline) : Except DecodeError (List Text) :=
  match node.untagged with
  | .list items => eachItem (text "a string") items
  | .scalar .bare _ [] => .ok []
  | .missing => .ok []
  | node => .error (node.unexpected "a sequence")

/-- A number that fits no 64-bit integer is refused. -/
def integer (n : Int) : Except DecodeError Value :=
  if Number.isSigned n || Number.isUnsigned n then .ok (.number (.int n))
  else if -(Nat.pow 2 127) ≤ n && n < Nat.pow 2 128 then .error .syntaxError
  else .ok (.number (.float (Number.intToFloat n)))

def bareValue (t : Text) : Except DecodeError Value :=
  match Bare.meaning t with
  | .null => .ok .null
  | .bool b => .ok (.bool b)
  | .int n => integer n
  | .float (some x) => .ok (.number (.float x))
  | .float none => .ok .null
  | .text => .ok (.string t)

def scalarValue (style : ScalarStyle) (tag : ScalarTag) (t : Text) : Except DecodeError Value :=
  match tag with
  | .own => .error (.invalidType "enum" "any valid JSON value")
  | .bool =>
    match Bare.bool? t with
    | some b => .ok (.bool b)
    | none => .error .syntaxError
  | .int =>
    match Bare.int? t with
    | some n => integer n
    | none => .error .syntaxError
  | .float =>
    match Bare.float? t with
    | some (some x) => .ok (.number (.float x))
    | some none => .ok .null
    | none => .error .syntaxError
  | .null => if Bare.isNull t then .ok .null else .error .syntaxError
  | .untagged => if style = .bare then bareValue t else .ok (.string t)
  | .other => .ok (.string t)

mutual

def value : Outline → Except DecodeError Value
  | .broken => .error .syntaxError
  | .missing => .ok .null
  | .null => .ok .null
  | .bool b => .ok (.bool b)
  | .number n => .ok (.number n)
  | .string t => .ok (.string t)
  | .scalar style tag t => scalarValue style tag t
  | .list items => do return .array (← values items)
  | .table entries => do return .object (Namespace.ofList (← fields "a string key" entries))
  | .tagged _ => .error (.invalidType "enum" "any valid JSON value")

def values : List Outline → Except DecodeError (List Value)
  | [] => .ok []
  | n :: ns => do
    let v ← value n
    let vs ← values ns
    return v :: vs

/-- The entries of a table, in the order of the document; `expected` names what
the first key should be. -/
def fields (expected : Text) : List (Outline × Outline) → Except DecodeError (List (Text × Value))
  | [] => .ok []
  | (k, n) :: rest => do
    let key ← text expected k
    let v ← value n
    let es ← fields "a string" rest
    return (key, v) :: es

end

/-- A table of values; an absent node is an empty table. -/
def namedValues (node : Outline) : Except DecodeError Namespace :=
  match node.untagged with
  | .table entries => do return Namespace.ofList (← fields "a string" entries)
  | .scalar .bare _ [] => .ok []
  | .missing => .ok []
  | node => .error (node.unexpected "a map")

end Outline

/-- Decode a whole document; syntax that fails after the data is reported only
when the data is as expected. -/
def Reading.decode (r : Reading) (decode : Outline → Except DecodeError α) :
    Except DecodeError α := do
  let a ← decode r.root
  if r.trailing then .error .syntaxError else return a

end TemplateTree
