import TemplateTree.Value.Basic
import TemplateTree.Number.Shortest
import TemplateTree.Text.Quoted

/-!
# Texts of values

Three ways to write a value: as template output, as a compact JSON document and
as a JSON document laid out over several lines.
-/

namespace TemplateTree

def Number.toJson : Number → Text
  | .int n => Text.signedDecimal n
  | .float x => showFloat .document x

def Number.display : Number → Text
  | .int n => Text.signedDecimal n
  | .float x => showFloat .plain x

namespace Value

def boolText (b : Bool) : Text :=
  if b then "true" else "false"

mutual

/-- The text of a value in template output: null is empty and an object is not
spelled out. -/
def display : Value → Text
  | .null => []
  | .bool b => boolText b
  | .number n => n.display
  | .string t => t
  | .array items => '[' :: displayItems items ++ [']']
  | .object _ => "[object]"

def displayItems : List Value → Text
  | [] => []
  | [v] => display v
  | v :: w :: rest => display v ++ [',', ' '] ++ displayItems (w :: rest)

end

def jsonChar (c : Char) : Text :=
  if c = '"' then ['\\', '"']
  else if c = '\\' then ['\\', '\\']
  else if c = '\n' then ['\\', 'n']
  else if c = '\r' then ['\\', 'r']
  else if c = '\t' then ['\\', 't']
  else if c.toNat = 8 then ['\\', 'b']
  else if c.toNat = 12 then ['\\', 'f']
  else if c.toNat < 32 then
    ['\\', 'u', '0', '0'] ++ Text.filled (2 - (Text.hexDigits c.toNat).length) '0'
      ++ Text.hexDigits c.toNat
  else [c]

def jsonString (t : Text) : Text :=
  '"' :: t.flatMap jsonChar ++ ['"']

mutual

def toJson : Value → Text
  | .null => "null"
  | .bool b => boolText b
  | .number n => n.toJson
  | .string t => jsonString t
  | .array items => '[' :: itemsToJson items ++ [']']
  | .object entries => '\x7b' :: entriesToJson entries ++ ['\x7d']

def itemsToJson : List Value → Text
  | [] => []
  | [v] => toJson v
  | v :: w :: rest => toJson v ++ [','] ++ itemsToJson (w :: rest)

def entriesToJson : List (Text × Value) → Text
  | [] => []
  | [(k, v)] => jsonString k ++ [':'] ++ toJson v
  | (k, v) :: e :: rest => jsonString k ++ [':'] ++ toJson v ++ [','] ++ entriesToJson (e :: rest)

end

def freshLine (depth : Nat) : Text :=
  '\n' :: Text.filled (2 * depth) ' '

mutual

/-- A value as a JSON document with a line for every item and entry; `depth` is
the depth it stands at. -/
def toPrettyJson (depth : Nat) : Value → Text
  | .null => "null"
  | .bool b => boolText b
  | .number n => n.toJson
  | .string t => jsonString t
  | .array [] => "[]"
  | .array (v :: rest) =>
    '[' :: prettyItems (depth + 1) (v :: rest) ++ freshLine depth ++ [']']
  | .object [] => ['\x7b', '\x7d']
  | .object (e :: rest) =>
    '\x7b' :: prettyEntries (depth + 1) (e :: rest) ++ freshLine depth ++ ['\x7d']

def prettyItems (depth : Nat) : List Value → Text
  | [] => []
  | [v] => freshLine depth ++ toPrettyJson depth v
  | v :: w :: rest =>
    freshLine depth ++ toPrettyJson depth v ++ [','] ++ prettyItems depth (w :: rest)

def prettyEntries (depth : Nat) : List (Text × Value) → Text
  | [] => []
  | [(k, v)] => freshLine depth ++ jsonString k ++ [':', ' '] ++ toPrettyJson depth v
  | (k, v) :: e :: rest =>
    freshLine depth ++ jsonString k ++ [':', ' '] ++ toPrettyJson depth v ++ [',']
      ++ prettyEntries depth (e :: rest)

end

end Value

end TemplateTree
