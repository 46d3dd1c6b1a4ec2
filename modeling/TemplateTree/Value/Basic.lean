import TemplateTree.Text.Decimal

/-!
# Values

The data that templates see: null, truth values, numbers, texts, arrays and
objects.  An object lists its entries in the order of their keys, each key once,
so that iterating and printing need no sorting.
-/

namespace TemplateTree

/-- A number is a 64-bit integer, signed or unsigned, or a double. -/
inductive Number where
  | int (n : Int)
  | float (x : Float)
  deriving Inhabited

inductive Value where
  | null
  | bool (b : Bool)
  | number (n : Number)
  | string (t : Text)
  | array (items : List Value)
  | object (entries : List (Text × Value))
  deriving Inhabited

/-- Named values in the order of the names. -/
abbrev Namespace := List (Text × Value)

namespace Number

def minSigned : Int := -(Nat.pow 2 63)

/-- One more than the greatest signed 64-bit integer. -/
def signedLimit : Int := Nat.pow 2 63

/-- One more than the greatest unsigned 64-bit integer. -/
def unsignedLimit : Int := Nat.pow 2 64

def isSigned (n : Int) : Bool :=
  minSigned ≤ n && n < signedLimit

def isUnsigned (n : Int) : Bool :=
  0 ≤ n && n < unsignedLimit

def signed? : Number → Option Int
  | .int n => if isSigned n then some n else none
  | .float _ => none

def unsigned? : Number → Option Nat
  | .int n => if isUnsigned n then some n.toNat else none
  | .float _ => none

/-- An integer as the nearest double. -/
def intToFloat (n : Int) : Float :=
  if n < 0 then -(Float.ofScientific n.natAbs false 0) else Float.ofScientific n.natAbs false 0

def toFloat : Number → Float
  | .int n => intToFloat n
  | .float x => x

/-- A double as a number, if it is finite. -/
def ofFloat? (x : Float) : Option Number :=
  if x.isFinite then some (.float x) else none

def same : Number → Number → Bool
  | .int a, .int b => a == b
  | .float a, .float b => a == b
  | _, _ => false

end Number

namespace Value

def ofText (t : Text) : Value :=
  .string t

def ofInt (n : Int) : Value :=
  .number (.int n)

def ofNat (n : Nat) : Value :=
  .number (.int n)

def text? : Value → Option Text
  | .string t => some t
  | _ => none

def number? : Value → Option Number
  | .number n => some n
  | _ => none

def isArray : Value → Bool
  | .array _ => true
  | _ => false

def isObject : Value → Bool
  | .object _ => true
  | _ => false

mutual

/-- Equality of values; integers and doubles differ. -/
def same : Value → Value → Bool
  | .null, .null => true
  | .bool a, .bool b => a == b
  | .number a, .number b => a.same b
  | .string a, .string b => a == b
  | .array a, .array b => sameItems a b
  | .object a, .object b => sameEntries a b
  | _, _ => false

def sameItems : List Value → List Value → Bool
  | [], [] => true
  | a :: as, b :: bs => same a b && sameItems as bs
  | _, _ => false

def sameEntries : List (Text × Value) → List (Text × Value) → Bool
  | [], [] => true
  | (k, a) :: as, (l, b) :: bs => k == l && same a b && sameEntries as bs
  | _, _ => false

end

end Value

namespace Namespace

def get? (ns : Namespace) (key : Text) : Option Value :=
  List.lookup key ns

def contains (ns : Namespace) (key : Text) : Bool :=
  (get? ns key).isSome

/-- Give a name a value, in place of the one it had. -/
def insert (key : Text) (value : Value) : Namespace → Namespace
  | [] => [(key, value)]
  | (k, v) :: rest =>
    match Text.order key k with
    | .lt => (key, value) :: (k, v) :: rest
    | .eq => (key, value) :: rest
    | .gt => (k, v) :: insert key value rest

/-- Entries in any order, of which the last for a name counts. -/
def ofList (entries : List (Text × Value)) : Namespace :=
  entries.foldl (fun ns (k, v) => insert k v ns) []

/-- All names of both namespaces; `overrides` wins where both have one. -/
def merge (base overrides : Namespace) : Namespace :=
  overrides.foldl (fun ns (k, v) => insert k v ns) base

def keys (ns : Namespace) : List Text :=
  ns.map Prod.fst

end Namespace

end TemplateTree
