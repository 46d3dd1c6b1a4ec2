import TemplateTree.Template.Argument
import TemplateTree.Template.Names
import TemplateTree.Text.Case

/-!
# Filters of arrays

Filters that take an array and give one of its items, another array, or a text
made of the items.
-/

namespace TemplateTree.Template

/-- The empty text, which stands for an item that is not there. -/
def noItem : Value :=
  .string []

def noField (way : Text) : Text :=
  "attribute '" ++ way ++ "' does not reference a field"

/-- What items are sorted by: items of one kind only. -/
inductive SortKey where
  | truth (b : Bool)
  | number (x : Float)
  | text (t : Text)
  /-- Arrays are sorted by their length. -/
  | length (n : Nat)

namespace SortKey

def kind : SortKey → Text
  | truth _ => "bool"
  | number _ => "number"
  | text _ => "string"
  | length _ => "array"

def ofValue : Value → Except Text SortKey
  | .null => .error "Null is not a sortable value"
  | .bool b => .ok (truth b)
  | .number n => .ok (number n.toFloat)
  | .string t => .ok (text t)
  | .array items => .ok (length items.length)
  | .object _ => .error "Object is not a sortable value"

/-- The key of a value, if it is of the same kind as another key. -/
def like (first : SortKey) (v : Value) : Except Text SortKey :=
  let complaint : Text := "expected " ++ first.kind ++ " got " ++ v.toJson
  match ofValue v with
  | .ok k => if k.kind = first.kind then .ok k else .error complaint
  | .error _ => .error complaint

def atMost : SortKey → SortKey → Bool
  | truth a, truth b => !a || b
  | number x, number y => x <= y
  | text s, text t => Text.order s t != .gt
  | length m, length n => m ≤ n
  | _, _ => true

end SortKey

/-- Sort items by what a way leads to; items with equal keys keep their order. -/
def sortItems (way : Text) : List Value → Except Text (List Value)
  | [] => .ok []
  | v :: rest => do
    let at? (w : Value) : Except Text Value :=
      match valueAt? w way with
      | some k => .ok k
      | none => .error (noField way)
    let first ← SortKey.ofValue (← at? v)
    let keyed ← (v :: rest).mapM fun w => do return (← first.like (← at? w), w)
    return (keyed.mergeSort fun a b => a.1.atMost b.1).map Prod.snd

/-- What items are told apart by. -/
inductive UniqueKey where
  | truth (b : Bool)
  | int (n : Int)
  | text (t : Text)
  deriving DecidableEq

namespace UniqueKey

def ofValue (caseSensitive : Bool) : Value → Except Text UniqueKey
  | .null => .error "Null is not a unique value"
  | .bool b => .ok (truth b)
  | .number (.float _) => .error "Unique floats are not implemented"
  | .number (.int n) => .ok (int n)
  | .string t => .ok (text (if caseSensitive then t else Text.toLower t))
  | .array _ => .error "Unique arrays are not implemented"
  | .object _ => .error "Unique objects are not implemented"

/-- The place of a kind of value among the kinds. -/
def kindOf : Value → Nat
  | .null => 0
  | .bool _ => 1
  | .number _ => 2
  | .string _ => 3
  | .array _ => 4
  | .object _ => 5

/-- The key of a value among keys of one kind. -/
def like (caseSensitive : Bool) (first v : Value) : Except Text UniqueKey :=
  if kindOf v = kindOf first then
    match v with
    | .number n =>
      match n.signed? with
      | some i => .ok (int i)
      | none => .error ("expected number got " ++ v.toJson)
    | _ => ofValue caseSensitive v
  else .error "unique filter can't compare multiple types"

end UniqueKey

/-- The items whose keys were not seen before; items without key go. -/
def uniqueFrom (caseSensitive : Bool) (way : Text) (first : Value) :
    List UniqueKey → List Value → Except Text (List Value)
  | _, [] => .ok []
  | seen, v :: rest =>
    match valueAt? v way with
    | none => uniqueFrom caseSensitive way first seen rest
    | some w => do
      let k ← UniqueKey.like caseSensitive first w
      if seen.contains k then uniqueFrom caseSensitive way first seen rest
      else return v :: (← uniqueFrom caseSensitive way first (k :: seen) rest)

/-- The items of which no earlier one is equal in what a way leads to. -/
def uniqueItems (caseSensitive : Bool) (way : Text) : List Value → Except Text (List Value)
  | [] => .ok []
  | v :: rest => do
    match valueAt? v way with
    | none => throw (noField way)
    | some first =>
      let _ ← UniqueKey.ofValue caseSensitive first
      uniqueFrom caseSensitive way first [] (v :: rest)

def groupItems (way : Text) (items : List Value) : Namespace :=
  items.foldl (fun groups v =>
    match valueAt? v way with
    | none => groups
    | some .null => groups
    | some k =>
      let name := k.text?.getD k.toJson
      match Namespace.get? groups name with
      | some (.array vs) => Namespace.insert name (.array (vs ++ [v])) groups
      | _ => Namespace.insert name (.array [v]) groups) []

/-- A place counted from the start, or from the end if negative. -/
def placeFrom (length : Nat) (x : Float) : Nat :=
  (if x >= 0.0 then x else Float.ofNat length + x).toUInt64.toNat

def arrayFilter (name : String) (change : List Value → Value) : Filter := fun v _ => do
  return change (← subject name .items v)

/-- A filter of arrays with a way named `attribute`; the empty array is kept. -/
def attributeFilter (name : String) (empty : Value)
    (change : Text → List Value → Namespace → Except Text Value) : Filter := fun v args => do
  match ← subject name .items v with
  | [] => return empty
  | items =>
    let way ← argument name .text args "attribute" (required name "an" "attribute")
    change way items args

def nthFilter : Filter := fun v args => do
  match ← subject "nth" .items v with
  | [] => return noItem
  | items =>
    let n ← argument "nth" .count args "n" (required "nth" "an" "n")
    return items[n]?.getD noItem

def joinFilter : Filter := fun v args => do
  let items ← subject "join" .items v
  -- A complaint about the separator names another filter.
  let sep ← argumentOr "truncate" .text args "sep" []
  return .string (Text.joinWith (unescaped sep) (items.map Value.display))

def sortFilter : Filter := fun v args => do
  match ← subject "sort" .items v with
  | [] => return .array []
  | items => return .array (← sortItems (← argumentOr "sort" .text args "attribute" []) items)

def uniqueFilter : Filter := fun v args => do
  match ← subject "unique" .items v with
  | [] => return .array []
  | items =>
    let caseSensitive ← argumentOr "unique" .truth args "case_sensitive" false
    let way ← argumentOr "unique" .text args "attribute" []
    return .array (← uniqueItems caseSensitive way items)

def sliceFilter : Filter := fun v args => do
  match ← subject "slice" .items v with
  | [] => return .array []
  | items =>
    let start ← argumentOr "slice" .double args "start" 0.0
    let stop ← argumentOr "slice" .double args "end" (Float.ofNat items.length)
    let first := placeFrom items.length start
    let last := min (placeFrom items.length stop) items.length
    return .array ((items.take last).drop first)

def concatFilter : Filter := fun v args => do
  let items ← subject "concat" .items v
  match Namespace.get? args "with" with
  | none => throw (required "concat" "a" "with")
  | some (.array more) => return .array (items ++ more)
  | some w => return .array (items ++ [w])

def arrayFilters : List (String × Filter) := [
  ("first", arrayFilter "first" fun items => items.head?.getD noItem),
  ("last", arrayFilter "last" fun items => items.getLast?.getD noItem),
  ("nth", nthFilter),
  ("join", joinFilter),
  ("sort", sortFilter),
  ("unique", uniqueFilter),
  ("slice", sliceFilter),
  ("concat", concatFilter),
  ("group_by", attributeFilter "group_by" (.object []) fun way items _ =>
    .ok (.object (groupItems way items))),
  ("map", attributeFilter "map" (.array []) fun way items _ =>
    .ok (.array (items.filterMap fun v => match valueAt? v way with
      | some .null => none
      | w => w))),
  ("filter", attributeFilter "filter" (.array []) fun way items args =>
    let wanted := (Namespace.get? args "value").getD .null
    .ok (.array (items.filter fun v => match wanted, (valueAt? v way).getD .null with
      | .null, .null => false
      | .null, _ => true
      | w, x => x.same w)))]

end TemplateTree.Template
