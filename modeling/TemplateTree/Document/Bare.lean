import TemplateTree.Document.Outline
import TemplateTree.Number.Reading

/-!
# Bare scalars

A scalar without quotes is null, a truth value, an integer, a double or a text,
by its spelling alone.
-/

namespace TemplateTree.Bare

def isNull (t : Text) : Bool :=
  t = "null" || t = "Null" || t = "NULL" || t = "~"

def bool? (t : Text) : Option Bool :=
  if t = "true" || t = "True" || t = "TRUE" then some true
  else if t = "false" || t = "False" || t = "FALSE" then some false
  else none

/-- Digits that a leading zero keeps from being a number. -/
def isZeroPadded (t : Text) : Bool :=
  let body := match t with
    | '-' :: r => r
    | '+' :: r => r
    | r => r
  match body with
  | '0' :: d :: r => (d :: r).all Char.isDigit
  | _ => false

/-- Digits of the base that a marker announces. -/
def marked? (t : Text) : Option Nat :=
  match t with
  | '0' :: 'x' :: r => Text.readBase? 16 r
  | '0' :: 'o' :: r => Text.readBase? 8 r
  | '0' :: 'b' :: r => Text.readBase? 2 r
  | _ => none

def int? (t : Text) : Option Int :=
  let plain (r : Text) : Option Int :=
    if isZeroPadded t then none else (Text.readDigits? r).map fun n => (n : Int)
  match t with
  | '-' :: r => ((marked? r).map fun n => -(n : Int)) <|> ((plain r).map fun n => -n)
  | '+' :: r => ((marked? r).map fun n => (n : Int)) <|> plain r
  | r => ((marked? r).map fun n => (n : Int)) <|> plain r

/-- The double that a scalar spells; infinities and what is no number have no
finite value. -/
def float? (t : Text) : Option (Option Float) :=
  let body := match t with
    | '+' :: r => r
    | r => r
  if [".inf", ".Inf", ".INF"].any (fun w => body = String.toList w)
      || ["-.inf", "-.Inf", "-.INF", ".nan", ".NaN", ".NAN"].any (fun w => t = String.toList w) then
    some none
  else if t.head? = some '+' && (body.head? = some '-' || body.head? = some '+') then none
  else if isZeroPadded t then none
  else (readFloat? t).map some

/-- What a bare scalar spells. -/
inductive Meaning where
  | null
  | bool (b : Bool)
  | int (n : Int)
  | float (x : Option Float)
  | text

def meaning (t : Text) : Meaning :=
  if t = [] || isNull t then .null
  else
    match bool? t with
    | some b => .bool b
    | none =>
      match int? t with
      | some n => .int n
      | none =>
        match float? t with
        | some x => .float x
        | none => .text

end TemplateTree.Bare
