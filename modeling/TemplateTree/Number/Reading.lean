import TemplateTree.Text.Decimal

/-!
# Reading doubles

The double nearest to a decimal numeral with an optional fraction and exponent.
-/

namespace TemplateTree

/-- The double nearest to `digits * 10 ^ scale`; scales far out of range are
settled without computing the power. -/
def nearestFloat (digits : Nat) (scale : Int) : Float :=
  let magnitude := scale + (Text.decimal digits).length
  if digits = 0 then 0.0
  else if magnitude > 400 then Float.ofScientific 1 false 400
  else if magnitude < -400 then 0.0
  else if scale ≥ 0 then Float.ofScientific digits false scale.toNat
  else Float.ofScientific digits true (-scale).toNat

/-- The scale that an exponent part gives, `none` if it is malformed; the part
is empty or begins with its letter. -/
def exponentPart? : Text → Option Int
  | [] => some 0
  | c :: r =>
    if c = 'e' || c = 'E' then
      match r with
      | '-' :: ds => (Text.readDigits? ds).map fun n => -(n : Int)
      | '+' :: ds => (Text.readDigits? ds).map fun n => (n : Int)
      | ds => (Text.readDigits? ds).map fun n => (n : Int)
    else none

/-- The finite double that a numeral writes: digits with an optional point
among or around them, and an optional exponent. -/
def readFloat? (t : Text) : Option Float :=
  let (negative, body) := match t with
    | '-' :: r => (true, r)
    | '+' :: r => (false, r)
    | r => (false, r)
  let whole := body.takeWhile Char.isDigit
  let afterWhole := body.dropWhile Char.isDigit
  let (fraction, rest) := match afterWhole with
    | '.' :: r => (r.takeWhile Char.isDigit, r.dropWhile Char.isDigit)
    | r => ([], r)
  if whole = [] && fraction = [] then none
  else
    match exponentPart? rest with
    | none => none
    | some e =>
      let x := nearestFloat (Text.valueFrom 10 0 (whole ++ fraction)) (e - fraction.length)
      if x.isFinite then some (if negative then -x else x) else none

end TemplateTree
