import TemplateTree.Text.Decimal

/-!
# Shortest decimals

The fewest digits that read back as a given double.  A finite double is
`m * 2 ^ q`; the reals that round to it form an interval around it, and the
grids with one, two, … seventeen significant digits are tried until one has a
point in the interval.  Of two points the one nearer to the double is taken.
-/

namespace TemplateTree

/-- The magnitude `digits * 10 ^ scale` of a number in decimal. -/
structure DecimalForm where
  digits : Nat
  scale : Int
  deriving DecidableEq, Repr

namespace DecimalForm

/-- The sign, significand and exponent of a finite double, `none` for
infinities and for what is no number. -/
def parts? (x : Float) : Option (Bool × Nat × Int) :=
  let bits : Nat := x.toBits.toNat
  let negative := bits / Nat.pow 2 63 == 1
  let exponent : Nat := bits / Nat.pow 2 52 % 2048
  let fraction : Nat := bits % Nat.pow 2 52
  if exponent = 2047 then none
  else if exponent = 0 then some (negative, fraction, -1074)
  else some (negative, Nat.pow 2 52 + fraction, (exponent : Int) - 1075)

/-- The number of decimal digits of a natural number. -/
def digitCount (n : Nat) : Nat :=
  (Text.decimal n).length

/-- A point `d` of the grid with spacing `10 ^ e` that lies in the interval of
`num / den`, whose half widths below and above are `below / den` and
`above / den`, nearest first. -/
def gridPoint? (num den below above : Nat) (closed : Bool) (e : Int) : Option Nat :=
  let unit := if e ≥ 0 then den * Nat.pow 10 e.toNat else den
  let top := if e ≥ 0 then num else num * Nat.pow 10 (-e).toNat
  let low := if e ≥ 0 then below else below * Nat.pow 10 (-e).toNat
  let high := if e ≥ 0 then above else above * Nat.pow 10 (-e).toNat
  let d := top / unit
  let rem := top % unit
  let downOk := rem < low || (closed && rem == low)
  let gap := unit - rem
  let upOk := gap < high || (closed && gap == high)
  match downOk, upOk with
  | true, true =>
    if rem < gap || (rem == gap && d % 2 == 0) then some d else some (d + 1)
  | true, false => some d
  | false, true => some (d + 1)
  | false, false => none

/-- The first grid with a point in the interval, from `k` digits on. -/
def firstGrid (num den below above : Nat) (closed : Bool) (top : Int) : Nat → Nat → DecimalForm
  | 0, _ => ⟨num / den, 0⟩
  | fuel + 1, k =>
    let e := top - k
    match gridPoint? num den below above closed e with
    | some d => if d = 0 then firstGrid num den below above closed top fuel (k + 1) else ⟨d, e⟩
    | none => firstGrid num den below above closed top fuel (k + 1)

/-- Digits without zeros at their end. -/
def stripZeros : Nat → DecimalForm → DecimalForm
  | 0, f => f
  | fuel + 1, f =>
    if f.digits ≠ 0 && f.digits % 10 == 0 then stripZeros fuel ⟨f.digits / 10, f.scale + 1⟩ else f

/-- The shortest decimal that reads back as `m * 2 ^ q`, where `m` is not
zero. -/
def ofParts (m : Nat) (q : Int) : DecimalForm :=
  -- Twice the value and four times the distance to the neighbours keep the
  -- halves integral; the distance below a power of two is half of that above.
  let narrow := m == Nat.pow 2 52 && q > -1074
  let num := 4 * m * (if q ≥ 0 then Nat.pow 2 q.toNat else 1)
  let den := 4 * (if q ≥ 0 then 1 else Nat.pow 2 (-q).toNat)
  let step := if q ≥ 0 then Nat.pow 2 q.toNat else 1
  let above := 2 * step
  let below := if narrow then step else 2 * step
  -- The value lies below `10 ^ top`.
  let top : Int :=
    if num ≥ den then (digitCount (num / den) : Int)
    else 1 - (digitCount (den / num) : Int) + 1
  stripZeros 20 (firstGrid num den below above (m % 2 == 0) top 20 1)

/-- The digits as text and the number of them before the decimal point. -/
def digitsAndPoint (f : DecimalForm) : Text × Int :=
  let ds := Text.decimal f.digits
  (ds, ds.length + f.scale)

/-- Positional text, with `.0` after an integral value if `point` is set. -/
def positional (point : Bool) (f : DecimalForm) : Text :=
  let (ds, k) := f.digitsAndPoint
  if k ≤ 0 then "0." ++ Text.filled (-k).toNat '0' ++ ds
  else if (ds.length : Int) ≤ k then
    ds ++ Text.filled (k.toNat - ds.length) '0' ++ (if point then ['.', '0'] else [])
  else ds.take k.toNat ++ ['.'] ++ ds.drop k.toNat

/-- Scientific text: one digit before the point, and an exponent. -/
def scientific (f : DecimalForm) : Text :=
  let (ds, k) := f.digitsAndPoint
  let exponent := 'e' :: Text.signedDecimal (k - 1)
  match ds with
  | [] => '0' :: exponent
  | [d] => d :: exponent
  | d :: rest => d :: '.' :: rest ++ exponent

end DecimalForm

/-- The notations in which doubles are shown. -/
inductive FloatStyle where
  /-- Digits and a point only; integral values have no point. -/
  | plain
  /-- Positional from `1e-5` up to below `1e16`, with a point. -/
  | document
  /-- Positional from `1e-4` up to below `1e16`, with a point. -/
  | diagnostic
  deriving DecidableEq, Repr

/-- Whether a number with `k` digits before its point is written
positionally. -/
def FloatStyle.isPositional (s : FloatStyle) (k : Int) : Bool :=
  match s with
  | .plain => true
  | .document => -5 < k && k ≤ 16
  | .diagnostic => -4 < k && k ≤ 16

/-- A double in a notation; infinities and what is no number by name. -/
def showFloat (s : FloatStyle) (x : Float) : Text :=
  match DecimalForm.parts? x with
  | none => if x.isNaN then "NaN" else if x < 0 then "-inf" else "inf"
  | some (negative, m, q) =>
    let magnitude : Text :=
      if m = 0 then (if s = .plain then ['0'] else "0.0")
      else
        let f := DecimalForm.ofParts m q
        if s.isPositional f.digitsAndPoint.2 then f.positional (s != .plain) else f.scientific
    if negative then '-' :: magnitude else magnitude

end TemplateTree
