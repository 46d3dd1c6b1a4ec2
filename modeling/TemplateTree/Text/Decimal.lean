import TemplateTree.Text.Basic

/-!
# Decimal numerals

Writing natural numbers and integers in base ten, and reading them back.
-/

namespace TemplateTree.Text

def decimal (n : Nat) : Text :=
  Nat.toDigits 10 n

def signedDecimal (n : Int) : Text :=
  if n < 0 then '-' :: decimal n.natAbs else decimal n.natAbs

def digitValue (c : Char) : Nat :=
  c.toNat - '0'.toNat

def hexValue? (c : Char) : Option Nat :=
  if c.isDigit then some (digitValue c)
  else if 'a' ≤ c ∧ c ≤ 'f' then some (c.toNat - 'a'.toNat + 10)
  else if 'A' ≤ c ∧ c ≤ 'F' then some (c.toNat - 'A'.toNat + 10)
  else none

/-- The number that digits write in a base, after the number `acc` before
them. -/
def valueFrom (base acc : Nat) (digits : Text) : Nat :=
  digits.foldl (fun n c => n * base + (hexValue? c).getD 0) acc

def readDigits? (t : Text) : Option Nat :=
  if t ≠ [] && t.all Char.isDigit then some (valueFrom 10 0 t) else none

/-- The number that digits of a base up to sixteen write. -/
def readBase? (base : Nat) (t : Text) : Option Nat :=
  if t ≠ [] && t.all (fun c => (hexValue? c).any (· < base)) then some (valueFrom base 0 t)
  else none

/-- Decimal digits with an optional plus sign, for a number below `limit`. -/
def readBelow? (limit : Nat) (t : Text) : Option Nat :=
  let digits := match t with
    | '+' :: r => r
    | _ => t
  (readDigits? digits).filter (· < limit)

def padded (width n : Nat) : Text :=
  let digits := decimal n
  filled (width - digits.length) '0' ++ digits

/-- The quotient `num / den` with `places` digits after the point, rounded to
nearest, a half to the even neighbour. -/
def fixedPlaces (num den places : Nat) : Text :=
  let one := Nat.pow 10 places
  let q := num * one / den
  let twice := 2 * (num * one % den)
  let rounded := if twice > den || (twice == den && q % 2 == 1) then q + 1 else q
  decimal (rounded / one) ++ ['.'] ++ padded places (rounded % one)

end TemplateTree.Text
