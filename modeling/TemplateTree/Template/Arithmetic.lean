import TemplateTree.Template.Ast

/-!
# Arithmetic

Sums, differences and products of integers stay integers and must fit 64 bits,
with a sign if both operands do; with a double they are doubles.  A quotient is
an integer if it comes out even.  What is no number gives no result.
-/

namespace TemplateTree.Template

/-- What two operands have in common. -/
inductive CommonKind where
  | signed (a b : Int)
  | unsigned (a b : Nat)
  | double (a b : Float)

/-- The narrowest kind that holds two numbers. -/
def commonKind (a b : Number) : CommonKind :=
  match a.signed?, b.signed? with
  | some x, some y => .signed x y
  | _, _ =>
    match a.unsigned?, b.unsigned? with
    | some x, some y => .unsigned x y
    | _, _ => .double a.toFloat b.toFloat

/-- A double as a result; what is not finite is none. -/
def finite? (x : Float) : Option Number :=
  Number.ofFloat? x

/-- An exact result, or the complaint that it does not fit. -/
def fitted (sign : String) (a b result : Int) (fits : Bool) (kind : String) :
    Except Text (Option Number) :=
  if fits then .ok (some (.int result))
  else
    .error (Text.signedDecimal a ++ " " ++ sign ++ " " ++ Text.signedDecimal b
      ++ " results in an out of bounds " ++ kind)

def exactOp (sign : String) (onInts : Int → Int → Int) (onFloats : Float → Float → Float)
    (a b : Number) : Except Text (Option Number) :=
  match commonKind a b with
  | .signed x y =>
    let r := onInts x y
    fitted sign x y r (Number.isSigned r) "i64"
  | .unsigned x y =>
    let r := onInts x y
    fitted sign x y r (Number.isUnsigned r) "u64"
  | .double x y => .ok (finite? (onFloats x y))

/-- A double without its fraction as a signed 64-bit integer, the nearest bound
where it does not fit. -/
def clampedInt (x : Float) : Int :=
  x.toInt64.toInt

def quotient (a b : Number) : Option Number :=
  let q := a.toFloat / b.toFloat
  if q.isNaN then none
  else if q.isFinite && q.round == q then some (.int (clampedInt q))
  else finite? q

/-- The remainder of doubles with the sign of the first, which is exact. -/
def floatRemainder (a b : Float) : Option Float :=
  match DecimalForm.parts? a, DecimalForm.parts? b with
  | some (negative, m, e), some (_, n, f) =>
    let low := min e f
    let r := (m * Nat.pow 2 (e - low).toNat) % (n * Nat.pow 2 (f - low).toNat)
    let size := Float.scaleB (Float.ofNat r) low
    if n = 0 then none else some (if negative then -size else size)
  | some _, none => if b.isNaN then none else some a
  | none, _ => none

/-- A remainder with the sign of the first operand; `complaint` is what is said
of an integer divided by zero. -/
def remainder (complaint : Text) (a b : Number) : Except Text (Option Number) :=
  match commonKind a b with
  | .signed x y => if y = 0 then .error complaint else .ok (some (.int (Int.tmod x y)))
  | .unsigned x y => if y = 0 then .error complaint else .ok (some (.int (x % y : Nat)))
  | .double x y => .ok ((floatRemainder x y).map Number.float)

def MathOp.apply (op : MathOp) (complaint : Text) (a b : Number) : Except Text (Option Number) :=
  match op with
  | add => exactOp "+" (· + ·) (· + ·) a b
  | sub => exactOp "-" (· - ·) (· - ·) a b
  | mul => exactOp "x" (· * ·) (· * ·) a b
  | div => .ok (quotient a b)
  | rem => remainder complaint a b

def LogicOp.compares (op : LogicOp) (a b : Float) : Bool :=
  match op with
  | gt => a > b
  | gte => a >= b
  | lt => a < b
  | lte => a <= b
  | _ => false

end TemplateTree.Template
