import TemplateTree.Shell.Arithmetic
import TemplateTree.Text.Utf8

/-!
# Escapes and formats

How the shell's printing commands read backslashes, and how a format takes up
its arguments.
-/

namespace TemplateTree.Shell

/-- What a text with escapes stands for: bytes, and whether the output ends
there. -/
structure Escaped where
  bytes : Bytes
  ends : Bool
  deriving DecidableEq, Repr

namespace Escaped

def after (bytes : Bytes) (e : Escaped) : Escaped :=
  ⟨bytes ++ e.bytes, e.ends⟩

end Escaped

def escapeByte? (c : Char) : Option UInt8 :=
  match c with
  | 'a' => some 7
  | 'b' => some 8
  | 'f' => some 12
  | 'n' => some 10
  | 'r' => some 13
  | 't' => some 9
  | 'v' => some 11
  | '\\' => some 92
  | _ => none

def isOctal (c : Char) : Bool :=
  '0' ≤ c && c ≤ '7'

def octalByte (digits : Text) : UInt8 :=
  UInt8.ofNat (Text.valueFrom 8 0 digits)

/-- Read escapes; `zero` tells whether octal digits come after a zero. -/
def readEscapes (zero : Bool) : Nat → Text → Escaped
  | 0, _ => ⟨[], false⟩
  | _ + 1, [] => ⟨[], false⟩
  | fuel + 1, '\\' :: c :: r =>
    match escapeByte? c with
    | some b => (readEscapes zero fuel r).after [b]
    | none =>
      if zero && c = 'c' then ⟨[], true⟩
      else if isOctal c && (!zero || c = '0') then
        let all := if zero then r else c :: r
        let digits := (all.take 3).takeWhile isOctal
        (readEscapes zero fuel (all.drop digits.length)).after [octalByte digits]
      else (readEscapes zero fuel (c :: r)).after [92]
  | fuel + 1, c :: r => (readEscapes zero fuel r).after (Text.charBytes c)

/-- The bytes of a text with escapes; octal digits come after a zero. -/
def echoed (t : Text) : Escaped :=
  readEscapes true (t.length + 1) t

structure Directive where
  flags : Text
  width : Nat
  precision : Option Nat
  letter : Char
  deriving DecidableEq, Repr

namespace Directive

def read? (t : Text) : Option (Directive × Text) :=
  let flags := t.takeWhile fun c => "-+ 0#".toList.contains c
  let afterFlags := t.drop flags.length
  let width := afterFlags.takeWhile Char.isDigit
  let afterWidth := afterFlags.drop width.length
  let (precision, rest) : Option Nat × Text := match afterWidth with
    | '.' :: r =>
      let digits := r.takeWhile Char.isDigit
      (some (Text.valueFrom 10 0 digits), r.drop digits.length)
    | r => (none, r)
  match rest with
  | [] => none
  | c :: r => some (⟨flags, Text.valueFrom 10 0 width, precision, c⟩, r)

def fit (d : Directive) (bytes : Bytes) : Bytes :=
  let gap := d.width - bytes.length
  if d.flags.contains '-' then bytes ++ List.replicate gap 32
  else if d.flags.contains '0' && "dioxXu".toList.contains d.letter then
    match bytes with
    | 45 :: r => 45 :: List.replicate gap 48 ++ r
    | _ => List.replicate gap 48 ++ bytes
  else List.replicate gap 32 ++ bytes

def number (d : Directive) (n : Int) : Text :=
  let word := Arithmetic.toWord n
  match d.letter with
  | 'o' => Nat.toDigits 8 word
  | 'x' => Nat.toDigits 16 word
  | 'X' => Text.upperAscii (Nat.toDigits 16 word)
  | 'u' => Text.decimal word
  | _ => (if d.flags.contains '+' && 0 ≤ n then ['+'] else []) ++ Text.signedDecimal n

end Directive

structure Formatted where
  bytes : Bytes
  ends : Bool
  /-- The arguments that are no numbers where numbers are wanted. -/
  faults : List Text
  rest : List Text

namespace Formatted

def after (bytes : Bytes) (f : Formatted) : Formatted :=
  { f with bytes := bytes ++ f.bytes }

end Formatted

/-- The number that an argument writes; a missing one counts as zero. -/
def argumentNumber (t : Text) : Option Int :=
  match Text.trimStart t with
  | [] => if t = [] then some 0 else none
  | '-' :: r => (Arithmetic.numeral? r).map fun n => -n
  | '+' :: r => Arithmetic.numeral? r
  | '"' :: c :: _ => some c.toNat
  | '\'' :: c :: _ => some c.toNat
  | r => Arithmetic.numeral? r

/-- A format with its directives replaced, once through. -/
def formatOnce : Nat → Text → List Text → Formatted
  | 0, _, args => ⟨[], false, [], args⟩
  | _ + 1, [], args => ⟨[], false, [], args⟩
  | fuel + 1, '%' :: '%' :: r, args => (formatOnce fuel r args).after [37]
  | fuel + 1, '%' :: r, args =>
    match Directive.read? r with
    | none => ⟨[37], false, [], args⟩
    | some (d, after) =>
      let arg := args.headD []
      let others := args.drop 1
      let cut (bytes : Bytes) : Bytes := match d.precision with
        | some p => bytes.take p
        | none => bytes
      if d.letter = 's' then
        (formatOnce fuel after others).after (d.fit (cut (Text.toBytes arg)))
      else if d.letter = 'c' then
        (formatOnce fuel after others).after (d.fit ((Text.toBytes arg).take 1))
      else if d.letter = 'b' then
        let e := echoed arg
        if e.ends then ⟨d.fit (cut e.bytes), true, [], others⟩
        else (formatOnce fuel after others).after (d.fit (cut e.bytes))
      else
        let n := argumentNumber arg
        let f := formatOnce fuel after others
        let g := f.after (d.fit (Text.toBytes (d.number (n.getD 0))))
        if n.isNone then { g with faults := arg :: g.faults } else g
  | fuel + 1, '\\' :: c :: r, args =>
    let digits := ((c :: r).take 3).takeWhile isOctal
    match escapeByte? c with
    | some b => (formatOnce fuel r args).after [b]
    | none =>
      if digits ≠ [] then
        (formatOnce fuel ((c :: r).drop digits.length) args).after [octalByte digits]
      else (formatOnce fuel (c :: r) args).after [92]
  | fuel + 1, c :: r, args => (formatOnce fuel r args).after (Text.charBytes c)

/-- A format used again as long as it takes up arguments. -/
def formatAll (format : Text) : Nat → List Text → Formatted
  | 0, args => ⟨[], false, [], args⟩
  | fuel + 1, args =>
    let f := formatOnce (format.length + 1) format args
    if f.ends || f.rest = [] || f.rest.length = args.length then f
    else
      let g := formatAll format fuel f.rest
      ⟨f.bytes ++ g.bytes, g.ends, f.faults ++ g.faults, g.rest⟩

end TemplateTree.Shell
