import TemplateTree.Shell.Utility.Files

/-!
# Utilities for lines

The beginnings and ends of inputs, their order and their counts, and the parts of
paths.
-/

namespace TemplateTree.Shell.Utility

/-- The bytes of a file, or of what there is to read where no file is named; a
file that cannot be read is complained of in the given words. -/
def inputOf (channels : Channels) (refusal : Path → Text) (file? : Option Path) :
    Step (Option Bytes) := do
  match file? with
  | none => return some (← Step.takeInput)
  | some file =>
    match (← get).files.readBytes file with
    | .ok bytes => return some bytes
    | .error e =>
      Step.complain channels (refusal file ++ ": " ++ reasonText e)
      return none

/-- Lines of bytes, each with the line end after it. -/
def byteLines : Bytes → List Bytes
  | [] => []
  | b :: r =>
    if b = 10 then [b] :: byteLines r
    else
      match byteLines r with
      | line :: more => (b :: line) :: more
      | [] => [[b]]

/-- How many units of an input are asked for, and whether these are bytes; the
other arguments are names. -/
def amountOf : List Text → (Nat × Bool) × List Text
  | ['-', 'n'] :: n :: rest => (((Text.readDigits? n).getD 10, false), rest)
  | ['-', 'c'] :: n :: rest => (((Text.readDigits? n).getD 10, true), rest)
  | ('-' :: 'n' :: n) :: rest => (((Text.readDigits? n).getD 10, false), rest)
  | ('-' :: 'c' :: n) :: rest => (((Text.readDigits? n).getD 10, true), rest)
  | ('-' :: n) :: rest => (((Text.readDigits? n).getD 10, false), rest)
  | rest => ((10, false), rest)

/-- Print a part of an input, given how many bytes or lines are wanted. -/
def portion (utility : Text) (ofBytes : Nat → Bytes → Bytes)
    (ofLines : Nat → List Bytes → List Bytes) : Utility := fun channels args => do
  let ((n, inBytes), names) := amountOf args
  let refusal (file : Path) : Text := utility ++ ": cannot open '" ++ file ++ "' for reading"
  match ← inputOf channels refusal names.head? with
  | none => return 1
  | some bytes =>
    Step.writeBytes channels.out
      (if inBytes then ofBytes n bytes else (ofLines n (byteLines bytes)).flatten)
    return 0

def beginning : Utility :=
  portion "head" List.take List.take

def ending : Utility :=
  portion "tail" (fun n bs => bs.drop (bs.length - n)) fun n ls => ls.drop (ls.length - n)

def sortLines : Utility := fun channels args => do
  match ← inputOf channels ("sort: cannot read: " ++ ·) (operands args).head? with
  | none => return 2
  | some bytes =>
    let lines := (byteLines bytes).map fun l => Text.ofBytesLossy (l.filter (· ≠ 10))
    let sorted := lines.mergeSort fun a b => !Text.precedes b a
    let ordered := if hasOption args 'r' then sorted.reverse else sorted
    Step.write channels.out (ordered.flatMap fun l => l ++ ['\n'])
    return 0

def count : Utility := fun channels args => do
  let file? := (operands args).head?
  match ← inputOf channels ("wc: " ++ ·) file? with
  | none => return 1
  | some bytes =>
    let words := (Text.splitWhere Text.isSpace (Text.ofBytesLossy bytes)).filter (· ≠ [])
    let counts := [('l', bytes.count 10), ('w', words.length), ('c', bytes.length)]
    let asked := counts.filter fun p => hasOption args p.1
    let shown := (if asked = [] then counts else asked).map Prod.snd
    let width :=
      if shown.length = 1 then 0 else if file?.isNone then 7 else (Text.decimal bytes.length).length
    let columns := shown.map fun n => Text.alignRight width (Text.decimal n)
    Step.write channels.out
      (Text.joinWith [' '] (columns ++ file?.toList) ++ ['\n'])
    return 0

def numbers : Utility := fun channels args => do
  match args.mapM fun a => argumentNumber a with
  | some [last] => printRange channels 1 1 last
  | some [first, last] => printRange channels first 1 last
  | some [first, step, last] => printRange channels first step last
  | _ =>
    Step.complain channels "seq: missing operand"
    return 1
where
  printRange (channels : Channels) (first step last : Int) : Step Nat := do
    let n := if step = 0 then 0 else ((last - first) / step + 1).toNat
    Step.write channels.out ((List.range n).flatMap fun (k : Nat) =>
      Text.signedDecimal (first + step * k) ++ ['\n'])
    return 0

/-- Print the last segment of a path, without an ending that is given. -/
def lastSegment : Utility := fun channels args => do
  match args with
  | [] =>
    Step.complain channels "basename: missing operand"
    return 1
  | p :: rest =>
    let name := ((Text.splitWhere (· = '/') p).filter (· ≠ [])).getLast?.getD ['/']
    let shown := match rest with
      | stop :: _ => if stop = name then name else (Text.dropStop? stop name).getD name
      | [] => name
    Step.write channels.out (shown ++ ['\n'])
    return 0

end TemplateTree.Shell.Utility
