import TemplateTree.Template.Argument
import TemplateTree.Template.Arithmetic
import TemplateTree.Template.Pattern.Reading

/-!
# Tests and functions

The tests that a variable can be put to, and the functions that need no
environment.
-/

namespace TemplateTree.Template

def atMost (test : String) (most : Nat) (args : List Value) : Except Text Unit :=
  if args.length ≤ most then .ok ()
  else if most = 0 then
    .error ("Tester `" ++ test ++ "` was called with some args but this test doesn't take args")
  else
    .error ("Tester `" ++ test ++ "` was called with " ++ Text.decimal args.length
      ++ " args, the max number is " ++ Text.decimal most)

/-- The value of a variable that has to be there. -/
def present (test : String) : Option Value → Except Text Value
  | some v => .ok v
  | none => .error ("Tester `" ++ test ++ "` was called on an undefined variable")

def textPart (test part : String) (v : Option Value) : Except Text Text :=
  match v.bind Value.text? with
  | some t => .ok t
  | none => .error ("Tester `" ++ test ++ "` was called " ++ part ++ " that isn't a string")

def kindTest (test : String) (holds : Value → Bool) : Test := fun v args => do
  atMost test 0 args
  return holds (← present test v)

def textTest (test : String) (holds : Text → Text → Except Text Bool) : Test := fun v args => do
  atMost test 1 args
  let v ← present test v
  let t ← textPart test "on a variable" (some v)
  let needle ← textPart test "with a parameter" args.head?
  holds t needle

def remainderBy (x y : Float) : Float :=
  (floatRemainder x y).getD (0.0 / 0.0)

def oddTest : Test := fun v args => do
  atMost "odd" 0 args
  match (← present "odd" v).number? with
  | some n => return remainderBy n.toFloat 2.0 != 0.0
  | none => throw ("Tester `odd` was called on a variable that isn't a number" : Text)

def divisibleTest : Test := fun v args => do
  atMost "divisibleby" 1 args
  match (← present "divisibleby" v).number? with
  | none => throw ("Tester `divisibleby` was called on a variable that isn't a number" : Text)
  | some n =>
    match args.head?.bind Value.number? with
    | some m => return remainderBy n.toFloat m.toFloat == 0.0
    | none =>
      throw ("Tester `divisibleby` was called with a parameter that isn't a number" : Text)

def containingTest : Test := fun v args => do
  atMost "containing" 1 args
  match ← present "containing" v with
  | .string t => return Text.includes t (← textPart "containing" "with a parameter" args.head?)
  | .array items => return items.any fun w => args.head?.any fun a => w.same a
  | .object entries =>
    return Namespace.contains entries (← textPart "containing" "with a parameter" args.head?)
  | _ => throw ("Tester `containing` can only be used on string, array or map" : Text)

def matchingTest : Test :=
  textTest "matching" fun t needle =>
    match Pattern.read needle with
    | .ok r => .ok (r.occursIn t)
    | .error e =>
      .error ("Tester `matching`: Invalid regular expression: " ++ e.report needle)

def builtinTests : List (String × Test) := [
  ("defined", fun v args => do
    atMost "defined" 0 args
    return v.isSome),
  ("undefined", fun v args => do
    atMost "undefined" 0 args
    return v.isNone),
  ("odd", oddTest),
  ("even", fun v args => do
    atMost "even" 0 args
    let _ ← present "even" v
    return !(← oddTest v args)),
  ("string", kindTest "string" fun v => v.text?.isSome),
  ("number", kindTest "number" fun v => v.number?.isSome),
  ("iterable", kindTest "iterable" fun v => v.isArray || v.isObject),
  ("object", kindTest "object" Value.isObject),
  ("divisibleby", divisibleTest),
  ("starting_with", textTest "starting_with" fun t needle => .ok (Text.startsWith t needle)),
  ("ending_with", textTest "ending_with" fun t needle => .ok (Text.endsWith t needle)),
  ("containing", containingTest),
  ("matching", matchingTest)]

def rangeArgument (args : Namespace) (name shown : String) : Except Text (Option Nat) :=
  match Namespace.get? args name with
  | none => .ok none
  | some v =>
    match Expectation.count.read? v with
    | some n => .ok (some n)
    | none =>
      .error ("Function `range` received " ++ name ++ "=" ++ v.toJson ++ " but `" ++ shown
        ++ "` can only be a number")

def rangeFunction : Function := fun args => do
  let start := (← rangeArgument args "start" "start").getD 0
  let step := (← rangeArgument args "step_by" "step").getD 1
  match ← rangeArgument args "end" "end" with
  | none => throw ("Function `range` was called without a `end` argument" : Text)
  | some stop =>
    if stop < start then
      throw ("Function `range` was called with a `start` argument greater than the `end` one"
        : Text)
    else
      let count := if step = 0 then 0 else (stop - start + step - 1) / step
      return .array ((List.range count).map fun i => .ofNat (start + i * step))

def throwFunction : Function := fun args =>
  match Namespace.get? args "message" with
  | some (.string t) => .error t
  | some v =>
    .error ("Function `throw` received message=" ++ v.toJson
      ++ " but `message` can only be a string")
  | none => .error "Function `throw` was called without a `message` argument"

def builtinFunctions : List (String × Function) := [
  ("range", rangeFunction),
  ("throw", throwFunction)]

end TemplateTree.Template
