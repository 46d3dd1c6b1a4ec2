import TemplateTree.Value.Print

/-!
# Subjects and arguments

What filters, tests and functions ask of the values they are given, and what is
said when a value is of another kind.
-/

namespace TemplateTree.Template

/-- What a value is to be read as, with the name that messages give to it. -/
structure Expectation (α : Type) where
  name : Text
  read? : Value → Option α

namespace Expectation

def text : Expectation Text := ⟨"String", Value.text?⟩

def items : Expectation (List Value) :=
  ⟨"Vec<Value>", fun v => match v with
    | .array xs => some xs
    | _ => none⟩

def count : Expectation Nat :=
  ⟨"usize", fun v => v.number?.bind Number.unsigned?⟩

def int (bits : Nat) : Expectation Int :=
  ⟨'i' :: Text.decimal bits, fun v => (v.number?.bind Number.signed?).filter fun n =>
    -(Nat.pow 2 (bits - 1)) ≤ n && n < Nat.pow 2 (bits - 1)⟩

def base : Expectation Nat :=
  ⟨"u32", fun v => (v.number?.bind Number.unsigned?).filter (· < Nat.pow 2 32)⟩

def double : Expectation Float :=
  ⟨"f64", fun v => v.number?.map Number.toFloat⟩

def truth : Expectation Bool :=
  ⟨"bool", fun v => match v with
    | .bool b => some b
    | _ => none⟩

end Expectation

def subject (filter : String) (want : Expectation α) (v : Value) : Except Text α :=
  match want.read? v with
  | some x => .ok x
  | none =>
    .error ("Filter `" ++ filter ++ "` was called on an incorrect value: got `" ++ v.toJson
      ++ "` but expected a " ++ want.name)

def argument? (filter : String) (want : Expectation α) (args : Namespace) (name : String) :
    Except Text (Option α) :=
  match Namespace.get? args name with
  | none => .ok none
  | some v =>
    match want.read? v with
    | some x => .ok (some x)
    | none =>
      .error ("Filter `" ++ filter ++ "` received an incorrect type for arg `" ++ name
        ++ "`: got `" ++ v.toJson ++ "` but expected a " ++ want.name)

def argumentOr (filter : String) (want : Expectation α) (args : Namespace) (name : String)
    (default : α) : Except Text α := do
  return (← argument? filter want args name).getD default

/-- An argument that may not be left out, with what is said when it is. -/
def argument (filter : String) (want : Expectation α) (args : Namespace) (name : String)
    (complaint : Text) : Except Text α := do
  match ← argument? filter want args name with
  | some x => return x
  | none => throw complaint

def missing (filter name : String) : Text :=
  "Filter `" ++ filter ++ "` expected an arg called `" ++ name ++ "`"

def required (filter article name : String) : Text :=
  "The `" ++ filter ++ "` filter has to have " ++ article ++ " `" ++ name ++ "` argument"

/-- A filter: a value and arguments in, a value out. -/
abbrev Filter := Value → Namespace → Except Text Value

abbrev Function := Namespace → Except Text Value

/-- A test of a value, which may not be there, with arguments. -/
abbrev Test := Option Value → List Value → Except Text Bool

/-- What a call asks of the machine: its name, what a filter is applied to, and the
arguments. -/
structure Question where
  name : Text
  subject : Option Value
  args : Namespace

/-- What the machine says to the questions of a rendering, which are numbered as they
are asked. -/
abbrev Outlook := Nat → Question → Except Text Value

/-- The outlook of a rendering that has no machine to ask. -/
def Outlook.none : Outlook := fun _ q =>
  .error ("Nobody can be asked for `" ++ q.name ++ "`")

/-- Escapes in an argument read as the characters they stand for. -/
def unescaped (t : Text) : Text :=
  Text.replace "\\t" "\t" (Text.replace "\\n" "\n" t)

end TemplateTree.Template
