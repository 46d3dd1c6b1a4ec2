import TemplateTree.Value.Print

/-!
# Names and ways into values

A variable is written as a name with a way into its value: `a.b`, `a["b"]`,
`a[0]` or `a[b]`, where the last goes where the value of another variable
points.  Before a look-up every way is brought into the form of dotted steps.
-/

namespace TemplateTree.Template

/-- Which quotes a step of a way is in. -/
inductive Quoting where
  | bare | single | double
  deriving DecidableEq, Repr

def Quoting.after (q : Quoting) (c : Char) : Quoting :=
  match q with
  | bare => if c = '"' then double else if c = '\'' then single else bare
  | single => if c = '\'' then bare else single
  | double => if c = '"' then bare else double

def cutSteps (q : Quoting) : Text → List Text
  | [] => [[]]
  | c :: r =>
    if c = '.' && q = .bare then [] :: cutSteps .bare r
    else (cutSteps (q.after c) r).modifyHead (c :: ·)

/-- A step without the quotes around it, and with its escapes read. -/
def plainStep (t : Text) : Text :=
  let quote (c : Char) : Bool := c = '"' || c = '\''
  let bare :=
    if (t.head?).any quote && t.getLast? = t.head? && 2 ≤ t.length then (t.drop 1).dropLast else t
  Text.replace "~0" "~" (Text.replace "~1" "/" bare)

def stepsOf (way : Text) : List Text :=
  if way = [] then [] else (cutSteps .bare way).map plainStep

/-- A place in an array: digits without a leading zero. -/
def placeIn? (t : Text) : Option Nat :=
  match t with
  | '0' :: _ :: _ => none
  | _ => Text.readDigits? t

/-- The value one step into another. -/
def stepInto? (v : Value) (step : Text) : Option Value :=
  match v with
  | .object entries => Namespace.get? entries step
  | .array items => (placeIn? step).bind fun n => items[n]?
  | _ => none

def follow? (v : Value) : List Text → Option Value
  | [] => some v
  | s :: rest => (stepInto? v s).bind fun w => follow? w rest

def valueAt? (v : Value) (way : Text) : Option Value :=
  follow? v (stepsOf way)

def splitName (name : Text) : Text × Text :=
  (Text.splitOnce? ['.'] name).getD (name, [])

def named? (ns : Namespace) (name : Text) : Option Value :=
  let (root, way) := splitName name
  (Namespace.get? ns root).bind fun v => valueAt? v way

/-- The text up to the bracket that closes `depth` open ones. -/
def untilClosed : Nat → Text → Text
  | _, [] => []
  | depth, c :: r =>
    if c = ']' then if depth ≤ 1 then [] else c :: untilClosed (depth - 1) r
    else if c = '[' then c :: untilClosed (depth + 1) r
    else c :: untilClosed depth r

/-- The variables inside the brackets of a name, outermost ones only; `skip`
characters are still to be passed over. -/
def bracketed : Nat → Text → List Text
  | _, [] => []
  | skip + 1, _ :: r => bracketed skip r
  | 0, c :: r =>
    if c = '[' then
      match r with
      | [] => []
      | d :: rest =>
        if d = '"' || d = '\'' then bracketed 1 r
        else
          let inner := d :: untilClosed 1 rest
          if (Text.readBelow? (Nat.pow 2 64) inner).isSome then bracketed (inner.length + 1) r
          else inner :: bracketed (inner.length + 1) r
    else bracketed 0 r

/-- Brackets turned into dotted steps. -/
def dotted (name : Text) : Text :=
  -- In this order: a bracket with a quote beside it goes before one alone.
  [("/", "~1"), ("['", ".\""), ("[\"", ".\""), ("[", "."), ("']", "\""), ("\"]", "\""),
    ("]", "")].foldl (fun t ((old, new) : String × String) => Text.replace old new t) name

def notFound (name template : Text) : Text :=
  "Variable `" ++ name ++ "` not found in context while rendering '" ++ template ++ "'"

def stepText? : Value → Option Text
  | .string t => some ('"' :: t ++ ['"'])
  | .number n => some n.toJson
  | _ => none

/-- The value of a name, whose brackets may hold other names; `lookup?` finds
dotted names and `template` is the one that asks. -/
def resolve (lookup? : Text → Option Value) (template : Text) : Nat → Text → Except Text Value
  | 0, name => .error (notFound name template)
  | fuel + 1, name =>
    if name.contains '[' then do
      let opened ← (bracketed 0 name).foldlM (fun whole inner =>
        match resolve lookup? template fuel inner with
        | .error e => .error ("Variable " ++ name ++ " can not be evaluated because: " ++ e)
        | .ok v =>
          match stepText? v with
          | none =>
            .error ("Only variables evaluating to String or Number can be used as index (`"
              ++ inner ++ "` of `" ++ name ++ "`)")
          | some step =>
            let (before, after) :=
              (Text.splitOnce? ('[' :: inner ++ [']']) whole).getD (whole, [])
            .ok (before ++ '.' :: step ++ after)) name
      let way := dotted opened
      match lookup? way with
      | some v => .ok v
      | none =>
        .error (notFound name template ++ ": the evaluated version was `" ++ way
          ++ "`. Maybe the index is out of bounds?")
    else
      match lookup? name with
      | some v => .ok v
      | none => .error (notFound name template)

/-- The value of a name; a name inside another is shorter. -/
def valueOf (lookup? : Text → Option Value) (template name : Text) : Except Text Value :=
  resolve lookup? template (name.length + 1) name

end TemplateTree.Template
