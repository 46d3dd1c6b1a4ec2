import TemplateTree.Value.Print

/-!
# Templates as trees

What a template consists of: expressions with their filters, and the pieces of
content between and around tags.
-/

namespace TemplateTree.Template

inductive MathOp where
  | add | sub | mul | div | rem
  deriving DecidableEq, Repr

inductive LogicOp where
  | gt | gte | lt | lte | eq | ne | and | or
  deriving DecidableEq, Repr

mutual

/-- An expression: a term, whether it is negated, and the filters applied to
it. -/
inductive Expr where
  | mk (term : Term) (negated : Bool) (filters : List Call)

/-- What an expression is made of before negation and filters. -/
inductive Term where
  | string (t : Text)
  | int (n : Int)
  | float (x : Float)
  | bool (b : Bool)
  /-- A variable and the way into it. -/
  | path (p : Text)
  | math (op : MathOp) (left right : Expr)
  | logic (op : LogicOp) (left right : Expr)
  | test (path name : Text) (negated : Bool) (args : List Expr)
  | macroCall (scope name : Text) (args : List Arg)
  | call (c : Call)
  | array (items : List Expr)
  | concat (parts : List Term)
  | member (left right : Expr) (negated : Bool)

inductive Call where
  | mk (name : Text) (args : List Arg)

inductive Arg where
  | mk (name : Text) (value : Expr)

end

instance : Inhabited Expr := ⟨.mk (.bool false) false []⟩

namespace Expr

def plain (t : Term) : Expr := .mk t false []

def term : Expr → Term
  | mk t _ _ => t

def negated : Expr → Bool
  | mk _ n _ => n

def filters : Expr → List Call
  | mk _ _ fs => fs

def withNegation (n : Bool) : Expr → Expr
  | mk t _ fs => mk t n fs

end Expr

namespace Call

def name : Call → Text
  | mk n _ => n

def args : Call → List Arg
  | mk _ as => as

end Call

namespace Arg

def name : Arg → Text
  | mk n _ => n

def value : Arg → Expr
  | mk _ v => v

/-- The last value given under a name. -/
def find? (args : List Arg) (name : Text) : Option Expr :=
  (args.reverse.find? (fun a => a.name = name)).map value

end Arg

/-- Whether white space is taken off the text before a tag and after it. -/
structure Trim where
  before : Bool
  after : Bool
  deriving DecidableEq, Repr, Inhabited

/-- A parameter of a macro and the term it stands for when it is not given. -/
structure MacroParam where
  name : Text
  default : Option Term

mutual

/-- A piece of a template.  A piece with a body has the trims of its first and
its last tag. -/
inductive Piece where
  | text (t : Text)
  | output (trim : Trim) (e : Expr)
  /-- The block that the one around it overrides. -/
  | overridden
  | macroDef (first : Trim) (name : Text) (params : List MacroParam) (body : List Piece)
      (last : Trim)
  | extends (trim : Trim) (parent : Text)
  | include (trim : Trim) (names : List Text) (optional : Bool)
  | importMacros (trim : Trim) (file scope : Text)
  | assign (trim : Trim) (name : Text) (value : Expr) (global : Bool)
  | raw (first : Trim) (t : Text) (last : Trim)
  | filtered (first : Trim) (filter : Call) (body : List Piece) (last : Trim)
  /-- A loop; the alternative is taken when there is nothing to iterate on. -/
  | loop (first : Trim) (key : Option Text) (item : Text) (container : Expr)
      (body alternative : List Piece) (last : Trim)
  | leave (trim : Trim)
  | next (trim : Trim)
  | block (first : Trim) (name : Text) (body : List Piece) (last : Trim)
  | branch (cases : List Case) (last : Trim)
  | comment (trim : Trim)

/-- A case of a conditional; what remains is a case without condition. -/
inductive Case where
  | mk (trim : Trim) (condition : Option Expr) (body : List Piece)

end

namespace Case

def trim : Case → Trim
  | mk t _ _ => t

def condition : Case → Option Expr
  | mk _ c _ => c

def body : Case → List Piece
  | mk _ _ b => b

end Case

end TemplateTree.Template
