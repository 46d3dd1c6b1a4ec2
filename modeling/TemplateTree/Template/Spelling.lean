import TemplateTree.Template.Ast

/-!
# Spelling out trees

Error messages show expressions and values as trees, with the name of every
part.
-/

namespace TemplateTree

def bracketedList (items : List Text) : Text :=
  '[' :: Text.joinWith ", " items ++ [']']

def bracedList (entries : List (Text × Text)) : Text :=
  '\x7b' :: Text.joinWith ", " (entries.map fun (k, v) => Text.quoted k ++ ": " ++ v) ++ ['\x7d']

def recordSpelling (name : String) (parts : List (String × Text)) : Text :=
  name ++ " \x7b ".toList
    ++ Text.joinWith ", " (parts.map fun (k, v) => (k : Text) ++ ": " ++ v) ++ [' ', '\x7d']

def labelled (name : String) (t : Text) : Text :=
  name ++ ['('] ++ t ++ [')']

namespace Value

mutual

def spelled : Value → Text
  | .null => "Null"
  | .bool b => labelled "Bool" (boolText b)
  | .number n => labelled "Number" n.toJson
  | .string t => labelled "String" (Text.quoted t)
  | .array items => "Array " ++ bracketedList (spelledItems items)
  | .object entries => "Object " ++ bracedList (spelledEntries entries)

def spelledItems : List Value → List Text
  | [] => []
  | v :: rest => spelled v :: spelledItems rest

def spelledEntries : List (Text × Value) → List (Text × Text)
  | [] => []
  | (k, v) :: rest => (k, spelled v) :: spelledEntries rest

end

end Value

namespace Template

def MathOp.spelled : MathOp → Text
  | add => "Add"
  | sub => "Sub"
  | mul => "Mul"
  | div => "Div"
  | rem => "Modulo"

def LogicOp.spelled : LogicOp → Text
  | gt => "Gt"
  | gte => "Gte"
  | lt => "Lt"
  | lte => "Lte"
  | eq => "Eq"
  | ne => "NotEq"
  | and => "And"
  | or => "Or"

mutual

def Expr.spelled : Expr → Text
  | .mk t negated filters =>
    recordSpelling "Expr" [("val", t.spelled), ("negated", Value.boolText negated),
      ("filters", bracketedList (spelledCalls filters))]

def Term.spelled : Term → Text
  | .string t => labelled "String" (Text.quoted t)
  | .int n => labelled "Int" (Text.signedDecimal n)
  | .float x => labelled "Float" (showFloat .diagnostic x)
  | .bool b => labelled "Bool" (Value.boolText b)
  | .path p => labelled "Ident" (Text.quoted p)
  | .math op l r =>
    labelled "Math" (recordSpelling "MathExpr"
      [("lhs", l.spelled), ("rhs", r.spelled), ("operator", op.spelled)])
  | .logic op l r =>
    labelled "Logic" (recordSpelling "LogicExpr"
      [("lhs", l.spelled), ("rhs", r.spelled), ("operator", op.spelled)])
  | .test path name negated args =>
    labelled "Test" (recordSpelling "Test"
      [("ident", Text.quoted path), ("negated", Value.boolText negated),
        ("name", Text.quoted name), ("args", bracketedList (spelledExprs args))])
  | .macroCall scope name args =>
    labelled "MacroCall" (recordSpelling "MacroCall"
      [("namespace", Text.quoted scope), ("name", Text.quoted name),
        ("args", bracedList (spelledArgs args))])
  | .call c => labelled "FunctionCall" c.spelled
  | .array items => labelled "Array" (bracketedList (spelledExprs items))
  | .concat parts =>
    labelled "StringConcat" (recordSpelling "StringConcat"
      [("values", bracketedList (spelledTerms parts))])
  | .member l r negated =>
    labelled "In" (recordSpelling "In"
      [("lhs", l.spelled), ("rhs", r.spelled), ("negated", Value.boolText negated)])

def Call.spelled : Call → Text
  | .mk name args =>
    recordSpelling "FunctionCall"
      [("name", Text.quoted name), ("args", bracedList (spelledArgs args))]

def spelledCalls : List Call → List Text
  | [] => []
  | c :: rest => c.spelled :: spelledCalls rest

def spelledExprs : List Expr → List Text
  | [] => []
  | e :: rest => e.spelled :: spelledExprs rest

def spelledTerms : List Term → List Text
  | [] => []
  | t :: rest => t.spelled :: spelledTerms rest

def spelledArgs : List Arg → List (Text × Text)
  | [] => []
  | .mk name e :: rest => (name, e.spelled) :: spelledArgs rest

end

/-- A concatenation as it is written, as far as it is made of texts and
variables. -/
def writtenConcat (parts : List Term) : Text :=
  Text.joinWith " ~ " (parts.map fun
    | .string t => '\'' :: t ++ ['\'']
    | .path p => p
    | _ => "unknown")

end Template

end TemplateTree
