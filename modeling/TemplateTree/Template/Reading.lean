import TemplateTree.Template.Ast
import TemplateTree.Template.Grammar
import TemplateTree.Number.Reading

/-!
# From parse trees to templates

Reading the trees that the grammar yields.  Operators of one rank group to the
left, and a conditional is cut into cases at its tags.
-/

namespace TemplateTree.Template

abbrev Tree := ParseTree Rule

/-- An integer that no signed 64-bit integer holds. -/
structure IntegerOverflow where
  digits : Text
  deriving DecidableEq, Repr

/-- Combine operands and the operators between them: tight operators first, and
from the left within a rank. -/
def climb (isTight : ω → Bool) (combine : α → ω → α → α) (first : α) (rest : List (ω × α)) : α :=
  let step (s : Option (α × ω) × α) (next : ω × α) : Option (α × ω) × α :=
    let (pending, current) := s
    if isTight next.1 then (pending, combine current next.1 next.2)
    else
      let left := match pending with
        | some (l, op) => combine l op current
        | none => current
      (some (left, next.1), next.2)
  match rest.foldl step (none, first) with
  | (some (l, op), current) => combine l op current
  | (none, current) => current

/-- The pairs of operators and operands after the first operand. -/
def pairUp : List α → List (α × α)
  | op :: x :: rest => (op, x) :: pairUp rest
  | _ => []

def mathOp : Rule → MathOp
  | .opMinus => .sub
  | .opTimes => .mul
  | .opSlash => .div
  | .opModulo => .rem
  | _ => .add

def MathOp.isTight : MathOp → Bool
  | mul => true
  | div => true
  | rem => true
  | _ => false

def logicOp : Rule → LogicOp
  | .opLte => .lte
  | .opGte => .gte
  | .opLt => .lt
  | .opGt => .gt
  | .opIneq => .ne
  | .opAnd => .and
  | .opOr => .or
  | _ => .eq

def unquote (t : Text) : Text :=
  (t.drop 1).dropLast

def readInt (t : Text) : Except IntegerOverflow Int :=
  let n : Int := match t with
    | '-' :: ds => -(Text.valueFrom 10 0 ds : Int)
    | ds => Text.valueFrom 10 0 ds
  if Number.isSigned n then .ok n else .error ⟨t⟩

def has (r : Rule) (ts : List Tree) : Bool :=
  ts.any (fun t => t.rule = r)

def textsOf (r : Rule) (ts : List Tree) : List Text :=
  (ts.filter (fun t => t.rule = r)).map ParseTree.text

def textOf (r : Rule) (ts : List Tree) : Text :=
  ((textsOf r ts).head?).getD []

/-- Adjacent texts of a concatenation made one. -/
def joinTexts : List Term → List Term
  | .string a :: rest =>
    match joinTexts rest with
    | .string b :: more => .string (a ++ b) :: more
    | more => if a = [] then more else .string a :: more
  | t :: rest => t :: joinTexts rest
  | [] => []

/-- A concatenation; one of texts only is a text. -/
def concatOf (parts : List Term) : Term :=
  match joinTexts parts with
  | [] => .string []
  | [.string t] => .string t
  | ts => .concat ts

/-- Arguments without those that a later one of the same name replaces. -/
def lastByName : List Arg → List Arg
  | [] => []
  | a :: rest =>
    if rest.any (fun b => b.name = a.name) then lastByName rest else a :: lastByName rest

mutual

def readTerm (fuel : Nat) (t : Tree) : Except IntegerOverflow Term :=
  match fuel with
  | 0 => .ok (.bool false)
  | fuel + 1 =>
    match t.rule with
    | .int => do return .int (← readInt t.text)
    | .float => .ok (.float ((readFloat? t.text).getD 0.0))
    | .boolean => .ok (.bool (t.text = "true" || t.text = "True"))
    | .string => .ok (.string (unquote t.text))
    | .pathIdent => .ok (.path t.text)
    | .fnCall => do return .call (← readCall fuel t)
    | .macroCall => do
      let names := textsOf .ident t.inner
      return .macroCall (names.headD []) ((names.drop 1).headD []) (← readArgs fuel t.inner)
    | .test => readTest fuel false t
    | .testNot => readTest fuel true t
    | .stringConcat => do return concatOf (← t.inner.mapM (readTerm fuel))
    | .array => do return .array (← t.inner.mapM (readExpr fuel))
    | .basicExpr =>
      match t.inner with
      | [] => .ok (.bool false)
      | first :: rest => do
        let a ← readTerm fuel first
        let others ← (pairUp rest).mapM fun (op, x) => do return (mathOp op.rule, ← readTerm fuel x)
        return climb MathOp.isTight (fun l op r => .math op (.plain l) (.plain r)) a others
    | _ => .ok (.bool false)

def readTest (fuel : Nat) (negated : Bool) (t : Tree) : Except IntegerOverflow Term :=
  match fuel with
  | 0 => .ok (.bool false)
  | fuel + 1 => do
    let calls := (t.inner.filter (fun u => u.rule = .testCall)).flatMap ParseTree.inner
    let args ← (calls.filter (fun u => u.rule = .testArg)).mapM fun u =>
      match u.inner with
      | e :: _ => readExpr fuel e
      | [] => .ok default
    return .test (textOf .pathIdent t.inner) (textOf .ident calls) negated args

def readArgs (fuel : Nat) (ts : List Tree) : Except IntegerOverflow (List Arg) :=
  match fuel with
  | 0 => .ok []
  | fuel + 1 => do
    let args ← (ts.filter (fun u => u.rule = .kwarg)).mapM fun u => do
      match u.inner with
      | [name, e] => return Arg.mk name.text (← readExpr fuel e)
      | _ => return Arg.mk [] default
    return lastByName args

def readCall (fuel : Nat) (t : Tree) : Except IntegerOverflow Call :=
  match fuel with
  | 0 => .ok (.mk [] [])
  | fuel + 1 =>
    if t.rule = .fnCall then do
      return .mk (textOf .ident t.inner) (← readArgs fuel t.inner)
    else .ok (.mk t.text [])

def readExpr (fuel : Nat) (t : Tree) : Except IntegerOverflow Expr :=
  match fuel with
  | 0 => .ok default
  | fuel + 1 =>
    match t.rule with
    | .logicExpr =>
      match t.inner with
      | [] => .ok default
      | first :: rest => do
        let a ← readExpr fuel first
        let others ← (pairUp rest).mapM fun (op, x) => do
          return (logicOp op.rule, ← readExpr fuel x)
        return climb (· = .and) (fun l op r => .plain (.logic op l r)) a others
    | .logicVal => do
      match t.inner.filter (fun u => u.rule ≠ .opNot) with
      | e :: _ => return (← readExpr fuel e).withNegation (has .opNot t.inner)
      | [] => return default
    | .comparisonExpr =>
      match t.inner with
      | [] => .ok default
      | first :: rest => do
        let a ← readExpr fuel first
        let others ← (pairUp rest).mapM fun (op, x) => do
          return (logicOp op.rule, ← readExpr fuel x)
        return climb (fun _ => false) (fun l op r => .plain (.logic op l r)) a others
    | .comparisonVal =>
      match t.inner with
      | [] => .ok default
      | first :: rest => do
        let a ← readExpr fuel first
        let others ← (pairUp rest).mapM fun (op, x) => do return (mathOp op.rule, ← readExpr fuel x)
        return climb MathOp.isTight (fun l op r => .plain (.math op l r)) a others
    | .inCond =>
      match t.inner.filter (fun u => u.rule ≠ .opNot) with
      | [l, r] => do
        let left ← readExpr fuel l
        let right ← readExpr fuel r
        return .plain (.member left right (has .opNot t.inner))
      | _ => .ok default
    | .inContainer =>
      match t.inner with
      | e :: _ => readExpr fuel e
      | [] => .ok default
    | .basicExprFilter => readFiltered fuel t
    | .stringExprFilter => readFiltered fuel t
    | .arrayFilter => readFiltered fuel t
    | _ => do return .plain (← readTerm fuel t)

def readFiltered (fuel : Nat) (t : Tree) : Except IntegerOverflow Expr :=
  match fuel with
  | 0 => .ok default
  | fuel + 1 =>
    match t.inner with
    | [] => .ok default
    | first :: rest => do
      let term ← readTerm fuel first
      let filters ← (rest.filterMap (fun f => f.inner.head?)).mapM (readCall fuel)
      return .mk term false filters

end

/-- The trims of a tag: a hyphen beside its opening or its closing bracket. -/
def trimOf (ts : List Tree) : Trim :=
  let opens := ts.find? fun t => t.rule = .tagStart || t.rule = .variableStart
    || t.rule = .commentStart
  let closes := ts.find? fun t => t.rule = .tagEnd || t.rule = .variableEnd || t.rule = .commentEnd
  ⟨opens.any (fun t => t.text.getLast? = some '-'), closes.any (fun t => t.text.head? = some '-')⟩

/-- Whether a rule is an expression or array that a tag holds. -/
def isOperand (t : Tree) : Bool :=
  t.rule = .logicExpr || t.rule = .arrayFilter || t.rule = .basicExprFilter

def operandOf (fuel : Nat) (ts : List Tree) : Except IntegerOverflow Expr :=
  match ts.find? isOperand with
  | some e => readExpr fuel e
  | none => .ok default

def readParam (fuel : Nat) (t : Tree) : Except IntegerOverflow MacroParam := do
  match t.inner with
  | [name, value] => return ⟨name.text, some (← readTerm fuel value)⟩
  | _ => return ⟨textOf .ident t.inner, none⟩

/-- Cut the trees of a conditional into its cases: the tag of each and what
follows it. -/
def cutCases : List Tree → List (Tree × List Tree)
  | [] => []
  | t :: rest =>
    if t.rule = .ifTag || t.rule = .elifTag || t.rule = .elseTag then
      let isTag (u : Tree) : Bool :=
        u.rule = .elifTag || u.rule = .elseTag || u.rule = .endifTag
      (t, rest.takeWhile (fun u => !isTag u)) :: cutCases rest
    else cutCases rest

def outerTrims (ts : List Tree) : Trim × Trim :=
  ((ts.head?.map (fun t => trimOf t.inner)).getD ⟨false, false⟩,
    (ts.getLast?.map (fun t => trimOf t.inner)).getD ⟨false, false⟩)

def between (ts : List Tree) : List Tree :=
  (ts.drop 1).dropLast

def readPiece : Nat → Tree → Except IntegerOverflow Piece
  | 0, _ => .ok (.text [])
  | fuel + 1, t =>
    let trim := trimOf t.inner
    let (first, last) := outerTrims t.inner
    let tag := ((t.inner.head?).map ParseTree.inner).getD []
    match t.rule with
    | .text => .ok (.text t.text)
    | .variableTag => do return .output trim (← operandOf fuel t.inner)
    | .superTag => .ok .overridden
    | .commentTag => .ok (.comment trim)
    | .extendsTag => .ok (.extends trim (unquote (textOf .string t.inner)))
    | .includeTag =>
      let listed := (t.inner.filter (fun u => u.rule = .stringArray)).flatMap ParseTree.inner
      let names := textsOf .string (t.inner ++ listed)
      .ok (.include trim (names.map unquote) (has .ignoreMissing t.inner))
    | .importTag =>
      .ok (.importMacros trim (unquote (textOf .string t.inner)) (textOf .ident t.inner))
    | .setTag => do
      return .assign trim (textOf .ident t.inner) (← operandOf fuel t.inner) false
    | .setGlobalTag => do
      return .assign trim (textOf .ident t.inner) (← operandOf fuel t.inner) true
    | .breakTag => .ok (.leave trim)
    | .continueTag => .ok (.next trim)
    | .raw => .ok (.raw first (textOf .rawText t.inner) last)
    | .filterSection | .blockFilter => do
      let call := tag.find? fun u => u.rule = .fnCall || u.rule = .ident
      let filter ← match call with
        | some c => readCall fuel c
        | none => .ok (.mk [] [])
      return .filtered first filter (← (between t.inner).mapM (readPiece fuel)) last
    | .forLoop | .blockFor => do
      let names := textsOf .ident tag
      let (key, item) : Option Text × Text := match names with
        | [k, v] => (some k, v)
        | _ => (none, names.headD [])
      let parts := between t.inner
      let body ← (parts.takeWhile (fun u => u.rule ≠ .elseTag)).mapM (readPiece fuel)
      let alternative ←
        ((parts.dropWhile (fun u => u.rule ≠ .elseTag)).drop 1).mapM (readPiece fuel)
      return .loop first key item (← operandOf fuel tag) body alternative last
    | .block => do
      return .block first (textOf .ident tag) (← (between t.inner).mapM (readPiece fuel)) last
    | .macroDefinition => do
      let params ← (tag.filter (fun u => u.rule = .macroDefArg)).mapM (readParam fuel)
      return .macroDef first (textOf .ident tag) params
        (← (between t.inner).mapM (readPiece fuel)) last
    | .contentIf | .blockIf | .macroIf | .forIf | .forBlockIf => do
      let cases ← (cutCases t.inner).mapM fun (c, body) => do
        let condition ←
          if c.rule = .elseTag then pure none else some <$> operandOf fuel c.inner
        return Case.mk (trimOf c.inner) condition (← body.mapM (readPiece fuel))
      return .branch cases last
    | _ => .ok (.text [])

/-- The pieces of a parsed template; comments before everything else leave no
trace. -/
def readTemplate (fuel : Nat) (t : Tree) : Except IntegerOverflow (List Piece) :=
  ((t.inner.dropWhile (fun u => u.rule = .commentTag)).filter (fun u => u.rule ≠ .eoi)).mapM
    (readPiece fuel)

end TemplateTree.Template
