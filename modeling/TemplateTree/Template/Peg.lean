import TemplateTree.Text.Basic

/-!
# Parsing expressions

Grammars as data.  A rule has an expression and a mode that says whether white
space is passed over between its parts.  Matching is deterministic: of two
alternatives the first that matches is taken.  Besides the tree of a match the
matcher keeps the furthest place at which a rule was tried in vain, which is
where a failure is reported.
-/

namespace TemplateTree

inductive Peg (ρ : Type) where
  | text (t : Text)
  | range (low high : Char)
  | any
  | start
  | stop
  | seq (a b : Peg ρ)
  | alt (a b : Peg ρ)
  | opt (a : Peg ρ)
  | star (a : Peg ρ)
  | absent (a : Peg ρ)
  | rule (r : ρ)

/-- Whether white space is passed over between the parts of a rule, and whether
the rules inside it show in the tree. -/
inductive Spacing where
  /-- White space is passed over. -/
  | free
  /-- Nothing is passed over. -/
  | tight
  /-- Nothing is passed over and inner rules do not show. -/
  | solid
  deriving DecidableEq, Repr

/-- How a rule takes part in matching. -/
inductive RuleMode where
  /-- The rule shows in the tree and keeps the spacing around it. -/
  | normal
  /-- The rule does not show in the tree. -/
  | silent
  /-- The inside of the rule is solid. -/
  | solid
  /-- The rule is tight whatever is around it. -/
  | tight
  /-- The rule is free whatever is around it. -/
  | free
  deriving DecidableEq, Repr

structure PegRule (ρ : Type) where
  mode : RuleMode
  body : Peg ρ

/-- A matched rule: the place it begins at, its text and the rules inside it. -/
inductive ParseTree (ρ : Type) where
  | node (rule : ρ) (start : Nat) (text : Text) (inner : List (ParseTree ρ))

namespace ParseTree

def rule : ParseTree ρ → ρ
  | node r _ _ _ => r

def text : ParseTree ρ → Text
  | node _ _ t _ => t

def inner : ParseTree ρ → List (ParseTree ρ)
  | node _ _ _ ts => ts

end ParseTree

namespace Peg

def seqs : List (Peg ρ) → Peg ρ
  | [] => text []
  | [a] => a
  | a :: as => seq a (seqs as)

def alts : List (Peg ρ) → Peg ρ
  | [] => absent (text [])
  | [a] => a
  | a :: as => alt a (alts as)

def plus (a : Peg ρ) : Peg ρ :=
  seq a (star a)

/-- What the characters before an end of input are not. -/
def upTo (a : Peg ρ) : Peg ρ :=
  seq (absent a) any

/-- The rest of the input and the place it begins at. -/
structure Input where
  rest : Text
  place : Nat

/-- What surrounds a match. -/
structure Setting where
  spacing : Spacing
  /-- Whether the match is tried only to see that it fails. -/
  inverted : Bool

/-- The result of a match, if it succeeds, and the furthest place at which a
rule was tried in vain. -/
structure Outcome (ρ : Type) where
  result : Option (Input × List (ParseTree ρ))
  furthest : Nat

def Outcome.failed (furthest : Nat) : Outcome ρ :=
  ⟨none, furthest⟩

def Outcome.taken (i : Input) (furthest : Nat) : Outcome ρ :=
  ⟨some (i, []), furthest⟩

/-- A step of a match from an input, given the furthest place so far. -/
abbrev Step (ρ : Type) := Input → Nat → Outcome ρ

def Outcome.andThen (o : Outcome ρ) (next : Step ρ) : Outcome ρ :=
  match o.result with
  | none => o
  | some (i, ts) =>
    let o' := next i o.furthest
    match o'.result with
    | none => o'
    | some (i', ts') => ⟨some (i', ts ++ ts'), o'.furthest⟩

/-- White space that is passed over between the parts of a free rule. -/
def isSpacing (c : Char) : Bool :=
  c = ' ' || c = '\t' || c = '\r' || c = '\n'

/-- The input after white space, where the spacing is free. -/
def passSpace (s : Spacing) (i : Input) : Input :=
  if s = .free then
    let blanks := (i.rest.takeWhile isSpacing).length
    ⟨i.rest.drop blanks, i.place + blanks⟩
  else i

/-- A step repeated until it fails; each round after the first passes over white
space. -/
def repeated (spacing : Spacing) (step : Step ρ) : Nat → Bool → Input → Nat → Outcome ρ
  | 0, _, i, far => .taken i far
  | fuel + 1, first, i, far =>
    let o := step (if first then i else passSpace spacing i) far
    match o.result with
    | none => .taken i o.furthest
    | some (i', ts) =>
      let o' := repeated spacing step fuel false i' o.furthest
      match o'.result with
      | none => o'
      | some (i'', ts') => ⟨some (i'', ts ++ ts'), o'.furthest⟩

def matchWith (call : ρ → Setting → Step ρ) : Peg ρ → Setting → Step ρ
  | .text t, _, i, far =>
    match Text.dropStart? t i.rest with
    | some rest => .taken ⟨rest, i.place + t.length⟩ far
    | none => .failed far
  | .range low high, _, i, far =>
    match i.rest with
    | c :: rest => if low ≤ c ∧ c ≤ high then .taken ⟨rest, i.place + 1⟩ far else .failed far
    | [] => .failed far
  | .any, _, i, far =>
    match i.rest with
    | _ :: rest => .taken ⟨rest, i.place + 1⟩ far
    | [] => .failed far
  | .start, _, i, far => if i.place = 0 then .taken i far else .failed far
  | .stop, _, i, far => if i.rest = [] then .taken i far else .failed far
  | .seq a b, s, i, far =>
    (matchWith call a s i far).andThen fun i' far' =>
      matchWith call b s (passSpace s.spacing i') far'
  | .alt a b, s, i, far =>
    let o := matchWith call a s i far
    match o.result with
    | some _ => o
    | none => matchWith call b s i o.furthest
  | .opt a, s, i, far =>
    let o := matchWith call a s i far
    match o.result with
    | some _ => o
    | none => .taken i o.furthest
  | .star a, s, i, far =>
    repeated s.spacing (matchWith call a s) (i.rest.length + 1) true i far
  | .absent a, s, i, far =>
    let o := matchWith call a { s with inverted := !s.inverted } i far
    match o.result with
    | some _ => .failed o.furthest
    | none => .taken i o.furthest
  | .rule r, s, i, far => call r s i far

def enterRule (r : ρ) (mode : RuleMode) (run : Setting → Step ρ) (s : Setting) (i : Input)
    (far : Nat) : Outcome ρ :=
  let outer : Setting := match mode with
    | .tight => { s with spacing := .tight }
    | .free => { s with spacing := .free }
    | _ => s
  let inside : Setting := if mode = .solid then { outer with spacing := .solid } else outer
  let o := run inside i far
  if mode = .silent then o
  else
    -- Inside a solid rule nothing shows, and nothing that fails is noted.
    let shows := outer.spacing ≠ .solid
    match o.result with
    | some (i', ts) =>
      -- What must not match is tried in vain where it does.
      let far' := if s.inverted && shows then max o.furthest i.place else o.furthest
      let trees :=
        if shows && !s.inverted then
          [ParseTree.node r i.place (i.rest.take (i'.place - i.place)) ts]
        else ts
      ⟨some (i', trees), far'⟩
    | none => .failed (if !s.inverted && shows then max o.furthest i.place else o.furthest)

/-- Match a rule of a grammar; `fuel` bounds the depth of rules. -/
def matchRule (grammar : ρ → PegRule ρ) : Nat → ρ → Setting → Step ρ
  | 0, _, _, _, far => .failed far
  | fuel + 1, r, s, i, far =>
    enterRule r (grammar r).mode (matchWith (matchRule grammar fuel) (grammar r).body) s i far

/-- The depth of rules allowed for a text: enough for every character to open as
many rules as a grammar nests without reading one. -/
def depthFor (t : Text) : Nat :=
  64 * (t.length + 2)

/-- Parse a whole text by a rule: the tree, or the place of the failure. -/
def parse (grammar : ρ → PegRule ρ) (r : ρ) (t : Text) : Except Nat (ParseTree ρ) :=
  let o := matchRule grammar (depthFor t) r ⟨.free, false⟩ ⟨t, 0⟩ 0
  match o.result with
  | some (_, [tree]) => .ok tree
  | _ => .error o.furthest

end Peg

end TemplateTree
