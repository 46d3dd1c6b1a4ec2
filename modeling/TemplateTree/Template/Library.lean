import TemplateTree.Template.Basic

/-!
# Libraries of templates

Templates that refer to each other by name.  Every template that a chain of
extensions or an import names must be there, and no chain may be a circle.
-/

namespace TemplateTree

/-- Templates in the order of their names. -/
structure Library where
  templates : List Template

namespace Library

def find? (l : Library) (name : Text) : Option Template :=
  l.templates.find? (fun t => t.name = name)

/-- Parse texts up to the first that does not parse. -/
def parseAll : List (Text × Text) → Except TemplateError (List Template)
  | [] => .ok []
  | (name, text) :: rest => do
    let t ← Template.parse name text
    let ts ← parseAll rest
    return t :: ts

def quotedNames (names : List Text) : Text :=
  "[" ++ Text.joinWith ", " (names.map Text.quoted) ++ "]"

/-- The templates above another one, nearest first; `start` is where the chain
began and `above` what it came by. -/
def chainFrom (l : Library) (start : Text) : Nat → Template → List Text →
    Except TemplateError (List Text)
  -- Out of fuel, the chain is in a circle that its start is not part of.
  | 0, t, above =>
    .error (.plain ("Circular extend detected for template '" ++ t.name
      ++ "'. Inheritance chain: `" ++ quotedNames above ++ "`"))
  | fuel + 1, t, above =>
    if above ≠ [] && t.name = start then
      .error (.plain ("Circular extend detected for template '" ++ start
        ++ "'. Inheritance chain: `" ++ quotedNames above ++ "`"))
    else
      match t.parent with
      | none => .ok above
      | some p =>
        match l.find? p with
        | some parent => chainFrom l start fuel parent (above ++ [parent.name])
        | none =>
          .error (.plain ("Template '" ++ t.name ++ "' is inheriting from '" ++ p
            ++ "', which doesn't exist or isn't loaded."))

/-- The templates above another one, nearest first. -/
def chain (l : Library) (t : Template) : Except TemplateError (List Text) :=
  chainFrom l t.name (l.templates.length + 2) t []

/-- The names of the templates above another one in a sound library. -/
def parents (l : Library) (t : Template) : List Text :=
  ((l.chain t).toOption).getD []

def missingImport? (l : Library) (t : Template) : Option Text :=
  ((t.imports.map Prod.fst).find? (fun f => (l.find? f).isNone))

/-- Check what templates say of each other, from the first on. -/
def checkChains (l : Library) : List Template → Except TemplateError Unit
  | [] => .ok ()
  | t :: rest => do
    let _ ← l.chain t
    checkChains l rest

/-- Check that imported files are there, from the first template on. -/
def checkImports (l : Library) : List Template → Except TemplateError Unit
  | [] => .ok ()
  | t :: rest =>
    match l.missingImport? t with
    | some f =>
      .error (.plain ("Template `" ++ t.name ++ "` loads macros from `" ++ f
        ++ "` which isn't present in Tera"))
    | none => checkImports l rest

def ofTexts (texts : List (Text × Text)) : Except TemplateError Library := do
  let l : Library := ⟨← parseAll texts⟩
  checkChains l l.templates
  checkImports l l.templates
  return l

end Library

end TemplateTree
