import TemplateTree.Template.Filter.OfTexts
import TemplateTree.Template.Filter.OfArrays
import TemplateTree.Template.Filter.OfValues
import TemplateTree.Template.Tests

/-!
# Registries

The filters, functions and tests that templates may use: those that are always
there, and those added by name, which come first.  A few of the former are questions
to the machine: it has the clock, random numbers, the variables of the process, and the
tables for calendars, languages and addresses.
-/

namespace TemplateTree

/-- Things by name, in the order of the names, each name once. -/
abbrev ByName (α : Type) := List (Text × α)

namespace ByName

/-- Put a thing under a name, in place of the one there. -/
def put (name : Text) (x : α) : ByName α → ByName α
  | [] => [(name, x)]
  | (k, y) :: rest =>
    match Text.order name k with
    | .lt => (name, x) :: (k, y) :: rest
    | .eq => (name, x) :: rest
    | .gt => (k, y) :: put name x rest

def names (m : ByName α) : List Text :=
  m.map Prod.fst

def has (m : ByName α) (name : Text) : Bool :=
  (List.lookup name m).isSome

end ByName

open Template in
structure Registry where
  filters : ByName Filter
  functions : ByName Function
  tests : ByName Test

namespace Registry

def empty : Registry := ⟨[], [], []⟩

/-- What is under a name among the things added or else among those always
there. -/
def among (added : ByName α) (always : List (String × α)) (name : Text) : Option α :=
  (List.lookup name added).orElse fun _ =>
    (always.find? fun p => p.1.toList = name).map Prod.snd

def filter? (r : Registry) (name : Text) : Option Template.Filter :=
  among r.filters (Template.textFilters ++ Template.arrayFilters ++ Template.valueFilters) name

def function? (r : Registry) (name : Text) : Option Template.Function :=
  among r.functions Template.builtinFunctions name

def askedFunctions : List String := ["now", "get_random", "get_env"]

def askedFilters : List String :=
  ["date", "slugify", "urlencode", "urlencode_strict", "filesizeformat"]

def isAsked (names : List String) (name : Text) : Bool :=
  names.any fun n => n.toList = name

def test? (r : Registry) (name : Text) : Option Template.Test :=
  among r.tests Template.builtinTests name

end Registry

end TemplateTree
