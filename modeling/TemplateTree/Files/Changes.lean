import TemplateTree.Files.Tree

/-!
# Changes between file trees

The nodes below a node are listed with their places, a directory before what it
holds.  Two listings are compared place by place: a change is a place with its
new node, or without one where the node is gone.  Times of modification are no
part of the comparison, and neither is what a directory holds, which has places
of its own.
-/

namespace TemplateTree

namespace Node

mutual

def listing : Node → List (Place × Node)
  | .dir entries => listEntries entries
  | .file .. => []
  | .link _ => []

def listEntries : List (Text × Node) → List (Place × Node)
  | [] => []
  | (name, n) :: rest =>
    ([name], n) :: (listing n).map (fun (place, m) => (name :: place, m)) ++ listEntries rest

end

/-- Whether two nodes say the same at their place. -/
def agrees : Node → Node → Bool
  | .file bytes mode _, .file bytes' mode' _ => bytes = bytes' && mode = mode'
  | .link target, .link target' => target = target'
  | .dir _, .dir _ => true
  | _, _ => false

/-- The places at which `new` has no node but `old` has one. -/
def gone (old new : List (Place × Node)) : List Place :=
  (old.filter fun (place, _) => (new.lookup place).isNone).map Prod.fst

/-- The places at which `new` has a node that `old` has not. -/
def placed (old new : List (Place × Node)) : List (Place × Node) :=
  new.filter fun (place, n) => !(old.lookup place).any (agrees n)

/-- What changed below a node: first what is gone, then what is new. -/
def changes (old new : Node) : List (Place × Option Node) :=
  (gone old.listing new.listing).map (fun place => (place, none))
    ++ (placed old.listing new.listing).map fun (place, n) => (place, some n)

end Node

end TemplateTree
