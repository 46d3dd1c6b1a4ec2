import TemplateTree.Document.Json
import TemplateTree.Document.Yaml.Node
import TemplateTree.Document.Decode
import TemplateTree.Run.Failure

/-!
# Document formats

The format of a document goes by the extension of its path.  A record in a
document is described by its fields, and decoding it refuses fields that are
unknown, repeated or missing.
-/

namespace TemplateTree

inductive DocumentFormat where
  | json | yaml
  deriving DecidableEq, Repr

namespace DocumentFormat

def forPath (p : Path) : DocumentFormat :=
  if Path.hasExtension p "yaml" || Path.hasExtension p "yml" then .yaml else .json

def read (f : DocumentFormat) (t : Text) : Reading :=
  match f with
  | json => Json.read t
  | yaml => Yaml.read t

/-- Whether a record may also be given as the list of its fields. -/
def allowsPositional (f : DocumentFormat) : Bool :=
  f = json

def load (f : DocumentFormat) (path : Path) (content : Text)
    (decode : Outline → Except DecodeError α) : Except Failure α :=
  match (f.read content).decode decode with
  | .ok a => .ok a
  | .error e =>
    .error (.configuration ("Invalid document " ++ path ++ ": " ++ e.message)
      (some "Check the document syntax and key names"))

end DocumentFormat

/-- A field of a record that is built up field by field. -/
structure Field (σ : Type) where
  name : Text
  required : Bool
  decode : Outline → σ → Except DecodeError σ

namespace Field

/-- Decode the entries of a record; `seen` lists the fields already met. -/
def decodeEntries (fields : List (Field σ)) :
    List Text → σ → List (Outline × Outline) → Except DecodeError σ
  | seen, record, [] =>
    match fields.find? (fun f => f.required && !seen.contains f.name) with
    | some f => .error (.missingField f.name)
    | none => .ok record
  | seen, record, (key, node) :: rest => do
    let name ← Outline.text "field identifier" key
    match fields.find? (fun f => f.name = name) with
    | none => throw (.unknownField name (fields.map Field.name))
    | some f =>
      if seen.contains name then throw (.duplicateField name)
      else
        let record' ← f.decode node record
        decodeEntries fields (name :: seen) record' rest

/-- Decode a record given as the list of its fields; optional ones may be left
out at the end. -/
def decodeItems : List (Field σ) → σ → List Outline → Except DecodeError σ
  | [], record, [] => .ok record
  | [], _, _ :: _ => .error .syntaxError
  | f :: fs, record, [] =>
    if f.required then .error .syntaxError else decodeItems fs record []
  | f :: fs, record, node :: rest => do
    let record' ← f.decode node record
    decodeItems fs record' rest

/-- Decode a record; an absent node has no fields. -/
def decodeRecord (fields : List (Field σ)) (positional : Bool) (expected : Text) (initial : σ)
    (node : Outline) : Except DecodeError σ :=
  match node.untagged with
  | .table entries => decodeEntries fields [] initial entries
  | .scalar .bare _ [] => decodeEntries fields [] initial []
  | .missing => decodeEntries fields [] initial []
  | .list items =>
    if positional then decodeItems fields initial items
    else .error (node.unexpected expected)
  | node => .error (node.unexpected expected)

end Field

end TemplateTree
