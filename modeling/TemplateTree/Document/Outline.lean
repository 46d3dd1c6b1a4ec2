import TemplateTree.Value.Basic

/-!
# Outlines of documents

An outline is what can be read of a document before anything is asked of its
content.  Where the syntax fails the outline holds a broken node and stops, so
that a reader of settings meets whichever fault comes first, one of content or
one of syntax.
-/

namespace TemplateTree

/-- How a scalar without a fixed type is written. -/
inductive ScalarStyle where
  | bare | block | quoted
  deriving DecidableEq, Repr

/-- The type that a tag gives to a scalar. -/
inductive ScalarTag where
  /-- No tag. -/
  | untagged
  | bool | int | float | null
  /-- A tag that the document defines for itself. -/
  | own
  /-- Any other tag, which makes a text. -/
  | other
  deriving DecidableEq, Repr

/-- A document as far as it can be read. -/
inductive Outline where
  /-- The syntax fails here. -/
  | broken
  /-- Nothing at all. -/
  | missing
  | null
  | bool (b : Bool)
  | number (n : Number)
  | string (t : Text)
  /-- A scalar whose type depends on what is expected. -/
  | scalar (style : ScalarStyle) (tag : ScalarTag) (t : Text)
  | list (items : List Outline)
  | table (entries : List (Outline × Outline))
  /-- A list or table with a tag that the document defines for itself. -/
  | tagged (body : Outline)
  deriving Inhabited

structure Reading where
  root : Outline
  trailing : Bool

end TemplateTree
