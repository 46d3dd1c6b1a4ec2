import TemplateTree.Files.Path
import TemplateTree.Text.Blank
import TemplateTree.Text.Decimal
import TemplateTree.Text.Quoted

/-!
# File sections

Rendered text describes files: each section begins with a marker, goes on with
the destination of the file, a second marker and the file's body.  All sections
are checked before any is returned.
-/

namespace TemplateTree

structure Markers where
  newFile : Text
  content : Text
  deriving DecidableEq, Repr

inductive MarkersError where
  | blank
  | overlap (newFile content : Text)
  deriving DecidableEq, Repr

namespace Markers

/-- The markers of settings that name none. -/
def standard : Markers := ⟨"### New file:", "### Content:"⟩

/-- Markers hold more than white space, and neither occurs in the other. -/
def validate (m : Markers) : Except MarkersError Unit :=
  if Text.isBlank m.newFile || Text.isBlank m.content then .error .blank
  else if Text.includes m.newFile m.content || Text.includes m.content m.newFile then
    .error (.overlap m.newFile m.content)
  else .ok ()

end Markers

def MarkersError.message : MarkersError → Text
  | blank => "`marker_new_file` and `marker_content` must not be empty"
  | overlap a b => "markers \"" ++ a ++ "\" and \"" ++ b ++ "\" overlap"

structure Section where
  /-- The path below the output directory. -/
  destination : Path
  body : Text
  deriving DecidableEq, Repr

inductive SectionError where
  | leadingText (marker excerpt : Text)
  | contentMarkerCount (index : Nat) (marker : Text) (count : Nat)
  | missingDestination (index : Nat)
  | multilineDestination (index : Nat) (destination : Text)
  | unsafeDestination (index : Nat) (destination : Text)
  deriving DecidableEq, Repr

def SectionError.message : SectionError → Text
  | leadingText marker excerpt =>
    "text before the first \"" ++ marker ++ "\" marker: " ++ Text.quoted excerpt
  | contentMarkerCount index marker count =>
    "file section " ++ Text.decimal index ++ " has " ++ Text.decimal count ++ " \"" ++ marker
      ++ "\" markers, expected exactly one"
  | missingDestination index =>
    "file section " ++ Text.decimal index ++ " has no destination file name"
  | multilineDestination index destination =>
    "file section " ++ Text.decimal index ++ " destination " ++ Text.quoted destination
      ++ " spans several lines"
  | unsafeDestination index destination =>
    "file section " ++ Text.decimal index ++ " destination " ++ Text.quoted destination
      ++ " leaves the output directory"

namespace Section

def excerptLength : Nat := 40

def excerpt (t : Text) : Text :=
  if t.length > excerptLength then t.take excerptLength ++ "..." else t

/-- Backslashes turned into slashes. -/
def withSlashes (t : Text) : Path :=
  t.map fun c => if c = '\\' then '/' else c

/-- The section that a fragment between new-file markers describes; `index`
counts fragments from one. -/
def ofFragment (m : Markers) (index : Nat) (fragment : Text) : Except SectionError Section :=
  let count := Text.occurrences m.content fragment
  if count ≠ 1 then .error (.contentMarkerCount index m.content count)
  else
    let (head, body) := (Text.splitOnce? m.content fragment).getD (fragment, [])
    let destination := Text.trim head
    if destination = [] then .error (.missingDestination index)
    else if destination.contains '\n' then .error (.multilineDestination index destination)
    else if !Path.isContained (withSlashes destination) then
      .error (.unsafeDestination index destination)
    else .ok ⟨withSlashes destination, Text.trimStart body⟩

/-- The sections of fragments, blank ones passed over; `index` is the number of
the first. -/
def ofFragments (m : Markers) : Nat → List Text → Except SectionError (List Section)
  | _, [] => .ok []
  | index, f :: fs =>
    -- A blank fragment is counted, though it yields no section.
    if Text.isBlank f then ofFragments m (index + 1) fs
    else do
      let s ← ofFragment m index f
      let ss ← ofFragments m (index + 1) fs
      return s :: ss

def split (m : Markers) (t : Text) : Except SectionError (List Section) :=
  match Text.splitBy m.newFile t with
  | [] => .ok []
  | leading :: fragments =>
    if Text.isBlank leading then ofFragments m 1 fragments
    else .error (.leadingText m.newFile (excerpt (Text.trim leading)))

end Section

end TemplateTree
