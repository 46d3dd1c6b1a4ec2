import TemplateTree.Run.Session
import TemplateTree.Text.Blank

/-!
# Watermarks

The watermark is a file that holds the second in which the last complete run
started.  Templates modified since then are rendered again.
-/

namespace TemplateTree

structure Watermark where
  path : Path
  deriving DecidableEq, Repr

namespace Watermark

/-- The seconds that the content of a watermark file stands for: a number below
two to the power 64, with white space around it. -/
def parse? (content : Text) : Option Nat :=
  Text.readBelow? (Nat.pow 2 64) (Text.trim content)

def read (w : Watermark) (files : FileTree) : Option Nat :=
  ((files.readText w.path).toOption).bind parse?

def write (w : Watermark) (seconds : Nat) : Job Unit :=
  Job.changeFiles w.path "Failed to write watermark: " fun s =>
    s.files.write s.now w.path (Text.toBytes (Text.decimal seconds))

end Watermark

end TemplateTree
