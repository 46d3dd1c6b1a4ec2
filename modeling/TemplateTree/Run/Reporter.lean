import TemplateTree.Files.Tree
import TemplateTree.Text.Decimal

/-!
# Reporting

What a run prints about itself.  Status lines have a verb at the right end of a
column; how much is printed depends on the verbosity.  The reporter counts
templates and files whatever it prints.
-/

namespace TemplateTree

structure Console where
  out : Text
  err : Text
  deriving DecidableEq, Repr, Inhabited

namespace Console

def empty : Console := ⟨[], []⟩

def print (c : Console) (t : Text) : Console :=
  { c with out := c.out ++ t }

def printError (c : Console) (t : Text) : Console :=
  { c with err := c.err ++ t }

end Console

inductive Color where
  | red | green | yellow | cyan
  deriving DecidableEq, Repr

def escapeSequence (n : Nat) : Text :=
  Char.ofNat 27 :: '[' :: Text.decimal n ++ ['m']

def Color.sequence : Color → Text
  | red => escapeSequence 31
  | green => escapeSequence 32
  | yellow => escapeSequence 33
  | cyan => escapeSequence 36

structure Printer where
  color : Bool
  deriving DecidableEq, Repr, Inhabited

namespace Printer

def verbWidth : Nat := 12

def styled (p : Printer) (style t : Text) : Text :=
  if p.color then style ++ t ++ escapeSequence 0 else t

def line (p : Printer) (c : Color) (verb message : Text) : Text :=
  p.styled (escapeSequence 1 ++ c.sequence) (Text.alignRight verbWidth verb) ++ [' '] ++ message
    ++ ['\n']

def status (p : Printer) : Text → Text → Text := p.line .green

def success (p : Printer) : Text → Text → Text := p.line .green

def info (p : Printer) : Text → Text → Text := p.line .cyan

def warning (p : Printer) : Text → Text → Text := p.line .yellow

def error (p : Printer) : Text → Text → Text := p.line .red

def dot : Text := ['.']

def lineEnd : Text := ['\n']

def dim (p : Printer) (t : Text) : Text :=
  p.styled (escapeSequence 2) t

def cyan (p : Printer) (t : Text) : Text :=
  p.styled Color.cyan.sequence t

end Printer

def plural (n : Nat) (one many : Text) : Text :=
  Text.decimal n ++ [' '] ++ (if n = 1 then one else many)

inductive Verbosity where
  /-- Dots and a short summary. -/
  | veryLow
  /-- A line for every template, and the summary. -/
  | low
  /-- A line for every saved file as well. -/
  | normal
  /-- Everything, with the talk of extensions and the time taken. -/
  | high
  deriving DecidableEq, Repr, Inhabited

namespace Verbosity

def rank : Verbosity → Nat
  | veryLow => 0
  | low => 1
  | normal => 2
  | high => 3

def reaches (v w : Verbosity) : Bool :=
  w.rank ≤ v.rank

end Verbosity

structure RunStats where
  templatesProcessed : Nat
  filesSaved : Nat
  deriving DecidableEq, Repr, Inhabited

namespace RunStats

def zero : RunStats := ⟨0, 0⟩

def add (a b : RunStats) : RunStats :=
  ⟨a.templatesProcessed + b.templatesProcessed, a.filesSaved + b.filesSaved⟩

end RunStats

/-- The counters of a run and how to print about it. -/
structure Reporter where
  printer : Printer
  verbosity : Verbosity
  started : Instant
  stats : RunStats
  dots : Nat
  deriving DecidableEq, Repr, Inhabited

namespace Reporter

def templatesPerDot : Nat := 10

def dotsPerLine : Nat := 50

def new (printer : Printer) (verbosity : Verbosity) (now : Instant) : Reporter :=
  ⟨printer, verbosity, now, .zero, 0⟩

def start (r : Reporter) (now : Instant) : Reporter :=
  { r with started := now, stats := .zero, dots := 0 }

/-- Count a template about to be rendered; the text is what is printed. -/
def templateStarted (r : Reporter) (name : Text) : Reporter × Text :=
  let n := r.stats.templatesProcessed + 1
  let counted := { r with stats := { r.stats with templatesProcessed := n } }
  if r.verbosity.reaches .low then (counted, r.printer.status "Rendering" name)
  else if n % templatesPerDot = 0 then
    let dots := r.dots + 1
    ({ counted with dots := dots },
      Printer.dot ++ (if dots % dotsPerLine = 0 then Printer.lineEnd else []))
  else (counted, [])

def whenever (r : Reporter) (v : Verbosity) (t : Text) : Text :=
  if r.verbosity.reaches v then t else []

def fileSaved (r : Reporter) (shown : Text) : Reporter × Text :=
  ({ r with stats := { r.stats with filesSaved := r.stats.filesSaved + 1 } },
    r.whenever .normal (r.printer.info "Saved" (r.printer.cyan shown)))

def directoryCreated (r : Reporter) (shown : Text) : Text :=
  r.whenever .normal (r.printer.warning "Created" shown)

def debug (r : Reporter) (message : Text) : Text :=
  r.whenever .high (r.printer.info "Debug" (r.printer.dim message))

def error (r : Reporter) (message : Text) : Text :=
  r.printer.error "Error" message

def note (r : Reporter) (verb message : Text) : Text :=
  r.whenever .normal (r.printer.info verb message)

def commandOutput (r : Reporter) (text : Text) : Text :=
  r.whenever .normal text

/-- Nanoseconds since the start. -/
def elapsed (r : Reporter) (now : Instant) : Nat :=
  (now - r.started).toNat

def summary (v : Verbosity) (stats : RunStats) (elapsed : Nat) : Text :=
  let counts :=
    if v = .veryLow then
      Text.decimal stats.templatesProcessed ++ " => " ++ Text.decimal stats.filesSaved
    else
      plural stats.templatesProcessed "template" "templates" ++ ", "
        ++ plural stats.filesSaved "file" "files"
  counts ++ " in " ++ Text.fixedPlaces elapsed (Nat.pow 10 9) 2 ++ ['s']

def timing (r : Reporter) (elapsed count : Nat) (item : Text) : Text :=
  if count = 0 then []
  else
    r.printer.info "Timing"
      (Text.fixedPlaces elapsed (Nat.pow 10 6 * count) 1 ++ " ms per " ++ item)

def finish (r : Reporter) (now : Instant) : Text :=
  let elapsed := r.elapsed now
  -- A line of dots that is not full is still open.
  (if r.dots % dotsPerLine ≠ 0 then Printer.lineEnd else [])
    ++ r.printer.success "Finished" (summary r.verbosity r.stats elapsed)
    ++ r.whenever .high (r.timing elapsed r.stats.templatesProcessed "template"
      ++ r.timing elapsed r.stats.filesSaved "file")

end Reporter

end TemplateTree
