import TemplateTree.Proofs.Run.Jobs
import TemplateTree.Proofs.Text.Lines
import TemplateTree.Proofs.Text.Numerals
import TemplateTree.Run.Plain

/-!
# Dots that show progress

At very low verbosity there is a dot for every ten templates, and a line of dots ends after
every fiftieth.  The reporter keeps one counter for templates and one for dots; what was
printed is told by the number of templates alone, so that the summary finds a new line
whenever a run comes to its end.
-/

namespace TemplateTree

namespace Text

theorem isBlank_of_mem {c : Char} {t : Text} (h : c ∈ t) (hc : isSpace c = false) :
    isBlank t = false :=
  List.all_eq_false.mpr ⟨c, h, by simp [hc]⟩

theorem feed_not_mem_decimal (n : Nat) : '\n' ∉ decimal n :=
  fun h => absurd (isDigit_of_mem_decimal h) (by decide)

theorem feed_not_mem_fixedPlaces (num den places : Nat) : '\n' ∉ fixedPlaces num den places := by
  simp [fixedPlaces, padded, filled, feed_not_mem_decimal]

end Text

open Text

theorem feed_not_mem_plural {n : Nat} {one many : Text} (hone : '\n' ∉ one)
    (hmany : '\n' ∉ many) : '\n' ∉ plural n one many := by
  rw [plural]
  split <;> simp [feed_not_mem_decimal, hone, hmany]

/-! ## Status lines -/

namespace Printer

variable {p : Printer} {color : Color} {verb message : Text} {c : Char}

theorem isEnded_line (hverb : '\n' ∉ verb) (hmessage : '\n' ∉ message) :
    IsEnded (p.line color verb message) := by
  refine ⟨_, rfl, ?_⟩
  have hstyle : ∀ k, '\n' ∉ escapeSequence k := fun k => by
    simp [escapeSequence, feed_not_mem_decimal]
  have hcolor : '\n' ∉ color.sequence := by
    cases color <;> exact hstyle _
  have hcolumn : '\n' ∉ alignRight verbWidth verb := by simp [alignRight, filled, hverb]
  rw [styled]
  split <;> simp [hstyle, hcolor, hcolumn, hmessage]

theorem not_blank_line (h : c ∈ verb) (hc : isSpace c = false) :
    isBlank (p.line color verb message) = false := by
  refine isBlank_of_mem (c := c) ?_ hc
  rw [line, styled, alignRight]
  split <;> simp [h]

end Printer

namespace Reporter

variable {r : Reporter} {v : Verbosity} {l : Text} {d : Nat}

/-! ## Lines of dots -/

/-- Dots, with the end of a line after every fiftieth. -/
def dotted : Nat → Text
  | 0 => []
  | d + 1 => dotted d ++ '.' :: if 50 ∣ d + 1 then ['\n'] else []

def fullLine : Text :=
  List.replicate 50 '.' ++ ['\n']

/-- The lines of dots when nothing is left open: full ones, and the rest in one more. -/
def dotLines (d : Nat) : List Text :=
  List.replicate (d / 50) fullLine ++
    if 50 ∣ d then [] else [List.replicate (d % 50) '.' ++ ['\n']]

theorem dotted_eq (d : Nat) :
    dotted d = (List.replicate (d / 50) fullLine).flatten ++ List.replicate (d % 50) '.' := by
  induction d with
  | zero => rfl
  | succ d ih =>
      rw [dotted, ih, List.append_assoc]
      split
      case isTrue h =>
        -- one more dot fills the line that is open
        have hlast : d % 50 = 49 := by omega
        have hdiv : (d + 1) / 50 = d / 50 + 1 := by omega
        have hmod : (d + 1) % 50 = 0 := by omega
        have hfull : List.replicate 49 '.' ++ ['.', '\n'] = fullLine := rfl
        rw [hlast, hdiv, hmod, hfull, List.replicate_succ' (n := d / 50), List.flatten_append,
          List.flatten_singleton, List.replicate_zero, List.append_nil]
      case isFalse h =>
        have hdiv : (d + 1) / 50 = d / 50 := by omega
        have hmod : (d + 1) % 50 = d % 50 + 1 := by omega
        rw [hdiv, hmod, List.replicate_succ']

theorem flatten_dotLines (d : Nat) :
    (dotLines d).flatten = dotted d ++ if 50 ∣ d then [] else ['\n'] := by
  rw [dotLines, dotted_eq, List.flatten_append, List.append_assoc]
  split
  case isTrue h =>
    have hmod : d % 50 = 0 := by omega
    rw [hmod]
    rfl
  case isFalse => simp only [List.flatten_singleton]

theorem exists_of_mem_dotLines (h : l ∈ dotLines d) :
    ∃ k, l = List.replicate (k + 1) '.' ++ ['\n'] := by
  rcases List.mem_append.mp h with hfull | hrest
  · exact ⟨49, List.eq_of_mem_replicate hfull⟩
  · split at hrest
    case isTrue => cases hrest
    case isFalse hd =>
      obtain ⟨k, hk⟩ : ∃ k, d % 50 = k + 1 := ⟨d % 50 - 1, by omega⟩
      exact ⟨k, hk ▸ List.mem_singleton.mp hrest⟩

theorem isEnded_of_mem_dotLines (h : l ∈ dotLines d) : IsEnded l := by
  obtain ⟨k, rfl⟩ := exists_of_mem_dotLines h
  refine ⟨_, rfl, fun hmem => ?_⟩
  have hdot : '\n' = '.' := List.eq_of_mem_replicate hmem
  cases hdot

/-! ## The summary -/

theorem feed_not_mem_summary (stats : RunStats) (elapsed : Nat) :
    '\n' ∉ summary v stats elapsed := by
  unfold summary
  dsimp only
  split
  · simp [feed_not_mem_decimal, feed_not_mem_fixedPlaces]
  · simp [feed_not_mem_plural, feed_not_mem_fixedPlaces]

/-- The line that tells the counts and the time of a run. -/
def summaryLine (r : Reporter) (stats : RunStats) (elapsed : Nat) : Text :=
  r.printer.success "Finished" (summary r.verbosity stats elapsed)

theorem isEnded_summaryLine (r : Reporter) (stats : RunStats) (elapsed : Nat) :
    IsEnded (r.summaryLine stats elapsed) :=
  Printer.isEnded_line (by decide) (feed_not_mem_summary stats elapsed)

/-- Dots with their lines closed, and then a summary: it has a line of its own, which is the
last one, and no line is blank. -/
theorem lines_of_summary (r : Reporter) (d : Nat) (stats : RunStats) (elapsed : Nat) :
    linesWithEnds ((dotLines d).flatten ++ r.summaryLine stats elapsed) =
        dotLines d ++ [r.summaryLine stats elapsed] ∧
      ∀ l ∈ dotLines d ++ [r.summaryLine stats elapsed], isBlank l = false := by
  constructor
  · obtain ⟨a, ha, hfeed⟩ := r.isEnded_summaryLine stats elapsed
    rw [linesWithEnds_flatten_append fun l hl => isEnded_of_mem_dotLines hl, ha,
      linesWithEnds_append hfeed]
    rfl
  · intro l hl
    rcases List.mem_append.mp hl with hl | hl
    · obtain ⟨k, rfl⟩ := exists_of_mem_dotLines hl
      exact isBlank_of_mem (c := '.') (by simp) (by decide)
    · obtain rfl := List.mem_singleton.mp hl
      exact Printer.not_blank_line (c := 'F') (by decide) (by decide)

/-! ## Steps of a reporter -/

theorem reaches_low_iff : v.reaches .low = true ↔ v ≠ .veryLow := by
  cases v <;> decide

theorem whenever_of_veryLow (h : r.verbosity = .veryLow) (hv : v ≠ .veryLow) (t : Text) :
    r.whenever v t = [] := by
  rw [whenever, h, if_neg]
  cases v <;> simp_all [Verbosity.reaches, Verbosity.rank]

def having (r : Reporter) (stats : RunStats) (dots : Nat) : Reporter :=
  { r with stats := stats, dots := dots }

/-- The counters keep step: only a template that completes ten brings a dot, and only a dot that
completes fifty ends a line. -/
theorem templateStarted_of_veryLow (h : r.verbosity = .veryLow) (stats : RunStats)
    (name : Text) : ∃ line,
    (r.having stats (stats.templatesProcessed / 10)).templateStarted name =
      (r.having (stats.add ⟨1, 0⟩) ((stats.templatesProcessed + 1) / 10), line) ∧
    dotted (stats.templatesProcessed / 10) ++ line =
      dotted ((stats.templatesProcessed + 1) / 10) := by
  have hquiet : ¬ (r.having stats (stats.templatesProcessed / 10)).verbosity.reaches .low = true :=
    fun hlow => reaches_low_iff.mp hlow h
  unfold templateStarted
  dsimp only
  rw [if_neg hquiet]
  split
  case isTrue htenth =>
    have hnext : (stats.templatesProcessed + 1) / 10 = stats.templatesProcessed / 10 + 1 := by
      have hmod : (stats.templatesProcessed + 1) % 10 = 0 := htenth
      omega
    refine ⟨_, by rw [hnext]; rfl, ?_⟩
    rw [hnext, dotted]
    simp only [Nat.dvd_iff_mod_eq_zero]
    rfl
  case isFalse htenth =>
    have hsame : (stats.templatesProcessed + 1) / 10 = stats.templatesProcessed / 10 := by
      have hmod : ¬ (stats.templatesProcessed + 1) % 10 = 0 := htenth
      omega
    refine ⟨[], by rw [hsame]; rfl, ?_⟩
    rw [hsame, List.append_nil]

theorem templateStarted_of_ne (h : r.verbosity ≠ .veryLow) (stats : RunStats) (name : Text) :
    (r.having stats d).templateStarted name =
      (r.having (stats.add ⟨1, 0⟩) d, r.printer.status "Rendering" name) := by
  have hlow : (r.having stats d).verbosity.reaches .low = true := reaches_low_iff.mpr h
  unfold templateStarted
  dsimp only
  rw [if_pos hlow]
  rfl

theorem fileSaved_having (r : Reporter) (stats : RunStats) (shown : Text) :
    (r.having stats d).fileSaved shown = (r.having (stats.add ⟨0, 1⟩) d,
      r.whenever .normal (r.printer.info "Saved" (r.printer.cyan shown))) :=
  rfl

/-- What is printed at the end of a run that leaves no line open. -/
def closing (r : Reporter) (stats : RunStats) (elapsed : Nat) : Text :=
  r.summaryLine stats elapsed ++
    r.whenever .high (r.timing elapsed stats.templatesProcessed "template"
      ++ r.timing elapsed stats.filesSaved "file")

theorem closing_of_veryLow (h : r.verbosity = .veryLow) (stats : RunStats) (elapsed : Nat) :
    r.closing stats elapsed = r.summaryLine stats elapsed := by
  rw [closing, whenever_of_veryLow h (by decide), List.append_nil]

theorem finish_having (r : Reporter) (stats : RunStats) (now : Instant) :
    (r.having stats d).finish now =
      (if 50 ∣ d then [] else ['\n']) ++ r.closing stats (r.elapsed now) := by
  rw [finish, closing, ← List.append_assoc]
  simp only [Nat.dvd_iff_mod_eq_zero, ne_eq, ite_not]
  rfl

end Reporter

/-! ## What a session was told -/

/-- What has come of a session since another one: the counters of the reporter, and what was
printed as errors. -/
structure Session.Told (s₀ : Session) (stats : RunStats) (dots : Nat) (text : Text)
    (s : Session) : Prop where
  reporter_eq : s.reporter = s₀.reporter.having stats dots
  console_eq : s.console = s₀.console.printError text

namespace Session

variable {s₀ s : Session} {stats : RunStats} {dots : Nat} {text : Text}

/-- At very low verbosity, the templates tell the dots and all that was printed. -/
def Dotted (s₀ : Session) (stats : RunStats) (s : Session) : Prop :=
  Told s₀ stats (stats.templatesProcessed / 10)
    (Reporter.dotted (stats.templatesProcessed / 10)) s

theorem printError_append (c : Console) (t u : Text) :
    (c.printError t).printError u = c.printError (t ++ u) := by
  simp only [Console.printError, List.append_assoc]

theorem printError_nil (c : Console) : c.printError [] = c := by
  rw [Console.printError, List.append_nil]

theorem dotted_start (s : Session) : Dotted (Job.start.after s) .zero (Job.start.after s) :=
  ⟨rfl, (printError_nil _).symm⟩

theorem Told.count {f : Reporter → Reporter × Text} {stats' : RunStats} {dots' : Nat}
    {line : Text} (h : Told s₀ stats dots text s)
    (hf : f (s₀.reporter.having stats dots) = (s₀.reporter.having stats' dots', line)) :
    Told s₀ stats' dots' (text ++ line) ((Job.count f).after s) := by
  have hrun : (Job.count f).after s =
      { s with
        reporter := (f s.reporter).1
        console := s.console.printError (f s.reporter).2 } := rfl
  rw [h.reporter_eq, hf, h.console_eq, printError_append] at hrun
  exact ⟨hrun ▸ rfl, hrun ▸ rfl⟩

theorem Told.finish (h : Told s₀ stats dots text s) :
    (Job.finish.after s).console = s₀.console.printError
      (text ++ (if 50 ∣ dots then [] else ['\n']) ++
        s₀.reporter.closing stats (s₀.reporter.elapsed s.now)) := by
  have hrun : (Job.finish.after s).console =
      s.console.printError (s.reporter.finish s.now) := rfl
  rw [hrun, h.console_eq, printError_append, h.reporter_eq, Reporter.finish_having,
    List.append_assoc]

theorem Dotted.templateStarted (hlow : s₀.reporter.verbosity = .veryLow)
    (h : Dotted s₀ stats s) (name : Text) :
    Dotted s₀ (stats.add ⟨1, 0⟩) ((Job.templateStarted name).after s) := by
  obtain ⟨line, hstep, hline⟩ := Reporter.templateStarted_of_veryLow hlow stats name
  have htold := h.count (f := (·.templateStarted name)) hstep
  rwa [hline] at htold

theorem Told.fileSaved (h : Told s₀ stats dots text s) (path : Path) :
    Told s₀ (stats.add ⟨0, 1⟩) dots
      (text ++ s₀.reporter.whenever .normal (s₀.reporter.printer.info "Saved"
        (s₀.reporter.printer.cyan (Path.shown (FileTree.placeText s.files.current) path))))
      ((Job.fileSaved path).after s) :=
  h.count (f := (·.fileSaved (Path.shown (FileTree.placeText s.files.current) path)))
    (Reporter.fileSaved_having _ _ _)

theorem Dotted.fileSaved (hlow : s₀.reporter.verbosity = .veryLow)
    (h : Dotted s₀ stats s) (path : Path) :
    Dotted s₀ (stats.add ⟨0, 1⟩) ((Job.fileSaved path).after s) := by
  have htold := Told.fileSaved h path
  rwa [Reporter.whenever_of_veryLow hlow (by decide), List.append_nil] at htold

theorem Told.templateStarted (hne : s₀.reporter.verbosity ≠ .veryLow)
    (h : Told s₀ stats dots text s) (name : Text) :
    Told s₀ (stats.add ⟨1, 0⟩) dots (text ++ s₀.reporter.printer.status "Rendering" name)
      ((Job.templateStarted name).after s) :=
  h.count (f := (·.templateStarted name)) (Reporter.templateStarted_of_ne hne stats name)

end Session

/-! ## Runs as a reporter sees them -/

/-- What a reporter is told between the start and the end of a run; the files are those when a
file was saved. -/
inductive Notice where
  | template (name : Text)
  | file (files : FileTree) (path : Path)

namespace Notice

def job : Notice → Job Unit
  | template name => Job.templateStarted name
  | file files path => do
    modify fun s => { s with files := files }
    Job.fileSaved path

def isTemplate : Notice → Bool
  | template _ => true
  | file _ _ => false

def isFile : Notice → Bool
  | template _ => false
  | file _ _ => true

/-- What is counted of notices. -/
def counted (notices : List Notice) : RunStats :=
  ⟨notices.countP isTemplate, notices.countP isFile⟩

/-- The status line of a notice beyond very low verbosity; there is none of a file below normal
verbosity. -/
def line (r : Reporter) : Notice → Text
  | template name => r.printer.status "Rendering" name
  | file files path => r.whenever .normal (r.printer.info "Saved"
      (r.printer.cyan (Path.shown (FileTree.placeText files.current) path)))

/-- A run that gives notice in order and ends at a time. -/
def reported (notices : List Notice) (finished : Instant) : Job Unit := do
  Job.start
  notices.forM job
  modify fun s => { s with now := finished }
  Job.finish

variable {notices : List Notice} {s₀ s : Session}

theorem job_apply (notice : Notice) (s : Session) : notice.job s = .ok () (notice.job.after s) := by
  cases notice <;> rfl

theorem exists_of_forM {P : List Notice → Session → Prop}
    (hstep : ∀ before notice s, P before s → P (before ++ [notice]) (notice.job.after s))
    (hs : P [] s) : ∃ s', notices.forM job s = .ok ⟨⟩ s' ∧ P notices s' := by
  -- the notices before the rest are those that `P` has been carried through
  suffices h : ∀ before s, P before s →
      ∃ s', notices.forM job s = .ok ⟨⟩ s' ∧ P (before ++ notices) s' from h [] s hs
  induction notices with
  | nil => exact fun before s hs => ⟨s, rfl, by rwa [List.append_nil]⟩
  | cons notice rest ih =>
      intro before s hs
      obtain ⟨s', hrest, hs'⟩ := ih (before ++ [notice]) _ (hstep before notice s hs)
      refine ⟨s', (bind_of_ok (job_apply notice s)).trans hrest, ?_⟩
      rwa [List.append_assoc] at hs'

theorem counted_append_template (before : List Notice) (name : Text) :
    counted (before ++ [template name]) = (counted before).add ⟨1, 0⟩ := by
  simp [counted, RunStats.add, isTemplate, isFile]

theorem counted_append_file (before : List Notice) (files : FileTree) (path : Path) :
    counted (before ++ [file files path]) = (counted before).add ⟨0, 1⟩ := by
  simp [counted, RunStats.add, isTemplate, isFile]

theorem dotted_append (hlow : s₀.reporter.verbosity = .veryLow) (before : List Notice)
    (notice : Notice) (s : Session) (h : s₀.Dotted (counted before) s) :
    s₀.Dotted (counted (before ++ [notice])) (notice.job.after s) := by
  cases notice with
  | template name =>
      rw [counted_append_template]
      exact h.templateStarted hlow name
  | file files path =>
      rw [counted_append_file]
      have hmoved : s₀.Dotted (counted before) { s with files := files } :=
        ⟨h.reporter_eq, h.console_eq⟩
      exact hmoved.fileSaved hlow path

theorem told_append (hne : s₀.reporter.verbosity ≠ .veryLow) (before : List Notice)
    (notice : Notice) (s : Session)
    (h : s₀.Told (counted before) 0 (before.flatMap (line s₀.reporter)) s) :
    s₀.Told (counted (before ++ [notice])) 0 ((before ++ [notice]).flatMap (line s₀.reporter))
      (notice.job.after s) := by
  rw [List.flatMap_append, List.flatMap_singleton]
  cases notice with
  | template name =>
      rw [counted_append_template]
      exact h.templateStarted hne name
  | file files path =>
      rw [counted_append_file]
      have hmoved : s₀.Told (counted before) 0 (before.flatMap (line s₀.reporter))
          { s with files := files } := ⟨h.reporter_eq, h.console_eq⟩
      exact hmoved.fileSaved path

theorem exists_of_told (finished : Instant) {s₁ : Session} {dots : Nat} {text : Text}
    (hrun : notices.forM job (Job.start.after s) = .ok ⟨⟩ s₁)
    (h : (Job.start.after s).Told (counted notices) dots text s₁) :
    ∃ s', reported notices finished s = .ok () s' ∧ s'.reporter.dots = dots ∧
      s'.console = s.console.printError (text ++ (if 50 ∣ dots then [] else ['\n']) ++
        s.reporter.closing (counted notices) (finished - s.now).toNat) := by
  have hstart : Job.start s = .ok () (Job.start.after s) := rfl
  have hend : (Job.start.after s).Told (counted notices) dots text { s₁ with now := finished } :=
    ⟨h.reporter_eq, h.console_eq⟩
  refine ⟨Job.finish.after { s₁ with now := finished }, ?_, ?_, hend.finish⟩
  · rw [reported, bind_of_ok hstart, bind_of_ok hrun]
    rfl
  · exact congrArg Reporter.dots hend.reporter_eq

/-- A run always comes to its end, and prints to the stream of errors only.  At very low
verbosity it prints a dot for every ten templates, fifty in a line, and the summary in a line of
its own; no line is blank.  At every other verbosity it prints its status lines and no dot. -/
theorem console_of_reported (notices : List Notice) (finished : Instant) (s : Session) :
    ∃ printed s', reported notices finished s = .ok () s' ∧
      s'.console = s.console.printError printed ∧
      (s.reporter.verbosity = .veryLow →
        printed = Reporter.dotted (notices.countP isTemplate / 10) ++
          (if 50 ∣ notices.countP isTemplate / 10 then [] else ['\n']) ++
          s.reporter.summaryLine (counted notices) (finished - s.now).toNat ∧
        linesWithEnds printed = Reporter.dotLines (notices.countP isTemplate / 10) ++
          [s.reporter.summaryLine (counted notices) (finished - s.now).toNat] ∧
        ∀ l ∈ linesWithEnds printed, isBlank l = false) ∧
      (s.reporter.verbosity ≠ .veryLow →
        printed = notices.flatMap (line s.reporter) ++
          s.reporter.closing (counted notices) (finished - s.now).toNat ∧
        s'.reporter.dots = 0) := by
  have hstart := Session.dotted_start s
  by_cases hlow : s.reporter.verbosity = .veryLow
  · have hlow' : (Job.start.after s).reporter.verbosity = .veryLow := hlow
    obtain ⟨s₁, hrun, hdotted⟩ := exists_of_forM (dotted_append hlow') hstart
    obtain ⟨s', hrun, -, hconsole⟩ := exists_of_told finished hrun hdotted
    obtain ⟨hlines, hblank⟩ := s.reporter.lines_of_summary (notices.countP isTemplate / 10)
      (counted notices) (finished - s.now).toNat
    rw [Reporter.flatten_dotLines] at hlines
    rw [Reporter.closing_of_veryLow hlow] at hconsole
    exact ⟨_, s', hrun, hconsole, fun _ => ⟨rfl, hlines, hlines ▸ hblank⟩,
      fun hne => absurd hlow hne⟩
  · have hlow' : (Job.start.after s).reporter.verbosity ≠ .veryLow := hlow
    obtain ⟨s₁, hrun, htold⟩ := exists_of_forM (told_append hlow') hstart
    obtain ⟨s', hrun, hdots, hconsole⟩ := exists_of_told finished hrun htold
    rw [if_pos (Nat.dvd_zero 50), List.append_nil] at hconsole
    exact ⟨_, s', hrun, hconsole, fun h => absurd h hlow, fun _ => ⟨rfl, hdots⟩⟩

end Notice

namespace Sketch

def untold (v : Verbosity) : Session :=
  ⟨⟨.dir [], []⟩, 0, .empty, .new ⟨false⟩ v 0⟩

def notices (templates : Nat) : List Notice :=
  List.replicate templates (.template ['a']) ++ [.file ⟨.dir [], []⟩ ['b']]

end Sketch

open Sketch in
/-- The fifty-first dot stands in a line of its own, and the five hundredth template leaves no
line open.  A template at low verbosity has a line and no dot. -/
theorem Notice.console_of_reported_boundaries :
    (untold .veryLow).reporter.verbosity = .veryLow ∧
    (untold .low).reporter.verbosity ≠ .veryLow ∧
    (∃ s', reported (notices 519) (2 * Instant.second) (untold .veryLow) = .ok () s' ∧
      s'.console = ⟨[], List.replicate 50 '.' ++
        "\n.\n    Finished 519 => 1 in 2.00s\n".toList⟩) ∧
    (∃ s', reported (notices 500) (2 * Instant.second) (untold .veryLow) = .ok () s' ∧
      s'.console = ⟨[], List.replicate 50 '.' ++
        "\n    Finished 500 => 1 in 2.00s\n".toList⟩) ∧
    ∃ s', reported (notices 1) (2 * Instant.second) (untold .low) = .ok () s' ∧
      s'.console = ⟨[], "   Rendering a\n    Finished 1 template, 1 file in 2.00s\n".toList⟩ := by
  refine ⟨rfl, by decide, ?_, ?_, ?_⟩
  · obtain ⟨printed, s', hrun, hconsole, hlow, -⟩ :=
      console_of_reported (notices 519) (2 * Instant.second) (untold .veryLow)
    obtain ⟨hprinted, -⟩ := hlow rfl
    exact ⟨s', hrun, by rw [hconsole, hprinted]; decide +kernel⟩
  · obtain ⟨printed, s', hrun, hconsole, hlow, -⟩ :=
      console_of_reported (notices 500) (2 * Instant.second) (untold .veryLow)
    obtain ⟨hprinted, -⟩ := hlow rfl
    exact ⟨s', hrun, by rw [hconsole, hprinted]; decide +kernel⟩
  · obtain ⟨printed, s', hrun, hconsole, -, hother⟩ :=
      console_of_reported (notices 1) (2 * Instant.second) (untold .low)
    obtain ⟨rfl, -⟩ := hother (by decide)
    exact ⟨s', hrun, hconsole.trans (by decide +kernel)⟩

end TemplateTree
