import TemplateTree.Proofs.Shell.Utilities
import TemplateTree.Run.Plain

/-!
# What command lines keep in order

A command line leaves a tree as sound as it was, but for the current directory, which it
may remove.  Words can run commands and commands expand words, so that the induction is
over all functions of the shell at once, on the number of commands that may still be
inside of each other.
-/

namespace TemplateTree.Shell

open Step ShellState

variable {m : Instant} {fuel : Nat} {channels : Channels}

theorem orderly_setInput (bytes : Bytes) :
    Keeps (Orderly m) (modify fun s : ShellState => { s with input := bytes } : Step Unit) :=
  orderly_modify (fun _ => rfl) fun _ => rfl

theorem orderly_assign (name value : Text) :
    Keeps (Orderly m) (modify fun s : ShellState => s.assign name value : Step Unit) :=
  orderly_modify (fun _ => rfl) fun _ => rfl

theorem orderly_inOwnShell {c : Step Unit} (h : Keeps (Orderly m) c) :
    Keeps (Orderly m) (inOwnShell c) := by
  refine keeps_get_bind fun before hbefore => ?_
  have hcaught : Keeps (Orderly m) (tryCatch (do c; pure none) fun e => pure (some e) :
      Step (Option Stop)) :=
    (h.bind fun _ => keeps_pure).tryCatch fun _ => keeps_pure
  -- what is lost are changes of variables and of the current directory
  have hback : Keeps (Orderly m) (modify fun s : ShellState =>
      { s with
        vars := before.vars
        exported := before.exported
        files := { s.files with current := before.files.current } } : Step Unit) :=
    keeps_modify fun s hs => ⟨⟨hs.files.root, hbefore.files.current⟩, hs.now⟩
  refine hcaught.bind fun stop => ?_
  split
  · exact keeps_throw.bind fun _ => hback
  · exact orderly_setStatus.bind fun _ => hback
  · exact hback

theorem orderly_openFile {mode : RedirectMode} {target : Text} :
    Keeps (Orderly m) (openFile mode target) := by
  refine keeps_get_bind fun s hs => ?_
  dsimp only
  split
  case h_1 => exact keeps_pure
  case h_2 files hopened =>
    have hfiles : files.Tidy := by
      split at hopened
      · exact Except.ok.inj hopened ▸ hs.files
      · split at hopened
        · exact Except.ok.inj hopened ▸ hs.files
        · exact hs.files.write hopened
    refine (keeps_set ⟨hfiles, hs.now⟩).bind fun _ => ?_
    split <;> exact keeps_pure

/-- What the functions of a shell keep in order when so many commands may be inside of
each other. -/
structure Orders (m : Instant) (fuel : Nat) : Prop where
  part : ∀ channels f p, Keeps (Orderly m) (expandPart fuel channels f p)
  words : ∀ channels ws, Keeps (Orderly m) (expandWords fuel channels ws)
  whole : ∀ channels w, Keeps (Orderly m) (expandWhole fuel channels w)
  redirects : ∀ channels rs run, (∀ channels, Keeps (Orderly m) (run channels)) →
    Keeps (Orderly m) (withRedirects fuel channels rs run)
  command : ∀ channels c, Keeps (Orderly m) (runCommand fuel channels c)
  named : ∀ channels assigned name args,
    Keeps (Orderly m) (runNamed fuel channels assigned name args)
  cases : ∀ channels subject cases, Keeps (Orderly m) (runCases fuel channels subject cases)
  body : ∀ channels c, Keeps (Orderly m) (runBody fuel channels c)
  text : ∀ channels line, Keeps (Orderly m) (runText fuel channels line)

theorem orders_zero : Orders m 0 := by
  constructor
  all_goals intros; exact keeps_throw

namespace Orders

variable (h : Orders m fuel)
include h

theorem part_succ (f : Fields) (p : Part) :
    Keeps (Orderly m) (expandPart (fuel + 1) channels f p) := by
  cases p with
  | text t quoted => exact keeps_pure
  | value name quoted => exact keeps_get_bind fun s hs => keeps_pure
  | amended name rule word quoted =>
      refine keeps_get_bind fun s hs => ?_
      dsimp only
      split
      · exact keeps_pure
      · refine (h.whole _ _).bind fun other => ?_
        split
        · exact keeps_pure
        · exact keeps_pure
        · have hassigned : ∀ f : Fields, Keeps (Orderly m) (do
              modify fun s => s.assign name other
              return f : Step Fields) := fun f =>
            (orderly_assign _ _).bind fun _ => keeps_pure
          split <;> split
          · exact hassigned _
          · exact keeps_pure
          · exact hassigned _
          · exact keeps_pure
        · have hrefused : ∀ t, Keeps (Orderly m) (do
              complainInLine channels t
              throw (.exited 2) : Step Fields) := fun _ =>
            orderly_complainInLine.bind fun _ => keeps_throw
          split <;> split
          · exact keeps_pure
          · exact hrefused _
          · exact keeps_pure
          · exact hrefused _
        · exact keeps_pure
        · exact keeps_pure
        · exact orderly_complainInLine.bind fun _ => keeps_throw
  | arithmetic t =>
      refine keeps_get_bind fun s hs => ?_
      split
      · exact keeps_pure
      · exact orderly_complainInLine.bind fun _ => keeps_throw
  | output line quoted =>
      refine orderly_newStream.bind fun n => ?_
      refine (orderly_inOwnShell (h.text _ _)).bind fun _ => ?_
      exact orderly_streamBytes.bind fun _ => keeps_pure

theorem words_succ (ws : List Word) :
    Keeps (Orderly m) (expandWords (fuel + 1) channels ws) := by
  refine (keeps_mapM fun w _ => ?_).bind fun _ => keeps_pure
  refine (keeps_foldlM fun f p _ => h.part _ f p).bind fun _ => ?_
  exact keeps_get_bind fun s hs => keeps_pure

theorem whole_succ (w : Word) : Keeps (Orderly m) (expandWhole (fuel + 1) channels w) :=
  (keeps_foldlM fun f _ _ => h.part _ f _).bind fun _ => keeps_pure

theorem redirects_succ (rs : List Redirect) (run : Channels → Step Unit)
    (hrun : ∀ channels, Keeps (Orderly m) (run channels)) :
    Keeps (Orderly m) (withRedirects (fuel + 1) channels rs run) := by
  have hrefused : ∀ t n, Keeps (Orderly m) (do
      complainInLine channels t
      setStatus n) := fun _ _ => orderly_complainInLine.bind fun _ => orderly_setStatus
  cases rs with
  | nil => exact hrun channels
  | cons r rest =>
      refine (h.whole _ _).bind fun target => ?_
      dsimp only
      split
      case h_1 =>
        refine keeps_get_bind fun s hs => ?_
        split
        · exact h.redirects _ rest run hrun
        · exact hrefused _ _
        · refine keeps_get_bind fun before _ => (orderly_setInput _).bind fun _ => ?_
          exact (h.redirects _ rest run hrun).bind fun _ => orderly_setInput _
      case h_2 =>
        split
        · exact h.redirects _ rest run hrun
        · exact h.redirects _ rest run hrun
        · exact h.redirects _ rest run hrun
        · exact hrefused _ _
      case h_3 =>
        refine orderly_openFile.bind fun opened => ?_
        split
        · exact h.redirects _ rest run hrun
        · exact hrefused _ _
        · exact hrefused _ _

theorem command_succ (c : Command) :
    Keeps (Orderly m) (runCommand (fuel + 1) channels c) := by
  cases c with
  | nothing => exact keeps_pure
  | simple assignments words redirects =>
      refine keeps_get_bind fun before _ => (h.words _ words).bind fun args => ?_
      refine Keeps.bind (keeps_mapM fun _ _ => (h.whole _ _).bind fun _ => keeps_pure)
        fun values => ?_
      split
      · refine keeps_get_bind fun after _ => orderly_setStatus.bind fun _ => ?_
        refine (keeps_forM fun v _ => orderly_assign v.1 v.2).bind fun _ => ?_
        exact h.redirects _ redirects _ fun _ => keeps_pure
      · exact h.redirects _ redirects _ fun channels => h.named channels values _ _
  | pipe left right =>
      refine orderly_newStream.bind fun n => keeps_get_bind fun before _ => ?_
      refine (orderly_inOwnShell (h.command _ left)).bind fun _ => ?_
      refine orderly_streamBytes.bind fun bytes => (orderly_setInput bytes).bind fun _ => ?_
      refine (orderly_inOwnShell (h.command _ right)).bind fun _ => ?_
      exact orderly_setInput before.input
  | negate c => exact (h.command _ c).bind fun _ => keeps_get_bind fun _ _ => orderly_setStatus
  | andThen a b =>
      refine (h.command _ a).bind fun _ => keeps_get_bind fun s _ => ?_
      split
      · exact h.command _ b
      · exact keeps_pure
  | orElse a b =>
      refine (h.command _ a).bind fun _ => keeps_get_bind fun s _ => ?_
      split
      · exact h.command _ b
      · exact keeps_pure
  | seq a b => exact (h.command _ a).bind fun _ => h.command _ b
  | group own c redirects =>
      refine h.redirects _ redirects _ fun channels => ?_
      split
      · exact orderly_inOwnShell (h.command _ c)
      · exact h.command _ c
  | forEach name words body redirects =>
      refine (h.words _ words).bind fun values => h.redirects _ redirects _ fun channels => ?_
      refine orderly_setStatus.bind fun _ => Keeps.bind ?_ fun _ => keeps_pure
      refine keeps_foldlM fun left v _ => ?_
      split
      · exact keeps_pure
      · exact (orderly_assign name v).bind fun _ => h.body _ body
  | choose condition yes no redirects =>
      refine h.redirects _ redirects _ fun channels => (h.command _ condition).bind fun _ => ?_
      refine keeps_get_bind fun s _ => ?_
      split
      · exact h.command _ yes
      · exact orderly_setStatus.bind fun _ => h.command _ no
  | loop whileTrue condition body redirects =>
      refine h.redirects _ redirects _ fun channels => Keeps.bind ?_ fun _ => orderly_setStatus
      refine keeps_foldlM fun last _ _ => ?_
      obtain ⟨left, status⟩ := last
      dsimp only
      split
      · exact keeps_pure
      · refine (h.command _ condition).bind fun _ => keeps_get_bind fun s _ => ?_
        split
        · exact (h.body _ body).bind fun _ => keeps_get_bind fun _ _ => keeps_pure
        · exact keeps_pure
  | branch subject cases redirects =>
      refine (h.whole _ subject).bind fun t => h.redirects _ redirects _ fun channels => ?_
      exact h.cases channels t cases

theorem named_succ (assigned : List (Text × Text)) (name : Text) (args : List Text) :
    Keeps (Orderly m) (runNamed (fuel + 1) channels assigned name args) := by
  unfold runNamed
  split
  case h_1 u hu => exact (Utility.orderly_find? hu).bind fun _ => orderly_setStatus
  case h_2 =>
    split
    · exact h.text _ _
    · split
      · split
        · exact keeps_pure
        · exact (h.named _ _ _ _).bind fun _ => keeps_get_bind fun _ _ => keeps_throw
      · split
        · refine keeps_get_bind fun before hbefore => orderly_inOwnShell ?_
          exact (keeps_set ⟨hbefore.files, hbefore.now⟩).bind fun _ => h.text _ _
        · exact orderly_complainInLine.bind fun _ => orderly_setStatus

theorem cases_succ (subject : Text) (cases : List (List Word × Command)) :
    Keeps (Orderly m) (runCases (fuel + 1) channels subject cases) := by
  cases cases with
  | nil => exact orderly_setStatus
  | cons first rest =>
      refine (keeps_mapM fun w _ => h.whole _ w).bind fun texts => ?_
      split
      · exact orderly_setStatus.bind fun _ => h.command _ first.2
      · exact h.cases _ subject rest

theorem body_succ (c : Command) : Keeps (Orderly m) (runBody (fuel + 1) channels c) := by
  refine Keeps.tryCatch ((h.command _ c).bind fun _ => keeps_pure) fun stop => ?_
  cases stop with
  | left => exact keeps_pure
  | continued => exact keeps_pure
  | exited | killed => exact keeps_throw

theorem text_succ (line : Text) : Keeps (Orderly m) (runText (fuel + 1) channels line) := by
  unfold runText
  split
  · exact h.command _ _
  · exact orderly_complainInLine.bind fun _ => keeps_throw

theorem succ : Orders m (fuel + 1) where
  part _ := h.part_succ
  words _ := h.words_succ
  whole _ := h.whole_succ
  redirects _ := h.redirects_succ
  command _ := h.command_succ
  named _ := h.named_succ
  cases _ := h.cases_succ
  body _ := h.body_succ
  text _ := h.text_succ

end Orders

theorem orders (m : Instant) (fuel : Nat) : Orders m fuel := by
  induction fuel with
  | zero => exact orders_zero
  | succ fuel ih => exact ih.succ

/-- A command line leaves a tree tidy, the current directory what it was, and does not go
back in time. -/
theorem tidy_of_run {t t' : FileTree} {now now' : Instant} {dir : Path} {line : Text}
    {outcome : Outcome} (ht : t.Tidy) (h : run t now dir line = .ok (outcome, t', now')) :
    t'.Tidy ∧ t'.current = t.current ∧ now ≤ now' := by
  obtain ⟨place, hplace, h⟩ := except_bind_eq_ok h
  split at h
  case isTrue => cases h
  case isFalse =>
    let start : ShellState := ⟨{ t with current := place }, now, [], [], 0, [], [], 3⟩
    have hstart : Orderly now start :=
      ⟨⟨ht.root, ht.isName_of_place hplace⟩, Int.le_refl now⟩
    have hends := (orders now depthLimit).text ⟨.stream 1, .stream 2⟩ line start hstart
    have hlast : ∀ s, (runText depthLimit ⟨.stream 1, .stream 2⟩ line).after start = s →
        FileTree.Tidy ⟨s.files.root, t.current⟩ ∧ t.current = t.current ∧ now ≤ s.now := by
      rintro s rfl
      exact ⟨⟨hends.files.root, ht.current⟩, rfl, hends.now⟩
    -- the directory that the shell is in is lost however its line ends
    dsimp only at h
    split at h <;> cases h
    case h_1 hran => exact hlast _ (after_of_ok hran)
    case h_2 hran => exact hlast _ (after_of_error hran)
    case h_3 hran => exact hlast _ (after_of_error hran)
    case h_4 hran => exact hlast _ (after_of_error hran)

end TemplateTree.Shell

namespace TemplateTree.Host

/-- A machine whose commands leave trees tidy and the current directory what it was, and do
not go back in time. -/
def Lawful (h : Host) : Prop :=
  ∀ n files now dir line outcome files' now', files.Tidy →
    (h.moment n).run files now dir line = .ok (outcome, files', now') →
    files'.Tidy ∧ files'.current = files.current ∧ now ≤ now'

theorem Lawful.later {h h' : Host} (hlawful : h.Lawful) (hlater : h.Later h') : h'.Lawful :=
  hlater.keeps (fun _ hlawful n => hlawful (n + 1)) hlawful

theorem lawful_plain (seed : Nat) : (plain seed).Lawful :=
  fun _ _ _ _ _ _ _ _ ht h => Shell.tidy_of_run ht h

end TemplateTree.Host
