import TemplateTree.Proofs.Build.Effects
import TemplateTree.Proofs.Output.Repeating

/-!
# What rendering a template does to files

The sections that a template describes are written.  If that fails part of the way, no
file is changed but those of these sections.
-/

namespace TemplateTree

/-- Files are changed at certain places only, and no time passes; the output directory
was where it is. -/
def Session.Wrote (settings : Settings) (out : Place) (P : Place → Prop) (s s' : Session) : Prop :=
  settings.OutputAt out s.files → FileTree.ChangesOnly P s.files s'.files ∧ s'.now = s.now

section

open Session

variable {settings : Settings} {out : Place} {P Q : Place → Prop} {s s' : Session}

theorem Session.Wrote.refl (s : Session) : Wrote settings out P s s :=
  fun hs => ⟨.refl hs.sound, rfl⟩

theorem Session.Wrote.trans (s₁ s₂ s₃ : Session) (h : Wrote settings out P s₁ s₂)
    (h' : Wrote settings out P s₂ s₃) : Wrote settings out P s₁ s₃ := by
  intro hs
  obtain ⟨hfirst, hnow⟩ := h hs
  obtain ⟨hrest, hnow'⟩ := h' (hs.changesOnly hfirst)
  exact ⟨hfirst.trans hrest, hnow'.trans hnow⟩

theorem Session.Wrote.mono (h : Wrote settings out P s s') (hPQ : ∀ q, P q → Q q) :
    Wrote settings out Q s s' :=
  fun hs => ⟨(h hs).1.mono hPQ, (h hs).2⟩

theorem Session.Unchanged.wrote (h : Unchanged s s') : Wrote settings out P s s' := by
  obtain ⟨hfiles, hnow, -⟩ := h
  refine fun hs => ⟨?_, hnow⟩
  rw [hfiles]
  exact .refl hs.sound

theorem Session.Wrote.turned (s : Session) : Wrote settings out P s s.turned :=
  fun hs => ⟨.refl hs.sound, rfl⟩

end

namespace Job

open Session

variable {settings : Settings} {out : Place} {P : Place → Prop} {sections : List Section}
  {α : Type} {x : Job α}

/-! ## Changes at some places -/

theorem wrote_of_unchanged (h : Within Unchanged x) : Within (Wrote settings out P) x :=
  fun s => (h s).wrote

theorem wrote_prepareDirectory (dir : Path) (create : Bool) :
    Within (Wrote settings out P) (prepareDirectory dir create) :=
  within_prepareDirectory Wrote.refl Wrote.trans
    (fun _ hs => ⟨FileTree.changesOnly_makeAllDirs hs.sound, rfl⟩)
    (wrote_of_unchanged (unchanged_directoryCreated dir))

/-- A section is written to its own file. -/
theorem wrote_writeSection {r : Section} (hr : r.Contained) :
    Within (Wrote settings out (· = r.place out)) (writeSection settings r) := by
  apply within_writeSection Wrote.refl Wrote.trans
  · refine fun s bytes files h hs => ⟨?_, rfl⟩
    obtain ⟨-, spot, _, hspot, -⟩ := FileTree.item?_of_write hs.sound h
    have hc := FileTree.changesOnly_of_write hs.sound h hspot
    rwa [hs.place_of_spot hr hspot] at hc
  · exact fun s files h hs => ⟨FileTree.changesOnly_of_markExecutable hs.sound h, rfl⟩
  · exact wrote_of_unchanged (unchanged_fileSaved _)

theorem wrote_writeSections (h : ∀ r ∈ sections, r.Contained) :
    Within (Wrote settings out (Settings.IsTarget out sections))
      (writeSections settings sections) := by
  apply within_writeSections Wrote.refl Wrote.trans
  · exact within_prepareParents Wrote.refl Wrote.trans fun _ _ dir _ =>
      wrote_prepareDirectory dir _
  · exact fun r hr s => (wrote_writeSection (h r hr) s).mono fun q hq => ⟨r, hr, hq⟩

/-! ## What success comes down to -/

variable {Q : Host → Instant → Prop}

theorem does_report (line : Reporter → Text) : Does Q Q (fun _ t => some t) (report line) :=
  does_modify (fun _ => rfl) (fun _ => rfl) fun _ => rfl

theorem does_count (step : Reporter → Reporter × Text) :
    Does Q Q (fun _ t => some t) (count step) :=
  does_modify (fun _ => rfl) (fun _ => rfl) fun _ => rfl

theorem does_start : Does Q Q (fun _ t => some t) start :=
  does_modify (fun _ => rfl) (fun _ => rfl) fun _ => rfl

theorem does_finish : Does Q Q (fun _ t => some t) finish :=
  does_modify (fun _ => rfl) (fun _ => rfl) fun _ => rfl

theorem does_shown (p : Path) : Does Q Q (fun _ t => some t) (shown p) :=
  fun _ hs => ⟨rfl, rfl, hs⟩

theorem does_fileSaved (p : Path) : Does Q Q (fun _ t => some t) (fileSaved p) :=
  (does_shown p).after_idle fun _ => does_count _

theorem does_directoryCreated (p : Path) : Does Q Q (fun _ t => some t) (directoryCreated p) :=
  (does_shown p).after_idle fun _ => does_report _

theorem does_changeFilesInPart (path : Path) (attempt : Text)
    (change : Instant → FileTree → Except (FileError × FileTree) FileTree) :
    Does Q Q (fun now t => (change now t).toOption)
      (changeFilesInPart path attempt fun s => change s.now s.files) := by
  intro s hs
  rw [changeFilesInPart_apply]
  dsimp only
  cases change s.now s.files with
  | ok files => exact ⟨rfl, rfl, hs⟩
  | error e => rfl

theorem does_changeFiles (path : Path) (attempt : Text)
    (change : Instant → FileTree → Except FileError FileTree) :
    Does Q Q (fun now t => (change now t).toOption)
      (changeFiles path attempt fun s => change s.now s.files) := by
  intro s hs
  rw [changeFiles_apply]
  dsimp only
  cases change s.now s.files with
  | ok files => exact ⟨rfl, rfl, hs⟩
  | error e => rfl

theorem does_prepareDirectory (dir : Path) (create : Bool) :
    Does Q Q (fun _ t => if t.hasDir dir then some t
      else if create then (t.makeAllDirs dir).toOption else none)
      (prepareDirectory dir create) := by
  intro s hs
  have hmake : Does Q Q (fun _ t => (t.makeAllDirs dir).toOption)
      (changeFilesInPart dir "Failed to create directory: " (fun s => s.files.makeAllDirs dir) >>=
        fun _ => directoryCreated dir) :=
    (does_changeFilesInPart _ _ fun _ t => t.makeAllDirs dir).before_idle fun _ =>
      does_directoryCreated dir
  have hrun : prepareDirectory dir create s = (if s.files.hasDir dir then pure ()
      else if !create then throw (.missingDirectory dir)
      else changeFilesInPart dir "Failed to create directory: "
        (fun s => s.files.makeAllDirs dir) >>= fun _ => directoryCreated dir : Job Unit) s := rfl
  rw [hrun]
  by_cases hdir : s.files.hasDir dir
  · simpa [hdir] using hs
  · cases create with
    | false => simp [hdir]
    | true => simpa [hdir] using hmake s hs

theorem does_prepareParents (settings : Settings) (sections : List Section) :
    Does Q Q (fun _ t => sections.foldlM settings.prepared? t)
      (prepareParents settings.createDirectories (sections.map settings.target)) := by
  unfold prepareParents
  have hmap : ∀ (k : Path → Job PUnit),
      (sections.map settings.target).forM k = sections.forM fun r => k (settings.target r) := by
    intro k
    induction sections with
    | nil => rfl
    | cons r rest ih => exact congrArg (k (settings.target r) >>= fun _ => ·) ih
  rw [hmap]
  refine does_forM fun r _ => ?_
  unfold Settings.prepared?
  cases Path.parent? (settings.target r) with
  | some dir => exact does_prepareDirectory _ _
  | none => exact does_pure

theorem does_writeFile (path : Path) (body : Text) (default : Newline) :
    Does Q Q (fun now t => t.stored? now path (Text.toBytes ((default.forPath path).apply body)))
      (writeFile path body default) := by
  have hwrite := does_changeFiles (Q := Q) path "Failed to write file: " fun now t =>
    t.write now path (Text.toBytes ((default.forPath path).apply body))
  have hmark : Does Q Q (fun _ t => if Path.hasExtension path "sh" then
        (t.markExecutable path).toOption
      else some t)
      (if Path.hasExtension path "sh" then
        changeFiles path "Failed to set permissions: " fun s => s.files.markExecutable path
      else pure ()) := by
    split
    · exact does_changeFiles _ _ fun _ t => t.markExecutable path
    · exact does_pure
  exact hwrite.bind fun _ => hmark

theorem does_writeSection (settings : Settings) (r : Section) :
    Does Q Q (fun now t => settings.written? now t r) (writeSection settings r) :=
  (does_writeFile _ _ _).before_idle fun _ => does_fileSaved _

theorem does_writeSections (settings : Settings) (sections : List Section) :
    Does Q Q (fun now t => settings.saved? now sections t) (writeSections settings sections) := by
  refine (does_prepareParents settings sections).bind fun _ => ?_
  exact (does_forM fun r _ => does_writeSection settings r).before_idle fun _ => does_pure

theorem does_writeText (settings : Settings) (name : Text) (text : Except Failure Text) :
    Does Q Q (fun now t => text.toOption.bind fun text =>
      (settings.sectionsOf name text).toOption.bind fun sections =>
        settings.saved? now sections t) (settings.writeText name text) :=
  does_ofExcept_bind fun _ => does_ofExcept_bind fun sections =>
    (does_writeSections settings sections).before_idle fun _ => does_pure

end Job

namespace Environment

open Session Job

variable {env : Environment} {settings : Settings} {name : Text} {overrides : Option Namespace}
  {o : Template.Outlook} {out : Place} {sections : List Section} {s : Session}

def sections? (env : Environment) (settings : Settings) (overrides : Option Namespace)
    (o : Template.Outlook) (name : Text) : Option (List Section) :=
  (env.render name (settings.namespaceWith overrides) o).toOption.bind fun text =>
    (settings.sectionsOf name text).toOption

theorem sections?_eq_some_iff : env.sections? settings overrides o name = some sections ↔
    ∃ text, env.render name (settings.namespaceWith overrides) o = .ok text ∧
      settings.sectionsOf name text = .ok sections := by
  simp [sections?, Option.bind_eq_some_iff, toOption_eq_some_iff]

theorem contained_of_sections? (h : env.sections? settings overrides o name = some sections) :
    ∀ r ∈ sections, r.Contained := by
  obtain ⟨text, -, hsections⟩ := sections?_eq_some_iff.mp h
  unfold Settings.sectionsOf at hsections
  split at hsections
  case h_1 hsplit =>
    cases hsections
    exact fun r hr => Section.contained_of_split hsplit hr
  case h_2 => cases hsections

/-- What a template describes on a machine is saved. -/
theorem does_renderTemplate (env : Environment) (settings : Settings) (name : Text)
    (overrides : Option Namespace) {P Q : Host → Instant → Prop}
    (hsame : ∀ h now, P h now → env.sections? settings overrides ((h.moment 0).answer now) name =
      env.sections? settings overrides o name)
    (hnext : ∀ h now, P h now → Q h.next now) :
    Does P Q (fun now t => (env.sections? settings overrides o name).bind fun sections =>
      settings.saved? now sections t) (env.renderTemplate settings name overrides) := by
  intro s hs
  have hdoes : Does Q Q _ _ := does_writeText settings name
    (env.render name (settings.namespaceWith overrides) s.outlook)
  have hchange : (fun (now : Instant) (t : FileTree) =>
      (env.render name (settings.namespaceWith overrides) s.outlook).toOption.bind fun text =>
        (settings.sectionsOf name text).toOption.bind fun sections =>
          settings.saved? now sections t) = fun now t =>
      (env.sections? settings overrides o name).bind fun sections =>
        settings.saved? now sections t := by
    funext now t
    rw [← hsame s.host s.now hs]
    exact (Option.bind_assoc _ _ _).symm
  rw [hchange] at hdoes
  rw [renderTemplate_apply]
  exact hdoes ((templateStarted name).after s).turned (hnext _ _ hs)

def Targets (env : Environment) (settings : Settings) (overrides : Option Namespace)
    (o : Template.Outlook) (out : Place) (name : Text) (q : Place) : Prop :=
  ∃ sections, env.sections? settings overrides o name = some sections ∧
    Settings.IsTarget out sections q

theorem wrote_renderTemplate (env : Environment) (settings : Settings) (name : Text)
    (overrides : Option Namespace) (out : Place) (s : Session) :
    Wrote settings out (env.Targets settings overrides s.outlook out name) s
      ((env.renderTemplate settings name overrides).after s) := by
  apply rel_renderTemplate Wrote.refl Wrote.trans (wrote_of_unchanged (unchanged_count _))
    Wrote.turned
  intro text sections hrender hsections s
  have hsome := sections?_eq_some_iff.mpr ⟨text, hrender, hsections⟩
  have hwrote : Within (Wrote settings out (Settings.IsTarget out sections)) _ :=
    wrote_writeSections (contained_of_sections? hsome)
  exact (hwrote s).mono fun q hq => ⟨sections, hsome, hq⟩

end Environment

end TemplateTree
