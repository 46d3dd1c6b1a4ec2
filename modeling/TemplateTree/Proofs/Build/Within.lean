import TemplateTree.Build.Generator
import TemplateTree.Proofs.Files.Touching
import TemplateTree.Proofs.Run.Jobs

/-!
# Relations that runs keep

A relation between sessions holds of a run and of its parts if it holds of the few steps that
change files, take time, or count.
-/

namespace TemplateTree

namespace Job

variable {path : Path} {attempt : Text} {line : Text} {dir : Path} {s : Session}

/-! ## Single steps -/

theorem changeFilesInPart_apply {change : Session → Except (FileError × FileTree) FileTree} :
    changeFilesInPart path attempt change s =
      match change s with
      | .ok files => .ok () { s with files := files }
      | .error (e, files) =>
        .error (.io path (attempt ++ e.message)) { s with files := files } := by
  rw [changeFilesInPart, bind_of_ok get_apply]
  cases change s <;> rfl

theorem changeFiles_apply {change : Session → Except FileError FileTree} :
    changeFiles path attempt change s =
      match change s with
      | .ok files => .ok () { s with files := files }
      | .error e => .error (.io path (attempt ++ e.message)) s := by
  rw [changeFiles, changeFilesInPart_apply]
  cases change s <;> rfl

theorem after_changeFilesInPart {change : Session → Except (FileError × FileTree) FileTree} :
    (changeFilesInPart path attempt change).after s =
      { s with files := FileTree.ending (change s) } := by
  rw [after, changeFilesInPart_apply]
  cases change s <;> rfl

theorem runCommand_apply : runCommand line dir s =
    match s.execute dir line with
    | .error e => .ok (.error e) s.turned
    | .ok (outcome, files, now) =>
      .ok (.ok outcome) { s.turned with files := files, now := now } := by
  rw [runCommand, bind_of_ok moment_apply, bind_of_ok get_apply]
  unfold Session.execute
  simp only [Session.turned_files, Session.turned_now]
  cases (s.host.moment 0).run s.files s.now dir line <;> rfl

theorem runChecked_apply : runChecked line dir s =
    match s.execute dir line with
    | .error e => .error (.command line none e.message) s.turned
    | .ok (outcome, files, now) =>
      if outcome.isSuccess then .ok outcome { s.turned with files := files, now := now }
      else .error (.command line (outcome.status.map Int.ofNat) (Text.trimEnd outcome.err))
        { s.turned with files := files, now := now } := by
  have hrun : runCommand line dir s = _ := runCommand_apply
  unfold runChecked
  cases hshell : s.execute dir line with
  | error e =>
      rw [hshell] at hrun
      rw [bind_of_ok hrun]
      rfl
  | ok result =>
      obtain ⟨outcome, files, now⟩ := result
      rw [hshell] at hrun
      rw [bind_of_ok hrun]
      dsimp only
      split
      · rfl
      · rfl

theorem runChecked_eq_ok {outcome : Shell.Outcome} {s' : Session}
    (h : runChecked line dir s = .ok outcome s') : ∃ files now,
      s.execute dir line = .ok (outcome, files, now) ∧
        outcome.isSuccess = true ∧ s' = { s.turned with files := files, now := now } := by
  rw [runChecked_apply] at h
  split at h
  case h_1 => cases h
  case h_2 outcome' files now hshell =>
    split at h
    case isFalse => cases h
    case isTrue hsuccess =>
      cases h
      exact ⟨files, now, hshell, hsuccess, rfl⟩

/-! ## Writing and running commands -/

variable {R : Session → Session → Prop} {settings : Settings} {sections : List Section}
  {create : Bool} {targets : List Path} {r : Section}

theorem within_changeFiles {change : Session → Except FileError FileTree} (hrefl : ∀ s, R s s)
    (h : ∀ s files, change s = .ok files → R s { s with files := files }) :
    Within R (changeFiles path attempt change) := by
  intro s
  have hrun : changeFiles path attempt change s = _ := changeFiles_apply
  cases hchange : change s with
  | ok files =>
      rw [hchange] at hrun
      rw [after_of_ok hrun]
      exact h s files hchange
  | error e =>
      rw [hchange] at hrun
      rw [after_of_error hrun]
      exact hrefl s

theorem within_runChecked (hturn : ∀ s, R s s.turned)
    (h : ∀ s outcome files now, s.execute dir line = .ok (outcome, files, now) →
      R s { s.turned with files := files, now := now }) :
    Within R (runChecked line dir) := by
  intro s
  rw [after, runChecked_apply]
  cases hshell : s.execute dir line with
  | error e => exact hturn s
  | ok result =>
      obtain ⟨outcome, files, now⟩ := result
      dsimp only
      cases outcome.isSuccess with
      | true => exact h s outcome files now hshell
      | false => exact h s outcome files now hshell

section

variable (hrefl : ∀ s, R s s) (htrans : ∀ s₁ s₂ s₃, R s₁ s₂ → R s₂ s₃ → R s₁ s₃)

include hrefl htrans

theorem within_prepareDirectory
    (hmake : ∀ s, R s { s with files := FileTree.ending (s.files.makeAllDirs dir) })
    (htell : Within R (directoryCreated dir)) : Within R (prepareDirectory dir create) := by
  apply (within_get hrefl).bind htrans
  intro s
  split
  · exact within_pure hrefl
  · split
    · exact within_throw hrefl
    · refine Within.bind htrans (fun s => ?_) fun _ => htell
      rw [after_changeFilesInPart]
      exact hmake s

theorem within_prepareParents
    (h : ∀ target ∈ targets, ∀ dir, Path.parent? target = some dir →
      Within R (prepareDirectory dir create)) :
    Within R (prepareParents create targets) := by
  apply within_forM hrefl htrans
  intro target htarget
  split
  case h_1 dir hdir => exact h target htarget dir hdir
  case h_2 => exact within_pure hrefl

theorem within_writeSection
    (hwrite : ∀ s bytes files,
      s.files.write s.now (Path.join settings.outputDir r.destination) bytes = .ok files →
        R s { s with files := files })
    (hmark : ∀ s files,
      s.files.markExecutable (Path.join settings.outputDir r.destination) = .ok files →
        R s { s with files := files })
    (hsaved : Within R (fileSaved (Path.join settings.outputDir r.destination))) :
    Within R (writeSection settings r) := by
  refine Within.bind htrans ?_ fun _ => hsaved
  apply (within_changeFiles hrefl fun s files h => hwrite s _ files h).bind htrans
  intro _
  split
  · exact within_changeFiles hrefl hmark
  · exact within_pure hrefl

theorem within_writeSections
    (hprepare : Within R (prepareParents settings.createDirectories
      (sections.map fun r => Path.join settings.outputDir r.destination)))
    (hwrite : ∀ r ∈ sections, Within R (writeSection settings r)) :
    Within R (writeSections settings sections) := by
  apply hprepare.bind htrans
  intro _
  exact (within_forM hrefl htrans hwrite).bind htrans fun _ => within_pure hrefl

end

end Job

open Job

/-- What is done with the text of a template, if there is one. -/
def Settings.writeText (settings : Settings) (name : Text) (text : Except Failure Text) :
    Job RunStats := do
  let text ← Job.ofExcept text
  let sections ← Job.ofExcept (settings.sectionsOf name text)
  let saved ← writeSections settings sections
  return ⟨1, saved⟩

/-- A template is rendered after it was counted and the machine was turned to. -/
theorem Environment.renderTemplate_apply (env : Environment) (settings : Settings) (name : Text)
    (overrides : Option Namespace) (s : Session) : env.renderTemplate settings name overrides s =
      settings.writeText name (env.render name (settings.namespaceWith overrides) s.outlook)
        ((templateStarted name).after s).turned :=
  rfl

theorem Environment.after_renderTemplate (env : Environment) (settings : Settings) (name : Text)
    (overrides : Option Namespace) (s : Session) :
    (env.renderTemplate settings name overrides).after s =
      (settings.writeText name (env.render name (settings.namespaceWith overrides)
        s.outlook)).after ((templateStarted name).after s).turned := by
  rw [after, renderTemplate_apply]
  rfl

variable {R : Session → Session → Prop} (hrefl : ∀ s, R s s)
  (htrans : ∀ s₁ s₂ s₃, R s₁ s₂ → R s₂ s₃ → R s₁ s₃)

include hrefl htrans

/-- Rendering a template writes sections that come of its text. -/
theorem Environment.rel_renderTemplate {env : Environment} {settings : Settings} {name : Text}
    {overrides : Option Namespace} {s : Session} (hstart : Within R (templateStarted name))
    (hturn : ∀ s, R s s.turned)
    (hwrite : ∀ text sections,
      env.render name (settings.namespaceWith overrides) s.outlook = .ok text →
      settings.sectionsOf name text = .ok sections → Within R (writeSections settings sections)) :
    R s ((env.renderTemplate settings name overrides).after s) := by
  have hrest : Within R (settings.writeText name
      (env.render name (settings.namespaceWith overrides) s.outlook)) := by
    apply within_ofExcept_bind hrefl
    intro text hrender
    apply within_ofExcept_bind hrefl
    intro sections hsections
    exact (hwrite text sections hrender hsections).bind htrans fun _ => within_pure hrefl
  rw [after_renderTemplate]
  exact htrans _ _ _ (hstart s) (htrans _ _ _ (hturn _) (hrest _))

theorem Environment.within_renderTemplate {env : Environment} {settings : Settings} {name : Text}
    {overrides : Option Namespace} (hstart : Within R (templateStarted name))
    (hturn : ∀ s, R s s.turned) (hwrite : ∀ sections, Within R (writeSections settings sections)) :
    Within R (env.renderTemplate settings name overrides) :=
  fun _ => rel_renderTemplate hrefl htrans hstart hturn fun _ sections _ _ => hwrite sections

namespace Generator

variable {g : Generator} {overrides : Option Namespace} {templates : List TemplateFile}

theorem within_renderEach
    (h : ∀ f ∈ templates, Within R (g.environment.renderTemplate g.settings f.name overrides)) :
    Within R (g.renderEach overrides templates) := by
  induction templates with
  | nil => exact within_pure hrefl
  | cons f rest ih =>
      apply (h f List.mem_cons_self).bind htrans
      intro _
      have hrest := ih fun f' hf' => h f' (List.mem_cons_of_mem f hf')
      exact hrest.bind htrans fun _ => within_pure hrefl

theorem within_runPostCommands (hnote : ∀ line, Within R (Job.note "Running" line))
    (hrun : ∀ line ∈ g.settings.postCommands, Within R (runChecked line g.settings.rootDir))
    (hout : ∀ text, Within R (commandOutput text)) : Within R g.runPostCommands := by
  apply within_forM hrefl htrans
  intro line hline
  apply (hnote line).bind htrans
  intro _
  exact (hrun line hline).bind htrans fun outcome => hout outcome.out

end Generator

end TemplateTree
