import TemplateTree.Proofs.Build.Within
import TemplateTree.Proofs.Output.Writing

/-!
# Counting files

A file is counted just when it was written.  Directories that are made on the way and writes
that fail count for nothing, so the counter tells of the files that were written before a
failure as well.
-/

namespace TemplateTree

theorem RunStats.add_assoc (a b c : RunStats) : (a.add b).add c = a.add (b.add c) := by
  simp only [add, Nat.add_assoc]

/-- As much is counted as before. -/
def Session.CountsNothing (s s' : Session) : Prop :=
  s'.reporter.stats = s.reporter.stats

theorem Session.CountsNothing.refl (s : Session) : CountsNothing s s := rfl

theorem Session.CountsNothing.trans (s₁ s₂ s₃ : Session) (h : CountsNothing s₁ s₂)
    (h' : CountsNothing s₂ s₃) : CountsNothing s₁ s₃ :=
  Eq.trans h' h

open Session

namespace Job

variable {settings : Settings} {sections rest : List Section} {r : Section} {s s₁ s' : Session}
  {n : Nat} {e : Failure}

/-- How many sections are written, from the first on, until a write fails. -/
def filesWritten (settings : Settings) : List Section → Session → Nat
  | [], _ => 0
  | r :: rest, s =>
    match writeFile (settings.target r) r.body settings.newline s with
    | .ok _ s₁ => 1 + filesWritten settings rest ((fileSaved (settings.target r)).after s₁)
    | .error _ _ => 0

/-- How many sections are written once all directories are there. -/
def filesSaved (settings : Settings) (sections : List Section) (s : Session) : Nat :=
  match prepareParents settings.createDirectories (sections.map settings.target) s with
  | .ok _ s₁ => filesWritten settings sections s₁
  | .error _ _ => 0

theorem countsNothing_report (line : Reporter → Text) : Within CountsNothing (report line) :=
  within_modify fun _ => rfl

theorem countsNothing_prepareParents (create : Bool) (targets : List Path) :
    Within CountsNothing (prepareParents create targets) := by
  apply within_prepareParents CountsNothing.refl CountsNothing.trans
  intro _ _ dir _
  apply within_prepareDirectory CountsNothing.refl CountsNothing.trans
  · exact fun _ => rfl
  · exact (within_get CountsNothing.refl).bind CountsNothing.trans fun _ => countsNothing_report _

theorem countsNothing_writeFile (path : Path) (body : Text) (default : Newline) :
    Within CountsNothing (writeFile path body default) := by
  refine (within_changeFiles CountsNothing.refl fun _ _ _ => rfl).bind CountsNothing.trans ?_
  intro _
  split
  · exact within_changeFiles CountsNothing.refl fun _ _ _ => rfl
  · exact within_pure CountsNothing.refl

/-! ## Sections -/

theorem writeSection_of_ok
    (h : writeFile (settings.target r) r.body settings.newline s = .ok () s₁) :
    writeSection settings r s = .ok () ((fileSaved (settings.target r)).after s₁) :=
  bind_of_ok h

theorem writeSection_of_error
    (h : writeFile (settings.target r) r.body settings.newline s = .error e s₁) :
    writeSection settings r s = .error e s₁ :=
  bind_of_error h

theorem stats_after_fileSaved (p : Path) :
    ((fileSaved p).after s).reporter.stats = s.reporter.stats.add ⟨0, 1⟩ :=
  rfl

theorem stats_after_forM : ((sections.forM (writeSection settings)).after s).reporter.stats =
    s.reporter.stats.add ⟨0, filesWritten settings sections s⟩ := by
  induction sections generalizing s with
  | nil => rfl
  | cons r rest ih =>
      have hsame := countsNothing_writeFile (settings.target r) r.body settings.newline
      rw [filesWritten]
      cases hwrite : writeFile (settings.target r) r.body settings.newline s with
      | error e s₁ =>
          have hafter : ((r :: rest).forM (writeSection settings)).after s = s₁ :=
            after_bind_of_error (writeSection_of_error hwrite)
          rw [hafter]
          exact hsame.of_error hwrite
      | ok _ s₁ =>
          have hafter : ((r :: rest).forM (writeSection settings)).after s =
              (rest.forM (writeSection settings)).after
                ((fileSaved (settings.target r)).after s₁) :=
            after_bind_of_ok (writeSection_of_ok hwrite)
          rw [hafter, ih, stats_after_fileSaved, hsame.of_ok hwrite, RunStats.add_assoc]
          rfl

theorem filesWritten_of_ok (h : sections.forM (writeSection settings) s = .ok ⟨⟩ s') :
    filesWritten settings sections s = sections.length := by
  induction sections generalizing s with
  | nil => rfl
  | cons r rest ih =>
      obtain ⟨_, s₁, hfirst, hrest⟩ := bind_eq_ok h
      rw [filesWritten]
      cases hwrite : writeFile (settings.target r) r.body settings.newline s with
      | error e s₂ =>
          rw [writeSection_of_error hwrite] at hfirst
          cases hfirst
      | ok _ s₂ =>
          rw [writeSection_of_ok hwrite] at hfirst
          cases hfirst
          dsimp only
          rw [ih hrest, List.length_cons, Nat.add_comm]

/-- Whether all goes well or not, the files that were written are counted. -/
theorem stats_after_writeSections (settings : Settings) (sections : List Section) (s : Session) :
    ((writeSections settings sections).after s).reporter.stats =
      s.reporter.stats.add ⟨0, filesSaved settings sections s⟩ := by
  have hsame := countsNothing_prepareParents settings.createDirectories
    (sections.map settings.target)
  rw [filesSaved]
  cases hprepare : prepareParents settings.createDirectories (sections.map settings.target) s with
  | error e s₁ =>
      have hafter : (writeSections settings sections).after s = s₁ := after_bind_of_error hprepare
      rw [hafter]
      exact hsame.of_error hprepare
  | ok _ s₁ =>
      have hafter : (writeSections settings sections).after s =
          (sections.forM (writeSection settings)).after s₁ :=
        (after_bind_of_ok hprepare).trans after_bind_pure
      rw [hafter, stats_after_forM, hsame.of_ok hprepare]

theorem filesSaved_of_ok (h : writeSections settings sections s = .ok n s') :
    n = sections.length ∧ filesSaved settings sections s = sections.length := by
  obtain ⟨_, s₁, hprepare, h⟩ := bind_eq_ok h
  obtain ⟨_, s₂, hwrite, h⟩ := bind_eq_ok h
  cases h
  have hprepare' : prepareParents settings.createDirectories (sections.map settings.target) s =
      .ok () s₁ := hprepare
  refine ⟨rfl, ?_⟩
  rw [filesSaved, hprepare']
  exact filesWritten_of_ok hwrite

end Job

end TemplateTree
