import TemplateTree.Proofs.Output.Confined
import TemplateTree.Proofs.Settings.Loading

/-!
# Renderings that fail

A rendering that fails has changed no file, unless it failed at writing the file of a
section: then the sections before it are on disk.  Which files can be written is not
foreseen when the directories are prepared.
-/

namespace TemplateTree

open FileTree Session Job

namespace Settings

variable {settings : Settings} {t t' : FileTree} {r : Section} {sections : List Section}
  {now : Instant}

/-- A place to which the path of a section leads. -/
def LeadsTo (settings : Settings) (t : FileTree) (sections : List Section) (q : Place) : Prop :=
  ∃ r ∈ sections, t.spot (settings.target r) = .ok (.found q)

theorem leadsTo_cons {q : Place} : settings.LeadsTo t (r :: sections) q ↔
    t.spot (settings.target r) = .ok (.found q) ∨ settings.LeadsTo t sections q := by
  simp [LeadsTo]

theorem LeadsTo.item?_ne_none {q : Place} (ht : t.Sound) (h : settings.LeadsTo t sections q) :
    t.root.item? q ≠ none := by
  obtain ⟨r, -, hspot⟩ := h
  have hq := ht.spotOf_eq hspot
  intro hnone
  simp [spotAt, Spot.place, hnone] at hq

/-- Wherever its path leads, a section is written to one file. -/
theorem exists_of_written? (ht : t.Sound) (h : settings.written? now t r = some t') :
    ∃ q, ChangesOnly (· = q) t t' ∧ t'.spot (settings.target r) = .ok (.found q) ∧
      t'.HasBytes q (settings.bytesOf r) := by
  have hstored : t.stored? now (settings.target r) (settings.bytesOf r) = some t' := h
  obtain ⟨spot, hspot, hfound, -, hitem⟩ := item?_of_stored? ht hstored
  exact ⟨spot.place, changesOnly_of_stored? ht hstored hspot, hfound, now, _,
    by rw [hitem, if_pos rfl]⟩

/-- Sections that are written in order change the files to which their paths lead. -/
theorem changesOnly_of_written (ht : t.Sound)
    (h : sections.foldlM (settings.written? now) t = some t') :
    ChangesOnly (settings.LeadsTo t' sections) t t' := by
  induction sections generalizing t with
  | nil =>
      obtain rfl := Option.some.inj h
      exact .refl ht
  | cons r rest ih =>
      rw [List.foldlM_cons] at h
      obtain ⟨t₁, hfirst, hrest⟩ := Option.bind_eq_some_iff.mp h
      obtain ⟨q, hc, hspot, hbytes⟩ := exists_of_written? ht hfirst
      have hc' := ih hc.sound hrest
      have hitem : t'.root.item? q ≠ none := by
        by_cases hagain : settings.LeadsTo t' rest q
        · exact hagain.item?_ne_none hc'.sound
        · obtain ⟨time, mode, hfile⟩ := (hc'.hasBytes_iff hagain).mpr hbytes
          simp [hfile]
      have hkept := hc'.spot_found hc.sound hspot hitem
      apply (hc.mono ?_).trans (hc'.mono ?_)
      · rintro _ rfl
        exact leadsTo_cons.mpr (.inl hkept)
      · intro q' hq'
        exact leadsTo_cons.mpr (.inr hq')

end Settings

namespace Job

variable {settings : Settings} {sections : List Section} {r : Section} {s s' : Session}
  {e : Failure}

theorem madeDirs_of_unchanged {α : Type} {x : Job α} (h : Within Unchanged x) :
    Within MadeDirs x := by
  intro s hs
  obtain ⟨hfiles, hnow, -⟩ := h s
  rw [hfiles]
  exact ⟨.refl hs, hnow⟩

theorem madeDirs_prepareDirectory (dir : Path) (create : Bool) :
    Within MadeDirs (prepareDirectory dir create) :=
  within_prepareDirectory MadeDirs.refl MadeDirs.trans
    (fun _ hs => ⟨changesOnly_makeAllDirs hs, rfl⟩)
    (madeDirs_of_unchanged (unchanged_directoryCreated dir))

theorem madeDirs_prepareParents (create : Bool) (targets : List Path) :
    Within MadeDirs (prepareParents create targets) :=
  within_prepareParents MadeDirs.refl MadeDirs.trans fun _ _ dir _ =>
    madeDirs_prepareDirectory dir create

/-- Only writing its file can fail for a section, and then nothing was done. -/
theorem exists_of_writeSection (hs : s.files.Sound)
    (h : writeSection settings r s = .error e s') : s' = s ∧ ∃ refusal,
      s.files.write s.now (settings.target r) (settings.bytesOf r) = .error refusal ∧
      e = .io (settings.target r) ("Failed to write file: " ++ refusal.message) := by
  rcases bind_eq_error h with hfile | ⟨_, s₁, -, hcount⟩
  · rcases bind_eq_error hfile with hwrite | ⟨_, s₁, hwrite, hmark⟩
    · rw [changeFiles_apply] at hwrite
      split at hwrite
      case h_1 => cases hwrite
      case h_2 refusal hrefused =>
        cases hwrite
        exact ⟨rfl, refusal, hrefused, rfl⟩
    · -- the file is there now, so that it can be marked
      exfalso
      rw [changeFiles_apply] at hwrite
      split at hwrite
      case h_2 => cases hwrite
      case h_1 files hwritten =>
        cases hwrite
        obtain ⟨q, mode, hspot, -⟩ := spot_of_write hs hwritten
        obtain ⟨t, hmarked⟩ := exists_markExecutable (place_eq_ok_iff.mpr hspot)
        split at hmark
        case isTrue =>
          rw [changeFiles_apply] at hmark
          have hmarked' : files.markExecutable (settings.target r) = .ok t := hmarked
          simp only [Settings.target] at hmarked'
          rw [hmarked'] at hmark
          cases hmark
        case isFalse => cases hmark
  · have hnone := (does_fileSaved (Q := fun _ _ => True) _).eq_none trivial hcount
    cases hnone

/-- Writing sections fails before the first file, or at one of the files. -/
theorem exists_of_writeSections (hs : s.files.Sound)
    (h : writeSections settings sections s = .error e s') :
    ChangesOnly (fun _ => False) s.files s'.files ∨
    ∃ before r rest refusal t, sections = before ++ r :: rest ∧
      sections.foldlM settings.prepared? s.files = some t ∧
      before.foldlM (settings.written? s.now) t = some s'.files ∧
      ChangesOnly (settings.LeadsTo s'.files before) s.files s'.files ∧
      s'.files.write s'.now (settings.target r) (settings.bytesOf r) = .error refusal ∧
      e = .io (settings.target r) ("Failed to write file: " ++ refusal.message) := by
  rcases bind_eq_error h with hprepare | ⟨_, s₁, hprepare, hrest⟩
  · have hmade := madeDirs_prepareParents settings.createDirectories
      (sections.map settings.target) s hs
    have hafter : (prepareParents settings.createDirectories
        (sections.map settings.target)).after s = s' := after_of_error hprepare
    rw [hafter] at hmade
    exact .inl hmade.1
  · obtain ⟨hprepared, hnow⟩ := (does_prepareParents settings sections).of_ok hprepare
    obtain ⟨hc, -⟩ := Settings.prepare_spec (P := fun _ => False) hs hprepared
    rcases bind_eq_error hrest with hwrite | ⟨_, _, _, hpure⟩
    · obtain ⟨before, r, rest, s₂, rfl, hbefore, hr⟩ := forM_eq_error hwrite
      have hdoes : Does (fun _ _ => True) (fun _ _ => True)
          (fun now t => before.foldlM (settings.written? now) t)
          (before.forM (writeSection settings)) := does_forM fun r _ => does_writeSection settings r
      obtain ⟨hwritten, -⟩ := hdoes.of_ok hbefore
      have hc' := Settings.changesOnly_of_written hc.sound hwritten
      obtain ⟨rfl, refusal, hrefused, rfl⟩ := exists_of_writeSection hc'.sound hr
      refine .inr ⟨before, r, rest, refusal, s₁.files, rfl, hprepared, hnow ▸ hwritten, ?_,
        hrefused, rfl⟩
      exact (hc.mono fun _ => False.elim).trans hc'
    · cases hpure

end Job

/-! ## A file in the way -/

namespace Sketch

def halfway : FileTree :=
  files (describing "a.txt".toList ['A'] ++ describing "sub".toList ['B'])
    [("sub".toList, .dir [])]

theorem sound_halfway : halfway.Sound := by
  refine sound_files (Node.Sound.of_names ["sub".toList] rfl (by decide) (by decide) ?_)
  exact List.forall_mem_cons.mpr ⟨.dir .nil (by simp) (by simp), by simp⟩

theorem exists_halfway : ∃ env e s,
    Environment.create halfway (settings false [] "/last".toList) = .ok env ∧
    env.renderTemplate (settings false [] "/last".toList) ['a'] none (start halfway) = .error e s ∧
    s.files.HasBytes ["out".toList, "a.txt".toList] (Text.toBytes "A\n".toList) := by
  have hfails : fails (settings false [] "/last".toList) halfway
      (fun _ t => holds t ["out".toList, "a.txt".toList] (Text.toBytes "A\n".toList)) = true := by
    decide +kernel
  obtain ⟨env, e, s, henv, hrun, hholds⟩ := exists_of_fails hfails
  exact ⟨env, e, s, henv, hrun, hasBytes_of_holds hholds⟩

theorem not_hasBytes_halfway {bytes : Bytes} :
    ¬ halfway.HasBytes ["out".toList, "a.txt".toList] bytes := by
  rintro ⟨time, mode, hfile⟩
  have hnone : halfway.root.item? ["out".toList, "a.txt".toList] = none := by rfl
  rw [hnone] at hfile
  cases hfile

end Sketch

namespace Environment

variable {env : Environment} {settings : Settings} {name : Text} {overrides : Option Namespace}
  {s s' : Session} {e : Failure}

/-- A rendering that fails has changed no file, or it was refused the file of a section
other than the first one, and has written those before it. -/
theorem failing_rendering_writes_sections_before (hs : s.files.Sound)
    (hrun : env.renderTemplate settings name overrides s = .error e s') :
    ChangesOnly (fun _ => False) s.files s'.files ∨
    ∃ before r rest refusal t,
      env.sections? settings overrides s.outlook name = some (before ++ r :: rest) ∧
      before ≠ [] ∧
      (before ++ r :: rest).foldlM settings.prepared? s.files = some t ∧
      before.foldlM (settings.written? s.now) t = some s'.files ∧
      ChangesOnly (settings.LeadsTo s'.files before) s.files s'.files ∧
      s'.files.write s'.now (settings.target r) (settings.bytesOf r) = .error refusal ∧
      e = .io (settings.target r) ("Failed to write file: " ++ refusal.message) := by
  rw [renderTemplate_apply] at hrun
  rcases bind_eq_error hrun with hfail | ⟨text, s₂, hread, hrun₂⟩
  · obtain ⟨-, rfl⟩ := ofExcept_eq_error hfail
    exact .inl (.refl hs)
  obtain ⟨hrender, rfl⟩ := ofExcept_eq_ok hread
  rcases bind_eq_error hrun₂ with hfail | ⟨sections, s₃, hsplit, hrun₃⟩
  · obtain ⟨-, rfl⟩ := ofExcept_eq_error hfail
    exact .inl (.refl hs)
  obtain ⟨hsections, rfl⟩ := ofExcept_eq_ok hsplit
  rcases bind_eq_error hrun₃ with hwrite | ⟨_, _, _, hpure⟩
  · have hstop := exists_of_writeSections
      (s := ((templateStarted name).after s).turned) hs hwrite
    rcases hstop with hc | ⟨before, r, rest, refusal, t, rfl, hprepared, hwritten, hc, hrefused, he⟩
    · exact .inl hc
    · by_cases hbefore : before = []
      · -- nothing was written, as the first file was refused
        subst hbefore
        refine .inl (hc.mono ?_)
        rintro q ⟨r, hr, -⟩
        cases hr
      · have hsome := sections?_eq_some_iff.mpr ⟨text, hrender, hsections⟩
        exact .inr ⟨before, r, rest, refusal, t, hsome, hbefore, hprepared, hwritten, hc,
          hrefused, he⟩
  · cases hpure

/-- Where a directory has the name of the second file, the first one is written. -/
theorem failing_rendering_writes_sections_before_halfway :
    ∃ (env : Environment) (e : Failure) (s' : Session), Sketch.halfway.Sound ∧
      env.renderTemplate (Sketch.settings false [] "/last".toList) ['a'] none
        (Sketch.start Sketch.halfway) = .error e s' ∧
      ∃ before r rest refusal, env.sections? (Sketch.settings false [] "/last".toList) none
          (Sketch.start Sketch.halfway).outlook ['a'] = some (before ++ r :: rest) ∧
        before ≠ [] ∧
        e = .io ((Sketch.settings false [] "/last".toList).target r)
          ("Failed to write file: " ++ FileError.message refusal) := by
  obtain ⟨env, e, s', -, hrun, hbytes⟩ := Sketch.exists_halfway
  refine ⟨env, e, s', Sketch.sound_halfway, hrun, ?_⟩
  have hstart : (Sketch.start Sketch.halfway).files.Sound := Sketch.sound_halfway
  rcases failing_rendering_writes_sections_before hstart hrun with
    hsame | ⟨before, r, rest, refusal, _, hsections, hne, -, -, -, -, he⟩
  · exact absurd ((hsame.hasBytes_iff id).mp hbytes) Sketch.not_hasBytes_halfway
  · exact ⟨before, r, rest, refusal, hsections, hne, he⟩

/-- A rendering that fails may leave a new file below the output directory. -/
theorem failing_rendering_leaves_file :
    ∃ env e s', Environment.create Sketch.halfway (Sketch.settings false [] "/last".toList) =
        .ok env ∧
      env.renderTemplate (Sketch.settings false [] "/last".toList) ['a'] none
        (Sketch.start Sketch.halfway) = .error e s' ∧
      ∃ q bytes, IsInside ["out".toList] q ∧ ¬ Sketch.halfway.HasBytes q bytes ∧
        s'.files.HasBytes q bytes := by
  obtain ⟨env, e, s', henv, hrun, hbytes⟩ := Sketch.exists_halfway
  refine ⟨env, e, s', henv, hrun, _, _, ⟨["a.txt".toList], by simp, rfl⟩, ?_, hbytes⟩
  exact Sketch.not_hasBytes_halfway

end Environment

end TemplateTree
