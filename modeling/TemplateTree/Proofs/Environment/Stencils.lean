import TemplateTree.Proofs.Environment.Rendering
import TemplateTree.Proofs.Files.Frames

/-!
# Stencils that stay as they are

As long as the files of stencils stay, environments that are made at different times
have the same stencils with the same texts.
-/

namespace TemplateTree

open FileTree

variable {s : Settings} {t t' : FileTree} {root : Place} {names : List Text} {bytes : Bytes}
  {time : Instant} {env env' : Environment} {p : Path} {e : FileError}

theorem FileTree.readText_of_checkPath (h : checkPath p = .error e) :
    t.readText p = .error e := by
  simp [readText, readBytes, node, spot, spotOf, h, bind, Except.bind]

namespace Settings

/-- A file below the template directory is read, unless its path is too long. -/
theorem readBytes_templateAt (ht : t.Sound) (hplace : t.place s.templateDir = .ok root)
    (hne : names ≠ []) (hbytes : t.HasBytes (root ++ names) bytes)
    (hcheck : checkPath (s.templateAt names).path = .ok ()) :
    t.readBytes (s.templateAt names).path = .ok bytes := by
  obtain ⟨time, mode, hfile⟩ := hbytes
  have hroot := Node.item?_dir_of_append (Option.isSome_of_eq_some hfile) hne
  have hvalid : ∀ x ∈ names, x.IsName := fun x hx =>
    ht.root.isName_of_mem (Option.isSome_of_eq_some hfile) (List.mem_append_right _ hx)
  exact readBytes_of_item? (spot_foldl_join hplace hroot hne hvalid hcheck hfile (by simp)) hfile

/-- The text of a file below the template directory depends on its bytes only. -/
theorem readText_templateAt (ht : t.Sound) (ht' : t'.Sound)
    (hplace : t.place s.templateDir = .ok root) (hplace' : t'.place s.templateDir = .ok root)
    (hne : names ≠ []) (hbytes : t.HasBytes (root ++ names) bytes)
    (hbytes' : t'.HasBytes (root ++ names) bytes) :
    t'.readText (s.templateAt names).path = t.readText (s.templateAt names).path := by
  cases hcheck : checkPath (s.templateAt names).path with
  | error e => rw [readText_of_checkPath hcheck, readText_of_checkPath hcheck]
  | ok _ =>
      rw [readText_of_readBytes (readBytes_templateAt ht hplace hne hbytes hcheck),
        readText_of_readBytes (readBytes_templateAt ht' hplace' hne hbytes' hcheck)]

/-- A tree in which every stencil is the file that it was. -/
def KeepsStencils (s : Settings) (root : Place) (t t' : FileTree) : Prop :=
  ∀ names, (s.templateAt names).isStencil = true → ∀ bytes time,
    t'.HasFile (root ++ names) bytes time ↔ t.HasFile (root ++ names) bytes time

theorem KeepsStencils.refl (s : Settings) (root : Place) (t : FileTree) :
    s.KeepsStencils root t t :=
  fun _ _ _ _ => .rfl

theorem KeepsStencils.changesOnly {t'' : FileTree} {P : Place → Prop}
    (h : s.KeepsStencils root t t') (hc : ChangesOnly P t' t'')
    (hP : ∀ names, (s.templateAt names).isStencil = true → ¬ P (root ++ names)) :
    s.KeepsStencils root t t'' :=
  fun names hkind bytes time =>
    (hc.file _ (hP names hkind) bytes time).trans (h names hkind bytes time)

theorem KeepsStencils.symm (h : s.KeepsStencils root t t') : s.KeepsStencils root t' t :=
  fun names hkind bytes time => (h names hkind bytes time).symm

theorem KeepsStencils.holdsStencil (h : s.KeepsStencils root t t')
    (hholds : s.HoldsStencil t root names time) : s.HoldsStencil t' root names time := by
  obtain ⟨hname, ⟨hne, ⟨bytes, mode, hfile⟩, hentered, hsel, htime⟩, hkind⟩ := hholds
  obtain ⟨mode', hfile'⟩ := (h names hkind bytes time).mpr ⟨mode, hfile⟩
  exact ⟨hname, ⟨hne, ⟨bytes, mode', hfile'⟩, hentered, hsel, htime⟩, hkind⟩

end Settings

namespace Environment

theorem MadeFrom.mem_stencils_iff (h : env.MadeFrom t s) (ht : t.Sound)
    (hplace : t.place s.templateDir = .ok root) (f : TemplateFile) : f ∈ env.stencils ↔
      ∃ names time, s.HoldsStencil t root names time ∧ f = s.templateAt names :=
  (Settings.discover_spec ht hplace h.discover).2 f

theorem MadeFrom.sameStencils (h : env.MadeFrom t s) (h' : env'.MadeFrom t' s) (ht : t.Sound)
    (ht' : t'.Sound) (hplace : t.place s.templateDir = .ok root)
    (hplace' : t'.place s.templateDir = .ok root) (hkeeps : s.KeepsStencils root t t') :
    SameStencils t t' env env' := by
  refine ⟨fun g => ?_, fun g hg => ?_⟩
  · rw [h.mem_stencils_iff ht hplace, h'.mem_stencils_iff ht' hplace']
    constructor
    · rintro ⟨names, time, hholds, rfl⟩
      exact ⟨names, time, hkeeps.symm.holdsStencil hholds, rfl⟩
    · rintro ⟨names, time, hholds, rfl⟩
      exact ⟨names, time, hkeeps.holdsStencil hholds, rfl⟩
  · obtain ⟨names, time, ⟨-, hsel, hkind⟩, rfl⟩ := (h.mem_stencils_iff ht hplace g).mp hg
    obtain ⟨bytes, mode, hfile⟩ := hsel.file
    have hbytes : t.HasFile (root ++ names) bytes time := ⟨mode, hfile⟩
    exact Settings.readText_templateAt ht ht' hplace hplace' hsel.ne_nil ⟨time, hbytes⟩
      ⟨time, (hkeeps names hkind bytes time).mpr hbytes⟩

end Environment

end TemplateTree
