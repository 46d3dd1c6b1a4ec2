import TemplateTree.Proofs.Discovery.Canonical
import TemplateTree.Proofs.Environment.Loading
import TemplateTree.Proofs.Text.Cutting

/-!
# Templates and stencils

A file is a stencil if one of the names on the way to it is that of the stencil
directories.  The name of the file itself counts, though a walk leaves out directories of
that name only.
-/

namespace TemplateTree

theorem Text.splitBy_singleton (c : Char) (t : Text) :
    splitBy [c] t = splitWhere (· = c) t := by
  have hsep : [c] ≠ [] := List.cons_ne_nil c []
  induction t with
  | nil => rfl
  | cons x t ih =>
      by_cases hx : x = c
      · subst hx
        have hcut := splitBy_sep_append (b := t) hsep
        rw [List.singleton_append] at hcut
        simp [hcut, ih, splitWhere]
      · have hstart : ¬ [c] <+: x :: t := by
          intro hprefix
          exact hx (List.cons_prefix_cons.mp hprefix).1.symm
        simp [splitBy_cons hsep hstart, ih, splitWhere, hx]

namespace Settings

variable {s : Settings} {t : FileTree} {root : Place} {names : List Text} {time : Instant}
  {files : List TemplateFile} {o : WalkOptions} {f : TemplateFile} {cutoff : Option Nat}
  {set : TemplateSet}

/-- A regular file at the end of names. -/
def HasFileAt (t : FileTree) (root : Place) (names : List Text) : Prop :=
  names ≠ [] ∧ ∃ bytes mode time, t.root.item? (root ++ names) = some (.file bytes mode time)

/-- Names of which the last is that of the stencil directories, and no other is. -/
def IsNamesake (s : Settings) (names : List Text) : Prop :=
  ∃ above, names = above ++ [s.stencilDirName] ∧ s.stencilDirName ∉ above

/-- Names of which a pattern takes the last. -/
def Matches (s : Settings) (names : List Text) : Prop :=
  ∃ g ∈ s.includedPatterns, g.takes (names.getLastD []) = true

theorem HasFileAt.isName (h : HasFileAt t root names) (ht : t.Sound) : ∀ x ∈ names, x.IsName := by
  intro x hx
  obtain ⟨-, bytes, mode, time, hfile⟩ := h
  exact ht.root.isName_of_mem (Option.isSome_of_eq_some hfile) (List.mem_append_right _ hx)

theorem isStencil_templateAt_iff (hplace : t.place s.templateDir = .ok root)
    (henabled : s.stencilDirName ≠ []) (hne : names ≠ []) (h : ∀ x ∈ names, x.IsName) :
    (s.templateAt names).isStencil = true ↔ s.stencilDirName ∈ names := by
  have hname : (s.templateAt names).name = Text.joinWith ['/'] names :=
    name_templateAt hplace hne h
  have hsplit : Text.splitBy ['/'] (s.templateAt names).name = names := by
    rw [hname, Text.splitBy_singleton,
      Path.splitWhere_joinWith hne fun x hx => (h x hx).2.1]
  have hkind : (s.templateAt names).isStencil =
      TemplateFile.isStencilName (s.templateAt names).name s.stencilDirName := by
    unfold templateAt TemplateFile.ofPath TemplateFile.isStencil
    dsimp only
    split <;> simp_all
  rw [hkind, TemplateFile.isStencilName, hsplit]
  simp [henabled]

theorem nodup_of_filesBelow (ht : t.Sound) (hplace : t.place s.templateDir = .ok root)
    (hlinks : o.followLinks = false) (h : s.filesBelow t o = .ok files) : files.Nodup := by
  unfold filesBelow at h
  split at h
  case h_1 paths hpaths =>
    cases h
    have hnodup := Walk.nodup_of_walk ht.root.wellNamed hplace hlinks hpaths
    refine hnodup.map ?_
    intro p q hpq
    exact congrArg TemplateFile.path hpq
  case h_2 => cases h

/-- A renderable template lies in no stencil directory. -/
theorem holds_iff (henabled : s.stencilDirName ≠ []) : (∃ time, s.Holds t root names time) ↔
    HasFileAt t root names ∧ s.stencilDirName ∉ names.dropLast ∧ s.Matches names := by
  have hdirs : (s.walkOptions none).excludedDirs = [s.stencilDirName] := by
    simp [walkOptions, stencilName?, henabled]
  have hselects : (s.walkOptions none).selectsName (names.getLastD []) = true ↔
      s.Matches names := by
    simp [WalkOptions.selectsName, walkOptions, WalkOptions.matching, Matches]
  constructor
  · rintro ⟨time, hne, ⟨bytes, mode, hfile⟩, hentered, hname, -⟩
    refine ⟨⟨hne, bytes, mode, time, hfile⟩, fun hmem => ?_, hselects.mp hname⟩
    exact hentered _ hmem (by simp [hdirs])
  · rintro ⟨⟨hne, bytes, mode, time, hfile⟩, hmem, hmatches⟩
    refine ⟨time, hne, ⟨bytes, mode, hfile⟩, fun x hx => ?_, hselects.mpr hmatches, rfl⟩
    rw [hdirs, List.mem_singleton]
    rintro rfl
    exact hmem hx

theorem takes_any (name : Text) : Glob.takes ⟨['*'], [.anySequence]⟩ name = true := by
  unfold Glob.takes Glob.takesText
  induction name with
  | nil => rfl
  | cons c name ih => rw [Glob.someSuffix, ih, Bool.or_true]

/-- Stencils are taken whatever their names are, so long as one of them is that of the
stencil directories. -/
theorem holdsStencil_iff (ht : t.Sound) (hplace : t.place s.templateDir = .ok root)
    (henabled : s.stencilDirName ≠ []) : (∃ time, s.HoldsStencil t root names time) ↔
      HasFileAt t root names ∧ s.stencilDirName ∈ names := by
  constructor
  · rintro ⟨time, -, ⟨hne, ⟨bytes, mode, hfile⟩, -, -, -⟩, hkind⟩
    have hat : HasFileAt t root names := ⟨hne, bytes, mode, time, hfile⟩
    exact ⟨hat, (isStencil_templateAt_iff hplace henabled hne (hat.isName ht)).mp hkind⟩
  · rintro ⟨hat, hmem⟩
    have hkind := (isStencil_templateAt_iff hplace henabled hat.1 (hat.isName ht)).mpr hmem
    obtain ⟨hne, bytes, mode, time, hfile⟩ := hat
    have hname : stencilOptions.selectsName (names.getLastD []) = true := by
      simp [WalkOptions.selectsName, stencilOptions, WalkOptions.matching, takes_any]
    have hentered : ∀ x ∈ names.dropLast, x ∉ stencilOptions.excludedDirs := by
      simp [stencilOptions, WalkOptions.matching]
    refine ⟨time, ?_, ⟨hne, ⟨bytes, mode, hfile⟩, hentered, hname, rfl⟩, hkind⟩
    simp [stencilName?, henabled]

/-- Outside of the stencil directories only a namesake of theirs is a stencil. -/
theorem isNamesake_iff (hne : names ≠ []) :
    s.IsNamesake names ↔ s.stencilDirName ∈ names ∧ s.stencilDirName ∉ names.dropLast := by
  obtain ⟨above, name, rfl⟩ : ∃ above name, names = above ++ [name] :=
    ⟨names.dropLast, names.getLast hne, (List.dropLast_append_getLast hne).symm⟩
  rw [List.dropLast_concat]
  constructor
  · rintro ⟨above', heq, habove⟩
    obtain ⟨rfl, hname⟩ := List.append_inj' heq rfl
    obtain rfl : name = s.stencilDirName := by simpa using hname
    exact ⟨by simp, habove⟩
  · rintro ⟨hmem, habove⟩
    refine ⟨above, ?_, habove⟩
    rcases List.mem_append.mp hmem with hmem | hmem
    · exact absurd hmem habove
    · rw [List.mem_singleton.mp hmem]

end Settings

end TemplateTree
