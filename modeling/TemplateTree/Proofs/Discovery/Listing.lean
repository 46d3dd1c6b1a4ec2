import TemplateTree.Proofs.Discovery.Candidates
import TemplateTree.Proofs.Files.Shapes

/-!
# What a walk depends on

A walk that passes over links sees the names below its directory, what is there, and the
times of the files.  It does not see what is in the files, nor, without a cutoff, their
times.
-/

namespace TemplateTree

/-- What a listing tells of an item. -/
def Item.listed : Item → Item
  | .file _ _ time => .file [] 0 time
  | i => i

theorem Item.eq_dir_iff_of_listed {i i' : Option Item} (h : i'.map listed = i.map listed) :
    i' = some .dir ↔ i = some .dir := by
  have hlisted : ∀ j : Option Item, j.map listed = some .dir ↔ j = some .dir := by
    intro j
    rcases j with - | ⟨- | - | -⟩ <;> simp [listed]
  rw [← hlisted, ← hlisted i, h]

namespace WalkOptions.Picks

variable {o : WalkOptions} {c c' : Contents} {names : List Text}

theorem of_listed (h : (c' names).map Item.listed = (c names).map Item.listed)
    (hpicks : o.Picks c names) : o.Picks c' names := by
  obtain ⟨above, name, heq, habove, hitem⟩ := hpicks
  refine ⟨above, name, heq, habove, ?_⟩
  cases hc : c names with
  | none => simp [hc] at hitem
  | some i =>
      cases hc' : c' names with
      | none => simp [hc, hc'] at h
      | some i' => cases i <;> cases i' <;> simp_all [Item.listed]

theorem of_shape (hcutoff : o.modifiedAfter = none)
    (h : (c' names).map Item.shape = (c names).map Item.shape) (hpicks : o.Picks c names) :
    o.Picks c' names := by
  obtain ⟨above, name, heq, habove, hitem⟩ := hpicks
  refine ⟨above, name, heq, habove, ?_⟩
  cases hc : c names with
  | none => simp [hc] at hitem
  | some i =>
      cases hc' : c' names with
      | none => simp [hc, hc'] at h
      | some i' => cases i <;> cases i' <;> simp_all [Item.shape]

end WalkOptions.Picks

section

variable {t u : FileTree} {o : WalkOptions} {dir : Path} {root : Place}

/-- What a walk finds depends on what is listed below its directory only. -/
theorem walk_of_sameListing (ht : t.root.WellNamed) (hu : u.root.WellNamed)
    (hplace : t.place dir = .ok root) (hplace' : u.place dir = .ok root)
    (hlinks : o.followLinks = false)
    (h : ∀ names, (u.root.item? (root ++ names)).map Item.listed =
      (t.root.item? (root ++ names)).map Item.listed) : walk u dir o = walk t dir o := by
  refine walk_congr ht hu hplace hplace' hlinks (fun names => ?_) fun names => ?_
  · exact Item.eq_dir_iff_of_listed (h names)
  · exact ⟨.of_listed (h names).symm, .of_listed (h names)⟩

/-- Without a cutoff, a walk sees the shape of a tree only. -/
theorem walk_of_sameShape (ht : t.root.WellNamed) (hu : u.root.WellNamed)
    (h : FileTree.SameShape t u) (hlinks : o.followLinks = false)
    (hcutoff : o.modifiedAfter = none) : walk u dir o = walk t dir o := by
  have hplace : u.place dir = t.place dir := h.place_eq
  cases hroot : t.place dir with
  | error e => rw [walk, walk, Walk.all, Walk.all, hplace, hroot]
  | ok root =>
      refine walk_congr ht hu hroot (hplace.trans hroot) hlinks (fun names => ?_) fun names => ?_
      · exact h.item?_eq_dir_iff
      · have hshape := h.shape (root ++ names)
        exact ⟨.of_shape hcutoff hshape.symm, .of_shape hcutoff hshape⟩

end

namespace Settings

variable {s : Settings} {t u : FileTree} {root : Place}

/-- What is selected depends on what is listed below the template directory only. -/
theorem candidates_of_sameListing (ht : t.Sound) (hu : u.Sound)
    (hplace : t.place s.templateDir = .ok root) (hplace' : u.place s.templateDir = .ok root)
    (h : ∀ names, (u.root.item? (root ++ names)).map Item.listed =
      (t.root.item? (root ++ names)).map Item.listed) (cutoff : Option Nat) :
    s.candidates u cutoff = s.candidates t cutoff := by
  rw [candidates, candidates, filesBelow, filesBelow,
    walk_of_sameListing ht.root.wellNamed hu.root.wellNamed hplace hplace' rfl h]

/-- What is discovered does not depend on what is in the files, nor on their times. -/
theorem discover_of_sameShape (ht : t.Sound) (hu : u.Sound) (h : FileTree.SameShape t u) :
    s.discover u = s.discover t := by
  have hwalk : ∀ o : WalkOptions, o.followLinks = false → o.modifiedAfter = none →
      s.filesBelow u o = s.filesBelow t o := by
    intro o hlinks hcutoff
    rw [filesBelow, filesBelow,
      walk_of_sameShape ht.root.wellNamed hu.root.wellNamed h hlinks hcutoff]
  unfold discover candidates
  rw [hwalk (s.walkOptions none) rfl rfl, hwalk _ rfl rfl]

end Settings

end TemplateTree
