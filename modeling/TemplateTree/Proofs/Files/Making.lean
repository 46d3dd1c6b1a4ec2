import TemplateTree.Proofs.Files.Frames

/-!
# Directories that are made on the way to a path

Making a directory with whatever is missing above it adds directories to a tree, each at
the place of the path or of one above it, and does nothing else.
-/

namespace TemplateTree

/-- From a path to those above it. -/
abbrev Path.Upwards : Path → Path → Prop :=
  Relation.ReflTransGen fun p above => Path.parent? p = some above

namespace FileTree

/-- A tree that comes of another one by new directories to which certain paths lead. -/
structure OnlyMakes (P : Path → Prop) (t t' : FileTree) : Prop where
  sound : t'.Sound
  current : t'.current = t.current
  item : ∀ q, t'.root.item? q = t.root.item? q ∨
    t.root.item? q = none ∧ t'.root.item? q = some .dir ∧ ∃ p, P p ∧ t'.place p = .ok q

variable {P Q : Path → Prop} {t t' t'' : FileTree} {p : Path} {q : Place} {i : Item}

theorem OnlyMakes.refl (ht : t.Sound) : OnlyMakes P t t :=
  ⟨ht, rfl, fun _ => .inl rfl⟩

theorem OnlyMakes.mono (h : OnlyMakes P t t') (hPQ : ∀ p, P p → Q p) : OnlyMakes Q t t' := by
  refine ⟨h.sound, h.current, fun q => ?_⟩
  rcases h.item q with hsame | ⟨hnone, hdir, p, hp, hplace⟩
  · exact .inl hsame
  · exact .inr ⟨hnone, hdir, p, hPQ p hp, hplace⟩

/-- What is there stays. -/
theorem OnlyMakes.item?_of_some (h : OnlyMakes P t t') (hi : t.root.item? q = some i) :
    t'.root.item? q = some i := by
  rcases h.item q with hsame | ⟨hnone, -⟩
  · exact hsame.trans hi
  · simp [hnone] at hi

/-- Files and links are the same as before. -/
theorem OnlyMakes.item?_iff (h : OnlyMakes P t t') (hne : i ≠ .dir) :
    t'.root.item? q = some i ↔ t.root.item? q = some i := by
  refine ⟨fun hi => ?_, h.item?_of_some⟩
  rcases h.item q with hsame | ⟨-, hdir, -⟩
  · exact hsame.symm.trans hi
  · exact absurd (Option.some.inj (hi.symm.trans hdir)) hne

theorem OnlyMakes.keeps (h : OnlyMakes P t t') : Keeps t.root t'.root :=
  ⟨fun _ => h.item?_of_some, fun _ _ => h.item?_iff (by simp)⟩

theorem OnlyMakes.changesOnly {R : Place → Prop} (h : OnlyMakes P t t') : ChangesOnly R t t' :=
  ⟨h.sound, h.keeps, h.current, fun _ _ _ _ => exists_congr fun _ => h.item?_iff (by simp)⟩

theorem OnlyMakes.trans (h : OnlyMakes P t t') (h' : OnlyMakes P t' t'') :
    OnlyMakes P t t'' := by
  refine ⟨h'.sound, h'.current.trans h.current, fun q => ?_⟩
  rcases h'.item q with hsame' | ⟨hnone', hdir', hmade'⟩
  · rcases h.item q with hsame | ⟨hnone, hdir, p, hp, hplace⟩
    · exact .inl (hsame'.trans hsame)
    · -- the path still leads to the directory that was made first
      have hkept := h.sound.place_of_keeps hplace hdir h'.keeps h'.current
      exact .inr ⟨hnone, hsame'.trans hdir, p, hp, hkept⟩
  · rcases h.item q with hsame | ⟨-, hdir, -⟩
    · exact .inr ⟨hsame.symm.trans hnone', hdir', hmade'⟩
    · simp [hdir] at hnone'

theorem onlyMakes_of_makeDir (ht : t.Sound) (hp : P p) (h : t.makeDir p = .ok t') :
    OnlyMakes P t t' := by
  obtain ⟨place, hslot, rfl⟩ := makeDir_eq_ok h
  obtain ⟨-, hnone⟩ := ht.open_of_slotFor hslot
  have hitem := item?_putAt_dir ht hslot
  refine ⟨sound_of_makeDir ht h, rfl, fun q => ?_⟩
  by_cases hq : q = place
  · subst hq
    refine .inr ⟨hnone, by rw [hitem, if_pos rfl], p, hp, ?_⟩
    exact place_eq_ok_iff.mpr (spot_of_makeDir ht hslot)
  · exact .inl (by rw [hitem, if_neg hq])

/-- Whether it is refused or not, only the path and those above it are made. -/
theorem onlyMakes_makeAllDirs (ht : t.Sound) :
    OnlyMakes (Path.Upwards p) t (ending (t.makeAllDirs p)) := by
  let R (t t' : FileTree) : Prop := t.Sound → OnlyMakes (Path.Upwards p) t t'
  have hrel : R t (ending (t.makeDirs (p.length + 1) p)) ∧ _ :=
    rel_of_makeDirs (R := R) (Q := Path.Upwards p) (fun _ => .refl)
      (fun _ _ _ h h' ht => (h ht).trans (h' (h ht).sound)) (fun _ _ hq habove => hq.tail habove)
      sound_of_makeDir (fun _ _ _ ht hq h _ => onlyMakes_of_makeDir ht hq h) ht .refl
  exact hrel.1 ht

end FileTree

end TemplateTree
