import TemplateTree.Proofs.Files.Making

/-!
# Contents and rights

Trees that differ in the times of files only.  The rights of a file stay when it is
written once more, and its owner keeps the right to execute it whatever is done next.
-/

namespace TemplateTree

def Item.untimed : Item → Item
  | .file bytes mode _ => .file bytes mode 0
  | i => i

theorem Item.exists_of_untimed {i : Option Item} {bytes : Bytes} {mode : Nat}
    (h : i.map untimed = some (.file bytes mode 0)) : ∃ time, i = some (.file bytes mode time) := by
  rcases i with - | ⟨bytes', mode', time⟩ | target | -
  · cases h
  · cases h
    exact ⟨time, rfl⟩
  · cases h
  · cases h

/-- What an item is, apart from the time and the content of a file. -/
def Item.rights : Item → Item
  | .file _ mode _ => .file [] mode 0
  | i => i

namespace FileTree

def Executable (t : FileTree) (q : Place) : Prop :=
  ∃ bytes mode time, t.root.item? q = some (.file bytes mode time) ∧ mode ||| ownerExecute = mode

/-- Trees that differ in the times of files only, and at some places in their contents. -/
structure SameOff (P : Place → Prop) (t u : FileTree) : Prop where
  current : u.current = t.current
  rights : ∀ q, (u.root.item? q).map Item.rights = (t.root.item? q).map Item.rights
  untimed : ∀ q, ¬ P q → (u.root.item? q).map Item.untimed = (t.root.item? q).map Item.untimed

variable {P Q : Place → Prop} {t t' u u' : FileTree} {p : Path} {q r : Place} {now time : Instant}
  {old bytes : Bytes} {mode : Nat}

theorem SameOff.refl (P : Place → Prop) (t : FileTree) : SameOff P t t :=
  ⟨rfl, fun _ => rfl, fun _ _ => rfl⟩

theorem SameOff.sameShape (h : SameOff P t u) : SameShape t u := by
  refine ⟨h.current, fun q => ?_⟩
  have hshape : ∀ i : Option Item, (i.map Item.rights).map Item.shape = i.map Item.shape := by
    intro i
    rcases i with - | ⟨- | - | -⟩ <;> rfl
  rw [← hshape, h.rights, hshape]

theorem SameOff.exists_file (h : SameOff P t u)
    (hfile : t.root.item? q = some (.file bytes mode time)) :
    ∃ bytes' time', u.root.item? q = some (.file bytes' mode time') := by
  have hrights := h.rights q
  rw [hfile] at hrights
  cases hu : u.root.item? q with
  | none => simp [hu] at hrights
  | some i =>
      rw [hu] at hrights
      cases i with
      | file bytes' mode' time' =>
          obtain rfl : mode' = mode := by simpa [Item.rights] using hrights
          exact ⟨bytes', time', rfl⟩
      | dir | link => simp [Item.rights] at hrights

/-- A file with the rights it has, put in place of one whose content does not matter or is
the same. -/
theorem SameOff.update (h : SameOff P t u) (hcurrent : u'.current = u.current)
    (hold : t.root.item? q = some (.file old mode time))
    (hitem : ∀ r, u'.root.item? r =
      if r = q then some (.file bytes mode now) else u.root.item? r)
    (hP : ∀ r, ¬ Q r → r ≠ q → ¬ P r) (hbytes : ¬ Q q → old = bytes) : SameOff Q t u' := by
  refine ⟨hcurrent.trans h.current, fun r => ?_, fun r hr => ?_⟩
  · rw [hitem]
    split
    case isTrue heq =>
      rw [heq, hold]
      rfl
    case isFalse => exact h.rights r
  · rw [hitem]
    split
    case isTrue heq =>
      subst heq
      rw [hold, hbytes hr]
      rfl
    case isFalse hne => exact h.untimed r (hP r hr hne)

/-! ## Writing and marking once more -/

/-- A file that is there keeps its rights when it is written. -/
theorem item?_of_rewrite (ht : t.Sound) (hspot : t.spot p = .ok (.found q))
    (hold : t.root.item? q = some (.file old mode time)) (h : t.write now p bytes = .ok t') :
    ∀ r, t'.root.item? r = if r = q then some (.file bytes mode now) else t.root.item? r := by
  obtain ⟨-, spot, mode', hspot', rfl, hkind⟩ := write_eq_ok h
  obtain rfl : spot = .found q := Except.ok.inj (hspot'.symm.trans hspot)
  rcases hkind with ⟨hfree, -⟩ | ⟨old', time', -, hold'⟩
  · cases hfree
  · obtain ⟨rfl, rfl, rfl⟩ := Item.file.inj (Option.some.inj (hold'.symm.trans hold))
    exact item?_putAt_file (ht.open_of_item? hold' (by simp)) (by simp [hold'])

theorem item?_of_markExecutable (ht : t.Sound) (hplace : t.place p = .ok q)
    (hold : t.root.item? q = some (.file bytes mode time)) (h : t.markExecutable p = .ok t') :
    ∀ r, t'.root.item? r =
      if r = q then some (.file bytes (mode ||| ownerExecute) time) else t.root.item? r := by
  have hget : t.root.get? q = some (.file bytes mode time) := by
    rw [Node.item?, Option.map_eq_some_iff] at hold
    obtain ⟨n, hn, hitem⟩ := hold
    cases n <;> simp_all [Node.item]
  unfold markExecutable at h
  simp only [hplace, bind, Except.bind, hget] at h
  obtain rfl := Except.ok.inj h
  exact item?_putAt_file (ht.open_of_item? hold (by simp)) (by simp [hold])

/-! ## The right to execute -/

theorem executable_of_write (ht : t.Sound) (h : t.write now p bytes = .ok t')
    (hq : t.Executable q) : t'.Executable q := by
  obtain ⟨old, mode, time, hold, hmode⟩ := hq
  obtain ⟨-, spot, mode', hspot, -, hitem⟩ := item?_of_write ht h
  by_cases heq : q = spot.place
  · obtain rfl : spot = .found q := by
      rw [ht.spotOf_eq hspot, ← heq]
      simp [spotAt, hold]
    refine ⟨bytes, mode, now, ?_, hmode⟩
    rw [item?_of_rewrite ht hspot hold h, if_pos rfl]
  · refine ⟨old, mode, time, ?_, hmode⟩
    rw [hitem, if_neg heq, hold]

theorem executable_of_markExecutable (ht : t.Sound) (h : t.markExecutable p = .ok t')
    (hq : t.Executable q) : t'.Executable q := by
  obtain ⟨old, mode, time, hold, hmode⟩ := hq
  obtain ⟨place, hplace, hsame | ⟨bytes, mode', time', hfile, -⟩⟩ := markExecutable_eq_ok h
  · exact hsame ▸ ⟨old, mode, time, hold, hmode⟩
  · have hitem := item?_of_markExecutable ht hplace hfile h
    by_cases heq : q = place
    · refine ⟨bytes, mode' ||| ownerExecute, time', by rw [hitem, if_pos heq], ?_⟩
      rw [Nat.or_assoc, Nat.or_self]
    · exact ⟨old, mode, time, by rw [hitem, if_neg heq, hold], hmode⟩

/-- The owner may execute what was marked. -/
theorem executable_of_marked (ht : t.Sound) (hplace : t.place p = .ok q)
    (hold : t.root.item? q = some (.file bytes mode time)) (h : t.markExecutable p = .ok t') :
    t'.Executable q := by
  refine ⟨bytes, mode ||| ownerExecute, time, ?_, by rw [Nat.or_assoc, Nat.or_self]⟩
  rw [item?_of_markExecutable ht hplace hold h, if_pos rfl]

theorem executable_of_makeAllDirs (ht : t.Sound) (h : t.makeAllDirs p = .ok t')
    (hq : t.Executable q) : t'.Executable q := by
  have hmade : OnlyMakes (Path.Upwards p) t (ending (t.makeAllDirs p)) := onlyMakes_makeAllDirs ht
  rw [h] at hmade
  obtain ⟨bytes, mode, time, hold, hmode⟩ := hq
  exact ⟨bytes, mode, time, hmade.item?_of_some hold, hmode⟩

end FileTree

end TemplateTree
