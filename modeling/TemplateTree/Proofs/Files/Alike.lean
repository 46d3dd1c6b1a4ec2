import TemplateTree.Proofs.Files.Shapes

/-!
# Trees with the same contents

What is done to a tree can be done to one with the same contents, whatever the rights
and times of its files are, and leaves trees with the same contents again.
-/

namespace TemplateTree.FileTree

def HasFile (t : FileTree) (q : Place) (bytes : Bytes) (time : Instant) : Prop :=
  ∃ mode, t.root.item? q = some (.file bytes mode time)

def HasBytes (t : FileTree) (q : Place) (bytes : Bytes) : Prop :=
  ∃ time, t.HasFile q bytes time

/-- Trees of one shape whose files, but for those of some places, have the same contents. -/
structure AlikeOff (P : Place → Prop) (t u : FileTree) : Prop where
  shape : SameShape t u
  content : ∀ q, ¬ P q → ∀ bytes, u.HasBytes q bytes ↔ t.HasBytes q bytes

/-- Trees with the same contents. -/
abbrev Alike : FileTree → FileTree → Prop :=
  AlikeOff fun _ => False

variable {P Q : Place → Prop} {t u v t' u' : FileTree} {p : Path} {q place : Place}
  {now later : Instant} {bytes bytes' : Bytes}

theorem HasBytes.inj (h : t.HasBytes q bytes) (h' : t.HasBytes q bytes') : bytes = bytes' := by
  obtain ⟨_, _, h⟩ := h
  obtain ⟨_, _, h'⟩ := h'
  exact (Item.file.inj (Option.some.inj (h.symm.trans h'))).1

theorem HasBytes.iff_eq (h : t.HasBytes q bytes) : t.HasBytes q bytes' ↔ bytes' = bytes :=
  ⟨fun h' => h'.inj h, fun heq => heq ▸ h⟩

theorem AlikeOff.refl (P : Place → Prop) (t : FileTree) : AlikeOff P t t :=
  ⟨.refl t, fun _ _ _ => .rfl⟩

theorem AlikeOff.symm (h : AlikeOff P t u) : AlikeOff P u t :=
  ⟨h.shape.symm, fun q hq bytes => (h.content q hq bytes).symm⟩

theorem AlikeOff.trans (h : AlikeOff P t u) (h' : AlikeOff P u v) : AlikeOff P t v :=
  ⟨h.shape.trans h'.shape, fun q hq bytes => (h'.content q hq bytes).trans (h.content q hq bytes)⟩

theorem AlikeOff.mono (h : AlikeOff P t u) (hPQ : ∀ q, P q → Q q) : AlikeOff Q t u :=
  ⟨h.shape, fun q hq => h.content q fun hP => hq (hPQ q hP)⟩

/-! ## One change to each tree -/

theorem hasBytes_of_update {i : Item} (hitem : ∀ r, t'.root.item? r =
    if r = place then some i else t.root.item? r) :
    t'.HasBytes q bytes ↔ if q = place then ∃ mode time, i = .file bytes mode time
      else t.HasBytes q bytes := by
  unfold HasBytes HasFile
  simp only [hitem]
  split
  · constructor
    · rintro ⟨time, mode, h⟩
      exact ⟨mode, time, Option.some.inj h⟩
    · rintro ⟨mode, time, rfl⟩
      exact ⟨time, mode, rfl⟩
  · rfl

theorem SameShape.update (h : SameShape t u) {i j : Item} (hcurrent : t'.current = t.current)
    (hcurrent' : u'.current = u.current)
    (hitem : ∀ r, t'.root.item? r = if r = place then some i else t.root.item? r)
    (hitem' : ∀ r, u'.root.item? r = if r = place then some j else u.root.item? r)
    (hshape : j.shape = i.shape) : SameShape t' u' := by
  refine ⟨by rw [hcurrent, hcurrent', h.current], fun r => ?_⟩
  rw [hitem, hitem']
  split
  · simp [hshape]
  · exact h.shape r

/-- The same put at the same place. -/
theorem AlikeOff.update (h : AlikeOff P t u) {i j : Item} (hcurrent : t'.current = t.current)
    (hcurrent' : u'.current = u.current)
    (hitem : ∀ r, t'.root.item? r = if r = place then some i else t.root.item? r)
    (hitem' : ∀ r, u'.root.item? r = if r = place then some j else u.root.item? r)
    (hshape : j.shape = i.shape) (hbytes : ∀ bytes, (∃ mode time, j = .file bytes mode time) ↔
      ∃ mode time, i = .file bytes mode time) : AlikeOff P t' u' := by
  refine ⟨h.shape.update hcurrent hcurrent' hitem hitem' hshape, fun q hq bytes => ?_⟩
  rw [hasBytes_of_update hitem, hasBytes_of_update hitem']
  split
  · exact hbytes bytes
  · exact h.content q hq bytes

/-! ## Writing -/

theorem AlikeOff.write (h : AlikeOff P t u) (ht : t.Sound) (hu : u.Sound) (later : Instant)
    (hwrite : t.write now p bytes = .ok t') :
    ∃ u', u.write later p bytes = .ok u' ∧ AlikeOff P t' u' := by
  obtain ⟨hdir, spot, mode, hspot, -, hitem⟩ := item?_of_write ht hwrite
  obtain ⟨-, spot', _, hspot', -, hkind⟩ := write_eq_ok hwrite
  obtain rfl : spot' = spot := Except.ok.inj (hspot'.symm.trans hspot)
  have hspotU : u.spot p = .ok spot' := h.shape.spot_eq.trans hspot
  obtain ⟨u', hu'⟩ : ∃ u', u.write later p bytes = .ok u' := by
    refine exists_write hdir hspotU fun q hq => ?_
    obtain ⟨hfree, -⟩ | ⟨old, time, hfound, hold⟩ := hkind
    · exact absurd (hfree.symm.trans hq) (by simp)
    · obtain rfl : spot'.place = q := Spot.found.inj (hfound.symm.trans hq)
      exact h.shape.exists_file ⟨_, _, _, hold⟩
  refine ⟨u', hu', ?_⟩
  obtain ⟨-, spot'', mode', hspot'', -, hitem'⟩ := item?_of_write hu hu'
  obtain rfl : spot'' = spot' := Except.ok.inj (hspot''.symm.trans hspotU)
  have hcurrent := (Touch.of_write ht hwrite).current_eq
  have hcurrent' := (Touch.of_write hu hu').current_eq
  exact h.update hcurrent hcurrent' hitem hitem' rfl fun bytes => by simp

/-- Writing to a file changes nothing but its content. -/
theorem alikeOff_of_write (ht : t.Sound) (hspot : t.spot p = .ok (.found q))
    (hfile : t.HasBytes q bytes') (h : t.write now p bytes = .ok t') :
    AlikeOff (· = q) t t' := by
  obtain ⟨time, mode', hold⟩ := hfile
  obtain ⟨-, spot, mode, hspot', -, hitem⟩ := item?_of_write ht h
  obtain rfl : spot = .found q := Except.ok.inj (hspot'.symm.trans hspot)
  have hcurrent := (Touch.of_write ht h).current_eq
  refine ⟨(SameShape.refl t).update rfl hcurrent (item?_eq_ite hold) hitem rfl, fun r hr b => ?_⟩
  rw [hasBytes_of_update hitem]
  exact iff_of_eq (if_neg hr)

/-! ## Rights -/

theorem exists_markExecutable (hplace : t.place p = .ok place) :
    ∃ t', t.markExecutable p = .ok t' := by
  unfold markExecutable
  rw [hplace]
  simp only [bind, Except.bind]
  split
  · exact ⟨_, rfl⟩
  · exact ⟨_, rfl⟩

/-- Rights are not part of the contents. -/
theorem alike_of_markExecutable (ht : t.Sound) (h : t.markExecutable p = .ok t') :
    Alike t t' := by
  obtain ⟨place, -, rfl | ⟨bytes, mode, time, hold, rfl⟩⟩ := markExecutable_eq_ok h
  · exact .refl _ _
  · have hopen := ht.open_of_item? hold (by simp)
    have hitem : ∀ r, (t.putAt place (.file bytes (mode ||| ownerExecute) time)).root.item? r =
        if r = place then some (.file bytes (mode ||| ownerExecute) time)
          else t.root.item? r := item?_putAt_file hopen (by simp [hold])
    exact (AlikeOff.refl _ t).update rfl rfl (item?_eq_ite hold) hitem rfl fun bytes => by simp

theorem AlikeOff.markExecutable (h : AlikeOff P t u) (ht : t.Sound) (hu : u.Sound)
    (hmark : t.markExecutable p = .ok t') :
    ∃ u', u.markExecutable p = .ok u' ∧ AlikeOff P t' u' := by
  obtain ⟨place, hplace, -⟩ := markExecutable_eq_ok hmark
  have hplaceU : u.place p = .ok place := h.shape.place_eq.trans hplace
  obtain ⟨u', hu'⟩ := exists_markExecutable hplaceU
  have hfirst := (alike_of_markExecutable ht hmark).mono (fun _ => False.elim) (Q := P)
  have hlast := (alike_of_markExecutable hu hu').mono (fun _ => False.elim) (Q := P)
  exact ⟨u', hu', hfirst.symm.trans (h.trans hlast)⟩

/-! ## Directories -/

theorem item?_putAt_dir (ht : t.Sound) (h : t.slotFor p = .ok place) : ∀ r,
    (t.putAt place (.dir [])).root.item? r = if r = place then some .dir else t.root.item? r := by
  obtain ⟨hopen, hnone⟩ := ht.open_of_slotFor h
  exact fun r => Node.item?_put_leaf hopen.slot (by simp [hnone]) fun _ =>
    Node.item?_dir_nil_of_ne_nil

/-- Two trees, alike, or two errors in a relation. -/
def SameResult {ε : Type} (E : ε → ε → Prop) (P : Place → Prop) :
    Except ε FileTree → Except ε FileTree → Prop
  | .ok t, .ok u => AlikeOff P t u
  | .error e, .error e' => E e e'
  | _, _ => False

theorem SameResult.cases {ε : Type} {E : ε → ε → Prop} {x y : Except ε FileTree}
    (h : SameResult E P x y) : (∃ e e', x = .error e ∧ y = .error e' ∧ E e e') ∨
      ∃ t u, x = .ok t ∧ y = .ok u ∧ AlikeOff P t u := by
  cases x with
  | error e =>
      cases y with
      | error e' => exact .inl ⟨e, e', rfl, rfl, h⟩
      | ok u => exact h.elim
  | ok t =>
      cases y with
      | error e => exact h.elim
      | ok u => exact .inr ⟨t, u, rfl, rfl, h⟩

theorem AlikeOff.makeDir (h : AlikeOff P t u) (ht : t.Sound) (hu : u.Sound) :
    SameResult Eq P (t.makeDir p) (u.makeDir p) := by
  have hslotU : u.slotFor p = t.slotFor p := h.shape.slotFor_eq
  rw [makeDir_eq, makeDir_eq]
  cases hslot : t.slotFor p with
  | error e =>
      rw [hslotU, hslot]
      exact rfl
  | ok place =>
      rw [hslotU, hslot]
      have hitem := item?_putAt_dir ht hslot
      have hitem' := item?_putAt_dir hu (hslotU.trans hslot)
      exact h.update rfl rfl hitem hitem' rfl fun bytes => by simp

/-- The same error twice, with trees that are alike. -/
def SameRefusal (P : Place → Prop) (e e' : FileError × FileTree) : Prop :=
  e.1 = e'.1 ∧ AlikeOff P e.2 e'.2

theorem AlikeOff.orHasDir (h : AlikeOff P t u) (e : FileError) :
    SameResult (SameRefusal P) P (if t.hasDir p then .ok t else .error (e, t))
      (if u.hasDir p then .ok u else .error (e, u)) := by
  rw [h.shape.hasDir_eq]
  split
  · exact h
  · exact ⟨rfl, h⟩

theorem AlikeOff.makeDirs {fuel : Nat} (h : AlikeOff P t u) (ht : t.Sound) (hu : u.Sound) :
    SameResult (SameRefusal P) P (t.makeDirs fuel p) (u.makeDirs fuel p) := by
  induction fuel generalizing t u p with
  | zero => exact ⟨rfl, h⟩
  | succ fuel ih =>
      unfold FileTree.makeDirs
      split
      case isTrue => exact h
      case isFalse =>
        obtain ⟨e, _, hT, hU, rfl⟩ | ⟨t₁, u₁, hT, hU, hmade⟩ := (h.makeDir ht hu (p := p)).cases
        · rw [hT, hU]
          cases e with
          | notFound =>
              cases Path.parent? p with
              | none => exact ⟨rfl, h⟩
              | some above =>
                  dsimp only
                  obtain ⟨e, e', hT, hU, hsame⟩ | ⟨t₁, u₁, hT, hU, habove⟩ :=
                    (ih h ht hu (p := above)).cases
                  · rw [hT, hU]
                    exact hsame
                  · rw [hT, hU]
                    have ht₁ := sound_of_makeDirs ht hT
                    have hu₁ := sound_of_makeDirs hu hU
                    dsimp only
                    obtain ⟨e, _, hT, hU, rfl⟩ | ⟨t₂, u₂, hT, hU, hmade⟩ :=
                      (habove.makeDir ht₁ hu₁ (p := p)).cases
                    · rw [hT, hU]
                      exact habove.orHasDir e
                    · rw [hT, hU]
                      exact hmade
          | _ => exact h.orHasDir _
        · rw [hT, hU]
          exact hmade

theorem AlikeOff.makeAllDirs (h : AlikeOff P t u) (ht : t.Sound) (hu : u.Sound)
    (hmake : t.makeAllDirs p = .ok t') :
    ∃ u', u.makeAllDirs p = .ok u' ∧ AlikeOff P t' u' := by
  obtain ⟨e, e', hT, -⟩ | ⟨t₁, u₁, hT, hU, hmade⟩ := (h.makeDirs ht hu (p := p)).cases
  · exact absurd (hT.symm.trans hmake) (by simp)
  · obtain rfl : t₁ = t' := Except.ok.inj (hT.symm.trans hmake)
    exact ⟨u₁, hU, hmade⟩

end TemplateTree.FileTree
