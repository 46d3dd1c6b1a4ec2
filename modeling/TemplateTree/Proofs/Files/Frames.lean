import TemplateTree.Proofs.Files.Alike

/-!
# What an operation leaves alone

An operation on a tree keeps the directories and links, and all files but those at
certain places.
-/

namespace TemplateTree.FileTree

/-- A tree that comes of another one by changes of files at certain places, and by new
directories. -/
structure ChangesOnly (P : Place → Prop) (t t' : FileTree) : Prop where
  sound : t'.Sound
  keeps : Keeps t.root t'.root
  current : t'.current = t.current
  file : ∀ q, ¬ P q → ∀ bytes time, t'.HasFile q bytes time ↔ t.HasFile q bytes time

variable {P Q : Place → Prop} {t t' t'' : FileTree} {p : Path} {q place : Place} {now : Instant}
  {bytes : Bytes} {spot : Spot} {root : Node} {links : Nat} {way : List Text}

theorem ChangesOnly.refl (ht : t.Sound) : ChangesOnly P t t :=
  ⟨ht, .refl _, rfl, fun _ _ _ _ => .rfl⟩

theorem ChangesOnly.trans (h : ChangesOnly P t t') (h' : ChangesOnly P t' t'') :
    ChangesOnly P t t'' :=
  ⟨h'.sound, h.keeps.trans h'.keeps, h'.current.trans h.current, fun q hq bytes time =>
    (h'.file q hq bytes time).trans (h.file q hq bytes time)⟩

theorem ChangesOnly.mono (h : ChangesOnly P t t') (hPQ : ∀ q, P q → Q q) : ChangesOnly Q t t' :=
  ⟨h.sound, h.keeps, h.current, fun q hq => h.file q fun hP => hq (hPQ q hP)⟩

theorem ChangesOnly.hasBytes_iff (h : ChangesOnly P t t') (hq : ¬ P q) :
    t'.HasBytes q bytes ↔ t.HasBytes q bytes :=
  exists_congr fun time => h.file q hq bytes time

/-! ## Operations -/

theorem hasFile_of_update {i : Item} {time : Instant} (hitem : ∀ r, t'.root.item? r =
    if r = place then some i else t.root.item? r) (hq : q ≠ place) :
    t'.HasFile q bytes time ↔ t.HasFile q bytes time := by
  unfold HasFile
  simp only [hitem, if_neg hq]

theorem changesOnly_of_write (ht : t.Sound) (h : t.write now p bytes = .ok t')
    (hspot : t.spot p = .ok spot) : ChangesOnly (· = spot.place) t t' := by
  have htouch := Touch.of_write ht h
  obtain ⟨-, spot', _, hspot', -, hitem⟩ := item?_of_write ht h
  obtain rfl : spot' = spot := Except.ok.inj (hspot'.symm.trans hspot)
  exact ⟨htouch.sound ht, htouch.keeps, htouch.current_eq,
    fun q hq bytes time => hasFile_of_update hitem hq⟩

/-- A file is put where there is none or another one. -/
theorem changesOnly_of_putFile {mode : Nat} (ht : t.Sound) (hopen : t.Open q)
    (hold : ∀ i, t.root.item? q = some i → ∃ old mode time, i = .file old mode time) :
    ChangesOnly (· = q) t (t.putAt q (.file bytes mode now)) := by
  have htouch : Touch now t (t.putAt q (.file bytes mode now)) := by
    cases hitem : t.root.item? q with
    | none => exact .create hopen hitem
    | some i =>
        obtain ⟨old, mode', time, rfl⟩ := hold i hitem
        exact .overwrite hopen hitem
  have hdir : t.root.item? q ≠ some .dir := fun hitem => by
    obtain ⟨_, _, _, hfile⟩ := hold _ hitem
    cases hfile
  exact ⟨htouch.sound ht, htouch.keeps, htouch.current_eq,
    fun r hr bytes time => hasFile_of_update (item?_putAt_file hopen hdir) hr⟩

/-- An empty directory is put where there is nothing. -/
theorem changesOnly_of_putDir (ht : t.Sound) (hopen : t.Open place)
    (hnone : t.root.item? place = none) : ChangesOnly P t (t.putAt place (.dir [])) := by
  have htouch : Touch 0 t (t.putAt place (.dir [])) := .makeDir hopen hnone
  have hitem : ∀ r, (t.putAt place (.dir [])).root.item? r =
      if r = place then some .dir else t.root.item? r := fun r =>
    Node.item?_put_leaf hopen.slot (by simp [hnone]) fun _ => Node.item?_dir_nil_of_ne_nil
  refine ⟨htouch.sound ht, htouch.keeps, htouch.current_eq, fun q hq bytes time => ?_⟩
  by_cases heq : q = place
  · unfold HasFile
    simp [hitem, heq, hnone]
  · exact hasFile_of_update hitem heq

theorem changesOnly_of_makeDir (ht : t.Sound) (h : t.makeDir p = .ok t') :
    ChangesOnly P t t' := by
  obtain ⟨place, hslot, rfl⟩ := makeDir_eq_ok h
  obtain ⟨hopen, hnone⟩ := ht.open_of_slotFor hslot
  exact changesOnly_of_putDir ht hopen hnone

/-- A file is taken away. -/
theorem changesOnly_of_erase {mode : Nat} {time : Instant} (ht : t.Sound)
    (hfile : t.root.item? q = some (.file bytes mode time)) :
    ChangesOnly (· = q) t { t with root := t.root.erase q } := by
  have hslot := (ht.open_of_item? hfile (by simp)).slot
  have hitem : ∀ r, (t.root.erase q).item? r = if r = q then none else t.root.item? r := by
    intro r
    rw [Node.item?_erase hslot]
    by_cases hr : r = q
    · rw [if_pos hr, if_pos (hr ▸ List.prefix_rfl)]
    · rw [if_neg hr]
      split
      case isTrue hpre =>
        -- there is nothing below a file
        obtain ⟨below, rfl⟩ := hpre
        have hbelow : below ≠ [] := fun h => hr (by simp [h])
        by_contra hsome
        have hdir := Node.item?_dir_of_append (Option.isSome_iff_ne_none.mpr (Ne.symm hsome)) hbelow
        simp [hfile] at hdir
      case isFalse => rfl
  refine ⟨⟨ht.root.erase, ?_⟩, ⟨fun r hr => ?_, fun r target => ?_⟩, rfl,
    fun r hr bytes time => ?_⟩
  · rw [hitem, if_neg fun h => by simp [h ▸ ht.current] at hfile]
    exact ht.current
  · rw [hitem, if_neg fun h => by simp [h ▸ hr] at hfile]
    exact hr
  · rw [hitem]
    split
    case isTrue heq => simp [heq, hfile]
    case isFalse => rfl
  · unfold HasFile
    rw [hitem, if_neg hr]

theorem changesOnly_makeDirs {fuel : Nat} (ht : t.Sound) :
    ChangesOnly P t (ending (t.makeDirs fuel p)) := by
  let R (t t' : FileTree) : Prop := t.Sound → ChangesOnly P t t'
  have hrel : R t (ending (t.makeDirs fuel p)) ∧ _ := rel_of_makeDirs (Q := fun _ => True)
    (fun t => .refl) (fun t₁ t₂ t₃ h h' ht => (h ht).trans (h' (h ht).sound))
    (fun _ _ _ _ => trivial) sound_of_makeDir (fun t p t' ht _ h _ => changesOnly_of_makeDir ht h)
    ht trivial
  exact hrel.1 ht

theorem changesOnly_of_makeDirs {fuel : Nat} (ht : t.Sound) (h : t.makeDirs fuel p = .ok t') :
    ChangesOnly P t t' := by
  have hmade : ChangesOnly P t (ending (t.makeDirs fuel p)) := changesOnly_makeDirs ht
  rwa [h] at hmade

theorem changesOnly_makeAllDirs (ht : t.Sound) :
    ChangesOnly P t (ending (t.makeAllDirs p)) :=
  changesOnly_makeDirs ht

theorem changesOnly_of_makeAllDirs (ht : t.Sound) (h : t.makeAllDirs p = .ok t') :
    ChangesOnly P t t' :=
  changesOnly_of_makeDirs ht h

theorem changesOnly_of_markExecutable (ht : t.Sound) (h : t.markExecutable p = .ok t') :
    ChangesOnly P t t' := by
  have htouches : Touches 0 t t' := Touches.of_markExecutable ht h
  refine ⟨htouches.sound ht, htouches.keeps, htouches.current_eq, fun q _ bytes time => ?_⟩
  obtain ⟨place, -, rfl | ⟨old, mode, made, hold, rfl⟩⟩ := markExecutable_eq_ok h
  · exact .rfl
  · have hopen := ht.open_of_item? hold (by simp)
    have hitem : ∀ r, (t.putAt place (.file old (mode ||| ownerExecute) made)).root.item? r =
        if r = place then some (.file old (mode ||| ownerExecute) made)
          else t.root.item? r := item?_putAt_file hopen (by simp [hold])
    by_cases heq : q = place
    · unfold HasFile
      simp [hitem, heq, hold]
    · exact hasFile_of_update hitem heq

/-! ## What stays -/

/-- A path leads to a file as long as the file is there. -/
theorem ChangesOnly.spot_found (h : ChangesOnly P t t') (ht : t.Sound)
    (hspot : t.spot p = .ok (.found q)) (hitem : t'.root.item? q ≠ none) :
    t'.spot p = .ok (.found q) := by
  have hkept := ht.spot_of_keeps hspot h.keeps h.current
  have hfound : spotAt t'.root (Spot.found q).place = .found q := by
    simp [spotAt, Spot.place, hitem]
  exact hfound ▸ hkept

theorem ChangesOnly.hasDir (h : ChangesOnly P t t') (ht : t.Sound) (hdir : t.hasDir p = true) :
    t'.hasDir p = true := by
  obtain ⟨q, hspot, hitem⟩ := hasDir_iff.mp hdir
  have hkept := h.keeps.dirs q hitem
  exact hasDir_iff.mpr ⟨q, h.spot_found ht hspot (by simp [hkept]), hkept⟩

/-! ## Directories that were made -/

/-- A way to a free name has no link in last place. -/
theorem Leads.last_of_free (h : Leads root false links place way spot) (hspot : spot = .free q) :
    Leads root true links place way spot := by
  induction h with
  | done => cases hspot
  | here _ ih => exact .here (ih hspot)
  | up _ ih => exact .up (ih hspot)
  | free hs hitem => exact .free hs hitem
  | dir hs hitem _ ih => exact .dir hs hitem (ih hspot)
  | file => cases hspot
  | stop => cases hspot
  | jump hs hitem _ htarget _ ih => exact .jump hs hitem (by simp) htarget (ih hspot)

/-- A path leads to the directory that was made for it. -/
theorem spot_of_makeDir (ht : t.Sound) (hslot : t.slotFor p = .ok place) :
    (t.putAt place (.dir [])).spot p = .ok (.found place) := by
  obtain ⟨name, hname, -, hspot⟩ := slotFor_eq_ok hslot
  obtain ⟨hopen, hnone⟩ := ht.open_of_slotFor hslot
  obtain ⟨hcheck, hfree⟩ := spotOf_eq_ok_iff.mp hspot
  have htouch : Touch 0 t (t.putAt place (.dir [])) := .makeDir hopen hnone
  have hway : wayToParent p ++ [name] = Path.parts p := List.dropLast_append_getLast? name hname
  rw [hway] at hfree
  have hdir : (t.putAt place (.dir [])).root.item? place = some .dir := by
    rw [item?_putAt_dir ht hslot, if_pos rfl]
  have hfound : Leads (t.putAt place (.dir [])).root true maxLinks
      (if Path.isAbsolute p then [] else t.current) (Path.parts p) (.found place) := by
    have hkept := (hfree.last_of_free rfl).keeps htouch.keeps (ht.item?_start p)
    simpa [spotAt, Spot.place, hdir] using hkept
  refine spotOf_eq_ok_iff.mpr ⟨hcheck, ?_⟩
  obtain hway | hway := wayOf_eq p
  · rw [hway]
    exact hfound
  · -- a slash at the end is followed by a dot from the new directory
    obtain ⟨left, hleft⟩ := hfound.follow_append hdir
    rw [hway]
    refine .of_follow ((hleft true [['.']] (.inr rfl)).trans ?_)
    exact (Leads.here .done).follow_eq_ok

theorem hasDir_of_makeDir (ht : t.Sound) (h : t.makeDir p = .ok t') : t'.hasDir p = true := by
  obtain ⟨place, hslot, rfl⟩ := makeDir_eq_ok h
  refine hasDir_iff.mpr ⟨place, spot_of_makeDir ht hslot, ?_⟩
  rw [item?_putAt_dir ht hslot, if_pos rfl]

theorem hasDir_of_makeAllDirs (ht : t.Sound) (h : t.makeAllDirs p = .ok t') (hp : p ≠ []) :
    t'.hasDir p = true := by
  rw [makeAllDirs, makeDirs, if_neg hp] at h
  split at h
  case h_1 t₁ hmake =>
    cases h
    exact hasDir_of_makeDir ht hmake
  case h_2 =>
    split at h
    case h_1 => cases h
    case h_2 above _ =>
      split at h
      case h_1 => cases h
      case h_2 t₁ habove =>
        have ht₁ : t₁.Sound := (changesOnly_of_makeDirs ht habove).sound (P := fun _ => False)
        split at h
        case h_1 t₂ hmake =>
          cases h
          exact hasDir_of_makeDir ht₁ hmake
        case h_2 =>
          split at h
          case isTrue hdir =>
            cases h
            exact hdir
          case isFalse => cases h
  case h_3 =>
    split at h
    case isTrue hdir =>
      cases h
      exact hdir
    case isFalse => cases h

/-! ## Where a path always leads -/

/-- A path leads to one place, if anywhere, as long as no link is changed. -/
def LeadsOnlyTo (t : FileTree) (p : Path) (q : Place) : Prop :=
  ∀ t' : FileTree, t'.current = t.current →
    (∀ r target, t'.root.item? r = some (.link target) ↔ t.root.item? r = some (.link target)) →
    ∀ spot, t'.spot p = .ok spot → spot.place = q

/-- A place to which a path leads, or would lead if other directories and files were there. -/
def MayLeadTo (t : FileTree) (p : Path) (q : Place) : Prop :=
  ∃ t' : FileTree, t'.current = t.current ∧
    (∀ r target, t'.root.item? r = some (.link target) ↔ t.root.item? r = some (.link target)) ∧
    ∃ spot, t'.spot p = .ok spot ∧ spot.place = q

theorem MayLeadTo.of_spot (h : t.spot p = .ok spot) : t.MayLeadTo p spot.place :=
  ⟨t, rfl, fun _ _ => .rfl, spot, h, rfl⟩

theorem mayLeadTo_iff_of_keeps (hkeeps : Keeps t.root t'.root) (hcurrent : t'.current = t.current) :
    t'.MayLeadTo p q ↔ t.MayLeadTo p q := by
  unfold MayLeadTo
  simp only [hcurrent, hkeeps.links]

theorem LeadsOnlyTo.eq (h : t.LeadsOnlyTo p q) (hq : t.MayLeadTo p place) : place = q := by
  obtain ⟨u, hcurrent, hlinks, spot, hspot, rfl⟩ := hq
  exact h u hcurrent hlinks spot hspot

theorem LeadsOnlyTo.of_spot (h : t.spot p = .ok spot) : t.LeadsOnlyTo p spot.place := by
  intro t' hcurrent hlinks spot' hspot'
  obtain ⟨-, hleads⟩ := spotOf_eq_ok_iff.mp h
  obtain ⟨-, hleads'⟩ := spotOf_eq_ok_iff.mp hspot'
  rw [hcurrent] at hleads'
  exact (hleads.place_eq hleads' hlinks).symm

theorem LeadsOnlyTo.changesOnly (h : t.LeadsOnlyTo p q) (hc : ChangesOnly P t t') :
    t'.LeadsOnlyTo p q :=
  fun u hcurrent hlinks => h u (hcurrent.trans hc.current) fun r target =>
    (hlinks r target).trans (hc.keeps.links r target)

theorem LeadsOnlyTo.place_eq (h : t.LeadsOnlyTo p q) (hspot : t.spot p = .ok spot) :
    spot.place = q :=
  h t rfl (fun _ _ => .rfl) spot hspot

end TemplateTree.FileTree
