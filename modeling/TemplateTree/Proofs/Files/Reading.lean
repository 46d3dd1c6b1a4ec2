import TemplateTree.Proofs.Files.Touching

/-!
# Reading files

What is read is what is at the place that a path leads to, and what was written to a
path is read from it.
-/

namespace TemplateTree.FileTree

variable {t t' : FileTree} {p : Path} {q : Place} {now : Instant} {bytes : Bytes} {mode : Nat}
  {time : Instant}

theorem readBytes_of_item? (hspot : t.spot p = .ok (.found q))
    (hitem : t.root.item? q = some (.file bytes mode time)) : t.readBytes p = .ok bytes := by
  rw [Node.item?, Option.map_eq_some_iff] at hitem
  obtain ⟨n, hn, hitem⟩ := hitem
  have hnode : t.node p = .ok n := by
    simp [node, hspot, nodeAt, hn, bind, Except.bind]
  cases n with
  | file b m τ =>
      obtain ⟨rfl, -, -⟩ : b = bytes ∧ m = mode ∧ τ = time := by simpa [Node.item] using hitem
      simp [readBytes, hnode, bind, Except.bind, pure, Except.pure]
  | link target => simp [Node.item] at hitem
  | dir es => simp [Node.item] at hitem

/-- A text that is read is that of a file. -/
theorem exists_of_readBytes (h : t.readBytes p = .ok bytes) : ∃ q mode time,
    t.spot p = .ok (.found q) ∧ t.root.item? q = some (.file bytes mode time) := by
  unfold readBytes node at h
  cases hspot : t.spot p with
  | error e => simp [hspot, bind, Except.bind] at h
  | ok spot =>
      cases spot with
      | free q => simp [hspot, nodeAt, bind, Except.bind] at h
      | found q =>
          cases hget : t.root.get? q with
          | none => simp [hspot, nodeAt, hget, bind, Except.bind] at h
          | some n =>
              cases n with
              | file b m τ =>
                  obtain rfl : b = bytes := by
                    simpa [hspot, nodeAt, hget, bind, Except.bind, pure, Except.pure] using h
                  exact ⟨q, m, τ, rfl, by simp [Node.item?, hget, Node.item]⟩
              | link target => simp [hspot, nodeAt, hget, bind, Except.bind] at h
              | dir es => simp [hspot, nodeAt, hget, bind, Except.bind] at h

theorem readText_of_readBytes (h : t.readBytes p = .ok bytes) :
    t.readText p = match Text.ofBytes? bytes with
      | some text => .ok text
      | none => .error .notText := by
  unfold readText
  simp only [h, bind, Except.bind]
  cases Text.ofBytes? bytes <;> rfl

theorem exists_of_readText {text : Text} (h : t.readText p = .ok text) :
    ∃ bytes, t.readBytes p = .ok bytes ∧ Text.ofBytes? bytes = some text := by
  cases hbytes : t.readBytes p with
  | error e => simp [readText, hbytes, bind, Except.bind] at h
  | ok bytes =>
      rw [readText_of_readBytes hbytes] at h
      split at h
      case h_1 heq => exact ⟨bytes, rfl, by rwa [Except.ok.inj h] at heq⟩
      case h_2 => cases h

/-! ## Writing -/

theorem item?_putAt_file (hopen : t.Open q) (hdir : t.root.item? q ≠ some .dir) :
    ∀ r, (t.putAt q (.file bytes mode now)).root.item? r =
      if r = q then some (.file bytes mode now) else t.root.item? r :=
  fun _ => Node.item?_put_leaf hopen.slot hdir fun _ => Node.item?_file_of_ne_nil

/-- What is at a place, told as if it had been put there. -/
theorem item?_eq_ite {i : Item} (h : t.root.item? q = some i) (r : Place) :
    t.root.item? r = if r = q then some i else t.root.item? r := by
  split
  case isTrue heq => rw [heq, h]
  case isFalse => rfl

/-- A file that is written is new where its path leads, and nothing else is. -/
theorem item?_of_write (ht : t.Sound) (h : t.write now p bytes = .ok t') :
    namesDir p = false ∧ ∃ spot mode, t.spot p = .ok spot ∧
      t.root.item? spot.place ≠ some .dir ∧ ∀ r, t'.root.item? r =
        if r = spot.place then some (.file bytes mode now) else t.root.item? r := by
  obtain ⟨hdir, spot, mode, hspot, rfl, hkind⟩ := write_eq_ok h
  have hopen : t.Open spot.place ∧ t.root.item? spot.place ≠ some .dir := by
    obtain ⟨hfree, -⟩ | ⟨old, time, -, hitem⟩ := hkind
    · rw [hfree] at hspot
      obtain ⟨hopen, hnone⟩ := ht.open_of_free hspot fun s hs => mem_wayOf hs
      exact ⟨hopen, by simp [hnone]⟩
    · exact ⟨ht.open_of_item? hitem (by simp), by simp [hitem]⟩
  exact ⟨hdir, spot, mode, hspot, hopen.2, item?_putAt_file hopen.1 hopen.2⟩

/-- A file is written where a path leads to a file or to a free name. -/
theorem exists_write (hdir : namesDir p = false) {spot : Spot} (hspot : t.spot p = .ok spot)
    (hfile : ∀ q, spot = .found q → ∃ bytes mode time,
      t.root.item? q = some (.file bytes mode time)) : ∃ t', t.write now p bytes = .ok t' := by
  unfold write
  rw [hdir, hspot]
  cases spot with
  | free q => exact ⟨_, rfl⟩
  | found q =>
      obtain ⟨old, mode, time, hitem⟩ := hfile q rfl
      rw [Node.item?, Option.map_eq_some_iff] at hitem
      obtain ⟨n, hn, hitem⟩ := hitem
      cases n with
      | file b m τ =>
          refine ⟨t.putAt q (.file bytes m now), ?_⟩
          simp [bind, Except.bind, hn, pure, Except.pure]
      | link target => simp [Node.item] at hitem
      | dir es => simp [Node.item] at hitem

theorem spot_after_write {spot : Spot} (ht : t.Sound) (h : t.write now p bytes = .ok t')
    (hspot : t.spot p = .ok spot) : ∃ mode, t'.spot p = .ok (.found spot.place) ∧
      t'.root.item? spot.place = some (.file bytes mode now) := by
  have htouch := Touch.of_write ht h
  obtain ⟨-, spot', mode, hspot', -, hitem⟩ := item?_of_write ht h
  obtain rfl : spot' = spot := Except.ok.inj (hspot'.symm.trans hspot)
  have hfile : t'.root.item? spot'.place = some (.file bytes mode now) := by
    rw [hitem, if_pos rfl]
  have hkept := ht.spot_of_keeps hspot htouch.keeps htouch.current_eq
  have hfound : spotAt t'.root spot'.place = .found spot'.place := by simp [spotAt, hfile]
  exact ⟨mode, hfound ▸ hkept, hfile⟩

theorem spot_of_write (ht : t.Sound) (h : t.write now p bytes = .ok t') : ∃ q mode,
    t'.spot p = .ok (.found q) ∧ t'.root.item? q = some (.file bytes mode now) := by
  obtain ⟨-, spot, -, hspot, -⟩ := item?_of_write ht h
  exact ⟨spot.place, spot_after_write ht h hspot⟩

theorem readBytes_of_write (ht : t.Sound) (h : t.write now p bytes = .ok t') :
    t'.readBytes p = .ok bytes := by
  obtain ⟨q, mode, hspot, hitem⟩ := spot_of_write ht h
  exact readBytes_of_item? hspot hitem

end TemplateTree.FileTree
