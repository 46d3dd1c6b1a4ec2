import TemplateTree.Proofs.Files.Ancestors
import TemplateTree.Proofs.Files.Rights

/-!
# Storing a file

A file is written, and its owner may execute it then if it is a script.  The one place to
which the path leads changes; a file that was there keeps its rights.  Without links in the
tree, whether a file is a script is told by its place.
-/

namespace TemplateTree.FileTree

/-- The mode of the file at a place, or that of a new one. -/
def modeAt (t : FileTree) (q : Place) : Nat :=
  match t.root.item? q with
  | some (.file _ mode _) => mode
  | _ => defaultMode

/-- The mode that a file has once it is stored at a path. -/
def storedMode (p : Path) (mode : Nat) : Nat :=
  if Path.hasExtension p "sh" then mode ||| ownerExecute else mode

/-- A tree in which a file was stored. -/
def stored? (t : FileTree) (now : Instant) (p : Path) (bytes : Bytes) : Option FileTree :=
  (t.write now p bytes).toOption.bind fun t =>
    if Path.hasExtension p "sh" then (t.markExecutable p).toOption else some t

variable {t t' : FileTree} {p : Path} {q : Place} {now time : Instant} {old bytes : Bytes}
  {mode : Nat}

theorem modeAt_of_item? (h : t.root.item? q = some (.file bytes mode time)) :
    t.modeAt q = mode := by
  rw [modeAt, h]

theorem modeAt_of_none (h : t.root.item? q = none) : t.modeAt q = defaultMode := by
  rw [modeAt, h]

/-- What is written is a file with the rights that are due at its place. -/
theorem item?_of_write_mode (ht : t.Sound) (h : t.write now p bytes = .ok t') :
    ∃ spot, t.spot p = .ok spot ∧
      (t.root.item? spot.place = none ∨
        ∃ old mode time, t.root.item? spot.place = some (.file old mode time)) ∧
      ∀ r, t'.root.item? r = if r = spot.place then some (.file bytes (t.modeAt spot.place) now)
        else t.root.item? r := by
  obtain ⟨-, spot, mode, hspot, rfl, ⟨hfree, rfl⟩ | ⟨old, time, -, hold⟩⟩ := write_eq_ok h
  · rw [hfree] at hspot
    obtain ⟨hopen, hnone⟩ := ht.open_of_free hspot fun s hs => mem_wayOf hs
    refine ⟨spot, hfree ▸ hspot, .inl hnone, ?_⟩
    rw [modeAt_of_none hnone]
    exact item?_putAt_file hopen (by simp [hnone])
  · refine ⟨spot, hspot, .inr ⟨old, mode, time, hold⟩, ?_⟩
    rw [modeAt_of_item? hold]
    exact item?_putAt_file (ht.open_of_item? hold (by simp)) (by simp [hold])

/-- A file that is stored is where its path leads, and nothing else changes. -/
theorem item?_of_stored? (ht : t.Sound) (h : t.stored? now p bytes = some t') :
    ∃ spot, t.spot p = .ok spot ∧ t'.spot p = .ok (.found spot.place) ∧
      (t.root.item? spot.place = none ∨
        ∃ old mode time, t.root.item? spot.place = some (.file old mode time)) ∧
      ∀ r, t'.root.item? r =
        if r = spot.place then some (.file bytes (storedMode p (t.modeAt spot.place)) now)
        else t.root.item? r := by
  obtain ⟨t₁, hwrite, hmark⟩ := Option.bind_eq_some_iff.mp h
  have hwrite := toOption_eq_some_iff.mp hwrite
  obtain ⟨spot, hspot, hold, hitem⟩ := item?_of_write_mode ht hwrite
  have hc := changesOnly_of_write ht hwrite hspot
  have hfile : t₁.root.item? spot.place = some (.file bytes (t.modeAt spot.place) now) := by
    rw [hitem, if_pos rfl]
  have hfound : t₁.spot p = .ok (.found spot.place) := by
    have hkept := ht.spot_of_keeps hspot hc.keeps hc.current
    simpa [spotAt, hfile] using hkept
  refine ⟨spot, hspot, ?_⟩
  unfold storedMode
  split at hmark
  case isFalse hplain =>
    obtain rfl := Option.some.inj hmark
    refine ⟨hfound, hold, fun r => ?_⟩
    rw [hitem, if_neg hplain]
  case isTrue hscript =>
    have hmark := toOption_eq_some_iff.mp hmark
    have hitem' := item?_of_markExecutable hc.sound (place_eq_ok_iff.mpr hfound) hfile hmark
    have hc' : ChangesOnly (fun _ => False) t₁ t' := changesOnly_of_markExecutable hc.sound hmark
    refine ⟨hc'.spot_found hc.sound hfound (by simp [hitem']), hold, fun r => ?_⟩
    rw [hitem', hitem, if_pos hscript]
    split <;> rfl

theorem form_of_stored? (ht : t.Sound) (h : t.stored? now p bytes = some t') :
    namesDir p = false := by
  obtain ⟨t₁, hwrite, -⟩ := Option.bind_eq_some_iff.mp h
  exact (item?_of_write ht (toOption_eq_some_iff.mp hwrite)).1

theorem changesOnly_of_stored? {spot : Spot} (ht : t.Sound) (h : t.stored? now p bytes = some t')
    (hspot : t.spot p = .ok spot) : ChangesOnly (· = spot.place) t t' := by
  obtain ⟨t₁, hwrite, hmark⟩ := Option.bind_eq_some_iff.mp h
  have hc := changesOnly_of_write ht (toOption_eq_some_iff.mp hwrite) hspot
  split at hmark
  case isFalse =>
    obtain rfl := Option.some.inj hmark
    exact hc
  case isTrue =>
    exact hc.trans (changesOnly_of_markExecutable hc.sound (toOption_eq_some_iff.mp hmark))

/-- A file can be stored where there is one already. -/
theorem exists_stored? (ht : t.Sound) (hform : namesDir p = false)
    (hspot : t.spot p = .ok (.found q)) (hold : t.root.item? q = some (.file old mode time)) :
    ∃ t', t.stored? now p bytes = some t' := by
  obtain ⟨t₁, hwrite⟩ : ∃ t₁, t.write now p bytes = .ok t₁ := by
    apply exists_write hform hspot
    intro q' hq'
    obtain rfl := Spot.found.inj hq'
    exact ⟨old, mode, time, hold⟩
  rw [stored?, hwrite]
  dsimp only [Except.toOption, Option.bind_some]
  split
  case isFalse => exact ⟨t₁, rfl⟩
  case isTrue =>
    obtain ⟨q', -, hspot', -⟩ := spot_of_write ht hwrite
    obtain ⟨t', hmark⟩ := exists_markExecutable (place_eq_ok_iff.mpr hspot')
    exact ⟨t', toOption_eq_some_iff.mpr hmark⟩

/-! ## Names of files -/

def Unlinked (t : FileTree) : Prop :=
  ∀ q target, t.root.item? q ≠ some (.link target)

theorem Unlinked.keeps (h : t.Unlinked) (hkeeps : Keeps t.root t'.root) : t'.Unlinked :=
  fun q target hlink => h q target ((hkeeps.links q target).mp hlink)

/-- The last name on a way is that of the place. -/
theorem Leads.getLast?_place {root : Node} {last : Bool} {links : Nat} {place : Place}
    {way : List Text} {spot : Spot} {x : Text} (h : Leads root last links place way spot)
    (hlinks : ∀ q target, root.item? q ≠ some (.link target)) (hx : way.getLast? = some x)
    (hdot : x ≠ ['.']) (hup : x ≠ ['.', '.']) : spot.place.getLast? = some x := by
  have hrest : ∀ {s : Text} {rest : List Text}, (s :: rest).getLast? = some x → s ≠ x →
      rest.getLast? = some x := by
    intro s rest hlast hne
    cases rest with
    | nil => exact absurd (Option.some.inj hlast) hne
    | cons s' rest => rwa [List.getLast?_cons_cons] at hlast
  induction h with
  | done => cases hx
  | here _ ih => exact ih (hrest hx (Ne.symm hdot))
  | up _ ih => exact ih (hrest hx (Ne.symm hup))
  | free => simpa [Spot.place] using hx
  | @dir links place s rest spot hs hitem hnext ih =>
      cases rest with
      | nil =>
          cases hnext
          simpa [Spot.place] using hx
      | cons s' rest =>
          rw [List.getLast?_cons_cons] at hx
          exact ih hx
  | file => simpa [Spot.place] using hx
  | stop _ hitem => exact absurd hitem (hlinks _ _)
  | jump _ hitem => exact absurd hitem (hlinks _ _)

theorem exists_fileName (h : namesDir p = false) : ∃ x, (wayOf p).getLast? = some x ∧
    x ≠ ['.'] ∧ x ≠ ['.', '.'] ∧ Path.fileName? p = some x := by
  unfold namesDir at h
  rw [Bool.or_eq_false_iff] at h
  obtain ⟨hslash, hlast⟩ := h
  have hway := wayOf_of_getLast? (of_decide_eq_false hslash)
  split at hlast
  case h_2 => cases hlast
  case h_1 x hx =>
    rw [Bool.or_eq_false_iff, decide_eq_false_iff_not, decide_eq_false_iff_not] at hlast
    refine ⟨x, hx, hlast.1, hlast.2, ?_⟩
    obtain ⟨front, hparts⟩ := List.getLast?_eq_some_iff.mp (hway ▸ hx)
    have hnames : Path.names p = front.filter (· ≠ ['.']) ++ [x] := by
      rw [names_eq_filter_parts, hparts, List.filter_append]
      simp [hlast.1]
    rw [Path.fileName?, Path.steps_eq, hnames, List.map_append, ← List.append_assoc,
      List.map_singleton, List.getLast?_concat, Path.segmentStep, if_neg hlast.2]

/-- Paths that lead to one file agree on whether it is a script. -/
theorem storedMode_eq {p' : Path} (hlinks : t.Unlinked) (hform : namesDir p = false)
    (hform' : namesDir p' = false) (hplace : t.place p = .ok q) (hplace' : t.place p' = .ok q) :
    storedMode p' = storedMode p := by
  have hname : ∀ {p}, namesDir p = false → t.place p = .ok q → Path.fileName? p = q.getLast? := by
    intro p hform hplace
    obtain ⟨x, hx, hdot, hup, hname⟩ := exists_fileName hform
    obtain ⟨-, hleads⟩ := spotOf_eq_ok_iff.mp (place_eq_ok_iff.mp hplace)
    exact hname.trans (hleads.getLast?_place hlinks hx hdot hup).symm
  funext mode
  unfold storedMode Path.hasExtension Path.extension?
  rw [hname hform hplace, hname hform' hplace']

theorem storedMode_storedMode (p : Path) (mode : Nat) :
    storedMode p (storedMode p mode) = storedMode p mode := by
  unfold storedMode
  split
  · rw [Nat.or_assoc, Nat.or_self]
  · rfl

end TemplateTree.FileTree
