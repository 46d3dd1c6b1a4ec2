import TemplateTree.Proofs.Files.Joining
import TemplateTree.Proofs.Run.Jobs
import Mathlib.Logic.Relation

/-!
# Touching files

Each operation on a tree puts one file or one empty directory at one place, where no
directory and no link was.  Directories and links stay, and a file that is new in a
tree or has new content has the time of the operation.
-/

namespace TemplateTree

namespace Node

variable {root new : Node} {place p : Place}

theorem item?_put_leaf (h : HasSlot root place) (hold : root.item? place ≠ some .dir)
    (hleaf : ∀ q, q ≠ [] → new.item? q = none) :
    (put new place root).item? p = if p = place then some new.item else root.item? p := by
  rw [item?_put h]
  split
  case isTrue hpre =>
    obtain ⟨q, rfl⟩ := hpre
    rw [List.drop_left]
    by_cases hq : q = []
    · simp [hq]
    · have hbelow : root.item? (place ++ q) = none := by
        by_contra hsome
        exact hold (item?_dir_of_append (Option.isSome_iff_ne_none.mpr hsome) hq)
      simp [hleaf q hq, hbelow, hq]
  case isFalse hpre =>
    have hne : p ≠ place := fun h => hpre (h ▸ List.prefix_rfl)
    rw [if_neg hne]

theorem item?_file_of_ne_nil {bytes : Bytes} {mode : Nat} {time : Instant} (hp : p ≠ []) :
    (file bytes mode time).item? p = none := by
  obtain ⟨x, p, rfl⟩ := List.exists_cons_of_ne_nil hp
  rfl

theorem item?_dir_nil_of_ne_nil (hp : p ≠ []) : (dir []).item? p = none := by
  obtain ⟨x, p, rfl⟩ := List.exists_cons_of_ne_nil hp
  rfl

theorem hasSlot_of_item? {item : Item} (h : root.item? place = some item) (hne : place ≠ []) :
    HasSlot root place := by
  obtain ⟨init, x, rfl⟩ := (List.eq_nil_or_concat place).resolve_left hne
  rw [List.concat_eq_append] at h ⊢
  refine ⟨by simp, ?_⟩
  rw [List.dropLast_concat]
  exact item?_dir_of_append (Option.isSome_of_eq_some h) (List.cons_ne_nil _ _)

end Node

namespace FileTree

/-- A tree that is sound and whose current directory is there. -/
structure Sound (t : FileTree) : Prop where
  root : t.root.Sound
  current : t.root.item? t.current = some .dir

/-- A place where a file or a directory can be put. -/
structure Open (t : FileTree) (place : Place) : Prop where
  slot : t.root.HasSlot place
  isName : ∀ x ∈ place.getLast?, x.IsName

/-- One operation on a tree at a time. -/
inductive Touch (now : Instant) (t : FileTree) : FileTree → Prop
  | create {place : Place} {bytes : Bytes} {mode : Nat} (hopen : t.Open place)
      (hnone : t.root.item? place = none) : Touch now t (t.putAt place (.file bytes mode now))
  | overwrite {place : Place} {old bytes : Bytes} {mode mode' : Nat} {time : Instant}
      (hopen : t.Open place) (hold : t.root.item? place = some (.file old mode time)) :
      Touch now t (t.putAt place (.file bytes mode' now))
  | makeDir {place : Place} (hopen : t.Open place) (hnone : t.root.item? place = none) :
      Touch now t (t.putAt place (.dir []))
  | allow {place : Place} {bytes : Bytes} {mode mode' : Nat} {time : Instant}
      (hopen : t.Open place) (hold : t.root.item? place = some (.file bytes mode time)) :
      Touch now t (t.putAt place (.file bytes mode' time))

/-- Operations one after the other, all at one time. -/
abbrev Touches (now : Instant) : FileTree → FileTree → Prop :=
  Relation.ReflTransGen (Touch now)

variable {t t' : FileTree} {now : Instant} {p : Path} {place q : Place} {bytes : Bytes}
  {spot : Spot} {last : Bool} {links : Nat} {way : List Text} {root : Node}

/-! ## What an operation does -/

/-- The place of an operation, and what it puts there. -/
theorem Touch.exists_item (h : Touch now t t') : ∃ place item,
    (∀ p, t'.root.item? p = if p = place then some item else t.root.item? p) ∧
    (t.root.item? place = none ∧ item = .dir ∨
      ∃ bytes mode time, item = .file bytes mode time ∧
        ((t.root.item? place = none ∧ time = now) ∨
          ∃ old mode' time', t.root.item? place = some (.file old mode' time') ∧
            (time = now ∨ bytes = old ∧ time = time'))) := by
  cases h with
  | @create place bytes mode hopen hnone =>
      refine ⟨place, .file bytes mode now, fun p => ?_, .inr ⟨_, _, _, rfl, .inl ⟨hnone, rfl⟩⟩⟩
      exact Node.item?_put_leaf hopen.slot (by simp [hnone]) fun _ => Node.item?_file_of_ne_nil
  | @overwrite place old bytes mode mode' time hopen hold =>
      refine ⟨place, .file bytes mode' now, fun p => ?_,
        .inr ⟨_, _, _, rfl, .inr ⟨_, _, _, hold, .inl rfl⟩⟩⟩
      exact Node.item?_put_leaf hopen.slot (by simp [hold]) fun _ => Node.item?_file_of_ne_nil
  | @makeDir place hopen hnone =>
      refine ⟨place, .dir, fun p => ?_, .inl ⟨hnone, rfl⟩⟩
      exact Node.item?_put_leaf hopen.slot (by simp [hnone]) fun _ => Node.item?_dir_nil_of_ne_nil
  | @allow place bytes mode mode' time hopen hold =>
      refine ⟨place, .file bytes mode' time, fun p => ?_,
        .inr ⟨_, _, _, rfl, .inr ⟨_, _, _, hold, .inr ⟨rfl, rfl⟩⟩⟩⟩
      exact Node.item?_put_leaf hopen.slot (by simp [hold]) fun _ => Node.item?_file_of_ne_nil

theorem Touch.current_eq (h : Touch now t t') : t'.current = t.current := by
  cases h <;> rfl

theorem Touch.keeps (h : Touch now t t') : Keeps t.root t'.root := by
  obtain ⟨place, item, hitem, hkind⟩ := h.exists_item
  refine ⟨fun p hp => ?_, fun p target => ?_⟩
  · rw [hitem]
    split
    case isTrue heq =>
      subst heq
      obtain ⟨hnone, -⟩ | ⟨_, _, _, -, ⟨hnone, -⟩ | ⟨_, _, _, hold, -⟩⟩ := hkind
      · simp [hp] at hnone
      · simp [hp] at hnone
      · simp [hp] at hold
    case isFalse => exact hp
  · rw [hitem]
    split
    case isTrue heq =>
      subst heq
      obtain ⟨hnone, rfl⟩ | ⟨_, _, _, rfl, ⟨hnone, -⟩ | ⟨_, _, _, hold, -⟩⟩ := hkind
      · simp [hnone]
      · simp [hnone]
      · simp [hold]
    case isFalse => rfl

theorem Touch.sound (h : Touch now t t') (ht : t.Sound) : t'.Sound := by
  refine ⟨?_, ?_⟩
  · cases h with
    | create hopen => exact ht.root.put hopen.isName .file
    | overwrite hopen => exact ht.root.put hopen.isName .file
    | makeDir hopen =>
        exact ht.root.put hopen.isName (.dir .nil (by simp) (by simp))
    | allow hopen => exact ht.root.put hopen.isName .file
  · rw [h.current_eq]
    exact h.keeps.dirs _ ht.current

/-- A file that was there before with the same content and time, or one of a later
time. -/
theorem Touch.file_of_file {mode : Nat} {time : Instant} (h : Touch now t t')
    (hfile : t'.root.item? q = some (.file bytes mode time)) :
    (∃ mode', t.root.item? q = some (.file bytes mode' time)) ∨ now ≤ time := by
  obtain ⟨place, item, hitem, hkind⟩ := h.exists_item
  rw [hitem] at hfile
  split at hfile
  case isTrue heq =>
    subst heq
    obtain ⟨-, rfl⟩ | ⟨b, m, τ, rfl, hkind⟩ := hkind
    · simp at hfile
    · obtain ⟨rfl, rfl, rfl⟩ : b = bytes ∧ m = mode ∧ τ = time := by simpa using hfile
      obtain ⟨-, rfl⟩ | ⟨old, mode', τ', hold, rfl | ⟨rfl, rfl⟩⟩ := hkind
      · exact .inr (Int.le_refl _)
      · exact .inr (Int.le_refl _)
      · exact .inl ⟨mode', hold⟩
  case isFalse => exact .inl ⟨mode, hfile⟩

theorem Touches.keeps (h : Touches now t t') : Keeps t.root t'.root := by
  induction h with
  | refl => exact .refl _
  | tail _ hstep ih => exact ih.trans hstep.keeps

theorem Touches.sound (h : Touches now t t') (ht : t.Sound) : t'.Sound := by
  induction h with
  | refl => exact ht
  | tail _ hstep ih => exact hstep.sound ih

theorem Touches.current_eq (h : Touches now t t') : t'.current = t.current := by
  induction h with
  | refl => rfl
  | tail _ hstep ih => exact hstep.current_eq.trans ih

/-! ## Places that a path leads to -/

theorem not_slash_of_mem_splitWhere {s : Text} (h : s ∈ Text.splitWhere (· = '/') p) :
    '/' ∉ s :=
  fun hslash => of_decide_eq_false (Text.of_mem_splitWhere h hslash) rfl

theorem mem_parts {s : Text} (h : s ∈ Path.parts p) : s ≠ [] ∧ '/' ∉ s :=
  ⟨Path.ne_nil_of_mem_parts h, not_slash_of_mem_splitWhere (List.mem_of_mem_filter h)⟩

theorem mem_wayOf {s : Text} (h : s ∈ wayOf p) : s ≠ [] ∧ '/' ∉ s := by
  obtain hway | hway := wayOf_eq p
  · exact mem_parts (hway ▸ h)
  · rw [hway, List.mem_append, List.mem_singleton] at h
    obtain h | rfl := h
    · exact mem_parts h
    · simp

theorem Leads.open_of_free (h : Leads root last links place way spot) (hspot : spot = .free q)
    (hstart : root.item? place = some .dir) (hway : ∀ s ∈ way, s ≠ [] ∧ '/' ∉ s) :
    root.HasSlot q ∧ (∀ x ∈ q.getLast?, x.IsName) ∧ root.item? q = none := by
  induction h with
  | done => cases hspot
  | here _ ih => exact ih hspot hstart fun s hs => hway s (List.mem_cons_of_mem _ hs)
  | up _ ih =>
      exact ih hspot (item?_dropLast hstart) fun s hs => hway s (List.mem_cons_of_mem _ hs)
  | @free links place s hs hitem =>
      obtain rfl := Spot.free.inj hspot
      obtain ⟨hne, hslash⟩ := hway s List.mem_cons_self
      refine ⟨⟨by simp, by rwa [List.dropLast_concat]⟩, fun x hx => ?_, hitem⟩
      obtain rfl : s = x := by simpa using hx
      exact ⟨hne, hslash, hs⟩
  | dir _ hitem _ ih => exact ih hspot hitem fun s hs => hway s (List.mem_cons_of_mem _ hs)
  | file => cases hspot
  | stop => cases hspot
  | jump _ hitem _ _ _ ih =>
      refine ih hspot ?_ fun s hs => ?_
      · split
        · exact item?_root_of_some hitem
        · exact hstart
      · obtain hs | hs := List.mem_append.mp hs
        · exact mem_wayOf hs
        · exact hway s (List.mem_cons_of_mem _ hs)

theorem Sound.item?_root (ht : t.Sound) : t.root.item? [] = some .dir := by
  by_cases hcurrent : t.current = []
  · exact hcurrent ▸ ht.current
  · exact Node.item?_dir_of_append (p := []) (Option.isSome_of_eq_some ht.current) hcurrent

theorem Sound.item?_start (ht : t.Sound) (p : Path) :
    t.root.item? (if Path.isAbsolute p then [] else t.current) = some .dir := by
  split
  · exact ht.item?_root
  · exact ht.current

theorem Sound.open_of_item? {item : Item} (ht : t.Sound) (h : t.root.item? q = some item)
    (hitem : item ≠ .dir) : t.Open q := by
  have hne : q ≠ [] := by
    rintro rfl
    rw [ht.item?_root] at h
    exact hitem (Option.some.inj h).symm
  refine ⟨Node.hasSlot_of_item? h hne, fun x hx => ?_⟩
  exact ht.root.isName_of_mem (Option.isSome_of_eq_some h) (List.mem_of_getLast? hx)

/-- A spot that a path leads to is what its place is. -/
theorem Sound.spotOf_eq (ht : t.Sound) (h : t.spotOf last p way = .ok spot) :
    spot = spotAt t.root spot.place :=
  (spotOf_eq_ok_iff.mp h).2.eq_spotAt (ht.item?_start p)

/-- A path leads where it led as long as directories and links stay. -/
theorem Sound.spot_of_keeps (ht : t.Sound) (h : t.spot p = .ok spot)
    (hkeeps : Keeps t.root t'.root) (hcurrent : t'.current = t.current) :
    t'.spot p = .ok (spotAt t'.root spot.place) := by
  obtain ⟨hcheck, hleads⟩ := spotOf_eq_ok_iff.mp h
  have hkept := hleads.keeps hkeeps (ht.item?_start p)
  rw [← hcurrent] at hkept
  exact spotOf_eq_ok_iff.mpr ⟨hcheck, hkept⟩

theorem Sound.place_of_keeps (ht : t.Sound) (h : t.place p = .ok q)
    (hdir : t.root.item? q = some .dir) (hkeeps : Keeps t.root t'.root)
    (hcurrent : t'.current = t.current) : t'.place p = .ok q := by
  have hspot := ht.spot_of_keeps (place_eq_ok_iff.mp h) hkeeps hcurrent
  have hfound : spotAt t'.root (Spot.found q).place = .found q := by
    simp [spotAt, Spot.place, hkeeps.dirs q hdir]
  exact place_eq_ok_iff.mpr (hfound ▸ hspot)

theorem Sound.open_of_free (ht : t.Sound) (h : t.spotOf last p way = .ok (.free q))
    (hway : ∀ s ∈ way, s ≠ [] ∧ '/' ∉ s) : t.Open q ∧ t.root.item? q = none := by
  obtain ⟨hslot, hname, hnone⟩ :=
    (spotOf_eq_ok_iff.mp h).2.open_of_free rfl (ht.item?_start p) hway
  exact ⟨⟨hslot, hname⟩, hnone⟩

theorem isDir_iff {n : Node} : n.isDir = true ↔ n.item = .dir := by
  cases n <;> simp [Node.isDir, Node.item]

/-! ## Writing, making directories, changing rights -/

/-- A file is written where its path leads. -/
theorem write_eq_ok (h : t.write now p bytes = .ok t') : namesDir p = false ∧
    ∃ spot mode, t.spot p = .ok spot ∧ t' = t.putAt spot.place (.file bytes mode now) ∧
      (spot = .free spot.place ∧ mode = defaultMode ∨ ∃ old time,
        spot = .found spot.place ∧ t.root.item? spot.place = some (.file old mode time)) := by
  unfold write at h
  split at h
  case isTrue =>
    simp only [bind, Except.bind] at h
    split at h
    · cases h
    · split at h
      · cases h
      · split at h <;> cases h
  case isFalse hdir =>
    cases hspot : t.spot p with
    | error e => simp [hspot, bind, Except.bind] at h
    | ok spot =>
        have hne : p ≠ [] := ne_nil_of_checkPath (spotOf_eq_ok_iff.mp hspot).1
        refine ⟨by simpa [hne] using hdir, spot, ?_⟩
        simp only [hspot, bind, Except.bind] at h
        cases spot with
        | free place =>
            obtain rfl : t.putAt place (.file bytes defaultMode now) = t' := by
              simpa [pure, Except.pure] using h
            exact ⟨defaultMode, rfl, rfl, .inl ⟨rfl, rfl⟩⟩
        | found place =>
            simp only at h
            split at h
            case h_1 old mode time hold =>
              obtain rfl : t.putAt place (.file bytes mode now) = t' := by
                simpa [pure, Except.pure] using h
              refine ⟨mode, rfl, rfl, .inr ⟨old, time, rfl, ?_⟩⟩
              simp [Spot.place, Node.item?, hold, Node.item]
            case h_2 => cases h

theorem Touch.of_write (ht : t.Sound) (h : t.write now p bytes = .ok t') : Touch now t t' := by
  obtain ⟨-, spot, mode, hspot, rfl, ⟨hfree, -⟩ | ⟨old, time, -, hitem⟩⟩ := write_eq_ok h
  · rw [hfree] at hspot
    obtain ⟨hopen, hnone⟩ := ht.open_of_free hspot fun s hs => mem_wayOf hs
    exact .create hopen hnone
  · exact .overwrite (ht.open_of_item? hitem (by simp)) hitem

/-- The free place where a directory can be made. -/
def slotFor (t : FileTree) (p : Path) : Except FileError Place := do
  checkPath p
  match (Path.parts p).getLast? with
  | none => throw .alreadyExists
  | some name =>
    let above ← t.spotOf true p (wayToParent p)
    let isDir ← (t.nodeAt above).map Node.isDir
    if !isDir then throw .notDirectory
    else if name = ['.'] || name = ['.', '.'] then throw .alreadyExists
    else
      match ← t.spotOf false p (wayToParent p ++ [name]) with
      | .found _ => throw .alreadyExists
      | .free place => return place

theorem makeDir_eq : t.makeDir p = (t.slotFor p).map fun place => t.putAt place (.dir []) := by
  unfold makeDir slotFor
  cases checkPath p with
  | error e => rfl
  | ok _ =>
      change (match (Path.parts p).getLast? with
        | none => _
        | some name => _) = Except.map _ (match (Path.parts p).getLast? with
        | none => _
        | some name => _)
      cases (Path.parts p).getLast? with
      | none => rfl
      | some name =>
          simp only [bind, Except.bind]
          cases t.spotOf true p (wayToParent p) with
          | error e => rfl
          | ok above =>
              cases hnode : t.nodeAt above with
              | error e => simp [hnode, Except.map]
              | ok n =>
                  simp only [hnode, Except.map]
                  split
                  · rfl
                  · split
                    · rfl
                    · cases t.spotOf false p (wayToParent p ++ [name]) with
                      | error e => rfl
                      | ok spot => cases spot <;> rfl

theorem slotFor_eq_ok (h : t.slotFor p = .ok place) : ∃ name,
    (Path.parts p).getLast? = some name ∧ name ≠ ['.'] ∧
    t.spotOf false p (wayToParent p ++ [name]) = .ok (.free place) := by
  unfold slotFor at h
  obtain ⟨_, -, h⟩ := except_bind_eq_ok h
  split at h
  case h_1 => cases h
  case h_2 name hname =>
    obtain ⟨above, -, h⟩ := except_bind_eq_ok h
    obtain ⟨isDir, -, h⟩ := except_bind_eq_ok h
    split at h
    · cases h
    · split at h
      · cases h
      case isFalse hdots =>
        obtain ⟨spot, hspot, h⟩ := except_bind_eq_ok h
        cases spot with
        | found q => cases h
        | free q =>
            cases h
            refine ⟨name, hname, ?_, hspot⟩
            rintro rfl
            exact hdots rfl

theorem mem_wayToParent {s : Text} (h : s ∈ wayToParent p) : s ≠ [] ∧ '/' ∉ s :=
  mem_parts (List.dropLast_subset _ h)

theorem Sound.open_of_slotFor (ht : t.Sound) (h : t.slotFor p = .ok place) :
    t.Open place ∧ t.root.item? place = none := by
  obtain ⟨name, hname, -, hspot⟩ := slotFor_eq_ok h
  refine ht.open_of_free hspot fun s hs => ?_
  obtain hs | rfl := List.mem_append.mp hs |>.imp_right List.mem_singleton.mp
  · exact mem_wayToParent hs
  · exact mem_parts (List.mem_of_getLast? hname)

/-- A directory is made in a free place. -/
theorem makeDir_eq_ok (h : t.makeDir p = .ok t') :
    ∃ place, t.slotFor p = .ok place ∧ t' = t.putAt place (.dir []) := by
  rw [makeDir_eq] at h
  cases hslot : t.slotFor p with
  | error e => simp [hslot, Except.map] at h
  | ok place => exact ⟨place, rfl, by simpa [hslot, Except.map, eq_comm] using h⟩

theorem Touch.of_makeDir (ht : t.Sound) (h : t.makeDir p = .ok t') : Touch now t t' := by
  obtain ⟨place, hslot, rfl⟩ := makeDir_eq_ok h
  obtain ⟨hopen, hnone⟩ := ht.open_of_slotFor hslot
  exact .makeDir hopen hnone

theorem sound_of_makeDir (ht : t.Sound) (h : t.makeDir p = .ok t') : t'.Sound :=
  (Touch.of_makeDir ht h : Touch 0 _ _).sound ht

/-- The tree in which making directories ends, well or not. -/
def ending (r : Except (FileError × FileTree) FileTree) : FileTree :=
  match r with
  | .ok t => t
  | .error (_, t) => t

/-- Whatever making one directory does, making those above it first does as well. -/
theorem rel_of_makeDirs {R : FileTree → FileTree → Prop} {I : FileTree → Prop} {Q : Path → Prop}
    (hrefl : ∀ t, R t t) (htrans : ∀ t₁ t₂ t₃, R t₁ t₂ → R t₂ t₃ → R t₁ t₃)
    (hparent : ∀ p above, Q p → Path.parent? p = some above → Q above)
    (hinv : ∀ {t p t'}, I t → t.makeDir p = .ok t' → I t')
    (hmake : ∀ t p t', I t → Q p → t.makeDir p = .ok t' → R t t') {fuel : Nat} (ht : I t)
    (hp : Q p) : R t (ending (t.makeDirs fuel p)) ∧ I (ending (t.makeDirs fuel p)) := by
  induction fuel generalizing t p with
  | zero => exact ⟨hrefl t, ht⟩
  | succ fuel ih =>
      unfold makeDirs
      split
      case isTrue => exact ⟨hrefl t, ht⟩
      case isFalse =>
        split
        case h_1 t₁ hfirst => exact ⟨hmake t p t₁ ht hp hfirst, hinv ht hfirst⟩
        case h_2 =>
          split
          case h_1 => exact ⟨hrefl t, ht⟩
          case h_2 above habove =>
            obtain ⟨hfirst, ht₁⟩ := ih ht (hparent p above hp habove)
            split
            case h_1 e habove =>
              rw [habove] at hfirst ht₁
              exact ⟨hfirst, ht₁⟩
            case h_2 t₁ habove =>
              rw [habove] at hfirst ht₁
              split
              case h_1 t₂ hlast =>
                exact ⟨htrans _ _ _ hfirst (hmake t₁ p t₂ ht₁ hp hlast), hinv ht₁ hlast⟩
              case h_2 => split <;> exact ⟨hfirst, ht₁⟩
        case h_3 => split <;> exact ⟨hrefl t, ht⟩

theorem Touches.makeDirs {fuel : Nat} (ht : t.Sound) :
    Touches now t (ending (t.makeDirs fuel p)) :=
  (rel_of_makeDirs (Q := fun _ => True) (fun _ => .refl) (fun _ _ _ => .trans)
    (fun _ _ _ _ => trivial) sound_of_makeDir
    (fun _ _ _ ht _ h => .single (.of_makeDir ht h)) ht trivial).1

theorem sound_of_makeDirs {fuel : Nat} (ht : t.Sound) (h : t.makeDirs fuel p = .ok t') :
    t'.Sound := by
  have htouches : Touches 0 t (ending (t.makeDirs fuel p)) := .makeDirs ht
  have hsound := htouches.sound ht
  rwa [h] at hsound

theorem Touches.makeAllDirs (ht : t.Sound) : Touches now t (ending (t.makeAllDirs p)) :=
  .makeDirs ht

/-- A file may be executed afterwards; nothing else changes. -/
theorem markExecutable_eq_ok (h : t.markExecutable p = .ok t') : ∃ place, t.place p = .ok place ∧
    (t' = t ∨ ∃ bytes mode time, t.root.item? place = some (.file bytes mode time) ∧
      t' = t.putAt place (.file bytes (mode ||| ownerExecute) time)) := by
  unfold markExecutable at h
  cases hplace : t.place p with
  | error e => simp [hplace, bind, Except.bind] at h
  | ok place =>
      simp only [hplace, bind, Except.bind] at h
      refine ⟨place, rfl, ?_⟩
      split at h
      case h_1 bytes mode time hget =>
        refine .inr ⟨bytes, mode, time, by simp [Node.item?, hget, Node.item], ?_⟩
        simpa [pure, Except.pure, eq_comm] using h
      case h_2 => exact .inl (by simpa [pure, Except.pure, eq_comm] using h)

theorem Touches.of_markExecutable (ht : t.Sound) (h : t.markExecutable p = .ok t') :
    Touches now t t' := by
  obtain ⟨place, -, rfl | ⟨bytes, mode, time, hitem, rfl⟩⟩ := markExecutable_eq_ok h
  · exact .refl
  · exact .single (.allow (ht.open_of_item? hitem (by simp)) hitem)

/-! ## Time -/

/-- What happens to files as time goes on: an operation, or nothing for a while. -/
inductive Happens : FileTree × Instant → FileTree × Instant → Prop
  | touch {t t' : FileTree} {now : Instant} (h : Touch now t t') : Happens (t, now) (t', now)
  | wait {t : FileTree} {now later : Instant} (h : now ≤ later) : Happens (t, now) (t, later)

/-- Operations, each at its time, one after the other. -/
abbrev Passes : FileTree × Instant → FileTree × Instant → Prop :=
  Relation.ReflTransGen Happens

theorem Touches.passes (h : Touches now t t') : Passes (t, now) (t', now) := by
  induction h with
  | refl => exact .refl
  | tail _ hstep ih => exact ih.tail (.touch hstep)

variable {m m' : FileTree × Instant}

theorem Passes.keeps (h : Passes m m') : Keeps m.1.root m'.1.root := by
  induction h with
  | refl => exact .refl _
  | tail _ hstep ih =>
      cases hstep with
      | touch h => exact ih.trans h.keeps
      | wait => exact ih

theorem Passes.sound (h : Passes m m') (hm : m.1.Sound) : m'.1.Sound := by
  induction h with
  | refl => exact hm
  | tail _ hstep ih =>
      cases hstep with
      | touch h => exact h.sound ih
      | wait => exact ih

theorem Passes.current_eq (h : Passes m m') : m'.1.current = m.1.current := by
  induction h with
  | refl => rfl
  | tail _ hstep ih =>
      cases hstep with
      | touch h => exact h.current_eq.trans ih
      | wait => exact ih

theorem Passes.now_le (h : Passes m m') : m.2 ≤ m'.2 := by
  induction h with
  | refl => exact Int.le_refl _
  | tail _ hstep ih =>
      cases hstep with
      | touch => exact ih
      | wait h => exact Int.le_trans ih h

/-- A file that is old is one that was there, with the same content and time. -/
theorem Passes.file_of_file {mode : Nat} {time : Instant} (h : Passes m m')
    (hfile : m'.1.root.item? q = some (.file bytes mode time)) :
    (∃ mode', m.1.root.item? q = some (.file bytes mode' time)) ∨ m.2 ≤ time := by
  induction h generalizing mode with
  | refl => exact .inl ⟨mode, hfile⟩
  | tail hfirst hstep ih =>
      cases hstep with
      | wait => exact ih hfile
      | touch htouch =>
          obtain ⟨mode', hfile⟩ | hlate := htouch.file_of_file hfile
          · exact ih hfile
          · exact .inr (Int.le_trans (Passes.now_le hfirst) hlate)

end FileTree

end TemplateTree
