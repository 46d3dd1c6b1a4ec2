import TemplateTree.Proofs.Files.Touching

/-!
# Tidy trees

A tree whose current directory may have been removed is still tidy: each directory holds
its names once, in order, and all of them are names that a directory can hold.  A path
leads to places with such names only, so whatever is put or removed at the end of a path
leaves a tree tidy.
-/

namespace TemplateTree.FileTree

/-- A tree that is sound but for its current directory, which need not be there. -/
structure Tidy (t : FileTree) : Prop where
  root : t.root.Sound
  current : ∀ x ∈ t.current, x.IsName

variable {t t' : FileTree} {now : Instant} {p : Path} {place : Place} {bytes : Bytes} {spot : Spot}
  {last : Bool} {links : Nat} {way : List Text} {root n : Node}

theorem Sound.tidy (ht : t.Sound) : t.Tidy :=
  ⟨ht.root, fun _ hx => ht.root.isName_of_mem (Option.isSome_of_eq_some ht.current) hx⟩

theorem Tidy.sound (ht : t.Tidy) (h : t.root.item? t.current = some .dir) : t.Sound :=
  ⟨ht.root, h⟩

/-- A way of steps leads from valid names to valid names. -/
theorem Leads.isName (h : Leads root last links place way spot)
    (hplace : ∀ x ∈ place, x.IsName) (hway : ∀ s ∈ way, s ≠ [] ∧ '/' ∉ s) :
    ∀ x ∈ spot.place, x.IsName := by
  have hstep : ∀ {place : Place} {s : Text}, (∀ x ∈ place, x.IsName) → IsStep s →
      (s ≠ [] ∧ '/' ∉ s) → ∀ x ∈ place ++ [s], x.IsName := by
    intro place s hplace hs hname x hx
    obtain hx | rfl := List.mem_append.mp hx |>.imp_right List.mem_singleton.mp
    · exact hplace x hx
    · exact ⟨hname.1, hname.2, hs⟩
  induction h with
  | done => exact hplace
  | here _ ih => exact ih hplace fun s hs => hway s (List.mem_cons_of_mem _ hs)
  | up _ ih =>
      exact ih (fun x hx => hplace x (List.dropLast_subset _ hx))
        fun s hs => hway s (List.mem_cons_of_mem _ hs)
  | free hs => exact hstep hplace hs (hway _ List.mem_cons_self)
  | dir hs _ _ ih =>
      exact ih (hstep hplace hs (hway _ List.mem_cons_self))
        fun s hs => hway s (List.mem_cons_of_mem _ hs)
  | file hs => exact hstep hplace hs (hway _ List.mem_cons_self)
  | stop hs => exact hstep hplace hs (hway _ List.mem_cons_self)
  | jump _ _ _ _ _ ih =>
      refine ih (fun x hx => ?_) fun s hs => ?_
      · split at hx
        · simp at hx
        · exact hplace x hx
      · obtain hs | hs := List.mem_append.mp hs
        · exact mem_wayOf hs
        · exact hway s (List.mem_cons_of_mem _ hs)

theorem Tidy.isName_of_spotOf (ht : t.Tidy) (h : t.spotOf last p way = .ok spot)
    (hway : ∀ s ∈ way, s ≠ [] ∧ '/' ∉ s) : ∀ x ∈ spot.place, x.IsName := by
  refine (spotOf_eq_ok_iff.mp h).2.isName (fun x hx => ?_) hway
  split at hx
  · simp at hx
  · exact ht.current x hx

theorem Tidy.isName_of_place (ht : t.Tidy) (h : t.place p = .ok place) :
    ∀ x ∈ place, x.IsName :=
  ht.isName_of_spotOf (place_eq_ok_iff.mp h) fun _ hs => mem_wayOf hs

/-! ## What leaves a tree tidy -/

theorem Tidy.putAt (ht : t.Tidy) (hplace : ∀ x ∈ place, x.IsName) (hn : n.Sound) :
    (t.putAt place n).Tidy :=
  ⟨ht.root.put (fun x hx => hplace x (List.mem_of_getLast? hx)) hn, ht.current⟩

theorem Tidy.erase (ht : t.Tidy) : Tidy { t with root := t.root.erase place } :=
  ⟨ht.root.erase, ht.current⟩

theorem Tidy.write (ht : t.Tidy) (h : t.write now p bytes = .ok t') : t'.Tidy := by
  obtain ⟨-, spot, mode, hspot, rfl, -⟩ := write_eq_ok h
  exact ht.putAt (ht.isName_of_spotOf hspot fun _ hs => mem_wayOf hs) .file

/-- Where a file was written, the current directory was there before if it is there after. -/
theorem Tidy.sound_of_write (ht : t.Tidy) (h : t.write now p bytes = .ok t') (ht' : t'.Sound) :
    t.Sound := by
  obtain ⟨-, spot, mode, -, rfl, -⟩ := write_eq_ok h
  exact ht.sound (Node.item?_eq_dir_of_put_file ht'.current)

theorem Tidy.makeDir (ht : t.Tidy) (h : t.makeDir p = .ok t') : t'.Tidy := by
  obtain ⟨place, hslot, rfl⟩ := makeDir_eq_ok h
  obtain ⟨name, hname, -, hspot⟩ := slotFor_eq_ok hslot
  refine ht.putAt (ht.isName_of_spotOf hspot fun s hs => ?_) (.dir .nil (by simp) (by simp))
  obtain hs | rfl := List.mem_append.mp hs |>.imp_right List.mem_singleton.mp
  · exact mem_wayToParent hs
  · exact mem_parts (List.mem_of_getLast? hname)

theorem Tidy.makeAllDirs (ht : t.Tidy) : (ending (t.makeAllDirs p)).Tidy :=
  (rel_of_makeDirs (R := fun _ _ => True) (Q := fun _ => True) (fun _ => trivial)
    (fun _ _ _ _ _ => trivial) (fun _ _ _ _ => trivial) Tidy.makeDir
    (fun _ _ _ _ _ _ => trivial) ht trivial).2

end TemplateTree.FileTree
