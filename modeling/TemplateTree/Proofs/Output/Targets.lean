import TemplateTree.Output.Writer
import TemplateTree.Proofs.Files.Ancestors

/-!
# Where sections are written

The destination of a section names a place below the output directory, and if there is
no link in the way its path leads nowhere else.
-/

namespace TemplateTree

/-! ## Destinations -/

namespace Section

def Contained (s : Section) : Prop :=
  s.destination ≠ [] ∧ Path.StaysBelow s.destination

def place (out : Place) (s : Section) : Place :=
  out ++ Path.names s.destination

variable {m : Markers} {i : Nat} {fragment text : Text} {fragments : List Text} {s : Section}
  {ss : List Section}

theorem contained_of_ofFragment (h : ofFragment m i fragment = .ok s) : s.Contained := by
  unfold ofFragment at h
  dsimp only at h
  split at h
  · cases h
  · split at h
    · cases h
    case isFalse hne =>
      split at h
      · cases h
      · split at h
        · cases h
        case isFalse hcontained =>
          cases h
          refine ⟨by simpa [withSlashes] using hne, Path.isContained_iff.mp ?_⟩
          simpa using hcontained

theorem not_mem_backslash_of_ofFragment (h : ofFragment m i fragment = .ok s) :
    '\\' ∉ s.destination := by
  unfold ofFragment at h
  dsimp only at h
  split at h
  · cases h
  · split at h
    · cases h
    · split at h
      · cases h
      · split at h
        · cases h
        · cases h
          intro hmem
          obtain ⟨c, -, hc⟩ := List.mem_map.mp hmem
          split at hc
          · cases hc
          · exact absurd hc ‹_›

/-- Whatever holds of the section of any fragment holds of all sections of a text. -/
theorem of_split {P : Section → Prop}
    (hP : ∀ i fragment s, ofFragment m i fragment = .ok s → P s) (h : split m text = .ok ss)
    (hs : s ∈ ss) : P s := by
  have hfragments : ∀ fragments i ss, ofFragments m i fragments = .ok ss → ∀ s ∈ ss, P s := by
    intro fragments
    induction fragments with
    | nil =>
        intro i ss h
        cases h
        simp
    | cons f fs ih =>
        intro i ss h
        rw [ofFragments] at h
        split at h
        case isTrue => exact ih _ _ h
        case isFalse =>
          obtain ⟨first, hfirst, h⟩ := except_bind_eq_ok h
          obtain ⟨rest, hrest, h⟩ := except_bind_eq_ok h
          cases h
          exact List.forall_mem_cons.mpr ⟨hP _ _ _ hfirst, ih _ _ hrest⟩
  unfold split at h
  split at h
  · cases h
    simp at hs
  · split at h
    · exact hfragments _ _ _ h s hs
    · cases h

theorem contained_of_split (h : split m text = .ok ss) (hs : s ∈ ss) : s.Contained :=
  of_split (fun _ _ _ => contained_of_ofFragment) h hs

theorem not_mem_backslash_of_split (h : split m text = .ok ss) (hs : s ∈ ss) :
    '\\' ∉ s.destination :=
  of_split (P := fun s => '\\' ∉ s.destination) (fun _ _ _ => not_mem_backslash_of_ofFragment) h hs

end Section

/-! ## The output directory -/

namespace FileTree

variable {t : FileTree} {dir q : Path} {out : Place} {spot : Spot}

theorem parts_ne_nil (hne : q ≠ []) (hq : Path.StaysBelow q) : Path.parts q ≠ [] := by
  obtain ⟨c, r, rfl⟩ := List.exists_cons_of_ne_nil hne
  have hc : c ≠ '/' := fun h => hq.1 (by simp [h])
  obtain ⟨s, ss, hs⟩ := List.exists_cons_of_ne_nil (Text.splitWhere_ne_nil (· = '/') r)
  rw [Path.parts, Path.splitWhere_cons hc, hs]
  simp

/-- A path below a directory without links leads to the place that it names. -/
theorem place_of_spot_join (hdir : t.place dir = .ok out) (hitem : t.root.item? out = some .dir)
    (hlinks : ∀ q target, t.root.item? (out ++ q) ≠ some (.link target)) (hne : q ≠ [])
    (hq : Path.StaysBelow q) (hspot : t.spot (Path.join dir q) = .ok spot) :
    spot.place = out ++ Path.names q := by
  have hrelative : Path.isAbsolute q = false := by simpa [Path.isAbsolute] using hq.1
  obtain ⟨hcheck, -⟩ := spotOf_eq_ok_iff.mp (place_eq_ok_iff.mp hdir)
  obtain ⟨left, hleft⟩ := follow_parts_append hdir hitem
  obtain ⟨-, hleads⟩ := spotOf_eq_ok_iff.mp hspot
  rw [Path.isAbsolute_join (ne_nil_of_checkPath hcheck) hrelative] at hleads
  have hparts := parts_ne_nil hne hq
  have hup : ['.', '.'] ∉ Path.parts q := fun hmem => hq.2 (List.mem_of_mem_filter hmem)
  obtain ⟨rest, hway, hrest, hrestUp, hnames⟩ : ∃ rest,
      wayOf (Path.join dir q) = Path.parts dir ++ rest ∧ rest ≠ [] ∧ ['.', '.'] ∉ rest ∧
        rest.filter (· ≠ ['.']) = Path.names q := by
    rw [names_eq_filter_parts]
    obtain hway | hway := wayOf_eq (Path.join dir q)
    · exact ⟨Path.parts q, by rw [hway, Path.parts_join hrelative], hparts, hup, rfl⟩
    · refine ⟨Path.parts q ++ [['.']], ?_, by simp, by simpa using hup, by simp⟩
      rw [hway, Path.parts_join hrelative, List.append_assoc]
  rw [hway] at hleads
  have hbelow := follow_eq_ok_iff.mp ((hleft true rest hrest).symm.trans hleads.follow_eq_ok)
  rw [hbelow.place_eq_append hlinks hrestUp, hnames]

end FileTree

end TemplateTree
