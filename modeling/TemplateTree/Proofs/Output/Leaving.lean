import TemplateTree.Proofs.Output.Counting
import TemplateTree.Proofs.Output.Refused

/-!
# What is left behind by writing sections

Where sections are written with success, each of their paths leads to the file of the last
section that was written there, directories are made on the way to them at most, and all
else is as before.  Where a directory is missing and may not be made, nothing is done.
-/

namespace TemplateTree

open FileTree Session Job

namespace Settings

variable {settings : Settings} {t t' : FileTree} {r : Section} {sections : List Section}
  {now : Instant} {q : Place}

/-! ## Directories -/

/-- A path on the way to the file of a section, if directories may be made. -/
def MayMake (settings : Settings) (sections : List Section) (p : Path) : Prop :=
  settings.createDirectories = true ∧ ∃ r ∈ sections, ∃ dir,
    Path.parent? (settings.target r) = some dir ∧ Path.Upwards dir p

/-- Sections that were written one after the other: at the place of each of them is the file
of the last one there, with the rights that a script or another file has. -/
structure Written (settings : Settings) (now : Instant) (sections : List Section)
    (t t' : FileTree) : Prop where
  form : ∀ r ∈ sections, namesDir (settings.target r) = false
  place : ∀ r ∈ sections, ∃ q, t'.place (settings.target r) = .ok q
  file : ∀ before r after q, sections = before ++ r :: after →
    t'.place (settings.target r) = .ok q →
    (∀ r' ∈ after, t'.place (settings.target r') ≠ .ok q) →
    t'.root.item? q = some (.file (settings.bytesOf r)
      (storedMode (settings.target r) (t.modeAt q)) now)
  other : ∀ q, (∀ r ∈ sections, t'.place (settings.target r) ≠ .ok q) →
    t'.root.item? q = t.root.item? q

theorem Written.item?_ne_none (h : settings.Written now sections t t') (ht' : t'.Sound)
    (hq : t.root.item? q ≠ none) : t'.root.item? q ≠ none := by
  by_cases hfree : ∀ r ∈ sections, t'.place (settings.target r) ≠ .ok q
  · rwa [h.other q hfree]
  · obtain ⟨r, hr, hplace⟩ : ∃ r ∈ sections, t'.place (settings.target r) = .ok q := by
      simpa using hfree
    exact LeadsTo.item?_ne_none ht' ⟨r, hr, place_eq_ok_iff.mp hplace⟩

theorem written_cons {t₁ : FileTree} (ht : t.Sound) (hlinks : t.Unlinked)
    (hfirst : settings.written? now t r = some t₁) (ht' : t'.Sound) (hkeeps : Keeps t.root t'.root)
    (hcurrent : t'.current = t.current) (h : settings.Written now sections t₁ t') :
    settings.Written now (r :: sections) t t' := by
  have hstored : t.stored? now (settings.target r) (settings.bytesOf r) = some t₁ := hfirst
  obtain ⟨spot, hspot, hfound, -, hitem⟩ := item?_of_stored? ht hstored
  have hform := form_of_stored? ht hstored
  have hthere : t'.root.item? spot.place ≠ none := h.item?_ne_none ht' (by simp [hitem])
  have hplace : t'.place (settings.target r) = .ok spot.place := by
    have hkept := ht.spot_of_keeps hspot hkeeps hcurrent
    rw [spotAt, if_neg hthere] at hkept
    exact place_eq_ok_iff.mpr hkept
  refine ⟨List.forall_mem_cons.mpr ⟨hform, h.form⟩,
    List.forall_mem_cons.mpr ⟨⟨_, hplace⟩, h.place⟩, ?_, ?_⟩
  · intro before r' after q hsplit hq hlast
    cases before with
    | nil =>
        obtain ⟨rfl, rfl⟩ := List.cons.inj hsplit
        obtain rfl := Except.ok.inj (hplace.symm.trans hq)
        rw [h.other _ hlast, hitem, if_pos rfl]
    | cons b before =>
        obtain ⟨rfl, rfl⟩ := List.cons.inj hsplit
        rw [h.file before r' after q rfl hq hlast]
        by_cases heq : q = spot.place
        · -- both sections have one file, so both or none of them make it a script
          subst heq
          have hsame : storedMode (settings.target r') = storedMode (settings.target r) :=
            storedMode_eq (hlinks.keeps hkeeps) hform (h.form r' (by simp)) hplace hq
          have hmode : t₁.modeAt spot.place =
              storedMode (settings.target r) (t.modeAt spot.place) :=
            modeAt_of_item? (by rw [hitem, if_pos rfl])
          rw [hmode, hsame, storedMode_storedMode]
        · have hmode : t₁.modeAt q = t.modeAt q := by
            unfold modeAt
            rw [hitem, if_neg heq]
          rw [hmode]
  · intro q hq
    obtain ⟨hne, hrest⟩ := List.forall_mem_cons.mp hq
    have hother : q ≠ spot.place := fun heq => hne (heq ▸ hplace)
    rw [h.other q hrest, hitem, if_neg hother]

/-- What sections leave behind.  The path of each of them leads to the file of the last one
there; what is elsewhere is as it was, or it is a new directory on the way to a section. -/
structure Leaves (settings : Settings) (sections : List Section) (now : Instant)
    (t t' : FileTree) : Prop where
  file : ∀ r ∈ sections, ∃ q before last after, sections = before ++ last :: after ∧
    t'.place (settings.target r) = .ok q ∧ t'.place (settings.target last) = .ok q ∧
    (∀ r' ∈ after, t'.place (settings.target r') ≠ .ok q) ∧
    t'.root.item? q = some (.file (settings.bytesOf last)
      (storedMode (settings.target r) (t.modeAt q)) now)
  other : ∀ q, (∀ r ∈ sections, t'.place (settings.target r) ≠ .ok q) →
    t'.root.item? q = t.root.item? q ∨
      t.root.item? q = none ∧ t'.root.item? q = some .dir ∧
        ∃ above, settings.MayMake sections above ∧ t'.place above = .ok q

end Settings

namespace Job

variable {settings : Settings} {sections : List Section} {r : Section} {s s' : Session} {n : Nat}
  {path dir : Path} {body : Text} {default : Newline} {create : Bool} {targets before : List Path}

end Job

/-! ## Two spellings of one path -/

namespace Sketch

def spelled : List Section :=
  [⟨"run.SH".toList, ['a']⟩, ⟨"./run.SH".toList, ['b', '\r', '\n']⟩]

end Sketch

namespace Job

end Job

end TemplateTree
