import TemplateTree.Files.Path
import TemplateTree.Proofs.Text.Fields
import Mathlib.Data.List.Basic
import Mathlib.Tactic.Common

/-!
# Names in a path

A path names its segments other than the empty ones and single dots.  Whether it
stays below a directory can be told from its first character and its names.
-/

namespace TemplateTree.Path

/-- The segments of a path that name something, `..` among them. -/
def names (p : Path) : List Text :=
  (Text.splitWhere (· = '/') p).filter fun s => !isIdle s

/-- A relative path without a segment that goes up. -/
def StaysBelow (p : Path) : Prop :=
  p.head? ≠ some '/' ∧ ['.', '.'] ∉ Text.splitWhere (· = '/') p

instance (p : Path) : Decidable (StaysBelow p) :=
  inferInstanceAs (Decidable (_ ∧ _))

variable {p q : Path} {s : Text}

theorem splitWhere_slash (r : Text) :
    Text.splitWhere (· = '/') ('/' :: r) = [] :: Text.splitWhere (· = '/') r :=
  Text.splitWhere_cons_of_pos (decide_eq_true rfl) r

theorem splitWhere_cons {c : Char} (h : c ≠ '/') (r : Text) :
    Text.splitWhere (· = '/') (c :: r) =
      (Text.splitWhere (· = '/') r).modifyHead (c :: ·) :=
  Text.splitWhere_cons_of_neg (decide_eq_false h) r

@[simp] theorem names_nil : names [] = [] := by
  simp [names, Text.splitWhere, isIdle]

theorem names_slash (r : Text) : names ('/' :: r) = names r := by
  simp [names, splitWhere_slash, isIdle]

/-- The lead of a path holds no name. -/
theorem filter_segments (p : Path) : (segments p).filter (fun s => !isIdle s) = names p := by
  unfold segments lead
  split
  case isTrue h =>
    cases p with
    | nil => simp [isAbsolute] at h
    | cons c r =>
        obtain rfl : c = '/' := by simpa [isAbsolute] using h
        exact (names_slash r).symm
  case isFalse =>
    split
    case isTrue h =>
      unfold startsHere at h
      split at h
      · simp [names, Text.splitWhere, isIdle]
      · rename_i r
        simp [names, splitWhere_slash, splitWhere_cons, isIdle]
      · simp at h
    case isFalse => rfl

theorem steps_eq (p : Path) :
    steps p = (if isAbsolute p then [PathStep.root] else if startsHere p then [.here] else [])
      ++ (names p).map segmentStep := by
  rw [steps, filter_segments]

theorem mem_names_iff (h : isIdle s = false) :
    s ∈ names p ↔ s ∈ Text.splitWhere (· = '/') p := by
  simp [names, h]

theorem isContained_iff : isContained p = true ↔ StaysBelow p := by
  have hup : ['.', '.'] ∈ names p ↔ ['.', '.'] ∈ Text.splitWhere (· = '/') p :=
    mem_names_iff (by decide)
  rw [isContained, List.all_eq_true, steps_eq, StaysBelow, ← hup]
  constructor
  · intro h
    refine ⟨fun hhead => ?_, fun hmem => ?_⟩
    · have hroot := h .root (by simp [isAbsolute, hhead])
      simp at hroot
    · have hstep := h .up (List.mem_append_right _
        (List.mem_map.mpr ⟨_, hmem, by simp [segmentStep]⟩))
      simp at hstep
  · rintro ⟨hhead, hmem⟩ step hstep
    rcases List.mem_append.mp hstep with hfirst | hrest
    · have hrel : isAbsolute p = false := by simpa [isAbsolute] using hhead
      by_cases hhere : startsHere p = true <;> simp_all
    · obtain ⟨s, hs, rfl⟩ := List.mem_map.mp hrest
      have hne : s ≠ ['.', '.'] := fun e => hmem (e ▸ hs)
      simp [segmentStep, hne]

end TemplateTree.Path
