import TemplateTree.Text.Blank
import Mathlib.Data.List.Infix
import Mathlib.Tactic.Common

/-!
# Trimming

What trimming takes off a text is white space, and it takes off all of it.
-/

namespace TemplateTree.Text

variable {t u v w : Text}

@[simp] theorem isBlank_nil : isBlank [] = true := rfl

@[simp] theorem isBlank_append : isBlank (u ++ v) = (isBlank u && isBlank v) := by
  simp [isBlank]

@[simp] theorem trimStart_nil : trimStart [] = [] := rfl

@[simp] theorem trimEnd_nil : trimEnd [] = [] := rfl

theorem trimStart_cons_of_space {c : Char} (h : isSpace c = true) :
    trimStart (c :: t) = trimStart t := by
  simp [trimStart, dropLeading, h]

theorem trimStart_cons_of_not_space {c : Char} (h : isSpace c = false) :
    trimStart (c :: t) = c :: t := by
  simp [trimStart, dropLeading, h]

theorem exists_append_trimStart (t : Text) : ∃ w, isBlank w = true ∧ t = w ++ trimStart t := by
  refine ⟨t.takeWhile isSpace, ?_, (List.takeWhile_append_dropWhile).symm⟩
  simp [isBlank]

theorem trimStart_append_of_blank (h : isBlank w = true) : trimStart (w ++ t) = trimStart t := by
  induction w with
  | nil => rfl
  | cons c w ih =>
      have hw : isSpace c = true ∧ isBlank w = true := by simpa [isBlank] using h
      rw [List.cons_append, trimStart_cons_of_space hw.1, ih hw.2]

theorem trimStart_append_of_not_blank (h : isBlank u = false) :
    trimStart (u ++ v) = trimStart u ++ v := by
  induction u with
  | nil => simp at h
  | cons c u ih =>
      cases hc : isSpace c with
      | true =>
          have hu : isBlank u = false := by simpa [isBlank, hc] using h
          rw [List.cons_append, trimStart_cons_of_space hc, ih hu, trimStart_cons_of_space hc]
      | false => simp [trimStart_cons_of_not_space hc]

theorem trimStart_trimStart (t : Text) : trimStart (trimStart t) = trimStart t := by
  induction t with
  | nil => rfl
  | cons c t ih =>
      cases hc : isSpace c with
      | true => rw [trimStart_cons_of_space hc, ih]
      | false => simp only [trimStart_cons_of_not_space hc]

theorem trimEnd_cons {c : Char} :
    trimEnd (c :: t) = if trimEnd t = [] && isSpace c then [] else c :: trimEnd t := rfl

theorem trimEnd_eq_nil_iff : trimEnd t = [] ↔ isBlank t = true := by
  induction t with
  | nil => simp
  | cons c t ih =>
      rw [trimEnd_cons]
      by_cases h : trimEnd t = [] <;> cases hc : isSpace c <;> simp_all [isBlank]

theorem exists_trimEnd_append (t : Text) : ∃ w, isBlank w = true ∧ t = trimEnd t ++ w := by
  induction t with
  | nil => exact ⟨[], rfl, rfl⟩
  | cons c t ih =>
      rw [trimEnd_cons]
      split
      case isTrue h =>
        have h' : trimEnd t = [] ∧ isSpace c = true := by simpa using h
        have hblank := trimEnd_eq_nil_iff.mp h'.1
        exact ⟨c :: t, by simpa [isBlank, h'.2] using hblank, rfl⟩
      case isFalse =>
        obtain ⟨w, hw, ht⟩ := ih
        exact ⟨w, hw, by rw [List.cons_append, ← ht]⟩

theorem trimEnd_append_of_blank (h : isBlank w = true) : trimEnd (t ++ w) = trimEnd t := by
  induction t with
  | nil => simpa [trimEnd_eq_nil_iff] using h
  | cons c t ih => rw [List.cons_append, trimEnd_cons, trimEnd_cons, ih]

theorem trimEnd_trimEnd (t : Text) : trimEnd (trimEnd t) = trimEnd t := by
  obtain ⟨w, hw, ht⟩ := exists_trimEnd_append t
  conv_rhs => rw [ht]
  exact (trimEnd_append_of_blank hw).symm

theorem trimStart_trimEnd_trimStart (t : Text) :
    trimStart (trimEnd (trimStart t)) = trimEnd (trimStart t) := by
  have hfix := trimStart_trimStart t
  cases hs : trimStart t with
  | nil => rfl
  | cons c r =>
      have hc : isSpace c = false := by
        cases hc : isSpace c with
        | false => rfl
        | true =>
            rw [hs, trimStart_cons_of_space hc] at hfix
            obtain ⟨w, _, hw⟩ := exists_append_trimStart r
            have hlen := congrArg List.length hw
            simp only [hfix, List.length_append, List.length_cons] at hlen
            omega
      rw [trimEnd_cons]
      simp [hc, trimStart_cons_of_not_space hc]

theorem trim_trim (t : Text) : trim (trim t) = trim t := by
  rw [trim, trim, trimStart_trimEnd_trimStart, trimEnd_trimEnd]

theorem exists_append_trim_append (t : Text) :
    ∃ u v, isBlank u = true ∧ isBlank v = true ∧ t = u ++ trim t ++ v := by
  obtain ⟨u, hu, htu⟩ := exists_append_trimStart t
  obtain ⟨v, hv, htv⟩ := exists_trimEnd_append (trimStart t)
  exact ⟨u, v, hu, hv, by rw [List.append_assoc, trim, ← htv, ← htu]⟩

theorem trim_eq_nil_iff : trim t = [] ↔ isBlank t = true := by
  rw [trim, trimEnd_eq_nil_iff, ← trimStart_eq_nil_iff, trimStart_trimStart, trimStart_eq_nil_iff]

theorem trim_append_of_blank (h : isBlank w = true) : trim (t ++ w) = trim t := by
  cases ht : isBlank t with
  | true =>
      rw [trim_eq_nil_iff.mpr ht, trim_eq_nil_iff.mpr (by simp [ht, h])]
  | false => rw [trim, trimStart_append_of_not_blank ht, trimEnd_append_of_blank h, trim]

end TemplateTree.Text
