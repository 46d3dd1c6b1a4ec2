import TemplateTree.Text.Blank
import Mathlib.Data.List.Basic
import Mathlib.Tactic.Common

/-!
# Fields of a text

A text is cut at the characters of a class.  The fields between them hold all other characters
of the text, in their order, and no others.
-/

namespace TemplateTree.Text

variable {p : Char → Bool} {t w : Text} {c : Char}

theorem splitWhere_cons_of_pos (hc : p c = true) (t : Text) :
    splitWhere p (c :: t) = [] :: splitWhere p t :=
  if_pos hc

theorem splitWhere_cons_of_neg (hc : p c = false) (t : Text) :
    splitWhere p (c :: t) = (splitWhere p t).modifyHead (c :: ·) :=
  if_neg (by simp [hc])

theorem splitWhere_ne_nil (p : Char → Bool) (t : Text) : splitWhere p t ≠ [] := by
  induction t with
  | nil => exact List.cons_ne_nil _ _
  | cons c t ih =>
      cases hc : p c with
      | true => simp [splitWhere_cons_of_pos hc]
      | false => simpa [splitWhere_cons_of_neg hc] using ih

theorem splitWhere_append (hc : p c = true) (t u : Text) :
    splitWhere p (t ++ c :: u) = splitWhere p t ++ splitWhere p u := by
  induction t with
  | nil =>
      rw [List.nil_append, splitWhere_cons_of_pos hc]
      rfl
  | cons d t ih =>
      rw [List.cons_append]
      cases hd : p d with
      | true => rw [splitWhere_cons_of_pos hd, splitWhere_cons_of_pos hd, ih, List.cons_append]
      | false =>
          obtain ⟨first, rest, hrest⟩ := List.exists_cons_of_ne_nil (splitWhere_ne_nil p t)
          rw [splitWhere_cons_of_neg hd, splitWhere_cons_of_neg hd, ih, hrest]
          rfl

theorem splitWhere_of_forall (h : ∀ c ∈ t, p c = false) : splitWhere p t = [t] := by
  induction t with
  | nil => rfl
  | cons c t ih =>
      rw [List.forall_mem_cons] at h
      rw [splitWhere_cons_of_neg h.1, ih h.2]
      rfl

theorem splitWhere_flatten (p : Char → Bool) (t : Text) :
    (splitWhere p t).flatten = t.filter fun c => !p c := by
  induction t with
  | nil => rfl
  | cons c t ih =>
      cases hc : p c with
      | true =>
          rw [splitWhere_cons_of_pos hc, List.flatten_cons, List.nil_append, ih,
            List.filter_cons_of_neg (by simp [hc])]
      | false =>
          obtain ⟨first, rest, hrest⟩ := List.exists_cons_of_ne_nil (splitWhere_ne_nil p t)
          rw [splitWhere_cons_of_neg hc, List.filter_cons_of_pos (by simp [hc]), ← ih, hrest]
          rfl

theorem of_mem_splitWhere (h : w ∈ splitWhere p t) (hc : c ∈ w) : p c = false := by
  have hmem : c ∈ (splitWhere p t).flatten := List.mem_flatten.mpr ⟨w, h, hc⟩
  rw [splitWhere_flatten] at hmem
  simpa using (List.mem_filter.mp hmem).2

/-! ## Fields that are not empty -/

theorem flatten_fieldsWhere (p : Char → Bool) (t : Text) :
    (fieldsWhere p t).flatten = t.filter fun c => !p c := by
  rw [← splitWhere_flatten, fieldsWhere]
  exact List.flatten_filter_ne_nil

theorem ne_nil_of_mem_fieldsWhere (h : w ∈ fieldsWhere p t) : w ≠ [] := by
  simpa using (List.mem_filter.mp h).2

theorem of_mem_fieldsWhere (h : w ∈ fieldsWhere p t) (hc : c ∈ w) : p c = false :=
  of_mem_splitWhere (List.mem_filter.mp h).1 hc

end TemplateTree.Text
