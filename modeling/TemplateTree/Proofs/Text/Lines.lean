import TemplateTree.Text.Basic
import Mathlib.Data.List.Basic
import Mathlib.Tactic.Common

/-!
# Lines and their endings

A text is cut after its line feeds.  Every line but the last one has an ending, and there
is no other line feed in it, so a text is told by its lines.
-/

namespace TemplateTree.Text

variable {t u l : Text}

/-! ## Endings -/

theorem splitEnding_append (l : Text) : (splitEnding l).1 ++ (splitEnding l).2 = l := by
  fun_induction splitEnding l with
  | case1 => rfl
  | case2 => rfl
  | case3 => rfl
  | case4 c r _ _ ih => rw [List.cons_append, ih]

/-- A line ends in a line feed, with or without a carriage return, or it has no ending. -/
theorem splitEnding_snd (l : Text) :
    (splitEnding l).2 = [] ∨ (splitEnding l).2 = ['\n'] ∨ (splitEnding l).2 = ['\r', '\n'] := by
  fun_induction splitEnding l with
  | case1 => exact .inl rfl
  | case2 => exact .inr (.inr rfl)
  | case3 => exact .inr (.inl rfl)
  | case4 c r _ _ ih => exact ih

theorem splitEnding_snd_eq_nil_iff : (splitEnding l).2 = [] ↔ l.getLast? ≠ some '\n' := by
  fun_induction splitEnding l with
  | case1 => simp
  | case2 => simp
  | case3 => simp
  | case4 c r hreturn hfeed ih =>
      cases r with
      | nil =>
          have hc : c ≠ '\n' := fun h => hfeed h rfl
          simp [splitEnding, hc]
      | cons d r => rw [ih, List.getLast?_cons_cons]

/-! ## Lines -/

theorem linesWithEnds_of_not_mem (h : '\n' ∉ t) : linesWithEnds t = if t = [] then [] else [t] := by
  induction t with
  | nil => rfl
  | cons c r ih =>
      rw [List.mem_cons, not_or] at h
      rw [linesWithEnds, if_neg (Ne.symm h.1), ih h.2]
      cases r <;> simp

theorem linesWithEnds_append (h : '\n' ∉ t) :
    linesWithEnds (t ++ '\n' :: u) = (t ++ ['\n']) :: linesWithEnds u := by
  induction t with
  | nil => simp [linesWithEnds]
  | cons c r ih =>
      rw [List.mem_cons, not_or] at h
      simp [linesWithEnds, Ne.symm h.1, ih h.2]

/-- Every text is built up from its last line by putting lines with their line feeds before
it. -/
@[elab_as_elim]
theorem feed_induction {motive : Text → Prop} (last : ∀ t, '\n' ∉ t → motive t)
    (feed : ∀ l t, '\n' ∉ l → motive t → motive (l ++ '\n' :: t)) (t : Text) : motive t := by
  suffices h : ∀ l, '\n' ∉ l → motive (l ++ t) from h [] (by simp)
  induction t with
  | nil =>
      intro l hl
      rw [List.append_nil]
      exact last l hl
  | cons c t ih =>
      intro l hl
      by_cases hc : c = '\n'
      · subst hc
        exact feed l t hl (ih [] (by simp))
      · have hnext := ih (l ++ [c]) (by simp [hl, Ne.symm hc])
        rwa [List.append_assoc, List.singleton_append] at hnext

/-- The line with a number, counted from one; there is an empty one after the last line
feed. -/
def lineAt (t : Text) (n : Nat) : Text :=
  ((linesWithEnds t)[n - 1]?).getD []

def feeds (t : Text) : Nat :=
  t.count '\n'

theorem feeds_append (t u : Text) : feeds (t ++ u) = feeds t + feeds u :=
  List.count_append

theorem feeds_eq_zero_iff : feeds t = 0 ↔ '\n' ∉ t :=
  List.count_eq_zero

def IsEnded (l : Text) : Prop :=
  ∃ a, l = a ++ ['\n'] ∧ '\n' ∉ a

theorem isEnded_append {a ending : Text} (ha : '\n' ∉ a)
    (h : ending = ['\n'] ∨ ending = ['\r', '\n']) : IsEnded (a ++ ending) := by
  rcases h with rfl | rfl
  · exact ⟨a, rfl, ha⟩
  · exact ⟨a ++ ['\r'], by simp, by simp [ha]⟩

theorem linesWithEnds_flatten_append {ls : List Text} (h : ∀ l ∈ ls, IsEnded l) (t : Text) :
    linesWithEnds (ls.flatten ++ t) = ls ++ linesWithEnds t := by
  induction ls with
  | nil => rfl
  | cons l ls ih =>
      obtain ⟨a, rfl, ha⟩ := h l List.mem_cons_self
      have hrest := ih fun l' hl' => h l' (List.mem_cons_of_mem _ hl')
      rw [List.flatten_cons, List.append_assoc, List.append_assoc, List.singleton_append,
        linesWithEnds_append ha, hrest, List.cons_append]

theorem feeds_flatten {ls : List Text} (h : ∀ l ∈ ls, IsEnded l) :
    feeds ls.flatten = ls.length := by
  induction ls with
  | nil => rfl
  | cons l ls ih =>
      obtain ⟨a, rfl, ha⟩ := h l List.mem_cons_self
      have hrest := ih fun l' hl' => h l' (List.mem_cons_of_mem _ hl')
      have hline : feeds (a ++ ['\n']) = 1 := by
        rw [feeds_append, feeds_eq_zero_iff.mpr ha]
        rfl
      rw [List.flatten_cons, feeds_append, hline, hrest, List.length_cons, Nat.add_comm]

theorem exists_of_mem_linesWithEnds (h : l ∈ linesWithEnds t) :
    IsEnded l ∨ '\n' ∉ l := by
  induction t using feed_induction with
  | last t ht =>
      rw [linesWithEnds_of_not_mem ht] at h
      split at h
      · cases h
      · exact .inr (List.mem_singleton.mp h ▸ ht)
  | feed a t ha ih =>
      rw [linesWithEnds_append ha] at h
      rcases List.mem_cons.mp h with rfl | h
      · exact .inl ⟨a, rfl, ha⟩
      · exact ih h

theorem not_mem_content (h : l ∈ linesWithEnds t) : '\n' ∉ (splitEnding l).1 := by
  rcases exists_of_mem_linesWithEnds h with ⟨a, rfl, ha⟩ | hl
  · have hne : (splitEnding (a ++ ['\n'])).2 ≠ [] := by
      rw [Ne, splitEnding_snd_eq_nil_iff]
      simp
    have happend := splitEnding_append (a ++ ['\n'])
    intro hmem
    apply ha
    rcases splitEnding_snd (a ++ ['\n']) with hnil | hfeed | hboth
    · exact absurd hnil hne
    · rw [hfeed] at happend
      exact List.append_cancel_right happend ▸ hmem
    · rw [hboth] at happend
      have hsplit : (splitEnding (a ++ ['\n'])).1 ++ ['\r'] = a := by
        refine List.append_cancel_right (?_ : _ ++ ['\n'] = _)
        simpa using happend
      exact hsplit ▸ List.mem_append_left _ hmem
  · intro hmem
    apply hl
    rw [← splitEnding_append l]
    exact List.mem_append_left _ hmem

/-- Only the last line can be without an ending. -/
theorem ending_ne_nil (h : l ∈ (linesWithEnds t).dropLast) : (splitEnding l).2 ≠ [] := by
  rw [Ne, splitEnding_snd_eq_nil_iff, not_not]
  induction t using feed_induction with
  | last t ht =>
      rw [linesWithEnds_of_not_mem ht] at h
      split at h <;> simp at h
  | feed a t ha ih =>
      rw [linesWithEnds_append ha] at h
      cases hrest : linesWithEnds t with
      | nil => simp [hrest] at h
      | cons next rest =>
          rw [hrest, List.dropLast_cons_cons] at h
          rcases List.mem_cons.mp h with rfl | h
          · simp
          · exact ih (hrest ▸ h)

end TemplateTree.Text
