import TemplateTree.Text.Blank
import Mathlib.Data.List.Infix
import Mathlib.Tactic.Common

/-!
# Cutting at a separator

Where the leftmost, non-overlapping occurrences of a separator are.  A separator
may overlap itself, so that what follows an occurrence is searched anew.  A text
is cut in exactly one way, and `splitBy` finds it.
-/

namespace TemplateTree.Text

/-- The occurrence of `sep` right after `a` is the first one of `a ++ sep`. -/
def FirstAfter (a sep : Text) : Prop :=
  ∀ x y, a ++ sep = x ++ sep ++ y → y = []

/-- The parts of a text between the leftmost, non-overlapping occurrences of a
separator. -/
inductive Cuts (sep : Text) : Text → List Text → Prop
  | whole {t : Text} (h : ¬ sep <:+: t) : Cuts sep t [t]
  | cut {a b : Text} {parts : List Text} (h : FirstAfter a sep) (rest : Cuts sep b parts) :
      Cuts sep (a ++ sep ++ b) (a :: parts)

variable {sep a b c t : Text}

theorem firstAfter_nil (sep : Text) : FirstAfter [] sep := by
  intro x y h
  have hlen := congrArg List.length h
  simp only [List.nil_append, List.length_append] at hlen
  exact List.length_eq_zero_iff.mp (by omega)

theorem FirstAfter.tail {x : Char} (h : FirstAfter (x :: a) sep) : FirstAfter a sep := by
  intro u v huv
  exact h (x :: u) v (by simp [huv])

/-- Nothing that starts before the end of `a` begins with the separator. -/
theorem FirstAfter.not_prefix {x : Char} (h : FirstAfter (x :: a) sep) :
    ¬ sep <+: x :: a ++ sep ++ b := by
  intro hpre
  have hshort : sep <+: x :: a ++ sep :=
    List.prefix_of_prefix_length_le hpre (List.prefix_append _ b) (by simp; omega)
  obtain ⟨r, hr⟩ := hshort
  have hnil : r = [] := h [] r (by simpa using hr.symm)
  have hlen := congrArg List.length hr
  simp only [hnil, List.append_nil, List.length_append, List.length_cons] at hlen
  omega

theorem firstAfter_cons_iff {x : Char} :
    FirstAfter (x :: a) sep ↔ ¬ sep <+: x :: a ++ sep ∧ FirstAfter a sep := by
  constructor
  · intro h
    exact ⟨by simpa using h.not_prefix (b := []), h.tail⟩
  · rintro ⟨hpre, htail⟩ u v huv
    cases u with
    | nil => exact absurd ⟨v, by simpa using huv.symm⟩ hpre
    | cons d u =>
        simp only [List.cons_append, List.cons.injEq] at huv
        exact htail u v huv.2

theorem prefix_append_cons_iff {x : Char} (hx : x ∉ sep) : sep <+: a ++ x :: b ↔ sep <+: a := by
  constructor
  · intro h
    by_cases hlen : sep.length ≤ a.length
    · exact List.prefix_of_prefix_length_le h (List.prefix_append a _) hlen
    · have hnext : a ++ [x] <+: a ++ x :: b := ⟨b, by rw [List.append_assoc, List.singleton_append]⟩
      have hlong : a ++ [x] <+: sep := List.prefix_of_prefix_length_le hnext h (by simp; omega)
      exact absurd (hlong.subset (by simp)) hx
  · intro h
    exact h.trans (List.prefix_append a _)

/-- A character that the separator leaves out divides a text for it. -/
theorem infix_append_cons_iff (hsep : sep ≠ []) {x : Char} (hx : x ∉ sep) :
    sep <:+: a ++ x :: b ↔ sep <:+: a ∨ sep <:+: b := by
  induction a with
  | nil =>
      have hpre : ¬ sep <+: x :: b := by
        simpa [hsep] using (prefix_append_cons_iff (a := []) (b := b) hx).not
      simp [List.infix_cons_iff, hpre, hsep]
  | cons y a ih =>
      have hpre := prefix_append_cons_iff (a := y :: a) (b := b) hx
      rw [List.cons_append] at hpre
      rw [List.cons_append, List.infix_cons_iff, ih, hpre, List.infix_cons_iff, or_assoc]

theorem firstAfter_append_cons_iff (hsep : sep ≠ []) {x : Char} (hx : x ∉ sep) :
    FirstAfter (a ++ x :: b) sep ↔ ¬ sep <:+: a ∧ FirstAfter b sep := by
  induction a with
  | nil =>
      have hpre : ¬ sep <+: x :: (b ++ sep) := by
        simpa [hsep] using (prefix_append_cons_iff (a := []) (b := b ++ sep) hx).not
      simp [firstAfter_cons_iff, hpre, hsep]
  | cons y a ih =>
      have hpre := prefix_append_cons_iff (a := y :: a) (b := b ++ sep) hx
      rw [List.cons_append, firstAfter_cons_iff, ih, List.infix_cons_iff, not_or, and_assoc]
      simp [← hpre]

theorem dropStart?_eq_none_iff : dropStart? sep t = none ↔ ¬ sep <+: t := by
  rw [Option.eq_none_iff_forall_ne_some]
  constructor
  · rintro h ⟨r, hr⟩
    exact h r (dropStart?_eq_some_iff.mpr hr.symm)
  · intro h r hr
    exact h ⟨r, (dropStart?_eq_some_iff.mp hr).symm⟩

theorem startsWith_eq_true_iff : startsWith t sep = true ↔ sep <+: t :=
  startsWith_iff.trans ⟨fun ⟨r, h⟩ => ⟨r, h.symm⟩, fun ⟨r, h⟩ => ⟨r, h.symm⟩⟩

theorem splitOnce?_append (hsep : sep ≠ []) (h : FirstAfter a sep) :
    splitOnce? sep (a ++ sep ++ b) = some (a, b) := by
  induction a with
  | nil =>
      obtain ⟨x, s, rfl⟩ := List.exists_cons_of_ne_nil hsep
      have hdrop : dropStart? (x :: s) (x :: (s ++ b)) = some b := dropStart?_eq_some_iff.mpr rfl
      simp [splitOnce?, hdrop]
  | cons x a ih =>
      have hnone : dropStart? sep (x :: a ++ sep ++ b) = none :=
        dropStart?_eq_none_iff.mpr h.not_prefix
      simp only [List.cons_append] at hnone ⊢
      simp only [splitOnce?, hnone, ih h.tail, Option.map_some]

theorem splitOnce?_eq_none_iff : splitOnce? sep t = none ↔ ¬ sep <:+: t := by
  induction t with
  | nil => by_cases h : sep = [] <;> simp [splitOnce?, h]
  | cons x r ih =>
      cases hd : dropStart? sep (x :: r) with
      | some rest =>
          have hpre : sep <+: x :: r := ⟨rest, (dropStart?_eq_some_iff.mp hd).symm⟩
          simp [splitOnce?, hd, hpre.isInfix]
      | none =>
          have hpre := dropStart?_eq_none_iff.mp hd
          simp [splitOnce?, hd, ih, List.infix_cons_iff, hpre]

theorem includes_iff : includes t sep = true ↔ sep <:+: t := by
  rw [includes, Option.isSome_iff_ne_none, ne_eq, splitOnce?_eq_none_iff, not_not]

/-- Every occurrence has a first one before it or in its place. -/
theorem exists_firstAfter (h : sep <:+: t) : ∃ a b, t = a ++ sep ++ b ∧ FirstAfter a sep := by
  induction t with
  | nil =>
      have hnil := List.infix_nil.mp h
      exact ⟨[], [], by simp [hnil], firstAfter_nil sep⟩
  | cons x r ih =>
      by_cases hpre : sep <+: x :: r
      · obtain ⟨b, hb⟩ := hpre
        exact ⟨[], b, by simp [hb], firstAfter_nil sep⟩
      · obtain ⟨a, b, rfl, ha⟩ := ih ((List.infix_cons_iff.mp h).resolve_left hpre)
        refine ⟨x :: a, b, by simp, firstAfter_cons_iff.mpr ⟨?_, ha⟩⟩
        intro hshort
        exact hpre (hshort.trans ⟨b, by simp⟩)

theorem splitOnce?_eq_some_iff (hsep : sep ≠ []) :
    splitOnce? sep t = some (a, b) ↔ t = a ++ sep ++ b ∧ FirstAfter a sep := by
  constructor
  · intro h
    have hin : sep <:+: t := by
      by_contra hnot
      simp [splitOnce?_eq_none_iff.mpr hnot] at h
    obtain ⟨u, v, rfl, hu⟩ := exists_firstAfter hin
    rw [splitOnce?_append hsep hu] at h
    obtain ⟨rfl, rfl⟩ : u = a ∧ v = b := by simpa using h
    exact ⟨rfl, hu⟩
  · rintro ⟨rfl, h⟩
    exact splitOnce?_append hsep h

/-! ## The parts that are found -/

theorem cutFrom_skip (n : Nat) : cutFrom sep n t = cutFrom sep 0 (t.drop n) := by
  induction t generalizing n with
  | nil => cases n <;> simp [cutFrom]
  | cons x r ih =>
      cases n with
      | zero => simp
      | succ n => simpa [cutFrom] using ih n

theorem splitBy_of_ne_nil (hsep : sep ≠ []) :
    splitBy sep t = (cutFrom sep 0 t).1 :: (cutFrom sep 0 t).2 := by
  simp [splitBy, hsep]

theorem splitBy_sep_append (hsep : sep ≠ []) : splitBy sep (sep ++ b) = [] :: splitBy sep b := by
  obtain ⟨x, s, rfl⟩ := List.exists_cons_of_ne_nil hsep
  have hstart : startsWith (x :: (s ++ b)) (x :: s) = true :=
    startsWith_eq_true_iff.mpr ⟨b, rfl⟩
  have hdrop : cutFrom (x :: s) s.length (s ++ b) = cutFrom (x :: s) 0 b := by
    rw [cutFrom_skip, List.drop_left]
  simp [splitBy_of_ne_nil hsep, cutFrom, hstart, hdrop]

theorem splitBy_cons (hsep : sep ≠ []) {x : Char} (h : ¬ sep <+: x :: t) :
    splitBy sep (x :: t) = (splitBy sep t).modifyHead (x :: ·) := by
  have hstart : startsWith (x :: t) sep = false := by
    simpa [← startsWith_eq_true_iff] using h
  simp [splitBy_of_ne_nil hsep, cutFrom, hstart]

theorem splitBy_append (hsep : sep ≠ []) (h : FirstAfter a sep) :
    splitBy sep (a ++ sep ++ b) = a :: splitBy sep b := by
  induction a with
  | nil => simpa using splitBy_sep_append hsep
  | cons x a ih =>
      have hstep : splitBy sep (x :: (a ++ sep ++ b)) =
          (splitBy sep (a ++ sep ++ b)).modifyHead (x :: ·) := splitBy_cons hsep h.not_prefix
      rw [List.cons_append, List.cons_append, hstep, ih h.tail, List.modifyHead_cons]

theorem splitBy_of_not_infix (hsep : sep ≠ []) (h : ¬ sep <:+: t) : splitBy sep t = [t] := by
  induction t with
  | nil => simp [splitBy_of_ne_nil hsep, cutFrom]
  | cons x r ih =>
      have hparts : ¬ sep <+: x :: r ∧ ¬ sep <:+: r := by
        simpa [List.infix_cons_iff] using h
      rw [splitBy_cons hsep hparts.1, ih hparts.2, List.modifyHead_cons]

theorem Cuts.splitBy_eq (hsep : sep ≠ []) {parts : List Text} (h : Cuts sep t parts) :
    splitBy sep t = parts := by
  induction h with
  | whole h => exact splitBy_of_not_infix hsep h
  | cut h _ ih => rw [splitBy_append hsep h, ih]

/-- Every text can be cut, by induction on its length. -/
theorem exists_cuts (hsep : sep ≠ []) (t : Text) : ∃ parts, Cuts sep t parts := by
  induction hn : t.length using Nat.strong_induction_on generalizing t with
  | _ n ih =>
      by_cases hin : sep <:+: t
      · obtain ⟨a, b, rfl, ha⟩ := exists_firstAfter hin
        have hpos := List.length_pos_iff.mpr hsep
        have hlen : b.length < n := by
          simp only [← hn, List.length_append]
          omega
        obtain ⟨parts, hb⟩ := ih b.length hlen b rfl
        exact ⟨a :: parts, .cut ha hb⟩
      · exact ⟨[t], .whole hin⟩

/-- A text is cut in exactly one way, which is the one that is found. -/
theorem cuts_iff_splitBy_eq (hsep : sep ≠ []) {parts : List Text} :
    Cuts sep t parts ↔ splitBy sep t = parts := by
  constructor
  · exact Cuts.splitBy_eq hsep
  · rintro rfl
    obtain ⟨parts, h⟩ := exists_cuts hsep t
    rwa [h.splitBy_eq hsep]

/-- Cutting loses nothing but the separators. -/
theorem Cuts.joinWith_eq {parts : List Text} (h : Cuts sep t parts) : joinWith sep parts = t := by
  induction h with
  | whole _ => rfl
  | cut _ hrest ih =>
      cases hrest with
      | whole _ => simp_all [joinWith]
      | cut _ _ => simp_all [joinWith]

theorem Cuts.exists_cons {parts : List Text} (h : Cuts sep t parts) :
    ∃ part rest, parts = part :: rest := by
  cases h <;> exact ⟨_, _, rfl⟩

theorem Cuts.tail (hsep : sep ≠ []) {parts : List Text}
    (h : Cuts sep (a ++ sep ++ b) (a :: parts)) : Cuts sep b parts := by
  generalize ht : a ++ sep ++ b = t at h
  cases h with
  | whole h =>
      have hlen := congrArg List.length ht
      have hpos := List.length_pos_of_ne_nil hsep
      simp only [List.length_append] at hlen
      omega
  | cut _ hrest => rwa [List.append_cancel_left ht]

theorem FirstAfter.not_infix (hsep : sep ≠ []) (h : FirstAfter a sep) : ¬ sep <:+: a := by
  rintro ⟨x, y, hxy⟩
  have hnil := h x (y ++ sep) (by simp [← hxy])
  exact hsep (List.append_eq_nil_iff.mp hnil).2

/-- No part holds the separator. -/
theorem Cuts.not_infix_of_mem (hsep : sep ≠ []) {parts : List Text} (h : Cuts sep t parts)
    {part : Text} (hmem : part ∈ parts) : ¬ sep <:+: part := by
  induction h with
  | whole h => simpa [List.mem_singleton.mp hmem] using h
  | @cut a b parts ha _ ih =>
      rcases List.mem_cons.mp hmem with rfl | hmem
      · exact ha.not_infix hsep
      · exact ih hmem

/-- The separator occurs once exactly if there are two parts. -/
theorem occurrences_eq_one_iff (hsep : sep ≠ []) :
    occurrences sep t = 1 ↔ ∃ a b, Cuts sep t [a, b] := by
  obtain ⟨parts, h⟩ := exists_cuts hsep t
  rw [occurrences, h.splitBy_eq hsep]
  constructor
  · intro hlen
    obtain ⟨a, b, rfl⟩ := List.length_eq_two.mp (show parts.length = 2 by
      cases h with
      | whole _ => simp at hlen
      | cut _ _ => simp_all)
    exact ⟨a, b, h⟩
  · rintro ⟨a, b, hab⟩
    rw [← h.splitBy_eq hsep, hab.splitBy_eq hsep]
    rfl

theorem cuts_pair_iff :
    Cuts sep t [a, b] ↔ t = a ++ sep ++ b ∧ FirstAfter a sep ∧ ¬ sep <:+: b := by
  constructor
  · rintro (_ | ⟨ha, hb⟩)
    cases hb with
    | whole hb => exact ⟨rfl, ha, hb⟩
    | cut _ hrest => cases hrest
  · rintro ⟨rfl, ha, hb⟩
    exact .cut ha (.whole hb)

end TemplateTree.Text
