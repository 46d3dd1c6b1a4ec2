import TemplateTree.Proofs.Text.Fields
import TemplateTree.Text.Words
import Mathlib.Data.List.Forall2
import Mathlib.Tactic.Common

/-!
# The words of a name

Cutting a name into words loses nothing but the characters at which it is cut, and neither
does writing the words anew: letters and digits stay in their order.
-/

namespace TemplateTree.Text

variable {p : Char → Bool} {t w letters : Text} {ts parts : List Text} {c : Char}
  {mode : WordCase} {current : Text}

/-! ## Humps -/

theorem flatten_humps (h : t ≠ []) : (humps mode current t).flatten = current.reverse ++ t := by
  fun_induction humps mode current t with
  | case1 => exact absurd rfl h
  | case2 => simp
  | case3 _ _ _ _ _ _ _ ih => simp [ih]
  | case4 _ _ _ _ _ _ _ _ ih => simp [ih]
  | case5 _ _ _ _ _ _ _ _ ih => simp [ih]

/-- Before a run of capitals is cut, a capital of it was read. -/
theorem ne_nil_of_mem_humps (hmode : mode = .upper → current ≠ [])
    (h : w ∈ humps mode current t) : w ≠ [] := by
  fun_induction humps mode current t with
  | case1 => cases h
  | case2 =>
      obtain rfl := List.mem_singleton.mp h
      simp
  | case3 _ _ _ _ _ _ _ ih =>
      rcases List.mem_cons.mp h with rfl | h
      · simp
      · exact ih (by simp) h
  | case4 _ _ _ _ _ _ _ hcut ih =>
      simp only [Bool.and_eq_true, decide_eq_true_eq] at hcut
      rcases List.mem_cons.mp h with rfl | h
      · simpa using hmode hcut.1.1
      · exact ih (by simp) h
  | case5 _ _ _ _ _ _ _ _ ih => exact ih (by simp) h

theorem nameWords_of_forall (hne : t ≠ []) (h : ∀ c ∈ t, isAlphanumeric c = true) :
    (nameWords t).flatten = t ∧ ∀ w ∈ nameWords t, w ≠ [] := by
  have hwords : nameWords t = humps .unknown [] t := by
    rw [nameWords, splitWhere_of_forall fun c hc => by simp [h c hc], List.flatMap_singleton]
  rw [hwords, flatten_humps hne]
  exact ⟨rfl, fun w hw => ne_nil_of_mem_humps (by simp) hw⟩

/-! ## Words with underscores between them -/

/-- A text that spells letters in their order, with underscores between some of them. -/
structure Spells (letters t : Text) : Prop where
  filter_eq : t.filter (· ≠ '_') = letters
  head_eq : t.head? = letters.head?

theorem Spells.self (h : '_' ∉ t) : Spells t t := by
  refine ⟨List.filter_eq_self.mpr fun c hc => ?_, rfl⟩
  simpa using fun heq : c = '_' => h (heq ▸ hc)

theorem Spells.ne_nil (h : Spells letters t) (hne : letters ≠ []) : t ≠ [] := by
  rintro rfl
  exact hne h.filter_eq.symm

theorem Spells.mem (h : Spells letters t) (hc : c ∈ t) : c = '_' ∨ c ∈ letters := by
  by_cases heq : c = '_'
  · exact .inl heq
  · exact .inr (h.filter_eq ▸ List.mem_filter.mpr ⟨hc, by simpa using heq⟩)

/-- What is spelled by texts one by one is spelled by all of them with underscores between. -/
theorem Spells.joinWith (h : List.Forall₂ Spells parts ts) (hne : ∀ l ∈ parts, l ≠ []) :
    Spells parts.flatten (joinWith ['_'] ts) := by
  induction h with
  | nil => exact ⟨rfl, rfl⟩
  | @cons l t parts ts hfirst hrest ih =>
      have hrest' := ih fun l' hl' => hne l' (List.mem_cons_of_mem _ hl')
      have hhead : ∀ r : Text, (t ++ r).head? = (l ++ parts.flatten).head? := by
        intro r
        rw [List.head?_append_of_ne_nil _ (hfirst.ne_nil (hne l List.mem_cons_self)),
          List.head?_append_of_ne_nil _ (hne l List.mem_cons_self), hfirst.head_eq]
      cases ts with
      | nil =>
          cases hrest
          simpa [Text.joinWith] using hfirst
      | cons u ts =>
          have hjoined : Text.joinWith ['_'] (t :: u :: ts) =
              t ++ (['_'] ++ Text.joinWith ['_'] (u :: ts)) := List.append_assoc _ _ _
          rw [hjoined]
          refine ⟨?_, hhead _⟩
          rw [List.filter_append, List.filter_append, hfirst.filter_eq, hrest'.filter_eq]
          rfl

/-! ## Letters and digits of ASCII -/

theorem isAlphanum_iff :
    c.isAlphanum = true ↔ (c.isUpper = true ∨ c.isLower = true) ∨ c.isDigit = true :=
  Bool.or_eq_true_iff.trans (or_congr_left Bool.or_eq_true_iff)

theorem toNat_lt_of_isAlphanum (h : c.isAlphanum = true) : c.toNat < 128 := by
  have hbound {last : Char} (hlast : last.toNat < 128) (hle : c.val ≤ last.val) : c.toNat < 128 :=
    Nat.lt_of_le_of_lt (UInt32.le_iff_toNat_le.mp hle) hlast
  rcases isAlphanum_iff.mp h with (hupper | hlower) | hdigit
  · exact hbound (by decide) (of_decide_eq_true hupper).2
  · exact hbound (by decide) (of_decide_eq_true (Bool.and_eq_true_iff.mp hlower).2)
  · exact hbound (by decide) (of_decide_eq_true (Bool.and_eq_true_iff.mp hdigit).2)

/-- What holds of the characters of ASCII one by one holds of all of them. -/
theorem forall_ascii {P : Char → Prop} (h : ∀ n < 128, P (Char.ofNat n)) (hc : c.toNat < 128) :
    P c := by
  rw [← Char.ofNat_toNat c]
  exact h _ hc

theorem isAlphanumeric_of_isAlphanum (h : c.isAlphanum = true) : isAlphanumeric c = true := by
  rw [isAlphanumeric, if_pos (toNat_lt_of_isAlphanum h), h]

/-- What upper case makes of letters and digits. -/
theorem isUpper_or_isDigit_toUpper (h : c.isAlphanum = true) :
    c.toUpper.isUpper = true ∨ c.toUpper.isDigit = true := by
  refine forall_ascii (P := fun c => c.isAlphanum = true → c.toUpper.isUpper = true ∨
    c.toUpper.isDigit = true) ?_ (toNat_lt_of_isAlphanum h) h
  decide

theorem not_mem_upperAscii (h : ∀ c ∈ t, c.isAlphanum = true) : '_' ∉ upperAscii t := by
  intro hmem
  obtain ⟨c, hc, heq⟩ := List.mem_map.mp hmem
  rcases isUpper_or_isDigit_toUpper (h c hc) with hupper | hdigit
  · simp [heq] at hupper
  · simp [heq] at hdigit

theorem toUpper_eq_upperAscii (h : ∀ c ∈ t, c.isAlphanum = true) : toUpper t = upperAscii t := by
  have hone : ∀ c ∈ t, upperOf c = [c.toUpper] := fun c hc =>
    if_pos (toNat_lt_of_isAlphanum (h c hc))
  rw [toUpper, List.flatMap_congr hone, upperAscii, List.map_eq_flatMap]

/-- A word of letters and digits is written in upper case, with underscores at most put in. -/
theorem spells_shoutySnakeCase (hne : w ≠ []) (h : ∀ c ∈ w, c.isAlphanum = true) :
    Spells (upperAscii w) (shoutySnakeCase w) := by
  obtain ⟨hflatten, hwords⟩ :=
    nameWords_of_forall hne fun c hc => isAlphanumeric_of_isAlphanum (h c hc)
  have hparts : ∀ part ∈ nameWords w, ∀ c ∈ part, c.isAlphanum = true := fun part hpart c hc =>
    h c (hflatten ▸ List.mem_flatten.mpr ⟨part, hpart, hc⟩)
  have hspells :
      List.Forall₂ Spells ((nameWords w).map upperAscii) ((nameWords w).map toUpper) := by
    rw [List.forall₂_map_left_iff, List.forall₂_map_right_iff, List.forall₂_same]
    intro part hpart
    rw [toUpper_eq_upperAscii (hparts part hpart)]
    exact .self (not_mem_upperAscii (hparts part hpart))
  have hne' : ∀ letters ∈ (nameWords w).map upperAscii, letters ≠ [] := by
    intro letters hletters
    obtain ⟨part, hpart, rfl⟩ := List.mem_map.mp hletters
    simpa [upperAscii] using hwords part hpart
  have hjoined := Spells.joinWith hspells hne'
  rwa [show ((nameWords w).map upperAscii).flatten = upperAscii w by
    conv_rhs => rw [← hflatten]
    exact List.map_flatten.symm] at hjoined

end TemplateTree.Text
