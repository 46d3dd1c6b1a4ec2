import TemplateTree.Template.Registry
import Mathlib.Data.List.Basic
import Mathlib.Tactic.Common

/-!
# Entries in order

Things by name are kept in the order of the names.  The order is total and strict, so
that a name is looked up right after entries are put in or taken out.
-/

namespace TemplateTree

namespace Text

variable {a b c : Text}

theorem order_cons (x y : Char) (a b : Text) :
    order (x :: a) (y :: b) = (compare x.toNat y.toNat).then (order a b) := by
  rw [order, Nat.compare_eq_ite_lt]
  split
  · rfl
  · split <;> rfl

@[simp] theorem order_self (a : Text) : order a a = .eq := by
  induction a with
  | nil => rfl
  | cons x a ih => rw [order_cons, ih, Std.compare_self, Ordering.then_eq]

theorem order_eq_iff : order a b = .eq ↔ a = b := by
  induction a generalizing b with
  | nil => cases b <;> simp [order]
  | cons x a ih =>
      cases b with
      | nil => simp [order]
      | cons y b =>
          rw [order_cons, Ordering.then_eq_eq, Nat.compare_eq_eq, Char.toNat_inj, ih,
            List.cons.injEq]

theorem order_swap : (order a b).swap = order b a := by
  induction a generalizing b with
  | nil => cases b <;> rfl
  | cons x a ih =>
      cases b with
      | nil => rfl
      | cons y b => rw [order_cons, order_cons, Ordering.swap_then, Nat.compare_swap, ih]

theorem order_cons_lt_iff {x y : Char} : order (x :: a) (y :: b) = .lt ↔
    x.toNat < y.toNat ∨ x.toNat = y.toNat ∧ order a b = .lt := by
  rw [order_cons, Ordering.then_eq_lt, Nat.compare_eq_lt, Nat.compare_eq_eq]

theorem order_trans (hab : order a b = .lt) (hbc : order b c = .lt) : order a c = .lt := by
  induction a generalizing b c with
  | nil =>
      cases c with
      | nil => cases b <;> simp [order] at hbc
      | cons z c => rfl
  | cons x a ih =>
      cases b with
      | nil => simp [order] at hab
      | cons y b =>
          cases c with
          | nil => simp [order] at hbc
          | cons z c =>
              rw [order_cons_lt_iff] at hab hbc ⊢
              rcases hab with hxy | ⟨hxy, hab⟩
              · have hyz : y.toNat ≤ z.toNat := hbc.elim Nat.le_of_lt fun h => Nat.le_of_eq h.1
                exact .inl (Nat.lt_of_lt_of_le hxy hyz)
              · rcases hbc with hyz | ⟨hyz, hbc⟩
                · exact .inl (hxy ▸ hyz)
                · exact .inr ⟨hxy.trans hyz, ih hab hbc⟩

end Text

namespace ByName

variable {α : Type} {m : ByName α} {e : Text × α} {x y : Text} {v w : α}

theorem lookup_cons : List.lookup y ((x, v) :: m) = if y = x then some v else m.lookup y := by
  rw [List.lookup_cons]
  by_cases h : y = x
  · simp [h]
  · have hbeq : (y == x) = false := by simpa using h
    simp [hbeq, h]

theorem lookup_put : (put x v m).lookup y = if y = x then some v else m.lookup y := by
  induction m with
  | nil => exact lookup_cons
  | cons e m ih =>
      obtain ⟨z, w⟩ := e
      cases hord : Text.order x z with
      | lt => simp [put, hord, lookup_cons]
      | eq =>
          obtain rfl := Text.order_eq_iff.mp hord
          by_cases h : y = x <;> simp [put, lookup_cons, h]
      | gt =>
          have hne : z ≠ x := fun h => by simp [h] at hord
          by_cases hz : y = z <;> simp [put, hord, lookup_cons, hz, hne, ih]

theorem lookup_filter_ne : List.lookup y (m.filter fun e => !decide (e.1 = x)) =
    if y = x then none else m.lookup y := by
  induction m with
  | nil => simp
  | cons e m ih =>
      obtain ⟨z, w⟩ := e
      by_cases hz : z = x
      · rw [List.filter_cons_of_neg (by simp [hz]), ih, lookup_cons, hz]
        split <;> rfl
      · rw [List.filter_cons_of_pos (by simp [hz]), lookup_cons, ih, lookup_cons]
        by_cases hy : y = z <;> simp [hy, hz]

theorem lookup_map {β : Type} (f : Text → α → β) :
    List.lookup x (m.map fun e => (e.1, f e.1 e.2)) = (m.lookup x).map (f x) := by
  induction m with
  | nil => rfl
  | cons e m ih =>
      obtain ⟨z, w⟩ := e
      rw [List.map_cons, lookup_cons, lookup_cons, ih]
      split
      case isTrue h => rw [h, Option.map_some]
      case isFalse => rfl

theorem mem_of_lookup (h : m.lookup x = some v) : (x, v) ∈ m := by
  induction m with
  | nil => simp at h
  | cons e m ih =>
      obtain ⟨z, w⟩ := e
      rw [lookup_cons] at h
      split at h
      case isTrue hz => simp_all
      case isFalse => exact List.mem_cons_of_mem _ (ih h)

theorem lookup_of_mem (hordered : m.Pairwise fun a b => Text.order a.1 b.1 = .lt)
    (h : (x, v) ∈ m) : m.lookup x = some v := by
  induction m with
  | nil => simp at h
  | cons e m ih =>
      obtain ⟨z, w⟩ := e
      rw [List.pairwise_cons] at hordered
      rw [lookup_cons]
      rcases List.mem_cons.mp h with heq | hmem
      · simp_all
      · have hne : x ≠ z := by
          rintro rfl
          have hlt := hordered.1 _ hmem
          simp at hlt
        rw [if_neg hne]
        exact ih hordered.2 hmem

theorem mem_put (h : e ∈ put x v m) : e = (x, v) ∨ e ∈ m := by
  induction m with
  | nil => exact .inl (List.mem_singleton.mp h)
  | cons f m ih =>
      obtain ⟨z, w⟩ := f
      cases hord : Text.order x z <;> simp only [put, hord, List.mem_cons] at h
      · simpa using h
      · obtain rfl | h := h
        · exact .inl rfl
        · exact .inr (List.mem_cons_of_mem _ h)
      · obtain rfl | h := h
        · exact .inr List.mem_cons_self
        · exact (ih h).imp_right (List.mem_cons_of_mem _)

theorem pairwise_put (h : m.Pairwise fun a b => Text.order a.1 b.1 = .lt) :
    (put x v m).Pairwise fun a b => Text.order a.1 b.1 = .lt := by
  induction m with
  | nil => simp [put]
  | cons f m ih =>
      obtain ⟨z, w⟩ := f
      rw [List.pairwise_cons] at h
      cases hord : Text.order x z with
      | lt =>
          simp only [put, hord, List.pairwise_cons]
          refine ⟨fun e he => ?_, h⟩
          obtain rfl | he := List.mem_cons.mp he
          · exact hord
          · exact Text.order_trans hord (h.1 e he)
      | eq =>
          obtain rfl := Text.order_eq_iff.mp hord
          simpa only [put, hord, List.pairwise_cons] using h
      | gt =>
          simp only [put, hord, List.pairwise_cons]
          refine ⟨fun e he => ?_, ih h.2⟩
          obtain rfl | he := mem_put he
          · rw [← Text.order_swap, hord]
            rfl
          · exact h.1 e he

/-- Entries in order are told by what is found under each name. -/
theorem eq_of_lookup {m' : ByName α} (h : m.Pairwise fun a b => Text.order a.1 b.1 = .lt)
    (h' : m'.Pairwise fun a b => Text.order a.1 b.1 = .lt)
    (hlookup : ∀ x, m.lookup x = m'.lookup x) : m = m' := by
  have hnodup : ∀ {l : ByName α}, (l.Pairwise fun a b => Text.order a.1 b.1 = .lt) →
      l.Nodup := fun hl => hl.imp fun hlt heq => by simp [heq] at hlt
  have hperm : m.Perm m' := by
    apply (List.perm_ext_iff_of_nodup (hnodup h) (hnodup h')).mpr
    rintro ⟨x, v⟩
    constructor
    · intro hmem
      exact mem_of_lookup ((hlookup x).symm.trans (lookup_of_mem h hmem))
    · intro hmem
      exact mem_of_lookup ((hlookup x).trans (lookup_of_mem h' hmem))
  refine hperm.eq_of_pairwise (fun a b _ _ hab hba => ?_) h h'
  rw [← Text.order_swap, hba] at hab
  cases hab

theorem has_iff : has m x = true ↔ ∃ v, m.lookup x = some v := by
  rw [has, Option.isSome_iff_exists]

theorem has_put : has (put x v m) y = (decide (y = x) || has m y) := by
  rw [has, lookup_put, has]
  by_cases h : y = x <;> simp [h]

theorem names_put (h : has m x = false) : (names (put x v m)).Perm (x :: names m) := by
  induction m with
  | nil => exact .rfl
  | cons e m ih =>
      obtain ⟨z, w⟩ := e
      have hz : x ≠ z := by
        rintro rfl
        simp [has] at h
      have hm : has m x = false := by
        simpa [has, lookup_cons, hz] using h
      cases hord : Text.order x z with
      | lt => simp [put, hord, names]
      | eq => exact absurd (Text.order_eq_iff.mp hord) hz
      | gt =>
          simp only [put, hord, names, List.map_cons]
          exact ((ih hm).cons z).trans (.swap x z _)

end ByName

end TemplateTree
