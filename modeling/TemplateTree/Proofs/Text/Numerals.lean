import TemplateTree.Text.Blank
import TemplateTree.Text.Decimal
import Mathlib.Data.List.Basic
import Mathlib.Tactic.Common

/-!
# Numerals in files

A number is written in decimal digits, and it is read back from them.
-/

namespace TemplateTree.Text

variable {t : Text} {c : Char} {n : Nat}

theorem isDigit_iff : c.isDigit = true ↔ 48 ≤ c.toNat ∧ c.toNat ≤ 57 := by
  rw [Char.isDigit, Bool.and_eq_true, decide_eq_true_iff, decide_eq_true_iff]
  rfl

theorem isDigit_of_mem_decimal (h : c ∈ decimal n) : c.isDigit = true :=
  Nat.isDigit_of_mem_toDigits (by decide) (by decide) h

theorem decimal_ne_nil (n : Nat) : decimal n ≠ [] :=
  Nat.toDigits_ne_nil

theorem valueFrom_eq (h : ∀ c ∈ t, c.isDigit = true) (acc : Nat) :
    valueFrom 10 acc t = Nat.ofDigitChars 10 t acc := by
  induction t generalizing acc with
  | nil => simp [valueFrom]
  | cons c t ih =>
      have hc := h c List.mem_cons_self
      have hvalue : (hexValue? c).getD 0 = c.toNat - '0'.toNat := by
        simp [hexValue?, hc, digitValue]
      have hrest := ih (fun d hd => h d (List.mem_cons_of_mem _ hd))
        (acc * 10 + (c.toNat - '0'.toNat))
      rw [Nat.ofDigitChars_cons, Nat.mul_comm 10 acc, ← hrest]
      simp only [valueFrom, List.foldl_cons, hvalue]

theorem readDigits?_decimal (n : Nat) : readDigits? (decimal n) = some n := by
  have hdigits : ∀ c ∈ decimal n, c.isDigit = true := fun c => isDigit_of_mem_decimal
  have hall : (decimal n).all Char.isDigit = true := List.all_eq_true.mpr hdigits
  rw [readDigits?, hall, valueFrom_eq hdigits]
  simp [decimal, Nat.ofDigitChars_ten_toDigits]

theorem readBelow?_decimal (limit n : Nat) :
    readBelow? limit (decimal n) = if n < limit then some n else none := by
  obtain ⟨c, r, hr⟩ := List.exists_cons_of_ne_nil (decimal_ne_nil n)
  have hc : c.isDigit = true := isDigit_of_mem_decimal (n := n) (by simp [hr])
  have hsign : c ≠ '+' := by
    rintro rfl
    simp at hc
  have hread := readDigits?_decimal n
  rw [hr] at hread ⊢
  unfold readBelow?
  split
  case h_1 heq => exact absurd (List.cons.inj heq).1 hsign
  case h_2 =>
    dsimp only
    rw [hread, Option.filter_some]
    simp

/-! ## White space -/

theorem isSpace_of_isDigit (h : c.isDigit = true) : isSpace c = false := by
  obtain ⟨hlow, hhigh⟩ := isDigit_iff.mp h
  simp only [isSpace, Bool.or_eq_false_iff, Bool.and_eq_false_iff, decide_eq_false_iff_not,
    beq_eq_false_iff_ne]
  omega

theorem dropTrailing_of_all {p : Char → Bool} (h : ∀ c ∈ t, p c = false) :
    dropTrailing p t = t := by
  induction t with
  | nil => rfl
  | cons c t ih =>
      rw [dropTrailing_cons, ih fun d hd => h d (List.mem_cons_of_mem _ hd)]
      simp [h c List.mem_cons_self]

theorem trim_of_all (h : ∀ c ∈ t, isSpace c = false) : trim t = t := by
  have hstart : trimStart t = t := by
    cases t with
    | nil => rfl
    | cons c t => simp [trimStart, dropLeading, h c List.mem_cons_self]
  rw [trim, hstart, trimEnd, dropTrailing_of_all h]

theorem trim_decimal (n : Nat) : trim (decimal n) = decimal n :=
  trim_of_all fun _ hc => isSpace_of_isDigit (isDigit_of_mem_decimal hc)

end TemplateTree.Text
