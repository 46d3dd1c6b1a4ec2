import TemplateTree.Proofs.Source.LineMap
import Mathlib.Algebra.Order.BigOperators.Group.List
import Mathlib.Algebra.Order.Group.Nat

/-!
# Template texts without tags

Tags are looked for at the two ends of a line.  A text without the opening of a block or
comment tag keeps all its indentation, but a line may still end like a tag, and its ending is
dropped then.
-/

namespace TemplateTree.Source

open Text

variable {o : EngineOptions} {t l : Text} {lines : List Text}

/-- A text in which no block or comment tag opens. -/
def Untagged (t : Text) : Prop :=
  ¬ ['\x7b', '%'] <:+: t ∧ ¬ ['\x7b', '#'] <:+: t

instance : DecidablePred EndsInTag :=
  fun _ => decidable_of_iff _ endsWithTag_iff

instance : DecidablePred (DropsEnding o) :=
  fun _ => instDecidableAnd

/-- A line without its ending, if that is dropped. -/
def unended (o : EngineOptions) (line : Text) : Text :=
  if DropsEnding o line then (splitEnding line).1 else line

theorem Untagged.of_isInfix (h : Untagged t) (hl : l <:+: t) : Untagged l :=
  ⟨fun htag => h.1 (htag.trans hl), fun htag => h.2 (htag.trans hl)⟩

theorem Untagged.of_mem_lines (h : Untagged t) (hl : l ∈ linesWithEnds t) : Untagged l := by
  rw [← linesWithEnds_flatten t] at h
  exact h.of_isInfix (List.infix_of_mem_flatten hl)

theorem Untagged.not_beginsInTag (h : Untagged t) : ¬ BeginsInTag t := by
  rintro (htag | htag)
  · exact h.1 htag.isInfix
  · exact h.2 htag.isInfix

theorem Untagged.kept_eq (h : Untagged l) : kept o l = (splitEnding l).1 := by
  have hcontent : (splitEnding l).1 <:+: l := ⟨[], (splitEnding l).2, splitEnding_append l⟩
  have hstripped : dropLeading isIndent (splitEnding l).1 <:+: l :=
    (List.dropWhile_suffix _).isInfix.trans hcontent
  rw [kept, lineContent, if_neg]
  rw [Bool.and_eq_true, beginsWithTag_iff]
  exact fun htag => (h.of_isInfix hstripped).not_beginsInTag htag.2

theorem keepsEnding_iff_of_kept (h : kept o l = (splitEnding l).1) :
    KeepsEnding o l ↔ (splitEnding l).2 ≠ [] ∧ ¬ DropsEnding o l := by
  rw [KeepsEnding, keepsEnding, h, Bool.and_eq_true, bne_iff_ne, Bool.not_eq_true',
    ← Bool.not_eq_true, Bool.and_eq_true, endsWithTag_iff, DropsEnding]

theorem unended_of_keepsEnding (h : Untagged l) (hkeeps : KeepsEnding o l) :
    unended o l = kept o l ++ (splitEnding l).2 := by
  rw [unended, if_neg ((keepsEnding_iff_of_kept h.kept_eq).mp hkeeps).2, h.kept_eq,
    splitEnding_append]

theorem unended_of_not_keepsEnding (h : Untagged l) (hkeeps : ¬ KeepsEnding o l) :
    unended o l = kept o l := by
  rw [h.kept_eq, unended]
  split
  case isTrue => rfl
  case isFalse hdrops =>
    rw [keepsEnding_iff_of_kept h.kept_eq, not_and_not_right] at hkeeps
    have hending : (splitEnding l).2 = [] := by
      by_contra hne
      exact hdrops (hkeeps hne)
    have happend := splitEnding_append l
    rwa [hending, List.append_nil, eq_comm] at happend

theorem processLines_of_untagged (number : Nat) (h : ∀ l ∈ lines, Untagged l) :
    (processLines o number lines).1 = lines.flatMap (unended o) := by
  induction lines generalizing number with
  | nil => rfl
  | cons l lines ih =>
      have hl := h l List.mem_cons_self
      have hrest := fun n => ih n fun x hx => h x (List.mem_cons_of_mem _ hx)
      rw [List.flatMap_cons]
      by_cases hkeeps : KeepsEnding o l
      · rw [processLines_of_keepsEnding hkeeps, hrest, unended_of_keepsEnding hl hkeeps]
      · rw [processLines_of_not_keepsEnding hkeeps, hrest, unended_of_not_keepsEnding hl hkeeps]

theorem unended_isPrefix (o : EngineOptions) (l : Text) : unended o l <+: l := by
  rw [unended]
  split
  · exact ⟨_, splitEnding_append l⟩
  · exact List.prefix_rfl

theorem unended_eq_self_iff : unended o l = l ↔ (DropsEnding o l → (splitEnding l).2 = []) := by
  have happend := splitEnding_append l
  rw [unended]
  split
  case isTrue hdrops =>
    rw [imp_iff_right hdrops, ← List.append_right_eq_self, happend, eq_comm]
  case isFalse hdrops => simp [hdrops]

/-- A text that comes of another one line by line is the same text only if every line is. -/
theorem forall_eq_of_flatMap_eq {f : Text → Text} (hshort : ∀ l, f l <+: l)
    (h : lines.flatMap f = lines.flatten) : ∀ l ∈ lines, f l = l := by
  by_contra hnot
  push Not at hnot
  obtain ⟨l, hl, hne⟩ := hnot
  have hlt : (f l).length < l.length := by
    refine lt_of_le_of_ne (hshort l).length_le fun hlength => hne ?_
    exact (hshort l).eq_of_length hlength
  have hsum := List.sum_lt_sum (l := lines) (fun l => (f l).length) List.length
    (fun l _ => (hshort l).length_le) ⟨l, hl, hlt⟩
  rw [← List.length_flatMap, ← List.length_flatten, h] at hsum
  exact lt_irrefl _ hsum

/-- Of a text without tags nothing is dropped but the endings of lines that end like a tag;
where there are none of these, neither the text nor the numbers of its lines change. -/
theorem processed_of_untagged (o : EngineOptions) (h : Untagged t) :
    (ofText o t).processed = (linesWithEnds t).flatMap (unended o) ∧
    ((ofText o t).processed = t ↔
      ∀ l ∈ linesWithEnds t, DropsEnding o l → (splitEnding l).2 = []) ∧
    ((ofText o t).processed = t → ∀ n, (ofText o t).sourceLine n = n) := by
  have hprocessed : (ofText o t).processed = (linesWithEnds t).flatMap (unended o) :=
    processLines_of_untagged 1 fun l => h.of_mem_lines
  have hsame : (ofText o t).processed = t ↔
      ∀ l ∈ linesWithEnds t, DropsEnding o l → (splitEnding l).2 = [] := by
    rw [hprocessed]
    constructor
    · intro heq l hl
      rw [← unended_eq_self_iff]
      refine forall_eq_of_flatMap_eq (unended_isPrefix o) ?_ l hl
      rw [heq, linesWithEnds_flatten]
    · intro hkeep
      have hmap : (linesWithEnds t).map (unended o) = linesWithEnds t :=
        (List.map_congr_left fun l hl => unended_eq_self_iff.mpr (hkeep l hl)).trans (List.map_id _)
      rw [List.flatMap_def, hmap, linesWithEnds_flatten]
  refine ⟨hprocessed, hsame, fun heq n => ?_⟩
  obtain ⟨groups, rest, hgroups⟩ := exists_grouping o t
  exact hgroups.sourceLine_eq_self (hsame.mp heq) n

/-- Of two lines that are not tags, the one that ends like a tag is joined to the next one. -/
theorem processed_of_untagged_call :
    (ofText ⟨true, true, false⟩ ['a', '%', '\x7d', '\n', 'b']).processed =
      ['a', '%', '\x7d', 'b'] ∧
    (∀ n, (ofText ⟨true, true, false⟩ [' ', 'a', '\x7d', '\n', 'b']).sourceLine n = n) := by
  have hcall := processed_of_untagged ⟨true, true, false⟩ (t := ['a', '%', '\x7d', '\n', 'b'])
    ⟨by decide, by decide⟩
  have hmap := processed_of_untagged ⟨true, true, false⟩ (t := [' ', 'a', '\x7d', '\n', 'b'])
    ⟨by decide, by decide⟩
  refine ⟨hcall.1.trans ?_, hmap.2.2 (hmap.2.1.mpr ?_)⟩
  · decide
  · decide

end TemplateTree.Source
