import TemplateTree.Proofs.Sections.LineEndings
import TemplateTree.Proofs.Source.LineMap

/-!
# Sources with carriage returns

A template text may end its lines in line feeds or in carriage returns and line feeds.
Processing looks at what is between the endings only, so that both texts come to the same
lines, each with its own endings, and the same lines are found in them.
-/

namespace TemplateTree

open Text Newline

namespace Text

variable {t l a : Text}

theorem splitEnding_of_not_mem (h : '\n' ∉ l) : splitEnding l = (l, []) := by
  have hnone : (splitEnding l).2 = [] := by
    rw [splitEnding_snd_eq_nil_iff]
    exact fun hlast => h (List.mem_of_getLast? hlast)
  have happend := splitEnding_append l
  rw [hnone, List.append_nil] at happend
  exact Prod.ext happend hnone

theorem splitEnding_append_return (a : Text) :
    splitEnding (a ++ ['\r', '\n']) = (a, ['\r', '\n']) := by
  induction a with
  | nil => rfl
  | cons c a ih =>
      rw [List.cons_append, splitEnding.eq_4, ih]
      · exact fun _ hrest => absurd (congrArg List.length hrest) (by simp)
      · exact fun _ hrest => absurd (congrArg List.length hrest) (by simp)

theorem splitEnding_append_feed (h : '\r' ∉ a) : splitEnding (a ++ ['\n']) = (a, ['\n']) := by
  induction a with
  | nil => rfl
  | cons c a ih =>
      rw [List.mem_cons, not_or] at h
      rw [List.cons_append, splitEnding.eq_4, ih h.2]
      · exact fun hc => absurd hc.symm h.1
      · simp

theorem linesWithEnds_addReturns (t : Text) :
    linesWithEnds (addReturns t) = (linesWithEnds t).map addReturns := by
  induction t using feed_induction with
  | last t ht =>
      rw [addReturns_of_not_mem ht, linesWithEnds_of_not_mem ht]
      split
      · rfl
      · rw [List.map_singleton, addReturns_of_not_mem ht]
  | feed a t ha ih =>
      have hreturn : '\n' ∉ a ++ ['\r'] := by simp [ha]
      have hline : addReturns (a ++ ['\n']) = a ++ ['\r', '\n'] := by
        rw [addReturns_append, addReturns_of_not_mem ha]
        rfl
      have htext : addReturns (a ++ '\n' :: t) = a ++ ['\r'] ++ '\n' :: addReturns t := by
        rw [addReturns_append, addReturns_of_not_mem ha]
        simp
      rw [htext, linesWithEnds_append hreturn, ih, linesWithEnds_append ha, List.map_cons, hline]
      simp

theorem splitEnding_addReturns (hl : l ∈ linesWithEnds t) (h : '\r' ∉ l) :
    splitEnding (addReturns l) = ((splitEnding l).1, addReturns (splitEnding l).2) := by
  rcases exists_of_mem_linesWithEnds hl with ⟨a, rfl, ha⟩ | hfeed
  · have hreturn : '\r' ∉ a := fun hmem => h (List.mem_append_left _ hmem)
    rw [addReturns_append, addReturns_of_not_mem ha, splitEnding_append_feed hreturn]
    exact splitEnding_append_return a
  · rw [addReturns_of_not_mem hfeed, splitEnding_of_not_mem hfeed]
    rfl

/-- The lines are the same without their endings. -/
theorem lines_addReturns (h : '\r' ∉ t) : lines (addReturns t) = lines t := by
  rw [lines, lines, linesWithEnds_addReturns, List.map_map]
  refine List.map_congr_left fun l hl => ?_
  have hreturn : '\r' ∉ l := fun hmem =>
    h (linesWithEnds_flatten t ▸ List.mem_flatten.mpr ⟨l, hl, hmem⟩)
  rw [Function.comp_apply, splitEnding_addReturns hl hreturn]

end Text

namespace Source

variable {o : EngineOptions} {t l : Text} {lines : List Text}

theorem kept_addReturns (hl : l ∈ linesWithEnds t) (h : '\r' ∉ l) :
    kept o (addReturns l) = kept o l := by
  rw [kept, kept, splitEnding_addReturns hl h]

theorem keepsEnding_addReturns (hl : l ∈ linesWithEnds t) (h : '\r' ∉ l) :
    KeepsEnding o (addReturns l) ↔ KeepsEnding o l := by
  rw [KeepsEnding, KeepsEnding, kept_addReturns hl h, splitEnding_addReturns hl h]
  simp only [keepsEnding, bne, Bool.and_eq_true, Bool.not_eq_true', beq_eq_false_iff_ne, Ne,
    addReturns_eq_nil_iff]

theorem processLines_addReturns (number : Nat) (hlines : ∀ l ∈ lines, l ∈ linesWithEnds t)
    (h : ∀ l ∈ lines, '\r' ∉ l) :
    processLines o number (lines.map addReturns) =
      (addReturns (processLines o number lines).1, (processLines o number lines).2) := by
  induction lines generalizing number with
  | nil => rfl
  | cons l lines ih =>
      have hl := hlines l List.mem_cons_self
      have hreturn := h l List.mem_cons_self
      have hrest := ih (number + 1) (fun x hx => hlines x (List.mem_cons_of_mem _ hx))
        fun x hx => h x (List.mem_cons_of_mem _ hx)
      have hkept : addReturns (kept o l) = kept o l := addReturns_of_not_mem (not_mem_kept hl)
      rw [List.map_cons]
      by_cases hkeeps : KeepsEnding o l
      · rw [processLines_of_keepsEnding ((keepsEnding_addReturns hl hreturn).mpr hkeeps),
          processLines_of_keepsEnding hkeeps, hrest, kept_addReturns hl hreturn,
          splitEnding_addReturns hl hreturn]
        simp only [addReturns_append, hkept]
      · rw [processLines_of_not_keepsEnding (mt (keepsEnding_addReturns hl hreturn).mp hkeeps),
          processLines_of_not_keepsEnding hkeeps, hrest, kept_addReturns hl hreturn]
        simp only [addReturns_append, hkept]

/-- A text with carriage returns before its line feeds comes to what the text without them
comes to, with carriage returns before the line feeds, and the same lines are told of it. -/
theorem ofText_addReturns (o : EngineOptions) (h : '\r' ∉ t) :
    (ofText o (addReturns t)).processed = addReturns (ofText o t).processed ∧
    (∀ n, (ofText o (addReturns t)).sourceLine n = (ofText o t).sourceLine n) ∧
    ∀ needle, (ofText o (addReturns t)).findLine needle = (ofText o t).findLine needle := by
  have hreturn : ∀ l ∈ linesWithEnds t, '\r' ∉ l := fun l hl hmem =>
    h (linesWithEnds_flatten t ▸ List.mem_flatten.mpr ⟨l, hl, hmem⟩)
  have hprocess := processLines_addReturns (o := o) 1 (fun _ hl => hl) hreturn
  rw [← linesWithEnds_addReturns] at hprocess
  refine ⟨by rw [ofText, ofText, hprocess], fun n => ?_, fun needle => ?_⟩
  · have hmap : (ofText o (addReturns t)).lineMap = (ofText o t).lineMap := by
      rw [ofText, ofText, hprocess]
    rw [sourceLine, sourceLine, hmap]
  · have hlines : Text.lines (addReturns t) = Text.lines t := lines_addReturns h
    exact congrArg (fun ls : List Text =>
      (ls.findIdx? fun l => Text.includes l needle).map (· + 1)) hlines

/-- The ending after a tag is dropped with its carriage return. -/
theorem ofText_addReturns_tag :
    (ofText ⟨true, true, false⟩ ['\x7b', '#', '#', '\x7d', '\r', '\n', '\r', '\n', 'a']).processed =
      ['\x7b', '#', '#', '\x7d', '\r', '\n', 'a'] ∧
    (ofText ⟨true, true, false⟩ ['\x7b', '#', '#', '\x7d', '\r', '\n', '\r', '\n', 'a']).sourceLine
      2 = 3 ∧
    (ofText ⟨true, true, false⟩ ['\x7b', '#', '#', '\x7d', '\r', '\n', '\r', '\n', 'a']).findLine
      ['a'] = some 3 := by
  obtain ⟨hprocessed, hline, hfound⟩ := ofText_addReturns ⟨true, true, false⟩
    (t := ['\x7b', '#', '#', '\x7d', '\n', '\n', 'a']) (by decide)
  exact ⟨hprocessed, hline 2, hfound ['a']⟩

end Source

end TemplateTree
