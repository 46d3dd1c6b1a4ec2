import TemplateTree.Proofs.Text.Lines
import TemplateTree.Source.Basic
import Mathlib.Algebra.BigOperators.Group.List.Basic
import Mathlib.Data.List.Forall2
import Mathlib.Data.List.TakeWhile

/-!
# Line maps

Processing joins a line to the next one where it drops the ending of the line.  The lines
of a template text therefore fall into groups, each of which is processed to one line, and
the line map holds the number of the first line of every group.  It leads from the lines that a
source has to lines that it has, and from no other line to one of them.
-/

namespace TemplateTree.Source

open Text

variable {α : Type} {o : EngineOptions} {s : Source} {t l : Text} {lines : List Text}
  {groups : List (List Text)} {rest : List Text} {number i n : Nat}

/-! ## Lines as they are kept -/

def BeginsInTag (t : Text) : Prop :=
  ['\x7b', '%'] <+: t ∨ ['\x7b', '#'] <+: t

def EndsInTag (t : Text) : Prop :=
  ['%', '\x7d'] <:+ t ∨ ['#', '\x7d'] <:+ t

theorem beginsWithTag_iff : beginsWithTag t = true ↔ BeginsInTag t := by
  simp only [beginsWithTag, Bool.or_eq_true, startsWith_iff, BeginsInTag, List.IsPrefix,
    eq_comm (a := t)]

theorem endsWith_iff {stop : Text} : endsWith t stop = true ↔ stop <:+ t := by
  rw [← List.reverse_prefix]
  simp only [endsWith, dropStop?, Option.isSome_map]
  rw [← startsWith, startsWith_iff]
  simp only [List.IsPrefix, eq_comm]

theorem endsWithTag_iff : endsWithTag t = true ↔ EndsInTag t := by
  rw [endsWithTag, Bool.or_eq_true, endsWith_iff, endsWith_iff, EndsInTag]

/-- What processing keeps of a line, its ending apart: the content without the indentation
before a tag if that is to be stripped. -/
def Keeps (o : EngineOptions) (line part : Text) : Prop :=
  ∃ indent text, (splitEnding line).1 = indent ++ text ∧
    (∀ c ∈ indent, c = ' ' ∨ c = '\t') ∧ (∀ c ∈ text.head?, c ≠ ' ' ∧ c ≠ '\t') ∧
    (o.stripIndent = true ∧ BeginsInTag text → part = text) ∧
    (¬ (o.stripIndent = true ∧ BeginsInTag text) → part = indent ++ text)

/-- A line whose ending is dropped: it ends with a tag, and endings after tags are to be
dropped. -/
def DropsEnding (o : EngineOptions) (line : Text) : Prop :=
  o.trimBlocks = true ∧ EndsInTag (splitEnding line).1

def kept (o : EngineOptions) (line : Text) : Text :=
  lineContent o (splitEnding line).1

def KeepsEnding (o : EngineOptions) (line : Text) : Prop :=
  keepsEnding o (kept o line) (splitEnding line).2 = true

theorem isIndent_iff {c : Char} : isIndent c = true ↔ c = ' ' ∨ c = '\t' := by
  simp [isIndent]

theorem keeps_kept (o : EngineOptions) (line : Text) : Keeps o line (kept o line) := by
  refine ⟨(splitEnding line).1.takeWhile isIndent, dropLeading isIndent (splitEnding line).1,
    List.takeWhile_append_dropWhile.symm, ?_, ?_, ?_, ?_⟩
  · intro c hc
    exact isIndent_iff.mp (List.mem_takeWhile_imp hc)
  · intro c hc
    have hhead := List.head?_dropWhile_not isIndent (splitEnding line).1
    rw [dropLeading] at hc
    rw [hc] at hhead
    have hnot : ¬ isIndent c = true := by simpa using hhead
    rwa [isIndent_iff, not_or] at hnot
  · rintro ⟨hstrip, htag⟩
    simp only [kept, lineContent, hstrip, beginsWithTag_iff.mpr htag, Bool.and_self, if_true]
  · intro hnot
    have hfalse : (o.stripIndent && beginsWithTag (dropLeading isIndent (splitEnding line).1)) =
        false := by
      rw [Bool.eq_false_iff, Ne, Bool.and_eq_true, beginsWithTag_iff]
      exact hnot
    simp only [kept, lineContent, hfalse]
    exact List.takeWhile_append_dropWhile.symm

theorem kept_suffix (o : EngineOptions) (line : Text) : kept o line <:+ (splitEnding line).1 := by
  rw [kept, lineContent]
  split
  · exact List.dropWhile_suffix _
  · exact List.suffix_rfl

theorem not_mem_kept (h : l ∈ linesWithEnds t) : '\n' ∉ kept o l :=
  fun hmem => not_mem_content h ((kept_suffix o l).subset hmem)

/-- An ending is dropped after a tag only. -/
theorem dropsEnding_of_not_keepsEnding (h : ¬ KeepsEnding o l) (hending : (splitEnding l).2 ≠ []) :
    DropsEnding o l := by
  have hdropped : o.trimBlocks = true ∧ endsWithTag (kept o l) = true := by
    simpa [KeepsEnding, keepsEnding, hending] using h
  refine ⟨hdropped.1, ?_⟩
  rcases endsWithTag_iff.mp hdropped.2 with htag | htag
  · exact .inl (htag.trans (kept_suffix o l))
  · exact .inr (htag.trans (kept_suffix o l))

theorem KeepsEnding.ending (h : KeepsEnding o l) :
    (splitEnding l).2 = ['\n'] ∨ (splitEnding l).2 = ['\r', '\n'] := by
  apply (splitEnding_snd l).resolve_left
  intro hnil
  simp [KeepsEnding, keepsEnding, hnil] at h

/-! ## Groups of lines -/

/-- The line to which a group of lines is processed. -/
def joined (o : EngineOptions) (group : List Text) : Text :=
  group.flatMap (kept o) ++ (group.getLast?.map fun l => (splitEnding l).2).getD []

/-- The numbers of the items that follow each group, `number` being that of the first. -/
def starts : Nat → List (List α) → List Nat
  | _, [] => []
  | number, g :: gs => (number + g.length) :: starts (number + g.length) gs

theorem getElem?_starts (groups : List (List α)) (h : i ≤ groups.length) :
    (number :: starts number groups)[i]? = some (number + (groups.take i).flatten.length) := by
  induction groups generalizing number i with
  | nil =>
      obtain rfl := Nat.le_zero.mp h
      rfl
  | cons g gs ih =>
      cases i with
      | zero => rfl
      | succ i =>
          rw [starts, List.getElem?_cons_succ, ih (Nat.le_of_succ_le_succ h), List.take_succ_cons,
            List.flatten_cons, List.length_append, Nat.add_assoc]

theorem length_starts (number : Nat) (groups : List (List α)) :
    (starts number groups).length = groups.length := by
  induction groups generalizing number with
  | nil => rfl
  | cons g gs ih => rw [starts, List.length_cons, ih, List.length_cons]

/-- Lines of which the last keeps its ending and no other one does. -/
def IsGroup (o : EngineOptions) (group : List Text) : Prop :=
  ∃ init last, group = init ++ [last] ∧ (∀ l ∈ init, ¬ KeepsEnding o l) ∧ KeepsEnding o last

theorem joined_append (init : List Text) (last : Text) :
    joined o (init ++ [last]) =
      (init ++ [last]).flatMap (kept o) ++ (splitEnding last).2 := by
  simp [joined]

theorem joined_cons (l : Text) {group : List Text} (h : group ≠ []) :
    joined o (l :: group) = kept o l ++ joined o group := by
  rw [joined, joined, List.getLast?_cons_of_ne_nil h, List.flatMap_cons, List.append_assoc]

theorem processLines_of_keepsEnding (h : KeepsEnding o l) :
    processLines o number (l :: lines) =
      (kept o l ++ (splitEnding l).2 ++ (processLines o (number + 1) lines).1,
        (number + 1) :: (processLines o (number + 1) lines).2) :=
  if_pos h

theorem processLines_of_not_keepsEnding (h : ¬ KeepsEnding o l) :
    processLines o number (l :: lines) =
      (kept o l ++ (processLines o (number + 1) lines).1, (processLines o (number + 1) lines).2) :=
  if_neg h

/-- What processing comes to: the lines fall into groups and a rest without endings. -/
theorem exists_groups (o : EngineOptions) (number : Nat) (lines : List Text) :
    ∃ groups rest, lines = groups.flatten ++ rest ∧ (∀ g ∈ groups, IsGroup o g) ∧
      (∀ l ∈ rest, ¬ KeepsEnding o l) ∧
      processLines o number lines =
        ((groups.map (joined o)).flatten ++ rest.flatMap (kept o), starts number groups) := by
  induction lines generalizing number with
  | nil => exact ⟨[], [], rfl, by simp, by simp, rfl⟩
  | cons l lines ih =>
      obtain ⟨groups, rest, hlines, hgroups, hrest, hprocess⟩ := ih (number + 1)
      by_cases hkeeps : KeepsEnding o l
      · refine ⟨[l] :: groups, rest, by simp [hlines], ?_, hrest, ?_⟩
        · intro g hg
          rcases List.mem_cons.mp hg with rfl | hg
          · exact ⟨[], l, rfl, by simp, hkeeps⟩
          · exact hgroups g hg
        · rw [processLines_of_keepsEnding hkeeps, hprocess]
          simp [joined, starts]
      rw [processLines_of_not_keepsEnding hkeeps, hprocess]
      cases groups with
      | nil =>
          refine ⟨[], l :: rest, by simp [hlines], by simp, ?_, rfl⟩
          intro x hx
          rcases List.mem_cons.mp hx with rfl | hx
          · exact hkeeps
          · exact hrest x hx
      | cons g groups =>
          -- the line is joined to the first group
          obtain ⟨init, last, hg, hinit, hlast⟩ := hgroups g List.mem_cons_self
          refine ⟨(l :: g) :: groups, rest, by simp [hlines], ?_, hrest, ?_⟩
          · intro g' hg'
            rcases List.mem_cons.mp hg' with rfl | hg'
            · refine ⟨l :: init, last, by rw [hg, List.cons_append], ?_, hlast⟩
              intro x hx
              rcases List.mem_cons.mp hx with rfl | hx
              · exact hkeeps
              · exact hinit x hx
            · exact hgroups g' (List.mem_cons_of_mem _ hg')
          · have hne : g ≠ [] := by simp [hg]
            have hnumber : number + 1 + g.length = number + (l :: g).length := by
              rw [List.length_cons]
              omega
            simp only [starts, hnumber, List.map_cons, joined_cons l hne, List.flatten_cons,
              List.append_assoc]

theorem IsGroup.length_pos {g : List Text} (h : IsGroup o g) : 0 < g.length := by
  obtain ⟨init, last, rfl, -, -⟩ := h
  simp

/-- The lines of a source in groups, and the rest after the last ending that is kept. -/
structure Grouping (o : EngineOptions) (s : Source) (groups : List (List Text))
    (rest : List Text) : Prop where
  lines : linesWithEnds s.text = groups.flatten ++ rest
  group : ∀ g ∈ groups, IsGroup o g
  unended : ∀ l ∈ rest, ¬ KeepsEnding o l
  processed : s.processed = (groups.map (joined o)).flatten ++ rest.flatMap (kept o)
  lineMap : s.lineMap = 1 :: starts 1 groups

theorem exists_grouping (o : EngineOptions) (t : Text) :
    ∃ groups rest, Grouping o (ofText o t) groups rest := by
  obtain ⟨groups, rest, hlines, hgroups, hrest, hprocess⟩ := exists_groups o 1 (linesWithEnds t)
  refine ⟨groups, rest, hlines, hgroups, hrest, ?_, ?_⟩
  · exact congrArg Prod.fst hprocess
  · exact congrArg (1 :: ·.2) hprocess

namespace Grouping

variable (h : Grouping o s groups rest)
include h

theorem mem_lines_of_group {g : List Text} (hg : g ∈ groups) (hl : l ∈ g) :
    l ∈ linesWithEnds s.text := by
  rw [h.lines]
  exact List.mem_append_left _ (List.mem_flatten.mpr ⟨g, hg, hl⟩)

theorem isEnded_joined : ∀ l ∈ groups.map (joined o), IsEnded l := by
  intro l hl
  obtain ⟨g, hg, rfl⟩ := List.mem_map.mp hl
  obtain ⟨init, last, rfl, -, hlast⟩ := h.group g hg
  rw [joined_append]
  refine isEnded_append ?_ hlast.ending
  intro hmem
  obtain ⟨l, hl, hfeed⟩ := List.mem_flatMap.mp hmem
  exact not_mem_kept (h.mem_lines_of_group hg hl) hfeed

theorem not_mem_rest : '\n' ∉ rest.flatMap (kept o) := by
  intro hmem
  obtain ⟨l, hl, hfeed⟩ := List.mem_flatMap.mp hmem
  refine not_mem_kept (t := s.text) ?_ hfeed
  rw [h.lines]
  exact List.mem_append_right _ hl

theorem feeds_processed : feeds s.processed = groups.length := by
  rw [h.processed, feeds_append, feeds_flatten h.isEnded_joined,
    feeds_eq_zero_iff.mpr h.not_mem_rest, List.length_map, Nat.add_zero]

theorem lineAt_group (hi : i < groups.length) :
    lineAt s.processed (i + 1) = joined o groups[i] := by
  rw [lineAt, h.processed, linesWithEnds_flatten_append h.isEnded_joined, Nat.add_sub_cancel,
    List.getElem?_append_left (by simpa using hi), List.getElem?_map, List.getElem?_eq_getElem hi]
  rfl

theorem lineAt_rest : lineAt s.processed (groups.length + 1) = rest.flatMap (kept o) := by
  rw [lineAt, h.processed, linesWithEnds_flatten_append h.isEnded_joined, Nat.add_sub_cancel,
    List.getElem?_append_right (by simp), List.length_map, Nat.sub_self,
    linesWithEnds_of_not_mem h.not_mem_rest]
  split
  case isTrue hnil => rw [hnil]; rfl
  case isFalse => rfl

theorem sourceLine_succ (hi : i ≤ groups.length) :
    s.sourceLine (i + 1) = 1 + (groups.take i).flatten.length := by
  rw [sourceLine, if_neg (Nat.succ_ne_zero i), h.lineMap, Nat.add_sub_cancel, getElem?_starts _ hi]
  rfl

theorem sourceLine_outside (hn : n = 0 ∨ groups.length + 1 < n) : s.sourceLine n = n := by
  rcases hn with rfl | hn
  · rfl
  · have hlength : (1 :: starts 1 groups).length ≤ n - 1 := by
      rw [List.length_cons, length_starts]
      omega
    rw [sourceLine, if_neg (by omega), h.lineMap, List.getElem?_eq_none hlength]
    rfl

theorem drop_lines (hi : i ≤ groups.length) :
    (linesWithEnds s.text).drop (s.sourceLine (i + 1) - 1) = (groups.drop i).flatten ++ rest := by
  have hsplit : groups.flatten = (groups.take i).flatten ++ (groups.drop i).flatten := by
    rw [← List.flatten_append, List.take_append_drop]
  rw [h.sourceLine_succ hi, Nat.add_sub_cancel_left, h.lines, hsplit, List.append_assoc,
    List.drop_left]

end Grouping

/-- The source lines that are processed to the line with a number: those from its own source
line up to that of the next line, or to the end of the text. -/
def linesFor (s : Source) (n : Nat) : List Text :=
  let after := (linesWithEnds s.text).drop (s.sourceLine n - 1)
  if n ≤ feeds s.processed then after.take (s.sourceLine (n + 1) - s.sourceLine n) else after

namespace Grouping

variable (h : Grouping o s groups rest)
include h

theorem linesFor_group (hi : i < groups.length) : s.linesFor (i + 1) = groups[i] := by
  have hnext := h.sourceLine_succ (i := i + 1) hi
  have hhere := h.sourceLine_succ hi.le
  have hcount : s.sourceLine (i + 1 + 1) - s.sourceLine (i + 1) = groups[i].length := by
    rw [hnext, hhere, List.take_succ_eq_append_getElem hi, List.flatten_append, List.length_append,
      List.flatten_singleton]
    omega
  rw [linesFor, if_pos (by rw [h.feeds_processed]; omega), hcount, h.drop_lines hi.le,
    List.drop_eq_getElem_cons hi, List.flatten_cons, List.append_assoc, List.take_left]

theorem linesFor_rest : s.linesFor (groups.length + 1) = rest := by
  rw [linesFor, if_neg (by rw [h.feeds_processed]; omega), h.drop_lines le_rfl, List.drop_length]
  rfl

theorem infix_of_mem {g : List Text} (hg : g ∈ groups) : g <:+: linesWithEnds s.text := by
  obtain ⟨before, after, rfl⟩ := List.append_of_mem hg
  refine ⟨before.flatten, after.flatten ++ rest, ?_⟩
  rw [h.lines, List.flatten_append, List.flatten_cons, List.append_assoc, List.append_assoc,
    List.append_assoc]

theorem suffix_rest : rest <:+: linesWithEnds s.text :=
  ⟨groups.flatten, [], by rw [h.lines, List.append_nil]⟩

end Grouping

theorem length_flatten_of_forall {gs : List (List α)} (h : ∀ g ∈ gs, g.length = 1) :
    gs.flatten.length = gs.length := by
  induction gs with
  | nil => rfl
  | cons g gs ih =>
      have hrest := ih fun g' hg' => h g' (List.mem_cons_of_mem _ hg')
      rw [List.flatten_cons, List.length_append, h g List.mem_cons_self, hrest, List.length_cons,
        Nat.add_comm]

theorem mem_dropLast_of_inside {g ls : List α} {x : α} (h : g <:+: ls) (hx : x ∈ g.dropLast) :
    x ∈ ls.dropLast := by
  obtain ⟨a, b, rfl⟩ := h
  by_cases hb : b = []
  · have hne : g ≠ [] := by
      rintro rfl
      cases hx
    rw [hb, List.append_nil, List.dropLast_append_of_ne_nil hne]
    exact List.mem_append_right _ hx
  · rw [List.dropLast_append_of_ne_nil hb]
    exact List.mem_append_left _ (List.mem_append_right _ (List.dropLast_subset _ hx))

namespace Grouping

variable (h : Grouping o s groups rest)
include h

theorem dropsEnding_of_group {g : List Text} (hg : g ∈ groups) (hl : l ∈ g.dropLast) :
    DropsEnding o l := by
  have hending := ending_ne_nil (mem_dropLast_of_inside (h.infix_of_mem hg) hl)
  obtain ⟨init, last, rfl, hinit, -⟩ := h.group g hg
  rw [List.dropLast_concat] at hl
  exact dropsEnding_of_not_keepsEnding (hinit l hl) hending

theorem dropsEnding_of_rest (hl : l ∈ rest.dropLast) : DropsEnding o l := by
  have hending := ending_ne_nil (mem_dropLast_of_inside h.suffix_rest hl)
  exact dropsEnding_of_not_keepsEnding (h.unended l (List.dropLast_subset _ hl)) hending

/-- Where no ending is dropped, every group is a single line. -/
theorem length_eq_one (hnone : ∀ l ∈ linesWithEnds s.text, DropsEnding o l → (splitEnding l).2 = [])
    {g : List Text} (hg : g ∈ groups) : g.length = 1 := by
  have hdrops : ∀ l ∈ g.dropLast, (splitEnding l).2 = [] := fun l hl =>
    hnone l (h.mem_lines_of_group hg (List.dropLast_subset _ hl)) (h.dropsEnding_of_group hg hl)
  have hending : ∀ l ∈ g.dropLast, (splitEnding l).2 ≠ [] := fun l hl =>
    ending_ne_nil (mem_dropLast_of_inside (h.infix_of_mem hg) hl)
  obtain ⟨init, last, rfl, -, -⟩ := h.group g hg
  rw [List.dropLast_concat] at hdrops hending
  cases init with
  | nil => rfl
  | cons l init => exact absurd (hdrops l List.mem_cons_self) (hending l List.mem_cons_self)

theorem sourceLine_eq_self
    (hnone : ∀ l ∈ linesWithEnds s.text, DropsEnding o l → (splitEnding l).2 = []) (n : Nat) :
    s.sourceLine n = n := by
  by_cases hn : n = 0 ∨ groups.length + 1 < n
  · exact h.sourceLine_outside hn
  · obtain ⟨i, rfl⟩ : ∃ i, n = i + 1 := Nat.exists_eq_succ_of_ne_zero (by omega)
    have hlength := length_flatten_of_forall fun g hg =>
      h.length_eq_one hnone (List.mem_of_mem_take (i := i) hg)
    rw [h.sourceLine_succ (by omega), hlength, List.length_take]
    omega

theorem sourceLine_of_not_trim (htrim : o.trimBlocks = false) (n : Nat) : s.sourceLine n = n :=
  h.sourceLine_eq_self (fun _ _ hdrops => by simp [hdrops.1] at htrim) n

theorem sourceLine_lt {n' : Nat} (hn : 1 ≤ n) (hlt : n < n') (hn' : n' ≤ groups.length + 1) :
    s.sourceLine n < s.sourceLine n' := by
  obtain ⟨i, rfl⟩ : ∃ i, n = i + 1 := Nat.exists_eq_succ_of_ne_zero (by omega)
  obtain ⟨j, rfl⟩ : ∃ j, n' = j + 1 := Nat.exists_eq_succ_of_ne_zero (by omega)
  have hi : i < groups.length := by omega
  obtain ⟨more, hmore⟩ : groups.take (i + 1) <+: groups.take j :=
    List.take_prefix_take_left (by omega)
  have hpos := (h.group _ (List.getElem_mem hi)).length_pos
  rw [h.sourceLine_succ hi.le, h.sourceLine_succ (by omega), ← hmore,
    List.take_succ_eq_append_getElem hi, List.flatten_append, List.flatten_append,
    List.length_append, List.length_append, List.flatten_singleton]
  omega

end Grouping

/-! ## The map of a processed text -/

/-- The line map says of every line of the processed text from which lines of the text it comes,
and the line is what these come to. -/
structure MapsLines (o : EngineOptions) (t : Text) (s : Source) : Prop where
  text : s.text = t
  first : s.sourceLine 1 = 1
  increasing : ∀ n n', 1 ≤ n → n < n' → n' ≤ feeds s.processed + 1 →
    s.sourceLine n < s.sourceLine n'
  /-- A line with a line feed is made of the kept parts of its source lines, and ends as the
  last of them does. -/
  line : ∀ n, 1 ≤ n → n ≤ feeds s.processed → ∃ before last parts,
    s.linesFor n = before ++ [last] ∧ List.Forall₂ (Keeps o) (before ++ [last]) parts ∧
    (splitEnding last).2 ≠ [] ∧ lineAt s.processed n = parts.flatten ++ (splitEnding last).2
  /-- So is what comes after the last line feed, but it has no ending. -/
  lastLine : ∃ parts, List.Forall₂ (Keeps o) (s.linesFor (feeds s.processed + 1)) parts ∧
    lineAt s.processed (feeds s.processed + 1) = parts.flatten
  joined : ∀ n, 1 ≤ n → n ≤ feeds s.processed + 1 → ∀ l ∈ (s.linesFor n).dropLast,
    DropsEnding o l
  dropped : ∀ l ∈ (s.linesFor (feeds s.processed + 1)).getLast?, (splitEnding l).2 ≠ [] →
    DropsEnding o l
  outside : ∀ n, ¬ (1 ≤ n ∧ n ≤ feeds s.processed + 1) → s.sourceLine n = n
  untrimmed : o.trimBlocks = false → ∀ n, s.sourceLine n = n

theorem forall₂_keeps (o : EngineOptions) (lines : List Text) :
    List.Forall₂ (Keeps o) lines (lines.map (kept o)) := by
  rw [List.forall₂_map_right_iff, List.forall₂_same]
  intro l _
  exact keeps_kept o l

/-- The line map of a processed template text is exact, whatever the text and the options. -/
theorem ofText_mapsLines (o : EngineOptions) (t : Text) : (ofText o t).MapsLines o t := by
  obtain ⟨groups, rest, h⟩ := exists_grouping o t
  have hfeeds := h.feeds_processed
  constructor
  case text => rfl
  case first => simpa using h.sourceLine_succ (Nat.zero_le _)
  case increasing =>
    intro n n' hn hlt hn'
    exact h.sourceLine_lt hn hlt (hfeeds ▸ hn')
  case line =>
    intro n hn hle
    obtain ⟨i, rfl⟩ : ∃ i, n = i + 1 := Nat.exists_eq_succ_of_ne_zero (by omega)
    have hi : i < groups.length := by omega
    obtain ⟨before, last, hg, -, hlast⟩ := h.group _ (List.getElem_mem hi)
    refine ⟨before, last, _, (h.linesFor_group hi).trans hg, forall₂_keeps o _, ?_, ?_⟩
    · rcases hlast.ending with hending | hending <;> simp [hending]
    · rw [h.lineAt_group hi, hg, joined_append, List.flatMap_def]
  case lastLine =>
    rw [hfeeds, h.linesFor_rest, h.lineAt_rest]
    exact ⟨_, forall₂_keeps o rest, List.flatMap_def⟩
  case joined =>
    intro n hn hle l hl
    obtain ⟨i, rfl⟩ : ∃ i, n = i + 1 := Nat.exists_eq_succ_of_ne_zero (by omega)
    rcases Nat.lt_or_eq_of_le (show i ≤ groups.length by omega) with hi | rfl
    · rw [h.linesFor_group hi] at hl
      exact h.dropsEnding_of_group (List.getElem_mem hi) hl
    · rw [h.linesFor_rest] at hl
      exact h.dropsEnding_of_rest hl
  case dropped =>
    intro l hl hending
    rw [hfeeds, h.linesFor_rest] at hl
    exact dropsEnding_of_not_keepsEnding (h.unended l (List.mem_of_getLast? hl)) hending
  case outside =>
    intro n hn
    exact h.sourceLine_outside (by omega)
  case untrimmed => exact h.sourceLine_of_not_trim

/-- The tag loses its indentation and its ending, so the third line is joined to it. -/
example : ofText ⟨true, true, false⟩ "a\n  \x7b% if b %\x7d\r\n\tc\n\x7b# d #\x7d".toList =
    ⟨"a\n  \x7b% if b %\x7d\r\n\tc\n\x7b# d #\x7d".toList,
      "a\n\x7b% if b %\x7d\tc\n\x7b# d #\x7d".toList, [1, 2, 4]⟩ := by
  decide

end TemplateTree.Source

/-! ## The lines that a source has -/

namespace TemplateTree

namespace Text

variable {a t : Text}

theorem feeds_feed (h : '\n' ∉ a) (t : Text) : feeds (a ++ '\n' :: t) = feeds t + 1 := by
  rw [feeds_append, feeds_eq_zero_iff.mpr h, Nat.zero_add]
  exact List.count_cons_self

theorem countP_linesWithEnds (t : Text) :
    (linesWithEnds t).countP (fun l => '\n' ∈ l) = feeds t := by
  induction t using feed_induction with
  | last t ht =>
      rw [linesWithEnds_of_not_mem ht, feeds_eq_zero_iff.mpr ht]
      split
      case isTrue => rfl
      case isFalse => simp [ht]
  | feed a t ha ih =>
      rw [linesWithEnds_append ha, feeds_feed ha, List.countP_cons_of_pos (by simp), ih]

theorem length_linesWithEnds_le (t : Text) : (linesWithEnds t).length ≤ feeds t + 1 := by
  induction t using feed_induction with
  | last t ht =>
      rw [linesWithEnds_of_not_mem ht]
      split <;> simp
  | feed a t ha ih =>
      rw [linesWithEnds_append ha, feeds_feed ha, List.length_cons]
      omega

theorem mem_of_ending_ne_nil {l : Text} (h : (splitEnding l).2 ≠ []) : '\n' ∈ l := by
  rw [Ne, splitEnding_snd_eq_nil_iff, not_not] at h
  exact List.mem_of_getLast? h

end Text

namespace Source

open Text

variable {o : EngineOptions} {s : Source} {groups : List (List Text)} {rest : List Text}
  {needle : Text} {n : Nat}

def HasLine (s : Source) (n : Nat) : Prop :=
  1 ≤ n ∧ n ≤ feeds s.text + 1

namespace Grouping

variable (h : Grouping o s groups rest)
include h

/-- Every line of a group has an ending. -/
theorem mem_of_mem_group {g : List Text} {l : Text} (hg : g ∈ groups) (hl : l ∈ g) : '\n' ∈ l := by
  obtain ⟨init, last, rfl, -, hlast⟩ := h.group g hg
  rcases List.mem_append.mp hl with hinit | hend
  · refine mem_of_ending_ne_nil (ending_ne_nil (t := s.text) ?_)
    exact mem_dropLast_of_inside (h.infix_of_mem hg) (by rwa [List.dropLast_concat])
  · obtain rfl := List.mem_singleton.mp hend
    apply mem_of_ending_ne_nil
    rcases hlast.ending with hending | hending <;> simp [hending]

theorem length_flatten_le : groups.flatten.length ≤ feeds s.text := by
  have hended : groups.flatten.countP (fun l => '\n' ∈ l) = groups.flatten.length := by
    rw [List.countP_eq_length]
    intro l hl
    obtain ⟨g, hg, hmem⟩ := List.mem_flatten.mp hl
    exact decide_eq_true (h.mem_of_mem_group hg hmem)
  rw [← countP_linesWithEnds, h.lines, List.countP_append, hended]
  exact Nat.le_add_right _ _

theorem length_le_length_flatten : groups.length ≤ groups.flatten.length := by
  have hpos : ∀ n ∈ groups.map List.length, 1 ≤ n := by
    intro n hn
    obtain ⟨g, hg, rfl⟩ := List.mem_map.mp hn
    exact (h.group g hg).length_pos
  rw [List.length_flatten, ← List.length_map (f := List.length)]
  exact List.length_le_sum_of_one_le _ hpos

/-- The source line of a processed line is there just if a line of its own number is. -/
theorem hasLine_sourceLine_iff : s.HasLine (s.sourceLine n) ↔ s.HasLine n := by
  by_cases hn : n = 0 ∨ groups.length + 1 < n
  · rw [h.sourceLine_outside hn]
  · obtain ⟨i, rfl⟩ : ∃ i, n = i + 1 := Nat.exists_eq_succ_of_ne_zero (by omega)
    have hi : i ≤ groups.length := by omega
    have htake : (groups.take i).flatten.length ≤ groups.flatten.length := by
      conv_rhs => rw [← List.take_append_drop i groups, List.flatten_append, List.length_append]
      exact Nat.le_add_right _ _
    have hlines := h.length_flatten_le
    have hgroups := h.length_le_length_flatten
    rw [h.sourceLine_succ hi]
    unfold HasLine
    omega

end Grouping

theorem hasLine_of_findLine (h : s.findLine needle = some n) : s.HasLine n := by
  obtain ⟨i, hi, rfl⟩ := Option.map_eq_some_iff.mp h
  have hlt : i < (lines s.text).length := (List.findIdx?_eq_some_iff_findIdx_eq.mp hi).1
  have hlength := length_linesWithEnds_le s.text
  rw [lines, List.length_map] at hlt
  exact ⟨Nat.le_add_left 1 i, by omega⟩

end Source

end TemplateTree
