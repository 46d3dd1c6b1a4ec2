import TemplateTree.Environment.Location
import TemplateTree.Proofs.Text.Cutting
import TemplateTree.Proofs.Text.Numerals
import TemplateTree.Proofs.Text.Trimming
import Mathlib.Data.List.TakeWhile

/-!
# What is found in error messages

The first place of a message counts, wherever it comes from, and a name in quotes ends at the
next quote.
-/

namespace TemplateTree

namespace Text

variable {c : Char} {t : Text}

theorem isDecimalDigit_of_isDigit (h : c.isDigit = true) : isDecimalDigit c = true := by
  obtain ⟨-, hhigh⟩ := isDigit_iff.mp h
  rw [isDecimalDigit, if_pos (by omega), h]

theorem isDecimalDigit_of_isSpace (h : isSpace c = true) : isDecimalDigit c = false := by
  have hcodes : ∀ n ∈ [9, 10, 11, 12, 13, 32, 0x85, 0xA0, 0x1680, 0x2000, 0x2001, 0x2002, 0x2003,
      0x2004, 0x2005, 0x2006, 0x2007, 0x2008, 0x2009, 0x200A, 0x2028, 0x2029, 0x202F, 0x205F,
      0x3000], isDecimalDigit (Char.ofNat n) = false := by decide
  rw [← Char.ofNat_toNat c]
  apply hcodes
  simp only [isSpace, Bool.or_eq_true, Bool.and_eq_true, decide_eq_true_eq, beq_iff_eq] at h
  simp only [List.mem_cons, List.not_mem_nil, or_false]
  omega

theorem trimEnd_concat (h : isSpace c = false) (t : Text) : trimEnd (t ++ [c]) = t ++ [c] := by
  induction t with
  | nil => simp [trimEnd, dropTrailing_cons, h]
  | cons d t ih => rw [trimEnd] at ih ⊢; rw [List.cons_append, dropTrailing_cons, ih]; simp

end Text

namespace Location

open Text

variable {α : Type} {find? : Text → Option α} {t u before name line file report : Text} {c : Char}
  {words : List String} {isMark : Char → Bool}

/-! ## The first result -/

theorem firstAt_append_of_none (h : ∀ u, u <:+ t → u ≠ [] → find? (u ++ report) = none) :
    firstAt find? (t ++ report) = firstAt find? report := by
  induction t with
  | nil => rfl
  | cons c t ih =>
      have hrest := ih fun u hu => h u (hu.trans (List.suffix_cons c t))
      have hfirst := h (c :: t) List.suffix_rfl (List.cons_ne_nil c t)
      rw [List.cons_append, firstAt, ← List.cons_append, hfirst, hrest]
      rfl

/-- Where what follows does not matter, the first text counts before the second one. -/
theorem firstAt_append (hnil : find? [] = none)
    (h : ∀ u, u <:+ t → u ≠ [] → find? (u ++ report) = find? u) :
    firstAt find? (t ++ report) = (firstAt find? t).orElse fun _ => firstAt find? report := by
  induction t with
  | nil => rw [firstAt, hnil]; rfl
  | cons c t ih =>
      have hrest := ih fun u hu => h u (hu.trans (List.suffix_cons c t))
      have hfirst := h (c :: t) List.suffix_rfl (List.cons_ne_nil c t)
      rw [List.cons_append, firstAt, firstAt, ← List.cons_append, hfirst, hrest]
      cases find? (c :: t) <;> rfl

theorem firstAt_of_some {a : α} (h : find? t = some a) : firstAt find? t = some a := by
  cases t with
  | nil => exact h
  | cons c t => rw [firstAt, h]; rfl

theorem exists_of_firstAt {a : α} (h : firstAt find? t = some a) :
    ∃ u, u <:+ t ∧ find? u = some a := by
  induction t with
  | nil => exact ⟨[], List.suffix_rfl, h⟩
  | cons c t ih =>
      rw [firstAt] at h
      cases hfirst : find? (c :: t) with
      | some b =>
          rw [hfirst] at h
          exact ⟨c :: t, List.suffix_rfl, hfirst.trans h⟩
      | none =>
          rw [hfirst] at h
          obtain ⟨u, hu, hfind⟩ := ih h
          exact ⟨u, hu.trans (List.suffix_cons c t), hfind⟩

theorem firstAt_eq_none_iff : firstAt find? t = none ↔ ∀ u, u <:+ t → find? u = none := by
  constructor
  · intro h u hu
    induction t with
    | nil => rwa [List.suffix_nil.mp hu]
    | cons c t ih =>
        rw [firstAt] at h
        cases hfirst : find? (c :: t) with
        | some b => simp [hfirst] at h
        | none =>
            rw [hfirst] at h
            rcases List.suffix_cons_iff.mp hu with rfl | hu
            · exact hfirst
            · exact ih h hu
  · intro h
    by_contra hsome
    obtain ⟨a, ha⟩ := Option.ne_none_iff_exists'.mp hsome
    obtain ⟨u, hu, hfind⟩ := exists_of_firstAt ha
    simp [h u hu] at hfind

/-! ## Places -/

/-- An arrow with white space after it, then a line, a colon and a column. -/
def Points (line t : Text) : Prop :=
  ∃ blank column, isBlank blank = true ∧ line ≠ [] ∧ (∀ c ∈ line, isDecimalDigit c = true) ∧
    isDecimalDigit column = true ∧
    "-->".toList ++ (blank ++ (line ++ [':', column])) <+: t

/-- A text in which an arrow points to a line and column. -/
def HoldsPlace (t : Text) : Prop :=
  ∃ line u, u <:+ t ∧ Points line u

theorem trimStart_append_of_digits (hne : line ≠ []) (hline : ∀ c ∈ line, isDecimalDigit c = true)
    (rest : Text) : trimStart (line ++ rest) = line ++ rest := by
  obtain ⟨c, r, rfl⟩ := List.exists_cons_of_ne_nil hne
  have hspace : isSpace c = false := by
    by_contra hspace
    have hdigit := isDecimalDigit_of_isSpace (Bool.not_eq_false _ ▸ hspace)
    simp [hline c List.mem_cons_self] at hdigit
  rw [List.cons_append, trimStart_cons_of_not_space hspace]

theorem arrowLine?_of_points (h : Points line t) : arrowLine? t = some line := by
  obtain ⟨blank, column, hblank, hne, hline, hcolumn, rest, rfl⟩ := h
  have hcolon : isDecimalDigit ':' = false := rfl
  have htake : (line ++ ':' :: column :: rest).takeWhile isDecimalDigit = line := by
    rw [List.takeWhile_append_of_pos hline, List.takeWhile_cons_of_neg (by simp [hcolon]),
      List.append_nil]
  have hdrop : dropStart? "-->".toList
      ("-->".toList ++ (blank ++ (line ++ [':', column])) ++ rest) =
      some (blank ++ (line ++ ':' :: column :: rest)) :=
    dropStart?_eq_some_iff.mpr (by simp)
  have hmark : dropStart? [':'] (':' :: column :: rest) = some (column :: rest) :=
    dropStart?_eq_some_iff.mpr rfl
  simp only [arrowLine?, hdrop, Option.bind_eq_bind, Option.bind_some,
    trimStart_append_of_blank hblank, trimStart_append_of_digits hne hline, htake,
    List.drop_left, hmark]
  simp [hne, hcolumn]

theorem points_of_arrowLine? (h : arrowLine? t = some line) : Points line t := by
  simp only [arrowLine?, Option.bind_eq_bind, Option.bind_eq_some_iff] at h
  obtain ⟨rest, hrest, after, hafter, h⟩ := h
  obtain ⟨blank, hblank, hstart⟩ := exists_append_trimStart rest
  have hsplit := List.prefix_iff_eq_append.mp
    (List.takeWhile_prefix isDecimalDigit (l := trimStart rest))
  rw [dropStart?_eq_some_iff.mp hafter] at hsplit
  obtain ⟨hcond, hline⟩ := Option.ite_none_right_eq_some.mp h
  obtain rfl := Option.some.inj hline
  rw [Bool.and_eq_true, decide_eq_true_iff] at hcond
  obtain ⟨hne, hcolumn⟩ := hcond
  cases after with
  | nil => simp at hcolumn
  | cons column after =>
      refine ⟨blank, column, hblank, hne, fun c hc => List.mem_takeWhile_imp hc,
        by simpa using hcolumn, after, ?_⟩
      rw [dropStart?_eq_some_iff.mp hrest]
      conv_rhs => rw [hstart, ← hsplit]
      simp

theorem arrowLine?_eq_some_iff : arrowLine? t = some line ↔ Points line t :=
  ⟨points_of_arrowLine?, arrowLine?_of_points⟩

theorem holdsPlace_iff : HoldsPlace t ↔ firstAt arrowLine? t ≠ none := by
  simp only [Ne, firstAt_eq_none_iff, not_forall, HoldsPlace, ← arrowLine?_eq_some_iff]
  constructor
  · rintro ⟨line, u, hu, hline⟩
    exact ⟨u, hu, by simp [hline]⟩
  · rintro ⟨u, hu, hne⟩
    obtain ⟨line, hline⟩ := Option.ne_none_iff_exists'.mp hne
    exact ⟨line, u, hu, hline⟩

theorem arrowLine?_of_head (h : c ≠ '-') (t : Text) : arrowLine? (c :: t) = none := by
  rw [Option.eq_none_iff_forall_ne_some]
  intro line hline
  obtain ⟨blank, column, -, -, -, -, harrow⟩ := arrowLine?_eq_some_iff.mp hline
  exact h (List.cons_prefix_cons.mp harrow).1.symm

/-- No place goes on after a quote. -/
theorem arrowLine?_append_quote (u rest : Text) :
    arrowLine? (u ++ '\'' :: rest) = arrowLine? u := by
  have hspace : isSpace '\'' = false := rfl
  have hdigit : isDecimalDigit '\'' = false := rfl
  apply Option.ext
  intro line
  rw [arrowLine?_eq_some_iff, arrowLine?_eq_some_iff]
  refine exists₂_congr fun blank column => and_congr_right fun hblank => and_congr_right fun _ =>
    and_congr_right fun hline => and_congr_right fun hcolumn => prefix_append_cons_iff ?_
  have hblank' : '\'' ∉ blank := fun hmem => by
    cases hspace.symm.trans (List.all_eq_true.mp hblank _ hmem)
  have hline' : '\'' ∉ line := fun hmem => by cases hdigit.symm.trans (hline _ hmem)
  have hcolumn' : '\'' ≠ column := fun heq => by cases hdigit.symm.trans (heq ▸ hcolumn)
  simp [hblank', hline', hcolumn']

theorem firstAt_arrowLine?_of_not_mem (h : '-' ∉ t) (rest : Text) :
    firstAt arrowLine? (t ++ rest) = firstAt arrowLine? rest := by
  refine firstAt_append_of_none fun u hu hne => ?_
  obtain ⟨c, r, rfl⟩ := List.exists_cons_of_ne_nil hne
  exact arrowLine?_of_head (fun hc => h (hu.subset (hc ▸ List.mem_cons_self))) _

/-! ## Messages about parsing -/

/-- What is said of a template that does not parse. -/
def parseMessage (name cause : Text) : Text :=
  "Failed to ".toList ++ ("parse ".toList ++ '\'' :: (name ++ '\'' :: '\n' :: trimEnd cause))

/-- The first place counts, and the name comes first. -/
theorem line?_parseMessage (name cause : Text) : line? (parseMessage name cause) =
    if (firstAt arrowLine? name).isSome then line? name else line? (trimEnd cause) := by
  have hopening : firstAt arrowLine? (parseMessage name cause) =
      firstAt arrowLine? (name ++ '\'' :: '\n' :: trimEnd cause) :=
    (firstAt_arrowLine?_of_not_mem (by simp) _).trans
      ((firstAt_arrowLine?_of_not_mem (by simp) _).trans
        (firstAt_arrowLine?_of_not_mem (t := ['\'']) (by simp) _))
  have hcause : firstAt arrowLine? ('\'' :: '\n' :: trimEnd cause) =
      firstAt arrowLine? (trimEnd cause) :=
    firstAt_arrowLine?_of_not_mem (t := ['\'', '\n']) (by simp) _
  have hnil : arrowLine? [] = none := rfl
  rw [line?, hopening, firstAt_append hnil fun u _ _ => arrowLine?_append_quote u _, hcause]
  cases hname : firstAt arrowLine? name with
  | some line => simp [line?, hname]
  | none => simp [line?]

theorem isMark_of_mem_markedAfter? (h : markedAfter? words isMark t = some file) :
    ∀ c ∈ file, isMark c = false := by
  simp only [markedAfter?, Option.bind_eq_bind, Option.bind_eq_some_iff] at h
  obtain ⟨rest, -, h⟩ := h
  split at h
  case h_1 => cases h
  case h_2 c r =>
    obtain ⟨-, hpart⟩ := Option.ite_none_right_eq_some.mp h
    obtain rfl := Option.some.inj hpart
    intro c hc
    simpa using List.mem_takeWhile_imp hc

theorem not_mem_of_template? (h : template? t = some file) : '\'' ∉ file ∧ '"' ∉ file := by
  obtain ⟨u, -, hu⟩ := exists_of_firstAt h
  have hmarks := isMark_of_mem_markedAfter? hu
  exact ⟨fun hmem => by simpa using hmarks _ hmem, fun hmem => by simpa using hmarks _ hmem⟩

theorem markedAfter?_of_head (hp : c ≠ 'p') (ht : c ≠ 'T') (t : Text) :
    markedAfter? ["parse", "Template"] isMark (c :: t) = none := by
  simp [markedAfter?, dropStart?, Ne.symm hp, Ne.symm ht]

theorem markedAfter?_parse {part : Text} (hne : part ≠ []) (hopen : isMark c = true)
    (hpart : ∀ d ∈ part, isMark d = false) (rest : Text) :
    markedAfter? ["parse", "Template"] isMark ("parse ".toList ++ c :: (part ++ c :: rest)) =
      some part := by
  have hword : dropStart? ("parse".toList ++ [' ']) ("parse ".toList ++ c :: (part ++ c :: rest)) =
      some (c :: (part ++ c :: rest)) :=
    dropStart?_eq_some_iff.mpr rfl
  have hwords : ["parse", "Template"].findSome? (fun (w : String) =>
      dropStart? (w.toList ++ [' ']) ("parse ".toList ++ c :: (part ++ c :: rest))) =
      some (c :: (part ++ c :: rest)) := by
    rw [List.findSome?_cons, hword]
  have htake : (part ++ c :: rest).takeWhile (fun d => !isMark d) = part := by
    rw [List.takeWhile_append_of_pos (by simpa using hpart),
      List.takeWhile_cons_of_neg (by simp [hopen]), List.append_nil]
  simp only [markedAfter?, hwords, Option.bind_eq_bind, Option.bind_some, htake]
  simp [hopen, hne]

theorem template?_parseMessage (hne : name ≠ []) (hsingle : '\'' ∉ name) (hdouble : '"' ∉ name)
    (cause : Text) : template? (parseMessage name cause) = some name := by
  have hmarks : ∀ d ∈ name, (d = '\'' || d = '"') = false := by
    intro d hd
    have hsingle' : d ≠ '\'' := fun h => hsingle (h ▸ hd)
    have hdouble' : d ≠ '"' := fun h => hdouble (h ▸ hd)
    simp [hsingle', hdouble']
  refine (firstAt_append_of_none fun u hu hu' => ?_).trans
    (firstAt_of_some (markedAfter?_parse hne rfl hmarks _))
  obtain ⟨c, r, rfl⟩ := List.exists_cons_of_ne_nil hu'
  have hc := hu.subset List.mem_cons_self
  exact markedAfter?_of_head (fun h => by simp [h] at hc) (fun h => by simp [h] at hc) _

end Location

end TemplateTree
