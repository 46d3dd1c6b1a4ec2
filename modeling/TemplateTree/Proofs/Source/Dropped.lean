import TemplateTree.Proofs.Source.LineMap

/-!
# What processing drops

Processing drops nothing but indentation before an opening brace and line endings after a
closing one.  Two characters in a row that are not blank part a text: what comes before them
is processed alike, whatever comes after them, and the other way round.
-/

namespace TemplateTree.Source

open Text

variable {o : EngineOptions} {t u v x y l rest : Text} {b : Bool} {c d : Char}

def processLine (o : EngineOptions) (line : Text) : Text :=
  let ending := (splitEnding line).2
  kept o line ++ if keepsEnding o (kept o line) ending then ending else []

def process (o : EngineOptions) (t : Text) : Text :=
  (linesWithEnds t).flatMap (processLine o)

theorem processLine_of_keepsEnding (h : KeepsEnding o l) :
    processLine o l = kept o l ++ (splitEnding l).2 :=
  congrArg (kept o l ++ ·) (if_pos h)

theorem processLine_of_not_keepsEnding (h : ¬ KeepsEnding o l) : processLine o l = kept o l :=
  (congrArg (kept o l ++ ·) (if_neg h)).trans (List.append_nil _)

theorem processed_ofText (o : EngineOptions) (t : Text) : (ofText o t).processed = process o t := by
  have hlines : ∀ number lines,
      (processLines o number lines).1 = lines.flatMap (processLine o) := by
    intro number lines
    induction lines generalizing number with
    | nil => rfl
    | cons l lines ih =>
        rw [List.flatMap_cons]
        by_cases hkeeps : KeepsEnding o l
        · rw [processLines_of_keepsEnding hkeeps, processLine_of_keepsEnding hkeeps, ih]
        · rw [processLines_of_not_keepsEnding hkeeps, processLine_of_not_keepsEnding hkeeps, ih]
  exact hlines 1 _

theorem process_feed (h : '\n' ∉ l) (t : Text) :
    process o (l ++ '\n' :: t) = processLine o (l ++ ['\n']) ++ process o t := by
  rw [process, linesWithEnds_append h, List.flatMap_cons]
  rfl

theorem process_of_not_mem (h : '\n' ∉ l) : process o l = processLine o l := by
  rw [process, linesWithEnds_of_not_mem h]
  split
  case isTrue hnil =>
    have hkept : kept o [] = [] := List.suffix_nil.mp (kept_suffix o [])
    have hnot : ¬ KeepsEnding o [] := by
      rintro hkeeps
      rcases hkeeps.ending with hending | hending <;> cases hending
    rw [hnil, processLine_of_not_keepsEnding hnot, hkept]
    rfl
  case isFalse => rw [List.flatMap_singleton]

/-! ## Texts with parts dropped -/

/-- A character that is neither indentation nor part of a line ending. -/
def Solid (c : Char) : Prop :=
  isIndent c = false ∧ c ≠ '\n' ∧ c ≠ '\r'

instance : DecidablePred Solid :=
  fun _ => instDecidableAnd

/-- A text and what is left of it if only blanks after a closing brace and before an opening
one are dropped; `after` tells whether a closing brace comes before the text. -/
inductive Drops : Bool → Text → Text → Prop
  | nil {after : Bool} : Drops after [] []
  | keep {after : Bool} {c : Char} {t u : Text} (h : Drops (c = '\x7d') t u) :
      Drops after (c :: t) (c :: u)
  | drop {after : Bool} {c : Char} {t u : Text} (hc : ¬ Solid c)
      (hbrace : after = true ∨ u.head? = some '\x7b') (h : Drops after t u) :
      Drops after (c :: t) u

/-- Whether a closing brace comes last, before a text or in it. -/
def closes : Bool → Text → Bool
  | after, [] => after
  | _, c :: t => closes (c = '\x7d') t

theorem closes_append (b : Bool) (t u : Text) : closes b (t ++ u) = closes (closes b t) u := by
  induction t generalizing b with
  | nil => rfl
  | cons c t ih => exact ih _

namespace Drops

theorem refl (b : Bool) (t : Text) : Drops b t t := by
  induction t generalizing b with
  | nil => exact .nil
  | cons c t ih => exact .keep (ih _)

theorem mono (h : Drops false t u) (b : Bool) : Drops b t u := by
  cases b with
  | false => exact h
  | true =>
      generalize hfalse : false = after at h
      induction h with
      | nil => exact .nil
      | keep h => exact .keep h
      | drop hc _ _ ih => exact .drop hc (.inl rfl) (ih hfalse)

theorem append (h : Drops b t u) (h' : Drops (closes b u) x y) : Drops b (t ++ x) (u ++ y) := by
  induction h with
  | nil => exact h'
  | keep _ ih => exact .keep (ih h')
  | @drop after c t u hc hbrace h ih =>
      refine .drop hc (hbrace.imp_right fun hhead => ?_) (ih h')
      rw [List.head?_append, hhead]
      rfl

theorem blanks (ht : ∀ c ∈ t, ¬ Solid c) (hbrace : b = true ∨ u.head? = some '\x7b')
    (h : Drops b x u) : Drops b (t ++ x) u := by
  induction t with
  | nil => exact h
  | cons c t ih =>
      exact .drop (ht c List.mem_cons_self) hbrace (ih fun d hd => ht d (List.mem_cons_of_mem _ hd))

theorem of_solid (h : Drops b (c :: t) u) (hc : Solid c) :
    ∃ v, u = c :: v ∧ Drops (c = '\x7d') t v := by
  cases h with
  | keep h => exact ⟨_, rfl, h⟩
  | drop hnot => exact absurd hc hnot

/-- A text is parted by a character that is neither blank nor an opening brace. -/
theorem of_append (h : Drops b (t ++ c :: x) u) (hc : Solid c) (hne : c ≠ '\x7b') :
    ∃ v y, u = v ++ c :: y ∧ Drops b t v ∧ Drops (c = '\x7d') x y := by
  induction t generalizing b u with
  | nil =>
      obtain ⟨y, rfl, hrest⟩ := h.of_solid hc
      exact ⟨[], y, rfl, .nil, hrest⟩
  | cons d t ih =>
      cases h with
      | keep h =>
          obtain ⟨v, y, rfl, hv, hy⟩ := ih h
          exact ⟨d :: v, y, rfl, .keep hv, hy⟩
      | drop hd hbrace h =>
          obtain ⟨v, y, rfl, hv, hy⟩ := ih h
          refine ⟨v, y, rfl, .drop hd (hbrace.imp_right fun hhead => ?_) hv, hy⟩
          cases v with
          | nil => exact absurd (Option.some.inj hhead) hne
          | cons => exact hhead

theorem head? (h : Drops false t u) (hc : u.head? = some c) (hne : c ≠ '\x7b') :
    t.head? = some c := by
  cases h with
  | nil => cases hc
  | keep => exact hc
  | drop _ hbrace =>
      rcases hbrace with hfalse | hhead
      · cases hfalse
      · exact absurd (Option.some.inj (hc.symm.trans hhead)) hne

theorem eq_nil (h : Drops false t []) : t = [] := by
  cases h with
  | nil => rfl
  | drop _ hbrace =>
      rcases hbrace with hfalse | hhead
      · cases hfalse
      · cases hhead

theorem getLast? (h : Drops b t u) (hc : u.getLast? = some c) (hne : c ≠ '\x7d') :
    t.getLast? = some c := by
  induction h with
  | nil => exact hc
  | @keep after d t u h ih =>
      cases u with
      | nil =>
          obtain rfl : d = c := Option.some.inj hc
          rw [decide_eq_false hne] at h
          rw [h.eq_nil]
          rfl
      | cons e u =>
          have hlast := ih hc
          cases t with
          | nil => cases hlast
          | cons => exact hlast
  | @drop after d t u hd hbrace h ih =>
      have hlast := ih hc
      cases t with
      | nil => cases hlast
      | cons => exact hlast

/-- Two characters come to stand side by side only after a closing brace or before an opening
one. -/
theorem pair_isInfix (h : Drops b t u) (hc : c ≠ '\x7d') (hd : d ≠ '\x7b')
    (hpair : [c, d] <:+: u) : [c, d] <:+: t := by
  induction h with
  | nil => exact hpair
  | @keep after e t u h ih =>
      rcases List.infix_cons_iff.mp hpair with hpre | hin
      · obtain ⟨rfl, hnext⟩ := List.cons_prefix_cons.mp hpre
        obtain ⟨more, rfl⟩ := hnext
        rw [decide_eq_false hc] at h
        have hhead := h.head? rfl hd
        cases t with
        | nil => cases hhead
        | cons e t =>
            obtain rfl := Option.some.inj hhead
            exact ⟨[], t, rfl⟩
      · exact (ih hin).trans (List.suffix_cons _ _).isInfix
  | drop _ _ _ ih => exact (ih hpair).trans (List.suffix_cons _ _).isInfix

end Drops

theorem head?_of_beginsWithTag (h : beginsWithTag t = true) : t.head? = some '\x7b' := by
  rcases beginsWithTag_iff.mp h with ⟨r, rfl⟩ | ⟨r, rfl⟩ <;> rfl

theorem closes_of_endsWithTag (h : endsWithTag t = true) (b : Bool) : closes b t = true := by
  rcases endsWithTag_iff.mp h with ⟨r, rfl⟩ | ⟨r, rfl⟩ <;> rw [closes_append] <;> rfl

theorem drops_processLine (o : EngineOptions) (l : Text) : Drops false l (processLine o l) := by
  have hcontent : Drops false (splitEnding l).1 (kept o l) := by
    rw [kept, lineContent]
    split
    case isTrue hstrip =>
      have hhead := head?_of_beginsWithTag (Bool.and_eq_true_iff.mp hstrip).2
      have hblank : ∀ c ∈ (splitEnding l).1.takeWhile isIndent, ¬ Solid c := by
        intro c hc hsolid
        exact Bool.eq_false_iff.mp hsolid.1 (List.mem_takeWhile_imp hc)
      have hdrops := Drops.blanks hblank (.inr hhead) (.refl false _)
      rwa [dropLeading, List.takeWhile_append_dropWhile] at hdrops
    case isFalse => exact .refl _ _
  have hending : ∀ c ∈ (splitEnding l).2, ¬ Solid c := by
    intro c hc hsolid
    rcases splitEnding_snd l with hnil | hfeed | hboth
    · simp [hnil] at hc
    · exact hsolid.2.1 (by simpa [hfeed] using hc)
    · have hor : c = '\r' ∨ c = '\n' := by simpa [hboth] using hc
      exact hor.elim hsolid.2.2 hsolid.2.1
  by_cases hkeeps : KeepsEnding o l
  · have happend := hcontent.append (Drops.refl _ (splitEnding l).2)
    rwa [splitEnding_append, ← processLine_of_keepsEnding hkeeps] at happend
  · have hnone : Drops (closes false (kept o l)) (splitEnding l).2 [] := by
      by_cases hnil : (splitEnding l).2 = []
      · rw [hnil]
        exact .nil
      · have hdropped : o.trimBlocks = true ∧ endsWithTag (kept o l) = true := by
          simpa [KeepsEnding, keepsEnding, hnil] using hkeeps
        have hcloses : closes false (kept o l) = true := closes_of_endsWithTag hdropped.2 false
        have hblanks := Drops.blanks hending (u := []) (.inl hcloses) .nil
        rwa [List.append_nil] at hblanks
    have happend := hcontent.append hnone
    rwa [splitEnding_append, List.append_nil, ← processLine_of_not_keepsEnding hkeeps] at happend

theorem drops_process (o : EngineOptions) (t : Text) : Drops false t (process o t) := by
  induction t using feed_induction with
  | last t ht =>
      rw [process_of_not_mem ht]
      exact drops_processLine o t
  | feed l t hl ih =>
      rw [process_feed hl, ← List.singleton_append, ← List.append_assoc]
      exact (drops_processLine o _).append (ih.mono _)

/-! ## Two characters that are not blank -/

theorem splitEnding_append_solid (hc : Solid c) (x y : Text) :
    splitEnding (x ++ c :: y) = (x ++ c :: (splitEnding y).1, (splitEnding y).2) := by
  induction x with
  | nil => exact splitEnding.eq_4 c y (fun h => absurd h hc.2.2) (fun h => absurd h hc.2.1)
  | cons e x ih =>
      have hfeed : x ++ c :: y ≠ ['\n'] := by
        intro heq
        have hmem : c ∈ ['\n'] := heq ▸ List.mem_append_right x List.mem_cons_self
        exact hc.2.1 (List.mem_singleton.mp hmem)
      rw [List.cons_append, splitEnding.eq_4 e _ (fun _ h => hfeed h) (fun _ h => by simp at h), ih]
      rfl

theorem dropLeading_append_solid (hc : Solid c) (x y : Text) :
    dropLeading isIndent (x ++ c :: y) = dropLeading isIndent x ++ c :: y := by
  induction x with
  | nil => exact List.dropWhile_cons_of_neg (by simp [hc.1])
  | cons e x ih =>
      cases he : isIndent e <;> simp_all [dropLeading]

theorem beginsWithTag_append (x y : Text) :
    beginsWithTag (x ++ c :: d :: y) = beginsWithTag (x ++ [c, d]) := by
  have hprefix : ∀ {e f : Char}, [e, f] <+: x ++ c :: d :: y ↔ [e, f] <+: x ++ [c, d] := by
    intro e f
    match x with
    | [] => simp
    | [g] => simp
    | g :: g' :: x => simp
  rw [Bool.eq_iff_iff, beginsWithTag_iff, beginsWithTag_iff, BeginsInTag, BeginsInTag, hprefix,
    hprefix]

theorem endsWithTag_append (x y : Text) :
    endsWithTag (x ++ c :: d :: y) = endsWithTag (c :: d :: y) := by
  have hsuffix : ∀ {e f : Char}, [e, f] <:+ x ++ c :: d :: y ↔ [e, f] <:+ c :: d :: y := by
    intro e f
    constructor
    · intro hends
      exact List.suffix_of_suffix_length_le hends (List.suffix_append _ _) (by simp)
    · exact fun hends => hends.trans (List.suffix_append _ _)
  rw [Bool.eq_iff_iff, endsWithTag_iff, endsWithTag_iff, EndsInTag, EndsInTag, hsuffix, hsuffix]

/-- What is kept of the beginning of a line that goes on with two characters. -/
def keptBefore (o : EngineOptions) (x : Text) (c d : Char) : Text :=
  if o.stripIndent && beginsWithTag (dropLeading isIndent x ++ [c, d]) then dropLeading isIndent x
  else x

theorem splitEnding_pair (hd : Solid d) (x y : Text) : splitEnding (x ++ c :: d :: y) =
    (x ++ c :: d :: (splitEnding y).1, (splitEnding y).2) := by
  have happend := splitEnding_append_solid hd (x ++ [c]) y
  simpa only [List.append_assoc, List.singleton_append] using happend

theorem kept_append (hc : Solid c) (hd : Solid d) (x y : Text) :
    kept o (x ++ c :: d :: y) = keptBefore o x c d ++ c :: d :: (splitEnding y).1 := by
  rw [kept, lineContent, splitEnding_pair hd, dropLeading_append_solid hc, beginsWithTag_append,
    keptBefore]
  split <;> rfl

theorem keptBefore_nil (o : EngineOptions) (c d : Char) : keptBefore o [] c d = [] :=
  ite_self _

theorem processLine_append (hc : Solid c) (hd : Solid d) (x y : Text) :
    processLine o (x ++ c :: d :: y) = keptBefore o x c d ++ processLine o (c :: d :: y) := by
  have hself : splitEnding (c :: d :: y) = (c :: d :: (splitEnding y).1, (splitEnding y).2) :=
    splitEnding_pair hd [] y
  have hkept : kept o (c :: d :: y) = c :: d :: (splitEnding y).1 := by
    have happend := kept_append (o := o) hc hd [] y
    rwa [keptBefore_nil] at happend
  dsimp only [processLine]
  rw [kept_append hc hd, hkept, splitEnding_pair hd, hself, keepsEnding, keepsEnding,
    endsWithTag_append, List.append_assoc]

/-- A text is processed alike up to two characters that are not blank, whatever comes after
them. -/
theorem exists_process_append (o : EngineOptions) (x : Text) (hc : Solid c) (hd : Solid d) :
    ∃ p, ∀ y, process o (x ++ c :: d :: y) = p ++ process o (c :: d :: y) := by
  induction x using feed_induction with
  | last x hx =>
      refine ⟨keptBefore o x c d, fun y => ?_⟩
      have hpair : ∀ {l : Text}, '\n' ∉ l → '\n' ∉ c :: d :: l := by
        intro l hl
        simp [hl, Ne.symm hc.2.1, Ne.symm hd.2.1]
      induction y using feed_induction with
      | last y hy =>
          rw [process_of_not_mem (hpair hy), process_of_not_mem (by simp [hx, hpair hy]),
            processLine_append hc hd]
      | feed l y hl _ =>
          have hline := process_feed (o := o) (hpair hl) y
          have hlong := process_feed (o := o) (l := x ++ c :: d :: l) (by simp [hx, hpair hl]) y
          simp only [List.cons_append, List.append_assoc] at hline hlong
          rw [hline, hlong, processLine_append hc hd, List.append_assoc]
  | feed l x hl ih =>
      obtain ⟨p, hp⟩ := ih
      refine ⟨processLine o (l ++ ['\n']) ++ p, fun y => ?_⟩
      rw [List.append_assoc, List.cons_append, process_feed hl, hp, List.append_assoc]

end TemplateTree.Source
