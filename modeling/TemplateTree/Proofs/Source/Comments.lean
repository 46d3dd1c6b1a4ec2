import TemplateTree.Proofs.Source.Dropped
import TemplateTree.Proofs.Source.Scanning
import TemplateTree.Proofs.Template.CommentPlaces

/-!
# Comments in sources

The text of a comment does not matter for what processing makes of the text around it, and a
comment is processed to a comment.  The scan for references passes over a comment in which no
tag opens, if nothing that looks like the beginning of a tag before it goes on into it.
-/

namespace TemplateTree.Source

open Text Template

variable {o : EngineOptions} {t u m m' a b x before after arguments : Text} {c : Char}

/-! ## Processing -/

theorem Drops.inert (h : Drops false m m') (hm : Inert m) : Inert m' where
  unclosed := fun hin => hm.unclosed (h.pair_isInfix (by decide) (by decide) hin)
  head := fun hhead => hm.head (h.head? hhead (by decide))
  last := fun hlast => hm.last (h.getLast? hlast (by decide))

theorem process_cons_cons {c d : Char} (hc : Solid c) (hd : Solid d) (t : Text) :
    ∃ u, process o (c :: d :: t) = c :: d :: u ∧ Drops (d = '\x7d') t u := by
  obtain ⟨v, hv, hfirst⟩ := (drops_process o (c :: d :: t)).of_solid hc
  obtain ⟨u, rfl, hsecond⟩ := hfirst.of_solid hd
  exact ⟨u, hv, hsecond⟩

theorem process_pair {c d : Char} (hc : Solid c) (hd : Solid d) : process o [c, d] = [c, d] := by
  obtain ⟨u, hu, hdrops⟩ := process_cons_cons (o := o) hc hd []
  cases hdrops
  exact hu

/-- A comment alone is processed to a comment. -/
theorem exists_process_comment (o : EngineOptions) (m : Text) : ∃ m', Drops false m m' ∧
    process o (commentOpen ++ (m ++ commentClose)) = commentOpen ++ (m' ++ commentClose) := by
  obtain ⟨u, hu, hdrops⟩ := process_cons_cons (o := o) (c := '\x7b') (d := '#') (by decide)
    (by decide) (m ++ commentClose)
  obtain ⟨m', y, rfl, hm, hy⟩ := hdrops.of_append (by decide) (by decide)
  obtain ⟨z, rfl, hz⟩ := hy.of_solid (by decide)
  cases hz
  exact ⟨m', hm, hu⟩

/-- The text of a comment does not matter for what becomes of the text around it. -/
theorem exists_process_commentThen (o : EngineOptions) (before after : Text) : ∃ b a,
    process o (before ++ commentOpen) = b ++ commentOpen ∧
    ∀ m, ∃ m', Drops false m m' ∧
      process o (before ++ commentThen m after) = b ++ commentThen m' a := by
  have hopen : Solid '\x7b' := by decide
  have hsign : Solid '#' := by decide
  have hclose : Solid '\x7d' := by decide
  obtain ⟨b, hb⟩ := exists_process_append o before hopen hsign
  obtain ⟨a, ha, -⟩ := process_cons_cons (o := o) hsign hclose after
  refine ⟨b, a, (hb []).trans (congrArg (b ++ ·) (process_pair hopen hsign)), fun m => ?_⟩
  obtain ⟨m', hm, hcomment⟩ := exists_process_comment o m
  obtain ⟨p, hp⟩ := exists_process_append o (commentOpen ++ m) hsign hclose
  obtain rfl : p = commentOpen ++ m' := by
    have halone := hp []
    rw [process_pair hsign hclose, List.append_assoc] at halone
    refine (List.append_cancel_right (?_ : commentOpen ++ m' ++ commentClose = _)).symm
    rw [List.append_assoc, ← hcomment]
    exact halone
  refine ⟨m', hm, ?_⟩
  have hafter := hp after
  rw [ha, List.append_assoc, List.append_assoc] at hafter
  exact (hb (m ++ (commentClose ++ after))).trans (congrArg (b ++ ·) hafter)

/-! ## The scan -/

theorem opening?_eq_some_iff : opening? t = some arguments ↔ ∃ dash blank word,
    t = ['\x7b', '%'] ++ dash ++ blank ++ word ++ arguments ∧ (dash = [] ∨ dash = ['-']) ∧
      isBlank blank = true ∧ word ∈ keywords ∧ (arguments.head?).any isWordChar = false := by
  constructor
  · intro h
    obtain ⟨opened, hopened, hword⟩ := Option.bind_eq_some_iff.mp h
    obtain rfl := dropStart?_eq_some_iff.mp hopened
    obtain ⟨dash, inner, rfl, hget, hdash⟩ : ∃ dash inner, opened = dash ++ inner ∧
        (dropStart? ['-'] opened).getD opened = inner ∧ (dash = [] ∨ dash = ['-']) := by
      cases hdrop : dropStart? ['-'] opened with
      | none => exact ⟨[], opened, rfl, rfl, .inl rfl⟩
      | some inner => exact ⟨['-'], inner, dropStart?_eq_some_iff.mp hdrop, rfl, .inr rfl⟩
    rw [hget] at hword
    obtain ⟨word, hmem, htrim⟩ := exists_of_afterKeyword? hword
    obtain ⟨blank, hblank, hsplit⟩ := exists_append_trimStart inner
    have hhead := (Option.filter_eq_some_iff.mp hword).2
    refine ⟨dash, blank, word, ?_, hdash, hblank, hmem, by simpa using hhead⟩
    rw [hsplit, htrim]
    simp
  · rintro ⟨dash, blank, word, rfl, hdash, hblank, hword, harguments⟩
    exact opening?_append hdash hblank hword harguments

/-- A comment is no part of the beginning of a tag. -/
theorem opening?_append_comment (t u : Text) :
    opening? (t ++ (commentOpen ++ u)) = (opening? t).map (· ++ (commentOpen ++ u)) := by
  have hcut : ∀ {arguments}, opening? t = some arguments →
      opening? (t ++ (commentOpen ++ u)) = some (arguments ++ (commentOpen ++ u)) := by
    intro arguments h
    obtain ⟨dash, blank, word, rfl, hdash, hblank, hword, harguments⟩ :=
      opening?_eq_some_iff.mp h
    refine opening?_eq_some_iff.mpr ⟨dash, blank, word, by simp, hdash, hblank, hword, ?_⟩
    cases arguments with
    | nil => rfl
    | cons => exact harguments
  cases h : opening? t with
  | some arguments => exact hcut h
  | none =>
      rw [Option.map_none, Option.eq_none_iff_forall_ne_some]
      intro arguments hsome
      obtain ⟨dash, blank, word, hsplit, hdash, hblank, hword, harguments⟩ :=
        opening?_eq_some_iff.mp hsome
      cases t with
      | nil => simp [commentOpen] at hsplit
      | cons c t =>
          obtain ⟨_, _, x, -, rfl, -⟩ := exists_of_opening?_append hsome rfl
          have hhead : (x.head?).any isWordChar = false := by
            cases x with
            | nil => rfl
            | cons => exact harguments
          have ht : c :: t = ['\x7b', '%'] ++ dash ++ blank ++ word ++ x :=
            List.append_cancel_right (hsplit.trans (List.append_assoc _ _ _).symm)
          have hopening := opening?_append hdash hblank hword hhead
          rw [← ht, h] at hopening
          cases hopening

/-- A text in which whatever looks like the beginning of a tag that refers to templates has the
end of a tag after it. -/
def Ended (t : Text) : Prop :=
  ∀ x, x <:+ t → ∀ arguments, opening? x = some arguments → tagClose <:+: arguments

theorem opening?_eq_none (h : ¬ tagOpen <+: t) : opening? t = none := by
  rw [Option.eq_none_iff_forall_ne_some]
  intro arguments hsome
  obtain ⟨dash, blank, word, rfl, -⟩ := opening?_eq_some_iff.mp hsome
  exact h ⟨dash ++ blank ++ word ++ arguments, by simp [tagOpen]⟩

theorem referencesFrom_append_cons (ht : ¬ tagOpen <:+: t) (hc : c ≠ '\x7b') (hsign : c ≠ '%') :
    referencesFrom 0 (t ++ c :: u) = referencesFrom 0 u := by
  induction t with
  | nil =>
      refine referencesFrom_of_no_opening (opening?_eq_none fun hpre => hc ?_)
      exact (List.cons_prefix_cons.mp hpre).1.symm
  | cons d t ih =>
      rw [List.infix_cons_iff, not_or] at ht
      rw [List.cons_append, referencesFrom_of_no_opening, ih ht.2]
      refine opening?_eq_none fun hpre => ?_
      obtain ⟨rfl, hnext⟩ := List.cons_prefix_cons.mp hpre
      cases t with
      | nil => exact hsign (List.cons_prefix_cons.mp hnext).1.symm
      | cons e t =>
          obtain ⟨rfl, -⟩ := List.cons_prefix_cons.mp hnext
          exact ht.1 ⟨t, rfl⟩

theorem references_comment (hm : ¬ tagOpen <:+: m) (a : Text) :
    references (commentThen m a) = references a := by
  have hnone : ¬ tagOpen <:+: commentOpen ++ (m ++ ['#']) := by
    intro hin
    have hne : tagOpen ≠ [] := List.cons_ne_nil _ _
    have hsign : '#' ∉ tagOpen := by decide
    rcases (infix_append_cons_iff (a := ['\x7b']) hne hsign).mp hin with hfirst | hin
    · exact absurd hfirst (by decide)
    · rcases (infix_append_cons_iff hne hsign).mp hin with hinside | hlast
      · exact hm hinside
      · exact absurd hlast (by decide)
  have hskip := referencesFrom_append_cons (u := a) hnone (c := '\x7d') (by decide) (by decide)
  rw [List.append_assoc, List.append_assoc] at hskip
  exact hskip

/-- The scan passes over a comment in which no tag opens. -/
theorem references_commentThen (hb : Ended b) (hm : ¬ tagOpen <:+: m) (a : Text) :
    references (b ++ commentThen m a) = references b ++ references a := by
  unfold references
  -- on the length of what is before the comment, of which the scan may leave a part out
  induction hn : b.length using Nat.strong_induction_on generalizing b with
  | _ n ih =>
      cases b with
      | nil => exact references_comment hm a
      | cons c b =>
          have happend : opening? (c :: (b ++ commentThen m a)) =
              (opening? (c :: b)).map (· ++ commentThen m a) :=
            opening?_append_comment (c :: b) (m ++ (commentClose ++ a))
          cases hopening : opening? (c :: b) with
          | none =>
              rw [hopening] at happend
              rw [List.cons_append, referencesFrom_of_no_opening happend,
                referencesFrom_of_no_opening hopening]
              exact ih b.length (by simp [← hn])
                (fun x hx => hb x (hx.trans (List.suffix_cons c b))) rfl
          | some arguments =>
              obtain ⟨inside, after, rfl, hinside⟩ :=
                exists_firstAfter (hb _ List.suffix_rfl _ hopening)
              have hafter : after <:+ c :: b ∧ after.length < n := by
                obtain ⟨init, last, hsplit, -, -⟩ := exists_of_opening? hopening
                rw [← hn, hsplit]
                refine ⟨⟨'\x7b' :: (init ++ last :: (inside ++ tagClose)), by simp⟩, ?_⟩
                simp only [List.length_cons, List.length_append]
                omega
              rw [hopening, Option.map_some, List.append_assoc] at happend
              have hrest := ih after.length hafter.2 (fun x hx => hb x (hx.trans hafter.1)) rfl
              rw [List.cons_append, referencesFrom_of_opening happend hinside, hrest,
                referencesFrom_of_opening hopening hinside, List.append_assoc]

end TemplateTree.Source
