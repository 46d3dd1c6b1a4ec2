import TemplateTree.Proofs.Template.CommentText

/-!
# Where comments stand

In the tree of a text, each comment begins where nothing before it is left open.  So it can be
told from the tree alone that the text of a comment does not matter.
-/

namespace TemplateTree

namespace Peg

open ParseTree

variable {ρ : Type} {grammar : ρ → PegRule ρ} {e : Peg ρ} {s : Setting} {i j : Input}
  {ts : List (ParseTree ρ)} {n : Nat}

/-- The trees of a match are those of rules to which its expression leads. -/
theorem ComesTo.rule_mem {E : ρ → Prop} (h : ComesTo grammar n e s i (some (j, ts)))
    (he : ∀ q, .rule q ∈ e.leaves → E q)
    (hbody : ∀ r, E r → ∀ q, .rule q ∈ (grammar r).body.leaves → E q) :
    ∀ u ∈ nodesIn ts, E u.rule := by
  generalize ho : some (j, ts) = o at h
  induction h generalizing j ts with
  | text | range | any | start | stop | without | done | absent =>
      cases ho
      simp [nodesIn]
  | noText | noRange | noAny | noStart | noStop | noFirst | noSecond | present | noRule => cases ho
  | seq _ _ iha ihb =>
      cases ho
      rw [nodesIn_append]
      exact List.forall_mem_append.mpr ⟨iha (fun q hq => he q (List.mem_append_left _ hq)) rfl,
        ihb (fun q hq => he q (List.mem_append_right _ hq)) rfl⟩
  | left _ ih => exact ih (fun q hq => he q (List.mem_append_left _ hq)) ho
  | right _ _ _ ih => exact ih (fun q hq => he q (List.mem_append_right _ hq)) ho
  | once _ ih | last _ _ ih => exact ih he ho
  | again _ _ _ iha _ ihrest =>
      cases ho
      rw [nodesIn_append]
      exact List.forall_mem_append.mpr ⟨iha he rfl, ihrest he rfl⟩
  | @rule n r s i j ts _ ih =>
      cases ho
      have hr : E r := he r (List.mem_singleton_self _)
      have hinner := ih (hbody r hr) rfl
      unfold yields treesOf
      split
      · exact hinner
      · split
        · exact hinner
        · rw [nodesIn_singleton, nodes_eq]
          exact List.forall_mem_cons.mpr ⟨hr, hinner⟩

end Peg

namespace Template

open Peg ParseTree Source

variable {n : Nat} {r : Rule} {e : Peg Rule} {es : List (Peg Rule)} {s : Setting} {i j k : Input}
  {ts us : List Tree} {t u w x y b p close : Text} {tree node : Tree} {q : Char}

/-! ## What is read of quiet texts -/

theorem exists_of_between (hs : s.spacing ≠ .free)
    (h : ComesTo grammar n (Rule.between (.text [q])) s i (some (j, ts))) :
    ∃ w, q ∉ w ∧ Reads i (q :: (w ++ [q])) j := by
  cases h with
  | seq hopen hrest =>
      cases hopen with
      | text hfirst =>
          rw [passSpace_of_ne_free hs] at hrest
          cases hrest with
          | seq hinside hclose =>
              cases hclose with
              | text hlast =>
                  obtain ⟨w, hw, -, hall⟩ := hinside.exists_of_star_upTo hs
                  rw [passSpace_of_ne_free hs] at hlast
                  refine ⟨w, fun hmem => ?_, hfirst.trans (hw.trans hlast)⟩
                  obtain ⟨v, v', rfl⟩ := List.append_of_mem hmem
                  obtain ⟨k, hk, hnone⟩ := hall (q :: v') (List.suffix_append _ _)
                    (List.cons_ne_nil _ _)
                  cases hnone with
                  | noText hnot => exact hnot ⟨v' ++ _, hk.symm⟩

theorem exists_quiet_passSpace (spacing : Spacing) (i : Input) :
    ∃ w, Quiet w ∧ Reads i w (passSpace spacing i) := by
  obtain ⟨w, hread, hall⟩ := reads_passSpace spacing i
  exact ⟨w, quiet_of_isSpacing hall, hread⟩

/-- A string reads a quiet text. -/
theorem exists_quiet_of_string (hs : s.spacing ≠ .free)
    (h : ComesTo grammar n (grammar .string).body s i (some (j, ts))) :
    ∃ y, Quiet y ∧ Reads i y j := by
  have hquoted : ∃ q, isQuote q = true ∧
      ComesTo grammar n (Rule.between (.text [q])) s i (some (j, ts)) := by
    cases h with
    | left h => exact ⟨'"', by decide, h⟩
    | right _ h =>
        cases h with
        | left h => exact ⟨'\'', by decide, h⟩
        | right _ h => exact ⟨Char.ofNat 0x60, by decide, h⟩
  obtain ⟨q, hq, hbetween⟩ := hquoted
  obtain ⟨w, hw, hread⟩ := exists_of_between hs hbetween
  exact ⟨_, .quoted hq hw .nil, hread⟩

theorem exists_quiet (h : ComesTo grammar n e s i (some (j, ts)))
    (he : e.leaves.all staysInside = true) : ∃ y, Quiet y ∧ Reads i y j := by
  generalize ho : some (j, ts) = o at h
  induction h generalizing j ts with
  | @text n t s i j hread =>
      cases ho
      have hstays : staysInside (.text t) = true := List.all_eq_true.mp he _ List.mem_cons_self
      exact ⟨t, quiet_of_still (still_of_all hstays), hread⟩
  | @range n low high c s i j hread hlow hhigh =>
      cases ho
      have hstays : staysInside (.range low high) = true :=
        List.all_eq_true.mp he _ List.mem_cons_self
      exact ⟨[c], quiet_of_still fun d hd => by
        rw [List.mem_singleton.mp hd]
        exact still_of_outside hstays hlow hhigh, hread⟩
  | any | start | stop => simp [leaves, staysInside] at he
  | without | done | absent =>
      cases ho
      exact ⟨[], .nil, .refl _⟩
  | noText | noRange | noAny | noStart | noStop | noFirst | noSecond | present | noRule => cases ho
  | seq _ _ iha ihb =>
      cases ho
      rw [leaves, List.all_append, Bool.and_eq_true_iff] at he
      obtain ⟨y, hy, hread⟩ := iha he.1 rfl
      obtain ⟨w, hw, hblank⟩ := exists_quiet_passSpace _ _
      obtain ⟨y', hy', hread'⟩ := ihb he.2 rfl
      exact ⟨_, (hy.append hw).append hy', (hread.trans hblank).trans hread'⟩
  | left _ ih =>
      rw [leaves, List.all_append, Bool.and_eq_true_iff] at he
      exact ih he.1 ho
  | right _ _ _ ih =>
      rw [leaves, List.all_append, Bool.and_eq_true_iff] at he
      exact ih he.2 ho
  | once _ ih | last _ _ ih => exact ih he ho
  | again _ _ _ iha _ ihrest =>
      cases ho
      obtain ⟨y, hy, hread⟩ := iha he rfl
      obtain ⟨w, hw, hblank⟩ := exists_quiet_passSpace _ _
      obtain ⟨y', hy', hread'⟩ := ihrest he rfl
      exact ⟨_, (hy.append hw).append hy', (hread.trans hblank).trans hread'⟩
  | @rule n r s i j ts hbody ih =>
      cases ho
      have hr : standsInside r = true := List.all_eq_true.mp he _ List.mem_cons_self
      by_cases hstring : r = .string
      · subst hstring
        exact exists_quiet_of_string (s := innerSetting .solid s)
          (by decide : Spacing.solid ≠ .free) hbody
      · exact ih (staysInside_of_body hr hstring) rfl

theorem exists_of_seqs_stop
    (hstop : grammar r = ⟨.normal, .alt (.text ('-' :: close)) (.text close)⟩)
    (hes : ∀ e ∈ es, e.leaves.all staysInside = true)
    (h : ComesTo grammar n (Peg.seqs (es ++ [.rule r])) s i (some (j, ts))) :
    ∃ y, Quiet y ∧ Reads i (y ++ close) j := by
  induction es generalizing i ts with
  | nil =>
      obtain ⟨dash, hdash, hread⟩ := exists_of_stopMark hstop h
      exact ⟨dash, quiet_of_dash hdash, hread⟩
  | cons e es ih =>
      rw [List.cons_append, seqs_concat_cons] at h
      cases h with
      | seq hfirst hrest =>
          obtain ⟨y, hy, hread⟩ := exists_quiet hfirst (hes e List.mem_cons_self)
          obtain ⟨blank, hspace, hblank⟩ := exists_quiet_passSpace s.spacing _
          obtain ⟨y', hy', hread'⟩ := ih (fun e' he' => hes e' (List.mem_cons_of_mem e he')) hrest
          refine ⟨y ++ (blank ++ y'), hy.append (hspace.append hy'), ?_⟩
          simpa using hread.trans (hblank.trans hread')

/-- A tag reads a quiet text between its marks. -/
theorem exists_of_delimited {q r' : Rule}
    (hr : grammar r = ⟨.free, Peg.seqs (.rule q :: (es ++ [.rule r']))⟩)
    (hstart : grammar q = ⟨.normal, .alt (.text (p ++ ['-'])) (.text p)⟩)
    (hstop : grammar r' = ⟨.normal, .alt (.text ('-' :: close)) (.text close)⟩)
    (hes : ∀ e ∈ es, e.leaves.all staysInside = true)
    (h : ComesTo grammar n (.rule r) s i (some (j, ts))) :
    ∃ y, Quiet y ∧ Reads i (p ++ (y ++ close)) j := by
  cases h with
  | rule hbody =>
      rw [hr] at hbody
      dsimp only at hbody
      rw [seqs_concat_cons] at hbody
      cases hbody with
      | @seq _ _ _ _ _ k _ _ _ hopen hrest =>
          obtain ⟨dash, hdash, hread⟩ := exists_of_startMark hstart hopen
          obtain ⟨blank, hspace, hblank⟩ := exists_quiet_passSpace .free k
          obtain ⟨y, hy, hread'⟩ := exists_of_seqs_stop hstop hes hrest
          refine ⟨dash ++ (blank ++ y), (quiet_of_dash hdash).append (hspace.append hy), ?_⟩
          simpa using hread.trans (hblank.trans hread')

/-- The first word of a tag is the word of the tag. -/
theorem word_of_wordTag {word : String} (hr : grammar r = ⟨.free, Rule.wordTag word es⟩)
    (h : ComesTo grammar n (.rule r) s i (some (j, ts))) :
    ∃ u, i.rest = tagOpen ++ u ∧ word.toList <+: firstWord u := by
  by_contra hnot
  have hfails : Fails grammar n (.rule r) s i :=
    fails_wordTag hr fun u hu hpre => hnot ⟨u, hu, hpre⟩
  cases hfails h

theorem exists_of_wordTag_quiet {word : String} (hr : grammar r = ⟨.free, Rule.wordTag word es⟩)
    (hes : ∀ e ∈ Rule.lit word :: es, e.leaves.all staysInside = true)
    (h : ComesTo grammar n (.rule r) s i (some (j, ts))) :
    ∃ y, Quiet y ∧ Reads i (tagOpen ++ (y ++ tagClose)) j ∧
      word.toList <+: firstWord y ++ tagClose ++ j.rest := by
  have hbody : grammar r = ⟨.free, Peg.seqs (.rule .tagStart :: (Rule.lit word :: es ++
      [.rule .tagEnd]))⟩ := hr
  have hquiet : ∃ y, Quiet y ∧ Reads i (tagOpen ++ (y ++ tagClose)) j :=
    exists_of_delimited hbody rfl rfl hes h
  obtain ⟨y, hy, hread⟩ := hquiet
  obtain ⟨u, hu, hword⟩ := word_of_wordTag hr h
  refine ⟨y, hy, hread, ?_⟩
  have hrest : u = y ++ '%' :: ('\x7d' :: j.rest) := by
    have hsame : tagOpen ++ u = tagOpen ++ (y ++ '%' :: ('\x7d' :: j.rest)) := by
      rw [← hu, hread.rest]
      simp [tagClose]
    exact List.append_cancel_left hsame
  rw [hrest, firstWord_append (by decide) (by decide)] at hword
  simpa [tagClose] using hword

/-! ## What is left open -/

/-- A match after which nothing is left open, and inside of which comments begin where nothing
is left open. -/
structure Passed (i j : Input) (ts : List Tree) : Prop where
  plain : ∃ w, Reads i w j ∧ ∀ b, Plain b → b ++ commentOpen <+: j.rest → Plain (w ++ b)
  comments : ∀ u ∈ nodesIn ts, u.rule = .commentTag →
    ∃ v k, Reads i v k ∧ k.place = u.start ∧ Plain v ∧ commentOpen <+: k.rest

theorem Passed.refl (i : Input) : Passed i i [] where
  plain := ⟨[], .refl i, fun _ hb _ => hb⟩
  comments := by simp [nodesIn]

theorem Passed.trans (h : Passed i j ts) (h' : Passed j k us) : Passed i k (ts ++ us) := by
  obtain ⟨w, hw, hplain⟩ := h.plain
  constructor
  · obtain ⟨w', hw', hplain'⟩ := h'.plain
    refine ⟨w ++ w', hw.trans hw', fun b hb hpre => ?_⟩
    rw [List.append_assoc]
    refine hplain _ (hplain' b hb hpre) ?_
    rw [hw'.rest, List.append_assoc]
    exact (List.prefix_append_right_inj w').mpr hpre
  · intro u hu hrule
    rw [nodesIn_append] at hu
    rcases List.mem_append.mp hu with hu | hu
    · exact h.comments u hu hrule
    · obtain ⟨v, l, hv, hplace, hopen, hpre⟩ := h'.comments u hu hrule
      refine ⟨w ++ v, l, hw.trans hv, hplace, hplain v hopen ?_, hpre⟩
      rw [hv.rest]
      exact (List.prefix_append_right_inj v).mpr hpre

/-- Whether no comment is inside a rule. -/
def holdsNoComment (r : Rule) : Bool :=
  !holdsContent r && r ≠ .commentTag && r ≠ .template

/-- Whether no comment is inside a part of an expression. -/
def bearsNoComment : Peg Rule → Bool
  | .rule r => holdsNoComment r
  | _ => true

theorem comments_of_bearsNoComment (h : ComesTo grammar n e s i (some (j, ts)))
    (he : e.leaves.all bearsNoComment = true) : ∀ u ∈ nodesIn ts, u.rule ≠ .commentTag := by
  have hall : ∀ r : Rule, holdsNoComment r = true →
      (grammar r).body.leaves.all bearsNoComment = true := by
    intro r hr
    cases r <;> first | rfl | cases hr
  have hrules := h.rule_mem (E := fun r => holdsNoComment r = true)
    (fun q hq => List.all_eq_true.mp he _ hq)
    fun r hr q hq => List.all_eq_true.mp (hall r hr) _ hq
  rintro u hu hrule
  have hnone := hrules u hu
  rw [hrule] at hnone
  cases hnone

theorem passed_of_plain (hr : holdsNoComment r = true)
    (h : ComesTo grammar n (.rule r) s i (some (j, ts))) (hw : Reads i w j)
    (hplain : ∀ b, Plain b → b ++ commentOpen <+: j.rest → Plain (w ++ b)) : Passed i j ts where
  plain := ⟨w, hw, hplain⟩
  comments u hu hrule :=
    absurd hrule (comments_of_bearsNoComment h (by simp [leaves, bearsNoComment, hr]) u hu)

theorem passed_wordTag (hr : r ∈ wordTags)
    (h : ComesTo grammar n (.rule r) s i (some (j, ts))) : Passed i j ts := by
  obtain ⟨word, es, hbody, hes, hhead⟩ := exists_word hr
  obtain ⟨y, hy, hread, hword⟩ := exists_of_wordTag_quiet hbody hes h
  have hraw : ¬ rawWord <+: firstWord y := by
    rintro ⟨w, hw⟩
    rw [← hw] at hword
    cases hletters : word.toList with
    | nil => simp [hletters] at hhead
    | cons c w' =>
        rw [hletters] at hword hhead
        obtain ⟨rfl, -⟩ := List.cons_prefix_cons.mp hword
        simp at hhead
  have hnone : holdsNoComment r = true := by
    have hall : ∀ r ∈ wordTags, holdsNoComment r = true := by decide
    exact hall r hr
  refine passed_of_plain hnone h hread fun b hb _ => ?_
  rw [List.append_assoc, List.append_assoc]
  exact .tag hy hraw hb

theorem passed_output {e : Peg Rule} (hnone : holdsNoComment r = true)
    (hr : grammar r = ⟨.free, Peg.seqs [.rule .variableStart, e, .rule .variableEnd]⟩)
    (he : e.leaves.all staysInside = true)
    (h : ComesTo grammar n (.rule r) s i (some (j, ts))) : Passed i j ts := by
  have hbody : grammar r =
      ⟨.free, Peg.seqs (.rule .variableStart :: ([e] ++ [.rule .variableEnd]))⟩ := hr
  have hquiet : ∃ y, Quiet y ∧ Reads i (outputOpen ++ (y ++ outputClose)) j :=
    exists_of_delimited hbody rfl rfl (fun e' he' => by rwa [List.mem_singleton.mp he']) h
  obtain ⟨y, hy, hread⟩ := hquiet
  refine passed_of_plain hnone h hread fun b hb _ => ?_
  rw [List.append_assoc, List.append_assoc]
  exact .output hy hb

theorem Opens.mono (h : Opens t) (hpre : t <+: u) : Opens u :=
  h.imp (·.trans hpre) (.imp (·.trans hpre) (·.trans hpre))

theorem passed_text (h : ComesTo grammar n (.rule .text) s i (some (j, ts))) : Passed i j ts := by
  cases h with
  | rule hbody =>
      have htight : (innerSetting (grammar .text).mode s).spacing ≠ .free :=
        (by decide : Spacing.tight ≠ .free)
      obtain ⟨w, hw, -, hall⟩ := hbody.exists_of_plus_upTo htight
      refine passed_of_plain rfl (.rule hbody) hw fun b hb hpre => ?_
      have hsuffix : ∀ x, x <:+ w → Plain (x ++ b) := by
        intro x hx
        induction x with
        | nil => exact hb
        | cons c x ih =>
            refine .char (fun hopens => ?_) (ih ((List.suffix_cons c x).trans hx))
            obtain ⟨k, hk, hnone⟩ := hall (c :: x) hx (List.cons_ne_nil c x)
            have hmore : c :: (x ++ b ++ commentOpen) <+: c :: x ++ j.rest := by simpa using hpre
            exact stops_blockStart (Opens.mono hopens hmore) hk hnone
      exact hsuffix w List.suffix_rfl

theorem exists_of_rawText (h : ComesTo grammar n (.opt (.rule .rawText)) s i (some (j, ts))) :
    ∃ x, (∀ tag, Endraw tag → ¬ tag <:+: x) ∧ Reads i x j := by
  cases h with
  | without _ =>
      refine ⟨[], fun tag htag hin => ?_, .refl _⟩
      obtain ⟨w, rfl, -⟩ := htag.exists_tail
      cases List.infix_nil.mp hin
  | once hrule =>
      cases hrule with
      | rule hbody =>
          have htight : (innerSetting (grammar .rawText).mode s).spacing ≠ .free :=
            (by decide : Spacing.tight ≠ .free)
          obtain ⟨x, hx, -, hall⟩ := hbody.exists_of_plus_upTo htight
          refine ⟨x, fun tag htag hin => ?_, hx⟩
          obtain ⟨v, v', rfl⟩ := hin
          obtain ⟨w, hw, -⟩ := htag.exists_tail
          obtain ⟨k, hk, hnone⟩ := hall (tag ++ v') ⟨v, by simp⟩ (by simp [hw])
          exact stops_endrawTag htag (v' ++ j.rest) (by rw [hk, List.append_assoc]) hnone

theorem passed_raw (h : ComesTo grammar n (.rule .raw) s i (some (j, ts))) : Passed i j ts := by
  have hmatch := h
  cases h with
  | rule hbody =>
      cases hbody with
      | @seq _ _ _ _ _ k _ _ _ hraw hrest =>
          cases hrest with
          | @seq _ _ _ _ _ l _ _ _ htext hend =>
              obtain ⟨y, hy, hread, hword⟩ := exists_of_wordTag_quiet rfl (by decide) hraw
              obtain ⟨x, hx, hread'⟩ := exists_of_rawText htext
              obtain ⟨last, hlast, hread''⟩ := exists_of_endrawTag hend
              have hopen : rawWord <+: firstWord y := by
                rw [List.append_assoc] at hword
                exact (Text.prefix_append_cons_iff (by decide)).mp hword
              refine passed_of_plain rfl hmatch ((hread.trans hread').trans hread'')
                fun b hb _ => ?_
              simpa only [List.append_assoc] using Plain.raw hy hopen hx hlast hb

theorem unclosed_of_dashes {dash dash' : Text} (hdash : dash = [] ∨ dash = ['-'])
    (hdash' : dash' = [] ∨ dash' = ['-']) (hx : ¬ commentClose <:+: x) :
    ¬ commentClose <:+: dash ++ (x ++ dash') := by
  have hne : commentClose ≠ [] := List.cons_ne_nil _ _
  have hmem : '-' ∉ commentClose := by decide
  have hafter : ¬ commentClose <:+: x ++ dash' := by
    rcases hdash' with rfl | rfl
    · rwa [List.append_nil]
    · rw [Text.infix_append_cons_iff hne hmem, List.infix_nil]
      exact not_or.mpr ⟨hx, hne⟩
  rcases hdash with rfl | rfl
  · exact hafter
  · have hbefore := Text.infix_append_cons_iff (a := []) (b := x ++ dash') hne hmem
    rw [List.infix_nil] at hbefore
    exact fun h => (hbefore.mp h).elim hne hafter

theorem exists_of_comment
    (h : ComesTo grammar n (grammar .commentTag).body s i (some (j, ts))) (hs : s.spacing ≠ .free) :
    ∃ x, ¬ commentClose <:+: x ∧ Reads i (commentOpen ++ (x ++ commentClose)) j := by
  cases h with
  | @seq _ _ _ _ _ k _ _ _ hopen hrest =>
      cases hrest with
      | @seq _ _ _ _ _ l _ _ _ hinside hclose =>
          rw [passSpace_of_ne_free hs] at hinside hclose
          obtain ⟨x, hread, -, hall⟩ := hinside.exists_of_star_upTo hs
          obtain ⟨dash, hdash, hstart⟩ := exists_of_startMark (p := commentOpen) rfl hopen
          obtain ⟨dash', hdash', hstop⟩ := exists_of_stopMark (p := commentClose) rfl hclose
          have hx : ¬ commentClose <:+: x := by
            rintro ⟨v, v', rfl⟩
            obtain ⟨k, hk, hnone⟩ := hall (commentClose ++ v') ⟨v, by simp⟩ (by simp [commentClose])
            refine stops_marks rfl (.inr ⟨v' ++ l.rest, ?_⟩) hk hnone
            exact (List.append_assoc commentClose _ _).symm
          refine ⟨_, unclosed_of_dashes hdash hdash' hx, ?_⟩
          simpa using (hstart.trans hread).trans hstop

theorem passed_commentTag (h : ComesTo grammar n (.rule .commentTag) s i (some (j, ts))) :
    Passed i j ts := by
  cases h with
  | rule hbody =>
      have htight : (innerSetting (grammar .commentTag).mode s).spacing ≠ .free :=
        (by decide : Spacing.tight ≠ .free)
      obtain ⟨x, hx, hread⟩ := exists_of_comment hbody htight
      have hinner := comments_of_bearsNoComment hbody rfl
      constructor
      · refine ⟨_, hread, fun b hb _ => ?_⟩
        simpa only [List.append_assoc] using Plain.comment hx hb
      · intro u hu hrule
        unfold yields treesOf at hu
        split at hu
        · exact absurd hrule (hinner u hu)
        · split at hu
          · exact absurd hrule (hinner u hu)
          · rw [nodesIn_singleton, nodes_eq] at hu
            rcases List.mem_cons.mp hu with rfl | hu
            · refine ⟨[], i, .refl i, rfl, .nil, ?_⟩
              rw [hread.rest, List.append_assoc]
              exact List.prefix_append _ _
            · exact absurd hrule (hinner u hu)

theorem passed_standsAlone (hr : standsAlone r = true)
    (h : ComesTo grammar n (.rule r) s i (some (j, ts))) : Passed i j ts := by
  rcases Bool.or_eq_true_iff.mp hr with hr | hr
  · exact passed_wordTag (List.contains_iff_mem.mp hr) h
  · have hmem := List.contains_iff_mem.mp hr
    simp only [List.mem_cons, List.not_mem_nil, or_false] at hmem
    rcases hmem with rfl | rfl | rfl | rfl | rfl
    · exact passed_output rfl rfl rfl h
    · exact passed_output rfl rfl rfl h
    · exact passed_commentTag h
    · exact passed_raw h
    · exact passed_text h

theorem passed_eoi (h : ComesTo grammar n (.rule .eoi) s i (some (j, ts))) : Passed i j ts := by
  have hmatch := h
  cases h with
  | rule hbody =>
      cases hbody with
      | stop => exact passed_of_plain rfl hmatch (.refl i) fun _ hb _ => hb

theorem passed_of_leaves (hs : s.spacing ≠ .free) (h : ComesTo grammar n e s i (some (j, ts)))
    (hl : ∀ l ∈ e.leaves, ∀ i j ts, ComesTo grammar n l s i (some (j, ts)) → Passed i j ts) :
    Passed i j ts := by
  generalize ho : some (j, ts) = o at h
  induction h generalizing j ts with
  | text hread => exact hl _ List.mem_cons_self _ _ _ (ho ▸ .text hread)
  | range hread hlow hhigh => exact hl _ List.mem_cons_self _ _ _ (ho ▸ .range hread hlow hhigh)
  | any hread => exact hl _ List.mem_cons_self _ _ _ (ho ▸ .any hread)
  | start hplace => exact hl _ List.mem_cons_self _ _ _ (ho ▸ .start hplace)
  | stop hnil => exact hl _ List.mem_cons_self _ _ _ (ho ▸ .stop hnil)
  | rule hbody _ => exact hl _ List.mem_cons_self _ _ _ (ho ▸ .rule hbody)
  | without | done | absent =>
      cases ho
      exact .refl _
  | noText | noRange | noAny | noStart | noStop | noFirst | noSecond | present | noRule => cases ho
  | seq _ _ iha ihb =>
      cases ho
      rw [passSpace_of_ne_free hs] at ihb
      exact (iha hs (fun l hl' => hl l (List.mem_append_left _ hl')) rfl).trans
        (ihb hs (fun l hl' => hl l (List.mem_append_right _ hl')) rfl)
  | left _ ih => exact ih hs (fun l hl' => hl l (List.mem_append_left _ hl')) ho
  | right _ _ _ ih => exact ih hs (fun l hl' => hl l (List.mem_append_right _ hl')) ho
  | once _ ih | last _ _ ih => exact ih hs hl ho
  | again _ _ _ iha _ ihrest =>
      cases ho
      rw [passSpace_of_ne_free hs] at ihrest
      exact (iha hs hl rfl).trans (ihrest hs hl rfl)

theorem Passed.rule {r : Rule} (h : Passed i j ts) (hr : r ≠ .commentTag) :
    Passed i j (yields r (grammar r).mode s i j ts) := by
  refine ⟨h.plain, fun u hu hrule => ?_⟩
  unfold yields treesOf at hu
  split at hu
  · exact h.comments u hu hrule
  · split at hu
    · exact h.comments u hu hrule
    · rw [nodesIn_singleton, nodes_eq] at hu
      rcases List.mem_cons.mp hu with rfl | hu
      · exact absurd hrule hr
      · exact h.comments u hu hrule

theorem passed_content (hs : s.spacing ≠ .free) (hr : holdsContent r = true)
    (h : ComesTo grammar n (.rule r) s i (some (j, ts))) : Passed i j ts := by
  induction n generalizing r s i j ts with
  | zero => cases h
  | succ n ih =>
      cases h with
      | rule hbody =>
          have hmode : (grammar r).mode = .silent ∨ (grammar r).mode = .tight := by
            cases r <;> first | exact .inl rfl | exact .inr rfl | cases hr
          have hinner : (innerSetting (grammar r).mode s).spacing ≠ .free := by
            rcases hmode with hmode | hmode <;> rw [hmode]
            · exact hs
            · exact (by decide : Spacing.tight ≠ .free)
          have hall : (grammar r).body.leaves.all staysOutside = true := by
            cases r <;> first | rfl | cases hr
          have hne : r ≠ .commentTag := by
            rintro rfl
            cases hr
          refine (passed_of_leaves hinner hbody fun l hl i j ts hmatch => ?_).rule hne
          have hout := List.all_eq_true.mp hall l hl
          cases l with
          | rule q =>
              rcases Bool.or_eq_true_iff.mp hout with hq | hq
              · exact passed_standsAlone hq hmatch
              · exact ih hinner hq hmatch
          | _ => cases hout

/-- In the tree of a text a comment begins where nothing before it is left open. -/
theorem plain_of_commentTag (h : Peg.parse grammar .template t = .ok tree) (hu : node ∈ tree.nodes)
    (hrule : node.rule = .commentTag) :
    Plain (t.take node.start) ∧ commentOpen <+: t.drop node.start := by
  obtain ⟨o, ho, hparse⟩ := exists_outcome (t := t) le_rfl
  obtain ⟨j, rfl⟩ := (hparse tree).mp h
  have hpassed : Passed ⟨t, 0⟩ j [tree] := by
    generalize hts : [tree] = ts at ho
    cases ho with
    | rule hbody =>
        refine Passed.rule (passed_of_leaves ?_ hbody fun l hl i j ts hmatch => ?_) (by decide)
        · exact (by decide : Spacing.tight ≠ .free)
        · have hleaves : l ∈ [Peg.start, .rule .commentTag, .rule .extendsTag, .rule .content,
              .rule .eoi] := hl
          simp only [List.mem_cons, List.not_mem_nil, or_false] at hleaves
          rcases hleaves with rfl | rfl | rfl | rfl | rfl
          · cases hmatch with
            | start => exact .refl _
          · exact passed_standsAlone rfl hmatch
          · exact passed_standsAlone rfl hmatch
          · exact passed_content (by decide : Spacing.tight ≠ .free) rfl hmatch
          · exact passed_eoi hmatch
  rw [← nodesIn_singleton] at hu
  obtain ⟨v, k, hv, hplace, hplain, hpre⟩ := hpassed.comments node hu hrule
  rw [← hplace, hv.of_start.1, hv.of_start.2.1]
  exact ⟨hplain, hpre⟩

def CommentAt (place : Nat) (t : Text) : Prop :=
  ∃ tree, Peg.parse grammar .template t = .ok tree ∧
    ∃ node ∈ tree.nodes, node.rule = .commentTag ∧ node.start = place

instance (place : Nat) (t : Text) : Decidable (CommentAt place t) :=
  match h : Peg.parse grammar .template t with
  | .error _ => isFalse fun ⟨_, htree, _⟩ => by cases h.symm.trans htree
  | .ok tree => decidable_of_iff (∃ node ∈ tree.nodes, node.rule = .commentTag ∧ node.start = place)
    (by simp [CommentAt, h])

variable {m m' : Text}

theorem plain_of_commentAt (h : CommentAt b.length (b ++ t)) : Plain b := by
  obtain ⟨tree, htree, node, hnode, hrule, hstart⟩ := h
  obtain ⟨hplain, -⟩ := plain_of_commentTag htree hnode hrule
  rwa [hstart, List.take_left] at hplain

/-- The text of a comment does not matter for the template that a text makes, nor for whether it
makes one. -/
theorem toOption_parse_of_plain (hm : Inert m) (hm' : Inert m') (hb : Plain b) (a name : Text) :
    (parse name (b ++ commentThen m a)).toOption =
      (parse name (b ++ commentThen m' a)).toOption :=
  toOption_parse_of_similar hm hm' (.inr ⟨b, hb, rfl, rfl⟩) name

end Template

end TemplateTree
