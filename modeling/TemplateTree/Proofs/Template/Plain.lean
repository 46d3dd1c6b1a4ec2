import TemplateTree.Proofs.Template.Inside

/-!
# Text outside of tags

A template text consists of characters, comments, outputs, tags and raw texts.  Where such a
text ends, nothing that it opened is left open, so that a comment is taken for one there.
-/

namespace TemplateTree.Template

open Peg ParseTree Source

def outputOpen : Text := ['\x7b', '\x7b']

def outputClose : Text := ['\x7d', '\x7d']

def tagOpen : Text := ['\x7b', '%']

def commentOpen : Text := ['\x7b', '#']

def commentClose : Text := ['#', '\x7d']

/-- An output, a tag or a comment begins here. -/
def Opens (t : Text) : Prop :=
  outputOpen <+: t ∨ tagOpen <+: t ∨ commentOpen <+: t

/-- What a tag holds from its first word on. -/
def firstWord : Text → Text
  | '-' :: y => y.dropWhile isSpacing
  | y => y.dropWhile isSpacing

def rawWord : Text := ['r', 'a', 'w']

def endrawWord : Text := ['e', 'n', 'd', 'r', 'a', 'w']

/-- A tag that ends a raw text. -/
inductive Endraw : Text → Prop
  | mk {dash dash' blank blank' : Text} (hdash : dash = [] ∨ dash = ['-'])
      (hblank : blank.all isSpacing = true) (hblank' : blank'.all isSpacing = true)
      (hdash' : dash' = [] ∨ dash' = ['-']) :
      Endraw (tagOpen ++ (dash ++ (blank ++ (endrawWord ++ (blank' ++ (dash' ++ tagClose))))))

/-- A text that opens nothing without closing it, where a comment follows. -/
inductive Plain : Text → Prop
  | nil : Plain []
  | char {c : Char} {b : Text} (hc : ¬ Opens (c :: (b ++ commentOpen))) (h : Plain b) :
      Plain (c :: b)
  | comment {x b : Text} (hx : ¬ commentClose <:+: x) (h : Plain b) :
      Plain (commentOpen ++ (x ++ (commentClose ++ b)))
  | output {y b : Text} (hy : Quiet y) (h : Plain b) :
      Plain (outputOpen ++ (y ++ (outputClose ++ b)))
  | tag {y b : Text} (hy : Quiet y) (hword : ¬ rawWord <+: firstWord y) (h : Plain b) :
      Plain (tagOpen ++ (y ++ (tagClose ++ b)))
  | raw {y x last b : Text} (hy : Quiet y) (hword : rawWord <+: firstWord y)
      (hx : ∀ tag, Endraw tag → ¬ tag <:+: x) (hlast : Endraw last) (h : Plain b) :
      Plain (tagOpen ++ (y ++ (tagClose ++ (x ++ (last ++ b)))))

/-- Texts that are the same up to a place where nothing is open. -/
def Around (z z' t t' : Text) : Prop :=
  ∃ b, Plain b ∧ t = b ++ z ∧ t' = b ++ z'

variable {n : Nat} {r start stop : Rule} {e : Peg Rule} {es : List (Peg Rule)} {P : Spacing → Prop}
  {s : Setting} {i j : Input} {o : Result Rule} {ts : List Tree}
  {z z' t t' u v w x y b p q d close word tag last : Text} {c : Char}

/-! ## Beginnings -/

/-- What follows a comment's beginning does not matter for what begins before it. -/
theorem opens_of_opens (h : Opens (c :: (b ++ z))) (hz : commentOpen <+: z) :
    Opens (c :: (b ++ commentOpen)) := by
  have htwo : ∀ p : Text, p.length = 2 → p <+: c :: (b ++ z) → p <+: c :: (b ++ commentOpen) := by
    intro p hp hpre
    refine List.prefix_of_prefix_length_le hpre ?_ (by simp [hp, commentOpen])
    exact List.cons_prefix_cons.mpr ⟨rfl, (List.prefix_append_right_inj b).mpr hz⟩
  exact h.imp (htwo _ rfl) (.imp (htwo _ rfl) (htwo _ rfl))

theorem dropWhile_append_cons (hc : isSpacing c = false) :
    (y ++ c :: u).dropWhile isSpacing = y.dropWhile isSpacing ++ c :: u := by
  rw [List.dropWhile_append]
  split
  case isTrue hnil => simp [List.isEmpty_iff.mp hnil, hc]
  case isFalse => rfl

theorem firstWord_append (hc : isSpacing c = false) (hdash : c ≠ '-') :
    firstWord (y ++ c :: u) = firstWord y ++ c :: u := by
  rcases y with _ | ⟨d, y⟩
  · rw [List.nil_append, firstWord, List.dropWhile_cons_of_neg (by simp [hc])]
    · rfl
    · rintro y ⟨⟩
      exact hdash rfl
  · by_cases hd : d = '-'
    · subst hd
      exact dropWhile_append_cons hc
    · rw [firstWord, List.cons_append, firstWord]
      · exact dropWhile_append_cons (y := d :: y) hc
      all_goals
        rintro y ⟨⟩
        exact hd rfl

/-! ## Starts and ends -/

theorem comesTo_start (hr : grammar r = ⟨.normal, .alt (.text (p ++ ['-'])) (.text p)⟩)
    (h : ComesTo grammar n (.rule r) s i (some (j, ts))) :
    Reads i (p ++ ['-']) j ∨ Reads i p j ∧ ¬ p ++ ['-'] <+: i.rest := by
  cases h with
  | rule hbody =>
      rw [hr] at hbody
      cases hbody with
      | left hdash =>
          cases hdash with
          | text hread => exact .inl hread
      | right hdash hplain =>
          cases hplain with
          | text hread =>
              cases hdash with
              | noText hnot => exact .inr ⟨hread, hnot⟩

theorem fails_start (hr : grammar r = ⟨.normal, .alt (.text (p ++ ['-'])) (.text p)⟩)
    (h : ¬ p <+: i.rest) : Fails grammar n (.rule r) s i := by
  refine .rule fun n => ?_
  rw [hr]
  exact .alt (fails_text fun hdash => h ((List.prefix_append p _).trans hdash)) (fails_text h)

/-- Texts that begin with the same quiet text between marks. -/
def Delimited (p close z z' t t' : Text) : Prop :=
  ∃ y, Quiet y ∧ t = p ++ (y ++ (close ++ z)) ∧ t' = p ++ (y ++ (close ++ z'))

theorem Delimited.shared (h : Delimited p close z z' t t') : Shared z z' t t' := by
  obtain ⟨y, -, rfl, rfl⟩ := h
  exact ⟨p ++ (y ++ close), by simp, by simp⟩

theorem tracks_start (hr : grammar r = ⟨.normal, .alt (.text (p ++ ['-'])) (.text p)⟩)
    (hq : ∀ c ∈ q, Still c) (hdash : (q ++ ['\x7d']).head? ≠ some '-') :
    Tracks grammar n unplaced P (Delimited p (q ++ '\x7d' :: d) z z')
      (Within (d ++ z) (d ++ z')) (.rule r) := by
  cases n with
  | zero =>
      intro s i i' o o' _ _ h
      cases h
  | succ n =>
      refine .rule (Q := Spaced) (fun _ _ => trivial)
        (fun _ => seenAlike_of_shared Delimited.shared fun h => h.shared.append) ?_
      rw [hr]
      refine .alt (tracks_text ?_) (tracks_text ?_)
      · rintro _ _ ⟨y, hy, rfl, rfl⟩
        by_cases hhead : ∃ v, y = '-' :: v
        · obtain ⟨v, rfl⟩ := hhead
          refine .inr ⟨v ++ (q ++ '\x7d' :: (d ++ z)), v ++ (q ++ '\x7d' :: (d ++ z')),
            by simp, by simp, v ++ q, ?_, by simp, by simp⟩
          exact (hy.of_cons (by decide)).append (quiet_of_still hq)
        · have hout : ∀ u, ¬ p ++ ['-'] <+: p ++ (y ++ (q ++ '\x7d' :: d ++ u)) := by
            rintro u hpre
            rw [List.prefix_append_right_inj] at hpre
            obtain ⟨v, hv⟩ := hpre
            cases y with
            | nil =>
                refine hdash ?_
                cases q with
                | nil => cases hv
                | cons c q => rw [(List.cons.inj hv).1]; rfl
            | cons c y => exact hhead ⟨y, by rw [(List.cons.inj hv).1]⟩
          exact .inl ⟨hout z, hout z'⟩
      · rintro _ _ ⟨y, hy, rfl, rfl⟩
        refine .inr ⟨_, _, rfl, rfl, y ++ q, hy.append (quiet_of_still hq), ?_, ?_⟩ <;> simp

theorem tracks_stop (hr : grammar r = ⟨.normal, .alt (.text ('-' :: (q ++ '\x7d' :: d)))
      (.text (q ++ '\x7d' :: d))⟩) (hq : ∀ c ∈ q, Still c) :
    Tracks grammar n unplaced P (Within (d ++ z) (d ++ z')) (At z z') (.rule r) := by
  cases n with
  | zero =>
      intro s i i' o o' _ _ h
      cases h
  | succ n =>
      refine .rule (Q := Spaced) (fun _ _ => trivial)
        (fun _ => seenAlike_of_shared (fun h => h.shared.append) At.shared) ?_
      rw [hr]
      have hdash : ∀ c ∈ '-' :: q, Still c := List.forall_mem_cons.mpr ⟨by decide, hq⟩
      exact .alt (tracks_close hdash d) (tracks_close hq d)

/-! ## Tags -/

theorem tracks_seqs {S : Text → Text → Prop}
    (hes : ∀ e ∈ es, Tracks grammar n unplaced Spaced (Within z z') (Within z z') e)
    (hlast : Tracks grammar n unplaced Spaced (Within z z') S e) :
    Tracks grammar n unplaced Spaced (Within z z') S (Peg.seqs (es ++ [e])) := by
  induction es with
  | nil => exact hlast
  | cons a es ih =>
      rw [List.cons_append, seqs_concat_cons]
      exact .seq passes_within (hes a List.mem_cons_self)
        (ih fun b hb => hes b (List.mem_cons_of_mem a hb))

/-- A tag is read alike whatever follows it. -/
theorem tracks_delimited
    (hr : grammar r = ⟨.free, Peg.seqs (.rule start :: (es ++ [.rule stop]))⟩)
    (hstart : grammar start = ⟨.normal, .alt (.text (p ++ ['-'])) (.text p)⟩)
    (hstop : grammar stop = ⟨.normal, .alt (.text ('-' :: (q ++ '\x7d' :: d)))
      (.text (q ++ '\x7d' :: d))⟩)
    (hes : ∀ e ∈ es, e.leaves.all staysInside = true) (hq : ∀ c ∈ q, Still c)
    (hdash : (q ++ ['\x7d']).head? ≠ some '-') :
    Tracks grammar n unplaced P (Delimited p (q ++ '\x7d' :: d) z z') (At z z') (.rule r) := by
  cases n with
  | zero =>
      intro s i i' o o' _ _ h
      cases h
  | succ n =>
      refine .rule (Q := Spaced) (fun _ _ => trivial)
        (fun _ => seenAlike_of_shared Delimited.shared At.shared) ?_
      rw [hr]
      dsimp only
      rw [seqs_concat_cons]
      exact .seq passes_within (tracks_start hstart hq hdash)
        (tracks_seqs (fun e he => tracks_of_staysInside (hes e he)) (tracks_stop hstop hq))

theorem fails_delimited
    (hr : grammar r = ⟨.free, Peg.seqs (.rule start :: (es ++ [.rule stop]))⟩)
    (hstart : grammar start = ⟨.normal, .alt (.text (p ++ ['-'])) (.text p)⟩)
    (h : ¬ p <+: i.rest) : Fails grammar n (.rule r) s i := by
  refine .rule fun n => ?_
  rw [hr]
  dsimp only
  rw [seqs_concat_cons]
  exact .seq (fails_start hstart h)

/-- After the beginning of a tag stands its first word. -/
theorem comesTo_tagStart (h : ComesTo grammar n (.rule .tagStart) s i (some (j, ts))) :
    ∃ u, i.rest = tagOpen ++ u ∧ j.rest.dropWhile isSpacing = firstWord u := by
  rcases comesTo_start (p := tagOpen) rfl h with hread | ⟨hread, hnot⟩
  · exact ⟨'-' :: j.rest, by rw [hread.rest, List.append_assoc]; rfl, rfl⟩
  · refine ⟨j.rest, hread.rest, ?_⟩
    cases hrest : j.rest with
    | nil => rfl
    | cons c u =>
        rw [firstWord]
        rintro v ⟨⟩
        refine hnot ⟨u, ?_⟩
        rw [hread.rest, hrest, List.append_assoc]
        rfl

theorem fails_wordTag {word : String} (hr : grammar r = ⟨.free, Rule.wordTag word es⟩)
    (h : ∀ u, i.rest = tagOpen ++ u → ¬ word.toList <+: firstWord u) :
    Fails grammar n (.rule r) s i := by
  refine .rule fun n => ?_
  have heq : Rule.wordTag word es = .seq (.rule .tagStart)
      (.seq (.text word.toList) (Peg.seqs (es ++ [.rule .tagEnd]))) := by cases es <;> rfl
  rw [hr]
  dsimp only
  rw [heq]
  intro o ho
  rcases comesTo_seq ho with ⟨-, rfl⟩ | ⟨j, ts, o', hfirst, hsecond, rfl⟩
  · rfl
  · obtain ⟨u, hu, hword⟩ := comesTo_tagStart hfirst
    have hnot : ¬ word.toList <+: (passSpace .free j).rest := by
      rw [rest_passSpace, if_pos rfl, hword]
      exact h u hu
    rw [Fails.seq (fails_text hnot) hsecond]
    rfl

/-- A tag of words is read alike whatever follows it. -/
theorem tracks_of_wordTag {word : String} (hr : grammar r = ⟨.free, Rule.wordTag word es⟩)
    (hes : ∀ e ∈ Rule.lit word :: es, e.leaves.all staysInside = true) :
    Tracks grammar n unplaced P (Delimited tagOpen tagClose z z') (At z z') (.rule r) :=
  have hbody : grammar r = ⟨.free, Peg.seqs (.rule .tagStart :: (Rule.lit word :: es ++
      [.rule .tagEnd]))⟩ := hr
  tracks_delimited (q := ['%']) (d := []) hbody rfl rfl hes (still_of_all rfl) (by decide)

end TemplateTree.Template
