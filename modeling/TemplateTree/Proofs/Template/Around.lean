import TemplateTree.Proofs.Template.Plain

/-!
# Around a comment

Texts that differ only from a comment on are read alike before it: the characters of the text,
outputs, tags, earlier comments and raw texts are the same on both sides, and nothing else
matches where one of them begins.
-/

namespace TemplateTree.Template

open Peg ParseTree Source

variable {n : Nat} {r : Rule} {a : Peg Rule} {P : Spacing → Prop} {s : Setting} {i j : Input}
  {o : Result Rule} {ts : List Tree} {m m' z z' t t' u v x y b last : Text} {c : Char}
  {β : Type} {f : Tree → β} {S S' : Text → Text → Prop}

/-! ## Up to a mark -/

def Stops (n : Nat) (a : Peg Rule) (t : Text) : Prop :=
  ∀ ⦃s i⦄, i.rest = t → ¬ ComesTo grammar n a s i none

def Misses (n : Nat) (a : Peg Rule) (t : Text) : Prop :=
  ∀ ⦃s i⦄, i.rest = t → Fails grammar n a s i

theorem tracks_upTo (h : ∀ t t', S t t' → Stops n a t ∧ Stops n a t' ∨
    (Misses n a t ∧ Misses n a t') ∧ ∃ c u u', t = c :: u ∧ t' = c :: u' ∧ S u u') :
    Tracks grammar n f Unspaced S S (.upTo a) := by
  intro s i i' o o' hs hS ho ho'
  rcases h _ _ hS with ⟨hstop, hstop'⟩ | ⟨⟨hmiss, hmiss'⟩, c, u, u', hu, hu', hrest⟩
  · have hfail : ∀ {i : Input} {o}, Stops n a i.rest →
        ComesTo grammar n (.upTo a) s i o → o = none := by
      rintro i (_ | ⟨j, ts⟩) hstop ho
      · rfl
      · exact absurd (ho.of_upTo hs).1 (hstop rfl)
    rw [hfail hstop ho, hfail hstop' ho']
    exact .failed
  · have htake : ∀ {i : Input} {o u}, Misses n a i.rest → i.rest = c :: u →
        ComesTo grammar n (.upTo a) s i o → ∃ j, o = some (j, []) ∧ j.rest = u := by
      rintro i (_ | ⟨j, ts⟩) u hmiss hu ho
      · rcases ho.of_not_upTo hs with ⟨p, hp⟩ | hnil
        · cases hmiss rfl hp
        · simp [hu] at hnil
      · obtain ⟨-, ⟨d, hread⟩, rfl⟩ := ho.of_upTo hs
        exact ⟨j, rfl, (List.cons.inj (hread.rest.symm.trans hu)).2⟩
    obtain ⟨j, rfl, hj⟩ := htake hmiss hu ho
    obtain ⟨j', rfl, hj'⟩ := htake hmiss' hu' ho'
    exact .matched (by rwa [hj, hj']) rfl

theorem stops_marks {p q : Text} (hr : grammar r = ⟨.normal, .alt (.text p) (.text q)⟩)
    (h : p <+: t ∨ q <+: t) : Stops n (.rule r) t := by
  rintro s i rfl hnone
  cases hnone with
  | noRule hbody =>
      rw [hr] at hbody
      cases hbody with
      | right hfirst hsecond =>
          cases hfirst with
          | noText hp =>
              cases hsecond with
              | noText hq => exact h.elim hp hq

theorem misses_marks {p q : Text} (hr : grammar r = ⟨.normal, .alt (.text p) (.text q)⟩)
    (hp : ¬ p <+: t) (hq : ¬ q <+: t) : Misses n (.rule r) t := by
  rintro s i rfl
  refine .rule fun n => ?_
  rw [hr]
  exact .alt (fails_text hp) (fails_text hq)

/-! ## Texts -/

theorem stops_blockStart (h : Opens t) : Stops n (.rule .blockStart) t := by
  rintro s i rfl hnone
  cases hnone with
  | noRule hbody =>
      cases hbody with
      | right houtput hrest =>
          cases hrest with
          | right htag hcomment =>
              rcases h with h | h | h
              · exact stops_marks rfl (.inr h) rfl houtput
              · exact stops_marks rfl (.inr h) rfl htag
              · exact stops_marks rfl (.inr h) rfl hcomment

theorem misses_blockStart (h : ¬ Opens t) : Misses n (.rule .blockStart) t := by
  rintro s i rfl
  refine .rule fun n => .alt (fails_start rfl fun hpre => h (.inl hpre)) (.alt ?_ ?_)
  · exact fails_start rfl fun hpre => h (.inr (.inl hpre))
  · exact fails_start rfl fun hpre => h (.inr (.inr hpre))

/-- A plain text begins with a character of text, or it opens something. -/
theorem Plain.cases_opens (h : Plain b) :
    (∃ c v, b = c :: v ∧ Plain v ∧ ∀ z, commentOpen <+: z → ¬ Opens (b ++ z)) ∨
      ∀ z, commentOpen <+: z → Opens (b ++ z) := by
  cases h with
  | nil => exact .inr fun z hz => .inr (.inr hz)
  | @char c b hc h => exact .inl ⟨c, b, rfl, h, fun z hz hopen => hc (opens_of_opens hopen hz)⟩
  | comment => exact .inr fun z _ => .inr (.inr ⟨_, by rw [List.append_assoc]⟩)
  | output => exact .inr fun z _ => .inl ⟨_, by rw [List.append_assoc]⟩
  | tag => exact .inr fun z _ => .inr (.inl ⟨_, by rw [List.append_assoc]⟩)
  | raw => exact .inr fun z _ => .inr (.inl ⟨_, by rw [List.append_assoc]⟩)

/-- Of two marks of one length a text begins with one at most. -/
theorem not_prefix_of_prefix {p q w : Text} (hp : p <+: w) (hlength : p.length = q.length)
    (hne : p ≠ q) : ¬ q <+: w := fun hq =>
  hne ((List.prefix_of_prefix_length_le hp hq hlength.le).eq_of_length hlength)

theorem not_prefix_append {p q u z : Text} (hlength : p.length = q.length) (hne : p ≠ q) :
    ¬ q <+: p ++ u ++ z :=
  not_prefix_of_prefix ⟨u ++ z, (List.append_assoc p u z).symm⟩ hlength hne

/-- A plain text begins with a tag that does not begin a raw text, with one that does, or with
none. -/
theorem Plain.cases_tag (h : Plain b) :
    (∃ y v, Quiet y ∧ Plain v ∧ b = tagOpen ++ (y ++ (tagClose ++ v)) ∧ ¬ rawWord <+: firstWord y) ∨
      (∃ y x last v, Quiet y ∧ (∀ tag, Endraw tag → ¬ tag <:+: x) ∧ Endraw last ∧ Plain v ∧
        b = tagOpen ++ (y ++ (tagClose ++ (x ++ (last ++ v)))) ∧ rawWord <+: firstWord y) ∨
      ∀ z, commentOpen <+: z → ¬ tagOpen <+: b ++ z := by
  cases h with
  | nil => exact .inr (.inr fun z hz => not_prefix_of_prefix hz rfl (by decide))
  | char hc _ => exact .inr (.inr fun z hz htag => hc (opens_of_opens (.inr (.inl htag)) hz))
  | comment => exact .inr (.inr fun z _ => not_prefix_append rfl (by decide))
  | output => exact .inr (.inr fun z _ => not_prefix_append rfl (by decide))
  | tag hy hword h => exact .inl ⟨_, _, hy, h, rfl, hword⟩
  | raw hy hword hx hlast h => exact .inr (.inl ⟨_, _, _, _, hy, hx, hlast, h, rfl, hword⟩)

theorem Plain.cases_output (h : Plain b) :
    (∃ y v, Quiet y ∧ Plain v ∧ b = outputOpen ++ (y ++ (outputClose ++ v))) ∨
      ∀ z, commentOpen <+: z → ¬ outputOpen <+: b ++ z := by
  cases h with
  | nil => exact .inr fun z hz => not_prefix_of_prefix hz rfl (by decide)
  | char hc _ => exact .inr fun z hz houtput => hc (opens_of_opens (.inl houtput) hz)
  | comment => exact .inr fun z _ => not_prefix_append rfl (by decide)
  | output hy h => exact .inl ⟨_, _, hy, h, rfl⟩
  | tag | raw => exact .inr fun z _ => not_prefix_append rfl (by decide)

theorem Plain.cases_comment (h : Plain b) : b = [] ∨
    (∃ x v, ¬ commentClose <:+: x ∧ Plain v ∧ b = commentOpen ++ (x ++ (commentClose ++ v))) ∨
      ∀ z, commentOpen <+: z → ¬ commentOpen <+: b ++ z := by
  cases h with
  | nil => exact .inl rfl
  | char hc _ =>
      exact .inr (.inr fun z hz hcomment => hc (opens_of_opens (.inr (.inr hcomment)) hz))
  | comment hx h => exact .inr (.inl ⟨_, _, hx, h, rfl⟩)
  | output => exact .inr (.inr fun z _ => not_prefix_append rfl (by decide))
  | tag | raw => exact .inr (.inr fun z _ => not_prefix_append rfl (by decide))

theorem Around.shared (h : Around z z' t t') : Shared z z' t t' := by
  obtain ⟨b, -, rfl, rfl⟩ := h
  exact ⟨b, rfl, rfl⟩

section

variable (hz : commentOpen <+: z) (hz' : commentOpen <+: z')
include hz hz'

theorem tracks_text_around :
    Tracks grammar n unplaced P (Around z z') (Around z z') (.rule .text) := by
  cases n with
  | zero =>
      intro s i i' o o' _ _ h
      cases h
  | succ n =>
      refine .rule (Q := Unspaced) (fun s _ => ?_)
        (fun _ => seenAlike_of_shared Around.shared Around.shared) ?_
      · exact (by decide : Spacing.tight ≠ .free)
      · have hupTo : Tracks grammar n unplaced Unspaced (Around z z') (Around z z')
            (.upTo (.rule .blockStart)) := by
          refine tracks_upTo ?_
          rintro _ _ ⟨b, hb, rfl, rfl⟩
          rcases hb.cases_opens with ⟨c, v, rfl, hv, hout⟩ | hopens
          · exact .inr ⟨⟨misses_blockStart (hout z hz), misses_blockStart (hout z' hz')⟩,
              c, _, _, rfl, rfl, v, hv, rfl, rfl⟩
          · exact .inl ⟨stops_blockStart (hopens z hz), stops_blockStart (hopens z' hz')⟩
        exact .seq passes_unspaced hupTo (.star passes_unspaced hupTo)

/-! ## Outputs and tags -/

/-- The tags of words, but for those around raw texts. -/
def wordTags : List Rule :=
  [.includeTag, .importTag, .extendsTag, .setTag, .setGlobalTag, .blockTag, .macroTag, .ifTag,
    .elifTag, .elseTag, .forTag, .filterTag, .breakTag, .continueTag, .endblockTag, .endmacroTag,
    .endifTag, .endforTag, .endfilterTag]

omit hz hz' in
theorem exists_word (hr : r ∈ wordTags) : ∃ word es, grammar r = ⟨.free, Rule.wordTag word es⟩ ∧
    (∀ e ∈ Rule.lit word :: es, e.leaves.all staysInside = true) ∧
      word.toList.head?.any (· ≠ 'r') = true := by
  simp only [wordTags, List.mem_cons, List.not_mem_nil, or_false] at hr
  rcases hr with rfl | rfl | rfl | rfl | rfl | rfl | rfl | rfl | rfl | rfl | rfl | rfl | rfl | rfl |
    rfl | rfl | rfl | rfl | rfl <;> exact ⟨_, _, rfl, by decide, by decide⟩

theorem tracks_wordTag_around (hr : r ∈ wordTags) :
    Tracks grammar n unplaced P (Around z z') (Around z z') (.rule r) := by
  obtain ⟨word, es, hbody, hes, hword⟩ := exists_word hr
  rintro s i i' o o' hs ⟨b, hb, hi, hi'⟩ ho ho'
  rcases hb.cases_tag with ⟨y, v, hy, hv, rfl, -⟩ | ⟨y, x, last, v, -, -, -, -, rfl, hraw⟩ | hout
  · have hclosed : ∀ z, tagOpen ++ (y ++ (tagClose ++ v)) ++ z =
        tagOpen ++ (y ++ (tagClose ++ (v ++ z))) := fun z => by simp
    refine (tracks_of_wordTag hbody hes hs ⟨y, hy, hi.trans (hclosed z), hi'.trans (hclosed z')⟩
      ho ho').mono ?_
    rintro _ _ ⟨rfl, rfl⟩
    exact ⟨v, hv, rfl, rfl⟩
  · have hfails : ∀ {i : Input} {z},
        i.rest = tagOpen ++ (y ++ (tagClose ++ (x ++ (last ++ v)))) ++ z →
        Fails grammar n (.rule r) s i := by
      refine fun {i z} hi => fails_wordTag hbody fun u hu hpre => ?_
      have hrest : u = y ++ '%' :: ('\x7d' :: (x ++ (last ++ v) ++ z)) := by
        have hsame := hu.symm.trans hi
        simpa [tagOpen, tagClose] using hsame
      rw [hrest, firstWord_append (by decide) (by decide)] at hpre
      obtain ⟨w, hw⟩ := hraw
      rw [← hw] at hpre
      cases hword' : word.toList with
      | nil => simp [hword'] at hword
      | cons c w' =>
          rw [hword'] at hpre hword
          obtain ⟨rfl, -⟩ := List.cons_prefix_cons.mp hpre
          simp at hword
    exact (hfails hi).alike (hfails hi') ho ho'
  · have hfails : ∀ {i : Input} {z}, commentOpen <+: z → i.rest = b ++ z →
        Fails grammar n (.rule r) s i :=
      fun hz hi => fails_wordTag hbody fun u hu => absurd ⟨u, (hi.symm.trans hu).symm⟩ (hout _ hz)
    exact (hfails hz hi).alike (hfails hz' hi') ho ho'

theorem tracks_output_around {e : Peg Rule}
    (hr : grammar r = ⟨.free, Peg.seqs [.rule .variableStart, e, .rule .variableEnd]⟩)
    (he : e.leaves.all staysInside = true) :
    Tracks grammar n unplaced P (Around z z') (Around z z') (.rule r) := by
  have hbody : grammar r =
      ⟨.free, Peg.seqs (.rule .variableStart :: ([e] ++ [.rule .variableEnd]))⟩ := hr
  rintro s i i' o o' hs ⟨b, hb, hi, hi'⟩ ho ho'
  rcases hb.cases_output with ⟨y, v, hy, hv, rfl⟩ | hout
  · have hclosed : ∀ z, outputOpen ++ (y ++ (outputClose ++ v)) ++ z =
        outputOpen ++ (y ++ (outputClose ++ (v ++ z))) := fun z => by simp
    have htracks : Tracks grammar n unplaced P (Delimited outputOpen outputClose (v ++ z) (v ++ z'))
        (At (v ++ z) (v ++ z')) (.rule r) :=
      tracks_delimited (q := []) (d := ['\x7d']) hbody rfl rfl
        (fun e' he' => by rwa [List.mem_singleton.mp he']) (still_of_all rfl) (by decide)
    refine (htracks hs ⟨y, hy, hi.trans (hclosed z), hi'.trans (hclosed z')⟩ ho ho').mono ?_
    rintro _ _ ⟨rfl, rfl⟩
    exact ⟨v, hv, rfl, rfl⟩
  · have hfails : ∀ {i : Input} {z}, commentOpen <+: z → i.rest = b ++ z →
        Fails grammar n (.rule r) s i :=
      fun hz hi => fails_delimited hbody rfl fun hpre => hout _ hz (hi ▸ hpre)
    exact (hfails hz hi).alike (hfails hz' hi') ho ho'

end

/-! ## Comments -/

theorem firstAfter_commentClose (h : ¬ commentClose <:+: t) : Text.FirstAfter t commentClose :=
  Source.firstAfter_pair (by decide) h

/-- Texts that begin with the same inside of a comment and its end. -/
def InComment (z z' t t' : Text) : Prop :=
  ∃ x, ¬ commentClose <:+: x ∧ t = x ++ (commentClose ++ z) ∧ t' = x ++ (commentClose ++ z')

/-- Texts that begin with the same comment. -/
def Commented (z z' t t' : Text) : Prop :=
  ∃ x, ¬ commentClose <:+: x ∧ t = commentOpen ++ (x ++ (commentClose ++ z)) ∧
    t' = commentOpen ++ (x ++ (commentClose ++ z'))

theorem InComment.shared (h : InComment z z' t t') : Shared z z' t t' := by
  obtain ⟨x, -, rfl, rfl⟩ := h
  exact ⟨x ++ commentClose, by simp, by simp⟩

theorem Commented.shared (h : Commented z z' t t') : Shared z z' t t' := by
  obtain ⟨x, -, rfl, rfl⟩ := h
  exact ⟨commentOpen ++ (x ++ commentClose), by simp, by simp⟩

theorem tracks_commentStart :
    Tracks grammar n unplaced P (Commented z z') (InComment z z') (.rule .commentStart) := by
  cases n with
  | zero =>
      intro s i i' o o' _ _ h
      cases h
  | succ n =>
      refine .rule (Q := Spaced) (fun _ _ => trivial)
        (fun _ => seenAlike_of_shared Commented.shared InComment.shared)
        (.alt (tracks_text ?_) (tracks_text ?_))
      · rintro _ _ ⟨x, hx, rfl, rfl⟩
        by_cases hhead : ∃ v, x = '-' :: v
        · obtain ⟨v, rfl⟩ := hhead
          refine .inr ⟨_, _, rfl, rfl, v, fun hin => hx (hin.trans ?_), rfl, rfl⟩
          exact (List.suffix_cons _ _).isInfix
        · have hout : ∀ u,
              ¬ commentOpen ++ ['-'] <+: commentOpen ++ (x ++ (commentClose ++ u)) := by
            intro u hpre
            rw [List.prefix_append_right_inj] at hpre
            obtain ⟨v, hv⟩ := hpre
            cases x with
            | nil => cases hv
            | cons c x => exact hhead ⟨x, by rw [(List.cons.inj hv).1]⟩
          exact .inl ⟨hout z, hout z'⟩
      · rintro _ _ ⟨x, hx, rfl, rfl⟩
        exact .inr ⟨_, _, rfl, rfl, x, hx, rfl, rfl⟩

/-- The end of a comment matches at the end of the inside, before or after a dash. -/
theorem cases_inComment (hx : ¬ commentClose <:+: x) : x = [] ∨ x = ['-'] ∨
    ∃ c v, x = c :: v ∧ ¬ commentClose <:+: v ∧
      ∀ z, ¬ '-' :: commentClose <+: x ++ (commentClose ++ z) ∧
        ¬ commentClose <+: x ++ (commentClose ++ z) := by
  cases x with
  | nil => exact .inl rfl
  | cons c v =>
      have hv : ¬ commentClose <:+: v := fun h => hx (h.trans (List.suffix_cons _ _).isInfix)
      by_cases hdash : c = '-' ∧ v = []
      · obtain ⟨rfl, rfl⟩ := hdash
        exact .inr (.inl rfl)
      · refine .inr (.inr ⟨c, v, rfl, hv, fun z => ⟨fun hpre => hdash ?_, ?_⟩⟩)
        · obtain ⟨rfl, hpre⟩ := List.cons_prefix_cons.mp hpre
          refine ⟨rfl, ?_⟩
          cases v with
          | nil => rfl
          | cons d v =>
              refine absurd hpre ?_
              simpa using Text.FirstAfter.not_prefix (b := z) (firstAfter_commentClose hv)
        · simpa using Text.FirstAfter.not_prefix (b := z) (firstAfter_commentClose hx)

theorem tracks_commentEnd :
    Tracks grammar n unplaced P (InComment z z') (At z z') (.rule .commentEnd) := by
  cases n with
  | zero =>
      intro s i i' o o' _ _ h
      cases h
  | succ n =>
      refine .rule (Q := Spaced) (fun _ _ => trivial)
        (fun _ => seenAlike_of_shared InComment.shared At.shared)
        (.alt (tracks_text ?_) (tracks_text ?_))
      · rintro _ _ ⟨x, hx, rfl, rfl⟩
        rcases cases_inComment hx with rfl | rfl | ⟨c, v, rfl, -, hout⟩
        · exact .inl (by simp [commentClose])
        · exact .inr ⟨z, z', rfl, rfl, rfl, rfl⟩
        · exact .inl ⟨(hout z).1, (hout z').1⟩
      · rintro _ _ ⟨x, hx, rfl, rfl⟩
        rcases cases_inComment hx with rfl | rfl | ⟨c, v, rfl, -, hout⟩
        · exact .inr ⟨z, z', rfl, rfl, rfl, rfl⟩
        · exact .inl (by simp [commentClose])
        · exact .inl ⟨(hout z).2, (hout z').2⟩

theorem tracks_upTo_commentEnd : Tracks grammar n unplaced Unspaced (InComment z z')
    (InComment z z') (.upTo (.rule .commentEnd)) := by
  refine tracks_upTo ?_
  rintro _ _ ⟨x, hx, rfl, rfl⟩
  rcases cases_inComment hx with rfl | rfl | ⟨c, v, rfl, hv, hout⟩
  · exact .inl ⟨stops_marks rfl (.inr (List.prefix_append _ z)),
      stops_marks rfl (.inr (List.prefix_append _ z'))⟩
  · exact .inl ⟨stops_marks rfl (.inl (List.prefix_append _ z)),
      stops_marks rfl (.inl (List.prefix_append _ z'))⟩
  · exact .inr ⟨⟨misses_marks rfl (hout z).1 (hout z).2, misses_marks rfl (hout z').1 (hout z').2⟩,
      c, _, _, rfl, rfl, v, hv, rfl, rfl⟩

/-- The same comment is read alike whatever follows it. -/
theorem tracks_comment :
    Tracks grammar n unplaced P (Commented z z') (At z z') (.rule .commentTag) := by
  cases n with
  | zero =>
      intro s i i' o o' _ _ h
      cases h
  | succ n =>
      refine .rule (Q := Unspaced) (fun s _ => ?_)
        (fun _ => seenAlike_of_shared Commented.shared At.shared) ?_
      · exact (by decide : Spacing.tight ≠ .free)
      · exact .seq passes_unspaced tracks_commentStart (.seq passes_unspaced
          (.star passes_unspaced tracks_upTo_commentEnd) tracks_commentEnd)

/-! ## Raw texts -/

/-- Texts that begin with the same raw text up to its end. -/
def InRaw (last z z' t t' : Text) : Prop :=
  ∃ x, (∀ tag, Endraw tag → ¬ tag <:+: x) ∧ t = x ++ (last ++ z) ∧ t' = x ++ (last ++ z')

theorem InRaw.shared (h : InRaw last z z' t t') : Shared z z' t t' := by
  obtain ⟨x, -, rfl, rfl⟩ := h
  exact ⟨x ++ last, by simp, by simp⟩

theorem dropWhile_blank {blank : Text} (hblank : blank.all isSpacing = true)
    (hc : isSpacing c = false) : (blank ++ c :: u).dropWhile isSpacing = c :: u := by
  rw [List.dropWhile_append_of_pos (List.all_eq_true.mp hblank),
    List.dropWhile_cons_of_neg (by simp [hc])]

theorem Endraw.exists_quiet (h : Endraw last) :
    ∃ y, Quiet y ∧ last = tagOpen ++ (y ++ tagClose) := by
  cases h with
  | @mk dash dash' blank blank' hdash hblank hblank' hdash' =>
      refine ⟨dash ++ (blank ++ (endrawWord ++ (blank' ++ dash'))), ?_, by simp⟩
      have hword : Quiet endrawWord := quiet_of_still (still_of_all rfl)
      exact (quiet_of_dash hdash).append ((quiet_of_isSpacing hblank).append
        (hword.append ((quiet_of_isSpacing hblank').append (quiet_of_dash hdash'))))

/-- A match that cannot but leave a text. -/
def Leaves (n : Nat) (a : Peg Rule) (s : Setting) (t u : Text) : Prop :=
  ∀ ⦃i o⦄, i.rest = t → ComesTo grammar n a s i o → ∃ j ts, o = some (j, ts) ∧ j.rest = u

theorem Leaves.stops (h : ∀ s, Leaves n a s t u) : Stops n a t := by
  intro s i hi hnone
  obtain ⟨j, ts, hj, -⟩ := h s hi hnone
  cases hj

theorem leaves_text {p : Text} : Leaves n (.text p) s (p ++ u) u := by
  intro i o hi ho
  cases ho with
  | text hread => exact ⟨_, [], rfl, List.append_cancel_left (hread.rest.symm.trans hi)⟩
  | noText hnot => exact absurd ⟨u, hi.symm⟩ hnot

theorem Leaves.seq {a' : Peg Rule} (hs : s.spacing = .free) (ha : Leaves n a s t u)
    (hu : u.dropWhile isSpacing = t') (hb : Leaves n a' s t' v) : Leaves n (.seq a a') s t v := by
  intro i o hi ho
  rcases comesTo_seq ho with ⟨hnone, -⟩ | ⟨j, ts, o', hfirst, hsecond, rfl⟩
  · obtain ⟨j, ts, hj, -⟩ := ha hi hnone
    cases hj
  · obtain ⟨_, _, heq, hj⟩ := ha hi hfirst
    cases heq
    obtain ⟨k, ts', rfl, hk⟩ := hb (by rw [rest_passSpace, if_pos hs, hj, hu]) hsecond
    exact ⟨k, _, rfl, hk⟩

theorem Leaves.rule
    (h : ∀ n, Leaves n (grammar r).body (innerSetting (grammar r).mode s) t u) :
    Leaves n (.rule r) s t u := by
  intro i o hi ho
  cases ho with
  | rule hbody =>
      obtain ⟨_, _, heq, hj⟩ := h _ hi hbody
      cases heq
      exact ⟨_, _, rfl, hj⟩
  | noRule hbody =>
      obtain ⟨j, ts, hj, -⟩ := h _ hi hbody
      cases hj

theorem leaves_marks {p q : Text} (hr : grammar r = ⟨.normal, .alt (.text p) (.text q)⟩)
    (h : t = p ++ u ∨ t = q ++ u ∧ ¬ p <+: t) : Leaves n (.rule r) s t u := by
  refine .rule fun n => ?_
  rw [hr]
  intro i o hi ho
  rcases h with rfl | ⟨rfl, hnot⟩
  · cases ho with
    | left hfirst => exact leaves_text hi hfirst
    | right hfirst _ =>
        obtain ⟨j, ts, hj, -⟩ := leaves_text hi hfirst
        cases hj
  · cases ho with
    | left hfirst =>
        cases hfirst with
        | text hread => exact absurd ⟨_, hread.rest.symm⟩ (hi ▸ hnot)
    | right _ hsecond => exact leaves_text hi hsecond

/-- The tag that ends a raw text is read wherever it stands. -/
theorem stops_endrawTag (h : Endraw last) (u : Text) : Stops n (.rule .endrawTag) (last ++ u) := by
  cases h with
  | @mk dash dash' blank blank' hdash hblank hblank' hdash' =>
      refine Leaves.stops (u := u) fun s => .rule fun n => ?_
      have hapart : ∀ v : Text, ¬ ['-'] <+: blank ++ (endrawWord ++ v) := by
        rintro v ⟨w, hw⟩
        cases blank with
        | nil => cases hw
        | cons c blank =>
            obtain rfl : '-' = c := (List.cons.inj hw).1
            cases hblank
      obtain ⟨v, hv⟩ : ∃ v, v = blank' ++ (dash' ++ (tagClose ++ u)) := ⟨_, rfl⟩
      have hstart : ∀ s, Leaves n (.rule .tagStart) s (tagOpen ++ (dash ++ (blank ++
          (endrawWord ++ v)))) (blank ++ (endrawWord ++ v)) := by
        refine fun s => leaves_marks (p := tagOpen ++ ['-']) (q := tagOpen) rfl ?_
        rcases hdash with rfl | rfl
        · exact .inr ⟨rfl, fun hpre => hapart v ((List.prefix_append_right_inj tagOpen).mp hpre)⟩
        · exact .inl rfl
      have hword : (blank ++ (endrawWord ++ v)).dropWhile isSpacing = endrawWord ++ v :=
        dropWhile_blank hblank (by decide)
      have hafter : v.dropWhile isSpacing = dash' ++ (tagClose ++ u) := by
        rw [hv]
        rcases hdash' with rfl | rfl <;> exact dropWhile_blank hblank' (by decide)
      have hend : ∀ s, Leaves n (.rule .tagEnd) s (dash' ++ (tagClose ++ u)) u := by
        refine fun s => leaves_marks (p := '-' :: tagClose) (q := tagClose) rfl ?_
        rcases hdash' with rfl | rfl
        · exact .inr ⟨rfl, fun hpre => by cases (List.cons_prefix_cons.mp hpre).1⟩
        · exact .inl rfl
      have hall : tagOpen ++ (dash ++ (blank ++ (endrawWord ++ (blank' ++ (dash' ++ tagClose))))) ++
          u = tagOpen ++ (dash ++ (blank ++ (endrawWord ++ v))) := by simp [hv]
      rw [hall]
      exact .seq rfl (hstart _) hword (.seq rfl leaves_text hafter (hend _))

theorem reads_of_marks {p q : Text} (hr : grammar r = ⟨.normal, .alt (.text p) (.text q)⟩)
    (h : ComesTo grammar n (.rule r) s i (some (j, ts))) : Reads i p j ∨ Reads i q j := by
  cases h with
  | rule hbody =>
      rw [hr] at hbody
      cases hbody with
      | left hfirst =>
          cases hfirst with
          | text hread => exact .inl hread
      | right _ hsecond =>
          cases hsecond with
          | text hread => exact .inr hread

theorem exists_of_startMark {p : Text}
    (hr : grammar r = ⟨.normal, .alt (.text (p ++ ['-'])) (.text p)⟩)
    (h : ComesTo grammar n (.rule r) s i (some (j, ts))) :
    ∃ dash, (dash = [] ∨ dash = ['-']) ∧ Reads i (p ++ dash) j := by
  rcases reads_of_marks hr h with hread | hread
  · exact ⟨['-'], .inr rfl, hread⟩
  · exact ⟨[], .inl rfl, by rwa [List.append_nil]⟩

theorem exists_of_stopMark {p : Text}
    (hr : grammar r = ⟨.normal, .alt (.text ('-' :: p)) (.text p)⟩)
    (h : ComesTo grammar n (.rule r) s i (some (j, ts))) :
    ∃ dash, (dash = [] ∨ dash = ['-']) ∧ Reads i (dash ++ p) j := by
  rcases reads_of_marks hr h with hread | hread
  · exact ⟨['-'], .inr rfl, hread⟩
  · exact ⟨[], .inl rfl, hread⟩

theorem exists_of_endrawTag (h : ComesTo grammar n (.rule .endrawTag) s i (some (j, ts))) :
    ∃ tag, Endraw tag ∧ Reads i tag j := by
  cases h with
  | rule hbody =>
      cases hbody with
      | @seq _ _ _ _ _ k _ _ _ hstart hrest =>
          cases hrest with
          | @seq _ _ _ _ _ l _ _ _ hlit hend =>
              cases hlit with
              | text hword =>
                  obtain ⟨blank, hblank, hall⟩ := reads_passSpace .free k
                  obtain ⟨blank', hblank', hall'⟩ := reads_passSpace .free l
                  obtain ⟨dash, hdash, hopen⟩ := exists_of_startMark (p := tagOpen) rfl hstart
                  obtain ⟨dash', hdash', hclose⟩ := exists_of_stopMark (p := tagClose) rfl hend
                  refine ⟨_, .mk hdash hall hall' hdash', ?_⟩
                  have hread := (((hopen.trans hblank).trans hword).trans hblank').trans hclose
                  rw [show "endraw".toList = endrawWord from rfl] at hread
                  simpa only [List.append_assoc] using hread

/-- The tag that ends a raw text holds no other opening brace than its first one. -/
theorem Endraw.exists_tail (h : Endraw last) : ∃ w, last = '\x7b' :: w ∧ '\x7b' ∉ w := by
  cases h with
  | @mk dash dash' blank blank' hdash hblank hblank' hdash' =>
      refine ⟨_, rfl, ?_⟩
      have hdashes : ∀ {d : Text}, d = [] ∨ d = ['-'] → '\x7b' ∉ d := by
        rintro d (rfl | rfl) <;> decide
      have hblanks : ∀ {w : Text}, w.all isSpacing = true → '\x7b' ∉ w := fun hw hmem =>
        absurd (List.all_eq_true.mp hw _ hmem) (by decide)
      simp [hdashes hdash, hdashes hdash', hblanks hblank, hblanks hblank', endrawWord, tagClose]

theorem misses_endrawTag (hx : ∀ tag, Endraw tag → ¬ tag <:+: c :: x) (hlast : Endraw last) :
    Misses n (.rule .endrawTag) (c :: (x ++ (last ++ u))) := by
  rintro s i hi o ho
  rcases o with _ | ⟨j, ts⟩
  · rfl
  · obtain ⟨tag, htag, hread⟩ := exists_of_endrawTag ho
    refine absurd ?_ (hx tag htag)
    have hpre : tag <+: c :: x ++ (last ++ u) := ⟨j.rest, by rw [← hread.rest, hi]; rfl⟩
    -- the tag begins with the only brace in it, so that it ends before the last one begins
    obtain ⟨w, hw⟩ : ∃ w, last = '\x7b' :: w := by
      cases hlast
      exact ⟨_, rfl⟩
    obtain ⟨w', hw', hbrace⟩ := htag.exists_tail
    rw [hw, hw'] at hpre
    obtain ⟨rfl, hrest⟩ := List.cons_prefix_cons.mp hpre
    rw [hw']
    exact (List.cons_prefix_cons.mpr
      ⟨rfl, (Text.prefix_append_cons_iff hbrace).mp hrest⟩).isInfix

theorem tracks_endrawTag (hlast : Endraw last) :
    Tracks grammar n unplaced P (InRaw last z z') (At z z') (.rule .endrawTag) := by
  rintro s i i' o o' hs ⟨x, hx, hi, hi'⟩ ho ho'
  cases x with
  | nil =>
      obtain ⟨y, hy, rfl⟩ := hlast.exists_quiet
      have hin : Delimited tagOpen tagClose z z' i.rest i'.rest :=
        ⟨y, hy, by simpa using hi, by simpa using hi'⟩
      exact tracks_of_wordTag rfl (by decide) hs hin ho ho'
  | cons c x => exact (misses_endrawTag hx hlast hi).alike (misses_endrawTag hx hlast hi') ho ho'

theorem tracks_rawText (hlast : Endraw last) : Tracks grammar n unplaced P (InRaw last z z')
    (InRaw last z z') (.rule .rawText) := by
  cases n with
  | zero =>
      intro s i i' o o' _ _ h
      cases h
  | succ n =>
      refine .rule (Q := Unspaced) (fun s _ => ?_)
        (fun _ => seenAlike_of_shared InRaw.shared InRaw.shared) ?_
      · exact (by decide : Spacing.tight ≠ .free)
      · have hupTo : Tracks grammar n unplaced Unspaced (InRaw last z z') (InRaw last z z')
            (.upTo (.rule .endrawTag)) := by
          refine tracks_upTo ?_
          rintro _ _ ⟨x, hx, rfl, rfl⟩
          cases x with
          | nil => exact .inl ⟨stops_endrawTag hlast z, stops_endrawTag hlast z'⟩
          | cons c x =>
              refine .inr ⟨⟨misses_endrawTag hx hlast, misses_endrawTag hx hlast⟩,
                c, _, _, rfl, rfl, x, fun tag htag hin => hx tag htag (hin.trans ?_), rfl, rfl⟩
              exact (List.suffix_cons c x).isInfix
        exact .seq passes_unspaced hupTo (.star passes_unspaced hupTo)

/-- The same raw text is read alike whatever follows it. -/
theorem tracks_raw (hx : ∀ tag, Endraw tag → ¬ tag <:+: x) (hlast : Endraw last) :
    Tracks grammar n unplaced P
      (Delimited tagOpen tagClose (x ++ (last ++ z)) (x ++ (last ++ z'))) (At z z')
      (.rule .raw) := by
  cases n with
  | zero =>
      intro s i i' o o' _ _ h
      cases h
  | succ n =>
      refine .rule (Q := Unspaced) (fun s _ => ?_)
        (fun _ => seenAlike_of_shared (fun h => ?_) At.shared) ?_
      · exact (by decide : Spacing.tight ≠ .free)
      · exact h.shared.append.append
      · have hraw : Tracks grammar n unplaced Unspaced
            (Delimited tagOpen tagClose (x ++ (last ++ z)) (x ++ (last ++ z')))
            (InRaw last z z') (.rule .rawTag) := by
          refine (tracks_of_wordTag rfl (by decide)).mono ?_
          rintro _ _ ⟨rfl, rfl⟩
          exact ⟨x, hx, rfl, rfl⟩
        exact .seq passes_unspaced hraw (.seq passes_unspaced
          (.opt (fun _ _ h => h) (tracks_rawText hlast)) (tracks_endrawTag hlast))

theorem fails_raw (h : ∀ u, i.rest = tagOpen ++ u → ¬ rawWord <+: firstWord u) :
    Fails grammar n (.rule .raw) s i :=
  .rule fun _ => .seq (fails_wordTag rfl h)

theorem tracks_raw_around (hz : commentOpen <+: z) (hz' : commentOpen <+: z') :
    Tracks grammar n unplaced P (Around z z') (Around z z') (.rule .raw) := by
  rintro s i i' o o' hs ⟨b, hb, hi, hi'⟩ ho ho'
  rcases hb.cases_tag with ⟨y, v, hy, hv, rfl, hword⟩ | ⟨y, x, last, v, hy, hx, hlast, hv, rfl, -⟩ |
    hout
  · have hfails : ∀ {i : Input} {z}, i.rest = tagOpen ++ (y ++ (tagClose ++ v)) ++ z →
        Fails grammar n (.rule .raw) s i := by
      refine fun {i z} hi => fails_raw fun u hu hpre => hword ?_
      have hrest : u = y ++ '%' :: ('\x7d' :: (v ++ z)) := by
        have hsame := hu.symm.trans hi
        simpa [tagOpen, tagClose] using hsame
      rw [hrest, firstWord_append (by decide) (by decide)] at hpre
      exact (Text.prefix_append_cons_iff (by decide)).mp hpre
    exact (hfails hi).alike (hfails hi') ho ho'
  · have hclosed : ∀ z, tagOpen ++ (y ++ (tagClose ++ (x ++ (last ++ v)))) ++ z =
        tagOpen ++ (y ++ (tagClose ++ (x ++ (last ++ (v ++ z))))) := fun z => by simp
    refine (tracks_raw hx hlast hs ⟨y, hy, hi.trans (hclosed z), hi'.trans (hclosed z')⟩
      ho ho').mono ?_
    rintro _ _ ⟨rfl, rfl⟩
    exact ⟨v, hv, rfl, rfl⟩
  · have hfails : ∀ {i : Input} {z}, commentOpen <+: z → i.rest = b ++ z →
        Fails grammar n (.rule .raw) s i :=
      fun hz hi => fails_raw fun u hu => absurd ⟨u, (hi.symm.trans hu).symm⟩ (hout _ hz)
    exact (hfails hz hi).alike (hfails hz' hi') ho ho'

end TemplateTree.Template
