import TemplateTree.Proofs.Template.Around
import TemplateTree.Template.Basic

/-!
# The text of a comment

Two texts that differ only in the text of a comment are parsed to trees that are the same but
for places and for what is not read, or neither of them is parsed.  So they make the same
template.
-/

namespace TemplateTree

open ParseTree

theorem Peg.Tracks.bare {ρ : Type} {grammar : ρ → PegRule ρ} {n : Nat} {e : Peg ρ}
    {P : Spacing → Prop} {S S' : Text → Text → Prop} {covered : ρ → Bool}
    (h : Tracks grammar n unplaced P S S' e) : Tracks grammar n (bare covered) P S S' e := by
  intro s i i' o o' hs hS ho ho'
  cases h hs hS ho ho' with
  | failed => exact .failed
  | matched hrest htrees => exact .matched hrest (map_bare_of_map_unplaced htrees)

namespace Template

open Peg Source

/-- The text of a comment that neither ends the comment nor adds a dash to one of its marks. -/
structure Inert (m : Text) : Prop where
  unclosed : ¬ commentClose <:+: m
  head : m.head? ≠ some '-'
  last : m.getLast? ≠ some '-'

def commentThen (m a : Text) : Text :=
  commentOpen ++ (m ++ (commentClose ++ a))

/-- Texts that are the same but for a comment that nothing before it keeps open. -/
def Similar (m m' a t t' : Text) : Prop :=
  t = t' ∨ Around (commentThen m a) (commentThen m' a) t t'

variable {n : Nat} {r : Rule} {e l : Peg Rule} {P : Spacing → Prop} {s : Setting} {i j : Input}
  {o o' : Result Rule} {ts : List Tree} {m m' a t t' u v x y b : Text} {c : Char}
  {S S' : Text → Text → Prop} {covered : Rule → Bool} {tree : Tree}

/-! ## What is seen of trees -/

theorem seenAlike_of_covered (h : covered r = true) : SeenAlike (bare covered) S S' r := by
  intro w w' u u' p p' ts ts' _ _ htrees
  rw [bare, bare, if_pos h, if_pos h, bareIn_eq, bareIn_eq, htrees]

/-! ## The comment -/

theorem Inert.cases (h : Inert m) (hx : x <:+ m) (hne : x ≠ []) (a : Text) :
    ¬ '-' :: commentClose <+: x ++ (commentClose ++ a) ∧
      ¬ commentClose <+: x ++ (commentClose ++ a) := by
  have hunclosed : ¬ commentClose <:+: x := fun hin => h.unclosed (hin.trans hx.isInfix)
  rcases cases_inComment hunclosed with rfl | rfl | ⟨c, v, rfl, -, hout⟩
  · exact absurd rfl hne
  · obtain ⟨w, rfl⟩ := hx
    exact absurd (by simp) h.last
  · exact hout a

theorem tracks_commentStart_inert (hm : Inert m) (hm' : Inert m') :
    Tracks grammar n unplaced P (At (commentThen m a) (commentThen m' a))
      (At (m ++ (commentClose ++ a)) (m' ++ (commentClose ++ a))) (.rule .commentStart) := by
  cases n with
  | zero =>
      intro s i i' o o' _ _ h
      cases h
  | succ n =>
      have hseen : SeenAlike unplaced (At (commentThen m a) (commentThen m' a))
          (At (m ++ (commentClose ++ a)) (m' ++ (commentClose ++ a))) Rule.commentStart := by
        refine seenAlike_of_text_eq fun w w' u u' h h' => ?_
        obtain ⟨rfl, rfl⟩ := h'
        exact (List.append_cancel_right h.1).trans (List.append_cancel_right h.2).symm
      refine .rule (Q := Spaced) (fun _ _ => trivial) (fun _ => hseen)
        (.alt (tracks_text ?_) (tracks_text ?_))
      · have hout : ∀ {m : Text}, Inert m → ¬ commentOpen ++ ['-'] <+: commentThen m a := by
          intro m hm hpre
          obtain ⟨w, hw⟩ := (List.prefix_append_right_inj commentOpen).mp hpre
          cases m with
          | nil => cases hw
          | cons c m => exact hm.head (by rw [← (List.cons.inj hw).1]; rfl)
        rintro _ _ ⟨rfl, rfl⟩
        exact .inl ⟨hout hm, hout hm'⟩
      · rintro _ _ ⟨rfl, rfl⟩
        exact .inr ⟨_, _, rfl, rfl, rfl, rfl⟩

/-- A comment is read up to its end, whatever its text is. -/
theorem tracks_marked (hm : Inert m) (hm' : Inert m') :
    Tracks grammar n (bare holdsComments) P (At (commentThen m a) (commentThen m' a)) Eq
      (.rule .commentTag) := by
  cases n with
  | zero =>
      intro s i i' o o' _ _ h
      cases h
  | succ n =>
      refine .rule (Q := Unspaced) (fun s _ => ?_) (fun _ => seenAlike_of_covered rfl) ?_
      · exact (by decide : Spacing.tight ≠ .free)
      · have hinside : Tracks grammar n (bare holdsComments) Unspaced
            (At (m ++ (commentClose ++ a)) (m' ++ (commentClose ++ a)))
            (At (commentClose ++ a) (commentClose ++ a)) (.star (.upTo (.rule .commentEnd))) := by
          rintro s i i' o o' hs ⟨hi, hi'⟩ ho ho'
          have htakes : ∀ {m : Text} {i : Input}, Inert m → i.rest = m ++ (commentClose ++ a) →
              Takes grammar n (.star (.upTo (.rule .commentEnd))) s i m [] := by
            intro m i hm hi
            refine takes_star_upTo hs hi (fun x hx hne j hj => ?_) (.inr fun j hj => ?_)
            · obtain ⟨hdash, hplain⟩ := hm.cases hx hne a
              exact misses_marks rfl hdash hplain hj
            · exact stops_marks rfl (.inr (List.prefix_append commentClose a)) hj
          refine (htakes hm hi).alike (htakes hm' hi') ho ho' (fun j j' hj hj' => ?_) rfl
          exact ⟨List.append_cancel_left (hj.rest.symm.trans hi),
            List.append_cancel_left (hj'.rest.symm.trans hi')⟩
        have hend : Tracks grammar n (bare holdsComments) Unspaced
            (At (commentClose ++ a) (commentClose ++ a)) Eq (.rule .commentEnd) := by
          rintro s i i' o o' - ⟨hi, hi'⟩ ho ho'
          exact (tracks_eq (by decide)).bare trivial (hi.trans hi'.symm) ho ho'
        exact .seq passes_unspaced (tracks_commentStart_inert hm hm').bare
          (.seq passes_unspaced hinside hend)

theorem begins_commentThen (m a : Text) : commentOpen <+: commentThen m a :=
  List.prefix_append _ _

theorem tracks_commentTag (hm : Inert m) (hm' : Inert m') :
    Tracks grammar n (bare holdsComments) P
      (Around (commentThen m a) (commentThen m' a)) (Similar m m' a) (.rule .commentTag) := by
  rintro s i i' o o' hs ⟨b, hb, hi, hi'⟩ ho ho'
  rcases hb.cases_comment with rfl | ⟨x, v, hx, hv, rfl⟩ | hout
  · exact (tracks_marked hm hm' hs ⟨hi, hi'⟩ ho ho').mono fun _ _ => .inl
  · have hclosed : ∀ z, commentOpen ++ (x ++ (commentClose ++ v)) ++ z =
        commentOpen ++ (x ++ (commentClose ++ (v ++ z))) := fun z => by simp
    refine (tracks_comment.bare hs ⟨x, hx, hi.trans (hclosed _), hi'.trans (hclosed _)⟩
      ho ho').mono ?_
    rintro _ _ ⟨rfl, rfl⟩
    exact .inr ⟨v, hv, rfl, rfl⟩
  · have hfails : ∀ {i : Input} {m}, i.rest = b ++ commentThen m a →
        Fails grammar n (.rule .commentTag) s i := by
      refine fun {i m} hi => .rule fun n => .seq (fails_start (p := commentOpen) rfl fun hpre => ?_)
      exact hout _ (begins_commentThen m a) (hi ▸ hpre)
    exact (hfails hi).alike (hfails hi') ho ho'

/-! ## Templates -/

/-- The rules that hold no content. -/
def standsAlone (r : Rule) : Bool :=
  wordTags.contains r || [Rule.variableTag, .superTag, .commentTag, .raw, .text].contains r

/-- The rules that hold content, and those of the content. -/
def holdsContent (r : Rule) : Bool :=
  [Rule.contentIf, .blockIf, .macroIf, .forIf, .forBlockIf, .forLoop, .blockFor, .filterSection,
    .blockFilter, .block, .macroDefinition, .content, .blockContent, .macroContent, .forContent,
    .blockForContent].contains r

theorem tracks_similar (hr : r ≠ .template)
    (h : Tracks grammar n (bare holdsComments) Spaced
      (Around (commentThen m a) (commentThen m' a)) (Similar m m' a) (.rule r)) :
    Tracks grammar n (bare holdsComments) Spaced (Similar m m' a) (Similar m m' a) (.rule r) := by
  rintro s i i' o o' hs (heq | hbefore) ho ho'
  · exact ((tracks_eq hr).bare hs heq ho ho').mono fun _ _ => .inl
  · exact h hs hbefore ho ho'

theorem tracks_standsAlone (hm : Inert m) (hm' : Inert m') (hr : standsAlone r = true) :
    Tracks grammar n (bare holdsComments) Spaced (Similar m m' a) (Similar m m' a) (.rule r) := by
  have hz := begins_commentThen m a
  have hz' := begins_commentThen m' a
  have hbefore : ∀ {r}, r ≠ .template → Tracks grammar n unplaced Spaced
      (Around (commentThen m a) (commentThen m' a)) (Around (commentThen m a) (commentThen m' a))
      (.rule r) → Tracks grammar n (bare holdsComments) Spaced (Similar m m' a) (Similar m m' a)
      (.rule r) := fun hr h => tracks_similar hr (h.bare.mono fun _ _ => .inr)
  rcases Bool.or_eq_true_iff.mp hr with hr | hr
  · have hmem := List.contains_iff_mem.mp hr
    refine hbefore ?_ (tracks_wordTag_around hz hz' hmem)
    rintro rfl
    exact absurd hmem (by decide)
  · have hmem := List.contains_iff_mem.mp hr
    simp only [List.mem_cons, List.not_mem_nil, or_false] at hmem
    rcases hmem with rfl | rfl | rfl | rfl | rfl
    · exact hbefore (by decide) (tracks_output_around hz hz' rfl rfl)
    · exact hbefore (by decide) (tracks_output_around hz hz' rfl rfl)
    · exact tracks_similar (by decide) (tracks_commentTag hm hm')
    · exact hbefore (by decide) (tracks_raw_around hz hz')
    · exact hbefore (by decide) (tracks_text_around hz hz')

theorem Plain.dropWhile (h : Plain b) : Plain (b.dropWhile isSpacing) := by
  induction h with
  | nil => exact .nil
  | @char c b hc h ih =>
      rw [List.dropWhile_cons]
      split
      · exact ih
      · exact .char hc h
  | comment hx h => exact .comment hx h
  | output hy h => exact .output hy h
  | tag hy hword h => exact .tag hy hword h
  | raw hy hword hx hlast h => exact .raw hy hword hx hlast h

theorem passes_similar : Passes Spaced (Similar m m' a) := by
  refine passes_of_dropWhile ?_
  rintro _ _ (rfl | ⟨b, hb, rfl, rfl⟩)
  · exact .inl rfl
  · exact .inr ⟨_, hb.dropWhile, dropWhile_append_cons (by decide),
      dropWhile_append_cons (by decide)⟩

/-- Whether a part of content is a rule of content. -/
def staysOutside : Peg Rule → Bool
  | .rule r => standsAlone r || holdsContent r
  | _ => false

theorem tracks_content (hm : Inert m) (hm' : Inert m') (hr : holdsContent r = true) :
    Tracks grammar n (bare holdsComments) Spaced (Similar m m' a) (Similar m m' a) (.rule r) := by
  refine .of_rules (E := fun r => holdsContent r = true) passes_similar ?_ ?_ hr
  · intro r hr hloud
    refine seenAlike_of_covered ?_
    cases r <;> first | rfl | exact absurd rfl hloud | cases hr
  · intro r hr l hl
    have hall : (grammar r).body.leaves.all staysOutside = true := by
      cases r <;> first | rfl | cases hr
    have hout := List.all_eq_true.mp hall l hl
    cases l with
    | rule q =>
        rcases Bool.or_eq_true_iff.mp hout with hq | hq
        · exact .inr fun n => tracks_standsAlone hm hm' hq
        · exact .inl ⟨q, rfl, hq⟩
    | _ => cases hout

theorem comesTo_of_start (h : ComesTo grammar n (.seq .start e) s i o) (hs : s.spacing ≠ .free)
    (hi : i.place = 0) : ComesTo grammar n e s i o := by
  rcases comesTo_seq h with ⟨hstart, -⟩ | ⟨j, ts, o', hstart, hrest, rfl⟩
  · cases hstart with
    | noStart hplace => exact absurd hi hplace
  · cases hstart with
    | start =>
        rw [passSpace_of_ne_free hs] at hrest
        cases o' <;> exact hrest

/-- Whole templates that are the same but for the text of a comment match alike. -/
theorem alike_template (hm : Inert m) (hm' : Inert m') (h : Similar m m' a t t')
    (ho : ComesTo grammar n (.rule .template) atFirst ⟨t, 0⟩ o)
    (ho' : ComesTo grammar n (.rule .template) atFirst ⟨t', 0⟩ o') :
    Alike (bare holdsComments) (fun _ _ => True) o o' := by
  cases n with
  | zero => cases ho
  | succ n =>
      have heoi : Tracks grammar n (bare holdsComments) Spaced (Similar m m' a) (fun _ _ => True)
          (.rule .eoi) := by
        rintro s i i' o o' hs (heq | ⟨b, -, hi, hi'⟩) ho ho'
        · exact ((tracks_eq (by decide)).bare hs heq ho ho').mono fun _ _ _ => trivial
        · have hfails : ∀ {i : Input} {m}, i.rest = b ++ commentThen m a →
              Fails grammar n (.rule .eoi) s i := by
            refine fun {i m} hi => .rule fun n o ho => ?_
            cases ho with
            | stop hnil => simp [hi, commentThen, commentOpen] at hnil
            | noStop => rfl
          exact (hfails hi).alike (hfails hi') ho ho'
      have hbody : Tracks grammar n (bare holdsComments) Spaced (Similar m m' a) (fun _ _ => True)
          (Peg.seqs [.star (.rule .commentTag), .opt (.rule .extendsTag), .star (.rule .content),
            .rule .eoi]) :=
        .seq passes_similar (.star passes_similar (tracks_standsAlone hm hm' rfl))
          (.seq passes_similar (.opt (fun _ _ h => h) (tracks_standsAlone hm hm' rfl))
            (.seq passes_similar (.star passes_similar (tracks_content hm hm' rfl)) heoi))
      refine alike_rule (S := Similar m m' a) (fun _ => seenAlike_of_covered rfl) h ?_ ho ho'
      intro o o' ho ho'
      have htight : (innerSetting (grammar .template).mode atFirst).spacing ≠ .free := by decide
      exact hbody trivial h (comesTo_of_start ho htight rfl) (comesTo_of_start ho' htight rfl)

/-! ## Parsing -/

theorem height_le_of_parse (h : Peg.parse grammar .template t = .ok tree) :
    4 * tree.height ≤ depthFor t := by
  obtain ⟨o, ho, hparse⟩ := exists_outcome (t := t) le_rfl
  obtain ⟨j, rfl⟩ := (hparse tree).mp h
  have hheight := ho.height_le tree (List.mem_singleton_self tree)
  unfold depthFor topRank at *
  omega

theorem parse_of_similar (hm : Inert m) (hm' : Inert m') (h : Similar m m' a t t')
    (htree : Peg.parse grammar .template t = .ok tree) :
    ∃ tree', Peg.parse grammar .template t' = .ok tree' ∧
      tree.bare holdsComments = tree'.bare holdsComments := by
  obtain ⟨n, hn, hn'⟩ : ∃ n, topRank * (t.length + 1) ≤ n ∧ topRank * (t'.length + 1) ≤ n :=
    ⟨_, Nat.le_max_left _ _, Nat.le_max_right _ _⟩
  obtain ⟨o, ho, hparse⟩ := exists_outcome hn
  obtain ⟨o', ho', hparse'⟩ := exists_outcome hn'
  obtain ⟨j, rfl⟩ := (hparse tree).mp htree
  obtain ⟨j', ts', rfl, htrees⟩ := (alike_template hm hm' h ho ho').exists_of_some
  cases ts' with
  | nil => cases htrees
  | cons tree' ts' =>
      obtain ⟨htree', hnil⟩ := List.cons.inj htrees
      obtain rfl := List.map_eq_nil_iff.mp hnil.symm
      exact ⟨tree', (hparse' tree').mpr ⟨j', rfl⟩, htree'⟩

theorem Similar.symm (h : Similar m m' a t t') : Similar m' m a t' t := by
  rcases h with rfl | ⟨b, hb, rfl, rfl⟩
  · exact .inl rfl
  · exact .inr ⟨b, hb, rfl, rfl⟩

theorem toOption_parse_of_error {place : Nat} (h : Peg.parse grammar .template t = .error place)
    (name : Text) : (parse name t).toOption = none := by
  unfold parse
  rw [h]
  rfl

theorem toOption_parse_of_ok (h : Peg.parse grammar .template t = .ok tree) (name : Text) :
    (parse name t).toOption = (readTemplate (depthFor t) tree).toOption.bind fun pieces =>
      (ofPieces name (trimPieces false false pieces)).toOption := by
  unfold parse
  rw [h]
  dsimp only
  cases readTemplate (depthFor t) tree with
  | error e => rfl
  | ok pieces =>
      dsimp only [Except.toOption, Option.bind_some]
      cases ofPieces name (trimPieces false false pieces) <;> rfl

/-- The text of a comment does not matter for the template that a text makes. -/
theorem toOption_parse_of_similar (hm : Inert m) (hm' : Inert m') (h : Similar m m' a t t')
    (name : Text) : (parse name t).toOption = (parse name t').toOption := by
  cases htree : Peg.parse grammar .template t with
  | error place =>
      cases htree' : Peg.parse grammar .template t' with
      | error place' => rw [toOption_parse_of_error htree, toOption_parse_of_error htree']
      | ok tree' =>
          obtain ⟨tree, hother, -⟩ := parse_of_similar hm' hm h.symm htree'
          rw [htree] at hother
          cases hother
  | ok tree =>
      obtain ⟨tree', htree', hbare⟩ := parse_of_similar hm hm' h htree
      have hread := readTemplate_eq_of_bare_eq hbare (height_le_of_parse htree)
        (height_le_of_parse htree')
      rw [toOption_parse_of_ok htree, toOption_parse_of_ok htree', hread]

end Template

end TemplateTree
