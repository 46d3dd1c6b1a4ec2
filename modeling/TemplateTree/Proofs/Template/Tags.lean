import TemplateTree.Proofs.Source.Scanning
import TemplateTree.Proofs.Template.Matching
import TemplateTree.Template.Reading

/-!
# Tags that refer to templates

What the grammar reads for a tag that includes, extends or imports: its beginning, the
quoted names with nothing else than names and words between them, and its end.  The scan
for references finds such a tag if it comes to it.
-/

namespace TemplateTree.Template

open Peg ParseTree Rule Source

variable {i j k : Input} {s : Spacing} {e : Peg Rule} {es : List (Peg Rule)} {ts us : List Tree}
  {t u : Tree} {text w : Text} {names : List Text} {n : Text}

/-! ## Quoted names -/

def quotedIn (ts : List Tree) : List Text :=
  (textsOf .string (nodesIn ts)).map unquote

/-- The names to which a tree refers, if it is a tag that includes, extends or imports. -/
def quoted (t : Tree) : List Text :=
  if t.rule = .includeTag ∨ t.rule = .extendsTag ∨ t.rule = .importTag then quotedIn t.inner
  else []

@[simp] theorem quotedIn_nil : quotedIn [] = [] := rfl

@[simp] theorem quotedIn_append : quotedIn (ts ++ us) = quotedIn ts ++ quotedIn us := by
  simp [quotedIn, nodesIn_append, textsOf]

theorem quotedIn_node (r : Rule) (place : Nat) (text : Text) (inner : List Tree) :
    quotedIn [.node r place text inner] =
      (if r = .string then [unquote text] else []) ++ quotedIn inner := by
  by_cases hr : r = .string <;>
    simp [quotedIn, nodesIn, nodes, textsOf, ParseTree.rule, ParseTree.text, hr]

theorem unquote_quote (q : Char) (n : Text) : unquote (q :: (n ++ [q])) = n := by
  simp [unquote]

/-! ## What is read -/

/-- Expressions of words and quoted names. -/
def isTame (s : Spacing) : Peg Rule → Bool
  | .text t => t.all fun c => !isQuote c && c ≠ '%'
  | .range low high => ['"', '\'', Char.ofNat 0x60, '%'].all fun c => !(low ≤ c && c ≤ high)
  | .seq a b => isTame s a && isTame s b
  | .alt a b => isTame s a && isTame s b
  | .opt a => isTame s a
  | .star a => isTame s a
  | .rule r => s ≠ .solid && [Rule.string, .ident, .ignoreMissing, .stringArray].contains r
  | _ => false

theorem plain_of_isSpacing {c : Char} (h : isSpacing c = true) : isQuote c = false ∧ c ≠ '%' := by
  simp only [isSpacing, Bool.or_eq_true, decide_eq_true_eq] at h
  rcases h with ((rfl | rfl) | rfl) | rfl <;> exact ⟨by decide, by decide⟩

theorem exists_of_string (h : Matches grammar (.rule .string) s i j ts) (hs : s ≠ .solid) :
    ∃ q n, isQuote q = true ∧ q ∉ n ∧ Reads i (q :: (n ++ [q])) j ∧
      ts = [.node .string i.place (q :: (n ++ [q])) []] := by
  obtain ⟨inner, hbody, rfl⟩ := matches_rule_iff.mp h
  have hbetween : ∃ q, isQuote q = true ∧
      Matches grammar (Rule.between (.text [q])) .solid i j inner := by
    rcases matches_alt_iff.mp hbody with hbody | hbody
    · exact ⟨'"', by decide, hbody⟩
    · rcases matches_alt_iff.mp hbody with hbody | hbody
      · exact ⟨'\'', by decide, hbody⟩
      · exact ⟨Char.ofNat 0x60, by decide, hbody⟩
  obtain ⟨q, hq, hmatch⟩ := hbetween
  obtain ⟨k, ts₁, ts₂, hopen, hrest, rfl⟩ := matches_seq_iff.mp hmatch
  obtain ⟨l, ts₃, ts₄, hinside, hclose, rfl⟩ := matches_seq_iff.mp hrest
  obtain ⟨hfirst, rfl⟩ := matches_text_iff.mp hopen
  rw [passSpace_of_ne_free (by decide)] at hinside hclose
  obtain ⟨n, hn, hnot, rfl⟩ := hinside.of_star_upTo rfl (by decide)
  obtain ⟨hlast, rfl⟩ := matches_text_iff.mp hclose
  have hreads : Reads i (q :: (n ++ [q])) j := hfirst.trans (hn.trans hlast)
  refine ⟨q, n, hq, hnot, hreads, ?_⟩
  have hshows : ¬ ((grammar .string).mode = .silent ∨
      outerSpacing (grammar .string).mode s = .solid) := by
    rintro (hmode | hsolid)
    · cases hmode
    · exact hs hsolid
  rw [treesOf, if_neg hshows, hreads.take_eq]
  rfl

theorem isBlank_of_isSpacing (h : w.all isSpacing = true) : Text.isBlank w = true := by
  refine List.all_eq_true.mpr fun c hc => ?_
  have hspacing := List.all_eq_true.mp h c hc
  simp only [isSpacing, Bool.or_eq_true, decide_eq_true_eq] at hspacing
  rcases hspacing with ((rfl | rfl) | rfl) | rfl <;> rfl

theorem quotes_of_isSpacing (hw : w.all isSpacing = true) : Quotes w [] :=
  quotes_of_forall fun _ hd => plain_of_isSpacing (List.all_eq_true.mp hw _ hd)

/-- Words and quoted names read what they quote. -/
theorem exists_of_isTame (h : Matches grammar e s i j ts) (he : isTame s e = true) :
    ∃ w, Reads i w j ∧ Quotes w (quotedIn ts) := by
  induction h with
  | @text t s i j h =>
      refine ⟨t, h, quotes_of_forall fun c hc => ?_⟩
      simpa using List.all_eq_true.mp he c hc
  | @range low high c s i j h hlow hhigh =>
      refine ⟨[c], h, quotes_of_forall fun d hd => ?_⟩
      obtain rfl := List.mem_singleton.mp hd
      have hout : ∀ x ∈ ['"', '\'', Char.ofNat 0x60, '%'], d ≠ x := by
        rintro x hx rfl
        simpa [hlow, hhigh] using List.all_eq_true.mp he d hx
      have hback : Char.ofNat 0x60 = '`' := rfl
      simp only [List.forall_mem_cons, hback] at hout
      simp [isQuote, hout]
  | any | start | stop | absent => cases he
  | @seq a b s i j k ts ts' _ _ iha ihb =>
      obtain ⟨ha, hb⟩ := Bool.and_eq_true_iff.mp he
      obtain ⟨w, hw, hquotes⟩ := iha ha
      obtain ⟨blank, hblank, hall⟩ := reads_passSpace s j
      obtain ⟨w', hw', hquotes'⟩ := ihb hb
      rw [quotedIn_append]
      exact ⟨_, hw.trans (hblank.trans hw'),
        hquotes.append ((quotes_of_isSpacing hall).append hquotes')⟩
  | left _ ih => exact ih (Bool.and_eq_true_iff.mp he).1
  | right _ ih => exact ih (Bool.and_eq_true_iff.mp he).2
  | without | done => exact ⟨[], .refl _, .nil⟩
  | once _ ih => exact ih he
  | @again a s i j j' k ts ts' _ hspace _ iha ihrest =>
      obtain ⟨w, hw, hquotes⟩ := iha he
      obtain ⟨w', hw', hquotes'⟩ := ihrest he
      rw [quotedIn_append]
      rcases hspace with rfl | rfl
      · exact ⟨_, hw.trans hw', hquotes.append hquotes'⟩
      · obtain ⟨blank, hblank, hall⟩ := reads_passSpace s j
        exact ⟨_, hw.trans (hblank.trans hw'),
          hquotes.append ((quotes_of_isSpacing hall).append hquotes')⟩
  | @rule r s i j ts hbody ih =>
      obtain ⟨hs, hr⟩ := Bool.and_eq_true_iff.mp he
      have hs : s ≠ .solid := of_decide_eq_true hs
      -- a quoted name is read as a whole, since its characters are not tame
      by_cases hstring : r = .string
      · subst hstring
        obtain ⟨q, n, hq, hn, hreads, heq⟩ := exists_of_string (.rule hbody) hs
        rw [heq, quotedIn_node, if_pos rfl, unquote_quote]
        exact ⟨_, hreads, .quote hq hn .nil⟩
      · have hinner : isTame (innerSpacing (grammar r).mode s) (grammar r).body = true := by
          have hmem : r ∈ [Rule.string, .ident, .ignoreMissing, .stringArray] :=
            List.contains_iff_mem.mp hr
          simp only [List.mem_cons, List.not_mem_nil, or_false, hstring, false_or] at hmem
          rcases hmem with rfl | rfl | rfl <;> rfl
        obtain ⟨w, hw, hquotes⟩ := ih hinner
        refine ⟨w, hw, ?_⟩
        unfold treesOf
        split
        case isTrue => exact hquotes
        case isFalse => rwa [quotedIn_node, if_neg hstring]

/-! ## Tags -/

theorem reads_of_words {r : Rule} {a b : Text}
    (hr : grammar r = ⟨.normal, .alt (.text a) (.text b)⟩)
    (hstring : r ≠ .string) (h : Matches grammar (.rule r) s i j ts) :
    (Reads i a j ∨ Reads i b j) ∧ quotedIn ts = [] := by
  obtain ⟨inner, hbody, rfl⟩ := matches_rule_iff.mp h
  have hread : (Reads i a j ∨ Reads i b j) ∧ inner = [] := by
    rw [hr] at hbody
    rcases matches_alt_iff.mp hbody with hbody | hbody
    · obtain ⟨hread, rfl⟩ := matches_text_iff.mp hbody
      exact ⟨.inl hread, rfl⟩
    · obtain ⟨hread, rfl⟩ := matches_text_iff.mp hbody
      exact ⟨.inr hread, rfl⟩
  obtain ⟨hread, rfl⟩ := hread
  refine ⟨hread, ?_⟩
  unfold treesOf
  split
  case isTrue => rfl
  case isFalse => rw [quotedIn_node, if_neg hstring, quotedIn_nil, List.append_nil]

theorem exists_of_tagStart (h : Matches grammar (ref .tagStart) s i j ts) :
    ∃ dash, (dash = [] ∨ dash = ['-']) ∧ Reads i (['\x7b', '%'] ++ dash) j ∧ quotedIn ts = [] := by
  obtain ⟨hread, hquoted⟩ := reads_of_words (a := "\x7b%-".toList) (b := "\x7b%".toList) rfl
    (by decide) h
  rcases hread with hread | hread
  · exact ⟨['-'], .inr rfl, hread, hquoted⟩
  · exact ⟨[], .inl rfl, hread, hquoted⟩

theorem exists_of_tagEnd (h : Matches grammar (ref .tagEnd) s i j ts) :
    ∃ dash, (dash = [] ∨ dash = ['-']) ∧ Reads i (dash ++ tagClose) j ∧ quotedIn ts = [] := by
  obtain ⟨hread, hquoted⟩ := reads_of_words (a := "-%\x7d".toList) (b := "%\x7d".toList) rfl
    (by decide) h
  rcases hread with hread | hread
  · exact ⟨['-'], .inr rfl, hread, hquoted⟩
  · exact ⟨[], .inl rfl, hread, hquoted⟩

/-- Words and quoted names up to the end of a tag. -/
theorem exists_of_seqs (h : Matches grammar (Peg.seqs (es ++ [ref .tagEnd])) s i j ts)
    (hes : ∀ e ∈ es, isTame s e = true) :
    ∃ w, Reads i (w ++ tagClose) j ∧ Quotes w (quotedIn ts) := by
  induction es generalizing i ts with
  | nil =>
      obtain ⟨dash, hdash, hread, hquoted⟩ := exists_of_tagEnd h
      refine ⟨dash, hread, ?_⟩
      rw [hquoted]
      refine quotes_of_forall fun c hc => ?_
      rcases hdash with rfl | rfl
      · cases hc
      · rw [List.mem_singleton.mp hc]
        exact ⟨by decide, by decide⟩
  | cons e es ih =>
      rw [List.cons_append, seqs_concat_cons] at h
      obtain ⟨k, ts₁, ts₂, hfirst, hrest, rfl⟩ := matches_seq_iff.mp h
      obtain ⟨w, hw, hquotes⟩ := exists_of_isTame hfirst (hes e List.mem_cons_self)
      obtain ⟨blank, hblank, hall⟩ := reads_passSpace s k
      obtain ⟨w', hw', hquotes'⟩ := ih hrest fun e' he' => hes e' (List.mem_cons_of_mem _ he')
      refine ⟨w ++ (blank ++ w'), ?_, ?_⟩
      · simpa using hw.trans (hblank.trans hw')
      · rw [quotedIn_append]
        exact hquotes.append ((quotes_of_isSpacing hall).append hquotes')

/-- An expression that begins with a character that is not one of a word. -/
def BeginsApart (e : Peg Rule) : Prop :=
  ∀ i j ts, Matches grammar e .free i j ts → (i.rest.head?).any Text.isWordChar = false

theorem beginsApart_string : BeginsApart (ref .string) := by
  intro i j ts h
  obtain ⟨q, n, hq, -, hread, -⟩ := exists_of_string h (by decide)
  simp only [isQuote, Bool.or_eq_true, decide_eq_true_eq] at hq
  rw [hread.rest]
  rcases hq with (rfl | rfl) | rfl <;> rfl

theorem beginsApart_names : BeginsApart (.alt (ref .string) (ref .stringArray)) := by
  intro i j ts h
  rcases matches_alt_iff.mp h with h | h
  · exact beginsApart_string i j ts h
  · obtain ⟨inner, hbody, -⟩ := matches_rule_iff.mp h
    obtain ⟨k, ts₁, ts₂, hopen, -, -⟩ := matches_seq_iff.mp hbody
    obtain ⟨hread, -⟩ := matches_text_iff.mp hopen
    rw [hread.rest]
    rfl

theorem beginsApart_of_isSpacing (hall : w.all isSpacing = true) (hw : w ≠ []) :
    ((w ++ text).head?).any Text.isWordChar = false := by
  cases w with
  | nil => exact absurd rfl hw
  | cons c w =>
      have hc := List.all_eq_true.mp hall c List.mem_cons_self
      simp only [isSpacing, Bool.or_eq_true, decide_eq_true_eq] at hc
      rcases hc with ((rfl | rfl) | rfl) | rfl <;> rfl

theorem wordTag_eq (word : String) (e : Peg Rule) (es : List (Peg Rule)) : wordTag word (e :: es) =
    .seq (ref .tagStart) (.seq (lit word) (Peg.seqs (e :: es ++ [ref .tagEnd]))) :=
  rfl

/-- What a tag of a word and names reads: its beginning, and then names up to its end. -/
theorem exists_of_wordTag {word : String} (hword : word.toList ∈ keywords) (he : BeginsApart e)
    (hes : ∀ e' ∈ e :: es, isTame .free e' = true)
    (h : Matches grammar (wordTag word (e :: es)) .free i j ts) :
    ∃ inside, opening? i.rest = some (inside ++ tagClose ++ j.rest) ∧
      Quotes inside (quotedIn ts) := by
  rw [wordTag_eq] at h
  obtain ⟨k, ts₁, ts₂, hstart, hrest, rfl⟩ := matches_seq_iff.mp h
  obtain ⟨l, ts₃, ts₄, hlit, hnames, rfl⟩ := matches_seq_iff.mp hrest
  obtain ⟨dash, hdash, hopen, hquoted⟩ := exists_of_tagStart hstart
  obtain ⟨blank, hblank, hall⟩ := reads_passSpace .free k
  obtain ⟨hread, rfl⟩ := matches_text_iff.mp hlit
  obtain ⟨blank', hblank', hall'⟩ := reads_passSpace .free l
  -- the scan takes a word for one only if no further character of a word follows
  have hapart : ((l.rest).head?).any Text.isWordChar = false := by
    by_cases hnil : blank' = []
    · rw [List.cons_append, seqs_concat_cons] at hnames
      obtain ⟨m, us₁, us₂, hbegins, -, -⟩ := matches_seq_iff.mp hnames
      rw [hblank'.rest, hnil, List.nil_append]
      exact he _ _ _ hbegins
    · rw [hblank'.rest]
      exact beginsApart_of_isSpacing hall' hnil
  obtain ⟨w, hw, hquotes⟩ := exists_of_seqs hnames hes
  refine ⟨blank' ++ w, ?_, ?_⟩
  · have hrest : i.rest = ['\x7b', '%'] ++ dash ++ blank ++ word.toList ++ l.rest :=
      ((hopen.trans hblank).trans hread).rest
    rw [hrest, opening?_append hdash (isBlank_of_isSpacing hall) hword hapart, hblank'.rest,
      hw.rest]
    simp
  · rw [quotedIn_append, quotedIn_append, hquoted]
    exact (quotes_of_isSpacing hall').append hquotes

theorem matches_inner {r : Rule} {body : Peg Rule} (hr : grammar r = ⟨.free, body⟩)
    (h : Matches grammar (.rule r) s i j [u]) : Matches grammar body .free i j u.inner := by
  obtain ⟨inner, hbody, hnode⟩ := matches_rule_iff.mp h
  rw [hr] at hbody hnode
  have hshows : ¬ (RuleMode.free = .silent ∨ outerSpacing .free s = .solid) := by
    rintro (hmode | hsolid)
    · cases hmode
    · cases hsolid
  rw [treesOf, if_neg hshows] at hnode
  obtain rfl := List.singleton_inj.mp hnode
  exact hbody

theorem has_string_of_wordTag {word : String}
    (h : Matches grammar (wordTag word (ref .string :: es)) .free i j ts) :
    has .string ts = true := by
  rw [wordTag_eq, List.cons_append, seqs_concat_cons] at h
  obtain ⟨k, ts₁, ts₂, -, hrest, rfl⟩ := matches_seq_iff.mp h
  obtain ⟨l, ts₃, ts₄, -, hnames, rfl⟩ := matches_seq_iff.mp hrest
  obtain ⟨m, ts₅, ts₆, hname, -, rfl⟩ := matches_seq_iff.mp hnames
  obtain ⟨q, n, -, -, -, rfl⟩ := exists_of_string hname (by decide)
  simp [has, ParseTree.rule]

/-- A name in a tag that a scan of the text comes to: no end of a tag is in it or in a name
before it in the tag, and whatever looks like the beginning of such a tag before the tag ends
before it, or has its quotes closed before it. -/
structure InSight (text : Text) (u : Tree) (n : Text) : Prop where
  named : ∃ earlier later, quoted u = earlier ++ n :: later ∧
    ∀ m ∈ earlier ++ [n], ¬ tagClose <:+: m
  before : ∀ x, x <:+ text.take u.start → (opening? (x ++ text.drop u.start)).isSome →
    tagClose <:+: x ∨ Closed x

/-- A text in whose tags every name is in sight. -/
def Overt (text : Text) : Prop :=
  ∀ tree, parse grammar .template text = .ok tree →
    ∀ u ∈ tree.nodes, ∀ n ∈ quoted u, InSight text u n

/-- A tag that refers to templates begins where its tree begins. -/
theorem exists_opening_of_mem_nodes (h : parse grammar .template text = .ok t) (hu : u ∈ t.nodes)
    (hn : n ∈ quoted u) : ∃ inside after,
      opening? (text.drop u.start) = some (inside ++ tagClose ++ after) ∧
      Quotes inside (quoted u) := by
  obtain ⟨_, hmatch⟩ := matches_of_parse h
  rw [← nodesIn_singleton] at hu
  obtain ⟨w, i, j, s, hreads, hstart, htag⟩ := hmatch.exists_of_mem_nodesIn hu
  rw [hstart, hreads.of_start.2.1]
  unfold quoted at hn ⊢
  split at hn
  case isFalse => simp at hn
  case isTrue hrule =>
    rw [if_pos hrule]
    have hopening : ∃ inside, opening? i.rest = some (inside ++ tagClose ++ j.rest) ∧
        Quotes inside (quotedIn u.inner) := by
      rcases hrule with hr | hr | hr <;> rw [hr] at htag
      · exact exists_of_wordTag (by decide) beginsApart_names (by decide) (matches_inner rfl htag)
      · exact exists_of_wordTag (by decide) beginsApart_string (by decide) (matches_inner rfl htag)
      · exact exists_of_wordTag (by decide) beginsApart_string (by decide) (matches_inner rfl htag)
    obtain ⟨inside, hopening, hquotes⟩ := hopening
    exact ⟨inside, j.rest, hopening, hquotes⟩

theorem has_string_of_mem_nodes (h : parse grammar .template text = .ok t) (hu : u ∈ t.nodes)
    (hrule : u.rule = .extendsTag ∨ u.rule = .importTag) : has .string u.inner = true := by
  obtain ⟨_, hmatch⟩ := matches_of_parse h
  rw [← nodesIn_singleton] at hu
  obtain ⟨w, i, j, s, -, -, htag⟩ := hmatch.exists_of_mem_nodesIn hu
  rcases hrule with hr | hr <;> rw [hr] at htag
  · exact has_string_of_wordTag (matches_inner rfl htag)
  · exact has_string_of_wordTag (matches_inner rfl htag)

/-- The scan finds the names in sight. -/
theorem mem_references_of_inSight (h : parse grammar .template text = .ok t) (hu : u ∈ t.nodes)
    (hsight : InSight text u n) : n ∈ references text := by
  obtain ⟨earlier, later, hnames, hends⟩ := hsight.named
  have hn : n ∈ quoted u := by simp [hnames]
  obtain ⟨w, after, hopening, hquotes⟩ := exists_opening_of_mem_nodes h hu hn
  obtain ⟨inside, rest, hsplit, hinside, hliteral⟩ := hquotes.exists_inside hnames hends after
  rw [hsplit] at hopening
  have hfound := mem_referencesFrom hopening hinside hsight.before n hliteral
  rwa [List.take_append_drop] at hfound

end TemplateTree.Template
