import TemplateTree.Source.References
import TemplateTree.Proofs.Text.Cutting
import TemplateTree.Proofs.Text.Trimming

/-!
# What a scan for references finds

The scan goes on behind the first end of a tag, so that it may pass over a tag when
something before it looks like the beginning of one.  The names in a tag are found if each
such beginning ends before the tag, or else has its quotes closed there.
-/

namespace TemplateTree.Source

open Text

def isQuote (c : Char) : Bool :=
  c = '"' || c = '\'' || c = '`'

def tagClose : Text :=
  ['%', '\x7d']

/-- A text with quoted parts, and no per cent sign between them. -/
inductive Quotes : Text → List Text → Prop
  | nil : Quotes [] []
  | skip {c : Char} {t : Text} {names : List Text} (hc : isQuote c = false) (hsign : c ≠ '%')
      (h : Quotes t names) : Quotes (c :: t) names
  | quote {q : Char} {n t : Text} {names : List Text} (hq : isQuote q = true) (hn : q ∉ n)
      (h : Quotes t names) : Quotes (q :: (n ++ q :: t)) (n :: names)

/-- A text whose quoted parts are closed. -/
inductive Closed : Text → Prop
  | nil : Closed []
  | skip {c : Char} {t : Text} (hc : isQuote c = false) (h : Closed t) : Closed (c :: t)
  | quote {q : Char} {n t : Text} (hq : isQuote q = true) (hn : q ∉ n) (h : Closed t) :
      Closed (q :: (n ++ q :: t))

variable {t u rest inside after before arguments : Text} {names more earlier later : List Text}
  {c q : Char} {n : Text}

/-! ## Quoted parts -/

theorem Quotes.append (h : Quotes t names) (h' : Quotes u more) :
    Quotes (t ++ u) (names ++ more) := by
  induction h with
  | nil => exact h'
  | skip hc hsign _ ih => exact .skip hc hsign ih
  | quote hq hn _ ih =>
      rw [List.cons_append, List.append_assoc, List.cons_append]
      exact .quote hq hn ih

theorem quotes_of_forall (h : ∀ c ∈ t, isQuote c = false ∧ c ≠ '%') : Quotes t [] := by
  induction t with
  | nil => exact .nil
  | cons c t ih =>
      obtain ⟨hc, hsign⟩ := h c List.mem_cons_self
      exact .skip hc hsign (ih fun d hd => h d (List.mem_cons_of_mem _ hd))

theorem not_mem_tagClose_of_quote (h : isQuote q = true) : q ∉ tagClose := by
  intro hmem
  rcases List.mem_cons.mp hmem with rfl | hmem
  · cases h
  · rw [List.mem_singleton.mp hmem] at h
    cases h

theorem tagClose_ne_nil : tagClose ≠ [] :=
  List.cons_ne_nil _ _

theorem infix_cons_iff_of_not_mem (hc : c ∉ tagClose) : tagClose <:+: c :: t ↔ tagClose <:+: t := by
  have hinfix := infix_append_cons_iff (a := []) (b := t) tagClose_ne_nil hc
  simpa [List.infix_nil, tagClose_ne_nil] using hinfix

/-- A pair of characters does not overlap itself. -/
theorem firstAfter_pair {a b : Char} (hab : a ≠ b) (h : ¬ [a, b] <:+: t) : FirstAfter t [a, b] := by
  induction t with
  | nil => exact firstAfter_nil [a, b]
  | cons c t ih =>
      rw [List.infix_cons_iff, not_or] at h
      refine firstAfter_cons_iff.mpr ⟨fun hpre => h.1 ?_, ih h.2⟩
      cases t with
      | nil =>
          obtain ⟨-, hpre⟩ := List.cons_prefix_cons.mp hpre
          exact absurd (List.cons_prefix_cons.mp hpre).1.symm hab
      | cons d t =>
          simp only [List.cons_append, List.cons_prefix_cons] at hpre ⊢
          exact ⟨hpre.1, hpre.2.1, List.nil_prefix⟩

theorem firstAfter_tagClose (h : ¬ tagClose <:+: t) : FirstAfter t tagClose :=
  firstAfter_pair (by decide) h

theorem firstAfter_singleton (h : q ∉ t) : FirstAfter t [q] := by
  induction t with
  | nil => exact firstAfter_nil [q]
  | cons c t ih =>
      obtain ⟨hc, ht⟩ := not_or.mp (List.mem_cons.not.mp h)
      refine firstAfter_cons_iff.mpr ⟨fun hpre => hc ?_, ih ht⟩
      exact (List.cons_prefix_cons.mp hpre).1

theorem splitOnce?_quote (h : q ∉ t) : splitOnce? [q] (t ++ q :: u) = some (t, u) := by
  have hsplit := splitOnce?_append (b := u) (List.cons_ne_nil q []) (firstAfter_singleton h)
  rwa [List.append_assoc] at hsplit

theorem literals_skip (n : Nat) : literals n t = literals 0 (t.drop n) := by
  induction t generalizing n with
  | nil => cases n <;> rfl
  | cons c t ih =>
      cases n with
      | zero => rfl
      | succ n => exact ih n

theorem literals_cons_of_not_quote (h : isQuote c = false) :
    literals 0 (c :: t) = literals 0 t := by
  have hif : ¬ (c = '"' || c = '\'' || c = '`') = true := Bool.eq_false_iff.mp h
  rw [literals, if_neg hif]

theorem literals_cons_of_quote (h : isQuote q = true) : literals 0 (q :: t) =
    match splitOnce? [q] t with
    | some (inside, rest) => inside :: literals 0 rest
    | none => literals 0 t := by
  have hif : (q = '"' || q = '\'' || q = '`') = true := h
  rw [literals, if_pos hif]
  cases hsplit : splitOnce? [q] t with
  | none => rfl
  | some p =>
      obtain ⟨inside, rest⟩ := p
      obtain ⟨rfl, -⟩ := (splitOnce?_eq_some_iff (List.cons_ne_nil q [])).mp hsplit
      have hdrop : (inside ++ [q] ++ rest).drop (inside.length + 1) = rest := by
        rw [show inside.length + 1 = (inside ++ [q]).length by simp, List.drop_left]
      dsimp only
      rw [literals_skip, hdrop]

/-! ## Closed quotes -/

theorem closed_of_forall (h : ∀ c ∈ t, isQuote c = false) : Closed t := by
  induction t with
  | nil => exact .nil
  | cons c t ih =>
      exact .skip (h c List.mem_cons_self) (ih fun d hd => h d (List.mem_cons_of_mem _ hd))

theorem closed_of_not_any (h : t.any isQuote = false) : Closed t :=
  closed_of_forall fun c hc => by simpa using List.any_eq_false.mp h c hc

theorem Closed.append (h : Closed t) (h' : Closed u) : Closed (t ++ u) := by
  induction h with
  | nil => exact h'
  | skip hc _ ih => exact .skip hc ih
  | quote hq hn _ ih =>
      rw [List.cons_append, List.append_assoc, List.cons_append]
      exact .quote hq hn ih

theorem Closed.of_cons (h : Closed (c :: t)) (hc : isQuote c = false) : Closed t := by
  generalize hw : c :: t = w at h
  cases h with
  | nil => cases hw
  | skip _ h => exact (List.cons.inj hw).2 ▸ h
  | quote hq => simp [← (List.cons.inj hw).1, hc] at hq

theorem Closed.of_append (h : Closed (t ++ u)) (ht : ∀ c ∈ t, isQuote c = false) : Closed u := by
  induction t with
  | nil => exact h
  | cons c t ih =>
      exact ih (h.of_cons (ht c List.mem_cons_self)) fun d hd => ht d (List.mem_cons_of_mem _ hd)

/-- What follows closed quotes is read on its own. -/
theorem Closed.literals_append (h : Closed t) :
    literals 0 (t ++ u) = literals 0 t ++ literals 0 u := by
  induction h with
  | nil => rfl
  | skip hc _ ih =>
      rw [List.cons_append, literals_cons_of_not_quote hc, literals_cons_of_not_quote hc, ih]
  | quote hq hn _ ih =>
      rw [List.cons_append, List.append_assoc, List.cons_append, literals_cons_of_quote hq,
        literals_cons_of_quote hq, splitOnce?_quote hn, splitOnce?_quote hn]
      dsimp only
      rw [ih, List.cons_append]

/-- The text up to a quoted name holds the name, and no end of a tag if no name does. -/
theorem Quotes.exists_before (h : Quotes t names) (hnames : names = earlier ++ n :: later)
    (hends : ∀ m ∈ earlier ++ [n], ¬ tagClose <:+: m) :
    ∃ a q b, t = a ++ q :: b ∧ isQuote q = true ∧ Closed (a ++ [q]) ∧ ¬ tagClose <:+: a ∧
      n ∈ literals 0 (a ++ [q]) := by
  induction h generalizing earlier with
  | nil => simp at hnames
  | @skip c t names hc hsign _ ih =>
      obtain ⟨a, q, b, rfl, hq, hclosed, ha, hn⟩ := ih hnames hends
      refine ⟨c :: a, q, b, rfl, hq, .skip hc hclosed, ?_, ?_⟩
      · rw [List.infix_cons_iff, not_or]
        refine ⟨fun hpre => ?_, ha⟩
        obtain ⟨r, hr⟩ := hpre
        exact hsign (List.cons.inj hr).1.symm
      · rwa [List.cons_append, literals_cons_of_not_quote hc]
  | @quote q m t names hq hm _ ih =>
      have hout := not_mem_tagClose_of_quote hq
      cases earlier with
      | nil =>
          obtain ⟨rfl, -⟩ := List.cons.inj hnames
          refine ⟨q :: m, q, t, rfl, hq, .quote hq hm .nil, ?_, ?_⟩
          · rw [infix_cons_iff_of_not_mem hout]
            exact hends m (by simp)
          · rw [List.cons_append, literals_cons_of_quote hq, splitOnce?_quote hm]
            exact List.mem_cons_self
      | cons e earlier =>
          obtain ⟨rfl, hrest⟩ := List.cons.inj hnames
          obtain ⟨a, q', b, rfl, hq', hclosed, ha, hn⟩ :=
            ih hrest fun k hk => hends k (List.mem_cons_of_mem _ hk)
          have hsplit : q :: (m ++ q :: a) ++ [q'] = q :: (m ++ q :: (a ++ [q'])) := by simp
          refine ⟨q :: (m ++ q :: a), q', b, by simp, hq', ?_, ?_, ?_⟩
          · rw [hsplit]
            exact .quote hq hm hclosed
          · rw [infix_cons_iff_of_not_mem hout, infix_append_cons_iff tagClose_ne_nil hout, not_or]
            exact ⟨hends m List.mem_cons_self, ha⟩
          · rw [hsplit, literals_cons_of_quote hq, splitOnce?_quote hm]
            exact List.mem_cons_of_mem _ hn

/-- Up to the first end of a tag there are all names before which, and in which, there is
none. -/
theorem Quotes.exists_inside (h : Quotes t names) (hnames : names = earlier ++ n :: later)
    (hends : ∀ m ∈ earlier ++ [n], ¬ tagClose <:+: m) (after : Text) :
    ∃ inside rest, t ++ tagClose ++ after = inside ++ tagClose ++ rest ∧
      ¬ tagClose <:+: inside ∧ n ∈ literals 0 inside := by
  obtain ⟨a, q, b, rfl, hq, hclosed, ha, hn⟩ := h.exists_before hnames hends
  -- a later name may hold an end of a tag, and the first one is where the scan stops
  obtain ⟨c, rest, hsplit, hc⟩ := exists_firstAfter (t := b ++ tagClose ++ after) ⟨b, after, rfl⟩
  refine ⟨a ++ q :: c, rest, ?_, ?_, ?_⟩
  · simp only [List.append_assoc, List.cons_append] at hsplit ⊢
    rw [hsplit]
  · rw [infix_append_cons_iff tagClose_ne_nil (not_mem_tagClose_of_quote hq), not_or]
    exact ⟨ha, hc.not_infix tagClose_ne_nil⟩
  · have happend : a ++ q :: c = (a ++ [q]) ++ c := by simp
    rw [happend, hclosed.literals_append]
    exact List.mem_append_left _ hn

theorem splitOnce?_append_singleton (hq : q ≠ c) :
    splitOnce? [q] (t ++ [c]) = (splitOnce? [q] t).map fun (a, b) => (a, b ++ [c]) := by
  by_cases hmem : q ∈ t
  · obtain ⟨a, b, rfl, ha⟩ := List.eq_append_cons_of_mem hmem
    rw [splitOnce?_quote ha, List.append_assoc, List.cons_append, splitOnce?_quote ha]
    rfl
  · have hnone : ∀ {t : Text}, q ∉ t → splitOnce? [q] t = none := fun hnot =>
      splitOnce?_eq_none_iff.mpr fun hin => hnot (hin.subset List.mem_cons_self)
    rw [hnone hmem, hnone (by simp [hmem, hq])]
    rfl

theorem literals_append_singleton (hc : isQuote c = false) :
    literals 0 (t ++ [c]) = literals 0 t := by
  induction hn : t.length using Nat.strong_induction_on generalizing t with
  | _ n ih =>
      cases t with
      | nil => exact literals_cons_of_not_quote hc
      | cons d t =>
          have htail := ih t.length (by simp [← hn]) rfl
          by_cases hd : isQuote d = true
          · have hne : d ≠ c := fun heq => by simp [heq, hc] at hd
            rw [List.cons_append, literals_cons_of_quote hd, literals_cons_of_quote hd,
              splitOnce?_append_singleton hne]
            cases hsplit : splitOnce? [d] t with
            | none => exact htail
            | some p =>
                obtain ⟨a, b⟩ := p
                obtain ⟨rfl, -⟩ := (splitOnce?_eq_some_iff (List.cons_ne_nil d [])).mp hsplit
                have hshort : b.length < n := by
                  rw [← hn]
                  simp only [List.length_cons, List.length_append]
                  omega
                simp only [Option.map_some, ih b.length hshort rfl]
          · rw [List.cons_append, literals_cons_of_not_quote (by simpa using hd),
              literals_cons_of_not_quote (by simpa using hd), htail]

theorem literals_dropStop (t : Text) :
    literals 0 ((dropStop? ['-'] t).getD t) = literals 0 t := by
  cases hdrop : dropStop? ['-'] t with
  | none => rfl
  | some u =>
      obtain ⟨r, hr, rfl⟩ := Option.map_eq_some_iff.mp hdrop
      have ht : t.reverse = ['-'] ++ r := dropStart?_eq_some_iff.mp hr
      have hsplit : t = r.reverse ++ ['-'] := by simpa using congrArg List.reverse ht
      rw [Option.getD_some, hsplit, literals_append_singleton (by rfl)]

/-! ## Where a tag begins -/

/-- What follows the beginning of a tag that refers to templates, at the start of a text. -/
def opening? (t : Text) : Option Text := do
  let opened ← dropStart? ['\x7b', '%'] t
  afterKeyword? (trimStart ((dropStart? ['-'] opened).getD opened))

/-- The words that begin a reference. -/
def keywords : List Text :=
  ["include".toList, "extends".toList, "import".toList]

theorem referringTag?_eq (t : Text) : referringTag? t = (opening? t).bind fun arguments =>
    (splitOnce? tagClose arguments).map fun (inside, rest) =>
      ((dropStop? ['-'] inside).getD inside, rest) := by
  unfold referringTag? opening?
  cases dropStart? ['\x7b', '%'] t with
  | none => rfl
  | some opened =>
      simp only [bind, Option.bind_some]
      cases afterKeyword? (trimStart ((dropStart? ['-'] opened).getD opened)) with
      | none => rfl
      | some arguments =>
          simp only [Option.bind_some, tagClose]
          cases splitOnce? ['%', '\x7d'] arguments <;> rfl

theorem exists_of_afterKeyword? (h : afterKeyword? t = some arguments) :
    ∃ word ∈ keywords, t = word ++ arguments := by
  obtain ⟨hfound, -⟩ := Option.filter_eq_some_iff.mp h
  obtain ⟨word, hword, hdrop⟩ := List.exists_of_findSome?_eq_some hfound
  refine ⟨word.toList, ?_, dropStart?_eq_some_iff.mp hdrop⟩
  simp only [List.mem_cons, List.not_mem_nil, or_false] at hword
  rcases hword with rfl | rfl | rfl <;> simp [keywords]

theorem afterKeyword?_append {word : Text} (hword : word ∈ keywords)
    (harguments : (arguments.head?).any isWordChar = false) :
    afterKeyword? (word ++ arguments) = some arguments := by
  have hfound : (["include", "extends", "import"].findSome? fun (w : String) =>
      dropStart? w.toList (word ++ arguments)) = some arguments := by
    simp only [keywords, List.mem_cons, List.not_mem_nil, or_false] at hword
    rcases hword with rfl | rfl | rfl <;> rfl
  unfold afterKeyword?
  rw [hfound, Option.filter_some, if_pos (by simp [harguments])]

def IsOpening (c : Char) : Prop :=
  c ≠ '\x7b' ∧ c ≠ '\x7d' ∧ isQuote c = false

theorem isOpening_of_isSpace (h : isSpace c = true) : IsOpening c := by
  refine ⟨?_, ?_, ?_⟩
  · rintro rfl
    cases h
  · rintro rfl
    cases h
  · rw [Bool.eq_false_iff]
    intro hquote
    simp only [isQuote, Bool.or_eq_true, decide_eq_true_eq] at hquote
    rcases hquote with (rfl | rfl) | rfl <;> cases h

theorem forall_not_quote {init : Text} {last : Char} (hall : ∀ c ∈ init ++ [last], IsOpening c) :
    ∀ c ∈ '\x7b' :: (init ++ [last]), isQuote c = false := by
  intro c hc
  rcases List.mem_cons.mp hc with rfl | hc
  · rfl
  · exact (hall c hc).2.2

theorem exists_of_mem_keywords {word : Text} (h : word ∈ keywords) :
    ∃ init last, word = init ++ [last] ∧ last ≠ '%' ∧ ∀ c ∈ word, IsOpening c := by
  have hcheck : (keywords.all fun word => word != [] && word.getLast? != some '%' &&
      word.all fun c => c != '\x7b' && c != '\x7d' && !isQuote c) = true := by decide
  have hword := List.all_eq_true.mp hcheck word h
  simp only [Bool.and_eq_true, bne_iff_ne, List.all_eq_true, Bool.not_eq_true'] at hword
  obtain ⟨⟨hne, hlast⟩, hall⟩ := hword
  refine ⟨word.dropLast, word.getLast hne, (List.dropLast_append_getLast hne).symm, ?_, ?_⟩
  · rw [List.getLast?_eq_some_getLast hne] at hlast
    exact fun heq => hlast (congrArg some heq)
  · exact fun c hc => ⟨(hall c hc).1.1, (hall c hc).1.2, (hall c hc).2⟩

/-- What is between the first character of a tag and its arguments. -/
theorem exists_of_opening? (h : opening? t = some arguments) : ∃ init last,
    t = '\x7b' :: (init ++ last :: arguments) ∧ last ≠ '%' ∧ ∀ c ∈ init ++ [last], IsOpening c := by
  obtain ⟨opened, hopened, hword⟩ := Option.bind_eq_some_iff.mp h
  obtain rfl := dropStart?_eq_some_iff.mp hopened
  obtain ⟨dash, inner, hinner, hget, hdash⟩ : ∃ dash inner, opened = dash ++ inner ∧
      (dropStart? ['-'] opened).getD opened = inner ∧ ∀ c ∈ dash, c = '-' := by
    cases hdrop : dropStart? ['-'] opened with
    | none => exact ⟨[], opened, rfl, rfl, by simp⟩
    | some inner => exact ⟨['-'], inner, dropStart?_eq_some_iff.mp hdrop, rfl, by simp⟩
  rw [hget] at hword
  obtain ⟨word, hword, htrim⟩ := exists_of_afterKeyword? hword
  obtain ⟨blank, hblank, hsplit⟩ := exists_append_trimStart inner
  obtain ⟨init, last, hends, hlast, hall⟩ := exists_of_mem_keywords hword
  refine ⟨'%' :: (dash ++ blank ++ init), last, ?_, hlast, ?_⟩
  · rw [hinner, hsplit, htrim, hends]
    simp
  · intro c hc
    have hparts : c = '%' ∨ c ∈ dash ∨ c ∈ blank ∨ c ∈ word := by
      rw [hends]
      simpa [or_assoc] using hc
    rcases hparts with rfl | hc | hc | hc
    · exact ⟨by decide, by decide, by decide⟩
    · rw [hdash c hc]
      exact ⟨by decide, by decide, by decide⟩
    · exact isOpening_of_isSpace (List.all_eq_true.mp hblank c hc)
    · exact hall c hc

theorem opening?_append {dash blank word : Text} (hdash : dash = [] ∨ dash = ['-'])
    (hblank : isBlank blank = true) (hword : word ∈ keywords)
    (harguments : (arguments.head?).any isWordChar = false) :
    opening? (['\x7b', '%'] ++ dash ++ blank ++ word ++ arguments) = some arguments := by
  have hopened : dropStart? ['\x7b', '%'] (['\x7b', '%'] ++ dash ++ blank ++ word ++ arguments) =
      some (dash ++ blank ++ word ++ arguments) :=
    dropStart?_eq_some_iff.mpr (by simp)
  have hinner : (dropStart? ['-'] (dash ++ blank ++ word ++ arguments)).getD
      (dash ++ blank ++ word ++ arguments) = blank ++ (word ++ arguments) := by
    rcases hdash with rfl | rfl
    · have hnone : dropStart? ['-'] (blank ++ (word ++ arguments)) = none := by
        rw [dropStart?_eq_none_iff]
        rintro ⟨r, hr⟩
        cases blank with
        | nil =>
            simp only [keywords, List.mem_cons, List.not_mem_nil, or_false] at hword
            rcases hword with rfl | rfl | rfl <;> simp at hr
        | cons c blank =>
            obtain rfl : '-' = c := (List.cons.inj hr).1
            cases (List.all_eq_true.mp hblank '-' List.mem_cons_self)
      simp [hnone]
    · have hsome : dropStart? ['-'] (['-'] ++ (blank ++ (word ++ arguments))) =
          some (blank ++ (word ++ arguments)) := dropStart?_eq_some_iff.mpr rfl
      simpa using congrArg (Option.getD · _) hsome
  have hstart : trimStart (word ++ arguments) = word ++ arguments := by
    simp only [keywords, List.mem_cons, List.not_mem_nil, or_false] at hword
    rcases hword with rfl | rfl | rfl <;> rfl
  unfold opening?
  rw [hopened]
  simp only [bind, Option.bind_some]
  rw [hinner, trimStart_append_of_blank hblank, hstart, afterKeyword?_append hword harguments]

/-! ## The scan -/

theorem referencesFrom_skip (n : Nat) : referencesFrom n t = referencesFrom 0 (t.drop n) := by
  induction t generalizing n with
  | nil => cases n <;> rfl
  | cons c t ih =>
      cases n with
      | zero => rfl
      | succ n => exact ih n

theorem referencesFrom_of_opening (h : opening? t = some (inside ++ tagClose ++ rest))
    (hinside : FirstAfter inside tagClose) :
    referencesFrom 0 t = literals 0 inside ++ referencesFrom 0 rest := by
  obtain ⟨init, last, rfl, -, -⟩ := exists_of_opening? h
  have htag : referringTag? ('\x7b' :: (init ++ last :: (inside ++ tagClose ++ rest))) =
      some ((dropStop? ['-'] inside).getD inside, rest) := by
    rw [referringTag?_eq, h, Option.bind_some,
      splitOnce?_append tagClose_ne_nil hinside]
    rfl
  rw [referencesFrom, htag]
  dsimp only
  rw [literals_dropStop, referencesFrom_skip]
  have hsplit : init ++ last :: (inside ++ tagClose ++ rest) =
      (init ++ last :: (inside ++ tagClose)) ++ rest := by simp
  rw [hsplit, List.length_append, Nat.add_sub_cancel, List.drop_left]

theorem referencesFrom_of_no_opening (h : opening? (c :: t) = none) :
    referencesFrom 0 (c :: t) = referencesFrom 0 t := by
  rw [referencesFrom, referringTag?_eq, h]
  rfl

theorem infix_opening_iff {init x : Text} {last : Char} (hlast : last ≠ '%')
    (hall : ∀ c ∈ init ++ [last], IsOpening c) :
    tagClose <:+: '\x7b' :: (init ++ last :: x) ↔ tagClose <:+: x := by
  have hout : last ∉ tagClose := by
    have hne := (hall last (by simp)).2.1
    simp [tagClose, hlast, hne]
  have hinit : ¬ tagClose <:+: init := fun hin => by
    have hmem : '\x7d' ∈ init := hin.subset (by simp [tagClose])
    exact (hall _ (List.mem_append_left _ hmem)).2.1 rfl
  rw [infix_cons_iff_of_not_mem (by decide), infix_append_cons_iff tagClose_ne_nil hout]
  simp [hinit]

/-- The beginning of a tag before another tag ends before that. -/
theorem exists_of_opening?_append (h : opening? (c :: (before ++ rest)) = some arguments)
    (hrest : rest.head? = some '\x7b') : ∃ init last x, before = init ++ last :: x ∧
      arguments = x ++ rest ∧ c = '\x7b' ∧ last ≠ '%' ∧ ∀ d ∈ init ++ [last], IsOpening d := by
  obtain ⟨init, last, hsplit, hlast, hall⟩ := exists_of_opening? h
  obtain ⟨rfl, hsplit⟩ := List.cons.inj hsplit
  have hparts : before ++ rest = (init ++ [last]) ++ arguments := by simpa using hsplit
  rcases List.append_eq_append_iff.mp hparts with ⟨y, hbegin, hend⟩ | ⟨x, hbegin, hend⟩
  · -- the two do not overlap: only its first character is a brace
    cases y with
    | nil =>
        refine ⟨init, last, [], by simpa using hbegin.symm, by simpa using hend.symm, rfl, hlast,
          hall⟩
    | cons d y =>
        obtain rfl : d = '\x7b' := by simpa [hend] using hrest
        exact absurd rfl (hall _ (by simp [hbegin])).1
  · exact ⟨init, last, x, by simpa using hbegin, hend, rfl, hlast, hall⟩

/-- What looks like the beginning of a tag, and takes the tag after it for a part of itself, still
has the quoted parts of that tag if all quotes before it are closed. -/
theorem mem_referencesFrom_of_closed {x : Text} (hopening : opening? t = some (x ++ rest))
    (hrest : opening? rest = some (inside ++ tagClose ++ after))
    (hinside : ¬ tagClose <:+: inside) (hends : ¬ tagClose <:+: x) (hclosed : Closed x) :
    ∀ n ∈ literals 0 inside, n ∈ referencesFrom 0 t := by
  obtain ⟨init, last, rfl, hlast, hall⟩ := exists_of_opening? hrest
  have harguments : x ++ '\x7b' :: (init ++ last :: (inside ++ tagClose ++ after)) =
      (x ++ '\x7b' :: (init ++ last :: inside)) ++ tagClose ++ after := by simp
  have hnot : ¬ tagClose <:+: x ++ '\x7b' :: (init ++ last :: inside) := by
    rw [infix_append_cons_iff tagClose_ne_nil (by decide), not_or]
    refine ⟨hends, fun hin => hinside ?_⟩
    exact (infix_opening_iff hlast hall).mp (hin.trans (List.suffix_cons _ _).isInfix)
  have hbegins : Closed (x ++ '\x7b' :: (init ++ [last])) :=
    hclosed.append (closed_of_forall (forall_not_quote hall))
  have hliterals := hbegins.literals_append (u := inside)
  simp only [List.append_assoc, List.cons_append, List.nil_append] at hliterals
  rw [harguments] at hopening
  intro n hmem
  rw [referencesFrom_of_opening hopening (firstAfter_tagClose hnot), hliterals]
  exact List.mem_append_left _ (List.mem_append_right _ hmem)

/-- What is quoted in a tag is found if what looks like the beginning of a tag before it ends
before it, or has its quotes closed before it. -/
theorem mem_referencesFrom (hrest : opening? rest = some (inside ++ tagClose ++ after))
    (hinside : ¬ tagClose <:+: inside) (hbefore : ∀ x, x <:+ before →
      (opening? (x ++ rest)).isSome → tagClose <:+: x ∨ Closed x) :
    ∀ n ∈ literals 0 inside, n ∈ referencesFrom 0 (before ++ rest) := by
  -- on the length of what is before the tag, of which the scan may leave a part out
  induction hn : before.length using Nat.strong_induction_on generalizing before with
  | _ len ih =>
      cases before with
      | nil =>
          intro n hmem
          rw [List.nil_append, referencesFrom_of_opening hrest (firstAfter_tagClose hinside)]
          exact List.mem_append_left _ hmem
      | cons c before =>
          have hsuffix : ∀ b, b <:+ before → ∀ x, x <:+ b → (opening? (x ++ rest)).isSome →
              tagClose <:+: x ∨ Closed x := fun b hb x hx =>
            hbefore x ((hx.trans hb).trans (List.suffix_cons c before))
          rw [List.cons_append]
          cases hopening : opening? (c :: (before ++ rest)) with
          | none =>
              rw [referencesFrom_of_no_opening hopening]
              exact ih before.length (by simp [← hn]) (hsuffix before List.suffix_rfl) rfl
          | some arguments =>
              obtain ⟨init', last', hhead, -⟩ := exists_of_opening? hrest
              obtain ⟨init, last, x, rfl, rfl, rfl, hlast, hall⟩ :=
                exists_of_opening?_append hopening (by rw [hhead, List.head?_cons])
              by_cases hends : tagClose <:+: x
              · -- the scan goes on before the tag
                obtain ⟨a, b, rfl, ha⟩ := exists_firstAfter hends
                rw [List.append_assoc (a ++ tagClose) b rest] at hopening
                have hb : b <:+ init ++ last :: (a ++ tagClose ++ b) :=
                  ⟨init ++ last :: (a ++ tagClose), by simp⟩
                have hlen : b.length < len := by
                  rw [← hn]
                  simp only [List.length_cons, List.length_append]
                  omega
                intro n hmem
                rw [referencesFrom_of_opening hopening ha]
                exact List.mem_append_right _ (ih b.length hlen (hsuffix b hb) rfl n hmem)
              · have hself := hbefore _ List.suffix_rfl (Option.isSome_of_eq_some hopening)
                rw [infix_opening_iff hlast hall] at hself
                have hwhole : Closed (('\x7b' :: (init ++ [last])) ++ x) := by
                  simpa using hself.resolve_left hends
                exact mem_referencesFrom_of_closed hopening hrest hinside hends
                  (hwhole.of_append (forall_not_quote hall))

end TemplateTree.Source
