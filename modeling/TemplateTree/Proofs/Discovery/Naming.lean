import TemplateTree.Discovery.Basic
import TemplateTree.Proofs.Files.Joining

/-!
# The names of templates

A template is named by the names on the way from the template directory, with
slashes between, however that directory is spelled.  Different files have different
names.
-/

namespace TemplateTree

namespace Path

variable {dir p : Path} {names ss pre : List Text} {x s : Text}

theorem isIdle_of_isName (hx : x.IsName) : isIdle x = false := by
  simp [isIdle, hx.1, hx.2.2.1]

theorem joinWith_injective {names' : List Text} (hne : names ≠ []) (hne' : names' ≠ [])
    (h : ∀ x ∈ names, x.IsName) (h' : ∀ x ∈ names', x.IsName)
    (heq : Text.joinWith ['/'] names = Text.joinWith ['/'] names') : names = names' := by
  rw [← splitWhere_joinWith hne fun x hx => (h x hx).2.1, heq,
    splitWhere_joinWith hne' fun x hx => (h' x hx).2.1]

theorem names_joinWith (hne : names ≠ []) (h : ∀ x ∈ names, x.IsName) :
    Path.names (Text.joinWith ['/'] names) = names := by
  rw [Path.names, splitWhere_joinWith hne fun x hx => (h x hx).2.1, List.filter_eq_self]
  intro x hx
  simp [isIdle_of_isName (h x hx)]

theorem head?_joinWith (hx : x.IsName) :
    (Text.joinWith ['/'] (x :: names)).head? = x.head? := by
  obtain ⟨c, r, rfl⟩ := List.exists_cons_of_ne_nil hx.1
  cases names <;> rfl

theorem isAbsolute_joinWith (hne : names ≠ []) (h : ∀ x ∈ names, x.IsName) :
    isAbsolute (Text.joinWith ['/'] names) = false := by
  obtain ⟨x, names, rfl⟩ := List.exists_cons_of_ne_nil hne
  have hx := h x List.mem_cons_self
  have habs := isAbsolute_of_isName hx
  rwa [isAbsolute, head?_joinWith hx, ← isAbsolute]

theorem startsHere_eq_true_iff :
    startsHere p = true ↔ ∃ r, Text.splitWhere (· = '/') p = ['.'] :: r := by
  unfold startsHere
  split
  case h_1 => exact ⟨fun _ => ⟨[], rfl⟩, fun _ => rfl⟩
  case h_2 r =>
    refine ⟨fun _ => ⟨Text.splitWhere (· = '/') r, ?_⟩, fun _ => rfl⟩
    have hdot := splitWhere_append_slash ['.'] r
    exact hdot
  case h_3 h₁ h₂ =>
    refine ⟨fun h => (by cases h), fun ⟨r, hr⟩ => ?_⟩
    cases p with
    | nil => simp [Text.splitWhere] at hr
    | cons c p =>
        by_cases hc : c = '/'
        · simp [hc, splitWhere_slash] at hr
        · obtain ⟨a, as, has⟩ := List.exists_cons_of_ne_nil (Text.splitWhere_ne_nil (· = '/') p)
          rw [splitWhere_cons hc, has, List.modifyHead_cons] at hr
          obtain ⟨⟨rfl, rfl⟩, -⟩ : (c = '.' ∧ a = []) ∧ as = r := by simpa using hr
          cases p with
          | nil => exact absurd rfl h₁
          | cons d p =>
              by_cases hd : d = '/'
              · exact absurd (by rw [hd]) (h₂ p)
              · obtain ⟨b, bs, hbs⟩ :=
                  List.exists_cons_of_ne_nil (Text.splitWhere_ne_nil (· = '/') p)
                rw [splitWhere_cons hd, hbs, List.modifyHead_cons] at has
                simp at has

theorem startsHere_joinWith (hne : names ≠ []) (h : ∀ x ∈ names, x.IsName) :
    startsHere (Text.joinWith ['/'] names) = false := by
  rw [Bool.eq_false_iff]
  intro hstart
  obtain ⟨r, hr⟩ := startsHere_eq_true_iff.mp hstart
  rw [splitWhere_joinWith hne fun x hx => (h x hx).2.1] at hr
  exact (h ['.'] (by simp [hr])).2.2.1 rfl

theorem steps_joinWith (hne : names ≠ []) (h : ∀ x ∈ names, x.IsName) :
    steps (Text.joinWith ['/'] names) = names.map PathStep.name := by
  rw [steps_eq, isAbsolute_joinWith hne h, startsHere_joinWith hne h, names_joinWith hne h]
  simp only [Bool.false_eq_true, if_false, List.nil_append]
  refine List.map_congr_left fun x hx => ?_
  simp [segmentStep, (h x hx).2.2.2.1]

/-! ## Paths below a directory -/

/-- The segments of a directory's path, and then the names. -/
theorem splitWhere_foldl_join (hdir : dir ≠ []) (hne : names ≠ []) (h : ∀ x ∈ names, x.IsName) :
    ∃ pre, pre ≠ [] ∧ Text.splitWhere (· = '/') (names.foldl join dir) = pre ++ names ∧
      (Text.splitWhere (· = '/') dir = pre ∨ Text.splitWhere (· = '/') dir = pre ++ [[]]) := by
  induction names generalizing dir with
  | nil => exact absurd rfl hne
  | cons x names ih =>
      have hx := h x List.mem_cons_self
      have hfirst : ∃ pre, pre ≠ [] ∧ Text.splitWhere (· = '/') (join dir x) = pre ++ [x] ∧
          (Text.splitWhere (· = '/') dir = pre ∨ Text.splitWhere (· = '/') dir = pre ++ [[]]) := by
        obtain ⟨-, rfl⟩ | ⟨⟨r, rfl⟩, hjoin⟩ | hjoin := join_eq (p := dir) (isAbsolute_of_isName hx)
        · exact absurd rfl hdir
        · refine ⟨Text.splitWhere (· = '/') r, Text.splitWhere_ne_nil (· = '/') r, ?_, .inr ?_⟩
          · rw [hjoin, List.append_assoc, List.singleton_append, splitWhere_append_slash,
              splitWhere_of_not_mem hx.2.1]
          · exact splitWhere_append_slash r []
        · refine ⟨Text.splitWhere (· = '/') dir, Text.splitWhere_ne_nil (· = '/') dir, ?_, .inl rfl⟩
          rw [hjoin, splitWhere_append_slash, splitWhere_of_not_mem hx.2.1]
      obtain ⟨pre, hpre, hsplit, hend⟩ := hfirst
      cases names with
      | nil => exact ⟨pre, hpre, hsplit, hend⟩
      | cons y names =>
          obtain ⟨pre', hpre', hsplit', hend'⟩ := ih (join_ne_nil (p := dir) hx.1)
            (List.cons_ne_nil _ _) fun z hz => h z (List.mem_cons_of_mem _ hz)
          refine ⟨pre, hpre, ?_, hend⟩
          rw [List.foldl_cons, hsplit']
          obtain heq | heq := hend'
          · rw [← heq, hsplit, List.append_assoc, List.singleton_append]
          · rw [hsplit] at heq
            have hlast := congrArg List.getLast? heq
            simp only [List.getLast?_append, List.getLast?_singleton, Option.some_or] at hlast
            exact absurd (Option.some.inj hlast) hx.1

theorem names_foldl_join (hdir : dir ≠ []) (hne : names ≠ []) (h : ∀ x ∈ names, x.IsName) :
    Path.names (names.foldl join dir) = Path.names dir ++ names := by
  obtain ⟨pre, -, hsplit, hend⟩ := splitWhere_foldl_join hdir hne h
  have hnames : names.filter (fun s => !isIdle s) = names :=
    List.filter_eq_self.mpr fun x hx => by simp [isIdle_of_isName (h x hx)]
  have hpre : Path.names dir = pre.filter fun s => !isIdle s := by
    obtain hend | hend := hend <;> simp [Path.names, hend, isIdle]
  rw [Path.names, hsplit, List.filter_append, hnames, hpre]

theorem startsHere_foldl_join (hdir : dir ≠ []) (hne : names ≠ [])
    (h : ∀ x ∈ names, x.IsName) : startsHere (names.foldl join dir) = startsHere dir := by
  obtain ⟨pre, hpre, hsplit, hend⟩ := splitWhere_foldl_join hdir hne h
  obtain ⟨s, pre, rfl⟩ := List.exists_cons_of_ne_nil hpre
  rw [Bool.eq_iff_iff, startsHere_eq_true_iff, startsHere_eq_true_iff, hsplit]
  obtain hend | hend := hend <;> simp [hend]

theorem steps_foldl_join (hdir : dir ≠ []) (hne : names ≠ []) (h : ∀ x ∈ names, x.IsName) :
    steps (names.foldl join dir) = steps dir ++ names.map PathStep.name := by
  have hmap : names.map segmentStep = names.map PathStep.name :=
    List.map_congr_left fun x hx => by simp [segmentStep, (h x hx).2.2.2.1]
  rw [steps_eq, steps_eq, names_foldl_join hdir hne h, startsHere_foldl_join hdir hne h,
    isAbsolute_foldl_join hdir h, List.map_append, hmap, List.append_assoc]

theorem steps_ne_nil (hdir : dir ≠ []) : steps dir ≠ [] := by
  rw [steps_eq]
  obtain ⟨c, r, rfl⟩ := List.exists_cons_of_ne_nil hdir
  by_cases hc : c = '/'
  · simp [isAbsolute, hc]
  · obtain ⟨a, as, has⟩ := List.exists_cons_of_ne_nil (Text.splitWhere_ne_nil (· = '/') r)
    have hsplit : Text.splitWhere (· = '/') (c :: r) = (c :: a) :: as := by
      rw [splitWhere_cons hc, has, List.modifyHead_cons]
    by_cases hdot : c :: a = ['.']
    · have hhere : startsHere (c :: r) = true :=
        startsHere_eq_true_iff.mpr ⟨as, by rw [hsplit, hdot]⟩
      simp [hhere, isAbsolute, hc]
    · have hname : isIdle (c :: a) = false := by simp [isIdle, hdot]
      simp [Path.names, hsplit, hname]

theorem dropWhile_afterNames_cons {k : Nat} (hs : isIdle s = true) :
    (afterNames k (s :: ss)).dropWhile isIdle = (afterNames k ss).dropWhile isIdle := by
  cases k with
  | zero => simp [afterNames, hs]
  | succ k => simp [afterNames, hs]

/-- The lead of a path makes no difference after names. -/
theorem dropWhile_afterNames_segments {k : Nat} : (afterNames k (segments p)).dropWhile isIdle =
    (afterNames k (Text.splitWhere (· = '/') p)).dropWhile isIdle := by
  unfold segments lead
  split
  case isTrue habs =>
    obtain ⟨r, rfl⟩ : ∃ r, p = '/' :: r := by
      cases p with
      | nil => simp [isAbsolute] at habs
      | cons c r => exact ⟨r, by simpa [isAbsolute] using habs⟩
    rw [splitWhere_slash, dropWhile_afterNames_cons (by rfl)]
    rfl
  case isFalse =>
    split
    case isTrue hhere =>
      unfold startsHere at hhere
      split at hhere
      case h_1 =>
        have hnil : Text.splitWhere (· = '/') [] = [[]] := rfl
        have hdot : Text.splitWhere (· = '/') ['.'] = [['.']] := rfl
        rw [hdot, dropWhile_afterNames_cons (by rfl)]
        exact dropWhile_afterNames_cons (by rfl)
      case h_2 =>
        rename_i r _
        have hdot : Text.splitWhere (· = '/') ('.' :: '/' :: r) =
            ['.'] :: Text.splitWhere (· = '/') r := splitWhere_append_slash ['.'] r
        rw [hdot, dropWhile_afterNames_cons (by rfl), List.length_singleton, List.drop_one,
          List.tail_cons, splitWhere_slash]
        exact dropWhile_afterNames_cons (by rfl)
      case h_3 => cases hhere
    case isFalse => rfl

theorem dropWhile_afterNames_append (h : ∀ x ∈ names, x.IsName) :
    (afterNames (pre.filter fun s => !isIdle s).length (pre ++ names)).dropWhile isIdle =
      names := by
  induction pre with
  | nil =>
      cases names with
      | nil => rfl
      | cons x names => simp [afterNames, isIdle_of_isName (h x List.mem_cons_self)]
  | cons s pre ih =>
      cases hs : isIdle s with
      | true => rwa [List.filter_cons_of_neg (by simp [hs]), List.cons_append,
          dropWhile_afterNames_cons hs]
      | false =>
          rw [List.filter_cons_of_pos (by simp [hs]), List.length_cons, List.cons_append]
          simpa [afterNames, hs] using ih

theorem trimSegments_of_isName (h : ∀ x ∈ names, x.IsName) : trimSegments names = names := by
  rw [trimSegments]
  cases hrev : names.reverse with
  | nil => simpa using congrArg List.reverse hrev.symm
  | cons x rest =>
      have hx := h x (List.mem_reverse.mp (by simp [hrev]))
      rw [List.dropWhile_cons_of_neg (by simp [isIdle_of_isName hx]), ← hrev,
        List.reverse_reverse]

/-- What is below a directory is left of a path that starts with it. -/
theorem dropBase?_foldl_join (hdir : dir ≠ []) (hne : names ≠ []) (h : ∀ x ∈ names, x.IsName) :
    dropBase? dir (names.foldl join dir) = some (Text.joinWith ['/'] names) := by
  obtain ⟨pre, -, hsplit, hend⟩ := splitWhere_foldl_join hdir hne h
  have hprefix : (steps dir).isPrefixOf (steps (names.foldl join dir)) = true := by
    rw [List.isPrefixOf_iff_prefix, steps_foldl_join hdir hne h]
    exact List.prefix_append _ _
  have hcount : ((steps dir).filter fun s => s ≠ .root && s ≠ .here).length =
      (pre.filter fun s => !isIdle s).length := by
    have hpre : Path.names dir = pre.filter fun s => !isIdle s := by
      obtain hend | hend := hend <;> simp [Path.names, hend, isIdle]
    have hkept : ((Path.names dir).map segmentStep).filter
        (fun s => s ≠ .root && s ≠ .here) = (Path.names dir).map segmentStep := by
      refine List.filter_eq_self.mpr fun step hstep => ?_
      obtain ⟨s, -, rfl⟩ := List.mem_map.mp hstep
      unfold segmentStep
      split <;> rfl
    rw [steps_eq, List.filter_append, hkept, List.length_append, List.length_map, hpre]
    split
    · simp
    · split <;> simp
  have hrest : (afterNames ((steps dir).filter fun s => s ≠ .root && s ≠ .here).length
      (segments (names.foldl join dir))).dropWhile isIdle = names := by
    rw [dropWhile_afterNames_segments, hsplit, hcount, dropWhile_afterNames_append h]
  simp only [dropBase?, if_neg (steps_ne_nil hdir), hprefix, if_true, hrest,
    trimSegments_of_isName h, assemble, List.nil_append]

end Path

namespace TemplateFile

variable {dir : Path} {names : List Text}

theorem nameBelow_foldl_join (hdir : dir ≠ []) (hne : names ≠ []) (h : ∀ x ∈ names, x.IsName) :
    nameBelow dir (names.foldl Path.join dir) = Text.joinWith ['/'] names := by
  rw [nameBelow, Path.dropBase?_foldl_join hdir hne h, Option.getD_some,
    Path.steps_joinWith hne h, List.filterMap_map]
  exact congrArg _ List.filterMap_some

theorem name_ofPath (hdir : dir ≠ []) (hne : names ≠ []) (h : ∀ x ∈ names, x.IsName)
    (stencil : Text) :
    (ofPath dir stencil (names.foldl Path.join dir)).name = Text.joinWith ['/'] names :=
  nameBelow_foldl_join hdir hne h

/-- Files with the same name are the same file. -/
theorem eq_of_name_eq {names' : List Text} (hdir : dir ≠ []) (hne : names ≠ [])
    (hne' : names' ≠ []) (h : ∀ x ∈ names, x.IsName) (h' : ∀ x ∈ names', x.IsName)
    {stencil : Text} (heq : (ofPath dir stencil (names.foldl Path.join dir)).name =
      (ofPath dir stencil (names'.foldl Path.join dir)).name) : names = names' := by
  rw [name_ofPath hdir hne h, name_ofPath hdir hne' h'] at heq
  exact Path.joinWith_injective hne hne' h h' heq

end TemplateFile

end TemplateTree
