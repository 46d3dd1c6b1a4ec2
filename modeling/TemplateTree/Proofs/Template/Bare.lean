import TemplateTree.Proofs.Template.Outcomes
import TemplateTree.Proofs.Template.Refusals

/-!
# What reading sees of a tree

Reading a tree does not look at the places of rules, nor at the texts of constructs that hold
others.  It stops short only if the tree is too high.
-/

namespace TemplateTree

namespace ParseTree

variable {ρ : Type} {covered : ρ → Bool} {t u : ParseTree ρ} {ts : List (ParseTree ρ)}

mutual

/-- A tree without places, and without the texts of the rules at its top that are covered. -/
def bare (covered : ρ → Bool) : ParseTree ρ → ParseTree ρ
  | .node r _ t ts =>
    if covered r then .node r 0 [] (bareIn covered ts) else .node r 0 t (bareIn (fun _ => false) ts)

/-- Trees without places, and without the texts of the rules at their tops that are covered. -/
def bareIn (covered : ρ → Bool) : List (ParseTree ρ) → List (ParseTree ρ)
  | [] => []
  | t :: ts => bare covered t :: bareIn covered ts

end

def unplaced (t : ParseTree ρ) : ParseTree ρ :=
  t.bare fun _ => false

theorem bareIn_eq (covered : ρ → Bool) (ts : List (ParseTree ρ)) :
    bareIn covered ts = ts.map (bare covered) := by
  induction ts with
  | nil => rfl
  | cons t ts ih => rw [bareIn, ih, List.map_cons]

@[simp] theorem rule_bare (covered : ρ → Bool) (t : ParseTree ρ) :
    (t.bare covered).rule = t.rule := by
  cases t
  rw [bare]
  split <;> rfl

theorem bare_of_not_covered (h : covered t.rule = false) : t.bare covered = t.unplaced := by
  cases t
  rw [unplaced, bare, bare, if_neg (by simpa [rule] using h), if_neg Bool.false_ne_true]

/-- What is covered inside a tree. -/
def coveredIn (covered : ρ → Bool) (r : ρ) : ρ → Bool :=
  if covered r then covered else fun _ => false

theorem inner_bare (covered : ρ → Bool) (t : ParseTree ρ) :
    (t.bare covered).inner = t.inner.map (bare (coveredIn covered t.rule)) := by
  obtain ⟨r, p, w, ts⟩ := t
  by_cases h : covered r = true
  · rw [bare, if_pos h, coveredIn, rule, if_pos h]
    exact bareIn_eq _ _
  · rw [bare, if_neg h, coveredIn, rule, if_neg h]
    exact bareIn_eq _ _

@[simp] theorem rule_unplaced (t : ParseTree ρ) : t.unplaced.rule = t.rule :=
  rule_bare _ t

@[simp] theorem text_unplaced (t : ParseTree ρ) : t.unplaced.text = t.text := by
  cases t
  rw [unplaced, bare, if_neg Bool.false_ne_true]
  rfl

@[simp] theorem inner_unplaced (t : ParseTree ρ) : t.unplaced.inner = t.inner.map unplaced :=
  inner_bare _ t

theorem text_bare (h : covered t.rule = false) : (t.bare covered).text = t.text := by
  rw [bare_of_not_covered h, text_unplaced]

mutual

/-- What is covered does not matter where nothing was covered before. -/
theorem bare_unplaced (covered : ρ → Bool) (t : ParseTree ρ) :
    t.unplaced.bare covered = t.bare covered := by
  cases t
  rw [unplaced, bare, if_neg Bool.false_ne_true, bare, bare, bareIn_bareIn, bareIn_bareIn]

theorem bareIn_bareIn (covered : ρ → Bool) (ts : List (ParseTree ρ)) :
    bareIn covered (bareIn (fun _ => false) ts) = bareIn covered ts := by
  cases ts with
  | nil => rfl
  | cons t ts =>
      rw [bareIn, bareIn, bareIn, bareIn_bareIn]
      exact congrArg (· :: _) (bare_unplaced covered t)

end

theorem map_bare_of_map_unplaced {us : List (ParseTree ρ)}
    (h : ts.map unplaced = us.map unplaced) : ts.map (bare covered) = us.map (bare covered) := by
  have hcovered : ∀ vs : List (ParseTree ρ),
      (vs.map unplaced).map (bare covered) = vs.map (bare covered) := by
    intro vs
    rw [List.map_map]
    exact List.map_congr_left fun t _ => bare_unplaced covered t
  rw [← hcovered ts, h, hcovered us]

/-! ## Heights -/

mutual

def height : ParseTree ρ → Nat
  | .node _ _ _ ts => heightOf ts + 1

def heightOf : List (ParseTree ρ) → Nat
  | [] => 0
  | t :: ts => max (height t) (heightOf ts)

end

theorem heightOf_le_iff {n : Nat} : heightOf ts ≤ n ↔ ∀ t ∈ ts, t.height ≤ n := by
  induction ts with
  | nil => simp [heightOf]
  | cons t ts ih => rw [heightOf, Nat.max_le, ih, List.forall_mem_cons]

theorem height_eq (t : ParseTree ρ) : t.height = heightOf t.inner + 1 := by
  cases t
  rw [height, inner]

theorem height_lt_of_mem_inner (h : u ∈ t.inner) : u.height < t.height := by
  rw [height_eq t]
  exact Nat.lt_succ_of_le (heightOf_le_iff.mp le_rfl u h)

end ParseTree

namespace Peg

open ParseTree

variable {ρ : Type} {grammar : ρ → PegRule ρ} {e : Peg ρ} {s : Setting} {i j : Input}
  {ts : List (ParseTree ρ)} {n : Nat}

/-- The trees of a match are no higher than the rules are nested. -/
theorem ComesTo.height_le (h : ComesTo grammar n e s i (some (j, ts))) :
    ∀ t ∈ ts, t.height ≤ n := by
  generalize ho : some (j, ts) = o at h
  induction h generalizing j ts with
  | text | range | any | start | stop | without | done | absent =>
      cases ho
      simp
  | noText | noRange | noAny | noStart | noStop | noFirst | noSecond | present | noRule => cases ho
  | seq _ _ iha ihb =>
      cases ho
      exact List.forall_mem_append.mpr ⟨iha rfl, ihb rfl⟩
  | left _ ih | once _ ih | right _ _ _ ih | last _ _ ih => exact ih ho
  | again _ _ _ iha _ ihrest =>
      cases ho
      exact List.forall_mem_append.mpr ⟨iha rfl, ihrest rfl⟩
  | @rule n r s i j ts _ ih =>
      cases ho
      have hinner := ih rfl
      have hlow : ∀ t ∈ ts, t.height ≤ n + 1 := fun t ht => (hinner t ht).trans (Nat.le_succ n)
      unfold yields treesOf
      split
      · exact hlow
      · split
        · exact hlow
        · refine List.forall_mem_singleton.mpr ?_
          rw [ParseTree.height]
          exact Nat.succ_le_succ (heightOf_le_iff.mpr hinner)

end Peg

namespace Template

open ParseTree

variable {covered : Rule → Bool} {f f' : Nat} {r : Rule} {t u : Tree} {ts : List Tree}

/-! ## Lists of trees -/

theorem mapM_map_congr {α β γ ε : Type} {g : α → β} {read : β → Except ε γ} {read' : α → Except ε γ}
    {as : List α} (h : ∀ a ∈ as, read (g a) = read' a) : (as.map g).mapM read = as.mapM read' := by
  induction as with
  | nil => rfl
  | cons a as ih =>
      rw [List.map_cons, List.mapM_cons, List.mapM_cons, h a List.mem_cons_self,
        ih fun b hb => h b (List.mem_cons_of_mem a hb)]

theorem filter_bare (p : Rule → Bool) (covered : Rule → Bool) (ts : List Tree) :
    (ts.map (bare covered)).filter (fun t => p t.rule) =
      (ts.filter fun t => p t.rule).map (bare covered) := by
  rw [List.filter_map]
  congr 2
  exact funext fun t => congrArg p (rule_bare covered t)

theorem find?_bare (p : Rule → Bool) (covered : Rule → Bool) (ts : List Tree) :
    (ts.map (bare covered)).find? (fun t => p t.rule) =
      (ts.find? fun t => p t.rule).map (bare covered) := by
  rw [List.find?_map]
  congr 2
  exact funext fun t => congrArg p (rule_bare covered t)

theorem has_bare (r : Rule) (covered : Rule → Bool) (ts : List Tree) :
    has r (ts.map (bare covered)) = has r ts := by
  rw [has, has, List.any_map]
  congr 1
  exact funext fun t => congrArg (fun q => decide (q = r)) (rule_bare covered t)

theorem textsOf_bare (hr : covered r = false) (ts : List Tree) :
    textsOf r (ts.map (bare covered)) = textsOf r ts := by
  rw [textsOf, textsOf, filter_bare (fun q => decide (q = r)), List.map_map]
  refine List.map_congr_left fun t ht => text_bare ?_
  rwa [of_decide_eq_true (List.mem_filter.mp ht).2]

theorem textOf_bare (hr : covered r = false) (ts : List Tree) :
    textOf r (ts.map (bare covered)) = textOf r ts := by
  rw [textOf, textOf, textsOf_bare hr]

theorem pairUp_map {α β : Type} (g : α → β) (as : List α) :
    pairUp (as.map g) = (pairUp as).map (Prod.map g g) := by
  fun_induction pairUp as with
  | case1 op x rest ih => rw [List.map_cons, List.map_cons, pairUp, ih, List.map_cons, Prod.map]
  | case2 as hshort =>
      cases as with
      | nil => rfl
      | cons a as =>
          cases as with
          | nil => rfl
          | cons b as => exact absurd rfl (hshort a b as)

/-! ## Expressions -/

/-- Expressions are read alike of trees without places, if there is fuel enough for the
trees. -/
structure ReadsBare (f f' : Nat) : Prop where
  term : ∀ t : Tree, 4 * t.height ≤ f + 1 → 4 * t.height ≤ f' + 1 →
    readTerm f t.unplaced = readTerm f' t
  test : ∀ (negated : Bool) (t : Tree), 4 * t.height ≤ f + 2 → 4 * t.height ≤ f' + 2 →
    readTest f negated t.unplaced = readTest f' negated t
  args : ∀ ts : List Tree, 4 * heightOf ts + 1 ≤ f → 4 * heightOf ts + 1 ≤ f' →
    readArgs f (ts.map unplaced) = readArgs f' ts
  call : ∀ t : Tree, 4 * t.height ≤ f + 2 → 4 * t.height ≤ f' + 2 →
    readCall f t.unplaced = readCall f' t
  expr : ∀ t : Tree, 4 * t.height ≤ f → 4 * t.height ≤ f' → readExpr f t.unplaced = readExpr f' t
  filtered : ∀ t : Tree, 4 * t.height ≤ f + 1 → 4 * t.height ≤ f' + 1 →
    readFiltered f t.unplaced = readFiltered f' t

theorem height_pos (t : Tree) : 0 < t.height := by
  rw [height_eq]
  exact Nat.succ_pos _

theorem filter_unplaced (p : Rule → Bool) (ts : List Tree) :
    (ts.map unplaced).filter (fun t => p t.rule) =
      (ts.filter fun t => p t.rule).map unplaced :=
  filter_bare p _ ts

theorem textOf_unplaced (r : Rule) (ts : List Tree) : textOf r (ts.map unplaced) = textOf r ts :=
  textOf_bare rfl ts

theorem has_unplaced (r : Rule) (ts : List Tree) : has r (ts.map unplaced) = has r ts :=
  has_bare r _ ts

theorem textsOf_unplaced (r : Rule) (ts : List Tree) :
    textsOf r (ts.map unplaced) = textsOf r ts :=
  textsOf_bare rfl ts

/-- The operands of a list of operators are read alike if the trees are. -/
theorem pairUp_unplaced {α β : Type} {op : Rule → α} {read read' : Tree → Except IntegerOverflow β}
    (h : ∀ u ∈ ts, read u.unplaced = read' u) :
    ((pairUp (ts.map unplaced)).mapM fun (o, x) => do return (op o.rule, ← read x)) =
      (pairUp ts).mapM fun (o, x) => do return (op o.rule, ← read' x) := by
  rw [pairUp_map]
  refine mapM_map_congr fun p hp => ?_
  obtain ⟨o, x⟩ := p
  simp only [Prod.map, rule_unplaced, h x (mem_of_mem_pairUp hp)]

section

variable (ih : ReadsBare f f')
include ih

theorem readTerm_unplaced (h : 4 * t.height ≤ f + 2) (h' : 4 * t.height ≤ f' + 2) :
    readTerm (f + 1) t.unplaced = readTerm (f' + 1) t := by
  have hinner : ∀ u ∈ t.inner, 4 * u.height ≤ f ∧ 4 * u.height ≤ f' := fun u hu => by
    have := height_lt_of_mem_inner hu
    omega
  have hterm : ∀ u ∈ t.inner, readTerm f u.unplaced = readTerm f' u := fun u hu =>
    ih.term u ((hinner u hu).1.trans (Nat.le_succ f)) ((hinner u hu).2.trans (Nat.le_succ f'))
  have hexpr : ∀ u ∈ t.inner, readExpr f u.unplaced = readExpr f' u := fun u hu =>
    ih.expr u (hinner u hu).1 (hinner u hu).2
  have hargs : readArgs f (t.inner.map unplaced) = readArgs f' t.inner := by
    have := height_eq t
    exact ih.args _ (by omega) (by omega)
  rw [readTerm, readTerm, rule_unplaced]
  simp only [text_unplaced, inner_unplaced, ih.call t h h', ih.test _ t h h', textsOf_unplaced,
    hargs, mapM_map_congr hterm, mapM_map_congr hexpr]
  cases hrule : t.rule
  case basicExpr =>
    cases hinner : t.inner with
    | nil => rfl
    | cons first rest =>
        have hfirst := hterm first (by simp [hinner])
        have hrest : ∀ u ∈ rest, readTerm f u.unplaced = readTerm f' u := fun u hu =>
          hterm u (by simp [hinner, hu])
        simp only [List.map_cons, hfirst, pairUp_unplaced hrest]
  all_goals rfl

theorem readTest_unplaced (negated : Bool) (h : 4 * t.height ≤ f + 3)
    (h' : 4 * t.height ≤ f' + 3) :
    readTest (f + 1) negated t.unplaced = readTest (f' + 1) negated t := by
  have hcalls : ((t.inner.map unplaced).filter fun u => u.rule = .testCall).flatMap
      ParseTree.inner =
        ((t.inner.filter fun u => u.rule = .testCall).flatMap ParseTree.inner).map unplaced := by
    rw [filter_unplaced fun r => decide (r = .testCall), List.flatMap_map, List.map_flatMap]
    simp only [inner_unplaced]
  rw [readTest, readTest, inner_unplaced, hcalls, filter_unplaced fun r => decide (r = .testArg)]
  simp only [textOf_unplaced]
  congr 1
  refine mapM_map_congr fun u hu => ?_
  obtain ⟨v, hv, hmem⟩ := List.mem_flatMap.mp (List.mem_of_mem_filter hu)
  have hlt := height_lt_of_mem_inner (List.mem_of_mem_filter hv)
  have hlt' := height_lt_of_mem_inner hmem
  rw [inner_unplaced]
  cases hinner : u.inner with
  | nil => rfl
  | cons e rest =>
      have hlow := height_lt_of_mem_inner (t := u) (u := e) (by simp [hinner])
      exact ih.expr e (by omega) (by omega)

theorem readArgs_unplaced (h : 4 * heightOf ts ≤ f) (h' : 4 * heightOf ts ≤ f') :
    readArgs (f + 1) (ts.map unplaced) = readArgs (f' + 1) ts := by
  rw [readArgs, readArgs, filter_unplaced fun r => decide (r = .kwarg)]
  congr 1
  refine mapM_map_congr fun u hu => ?_
  have hle := heightOf_le_iff.mp le_rfl u (List.mem_of_mem_filter hu)
  have hexpr : ∀ e ∈ u.inner, readExpr f e.unplaced = readExpr f' e := fun e he => by
    have := height_lt_of_mem_inner he
    exact ih.expr e (by omega) (by omega)
  rw [inner_unplaced]
  rcases hinner : u.inner with _ | ⟨name, _ | ⟨e, _ | ⟨more, rest⟩⟩⟩
  case cons.cons.nil =>
    simp only [List.map_cons, List.map_nil, text_unplaced, hexpr e (by simp [hinner])]
  all_goals rfl

theorem readCall_unplaced (h : 4 * t.height ≤ f + 3) (h' : 4 * t.height ≤ f' + 3) :
    readCall (f + 1) t.unplaced = readCall (f' + 1) t := by
  have hargs : readArgs f (t.inner.map unplaced) = readArgs f' t.inner := by
    have := height_eq t
    exact ih.args _ (by omega) (by omega)
  rw [readCall, readCall, rule_unplaced, text_unplaced, inner_unplaced, hargs, textOf_unplaced]

theorem readFiltered_unplaced (h : 4 * t.height ≤ f + 2) (h' : 4 * t.height ≤ f' + 2) :
    readFiltered (f + 1) t.unplaced = readFiltered (f' + 1) t := by
  have hinner : ∀ u ∈ t.inner, 4 * u.height ≤ f ∧ 4 * u.height ≤ f' := fun u hu => by
    have := height_lt_of_mem_inner hu
    omega
  rw [readFiltered, readFiltered, inner_unplaced]
  cases ht : t.inner with
  | nil => rfl
  | cons first rest =>
      have hfirst := hinner first (by simp [ht])
      have hterm := ih.term first (hfirst.1.trans (Nat.le_succ f)) (hfirst.2.trans (Nat.le_succ f'))
      have hfilters : (rest.map unplaced).filterMap (fun u => u.inner.head?) =
          (rest.filterMap fun u => u.inner.head?).map unplaced := by
        rw [List.filterMap_map, List.map_filterMap]
        refine List.filterMap_congr fun u _ => ?_
        rw [Function.comp_apply, inner_unplaced, List.head?_map]
      have hcalls : ∀ u ∈ rest.filterMap fun u => u.inner.head?,
          readCall f u.unplaced = readCall f' u := by
        intro u hu
        obtain ⟨v, hv, hhead⟩ := List.mem_filterMap.mp hu
        have hbound := hinner v (by simp [ht, hv])
        have hlt := height_lt_of_mem_inner (List.mem_of_mem_head? hhead)
        exact ih.call u (by omega) (by omega)
      simp only [List.map_cons, hterm, hfilters, mapM_map_congr hcalls]

theorem readExpr_unplaced (h : 4 * t.height ≤ f + 1) (h' : 4 * t.height ≤ f' + 1) :
    readExpr (f + 1) t.unplaced = readExpr (f' + 1) t := by
  have hinner : ∀ u ∈ t.inner, readExpr f u.unplaced = readExpr f' u := fun u hu => by
    have := height_lt_of_mem_inner hu
    exact ih.expr u (by omega) (by omega)
  have hoperands : ∀ u ∈ t.inner.filter (fun u => u.rule ≠ .opNot),
      readExpr f u.unplaced = readExpr f' u := fun u hu => hinner u (List.mem_of_mem_filter hu)
  rw [readExpr, readExpr, rule_unplaced]
  simp only [inner_unplaced, filter_unplaced (fun r => decide (r ≠ .opNot)) t.inner, has_unplaced,
    ih.term t h h', ih.filtered t h h']
  generalize t.inner.filter (fun u => u.rule ≠ .opNot) = operands at hoperands ⊢
  cases hrule : t.rule
  case logicExpr | comparisonExpr | comparisonVal =>
    cases ht : t.inner with
    | nil => rfl
    | cons first rest =>
        have hfirst := hinner first (by simp [ht])
        have hrest : ∀ u ∈ rest, readExpr f u.unplaced = readExpr f' u := fun u hu =>
          hinner u (by simp [ht, hu])
        simp only [List.map_cons, hfirst, pairUp_unplaced hrest]
  case logicVal =>
    cases operands with
    | nil => rfl
    | cons e rest => simp only [List.map_cons, hoperands e List.mem_cons_self]
  case inCond =>
    rcases operands with _ | ⟨l, _ | ⟨r, _ | ⟨more, rest⟩⟩⟩
    case cons.cons.nil =>
      simp only [List.map_cons, List.map_nil, hoperands l (by simp), hoperands r (by simp)]
    all_goals rfl
  case inContainer =>
    cases ht : t.inner with
    | nil => rfl
    | cons e rest => exact hinner e (by simp [ht])
  all_goals rfl

end

theorem readsBare (f f' : Nat) : ReadsBare f f' := by
  induction f generalizing f' with
  | zero =>
      constructor
      all_goals intros
      all_goals first | (have hpos := height_pos ‹Tree›; omega) | omega
  | succ f ih =>
      cases f' with
      | zero =>
          constructor
          all_goals intros
          all_goals first | (have hpos := height_pos ‹Tree›; omega) | omega
      | succ f' =>
          have ih := ih f'
          exact {
            term := fun _ => readTerm_unplaced ih
            test := fun negated _ => readTest_unplaced ih negated
            args := fun _ h h' => readArgs_unplaced ih (Nat.le_of_succ_le_succ h)
              (Nat.le_of_succ_le_succ h')
            call := fun _ => readCall_unplaced ih
            expr := fun _ => readExpr_unplaced ih
            filtered := fun _ => readFiltered_unplaced ih }

/-! ## Pieces -/

/-- The rules whose texts are not read, since they may hold comments: whole templates, comments,
and constructs that hold others. -/
def holdsComments (r : Rule) : Bool :=
  [Rule.template, .commentTag, .contentIf, .blockIf, .macroIf, .forIf, .forBlockIf, .forLoop,
    .blockFor, .filterSection, .blockFilter, .block, .macroDefinition].contains r

/-- Only rules whose texts are not read are covered. -/
def Unread (covered : Rule → Bool) : Prop :=
  ∀ r, holdsComments r = false → covered r = false

theorem unread_holdsComments : Unread holdsComments :=
  fun _ h => h

theorem unread_coveredIn (hc : Unread covered) (r : Rule) : Unread (coveredIn covered r) := by
  intro q hq
  unfold coveredIn
  split
  · exact hc q hq
  · rfl

section

variable (hc : Unread covered)
include hc

theorem find?_bare_any {p : Rule → Bool} {q : Tree → Bool} (hp : ∀ r, p r = true →
    holdsComments r = false) (hq : ∀ t u : Tree, t.text = u.text → q t = q u) (ts : List Tree) :
    ((ts.map (bare covered)).find? fun t => p t.rule).any q =
      (ts.find? fun t => p t.rule).any q := by
  rw [find?_bare]
  cases hfind : ts.find? fun t => p t.rule with
  | none => rfl
  | some t =>
      have hrule : p t.rule = true := List.find?_some (p := fun t : Tree => p t.rule) hfind
      exact hq _ _ (text_bare (hc _ (hp _ hrule)))

theorem trimOf_bare (ts : List Tree) : trimOf (ts.map (bare covered)) = trimOf ts := by
  have hopens := find?_bare_any hc
    (p := fun r => r = .tagStart || r = .variableStart || r = .commentStart)
    (q := fun t => t.text.getLast? = some '-')
    (by intro r; cases r <;> decide) (fun t u h => by rw [h]) ts
  have hcloses := find?_bare_any hc
    (p := fun r => r = .tagEnd || r = .variableEnd || r = .commentEnd)
    (q := fun t => t.text.head? = some '-')
    (by intro r; cases r <;> decide) (fun t u h => by rw [h]) ts
  exact congrArg₂ Trim.mk hopens hcloses

theorem outerTrims_bare (ts : List Tree) :
    outerTrims (ts.map (bare covered)) = outerTrims ts := by
  have htrim : ∀ t : Tree, trimOf (t.bare covered).inner = trimOf t.inner := fun t => by
    rw [inner_bare, trimOf_bare (unread_coveredIn hc _)]
  rw [outerTrims, outerTrims, List.head?_map, List.getLast?_map, Option.map_map, Option.map_map]
  simp only [Function.comp_def, htrim]

theorem operandOf_bare (h : 4 * heightOf ts ≤ f) (h' : 4 * heightOf ts ≤ f') :
    operandOf f (ts.map (bare covered)) = operandOf f' ts := by
  unfold operandOf isOperand
  rw [find?_bare fun r => r = .logicExpr || r = .arrayFilter || r = .basicExprFilter]
  cases hfind : ts.find? _ with
  | none => rfl
  | some e =>
      have hrule := List.find?_some hfind
      have hnot : holdsComments e.rule = false := by
        simp only [Bool.or_eq_true, decide_eq_true_eq] at hrule
        rcases hrule with (hr | hr) | hr <;> rw [hr] <;> rfl
      have hle := heightOf_le_iff.mp le_rfl e (List.mem_of_find?_eq_some hfind)
      rw [Option.map_some]
      dsimp only
      rw [bare_of_not_covered (hc _ hnot)]
      exact (readsBare f f').expr e (by omega) (by omega)

theorem readCall_bare (hrule : t.rule = .fnCall ∨ t.rule = .ident) (h : 4 * t.height ≤ f)
    (h' : 4 * t.height ≤ f') : readCall f (t.bare covered) = readCall f' t := by
  have hnot : holdsComments t.rule = false := by
    rcases hrule with hr | hr <;> rw [hr] <;> rfl
  rw [bare_of_not_covered (hc _ hnot)]
  exact (readsBare f f').call t (by omega) (by omega)

theorem readParam_bare (hrule : t.rule = .macroDefArg) (h : 4 * t.height ≤ f)
    (h' : 4 * t.height ≤ f') : readParam f (t.bare covered) = readParam f' t := by
  rw [bare_of_not_covered (hc _ (by rw [hrule]; rfl)), readParam, readParam, inner_unplaced,
    textOf_unplaced]
  rcases hinner : t.inner with _ | ⟨name, _ | ⟨value, _ | ⟨more, rest⟩⟩⟩
  case cons.cons.nil =>
    have hlt := height_lt_of_mem_inner (t := t) (u := value) (by simp [hinner])
    have hterm := (readsBare f f').term value (by omega) (by omega)
    simp only [List.map_cons, List.map_nil, text_unplaced, hterm]
  all_goals rfl

omit hc in
theorem cutCases_bare (ts : List Tree) : cutCases (ts.map (bare covered)) =
    (cutCases ts).map (Prod.map (bare covered) (List.map (bare covered))) := by
  induction ts with
  | nil => rfl
  | cons t ts ih =>
      rw [List.map_cons, cutCases, cutCases, rule_bare, ih]
      dsimp only
      split
      · simp only [List.takeWhile_map, Function.comp_def, rule_bare, List.map_cons, Prod.map]
      · rfl

omit hc in
theorem between_map {g : Tree → Tree} (ts : List Tree) :
    between (ts.map g) = (between ts).map g := by
  rw [between, between, ← List.map_drop, List.map_dropLast]

end

theorem exists_first_bare (hc : Unread covered) (ts : List Tree) : ∃ c, Unread c ∧
    (((ts.map (bare covered)).head?).map ParseTree.inner).getD [] =
      (((ts.head?).map ParseTree.inner).getD []).map (bare c) := by
  cases ts with
  | nil => exact ⟨_, hc, rfl⟩
  | cons t ts => exact ⟨_, unread_coveredIn hc t.rule, inner_bare _ t⟩

theorem heightOf_first_le (ts : List Tree) :
    heightOf (((ts.head?).map ParseTree.inner).getD []) ≤ heightOf ts := by
  cases ts with
  | nil => exact le_rfl
  | cons t ts =>
      have hle : t.height ≤ heightOf (t :: ts) := heightOf_le_iff.mp le_rfl t List.mem_cons_self
      have hheight := height_eq t
      change heightOf t.inner ≤ _
      omega

theorem listed_bare (hc : Unread covered) (ts : List Tree) :
    textsOf .string (ts.map (bare covered) ++
      ((ts.map (bare covered)).filter fun u => u.rule = .stringArray).flatMap ParseTree.inner) =
    textsOf .string (ts ++ (ts.filter fun u => u.rule = .stringArray).flatMap ParseTree.inner) := by
  have hlisted : ((ts.filter fun u => u.rule = .stringArray).map (bare covered)).flatMap
      ParseTree.inner =
        ((ts.filter fun u => u.rule = .stringArray).flatMap ParseTree.inner).map unplaced := by
    rw [List.flatMap_map, List.map_flatMap]
    refine List.flatMap_congr fun u hu => ?_
    have hrule := of_decide_eq_true (List.mem_filter.mp hu).2
    rw [bare_of_not_covered (hc _ (by rw [hrule]; rfl)), inner_unplaced]
  have happend : ∀ us vs : List Tree,
      textsOf .string (us ++ vs) = textsOf .string us ++ textsOf .string vs := fun us vs => by
    rw [textsOf, List.filter_append, List.map_append, textsOf, textsOf]
  rw [filter_bare fun r => decide (r = .stringArray), hlisted, happend, happend,
    textsOf_bare (hc _ rfl), textsOf_unplaced]

theorem readCall_bare_of_find? (hc : Unread covered)
    (hfind : ts.find? (fun u => u.rule = .fnCall || u.rule = .ident) = some t)
    (h : 4 * heightOf ts ≤ f) (h' : 4 * heightOf ts ≤ f') :
    readCall f (t.bare covered) = readCall f' t := by
  have hrule := List.find?_some hfind
  have hle := heightOf_le_iff.mp le_rfl t (List.mem_of_find?_eq_some hfind)
  exact readCall_bare hc (by simpa using hrule) (by omega) (by omega)

theorem params_bare (hc : Unread covered) (h : 4 * heightOf ts ≤ f)
    (h' : 4 * heightOf ts ≤ f') :
    ((ts.map (bare covered)).filter fun u => u.rule = .macroDefArg).mapM (readParam f) =
      (ts.filter fun u => u.rule = .macroDefArg).mapM (readParam f') := by
  rw [filter_bare fun r => decide (r = .macroDefArg)]
  refine mapM_map_congr fun u hu => ?_
  have hle := heightOf_le_iff.mp le_rfl u (List.mem_of_mem_filter hu)
  exact readParam_bare hc (of_decide_eq_true (List.mem_filter.mp hu).2) (by omega) (by omega)

/-- Pieces are read alike of trees without places and without the texts that are not read, if
there is fuel enough for the trees. -/
theorem readPiece_bare (hc : Unread covered) (h : 4 * t.height ≤ f) (h' : 4 * t.height ≤ f') :
    readPiece f (t.bare covered) = readPiece f' t := by
  induction f generalizing f' t covered with
  | zero =>
      have := height_pos t
      omega
  | succ f ih =>
      obtain ⟨f', rfl⟩ : ∃ g, f' = g + 1 := ⟨f' - 1, by have := height_pos t; omega⟩
      obtain ⟨c, hunread, hinner⟩ : ∃ c, Unread c ∧ (t.bare covered).inner = t.inner.map (bare c) :=
        ⟨_, unread_coveredIn hc t.rule, inner_bare covered t⟩
      obtain ⟨c', hunread', hfirst⟩ := exists_first_bare hunread t.inner
      have hheight := height_eq t
      have hlow := heightOf_first_le t.inner
      have hbody : ∀ us : List Tree, (∀ u ∈ us, u ∈ t.inner) →
          (us.map (bare c)).mapM (readPiece f) = us.mapM (readPiece f') := by
        intro us hus
        refine mapM_map_congr fun u hu => ?_
        have hlt := height_lt_of_mem_inner (hus u hu)
        exact ih hunread (by omega) (by omega)
      have hparts : ∀ u ∈ between t.inner, u ∈ t.inner := fun u hu => between_subset t.inner hu
      have htrim := trimOf_bare hunread t.inner
      have houter := outerTrims_bare hunread t.inner
      have hin : 4 * heightOf t.inner ≤ f ∧ 4 * heightOf t.inner ≤ f' := by omega
      have hoperand := operandOf_bare hunread hin.1 hin.2
      rw [readPiece, readPiece]
      simp only [hinner, rule_bare, htrim, houter, hfirst, hoperand, between_map,
        hbody _ hparts, has_bare]
      generalize ((t.inner.head?).map ParseTree.inner).getD [] = tag at hlow ⊢
      have htag : 4 * heightOf tag ≤ f ∧ 4 * heightOf tag ≤ f' := by omega
      have hoperandTag := operandOf_bare hunread' htag.1 htag.2
      have hparams := params_bare hunread' htag.1 htag.2
      simp only [hoperandTag, hparams]
      cases hrule : t.rule
      case text => simp only [text_bare (hc t.rule (by rw [hrule]; rfl))]
      case extendsTag => simp only [textOf_bare (hunread .string rfl)]
      case includeTag => simp only [listed_bare hunread]
      case importTag =>
        simp only [textOf_bare (hunread .string rfl), textOf_bare (hunread .ident rfl)]
      case setTag | setGlobalTag => simp only [textOf_bare (hunread .ident rfl)]
      case raw => simp only [textOf_bare (hunread .rawText rfl)]
      case filterSection | blockFilter =>
        simp only [find?_bare fun r => r = .fnCall || r = .ident]
        cases hfind : tag.find? fun u => u.rule = .fnCall || u.rule = .ident with
        | none => rfl
        | some call =>
            have hcall := readCall_bare_of_find? hunread' hfind htag.1 htag.2
            simp only [Option.map_some, hcall]
      case forLoop | blockFor =>
        have hloop := hbody ((between t.inner).takeWhile fun u => u.rule ≠ .elseTag) fun u hu =>
          hparts u ((List.takeWhile_prefix _).subset hu)
        have helse := hbody (((between t.inner).dropWhile fun u => u.rule ≠ .elseTag).drop 1)
          fun u hu => hparts u ((List.dropWhile_suffix _).subset (List.mem_of_mem_drop hu))
        simp only [textsOf_bare (hunread' .ident rfl), List.takeWhile_map, List.dropWhile_map,
          ← List.map_drop, Function.comp_def, rule_bare, hloop, helse]
      case block | macroDefinition => simp only [textOf_bare (hunread' .ident rfl)]
      case contentIf | blockIf | macroIf | forIf | forBlockIf =>
        rw [cutCases_bare]
        refine congrArg (· >>= fun cases => pure (Piece.branch cases (outerTrims t.inner).2)) ?_
        refine mapM_map_congr fun p hp => ?_
        obtain ⟨hmem, hcase⟩ := mem_of_mem_cutCases hp
        have hlt := height_lt_of_mem_inner hmem
        have hheight := height_eq p.1
        have hcase' : 4 * heightOf p.1.inner ≤ f ∧ 4 * heightOf p.1.inner ≤ f' := by omega
        have hcondition := operandOf_bare (unread_coveredIn hunread p.1.rule) hcase'.1 hcase'.2
        have htrim := trimOf_bare (unread_coveredIn hunread p.1.rule) p.1.inner
        simp only [Prod.map, rule_bare, inner_bare, hcondition, htrim, hbody p.2 hcase]
      all_goals rfl

theorem readTemplate_bare (hc : Unread covered) (h : 4 * t.height ≤ f) (h' : 4 * t.height ≤ f') :
    readTemplate f (t.bare covered) = readTemplate f' t := by
  rw [readTemplate, readTemplate, inner_bare, List.dropWhile_map]
  simp only [Function.comp_def, rule_bare]
  rw [filter_bare fun r => decide (r ≠ .eoi)]
  refine mapM_map_congr fun u hu => ?_
  have hlt := height_lt_of_mem_inner ((List.dropWhile_suffix _).subset (List.mem_of_mem_filter hu))
  exact readPiece_bare (unread_coveredIn hc t.rule) (by omega) (by omega)

/-- A template is read alike of trees that are the same without places and without the texts
that are not read, if there is fuel enough for the trees. -/
theorem readTemplate_eq_of_bare_eq {u : Tree}
    (h : t.bare holdsComments = u.bare holdsComments) (hf : 4 * t.height ≤ f)
    (hf' : 4 * u.height ≤ f') : readTemplate f t = readTemplate f' u := by
  have hboth : 4 * t.height ≤ 4 * (t.height + u.height) ∧
      4 * u.height ≤ 4 * (t.height + u.height) := by omega
  rw [← readTemplate_bare unread_holdsComments hboth.1 hf,
    ← readTemplate_bare unread_holdsComments hboth.2 hf', h]

end Template

end TemplateTree
