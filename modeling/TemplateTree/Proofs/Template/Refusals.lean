import TemplateTree.Proofs.Template.Quoted
import TemplateTree.Template.Basic

/-!
# Why a template does not parse

A text is refused at a place, or for a number or name in it.  Numbers and names hold no
arrows, so that only a refusal at a place tells of one.
-/

namespace TemplateTree.Template

open Peg ParseTree Rule

variable {α β : Type} {P : α → Prop} {Q : β → Prop} {i j : Input} {s : Spacing} {e : Peg Rule}
  {ts : List Tree} {t u : Tree} {text name : Text} {fuel : Nat} {p : Piece} {pieces : List Piece}

/-! ## Numbers and names -/

/-- Expressions of characters other than the tip of an arrow. -/
def isBlunt : Peg Rule → Bool
  | .text t => !t.contains '>'
  | .range low high => !(low ≤ '>' && '>' ≤ high)
  | .seq a b => isBlunt a && isBlunt b
  | .alt a b => isBlunt a && isBlunt b
  | .opt a => isBlunt a
  | .star a => isBlunt a
  | _ => false

theorem exists_of_isBlunt (h : Matches grammar e s i j ts) (he : isBlunt e = true)
    (hs : s ≠ .free) : ∃ w, Reads i w j ∧ '>' ∉ w ∧ ts = [] := by
  induction h with
  | @text t s i j h => exact ⟨t, h, by simpa [isBlunt] using he, rfl⟩
  | @range low high c s i j h hlow hhigh =>
      refine ⟨[c], h, fun hmem => ?_, rfl⟩
      obtain rfl := List.mem_singleton.mp hmem
      simp [isBlunt, hlow, hhigh] at he
  | any | start | stop | absent | rule => cases he
  | @seq a b s i j k ts ts' _ _ iha ihb =>
      obtain ⟨ha, hb⟩ := Bool.and_eq_true_iff.mp he
      obtain ⟨w, hw, hblunt, rfl⟩ := iha ha hs
      obtain ⟨w', hw', hblunt', rfl⟩ := ihb hb hs
      rw [passSpace_of_ne_free hs] at hw'
      exact ⟨_, hw.trans hw', by simp [hblunt, hblunt'], rfl⟩
  | left _ ih => exact ih (Bool.and_eq_true_iff.mp he).1 hs
  | right _ ih => exact ih (Bool.and_eq_true_iff.mp he).2 hs
  | without | done => exact ⟨[], .refl _, by simp, rfl⟩
  | once _ ih => exact ih he hs
  | @again a s i j j' k ts ts' _ hspace _ iha ihrest =>
      obtain ⟨w, hw, hblunt, rfl⟩ := iha he hs
      obtain ⟨w', hw', hblunt', rfl⟩ := ihrest he hs
      rw [passSpace_of_ne_free hs, or_self] at hspace
      rw [hspace] at hw'
      exact ⟨_, hw.trans hw', by simp [hblunt, hblunt'], rfl⟩

/-- A tree in which no number or name holds the tip of an arrow. -/
def Blunt (t : Tree) : Prop :=
  ∀ u ∈ t.nodes, u.rule = .int ∨ u.rule = .ident → '>' ∉ u.text

theorem text_blunt {r : Rule} (hr : (grammar r).mode = .solid)
    (hbody : isBlunt (grammar r).body = true) (h : Matches grammar (.rule r) s i j [u]) :
    '>' ∉ u.text := by
  obtain ⟨inner, hinner, hnode⟩ := matches_rule_iff.mp h
  rw [innerSpacing, if_pos hr] at hinner
  obtain ⟨w, hreads, hblunt, rfl⟩ := exists_of_isBlunt hinner hbody (by decide)
  unfold treesOf at hnode
  split at hnode
  case isTrue => cases hnode
  case isFalse =>
    obtain rfl := List.singleton_inj.mp hnode
    rwa [ParseTree.text, hreads.take_eq]

theorem blunt_of_parse (h : Peg.parse grammar .template text = .ok t) : Blunt t := by
  intro u hu hrule
  obtain ⟨_, hmatch⟩ := matches_of_parse h
  rw [← nodesIn_singleton] at hu
  obtain ⟨w, i, j, s, -, -, hnode⟩ := hmatch.exists_of_mem_nodesIn hu
  rcases hrule with hr | hr <;> rw [hr] at hnode
  · exact text_blunt rfl rfl hnode
  · exact text_blunt rfl rfl hnode

theorem Blunt.of_mem_inner (h : Blunt t) (hu : u ∈ t.inner) : Blunt u := by
  intro v hv
  apply h v
  rw [nodes_eq, nodesIn_eq]
  exact List.mem_cons_of_mem t (List.mem_flatMap.mpr ⟨u, hu, hv⟩)

/-! ## Reading -/

def Sane (P : α → Prop) : Except IntegerOverflow α → Prop
  | .ok a => P a
  | .error e => '>' ∉ e.digits

theorem Sane.bind {x : Except IntegerOverflow α} {f : α → Except IntegerOverflow β} (hx : Sane P x)
    (hf : ∀ a, P a → Sane Q (f a)) : Sane Q (x >>= f) := by
  cases x with
  | ok a => exact hf a hx
  | error e => exact hx

theorem sane_mapM {f : α → Except IntegerOverflow β} {as : List α} (h : ∀ a ∈ as, Sane Q (f a)) :
    Sane (fun bs => ∀ b ∈ bs, Q b) (as.mapM f) := by
  induction as with
  | nil => exact fun _ hb => by cases hb
  | cons a as ih =>
      rw [List.mapM_cons]
      refine (h a List.mem_cons_self).bind fun b hb => ?_
      refine (ih fun a' ha' => h a' (List.mem_cons_of_mem a ha')).bind fun bs hbs => ?_
      exact List.forall_mem_cons.mpr ⟨hb, hbs⟩

theorem Sane.mono {P' : α → Prop} {x : Except IntegerOverflow α} (hx : Sane P x)
    (h : ∀ a, P a → P' a) : Sane P' x := by
  cases x with
  | ok a => exact h a hx
  | error e => exact hx

/-- A reading of which only the refusals matter. -/
abbrev Harmless (x : Except IntegerOverflow α) : Prop :=
  Sane (fun _ => True) x

theorem Sane.harmless {x : Except IntegerOverflow α} (hx : Sane P x) : Harmless x :=
  hx.mono fun _ _ => trivial

theorem Sane.map {x : Except IntegerOverflow α} (hx : Sane P x) (f : α → β) :
    Harmless (f <$> x) := by
  cases x with
  | ok a => exact trivial
  | error e => exact hx

theorem harmless_readInt (h : '>' ∉ text) : Harmless (readInt text) := by
  have hbounded : ∀ n : Int,
      Harmless (if Number.isSigned n then .ok n else .error (IntegerOverflow.mk text)) := by
    intro n
    split
    · exact trivial
    · exact h
  exact hbounded _

theorem mem_of_mem_pairUp {as : List α} {q : α × α} (h : q ∈ pairUp as) : q.2 ∈ as := by
  fun_induction pairUp as with
  | case1 op x rest ih =>
      rcases List.mem_cons.mp h with rfl | h
      · simp
      · exact List.mem_cons_of_mem _ (List.mem_cons_of_mem _ (ih h))
  | case2 => cases h

theorem harmless_operands {f : Tree → Except IntegerOverflow α} {g : Tree × Tree → β}
    (h : ∀ u ∈ ts, Harmless (f u)) :
    Harmless ((pairUp ts).mapM fun q => do return (g q, ← f q.2)) := by
  refine Sane.harmless (sane_mapM (Q := fun _ => True) fun q hq => ?_)
  exact (h q.2 (mem_of_mem_pairUp hq)).bind fun _ _ => trivial

/-- What is read of expressions with blunt numbers. -/
structure Reading (fuel : Nat) : Prop where
  term : ∀ t, Blunt t → Harmless (readTerm fuel t)
  test : ∀ negated t, Blunt t → Harmless (readTest fuel negated t)
  args : ∀ ts, (∀ t ∈ ts, Blunt t) → Harmless (readArgs fuel ts)
  call : ∀ t, Blunt t → Harmless (readCall fuel t)
  expr : ∀ t, Blunt t → Harmless (readExpr fuel t)
  filtered : ∀ t, Blunt t → Harmless (readFiltered fuel t)

namespace Reading

theorem zero : Reading 0 := by
  constructor
  all_goals
    intros
    exact trivial

variable (h : Reading fuel)
include h

theorem term_succ (ht : Blunt t) : Harmless (readTerm (fuel + 1) t) := by
  have hinner : ∀ u ∈ t.inner, Blunt u := fun u => ht.of_mem_inner
  rw [readTerm.eq_def]
  dsimp only
  split
  case h_1 hrule =>
    exact (harmless_readInt (ht t t.self_mem_nodes (.inl hrule))).bind fun _ _ => trivial
  case h_6 => exact (h.call t ht).bind fun _ _ => trivial
  case h_7 => exact (h.args t.inner hinner).bind fun _ _ => trivial
  case h_8 => exact h.test false t ht
  case h_9 => exact h.test true t ht
  case h_10 => exact (sane_mapM fun u hu => h.term u (hinner u hu)).bind fun _ _ => trivial
  case h_11 => exact (sane_mapM fun u hu => h.expr u (hinner u hu)).bind fun _ _ => trivial
  case h_12 =>
    split
    case h_1 => exact trivial
    case h_2 first rest heq =>
      rw [heq, List.forall_mem_cons] at hinner
      refine (h.term first hinner.1).bind fun _ _ => ?_
      exact (harmless_operands fun u hu => h.term u (hinner.2 u hu)).bind fun _ _ => trivial
  all_goals exact trivial

theorem test_succ (negated : Bool) (ht : Blunt t) : Harmless (readTest (fuel + 1) negated t) := by
  rw [readTest.eq_def]
  refine (sane_mapM (Q := fun _ => True) fun u hu => ?_).bind fun _ _ => trivial
  obtain ⟨call, hcall, hu⟩ := List.mem_flatMap.mp (List.mem_of_mem_filter hu)
  have hblunt : Blunt u := (ht.of_mem_inner (List.mem_of_mem_filter hcall)).of_mem_inner hu
  split
  case h_1 e rest heq => exact h.expr e (hblunt.of_mem_inner (by simp [heq]))
  case h_2 => exact trivial

theorem args_succ (hts : ∀ t ∈ ts, Blunt t) : Harmless (readArgs (fuel + 1) ts) := by
  rw [readArgs.eq_def]
  refine (sane_mapM (Q := fun _ => True) fun u hu => ?_).bind fun _ _ => trivial
  have hblunt := hts u (List.mem_of_mem_filter hu)
  split
  case h_1 name e heq =>
    exact (h.expr e (hblunt.of_mem_inner (by simp [heq]))).bind fun _ _ => trivial
  case h_2 => exact trivial

theorem call_succ (ht : Blunt t) : Harmless (readCall (fuel + 1) t) := by
  rw [readCall.eq_def]
  dsimp only
  split
  · exact (h.args t.inner fun u => ht.of_mem_inner).bind fun _ _ => trivial
  · exact trivial

theorem expr_succ (ht : Blunt t) : Harmless (readExpr (fuel + 1) t) := by
  have hinner : ∀ u ∈ t.inner, Blunt u := fun u => ht.of_mem_inner
  rw [readExpr.eq_def]
  dsimp only
  split
  case h_1 | h_3 | h_4 =>
    -- operands with operators between them
    split
    case h_1 => exact trivial
    case h_2 first rest heq =>
      rw [heq, List.forall_mem_cons] at hinner
      refine (h.expr first hinner.1).bind fun _ _ => ?_
      exact (harmless_operands fun u hu => h.expr u (hinner.2 u hu)).bind fun _ _ => trivial
  case h_2 =>
    split
    case h_1 e rest heq =>
      have he : e ∈ t.inner.filter fun u => u.rule ≠ .opNot := heq ▸ List.mem_cons_self
      exact (h.expr e (hinner e (List.mem_of_mem_filter he))).bind fun _ _ => trivial
    case h_2 => exact trivial
  case h_5 =>
    split
    case h_1 l r heq =>
      have hoperand : ∀ u ∈ [l, r], Blunt u := fun u hu =>
        hinner u (List.mem_of_mem_filter (heq ▸ hu))
      refine (h.expr l (hoperand l (by simp))).bind fun _ _ => ?_
      exact (h.expr r (hoperand r (by simp))).bind fun _ _ => trivial
    case h_2 => exact trivial
  case h_6 =>
    split
    case h_1 e rest heq => exact h.expr e (hinner e (by simp [heq]))
    case h_2 => exact trivial
  case h_7 | h_8 | h_9 => exact h.filtered t ht
  case h_10 => exact (h.term t ht).bind fun _ _ => trivial

theorem filtered_succ (ht : Blunt t) : Harmless (readFiltered (fuel + 1) t) := by
  have hinner : ∀ u ∈ t.inner, Blunt u := fun u => ht.of_mem_inner
  rw [readFiltered.eq_def]
  dsimp only
  split
  case h_1 => exact trivial
  case h_2 first rest heq =>
    rw [heq, List.forall_mem_cons] at hinner
    refine (h.term first hinner.1).bind fun _ _ => ?_
    refine (sane_mapM (Q := fun _ => True) fun f hf => ?_).bind fun _ _ => trivial
    obtain ⟨u, hu, hhead⟩ := List.mem_filterMap.mp hf
    exact h.call f ((hinner.2 u hu).of_mem_inner (List.mem_of_mem_head? hhead))

end Reading

theorem reading (fuel : Nat) : Reading fuel := by
  induction fuel with
  | zero => exact .zero
  | succ fuel ih =>
      exact ⟨fun _ => ih.term_succ, fun negated _ => ih.test_succ negated, fun _ => ih.args_succ,
        fun _ => ih.call_succ, fun _ => ih.expr_succ, fun _ => ih.filtered_succ⟩

theorem harmless_operandOf (hts : ∀ t ∈ ts, Blunt t) : Harmless (operandOf fuel ts) := by
  rw [operandOf]
  split
  case h_1 e he => exact (reading fuel).expr e (hts e (List.mem_of_find?_eq_some he))
  case h_2 => exact trivial

theorem harmless_readParam (ht : Blunt t) : Harmless (readParam fuel t) := by
  rw [readParam]
  split
  case h_1 name value heq =>
    exact ((reading fuel).term value (ht.of_mem_inner (by simp [heq]))).bind fun _ _ => trivial
  case h_2 => exact trivial

/-! ## Names of blocks and macros -/

theorem blocksIn_eq (pieces : List Piece) : blocksIn pieces = pieces.flatMap blocksOf := by
  induction pieces with
  | nil => rfl
  | cons p rest ih => rw [blocksIn, ih, List.flatMap_cons]

/-- A piece in which no block, and no macro that it is, has the tip of an arrow in its name. -/
def Named (p : Piece) : Prop :=
  (∀ b ∈ blocksOf p, '>' ∉ b.1) ∧ ∀ d ∈ macrosIn [p], '>' ∉ d.name

theorem named_plain (hblocks : blocksOf p = []) (hmacros : macrosIn [p] = []) : Named p :=
  ⟨by simp [hblocks], by simp [hmacros]⟩

theorem textOf_blunt (hts : ∀ t ∈ ts, Blunt t) : '>' ∉ textOf .ident ts := by
  rw [textOf]
  cases htexts : textsOf .ident ts with
  | nil => simp
  | cons first rest =>
      have hmem : first ∈ textsOf .ident ts := by simp [htexts]
      obtain ⟨u, hu, rfl⟩ := List.mem_map.mp hmem
      obtain ⟨hu, hrule⟩ := List.mem_filter.mp hu
      exact hts u hu u u.self_mem_nodes (.inr (of_decide_eq_true hrule))

theorem sane_readPiece (ht : Blunt t) : Sane Named (readPiece fuel t) := by
  induction fuel generalizing t with
  | zero => exact named_plain rfl rfl
  | succ fuel ih =>
      have hinner : ∀ u ∈ t.inner, Blunt u := fun u => ht.of_mem_inner
      have htag : ∀ u ∈ ((t.inner.head?).map ParseTree.inner).getD [], Blunt u := by
        intro u hu
        cases hhead : t.inner.head? with
        | none => simp [hhead] at hu
        | some v =>
            rw [hhead] at hu
            exact (hinner v (List.mem_of_mem_head? hhead)).of_mem_inner hu
      -- all bodies of a piece are read from trees inside its own
      have hbody : ∀ us, us ⊆ t.inner →
          Sane (fun ps => ∀ p ∈ ps, Named p) (us.mapM (readPiece fuel)) :=
        fun us hus => sane_mapM fun u hu => ih (hinner u (hus hu))
      rw [readPiece]
      dsimp only
      split
      case h_2 | h_8 | h_9 =>
        exact (harmless_operandOf hinner).bind fun _ _ => named_plain rfl rfl
      case h_13 | h_14 =>
        have hpieces := hbody _ (between_subset t.inner)
        split
        case h_1 call hcall =>
          refine ((reading fuel).call call (htag call (List.mem_of_find?_eq_some hcall))).bind
            fun _ _ => ?_
          exact hpieces.bind fun _ _ => named_plain rfl rfl
        case h_2 => exact hpieces.bind fun _ _ => named_plain rfl rfl
      case h_15 | h_16 =>
        refine (hbody _ ?_).bind fun _ _ => (hbody _ ?_).bind fun _ _ => ?_
        · exact List.Subset.trans (List.takeWhile_subset _) (between_subset _)
        · exact List.Subset.trans (List.drop_subset 1 _)
            (List.Subset.trans (List.dropWhile_subset _) (between_subset _))
        · exact (harmless_operandOf htag).bind fun _ _ => named_plain rfl rfl
      case h_17 =>
        refine (hbody _ (between_subset _)).bind fun body hnamed =>
          ⟨fun b hb => ?_, by simp [macrosIn]⟩
        rw [blocksOf, blocksIn_eq] at hb
        rcases List.mem_cons.mp hb with rfl | hb
        · exact textOf_blunt htag
        · obtain ⟨p, hp, hb⟩ := List.mem_flatMap.mp hb
          exact (hnamed p hp).1 b hb
      case h_18 =>
        refine (sane_mapM (Q := fun _ => True) fun u hu => ?_).bind fun _ _ => ?_
        · exact harmless_readParam (htag u (List.mem_of_mem_filter hu))
        · refine (hbody _ (between_subset _)).bind fun _ _ => ⟨by simp [blocksOf], ?_⟩
          simpa [macrosIn] using textOf_blunt htag
      case h_19 | h_20 | h_21 | h_22 | h_23 =>
        refine (sane_mapM (Q := fun _ => True) fun c hc => ?_).bind fun _ _ => named_plain rfl rfl
        have hcase := hbody c.2 (mem_of_mem_cutCases hc).2
        have htree := hinner c.1 (mem_of_mem_cutCases hc).1
        split
        case isTrue => exact hcase.bind fun _ _ => trivial
        case isFalse =>
          refine ((harmless_operandOf fun u => htree.of_mem_inner).map some).bind fun _ _ => ?_
          exact hcase.bind fun _ _ => trivial
      all_goals exact named_plain rfl rfl

theorem sane_readTemplate (fuel : Nat) (ht : Blunt t) :
    Sane (fun pieces => ∀ p ∈ pieces, Named p) (readTemplate fuel t) := by
  rw [readTemplate]
  refine sane_mapM fun u hu => sane_readPiece (ht.of_mem_inner ?_)
  exact List.dropWhile_subset _ (List.mem_of_mem_filter hu)

/-! ## White space -/

theorem blocksIn_text (t : Text) (rest : List Piece) :
    blocksIn (.text t :: rest) = blocksIn rest := rfl

mutual

theorem map_blocksOf_trimPiece (p : Piece) :
    (blocksOf (trimPiece p)).map Prod.fst = (blocksOf p).map Prod.fst := by
  cases p with
  | block first name body last =>
      rw [trimPiece, blocksOf, blocksOf, List.map_cons, List.map_cons, map_blocksIn_trimPieces]
  | macroDef | raw | filtered | loop | branch =>
      rw [trimPiece]
      rfl
  | _ => rw [trimPiece] <;> nofun

theorem map_blocksIn_trimPieces (before after : Bool) (pieces : List Piece) :
    (blocksIn (trimPieces before after pieces)).map Prod.fst = (blocksIn pieces).map Prod.fst := by
  cases pieces with
  | nil => rfl
  | cons p rest =>
      cases p with
      | text t =>
          obtain ⟨kept, hcons⟩ := trimPieces_text before after t rest
          rw [hcons, blocksIn_text]
          split
          · rw [map_blocksIn_trimPieces]
          · rw [blocksIn_text, map_blocksIn_trimPieces]
      | _ =>
          rw [trimPieces, blocksIn, blocksIn, List.map_append, List.map_append,
            map_blocksOf_trimPiece, map_blocksIn_trimPieces]
          nofun

end

theorem macrosIn_text (t : Text) (rest : List Piece) :
    macrosIn (.text t :: rest) = macrosIn rest := rfl

theorem macrosIn_cons (p : Piece) (rest : List Piece) :
    macrosIn (p :: rest) = macrosIn [p] ++ macrosIn rest := by
  rw [← List.singleton_append, macrosIn, List.filterMap_append]
  rfl

theorem map_macrosIn_trimPiece (p : Piece) :
    (macrosIn [trimPiece p]).map MacroDef.name = (macrosIn [p]).map MacroDef.name := by
  cases p with
  | macroDef | raw | filtered | loop | branch | block =>
      rw [trimPiece]
      rfl
  | _ => rw [trimPiece] <;> nofun

theorem map_macrosIn_trimPieces (before after : Bool) (pieces : List Piece) :
    (macrosIn (trimPieces before after pieces)).map MacroDef.name =
      (macrosIn pieces).map MacroDef.name := by
  induction pieces generalizing before with
  | nil => rfl
  | cons p rest ih =>
      cases p with
      | text t =>
          obtain ⟨kept, hcons⟩ := trimPieces_text before after t rest
          rw [hcons, macrosIn_text]
          split
          · exact ih false
          · exact ih false
      | _ =>
          rw [trimPieces, macrosIn_cons, macrosIn_cons _ rest, List.map_append, List.map_append,
            map_macrosIn_trimPiece, ih]
          nofun

/-! ## Refusals -/

theorem mem_of_firstDuplicate? {seen names : List Text}
    (h : firstDuplicate? seen names = some name) : name ∈ names := by
  induction names generalizing seen with
  | nil => cases h
  | cons n rest ih =>
      rw [firstDuplicate?] at h
      split at h
      · obtain rfl := Option.some.inj h
        exact List.mem_cons_self
      · exact List.mem_cons_of_mem _ (ih h)

theorem blunt_of_ofPieces {cause : Text} (hnames : ∀ p ∈ pieces, Named p)
    (h : ofPieces name (trimPieces false false pieces) = .error cause) : '>' ∉ cause := by
  have hblocks : ∀ n ∈ (blocksIn (trimPieces false false pieces)).map Prod.fst, '>' ∉ n := by
    rw [map_blocksIn_trimPieces, blocksIn_eq]
    intro n hn
    obtain ⟨b, hb, rfl⟩ := List.mem_map.mp hn
    obtain ⟨p, hp, hb⟩ := List.mem_flatMap.mp hb
    exact (hnames p hp).1 b hb
  have hmacros : ∀ n ∈ (macrosIn (trimPieces false false pieces)).map MacroDef.name, '>' ∉ n := by
    rw [map_macrosIn_trimPieces]
    intro n hn
    obtain ⟨d, hd, rfl⟩ := List.mem_map.mp hn
    obtain ⟨p, hp, hsome⟩ := List.mem_filterMap.mp hd
    exact (hnames p hp).2 d (List.mem_filterMap.mpr ⟨p, List.mem_singleton_self p, hsome⟩)
  unfold ofPieces at h
  dsimp only at h
  split at h
  case h_1 n hn =>
    cases h
    simpa using hblocks n (mem_of_firstDuplicate? hn)
  case h_2 =>
    split at h
    case h_1 n hn =>
      cases h
      simpa using hmacros n (mem_of_firstDuplicate? hn)
    case h_2 => cases h

/-- A text is refused at a place, or for a reason without arrows. -/
theorem exists_cause_of_parse {e : TemplateError} (h : parse name text = .error e) :
    ∃ cause, e = ⟨"Failed to parse '" ++ name ++ "'", [cause]⟩ ∧
      ((∃ place, Peg.parse grammar .template text = .error place ∧ cause = parseReport text place) ∨
        ((∃ tree, Peg.parse grammar .template text = .ok tree) ∧ '>' ∉ cause)) := by
  unfold parse at h
  dsimp only at h
  split at h
  case h_1 place hplace =>
    cases h
    exact ⟨_, rfl, .inl ⟨place, hplace, rfl⟩⟩
  case h_2 tree htree =>
    have hsane := sane_readTemplate (depthFor text) (blunt_of_parse htree)
    split at h
    case h_1 overflow hread =>
      cases h
      rw [hread] at hsane
      have hdigits : '>' ∉ overflow.digits := hsane
      exact ⟨_, rfl, .inr ⟨⟨tree, htree⟩, by simpa using hdigits⟩⟩
    case h_2 pieces hread =>
      rw [hread] at hsane
      split at h
      case h_1 cause hcause =>
        cases h
        exact ⟨cause, rfl, .inr ⟨⟨tree, htree⟩, blunt_of_ofPieces hsane hcause⟩⟩
      case h_2 => cases h

end TemplateTree.Template
