import TemplateTree.Template.Peg
import TemplateTree.Proofs.Text.Cutting

/-!
# What a match reads

A match of a parsing expression as a relation between the inputs before and after it and
the trees that it yields.  The relation lets alternatives and repetitions go either way;
what it keeps is that every part is read where the part before it ended.  Each tree of a
match is that of a rule that matched at its place.
-/

namespace TemplateTree

theorem flatMap_subset {α β : Type} {f : α → List β} {as bs : List α} (h : as ⊆ bs) :
    as.flatMap f ⊆ bs.flatMap f := by
  intro b hb
  obtain ⟨a, ha, hb⟩ := List.mem_flatMap.mp hb
  exact List.mem_flatMap.mpr ⟨a, h ha, hb⟩

namespace ParseTree

variable {ρ : Type} {t u : ParseTree ρ} {ts us : List (ParseTree ρ)}

def start : ParseTree ρ → Nat
  | node _ s _ _ => s

mutual

def nodes : ParseTree ρ → List (ParseTree ρ)
  | node r s t inner => node r s t inner :: nodesIn inner

def nodesIn : List (ParseTree ρ) → List (ParseTree ρ)
  | [] => []
  | t :: ts => nodes t ++ nodesIn ts

end

theorem nodes_eq (t : ParseTree ρ) : t.nodes = t :: nodesIn t.inner := by
  cases t
  rw [nodes, inner]

theorem nodesIn_eq (ts : List (ParseTree ρ)) : nodesIn ts = ts.flatMap nodes := by
  induction ts with
  | nil => rfl
  | cons t ts ih => rw [nodesIn, ih, List.flatMap_cons]

theorem nodesIn_append : nodesIn (ts ++ us) = nodesIn ts ++ nodesIn us := by
  simp [nodesIn_eq]

theorem nodesIn_singleton (t : ParseTree ρ) : nodesIn [t] = t.nodes := by
  simp [nodesIn_eq]

theorem self_mem_nodes (t : ParseTree ρ) : t ∈ t.nodes := by
  rw [nodes_eq]
  exact List.mem_cons_self

theorem nodesIn_subset (h : us ⊆ ts) : nodesIn us ⊆ nodesIn ts := by
  rw [nodesIn_eq, nodesIn_eq]
  exact flatMap_subset h

theorem subset_nodesIn (ts : List (ParseTree ρ)) : ts ⊆ nodesIn ts := by
  rw [nodesIn_eq]
  exact fun t ht => List.mem_flatMap.mpr ⟨t, ht, t.self_mem_nodes⟩

end ParseTree

namespace Peg

open ParseTree

variable {ρ : Type} {grammar : ρ → PegRule ρ} {a b e : Peg ρ} {r : ρ} {s : Spacing}
  {i j k : Input} {ts ts' : List (ParseTree ρ)} {t w w' : Text}

/-! ## Inputs -/

/-- A text leads from one input to another. -/
structure Reads (i : Input) (w : Text) (j : Input) : Prop where
  rest : i.rest = w ++ j.rest
  place : j.place = i.place + w.length

theorem Reads.refl (i : Input) : Reads i [] i :=
  ⟨rfl, rfl⟩

theorem Reads.trans (h : Reads i w j) (h' : Reads j w' k) : Reads i (w ++ w') k := by
  refine ⟨?_, ?_⟩
  · rw [h.rest, h'.rest, List.append_assoc]
  · rw [h'.place, h.place, List.length_append, Nat.add_assoc]

theorem Reads.take_eq (h : Reads i w j) : i.rest.take (j.place - i.place) = w := by
  rw [h.place, h.rest, Nat.add_sub_cancel_left, List.take_left]

theorem Reads.of_start (h : Reads ⟨t, 0⟩ w i) :
    t.take i.place = w ∧ t.drop i.place = i.rest ∧ w.length = i.place := by
  have hrest : t = w ++ i.rest := h.rest
  have hplace : i.place = w.length := by rw [h.place, Nat.zero_add]
  rw [hplace, hrest]
  exact ⟨List.take_left, List.drop_left, rfl⟩

theorem passSpace_of_ne_free (hs : s ≠ .free) (i : Input) : passSpace s i = i :=
  if_neg hs

theorem reads_passSpace (s : Spacing) (i : Input) :
    ∃ w, Reads i w (passSpace s i) ∧ w.all isSpacing = true := by
  by_cases hs : s = .free
  · refine ⟨i.rest.takeWhile isSpacing, ?_, List.all_takeWhile⟩
    rw [passSpace, if_pos hs]
    exact ⟨(List.prefix_iff_eq_append.mp (List.takeWhile_prefix _)).symm, rfl⟩
  · exact ⟨[], by rw [passSpace_of_ne_free hs]; exact .refl i, rfl⟩

/-! ## Matches -/

/-- The spacing that a rule has around it. -/
def outerSpacing (mode : RuleMode) (s : Spacing) : Spacing :=
  match mode with
  | .tight => .tight
  | .free => .free
  | _ => s

/-- The spacing that a rule has inside. -/
def innerSpacing (mode : RuleMode) (s : Spacing) : Spacing :=
  if mode = .solid then .solid else outerSpacing mode s

/-- The trees that a rule yields, by those inside it. -/
def treesOf (r : ρ) (mode : RuleMode) (s : Spacing) (i j : Input) (ts : List (ParseTree ρ)) :
    List (ParseTree ρ) :=
  if mode = .silent ∨ outerSpacing mode s = .solid then ts
  else [.node r i.place (i.rest.take (j.place - i.place)) ts]

/-- What a match that is not inverted can come to. -/
inductive Matches (grammar : ρ → PegRule ρ) :
    Peg ρ → Spacing → Input → Input → List (ParseTree ρ) → Prop
  | text {t : Text} {s : Spacing} {i j : Input} (h : Reads i t j) :
      Matches grammar (.text t) s i j []
  | range {low high c : Char} {s : Spacing} {i j : Input} (h : Reads i [c] j) (hlow : low ≤ c)
      (hhigh : c ≤ high) : Matches grammar (.range low high) s i j []
  | any {c : Char} {s : Spacing} {i j : Input} (h : Reads i [c] j) : Matches grammar .any s i j []
  | start {s : Spacing} {i : Input} (h : i.place = 0) : Matches grammar .start s i i []
  | stop {s : Spacing} {i : Input} (h : i.rest = []) : Matches grammar .stop s i i []
  | seq {a b : Peg ρ} {s : Spacing} {i j k : Input} {ts ts' : List (ParseTree ρ)}
      (ha : Matches grammar a s i j ts) (hb : Matches grammar b s (passSpace s j) k ts') :
      Matches grammar (.seq a b) s i k (ts ++ ts')
  | left {a b : Peg ρ} {s : Spacing} {i j : Input} {ts : List (ParseTree ρ)}
      (h : Matches grammar a s i j ts) : Matches grammar (.alt a b) s i j ts
  | right {a b : Peg ρ} {s : Spacing} {i j : Input} {ts : List (ParseTree ρ)}
      (h : Matches grammar b s i j ts) : Matches grammar (.alt a b) s i j ts
  | without {a : Peg ρ} {s : Spacing} {i : Input} : Matches grammar (.opt a) s i i []
  | once {a : Peg ρ} {s : Spacing} {i j : Input} {ts : List (ParseTree ρ)}
      (h : Matches grammar a s i j ts) : Matches grammar (.opt a) s i j ts
  | done {a : Peg ρ} {s : Spacing} {i : Input} : Matches grammar (.star a) s i i []
  | again {a : Peg ρ} {s : Spacing} {i j j' k : Input} {ts ts' : List (ParseTree ρ)}
      (ha : Matches grammar a s i j ts) (hspace : j' = j ∨ j' = passSpace s j)
      (hrest : Matches grammar (.star a) s j' k ts') : Matches grammar (.star a) s i k (ts ++ ts')
  | absent {a : Peg ρ} {s : Spacing} {i : Input} {call : ρ → Setting → Step ρ} {inverted : Bool}
      {furthest : Nat} (h : (matchWith call a ⟨s, inverted⟩ i furthest).result = none) :
      Matches grammar (.absent a) s i i []
  | rule {r : ρ} {s : Spacing} {i j : Input} {ts : List (ParseTree ρ)}
      (h : Matches grammar (grammar r).body (innerSpacing (grammar r).mode s) i j ts) :
      Matches grammar (.rule r) s i j (treesOf r (grammar r).mode s i j ts)

namespace Matches

theorem exists_reads (h : Matches grammar e s i j ts) : ∃ w, Reads i w j := by
  induction h with
  | text h | range h | any h => exact ⟨_, h⟩
  | start | stop | without | done | absent => exact ⟨[], .refl _⟩
  | @seq a b s i j k ts ts' _ _ iha ihb =>
      obtain ⟨w, hw⟩ := iha
      obtain ⟨blank, hblank, -⟩ := reads_passSpace s j
      obtain ⟨w', hw'⟩ := ihb
      exact ⟨_, (hw.trans hblank).trans hw'⟩
  | left _ ih | right _ ih | once _ ih | rule _ ih => exact ih
  | @again a s i j j' k ts ts' _ hspace _ iha ihrest =>
      obtain ⟨w, hw⟩ := iha
      obtain ⟨w', hw'⟩ := ihrest
      rcases hspace with rfl | rfl
      · exact ⟨_, hw.trans hw'⟩
      · obtain ⟨blank, hblank, -⟩ := reads_passSpace s j
        exact ⟨_, (hw.trans hblank).trans hw'⟩

/-- Every tree of a match is that of a rule that matched where the tree begins. -/
theorem exists_of_mem_nodesIn (h : Matches grammar e s i j ts) {u : ParseTree ρ}
    (hu : u ∈ nodesIn ts) : ∃ w i' j' s', Reads i w i' ∧ u.start = i'.place ∧
      Matches grammar (.rule u.rule) s' i' j' [u] := by
  induction h with
  | text | range | any | start | stop | without | done | absent => simp [nodesIn] at hu
  | @seq a b s i j k ts ts' ha _ iha ihb =>
      rw [nodesIn_append] at hu
      rcases List.mem_append.mp hu with hu | hu
      · exact iha hu
      · obtain ⟨w, hw⟩ := ha.exists_reads
        obtain ⟨blank, hblank, -⟩ := reads_passSpace s j
        obtain ⟨w', i', j', s', hw', hplace, hmatch⟩ := ihb hu
        exact ⟨_, i', j', s', (hw.trans hblank).trans hw', hplace, hmatch⟩
  | left _ ih | right _ ih | once _ ih => exact ih hu
  | @again a s i j j₁ k ts ts' ha hspace _ iha ihrest =>
      rw [nodesIn_append] at hu
      rcases List.mem_append.mp hu with hu | hu
      · exact iha hu
      · obtain ⟨w, hw⟩ := ha.exists_reads
        obtain ⟨w', i', j', s', hw', hplace, hmatch⟩ := ihrest hu
        rcases hspace with rfl | rfl
        · exact ⟨_, i', j', s', hw.trans hw', hplace, hmatch⟩
        · obtain ⟨blank, hblank, -⟩ := reads_passSpace s j
          exact ⟨_, i', j', s', (hw.trans hblank).trans hw', hplace, hmatch⟩
  | @rule r s i j ts hbody ih =>
      -- a rule that shows no tree of its own leaves those inside it
      have hrule := Matches.rule hbody
      unfold treesOf at hu hrule
      split at hu
      case isTrue => exact ih hu
      case isFalse hshows =>
        rw [if_neg hshows] at hrule
        rw [nodesIn_singleton, nodes_eq] at hu
        rcases List.mem_cons.mp hu with rfl | hu
        · exact ⟨[], i, j, s, .refl i, rfl, hrule⟩
        · exact ih hu

end Matches

theorem matches_text_iff : Matches grammar (.text t) s i j ts ↔ Reads i t j ∧ ts = [] :=
  ⟨fun h => by cases h with | text h => exact ⟨h, rfl⟩, fun ⟨h, hts⟩ => hts ▸ .text h⟩

theorem seqs_concat_cons (a : Peg ρ) (es : List (Peg ρ)) (e : Peg ρ) :
    seqs (a :: (es ++ [e])) = .seq a (seqs (es ++ [e])) := by
  cases es <;> rfl

theorem matches_seq_iff : Matches grammar (.seq a b) s i j ts ↔ ∃ k ts₁ ts₂,
    Matches grammar a s i k ts₁ ∧ Matches grammar b s (passSpace s k) j ts₂ ∧ ts = ts₁ ++ ts₂ := by
  constructor
  · rintro ⟨⟩
    case seq k ts₁ ts₂ ha hb => exact ⟨k, ts₁, ts₂, ha, hb, rfl⟩
  · rintro ⟨k, ts₁, ts₂, ha, hb, rfl⟩
    exact .seq ha hb

theorem matches_alt_iff : Matches grammar (.alt a b) s i j ts ↔
    Matches grammar a s i j ts ∨ Matches grammar b s i j ts := by
  constructor
  · rintro ⟨⟩
    case left h => exact .inl h
    case right h => exact .inr h
  · rintro (h | h)
    · exact .left h
    · exact .right h

theorem matches_rule_iff : Matches grammar (.rule r) s i j ts ↔ ∃ inner,
    Matches grammar (grammar r).body (innerSpacing (grammar r).mode s) i j inner ∧
      ts = treesOf r (grammar r).mode s i j inner := by
  constructor
  · rintro ⟨⟩
    case rule inner h => exact ⟨inner, h, rfl⟩
  · rintro ⟨inner, h, rfl⟩
    exact .rule h

theorem Matches.of_upTo_text (h : Matches grammar (.upTo (.text t)) s i j ts) (hs : s ≠ .free) :
    ∃ c, Reads i [c] j ∧ ¬ t <+: i.rest ∧ ts = [] := by
  obtain ⟨k, ts₁, ts₂, habsent, hany, rfl⟩ := matches_seq_iff.mp h
  cases habsent with
  | absent hnone =>
      cases hany with
      | any hread =>
          rw [passSpace_of_ne_free hs] at hread
          refine ⟨_, hread, fun hpre => ?_, rfl⟩
          obtain ⟨rest, hrest⟩ := hpre
          rw [matchWith, Text.dropStart?_eq_some_iff.mpr hrest.symm] at hnone
          cases hnone

/-- Characters up to a quote leave it out. -/
theorem Matches.of_star_upTo {q : Char} (h : Matches grammar e s i j ts)
    (he : e = .star (.upTo (.text [q]))) (hs : s ≠ .free) :
    ∃ w, Reads i w j ∧ q ∉ w ∧ ts = [] := by
  -- the expression is an index of `Matches`, so that the repetition stands in an equation
  induction h with
  | done => exact ⟨[], .refl _, by simp, rfl⟩
  | @again a s i j j' k ts ts' hfirst hspace _ _ ih =>
      obtain rfl := Peg.star.inj he
      obtain ⟨c, hc, hnot, rfl⟩ := hfirst.of_upTo_text hs
      obtain ⟨w, hw, hq, rfl⟩ := ih rfl hs
      obtain rfl : j' = j := by
        rcases hspace with rfl | rfl
        · rfl
        · exact passSpace_of_ne_free hs j
      refine ⟨[c] ++ w, hc.trans hw, ?_, rfl⟩
      have hne : q ≠ c := fun heq => hnot ⟨j'.rest, by rw [hc.rest, heq]⟩
      simp [hne, hq]
  | _ => cases he

/-! ## The matcher -/

section

variable {step : Step ρ} {call : ρ → Setting → Step ρ} {far fuel : Nat} {first : Bool}

theorem result_andThen {o : Outcome ρ} (h : (o.andThen step).result = some (j, ts)) :
    ∃ i far ts₁ ts₂, o.result = some (i, ts₁) ∧ (step i far).result = some (j, ts₂) ∧
      ts = ts₁ ++ ts₂ := by
  unfold Outcome.andThen at h
  split at h
  case h_1 hnone => simp [hnone] at h
  case h_2 i ts₁ hfirst =>
    dsimp only at h
    split at h
    case h_1 hnone => simp [hnone] at h
    case h_2 i' ts₂ hnext =>
      cases h
      exact ⟨i, o.furthest, ts₁, ts₂, hfirst, hnext, rfl⟩

theorem matches_of_repeated (hstep : ∀ i far j ts, (step i far).result = some (j, ts) →
      Matches grammar a s i j ts)
    (h : (repeated s step fuel first i far).result = some (j, ts)) :
    ∃ i', (i' = i ∨ first = false ∧ i' = passSpace s i) ∧ Matches grammar (.star a) s i' j ts := by
  induction fuel generalizing first i far ts with
  | zero =>
      cases h
      exact ⟨_, .inl rfl, .done⟩
  | succ fuel ih =>
      rw [repeated] at h
      dsimp only at h
      split at h
      case h_1 =>
        cases h
        exact ⟨_, .inl rfl, .done⟩
      case h_2 i₁ ts₁ hfirst =>
        split at h
        case h_1 hnone => simp [hnone] at h
        case h_2 i₂ ts₂ hrest =>
          cases h
          obtain ⟨i', hi', hmatch⟩ := ih hrest
          have hspace : i' = i₁ ∨ i' = passSpace s i₁ := hi'.imp_right And.right
          refine ⟨_, ?_, .again (hstep _ _ _ _ hfirst) hspace hmatch⟩
          cases first
          · exact .inr ⟨rfl, rfl⟩
          · exact .inl rfl

theorem matches_of_matchWith (hcall : ∀ r s i far j ts,
      (call r ⟨s, false⟩ i far).result = some (j, ts) → Matches grammar (.rule r) s i j ts)
    (h : (matchWith call e ⟨s, false⟩ i far).result = some (j, ts)) :
    Matches grammar e s i j ts := by
  induction e generalizing s i far j ts with
  | text t =>
      rw [matchWith] at h
      split at h
      case h_1 rest hrest =>
        cases h
        exact .text ⟨Text.dropStart?_eq_some_iff.mp hrest, rfl⟩
      case h_2 => cases h
  | range low high =>
      rw [matchWith] at h
      split at h
      case h_1 c rest hrest =>
        split at h
        case isTrue hc =>
          cases h
          exact .range ⟨hrest, rfl⟩ hc.1 hc.2
        case isFalse => cases h
      case h_2 => cases h
  | any =>
      rw [matchWith] at h
      split at h
      case h_1 c rest hrest =>
        cases h
        exact .any ⟨hrest, rfl⟩
      case h_2 => cases h
  | start =>
      rw [matchWith] at h
      split at h
      case isTrue hplace =>
        cases h
        exact .start hplace
      case isFalse => cases h
  | stop =>
      rw [matchWith] at h
      split at h
      case isTrue hrest =>
        cases h
        exact .stop hrest
      case isFalse => cases h
  | seq a b iha ihb =>
      rw [matchWith] at h
      obtain ⟨k, far', ts₁, ts₂, ha, hb, rfl⟩ := result_andThen h
      exact .seq (iha ha) (ihb hb)
  | alt a b iha ihb =>
      rw [matchWith] at h
      split at h
      case h_1 => exact .left (iha h)
      case h_2 => exact .right (ihb h)
  | opt a ih =>
      rw [matchWith] at h
      split at h
      case h_1 => exact .once (ih h)
      case h_2 =>
        cases h
        exact .without
  | star a ih =>
      rw [matchWith] at h
      obtain ⟨i', hi', hmatch⟩ := matches_of_repeated (fun _ _ _ _ => ih) h
      obtain rfl : i' = i := hi'.resolve_right fun hlater => Bool.noConfusion hlater.1
      exact hmatch
  | absent a =>
      rw [matchWith] at h
      dsimp only at h
      split at h
      case h_1 => cases h
      case h_2 hnone =>
        cases h
        exact .absent hnone
  | rule r => exact hcall r s i far j ts h

theorem result_enterRule {mode : RuleMode} {run : Setting → Step ρ} :
    (enterRule r mode run ⟨s, false⟩ i far).result =
      (run ⟨innerSpacing mode s, false⟩ i far).result.map fun o =>
        (o.1, treesOf r mode s i o.1 o.2) := by
  unfold enterRule treesOf
  obtain ⟨o, ho⟩ : ∃ o, run ⟨innerSpacing mode s, false⟩ i far = o := ⟨_, rfl⟩
  rw [ho]
  rcases o with ⟨_ | ⟨j', inner⟩, far'⟩
  · cases mode <;> simp_all [innerSpacing, outerSpacing, Outcome.failed]
  · by_cases hsolid : outerSpacing mode s = .solid <;>
      cases mode <;> simp_all [innerSpacing, outerSpacing]

theorem exists_of_enterRule {mode : RuleMode} {run : Setting → Step ρ}
    (h : (enterRule r mode run ⟨s, false⟩ i far).result = some (j, ts)) :
    ∃ inner, (run ⟨innerSpacing mode s, false⟩ i far).result = some (j, inner) ∧
      ts = treesOf r mode s i j inner := by
  rw [result_enterRule, Option.map_eq_some_iff] at h
  obtain ⟨⟨j', inner⟩, hrun, heq⟩ := h
  obtain ⟨rfl, rfl⟩ := Prod.mk.inj heq
  exact ⟨inner, hrun, rfl⟩

theorem matches_of_matchRule
    (h : (matchRule grammar fuel r ⟨s, false⟩ i far).result = some (j, ts)) :
    Matches grammar (.rule r) s i j ts := by
  induction fuel generalizing r s i far j ts with
  | zero => cases h
  | succ fuel ih =>
      rw [matchRule] at h
      obtain ⟨inner, hbody, rfl⟩ := exists_of_enterRule h
      exact .rule (matches_of_matchWith (fun _ _ _ _ _ _ => ih) hbody)

theorem matches_of_parse {tree : ParseTree ρ} (h : parse grammar r t = .ok tree) :
    ∃ j, Matches grammar (.rule r) .free ⟨t, 0⟩ j [tree] := by
  unfold parse at h
  dsimp only at h
  split at h
  case h_1 j tree' hresult =>
    cases h
    exact ⟨j, matches_of_matchRule hresult⟩
  case h_2 => cases h

end

end Peg

end TemplateTree
