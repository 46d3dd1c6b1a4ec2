import TemplateTree.Proofs.Template.Matching

/-!
# What a match comes to

The outcome of a match as a relation that tells failures as well: of two alternatives the
second one counts only where the first one fails, and a repetition ends where its expression
fails.  A matcher that may go deep enough comes to the outcome of the relation.  How deep that
is follows from an order of the rules in which each one calls lower ones before it has taken a
character.
-/

namespace TemplateTree.Peg

open ParseTree

variable {ρ : Type} {grammar : ρ → PegRule ρ} {a b e : Peg ρ} {r : ρ} {s : Setting}
  {i j k : Input} {ts ts' : List (ParseTree ρ)} {t w : Text} {n : Nat}

abbrev Result (ρ : Type) := Option (Input × List (ParseTree ρ))

def innerSetting (mode : RuleMode) (s : Setting) : Setting :=
  ⟨innerSpacing mode s.spacing, s.inverted⟩

/-- The trees that a rule yields; there are none of it where only its failure counts. -/
def yields (r : ρ) (mode : RuleMode) (s : Setting) (i j : Input) (ts : List (ParseTree ρ)) :
    List (ParseTree ρ) :=
  if s.inverted then ts else treesOf r mode s.spacing i j ts

/-- The one outcome of a match in which no more than so many rules are nested. -/
inductive ComesTo (grammar : ρ → PegRule ρ) :
    Nat → Peg ρ → Setting → Input → Result ρ → Prop
  | text {n : Nat} {t : Text} {s : Setting} {i j : Input} (h : Reads i t j) :
      ComesTo grammar n (.text t) s i (some (j, []))
  | noText {n : Nat} {t : Text} {s : Setting} {i : Input} (h : ¬ t <+: i.rest) :
      ComesTo grammar n (.text t) s i none
  | range {n : Nat} {low high c : Char} {s : Setting} {i j : Input} (h : Reads i [c] j)
      (hlow : low ≤ c) (hhigh : c ≤ high) : ComesTo grammar n (.range low high) s i (some (j, []))
  | noRange {n : Nat} {low high : Char} {s : Setting} {i : Input}
      (h : ∀ c rest, i.rest = c :: rest → ¬ (low ≤ c ∧ c ≤ high)) :
      ComesTo grammar n (.range low high) s i none
  | any {n : Nat} {c : Char} {s : Setting} {i j : Input} (h : Reads i [c] j) :
      ComesTo grammar n .any s i (some (j, []))
  | noAny {n : Nat} {s : Setting} {i : Input} (h : i.rest = []) : ComesTo grammar n .any s i none
  | start {n : Nat} {s : Setting} {i : Input} (h : i.place = 0) :
      ComesTo grammar n .start s i (some (i, []))
  | noStart {n : Nat} {s : Setting} {i : Input} (h : i.place ≠ 0) :
      ComesTo grammar n .start s i none
  | stop {n : Nat} {s : Setting} {i : Input} (h : i.rest = []) :
      ComesTo grammar n .stop s i (some (i, []))
  | noStop {n : Nat} {s : Setting} {i : Input} (h : i.rest ≠ []) :
      ComesTo grammar n .stop s i none
  | seq {n : Nat} {a b : Peg ρ} {s : Setting} {i j k : Input} {ts ts' : List (ParseTree ρ)}
      (ha : ComesTo grammar n a s i (some (j, ts)))
      (hb : ComesTo grammar n b s (passSpace s.spacing j) (some (k, ts'))) :
      ComesTo grammar n (.seq a b) s i (some (k, ts ++ ts'))
  | noFirst {n : Nat} {a b : Peg ρ} {s : Setting} {i : Input} (ha : ComesTo grammar n a s i none) :
      ComesTo grammar n (.seq a b) s i none
  | noSecond {n : Nat} {a b : Peg ρ} {s : Setting} {i j : Input} {ts : List (ParseTree ρ)}
      (ha : ComesTo grammar n a s i (some (j, ts)))
      (hb : ComesTo grammar n b s (passSpace s.spacing j) none) :
      ComesTo grammar n (.seq a b) s i none
  | left {n : Nat} {a b : Peg ρ} {s : Setting} {i j : Input} {ts : List (ParseTree ρ)}
      (ha : ComesTo grammar n a s i (some (j, ts))) :
      ComesTo grammar n (.alt a b) s i (some (j, ts))
  | right {n : Nat} {a b : Peg ρ} {s : Setting} {i : Input} {o : Result ρ}
      (ha : ComesTo grammar n a s i none) (hb : ComesTo grammar n b s i o) :
      ComesTo grammar n (.alt a b) s i o
  | once {n : Nat} {a : Peg ρ} {s : Setting} {i j : Input} {ts : List (ParseTree ρ)}
      (ha : ComesTo grammar n a s i (some (j, ts))) : ComesTo grammar n (.opt a) s i (some (j, ts))
  | without {n : Nat} {a : Peg ρ} {s : Setting} {i : Input} (ha : ComesTo grammar n a s i none) :
      ComesTo grammar n (.opt a) s i (some (i, []))
  | done {n : Nat} {a : Peg ρ} {s : Setting} {i : Input} (ha : ComesTo grammar n a s i none) :
      ComesTo grammar n (.star a) s i (some (i, []))
  | last {n : Nat} {a : Peg ρ} {s : Setting} {i j : Input} {ts : List (ParseTree ρ)}
      (ha : ComesTo grammar n a s i (some (j, ts)))
      (hend : ComesTo grammar n a s (passSpace s.spacing j) none) :
      ComesTo grammar n (.star a) s i (some (j, ts))
  | again {n : Nat} {a : Peg ρ} {s : Setting} {i j k l : Input} {ts ts' us : List (ParseTree ρ)}
      (ha : ComesTo grammar n a s i (some (j, ts)))
      (hnext : ComesTo grammar n a s (passSpace s.spacing j) (some (l, us)))
      (hrest : ComesTo grammar n (.star a) s (passSpace s.spacing j) (some (k, ts'))) :
      ComesTo grammar n (.star a) s i (some (k, ts ++ ts'))
  | absent {n : Nat} {a : Peg ρ} {s : Setting} {i : Input}
      (ha : ComesTo grammar n a ⟨s.spacing, !s.inverted⟩ i none) :
      ComesTo grammar n (.absent a) s i (some (i, []))
  | present {n : Nat} {a : Peg ρ} {s : Setting} {i j : Input} {ts : List (ParseTree ρ)}
      (ha : ComesTo grammar n a ⟨s.spacing, !s.inverted⟩ i (some (j, ts))) :
      ComesTo grammar n (.absent a) s i none
  | rule {n : Nat} {r : ρ} {s : Setting} {i j : Input} {ts : List (ParseTree ρ)}
      (h : ComesTo grammar n (grammar r).body (innerSetting (grammar r).mode s) i (some (j, ts))) :
      ComesTo grammar (n + 1) (.rule r) s i (some (j, yields r (grammar r).mode s i j ts))
  | noRule {n : Nat} {r : ρ} {s : Setting} {i : Input}
      (h : ComesTo grammar n (grammar r).body (innerSetting (grammar r).mode s) i none) :
      ComesTo grammar (n + 1) (.rule r) s i none

theorem ComesTo.exists_reads (h : ComesTo grammar n e s i (some (j, ts))) : ∃ w, Reads i w j := by
  generalize ho : some (j, ts) = o at h
  induction h generalizing j ts with
  | text h | range h | any h =>
      cases ho
      exact ⟨_, h⟩
  | start | stop | without | done | absent =>
      cases ho
      exact ⟨[], .refl _⟩
  | noText | noRange | noAny | noStart | noStop | noFirst | noSecond | present | noRule => cases ho
  | seq _ _ iha ihb =>
      cases ho
      obtain ⟨w, hw⟩ := iha rfl
      obtain ⟨blank, hblank, -⟩ := reads_passSpace _ _
      obtain ⟨w', hw'⟩ := ihb rfl
      exact ⟨_, (hw.trans hblank).trans hw'⟩
  | left _ ih | once _ ih | right _ _ _ ih | last _ _ ih => exact ih ho
  | again _ _ _ iha _ ihrest =>
      cases ho
      obtain ⟨w, hw⟩ := iha rfl
      obtain ⟨blank, hblank, -⟩ := reads_passSpace _ _
      obtain ⟨w', hw'⟩ := ihrest rfl
      exact ⟨_, (hw.trans hblank).trans hw'⟩
  | rule _ ih =>
      cases ho
      exact ih rfl

theorem Reads.length_le (h : Reads i w j) : j.rest.length ≤ i.rest.length := by
  rw [h.rest, List.length_append]
  exact Nat.le_add_left _ _

theorem ComesTo.length_le (h : ComesTo grammar n e s i (some (j, ts))) :
    j.rest.length ≤ i.rest.length := by
  obtain ⟨w, hw⟩ := h.exists_reads
  exact hw.length_le

theorem length_passSpace_le (s : Spacing) (i : Input) :
    (passSpace s i).rest.length ≤ i.rest.length := by
  obtain ⟨w, hw, -⟩ := reads_passSpace s i
  exact hw.length_le

/-! ## Expressions that take a character -/

/-- Whether every match of an expression takes a character, where this is known of rules. -/
def takes (known : ρ → Bool) : Peg ρ → Bool
  | .text t => !t.isEmpty
  | .range _ _ => true
  | .any => true
  | .seq a b => takes known a || takes known b
  | .alt a b => takes known a && takes known b
  | .rule r => known r
  | _ => false

/-- Whether all rules that an expression calls before it has taken a character are below a
rank, and every repetition takes one in each round; `top` is above all ranks. -/
def leads (known : ρ → Bool) (rank : ρ → Nat) (top : Nat) : Nat → Peg ρ → Bool
  | m, .seq a b =>
    leads known rank top m a && leads known rank top (if takes known a then top else m) b
  | m, .alt a b => leads known rank top m a && leads known rank top m b
  | m, .opt a => leads known rank top m a
  | m, .star a => takes known a && leads known rank top m a
  | m, .absent a => leads known rank top m a
  | m, .rule r => decide (rank r < m)
  | _, _ => true

/-- A grammar whose rules call lower ones before they have taken a character. -/
structure Ranked (grammar : ρ → PegRule ρ) (known : ρ → Bool) (rank : ρ → Nat) (top : Nat) :
    Prop where
  takes : ∀ r, known r = true → takes known (grammar r).body = true
  leads : ∀ r, leads known rank top (rank r) (grammar r).body = true
  below : ∀ r, rank r < top

variable {known : ρ → Bool} {rank : ρ → Nat} {top m fuel far : Nat}

theorem Reads.length_lt (h : Reads i w j) (hw : w ≠ []) : j.rest.length < i.rest.length := by
  rw [h.rest, List.length_append]
  exact Nat.lt_add_of_pos_left (List.length_pos_iff.mpr hw)

theorem ComesTo.length_lt (hgrammar : Ranked grammar known rank top)
    (h : ComesTo grammar n e s i (some (j, ts))) (he : Peg.takes known e = true) :
    j.rest.length < i.rest.length := by
  generalize ho : some (j, ts) = o at h
  induction h generalizing j ts with
  | text h =>
      cases ho
      exact h.length_lt (by simpa [Peg.takes] using he)
  | range h | any h =>
      cases ho
      exact h.length_lt (by simp)
  | start | stop | without | done | last | again | absent => cases he
  | noText | noRange | noAny | noStart | noStop | noFirst | noSecond | present | noRule => cases ho
  | @seq n a b s i j k ts ts' ha hb iha ihb =>
      cases ho
      have hspace := length_passSpace_le s.spacing j
      rcases Bool.or_eq_true_iff.mp he with hea | heb
      · exact (hb.length_le.trans hspace).trans_lt (iha hea rfl)
      · exact (ihb heb rfl).trans_le (hspace.trans ha.length_le)
  | left _ ih => exact ih (Bool.and_eq_true_iff.mp he).1 ho
  | right _ _ _ ih => exact ih (Bool.and_eq_true_iff.mp he).2 ho
  | once _ ih => cases he
  | rule _ ih =>
      cases ho
      exact ih (hgrammar.takes _ he) rfl

/-! ## The matcher -/

section

variable {step : Step ρ} {call : ρ → Setting → Step ρ} {first : Bool} {length bound : Nat}

theorem result_andThen_eq (o : Outcome ρ) (step : Step ρ) : (o.andThen step).result =
    o.result.bind fun (i, ts) => (step i o.furthest).result.map fun (j, ts') => (j, ts ++ ts') := by
  unfold Outcome.andThen
  cases hfirst : o.result with
  | none => exact hfirst
  | some p =>
      obtain ⟨i, ts⟩ := p
      dsimp only [Option.bind_some]
      cases hnext : (step i o.furthest).result with
      | none => exact hnext
      | some q => rfl

theorem result_enterRule_eq {mode : RuleMode} {run : Setting → Step ρ} :
    (enterRule r mode run s i far).result =
      (run (innerSetting mode s) i far).result.map fun (j, ts) => (j, yields r mode s i j ts) := by
  obtain ⟨spacing, inverted⟩ := s
  unfold enterRule yields treesOf
  obtain ⟨o, ho⟩ : ∃ o, run (innerSetting mode ⟨spacing, inverted⟩) i far = o := ⟨_, rfl⟩
  rw [ho]
  rcases o with ⟨_ | ⟨j, inner⟩, far'⟩
  · cases mode <;> simp_all [innerSetting, innerSpacing, outerSpacing, Outcome.failed]
  · by_cases hsolid : outerSpacing mode spacing = .solid <;> cases inverted <;>
      cases mode <;> simp_all [innerSetting, innerSpacing, outerSpacing]

/-- A repetition of a step that takes a character in each round ends in time. -/
theorem comesTo_of_repeated (htakes : ∀ i j ts, i.rest.length ≤ length →
      ComesTo grammar n a s i (some (j, ts)) → j.rest.length < i.rest.length)
    (hstep : ∀ i far, i.rest.length ≤ length → ComesTo grammar n a s i (step i far).result)
    (hlength : i.rest.length ≤ length) (hfuel : i.rest.length < fuel) (first : Bool) (far : Nat) :
    let from' := if first then i else passSpace s.spacing i
    let o := (repeated s.spacing step fuel first i far).result
    ComesTo grammar n a s from' none ∧ o = some (i, []) ∨
      (∃ p, ComesTo grammar n a s from' (some p)) ∧ ∃ p, o = some p ∧
        ComesTo grammar n (.star a) s from' (some p) := by
  dsimp only
  induction fuel generalizing first i far with
  | zero => cases hfuel
  | succ fuel ih =>
      set from' := if first then i else passSpace s.spacing i with hfrom
      have hle : from'.rest.length ≤ i.rest.length := by
        cases first
        · exact length_passSpace_le _ _
        · exact le_rfl
      have hround := hstep from' far (hle.trans hlength)
      rw [repeated, ← hfrom]
      dsimp only
      cases hresult : (step from' far).result with
      | none =>
          rw [hresult] at hround
          exact .inl ⟨hround, rfl⟩
      | some p =>
          obtain ⟨j, ts⟩ := p
          rw [hresult] at hround
          have hlt := htakes _ _ _ (hle.trans hlength) hround
          refine .inr ⟨⟨_, hround⟩, ?_⟩
          have hshort : j.rest.length ≤ length ∧ j.rest.length < fuel := by omega
          dsimp only
          rcases ih hshort.1 hshort.2 false _ with ⟨hend, hnone⟩ | ⟨⟨p, hnext⟩, q, hq, hmore⟩
          · rw [hnone]
            refine ⟨_, rfl, ?_⟩
            rw [List.append_nil]
            exact .last hround hend
          · rw [hq]
            exact ⟨_, rfl, .again hround hnext hmore⟩

theorem comesTo_text (t : Text) :
    ComesTo grammar n (.text t) s i (matchWith call (.text t) s i far).result := by
  rw [matchWith]
  cases hdrop : Text.dropStart? t i.rest with
  | none => exact .noText (Text.dropStart?_eq_none_iff.mp hdrop)
  | some rest => exact .text ⟨Text.dropStart?_eq_some_iff.mp hdrop, rfl⟩

theorem comesTo_range (low high : Char) :
    ComesTo grammar n (.range low high) s i (matchWith call (.range low high) s i far).result := by
  rw [matchWith]
  split
  case h_1 c rest hrest =>
    split
    case isTrue hc => exact .range ⟨hrest, rfl⟩ hc.1 hc.2
    case isFalse hc =>
      refine .noRange fun d rest' hrest' => ?_
      obtain ⟨rfl, -⟩ := List.cons.inj (hrest.symm.trans hrest')
      exact hc
  case h_2 hrest =>
    refine .noRange fun d rest' hrest' => ?_
    rw [hrest] at hrest'
    cases hrest'

/-- One expression after another one, of which the second is matched where the first one ends. -/
theorem comesTo_of_seq (ha : ComesTo grammar n a s i (matchWith call a s i far).result)
    (hb : ∀ j ts far, ComesTo grammar n a s i (some (j, ts)) →
      ComesTo grammar n b s (passSpace s.spacing j)
        (matchWith call b s (passSpace s.spacing j) far).result) :
    ComesTo grammar n (.seq a b) s i (matchWith call (.seq a b) s i far).result := by
  rw [matchWith, result_andThen_eq]
  cases hfirst : (matchWith call a s i far).result with
  | none =>
      rw [hfirst] at ha
      exact .noFirst ha
  | some p =>
      obtain ⟨j, ts⟩ := p
      rw [hfirst] at ha
      have hsecond := hb j ts (matchWith call a s i far).furthest ha
      dsimp only [Option.bind_some]
      cases hnext : (matchWith call b s (passSpace s.spacing j)
          (matchWith call a s i far).furthest).result with
      | none =>
          rw [hnext] at hsecond
          exact .noSecond ha hsecond
      | some q =>
          rw [hnext] at hsecond
          exact .seq ha hsecond

/-- An expression comes to the outcome of the matcher, if the rules that it calls do. -/
theorem comesTo_of_matchWith (hgrammar : Ranked grammar known rank top)
    (hcall : ∀ r s i far, top * i.rest.length + rank r < bound →
      ComesTo grammar n (.rule r) s i (call r s i far).result)
    (he : Peg.leads known rank top m e = true) (hbound : top * i.rest.length + m ≤ bound) :
    ComesTo grammar n e s i (matchWith call e s i far).result := by
  have hmono : ∀ {k l : Nat}, k ≤ l → top * k ≤ top * l := fun h => Nat.mul_le_mul_left top h
  induction e generalizing m s i far with
  | text t => exact comesTo_text t
  | range low high => exact comesTo_range low high
  | any =>
      rw [matchWith]
      split
      case h_1 c rest hrest => exact .any ⟨hrest, rfl⟩
      case h_2 hrest => exact .noAny hrest
  | start =>
      rw [matchWith]
      split
      case isTrue h => exact .start h
      case isFalse h => exact .noStart h
  | stop =>
      rw [matchWith]
      split
      case isTrue h => exact .stop h
      case isFalse h => exact .noStop h
  | seq a b iha ihb =>
      obtain ⟨hea, heb⟩ := Bool.and_eq_true_iff.mp he
      refine comesTo_of_seq (iha hea hbound) fun j ts far ha => ihb heb ?_
      have hspace := length_passSpace_le s.spacing j
      -- after a character was taken, any rule may be called
      split
      case isTrue htakes =>
        have hlt := ha.length_lt hgrammar htakes
        have hround := hmono (Nat.succ_le_of_lt (hspace.trans_lt hlt))
        rw [Nat.mul_succ] at hround
        omega
      case isFalse =>
        have hround := hmono (hspace.trans ha.length_le)
        omega
  | alt a b iha ihb =>
      obtain ⟨hea, heb⟩ := Bool.and_eq_true_iff.mp he
      have ha : ComesTo grammar n a s i (matchWith call a s i far).result := iha hea hbound
      rw [matchWith]
      split
      case h_1 p hfirst =>
        rw [hfirst] at ha ⊢
        exact .left ha
      case h_2 hfirst =>
        rw [hfirst] at ha
        exact .right ha (ihb heb hbound)
  | opt a ih =>
      have ha : ComesTo grammar n a s i (matchWith call a s i far).result := ih he hbound
      rw [matchWith]
      split
      case h_1 p hfirst =>
        rw [hfirst] at ha ⊢
        exact .once ha
      case h_2 hfirst =>
        rw [hfirst] at ha
        exact .without ha
  | star a ih =>
      obtain ⟨htakes, hea⟩ := Bool.and_eq_true_iff.mp he
      have hround : ∀ j far, j.rest.length ≤ i.rest.length →
          ComesTo grammar n a s j (matchWith call a s j far).result := fun j far hj =>
        ih hea (by have := hmono hj; omega)
      have hrounds := comesTo_of_repeated (fun _ _ _ _ h => h.length_lt hgrammar htakes) hround
        (le_refl i.rest.length) (Nat.lt_succ_self i.rest.length) true far
      rw [if_pos rfl] at hrounds
      rw [matchWith]
      rcases hrounds with ⟨hnone, heq⟩ | ⟨-, p, heq, hmore⟩
      · rw [heq]
        exact .done hnone
      · rw [heq]
        exact hmore
  | absent a ih =>
      have ha : ComesTo grammar n a ⟨s.spacing, !s.inverted⟩ i
          (matchWith call a ⟨s.spacing, !s.inverted⟩ i far).result := ih he hbound
      rw [matchWith]
      split
      case h_1 p hfirst =>
        rw [hfirst] at ha
        exact .present ha
      case h_2 hfirst =>
        rw [hfirst] at ha
        exact .absent ha
  | rule r =>
      have hrank : rank r < m := of_decide_eq_true he
      exact hcall r s i far (by omega)

/-- A rule that may go deep enough comes to its outcome. -/
theorem comesTo_of_matchRule (hgrammar : Ranked grammar known rank top)
    (hfuel : top * i.rest.length + rank r < fuel) (hn : top * i.rest.length + rank r < n) :
    ComesTo grammar n (.rule r) s i (matchRule grammar fuel r s i far).result := by
  induction fuel generalizing n r s i far with
  | zero => cases hfuel
  | succ fuel ih =>
      obtain ⟨n, rfl⟩ : ∃ m, n = m + 1 := ⟨n - 1, by omega⟩
      have hcall : ∀ r s i far, top * i.rest.length + rank r < min fuel n →
          ComesTo grammar n (.rule r) s i (matchRule grammar fuel r s i far).result :=
        fun _ _ _ _ h => ih (Nat.lt_min.mp h).1 (Nat.lt_min.mp h).2
      have hbody : ComesTo grammar n (grammar r).body (innerSetting (grammar r).mode s) i
          (matchWith (matchRule grammar fuel) (grammar r).body (innerSetting (grammar r).mode s) i
            far).result :=
        comesTo_of_matchWith hgrammar hcall (hgrammar.leads r)
          (Nat.le_min.mpr ⟨Nat.le_of_lt_succ hfuel, Nat.le_of_lt_succ hn⟩)
      rw [matchRule, result_enterRule_eq]
      cases hresult : (matchWith (matchRule grammar fuel) (grammar r).body
          (innerSetting (grammar r).mode s) i far).result with
      | none =>
          rw [hresult] at hbody
          exact .noRule hbody
      | some p =>
          rw [hresult] at hbody
          exact .rule hbody

end

end TemplateTree.Peg
