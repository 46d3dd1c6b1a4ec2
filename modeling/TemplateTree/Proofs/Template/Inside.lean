import TemplateTree.Proofs.Source.Scanning
import TemplateTree.Proofs.Template.Forced
import TemplateTree.Proofs.Template.Ranks

/-!
# What is read inside a tag

No expression is read past a closing brace that stands outside of quotes.  So texts that are
the same up to such a brace are read alike, whatever follows it.
-/

namespace TemplateTree.Template

open Peg ParseTree Source

/-- A text whose quotes are closed, with no closing brace outside of them. -/
inductive Quiet : Text → Prop
  | nil : Quiet []
  | char {c : Char} {t : Text} (hc : isQuote c = false) (hbrace : c ≠ '\x7d') (h : Quiet t) :
      Quiet (c :: t)
  | quoted {q : Char} {w t : Text} (hq : isQuote q = true) (hw : q ∉ w) (h : Quiet t) :
      Quiet (q :: (w ++ q :: t))

/-- Texts that are the same up to a closing brace outside of quotes, with what follows it. -/
def Within (z z' t t' : Text) : Prop :=
  ∃ y, Quiet y ∧ t = y ++ '\x7d' :: z ∧ t' = y ++ '\x7d' :: z'

def At (z z' t t' : Text) : Prop :=
  t = z ∧ t' = z'

/-- Texts that are the same up to two given ones. -/
def Shared (z z' t t' : Text) : Prop :=
  ∃ x, t = x ++ z ∧ t' = x ++ z'

/-- A character that is no quote and no closing brace. -/
def Still (c : Char) : Prop :=
  isQuote c = false ∧ c ≠ '\x7d'

instance : DecidablePred Still :=
  fun _ => instDecidableAnd

variable {n : Nat} {r : Rule} {e l : Peg Rule} {P : Spacing → Prop} {s : Setting} {i : Input}
  {o : Result Rule} {z z' t t' u v w y p : Text} {c q : Char} {β : Type} {f : Tree → β}

/-! ## Quiet texts -/

theorem Quiet.append (h : Quiet t) (h' : Quiet u) : Quiet (t ++ u) := by
  induction h with
  | nil => exact h'
  | char hc hbrace _ ih => exact .char hc hbrace ih
  | quoted hq hw _ ih =>
      rw [List.cons_append, List.append_assoc, List.cons_append]
      exact .quoted hq hw ih

theorem still_of_all (h : (t.all fun c => decide (Still c)) = true) : ∀ c ∈ t, Still c := by
  simpa using h

theorem quiet_of_still (h : ∀ c ∈ t, Still c) : Quiet t := by
  induction t with
  | nil => exact .nil
  | cons c t ih =>
      obtain ⟨hc, hbrace⟩ := h c List.mem_cons_self
      exact .char hc hbrace (ih fun d hd => h d (List.mem_cons_of_mem c hd))

theorem Quiet.of_cons (h : Quiet (c :: t)) (hc : Still c) : Quiet t := by
  generalize hw : c :: t = w at h
  cases h with
  | nil => cases hw
  | char _ _ h => exact (List.cons.inj hw).2 ▸ h
  | quoted hq => simp [← (List.cons.inj hw).1, hc.1] at hq

theorem Quiet.of_append (h : Quiet (t ++ u)) (ht : ∀ c ∈ t, Still c) : Quiet u := by
  induction t with
  | nil => exact h
  | cons c t ih =>
      exact ih (h.of_cons (ht c List.mem_cons_self)) fun d hd => ht d (List.mem_cons_of_mem c hd)

theorem Quiet.exists_of_quote (h : Quiet (q :: t)) (hq : isQuote q = true) :
    ∃ w u, t = w ++ q :: u ∧ q ∉ w ∧ Quiet u := by
  generalize hw : q :: t = v at h
  cases h with
  | nil => cases hw
  | char hc _ _ => simp [(List.cons.inj hw).1 ▸ hq] at hc
  | @quoted d w u hd hnot h =>
      obtain ⟨rfl, rfl⟩ := List.cons.inj hw
      exact ⟨w, u, rfl, hnot, h⟩

theorem Quiet.head_ne (h : Quiet (c :: t)) : c ≠ '\x7d' := by
  generalize hw : c :: t = v at h
  cases h with
  | nil => cases hw
  | char _ hbrace _ => exact (List.cons.inj hw).1 ▸ hbrace
  | quoted hq =>
      rintro rfl
      rw [← (List.cons.inj hw).1] at hq
      cases hq

/-- Up to its closing brace a text is told by what follows. -/
theorem eq_of_quiet_append (hy : Quiet y) (hp : ∀ c ∈ p, Still c)
    (h : p ++ '\x7d' :: u = y ++ '\x7d' :: v) : p = y := by
  induction p generalizing y with
  | nil =>
      cases y with
      | nil => rfl
      | cons c y => exact absurd (List.cons.inj h).1.symm hy.head_ne
  | cons c p ih =>
      have hc := hp c List.mem_cons_self
      cases y with
      | nil => exact absurd (List.cons.inj h).1 hc.2
      | cons d y =>
          obtain ⟨rfl, hrest⟩ := List.cons.inj h
          rw [ih (hy.of_cons hc) (fun d hd => hp d (List.mem_cons_of_mem c hd)) hrest]

theorem Within.shared (h : Within z z' t t') : Shared z z' t t' := by
  obtain ⟨y, -, rfl, rfl⟩ := h
  exact ⟨y ++ ['\x7d'], by simp, by simp⟩

theorem At.shared (h : At z z' t t') : Shared z z' t t' :=
  ⟨[], h.1, h.2⟩

theorem Shared.append (h : Shared (w ++ z) (w ++ z') t t') : Shared z z' t t' := by
  obtain ⟨x, rfl, rfl⟩ := h
  exact ⟨x ++ w, by simp, by simp⟩

/-- What is taken between texts that are the same up to the same place is the same. -/
theorem text_eq_of_shared {w' u' : Text} (h : Shared z z' (w ++ u) (w' ++ u'))
    (h' : Shared z z' u u') : w = w' := by
  obtain ⟨x, hx, hx'⟩ := h
  obtain ⟨v, rfl, rfl⟩ := h'
  rw [← List.append_assoc] at hx hx'
  have heq : w ++ v = w' ++ v :=
    (List.append_cancel_right hx).trans (List.append_cancel_right hx').symm
  exact List.append_cancel_right heq

theorem seenAlike_of_shared {S S' : Text → Text → Prop} (h : ∀ {t t'}, S t t' → Shared z z' t t')
    (h' : ∀ {t t'}, S' t t' → Shared z z' t t') : SeenAlike unplaced S S' r :=
  seenAlike_of_text_eq fun _ _ _ _ hS hS' => text_eq_of_shared (h hS) (h' hS')

theorem still_of_isSpacing (h : isSpacing c = true) : Still c := by
  simp only [isSpacing, Bool.or_eq_true, decide_eq_true_eq] at h
  rcases h with ((rfl | rfl) | rfl) | rfl <;> decide

theorem quiet_of_isSpacing (h : t.all isSpacing = true) : Quiet t :=
  quiet_of_still fun c hc => still_of_isSpacing (List.all_eq_true.mp h c hc)

theorem quiet_of_dash (h : t = [] ∨ t = ['-']) : Quiet t := by
  rcases h with rfl | rfl <;> exact quiet_of_still (still_of_all rfl)

/-! ## The parts of expressions -/

theorem passes_within : Passes P (Within z z') := by
  refine passes_of_dropWhile ?_
  rintro _ _ ⟨y, hy, rfl, rfl⟩
  have hdrop : ∀ z, (y ++ '\x7d' :: z).dropWhile isSpacing =
      y.dropWhile isSpacing ++ '\x7d' :: z := by
    intro z
    rw [List.dropWhile_append]
    split
    case isTrue hnil => simp [List.isEmpty_iff.mp hnil, isSpacing]
    case isFalse => rfl
  have hsplit : y.takeWhile isSpacing ++ y.dropWhile isSpacing = y :=
    List.takeWhile_append_dropWhile
  refine ⟨y.dropWhile isSpacing, ?_, hdrop z, hdrop z'⟩
  refine Quiet.of_append (t := y.takeWhile isSpacing) (by rwa [hsplit]) fun c hc => ?_
  exact still_of_isSpacing (List.all_eq_true.mp List.all_takeWhile c hc)

theorem tracks_text_within (hp : ∀ c ∈ p, Still c) :
    Tracks grammar n f P (Within z z') (Within z z') (.text p) := by
  refine tracks_text ?_
  rintro _ _ ⟨y, hy, rfl, rfl⟩
  have hbrace : '\x7d' ∉ p := fun hmem => (hp _ hmem).2 rfl
  by_cases hpre : p <+: y
  · obtain ⟨y, rfl⟩ := hpre
    exact .inr ⟨_, _, List.append_assoc _ _ _, List.append_assoc _ _ _, y, hy.of_append hp, rfl,
      rfl⟩
  · left
    rw [Text.prefix_append_cons_iff hbrace, Text.prefix_append_cons_iff hbrace]
    exact ⟨hpre, hpre⟩

theorem tracks_range_within {low high : Char} (h : ∀ c, low ≤ c → c ≤ high → Still c) :
    Tracks grammar n f P (Within z z') (Within z z') (.range low high) := by
  refine tracks_range ?_
  rintro _ _ ⟨y, hy, rfl, rfl⟩
  cases y with
  | nil =>
      have hout : ∀ u : Text, ∀ c ∈ ('\x7d' :: u).head?, ¬ (low ≤ c ∧ c ≤ high) := by
        intro u c hc hin
        obtain rfl : '\x7d' = c := Option.some.inj hc
        exact (h _ hin.1 hin.2).2 rfl
      exact .inl ⟨hout z, hout z'⟩
  | cons d y =>
      by_cases hd : low ≤ d ∧ d ≤ high
      · exact .inr ⟨d, _, _, rfl, rfl, y, hy.of_cons (h d hd.1 hd.2), rfl, rfl⟩
      · have hout : ∀ u : Text, ∀ c ∈ (d :: y ++ u).head?, ¬ (low ≤ c ∧ c ≤ high) := by
          intro u c hc
          rwa [← Option.some.inj hc]
        exact .inl ⟨hout _, hout _⟩

/-- The end of a tag is read where the text up to the closing brace is at its end. -/
theorem tracks_close (hp : ∀ c ∈ p, Still c) (rest : Text) :
    Tracks grammar n f P (Within (rest ++ z) (rest ++ z')) (At z z')
      (.text (p ++ '\x7d' :: rest)) := by
  refine tracks_text ?_
  rintro _ _ ⟨y, hy, rfl, rfl⟩
  by_cases hpy : p = y
  · subst hpy
    exact .inr ⟨z, z', by simp, by simp, rfl, rfl⟩
  · have hout : ∀ u, ¬ p ++ '\x7d' :: rest <+: y ++ '\x7d' :: (rest ++ u) := by
      rintro u ⟨v, hv⟩
      rw [List.append_assoc, List.cons_append] at hv
      exact hpy (eq_of_quiet_append hy hp hv)
    exact .inl ⟨hout z, hout z'⟩

/-! ## Quoted texts -/

theorem takes_between (hs : s.spacing ≠ .free) (hw : q ∉ w)
    (hi : i.rest = q :: (w ++ q :: u)) :
    Takes grammar n (Rule.between (.text [q])) s i (q :: (w ++ [q])) [] := by
  have hopen : Takes grammar n (.text [q]) s i [q] [] := takes_text hi
  refine Takes.seq hs hopen fun j hj => ?_
  have hjrest : j.rest = w ++ ([q] ++ u) := (List.cons.inj (hj.rest.symm.trans hi)).2
  have hinside : Takes grammar n (.star (.upTo (.text [q]))) s j w [] := by
    refine takes_star_upTo hs hjrest (fun x hx hne k hk => fails_text ?_) (.inr fun k hk => ?_)
    · obtain ⟨c, x, rfl⟩ := List.exists_cons_of_ne_nil hne
      rintro ⟨v, hv⟩
      obtain rfl : q = c := (List.cons.inj (hv.trans hk)).1
      exact hw (hx.subset List.mem_cons_self)
    · rintro (_ | hnot)
      exact hnot ⟨u, hk.symm⟩
  exact Takes.seq hs hinside fun k hk =>
    takes_text (List.append_cancel_left (hk.rest.symm.trans hjrest))

theorem fails_between (h : ¬ [q] <+: i.rest) :
    Fails grammar n (Rule.between (.text [q])) s i :=
  .seq (fails_text h)

theorem tracks_between (hq : isQuote q = true) :
    Tracks grammar n f Unspaced (Within z z') (Within z z') (Rule.between (.text [q])) := by
  rintro s i i' o o' hs ⟨y, hy, hi, hi'⟩ ho ho'
  by_cases hopen : ∃ v, y = q :: v
  · obtain ⟨v, rfl⟩ := hopen
    obtain ⟨w, v, rfl, hw, hv⟩ := hy.exists_of_quote hq
    have hsplit : ∀ z, q :: (w ++ q :: v) ++ '\x7d' :: z =
        q :: (w ++ q :: (v ++ '\x7d' :: z)) := fun z => by simp
    have hclosed : ∀ z, q :: (w ++ q :: v) ++ '\x7d' :: z =
        q :: (w ++ [q]) ++ (v ++ '\x7d' :: z) := fun z => by simp
    refine (takes_between hs hw (hi.trans (hsplit z))).alike
      (takes_between hs hw (hi'.trans (hsplit z'))) ho ho' (fun j j' hj hj' => ⟨v, hv, ?_, ?_⟩) rfl
    · exact List.append_cancel_left (hj.rest.symm.trans (hi.trans (hclosed z)))
    · exact List.append_cancel_left (hj'.rest.symm.trans (hi'.trans (hclosed z')))
  · have hout : ∀ z, ¬ [q] <+: y ++ '\x7d' :: z := by
      rintro z ⟨v, hv⟩
      cases y with
      | nil =>
          rw [(List.cons.inj hv).1] at hq
          cases hq
      | cons c y => exact hopen ⟨y, by rw [(List.cons.inj hv).1]⟩
    exact (fails_between (hi ▸ hout z)).alike (fails_between (hi' ▸ hout z')) ho ho'

theorem tracks_string : Tracks grammar n unplaced Spaced (Within z z') (Within z z')
    (.rule .string) := by
  cases n with
  | zero =>
      intro s i i' o o' _ _ h
      cases h
  | succ n =>
      refine .rule (Q := Unspaced) (fun s _ => ?_)
        (fun _ => seenAlike_of_shared Within.shared Within.shared) ?_
      · exact (by decide : Spacing.solid ≠ .free)
      · exact .alt (tracks_between (by decide))
          (.alt (tracks_between (by decide)) (tracks_between (by decide)))

/-! ## Expressions -/

/-- The rules of what stands inside tags. -/
def standsInside (r : Rule) : Bool :=
  [Rule.int, .float, .string, .boolean, .opOr, .opAnd, .opNot, .opLte, .opGte, .opLt, .opGt,
    .opIneq, .opEq, .opPlus, .opMinus, .opTimes, .opSlash, .opModulo, .ident, .dottedIdent,
    .squareBrackets, .pathIdent, .kwarg, .fnCall, .filter, .testArg, .testCall, .test, .testNot,
    .macroCall, .basicVal, .basicOp, .basicExpr, .basicExprFilter, .stringConcat,
    .stringExprFilter, .comparisonVal, .comparisonOp, .comparisonExpr, .inContainer, .inCond,
    .logicVal, .logicExpr, .array, .arrayFilter, .stringArray, .macroDefArg, .macroDef,
    .ignoreMissing].contains r

/-- Whether a part of an expression stays inside a tag. -/
def staysInside : Peg Rule → Bool
  | .text t => t.all fun c => decide (Still c)
  | .range low high =>
    ['"', '\'', Char.ofNat 0x60, '\x7d'].all fun c => !(low ≤ c && c ≤ high)
  | .rule r => standsInside r
  | _ => false

theorem still_of_outside {low high : Char}
    (h : (['"', '\'', Char.ofNat 0x60, '\x7d'].all fun c => !(low ≤ c && c ≤ high)) = true)
    (hlow : low ≤ c) (hhigh : c ≤ high) : Still c := by
  have hout : ∀ x ∈ ['"', '\'', Char.ofNat 0x60, '\x7d'], c ≠ x := by
    rintro x hx rfl
    simpa [hlow, hhigh] using List.all_eq_true.mp h c hx
  have hback : Char.ofNat 0x60 = '`' := rfl
  simp only [List.forall_mem_cons, hback] at hout
  exact ⟨by simp [isQuote, hout], hout.2.2.2.1⟩

theorem staysInside_of_body (hr : standsInside r = true) (hstring : r ≠ .string) :
    (grammar r).body.leaves.all staysInside = true := by
  cases r
  case string => exact absurd rfl hstring
  all_goals first | rfl | cases hr

/-- What stands inside a tag is read alike up to the closing brace. -/
theorem tracks_within (hr : standsInside r = true) :
    Tracks grammar n unplaced Spaced (Within z z') (Within z z') (.rule r) := by
  by_cases hstring : r = .string
  · subst hstring
    exact tracks_string
  · refine .of_rules (E := fun r => standsInside r = true ∧ r ≠ .string) passes_within
      (fun r _ _ => seenAlike_of_shared Within.shared Within.shared) ?_ ⟨hr, hstring⟩
    rintro r ⟨hr, hstring⟩ l hl
    have hstays := List.all_eq_true.mp (staysInside_of_body hr hstring) l hl
    cases l with
    | text t => exact .inr fun n => tracks_text_within (still_of_all hstays)
    | range low high => exact .inr fun n => tracks_range_within fun c => still_of_outside hstays
    | rule q =>
        by_cases hq : q = .string
        · subst hq
          exact .inr fun n => tracks_string
        · exact .inl ⟨q, rfl, hstays, hq⟩
    | _ => cases hstays

/-- An expression of such parts is read alike up to the closing brace. -/
theorem tracks_of_staysInside (h : e.leaves.all staysInside = true) :
    Tracks grammar n unplaced Spaced (Within z z') (Within z z') e := by
  refine .of_leaves passes_within fun l hl => ?_
  have hstays := List.all_eq_true.mp h l hl
  cases l with
  | text t => exact tracks_text_within (still_of_all hstays)
  | range low high => exact tracks_range_within fun c => still_of_outside hstays
  | rule q => exact tracks_within hstays
  | _ => cases hstays

end TemplateTree.Template
