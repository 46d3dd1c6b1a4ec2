import TemplateTree.Proofs.Template.Resembling

/-!
# Matches with one outcome

Often the text at hand says at once what a match takes, or that it fails.  What is known of
the parts of an expression is put together here.
-/

namespace TemplateTree.Peg

open ParseTree

variable {ρ β : Type} {grammar : ρ → PegRule ρ} {a b e : Peg ρ} {r : ρ} {s : Setting}
  {i i' j k : Input} {o o' : Result ρ} {ts ts' : List (ParseTree ρ)} {p u w w' : Text}
  {f : ParseTree ρ → β} {S : Text → Text → Prop} {n : Nat}

/-- A match can only take a text and yield trees. -/
def Takes (grammar : ρ → PegRule ρ) (n : Nat) (e : Peg ρ) (s : Setting) (i : Input) (w : Text)
    (ts : List (ParseTree ρ)) : Prop :=
  ∀ ⦃o⦄, ComesTo grammar n e s i o → ∃ j, o = some (j, ts) ∧ Reads i w j

/-- A match can only fail. -/
def Fails (grammar : ρ → PegRule ρ) (n : Nat) (e : Peg ρ) (s : Setting) (i : Input) : Prop :=
  ∀ ⦃o⦄, ComesTo grammar n e s i o → o = none

theorem Takes.alike (h : Takes grammar n e s i w ts) (h' : Takes grammar n e s i' w' ts')
    (ho : ComesTo grammar n e s i o) (ho' : ComesTo grammar n e s i' o')
    (hrest : ∀ j j', Reads i w j → Reads i' w' j' → S j.rest j'.rest)
    (htrees : ts.map f = ts'.map f) : Alike f S o o' := by
  obtain ⟨j, rfl, hread⟩ := h ho
  obtain ⟨j', rfl, hread'⟩ := h' ho'
  exact .matched (hrest j j' hread hread') htrees

theorem Fails.alike (h : Fails grammar n e s i) (h' : Fails grammar n e s i')
    (ho : ComesTo grammar n e s i o) (ho' : ComesTo grammar n e s i' o') : Alike f S o o' := by
  rw [h ho, h' ho']
  exact .failed

/-! ## Texts and parts -/

theorem takes_text (h : i.rest = p ++ u) : Takes grammar n (.text p) s i p [] := by
  intro o ho
  cases ho with
  | text hread => exact ⟨_, rfl, hread⟩
  | noText hnot => exact absurd ⟨u, h.symm⟩ hnot

theorem fails_text (h : ¬ p <+: i.rest) : Fails grammar n (.text p) s i := by
  intro o ho
  cases ho with
  | text hread => exact absurd ⟨_, hread.rest.symm⟩ h
  | noText _ => rfl

theorem comesTo_seq (h : ComesTo grammar n (.seq a b) s i o) :
    ComesTo grammar n a s i none ∧ o = none ∨
      ∃ j ts o', ComesTo grammar n a s i (some (j, ts)) ∧
        ComesTo grammar n b s (passSpace s.spacing j) o' ∧
        o = o'.map fun (k, ts') => (k, ts ++ ts') := by
  cases h with
  | noFirst ha => exact .inl ⟨ha, rfl⟩
  | seq ha hb => exact .inr ⟨_, _, _, ha, hb, rfl⟩
  | noSecond ha hb => exact .inr ⟨_, _, _, ha, hb, rfl⟩

theorem Takes.seq (hs : s.spacing ≠ .free) (ha : Takes grammar n a s i w ts)
    (hb : ∀ j, Reads i w j → Takes grammar n b s j w' ts') :
    Takes grammar n (.seq a b) s i (w ++ w') (ts ++ ts') := by
  intro o ho
  rcases comesTo_seq ho with ⟨hnone, -⟩ | ⟨j, us, o', hfirst, hsecond, rfl⟩
  · obtain ⟨j, hj, -⟩ := ha hnone
    cases hj
  · obtain ⟨_, heq, hread⟩ := ha hfirst
    cases heq
    rw [passSpace_of_ne_free hs] at hsecond
    obtain ⟨k, rfl, hread'⟩ := hb j hread hsecond
    exact ⟨k, rfl, hread.trans hread'⟩

theorem Fails.seq (ha : Fails grammar n a s i) : Fails grammar n (.seq a b) s i := by
  intro o ho
  rcases comesTo_seq ho with ⟨-, rfl⟩ | ⟨j, us, o', hfirst, -, -⟩
  · rfl
  · cases ha hfirst

theorem Fails.alt (ha : Fails grammar n a s i) (hb : Fails grammar n b s i) :
    Fails grammar n (.alt a b) s i := by
  intro o ho
  cases ho with
  | left hfirst => cases ha hfirst
  | right _ hsecond => exact hb hsecond

/-! ## Rules -/

theorem Fails.rule
    (h : ∀ n, Fails grammar n (grammar r).body (innerSetting (grammar r).mode s) i) :
    Fails grammar n (.rule r) s i := by
  intro o ho
  cases ho with
  | noRule _ => rfl
  | rule hbody => cases h _ hbody

/-! ## Up to a mark -/

theorem ComesTo.of_upTo (hs : s.spacing ≠ .free)
    (h : ComesTo grammar n (.upTo a) s i (some (j, ts))) :
    ComesTo grammar n a ⟨s.spacing, !s.inverted⟩ i none ∧ (∃ c, Reads i [c] j) ∧ ts = [] := by
  cases h with
  | seq habsent hany =>
      cases habsent with
      | absent hnone =>
          rw [passSpace_of_ne_free hs] at hany
          cases hany with
          | any hread => exact ⟨hnone, ⟨_, hread⟩, rfl⟩

theorem ComesTo.of_not_upTo (hs : s.spacing ≠ .free) (h : ComesTo grammar n (.upTo a) s i none) :
    (∃ p, ComesTo grammar n a ⟨s.spacing, !s.inverted⟩ i (some p)) ∨ i.rest = [] := by
  cases h with
  | noFirst habsent =>
      cases habsent with
      | present hsome => exact .inl ⟨_, hsome⟩
  | noSecond habsent hany =>
      cases habsent with
      | absent _ =>
          rw [passSpace_of_ne_free hs] at hany
          cases hany with
          | noAny hnil => exact .inr hnil

/-- A repetition up to a mark takes the text before the mark. -/
theorem takes_star_upTo (hs : s.spacing ≠ .free) (hi : i.rest = w ++ u)
    (hbefore : ∀ x, x <:+ w → x ≠ [] → ∀ j, j.rest = x ++ u →
      Fails grammar n a ⟨s.spacing, !s.inverted⟩ j)
    (hmark : u = [] ∨ ∀ j, j.rest = u → ¬ ComesTo grammar n a ⟨s.spacing, !s.inverted⟩ j none) :
    Takes grammar n (.star (.upTo a)) s i w [] := by
  intro o h
  induction w generalizing i o with
  | nil =>
      have hnot : ∀ p, ¬ ComesTo grammar n (.upTo a) s i (some p) := by
        rintro ⟨j, ts⟩ hround
        obtain ⟨hnone, ⟨c, hread⟩, -⟩ := hround.of_upTo hs
        rcases hmark with rfl | hmark
        · simp [hread.rest] at hi
        · exact hmark i hi hnone
      cases h with
      | done _ => exact ⟨i, rfl, .refl i⟩
      | last hround _ => exact absurd hround (hnot _)
      | again hround _ _ => exact absurd hround (hnot _)
  | cons c w ih =>
      have hround : ∀ o, ComesTo grammar n (.upTo a) s i o →
          ∃ j, o = some (j, []) ∧ Reads i [c] j := by
        rintro (_ | ⟨j, ts⟩) ho
        · rcases ho.of_not_upTo hs with ⟨p, hp⟩ | hnil
          · cases hbefore _ List.suffix_rfl (List.cons_ne_nil c w) i hi hp
          · simp [hi] at hnil
        · obtain ⟨-, ⟨d, hread⟩, rfl⟩ := ho.of_upTo hs
          obtain rfl : c = d := (List.cons.inj (hi.symm.trans hread.rest)).1
          exact ⟨j, rfl, hread⟩
      have hmore : ∀ j o, Reads i [c] j → ComesTo grammar n (.star (.upTo a)) s j o →
          ∃ k, o = some (k, []) ∧ Reads i (c :: w) k := by
        intro j o hread ho
        have hj : j.rest = w ++ u := (List.cons.inj (hread.rest.symm.trans hi)).2
        obtain ⟨k, rfl, hk⟩ := ih hj (fun x hx => hbefore x (hx.trans (List.suffix_cons c w))) ho
        exact ⟨k, rfl, hread.trans hk⟩
      cases h with
      | done hend =>
          obtain ⟨j, hj, -⟩ := hround _ hend
          cases hj
      | last hfirst hend =>
          obtain ⟨j, hj, hread⟩ := hround _ hfirst
          cases hj
          rw [passSpace_of_ne_free hs] at hend
          exact hmore _ _ hread (.done hend)
      | again hfirst hnext hrest =>
          obtain ⟨j, hj, hread⟩ := hround _ hfirst
          cases hj
          rw [passSpace_of_ne_free hs] at hrest
          exact hmore _ _ hread hrest

/-- A mark fails before each character of a text that leads to an input. -/
def Unmarked (grammar : ρ → PegRule ρ) (n : Nat) (a : Peg ρ) (s : Setting) (w : Text)
    (j : Input) : Prop :=
  ∀ x, x <:+ w → x ≠ [] →
    ∃ k, k.rest = x ++ j.rest ∧ ComesTo grammar n a ⟨s.spacing, !s.inverted⟩ k none

theorem unmarked_nil : Unmarked grammar n a s [] j :=
  fun _ hx hne => absurd (List.suffix_nil.mp hx) hne

theorem Unmarked.cons (h : Unmarked grammar n a s w k) (hs : s.spacing ≠ .free)
    (hfirst : ComesTo grammar n (.upTo a) s i (some (j, ts))) (hread : Reads j w k) :
    ts = [] ∧ ∃ c, Reads i (c :: w) k ∧ Unmarked grammar n a s (c :: w) k := by
  obtain ⟨hnone, ⟨c, hc⟩, rfl⟩ := hfirst.of_upTo hs
  refine ⟨rfl, c, hc.trans hread, fun x hx hne => ?_⟩
  rcases List.suffix_cons_iff.mp hx with rfl | hx
  · exact ⟨i, (hc.trans hread).rest, hnone⟩
  · exact h x hx hne

/-- What a repetition up to a mark takes is unmarked. -/
theorem ComesTo.exists_of_star_upTo (hs : s.spacing ≠ .free)
    (h : ComesTo grammar n (.star (.upTo a)) s i (some (j, ts))) :
    ∃ w, Reads i w j ∧ ts = [] ∧ Unmarked grammar n a s w j := by
  generalize he : Peg.star (.upTo a) = e at h
  generalize ho : some (j, ts) = o at h
  induction h generalizing j ts with
  | done _ =>
      cases ho
      exact ⟨[], .refl _, rfl, unmarked_nil⟩
  | last hfirst _ =>
      obtain rfl := Peg.star.inj he
      cases ho
      obtain ⟨rfl, c, hc, hall⟩ := unmarked_nil.cons hs hfirst (.refl _)
      exact ⟨[c], hc, rfl, hall⟩
  | again hfirst _ hrest _ _ ih =>
      obtain rfl := Peg.star.inj he
      cases ho
      rw [passSpace_of_ne_free hs] at ih
      obtain ⟨w, hw, rfl, hmore⟩ := ih hs rfl rfl
      obtain ⟨rfl, c, hc, hall⟩ := hmore.cons hs hfirst hw
      exact ⟨c :: w, hc, rfl, hall⟩
  | _ => cases he

theorem ComesTo.exists_of_plus_upTo (hs : s.spacing ≠ .free)
    (h : ComesTo grammar n (.plus (.upTo a)) s i (some (j, ts))) :
    ∃ w, Reads i w j ∧ ts = [] ∧ Unmarked grammar n a s w j := by
  cases h with
  | seq hfirst hmore =>
      rw [passSpace_of_ne_free hs] at hmore
      obtain ⟨w, hw, rfl, hall⟩ := hmore.exists_of_star_upTo hs
      obtain ⟨rfl, c, hc, hall⟩ := hall.cons hs hfirst hw
      exact ⟨c :: w, hc, rfl, hall⟩

end TemplateTree.Peg
