import TemplateTree.Proofs.Template.Outcomes

/-!
# Matches that resemble each other

Two inputs that are related in some way may lead every match to outcomes that are related in
the same way.  For an expression this follows from its parts, so that it has to be shown for
the parts that no rule takes apart.
-/

namespace TemplateTree.Peg

open ParseTree

variable {ρ β : Type} {grammar : ρ → PegRule ρ} {a b e : Peg ρ} {r : ρ} {s : Setting}
  {i i' j j' : Input} {o o' : Result ρ} {ts ts' : List (ParseTree ρ)} {t w : Text}
  {f : ParseTree ρ → β} {P Q : Spacing → Prop} {S S' S'' : Text → Text → Prop} {n : Nat}

/-- Outcomes that leave related texts and yield trees of which the same is seen. -/
inductive Alike (f : ParseTree ρ → β) (S : Text → Text → Prop) : Result ρ → Result ρ → Prop
  | failed : Alike f S none none
  | matched {j j' : Input} {ts ts' : List (ParseTree ρ)} (hrest : S j.rest j'.rest)
      (htrees : ts.map f = ts'.map f) : Alike f S (some (j, ts)) (some (j', ts'))

/-- An expression that leads from related texts to related texts, in the kinds of spacing that
are looked at. -/
def Tracks (grammar : ρ → PegRule ρ) (n : Nat) (f : ParseTree ρ → β) (P : Spacing → Prop)
    (S S' : Text → Text → Prop) (e : Peg ρ) : Prop :=
  ∀ ⦃s i i' o o'⦄, P s.spacing → S i.rest i'.rest → ComesTo grammar n e s i o →
    ComesTo grammar n e s i' o' → Alike f S' o o'

/-- White space may be passed over on both sides. -/
def Passes (P : Spacing → Prop) (S : Text → Text → Prop) : Prop :=
  ∀ ⦃s i i'⦄, P s → S i.rest i'.rest → S (passSpace s i).rest (passSpace s i').rest

/-- Every kind of spacing. -/
def Spaced : Spacing → Prop :=
  fun _ => True

/-- Spacing in which no white space is passed over. -/
def Unspaced (s : Spacing) : Prop :=
  s ≠ .free

theorem rest_passSpace (s : Spacing) (i : Input) : (passSpace s i).rest =
    if s = .free then i.rest.dropWhile isSpacing else i.rest := by
  unfold passSpace
  split
  · have hsplit : i.rest.takeWhile isSpacing ++ i.rest.dropWhile isSpacing = i.rest :=
      List.takeWhile_append_dropWhile
    exact (congrArg (List.drop _) hsplit.symm).trans List.drop_left
  · rfl

theorem passes_of_dropWhile
    (h : ∀ t t', S t t' → S (t.dropWhile isSpacing) (t'.dropWhile isSpacing)) : Passes P S := by
  intro s i i' _ hS
  rw [rest_passSpace, rest_passSpace]
  split
  · exact h _ _ hS
  · exact hS

theorem passes_unspaced : Passes Unspaced S := by
  intro s i i' hs hS
  rwa [passSpace_of_ne_free hs, passSpace_of_ne_free hs]

theorem Alike.mono (h : Alike f S o o') (hS : ∀ t t', S t t' → S' t t') : Alike f S' o o' := by
  cases h with
  | failed => exact .failed
  | matched hrest htrees => exact .matched (hS _ _ hrest) htrees

theorem Alike.exists_of_some (h : Alike f S (some (j, ts)) o') :
    ∃ j' ts', o' = some (j', ts') ∧ ts.map f = ts'.map f := by
  cases h with
  | matched _ htrees => exact ⟨_, _, rfl, htrees⟩

theorem Tracks.mono (h : Tracks grammar n f P S S' e) (hS : ∀ t t', S' t t' → S'' t t') :
    Tracks grammar n f P S S'' e :=
  fun _ _ _ _ _ hs hi ho ho' => (h hs hi ho ho').mono hS

/-! ## The parts of an expression -/

theorem Tracks.seq (hspace : Passes P S') (ha : Tracks grammar n f P S S' a)
    (hb : Tracks grammar n f P S' S'' b) : Tracks grammar n f P S S'' (.seq a b) := by
  intro s i i' o o' hs hS h h'
  cases h with
  | seq hfirst hsecond =>
      cases h' with
      | seq hfirst' hsecond' =>
          cases ha hs hS hfirst hfirst' with
          | matched hrest htrees =>
              cases hb hs (hspace hs hrest) hsecond hsecond' with
              | matched hrest' htrees' =>
                  exact .matched hrest' (by rw [List.map_append, List.map_append, htrees, htrees'])
      | noFirst hfirst' => cases ha hs hS hfirst hfirst'
      | noSecond hfirst' hsecond' =>
          cases ha hs hS hfirst hfirst' with
          | matched hrest htrees => cases hb hs (hspace hs hrest) hsecond hsecond'
  | noFirst hfirst =>
      cases h' with
      | seq hfirst' _ => cases ha hs hS hfirst hfirst'
      | noFirst _ => exact .failed
      | noSecond _ _ => exact .failed
  | noSecond hfirst hsecond =>
      cases h' with
      | seq hfirst' hsecond' =>
          cases ha hs hS hfirst hfirst' with
          | matched hrest htrees => cases hb hs (hspace hs hrest) hsecond hsecond'
      | noFirst _ => exact .failed
      | noSecond _ _ => exact .failed

theorem Tracks.alt (ha : Tracks grammar n f P S S' a) (hb : Tracks grammar n f P S S' b) :
    Tracks grammar n f P S S' (.alt a b) := by
  intro s i i' o o' hs hS h h'
  cases h with
  | left hfirst =>
      cases h' with
      | left hfirst' => exact ha hs hS hfirst hfirst'
      | right hfirst' _ => cases ha hs hS hfirst hfirst'
  | right hfirst hsecond =>
      cases h' with
      | left hfirst' => cases ha hs hS hfirst hfirst'
      | right _ hsecond' => exact hb hs hS hsecond hsecond'

theorem Tracks.opt (hS : ∀ t t', S t t' → S' t t') (ha : Tracks grammar n f P S S' a) :
    Tracks grammar n f P S S' (.opt a) := by
  intro s i i' o o' hs hi h h'
  cases h with
  | once hfirst =>
      cases h' with
      | once hfirst' => exact ha hs hi hfirst hfirst'
      | without hfirst' => cases ha hs hi hfirst hfirst'
  | without hfirst =>
      cases h' with
      | once hfirst' => cases ha hs hi hfirst hfirst'
      | without _ => exact .matched (hS _ _ hi) rfl

theorem Tracks.star (hspace : Passes P S) (ha : Tracks grammar n f P S S a) :
    Tracks grammar n f P S S (.star a) := by
  intro s i i' o o' hs hS h h'
  generalize he : Peg.star a = e at h
  induction h generalizing i' o' with
  | done hfirst =>
      obtain rfl := Peg.star.inj he
      cases h' with
      | done _ => exact .matched hS rfl
      | last hfirst' _ => cases ha hs hS hfirst hfirst'
      | again hfirst' _ _ => cases ha hs hS hfirst hfirst'
  | last hfirst hend =>
      obtain rfl := Peg.star.inj he
      cases h' with
      | done hfirst' => cases ha hs hS hfirst hfirst'
      | last hfirst' _ => exact ha hs hS hfirst hfirst'
      | again hfirst' hnext' _ =>
          cases ha hs hS hfirst hfirst' with
          | matched hrest htrees => cases ha hs (hspace hs hrest) hend hnext'
  | again hfirst hnext _ _ _ ih =>
      obtain rfl := Peg.star.inj he
      cases h' with
      | done hfirst' => cases ha hs hS hfirst hfirst'
      | last hfirst' hend' =>
          cases ha hs hS hfirst hfirst' with
          | matched hrest htrees => cases ha hs (hspace hs hrest) hnext hend'
      | again hfirst' _ hrest' =>
          cases ha hs hS hfirst hfirst' with
          | matched hrest htrees =>
              cases ih ha hs (hspace hs hrest) hrest' rfl with
              | matched hleft htrees' =>
                  exact .matched hleft (by rw [List.map_append, List.map_append, htrees, htrees'])
  | _ => cases he

theorem Tracks.absent (ha : Tracks grammar n f P S S' a) :
    Tracks grammar n f P S S (.absent a) := by
  intro s i i' o o' hs hS h h'
  have hs : P (Setting.mk s.spacing (!s.inverted)).spacing := hs
  cases h with
  | absent hnone =>
      cases h' with
      | absent _ => exact .matched hS rfl
      | present hsome' => cases ha hs hS hnone hsome'
  | present hsome =>
      cases h' with
      | absent hnone' => cases ha hs hS hsome hnone'
      | present _ => exact .failed

theorem tracks_text {p : Text} (h : ∀ t t', S t t' → (¬ p <+: t ∧ ¬ p <+: t') ∨
    ∃ u u', t = p ++ u ∧ t' = p ++ u' ∧ S' u u') : Tracks grammar n f P S S' (.text p) := by
  intro s i i' o o' _ hS ho ho'
  rcases h _ _ hS with ⟨hnot, hnot'⟩ | ⟨u, u', hu, hu', hS'⟩
  · cases ho with
    | text hread => exact absurd ⟨_, hread.rest.symm⟩ hnot
    | noText _ =>
        cases ho' with
        | text hread' => exact absurd ⟨_, hread'.rest.symm⟩ hnot'
        | noText _ => exact .failed
  · cases ho with
    | text hread =>
        cases ho' with
        | text hread' =>
            obtain rfl := List.append_cancel_left (hu.symm.trans hread.rest)
            obtain rfl := List.append_cancel_left (hu'.symm.trans hread'.rest)
            exact .matched hS' rfl
        | noText hnot' => exact absurd ⟨_, hu'.symm⟩ hnot'
    | noText hnot => exact absurd ⟨_, hu.symm⟩ hnot

theorem tracks_range {low high : Char} (h : ∀ t t', S t t' →
    (∀ c ∈ t.head?, ¬ (low ≤ c ∧ c ≤ high)) ∧ (∀ c ∈ t'.head?, ¬ (low ≤ c ∧ c ≤ high)) ∨
      ∃ c u u', t = c :: u ∧ t' = c :: u' ∧ S' u u') :
    Tracks grammar n f P S S' (.range low high) := by
  intro s i i' o o' _ hS ho ho'
  rcases h _ _ hS with ⟨hnot, hnot'⟩ | ⟨c, u, u', hu, hu', hS'⟩
  · cases ho with
    | range hread hlow hhigh => exact absurd ⟨hlow, hhigh⟩ (hnot _ (by rw [hread.rest]; rfl))
    | noRange _ =>
        cases ho' with
        | range hread' hlow hhigh =>
            exact absurd ⟨hlow, hhigh⟩ (hnot' _ (by rw [hread'.rest]; rfl))
        | noRange _ => exact .failed
  · cases ho with
    | range hread hlow hhigh =>
        obtain ⟨rfl, rfl⟩ := List.cons.inj (hu.symm.trans hread.rest)
        cases ho' with
        | range hread' _ _ =>
            obtain ⟨-, rfl⟩ := List.cons.inj (hu'.symm.trans hread'.rest)
            exact .matched hS' rfl
        | noRange hnot' => exact absurd ⟨hlow, hhigh⟩ (hnot' _ _ hu')
    | noRange hnot =>
        cases ho' with
        | range hread' hlow hhigh =>
            obtain ⟨rfl, -⟩ := List.cons.inj (hu'.symm.trans hread'.rest)
            exact absurd ⟨hlow, hhigh⟩ (hnot _ _ hu)
        | noRange _ => exact .failed

/-! ## Rules -/

/-- Of the tree of a rule the same is seen on both sides if this is so of the trees inside it. -/
def SeenAlike (f : ParseTree ρ → β) (S S' : Text → Text → Prop) (r : ρ) : Prop :=
  ∀ ⦃w w' u u' p p' ts ts'⦄, S (w ++ u) (w' ++ u') → S' u u' → ts.map f = ts'.map f →
    f (.node r p w ts) = f (.node r p' w' ts')

theorem alike_rule (hseen : (grammar r).mode ≠ .silent → SeenAlike f S S' r)
    (hS : S i.rest i'.rest)
    (h : ∀ o o', ComesTo grammar n (grammar r).body (innerSetting (grammar r).mode s) i o →
      ComesTo grammar n (grammar r).body (innerSetting (grammar r).mode s) i' o' → Alike f S' o o')
    (ho : ComesTo grammar (n + 1) (.rule r) s i o)
    (ho' : ComesTo grammar (n + 1) (.rule r) s i' o') : Alike f S' o o' := by
  cases ho with
  | noRule hbody =>
      cases ho' with
      | noRule _ => exact .failed
      | rule hbody' => cases h _ _ hbody hbody'
  | rule hbody =>
      cases ho' with
      | noRule hbody' => cases h _ _ hbody hbody'
      | rule hbody' =>
          cases h _ _ hbody hbody' with
          | matched hrest htrees =>
              refine .matched hrest ?_
              obtain ⟨w, hw⟩ := hbody.exists_reads
              obtain ⟨w', hw'⟩ := hbody'.exists_reads
              rw [hw.rest, hw'.rest] at hS
              unfold yields treesOf
              rw [hw.take_eq, hw'.take_eq]
              split
              · exact htrees
              · split
                case isTrue => exact htrees
                case isFalse hshows =>
                  have hloud : (grammar r).mode ≠ .silent := fun hmode => hshows (.inl hmode)
                  exact congrArg ([·]) (hseen hloud hS hrest htrees)

theorem Tracks.rule (hmode : ∀ s, P s → Q (innerSpacing (grammar r).mode s))
    (hseen : (grammar r).mode ≠ .silent → SeenAlike f S S' r)
    (h : Tracks grammar n f Q S S' (grammar r).body) :
    Tracks grammar (n + 1) f P S S' (.rule r) := fun _ _ _ _ _ hs hS =>
  alike_rule hseen hS fun _ _ => h (hmode _ hs) hS

/-- The parts of an expression that are not taken apart. -/
def leaves : Peg ρ → List (Peg ρ)
  | .seq a b => leaves a ++ leaves b
  | .alt a b => leaves a ++ leaves b
  | .opt a => leaves a
  | .star a => leaves a
  | .absent a => leaves a
  | e => [e]

theorem Tracks.of_leaves (hspace : Passes P S) (h : ∀ l ∈ e.leaves, Tracks grammar n f P S S l) :
    Tracks grammar n f P S S e := by
  induction e with
  | seq a b iha ihb =>
      exact .seq hspace (iha fun l hl => h l (List.mem_append_left _ hl))
        (ihb fun l hl => h l (List.mem_append_right _ hl))
  | alt a b iha ihb =>
      exact .alt (iha fun l hl => h l (List.mem_append_left _ hl))
        (ihb fun l hl => h l (List.mem_append_right _ hl))
  | opt a ih => exact .opt (fun _ _ hS => hS) (ih h)
  | star a ih => exact .star hspace (ih h)
  | absent a ih => exact .absent (ih h)
  | text | range | any | start | stop | rule => exact h _ List.mem_cons_self

/-- Rules lead from related texts to related texts if what they call besides each other
does. -/
theorem Tracks.of_rules {E : ρ → Prop} (hspace : Passes Spaced S)
    (hseen : ∀ r, E r → (grammar r).mode ≠ .silent → SeenAlike f S S r)
    (hbody : ∀ r, E r → ∀ l ∈ (grammar r).body.leaves,
      (∃ q, l = .rule q ∧ E q) ∨ ∀ n, Tracks grammar n f Spaced S S l)
    (hr : E r) : Tracks grammar n f Spaced S S (.rule r) := by
  induction n generalizing r with
  | zero =>
      intro s i i' o o' _ _ h
      cases h
  | succ n ih =>
      refine .rule (fun _ hs => hs) (hseen r hr) (.of_leaves hspace fun l hl => ?_)
      rcases hbody r hr l hl with ⟨q, rfl, hq⟩ | hl
      · exact ih hq
      · exact hl n

end TemplateTree.Peg
