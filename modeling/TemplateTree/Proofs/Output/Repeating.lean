import TemplateTree.Proofs.Output.Writing

/-!
# Writing sections again

Sections that are on disk can be written once more, and all contents stay.  What is
written to one of two trees with the same contents can be written to the other one.
-/

namespace TemplateTree.Settings

open FileTree

variable {settings : Settings} {out : Place} {t t' u : FileTree} {s : Section}
  {sections : List Section} {now later : Instant}

/-! ## Sections that are on disk -/

theorem Saved.of_shape (h : settings.Saved out t s) (hshape : SameShape t u) :
    settings.Saved out u s := by
  obtain ⟨bytes, time, mode, hfile⟩ := h.file
  obtain ⟨bytes', mode', time', hfile'⟩ := hshape.exists_file ⟨bytes, mode, time, hfile⟩
  exact ⟨h.form, hshape.spot_eq.trans h.spot, bytes', time', mode', hfile'⟩

theorem Saved.exists_written? (h : settings.Saved out t s) (now : Instant) (ht : t.Sound) :
    ∃ t', settings.written? now t s = some t' := by
  obtain ⟨old, time, mode, hold⟩ := h.file
  exact exists_stored? ht h.form h.spot hold

theorem Saved.alikeOff (h : settings.Saved out t s) (ht : t.Sound)
    (hwritten : settings.written? now t s = some t') : AlikeOff (· = s.place out) t t' := by
  obtain ⟨old, hold⟩ := h.file
  obtain ⟨t₁, hwrite, hmark⟩ := Option.bind_eq_some_iff.mp hwritten
  have hwrite := toOption_eq_some_iff.mp hwrite
  have hfirst := alikeOff_of_write ht h.spot hold hwrite
  split at hmark
  case isTrue =>
    have ht₁ := (Touch.of_write ht hwrite).sound ht
    have hlast := alike_of_markExecutable ht₁ (toOption_eq_some_iff.mp hmark)
    exact hfirst.trans (hlast.mono fun _ => False.elim)
  case isFalse =>
    obtain rfl : t₁ = t' := by simpa using hmark
    exact hfirst

theorem OnDisk.prepared (h : settings.OnDisk out t sections) (hs : s ∈ sections) :
    settings.Prepared t s := by
  induction sections with
  | nil => cases hs
  | cons r rest ih =>
      obtain ⟨⟨hprepared, -⟩, -, hrest⟩ := h
      rcases List.mem_cons.mp hs with rfl | hs
      · exact hprepared
      · exact ih hrest hs

/-- Nothing more is made for sections whose directories are there. -/
theorem prepare_again (h : ∀ s ∈ sections, settings.Prepared t s) :
    sections.foldlM settings.prepared? t = some t := by
  induction sections with
  | nil => rfl
  | cons s rest ih =>
      rw [List.foldlM_cons, (h s List.mem_cons_self).prepared?_eq]
      exact ih fun r hr => h r (List.mem_cons_of_mem _ hr)

/-- Writing goes through the sections in order; the files of those still to come may hold
anything meanwhile. -/
theorem OnDisk.write_again (h : settings.OnDisk out t sections) (now : Instant)
    (hcontained : ∀ s ∈ sections, s.Contained) (hu : settings.OutputAt out u)
    (halike : AlikeOff (IsTarget out sections) t u) :
    ∃ u', sections.foldlM (settings.written? now) u = some u' ∧ Alike t u' := by
  induction sections generalizing u with
  | nil => exact ⟨u, rfl, halike.mono fun q hq => by simp [IsTarget] at hq⟩
  | cons s rest ih =>
      obtain ⟨⟨-, hsaved⟩, hlast, hrest⟩ := h
      have hsaved' := hsaved.of_shape halike.shape
      obtain ⟨u₁, hwritten⟩ := hsaved'.exists_written? now hu.sound
      obtain ⟨hc, -, hbytes⟩ := written?_spec hu (hcontained s List.mem_cons_self) hwritten
      have hstep := hsaved'.alikeOff hu.sound hwritten
      have halike' : AlikeOff (IsTarget out rest) t u₁ := by
        refine ⟨halike.shape.trans hstep.shape, fun q hq bytes => ?_⟩
        by_cases hplace : q = s.place out
        · have hbytes' : t.HasBytes (s.place out) (settings.bytesOf s) :=
            hlast fun r hr heq => hq ⟨r, hr, hplace.trans heq.symm⟩
          rw [hplace, hbytes.iff_eq, hbytes'.iff_eq]
        · have hnot : ¬ IsTarget out (s :: rest) q := fun h =>
            (isTarget_cons.mp h).elim hplace hq
          exact (hstep.content q hplace bytes).trans (halike.content q hnot bytes)
      obtain ⟨u', hmore, hdone⟩ := ih hrest (fun r hr => hcontained r (List.mem_cons_of_mem _ hr))
        (hu.changesOnly hc) halike'
      refine ⟨u', ?_, hdone⟩
      rw [List.foldlM_cons, hwritten]
      exact hmore

/-- Writing sections that are on disk succeeds, and no content is another one then. -/
theorem OnDisk.saved?_again (h : settings.OnDisk out t sections) (now : Instant)
    (hcontained : ∀ s ∈ sections, s.Contained) (ht : settings.OutputAt out t) :
    ∃ t', settings.saved? now sections t = some t' ∧ Alike t t' := by
  obtain ⟨t', hwrite, halike⟩ := h.write_again now hcontained ht (.refl _ t)
  refine ⟨t', ?_, halike⟩
  rw [saved?, prepare_again fun s hs => h.prepared hs]
  exact hwrite

/-! ## Trees with the same contents -/

/-- Steps that a relation allows to follow can be followed in a row. -/
theorem exists_foldlM {α β : Type} {R : β → β → Prop} {f g : β → α → Option β} {l : List α}
    {a a' b : β} (hstep : ∀ x ∈ l, ∀ a b a', R a b → f a x = some a' →
      ∃ b', g b x = some b' ∧ R a' b') (hab : R a b) (h : l.foldlM f a = some a') :
    ∃ b', l.foldlM g b = some b' ∧ R a' b' := by
  induction l generalizing a b with
  | nil =>
      cases h
      exact ⟨b, rfl, hab⟩
  | cons x rest ih =>
      rw [List.foldlM_cons] at h
      obtain ⟨a₁, hfirst, h⟩ := Option.bind_eq_some_iff.mp h
      obtain ⟨b₁, hfirst', hab₁⟩ := hstep x List.mem_cons_self a b a₁ hab hfirst
      obtain ⟨b', hrest, hab'⟩ := ih (fun y hy => hstep y (List.mem_cons_of_mem _ hy)) hab₁ h
      refine ⟨b', ?_, hab'⟩
      rw [List.foldlM_cons, hfirst']
      exact hrest

def Twins (t u : FileTree) : Prop :=
  t.Sound ∧ u.Sound ∧ Alike t u

theorem Twins.prepared? (h : Twins t u) (hprepare : settings.prepared? t s = some t') :
    ∃ u', settings.prepared? u s = some u' ∧ Twins t' u' := by
  obtain ⟨ht, hu, halike⟩ := h
  unfold Settings.prepared? at hprepare ⊢
  split at hprepare
  case h_1 dir _ =>
    rw [halike.shape.hasDir_eq]
    split at hprepare
    case isTrue hdir =>
      cases hprepare
      exact ⟨u, if_pos hdir, ht, hu, halike⟩
    case isFalse hdir =>
      rw [if_neg hdir]
      split at hprepare
      case isTrue hcreate =>
        have hmake := toOption_eq_some_iff.mp hprepare
        obtain ⟨u', hmake', halike'⟩ := halike.makeAllDirs ht hu hmake
        exact ⟨u', (if_pos hcreate).trans (toOption_eq_some_iff.mpr hmake'),
          (changesOnly_of_makeAllDirs ht hmake).sound (P := fun _ => False),
          (changesOnly_of_makeAllDirs hu hmake').sound (P := fun _ => False), halike'⟩
      case isFalse => cases hprepare
  case h_2 =>
    cases hprepare
    exact ⟨u, rfl, ht, hu, halike⟩

theorem Twins.written? (h : Twins t u) (later : Instant)
    (hwritten : settings.written? now t s = some t') :
    ∃ u', settings.written? later u s = some u' ∧ Twins t' u' := by
  obtain ⟨ht, hu, halike⟩ := h
  obtain ⟨t₁, hwrite, hmark⟩ := Option.bind_eq_some_iff.mp hwritten
  have hwrite := toOption_eq_some_iff.mp hwrite
  obtain ⟨u₁, hwrite', halike₁⟩ := halike.write ht hu later hwrite
  have ht₁ := (Touch.of_write ht hwrite).sound ht
  have hu₁ := (Touch.of_write hu hwrite').sound hu
  unfold Settings.written?
  rw [hwrite', Except.toOption, Option.bind_some]
  split at hmark
  case isTrue hscript =>
    have hmark := toOption_eq_some_iff.mp hmark
    obtain ⟨u', hmark', halike'⟩ := halike₁.markExecutable ht₁ hu₁ hmark
    exact ⟨u', (if_pos hscript).trans (toOption_eq_some_iff.mpr hmark'),
      (changesOnly_of_markExecutable ht₁ hmark).sound (P := fun _ => False),
      (changesOnly_of_markExecutable hu₁ hmark').sound (P := fun _ => False), halike'⟩
  case isFalse hscript =>
    obtain rfl : t₁ = t' := by simpa using hmark
    exact ⟨u₁, if_neg hscript, ht₁, hu₁, halike₁⟩

/-- What can be written to a tree can be written to one with the same contents. -/
theorem Twins.saved? (h : Twins t u) (later : Instant)
    (hsaved : settings.saved? now sections t = some t') :
    ∃ u', settings.saved? later sections u = some u' ∧ Twins t' u' := by
  obtain ⟨t₁, hprepare, hwrite⟩ := Option.bind_eq_some_iff.mp hsaved
  obtain ⟨u₁, hprepare', h₁⟩ :=
    exists_foldlM (fun s _ t u t' h hprepare => h.prepared? hprepare) h hprepare
  obtain ⟨u', hwrite', h'⟩ :=
    exists_foldlM (fun s _ t u t' h hwritten => h.written? later hwritten) h₁ hwrite
  exact ⟨u', by rw [Settings.saved?, hprepare']; exact hwrite', h'⟩

end TemplateTree.Settings
