import TemplateTree.Proofs.Template.Reach

/-!
# Renderings that agree

Two renderings agree if they do the same in every state whose frames and blocks belong to
certain templates, and leave such a state.  They may ask different machines, as long as these
give the same answers to what is asked.
-/

namespace TemplateTree.Template

variable {D : Text → Prop} {o o' : Outlook} {α β : Type}

/-- Questions that get the same answers, as they are asked one after the other. -/
def Outlook.Alike (o o' : Outlook) (questions : List Question) : Prop :=
  ∀ k q, questions[k]? = some q → o' k q = o k q

theorem Outlook.Alike.of_suffix {asked more : List Question} (h : Alike o o' more.reverse)
    (hsuffix : asked <:+ more) : Alike o o' asked.reverse := by
  obtain ⟨later, rfl⟩ := hsuffix
  intro k q hq
  apply h
  rw [List.reverse_append, List.getElem?_append_left (List.getElem?_eq_some_iff.mp hq).1, hq]

theorem Outlook.Alike.head {asked : List Question} {q : Question}
    (h : Alike o o' (q :: asked).reverse) : o' asked.length q = o asked.length q := by
  apply h
  rw [List.reverse_cons, ← List.length_reverse, List.getElem?_concat_length]

/-- A state in which all that is under way belongs to templates of certain names. -/
structure RenderState.Inside (D : Text → Prop) (st : RenderState) : Prop where
  frames : ∀ f ∈ st.frames, D f.template
  blocks : ∀ b ∈ st.blocks, D b.template

def Rendering.after (x : Rendering α) (st : RenderState) : RenderState :=
  match x st with
  | .ok _ st' => st'
  | .error _ st' => st'

/-- Renderings that stay inside certain templates, and do the same if two machines give the
same answers to the questions that are asked. -/
def Rendering.Agrees (D : Text → Prop) (o o' : Outlook) (x y : Rendering α) : Prop :=
  ∀ st, st.Inside D → st.asked <:+ (x.after st).asked ∧ (x.after st).Inside D ∧
    (o.Alike o' (x.after st).asked.reverse → y st = x st)

namespace Rendering

variable {x y : Rendering α} {a : α} {e : TemplateError} {st st' : RenderState}

/-! ## Parts of renderings -/

theorem after_of_ok (h : x st = .ok a st') : x.after st = st' := by
  simp [after, h]

theorem after_of_error (h : x st = .error e st') : x.after st = st' := by
  simp [after, h]

theorem ask_apply (s : Surroundings) (q : Question) : ask s q st =
    ofExcept (s.outlook st.asked.length q) { st with asked := q :: st.asked } :=
  rfl

theorem after_ofExcept (r : Except Text α) : (ofExcept r).after st = st := by
  cases r <;> rfl

namespace Agrees

theorem pure (a : α) : Agrees D o o' (pure a) (pure a) :=
  fun st hst => ⟨List.suffix_refl st.asked, hst, fun _ => rfl⟩

theorem throw (e : TemplateError) : Agrees D o o' (throw e : Rendering α) (throw e) :=
  fun st hst => ⟨List.suffix_refl st.asked, hst, fun _ => rfl⟩

theorem fail (message : Text) : Agrees D o o' (fail message : Rendering α) (fail message) :=
  throw _

theorem ofExcept (r : Except Text α) : Agrees D o o' (ofExcept r) (ofExcept r) := by
  cases r with
  | ok a => exact pure a
  | error m => exact fail m

theorem modify {f : RenderState → RenderState} (hasked : ∀ st, (f st).asked = st.asked)
    (h : ∀ st, st.Inside D → (f st).Inside D) :
    Agrees D o o' (modify f : Rendering Unit) (modify f) := by
  intro st hst
  refine ⟨?_, h st hst, fun _ => rfl⟩
  change st.asked <:+ (f st).asked
  exact hasked st ▸ List.suffix_refl _

theorem bind {f g : α → Rendering β} (hx : Agrees D o o' x y)
    (hf : ∀ a, Agrees D o o' (f a) (g a)) : Agrees D o o' (x >>= f) (y >>= g) := by
  intro st hst
  obtain ⟨hasked, hinside, heq⟩ := hx st hst
  cases h : x st with
  | ok a st' =>
      rw [after_of_ok h] at hasked hinside heq
      obtain ⟨hasked', hinside', heq'⟩ := hf a st' hinside
      have hafter : (x >>= f).after st = (f a).after st' := by
        rw [after, bind_of_ok h, after]
      rw [hafter]
      refine ⟨hasked.trans hasked', hinside', fun halike => ?_⟩
      have hsame := heq (halike.of_suffix hasked')
      rw [bind_of_ok h, bind_of_ok (hsame.trans h), heq' halike]
  | error e st' =>
      rw [after_of_error h] at hasked hinside heq
      rw [after_of_error (bind_of_error h)]
      refine ⟨hasked, hinside, fun halike => ?_⟩
      rw [bind_of_error h, bind_of_error ((heq halike).trans h)]

theorem get_bind {f g : RenderState → Rendering β}
    (h : ∀ st, st.Inside D → Agrees D o o' (f st) (g st)) :
    Agrees D o o' (get >>= f) (get >>= g) :=
  fun st hst => h st hst st hst

theorem tryCatch {f g : TemplateError → Rendering α} (hx : Agrees D o o' x y)
    (hf : ∀ e, Agrees D o o' (f e) (g e)) :
    Agrees D o o' (tryCatch x f) (tryCatch y g) := by
  intro st hst
  obtain ⟨hasked, hinside, heq⟩ := hx st hst
  cases h : x st with
  | ok a st' =>
      rw [after_of_ok h] at hasked hinside heq
      rw [after_of_ok (tryCatch_of_ok h)]
      refine ⟨hasked, hinside, fun halike => ?_⟩
      rw [tryCatch_of_ok h, tryCatch_of_ok ((heq halike).trans h)]
  | error e st' =>
      rw [after_of_error h] at hasked hinside heq
      obtain ⟨hasked', hinside', heq'⟩ := hf e st' hinside
      have hafter : (MonadExcept.tryCatch x f : Rendering α).after st = (f e).after st' := by
        rw [after, tryCatch_of_error h, after]
      rw [hafter]
      refine ⟨hasked.trans hasked', hinside', fun halike => ?_⟩
      have hsame := heq (halike.of_suffix hasked')
      rw [tryCatch_of_error h, tryCatch_of_error (hsame.trans h), heq' halike]

theorem map (f : α → β) (hx : Agrees D o o' x y) : Agrees D o o' (f <$> x) (f <$> y) := by
  rw [← bind_pure_comp, ← bind_pure_comp]
  exact hx.bind fun a => pure (f a)

theorem foldlM {as : List α} {f g : β → α → Rendering β} {b : β}
    (h : ∀ b, ∀ a ∈ as, Agrees D o o' (f b a) (g b a)) :
    Agrees D o o' (as.foldlM f b) (as.foldlM g b) := by
  induction as generalizing b with
  | nil => exact pure b
  | cons a as ih =>
      rw [List.foldlM_cons, List.foldlM_cons]
      exact (h b a List.mem_cons_self).bind fun b' =>
        ih fun b a ha => h b a (List.mem_cons_of_mem _ ha)

theorem mapM {as : List α} {f g : α → Rendering β} (h : ∀ a ∈ as, Agrees D o o' (f a) (g a)) :
    Agrees D o o' (as.mapM f) (as.mapM g) := by
  induction as with
  | nil => exact pure []
  | cons a as ih =>
      rw [List.mapM_cons, List.mapM_cons]
      refine (h a List.mem_cons_self).bind fun b => ?_
      exact (ih fun c hc => h c (List.mem_cons_of_mem _ hc)).bind fun bs => pure _

theorem within (message : Text) (hx : Agrees D o o' x y) :
    Agrees D o o' (within message x) (within message y) :=
  hx.tryCatch fun _ => throw _

/-- The answers to one question are the same if the machines are asked for the same. -/
theorem ask {s s' : Surroundings} (hs : s.outlook = o) (hs' : s'.outlook = o') (q : Question) :
    Agrees D o o' (ask s q) (ask s' q) := by
  intro st hst
  have hafter : (Rendering.ask s q).after st = { st with asked := q :: st.asked } := by
    rw [after, ask_apply]
    exact after_ofExcept _
  rw [hafter]
  refine ⟨List.suffix_cons q st.asked, ⟨hst.frames, hst.blocks⟩, fun halike => ?_⟩
  rw [ask_apply, ask_apply, hs, hs', halike.head]

theorem changeFrames {change : Frames → Frames}
    (h : ∀ fs : Frames, (∀ f ∈ fs, D f.template) → ∀ f ∈ change fs, D f.template) :
    Agrees D o o' (changeFrames change) (changeFrames change) :=
  modify (fun _ => rfl) fun st hst => ⟨h st.frames hst.frames, hst.blocks⟩

theorem inFrame {f : Frame} (hf : D f.template) (hx : Agrees D o o' x y) :
    Agrees D o o' (inFrame f x) (inFrame f y) := by
  refine (changeFrames fun fs hfs g hg => ?_).bind fun _ => hx.bind fun a => ?_
  · obtain rfl | hg := List.mem_cons.mp hg
    · exact hf
    · exact hfs g hg
  · refine (changeFrames fun fs hfs g hg => ?_).bind fun _ => pure a
    exact hfs g (List.mem_of_mem_drop hg)

theorem openBlock {b : OpenBlock} (hb : D b.template) :
    Agrees D o o' (openBlock b) (openBlock b) := by
  refine modify (fun _ => rfl) fun st hst => ⟨hst.frames, fun c hc => ?_⟩
  obtain rfl | hc := List.mem_cons.mp hc
  · exact hb
  · exact hst.blocks c hc

theorem interrupt (signal : LoopSignal) (tag : String) :
    Agrees D o o' (interrupt signal tag) (interrupt signal tag) := by
  refine get_bind fun st hst => ?_
  cases hframes : st.frames with
  | nil => exact pure ()
  | cons f rest =>
      have hall : ∀ g ∈ f :: rest, D g.template := hframes ▸ hst.frames
      dsimp only
      cases hsignal : f.signalled? signal with
      | none => exact fail _
      | some g =>
          refine changeFrames fun _ _ k hk => ?_
          obtain rfl | hk := List.mem_cons.mp hk
          · unfold Frame.signalled? at hsignal
            obtain ⟨l, -, rfl⟩ := Option.map_eq_some_iff.mp hsignal
            exact hall f List.mem_cons_self
          · exact hall k (List.mem_cons_of_mem _ hk)

end Agrees

end Rendering

theorem Frames.mem_assign {name : Text} {v : Value} {fs : Frames} (hfs : ∀ f ∈ fs, D f.template) :
    ∀ f ∈ fs.assign name v, D f.template := by
  cases fs with
  | nil => simp [Frames.assign]
  | cons g rest => simpa [Frames.assign, Frame.assign] using hfs

theorem Frames.mem_assignOutside {name : Text} {v : Value} {fs : Frames}
    (hfs : ∀ f ∈ fs, D f.template) : ∀ f ∈ fs.assignOutside name v, D f.template := by
  induction fs with
  | nil => simp [Frames.assignOutside]
  | cons g rest ih =>
      obtain ⟨hg, hrest⟩ := List.forall_mem_cons.mp hfs
      rw [Frames.assignOutside]
      split
      · exact List.forall_mem_cons.mpr ⟨hg, ih hrest⟩
      · exact List.forall_mem_cons.mpr ⟨hg, hrest⟩

namespace Surroundings

/-- The same with another library and another machine. -/
def upon (s : Surroundings) (l : Library) (o : Outlook) : Surroundings :=
  { s with library := l, outlook := o }

@[simp] theorem upon_library (s : Surroundings) (l : Library) (o : Outlook) :
    (s.upon l o).library = l := rfl

@[simp] theorem upon_registry (s : Surroundings) (l : Library) (o : Outlook) :
    (s.upon l o).registry = s.registry := rfl

@[simp] theorem upon_outlook (s : Surroundings) (l : Library) (o : Outlook) :
    (s.upon l o).outlook = o := rfl

/-- Surroundings of a template of certain names, in a library and with a machine. -/
structure In (D : Text → Prop) (l : Library) (o : Outlook) (s : Surroundings) : Prop where
  library : s.library = l
  outlook : s.outlook = o
  name : D s.template.name
  find : l.find? s.template.name = some s.template

theorem In.unescaped {l : Library} {s : Surroundings} (h : s.In D l o) : s.unescaped.In D l o :=
  ⟨h.library, h.outlook, h.name, h.find⟩

end Surroundings

theorem Rendering.Agrees.valueNamed (s : Surroundings) (l : Library) (name : Text) :
    Agrees D o o' (valueNamed s name) (valueNamed (s.upon l o') name) := by
  refine get_bind fun st _ => ?_
  split
  · exact pure _
  · exact ofExcept _

end TemplateTree.Template
