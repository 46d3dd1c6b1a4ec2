import TemplateTree.Run.Session
import Mathlib.Logic.Relation

/-!
# What a job does to a session

A job leads from a session to a result or a failure, and in both cases to another
session.  A relation between sessions that steps in a row keep holds of a whole job
when it holds of its parts.
-/

namespace TemplateTree

/-- A result that comes of two steps comes of the first and then of the second. -/
theorem except_bind_eq_ok {ε α β : Type} {x : Except ε α} {f : α → Except ε β} {b : β}
    (h : (x >>= f) = .ok b) : ∃ a, x = .ok a ∧ f a = .ok b := by
  cases x with
  | error e => cases h
  | ok a => exact ⟨a, rfl, h⟩

/-- What a result of several steps holds comes of one of them. -/
theorem exists_of_mapM {ε α β : Type} {f : α → Except ε β} {as : List α} {bs : List β} {b : β}
    (h : as.mapM f = .ok bs) (hb : b ∈ bs) : ∃ a ∈ as, f a = .ok b := by
  induction as generalizing bs with
  | nil =>
      cases h
      cases hb
  | cons a as ih =>
      rw [List.mapM_cons] at h
      obtain ⟨first, hfirst, h⟩ := except_bind_eq_ok h
      obtain ⟨rest, hrest, h⟩ := except_bind_eq_ok h
      cases h
      rcases List.mem_cons.mp hb with rfl | hb
      · exact ⟨a, List.mem_cons_self, hfirst⟩
      · obtain ⟨a', ha', hf⟩ := ih hrest hb
        exact ⟨a', List.mem_cons_of_mem a ha', hf⟩

theorem toOption_eq_some_iff {ε α : Type} {x : Except ε α} {a : α} :
    x.toOption = some a ↔ x = .ok a := by
  cases x <;> simp [Except.toOption]

theorem except_bind_eq_error {ε α β : Type} {x : Except ε α} {f : α → Except ε β} {e : ε}
    (h : (x >>= f) = .error e) : x = .error e ∨ ∃ a, x = .ok a ∧ f a = .error e := by
  cases x with
  | error e' =>
      obtain rfl : e' = e := Except.error.inj h
      exact .inl rfl
  | ok a => exact .inr ⟨a, rfl, h⟩

/-! ## Steps in a row -/

section

variable {ε σ α β : Type} {x : EStateM ε σ α} {f : α → EStateM ε σ β} {s s' : σ} {a : α} {b : β}
  {e : ε}

theorem bind_of_ok (h : x s = .ok a s') : (x >>= f) s = f a s' := by
  simp [bind, EStateM.bind, h]

theorem bind_of_error (h : x s = .error e s') : (x >>= f) s = .error e s' := by
  simp [bind, EStateM.bind, h]

theorem bind_eq_ok (h : (x >>= f) s = .ok b s') :
    ∃ a s₁, x s = .ok a s₁ ∧ f a s₁ = .ok b s' := by
  cases hx : x s with
  | ok a s₁ => exact ⟨a, s₁, rfl, (bind_of_ok hx).symm.trans h⟩
  | error e s₁ =>
      rw [bind_of_error hx] at h
      cases h

theorem bind_eq_error (h : (x >>= f) s = .error e s') :
    x s = .error e s' ∨ ∃ a s₁, x s = .ok a s₁ ∧ f a s₁ = .error e s' := by
  cases hx : x s with
  | ok a s₁ => exact .inr ⟨a, s₁, rfl, (bind_of_ok hx).symm.trans h⟩
  | error e₁ s₁ =>
      rw [bind_of_error hx] at h
      cases h
      exact .inl rfl

theorem tryCatch_of_ok {handler : ε → EStateM ε σ α} (h : x s = .ok a s') :
    (tryCatch x handler : EStateM ε σ α) s = .ok a s' := by
  change EStateM.tryCatch x handler s = .ok a s'
  delta EStateM.tryCatch
  simp only [h]

theorem tryCatch_of_error {handler : ε → EStateM ε σ α} (h : x s = .error e s') :
    (tryCatch x handler : EStateM ε σ α) s = handler e s' := by
  change EStateM.tryCatch x handler s = handler e s'
  delta EStateM.tryCatch
  simp only [h]
  rfl

end

/-- A machine that is turned to comes to its later moments. -/
def Host.Later : Host → Host → Prop :=
  Relation.ReflTransGen fun h h' => h' = h.next

theorem Host.later_next (h : Host) : h.Later h.next :=
  .single rfl

/-- What a machine has at all later moments it has later on. -/
theorem Host.Later.keeps {Q : Host → Prop} {h h' : Host} (hlater : h.Later h')
    (hnext : ∀ h, Q h → Q h.next) (hQ : Q h) : Q h' := by
  induction hlater with
  | refl => exact hQ
  | tail _ hstep ih => exact hstep ▸ hnext _ ih

namespace Session

variable (s : Session)

@[simp] theorem turned_files : s.turned.files = s.files := rfl

@[simp] theorem turned_now : s.turned.now = s.now := rfl

@[simp] theorem turned_console : s.turned.console = s.console := rfl

@[simp] theorem turned_reporter : s.turned.reporter = s.reporter := rfl

@[simp] theorem turned_host : s.turned.host = s.host.next := rfl

/-- What the machine says to a rendering that begins next. -/
def outlook : Template.Outlook :=
  (s.host.moment 0).answer s.now

/-- What comes of a command line that is run next. -/
def execute (dir : Path) (line : Text) : Except FileError (Shell.Outcome × FileTree × Instant) :=
  (s.host.moment 0).run s.files s.now dir line

end Session

namespace Job

variable {α β : Type} {x : Job α} {f : α → Job β} {s s' : Session} {a : α} {b : β}
  {e : Failure}

def after (x : Job α) (s : Session) : Session :=
  match x s with
  | .ok _ s' => s'
  | .error _ s' => s'

theorem after_of_ok (h : x s = .ok a s') : x.after s = s' := by
  simp [after, h]

theorem after_of_error (h : x s = .error e s') : x.after s = s' := by
  simp [after, h]

theorem after_bind_of_ok (h : x s = .ok a s') : (x >>= f).after s = (f a).after s' := by
  rw [after, bind_of_ok h, after]

theorem after_bind_of_error (h : x s = .error e s') : (x >>= f).after s = s' :=
  after_of_error (bind_of_error h)

/-- Steps that fail went well up to one of them. -/
theorem forM_eq_error {as : List α} {g : α → Job PUnit} (h : as.forM g s = .error e s') :
    ∃ before a rest s₁, as = before ++ a :: rest ∧ before.forM g s = .ok ⟨⟩ s₁ ∧
      g a s₁ = .error e s' := by
  induction as generalizing s with
  | nil => cases h
  | cons a as ih =>
      rcases bind_eq_error h with hfirst | ⟨_, s₁, hfirst, hrest⟩
      · exact ⟨[], a, as, s, rfl, rfl, hfirst⟩
      · obtain ⟨before, b, rest, s₂, rfl, hbefore, hb⟩ := ih hrest
        exact ⟨a :: before, b, rest, s₂, rfl, (bind_of_ok hfirst).trans hbefore, hb⟩

@[simp] theorem pure_apply : (pure a : Job α) s = .ok a s := rfl

@[simp] theorem throw_apply : (throw e : Job α) s = .error e s := rfl

@[simp] theorem get_apply : (get : Job Session) s = .ok s s := rfl

@[simp] theorem modify_apply {g : Session → Session} :
    (modify g : Job Unit) s = .ok () (g s) := rfl

@[simp] theorem moment_apply : moment s = .ok (s.host.moment 0) s.turned := rfl

theorem after_bind_pure {g : α → β} : (x >>= fun a => pure (g a)).after s = x.after s := by
  cases h : x s with
  | ok a s' => rw [after_bind_of_ok h, after_of_ok h, after_of_ok pure_apply]
  | error e s' => rw [after_bind_of_error h, after_of_error h]

theorem ofExcept_apply {r : Except Failure α} : ofExcept r s =
    match r with
    | .ok a => .ok a s
    | .error e => .error e s := by
  cases r <;> rfl

theorem ofExcept_eq_ok {r : Except Failure α} (h : ofExcept r s = .ok a s') :
    r = .ok a ∧ s' = s := by
  rw [ofExcept_apply] at h
  cases r with
  | error e => cases h
  | ok b =>
      cases h
      exact ⟨rfl, rfl⟩

theorem ofExcept_eq_error {r : Except Failure α} (h : ofExcept r s = .error e s') :
    r = .error e ∧ s' = s := by
  rw [ofExcept_apply] at h
  cases r with
  | ok b => cases h
  | error e' =>
      cases h
      exact ⟨rfl, rfl⟩

/-- Whatever a job does is in a relation. -/
def Within (R : Session → Session → Prop) (x : Job α) : Prop :=
  ∀ s, R s (x.after s)

theorem Within.of_ok {R : Session → Session → Prop} (h : Within R x) (hx : x s = .ok a s') :
    R s s' :=
  after_of_ok hx ▸ h s

theorem Within.of_error {R : Session → Session → Prop} (h : Within R x)
    (hx : x s = .error e s') : R s s' :=
  after_of_error hx ▸ h s

section

variable {R : Session → Session → Prop} (hrefl : ∀ s, R s s)
  (htrans : ∀ s₁ s₂ s₃, R s₁ s₂ → R s₂ s₃ → R s₁ s₃)

include hrefl in
theorem within_pure : Within R (pure a : Job α) :=
  hrefl

include hrefl in
theorem within_throw : Within R (throw e : Job α) :=
  hrefl

include hrefl in
theorem within_get : Within R (get : Job Session) :=
  hrefl

include hrefl in
theorem within_ofExcept (r : Except Failure α) : Within R (ofExcept r) := by
  cases r
  · exact hrefl
  · exact hrefl

include hrefl in
theorem within_ofExcept_bind {r : Except Failure α} (hf : ∀ a, r = .ok a → Within R (f a)) :
    Within R (ofExcept r >>= f) := by
  cases r with
  | error e => exact hrefl
  | ok a => exact hf a rfl

theorem within_modify {g : Session → Session} (h : ∀ s, R s (g s)) :
    Within R (modify g : Job Unit) :=
  h

include htrans in
theorem Within.bind (hx : Within R x) (hf : ∀ a, Within R (f a)) : Within R (x >>= f) := by
  intro s
  cases h : x s with
  | ok a s₁ =>
      have hfirst := hx s
      rw [after_of_ok h] at hfirst
      rw [after_bind_of_ok h]
      exact htrans _ _ _ hfirst (hf a s₁)
  | error e s₁ =>
      have hfirst := hx s
      rw [after_of_error h] at hfirst
      rwa [after_bind_of_error h]

include hrefl in
/-- What a job comes to, seen from the end of its first step. -/
theorem rel_after_bind (hf : ∀ a, Within R (f a)) : R (x.after s) ((x >>= f).after s) := by
  cases h : x s with
  | ok a s₁ =>
      rw [after_of_ok h, after_bind_of_ok h]
      exact hf a s₁
  | error e s₁ =>
      rw [after_of_error h, after_bind_of_error h]
      exact hrefl s₁

include hrefl htrans in
theorem within_forM {as : List α} {g : α → Job PUnit} (h : ∀ a ∈ as, Within R (g a)) :
    Within R (as.forM g) := by
  induction as with
  | nil => exact hrefl
  | cons a as ih =>
      exact (h a List.mem_cons_self).bind htrans fun _ =>
        ih fun b hb => h b (List.mem_cons_of_mem _ hb)

include hrefl htrans in
theorem within_foldlM {as : List α} {g : β → α → Job β} {b : β}
    (h : ∀ b, ∀ a ∈ as, Within R (g b a)) : Within R (as.foldlM g b) := by
  induction as generalizing b with
  | nil => exact hrefl
  | cons a as ih =>
      rw [List.foldlM_cons]
      exact (h b a List.mem_cons_self).bind htrans fun b' =>
        ih fun b a ha => h b a (List.mem_cons_of_mem _ ha)

include htrans in
theorem Within.tryCatch {handler : Failure → Job α} (hx : Within R x)
    (hhandler : ∀ e, Within R (handler e)) : Within R (tryCatch x handler) := by
  intro s
  cases h : x s with
  | ok a s₁ =>
      have hfirst := hx s
      rw [after_of_ok h] at hfirst
      rwa [after_of_ok (tryCatch_of_ok h)]
  | error e s₁ =>
      have hfirst := hx s
      rw [after_of_error h] at hfirst
      rw [after, tryCatch_of_error h]
      exact htrans _ _ _ hfirst (hhandler e s₁)

end

/-! ## Jobs as changes of files -/

/-- What a job does to the files at a time, whatever else is in a session, if the machine
then meets a condition: it succeeds just if the change does, takes no time, and leaves a
machine that meets another one. -/
def Does (P Q : Host → Instant → Prop) (change : Instant → FileTree → Option FileTree)
    (x : Job α) : Prop :=
  ∀ s, P s.host s.now → match x s with
    | .ok _ s' => change s.now s.files = some s'.files ∧ s'.now = s.now ∧ Q s'.host s.now
    | .error _ _ => change s.now s.files = none

variable {P Q R : Host → Instant → Prop} {change more : Instant → FileTree → Option FileTree}

theorem Does.eq_some (h : Does P Q change x) (hs : P s.host s.now) (hx : x s = .ok a s') :
    change s.now s.files = some s'.files ∧ s'.now = s.now ∧ Q s'.host s.now := by
  have hdoes := h s hs
  rwa [hx] at hdoes

theorem Does.eq_none (h : Does P Q change x) (hs : P s.host s.now) (hx : x s = .error e s') :
    change s.now s.files = none := by
  have hdoes := h s hs
  rwa [hx] at hdoes

/-- A change that can be made is made. -/
theorem Does.exists_ok {t : FileTree} (h : Does P Q change x) (hs : P s.host s.now)
    (ht : change s.now s.files = some t) :
    ∃ a s', x s = .ok a s' ∧ s'.files = t ∧ s'.now = s.now ∧ Q s'.host s.now := by
  cases hx : x s with
  | ok a s' =>
      obtain ⟨hfiles, hnow, hs'⟩ := h.eq_some hs hx
      exact ⟨a, s', rfl, Option.some.inj (hfiles.symm.trans ht), hnow, hs'⟩
  | error e s' =>
      rw [h.eq_none hs hx] at ht
      cases ht

theorem Does.mono {P' Q' : Host → Instant → Prop} (h : Does P Q change x)
    (hP : ∀ h now, P' h now → P h now) (hQ : ∀ h now, Q h now → Q' h now) :
    Does P' Q' change x := by
  intro s hs
  have hdoes := h s (hP _ _ hs)
  cases hx : x s with
  | ok a s' =>
      rw [hx] at hdoes
      exact ⟨hdoes.1, hdoes.2.1, hQ _ _ hdoes.2.2⟩
  | error e s' =>
      rw [hx] at hdoes
      exact hdoes

theorem Does.of_ok (h : Does (fun _ _ => True) (fun _ _ => True) change x)
    (hx : x s = .ok a s') : change s.now s.files = some s'.files ∧ s'.now = s.now := by
  obtain ⟨hfiles, hnow, -⟩ := h.eq_some trivial hx
  exact ⟨hfiles, hnow⟩

theorem Does.exists_of_some {t : FileTree} (h : Does (fun _ _ => True) (fun _ _ => True) change x)
    (ht : change s.now s.files = some t) :
    ∃ a s', x s = .ok a s' ∧ s'.files = t ∧ s'.now = s.now := by
  obtain ⟨a, s', hx, hfiles, hnow, -⟩ := h.exists_ok trivial ht
  exact ⟨a, s', hx, hfiles, hnow⟩

theorem does_pure : Does Q Q (fun _ t => some t) (pure a : Job α) :=
  fun _ hs => ⟨rfl, rfl, hs⟩

theorem does_modify {g : Session → Session} (hfiles : ∀ s, (g s).files = s.files)
    (hnow : ∀ s, (g s).now = s.now) (hhost : ∀ s, (g s).host = s.host) :
    Does Q Q (fun _ t => some t) (modify g : Job Unit) :=
  fun s hs => ⟨congrArg some (hfiles s).symm, hnow s, by rwa [hhost s]⟩

theorem Does.bind (hx : Does P Q change x) (hf : ∀ a, Does Q R more (f a)) :
    Does P R (fun now t => (change now t).bind (more now)) (x >>= f) := by
  intro s hs
  cases h : x s with
  | error e s₁ =>
      rw [bind_of_error h]
      exact Option.bind_eq_none_iff.mpr fun t ht => by simp [hx.eq_none hs h] at ht
  | ok a s₁ =>
      obtain ⟨hfiles, hnow, hs₁⟩ := hx.eq_some hs h
      have hrest := hf a s₁ (hnow.symm ▸ hs₁)
      rw [hnow] at hrest
      rw [bind_of_ok h]
      dsimp only
      rw [hfiles]
      exact hrest

/-- A step without effect comes first. -/
theorem Does.after_idle (hx : Does P Q (fun _ t => some t) x) (hf : ∀ a, Does Q R change (f a)) :
    Does P R change (x >>= f) :=
  hx.bind hf

/-- A step without effect comes last. -/
theorem Does.before_idle (hx : Does P Q change x) (hf : ∀ a, Does Q R (fun _ t => some t) (f a)) :
    Does P R change (x >>= f) := by
  have hboth := hx.bind hf
  simpa using hboth

theorem does_ofExcept_bind {r : Except Failure α}
    {change : α → Instant → FileTree → Option FileTree} (hf : ∀ a, Does P Q (change a) (f a)) :
    Does P Q (fun now t => r.toOption.bind fun a => change a now t) (ofExcept r >>= f) := by
  cases r with
  | error e => exact fun _ _ => rfl
  | ok a => exact hf a

theorem does_forM {as : List α} {g : α → Job PUnit}
    {change : Instant → FileTree → α → Option FileTree}
    (h : ∀ a ∈ as, Does Q Q (fun now t => change now t a) (g a)) :
    Does Q Q (fun now t => as.foldlM (change now) t) (as.forM g) := by
  induction as with
  | nil => exact fun _ hs => ⟨rfl, rfl, hs⟩
  | cons a as ih =>
      exact (h a List.mem_cons_self).bind fun _ =>
        ih fun b hb => h b (List.mem_cons_of_mem _ hb)

end Job

end TemplateTree
