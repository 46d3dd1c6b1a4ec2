import TemplateTree.Proofs.Run.Jobs

/-!
# Jobs with a settled result

A job that works on values of its own and only talks about them has the same result in
every session.
-/

namespace TemplateTree.Job

variable {α β : Type} {x : Job α} {f : α → Job β} {r : Except Failure α}
  {k : α → Except Failure β} {s s' : Session} {a : α} {b : β} {e : Failure}

/-- A job whose result is known before it is done, whatever the session. -/
def Settles (r : Except Failure α) (x : Job α) : Prop :=
  ∀ s, (∃ a s', r = .ok a ∧ x s = .ok a s') ∨ (∃ e s', r = .error e ∧ x s = .error e s')

theorem Settles.exists_ok (h : Settles (.ok a) x) (s : Session) : ∃ s', x s = .ok a s' := by
  rcases h s with ⟨a', s', ha, hx⟩ | ⟨e, s', he, -⟩
  · cases ha
    exact ⟨s', hx⟩
  · cases he

theorem Settles.exists_error (h : Settles (.error e) x) (s : Session) :
    ∃ s', x s = .error e s' := by
  rcases h s with ⟨a, s', ha, -⟩ | ⟨e', s', he, hx⟩
  · cases ha
  · cases he
    exact ⟨s', hx⟩

theorem Settles.eq_ok (h : Settles r x) (hx : x s = .ok a s') : r = .ok a := by
  rcases h s with ⟨a', s₁, hr, hx'⟩ | ⟨e, s₁, -, hx'⟩
  · rw [hx] at hx'
    cases hx'
    exact hr
  · rw [hx] at hx'
    cases hx'

theorem Settles.eq_error (h : Settles r x) (hx : x s = .error e s') : r = .error e := by
  rcases h s with ⟨a, s₁, -, hx'⟩ | ⟨e', s₁, hr, hx'⟩
  · rw [hx] at hx'
    cases hx'
  · rw [hx] at hx'
    cases hx'
    exact hr

theorem settles_pure : Settles (.ok a) (pure a : Job α) :=
  fun s => .inl ⟨a, s, rfl, rfl⟩

theorem settles_throw : Settles (.error e) (throw e : Job α) :=
  fun s => .inr ⟨e, s, rfl, rfl⟩

theorem settles_modify {g : Session → Session} : Settles (.ok ()) (modify g : Job Unit) :=
  fun s => .inl ⟨(), g s, rfl, rfl⟩

theorem settles_ofExcept : Settles r (ofExcept r) := by
  cases r with
  | error e => exact settles_throw
  | ok a => exact settles_pure

theorem Settles.bind (hx : Settles r x) (hf : ∀ a, r = .ok a → Settles (k a) (f a)) :
    Settles (r >>= k) (x >>= f) := by
  intro s
  rcases hx s with ⟨a, s₁, rfl, hs⟩ | ⟨e, s₁, rfl, hs⟩
  · rw [bind_of_ok hs]
    exact hf a rfl s₁
  · exact .inr ⟨e, s₁, rfl, bind_of_error hs⟩

/-- Talk before a job does not change its result. -/
theorem Settles.after_talk {y : Job Unit} {r : Except Failure β} {z : Unit → Job β}
    (hy : Settles (.ok ()) y) (hz : Settles r (z ())) : Settles r (y >>= z) :=
  hy.bind (k := fun _ => r) fun _ _ => hz

/-- Talk after a job does not change its result. -/
theorem Settles.before_talk {g : α → Job α} (hx : Settles r x)
    (hg : ∀ a, Settles (.ok a) (g a)) : Settles r (x >>= g) := by
  have hboth : Settles (r >>= fun a => .ok a) (x >>= g) := hx.bind fun a _ => hg a
  cases r with
  | error e => exact hboth
  | ok a => exact hboth

theorem Settles.tryCatch {handler : Failure → Job α} {g : Failure → Failure} (hx : Settles r x)
    (hhandler : ∀ e, Settles (.error (g e)) (handler e)) :
    Settles (r.mapError g) (tryCatch x handler) := by
  intro s
  rcases hx s with ⟨a, s₁, rfl, hs⟩ | ⟨e, s₁, rfl, hs⟩
  · exact .inl ⟨a, s₁, rfl, tryCatch_of_ok hs⟩
  · obtain ⟨s₂, hs₂⟩ := (hhandler e).exists_error s₁
    exact .inr ⟨g e, s₂, rfl, (tryCatch_of_error hs).trans hs₂⟩

theorem settles_foldlM {as : List α} {g : β → α → Job β} {k : β → α → Except Failure β} {b : β}
    (h : ∀ b, ∀ a ∈ as, Settles (k b a) (g b a)) : Settles (as.foldlM k b) (as.foldlM g b) := by
  induction as generalizing b with
  | nil => exact settles_pure
  | cons a as ih =>
      rw [List.foldlM_cons, List.foldlM_cons]
      refine (h b a List.mem_cons_self).bind fun b' _ => ?_
      exact ih fun b₁ a₁ ha₁ => h b₁ a₁ (List.mem_cons_of_mem _ ha₁)

end TemplateTree.Job
