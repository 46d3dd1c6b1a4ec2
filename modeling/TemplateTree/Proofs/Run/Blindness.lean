import TemplateTree.Proofs.Build.Effects
import TemplateTree.Proofs.Run.Settled

/-!
# Jobs that are blind to their reporter

Two sessions are alike if they differ in their reporters and consoles at most.  A job that is
blind does the same in both, with the same result, and what it prints to the output streams
are the same texts, which the two reporters pass on or not.
-/

namespace TemplateTree

namespace Session

/-- Two sessions with the same files, clock, machine and counts. -/
structure Alike (s u : Session) : Prop where
  files : u.files = s.files
  now : u.now = s.now
  host : u.host = s.host
  stats : u.reporter.stats = s.reporter.stats

/-- As the machine goes on, texts are given to the reporter to be passed on, and nothing else
is printed to the output stream. -/
structure PassesOn (texts : List Text) (s s' : Session) : Prop where
  later : s.host.Later s'.host
  verbosity : s'.reporter.verbosity = s.reporter.verbosity
  out : s'.console.out = s.console.out ++ texts.flatMap s.reporter.commandOutput

/-- Two sessions have become others that are alike, and their reporters were given the same
texts, all of a certain kind. -/
structure Follow (P : Text → Prop) (s u s' u' : Session) : Prop where
  alike : Alike s' u'
  passesOn : ∃ texts, (∀ text ∈ texts, P text) ∧ PassesOn texts s s' ∧ PassesOn texts u u'

variable {P Q : Text → Prop} {texts more : List Text} {s s₁ s₂ u u₁ u₂ : Session}

theorem passesOn_nil (hlater : s.host.Later s₁.host)
    (hverbosity : s₁.reporter.verbosity = s.reporter.verbosity)
    (hout : s₁.console.out = s.console.out) : PassesOn [] s s₁ :=
  ⟨hlater, hverbosity, by rw [hout, List.flatMap_nil, List.append_nil]⟩

theorem commandOutput_congr (h : s₁.reporter.verbosity = s.reporter.verbosity) :
    s₁.reporter.commandOutput = s.reporter.commandOutput := by
  funext text
  unfold Reporter.commandOutput Reporter.whenever
  rw [h]

theorem Alike.turned (h : Alike s u) : Alike s.turned u.turned :=
  ⟨h.files, h.now, congrArg Host.next h.host, h.stats⟩

theorem PassesOn.trans (h : PassesOn texts s s₁) (h' : PassesOn more s₁ s₂) :
    PassesOn (texts ++ more) s s₂ := by
  refine ⟨h.later.trans h'.later, h'.verbosity.trans h.verbosity, ?_⟩
  rw [h'.out, h.out, commandOutput_congr h.verbosity, List.flatMap_append, List.append_assoc]

theorem Talked.passesOn (h : Talked s s₁) : PassesOn [] s s₁ := by
  obtain ⟨_, rfl⟩ := h
  exact passesOn_nil .refl rfl rfl

theorem Follow.of_nil (h : Alike s₁ u₁) (hs : PassesOn [] s s₁) (hu : PassesOn [] u u₁) :
    Follow P s u s₁ u₁ :=
  ⟨h, [], by simp, hs, hu⟩

theorem Follow.refl (h : Alike s u) : Follow P s u s u :=
  .of_nil h (passesOn_nil .refl rfl rfl) (passesOn_nil .refl rfl rfl)

theorem Follow.mono (h : Follow P s u s₁ u₁) (hPQ : ∀ text, P text → Q text) :
    Follow Q s u s₁ u₁ := by
  obtain ⟨texts, hP, hs, hu⟩ := h.passesOn
  exact ⟨h.alike, texts, fun text htext => hPQ text (hP text htext), hs, hu⟩

theorem Follow.trans (h : Follow P s u s₁ u₁) (h' : Follow P s₁ u₁ s₂ u₂) :
    Follow P s u s₂ u₂ := by
  obtain ⟨texts, hP, hs, hu⟩ := h.passesOn
  obtain ⟨more, hP', hs', hu'⟩ := h'.passesOn
  refine ⟨h'.alike, texts ++ more, fun text htext => ?_, hs.trans hs', hu.trans hu'⟩
  rcases List.mem_append.mp htext with htext | htext
  · exact hP text htext
  · exact hP' text htext

end Session

namespace Job

open Session

variable {α β : Type} {host : Host} {P Q : Text → Prop} {x : Job α} {f : α → Job β}
  {s u : Session} {r : Except Failure α} {e : Failure}

/-- The same result, or the same failure, in sessions that follow two others. -/
inductive Concur (P : Text → Prop) (s u : Session) :
    EStateM.Result Failure Session α → EStateM.Result Failure Session α → Prop
  | ok {a : α} {s' u' : Session} (h : Follow P s u s' u') : Concur P s u (.ok a s') (.ok a u')
  | error {e : Failure} {s' u' : Session} (h : Follow P s u s' u') :
      Concur P s u (.error e s') (.error e u')

/-- A job that does the same in all sessions on a machine that are alike. -/
def Blind (host : Host) (P : Text → Prop) (x : Job α) : Prop :=
  ∀ s u, host.Later s.host → Alike s u → Concur P s u (x s) (x u)

theorem Blind.mono (hx : Blind host P x) (hPQ : ∀ text, P text → Q text) : Blind host Q x := by
  intro s u hlater h
  have hconcur := hx s u hlater h
  generalize x s = end₁, x u = end₂ at hconcur
  cases hconcur with
  | ok hfollow => exact .ok (hfollow.mono hPQ)
  | error hfollow => exact .error (hfollow.mono hPQ)

/-- The second step may count on what the first one can come to. -/
theorem Blind.bind_of (hx : Blind host P x)
    (hf : ∀ a, (∃ s s', host.Later s.host ∧ x s = .ok a s') → Blind host P (f a)) :
    Blind host P (x >>= f) := by
  intro s u hlater h
  have hfirst := hx s u hlater h
  cases hs : x s with
  | error e s₁ =>
      rw [hs] at hfirst
      generalize hu : x u = end₂ at hfirst
      cases hfirst with
      | error hfollow =>
          rw [bind_of_error hs, bind_of_error hu]
          exact .error hfollow
  | ok a s₁ =>
      rw [hs] at hfirst
      generalize hu : x u = end₂ at hfirst
      cases hfirst with
      | @ok _ _ u₁ hfollow =>
          -- the second steps start in sessions that are alike again
          rw [bind_of_ok hs, bind_of_ok hu]
          obtain ⟨_, _, hpasses, -⟩ := hfollow.passesOn
          have hrest := hf a ⟨s, s₁, hlater, hs⟩ s₁ u₁ (hlater.trans hpasses.later) hfollow.alike
          generalize f a s₁ = end₁ at hrest
          generalize f a u₁ = end₂ at hrest
          cases hrest with
          | ok hfollow' => exact .ok (hfollow.trans hfollow')
          | error hfollow' => exact .error (hfollow.trans hfollow')

theorem Blind.bind (hx : Blind host P x) (hf : ∀ a, Blind host P (f a)) : Blind host P (x >>= f) :=
  hx.bind_of fun a _ => hf a

end Job

end TemplateTree
