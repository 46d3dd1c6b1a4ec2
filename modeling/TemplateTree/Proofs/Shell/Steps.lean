import TemplateTree.Proofs.Files.Tidy
import TemplateTree.Shell.State

/-!
# What a shell keeps in order

A property of the state of a shell that every step keeps is kept by steps in a row, also
by those that are cut short.  One such property is that the files are tidy and that time
does not go back.
-/

namespace TemplateTree.Shell

namespace Step

variable {α β : Type} {P : ShellState → Prop} {c : Step α} {f : α → Step β} {s s' : ShellState}
  {a : α} {e : Stop}

/-- The state in which a step ends, well or not. -/
def after (c : Step α) (s : ShellState) : ShellState :=
  match c s with
  | .ok _ s' => s'
  | .error _ s' => s'

/-- A step that keeps a property of the state, also when it is cut short. -/
def Keeps (P : ShellState → Prop) (c : Step α) : Prop :=
  ∀ s, P s → P (c.after s)

theorem after_of_ok (h : c s = .ok a s') : c.after s = s' := by
  simp [after, h]

theorem after_of_error (h : c s = .error e s') : c.after s = s' := by
  simp [after, h]

theorem keeps_pure : Keeps P (pure a : Step α) :=
  fun _ h => h

theorem keeps_throw : Keeps P (throw e : Step α) :=
  fun _ h => h

theorem keeps_modify {g : ShellState → ShellState} (h : ∀ s, P s → P (g s)) :
    Keeps P (modify g : Step Unit) :=
  h

theorem keeps_set (h : P s) : Keeps P (set s : Step Unit) :=
  fun _ _ => h

theorem Keeps.bind (hc : Keeps P c) (hf : ∀ a, Keeps P (f a)) : Keeps P (c >>= f) := by
  intro s hs
  have hfirst := hc s hs
  cases h : c s with
  | ok a s₁ =>
      rw [after_of_ok h] at hfirst
      rw [after, bind_of_ok h]
      exact hf a s₁ hfirst
  | error e s₁ =>
      rwa [after_of_error (bind_of_error h), ← after_of_error h]

/-- The state that a step looks at has what the step keeps. -/
theorem keeps_get_bind {g : ShellState → Step β} (h : ∀ s, P s → Keeps P (g s)) :
    Keeps P (get >>= g) :=
  fun s hs => h s hs s hs

theorem Keeps.tryCatch {handler : Stop → Step α} (hc : Keeps P c)
    (hhandler : ∀ e, Keeps P (handler e)) : Keeps P (tryCatch c handler) := by
  intro s hs
  have hfirst := hc s hs
  cases h : c s with
  | ok a s₁ =>
      rwa [after_of_ok (tryCatch_of_ok h), ← after_of_ok h]
  | error e s₁ =>
      rw [after_of_error h] at hfirst
      rw [after, tryCatch_of_error h]
      exact hhandler e s₁ hfirst

theorem keeps_forM {as : List α} {g : α → Step PUnit} (h : ∀ a ∈ as, Keeps P (g a)) :
    Keeps P (as.forM g) := by
  induction as with
  | nil => exact keeps_pure
  | cons a as ih =>
      exact (h a List.mem_cons_self).bind fun _ => ih fun b hb => h b (List.mem_cons_of_mem _ hb)

theorem keeps_foldlM {as : List α} {g : β → α → Step β} {b : β}
    (h : ∀ b, ∀ a ∈ as, Keeps P (g b a)) : Keeps P (as.foldlM g b) := by
  induction as generalizing b with
  | nil => exact keeps_pure
  | cons a as ih =>
      rw [List.foldlM_cons]
      exact (h b a List.mem_cons_self).bind fun b' =>
        ih fun b a ha => h b a (List.mem_cons_of_mem _ ha)

theorem keeps_mapM {as : List α} {g : α → Step β} (h : ∀ a ∈ as, Keeps P (g a)) :
    Keeps P (as.mapM g) := by
  induction as with
  | nil => exact keeps_pure
  | cons a as ih =>
      rw [List.mapM_cons]
      refine (h a List.mem_cons_self).bind fun b => ?_
      exact (ih fun b hb => h b (List.mem_cons_of_mem _ hb)).bind fun bs => keeps_pure

end Step

/-- A shell with tidy files, at a time that is not before another one. -/
structure ShellState.Orderly (m : Instant) (s : ShellState) : Prop where
  files : s.files.Tidy
  now : m ≤ s.now

namespace Step

variable {m : Instant} {channels : Channels} {sink : Sink}

open ShellState

theorem orderly_modify {g : ShellState → ShellState}
    (hfiles : ∀ s, (g s).files = s.files) (hnow : ∀ s, (g s).now = s.now) :
    Keeps (Orderly m) (modify g : Step Unit) := by
  refine keeps_modify fun s hs => ⟨?_, ?_⟩
  · rw [hfiles]
    exact hs.files
  · rw [hnow]
    exact hs.now

theorem orderly_setStatus {n : Nat} : Keeps (Orderly m) (setStatus n) :=
  orderly_modify (fun _ => rfl) fun _ => rfl

theorem orderly_writeBytes {bytes : Bytes} : Keeps (Orderly m) (writeBytes sink bytes) := by
  refine keeps_modify fun s hs => ?_
  cases sink with
  | stream n => exact ⟨hs.files, hs.now⟩
  | file place =>
      dsimp only
      split
      case h_1 old mode time hget =>
        refine ⟨hs.files.putAt (fun x hx => hs.files.root.isName_of_mem ?_ hx) .file, hs.now⟩
        simp [Node.item?, hget]
      case h_2 => exact hs

theorem orderly_write {t : Text} : Keeps (Orderly m) (write sink t) :=
  orderly_writeBytes

theorem orderly_complain {t : Text} : Keeps (Orderly m) (complain channels t) :=
  orderly_write

theorem orderly_complainInLine {t : Text} : Keeps (Orderly m) (complainInLine channels t) :=
  orderly_complain

theorem orderly_takeInput : Keeps (Orderly m) takeInput := by
  refine keeps_get_bind fun s _ => Keeps.bind ?_ fun _ => keeps_pure
  exact orderly_modify (fun _ => rfl) fun _ => rfl

theorem orderly_newStream : Keeps (Orderly m) newStream := by
  refine keeps_get_bind fun s _ => Keeps.bind ?_ fun _ => keeps_pure
  exact orderly_modify (fun _ => rfl) fun _ => rfl

theorem orderly_streamBytes {n : Nat} : Keeps (Orderly m) (streamBytes n) :=
  keeps_get_bind fun _ _ => keeps_pure

end Step

end TemplateTree.Shell
