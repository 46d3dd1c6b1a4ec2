import TemplateTree.Proofs.Output.Refused

/-!
# Where renderings write

Whatever links there are, a rendering changes no file but those to which the paths of its
sections may lead.
-/

namespace TemplateTree

open FileTree Session Job

/-- Files are changed only where certain paths may lead, and no time passes. -/
def Session.WroteTo (paths : Path → Prop) (s s' : Session) : Prop :=
  s.files.Sound → ChangesOnly (fun q => ∃ p, paths p ∧ s.files.MayLeadTo p q) s.files s'.files ∧
    s'.now = s.now

section

variable {paths paths' : Path → Prop} {s s' : Session}

theorem Session.WroteTo.refl (s : Session) : WroteTo paths s s :=
  fun hs => ⟨.refl hs, rfl⟩

theorem Session.WroteTo.trans (s₁ s₂ s₃ : Session) (h : WroteTo paths s₁ s₂)
    (h' : WroteTo paths s₂ s₃) : WroteTo paths s₁ s₃ := by
  intro hs
  obtain ⟨hfirst, hnow⟩ := h hs
  obtain ⟨hrest, hnow'⟩ := h' hfirst.sound
  refine ⟨hfirst.trans (hrest.mono ?_), hnow'.trans hnow⟩
  rintro q ⟨p, hp, hq⟩
  exact ⟨p, hp, (mayLeadTo_iff_of_keeps hfirst.keeps hfirst.current).mp hq⟩

theorem Session.WroteTo.mono (h : WroteTo paths s s') (hpaths : ∀ p, paths p → paths' p) :
    WroteTo paths' s s' := by
  intro hs
  obtain ⟨hc, hnow⟩ := h hs
  refine ⟨hc.mono ?_, hnow⟩
  rintro q ⟨p, hp, hq⟩
  exact ⟨p, hpaths p hp, hq⟩

theorem Session.WroteTo.turned (s : Session) : WroteTo paths s s.turned :=
  fun hs => ⟨.refl hs, rfl⟩

theorem Session.MadeDirs.wroteTo (h : MadeDirs s s') : WroteTo paths s s' := by
  intro hs
  obtain ⟨hc, hnow⟩ := h hs
  exact ⟨hc.mono fun _ => False.elim, hnow⟩

end

namespace Job

variable {settings : Settings} {sections : List Section} {paths : Path → Prop} {α : Type}
  {x : Job α}

theorem wroteTo_of_unchanged (h : Within Unchanged x) : Within (WroteTo paths) x :=
  fun s => (madeDirs_of_unchanged h s).wroteTo

theorem wroteTo_writeSection (settings : Settings) (r : Section) :
    Within (WroteTo (· = settings.target r)) (writeSection settings r) := by
  apply within_writeSection WroteTo.refl WroteTo.trans
  · refine fun s bytes files h hs => ⟨?_, rfl⟩
    obtain ⟨-, spot, _, hspot, -⟩ := item?_of_write hs h
    refine (changesOnly_of_write hs h hspot).mono ?_
    rintro q rfl
    exact ⟨_, rfl, .of_spot hspot⟩
  · exact fun s files h hs => ⟨changesOnly_of_markExecutable hs h, rfl⟩
  · exact wroteTo_of_unchanged (unchanged_fileSaved _)

theorem wroteTo_writeSections (settings : Settings) (sections : List Section) :
    Within (WroteTo fun p => ∃ r ∈ sections, p = settings.target r)
      (writeSections settings sections) := by
  apply within_writeSections WroteTo.refl WroteTo.trans
  · exact fun s => (madeDirs_prepareParents _ _ s).wroteTo
  · exact fun r hr s => (wroteTo_writeSection settings r s).mono fun p hp => ⟨r, hr, hp⟩

end Job

namespace Environment

def WritesTo (env : Environment) (settings : Settings) (overrides : Option Namespace)
    (o : Template.Outlook) (name : Text) (p : Path) : Prop :=
  ∃ sections, env.sections? settings overrides o name = some sections ∧
    ∃ r ∈ sections, p = settings.target r

/-- A rendering changes no file but those to which its sections may lead, whether it ends
well or not. -/
theorem wroteTo_renderTemplate (env : Environment) (settings : Settings) (name : Text)
    (overrides : Option Namespace) (s : Session) :
    WroteTo (env.WritesTo settings overrides s.outlook name) s
      ((env.renderTemplate settings name overrides).after s) := by
  apply rel_renderTemplate WroteTo.refl WroteTo.trans
    (wroteTo_of_unchanged (unchanged_count _)) WroteTo.turned
  intro text sections hrender hsections s
  have hsome := sections?_eq_some_iff.mpr ⟨text, hrender, hsections⟩
  exact (wroteTo_writeSections settings sections s).mono fun p hp => ⟨sections, hsome, hp⟩

end Environment

end TemplateTree
