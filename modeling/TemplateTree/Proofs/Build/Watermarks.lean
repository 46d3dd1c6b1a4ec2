import TemplateTree.Proofs.Build.Exits
import TemplateTree.Proofs.Discovery.Listing
import TemplateTree.Proofs.Output.Leading
import TemplateTree.Proofs.Shell.Lines

/-!
# Which runs move the watermark

A run that completes leaves the second in which it started.  All others leave the
watermark as it was, as long as its path can be followed when they start: what is behind
a missing directory is out of sight until a rendering makes that directory.
-/

namespace TemplateTree

open FileTree Session Job

namespace Watermark

/-- What the path of a watermark leads to, if that is a file. -/
def content (w : Watermark) (t : FileTree) : Option Bytes :=
  (t.readBytes w.path).toOption

/-- The path of a watermark leads to a node, or to a free name in a directory. -/
def Followed (w : Watermark) (t : FileTree) : Prop :=
  ∃ spot, t.spot w.path = .ok spot

/-- Paths that cannot lead to the file of a watermark. -/
def Apart (w : Watermark) (t : FileTree) (paths : Path → Prop) : Prop :=
  ∀ p, paths p → ∀ q, t.MayLeadTo p q → ¬ t.MayLeadTo w.path q

/-- A command that leaves a watermark as it is where it runs, and does not remove the
current directory. -/
def SparedBy (w : Watermark) (dir : Path) (line : Text) (s : Session) : Prop :=
  ∀ outcome t now, s.execute dir line = .ok (outcome, t, now) →
    t.root.item? t.current = some .dir ∧ w.content t = w.content s.files

/-- The watermark is what it was. -/
structure Kept (w : Watermark) (s s' : Session) : Prop where
  sound : s'.files.Sound
  now : s.now ≤ s'.now
  content : w.content s'.files = w.content s.files

variable {w : Watermark} {t t' : FileTree} {s s' s'' : Session} {P : Place → Prop}
  {paths : Path → Prop} {spot : Spot} {bytes : Bytes} {m n : Nat}

theorem toBytes_inj (h : toBytes m = toBytes n) : m = n := by
  have htext := congrArg Text.ofBytes? h
  rw [toBytes, toBytes, Text.ofBytes?_toBytes, Text.ofBytes?_toBytes] at htext
  have hread := congrArg Text.readDigits? (Option.some.inj htext)
  rw [Text.readDigits?_decimal, Text.readDigits?_decimal] at hread
  exact Option.some.inj hread

theorem read_eq (w : Watermark) (t : FileTree) : w.read t = (w.content t).bind ofBytes? := by
  unfold content
  cases hbytes : t.readBytes w.path with
  | error e => simp [read, readText, hbytes, bind, Except.bind, Except.toOption]
  | ok bytes => exact read_of_readBytes hbytes

theorem content_eq_some_iff (ht : t.Sound) (hspot : t.spot w.path = .ok spot) :
    w.content t = some bytes ↔ t.HasBytes spot.place bytes := by
  constructor
  · intro h
    have hread := toOption_eq_some_iff.mp h
    obtain ⟨q, mode, time, hfound, hfile⟩ := exists_of_readBytes hread
    obtain rfl : spot = .found q := Except.ok.inj (hspot.symm.trans hfound)
    exact ⟨time, mode, hfile⟩
  · rintro ⟨time, mode, hfile⟩
    have hfound : spot = .found spot.place :=
      (ht.spotOf_eq hspot).trans (by simp [spotAt, hfile])
    exact toOption_eq_some_iff.mpr (readBytes_of_item? (hfound ▸ hspot) hfile)

/-- Changes elsewhere keep a watermark, if its path can be followed. -/
theorem content_of_changesOnly (ht : t.Sound) (hfollowed : w.Followed t)
    (hc : ChangesOnly P t t') (hP : ∀ q, t.MayLeadTo w.path q → ¬ P q) :
    w.content t' = w.content t := by
  obtain ⟨spot, hspot⟩ := hfollowed
  have hspot' := ht.spot_of_keeps hspot hc.keeps hc.current
  refine Option.ext fun bytes => ?_
  rw [content_eq_some_iff hc.sound hspot', content_eq_some_iff ht hspot, spotAt_place]
  exact hc.hasBytes_iff (hP _ (.of_spot hspot))

theorem apart_iff_of_keeps (hkeeps : Keeps t.root t'.root) (hcurrent : t'.current = t.current) :
    w.Apart t' paths ↔ w.Apart t paths := by
  unfold Apart
  simp only [mayLeadTo_iff_of_keeps hkeeps hcurrent]

/-- Paths that can be followed are apart from a watermark if they lead elsewhere. -/
theorem apart_of_spot (hmark : t.spot w.path = .ok spot)
    (h : ∀ p, paths p → ∃ other, t.spot p = .ok other ∧ other.place ≠ spot.place) :
    w.Apart t paths := by
  intro p hp q hq hq'
  obtain ⟨other, hother, hne⟩ := h p hp
  have hplace := (LeadsOnlyTo.of_spot hother).eq hq
  have hplace' := (LeadsOnlyTo.of_spot hmark).eq hq'
  exact hne (hplace.symm.trans hplace')

/-! ## What keeps a watermark -/

theorem Kept.trans (h : w.Kept s s') (h' : w.Kept s' s'') : w.Kept s s'' :=
  ⟨h'.sound, Int.le_trans h.now h'.now, h'.content.trans h.content⟩

theorem kept_of_unchanged (hs : s.files.Sound) (h : Unchanged s s') : w.Kept s s' :=
  ⟨h.1.symm ▸ hs, Int.le_of_eq h.2.1.symm, by rw [h.1]⟩

theorem kept_of_wroteTo (hs : s.files.Sound) (hfollowed : w.Followed s.files)
    (h : WroteTo paths s s') (hpaths : w.Apart s.files paths) : w.Kept s s' := by
  obtain ⟨hc, hnow⟩ := h hs
  refine ⟨hc.sound, Int.le_of_eq hnow.symm, content_of_changesOnly hs hfollowed hc ?_⟩
  rintro q hmark ⟨p, hp, hq⟩
  exact hpaths p hp q hq hmark

theorem SparedBy.kept {dir : Path} {line : Text} {outcome : Shell.Outcome}
    (hs : s.files.Sound) (hlawful : s.host.Lawful) (h : w.SparedBy dir line s)
    (hrun : s.execute dir line = .ok (outcome, s'.files, s'.now)) : w.Kept s s' := by
  obtain ⟨hcurrent, hcontent⟩ := h _ _ _ hrun
  obtain ⟨htidy, -, hnow⟩ := hlawful _ _ _ _ _ _ _ _ hs.tidy hrun
  exact ⟨htidy.sound hcurrent, hnow, hcontent⟩

theorem content_of_write {now : Instant} (ht : t.Sound)
    (h : t.write now w.path bytes = .ok t') : w.content t' = some bytes :=
  toOption_eq_some_iff.mpr (readBytes_of_write ht h)

end Watermark

namespace Generator

/-- A run comes to a template when all that it selects before has been rendered. -/
def ComesToRender (g : Generator) (onlyModified : Bool) (overrides : Option Namespace)
    (s : Session) (f : TemplateFile) (s' : Session) : Prop :=
  ∃ before rest s₁, g.selected s.files onlyModified = .ok (before ++ f :: rest) ∧
    Unchanged s s₁ ∧ g.Renders overrides before s₁ s'

/-- A path of a section that a run writes, as the machine answers what its templates ask. -/
def RunWritesTo (g : Generator) (onlyModified : Bool) (overrides : Option Namespace)
    (s : Session) (p : Path) : Prop :=
  ∃ f s', g.ComesToRender onlyModified overrides s f s' ∧
    g.environment.WritesTo g.settings overrides s'.outlook f.name p

/-- A run comes to a command when all that it selects has been rendered and all commands
before have succeeded. -/
def ComesTo (g : Generator) (onlyModified : Bool) (overrides : Option Namespace) (s : Session)
    (line : Text) (s' : Session) : Prop :=
  ∃ templates s₁ s₂ before rest, g.selected s.files onlyModified = .ok templates ∧
    Unchanged s s₁ ∧ g.Renders overrides templates s₁ s₂ ∧
    g.settings.postCommands = before ++ line :: rest ∧ g.RunsCommands before s₂ s'

/-- A run that has no business with the watermark but its own: the path of the watermark
can be followed, no section of a template that the run comes to is written there, and no
command that the run comes to changes it. -/
structure Spares (g : Generator) (onlyModified : Bool) (overrides : Option Namespace)
    (s : Session) : Prop where
  sound : s.files.Sound
  lawful : s.host.Lawful
  followed : g.watermark.Followed s.files
  targets : g.watermark.Apart s.files (g.RunWritesTo onlyModified overrides s)
  commands : ∀ line s', g.ComesTo onlyModified overrides s line s' →
    g.watermark.SparedBy g.settings.rootDir line s'

variable {g : Generator} {onlyModified : Bool} {overrides : Option Namespace}
  {s s' u : Session} {stats : RunStats} {e : Failure} {templates : List TemplateFile}
  {f : TemplateFile} {line : Text} {lines : List Text} {name : Text}

theorem wroteTo_of_renders (h : g.Renders overrides templates s s') :
    WroteTo (fun p => ∃ before f rest u, templates = before ++ f :: rest ∧
      g.Renders overrides before s u ∧
      g.environment.WritesTo g.settings overrides u.outlook f.name p) s s' := by
  induction h with
  | nil => exact .refl _
  | @cons f rest s s₁ s₂ stats hfirst _ ih =>
      have hwrote := g.environment.wroteTo_renderTemplate g.settings f.name overrides s
      rw [after_of_ok hfirst] at hwrote
      apply (hwrote.mono ?_).trans _ _ _ (ih.mono ?_)
      · exact fun p hp => ⟨[], f, rest, s, rfl, .nil, hp⟩
      · rintro p ⟨before, f', rest', u, rfl, hbefore, hp⟩
        exact ⟨f :: before, f', rest', u, rfl, .cons hfirst hbefore, hp⟩

theorem later_of_renders (h : g.Renders overrides templates s s') : s.host.Later s'.host := by
  induction h with
  | nil => exact .refl
  | cons hfirst _ ih =>
      exact ((g.environment.touched_renderTemplate _ _ _).of_ok hfirst).1.trans ih

theorem later_of_runsCommands (h : g.RunsCommands lines s s') : s.host.Later s'.host := by
  induction h with
  | nil h => exact h.2.2 ▸ .refl
  | cons hfirst _ ih =>
      obtain ⟨outcome, ⟨-, hhost⟩, -⟩ := hfirst
      exact .head hhost ih

theorem kept_of_fails (hs : s.files.Sound) (hlawful : s.host.Lawful)
    (hline : g.watermark.SparedBy g.settings.rootDir line s) (h : g.Fails line s e s') :
    g.watermark.Kept s s' := by
  rcases h with ⟨refusal, -, hs', -⟩ | ⟨outcome, ⟨hshell, -⟩, -⟩
  · exact ⟨hs'.1.symm ▸ hs, Int.le_of_eq hs'.2.1.symm, by rw [hs'.1]; rfl⟩
  · exact hline.kept hs hlawful hshell

/-- Commands keep the watermark if each of them does where it runs. -/
theorem kept_of_runsCommands (hs : s.files.Sound) (hlawful : s.host.Lawful)
    (hlines : ∀ before line rest u, lines = before ++ line :: rest → g.RunsCommands before s u →
      g.watermark.SparedBy g.settings.rootDir line u)
    (h : g.RunsCommands lines s s') : g.watermark.Kept s s' := by
  induction h with
  | nil h => exact Watermark.kept_of_unchanged hs h
  | @cons line rest s s₁ s₂ hfirst _ ih =>
      have ⟨outcome, ⟨hshell, hhost⟩, _⟩ := hfirst
      have hstep := (hlines [] line rest s rfl (.nil (.refl s))).kept hs hlawful hshell
      have hlawful' : s₁.host.Lawful := hhost ▸ hlawful.later s.host.later_next
      refine hstep.trans (ih hstep.sound hlawful' fun before line' rest' u heq hbefore => ?_)
      exact hlines (line :: before) line' rest' u (by rw [heq, List.cons_append])
        (.cons hfirst hbefore)

namespace Spares

variable (h : g.Spares onlyModified overrides s)
include h

/-- Writing sections of what was selected keeps the watermark. -/
theorem kept_of_wrote {s₁ s₂ : Session} (hs : Unchanged s s₁)
    (hwrote : WroteTo (g.RunWritesTo onlyModified overrides s) s₁ s₂) : g.watermark.Kept s s₂ := by
  have hsame : g.watermark.Kept s s₁ := Watermark.kept_of_unchanged h.sound hs
  refine hsame.trans (Watermark.kept_of_wroteTo hsame.sound ?_ hwrote ?_)
  · rw [hs.1]
    exact h.followed
  · rw [hs.1]
    exact h.targets

theorem kept_of_unrendered {before rest : List TemplateFile} {s₁ s₂ : Session}
    (hselected : g.selected s.files onlyModified = .ok (before ++ f :: rest))
    (hs : Unchanged s s₁) (hbefore : g.Renders overrides before s₁ s₂)
    (hfailed : g.environment.renderTemplate g.settings f.name overrides s₂ = .error e s') :
    g.watermark.Kept s s' := by
  -- a rendering that failed may have written files, but only those of its sections
  have hwrote := g.environment.wroteTo_renderTemplate g.settings f.name overrides s₂
  rw [after_of_error hfailed] at hwrote
  apply h.kept_of_wrote hs
  apply ((wroteTo_of_renders hbefore).mono ?_).trans _ _ _ (hwrote.mono ?_)
  · rintro p ⟨first, f', more, u, rfl, hfirst, hp⟩
    exact ⟨f', u, ⟨first, more ++ f :: rest, s₁, by simpa using hselected, hs, hfirst⟩, hp⟩
  · exact fun p hp => ⟨f, s₂, ⟨before, rest, s₁, hselected, hs, hbefore⟩, hp⟩

/-- Rendering what was selected and then running the first commands keeps the watermark. -/
theorem kept_of_ran {before rest : List Text} {s₁ s₂ s₃ : Session}
    (hselected : g.selected s.files onlyModified = .ok templates) (hs : Unchanged s s₁)
    (hall : g.Renders overrides templates s₁ s₂)
    (hcommands : g.settings.postCommands = before ++ rest)
    (hbefore : g.RunsCommands before s₂ s₃) :
    g.watermark.Kept s s₃ ∧ s₃.host.Lawful := by
  have hrendered : g.watermark.Kept s s₂ := by
    refine h.kept_of_wrote hs ((wroteTo_of_renders hall).mono ?_)
    rintro p ⟨first, f, more, u, rfl, hfirst, hp⟩
    exact ⟨f, u, ⟨first, more, s₁, hselected, hs, hfirst⟩, hp⟩
  have hlawful : s₂.host.Lawful := (hs.2.2 ▸ h.lawful).later (later_of_renders hall)
  refine ⟨hrendered.trans (kept_of_runsCommands hrendered.sound hlawful ?_ hbefore),
    hlawful.later (later_of_runsCommands hbefore)⟩
  rintro first line more u rfl hfirst
  refine h.commands line u ⟨templates, s₁, s₂, first, more ++ rest, hselected, hs, hall, ?_, hfirst⟩
  rw [hcommands, List.append_assoc, List.cons_append]

/-- A run that does not complete keeps the watermark. -/
theorem kept_renderAll (hnot : ¬ ∃ s', g.Completes onlyModified overrides s s') :
    g.watermark.Kept s ((g.renderAll onlyModified overrides).after s) := by
  have hends := g.ends_renderAll onlyModified overrides s
  unfold Job.after
  cases hrun : g.renderAll onlyModified overrides s with
  | ok stats s' =>
      rw [hrun] at hends
      cases hends with
      | idle _ hs => exact Watermark.kept_of_unchanged h.sound hs
      | completed hcompletes => exact absurd ⟨s', hcompletes⟩ hnot
  | error e s' =>
      rw [hrun] at hends
      cases hends with
      | unread _ hs => exact Watermark.kept_of_unchanged h.sound hs
      | unrendered hselected hs hbefore hfailed =>
          exact h.kept_of_unrendered hselected hs hbefore hfailed
      | stopped hselected _ hs hall hcommands hbefore hfailed =>
          obtain ⟨hran, hlawful⟩ := h.kept_of_ran hselected hs hall hcommands hbefore
          have hspared := h.commands _ _ ⟨_, _, _, _, _, hselected, hs, hall, hcommands, hbefore⟩
          exact hran.trans (kept_of_fails hran.sound hlawful hspared hfailed)
      | unwritten hselected _ hs hall hcommands _ hs' =>
          obtain ⟨hran, -⟩ := h.kept_of_ran hselected hs hall (List.append_nil _).symm hcommands
          exact hran.trans (Watermark.kept_of_unchanged hran.sound hs')

/-- A run that completes leaves the second in which it started. -/
theorem content_of_completes (hcompletes : g.Completes onlyModified overrides s s') :
    s.now ≤ s'.now ∧ g.watermark.content s'.files =
      some (Watermark.toBytes (Instant.floorSeconds s.now)) := by
  obtain ⟨templates, s₁, s₂, s₃, hselected, -, hs, hall, hcommands, hwrite, hnow, -⟩ := hcompletes
  obtain ⟨hran, -⟩ := h.kept_of_ran hselected hs hall (List.append_nil _).symm hcommands
  exact ⟨hnow ▸ hran.now, Watermark.content_of_write hran.sound hwrite⟩

theorem content_renderAll (hcompletes : ∃ s', g.Completes onlyModified overrides s s') :
    s.now ≤ ((g.renderAll onlyModified overrides).after s).now ∧
      g.watermark.content ((g.renderAll onlyModified overrides).after s).files =
        some (Watermark.toBytes (Instant.floorSeconds s.now)) := by
  obtain ⟨s', hcompletes⟩ := hcompletes
  obtain ⟨stats, u, hrun, hu, -⟩ := hcompletes.renderAll
  rw [after_of_ok hrun, hu.1, hu.2.1]
  exact h.content_of_completes hcompletes

end Spares

/-- Rendering one template keeps the watermark. -/
theorem kept_render (hs : s.files.Sound) (hfollowed : g.watermark.Followed s.files)
    (hname : g.watermark.Apart s.files
      (g.environment.WritesTo g.settings overrides s.outlook name)) :
    g.watermark.Kept s ((g.render name overrides).after s) := by
  unfold render
  split
  · exact Watermark.kept_of_wroteTo hs hfollowed
      (g.environment.wroteTo_renderTemplate g.settings name overrides s) hname
  · exact Watermark.kept_of_unchanged hs (.refl s)

end Generator

/-! ## The next run -/

/-- Trees with the same templates: the template directory leads to the same place, and
the same is listed below it. -/
structure Settings.SameTemplates (settings : Settings) (t u : FileTree) : Prop where
  place : u.place settings.templateDir = t.place settings.templateDir
  listed : ∀ root, t.place settings.templateDir = .ok root → ∀ names,
    (u.root.item? (root ++ names)).map Item.listed = (t.root.item? (root ++ names)).map Item.listed

theorem Settings.SameTemplates.candidates_eq {settings : Settings} {t u : FileTree}
    (h : settings.SameTemplates t u) (ht : t.Sound) (hu : u.Sound) (cutoff : Option Nat) :
    settings.candidates u cutoff = settings.candidates t cutoff := by
  cases hroot : t.place settings.templateDir with
  | ok root =>
      exact candidates_of_sameListing ht hu hroot (h.place.trans hroot) (h.listed root hroot) cutoff
  | error e =>
      have hroot' := h.place.trans hroot
      unfold candidates filesBelow walk Walk.all
      rw [hroot, hroot']

/-- With the same templates and the same watermark a run selects the same. -/
theorem Generator.selected_eq {g : Generator} {t u : FileTree}
    (h : g.settings.SameTemplates t u) (ht : t.Sound) (hu : u.Sound)
    (hcontent : g.watermark.content u = g.watermark.content t) (onlyModified : Bool) :
    g.selected u onlyModified = g.selected t onlyModified := by
  unfold selected
  rw [h.candidates_eq ht hu, Watermark.read_eq, Watermark.read_eq, hcontent]

/-! ## Rows of runs -/

namespace Watermark

/-- What happens to a watermark that only runs write: the rest of the tree changes as time
goes on, or there is a run, of all templates or of one. -/
inductive Step (w : Watermark) : Session → Session → Prop
  | wait {s s' : Session} (hcontent : w.content s'.files = w.content s.files)
      (hnow : s.now ≤ s'.now) : Step w s s'
  | run {s : Session} {g : Generator} {onlyModified : Bool} {overrides : Option Namespace}
      (hg : g.watermark = w) (hspares : g.Spares onlyModified overrides s) :
      Step w s ((g.renderAll onlyModified overrides).after s)
  | render {s : Session} {g : Generator} {name : Text} {overrides : Option Namespace}
      (hg : g.watermark = w) (hs : s.files.Sound) (hfollowed : w.Followed s.files)
      (hname : w.Apart s.files (g.environment.WritesTo g.settings overrides s.outlook name)) :
      Step w s ((g.render name overrides).after s)

def Stored (w : Watermark) (s : Session) : Prop :=
  ∀ bytes, w.content s.files = some bytes →
    ∃ n, n ≤ Instant.floorSeconds s.now ∧ bytes = toBytes n

variable {w : Watermark} {s s' : Session} {n : Nat}

/-- A step leaves the watermark as it is, or it stores the present second. -/
theorem Step.cases (h : w.Step s s') : s.now ≤ s'.now ∧
    (w.content s'.files = w.content s.files ∨
      w.content s'.files = some (toBytes (Instant.floorSeconds s.now))) := by
  cases h with
  | wait hcontent hnow => exact ⟨hnow, .inl hcontent⟩
  | @run g onlyModified overrides hg hspares =>
      subst hg
      by_cases hcompletes : ∃ s', g.Completes onlyModified overrides s s'
      · obtain ⟨hnow, hcontent⟩ := hspares.content_renderAll hcompletes
        exact ⟨hnow, .inr hcontent⟩
      · have hkept := hspares.kept_renderAll hcompletes
        exact ⟨hkept.now, .inl hkept.content⟩
  | @render g name overrides hg hs hfollowed hname =>
      subst hg
      have hkept := Generator.kept_render hs hfollowed hname
      exact ⟨hkept.now, .inl hkept.content⟩

theorem Stored.step (h : w.Stored s) (hstep : w.Step s s') : w.Stored s' := by
  obtain ⟨hnow, hcontent⟩ := hstep.cases
  have hlater := Instant.floorSeconds_mono hnow
  intro bytes hbytes
  rcases hcontent with hcontent | hcontent
  · obtain ⟨n, hn, rfl⟩ := h bytes (hcontent.symm.trans hbytes)
    exact ⟨n, Nat.le_trans hn hlater, rfl⟩
  · exact ⟨_, hlater, Option.some.inj (hbytes.symm.trans hcontent)⟩

theorem exists_of_step (h : w.Stored s) (hstep : w.Step s s')
    (hn : w.content s.files = some (toBytes n)) :
    ∃ n', n ≤ n' ∧ w.content s'.files = some (toBytes n') := by
  rcases hstep.cases.2 with hcontent | hcontent
  · exact ⟨n, Nat.le_refl n, hcontent.trans hn⟩
  · obtain ⟨m, hm, heq⟩ := h _ hn
    exact ⟨_, toBytes_inj heq ▸ hm, hcontent⟩

theorem Stored.steps (h : w.Stored s) (hsteps : Relation.ReflTransGen w.Step s s') :
    w.Stored s' := by
  induction hsteps with
  | refl => exact h
  | tail _ hlast ih => exact ih.step hlast

/-- What is stored never becomes less. -/
theorem exists_of_steps (h : w.Stored s) (hsteps : Relation.ReflTransGen w.Step s s')
    (hn : w.content s.files = some (toBytes n)) :
    ∃ n', n ≤ n' ∧ w.content s'.files = some (toBytes n') := by
  induction hsteps with
  | refl => exact ⟨n, Nat.le_refl n, hn⟩
  | tail hfirst hlast ih =>
      obtain ⟨m, hm, hcontent⟩ := ih
      obtain ⟨n', hn', hcontent'⟩ := exists_of_step (h.steps hfirst) hlast hcontent
      exact ⟨n', Nat.le_trans hm hn', hcontent'⟩

end Watermark

end TemplateTree
