import TemplateTree.Proofs.Files.Rights
import TemplateTree.Proofs.Output.Repeating

/-!
# Sections at rest

Sections are at rest in a tree that holds their files with the contents that the last
ones of each place ask for, and in which scripts may be executed.  That is what writing
leaves.  Writing such sections once more, a part of them after the other, makes no
directory, changes no rights, and in the end no content.
-/

namespace TemplateTree.Settings

open FileTree

variable {settings : Settings} {out : Place} {t t' u u' : FileTree} {P : Place → Prop}
  {s : Section} {sections rest : List Section} {now later time : Instant} {q : Place}
  {old : Bytes} {mode : Nat}

def IsScript (settings : Settings) (s : Section) : Prop :=
  Path.hasExtension (settings.target s) "sh" = true

/-- Sections whose files are as writing them leaves them. -/
structure AtRest (settings : Settings) (out : Place) (t : FileTree) (sections : List Section) :
    Prop where
  disk : settings.OnDisk out t sections
  scripts : ∀ s ∈ sections, settings.IsScript s → t.Executable (s.place out)

/-! ## What stays on disk -/

/-- Sections stay on disk when others are written after them. -/
theorem OnDisk.append (h : settings.OnDisk out t sections) (ht : t.Sound)
    (hc : ChangesOnly (IsTarget out rest) t t') (hrest : settings.OnDisk out t' rest) :
    settings.OnDisk out t' (sections ++ rest) := by
  induction sections with
  | nil => exact hrest
  | cons s sections ih =>
      obtain ⟨⟨hprepared, hsaved⟩, hlast, hmore⟩ := h
      have hfile : ∃ bytes, t'.HasBytes (s.place out) bytes := by
        by_cases hagain : IsTarget out rest (s.place out)
        · obtain ⟨r, hr, hplace⟩ := hagain
          exact hplace ▸ (hrest.saved hr).file
        · obtain ⟨bytes, hbytes⟩ := hsaved.file
          exact ⟨bytes, (hc.hasBytes_iff hagain).mpr hbytes⟩
      refine ⟨⟨hprepared.changesOnly ht hc, hsaved.changesOnly ht hc hfile⟩, fun hne => ?_,
        ih hmore⟩
      have hagain : ¬ IsTarget out rest (s.place out) := by
        rintro ⟨r, hr, hplace⟩
        exact hne r (List.mem_append_right _ hr) hplace.symm
      apply (hc.hasBytes_iff hagain).mpr
      exact hlast fun r hr => hne r (List.mem_append_left _ hr)

theorem AtRest.append (h : settings.AtRest out t sections) (ht : t.Sound)
    (hc : ChangesOnly (IsTarget out rest) t t')
    (hkeeps : ∀ q, t.Executable q → t'.Executable q) (hrest : settings.AtRest out t' rest) :
    settings.AtRest out t' (sections ++ rest) := by
  refine ⟨h.disk.append ht hc hrest.disk, fun s hs hscript => ?_⟩
  rcases List.mem_append.mp hs with hs | hs
  · exact hkeeps _ (h.scripts s hs hscript)
  · exact hrest.scripts s hs hscript

theorem OnDisk.of_append (h : settings.OnDisk out t (sections ++ rest)) :
    settings.OnDisk out t rest := by
  induction sections with
  | nil => exact h
  | cons s sections ih => exact ih h.2.2

theorem AtRest.of_append (h : settings.AtRest out t (sections ++ rest)) :
    settings.AtRest out t rest :=
  ⟨h.disk.of_append, fun s hs => h.scripts s (List.mem_append_right _ hs)⟩

/-! ## What writing leaves -/

theorem executable_of_prepared? (ht : t.Sound) (h : settings.prepared? t s = some t')
    (hq : t.Executable q) : t'.Executable q := by
  unfold prepared? at h
  split at h
  case h_2 => exact Option.some.inj h ▸ hq
  case h_1 =>
    split at h
    case isTrue => exact Option.some.inj h ▸ hq
    case isFalse =>
      split at h
      case isTrue => exact executable_of_makeAllDirs ht (toOption_eq_some_iff.mp h) hq
      case isFalse => cases h

theorem executable_of_written? (ht : t.Sound) (h : settings.written? now t s = some t')
    (hq : t.Executable q) : t'.Executable q := by
  obtain ⟨t₁, hwrite, h⟩ := Option.bind_eq_some_iff.mp h
  have hwrite := toOption_eq_some_iff.mp hwrite
  have hfirst := executable_of_write ht hwrite hq
  split at h
  case isTrue =>
    have ht₁ := (Touch.of_write ht hwrite).sound ht
    exact executable_of_markExecutable ht₁ (toOption_eq_some_iff.mp h) hfirst
  case isFalse => exact Option.some.inj h ▸ hfirst

/-- A script that was written may be executed. -/
theorem executable_of_isScript (ht : settings.OutputAt out t) (hs : s.Contained)
    (hscript : settings.IsScript s) (h : settings.written? now t s = some t') :
    t'.Executable (s.place out) := by
  obtain ⟨t₁, hwrite, h⟩ := Option.bind_eq_some_iff.mp h
  have hwrite := toOption_eq_some_iff.mp hwrite
  have ht₁ := (Touch.of_write ht.sound hwrite).sound ht.sound
  obtain ⟨-, spot, _, hspot, -⟩ := item?_of_write ht.sound hwrite
  have hafter := ht.changesOnly (changesOnly_of_write ht.sound hwrite hspot)
  obtain ⟨q, mode, hfound, hitem⟩ := spot_of_write ht.sound hwrite
  obtain rfl : q = s.place out := hafter.place_of_spot hs hfound
  have hsh : Path.hasExtension (settings.target s) "sh" = true := hscript
  rw [if_pos hsh] at h
  exact executable_of_marked ht₁ (place_eq_ok_iff.mpr hfound) hitem (toOption_eq_some_iff.mp h)

theorem executable_of_prepare (ht : t.Sound)
    (h : sections.foldlM settings.prepared? t = some t') (hq : t.Executable q) :
    t'.Executable q := by
  induction sections generalizing t with
  | nil => exact Option.some.inj h ▸ hq
  | cons s rest ih =>
      rw [List.foldlM_cons] at h
      obtain ⟨t₁, hfirst, h⟩ := Option.bind_eq_some_iff.mp h
      have hc : ChangesOnly (fun _ => False) t t₁ := changesOnly_of_prepared? ht hfirst
      exact ih hc.sound h (executable_of_prepared? ht hfirst hq)

theorem scripts_of_write (ht : settings.OutputAt out t) (hcontained : ∀ s ∈ sections, s.Contained)
    (h : sections.foldlM (settings.written? now) t = some t') :
    (∀ q, t.Executable q → t'.Executable q) ∧
      ∀ s ∈ sections, settings.IsScript s → t'.Executable (s.place out) := by
  induction sections generalizing t with
  | nil =>
      cases h
      exact ⟨fun _ => id, by simp⟩
  | cons s rest ih =>
      rw [List.foldlM_cons] at h
      obtain ⟨t₁, hfirst, h⟩ := Option.bind_eq_some_iff.mp h
      have hs := hcontained s List.mem_cons_self
      have ht₁ := ht.changesOnly (written?_spec ht hs hfirst).1
      obtain ⟨hkeeps, hrest⟩ := ih ht₁ (fun r hr => hcontained r (List.mem_cons_of_mem _ hr)) h
      refine ⟨fun q hq => hkeeps q (executable_of_written? ht.sound hfirst hq), ?_⟩
      intro r hr hscript
      rcases List.mem_cons.mp hr with rfl | hr
      · exact hkeeps _ (executable_of_isScript ht hs hscript hfirst)
      · exact hrest r hr hscript

/-- Sections that were written are at rest, and no right to execute is lost. -/
theorem atRest_of_saved? (ht : settings.OutputAt out t)
    (hcontained : ∀ s ∈ sections, s.Contained)
    (h : settings.saved? now sections t = some t') :
    settings.AtRest out t' sections ∧ ∀ q, t.Executable q → t'.Executable q := by
  obtain ⟨-, hdisk⟩ := saved?_spec ht hcontained h
  obtain ⟨t₁, hprepare, hwrite⟩ := Option.bind_eq_some_iff.mp h
  obtain ⟨hc, -⟩ := prepare_spec (P := fun _ => False) ht.sound hprepare
  obtain ⟨hkeeps, hscripts⟩ := scripts_of_write (ht.changesOnly hc) hcontained hwrite
  exact ⟨⟨hdisk, hscripts⟩, fun q hq => hkeeps q (executable_of_prepare ht.sound hprepare hq)⟩

/-! ## Writing once more -/

theorem Prepared.of_shape (h : settings.Prepared t s) (hshape : SameShape t u) :
    settings.Prepared u s := by
  intro dir hdir
  rw [hshape.hasDir_eq]
  exact h dir hdir

/-- Where a file of a section is, and a script may be executed already, writing the section
changes the content and the time of the file only. -/
theorem Saved.item?_of_written? (h : settings.Saved out u s) (hu : u.Sound)
    (hold : u.root.item? (s.place out) = some (.file old mode time))
    (hscript : settings.IsScript s → mode ||| ownerExecute = mode)
    (hwritten : settings.written? now u s = some u') :
    ∀ r, u'.root.item? r = if r = s.place out then some (.file (settings.bytesOf s) mode now)
      else u.root.item? r := by
  obtain ⟨u₁, hwrite, hmark⟩ := Option.bind_eq_some_iff.mp hwritten
  have hwrite := toOption_eq_some_iff.mp hwrite
  have hfirst := item?_of_rewrite hu h.spot hold hwrite
  split at hmark
  case isFalse =>
    obtain rfl := Option.some.inj hmark
    exact hfirst
  case isTrue hsh =>
    have htouch := Touch.of_write hu hwrite
    have hfile : u₁.root.item? (s.place out) = some (.file (settings.bytesOf s) mode now) := by
      rw [hfirst, if_pos rfl]
    have hspot := hu.spot_of_keeps h.spot htouch.keeps htouch.current_eq
    have hplace : u₁.place (settings.target s) = .ok (s.place out) := by
      apply place_eq_ok_iff.mpr
      rw [hspot]
      simp [spotAt, Spot.place, hfile]
    have hlast := item?_of_markExecutable (htouch.sound hu) hplace hfile
      (toOption_eq_some_iff.mp hmark)
    intro r
    rw [hlast, hscript hsh, hfirst]
    split <;> rfl

/-- A part of the sections is written, in a tree that is as it was but for the contents of
their files and of those that come after them. -/
theorem AtRest.write_again (h : settings.AtRest out t (sections ++ rest)) (later : Instant)
    (hcontained : ∀ s ∈ sections, s.Contained) (hu : settings.OutputAt out u)
    (hsame : SameOff (IsTarget out (sections ++ rest)) t u) :
    ∃ u', sections.foldlM (settings.written? later) u = some u' ∧ settings.OutputAt out u' ∧
      SameOff (IsTarget out rest) t u' := by
  induction sections generalizing u with
  | nil => exact ⟨u, rfl, hu, hsame⟩
  | cons s sections ih =>
      obtain ⟨⟨⟨-, hsaved⟩, hlast, hdisk⟩, hscripts⟩ := h
      obtain ⟨old, time, mode, hold⟩ := hsaved.file
      obtain ⟨old', time', hold'⟩ := hsame.exists_file hold
      have hscript : settings.IsScript s → mode ||| ownerExecute = mode := by
        intro hscript
        obtain ⟨_, mode', _, hfile, hmode⟩ := hscripts s List.mem_cons_self hscript
        obtain ⟨-, rfl, -⟩ := Item.file.inj (Option.some.inj (hfile.symm.trans hold))
        exact hmode
      have hsaved' := hsaved.of_shape hsame.sameShape
      obtain ⟨u₁, hwritten⟩ := hsaved'.exists_written? later hu.sound
      have hitem := hsaved'.item?_of_written? hu.sound hold' hscript hwritten
      obtain ⟨hc, -⟩ := written?_spec hu (hcontained s List.mem_cons_self) hwritten
      have hsame₁ : SameOff (IsTarget out (sections ++ rest)) t u₁ := by
        refine hsame.update hc.current hold hitem ?_ ?_
        · intro r hr hne htarget
          exact (isTarget_cons.mp htarget).elim hne hr
        · intro hnot
          -- no section comes after it that has the same place
          have hbytes := hlast fun r hr hplace => hnot ⟨r, hr, hplace.symm⟩
          exact HasBytes.inj ⟨time, mode, hold⟩ hbytes
      obtain ⟨u', hmore, hu', hsame'⟩ :=
        ih ⟨hdisk, fun r hr => hscripts r (List.mem_cons_of_mem _ hr)⟩
          (fun r hr => hcontained r (List.mem_cons_of_mem _ hr)) (hu.changesOnly hc) hsame₁
      refine ⟨u', ?_, hu', hsame'⟩
      rw [List.foldlM_cons, hwritten]
      exact hmore

theorem AtRest.saved?_again (h : settings.AtRest out t (sections ++ rest)) (later : Instant)
    (hcontained : ∀ s ∈ sections, s.Contained) (hu : settings.OutputAt out u)
    (hsame : SameOff (IsTarget out (sections ++ rest)) t u) :
    ∃ u', settings.saved? later sections u = some u' ∧ settings.OutputAt out u' ∧
      SameOff (IsTarget out rest) t u' := by
  have hprepared : ∀ s ∈ sections, settings.Prepared u s := fun s hs =>
    (h.disk.prepared (List.mem_append_left _ hs)).of_shape hsame.sameShape
  obtain ⟨u', hwrite, hu', hsame'⟩ := h.write_again later hcontained hu hsame
  refine ⟨u', ?_, hu', hsame'⟩
  rw [saved?, prepare_again hprepared]
  exact hwrite

end TemplateTree.Settings
