import TemplateTree.Proofs.Files.Storing
import TemplateTree.Proofs.Output.Targets

/-!
# Writing sections

Sections are written where they are directed, and nothing else is changed.  Once they
are on disk, writing them again succeeds and changes no content.
-/

namespace TemplateTree

namespace Settings

def target (settings : Settings) (s : Section) : Path :=
  Path.join settings.outputDir s.destination

def bytesOf (settings : Settings) (s : Section) : Bytes :=
  Text.toBytes ((settings.newline.forPath (settings.target s)).apply s.body)

/-- A tree in which the directory of a section is there, or was made. -/
def prepared? (settings : Settings) (t : FileTree) (s : Section) : Option FileTree :=
  match Path.parent? (settings.target s) with
  | some dir =>
    if t.hasDir dir then some t
    else if settings.createDirectories then (t.makeAllDirs dir).toOption
    else none
  | none => some t

/-- A tree in which a section was written. -/
def written? (settings : Settings) (now : Instant) (t : FileTree) (s : Section) :
    Option FileTree :=
  ((t.write now (settings.target s) (settings.bytesOf s)).toOption).bind fun t =>
    if Path.hasExtension (settings.target s) "sh" then
      (t.markExecutable (settings.target s)).toOption
    else some t

/-- A tree in which sections were written, once all their directories were there. -/
def saved? (settings : Settings) (now : Instant) (sections : List Section) (t : FileTree) :
    Option FileTree :=
  (sections.foldlM settings.prepared? t).bind (sections.foldlM (settings.written? now) ·)

/-- A sound tree whose output directory is at a place and holds no links. -/
structure OutputAt (settings : Settings) (out : Place) (t : FileTree) : Prop where
  sound : t.Sound
  place : t.place settings.outputDir = .ok out
  dir : t.root.item? out = some .dir
  links : ∀ q target, t.root.item? (out ++ q) ≠ some (.link target)

variable {settings : Settings} {out : Place} {t t' u : FileTree} {P : Place → Prop}
  {s : Section} {sections : List Section} {now later : Instant}

theorem OutputAt.changesOnly (h : settings.OutputAt out t) (hc : FileTree.ChangesOnly P t t') :
    settings.OutputAt out t' :=
  ⟨hc.sound, h.sound.place_of_keeps h.place h.dir hc.keeps hc.current, hc.keeps.dirs out h.dir,
    fun q target hlink => h.links q target ((hc.keeps.links _ _).mp hlink)⟩

/-- The path of a section leads to the place of its file, or nowhere. -/
theorem OutputAt.place_of_spot (h : settings.OutputAt out t) (hs : s.Contained)
    {spot : FileTree.Spot} (hspot : t.spot (settings.target s) = .ok spot) :
    spot.place = s.place out :=
  FileTree.place_of_spot_join h.place h.dir h.links hs.1 hs.2 hspot

/-! ## What writing changes -/

theorem changesOnly_of_prepared? (ht : t.Sound) (h : settings.prepared? t s = some t') :
    FileTree.ChangesOnly P t t' := by
  unfold prepared? at h
  split at h
  · split at h
    · cases h
      exact .refl ht
    · split at h
      · exact FileTree.changesOnly_of_makeAllDirs ht (toOption_eq_some_iff.mp h)
      · cases h
  · cases h
    exact .refl ht

/-- A section that was written: its file is where its path leads. -/
structure Saved (settings : Settings) (out : Place) (t : FileTree) (s : Section) : Prop where
  form : FileTree.namesDir (settings.target s) = false
  spot : t.spot (settings.target s) = .ok (.found (s.place out))
  file : ∃ bytes, t.HasBytes (s.place out) bytes

theorem Saved.changesOnly (h : settings.Saved out t s) (ht : t.Sound)
    (hc : FileTree.ChangesOnly P t t') (hfile : ∃ bytes, t'.HasBytes (s.place out) bytes) :
    settings.Saved out t' s := by
  obtain ⟨bytes, time, mode, hitem⟩ := id hfile
  exact ⟨h.form, hc.spot_found ht h.spot (by simp [hitem]), hfile⟩

/-- The directory of a section is there. -/
def Prepared (settings : Settings) (t : FileTree) (s : Section) : Prop :=
  ∀ dir, Path.parent? (settings.target s) = some dir →
    t.hasDir dir = true ∨ dir = [] ∧ settings.createDirectories = true

theorem Prepared.changesOnly (h : settings.Prepared t s) (ht : t.Sound)
    (hc : FileTree.ChangesOnly P t t') : settings.Prepared t' s :=
  fun dir hdir => (h dir hdir).imp_left (hc.hasDir ht)

theorem prepared_of_prepared? (ht : t.Sound) (h : settings.prepared? t s = some t') :
    settings.Prepared t' s := by
  intro dir hparent
  unfold prepared? at h
  rw [hparent] at h
  dsimp only at h
  split at h
  case isTrue hdir =>
    cases h
    exact .inl hdir
  case isFalse =>
    split at h
    case isTrue hcreate =>
      by_cases hne : dir = []
      · exact .inr ⟨hne, hcreate⟩
      · exact .inl (FileTree.hasDir_of_makeAllDirs ht (toOption_eq_some_iff.mp h) hne)
    case isFalse => cases h

/-- Nothing more is made for a section whose directory is there. -/
theorem Prepared.prepared?_eq (h : settings.Prepared t s) : settings.prepared? t s = some t := by
  unfold prepared?
  split
  case h_1 dir hparent =>
    obtain hdir | ⟨rfl, hcreate⟩ := h dir hparent
    · rw [if_pos hdir]
    · rw [if_pos hcreate]
      split
      · rfl
      · rfl
  case h_2 => rfl

theorem written?_spec (ht : settings.OutputAt out t) (hs : s.Contained)
    (h : settings.written? now t s = some t') :
    FileTree.ChangesOnly (· = s.place out) t t' ∧ settings.Saved out t' s ∧
      t'.HasBytes (s.place out) (settings.bytesOf s) := by
  have hstored : t.stored? now (settings.target s) (settings.bytesOf s) = some t' := h
  obtain ⟨spot, hspot, hfound, -, hitem⟩ := FileTree.item?_of_stored? ht.sound hstored
  have hplace := ht.place_of_spot hs hspot
  have hc := FileTree.changesOnly_of_stored? ht.sound hstored hspot
  rw [hplace] at hfound hitem hc
  have hbytes : t'.HasBytes (s.place out) (settings.bytesOf s) :=
    ⟨now, _, by rw [hitem, if_pos rfl]⟩
  exact ⟨hc, ⟨FileTree.form_of_stored? ht.sound hstored, hfound, _, hbytes⟩, hbytes⟩

/-- Sections that were written in order.  Where several have one place, the last one is
what the file there holds. -/
def OnDisk (settings : Settings) (out : Place) (t : FileTree) : List Section → Prop
  | [] => True
  | s :: rest => (settings.Prepared t s ∧ settings.Saved out t s) ∧
      ((∀ r ∈ rest, r.place out ≠ s.place out) →
        t.HasBytes (s.place out) (settings.bytesOf s)) ∧
      OnDisk settings out t rest

/-- Whether a place is that of a section. -/
def IsTarget (out : Place) (sections : List Section) (q : Place) : Prop :=
  ∃ s ∈ sections, q = s.place out

theorem isTarget_cons {r : Section} {q : Place} :
    IsTarget out (r :: sections) q ↔ q = r.place out ∨ IsTarget out sections q := by
  simp [IsTarget]

theorem OnDisk.saved (h : settings.OnDisk out t sections) (hs : s ∈ sections) :
    settings.Saved out t s := by
  induction sections with
  | nil => simp at hs
  | cons r rest ih =>
      obtain ⟨⟨-, hsaved⟩, -, hrest⟩ := h
      obtain rfl | hs := List.mem_cons.mp hs
      · exact hsaved
      · exact ih hrest hs

/-- Sections stay on disk as long as no file of theirs is changed. -/
theorem OnDisk.changesOnly (h : settings.OnDisk out t sections) (ht : t.Sound)
    (hc : FileTree.ChangesOnly P t t') (hP : ∀ q, IsTarget out sections q → ¬ P q) :
    settings.OnDisk out t' sections := by
  induction sections with
  | nil => trivial
  | cons s rest ih =>
      obtain ⟨⟨hprepared, hsaved⟩, hlast, hrest⟩ := h
      have hfree : ¬ P (s.place out) := hP _ (isTarget_cons.mpr (.inl rfl))
      obtain ⟨bytes, hbytes⟩ := hsaved.file
      have hbytes' := (hc.hasBytes_iff hfree).mpr hbytes
      exact ⟨⟨hprepared.changesOnly ht hc, hsaved.changesOnly ht hc ⟨bytes, hbytes'⟩⟩,
        fun hne => (hc.hasBytes_iff hfree).mpr (hlast hne),
        ih hrest fun q hq => hP q (isTarget_cons.mpr (.inr hq))⟩

theorem prepare_spec (ht : t.Sound) (h : sections.foldlM settings.prepared? t = some t') :
    FileTree.ChangesOnly P t t' ∧ ∀ s ∈ sections, settings.Prepared t' s := by
  induction sections generalizing t with
  | nil =>
      cases h
      exact ⟨.refl ht, by simp⟩
  | cons s rest ih =>
      rw [List.foldlM_cons] at h
      obtain ⟨t₁, hfirst, h⟩ := Option.bind_eq_some_iff.mp h
      have hc : FileTree.ChangesOnly P t t₁ := changesOnly_of_prepared? ht hfirst
      obtain ⟨hc', hrest⟩ := ih hc.sound h
      refine ⟨hc.trans hc', fun r hr => ?_⟩
      obtain rfl | hr := List.mem_cons.mp hr
      · exact (prepared_of_prepared? ht hfirst).changesOnly hc.sound hc'
      · exact hrest r hr

theorem write_spec (ht : settings.OutputAt out t) (hcontained : ∀ s ∈ sections, s.Contained)
    (hprepared : ∀ s ∈ sections, settings.Prepared t s)
    (h : sections.foldlM (settings.written? now) t = some t') :
    FileTree.ChangesOnly (IsTarget out sections) t t' ∧ settings.OnDisk out t' sections := by
  induction sections generalizing t with
  | nil =>
      cases h
      exact ⟨.refl ht.sound, trivial⟩
  | cons s rest ih =>
      rw [List.foldlM_cons] at h
      obtain ⟨t₁, hfirst, h⟩ := Option.bind_eq_some_iff.mp h
      obtain ⟨hc, hsaved, hbytes⟩ := written?_spec ht (hcontained s List.mem_cons_self) hfirst
      have ht₁ := ht.changesOnly hc
      obtain ⟨hc', hrest⟩ := ih ht₁ (fun r hr => hcontained r (List.mem_cons_of_mem _ hr))
        (fun r hr => (hprepared r (List.mem_cons_of_mem _ hr)).changesOnly ht.sound hc) h
      refine ⟨(hc.mono ?_).trans (hc'.mono ?_), ⟨?_, ?_⟩, ?_, hrest⟩
      · exact fun q hq => isTarget_cons.mpr (.inl hq)
      · exact fun q hq => isTarget_cons.mpr (.inr hq)
      · exact ((hprepared s List.mem_cons_self).changesOnly ht.sound hc).changesOnly ht₁.sound hc'
      · refine hsaved.changesOnly ht₁.sound hc' ?_
        by_cases hagain : IsTarget out rest (s.place out)
        · obtain ⟨r, hr, hplace⟩ := hagain
          exact hplace ▸ (hrest.saved hr).file
        · exact ⟨_, (hc'.hasBytes_iff hagain).mpr hbytes⟩
      · intro hne
        refine (hc'.hasBytes_iff ?_).mpr hbytes
        rintro ⟨r, hr, hplace⟩
        exact hne r hr hplace.symm

/-- Writing sections changes their files only, and puts them on disk. -/
theorem saved?_spec (ht : settings.OutputAt out t) (hcontained : ∀ s ∈ sections, s.Contained)
    (h : settings.saved? now sections t = some t') :
    FileTree.ChangesOnly (IsTarget out sections) t t' ∧ settings.OnDisk out t' sections := by
  obtain ⟨t₁, hprepare, hwrite⟩ := Option.bind_eq_some_iff.mp h
  obtain ⟨hc, hprepared⟩ := prepare_spec (P := IsTarget out sections) ht.sound hprepare
  obtain ⟨hc', hdisk⟩ := write_spec (ht.changesOnly hc) hcontained hprepared hwrite
  exact ⟨hc.trans hc', hdisk⟩

end Settings

end TemplateTree
