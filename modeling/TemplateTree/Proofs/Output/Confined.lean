import TemplateTree.Proofs.Files.Resolving
import TemplateTree.Proofs.Output.Saving
import TemplateTree.Proofs.Settings.Sketch

/-!
# Files outside the output directory

Whatever text a template renders to, the destinations that are read off it stay below the
output directory.  Rendering writes the files of the sections and makes directories on the
way to them; everything else stays, whether it ends well or not.
-/

namespace TemplateTree

/-! ## Paths below the output directory -/

namespace Path

variable {p q : Path}

theorem startsHere_append (hp : p ≠ []) (hq : q = [] ∨ q.head? = some '/' ∨ p.getLast? = some '/') :
    startsHere (p ++ q) = startsHere p := by
  obtain ⟨c, p, rfl⟩ := List.exists_cons_of_ne_nil hp
  cases p with
  | cons d p => by_cases hc : c = '.' <;> by_cases hd : d = '/' <;> simp [startsHere, hc, hd]
  | nil =>
      obtain rfl | hslash | hlast := hq
      · rfl
      · obtain ⟨d, q, rfl⟩ : ∃ d q', q = d :: q' := by
          cases q with
          | nil => cases hslash
          | cons d q => exact ⟨d, q, rfl⟩
        obtain rfl : d = '/' := by simpa using hslash
        by_cases hc : c = '.'
        · rw [hc]; rfl
        · simp [startsHere, hc]
      · obtain rfl : c = '/' := by simpa using hlast
        rfl

theorem startsHere_join (hp : p ≠ []) (hq : isAbsolute q = false) :
    startsHere (join p q) = startsHere p := by
  obtain ⟨-, hnil⟩ | ⟨⟨r, rfl⟩, hjoin⟩ | hjoin := join_eq (p := p) hq
  · exact absurd hnil hp
  · rw [hjoin]
    exact startsHere_append hp (.inr (.inr (by simp)))
  · rw [hjoin]
    exact startsHere_append hp (.inr (.inl rfl))

/-- A path starts with the path to which it is joined, component by component. -/
theorem steps_prefix_join (hp : p ≠ []) (hq : isAbsolute q = false) :
    steps p <+: steps (join p q) := by
  rw [steps_eq p, steps_eq (join p q), isAbsolute_join hp hq, startsHere_join hp hq,
    names_join hq, List.map_append, ← List.append_assoc]
  exact List.prefix_append _ _

theorem StaysBelow.isAbsolute (h : StaysBelow p) : isAbsolute p = false := by
  simpa [Path.isAbsolute] using h.1

theorem StaysBelow.up_not_mem_names (h : StaysBelow p) : ['.', '.'] ∉ names p :=
  fun hmem => h.2 (List.mem_of_mem_filter hmem)

theorem StaysBelow.up_not_mem_steps (h : StaysBelow p) : PathStep.up ∉ steps p := by
  intro hmem
  have hall := List.all_eq_true.mp (isContained_iff.mpr h) _ hmem
  cases hall

end Path

/-! ## Trees that are filled -/

namespace FileTree

/-- What can become of what is at a place: it stays, a file is written where there was a
file or nothing, or a directory is made where there was nothing. -/
inductive Becomes (written made : Prop) : Option Item → Option Item → Prop
  | same {i : Option Item} : Becomes written made i i
  | file {old : Option Item} {bytes : Bytes} {mode : Nat} {time : Instant} (h : written)
      (hold : ∀ i, old = some i → ∃ bytes mode time, i = .file bytes mode time) :
      Becomes written made old (some (.file bytes mode time))
  | dir (h : made) : Becomes written made none (some .dir)

/-- A tree that comes of another one by files at some places and directories at others. -/
structure FillsOnly (W M : Place → Prop) (t t' : FileTree) : Prop where
  current : t'.current = t.current
  becomes : ∀ q, Becomes (W q) (M q) (t.root.item? q) (t'.root.item? q)

variable {written made written' made' : Prop} {a b c : Option Item} {W M W' M' : Place → Prop}
  {t t' t'' : FileTree} {p : Path} {place q : Place} {now : Instant} {bytes : Bytes} {spot : Spot}

theorem Becomes.trans (h : Becomes written made a b) (h' : Becomes written made b c) :
    Becomes written made a c := by
  cases h' with
  | same => exact h
  | dir hmade =>
      cases h with
      | same => exact .dir hmade
  | file hwritten hold =>
      cases h with
      | same => exact .file hwritten hold
      | file _ hfirst => exact .file hwritten hfirst
      | dir =>
          obtain ⟨_, _, _, hfile⟩ := hold .dir rfl
          cases hfile

theorem Becomes.mono (h : Becomes written made a b) (hwritten : written → written')
    (hmade : made → made') : Becomes written' made' a b := by
  cases h with
  | same => exact .same
  | file h hold => exact .file (hwritten h) hold
  | dir h => exact .dir (hmade h)

theorem FillsOnly.refl (t : FileTree) : FillsOnly W M t t :=
  ⟨rfl, fun _ => .same⟩

theorem FillsOnly.trans (h : FillsOnly W M t t') (h' : FillsOnly W M t' t'') :
    FillsOnly W M t t'' :=
  ⟨h'.current.trans h.current, fun q => (h.becomes q).trans (h'.becomes q)⟩

theorem FillsOnly.mono (h : FillsOnly W M t t') (hW : ∀ q, W q → W' q) (hM : ∀ q, M q → M' q) :
    FillsOnly W' M' t t' :=
  ⟨h.current, fun q => (h.becomes q).mono (hW q) (hM q)⟩

theorem fillsOnly_of_write (ht : t.Sound) (h : t.write now p bytes = .ok t')
    (hspot : t.spot p = .ok spot) : FillsOnly (· = spot.place) M t t' := by
  obtain ⟨-, spot', mode, hspot', -, hitem⟩ := item?_of_write ht h
  obtain ⟨-, spot'', _, hspot'', -, hkind⟩ := write_eq_ok h
  obtain rfl : spot' = spot := Except.ok.inj (hspot'.symm.trans hspot)
  obtain rfl : spot'' = spot' := Except.ok.inj (hspot''.symm.trans hspot')
  refine ⟨(Touch.of_write ht h).current_eq, fun q => ?_⟩
  rw [hitem]
  split
  case isFalse => exact .same
  case isTrue heq =>
    refine .file heq fun i hi => ?_
    rw [heq] at hi
    obtain ⟨hfree, -⟩ | ⟨old, time, -, hold⟩ := hkind
    · rw [hfree] at hspot
      have hnone := (ht.open_of_free hspot fun s hs => mem_wayOf hs).2
      rw [hnone] at hi
      cases hi
    · rw [hold] at hi
      exact ⟨_, _, _, (Option.some.inj hi).symm⟩

theorem fillsOnly_of_markExecutable (ht : t.Sound) (h : t.markExecutable p = .ok t')
    (hplace : t.place p = .ok q) : FillsOnly (· = q) M t t' := by
  obtain ⟨place, hplace', rfl | ⟨old, mode, time, hold, rfl⟩⟩ := markExecutable_eq_ok h
  · exact .refl _
  · obtain rfl : place = q := Except.ok.inj (hplace'.symm.trans hplace)
    have hopen := ht.open_of_item? hold (by simp)
    refine ⟨rfl, fun r => ?_⟩
    rw [item?_putAt_file hopen (by simp [hold])]
    split
    case isFalse => exact .same
    case isTrue heq =>
      refine .file heq fun i hi => ?_
      rw [heq, hold] at hi
      exact ⟨_, _, _, (Option.some.inj hi).symm⟩

theorem fillsOnly_of_makeDir (ht : t.Sound) (hslot : t.slotFor p = .ok place) :
    FillsOnly W (· = place) t (t.putAt place (.dir [])) := by
  obtain ⟨-, hnone⟩ := ht.open_of_slotFor hslot
  refine ⟨rfl, fun q => ?_⟩
  rw [item?_putAt_dir ht hslot]
  split
  case isFalse => exact .same
  case isTrue heq =>
    rw [heq, hnone]
    exact .dir rfl

end FileTree

open FileTree Session Job

/-! ## The places of sections -/

namespace Settings

/-- A place of a directory below the output directory, on the way to the file of a section. -/
def IsAbove (out : Place) (sections : List Section) (q : Place) : Prop :=
  ∃ r ∈ sections, ∃ names, names ≠ [] ∧ names <+: (Path.names r.destination).dropLast ∧
    q = out ++ names

variable {settings : Settings} {out : Place} {t : FileTree} {r : Section} {dir : Path}
  {sections : List Section}

theorem OutputAt.outputDir_ne_nil (h : settings.OutputAt out t) : settings.outputDir ≠ [] :=
  ne_nil_of_checkPath (spotOf_eq_ok_iff.mp (place_eq_ok_iff.mp h.place)).1

/-- Making the directory of a section makes directories below the output directory only. -/
theorem OutputAt.fillsOnly_makeAllDirs (h : settings.OutputAt out t) (hr : r.Contained)
    (hdir : Path.parent? (settings.target r) = some dir) :
    FillsOnly (fun _ => False) (IsAbove out [r]) t (ending (t.makeAllDirs dir)) := by
  have hrelative := hr.2.isAbsolute
  let R (t t' : FileTree) : Prop := settings.OutputAt out t →
    settings.OutputAt out t' ∧ FillsOnly (fun _ => False) (IsAbove out [r]) t t'
  -- the paths at which directories are made, up to the output directory and above it
  let Q (p : Path) : Prop := Path.isAbsolute p = Path.isAbsolute settings.outputDir ∧
    Path.names p <+: Path.names settings.outputDir ++ (Path.names r.destination).dropLast
  have hfirst : Q dir := by
    obtain ⟨hnames, habsolute⟩ := Path.names_of_parent? hdir
    rw [target, Path.names_join hrelative] at hnames
    rw [target, Path.isAbsolute_join h.outputDir_ne_nil hrelative] at habsolute
    refine ⟨habsolute, hnames ▸ ?_⟩
    by_cases hnil : Path.names r.destination = []
    · simpa [hnil] using List.dropLast_prefix _
    · exact (List.dropLast_append_of_ne_nil hnil).symm ▸ List.prefix_rfl
  have hparent : ∀ p above, Q p → Path.parent? p = some above → Q above := by
    rintro p above ⟨habsolute, hnames⟩ habove
    obtain ⟨hnames', habsolute'⟩ := Path.names_of_parent? habove
    exact ⟨habsolute'.trans habsolute, hnames' ▸ (List.dropLast_prefix _).trans hnames⟩
  have hmake : ∀ t p t', t.Sound → Q p → t.makeDir p = .ok t' → R t t' := by
    rintro t p t' ht ⟨habsolute, hnames⟩ hmade h
    obtain ⟨place, hslot, rfl⟩ := makeDir_eq_ok hmade
    have hup : ['.', '.'] ∉ (Path.names r.destination).dropLast := fun hmem =>
      hr.2.up_not_mem_names (List.dropLast_subset _ hmem)
    obtain ⟨names, hne, hpre, rfl⟩ :=
      exists_of_slotFor h.place h.dir h.links hup habsolute hnames hslot
    have hc : ChangesOnly (fun _ => False) t _ := changesOnly_of_makeDir ht hmade
    refine ⟨h.changesOnly hc, (fillsOnly_of_makeDir ht hslot).mono (fun _ => id) ?_⟩
    rintro q rfl
    exact ⟨r, List.mem_singleton_self r, names, hne, hpre, rfl⟩
  have hrel : R t (ending (t.makeAllDirs dir)) ∧ _ := rel_of_makeDirs (Q := Q)
    (fun t h => ⟨h, .refl t⟩)
    (fun _ _ _ hone htwo h => ⟨(htwo (hone h).1).1, (hone h).2.trans (htwo (hone h).1).2⟩)
    hparent sound_of_makeDir hmake h.sound hfirst
  exact (hrel.1 h).2

end Settings

/-! ## Rendering -/

/-- Files are written and directories are made at certain places below the output
directory. -/
def Session.Filled (settings : Settings) (out : Place) (W M : Place → Prop)
    (s s' : Session) : Prop :=
  settings.OutputAt out s.files → settings.OutputAt out s'.files ∧ FillsOnly W M s.files s'.files

section

variable {settings : Settings} {out : Place} {W M W' M' : Place → Prop} {s s' : Session}

theorem Session.Filled.refl (s : Session) : Filled settings out W M s s :=
  fun hs => ⟨hs, .refl _⟩

theorem Session.Filled.trans (s₁ s₂ s₃ : Session) (h : Filled settings out W M s₁ s₂)
    (h' : Filled settings out W M s₂ s₃) : Filled settings out W M s₁ s₃ := by
  intro hs
  obtain ⟨hs₂, hfirst⟩ := h hs
  obtain ⟨hs₃, hrest⟩ := h' hs₂
  exact ⟨hs₃, hfirst.trans hrest⟩

theorem Session.Filled.mono (h : Filled settings out W M s s') (hW : ∀ q, W q → W' q)
    (hM : ∀ q, M q → M' q) : Filled settings out W' M' s s' :=
  fun hs => ⟨(h hs).1, (h hs).2.mono hW hM⟩

theorem Session.Filled.turned (s : Session) : Filled settings out W M s s.turned :=
  fun hs => ⟨hs, .refl _⟩

theorem Session.Unchanged.filled (h : Unchanged s s') : Filled settings out W M s s' := by
  intro hs
  rw [h.1]
  exact ⟨hs, .refl _⟩

end

namespace Job

variable {settings : Settings} {out : Place} {W M : Place → Prop} {r : Section}
  {sections : List Section} {dir : Path} {α : Type} {x : Job α}

theorem filled_of_unchanged (h : Within Unchanged x) : Within (Filled settings out W M) x :=
  fun s => (h s).filled

theorem filled_prepareDirectory (create : Bool) (hr : r.Contained)
    (hdir : Path.parent? (settings.target r) = some dir) :
    Within (Filled settings out W (Settings.IsAbove out [r])) (prepareDirectory dir create) := by
  apply within_prepareDirectory Filled.refl Filled.trans
  · intro s hs
    have hc : ChangesOnly (fun _ => False) s.files (ending (s.files.makeAllDirs dir)) :=
      changesOnly_makeAllDirs hs.sound
    exact ⟨hs.changesOnly hc,
      (hs.fillsOnly_makeAllDirs hr hdir).mono (fun _ => False.elim) fun _ => id⟩
  · exact filled_of_unchanged (unchanged_directoryCreated dir)

theorem filled_writeSection (hr : r.Contained) :
    Within (Filled settings out (· = r.place out) M) (writeSection settings r) := by
  apply within_writeSection Filled.refl Filled.trans
  · intro s bytes files hwrite hs
    obtain ⟨-, spot, _, hspot, -⟩ := item?_of_write hs.sound hwrite
    have hfill : FillsOnly (· = spot.place) M s.files files :=
      fillsOnly_of_write hs.sound hwrite hspot
    rw [hs.place_of_spot hr hspot] at hfill
    exact ⟨hs.changesOnly (changesOnly_of_write hs.sound hwrite hspot), hfill⟩
  · intro s files hmark hs
    have hc : ChangesOnly (fun _ => False) s.files files :=
      changesOnly_of_markExecutable hs.sound hmark
    obtain ⟨q, hplace, -⟩ := markExecutable_eq_ok hmark
    have hfill : FillsOnly (· = q) M s.files files :=
      fillsOnly_of_markExecutable hs.sound hmark hplace
    obtain rfl : q = r.place out := hs.place_of_spot hr (place_eq_ok_iff.mp hplace)
    exact ⟨hs.changesOnly hc, hfill⟩
  · exact filled_of_unchanged (unchanged_fileSaved _)

theorem filled_writeSections (h : ∀ r ∈ sections, r.Contained) :
    Within (Filled settings out (Settings.IsTarget out sections) (Settings.IsAbove out sections))
      (writeSections settings sections) := by
  apply within_writeSections Filled.refl Filled.trans
  · apply within_prepareParents Filled.refl Filled.trans
    intro target htarget dir hdir s
    obtain ⟨r, hr, rfl⟩ := List.mem_map.mp htarget
    apply (filled_prepareDirectory settings.createDirectories (h r hr) hdir s).mono fun _ => id
    rintro q ⟨r', hr', hq⟩
    obtain rfl := List.mem_singleton.mp hr'
    exact ⟨r', hr, hq⟩
  · exact fun r hr s =>
      (filled_writeSection (h r hr) s).mono (fun q hq => ⟨r, hr, hq⟩) fun _ => id

end Job

namespace Environment

variable {env : Environment} {settings : Settings} {name : Text} {overrides : Option Namespace}
  {out : Place} {s : Session}

/-- A place of a directory on the way to a file that a template describes. -/
def Above (env : Environment) (settings : Settings) (overrides : Option Namespace)
    (o : Template.Outlook) (out : Place) (name : Text) (q : Place) : Prop :=
  ∃ sections, env.sections? settings overrides o name = some sections ∧
    Settings.IsAbove out sections q

theorem filled_renderTemplate (env : Environment) (settings : Settings) (name : Text)
    (overrides : Option Namespace) (out : Place) (s : Session) :
    Filled settings out (env.Targets settings overrides s.outlook out name)
      (env.Above settings overrides s.outlook out name) s
      ((env.renderTemplate settings name overrides).after s) := by
  apply rel_renderTemplate Filled.refl Filled.trans
    (filled_of_unchanged (unchanged_count _)) Filled.turned
  intro text sections hrender hsections s
  have hsome := sections?_eq_some_iff.mpr ⟨text, hrender, hsections⟩
  have hfilled : Within (Filled settings out (Settings.IsTarget out sections)
      (Settings.IsAbove out sections)) _ := filled_writeSections (contained_of_sections? hsome)
  exact (hfilled s).mono (fun q hq => ⟨sections, hsome, hq⟩) fun q hq => ⟨sections, hsome, hq⟩

end Environment

/-! ## What is outside -/

namespace FileTree

variable {out q : Place} {W M : Place → Prop} {t t' : FileTree}

/-- A place inside a directory. -/
def IsInside (out q : Place) : Prop :=
  ∃ names, names ≠ [] ∧ q = out ++ names

/-- Nothing is created, changed or removed but inside a directory. -/
def ConfinedTo (out : Place) (t t' : FileTree) : Prop :=
  t'.current = t.current ∧ ∀ q, ¬ IsInside out q → t'.root.item? q = t.root.item? q

theorem FillsOnly.confinedTo (h : FillsOnly W M t t') (hout : t.root.item? out = some .dir)
    (hW : ∀ q, W q → ∃ names, q = out ++ names) (hM : ∀ q, M q → IsInside out q) :
    ConfinedTo out t t' := by
  refine ⟨h.current, fun q hq => ?_⟩
  have hbecomes := h.becomes q
  generalize hold : t.root.item? q = old at hbecomes
  generalize hnew : t'.root.item? q = new at hbecomes
  cases hbecomes with
  | same => rfl
  | dir hmade => exact absurd (hM q hmade) hq
  | file hwritten hfile =>
      -- the directory itself is no file
      exfalso
      obtain ⟨names, rfl⟩ := hW q hwritten
      by_cases hnames : names = []
      · rw [hnames, List.append_nil, hout] at hold
        obtain ⟨_, _, _, hdir⟩ := hfile .dir hold.symm
        cases hdir
      · exact hq ⟨names, hnames, rfl⟩

end FileTree

/-- A destination below the output directory. -/
structure Section.StaysInside (settings : Settings) (r : Section) : Prop where
  slashes : '\\' ∉ r.destination
  relative : Path.isAbsolute r.destination = false
  down : PathStep.up ∉ Path.steps r.destination
  below : Path.steps settings.outputDir <+: Path.steps (settings.target r)

/-! ## A project in the root directory -/

namespace Sketch

def describing (destination body : Text) : Text :=
  "### New file: ".toList ++ destination ++ "\n### Content:\n".toList ++ body ++ ['\n']

def files (text : Text) (out : List (Text × Node)) : FileTree :=
  ⟨.dir [("out".toList, .dir out), (['t'], .dir [(['a'], file text)])], []⟩

def spilling : FileTree :=
  files (describing "x\\y".toList ['A'] ++ describing ['.'] ['B']) []

theorem sound_files {text : Text} {out : List (Text × Node)} (hout : (Node.dir out).Sound) :
    (files text out).Sound := by
  refine ⟨Node.Sound.of_names ["out".toList, ['t']] rfl (by decide) (by decide) ?_, rfl⟩
  refine List.forall_mem_cons.mpr ⟨hout, List.forall_mem_cons.mpr ⟨?_, by simp⟩⟩
  refine Node.Sound.of_names [['a']] rfl (by decide) (by decide) ?_
  exact List.forall_mem_cons.mpr ⟨.file, by simp⟩

/-- Whether the template cannot be rendered, and the failure and the files pass a check. -/
def fails (settings : Settings) (t : FileTree) (check : Failure → FileTree → Bool) : Bool :=
  match Environment.create t settings with
  | .error _ => false
  | .ok env =>
    match env.renderTemplate settings ['a'] none (start t) with
    | .error e s => check e s.files
    | .ok _ _ => false

theorem exists_of_fails {settings : Settings} {t : FileTree} {check : Failure → FileTree → Bool}
    (h : fails settings t check = true) : ∃ env e s, Environment.create t settings = .ok env ∧
      env.renderTemplate settings ['a'] none (start t) = .error e s ∧ check e s.files = true := by
  unfold fails at h
  split at h
  case h_1 => cases h
  case h_2 env henv =>
    split at h
    case h_1 e s hrun => exact ⟨env, e, s, henv, hrun, h⟩
    case h_2 => cases h

theorem outputAt_files {text : Text} {out : List (Text × Node)} {createDirectories : Bool}
    (hout : (Node.dir out).Sound)
    (hlinks : ∀ q target, (Node.dir out).item? q ≠ some (.link target)) :
    (settings createDirectories [] "/last".toList).OutputAt ["out".toList] (files text out) where
  sound := sound_files hout
  place := rfl
  dir := rfl
  links q target h := hlinks q target (by simpa [files, Node.item?_dir_cons] using h)

end Sketch

/-! ## Confinement -/

namespace Environment

variable {settings : Settings} {out : Place} {s : Session}

/-- A rendering stays inside the output directory, for any text and any markers, whatever the
machine says, and whether it ends well or not. -/
theorem rendering_stays_inside (h : settings.OutputAt out s.files) :
    (∀ m text sections, Section.split m text = .ok sections →
      (∀ r ∈ sections, r.StaysInside settings) ∧
      s.files.FillsOnly (Settings.IsTarget out sections) (Settings.IsAbove out sections)
        ((writeSections settings sections).after s).files ∧
      s.files.ConfinedTo out ((writeSections settings sections).after s).files) ∧
    ∀ (env : Environment) name overrides,
      s.files.FillsOnly (env.Targets settings overrides s.outlook out name)
        (env.Above settings overrides s.outlook out name)
        ((env.renderTemplate settings name overrides).after s).files ∧
      s.files.ConfinedTo out ((env.renderTemplate settings name overrides).after s).files := by
  have habove : ∀ sections q, Settings.IsAbove out sections q → IsInside out q := by
    rintro sections q ⟨r, -, names, hne, -, hq⟩
    exact ⟨names, hne, hq⟩
  have htarget : ∀ sections q, Settings.IsTarget out sections q → ∃ names, q = out ++ names := by
    rintro sections q ⟨r, -, hq⟩
    exact ⟨_, hq⟩
  constructor
  · intro m text sections hsplit
    have hcontained : ∀ r ∈ sections, r.Contained := fun r => Section.contained_of_split hsplit
    obtain ⟨-, hfill⟩ := filled_writeSections hcontained s h
    refine ⟨fun r hr => ?_, hfill, hfill.confinedTo h.dir (htarget _) (habove _)⟩
    have hbelow := (hcontained r hr).2
    exact ⟨Section.not_mem_backslash_of_split hsplit hr, hbelow.isAbsolute, hbelow.up_not_mem_steps,
      Path.steps_prefix_join h.outputDir_ne_nil hbelow.isAbsolute⟩
  · intro env name overrides
    obtain ⟨-, hfill⟩ := env.filled_renderTemplate settings name overrides out s h
    refine ⟨hfill, hfill.confinedTo h.dir ?_ ?_⟩
    · rintro q ⟨sections, -, hq⟩
      exact htarget sections q hq
    · rintro q ⟨sections, -, hq⟩
      exact habove sections q hq

/-- A template that describes a file in a new directory, and then the output directory
itself: the file is written, and then the rendering fails. -/
theorem rendering_stays_inside_failing : ∃ (env : Environment) (e : Failure) (s : Session),
    env.renderTemplate (Sketch.settings true [] "/last".toList) ['a'] none
      (Sketch.start Sketch.spilling) = .error e s ∧
    s.files.HasBytes ["out".toList, ['x'], ['y']] (Text.toBytes "A\n".toList) ∧
    Sketch.spilling.ConfinedTo ["out".toList] s.files := by
  have hfails : Sketch.fails (Sketch.settings true [] "/last".toList) Sketch.spilling
      (fun _ t => Sketch.holds t ["out".toList, ['x'], ['y']] (Text.toBytes "A\n".toList)) =
        true := by
    decide +kernel
  obtain ⟨env, e, s, -, hrun, hholds⟩ := Sketch.exists_of_fails hfails
  have hout : (Sketch.settings true [] "/last".toList).OutputAt ["out".toList]
      (Sketch.start Sketch.spilling).files :=
    Sketch.outputAt_files (.dir .nil (by simp) (by simp)) fun q target => by
      cases q <;> simp [Node.item, Node.item?_dir_cons]
  have hconfined := ((rendering_stays_inside hout).2 env ['a'] none).2
  rw [after_of_error hrun] at hconfined
  exact ⟨env, e, s, hrun, Sketch.hasBytes_of_holds hholds, hconfined⟩

end Environment

end TemplateTree
