import TemplateTree.Proofs.Output.Saving
import TemplateTree.Proofs.Settings.Sketch
import TemplateTree.Proofs.Text.Encoding

/-!
# The line endings of what is written

A file is stored with the line endings of one style.  One pass makes a line feed of each
carriage return and line feed; a carriage return before them stays, and is before a line
feed then.
-/

namespace TemplateTree

namespace Newline

variable {style : Newline} {t before after : Text}

/-- A text whose line endings are all of one style. -/
def Uniform : Newline → Text → Prop
  | lf, t => ¬ ['\r', '\n'] <:+: t
  | crlf, t => ∀ before after, t = before ++ '\n' :: after → before.getLast? = some '\r'

/-- A text that one pass brings to a style: no line feed comes after two carriage returns, if
single line feeds are wanted. -/
def Handles : Newline → Text → Prop
  | lf, t => ¬ ['\r', '\r', '\n'] <:+: t
  | crlf, _ => True

/-! ## Carriage returns taken away -/

theorem toLf_cons {c : Char} (h : c = '\r' → t.head? ≠ some '\n') :
    toLf (c :: t) = c :: toLf t := by
  apply toLf.eq_3
  rintro r rfl rfl
  exact h rfl rfl

theorem not_startsWith_feed {c : Char} (h : ∀ r, c = '\r' → t = '\n' :: r → False) (hc : c = '\r') :
    ¬ ['\n'] <+: t := by
  rintro ⟨r, rfl⟩
  exact h r hc rfl

theorem feed_prefix_toLf_iff :
    ['\n'] <+: toLf t ↔ ['\n'] <+: t ∨ ['\r', '\n'] <+: t := by
  fun_cases toLf t with
  | case1 => simp
  | case2 r => simp
  | case3 c r hother =>
      have hnot : c = '\r' → ['\n'] <+: r → c = '\n' :=
        fun hc hfeed => absurd hfeed (not_startsWith_feed hother hc)
      simpa [List.cons_prefix_cons, eq_comm] using hnot

/-- What is left of two carriage returns is one. -/
theorem isInfix_toLf_iff : ['\r', '\n'] <:+: toLf t ↔ ['\r', '\r', '\n'] <:+: t := by
  fun_induction toLf t with
  | case1 => simp
  | case2 r ih => simp [List.infix_cons_iff, ih]
  | case3 c r hother ih =>
      have hfirst : ['\r', '\n'] <+: c :: toLf r ↔ ['\r', '\r', '\n'] <+: c :: r := by
        rw [List.cons_prefix_cons, List.cons_prefix_cons, feed_prefix_toLf_iff]
        constructor
        · rintro ⟨rfl, hfeed | hreturn⟩
          · exact absurd hfeed (not_startsWith_feed hother rfl)
          · exact ⟨rfl, hreturn⟩
        · exact fun ⟨hc, hreturn⟩ => ⟨hc, .inr hreturn⟩
      rw [List.infix_cons_iff, List.infix_cons_iff, hfirst, ih]

theorem toLf_eq_self_iff : toLf t = t ↔ ¬ ['\r', '\n'] <:+: t := by
  fun_induction toLf t with
  | case1 => simp
  | case2 r => simp [List.infix_cons_iff]
  | case3 c r hother ih =>
      have hfirst : ¬ ['\r', '\n'] <+: c :: r := by
        rintro ⟨rest, hrest⟩
        obtain ⟨rfl, rfl⟩ := List.cons.inj hrest
        exact hother rest rfl rfl
      rw [List.infix_cons_iff, List.cons_inj_right, ih]
      simp [hfirst]

/-! ## Carriage returns put in -/

theorem head?_addReturns (t : Text) : (addReturns t).head? ≠ some '\n' := by
  fun_cases addReturns t with
  | case1 => simp
  | case2 r => simp
  | case3 c r hc => simpa using hc

theorem toLf_addReturns (t : Text) : toLf (addReturns t) = t := by
  fun_induction addReturns t with
  | case1 => rfl
  | case2 r ih => rw [toLf, ih]
  | case3 c r hc ih => rw [toLf_cons fun _ => head?_addReturns r, ih]

theorem getLast?_of_addReturns (h : addReturns t = before ++ '\n' :: after) :
    before.getLast? = some '\r' := by
  fun_induction addReturns t generalizing before with
  | case1 => simp at h
  | case2 r ih =>
      rcases before with - | ⟨a, - | ⟨b, rest⟩⟩
      · simp at h
      · obtain rfl : '\r' = a := by simpa using (List.cons.inj h).1
        rfl
      · -- the line feed is a later one
        obtain ⟨-, h⟩ := List.cons.inj h
        obtain ⟨-, h⟩ := List.cons.inj h
        exact List.mem_getLast?_cons (List.mem_getLast?_cons (ih h))
  | case3 c r hc ih =>
      rcases before with - | ⟨a, rest⟩
      · exact absurd (List.cons.inj h).1 hc
      · exact List.mem_getLast?_cons (ih (List.cons.inj h).2)

/-! ## Both styles -/

theorem uniform_apply_iff : style.Uniform (style.apply t) ↔ style.Handles t := by
  cases style with
  | lf => exact not_congr isInfix_toLf_iff
  | crlf => exact iff_of_true (fun _ _ => getLast?_of_addReturns) trivial

theorem apply_apply_eq_iff :
    style.apply (style.apply t) = style.apply t ↔ style.Handles t := by
  cases style with
  | lf => exact toLf_eq_self_iff.trans (not_congr isInfix_toLf_iff)
  | crlf => exact iff_of_true (congrArg addReturns (toLf_addReturns _)) trivial

end Newline

namespace FileTree

variable {t t' : FileTree} {now : Instant} {path : Path} {text : Text}

theorem readText_of_stored? (ht : t.Sound)
    (h : t.stored? now path (Text.toBytes text) = some t') : t'.readText path = .ok text := by
  obtain ⟨spot, -, hfound, -, hitem⟩ := item?_of_stored? ht h
  have hread := readBytes_of_item? hfound (by rw [hitem, if_pos rfl])
  rw [readText_of_readBytes hread, Text.ofBytes?_toBytes]

end FileTree

namespace Job

open FileTree

variable {path : Path} {body : Text} {default : Newline} {s s' : Session}

theorem readText_of_writeFile (hs : s.files.Sound)
    (hrun : writeFile path body default s = .ok () s') :
    s'.files.readText path = .ok ((default.forPath path).apply body) :=
  readText_of_stored? hs ((does_writeFile path body default).of_ok hrun).1

theorem sound_of_writeFile (hs : s.files.Sound)
    (hrun : writeFile path body default s = .ok () s') : s'.files.Sound := by
  have hstored := ((does_writeFile path body default).of_ok hrun).1
  obtain ⟨spot, hspot, -⟩ := item?_of_stored? hs hstored
  exact (changesOnly_of_stored? hs hstored hspot).sound

/-- A file that was written can be written once more, with any text. -/
theorem exists_writeFile_again (hs : s.files.Sound)
    (hrun : writeFile path body default s = .ok () s') (text : Text) :
    ∃ s'', writeFile path text default s' = .ok () s'' := by
  have hstored := ((does_writeFile path body default).of_ok hrun).1
  obtain ⟨spot, -, hfound, -, hitem⟩ := item?_of_stored? hs hstored
  obtain ⟨t, ht⟩ : ∃ t, s'.files.stored? s'.now path
      (Text.toBytes ((default.forPath path).apply text)) = some t :=
    exists_stored? (sound_of_writeFile hs hrun) (form_of_stored? hs hstored) hfound
      (by rw [hitem, if_pos rfl])
  obtain ⟨_, s'', hagain, -⟩ := (does_writeFile path text default).exists_of_some ht
  exact ⟨s'', hagain⟩

/-- What is stored has the style of its path all through, and stays what it is when it is
written back, just if the style handles the body. -/
theorem style_of_writeFile (hs : s.files.Sound)
    (hrun : writeFile path body default s = .ok () s') :
    (∀ (style : Newline) (t : Text),
      style.apply (style.apply t) = style.apply t ↔ style.Handles t) ∧
    ∃ stored, s'.files.readText path = .ok stored ∧
      ((default.forPath path).Uniform stored ↔ (default.forPath path).Handles body) ∧
      ∃ s'', writeFile path stored default s' = .ok () s'' ∧
        (s''.files.readText path = .ok stored ↔ (default.forPath path).Handles body) := by
  refine ⟨fun _ _ => Newline.apply_apply_eq_iff, _, readText_of_writeFile hs hrun,
    Newline.uniform_apply_iff, ?_⟩
  obtain ⟨s'', hagain⟩ := exists_writeFile_again hs hrun ((default.forPath path).apply body)
  refine ⟨s'', hagain, ?_⟩
  rw [readText_of_writeFile (sound_of_writeFile hs hrun) hagain, Except.ok.injEq]
  exact Newline.apply_apply_eq_iff

/-- A script whose lines end in two carriage returns and a line feed keeps one of them. -/
theorem style_of_writeFile_script : ∃ s' stored,
    writeFile "/run.sh".toList ['a', '\r', '\r', '\n'] .crlf (Sketch.start Sketch.blank) =
        .ok () s' ∧
      s'.files.readText "/run.sh".toList = .ok stored ∧ ['\r', '\n'] <:+: stored := by
  have hs : (Sketch.start Sketch.blank).files.Sound := Sketch.sound_blank
  have hstored : ((Sketch.start Sketch.blank).files.stored? (Sketch.start Sketch.blank).now
      "/run.sh".toList (Text.toBytes ((Newline.forPath .crlf "/run.sh".toList).apply
        ['a', '\r', '\r', '\n']))).isSome = true := by decide +kernel
  obtain ⟨t, ht⟩ := Option.isSome_iff_exists.mp hstored
  obtain ⟨_, s', hrun, -⟩ :=
    (does_writeFile "/run.sh".toList ['a', '\r', '\r', '\n'] .crlf).exists_of_some ht
  obtain ⟨-, stored, hread, huniform, -⟩ := style_of_writeFile hs hrun
  refine ⟨s', stored, hrun, hread, ?_⟩
  have hstyle : Newline.forPath .crlf "/run.sh".toList = .lf := by decide
  rw [hstyle] at huniform
  have hhandles : ¬ Newline.Handles .lf ['a', '\r', '\r', '\n'] := by
    rw [Newline.Handles]
    decide
  exact not_not.mp (mt huniform.mp hhandles)

end Job

end TemplateTree
