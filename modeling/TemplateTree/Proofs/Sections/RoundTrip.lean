import TemplateTree.Proofs.Sections.Grammar
import Mathlib.Data.List.ReduceOption

/-!
# Reading sections back

Sections are written out with blank sections among them, and the text is split
again.  No marker holds a newline, so that an occurrence of one stays within a
line, and the marker after a section is found at its place unless another
occurrence begins on the unfinished last line of the section's body.
-/

namespace TemplateTree

open Text

namespace Section

variable {m : Markers} {items : List (Option Section)} {s : Section}

/-- The text between the new-file marker of a section, or of a blank one, and the
next. -/
def fragmentOf (m : Markers) : Option Section → Text
  | none => ['\n']
  | some s => s.destination ++ '\n' :: (m.content ++ '\n' :: s.body)

/-- The text that sections and blank sections are written as. -/
def written (m : Markers) (items : List (Option Section)) : Text :=
  items.flatMap fun i => m.newFile ++ fragmentOf m i

/-- A section whose destination and body are in the form that reading leaves them. -/
structure Writable (m : Markers) (s : Section) : Prop where
  destination_ne_nil : s.destination ≠ []
  trim_destination : trim s.destination = s.destination
  destination_line : '\n' ∉ s.destination
  destination_slash : '\\' ∉ s.destination
  destination_below : s.destination.StaysBelow
  newFile_destination : ¬ m.newFile <:+: s.destination
  content_destination : ¬ m.content <:+: s.destination
  trimStart_body : trimStart s.body = s.body
  newFile_body : ¬ m.newFile <:+: s.body
  content_body : ¬ m.content <:+: s.body

/-- A section with another one, or a blank one, after it. -/
def Followed (items : List (Option Section)) (s : Section) : Prop :=
  ∃ before after, items = before ++ some s :: after ∧ after ≠ []

/-- A body without an unfinished last line. -/
def Finished (body : Text) : Prop :=
  body = [] ∨ ∃ lines, body = lines ++ ['\n']

theorem followed_cons_iff {i : Option Section} :
    Followed (i :: items) s ↔ (i = some s ∧ items ≠ []) ∨ Followed items s := by
  constructor
  · rintro ⟨_ | ⟨j, before⟩, after, heq, hafter⟩
    · obtain ⟨rfl, rfl⟩ : i = some s ∧ items = after := by simpa using heq
      exact .inl ⟨rfl, hafter⟩
    · obtain ⟨rfl, rfl⟩ : i = j ∧ items = before ++ some s :: after := by simpa using heq
      exact .inr ⟨before, after, rfl, hafter⟩
  · rintro (⟨rfl, hitems⟩ | ⟨before, after, rfl, hafter⟩)
    · exact ⟨[], items, rfl, hitems⟩
    · exact ⟨i :: before, after, rfl, hafter⟩

theorem written_cons {i : Option Section} :
    written m (i :: items) = m.newFile ++ (fragmentOf m i ++ written m items) := by
  simp [written]

theorem withSlashes_of_not_mem {t : Text} (h : '\\' ∉ t) : withSlashes t = t := by
  induction t with
  | nil => rfl
  | cons c t ih =>
      simp only [List.mem_cons, not_or] at h
      have hrest : withSlashes t = t := ih h.2
      simp only [withSlashes, List.map_cons] at hrest ⊢
      rw [hrest, if_neg (Ne.symm h.1)]

/-! ## Where markers occur in a fragment -/

theorem Finished.firstAfter {sep body : Text} (h : Finished body) (hsep : sep ≠ [])
    (hline : '\n' ∉ sep) (hfree : ¬ sep <:+: body) : FirstAfter body sep := by
  obtain rfl | ⟨lines, rfl⟩ := h
  · exact firstAfter_nil sep
  · rw [firstAfter_append_cons_iff hsep hline]
    exact ⟨fun hin => hfree (hin.trans (List.prefix_append _ _).isInfix), firstAfter_nil sep⟩

section

variable (hm : m.validate = .ok ()) (hnew : '\n' ∉ m.newFile) (hcontent : '\n' ∉ m.content)
include hm

theorem newFile_not_infix_content : ¬ m.newFile <:+: m.content := by
  intro hin
  have hincludes := includes_iff.mpr hin
  simp only [Markers.validate, hincludes, Bool.or_true, if_true] at hm
  split at hm <;> cases hm

include hnew

theorem newFile_not_infix_fragmentOf {i : Option Section} (hi : ∀ s, i = some s → Writable m s) :
    ¬ m.newFile <:+: fragmentOf m i := by
  have hne := (Markers.ne_nil_of_validate hm).1
  cases i with
  | none =>
      rw [fragmentOf, ← List.nil_append ['\n'], infix_append_cons_iff hne hnew]
      simp [hne]
  | some s =>
      rw [fragmentOf, infix_append_cons_iff hne hnew, infix_append_cons_iff hne hnew, not_or,
        not_or]
      exact ⟨(hi s rfl).newFile_destination, newFile_not_infix_content hm, (hi s rfl).newFile_body⟩

theorem firstAfter_fragmentOf_iff (hs : Writable m s) {body : Text} :
    FirstAfter (fragmentOf m (some ⟨s.destination, body⟩)) m.newFile ↔
      FirstAfter body m.newFile := by
  have hne := (Markers.ne_nil_of_validate hm).1
  rw [fragmentOf, firstAfter_append_cons_iff hne hnew, firstAfter_append_cons_iff hne hnew]
  simp [hs.newFile_destination, newFile_not_infix_content hm]

theorem firstAfter_fragmentOf_none : FirstAfter (fragmentOf m none) m.newFile := by
  have hne := (Markers.ne_nil_of_validate hm).1
  rw [fragmentOf, ← List.nil_append ['\n'], firstAfter_append_cons_iff hne hnew]
  exact ⟨by simp [hne], firstAfter_nil _⟩

omit hnew
include hcontent

/-- A fragment that keeps the head of a section spells the body that is left. -/
theorem spells_fragmentOf (hs : Writable m s) {body : Text} (hbody : ¬ m.content <:+: body) :
    Spells m (fragmentOf m (some ⟨s.destination, body⟩)) ⟨s.destination, trimStart body⟩ := by
  have hne := (Markers.ne_nil_of_validate hm).2
  have hhead : FirstAfter (s.destination ++ ['\n']) m.content :=
    (firstAfter_append_cons_iff hne hcontent).mpr ⟨hs.content_destination, firstAfter_nil _⟩
  have hrest : ¬ m.content <:+: '\n' :: body := by
    rw [← List.nil_append ('\n' :: body), infix_append_cons_iff hne hcontent]
    simp [hne, hbody]
  have hnewline : isBlank ['\n'] = true := by decide
  have htrim : trim (s.destination ++ ['\n']) = s.destination := by
    rw [trim_append_of_blank hnewline, hs.trim_destination]
  have hslashes := withSlashes_of_not_mem hs.destination_slash
  refine ⟨s.destination ++ ['\n'], '\n' :: body, cuts_pair_iff.mpr ⟨?_, hhead, hrest⟩, ?_, ?_⟩
  · simp [fragmentOf]
  · rw [htrim]
    exact ⟨hs.destination_ne_nil, hs.destination_line, by rw [hslashes]; exact hs.destination_below⟩
  · rw [htrim, hslashes, ← trimStart_append_of_blank hnewline, List.singleton_append]

omit hcontent in
theorem isBlank_fragmentOf : isBlank (fragmentOf m (some s)) = false := by
  have hblank : isBlank m.content = false := by
    by_contra hblank
    rw [Bool.not_eq_false] at hblank
    simp [Markers.validate, hblank] at hm
  have happend : fragmentOf m (some s) =
      s.destination ++ ['\n'] ++ m.content ++ '\n' :: s.body := by
    simp [fragmentOf]
  rw [happend, isBlank_append, isBlank_append, hblank, Bool.and_false, Bool.false_and]

end

theorem Spells.unique {fragment : Text} {s' : Section} (hm : m.content ≠ [])
    (h : Spells m fragment s) (h' : Spells m fragment s') : s = s' := by
  have hs := (ofFragment_eq_ok_iff (i := 0) hm).mpr h
  have hs' := (ofFragment_eq_ok_iff (i := 0) hm).mpr h'
  exact Except.ok.inj (hs.symm.trans hs')

/-! ## Cutting what was written -/

/-- Every marker is found at its place. -/
theorem cuts_written (hlast : ∀ i ∈ items, ¬ m.newFile <:+: fragmentOf m i)
    (hfirst : ∀ before i after, items = before ++ i :: after → after ≠ [] →
      FirstAfter (fragmentOf m i) m.newFile) {x : Text} (hx : ¬ m.newFile <:+: x)
    (hxfirst : items ≠ [] → FirstAfter x m.newFile) :
    Cuts m.newFile (x ++ written m items) (x :: items.map (fragmentOf m)) := by
  induction items generalizing x with
  | nil => simpa [written] using Cuts.whole hx
  | cons i items ih =>
      have hrest : Cuts m.newFile (fragmentOf m i ++ written m items)
          (fragmentOf m i :: items.map (fragmentOf m)) := by
        refine ih (fun j hj => hlast j (List.mem_cons_of_mem _ hj)) ?_
          (hlast i List.mem_cons_self) (hfirst [] i items rfl)
        rintro before j after rfl hafter
        exact hfirst (i :: before) j after rfl hafter
      rw [written_cons, ← List.append_assoc]
      exact .cut (hxfirst (List.cons_ne_nil _ _)) hrest

theorem forall₂_spells_written (hm : m.validate = .ok ()) (hcontent : '\n' ∉ m.content)
    (hw : ∀ s, some s ∈ items → Writable m s) :
    List.Forall₂ (Spells m) ((items.map (fragmentOf m)).filter (!isBlank ·))
      items.reduceOption := by
  induction items with
  | nil => exact .nil
  | cons i items ih =>
      have hrest := ih fun s hs => hw s (List.mem_cons_of_mem _ hs)
      cases i with
      | none =>
          have hblank : isBlank (fragmentOf m none) = true := rfl
          simpa [hblank, List.reduceOption_cons_of_none] using hrest
      | some s =>
          have hs := hw s List.mem_cons_self
          have hspells := spells_fragmentOf hm hcontent hs hs.content_body
          rw [hs.trimStart_body] at hspells
          simpa [isBlank_fragmentOf hm, List.reduceOption_cons_of_some] using
            List.Forall₂.cons hspells hrest

theorem split_written_of_firstAfter (hm : m.validate = .ok ()) (hnew : '\n' ∉ m.newFile)
    (hcontent : '\n' ∉ m.content) (hw : ∀ s, some s ∈ items → Writable m s)
    (hfirst : ∀ s, Followed items s → FirstAfter s.body m.newFile) :
    split m (written m items) = .ok items.reduceOption := by
  obtain ⟨hnewFile, hne⟩ := Markers.ne_nil_of_validate hm
  have hcuts : Cuts m.newFile ([] ++ written m items) ([] :: items.map (fragmentOf m)) := by
    refine cuts_written ?_ ?_ (by simpa using hnewFile) fun _ => firstAfter_nil _
    · intro i hi
      exact newFile_not_infix_fragmentOf hm hnew fun s hs => hw s (hs ▸ hi)
    · rintro before (_ | s) after rfl hafter
      · exact firstAfter_fragmentOf_none hm hnew
      · exact (firstAfter_fragmentOf_iff hm hnew (hw s (by simp))).mpr
          (hfirst s ⟨before, after, rfl, hafter⟩)
  rw [← List.nil_append (written m items), split_of_cuts hnewFile hcuts]
  exact (ofFragments_eq_ok_iff hne).mpr (forall₂_spells_written hm hcontent hw)

/-! ## What reading back the same sections needs -/

theorem length_trimStart_le (t : Text) : (trimStart t).length ≤ t.length := by
  obtain ⟨w, _, ht⟩ := exists_append_trimStart t
  have hlen := congrArg List.length ht
  rw [List.length_append] at hlen
  omega

/-- A body in which the marker after it is found too early is read as a shorter one. -/
theorem firstAfter_of_spells_head (hm : m.validate = .ok ()) (hnew : '\n' ∉ m.newFile)
    (hcontent : '\n' ∉ m.content) (hs : Writable m s) {b : Text} {q : Text} {parts : List Text}
    (hcuts : Cuts m.newFile (fragmentOf m (some s) ++ m.newFile ++ b) (q :: parts))
    (hspells : isBlank q = false → Spells m q s) : FirstAfter s.body m.newFile := by
  obtain ⟨hnewFile, hne⟩ := Markers.ne_nil_of_validate hm
  obtain ⟨a, r, heq, ha⟩ := exists_firstAfter (List.suffix_append s.body m.newFile).isInfix
  have hlen := congrArg List.length heq
  simp only [List.length_append] at hlen
  have hpre : a <+: s.body := by
    rw [List.append_assoc] at heq
    exact List.prefix_of_prefix_length_le ⟨_, heq.symm⟩ (List.prefix_append _ _) (by omega)
  have hearly : fragmentOf m (some s) ++ m.newFile ++ b =
      fragmentOf m (some ⟨s.destination, a⟩) ++ m.newFile ++ (r ++ b) := by
    simp only [fragmentOf, List.append_assoc, List.cons_append] at heq ⊢
    rw [← List.append_assoc s.body, heq]
    simp only [List.append_assoc]
  rw [hearly, cuts_iff_splitBy_eq hnewFile,
    splitBy_append hnewFile ((firstAfter_fragmentOf_iff hm hnew hs).mpr ha)] at hcuts
  obtain ⟨rfl, _⟩ := List.cons.inj hcuts
  have hfree : ¬ m.content <:+: a := fun hin => hs.content_body (hin.trans hpre.isInfix)
  have hread := spells_fragmentOf hm hcontent hs hfree
  have hbody : s.body = trimStart a :=
    congrArg Section.body ((hspells (isBlank_fragmentOf hm)).unique hne hread)
  have hle := length_trimStart_le a
  rw [← hbody] at hle
  rwa [hpre.eq_of_length_le hle] at ha

theorem firstAfter_of_cuts_written (hm : m.validate = .ok ()) (hnew : '\n' ∉ m.newFile)
    (hcontent : '\n' ∉ m.content) (hw : ∀ s, some s ∈ items → Writable m s) {x : Text}
    {parts : List Text} (hcuts : Cuts m.newFile (x ++ written m items) (x :: parts))
    (hspells : List.Forall₂ (Spells m) (parts.filter (!isBlank ·)) items.reduceOption) :
    ∀ s, Followed items s → FirstAfter s.body m.newFile := by
  induction items generalizing x parts with
  | nil =>
      rintro s ⟨before, after, heq, _⟩
      simp at heq
  | cons i items ih =>
      obtain ⟨hnewFile, hne⟩ := Markers.ne_nil_of_validate hm
      rw [written_cons, ← List.append_assoc] at hcuts
      have hrest : Cuts m.newFile (fragmentOf m i ++ written m items) parts := hcuts.tail hnewFile
      cases items with
      | nil =>
          rintro s hs
          obtain ⟨_, hnil⟩ | ⟨before, after, heq, _⟩ := followed_cons_iff.mp hs
          · exact absurd rfl hnil
          · simp at heq
      | cons j items =>
          rw [written_cons, ← List.append_assoc] at hrest
          have hi : FirstAfter (fragmentOf m i) m.newFile := by
            cases i with
            | none => exact firstAfter_fragmentOf_none hm hnew
            | some s =>
                have hs := hw s List.mem_cons_self
                obtain ⟨q, qs, rfl⟩ := hrest.exists_cons
                refine (firstAfter_fragmentOf_iff hm hnew hs).mpr
                  (firstAfter_of_spells_head hm hnew hcontent hs hrest fun hq => ?_)
                rw [List.filter_cons_of_pos (by simpa using hq),
                  List.reduceOption_cons_of_some] at hspells
                exact (List.forall₂_cons.mp hspells).1
          obtain ⟨qs, rfl⟩ : ∃ qs, parts = fragmentOf m i :: qs :=
            ⟨_, ((cuts_iff_splitBy_eq hnewFile).mp hrest).symm.trans (splitBy_append hnewFile hi)⟩
          have hqs : List.Forall₂ (Spells m) (qs.filter (!isBlank ·))
              (j :: items).reduceOption := by
            cases i with
            | none => exact hspells
            | some s =>
                rw [List.filter_cons_of_pos (by simp [isBlank_fragmentOf hm]),
                  List.reduceOption_cons_of_some] at hspells
                exact (List.forall₂_cons.mp hspells).2
          rw [List.append_assoc, ← written_cons] at hrest
          intro s hs
          obtain ⟨rfl, _⟩ | hs := followed_cons_iff.mp hs
          · exact (firstAfter_fragmentOf_iff hm hnew (hw s List.mem_cons_self)).mp hi
          · exact ih (fun s hs => hw s (List.mem_cons_of_mem _ hs)) hrest hqs s hs

/-- Reading undoes writing exactly when, in every body that another section or a
blank one follows, no occurrence of the new-file marker begins that the marker after
the body completes.  None begins in a body that is empty or ends in a newline. -/
theorem split_written (hm : m.validate = .ok ()) (hnew : '\n' ∉ m.newFile)
    (hcontent : '\n' ∉ m.content) (hw : ∀ s, some s ∈ items → Writable m s) :
    (split m (written m items) = .ok items.reduceOption ↔
      ∀ s, Followed items s → FirstAfter s.body m.newFile) ∧
    ((∀ s, Followed items s → Finished s.body) →
      split m (written m items) = .ok items.reduceOption) := by
  obtain ⟨hnewFile, hne⟩ := Markers.ne_nil_of_validate hm
  refine ⟨⟨fun hsplit => ?_, split_written_of_firstAfter hm hnew hcontent hw⟩, fun hfinished => ?_⟩
  · obtain ⟨parts, hcuts⟩ := exists_cuts hnewFile (written m items)
    obtain ⟨q, qs, rfl⟩ := hcuts.exists_cons
    obtain rfl : q = [] := by
      have hsplitBy := (cuts_iff_splitBy_eq hnewFile).mp hcuts
      cases items with
      | nil =>
          have hnil : splitBy m.newFile [] = [[]] :=
            splitBy_of_not_infix hnewFile (by simpa using hnewFile)
          exact (List.cons.inj (hnil.symm.trans hsplitBy)).1.symm
      | cons i items =>
          rw [written_cons, splitBy_sep_append hnewFile] at hsplitBy
          exact (List.cons.inj hsplitBy).1.symm
    rw [split_of_cuts hnewFile hcuts] at hsplit
    rw [← List.nil_append (written m items)] at hcuts
    exact firstAfter_of_cuts_written hm hnew hcontent hw hcuts
      ((ofFragments_eq_ok_iff hne).mp hsplit)
  · refine split_written_of_firstAfter hm hnew hcontent hw fun s hs => ?_
    have hmem : some s ∈ items := by
      obtain ⟨before, after, rfl, _⟩ := hs
      simp
    exact (hfinished s hs).firstAfter hnewFile hnew (hw s hmem).newFile_body

theorem split_written_standard :
    split .standard (written .standard [none, some ⟨"a", "x\n"⟩, some ⟨"b/c", "y"⟩]) =
      .ok [⟨"a", "x\n"⟩, ⟨"b/c", "y"⟩] := by
  have hwritable : ∀ s, some s ∈ [none, some ⟨"a", "x\n"⟩, some ⟨"b/c", "y"⟩] →
      Writable .standard s := by
    intro s hs
    simp only [List.mem_cons, reduceCtorEq, Option.some.injEq, List.not_mem_nil, or_false,
      false_or] at hs
    obtain rfl | rfl := hs <;> constructor <;> decide
  refine (split_written (by rfl) (by decide) (by decide) hwritable).2 fun s hs => ?_
  rw [followed_cons_iff, followed_cons_iff, followed_cons_iff] at hs
  obtain ⟨h, _⟩ | ⟨h, _⟩ | ⟨_, h⟩ | ⟨before, after, h, _⟩ := hs
  · cases h
  · cases h
    exact .inr ⟨"x", rfl⟩
  · exact absurd rfl h
  · simp at h

/-- With a blank section after it, a last body may complete a marker too early. -/
theorem split_written_unfinished :
    (Markers.validate ⟨"##", "@@"⟩ = .ok () ∧ Writable ⟨"##", "@@"⟩ ⟨"a", "x#"⟩) ∧
    split ⟨"##", "@@"⟩ (written ⟨"##", "@@"⟩ [some ⟨"a", "x#"⟩, none]) =
      .error (.contentMarkerCount 2 "@@" 0) := by
  refine ⟨⟨by rfl, ?_⟩, by rfl⟩
  constructor <;> decide

end Section

end TemplateTree
