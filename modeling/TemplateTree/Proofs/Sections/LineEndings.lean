import TemplateTree.Proofs.Sections.Grammar
import TemplateTree.Proofs.Output.Newlines

/-!
# Rendered text with carriage returns

A carriage return before every line feed of a rendered text changes nothing that is written:
markers are found at the same places, what is trimmed stays white space, and the bodies are
brought to one style of line endings in any case.
-/

namespace TemplateTree

open Text

namespace Newline

variable {style : Newline} {c : Char} {t sep a b : Text}

@[simp] theorem addReturns_nil : addReturns [] = [] := rfl

@[simp] theorem addReturns_feed (t : Text) :
    addReturns ('\n' :: t) = '\r' :: '\n' :: addReturns t := rfl

theorem addReturns_cons (h : c ≠ '\n') (t : Text) : addReturns (c :: t) = c :: addReturns t :=
  if_neg h

theorem addReturns_append (a b : Text) : addReturns (a ++ b) = addReturns a ++ addReturns b := by
  fun_induction addReturns a with
  | case1 => rfl
  | case2 r ih => simp [ih]
  | case3 c r hc ih => rw [List.cons_append, addReturns_cons hc, ih, List.cons_append]

theorem addReturns_of_not_mem (h : '\n' ∉ t) : addReturns t = t := by
  fun_induction addReturns t with
  | case1 => rfl
  | case2 r ih => simp at h
  | case3 c r hc ih => rw [ih fun hr => h (List.mem_cons_of_mem _ hr)]

theorem addReturns_eq_nil_iff : addReturns t = [] ↔ t = [] := by
  fun_cases addReturns t <;> simp

theorem feed_mem_addReturns_iff : '\n' ∈ addReturns t ↔ '\n' ∈ t := by
  fun_induction addReturns t with
  | case1 => simp
  | case2 r ih => simp
  | case3 c r hc ih => simp [ih]

/-- Carriage returns that are put in are not seen, whatever the style. -/
theorem apply_addReturns (h : '\r' ∉ t) : style.apply (addReturns t) = style.apply t := by
  have hfree : ¬ ['\r', '\n'] <:+: t := fun hin => h (hin.subset List.mem_cons_self)
  have hlf : toLf (addReturns t) = toLf t := by
    rw [toLf_addReturns, toLf_eq_self_iff.mpr hfree]
  cases style with
  | lf => exact hlf
  | crlf => exact congrArg addReturns hlf

/-! ## White space -/

theorem isBlank_addReturns (t : Text) : isBlank (addReturns t) = isBlank t := by
  fun_induction addReturns t with
  | case1 => rfl
  | case2 r ih =>
      have hreturn : isSpace '\r' = true := rfl
      rw [isBlank, List.all_cons, List.all_cons, hreturn, Bool.true_and]
      exact congrArg (isSpace '\n' && ·) ih
  | case3 c r hc ih => exact congrArg (isSpace c && ·) ih

theorem trimStart_addReturns (t : Text) : trimStart (addReturns t) = addReturns (trimStart t) := by
  fun_induction addReturns t with
  | case1 => rfl
  | case2 r ih =>
      rw [trimStart_cons_of_space rfl, trimStart_cons_of_space rfl, trimStart_cons_of_space rfl, ih]
  | case3 c r hc ih =>
      cases hspace : isSpace c with
      | true => rw [trimStart_cons_of_space hspace, trimStart_cons_of_space hspace, ih]
      | false =>
          rw [trimStart_cons_of_not_space hspace, trimStart_cons_of_not_space hspace,
            addReturns_cons hc]

theorem trimEnd_addReturns (t : Text) : trimEnd (addReturns t) = addReturns (trimEnd t) := by
  fun_induction addReturns t with
  | case1 => rfl
  | case2 r ih =>
      have hreturn : isSpace '\r' = true := rfl
      have hfeed : isSpace '\n' = true := rfl
      by_cases hnil : trimEnd r = []
      · simp [trimEnd_cons, ih, hnil, hreturn, hfeed]
      · simp [trimEnd_cons, ih, hnil, addReturns_eq_nil_iff]
  | case3 c r hc ih =>
      rw [trimEnd_cons, trimEnd_cons, ih]
      simp only [addReturns_eq_nil_iff]
      split
      · rfl
      · rw [addReturns_cons hc]

theorem trim_addReturns (t : Text) : trim (addReturns t) = addReturns (trim t) := by
  rw [trim, trimStart_addReturns, trimEnd_addReturns, trim]

/-! ## Separators -/

theorem prefix_addReturns_iff (hreturn : '\r' ∉ sep) (hfeed : '\n' ∉ sep) :
    sep <+: addReturns t ↔ sep <+: t := by
  induction t generalizing sep with
  | nil => rfl
  | cons c r ih =>
      cases sep with
      | nil => simp
      | cons x sep =>
          simp only [List.mem_cons, not_or] at hreturn hfeed
          by_cases hc : c = '\n'
          · subst hc
            simp [List.cons_prefix_cons, Ne.symm hreturn.1, Ne.symm hfeed.1]
          · rw [addReturns_cons hc, List.cons_prefix_cons, List.cons_prefix_cons,
              ih hreturn.2 hfeed.2]

theorem infix_addReturns_iff (hsep : sep ≠ []) (hreturn : '\r' ∉ sep) (hfeed : '\n' ∉ sep) :
    sep <:+: addReturns t ↔ sep <:+: t := by
  fun_induction addReturns t with
  | case1 => rfl
  | case2 r ih =>
      have hfirst := infix_append_cons_iff (a := []) (b := '\n' :: addReturns r) hsep hreturn
      have hsecond := infix_append_cons_iff (a := []) (b := addReturns r) hsep hfeed
      have hplain := infix_append_cons_iff (a := []) (b := r) hsep hfeed
      simp only [List.nil_append] at hfirst hsecond hplain
      rw [hfirst, hsecond, hplain, ih, or_self_left]
  | case3 c r hc ih =>
      rw [List.infix_cons_iff, List.infix_cons_iff, ih, ← addReturns_cons hc,
        prefix_addReturns_iff hreturn hfeed]

theorem firstAfter_addReturns (hsep : sep ≠ []) (hreturn : '\r' ∉ sep) (hfeed : '\n' ∉ sep)
    (h : FirstAfter a sep) : FirstAfter (addReturns a) sep := by
  fun_induction addReturns a with
  | case1 => exact h
  | case2 r ih =>
      have hfirst := firstAfter_append_cons_iff (a := []) (b := '\n' :: addReturns r) hsep hreturn
      have hsecond := firstAfter_append_cons_iff (a := []) (b := addReturns r) hsep hfeed
      simp only [List.nil_append, List.infix_nil, hsep, not_false_iff, true_and] at hfirst hsecond
      exact hfirst.mpr (hsecond.mpr (ih h.tail))
  | case3 c r hc ih =>
      obtain ⟨hpre, htail⟩ := firstAfter_cons_iff.mp h
      refine firstAfter_cons_iff.mpr ⟨fun hpre' => hpre ?_, ih htail⟩
      rw [← addReturns_cons hc, ← addReturns_of_not_mem hfeed, ← addReturns_append,
        addReturns_of_not_mem hfeed] at hpre'
      exact (prefix_addReturns_iff hreturn hfeed).mp hpre'

/-- A text is cut at the same places. -/
theorem cuts_addReturns (hsep : sep ≠ []) (hreturn : '\r' ∉ sep) (hfeed : '\n' ∉ sep)
    {parts : List Text} (h : Cuts sep t parts) :
    Cuts sep (addReturns t) (parts.map addReturns) := by
  induction h with
  | whole h => exact .whole (mt (infix_addReturns_iff hsep hreturn hfeed).mp h)
  | cut h _ ih =>
      rw [addReturns_append, addReturns_append, addReturns_of_not_mem hfeed]
      exact .cut (firstAfter_addReturns hsep hreturn hfeed h) ih

end Newline

theorem Text.Cuts.not_mem {sep t : Text} {parts : List Text} {c : Char} (h : Cuts sep t parts)
    (hc : c ∉ t) : ∀ part ∈ parts, c ∉ part := by
  induction h with
  | whole h => simpa using hc
  | cut h _ ih =>
      simp only [List.mem_append, not_or] at hc
      simp only [List.mem_cons, forall_eq_or_imp]
      exact ⟨hc.1.1, ih hc.2⟩

/-- Errors of one kind about one fragment; the text that one shows has the carriage returns put
in before the line feeds of the other. -/
inductive SectionError.Alike : SectionError → SectionError → Prop
  | leading (marker text : Text) :
      Alike (.leadingText marker (Section.excerpt text))
        (.leadingText marker (Section.excerpt (Newline.addReturns text)))
  | count (index : Nat) (marker : Text) (count : Nat) :
      Alike (.contentMarkerCount index marker count) (.contentMarkerCount index marker count)
  | missing (index : Nat) : Alike (.missingDestination index) (.missingDestination index)
  | multiline (index : Nat) (destination : Text) :
      Alike (.multilineDestination index destination)
        (.multilineDestination index (Newline.addReturns destination))
  | leaving (index : Nat) (destination : Text) :
      Alike (.unsafeDestination index destination) (.unsafeDestination index destination)

namespace Section

open Newline

variable {α β γ δ : Type} {P : α → β → Prop} {Q : γ → δ → Prop} {m : Markers} {t fragment : Text}
  {fragments : List Text} {i : Nat} {s : Section} {ss : List Section}

/-- Results that agree: related values, or errors that are alike. -/
def Agree (P : α → β → Prop) : Except SectionError α → Except SectionError β → Prop
  | .ok a, .ok b => P a b
  | .error e, .error e' => e.Alike e'
  | _, _ => False

theorem Agree.mono {P' : α → β → Prop} {r : Except SectionError α} {r' : Except SectionError β}
    (h : Agree P r r') (himp : ∀ a b, P a b → P' a b) : Agree P' r r' := by
  cases r <;> cases r' <;> first | exact h | exact himp _ _ h

theorem Agree.bind {r : Except SectionError α} {r' : Except SectionError β}
    {k : α → Except SectionError γ} {k' : β → Except SectionError δ} (h : Agree P r r')
    (hk : ∀ a b, P a b → Agree Q (k a) (k' b)) : Agree Q (r >>= k) (r' >>= k') := by
  cases r <;> cases r' <;> first | exact h | exact h.elim | exact hk _ _ h

/-- A section without carriage returns, and the same one with those that were put in. -/
def Twins (s s' : Section) : Prop :=
  '\r' ∉ s.body ∧ s' = ⟨s.destination, addReturns s.body⟩

theorem agree_ofFragment (hm : m.content ≠ []) (hreturn : '\r' ∉ m.content)
    (hfeed : '\n' ∉ m.content) (hfree : '\r' ∉ fragment) :
    Agree Twins (ofFragment m i fragment) (ofFragment m i (addReturns fragment)) := by
  obtain ⟨parts, hcuts⟩ := exists_cuts hm fragment
  have hcuts' := cuts_addReturns hm hreturn hfeed hcuts
  by_cases hlen : parts.length = 2
  · obtain ⟨head, rest, rfl⟩ := List.length_eq_two.mp hlen
    rw [ofFragment_of_pair hm hcuts, ofFragment_of_pair hm hcuts', trim_addReturns,
      trimStart_addReturns]
    by_cases hnil : trim head = []
    · rw [if_pos hnil, if_pos (addReturns_eq_nil_iff.mpr hnil)]
      exact .missing i
    rw [if_neg hnil, if_neg (mt addReturns_eq_nil_iff.mp hnil)]
    by_cases hline : '\n' ∈ trim head
    · rw [if_pos (List.contains_iff_mem.mpr hline),
        if_pos (List.contains_iff_mem.mpr (feed_mem_addReturns_iff.mpr hline))]
      exact .multiline i _
    -- on one line the destination is the same
    have hsingle : ¬ (trim head).contains '\n' = true := mt List.contains_iff_mem.mp hline
    rw [addReturns_of_not_mem hline, if_neg hsingle, if_neg hsingle]
    split
    · exact .leaving i _
    · have hrest := hcuts.not_mem hfree rest (by simp)
      exact ⟨fun hmem => hrest ((List.dropWhile_suffix _).subset hmem), rfl⟩
  · have hpair : ∀ {f : Text} {parts : List Text}, Cuts m.content f parts → parts.length ≠ 2 →
        ofFragment m i f = .error (.contentMarkerCount i m.content (parts.length - 1)) := by
      intro f parts hf hne
      rw [ofFragment_of_not_pair hm, occurrences, hf.splitBy_eq hm]
      rintro ⟨head, rest, hf'⟩
      have heq := (hf.splitBy_eq hm).symm.trans (hf'.splitBy_eq hm)
      simp [heq] at hne
    rw [hpair hcuts hlen, hpair hcuts' (by rwa [List.length_map]), List.length_map]
    exact .count i _ _

theorem agree_ofFragments (hm : m.content ≠ []) (hreturn : '\r' ∉ m.content)
    (hfeed : '\n' ∉ m.content) (hfree : ∀ f ∈ fragments, '\r' ∉ f) :
    Agree (List.Forall₂ Twins) (ofFragments m i fragments)
      (ofFragments m i (fragments.map addReturns)) := by
  induction fragments generalizing i with
  | nil => exact .nil
  | cons f fs ih =>
      have hrest := ih (i := i + 1) fun g hg => hfree g (List.mem_cons_of_mem _ hg)
      simp only [List.map_cons, ofFragments, isBlank_addReturns]
      split
      · exact hrest
      · refine (agree_ofFragment hm hreturn hfeed (hfree f List.mem_cons_self)).bind ?_
        intro s s' hs
        exact hrest.bind fun ss ss' hss => .cons hs hss

theorem agree_split (hm : m.validate = .ok ()) (hnew : '\r' ∉ m.newFile ∧ '\n' ∉ m.newFile)
    (hcontent : '\r' ∉ m.content ∧ '\n' ∉ m.content) (hfree : '\r' ∉ t) :
    Agree (List.Forall₂ Twins) (split m t) (split m (addReturns t)) := by
  obtain ⟨hnil, hnil'⟩ := Markers.ne_nil_of_validate hm
  obtain ⟨parts, hcuts⟩ := exists_cuts hnil t
  obtain ⟨leading, fragments, rfl⟩ := hcuts.exists_cons
  have hcuts' := cuts_addReturns hnil hnew.1 hnew.2 hcuts
  rw [split_of_cuts hnil hcuts, split_of_cuts hnil hcuts', isBlank_addReturns, trim_addReturns]
  split
  · refine agree_ofFragments hnil' hcontent.1 hcontent.2 fun f hf => ?_
    exact hcuts.not_mem hfree f (List.mem_cons_of_mem _ hf)
  · exact .leading _ _

end Section

namespace Job

open Section

variable {settings : Settings} {s s' : Section} {ss ss' : List Section}

theorem writeSection_eq (h : Twins s s') : writeSection settings s' = writeSection settings s := by
  obtain ⟨hfree, rfl⟩ := h
  simp only [writeSection, writeFile, Newline.apply_addReturns hfree]

theorem forM_eq_of_forall₂ {α β : Type} {R : α → β → Prop} {as : List α} {bs : List β}
    {g : α → Job PUnit} {g' : β → Job PUnit} (h : List.Forall₂ R as bs)
    (hg : ∀ a b, R a b → g' b = g a) : bs.forM g' = as.forM g := by
  induction h with
  | nil => rfl
  | cons hab _ ih => rw [List.forM, List.forM, hg _ _ hab, ih]

theorem destinations_eq (h : List.Forall₂ Twins ss ss') :
    ss'.map (·.destination) = ss.map (·.destination) := by
  induction h with
  | nil => rfl
  | cons hs _ ih => rw [List.map_cons, List.map_cons, hs.2, ih]

theorem writeSections_eq (h : List.Forall₂ Twins ss ss') :
    writeSections settings ss' = writeSections settings ss := by
  have htargets : ss'.map (fun s => Path.join settings.outputDir s.destination) =
      ss.map (fun s => Path.join settings.outputDir s.destination) := by
    simpa [Function.comp_def] using
      congrArg (List.map (Path.join settings.outputDir)) (destinations_eq h)
  rw [writeSections, writeSections, htargets, forM_eq_of_forall₂ h fun _ _ => writeSection_eq,
    h.length_eq]

end Job

open Section

/-- A rendered text with a carriage return before every line feed is accepted just if it is
without them, and is written as the same files; otherwise it is refused for the same reason. -/
theorem Section.same_files_of_addReturns {m : Markers} {t : Text} (hm : m.validate = .ok ())
    (hnew : '\r' ∉ m.newFile ∧ '\n' ∉ m.newFile)
    (hcontent : '\r' ∉ m.content ∧ '\n' ∉ m.content) (hfree : '\r' ∉ t) :
    Agree (fun ss ss' => ss'.map (·.destination) = ss.map (·.destination) ∧
        ∀ settings, Job.writeSections settings ss' = Job.writeSections settings ss)
      (split m t) (split m (Newline.addReturns t)) := by
  refine (agree_split hm hnew hcontent hfree).mono fun ss ss' h => ?_
  exact ⟨Job.destinations_eq h, fun settings => Job.writeSections_eq h⟩

theorem Section.same_files_of_addReturns_two_lines :
    split ⟨['#'], ['@']⟩ ['#', 'a', '\r', '\n', '@', '\r', '\n', 'x', '\r', '\n', 'y'] =
      .ok [⟨['a'], ['x', '\r', '\n', 'y']⟩] ∧
    ∀ settings, Job.writeSections settings [⟨['a'], ['x', '\r', '\n', 'y']⟩] =
      Job.writeSections settings [⟨['a'], ['x', '\n', 'y']⟩] := by
  have hplain : split ⟨['#'], ['@']⟩ ['#', 'a', '\n', '@', '\n', 'x', '\n', 'y'] =
      .ok [⟨['a'], ['x', '\n', 'y']⟩] := by rfl
  have hreturns : split ⟨['#'], ['@']⟩
      (Newline.addReturns ['#', 'a', '\n', '@', '\n', 'x', '\n', 'y']) =
      .ok [⟨['a'], ['x', '\r', '\n', 'y']⟩] := by rfl
  have hagree := same_files_of_addReturns (m := ⟨['#'], ['@']⟩)
    (t := ['#', 'a', '\n', '@', '\n', 'x', '\n', 'y']) (by rfl) (by decide) (by decide) (by decide)
  rw [hplain, hreturns] at hagree
  exact ⟨hreturns, hagree.2⟩

end TemplateTree
