import TemplateTree.Output.Section
import TemplateTree.Proofs.Files.Names
import TemplateTree.Proofs.Text.Cutting
import TemplateTree.Proofs.Text.Trimming
import Mathlib.Data.List.Forall2

/-!
# The grammar of rendered text

Rendered text is cut at its new-file markers.  Each fragment that is not blank has
to hold one content marker with a usable destination before it, and then it is one
section.  White space at three places of a fragment is all that a section leaves
out, and the first fragment out of order is the one that an error is about.
-/

namespace TemplateTree

open Text

theorem Markers.ne_nil_of_validate {m : Markers} (h : m.validate = .ok ()) :
    m.newFile ≠ [] ∧ m.content ≠ [] := by
  constructor <;> intro hnil <;> simp [Markers.validate, hnil] at h

namespace Section

variable {m : Markers} {i : Nat} {fragment : Text} {fragments : List Text} {s : Section}
  {ss : List Section} {e : SectionError}

/-- A destination on one line that stays below the output directory. -/
def Usable (destination : Text) : Prop :=
  destination ≠ [] ∧ '\n' ∉ destination ∧ (withSlashes destination).StaysBelow

/-- A fragment with one content marker and a usable destination before it. -/
def WellFormed (m : Markers) (fragment : Text) : Prop :=
  ∃ head rest, Cuts m.content fragment [head, rest] ∧ Usable (trim head)

/-- A fragment and the section that is read from it. -/
def Spells (m : Markers) (fragment : Text) (s : Section) : Prop :=
  ∃ head rest, Cuts m.content fragment [head, rest] ∧ Usable (trim head) ∧
    s = ⟨withSlashes (trim head), trimStart rest⟩

/-- A fragment is a section with white space around its destination and before its
body, where the body holds no marker. -/
def Describes (m : Markers) (fragment : Text) (s : Section) : Prop :=
  ∃ u d v w, isBlank u = true ∧ isBlank v = true ∧ isBlank w = true ∧
    fragment = u ++ d ++ v ++ m.content ++ w ++ s.body ∧
    trim d = d ∧ s.destination = withSlashes d ∧ trimStart s.body = s.body ∧
    ¬ m.newFile <:+: s.body ∧ ¬ m.content <:+: s.body

/-- What is wrong with a fragment, as the error about it tells. -/
inductive Fault (m : Markers) (index : Nat) (fragment : Text) : SectionError → Prop
  | count (parts : List Text) (hcut : Cuts m.content fragment parts) (hlen : parts.length ≠ 2) :
      Fault m index fragment (.contentMarkerCount index m.content (parts.length - 1))
  | missing (head rest : Text) (hcut : Cuts m.content fragment [head, rest])
      (hblank : isBlank head = true) : Fault m index fragment (.missingDestination index)
  | multiline (head rest : Text) (hcut : Cuts m.content fragment [head, rest])
      (hline : '\n' ∈ trim head) :
      Fault m index fragment (.multilineDestination index (trim head))
  | leaving (head rest : Text) (hcut : Cuts m.content fragment [head, rest])
      (hline : '\n' ∉ trim head) (hout : ¬ (withSlashes (trim head)).StaysBelow) :
      Fault m index fragment (.unsafeDestination index (trim head))

/-! ## One fragment -/

theorem ofFragment_of_not_pair (hm : m.content ≠ [])
    (h : ¬ ∃ head rest, Cuts m.content fragment [head, rest]) :
    ofFragment m i fragment =
      .error (.contentMarkerCount i m.content (occurrences m.content fragment)) := by
  have hcount : occurrences m.content fragment ≠ 1 := fun hc =>
    h ((occurrences_eq_one_iff hm).mp hc)
  simp [ofFragment, hcount]

theorem ofFragment_of_pair (hm : m.content ≠ []) {head rest : Text}
    (h : Cuts m.content fragment [head, rest]) :
    ofFragment m i fragment =
      if trim head = [] then .error (.missingDestination i)
      else if (trim head).contains '\n' then .error (.multilineDestination i (trim head))
      else if !Path.isContained (withSlashes (trim head)) then
        .error (.unsafeDestination i (trim head))
      else .ok ⟨withSlashes (trim head), trimStart rest⟩ := by
  have hcount : occurrences m.content fragment = 1 :=
    (occurrences_eq_one_iff hm).mpr ⟨head, rest, h⟩
  obtain ⟨hfrag, hfirst, _⟩ := cuts_pair_iff.mp h
  have honce : splitOnce? m.content fragment = some (head, rest) :=
    (splitOnce?_eq_some_iff hm).mpr ⟨hfrag, hfirst⟩
  simp [ofFragment, hcount, honce]

theorem ofFragment_eq_ok_iff (hm : m.content ≠ []) :
    ofFragment m i fragment = .ok s ↔ Spells m fragment s := by
  by_cases h : ∃ head rest, Cuts m.content fragment [head, rest]
  · obtain ⟨head, rest, hcut⟩ := h
    have hspells : Spells m fragment s ↔
        Usable (trim head) ∧ s = ⟨withSlashes (trim head), trimStart rest⟩ := by
      constructor
      · rintro ⟨head', rest', hcut', husable, hs⟩
        have heq : [head', rest'] = [head, rest] :=
          (hcut'.splitBy_eq hm).symm.trans (hcut.splitBy_eq hm)
        obtain ⟨rfl, rfl⟩ : head' = head ∧ rest' = rest := by simpa using heq
        exact ⟨husable, hs⟩
      · rintro ⟨husable, hs⟩
        exact ⟨head, rest, hcut, husable, hs⟩
    rw [ofFragment_of_pair hm hcut, hspells, Usable]
    split
    case isTrue hnil => simp [hnil]
    case isFalse hnil =>
      split
      case isTrue hline => simp [List.contains_iff_mem.mp hline]
      case isFalse hline =>
        split
        case isTrue hout =>
          have hbelow : ¬ (withSlashes (trim head)).StaysBelow := fun hbelow => by
            simp [Path.isContained_iff.mpr hbelow] at hout
          simp [hbelow]
        case isFalse hout =>
          have hbelow : (withSlashes (trim head)).StaysBelow :=
            Path.isContained_iff.mp (by simpa using hout)
          have hline' : '\n' ∉ trim head := by simpa using hline
          simp [hnil, hline', hbelow, eq_comm]
  · rw [ofFragment_of_not_pair hm h]
    constructor
    · simp
    · rintro ⟨head, rest, hcut, _⟩
      exact absurd ⟨head, rest, hcut⟩ h

theorem fault_of_ofFragment (hm : m.content ≠ []) (h : ofFragment m i fragment = .error e) :
    Fault m i fragment e := by
  obtain ⟨parts, hcut⟩ := exists_cuts hm fragment
  by_cases hlen : parts.length = 2
  · obtain ⟨head, rest, rfl⟩ := List.length_eq_two.mp hlen
    rw [ofFragment_of_pair hm hcut] at h
    split at h
    case isTrue hnil =>
      obtain rfl : SectionError.missingDestination i = e := by simpa using h
      exact .missing head rest hcut (trim_eq_nil_iff.mp hnil)
    case isFalse =>
      split at h
      case isTrue hline =>
        obtain rfl : SectionError.multilineDestination i (trim head) = e := by simpa using h
        exact .multiline head rest hcut (by simpa using hline)
      case isFalse hline =>
        split at h
        case isTrue hout =>
          obtain rfl : SectionError.unsafeDestination i (trim head) = e := by simpa using h
          refine .leaving head rest hcut (by simpa using hline) fun hbelow => ?_
          simp [Path.isContained_iff.mpr hbelow] at hout
        case isFalse => simp at h
  · have hpair : ¬ ∃ head rest, Cuts m.content fragment [head, rest] := by
      rintro ⟨head, rest, hcut'⟩
      have heq := (hcut.splitBy_eq hm).symm.trans (hcut'.splitBy_eq hm)
      simp [heq] at hlen
    rw [ofFragment_of_not_pair hm hpair] at h
    obtain rfl : SectionError.contentMarkerCount i m.content (parts.length - 1) = e := by
      simpa [occurrences, hcut.splitBy_eq hm] using h
    exact .count parts hcut hlen

theorem wellFormed_iff : WellFormed m fragment ↔ ∃ s, Spells m fragment s := by
  constructor
  · rintro ⟨head, rest, hcut, husable⟩
    exact ⟨_, head, rest, hcut, husable, rfl⟩
  · rintro ⟨s, head, rest, hcut, husable, _⟩
    exact ⟨head, rest, hcut, husable⟩

/-- A fragment without a new-file marker is described by the section it spells. -/
theorem Spells.describes (hfree : ¬ m.newFile <:+: fragment) (h : Spells m fragment s) :
    Describes m fragment s := by
  obtain ⟨head, rest, hcut, _, rfl⟩ := h
  obtain ⟨hfrag, _, hrest⟩ := cuts_pair_iff.mp hcut
  obtain ⟨u, v, hu, hv, hhead⟩ := exists_append_trim_append head
  obtain ⟨w, hw, hbody⟩ := exists_append_trimStart rest
  have hparts : fragment = u ++ trim head ++ v ++ m.content ++ w ++ trimStart rest := by
    rw [hfrag, ← hhead, List.append_assoc _ w, ← hbody]
  refine ⟨u, trim head, v, w, hu, hv, hw, hparts, trim_trim head, rfl, trimStart_trimStart rest,
    fun hin => hfree (hin.trans ?_), fun hin => hrest (hin.trans ?_)⟩
  · exact hparts ▸ (List.suffix_append _ _).isInfix
  · conv_rhs => rw [hbody]
    exact (List.suffix_append _ _).isInfix

/-! ## Many fragments -/

theorem ofFragments_eq_ok_iff (hm : m.content ≠ []) :
    ofFragments m i fragments = .ok ss ↔
      List.Forall₂ (Spells m) (fragments.filter (!isBlank ·)) ss := by
  induction fragments generalizing i ss with
  | nil =>
      rw [List.filter_nil, List.forall₂_nil_left_iff]
      simp [ofFragments, eq_comm]
  | cons f fs ih =>
      cases hblank : isBlank f with
      | true => simp [ofFragments, hblank, ih]
      | false =>
          simp only [ofFragments, hblank, Bool.false_eq_true, if_false, List.filter_cons,
            Bool.not_false, if_true]
          constructor
          · intro h
            cases hf : ofFragment m i f with
            | error e => simp [hf, bind, Except.bind] at h
            | ok s =>
                cases hfs : ofFragments m (i + 1) fs with
                | error e => simp [hf, hfs, bind, Except.bind] at h
                | ok rest =>
                    obtain rfl : s :: rest = ss := by
                      simpa [hf, hfs, bind, Except.bind, pure, Except.pure] using h
                    exact .cons ((ofFragment_eq_ok_iff hm).mp hf) (ih.mp hfs)
          · rintro (_ | ⟨hs, hrest⟩)
            rw [(ofFragment_eq_ok_iff hm).mpr hs, ih.mpr hrest]
            rfl

/-- The error is about the first fragment out of order. -/
theorem fault_of_ofFragments (hm : m.content ≠ []) (h : ofFragments m i fragments = .error e) :
    ∃ k f, fragments[k]? = some f ∧ isBlank f = false ∧ Fault m (i + k) f e ∧
      ∀ g ∈ fragments.take k, isBlank g = false → WellFormed m g := by
  induction fragments generalizing i with
  | nil => simp [ofFragments] at h
  | cons f fs ih =>
      cases hblank : isBlank f with
      | true =>
          have hfs : ofFragments m (i + 1) fs = .error e := by
            simpa [ofFragments, hblank] using h
          obtain ⟨k, g, hget, hg, hfault, hbefore⟩ := ih hfs
          refine ⟨k + 1, g, hget, hg, by rwa [Nat.add_right_comm] at hfault, fun g' hmem hg' => ?_⟩
          rcases List.mem_cons.mp hmem with rfl | hmem
          · simp [hblank] at hg'
          · exact hbefore g' hmem hg'
      | false =>
          cases hf : ofFragment m i f with
          | error e' =>
              obtain rfl : e' = e := by
                simpa [ofFragments, hblank, hf, bind, Except.bind] using h
              exact ⟨0, f, rfl, hblank, fault_of_ofFragment hm hf, by simp⟩
          | ok s =>
              have hspells := (ofFragment_eq_ok_iff hm).mp hf
              have hfs : ofFragments m (i + 1) fs = .error e := by
                cases hfs : ofFragments m (i + 1) fs with
                | error e' => simpa [ofFragments, hblank, hf, hfs, bind, Except.bind] using h
                | ok rest =>
                    simp [ofFragments, hblank, hf, hfs, bind, Except.bind, pure, Except.pure] at h
              obtain ⟨k, g, hget, hg, hfault, hbefore⟩ := ih hfs
              refine ⟨k + 1, g, hget, hg, by rwa [Nat.add_right_comm] at hfault,
                fun g' hmem hg' => ?_⟩
              rcases List.mem_cons.mp hmem with rfl | hmem
              · exact wellFormed_iff.mpr ⟨s, hspells⟩
              · exact hbefore g' hmem hg'

theorem exists_spells_iff :
    (∃ ss, List.Forall₂ (Spells m) fragments ss) ↔ ∀ f ∈ fragments, WellFormed m f := by
  induction fragments with
  | nil => simp [List.forall₂_nil_left_iff]
  | cons f fs ih =>
      constructor
      · rintro ⟨_, _ | ⟨hs, hrest⟩⟩
        simp only [List.mem_cons, forall_eq_or_imp]
        exact ⟨wellFormed_iff.mpr ⟨_, hs⟩, ih.mp ⟨_, hrest⟩⟩
      · intro h
        simp only [List.mem_cons, forall_eq_or_imp] at h
        obtain ⟨s, hs⟩ := wellFormed_iff.mp h.1
        obtain ⟨ss, hss⟩ := ih.mpr h.2
        exact ⟨s :: ss, .cons hs hss⟩

/-! ## Rendered text -/

theorem split_of_cuts (hm : m.newFile ≠ []) {t leading : Text}
    (h : Cuts m.newFile t (leading :: fragments)) :
    split m t = if isBlank leading then ofFragments m 1 fragments
      else .error (.leadingText m.newFile (excerpt (trim leading))) := by
  simp [split, h.splitBy_eq hm]

/-- Rendered text is accepted exactly when it is white space and well-formed
fragments.  Its sections describe the fragments in order, and an error is about the
leading text or the first fragment out of order. -/
theorem split_accepts_exactly_grammar (hm : m.validate = .ok ()) (t : Text) :
    ∃ leading fragments, Cuts m.newFile t (leading :: fragments) ∧
      ((∃ ss, split m t = .ok ss) ↔
        isBlank leading = true ∧ ∀ f ∈ fragments, isBlank f = false → WellFormed m f) ∧
      (∀ ss, split m t = .ok ss →
        List.Forall₂ (Describes m) (fragments.filter (!isBlank ·)) ss) ∧
      (∀ e, split m t = .error e →
        (isBlank leading = false ∧ e = .leadingText m.newFile (excerpt (trim leading))) ∨
        (isBlank leading = true ∧ ∃ k f, fragments[k]? = some f ∧ isBlank f = false ∧
          Fault m (k + 1) f e ∧
          ∀ g ∈ fragments.take k, isBlank g = false → WellFormed m g)) := by
  obtain ⟨hnew, hcontent⟩ := Markers.ne_nil_of_validate hm
  obtain ⟨parts, hcuts⟩ := exists_cuts hnew t
  obtain ⟨leading, fragments, rfl⟩ := hcuts.exists_cons
  have hfree : ∀ f ∈ fragments, ¬ m.newFile <:+: f := fun f hf =>
    hcuts.not_infix_of_mem hnew (List.mem_cons_of_mem _ hf)
  have hsplit := split_of_cuts hnew hcuts
  refine ⟨leading, fragments, hcuts, ?_, ?_, ?_⟩
  case refine_1 =>
    have hfragments : (∃ ss, ofFragments m 1 fragments = .ok ss) ↔
        ∀ f ∈ fragments, isBlank f = false → WellFormed m f := by
      simp only [ofFragments_eq_ok_iff hcontent, exists_spells_iff, List.mem_filter,
        Bool.not_eq_true', and_imp]
    cases hblank : isBlank leading <;> simp [hsplit, hblank, hfragments]
  case refine_2 =>
    intro ss hss
    cases hblank : isBlank leading with
    | false => simp [hsplit, hblank] at hss
    | true =>
        have hspells : List.Forall₂ (Spells m) (fragments.filter (!isBlank ·)) ss :=
          (ofFragments_eq_ok_iff (i := 1) hcontent).mp (by simpa [hsplit, hblank] using hss)
        refine (List.forall₂_and_left _ _ |>.mpr ⟨fun f hf => ?_, hspells⟩).imp
          fun f s hs => hs.2.describes hs.1
        exact hfree f (List.mem_of_mem_filter hf)
  case refine_3 =>
    intro e he
    cases hblank : isBlank leading with
    | false => exact .inl ⟨rfl, by simpa [hsplit, hblank, eq_comm] using he⟩
    | true =>
        have hfrags : ofFragments m 1 fragments = .error e := by
          simpa [hsplit, hblank] using he
        obtain ⟨k, f, hget, hf, hfault, hbefore⟩ := fault_of_ofFragments hcontent hfrags
        exact .inr ⟨rfl, k, f, hget, hf, by rwa [Nat.add_comm] at hfault, hbefore⟩

theorem split_accepts_exactly_grammar_standard :
    (∃ leading fragments,
      Cuts "### New file:" "### New file: a\\b ### Content:\nx\n### New file:\n"
        (leading :: fragments) ∧
      isBlank leading = true ∧
      ∀ f ∈ fragments, isBlank f = false → WellFormed .standard f) ∧
    ∃ leading fragments,
      Cuts "### New file:" "\n### New file:\n### New file: a" (leading :: fragments) ∧
      ∃ k f, fragments[k]? = some f ∧
        Fault .standard (k + 1) f (.contentMarkerCount 2 "### Content:" 0) := by
  constructor
  · obtain ⟨leading, fragments, hcuts, hok, _⟩ := split_accepts_exactly_grammar
      (m := .standard) (by rfl) "### New file: a\\b ### Content:\nx\n### New file:\n"
    exact ⟨leading, fragments, hcuts, hok.mp ⟨[⟨"a/b", "x\n"⟩], by rfl⟩⟩
  · obtain ⟨leading, fragments, hcuts, _, _, herr⟩ := split_accepts_exactly_grammar
      (m := .standard) (by rfl) "\n### New file:\n### New file: a"
    refine ⟨leading, fragments, hcuts, ?_⟩
    obtain ⟨_, hleading⟩ | ⟨_, k, f, hget, _, hfault, _⟩ :=
      herr (.contentMarkerCount 2 "### Content:" 0) (by rfl)
    · cases hleading
    · exact ⟨k, f, hget, hfault⟩

end Section

end TemplateTree
