import TemplateTree.Proofs.Files.Ancestors

/-!
# Resolved paths

A path that is resolved against an absolute one is absolute and without dots.  It says what
the path says, where that is absolute, and else what both say one after the other.
Resolving it once more changes nothing, whatever it is resolved against.
-/

namespace TemplateTree.Path

variable {base p q : Path} {x : Text}

theorem isAbsolute_join_of_isAbsolute (hbase : isAbsolute base = true) :
    isAbsolute (join base p) = true := by
  cases hp : isAbsolute p with
  | true => simp [join, hp]
  | false =>
      rw [isAbsolute_join (by rintro rfl; cases hbase) hp, hbase]

theorem names_join (hq : isAbsolute q = false) : names (join p q) = names p ++ names q := by
  simp only [FileTree.names_eq_filter_parts, parts_join hq, List.filter_append]

/-! ## Absolute paths without idle segments -/

theorem mem_names (h : x ∈ names p) : x ≠ [] ∧ '/' ∉ x := by
  obtain ⟨hmem, hidle⟩ := List.mem_filter.mp h
  refine ⟨?_, FileTree.not_slash_of_mem_splitWhere hmem⟩
  rintro rfl
  simp [isIdle] at hidle

theorem stepText_segmentStep (x : Text) : stepText (segmentStep x) = x := by
  unfold segmentStep
  split
  case isTrue h => exact h.symm
  case isFalse => rfl

theorem steps_of_isAbsolute (hp : isAbsolute p = true) :
    steps p = .root :: (names p).map segmentStep := by
  rw [steps_eq, if_pos hp]
  rfl

theorem normalized_of_isAbsolute (hp : isAbsolute p = true) :
    normalized p = (names p).foldl join ['/'] := by
  rw [normalized, steps_of_isAbsolute hp, List.foldl_cons, List.foldl_map]
  simp only [stepText_segmentStep]
  rfl

theorem isAbsolute_normalized (hp : isAbsolute p = true) : isAbsolute (normalized p) = true := by
  rw [normalized_of_isAbsolute hp]
  exact isAbsolute_foldl_join_of_not_mem (List.cons_ne_nil _ _) fun x hx => mem_names hx

theorem parts_normalized (hp : isAbsolute p = true) : parts (normalized p) = names p := by
  rw [normalized_of_isAbsolute hp, parts_foldl_join_of_not_mem fun x hx => mem_names hx]
  rfl

theorem names_normalized (hp : isAbsolute p = true) : names (normalized p) = names p := by
  rw [FileTree.names_eq_filter_parts, parts_normalized hp, FileTree.names_eq_filter_parts,
    List.filter_filter]
  simp only [Bool.and_self]

theorem steps_normalized (hp : isAbsolute p = true) : steps (normalized p) = steps p := by
  rw [steps_of_isAbsolute (isAbsolute_normalized hp), names_normalized hp, steps_of_isAbsolute hp]

theorem normalized_normalized (hp : isAbsolute p = true) :
    normalized (normalized p) = normalized p := by
  rw [normalized_of_isAbsolute (isAbsolute_normalized hp), names_normalized hp,
    normalized_of_isAbsolute hp]

theorem dot_not_mem_segments_normalized (hp : isAbsolute p = true) :
    ['.'] ∉ segments (normalized p) := by
  intro hmem
  have hsegment : ['.'] ∈ Text.splitWhere (· = '/') (normalized p) := by
    obtain ⟨r, hr⟩ : ∃ r, normalized p = '/' :: r :=
      List.head?_eq_some_iff.mp (of_decide_eq_true (isAbsolute_normalized hp))
    rw [hr] at hmem ⊢
    rw [splitWhere_slash]
    exact List.mem_cons_of_mem _ hmem
  have hpart : ['.'] ∈ parts (normalized p) := List.mem_filter.mpr ⟨hsegment, rfl⟩
  rw [parts_normalized hp] at hpart
  simpa [isIdle] using (List.mem_filter.mp hpart).2

/-! ## Resolving -/

/-- An absolute path without dots, which stays as it is wherever it is resolved. -/
structure IsResolved (p : Path) : Prop where
  absolute : isAbsolute p = true
  dot_not_mem : ['.'] ∉ segments p
  resolve_eq : ∀ base, resolve base p = p

theorem isResolved_resolve (hbase : isAbsolute base = true) : IsResolved (resolve base p) := by
  have hjoin := isAbsolute_join_of_isAbsolute (p := p) hbase
  refine ⟨isAbsolute_normalized hjoin, dot_not_mem_segments_normalized hjoin, fun other => ?_⟩
  have hsame : join other (resolve base p) = resolve base p :=
    if_pos (isAbsolute_normalized hjoin)
  rw [resolve, hsame]
  exact normalized_normalized hjoin

theorem steps_resolve (hbase : isAbsolute base = true) : steps (resolve base p) =
    if isAbsolute p then steps p else steps base ++ (names p).map segmentStep := by
  rw [resolve, steps_normalized (isAbsolute_join_of_isAbsolute hbase)]
  cases hp : isAbsolute p with
  | true => simp [join, hp]
  | false =>
      rw [steps_of_isAbsolute (isAbsolute_join_of_isAbsolute hbase), names_join hp,
        steps_of_isAbsolute hbase]
      simp

/-- A path read below a directory: what an absolute path says is kept, and a relative one says
what the directory and the path say one after the other. -/
structure ResolvesTo (base p q : Path) : Prop extends IsResolved q where
  steps_eq : steps q = if isAbsolute p then steps p else steps base ++ (names p).map segmentStep

theorem IsResolved.normalized_eq (hp : IsResolved p) : normalized p = p := by
  have hself : join [] p = p := if_pos hp.absolute
  rw [← hp.resolve_eq [], resolve, hself, normalized_normalized hp.absolute]

theorem resolvesTo_iff (hbase : isAbsolute base = true) :
    ResolvesTo base p q ↔ resolve base p = q := by
  have hresolved := isResolved_resolve (p := p) hbase
  constructor
  · rintro ⟨hq, hsteps⟩
    rw [← hq.normalized_eq, normalized, hsteps, ← steps_resolve hbase, ← normalized,
      hresolved.normalized_eq]
  · rintro rfl
    exact ⟨hresolved, steps_resolve hbase⟩

end TemplateTree.Path
