import TemplateTree.Extension.Identifier
import TemplateTree.Proofs.Text.Words

/-!
# Include guards

The guard of a path spells the letters and digits of the path in upper case, with underscores
between some of them.  All its characters can stand in an identifier, but it begins as the
path does: where that is with a digit, the guard is no identifier.
-/

namespace TemplateTree.Identifier

open Text

variable {args : Namespace} {path guard letters : Text} {c : Char} {more : List Value}

def guardLetters (path : Text) : Text :=
  upperAscii (path.filter Char.isAlphanum)

theorem guardLetters_eq (path : Text) : guardLetters path =
    ((fieldsWhere (fun c => !c.isAlphanum) path).map upperAscii).flatten := by
  have hkept : (fieldsWhere (fun c => !c.isAlphanum) path).flatten =
      path.filter Char.isAlphanum := by
    simp only [flatten_fieldsWhere, Bool.not_not]
  rw [guardLetters, ← hkept, upperAscii, List.map_flatten]
  rfl

theorem isUpper_or_isDigit_of_mem_guardLetters (h : c ∈ guardLetters path) :
    c.isUpper = true ∨ c.isDigit = true := by
  obtain ⟨d, hd, rfl⟩ := List.mem_map.mp h
  exact isUpper_or_isDigit_toUpper (List.mem_filter.mp hd).2

theorem spells_guardWords (path : Text) :
    Spells (guardLetters path) (joinWith ['_'] (guardWords path)) := by
  have hfield : ∀ w ∈ fieldsWhere (fun c => !c.isAlphanum) path,
      w ≠ [] ∧ ∀ c ∈ w, c.isAlphanum = true := fun w hw =>
    ⟨ne_nil_of_mem_fieldsWhere hw, fun c hc => by simpa using of_mem_fieldsWhere hw hc⟩
  rw [guardLetters_eq, guardWords]
  apply Spells.joinWith
  · rw [List.forall₂_map_left_iff, List.forall₂_map_right_iff, List.forall₂_same]
    exact fun w hw => spells_shoutySnakeCase (hfield w hw).1 (hfield w hw).2
  · intro l hl
    obtain ⟨w, hw, rfl⟩ := List.mem_map.mp hl
    simpa [upperAscii] using (hfield w hw).1

theorem guardWords_eq_nil_iff : guardWords path = [] ↔ guardLetters path = [] := by
  rw [guardWords, List.map_eq_nil_iff, guardLetters_eq, List.flatten_eq_nil_iff]
  constructor
  · intro h
    simp [h]
  · intro h
    rw [List.eq_nil_iff_forall_not_mem]
    intro w hw
    exact ne_nil_of_mem_fieldsWhere hw (by simpa [upperAscii] using h _ (List.mem_map_of_mem hw))

theorem includeGuard_of_path (hpath : args.get? "path" = some (.string path)) :
    includeGuard args = if guardLetters path = [] then
      .error ("include_guard: no identifier characters in \"" ++ path ++ "\"")
    else .ok (.string (joinWith ['_'] (guardWords path))) := by
  rw [includeGuard, hpath, Option.bind_some, Value.text?]
  dsimp only
  split
  case h_1 hnil => rw [if_pos (guardWords_eq_nil_iff.mp hnil)]
  case h_2 hne => rw [if_neg (mt guardWords_eq_nil_iff.mpr hne)]

theorem isPart_of_mem_guardLetters (h : c ∈ guardLetters path) :
    isPart c = true ∧ isLowercase c = false ∧ isStart c = c.isAlpha := by
  have hcase := isUpper_or_isDigit_of_mem_guardLetters h
  have halphanum : c.isAlphanum = true := isAlphanum_iff.mpr (hcase.imp_left .inl)
  refine forall_ascii (P := fun c => c.isUpper = true ∨ c.isDigit = true → isPart c = true ∧
    isLowercase c = false ∧ isStart c = c.isAlpha) ?_ (toNat_lt_of_isAlphanum halphanum) hcase
  decide

theorem isPart_of_spells (h : Spells (guardLetters path) guard) (hc : c ∈ guard) :
    isPart c = true ∧ isLowercase c = false := by
  rcases h.mem hc with rfl | hletter
  · decide
  · obtain ⟨hpart, hlower, -⟩ := isPart_of_mem_guardLetters hletter
    exact ⟨hpart, hlower⟩

/-- Of a text that spells letters only the first of them decides whether it is an identifier. -/
theorem isIdentifier_of_spells (h : Spells (guardLetters path) guard) :
    isIdentifier guard = (guardLetters path).head?.any Char.isAlpha := by
  rw [← h.head_eq]
  cases guard with
  | nil => rfl
  | cons c rest =>
      have hstart : isStart c = c.isAlpha := by
        have hletter : c ∈ guardLetters path := List.mem_of_head? h.head_eq.symm
        exact (isPart_of_mem_guardLetters hletter).2.2
      have hrest : rest.all isPart = true :=
        List.all_eq_true.mpr fun d hd => (isPart_of_spells h (List.mem_cons_of_mem c hd)).1
      simp [isIdentifier, hstart, hrest]

/-- Of a path with letters or digits the guard is written, and what it is made of is told
character by character: the letters and digits of the path in upper case and in their order,
and underscores. It begins as the path does, so it passes for an identifier if and only if the
first letter or digit of the path is a letter. Without letters and digits there is no guard. -/
theorem includeGuard_spells (hpath : args.get? "path" = some (.string path)) :
    (guardLetters path = [] → includeGuard args =
      .error ("include_guard: no identifier characters in \"" ++ path ++ "\"")) ∧
    (guardLetters path ≠ [] → ∃ guard, includeGuard args = .ok (.string guard) ∧ guard ≠ [] ∧
      guard.filter (· ≠ '_') = guardLetters path ∧ guard.head? = (guardLetters path).head? ∧
      (∀ c ∈ guard, isPart c = true ∧ isLowercase c = false) ∧
      ∀ more, test isIdentifier (some (.string guard)) more =
        .ok ((guardLetters path).head?.any Char.isAlpha)) := by
  rw [includeGuard_of_path hpath]
  refine ⟨fun hnil => if_pos hnil, fun hne => ?_⟩
  have hspells := spells_guardWords path
  refine ⟨_, if_neg hne, hspells.ne_nil hne, hspells.filter_eq, hspells.head_eq,
    fun c hc => isPart_of_spells hspells hc, fun more => ?_⟩
  rw [← isIdentifier_of_spells hspells]
  rfl

theorem includeGuard_of_leading_digit :
    Namespace.get? [("path".toList, .string "3d/gain.h".toList)] "path" =
      some (.string "3d/gain.h".toList) ∧
    guardLetters "3d/gain.h".toList = "3DGAINH".toList ∧
    includeGuard [("path".toList, .string "3d/gain.h".toList)] =
      .ok (.string "3D_GAIN_H".toList) ∧
    ∀ more, test isIdentifier (some (.string "3D_GAIN_H".toList)) more = .ok false := by
  have hpath : Namespace.get? [("path".toList, .string "3d/gain.h".toList)] "path" =
      some (.string "3d/gain.h".toList) := rfl
  have hletters : guardLetters "3d/gain.h".toList = "3DGAINH".toList := by decide
  have hguard : includeGuard [("path".toList, .string "3d/gain.h".toList)] =
      .ok (.string "3D_GAIN_H".toList) := by rfl
  obtain ⟨guard, hok, -, -, -, -, htest⟩ :=
    (includeGuard_spells hpath).2 (by rw [hletters]; decide)
  obtain rfl : "3D_GAIN_H".toList = guard := by
    rw [hguard] at hok
    injection hok with hvalue
    injection hvalue
  refine ⟨hpath, hletters, hguard, fun more => ?_⟩
  rw [htest, hletters]
  rfl

end TemplateTree.Identifier
