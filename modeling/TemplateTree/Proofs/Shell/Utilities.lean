import TemplateTree.Proofs.Shell.Steps
import TemplateTree.Shell.Utility.Table

/-!
# What utilities keep in order

Every utility leaves the files tidy and takes no negative time.  Those for files do it by
operations at the end of a path, the others change no more than what is printed.
-/

namespace TemplateTree.Shell

namespace Utility

open Step ShellState

variable {m : Instant} {channels : Channels} {args : List Text}

theorem nonneg_of_duration? {t : Text} {d : Int} (h : duration? t = some d) : 0 ≤ d := by
  have hunit : ∀ unit n, unitOfTime? unit = some n → 0 ≤ n := by
    intro unit n hn
    unfold unitOfTime? at hn
    split at hn <;> cases hn <;> decide
  unfold duration? at h
  simp only [bind, Option.bind_eq_some_iff, pure, Option.some.injEq] at h
  obtain ⟨digits, -, n, hn, rfl⟩ := h
  exact Int.ediv_nonneg (Int.mul_nonneg (Int.natCast_nonneg _) (hunit _ _ hn))
    (Int.natCast_nonneg _)

theorem le_foldl_add {ds : List Int} {n : Int} (h : ∀ d ∈ ds, 0 ≤ d) :
    n ≤ ds.foldl (· + ·) n := by
  induction ds generalizing n with
  | nil => exact Int.le_refl n
  | cons d ds ih =>
      have hd := h d List.mem_cons_self
      have hds : n + d ≤ ds.foldl (· + ·) (n + d) := ih fun e he => h e (List.mem_cons_of_mem _ he)
      rw [List.foldl_cons]
      omega

theorem orderly_pause : Keeps (Orderly m) (pause channels args) := by
  have hrefused : ∀ {t t' : Text}, Keeps (Orderly m) (do
      complain channels t
      complain channels t'
      return 1 : Step Nat) :=
    orderly_complain.bind fun _ => orderly_complain.bind fun _ => keeps_pure
  unfold pause
  dsimp only
  split
  · exact hrefused
  · split
    · exact hrefused
    · refine (keeps_modify fun s hs => ⟨hs.files, ?_⟩).bind fun _ => keeps_pure
      have hsum : 0 ≤ (args.filterMap duration?).foldl (· + ·) 0 := le_foldl_add fun d hd => by
        obtain ⟨t, -, ht⟩ := List.mem_filterMap.mp hd
        exact nonneg_of_duration? ht
      have hnow := hs.now
      dsimp only
      unfold Instant at *
      omega

theorem orderly_echo : Keeps (Orderly m) (echo channels args) := by
  unfold echo
  dsimp only
  split <;> exact orderly_writeBytes.bind fun _ => keeps_pure

theorem orderly_printf : Keeps (Orderly m) (printf channels args) := by
  unfold printf
  split
  · exact orderly_complainInLine.bind fun _ => keeps_pure
  · refine orderly_writeBytes.bind fun _ => ?_
    exact (keeps_forM fun _ _ => orderly_complainInLine).bind fun _ => keeps_pure

theorem orderly_printDirectory : Keeps (Orderly m) (printDirectory channels args) :=
  keeps_get_bind fun _ _ => orderly_write.bind fun _ => keeps_pure

theorem orderly_changeDirectory : Keeps (Orderly m) (changeDirectory channels args) := by
  refine keeps_get_bind fun s hs => ?_
  dsimp only
  split
  case h_1 place hplace =>
    split
    · refine (keeps_set ?_).bind fun _ => keeps_pure
      exact ⟨⟨hs.files.root, hs.files.isName_of_place hplace⟩, hs.now⟩
    · exact orderly_complainInLine.bind fun _ => keeps_pure
  case h_2 => exact orderly_complainInLine.bind fun _ => keeps_pure

theorem orderly_concatenate : Keeps (Orderly m) (concatenate channels args) := by
  unfold concatenate
  dsimp only
  split
  · refine orderly_takeInput.bind fun _ => ?_
    exact orderly_writeBytes.bind fun _ => keeps_pure
  · refine keeps_foldlM fun status file _ => ?_
    split
    · exact orderly_takeInput.bind fun _ => orderly_writeBytes.bind fun _ => keeps_pure
    · refine keeps_get_bind fun s hs => ?_
      split
      · exact orderly_writeBytes.bind fun _ => keeps_pure
      · exact orderly_complain.bind fun _ => keeps_pure

theorem orderly_list : Keeps (Orderly m) (list channels args) := by
  refine keeps_get_bind fun s hs => ?_
  refine (keeps_forM fun _ _ => orderly_complain).bind fun _ => ?_
  exact orderly_write.bind fun _ => orderly_write.bind fun _ => keeps_pure

theorem orderly_test : Keeps (Orderly m) (test channels args) := by
  refine keeps_get_bind fun s hs => ?_
  split
  · exact keeps_pure
  · exact keeps_pure
  · exact orderly_complainInLine.bind fun _ => keeps_pure

theorem orderly_bracketTest : Keeps (Orderly m) (bracketTest channels args) := by
  unfold bracketTest
  split
  · exact orderly_test
  · exact orderly_complainInLine.bind fun _ => keeps_pure

theorem orderly_exit : Keeps (Orderly m) (exit channels args) := by
  unfold exit
  split
  · exact keeps_get_bind fun _ _ => keeps_throw
  · split
    · exact keeps_throw
    · exact orderly_complainInLine.bind fun _ => keeps_throw

theorem orderly_kill : Keeps (Orderly m) (kill channels args) := by
  unfold kill
  dsimp only
  split
  · split
    · exact keeps_pure
    · exact keeps_throw
  · split <;> exact orderly_complainInLine.bind fun _ => keeps_pure

theorem orderly_setVariables : Keeps (Orderly m) (setVariables channels args) := by
  have hset : ∀ name (value? : Option Text), Keeps (Orderly m) (do
      modify fun s : ShellState => value?.elim s fun v => s.assign name v
      modify fun s : ShellState => { s with exported := name :: s.exported } : Step Unit) := by
    intro name value?
    refine Keeps.bind ?_ fun _ => orderly_modify (fun _ => rfl) fun _ => rfl
    cases value? <;> exact orderly_modify (fun _ => rfl) fun _ => rfl
  refine (keeps_forM fun a _ => ?_).bind fun _ => keeps_pure
  dsimp only
  split <;> exact hset _ _

theorem orderly_unsetVariables : Keeps (Orderly m) (unsetVariables channels args) := by
  refine (keeps_forM fun name _ => ?_).bind fun _ => keeps_pure
  exact orderly_modify (fun _ => rfl) fun _ => rfl

/-! ## Utilities for files -/

theorem orderly_changeInPart {label : Text}
    {f : ShellState → Except (FileError × FileTree) FileTree}
    (h : ∀ s, Orderly m s → (FileTree.ending (f s)).Tidy) :
    Keeps (Orderly m) (changeInPart channels label f) := by
  refine keeps_get_bind fun s hs => ?_
  have htidy := h s hs
  split
  case h_1 files hf =>
    rw [hf] at htidy
    exact (keeps_set ⟨htidy, hs.now⟩).bind fun _ => keeps_pure
  case h_2 e files hf =>
    rw [hf] at htidy
    refine (keeps_set ⟨htidy, hs.now⟩).bind fun _ => ?_
    exact orderly_complain.bind fun _ => keeps_pure

theorem orderly_change {label : Text} {f : ShellState → Except FileError FileTree}
    (h : ∀ s t, Orderly m s → f s = .ok t → t.Tidy) :
    Keeps (Orderly m) (change channels label f) := by
  refine orderly_changeInPart fun s hs => ?_
  cases hf : f s with
  | ok t => exact h s t hs hf
  | error e => exact hs.files

theorem orderly_forNames {names : List Text} {f : Text → Step Nat}
    (h : ∀ name, Keeps (Orderly m) (f name)) : Keeps (Orderly m) (forNames names f) :=
  keeps_foldlM fun _ name _ => (h name).bind fun _ => keeps_pure

theorem orderly_makeDirectory : Keeps (Orderly m) (makeDirectory channels args) := by
  refine orderly_forNames fun dir => ?_
  dsimp only
  split
  · exact orderly_changeInPart fun s hs => hs.files.makeAllDirs
  · exact orderly_change fun s t hs h => hs.files.makeDir h

theorem orderly_touch : Keeps (Orderly m) (touch channels args) := by
  refine orderly_forNames fun file => orderly_change fun s t hs h => ?_
  split at h
  · exact hs.files.write h
  · exact Except.ok.inj h ▸ hs.files
  · exact hs.files.write h

theorem orderly_remove : Keeps (Orderly m) (remove channels args) := by
  refine orderly_forNames fun name => keeps_get_bind fun s hs => ?_
  split
  · split
    · exact orderly_complain.bind fun _ => keeps_pure
    · exact (keeps_set ⟨hs.files.erase, hs.now⟩).bind fun _ => keeps_pure
  · split
    · exact keeps_pure
    · exact orderly_complain.bind fun _ => keeps_pure

theorem orderly_copy : Keeps (Orderly m) (copy channels args) := by
  unfold copy
  split
  · refine orderly_change fun s t hs h => ?_
    obtain ⟨bytes, -, hwrite⟩ := except_bind_eq_ok h
    exact hs.files.write hwrite
  · exact orderly_complain.bind fun _ => keeps_pure

/-- What a path names in a sound tree is sound. -/
theorem sound_of_nodeItself {t : FileTree} {p : Path} {n : Node} (ht : t.Tidy)
    (h : t.nodeItself p = .ok n) : n.Sound := by
  obtain ⟨spot, -, hnode⟩ := except_bind_eq_ok h
  cases spot with
  | free => cases hnode
  | found place =>
      cases hget : t.root.get? place with
      | none => simp [FileTree.nodeAt, hget] at hnode
      | some n' =>
          obtain rfl : n' = n := by simpa [FileTree.nodeAt, hget] using hnode
          exact ht.root.get? hget

theorem orderly_move : Keeps (Orderly m) (move channels args) := by
  unfold move
  split
  · refine orderly_change fun s t hs h => ?_
    obtain ⟨node, hnode, h⟩ := except_bind_eq_ok h
    obtain ⟨here, -, h⟩ := except_bind_eq_ok h
    obtain ⟨there, hthere, h⟩ := except_bind_eq_ok h
    cases h
    refine hs.files.erase.putAt (hs.files.isName_of_spotOf hthere fun _ hx => ?_)
      (sound_of_nodeItself hs.files hnode)
    exact FileTree.mem_wayOf hx
  · exact orderly_complain.bind fun _ => keeps_pure

theorem orderly_removeDirectory : Keeps (Orderly m) (removeDirectory channels args) := by
  refine orderly_forNames fun name => orderly_change fun s t hs h => ?_
  obtain ⟨node, -, h⟩ := except_bind_eq_ok h
  split at h
  · obtain ⟨spot, -, h⟩ := except_bind_eq_ok h
    cases h
    exact hs.files.erase
  · cases h
  · cases h

theorem orderly_link : Keeps (Orderly m) (link channels args) := by
  unfold link
  split
  · refine orderly_change fun s t hs h => ?_
    obtain ⟨spot, hspot, h⟩ := except_bind_eq_ok h
    cases spot with
    | found place => cases h
    | free place =>
        cases h
        refine hs.files.putAt (hs.files.isName_of_spotOf hspot fun _ hx => ?_) .link
        exact FileTree.mem_wayOf hx
  · exact orderly_complain.bind fun _ => keeps_pure

theorem orderly_changeMode : Keeps (Orderly m) (changeMode channels args) := by
  unfold changeMode
  split
  · refine orderly_forNames fun name => orderly_change fun s t hs h => ?_
    obtain ⟨place, hplace, h⟩ := except_bind_eq_ok h
    split at h
    · cases h
      exact hs.files.putAt (hs.files.isName_of_place hplace) .file
    · cases h
      exact hs.files
  · exact orderly_complain.bind fun _ => keeps_pure

/-! ## Utilities for lines -/

theorem orderly_inputOf {refusal : Path → Text} {file? : Option Path} :
    Keeps (Orderly m) (inputOf channels refusal file?) := by
  unfold inputOf
  split
  · exact orderly_takeInput.bind fun _ => keeps_pure
  · refine keeps_get_bind fun s hs => ?_
    split
    · exact keeps_pure
    · exact orderly_complain.bind fun _ => keeps_pure

theorem orderly_portion {utility : Text} {ofBytes : Nat → Bytes → Bytes}
    {ofLines : Nat → List Bytes → List Bytes} :
    Keeps (Orderly m) (portion utility ofBytes ofLines channels args) := by
  refine orderly_inputOf.bind fun input? => ?_
  cases input? with
  | none => exact keeps_pure
  | some bytes => exact orderly_writeBytes.bind fun _ => keeps_pure

theorem orderly_sortLines : Keeps (Orderly m) (sortLines channels args) := by
  refine orderly_inputOf.bind fun input? => ?_
  cases input? with
  | none => exact keeps_pure
  | some bytes => exact orderly_write.bind fun _ => keeps_pure

theorem orderly_count : Keeps (Orderly m) (count channels args) := by
  refine orderly_inputOf.bind fun input? => ?_
  cases input? with
  | none => exact keeps_pure
  | some bytes => exact orderly_write.bind fun _ => keeps_pure

theorem orderly_numbers : Keeps (Orderly m) (numbers channels args) := by
  have hrange : ∀ first step last, Keeps (Orderly m)
      (numbers.printRange channels first step last) :=
    fun _ _ _ => orderly_write.bind fun _ => keeps_pure
  unfold numbers
  split
  · exact hrange _ _ _
  · exact hrange _ _ _
  · exact hrange _ _ _
  · exact orderly_complain.bind fun _ => keeps_pure

theorem orderly_lastSegment : Keeps (Orderly m) (lastSegment channels args) := by
  unfold lastSegment
  split
  · exact orderly_complain.bind fun _ => keeps_pure
  · exact orderly_write.bind fun _ => keeps_pure

/-! ## All utilities -/

theorem orderly_find? {name : Text} {u : Utility} (h : find? name = some u) :
    Keeps (Orderly m) (u channels args) := by
  have hall : ∀ p ∈ table, Keeps (Orderly m) (p.2 channels args) := by
    simp only [table, List.forall_mem_cons]
    exact ⟨orderly_echo, orderly_printf, orderly_printDirectory, orderly_changeDirectory,
      orderly_concatenate, orderly_list, keeps_pure, keeps_pure, keeps_pure, orderly_pause,
      keeps_pure, orderly_test, orderly_bracketTest, orderly_exit, orderly_kill,
      orderly_makeDirectory, orderly_touch, orderly_remove, orderly_copy, orderly_move,
      orderly_removeDirectory, orderly_link, orderly_changeMode, orderly_portion,
      orderly_portion, orderly_sortLines, orderly_count, orderly_numbers, orderly_lastSegment,
      orderly_setVariables, orderly_unsetVariables, keeps_throw, keeps_throw, by simp⟩
  obtain ⟨p, hp, rfl⟩ := Option.map_eq_some_iff.mp h
  exact hall p (List.mem_of_find?_eq_some hp)

end Utility

end TemplateTree.Shell
