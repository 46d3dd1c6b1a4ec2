import Mathlib.Data.List.TakeWhile
import TemplateTree.Discovery.Walk
import TemplateTree.Proofs.Files.Shapes
import TemplateTree.Proofs.Text.Encoding

/-!
# The order of a walk

What lies below a directory has one order.  Where the ways to two entries part, a
directory and something else are told apart by their kinds, and the rest by the bytes of
the names; a directory comes before what it holds, with nothing in between.
-/

namespace TemplateTree

/-- What lies below a directory, by the names on the way there. -/
abbrev Contents := List Text → Option Item

namespace Contents

def under (c : Contents) (x : Text) : Contents :=
  fun names => c (x :: names)

/-- An entry of a directory comes before another one of the same directory. -/
inductive EntryBefore (dirsFirst : Bool) (c : Contents) (x y : Text) : Prop
  | byKind (hx : c [x] = some .dir ↔ dirsFirst = true)
      (hy : c [y] = some .dir ↔ dirsFirst = false)
  | byName (hkind : c [x] = some .dir ↔ c [y] = some .dir)
      (hname : Text.toBytes x < Text.toBytes y)

/-- What comes before what below a directory. -/
inductive Before (dirsFirst : Bool) : Contents → List Text → List Text → Prop
  | inside {c : Contents} {x : Text} {names : List Text} : Before dirsFirst c [] (x :: names)
  | apart {c : Contents} {x y : Text} {names names' : List Text}
      (h : EntryBefore dirsFirst c x y) : Before dirsFirst c (x :: names) (y :: names')
  | along {c : Contents} {x : Text} {names names' : List Text}
      (h : Before dirsFirst (c.under x) names names') :
      Before dirsFirst c (x :: names) (x :: names')

variable {dirsFirst : Bool} {c c' : Contents} {x y : Text} {names names' rest : List Text}

theorem EntryBefore.asymm (h : EntryBefore dirsFirst c x y) : ¬ EntryBefore dirsFirst c y x := by
  intro h'
  rcases h with ⟨hx, hy⟩ | ⟨hkind, hname⟩
  · rcases h' with ⟨hy', hx'⟩ | ⟨hkind', -⟩
    · cases dirsFirst <;> simp_all
    · cases dirsFirst <;> simp_all
  · rcases h' with ⟨hy', hx'⟩ | ⟨-, hname'⟩
    · cases dirsFirst <;> simp_all
    · exact List.lt_asymm hname hname'

theorem Before.asymm (h : Before dirsFirst c names names') : ¬ Before dirsFirst c names' names := by
  induction h with
  | inside => exact fun h' => by cases h'
  | apart h =>
      intro h'
      cases h' with
      | apart h' => exact h.asymm h'
      | along => exact h.asymm h
  | along _ ih =>
      intro h'
      cases h' with
      | apart h' => exact h'.asymm h'
      | along h' => exact ih h'

/-- What stands between an entry and something below it is below it too. -/
theorem Before.isPrefix_of_between (h : Before dirsFirst c names names')
    (h' : Before dirsFirst c names' (names ++ rest)) : names <+: names' := by
  induction h with
  | inside => exact List.nil_prefix
  | apart h =>
      cases h' with
      | apart h' => exact absurd h' h.asymm
      | along => exact absurd h h.asymm
  | along _ ih =>
      cases h' with
      | apart h' => exact absurd h' h'.asymm
      | along h' => exact List.cons_prefix_cons.mpr ⟨rfl, ih h'⟩

theorem Before.not_isPrefix (h : Before dirsFirst c names' names) : ¬ names <+: names' := by
  induction h with
  | inside => simp
  | apart h =>
      intro hprefix
      obtain ⟨rfl, -⟩ := List.cons_prefix_cons.mp hprefix
      exact h.asymm h
  | along _ ih => exact fun hprefix => ih (List.cons_prefix_cons.mp hprefix).2

theorem EntryBefore.congr (h : ∀ p, c' p = some .dir ↔ c p = some .dir)
    (hbefore : EntryBefore dirsFirst c x y) : EntryBefore dirsFirst c' x y := by
  rcases hbefore with ⟨hx, hy⟩ | ⟨hkind, hname⟩
  · exact .byKind ((h [x]).trans hx) ((h [y]).trans hy)
  · exact .byName ((h [x]).trans (hkind.trans (h [y]).symm)) hname

theorem Before.congr (h : ∀ p, c' p = some .dir ↔ c p = some .dir)
    (hbefore : Before dirsFirst c names names') : Before dirsFirst c' names names' := by
  induction hbefore generalizing c' with
  | inside => exact .inside
  | apart hentry => exact .apart (hentry.congr h)
  | @along c x names names' _ ih => exact .along (ih fun p => h (x :: p))

theorem nodup_of_pairwise {k : List (List Text)} (h : k.Pairwise (Before dirsFirst c)) :
    k.Nodup := by
  refine h.imp ?_
  rintro a b hbefore rfl
  exact hbefore.asymm hbefore

/-- Two lists in this order that hold the same are equal. -/
theorem eq_of_pairwise_before {k k' : List (List Text)} (h : k.Pairwise (Before dirsFirst c))
    (h' : k'.Pairwise (Before dirsFirst c)) (hmem : ∀ names, names ∈ k ↔ names ∈ k') : k = k' := by
  have hperm := (List.perm_ext_iff_of_nodup (nodup_of_pairwise h) (nodup_of_pairwise h')).mpr hmem
  exact hperm.eq_of_pairwise (fun _ _ _ _ hab hba => absurd hba hab.asymm) h h'

/-- In a list in this order, what lies below an entry follows directly after it. -/
theorem exists_inside_of_pairwise {k : List (List Text)} (h : k.Pairwise (Before dirsFirst c))
    (hmem : names ∈ k) : ∃ before inside after, k = before ++ names :: (inside ++ after) ∧
      (∀ n ∈ inside, names <+: n) ∧ ∀ n ∈ before ++ after, ¬ names <+: n := by
  obtain ⟨before, rest, rfl⟩ := List.append_of_mem hmem
  rw [List.pairwise_append, List.pairwise_cons] at h
  obtain ⟨-, ⟨hafter, hrest⟩, hbefore⟩ := h
  let below (n : List Text) : Bool := names.isPrefixOf n
  have hbelow : ∀ n, below n = true ↔ names <+: n := fun n => List.isPrefixOf_iff_prefix
  refine ⟨before, rest.takeWhile below, rest.dropWhile below,
    by rw [List.takeWhile_append_dropWhile], fun n hn => ?_, fun n hn => ?_⟩
  · exact (hbelow n).mp (List.mem_takeWhile_imp hn)
  · rcases List.mem_append.mp hn with hn | hn
    · exact (hbefore n hn names List.mem_cons_self).not_isPrefix
    · intro hprefix
      -- what ends the run comes before `n`, and so it would be below the entry as well
      cases hdrop : rest.dropWhile below with
      | nil => simp [hdrop] at hn
      | cons m after =>
          have hm : below m = false := by
            have hhead := List.head_dropWhile_not below (l := rest) (by simp [hdrop])
            simpa [hdrop] using hhead
          have hmrest : m ∈ rest := (List.dropWhile_sublist below).mem (by simp [hdrop])
          rw [hdrop] at hn
          rcases List.mem_cons.mp hn with rfl | hn
          · simp [(hbelow n).mpr hprefix] at hm
          · have hmn : Before dirsFirst c m n := by
              have hsub := hrest.sublist (List.dropWhile_sublist below)
              rw [hdrop, List.pairwise_cons] at hsub
              exact hsub.1 n hn
            obtain ⟨r, rfl⟩ := hprefix
            have hbetween := (hafter m hmrest).isPrefix_of_between hmn
            simp [(hbelow m).mpr hbetween] at hm

end Contents

end TemplateTree
