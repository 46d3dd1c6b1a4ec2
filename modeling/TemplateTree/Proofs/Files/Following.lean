import TemplateTree.Proofs.Files.Soundness

/-!
# Following a way

Where a way leads is told by what is at the places that it comes by: a directory is
entered, a link is replaced by the way that it names.  A way therefore leads to the
same place in any tree that keeps its directories and links.
-/

namespace TemplateTree.FileTree

/-- A segment that is looked up in a directory. -/
def IsStep (s : Text) : Prop :=
  s ≠ ['.'] ∧ s ≠ ['.', '.'] ∧ (Text.toBytes s).length ≤ maxNameBytes

/-- Where a way from a place leads, with at most so many links on it. -/
inductive Leads (root : Node) (last : Bool) : Nat → Place → List Text → Spot → Prop
  | done {links : Nat} {place : Place} : Leads root last links place [] (.found place)
  | here {links : Nat} {place : Place} {rest : List Text} {spot : Spot}
      (next : Leads root last links place rest spot) :
      Leads root last links place (['.'] :: rest) spot
  | up {links : Nat} {place : Place} {rest : List Text} {spot : Spot}
      (next : Leads root last links place.dropLast rest spot) :
      Leads root last links place (['.', '.'] :: rest) spot
  | free {links : Nat} {place : Place} {s : Text} (hs : IsStep s)
      (hitem : root.item? (place ++ [s]) = none) :
      Leads root last links place [s] (.free (place ++ [s]))
  | dir {links : Nat} {place : Place} {s : Text} {rest : List Text} {spot : Spot} (hs : IsStep s)
      (hitem : root.item? (place ++ [s]) = some .dir)
      (next : Leads root last links (place ++ [s]) rest spot) :
      Leads root last links place (s :: rest) spot
  | file {links : Nat} {place : Place} {s : Text} {bytes : Bytes} {mode : Nat} {time : Instant}
      (hs : IsStep s) (hitem : root.item? (place ++ [s]) = some (.file bytes mode time)) :
      Leads root last links place [s] (.found (place ++ [s]))
  | stop {links : Nat} {place : Place} {s : Text} {target : Path} (hs : IsStep s)
      (hitem : root.item? (place ++ [s]) = some (.link target)) (hlast : last = false) :
      Leads root last links place [s] (.found (place ++ [s]))
  | jump {links : Nat} {place : Place} {s : Text} {rest : List Text} {target : Path} {spot : Spot}
      (hs : IsStep s) (hitem : root.item? (place ++ [s]) = some (.link target))
      (hlast : ¬ (rest = [] ∧ last = false)) (htarget : target ≠ [])
      (next : Leads root last links (if Path.isAbsolute target then [] else place)
        (wayOf target ++ rest) spot) :
      Leads root last (links + 1) place (s :: rest) spot

variable {root root' : Node} {last : Bool} {links : Nat} {place place' p q : Place}
  {s : Text} {way rest : List Text} {spot spot' : Spot}
  {jump : Place → List Text → Except FileError Spot}

theorem followWith_step (hs : IsStep s) : followWith jump root last place (s :: rest) =
    match root.item? (place ++ [s]) with
    | none => if rest = [] then .ok (.free (place ++ [s])) else .error .notFound
    | some .dir => followWith jump root last (place ++ [s]) rest
    | some (.file ..) => if rest = [] then .ok (.found (place ++ [s])) else .error .notDirectory
    | some (.link target) =>
      if rest = [] && !last then .ok (.found (place ++ [s]))
      else if target = [] then .error .notFound
      else jump (if Path.isAbsolute target then [] else place) (wayOf target ++ rest) := by
  obtain ⟨hdot, hup, hlen⟩ := hs
  rw [followWith, if_neg hdot, if_neg hup, if_neg (by omega), Node.item?]
  cases root.get? (place ++ [s]) with
  | none => rfl
  | some n => cases n <;> rfl

theorem followWith_not_step (hdot : s ≠ ['.']) (hup : s ≠ ['.', '.']) (hs : ¬ IsStep s) :
    followWith jump root last place (s :: rest) = .error .nameTooLong := by
  have hlen : (Text.toBytes s).length > maxNameBytes := by
    by_contra hlen
    exact hs ⟨hdot, hup, by omega⟩
  rw [followWith, if_neg hdot, if_neg hup, if_pos hlen]

/-- A way from a link is followed with one link less. -/
theorem leads_of_followWith
    (hjump : ∀ place way spot, jump place way = .ok spot →
      ∃ n, links = n + 1 ∧ Leads root last n place way spot)
    (h : followWith jump root last place way = .ok spot) :
    Leads root last links place way spot := by
  induction way generalizing place with
  | nil =>
      obtain rfl : Spot.found place = spot := by simpa [followWith] using h
      exact .done
  | cons s rest ih =>
      by_cases hdot : s = ['.']
      · subst hdot
        exact .here (ih (by simpa [followWith] using h))
      by_cases hup : s = ['.', '.']
      · subst hup
        exact .up (ih (by simpa [followWith] using h))
      by_cases hs : IsStep s
      swap
      · simp [followWith_not_step hdot hup hs] at h
      rw [followWith_step hs] at h
      cases hitem : root.item? (place ++ [s]) with
      | none =>
          simp only [hitem] at h
          split at h
          case isTrue hrest =>
            obtain rfl : Spot.free (place ++ [s]) = spot := by simpa using h
            subst hrest
            exact .free hs hitem
          case isFalse => simp at h
      | some item =>
          cases item with
          | dir => exact .dir hs hitem (ih (by simpa [hitem] using h))
          | file bytes mode time =>
              simp only [hitem] at h
              split at h
              case isTrue hrest =>
                obtain rfl : Spot.found (place ++ [s]) = spot := by simpa using h
                subst hrest
                exact .file hs hitem
              case isFalse => simp at h
          | link target =>
              simp only [hitem] at h
              split at h
              case isTrue hstop =>
                obtain ⟨rfl, hlast⟩ : rest = [] ∧ last = false := by simpa using hstop
                obtain rfl : Spot.found (place ++ [s]) = spot := by simpa using h
                exact .stop hs hitem hlast
              case isFalse hgo =>
                split at h
                case isTrue => simp at h
                case isFalse htarget =>
                  obtain ⟨n, rfl, hnext⟩ := hjump _ _ _ h
                  exact .jump hs hitem (by simpa using hgo) htarget hnext

theorem Leads.of_follow (h : follow root last links place way = .ok spot) :
    Leads root last links place way spot := by
  induction links generalizing place way spot with
  | zero => exact leads_of_followWith (by simp) h
  | succ n ih => exact leads_of_followWith (fun _ _ _ hnext => ⟨n, rfl, ih hnext⟩) h

theorem follow_eq : follow root last links place way =
    followWith (match links with
      | 0 => fun _ _ => .error .tooManyLinks
      | n + 1 => follow root last n) root last place way := by
  cases links <;> rfl

theorem Leads.follow_eq_ok (h : Leads root last links place way spot) :
    follow root last links place way = .ok spot := by
  induction h with
  | done => rw [follow_eq, followWith]
  | here _ ih => rw [follow_eq, followWith, if_pos rfl, ← follow_eq, ih]
  | up _ ih => rw [follow_eq, followWith, if_neg (by simp), if_pos rfl, ← follow_eq, ih]
  | free hs hitem => rw [follow_eq, followWith_step hs, hitem]; rfl
  | dir hs hitem _ ih =>
      rw [follow_eq, followWith_step hs, hitem]
      exact follow_eq.symm.trans ih
  | file hs hitem => rw [follow_eq, followWith_step hs, hitem]; rfl
  | stop hs hitem hlast => rw [follow_eq, followWith_step hs, hitem, hlast]; rfl
  | jump hs hitem hlast htarget _ ih =>
      rw [follow, followWith_step hs, hitem]
      simp only [htarget, if_false, ih]
      rw [if_neg (by simpa using hlast)]

theorem follow_eq_ok_iff :
    follow root last links place way = .ok spot ↔ Leads root last links place way spot :=
  ⟨.of_follow, Leads.follow_eq_ok⟩

/-! ## Trees that keep directories and links -/

/-- A tree that has the directories of another one, and exactly its links. -/
structure Keeps (root root' : Node) : Prop where
  dirs : ∀ p, root.item? p = some .dir → root'.item? p = some .dir
  links : ∀ p target, root'.item? p = some (.link target) ↔ root.item? p = some (.link target)

theorem Keeps.refl (root : Node) : Keeps root root :=
  ⟨fun _ h => h, fun _ _ => .rfl⟩

theorem Keeps.trans {root'' : Node} (h : Keeps root root') (h' : Keeps root' root'') :
    Keeps root root'' :=
  ⟨fun p hp => h'.dirs p (h.dirs p hp), fun p t => (h'.links p t).trans (h.links p t)⟩

/-- What a place is for a way that ends there. -/
def spotAt (root : Node) (p : Place) : Spot :=
  if root.item? p = none then .free p else .found p

@[simp] theorem spotAt_place : (spotAt root p).place = p := by
  unfold spotAt
  split <;> rfl

theorem item?_root_of_some {item : Item} (h : root.item? (place ++ [s]) = some item) :
    root.item? [] = some .dir :=
  Node.item?_dir_of_append (p := []) (q := place ++ [s]) (Option.isSome_of_eq_some h) (by simp)

theorem item?_dropLast (h : root.item? place = some .dir) :
    root.item? place.dropLast = some .dir := by
  rcases List.eq_nil_or_concat place with rfl | ⟨p, x, rfl⟩
  · exact h
  · rw [List.concat_eq_append] at h ⊢
    rw [List.dropLast_concat]
    exact Node.item?_dir_of_append (Option.isSome_of_eq_some h) (List.cons_ne_nil _ _)

theorem leads_spotAt (hs : IsStep s)
    (hlink : ∀ target, root.item? (place ++ [s]) ≠ some (.link target)) :
    Leads root last links place [s] (spotAt root (place ++ [s])) := by
  cases hitem : root.item? (place ++ [s]) with
  | none =>
      have hspot : spotAt root (place ++ [s]) = .free (place ++ [s]) := by simp [spotAt, hitem]
      rw [hspot]
      exact .free hs hitem
  | some item =>
      have hspot : spotAt root (place ++ [s]) = .found (place ++ [s]) := by simp [spotAt, hitem]
      rw [hspot]
      cases item with
      | file => exact .file hs hitem
      | dir => exact .dir hs hitem .done
      | link target => exact absurd hitem (hlink target)

theorem Leads.keeps (h : Leads root last links place way spot) (hk : Keeps root root')
    (hstart : root.item? place = some .dir) :
    Leads root' last links place way (spotAt root' spot.place) := by
  induction h with
  | @done n place =>
      have hplace : spotAt root' (Spot.found place).place = .found place := by
        simp [spotAt, Spot.place, hk.dirs _ hstart]
      rw [hplace]
      exact .done
  | here _ ih => exact .here (ih hstart)
  | up _ ih => exact .up (ih (item?_dropLast hstart))
  | @dir n place s rest spot hs hitem _ ih => exact .dir hs (hk.dirs _ hitem) (ih hitem)
  | stop hs hitem hlast =>
      have hitem' := (hk.links _ _).mpr hitem
      simpa [spotAt, Spot.place, hitem'] using Leads.stop hs hitem' hlast
  | jump hs hitem hlast htarget _ ih =>
      refine .jump hs ((hk.links _ _).mpr hitem) hlast htarget (ih ?_)
      split
      · exact item?_root_of_some hitem
      · exact hstart
  -- what is no link may have become a file or a directory
  | @free n place s hs hitem =>
      exact leads_spotAt hs fun target hlink => by simp [(hk.links _ _).mp hlink] at hitem
  | @file n place s _ _ _ hs hitem =>
      exact leads_spotAt hs fun target hlink => by simp [(hk.links _ _).mp hlink] at hitem

theorem Leads.eq_spotAt (h : Leads root last links place way spot)
    (hstart : root.item? place = some .dir) : spot = spotAt root spot.place := by
  have hsame := (h.keeps (.refl root) hstart).follow_eq_ok
  exact Except.ok.inj (h.follow_eq_ok.symm.trans hsame)

/-! ## What a way begins with -/

theorem leads_dot_iff :
    Leads root last links place (['.'] :: rest) spot ↔ Leads root last links place rest spot := by
  refine ⟨fun h => ?_, .here⟩
  cases h with
  | here next => exact next
  | free hs | dir hs | file hs | stop hs | jump hs => exact absurd rfl hs.1

theorem leads_up_iff : Leads root last links place (['.', '.'] :: rest) spot ↔
    Leads root last links place.dropLast rest spot := by
  refine ⟨fun h => ?_, .up⟩
  cases h with
  | up next => exact next
  | free hs | dir hs | file hs | stop hs | jump hs => exact absurd rfl hs.2.1

theorem Leads.after_step (h : Leads root last links place (s :: rest) spot) (hs : IsStep s)
    (hlink : ∀ target, root.item? (place ++ [s]) ≠ some (.link target)) :
    rest = [] ∧ spot.place = place ++ [s] ∨ Leads root last links (place ++ [s]) rest spot := by
  cases h with
  | here => exact absurd rfl hs.1
  | up => exact absurd rfl hs.2.1
  | free | file => exact .inl ⟨rfl, rfl⟩
  | dir _ _ next => exact .inr next
  | stop _ hitem => exact absurd hitem (hlink _)
  | jump _ hitem => exact absurd hitem (hlink _)

theorem Leads.place_of_step (h : Leads root last links place [s] spot) (hs : IsStep s)
    (hlink : ∀ target, root.item? (place ++ [s]) ≠ some (.link target)) :
    spot.place = place ++ [s] := by
  rcases h.after_step hs hlink with ⟨-, hplace⟩ | next
  · exact hplace
  · cases next
    rfl

/-- A link is where a way ends, or it is followed with one link less. -/
theorem Leads.after_link {target : Path} (h : Leads root last links place (s :: rest) spot)
    (hs : IsStep s) (hlink : root.item? (place ++ [s]) = some (.link target)) :
    rest = [] ∧ last = false ∧ spot.place = place ++ [s] ∨
      ¬ (rest = [] ∧ last = false) ∧ ∃ n, Leads root last n
        (if Path.isAbsolute target then [] else place) (wayOf target ++ rest) spot := by
  cases h with
  | here => exact absurd rfl hs.1
  | up => exact absurd rfl hs.2.1
  | free _ hitem | dir _ hitem | file _ hitem => simp [hlink] at hitem
  | stop _ _ hlast => exact .inl ⟨rfl, hlast, rfl⟩
  | @jump n _ _ _ _ _ _ hitem hgo _ next =>
      obtain rfl := Item.link.inj (Option.some.inj (hlink.symm.trans hitem))
      exact .inr ⟨hgo, n, next⟩

/-- Wherever a way leads in two trees with the same links, it is the same place. -/
theorem Leads.place_eq {links' : Nat} (h : Leads root last links place way spot)
    (h' : Leads root' last links' place way spot')
    (hlinks : ∀ p target, root'.item? p = some (.link target) ↔
      root.item? p = some (.link target)) : spot.place = spot'.place := by
  have hnone : ∀ {p : Place}, (∀ target, root.item? p ≠ some (.link target)) →
      ∀ target, root'.item? p ≠ some (.link target) :=
    fun hno target hlink => hno target ((hlinks _ _).mp hlink)
  induction h generalizing links' with
  | done =>
      cases h'
      rfl
  | here _ ih => exact ih (leads_dot_iff.mp h')
  | up _ ih => exact ih (leads_up_iff.mp h')
  | free hs hitem | file hs hitem =>
      exact (h'.place_of_step hs (hnone (by simp [hitem]))).symm
  | dir hs hitem next ih =>
      rcases h'.after_step hs (hnone (by simp [hitem])) with ⟨rfl, hplace⟩ | next'
      · cases next
        exact hplace.symm
      · exact ih next'
  | stop hs hitem hlast =>
      rcases h'.after_link hs ((hlinks _ _).mpr hitem) with ⟨-, -, hplace⟩ | ⟨hgo, -⟩
      · exact hplace.symm
      · exact absurd ⟨rfl, hlast⟩ hgo
  | jump hs hitem hgo _ _ ih =>
      rcases h'.after_link hs ((hlinks _ _).mpr hitem) with ⟨hend, hlast, -⟩ | ⟨-, n, next'⟩
      · exact absurd ⟨hend, hlast⟩ hgo
      · exact ih next'

/-! ## Ways in parts -/

/-- A way to a directory and on from there. -/
theorem Leads.follow_append (h : Leads root true links place way (.found p))
    (hp : root.item? p = some .dir) :
    ∃ left, ∀ last rest, (rest ≠ [] ∨ last = true) →
      follow root last links place (way ++ rest) = follow root last left p rest := by
  generalize hspot : Spot.found p = spot at h
  induction h with
  | @done n place =>
      obtain rfl : p = place := by simpa using hspot
      exact ⟨n, fun _ _ _ => rfl⟩
  | here _ ih =>
      obtain ⟨left, hleft⟩ := ih hspot
      refine ⟨left, fun last rest hrest => ?_⟩
      rw [List.cons_append, follow_eq, followWith, if_pos rfl, ← follow_eq]
      exact hleft last rest hrest
  | up _ ih =>
      obtain ⟨left, hleft⟩ := ih hspot
      refine ⟨left, fun last rest hrest => ?_⟩
      rw [List.cons_append, follow_eq, followWith, if_neg (by simp), if_pos rfl, ← follow_eq]
      exact hleft last rest hrest
  | free => cases hspot
  | dir hs hitem _ ih =>
      obtain ⟨left, hleft⟩ := ih hspot
      refine ⟨left, fun last rest hrest => ?_⟩
      rw [List.cons_append, follow_eq, followWith_step hs, hitem]
      exact follow_eq.symm.trans (hleft last rest hrest)
  | file hs hitem =>
      obtain rfl := Spot.found.inj hspot
      simp [hp] at hitem
  | stop _ _ hstop => cases hstop
  | @jump _ _ _ more _ _ hs hitem hgo htarget _ ih =>
      obtain ⟨left, hleft⟩ := ih hspot
      refine ⟨left, fun last rest hrest => ?_⟩
      rw [List.cons_append, follow, followWith_step hs, hitem]
      have hnot : ¬ (more ++ rest = [] ∧ last = false) := fun hnil => by
        rw [List.append_eq_nil_iff] at hnil
        rcases hrest with hrest | hrest
        · exact hrest hnil.1.2
        · simp [hrest] at hnil
      simp only [htarget, if_false]
      rw [if_neg (by simpa using hnot), ← List.append_assoc]
      exact hleft last rest hrest

theorem followWith_append_dot (hrest : rest ≠ [])
    (hjump : ∀ place way, jump place (way ++ ['.'] :: rest) = jump place (way ++ rest)) :
    followWith jump root last place (way ++ ['.'] :: rest) =
      followWith jump root last place (way ++ rest) := by
  induction way generalizing place with
  | nil => rw [List.nil_append, followWith, if_pos rfl, List.nil_append]
  | cons s way ih =>
      rw [List.cons_append, List.cons_append]
      by_cases hdot : s = ['.']
      · rw [followWith, if_pos hdot, ih, followWith, if_pos hdot]
      by_cases hup : s = ['.', '.']
      · rw [followWith, if_neg hdot, if_pos hup, ih, followWith, if_neg hdot, if_pos hup]
      by_cases hs : IsStep s
      · rw [followWith_step hs, followWith_step hs]
        simp [hrest, ih, ← List.append_assoc, hjump]
      · rw [followWith_not_step hdot hup hs, followWith_not_step hdot hup hs]

/-- A dot before more segments is passed over. -/
theorem follow_append_dot (hrest : rest ≠ []) :
    follow root last links place (way ++ ['.'] :: rest) =
      follow root last links place (way ++ rest) := by
  induction links generalizing place way with
  | zero => exact followWith_append_dot hrest fun _ _ => rfl
  | succ n ih => exact followWith_append_dot hrest fun _ _ => ih

/-- Names on the way to something that is no link. -/
theorem leads_names (hsteps : ∀ s ∈ way, IsStep s) {item : Item}
    (hitem : root.item? (place ++ way) = some item)
    (hlink : ∀ target, item ≠ .link target) :
    Leads root last links place way (.found (place ++ way)) := by
  induction way generalizing place with
  | nil => simpa using Leads.done
  | cons s rest ih =>
      have hs := hsteps s List.mem_cons_self
      rw [List.append_cons] at hitem ⊢
      have hnext := ih (fun t ht => hsteps t (List.mem_cons_of_mem _ ht)) hitem
      cases rest with
      | cons t rest =>
          exact .dir hs (Node.item?_dir_of_append (Option.isSome_of_eq_some hitem) (by simp)) hnext
      | nil =>
          rw [List.append_nil] at hitem ⊢
          cases item with
          | file => exact .file hs hitem
          | dir => exact .dir hs hitem .done
          | link target => exact absurd rfl (hlink target)

end TemplateTree.FileTree
