import TemplateTree.Proofs.Discovery.Canonical
import TemplateTree.Proofs.Files.Entering

/-!
# Times of what a walk finds

A walk takes the times of files where it comes by them, and the paths that it finds lead to
these files, with or without links on the way.  So a cutoff takes from its result the paths
whose files are older, and changes nothing else.
-/

namespace TemplateTree

open FileTree

/-- A file is older than a cutoff; its time is rounded up to seconds. -/
def FileTree.olderThan (t : FileTree) (cutoff : Nat) (p : Path) : Bool :=
  match t.node p with
  | .ok (.file _ _ time) => Instant.ceilSeconds time < cutoff
  | _ => false

/-- The path of something found leads there, and its time is the one of the file. -/
def Found.Tells (f : Found) (t : FileTree) : Prop :=
  ∃ item, t.Shows f.path item ∧ item.time? = f.modified

variable {t : FileTree} {o : WalkOptions} {dir : Path}

namespace Walk

variable {jump : Jump} {above : List (Place × Path)} {path target : Path} {place : Place}
  {x : Text} {n : Node} {es : List (Text × Node)} {found : List Found} {f : Found}
  {cutoff : Option Nat}

/-! ## A walk without its cutoff -/

theorem visit_dir : visit o jump above path place x (.dir es) =
    if o.excludedDirs.contains x then .ok []
    else do
      let inside ← below o jump above (Path.join path x) (place ++ [x]) es
      return ⟨Path.join path x, x, none⟩ :: inside := by
  rw [visit]
  rfl

mutual

theorem visit_modifiedAfter (n : Node) (above : List (Place × Path)) (path : Path)
    (place : Place) (x : Text) :
    visit { o with modifiedAfter := cutoff } jump above path place x n =
      visit o jump above path place x n := by
  cases n with
  | file => rfl
  | link => rfl
  | dir es => rw [visit_dir, visit_dir, below, below, visitAll_modifiedAfter es]

theorem visitAll_modifiedAfter (es : List (Text × Node)) (above : List (Place × Path))
    (path : Path) (place : Place) :
    visitAll { o with modifiedAfter := cutoff } jump above path place es =
      visitAll o jump above path place es := by
  cases es with
  | nil => rfl
  | cons e es =>
      obtain ⟨x, n⟩ := e
      rw [visitAll, visitAll, visit_modifiedAfter n, visitAll_modifiedAfter es]

end

theorem below_modifiedAfter : below { o with modifiedAfter := cutoff } jump above path place es =
    below o jump above path place es := by
  rw [below, below, visitAll_modifiedAfter]

theorem followLink_modifiedAfter (fuel : Nat) :
    followLink t { o with modifiedAfter := cutoff } fuel = followLink t o fuel := by
  induction fuel with
  | zero => rfl
  | succ fuel ih =>
      funext above path x place target
      simp only [followLink, ih, below_modifiedAfter]

/-- What a walk comes by does not depend on its cutoff. -/
theorem all_modifiedAfter : all t dir { o with modifiedAfter := cutoff } = all t dir o := by
  simp only [all, followLink_modifiedAfter, below_modifiedAfter]

/-! ## What is found -/

/-- A jump that finds what its paths tell. -/
def Truthful (t : FileTree) (jump : Jump) : Prop :=
  ∀ {above path place x target found}, t.Opens path place → place ∈ above.map Prod.fst →
    x.IsName → t.root.item? (place ++ [x]) = some (.link target) →
    jump above path x place target = .ok found → ∀ f ∈ found, f.Tells t

theorem exists_of_gather {bs : List Branch} (h : Branch.gather bs = .ok found) (hf : f ∈ found) :
    ∃ b ∈ bs, ∃ here, b.found = .ok here ∧ f ∈ here := by
  induction bs generalizing found with
  | nil =>
      obtain rfl : [] = found := Except.ok.inj h
      cases hf
  | cons b bs ih =>
      rw [Branch.gather] at h
      obtain ⟨here, hhere, h⟩ := except_bind_eq_ok h
      obtain ⟨rest, hrest, h⟩ := except_bind_eq_ok h
      obtain rfl : here ++ rest = found := Except.ok.inj h
      rcases List.mem_append.mp hf with hf | hf
      · exact ⟨b, List.mem_cons_self, here, hhere, hf⟩
      · obtain ⟨b', hb', result⟩ := ih hrest hf
        exact ⟨b', List.mem_cons_of_mem b hb', result⟩

theorem exists_of_below (h : below o jump above path place es = .ok found) (hf : f ∈ found) :
    ∃ e ∈ es, ∃ here, visit o jump ((place, path) :: above) path place e.1 e.2 = .ok here ∧
      f ∈ here := by
  rw [below, visitAll_eq_map, sorted_map _ fun e => ⟨rfl, rfl⟩] at h
  obtain ⟨b, hb, here, hhere, hf⟩ := exists_of_gather h hf
  obtain ⟨e, he, rfl⟩ := List.mem_map.mp hb
  exact ⟨e, mem_sortedEntries.mp he, here, hhere, hf⟩

theorem item?_of_get? (h : t.root.get? place = some n) : t.root.item? place = some n.item := by
  rw [Node.item?, h, Option.map_some]

theorem get?_entry {e : Text × Node} (hdistinct : (es.map Prod.fst).Nodup) (he : e ∈ es)
    (hget : t.root.get? place = some (.dir es)) : t.root.get? (place ++ [e.1]) = some e.2 := by
  rw [Node.get?_append, hget, Option.bind_some, Node.get?_dir_cons,
    Node.lookup_of_nodup hdistinct he, Option.bind_some, Node.get?_nil]

theorem tells_of_visit (hjump : Truthful t jump) (hn : n.WellNamed) :
    ∀ {above path place x found}, t.Opens path place → place ∈ above.map Prod.fst → x.IsName →
      t.root.get? (place ++ [x]) = some n → visit o jump above path place x n = .ok found →
      ∀ f ∈ found, f.Tells t := by
  -- along the tree: that the paths lead to their directories is handed down with the places
  induction hn with
  | @file bytes mode time =>
      intro above path place x found hopens _ hx hget h f hf
      rw [visit] at h
      obtain rfl := List.mem_singleton.mp (Except.ok.inj h ▸ hf)
      exact ⟨_, hopens.shows_entry hx (item?_of_get? hget) (by simp [Node.item]), rfl⟩
  | @link target =>
      intro above path place x found hopens habove hx hget h
      exact hjump hopens habove hx (item?_of_get? hget) h
  | @dir es distinct named below ih =>
      intro above path place x found hopens _ hx hget h f hf
      have hitem : t.root.item? (place ++ [x]) = some .dir := item?_of_get? hget
      have hinside := hopens.join_dir hx hitem
      rw [visit_dir] at h
      split at h
      case isTrue =>
        obtain rfl : [] = found := Except.ok.inj h
        cases hf
      case isFalse =>
        obtain ⟨inside, hbelow, h⟩ := except_bind_eq_ok h
        obtain rfl := Except.ok.inj h
        rcases List.mem_cons.mp hf with rfl | hf
        · exact ⟨.dir, hopens.shows_entry hx hitem (by simp), rfl⟩
        · obtain ⟨e, he, here, hvisit, hf⟩ := exists_of_below hbelow hf
          exact ih e he hinside List.mem_cons_self (named e he) (get?_entry distinct he hget)
            hvisit f hf

theorem tells_of_below (hjump : Truthful t jump) (hes : (Node.dir es).WellNamed)
    (hopens : t.Opens path place) (hget : t.root.get? place = some (.dir es))
    (h : below o jump above path place es = .ok found) : ∀ f ∈ found, f.Tells t := by
  intro f hf
  obtain ⟨e, he, here, hvisit, hf⟩ := exists_of_below h hf
  cases hes with
  | dir distinct named hbelow =>
      exact tells_of_visit hjump (hbelow e he) hopens List.mem_cons_self (named e he)
        (get?_entry distinct he hget) hvisit f hf

theorem truthful_passOver : Truthful t passOver := by
  intro above path place x target found _ _ _ _ h f hf
  obtain rfl : [] = found := Except.ok.inj h
  cases hf

/-- What is found at a link is what its target leads to: a file, or a directory that is not
on the way. -/
theorem exists_of_followLink {fuel : Nat}
    (h : followLink t o (fuel + 1) above path x place target = .ok found) (hf : f ∈ found) :
    ∃ q, Leads t.root true (maxLinks - 1) (if Path.isAbsolute target then [] else place)
        (wayOf target) (.found q) ∧
      ((∃ bytes mode time, t.root.item? q = some (.file bytes mode time) ∧
        f = ⟨Path.join path x, x, some time⟩) ∨
      ∃ es inside, t.root.get? q = some (.dir es) ∧ q ∉ above.map Prod.fst ∧
        below o (followLink t o fuel) above (Path.join path x) q es = .ok inside ∧
        (f = ⟨Path.join path x, x, none⟩ ∨ f ∈ inside)) := by
  rw [followLink] at h
  cases hfollow : follow t.root true (maxLinks - 1) (if Path.isAbsolute target then [] else place)
      (wayOf target) with
  | error e => simp [hfollow] at h
  | ok spot =>
      cases hat : t.nodeAt spot with
      | error e => simp [hfollow, hat] at h
      | ok n =>
          obtain ⟨q, rfl, hget⟩ := exists_of_nodeAt hat
          refine ⟨q, .of_follow hfollow, ?_⟩
          simp only [hfollow, hat, Spot.place] at h
          cases n with
          | file bytes mode time =>
              obtain rfl := List.mem_singleton.mp (Except.ok.inj h ▸ hf)
              exact .inl ⟨bytes, mode, time, item?_of_get? hget, rfl⟩
          | link => cases Except.ok.inj h ▸ hf
          | dir es =>
              dsimp only at h
              split at h
              case h_1 => cases h
              case h_2 hnone =>
                split at h
                case isTrue => cases Except.ok.inj h ▸ hf
                case isFalse =>
                  obtain ⟨inside, hbelow, h⟩ := except_bind_eq_ok h
                  obtain rfl := Except.ok.inj h
                  refine .inr ⟨es, inside, hget, fun hmem => ?_, hbelow, List.mem_cons.mp hf⟩
                  obtain ⟨a, ha, rfl⟩ := List.mem_map.mp hmem
                  simpa using List.find?_eq_none.mp hnone a ha

theorem truthful_followLink (ht : t.root.WellNamed) (fuel : Nat) :
    Truthful t (followLink t o fuel) := by
  induction fuel with
  | zero =>
      intro above path place x target found _ _ _ _ h f hf
      cases Except.ok.inj h ▸ hf
  | succ fuel ih =>
      intro above path place x target found hopens habove hx hlink h f hf
      obtain ⟨q, hleads, hcases⟩ := exists_of_followLink h hf
      -- a link without a target leads to its own directory, which is on the way
      have hself : target = [] → q = place := by
        rintro rfl
        cases hleads
        rfl
      rcases hcases with ⟨bytes, mode, time, hfile, rfl⟩ | ⟨es, inside, hget, hnew, hbelow, hf⟩
      · have htarget : target ≠ [] := fun hnil => by
          rw [hself hnil, hopens.dir] at hfile
          cases hfile
        exact ⟨_, hopens.shows_link hx hlink htarget hleads hfile, rfl⟩
      · have htarget : target ≠ [] := fun hnil => hnew (hself hnil ▸ habove)
        have hdir : t.root.item? q = some .dir := item?_of_get? hget
        rcases hf with rfl | hf
        · exact ⟨.dir, hopens.shows_link hx hlink htarget hleads hdir, rfl⟩
        · exact tells_of_below ih (ht.get? hget) (hopens.join_link hx hlink htarget hleads hdir)
            hget hbelow f hf

theorem tells_of_all (ht : t.root.WellNamed) (h : all t dir o = .ok found) :
    ∀ f ∈ found, f.Tells t := by
  intro f hf
  unfold all at h
  split at h
  case h_1 => cases h
  case h_2 place hplace =>
    split at h
    case h_2 => cases Except.ok.inj h ▸ hf
    case h_1 es hget =>
      have hdir : t.root.item? place = some .dir := item?_of_get? hget
      have hjump : Truthful t
          (if o.followLinks then followLink t o (countDirs t.root + 1) else passOver) := by
        split
        · exact truthful_followLink ht _
        · exact truthful_passOver
      exact tells_of_below hjump (ht.get? hget) (.of_place hplace hdir) hget h f hf

end Walk

/-! ## The cutoff -/

theorem walk_eq_map (cutoff : Option Nat) : walk t dir { o with modifiedAfter := cutoff } =
    (Walk.all t dir o).map fun found =>
      (found.filter { o with modifiedAfter := cutoff }.selects).map Found.path := by
  rw [walk, Walk.all_modifiedAfter]
  cases Walk.all t dir o <;> rfl

theorem WalkOptions.selects_modifiedAfter (o : WalkOptions) (cutoff : Nat) (f : Found) :
    { o with modifiedAfter := some cutoff }.selects f =
      ({ o with modifiedAfter := none }.selects f &&
        !(f.modified.any fun time => Instant.ceilSeconds time < cutoff)) := by
  unfold selects
  cases f.modified with
  | none => simp
  | some time =>
      have htime : decide (cutoff ≤ Instant.ceilSeconds time) =
          !decide (Instant.ceilSeconds time < cutoff) := by
        rw [← decide_not, decide_eq_decide, Nat.not_lt]
      simp [selectsTime, selectsName, htime]

theorem Found.Tells.olderThan_eq {f : Found} (h : f.Tells t) (hread : t.holds f.path = true)
    (cutoff : Nat) : t.olderThan cutoff f.path =
      f.modified.any fun time => Instant.ceilSeconds time < cutoff := by
  obtain ⟨item, hshows, htime⟩ := h
  cases hnode : t.node f.path with
  | error e => simp [FileTree.holds, hnode, Except.toOption] at hread
  | ok n =>
      rw [← htime, ← hshows.item_eq hnode, FileTree.olderThan, hnode]
      cases n <;> rfl

theorem walk_sublist {c c' : Option Nat} {paths : List Path}
    (hlater : ∀ time, { o with modifiedAfter := c' }.selectsTime time = true →
      { o with modifiedAfter := c }.selectsTime time = true)
    (h : walk t dir { o with modifiedAfter := c } = .ok paths) :
    ∃ paths', walk t dir { o with modifiedAfter := c' } = .ok paths' ∧ paths'.Sublist paths := by
  rw [walk_eq_map] at h ⊢
  cases hall : Walk.all t dir o with
  | error e =>
      rw [hall] at h
      cases h
  | ok found =>
      rw [hall] at h
      obtain rfl := Except.ok.inj h
      refine ⟨_, rfl, (List.monotone_filter_right found fun f hf => ?_).map Found.path⟩
      unfold WalkOptions.selects at hf ⊢
      cases hmodified : f.modified with
      | none => simpa [hmodified] using hf
      | some time =>
          simp only [hmodified, Bool.and_eq_true] at hf ⊢
          exact ⟨hf.1, hlater time hf.2⟩

/-- A cutoff takes away the files that are older, and nothing else. -/
theorem walk_modifiedAfter (ht : t.root.WellNamed) (cutoff : Nat)
    (hread : ∀ paths, walk t dir { o with modifiedAfter := none } = .ok paths →
      ∀ p ∈ paths, t.holds p = true) :
    walk t dir { o with modifiedAfter := some cutoff } =
      (walk t dir { o with modifiedAfter := none }).map fun paths =>
        paths.filter fun p => !t.olderThan cutoff p := by
  rw [walk_eq_map] at hread
  rw [walk_eq_map, walk_eq_map]
  cases hall : Walk.all t dir o with
  | error e => rfl
  | ok found =>
      rw [hall] at hread
      have hpaths := hread _ rfl
      have htells := Walk.tells_of_all ht hall
      refine congrArg Except.ok ?_
      dsimp only
      rw [List.filter_map, List.filter_filter]
      refine congrArg (List.map Found.path) (List.filter_congr fun f hf => ?_)
      rw [o.selects_modifiedAfter, Bool.and_comm]
      cases hsel : { o with modifiedAfter := none }.selects f with
      | false => simp
      | true =>
          have hmem := List.mem_map_of_mem (f := Found.path) (List.mem_filter.mpr ⟨hf, hsel⟩)
          simp [(htells f hf).olderThan_eq (hpaths _ hmem)]

end TemplateTree
