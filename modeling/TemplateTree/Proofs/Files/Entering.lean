import TemplateTree.Proofs.Files.Joining
import TemplateTree.Proofs.Run.Jobs

/-!
# Paths of entries

A path that leads to a directory leads on to the entries of the directory when their names
are joined to it, and behind the name of a link to where the target of the link leads.
-/

namespace TemplateTree.FileTree

variable {t : FileTree} {root : Node} {m links : Nat} {place p q : Place} {way rest : List Text}
  {spot : Spot} {path target : Path} {x : Text} {item : Item} {n : Node}

/-- A way on from a directory, after a way to it. -/
theorem Leads.append (h : Leads root true m place way (.found p)) (hp : root.item? p = some .dir)
    (hrest : Leads root true links p rest spot) :
    ∃ more, Leads root true more place (way ++ rest) spot := by
  generalize hfound : Spot.found p = found at h
  induction h with
  | done =>
      obtain rfl := Spot.found.inj hfound
      exact ⟨links, hrest⟩
  | here _ ih =>
      obtain ⟨more, hmore⟩ := ih hfound
      exact ⟨more, .here hmore⟩
  | up _ ih =>
      obtain ⟨more, hmore⟩ := ih hfound
      exact ⟨more, .up hmore⟩
  | free => cases hfound
  | dir hs hitem _ ih =>
      obtain ⟨more, hmore⟩ := ih hfound
      exact ⟨more, .dir hs hitem hmore⟩
  | file _ hitem =>
      obtain rfl := Spot.found.inj hfound
      simp [hp] at hitem
  | stop _ _ hlast => cases hlast
  | jump hs hitem _ htarget _ ih =>
      obtain ⟨more, hmore⟩ := ih hfound
      exact ⟨more + 1, .jump hs hitem (by simp) htarget (List.append_assoc _ _ _ ▸ hmore)⟩

def startOf (t : FileTree) (p : Path) : Place :=
  if Path.isAbsolute p then [] else t.current

/-- A path leads to an item, if there are not too many links on the way. -/
def Shows (t : FileTree) (p : Path) (item : Item) : Prop :=
  ∃ links place, Leads t.root true links (t.startOf p) (wayOf p) (.found place) ∧
    t.root.item? place = some item

/-- A path leads to a directory, and with more segments to wherever these lead from there. -/
structure Opens (t : FileTree) (path : Path) (place : Place) : Prop where
  ne_nil : path ≠ []
  dir : t.root.item? place = some .dir
  on : ∀ {links way spot}, way ≠ [] → Leads t.root true links place way spot →
    ∃ more, Leads t.root true more (t.startOf path) (Path.parts path ++ way) spot

theorem exists_of_nodeAt (h : t.nodeAt spot = .ok n) :
    ∃ q, spot = .found q ∧ t.root.get? q = some n := by
  cases spot with
  | free => cases h
  | found q =>
      rw [nodeAt] at h
      cases hget : t.root.get? q with
      | none => simp [hget] at h
      | some n' =>
          obtain rfl : n' = n := by simpa [hget] using h
          exact ⟨q, rfl, hget⟩

theorem Shows.item_eq (h : t.Shows path item) (hnode : t.node path = .ok n) : n.item = item := by
  obtain ⟨links, place, hleads, hitem⟩ := h
  obtain ⟨spot, hspot, hat⟩ := except_bind_eq_ok hnode
  obtain ⟨q, rfl, hget⟩ := exists_of_nodeAt hat
  obtain rfl : place = q := hleads.place_eq (spotOf_eq_ok_iff.mp hspot).2 fun _ _ => Iff.rfl
  rw [Node.item?, hget] at hitem
  exact Option.some.inj hitem

theorem Opens.of_place (hplace : t.place path = .ok p) (hdir : t.root.item? p = some .dir) :
    t.Opens path p := by
  obtain ⟨hcheck, hleads⟩ := spotOf_eq_ok_iff.mp (place_eq_ok_iff.mp hplace)
  refine ⟨ne_nil_of_checkPath hcheck, hdir, fun hway hrest => ?_⟩
  obtain ⟨more, hmore⟩ := hleads.append hdir hrest
  refine ⟨more, ?_⟩
  rcases wayOf_eq path with hparts | hparts
  · rwa [hparts] at hmore
  · rw [hparts, List.append_assoc, List.singleton_append, ← follow_eq_ok_iff,
      follow_append_dot hway] at hmore
    exact .of_follow hmore

theorem parts_join_of_isName (hx : x.IsName) :
    Path.parts (Path.join path x) = Path.parts path ++ [x] := by
  rw [Path.parts_join (Path.isAbsolute_of_isName hx), Path.parts_of_isName hx]

namespace Opens

theorem startOf_join (h : t.Opens path place) (hx : x.IsName) :
    t.startOf (Path.join path x) = t.startOf path := by
  rw [startOf, startOf, Path.isAbsolute_join h.ne_nil (Path.isAbsolute_of_isName hx)]

theorem shows_join (h : t.Opens path place) (hx : x.IsName)
    (hleads : Leads t.root true links place [x] (.found q)) (hitem : t.root.item? q = some item) :
    t.Shows (Path.join path x) item := by
  obtain ⟨more, hmore⟩ := h.on (List.cons_ne_nil x []) hleads
  have hlast : (Path.join path x).getLast? ≠ some '/' := by
    rw [Path.getLast?_join hx.1]
    exact fun hlast => hx.2.1 (List.mem_of_getLast? hlast)
  refine ⟨more, q, ?_, hitem⟩
  rwa [h.startOf_join hx, wayOf_of_getLast? hlast, parts_join_of_isName hx]

theorem shows_entry (h : t.Opens path place) (hx : x.IsName)
    (hitem : t.root.item? (place ++ [x]) = some item) (hlink : ∀ target, item ≠ .link target) :
    t.Shows (Path.join path x) item := by
  have hleads : Leads t.root true 0 place [x] (.found (place ++ [x])) :=
    leads_names (by simpa using isStep_of_isName hx) hitem hlink
  exact h.shows_join hx hleads hitem

theorem join (h : t.Opens path place) (hx : x.IsName) (hdir : t.root.item? q = some .dir)
    (hon : ∀ {links way spot}, Leads t.root true links q way spot →
      ∃ more, Leads t.root true more place (x :: way) spot) : t.Opens (Path.join path x) q := by
  refine ⟨Path.join_ne_nil hx.1, hdir, fun {links way spot} _ hway => ?_⟩
  obtain ⟨left, hleft⟩ := hon hway
  obtain ⟨more, hmore⟩ := h.on (List.cons_ne_nil x way) hleft
  refine ⟨more, ?_⟩
  rwa [h.startOf_join hx, parts_join_of_isName hx, List.append_assoc, List.singleton_append]

theorem join_dir (h : t.Opens path place) (hx : x.IsName)
    (hitem : t.root.item? (place ++ [x]) = some .dir) :
    t.Opens (Path.join path x) (place ++ [x]) :=
  h.join hx hitem fun {links _ _} hway => ⟨links, .dir (isStep_of_isName hx) hitem hway⟩

theorem shows_link (h : t.Opens path place) (hx : x.IsName)
    (hlink : t.root.item? (place ++ [x]) = some (.link target)) (htarget : target ≠ [])
    (hleads : Leads t.root true links (if Path.isAbsolute target then [] else place)
      (wayOf target) (.found q)) (hitem : t.root.item? q = some item) :
    t.Shows (Path.join path x) item := by
  rw [← List.append_nil (wayOf target)] at hleads
  exact h.shows_join hx (.jump (isStep_of_isName hx) hlink (by simp) htarget hleads) hitem

theorem join_link (h : t.Opens path place) (hx : x.IsName)
    (hlink : t.root.item? (place ++ [x]) = some (.link target)) (htarget : target ≠ [])
    (hleads : Leads t.root true links (if Path.isAbsolute target then [] else place)
      (wayOf target) (.found q)) (hdir : t.root.item? q = some .dir) :
    t.Opens (Path.join path x) q := by
  refine h.join hx hdir fun hway => ?_
  obtain ⟨more, hmore⟩ := hleads.append hdir hway
  exact ⟨more + 1, .jump (isStep_of_isName hx) hlink (by simp) htarget hmore⟩

end Opens

end TemplateTree.FileTree
