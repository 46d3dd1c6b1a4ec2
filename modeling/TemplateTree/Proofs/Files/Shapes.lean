import TemplateTree.Proofs.Files.Reading

/-!
# Trees of one shape

Where a path leads, and whether something can be written or made there, depends on the
directories and links of a tree and on where its files are, but not on what is in them, nor on
the order in which directories list their entries.
-/

namespace TemplateTree

/-- What an item is, apart from what is in a file. -/
def Item.shape : Item → Item
  | .file _ _ _ => .file [] 0 0
  | i => i

namespace FileTree

/-- Trees that differ at most in what is in their files. -/
structure SameShape (t u : FileTree) : Prop where
  current : u.current = t.current
  shape : ∀ p, (u.root.item? p).map Item.shape = (t.root.item? p).map Item.shape

variable {t u t' : FileTree} {root root' : Node} {last : Bool} {links : Nat} {place : Place}
  {way : List Text} {jump jump' : Place → List Text → Except FileError Spot} {p : Path}
  {q : Place} {now : Instant} {bytes : Bytes}

theorem SameShape.refl (t : FileTree) : SameShape t t :=
  ⟨rfl, fun _ => rfl⟩

theorem SameShape.symm (h : SameShape t u) : SameShape u t :=
  ⟨h.current.symm, fun p => (h.shape p).symm⟩

theorem SameShape.trans (h : SameShape t u) (h' : SameShape u t') : SameShape t t' :=
  ⟨h'.current.trans h.current, fun p => (h'.shape p).trans (h.shape p)⟩

theorem followWith_of_shape
    (hshape : ∀ p, (root'.item? p).map Item.shape = (root.item? p).map Item.shape)
    (hjump : ∀ place way, jump' place way = jump place way) :
    followWith jump' root' last place way = followWith jump root last place way := by
  induction way generalizing place with
  | nil => rfl
  | cons s rest ih =>
      by_cases hdot : s = ['.']
      · rw [followWith, followWith, if_pos hdot, if_pos hdot, ih]
      · by_cases hup : s = ['.', '.']
        · rw [followWith, followWith, if_neg hdot, if_neg hdot, if_pos hup, if_pos hup, ih]
        · by_cases hs : IsStep s
          · -- the step comes to items of one shape, and files of one shape are not told apart
            have hitem := hshape (place ++ [s])
            rw [followWith_step hs, followWith_step hs]
            cases h : root.item? (place ++ [s]) with
            | none =>
                cases h' : root'.item? (place ++ [s]) with
                | none => rfl
                | some i => simp [h, h'] at hitem
            | some i =>
                cases h' : root'.item? (place ++ [s]) with
                | none => simp [h, h'] at hitem
                | some i' =>
                    cases i with
                    | file bytes mode time =>
                        cases i' with
                        | file => rfl
                        | _ => simp [h, h', Item.shape] at hitem
                    | dir =>
                        cases i' with
                        | dir => simp [ih]
                        | _ => simp [h, h', Item.shape] at hitem
                    | link target =>
                        cases i' with
                        | link target' =>
                            obtain rfl : target' = target := by
                              simpa [h, h', Item.shape] using hitem
                            simp [hjump]
                        | _ => simp [h, h', Item.shape] at hitem
          · rw [followWith_not_step hdot hup hs, followWith_not_step hdot hup hs]

theorem follow_of_shape
    (hshape : ∀ p, (root'.item? p).map Item.shape = (root.item? p).map Item.shape) :
    follow root' last links place way = follow root last links place way := by
  induction links generalizing place way with
  | zero => exact followWith_of_shape hshape fun _ _ => rfl
  | succ links ih => exact followWith_of_shape hshape fun _ _ => ih

namespace SameShape

variable (h : SameShape t u)
include h

theorem spotOf_eq : u.spotOf last p way = t.spotOf last p way := by
  unfold spotOf
  rw [h.current, follow_of_shape h.shape]

theorem spot_eq : u.spot p = t.spot p :=
  h.spotOf_eq

theorem place_eq : u.place p = t.place p := by
  rw [place, place, h.spot_eq]

theorem item?_eq_dir_iff : u.root.item? q = some .dir ↔ t.root.item? q = some .dir := by
  have hshape := h.shape q
  cases hu : u.root.item? q with
  | none => cases ht : t.root.item? q <;> simp_all
  | some i =>
      cases ht : t.root.item? q with
      | none => simp_all
      | some j => cases i <;> cases j <;> simp_all [Item.shape]

theorem exists_file (ht : ∃ bytes mode time, t.root.item? q = some (.file bytes mode time)) :
    ∃ bytes mode time, u.root.item? q = some (.file bytes mode time) := by
  obtain ⟨bytes, mode, time, ht⟩ := ht
  have hshape := h.shape q
  cases hu : u.root.item? q with
  | none => simp [hu, ht] at hshape
  | some i => cases i <;> simp_all [Item.shape]

end SameShape

/-- A path leads to a directory. -/
theorem hasDir_iff : t.hasDir p = true ↔
    ∃ q, t.spot p = .ok (.found q) ∧ t.root.item? q = some .dir := by
  unfold hasDir node
  cases hspot : t.spot p with
  | error e => simp [bind, Except.bind, Except.toOption]
  | ok spot =>
      cases spot with
      | free q => simp [bind, Except.bind, nodeAt, Except.toOption]
      | found q =>
          cases hget : t.root.get? q with
          | none => simp [bind, Except.bind, nodeAt, Except.toOption, Node.item?, hget]
          | some n =>
              simp [bind, Except.bind, nodeAt, Except.toOption, Node.item?, hget, isDir_iff]

theorem SameShape.hasDir_eq (h : SameShape t u) : u.hasDir p = t.hasDir p := by
  rw [Bool.eq_iff_iff, hasDir_iff, hasDir_iff, h.spot_eq]
  exact exists_congr fun q => and_congr_right fun _ => h.item?_eq_dir_iff

theorem SameShape.isDir_nodeAt (h : SameShape t u) (spot : Spot) :
    (u.nodeAt spot).map Node.isDir = (t.nodeAt spot).map Node.isDir := by
  cases spot with
  | free q => rfl
  | found q =>
      have hshape := h.shape q
      unfold nodeAt
      rw [Node.item?, Node.item?] at hshape
      cases hu : u.root.get? q with
      | none =>
          cases ht : t.root.get? q with
          | none => simp [hu, ht]
          | some n => simp [hu, ht] at hshape
      | some m =>
          cases ht : t.root.get? q with
          | none => simp [hu, ht] at hshape
          | some n =>
              have hitem : m.item.shape = n.item.shape := by simpa [hu, ht] using hshape
              cases m <;> cases n <;> simp_all [Node.item, Item.shape, Node.isDir, Except.map]

theorem SameShape.slotFor_eq (h : SameShape t u) : u.slotFor p = t.slotFor p := by
  unfold slotFor
  simp only [h.spotOf_eq, h.isDir_nodeAt]

end FileTree

/-! ## Directories in any order -/

namespace Node

/-- A tree whose directories list each name once, in whatever order. -/
inductive WellNamed : Node → Prop
  | file {bytes : Bytes} {mode : Nat} {time : Instant} : WellNamed (.file bytes mode time)
  | link {target : Path} : WellNamed (.link target)
  | dir {es : List (Text × Node)} (distinct : (es.map Prod.fst).Nodup)
      (named : ∀ e ∈ es, e.1.IsName) (below : ∀ e ∈ es, WellNamed e.2) : WellNamed (.dir es)

variable {root n m : Node} {p q : Place} {x : Text} {es : List (Text × Node)}

theorem lookup_of_nodup (h : (es.map Prod.fst).Nodup) (hmem : (x, n) ∈ es) :
    es.lookup x = some n := by
  induction es with
  | nil => cases hmem
  | cons e es ih =>
      obtain ⟨y, m⟩ := e
      rw [List.map_cons, List.nodup_cons] at h
      rw [ByName.lookup_cons]
      rcases List.mem_cons.mp hmem with heq | hrest
      · obtain ⟨rfl, rfl⟩ := Prod.mk.inj heq
        exact if_pos rfl
      · have hne : x ≠ y := by
          rintro rfl
          exact h.1 (List.mem_map.mpr ⟨(x, n), hrest, rfl⟩)
        rw [if_neg hne]
        exact ih h.2 hrest

theorem Sound.wellNamed (h : n.Sound) : n.WellNamed := by
  induction h with
  | file => exact .file
  | link => exact .link
  | @dir es ordered named below ih =>
      refine .dir (List.pairwise_map.mpr (ordered.imp ?_)) named ih
      intro a b hlt heq
      simp [heq] at hlt

theorem WellNamed.get? (h : root.WellNamed) (hp : root.get? p = some n) : n.WellNamed := by
  induction p generalizing root with
  | nil =>
      obtain rfl : root = n := by simpa using hp
      exact h
  | cons x p ih =>
      cases h with
      | file => simp at hp
      | link => simp at hp
      | @dir es distinct named below =>
          rw [get?_dir_cons, Option.bind_eq_some_iff] at hp
          obtain ⟨m, hm, hp⟩ := hp
          exact ih (below _ (ByName.mem_of_lookup hm)) hp

theorem WellNamed.isName_of_mem (h : root.WellNamed) (hp : (root.item? p).isSome) (hx : x ∈ p) :
    x.IsName := by
  obtain ⟨pre, post, rfl⟩ := List.append_of_mem hx
  -- the directory that holds the name lists it
  have hdir := item?_dir_of_append hp (List.cons_ne_nil x post)
  rw [item?, Option.map_eq_some_iff] at hdir
  obtain ⟨n, hn, hdir⟩ := hdir
  obtain ⟨es, rfl⟩ := item_eq_dir_iff.mp hdir
  rw [item?_append, hn, Option.bind_some, item?_dir_cons] at hp
  cases hlookup : es.lookup x with
  | none => simp [hlookup] at hp
  | some m =>
      cases h.get? hn with
      | dir _ named _ => exact named _ (ByName.mem_of_lookup hlookup)

end Node

namespace FileTree

/-- Trees that hold the same at every place. -/
structure SameItems (t u : FileTree) : Prop where
  current : u.current = t.current
  item : ∀ p, u.root.item? p = t.root.item? p

theorem SameItems.place_eq {t u : FileTree} (h : SameItems t u) (p : Path) :
    u.place p = t.place p := by
  have hshape : SameShape t u := ⟨h.current, fun q => by rw [h.item q]⟩
  exact hshape.place_eq

end FileTree

end TemplateTree
