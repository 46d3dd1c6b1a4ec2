import TemplateTree.Proofs.Files.Places

/-!
# Sound trees

The entries of a directory are in strict order of their names, and each name can be
one segment of a path.  What is done to a tree at a place keeps it sound.
-/

namespace TemplateTree

/-- A name that a directory can hold. -/
def Text.IsName (x : Text) : Prop :=
  x ≠ [] ∧ '/' ∉ x ∧ x ≠ ['.'] ∧ x ≠ ['.', '.'] ∧
    (Text.toBytes x).length ≤ FileTree.maxNameBytes

instance (x : Text) : Decidable x.IsName :=
  inferInstanceAs (Decidable (_ ∧ _))

namespace Node

/-- A tree whose directories hold each name once, in order. -/
inductive Sound : Node → Prop
  | file {bytes : Bytes} {mode : Nat} {time : Instant} : Sound (.file bytes mode time)
  | link {target : Path} : Sound (.link target)
  | dir {es : List (Text × Node)} (ordered : es.Pairwise fun a b => Text.order a.1 b.1 = .lt)
      (named : ∀ e ∈ es, e.1.IsName) (below : ∀ e ∈ es, Sound e.2) : Sound (.dir es)

variable {root n m new : Node} {p q place : Place} {x y : Text} {es : List (Text × Node)}
  {e : Text × Node}

/-- A directory is sound if its names are, and what is below them. -/
theorem Sound.of_names (names : List Text) (hnames : es.map Prod.fst = names)
    (hordered : names.Pairwise fun a b => Text.order a b = .lt) (hvalid : ∀ x ∈ names, x.IsName)
    (hbelow : ∀ e ∈ es, e.2.Sound) : (Node.dir es).Sound := by
  subst hnames
  exact .dir (List.pairwise_map.mp hordered) (fun e he => hvalid _ (List.mem_map_of_mem he)) hbelow

theorem Sound.get? (h : Sound root) (hp : root.get? p = some n) : Sound n := by
  induction p generalizing root with
  | nil =>
      obtain rfl : root = n := by simpa using hp
      exact h
  | cons x p ih =>
      cases h with
      | file => simp at hp
      | link => simp at hp
      | @dir es ordered named below =>
          obtain ⟨m, hm, hp⟩ : ∃ m, es.lookup x = some m ∧ m.get? p = some n := by
            simpa [Option.bind_eq_some_iff] using hp
          exact ih (below _ (ByName.mem_of_lookup hm)) hp

theorem Sound.isName_of_mem (h : Sound root) (hp : (root.item? p).isSome) (hx : x ∈ p) :
    x.IsName := by
  induction p generalizing root with
  | nil => simp at hx
  | cons y p ih =>
      cases h with
      | file => simp [item?] at hp
      | link => simp [item?] at hp
      | @dir es ordered named below =>
          obtain ⟨m, hm, hp⟩ : ∃ m, es.lookup y = some m ∧ (m.item? p).isSome := by
            rw [item?_dir_cons] at hp
            cases hm : es.lookup y with
            | none => simp [hm] at hp
            | some m => exact ⟨m, rfl, by simpa [hm] using hp⟩
          obtain rfl | hx := List.mem_cons.mp hx
          · exact named _ (ByName.mem_of_lookup hm)
          · exact ih (below _ (ByName.mem_of_lookup hm)) hp hx

theorem Sound.dir_putEntry (h : Sound (Node.dir es)) (hx : x.IsName) (hn : Sound n) :
    Sound (Node.dir (putEntry x n es)) := by
  cases h with
  | dir ordered named below =>
      refine .dir (putEntry_eq_put ▸ ByName.pairwise_put ordered) (fun e he => ?_) fun e he => ?_
      · obtain rfl | he := ByName.mem_put (putEntry_eq_put ▸ he)
        · exact hx
        · exact named e he
      · obtain rfl | he := ByName.mem_put (putEntry_eq_put ▸ he)
        · exact hn
        · exact below e he

theorem Sound.lookup (h : Sound (Node.dir es)) (hn : es.lookup x = some n) :
    x.IsName ∧ Sound n := by
  cases h with
  | dir _ named below =>
      have hmem := ByName.mem_of_lookup hn
      exact ⟨named _ hmem, below _ hmem⟩

theorem Sound.put (h : Sound root) (hname : ∀ x ∈ place.getLast?, x.IsName)
    (hnew : Sound new) : Sound (put new place root) := by
  induction place generalizing root with
  | nil => exact hnew
  | cons x place ih =>
      cases h with
      | file => cases place <;> exact .file
      | link => cases place <;> exact .link
      | @dir es ordered named below =>
          have h : Sound (.dir es) := .dir ordered named below
          cases place with
          | nil => exact h.dir_putEntry (hname x rfl) hnew
          | cons y place =>
              rw [Node.put]
              split
              case h_1 n hn =>
                obtain ⟨hx, hsub⟩ := h.lookup hn
                exact h.dir_putEntry hx (ih hsub fun z hz => hname z (by simpa using hz))
              case h_2 => exact h

theorem Sound.erase (h : Sound root) : Sound (erase place root) := by
  induction place generalizing root with
  | nil => exact h
  | cons x place ih =>
      cases h with
      | file => cases place <;> exact .file
      | link => cases place <;> exact .link
      | @dir es ordered named below =>
          have h : Sound (.dir es) := .dir ordered named below
          cases place with
          | nil =>
              exact .dir (ordered.filter _) (fun e he => named e (List.mem_of_mem_filter he))
                fun e he => below e (List.mem_of_mem_filter he)
          | cons y place =>
              rw [Node.erase]
              split
              case h_1 n hn =>
                obtain ⟨hx, hsub⟩ := h.lookup hn
                exact h.dir_putEntry hx (ih hsub)
              case h_2 => exact h

end Node

end TemplateTree
