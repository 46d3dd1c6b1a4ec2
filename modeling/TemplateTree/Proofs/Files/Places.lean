import TemplateTree.Files.Tree
import TemplateTree.Proofs.Text.Entries

/-!
# Places in a tree

What a tree is can be told place by place: there is a file, a link or a directory,
or nothing.  Putting a node at a place and taking one away change what is at that
place and below it, and nothing else.
-/

namespace TemplateTree

/-- What a node is apart from the entries of a directory. -/
inductive Item where
  | file (bytes : Bytes) (mode : Nat) (modified : Instant)
  | link (target : Path)
  | dir
  deriving DecidableEq

namespace Node

def item : Node → Item
  | file bytes mode time => .file bytes mode time
  | link target => .link target
  | dir _ => .dir

def item? (n : Node) (p : Place) : Option Item :=
  (n.get? p).map item

/-- A place whose directory is there. -/
def HasSlot (root : Node) (p : Place) : Prop :=
  p ≠ [] ∧ root.item? p.dropLast = some .dir

variable {root n new : Node} {p q place : Place} {x y : Text} {es : List (Text × Node)}

@[simp] theorem get?_nil : get? n [] = some n := by
  cases n <;> rfl

@[simp] theorem get?_dir_cons : get? (dir es) (x :: p) = (es.lookup x).bind (get? · p) := by
  rw [get?]
  cases es.lookup x <;> rfl

@[simp] theorem get?_file_cons {bytes : Bytes} {mode : Nat} {time : Instant} :
    get? (file bytes mode time) (x :: p) = none := rfl

@[simp] theorem get?_link_cons {target : Path} : get? (link target) (x :: p) = none := rfl

theorem get?_append : get? n (p ++ q) = (get? n p).bind (get? · q) := by
  induction p generalizing n with
  | nil => simp
  | cons x p ih =>
      cases n with
      | file => rfl
      | link => rfl
      | dir es =>
          simp only [List.cons_append, get?_dir_cons]
          cases es.lookup x with
          | none => rfl
          | some m => exact ih

@[simp] theorem item?_nil : item? n [] = some n.item := by
  simp [item?]

theorem item?_append : item? n (p ++ q) = (get? n p).bind (item? · q) := by
  rw [item?, get?_append, Option.map_bind]
  rfl

theorem item?_dir_cons : item? (dir es) (x :: p) = (es.lookup x).bind (item? · p) := by
  rw [item?, get?_dir_cons, Option.map_bind]
  rfl

theorem item_eq_dir_iff : n.item = .dir ↔ ∃ es, n = .dir es := by
  cases n <;> simp [item]

/-- What is above something is a directory. -/
theorem item?_dir_of_append (h : (item? n (p ++ q)).isSome) (hq : q ≠ []) :
    item? n p = some .dir := by
  rw [item?_append] at h
  cases hp : get? n p with
  | none => simp [hp] at h
  | some m =>
      obtain ⟨x, q, rfl⟩ := List.exists_cons_of_ne_nil hq
      cases m with
      | file => simp [hp, item?] at h
      | link => simp [hp, item?] at h
      | dir es => simp [item?, hp, item]

theorem putEntry_eq_put : putEntry x n es = ByName.put x n es := by
  induction es with
  | nil => rfl
  | cons e es ih => cases hord : Text.order x e.1 <;> simp [putEntry, ByName.put, hord, ih]

theorem lookup_putEntry : (putEntry x n es).lookup y = if y = x then some n else es.lookup y := by
  rw [putEntry_eq_put, ByName.lookup_put]

/-! ## Putting and taking away -/

theorem HasSlot.tail (h : HasSlot (dir es) (x :: y :: p)) :
    ∃ n, es.lookup x = some n ∧ HasSlot n (y :: p) := by
  obtain ⟨-, hdir⟩ := h
  rw [List.dropLast_cons_cons, item?_dir_cons] at hdir
  cases hx : es.lookup x with
  | none => simp [hx] at hdir
  | some n => exact ⟨n, rfl, by simp, by simpa [hx] using hdir⟩

theorem HasSlot.exists_dir (h : HasSlot root (x :: p)) : ∃ es, root = .dir es := by
  obtain ⟨-, hdir⟩ := h
  cases p with
  | nil => simpa [item_eq_dir_iff] using hdir
  | cons y p =>
      rw [List.dropLast_cons_cons, ← List.nil_append (x :: _)] at hdir
      have htop := item?_dir_of_append (Option.isSome_of_eq_some hdir) (List.cons_ne_nil _ _)
      rw [item?_nil] at htop
      exact item_eq_dir_iff.mp (Option.some.inj htop)

/-- A node put at a place changes what is there and below. -/
theorem item?_put (h : HasSlot root place) :
    (put new place root).item? p =
      if place <+: p then new.item? (p.drop place.length) else root.item? p := by
  induction place generalizing root p with
  | nil => exact absurd rfl h.1
  | cons x place ih =>
      obtain ⟨es, rfl⟩ := h.exists_dir
      cases place with
      | nil =>
          cases p with
          | nil => simp [put, item]
          | cons z p =>
              by_cases hz : z = x
              · simp [put, item?_dir_cons, lookup_putEntry, hz]
              · simp [put, item?_dir_cons, lookup_putEntry, hz, Ne.symm hz]
      | cons y place =>
          obtain ⟨n, hn, hslot⟩ := h.tail
          have hput : put new (x :: y :: place) (dir es) =
              .dir (putEntry x (put new (y :: place) n) es) := by simp [put, hn]
          rw [hput]
          cases p with
          | nil => simp [item]
          | cons z p =>
              by_cases hz : z = x
              · subst hz
                simp [item?_dir_cons, lookup_putEntry, hn, ih hslot]
              · simp [item?_dir_cons, lookup_putEntry, hz, Ne.symm hz]

/-- A file that is put somewhere makes no directory. -/
theorem item?_eq_dir_of_put_file {bytes : Bytes} {mode : Nat} {time : Instant}
    (h : (put (.file bytes mode time) place root).item? p = some .dir) :
    root.item? p = some .dir := by
  have hfile : ∀ {p : Place}, (file bytes mode time).item? p ≠ some .dir := fun {p} => by
    cases p <;> simp [item?, get?, item]
  induction place generalizing root p with
  | nil => exact absurd h hfile
  | cons x place ih =>
      cases root with
      | file => simpa [put] using h
      | link => simpa [put] using h
      | dir es =>
          cases p with
          | nil => rfl
          | cons z p =>
              cases place with
              | nil =>
                  rw [put, item?_dir_cons, lookup_putEntry] at h
                  split at h
                  case isTrue => exact absurd h hfile
                  case isFalse => rwa [item?_dir_cons]
              | cons y place =>
                  cases hx : es.lookup x with
                  | none => simpa [put, hx] using h
                  | some n =>
                      simp only [put, hx] at h
                      rw [item?_dir_cons, lookup_putEntry] at h
                      split at h
                      case isTrue heq =>
                        rw [item?_dir_cons, heq, hx]
                        exact ih h
                      case isFalse => rwa [item?_dir_cons]

/-- What is at a place and below is taken away. -/
theorem item?_erase (h : HasSlot root place) :
    (erase place root).item? p = if place <+: p then none else root.item? p := by
  induction place generalizing root p with
  | nil => exact absurd rfl h.1
  | cons x place ih =>
      obtain ⟨es, rfl⟩ := h.exists_dir
      cases place with
      | nil =>
          cases p with
          | nil => simp [erase, item]
          | cons z p =>
              by_cases hz : z = x
              · simp [erase, item?_dir_cons, ByName.lookup_filter_ne, hz]
              · simp [erase, item?_dir_cons, ByName.lookup_filter_ne, hz, Ne.symm hz]
      | cons y place =>
          obtain ⟨n, hn, hslot⟩ := h.tail
          have herase : erase (x :: y :: place) (dir es) =
              .dir (putEntry x (erase (y :: place) n) es) := by simp [erase, hn]
          rw [herase]
          cases p with
          | nil => simp [item]
          | cons z p =>
              by_cases hz : z = x
              · subst hz
                simp [item?_dir_cons, lookup_putEntry, hn, ih hslot]
              · simp [item?_dir_cons, lookup_putEntry, hz, Ne.symm hz]

end Node

end TemplateTree
