import TemplateTree.Proofs.Files.Following
import TemplateTree.Proofs.Files.Names

/-!
# Joined paths

A path with names joined to it leads where the path leads and then down by the
names.
-/

namespace TemplateTree

namespace Path

/-- The segments of a path by which it is followed. -/
def parts (p : Path) : List Text :=
  (Text.splitWhere (· = '/') p).filter (· ≠ [])

variable {p q : Path} {x : Text} {names : List Text}

theorem splitWhere_append_slash (p q : Path) :
    Text.splitWhere (· = '/') (p ++ '/' :: q) =
      Text.splitWhere (· = '/') p ++ Text.splitWhere (· = '/') q :=
  Text.splitWhere_append (decide_eq_true rfl) p q

theorem splitWhere_of_not_mem (h : '/' ∉ x) : Text.splitWhere (· = '/') x = [x] :=
  Text.splitWhere_of_forall fun _ hc => decide_eq_false fun heq => h (heq ▸ hc)

theorem splitWhere_joinWith (hne : names ≠ []) (h : ∀ x ∈ names, '/' ∉ x) :
    Text.splitWhere (· = '/') (Text.joinWith ['/'] names) = names := by
  induction names with
  | nil => exact absurd rfl hne
  | cons x names ih =>
      have hx := splitWhere_of_not_mem (h x List.mem_cons_self)
      cases names with
      | nil => exact hx
      | cons y names =>
          have hrest := ih (List.cons_ne_nil _ _) fun z hz => h z (List.mem_cons_of_mem _ hz)
          rw [Text.joinWith, List.append_assoc, List.singleton_append, splitWhere_append_slash, hx,
            hrest]
          · rfl
          · simp

@[simp] theorem parts_nil : parts [] = [] := rfl

theorem parts_append_slash (p q : Path) : parts (p ++ '/' :: q) = parts p ++ parts q := by
  rw [parts, splitWhere_append_slash, List.filter_append, parts, parts]

theorem parts_of_not_mem (hne : x ≠ []) (hslash : '/' ∉ x) : parts x = [x] := by
  rw [parts, splitWhere_of_not_mem hslash]
  simp [hne]

theorem parts_of_isName (hx : x.IsName) : parts x = [x] :=
  parts_of_not_mem hx.1 hx.2.1

theorem ne_nil_of_mem_parts (h : x ∈ parts p) : x ≠ [] := by
  simpa using (List.mem_filter.mp h).2

theorem isAbsolute_of_not_mem (hslash : '/' ∉ x) : isAbsolute x = false := by
  cases x with
  | nil => rfl
  | cons c x =>
      have hc : c ≠ '/' := fun h => hslash (by simp [h])
      simp [isAbsolute, hc]

theorem isAbsolute_of_isName (hx : x.IsName) : isAbsolute x = false :=
  isAbsolute_of_not_mem hx.2.1

/-- A relative path is joined with a slash in between, unless there is one. -/
theorem join_eq (hq : isAbsolute q = false) :
    join p q = p ++ q ∧ p = [] ∨ (∃ r, p = r ++ ['/']) ∧ join p q = p ++ q ∨
      join p q = p ++ '/' :: q := by
  by_cases hp : p = []
  · exact .inl ⟨by simp [join, hq, hp], hp⟩
  · by_cases hlast : p.getLast? = some '/'
    · obtain ⟨r, hr⟩ := List.getLast?_eq_some_iff.mp hlast
      exact .inr (.inl ⟨⟨r, hr⟩, by simp [join, hq, hlast]⟩)
    · exact .inr (.inr (by simp [join, hq, hp, hlast]))

theorem parts_join (hq : isAbsolute q = false) : parts (join p q) = parts p ++ parts q := by
  obtain ⟨h, rfl⟩ | ⟨⟨r, rfl⟩, h⟩ | h := join_eq (p := p) hq
  · rw [h]; rfl
  · have hnil := parts_append_slash r []
    rw [h, List.append_assoc, List.singleton_append, parts_append_slash, hnil, parts_nil,
      List.append_nil]
  · rw [h, parts_append_slash]

theorem isAbsolute_append (hp : p ≠ []) : isAbsolute (p ++ q) = isAbsolute p := by
  obtain ⟨c, r, rfl⟩ := List.exists_cons_of_ne_nil hp
  rfl

theorem isAbsolute_join (hp : p ≠ []) (hq : isAbsolute q = false) :
    isAbsolute (join p q) = isAbsolute p := by
  obtain ⟨-, rfl⟩ | ⟨-, h⟩ | h := join_eq (p := p) hq
  · exact absurd rfl hp
  · rw [h, isAbsolute_append hp]
  · rw [h, isAbsolute_append hp]

theorem join_ne_nil (hq : q ≠ []) : join p q ≠ [] := by
  unfold join
  split
  · exact hq
  · split <;> simp [hq]

theorem getLast?_join (hq : q ≠ []) : (join p q).getLast? = q.getLast? := by
  obtain ⟨r, c, rfl⟩ := (List.eq_nil_or_concat q).resolve_left hq
  unfold join
  split
  · rfl
  · split <;> simp [List.getLast?_append, List.getLast?_cons]

/-! ## Names joined one after the other -/

theorem parts_foldl_join_of_not_mem (h : ∀ x ∈ names, x ≠ [] ∧ '/' ∉ x) :
    parts (names.foldl join p) = parts p ++ names := by
  induction names generalizing p with
  | nil => simp
  | cons x names ih =>
      obtain ⟨hne, hslash⟩ := h x List.mem_cons_self
      rw [List.foldl_cons, ih fun y hy => h y (List.mem_cons_of_mem _ hy),
        parts_join (isAbsolute_of_not_mem hslash), parts_of_not_mem hne hslash]
      simp

theorem isAbsolute_foldl_join_of_not_mem (hp : p ≠ []) (h : ∀ x ∈ names, x ≠ [] ∧ '/' ∉ x) :
    isAbsolute (names.foldl join p) = isAbsolute p := by
  induction names generalizing p with
  | nil => rfl
  | cons x names ih =>
      obtain ⟨hne, hslash⟩ := h x List.mem_cons_self
      rw [List.foldl_cons, ih (join_ne_nil hne) fun y hy => h y (List.mem_cons_of_mem _ hy),
        isAbsolute_join hp (isAbsolute_of_not_mem hslash)]

theorem parts_foldl_join (h : ∀ x ∈ names, x.IsName) :
    parts (names.foldl join p) = parts p ++ names :=
  parts_foldl_join_of_not_mem fun x hx => ⟨(h x hx).1, (h x hx).2.1⟩

theorem isAbsolute_foldl_join (hp : p ≠ []) (h : ∀ x ∈ names, x.IsName) :
    isAbsolute (names.foldl join p) = isAbsolute p :=
  isAbsolute_foldl_join_of_not_mem hp fun x hx => ⟨(h x hx).1, (h x hx).2.1⟩

theorem getLast?_foldl_join (hnames : names ≠ []) (h : ∀ x ∈ names, x.IsName) :
    (names.foldl join p).getLast? ≠ some '/' := by
  obtain ⟨init, x, rfl⟩ := (List.eq_nil_or_concat names).resolve_left hnames
  have hx := h x (by simp)
  rw [List.concat_eq_append, List.foldl_append, List.foldl_cons, List.foldl_nil,
    getLast?_join hx.1]
  exact fun hlast => hx.2.1 (List.mem_of_getLast? hlast)

end Path

namespace FileTree

variable {t : FileTree} {dir : Path} {root : Place} {names : List Text} {p : Path}

/-- The segments, with a dot where a slash at the end demands a directory. -/
theorem wayOf_eq (p : Path) : wayOf p = Path.parts p ∨ wayOf p = Path.parts p ++ [['.']] := by
  rw [wayOf]
  split
  · exact .inr rfl
  · exact .inl rfl

theorem wayOf_of_getLast? (h : p.getLast? ≠ some '/') : wayOf p = Path.parts p := by
  simp [wayOf, h, Path.parts]

theorem place_eq_ok_iff : t.place dir = .ok root ↔ t.spot dir = .ok (.found root) := by
  unfold place
  cases h : t.spot dir with
  | error e => simp [bind, Except.bind]
  | ok spot =>
      cases spot <;>
        simp [bind, Except.bind, pure, Except.pure, throw, throwThe, MonadExceptOf.throw]

theorem spotOf_eq_ok_iff {last : Bool} {way : List Text} {spot : Spot} :
    t.spotOf last p way = .ok spot ↔ checkPath p = .ok () ∧
      Leads t.root last maxLinks (if Path.isAbsolute p then [] else t.current) way spot := by
  unfold spotOf
  cases h : checkPath p with
  | error e => simp [bind, Except.bind]
  | ok u => simp [bind, Except.bind, follow_eq_ok_iff]

theorem ne_nil_of_checkPath (h : checkPath p = .ok ()) : p ≠ [] := by
  rintro rfl
  simp [checkPath] at h

/-- What comes after a directory is followed from its place. -/
theorem follow_parts_append (hdir : t.place dir = .ok root)
    (hroot : t.root.item? root = some .dir) : ∃ left, ∀ last rest, rest ≠ [] →
      follow t.root last maxLinks (if Path.isAbsolute dir then [] else t.current)
        (Path.parts dir ++ rest) = follow t.root last left root rest := by
  obtain ⟨-, hleads⟩ := spotOf_eq_ok_iff.mp (place_eq_ok_iff.mp hdir)
  obtain ⟨left, hleft⟩ := hleads.follow_append hroot
  refine ⟨left, fun last rest hrest => ?_⟩
  rw [← hleft last rest (.inl hrest)]
  obtain hway | hway := wayOf_eq dir
  · rw [hway]
  · rw [hway, List.append_assoc, List.singleton_append, follow_append_dot hrest]

/-- Names below a directory are followed from its place. -/
theorem follow_foldl_join (hdir : t.place dir = .ok root)
    (hroot : t.root.item? root = some .dir) (hnames : names ≠ []) (h : ∀ x ∈ names, x.IsName) :
    ∃ left, ∀ last, follow t.root last maxLinks
      (if Path.isAbsolute (names.foldl Path.join dir) then [] else t.current)
      (wayOf (names.foldl Path.join dir)) = follow t.root last left root names := by
  obtain ⟨hcheck, -⟩ := spotOf_eq_ok_iff.mp (place_eq_ok_iff.mp hdir)
  obtain ⟨left, hleft⟩ := follow_parts_append hdir hroot
  refine ⟨left, fun last => ?_⟩
  rw [Path.isAbsolute_foldl_join (ne_nil_of_checkPath hcheck) h,
    wayOf_of_getLast? (Path.getLast?_foldl_join hnames h), Path.parts_foldl_join h,
    hleft last names hnames]

theorem isStep_of_isName {x : Text} (h : x.IsName) : IsStep x :=
  ⟨h.2.2.1, h.2.2.2.1, h.2.2.2.2⟩

/-- The path of something below a directory leads there. -/
theorem spot_foldl_join (hdir : t.place dir = .ok root)
    (hroot : t.root.item? root = some .dir) (hnames : names ≠ []) (h : ∀ x ∈ names, x.IsName)
    (hcheck : checkPath (names.foldl Path.join dir) = .ok ()) {item : Item}
    (hitem : t.root.item? (root ++ names) = some item) (hlink : ∀ target, item ≠ .link target) :
    t.spot (names.foldl Path.join dir) = .ok (.found (root ++ names)) := by
  obtain ⟨left, hleft⟩ := follow_foldl_join hdir hroot hnames h
  refine spotOf_eq_ok_iff.mpr ⟨hcheck, .of_follow ?_⟩
  rw [hleft true]
  exact (leads_names (fun s hs => isStep_of_isName (h s hs)) hitem hlink).follow_eq_ok

end FileTree

end TemplateTree
