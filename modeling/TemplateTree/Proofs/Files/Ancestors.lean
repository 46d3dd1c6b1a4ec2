import TemplateTree.Proofs.Files.Frames

/-!
# The directories above a path

The path of the directory that holds a path has the same names but the last one.  A
directory that is made on the way to a path below some directory is therefore below
that directory itself, as what is above is there already.
-/

namespace TemplateTree

namespace Path

variable {p q above : Path} {start : Text} {ss : List Text}

theorem filter_trimSegments :
    (trimSegments ss).filter (fun s => !isIdle s) = ss.filter fun s => !isIdle s := by
  have hcut : ∀ l : List Text,
      (l.dropWhile isIdle).filter (fun s => !isIdle s) = l.filter fun s => !isIdle s := by
    intro l
    induction l with
    | nil => rfl
    | cons s l ih =>
        cases hs : isIdle s with
        | true => rw [List.dropWhile_cons_of_pos hs, ih, List.filter_cons_of_neg (by simp [hs])]
        | false => rw [List.dropWhile_cons_of_neg (by simp [hs])]
  rw [trimSegments, List.filter_reverse, hcut, ← List.filter_reverse, List.reverse_reverse]

theorem exists_concat_of_trimSegments (h : trimSegments ss ≠ []) :
    ∃ init x, trimSegments ss = init ++ [x] ∧ isIdle x = false := by
  have hne : ss.reverse.dropWhile isIdle ≠ [] := by simpa [trimSegments] using h
  obtain ⟨x, rest, hrest⟩ := List.exists_cons_of_ne_nil hne
  refine ⟨rest.reverse, x, by rw [trimSegments, hrest, List.reverse_cons], ?_⟩
  have hhead := List.head_dropWhile_not isIdle hne
  simp only [hrest, List.head_cons] at hhead
  exact hhead

theorem trimSegments_prefix : trimSegments ss <+: ss := by
  have hsuffix : ss.reverse.dropWhile isIdle <:+ ss.reverse := List.dropWhile_suffix _
  have hprefix := List.reverse_prefix.mpr hsuffix
  rwa [List.reverse_reverse] at hprefix

theorem not_slash_of_mem_segments {s : Text} (h : s ∈ segments p) : '/' ∉ s :=
  FileTree.not_slash_of_mem_splitWhere h

/-- Segments as they can stand after the lead of a path. -/
def Follow (start : Text) (ss : List Text) : Prop :=
  (∀ s ∈ ss, '/' ∉ s) ∧ (start = ['/'] ∨ start = ['.'] ∧ (∀ s ∈ ss.head?, s = []) ∨
    start = [] ∧ ∀ s ∈ ss.head?, s ≠ [])

theorem Follow.of_prefix {ss' : List Text} (h : Follow start ss) (hss : ss' <+: ss) :
    Follow start ss' := by
  obtain ⟨more, rfl⟩ := hss
  have hhead : ∀ s ∈ ss'.head?, s ∈ (ss' ++ more).head? := by
    intro s hs
    cases ss' with
    | nil => cases hs
    | cons => exact hs
  refine ⟨fun s hs => h.1 s (List.mem_append_left _ hs), ?_⟩
  obtain hroot | ⟨hdot, hfirst⟩ | ⟨hnil, hfirst⟩ := h.2
  · exact .inl hroot
  · exact .inr (.inl ⟨hdot, fun s hs => hfirst s (hhead s hs)⟩)
  · exact .inr (.inr ⟨hnil, fun s hs => hfirst s (hhead s hs)⟩)

theorem follow_segments (hp : p ≠ []) : Follow (lead p) (segments p) := by
  refine ⟨fun s hs => not_slash_of_mem_segments hs, ?_⟩
  unfold segments lead
  split
  case isTrue => exact .inl rfl
  case isFalse habsolute =>
    split
    case isTrue hhere =>
      refine .inr (.inl ⟨rfl, fun s hs => ?_⟩)
      unfold startsHere at hhere
      split at hhere
      · simpa [Text.splitWhere, eq_comm] using hs
      · simpa [splitWhere_slash, eq_comm] using hs
      · cases hhere
    case isFalse =>
      refine .inr (.inr ⟨rfl, fun s hs => ?_⟩)
      obtain ⟨c, r, rfl⟩ := List.exists_cons_of_ne_nil hp
      have hc : c ≠ '/' := by simpa [isAbsolute] using habsolute
      obtain ⟨x, xs, hx⟩ := List.exists_cons_of_ne_nil (Text.splitWhere_ne_nil (· = '/') r)
      obtain rfl : c :: x = s := by simpa [splitWhere_cons hc, hx] using hs
      simp

theorem Follow.names_assemble (h : Follow start ss) :
    names (assemble start ss) = ss.filter fun s => !isIdle s := by
  by_cases hne : ss = []
  · obtain rfl | ⟨rfl, -⟩ | ⟨rfl, -⟩ := h.2 <;> simp [hne, assemble, Text.joinWith] <;> decide
  have hjoined : names (Text.joinWith ['/'] ss) = ss.filter fun s => !isIdle s := by
    rw [names, splitWhere_joinWith hne h.1]
  obtain rfl | ⟨rfl, hfirst⟩ | ⟨rfl, -⟩ := h.2
  · exact (names_slash _).trans hjoined
  · obtain ⟨s, rest, rfl⟩ := List.exists_cons_of_ne_nil hne
    obtain rfl := hfirst s rfl
    cases rest with
    | nil => decide
    | cons x rest =>
        have hdot : names ('.' :: '/' :: Text.joinWith ['/'] (x :: rest)) =
            names ('/' :: Text.joinWith ['/'] (x :: rest)) := by
          simp [names, splitWhere_slash, splitWhere_cons, isIdle]
        exact hdot.trans hjoined
  · exact hjoined

theorem Follow.isAbsolute_assemble (h : Follow start ss) :
    isAbsolute (assemble start ss) = decide (start = ['/']) := by
  obtain rfl | ⟨rfl, -⟩ | ⟨rfl, hfirst⟩ := h.2
  · rfl
  · rfl
  · cases ss with
    | nil => rfl
    | cons s rest =>
        obtain ⟨c, r, rfl⟩ := List.exists_cons_of_ne_nil (hfirst s rfl)
        have hc : c ≠ '/' := fun heq => h.1 _ List.mem_cons_self (by simp [heq])
        cases rest <;> simp [assemble, Text.joinWith, isAbsolute, hc]

theorem isAbsolute_iff_lead : isAbsolute p = decide (lead p = ['/']) := by
  unfold lead
  cases habsolute : isAbsolute p with
  | true => rfl
  | false => cases startsHere p <;> rfl

theorem names_of_parent? (h : parent? p = some above) :
    names above = (names p).dropLast ∧ isAbsolute above = isAbsolute p := by
  have hp : p ≠ [] := by
    rintro rfl
    have hnone : parent? [] = none := by decide
    rw [hnone] at h
    cases h
  have hfollow := follow_segments hp
  rw [← filter_segments p, isAbsolute_iff_lead (p := p), ← filter_trimSegments]
  unfold parent? at h
  split at h
  case h_1 hnil =>
    split at h
    case isFalse => cases h
    case isTrue hlead =>
      obtain rfl := Option.some.inj h
      simp [hnil, hlead, isAbsolute]
  case h_2 s ss hcons =>
    obtain rfl := Option.some.inj h
    obtain ⟨init, x, hinit, hx⟩ := exists_concat_of_trimSegments (hcons ▸ List.cons_ne_nil s ss)
    rw [← hcons, hinit, List.dropLast_concat]
    have habove : Follow (lead p) (trimSegments init) := by
      have hinit' : init <+: Path.segments p :=
        (List.prefix_append init [x]).trans (hinit ▸ trimSegments_prefix)
      refine hfollow.of_prefix ?_
      exact trimSegments_prefix.trans hinit'
    rw [habove.names_assemble, habove.isAbsolute_assemble, filter_trimSegments]
    simp [hx]

end Path

namespace FileTree

variable {root : Node} {last : Bool} {links : Nat} {place out : Place} {way rest pre : List Text}
  {t : FileTree} {dir p : Path} {spot : Spot}

/-! ## Dots -/

/-- Dots are passed over, but in last place. -/
theorem follow_filter_dots {x : Text} :
    follow root last links place (way.filter (· ≠ ['.']) ++ [x]) =
      follow root last links place (way ++ [x]) := by
  suffices h : ∀ done, follow root last links place (done ++ (way.filter (· ≠ ['.']) ++ [x])) =
      follow root last links place (done ++ (way ++ [x])) from h []
  induction way with
  | nil => exact fun _ => rfl
  | cons s way ih =>
      intro done
      by_cases hs : s = ['.']
      · rw [hs, List.filter_cons_of_neg (by simp), List.cons_append, follow_append_dot (by simp)]
        exact ih done
      · have hnext := ih (done ++ [s])
        rw [List.append_assoc, List.append_assoc] at hnext
        rw [List.filter_cons_of_pos (by simpa using hs)]
        exact hnext

/-- There is nothing behind a free name. -/
theorem Leads.follow_append_of_free {q : Place} (h : Leads root last links place way (.free q))
    (hrest : rest ≠ []) (last' : Bool) :
    follow root last' links place (way ++ rest) = .error .notFound := by
  generalize hspot : Spot.free q = spot at h
  induction h with
  | done => cases hspot
  | here _ ih => rw [List.cons_append, follow_eq, followWith, if_pos rfl, ← follow_eq, ih hspot]
  | up _ ih =>
      rw [List.cons_append, follow_eq, followWith, if_neg (by simp), if_pos rfl, ← follow_eq,
        ih hspot]
  | free hs hitem =>
      rw [List.singleton_append, follow_eq, followWith_step hs, hitem]
      exact if_neg hrest
  | dir hs hitem _ ih =>
      rw [List.cons_append, follow_eq, followWith_step hs, hitem]
      exact follow_eq.symm.trans (ih hspot)
  | file => cases hspot
  | stop => cases hspot
  | @jump _ _ _ more _ _ hs hitem hgo htarget _ ih =>
      rw [List.cons_append, follow, followWith_step hs, hitem]
      simp only [htarget, if_false]
      rw [if_neg (by simp [hrest]), ← List.append_assoc, ih hspot]

/-! ## Directories below a directory -/

/-- A way without links and steps up stays below where it starts. -/
theorem Leads.place_eq_append (h : Leads root last links place way spot)
    (hlinks : ∀ q target, root.item? (place ++ q) ≠ some (.link target))
    (hup : ['.', '.'] ∉ way) : spot.place = place ++ way.filter (· ≠ ['.']) := by
  induction h with
  | done => simp [Spot.place]
  | here _ ih =>
      rw [ih hlinks fun hmem => hup (List.mem_cons_of_mem _ hmem)]
      simp
  | up => exact absurd List.mem_cons_self hup
  | free hs => simp [Spot.place, hs.1]
  | @dir links place s rest spot hs _ _ ih =>
      have hbelow : ∀ q target, root.item? (place ++ [s] ++ q) ≠ some (.link target) :=
        fun q target => by
          rw [List.append_assoc]
          exact hlinks _ target
      rw [ih hbelow fun hmem => hup (List.mem_cons_of_mem _ hmem)]
      simp [hs.1]
  | file hs => simp [Spot.place, hs.1]
  | stop hs hitem => exact absurd hitem (hlinks _ _)
  | jump hs hitem => exact absurd hitem (hlinks _ _)

theorem names_eq_filter_parts (p : Path) : Path.names p = (Path.parts p).filter (· ≠ ['.']) := by
  rw [Path.names, Path.parts, List.filter_filter]
  refine List.filter_congr fun s _ => ?_
  by_cases hs : s = [] <;> by_cases hdot : s = ['.'] <;> simp [Path.isIdle, hs, hdot]

theorem not_dot_of_mem_names {p : Path} {s : Text} (h : s ∈ Path.names p) : s ≠ ['.'] := by
  rw [names_eq_filter_parts] at h
  simpa using List.of_mem_filter h

theorem follow_names_of_slotFor (h : t.slotFor p = .ok place) :
    follow t.root false maxLinks (if Path.isAbsolute p then [] else t.current) (Path.names p) =
      .ok (.free place) := by
  obtain ⟨x, hx, hxdot, hspot⟩ := slotFor_eq_ok h
  obtain ⟨-, hfree⟩ := spotOf_eq_ok_iff.mp hspot
  have hparts : Path.names p = (wayToParent p).filter (· ≠ ['.']) ++ [x] := by
    rw [names_eq_filter_parts, ← List.dropLast_append_getLast? x hx]
    simp [wayToParent, Path.parts, hxdot]
  rw [hparts, follow_filter_dots]
  exact hfree.follow_eq_ok

/-- A way behind the names of a directory is followed from that directory. -/
theorem exists_follow_names_append (hdir : t.place dir = .ok out)
    (hitem : t.root.item? out = some .dir) :
    ∃ left, ∀ last way, way ≠ [] → (∀ s ∈ way, s ≠ ['.']) →
      follow t.root last maxLinks (if Path.isAbsolute dir then [] else t.current)
        (Path.names dir ++ way) = follow t.root last left out way := by
  obtain ⟨left, hleft⟩ := follow_parts_append hdir hitem
  refine ⟨left, fun last way hne hdots => ?_⟩
  obtain ⟨init, x, rfl⟩ := (List.eq_nil_or_concat way).resolve_left hne
  rw [List.concat_eq_append] at *
  have hinit : init.filter (· ≠ ['.']) = init :=
    List.filter_eq_self.mpr fun s hs => by simpa using hdots s (List.mem_append_left _ hs)
  rw [← hleft last _ (by simp), names_eq_filter_parts, ← List.append_assoc, ← List.append_assoc,
    ← hinit, ← List.filter_append, follow_filter_dots, hinit]

/-- The names of a free path are no start of the names of a directory. -/
theorem not_prefix_of_free (hdir : t.place dir = .ok out) (hitem : t.root.item? out = some .dir)
    (hfree : follow t.root false maxLinks (if Path.isAbsolute dir then [] else t.current)
      (Path.names p) = .ok (.free place)) : ¬ Path.names p <+: Path.names dir := by
  rintro ⟨more, hmore⟩
  obtain ⟨left, hbelow⟩ := exists_follow_names_append hdir hitem
  -- one step up from the directory would lead on from the free name
  have hmore' : more ++ [['.', '.']] ≠ [] := by simp
  have hnone := (Leads.of_follow hfree).follow_append_of_free hmore' true
  rw [← List.append_assoc, hmore, hbelow true _ (by simp) (by simp),
    (Leads.up .done).follow_eq_ok] at hnone
  cases hnone

/-- A directory that is made at a path with some names below a directory without links is
new below that directory. -/
theorem exists_of_slotFor (hdir : t.place dir = .ok out) (hitem : t.root.item? out = some .dir)
    (hlinks : ∀ q target, t.root.item? (out ++ q) ≠ some (.link target))
    (hup : ['.', '.'] ∉ pre) (habsolute : Path.isAbsolute p = Path.isAbsolute dir)
    (hnames : Path.names p <+: Path.names dir ++ pre) (hslot : t.slotFor p = .ok place) :
    ∃ names, names ≠ [] ∧ names <+: pre ∧ place = out ++ names := by
  have hfree := follow_names_of_slotFor hslot
  rw [habsolute] at hfree
  have hlong := not_prefix_of_free hdir hitem hfree
  obtain ⟨names, hsplit⟩ := (List.prefix_or_prefix_of_prefix hnames
    (List.prefix_append _ _)).resolve_left hlong
  rw [← hsplit, List.prefix_append_right_inj] at hnames
  have hne : names ≠ [] := fun hnil => hlong (by simp [← hsplit, hnil])
  have hdots : ∀ s ∈ names, s ≠ ['.'] := fun s hs =>
    not_dot_of_mem_names (p := p) (hsplit ▸ List.mem_append_right _ hs)
  obtain ⟨left, hbelow⟩ := exists_follow_names_append hdir hitem
  rw [← hsplit, hbelow false names hne hdots] at hfree
  have hplace := (Leads.of_follow hfree).place_eq_append hlinks fun hmem => hup (hnames.subset hmem)
  rw [List.filter_eq_self.mpr fun s hs => by simpa using hdots s hs] at hplace
  exact ⟨names, hne, hnames, hplace⟩

end FileTree

end TemplateTree
