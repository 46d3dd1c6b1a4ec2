import Mathlib.Data.List.Sort
import TemplateTree.Proofs.Discovery.Naming
import TemplateTree.Proofs.Discovery.Ordering

/-!
# The canonical result of a walk

A walk that passes over links comes by the files and directories that it can enter to,
each once and in the order of the contents of its directory.  The order in which a
directory lists its entries makes no difference, since that list and its order are
already told by what is where.
-/

namespace TemplateTree

def Item.time? : Item → Option Instant
  | .file _ _ time => some time
  | _ => none

namespace Walk

/-- What a walk comes by below a directory. -/
inductive Comes (o : WalkOptions) : Contents → List Text → Prop
  | file {c : Contents} {x : Text} {bytes : Bytes} {mode : Nat} {time : Instant}
      (h : c [x] = some (.file bytes mode time)) : Comes o c [x]
  | dir {c : Contents} {x : Text} (h : c [x] = some .dir) (hx : x ∉ o.excludedDirs) :
      Comes o c [x]
  | deeper {c : Contents} {x : Text} {names : List Text} (hx : x ∉ o.excludedDirs)
      (h : Comes o (c.under x) names) : Comes o c (x :: names)

/-- What a walk finds below a directory, in order. -/
structure Lists (o : WalkOptions) (c : Contents) (k : List (List Text)) : Prop where
  mem_iff : ∀ names, names ∈ k ↔ Comes o c names
  ordered : k.Pairwise (c.Before o.directoriesFirst)

/-- Something below a directory, as a walk finds it. -/
def foundAt (c : Contents) (path : Path) (names : List Text) : Found :=
  ⟨names.foldl Path.join path, names.getLastD [], (c names).bind Item.time?⟩

/-- What a walk finds at an entry and below it. -/
def block (o : WalkOptions) (name : Text) : Node → List (List Text) → List (List Text)
  | .file .., _ => [[name]]
  | .link _, _ => []
  | .dir _, inside => if o.excludedDirs.contains name then [] else [name] :: inside.map (name :: ·)

/-- The branch of an entry, as far as its place among the others depends on it. -/
def rank (e : Text × Node) : Branch :=
  ⟨e.1, e.2.isDir, .ok []⟩

/-- The entries of a directory in the order of a walk. -/
def sortedEntries (dirsFirst : Bool) (es : List (Text × Node)) : List (Text × Node) :=
  es.insertionSort fun a b => Branch.comesFirst dirsFirst (rank a) (rank b) = true

variable {o : WalkOptions} {c : Contents} {names : List Text} {x name : Text} {n : Node}
  {es : List (Text × Node)} {dirsFirst : Bool}

theorem Comes.ne_nil (h : Comes o c names) : names ≠ [] := by
  cases h <;> simp

theorem Comes.isSome (h : Comes o c names) : (c names).isSome := by
  induction h with
  | file h => simp [h]
  | dir h _ => simp [h]
  | deeper _ _ ih => exact ih

/-! ## Entries in order -/

theorem sorted_eq_insertionSort (bs : List Branch) : Branch.sorted dirsFirst bs =
    bs.insertionSort fun a b => Branch.comesFirst dirsFirst a b = true := by
  have hinsert : ∀ (a : Branch) (l : List Branch), Branch.insertSorted dirsFirst a l =
      l.orderedInsert (fun a b => Branch.comesFirst dirsFirst a b = true) a := by
    intro a l
    induction l with
    | nil => rfl
    | cons b l ih => rw [Branch.insertSorted, List.orderedInsert_cons, ih]
  induction bs with
  | nil => rfl
  | cons b bs ih => rw [Branch.sorted, List.insertionSort_cons, ih, hinsert]

theorem sorted_map (branch : Text × Node → Branch)
    (h : ∀ e, (branch e).name = e.1 ∧ (branch e).isDir = e.2.isDir) :
    Branch.sorted dirsFirst (es.map branch) = (sortedEntries dirsFirst es).map branch := by
  rw [sorted_eq_insertionSort, sortedEntries]
  symm
  apply List.map_insertionSort
  intro a _ b _
  unfold Branch.comesFirst
  rw [(h a).1, (h a).2, (h b).1, (h b).2]
  exact Iff.rfl

theorem mem_sortedEntries {e : Text × Node} : e ∈ sortedEntries dirsFirst es ↔ e ∈ es :=
  List.mem_insertionSort _

theorem comesFirst_iff {a b : Branch} : Branch.comesFirst dirsFirst a b = true ↔
    (a.isDir = b.isDir ∧ Text.order b.name a.name ≠ .lt) ∨
      (a.isDir ≠ b.isDir ∧ a.isDir = dirsFirst) := by
  unfold Branch.comesFirst Text.precedes
  by_cases hkind : a.isDir = b.isDir
  · simp [hkind]
  · cases dirsFirst <;> cases ha : a.isDir <;> cases hb : b.isDir <;> simp_all

theorem comesFirst_total (a b : Branch) :
    Branch.comesFirst dirsFirst a b = true ∨ Branch.comesFirst dirsFirst b a = true := by
  rw [comesFirst_iff, comesFirst_iff]
  by_cases hkind : a.isDir = b.isDir
  · cases hord : Text.order b.name a.name with
    | lt =>
        refine .inr (.inl ⟨hkind.symm, ?_⟩)
        rw [← Text.order_swap, hord]
        decide
    | eq => exact .inl (.inl ⟨hkind, by decide⟩)
    | gt => exact .inl (.inl ⟨hkind, by decide⟩)
  · by_cases ha : a.isDir = dirsFirst
    · exact .inl (.inr ⟨hkind, ha⟩)
    · refine .inr (.inr ⟨Ne.symm hkind, ?_⟩)
      cases dirsFirst <;> simp_all

theorem comesFirst_trans {a b d : Branch} (hab : Branch.comesFirst dirsFirst a b = true)
    (hbd : Branch.comesFirst dirsFirst b d = true) :
    Branch.comesFirst dirsFirst a d = true := by
  rw [comesFirst_iff] at hab hbd ⊢
  rcases hab with ⟨hkind, hab⟩ | ⟨hkind, ha⟩
  · rcases hbd with ⟨hkind', hbd⟩ | ⟨hkind', hb⟩
    · refine .inl ⟨hkind.trans hkind', fun hda => ?_⟩
      cases hord : Text.order b.name a.name with
      | lt => exact hab hord
      | eq => exact hbd (Text.order_eq_iff.mp hord ▸ hda)
      | gt =>
          have hab' : Text.order a.name b.name = .lt := by rw [← Text.order_swap, hord]; rfl
          exact hbd (Text.order_trans hda hab')
    · exact .inr ⟨hkind ▸ hkind', hkind.trans hb⟩
  · rcases hbd with ⟨hkind', -⟩ | ⟨hkind', hb⟩
    · exact .inr ⟨hkind' ▸ hkind, ha⟩
    · exact absurd (ha.trans hb.symm) hkind

theorem pairwise_sortedEntries : (sortedEntries dirsFirst es).Pairwise fun a b =>
    Branch.comesFirst dirsFirst (rank a) (rank b) = true := by
  let r (a b : Text × Node) : Prop := Branch.comesFirst dirsFirst (rank a) (rank b) = true
  have : Std.Total r := ⟨fun a b => comesFirst_total (rank a) (rank b)⟩
  have : IsTrans (Text × Node) r := ⟨fun _ _ _ => comesFirst_trans⟩
  exact List.pairwise_insertionSort r es

theorem entryBefore_of_comesFirst {a b : Text × Node} (hdistinct : (es.map Prod.fst).Nodup)
    (ha : a ∈ es) (hb : b ∈ es) (hne : a.1 ≠ b.1)
    (h : Branch.comesFirst dirsFirst (rank a) (rank b) = true) :
    Contents.EntryBefore dirsFirst (Node.item? (.dir es)) a.1 b.1 := by
  have hdir : ∀ e ∈ es, Node.item? (.dir es) [e.1] = some .dir ↔ e.2.isDir = true := by
    intro e he
    rw [Node.item?_dir_cons, Node.lookup_of_nodup hdistinct he, Option.bind_some,
      Node.item?_nil, Option.some.injEq, FileTree.isDir_iff]
  rcases comesFirst_iff.mp h with ⟨hkind, hname⟩ | ⟨hkind, hfirst⟩
  · apply Contents.EntryBefore.byName
    · rw [hdir a ha, hdir b hb]
      exact iff_of_eq (congrArg (· = true) hkind)
    · apply Text.order_eq_lt_iff.mp
      cases hord : Text.order a.1 b.1 with
      | lt => rfl
      | eq => exact absurd (Text.order_eq_iff.mp hord) hne
      | gt =>
          have hba : Text.order b.1 a.1 = .lt := by rw [← Text.order_swap, hord]; rfl
          exact absurd hba hname
  · apply Contents.EntryBefore.byKind
    · rw [hdir a ha]
      exact iff_of_eq (congrArg (· = true) hfirst)
    · rw [hdir b hb]
      have hb' : b.2.isDir ≠ dirsFirst := fun heq => hkind (hfirst.trans heq.symm)
      cases dirsFirst <;> simp_all

/-! ## The blocks of a directory -/

theorem not_comes_of_leaf (h : n.isDir = false) : ¬ Comes o n.item? names := by
  intro hcomes
  have hsome := hcomes.isSome
  obtain ⟨y, p, rfl⟩ := List.exists_cons_of_ne_nil hcomes.ne_nil
  cases n with
  | file => simp [Node.item?] at hsome
  | link => simp [Node.item?] at hsome
  | dir => cases h

theorem lists_nil_of_leaf (h : n.isDir = false) : Lists o n.item? [] := by
  refine ⟨fun names => ⟨?_, ?_⟩, .nil⟩
  · intro hmem
    cases hmem
  · intro hcomes
    exact absurd hcomes (not_comes_of_leaf h)

theorem comes_cons_iff (hc : c.under x = n.item?) : Comes o c (x :: names) ↔
    match n with
    | .file .. => names = []
    | .link _ => False
    | .dir _ => x ∉ o.excludedDirs ∧ (names = [] ∨ Comes o n.item? names) := by
  have hx : c [x] = some n.item := by
    rw [← Node.item?_nil, ← hc]
    rfl
  constructor
  · intro h
    cases h with
    | file h =>
        cases n <;> simp_all [Node.item]
    | dir h hname =>
        cases n <;> simp_all [Node.item]
    | deeper hname h =>
        rw [hc] at h
        cases n with
        | file => exact absurd h (not_comes_of_leaf rfl)
        | link => exact absurd h (not_comes_of_leaf rfl)
        | dir es => exact ⟨hname, .inr h⟩
  · intro h
    cases n with
    | file =>
        subst h
        exact .file hx
    | link => cases h
    | dir es =>
        obtain ⟨hname, rfl | h⟩ := h
        · exact .dir hx hname
        · exact .deeper hname (hc ▸ h)

theorem mem_block {inside : List (List Text)} (h : Lists o n.item? inside)
    (hc : c.under x = n.item?) : x :: names ∈ block o x n inside ↔ Comes o c (x :: names) := by
  rw [comes_cons_iff hc]
  cases n with
  | file => simp [block]
  | link => simp [block]
  | dir es =>
      by_cases hname : x ∈ o.excludedDirs
      · simp [block, hname]
      · simp [block, hname, ← h.mem_iff]

theorem head_of_mem_block {inside : List (List Text)} (h : names ∈ block o x n inside) :
    ∃ rest, names = x :: rest := by
  cases n with
  | file => exact ⟨[], List.mem_singleton.mp h⟩
  | link => cases h
  | dir es =>
      rw [block] at h
      split at h
      case isTrue => cases h
      case isFalse =>
        rcases List.mem_cons.mp h with rfl | h
        · exact ⟨[], rfl⟩
        · obtain ⟨rest, -, rfl⟩ := List.mem_map.mp h
          exact ⟨rest, rfl⟩

theorem pairwise_block {inside : List (List Text)} (h : Lists o n.item? inside)
    (hc : c.under x = n.item?) :
    (block o x n inside).Pairwise (c.Before o.directoriesFirst) := by
  cases n with
  | file => exact List.pairwise_singleton _ _
  | link => exact List.Pairwise.nil
  | dir es =>
      rw [block]
      split
      case isTrue => exact List.Pairwise.nil
      case isFalse =>
        rw [List.pairwise_cons, List.pairwise_map]
        constructor
        · intro names hnames
          obtain ⟨rest, hrest, rfl⟩ := List.mem_map.mp hnames
          obtain ⟨y, rest, rfl⟩ := List.exists_cons_of_ne_nil ((h.mem_iff rest).mp hrest).ne_nil
          exact .along .inside
        · refine h.ordered.imp fun {a b} hab => .along ?_
          rw [hc]
          exact hab

/-! ## Visits -/

theorem visitAll_eq_map {jump : Jump} {above : List (Place × Path)} {path : Path} {place : Place} :
    visitAll o jump above path place es =
    es.map fun e => ⟨e.1, e.2.isDir, visit o jump above path place e.1 e.2⟩ := by
  induction es with
  | nil => rfl
  | cons e es ih =>
      obtain ⟨name, node⟩ := e
      rw [visitAll, ih, List.map_cons]

theorem gather_of_blocks (inside : Text × Node → List (List Text))
    {above : List (Place × Path)} {path : Path} {place : Place}
    (h : ∀ e ∈ es, visit o passOver above path place e.1 e.2 =
      .ok ((block o e.1 e.2 (inside e)).map (foundAt c path))) :
    Branch.gather (Branch.sorted o.directoriesFirst (visitAll o passOver above path place es)) =
      .ok (((sortedEntries o.directoriesFirst es).flatMap fun e =>
        block o e.1 e.2 (inside e)).map (foundAt c path)) := by
  have hgather : ∀ l : List (Text × Node), (∀ e ∈ l, e ∈ es) →
      Branch.gather (l.map fun e =>
        ⟨e.1, e.2.isDir, visit o passOver above path place e.1 e.2⟩) =
      .ok ((l.flatMap fun e => block o e.1 e.2 (inside e)).map (foundAt c path)) := by
    intro l hl
    induction l with
    | nil => rfl
    | cons e l ih =>
        rw [List.map_cons, Branch.gather, h e (hl e List.mem_cons_self),
          ih fun e' he' => hl e' (List.mem_cons_of_mem _ he'), List.flatMap_cons, List.map_append]
        rfl
  rw [visitAll_eq_map, sorted_map _ fun e => ⟨rfl, rfl⟩]
  exact hgather _ fun e he => mem_sortedEntries.mp he

theorem under_dir {e : Text × Node} (hdistinct : (es.map Prod.fst).Nodup) (he : e ∈ es) :
    Contents.under (Node.item? (.dir es)) e.1 = e.2.item? := by
  funext p
  rw [Contents.under, Node.item?_dir_cons, Node.lookup_of_nodup hdistinct he, Option.bind_some]

theorem foundAt_cons (hnames : names ≠ []) {path : Path} :
    foundAt (c.under x) (Path.join path x) names = foundAt c path (x :: names) := by
  obtain ⟨y, rest, rfl⟩ := List.exists_cons_of_ne_nil hnames
  rfl

theorem lists_blocks (hdistinct : (es.map Prod.fst).Nodup)
    (inside : Text × Node → List (List Text))
    (h : ∀ e ∈ es, Lists o e.2.item? (inside e)) :
    Lists o (Node.item? (.dir es)) ((sortedEntries o.directoriesFirst es).flatMap fun e =>
      block o e.1 e.2 (inside e)) := by
  constructor
  · intro names
    rw [List.mem_flatMap]
    constructor
    · rintro ⟨e, he, hnames⟩
      have he := mem_sortedEntries.mp he
      obtain ⟨rest, rfl⟩ := head_of_mem_block hnames
      exact (mem_block (h e he) (under_dir hdistinct he)).mp hnames
    · intro hcomes
      obtain ⟨x, rest, rfl⟩ := List.exists_cons_of_ne_nil hcomes.ne_nil
      have hsome := hcomes.isSome
      rw [Node.item?_dir_cons] at hsome
      cases hlookup : es.lookup x with
      | none => simp [hlookup] at hsome
      | some n =>
          have he := ByName.mem_of_lookup hlookup
          exact ⟨(x, n), mem_sortedEntries.mpr he,
            (mem_block (h _ he) (under_dir hdistinct he)).mpr hcomes⟩
  · rw [List.pairwise_flatMap]
    constructor
    · intro e he
      have he := mem_sortedEntries.mp he
      exact pairwise_block (h e he) (under_dir hdistinct he)
    · -- entries of one name could stand in either order
      have hnodup : ((sortedEntries o.directoriesFirst es).map Prod.fst).Nodup :=
        ((List.perm_insertionSort _ es).map Prod.fst).nodup_iff.mpr hdistinct
      rw [List.Nodup, List.pairwise_map] at hnodup
      refine (hnodup.and pairwise_sortedEntries).imp_of_mem ?_
      rintro a b ha hb ⟨hne, hfirst⟩ names hnames names' hnames'
      obtain ⟨rest, rfl⟩ := head_of_mem_block hnames
      obtain ⟨rest', rfl⟩ := head_of_mem_block hnames'
      exact .apart (entryBefore_of_comesFirst hdistinct (mem_sortedEntries.mp ha)
        (mem_sortedEntries.mp hb) hne hfirst)

/-- A visit ends well, and finds what the walk comes by in its order. -/
theorem visit_eq_block (h : n.WellNamed) : ∃ inside, Lists o n.item? inside ∧
    ∀ (above : List (Place × Path)) (path : Path) (place : Place) (x : Text) (c : Contents),
      c.under x = n.item? → visit o passOver above path place x n =
        .ok ((block o x n inside).map (foundAt c path)) := by
  induction h with
  | @file bytes mode time =>
      refine ⟨[], lists_nil_of_leaf rfl, ?_⟩
      intro above path place x c hc
      have hx : c [x] = some (.file bytes mode time) := congrFun hc []
      rw [visit, block, List.map_singleton, foundAt, hx]
      rfl
  | @link target => exact ⟨[], lists_nil_of_leaf rfl, fun _ _ _ _ _ _ => rfl⟩
  | @dir es distinct named below ih =>
      choose! inside hinside hvisit using ih
      have hlists := lists_blocks distinct inside hinside
      refine ⟨_, hlists, ?_⟩
      intro above path place x c hc
      have hx : c [x] = some .dir := congrFun hc []
      by_cases hname : x ∈ o.excludedDirs
      · simp [visit, block, hname]
      · have hgather := gather_of_blocks (o := o) (c := c.under x) inside fun e he =>
          hvisit e he ((place ++ [x], Path.join path x) :: above) (Path.join path x)
            (place ++ [x]) e.1 (c.under x) (hc ▸ under_dir distinct he)
        -- what is found inside is told by the path of the directory or by the one above it
        have hpaths : ∀ k, Lists o (Node.item? (.dir es)) k →
            k.map (foundAt (c.under x) (Path.join path x)) =
              (k.map (x :: ·)).map (foundAt c path) := by
          intro k hk
          rw [List.map_map]
          apply List.map_congr_left
          intro names hnames
          exact foundAt_cons ((hk.mem_iff names).mp hnames).ne_nil
        have hdir : foundAt c path [x] = ⟨Path.join path x, x, none⟩ := by
          rw [foundAt, hx]
          rfl
        rw [hpaths _ hlists] at hgather
        simp only [visit, block, hname, List.contains_eq_mem, decide_false, Bool.false_eq_true,
          if_false, hgather, bind, Except.bind, pure, Except.pure, List.map_cons, hdir]

end Walk

variable {t : FileTree} {o : WalkOptions} {dir : Path} {root : Place}

/-- A walk that passes over links finds what it comes by below its directory. -/
theorem Walk.all_eq_lists (ht : t.root.WellNamed) (hplace : t.place dir = .ok root)
    (hlinks : o.followLinks = false) :
    ∃ k, Lists o (fun names => t.root.item? (root ++ names)) k ∧
      Walk.all t dir o = .ok (k.map (foundAt (fun names => t.root.item? (root ++ names)) dir)) := by
  by_cases hroot : ∃ es, t.root.get? root = some (.dir es)
  · obtain ⟨es, hes⟩ := hroot
    have hcontents : (fun names => t.root.item? (root ++ names)) = Node.item? (.dir es) := by
      funext names
      rw [Node.item?_append, hes, Option.bind_some]
    rw [hcontents]
    cases ht.get? hes with
    | dir distinct named hbelow =>
        choose! inside hinside hvisit using fun e he => visit_eq_block (o := o) (hbelow e he)
        refine ⟨_, lists_blocks distinct inside hinside, ?_⟩
        have hgather := gather_of_blocks (o := o) (c := Node.item? (.dir es)) inside fun e he =>
          hvisit e he [(root, dir)] dir root e.1 (Node.item? (.dir es)) (under_dir distinct he)
        simp only [Walk.all, hplace, hes, hlinks, Bool.false_eq_true, if_false, Walk.below, hgather]
  · have hall : Walk.all t dir o = .ok [] := by
      simp only [Walk.all, hplace]
      split
      case h_1 es hes => exact absurd ⟨es, hes⟩ hroot
      case h_2 => rfl
    refine ⟨[], ⟨fun names => ⟨?_, ?_⟩, .nil⟩, hall⟩
    · intro hmem
      cases hmem
    · -- something below the place would make it a directory
      intro hcomes
      have habove := Node.item?_dir_of_append hcomes.isSome hcomes.ne_nil
      rw [Node.item?, Option.map_eq_some_iff] at habove
      obtain ⟨n, hn, hitem⟩ := habove
      obtain ⟨es, rfl⟩ := Node.item_eq_dir_iff.mp hitem
      exact absurd ⟨es, hn⟩ hroot

/-- What the options select below a directory. -/
def WalkOptions.Picks (o : WalkOptions) (c : Contents) (names : List Text) : Prop :=
  ∃ above name, names = above ++ [name] ∧ (∀ x ∈ above, x ∉ o.excludedDirs) ∧
    match c names with
    | some (.file _ _ time) => name ∉ o.excludedFiles ∧ (∃ g ∈ o.patterns, g.takes name = true) ∧
        ∀ cutoff, o.modifiedAfter = some cutoff → cutoff ≤ Instant.ceilSeconds time
    | some .dir => name ∉ o.excludedDirs ∧ o.includeDirectories = true
    | _ => False

namespace Walk

variable {c : Contents} {names : List Text}

theorem comes_iff : Comes o c names ↔
    ∃ above name, names = above ++ [name] ∧ (∀ x ∈ above, x ∉ o.excludedDirs) ∧
      match c names with
      | some (.file _ _ _) => True
      | some .dir => name ∉ o.excludedDirs
      | _ => False := by
  constructor
  · intro h
    induction h with
    | @file c x bytes mode time h => exact ⟨[], x, rfl, by simp, by simp [h]⟩
    | @dir c x h hx => exact ⟨[], x, rfl, by simp, by simpa [h] using hx⟩
    | @deeper c x names hx _ ih =>
        obtain ⟨above, name, rfl, habove, hitem⟩ := ih
        refine ⟨x :: above, name, rfl, fun y hy => ?_, hitem⟩
        rcases List.mem_cons.mp hy with rfl | hy
        · exact hx
        · exact habove y hy
  · rintro ⟨above, name, rfl, habove, hitem⟩
    induction above generalizing c with
    | nil =>
        rw [List.nil_append] at hitem ⊢
        split at hitem
        case h_1 h => exact .file h
        case h_2 h => exact .dir h hitem
        case h_3 => cases hitem
    | cons x above ih =>
        exact .deeper (habove x List.mem_cons_self)
          (ih (fun y hy => habove y (List.mem_cons_of_mem _ hy)) hitem)

theorem selectsTime_iff {time : Instant} : o.selectsTime time = true ↔
    ∀ cutoff, o.modifiedAfter = some cutoff → cutoff ≤ Instant.ceilSeconds time := by
  cases h : o.modifiedAfter <;> simp [WalkOptions.selectsTime, h]

theorem picks_iff : o.Picks c names ↔
    Comes o c names ∧ o.selects (foundAt c dir names) = true := by
  have hselects : ∀ above name, names = above ++ [name] → (o.selects (foundAt c dir names) = true ↔
      ((c names).bind Item.time? = none ∧ o.includeDirectories = true) ∨
      ∃ time, (c names).bind Item.time? = some time ∧ o.selectsName name = true ∧
        o.selectsTime time = true) := by
    rintro above name rfl
    rw [WalkOptions.selects, foundAt]
    cases (c (above ++ [name])).bind Item.time? <;> simp
  rw [comes_iff]
  constructor
  · rintro ⟨above, name, heq, habove, hitem⟩
    refine ⟨⟨above, name, heq, habove, ?_⟩, (hselects above name heq).mpr ?_⟩
    · split at hitem <;> simp_all
    · split at hitem
      case h_1 h =>
        simpa [h, Item.time?, WalkOptions.selectsName, selectsTime_iff, and_assoc] using hitem
      case h_2 h => simpa [h, Item.time?] using hitem.2
      case h_3 => cases hitem
  · rintro ⟨⟨above, name, heq, habove, hitem⟩, hsel⟩
    refine ⟨above, name, heq, habove, ?_⟩
    rw [hselects above name heq] at hsel
    split at hitem
    case h_1 h =>
      simpa [h, Item.time?, WalkOptions.selectsName, selectsTime_iff, and_assoc] using hsel
    case h_2 h => exact ⟨hitem, by simpa [h, Item.time?] using hsel⟩
    case h_3 => cases hitem

end Walk

def FileTree.below (t : FileTree) (root : Place) : Contents :=
  fun names => t.root.item? (root ++ names)

/-- A walk from a place has the result that is told by what lies below, whatever the order
in which the directories list it. -/
structure Walk.Canonical (t : FileTree) (dir : Path) (root : Place) (o : WalkOptions)
    (found : List (List Text)) : Prop where
  walk_eq : walk t dir o = .ok (found.map fun names => names.foldl Path.join dir)
  nodup : (found.map fun names => names.foldl Path.join dir).Nodup
  mem_iff : ∀ names, names ∈ found ↔ o.Picks (t.below root) names
  ordered : found.Pairwise ((t.below root).Before o.directoriesFirst)
  inside : ∀ names ∈ found, ∃ before inside after, found = before ++ names :: (inside ++ after) ∧
    (∀ n ∈ inside, names <+: n) ∧ ∀ n ∈ before ++ after, ¬ names <+: n
  relisted : ∀ u : FileTree, t.SameItems u → u.root.WellNamed → walk u dir o = walk t dir o

theorem Path.foldl_join_injective {dir : Path} {names names' : List Text} (hdir : dir ≠ [])
    (hne : names ≠ []) (hne' : names' ≠ []) (h : ∀ x ∈ names, x.IsName)
    (h' : ∀ x ∈ names', x.IsName)
    (heq : names.foldl Path.join dir = names'.foldl Path.join dir) : names = names' := by
  have hsteps := congrArg Path.steps heq
  rw [Path.steps_foldl_join hdir hne h, Path.steps_foldl_join hdir hne' h',
    List.append_cancel_left_eq] at hsteps
  exact List.map_injective_iff.mpr (fun _ _ => PathStep.name.inj) hsteps

theorem WalkOptions.Picks.ne_nil {c : Contents} {names : List Text} (h : o.Picks c names) :
    names ≠ [] := by
  obtain ⟨above, name, rfl, -⟩ := h
  simp

theorem WalkOptions.Picks.isSome {c : Contents} {names : List Text} (h : o.Picks c names) :
    (c names).isSome := by
  obtain ⟨above, name, -, -, hitem⟩ := h
  cases hc : c names with
  | none => simp [hc] at hitem
  | some i => rfl

theorem Walk.exists_ordered (ht : t.root.WellNamed) (hplace : t.place dir = .ok root)
    (hlinks : o.followLinks = false) : ∃ found : List (List Text),
      walk t dir o = .ok (found.map fun names => names.foldl Path.join dir) ∧
      (found.map fun names => names.foldl Path.join dir).Nodup ∧
      (∀ names, names ∈ found ↔ o.Picks (t.below root) names) ∧
      found.Pairwise ((t.below root).Before o.directoriesFirst) := by
  obtain ⟨k, hlists, hall⟩ := Walk.all_eq_lists ht hplace hlinks
  let found := k.filter fun names => o.selects (Walk.foundAt (t.below root) dir names)
  have hmem : ∀ names, names ∈ found ↔ o.Picks (t.below root) names := by
    intro names
    rw [List.mem_filter, hlists.mem_iff]
    exact Walk.picks_iff.symm
  have hordered : found.Pairwise ((t.below root).Before o.directoriesFirst) :=
    hlists.ordered.filter _
  refine ⟨found, ?_, ?_, hmem, hordered⟩
  · simp only [walk, hall, bind, Except.bind, pure, Except.pure, List.filter_map, List.map_map]
    rfl
  · -- different names below the directory make different paths
    have hdir : dir ≠ [] := by
      obtain ⟨hcheck, -⟩ := FileTree.spotOf_eq_ok_iff.mp (FileTree.place_eq_ok_iff.mp hplace)
      exact FileTree.ne_nil_of_checkPath hcheck
    have hnames : ∀ names ∈ found, names ≠ [] ∧ ∀ x ∈ names, x.IsName := by
      intro names hfound
      have hpicks := (hmem names).mp hfound
      refine ⟨hpicks.ne_nil, fun x hx => ?_⟩
      exact ht.isName_of_mem hpicks.isSome (List.mem_append_right root hx)
    refine (Contents.nodup_of_pairwise hordered).map_on ?_
    intro names hfound names' hfound' heq
    exact Path.foldl_join_injective hdir (hnames _ hfound).1 (hnames _ hfound').1
      (hnames _ hfound).2 (hnames _ hfound').2 heq

theorem Walk.nodup_of_walk {paths : List Path} (ht : t.root.WellNamed)
    (hplace : t.place dir = .ok root) (hlinks : o.followLinks = false)
    (h : walk t dir o = .ok paths) : paths.Nodup := by
  obtain ⟨found, hwalk, hnodup, -⟩ := Walk.exists_ordered ht hplace hlinks
  rw [hwalk] at h
  exact Except.ok.inj h ▸ hnodup

/-- A walk depends on what the options select, and on where the directories are. -/
theorem walk_congr {u : FileTree} (ht : t.root.WellNamed) (hu : u.root.WellNamed)
    (hplace : t.place dir = .ok root) (hplace' : u.place dir = .ok root)
    (hlinks : o.followLinks = false)
    (hdirs : ∀ names, u.below root names = some .dir ↔ t.below root names = some .dir)
    (hpicks : ∀ names, o.Picks (u.below root) names ↔ o.Picks (t.below root) names) :
    walk u dir o = walk t dir o := by
  obtain ⟨found, hwalk, -, hmem, hordered⟩ := Walk.exists_ordered (o := o) ht hplace hlinks
  obtain ⟨found', hwalk', -, hmem', hordered'⟩ := Walk.exists_ordered (o := o) hu hplace' hlinks
  have hsame : found' = found := by
    refine Contents.eq_of_pairwise_before (c := t.below root) ?_ hordered fun names => ?_
    · exact hordered'.imp fun hbefore => hbefore.congr fun p => (hdirs p).symm
    · rw [hmem, hmem', hpicks]
  rw [hwalk, hwalk', hsame]

/-- A walk selects the right entries, in one order. -/
theorem walk_canonical (ht : t.root.WellNamed) (hplace : t.place dir = .ok root)
    (hlinks : o.followLinks = false) : ∃ found, Walk.Canonical t dir root o found := by
  obtain ⟨found, hwalk, hnodup, hmem, hordered⟩ := Walk.exists_ordered ht hplace hlinks
  refine ⟨found, hwalk, hnodup, hmem, hordered, ?_, ?_⟩
  · intro names hnames
    exact Contents.exists_inside_of_pairwise hordered hnames
  · intro u hu hnamed
    have hbelow : u.below root = t.below root := funext fun names => hu.item (root ++ names)
    refine walk_congr ht hnamed hplace ((hu.place_eq dir).trans hplace) hlinks ?_ ?_
    · exact fun names => by rw [hbelow]
    · exact fun names => by rw [hbelow]

def unsortedTree : FileTree :=
  ⟨.dir [("t".toList, .dir [("b".toList, .file [] 0 0),
    ("skip".toList, .dir [("z".toList, .file [] 0 0)]),
    ("a".toList, .dir [("y".toList, .file [] 0 0)])])], []⟩

def skipping : WalkOptions :=
  ⟨true, true, false, [⟨"*".toList, [.anySequence]⟩], ["skip".toList], [], some 0⟩

theorem unsortedTree_wellNamed : unsortedTree.root.WellNamed := by
  have hfile : ∀ x : Text, x.IsName → (Node.dir [(x, .file [] 0 0)]).WellNamed := by
    intro x hx
    refine .dir (by simp) (fun e he => ?_) fun e he => ?_
    · obtain rfl := List.mem_singleton.mp he
      exact hx
    · obtain rfl := List.mem_singleton.mp he
      exact .file
  refine .dir (by simp) (by decide) fun e he => ?_
  obtain rfl := List.mem_singleton.mp he
  refine .dir (by decide) (by decide) fun e he => ?_
  simp only [List.mem_cons, List.not_mem_nil, or_false] at he
  rcases he with rfl | rfl | rfl
  · exact .file
  · exact hfile _ (by decide)
  · exact hfile _ (by decide)

theorem walk_canonical_unsorted : unsortedTree.root.WellNamed ∧
    unsortedTree.place "/t" = .ok ["t".toList] ∧ skipping.followLinks = false ∧
    walk unsortedTree "/t" skipping = .ok ["/t/a".toList, "/t/a/y".toList, "/t/b".toList] ∧
    ∃ found, Walk.Canonical unsortedTree "/t" ["t".toList] skipping found :=
  ⟨unsortedTree_wellNamed, by decide, rfl, by decide,
    walk_canonical unsortedTree_wellNamed (by decide) rfl⟩

end TemplateTree
