import TemplateTree.Proofs.Template.Reach
import TemplateTree.Proofs.Template.Tags

/-!
# What a parsed template refers to

Every name to which a parsed template refers is quoted in a tag of the tree from which it is
read.  Taking white space off changes no name.
-/

namespace TemplateTree

namespace Template

open Peg ParseTree Rule

/-! ## White space -/

/-- A text loses white space, and is left out if nothing else is in it. -/
theorem trimPieces_text (before after : Bool) (t : Text) (rest : List Piece) :
    ∃ kept, trimPieces before after (.text t :: rest) =
      if kept = [] then trimPieces false after rest
      else .text kept :: trimPieces false after rest :=
  ⟨_, trimPieces.eq_def before after _⟩

theorem namesIn_text (t : Text) (rest : List Piece) : namesIn (.text t :: rest) = namesIn rest := by
  simp [namesIn, Piece.names]

mutual

theorem names_trimPiece (p : Piece) : (trimPiece p).names = p.names := by
  cases p with
  | macroDef first name params body last =>
      rw [trimPiece, Piece.names, Piece.names, namesIn_trimPieces]
  | filtered first filter body last =>
      rw [trimPiece, Piece.names, Piece.names, namesIn_trimPieces]
  | loop first key item container body alternative last =>
      rw [trimPiece, Piece.names, Piece.names, namesIn_trimPieces]
  | block first name body last =>
      rw [trimPiece, Piece.names, Piece.names, namesIn_trimPieces]
  | branch cases last =>
      rw [trimPiece, Piece.names, Piece.names, namesInCases_trimCases]
  | raw => rw [trimPiece, Piece.names, Piece.names] <;> nofun
  | _ => rw [trimPiece] <;> nofun

theorem namesIn_trimPieces (before after : Bool) (pieces : List Piece) :
    namesIn (trimPieces before after pieces) = namesIn pieces := by
  cases pieces with
  | nil => rfl
  | cons p rest =>
      cases p with
      | text t =>
          obtain ⟨kept, hcons⟩ := trimPieces_text before after t rest
          rw [hcons, namesIn_text]
          split
          · rw [namesIn_trimPieces]
          · rw [namesIn_text, namesIn_trimPieces]
      | _ =>
          rw [trimPieces, namesIn, namesIn, names_trimPiece, namesIn_trimPieces]
          nofun

theorem namesInCases_trimCases (last : Trim) (cases : List Case) :
    namesInCases (trimCases last cases) = namesInCases cases := by
  cases cases with
  | nil => rfl
  | cons c rest =>
      obtain ⟨trim, condition, body⟩ := c
      obtain ⟨atEnd, hcons⟩ : ∃ atEnd, trimCases last (.mk trim condition body :: rest) =
          .mk trim condition (trimPieces trim.after atEnd body) :: trimCases last rest :=
        ⟨_, trimCases.eq_def last _⟩
      rw [hcons, namesInCases, namesInCases, namesIn_trimPieces, namesInCases_trimCases]

end

/-! ## Reading -/

/-- The names that are quoted in the tags among trees. -/
def tagged (ts : List Tree) : List Text :=
  (nodesIn ts).flatMap quoted

/-- Trees whose tags for extending and importing quote a name. -/
def Complete (ts : List Tree) : Prop :=
  ∀ u ∈ nodesIn ts, u.rule = .extendsTag ∨ u.rule = .importTag → has .string u.inner = true

variable {fuel : Nat} {ts us : List Tree} {t : Tree} {p : Piece} {pieces : List Piece} {n : Text}

theorem tagged_subset (h : us ⊆ ts) : tagged us ⊆ tagged ts :=
  flatMap_subset (nodesIn_subset h)

theorem tagged_inner (t : Tree) : tagged t.inner ⊆ tagged [t] := by
  rw [tagged, tagged, nodesIn_singleton, nodes_eq]
  exact List.subset_append_right _ _

theorem Complete.subset (h : Complete ts) (hus : us ⊆ ts) : Complete us :=
  fun u hu => h u (nodesIn_subset hus hu)

theorem Complete.inner (h : Complete [t]) : Complete t.inner := by
  intro u hu
  refine h u ?_
  rw [nodesIn_singleton, nodes_eq]
  exact List.mem_cons_of_mem t hu

theorem textsOf_subset (r : Rule) (h : us ⊆ ts) : textsOf r us ⊆ textsOf r ts :=
  List.map_subset _ (List.filter_subset _ h)

theorem textOf_mem {r : Rule} (h : has r ts = true) : textOf r ts ∈ textsOf r ts := by
  obtain ⟨u, hu, hr⟩ := List.any_eq_true.mp h
  have hmem : u.text ∈ textsOf r ts :=
    List.mem_map_of_mem (List.mem_filter.mpr ⟨hu, hr⟩)
  rw [textOf]
  cases htexts : textsOf r ts with
  | nil => simp [htexts] at hmem
  | cons first rest => exact List.mem_cons_self

theorem quoted_subset_tagged (t : Tree) : quoted t ⊆ tagged [t] := by
  rw [tagged, nodesIn_singleton]
  exact fun n hn => List.mem_flatMap.mpr ⟨t, t.self_mem_nodes, hn⟩

theorem mem_quoted {w : Text}
    (ht : t.rule = .includeTag ∨ t.rule = .extendsTag ∨ t.rule = .importTag)
    (hw : w ∈ textsOf .string (nodesIn t.inner)) : unquote w ∈ quoted t := by
  rw [quoted, if_pos ht]
  exact List.mem_map_of_mem hw

theorem between_subset (ts : List Tree) : between ts ⊆ ts :=
  List.Subset.trans (List.dropLast_subset _) (List.drop_subset 1 ts)

theorem mem_of_mem_cutCases {c : Tree × List Tree} (h : c ∈ cutCases ts) :
    c.1 ∈ ts ∧ c.2 ⊆ ts := by
  induction ts with
  | nil => cases h
  | cons t ts ih =>
      have hrest : c ∈ cutCases ts → c.1 ∈ t :: ts ∧ c.2 ⊆ t :: ts := fun hmem =>
        ⟨List.mem_cons_of_mem t (ih hmem).1, List.subset_cons_of_subset t (ih hmem).2⟩
      rw [cutCases] at h
      dsimp only at h
      split at h
      · rcases List.mem_cons.mp h with rfl | hmem
        · exact ⟨List.mem_cons_self, List.subset_cons_of_subset t (List.takeWhile_subset _)⟩
        · exact hrest hmem
      · exact hrest h

theorem namesIn_subset_of_mapM
    (hread : ∀ u ∈ us, ∀ p, readPiece fuel u = .ok p → p.names ⊆ tagged [u])
    (h : us.mapM (readPiece fuel) = .ok pieces) : namesIn pieces ⊆ tagged us := by
  intro n hn
  rw [namesIn_eq] at hn
  obtain ⟨p, hp, hn⟩ := List.mem_flatMap.mp hn
  obtain ⟨u, hu, hreads⟩ := exists_of_mapM h hp
  have hsub : [u] ⊆ us := by simpa using hu
  exact tagged_subset hsub (hread u hu p hreads hn)

theorem namesInCases_subset_of_mapM {parts : List (Tree × List Tree)} {names : List Text}
    {read : Tree × List Tree → Except IntegerOverflow Case} {cases : List Case}
    (hread : ∀ part ∈ parts, ∀ c, read part = .ok c → namesIn c.body ⊆ names)
    (h : parts.mapM read = .ok cases) : namesInCases cases ⊆ names := by
  intro n hn
  rw [namesInCases_eq] at hn
  obtain ⟨c, hc, hn⟩ := List.mem_flatMap.mp hn
  obtain ⟨part, hpart, hreads⟩ := exists_of_mapM h hc
  exact hread part hpart c hreads hn

theorem mem_quoted_of_include (ht : t.rule = .includeTag) {w : Text}
    (hw : w ∈ textsOf .string
      (t.inner ++ (t.inner.filter (fun u => u.rule = .stringArray)).flatMap ParseTree.inner)) :
    unquote w ∈ quoted t := by
  refine mem_quoted (.inl ht) (textsOf_subset .string ?_ hw)
  refine List.append_subset.mpr ⟨subset_nodesIn t.inner, fun v hv => ?_⟩
  obtain ⟨u, hu, hv⟩ := List.mem_flatMap.mp hv
  have hnode : v ∈ u.nodes := by
    rw [nodes_eq]
    exact List.mem_cons_of_mem u (subset_nodesIn u.inner hv)
  rw [nodesIn_eq]
  exact List.mem_flatMap.mpr ⟨u, List.mem_of_mem_filter hu, hnode⟩

theorem mem_quoted_of_complete (h : Complete [t])
    (ht : t.rule = .extendsTag ∨ t.rule = .importTag) :
    unquote (textOf .string t.inner) ∈ quoted t := by
  have hnode : t ∈ nodesIn [t] := by
    rw [nodesIn_singleton]
    exact t.self_mem_nodes
  have hmem := textOf_mem (h t hnode ht)
  exact mem_quoted (.inr ht) (textsOf_subset .string (subset_nodesIn t.inner) hmem)

/-- What a piece refers to is quoted in the tree from which it is read. -/
theorem names_subset_of_readPiece (ht : Complete [t]) (h : readPiece fuel t = .ok p) :
    p.names ⊆ tagged [t] := by
  induction fuel generalizing t p with
  | zero =>
      cases h
      simp [Piece.names]
  | succ fuel ih =>
      -- all bodies of a piece are read from trees inside its own
      have hbody : ∀ us pieces, us ⊆ t.inner → us.mapM (readPiece fuel) = .ok pieces →
          namesIn pieces ⊆ tagged [t] := by
        intro us pieces hus hreads
        have hpieces : namesIn pieces ⊆ tagged us := by
          refine namesIn_subset_of_mapM (fun u hu q hq => ?_) hreads
          exact ih ((ht.inner.subset hus).subset (by simpa using hu)) hq
        exact List.Subset.trans hpieces (List.Subset.trans (tagged_subset hus) (tagged_inner t))
      rw [readPiece] at h
      dsimp only at h
      split at h
      case h_5 hrule =>
        cases h
        rw [Piece.names]
        have hquoted := quoted_subset_tagged t (mem_quoted_of_complete ht (.inl hrule))
        simpa using hquoted
      case h_6 hrule =>
        cases h
        rw [Piece.names]
        intro n hn
        obtain ⟨w, hw, rfl⟩ := List.mem_map.mp hn
        exact quoted_subset_tagged t (mem_quoted_of_include hrule hw)
      case h_7 hrule =>
        cases h
        rw [Piece.names]
        have hquoted := quoted_subset_tagged t (mem_quoted_of_complete ht (.inr hrule))
        simpa using hquoted
      case h_13 | h_14 =>
        have hpiece : ∃ trim filter body last, p = .filtered trim filter body last ∧
            (between t.inner).mapM (readPiece fuel) = .ok body := by
          split at h
          all_goals
            obtain ⟨filter, -, h⟩ := except_bind_eq_ok h
            obtain ⟨body, hreads, h⟩ := except_bind_eq_ok h
            cases h
            exact ⟨_, _, body, _, rfl, hreads⟩
        obtain ⟨trim, filter, body, last, rfl, hreads⟩ := hpiece
        rw [Piece.names]
        exact hbody _ _ (between_subset _) hreads
      case h_15 | h_16 =>
        obtain ⟨body, hreads, h⟩ := except_bind_eq_ok h
        obtain ⟨alternative, hreads', h⟩ := except_bind_eq_ok h
        obtain ⟨container, -, h⟩ := except_bind_eq_ok h
        cases h
        rw [Piece.names]
        refine List.append_subset.mpr ⟨hbody _ _ ?_ hreads, hbody _ _ ?_ hreads'⟩
        · exact List.Subset.trans (List.takeWhile_subset _) (between_subset _)
        · exact List.Subset.trans (List.drop_subset 1 _)
            (List.Subset.trans (List.dropWhile_subset _) (between_subset _))
      case h_17 =>
        obtain ⟨body, hreads, h⟩ := except_bind_eq_ok h
        cases h
        rw [Piece.names]
        exact hbody _ _ (between_subset _) hreads
      case h_18 =>
        obtain ⟨params, -, h⟩ := except_bind_eq_ok h
        obtain ⟨body, hreads, h⟩ := except_bind_eq_ok h
        cases h
        rw [Piece.names]
        exact hbody _ _ (between_subset _) hreads
      case h_2 | h_8 | h_9 =>
        obtain ⟨e, -, h⟩ := except_bind_eq_ok h
        cases h
        simp [Piece.names]
      case h_19 | h_20 | h_21 | h_22 | h_23 =>
        obtain ⟨cases, hcases, h⟩ := except_bind_eq_ok h
        cases h
        rw [Piece.names]
        refine namesInCases_subset_of_mapM (fun part hpart c hcase => ?_) hcases
        have hreads : part.2.mapM (readPiece fuel) = .ok c.body := by
          split at hcase
          all_goals
            obtain ⟨condition, -, hcase⟩ := except_bind_eq_ok hcase
            obtain ⟨body, hreads, hcase⟩ := except_bind_eq_ok hcase
            cases hcase
            exact hreads
        exact hbody _ _ (mem_of_mem_cutCases hpart).2 hreads
      all_goals
        cases h
        simp [Piece.names]

theorem pieces_of_ofPieces {template : Template} (h : ofPieces n pieces = .ok template) :
    template.pieces = pieces := by
  unfold ofPieces at h
  dsimp only at h
  split at h
  · cases h
  · split at h
    · cases h
    · cases h
      rfl

/-- The names to which a parsed template refers are quoted in tags of the tree of its text. -/
theorem names_subset_of_parse {template : Template} {text : Text}
    (h : parse n text = .ok template) :
    ∃ t, Peg.parse grammar .template text = .ok t ∧ template.names ⊆ tagged [t] := by
  unfold parse at h
  dsimp only at h
  split at h
  case h_1 => cases h
  case h_2 t htree =>
    split at h
    case h_1 => cases h
    case h_2 pieces hpieces =>
      split at h
      case h_1 => cases h
      case h_2 template' htemplate =>
        cases h
        refine ⟨t, htree, ?_⟩
        rw [names, pieces_of_ofPieces htemplate, namesIn_trimPieces]
        have hcomplete : Complete [t] := by
          intro u hu
          rw [nodesIn_singleton] at hu
          exact has_string_of_mem_nodes htree hu
        have hinner : (t.inner.dropWhile fun u => u.rule = .commentTag).filter
            (fun u => u.rule ≠ .eoi) ⊆ t.inner :=
          List.Subset.trans (List.filter_subset_self _) (List.dropWhile_subset _)
        have hnames : namesIn pieces ⊆ tagged
            ((t.inner.dropWhile fun u => u.rule = .commentTag).filter
              (fun u => u.rule ≠ .eoi)) := by
          refine namesIn_subset_of_mapM (fun u hu p hp => ?_) hpieces
          exact names_subset_of_readPiece
            ((hcomplete.inner.subset hinner).subset (by simpa using hu)) hp
        exact List.Subset.trans hnames (List.Subset.trans (tagged_subset hinner) (tagged_inner t))

end Template

end TemplateTree
