import TemplateTree.Template.Render
import TemplateTree.Proofs.Run.Jobs
import TemplateTree.Proofs.Text.Entries

/-!
# What a template refers to

A template refers to others by including them, by importing macros from them and by
extending one.  Libraries that agree on names from which no reference leads away have
the same chains and scopes there.
-/

namespace TemplateTree

namespace Template

mutual

def Piece.names : Piece → List Text
  | .extends _ parent => [parent]
  | .include _ names _ => names
  | .importMacros _ file _ => [file]
  | .macroDef _ _ _ body _ => namesIn body
  | .filtered _ _ body _ => namesIn body
  | .loop _ _ _ _ body alternative _ => namesIn body ++ namesIn alternative
  | .block _ _ body _ => namesIn body
  | .branch cases _ => namesInCases cases
  | _ => []

def namesIn : List Piece → List Text
  | [] => []
  | p :: rest => p.names ++ namesIn rest

def namesInCases : List Case → List Text
  | [] => []
  | .mk _ _ body :: rest => namesIn body ++ namesInCases rest

end

def names (t : Template) : List Text :=
  namesIn t.pieces

variable {p : Piece} {pieces body : List Piece} {n : Text} {t : Template}

theorem namesIn_eq (pieces : List Piece) : namesIn pieces = pieces.flatMap Piece.names := by
  induction pieces with
  | nil => rfl
  | cons p rest ih => rw [namesIn, ih, List.flatMap_cons]

theorem namesInCases_eq (cases : List Case) :
    namesInCases cases = cases.flatMap fun c => namesIn c.body := by
  induction cases with
  | nil => rfl
  | cons c rest ih =>
      obtain ⟨trim, condition, body⟩ := c
      rw [namesInCases, ih, List.flatMap_cons, Case.body]

theorem mem_namesIn (hp : p ∈ pieces) (hn : n ∈ p.names) : n ∈ namesIn pieces := by
  rw [namesIn_eq]
  exact List.mem_flatMap.mpr ⟨p, hp, hn⟩

theorem mem_namesInCases {c : Case} {cases : List Case} (hc : c ∈ cases)
    (hn : n ∈ namesIn c.body) : n ∈ namesInCases cases := by
  rw [namesInCases_eq]
  exact List.mem_flatMap.mpr ⟨c, hc, hn⟩

mutual

theorem mem_names_of_blocksOf (p : Piece) {b : Text × List Piece} (hb : b ∈ blocksOf p)
    (hn : n ∈ namesIn b.2) : n ∈ p.names := by
  cases p with
  | block first name body last =>
      rw [blocksOf] at hb
      rw [Piece.names]
      obtain rfl | hb := List.mem_cons.mp hb
      · exact hn
      · exact mem_namesIn_of_blocksIn body hb hn
  | _ => simp [blocksOf] at hb

/-- What the body of a block refers to, the pieces around it refer to. -/
theorem mem_namesIn_of_blocksIn (pieces : List Piece) {b : Text × List Piece}
    (hb : b ∈ blocksIn pieces) (hn : n ∈ namesIn b.2) : n ∈ namesIn pieces := by
  cases pieces with
  | nil => simp [blocksIn] at hb
  | cons p rest =>
      rw [blocksIn, List.mem_append] at hb
      rw [namesIn, List.mem_append]
      obtain hb | hb := hb
      · exact .inl (mem_names_of_blocksOf p hb hn)
      · exact .inr (mem_namesIn_of_blocksIn rest hb hn)

end

/-- A template whose parts are those of its pieces. -/
structure Regular (t : Template) : Prop where
  parent : t.parent = parentIn t.pieces
  blocks : t.blocks = blocksIn t.pieces
  macros : t.macros = macrosIn t.pieces
  imports : t.imports = importsIn t.pieces

theorem ofPieces_eq_ok (h : ofPieces n pieces = .ok t) : t.name = n ∧ t.Regular := by
  unfold ofPieces at h
  dsimp only at h
  split at h
  · cases h
  · split at h
    · cases h
    · cases h
      exact ⟨rfl, rfl, rfl, rfl, rfl⟩

theorem parse_eq_ok {text : Text} (h : parse n text = .ok t) : t.name = n ∧ t.Regular := by
  unfold parse at h
  dsimp only at h
  split at h
  · cases h
  · split at h
    · cases h
    · split at h
      · cases h
      case h_2 hpieces =>
        cases h
        exact ofPieces_eq_ok hpieces

namespace Regular

theorem parent_mem (ht : t.Regular) (h : t.parent = some n) : n ∈ t.names := by
  rw [ht.parent, parentIn] at h
  obtain ⟨p, hp, hn⟩ := List.mem_filterMap.mp (List.mem_of_getLast? h)
  split at hn
  case h_1 trim parent =>
    obtain rfl : parent = n := by simpa using hn
    exact mem_namesIn hp (by simp [Piece.names])
  case h_2 => cases hn

theorem import_mem (ht : t.Regular) {i : Text × Text} (h : i ∈ t.imports) : i.1 ∈ t.names := by
  rw [ht.imports, importsIn] at h
  obtain ⟨p, hp, hn⟩ := List.mem_filterMap.mp h
  split at hn
  case h_1 trim file scope =>
    obtain rfl : (file, scope) = i := by simpa using hn
    exact mem_namesIn hp (by simp [Piece.names])
  case h_2 => cases hn

theorem mem_of_block (ht : t.Regular) (h : t.block? n = some body) {m : Text}
    (hm : m ∈ namesIn body) : m ∈ t.names := by
  rw [block?, ht.blocks] at h
  exact mem_namesIn_of_blocksIn t.pieces (ByName.mem_of_lookup h) hm

theorem mem_of_macro (ht : t.Regular) {d : MacroDef} (h : t.macro? n = some d) {m : Text}
    (hm : m ∈ namesIn d.body) : m ∈ t.names := by
  have hd := List.mem_of_find?_eq_some h
  rw [ht.macros, macrosIn] at hd
  obtain ⟨p, hp, hn⟩ := List.mem_filterMap.mp hd
  split at hn
  case h_1 first name params body last =>
    obtain rfl : (⟨name, params, body⟩ : MacroDef) = d := by simpa using hn
    exact mem_namesIn hp (by simpa [Piece.names] using hm)
  case h_2 => cases hn

end Regular

end Template

namespace Library

variable {D : Text → Prop} {l l' : Library} {n : Text} {t : Template}

theorem name_of_find? (h : l.find? n = some t) : t.name = n := by
  simpa using List.find?_some h

/-! ## Scopes -/

/-- Scopes, and more for names that are not there yet. -/
def addNew (known more : List (Text × Text)) : List (Text × Text) :=
  more.foldl (fun m p => if (m.lookup p.1).isSome then m else m ++ [p]) known

/-- Scopes after an import. -/
def afterImport (l : Library) (fuel : Nat) (m : List (Text × Text)) (i : Text × Text) :
    List (Text × Text) :=
  let here := (i.2, i.1) :: m.filter (fun p => p.1 ≠ i.2)
  match l.find? i.1 with
  | some u => addNew here (l.scopes fuel u)
  | none => here

/-- Scopes after those of a parent. -/
def afterParent (l : Library) (fuel : Nat) (m : List (Text × Text)) (p : Text) :
    List (Text × Text) :=
  match l.find? p with
  | some u => addNew m (l.scopes fuel u)
  | none => m

theorem scopes_succ (fuel : Nat) : l.scopes (fuel + 1) t =
    (l.parents t).foldl (l.afterParent fuel) (t.imports.foldl (l.afterImport fuel)
      (if t.macros.isEmpty then [] else [("self".toList, t.name)])) := rfl

/-- Scopes that lead to names of a kind. -/
def ScopesIn (D : Text → Prop) (m : List (Text × Text)) : Prop :=
  ∀ p ∈ m, D p.2

theorem ScopesIn.addNew {known more : List (Text × Text)} (hknown : ScopesIn D known)
    (hmore : ScopesIn D more) : ScopesIn D (addNew known more) := by
  unfold Library.addNew
  induction more generalizing known with
  | nil => exact hknown
  | cons p more ih =>
      refine ih ?_ fun q hq => hmore q (List.mem_cons_of_mem _ hq)
      dsimp only
      split
      · exact hknown
      · intro q hq
        obtain hq | rfl := List.mem_append.mp hq |>.imp_right List.mem_singleton.mp
        · exact hknown q hq
        · exact hmore q List.mem_cons_self

/-- Folds that agree step by step on what holds all the way. -/
theorem foldl_eq_of_forall {α β : Type} {f f' : β → α → β} {P : β → Prop} {as : List α} {b : β}
    (hb : P b) (hf : ∀ b, P b → ∀ a ∈ as, f' b a = f b a ∧ P (f b a)) :
    as.foldl f' b = as.foldl f b ∧ P (as.foldl f b) := by
  induction as generalizing b with
  | nil => exact ⟨rfl, hb⟩
  | cons a as ih =>
      obtain ⟨heq, hnext⟩ := hf b hb a List.mem_cons_self
      rw [List.foldl_cons, List.foldl_cons, heq]
      exact ih hnext fun b hb a ha => hf b hb a (List.mem_cons_of_mem _ ha)

/-! ## Libraries that agree -/

/-- Libraries that are the same for names from which no reference leads away, and whose
chains all end. -/
structure Agree (D : Text → Prop) (l l' : Library) : Prop where
  find : ∀ n, D n → l'.find? n = l.find? n
  closed : ∀ n t, D n → l.find? n = some t → t.Regular ∧ ∀ m ∈ t.names, D m
  chains : ∀ n t, l.find? n = some t → ∃ above, l.chain t = .ok above
  chains' : ∀ n t, l'.find? n = some t → ∃ above, l'.chain t = .ok above

namespace Agree

variable (h : Agree D l l')
include h

theorem chainFrom_eq {start : Text} {fuel fuel' : Nat} {above names names' : List Text}
    (hn : D n) (ht : l.find? n = some t) (hfirst : l.chainFrom start fuel t above = .ok names)
    (hother : l'.chainFrom start fuel' t above = .ok names') : names' = names := by
  induction fuel generalizing fuel' n t above with
  | zero => cases hfirst
  | succ fuel ih =>
      cases fuel' with
      | zero => cases hother
      | succ fuel' =>
          rw [chainFrom] at hfirst hother
          split at hfirst
          case isTrue => cases hfirst
          case isFalse hcircle =>
            rw [if_neg hcircle] at hother
            cases hparent : t.parent with
            | none =>
                simp only [hparent] at hfirst hother
                cases hfirst
                cases hother
                rfl
            | some p =>
                obtain ⟨hregular, hnames⟩ := h.closed n t hn ht
                have hp : D p := hnames p (hregular.parent_mem hparent)
                simp only [hparent, h.find p hp] at hfirst hother
                cases hfind : l.find? p with
                | none =>
                    simp only [hfind] at hfirst
                    cases hfirst
                | some parent =>
                    simp only [hfind] at hfirst hother
                    exact ih hp hfind hfirst hother

theorem mem_of_chainFrom {start : Text} {fuel : Nat} {above names : List Text}
    (hn : D n) (ht : l.find? n = some t) (habove : ∀ m ∈ above, D m)
    (hchain : l.chainFrom start fuel t above = .ok names) : ∀ m ∈ names, D m := by
  induction fuel generalizing n t above with
  | zero => cases hchain
  | succ fuel ih =>
      rw [chainFrom] at hchain
      split at hchain
      case isTrue => cases hchain
      case isFalse =>
        cases hparent : t.parent with
        | none =>
            simp only [hparent] at hchain
            cases hchain
            exact habove
        | some p =>
            obtain ⟨hregular, hnames⟩ := h.closed n t hn ht
            have hp : D p := hnames p (hregular.parent_mem hparent)
            cases hfind : l.find? p with
            | none =>
                simp only [hparent, hfind] at hchain
                cases hchain
            | some parent =>
                simp only [hparent, hfind] at hchain
                refine ih hp hfind (fun m hm => ?_) hchain
                obtain hm | rfl := List.mem_append.mp hm |>.imp_right List.mem_singleton.mp
                · exact habove m hm
                · exact name_of_find? hfind ▸ hp

theorem parents_eq (hn : D n) (ht : l.find? n = some t) : l'.parents t = l.parents t := by
  obtain ⟨names, hnames⟩ := h.chains n t ht
  obtain ⟨names', hnames'⟩ := h.chains' n t (h.find n hn ▸ ht)
  rw [parents, parents, hnames, hnames', h.chainFrom_eq hn ht hnames hnames']

theorem mem_of_parents (hn : D n) (ht : l.find? n = some t) : ∀ m ∈ l.parents t, D m := by
  obtain ⟨names, hnames⟩ := h.chains n t ht
  rw [parents, hnames]
  exact h.mem_of_chainFrom hn ht (by simp) hnames

/-- Scopes are the same and lead to names where the libraries agree. -/
theorem scopes_eq (fuel : Nat) (hn : D n) (ht : l.find? n = some t) :
    l'.scopes fuel t = l.scopes fuel t ∧ ScopesIn D (l.scopes fuel t) := by
  induction fuel generalizing n t with
  | zero => exact ⟨rfl, by simp [scopes, ScopesIn]⟩
  | succ fuel ih =>
      obtain ⟨hregular, hnames⟩ := h.closed n t hn ht
      have hown : ScopesIn D (if t.macros.isEmpty then [] else [("self".toList, t.name)]) := by
        split
        · simp [ScopesIn]
        · simpa [ScopesIn, name_of_find? ht] using hn
      -- the scopes of a template are folds over its imports and then over its parents, and
      -- each step looks up a name on which the libraries agree
      have himport : ∀ m, ScopesIn D m → ∀ i ∈ t.imports,
          l'.afterImport fuel m i = l.afterImport fuel m i ∧
            ScopesIn D (l.afterImport fuel m i) := by
        intro m hm i hi
        have hfile : D i.1 := hnames i.1 (hregular.import_mem hi)
        have hhere : ScopesIn D ((i.2, i.1) :: m.filter (fun p => p.1 ≠ i.2)) := by
          intro q hq
          obtain rfl | hq := List.mem_cons.mp hq
          · exact hfile
          · exact hm q (List.mem_of_mem_filter hq)
        unfold afterImport
        rw [h.find i.1 hfile]
        cases hfind : l.find? i.1 with
        | none => exact ⟨rfl, hhere⟩
        | some u =>
            obtain ⟨heq, hinside⟩ := ih hfile hfind
            simp only [heq, true_and]
            exact hhere.addNew hinside
      have hparent : ∀ m, ScopesIn D m → ∀ p ∈ l.parents t,
          l'.afterParent fuel m p = l.afterParent fuel m p ∧
            ScopesIn D (l.afterParent fuel m p) := by
        intro m hm p hp
        have hname : D p := h.mem_of_parents hn ht p hp
        unfold afterParent
        rw [h.find p hname]
        cases hfind : l.find? p with
        | none => exact ⟨rfl, hm⟩
        | some u =>
            obtain ⟨heq, hinside⟩ := ih hname hfind
            simp only [heq, true_and]
            exact hm.addNew hinside
      obtain ⟨himports, hinside⟩ := foldl_eq_of_forall hown himport
      rw [scopes_succ, scopes_succ, h.parents_eq hn ht, himports]
      exact foldl_eq_of_forall hinside hparent

end Agree

/-! ## Libraries of texts -/

variable {texts : List (Text × Text)}

theorem find?_of_parseAll {ts : List Template} (h : parseAll texts = .ok ts) :
    ts.find? (fun t => t.name = n) =
      (texts.lookup n).bind fun text => (Template.parse n text).toOption := by
  induction texts generalizing ts with
  | nil =>
      cases h
      rfl
  | cons e texts ih =>
      obtain ⟨name, text⟩ := e
      obtain ⟨t, ht, h⟩ := except_bind_eq_ok h
      obtain ⟨rest, hrest, h⟩ := except_bind_eq_ok h
      cases h
      obtain ⟨rfl, -⟩ := Template.parse_eq_ok ht
      rw [List.find?_cons, List.lookup_cons, ih hrest]
      by_cases hn : t.name = n
      · subst hn
        simp [ht, Except.toOption]
      · simp [hn, beq_false_of_ne (Ne.symm hn)]

theorem exists_of_parseAll {ts : List Template} {text : Text} (h : parseAll texts = .ok ts)
    (hn : texts.lookup n = some text) : ∃ t, Template.parse n text = .ok t := by
  induction texts generalizing ts with
  | nil => cases hn
  | cons e texts ih =>
      obtain ⟨name, text'⟩ := e
      obtain ⟨t, ht, h⟩ := except_bind_eq_ok h
      obtain ⟨rest, hrest, h⟩ := except_bind_eq_ok h
      rw [List.lookup_cons] at hn
      split at hn
      case h_1 heq =>
        obtain rfl := Option.some.inj hn
        obtain rfl : n = name := by simpa using heq
        exact ⟨t, ht⟩
      case h_2 => exact ih hrest hn

theorem chain_of_checkChains {ts : List Template} (h : l.checkChains ts = .ok ()) (ht : t ∈ ts) :
    ∃ above, l.chain t = .ok above := by
  induction ts with
  | nil => simp at ht
  | cons u ts ih =>
      obtain ⟨above, habove, h⟩ := except_bind_eq_ok h
      obtain rfl | ht := List.mem_cons.mp ht
      · exact ⟨above, habove⟩
      · exact ih h ht

/-- The templates of a library of texts, and their chains. -/
theorem ofTexts_spec (h : ofTexts texts = .ok l) :
    (∀ n, l.find? n = (texts.lookup n).bind fun text => (Template.parse n text).toOption) ∧
    ∀ n t, l.find? n = some t → t.Regular ∧ ∃ above, l.chain t = .ok above := by
  obtain ⟨ts, hts, h⟩ := except_bind_eq_ok h
  obtain ⟨_, hchains, h⟩ := except_bind_eq_ok h
  obtain ⟨_, -, h⟩ := except_bind_eq_ok h
  cases h
  have hfind : ∀ n, (⟨ts⟩ : Library).find? n =
      (texts.lookup n).bind fun text => (Template.parse n text).toOption :=
    fun n => find?_of_parseAll hts
  refine ⟨hfind, fun n t ht => ⟨?_, chain_of_checkChains hchains (List.mem_of_find?_eq_some ht)⟩⟩
  rw [hfind] at ht
  obtain ⟨text, -, hparse⟩ := Option.bind_eq_some_iff.mp ht
  cases hresult : Template.parse n text with
  | error e => simp [hresult, Except.toOption] at hparse
  | ok u =>
      obtain rfl : u = t := by simpa [hresult, Except.toOption] using hparse
      exact (Template.parse_eq_ok hresult).2

/-- Every text of a library parses. -/
theorem exists_of_ofTexts {text : Text} (h : ofTexts texts = .ok l)
    (hn : texts.lookup n = some text) :
    ∃ t, Template.parse n text = .ok t ∧ l.find? n = some t := by
  obtain ⟨ts, hts, -⟩ := except_bind_eq_ok h
  obtain ⟨t, ht⟩ := exists_of_parseAll hts hn
  refine ⟨t, ht, ?_⟩
  rw [(ofTexts_spec h).1, hn, Option.bind_some, ht]
  rfl

/-- The names to which references lead from a name. -/
inductive Reaches (l : Library) (start : Text) : Text → Prop
  | start : Reaches l start start
  | step {n m : Text} {t : Template} (h : Reaches l start n) (ht : l.find? n = some t)
      (hm : m ∈ t.names) : Reaches l start m

end Library

end TemplateTree
