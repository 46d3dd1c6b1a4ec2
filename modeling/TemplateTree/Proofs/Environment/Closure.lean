import TemplateTree.Proofs.Environment.Loading
import Mathlib.Data.Multiset.AddSub

/-!
# The files that are loaded

Loading reads the renderable templates, and then the stencils that a text which was read
names, until no name is left.  In whatever order the names are taken, this ends, no file
is read twice, and what was read are the files that the templates reach.
-/

namespace TemplateTree

namespace Sources

/-- The files that renderable templates reach: themselves, and the stencils that the
processed text of such a file names. -/
inductive Reached (files : FileTree) (o : EngineOptions) (set : TemplateSet) : TemplateFile → Prop
  | template {f : TemplateFile} (hf : f ∈ set.templates) : Reached files o set f
  | stencil {f g : TemplateFile} {source : Source} (hf : Reached files o set f)
      (hread : read files o f = .ok source) (hg : g ∈ set.stencils)
      (hname : g.name ∈ Source.references source.processed) : Reached files o set g

theorem Reached.mem {files : FileTree} {o : EngineOptions} {set : TemplateSet} {f : TemplateFile}
    (h : Reached files o set f) : f ∈ set.templates ++ set.stencils := by
  cases h with
  | template hf => exact List.mem_append_left _ hf
  | stencil _ _ hg _ => exact List.mem_append_right _ hg

/-- Loading in progress: the sources that were read, the files to be read next, the names
whose references are still to be looked at, in no order, and a log of the reading. -/
structure Loading where
  sources : Sources
  todo : List TemplateFile
  pending : Multiset Text
  log : List TemplateFile

namespace Loading

def start (set : TemplateSet) : Loading :=
  ⟨[], set.templates, 0, []⟩

def Done (l : Loading) : Prop :=
  l.todo = [] ∧ l.pending = 0

/-- A turn of loading; any pending name may be taken. -/
inductive Turn (files : FileTree) (o : EngineOptions) (stencils : List TemplateFile) :
    Loading → Loading → Prop
  | known {sources : Sources} {f : TemplateFile} {todo : List TemplateFile}
      {pending : Multiset Text} {log : List TemplateFile} (hf : sources.has f.name = true) :
      Turn files o stencils ⟨sources, f :: todo, pending, log⟩ ⟨sources, todo, pending, log⟩
  | read {sources : Sources} {f : TemplateFile} {todo : List TemplateFile}
      {pending : Multiset Text} {log : List TemplateFile} {source : Source}
      (hf : sources.has f.name = false) (hread : Sources.read files o f = .ok source) :
      Turn files o stencils ⟨sources, f :: todo, pending, log⟩
        ⟨sources.put f.name source, todo, f.name ::ₘ pending, f :: log⟩
  | take {sources : Sources} {name : Text} {pending : Multiset Text} {log : List TemplateFile}
      {source : Source} (hsource : sources.lookup name = some source) :
      Turn files o stencils ⟨sources, [], name ::ₘ pending, log⟩
        ⟨sources, stencilsNamed stencils source.processed, pending, log⟩
  | pass {sources : Sources} {name : Text} {pending : Multiset Text} {log : List TemplateFile}
      (hnone : sources.lookup name = none) :
      Turn files o stencils ⟨sources, [], name ::ₘ pending, log⟩ ⟨sources, [], pending, log⟩

/-- A file that has to be read and cannot be. -/
inductive StuckAt (files : FileTree) (o : EngineOptions) : Loading → TemplateFile → Failure → Prop
  | read {sources : Sources} {f : TemplateFile} {todo : List TemplateFile}
      {pending : Multiset Text} {log : List TemplateFile} {e : Failure}
      (hf : sources.has f.name = false) (hread : Sources.read files o f = .error e) :
      StuckAt files o ⟨sources, f :: todo, pending, log⟩ f e

/-- Turns one after the other. -/
abbrev Turns (files : FileTree) (o : EngineOptions) (stencils : List TemplateFile) :
    Loading → Loading → Prop :=
  Relation.ReflTransGen (Turn files o stencils)

def Holds (l : Loading) (name : Text) : Prop :=
  l.sources.has name = true ∨ ∃ f ∈ l.todo, f.name = name

/-- What holds all the time. -/
structure Consistent (files : FileTree) (o : EngineOptions) (set : TemplateSet) (l : Loading) :
    Prop where
  ordered : l.sources.Pairwise fun a b => Text.order a.1 b.1 = .lt
  source : ∀ name source, l.sources.lookup name = some source →
    ∃ f, Reached files o set f ∧ f.name = name ∧ Sources.read files o f = .ok source
  todo : ∀ f ∈ l.todo, Reached files o set f
  templates : ∀ f ∈ set.templates, l.Holds f.name
  closed : ∀ name source, l.sources.lookup name = some source → name ∈ l.pending ∨
    ∀ g ∈ set.stencils, g.name ∈ Source.references source.processed → l.Holds g.name
  logged : ∀ f ∈ l.log, Reached files o set f ∧ l.sources.has f.name = true
  once : l.log.Nodup

variable {files : FileTree} {o : EngineOptions} {set : TemplateSet} {l l' : Loading}
  {stencils fs todo : List TemplateFile} {f g : TemplateFile} {text name : Text}
  {sources all : Sources} {names pending : List Text} {queue : Multiset Text}
  {log : List TemplateFile} {e : Failure} {source : Source} {fuel : Nat}

theorem mem_references_of_mem (h : g ∈ stencilsNamed stencils text) :
    g.name ∈ Source.references text := by
  obtain ⟨n, hn, hfind⟩ := List.mem_filterMap.mp h
  have hname : g.name = n := by simpa using List.find?_some hfind
  rwa [hname]

theorem exists_mem_stencilsNamed (hg : g ∈ stencils) (hname : g.name ∈ Source.references text) :
    ∃ f ∈ stencilsNamed stencils text, f.name = g.name := by
  have hsome : (stencils.find? fun f => f.name = g.name).isSome := by
    rw [List.find?_isSome]
    exact ⟨g, hg, by simp⟩
  obtain ⟨f, hf⟩ := Option.isSome_iff_exists.mp hsome
  refine ⟨f, List.mem_filterMap.mpr ⟨g.name, hname, hf⟩, ?_⟩
  simpa using List.find?_some hf

/-! ## What holds all the time -/

theorem consistent_start (files : FileTree) (o : EngineOptions) (set : TemplateSet) :
    (start set).Consistent files o set where
  ordered := .nil
  source := by simp [start]
  todo := fun f hf => .template hf
  templates := fun f hf => .inr ⟨f, hf, rfl⟩
  closed := by simp [start]
  logged := by simp [start]
  once := List.nodup_nil

theorem Consistent.known (h : Consistent files o set ⟨sources, f :: todo, queue, log⟩)
    (hf : sources.has f.name = true) : Consistent files o set ⟨sources, todo, queue, log⟩ := by
  obtain ⟨hordered, hsource, htodo, htemplates, hclosed, hlogged, honce⟩ := h
  have hholds : ∀ n, Holds ⟨sources, f :: todo, queue, log⟩ n →
      Holds ⟨sources, todo, queue, log⟩ n := by
    rintro n (hhas | ⟨g, hg, rfl⟩)
    · exact .inl hhas
    · rcases List.mem_cons.mp hg with rfl | hg
      · exact .inl hf
      · exact .inr ⟨g, hg, rfl⟩
  exact ⟨hordered, hsource, fun g hg => htodo g (List.mem_cons_of_mem _ hg),
    fun g hg => hholds _ (htemplates g hg),
    fun n source hn => (hclosed n source hn).imp_right fun hall g hg hmem =>
      hholds _ (hall g hg hmem), hlogged, honce⟩

theorem Consistent.read (h : Consistent files o set ⟨sources, f :: todo, queue, log⟩)
    (hf : sources.has f.name = false) (hread : Sources.read files o f = .ok source) :
    Consistent files o set ⟨sources.put f.name source, todo, f.name ::ₘ queue, f :: log⟩ := by
  obtain ⟨hordered, hsource, htodo, htemplates, hclosed, hlogged, honce⟩ := h
  have hkept : ∀ n, sources.has n = true → (sources.put f.name source).has n = true := by
    intro n hn
    simp [ByName.has_put, hn]
  have hself : (sources.put f.name source).has f.name = true := by simp [ByName.has_put]
  have hholds : ∀ n, Holds ⟨sources, f :: todo, queue, log⟩ n →
      Holds ⟨sources.put f.name source, todo, f.name ::ₘ queue, f :: log⟩ n := by
    rintro n (hhas | ⟨g, hg, rfl⟩)
    · exact .inl (hkept n hhas)
    · rcases List.mem_cons.mp hg with rfl | hg
      · exact .inl hself
      · exact .inr ⟨g, hg, rfl⟩
  have hreached := htodo f List.mem_cons_self
  refine ⟨ByName.pairwise_put hordered, fun n source' hn => ?_,
    fun g hg => htodo g (List.mem_cons_of_mem _ hg), fun g hg => hholds _ (htemplates g hg),
    fun n source' hn => ?_, fun g hg => ?_, ?_⟩
  · rw [ByName.lookup_put] at hn
    split at hn
    case isTrue heq =>
      obtain rfl := Option.some.inj hn
      exact ⟨f, hreached, heq.symm, hread⟩
    case isFalse => exact hsource n source' hn
  · rw [ByName.lookup_put] at hn
    split at hn
    case isTrue heq => exact .inl (heq ▸ Multiset.mem_cons_self _ _)
    case isFalse =>
      rcases hclosed n source' hn with hpending | hall
      · exact .inl (Multiset.mem_cons_of_mem hpending)
      · exact .inr fun g hg hmem => hholds _ (hall g hg hmem)
  · rcases List.mem_cons.mp hg with rfl | hg
    · exact ⟨hreached, hself⟩
    · exact ⟨(hlogged g hg).1, hkept _ (hlogged g hg).2⟩
  · -- what is logged is among the sources, and the file was not
    refine List.nodup_cons.mpr ⟨fun hmem => ?_, honce⟩
    rw [(hlogged f hmem).2] at hf
    cases hf

theorem Consistent.take (h : Consistent files o set ⟨sources, [], name ::ₘ queue, log⟩)
    (hlookup : sources.lookup name = some source) : Consistent files o set
      ⟨sources, stencilsNamed set.stencils source.processed, queue, log⟩ := by
  obtain ⟨hordered, hsource, htodo, htemplates, hclosed, hlogged, honce⟩ := h
  have hholds : ∀ n, Holds ⟨sources, [], name ::ₘ queue, log⟩ n →
      Holds ⟨sources, stencilsNamed set.stencils source.processed, queue, log⟩ n := by
    rintro n (hhas | ⟨g, hg, -⟩)
    · exact .inl hhas
    · cases hg
  obtain ⟨f, hf, -, hread⟩ := hsource name source hlookup
  refine ⟨hordered, hsource, fun g hg => ?_, fun g hg => hholds _ (htemplates g hg),
    fun n source' hn => ?_, hlogged, honce⟩
  · exact .stencil hf hread (mem_of_mem_stencilsNamed hg) (mem_references_of_mem hg)
  · rcases hclosed n source' hn with hpending | hall
    · rcases Multiset.mem_cons.mp hpending with rfl | hpending
      · -- what the taken name refers to is to be read next
        obtain rfl : source = source' := Option.some.inj (hlookup.symm.trans hn)
        exact .inr fun g hg hmem => .inr (exists_mem_stencilsNamed hg hmem)
      · exact .inl hpending
    · exact .inr fun g hg hmem => hholds _ (hall g hg hmem)

theorem Consistent.pass (h : Consistent files o set ⟨sources, [], name ::ₘ queue, log⟩)
    (hnone : sources.lookup name = none) : Consistent files o set ⟨sources, [], queue, log⟩ := by
  obtain ⟨hordered, hsource, htodo, htemplates, hclosed, hlogged, honce⟩ := h
  refine ⟨hordered, hsource, htodo, htemplates, fun n source' hn => ?_, hlogged, honce⟩
  rcases hclosed n source' hn with hpending | hall
  · rcases Multiset.mem_cons.mp hpending with rfl | hpending
    · rw [hnone] at hn
      cases hn
    · exact .inl hpending
  · exact .inr hall

theorem Consistent.turn (h : l.Consistent files o set) (ht : Turn files o set.stencils l l') :
    l'.Consistent files o set := by
  cases ht with
  | known hf => exact h.known hf
  | read hf hread => exact h.read hf hread
  | take hlookup => exact h.take hlookup
  | pass hnone => exact h.pass hnone

theorem Consistent.turns (h : l.Consistent files o set) (ht : Turns files o set.stencils l l') :
    l'.Consistent files o set := by
  induction ht with
  | refl => exact h
  | tail _ hlast ih => exact ih.turn hlast

/-- Loading that is not done goes on, or a file cannot be read. -/
theorem done_or_turn (files : FileTree) (o : EngineOptions) (stencils : List TemplateFile)
    (l : Loading) : l.Done ∨ (∃ l', Turn files o stencils l l') ∨ ∃ f e, StuckAt files o l f e := by
  obtain ⟨sources, todo, pending, log⟩ := l
  cases todo with
  | cons f todo =>
      right
      cases hf : sources.has f.name with
      | true => exact .inl ⟨_, .known hf⟩
      | false =>
          cases hread : Sources.read files o f with
          | ok source => exact .inl ⟨_, .read hf hread⟩
          | error e => exact .inr ⟨f, e, .read hf hread⟩
  | nil =>
      induction pending using Multiset.induction_on with
      | empty => exact .inl ⟨rfl, rfl⟩
      | cons name pending _ =>
          right
          left
          cases hlookup : sources.lookup name with
          | none => exact ⟨_, .pass hlookup⟩
          | some source => exact ⟨_, .take hlookup⟩

theorem Consistent.reached_of_stuck (h : l.Consistent files o set)
    (hstuck : StuckAt files o l f e) : Reached files o set f := by
  cases hstuck with
  | read hf hread => exact h.todo f List.mem_cons_self

/-- The file at which loading is stuck was not read before. -/
theorem Consistent.not_mem_log (h : l.Consistent files o set) (hstuck : StuckAt files o l f e) :
    f ∉ l.log := by
  cases hstuck with
  | read hf _ =>
      intro hmem
      rw [(h.logged f hmem).2] at hf
      cases hf

/-! ## Loading ends -/

/-- The number of files that are not among the sources. -/
def unread (fs : List TemplateFile) (sources : Sources) : Nat :=
  fs.countP fun f => !sources.has f.name

theorem unread_put_le (fs : List TemplateFile) (sources : Sources) (name : Text)
    (source : Source) :
    unread fs (sources.put name source) ≤ unread fs sources := by
  apply List.countP_mono_left
  intro g _ hg
  simp only [ByName.has_put, Bool.not_or, Bool.and_eq_true] at hg
  exact hg.2

theorem unread_put_lt (source : Source) (hf : f ∈ fs) (hnone : sources.has f.name = false) :
    unread fs (sources.put f.name source) < unread fs sources := by
  obtain ⟨before, after, rfl⟩ := List.append_of_mem hf
  have hbefore := unread_put_le before sources f.name source
  have hafter := unread_put_le after sources f.name source
  have hself : (sources.put f.name source).has f.name = true := by simp [ByName.has_put]
  unfold unread at hbefore hafter ⊢
  rw [List.countP_append, List.countP_append, List.countP_cons, List.countP_cons, hself, hnone]
  simp only [Bool.not_true, Bool.not_false, Bool.false_eq_true, if_false, if_true]
  omega

/-- What goes down with every turn, the second number where the first one stays. -/
def weight (set : TemplateSet) (l : Loading) : Nat × Nat :=
  (2 * unread (set.templates ++ set.stencils) l.sources + l.pending.card, l.todo.length)

theorem Consistent.weight_lt (h : l.Consistent files o set)
    (ht : Turn files o set.stencils l l') :
    Prod.Lex (· < ·) (· < ·) (l'.weight set) (l.weight set) := by
  cases ht with
  | known => exact .right _ (by simp)
  | @read sources f todo pending log source hf hread =>
      -- one file less is unread, which counts for more than the name that is now pending
      have hmem := (h.todo f List.mem_cons_self).mem
      have hlt := unread_put_lt source hmem hf
      apply Prod.Lex.left
      simp only [Multiset.card_cons]
      omega
  | take =>
      apply Prod.Lex.left
      simp only [Multiset.card_cons]
      omega
  | pass =>
      apply Prod.Lex.left
      simp only [Multiset.card_cons]
      omega

/-- There is no endless loading. -/
theorem Consistent.acc (h : l.Consistent files o set) :
    Acc (fun l' l => Turn files o set.stencils l l') l := by
  have hwf : WellFounded (Prod.Lex (· < ·) (· < ·) : Nat × Nat → Nat × Nat → Prop) :=
    WellFounded.prod_lex Nat.lt_wfRel.wf Nat.lt_wfRel.wf
  have hacc := InvImage.accessible (weight set) (hwf.apply (l.weight set))
  induction hacc with
  | intro l _ ih => exact ⟨_, fun l' ht => ih l' (h.weight_lt ht) (h.turn ht)⟩

/-! ## Loading as a whole -/

/-- Reading files one by one is a series of turns. -/
theorem turns_of_readNew (h : readNew files o sources fs = .ok (all, names))
    (stencils todo : List TemplateFile) (queue : Multiset Text) (log : List TemplateFile) :
    ∃ log', Turns files o stencils ⟨sources, fs ++ todo, queue, log⟩
      ⟨all, todo, (names : Multiset Text) + queue, log'⟩ := by
  induction fs generalizing sources names queue log with
  | nil =>
      obtain ⟨rfl, rfl⟩ : sources = all ∧ [] = names := by simpa [readNew] using h
      refine ⟨log, ?_⟩
      rw [Multiset.coe_nil, Multiset.zero_add]
      exact .refl
  | cons f fs ih =>
      rcases readNew_cons_eq_ok h with ⟨hhas, hrest⟩ | ⟨source, more, hhas, hread, hrest, rfl⟩
      · obtain ⟨log', hturns⟩ := ih hrest queue log
        exact ⟨log', .head (.known hhas) hturns⟩
      · obtain ⟨log', hturns⟩ := ih hrest (f.name ::ₘ queue) (f :: log)
        have hqueue : (more ++ [f.name] : List Text) + queue = more + f.name ::ₘ queue := by
          rw [← Multiset.coe_add, Multiset.add_assoc, Multiset.coe_singleton,
            Multiset.singleton_add]
        rw [hqueue]
        exact ⟨log', .head (.read hhas hread) hturns⟩

/-- A file that cannot be read is come to by turns. -/
theorem stuck_of_readNew (h : readNew files o sources fs = .error e)
    (stencils todo : List TemplateFile) (queue : Multiset Text) (log : List TemplateFile) :
    ∃ l f, Turns files o stencils ⟨sources, fs ++ todo, queue, log⟩ l ∧
      StuckAt files o l f e := by
  induction fs generalizing sources queue log with
  | nil => cases h
  | cons f fs ih =>
      rw [readNew] at h
      split at h
      case isTrue hhas =>
        obtain ⟨l, g, hturns, hstuck⟩ := ih h queue log
        exact ⟨l, g, .head (.known hhas) hturns, hstuck⟩
      case isFalse hhas =>
        have hnone := Bool.eq_false_iff.mpr hhas
        rcases except_bind_eq_error h with hread | ⟨source, hread, h⟩
        · exact ⟨_, f, .refl, .read hnone hread⟩
        · rcases except_bind_eq_error h with hrest | ⟨⟨all, names⟩, -, h⟩
          · obtain ⟨l, g, hturns, hstuck⟩ := ih hrest (f.name ::ₘ queue) (f :: log)
            exact ⟨l, g, .head (.read hnone hread) hturns, hstuck⟩
          · cases h

/-- The names of those read are the names that are new. -/
theorem perm_of_readNew (h : readNew files o sources fs = .ok (all, names)) :
    all.names.Perm (names ++ sources.names) := by
  induction fs generalizing sources names with
  | nil =>
      obtain ⟨rfl, rfl⟩ : sources = all ∧ [] = names := by simpa [readNew] using h
      exact .rfl
  | cons f fs ih =>
      rcases readNew_cons_eq_ok h with ⟨-, hrest⟩ | ⟨source, more, hhas, -, hrest, rfl⟩
      · exact ih hrest
      · have hput := ByName.names_put (v := source) hhas
        rw [List.append_assoc]
        exact (ih hrest).trans (hput.append_left more)

/-- For every name that comes a file is read. -/
theorem length_add_unread_le (h : readNew files o sources fs = .ok (all, names))
    (hsub : ∀ f ∈ fs, f ∈ stencils) :
    names.length + unread stencils all ≤ unread stencils sources := by
  induction fs generalizing sources names with
  | nil =>
      obtain ⟨rfl, rfl⟩ : sources = all ∧ [] = names := by simpa [readNew] using h
      simp
  | cons f fs ih =>
      have hsub' : ∀ g ∈ fs, g ∈ stencils := fun g hg => hsub g (List.mem_cons_of_mem _ hg)
      rcases readNew_cons_eq_ok h with ⟨-, hrest⟩ | ⟨source, more, hhas, -, hrest, rfl⟩
      · exact ih hrest hsub'
      · have hle := ih hrest hsub'
        have hlt := unread_put_lt source (hsub f List.mem_cons_self) hhas
        rw [List.length_append, List.length_singleton]
        omega

/-- With enough fuel pending names are taken until loading is done. -/
theorem turns_of_close (h : close files o stencils fuel sources pending = .ok all)
    (hfuel : pending.length + unread stencils sources < fuel) (log : List TemplateFile) :
    ∃ log', Turns files o stencils ⟨sources, [], pending, log⟩ ⟨all, [], 0, log'⟩ := by
  induction fuel generalizing sources pending log with
  | zero => omega
  | succ fuel ih =>
      cases pending with
      | nil =>
          obtain rfl : sources = all := by simpa [close] using h
          exact ⟨log, .refl⟩
      | cons name pending =>
          rw [List.length_cons] at hfuel
          rw [close] at h
          rw [← Multiset.cons_coe]
          split at h
          case h_1 hnone =>
            obtain ⟨log', hturns⟩ := ih h (by omega) log
            exact ⟨log', .head (.pass hnone) hturns⟩
          case h_2 source hsource =>
            obtain ⟨⟨read, more⟩, hnew, h⟩ := except_bind_eq_ok h
            -- every name that comes is one of a file less that is unread
            have hle := length_add_unread_le hnew fun g => mem_of_mem_stencilsNamed
            obtain ⟨log₁, hfirst⟩ := turns_of_readNew hnew stencils [] (pending : Multiset Text) log
            obtain ⟨log₂, hlast⟩ := ih h (by rw [List.length_append]; omega) log₁
            rw [List.append_nil, Multiset.coe_add] at hfirst
            exact ⟨log₂, .head (.take hsource) (hfirst.trans hlast)⟩

theorem stuck_of_close (h : close files o stencils fuel sources pending = .error e)
    (log : List TemplateFile) : ∃ l f,
      Turns files o stencils ⟨sources, [], pending, log⟩ l ∧ StuckAt files o l f e := by
  induction fuel generalizing sources pending log with
  | zero => cases h
  | succ fuel ih =>
      cases pending with
      | nil => cases h
      | cons name pending =>
          rw [close] at h
          rw [← Multiset.cons_coe]
          split at h
          case h_1 hnone =>
            obtain ⟨l, f, hturns, hstuck⟩ := ih h log
            exact ⟨l, f, .head (.pass hnone) hturns, hstuck⟩
          case h_2 source hsource =>
            rcases except_bind_eq_error h with hnew | ⟨⟨read, more⟩, hnew, hrest⟩
            · obtain ⟨l, f, hturns, hstuck⟩ := stuck_of_readNew hnew stencils []
                (pending : Multiset Text) log
              rw [List.append_nil] at hturns
              exact ⟨l, f, .head (.take hsource) hturns, hstuck⟩
            · obtain ⟨log₁, hfirst⟩ := turns_of_readNew hnew stencils []
                (pending : Multiset Text) log
              obtain ⟨l, f, hlast, hstuck⟩ := ih hrest log₁
              rw [List.append_nil, Multiset.coe_add] at hfirst
              exact ⟨l, f, .head (.take hsource) (hfirst.trans hlast), hstuck⟩

/-- The pending names after the templates were read, in the order they are taken. -/
theorem coe_names_reverse (h : readNew files o [] fs = .ok (all, names)) :
    (all.names.reverse : Multiset Text) = names := by
  have hperm := (List.reverse_perm _).trans (perm_of_readNew h)
  exact Multiset.coe_eq_coe.mpr (by simpa [ByName.names] using hperm)

/-- What is loaded is what loading that is done has read. -/
theorem turns_of_load (h : load files o set = .ok all) :
    ∃ l, Turns files o set.stencils (start set) l ∧ l.Done ∧ l.sources = all := by
  unfold load at h
  obtain ⟨⟨first, names⟩, hnew, h⟩ := except_bind_eq_ok h
  have hnames := coe_names_reverse hnew
  have hlength : first.names.reverse.length ≤ set.templates.length := by
    have hle := length_add_unread_le hnew fun _ hf => hf
    have hcount : unread set.templates [] ≤ set.templates.length := List.countP_le_length
    have hcard := congrArg Multiset.card hnames
    rw [Multiset.coe_card, Multiset.coe_card] at hcard
    omega
  have hunread : unread set.stencils first ≤ set.stencils.length := List.countP_le_length
  obtain ⟨log₁, hfirst⟩ := turns_of_readNew hnew set.stencils [] 0 []
  obtain ⟨log₂, hlast⟩ := turns_of_close h (by omega) log₁
  rw [List.append_nil, Multiset.add_zero, ← hnames] at hfirst
  exact ⟨_, hfirst.trans hlast, ⟨rfl, rfl⟩, rfl⟩

theorem stuck_of_load (h : load files o set = .error e) :
    ∃ l f, Turns files o set.stencils (start set) l ∧ StuckAt files o l f e := by
  unfold load at h
  rcases except_bind_eq_error h with hnew | ⟨⟨first, names⟩, hnew, hclose⟩
  · obtain ⟨l, f, hturns, hstuck⟩ := stuck_of_readNew hnew set.stencils [] 0 []
    rw [List.append_nil] at hturns
    exact ⟨l, f, hturns, hstuck⟩
  · obtain ⟨log₁, hfirst⟩ := turns_of_readNew hnew set.stencils [] 0 []
    obtain ⟨l, f, hlast, hstuck⟩ := stuck_of_close hclose log₁
    rw [List.append_nil, Multiset.add_zero, ← coe_names_reverse hnew] at hfirst
    exact ⟨l, f, hfirst.trans hlast, hstuck⟩

/-! ## What was read in the end -/

/-- Files that are told by their names. -/
def ToldByName (set : TemplateSet) : Prop :=
  ∀ f ∈ set.templates ++ set.stencils, ∀ g ∈ set.templates ++ set.stencils,
    f.name = g.name → f = g

theorem has_of_holds (hdone : l.Done) (h : l.Holds name) :
    l.sources.has name = true := by
  rcases h with hhas | ⟨g, hg, -⟩
  · exact hhas
  · rw [hdone.1] at hg
    cases hg

/-- Loading that is done has the stencils that its sources name. -/
theorem Consistent.has_of_mem_references (h : l.Consistent files o set) (hdone : l.Done)
    (hsource : l.sources.lookup name = some source) (hg : g ∈ set.stencils)
    (hname : g.name ∈ Source.references source.processed) : l.sources.has g.name = true := by
  rcases h.closed _ _ hsource with hpending | hall
  · rw [hdone.2] at hpending
    exact absurd hpending (Multiset.notMem_zero _)
  · exact has_of_holds hdone (hall g hg hname)

theorem Consistent.has_of_reached (h : l.Consistent files o set) (hdone : l.Done)
    (hset : ToldByName set) (hf : Reached files o set f) : l.sources.has f.name = true := by
  induction hf with
  | template hf => exact has_of_holds hdone (h.templates _ hf)
  | @stencil f g source hf hread hg hname ih =>
      obtain ⟨source', hsource⟩ := ByName.has_iff.mp ih
      obtain ⟨f', hf', hname', hread'⟩ := h.source _ _ hsource
      obtain rfl := hset _ hf'.mem _ hf.mem hname'
      obtain rfl := Except.ok.inj (hread'.symm.trans hread)
      exact h.has_of_mem_references hdone hsource hg hname

/-- Loading that is done holds the files that are reached, and no others. -/
theorem Consistent.lookup_iff (h : l.Consistent files o set) (hdone : l.Done)
    (hset : ToldByName set) : l.sources.lookup name = some source ↔
      ∃ f, Reached files o set f ∧ f.name = name ∧ Sources.read files o f = .ok source := by
  constructor
  · exact h.source name source
  · rintro ⟨f, hf, rfl, hread⟩
    obtain ⟨source', hsource⟩ := ByName.has_iff.mp (h.has_of_reached hdone hset hf)
    obtain ⟨f', hf', hname, hread'⟩ := h.source _ _ hsource
    obtain rfl := hset _ hf'.mem _ hf.mem hname
    obtain rfl := Except.ok.inj (hread'.symm.trans hread)
    exact hsource

theorem Consistent.has_iff (h : l.Consistent files o set) (hdone : l.Done)
    (hset : ToldByName set) :
    l.sources.has name = true ↔ ∃ f, Reached files o set f ∧ f.name = name := by
  constructor
  · intro hhas
    obtain ⟨source, hsource⟩ := ByName.has_iff.mp hhas
    obtain ⟨f, hf, hname, -⟩ := h.source _ _ hsource
    exact ⟨f, hf, hname⟩
  · rintro ⟨f, hf, rfl⟩
    exact h.has_of_reached hdone hset hf

/-- However the names are taken, loading that is done has read the same. -/
theorem Consistent.sources_eq (h : l.Consistent files o set) (h' : l'.Consistent files o set)
    (hdone : l.Done) (hdone' : l'.Done) (hset : ToldByName set) : l.sources = l'.sources := by
  refine ByName.eq_of_lookup h.ordered h'.ordered fun x => Option.ext fun source => ?_
  rw [h.lookup_iff hdone hset, h'.lookup_iff hdone' hset]

theorem Consistent.not_done (h : l.Consistent files o set) (h' : l'.Consistent files o set)
    (hset : ToldByName set) (hstuck : StuckAt files o l f e) : ¬ l'.Done := by
  intro hdone
  have hreached := h.reached_of_stuck hstuck
  have hread : Sources.read files o f = .error e := by
    cases hstuck with
    | read hf hread => exact hread
  obtain ⟨source, hsource⟩ := ByName.has_iff.mp (h'.has_of_reached hdone hset hreached)
  obtain ⟨f', hf', hname, hread'⟩ := h'.source _ _ hsource
  obtain rfl := hset _ hf'.mem _ hreached.mem hname
  rw [hread] at hread'
  cases hread'

/-- Loading is what any order of taking the names comes to. -/
theorem load_eq_ok_iff (hset : ToldByName set) : load files o set = .ok all ↔
    ∃ l, Turns files o set.stencils (start set) l ∧ l.Done ∧ l.sources = all := by
  have hconsistent : ∀ {l}, Turns files o set.stencils (start set) l → l.Consistent files o set :=
    (consistent_start files o set).turns
  constructor
  · exact turns_of_load
  · rintro ⟨l, hturns, hdone, rfl⟩
    cases hload : load files o set with
    | error e =>
        obtain ⟨l', f, hturns', hstuck⟩ := stuck_of_load hload
        exact absurd hdone ((hconsistent hturns').not_done (hconsistent hturns) hset hstuck)
    | ok all =>
        obtain ⟨l', hturns', hdone', rfl⟩ := turns_of_load hload
        rw [(hconsistent hturns').sources_eq (hconsistent hturns) hdone' hdone hset]

end Loading

end Sources

end TemplateTree
