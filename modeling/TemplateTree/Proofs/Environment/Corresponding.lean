import TemplateTree.Proofs.Environment.Unparsed
import Mathlib.Data.List.Forall2

/-!
# Trees that are read alike

Two sources are interchangeable if they name the same stencils and make the same template.
Where the files of two trees are read to interchangeable sources, the same files are reached and
an environment is made of both trees or of neither; and the environments are the same but for
the sources, which rendering does not look at but for its failures.
-/

namespace TemplateTree

variable {α β ε : Type} {t u : FileTree} {o : EngineOptions} {set : TemplateSet}
  {stencils : List TemplateFile} {f : TemplateFile} {a b source : Source} {all all' : Sources}
  {s : Settings} {env env' : Environment} {name : Text}

theorem toOption_bind (x : Except ε α) (f : α → Except ε β) :
    (x >>= f).toOption = x.toOption.bind fun a => (f a).toOption := by
  cases x <;> rfl

namespace ByName

variable {R : α → β → Prop} {m : ByName α} {m' : ByName β} {x y : Text} {v : α} {w : β}

theorem lookup_eq_none (h : List.Pairwise (fun a b => Text.order a.1 b.1 = .lt) ((y, v) :: m))
    (hle : Text.order x y ≠ .gt) : m.lookup x = none := by
  rw [Option.eq_none_iff_forall_ne_some]
  intro w hw
  have hlt := (List.pairwise_cons.mp h).1 _ (mem_of_lookup hw)
  rw [← Text.order_swap, Ordering.swap_eq_lt] at hlt
  exact hle hlt

/-- Entries in order that correspond name by name correspond one by one. -/
theorem forall₂_of_lookup (h : m.Pairwise fun a b => Text.order a.1 b.1 = .lt)
    (h' : m'.Pairwise fun a b => Text.order a.1 b.1 = .lt)
    (hlookup : ∀ x, Option.Rel R (m.lookup x) (m'.lookup x)) :
    List.Forall₂ (fun a b => a.1 = b.1 ∧ R a.2 b.2) m m' := by
  induction m generalizing m' with
  | nil =>
      cases m' with
      | nil => exact .nil
      | cons e m' =>
          have hfirst := hlookup e.1
          rw [lookup_cons, if_pos rfl] at hfirst
          cases hfirst
  | cons d m ih =>
      obtain ⟨x, v⟩ := d
      have hx := hlookup x
      rw [lookup_cons, if_pos rfl] at hx
      cases m' with
      | nil => cases hx
      | cons e m' =>
          obtain ⟨y, w⟩ := e
          have hy := hlookup y
          rw [lookup_cons, lookup_cons, if_pos rfl] at hy
          rw [lookup_cons] at hx
          cases hord : Text.order x y with
          | lt =>
              have hne : x ≠ y := fun heq => by simp [heq] at hord
              rw [if_neg hne, lookup_eq_none h' (by simp [hord])] at hx
              cases hx
          | gt =>
              have hne : y ≠ x := fun heq => by simp [heq] at hord
              have hle : Text.order y x ≠ .gt := by simp [← Text.order_swap (a := x), hord]
              rw [if_neg hne, lookup_eq_none h hle] at hy
              cases hy
          | eq =>
              obtain rfl := Text.order_eq_iff.mp hord
              rw [if_pos rfl] at hx
              have hvw : R v w := by
                cases hx with
                | some hvw => exact hvw
              refine .cons ⟨rfl, hvw⟩ (ih h.of_cons h'.of_cons fun z => ?_)
              by_cases hz : z = x
              · rw [hz, lookup_eq_none h (by simp), lookup_eq_none h' (by simp)]
                exact .none
              · have hlater := hlookup z
                rwa [lookup_cons, lookup_cons, if_neg hz, if_neg hz] at hlater

theorem has_eq_of_forall₂ (h : List.Forall₂ (fun a b => a.1 = b.1 ∧ R a.2 b.2) m m') (x : Text) :
    has m' x = has m x := by
  induction h with
  | nil => rfl
  | @cons d e m m' hde _ ih =>
      obtain ⟨y, v⟩ := d
      obtain ⟨z, w⟩ := e
      obtain rfl : y = z := hde.1
      rw [has, has, lookup_cons, lookup_cons]
      split
      · rfl
      · exact ih

end ByName

/-- Sources that name the same stencils and make the same template, or none. -/
structure Source.Interchangeable (stencils : List TemplateFile) (a b : Source) : Prop where
  references : ∀ g ∈ stencils,
    g.name ∈ Source.references a.processed ↔ g.name ∈ Source.references b.processed
  parse : ∀ name,
    (Template.parse name a.processed).toOption = (Template.parse name b.processed).toOption

theorem Source.Interchangeable.refl (stencils : List TemplateFile) (a : Source) :
    a.Interchangeable stencils a :=
  ⟨fun _ _ => .rfl, fun _ => rfl⟩

theorem Source.Interchangeable.symm (h : a.Interchangeable stencils b) :
    b.Interchangeable stencils a :=
  ⟨fun g hg => (h.references g hg).symm, fun name => (h.parse name).symm⟩

namespace Sources

/-- Trees in which every file of a project is read to interchangeable sources, or not read. -/
def ReadAlike (o : EngineOptions) (set : TemplateSet) (t u : FileTree) : Prop :=
  ∀ f ∈ set.templates ++ set.stencils,
    Option.Rel (Source.Interchangeable set.stencils) (read t o f).toOption (read u o f).toOption

namespace ReadAlike

theorem symm (h : ReadAlike o set t u) : ReadAlike o set u t := by
  intro f hf
  have hrel := h f hf
  generalize (read t o f).toOption = x, (read u o f).toOption = y at hrel ⊢
  cases hrel with
  | none => exact .none
  | some hsame => exact .some hsame.symm

theorem exists_read (h : ReadAlike o set t u) (hf : f ∈ set.templates ++ set.stencils)
    (hread : read t o f = .ok a) :
    ∃ b, read u o f = .ok b ∧ a.Interchangeable set.stencils b := by
  have hrel := h f hf
  rw [hread] at hrel
  generalize hother : (read u o f).toOption = other at hrel
  cases hrel with
  | some hsame => exact ⟨_, toOption_eq_some_iff.mp hother, hsame⟩

theorem reached (h : ReadAlike o set t u) (hf : Reached t o set f) : Reached u o set f := by
  induction hf with
  | template hf => exact .template hf
  | stencil hf hread hg hname ih =>
      obtain ⟨b, hother, hsame⟩ := h.exists_read hf.mem hread
      exact .stencil ih hother hg ((hsame.references _ hg).mp hname)

end ReadAlike

theorem lookup_of_load (hset : Loading.ToldByName set) (hload : load t o set = .ok all) :
    all.lookup name = some source ↔
      ∃ f, Reached t o set f ∧ f.name = name ∧ read t o f = .ok source := by
  obtain ⟨l, hturns, hdone, rfl⟩ := Loading.turns_of_load hload
  exact ((Loading.consistent_start t o set).turns hturns).lookup_iff hdone hset

/-- Loading succeeds if every file that is reached can be read. -/
theorem exists_load (h : ∀ f, Reached t o set f → ∃ source, read t o f = .ok source) :
    ∃ all, load t o set = .ok all := by
  cases hload : load t o set with
  | ok all => exact ⟨all, rfl⟩
  | error e =>
      obtain ⟨l, f, hturns, hstuck⟩ := Loading.stuck_of_load hload
      have hreached := ((Loading.consistent_start t o set).turns hturns).reached_of_stuck hstuck
      obtain ⟨source, hread⟩ := h f hreached
      cases hstuck with
      | read _ herror => cases hread.symm.trans herror

theorem exists_read_of_load (hset : Loading.ToldByName set) (hload : load t o set = .ok all)
    (hf : Reached t o set f) : ∃ source, read t o f = .ok source := by
  obtain ⟨l, hturns, hdone, rfl⟩ := Loading.turns_of_load hload
  have hconsistent := (Loading.consistent_start t o set).turns hturns
  obtain ⟨source, hsource⟩ := ByName.has_iff.mp (hconsistent.has_of_reached hdone hset hf)
  obtain ⟨g, hg, hname, hread⟩ := hconsistent.source _ _ hsource
  obtain rfl := hset g hg.mem f hf.mem hname
  exact ⟨source, hread⟩

theorem ReadAlike.exists_lookup (h : ReadAlike o set t u) (hset : Loading.ToldByName set)
    (hload : load t o set = .ok all) (hload' : load u o set = .ok all')
    (hsource : all.lookup name = some a) :
    ∃ b, all'.lookup name = some b ∧ a.Interchangeable set.stencils b := by
  obtain ⟨f, hf, hname, hread⟩ := (lookup_of_load hset hload).mp hsource
  obtain ⟨b, hother, hsame⟩ := h.exists_read hf.mem hread
  exact ⟨b, (lookup_of_load hset hload').mpr ⟨f, h.reached hf, hname, hother⟩, hsame⟩

/-- What is loaded of trees that are read alike corresponds. -/
theorem ReadAlike.exists_load (h : ReadAlike o set t u) (hset : Loading.ToldByName set)
    (hload : load t o set = .ok all) : ∃ all', load u o set = .ok all' ∧
      List.Forall₂ (fun p q => p.1 = q.1 ∧ p.2.Interchangeable set.stencils q.2) all all' := by
  have hread : ∀ f, Reached u o set f → ∃ source, read u o f = .ok source := by
    intro f hf
    obtain ⟨a, hread⟩ := exists_read_of_load hset hload (h.symm.reached hf)
    obtain ⟨b, hother, -⟩ := h.exists_read hf.mem hread
    exact ⟨b, hother⟩
  obtain ⟨all', hload'⟩ := Sources.exists_load hread
  refine ⟨all', hload', ByName.forall₂_of_lookup (ordered_of_load hload) (ordered_of_load hload')
    fun x => ?_⟩
  cases hsource : all.lookup x with
  | some a =>
      obtain ⟨b, hother, hsame⟩ := h.exists_lookup hset hload hload' hsource
      rw [hother]
      exact .some hsame
  | none =>
      cases hother : all'.lookup x with
      | none => exact .none
      | some b =>
          obtain ⟨a, hsome, -⟩ := h.symm.exists_lookup hset hload' hload hother
          rw [hsource] at hsome
          cases hsome

end Sources

/-! ## Libraries -/

namespace Library

variable {texts texts' : List (Text × Text)}

theorem toOption_parseAll_eq (h : List.Forall₂ (fun p q =>
    (Template.parse p.1 p.2).toOption = (Template.parse q.1 q.2).toOption) texts texts') :
    (parseAll texts).toOption = (parseAll texts').toOption := by
  induction h with
  | nil => rfl
  | cons hparse _ ih =>
      unfold parseAll
      simp only [toOption_bind, hparse, ih]

theorem toOption_ofTexts_eq (h : List.Forall₂ (fun p q =>
    (Template.parse p.1 p.2).toOption = (Template.parse q.1 q.2).toOption) texts texts') :
    (ofTexts texts).toOption = (ofTexts texts').toOption := by
  unfold ofTexts
  rw [toOption_bind, toOption_bind, toOption_parseAll_eq h]

end Library

/-! ## Environments -/

namespace Environment

theorem stencils_ne_nil_of_create (h : create t s = .ok env) (hset : s.discover t = .ok set)
    (hname : s.stencilName? ≠ none) : set.stencils ≠ [] := by
  obtain ⟨name, hname⟩ := Option.ne_none_iff_exists'.mp hname
  rintro hnil
  unfold create at h
  rw [hset] at h
  simp only [bind, Except.bind, hname, hnil] at h
  split at h
  case isTrue => cases h
  case isFalse => cases h

/-- An environment is made of a tree if one is made of a tree that is read alike, and they are
the same but for the sources. -/
theorem exists_create (h : Sources.ReadAlike s.engineOptions set t u) (ht : t.Sound)
    (hset : s.discover t = .ok set) (hset' : s.discover u = .ok set)
    (henv : create t s = .ok env) : ∃ sources, create u s = .ok { env with sources := sources } ∧
      List.Forall₂ (fun p q => p.1 = q.1 ∧ p.2.Interchangeable set.stencils q.2) env.sources
        sources := by
  have hstencils := stencils_ne_nil_of_create henv hset
  obtain ⟨set', hsame, hload, hlibrary, htemplates, hnames, hne, hescape, hglobals, hregistry⟩ :=
    create_spec henv
  obtain rfl : set = set' := Except.ok.inj (hset.symm.trans hsame)
  obtain ⟨sources, hload', hsources⟩ := h.exists_load (s.toldByName_of_discover ht hset) hload
  refine ⟨sources, ?_, hsources⟩
  have hlibrary' : Library.ofTexts (sources.map fun p => (p.1, p.2.processed)) =
      .ok env.library := by
    rw [← toOption_eq_some_iff, ← toOption_eq_some_iff.mpr hlibrary, eq_comm]
    refine Library.toOption_ofTexts_eq ?_
    rw [List.forall₂_map_left_iff, List.forall₂_map_right_iff]
    refine hsources.imp fun p q hpq => ?_
    dsimp only
    rw [hpq.1]
    exact hpq.2.parse q.1
  rw [create_of_load hset' hne hstencils hload', ofSources, hlibrary', ← hescape, ← htemplates,
    ← hnames, ← hglobals, ← hregistry]
  rfl

end Environment

end TemplateTree
