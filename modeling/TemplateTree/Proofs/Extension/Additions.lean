import TemplateTree.Proofs.Environment.Extending
import TemplateTree.Proofs.Text.Entries

/-!
# What extensions add

Each extension has entries of its own: filters, functions, tests and variables.  No two
of them have an entry of one name, so it is told by the registry and the variables of an
environment which extensions it has, in whatever order they came and however often.
-/

namespace TemplateTree

/-- Variables are kept as other things by name are. -/
theorem Namespace.insert_eq_put (name : Text) (v : Value) (ns : Namespace) :
    Namespace.insert name v ns = ByName.put name v ns := by
  induction ns with
  | nil => rfl
  | cons entry rest ih =>
      obtain ⟨k, w⟩ := entry
      cases hord : Text.order name k <;> simp [Namespace.insert, ByName.put, hord, ih]

namespace ByName

variable {α : Type} {m : ByName α} {entries : List (Text × α)} {x : Text} {v : α}

def putAll (entries : List (Text × α)) (m : ByName α) : ByName α :=
  entries.foldl (fun m e => put e.1 e.2 m) m

theorem pairwise_putAll (h : m.Pairwise fun a b => Text.order a.1 b.1 = .lt) :
    (putAll entries m).Pairwise fun a b => Text.order a.1 b.1 = .lt := by
  induction entries generalizing m with
  | nil => exact h
  | cons e rest ih => exact ih (pairwise_put h)

/-- Where entries agree with each other and with those already there, all of them are
found. -/
theorem lookup_putAll (hagree : ∀ x v w, (x, v) ∈ entries →
      (x, w) ∈ entries ∨ m.lookup x = some w → w = v) :
    (putAll entries m).lookup x = some v ↔ (x, v) ∈ entries ∨ m.lookup x = some v := by
  induction entries generalizing m with
  | nil => simp [putAll]
  | cons e rest ih =>
      obtain ⟨y, w⟩ := e
      have hy : ∀ v, (y, v) ∈ rest ∨ m.lookup y = some v → v = w := by
        intro v hv
        apply hagree y w v List.mem_cons_self
        exact hv.imp_left (List.mem_cons_of_mem _)
      have hrest : (putAll rest (put y w m)).lookup x = some v ↔
          (x, v) ∈ rest ∨ (put y w m).lookup x = some v := by
        apply ih
        intro z u u' hu hu'
        rw [lookup_put] at hu'
        rcases hu' with hu' | hu'
        · exact hagree z u u' (List.mem_cons_of_mem _ hu) (.inl (List.mem_cons_of_mem _ hu'))
        · split at hu'
          case isTrue hz =>
            subst hz
            obtain rfl := Option.some.inj hu'
            exact (hy u (.inl hu)).symm
          case isFalse =>
            exact hagree z u u' (List.mem_cons_of_mem _ hu) (.inr hu')
      refine hrest.trans ?_
      rw [lookup_put, List.mem_cons, Prod.mk.injEq]
      by_cases hx : x = y
      · subst hx
        rw [if_pos rfl]
        constructor
        · rintro (hv | hv)
          · exact .inl (.inr hv)
          · exact .inl (.inl ⟨rfl, (Option.some.inj hv).symm⟩)
        · rintro ((⟨-, hv⟩ | hv) | hv)
          · exact .inr (congrArg some hv.symm)
          · exact .inl hv
          · exact .inr (congrArg some (hy v (.inr hv)).symm)
      · rw [if_neg hx]
        constructor
        · rintro (hv | hv)
          · exact .inl (.inr hv)
          · exact .inr hv
        · rintro ((⟨heq, -⟩ | hv) | hv)
          · exact absurd heq hx
          · exact .inl hv
          · exact .inr hv

end ByName

namespace Extension

variable {α : Type} {settings : Settings} {env env₁ env₂ : Environment} {e : Extension}
  {P P' : Extension → Prop} {part : Extension → List (Text × α)} {m m' : ByName α}

/-! ## Entries of extensions -/

/-- Entries for an environment. -/
structure Additions where
  filters : List (Text × Template.Filter)
  functions : List (Text × Template.Function)
  tests : List (Text × Template.Test)
  globals : List (Text × Value)

/-- The entries of an extension. -/
def additions (settings : Settings) (env : Environment) : Extension → Additions
  | case => ⟨caseFilters.map fun (name, change) => (name, Identifier.caseFilter name change),
      [], [], []⟩
  | debug => ⟨[("debug", fun v _ => .ok (.string (v.toPrettyJson 0)))], [], [],
      [("debug_context", debugContext env settings)]⟩
  | buildInfo => ⟨[], [], [], [("generator", programInfo)]⟩
  | identifierTests => ⟨[], [], [("identifier", Identifier.test Identifier.isIdentifier),
      ("keyword", Identifier.test Identifier.isReserved)], []⟩
  | includeGuard => ⟨[], [("include_guard", Identifier.includeGuard)], [], []⟩

theorem additions_of_sameTexts (h : env.SameTexts env₁) (e : Extension) :
    e.additions settings env₁ = e.additions settings env := by
  cases e with
  | debug => simp only [additions, debugContext, h.templates, h.stencils]
  | case | buildInfo | identifierTests | includeGuard => rfl

def Additions.addTo (a : Additions) (env : Environment) : Environment :=
  { env with
    globals := ByName.putAll a.globals env.globals
    registry := ⟨ByName.putAll a.filters env.registry.filters,
      ByName.putAll a.functions env.registry.functions,
      ByName.putAll a.tests env.registry.tests⟩ }

/-- What an extension needs of an environment. -/
def Needs (env : Environment) (e : Extension) : Prop :=
  e = includeGuard → env.hasFilter "shouty_snake_case" = true

theorem added_of_needs (h : e.Needs env) :
    e.added settings env = .ok ((e.additions settings env).addTo env) := by
  cases e with
  | case => rfl
  | debug =>
      rw [added, Environment.withGlobal, if_neg (by decide), Namespace.insert_eq_put]
      rfl
  | buildInfo =>
      rw [added, Environment.withGlobal, if_neg (by decide), Namespace.insert_eq_put]
      rfl
  | identifierTests => rfl
  | includeGuard =>
      rw [added, if_pos (h rfl)]
      rfl

theorem added_of_not_needs (h : ¬ e.Needs env) :
    e.added settings env = .error (e.failure "requires the `case` engine extension") := by
  obtain ⟨rfl, hfilter⟩ := Classical.not_imp.mp h
  exact if_neg hfilter

/-! ## Entries gathered from extensions -/

/-- Entries of one name are the same. -/
def Agree (part : Extension → List (Text × α)) : Prop :=
  ∀ e e' x v w, (x, v) ∈ part e → (x, w) ∈ part e' → w = v

def all : List Extension :=
  ExtensionKind.engine.members ++ ExtensionKind.custom.members

theorem mem_all (e : Extension) : e ∈ all := by
  cases e <;> decide

theorem agree_of_nodup (h : ((all.flatMap part).map Prod.fst).Nodup) : Agree part := by
  intro e e' x v w hv hw
  have hmem : (x, v) ∈ all.flatMap part := List.mem_flatMap.mpr ⟨e, mem_all e, hv⟩
  have hmem' : (x, w) ∈ all.flatMap part := List.mem_flatMap.mpr ⟨e', mem_all e', hw⟩
  have heq : (x, w) = (x, v) := List.inj_on_of_nodup_map h hmem' hmem rfl
  exact congrArg Prod.snd heq

theorem agree_filters : Agree fun e => (e.additions settings env).filters := by
  apply agree_of_nodup
  show List.Nodup ["snake_case".toList, "pascal_case".toList, "camel_case".toList,
    "kebab_case".toList, "shouty_snake_case".toList, "debug".toList]
  decide

theorem agree_functions : Agree fun e => (e.additions settings env).functions :=
  agree_of_nodup (List.nodup_singleton _)

theorem agree_tests : Agree fun e => (e.additions settings env).tests := by
  apply agree_of_nodup
  show List.Nodup ["identifier".toList, "keyword".toList]
  decide

theorem agree_globals : Agree fun e => (e.additions settings env).globals := by
  apply agree_of_nodup
  show List.Nodup ["debug_context".toList, "generator".toList]
  decide

/-- What is found under a name is an entry of one of some extensions, and every such entry
is found. -/
structure Gathers (part : Extension → List (Text × α)) (P : Extension → Prop) (m : ByName α) :
    Prop where
  ordered : m.Pairwise fun a b => Text.order a.1 b.1 = .lt
  lookup : ∀ x v, m.lookup x = some v ↔ ∃ e, P e ∧ (x, v) ∈ part e

theorem gathers_nil : Gathers part (fun _ => False) [] :=
  ⟨.nil, fun x v => by simp⟩

theorem Gathers.putAll (h : Gathers part P m) (hagree : Agree part) (e : Extension) :
    Gathers part (fun e' => P e' ∨ e' = e) (ByName.putAll (part e) m) := by
  refine ⟨ByName.pairwise_putAll h.ordered, fun x v => ?_⟩
  have hlookup : (ByName.putAll (part e) m).lookup x = some v ↔
      (x, v) ∈ part e ∨ m.lookup x = some v := by
    apply ByName.lookup_putAll
    intro y w w' hw hw'
    rcases hw' with hw' | hw'
    · exact hagree e e y w w' hw hw'
    · obtain ⟨e', -, hmem⟩ := (h.lookup y w').mp hw'
      exact hagree e e' y w w' hw hmem
  rw [hlookup, h.lookup]
  constructor
  · rintro (hv | ⟨e', he', hv⟩)
    · exact ⟨e, .inr rfl, hv⟩
    · exact ⟨e', .inl he', hv⟩
  · rintro ⟨e', he' | rfl, hv⟩
    · exact .inr ⟨e', he', hv⟩
    · exact .inl hv

theorem Gathers.congr (h : Gathers part P m) (hiff : ∀ e, P e ↔ P' e) : Gathers part P' m :=
  ⟨h.ordered, fun x v => (h.lookup x v).trans
    (exists_congr fun e => and_congr_left fun _ => hiff e)⟩

theorem Gathers.unique (h : Gathers part P m) (h' : Gathers part P m') : m = m' := by
  apply ByName.eq_of_lookup h.ordered h'.ordered
  intro x
  apply Option.ext
  intro v
  exact (h.lookup x v).trans (h'.lookup x v).symm

/-- An environment with the entries of some extensions, and otherwise the same texts. -/
structure Extended (settings : Settings) (env : Environment) (P : Extension → Prop)
    (env' : Environment) : Prop where
  texts : env.SameTexts env'
  filters : Gathers (fun e => (e.additions settings env).filters) P env'.registry.filters
  functions : Gathers (fun e => (e.additions settings env).functions) P env'.registry.functions
  tests : Gathers (fun e => (e.additions settings env).tests) P env'.registry.tests
  globals : Gathers (fun e => (e.additions settings env).globals) P env'.globals

namespace Extended

theorem nil (hregistry : env.registry = .empty) (hglobals : env.globals = []) :
    Extended settings env (fun _ => False) env := by
  refine ⟨.refl env, ?_, ?_, ?_, ?_⟩
  · rw [hregistry]
    exact gathers_nil
  · rw [hregistry]
    exact gathers_nil
  · rw [hregistry]
    exact gathers_nil
  · rw [hglobals]
    exact gathers_nil

theorem congr (h : Extended settings env P env₁) (hiff : ∀ e, P e ↔ P' e) :
    Extended settings env P' env₁ :=
  ⟨h.texts, h.filters.congr hiff, h.functions.congr hiff, h.tests.congr hiff,
    h.globals.congr hiff⟩

/-- Environments with the entries of the same extensions are the same. -/
theorem unique (h : Extended settings env P env₁) (h' : Extended settings env P env₂) :
    env₁ = env₂ := by
  obtain ⟨library, sources, templates, stencils, escape, globals, filters, functions, tests⟩ :=
    env₁
  obtain ⟨library', sources', templates', stencils', escape', globals', filters', functions',
    tests'⟩ := env₂
  obtain rfl : library = library' := h.texts.library.trans h'.texts.library.symm
  obtain rfl : sources = sources' := h.texts.sources.trans h'.texts.sources.symm
  obtain rfl : templates = templates' := h.texts.templates.trans h'.texts.templates.symm
  obtain rfl : stencils = stencils' := h.texts.stencils.trans h'.texts.stencils.symm
  obtain rfl : escape = escape' := h.texts.escape.trans h'.texts.escape.symm
  obtain rfl : filters = filters' := h.filters.unique h'.filters
  obtain rfl : functions = functions' := h.functions.unique h'.functions
  obtain rfl : tests = tests' := h.tests.unique h'.tests
  obtain rfl : globals = globals' := h.globals.unique h'.globals
  rfl

/-- One more extension adds its entries. -/
theorem addTo (h : Extended settings env P env₁) (e : Extension) :
    Extended settings env (fun e' => P e' ∨ e' = e)
      ((e.additions settings env₁).addTo env₁) := by
  rw [additions_of_sameTexts h.texts e]
  exact ⟨⟨h.texts.library, h.texts.sources, h.texts.templates, h.texts.stencils,
      h.texts.escape⟩, h.filters.putAll agree_filters e, h.functions.putAll agree_functions e,
    h.tests.putAll agree_tests e, h.globals.putAll agree_globals e⟩

/-- The filter that include guards need is one of those that change the case. -/
theorem needs_iff (h : Extended settings env P env₁) :
    e.Needs env₁ ↔ (e = includeGuard → P case) := by
  apply imp_congr_right
  intro _
  rw [Environment.hasFilter, ByName.has_iff]
  constructor
  · rintro ⟨f, hf⟩
    obtain ⟨e', he', hmem⟩ := (h.filters.lookup _ f).mp hf
    cases e' with
    | case => exact he'
    | debug =>
        have hname : "shouty_snake_case".toList = "debug".toList :=
          congrArg Prod.fst (List.mem_singleton.mp hmem)
        exact absurd hname (by decide)
    | buildInfo | identifierTests | includeGuard => cases hmem
  · intro hcase
    refine ⟨Identifier.caseFilter "shouty_snake_case" Text.shoutySnakeCase, ?_⟩
    exact (h.filters.lookup _ _).mpr ⟨case, hcase, by simp [additions, caseFilters]⟩

end Extended

end Extension

end TemplateTree
