import TemplateTree.Proofs.Extension.Applying

/-!
# The variables of a rendering

However an environment was built up, a rendering sees its variables and, under a name of
its own, the namespace of the settings with the override on top.  That name cannot be given
to another variable, and an override lasts for one rendering.
-/

namespace TemplateTree

/-- Of entries that are put in, the last one of a name counts. -/
theorem ByName.lookup_putAll_append {α : Type} {m : ByName α} {entries : List (Text × α)}
    {x : Text} : (putAll entries m).lookup x = (entries.reverse ++ m).lookup x := by
  induction entries generalizing m with
  | nil => rfl
  | cons e rest ih =>
      obtain ⟨y, v⟩ := e
      have hstep : putAll ((y, v) :: rest) m = putAll rest (put y v m) := rfl
      rw [hstep, ih, List.reverse_cons, List.append_assoc, List.lookup_append, List.lookup_append,
        lookup_put, List.cons_append, List.nil_append, lookup_cons]

/-! ## Namespaces by name -/

namespace Namespace

variable {ns base overrides : Namespace} {x y : Text} {v : Value}

/-- Names in order, each one once. -/
abbrev Ordered (ns : Namespace) : Prop :=
  ns.Pairwise fun a b => Text.order a.1 b.1 = .lt

theorem get?_cons : get? ((x, v) :: ns) y = if y = x then some v else ns.get? y :=
  ByName.lookup_cons

theorem get?_insert : (insert x v ns).get? y = if y = x then some v else ns.get? y := by
  rw [insert_eq_put]
  exact ByName.lookup_put

theorem Ordered.insert (h : Ordered ns) : Ordered (Namespace.insert x v ns) := by
  rw [insert_eq_put]
  exact ByName.pairwise_put h

theorem ordered_ofList (entries : List (Text × Value)) : (ofList entries).Ordered := by
  have hfold : ∀ ns : Namespace, ns.Ordered →
      (entries.foldl (fun ns e => ns.insert e.1 e.2) ns).Ordered := by
    induction entries with
    | nil => exact fun ns h => h
    | cons e rest ih => exact fun ns h => ih _ h.insert
  exact hfold [] .nil

theorem mem_keys_iff : x ∈ ns.keys ↔ ns.get? x ≠ none := by
  induction ns with
  | nil => simp [keys, get?]
  | cons e rest ih =>
      obtain ⟨y, v⟩ := e
      rw [get?_cons, keys, List.map_cons, List.mem_cons]
      by_cases hx : x = y
      · simp [hx]
      · rw [if_neg hx]
        exact (or_iff_right hx).trans ih

theorem merge_cons : merge base ((x, v) :: overrides) = merge (insert x v base) overrides :=
  rfl

theorem Ordered.merge (h : Ordered base) : Ordered (Namespace.merge base overrides) := by
  induction overrides generalizing base with
  | nil => exact h
  | cons e rest ih => exact ih h.insert

/-- A name has the value of the override if that has the name, and else the one it had. -/
theorem get?_merge (h : Ordered overrides) :
    (merge base overrides).get? x = (overrides.get? x).or (base.get? x) := by
  induction overrides generalizing base with
  | nil => rfl
  | cons e rest ih =>
      obtain ⟨y, v⟩ := e
      rw [Ordered, List.pairwise_cons] at h
      rw [merge_cons, ih h.2, get?_insert, get?_cons]
      by_cases hx : x = y
      · -- the rest of the override does not have the name again
        have hrest : get? rest x = none := by
          by_contra hsome
          obtain ⟨w, hw⟩ := Option.ne_none_iff_exists'.mp hsome
          have hlt := h.1 _ (ByName.mem_of_lookup hw)
          simp [hx] at hlt
        rw [hrest, if_pos hx, if_pos hx]
        rfl
      · rw [if_neg hx, if_neg hx]

end Namespace

namespace Settings

variable {settings : Settings} {overrides : Option Namespace} {x : Text}

theorem ordered_namespaceWith (h : settings.globalNamespace.Ordered) :
    (settings.namespaceWith overrides).Ordered := by
  cases overrides with
  | none => exact h
  | some o => exact h.merge

theorem get?_namespaceWith (h : ∀ o ∈ overrides, o.Ordered) :
    (settings.namespaceWith overrides).get? x =
      (overrides.bind (·.get? x)).or (settings.globalNamespace.get? x) := by
  cases overrides with
  | none => rfl
  | some o => exact Namespace.get?_merge (h o rfl)

end Settings

namespace Environment

open Job

variable {env env' : Environment} {settings : Settings} {overrides : Option Namespace}
  {x : Text} {v : Value} {ns : Namespace}

/-! ## Building an environment -/

/-- A call that adds to an environment. -/
inductive Call where
  | filter (name : Text) (f : Template.Filter)
  | function (name : Text) (f : Template.Function)
  | test (name : Text) (f : Template.Test)
  | global (name : Text) (v : Value)
  /-- An extension is applied in some session. -/
  | extension (e : Extension) (settings : Settings) (s : Session)

/-- What a call makes of an environment, unless it is refused. -/
def Call.made? (env : Environment) : Call → Option Environment
  | filter name f => some (env.withFilter name f)
  | function name f => some (env.withFunction name f)
  | test name f => some (env.withTest name f)
  | global name v => (env.withGlobal name v).toOption
  | extension e settings s =>
    match e.apply settings env s with
    | .ok env' _ => some env'
    | .error _ _ => none

/-- The variables that a call adds, unless it is refused. -/
def Call.variables (env : Environment) : Call → List (Text × Value)
  | filter _ _ => []
  | function _ _ => []
  | test _ _ => []
  | global name v => [(name, v)]
  | extension e settings _ => (e.additions settings env).globals

/-- The environment in use, and the variables that were added, the last one first. -/
structure Building where
  env : Environment
  added : List (Text × Value)

/-- A call that is refused leaves the environment in use. -/
def Building.next (b : Building) (c : Call) : Building :=
  match c.made? b.env with
  | some env => ⟨env, (c.variables b.env).reverse ++ b.added⟩
  | none => b

/-- What calls make of an environment, one after the other. -/
def building (env : Environment) (calls : List Call) : Building :=
  calls.foldl Building.next ⟨env, []⟩

theorem withGlobal_eq_ok (h : env.withGlobal x v = .ok env') :
    x ≠ namespaceName ∧ env'.globals = ByName.putAll [(x, v)] env.globals := by
  unfold withGlobal at h
  split at h
  case isTrue => cases h
  case isFalse hx =>
    obtain rfl := Except.ok.inj h
    exact ⟨hx, Namespace.insert_eq_put x v env.globals⟩

theorem apply_eq_ok {e : Extension} {s s' : Session} (h : e.apply settings env s = .ok env' s') :
    env' = (e.additions settings env).addTo env := by
  have hadded := (Extension.settles_apply e settings env).eq_ok h
  by_cases hneeds : e.Needs env
  · rw [Extension.added_of_needs hneeds] at hadded
    exact (Except.ok.inj hadded).symm
  · rw [Extension.added_of_not_needs hneeds] at hadded
    cases hadded

theorem namespaceName_not_mem_additions {e : Extension} {p : Text × Value}
    (h : p ∈ (e.additions settings env).globals) : p.1 ≠ namespaceName := by
  cases e with
  | case | identifierTests | includeGuard => cases h
  | debug =>
      obtain rfl := List.mem_singleton.mp h
      show "debug_context".toList ≠ namespaceName
      decide
  | buildInfo =>
      obtain rfl := List.mem_singleton.mp h
      show "generator".toList ≠ namespaceName
      decide

/-- A call puts its variables in, and none of them has the name of the namespace. -/
theorem made?_eq_some {c : Call} (h : c.made? env = some env') :
    env'.globals = ByName.putAll (c.variables env) env.globals ∧
      ∀ p ∈ c.variables env, p.1 ≠ namespaceName := by
  cases c with
  | filter | function | test =>
      obtain rfl := Option.some.inj h
      exact ⟨rfl, by simp [Call.variables]⟩
  | global name v =>
      obtain ⟨hname, hglobals⟩ := withGlobal_eq_ok (toOption_eq_some_iff.mp h)
      refine ⟨hglobals, fun p hp => ?_⟩
      obtain rfl := List.mem_singleton.mp hp
      exact hname
  | extension e settings s =>
      dsimp only [Call.made?] at h
      split at h
      case h_2 => cases h
      case h_1 s' happly =>
        obtain rfl := Option.some.inj h
        rw [apply_eq_ok happly]
        exact ⟨rfl, fun p => namespaceName_not_mem_additions⟩

/-- The variables in use are those that were added; the last one of a name counts, and none
has the name of the namespace. -/
structure Building.Bound (b : Building) : Prop where
  ordered : b.env.globals.Ordered
  names : ∀ p ∈ b.added, p.1 ≠ namespaceName
  last : ∀ x, b.env.globals.get? x = b.added.lookup x

theorem Building.Bound.next {b : Building} (h : b.Bound) (c : Call) : (b.next c).Bound := by
  unfold Building.next
  split
  case h_2 => exact h
  case h_1 env hmade =>
    obtain ⟨hglobals, hnames⟩ := made?_eq_some hmade
    refine ⟨?_, fun p hp => ?_, fun x => ?_⟩
    · dsimp only
      rw [hglobals]
      exact ByName.pairwise_putAll h.ordered
    · rcases List.mem_append.mp hp with hp | hp
      · exact hnames p (List.mem_reverse.mp hp)
      · exact h.names p hp
    · have hlast : List.lookup x b.env.globals = b.added.lookup x := h.last x
      dsimp only [Namespace.get?]
      rw [hglobals, ByName.lookup_putAll_append, List.lookup_append, List.lookup_append, hlast]

theorem Building.Bound.foldl {b : Building} (h : b.Bound) (calls : List Call) :
    (calls.foldl Building.next b).Bound := by
  induction calls generalizing b with
  | nil => exact h
  | cons c rest ih => exact ih (h.next c)

theorem bound_building (hglobals : env.globals = []) (calls : List Call) :
    (building env calls).Bound := by
  apply Building.Bound.foldl
  refine ⟨?_, by simp, fun x => ?_⟩
  · simp [hglobals]
  · simp [hglobals, Namespace.get?]

theorem Building.Bound.name_not_mem {b : Building} (h : b.Bound) :
    namespaceName ∉ b.env.globals.keys := by
  rw [Namespace.mem_keys_iff, not_not, h.last, List.lookup_eq_none_iff]
  intro p hp
  simpa using Ne.symm (h.names p hp)

/-! ## All extensions of settings -/

theorem building_append (env : Environment) (calls more : List Call) :
    building env (calls ++ more) = more.foldl Building.next (building env calls) :=
  List.foldl_append

theorem exists_call_of_applyNamed {kind : ExtensionKind} {id : Text} {s s' : Session}
    (h : Extension.applyNamed settings env kind id s = .ok env' s') :
    ∃ c : Call, c.made? env = some env' := by
  unfold Extension.applyNamed at h
  cases hfind : Extension.find? kind id with
  | none =>
      rw [hfind] at h
      cases h
  | some e =>
      rw [hfind] at h
      refine ⟨.extension e settings s, ?_⟩
      dsimp only at h
      rw [Call.made?, h]

theorem exists_building_of_foldlM {plain : Environment} {kind : ExtensionKind} {ids : List Text}
    {calls : List Call} {s s' : Session} (henv : (building plain calls).env = env)
    (h : ids.foldlM (fun env id => Extension.applyNamed settings env kind id) env s =
      .ok env' s') : ∃ more, (building plain (calls ++ more)).env = env' := by
  induction ids generalizing env calls s with
  | nil =>
      cases h
      exact ⟨[], by rw [List.append_nil, henv]⟩
  | cons id rest ih =>
      rw [List.foldlM_cons] at h
      obtain ⟨env₁, s₁, hfirst, hrest⟩ := bind_eq_ok h
      obtain ⟨c, hc⟩ := exists_call_of_applyNamed hfirst
      have henv₁ : (building plain (calls ++ [c])).env = env₁ := by
        rw [building_append, List.foldl_cons, List.foldl_nil, Building.next, henv, hc]
      obtain ⟨more, hmore⟩ := ih henv₁ hrest
      exact ⟨c :: more, by rwa [List.append_assoc] at hmore⟩

/-- Applying all extensions of settings is a way to build an environment up. -/
theorem exists_building_of_applyAll {plain : Environment} {s s' : Session}
    (h : Extension.applyAll settings plain s = .ok env s') :
    ∃ calls, (building plain calls).env = env := by
  obtain ⟨env₁, s₁, hengine, hcustom⟩ := bind_eq_ok h
  have hstart : (building plain []).env = plain := rfl
  obtain ⟨calls, hcalls⟩ := exists_building_of_foldlM hstart hengine
  obtain ⟨more, hmore⟩ := exists_building_of_foldlM hcalls hcustom
  exact ⟨_, hmore⟩

/-! ## Rendering -/

/-- The variables of an environment, and a namespace under its own name. -/
structure Binds (env : Environment) (ns vars : Namespace) : Prop where
  ordered : vars.Ordered
  own : vars.get? namespaceName = some (.object ns)
  others : ∀ x, x ≠ namespaceName → vars.get? x = env.globals.get? x

theorem binds_context (h : env.globals.Ordered) : env.Binds ns (env.context ns) := by
  refine ⟨h.insert, ?_, fun x hx => ?_⟩
  · rw [context, Namespace.get?_insert, if_pos rfl]
  · rw [context, Namespace.get?_insert, if_neg hx]

/-- Render a template with given variables, and write what it describes. -/
def renderWith (env : Environment) (settings : Settings) (vars : Namespace) (name : Text) :
    Job RunStats := do
  templateStarted name
  let outlook ← Job.outlook
  let text ← Job.ofExcept
    ((env.library.render env.registry env.escape vars outlook name).mapError
      (env.renderFailure name))
  let sections ← Job.ofExcept (settings.sectionsOf name text)
  let saved ← writeSections settings sections
  return ⟨1, saved⟩

theorem renderTemplate_eq (env : Environment) (settings : Settings) (name : Text)
    (overrides : Option Namespace) : env.renderTemplate settings name overrides =
      env.renderWith settings (env.context (settings.namespaceWith overrides)) name := by
  have hrender : ∀ ns o, env.render name ns o =
      (env.library.render env.registry env.escape (env.context ns) o name).mapError
        (env.renderFailure name) := by
    intro ns o
    unfold render
    cases env.library.render env.registry env.escape (env.context ns) o name <;> rfl
  unfold renderTemplate renderWith
  simp only [hrender]

/-- The session after renderings, each with an override of its own. -/
def afterRenderings (env : Environment) (settings : Settings) (s : Session)
    (earlier : List (Text × Namespace)) : Session :=
  earlier.foldl (fun s p => (env.renderTemplate settings p.1 (some p.2)).after s) s

/-- Whatever calls built an environment up, none of its variables has the name of the
namespace, and each is as it was added last.  A rendering binds that name to the namespace in
which the override comes before the settings, and the others as the environment does; after
it the namespace of the settings is what a rendering without an override sees.  What the
extensions of settings make of an environment is built up by calls. -/
theorem binds_namespace {t : FileTree} {base : Settings} (hcreate : create t base = .ok env)
    (calls : List Call) (settings : Settings) (overrides : Option Namespace)
    (hsettings : settings.globalNamespace.Ordered) (hoverrides : ∀ o ∈ overrides, o.Ordered) :
    namespaceName ∉ (building env calls).env.globals.keys ∧
    (∀ x, (building env calls).env.globals.get? x = (building env calls).added.lookup x) ∧
    (∃ ns vars, ns.Ordered ∧
      (∀ x, ns.get? x = (overrides.bind (·.get? x)).or (settings.globalNamespace.get? x)) ∧
      (building env calls).env.Binds ns vars ∧
      ∀ name, (building env calls).env.renderTemplate settings name overrides =
        (building env calls).env.renderWith settings vars name) ∧
    (∃ vars, (building env calls).env.Binds settings.globalNamespace vars ∧
      ∀ name earlier s, (building env calls).env.renderTemplate settings name none
          ((building env calls).env.afterRenderings settings s earlier) =
        (building env calls).env.renderWith settings vars name
          ((building env calls).env.afterRenderings settings s earlier)) ∧
    ∀ s env' s', Extension.applyAll settings env s = .ok env' s' →
      ∃ more, (building env more).env = env' := by
  obtain ⟨-, -, -, -, -, -, -, -, hglobals, -⟩ := create_spec hcreate
  have hbound := bound_building hglobals calls
  refine ⟨hbound.name_not_mem, hbound.last, ?_, ?_, fun _ _ _ => exists_building_of_applyAll⟩
  · exact ⟨_, _, Settings.ordered_namespaceWith hsettings,
      fun x => Settings.get?_namespaceWith hoverrides, binds_context hbound.ordered,
      fun name => renderTemplate_eq _ settings name overrides⟩
  · refine ⟨_, binds_context hbound.ordered, fun name earlier s => ?_⟩
    exact congrFun (renderTemplate_eq _ settings name none) _

end Environment

namespace Sketch

def naming : Settings :=
  { settings false [] "/last".toList with
    globalNamespace := .ofList [(['a'], .ofNat 1), (['b'], .ofNat 1)] }

end Sketch

namespace Environment

/-- Of two values of one name the second counts, and an override comes before the settings. -/
theorem binds_namespace_overridden : ∃ (env : Environment) (ns vars : Namespace),
    let built := building env [.global ['x'] (.ofNat 1), .global namespaceName .null,
      .global ['x'] (.ofNat 2)]
    Environment.create Sketch.single (Sketch.settings false [] "/last".toList) = .ok env ∧
    vars.get? ['x'] = some (.ofNat 2) ∧ vars.get? namespaceName = some (.object ns) ∧
    ns.get? ['a'] = some (.ofNat 1) ∧ ns.get? ['b'] = some (.ofNat 2) ∧
    ∀ name, built.env.renderTemplate Sketch.naming name (some (.ofList [(['b'], .ofNat 2)])) =
      built.env.renderWith Sketch.naming vars name := by
  obtain ⟨env, hcreate⟩ := Sketch.exists_single
  obtain ⟨-, hlast, ⟨ns, vars, -, hvalues, hbinds, hrun⟩, -, -⟩ := binds_namespace hcreate
    [.global ['x'] (.ofNat 1), .global namespaceName .null, .global ['x'] (.ofNat 2)]
    Sketch.naming (some (.ofList [(['b'], .ofNat 2)]))
    (Namespace.ordered_ofList _) fun o ho => Option.some.inj ho ▸ Namespace.ordered_ofList _
  refine ⟨env, ns, vars, hcreate, ?_, hbinds.own, hvalues _, hvalues _, hrun⟩
  rw [hbinds.others _ (by decide), hlast]
  rfl

end Environment

end TemplateTree
