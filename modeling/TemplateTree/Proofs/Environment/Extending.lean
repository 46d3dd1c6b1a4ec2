import TemplateTree.Build.Generator
import TemplateTree.Proofs.Environment.Loading
import TemplateTree.Proofs.Run.Settled

/-!
# What extensions change

An extension adds to the registry and the variables of an environment and leaves
everything else.  What it adds depends on the settings, and only one extension looks
at the templates.
-/

namespace TemplateTree

variable {settings : Settings} {env env' : Environment} {s s' : Session}

/-- Environments that differ at most in their registries and variables. -/
structure Environment.SameTexts (env env' : Environment) : Prop where
  library : env'.library = env.library
  sources : env'.sources = env.sources
  templates : env'.templates = env.templates
  stencils : env'.stencils = env.stencils
  escape : env'.escape = env.escape

theorem Environment.SameTexts.refl (env : Environment) : SameTexts env env :=
  ⟨rfl, rfl, rfl, rfl, rfl⟩

theorem Environment.SameTexts.trans {env'' : Environment} (h : SameTexts env env')
    (h' : SameTexts env' env'') : SameTexts env env'' :=
  ⟨h'.library.trans h.library, h'.sources.trans h.sources, h'.templates.trans h.templates,
    h'.stencils.trans h.stencils, h'.escape.trans h.escape⟩

namespace Extension

open Job

def extend? (settings : Settings) (env : Environment) (kind : ExtensionKind) (id : Text) :
    Option Environment :=
  (find? kind id).bind fun e => (e.added settings env).toOption

theorem extend?_eq_some_iff {kind : ExtensionKind} {id : Text} :
    extend? settings env kind id = some env' ↔
      ∃ e, find? kind id = some e ∧ e.added settings env = .ok env' := by
  unfold extend?
  rw [Option.bind_eq_some_iff]
  refine exists_congr fun e => and_congr_right fun _ => ?_
  cases e.added settings env <;> simp [Except.toOption]

def extendAll? (settings : Settings) (env : Environment) : Option Environment :=
  (settings.engineExtensions.foldlM (fun env id => extend? settings env .engine id) env).bind
    fun env => settings.customModules.foldlM (fun env id => extend? settings env .custom id) env

theorem sameTexts_of_withGlobal {name : Text} {v : Value} (h : env.withGlobal name v = .ok env') :
    env.SameTexts env' := by
  unfold Environment.withGlobal at h
  split at h
  · cases h
  · cases h
    exact ⟨rfl, rfl, rfl, rfl, rfl⟩

theorem sameTexts_of_filters (filters : List (String × (Text → Text))) (env : Environment) :
    env.SameTexts (filters.foldl (fun env (name, change) =>
      env.withFilter name (Identifier.caseFilter name change)) env) := by
  induction filters generalizing env with
  | nil => exact .refl env
  | cons p rest ih =>
      have hfirst : env.SameTexts (env.withFilter p.1 (Identifier.caseFilter p.1 p.2)) :=
        ⟨rfl, rfl, rfl, rfl, rfl⟩
      exact hfirst.trans (ih _)

theorem sameTexts_of_added {e : Extension} (h : e.added settings env = .ok env') :
    env.SameTexts env' := by
  cases e with
  | case =>
      cases h
      exact sameTexts_of_filters caseFilters env
  | debug =>
      have hfilter := sameTexts_of_withGlobal h
      exact ⟨hfilter.library, hfilter.sources, hfilter.templates, hfilter.stencils, hfilter.escape⟩
  | buildInfo => exact sameTexts_of_withGlobal h
  | identifierTests =>
      cases h
      exact ⟨rfl, rfl, rfl, rfl, rfl⟩
  | includeGuard =>
      simp only [added] at h
      split at h
      · cases h
        exact ⟨rfl, rfl, rfl, rfl, rfl⟩
      · cases h

def named (settings : Settings) (kind : ExtensionKind) (env : Environment) (id : Text) :
    Except Failure Environment :=
  match find? kind id with
  | some e => (e.added settings env).mapError e.owned
  | none => .error (unknown kind id)

def outcome (settings : Settings) (env : Environment) : Except Failure Environment :=
  settings.engineExtensions.foldlM (named settings .engine) env >>=
    settings.customModules.foldlM (named settings .custom)

theorem settles_remark (e : Extension) (env : Environment) : Settles (.ok ()) (e.remark env) := by
  cases e with
  | debug => exact settles_modify
  | includeGuard =>
      dsimp only [remark]
      split
      · exact settles_pure
      · exact settles_modify
  | case | buildInfo | identifierTests => exact settles_pure

theorem settles_logAdded (e : Extension) (noun : String) (before after : List Text) :
    Settles (.ok ()) (e.logAdded noun before after) := by
  unfold logAdded
  split
  · exact settles_pure
  · exact settles_modify

theorem settles_apply (e : Extension) (settings : Settings) (env : Environment) :
    Settles ((e.added settings env).mapError e.owned) (e.apply settings env) := by
  apply Settles.after_talk settles_modify
  apply Settles.before_talk
  · apply Settles.tryCatch
    · exact (settles_remark e env).after_talk settles_ofExcept
    · exact fun _ => settles_throw
  · intro env'
    apply (settles_logAdded e _ _ _).after_talk
    apply (settles_logAdded e _ _ _).after_talk
    apply (settles_logAdded e _ _ _).after_talk
    exact settles_pure

theorem settles_applyNamed (settings : Settings) (env : Environment) (kind : ExtensionKind)
    (id : Text) : Settles (named settings kind env id) (applyNamed settings env kind id) := by
  unfold named applyNamed
  cases find? kind id with
  | none => exact settles_throw
  | some e => exact settles_apply e settings env

theorem settles_applyAll (settings : Settings) (env : Environment) :
    Settles (outcome settings env) (applyAll settings env) :=
  (settles_foldlM fun env id _ => settles_applyNamed settings env .engine id).bind
    fun _ _ => settles_foldlM fun env id _ => settles_applyNamed settings env .custom id

theorem extend?_eq (settings : Settings) (env : Environment) (kind : ExtensionKind) (id : Text) :
    extend? settings env kind id = (named settings kind env id).toOption := by
  unfold extend? named
  cases find? kind id with
  | none => rfl
  | some e =>
      change (e.added settings env).toOption = ((e.added settings env).mapError e.owned).toOption
      cases e.added settings env <;> rfl

theorem foldlM_extend? (kind : ExtensionKind) (ids : List Text) (env : Environment) :
    ids.foldlM (fun env id => extend? settings env kind id) env =
      (ids.foldlM (named settings kind) env).toOption := by
  induction ids generalizing env with
  | nil => rfl
  | cons id ids ih =>
      rw [List.foldlM_cons, List.foldlM_cons, extend?_eq]
      cases named settings kind env id with
      | error e => rfl
      | ok env' => exact ih env'

theorem extendAll?_eq (settings : Settings) (env : Environment) :
    extendAll? settings env = (outcome settings env).toOption := by
  rw [extendAll?, outcome, foldlM_extend?]
  cases settings.engineExtensions.foldlM (named settings .engine) env with
  | error e => rfl
  | ok env' => exact foldlM_extend? .custom settings.customModules env'

theorem applyAll_eq_ok (h : applyAll settings env s = .ok env' s') :
    extendAll? settings env = some env' := by
  rw [extendAll?_eq, (settles_applyAll settings env).eq_ok h]
  rfl

theorem sameTexts_of_extend? {kind : ExtensionKind} {id : Text}
    (h : extend? settings env kind id = some env') : env.SameTexts env' := by
  obtain ⟨e, -, hadded⟩ := extend?_eq_some_iff.mp h
  exact sameTexts_of_added hadded

theorem sameTexts_of_foldlM {kind : ExtensionKind} {ids : List Text}
    (h : ids.foldlM (fun env id => extend? settings env kind id) env = some env') :
    env.SameTexts env' := by
  induction ids generalizing env with
  | nil =>
      obtain rfl : env = env' := by simpa using h
      exact .refl env
  | cons id ids ih =>
      rw [List.foldlM_cons] at h
      obtain ⟨env₁, hfirst, h⟩ := Option.bind_eq_some_iff.mp h
      exact (sameTexts_of_extend? hfirst).trans (ih h)

theorem sameTexts_of_extendAll? (h : extendAll? settings env = some env') :
    env.SameTexts env' := by
  obtain ⟨env₁, hengine, h⟩ := Option.bind_eq_some_iff.mp h
  exact (sameTexts_of_foldlM hengine).trans (sameTexts_of_foldlM h)

end Extension

/-- An environment that settings make of the files of a tree, with all extensions. -/
def Environment.MadeFrom (env : Environment) (t : FileTree) (settings : Settings) : Prop :=
  ∃ plain, Environment.create t settings = .ok plain ∧
    Extension.extendAll? settings plain = some env

namespace Environment.MadeFrom

variable {t : FileTree} {f : TemplateFile} {source : Source}

theorem of_create (h : Environment.create t settings = .ok env)
    (hengine : settings.engineExtensions = []) (hcustom : settings.customModules = []) :
    env.MadeFrom t settings :=
  ⟨env, h, by rw [Extension.extendAll?, hengine, hcustom]; rfl⟩

theorem templates (h : env.MadeFrom t settings) :
    settings.candidates t none = .ok env.templates := by
  obtain ⟨plain, hcreate, hextend⟩ := h
  rw [(Extension.sameTexts_of_extendAll? hextend).templates]
  exact templates_of_create hcreate

theorem discover (h : env.MadeFrom t settings) :
    settings.discover t = .ok ⟨env.templates, env.stencils⟩ := by
  obtain ⟨plain, hcreate, hextend⟩ := h
  have hsame := Extension.sameTexts_of_extendAll? hextend
  obtain ⟨set, hset, -, -, htemplates, hstencils, -⟩ := create_spec hcreate
  rw [hsame.templates, hsame.stencils, htemplates, hstencils, hset]

theorem templates_ne_nil (h : env.MadeFrom t settings) : env.templates ≠ [] := by
  obtain ⟨plain, hcreate, hextend⟩ := h
  obtain ⟨set, -, -, -, htemplates, -, hne, -⟩ := create_spec hcreate
  rw [(Extension.sameTexts_of_extendAll? hextend).templates, htemplates]
  exact hne

theorem exists_source (h : env.MadeFrom t settings) (hf : f ∈ env.templates) :
    ∃ source, env.sources.lookup f.name = some source := by
  obtain ⟨plain, hcreate, hextend⟩ := h
  have hsame := Extension.sameTexts_of_extendAll? hextend
  rw [hsame.sources]
  exact exists_source_of_create hcreate (hsame.templates ▸ hf)

theorem source_eq (h : env.MadeFrom t settings) (ht : t.Sound)
    (hf : f ∈ env.templates ∨ f ∈ env.stencils)
    (hsource : env.sources.lookup f.name = some source) :
    ∃ text, t.readText f.path = .ok text ∧
      source = Source.ofText settings.engineOptions text := by
  obtain ⟨plain, hcreate, hextend⟩ := h
  have hsame := Extension.sameTexts_of_extendAll? hextend
  rw [hsame.sources] at hsource
  exact source_of_create ht hcreate (hsame.templates ▸ hsame.stencils ▸ hf) hsource

/-- Every template and stencil is at the end of names below the template directory. -/
theorem exists_names (h : env.MadeFrom t settings) (ht : t.Sound)
    (hf : f ∈ env.templates ∨ f ∈ env.stencils) : ∃ names, names ≠ [] ∧
      (∀ x ∈ names, x.IsName) ∧ f = settings.templateAt names := by
  obtain ⟨plain, hcreate, hextend⟩ := h
  have hsame := Extension.sameTexts_of_extendAll? hextend
  obtain ⟨root, hplace⟩ := Settings.place_of_candidates (templates_of_create hcreate)
  obtain ⟨set, hset, -, -, htemplates, hstencils, -⟩ := create_spec hcreate
  rw [hsame.templates, hsame.stencils, htemplates, hstencils] at hf
  exact Settings.exists_names_of_discover ht hplace hset hf

/-- The template directory of an environment is there, as it holds a template. -/
theorem dir_of_place {root : Place} (h : env.MadeFrom t settings) (ht : t.Sound)
    (hplace : t.place settings.templateDir = .ok root) : t.root.item? root = some .dir := by
  obtain ⟨f, hf⟩ := List.exists_mem_of_ne_nil _ h.templates_ne_nil
  obtain ⟨names, _, hholds, -⟩ := (Settings.mem_candidates_iff ht hplace h.templates).mp hf
  obtain ⟨_, _, hfile⟩ := hholds.file
  exact Node.item?_dir_of_append (Option.isSome_of_eq_some hfile) hholds.ne_nil

theorem name_ne_nil (h : env.MadeFrom t settings) (ht : t.Sound)
    (hf : f ∈ env.templates ∨ f ∈ env.stencils) : f.name ≠ [] := by
  obtain ⟨root, hplace⟩ := Settings.place_of_candidates h.templates
  obtain ⟨names, hne, hvalid, rfl⟩ := h.exists_names ht hf
  rw [Settings.name_templateAt hplace hne hvalid]
  obtain ⟨x, names, rfl⟩ := List.exists_cons_of_ne_nil hne
  have hx : x ≠ [] := (hvalid x List.mem_cons_self).1
  cases names <;> simp [Text.joinWith, hx]

end Environment.MadeFrom

/-- A generator has the settings it was made from, and an environment that these make. -/
theorem Generator.new_eq_ok {g : Generator} (h : Generator.new settings s = .ok g s') :
    g.settings = settings ∧ g.environment.MadeFrom s.files settings := by
  obtain ⟨_, _, hget, h⟩ := bind_eq_ok h
  cases hget
  obtain ⟨env, _, hcreate, h⟩ := bind_eq_ok h
  obtain ⟨_, _, -, h⟩ := bind_eq_ok h
  obtain ⟨env', _, happly, h⟩ := bind_eq_ok h
  cases h
  exact ⟨rfl, env, (Job.ofExcept_eq_ok hcreate).1, Extension.applyAll_eq_ok happly⟩

end TemplateTree
