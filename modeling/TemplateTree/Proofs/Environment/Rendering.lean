import TemplateTree.Proofs.Environment.Extending
import TemplateTree.Proofs.Template.Locality

/-!
# What a template renders to

A template that refers to stencils only renders to the same text whatever becomes of the
other templates, as long as the settings, the stencils and the variables that extensions
add stay the same.
-/

namespace TemplateTree

/-! ## What extensions add -/

namespace Extension

variable {settings : Settings} {env env' next next' : Environment} {kind : ExtensionKind}
  {id : Text}

theorem registry_of_withGlobal {name : Text} {v : Value} (h : env.withGlobal name v = .ok next) :
    next.registry = env.registry := by
  unfold Environment.withGlobal at h
  split at h
  · cases h
  · cases h
    rfl

/-- What an extension adds to a registry depends on the registry only. -/
theorem registry_of_added {e : Extension} (hsame : env'.registry = env.registry)
    (h : e.added settings env = .ok next) (h' : e.added settings env' = .ok next') :
    next'.registry = next.registry := by
  cases e with
  | case =>
      cases h
      cases h'
      simp [caseFilters, Environment.withFilter, hsame]
  | debug =>
      rw [registry_of_withGlobal h, registry_of_withGlobal h']
      simp [Environment.withFilter, hsame]
  | buildInfo => rw [registry_of_withGlobal h, registry_of_withGlobal h', hsame]
  | identifierTests =>
      cases h
      cases h'
      simp [Environment.withTest, hsame]
  | includeGuard =>
      simp only [added] at h h'
      split at h
      · split at h'
        · cases h
          cases h'
          simp [Environment.withFunction, hsame]
        · cases h'
      · cases h

/-- An identifier stands for the same extension in any environment. -/
theorem exists_of_extend?_twice (h : extend? settings env kind id = some next)
    (h' : extend? settings env' kind id = some next') : ∃ e, find? kind id = some e ∧
      e.added settings env = .ok next ∧ e.added settings env' = .ok next' := by
  obtain ⟨e, he, hadded⟩ := extend?_eq_some_iff.mp h
  obtain ⟨e', he', hadded'⟩ := extend?_eq_some_iff.mp h'
  obtain rfl : e = e' := Option.some.inj (he.symm.trans he')
  exact ⟨e, he, hadded, hadded'⟩

theorem registry_of_foldlM {ids : List Text} (hsame : env'.registry = env.registry)
    (h : ids.foldlM (fun env id => extend? settings env kind id) env = some next)
    (h' : ids.foldlM (fun env id => extend? settings env kind id) env' = some next') :
    next'.registry = next.registry := by
  induction ids generalizing env env' with
  | nil =>
      cases h
      cases h'
      exact hsame
  | cons id ids ih =>
      rw [List.foldlM_cons] at h h'
      obtain ⟨env₁, hfirst, h⟩ := Option.bind_eq_some_iff.mp h
      obtain ⟨env₁', hfirst', h'⟩ := Option.bind_eq_some_iff.mp h'
      obtain ⟨e, -, hadded, hadded'⟩ := exists_of_extend?_twice hfirst hfirst'
      exact ih (registry_of_added hsame hadded hadded') h h'

theorem registry_of_extendAll? (hsame : env'.registry = env.registry)
    (h : extendAll? settings env = some next) (h' : extendAll? settings env' = some next') :
    next'.registry = next.registry := by
  obtain ⟨env₁, hengine, h⟩ := Option.bind_eq_some_iff.mp h
  obtain ⟨env₁', hengine', h'⟩ := Option.bind_eq_some_iff.mp h'
  exact registry_of_foldlM (registry_of_foldlM hsame hengine hengine') h h'

theorem globals_of_withGlobal {name : Text} {v : Value} (hsame : env'.globals = env.globals)
    (h : env.withGlobal name v = .ok next) (h' : env'.withGlobal name v = .ok next') :
    next'.globals = next.globals := by
  unfold Environment.withGlobal at h h'
  split at h
  · cases h
  · split at h'
    · cases h'
    · cases h
      cases h'
      simp [hsame]

/-- Only one extension adds variables that depend on the templates. -/
theorem globals_of_added {e : Extension}
    (he : e = .debug → env'.templates = env.templates ∧ env'.stencils = env.stencils)
    (hsame : env'.globals = env.globals)
    (h : e.added settings env = .ok next) (h' : e.added settings env' = .ok next') :
    next'.globals = next.globals := by
  cases e with
  | case =>
      cases h
      cases h'
      simp [caseFilters, Environment.withFilter, hsame]
  | debug =>
      obtain ⟨htemplates, hstencils⟩ := he rfl
      simp only [added, debugContext, htemplates, hstencils] at h h'
      refine globals_of_withGlobal ?_ h h'
      exact hsame
  | buildInfo => exact globals_of_withGlobal hsame h h'
  | identifierTests =>
      cases h
      cases h'
      simp [Environment.withTest, hsame]
  | includeGuard =>
      simp only [added] at h h'
      split at h
      · split at h'
        · cases h
          cases h'
          simp [Environment.withFunction, hsame]
        · cases h'
      · cases h

theorem globals_of_foldlM {ids : List Text}
    (hids : ∀ id ∈ ids, find? kind id = some .debug →
      env'.templates = env.templates ∧ env'.stencils = env.stencils)
    (hsame : env'.globals = env.globals)
    (h : ids.foldlM (fun env id => extend? settings env kind id) env = some next)
    (h' : ids.foldlM (fun env id => extend? settings env kind id) env' = some next') :
    next'.globals = next.globals := by
  induction ids generalizing env env' with
  | nil =>
      cases h
      cases h'
      exact hsame
  | cons id ids ih =>
      rw [List.foldlM_cons] at h h'
      obtain ⟨env₁, hfirst, h⟩ := Option.bind_eq_some_iff.mp h
      obtain ⟨env₁', hfirst', h'⟩ := Option.bind_eq_some_iff.mp h'
      obtain ⟨e, he, hadded, hadded'⟩ := exists_of_extend?_twice hfirst hfirst'
      have hfirst := sameTexts_of_added hadded
      have hfirst' := sameTexts_of_added hadded'
      refine ih (fun id hid hdebug => ?_) (globals_of_added ?_ hsame hadded hadded') h h'
      · rw [hfirst.templates, hfirst.stencils, hfirst'.templates, hfirst'.stencils]
        exact hids id (List.mem_cons_of_mem _ hid) hdebug
      · rintro rfl
        exact hids id List.mem_cons_self he

theorem eq_debug_of_find? (h : find? kind id = some .debug) :
    kind = .engine ∧ id = "debug".toList := by
  have hmem := List.mem_of_find?_eq_some h
  have hname := List.find?_some h
  cases kind with
  | engine => exact ⟨rfl, (of_decide_eq_true hname).symm⟩
  | custom => simp [ExtensionKind.members] at hmem

end Extension

namespace Environment

variable {settings : Settings} {t t' : FileTree} {env env' : Environment} {f : TemplateFile}
  {n : Text} {ns : Namespace} {o o' : Template.Outlook}

/-- Variables depend on the settings only, and on the templates and stencils if the
extension that describes the run is chosen. -/
theorem MadeFrom.globals_eq (h : env.MadeFrom t settings) (h' : env'.MadeFrom t' settings)
    (hdebug : "debug".toList ∈ settings.engineExtensions →
      env'.templates = env.templates ∧ env'.stencils = env.stencils) :
    env'.globals = env.globals := by
  obtain ⟨plain, hcreate, hextend⟩ := h
  obtain ⟨plain', hcreate', hextend'⟩ := h'
  have hsame := Extension.sameTexts_of_extendAll? hextend
  have hsame' := Extension.sameTexts_of_extendAll? hextend'
  rw [hsame.templates, hsame.stencils, hsame'.templates, hsame'.stencils] at hdebug
  obtain ⟨_, _, _, _, _, _, _, _, hglobals, _⟩ := create_spec hcreate
  obtain ⟨_, _, _, _, _, _, _, _, hglobals', _⟩ := create_spec hcreate'
  obtain ⟨env₁, hengine, hcustom⟩ := Option.bind_eq_some_iff.mp hextend
  obtain ⟨env₁', hengine', hcustom'⟩ := Option.bind_eq_some_iff.mp hextend'
  refine Extension.globals_of_foldlM (fun id _ hfind => ?_) ?_ hcustom hcustom'
  · cases (Extension.eq_debug_of_find? hfind).1
  · refine Extension.globals_of_foldlM (fun id hid hfind => hdebug ?_)
      (hglobals'.trans hglobals.symm) hengine hengine'
    rwa [(Extension.eq_debug_of_find? hfind).2] at hid

theorem MadeFrom.registry_eq (h : env.MadeFrom t settings) (h' : env'.MadeFrom t' settings) :
    env'.registry = env.registry := by
  obtain ⟨plain, hcreate, hextend⟩ := h
  obtain ⟨plain', hcreate', hextend'⟩ := h'
  obtain ⟨_, _, _, _, _, _, _, _, _, hregistry⟩ := create_spec hcreate
  obtain ⟨_, _, _, _, _, _, _, _, _, hregistry'⟩ := create_spec hcreate'
  exact Extension.registry_of_extendAll? (hregistry'.trans hregistry.symm) hextend hextend'

theorem MadeFrom.escape_eq (h : env.MadeFrom t settings) :
    env.escape = settings.engineOptions.autoescape := by
  obtain ⟨plain, hcreate, hextend⟩ := h
  obtain ⟨_, _, _, _, _, _, _, hescape, _⟩ := create_spec hcreate
  rw [(Extension.sameTexts_of_extendAll? hextend).escape, hescape]

theorem lookup_processed (sources : Sources) (n : Text) :
    (sources.map fun (name, source) => (name, source.processed)).lookup n =
      (sources.lookup n).map Source.processed :=
  ByName.lookup_map fun _ => Source.processed

/-- The templates of an environment are what its sources parse to. -/
theorem MadeFrom.library_spec (h : env.MadeFrom t settings) :
    (∀ n, env.library.find? n = (env.sources.lookup n).bind fun source =>
      (Template.parse n source.processed).toOption) ∧
    ∀ n u, env.library.find? n = some u → u.Regular ∧ ∃ above, env.library.chain u = .ok above := by
  obtain ⟨plain, hcreate, hextend⟩ := h
  have hsame := Extension.sameTexts_of_extendAll? hextend
  obtain ⟨_, _, _, hlibrary, _⟩ := create_spec hcreate
  obtain ⟨hfind, hchains⟩ := Library.ofTexts_spec hlibrary
  rw [hsame.library, hsame.sources]
  refine ⟨fun n => ?_, hchains⟩
  rw [hfind, lookup_processed, Option.bind_map]
  rfl

/-- Every source is that of a file. -/
theorem MadeFrom.exists_file (h : env.MadeFrom t settings) {source : Source}
    (hsource : env.sources.lookup n = some source) :
    ∃ f, (f ∈ env.templates ∨ f ∈ env.stencils) ∧ f.name = n := by
  obtain ⟨plain, hcreate, hextend⟩ := h
  have hsame := Extension.sameTexts_of_extendAll? hextend
  obtain ⟨set, _, hload, _, htemplates, hstencils, _⟩ := create_spec hcreate
  rw [hsame.sources] at hsource
  obtain ⟨f, hf, hname, -⟩ := (Sources.load_spec hload).2 n source hsource
  rw [hsame.templates, hsame.stencils, htemplates, hstencils]
  exact ⟨f, hf, hname⟩

/-- No template has an empty name. -/
theorem MadeFrom.find?_nil (h : env.MadeFrom t settings) (ht : t.Sound) :
    env.library.find? [] = none := by
  rw [h.library_spec.1]
  cases hsource : env.sources.lookup [] with
  | none => rfl
  | some source =>
      obtain ⟨f, hf, hname⟩ := h.exists_file hsource
      exact absurd hname (h.name_ne_nil ht hf)

/-- The questions that the rendering of a template asks. -/
def questions (env : Environment) (name : Text) (ns : Namespace) (o : Template.Outlook) :
    List Template.Question :=
  env.library.questions env.registry env.escape (env.context ns) o name

theorem toOption_render (env : Environment) (name : Text) (ns : Namespace)
    (o : Template.Outlook) : (env.render name ns o).toOption =
      (env.library.render env.registry env.escape (env.context ns) o name).toOption := by
  rw [render]
  cases env.library.render env.registry env.escape (env.context ns) o name <;> rfl

/-- What a template renders to is told by the sources to which it leads, and by the answers
to what it asks. -/
theorem MadeFrom.toOption_render_eq {name : Text} (h : env.MadeFrom t settings)
    (h' : env'.MadeFrom t' settings) (ht : t.Sound) (ht' : t'.Sound)
    (hglobals : env'.globals = env.globals)
    (hlookup : ∀ n, env.library.Reaches name n →
      env'.sources.lookup n = env.sources.lookup n) (ho : o.Alike o' (env.questions name ns o)) :
    (env'.render name ns o').toOption = (env.render name ns o).toOption := by
  have hagree : Library.Agree (fun n => n = [] ∨ env.library.Reaches name n) env.library
      env'.library := by
    refine ⟨fun n hn => ?_, fun n u hn hu => ?_, fun n u hu => (h.library_spec.2 n u hu).2,
      fun n u hu => (h'.library_spec.2 n u hu).2⟩
    · obtain rfl | hn := hn
      · rw [h.find?_nil ht, h'.find?_nil ht']
      · rw [h'.library_spec.1, hlookup n hn, h.library_spec.1]
    · obtain rfl | hn := hn
      · rw [h.find?_nil ht] at hu
        cases hu
      · exact ⟨(h.library_spec.2 n u hu).1, fun m hm => .inr (hn.step hu hm)⟩
  have hcontext : env'.context ns = env.context ns := by rw [context, context, hglobals]
  rw [toOption_render, toOption_render, hcontext, h.registry_eq h', h'.escape_eq, ← h.escape_eq]
  exact hagree.toOption_render_eq (.inl rfl) _ _ _ (.inr .start) ho

/-- On machines that give the same answers to what it asks, a template renders alike. -/
theorem MadeFrom.toOption_render_of_alike {name : Text} (h : env.MadeFrom t settings)
    (ht : t.Sound) (ho : o.Alike o' (env.questions name ns o)) :
    (env.render name ns o').toOption = (env.render name ns o).toOption :=
  h.toOption_render_eq h ht ht rfl (fun _ _ => rfl) ho

/-- A file that both environments know, with the same text, has the same source in both, if
both have loaded it or neither has. -/
theorem MadeFrom.lookup_eq_of_file (h : env.MadeFrom t settings) (h' : env'.MadeFrom t' settings)
    (ht : t.Sound) (ht' : t'.Sound) {g : TemplateFile}
    (hg : g ∈ env.templates ∨ g ∈ env.stencils) (hg' : g ∈ env'.templates ∨ g ∈ env'.stencils)
    (htext : t'.readText g.path = t.readText g.path)
    (hloaded : env'.isLoaded g.name = env.isLoaded g.name) :
    env'.sources.lookup g.name = env.sources.lookup g.name := by
  cases hsource : env.sources.lookup g.name with
  | none =>
      rw [Option.eq_none_iff_forall_ne_some]
      intro source' hsource'
      have hyes : env'.isLoaded g.name = true := ByName.has_iff.mpr ⟨source', hsource'⟩
      obtain ⟨source, hsome⟩ := ByName.has_iff.mp (hloaded.symm.trans hyes)
      simp [hsource] at hsome
  | some source =>
      have hyes : env.isLoaded g.name = true := ByName.has_iff.mpr ⟨source, hsource⟩
      obtain ⟨source', hsource'⟩ := ByName.has_iff.mp (hloaded.trans hyes)
      obtain ⟨text, hread, rfl⟩ := h.source_eq ht hg hsource
      obtain ⟨text', hread', rfl⟩ := h'.source_eq ht' hg' hsource'
      rw [htext, hread] at hread'
      rw [hsource', Except.ok.inj hread']

/-- Nothing is loaded under a name that is not that of a file. -/
theorem MadeFrom.lookup_eq_none (h : env.MadeFrom t settings)
    (hn : ¬ ∃ f, (f ∈ env.templates ∨ f ∈ env.stencils) ∧ f.name = n) :
    env.sources.lookup n = none := by
  rw [Option.eq_none_iff_forall_ne_some]
  exact fun source hsource => hn (h.exists_file hsource)

/-! ## Templates that refer to stencils only -/

/-- No template leads to another one that is rendered on its own, and the stencils that it
leads to are loaded. -/
structure Independent (env : Environment) : Prop where
  alone : ∀ f ∈ env.templates, ∀ n, env.library.Reaches f.name n →
    ∀ g ∈ env.templates, g.name = n → n = f.name
  loaded : ∀ f ∈ env.templates, ∀ n, env.library.Reaches f.name n →
    ∀ g ∈ env.stencils, g.name = n → env.isLoaded n = true

def referred (env : Environment) (name : Text) : List Text :=
  name :: ((env.library.find? name).map Template.names).getD []

/-- Whether every template refers at once to all that it leads to, each of them a loaded
stencil or unknown. -/
def isIndependent (env : Environment) : Bool :=
  env.templates.all fun f => (env.referred f.name).all fun n =>
    (env.referred n).all (· ∈ env.referred f.name) && (n = f.name || !env.isTemplate n) &&
      (env.isLoaded n || !env.stencils.any fun g => g.name = n)

/-- What a template leads to is at once referred to, if what it refers to refers to nothing
else. -/
theorem mem_referred_of_reaches {name : Text}
    (h : ∀ n ∈ env.referred name, ∀ m ∈ env.referred n, m ∈ env.referred name)
    (hreach : env.library.Reaches name n) : n ∈ env.referred name := by
  induction hreach with
  | start => exact List.mem_cons_self
  | @step n m u _ hu hm ih =>
      refine h n ih m (List.mem_cons_of_mem _ ?_)
      simpa [hu] using hm

theorem independent_of_isIndependent (h : env.isIndependent = true) : env.Independent := by
  have hcheck : ∀ f ∈ env.templates, ∀ n ∈ env.referred f.name,
      (∀ m ∈ env.referred n, m ∈ env.referred f.name) ∧
      (n = f.name ∨ env.isTemplate n = false) ∧
      (env.isLoaded n = true ∨ ∀ g ∈ env.stencils, g.name ≠ n) := fun f hf n hn => by
    simpa [and_assoc] using List.all_eq_true.mp (List.all_eq_true.mp h f hf) n hn
  have hreached : ∀ f ∈ env.templates, ∀ n, env.library.Reaches f.name n →
      n ∈ env.referred f.name := fun f hf n hreach =>
    mem_referred_of_reaches (fun n hn => (hcheck f hf n hn).1) hreach
  refine ⟨fun f hf n hn g hg hname => ?_, fun f hf n hn g hg hname => ?_⟩
  · refine (hcheck f hf n (hreached f hf n hn)).2.1.resolve_right fun hnot => ?_
    have hyes : env.isTemplate n = true := List.any_eq_true.mpr ⟨g, hg, by simp [hname]⟩
    simp [hyes] at hnot
  · exact (hcheck f hf n (hreached f hf n hn)).2.2.resolve_right fun hnot => hnot g hg hname

structure SameStencils (t t' : FileTree) (env env' : Environment) : Prop where
  files : ∀ g, g ∈ env'.stencils ↔ g ∈ env.stencils
  texts : ∀ g ∈ env.stencils, t'.readText g.path = t.readText g.path

section

variable (h : env.MadeFrom t settings) (h' : env'.MadeFrom t' settings) (ht : t.Sound)
  (ht' : t'.Sound) (hstencils : SameStencils t t' env env') (hi : env.Independent)
  (hi' : env'.Independent) (hf : f ∈ env.templates) (hf' : f ∈ env'.templates)
  (hsource : env'.sources.lookup f.name = env.sources.lookup f.name)
include h h' ht ht' hstencils

include hi hi' hf hf' hsource

/-- A name to which a template leads has the same source in both environments. -/
theorem lookup_of_reaches (hreach : env.library.Reaches f.name n) :
    env'.library.Reaches f.name n ∧ env'.sources.lookup n = env.sources.lookup n := by
  induction hreach with
  | start => exact ⟨.start, hsource⟩
  | @step n m u hreach hu hm ih =>
      obtain ⟨hreach', hlookup⟩ := ih
      have hu' : env'.library.find? n = some u := by
        rw [h'.library_spec.1, hlookup, ← h.library_spec.1, hu]
      have hnext : env.library.Reaches f.name m := hreach.step hu hm
      have hnext' : env'.library.Reaches f.name m := hreach'.step hu' hm
      refine ⟨hnext', ?_⟩
      by_cases hmf : m = f.name
      · rw [hmf, hsource]
      · by_cases hstencil : ∃ g ∈ env.stencils, g.name = m
        · obtain ⟨g, hg, rfl⟩ := hstencil
          have hloaded := hi.loaded f hf _ hnext g hg rfl
          have hloaded' := hi'.loaded f hf' _ hnext' g ((hstencils.files g).mpr hg) rfl
          exact h.lookup_eq_of_file h' ht ht' (.inr hg) (.inr ((hstencils.files g).mpr hg))
            (hstencils.texts g hg) (hloaded'.trans hloaded.symm)
        · -- it is no template of either environment, so nothing is loaded under it
          rw [h.lookup_eq_none, h'.lookup_eq_none]
          · rintro ⟨g, hg | hg, hname⟩
            · exact hmf (hi'.alone f hf' _ hnext' g hg hname)
            · exact hstencil ⟨g, (hstencils.files g).mp hg, hname⟩
          · rintro ⟨g, hg | hg, hname⟩
            · exact hmf (hi.alone f hf _ hnext g hg hname)
            · exact hstencil ⟨g, hg, hname⟩

/-- A template that leads to stencils only renders alike in both environments. -/
theorem render_eq_ok (hglobals : env'.globals = env.globals) {text : Text}
    (hrender : env.render f.name ns o = .ok text) : env'.render f.name ns o = .ok text := by
  have hsame : (env'.render f.name ns o).toOption = (env.render f.name ns o).toOption :=
    h.toOption_render_eq h' ht ht' hglobals (fun n hn =>
      (lookup_of_reaches h h' ht ht' hstencils hi hi' hf hf' hsource hn).2) fun _ _ _ => rfl
  rw [hrender] at hsame
  exact toOption_eq_some_iff.mp hsame

end

end Environment

end TemplateTree
